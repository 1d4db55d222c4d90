/-
Module: Stepwise.Main
Purpose: The program.
Main exports: main
-/
import Stepwise.CommandLine.Outcome

open Stepwise.CommandLine

/-- Whether the system gave a code, which may come negated. -/
def isCode (expected code : UInt32) : Bool :=
  code == expected || code == 0 - expected

/-- Why the system refused to read. -/
def readFaultOf (error : IO.Error) : ReadFault :=
  match error with
  | .noFileOrDirectory .. => .notFound
  | .inappropriateType _ code _ => if isCode 21 code then .isDirectory else .notDirectory
  | .invalidArgument _ code _ => if isCode 36 code then .nameTooLong else .other (toString error)
  | error => .other (toString error)

/-- The bytes of a source. -/
def fetch (source : Source) : IO (Except ReadFault ByteArray) := do
  try
    match source with
    | .standardInput => return .ok (← (← IO.getStdin).readBinToEnd)
    | .file path =>
        return .ok (← IO.FS.readBinFile path)
  catch error => return .error (readFaultOf error)

/-- Prints an outcome and gives its exit code. -/
def conclude (outcome : Outcome) : IO UInt32 := do
  match outcome with
  | .printed text => (← IO.getStdout).putStr text
  | .failed report => (← IO.getStderr).putStr (report ++ "\n")
  | .misused message => (← IO.getStderr).putStr (message ++ "\n")
  return outcome.exitCode.toUInt32

/-- Answers the arguments, reading a source where they ask for it. -/
def main (arguments : List String) : IO UInt32 := do
  match answer (← IO.getEnv "AUTOFLOW_CEILING_FACTOR") arguments with
  | .inl outcome => conclude outcome
  | .inr invocation => conclude (invocation.conclude (← fetch invocation.source))
