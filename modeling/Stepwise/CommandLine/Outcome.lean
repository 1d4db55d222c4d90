/-
Module: Stepwise.CommandLine.Outcome
Purpose: What a call of the program prints and how it ends.
Main exports: CommandLine.Failure, CommandLine.Verdict, CommandLine.judge, CommandLine.execute,
  CommandLine.Outcome, CommandLine.respond
-/
import Stepwise.CommandLine.Arguments
import Stepwise.CommandLine.Directory
import Stepwise.Form.Plan
import Stepwise.Form.Report
import Stepwise.Reachability

namespace Stepwise.CommandLine

/-!
A call reads one text, the prompt or the workflow, and then either prints a
result or fails.  Everything in between is a function of that text and of the
arguments, so the program itself only has to fetch the text and to print.
-/

/-- Where the text of a call comes from. -/
inductive Source where
  | standardInput
  | file (path : String)
deriving Repr, Inhabited, DecidableEq

/-- The source an invocation reads from. -/
def Invocation.source (invocation : Invocation) : Source :=
  match invocation.path with
  | none => .standardInput
  | some path => .file path

/-- Why a call of the program fails. -/
inductive Failure where
  | unreadable (source : Source) (why : ReadFault)
  | notWorkflow (fault : Json.Fault)
  | invalid (fault : WorkflowFault)
  | unevaluated (fault : WorkflowFault)
  | unplanned (fault : WorkflowFault)
deriving Repr, Inhabited

namespace Failure

/-- What failed. -/
def summary : Failure → String
  | .unreadable .standardInput _ => "cannot read stdin"
  | .unreadable (.file path) _ => "cannot read file " ++ path
  | .notWorkflow _ => "invalid workflow JSON"
  | .invalid fault => "validation failed: " ++ fault.message
  | .unevaluated _ => "evaluation failed"
  | .unplanned fault => fault.message

/-- Why it failed, if the summary does not say so already. -/
def cause? : Failure → Option String
  | .unreadable _ why => some why.message
  | .notWorkflow fault => some fault.message
  | .invalid _ => none
  | .unevaluated fault => some fault.message
  | .unplanned (.stepFailed _ fault) => some fault.message
  | .unplanned _ => none

/-- A text with every line indented. -/
def indentLines (text : String) : String :=
  String.ofList (text.toList.flatMap fun c => if c = '\n' then "\n    ".toList else [c])

/-- The report on a failure. -/
def report (failure : Failure) : String :=
  "Error: " ++ failure.summary ++
    match failure.cause? with
    | none => ""
    | some cause => "\n\nCaused by:\n    " ++ indentLines cause

end Failure

/-- A workflow that is valid and can be walked. -/
structure Verdict where
  length : Nat
  reachable : List String
  report : Report
deriving Repr, Inhabited

/-- Validates a workflow and walks it under the reference policies. -/
def judge (ceilingFactor : Nat) (context : Context) (w : Workflow) : Except Failure Verdict := do
  let reachable ← w.validate.mapError .invalid
  let report ← ((Evaluator.reference ceilingFactor).run w context ()).1.mapError .unevaluated
  return {
    length := w.length
    reachable := reachable
    report := report }

/-- The JSON form of a verdict, its members in ascending order. -/
def Verdict.toJson (verdict : Verdict) : Json :=
  .obj
    [("reachable", .ofStrings verdict.reachable),
      ("report",
        .obj
          [("halt", verdict.report.halt.toJson),
            ("reward", .num (.float verdict.report.reward)),
            ("visited", .ofStrings verdict.report.visited)]),
      ("steps", .num (.int verdict.length))]

/-- A plan as text for people. -/
def planText (plan : Plan) : String :=
  "Generated Pseudocode:\n" ++ plan.pseudocode ++ "\nWorkflow Reward: " ++
    Decimal.rewardLayout.write plan.reward ++ "\n"

/-- What an invocation prints for the text it has read. -/
def execute (invocation : Invocation) (text : String) : Except Failure String := do
  match invocation.action with
  | .run =>
      let planner := Planner.reference invocation.ceilingFactor
      let plan ← (planner.plan text invocation.context ()).1.mapError .unplanned
      return if invocation.json then plan.toJson.indented ++ "\n" else planText plan
  | .validate =>
      let w ← (Workflow.decoder.read text).mapError .notWorkflow
      let verdict ← judge invocation.ceilingFactor invocation.context w
      return verdict.toJson.indented ++ "\n"

/-- How a call ends: with a text on standard output, or with a report on
standard error. -/
inductive Outcome where
  | printed (text : String)
  | failed (report : String)
  | misused (message : String)
deriving Repr, Inhabited, DecidableEq

/-- The exit code of an outcome. -/
def Outcome.exitCode : Outcome → Nat
  | .printed _ => 0
  | .failed _ => 1
  | .misused _ => 2

/-- The outcome of an invocation, once its source has been read or not. -/
def Invocation.conclude (invocation : Invocation) (content : Except ReadFault ByteArray) :
    Outcome :=
  let printed := do
    let text ← (content.bind decodeText).mapError (Failure.unreadable invocation.source)
    execute invocation text
  match printed with
  | .error failure => .failed failure.report
  | .ok text => .printed text

/-- What the program does about its arguments: either the outcome is known, or
an invocation has to read its source. -/
def answer (supplied : Option String) (arguments : List String) : Outcome ⊕ Invocation :=
  match parseArguments supplied arguments with
  | .error fault => .inl (.misused fault.message)
  | .ok (.help topic) => .inl (.printed (topic.text supplied))
  | .ok .version => .inl (.printed "autoflow 0.1.0\n")
  | .ok (.invoke invocation) => .inr invocation

/-- What a call meets: its arguments, the ceiling factor in the environment,
standard input and the files of the working directory. -/
structure Call where
  arguments : List String
  supplied : Option String
  standardInput : ByteArray
  directory : Directory

/-- The outcome of a call. -/
def respond (call : Call) : Outcome :=
  match answer call.supplied call.arguments with
  | .inl outcome => outcome
  | .inr invocation =>
      invocation.conclude
        (match invocation.source with
        | .standardInput => .ok call.standardInput
        | .file path => call.directory.read path)

end Stepwise.CommandLine
