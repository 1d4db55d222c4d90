/-
Module: Stepwise.Json.Unescape
Purpose: Strings read from their JSON form.
Main exports: Json.readText, Json.skipText
-/
import Stepwise.Json.Reader

namespace Stepwise.Json

/-!
Both readers start behind the opening quote and end behind the closing one.
`readText` gives the text the string stands for; there an escape of a high
surrogate must be followed by the escape of a low one, because a text has no
lone surrogates.  `skipText` only checks the spelling, so it lets every four
hexadecimal digits pass.
-/

/-- The value of a hexadecimal digit of either case. -/
def hexValue? (c : Char) : Option Nat :=
  if '0' ≤ c ∧ c ≤ '9' then some (c.toNat - 48)
  else if 'a' ≤ c ∧ c ≤ 'f' then some (c.toNat - 87)
  else if 'A' ≤ c ∧ c ≤ 'F' then some (c.toNat - 55)
  else none

/-- The value of four hexadecimal digits. -/
def hexUnit? (a b c d : Char) : Option Nat :=
  match hexValue? a, hexValue? b, hexValue? c, hexValue? d with
  | some a, some b, some c, some d => some (((a * 16 + b) * 16 + c) * 16 + d)
  | _, _, _, _ => none

/-- The character that a letter stands for behind a backslash. -/
def letterEscape? (c : Char) : Option Char :=
  if c = '"' || c = '\\' || c = '/' then some c
  else if c = 'b' then some '\x08'
  else if c = 'f' then some '\x0c'
  else if c = 'n' then some '\n'
  else if c = 'r' then some '\r'
  else if c = 't' then some '\t'
  else none

/-- Whether a unit opens a surrogate pair. -/
def isHighSurrogate (unit : Nat) : Bool :=
  0xD800 ≤ unit && unit ≤ 0xDBFF

/-- Whether a unit closes a surrogate pair. -/
def isLowSurrogate (unit : Nat) : Bool :=
  0xDC00 ≤ unit && unit ≤ 0xDFFF

/-- The character of a surrogate pair. -/
def pairChar (high low : Nat) : Char :=
  Char.ofNat (0x10000 + (high - 0xD800) * 0x400 + (low - 0xDC00))

/-- What is wrong where four hexadecimal digits are wanted and fewer than four
characters are left.  The end of the text comes first unless the characters
take four bytes by themselves. -/
def shortUnit (left : List Char) : Fault :=
  if (String.ofList left).utf8ByteSize < 4 then .ended .string else .malformed .escapeUnknown

/-- What is wrong behind a high surrogate that no complete escape follows. -/
def brokenPair : List Char → Fault
  | [] | ['\\'] => .ended .string
  | '\\' :: 'u' :: left => shortUnit left
  | _ => .malformed .surrogatePairBroken

/-- Reads a string behind its opening quote, after the characters given
backwards. -/
def readTextAfter (read : List Char) : Reader (List Char)
  | [] => .error (.ended .string)
  | '"' :: rest => .ok (read.reverse, rest)
  | '\\' :: [] => .error (.ended .string)
  | '\\' :: 'u' :: a :: b :: c :: d :: rest =>
      match hexUnit? a b c d with
      | none => .error (.malformed .escapeUnknown)
      | some unit =>
          if isLowSurrogate unit then .error (.malformed .surrogateUnpaired)
          else if isHighSurrogate unit then
            match rest with
            | '\\' :: 'u' :: a :: b :: c :: d :: rest =>
                match hexUnit? a b c d with
                | none => .error (.malformed .escapeUnknown)
                | some low =>
                    if isLowSurrogate low then readTextAfter (pairChar unit low :: read) rest
                    else .error (.malformed .surrogateUnpaired)
            | rest => .error (brokenPair rest)
          else readTextAfter (Char.ofNat unit :: read) rest
  | '\\' :: 'u' :: left => .error (shortUnit left)
  | '\\' :: letter :: rest =>
      match letterEscape? letter with
      | some c => readTextAfter (c :: read) rest
      | none => .error (.malformed .escapeUnknown)
  | c :: rest =>
      if c.toNat < 0x20 then .error (.malformed .controlCharacter)
      else readTextAfter (c :: read) rest

/-- Reads a string behind its opening quote. -/
def readText : Reader String := fun text => do
  let (read, rest) ← readTextAfter [] text
  return (String.ofList read, rest)

/-- Passes over a string behind its opening quote. -/
def skipText : List Char → Except Fault (List Char)
  | [] => .error (.ended .string)
  | '"' :: rest => .ok rest
  | '\\' :: [] => .error (.ended .string)
  | '\\' :: 'u' :: a :: b :: c :: d :: rest =>
      match hexUnit? a b c d with
      | none => .error (.malformed .escapeUnknown)
      | some _ => skipText rest
  | '\\' :: 'u' :: left => .error (shortUnit left)
  | '\\' :: letter :: rest =>
      match letterEscape? letter with
      | some _ => skipText rest
      | none => .error (.malformed .escapeUnknown)
  | c :: rest =>
      if c.toNat < 0x20 then .error (.malformed .controlCharacter) else skipText rest

end Stepwise.Json
