/-
Module: Stepwise.CommandLine.Values
Purpose: The values of command-line options.
Main exports: CommandLine.SizeFault, CommandLine.parseSize, CommandLine.EntryFault,
  CommandLine.parseEntry
-/
import Stepwise.Json.Parse

namespace Stepwise.CommandLine

/-!
A size is spelled in decimal digits with an optional plus sign in front.  Its
characters are judged from left to right, so a number that gets too large
before a wrong character is too large, and otherwise the wrong character
counts.

A context entry is a key and a value around the first equals sign.  The value
is JSON if it can be read as JSON, and otherwise the text itself, so an entry
never fails because of its value.
-/

/-- Why a text is no size. -/
inductive SizeFault where
  | empty
  | invalidDigit
  | tooLarge
deriving Repr, Inhabited, DecidableEq

/-- The reason in words. -/
def SizeFault.message : SizeFault → String
  | .empty => "cannot parse integer from empty string"
  | .invalidDigit => "invalid digit found in string"
  | .tooLarge => "number too large to fit in target type"

/-- Continues a size by further digits. -/
def continueSize (size : Nat) : List Char → Except SizeFault Nat
  | [] => .ok size
  | c :: rest =>
      if c.isDigit then
        let next := 10 * size + (c.toNat - '0'.toNat)
        if next < sizeLimit then continueSize next rest else .error .tooLarge
      else .error .invalidDigit

/-- The size that a text spells. -/
def parseSize (text : String) : Except SizeFault Nat :=
  match text.toList with
  | [] => .error .empty
  | ['+'] => .error .invalidDigit
  | '+' :: digits => continueSize 0 digits
  | digits => continueSize 0 digits

/-- The text in front of the first equals sign, and the text behind it if there
is one. -/
def splitAtEquals (text : List Char) : List Char × Option (List Char) :=
  (text.takeWhile fun c => c != '=', (text.dropWhile fun c => c != '=').tail?)

/-- Why a text is no context entry. -/
inductive EntryFault where
  | noEqualsSign
  | emptyKey
deriving Repr, Inhabited, DecidableEq

/-- The reason in words. -/
def EntryFault.message (raw : String) : EntryFault → String
  | .noEqualsSign => "expected KEY=VALUE, got '" ++ raw ++ "'"
  | .emptyKey => "empty key in '" ++ raw ++ "'"

/-- The value that a text stands for. -/
def entryValue (text : String) : Json :=
  match Json.parse text with
  | .ok value => value
  | .error _ => .str text

/-- The context entry that a text spells. -/
def parseEntry (raw : String) : Except EntryFault (String × Json) :=
  match splitAtEquals raw.toList with
  | (_, none) => .error .noEqualsSign
  | (key, some value) =>
      if key.isEmpty then .error .emptyKey
      else .ok (String.ofList key, entryValue (String.ofList value))

end Stepwise.CommandLine
