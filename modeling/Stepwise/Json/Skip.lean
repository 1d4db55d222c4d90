/-
Module: Stepwise.Json.Skip
Purpose: Passing over values that nobody wants.
Main exports: Json.Bracket, Json.skipValue
-/
import Stepwise.Json.Numeral
import Stepwise.Json.Unescape

namespace Stepwise.Json

/-!
A value that is not wanted is still checked, but only as far as its grammar
goes, and without recursion: the brackets that are open are kept in a list, so
such a value may nest to any depth.  One turn passes over a scalar or an opening
bracket, then over all the closing brackets behind it, and then over the comma
and the key in front of the next value.
-/

/-- A kind of container that is open. -/
inductive Bracket where
  | list
  | object
deriving Repr, Inhabited, DecidableEq

namespace Bracket

/-- The character that closes a container. -/
def closing : Bracket → Char
  | .list => ']'
  | .object => '\x7d'

/-- The fault of a text that ends inside a container. -/
def ending : Bracket → Ending
  | .list => .list
  | .object => .object

/-- The fault of an item that neither a comma nor the closing bracket
follows. -/
def commaMissing : Bracket → Defect
  | .list => .listCommaMissing
  | .object => .objectCommaMissing

end Bracket

/-- Passes over a key and its colon. -/
def skipKey (text : List Char) : Except Fault (List Char) :=
  match skipSpace text with
  | [] => .error (.ended .object)
  | c :: rest => do
      if c = '"' then readColon (← skipText rest) else .error (.malformed .keyNotText)

/-- Passes over what stands in front of the next value of the innermost open
container. -/
def approachValue (innermost : Bracket) (outer : List Bracket) (text : List Char) :
    Except Fault (Turn (List Bracket) Unit) := do
  match innermost with
  | .list => return .again (.list :: outer) text
  | .object => return .again (.object :: outer) (← skipKey text)

/-- Passes over closing brackets and, if a container stays open, up to its next
value.  The flag says whether a value has just been passed, so that a comma may
follow. -/
def closeBrackets : Bool → List Bracket → List Char → Except Fault (Turn (List Bracket) Unit)
  | _, [], text => .ok (.done () text)
  | passed, innermost :: outer, text =>
      match skipSpace text with
      | [] => .error (.ended innermost.ending)
      | c :: rest =>
          if c = innermost.closing then closeBrackets true outer rest
          else if passed then
            if c = ',' then approachValue innermost outer rest
            else .error (.malformed innermost.commaMissing)
          else approachValue innermost outer (c :: rest)

/-- Passes over a value that is neither a list nor an object. -/
def skipScalar : List Char → Except Fault (List Char)
  | [] => .error (.ended .value)
  | c :: rest =>
      if c = 'n' then readWord ['u', 'l', 'l'] rest
      else if c = 't' then readWord ['r', 'u', 'e'] rest
      else if c = 'f' then readWord ['a', 'l', 's', 'e'] rest
      else if c = '"' then skipText rest
      else if c = '-' || c.isDigit then skipNumber (c :: rest)
      else .error (.malformed .valueMissing)

/-- One turn of skipping, inside the containers that are open. -/
def skipTurn (brackets : List Bracket) (text : List Char) :
    Except Fault (Turn (List Bracket) Unit) :=
  match skipSpace text with
  | '[' :: rest => closeBrackets false (.list :: brackets) rest
  | '\x7b' :: rest => closeBrackets false (.object :: brackets) rest
  | text => do closeBrackets true brackets (← skipScalar text)

/-- Passes over any value. -/
def skipValue (text : List Char) : Except Fault (List Char) := do
  let ((), rest) ← repeatTurns skipTurn [] text
  return rest

end Stepwise.Json
