/-
Module: Stepwise.Json.Parse
Purpose: JSON texts as values.
Main exports: Json.insertMember, Json.readScalar, Json.readValue, Json.readWhole, Json.parse
-/
import Stepwise.Json.Container
import Stepwise.Json.Numeral

namespace Stepwise.Json

/-!
A text may nest at most `depthLimit` brackets.  The depth still allowed is what
the recursion goes down on; the items on one level are read in turns.

The members of an object are kept in ascending order of their keys, by code
points, and a key that is repeated keeps its last value.
-/

/-- The greatest number of brackets that may be open at once. -/
def depthLimit : Nat := 127

/-- The members with one key set, in ascending order of keys. -/
def insertMember (key : String) (value : Json) :
    List (String × Json) → List (String × Json)
  | [] => [(key, value)]
  | (other, old) :: members =>
      if key = other then (key, value) :: members
      else if key < other then (key, value) :: (other, old) :: members
      else (other, old) :: insertMember key value members

/-- Reads a value that is neither a list nor an object. -/
def readScalar : Reader Json
  | [] => .error (.ended .value)
  | c :: rest => do
      if c = 'n' then return (.null, ← readWord ['u', 'l', 'l'] rest)
      else if c = 't' then return (.bool true, ← readWord ['r', 'u', 'e'] rest)
      else if c = 'f' then return (.bool false, ← readWord ['a', 'l', 's', 'e'] rest)
      else if c = '"' then
        let (text, rest) ← readText rest
        return (.str text, rest)
      else if c = '-' || c.isDigit then
        let (number, rest) ← readNumber (c :: rest)
        return (.num number, rest)
      else .error (.malformed .valueMissing)

/-- Reads a member of an object behind its key and sets it among the others. -/
def readMember (inner : Reader Json) (members : List (String × Json)) (key : String) :
    Reader (List (String × Json)) := fun text => do
  let (value, rest) ← inner (← readColon text)
  return (insertMember key value members, rest)

/-- Reads any value inside which the given number of brackets may be open. -/
def readValue : Nat → Reader Json
  | depth, text =>
      match skipSpace text with
      | '[' :: rest =>
          match depth with
          | 0 => .error (.malformed .nestedTooDeep)
          | depth + 1 => do
              let (items, rest) ← readItems (readValue depth) rest
              return (.arr items, rest)
      | '\x7b' :: rest =>
          match depth with
          | 0 => .error (.malformed .nestedTooDeep)
          | depth + 1 => do
              let (members, rest) ← readMembers (readMember (readValue depth)) [] rest
              return (.obj members, rest)
      | text => readScalar text

/-- The result of a reader on a whole text, behind which only space may stand. -/
def readWhole {α : Type} (reader : Reader α) (text : String) : Except Fault α := do
  let (result, rest) ← reader text.toList
  if (skipSpace rest).isEmpty then return result else .error (.malformed .textTrailing)

/-- The value of a text. -/
def parse (text : String) : Except Fault Json :=
  readWhole (readValue depthLimit) text

end Stepwise.Json
