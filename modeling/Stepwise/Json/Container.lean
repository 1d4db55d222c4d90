/-
Module: Stepwise.Json.Container
Purpose: Reading the items of lists and the members of objects.
Main exports: Json.readItems, Json.readMembers
-/
import Stepwise.Json.Unescape

namespace Stepwise.Json

/-!
Both readers start behind the opening bracket and end behind the closing one.
What an item or a member means is up to the caller: an item is read by a
reader, and a member by one that is told the key and what the members before
it have come to.
-/

/-- One turn of a list: the items read so far are given backwards. -/
def itemTurn {α : Type} (item : Reader α) (read : List α) (text : List Char) :
    Except Fault (Turn (List α) (List α)) := do
  match ← nextItem read.isEmpty text with
  | .close rest => return .done read.reverse rest
  | .part rest =>
      let (value, rest) ← item rest
      return .again (value :: read) rest

/-- Reads the items of a list. -/
def readItems {α : Type} (item : Reader α) : Reader (List α) :=
  repeatTurns (itemTurn item) []

/-- One turn of an object: the flag says whether no member has been read. -/
def memberTurn {σ : Type} (member : σ → String → Reader σ) (state : Bool × σ)
    (text : List Char) : Except Fault (Turn (Bool × σ) σ) := do
  match ← nextKey state.1 text with
  | .close rest => return .done state.2 rest
  | .part rest =>
      let (key, rest) ← readText rest
      let (next, rest) ← member state.2 key rest
      return .again (false, next) rest

/-- Reads the members of an object.  The reader of a member starts behind its
key. -/
def readMembers {σ : Type} (member : σ → String → Reader σ) (start : σ) : Reader σ :=
  repeatTurns (memberTurn member) (true, start)

end Stepwise.Json
