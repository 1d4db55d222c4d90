/-
Module: Stepwise.Json.Value
Purpose: JSON values and their equality.
Main exports: Json.Number, Json, Json.same
-/

namespace Stepwise

/-!
A number is either an integer or a double, and the two never equal each other:
`1` and `1.0` are different values.  Doubles are compared as numbers, so the
two zeros are equal.  The members of an object are a list; the reader and the
writers say in which order.
-/

/-- A JSON number. -/
inductive Json.Number where
  | int (value : Int)
  | float (value : Float)
deriving Repr, Inhabited

/-- A JSON value. -/
inductive Json where
  | null
  | bool (value : Bool)
  | num (value : Json.Number)
  | str (value : String)
  | arr (items : List Json)
  | obj (members : List (String × Json))
deriving Repr, Inhabited

namespace Json

/-- Equality of numbers. -/
def Number.same : Number → Number → Bool
  | .int a, .int b => a == b
  | .float a, .float b => a == b
  | _, _ => false

mutual

/-- Equality of values whose objects list their members in the same order. -/
def same : Json → Json → Bool
  | .null, .null => true
  | .bool a, .bool b => a == b
  | .num a, .num b => a.same b
  | .str a, .str b => a == b
  | .arr as, .arr bs => sameItems as bs
  | .obj as, .obj bs => sameMembers as bs
  | _, _ => false

/-- Equality of lists of values. -/
def sameItems : List Json → List Json → Bool
  | [], [] => true
  | a :: as, b :: bs => same a b && sameItems as bs
  | _, _ => false

/-- Equality of lists of members. -/
def sameMembers : List (String × Json) → List (String × Json) → Bool
  | [], [] => true
  | (k, a) :: as, (l, b) :: bs => k == l && same a b && sameMembers as bs
  | _, _ => false

end

/-- The member of an object with the given key. -/
def member? (value : Json) (key : String) : Option Json :=
  match value with
  | .obj members => members.lookup key
  | _ => none

end Json

end Stepwise
