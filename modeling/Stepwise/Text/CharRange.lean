/-
Module: Stepwise.Text.CharRange
Purpose: Sets of characters given as ranges of code points.
Main exports: Text.CharRange, Text.CharRange.holds, Text.inRanges
-/

namespace Stepwise.Text

/-- The code points from `first` to `last`, both included. -/
structure CharRange where
  first : Nat
  last : Nat
deriving Repr, Inhabited, DecidableEq

/-- Whether a character lies in a range. -/
def CharRange.holds (range : CharRange) (c : Char) : Bool :=
  range.first ≤ c.toNat && c.toNat ≤ range.last

/-- Whether a character lies in one of several ranges. -/
def inRanges (ranges : List CharRange) (c : Char) : Bool :=
  ranges.any fun range => range.holds c

end Stepwise.Text
