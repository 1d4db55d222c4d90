/-
Module: Stepwise.Step.Name
Purpose: Positional step names and the ordinals they stand for.
Main exports: Step.nameOf, Step.ordinal?
-/
import Stepwise.Step
import Stepwise.Text.Digits

namespace Stepwise.Step

/-!
The step at index `i` of a well-formed workflow is called `step_<i+1>`.
Writing a name is canonical.  Reading one is slightly more generous: leading
zeros are allowed, so several references may mean the same ordinal, but the
ordinal has to be a size.
-/

/-- What every positional name starts with. -/
def stem : List Char := ['s', 't', 'e', 'p', '_']

/-- The name of the step at `ordinal`, counted from one. -/
def nameOf (ordinal : Nat) : String :=
  String.ofList (stem ++ Nat.toDigits 10 ordinal)

/-- The ordinal that `reference` spells: the stem, then decimal digits and
nothing else, with a value below `sizeLimit`. -/
def ordinal? (reference : String) : Option Nat :=
  if stem.isPrefixOf reference.toList then
    (Text.digitsValue? (reference.toList.drop stem.length)).filter (· < sizeLimit)
  else none

end Stepwise.Step
