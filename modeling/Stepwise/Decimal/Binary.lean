/-
Module: Stepwise.Decimal.Binary
Purpose: Doubles as signs, significands and powers of two.
Main exports: Decimal.Magnitude, Decimal.Class, Decimal.classify
-/

namespace Stepwise.Decimal

/-!
A finite double is `± m · 2 ^ q` with natural `m` below `2 ^ 53`.  The
neighbour below lies half as far away as the one above exactly where `m` is
the least normal significand and a smaller exponent exists, and this is all
that the decimal forms need to know about the binary format.
-/

/-- A positive finite magnitude `significand · 2 ^ exponent`. -/
structure Magnitude where
  significand : Nat
  exponent : Int
  /-- Whether the next smaller double is only half a unit away. -/
  narrowBelow : Bool
deriving Repr, Inhabited, DecidableEq

/-- What a double stands for. -/
inductive Class where
  | nan
  | infinite
  | zero
  | finite (magnitude : Magnitude)
deriving Repr, Inhabited, DecidableEq

/-- Whether the sign bit of a double is set. -/
def isNegative (bits : UInt64) : Bool :=
  bits.toNat / Nat.pow 2 63 == 1

/-- What the bits of a double stand for, apart from the sign. -/
def classify (bits : UInt64) : Class :=
  let biased : Nat := bits.toNat / Nat.pow 2 52 % Nat.pow 2 11
  let fraction : Nat := bits.toNat % Nat.pow 2 52
  if biased = 2047 then
    if fraction = 0 then .infinite else .nan
  else if biased = 0 then
    if fraction = 0 then .zero
    else
      .finite
        { significand := fraction
          exponent := -1074
          narrowBelow := false }
  else
    .finite
      { significand := Nat.pow 2 52 + fraction
        exponent := (biased : Int) - 1075
        narrowBelow := fraction == 0 && biased != 1 }

end Stepwise.Decimal
