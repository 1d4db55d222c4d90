/-
Module: Stepwise.Decimal.Shortest
Purpose: The shortest decimal digits that denote a double.
Main exports: Decimal.Tie, Decimal.Digits, Decimal.shortest
-/
import Stepwise.Decimal.Binary

namespace Stepwise.Decimal

/-!
Every decimal number in the rounding interval of a double reads back as that
double.  The interval reaches half way to the two neighbours, and its ends
belong to it exactly when the significand is even.  The shortest form takes
the coarsest decimal grid with a point in the interval; a grid point is in the
interval only if one of the two grid points around the value is, so only
those two are tested.  If both are inside, the nearer one is taken, and a
`Tie` decides between two equally near ones.

All of this is exact arithmetic.  A magnitude is first scaled to the fraction
`value / unit` of natural numbers, with the interval given by two more
numerators over the same denominator.
-/

/-- Which of two equally near candidates is taken. -/
inductive Tie where
  | toEven
  | up
deriving Repr, Inhabited, DecidableEq

/-- The decimal number `0.d₁d₂d₃… · 10 ^ (point)`, that is, with `point` digits
before the decimal point. -/
structure Digits where
  digits : List Char
  point : Int
deriving Repr, Inhabited, DecidableEq

/-- A value and the ends of its rounding interval over one denominator. -/
structure Interval where
  low : Nat
  value : Nat
  high : Nat
  unit : Nat
  endsIncluded : Bool
deriving Repr, Inhabited, DecidableEq

/-- The rounding interval of a magnitude.  Everything is multiplied by four so
that half and quarter units are whole. -/
def Magnitude.interval (magnitude : Magnitude) : Interval :=
  let scale := Nat.pow 2 magnitude.exponent.toNat
  { low := (4 * magnitude.significand - if magnitude.narrowBelow then 1 else 2) * scale
    value := 4 * magnitude.significand * scale
    high := (4 * magnitude.significand + 2) * scale
    unit := 4 * Nat.pow 2 (-magnitude.exponent).toNat
    endsIncluded := magnitude.significand % 2 == 0 }

/-- The number of digits before the decimal point, zero or negative for values
below one tenth: the `point` of the value. -/
def Interval.point (interval : Interval) : Int :=
  ((interval.value * Nat.pow 10 343 / interval.unit).repr.length : Int) - 343

/-- The interval measured in units of `10 ^ power`. -/
def Interval.inUnitsOf (interval : Interval) (power : Int) : Interval :=
  let numerator := Nat.pow 10 (-power).toNat
  { interval with
    low := interval.low * numerator
    value := interval.value * numerator
    high := interval.high * numerator
    unit := interval.unit * Nat.pow 10 power.toNat }

/-- Whether a whole number lies in the interval. -/
def Interval.holds (interval : Interval) (candidate : Nat) : Bool :=
  let scaled := candidate * interval.unit
  if interval.endsIncluded then interval.low ≤ scaled && scaled ≤ interval.high
  else interval.low < scaled && scaled < interval.high

/-- The whole number in the interval that is nearest to the value. -/
def Interval.nearest? (tie : Tie) (interval : Interval) : Option Nat :=
  let below := interval.value / interval.unit
  match interval.holds below, interval.holds (below + 1) with
  | false, false => none
  | true, false => some below
  | false, true => some (below + 1)
  | true, true =>
      let twice := 2 * (interval.value % interval.unit)
      if twice < interval.unit then some below
      else if interval.unit < twice then some (below + 1)
      else
        match tie with
        | .up => some (below + 1)
        | .toEven => some (if below % 2 = 0 then below else below + 1)

/-- The digits of a whole number of units `10 ^ power`, without the zeros at
their end. -/
def Digits.ofUnits (count : Nat) (power : Int) : Digits :=
  let digits := Nat.toDigits 10 count
  { digits := (digits.reverse.dropWhile fun digit => digit == '0').reverse
    point := power + digits.length }

/-- The shortest digits of a positive magnitude.  Seventeen digits always are
enough. -/
def shortest (tie : Tie) (magnitude : Magnitude) : Digits :=
  let interval := magnitude.interval
  let point := interval.point
  let found := (List.range 17).findSome? fun length =>
    let power := point - (length + 1 : Nat)
    ((interval.inUnitsOf power).nearest? tie).map fun count => Digits.ofUnits count power
  found.getD { digits := [], point := 0 }

end Stepwise.Decimal
