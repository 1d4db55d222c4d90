/-
Module: Stepwise.Decimal.Layout
Purpose: Decimal texts of doubles.
Main exports: Decimal.Layout, Decimal.Layout.write
-/
import Stepwise.Decimal.Shortest

namespace Stepwise.Decimal

/-!
A layout says how the shortest digits of a double are set: up to which sizes
they are written out around a decimal point, whether whole numbers end in
`.0`, how a scientific exponent looks, and which texts stand for the values
that are no numbers.
-/

/-- The choices that make a decimal text out of digits. -/
structure Layout where
  tie : Tie
  /-- The decimal exponents of the first digit that are written positionally. -/
  positional : Int → Bool
  /-- What a positional whole number ends in. -/
  wholeEnd : String
  nan : String
  infinite : String
  negativeInfinite : String

namespace Layout

/-- The digits set around a decimal point. -/
def positionalText (layout : Layout) (digits : Digits) : String :=
  let count : Int := digits.digits.length
  if digits.point ≤ 0 then
    "0." ++ String.ofList (List.replicate (-digits.point).toNat '0' ++ digits.digits)
  else if digits.point < count then
    String.ofList (digits.digits.take digits.point.toNat) ++ "." ++
      String.ofList (digits.digits.drop digits.point.toNat)
  else
    String.ofList (digits.digits ++ List.replicate (digits.point - count).toNat '0') ++
      layout.wholeEnd

/-- The digits with the point behind the first one, and the signed exponent. -/
def scientificText (digits : Digits) : String :=
  let exponent := digits.point - 1
  let sign := if exponent < 0 then "-" else "+"
  let fraction :=
    match digits.digits.drop 1 with
    | [] => ""
    | rest => "." ++ String.ofList rest
  String.ofList (digits.digits.take 1) ++ fraction ++ "e" ++ sign ++ exponent.natAbs.repr

/-- The decimal text of a double. -/
def write (layout : Layout) (value : Float) : String :=
  let bits := value.toBits
  let sign := if isNegative bits then "-" else ""
  match classify bits with
  | .nan => layout.nan
  | .infinite => if isNegative bits then layout.negativeInfinite else layout.infinite
  | .zero => sign ++ "0" ++ layout.wholeEnd
  | .finite magnitude =>
      let digits := shortest layout.tie magnitude
      sign ++
        if layout.positional (digits.point - 1) then layout.positionalText digits
        else scientificText digits

end Layout

/-- Rewards on a line of their own: never an exponent, and whole numbers
without a decimal point. -/
def rewardLayout : Layout :=
  { tie := .up
    positional := fun _ => true
    wholeEnd := ""
    nan := "NaN"
    infinite := "inf"
    negativeInfinite := "-inf" }

end Stepwise.Decimal
