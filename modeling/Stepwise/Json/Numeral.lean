/-
Module: Stepwise.Json.Numeral
Purpose: Numbers read from their JSON form.
Main exports: Json.Numeral, Json.scanNumeral, Json.Numeral.value?, Json.readNumber, Json.skipNumber
-/
import Stepwise.Json.Reader
import Stepwise.Text.Digits

namespace Stepwise.Json

/-!
A number is first scanned into its parts by the grammar alone, and then its
value is worked out.  Skipped numbers are only scanned.

A numeral without fraction and exponent is an integer as long as it lies
between `-2 ^ 63` and `2 ^ 64 - 1`; `-0` is the double minus zero.  All other
numerals are doubles.  Their digits are taken into a significand below
`2 ^ 64`: once the next digit of the whole part does not fit, the rest of that
part only counts towards the exponent, and once the next digit of the fraction
does not fit, the rest of the fraction is dropped.  The significand is rounded
to a double and then multiplied or divided by one power of ten, which is
rounded too, so the result is not always the double nearest to the numeral.
-/

/-- The parts of a number as they are spelled. -/
structure Numeral where
  negative : Bool
  whole : List Char
  fraction : List Char
  exponent : Option Int
deriving Repr, Inhabited, DecidableEq

/-- Why a number cannot be scanned: a digit is missing at the end of the text,
or something else stands in its place. -/
inductive NumeralFault where
  | atEnd
  | wrongCharacter
deriving Repr, Inhabited, DecidableEq

/-- The digits at the front of a text, at least one. -/
def scanDigits (text : List Char) : Except NumeralFault (List Char × List Char) :=
  match text.takeWhile Char.isDigit with
  | [] => .error (if text.isEmpty then .atEnd else .wrongCharacter)
  | digits => .ok (digits, text.dropWhile Char.isDigit)

/-- The digits before the point; only zero itself starts with a zero. -/
def scanWhole (text : List Char) : Except NumeralFault (List Char × List Char) := do
  match ← scanDigits text with
  | ('0' :: _ :: _, _) => .error .wrongCharacter
  | scanned => return scanned

/-- The digits behind the point, if there is one. -/
def scanFraction : List Char → Except NumeralFault (List Char × List Char)
  | '.' :: rest => scanDigits rest
  | text => .ok ([], text)

/-- A sign at the front of a text: whether it is a minus, and the rest. -/
def scanSign : List Char → Bool × List Char
  | '-' :: rest => (true, rest)
  | '+' :: rest => (false, rest)
  | text => (false, text)

/-- The exponent, if there is one. -/
def scanExponent : List Char → Except NumeralFault (Option Int × List Char)
  | [] => .ok (none, [])
  | c :: rest =>
      if c = 'e' || c = 'E' then do
        let (negative, rest) := scanSign rest
        let (digits, rest) ← scanDigits rest
        let size : Int := Nat.ofDigitChars 10 digits 0
        return (some (if negative then -size else size), rest)
      else .ok (none, c :: rest)

/-- Scans the unsigned number at the front of a text. -/
def scanUnsigned (negative : Bool) (text : List Char) :
    Except NumeralFault (Numeral × List Char) := do
  let (whole, text) ← scanWhole text
  let (fraction, text) ← scanFraction text
  let (exponent, rest) ← scanExponent text
  let numeral : Numeral :=
    { negative := negative
      whole := whole
      fraction := fraction
      exponent := exponent }
  return (numeral, rest)

/-- Scans the number at the front of a text. -/
def scanNumeral : List Char → Except NumeralFault (Numeral × List Char)
  | '-' :: rest => scanUnsigned true rest
  | text => scanUnsigned false text

/-- Takes digits into a significand as long as it stays below `sizeLimit`.
Gives the significand and the digits that were left out. -/
def takeDigits : Nat → List Char → Nat × List Char
  | significand, [] => (significand, [])
  | significand, digit :: digits =>
      let next := 10 * significand + (digit.toNat - '0'.toNat)
      if next < sizeLimit then takeDigits next digits else (significand, digit :: digits)

/-- The double nearest to a power of ten. -/
def powerOfTen (exponent : Nat) : Float :=
  Float.ofScientific 1 false exponent

/-- A double moved by a power of ten, or nothing when it gets too large. -/
def scaleByTen (value : Float) (exponent : Int) : Option Float :=
  if 308 < exponent then
    if value == 0.0 then some value else none
  else if 0 ≤ exponent then
    let scaled := value * powerOfTen exponent.toNat
    if scaled.isInf then none else some scaled
  else if -308 ≤ exponent then some (value / powerOfTen (-exponent).toNat)
  else if -616 ≤ exponent then
    some (value / powerOfTen 308 / powerOfTen (-exponent - 308).toNat)
  else some 0.0

namespace Numeral

/-- The significand of a numeral and its exponent apart from the spelled one. -/
def significand (numeral : Numeral) : Nat × Int :=
  let (whole, left) := takeDigits 0 numeral.whole
  let (all, dropped) := takeDigits whole numeral.fraction
  (all, (left.length : Int) - (numeral.fraction.length - dropped.length))

/-- The integer a numeral stands for, if it stands for one. -/
def integer? (numeral : Numeral) : Option Int :=
  if numeral.fraction.isEmpty && numeral.exponent.isNone then
    let size := Nat.ofDigitChars 10 numeral.whole 0
    if numeral.negative then
      if 1 ≤ size ∧ size ≤ Nat.pow 2 63 then some (-(size : Int)) else none
    else if size < sizeLimit then some size
    else none
  else none

/-- The double a numeral stands for, unless it is too large. -/
def float? (numeral : Numeral) : Option Float :=
  let (significand, shift) := numeral.significand
  match scaleByTen significand.toUInt64.toFloat (shift + numeral.exponent.getD 0) with
  | none => none
  | some size => some (if numeral.negative then -size else size)

/-- The number a numeral stands for, unless it is too large. -/
def value? (numeral : Numeral) : Option Number :=
  match numeral.integer? with
  | some value => some (.int value)
  | none => numeral.float?.map .float

end Numeral

/-- Reads a number. -/
def readNumber : Reader Number := fun text =>
  match scanNumeral text with
  | .error .atEnd => .error (.ended .value)
  | .error .wrongCharacter => .error (.malformed .numberMalformed)
  | .ok (numeral, rest) =>
      match numeral.value? with
      | none => .error (.malformed .numberTooLarge)
      | some number => .ok (number, rest)

/-- Passes over a number, whatever its size. -/
def skipNumber (text : List Char) : Except Fault (List Char) :=
  match scanNumeral text with
  | .error _ => .error (.malformed .numberMalformed)
  | .ok (_, rest) => .ok rest

/-- A number as a double. -/
def Number.toFloat : Number → Float
  | .int value =>
      let size := value.natAbs.toUInt64.toFloat
      if value < 0 then -size else size
  | .float value => value

end Stepwise.Json
