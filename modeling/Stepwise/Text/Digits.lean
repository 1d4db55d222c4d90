/-
Module: Stepwise.Text.Digits
Purpose: Runs of decimal digits and the numbers they spell.
Main exports: sizeLimit, Text.digitsValue?
-/

namespace Stepwise

/-!
Sizes (ordinals, visit ceilings, ceiling factors) are kept as natural numbers.
The only bound the library knows is `sizeLimit`: a size is below it wherever
one is read, and products saturate just under it.  Digits are the ten ASCII
ones; a sign, a space or a digit of another script is not part of a number.
-/

/-- Sizes lie below this limit. -/
def sizeLimit : Nat := Nat.pow 2 64

namespace Text

/-- The number that one or more decimal digits spell, leading zeros included.
Text that is empty or holds any other character spells none. -/
def digitsValue? (digits : List Char) : Option Nat :=
  if digits.isEmpty || !digits.all Char.isDigit then none
  else some (Nat.ofDigitChars 10 digits 0)

end Text

end Stepwise
