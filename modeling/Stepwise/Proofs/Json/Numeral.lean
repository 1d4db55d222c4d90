/-
Module: Stepwise.Proofs.Json.Numeral
Purpose: Integers are read back from their written form.
Main exports: Json.Number.Exact, Json.Whole, Json.scanWhole_append, Json.scanUnsigned_toDigits,
  Json.readNumber_write
-/
import Stepwise.Json.Numeral
import Stepwise.Proofs.Json.Container
import Stepwise.Proofs.Text.Digits

namespace Stepwise.Json

/-!
An integer is written with its digits alone, without leading zeros, a point or
an exponent.  The scanner therefore finds all of them in the whole part, as
long as the text behind them does not go on like a number, and the numeral is
an integer again if it lies in the range of those.
-/

/-- The numbers that come back from their text: the integers in the range of
numerals. -/
def Number.Exact : Number → Prop
  | .int value => -(Nat.pow 2 63 : Nat) ≤ value ∧ value < sizeLimit
  | .float _ => False

instance (number : Number) : Decidable number.Exact :=
  match number with
  | .int value => inferInstanceAs (Decidable (-(Nat.pow 2 63 : Nat) ≤ value ∧ value < sizeLimit))
  | .float _ => inferInstanceAs (Decidable False)

theorem toDigits_eq_cons (number : Nat) :
    ∃ digit digits, Nat.toDigits 10 number = digit :: digits ∧ digit.isDigit = true := by
  obtain ⟨digit, digits, split⟩ := List.exists_cons_of_ne_nil (Nat.toDigits_ne_nil (b := 10))
  have first : digit ∈ Nat.toDigits 10 number := by
    rw [split]
    exact List.mem_cons_self
  exact ⟨digit, digits, split, Text.isDigit_of_mem_toDigits first⟩

theorem Ended.stops {rest : List Char} (ended : Ended rest) :
    ∀ c ∈ rest.head?, c.isDigit = false :=
  fun c leads => (ended c leads).1

theorem scanDigits_append {digits rest : List Char} (some_digits : digits ≠ [])
    (only_digits : ∀ c ∈ digits, c.isDigit = true)
    (stops : ∀ c ∈ rest.head?, c.isDigit = false) :
    scanDigits (digits ++ rest) = .ok (digits, rest) := by
  have ends : rest.takeWhile Char.isDigit = [] ∧ rest.dropWhile Char.isDigit = rest := by
    cases rest with
    | nil => simp
    | cons c rest => simp [stops c rfl]
  unfold scanDigits
  rw [List.takeWhile_append_of_pos only_digits, List.dropWhile_append_of_pos only_digits, ends.1,
    ends.2, List.append_nil]
  split
  · contradiction
  · rfl

/-- Digits that may stand in front of the point: if the first one is a zero, there is
no other. -/
structure Whole (digits : List Char) : Prop where
  some_digits : digits ≠ []
  only_digits : ∀ c ∈ digits, c.isDigit = true
  zero_alone : digits.head? = some '0' → digits = ['0']

theorem whole_toDigits (number : Nat) : Whole (Nat.toDigits 10 number) where
  some_digits := Nat.toDigits_ne_nil
  only_digits _ := Text.isDigit_of_mem_toDigits
  zero_alone leads := by
    rw [Text.eq_zero_of_head_toDigits leads]
    rfl

theorem scanWhole_append {digits rest : List Char} (whole : Whole digits)
    (stops : ∀ c ∈ rest.head?, c.isDigit = false) :
    scanWhole (digits ++ rest) = .ok (digits, rest) := by
  have scanned := scanDigits_append whole.some_digits whole.only_digits stops
  simp only [scanWhole, scanned, bind, Except.bind]
  split
  next second others _ leads =>
    simp only [Prod.mk.injEq] at leads
    have alone := whole.zero_alone (by rw [leads.1]; rfl)
    rw [leads.1] at alone
    simp at alone
  · rfl

theorem scanFraction_of_ended {rest : List Char} (ended : Ended rest) :
    scanFraction rest = .ok ([], rest) := by
  unfold scanFraction
  split
  · exact absurd rfl (ended '.' rfl).2.1
  · rfl

theorem scanExponent_of_ended {rest : List Char} (ended : Ended rest) :
    scanExponent rest = .ok (none, rest) := by
  cases rest with
  | nil => rfl
  | cons c rest => simp [scanExponent, (ended c rfl).2.2]

/-- The numeral of an integer. -/
def Numeral.ofInt (value : Int) : Numeral :=
  { negative := value < 0
    whole := Nat.toDigits 10 value.natAbs
    fraction := []
    exponent := none }

theorem scanUnsigned_toDigits (negative : Bool) (number : Nat) {rest : List Char}
    (ended : Ended rest) :
    scanUnsigned negative (Nat.toDigits 10 number ++ rest) =
      .ok (⟨negative, Nat.toDigits 10 number, [], none⟩, rest) := by
  simp [scanUnsigned, scanWhole_append (whole_toDigits number) ended.stops,
    scanFraction_of_ended ended, scanExponent_of_ended ended, pure, Except.pure, bind, Except.bind]

/-- A written integer opens with a minus or a digit. -/
theorem repr_eq_cons (value : Int) :
    ∃ c tail, value.repr.toList = c :: tail ∧ (c = '-' ∨ c.isDigit = true) := by
  cases value with
  | ofNat number =>
      obtain ⟨digit, digits, opening, is_digit⟩ := toDigits_eq_cons number
      exact ⟨digit, digits, by rw [Int.repr, Nat.toList_repr, opening], .inr is_digit⟩
  | negSucc number => exact ⟨'-', Nat.toDigits 10 number.succ, by simp [Int.repr], .inl rfl⟩

theorem scanNumeral_repr (value : Int) {rest : List Char} (ended : Ended rest) :
    scanNumeral (value.repr.toList ++ rest) = .ok (Numeral.ofInt value, rest) := by
  cases value with
  | ofNat number =>
      obtain ⟨digit, digits, opening, is_digit⟩ := toDigits_eq_cons number
      have unsigned : scanNumeral (Nat.toDigits 10 number ++ rest) =
          scanUnsigned false (Nat.toDigits 10 number ++ rest) := by
        rw [opening, List.cons_append, scanNumeral]
        rintro _ ⟨rfl, _⟩
        exact absurd is_digit (by decide)
      rw [Int.repr, Nat.toList_repr, unsigned, scanUnsigned_toDigits false number ended]
      simp [Numeral.ofInt]
  | negSucc number =>
      simp [Int.repr, scanNumeral, scanUnsigned_toDigits true _ ended, Numeral.ofInt]

/-- A numeral of an integer in the range stands for that integer. -/
theorem Numeral.integer?_ofInt {value : Int} (exact : (Number.int value).Exact) :
    (Numeral.ofInt value).integer? = some value := by
  obtain ⟨low, high⟩ := exact
  have limits : Nat.pow 2 63 = 9223372036854775808 ∧ sizeLimit = 18446744073709551616 := by decide
  by_cases negative : value < 0
  · have inside : 1 ≤ value.natAbs ∧ value.natAbs ≤ Nat.pow 2 63 := by omega
    have size : -(value.natAbs : Int) = value := by omega
    simp only [integer?, ofInt, Nat.ofDigitChars_ten_toDigits, negative, inside, size,
      List.isEmpty_nil, Option.isNone_none, Bool.and_self, decide_true, and_self, if_true]
  · have inside : value.natAbs < sizeLimit := by omega
    have size : (value.natAbs : Int) = value := by omega
    simp only [integer?, ofInt, Nat.ofDigitChars_ten_toDigits, negative, inside, size,
      List.isEmpty_nil, Option.isNone_none, Bool.and_self, decide_false, Bool.false_eq_true,
      if_true, if_false]

/-- A written integer is read as itself. -/
theorem readNumber_write {value : Int} (exact : (Number.int value).Exact) {rest : List Char}
    (ended : Ended rest) :
    readNumber ((Number.int value).write.toList ++ rest) = .ok (.int value, rest) := by
  simp [readNumber, Number.write, scanNumeral_repr value ended, Numeral.value?,
    Numeral.integer?_ofInt exact]

end Stepwise.Json
