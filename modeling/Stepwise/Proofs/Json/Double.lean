/-
Module: Stepwise.Proofs.Json.Double
Purpose: Every written number follows the grammar of numbers, doubles included.
Main exports: Json.FractionPart, Json.ExponentPart, Json.Unsigned, Json.Scans,
  Json.unsigned_positionalText, Json.unsigned_scientificText, Json.scans_write
-/
import Stepwise.Json.Writer
import Stepwise.Proofs.Decimal.Shortest
import Stepwise.Proofs.Json.Numeral

namespace Stepwise.Json

open Decimal (Digits Layout)

/-!
A double has proper digits, and wherever the layout puts the point there are digits
on both sides of it.  Only zero itself starts with a zero.  So a scanner takes the
whole text for a number, whatever double it makes of it.
-/

/-! ### The grammar of numbers -/

/-- What may stand between the whole part of a number and its exponent. -/
inductive FractionPart : List Char → Prop where
  | absent : FractionPart []
  | digits {digits : List Char} (some_digits : digits ≠ [])
      (only_digits : ∀ c ∈ digits, c.isDigit = true) : FractionPart ('.' :: digits)

/-- What may stand at the end of a number. -/
inductive ExponentPart : List Char → Prop where
  | absent : ExponentPart []
  | digits {sign : Char} {digits : List Char} (signed : sign = '-' ∨ sign = '+')
      (some_digits : digits ≠ []) (only_digits : ∀ c ∈ digits, c.isDigit = true) :
      ExponentPart ('e' :: sign :: digits)

theorem FractionPart.scan {part : List Char} (fraction : FractionPart part) :
    ∃ digits, ∀ rest : List Char, (∀ c ∈ rest.head?, c.isDigit = false ∧ c ≠ '.') →
      scanFraction (part ++ rest) = .ok (digits, rest) := by
  cases fraction with
  | absent =>
      refine ⟨[], fun rest stops => ?_⟩
      rw [List.nil_append]
      unfold scanFraction
      split
      · exact absurd rfl (stops '.' rfl).2
      · rfl
  | @digits digits some_digits only_digits =>
      exact ⟨digits, fun rest stops =>
        scanDigits_append some_digits only_digits fun c leads => (stops c leads).1⟩

theorem ExponentPart.scan {part : List Char} (exponent : ExponentPart part) :
    ∃ size, ∀ rest, Ended rest → scanExponent (part ++ rest) = .ok (size, rest) := by
  cases exponent with
  | absent => exact ⟨none, fun rest ended => scanExponent_of_ended ended⟩
  | @digits sign digits signed some_digits only_digits =>
      have scanned (rest : List Char) (ended : Ended rest) :=
        scanDigits_append some_digits only_digits ended.stops
      obtain rfl | rfl := signed
      · refine ⟨some (-(Nat.ofDigitChars 10 digits 0 : Int)), fun rest ended => ?_⟩
        simp [scanExponent, scanSign, scanned rest ended, bind, Except.bind, pure, Except.pure]
      · refine ⟨some (Nat.ofDigitChars 10 digits 0 : Int), fun rest ended => ?_⟩
        simp [scanExponent, scanSign, scanned rest ended, bind, Except.bind, pure, Except.pure]

/-- Neither an exponent nor what follows a number goes on with a fraction. -/
theorem ExponentPart.stops {part rest : List Char} (exponent : ExponentPart part)
    (ended : Ended rest) : ∀ c ∈ (part ++ rest).head?, c.isDigit = false ∧ c ≠ '.' := by
  cases exponent with
  | absent => exact fun c leads => ⟨(ended c leads).1, (ended c leads).2.1⟩
  | digits signed some_digits only_digits => simp

/-- An unsigned piece of text that is scanned as a number wherever it stands. -/
structure Unsigned (piece : List Char) : Prop where
  opening : ∃ c tail, piece = c :: tail ∧ c.isDigit = true
  scan : ∀ negative, ∃ numeral, ∀ rest, Ended rest →
    scanUnsigned negative (piece ++ rest) = .ok (numeral, rest)

/-- The three parts of a number in a row are scanned. -/
theorem unsigned_append {whole fraction exponent : List Char} (before : Whole whole)
    (behind : FractionPart fraction) (scaled : ExponentPart exponent) :
    Unsigned (whole ++ (fraction ++ exponent)) where
  opening := by
    obtain ⟨c, tail, opening⟩ := List.exists_cons_of_ne_nil before.some_digits
    refine ⟨c, tail ++ (fraction ++ exponent), by rw [opening, List.cons_append], ?_⟩
    apply before.only_digits
    rw [opening]
    exact List.mem_cons_self
  scan negative := by
    obtain ⟨size, exponent_scanned⟩ := scaled.scan
    obtain ⟨digits, fraction_scanned⟩ := behind.scan
    refine ⟨⟨negative, whole, digits, size⟩, fun rest ended => ?_⟩
    have stops := scaled.stops ended
    have whole_stops : ∀ c ∈ (fraction ++ (exponent ++ rest)).head?, c.isDigit = false := by
      cases behind with
      | absent => exact fun c leads => (stops c leads).1
      | digits => simp
    rw [List.append_assoc, List.append_assoc]
    simp [scanUnsigned, scanWhole_append before whole_stops, fraction_scanned _ stops,
      exponent_scanned rest ended, bind, Except.bind, pure, Except.pure]

/-- A piece of text that is scanned as a number wherever it stands. -/
structure Scans (piece : List Char) : Prop where
  opening : ∃ c tail, piece = c :: tail ∧ (c = '-' ∨ c.isDigit = true)
  scan : ∃ numeral, ∀ rest, Ended rest → scanNumeral (piece ++ rest) = .ok (numeral, rest)

theorem Unsigned.scans {piece : List Char} (unsigned : Unsigned piece) : Scans piece where
  opening := by
    obtain ⟨c, tail, opening, digit⟩ := unsigned.opening
    exact ⟨c, tail, opening, Or.inr digit⟩
  scan := by
    obtain ⟨numeral, scanned⟩ := unsigned.scan false
    obtain ⟨c, tail, rfl, digit⟩ := unsigned.opening
    refine ⟨numeral, fun rest ended => ?_⟩
    rw [← scanned rest ended, List.cons_append, scanNumeral]
    rintro _ ⟨rfl, _⟩
    exact absurd digit (by decide)

theorem Unsigned.scans_minus {piece : List Char} (unsigned : Unsigned piece) :
    Scans ('-' :: piece) where
  opening := ⟨'-', piece, rfl, Or.inl rfl⟩
  scan := unsigned.scan true

/-! ### Doubles -/

theorem whole_of_leading {digits : List Char} (some_digits : digits ≠ [])
    (only_digits : ∀ c ∈ digits, c.isDigit = true) (leading : digits.head? ≠ some '0') :
    Whole digits where
  some_digits := some_digits
  only_digits := only_digits
  zero_alone zero := absurd zero leading

/-- The first digits of a double may stand in front of a point. -/
theorem whole_take {digits : Digits} (proper : digits.Proper) {count : Nat}
    (some_first : 0 < count) : Whole (digits.digits.take count) := by
  apply whole_of_leading
  · exact fun nothing => (List.take_eq_nil_iff.mp nothing).elim (Nat.ne_of_gt some_first)
      proper.some_digits
  · exact fun c held => proper.decimal c (List.mem_of_mem_take held)
  · rw [List.head?_take, if_neg (Nat.ne_of_gt some_first)]
    exact proper.leading

/-- Digits around a decimal point follow the grammar. -/
theorem unsigned_positionalText {digits : Digits} (proper : digits.Proper) :
    Unsigned (numberLayout.positionalText digits).toList := by
  have zeros_decimal (count : Nat) : ∀ c ∈ List.replicate count '0', c.isDigit = true := by
    intro c held
    rw [List.eq_of_mem_replicate held]
    rfl
  unfold Layout.positionalText
  dsimp only
  split_ifs with small inside
  · have text := unsigned_append (whole_toDigits 0)
      (.digits
        (List.append_ne_nil_of_right_ne_nil (List.replicate (-digits.point).toNat '0')
          proper.some_digits)
        (List.forall_mem_append.mpr ⟨zeros_decimal _, proper.decimal⟩))
      .absent
    simpa using text
  · have some_first : 0 < digits.point.toNat := by omega
    have some_last : digits.digits.drop digits.point.toNat ≠ [] := by
      rw [Ne, List.drop_eq_nil_iff]
      omega
    have decimal : ∀ c ∈ digits.digits.drop digits.point.toNat, c.isDigit = true :=
      fun c held => proper.decimal c (List.mem_of_mem_drop held)
    have text := unsigned_append (whole_take proper some_first) (.digits some_last decimal) .absent
    simpa using text
  · have before : Whole (digits.digits ++
        List.replicate (digits.point - digits.digits.length).toNat '0') := by
      apply whole_of_leading
      · exact List.append_ne_nil_of_left_ne_nil proper.some_digits _
      · exact List.forall_mem_append.mpr ⟨proper.decimal, zeros_decimal _⟩
      · rw [List.head?_append_of_ne_nil _ proper.some_digits]
        exact proper.leading
    have text := unsigned_append before
      (.digits (List.cons_ne_nil '0' []) (zeros_decimal 1)) .absent
    simpa [numberLayout] using text

theorem exponentPart_text (exponent : Int) :
    ExponentPart ("e" ++ (if exponent < 0 then "-" else "+") ++ exponent.natAbs.repr).toList := by
  have decimal : ∀ c ∈ Nat.toDigits 10 exponent.natAbs, c.isDigit = true :=
    fun _ => Text.isDigit_of_mem_toDigits
  split_ifs
  · simpa using ExponentPart.digits (Or.inl rfl) Nat.toDigits_ne_nil decimal
  · simpa using ExponentPart.digits (Or.inr rfl) Nat.toDigits_ne_nil decimal

/-- Digits with an exponent follow the grammar. -/
theorem unsigned_scientificText {digits : Digits} (proper : digits.Proper) :
    Unsigned (Layout.scientificText digits).toList := by
  have before := whole_take proper Nat.zero_lt_one
  have scaled := exponentPart_text (digits.point - 1)
  simp only [String.toList_append, List.append_assoc] at scaled
  unfold Layout.scientificText
  simp only [String.toList_append, String.toList_ofList, List.append_assoc]
  refine unsigned_append before ?_ scaled
  have decimal : ∀ c ∈ digits.digits.drop 1, c.isDigit = true :=
    fun c held => proper.decimal c (List.mem_of_mem_drop held)
  -- A single digit has no point behind it.
  cases others : digits.digits.drop 1 with
  | nil => exact .absent
  | cons digit rest =>
      rw [others] at decimal
      simpa using FractionPart.digits (List.cons_ne_nil digit rest) decimal

/-- A number is written as a number of the grammar, unless it is a double that is
none. -/
theorem scans_write (number : Number) : number.write = "null" ∨ Scans number.write.toList := by
  cases number with
  | int value =>
      right
      exact ⟨repr_eq_cons value, _, fun rest ended => scanNumeral_repr value ended⟩
  | float value =>
      have signed {body : String} (unsigned : Unsigned body.toList) (sign : Bool) :
          Scans ((if sign then "-" else "") ++ body).toList := by
        cases sign
        · simpa using unsigned.scans
        · simpa using unsigned.scans_minus
      rw [Number.write, Layout.write]
      dsimp only
      split
      · exact Or.inl rfl
      · left
        exact ite_self _
      · right
        rw [String.append_assoc]
        apply signed
        exact unsigned_append (whole_toDigits 0) (.digits (List.cons_ne_nil '0' []) (by simp))
          .absent
      next magnitude finite =>
        have proper := Decimal.proper_shortest numberLayout.tie
          (Decimal.binary_of_classify finite)
        right
        apply signed
        split
        · exact unsigned_positionalText proper
        · exact unsigned_scientificText proper

end Stepwise.Json
