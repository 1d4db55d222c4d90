/-
Module: Stepwise.Proofs.Text.Digits
Purpose: What decimal digits spell, and how numbers are written with them.
Main exports: Text.digitsValue?_toDigits, Text.Spells, Text.spells_iff, Text.Spells.toDigits_eq,
  Text.dropZeros, Text.Padded, Text.Spells.toDigits_eq_dropZeros, Text.eq_zero_of_head_toDigits,
  Text.Spells.foldlM_extend?
-/
import Mathlib.Data.List.Basic
import Mathlib.Data.List.Induction
import Stepwise.Text.Digits

namespace Stepwise.Text

/-!
Digits spell a number of any length: what counts as a size is a question of the
reader.  Zeros in front change nothing, so a number has many spellings.  It is
written in the one that has no zero in front of another digit, and zero is the
only number that is written with a zero at the start.
-/

theorem isDigit_of_mem_toDigits {number : Nat} {c : Char} (member : c ∈ Nat.toDigits 10 number) :
    c.isDigit = true :=
  Nat.isDigit_of_mem_toDigits (by decide) (by decide) member

/-- The digits of a number spell that number. -/
theorem digitsValue?_toDigits (number : Nat) :
    digitsValue? (Nat.toDigits 10 number) = some number := by
  have some_digits : (Nat.toDigits 10 number).isEmpty = false := by
    simp [Nat.toDigits_ne_nil]
  have only_digits : (Nat.toDigits 10 number).all Char.isDigit = true :=
    List.all_eq_true.mpr fun _ => isDigit_of_mem_toDigits
  simp [digitsValue?, some_digits, only_digits]

/-- What runs of decimal digits spell.  A digit behind a run makes it count ten
times as much and adds its own value. -/
inductive Spells : List Char → Nat → Prop where
  | digit (last : Fin 10) : Spells [Nat.digitChar last] last
  | onward {digits : List Char} {value : Nat} (front : Spells digits value) (last : Fin 10) :
      Spells (digits ++ [Nat.digitChar last]) (10 * value + last)

theorem isDigit_digitChar (digit : Fin 10) : (Nat.digitChar digit).isDigit = true := by
  rw [Nat.isDigit_digitChar]
  exact decide_eq_true digit.isLt

/-- The characters of digits are those that are written for a number below ten. -/
theorem exists_digitChar_of_isDigit {c : Char} (digit : c.isDigit = true) :
    ∃ value : Fin 10, c = Nat.digitChar value := by
  have range : 48 ≤ c.toNat ∧ c.toNat ≤ 57 := Char.isDigit_iff_toNat.mp digit
  have small : c.toNat - 48 < 10 := by omega
  refine ⟨⟨c.toNat - 48, small⟩, ?_⟩
  apply Char.toNat_inj.mp
  rw [Nat.toNat_digitChar_of_lt_ten small]
  omega

/-- A further digit, as it is counted in reading. -/
theorem ofDigitChars_concat (digits : List Char) (last : Fin 10) :
    Nat.ofDigitChars 10 (digits ++ [Nat.digitChar last]) 0 =
      10 * Nat.ofDigitChars 10 digits 0 + last := by
  rw [Nat.ofDigitChars_append, Nat.ofDigitChars_cons, Nat.ofDigitChars_nil,
    Nat.toNat_digitChar_of_lt_ten last.isLt]
  exact congrArg (10 * Nat.ofDigitChars 10 digits 0 + ·) (Nat.add_sub_cancel_left 48 last.val)

theorem digitsValue?_eq_some_iff {digits : List Char} {value : Nat} :
    digitsValue? digits = some value ↔
      digits ≠ [] ∧ (∀ c ∈ digits, c.isDigit = true) ∧ Nat.ofDigitChars 10 digits 0 = value := by
  simp [digitsValue?, and_assoc]

/-- Reading finds the number that digits spell, and reads nothing else. -/
theorem spells_iff {digits : List Char} {value : Nat} :
    Spells digits value ↔ digitsValue? digits = some value := by
  rw [digitsValue?_eq_some_iff]
  constructor
  · intro spelt
    induction spelt with
    | digit last =>
        refine ⟨List.cons_ne_nil _ _, ?_, ?_⟩
        · intro c held
          rw [List.mem_singleton.mp held]
          exact isDigit_digitChar last
        · simpa using ofDigitChars_concat [] last
    | onward _front last ih =>
        obtain ⟨-, only_digits, counted⟩ := ih
        refine ⟨List.append_ne_nil_of_right_ne_nil _ (List.cons_ne_nil _ _), ?_, ?_⟩
        · intro c held
          rcases List.mem_append.mp held with before | now
          · exact only_digits c before
          · rw [List.mem_singleton.mp now]
            exact isDigit_digitChar last
        · rw [ofDigitChars_concat, counted]
  -- The last digit is the outermost in the grammar, so the run is taken apart from its end.
  · induction digits using List.reverseRecOn generalizing value with
    | nil => exact fun ⟨some_digits, _, _⟩ => absurd rfl some_digits
    | append_singleton digits c ih =>
        rintro ⟨-, only_digits, rfl⟩
        obtain ⟨last, rfl⟩ := exists_digitChar_of_isDigit (only_digits c (by simp))
        rw [ofDigitChars_concat]
        by_cases alone : digits = []
        · subst alone
          simpa using Spells.digit last
        · apply Spells.onward
          apply ih
          exact ⟨alone, fun other held => only_digits other (List.mem_append_left _ held), rfl⟩

theorem spells_toDigits (number : Nat) : Spells (Nat.toDigits 10 number) number :=
  spells_iff.mpr (digitsValue?_toDigits number)

/-- Digits spell one number. -/
theorem Spells.unique {digits : List Char} {value other : Nat} (spelt : Spells digits value)
    (again : Spells digits other) : value = other :=
  Option.some.inj ((spells_iff.mp spelt).symm.trans (spells_iff.mp again))

theorem Spells.ne_nil {digits : List Char} {value : Nat} (spelt : Spells digits value) :
    digits ≠ [] :=
  (digitsValue?_eq_some_iff.mp (spells_iff.mp spelt)).1

/-- Without a zero in front, digits are those with which the number is
written, and the number is positive. -/
theorem Spells.toDigits_eq {digits : List Char} {value : Nat} (spelt : Spells digits value)
    (plain : digits.head? ≠ some '0') : Nat.toDigits 10 value = digits ∧ 0 < value := by
  induction spelt with
  | digit last =>
      refine ⟨Nat.toDigits_of_lt_base last.isLt, Nat.pos_of_ne_zero fun zero => plain ?_⟩
      rw [zero]
      rfl
  | onward front last ih =>
      rw [List.head?_append_of_ne_nil _ front.ne_nil] at plain
      obtain ⟨written, positive⟩ := ih plain
      refine ⟨?_, by omega⟩
      rw [← Nat.toDigits_append_toDigits (by decide) positive last.isLt, written,
        Nat.toDigits_of_lt_base last.isLt]

/-- There are digits of a number exactly where there are one or more characters
and all of them are digits. -/
theorem exists_spells_iff {digits : List Char} :
    (∃ value, Spells digits value) ↔ digits ≠ [] ∧ ∀ c ∈ digits, c.isDigit = true := by
  simp only [spells_iff, digitsValue?_eq_some_iff]
  constructor
  · rintro ⟨_, some_digits, only_digits, -⟩
    exact ⟨some_digits, only_digits⟩
  · rintro ⟨some_digits, only_digits⟩
    exact ⟨_, some_digits, only_digits, rfl⟩

/-- A zero in front of other digits changes nothing. -/
theorem spells_zero_cons {digits : List Char} {value : Nat} (some_digits : digits ≠ []) :
    Spells ('0' :: digits) value ↔ Spells digits value := by
  rw [spells_iff, spells_iff, digitsValue?_eq_some_iff, digitsValue?_eq_some_iff,
    List.forall_mem_cons, Nat.ofDigitChars_cons]
  constructor
  · rintro ⟨-, ⟨-, only_digits⟩, counted⟩
    exact ⟨some_digits, only_digits, counted⟩
  · rintro ⟨-, only_digits, counted⟩
    exact ⟨List.cons_ne_nil _ _, ⟨rfl, only_digits⟩, counted⟩

/-- Digits without the zeros in front of them.  The last digit stays, even if it
is a zero. -/
def dropZeros : List Char → List Char
  | '0' :: next :: rest => dropZeros (next :: rest)
  | digits => digits

/-- A zero stands in front of another digit. -/
def Padded (digits : List Char) : Prop :=
  ∃ next rest, digits = '0' :: next :: rest

theorem not_padded_dropZeros (digits : List Char) : ¬ Padded (dropZeros digits) := by
  fun_induction dropZeros digits with
  | case1 _next _rest ih => exact ih
  | case2 digits plain =>
      rintro ⟨next, rest, padded⟩
      exact plain next rest padded

theorem dropZeros_of_not_padded {digits : List Char} (plain : ¬ Padded digits) :
    dropZeros digits = digits := by
  fun_cases dropZeros digits with
  | case1 next rest => exact absurd ⟨next, rest, rfl⟩ plain
  | case2 => rfl

/-- A zero that is in front of nothing stands alone. -/
theorem eq_zero_of_not_padded {digits : List Char} (plain : ¬ Padded digits)
    (leads : digits.head? = some '0') : digits = ['0'] := by
  obtain ⟨rest, rfl⟩ := List.head?_eq_some_iff.mp leads
  cases rest with
  | nil => rfl
  | cons next rest => exact absurd ⟨next, rest, rfl⟩ plain

/-- A number is written with any digits of it, less the zeros in front. -/
theorem Spells.toDigits_eq_dropZeros {digits : List Char} {value : Nat}
    (spelt : Spells digits value) : Nat.toDigits 10 value = dropZeros digits := by
  fun_induction dropZeros digits with
  | case1 next rest ih => exact ih ((spells_zero_cons (List.cons_ne_nil next rest)).mp spelt)
  | case2 digits plain =>
      by_cases leads : digits.head? = some '0'
      · have plain : ¬ Padded digits := fun ⟨next, rest, padded⟩ => plain next rest padded
        rw [eq_zero_of_not_padded plain leads] at spelt ⊢
        rw [spelt.unique (.digit 0)]
        rfl
      · exact (spelt.toDigits_eq leads).1

example : dropZeros "0070".toList = "70".toList ∧ dropZeros "000".toList = "0".toList := by decide

theorem not_padded_toDigits (number : Nat) : ¬ Padded (Nat.toDigits 10 number) := by
  rw [(spells_toDigits number).toDigits_eq_dropZeros]
  exact not_padded_dropZeros _

/-- The number zero is the only one whose first digit is a zero. -/
theorem eq_zero_of_head_toDigits {number : Nat}
    (leads : (Nat.toDigits 10 number).head? = some '0') : number = 0 := by
  have spelt : Spells (Nat.toDigits 10 number) number := spells_toDigits number
  rw [eq_zero_of_not_padded (not_padded_toDigits number) leads] at spelt
  exact spelt.unique (.digit 0)

/-- A number that is a size. -/
def size? (value : Nat) : Option Nat :=
  if value < sizeLimit then some value else none

theorem size?_of_lt {value : Nat} (small : value < sizeLimit) : size? value = some value :=
  if_pos small

theorem size?_of_le {value : Nat} (large : sizeLimit ≤ value) : size? value = none :=
  if_neg (Nat.not_lt_of_le large)

/-- A further digit, for a reader that computes with sizes: the product has to
be one and the sum as well. -/
def extend? (value : Nat) (c : Char) : Option Nat :=
  (size? (10 * value)).bind fun tens => size? (tens + (c.toNat - '0'.toNat))

/-- If the product is no size, neither is the sum. -/
theorem extend?_digitChar (value : Nat) (last : Fin 10) :
    extend? value (Nat.digitChar last) = size? (10 * value + last) := by
  have digit : (Nat.digitChar last).toNat - '0'.toNat = last := by
    rw [Nat.toNat_digitChar_of_lt_ten last.isLt]
    exact Nat.add_sub_cancel_left 48 last.val
  rw [extend?, digit]
  rcases Nat.lt_or_ge (10 * value) sizeLimit with small | large
  · rw [size?_of_lt small, Option.bind_some]
  · rw [size?_of_le large, size?_of_le (Nat.le_add_right_of_le large), Option.bind_none]

/-- A reader that gives up as soon as a product or a sum is no size gives up on
the numbers that are none, and on no others. -/
theorem Spells.foldlM_extend? {digits : List Char} {value : Nat} (spelt : Spells digits value) :
    digits.foldlM extend? 0 = size? value := by
  have alone (value : Nat) (last : Fin 10) :
      [Nat.digitChar last].foldlM extend? value = size? (10 * value + last) := by
    rw [List.foldlM_cons, extend?_digitChar]
    exact bind_pure (size? _)
  induction spelt with
  | digit last => rw [alone, Nat.mul_zero, Nat.zero_add]
  | @onward digits value _front last ih =>
      rw [List.foldlM_append, ih]
      rcases Nat.lt_or_ge value sizeLimit with small | large
      · rw [size?_of_lt small]
        exact alone value last
      · rw [size?_of_le large, size?_of_le (by omega)]
        rfl

end Stepwise.Text
