/-
Module: Stepwise.Proofs.Decimal.Shortest
Purpose: Seventeen digits are enough for every double.
Main exports: Decimal.scale_le_iff, Decimal.Magnitude.Binary, Decimal.Interval.Fine,
  Decimal.Interval.isSome_nearest?, Decimal.Digits.Proper, Decimal.proper_shortest
-/
import Mathlib.Data.List.DropRight
import Mathlib.Tactic.Positivity
import Mathlib.Tactic.Ring
import Stepwise.Decimal.Shortest
import Stepwise.Proofs.Text.Digits

namespace Stepwise.Decimal

/-!
The search for the shortest digits ends because the rounding interval is wide.  A
significand has 53 bits, so the interval is wider than the `2 ^ 53`rd part of the
value.  The grid of seventeen digits is at most as wide as the `10 ^ 16`th part of
the value, which is less.  So a point of the grid lies in the interval, and one of
the two around the value does.  No grid that is tried is coarser than the value is
large, so the point that is found is not zero.
-/

/-! ### Powers of two and of ten -/

/-- What is known of the magnitude of a finite double. -/
structure Magnitude.Binary (magnitude : Magnitude) : Prop where
  positive : 0 < magnitude.significand
  bounded : magnitude.significand < 2 ^ 53
  least : -1074 ≤ magnitude.exponent
  narrow : magnitude.narrowBelow = true → magnitude.significand = 2 ^ 52

theorem binary_of_classify {bits : UInt64} {magnitude : Magnitude}
    (finite : classify bits = .finite magnitude) : magnitude.Binary := by
  have fraction : bits.toNat % 2 ^ 52 < 2 ^ 52 := Nat.mod_lt _ (by decide)
  simp only [classify, Nat.pow_eq] at finite
  split at finite
  · split at finite <;> contradiction
  · split at finite
    · split at finite
      · contradiction
      · obtain rfl := Class.finite.inj finite
        constructor <;> simp <;> omega
    · obtain rfl := Class.finite.inj finite
      constructor <;> simp <;> omega

/-- The power of ten that two sides have in common when one of them is scaled by a
power with a sign. -/
theorem exists_common {power : Int} {above below : Nat} (shift : power = above - below) :
    ∃ common, above = power.toNat + common ∧ below = (-power).toNat + common :=
  ⟨min above below, by omega, by omega⟩

theorem scale_le_iff {power : Int} {above below : Nat} (shift : power = above - below)
    (a b : Nat) :
    a * Nat.pow 10 power.toNat ≤ b * Nat.pow 10 (-power).toNat ↔
      a * 10 ^ above ≤ b * 10 ^ below := by
  obtain ⟨common, rfl, rfl⟩ := exists_common shift
  rw [Nat.pow_add, Nat.pow_add, ← Nat.mul_assoc, ← Nat.mul_assoc]
  exact (Nat.mul_le_mul_right_iff (Nat.pow_pos (by decide))).symm

theorem scale_lt_iff {power : Int} {above below : Nat} (shift : power = above - below)
    (a b : Nat) :
    a * Nat.pow 10 power.toNat < b * Nat.pow 10 (-power).toNat ↔
      a * 10 ^ above < b * 10 ^ below := by
  obtain ⟨common, rfl, rfl⟩ := exists_common shift
  rw [Nat.pow_add, Nat.pow_add, ← Nat.mul_assoc, ← Nat.mul_assoc]
  exact (Nat.mul_lt_mul_right (Nat.pow_pos (by decide))).symm

/-- A positive number is at least the power of ten with as many digits. -/
theorem pow_le_of_length_toDigits {number : Nat} (positive : 0 < number) :
    10 ^ ((Nat.toDigits 10 number).length - 1) ≤ number := by
  by_cases single : (Nat.toDigits 10 number).length - 1 = 0
  · rw [single]
    exact positive
  · apply Nat.le_of_not_lt
    intro small
    have shorter := (Nat.length_toDigits_le_iff (by decide) (Nat.pos_of_ne_zero single)).mpr small
    omega

/-- The place behind the decimal point at which every value has a digit. -/
def lastPlace : Nat := 343

/-! ### Intervals -/

namespace Interval

/-- An interval around a value that is not too small, with room for the grid of
seventeen digits. -/
structure Fine (interval : Interval) : Prop where
  unit_pos : 0 < interval.unit
  low_lt : interval.low < interval.value
  lt_high : interval.value < interval.high
  wide : interval.value < 2 ^ 53 * (interval.high - interval.low)
  large : interval.unit ≤ interval.value * 10 ^ lastPlace

variable {interval : Interval}

theorem holds_of_between {candidate : Nat} (above : interval.low < candidate * interval.unit)
    (below : candidate * interval.unit < interval.high) : interval.holds candidate = true := by
  unfold holds
  split <;> simp [above, below, Nat.le_of_lt]

/-- Nothing is found only if the two points around the value lie outside. -/
theorem nearest?_cases (interval : Interval) (tie : Tie) :
    (interval.holds (interval.value / interval.unit) = false ∧
        interval.holds (interval.value / interval.unit + 1) = false ∧
        interval.nearest? tie = none) ∨
      ∃ count, interval.nearest? tie = some count ∧ interval.value / interval.unit ≤ count := by
  cases below : interval.holds (interval.value / interval.unit) <;>
    cases above : interval.holds (interval.value / interval.unit + 1) <;>
    simp only [nearest?, below, above]
  case false.false => simp
  case false.true => simp
  case true.false => simp
  -- Both points are inside, and each way to choose between them gives one of the two.
  case true.true => split_ifs <;> cases tie <;> simp

/-- Where the grid is finer than the interval is wide, one of the two points around
the value lies in the interval. -/
theorem isSome_nearest? (tie : Tie) (unit_pos : 0 < interval.unit)
    (low_lt : interval.low < interval.value) (lt_high : interval.value < interval.high)
    (narrow : interval.unit + interval.low < interval.high) :
    (interval.nearest? tie).isSome = true := by
  have floor := Nat.div_mul_le_self interval.value interval.unit
  have ceiling : interval.value < (interval.value / interval.unit + 1) * interval.unit :=
    Nat.lt_mul_of_div_lt (Nat.lt_succ_self _) unit_pos
  obtain ⟨below, above, -⟩ | ⟨count, found, -⟩ := interval.nearest?_cases tie
  swap
  · rw [found]
    rfl
  by_cases inside : interval.low < interval.value / interval.unit * interval.unit
  · rw [holds_of_between inside (Nat.lt_of_le_of_lt floor lt_high)] at below
    contradiction
  · have reached : (interval.value / interval.unit + 1) * interval.unit < interval.high := by
      rw [Nat.add_mul, Nat.one_mul]
      omega
    rw [holds_of_between (Nat.lt_trans low_lt ceiling) reached] at above
    contradiction

/-- Where the grid is not coarser than the value is large, zero is not found. -/
theorem pos_of_nearest?_eq_some {tie : Tie} {count : Nat} (unit_pos : 0 < interval.unit)
    (unit_le : interval.unit ≤ interval.value) (found : interval.nearest? tie = some count) :
    0 < count := by
  have one_unit : 0 < interval.value / interval.unit := Nat.div_pos unit_le unit_pos
  obtain ⟨-, -, nothing⟩ | ⟨other, again, at_least⟩ := interval.nearest?_cases tie
  · rw [nothing] at found
    contradiction
  · rw [again] at found
    obtain rfl := Option.some.inj found
    exact Nat.lt_of_lt_of_le one_unit at_least

/-- The number of digits of the value when it is counted in the units it reaches. -/
def digitCount (interval : Interval) : Nat :=
  (Nat.toDigits 10 (interval.value * 10 ^ lastPlace / interval.unit)).length

theorem point_sub (interval : Interval) (length : Nat) :
    interval.point - length = (interval.digitCount : Int) - (lastPlace + length : Nat) := by
  have place : 343 = lastPlace := rfl
  rw [point, place, Nat.repr, String.length_ofList, Nat.pow_eq, ← digitCount]
  omega

/-- The value has as many digits as are counted. -/
theorem Fine.unit_mul_le (fine : interval.Fine) :
    interval.unit * 10 ^ interval.digitCount ≤ interval.value * 10 ^ lastPlace * 10 := by
  have positive : 0 < interval.value * 10 ^ lastPlace / interval.unit :=
    Nat.div_pos fine.large fine.unit_pos
  have counted : interval.digitCount - 1 + 1 = interval.digitCount :=
    Nat.sub_one_add_one (Nat.ne_of_gt (List.length_pos_iff.mpr Nat.toDigits_ne_nil))
  calc interval.unit * 10 ^ interval.digitCount
      = interval.unit * 10 ^ (interval.digitCount - 1) * 10 := by
        rw [Nat.mul_assoc, ← Nat.pow_succ, Nat.succ_eq_add_one, counted]
    _ ≤ interval.unit * (interval.value * 10 ^ lastPlace / interval.unit) * 10 :=
        Nat.mul_le_mul_right 10
          (Nat.mul_le_mul_left interval.unit (pow_le_of_length_toDigits positive))
    _ ≤ interval.value * 10 ^ lastPlace * 10 := Nat.mul_le_mul_right 10 (Nat.mul_div_le _ _)

/-- As soon as a digit is asked for, the grid is not coarser than the value is
large. -/
theorem Fine.unit_le_inUnitsOf (fine : interval.Fine) (index : Nat) :
    (interval.inUnitsOf (interval.point - (index + 1 : Nat))).unit ≤
      (interval.inUnitsOf (interval.point - (index + 1 : Nat))).value := by
  apply (scale_le_iff (interval.point_sub (index + 1)) interval.unit interval.value).mpr
  calc interval.unit * 10 ^ interval.digitCount
      ≤ interval.value * 10 ^ lastPlace * 10 := fine.unit_mul_le
    _ ≤ interval.value * 10 ^ lastPlace * 10 ^ (index + 1) :=
        Nat.mul_le_mul_left _ (Nat.le_pow (Nat.succ_pos index))
    _ = interval.value * 10 ^ (lastPlace + (index + 1)) := by
        rw [Nat.pow_add 10 lastPlace, Nat.mul_assoc]

/-- The grid of seventeen digits is finer than the interval is wide. -/
theorem Fine.inUnitsOf_narrow (fine : interval.Fine) :
    (interval.inUnitsOf (interval.point - (17 : Nat))).unit +
        (interval.inUnitsOf (interval.point - (17 : Nat))).low <
      (interval.inUnitsOf (interval.point - (17 : Nat))).high := by
  have narrow : interval.unit * 10 ^ interval.digitCount <
      (interval.high - interval.low) * 10 ^ (lastPlace + 17) :=
    calc interval.unit * 10 ^ interval.digitCount
        ≤ interval.value * 10 ^ lastPlace * 10 := fine.unit_mul_le
      _ = interval.value * (10 ^ lastPlace * 10) := Nat.mul_assoc _ _ _
      _ < 2 ^ 53 * (interval.high - interval.low) * (10 ^ lastPlace * 10) :=
          Nat.mul_lt_mul_of_pos_right fine.wide (by positivity)
      _ ≤ 10 ^ 16 * (interval.high - interval.low) * (10 ^ lastPlace * 10) :=
          Nat.mul_le_mul_right _ (Nat.mul_le_mul_right _ (by decide))
      _ = (interval.high - interval.low) * 10 ^ (lastPlace + 17) := by
          rw [Nat.pow_add]
          ring
  have scaled := (scale_lt_iff (interval.point_sub 17) _ _).mpr narrow
  rw [Nat.sub_mul] at scaled
  exact Nat.add_lt_of_lt_sub scaled

end Interval

namespace Magnitude.Binary

variable {magnitude : Magnitude}

/-- The lower end lies one or two quarters below the value. -/
theorem exists_gap (binary : magnitude.Binary) :
    ∃ gap,
      magnitude.interval.low =
        (4 * magnitude.significand - gap) * 2 ^ magnitude.exponent.toNat ∧
      0 < gap ∧ gap ≤ 4 * magnitude.significand ∧
      4 * magnitude.significand < 2 ^ 53 * (2 + gap) := by
  have positive := binary.positive
  have bounded := binary.bounded
  cases narrowed : magnitude.narrowBelow
  · exact ⟨2, by simp [Magnitude.interval, narrowed], by omega, by omega, by omega⟩
  · have power := binary.narrow narrowed
    exact ⟨1, by simp [Magnitude.interval, narrowed], by omega, by omega, by omega⟩

/-- The least double that is not zero has a digit at the last place. -/
theorem two_pow_le (binary : magnitude.Binary) :
    2 ^ (-magnitude.exponent).toNat ≤ 10 ^ lastPlace := by
  have least := binary.least
  obtain ⟨count, halvings, places⟩ :
      ∃ count, (-magnitude.exponent).toNat ≤ 13 * count ∧ 4 * count ≤ lastPlace :=
    ⟨83, by omega, by decide⟩
  calc 2 ^ (-magnitude.exponent).toNat
      ≤ 2 ^ (13 * count) := Nat.pow_le_pow_right (by decide) halvings
    _ = (2 ^ 13) ^ count := Nat.pow_mul 2 13 count
    _ ≤ (10 ^ 4) ^ count := Nat.pow_le_pow_left (by decide) count
    _ = 10 ^ (4 * count) := (Nat.pow_mul 10 4 count).symm
    _ ≤ 10 ^ lastPlace := Nat.pow_le_pow_right (by decide) places

/-- The interval of a double is wide enough. -/
theorem fine (binary : magnitude.Binary) : magnitude.interval.Fine := by
  obtain ⟨gap, low_eq, gap_pos, gap_le, reached⟩ := binary.exists_gap
  have scale_pos : 0 < 2 ^ magnitude.exponent.toNat := Nat.pow_pos (by decide)
  have width : magnitude.interval.high - magnitude.interval.low =
      (2 + gap) * 2 ^ magnitude.exponent.toNat := by
    rw [low_eq, Magnitude.interval, Nat.pow_eq, ← Nat.sub_mul]
    congr 1
    omega
  constructor
  · exact Nat.mul_pos (by decide) (Nat.pow_pos (by decide))
  · rw [low_eq]
    exact Nat.mul_lt_mul_of_pos_right (by omega) scale_pos
  · exact Nat.mul_lt_mul_of_pos_right (by omega) scale_pos
  · rw [width, ← Nat.mul_assoc]
    exact Nat.mul_lt_mul_of_pos_right reached scale_pos
  · calc 4 * 2 ^ (-magnitude.exponent).toNat
        ≤ 4 * magnitude.significand * 2 ^ magnitude.exponent.toNat *
            2 ^ (-magnitude.exponent).toNat := by
          apply Nat.mul_le_mul_right
          rw [Nat.mul_assoc]
          exact Nat.le_mul_of_pos_right 4 (Nat.mul_pos binary.positive scale_pos)
      _ ≤ magnitude.interval.value * 10 ^ lastPlace :=
          Nat.mul_le_mul_left _ binary.two_pow_le

end Magnitude.Binary

/-! ### Digits -/

/-- Decimal digits that do not start with a zero. -/
structure Digits.Proper (digits : Digits) : Prop where
  some_digits : digits.digits ≠ []
  decimal : ∀ c ∈ digits.digits, c.isDigit = true
  leading : digits.digits.head? ≠ some '0'

/-- Without the zeros at its end a positive number still has its first digit. -/
theorem proper_ofUnits {count : Nat} (positive : 0 < count) (power : Int) :
    (Digits.ofUnits count power).Proper := by
  obtain ⟨zeros, split⟩ : (Digits.ofUnits count power).digits <+: Nat.toDigits 10 count :=
    List.rdropWhile_prefix _ _
  have leading : (Nat.toDigits 10 count).head? ≠ some '0' := fun zero =>
    absurd (Text.eq_zero_of_head_toDigits zero) (Nat.ne_of_gt positive)
  have some_digits : (Digits.ofUnits count power).digits ≠ [] := by
    intro nothing
    have only_zeros := List.rdropWhile_eq_nil_iff.mp nothing
    obtain ⟨digit, digits, opening⟩ := List.exists_cons_of_ne_nil Nat.toDigits_ne_nil
    rw [opening] at leading only_zeros
    have zero : digit = '0' := by simpa using only_zeros digit List.mem_cons_self
    exact leading (congrArg some zero)
  constructor
  · exact some_digits
  · intro c held
    apply Text.isDigit_of_mem_toDigits
    rw [← split]
    exact List.mem_append_left zeros held
  · rwa [← split, List.head?_append_of_ne_nil _ some_digits] at leading

/-- The digits that are found for a double are proper: a search up to seventeen digits
does not end without a result. -/
theorem proper_shortest (tie : Tie) {magnitude : Magnitude} (binary : magnitude.Binary) :
    (shortest tie magnitude).Proper := by
  have fine := binary.fine
  have unit_pos (power : Int) : 0 < (magnitude.interval.inUnitsOf power).unit :=
    Nat.mul_pos fine.unit_pos (Nat.pow_pos (by decide))
  have last : ((magnitude.interval.inUnitsOf
      (magnitude.interval.point - (16 + 1 : Nat))).nearest? tie).isSome = true := by
    apply Interval.isSome_nearest? tie (unit_pos _) _ _ fine.inUnitsOf_narrow
    · exact Nat.mul_lt_mul_of_pos_right fine.low_lt (Nat.pow_pos (by decide))
    · exact Nat.mul_lt_mul_of_pos_right fine.lt_high (Nat.pow_pos (by decide))
  unfold shortest
  dsimp only
  generalize search : List.findSome? _ _ = found
  cases found with
  | none =>
      have nothing := List.findSome?_eq_none_iff.mp search 16 (by simp)
      rw [Option.map_eq_none_iff] at nothing
      rw [nothing] at last
      contradiction
  | some digits =>
      obtain ⟨index, -, result⟩ := List.exists_of_findSome?_eq_some search
      obtain ⟨count, nearest, rfl⟩ := Option.map_eq_some_iff.mp result
      apply proper_ofUnits
      exact Interval.pos_of_nearest?_eq_some (unit_pos _) (fine.unit_le_inUnitsOf index) nearest

end Stepwise.Decimal
