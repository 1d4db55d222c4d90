/-
Module: Stepwise.Proofs.Step.Name
Purpose: The grammar of references, which of them are read as an ordinal, and
  which of them are names.
Main exports: Step.Spells, Step.ordinal?_eq_some_iff, Step.ordinal?_eq_none_iff,
  Step.Spells.ordinal?_eq, Step.ordinal?_nameOf, Step.nameOf_injective, Step.Bears, Step.bears_iff,
  Step.Padded, Step.spells_iff_nameOf_eq, Step.Spells.eq_nameOf_iff, Step.nameOf_inverts_ordinal
-/
import Stepwise.Proofs.Text.Digits
import Stepwise.Step.Name

namespace Stepwise

/-!
A reference is the stem with the digits of a number behind it, however many of
them are zeros in front and however large the number is.  Only the reading of
an ordinal asks for a size.  A name is the one spelling of its ordinal without
needless zeros in front, so it is read back as that ordinal, and any other
spelling turns into the name when those zeros are taken away.
-/

namespace Step

/-- A reference spells an ordinal: behind the stem there are digits of it and
nothing else. -/
def Spells (reference : String) (ordinal : Nat) : Prop :=
  ∃ digits, reference = "step_" ++ String.ofList digits ∧ Text.Spells digits ordinal

variable {reference : String} {ordinal : Nat}

theorem toList_eq_iff {digits : List Char} :
    reference = "step_" ++ String.ofList digits ↔ reference.toList = stem ++ digits := by
  have whole : ("step_" ++ String.ofList digits).toList = stem ++ digits := by
    rw [String.toList_append, String.toList_ofList (l := digits)]
    rfl
  rw [← String.toList_inj, whole]

theorem digits_unique {digits others : List Char}
    (whole : reference = "step_" ++ String.ofList digits)
    (whole' : reference = "step_" ++ String.ofList others) : digits = others := by
  rw [toList_eq_iff] at whole whole'
  exact List.append_cancel_left (whole.symm.trans whole')

/-- Ordinals are read from the references that spell a size. -/
theorem ordinal?_eq_some_iff :
    ordinal? reference = some ordinal ↔ Spells reference ordinal ∧ ordinal < sizeLimit := by
  unfold ordinal?
  constructor
  · intro read
    split at read
    next opens =>
      obtain ⟨digits, whole⟩ := List.isPrefixOf_iff_prefix.mp opens
      rw [← whole, List.drop_left, Option.filter_eq_some_iff, ← Text.spells_iff] at read
      refine ⟨⟨digits, toList_eq_iff.mpr whole.symm, read.1⟩, ?_⟩
      exact of_decide_eq_true read.2
    · cases read
  · rintro ⟨⟨digits, whole, spelt⟩, sized⟩
    rw [toList_eq_iff] at whole
    have opens : stem.isPrefixOf (stem ++ digits) = true :=
      List.isPrefixOf_iff_prefix.mpr (List.prefix_append _ _)
    rw [whole, if_pos opens, List.drop_left, Text.spells_iff.mp spelt]
    exact Option.filter_eq_some_iff.mpr ⟨rfl, decide_eq_true sized⟩

theorem Spells.unique {other : Nat} (spelt : Spells reference ordinal)
    (again : Spells reference other) : ordinal = other := by
  obtain ⟨digits, whole, value⟩ := spelt
  obtain ⟨others, whole', value'⟩ := again
  rw [digits_unique whole whole'] at value
  exact value.unique value'

/-- No ordinal is read where nothing is spelt or what is spelt is no size. -/
theorem ordinal?_eq_none_iff :
    ordinal? reference = none ↔
      (∀ ordinal, ¬ Spells reference ordinal) ∨
        ∃ ordinal, Spells reference ordinal ∧ sizeLimit ≤ ordinal := by
  rw [Option.eq_none_iff_forall_ne_some]
  constructor
  · intro unread
    by_cases spelt : ∃ ordinal, Spells reference ordinal
    · obtain ⟨ordinal, spelt⟩ := spelt
      apply Or.inr
      refine ⟨ordinal, spelt, Nat.le_of_not_lt fun sized => ?_⟩
      exact unread ordinal (ordinal?_eq_some_iff.mpr ⟨spelt, sized⟩)
    · exact Or.inl (not_exists.mp spelt)
  · rintro unsized ordinal read
    obtain ⟨spelt, sized⟩ := ordinal?_eq_some_iff.mp read
    rcases unsized with unspelt | ⟨other, again, large⟩
    · exact unspelt ordinal spelt
    · rw [again.unique spelt] at large
      exact Nat.not_lt_of_le large sized

/-- What is spelt is read, if it is a size. -/
theorem Spells.ordinal?_eq (spelt : Spells reference ordinal) :
    ordinal? reference = Text.size? ordinal := by
  rcases Nat.lt_or_ge ordinal sizeLimit with small | large
  · rw [Text.size?_of_lt small]
    exact ordinal?_eq_some_iff.mpr ⟨spelt, small⟩
  · rw [Text.size?_of_le large]
    exact ordinal?_eq_none_iff.mpr (Or.inr ⟨ordinal, spelt, large⟩)

/-- A reference bears an ordinal as a name does: its digits do not start with a
zero. -/
def Bears (name : String) (ordinal : Nat) : Prop :=
  ∃ digits, name = "step_" ++ String.ofList digits ∧ Text.Spells digits ordinal ∧
    digits.head? ≠ some '0'

theorem nameOf_eq (ordinal : Nat) :
    nameOf ordinal = "step_" ++ String.ofList (Nat.toDigits 10 ordinal) :=
  toList_eq_iff.mpr String.toList_ofList

theorem spells_nameOf (ordinal : Nat) : Spells (nameOf ordinal) ordinal :=
  ⟨Nat.toDigits 10 ordinal, nameOf_eq ordinal, Text.spells_toDigits ordinal⟩

/-- The characters of a positional name. -/
theorem mem_nameOf {c : Char} (held : c ∈ (nameOf ordinal).toList) :
    c ∈ stem ∨ c.isDigit = true := by
  rw [nameOf, String.toList_ofList, List.mem_append] at held
  exact held.imp_right Text.isDigit_of_mem_toDigits

theorem newline_not_mem_nameOf (ordinal : Nat) : '\n' ∉ (nameOf ordinal).toList := by
  intro held
  rcases mem_nameOf held with inside | digit
  · exact absurd inside (by decide)
  · exact absurd digit (by decide)

/-- A positional name is read as its ordinal. -/
theorem ordinal?_nameOf (sized : ordinal < sizeLimit) :
    ordinal? (nameOf ordinal) = some ordinal :=
  ordinal?_eq_some_iff.mpr ⟨spells_nameOf ordinal, sized⟩

/-- Positional names tell the ordinals apart. -/
theorem nameOf_injective : Function.Injective nameOf := by
  intro ordinal other same
  have spelt : Spells (nameOf ordinal) other := same ▸ spells_nameOf other
  exact (spells_nameOf ordinal).unique spelt

/-- The names that bear an ordinal are its positional name and no others. -/
theorem bears_iff {name : String} (positive : 0 < ordinal) :
    Bears name ordinal ↔ name = nameOf ordinal := by
  constructor
  · rintro ⟨digits, rfl, spelt, plain⟩
    rw [nameOf_eq, (spelt.toDigits_eq plain).1]
  · rintro rfl
    refine ⟨Nat.toDigits 10 ordinal, nameOf_eq ordinal, Text.spells_toDigits ordinal, ?_⟩
    exact fun leads => Nat.ne_of_gt positive (Text.eq_zero_of_head_toDigits leads)

/-- More zeros stand in front of the ordinal than a name has there. -/
def Padded (reference : String) : Prop :=
  ∃ digits, reference = "step_" ++ String.ofList digits ∧ Text.Padded digits

/-- A reference spells the ordinal whose name it is without the zeros in front. -/
theorem spells_iff_nameOf_eq :
    Spells reference ordinal ↔
      ∃ digits, reference = "step_" ++ String.ofList digits ∧ digits ≠ [] ∧
        (∀ c ∈ digits, c.isDigit = true) ∧
        nameOf ordinal = "step_" ++ String.ofList (Text.dropZeros digits) := by
  have named {digits : List Char} {value : Nat} (spelt : Text.Spells digits value) :
      nameOf value = "step_" ++ String.ofList (Text.dropZeros digits) := by
    rw [nameOf_eq, spelt.toDigits_eq_dropZeros]
  constructor
  · rintro ⟨digits, whole, spelt⟩
    obtain ⟨some_digits, only_digits⟩ := Text.exists_spells_iff.mp ⟨ordinal, spelt⟩
    exact ⟨digits, whole, some_digits, only_digits, named spelt⟩
  -- The digits spell some number, which has the same name and so is the ordinal.
  · rintro ⟨digits, whole, some_digits, only_digits, name⟩
    obtain ⟨value, spelt⟩ := Text.exists_spells_iff.mpr ⟨some_digits, only_digits⟩
    have same : value = ordinal := nameOf_injective ((named spelt).trans name.symm)
    exact ⟨digits, whole, same ▸ spelt⟩

theorem Spells.eq_nameOf_iff (spelt : Spells reference ordinal) :
    reference = nameOf ordinal ↔ ¬ Padded reference := by
  constructor
  · rintro rfl ⟨digits, whole, padded⟩
    rw [digits_unique whole (nameOf_eq ordinal)] at padded
    exact Text.not_padded_toDigits ordinal padded
  · intro plain
    obtain ⟨digits, whole, value⟩ := spelt
    have kept : Text.dropZeros digits = digits :=
      Text.dropZeros_of_not_padded fun padded => plain ⟨digits, whole, padded⟩
    rw [nameOf_eq, value.toDigits_eq_dropZeros, kept, whole]

/-- Writing and reading undo each other.  The name of an ordinal is read as that
ordinal if it is a size, and no two ordinals have one name.  A reference is read
as a size exactly if there are only digits behind the stem and the name of that
size is left when the zeros in front of other digits are dropped; if there are
none to drop, and only then, the reference is the name itself.  A reader that
takes the digits of a name one by one, and gives up as soon as it leaves the
sizes, comes back to the ordinal as well. -/
theorem nameOf_inverts_ordinal :
    (∀ ordinal, ordinal? (nameOf ordinal) = some ordinal ↔ ordinal < sizeLimit) ∧
      Function.Injective nameOf ∧
      (∀ reference ordinal, ordinal? reference = some ordinal ↔
        ordinal < sizeLimit ∧
          ∃ digits, reference = "step_" ++ String.ofList digits ∧ digits ≠ [] ∧
            (∀ c ∈ digits, c.isDigit = true) ∧
            nameOf ordinal = "step_" ++ String.ofList (Text.dropZeros digits)) ∧
      (∀ reference ordinal, ordinal? reference = some ordinal →
        (reference = nameOf ordinal ↔ ¬ Padded reference)) ∧
      ∀ digits ordinal, nameOf ordinal = "step_" ++ String.ofList digits →
        digits.foldlM Text.extend? 0 = Text.size? ordinal := by
  refine ⟨?_, nameOf_injective, ?_, ?_, ?_⟩
  · intro ordinal
    rw [ordinal?_eq_some_iff]
    exact and_iff_right (spells_nameOf ordinal)
  · intro reference ordinal
    rw [ordinal?_eq_some_iff, spells_iff_nameOf_eq, and_comm]
  · intro reference ordinal read
    obtain ⟨spelt, -⟩ := ordinal?_eq_some_iff.mp read
    exact spelt.eq_nameOf_iff
  · intro digits ordinal name
    rw [digits_unique name (nameOf_eq ordinal)]
    exact (Text.spells_toDigits ordinal).foldlM_extend?

/-- The greatest size comes back from its name, and from a reference with three
zeros more, which is not the name. -/
theorem nameOf_inverts_greatest :
    ordinal? (nameOf 18446744073709551615) = some 18446744073709551615 ∧
      nameOf 18446744073709551615 =
        "step_" ++ String.ofList "18446744073709551615".toList ∧
      "18446744073709551615".toList.foldlM Text.extend? 0 = some 18446744073709551615 ∧
      ordinal? "step_00018446744073709551615" = some 18446744073709551615 ∧
      "step_00018446744073709551615" ≠ nameOf 18446744073709551615 := by
  obtain ⟨back, -, reads, canonical, counted⟩ := nameOf_inverts_ordinal
  have sized : 18446744073709551615 < sizeLimit := by decide
  have spelt : Text.Spells "18446744073709551615".toList 18446744073709551615 :=
    Text.spells_iff.mpr (by decide)
  have name : nameOf 18446744073709551615 =
      "step_" ++ String.ofList "18446744073709551615".toList := by
    rw [nameOf_eq, spelt.toDigits_eq_dropZeros]
    rfl
  have read : ordinal? "step_00018446744073709551615" = some 18446744073709551615 := by
    have only_digits : ∀ c ∈ "00018446744073709551615".toList, c.isDigit = true :=
      List.all_eq_true.mp (by decide)
    apply (reads _ _).mpr
    exact ⟨sized, "00018446744073709551615".toList, rfl, by decide, only_digits, name⟩
  have padded : Padded "step_00018446744073709551615" :=
    ⟨"00018446744073709551615".toList, rfl, '0', "018446744073709551615".toList, rfl⟩
  refine ⟨(back _).mpr sized, name, ?_, read, fun same => ?_⟩
  · exact (counted _ _ name).trans (Text.size?_of_lt sized)
  · exact (canonical _ _ read).mp same padded

end Step

end Stepwise
