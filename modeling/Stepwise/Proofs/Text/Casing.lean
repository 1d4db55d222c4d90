/-
Module: Stepwise.Proofs.Text.Casing
Purpose: What lower-casing leaves of ASCII text, and which characters become
  ASCII by it.
Main exports: Text.lowerChar_of_ascii, Text.lowerChar_of_wide, Text.exists_ascii_lowerChar_iff,
  Text.Keyword, Text.prefix_lowercase_iff
-/
import Mathlib.Tactic.ByContra
import Stepwise.Text.Casing

namespace Stepwise.Text

/-!
Lower-casing moves ASCII letters inside ASCII and nearly all other characters
outside of it.  There are two exceptions: U+0130 becomes an `i` and a combining
dot, and the Kelvin sign becomes a `k`.  A word in small ASCII letters can
therefore be looked for in the text as it stands, as long as the word has no
`k` and does not end in an `i`.
-/

/-! ### Single characters -/

/-- The capital letters of ASCII come first in the table, and nothing else in it
is ASCII. -/
theorem lowerCaseShifts_eq_cons :
    ∃ others, lowerCaseShifts = ⟨0x41, 0x5A, 1, 32⟩ :: others ∧
      ∀ run ∈ others, 0x80 ≤ run.first :=
  ⟨_, rfl, by decide +kernel⟩

/-- Every other run of the table leads to characters that are not ASCII, except
for the Kelvin sign. -/
theorem shift_of_mem_lowerCaseShifts :
    ∀ run ∈ lowerCaseShifts, 0x80 ≤ run.first →
      run = ⟨0x212A, 0x212A, 1, -8383⟩ ∨
        0x80 ≤ run.first + run.shift ∧ run.last + run.shift < 0x110000 ∧
          (run.last + run.shift < 0xD800 ∨ 0xDFFF < run.first + run.shift) := by
  decide +kernel

theorem CaseShift.covers_iff {run : CaseShift} {c : Char} :
    run.covers c = true ↔
      run.first ≤ c.toNat ∧ c.toNat ≤ run.last ∧ (c.toNat - run.first) % run.step = 0 := by
  simp [covers, and_assoc]

/-- A capital letter of ASCII is 32 before its small one. -/
theorem toLower_of_capital {c : Char} (capital : 0x41 ≤ c.toNat ∧ c.toNat ≤ 0x5A) :
    c.toLower = Char.ofNat (c.toNat + 32) := by
  have capitals : ∀ code ≤ 0x5A, 0x41 ≤ code →
      (Char.ofNat code).toLower = Char.ofNat ((Char.ofNat code).toNat + 32) := by decide
  rw [← Char.ofNat_toNat c]
  exact capitals _ capital.2 capital.1

theorem toLower_of_not_capital {c : Char} (small : ¬ (0x41 ≤ c.toNat ∧ c.toNat ≤ 0x5A)) :
    c.toLower = c := by
  unfold Char.toLower
  rw [dif_neg]
  intro between
  exact small ⟨UInt32.le_iff_toNat_le.mp between.1, UInt32.le_iff_toNat_le.mp between.2⟩

/-- Lower-casing an ASCII character concerns the 26 letters only. -/
theorem lowerChar_of_ascii {c : Char} (ascii : c.toNat < 0x80) : lowerChar c = [c.toLower] := by
  obtain ⟨others, table, wide⟩ := lowerCaseShifts_eq_cons
  have plain : c ≠ '\u0130' := by
    rintro rfl
    exact absurd ascii (by decide)
  have uncovered : others.find? (fun run => run.covers c) = none := by
    rw [List.find?_eq_none]
    intro run member covered
    have start := wide run member
    have behind := (CaseShift.covers_iff.mp covered).1
    omega
  unfold lowerChar
  rw [if_neg plain, table]
  by_cases capital : 0x41 ≤ c.toNat ∧ c.toNat ≤ 0x5A
  · have covered : (⟨0x41, 0x5A, 1, 32⟩ : CaseShift).covers c = true :=
      CaseShift.covers_iff.mpr ⟨capital.1, capital.2, Nat.mod_one _⟩
    simp only [List.find?_cons, covered, toLower_of_capital capital]
    rfl
  · have not_covered : (⟨0x41, 0x5A, 1, 32⟩ : CaseShift).covers c = false := by
      rw [Bool.eq_false_iff]
      intro covered
      obtain ⟨start, stop, -⟩ := CaseShift.covers_iff.mp covered
      exact capital ⟨start, stop⟩
    simp only [List.find?_cons, not_covered, uncovered, toLower_of_not_capital capital]

/-- All other characters stay outside of ASCII, two characters excepted. -/
theorem lowerChar_of_wide {c : Char} (wide : 0x80 ≤ c.toNat) (dotted : c ≠ '\u0130')
    (kelvin : c ≠ '\u212A') : ∃ d, lowerChar c = [d] ∧ 0x80 ≤ d.toNat := by
  unfold lowerChar
  rw [if_neg dotted]
  cases found : lowerCaseShifts.find? fun run => run.covers c with
  | none => exact ⟨c, rfl, wide⟩
  | some run =>
      have covered : run.covers c = true := by simpa using List.find?_some found
      obtain ⟨start, stop, -⟩ := CaseShift.covers_iff.mp covered
      have held := List.mem_of_find?_eq_some found
      -- The run of the ASCII capitals ends before the character.
      have other : 0x80 ≤ run.first := by
        obtain ⟨others, table, above⟩ := lowerCaseShifts_eq_cons
        rw [table, List.mem_cons] at held
        rcases held with rfl | held
        · exact absurd (Nat.le_trans wide stop) (by decide)
        · exact above run held
      obtain rfl | ⟨above, below, valid⟩ := shift_of_mem_lowerCaseShifts run held other
      · have code : c.toNat = '\u212A'.toNat := Nat.le_antisymm stop start
        exact absurd (Char.toNat_inj.mp code) kelvin
      · have scalar : ((c.toNat : Int) + run.shift).toNat.isValidChar := by
          unfold Nat.isValidChar
          omega
        have code : (Char.ofNat ((c.toNat : Int) + run.shift).toNat).toNat =
            ((c.toNat : Int) + run.shift).toNat := by
          unfold Char.ofNat
          rw [dif_pos scalar]
          rfl
        refine ⟨_, rfl, ?_⟩
        rw [code]
        omega

theorem lowerChar_dotted : lowerChar '\u0130' = ['i', '\u0307'] :=
  rfl

theorem lowerChar_kelvin : lowerChar '\u212A' = ['k'] := by
  decide +kernel

/-- The two characters outside of ASCII that have ASCII in their lower-case
form. -/
theorem exists_ascii_lowerChar_iff {c : Char} (wide : 0x80 ≤ c.toNat) :
    (∃ d ∈ lowerChar c, d.toNat < 0x80) ↔ c = '\u0130' ∨ c = '\u212A' := by
  constructor
  · rintro ⟨d, held, ascii⟩
    by_contra neither
    rw [not_or] at neither
    obtain ⟨e, lowered, above⟩ := lowerChar_of_wide wide neither.1 neither.2
    rw [lowered, List.mem_singleton] at held
    subst held
    omega
  · rintro (rfl | rfl)
    · exact ⟨'i', by simp [lowerChar_dotted], by decide⟩
    · exact ⟨'k', by simp [lowerChar_kelvin], by decide⟩

/-! ### Words at the front of a text -/

/-- A word of small ASCII letters that no other character becomes a part of when
it is lower-cased. -/
structure Keyword (word : List Char) : Prop where
  ascii : ∀ c ∈ word, c.toNat < 0x80
  no_kelvin : 'k' ∉ word
  no_dotted : word.getLast? ≠ some 'i'

instance (word : List Char) : Decidable (Keyword word) :=
  decidable_of_iff
    ((word.all fun c => c.toNat < 0x80) = true ∧ 'k' ∉ word ∧ word.getLast? ≠ some 'i')
    ⟨fun ⟨ascii, no_kelvin, no_dotted⟩ =>
        ⟨fun c held => of_decide_eq_true (List.all_eq_true.mp ascii c held), no_kelvin, no_dotted⟩,
      fun ⟨ascii, no_kelvin, no_dotted⟩ =>
        ⟨List.all_eq_true.mpr fun c held => decide_eq_true (ascii c held), no_kelvin, no_dotted⟩⟩

theorem Keyword.tail {letter : Char} {word : List Char} (keyword : Keyword (letter :: word)) :
    Keyword word where
  ascii c held := keyword.ascii c (List.mem_cons_of_mem _ held)
  no_kelvin held := keyword.no_kelvin (List.mem_cons_of_mem _ held)
  no_dotted last := by
    refine keyword.no_dotted ?_
    rw [List.getLast?_cons, last]
    rfl

/-- A character outside of ASCII never supplies the next letters of a keyword. -/
theorem not_prefix_lowerChar {letter c : Char} {word : List Char}
    (keyword : Keyword (letter :: word)) (wide : 0x80 ≤ c.toNat) (lowered : List Char) :
    ¬ letter :: word <+: lowerChar c ++ lowered := by
  have ascii : letter.toNat < 0x80 := keyword.ascii letter List.mem_cons_self
  intro opens
  by_cases dotted : c = '\u0130'
  · rw [dotted, lowerChar_dotted] at opens
    obtain ⟨rfl, behind⟩ := List.cons_prefix_cons.mp opens
    -- Behind the `i` the keyword has another letter, which is no combining dot.
    cases word with
    | nil => exact keyword.no_dotted rfl
    | cons second others =>
        obtain ⟨rfl, -⟩ := List.cons_prefix_cons.mp behind
        exact absurd (keyword.ascii '\u0307' (by simp)) (by decide)
  · by_cases kelvin : c = '\u212A'
    · rw [kelvin, lowerChar_kelvin] at opens
      obtain ⟨rfl, -⟩ := List.cons_prefix_cons.mp opens
      exact keyword.no_kelvin List.mem_cons_self
    · obtain ⟨d, single, above⟩ := lowerChar_of_wide wide dotted kelvin
      rw [single] at opens
      obtain ⟨rfl, -⟩ := List.cons_prefix_cons.mp opens
      omega

/-- Only text that is ASCII itself becomes a keyword when it is lower-cased.
Whether a sigma ends a word plays no part, since neither form is ASCII. -/
theorem prefix_lowercaseBehind_iff {word : List Char} (keyword : Keyword word)
    (before text : List Char) :
    word <+: lowercaseBehind before text ↔ (text.take word.length).map Char.toLower = word := by
  induction word generalizing before text with
  | nil => simp
  | cons letter word ih =>
      have ascii : letter.toNat < 0x80 := keyword.ascii letter List.mem_cons_self
      cases text with
      | nil => simp [lowercaseBehind]
      | cons c rest =>
          rw [lowercaseBehind, List.length_cons, List.take_succ_cons, List.map_cons,
            List.cons_eq_cons]
          by_cases inside : c.toNat < 0x80
          · have no_sigma : c ≠ '\u03A3' := by
              rintro rfl
              exact absurd inside (by decide)
            have step := ih keyword.tail (c :: before) rest
            simp only [no_sigma, decide_false, Bool.false_and, Bool.false_eq_true, if_false,
              lowerChar_of_ascii inside, List.singleton_append, List.cons_prefix_cons, step]
            rw [eq_comm (a := letter)]
          · have wide : 0x80 ≤ c.toNat := Nat.le_of_not_lt inside
            have kept : c.toLower = c := toLower_of_not_capital (by omega)
            rw [kept]
            constructor
            · intro opens
              exfalso
              split at opens
              · obtain ⟨rfl, -⟩ := List.cons_prefix_cons.mp opens
                exact absurd ascii (by decide)
              · exact not_prefix_lowerChar keyword wide _ opens
            · rintro ⟨rfl, -⟩
              omega

/-- A lower-cased text opens with a keyword exactly if the text itself spells it,
the case of ASCII letters aside. -/
theorem prefix_lowercase_iff {word : List Char} (keyword : Keyword word) (text : List Char) :
    word <+: lowercase text ↔ (text.take word.length).map Char.toLower = word :=
  prefix_lowercaseBehind_iff keyword [] text

end Stepwise.Text
