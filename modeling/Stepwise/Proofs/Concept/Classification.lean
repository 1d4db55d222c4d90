/-
Module: Stepwise.Proofs.Concept.Classification
Purpose: The kind of a step, read off its concept without lower-casing it.
Main exports: Concept.OpensWith, Concept.terminal_iff_opensWith, Concept.ascii_of_opensWith,
  Concept.kind_exact
-/
import Stepwise.Concept
import Stepwise.Proofs.Text.Casing

namespace Stepwise.Concept

/-!
The closing words are looked for in the lower-cased concept, and lower-casing
reaches far beyond ASCII.  It makes no difference: a concept is terminal exactly
if its first characters are the letters of a closing word, each small or
capital.  So a few characters decide, and none of them is outside of ASCII.
-/

/-- The first characters of the text spell the word, if capital letters of ASCII
count as small ones and every other character as itself. -/
def OpensWith (word text : String) : Prop :=
  (text.toList.take word.length).map Char.toLower = word.toList

instance (word text : String) : Decidable (OpensWith word text) :=
  inferInstanceAs (Decidable (_ = _))

theorem closingWords_eq : closingWords = ["finish", "end", "complete"].map String.toList :=
  rfl

/-- No closing word is mistaken for anything else in a lower-cased text. -/
theorem keyword_of_closing :
    ∀ word ∈ ["finish", "end", "complete"], Text.Keyword word.toList := by
  decide

variable {word concept : String}

/-- Lower-casing finds a closing word where the text itself spells it. -/
theorem prefix_lowercase_iff_opensWith (closing : word ∈ ["finish", "end", "complete"]) :
    word.toList <+: Text.lowercase concept.toList ↔ OpensWith word concept := by
  rw [Text.prefix_lowercase_iff (keyword_of_closing word closing), String.length_toList]
  rfl

theorem closed_iff :
    (closingWords.any fun word => word.isPrefixOf (Text.lowercase concept.toList)) = true ↔
      ∃ word ∈ ["finish", "end", "complete"], OpensWith word concept := by
  rw [closingWords_eq, List.any_map, List.any_eq_true]
  apply exists_congr
  intro word
  apply and_congr_right
  intro closing
  exact List.isPrefixOf_iff_prefix.trans (prefix_lowercase_iff_opensWith closing)

theorem decision_iff : kind concept = .decision ↔ '?' ∈ concept.toList := by
  unfold kind
  split
  · simpa
  · split <;> simpa

/-- A concept that is no question is terminal if a closing word opens it. -/
theorem terminal_iff_opensWith (statement : '?' ∉ concept.toList) :
    kind concept = .terminal ↔
      ∃ word ∈ ["finish", "end", "complete"], OpensWith word concept := by
  rw [← closed_iff, kind, if_neg statement]
  split
  next found => exact iff_of_true rfl found
  next missing => exact iff_of_false StepKind.noConfusion missing

theorem process_iff (statement : '?' ∉ concept.toList) :
    kind concept = .process ↔
      ∀ word ∈ ["finish", "end", "complete"], ¬ OpensWith word concept := by
  have never : kind concept ≠ .decision := fun asked => statement (decision_iff.mp asked)
  have closed := terminal_iff_opensWith statement
  constructor
  · intro goes_on word closing opens
    have ends : kind concept = .terminal := closed.mpr ⟨word, closing, opens⟩
    rw [goes_on] at ends
    cases ends
  · intro none
    cases made : kind concept with
    | process => rfl
    | decision => exact absurd made never
    | terminal =>
        obtain ⟨word, closing, opens⟩ := closed.mp made
        exact absurd opens (none word closing)

/-- The characters that spell a closing word are ASCII. -/
theorem ascii_of_opensWith (closing : word ∈ ["finish", "end", "complete"])
    (opens : OpensWith word concept) :
    ∀ c ∈ concept.toList.take word.length, c.toNat < 0x80 := by
  intro c held
  have spelled : c.toLower ∈ word.toList := by
    rw [← opens]
    exact List.mem_map_of_mem held
  have small : c.toLower.toNat < 0x80 := (keyword_of_closing word closing).ascii _ spelled
  by_cases capital : 0x41 ≤ c.toNat ∧ c.toNat ≤ 0x5A
  · omega
  · rwa [Text.toLower_of_not_capital capital] at small

/-- Closing words have at most eight letters. -/
theorem opensWith_congr {concept' : String} (closing : word ∈ ["finish", "end", "complete"])
    (same : concept.toList.take 8 = concept'.toList.take 8) :
    OpensWith word concept ↔ OpensWith word concept' := by
  have short : ∀ word ∈ ["finish", "end", "complete"], word.length ≤ 8 := by decide
  have front (text : String) :
      text.toList.take word.length = (text.toList.take 8).take word.length := by
    rw [List.take_take, Nat.min_eq_left (short word closing)]
  unfold OpensWith
  rw [front concept, front concept', same]

/-- A concept with a question mark is a decision; any other one is terminal if its
first characters spell a closing word, ASCII letters of both cases being alike,
and a process if not.  Lower-casing never brings a closing word about: characters
outside of ASCII in its place rule it out, although two of them, U+0130 and the
Kelvin sign, have ASCII letters in their lower-case forms.  Without a question
mark the first eight characters tell the kind. -/
theorem kind_exact :
    (∀ concept : String, kind concept = .decision ↔ '?' ∈ concept.toList) ∧
      (∀ concept : String, '?' ∉ concept.toList →
        (kind concept = .terminal ↔
            ∃ word ∈ ["finish", "end", "complete"], OpensWith word concept) ∧
          (kind concept = .process ↔
            ∀ word ∈ ["finish", "end", "complete"], ¬ OpensWith word concept)) ∧
      (∀ concept : String, kind concept = .terminal →
        ∃ word ∈ ["finish", "end", "complete"],
          OpensWith word concept ∧ ∀ c ∈ concept.toList.take word.length, c.toNat < 0x80) ∧
      (∀ concept : String, ∀ word ∈ ["finish", "end", "complete"],
        (∃ c ∈ concept.toList.take word.length, 0x80 ≤ c.toNat) →
          ¬ word.toList <+: Text.lowercase concept.toList) ∧
      (∀ c : Char, 0x80 ≤ c.toNat →
        ((∃ d ∈ Text.lowerChar c, d.toNat < 0x80) ↔ c = '\u0130' ∨ c = '\u212A')) ∧
      (Text.lowerChar '\u0130' = ['i', '\u0307'] ∧ Text.lowerChar '\u212A' = ['k']) ∧
      ∀ concept concept' : String, '?' ∉ concept.toList → '?' ∉ concept'.toList →
        concept.toList.take 8 = concept'.toList.take 8 → kind concept = kind concept' := by
  refine ⟨fun _ => decision_iff, ?_, ?_, ?_, fun _ => Text.exists_ascii_lowerChar_iff,
    ⟨Text.lowerChar_dotted, Text.lowerChar_kelvin⟩, ?_⟩
  · intro concept statement
    exact ⟨terminal_iff_opensWith statement, process_iff statement⟩
  · intro concept ends
    have statement : '?' ∉ concept.toList := by
      intro asked
      rw [decision_iff.mpr asked] at ends
      cases ends
    obtain ⟨word, closing, opens⟩ := (terminal_iff_opensWith statement).mp ends
    exact ⟨word, closing, opens, ascii_of_opensWith closing opens⟩
  · rintro concept word closing ⟨c, held, wide⟩ opens
    have spelled := (prefix_lowercase_iff_opensWith closing).mp opens
    exact absurd (ascii_of_opensWith closing spelled c held) (Nat.not_lt.mpr wide)
  · intro concept concept' statement statement' same
    have alike : kind concept = .terminal ↔ kind concept' = .terminal := by
      rw [terminal_iff_opensWith statement, terminal_iff_opensWith statement']
      apply exists_congr
      intro word
      exact and_congr_right fun closing => opensWith_congr closing same
    have never {text : String} (plain : '?' ∉ text.toList) : kind text ≠ .decision :=
      fun asked => plain (decision_iff.mp asked)
    cases made : kind concept with
    | decision => exact absurd made (never statement)
    | terminal => exact (alike.mp made).symm
    | process =>
        cases made' : kind concept' with
        | decision => exact absurd made' (never statement')
        | process => rfl
        | terminal =>
            rw [alike.mpr made'] at made
            cases made

/-- Capitals end a walk, a dotted capital I in the place of an `i` does not, and
what follows the eight letters of the longest closing word makes no difference. -/
theorem kind_exact_dotted :
    '?' ∉ "FiNIsH!".toList ∧ '?' ∉ "F\u0130NISH".toList ∧ kind "FiNIsH!" = .terminal ∧
      kind "F\u0130NISH" = .process ∧ 0x80 ≤ '\u0130'.toNat ∧
      (∃ c ∈ "F\u0130NISH".toList.take "finish".length, 0x80 ≤ c.toNat) ∧
      ¬ "finish".toList <+: Text.lowercase "F\u0130NISH".toList ∧
      '?' ∉ "Complete\u03A3".toList ∧
      "Complete\u03A3".toList.take 8 = "Completed".toList.take 8 ∧
      kind "Complete\u03A3" = kind "Completed" := by
  obtain ⟨-, others, spelled, never, -, -, front⟩ := kind_exact
  have first : '?' ∉ "FiNIsH!".toList := by decide
  have second : '?' ∉ "F\u0130NISH".toList := by decide
  have third : '?' ∉ "Complete\u03A3".toList := by decide
  have wide : ∃ c ∈ "F\u0130NISH".toList.take "finish".length, 0x80 ≤ c.toNat :=
    ⟨'\u0130', by decide, by decide⟩
  have same : "Complete\u03A3".toList.take 8 = "Completed".toList.take 8 := by decide
  have opens : kind "FiNIsH!" = .terminal :=
    (others "FiNIsH!" first).1.mpr ⟨"finish", by decide, by decide⟩
  exact ⟨first, second, opens, (others _ second).2.mpr (by decide), by decide, wide,
    never _ "finish" (by decide) wide, third, same, front _ _ third (by decide) same⟩

end Stepwise.Concept
