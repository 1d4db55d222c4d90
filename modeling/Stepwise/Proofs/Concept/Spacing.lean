/-
Module: Stepwise.Proofs.Concept.Spacing
Purpose: Concepts are found again among any blank lines.
Main exports: Concept.IsConcept, Concept.IsBlankLine, Concept.Spaced, Concept.Spaced.filter_eq,
  Concept.Spaced.ofPrompt_intercalate, Concept.isConcept_of_mem_ofPrompt,
  Workflow.ofPrompt_spaced
-/
import Stepwise.Proofs.Concept.Chain
import Stepwise.Proofs.Concept.Prompt

namespace Stepwise

/-!
Texts on lines of their own are the concepts of the prompt that they make up,
provided that each can be one: it stays on one line and is more than white
space.  Blank lines among them are lost, and nothing else is.  So the concepts
of a prompt make up another prompt with the same concepts.
-/

namespace Concept

/-- A text that is one line and has a character that is not white space. -/
def IsConcept (text : String) : Prop :=
  '\n' ∉ text.toList ∧ ∃ c ∈ text.toList, Text.isWhiteSpace c = false

/-- A line of nothing but white space. -/
def IsBlankLine (line : String) : Prop :=
  '\n' ∉ line.toList ∧ ∀ c ∈ line.toList, Text.isWhiteSpace c = true

/-- Lines that are the given texts in their order, with blank lines put in
before, between and behind them. -/
inductive Spaced : List String → List String → Prop where
  | nil : Spaced [] []
  | blank {texts lines : List String} {line : String} (isBlank : IsBlankLine line)
      (rest : Spaced texts lines) : Spaced texts (line :: lines)
  | text {texts lines : List String} {text : String} (rest : Spaced texts lines) :
      Spaced (text :: texts) (text :: lines)

variable {texts lines : List String}

theorem Spaced.refl (texts : List String) : Spaced texts texts := by
  induction texts with
  | nil => exact .nil
  | cons text texts ih => exact .text ih

theorem selected_iff {line : String} :
    (line.toList.any fun c => !Text.isWhiteSpace c) = true ↔
      ∃ c ∈ line.toList, Text.isWhiteSpace c = false := by
  simp only [List.any_eq_true, Bool.not_eq_true']

instance (text : String) : Decidable (IsConcept text) :=
  decidable_of_iff _ (and_congr_right fun _ => selected_iff)

instance (line : String) : Decidable (IsBlankLine line) :=
  decidable_of_iff _ (and_congr_right fun _ => List.all_eq_true)

/-- The lines that are not blank are the texts. -/
theorem Spaced.filter_eq (spaced : Spaced texts lines) (fitting : ∀ text ∈ texts, IsConcept text) :
    lines.filter (fun line => line.toList.any fun c => !Text.isWhiteSpace c) = texts := by
  induction spaced with
  | nil => rfl
  | blank isBlank _rest ih =>
      rw [List.filter_cons_of_neg, ih fitting]
      intro selected
      obtain ⟨c, held, visible⟩ := selected_iff.mp selected
      rw [isBlank.2 c held] at visible
      cases visible
  | text _rest ih =>
      rw [List.forall_mem_cons] at fitting
      rw [List.filter_cons_of_pos, ih fitting.2]
      exact selected_iff.mpr fitting.1.2

theorem Spaced.newline_not_mem (spaced : Spaced texts lines)
    (fitting : ∀ text ∈ texts, IsConcept text) : ∀ line ∈ lines, '\n' ∉ line.toList := by
  induction spaced with
  | nil => exact List.forall_mem_nil _
  | blank isBlank _rest ih => exact List.forall_mem_cons.mpr ⟨isBlank.1, ih fitting⟩
  | text _rest ih =>
      rw [List.forall_mem_cons] at fitting ⊢
      exact ⟨fitting.1.1, ih fitting.2⟩

/-- Texts among blank lines are extracted as they are. -/
theorem Spaced.ofPrompt_intercalate (spaced : Spaced texts lines)
    (fitting : ∀ text ∈ texts, IsConcept text) :
    ofPrompt ("\n".intercalate lines) = texts := by
  by_cases unlined : lines = []
  -- No lines make up the empty prompt, like one empty line.
  · subst unlined
    cases spaced
    rfl
  · have cut : lines = Concept.lines ("\n".intercalate lines) :=
      eq_lines_iff.mpr ⟨unlined, spaced.newline_not_mem fitting, rfl⟩
    rw [ofPrompt_eq_filter_lines, ← cut, spaced.filter_eq fitting]

/-- Extraction finds nothing that could not be a line of its own. -/
theorem isConcept_of_mem_ofPrompt {prompt concept : String} (held : concept ∈ ofPrompt prompt) :
    IsConcept concept := by
  rw [ofPrompt_eq_filter_lines, List.mem_filter, selected_iff] at held
  exact ⟨(eq_lines_iff.mp rfl).2.1 concept held.1, held.2⟩

end Concept

namespace Workflow

/-- Joining lines and extracting concepts undo each other.  Texts that fit on a
line and are not blank are extracted from their lines as they stand, whatever
blank lines are put in, and extraction gives such texts only.  So the
instructions of a prompt's workflow, joined by line feeds, make up a prompt with
the same workflow. -/
theorem ofPrompt_spaced :
    (∀ texts lines, (∀ text ∈ texts, Concept.IsConcept text) → Concept.Spaced texts lines →
        Concept.ofPrompt ("\n".intercalate lines) = texts) ∧
      (∀ prompt, ∀ text ∈ Concept.ofPrompt prompt, Concept.IsConcept text) ∧
      ∀ prompt,
        ofPrompt ("\n".intercalate ((ofPrompt prompt).steps.map Step.instruction)) =
          ofPrompt prompt := by
  refine ⟨?_, ?_, ?_⟩
  · intro texts lines fitting spaced
    exact spaced.ofPrompt_intercalate fitting
  · intro prompt text held
    exact Concept.isConcept_of_mem_ofPrompt held
  · intro prompt
    have again : Concept.ofPrompt ("\n".intercalate (Concept.ofPrompt prompt)) =
        Concept.ofPrompt prompt :=
      (Concept.Spaced.refl _).ofPrompt_intercalate fun _ => Concept.isConcept_of_mem_ofPrompt
    rw [ofPrompt, ofPrompt, map_instruction_ofConcepts, again]

/-- Indentation and a carriage return are kept.  A zero-width space is no white
space, unlike the ideographic space and the line separator. -/
theorem ofPrompt_spaced_unusual :
    (∀ text ∈ ["  load\r", "\u200b"], Concept.IsConcept text) ∧
      Concept.Spaced ["  load\r", "\u200b"] ["\u3000", "  load\r", "", "\u2028\t", "\u200b"] ∧
      Concept.ofPrompt "\u3000\n  load\r\n\n\u2028\t\n\u200b" = ["  load\r", "\u200b"] := by
  have fitting : ∀ text ∈ ["  load\r", "\u200b"], Concept.IsConcept text := by decide
  have spaced :
      Concept.Spaced ["  load\r", "\u200b"] ["\u3000", "  load\r", "", "\u2028\t", "\u200b"] := by
    apply Concept.Spaced.blank (by decide)
    apply Concept.Spaced.text
    apply Concept.Spaced.blank (by decide)
    apply Concept.Spaced.blank (by decide)
    apply Concept.Spaced.text
    exact Concept.Spaced.nil
  exact ⟨fitting, spaced, ofPrompt_spaced.1 _ _ fitting spaced⟩

end Workflow

end Stepwise
