/-
Module: Stepwise.Proofs.Concept.Prompt
Purpose: The lines of a prompt, and which of them become concepts.
Main exports: Concept.lines, Concept.eq_lines_iff, Concept.ofPrompt_eq_filter_lines
-/
import Mathlib.Data.List.Basic
import Stepwise.Concept

namespace Stepwise.Concept

/-!
The lines of a prompt are known without saying how it is cut: they hold no line
feed, and joined by line feeds they are the prompt again.  Only one list does
both, apart from the empty list, which joins to the empty prompt as well.  A
final line feed has an empty line behind it.  Like all lines of white space it
becomes no concept, and every other line becomes one as it stands.
-/

/-- The lines of a prompt: what stands before, between and behind its line
feeds. -/
def lines (prompt : String) : List String :=
  (prompt.toList.splitOn '\n').map String.ofList

/-- No piece of a split text holds the separator. -/
theorem not_mem_of_mem_splitOn {α : Type} [DecidableEq α] {separator : α} {text piece : List α}
    (held : piece ∈ text.splitOn separator) : separator ∉ piece := by
  induction text generalizing piece with
  | nil =>
      rw [List.splitOn_nil, List.mem_singleton] at held
      rw [held]
      exact List.not_mem_nil
  | cons first text ih =>
      rw [List.splitOn_cons_eq_if_modifyHead] at held
      split at held
      next separated =>
        rcases List.mem_cons.mp held with rfl | further
        · exact List.not_mem_nil
        · exact ih further
      next apart =>
        -- The first piece grows by one element, which is no separator.
        cases pieces : text.splitOn separator with
        | nil => exact absurd pieces (List.splitOn_ne_nil separator text)
        | cons head rest =>
            rw [pieces] at held ih
            rcases List.mem_cons.mp held with rfl | further
            · intro inside
              rcases List.mem_cons.mp inside with rfl | behind
              · exact apart (beq_self_eq_true _)
              · exact ih List.mem_cons_self behind
            · exact ih (List.mem_cons_of_mem head further)

/-- What the lines of a prompt are: texts without line feeds that make up the
prompt when line feeds are put between them. -/
theorem eq_lines_iff {prompt : String} {pieces : List String} :
    pieces = lines prompt ↔
      pieces ≠ [] ∧ (∀ piece ∈ pieces, '\n' ∉ piece.toList) ∧
        "\n".intercalate pieces = prompt := by
  constructor
  · rintro rfl
    refine ⟨?_, ?_, ?_⟩
    · intro unlined
      exact List.splitOn_ne_nil '\n' prompt.toList (List.map_eq_nil_iff.mp unlined)
    · intro piece held
      rcases List.mem_map.mp held with ⟨line, cut, rfl⟩
      rw [String.toList_ofList]
      exact not_mem_of_mem_splitOn cut
    · apply String.toList_inj.mp
      rw [String.toList_intercalate, lines, List.map_map]
      have unchanged : String.toList ∘ String.ofList = id :=
        funext fun _ => String.toList_ofList
      rw [unchanged, List.map_id]
      exact List.intercalate_splitOn '\n'
  · rintro ⟨pieced, unbroken, rfl⟩
    have cut : ("\n".intercalate pieces).toList.splitOn '\n' = pieces.map String.toList := by
      rw [String.toList_intercalate]
      apply List.splitOn_intercalate
      · intro line held
        rcases List.mem_map.mp held with ⟨piece, among, rfl⟩
        exact unbroken piece among
      · intro unpieced
        exact pieced (List.map_eq_nil_iff.mp unpieced)
    have unchanged : String.ofList ∘ String.toList = id :=
      funext fun _ => String.ofList_toList
    rw [lines, cut, List.map_map, unchanged, List.map_id]

/-- The concepts of a prompt are its lines with a character that is not white
space, each as it stands. -/
theorem ofPrompt_eq_filter_lines (prompt : String) :
    ofPrompt prompt =
      (lines prompt).filter fun line => line.toList.any fun c => !Text.isWhiteSpace c := by
  unfold ofPrompt lines
  rw [List.filter_map]
  apply congrArg (List.map String.ofList)
  apply List.filter_congr
  intro line _
  rw [Text.isBlank, Function.comp_apply, String.toList_ofList, List.not_all_eq_any_not]

end Stepwise.Concept
