/-
Module: Stepwise.Proofs.Concept.Validation
Purpose: Built workflows are valid, and all of their steps are reachable.
Main exports: Reachability.explore_line, Workflow.resolving_ofConcepts,
  Workflow.unbranched_ofConcepts, Workflow.validate_ofConcepts, Workflow.validate_extracted
-/
import Mathlib.Data.List.FinRange
import Stepwise.Proofs.Concept.Chain
import Stepwise.Proofs.Concept.Prompt
import Stepwise.Proofs.Reachability.Unbranched

namespace Stepwise

/-!
The builder and the validator agree on names and on references: a step of a
chain is connected by the positional name of the step behind it, and that name
is located there.  So the indices in their order are a chain of connections
from the entry to a step without any, and the search lists them all.
-/

/-- A search in which every index leads to the next one and the last to none
lists all indices in their order. -/
theorem Reachability.explore_line {n : Nat} {targets : Fin n → List (Fin n)} (nonempty : 0 < n)
    (short : ∀ index, (targets index).length ≤ 1)
    (onward : ∀ index next : Fin n, next.val = index.val + 1 → Leads targets index next)
    (deadEnd : ∀ index : Fin n, index.val + 1 = n → targets index = []) :
    explore targets n [] [⟨0, nonempty⟩] = List.finRange n := by
  obtain ⟨count, rfl⟩ := Nat.exists_eq_succ_of_ne_zero nonempty.ne'
  have linked : (List.finRange (count + 1)).IsChain (Leads targets) :=
    List.isChain_iff_getElem.mpr fun index inside => onward _ _ (by simp)
  have cut := List.finRange_succ_last (n := count)
  rw [List.finRange_succ] at linked cut ⊢
  exact explore_eq_of_deadEnd short linked cut (deadEnd (Fin.last count) rfl)

namespace Workflow

variable {concepts : List String}

/-- The connections of a built step. -/
theorem connections_ofConcepts (index : Fin (ofConcepts concepts).length) :
    ((ofConcepts concepts).get index).connections =
      if index.val + 1 < (ofConcepts concepts).length then [Step.nameOf (index.val + 2)]
      else [] := by
  obtain ⟨concept, -, step⟩ := get_ofConcepts concepts index
  rw [step, ← length_ofConcepts]
  rfl

theorem unbranched_ofConcepts (concepts : List String) : (ofConcepts concepts).Unbranched := by
  intro index
  rw [connections_ofConcepts]
  split
  · exact Nat.le_refl 1
  · exact Nat.zero_le 1

section Sized

variable (sized : (ofConcepts concepts).length < sizeLimit)

include sized

theorem resolving_ofConcepts : (ofConcepts concepts).Resolving := by
  intro index reference held
  rw [connections_ofConcepts] at held
  split at held
  next further =>
    rw [List.mem_singleton.mp held]
    exact ⟨_, resolve_eq_ok_iff.mpr (locate_nameOf sized further)⟩
  · cases held

/-- A built step is connected to the step behind it. -/
theorem connects_ofConcepts {index next : Fin (ofConcepts concepts).length}
    (behind : next.val = index.val + 1) : (ofConcepts concepts).Connects index next := by
  have further : index.val + 1 < (ofConcepts concepts).length := behind ▸ next.isLt
  refine ⟨Step.nameOf (index.val + 2), ?_, ?_⟩
  · rw [connections_ofConcepts, if_pos further]
    exact List.mem_singleton_self _
  · rw [locate_nameOf sized further]
    exact congrArg Except.ok (Fin.ext behind.symm)

/-- Validation lists all steps of a built workflow in their order. -/
theorem validate_ofConcepts :
    (ofConcepts concepts).validate =
      .ok ((List.range concepts.length).map fun index => Step.nameOf (index + 1)) := by
  have named := positional_ofConcepts concepts
  obtain ⟨names, valid⟩ := validate_accepts_iff.mpr ⟨named, resolving_ofConcepts sized⟩
  rw [valid, ← length_ofConcepts]
  by_cases nonempty : 0 < (ofConcepts concepts).length
  · obtain ⟨targets, lengths, leads, rfl⟩ := exists_explore_of_validate valid nonempty
    have short (index) : (targets index).length ≤ 1 :=
      lengths index ▸ unbranched_ofConcepts concepts index
    have onward (index next : Fin (ofConcepts concepts).length)
        (behind : next.val = index.val + 1) : Reachability.Leads targets index next :=
      (leads index next).mpr (connects_ofConcepts sized behind)
    have deadEnd (index : Fin (ofConcepts concepts).length)
        (last : index.val + 1 = (ofConcepts concepts).length) : targets index = [] := by
      rw [← List.length_eq_zero_iff, lengths, connections_ofConcepts, if_neg last.not_lt,
        List.length_nil]
    rw [Reachability.explore_line nonempty short onward deadEnd, ← List.map_coe_finRange_eq_range,
      List.map_map]
    exact congrArg Except.ok (List.map_congr_left fun index _ => named index)
  · have unlisted := length_le_of_validate valid
    obtain rfl : names = [] := List.length_eq_zero_iff.mp (by omega)
    rw [Nat.eq_zero_of_not_pos nonempty]
    rfl

end Sized

/-- Whatever texts an extractor finds in a prompt, the workflow built from them
has one step for each, in order and named by its position, and validation lists
all of these names in order.  The extractor by lines finds a text in each line
with a character that is not white space. -/
theorem validate_extracted (extract : String → List String) (prompt : String)
    (sized : (extract prompt).length < sizeLimit) :
    (ofConcepts (extract prompt)).steps.map Step.instruction = extract prompt ∧
      (ofConcepts (extract prompt)).steps.map Step.name =
        ((List.range (extract prompt).length).map fun index => Step.nameOf (index + 1)) ∧
      (ofConcepts (extract prompt)).validate =
        .ok ((List.range (extract prompt).length).map fun index => Step.nameOf (index + 1)) ∧
      (ofPrompt prompt).length =
        (Concept.lines prompt).countP fun line =>
          line.toList.any fun c => !Text.isWhiteSpace c := by
  have named := positional_ofConcepts (extract prompt)
  refine ⟨map_instruction_ofConcepts (extract prompt), ?_, ?_, ?_⟩
  · have names := named.map_name_take (Nat.le_refl _)
    rwa [List.take_length, length_ofConcepts] at names
  · rw [← length_ofConcepts] at sized
    exact validate_ofConcepts sized
  · rw [ofPrompt, length_ofConcepts, Concept.ofPrompt_eq_filter_lines,
      List.countP_eq_length_filter]

/-- An extractor that finds an empty text, one of white space and one of two
lines; the prompt has five lines, of which an empty one, one of an ideographic
space and one of a carriage return are blank. -/
theorem validate_extracted_blanks :
    (["", " \t", "one\ntwo?"] : List String).length < sizeLimit ∧
      (ofConcepts ["", " \t", "one\ntwo?"]).validate = .ok ["step_1", "step_2", "step_3"] ∧
      (ofPrompt "load\n\n\u3000\n\u200b\n\r").length = 2 := by
  have sized : (["", " \t", "one\ntwo?"] : List String).length < sizeLimit := by decide
  have built := validate_extracted (fun _ => ["", " \t", "one\ntwo?"])
    "load\n\n\u3000\n\u200b\n\r" sized
  refine ⟨sized, built.2.2.1, ?_⟩
  rw [built.2.2.2]
  decide

end Workflow

end Stepwise
