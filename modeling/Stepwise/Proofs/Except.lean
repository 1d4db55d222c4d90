/-
Module: Stepwise.Proofs.Except
Purpose: When checks in a row succeed, and where they fail.
Main exports: bind_eq_ok_iff, bind_eq_error_iff, mapM_eq_ok_iff, exists_mapM_eq_ok_iff,
  mapM_eq_error_iff
-/
import Mathlib.Data.Fin.Tuple.Basic

namespace Stepwise

/-!
A check after another one is made only if the first succeeds.  So a traversal
succeeds when all of its checks do, and otherwise its failure is that of the
first check that fails.
-/

variable {α β ε : Type}

theorem bind_eq_ok_iff {first : Except ε α} {after : α → Except ε β} {result : β} :
    (first >>= after) = .ok result ↔ ∃ value, first = .ok value ∧ after value = .ok result := by
  cases first with
  | error fault => exact ⟨nofun, nofun⟩
  | ok value =>
      constructor
      · exact fun passed => ⟨value, rfl, passed⟩
      · rintro ⟨_, ⟨⟩, passed⟩
        exact passed

theorem bind_eq_error_iff {first : Except ε α} {after : α → Except ε β} {fault : ε} :
    (first >>= after) = .error fault ↔
      first = .error fault ∨ ∃ value, first = .ok value ∧ after value = .error fault := by
  cases first with
  | error other =>
      constructor
      · rintro ⟨⟩
        exact Or.inl rfl
      · rintro (⟨⟨⟩⟩ | ⟨_, ⟨⟩, _⟩)
        rfl
  | ok value =>
      constructor
      · exact fun failed => Or.inr ⟨value, rfl, failed⟩
      · rintro (⟨⟨⟩⟩ | ⟨_, ⟨⟩, failed⟩)
        exact failed

/-- A traversal that may fail succeeds when it succeeds on every element. -/
theorem mapM_eq_ok_iff {check : α → Except ε β} {elements : List α} {results : List β} :
    elements.mapM check = .ok results ↔ elements.map check = results.map .ok := by
  induction elements generalizing results with
  | nil => simp [pure, Except.pure, eq_comm]
  | cons element rest ih =>
      rw [List.mapM_cons, bind_eq_ok_iff, List.map_cons]
      constructor
      · rintro ⟨result, passed, later⟩
        obtain ⟨others, all, ⟨⟩⟩ := bind_eq_ok_iff.mp later
        rw [List.map_cons, passed, ih.mp all]
      · intro passed
        obtain ⟨result, others, rfl, first, all⟩ := List.map_eq_cons_iff.mp passed.symm
        exact ⟨result, first.symm, bind_eq_ok_iff.mpr ⟨others, ih.mpr all.symm, rfl⟩⟩

/-- A traversal that may fail succeeds when each of its checks does. -/
theorem exists_mapM_eq_ok_iff {check : α → Except ε β} {elements : List α} :
    (∃ results, elements.mapM check = .ok results) ↔
      ∀ element ∈ elements, ∃ result, check element = .ok result := by
  simp only [mapM_eq_ok_iff]
  induction elements with
  | nil => simp
  | cons element rest ih =>
      rw [List.forall_mem_cons, ← ih]
      constructor
      · rintro ⟨results, passed⟩
        obtain ⟨result, others, rfl, first, all⟩ := List.map_eq_cons_iff.mp passed.symm
        exact ⟨⟨result, first.symm⟩, others, all.symm⟩
      · rintro ⟨⟨result, first⟩, others, all⟩
        exact ⟨result :: others, by rw [List.map_cons, List.map_cons, first, all]⟩

theorem mapM_cons_eq_error_iff {check : α → Except ε β} {element : α} {rest : List α}
    {fault : ε} :
    (element :: rest).mapM check = .error fault ↔
      check element = .error fault ∨
        (∃ result, check element = .ok result) ∧ rest.mapM check = .error fault := by
  rw [List.mapM_cons, bind_eq_error_iff]
  apply or_congr_right
  simp only [bind_eq_error_iff, pure, Except.pure, reduceCtorEq, and_false, exists_false, or_false,
    exists_and_right]

/-- A traversal that may fail fails where the first of its checks does. -/
theorem mapM_eq_error_iff {check : α → Except ε β} {elements : List α} {fault : ε} :
    elements.mapM check = .error fault ↔
      ∃ position : Fin elements.length, check (elements.get position) = .error fault ∧
        ∀ earlier < position, ∃ result, check (elements.get earlier) = .ok result := by
  induction elements with
  | nil => exact ⟨nofun, fun ⟨position, _⟩ => position.elim0⟩
  | cons element rest ih =>
      rw [mapM_cons_eq_error_iff, ih]
      refine Iff.trans (or_congr ?_ ?_) Fin.exists_fin_succ.symm
      · constructor
        · intro failed
          exact ⟨failed, fun earlier before => absurd before (Fin.not_lt_zero earlier)⟩
        · exact And.left
      -- In front of a later element there are the first one and those in front of it in the rest.
      · constructor
        · rintro ⟨passed, position, failed, others⟩
          refine ⟨position, failed, fun earlier before => ?_⟩
          cases earlier using Fin.cases with
          | zero => exact passed
          | succ earlier => exact others earlier (Fin.succ_lt_succ_iff.mp before)
        · rintro ⟨position, failed, passed⟩
          refine ⟨passed 0 (Fin.succ_pos position), position, failed, fun earlier before => ?_⟩
          exact passed earlier.succ (Fin.succ_lt_succ_iff.mpr before)

end Stepwise
