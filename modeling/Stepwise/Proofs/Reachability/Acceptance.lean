/-
Module: Stepwise.Proofs.Reachability.Acceptance
Purpose: Which workflows validation accepts, and how long its list can get.
Main exports: Workflow.Positional, Workflow.Resolving, Workflow.validate_accepts_iff,
  Workflow.Positional.injective, Workflow.Positional.map_name_take,
  Workflow.length_le_of_validate
-/
import Stepwise.Proofs.Reachability.Validation

namespace Stepwise

/-!
Acceptance depends on names and connections only, so the search never rejects
anything.  What the list adds is that it names no step twice, because the
search finds no index twice and positional names tell indices apart.
-/

/-- Every step bears its positional name. -/
def Workflow.Positional (w : Workflow) : Prop :=
  ∀ index : Fin w.length, (w.get index).name = Step.nameOf (index.val + 1)

/-- Every connection of every step leads to a step. -/
def Workflow.Resolving (w : Workflow) : Prop :=
  ∀ index : Fin w.length, ∀ reference ∈ (w.get index).connections,
    ∃ next, w.resolve (w.get index).name reference = .ok next

namespace Reachability

/-- The result of a search lists no index twice. -/
theorem nodup_explore {n : Nat} (targets : Fin n → List (Fin n)) (entry : Fin n) :
    (explore targets n [] [entry]).Nodup := by
  have complete :=
    (searching_explore (.start entry : Searching targets [] [entry]) (Nat.le_add_right n _)).1
  simpa using complete.nodup

end Reachability

namespace Workflow

variable {w : Workflow}

/-- Validation accepts exactly the workflows with positional names whose
connections all lead somewhere. -/
theorem validate_accepts_iff :
    (∃ names, w.validate = .ok names) ↔ w.Positional ∧ w.Resolving := by
  have resolved : (∃ targets, w.targets = .ok targets) ↔ w.Resolving := by
    rw [targets, exists_mapM_eq_ok_iff]
    simp only [exists_mapM_eq_ok_iff, Resolving, get, List.forall_mem_iff_get]
  simp only [validate_eq_ok_iff, ← resolved]
  constructor
  · rintro ⟨names, named, targets, found, -⟩
    exact ⟨named, targets, found⟩
  · rintro ⟨named, targets, found⟩
    exact ⟨_, named, targets, found, rfl⟩

/-- Positional names tell the steps apart. -/
theorem Positional.injective (named : w.Positional) :
    Function.Injective fun index : Fin w.length => (w.get index).name := by
  intro index other same
  have ordinals := Step.nameOf_injective ((named index).symm.trans (same.trans (named other)))
  exact Fin.ext (Nat.succ_injective ordinals)

/-- The first names of a workflow with positional names. -/
theorem Positional.map_name_take {w : Workflow} (named : w.Positional) {count : Nat}
    (within : count ≤ w.length) :
    (w.steps.take count).map Step.name =
      (List.range count).map fun index => Step.nameOf (index + 1) := by
  refine List.ext_getElem ?_ fun index inside _ => ?_
  · rw [List.length_map, List.length_take, List.length_map, List.length_range]
    exact Nat.min_eq_left within
  · rw [List.length_map, List.length_take] at inside
    have step := named ⟨index, Nat.lt_of_lt_of_le inside (Nat.min_le_right _ _)⟩
    simpa [get] using step

theorem nodup_reachable (targets : List (List (Fin w.length))) :
    (w.reachable targets).Nodup := by
  unfold reachable
  split
  · exact Reachability.nodup_explore _ _
  · exact List.nodup_nil

/-- Validation lists no more names than there are steps. -/
theorem length_le_of_validate {names : List String} (valid : w.validate = .ok names) :
    names.length ≤ w.length := by
  obtain ⟨-, targets, -, rfl⟩ := validate_eq_ok_iff.mp valid
  have bound := (nodup_reachable targets).length_le_card
  rwa [Fintype.card_fin, ← List.length_map fun index => Step.nameOf (index.val + 1)] at bound

end Workflow

end Stepwise
