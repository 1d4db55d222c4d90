/-
Module: Stepwise.Proofs.Reachability.Validation
Purpose: What an accepted workflow is like: positional names, connections that
  all resolve, and a list of names that is closed under connections.
Main exports: Workflow.Connects, Workflow.validate_eq_ok_iff, Workflow.name_mem_of_validate,
  Workflow.exists_eq_nameOf_of_validate, Workflow.existsUnique_name_of_validate
-/
import Stepwise.Proofs.Except
import Stepwise.Proofs.Reachability.Search
import Stepwise.Proofs.Workflow.Resolution

namespace Stepwise

/-!
Validation lists names, but it searches over indices, and every claim about
the list goes through the indices.  Names and indices may be exchanged because
the names are positional and no two ordinals have the same name.
-/

namespace Workflow

variable {w : Workflow}

/-- Some connection of the step at `index` leads to `next`. -/
def Connects (w : Workflow) (index next : Fin w.length) : Prop :=
  ∃ reference ∈ (w.get index).connections, w.locate reference = .ok next

theorem misnamed?_eq_none_iff :
    w.misnamed? = none ↔
      ∀ index : Fin w.length, (w.get index).name = Step.nameOf (index.val + 1) := by
  simp only [misnamed?, Option.map_eq_none_iff, List.find?_eq_none]
  constructor
  · intro named index
    have entry : (w.get index, index.val) ∈ w.steps.zipIdx := by
      rw [List.mem_zipIdx_iff_getElem?]
      exact List.getElem?_eq_getElem index.isLt
    simpa using named _ entry
  · rintro named ⟨step, position⟩ entry
    have found : w.steps[position]? = some step := List.mem_zipIdx_iff_getElem?.mp entry
    obtain ⟨inside, rfl⟩ := List.getElem?_eq_some_iff.mp found
    simpa [get] using named ⟨position, inside⟩

/-- What a workflow with resolving connections gives for each step. -/
theorem resolve_connections {targets : List (List (Fin w.length))}
    (resolved : w.targets = .ok targets) (index : Fin w.length) :
    (w.get index).connections.map (w.resolve (w.get index).name) =
      (targets.getD index.val []).map .ok := by
  have rows := congrArg (fun row => row[index.val]?) (mapM_eq_ok_iff.mp resolved)
  have here : w.steps[index.val]? = some (w.get index) := List.getElem?_eq_getElem index.isLt
  simp only [List.getElem?_map, here, Option.map_some] at rows
  obtain ⟨found, at?, same⟩ := Option.map_eq_some_iff.mp rows.symm
  rw [List.getD_eq_getElem?_getD, at?, Option.getD_some]
  exact mapM_eq_ok_iff.mp same.symm

/-- The targets are the graph of connections. -/
theorem mem_targets_iff_connects {targets : List (List (Fin w.length))}
    (resolved : w.targets = .ok targets) {index next : Fin w.length} :
    next ∈ targets.getD index.val [] ↔ w.Connects index next := by
  have listed : next ∈ targets.getD index.val [] ↔
      (.ok next : Except WorkflowFault (Fin w.length)) ∈
        (w.get index).connections.map (w.resolve (w.get index).name) := by
    rw [resolve_connections resolved index]
    simp
  simp only [listed, List.mem_map, resolve_eq_ok_iff, Connects]

/-- Validation accepts when its first two stages find nothing, and then lists
what the third finds. -/
theorem validate_eq_ok_iff {names : List String} :
    w.validate = .ok names ↔
      (∀ index : Fin w.length, (w.get index).name = Step.nameOf (index.val + 1)) ∧
        ∃ targets, w.targets = .ok targets ∧
          names = (w.reachable targets).map fun index => Step.nameOf (index.val + 1) := by
  rw [← misnamed?_eq_none_iff, validate]
  cases w.misnamed? with
  | some fault => simp
  | none =>
      simp only [bind_eq_ok_iff, pure, Except.pure, Except.ok.injEq, true_and]
      simp only [eq_comm]

/-- Every connection of an accepted workflow leads somewhere. -/
theorem locate_ok_of_validate {names : List String} (valid : w.validate = .ok names)
    {index : Fin w.length} {reference : String}
    (held : reference ∈ (w.get index).connections) : ∃ next, w.locate reference = .ok next := by
  obtain ⟨-, targets, resolved, -⟩ := validate_eq_ok_iff.mp valid
  have row : w.resolve (w.get index).name reference ∈
      (targets.getD index.val []).map Except.ok := by
    rw [← resolve_connections resolved index]
    exact List.mem_map_of_mem held
  obtain ⟨next, -, leads⟩ := List.mem_map.mp row
  exact ⟨next, resolve_eq_ok_iff.mp leads.symm⟩

/-- The list of an accepted workflow names whatever connections reach. -/
theorem name_mem_of_validate {names : List String} (valid : w.validate = .ok names)
    {nonempty : 0 < w.length} {index : Fin w.length}
    (reaches : Relation.ReflTransGen w.Connects ⟨0, nonempty⟩ index) :
    (w.get index).name ∈ names := by
  obtain ⟨named, targets, resolved, rfl⟩ := validate_eq_ok_iff.mp valid
  rw [named index]
  refine List.mem_map_of_mem ?_
  rw [reachable, dif_pos nonempty]
  apply Reachability.mem_explore_of_reaches
  exact reaches.lift id fun _ _ => (mem_targets_iff_connects resolved).mpr

/-- The list of an accepted workflow holds positional names. -/
theorem exists_eq_nameOf_of_validate {names : List String} (valid : w.validate = .ok names)
    {name : String} (listed : name ∈ names) : ∃ ordinal, name = Step.nameOf ordinal := by
  obtain ⟨-, targets, -, rfl⟩ := validate_eq_ok_iff.mp valid
  obtain ⟨index, -, named⟩ := List.mem_map.mp listed
  exact ⟨index.val + 1, named.symm⟩

/-- A listed name belongs to one step of an accepted workflow and no other. -/
theorem existsUnique_name_of_validate {names : List String} (valid : w.validate = .ok names)
    {name : String} (listed : name ∈ names) :
    ∃! index : Fin w.length, (w.get index).name = name := by
  obtain ⟨named, targets, -, rfl⟩ := validate_eq_ok_iff.mp valid
  obtain ⟨index, -, rfl⟩ := List.mem_map.mp listed
  refine ⟨index, named index, ?_⟩
  -- Both indices have the name by position, and positions have different names.
  intro other same
  have ordinals := Step.nameOf_injective ((named other).symm.trans same)
  exact Fin.ext (Nat.succ_injective ordinals)

end Workflow

end Stepwise
