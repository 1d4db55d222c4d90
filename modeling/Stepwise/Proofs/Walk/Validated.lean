/-
Module: Stepwise.Proofs.Walk.Validated
Purpose: What validation promises a walk: no reference fails, and no step is
  mentioned that validation did not list.
Main exports: Evaluator.StaysWithin, Evaluator.Path.name_mem, Evaluator.run_staysWithin,
  Evaluator.run_of_validate_ok
-/
import Stepwise.Proofs.Reachability.Validation
import Stepwise.Proofs.Walk.Cycle

namespace Stepwise

/-!
Validation searches over all connections and the walk follows first ones only,
so whatever a walk arrives at has been found by the search.  The policies only
choose how far along its path a walk gets and with which ending; every ending
speaks about the last step of a path.
-/

/-- The walk moves along connections. -/
theorem Workflow.Links.connects {w : Workflow} {index next : Fin w.length}
    (link : w.Links index next) : w.Connects index next := by
  obtain ⟨-, reference, first, leads⟩ := link
  exact ⟨reference, List.mem_of_mem_head? first, leads⟩

namespace Evaluator

variable {σ : Type} {evaluator : Evaluator σ} {w : Workflow} {context : Context}
  {names : List String}

/-- An outcome that only speaks of steps with the given names, and does not
find fault with the workflow itself. -/
def StaysWithin (names : List String) : Except WorkflowFault Report → Prop
  | .ok report => ∀ name ∈ report.visited, name ∈ names
  | .error (.stepFailed step _) => step ∈ names
  | .error (.unboundedTraversal _ next) => next ∈ names
  | .error (.malformedReference ..) => False
  | .error (.misnamedStep ..) => False

/-- A path from the entry of an accepted workflow arrives at listed steps. -/
theorem Path.name_mem {nonempty : 0 < w.length} {last : Fin w.length} {state final : σ}
    {visits : List (Visit w.length)} (valid : w.validate = .ok names)
    (path : evaluator.Path w context ⟨0, nonempty⟩ state visits last final) :
    (w.get last).name ∈ names :=
  Workflow.name_mem_of_validate valid (path.reaches.lift id fun _ _ link => link.connects)

/-- The visits of such a path are visits of listed steps as well: each of them
was the last step of a shorter path. -/
theorem Path.visited_mem {nonempty : 0 < w.length} {last : Fin w.length} {state final : σ}
    {visits : List (Visit w.length)} (valid : w.validate = .ok names)
    (path : evaluator.Path w context ⟨0, nonempty⟩ state visits last final) {name : String}
    (visited : name ∈ w.namesOf visits) : name ∈ names := by
  obtain ⟨visit, member, rfl⟩ := List.mem_map.mp visited
  obtain ⟨_, _, _, _, -, before, -⟩ := path.split (List.mem_map_of_mem member)
  exact before.name_mem valid

/-- No visit to a step of an accepted workflow breaks on a reference. -/
theorem Breaks.stepFailed_of_validate {index : Fin w.length} {state after : σ}
    {fault : WorkflowFault} (valid : w.validate = .ok names)
    (breakage : evaluator.Breaks w context index state fault after) :
    ∃ cause, fault = .stepFailed (w.get index).name cause := by
  cases breakage with
  | stepFailed execution => exact ⟨_, rfl⟩
  | malformedReference execution clearance connection resolution =>
      have held := List.mem_of_mem_head? connection
      obtain ⟨next, leads⟩ := Workflow.locate_ok_of_validate valid held
      rw [leads] at resolution
      cases resolution

/-- Every ending of a walk through an accepted workflow keeps to its list. -/
theorem Ends.staysWithin {nonempty : 0 < w.length} {limit : Nat} {state final : σ}
    {outcome : Except WorkflowFault Report} (valid : w.validate = .ok names)
    (ending : evaluator.Ends w context limit ⟨0, nonempty⟩ state outcome final) :
    StaysWithin names outcome := by
  cases ending with
  | halted path room halt =>
      intro name visited
      simp only [Report.ofVisits, Workflow.namesOf, List.map_append, List.mem_append,
        List.map_cons, List.map_nil, List.mem_singleton] at visited
      rcases visited with earlier | atEnd
      · exact path.visited_mem valid earlier
      · exact atEnd ▸ path.name_mem valid
  | broken path room breakage =>
      obtain ⟨cause, rfl⟩ := breakage.stepFailed_of_validate valid
      exact path.name_mem valid
  | exhausted path full => exact path.name_mem valid

/-- So does every run of one. -/
theorem run_staysWithin (valid : w.validate = .ok names) (evaluator : Evaluator σ)
    (context : Context) (state : σ) : StaysWithin names (evaluator.run w context state).1 := by
  by_cases nonempty : 0 < w.length
  · exact (evaluator.ends_run context state nonempty).staysWithin valid
  · rw [run_of_empty nonempty]
    simp [StaysWithin, Report.empty]

/-- Validation makes walks safe, whatever the policies do: a walk through an
accepted workflow never fails on a reference, everything it mentions is in the
list of reachable names, and each name in that list is the name of one step. -/
theorem run_of_validate_ok (w : Workflow) (names : List String)
    (valid : w.validate = .ok names) :
    (∀ {σ : Type} (evaluator : Evaluator σ) (context : Context) (state : σ),
        StaysWithin names (evaluator.run w context state).1) ∧
      ∀ name ∈ names, ∃! index : Fin w.length, (w.get index).name = name := by
  refine ⟨?_, fun name listed => Workflow.existsUnique_name_of_validate valid listed⟩
  intro σ evaluator context state
  exact run_staysWithin valid evaluator context state

/-- An executor that carries out no decision. -/
def withoutDecisions : Evaluator CallLog :=
  { executor := .recorded fun step _ =>
      if step.kind = .decision then .error ⟨"offline"⟩ else .ok 1.0
    condition := .always
    ceilingFactor := 0 }

/-- The failing step of the circle is one that validation lists, and once. -/
theorem withoutDecisions_stepFailed :
    retryLoop.validate = .ok ["step_1", "step_2"] ∧
      (withoutDecisions.run retryLoop .empty .empty).1 =
        .error (.stepFailed "step_2" ⟨"offline"⟩) ∧
      "step_2" ∈ ["step_1", "step_2"] ∧
      ∃! index : Fin retryLoop.length, (retryLoop.get index).name = "step_2" := by
  have valid : retryLoop.validate = .ok ["step_1", "step_2"] := rfl
  obtain ⟨safe, unique⟩ := run_of_validate_ok retryLoop _ valid
  have listed : "step_2" ∈ ["step_1", "step_2"] := safe withoutDecisions .empty .empty
  exact ⟨valid, rfl, listed, unique "step_2" listed⟩

end Evaluator

end Stepwise
