/-
Module: Stepwise.Proofs.Walk.Appended
Purpose: A run when steps are put behind the workflow.
Main exports: Lasting, Visit.embed, Evaluator.Path.append, Evaluator.Ends.append,
  Evaluator.run_append, Evaluator.append_keeps_outcome_and_names
-/
import Stepwise.Proofs.Reachability.Embedding
import Stepwise.Proofs.Walk.Raised

namespace Stepwise

/-!
The number of steps enters a run in two places.  It bounds the references that
lead somewhere, and it is a factor of the ceiling.  Further steps raise both
bounds, so all visits of a run are visits of the longer workflow, in the same
states and with the same answers.  What can change is the end of a run that met
one of the bounds: a reference past the end, or a ceiling that was reached.
-/

/-- An outcome that is not owed to the number of steps. -/
inductive Lasting : Except WorkflowFault Report → Prop where
  | reported (report : Report) : Lasting (.ok report)
  | stepFailed (step : String) (fault : StepFault) : Lasting (.error (.stepFailed step fault))
  | malformedReference (step reference : String) {why : ReferenceFault}
      (spelt : why ≠ .pastTheEnd) : Lasting (.error (.malformedReference step reference why))

theorem Lasting.ne_unboundedTraversal {outcome : Except WorkflowFault Report}
    (lasting : Lasting outcome) (limit : Nat) (next : String) :
    outcome ≠ .error (.unboundedTraversal limit next) := by
  rintro rfl
  cases lasting

/-- More steps never lower the ceiling. -/
theorem visitCeiling_le_of_length_le {length length' : Nat} (longer : length ≤ length')
    (ceilingFactor : Nat) :
    visitCeiling ceilingFactor length ≤ visitCeiling ceilingFactor length' := by
  have products := Nat.mul_le_mul_right (max ceilingFactor 1) longer
  unfold visitCeiling
  omega

/-- The same visit of the workflow with further steps. -/
def Visit.embed (w : Workflow) (further : List Step) (visit : Visit w.length) :
    Visit (w.append further).length :=
  { index := w.embed further visit.index
    earned := visit.earned }

/-- The report on the same visits is the same. -/
theorem Report.ofVisits_embed (w : Workflow) (further : List Step)
    (visits : List (Visit w.length)) (halt : Halt) :
    Report.ofVisits (w.append further) (visits.map (Visit.embed w further)) halt =
      Report.ofVisits w visits halt := by
  simp only [Report.ofVisits, Workflow.namesOf, List.map_map, Report.mk.injEq, and_true]
  refine ⟨rfl, List.map_congr_left ?_⟩
  intro visit _visited
  exact congrArg Step.name (w.get_embed further visit.index)

namespace Evaluator

variable {σ : Type} {evaluator : Evaluator σ} {w : Workflow} {context : Context}

/-! ### Single visits -/

theorem Advances.append {index next : Fin w.length} {state after : σ} {earned : Float}
    (advance : evaluator.Advances w context index state earned next after)
    (further : List Step) :
    evaluator.Advances (w.append further) context (w.embed further index) state earned
      (w.embed further next) after := by
  cases advance with
  | goto execution clearance connection resolution =>
      rw [← w.get_embed further] at execution clearance connection
      exact .goto execution clearance connection (Workflow.locate_append_of_ok resolution)

theorem Halts.append {index : Fin w.length} {state after : σ} {earned : Float} {reason : Halt}
    (halt : evaluator.Halts w context index state earned reason after) (further : List Step) :
    evaluator.Halts (w.append further) context (w.embed further index) state earned reason
      after := by
  cases halt with
  | terminal execution kind =>
      rw [← w.get_embed further] at execution kind
      exact .terminal execution kind
  | conditionUnmet execution kind answer =>
      rw [← w.get_embed further] at execution kind answer
      exact .conditionUnmet execution kind answer
  | noNextStep execution clearance unconnected =>
      rw [← w.get_embed further] at execution clearance unconnected
      exact .noNextStep execution clearance unconnected

theorem Breaks.append {index : Fin w.length} {state after : σ} {fault : WorkflowFault}
    (breakage : evaluator.Breaks w context index state fault after)
    (lasting : Lasting (.error fault)) (further : List Step) :
    evaluator.Breaks (w.append further) context (w.embed further index) state fault after := by
  cases breakage with
  | stepFailed execution =>
      rw [← w.get_embed further] at execution ⊢
      exact .stepFailed execution
  | malformedReference execution clearance connection resolution =>
      -- A reference past the end may come to lead to a further step, and is no lasting fault.
      cases lasting with
      | malformedReference _ _ spelt =>
          rw [← w.get_embed further] at execution clearance connection ⊢
          exact .malformedReference execution clearance connection
            (Workflow.locate_append_of_error resolution spelt)

/-! ### Whole walks -/

theorem Path.append {start last : Fin w.length} {state final : σ} {visits : List (Visit w.length)}
    (path : evaluator.Path w context start state visits last final) (further : List Step) :
    evaluator.Path (w.append further) context (w.embed further start) state
      (visits.map (Visit.embed w further)) (w.embed further last) final := by
  induction path with
  | here => exact .here
  | onward advance _rest ih => exact .onward (advance.append further) ih

/-- A lasting end of a walk is its end in the longer workflow. -/
theorem Ends.append {limit : Nat} {start : Fin w.length} {state final : σ}
    {outcome : Except WorkflowFault Report}
    (ending : evaluator.Ends w context limit start state outcome final)
    (lasting : Lasting outcome) (further : List Step) :
    evaluator.Ends (w.append further) context limit (w.embed further start) state outcome
      final := by
  cases ending with
  | halted path room halt =>
      rw [← Report.ofVisits_embed w further, List.map_append]
      apply Ends.halted (path.append further)
      · rwa [List.length_map]
      · exact halt.append further
  | broken path room breakage =>
      apply Ends.broken (path.append further)
      · rwa [List.length_map]
      · exact breakage.append lasting further
  | exhausted path full => cases lasting

/-- A run with a lasting outcome is the run of the longer workflow, whose ceiling
is not lower. -/
theorem run_append (evaluator : Evaluator σ) (nonempty : 0 < w.length) (further : List Step)
    (context : Context) (state : σ) (lasting : Lasting (evaluator.run w context state).1) :
    evaluator.run (w.append further) context state = evaluator.run w context state := by
  have longer := w.length_le_append further
  have nonempty' : 0 < (w.append further).length := Nat.lt_of_lt_of_le nonempty longer
  have ending := (evaluator.ends_run context state nonempty).append lasting further
  apply (run_eq_iff_ends nonempty').mpr
  apply ending.raise (visitCeiling_le_of_length_le longer evaluator.ceilingFactor)
  exact lasting.ne_unboundedTraversal

/-- Putting steps behind a workflow disturbs nothing that works.  A lasting
outcome comes out again, with the same state of the policies and the same calls.
And where both workflows are accepted, the same names are reachable. -/
theorem append_keeps_outcome_and_names (evaluator : Evaluator σ) (w : Workflow)
    (nonempty : 0 < w.length) (further : List Step) (context : Context) (state : σ) :
    let run (w : Workflow) := evaluator.run w context state
    let calls (w : Workflow) := (evaluator.observed.run w context (state, .empty)).2.2
    (Lasting (run w).1 →
        run (w.append further) = run w ∧ calls (w.append further) = calls w) ∧
      ∀ names names', w.validate = .ok names → (w.append further).validate = .ok names' →
        names' = names := by
  intro run calls
  refine ⟨?_, ?_⟩
  · intro lasting
    have observed : Lasting (evaluator.observed.run w context (state, .empty)).1 := by
      rw [show run w = _ from evaluator.run_observed w context state .empty] at lasting
      exact lasting
    have same := evaluator.observed.run_append nonempty further context (state, .empty) observed
    exact ⟨evaluator.run_append nonempty further context state lasting,
      congrArg (fun after => after.2.2) same⟩
  · intro names names' valid valid'
    exact Workflow.names_eq_of_validate_append nonempty valid valid'

/-- Two steps that lead back into the loop, and that nothing leads to. -/
def sidings : List Step :=
  [{ name := "step_3", kind := .process, instruction := "rest", connections := ["step_1"] },
    { name := "step_4", kind := .decision, instruction := "more?",
      connections := ["step_2", "step_3"] }]

/-- The loop is left as before at its last visit, although there is room for twice
as many, and none of the further steps is reachable. -/
theorem run_retryLoop_sidings :
    0 < retryLoop.length ∧ Lasting (retryOnce.run retryLoop .empty .empty).1 ∧
      retryOnce.run (retryLoop.append sidings) .empty .empty =
        retryOnce.run retryLoop .empty .empty ∧
      (retryOnce.observed.run (retryLoop.append sidings) .empty (.empty, .empty)).2.2 =
        (retryOnce.observed.run retryLoop .empty (.empty, .empty)).2.2 ∧
      retryLoop.validate = .ok ["step_1", "step_2"] ∧
      ∃ names', (retryLoop.append sidings).validate = .ok names' ∧
        names' = ["step_1", "step_2"] := by
  have lasting : Lasting (retryOnce.run retryLoop .empty .empty).1 := .reported _
  have valid : retryLoop.validate = .ok ["step_1", "step_2"] := rfl
  have valid' : (retryLoop.append sidings).validate = .ok ["step_1", "step_2"] := rfl
  have kept := append_keeps_outcome_and_names retryOnce retryLoop (by decide) sidings .empty .empty
  exact ⟨by decide, lasting, (kept.1 lasting).1, (kept.1 lasting).2, valid, _, valid',
    kept.2 _ _ valid valid'⟩

end Evaluator

end Stepwise
