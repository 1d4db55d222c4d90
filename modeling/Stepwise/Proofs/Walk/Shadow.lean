/-
Module: Stepwise.Proofs.Walk.Shadow
Purpose: Two walks through one workflow that differ only in their executors, up
  to the visit at which one of them fails.
Main exports: Executor.Succeeds, routeOf, Evaluator.Shadows, Evaluator.Parts,
  Evaluator.Path.shadow, Evaluator.Ends.shadow, Evaluator.run_ne_stepFailed,
  Evaluator.Keeps.walk_of_executed, Evaluator.Path.begins_run
-/
import Stepwise.Proofs.Walk.Raised

namespace Stepwise

/-!
The walk asks the executor whether it goes on and nothing else; rewards are
added up and never looked at.  So the walk under an executor that never fails
can be shadowed by the walk under any other one, visit by visit, as long as the
other one does not fail and the condition cannot tell the two apart.  What the
condition can see is the business of a relation between the states, which every
call has to preserve.
-/

/-- The executor never fails. -/
def Executor.Succeeds {σ : Type} (executor : Executor σ) : Prop :=
  ∀ step context state, ∃ earned after, executor.execute step context state = (.ok earned, after)

/-- What an outcome says apart from the reward. -/
def routeOf (outcome : Except WorkflowFault Report) : Except WorkflowFault (List String × Halt) :=
  outcome.map fun report => (report.visited, report.halt)

theorem routeOf_eq_error_iff {outcome : Except WorkflowFault Report} {fault : WorkflowFault} :
    routeOf outcome = .error fault ↔ outcome = .error fault := by
  cases outcome with
  | error other =>
      change Except.error other = Except.error fault ↔ _
      rw [Except.error.injEq, Except.error.injEq]
  | ok report => exact ⟨nofun, nofun⟩

namespace Evaluator

variable {σ τ : Type} {evaluator : Evaluator σ} {other : Evaluator τ} {Agree : σ → τ → Prop}
  {w : Workflow} {context : Context}

/-! ### Walks that shadow each other -/

/-- The first executor never fails, and the other evaluator cannot be told from
the first by its condition: from states that agree, questions are answered alike
and leave states that agree, and so do executions that succeed. -/
structure Shadows (evaluator : Evaluator σ) (other : Evaluator τ) (context : Context)
    (Agree : σ → τ → Prop) : Prop where
  succeeds : evaluator.executor.Succeeds
  execute : ∀ {step : Step} {state after : σ} {state' after' : τ} {earned earned' : Float},
    Agree state state' → evaluator.executor.execute step context state = (.ok earned, after) →
      other.executor.execute step context state' = (.ok earned', after') → Agree after after'
  holds : ∀ {step : Step} {state after : σ} {state' : τ} {answer : Bool}, Agree state state' →
    evaluator.condition.holds step context state = (answer, after) →
      ∃ after', other.condition.holds step context state' = (answer, after') ∧ Agree after after'

/-- The executor fails on the step at `index`. -/
def Fails (evaluator : Evaluator σ) (w : Workflow) (context : Context) (index : Fin w.length)
    (state : σ) : Prop :=
  ∃ fault after, evaluator.executor.execute (w.get index) context state = (.error fault, after)

theorem Shadows.executed (shadows : evaluator.Shadows other context Agree) {index : Fin w.length}
    {state after : σ} {state' : τ} {earned : Float} (agree : Agree state state')
    (execution : evaluator.executor.execute (w.get index) context state = (.ok earned, after)) :
    (∃ earned' after',
        other.executor.execute (w.get index) context state' = (.ok earned', after') ∧
          Agree after after') ∨
      other.Fails w context index state' := by
  rcases execution' : other.executor.execute (w.get index) context state' with
    ⟨fault | earned', after'⟩
  · exact Or.inr ⟨fault, after', execution'⟩
  · exact Or.inl ⟨earned', after', rfl, shadows.execute agree execution execution'⟩

theorem Clears.shadow (shadows : evaluator.Shadows other context Agree) {step : Step}
    {state after : σ} {state' : τ} (agree : Agree state state')
    (clearance : evaluator.Clears context step state after) :
    ∃ after', other.Clears context step state' after' ∧ Agree after after' := by
  cases clearance with
  | process kind => exact ⟨state', .process kind, agree⟩
  | decision kind answer =>
      obtain ⟨after', answer, agree⟩ := shadows.holds agree answer
      exact ⟨after', .decision kind answer, agree⟩

theorem Advances.shadow (shadows : evaluator.Shadows other context Agree)
    {index next : Fin w.length} {state after : σ} {state' : τ} {earned : Float}
    (agree : Agree state state')
    (advance : evaluator.Advances w context index state earned next after) :
    (∃ earned' after', other.Advances w context index state' earned' next after' ∧
        Agree after after') ∨
      other.Fails w context index state' := by
  cases advance with
  | goto execution clearance connection resolution =>
      rcases shadows.executed agree execution with ⟨earned', executed', execution, agree⟩ | fails
      · obtain ⟨after', clearance, agree⟩ := clearance.shadow shadows agree
        exact Or.inl ⟨earned', after', .goto execution clearance connection resolution, agree⟩
      · exact Or.inr fails

theorem Halts.shadow (shadows : evaluator.Shadows other context Agree) {index : Fin w.length}
    {state after : σ} {state' : τ} {earned : Float} {reason : Halt} (agree : Agree state state')
    (halt : evaluator.Halts w context index state earned reason after) :
    (∃ earned' after', other.Halts w context index state' earned' reason after' ∧
        Agree after after') ∨
      other.Fails w context index state' := by
  cases halt with
  | terminal execution kind =>
      rcases shadows.executed agree execution with ⟨earned', after', execution, agree⟩ | fails
      · exact Or.inl ⟨earned', after', .terminal execution kind, agree⟩
      · exact Or.inr fails
  | conditionUnmet execution kind answer =>
      rcases shadows.executed agree execution with ⟨earned', executed', execution, agree⟩ | fails
      · obtain ⟨after', answer, agree⟩ := shadows.holds agree answer
        exact Or.inl ⟨earned', after', .conditionUnmet execution kind answer, agree⟩
      · exact Or.inr fails
  | noNextStep execution clearance unconnected =>
      rcases shadows.executed agree execution with ⟨earned', executed', execution, agree⟩ | fails
      · obtain ⟨after', clearance, agree⟩ := clearance.shadow shadows agree
        exact Or.inl ⟨earned', after', .noNextStep execution clearance unconnected, agree⟩
      · exact Or.inr fails

theorem Breaks.shadow (shadows : evaluator.Shadows other context Agree) {index : Fin w.length}
    {state after : σ} {state' : τ} {fault : WorkflowFault} (agree : Agree state state')
    (breakage : evaluator.Breaks w context index state fault after) :
    (∃ after', other.Breaks w context index state' fault after' ∧ Agree after after') ∨
      other.Fails w context index state' := by
  cases breakage with
  | stepFailed execution =>
      obtain ⟨earned, after, success⟩ := shadows.succeeds (w.get index) context state
      rw [success] at execution
      cases execution
  | malformedReference execution clearance connection resolution =>
      rcases shadows.executed agree execution with ⟨earned', executed', execution, agree⟩ | fails
      · obtain ⟨after', clearance, agree⟩ := clearance.shadow shadows agree
        exact Or.inl
          ⟨after', .malformedReference execution clearance connection resolution, agree⟩
      · exact Or.inr fails

/-- Both walks come to `index` over the same indices and in states that agree,
with room for a further visit, and there the other executor fails. -/
inductive Parts (evaluator : Evaluator σ) (other : Evaluator τ) (Agree : σ → τ → Prop)
    (w : Workflow) (context : Context) (limit : Nat) (start : Fin w.length) (state : σ)
    (state' : τ) : Prop where
  | there {visits visits' : List (Visit w.length)} {index : Fin w.length} {between : σ}
      {between' : τ} (path : evaluator.Path w context start state visits index between)
      (path' : other.Path w context start state' visits' index between')
      (along : visits'.map Visit.index = visits.map Visit.index) (room : visits.length < limit)
      (agree : Agree between between') (fails : other.Fails w context index between') :
      Parts evaluator other Agree w context limit start state state'

theorem Parts.onward {limit : Nat} {index next : Fin w.length} {state between : σ}
    {state' between' : τ} {earned earned' : Float}
    (advance : evaluator.Advances w context index state earned next between)
    (advance' : other.Advances w context index state' earned' next between')
    (parts : Parts evaluator other Agree w context limit next between between') :
    Parts evaluator other Agree w context (limit + 1) index state state' := by
  obtain ⟨path, path', along, room, agree, fails⟩ := parts
  refine ⟨.onward advance path, .onward advance' path', ?_, Nat.succ_lt_succ room, agree, fails⟩
  rw [List.map_cons, List.map_cons, along]

/-- A path is shadowed up to its end, or up to an index at which the walks
part. -/
theorem Path.shadow (shadows : evaluator.Shadows other context Agree) {limit : Nat}
    {start last : Fin w.length} {state final : σ} {state' : τ} {visits : List (Visit w.length)}
    (agree : Agree state state') (path : evaluator.Path w context start state visits last final)
    (within : visits.length ≤ limit) :
    (∃ visits' final', other.Path w context start state' visits' last final' ∧
        visits'.map Visit.index = visits.map Visit.index ∧ Agree final final') ∨
      Parts evaluator other Agree w context limit start state state' := by
  -- The place where the walks part has to be in front of the ceiling, so the room goes down
  -- with the path.
  induction path generalizing state' limit with
  | here => exact Or.inl ⟨[], state', .here, rfl, agree⟩
  | onward advance rest ih =>
      obtain ⟨limit, rfl⟩ := Nat.exists_eq_add_one_of_ne_zero (Nat.ne_zero_of_lt within)
      rcases advance.shadow shadows agree with ⟨earned', between', advance', agree⟩ | fails
      · rcases ih agree (Nat.le_of_succ_le_succ within) with
          ⟨visits', final', rest', along, agree⟩ | parts
        · refine Or.inl ⟨_, final', .onward advance' rest', ?_, agree⟩
          rw [List.map_cons, List.map_cons, along]
        · exact Or.inr (parts.onward advance advance')
      · exact Or.inr (.there .here .here rfl (Nat.succ_pos limit) agree fails)

theorem length_eq_of_map_index {visits visits' : List (Visit w.length)}
    (along : visits'.map Visit.index = visits.map Visit.index) :
    visits'.length = visits.length := by
  simpa only [List.length_map] using congrArg List.length along

theorem namesOf_eq_of_map_index {visits visits' : List (Visit w.length)}
    (along : visits'.map Visit.index = visits.map Visit.index) :
    w.namesOf visits' = w.namesOf visits := by
  have names (visits : List (Visit w.length)) :
      w.namesOf visits = (visits.map Visit.index).map fun index => (w.get index).name := by
    rw [List.map_map]
    rfl
  rw [names, names, along]

/-- A walk is shadowed up to its end, and then it ends in the same way apart
from the reward, or up to an index at which the walks part. -/
theorem Ends.shadow (shadows : evaluator.Shadows other context Agree) {limit : Nat}
    {start : Fin w.length} {state final : σ} {state' : τ}
    {outcome : Except WorkflowFault Report} (agree : Agree state state')
    (ending : evaluator.Ends w context limit start state outcome final) :
    (∃ outcome' final', other.Ends w context limit start state' outcome' final' ∧
        routeOf outcome' = routeOf outcome ∧ Agree final final') ∨
      Parts evaluator other Agree w context limit start state state' := by
  cases ending with
  | @halted visits last before _ earned reason path room halt =>
      rcases path.shadow shadows agree (Nat.le_of_lt room) with
        ⟨visits', before', path', along, agree⟩ | parts
      · rcases halt.shadow shadows agree with ⟨earned', final', halt', agree⟩ | fails
        · have names : w.namesOf (visits' ++ [⟨last, earned'⟩]) =
              w.namesOf (visits ++ [⟨last, earned⟩]) := by
            apply namesOf_eq_of_map_index
            rw [List.map_append, List.map_append, along]
            rfl
          have room' : visits'.length < limit := length_eq_of_map_index along ▸ room
          refine Or.inl ⟨_, final', .halted path' room' halt', ?_, agree⟩
          exact congrArg (fun visited => Except.ok (visited, reason)) names
        · exact Or.inr (.there path path' along room agree fails)
      · exact Or.inr parts
  | broken path room breakage =>
      rcases path.shadow shadows agree (Nat.le_of_lt room) with
        ⟨visits', before', path', along, agree⟩ | parts
      · rcases breakage.shadow shadows agree with ⟨final', breakage', agree⟩ | fails
        · have room' : visits'.length < limit := length_eq_of_map_index along ▸ room
          exact Or.inl ⟨_, final', .broken path' room' breakage', rfl, agree⟩
        · exact Or.inr (.there path path' along room agree fails)
      · exact Or.inr parts
  | exhausted path full =>
      rcases path.shadow shadows agree (Nat.le_of_eq full) with
        ⟨visits', final', path', along, agree⟩ | parts
      · have full' : visits'.length = limit := (length_eq_of_map_index along).trans full
        exact Or.inl ⟨_, final', .exhausted path' full', rfl, agree⟩
      · exact Or.inr parts

/-- A run under an executor that never fails does not end in a failure. -/
theorem run_ne_stepFailed (succeeds : evaluator.executor.Succeeds) (w : Workflow)
    (context : Context) (state : σ) (step : String) (fault : StepFault) :
    (evaluator.run w context state).1 ≠ .error (.stepFailed step fault) := by
  intro failed
  by_cases nonempty : 0 < w.length
  · have ending := evaluator.ends_run context state nonempty
    rw [failed] at ending
    cases ending with
    | broken path room breakage =>
        cases breakage with
        | stepFailed execution =>
            obtain ⟨earned, after, success⟩ := succeeds _ context _
            rw [success] at execution
            cases execution
  · rw [run_of_empty nonempty] at failed
    cases failed

/-! ### What a run has called -/

/-- What both policies preserve holds of the state that a walk leaves, if it
holds behind the first execution. -/
theorem Keeps.walk_of_executed {invariant : σ → Prop} (keeps : evaluator.Keeps context invariant)
    {limit left : Nat} {index : Fin w.length} {tally : Tally} {state : σ}
    (executed : invariant (evaluator.executor.execute (w.get index) context state).2) :
    invariant (evaluator.walk w context limit (left + 1) index tally state).2 := by
  rcases evaluator.visit_cases w context index state with
    ⟨earned, next, after, advance⟩ | ⟨earned, reason, after, halt⟩ | ⟨fault, after, breakage⟩
  · rw [walk_of_advances advance]
    apply keeps.walk
    cases advance with
    | goto execution clearance connection resolution =>
        rw [execution] at executed
        exact keeps.clears clearance executed
  · rw [walk_of_halts halt]
    cases halt with
    | terminal execution kind =>
        rw [execution] at executed
        exact executed
    | conditionUnmet execution kind answer =>
        rw [execution] at executed
        exact keeps.asked answer executed
    | noNextStep execution clearance unconnected =>
        rw [execution] at executed
        exact keeps.clears clearance executed
  · rw [walk_of_breaks breakage]
    cases breakage with
    | stepFailed execution =>
        rw [execution] at executed
        exact executed
    | malformedReference execution clearance connection resolution =>
        rw [execution] at executed
        exact keeps.clears clearance executed

/-- Where there is room behind a path, the step there is executed, and nothing
that was called before is lost. -/
theorem Path.begins_run {nonempty : 0 < w.length} {index : Fin w.length}
    {state between : σ × Transcript} {visits : List (Visit w.length)}
    (path : evaluator.observed.Path w context ⟨0, nonempty⟩ state visits index between)
    (room : visits.length < visitCeiling evaluator.ceilingFactor w.length) :
    let answer := (evaluator.executor.execute (w.get index) context between.1).1
    let behind : Transcript :=
      { between.2 with executed := between.2.executed ++ [(w.get index, answer)] }
    behind.Begins (evaluator.observed.run w context state).2.2 := by
  intro answer behind
  obtain ⟨left, ceiling⟩ : ∃ left,
      visitCeiling evaluator.observed.ceilingFactor w.length = visits.length + (left + 1) :=
    Nat.exists_eq_add_of_lt room
  simp only [run, dif_pos nonempty]
  rw [ceiling, walk_of_path path]
  apply (evaluator.observed_keeps_begins context behind).walk_of_executed
  exact ⟨List.prefix_refl _, List.prefix_refl _⟩

end Evaluator

end Stepwise
