/-
Module: Stepwise.Proofs.Walk.Transcript
Purpose: A recorder around any two policies, which changes nothing in a walk
  and keeps every call with its answer.
Main exports: Transcript, Evaluator.observed, Evaluator.Path.of_observed,
  Evaluator.run_observed, Evaluator.calls_observed_le
-/
import Stepwise.Proofs.Walk.Trace

namespace Stepwise

/-!
How often a policy is called cannot be read off an outcome, and a policy need
not remember its calls.  So the policies are put into a recorder: their state
is extended by a log that they cannot see.  The recorder keeps every call, also
one that no walk should make; that decisions alone are asked is a theorem about
walks and not a property of the log.
-/

/-- The calls of two policies, each in order and with its answer. -/
structure Transcript where
  executed : List (Step × Except StepFault Float)
  asked : List (Step × Bool)
deriving Repr, Inhabited

/-- No calls so far. -/
def Transcript.empty : Transcript :=
  { executed := []
    asked := [] }

namespace Evaluator

variable {σ : Type} {evaluator : Evaluator σ} {w : Workflow} {context : Context}

/-- The evaluator whose policies answer as before and have their calls kept
beside their state. -/
def observed (evaluator : Evaluator σ) : Evaluator (σ × Transcript) :=
  { executor := ⟨fun step context state =>
      let (answer, after) := evaluator.executor.execute step context state.1
      (answer, after,
        { state.2 with executed := state.2.executed ++ [(step, answer)] })⟩
    condition := ⟨fun step context state =>
      let (answer, after) := evaluator.condition.holds step context state.1
      (answer, after, { state.2 with asked := state.2.asked ++ [(step, answer)] })⟩
    ceilingFactor := evaluator.ceilingFactor }

/-- An observed execution is an execution, and one entry of the log. -/
theorem execute_of_observed {step : Step} {before after : σ × Transcript}
    {answer : Except StepFault Float}
    (execution : evaluator.observed.executor.execute step context before = (answer, after)) :
    evaluator.executor.execute step context before.1 = (answer, after.1) ∧
      after.2.executed = before.2.executed ++ [(step, answer)] ∧
      after.2.asked = before.2.asked := by
  obtain ⟨found, after⟩ := after
  simp only [observed, Prod.mk.injEq] at execution
  obtain ⟨rfl, rfl, rfl⟩ := execution
  exact ⟨rfl, rfl, rfl⟩

/-- An observed question is a question, and one entry of the log. -/
theorem holds_of_observed {step : Step} {before after : σ × Transcript} {answer : Bool}
    (question : evaluator.observed.condition.holds step context before = (answer, after)) :
    evaluator.condition.holds step context before.1 = (answer, after.1) ∧
      after.2.executed = before.2.executed ∧
      after.2.asked = before.2.asked ++ [(step, answer)] := by
  obtain ⟨found, after⟩ := after
  simp only [observed, Prod.mk.injEq] at question
  obtain ⟨rfl, rfl, rfl⟩ := question
  exact ⟨rfl, rfl, rfl⟩

/-- Clearing a step asks one question if the step is a decision. -/
theorem Clears.of_observed {step : Step} {before after : σ × Transcript}
    (clearance : evaluator.observed.Clears context step before after) :
    evaluator.Clears context step before.1 after.1 ∧
      after.2.executed = before.2.executed ∧
      after.2.asked =
        before.2.asked ++ if step.kind = .decision then [(step, true)] else [] := by
  cases clearance with
  | process kind => exact ⟨.process kind, rfl, by simp [kind]⟩
  | decision kind answer =>
      obtain ⟨question, executed, asked⟩ := holds_of_observed answer
      exact ⟨.decision kind question, executed, by simp [kind, asked]⟩

/-- A visit that advances makes one execution, and one question if its step is
a decision. -/
theorem Advances.of_observed {index next : Fin w.length} {before after : σ × Transcript}
    {earned : Float}
    (advance : evaluator.observed.Advances w context index before earned next after) :
    evaluator.Advances w context index before.1 earned next after.1 ∧
      after.2.executed = before.2.executed ++ [(w.get index, .ok earned)] ∧
      after.2.asked = before.2.asked ++
        if (w.get index).kind = .decision then [(w.get index, true)] else [] := by
  cases advance with
  | goto execution clearance connection resolution =>
      obtain ⟨execution, executed, unasked⟩ := execute_of_observed execution
      obtain ⟨clearance, unexecuted, asked⟩ := Clears.of_observed clearance
      refine ⟨.goto execution clearance connection resolution, ?_, ?_⟩
      · rw [unexecuted, executed]
      · rw [asked, unasked]

/-- A halting visit makes one execution, and one question if its step is a
decision. -/
theorem Halts.of_observed {index : Fin w.length} {before after : σ × Transcript} {earned : Float}
    {reason : Halt}
    (halt : evaluator.observed.Halts w context index before earned reason after) :
    evaluator.Halts w context index before.1 earned reason after.1 ∧
      after.2.executed = before.2.executed ++ [(w.get index, .ok earned)] ∧
      ∃ answer, after.2.asked = before.2.asked ++
        if (w.get index).kind = .decision then [(w.get index, answer)] else [] := by
  cases halt with
  | terminal execution kind =>
      obtain ⟨execution, executed, unasked⟩ := execute_of_observed execution
      exact ⟨.terminal execution kind, executed, false, by simp [kind, unasked]⟩
  | conditionUnmet execution kind answer =>
      obtain ⟨execution, executed, unasked⟩ := execute_of_observed execution
      obtain ⟨question, unexecuted, asked⟩ := holds_of_observed answer
      refine ⟨.conditionUnmet execution kind question, ?_, false, ?_⟩
      · rw [unexecuted, executed]
      · simp [kind, asked, unasked]
  | noNextStep execution clearance unconnected =>
      obtain ⟨execution, executed, unasked⟩ := execute_of_observed execution
      obtain ⟨clearance, unexecuted, asked⟩ := Clears.of_observed clearance
      refine ⟨.noNextStep execution clearance unconnected, ?_, true, ?_⟩
      · rw [unexecuted, executed]
      · rw [asked, unasked]

/-- A breaking visit makes one execution, and a question at most if that
execution succeeds. -/
theorem Breaks.of_observed {index : Fin w.length} {before after : σ × Transcript}
    {fault : WorkflowFault}
    (breakage : evaluator.observed.Breaks w context index before fault after) :
    evaluator.Breaks w context index before.1 fault after.1 ∧
      ((∃ cause, after.2.executed = before.2.executed ++ [(w.get index, .error cause)] ∧
          after.2.asked = before.2.asked) ∨
        ∃ earned, after.2.executed = before.2.executed ++ [(w.get index, .ok earned)] ∧
          after.2.asked = before.2.asked ++
            if (w.get index).kind = .decision then [(w.get index, true)] else []) := by
  cases breakage with
  | stepFailed execution =>
      obtain ⟨execution, executed, unasked⟩ := execute_of_observed execution
      exact ⟨.stepFailed execution, Or.inl ⟨_, executed, unasked⟩⟩
  | malformedReference execution clearance connection resolution =>
      obtain ⟨execution, executed, unasked⟩ := execute_of_observed execution
      obtain ⟨clearance, unexecuted, asked⟩ := Clears.of_observed clearance
      rw [executed] at unexecuted
      rw [unasked] at asked
      exact ⟨.malformedReference execution clearance connection resolution,
        Or.inr ⟨_, unexecuted, asked⟩⟩

/-- The log of a path: every visit is one successful execution, and the visits
of decisions are the questions, all answered true. -/
theorem Path.of_observed {start last : Fin w.length} {before after : σ × Transcript}
    {visits : List (Visit w.length)}
    (path : evaluator.observed.Path w context start before visits last after) :
    evaluator.Path w context start before.1 visits last after.1 ∧
      after.2.executed =
        before.2.executed ++ visits.map (fun visit => (w.get visit.index, .ok visit.earned)) ∧
      after.2.asked = before.2.asked ++
        (visits.filter fun visit => (w.get visit.index).kind = .decision).map
          fun visit => (w.get visit.index, true) := by
  induction path with
  | here => exact ⟨.here, by simp, by simp⟩
  | @onward index next last state between final earned visits advance _rest ih =>
      obtain ⟨step, executed, asked⟩ := Advances.of_observed advance
      obtain ⟨path, moreExecuted, moreAsked⟩ := ih
      refine ⟨.onward step path, ?_, ?_⟩
      · simp [moreExecuted, executed]
      · rw [moreAsked, asked, List.filter_cons]
        split <;> simp_all

/-- Observation does not change how a walk ends. -/
theorem Ends.of_observed {limit : Nat} {start : Fin w.length} {before after : σ × Transcript}
    {outcome : Except WorkflowFault Report}
    (ending : evaluator.observed.Ends w context limit start before outcome after) :
    evaluator.Ends w context limit start before.1 outcome after.1 := by
  cases ending with
  | halted path room halt =>
      exact .halted (Path.of_observed path).1 room (Halts.of_observed halt).1
  | broken path room breakage =>
      exact .broken (Path.of_observed path).1 room (Breaks.of_observed breakage).1
  | exhausted path full => exact .exhausted (Path.of_observed path).1 full

/-- An observed run is the run itself, in its outcome and in the state that
the policies are left in. -/
theorem run_observed (evaluator : Evaluator σ) (w : Workflow) (context : Context) (state : σ)
    (calls : Transcript) :
    evaluator.run w context state =
      ((evaluator.observed.run w context (state, calls)).1,
        (evaluator.observed.run w context (state, calls)).2.1) := by
  by_cases nonempty : 0 < w.length
  · have ending := Ends.of_observed (evaluator.observed.ends_run context (state, calls) nonempty)
    exact (run_eq_iff_ends nonempty).mpr ending
  · rw [run_of_empty nonempty, run_of_empty nonempty]

/-! ### Counting calls -/

private theorem length_ite_singleton_le {α : Type} (condition : Prop) [Decidable condition]
    (entry : α) : (if condition then [entry] else []).length ≤ 1 := by
  split <;> simp

theorem Path.calls_le {start last : Fin w.length} {before after : σ × Transcript}
    {visits : List (Visit w.length)}
    (path : evaluator.observed.Path w context start before visits last after) :
    after.2.executed.length = before.2.executed.length + visits.length ∧
      after.2.asked.length ≤ before.2.asked.length + visits.length := by
  obtain ⟨-, executed, asked⟩ := Path.of_observed path
  rw [executed, asked]
  simp [List.length_filter_le]

theorem Halts.calls_le {index : Fin w.length} {before after : σ × Transcript} {earned : Float}
    {reason : Halt}
    (halt : evaluator.observed.Halts w context index before earned reason after) :
    after.2.executed.length = before.2.executed.length + 1 ∧
      after.2.asked.length ≤ before.2.asked.length + 1 := by
  obtain ⟨-, executed, answer, asked⟩ := Halts.of_observed halt
  rw [executed, asked]
  simp [length_ite_singleton_le]

theorem Breaks.calls_le {index : Fin w.length} {before after : σ × Transcript}
    {fault : WorkflowFault}
    (breakage : evaluator.observed.Breaks w context index before fault after) :
    after.2.executed.length = before.2.executed.length + 1 ∧
      after.2.asked.length ≤ before.2.asked.length + 1 := by
  rcases (Breaks.of_observed breakage).2 with
    ⟨cause, executed, asked⟩ | ⟨earned, executed, asked⟩
  · rw [executed, asked]
    simp
  · rw [executed, asked]
    simp [length_ite_singleton_le]

/-- An ending adds at most `limit` executions to the log, and no more questions
than executions. -/
theorem Ends.calls_le {limit : Nat} {start : Fin w.length} {before after : σ × Transcript}
    {outcome : Except WorkflowFault Report}
    (ending : evaluator.observed.Ends w context limit start before outcome after) :
    ∃ executions, executions ≤ limit ∧
      after.2.executed.length = before.2.executed.length + executions ∧
      after.2.asked.length ≤ before.2.asked.length + executions := by
  cases ending with
  | @halted visits last between _ earned reason path room halt =>
      have behind := Path.calls_le path
      have final := Halts.calls_le halt
      exact ⟨visits.length + 1, room, by omega, by omega⟩
  | @broken visits last between _ fault path room breakage =>
      have behind := Path.calls_le path
      have final := Breaks.calls_le breakage
      exact ⟨visits.length + 1, room, by omega, by omega⟩
  | @exhausted visits last _ path full =>
      have behind := Path.calls_le path
      exact ⟨visits.length, by omega, by omega, by omega⟩

/-- A run makes no more executions than the ceiling allows, and no more
questions than executions. -/
theorem calls_observed_le (evaluator : Evaluator σ) (w : Workflow) (context : Context)
    (state : σ) :
    let calls := (evaluator.observed.run w context (state, .empty)).2.2
    calls.executed.length ≤ visitCeiling evaluator.ceilingFactor w.length ∧
      calls.asked.length ≤ calls.executed.length := by
  by_cases nonempty : 0 < w.length
  · obtain ⟨executions, within, executed, asked⟩ :=
      Ends.calls_le (evaluator.observed.ends_run context (state, .empty) nonempty)
    simp only [Transcript.empty, List.length_nil, Nat.zero_add] at executed asked
    exact ⟨executed ▸ within, executed ▸ asked⟩
  · rw [run_of_empty nonempty]
    simp [Transcript.empty]

end Evaluator

end Stepwise
