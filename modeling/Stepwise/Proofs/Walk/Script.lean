/-
Module: Stepwise.Proofs.Walk.Script
Purpose: What the policies preserve through a run, and the answers that a run
  gets from a script.
Main exports: Evaluator.Keeps, Evaluator.Keeps.walk, Evaluator.Keeps.run,
  Evaluator.FollowsScript, Evaluator.FollowsScript.answers_run, Transcript.FalseWithin,
  Evaluator.FollowsScript.falseWithin
-/
import Stepwise.Proofs.Walk.Transcript

namespace Stepwise

/-!
The state of a run changes in calls of the policies only, so whatever both
policies preserve holds of the state that the run leaves.  Applied to observed
policies this relates the log to the state of the policies.  A scripted
condition knows its position in the script by its state alone; the relation
says that the answers in the log are the stretch of the script that starts at
the position in which the run found the condition.
-/

namespace Evaluator

variable {σ τ : Type} {evaluator : Evaluator σ} {w : Workflow} {context : Context}
  {invariant : σ → Prop}

/-- Both policies preserve the invariant, whatever step they are called for. -/
structure Keeps (evaluator : Evaluator σ) (context : Context) (invariant : σ → Prop) : Prop where
  execute : ∀ step state, invariant state →
    invariant (evaluator.executor.execute step context state).2
  holds : ∀ step state, invariant state →
    invariant (evaluator.condition.holds step context state).2

theorem Keeps.executed (keeps : evaluator.Keeps context invariant) {step : Step} {state after : σ}
    {answer : Except StepFault Float}
    (execution : evaluator.executor.execute step context state = (answer, after))
    (before : invariant state) : invariant after := by
  have kept := keeps.execute step state before
  rwa [execution] at kept

theorem Keeps.asked (keeps : evaluator.Keeps context invariant) {step : Step} {state after : σ}
    {answer : Bool}
    (question : evaluator.condition.holds step context state = (answer, after))
    (before : invariant state) : invariant after := by
  have kept := keeps.holds step state before
  rwa [question] at kept

theorem Keeps.clears (keeps : evaluator.Keeps context invariant) {step : Step} {state after : σ}
    (clearance : evaluator.Clears context step state after) (before : invariant state) :
    invariant after := by
  cases clearance with
  | process kind => exact before
  | decision kind answer => exact keeps.asked answer before

theorem Keeps.advances (keeps : evaluator.Keeps context invariant) {index next : Fin w.length}
    {state after : σ} {earned : Float}
    (advance : evaluator.Advances w context index state earned next after)
    (before : invariant state) : invariant after := by
  cases advance with
  | goto execution clearance connection resolution =>
      exact keeps.clears clearance (keeps.executed execution before)

theorem Keeps.halts (keeps : evaluator.Keeps context invariant) {index : Fin w.length}
    {state after : σ} {earned : Float} {reason : Halt}
    (halt : evaluator.Halts w context index state earned reason after)
    (before : invariant state) : invariant after := by
  cases halt with
  | terminal execution kind => exact keeps.executed execution before
  | conditionUnmet execution kind answer =>
      exact keeps.asked answer (keeps.executed execution before)
  | noNextStep execution clearance unconnected =>
      exact keeps.clears clearance (keeps.executed execution before)

theorem Keeps.breaks (keeps : evaluator.Keeps context invariant) {index : Fin w.length}
    {state after : σ} {fault : WorkflowFault}
    (breakage : evaluator.Breaks w context index state fault after)
    (before : invariant state) : invariant after := by
  cases breakage with
  | stepFailed execution => exact keeps.executed execution before
  | malformedReference execution clearance connection resolution =>
      exact keeps.clears clearance (keeps.executed execution before)

/-- What both policies preserve holds of the state that a walk leaves, from
whatever index and however many visits are left. -/
theorem Keeps.walk (keeps : evaluator.Keeps context invariant) {limit left : Nat}
    {index : Fin w.length} {tally : Tally} {state : σ} (before : invariant state) :
    invariant (evaluator.walk w context limit left index tally state).2 := by
  induction left generalizing index tally state with
  | zero => exact before
  | succ left ih =>
      rcases evaluator.visit_cases w context index state with
        ⟨earned, next, after, advance⟩ | ⟨earned, reason, after, halt⟩ |
          ⟨fault, after, breakage⟩
      · rw [walk_of_advances advance]
        exact ih (keeps.advances advance before)
      · rw [walk_of_halts halt]
        exact keeps.halts halt before
      · rw [walk_of_breaks breakage]
        exact keeps.breaks breakage before

/-- What both policies preserve holds of the state that a run leaves. -/
theorem Keeps.run (keeps : evaluator.Keeps context invariant) (w : Workflow) {state : σ}
    (before : invariant state) : invariant (evaluator.run w context state).2 := by
  unfold Evaluator.run
  split
  · exact keeps.walk before
  · exact before

/-! ### Scripts -/

/-- The condition answers from a script and counts its calls in the state,
where the executor leaves the count alone. -/
structure FollowsScript (evaluator : Evaluator σ) (answers : List Bool) (position : σ → Nat) :
    Prop where
  execute : ∀ step context state,
    position (evaluator.executor.execute step context state).2 = position state
  answer : ∀ step context state,
    (evaluator.condition.holds step context state).1 = scriptAnswer answers (position state)
  advance : ∀ step context state,
    position (evaluator.condition.holds step context state).2 = position state + 1

/-- A scripted condition beside any executor with a state of its own. -/
theorem followsScript_apart (executor : Executor τ) (answers : List Bool) (ceilingFactor : Nat) :
    FollowsScript
      ⟨executor.onFirst, (Condition.scripted answers).onSecond, ceilingFactor⟩ answers
      fun state => state.2.asked.size :=
  { execute := fun _ _ _ => rfl
    answer := fun _ _ _ => rfl
    advance := fun _ _ _ => Array.size_push _ }

variable {answers : List Bool} {position : σ → Nat}

/-- The logged answers are the script from `start` on, and the condition has
moved on by as many places. -/
def Consulted (answers : List Bool) (position : σ → Nat) (start : Nat)
    (state : σ × Transcript) : Prop :=
  position state.1 = start + state.2.asked.length ∧
    state.2.asked.map Prod.snd =
      (List.range state.2.asked.length).map fun index => scriptAnswer answers (start + index)

theorem FollowsScript.keeps (follows : evaluator.FollowsScript answers position)
    (context : Context) (start : Nat) :
    evaluator.observed.Keeps context (Consulted answers position start) := by
  refine ⟨?_, ?_⟩
  · rintro step state ⟨place, consulted⟩
    exact ⟨(follows.execute step context state.1).trans place, consulted⟩
  · rintro step state ⟨place, consulted⟩
    have answered := follows.answer step context state.1
    refine ⟨?_, ?_⟩
    · simp only [observed, List.length_append, List.length_singleton]
      rw [follows.advance, place, Nat.add_assoc]
    · simp only [observed, List.map_append, List.map_cons, List.map_nil, consulted,
        List.length_append, List.length_singleton, List.range_succ, answered, place]

/-- The answers of a run are a stretch of the script. -/
theorem FollowsScript.answers_run (follows : evaluator.FollowsScript answers position)
    (w : Workflow) (context : Context) (state : σ) :
    let calls := (evaluator.observed.run w context (state, .empty)).2.2
    calls.asked.map Prod.snd =
      (List.range calls.asked.length).map fun index =>
        scriptAnswer answers (position state + index) := by
  have fresh : Consulted answers position (position state) (state, Transcript.empty) :=
    ⟨rfl, rfl⟩
  exact ((follows.keeps context (position state)).run w fresh).2

end Evaluator

/-- One of the first `bound` questions was answered false, unless fewer were
asked. -/
def Transcript.FalseWithin (calls : Transcript) (bound : Nat) : Prop :=
  bound ≤ calls.asked.length → ∃ call ∈ calls.asked.take bound, call.2 = false

/-- A fresh script that ends in false answers false in time. -/
theorem Evaluator.FollowsScript.falseWithin {σ : Type} {evaluator : Evaluator σ}
    {answers : List Bool} {position : σ → Nat}
    (follows : evaluator.FollowsScript answers position) (ends : answers.getLast? = some false)
    (w : Workflow) (context : Context) {state : σ} (fresh : position state = 0) :
    (evaluator.observed.run w context (state, .empty)).2.2.FalseWithin answers.length := by
  intro enough
  have script := follows.answers_run w context state
  generalize (evaluator.observed.run w context (state, .empty)).2.2 = calls at enough script ⊢
  have nonempty : 0 < answers.length := by
    rw [List.length_pos_iff, ← List.getLast?_isSome, ends]
    rfl
  -- The last answer of the script is the last of the first `answers.length`.
  have inside : answers.length - 1 < calls.asked.length := by omega
  have refused : (calls.asked[answers.length - 1]).2 = false := by
    have entry := congrArg (fun given => given[answers.length - 1]?) script
    rw [List.getLast?_eq_getElem?] at ends
    simpa [inside, fresh, scriptAnswer, ends] using entry
  exact ⟨_, List.mem_take_iff_getElem.mpr ⟨answers.length - 1, by omega, rfl⟩, refused⟩

end Stepwise
