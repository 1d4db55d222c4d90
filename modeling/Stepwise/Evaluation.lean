/-
Module: Stepwise.Evaluation
Purpose: The walk through a workflow under two policies.
Main exports: Halt, Report, Evaluator, visitCeiling, Evaluator.run, Workflow.reward
-/
import Stepwise.Policy
import Stepwise.Workflow

namespace Stepwise

/-!
A walk starts at the first step.  It executes a step, adds the reward, and then
leaves the step: a terminal step ends the walk, a decision whose condition is
false ends it too, and otherwise the walk follows the first connection, if
there is one.  References are resolved only when followed.

Walks are bounded.  A workflow of `n` steps may be walked for at most `n` times
the ceiling factor many visits; a walk that wants one more is reported as
unbounded, with the step it was about to execute.  The bound is the fuel of
the recursion, so reaching it is an outcome like any other.

Policies may fail or change their state, and the state is part of every
outcome: what a policy recorded before a failure is not lost.
-/

/-- Why a walk stopped. -/
inductive Halt where
  | empty
  | terminal
  | noNextStep
  | conditionUnmet
deriving Repr, Inhabited, DecidableEq

/-- The word for a reason in textual forms. -/
def Halt.keyword : Halt → String
  | .empty => "empty"
  | .terminal => "terminal"
  | .noNextStep => "no_next_step"
  | .conditionUnmet => "condition_unmet"

/-- The result of a walk that came to a stop. -/
structure Report where
  reward : Float
  visited : List String
  halt : Halt
deriving Repr, Inhabited

/-- The report on a workflow without steps. -/
def Report.empty : Report :=
  { reward := 0.0
    visited := []
    halt := .empty }

/-- The number of visits allowed in a workflow of the given length. -/
def visitCeiling (ceilingFactor length : Nat) : Nat :=
  min (length * max ceilingFactor 1) (sizeLimit - 1)

/-- The ceiling factor where none is given. -/
def defaultCeilingFactor : Nat := 4

/-- Where a walk goes from a step. -/
inductive Move (length : Nat) where
  | goto (index : Fin length)
  | halt (reason : Halt)
deriving Repr, DecidableEq

/-- Where the first connection of a step leads. -/
def Workflow.follow (w : Workflow) (step : Step) : Except WorkflowFault (Move w.length) :=
  match step.next? with
  | none => .ok (.halt .noNextStep)
  | some reference => (w.resolve step.name reference).map .goto

/-- What a walk has earned and visited so far. -/
structure Tally where
  reward : Float
  visited : Array String
deriving Repr, Inhabited

namespace Tally

/-- The tally before the first visit. -/
def start : Tally :=
  { reward := 0.0
    visited := #[] }

/-- The tally after one more visit. -/
def add (tally : Tally) (name : String) (earned : Float) : Tally :=
  { reward := tally.reward + earned
    visited := tally.visited.push name }

/-- The report of a walk that stops with this tally. -/
def report (tally : Tally) (halt : Halt) : Report :=
  { reward := tally.reward
    visited := tally.visited.toList
    halt := halt }

end Tally

/-- Two policies and the bound on the walks made with them. -/
structure Evaluator (σ : Type) where
  executor : Executor σ
  condition : Condition σ
  ceilingFactor : Nat

namespace Evaluator

variable {σ : Type}

/-- The reference policies under a ceiling factor. -/
def reference (ceilingFactor : Nat) : Evaluator σ :=
  { executor := .typeBonus
    condition := .always
    ceilingFactor := ceilingFactor }

/-- Leaves an executed step.  Only a decision asks the condition. -/
def leave (evaluator : Evaluator σ) (w : Workflow) (context : Context)
    (step : Step) (state : σ) : Except WorkflowFault (Move w.length) × σ :=
  match step.kind with
  | .terminal => (.ok (.halt .terminal), state)
  | .process => (w.follow step, state)
  | .decision =>
      match evaluator.condition.holds step context state with
      | (true, state) => (w.follow step, state)
      | (false, state) => (.ok (.halt .conditionUnmet), state)

/-- Walks on from the step at an index.  The first number is the ceiling, the
second counts the visits that are left of it. -/
def walk (evaluator : Evaluator σ) (w : Workflow) (context : Context) (limit : Nat) :
    Nat → Fin w.length → Tally → σ → Except WorkflowFault Report × σ
  | 0, current, _, state =>
      (.error (.unboundedTraversal limit (w.get current).name), state)
  | visits + 1, current, tally, state =>
      let step := w.get current
      match evaluator.executor.execute step context state with
      | (.error fault, state) => (.error (.stepFailed step.name fault), state)
      | (.ok earned, state) =>
          let tally := tally.add step.name earned
          match evaluator.leave w context step state with
          | (.error fault, state) => (.error fault, state)
          | (.ok (.halt reason), state) => (.ok (tally.report reason), state)
          | (.ok (.goto next), state) => evaluator.walk w context limit visits next tally state

/-- Walks through a workflow from its entry. -/
def run (evaluator : Evaluator σ) (w : Workflow) (context : Context) (state : σ) :
    Except WorkflowFault Report × σ :=
  if nonempty : 0 < w.length then
    let limit := visitCeiling evaluator.ceilingFactor w.length
    evaluator.walk w context limit limit ⟨0, nonempty⟩ .start state
  else (.ok .empty, state)

end Evaluator

/-- The reward of a workflow under the reference policies. -/
def Workflow.reward (w : Workflow) (context : Context) : Except WorkflowFault Float :=
  ((Evaluator.reference defaultCeilingFactor).run w context ()).1.map Report.reward

end Stepwise
