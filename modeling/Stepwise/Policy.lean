/-
Module: Stepwise.Policy
Purpose: What a walk asks from outside: executors and conditions.
Main exports: Executor, Condition, Executor.typeBonus, Condition.always
-/
import Stepwise.Context
import Stepwise.Fault

namespace Stepwise

/-!
A walk needs two policies.  The executor carries out a step and says what it
earned; the condition decides whether a decision step is left by its first
connection.  Both see the step, the context and a state of any type, which
they may change.  The state is one for both: it passes from call to call in
the order in which the walk makes them, so a policy can answer differently
every time, and the two may even influence each other.  Policies that keep
separate states live in the product of the two.
-/

/-- Carries out steps and rewards them. -/
structure Executor (σ : Type) where
  execute : Step → Context → σ → Except StepFault Float × σ

/-- Answers the questions of decision steps. -/
structure Condition (σ : Type) where
  holds : Step → Context → σ → Bool × σ

namespace Executor

/-- The executor that answers by a function and has no memory. -/
def ofFunction {σ : Type} (answer : Step → Context → Except StepFault Float) : Executor σ :=
  ⟨fun step context state => (answer step context, state)⟩

/-- The executor that uses the first of two states. -/
def onFirst {σ τ : Type} (executor : Executor σ) : Executor (σ × τ) :=
  ⟨fun step context (mine, other) =>
    let (answer, mine) := executor.execute step context mine
    (answer, mine, other)⟩

/-- What every executed step earns. -/
def baseReward : Float := 0.1

/-- What a step earns on top, by its kind. -/
def bonus : StepKind → Float
  | .process => 0.2
  | .decision => 0.3
  | .terminal => 0.4

/-- The reward of a step by its kind. -/
def kindReward (kind : StepKind) : Float :=
  baseReward + bonus kind

/-- The reference executor: never fails and rewards by kind. -/
def typeBonus {σ : Type} : Executor σ :=
  ofFunction fun step _ => .ok (kindReward step.kind)

end Executor

namespace Condition

/-- The condition that answers by a function and has no memory. -/
def ofFunction {σ : Type} (answer : Step → Context → Bool) : Condition σ :=
  ⟨fun step context state => (answer step context, state)⟩

/-- The condition that uses the second of two states. -/
def onSecond {σ τ : Type} (condition : Condition τ) : Condition (σ × τ) :=
  ⟨fun step context (other, mine) =>
    let (answer, mine) := condition.holds step context mine
    (answer, other, mine)⟩

/-- The reference condition: always true. -/
def always {σ : Type} : Condition σ :=
  ofFunction fun _ _ => true

end Condition

end Stepwise
