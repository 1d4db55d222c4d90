/-
Module: Stepwise.Policy.Rule
Purpose: Policies described as data.
Main exports: ConditionRule, ExecutorRule, ConditionRule.condition, ExecutorRule.executor
-/
import Stepwise.Policy.Recorded

namespace Stepwise

/-!
A rule describes a policy by plain data, so that it can be stored, compared
and exchanged.  Every rule becomes a policy over call logs; some record their
calls there and some leave the log alone.
-/

/-- How decisions are answered. -/
inductive ConditionRule where
  /-- Always true, without recording. -/
  | always
  /-- Answers from a script, recorded. -/
  | scripted (answers : List Bool)
  /-- True when the context has the key with an equal value. -/
  | contextEquals (key : String) (value : Json)
  /-- True when the instruction of the step contains the text. -/
  | instructionContains (text : String)
deriving Repr, Inhabited

/-- How steps are executed and rewarded. -/
inductive ExecutorRule where
  /-- Rewards by kind, without recording. -/
  | typeBonus
  /-- The same reward for every step, recorded. -/
  | constant (reward : Float)
  /-- Fails on the steps of one name and rewards others with one, recorded. -/
  | failingOn (name : String)
  /-- Failures and rewards listed by step name; by kind for all others. -/
  | table (rewards : List (String × Float)) (failures : List (String × String))
deriving Repr, Inhabited

/-- Whether a text occurs in another one. -/
def Text.occursIn (text : List Char) : List Char → Bool
  | [] => text.isEmpty
  | c :: rest => text.isPrefixOf (c :: rest) || occursIn text rest

namespace ConditionRule

/-- Whether the calls of the rule's condition are recorded. -/
def isRecorded : ConditionRule → Bool
  | .scripted _ => true
  | _ => false

/-- The condition that a rule describes. -/
def condition : ConditionRule → Condition CallLog
  | .always => .always
  | .scripted answers => .scripted answers
  | .contextEquals key value =>
      .ofFunction fun _ context =>
        match context.get? key with
        | some found => found.same value
        | none => false
  | .instructionContains text =>
      .ofFunction fun step _ => Text.occursIn text.toList step.instruction.toList

end ConditionRule

namespace ExecutorRule

/-- Whether the calls of the rule's executor are recorded. -/
def isRecorded : ExecutorRule → Bool
  | .constant _ | .failingOn _ => true
  | .typeBonus | .table _ _ => false

/-- What a rule answers for a step. -/
def answer (rule : ExecutorRule) (step : Step) : Except StepFault Float :=
  match rule with
  | .typeBonus => .ok (Executor.kindReward step.kind)
  | .constant reward => .ok reward
  | .failingOn name =>
      if name = step.name then .error ⟨"scripted failure on " ++ name⟩ else .ok 1.0
  | .table rewards failures =>
      match failures.lookup step.name with
      | some reason => .error ⟨reason⟩
      | none => .ok ((rewards.lookup step.name).getD (Executor.kindReward step.kind))

/-- The executor that a rule describes. -/
def executor (rule : ExecutorRule) : Executor CallLog :=
  if rule.isRecorded then .recorded fun step _ => rule.answer step
  else .ofFunction fun step _ => rule.answer step

end ExecutorRule

end Stepwise
