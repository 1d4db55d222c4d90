/-
Module: Stepwise.Policy.Recorded
Purpose: Policies that answer from a script and record their calls.
Main exports: CallLog, Executor.recorded, Condition.scripted
-/
import Stepwise.Policy

namespace Stepwise

/-!
The state of recorded policies is a log of the steps they were called for, in
call order.  The log is also the only memory they have: a scripted condition
finds its next answer by counting the calls already in the log, so the script
goes on across several walks that pass the log along.
-/

/-- The names of the steps executed and of the steps asked about. -/
structure CallLog where
  executed : Array String
  asked : Array String
deriving Repr, Inhabited, DecidableEq

/-- The log before any call. -/
def CallLog.empty : CallLog :=
  { executed := #[]
    asked := #[] }

/-- The executor that logs each call and answers by a function.  A call that
fails is logged like any other. -/
def Executor.recorded (answer : Step → Context → Except StepFault Float) :
    Executor CallLog :=
  ⟨fun step context log =>
    (answer step context, { log with executed := log.executed.push step.name })⟩

/-- The answer of a script at a position: past its end the last answer
repeats, and an empty script answers false. -/
def scriptAnswer (answers : List Bool) (position : Nat) : Bool :=
  (answers[position]?.or answers.getLast?).getD false

/-- The condition that logs each call and answers from a script. -/
def Condition.scripted (answers : List Bool) : Condition CallLog :=
  ⟨fun step _ log =>
    (scriptAnswer answers log.asked.size, { log with asked := log.asked.push step.name })⟩

end Stepwise
