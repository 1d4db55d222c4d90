/-
Module: Stepwise.Fault
Purpose: Everything that can be wrong with a workflow or one of its steps.
Main exports: ReferenceFault, StepFault, WorkflowFault, WorkflowFault.message
-/
import Stepwise.Step.Name

namespace Stepwise

/-!
Faults are causes, not texts.  Each cause carries what its report has to name,
and one function per type gives the wording.  An empty workflow is never a
fault: every operation treats it as a workflow of no steps.
-/

/-- Why a connection leads nowhere. -/
inductive ReferenceFault where
  | notAReference
  | zeroOrdinal
  | pastTheEnd
deriving Repr, Inhabited, DecidableEq

/-- The reason in words. -/
def ReferenceFault.reason : ReferenceFault → String
  | .notAReference => "not of the form step_<n>"
  | .zeroOrdinal => "ordinals start at 1"
  | .pastTheEnd => "ordinal is past the end of the workflow"

/-- The failure an executor reports for a step it cannot carry out. -/
structure StepFault where
  reason : String
deriving Repr, Inhabited, DecidableEq

/-- The failure in words. -/
def StepFault.message (fault : StepFault) : String :=
  "fatal step error: " ++ fault.reason

/-- What stops a validation or a walk. -/
inductive WorkflowFault where
  /-- A connection of `step` does not name a step of the workflow. -/
  | malformedReference (step : String) (reference : String) (why : ReferenceFault)
  /-- The step at `index` does not bear its positional name. -/
  | misnamedStep (index : Nat) (name : String)
  /-- `limit` steps were executed and the walk moved on to the step `next`. -/
  | unboundedTraversal (limit : Nat) (next : String)
  /-- The executor failed on `step`. -/
  | stepFailed (step : String) (fault : StepFault)
deriving Repr, Inhabited, DecidableEq

/-- The fault in words. -/
def WorkflowFault.message : WorkflowFault → String
  | .malformedReference step reference why =>
      "step '" ++ step ++ "' references '" ++ reference ++ "': " ++ why.reason
  | .misnamedStep index name =>
      "step at index " ++ index.repr ++ " is named '" ++ name ++ "', expected '" ++
        Step.nameOf (index + 1) ++ "'"
  | .unboundedTraversal limit next =>
      "traversal exceeded " ++ limit.repr ++ " steps at '" ++ next ++
        "'; workflow likely contains a cycle"
  | .stepFailed step fault =>
      "step '" ++ step ++ "' failed: " ++ fault.message

end Stepwise
