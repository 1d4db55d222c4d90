/-
Module: Stepwise.Workflow
Purpose: Workflows and the resolution of references inside them.
Main exports: Workflow, Workflow.get, Workflow.locate, Workflow.resolve
-/
import Stepwise.Fault

namespace Stepwise

/-!
A workflow is a sequence of steps; the first is the only entry.  References
are resolved by position, never by searching for a name: `step_k` is the step
at index `k - 1`, whatever that step calls itself.  A resolved reference is
an index of the workflow it was resolved in (`Fin w.length`), so nobody can
follow it out of range.
-/

/-- An ordered sequence of steps. -/
structure Workflow where
  steps : List Step
deriving Repr, Inhabited, DecidableEq

namespace Workflow

/-- The number of steps. -/
abbrev length (w : Workflow) : Nat :=
  w.steps.length

/-- The workflow without steps. -/
def empty : Workflow :=
  ⟨[]⟩

/-- Whether there is no step. -/
def isEmpty (w : Workflow) : Bool :=
  w.steps.isEmpty

/-- The step at an index of the workflow. -/
def get (w : Workflow) (index : Fin w.length) : Step :=
  w.steps.get index

/-- The step at any index, if there is one. -/
def get? (w : Workflow) (index : Nat) : Option Step :=
  w.steps[index]?

/-- The entry of the workflow. -/
def first? (w : Workflow) : Option Step :=
  w.steps.head?

/-- The workflow with further steps behind its own. -/
def append (w : Workflow) (further : List Step) : Workflow :=
  ⟨w.steps ++ further⟩

/-- Where a reference leads: it has to spell an ordinal between one and the
length of the workflow. -/
def locate (w : Workflow) (reference : String) :
    Except ReferenceFault (Fin w.length) :=
  match Step.ordinal? reference with
  | none => .error .notAReference
  | some 0 => .error .zeroOrdinal
  | some (index + 1) =>
      if inside : index < w.length then .ok ⟨index, inside⟩
      else .error .pastTheEnd

/-- Where a reference held by the step named `holder` leads. -/
def resolve (w : Workflow) (holder reference : String) :
    Except WorkflowFault (Fin w.length) :=
  (w.locate reference).mapError fun why => .malformedReference holder reference why

end Workflow

end Stepwise
