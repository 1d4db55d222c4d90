/-
Module: Stepwise.Step
Purpose: The steps that workflows are made of.
Main exports: StepKind, StepKind.keyword, Step, Step.next?, Step.Face
-/

namespace Stepwise

/-!
A step is plain data: its connections are the *names* of other steps and are
looked up in the owning workflow only when somebody follows them.  Nothing
about a name is checked when a step is made, so a step may carry any text.
-/

/-- What a step is for; it decides how the step is written and walked. -/
inductive StepKind where
  | process
  | decision
  | terminal
deriving Repr, Inhabited, DecidableEq

/-- The lowercase word for a kind, used by every textual form. -/
def StepKind.keyword : StepKind → String
  | .process => "process"
  | .decision => "decision"
  | .terminal => "terminal"

/-- One node of a workflow. -/
structure Step where
  name : String
  kind : StepKind
  instruction : String
  connections : List String
deriving Repr, Inhabited, DecidableEq

namespace Step

/-- The connection a walk follows: the first one. -/
def next? (step : Step) : Option String :=
  step.connections.head?

/-- The part of a step that says what it is and not where it leads. -/
structure Face where
  name : String
  kind : StepKind
  instruction : String
deriving Repr, Inhabited, DecidableEq

/-- A step seen without its connections. -/
def face (step : Step) : Face :=
  { name := step.name
    kind := step.kind
    instruction := step.instruction }

end Step

end Stepwise
