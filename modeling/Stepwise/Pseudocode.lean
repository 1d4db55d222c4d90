/-
Module: Stepwise.Pseudocode
Purpose: The written form of a workflow as pseudocode.
Main exports: Pseudocode.block, Pseudocode.lines, Pseudocode.render
-/
import Stepwise.Workflow

namespace Stepwise.Pseudocode

/-!
Each step is a block: a header `<kind> <name>:`, a line with the instruction,
and the lines that say where the step leads.  A decision lists all of its
connections, any other step only the one a walk follows.  An empty line closes
each block, and the lines are joined by line feeds, so the text of a non-empty
workflow ends in exactly one line feed after its last written line.

Names, instructions and references are written as they are.
-/

/-- The first line of a block. -/
def header (step : Step) : String :=
  step.kind.keyword ++ " " ++ step.name ++ ":"

/-- The word that introduces the instruction of a step. -/
def instructionLabel : StepKind → String
  | .process => "execute"
  | .decision => "condition"
  | .terminal => "end"

/-- The lines that say where a step leads. -/
def exits (step : Step) : List String :=
  match step.kind with
  | .decision => step.connections.map fun target => "    if true: goto " ++ target
  | .process | .terminal => step.next?.toList.map fun target => "    next: " ++ target

/-- The lines of one step, without the empty line behind them. -/
def block (step : Step) : List String :=
  header step
    :: ("    " ++ instructionLabel step.kind ++ ": " ++ step.instruction)
    :: exits step

/-- The lines of a sequence of steps. -/
def lines (steps : List Step) : List String :=
  steps.flatMap fun step => block step ++ [""]

/-- The pseudocode of a workflow; that of the empty workflow is empty. -/
def render (w : Workflow) : String :=
  "\n".intercalate (lines w.steps)

end Stepwise.Pseudocode
