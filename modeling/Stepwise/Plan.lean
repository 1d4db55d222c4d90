/-
Module: Stepwise.Plan
Purpose: From a prompt to a workflow, its pseudocode and its reward.
Main exports: Plan, Planner, Planner.plan, Plan.ofPrompt
-/
import Stepwise.Concept.Chain
import Stepwise.Evaluation
import Stepwise.Pseudocode

namespace Stepwise

/-!
A plan is all that one prompt yields.  The planner fixes how concepts are
extracted and which evaluator walks the workflow; it keeps nothing between
two prompts.  If the walk fails there is no plan, only the fault.
-/

/-- A workflow with its pseudocode and the reward of walking it. -/
structure Plan where
  workflow : Workflow
  pseudocode : String
  reward : Float
deriving Repr, Inhabited

/-- A way of extracting concepts, and an evaluator. -/
structure Planner (σ : Type) where
  extract : String → List String
  evaluator : Evaluator σ

/-- Builds, renders and walks the workflow of a prompt. -/
def Planner.plan {σ : Type} (planner : Planner σ) (prompt : String) (context : Context)
    (state : σ) : Except WorkflowFault Plan × σ :=
  let w := Workflow.ofConcepts (planner.extract prompt)
  let (outcome, state) := planner.evaluator.run w context state
  (outcome.map fun report =>
      { workflow := w
        pseudocode := Pseudocode.render w
        reward := report.reward },
    state)

/-- One concept per line, and the reference policies under a ceiling factor. -/
def Planner.reference (ceilingFactor : Nat) : Planner Unit :=
  { extract := Concept.ofPrompt
    evaluator := .reference ceilingFactor }

/-- The plan of a prompt under the reference policies. -/
def Plan.ofPrompt (prompt : String) (context : Context) : Except WorkflowFault Plan :=
  ((Planner.reference defaultCeilingFactor).plan prompt context ()).1

end Stepwise
