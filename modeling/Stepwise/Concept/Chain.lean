/-
Module: Stepwise.Concept.Chain
Purpose: Workflows built from concepts.
Main exports: Concept.chainFrom, Workflow.ofConcepts, Workflow.ofPrompt
-/
import Stepwise.Concept
import Stepwise.Workflow

namespace Stepwise

/-!
Concepts become a strictly linear chain: the n-th concept is the n-th step,
named by its position and connected to the step behind it.  The last step is
connected to nothing.
-/

/-- The chain of concepts whose first step has the given ordinal. -/
def Concept.chainFrom (ordinal : Nat) : List String → List Step
  | [] => []
  | concept :: rest =>
      { name := Step.nameOf ordinal
        kind := Concept.kind concept
        instruction := concept
        connections := if rest.isEmpty then [] else [Step.nameOf (ordinal + 1)] }
        :: chainFrom (ordinal + 1) rest

namespace Workflow

/-- The workflow of a list of concepts. -/
def ofConcepts (concepts : List String) : Workflow :=
  ⟨Concept.chainFrom 1 concepts⟩

/-- The workflow of a prompt, one step per line that is not blank. -/
def ofPrompt (prompt : String) : Workflow :=
  ofConcepts (Concept.ofPrompt prompt)

end Workflow

end Stepwise
