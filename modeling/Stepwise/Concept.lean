/-
Module: Stepwise.Concept
Purpose: Concepts, the texts that steps are made from.
Main exports: Concept.ofPrompt, Concept.kind
-/
import Stepwise.Step
import Stepwise.Text.Blank
import Stepwise.Text.Casing

namespace Stepwise.Concept

/-!
A concept is the text of one future step.  A prompt holds one concept per line
that is not blank, and the line is kept as it is: indentation, trailing space
and carriage returns belong to the concept.  Lines end at line feeds only.

The kind of a step is read off its concept.  A question is a decision wherever
its mark stands; otherwise a concept that opens with a closing word, in any
letter case, is terminal; all others are processes.
-/

/-- The concepts of a prompt. -/
def ofPrompt (prompt : String) : List String :=
  ((prompt.toList.splitOn '\n').filter fun line => !Text.isBlank line).map String.ofList

/-- The words that open a terminal concept. -/
def closingWords : List (List Char) :=
  [['f', 'i', 'n', 'i', 's', 'h'], ['e', 'n', 'd'], ['c', 'o', 'm', 'p', 'l', 'e', 't', 'e']]

/-- The kind of the step made from a concept. -/
def kind (concept : String) : StepKind :=
  if '?' ∈ concept.toList then .decision
  else if closingWords.any fun word => word.isPrefixOf (Text.lowercase concept.toList) then
    .terminal
  else .process

end Stepwise.Concept
