/-
Module: Stepwise.Form.Step
Purpose: The JSON forms of steps and workflows.
Main exports: StepKind.decoder, Step.toJson, Step.decoder, Workflow.toJson, Workflow.decoder
-/
import Stepwise.Json.Record
import Stepwise.Workflow

namespace Stepwise

/-!
A step is an object of four members in a fixed order; a reader takes them in
any order and lets the connections be missing.  A workflow is the list of its
steps and nothing else.
-/

/-- A list of strings as a JSON value. -/
def Json.ofStrings (texts : List String) : Json :=
  .arr (texts.map Json.str)

namespace StepKind

/-- A kind as a JSON value. -/
def toJson (kind : StepKind) : Json :=
  .str kind.keyword

/-- All kinds with their words. -/
def choices : List (String × StepKind) :=
  [.process, .decision, .terminal].map fun kind => (kind.keyword, kind)

/-- Reads a kind. -/
def decoder : Json.Decoder StepKind :=
  .choice choices

end StepKind

namespace Step

/-- A step as a JSON value. -/
def toJson (step : Step) : Json :=
  .obj
    [("name", .str step.name), ("step_type", step.kind.toJson),
      ("instruction", .str step.instruction), ("connections", .ofStrings step.connections)]

/-- A step of which some members have been read. -/
structure Draft where
  name : Option String
  kind : Option StepKind
  instruction : Option String
  connections : Option (List String)
deriving Repr, Inhabited, DecidableEq

namespace Draft

/-- The draft before any member has been read. -/
def blank : Draft :=
  { name := none
    kind := none
    instruction := none
    connections := none }

/-- The finished step; without connections it has none. -/
def finish (draft : Draft) : Except String Step := do
  let name ← Json.required "name" draft.name
  let kind ← Json.required "step_type" draft.kind
  let instruction ← Json.required "instruction" draft.instruction
  return {
    name := name
    kind := kind
    instruction := instruction
    connections := draft.connections.getD [] }

end Draft

/-- Steps as records. -/
def record : Json.Record Draft Step :=
  { name := "Step"
    fields :=
      [.of "name" false Draft.name
          (fun draft name => { draft with name := some name }) .text,
        .of "step_type" false Draft.kind
          (fun draft kind => { draft with kind := some kind }) StepKind.decoder,
        .of "instruction" false Draft.instruction
          (fun draft instruction => { draft with instruction := some instruction }) .text,
        .of "connections" true Draft.connections
          (fun draft connections => { draft with connections := some connections })
          (.list .text)]
    blank := .blank
    finish := Draft.finish }

/-- Reads a step. -/
def decoder : Json.Decoder Step :=
  record.decoder

end Step

namespace Workflow

/-- A workflow as a JSON value. -/
def toJson (w : Workflow) : Json :=
  .arr (w.steps.map Step.toJson)

/-- Reads a workflow. -/
def decoder : Json.Decoder Workflow :=
  (Json.Decoder.list Step.decoder).map Workflow.mk

end Workflow

end Stepwise
