/-
Module: Stepwise.Form.Plan
Purpose: The JSON form of plans.
Main exports: Plan.toJson, Plan.decoder
-/
import Stepwise.Form.Step
import Stepwise.Plan

namespace Stepwise.Plan

/-- A plan as a JSON value. -/
def toJson (plan : Plan) : Json :=
  .obj
    [("workflow", plan.workflow.toJson), ("pseudocode", .str plan.pseudocode),
      ("reward", .num (.float plan.reward))]

/-- A plan of which some members have been read. -/
structure Draft where
  workflow : Option Workflow
  pseudocode : Option String
  reward : Option Float
deriving Repr, Inhabited

namespace Draft

/-- The draft before any member has been read. -/
def blank : Draft :=
  { workflow := none
    pseudocode := none
    reward := none }

/-- The finished plan. -/
def finish (draft : Draft) : Except String Plan := do
  let workflow ← Json.required "workflow" draft.workflow
  let pseudocode ← Json.required "pseudocode" draft.pseudocode
  let reward ← Json.required "reward" draft.reward
  return {
    workflow := workflow
    pseudocode := pseudocode
    reward := reward }

end Draft

/-- Plans as records. -/
def record : Json.Record Draft Plan :=
  { name := "PipelineOutput"
    fields :=
      [.of "workflow" false Draft.workflow
          (fun draft workflow => { draft with workflow := some workflow }) Workflow.decoder,
        .of "pseudocode" false Draft.pseudocode
          (fun draft pseudocode => { draft with pseudocode := some pseudocode }) .text,
        .of "reward" false Draft.reward
          (fun draft reward => { draft with reward := some reward }) .float]
    blank := .blank
    finish := Draft.finish }

/-- Reads a plan. -/
def decoder : Json.Decoder Plan :=
  record.decoder

end Stepwise.Plan
