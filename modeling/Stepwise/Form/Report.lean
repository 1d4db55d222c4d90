/-
Module: Stepwise.Form.Report
Purpose: The JSON forms of evaluation reports.
Main exports: Halt.decoder, Report.toJson, Report.decoder
-/
import Stepwise.Evaluation
import Stepwise.Form.Step

namespace Stepwise

namespace Halt

/-- A reason as a JSON value. -/
def toJson (halt : Halt) : Json :=
  .str halt.keyword

/-- All reasons with their words. -/
def choices : List (String × Halt) :=
  [.empty, .terminal, .noNextStep, .conditionUnmet].map fun halt => (halt.keyword, halt)

/-- Reads a reason. -/
def decoder : Json.Decoder Halt :=
  .choice choices

end Halt

namespace Report

/-- A report as a JSON value. -/
def toJson (report : Report) : Json :=
  .obj
    [("reward", .num (.float report.reward)), ("visited", .ofStrings report.visited),
      ("halt", report.halt.toJson)]

/-- A report of which some members have been read. -/
structure Draft where
  reward : Option Float
  visited : Option (List String)
  halt : Option Halt
deriving Repr, Inhabited

namespace Draft

/-- The draft before any member has been read. -/
def blank : Draft :=
  { reward := none
    visited := none
    halt := none }

/-- The finished report. -/
def finish (draft : Draft) : Except String Report := do
  let reward ← Json.required "reward" draft.reward
  let visited ← Json.required "visited" draft.visited
  let halt ← Json.required "halt" draft.halt
  return {
    reward := reward
    visited := visited
    halt := halt }

end Draft

/-- Reports as records. -/
def record : Json.Record Draft Report :=
  { name := "EvaluationReport"
    fields :=
      [.of "reward" false Draft.reward
          (fun draft reward => { draft with reward := some reward }) .float,
        .of "visited" false Draft.visited
          (fun draft visited => { draft with visited := some visited }) (.list .text),
        .of "halt" false Draft.halt
          (fun draft halt => { draft with halt := some halt }) Halt.decoder]
    blank := .blank
    finish := Draft.finish }

/-- Reads a report. -/
def decoder : Json.Decoder Report :=
  record.decoder

end Report

end Stepwise
