/-
Module: Stepwise.Proofs.CommandLine.RoundTrip
Purpose: The program accepts the workflow that it prints for a prompt.
Main exports: Plan.indented_toJson, CommandLine.conclude_run,
  CommandLine.validate_printed_workflow
-/
import Stepwise.Proofs.CommandLine.Verdict
import Stepwise.Proofs.Concept.Validation
import Stepwise.Proofs.Form.Step
import Stepwise.Proofs.Plan

namespace Stepwise

/-!
The two actions meet in the JSON form of a workflow.  One prints it as the first
member of a plan, and the other reads it from a text of its own.  In between
nothing of the first call is left but the text: the ceiling factor and the
context of the second call are its own, and the reward has to come out the same
because under the reference policies it depends on the workflow alone.
-/

/-- A concept stands for each line of the prompt that is not blank. -/
theorem Concept.length_ofPrompt (prompt : String) :
    (ofPrompt prompt).length =
      (prompt.toList.splitOn '\n').countP fun line => !Text.isBlank line := by
  rw [ofPrompt, List.length_map, List.countP_eq_length_filter]

/-- The array of steps as it stands in the indented form of a plan. -/
def Plan.workflowText (plan : Plan) : String :=
  String.ofList (Json.write .indented 1 plan.workflow.toJson)

/-- The indented form of a plan, member by member. -/
theorem Plan.indented_toJson (plan : Plan) :
    plan.toJson.indented =
      "\x7b\n  \"workflow\": " ++ plan.workflowText ++
        ",\n  \"pseudocode\": " ++ String.ofList (Json.quoted plan.pseudocode) ++
        ",\n  \"reward\": " ++ Json.numberLayout.write plan.reward ++ "\n\x7d" := by
  apply String.toList_inj.mp
  simp [Json.indented, toJson, Json.write, Json.writeMembers, Json.quoted, Json.escape,
    Json.Spacing.indented, Json.Number.write, workflowText]

/-- The array in a plan is read as the workflow of the plan. -/
theorem Plan.read_workflowText (plan : Plan) :
    Workflow.decoder.read plan.workflowText = .ok plan.workflow :=
  plan.workflow.accepts_toJson.read Json.Spacing.blank_indented 1

theorem Plan.readThrough_workflowText (plan : Plan) :
    Workflow.decoder.readThrough plan.workflowText = .ok plan.workflow :=
  plan.workflow.accepts_toJson.readThrough Json.Spacing.blank_indented plan.workflow.fits_toJson 1

namespace CommandLine

variable {invocation : Invocation} {text : String}

/-- A plan is printed in its indented form. -/
theorem conclude_run {plan : Plan} (runs : invocation.action = .run)
    (as_json : invocation.json = true)
    (planned : ((Planner.reference invocation.ceilingFactor).plan text invocation.context ()).1 =
      .ok plan) :
    invocation.conclude (.ok text.toUTF8) = .printed (plan.toJson.indented ++ "\n") := by
  refine conclude_of_execute ?_
  simp only [execute, runs, planned, as_json]
  rfl

/-- A built workflow is found valid, all of its steps are listed, and the walk is
rewarded for the concepts up to the first terminal one. -/
theorem judge_ofPrompt {prompt : String} (sized : (Concept.ofPrompt prompt).length < sizeLimit)
    (ceilingFactor : Nat) (context : Context) :
    ∃ verdict, judge ceilingFactor context (.ofPrompt prompt) = .ok verdict ∧
      verdict.reachable = (List.range (Concept.ofPrompt prompt).length).map
        (fun index => Step.nameOf (index + 1)) ∧
      verdict.report.reward = ((Concept.untilTerminal (Concept.ofPrompt prompt)).map
        Concept.earnings).foldl (· + ·) 0.0 := by
  have valid := Workflow.validate_ofConcepts (Workflow.length_ofConcepts _ ▸ sized)
  obtain ⟨halt, walked⟩ := Evaluator.reference_run_ofConcepts sized ceilingFactor context ()
  exact ⟨_, judge_of_report valid (congrArg Prod.fst walked), rfl, rfl⟩

/-- What is printed for a prompt is found valid, with the reward that was
printed.  The array of steps is read as the workflow that was built; validation
lists one positional name for each line that is not blank; and the walk is
rewarded in the same way, whatever the ceiling factors and the contexts of the
two calls are. -/
theorem validate_printed_workflow (prompt : String)
    (sized : (Concept.ofPrompt prompt).length < sizeLimit) (running validating : Invocation)
    (runs : running.action = .run) (as_json : running.json = true)
    (validates : validating.action = .validate) :
    ∃ (plan : Plan) (verdict : Verdict),
      running.conclude (.ok prompt.toUTF8) =
          .printed
            ("\x7b\n  \"workflow\": " ++ plan.workflowText ++
              ",\n  \"pseudocode\": " ++ String.ofList (Json.quoted plan.pseudocode) ++
              ",\n  \"reward\": " ++ Json.numberLayout.write plan.reward ++ "\n\x7d\n") ∧
        plan.workflow = .ofPrompt prompt ∧
        Workflow.decoder.read plan.workflowText = .ok plan.workflow ∧
        Workflow.decoder.readThrough plan.workflowText = .ok plan.workflow ∧
        plan.workflow.validate = .ok verdict.reachable ∧
        verdict.reachable =
          (List.range ((prompt.toList.splitOn '\n').countP fun line => !Text.isBlank line)).map
            (fun index => Step.nameOf (index + 1)) ∧
        validating.conclude (.ok plan.workflowText.toUTF8) =
          .printed (verdict.toJson.indented ++ "\n") ∧
        judge validating.ceilingFactor validating.context plan.workflow = .ok verdict ∧
        verdict.report.reward = plan.reward := by
  have planned := Planner.plan_reference sized running.ceilingFactor running.context
  obtain ⟨plan, made, built, rewarded⟩ : ∃ plan,
      ((Planner.reference running.ceilingFactor).plan prompt running.context ()).1 = .ok plan ∧
        plan.workflow = .ofPrompt prompt ∧
        plan.reward = ((Concept.untilTerminal (Concept.ofPrompt prompt)).map
          Concept.earnings).foldl (· + ·) 0.0 :=
    ⟨_, congrArg Prod.fst planned, rfl, rfl⟩
  obtain ⟨verdict, judged, listed, rewarded'⟩ :=
    judge_ofPrompt sized validating.ceilingFactor validating.context
  rw [← built] at judged
  have printed := conclude_run runs as_json made
  rw [Plan.indented_toJson] at printed
  refine ⟨plan, verdict, ?_, built, plan.read_workflowText, plan.readThrough_workflowText,
    (judge_eq_ok_iff.mp judged).1, ?_,
    conclude_of_judge validates plan.read_workflowText judged, judged, ?_⟩
  · simpa [String.append_assoc] using printed
  · rw [listed, Concept.length_ofPrompt]
  · rw [rewarded', rewarded]

/-- A call that prints plans, under the smallest ceiling factor. -/
def planning : Invocation :=
  { action := .run
    json := true
    path := none
    ceilingFactor := 0
    context := .empty }

/-- A call that judges workflows, under another factor and another context. -/
def judging : Invocation :=
  { action := .validate
    json := false
    path := some "workflow.json"
    ceilingFactor := 7
    context := .ofEntries [("ready", .bool false)] }

/-- Of four lines one is blank, and the plan for the others is found valid. -/
theorem validate_printed_threeSteps :
    (Concept.ofPrompt "load\nready?\n\nEnd \"all\"").length < sizeLimit ∧
      ∃ (plan : Plan) (verdict : Verdict) (others : String),
        planning.conclude (.ok "load\nready?\n\nEnd \"all\"".toUTF8) =
            .printed ("\x7b\n  \"workflow\": " ++ plan.workflowText ++ others) ∧
          judging.conclude (.ok plan.workflowText.toUTF8) =
            .printed (verdict.toJson.indented ++ "\n") ∧
          verdict.reachable = ["step_1", "step_2", "step_3"] ∧
          verdict.report.reward = plan.reward := by
  have sized : (Concept.ofPrompt "load\nready?\n\nEnd \"all\"").length < sizeLimit := by decide
  obtain ⟨plan, verdict, printed, -, -, -, -, listed, judged, -, same⟩ :=
    validate_printed_workflow _ sized planning judging rfl rfl rfl
  simp only [String.append_assoc] at printed
  rw [← String.append_assoc] at printed
  exact ⟨sized, plan, verdict, _, printed, judged, listed, same⟩

end CommandLine

end Stepwise
