/-
Module: Stepwise.Proofs.CommandLine.Verdict
Purpose: Which workflows the program finds valid, and what it says about the
  others.
Main exports: CommandLine.judge_of_invalid, CommandLine.judge_of_fault,
  CommandLine.judge_of_report, CommandLine.exists_judge_iff, CommandLine.execute_validate,
  CommandLine.conclude_of_judge, CommandLine.conclude_of_verdict, CommandLine.conclude_of_invalid,
  CommandLine.conclude_of_not_forward, CommandLine.judge_exact
-/
import Stepwise.Proofs.CommandLine.Printed
import Stepwise.Proofs.Form.Step
import Stepwise.Proofs.Walk.Reference

namespace Stepwise.CommandLine

/-!
A workflow is judged in two stages, and each stage asks something of the
workflow alone.  Validation asks for positional names and connections that
lead somewhere; the walk under the reference policies asks for a route of first
connections that does not come back.  Neither the ceiling factor nor the
context has a say.  A call prints the verdict, or a report on the stage at which
the workflow failed.
-/

variable {w : Workflow} {ceilingFactor : Nat} {context : Context}

theorem judge_of_invalid {fault : WorkflowFault} (invalid : w.validate = .error fault) :
    judge ceilingFactor context w = .error (.invalid fault) := by
  simp only [judge, invalid]
  rfl

theorem judge_of_fault {names : List String} {fault : WorkflowFault}
    (valid : w.validate = .ok names)
    (failed : ((Evaluator.reference ceilingFactor).run w context ()).1 = .error fault) :
    judge ceilingFactor context w = .error (.unevaluated fault) := by
  simp only [judge, valid, failed]
  rfl

theorem judge_of_report {names : List String} {report : Report} (valid : w.validate = .ok names)
    (reported : ((Evaluator.reference ceilingFactor).run w context ()).1 = .ok report) :
    judge ceilingFactor context w =
      .ok { length := w.length, reachable := names, report := report } := by
  simp only [judge, valid, reported]
  rfl

/-- A verdict holds what both stages have found. -/
theorem judge_eq_ok_iff {verdict : Verdict} :
    judge ceilingFactor context w = .ok verdict ↔
      w.validate = .ok verdict.reachable ∧
        ((Evaluator.reference ceilingFactor).run w context ()).1 = .ok verdict.report ∧
        verdict.length = w.length := by
  constructor
  · intro judged
    cases valid : w.validate with
    | error fault =>
        rw [judge_of_invalid valid] at judged
        cases judged
    | ok names =>
        cases outcome : ((Evaluator.reference ceilingFactor).run w context ()).1 with
        | error fault =>
            rw [judge_of_fault valid outcome] at judged
            cases judged
        | ok report =>
            rw [judge_of_report valid outcome] at judged
            cases judged
            exact ⟨rfl, rfl, rfl⟩
  · rintro ⟨valid, reported, same⟩
    rw [judge_of_report valid reported, ← same]

/-- An accepted workflow whose walk comes back is not evaluated. -/
theorem judge_of_not_forward {names : List String} (valid : w.validate = .ok names)
    (back : ¬ w.Forward) (ceilingFactor : Nat) (context : Context) :
    ∃ limit, ∃ next ∈ names, judge ceilingFactor context w =
      .error (.unevaluated (.unboundedTraversal limit next)) := by
  have revisits : (Evaluator.reference ceilingFactor).Revisits w context () :=
    (Evaluator.reference_revisits_iff ()).mpr back
  obtain ⟨limit, next, unbounded⟩ :=
    revisits.unbounded (Evaluator.alike_reference ceilingFactor ceilingFactor) ()
  have stays := Evaluator.run_staysWithin valid (Evaluator.reference ceilingFactor) context ()
  rw [unbounded] at stays
  exact ⟨limit, next, stays, judge_of_fault valid unbounded⟩

/-- A workflow that is found valid has a walk that does not come back. -/
theorem forward_of_judge {verdict : Verdict}
    (judged : judge ceilingFactor context w = .ok verdict) : w.Forward := by
  by_contra back
  obtain ⟨valid, -, -⟩ := judge_eq_ok_iff.mp judged
  obtain ⟨limit, next, -, failed⟩ := judge_of_not_forward valid back ceilingFactor context
  rw [failed] at judged
  cases judged

/-- What a verdict reports as visited is listed as reachable. -/
theorem mem_reachable_of_judge {verdict : Verdict}
    (judged : judge ceilingFactor context w = .ok verdict) :
    ∀ name ∈ verdict.report.visited, name ∈ verdict.reachable := by
  obtain ⟨valid, reported, -⟩ := judge_eq_ok_iff.mp judged
  have stays := Evaluator.run_staysWithin valid (Evaluator.reference ceilingFactor) context ()
  rw [reported] at stays
  exact stays

/-- What a verdict reports has been visited once. -/
theorem nodup_visited_of_judge {verdict : Verdict}
    (judged : judge ceilingFactor context w = .ok verdict) : verdict.report.visited.Nodup := by
  obtain ⟨valid, reported, -⟩ := judge_eq_ok_iff.mp judged
  have named := (Workflow.validate_accepts_iff.mp ⟨_, valid⟩).1
  have onward : ¬ (Evaluator.reference ceilingFactor).Revisits w context () :=
    fun revisits => (Evaluator.reference_revisits_iff ()).mp revisits (forward_of_judge judged)
  exact Evaluator.nodup_visited named onward reported

/-- A workflow is found valid exactly if it is accepted and its walk does not come
back. -/
theorem exists_judge_iff (sized : w.length < sizeLimit) :
    (∃ verdict, judge ceilingFactor context w = .ok verdict) ↔
      w.Positional ∧ w.Resolving ∧ w.Forward := by
  constructor
  · rintro ⟨verdict, judged⟩
    obtain ⟨valid, -, -⟩ := judge_eq_ok_iff.mp judged
    obtain ⟨named, resolving⟩ := Workflow.validate_accepts_iff.mp ⟨_, valid⟩
    exact ⟨named, resolving, forward_of_judge judged⟩
  · rintro ⟨named, resolving, forward⟩
    obtain ⟨names, valid⟩ := Workflow.validate_accepts_iff.mpr ⟨named, resolving⟩
    obtain ⟨report, reported⟩ :=
      Evaluator.reference_reports valid sized forward ceilingFactor context ()
    exact ⟨_, judge_of_report valid reported⟩

/-! ### Calls -/

section Calls

variable {invocation : Invocation} {text : String} (validates : invocation.action = .validate)
  (read : Workflow.decoder.read text = .ok w)

include validates read

/-- The program judges the workflow that it reads and prints the verdict. -/
theorem execute_validate :
    execute invocation text =
      (judge invocation.ceilingFactor invocation.context w).map fun verdict =>
        verdict.toJson.indented ++ "\n" := by
  simp only [execute, validates, read]
  change (judge invocation.ceilingFactor invocation.context w >>= fun verdict =>
    pure (verdict.toJson.indented ++ "\n")) = _
  cases judge invocation.ceilingFactor invocation.context w <;> rfl

/-- A verdict on the workflow that is read is printed in its indented form. -/
theorem conclude_of_judge {verdict : Verdict}
    (judged : judge invocation.ceilingFactor invocation.context w = .ok verdict) :
    invocation.conclude (.ok text.toUTF8) = .printed (verdict.toJson.indented ++ "\n") := by
  apply conclude_of_execute
  rw [execute_validate validates read, judged]
  rfl

theorem conclude_of_judge_failed {failure : Failure}
    (judged : judge invocation.ceilingFactor invocation.context w = .error failure) :
    invocation.conclude (.ok text.toUTF8) = .failed failure.report := by
  apply conclude_of_failure
  rw [execute_validate validates read, judged]
  rfl

theorem exitCode_eq_zero_iff :
    (invocation.conclude (.ok text.toUTF8)).exitCode = 0 ↔
      ∃ verdict, judge invocation.ceilingFactor invocation.context w = .ok verdict := by
  cases judged : judge invocation.ceilingFactor invocation.context w with
  | ok verdict =>
      rw [conclude_of_judge validates read judged]
      exact iff_of_true rfl ⟨verdict, rfl⟩
  | error failure =>
      rw [conclude_of_judge_failed validates read judged]
      exact iff_of_false Nat.one_ne_zero nofun

/-- Line by line, a verdict is printed with its names as they are. -/
theorem conclude_of_verdict {verdict : Verdict}
    (judged : judge invocation.ceilingFactor invocation.context w = .ok verdict) :
    invocation.conclude (.ok text.toUTF8) = .printed verdict.lines := by
  have listed : ∀ name ∈ verdict.reachable, Json.Unescaped name := by
    intro name held
    obtain ⟨valid, -, -⟩ := judge_eq_ok_iff.mp judged
    obtain ⟨ordinal, rfl⟩ := Workflow.exists_eq_nameOf_of_validate valid held
    exact Json.unescaped_nameOf ordinal
  have visited : ∀ name ∈ verdict.report.visited, Json.Unescaped name :=
    fun name held => listed name (mem_reachable_of_judge judged name held)
  rw [conclude_of_judge validates read judged, Verdict.indented_toJson listed visited]

theorem conclude_of_invalid {fault : WorkflowFault} (invalid : w.validate = .error fault) :
    invocation.conclude (.ok text.toUTF8) =
      .failed ("Error: validation failed: " ++ fault.message) := by
  rw [conclude_of_judge_failed validates read (judge_of_invalid invalid), Failure.report_invalid]

/-- A walk is given up at a listed step, whose name is on one line. -/
theorem conclude_of_not_forward {names : List String} (valid : w.validate = .ok names)
    (back : ¬ w.Forward) :
    ∃ limit, ∃ next ∈ names, '\n' ∉ next.toList ∧
      invocation.conclude (.ok text.toUTF8) =
        .failed (Failure.unevaluated (.unboundedTraversal limit next)).report := by
  obtain ⟨limit, next, listed, failed⟩ :=
    judge_of_not_forward valid back invocation.ceilingFactor invocation.context
  refine ⟨limit, next, listed, ?_, conclude_of_judge_failed validates read failed⟩
  obtain ⟨ordinal, rfl⟩ := Workflow.exists_eq_nameOf_of_validate valid listed
  exact Step.newline_not_mem_nameOf ordinal

end Calls

/-- A workflow is found valid exactly if its names are positional, its
connections lead somewhere and its walk does not come back; the first two are
asked first, and there is no other way to fail.  A verdict visits each step once,
and only steps that it lists as reachable.  A call that reads the workflow prints
the verdict line by line, or says which of the two stages failed and why; it
succeeds whatever its ceiling factor and its context are, or it never does. -/
theorem judge_exact (w : Workflow) (sized : w.length < sizeLimit) (ceilingFactor : Nat)
    (context : Context) :
    ((∃ verdict, judge ceilingFactor context w = .ok verdict) ↔
        w.Positional ∧ w.Resolving ∧ w.Forward) ∧
      (¬ (w.Positional ∧ w.Resolving) →
        ∃ fault, w.validate = .error fault ∧
          judge ceilingFactor context w = .error (.invalid fault)) ∧
      (w.Positional → w.Resolving → ¬ w.Forward →
        ∃ limit next, judge ceilingFactor context w =
          .error (.unevaluated (.unboundedTraversal limit next))) ∧
      (∀ verdict, judge ceilingFactor context w = .ok verdict →
        verdict.report.visited.Nodup ∧
          (∀ name ∈ verdict.report.visited, name ∈ verdict.reachable) ∧
          verdict.report.visited.length ≤ verdict.reachable.length ∧
          verdict.reachable.length ≤ verdict.length ∧ verdict.length = w.length) ∧
      ∀ invocation text, invocation.action = .validate →
        Workflow.decoder.read text = .ok w →
        execute invocation text =
            ((judge invocation.ceilingFactor invocation.context w).map fun verdict =>
              verdict.toJson.indented ++ "\n") ∧
          (∀ verdict, judge invocation.ceilingFactor invocation.context w = .ok verdict →
            invocation.conclude (.ok text.toUTF8) = .printed verdict.lines) ∧
          (¬ (w.Positional ∧ w.Resolving) →
            ∃ fault, w.validate = .error fault ∧
              invocation.conclude (.ok text.toUTF8) =
                .failed ("Error: validation failed: " ++ fault.message)) ∧
          (w.Positional → w.Resolving → ¬ w.Forward →
            ∃ (limit : Nat) (next : String), invocation.conclude (.ok text.toUTF8) =
              .failed ("Error: evaluation failed\n\nCaused by:\n    traversal exceeded " ++
                limit.repr ++ " steps at '" ++ next ++
                "'; workflow likely contains a cycle")) ∧
          ((invocation.conclude (.ok text.toUTF8)).exitCode = 0 ↔
            w.Positional ∧ w.Resolving ∧ w.Forward) := by
  have invalid_of (unaccepted : ¬ (w.Positional ∧ w.Resolving)) :
      ∃ fault, w.validate = .error fault := by
    cases valid : w.validate with
    | error fault => exact ⟨fault, rfl⟩
    | ok names => exact absurd (Workflow.validate_accepts_iff.mp ⟨names, valid⟩) unaccepted
  have valid_of (named : w.Positional) (resolving : w.Resolving) :
      ∃ names, w.validate = .ok names :=
    Workflow.validate_accepts_iff.mpr ⟨named, resolving⟩
  refine ⟨exists_judge_iff sized, ?_, ?_, ?_, ?_⟩
  · intro unaccepted
    obtain ⟨fault, invalid⟩ := invalid_of unaccepted
    exact ⟨fault, invalid, judge_of_invalid invalid⟩
  · intro named resolving back
    obtain ⟨names, valid⟩ := valid_of named resolving
    obtain ⟨limit, next, -, failed⟩ := judge_of_not_forward valid back ceilingFactor context
    exact ⟨limit, next, failed⟩
  · intro verdict judged
    obtain ⟨valid, -, whole⟩ := judge_eq_ok_iff.mp judged
    have distinct := nodup_visited_of_judge judged
    have listed := mem_reachable_of_judge judged
    refine ⟨distinct, listed, ?_, ?_, whole⟩
    · exact (List.subperm_of_subset distinct listed).length_le
    · rw [whole]
      exact Workflow.length_le_of_validate valid
  · intro invocation text validates read
    refine ⟨execute_validate validates read, ?_, ?_, ?_, ?_⟩
    · intro verdict judged
      exact conclude_of_verdict validates read judged
    · intro unaccepted
      obtain ⟨fault, invalid⟩ := invalid_of unaccepted
      exact ⟨fault, invalid, conclude_of_invalid validates read invalid⟩
    · intro named resolving back
      obtain ⟨names, valid⟩ := valid_of named resolving
      obtain ⟨limit, next, -, line, failed⟩ := conclude_of_not_forward validates read valid back
      exact ⟨limit, next, failed.trans (congrArg _ (Failure.report_unbounded limit line))⟩
    · rw [exitCode_eq_zero_iff validates read, exists_judge_iff sized]

/-- A circle of connections that the walk does not go round, as its second step
is terminal. -/
def endedCircle : Workflow :=
  { steps :=
      [{ name := "step_1", kind := .process, instruction := "load", connections := ["step_02"] },
        { name := "step_2", kind := .terminal, instruction := "finish",
          connections := ["step_1"] }] }

/-- The verdict on the ended circle. -/
def endedVerdict : Verdict :=
  { length := 2
    reachable := ["step_1", "step_2"]
    report :=
      { reward := 0.0 + (0.1 + 0.2) + (0.1 + 0.4)
        visited := ["step_1", "step_2"]
        halt := .terminal } }

theorem lines_endedVerdict :
    endedVerdict.lines =
      "\x7b\n  \"reachable\": " ++ "[\n    \"step_1\",\n    \"step_2\"\n  ]" ++
        ",\n  \"report\": \x7b\n    \"halt\": \"" ++ "terminal" ++ "\",\n    \"reward\": " ++
        Json.numberLayout.write (0.0 + (0.1 + 0.2) + (0.1 + 0.4)) ++
        ",\n    \"visited\": " ++ "[\n      \"step_1\",\n      \"step_2\"\n    ]" ++
        "\n  \x7d,\n  \"steps\": " ++ "2" ++ "\n\x7d\n" := by
  have reachable : Json.nameLines "  " ["step_1", "step_2"] =
      "[\n    \"step_1\",\n    \"step_2\"\n  ]" := by decide
  have visited : Json.nameLines "    " ["step_1", "step_2"] =
      "[\n      \"step_1\",\n      \"step_2\"\n    ]" := by decide
  have steps : Nat.repr 2 = "2" := by decide
  rw [← reachable, ← visited, ← steps]
  rfl

/-- A workflow of one step that bears the name of a second one. -/
def misnumbered : Workflow :=
  { steps := [{ name := "step_2", kind := .terminal, instruction := "finish", connections := [] }] }

/-- A call that judges workflows under the smallest ceiling factor. -/
def checking : Invocation :=
  { action := .validate
    json := false
    path := some "workflow.json"
    ceilingFactor := 0
    context := .empty }

/-- The ended circle is found valid under the smallest ceiling, so its walk does
not come back, and the verdict is printed.  The loop that no answer leaves is not
evaluated, and the step with the wrong name makes a workflow invalid. -/
theorem judge_endedCircle :
    endedCircle.length < sizeLimit ∧ Evaluator.retryLoop.length < sizeLimit ∧
      misnumbered.length < sizeLimit ∧
      (∃ verdict, judge 0 .empty endedCircle = .ok verdict ∧
        verdict.reachable = ["step_1", "step_2"] ∧
        verdict.report.visited = ["step_1", "step_2"]) ∧
      endedCircle.Forward ∧
      judge 0 .empty Evaluator.retryLoop =
        .error (.unevaluated (.unboundedTraversal 2 "step_1")) ∧
      ¬ Evaluator.retryLoop.Forward ∧
      checking.conclude (.ok endedCircle.toJson.compact.toUTF8) =
        .printed
          ("\x7b\n  \"reachable\": " ++ "[\n    \"step_1\",\n    \"step_2\"\n  ]" ++
            ",\n  \"report\": \x7b\n    \"halt\": \"" ++ "terminal" ++
            "\",\n    \"reward\": " ++
            Json.numberLayout.write (0.0 + (0.1 + 0.2) + (0.1 + 0.4)) ++
            ",\n    \"visited\": " ++ "[\n      \"step_1\",\n      \"step_2\"\n    ]" ++
            "\n  \x7d,\n  \"steps\": " ++ "2" ++ "\n\x7d\n") ∧
      checking.conclude (.ok Evaluator.retryLoop.toJson.compact.toUTF8) =
        .failed ("Error: evaluation failed\n\nCaused by:\n    traversal exceeded " ++
          Nat.repr 2 ++ " steps at '" ++ "step_1" ++ "'; workflow likely contains a cycle") ∧
      (checking.conclude (.ok Evaluator.retryLoop.toJson.compact.toUTF8)).exitCode ≠ 0 ∧
      checking.conclude (.ok misnumbered.toJson.compact.toUTF8) =
        .failed
          "Error: validation failed: step at index 0 is named 'step_2', expected 'step_1'" := by
  have readable (w : Workflow) : Workflow.decoder.read w.toJson.compact = .ok w :=
    w.accepts_toJson.read Json.Spacing.blank_compact 0
  have small : endedCircle.length < sizeLimit ∧ Evaluator.retryLoop.length < sizeLimit ∧
      misnumbered.length < sizeLimit := by decide
  -- The circle that the walk does not go round.
  have judged : judge 0 .empty endedCircle = .ok endedVerdict := rfl
  obtain ⟨found, -, -, -, concludes⟩ := judge_exact endedCircle small.1 0 .empty
  obtain ⟨-, printed, -⟩ := concludes checking _ rfl (readable endedCircle)
  have text := printed endedVerdict judged
  rw [lines_endedVerdict] at text
  -- The loop of a process and a decision.
  have valid : Evaluator.retryLoop.validate = .ok ["step_1", "step_2"] := rfl
  have unended : judge 0 .empty Evaluator.retryLoop =
      .error (.unevaluated (.unboundedTraversal 2 "step_1")) := judge_of_fault valid rfl
  obtain ⟨loopFound, -, -, -, loopConcludes⟩ :=
    judge_exact Evaluator.retryLoop small.2.1 0 .empty
  obtain ⟨-, -, -, -, succeeds⟩ := loopConcludes checking _ rfl (readable Evaluator.retryLoop)
  have back : ¬ Evaluator.retryLoop.Forward := by
    intro forward
    obtain ⟨named, resolving⟩ := Workflow.validate_accepts_iff.mp ⟨_, valid⟩
    obtain ⟨verdict, judged⟩ := loopFound.mpr ⟨named, resolving, forward⟩
    rw [unended] at judged
    cases judged
  have report : checking.conclude (.ok Evaluator.retryLoop.toJson.compact.toUTF8) = .failed _ :=
    conclude_of_judge_failed rfl (readable Evaluator.retryLoop) unended
  rw [Failure.report_unbounded 2 (by decide)] at report
  -- The step with the wrong name.
  have invalid : misnumbered.validate = .error (.misnamedStep 0 "step_2") := rfl
  have unaccepted : ¬ (misnumbered.Positional ∧ misnumbered.Resolving) := by
    intro accepted
    obtain ⟨names, valid⟩ := Workflow.validate_accepts_iff.mpr accepted
    rw [invalid] at valid
    cases valid
  obtain ⟨-, -, -, -, refusal⟩ := judge_exact misnumbered small.2.2 0 .empty
  obtain ⟨-, -, refused, -⟩ := refusal checking _ rfl (readable misnumbered)
  obtain ⟨fault, same, summary⟩ := refused unaccepted
  obtain rfl := Except.error.inj (invalid.symm.trans same)
  exact ⟨small.1, small.2.1, small.2.2, ⟨_, judged, rfl, rfl⟩, (found.mp ⟨_, judged⟩).2.2, unended,
    back, text, report, fun zero => back (succeeds.mp zero).2.2, summary⟩

end Stepwise.CommandLine
