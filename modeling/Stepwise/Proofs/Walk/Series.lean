/-
Module: Stepwise.Proofs.Walk.Series
Purpose: Several runs of one evaluator, and what its policies have recorded
  behind the last of them.
Main exports: Evaluator.runAll, Evaluator.Makes, Evaluator.makes_run, Tour,
  Evaluator.Tours, Evaluator.tours_runAll, Evaluator.Tours.runAll_eq,
  Evaluator.Tours.of_observed, Evaluator.recording, Evaluator.calls_runAll
-/
import Stepwise.Proofs.Walk.Guarded

namespace Stepwise

/-!
Runs of one evaluator share the state of its policies, and with recorded
policies that state is the log.  A script is read on where the run before has
left it, so the answers of a run depend on all runs in front of it, and the
visits of a run depend on its answers.  But what a run adds to the log depends
on its visits alone: their steps are executed, and the decisions among them are
asked about.  So every run is given its visits first, from the state it starts
in, and the log is read off the visits afterwards.
-/

/-- The step whose execution failed, if a run ended so. -/
def failedStep : Except WorkflowFault Report → List String
  | .error (.stepFailed step _) => [step]
  | _ => []

/-- A run of a series: the workflow and the context it was given, the visits it
made whose steps were executed with success, and its outcome. -/
structure Tour where
  workflow : Workflow
  context : Context
  visits : List (Visit workflow.length)
  outcome : Except WorkflowFault Report

namespace Tour

/-- What the run was asked for. -/
def request (tour : Tour) : Workflow × Context :=
  (tour.workflow, tour.context)

/-- The names of the steps executed, the one that failed included. -/
def executed (tour : Tour) : List String :=
  tour.workflow.namesOf tour.visits ++ failedStep tour.outcome

/-- The names of the decisions among the steps executed with success. -/
def asked (tour : Tour) : List String :=
  tour.workflow.namesOf (tour.workflow.decisionsOf tour.visits)

end Tour

namespace Transcript

/-- The names of the steps that were executed. -/
def executedNames (calls : Transcript) : List String :=
  calls.executed.map fun call => call.1.name

/-- The names of the steps that were asked about. -/
def askedNames (calls : Transcript) : List String :=
  calls.asked.map fun call => call.1.name

/-- What a run adds to a transcript: an execution for each visit and for the
step that failed, and a question for each visit of a decision. -/
structure Adds (w : Workflow) (visits : List (Visit w.length)) (failed : List String)
    (before after : Transcript) : Prop where
  executed : after.executedNames = before.executedNames ++ (w.namesOf visits ++ failed)
  asked : after.askedNames = before.askedNames ++ w.namesOf (w.decisionsOf visits)

/-- One more visit, which executes its step and asks about a decision. -/
theorem Adds.visit {w : Workflow} {visits : List (Visit w.length)}
    {before between after : Transcript} (behind : Adds w visits [] before between)
    {last : Visit w.length} {answer : Bool}
    (executed : after.executed = between.executed ++ [(w.get last.index, .ok last.earned)])
    (asked : after.asked = between.asked ++
      if (w.get last.index).kind = .decision then [(w.get last.index, answer)] else []) :
    Adds w (visits ++ [last]) [] before after := by
  refine ⟨?_, ?_⟩
  · have names : after.executedNames = between.executedNames ++ [(w.get last.index).name] := by
      simp [executedNames, executed]
    rw [names, behind.executed]
    simp [Workflow.namesOf]
  · have names : after.askedNames =
        between.askedNames ++ w.namesOf (w.decisionsOf [last]) := by
      by_cases kind : (w.get last.index).kind = .decision
      · simp [askedNames, asked, Workflow.namesOf, Workflow.decisionsOf, kind]
      · simp [askedNames, asked, Workflow.namesOf, Workflow.decisionsOf, kind]
    rw [names, behind.asked, Workflow.decisionsOf_append]
    simp [Workflow.namesOf]

/-- The step at which a run fails is executed and not asked about. -/
theorem Adds.failure {w : Workflow} {visits : List (Visit w.length)}
    {before between after : Transcript} (behind : Adds w visits [] before between) {step : Step}
    {fault : StepFault} (executed : after.executed = between.executed ++ [(step, .error fault)])
    (asked : after.asked = between.asked) : Adds w visits [step.name] before after := by
  refine ⟨?_, ?_⟩
  · have names : after.executedNames = between.executedNames ++ [step.name] := by
      simp [executedNames, executed]
    rw [names, behind.executed]
    simp
  · rw [← behind.asked, askedNames, asked]
    rfl

end Transcript

namespace Evaluator

variable {σ : Type} {evaluator : Evaluator σ} {w : Workflow} {context : Context}

/-! ### The visits of a run -/

/-- The visits that a run makes from a state, its outcome and the state it
leaves.  All visits execute their steps with success; a step that fails ends
the run and is no visit, and a reference that leads nowhere ends it behind the
visit that holds it. -/
inductive Makes (evaluator : Evaluator σ) (w : Workflow) (context : Context) (state : σ) :
    List (Visit w.length) → Except WorkflowFault Report → σ → Prop where
  | completed {visits : List (Visit w.length)} {report : Report} {final : σ}
      (complete : evaluator.Completes w context state visits report final) :
      Makes evaluator w context state visits (.ok report) final
  | failed {nonempty : 0 < w.length} {visits : List (Visit w.length)} {last : Fin w.length}
      {before final : σ} {fault : StepFault}
      (path : evaluator.Path w context ⟨0, nonempty⟩ state visits last before)
      (execution : evaluator.executor.execute (w.get last) context before =
        (.error fault, final)) :
      Makes evaluator w context state visits (.error (.stepFailed (w.get last).name fault)) final
  | misled {nonempty : 0 < w.length} {visits : List (Visit w.length)} {last : Fin w.length}
      {before executed final : σ} {earned : Float} {reference : String} {why : ReferenceFault}
      (path : evaluator.Path w context ⟨0, nonempty⟩ state visits last before)
      (execution : evaluator.executor.execute (w.get last) context before =
        (.ok earned, executed))
      (clearance : evaluator.Clears context (w.get last) executed final)
      (connection : (w.get last).next? = some reference)
      (resolution : w.locate reference = .error why) :
      Makes evaluator w context state (visits ++ [⟨last, earned⟩])
        (.error (.malformedReference (w.get last).name reference why)) final
  | exhausted {nonempty : 0 < w.length} {visits : List (Visit w.length)} {last : Fin w.length}
      {final : σ} {limit : Nat}
      (path : evaluator.Path w context ⟨0, nonempty⟩ state visits last final)
      (full : visits.length = limit) :
      Makes evaluator w context state visits
        (.error (.unboundedTraversal limit (w.get last).name)) final

/-- Every run makes visits that account for its outcome. -/
theorem makes_run (evaluator : Evaluator σ) (w : Workflow) (context : Context) (state : σ) :
    ∃ visits, evaluator.Makes w context state visits (evaluator.run w context state).1
      (evaluator.run w context state).2 := by
  by_cases nonempty : 0 < w.length
  · have ending := evaluator.ends_run context state nonempty
    generalize (evaluator.run w context state).1 = outcome at ending ⊢
    generalize (evaluator.run w context state).2 = final at ending ⊢
    cases ending with
    | halted path room halt => exact ⟨_, .completed (.halted path halt)⟩
    | broken path room breakage =>
        cases breakage with
        | stepFailed execution => exact ⟨_, .failed path execution⟩
        | malformedReference execution clearance connection resolution =>
            exact ⟨_, .misled path execution clearance connection resolution⟩
    | exhausted path full => exact ⟨_, .exhausted path full⟩
  · rw [run_of_empty nonempty]
    exact ⟨[], .completed (.unvisited nonempty)⟩

/-- The transcript of a path. -/
theorem Path.adds {start last : Fin w.length} {before after : σ × Transcript}
    {visits : List (Visit w.length)}
    (path : evaluator.observed.Path w context start before visits last after) :
    Transcript.Adds w visits [] before.2 after.2 := by
  rcases Path.of_observed path with ⟨-, executed, asked⟩
  refine ⟨?_, ?_⟩
  · simp [Transcript.executedNames, executed, Workflow.namesOf]
  · simp [Transcript.askedNames, asked, Workflow.namesOf, Workflow.decisionsOf]

/-- An observed run is the run itself, and its visits are in the transcript. -/
theorem Makes.of_observed {visits : List (Visit w.length)} {before after : σ × Transcript}
    {outcome : Except WorkflowFault Report}
    (makes : evaluator.observed.Makes w context before visits outcome after) :
    evaluator.Makes w context before.1 visits outcome after.1 ∧
      Transcript.Adds w visits (failedStep outcome) before.2 after.2 := by
  cases makes with
  | completed complete =>
      cases complete with
      | unvisited empty =>
          refine ⟨.completed (.unvisited empty), ?_, ?_⟩
          · simp [Workflow.namesOf, failedStep]
          · simp [Workflow.namesOf, Workflow.decisionsOf]
      | halted path halt =>
          rcases Halts.of_observed halt with ⟨halts, executed, answer, asked⟩
          exact ⟨.completed (.halted (Path.of_observed path).1 halts),
            path.adds.visit executed asked⟩
  | failed path execution =>
      rcases execute_of_observed execution with ⟨fails, executed, unasked⟩
      exact ⟨.failed (Path.of_observed path).1 fails, path.adds.failure executed unasked⟩
  | misled path execution clearance connection resolution =>
      rcases execute_of_observed execution with ⟨executes, executed, unasked⟩
      rcases Clears.of_observed clearance with ⟨clears, unexecuted, asked⟩
      rw [executed] at unexecuted
      rw [unasked] at asked
      exact ⟨.misled (Path.of_observed path).1 executes clears connection resolution,
        path.adds.visit unexecuted asked⟩
  | exhausted path full => exact ⟨.exhausted (Path.of_observed path).1 full, path.adds⟩

/-! ### Series of runs -/

/-- Runs the evaluator on one workflow after the other.  The state that a run
leaves, with whatever outcome, is the state that the next one starts in. -/
def runAll (evaluator : Evaluator σ) :
    List (Workflow × Context) → σ → List (Except WorkflowFault Report) × σ
  | [], state => ([], state)
  | (w, context) :: requests, state =>
      let (outcome, state) := evaluator.run w context state
      let (outcomes, state) := evaluator.runAll requests state
      (outcome :: outcomes, state)

/-- Runs one after the other, each with the visits it makes. -/
inductive Tours (evaluator : Evaluator σ) : σ → List Tour → σ → Prop where
  | done {state : σ} : Tours evaluator state [] state
  | next {tour : Tour} {tours : List Tour} {state between final : σ}
      (ran : evaluator.run tour.workflow tour.context state = (tour.outcome, between))
      (makes : evaluator.Makes tour.workflow tour.context state tour.visits tour.outcome between)
      (rest : Tours evaluator between tours final) :
      Tours evaluator state (tour :: tours) final

/-- A series of runs makes visits in each of them. -/
theorem tours_runAll (evaluator : Evaluator σ) (requests : List (Workflow × Context))
    (state : σ) :
    ∃ tours, tours.map Tour.request = requests ∧
      evaluator.Tours state tours (evaluator.runAll requests state).2 := by
  induction requests generalizing state with
  | nil => exact ⟨[], rfl, .done⟩
  | cons request requests ih =>
      rcases request with ⟨w, context⟩
      rcases evaluator.makes_run w context state with ⟨visits, makes⟩
      rcases ih (evaluator.run w context state).2 with ⟨tours, requested, rest⟩
      refine ⟨⟨w, context, visits, (evaluator.run w context state).1⟩ :: tours, ?_,
        .next rfl makes rest⟩
      rw [List.map_cons, requested]
      rfl

/-- The tours of a series have its outcomes and leave the state it leaves. -/
theorem Tours.runAll_eq {tours : List Tour} {state final : σ}
    (series : evaluator.Tours state tours final) :
    evaluator.runAll (tours.map Tour.request) state = (tours.map Tour.outcome, final) := by
  induction series with
  | done => rfl
  | next ran _makes _rest ih =>
      simp only [List.map_cons, Tour.request, runAll]
      rw [ran, ih]

/-- A series can be cut between any two of its tours. -/
theorem Tours.cut {done more : List Tour} {state final : σ}
    (series : evaluator.Tours state (done ++ more) final) :
    ∃ between, evaluator.Tours state done between ∧ evaluator.Tours between more final := by
  induction done generalizing state with
  | nil => exact ⟨state, .done, series⟩
  | cons tour done ih =>
      cases series with
      | next ran makes rest =>
          rcases ih rest with ⟨between, front, back⟩
          exact ⟨between, .next ran makes front, back⟩

/-- An observed series is the series itself, and its transcript is put together
run by run. -/
theorem Tours.of_observed {tours : List Tour} {before after : σ × Transcript}
    (series : evaluator.observed.Tours before tours after) :
    evaluator.Tours before.1 tours after.1 ∧
      after.2.executedNames = before.2.executedNames ++ tours.flatMap Tour.executed ∧
      after.2.askedNames = before.2.askedNames ++ tours.flatMap Tour.asked := by
  induction series with
  | done => exact ⟨.done, by simp, by simp⟩
  | @next tour tours before between after ran makes _rest ih =>
      rcases Makes.of_observed makes with ⟨made, added⟩
      rcases ih with ⟨series, executed, asked⟩
      have unobserved : evaluator.run tour.workflow tour.context before.1 =
          (tour.outcome, between.1) := by
        rw [evaluator.run_observed tour.workflow tour.context before.1 before.2, ran]
      refine ⟨.next unobserved made series, ?_, ?_⟩
      · rw [executed, added.executed, List.flatMap_cons, List.append_assoc]
        rfl
      · rw [asked, added.asked, List.flatMap_cons, List.append_assoc]
        rfl

/-- What both policies preserve in every context holds of the state that a
series leaves. -/
theorem Keeps.tours {invariant : σ → Prop}
    (keeps : ∀ context, evaluator.Keeps context invariant) {tours : List Tour} {state final : σ}
    (series : evaluator.Tours state tours final) (before : invariant state) :
    invariant final := by
  induction series with
  | done => exact before
  | @next tour tours state between final ran _makes _rest ih =>
      have kept := (keeps tour.context).run tour.workflow before
      rw [ran] at kept
      exact ih kept

/-! ### Recorded policies -/

/-- An executor that answers by a function and a condition that answers from a
script, both recorded. -/
def recording (answer : Step → Context → Except StepFault Float) (answers : List Bool)
    (ceilingFactor : Nat) : Evaluator CallLog :=
  { executor := .recorded answer
    condition := .scripted answers
    ceilingFactor := ceilingFactor }

variable {answer : Step → Context → Except StepFault Float} {answers : List Bool}
  {ceilingFactor : Nat}

theorem recording_followsScript :
    (recording answer answers ceilingFactor).FollowsScript answers fun log => log.asked.size :=
  { execute := fun _ _ _ => rfl
    answer := fun _ _ _ => rfl
    advance := fun _ _ _ => Array.size_push _ }

/-- The log of recorded policies holds the names in their transcript. -/
theorem recording_keeps_names (context : Context) :
    (recording answer answers ceilingFactor).observed.Keeps context fun state =>
      state.1.executed.toList = state.2.executedNames ∧
        state.1.asked.toList = state.2.askedNames := by
  refine ⟨?_, ?_⟩
  · intro step state named
    refine ⟨?_, named.2⟩
    simp [recording, observed, Executor.recorded, Transcript.executedNames, named.1]
  · intro step state named
    refine ⟨named.1, ?_⟩
    simp [recording, observed, Condition.scripted, Transcript.askedNames, named.2]

/-- Past the end of a script its last answer repeats. -/
theorem scriptAnswer_eq (answers : List Bool) (position : Nat) :
    scriptAnswer answers position =
      (answers[min position (answers.length - 1)]?).getD false := by
  unfold scriptAnswer
  rw [List.getLast?_eq_getElem?]
  rcases Nat.lt_or_ge position answers.length with inside | past
  · have place : min position (answers.length - 1) = position :=
      Nat.min_eq_left (Nat.le_pred_of_lt inside)
    rw [place, List.getElem?_eq_getElem inside]
    rfl
  · have place : min position (answers.length - 1) = answers.length - 1 :=
      Nat.min_eq_right ((Nat.sub_le _ _).trans past)
    rw [place, List.getElem?_eq_none past]
    rfl

/-- The log of a series is put together run by run, as its transcript is. -/
theorem log_of_tours {tours : List Tour} {after : CallLog × Transcript}
    (series : (recording answer answers ceilingFactor).observed.Tours (.empty, .empty) tours
      after) :
    after.1.executed.toList = tours.flatMap Tour.executed ∧
      after.1.asked.toList = tours.flatMap Tour.asked := by
  have names := Keeps.tours recording_keeps_names series ⟨rfl, rfl⟩
  rcases Tours.of_observed series with ⟨-, executed, asked⟩
  exact ⟨names.1.trans executed, names.2.trans asked⟩

/-- The log of a series of runs.  With the visits that the runs make, each run
from the state the one before has left, the executions are the visits run by
run, behind those of a failed run the step that failed; the questions are the
decisions among the visits; and the answers are the script in its order, the
last one repeated, or false if there is none.  Behind any number of the runs,
however they have ended, the log holds what these runs have added and nothing
else. -/
theorem calls_runAll (answer : Step → Context → Except StepFault Float) (answers : List Bool)
    (ceilingFactor : Nat) (requests : List (Workflow × Context)) :
    ∃ (tours : List Tour) (log : CallLog) (calls : Transcript),
      tours.map Tour.request = requests ∧
        (recording answer answers ceilingFactor).Tours .empty tours log ∧
        (recording answer answers ceilingFactor).runAll requests .empty =
          (tours.map Tour.outcome, log) ∧
        log.executed.toList = tours.flatMap Tour.executed ∧
        log.asked.toList = tours.flatMap Tour.asked ∧
        (recording answer answers ceilingFactor).observed.runAll requests (.empty, .empty) =
          (tours.map Tour.outcome, log, calls) ∧
        calls.asked.map (fun call => call.1.name) = log.asked.toList ∧
        (calls.asked.map Prod.snd = (List.range log.asked.size).map fun index =>
          (answers[min index (answers.length - 1)]?).getD false) ∧
        ∀ done more, tours = done ++ more →
          ∃ earlier,
            (recording answer answers ceilingFactor).runAll (done.map Tour.request) .empty =
                (done.map Tour.outcome, earlier) ∧
              earlier.executed.toList = done.flatMap Tour.executed ∧
              earlier.asked.toList = done.flatMap Tour.asked := by
  rcases (recording answer answers ceilingFactor).observed.tours_runAll requests
    (.empty, .empty) with ⟨tours, rfl, series⟩
  have observed := series.runAll_eq
  generalize ((recording answer answers ceilingFactor).observed.runAll (tours.map Tour.request)
    (.empty, .empty)).2 = after at series observed
  rcases after with ⟨log, calls⟩
  have unobserved := (Tours.of_observed series).1
  have logged := log_of_tours series
  have names := Keeps.tours recording_keeps_names series ⟨rfl, rfl⟩
  have script := Keeps.tours
    (fun context => recording_followsScript.keeps context 0) series ⟨rfl, rfl⟩
  refine ⟨tours, log, calls, rfl, unobserved, unobserved.runAll_eq, logged.1, logged.2, observed,
    names.2.symm, ?_, ?_⟩
  · have asked : log.asked.size = calls.asked.length := by
      rw [← Array.length_toList, names.2, Transcript.askedNames, List.length_map]
    rw [script.2, asked]
    apply List.map_congr_left
    intro index _
    rw [Nat.zero_add, scriptAnswer_eq]
  · rintro done more rfl
    rcases series.cut with ⟨⟨earlier, _⟩, front, -⟩
    exact ⟨earlier, (Tours.of_observed front).1.runAll_eq, log_of_tours front⟩

/-- The first run uses up the script but for its last answer, and the second run
repeats that answer until the ceiling ends it. -/
example :
    ((recording (fun _ _ => .ok 1.0) [true, false, true] 2).runAll
        [(retryLoop, .empty), (retryLoop, .empty)] .empty).2 =
      { executed :=
          #["step_1", "step_2", "step_1", "step_2", "step_1", "step_2", "step_1", "step_2"]
        asked := #["step_2", "step_2", "step_2", "step_2"] } := by
  rfl

end Evaluator

end Stepwise
