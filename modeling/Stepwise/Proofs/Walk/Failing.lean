/-
Module: Stepwise.Proofs.Walk.Failing
Purpose: What an executor can change in a walk: its rewards, and the visit at
  which it fails.
Main exports: Executor.carryOut, AllSucceed, Transcript.AsksDecisions,
  Evaluator.asked_eq_decisions, Evaluator.beside, Evaluator.run_beside_cases,
  Evaluator.run_differs_only_by_failure
-/
import Stepwise.Policy.Rule
import Stepwise.Proofs.Walk.Shadow

namespace Stepwise

/-!
A condition with a state of its own cannot tell two executors apart.  So beside
one condition all executors are handed the same steps in the same order, and
what one of them does with these steps is known without a workflow: it carries
them out one after the other until it fails.  Where it fails, the walk is over.
-/

namespace Executor

variable {σ : Type}

/-- Executes steps one after the other and stops behind the first that fails:
the calls with their answers, and the state that is left. -/
def carryOut (executor : Executor σ) (context : Context) :
    List Step → σ → List (Step × Except StepFault Float) × σ
  | [], state => ([], state)
  | step :: steps, state =>
      match executor.execute step context state with
      | (.error fault, state) => ([(step, .error fault)], state)
      | (.ok earned, state) =>
          let (calls, state) := executor.carryOut context steps state
          ((step, .ok earned) :: calls, state)

end Executor

/-- Every call has succeeded. -/
def AllSucceed (calls : List (Step × Except StepFault Float)) : Prop :=
  ∀ call ∈ calls, ∃ earned, call.2 = .ok earned

theorem not_allSucceed_concat_error (done : List (Step × Except StepFault Float)) (step : Step)
    (fault : StepFault) : ¬ AllSucceed (done ++ [(step, .error fault)]) := by
  intro succeeded
  obtain ⟨earned, impossible⟩ :=
    succeeded _ (List.mem_append_right done (List.mem_singleton_self _))
  cases impossible

/-- The steps that were executed with success. -/
def Transcript.succeeded (calls : Transcript) : List Step :=
  calls.executed.filterMap fun call => call.2.toOption.map fun _ => call.1

namespace Executor

variable {σ : Type} {executor : Executor σ} {context : Context}

theorem carryOut_cons_of_ok {step : Step} {state after : σ} {earned : Float}
    (execution : executor.execute step context state = (.ok earned, after)) (steps : List Step) :
    executor.carryOut context (step :: steps) state =
      ((step, .ok earned) :: (executor.carryOut context steps after).1,
        (executor.carryOut context steps after).2) := by
  rw [carryOut, execution]

theorem carryOut_cons_of_error {step : Step} {state after : σ} {fault : StepFault}
    (execution : executor.execute step context state = (.error fault, after))
    (steps : List Step) :
    executor.carryOut context (step :: steps) state = ([(step, .error fault)], after) := by
  rw [carryOut, execution]

/-- Steps that are all carried out are carried out in front of others. -/
theorem carryOut_append {steps : List Step} {state after : σ}
    {calls : List (Step × Except StepFault Float)}
    (carried : executor.carryOut context steps state = (calls, after))
    (succeeded : AllSucceed calls) (more : List Step) :
    executor.carryOut context (steps ++ more) state =
      (calls ++ (executor.carryOut context more after).1,
        (executor.carryOut context more after).2) := by
  induction steps generalizing state calls with
  | nil =>
      obtain ⟨rfl, rfl⟩ := Prod.mk.inj carried
      rfl
  | cons step steps ih =>
      rcases execution : executor.execute step context state with ⟨fault | earned, between⟩
      · rw [carryOut_cons_of_error execution] at carried
        obtain ⟨rfl, -⟩ := Prod.mk.inj carried
        obtain ⟨earned, impossible⟩ := succeeded _ (List.mem_singleton_self _)
        cases impossible
      · rw [carryOut_cons_of_ok execution] at carried
        obtain ⟨rfl, rest⟩ := Prod.mk.inj carried
        have later := (List.forall_mem_cons.mp succeeded).2
        rw [List.cons_append, carryOut_cons_of_ok execution, ih (Prod.ext rfl rest) later]
        rfl

/-- A recorded executor logs the steps that it is handed, up to the one it fails
on. -/
theorem log_carryOut_recorded (answer : Step → Context → Except StepFault Float)
    (context : Context) (steps : List Step) (log : CallLog) :
    let attempts := (recorded answer).carryOut context steps log
    attempts.2.executed.toList =
      log.executed.toList ++ attempts.1.map fun call => call.1.name := by
  induction steps generalizing log with
  | nil => exact (List.append_nil _).symm
  | cons step steps ih =>
      let after : CallLog := { log with executed := log.executed.push step.name }
      have execution : (recorded answer).execute step context log = (answer step context, after) :=
        rfl
      cases answered : answer step context with
      | error fault =>
          rw [answered] at execution
          simp only [carryOut_cons_of_error execution, after, Array.toList_push, List.map_cons,
            List.map_nil]
      | ok earned =>
          rw [answered] at execution
          simp only [carryOut_cons_of_ok execution, ih after, after, Array.toList_push,
            List.map_cons, List.append_assoc, List.singleton_append]

/-- An executor that fails on one name carries out steps of other names, up to
the first step of that name. -/
theorem carryOut_failingOn (name : String) (context : Context) (steps : List Step)
    (log : CallLog) :
    let attempts := (ExecutorRule.failingOn name).executor.carryOut context steps log
    ((∀ step ∈ steps, step.name ≠ name) ∧ AllSucceed attempts.1) ∨
      ∃ done, ∃ step ∈ steps, step.name = name ∧ (∀ call ∈ done, call.1.name ≠ name) ∧
        attempts.1 = done ++ [(step, .error ⟨"scripted failure on " ++ name⟩)] := by
  induction steps generalizing log with
  | nil => exact Or.inl ⟨List.forall_mem_nil _, List.forall_mem_nil _⟩
  | cons step steps ih =>
      let after : CallLog := { log with executed := log.executed.push step.name }
      have execution : (ExecutorRule.failingOn name).executor.execute step context log =
          ((ExecutorRule.failingOn name).answer step, after) := rfl
      by_cases named : name = step.name
      · rw [ExecutorRule.answer, if_pos named] at execution
        right
        refine ⟨[], step, List.mem_cons_self, named.symm, ?_, ?_⟩
        · intro call impossible
          cases impossible
        · rw [carryOut_cons_of_error execution]
          rfl
      · rw [ExecutorRule.answer, if_neg named] at execution
        rw [carryOut_cons_of_ok execution]
        rcases ih after with ⟨others, succeeded⟩ | ⟨done, last, among, reached, others, attempted⟩
        · left
          refine ⟨List.forall_mem_cons.mpr ⟨Ne.symm named, others⟩, ?_⟩
          exact List.forall_mem_cons.mpr ⟨⟨1.0, rfl⟩, succeeded⟩
        · right
          refine ⟨(step, .ok 1.0) :: done, last, List.mem_cons_of_mem step among, reached, ?_, ?_⟩
          · exact List.forall_mem_cons.mpr ⟨Ne.symm named, others⟩
          · rw [attempted]
            rfl

end Executor

/-- The questions are about the decisions among the steps executed with success,
each of them once and in order. -/
def Transcript.AsksDecisions (calls : Transcript) : Prop :=
  calls.asked.map Prod.fst = calls.succeeded.filter fun step => step.kind = .decision

namespace Transcript

variable {before after : Transcript} {step : Step}

theorem AsksDecisions.visit (behind : before.AsksDecisions) {earned : Float} {answer : Bool}
    (executed : after.executed = before.executed ++ [(step, .ok earned)])
    (asked : after.asked = before.asked ++ if step.kind = .decision then [(step, answer)] else []) :
    after.AsksDecisions := by
  have done : after.succeeded = before.succeeded ++ [step] := by
    rw [succeeded, executed, List.filterMap_append]
    rfl
  unfold AsksDecisions at behind ⊢
  rw [asked, done, List.map_append, List.filter_append, behind]
  by_cases kind : step.kind = .decision
  · simp [kind]
  · simp [kind]

theorem AsksDecisions.failure (behind : before.AsksDecisions) {fault : StepFault}
    (executed : after.executed = before.executed ++ [(step, .error fault)])
    (asked : after.asked = before.asked) : after.AsksDecisions := by
  have done : after.succeeded = before.succeeded := by
    rw [succeeded, executed, List.filterMap_append]
    exact List.append_nil _
  unfold AsksDecisions at behind ⊢
  rw [asked, done, behind]

end Transcript

namespace Evaluator

variable {σ τ ρ : Type} {evaluator : Evaluator σ} {w : Workflow} {context : Context}

theorem Path.asksDecisions {start last : Fin w.length} {state final : σ × Transcript}
    {visits : List (Visit w.length)}
    (path : evaluator.observed.Path w context start state visits last final)
    (behind : state.2.AsksDecisions) : final.2.AsksDecisions := by
  induction path with
  | here => exact behind
  | onward advance _rest ih =>
      obtain ⟨-, executed, asked⟩ := Advances.of_observed advance
      exact ih (behind.visit executed asked)

/-- Every run asks about the decisions among the steps that it executes with
success, and about nothing else. -/
theorem asked_eq_decisions (evaluator : Evaluator σ) (w : Workflow) (context : Context)
    (state : σ) : (evaluator.observed.run w context (state, .empty)).2.2.AsksDecisions := by
  have fresh : Transcript.empty.AsksDecisions := rfl
  by_cases nonempty : 0 < w.length
  · have ending := evaluator.observed.ends_run context (state, .empty) nonempty
    generalize (evaluator.observed.run w context (state, .empty)).1 = outcome at ending
    generalize (evaluator.observed.run w context (state, .empty)).2 = final at ending ⊢
    cases ending with
    | halted path room halt =>
        obtain ⟨-, executed, answer, asked⟩ := Halts.of_observed halt
        exact (path.asksDecisions fresh).visit executed asked
    | broken path room breakage =>
        rcases (Breaks.of_observed breakage).2 with
          ⟨cause, executed, unasked⟩ | ⟨earned, executed, asked⟩
        · exact (path.asksDecisions fresh).failure executed unasked
        · exact (path.asksDecisions fresh).visit executed asked
    | exhausted path full => exact path.asksDecisions fresh
  · rw [run_of_empty nonempty]
    exact fresh

/-! ### An executor and a condition apart -/

/-- An executor and a condition that keep separate states. -/
def beside (executor : Executor σ) (condition : Condition τ) (ceilingFactor : Nat) :
    Evaluator (σ × τ) :=
  { executor := executor.onFirst
    condition := condition.onSecond
    ceilingFactor := ceilingFactor }

variable {executor : Executor σ} {other : Executor ρ} {condition : Condition τ}
  {ceilingFactor : Nat}

theorem execute_of_beside {step : Step} {before after : σ × τ} {answer : Except StepFault Float}
    (execution : (beside executor condition ceilingFactor).executor.execute step context before =
      (answer, after)) :
    executor.execute step context before.1 = (answer, after.1) ∧ after.2 = before.2 := by
  obtain ⟨left, right⟩ := after
  simp only [beside, Executor.onFirst, Prod.mk.injEq] at execution
  obtain ⟨rfl, rfl, rfl⟩ := execution
  exact ⟨rfl, rfl⟩

/-- The condition is in the same state in both walks and has been asked the same
questions, and the executor has carried out all steps that were executed. -/
structure Accompanied (executor : Executor ρ) (context : Context) (start : ρ)
    (state : (σ × τ) × Transcript) (state' : (ρ × τ) × Transcript) : Prop where
  condition : state'.1.2 = state.1.2
  asked : state'.2.asked = state.2.asked
  carried : executor.carryOut context (state.2.executed.map Prod.fst) start =
    (state'.2.executed, state'.1.1)
  succeeded : AllSucceed state'.2.executed

/-- The condition of both evaluators is the same and sees its own state only. -/
theorem shadows_beside (succeeds : executor.Succeeds) (other : Executor ρ)
    (condition : Condition τ) (ceilingFactor : Nat) (context : Context) (start : ρ) :
    (beside executor condition ceilingFactor).observed.Shadows
      (beside other condition ceilingFactor).observed context
      (Accompanied other context start) := by
  refine ⟨?_, ?_, ?_⟩
  · intro step context state
    obtain ⟨earned, after, execution⟩ := succeeds step context state.1.1
    have answered : (executor.execute step context state.1.1).1 = .ok earned :=
      congrArg Prod.fst execution
    exact ⟨earned, _, Prod.ext answered rfl⟩
  · intro step state after state' after' earned earned' agree execution execution'
    obtain ⟨unobserved, executed, asked⟩ := execute_of_observed execution
    obtain ⟨unobserved', executed', asked'⟩ := execute_of_observed execution'
    obtain ⟨-, kept⟩ := execute_of_beside unobserved
    obtain ⟨further, kept'⟩ := execute_of_beside unobserved'
    refine ⟨?_, ?_, ?_, ?_⟩
    · rw [kept, kept', agree.condition]
    · rw [asked, asked', agree.asked]
    · rw [executed, executed', List.map_append,
        Executor.carryOut_append agree.carried agree.succeeded, List.map_singleton,
        Executor.carryOut_cons_of_ok further]
      rfl
    · rw [executed', AllSucceed, List.forall_mem_append, List.forall_mem_singleton]
      exact ⟨agree.succeeded, earned', rfl⟩
  · intro step state after state' answer agree question
    obtain ⟨unobserved, executed, asked⟩ := holds_of_observed question
    simp only [beside, Condition.onSecond, Prod.mk.injEq] at unobserved
    obtain ⟨answered, moved⟩ := unobserved
    refine ⟨((state'.1.1, after.1.2),
      { state'.2 with asked := state'.2.asked ++ [(step, answer)] }), ?_, ?_⟩
    · simp only [observed, beside, Condition.onSecond, agree.condition, answered, ← moved]
    · refine ⟨rfl, ?_, ?_, agree.succeeded⟩
      · rw [asked, agree.asked]
      · rw [executed]
        exact agree.carried

/-- Two observed runs with the same condition: the other executor carries out
all steps that the first run executes, or the first of them up to one at which
it fails and its run ends. -/
theorem run_beside_cases (succeeds : executor.Succeeds) (other : Executor ρ)
    (condition : Condition τ) (ceilingFactor : Nat) (w : Workflow) (context : Context)
    (state : σ) (state' : ρ) (asking : τ) :
    let first := (beside executor condition ceilingFactor).observed.run w context
      ((state, asking), .empty)
    let second := (beside other condition ceilingFactor).observed.run w context
      ((state', asking), .empty)
    (routeOf second.1 = routeOf first.1 ∧ Accompanied other context state' first.2 second.2) ∨
      ∃ done step fault, AllSucceed done ∧
        other.carryOut context (first.2.2.executed.map Prod.fst) state' =
          (done ++ [(step, .error fault)], second.2.1.1) ∧
        second.2.2.executed = done ++ [(step, .error fault)] ∧
        second.2.2.asked <+: first.2.2.asked ∧
        second.1 = .error (.stepFailed step.name fault) := by
  intro first second
  have fresh : Accompanied other context state' ((state, asking), Transcript.empty)
      ((state', asking), Transcript.empty) :=
    ⟨rfl, rfl, rfl, List.forall_mem_nil _⟩
  by_cases nonempty : 0 < w.length
  · have ending := (beside executor condition ceilingFactor).observed.ends_run context
      ((state, asking), .empty) nonempty
    have shadows := shadows_beside succeeds other condition ceilingFactor context state'
    rcases ending.shadow shadows fresh with ⟨outcome', final', ending', route, agree⟩ | parts
    · have answered : second = (outcome', final') := (run_eq_iff_ends nonempty).mpr ending'
      rw [answered]
      exact Or.inl ⟨route, agree⟩
    · obtain ⟨path, path', along, room, agree, fault, final', execution⟩ := parts
      -- The first run goes on from here, and its log begins with the step that fails in the other.
      obtain ⟨⟨more, executed⟩, asked⟩ := path.begins_run room
      obtain ⟨unobserved, executed', unasked⟩ := execute_of_observed execution
      obtain ⟨fails, -⟩ := execute_of_beside unobserved
      have room' := length_eq_of_map_index along ▸ room
      have answered : second = _ :=
        (run_eq_iff_ends nonempty).mpr (.broken path' room' (.stepFailed execution))
      rw [answered]
      refine Or.inr ⟨_, _, fault, agree.succeeded, ?_, executed', ?_, rfl⟩
      · rw [← executed, List.map_append, List.map_append, List.append_assoc,
          Executor.carryOut_append agree.carried agree.succeeded, List.map_singleton,
          List.singleton_append, Executor.carryOut_cons_of_error fails]
      · rw [unasked, agree.asked]
        exact asked
  · have idle : first = (.ok .empty, (state, asking), .empty) := run_of_empty nonempty _
    have idle' : second = (.ok .empty, (state', asking), .empty) := run_of_empty nonempty _
    rw [idle, idle']
    exact Or.inl ⟨rfl, fresh⟩

/-- Beside the condition of a run that never fails, an executor that fails on one
name either meets no step of that name and does not fail, or it fails at the
first such step, and its log ends there. -/
theorem run_failingOn_cases (succeeds : executor.Succeeds) (condition : Condition τ)
    (ceilingFactor : Nat) (w : Workflow) (context : Context) (state : σ) (asking : τ)
    (name : String) (log : CallLog) :
    let first := (beside executor condition ceilingFactor).observed.run w context
      ((state, asking), .empty)
    let steps := first.2.2.executed.map Prod.fst
    let second := (beside (ExecutorRule.failingOn name).executor condition
      ceilingFactor).observed.run w context ((log, asking), .empty)
    ((∀ step ∈ steps, step.name ≠ name) ∧
        ∀ step fault, second.1 ≠ .error (.stepFailed step fault)) ∨
      (∃ step ∈ steps, step.name = name) ∧
        second.1 = .error (.stepFailed name ⟨"scripted failure on " ++ name⟩) ∧
        ∃ names, name ∉ names ∧
          second.2.1.1.executed.toList = log.executed.toList ++ (names ++ [name]) := by
  intro first steps second
  let attempts := (ExecutorRule.failingOn name).executor.carryOut context steps log
  have logged : attempts.2.executed.toList =
      log.executed.toList ++ attempts.1.map fun call => call.1.name :=
    Executor.log_carryOut_recorded _ context steps log
  -- Whether the run fails and whether a step has the name are decided apart; two of the four
  -- cases contradict each other, since both speak of the same attempts.
  rcases run_beside_cases succeeds (ExecutorRule.failingOn name).executor condition ceilingFactor
      w context state log asking with
    ⟨route, agree⟩ | ⟨done, step, fault, succeeded, attempted, -, -, failed⟩
  · rcases Executor.carryOut_failingOn name context steps log with
      ⟨others, -⟩ | ⟨done, last, -, -, -, attempted⟩
    · refine Or.inl ⟨others, ?_⟩
      intro step fault failed
      have shadows := shadows_beside succeeds (ExecutorRule.failingOn name).executor condition
        ceilingFactor context log
      apply run_ne_stepFailed shadows.succeeds w context ((state, asking), .empty) step fault
      apply routeOf_eq_error_iff.mp
      rw [← route]
      exact routeOf_eq_error_iff.mpr failed
    · have succeeded := agree.succeeded
      rw [← show _ = second.2.2.executed from congrArg Prod.fst agree.carried, attempted]
        at succeeded
      exact (not_allSucceed_concat_error _ _ _ succeeded).elim
  · rcases Executor.carryOut_failingOn name context steps log with
      ⟨-, impossible⟩ | ⟨done', last, among, reached, others, attempted'⟩
    · rw [attempted] at impossible
      exact (not_allSucceed_concat_error _ _ _ impossible).elim
    · rw [attempted] at attempted'
      obtain ⟨rfl, same⟩ := List.append_inj' attempted' rfl
      obtain ⟨rfl, ⟨⟩⟩ := Prod.mk.inj (List.singleton_inj.mp same)
      rw [reached] at failed
      refine Or.inr ⟨⟨step, among, reached⟩, failed, done.map fun call => call.1.name, ?_, ?_⟩
      · intro listed
        obtain ⟨call, made, named⟩ := List.mem_map.mp listed
        exact others call made named
      · have attempted : attempts = _ := attempted
        rw [attempted, List.map_append, List.map_singleton, reached] at logged
        exact logged

/-- What an executor can change in a walk.  Beside one condition, the steps that
a run executes under any executor are those of the run under an executor that
never fails, up to the first failure, and the questions are the same ones as far
as the executions succeed.  With a failure the run ends at that step, and without
one it ends as the other run does, apart from the reward.  An executor that fails
on a single name fails at the first step of that name. -/
theorem run_differs_only_by_failure (executor : Executor σ) (succeeds : executor.Succeeds)
    (condition : Condition τ) (ceilingFactor : Nat) (w : Workflow) (context : Context)
    (state : σ) (asking : τ) :
    let evaluator := beside executor condition ceilingFactor
    let run := evaluator.run w context (state, asking)
    let calls := (evaluator.observed.run w context ((state, asking), .empty)).2.2
    let steps := calls.executed.map Prod.fst
    (∀ {ρ : Type} (other : Executor ρ) (state' : ρ),
      let evaluator' := beside other condition ceilingFactor
      let run' := evaluator'.run w context (state', asking)
      let calls' := (evaluator'.observed.run w context ((state', asking), .empty)).2.2
      let attempts := other.carryOut context steps state'
      calls'.executed = attempts.1 ∧ run'.2.1 = attempts.2 ∧
        calls'.asked <+: calls.asked ∧ calls'.AsksDecisions ∧
        (∀ step fault, (step, .error fault) ∈ attempts.1 →
          run'.1 = .error (.stepFailed step.name fault)) ∧
        (AllSucceed attempts.1 →
          routeOf run'.1 = routeOf run.1 ∧ calls'.asked = calls.asked ∧ run'.2.2 = run.2.2)) ∧
      ∀ (name : String) (log : CallLog),
        let evaluator' := beside (ExecutorRule.failingOn name).executor condition ceilingFactor
        let run' := evaluator'.run w context (log, asking)
        ((∃ step fault, run'.1 = .error (.stepFailed step fault)) ↔
            ∃ step ∈ steps, step.name = name) ∧
          ((∃ step ∈ steps, step.name = name) →
            run'.1 = .error (.stepFailed name ⟨"scripted failure on " ++ name⟩) ∧
              ∃ names, name ∉ names ∧
                run'.2.1.executed.toList = log.executed.toList ++ (names ++ [name])) := by
  intro evaluator run calls steps
  have plain : run = _ := evaluator.run_observed w context (state, asking) .empty
  refine ⟨?_, ?_⟩
  · intro ρ other state' evaluator' run' calls' attempts
    have plain' : run' = _ := evaluator'.run_observed w context (state', asking) .empty
    have asks : calls'.AsksDecisions := evaluator'.asked_eq_decisions w context (state', asking)
    rw [plain, plain']
    rcases run_beside_cases succeeds other condition ceilingFactor w context state state' asking
      with ⟨route, agree⟩ | ⟨done, step, fault, succeeded, attempted, executed, asked, failed⟩
    · have attempted : attempts = (calls'.executed, _) := agree.carried
      have asked : calls'.asked = calls.asked := agree.asked
      rw [attempted]
      refine ⟨rfl, rfl, asked ▸ List.prefix_refl _, asks, ?_, fun _ => ?_⟩
      · intro step fault among
        obtain ⟨earned, impossible⟩ := agree.succeeded _ among
        cases impossible
      · exact ⟨route, asked, agree.condition⟩
    · have attempted : attempts = (done ++ [(step, .error fault)], _) := attempted
      rw [attempted]
      refine ⟨executed, rfl, asked, asks, ?_, fun impossible => ?_⟩
      · intro step' fault' among
        rcases List.mem_append.mp among with earlier | last
        · obtain ⟨earned, impossible⟩ := succeeded _ earlier
          cases impossible
        · obtain ⟨rfl, ⟨⟩⟩ := Prod.mk.inj (List.mem_singleton.mp last)
          exact failed
      · exact (not_allSucceed_concat_error _ _ _ impossible).elim
  · intro name log evaluator' run'
    have plain' : run' = _ := evaluator'.run_observed w context (log, asking) .empty
    rw [plain']
    rcases run_failingOn_cases succeeds condition ceilingFactor w context state asking name log
      with ⟨others, unfailing⟩ | ⟨met, failed, logged⟩
    · have unmet : ¬ ∃ step ∈ steps, step.name = name := by
        rintro ⟨step, among, named⟩
        exact others step among named
      refine ⟨⟨?_, fun met => absurd met unmet⟩, fun met => absurd met unmet⟩
      rintro ⟨step, fault, failed⟩
      exact absurd failed (unfailing step fault)
    · exact ⟨⟨fun _ => met, fun _ => ⟨_, _, failed⟩⟩, fun _ => ⟨failed, logged⟩⟩

/-- Rewards of one for every step, recorded. -/
def steady : Executor CallLog :=
  .recorded fun _ _ => .ok 1.0

theorem steady_succeeds : steady.Succeeds :=
  fun _ _ _ => ⟨1.0, _, rfl⟩

/-- An executor that earns no number and is worn out after two steps. -/
def wearing : Executor Nat :=
  ⟨fun _ _ done => (if done < 2 then .ok (0.0 / 0.0) else .error ⟨"worn out"⟩, done + 1)⟩

/-- The third execution fails, on a step that was executed before, and the second
question is not asked any more.  On the name of the decision the second execution
fails, and no question is asked. -/
theorem run_retryLoop_failing :
    steady.Succeeds ∧
      routeOf ((beside steady (.scripted [true, false]) 2).run retryLoop .empty
          (.empty, .empty)).1 =
        .ok (["step_1", "step_2", "step_1", "step_2"], .conditionUnmet) ∧
      ((beside wearing (.scripted [true, false]) 2).run retryLoop .empty (0, .empty)).1 =
        .error (.stepFailed "step_1" ⟨"worn out"⟩) ∧
      ((beside wearing (.scripted [true, false]) 2).run retryLoop .empty (0, .empty)).2 =
        (3, ⟨#[], #["step_2"]⟩) ∧
      ((beside (ExecutorRule.failingOn "step_2").executor (.scripted [true, false]) 2).run
          retryLoop .empty (.empty, .empty)).1 =
        .error (.stepFailed "step_2" ⟨"scripted failure on step_2"⟩) := by
  obtain ⟨others, named⟩ := run_differs_only_by_failure steady steady_succeeds
    (.scripted [true, false]) 2 retryLoop .empty .empty .empty
  obtain ⟨-, -, -, -, fails, -⟩ := others wearing 0
  refine ⟨steady_succeeds, rfl, ?_, rfl, ?_⟩
  · apply fails (retryLoop.get ⟨0, by decide⟩)
    exact .tail _ (.tail _ (.head _))
  · refine ((named "step_2" .empty).2 ?_).1
    exact ⟨retryLoop.get ⟨1, by decide⟩, .tail _ (.head _), rfl⟩

end Evaluator

end Stepwise
