/-
Module: Stepwise.Proofs.Walk.Trace
Purpose: A declarative account of walks, from single visits over paths to
  endings, and its agreement with the bounded recursion in every outcome.
Main exports: Evaluator.Advances, Evaluator.Halts, Evaluator.Breaks,
  Evaluator.Path, Evaluator.Ends, Evaluator.run_eq_iff_ends,
  Evaluator.run_eq_iff_trace
-/
import Stepwise.Evaluation
import Stepwise.Policy.Recorded

namespace Stepwise

/-!
The walk of `Stepwise.Evaluation` is a recursion on the visits that are left.
Here the same walk is described without any count.  A visit starts in a state
of the policies and does one of three things: it advances to a further step,
it halts, or it breaks with a fault.  Visits that advance form paths, and a
walk is a path with one ending.  The ceiling enters in one place only: an
ending by a visit needs room for that visit, and without room the walk is
exhausted.  So a visit that still fits is always decided by what it does,
never by the ceiling.
-/

/-- An index that was visited and what its step earned there. -/
structure Visit (length : Nat) where
  index : Fin length
  earned : Float
deriving Repr

/-- The names of visited steps, in visit order. -/
def Workflow.namesOf (w : Workflow) (visits : List (Visit w.length)) : List String :=
  visits.map fun visit => (w.get visit.index).name

/-- The report on a walk that executed the steps of the given visits: rewards
are added from the left, starting at zero. -/
def Report.ofVisits (w : Workflow) (visits : List (Visit w.length)) (halt : Halt) : Report :=
  { reward := (visits.map Visit.earned).foldl (· + ·) 0.0
    visited := w.namesOf visits
    halt := halt }

/-- The tally after further visits. -/
def Tally.along (w : Workflow) (tally : Tally) (visits : List (Visit w.length)) : Tally :=
  visits.foldl (fun tally visit => tally.add (w.get visit.index).name visit.earned) tally

theorem Tally.along_append {w : Workflow} (tally : Tally) (done more : List (Visit w.length)) :
    tally.along w (done ++ more) = (tally.along w done).along w more :=
  List.foldl_append

theorem Tally.reward_along {w : Workflow} (tally : Tally) (visits : List (Visit w.length)) :
    (tally.along w visits).reward = (visits.map Visit.earned).foldl (· + ·) tally.reward := by
  induction visits generalizing tally with
  | nil => rfl
  | cons visit visits ih => exact ih (tally.add (w.get visit.index).name visit.earned)

theorem Tally.visited_along {w : Workflow} (tally : Tally) (visits : List (Visit w.length)) :
    (tally.along w visits).visited.toList = tally.visited.toList ++ w.namesOf visits := by
  induction visits generalizing tally with
  | nil => simp [Tally.along, Workflow.namesOf]
  | cons visit visits ih =>
      have further := ih (tally.add (w.get visit.index).name visit.earned)
      simpa [Tally.along, Tally.add, Workflow.namesOf] using further

/-- The tally of a whole walk turns into the report on its visits. -/
theorem Tally.report_start_along {w : Workflow} (visits : List (Visit w.length)) (halt : Halt) :
    (Tally.start.along w visits).report halt = .ofVisits w visits halt := by
  unfold Tally.report Report.ofVisits
  rw [Tally.reward_along, Tally.visited_along]
  rfl

namespace Evaluator

variable {σ : Type} {evaluator : Evaluator σ} {w : Workflow} {context : Context}

/-! ### Single visits -/

/-- An executed step lets the walk pass to its connections: a process without
being asked, a decision by a true answer.  A terminal step never does. -/
inductive Clears (evaluator : Evaluator σ) (context : Context) (step : Step) :
    σ → σ → Prop where
  | process {state : σ} (kind : step.kind = .process) :
      Clears evaluator context step state state
  | decision {state after : σ} (kind : step.kind = .decision)
      (answer : evaluator.condition.holds step context state = (true, after)) :
      Clears evaluator context step state after

/-- A visit that goes on: the step is executed and cleared, and its first
connection leads to `next`. -/
inductive Advances (evaluator : Evaluator σ) (w : Workflow) (context : Context)
    (index : Fin w.length) (state : σ) (earned : Float) (next : Fin w.length)
    (after : σ) : Prop where
  | goto {executed : σ} {reference : String}
      (execution : evaluator.executor.execute (w.get index) context state =
        (.ok earned, executed))
      (clearance : evaluator.Clears context (w.get index) executed after)
      (connection : (w.get index).next? = some reference)
      (resolution : w.locate reference = .ok next)

/-- A visit at which the walk comes to a stop without fault.  A terminal step
asks no question; a decision answered false stops whatever its connections. -/
inductive Halts (evaluator : Evaluator σ) (w : Workflow) (context : Context)
    (index : Fin w.length) (state : σ) (earned : Float) : Halt → σ → Prop where
  | terminal {executed : σ}
      (execution : evaluator.executor.execute (w.get index) context state =
        (.ok earned, executed))
      (kind : (w.get index).kind = .terminal) :
      Halts evaluator w context index state earned .terminal executed
  | conditionUnmet {executed after : σ}
      (execution : evaluator.executor.execute (w.get index) context state =
        (.ok earned, executed))
      (kind : (w.get index).kind = .decision)
      (answer : evaluator.condition.holds (w.get index) context executed = (false, after)) :
      Halts evaluator w context index state earned .conditionUnmet after
  | noNextStep {executed after : σ}
      (execution : evaluator.executor.execute (w.get index) context state =
        (.ok earned, executed))
      (clearance : evaluator.Clears context (w.get index) executed after)
      (unconnected : (w.get index).next? = none) :
      Halts evaluator w context index state earned .noNextStep after

/-- A visit at which the walk ends with a fault: the step cannot be executed,
or it is cleared and its first connection leads nowhere. -/
inductive Breaks (evaluator : Evaluator σ) (w : Workflow) (context : Context)
    (index : Fin w.length) (state : σ) : WorkflowFault → σ → Prop where
  | stepFailed {fault : StepFault} {after : σ}
      (execution : evaluator.executor.execute (w.get index) context state =
        (.error fault, after)) :
      Breaks evaluator w context index state (.stepFailed (w.get index).name fault) after
  | malformedReference {earned : Float} {executed after : σ} {reference : String}
      {why : ReferenceFault}
      (execution : evaluator.executor.execute (w.get index) context state =
        (.ok earned, executed))
      (clearance : evaluator.Clears context (w.get index) executed after)
      (connection : (w.get index).next? = some reference)
      (resolution : w.locate reference = .error why) :
      Breaks evaluator w context index state
        (.malformedReference (w.get index).name reference why) after

/-- An executed step is terminal, or a decision answered false, or cleared. -/
theorem clears_or_stops (evaluator : Evaluator σ) (context : Context) (step : Step) (state : σ) :
    step.kind = .terminal ∨
      (step.kind = .decision ∧
        ∃ after, evaluator.condition.holds step context state = (false, after)) ∨
      ∃ after, evaluator.Clears context step state after := by
  cases kind : step.kind with
  | terminal => exact Or.inl rfl
  | process => exact Or.inr (Or.inr ⟨state, .process kind⟩)
  | decision =>
      rcases answer : evaluator.condition.holds step context state with ⟨holds, after⟩
      cases holds with
      | false => exact Or.inr (Or.inl ⟨rfl, after, rfl⟩)
      | true => exact Or.inr (Or.inr ⟨after, .decision kind answer⟩)

/-- Everything a visit can do. -/
theorem visit_cases (evaluator : Evaluator σ) (w : Workflow) (context : Context)
    (index : Fin w.length) (state : σ) :
    (∃ earned next after, evaluator.Advances w context index state earned next after) ∨
      (∃ earned reason after, evaluator.Halts w context index state earned reason after) ∨
      ∃ fault after, evaluator.Breaks w context index state fault after := by
  rcases execution : evaluator.executor.execute (w.get index) context state with
    ⟨fault | earned, executed⟩
  · exact Or.inr (Or.inr ⟨_, executed, .stepFailed execution⟩)
  rcases evaluator.clears_or_stops context (w.get index) executed with
    kind | ⟨kind, after, answer⟩ | ⟨after, clearance⟩
  · exact Or.inr (Or.inl ⟨earned, _, executed, .terminal execution kind⟩)
  · exact Or.inr (Or.inl ⟨earned, _, after, .conditionUnmet execution kind answer⟩)
  cases connection : (w.get index).next? with
  | none => exact Or.inr (Or.inl ⟨earned, _, after, .noNextStep execution clearance connection⟩)
  | some reference =>
      cases resolution : w.locate reference with
      | ok next =>
          exact Or.inl ⟨earned, next, after, .goto execution clearance connection resolution⟩
      | error why =>
          exact Or.inr (Or.inr
            ⟨_, after, .malformedReference execution clearance connection resolution⟩)

/-! ### One turn of the recursion -/

theorem leave_of_clears {step : Step} {state after : σ}
    (clearance : evaluator.Clears context step state after) :
    evaluator.leave w context step state = (w.follow step, after) := by
  cases clearance with
  | process kind => simp [leave, kind]
  | decision kind answer => simp [leave, kind, answer]

theorem follow_of_unconnected {step : Step} (unconnected : step.next? = none) :
    w.follow step = .ok (.halt .noNextStep) := by
  simp only [Workflow.follow, unconnected]

theorem follow_of_located {step : Step} {reference : String} {next : Fin w.length}
    (connection : step.next? = some reference) (resolution : w.locate reference = .ok next) :
    w.follow step = .ok (.goto next) := by
  simp only [Workflow.follow, connection, Workflow.resolve, resolution]
  rfl

theorem follow_of_misplaced {step : Step} {reference : String} {why : ReferenceFault}
    (connection : step.next? = some reference) (resolution : w.locate reference = .error why) :
    w.follow step = .error (.malformedReference step.name reference why) := by
  simp only [Workflow.follow, connection, Workflow.resolve, resolution]
  rfl

/-- A visit that advances uses up one visit and adds to the tally. -/
theorem walk_of_advances {index next : Fin w.length} {state after : σ} {earned : Float}
    (advance : evaluator.Advances w context index state earned next after)
    (limit left : Nat) (tally : Tally) :
    evaluator.walk w context limit (left + 1) index tally state =
      evaluator.walk w context limit left next
        (tally.add (w.get index).name earned) after := by
  cases advance with
  | goto execution clearance connection resolution =>
      simp [walk, execution, leave_of_clears clearance,
        follow_of_located connection resolution]

theorem walk_of_halts {index : Fin w.length} {state after : σ} {earned : Float} {reason : Halt}
    (halt : evaluator.Halts w context index state earned reason after)
    (limit left : Nat) (tally : Tally) :
    evaluator.walk w context limit (left + 1) index tally state =
      (.ok ((tally.add (w.get index).name earned).report reason), after) := by
  cases halt with
  | terminal execution kind => simp [walk, execution, leave, kind]
  | conditionUnmet execution kind answer => simp [walk, execution, leave, kind, answer]
  | noNextStep execution clearance unconnected =>
      simp [walk, execution, leave_of_clears clearance, follow_of_unconnected unconnected]

theorem walk_of_breaks {index : Fin w.length} {state after : σ} {fault : WorkflowFault}
    (breakage : evaluator.Breaks w context index state fault after)
    (limit left : Nat) (tally : Tally) :
    evaluator.walk w context limit (left + 1) index tally state = (.error fault, after) := by
  cases breakage with
  | stepFailed execution => simp [walk, execution]
  | malformedReference execution clearance connection resolution =>
      simp [walk, execution, leave_of_clears clearance,
        follow_of_misplaced connection resolution]

/-! ### Paths and endings -/

/-- Visits that advance one after the other, from `start` to the index `last`
about to be visited, with the policies' state threaded through all calls. -/
inductive Path (evaluator : Evaluator σ) (w : Workflow) (context : Context) :
    Fin w.length → σ → List (Visit w.length) → Fin w.length → σ → Prop where
  | here {index : Fin w.length} {state : σ} :
      Path evaluator w context index state [] index state
  | onward {index next last : Fin w.length} {state between final : σ} {earned : Float}
      {visits : List (Visit w.length)}
      (advance : evaluator.Advances w context index state earned next between)
      (rest : Path evaluator w context next between visits last final) :
      Path evaluator w context index state (⟨index, earned⟩ :: visits) last final

theorem Path.snoc {start index next : Fin w.length} {state between after : σ}
    {visits : List (Visit w.length)} {earned : Float}
    (path : evaluator.Path w context start state visits index between)
    (advance : evaluator.Advances w context index between earned next after) :
    evaluator.Path w context start state (visits ++ [⟨index, earned⟩]) next after := by
  induction path with
  | here => exact .onward advance .here
  | onward first _rest ih => exact .onward first (ih advance)

/-- The ways in which a walk with room for `limit` visits ends. -/
inductive Ends (evaluator : Evaluator σ) (w : Workflow) (context : Context) (limit : Nat)
    (start : Fin w.length) (state : σ) : Except WorkflowFault Report → σ → Prop where
  | halted {visits : List (Visit w.length)} {last : Fin w.length} {before final : σ}
      {earned : Float} {reason : Halt}
      (path : evaluator.Path w context start state visits last before)
      (room : visits.length < limit)
      (halt : evaluator.Halts w context last before earned reason final) :
      Ends evaluator w context limit start state
        (.ok (.ofVisits w (visits ++ [⟨last, earned⟩]) reason)) final
  | broken {visits : List (Visit w.length)} {last : Fin w.length} {before final : σ}
      {fault : WorkflowFault}
      (path : evaluator.Path w context start state visits last before)
      (room : visits.length < limit)
      (breakage : evaluator.Breaks w context last before fault final) :
      Ends evaluator w context limit start state (.error fault) final
  | exhausted {visits : List (Visit w.length)} {last : Fin w.length} {final : σ}
      (path : evaluator.Path w context start state visits last final)
      (full : visits.length = limit) :
      Ends evaluator w context limit start state
        (.error (.unboundedTraversal limit (w.get last).name)) final

/-- A path is walked visit by visit, so it can be cut off in front of a walk. -/
theorem walk_of_path {start last : Fin w.length} {state after : σ}
    {visits : List (Visit w.length)}
    (path : evaluator.Path w context start state visits last after)
    (limit left : Nat) (tally : Tally) :
    evaluator.walk w context limit (visits.length + left) start tally state =
      evaluator.walk w context limit left last (tally.along w visits) after := by
  induction path generalizing tally with
  | here => simp [Tally.along]
  | @onward index next last state between final earned visits advance rest ih =>
      rw [List.length_cons, Nat.add_right_comm, walk_of_advances advance, ih]
      rfl

/-- Every ending is what the recursion answers. -/
theorem walk_of_ends {limit : Nat} {start : Fin w.length} {state final : σ}
    {outcome : Except WorkflowFault Report}
    (ending : evaluator.Ends w context limit start state outcome final) :
    evaluator.walk w context limit limit start .start state = (outcome, final) := by
  cases ending with
  | @halted visits last before final earned reason path room halt =>
      obtain ⟨left, rfl⟩ : ∃ left, limit = visits.length + (left + 1) :=
        ⟨limit - visits.length - 1, by omega⟩
      rw [walk_of_path path, walk_of_halts halt, ← Tally.report_start_along,
        Tally.along_append]
      rfl
  | @broken visits last before final fault path room breakage =>
      obtain ⟨left, rfl⟩ : ∃ left, limit = visits.length + (left + 1) :=
        ⟨limit - visits.length - 1, by omega⟩
      rw [walk_of_path path, walk_of_breaks breakage]
  | exhausted path full =>
      -- No visit is left behind the path, and the recursion stops at zero.
      subst full
      exact walk_of_path path _ 0 _

/-- The recursion always arrives at an ending.  The induction is on the visits
that are left; what it carries is the path behind the current index, whose
length and `left` add up to the ceiling. -/
theorem ends_walk {limit left : Nat} {start current : Fin w.length} {state now : σ}
    {visits : List (Visit w.length)}
    (path : evaluator.Path w context start state visits current now)
    (count : visits.length + left = limit) :
    evaluator.Ends w context limit start state
      (evaluator.walk w context limit left current (Tally.start.along w visits) now).1
      (evaluator.walk w context limit left current (Tally.start.along w visits) now).2 := by
  induction left generalizing current now visits with
  | zero => exact .exhausted path count
  | succ left ih =>
      rcases evaluator.visit_cases w context current now with
        ⟨earned, next, after, advance⟩ | ⟨earned, reason, after, halt⟩ |
          ⟨fault, after, breakage⟩
      · have further := ih (path.snoc advance) (by simp; omega)
        rw [Tally.along_append] at further
        rw [walk_of_advances advance]
        exact further
      · have ending : evaluator.Ends w context limit start state _ after :=
          .halted path (by omega) halt
        rw [← Tally.report_start_along, Tally.along_append] at ending
        rw [walk_of_halts halt]
        exact ending
      · rw [walk_of_breaks breakage]
        exact .broken path (by omega) breakage

/-- A walk from the start is a walk to an ending. -/
theorem walk_eq_iff_ends {limit : Nat} {start : Fin w.length} {state final : σ}
    {outcome : Except WorkflowFault Report} :
    evaluator.walk w context limit limit start .start state = (outcome, final) ↔
      evaluator.Ends w context limit start state outcome final := by
  constructor
  · intro answered
    have here : evaluator.Path w context start state [] start state := .here
    have ending := ends_walk here (Nat.zero_add limit)
    simpa only [Tally.along, List.foldl_nil, answered] using ending
  · exact walk_of_ends

/-- A run of a workflow with steps is a walk from its entry to an ending. -/
theorem run_eq_iff_ends (nonempty : 0 < w.length) {state final : σ}
    {outcome : Except WorkflowFault Report} :
    evaluator.run w context state = (outcome, final) ↔
      evaluator.Ends w context (visitCeiling evaluator.ceilingFactor w.length)
        ⟨0, nonempty⟩ state outcome final := by
  rw [← walk_eq_iff_ends]
  simp [run, nonempty]

/-- The run of a workflow with steps ends. -/
theorem ends_run (evaluator : Evaluator σ) (context : Context) (state : σ)
    (nonempty : 0 < w.length) :
    evaluator.Ends w context (visitCeiling evaluator.ceilingFactor w.length) ⟨0, nonempty⟩ state
      (evaluator.run w context state).1 (evaluator.run w context state).2 :=
  (run_eq_iff_ends nonempty).mp rfl

/-- A workflow without steps is not walked at all. -/
theorem run_of_empty (empty : ¬ 0 < w.length) (state : σ) :
    evaluator.run w context state = (.ok .empty, state) := by
  simp [run, empty]

/-- The walk from the entry executes the steps of exactly these visits and
halts at the last of them, or there is no step to visit.  No ceiling is
mentioned. -/
inductive Completes (evaluator : Evaluator σ) (w : Workflow) (context : Context) (state : σ) :
    List (Visit w.length) → Report → σ → Prop where
  | unvisited (empty : ¬ 0 < w.length) :
      Completes evaluator w context state [] .empty state
  | halted {nonempty : 0 < w.length} {visits : List (Visit w.length)} {last : Fin w.length}
      {before final : σ} {earned : Float} {reason : Halt}
      (path : evaluator.Path w context ⟨0, nonempty⟩ state visits last before)
      (halt : evaluator.Halts w context last before earned reason final) :
      Completes evaluator w context state (visits ++ [⟨last, earned⟩])
        (.ofVisits w (visits ++ [⟨last, earned⟩]) reason) final

theorem Completes.visited_eq {state final : σ} {visits : List (Visit w.length)} {report : Report}
    (complete : evaluator.Completes w context state visits report final) :
    report.visited = w.namesOf visits := by
  cases complete with
  | unvisited empty => rfl
  | halted path halt => rfl

/-- A report is what a completed walk makes that fits under the ceiling. -/
theorem run_eq_ok_iff {state final : σ} {report : Report} :
    evaluator.run w context state = (.ok report, final) ↔
      ∃ visits, evaluator.Completes w context state visits report final ∧
        visits.length ≤ visitCeiling evaluator.ceilingFactor w.length := by
  by_cases nonempty : 0 < w.length
  · rw [run_eq_iff_ends nonempty]
    constructor
    · intro ending
      cases ending with
      | halted path room halt =>
          refine ⟨_, .halted path halt, ?_⟩
          rw [List.length_append]
          exact room
    · rintro ⟨visits, complete, within⟩
      cases complete with
      | unvisited empty => exact absurd nonempty empty
      | halted path halt =>
          rw [List.length_append] at within
          exact .halted path within halt
  · rw [run_of_empty nonempty]
    constructor
    · rintro ⟨⟩
      exact ⟨[], .unvisited nonempty, Nat.zero_le _⟩
    · rintro ⟨visits, complete, -⟩
      cases complete with
      | unvisited => rfl
      | @halted positive => exact absurd positive nonempty

/-- An exhausted run has a path behind it that is as long as the ceiling. -/
theorem path_of_unboundedTraversal {state : σ} {limit : Nat} {next : String}
    (unbounded : (evaluator.run w context state).1 = .error (.unboundedTraversal limit next)) :
    ∃ (nonempty : 0 < w.length) (visits : List (Visit w.length)) (last : Fin w.length),
      evaluator.Path w context ⟨0, nonempty⟩ state visits last
          (evaluator.run w context state).2 ∧
        limit = visitCeiling evaluator.ceilingFactor w.length ∧ visits.length = limit ∧
        next = (w.get last).name := by
  by_cases nonempty : 0 < w.length
  · have ending := evaluator.ends_run context state nonempty
    rw [unbounded] at ending
    cases ending with
    | broken path room breakage => cases breakage
    | @exhausted visits last _ path full => exact ⟨nonempty, visits, last, path, rfl, full, rfl⟩
  · rw [run_of_empty nonempty] at unbounded
    cases unbounded

/-- The complete account of a run.  With `visits` behind it and `last` in
front, the walk has executed the steps of `visits`, all with success, and each
of them led on to the next.  What `last` does, or that there is no room to
execute it, decides the outcome. -/
theorem run_eq_iff_trace (evaluator : Evaluator σ) (w : Workflow) (nonempty : 0 < w.length)
    (context : Context) (state : σ) (outcome : Except WorkflowFault Report) (final : σ) :
    evaluator.run w context state = (outcome, final) ↔
      ∃ (visits : List (Visit w.length)) (last : Fin w.length) (before : σ),
        evaluator.Path w context ⟨0, nonempty⟩ state visits last before ∧
          match outcome with
          | .ok report =>
              visits.length + 1 ≤ visitCeiling evaluator.ceilingFactor w.length ∧
                ∃ earned, evaluator.Halts w context last before earned report.halt final ∧
                  report.visited =
                    (visits.map Visit.index ++ [last]).map (fun index => (w.get index).name) ∧
                  report.reward = (visits.map Visit.earned ++ [earned]).foldl (· + ·) 0.0
          | .error (.stepFailed step fault) =>
              visits.length + 1 ≤ visitCeiling evaluator.ceilingFactor w.length ∧
                step = (w.get last).name ∧
                evaluator.executor.execute (w.get last) context before = (.error fault, final)
          | .error (.malformedReference step reference why) =>
              visits.length + 1 ≤ visitCeiling evaluator.ceilingFactor w.length ∧
                step = (w.get last).name ∧
                (w.get last).next? = some reference ∧ w.locate reference = .error why ∧
                ∃ earned executed,
                  evaluator.executor.execute (w.get last) context before =
                      (.ok earned, executed) ∧
                    evaluator.Clears context (w.get last) executed final
          | .error (.unboundedTraversal limit next) =>
              limit = visitCeiling evaluator.ceilingFactor w.length ∧
                visits.length = limit ∧ next = (w.get last).name ∧ final = before
          | .error (.misnamedStep _ _) => False := by
  rw [run_eq_iff_ends nonempty]
  constructor
  · intro ending
    cases ending with
    | @halted visits last before _ earned reason path room halt =>
        refine ⟨visits, last, before, path, room, earned, halt, ?_, ?_⟩
        · simp [Report.ofVisits, Workflow.namesOf]
        · simp [Report.ofVisits]
    | @broken visits last before _ fault path room breakage =>
        refine ⟨visits, last, before, path, ?_⟩
        cases breakage with
        | stepFailed execution => exact ⟨room, rfl, execution⟩
        | malformedReference execution clearance connection resolution =>
            exact ⟨room, rfl, connection, resolution, _, _, execution, clearance⟩
    | @exhausted visits last _ path full =>
        exact ⟨visits, last, final, path, rfl, full, rfl, rfl⟩
  · rintro ⟨visits, last, before, path, account⟩
    match outcome, account with
    | .ok report, ⟨room, earned, halt, visited, reward⟩ =>
        have same : report = .ofVisits w (visits ++ [⟨last, earned⟩]) report.halt := by
          cases report
          simp_all [Report.ofVisits, Workflow.namesOf]
        rw [same]
        exact .halted path room halt
    | .error (.stepFailed step fault), ⟨room, named, execution⟩ =>
        rw [named]
        exact .broken path room (.stepFailed execution)
    | .error (.malformedReference step reference why),
        ⟨room, named, connection, resolution, earned, executed, execution, clearance⟩ =>
        rw [named]
        exact .broken path room
          (.malformedReference execution clearance connection resolution)
    | .error (.unboundedTraversal limit next), ⟨bound, full, named, same⟩ =>
        subst bound named same
        exact .exhausted path full

/-- Two steps in a circle that a decision leaves. -/
def retryLoop : Workflow :=
  { steps :=
      [{ name := "step_1", kind := .process, instruction := "load", connections := ["step_2"] },
        { name := "step_2", kind := .decision, instruction := "again?",
          connections := ["step_1"] }] }

/-- Room for four visits, rewards of one, and a condition that is true once. -/
def retryOnce : Evaluator CallLog :=
  { executor := .recorded fun _ _ => .ok 1.0
    condition := .scripted [true, false]
    ceilingFactor := 2 }

/-- The second answer stops the walk at the last visit there is room for. -/
theorem run_retryOnce_eq :
    0 < retryLoop.length ∧
      retryOnce.run retryLoop .empty .empty =
        (.ok
          { reward := [1.0, 1.0, 1.0, 1.0].foldl (· + ·) 0.0
            visited := ["step_1", "step_2", "step_1", "step_2"]
            halt := .conditionUnmet },
          { executed := #["step_1", "step_2", "step_1", "step_2"]
            asked := #["step_2", "step_2"] }) := by
  refine ⟨by decide, (run_eq_iff_trace retryOnce retryLoop (by decide) .empty .empty _ _).mpr ?_⟩
  have load (log : CallLog) : retryOnce.Advances retryLoop .empty ⟨0, by decide⟩ log 1.0
      ⟨1, by decide⟩ { log with executed := log.executed.push "step_1" } :=
    .goto rfl (.process rfl) rfl rfl
  refine ⟨[⟨⟨0, by decide⟩, 1.0⟩, ⟨⟨1, by decide⟩, 1.0⟩, ⟨⟨0, by decide⟩, 1.0⟩],
    ⟨1, by decide⟩, ⟨#["step_1", "step_2", "step_1"], #["step_2"]⟩, ?_, by decide, 1.0, ?_, rfl,
    rfl⟩
  · exact .onward (load _)
      (.onward (.goto rfl (.decision rfl rfl) rfl rfl) (.onward (load _) .here))
  · exact .conditionUnmet rfl rfl rfl

end Evaluator

end Stepwise
