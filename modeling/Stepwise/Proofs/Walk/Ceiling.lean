/-
Module: Stepwise.Proofs.Walk.Ceiling
Purpose: What the ceiling decides when the policies have no memory: nothing but
  the point at which an endless walk is given up.
Main exports: Executor.Memoryless, Condition.Memoryless, Evaluator.Alike,
  Evaluator.SameVerdict, Evaluator.run_ceiling_indifferent
-/
import Stepwise.Proofs.Walk.Cycle

namespace Stepwise

/-!
A memoryless policy gives one answer for a step in a context, whatever its
state.  Its state may still change, so it may well record its calls.  Between
memoryless policies a walk that comes back to an index has to go round for
ever, and a walk that does not come back is over after as many visits as there
are steps.  Both facts leave the ceiling without influence: it is never below
the number of steps, and no ceiling is high enough for a circle.
-/

/-- The answers of the executor do not depend on its state. -/
def Executor.Memoryless {σ : Type} (executor : Executor σ) : Prop :=
  ∀ step context state other,
    (executor.execute step context state).1 = (executor.execute step context other).1

/-- The answers of the condition do not depend on its state. -/
def Condition.Memoryless {σ : Type} (condition : Condition σ) : Prop :=
  ∀ step context state other,
    (condition.holds step context state).1 = (condition.holds step context other).1

namespace Evaluator

variable {σ τ : Type} {evaluator : Evaluator σ} {other : Evaluator τ} {w : Workflow}
variable {context : Context}

/-- Two evaluators whose policies give the same answers in any two states. -/
structure Alike (evaluator : Evaluator σ) (other : Evaluator τ) : Prop where
  execute : ∀ step context state state',
    (evaluator.executor.execute step context state).1 =
      (other.executor.execute step context state').1
  holds : ∀ step context state state',
    (evaluator.condition.holds step context state).1 =
      (other.condition.holds step context state').1

theorem Alike.symm (alike : evaluator.Alike other) : other.Alike evaluator :=
  { execute := fun step context state state' => (alike.execute step context state' state).symm
    holds := fun step context state state' => (alike.holds step context state' state).symm }

/-- Memoryless policies under two ceilings are alike. -/
theorem Alike.of_memoryless {executor : Executor σ} {condition : Condition σ}
    (executes : executor.Memoryless) (holds : condition.Memoryless) (f g : Nat) :
    Evaluator.Alike ⟨executor, condition, f⟩ ⟨executor, condition, g⟩ :=
  { execute := executes
    holds := holds }

/-! ### Transport of visits and paths -/

theorem Alike.execution (alike : evaluator.Alike other) {step : Step} {state executed : σ}
    {answer : Except StepFault Float}
    (execution : evaluator.executor.execute step context state = (answer, executed))
    (state' : τ) :
    ∃ executed', other.executor.execute step context state' = (answer, executed') := by
  have same := alike.execute step context state state'
  rw [execution] at same
  exact ⟨_, Prod.ext same.symm rfl⟩

theorem Alike.answer (alike : evaluator.Alike other) {step : Step} {state after : σ}
    {answer : Bool}
    (question : evaluator.condition.holds step context state = (answer, after)) (state' : τ) :
    ∃ after', other.condition.holds step context state' = (answer, after') := by
  have same := alike.holds step context state state'
  rw [question] at same
  exact ⟨_, Prod.ext same.symm rfl⟩

theorem Clears.transport (alike : evaluator.Alike other) {step : Step} {state after : σ}
    (clearance : evaluator.Clears context step state after) (state' : τ) :
    ∃ after', other.Clears context step state' after' := by
  cases clearance with
  | process kind => exact ⟨state', .process kind⟩
  | decision kind answer =>
      obtain ⟨after', answer⟩ := alike.answer answer state'
      exact ⟨after', .decision kind answer⟩

theorem Advances.transport (alike : evaluator.Alike other) {index next : Fin w.length}
    {state after : σ} {earned : Float}
    (advance : evaluator.Advances w context index state earned next after) (state' : τ) :
    ∃ after', other.Advances w context index state' earned next after' := by
  cases advance with
  | goto execution clearance connection resolution =>
      obtain ⟨executed', execution⟩ := alike.execution execution state'
      obtain ⟨after', clearance⟩ := clearance.transport alike executed'
      exact ⟨after', .goto execution clearance connection resolution⟩

theorem Halts.transport (alike : evaluator.Alike other) {index : Fin w.length}
    {state after : σ} {earned : Float} {reason : Halt}
    (halt : evaluator.Halts w context index state earned reason after) (state' : τ) :
    ∃ after', other.Halts w context index state' earned reason after' := by
  cases halt with
  | terminal execution kind =>
      obtain ⟨executed', execution⟩ := alike.execution execution state'
      exact ⟨executed', .terminal execution kind⟩
  | conditionUnmet execution kind answer =>
      obtain ⟨executed', execution⟩ := alike.execution execution state'
      obtain ⟨after', answer⟩ := alike.answer answer executed'
      exact ⟨after', .conditionUnmet execution kind answer⟩
  | noNextStep execution clearance unconnected =>
      obtain ⟨executed', execution⟩ := alike.execution execution state'
      obtain ⟨after', clearance⟩ := clearance.transport alike executed'
      exact ⟨after', .noNextStep execution clearance unconnected⟩

theorem Breaks.transport (alike : evaluator.Alike other) {index : Fin w.length}
    {state after : σ} {fault : WorkflowFault}
    (breakage : evaluator.Breaks w context index state fault after) (state' : τ) :
    ∃ after', other.Breaks w context index state' fault after' := by
  cases breakage with
  | stepFailed execution =>
      obtain ⟨executed', execution⟩ := alike.execution execution state'
      exact ⟨executed', .stepFailed execution⟩
  | malformedReference execution clearance connection resolution =>
      obtain ⟨executed', execution⟩ := alike.execution execution state'
      obtain ⟨after', clearance⟩ := clearance.transport alike executed'
      exact ⟨after', .malformedReference execution clearance connection resolution⟩

theorem Path.transport (alike : evaluator.Alike other) {start last : Fin w.length}
    {state final : σ} {visits : List (Visit w.length)}
    (path : evaluator.Path w context start state visits last final) (state' : τ) :
    ∃ final', other.Path w context start state' visits last final' := by
  induction path generalizing state' with
  | here => exact ⟨state', .here⟩
  | onward advance _rest ih =>
      obtain ⟨between', advance⟩ := advance.transport alike state'
      obtain ⟨final', rest⟩ := ih between'
      exact ⟨final', .onward advance rest⟩

/-! ### Walks that come back -/

theorem Revisits.transport (alike : evaluator.Alike other) {state : σ}
    (revisits : evaluator.Revisits w context state) (state' : τ) :
    other.Revisits w context state' := by
  obtain ⟨nonempty, visits, last, final, path, visited⟩ := revisits
  obtain ⟨final', path⟩ := path.transport alike state'
  exact ⟨nonempty, visits, last, final', path, visited⟩

theorem Path.start_mem {start last : Fin w.length} {state final : σ}
    {visits : List (Visit w.length)}
    (path : evaluator.Path w context start state visits last final) :
    start ∈ visits.map Visit.index ++ [last] := by
  cases path with
  | here => simp
  | onward advance rest => simp

/-- Every visited index of a path is left for another index of the path. -/
theorem Path.leads_on {start last index : Fin w.length} {state final : σ}
    {visits : List (Visit w.length)}
    (path : evaluator.Path w context start state visits last final)
    (visited : index ∈ visits.map Visit.index) :
    ∃ between earned next after, evaluator.Advances w context index between earned next after ∧
      next ∈ visits.map Visit.index ++ [last] := by
  obtain ⟨behind, earned, ahead, between, cut, -, onward⟩ := path.split visited
  cases onward with
  | onward advance rest =>
      refine ⟨between, earned, _, _, advance, ?_⟩
      have member := rest.start_mem
      rw [cut]
      simp only [List.map_append, List.map_cons, List.append_assoc, List.cons_append,
        List.mem_append, List.mem_cons] at member ⊢
      tauto

/-- Round a circle there are paths of every length, from every index of it and
in every state. -/
theorem Path.round {start last : Fin w.length} {state final : σ}
    {visits : List (Visit w.length)} (alike : evaluator.Alike other)
    (path : evaluator.Path w context start state visits last final)
    (visited : last ∈ visits.map Visit.index) (length : Nat) :
    ∀ index ∈ visits.map Visit.index, ∀ state' : τ, ∃ further endpoint after,
      other.Path w context index state' further endpoint after ∧ further.length = length := by
  induction length with
  | zero => exact fun index _ state' => ⟨[], index, state', .here, rfl⟩
  | succ length ih =>
      intro index member state'
      obtain ⟨between, earned, next, after, advance, onPath⟩ := path.leads_on member
      -- The end of the path has been visited before, so no step leaves the circle.
      have onCircle : next ∈ visits.map Visit.index := by
        rcases List.mem_append.mp onPath with inside | atEnd
        · exact inside
        · rw [List.mem_singleton] at atEnd
          exact atEnd ▸ visited
      obtain ⟨after', advance⟩ := advance.transport alike state'
      obtain ⟨further, endpoint, final', rest, count⟩ := ih next onCircle after'
      exact ⟨⟨index, earned⟩ :: further, endpoint, final', .onward advance rest, by simp [count]⟩

/-- A walk that comes back is exhausted under every ceiling. -/
theorem Revisits.unbounded (alike : evaluator.Alike other) {state : σ}
    (revisits : evaluator.Revisits w context state) (state' : τ) :
    ∃ limit next,
      (other.run w context state').1 = .error (.unboundedTraversal limit next) := by
  obtain ⟨nonempty, visits, last, final, path, visited⟩ := revisits
  have entry : (⟨0, nonempty⟩ : Fin w.length) ∈ visits.map Visit.index := by
    rcases List.mem_append.mp path.start_mem with inside | atEnd
    · exact inside
    · rw [List.mem_singleton] at atEnd
      exact atEnd ▸ visited
  obtain ⟨further, endpoint, after, long, count⟩ :=
    path.round alike visited (visitCeiling other.ceilingFactor w.length) _ entry state'
  have answered := (run_eq_iff_ends nonempty).mpr (.exhausted long count)
  exact ⟨_, _, congrArg Prod.fst answered⟩

/-- The indices of a walk that does not come back are different. -/
theorem Path.nodup_of_not_revisits {nonempty : 0 < w.length} {last : Fin w.length}
    {state final : σ} {visits : List (Visit w.length)}
    (path : evaluator.Path w context ⟨0, nonempty⟩ state visits last final)
    (forward : ¬ evaluator.Revisits w context state) :
    (visits.map Visit.index ++ [last]).Nodup := by
  by_contra repeated
  obtain ⟨behind, index, between, before, visited⟩ := path.revisits_of_not_nodup repeated
  exact forward ⟨nonempty, behind, index, between, before, visited⟩

/-- A walk that does not come back has room under every ceiling. -/
theorem Path.room_of_not_revisits {nonempty : 0 < w.length} {last : Fin w.length}
    {state final : σ} {visits : List (Visit w.length)}
    (path : evaluator.Path w context ⟨0, nonempty⟩ state visits last final)
    (forward : ¬ evaluator.Revisits w context state) (sized : w.length < sizeLimit)
    (ceilingFactor : Nat) : visits.length < visitCeiling ceilingFactor w.length := by
  have bound := (path.nodup_of_not_revisits forward).length_le_card
  have ceiling := le_visitCeiling sized ceilingFactor
  simp only [List.length_append, List.length_map, List.length_singleton,
    Fintype.card_fin] at bound
  omega

/-! ### Verdicts under two ceilings -/

/-- Two outcomes that differ at most in where an endless walk was given up. -/
inductive SameVerdict : Except WorkflowFault Report → Except WorkflowFault Report → Prop where
  | reported (report : Report) : SameVerdict (.ok report) (.ok report)
  | stepFailed (step : String) (fault : StepFault) :
      SameVerdict (.error (.stepFailed step fault)) (.error (.stepFailed step fault))
  | malformedReference (step reference : String) (why : ReferenceFault) :
      SameVerdict (.error (.malformedReference step reference why))
        (.error (.malformedReference step reference why))
  | unboundedTraversal (limit limit' : Nat) (next next' : String) :
      SameVerdict (.error (.unboundedTraversal limit next))
        (.error (.unboundedTraversal limit' next'))

theorem SameVerdict.unbounded_right {limit : Nat} {next : String}
    {outcome : Except WorkflowFault Report}
    (verdict : SameVerdict (.error (.unboundedTraversal limit next)) outcome) :
    ∃ limit' next', outcome = .error (.unboundedTraversal limit' next') := by
  cases verdict with
  | unboundedTraversal _ limit' _ next' => exact ⟨limit', next', rfl⟩

/-- Alike evaluators reach the same verdict, whatever their ceilings. -/
theorem Alike.sameVerdict (alike : evaluator.Alike other) (sized : w.length < sizeLimit)
    (state : σ) (state' : τ) :
    SameVerdict (evaluator.run w context state).1 (other.run w context state').1 := by
  by_cases revisits : evaluator.Revisits w context state
  · obtain ⟨limit', next', unbounded'⟩ := revisits.unbounded alike state'
    obtain ⟨limit, next, unbounded⟩ :=
      (revisits.transport alike state').unbounded alike.symm state
    rw [unbounded, unbounded']
    exact .unboundedTraversal limit limit' next next'
  by_cases nonempty : 0 < w.length
  · have ending := evaluator.ends_run context state nonempty
    generalize (evaluator.run w context state).1 = outcome at ending ⊢
    cases ending with
    | halted path room halt =>
        obtain ⟨between', path'⟩ := path.transport alike state'
        obtain ⟨final', halt'⟩ := halt.transport alike between'
        have room' := path.room_of_not_revisits revisits sized other.ceilingFactor
        rw [(run_eq_iff_ends nonempty).mpr (.halted path' room' halt')]
        exact .reported _
    | broken path room breakage =>
        obtain ⟨between', path'⟩ := path.transport alike state'
        obtain ⟨final', breakage'⟩ := breakage.transport alike between'
        have room' := path.room_of_not_revisits revisits sized other.ceilingFactor
        rw [(run_eq_iff_ends nonempty).mpr (.broken path' room' breakage')]
        cases breakage with
        | stepFailed => exact .stepFailed _ _
        | malformedReference => exact .malformedReference _ _ _
    | exhausted path full =>
        -- Without a return there is always room for one more visit.
        have room := path.room_of_not_revisits revisits sized evaluator.ceilingFactor
        omega
  · rw [run_of_empty nonempty, run_of_empty nonempty]
    exact .reported _

/-- A completed walk that does not come back visits no index twice. -/
theorem Completes.nodup_of_not_revisits {state final : σ} {visits : List (Visit w.length)}
    {report : Report} (complete : evaluator.Completes w context state visits report final)
    (forward : ¬ evaluator.Revisits w context state) : (visits.map Visit.index).Nodup := by
  cases complete with
  | unvisited empty => exact List.nodup_nil
  | halted path halt =>
      rw [List.map_append]
      exact path.nodup_of_not_revisits forward

/-- Between memoryless policies the ceiling never decides a verdict.  Walks
that come back are exhausted under every ceiling and no others are, and a
reported walk has visited no index twice. -/
theorem run_ceiling_indifferent {executor : Executor σ} {condition : Condition σ}
    (executes : executor.Memoryless) (holds : condition.Memoryless) (w : Workflow)
    (sized : w.length < sizeLimit) (context : Context) (state state' : σ) (f g : Nat) :
    let evaluator : Evaluator σ := ⟨executor, condition, f⟩
    let other : Evaluator σ := ⟨executor, condition, g⟩
    SameVerdict (evaluator.run w context state).1 (other.run w context state').1 ∧
      ((∃ limit next,
          (evaluator.run w context state).1 = .error (.unboundedTraversal limit next)) ↔
        evaluator.Revisits w context state) ∧
      ∀ report, (evaluator.run w context state).1 = .ok report →
        ∃ visits final, evaluator.Completes w context state visits report final ∧
          (visits.map Visit.index).Nodup ∧ report.visited.length ≤ w.length := by
  intro evaluator other
  have alike : evaluator.Alike other := .of_memoryless executes holds f g
  have same : evaluator.Alike evaluator := .of_memoryless executes holds f f
  refine ⟨alike.sameVerdict sized state state', ?_, ?_⟩
  · constructor
    · rintro ⟨limit, next, unbounded⟩
      exact revisits_of_unbounded sized unbounded
    · intro revisits
      exact revisits.unbounded same state
  · intro report answered
    have forward : ¬ evaluator.Revisits w context state := by
      intro revisits
      obtain ⟨limit, next, unbounded⟩ := revisits.unbounded same state
      rw [answered] at unbounded
      cases unbounded
    obtain ⟨visits, complete, -⟩ := run_eq_ok_iff.mp (Prod.ext answered rfl)
    have distinct := complete.nodup_of_not_revisits forward
    refine ⟨visits, _, complete, distinct, ?_⟩
    have bound := distinct.length_le_card
    rw [List.length_map, Fintype.card_fin] at bound
    rw [complete.visited_eq, Workflow.namesOf, List.length_map]
    exact bound

/-- A script of one answer is a condition without memory, although it keeps a
log. -/
theorem scripted_singleton_memoryless (answer : Bool) :
    (Condition.scripted [answer]).Memoryless := by
  have constant (position : Nat) : scriptAnswer [answer] position = answer := by
    cases position <;> rfl
  intro step context state other
  exact (constant _).trans (constant _).symm

/-- A circle that is given up after two visits under the smallest ceiling is
given up under the largest as well, where the product saturates. -/
theorem retryForever_exhausted_saturated :
    (retryForever 0).executor.Memoryless ∧ (retryForever 0).condition.Memoryless ∧
      retryLoop.length < sizeLimit ∧
      (retryForever 0).run retryLoop .empty .empty =
        (.error (.unboundedTraversal 2 "step_1"), ⟨#["step_1", "step_2"], #["step_2"]⟩) ∧
      ∃ limit next, ((retryForever (sizeLimit - 1)).run retryLoop .empty .empty).1 =
        .error (.unboundedTraversal limit next) := by
  have executes : (retryForever 0).executor.Memoryless := fun _ _ _ _ => rfl
  have holds : (retryForever 0).condition.Memoryless := scripted_singleton_memoryless true
  have smallest : (retryForever 0).run retryLoop .empty .empty =
      (.error (.unboundedTraversal 2 "step_1"), ⟨#["step_1", "step_2"], #["step_2"]⟩) := rfl
  have verdict := (run_ceiling_indifferent executes holds retryLoop (by decide) .empty .empty
    .empty 0 (sizeLimit - 1)).1
  exact ⟨executes, holds, by decide, smallest, verdict.unbounded_right⟩

end Evaluator

end Stepwise
