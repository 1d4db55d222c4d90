/-
Module: Stepwise.Proofs.Walk.Cycle
Purpose: The graph of first connections, the paths that come back in it, and
  what an exhausted walk says about it.
Main exports: Workflow.Links, Workflow.CycleFromEntry, Evaluator.Path.isChain_links,
  Evaluator.Path.split, Evaluator.Path.revisits_of_not_nodup, Evaluator.Revisits,
  Evaluator.unboundedTraversal_only_on_cycle
-/
import Mathlib.Data.Fintype.Card
import Mathlib.Data.List.Chain
import Mathlib.Logic.Relation
import Stepwise.Proofs.Walk.Transcript

namespace Stepwise

/-!
A walk can only move along first connections, so its paths are paths of a
graph that does not depend on the policies.  The policies decide how far a
path goes, and stateful ones may leave the same step differently each time;
but a path that is longer than the workflow has steps repeats an index, and
between the two visits the graph has a cycle.  The ceiling is never below the
number of steps, also where its product saturates, as long as the number of
steps is itself a size.  So an exhausted walk has always met a cycle.
-/

/-- The walk may move from `index` to `next`: the step is not terminal and its
first connection leads there. -/
def Workflow.Links (w : Workflow) (index next : Fin w.length) : Prop :=
  (w.get index).kind ≠ .terminal ∧
    ∃ reference, (w.get index).next? = some reference ∧ w.locate reference = .ok next

/-- Some index that can be reached from the entry can be reached from itself
again, over first connections of steps that are not terminal. -/
def Workflow.CycleFromEntry (w : Workflow) : Prop :=
  ∃ (nonempty : 0 < w.length) (index : Fin w.length),
    Relation.ReflTransGen w.Links ⟨0, nonempty⟩ index ∧ Relation.TransGen w.Links index index

/-- The ceiling leaves room for every step once. -/
theorem le_visitCeiling {length : Nat} (sized : length < sizeLimit) (ceilingFactor : Nat) :
    length ≤ visitCeiling ceilingFactor length := by
  have product : length ≤ length * max ceilingFactor 1 :=
    Nat.le_mul_of_pos_right length (by omega)
  unfold visitCeiling
  omega

namespace Evaluator

variable {σ : Type} {evaluator : Evaluator σ} {w : Workflow} {context : Context}

theorem Clears.kind_ne_terminal {step : Step} {state after : σ}
    (clearance : evaluator.Clears context step state after) : step.kind ≠ .terminal := by
  cases clearance with
  | process kind => simp [kind]
  | decision kind answer => simp [kind]

/-- A visit advances along a link. -/
theorem Advances.links {index next : Fin w.length} {state after : σ} {earned : Float}
    (advance : evaluator.Advances w context index state earned next after) :
    w.Links index next := by
  cases advance with
  | goto execution clearance connection resolution =>
      exact ⟨clearance.kind_ne_terminal, _, connection, resolution⟩

/-- Whatever a path arrives at can be reached over links. -/
theorem Path.reaches {start last : Fin w.length} {state final : σ}
    {visits : List (Visit w.length)}
    (path : evaluator.Path w context start state visits last final) :
    Relation.ReflTransGen w.Links start last := by
  induction path with
  | here => exact .refl
  | onward advance _rest ih => exact .head advance.links ih

/-- The indices of a path, its end included, are linked one to the next. -/
theorem Path.isChain_links {start last : Fin w.length} {state final : σ}
    {visits : List (Visit w.length)}
    (path : evaluator.Path w context start state visits last final) :
    (visits.map Visit.index ++ [last]).IsChain w.Links := by
  induction path with
  | here => exact .singleton _
  | onward advance rest ih =>
      cases rest with
      | here => exact .cons_cons advance.links (.singleton _)
      | onward _ _ => exact .cons_cons advance.links ih

/-- A path can be cut in front of any of its visits. -/
theorem Path.split {start last index : Fin w.length} {state final : σ}
    {visits : List (Visit w.length)}
    (path : evaluator.Path w context start state visits last final)
    (visited : index ∈ visits.map Visit.index) :
    ∃ behind earned ahead between, visits = behind ++ ⟨index, earned⟩ :: ahead ∧
      evaluator.Path w context start state behind index between ∧
      evaluator.Path w context index between (⟨index, earned⟩ :: ahead) last final := by
  induction path with
  | here => simp at visited
  | @onward first next last state between final earned visits advance rest ih =>
      rw [List.map_cons, List.mem_cons] at visited
      rcases visited with same | later
      · subst same
        exact ⟨[], earned, visits, state, rfl, .here, .onward advance rest⟩
      · obtain ⟨behind, earning, ahead, middle, cut, before, after⟩ := ih later
        exact ⟨⟨first, earned⟩ :: behind, earning, ahead, middle, by rw [cut]; rfl,
          .onward advance before, after⟩

/-- Every index of a path, its end included, is the end of a path. -/
theorem Path.upto {start last index : Fin w.length} {state final : σ}
    {visits : List (Visit w.length)}
    (path : evaluator.Path w context start state visits last final)
    (member : index ∈ visits.map Visit.index ++ [last]) :
    ∃ behind between, evaluator.Path w context start state behind index between := by
  rcases List.mem_append.mp member with visited | atEnd
  · obtain ⟨behind, earned, ahead, between, -, before, -⟩ := path.split visited
    exact ⟨behind, between, before⟩
  · rw [List.mem_singleton] at atEnd
    subst atEnd
    exact ⟨visits, final, path⟩

/-- A path whose indices are not all different has a first part that comes back
to an index it has visited. -/
theorem Path.revisits_of_not_nodup {start last : Fin w.length} {state final : σ}
    {visits : List (Visit w.length)}
    (path : evaluator.Path w context start state visits last final)
    (repeated : ¬ (visits.map Visit.index ++ [last]).Nodup) :
    ∃ behind index between, evaluator.Path w context start state behind index between ∧
      index ∈ behind.map Visit.index := by
  induction path with
  | here => simp at repeated
  | @onward first next last state between final earned visits advance rest ih =>
      by_cases later : (visits.map Visit.index ++ [last]).Nodup
      -- Nothing is repeated behind the first visit, so its own index is.
      · have again : first ∈ visits.map Visit.index ++ [last] := by
          by_contra new
          exact repeated (List.nodup_cons.mpr ⟨new, later⟩)
        obtain ⟨behind, middle, before⟩ := rest.upto again
        exact ⟨⟨first, earned⟩ :: behind, first, middle, .onward advance before, by simp⟩
      · obtain ⟨behind, index, middle, before, visited⟩ := ih later
        exact ⟨⟨first, earned⟩ :: behind, index, middle, .onward advance before,
          by simp only [List.map_cons]; exact List.mem_cons_of_mem first visited⟩

/-- As many visits as there are steps and one more index name an index twice. -/
theorem not_nodup_of_length_le {visits : List (Visit w.length)} (long : w.length ≤ visits.length)
    (last : Fin w.length) : ¬ (visits.map Visit.index ++ [last]).Nodup := by
  intro distinct
  have bound := distinct.length_le_card
  rw [Fintype.card_fin, List.length_append, List.length_map, List.length_singleton] at bound
  omega

/-- A path with as many visits as there are steps comes back: together with its
end it names more indices than there are. -/
theorem Path.revisits_of_length_le {start last : Fin w.length} {state final : σ}
    {visits : List (Visit w.length)}
    (path : evaluator.Path w context start state visits last final)
    (long : w.length ≤ visits.length) :
    ∃ behind index between, evaluator.Path w context start state behind index between ∧
      index ∈ behind.map Visit.index :=
  path.revisits_of_not_nodup (not_nodup_of_length_le long last)

/-- The walk from the entry, taken without a ceiling, comes back to an index
that it has visited. -/
def Revisits (evaluator : Evaluator σ) (w : Workflow) (context : Context) (state : σ) : Prop :=
  ∃ (nonempty : 0 < w.length) (visits : List (Visit w.length)) (last : Fin w.length) (final : σ),
    evaluator.Path w context ⟨0, nonempty⟩ state visits last final ∧
      last ∈ visits.map Visit.index

/-- A walk that comes back has gone through a cycle. -/
theorem Revisits.cycleFromEntry {state : σ} (revisits : evaluator.Revisits w context state) :
    w.CycleFromEntry := by
  obtain ⟨nonempty, visits, last, final, path, visited⟩ := revisits
  obtain ⟨behind, earned, ahead, between, -, before, after⟩ := path.split visited
  refine ⟨nonempty, last, before.reaches, ?_⟩
  cases after with
  | onward advance rest => exact .head' advance.links rest.reaches

/-- An exhausted walk has come back: the ceiling has room for more indices than
there are. -/
theorem revisits_of_unbounded (sized : w.length < sizeLimit) {state : σ} {limit : Nat}
    {next : String}
    (unbounded : (evaluator.run w context state).1 = .error (.unboundedTraversal limit next)) :
    evaluator.Revisits w context state := by
  obtain ⟨nonempty, visits, last, path, bound, full, -⟩ := path_of_unboundedTraversal unbounded
  have long : w.length ≤ visits.length := by
    rw [full, bound]
    exact le_visitCeiling sized _
  obtain ⟨behind, index, between, before, visited⟩ := path.revisits_of_length_le long
  exact ⟨nonempty, behind, index, between, before, visited⟩

/-- The transcript of an exhausted walk is its path. -/
theorem transcript_of_unbounded {state : σ} {limit : Nat} {next : String}
    (unbounded : (evaluator.run w context state).1 = .error (.unboundedTraversal limit next)) :
    ∃ (nonempty : 0 < w.length) (visits : List (Visit w.length)) (last : Fin w.length),
      evaluator.Path w context ⟨0, nonempty⟩ state visits last
          (evaluator.run w context state).2 ∧
        (evaluator.observed.run w context (state, .empty)).2.2.executed =
          visits.map (fun visit => (w.get visit.index, .ok visit.earned)) ∧
        next = (w.get last).name ∧
        limit = visitCeiling evaluator.ceilingFactor w.length ∧ visits.length = limit := by
  rw [evaluator.run_observed w context state .empty] at unbounded ⊢
  obtain ⟨nonempty, visits, last, path, bound, full, named⟩ :=
    path_of_unboundedTraversal unbounded
  obtain ⟨path, executed, -⟩ := Path.of_observed path
  exact ⟨nonempty, visits, last, path, executed, named, bound, full⟩

/-- A walk is only ever exhausted on a cycle, however the policies answer.
The log holds exactly the visits of a path, all of them successful, and as many
as the ceiling allows; the fault names the step in front of which the path
ends, which is not executed any more. -/
theorem unboundedTraversal_only_on_cycle (evaluator : Evaluator σ) (w : Workflow)
    (sized : w.length < sizeLimit) (context : Context) (state : σ) :
    let ceiling := visitCeiling evaluator.ceilingFactor w.length
    let run := evaluator.run w context state
    let observed := evaluator.observed.run w context (state, .empty)
    let calls := observed.2.2
    run = (observed.1, observed.2.1) ∧
      (∀ limit next, run.1 = .error (.unboundedTraversal limit next) →
        limit = ceiling ∧ calls.executed.length = limit ∧
          (∀ call ∈ calls.executed, ∃ earned, call.2 = .ok earned) ∧
          (∃ (nonempty : 0 < w.length) (visits : List (Visit w.length)) (last : Fin w.length),
            evaluator.Path w context ⟨0, nonempty⟩ state visits last run.2 ∧
              calls.executed = visits.map (fun visit => (w.get visit.index, .ok visit.earned)) ∧
              next = (w.get last).name) ∧
          w.CycleFromEntry) ∧
      (¬ w.CycleFromEntry →
        ∀ limit next, run.1 ≠ .error (.unboundedTraversal limit next)) ∧
      calls.executed.length ≤ ceiling ∧ calls.asked.length ≤ calls.executed.length := by
  intro ceiling run observed calls
  refine ⟨evaluator.run_observed w context state .empty, ?_, ?_,
    evaluator.calls_observed_le w context state⟩
  · intro limit next unbounded
    obtain ⟨nonempty, visits, last, path, executed, named, bound, full⟩ :=
      transcript_of_unbounded unbounded
    have executed : calls.executed =
        visits.map (fun visit => (w.get visit.index, .ok visit.earned)) := executed
    refine ⟨bound, ?_, ?_, ⟨nonempty, visits, last, path, executed, named⟩, ?_⟩
    · rw [executed, List.length_map, full]
    · intro call made
      rw [executed, List.mem_map] at made
      obtain ⟨visit, -, rfl⟩ := made
      exact ⟨visit.earned, rfl⟩
    · exact (revisits_of_unbounded sized unbounded).cycleFromEntry
  · intro acyclic limit next unbounded
    exact acyclic (revisits_of_unbounded sized unbounded).cycleFromEntry

/-- Rewards of one, and a condition that never leaves a loop. -/
def retryForever (ceilingFactor : Nat) : Evaluator CallLog :=
  { executor := .recorded fun _ _ => .ok 1.0
    condition := .scripted [true]
    ceilingFactor := ceilingFactor }

/-- The circle of two steps is walked three times, and the fault names the step
that would be the seventh. -/
theorem retryForever_exhausted :
    retryLoop.length < sizeLimit ∧
      ((retryForever 3).run retryLoop .empty .empty).1 =
        .error (.unboundedTraversal 6 "step_1") ∧
      ((retryForever 3).observed.run retryLoop .empty (.empty, .empty)).2.2.executed.length = 6 ∧
      retryLoop.CycleFromEntry := by
  have unbounded : ((retryForever 3).run retryLoop .empty .empty).1 =
      .error (.unboundedTraversal 6 "step_1") := rfl
  have account := unboundedTraversal_only_on_cycle (retryForever 3) retryLoop (by decide) .empty
    .empty
  obtain ⟨-, executed, -, -, cycle⟩ := account.2.1 6 "step_1" unbounded
  exact ⟨by decide, unbounded, executed, cycle⟩

end Evaluator

end Stepwise
