/-
Module: Stepwise.Proofs.Walk.Reference
Purpose: The walk of the reference policies, which the workflow alone decides.
Main exports: Workflow.Forward, Evaluator.reference_advances,
  Evaluator.reference_revisits_iff, Evaluator.reference_reports,
  Evaluator.nodup_visited
-/
import Stepwise.Proofs.Reachability.Acceptance
import Stepwise.Proofs.Walk.Ceiling
import Stepwise.Proofs.Walk.Validated

namespace Stepwise

/-!
The reference executor never fails and the reference condition is always true,
so nothing but a terminal step, a missing connection or one that leads nowhere
keeps the walk from moving on.  Its path is the route of links from the entry,
and the walk comes back exactly if that route repeats an index.
-/

/-- No route of links from the entry repeats an index. -/
def Workflow.Forward (w : Workflow) : Prop :=
  ∀ (nonempty : 0 < w.length) (route : List (Fin w.length)),
    (⟨0, nonempty⟩ :: route).IsChain w.Links → ((⟨0, nonempty⟩ : Fin w.length) :: route).Nodup

namespace Evaluator

variable {σ : Type} {w : Workflow} {context : Context} {ceilingFactor : Nat}

/-- The reference policies answer alike in all states. -/
theorem alike_reference (ceilingFactor other : Nat) :
    (reference ceilingFactor : Evaluator σ).Alike (reference other : Evaluator σ) :=
  { execute := fun _ _ _ _ => rfl
    holds := fun _ _ _ _ => rfl }

/-- Under the reference policies a step that is not terminal is cleared. -/
theorem reference_clears {step : Step} (kind : step.kind ≠ .terminal) (state : σ) :
    (reference ceilingFactor).Clears context step state state := by
  cases found : step.kind with
  | process => exact .process found
  | decision => exact .decision found rfl
  | terminal => exact absurd found kind

/-- Under the reference policies every link is followed. -/
theorem reference_advances {index next : Fin w.length} (link : w.Links index next) (state : σ) :
    (reference ceilingFactor).Advances w context index state
      (Executor.kindReward (w.get index).kind) next state := by
  obtain ⟨kind, reference, connection, resolution⟩ := link
  exact .goto rfl (reference_clears kind state) connection resolution

/-- A route of links is walked by the reference policies. -/
theorem reference_path {start : Fin w.length} {route : List (Fin w.length)}
    (linked : (start :: route).IsChain w.Links) (state : σ) :
    ∃ visits last, (reference ceilingFactor).Path w context start state visits last state ∧
      visits.map Visit.index ++ [last] = start :: route := by
  induction route generalizing start with
  | nil => exact ⟨[], start, .here, rfl⟩
  | cons next route ih =>
      obtain ⟨link, further⟩ := List.isChain_cons_cons.mp linked
      obtain ⟨visits, last, path, indices⟩ := ih further
      exact ⟨⟨start, _⟩ :: visits, last, .onward (reference_advances link state) path,
        by rw [List.map_cons, List.cons_append, indices]⟩

/-- The indices of a path begin with its start. -/
theorem Path.exists_route {evaluator : Evaluator σ} {start last : Fin w.length} {state final : σ}
    {visits : List (Visit w.length)}
    (path : evaluator.Path w context start state visits last final) :
    ∃ route, visits.map Visit.index ++ [last] = start :: route := by
  cases path with
  | here => exact ⟨[], rfl⟩
  | onward advance rest => exact ⟨_, rfl⟩

/-- The walk of the reference policies comes back exactly if a route of links
does. -/
theorem reference_revisits_iff (state : σ) :
    (reference ceilingFactor).Revisits w context state ↔ ¬ w.Forward := by
  constructor
  · rintro ⟨nonempty, visits, last, final, path, visited⟩ forward
    have linked := path.isChain_links
    obtain ⟨route, indices⟩ := path.exists_route
    rw [indices] at linked
    have distinct := forward nonempty route linked
    rw [← indices, List.nodup_append] at distinct
    exact distinct.2.2 last visited last (List.mem_singleton_self last) rfl
  · intro back
    unfold Workflow.Forward at back
    push Not at back
    obtain ⟨nonempty, route, linked, repeated⟩ := back
    obtain ⟨visits, last, path, indices⟩ := reference_path linked state
    rw [← indices] at repeated
    obtain ⟨behind, index, between, before, visited⟩ := path.revisits_of_not_nodup repeated
    exact ⟨nonempty, behind, index, between, before, visited⟩

/-- In an accepted workflow the reference policies report every walk that does
not come back. -/
theorem reference_reports {names : List String} (valid : w.validate = .ok names)
    (sized : w.length < sizeLimit) (forward : w.Forward) (ceilingFactor : Nat)
    (context : Context) (state : σ) :
    ∃ report, ((reference ceilingFactor).run w context state).1 = .ok report := by
  have onward : ¬ (reference ceilingFactor).Revisits w context state :=
    fun revisits => (reference_revisits_iff state).mp revisits forward
  by_cases nonempty : 0 < w.length
  · have ending := (reference ceilingFactor).ends_run context state nonempty
    generalize ((reference ceilingFactor).run w context state).1 = outcome at ending ⊢
    cases ending with
    | halted path room halt => exact ⟨_, rfl⟩
    | broken path room breakage =>
        obtain ⟨cause, rfl⟩ := breakage.stepFailed_of_validate valid
        cases breakage with
        | stepFailed execution => cases execution
    | exhausted path full =>
        have room := path.room_of_not_revisits onward sized ceilingFactor
        exact absurd full (Nat.ne_of_lt room)
  · rw [run_of_empty nonempty]
    exact ⟨_, rfl⟩

/-- A walk that does not come back names no step twice, if names are
positional. -/
theorem nodup_visited {evaluator : Evaluator σ} (named : w.Positional) {state : σ}
    (onward : ¬ evaluator.Revisits w context state) {report : Report}
    (reported : (evaluator.run w context state).1 = .ok report) : report.visited.Nodup := by
  obtain ⟨visits, complete, -⟩ := run_eq_ok_iff.mp (Prod.ext reported rfl)
  have distinct := (complete.nodup_of_not_revisits onward).map named.injective
  rw [complete.visited_eq, Workflow.namesOf]
  simpa [Function.comp_def] using distinct

end Evaluator

end Stepwise
