/-
Module: Stepwise.Proofs.Walk.Raised
Purpose: What a higher ceiling changes in a run: nothing, unless the lower one
  was reached.
Main exports: Evaluator.withCeiling, Evaluator.run_withCeiling, Evaluator.Ends.raise,
  Transcript.Begins, Evaluator.run_raised
-/
import Stepwise.Proofs.Walk.Script

namespace Stepwise

/-!
The ceiling is compared with the number of visits and read nowhere else.  So two
runs that differ in their ceilings are one walk, cut off at two places, and a
walk that ends in front of the lower place notices neither of them.  A walk that
is cut off there goes on in the same state under the higher ceiling, where the
policies only add to the calls that they have received.
-/

/-- In both logs the calls are the first of the further ones. -/
structure Transcript.Begins (calls further : Transcript) : Prop where
  executed : calls.executed <+: further.executed
  asked : calls.asked <+: further.asked

/-- A greater factor never lowers the ceiling, also where a product saturates. -/
theorem visitCeiling_mono {f g : Nat} (raised : f ≤ g) (length : Nat) :
    visitCeiling f length ≤ visitCeiling g length := by
  have factors : max f 1 ≤ max g 1 := by omega
  have products := Nat.mul_le_mul_left length factors
  unfold visitCeiling
  omega

namespace Evaluator

variable {σ : Type} {evaluator : Evaluator σ} {w : Workflow} {context : Context}
  {invariant : σ → Prop}

/-- The same policies under another ceiling factor. -/
def withCeiling (evaluator : Evaluator σ) (ceilingFactor : Nat) : Evaluator σ :=
  { evaluator with ceilingFactor := ceilingFactor }

theorem observed_withCeiling (evaluator : Evaluator σ) (ceilingFactor : Nat) :
    (evaluator.withCeiling ceilingFactor).observed =
      evaluator.observed.withCeiling ceilingFactor :=
  rfl

/-- The recursion takes its bound from the number of visits that are left. -/
theorem walk_withCeiling (ceilingFactor limit left : Nat) (index : Fin w.length) (tally : Tally)
    (state : σ) :
    (evaluator.withCeiling ceilingFactor).walk w context limit left index tally state =
      evaluator.walk w context limit left index tally state := by
  induction left generalizing index tally state with
  | zero => rfl
  | succ left ih =>
      have leaves (step : Step) (state : σ) :
          (evaluator.withCeiling ceilingFactor).leave w context step state =
            evaluator.leave w context step state := rfl
      simp only [walk, leaves, ih]
      rfl

/-- A run under another factor is the walk of the same policies to another
ceiling. -/
theorem run_withCeiling (ceilingFactor : Nat) (nonempty : 0 < w.length) (state : σ) :
    (evaluator.withCeiling ceilingFactor).run w context state =
      evaluator.walk w context (visitCeiling ceilingFactor w.length)
        (visitCeiling ceilingFactor w.length) ⟨0, nonempty⟩ .start state := by
  simp only [run, dif_pos nonempty]
  exact walk_withCeiling ..

/-- An ending in front of the ceiling is an ending under every higher one. -/
theorem Ends.raise {limit limit' : Nat} {start : Fin w.length} {state final : σ}
    {outcome : Except WorkflowFault Report}
    (ending : evaluator.Ends w context limit start state outcome final) (raised : limit ≤ limit')
    (settled : ∀ bound next, outcome ≠ .error (.unboundedTraversal bound next)) :
    evaluator.Ends w context limit' start state outcome final := by
  cases ending with
  | halted path room halt => exact .halted path (Nat.lt_of_lt_of_le room raised) halt
  | broken path room breakage => exact .broken path (Nat.lt_of_lt_of_le room raised) breakage
  | exhausted path full => exact absurd rfl (settled _ _)

/-- A run that does not reach its ceiling is the run under every higher one. -/
theorem run_raised_of_settled {f g : Nat} (raised : f ≤ g) {state : σ}
    (settled : ∀ limit next, ((evaluator.withCeiling f).run w context state).1 ≠
      .error (.unboundedTraversal limit next)) :
    (evaluator.withCeiling g).run w context state =
      (evaluator.withCeiling f).run w context state := by
  by_cases nonempty : 0 < w.length
  · rw [run_withCeiling f nonempty] at settled ⊢
    rw [run_withCeiling g nonempty]
    exact walk_eq_iff_ends.mpr
      ((walk_eq_iff_ends.mp rfl).raise (visitCeiling_mono raised w.length) settled)
  · rw [run_of_empty nonempty, run_of_empty nonempty]

/-- What holds where a walk is exhausted, and what the policies preserve, holds
where the same walk ends under a higher ceiling. -/
theorem Keeps.raise (keeps : evaluator.Keeps context invariant) {limit limit' : Nat}
    {start : Fin w.length} {state final : σ} {bound : Nat} {next : String}
    (exhausted : evaluator.Ends w context limit start state
      (.error (.unboundedTraversal bound next)) final)
    (raised : limit ≤ limit') (reached : invariant final) :
    invariant (evaluator.walk w context limit' limit' start .start state).2 := by
  cases exhausted with
  | broken path room breakage => cases breakage
  | exhausted path full =>
      obtain ⟨left, rfl⟩ := Nat.exists_eq_add_of_le raised
      rw [← full, walk_of_path path]
      exact keeps.walk reached

/-- Observed policies keep what their logs begin with. -/
theorem observed_keeps_begins (evaluator : Evaluator σ) (context : Context)
    (calls : Transcript) :
    evaluator.observed.Keeps context fun state => calls.Begins state.2 := by
  refine ⟨?_, ?_⟩
  · intro step state begun
    exact ⟨begun.executed.trans (List.prefix_append _ _), begun.asked⟩
  · intro step state begun
    exact ⟨begun.executed, begun.asked.trans (List.prefix_append _ _)⟩

/-- The calls of a run that reaches its ceiling come first under every higher
one. -/
theorem calls_begin_of_unbounded {f g : Nat} (raised : f ≤ g) {state : σ} {limit : Nat}
    {next : String}
    (unbounded : ((evaluator.withCeiling f).run w context state).1 =
      .error (.unboundedTraversal limit next)) :
    ((evaluator.observed.withCeiling f).run w context (state, .empty)).2.2.Begins
      ((evaluator.observed.withCeiling g).run w context (state, .empty)).2.2 := by
  rw [run_observed _ w context state .empty, observed_withCeiling] at unbounded
  by_cases nonempty : 0 < w.length
  · rw [run_withCeiling f nonempty] at unbounded ⊢
    rw [run_withCeiling g nonempty]
    have exhausted := walk_eq_iff_ends.mp (Prod.ext unbounded rfl)
    exact (evaluator.observed_keeps_begins context _).raise exhausted
      (visitCeiling_mono raised w.length) ⟨List.prefix_refl _, List.prefix_refl _⟩
  · rw [run_of_empty nonempty] at unbounded
    cases unbounded

/-- The factor zero is as good as one. -/
theorem run_withCeiling_zero (evaluator : Evaluator σ) (w : Workflow) (context : Context)
    (state : σ) :
    (evaluator.withCeiling 0).run w context state =
      (evaluator.withCeiling 1).run w context state := by
  by_cases nonempty : 0 < w.length
  · rw [run_withCeiling 0 nonempty, run_withCeiling 1 nonempty]
    rfl
  · rw [run_of_empty nonempty, run_of_empty nonempty]

/-- A higher ceiling never changes a finished run.  Unless the lower ceiling is
reached, the outcome, the state of the policies and all their calls are the
same; and if it is, the calls up to there come first under the higher ceiling
too.  A factor of zero stands for one. -/
theorem run_raised (evaluator : Evaluator σ) {f g : Nat} (raised : f ≤ g) (w : Workflow)
    (context : Context) (state : σ) :
    let run (ceilingFactor : Nat) := (evaluator.withCeiling ceilingFactor).run w context state
    let calls (ceilingFactor : Nat) :=
      ((evaluator.withCeiling ceilingFactor).observed.run w context (state, .empty)).2.2
    ((∀ limit next, (run f).1 ≠ .error (.unboundedTraversal limit next)) →
        run g = run f ∧ calls g = calls f) ∧
      (∀ limit next, (run f).1 = .error (.unboundedTraversal limit next) →
        (calls f).Begins (calls g)) ∧
      run 0 = run 1 ∧ calls 0 = calls 1 := by
  intro run calls
  refine ⟨?_, ?_, evaluator.run_withCeiling_zero w context state, ?_⟩
  · intro settled
    refine ⟨run_raised_of_settled raised settled, ?_⟩
    have observed : ∀ limit next,
        ((evaluator.observed.withCeiling f).run w context (state, .empty)).1 ≠
          .error (.unboundedTraversal limit next) := by
      intro limit next unbounded
      apply settled limit next
      rw [show run f = _ from (evaluator.withCeiling f).run_observed w context state .empty]
      exact unbounded
    exact congrArg (fun after => after.2.2) (run_raised_of_settled raised observed)
  · intro limit next unbounded
    exact calls_begin_of_unbounded raised unbounded
  · have same := evaluator.observed.run_withCeiling_zero w context (state, .empty)
    exact congrArg (fun after => after.2.2) same

/-- Two visits are too few for the loop that is left at the fourth.  What is
called up to there comes first in the run with room for four, and further room
changes nothing in that run. -/
theorem run_retryOnce_raised :
    1 ≤ 2 ∧ 2 ≤ sizeLimit ∧
      ((retryOnce.withCeiling 1).run retryLoop .empty .empty).1 =
        .error (.unboundedTraversal 2 "step_1") ∧
      ((retryOnce.withCeiling 1).observed.run retryLoop .empty (.empty, .empty)).2.2.Begins
        ((retryOnce.withCeiling 2).observed.run retryLoop .empty (.empty, .empty)).2.2 ∧
      ((retryOnce.withCeiling 2).run retryLoop .empty .empty).2 =
        ⟨#["step_1", "step_2", "step_1", "step_2"], #["step_2", "step_2"]⟩ ∧
      (retryOnce.withCeiling sizeLimit).run retryLoop .empty .empty =
        (retryOnce.withCeiling 2).run retryLoop .empty .empty := by
  have lower : ((retryOnce.withCeiling 1).run retryLoop .empty .empty).1 =
      .error (.unboundedTraversal 2 "step_1") := rfl
  have settled (limit : Nat) (next : String) :
      ((retryOnce.withCeiling 2).run retryLoop .empty .empty).1 ≠
        .error (.unboundedTraversal limit next) := by
    intro unbounded
    cases unbounded
  have first := (run_raised retryOnce (f := 1) (g := 2) (by decide) retryLoop .empty .empty).2.1
  have second := (run_raised retryOnce (f := 2) (g := sizeLimit) (by decide) retryLoop .empty
    .empty).1
  exact ⟨by decide, by decide, lower, first 2 "step_1" lower, rfl, (second settled).1⟩

end Evaluator

end Stepwise
