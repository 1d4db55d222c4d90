/-
Module: Stepwise.Proofs.Walk.Guarded
Purpose: Loops that a decision guards, and how many rounds a patience of so
  many true answers allows them.
Main exports: Workflow.Guarded, Workflow.decisionsOf, Evaluator.Path.cut,
  Evaluator.Path.decision_mem, Evaluator.Path.le_decisionsOf, Evaluator.run_of_guarded
-/
import Stepwise.Proofs.Walk.Cycle
import Stepwise.Proofs.Walk.Script

namespace Stepwise

/-!
In as many consecutive visits as there are steps a walk closes a cycle, if the
index behind them is counted as well.  Where every cycle passes through a
decision, each such window asks the condition at least once, and every question
on a path is answered true.  So a condition that cannot give `bound` true
answers in a row bounds the path by `bound` windows, and a ceiling with room for
that many windows is never reached.
-/

/-- Every cycle of links passes through a decision step. -/
def Workflow.Guarded (w : Workflow) : Prop :=
  ∀ (index : Fin w.length) (route : List (Fin w.length)),
    (index :: route ++ [index]).IsChain w.Links →
      ∃ guard ∈ index :: route, (w.get guard).kind = .decision

/-- The visits of decision steps among the given ones. -/
def Workflow.decisionsOf (w : Workflow) (visits : List (Visit w.length)) :
    List (Visit w.length) :=
  visits.filter fun visit => (w.get visit.index).kind = .decision

theorem Workflow.decisionsOf_append {w : Workflow} (done more : List (Visit w.length)) :
    w.decisionsOf (done ++ more) = w.decisionsOf done ++ w.decisionsOf more :=
  List.filter_append ..

/-- A product that is a size is not cut short by the ceiling. -/
theorem mul_le_visitCeiling {length ceilingFactor : Nat}
    (sized : length * ceilingFactor < sizeLimit) :
    length * ceilingFactor ≤ visitCeiling ceilingFactor length :=
  le_min (Nat.mul_le_mul_left length (Nat.le_max_left ceilingFactor 1)) (Nat.le_pred_of_lt sized)

/-- A list that repeats an element comes back to it. -/
theorem exists_return_of_not_nodup {α : Type} {route : List α} (repeated : ¬ route.Nodup) :
    ∃ behind element round ahead, route = behind ++ (element :: round ++ [element]) ++ ahead := by
  rw [List.nodup_iff_sublist] at repeated
  push Not at repeated
  obtain ⟨element, twice⟩ := repeated
  obtain ⟨front, back, rfl, first, second⟩ := List.cons_sublist_iff.mp twice
  obtain ⟨behind, between, rfl⟩ := List.append_of_mem first
  obtain ⟨further, ahead, rfl⟩ := List.append_of_mem (List.singleton_sublist.mp second)
  exact ⟨behind, element, between ++ further, ahead, by simp⟩

namespace Evaluator

variable {σ : Type} {evaluator : Evaluator σ} {w : Workflow} {context : Context}

/-! ### Windows of a path -/

/-- A path can be cut behind any number of its visits. -/
theorem Path.cut {start last : Fin w.length} {state final : σ} {visits : List (Visit w.length)}
    (path : evaluator.Path w context start state visits last final) (count : Nat) :
    ∃ middle between,
      evaluator.Path w context start state (visits.take count) middle between ∧
        evaluator.Path w context middle between (visits.drop count) last final := by
  induction path generalizing count with
  | here => exact ⟨_, _, by rw [List.take_nil]; exact .here, by rw [List.drop_nil]; exact .here⟩
  | onward advance rest ih =>
      cases count with
      | zero => exact ⟨_, _, .here, .onward advance rest⟩
      | succ count =>
          obtain ⟨middle, between, before, after⟩ := ih count
          exact ⟨middle, between, .onward advance before, after⟩

/-- As many visits as there are steps include one of a decision. -/
theorem Path.decision_mem (guarded : w.Guarded) {start last : Fin w.length} {state final : σ}
    {visits : List (Visit w.length)}
    (path : evaluator.Path w context start state visits last final)
    (long : w.length ≤ visits.length) :
    ∃ visit ∈ visits, (w.get visit.index).kind = .decision := by
  obtain ⟨behind, index, round, ahead, whole⟩ :=
    exists_return_of_not_nodup (not_nodup_of_length_le long last)
  have linked := path.isChain_links
  rw [whole] at linked
  obtain ⟨guard, onCycle, kind⟩ :=
    guarded index round linked.left_of_append.right_of_append
  -- The end of the path is not on the way round, only at its close.
  have before : guard ∈ visits.map Visit.index := by
    have cycle : behind ++ (index :: round) <+: visits.map Visit.index ++ [last] :=
      ⟨index :: ahead, by rw [whole]; simp⟩
    have front : behind ++ (index :: round) <+: visits.map Visit.index := by
      refine List.prefix_of_prefix_length_le cycle (List.prefix_append _ _) ?_
      have length := congrArg List.length whole
      simp only [List.length_append, List.length_cons, List.length_nil] at length ⊢
      omega
    exact front.subset (List.mem_append_right behind onCycle)
  obtain ⟨visit, visited, rfl⟩ := List.mem_map.mp before
  exact ⟨visit, visited, kind⟩

/-- Every window of a path holds a decision.  The induction is on the windows,
each cut off the front of the path. -/
theorem Path.le_decisionsOf (guarded : w.Guarded) {start last : Fin w.length} {state final : σ}
    {visits : List (Visit w.length)}
    (path : evaluator.Path w context start state visits last final) {windows : Nat}
    (long : windows * w.length ≤ visits.length) : windows ≤ (w.decisionsOf visits).length := by
  induction windows generalizing start state visits with
  | zero => exact Nat.zero_le _
  | succ windows ih =>
      rw [Nat.succ_mul] at long
      obtain ⟨middle, between, window, rest⟩ := path.cut w.length
      obtain ⟨visit, visited, kind⟩ := window.decision_mem guarded (by
        rw [List.length_take]
        omega)
      have first : 0 < (w.decisionsOf (visits.take w.length)).length :=
        List.length_pos_of_mem (List.mem_filter.mpr ⟨visited, by simp [kind]⟩)
      have others := ih rest (by
        rw [List.length_drop]
        omega)
      have total : (w.decisionsOf visits).length =
          (w.decisionsOf (visits.take w.length)).length +
            (w.decisionsOf (visits.drop w.length)).length := by
        rw [← List.length_append, ← Workflow.decisionsOf_append, List.take_append_drop]
      omega

/-- A path of a run whose questions are soon answered false is short. -/
theorem Path.length_lt_of_falseWithin (guarded : w.Guarded) {start last : Fin w.length}
    {state : σ} {before : σ × Transcript} {visits : List (Visit w.length)} {calls : Transcript}
    {bound : Nat}
    (path : evaluator.observed.Path w context start (state, .empty) visits last before)
    (asked : before.2.asked <+: calls.asked) (answered : calls.FalseWithin bound) :
    visits.length < bound * w.length := by
  by_contra long
  have many := path.le_decisionsOf guarded (Nat.le_of_not_lt long)
  obtain ⟨-, -, questions⟩ := Path.of_observed path
  rw [Transcript.empty, List.nil_append] at questions
  have enough : bound ≤ before.2.asked.length := by
    rw [questions, List.length_map]
    exact many
  obtain ⟨further, asked⟩ := asked
  obtain ⟨call, among, refused⟩ := answered (by
    rw [← asked, List.length_append]
    omega)
  -- The first `bound` questions are all questions of the path.
  rw [← asked, List.take_append_of_le_length enough, questions] at among
  obtain ⟨visit, -, rfl⟩ := List.mem_map.mp (List.mem_of_mem_take among)
  cases refused

/-- The questions asked along a path come first in the log of a run that halts
behind it. -/
theorem Halts.asked_prefix {index : Fin w.length} {before after : σ × Transcript} {earned : Float}
    {reason : Halt}
    (halt : evaluator.observed.Halts w context index before earned reason after) :
    before.2.asked <+: after.2.asked := by
  obtain ⟨-, -, answer, asked⟩ := Halts.of_observed halt
  rw [asked]
  exact List.prefix_append _ _

/-- Loops that a decision guards are left in time.  Where every cycle passes
through a decision and one of the first `bound` answers is false, a ceiling
factor of `bound` is never used up, and a reported walk has made at most
`bound` rounds. -/
theorem run_of_guarded (evaluator : Evaluator σ) (w : Workflow) (guarded : w.Guarded)
    (bound : Nat) (factor : bound ≤ evaluator.ceilingFactor)
    (sized : w.length * evaluator.ceilingFactor < sizeLimit) (context : Context) (state : σ)
    (answered : (evaluator.observed.run w context (state, .empty)).2.2.FalseWithin bound) :
    (∀ limit next,
        (evaluator.run w context state).1 ≠ .error (.unboundedTraversal limit next)) ∧
      ∀ report, (evaluator.run w context state).1 = .ok report →
        report.visited.length ≤ bound * w.length := by
  rw [evaluator.run_observed w context state .empty]
  by_cases nonempty : 0 < w.length
  · have ending := evaluator.observed.ends_run context (state, .empty) nonempty
    generalize evaluator.observed.run w context (state, .empty) = run at ending answered ⊢
    obtain ⟨outcome, after⟩ := run
    cases ending with
    | halted path room halt =>
        have short := path.length_lt_of_falseWithin guarded halt.asked_prefix answered
        constructor
        · intro limit next failed
          cases failed
        · rintro report ⟨⟩
          simp only [Report.ofVisits, Workflow.namesOf, List.length_map, List.length_append,
            List.length_singleton]
          exact short
    | broken path room breakage =>
        constructor
        · rintro limit next ⟨⟩
          cases breakage
        · intro report reported
          cases reported
    | exhausted path full =>
        -- The path is as long as the ceiling, which is `bound` rounds at least.
        have short := path.length_lt_of_falseWithin guarded (List.prefix_refl _) answered
        have rounds := Nat.mul_le_mul_left w.length factor
        have ceiling := mul_le_visitCeiling sized
        rw [full, Nat.mul_comm] at short
        exact absurd (rounds.trans ceiling) (Nat.not_le_of_lt short)
  · rw [run_of_empty nonempty]
    constructor
    · intro limit next failed
      cases failed
    · rintro report ⟨⟩
      exact Nat.zero_le _

/-- The first step of the loop leads to the decision, so every cycle passes
through it. -/
theorem retryLoop_guarded : retryLoop.Guarded := by
  have onward {next : Fin retryLoop.length} (link : retryLoop.Links ⟨0, by decide⟩ next) :
      next = ⟨1, by decide⟩ := by
    obtain ⟨-, reference, ⟨⟩, leads⟩ := link
    have located : retryLoop.locate "step_2" = .ok ⟨1, by decide⟩ := rfl
    rw [located] at leads
    cases leads
    rfl
  intro index route cycle
  match index with
  | ⟨1, _⟩ => exact ⟨_, List.mem_cons_self, rfl⟩
  | ⟨0, _⟩ =>
      cases route with
      | nil => cases onward (List.isChain_pair.mp cycle)
      | cons next route =>
          have same := onward (List.isChain_cons_cons.mp cycle).1
          exact ⟨next, by simp, by rw [same]; rfl⟩

/-- Rewards by kind, a script with one true answer, and room for two rounds. -/
def retryScript : Evaluator (Unit × CallLog) :=
  { executor := Executor.typeBonus.onFirst
    condition := (Condition.scripted [true, false]).onSecond
    ceilingFactor := 2 }

/-- A script of two answers needs room for two rounds and gets no more: the
walk is reported at the last of the four visits that the ceiling allows. -/
theorem run_retryScript_reported :
    retryLoop.Guarded ∧ 2 ≤ retryScript.ceilingFactor ∧
      retryLoop.length * retryScript.ceilingFactor < sizeLimit ∧
      (retryScript.observed.run retryLoop .empty (((), .empty), .empty)).2.2.FalseWithin 2 ∧
      visitCeiling retryScript.ceilingFactor retryLoop.length = 4 ∧
      ∃ report, (retryScript.run retryLoop .empty ((), .empty)).1 = .ok report ∧
        report.visited.length = 4 ∧ report.visited.length ≤ 2 * retryLoop.length := by
  have script : retryScript.FollowsScript [true, false] fun state => state.2.asked.size :=
    followsScript_apart _ _ _
  have answered :
      (retryScript.observed.run retryLoop .empty (((), .empty), .empty)).2.2.FalseWithin 2 :=
    script.falseWithin rfl retryLoop .empty rfl
  have bounded := (run_of_guarded retryScript retryLoop retryLoop_guarded 2 (by decide)
    (by decide) .empty ((), .empty) answered).2
  exact ⟨retryLoop_guarded, by decide, by decide, answered, by decide, _, rfl, rfl,
    bounded _ rfl⟩

end Evaluator

end Stepwise
