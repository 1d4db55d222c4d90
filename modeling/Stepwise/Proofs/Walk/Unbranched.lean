/-
Module: Stepwise.Proofs.Walk.Unbranched
Purpose: Walks through accepted workflows whose steps have at most one
  connection, against the list of reachable names.
Main exports: Evaluator.Path.exists_connected_route, Evaluator.Halts.not_mem_of_memoryless,
  Evaluator.visited_along_reachable
-/
import Stepwise.Proofs.Reachability.Unbranched
import Stepwise.Proofs.Walk.Ceiling
import Stepwise.Proofs.Walk.Validated

namespace Stepwise

/-!
Without branches the walk and the search follow the same connections in the same
order.  The walk may stop early, at a terminal step or a false answer, and it
may go round a circle as often as the policies let it; the search does neither.
A condition without memory cannot leave a circle that it has gone round once.
-/

/-- A condition without memory has one answer for a step. -/
theorem Condition.Memoryless.answer_eq {σ : Type} {condition : Condition σ}
    (holds : condition.Memoryless) {step : Step} {context : Context} {state other after after' : σ}
    {answer answer' : Bool} (first : condition.holds step context state = (answer, after))
    (second : condition.holds step context other = (answer', after')) : answer = answer' := by
  have same := holds step context state other
  rwa [first, second] at same

namespace Evaluator

variable {σ : Type} {evaluator : Evaluator σ} {w : Workflow} {context : Context}

/-- The indices of a path, its end included, are a chain of connections. -/
theorem Path.exists_connected_route {start last : Fin w.length} {state final : σ}
    {visits : List (Visit w.length)}
    (path : evaluator.Path w context start state visits last final) :
    ∃ route, start :: route = visits.map Visit.index ++ [last] ∧
      (start :: route).IsChain w.Connects := by
  have linked := path.isChain_links.imp fun _ _ link => link.connects
  cases path with
  | here => exact ⟨[], rfl, linked⟩
  | onward advance rest => exact ⟨_, rfl, linked⟩

/-- A condition without memory stops the walk at no step that the walk has left
before. -/
theorem Halts.not_mem_of_memoryless (holds : evaluator.condition.Memoryless)
    {start last : Fin w.length} {state before final : σ} {visits : List (Visit w.length)}
    {earned : Float} {reason : Halt}
    (halt : evaluator.Halts w context last before earned reason final)
    (path : evaluator.Path w context start state visits last before) :
    last ∉ visits.map Visit.index := by
  intro visited
  obtain ⟨between, earning, next, after, advance, -⟩ := path.leads_on visited
  cases advance with
  | goto execution clearance connection resolution =>
      cases halt with
      | terminal _ kind => exact clearance.kind_ne_terminal kind
      | conditionUnmet _ kind refusal =>
          cases clearance with
          | process process =>
              rw [process] at kind
              cases kind
          | decision _ answer => cases holds.answer_eq answer refusal
      | noNextStep _ _ unconnected =>
          rw [unconnected] at connection
          cases connection

/-- The report on a path and its last visit names the indices of the path. -/
theorem visited_ofVisits (visits : List (Visit w.length)) (last : Fin w.length) (earned : Float)
    (halt : Halt) :
    (Report.ofVisits w (visits ++ [⟨last, earned⟩]) halt).visited =
      (visits.map Visit.index ++ [last]).map fun index => (w.get index).name := by
  simp [Report.ofVisits, Workflow.namesOf]

/-- Without branches a reported walk and the reachable list go the same way.
One of the two begins with the other; it is the list that goes on, unless the
condition has a memory; and the two are equal if the walk stops for want of a
connection. -/
theorem visited_along_reachable (w : Workflow) (names : List String)
    (valid : w.validate = .ok names) (unbranched : w.Unbranched) (evaluator : Evaluator σ)
    (context : Context) (state : σ) (report : Report)
    (reported : (evaluator.run w context state).1 = .ok report) :
    (report.visited <+: names ∨ names <+: report.visited) ∧
      (evaluator.condition.Memoryless → report.visited <+: names) ∧
      (report.halt = .noNextStep → report.visited = names) := by
  by_cases nonempty : 0 < w.length
  · obtain ⟨targets, lengths, leads, rfl⟩ := Workflow.exists_explore_of_validate valid nonempty
    have short (index : Fin w.length) : (targets index).length ≤ 1 :=
      lengths index ▸ unbranched index
    have ending := evaluator.ends_run context state nonempty
    rw [reported] at ending
    cases ending with
    | @halted visits last before _ earned reason path room halt =>
        obtain ⟨route, cut, connected⟩ := path.exists_connected_route
        have linked := connected.imp fun source target => (leads source target).mpr
        rw [visited_ofVisits, ← cut]
        refine ⟨?_, ?_, ?_⟩
        · rcases Reachability.prefix_or_prefix_explore short linked with shorter | longer
          · exact Or.inl (shorter.map _)
          · exact Or.inr (longer.map _)
        · intro holds
          exact (Reachability.prefix_explore_of_new short linked cut
            (halt.not_mem_of_memoryless holds path)).map _
        · rintro ⟨⟩
          have unconnected : (w.get last).connections = [] := by
            cases halt with
            | noNextStep _ _ unconnected => exact List.head?_eq_none_iff.mp unconnected
          have deadEnd : targets last = [] := by
            rw [← List.length_eq_zero_iff, lengths, unconnected, List.length_nil]
          rw [Reachability.explore_eq_of_deadEnd short linked cut deadEnd]
  · have unlisted : names = [] :=
      List.length_eq_zero_iff.mp (by have := Workflow.length_le_of_validate valid; omega)
    rw [run_of_empty nonempty] at reported
    cases reported
    rw [unlisted]
    exact ⟨Or.inl (List.prefix_refl _), fun _ => List.prefix_refl _, fun _ => rfl⟩

/-- A way in that leads to a circle, which a decision may leave. -/
def lasso : Workflow :=
  { steps :=
      [{ name := "step_1", kind := .process, instruction := "load", connections := ["step_2"] },
        { name := "step_2", kind := .process, instruction := "try", connections := ["step_3"] },
        { name := "step_3", kind := .decision, instruction := "again?",
          connections := ["step_2"] }] }

/-- The circle is gone round once more than the search does, and only because
the condition remembers its first answer. -/
theorem lasso_visited_beyond_reachable :
    lasso.validate = .ok ["step_1", "step_2", "step_3"] ∧ lasso.Unbranched ∧
      ∃ report, (retryOnce.run lasso .empty .empty).1 = .ok report ∧
        report.visited = ["step_1", "step_2", "step_3", "step_2", "step_3"] ∧
        (report.visited <+: ["step_1", "step_2", "step_3"] ∨
          ["step_1", "step_2", "step_3"] <+: report.visited) ∧
        ¬ retryOnce.condition.Memoryless := by
  have valid : lasso.validate = .ok ["step_1", "step_2", "step_3"] := rfl
  have unbranched : lasso.Unbranched := by decide
  obtain ⟨report, reported, visited⟩ : ∃ report,
      (retryOnce.run lasso .empty .empty).1 = .ok report ∧
        report.visited = ["step_1", "step_2", "step_3", "step_2", "step_3"] := ⟨_, rfl, rfl⟩
  obtain ⟨comparable, remembered, -⟩ :=
    visited_along_reachable lasso _ valid unbranched retryOnce .empty .empty report reported
  refine ⟨valid, unbranched, report, reported, visited, comparable, ?_⟩
  intro holds
  have inside := (remembered holds).length_le
  rw [visited] at inside
  exact absurd inside (by decide)

end Evaluator

end Stepwise
