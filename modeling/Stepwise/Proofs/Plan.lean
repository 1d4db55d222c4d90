/-
Module: Stepwise.Proofs.Plan
Purpose: Built workflows under the reference policies, and the plans of prompts.
Main exports: Concept.untilTerminal, Concept.earnings, Concept.kindReward_kind,
  Evaluator.reference_run_ofConcepts, Planner.plan_reference, Evaluator.run_ofConcepts
-/
import Stepwise.Plan
import Stepwise.Proofs.Concept.Evaluation
import Stepwise.Proofs.Walk.Reference

namespace Stepwise

/-!
The reference policies leave two reasons for a walk along a chain to end: a
terminal concept, or that no concept is left.  So which concepts are rewarded
can be read off the concepts, and so can how much each of them earns; and every
prompt has a plan.
-/

/-- The concepts up to the first terminal one, which is included. -/
def Concept.untilTerminal (concepts : List String) : List String :=
  concepts.take (concepts.findIdx (fun concept => kind concept = .terminal) + 1)

theorem Concept.untilTerminal_cons (concept : String) (rest : List String) :
    untilTerminal (concept :: rest) =
      concept :: if kind concept = .terminal then [] else untilTerminal rest := by
  unfold untilTerminal
  rw [List.findIdx_cons, List.take_succ_cons]
  split <;> simp_all

/-- They end with a terminal concept or with the last one, and no concept
before is terminal. -/
theorem Concept.exists_last_untilTerminal {concepts : List String} (nonempty : concepts ≠ []) :
    ∃ index concept, concepts[index]? = some concept ∧
      untilTerminal concepts = concepts.take index ++ [concept] ∧
      (∀ earlier ∈ concepts.take index, kind earlier ≠ .terminal) ∧
      (kind concept = .terminal ∨ index + 1 = concepts.length) := by
  induction concepts with
  | nil => exact absurd rfl nonempty
  | cons concept rest ih =>
      rw [untilTerminal_cons]
      by_cases final : kind concept = .terminal
      · exact ⟨0, concept, rfl, by simp [final], by simp, Or.inl final⟩
      cases rest with
      | nil => exact ⟨0, concept, rfl, by simp [final, untilTerminal], by simp, Or.inr rfl⟩
      | cons next others =>
          obtain ⟨index, last, here, upto, before, reason⟩ := ih (List.cons_ne_nil _ _)
          refine ⟨index + 1, last, here, ?_, ?_, ?_⟩
          · rw [if_neg final, upto]
            rfl
          · rw [List.take_succ_cons]
            exact List.forall_mem_cons.mpr ⟨final, before⟩
          · simpa using reason

/-- What a concept earns: a base that is the same for all, and a bonus by its
kind. -/
def Concept.earnings (concept : String) : Float :=
  0.1 +
    match kind concept with
    | .process => 0.2
    | .decision => 0.3
    | .terminal => 0.4

/-- The reference executor rewards the kind of a concept with its earnings. -/
theorem Concept.kindReward_kind (concept : String) :
    Executor.kindReward (kind concept) = earnings concept := by
  unfold earnings
  cases kind concept <;> rfl

theorem Concept.map_kindReward_kind (concepts : List String) :
    (concepts.map kind).map Executor.kindReward = concepts.map earnings := by
  rw [List.map_map]
  exact List.map_congr_left fun concept _ => kindReward_kind concept

namespace Evaluator

variable {σ : Type} {context : Context} {concepts : List String} {ceilingFactor : Nat}

/-- The reference policies pass every step that is not terminal. -/
theorem reference_passes {steps : List Step}
    (onward : ∀ kind ∈ steps.map Step.kind, kind ≠ .terminal) (state : σ) :
    (reference ceilingFactor).Passes context steps state
      ((steps.map Step.kind).map Executor.kindReward) state := by
  induction steps with
  | nil => exact .none
  | cons step steps ih =>
      obtain ⟨first, others⟩ := List.forall_mem_cons.mp onward
      exact .onward rfl (reference_clears first state) (ih others)

/-- The reference policies come to every concept with no terminal one in front
of it. -/
theorem reference_comesTo (ceilingFactor : Nat) (context : Context) {index : Nat}
    {concept : String} (here : concepts[index]? = some concept)
    (onward : ∀ earlier ∈ concepts.take index, Concept.kind earlier ≠ .terminal) (state : σ) :
    (reference ceilingFactor).ComesTo context concepts state index concept
      ((concepts.take index).map Concept.earnings) state := by
  have kinds : ((Workflow.ofConcepts concepts).steps.take index).map Step.kind =
      (concepts.take index).map Concept.kind := by
    rw [List.map_take, Workflow.map_kind_ofConcepts, List.map_take]
  refine { passes := ?_, here := here }
  rw [← Concept.map_kindReward_kind, ← kinds]
  apply reference_passes
  rw [kinds]
  exact List.forall_mem_map.mpr onward

/-- Under the reference policies a walk along a chain comes to the end of the
concepts up to the first terminal one, and reports on these. -/
theorem reference_run_ofConcepts (sized : concepts.length < sizeLimit) (ceilingFactor : Nat)
    (context : Context) (state : σ) :
    ∃ halt, (reference ceilingFactor).run (.ofConcepts concepts) context state =
      (.ok (.ofFirst (Concept.untilTerminal concepts).length
        ((Concept.untilTerminal concepts).map Concept.earnings) halt), state) := by
  by_cases empty : concepts = []
  · subst empty
    exact ⟨.empty, rfl⟩
  obtain ⟨index, concept, here, upto, onward, reason⟩ := Concept.exists_last_untilTerminal empty
  have arrival := reference_comesTo ceilingFactor context here onward state
  have count : (Concept.untilTerminal concepts).length = index + 1 := by
    rw [upto, List.length_append, List.length_take, Nat.min_eq_left arrival.lt.le]
    rfl
  have execution : (reference ceilingFactor).executor.execute
      (Concept.stepAt concepts.length index concept) context state =
        (.ok (Concept.earnings concept), state) := by
    rw [← Concept.kindReward_kind]
    rfl
  rw [count, upto, List.map_append]
  by_cases final : Concept.kind concept = .terminal
  · exact ⟨.terminal, (run_eq_iff_endsInChain sized).mpr (.terminal arrival execution final)⟩
  · have last := reason.resolve_left final
    exact ⟨.noNextStep, (run_eq_iff_endsInChain sized).mpr
      (.noNextStep arrival execution (reference_clears final state) last)⟩

end Evaluator

/-- The reference planner has a plan for every prompt, whatever its ceiling: the
concepts up to the first terminal one are rewarded. -/
theorem Planner.plan_reference {prompt : String}
    (sized : (Concept.ofPrompt prompt).length < sizeLimit) (ceilingFactor : Nat)
    (context : Context) :
    (Planner.reference ceilingFactor).plan prompt context () =
      (.ok
        { workflow := .ofPrompt prompt
          pseudocode := Pseudocode.render (.ofPrompt prompt)
          reward := ((Concept.untilTerminal (Concept.ofPrompt prompt)).map
            Concept.earnings).foldl (· + ·) 0.0 },
        ()) := by
  obtain ⟨halt, walked⟩ := Evaluator.reference_run_ofConcepts sized ceilingFactor context ()
  simp only [plan, reference, walked]
  rfl

namespace Evaluator

/-- A workflow built from concepts is walked along its chain, whatever the
policies do.  The walk ends at the first concept that is terminal, that is a
decision answered false, or that has none behind it, unless the executor fails
on the way; and nothing but the executor can make it fail.  So the reference
policies give a plan for every prompt, rewarded up to its first terminal
concept. -/
theorem run_ofConcepts (concepts : List String) (sized : concepts.length < sizeLimit)
    (context : Context) :
    (∀ {σ : Type} (evaluator : Evaluator σ) (state final : σ)
        (outcome : Except WorkflowFault Report),
      evaluator.run (.ofConcepts concepts) context state = (outcome, final) ↔
        evaluator.EndsInChain context concepts state outcome final) ∧
      (∀ {σ : Type} (evaluator : Evaluator σ) (state : σ) (fault : WorkflowFault),
        (evaluator.run (.ofConcepts concepts) context state).1 = .error fault →
          ∃ index cause, index < concepts.length ∧
            fault = .stepFailed (Step.nameOf (index + 1)) cause) ∧
      ∀ prompt, Concept.ofPrompt prompt = concepts →
        Plan.ofPrompt prompt context = .ok
          { workflow := .ofPrompt prompt
            pseudocode := Pseudocode.render (.ofPrompt prompt)
            reward := ((Concept.untilTerminal concepts).map Concept.earnings).foldl
              (· + ·) 0.0 } := by
  refine ⟨?_, ?_, ?_⟩
  · intro σ evaluator state final outcome
    exact run_eq_iff_endsInChain sized
  · intro σ evaluator state fault failed
    have ending := (run_eq_iff_endsInChain sized).mp (Prod.ext failed rfl)
    cases ending with
    | stepFailed arrival execution => exact ⟨_, _, arrival.lt, rfl⟩
  · rintro prompt rfl
    unfold Plan.ofPrompt
    rw [Planner.plan_reference sized]

/-- Rewards of one under the smallest ceiling, and a condition that is never
true. -/
def refusing : Evaluator CallLog :=
  { executor := .recorded fun _ _ => .ok 1.0
    condition := .scripted [false]
    ceilingFactor := 0 }

/-- The refused question ends the walk at the second of three concepts, and the
prompt of these concepts has a plan that goes on to the third. -/
theorem run_refusedChain :
    ["load", "ready?", "End"].length < sizeLimit ∧
      refusing.run (.ofConcepts ["load", "ready?", "End"]) .empty .empty =
        (.ok (.ofFirst 2 [1.0, 1.0] .conditionUnmet), ⟨#["step_1", "step_2"], #["step_2"]⟩) ∧
      Plan.ofPrompt "load\nready?\n\nEnd" .empty = .ok
        { workflow := .ofPrompt "load\nready?\n\nEnd"
          pseudocode := Pseudocode.render (.ofPrompt "load\nready?\n\nEnd")
          reward := 0.0 + (0.1 + 0.2) + (0.1 + 0.3) + (0.1 + 0.4) } := by
  obtain ⟨walked, -, planned⟩ := run_ofConcepts ["load", "ready?", "End"] (by decide) .empty
  refine ⟨by decide, (walked refusing .empty _ _).mpr ?_, planned _ (by decide)⟩
  have arrival : refusing.ComesTo .empty ["load", "ready?", "End"] .empty 1 "ready?" [1.0]
      ⟨#["step_1"], #[]⟩ :=
    { passes := .onward rfl (.process (by decide)) .none
      here := rfl }
  exact .conditionUnmet arrival rfl (by decide) rfl

end Evaluator

end Stepwise
