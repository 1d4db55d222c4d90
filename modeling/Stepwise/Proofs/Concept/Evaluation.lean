/-
Module: Stepwise.Proofs.Concept.Evaluation
Purpose: Walks along the chain of any concepts.
Main exports: Report.ofFirst, Evaluator.ComesTo, Evaluator.EndsInChain,
  Evaluator.run_eq_iff_endsInChain
-/
import Stepwise.Proofs.Concept.Chain

namespace Stepwise

/-!
A built workflow is linear, so its walks pass the first concepts and end at one
of them.  The reason is in that concept, in the answers of the policies to it,
or in its being the last one; the concepts behind it have no influence.
-/

/-- The report on a walk that executed the first `count` steps of a chain. -/
def Report.ofFirst (count : Nat) (earnings : List Float) (halt : Halt) : Report :=
  { reward := earnings.foldl (· + ·) 0.0
    visited := (List.range count).map fun index => Step.nameOf (index + 1)
    halt := halt }

namespace Evaluator

variable {σ : Type} {evaluator : Evaluator σ} {context : Context} {concepts : List String}

/-- The walk along a chain passes the steps in front of an index: each of them
is executed with success, none is terminal, and no decision among them is
answered false.  So it comes to the step of the concept at that index. -/
structure ComesTo (evaluator : Evaluator σ) (context : Context) (concepts : List String)
    (state : σ) (index : Nat) (concept : String) (earnings : List Float) (before : σ) : Prop where
  passes : evaluator.Passes context ((Workflow.ofConcepts concepts).steps.take index) state
    earnings before
  here : concepts[index]? = some concept

/-- The ways in which a walk along the chain of `concepts` ends. -/
inductive EndsInChain (evaluator : Evaluator σ) (context : Context) (concepts : List String)
    (state : σ) : Except WorkflowFault Report → σ → Prop where
  | unvisited (empty : concepts = []) :
      EndsInChain evaluator context concepts state (.ok .empty) state
  | terminal {index : Nat} {concept : String} {earnings : List Float} {before final : σ}
      {earned : Float}
      (arrival : evaluator.ComesTo context concepts state index concept earnings before)
      (execution : evaluator.executor.execute (Concept.stepAt concepts.length index concept)
        context before = (.ok earned, final))
      (kind : Concept.kind concept = .terminal) :
      EndsInChain evaluator context concepts state
        (.ok (.ofFirst (index + 1) (earnings ++ [earned]) .terminal)) final
  | conditionUnmet {index : Nat} {concept : String} {earnings : List Float}
      {before executed final : σ} {earned : Float}
      (arrival : evaluator.ComesTo context concepts state index concept earnings before)
      (execution : evaluator.executor.execute (Concept.stepAt concepts.length index concept)
        context before = (.ok earned, executed))
      (kind : Concept.kind concept = .decision)
      (answer : evaluator.condition.holds (Concept.stepAt concepts.length index concept)
        context executed = (false, final)) :
      EndsInChain evaluator context concepts state
        (.ok (.ofFirst (index + 1) (earnings ++ [earned]) .conditionUnmet)) final
  | noNextStep {index : Nat} {concept : String} {earnings : List Float}
      {before executed final : σ} {earned : Float}
      (arrival : evaluator.ComesTo context concepts state index concept earnings before)
      (execution : evaluator.executor.execute (Concept.stepAt concepts.length index concept)
        context before = (.ok earned, executed))
      (clearance : evaluator.Clears context (Concept.stepAt concepts.length index concept)
        executed final)
      (last : index + 1 = concepts.length) :
      EndsInChain evaluator context concepts state
        (.ok (.ofFirst (index + 1) (earnings ++ [earned]) .noNextStep)) final
  | stepFailed {index : Nat} {concept : String} {earnings : List Float} {before final : σ}
      {fault : StepFault}
      (arrival : evaluator.ComesTo context concepts state index concept earnings before)
      (execution : evaluator.executor.execute (Concept.stepAt concepts.length index concept)
        context before = (.error fault, final)) :
      EndsInChain evaluator context concepts state
        (.error (.stepFailed (Step.nameOf (index + 1)) fault)) final

theorem ofFirst_eq {index : Nat} (inside : index < (Workflow.ofConcepts concepts).length)
    (earnings : List Float) (halt : Halt) :
    Report.ofFirst (index + 1) earnings halt =
      { reward := earnings.foldl (· + ·) 0.0
        visited := ((Workflow.ofConcepts concepts).steps.take (index + 1)).map Step.name
        halt := halt } := by
  rw [(Workflow.positional_ofConcepts concepts).map_name_take inside]
  rfl

/-- The walk comes to an index if it passes the steps in front of it. -/
theorem Passes.comesTo {index : Fin (Workflow.ofConcepts concepts).length} {state before : σ}
    {earnings : List Float}
    (passes : evaluator.Passes context ((Workflow.ofConcepts concepts).steps.take index) state
      earnings before) :
    ∃ concept, evaluator.ComesTo context concepts state index concept earnings before ∧
      (Workflow.ofConcepts concepts).get index =
        Concept.stepAt concepts.length index concept := by
  obtain ⟨concept, here, step⟩ := Workflow.get_ofConcepts concepts index
  exact ⟨concept, { passes := passes, here := here }, step⟩

theorem ComesTo.lt {index : Nat} {concept : String} {state before : σ} {earnings : List Float}
    (arrival : evaluator.ComesTo context concepts state index concept earnings before) :
    index < concepts.length :=
  (List.getElem?_eq_some_iff.mp arrival.here).1

/-- The step that a walk comes to. -/
theorem ComesTo.get {index : Nat} {concept : String} {state before : σ} {earnings : List Float}
    (arrival : evaluator.ComesTo context concepts state index concept earnings before) :
    ∃ inside : index < (Workflow.ofConcepts concepts).length,
      (Workflow.ofConcepts concepts).get ⟨index, inside⟩ =
        Concept.stepAt concepts.length index concept := by
  have inside : index < (Workflow.ofConcepts concepts).length := by
    rw [Workflow.length_ofConcepts]
    exact arrival.lt
  obtain ⟨found, here, step⟩ := Workflow.get_ofConcepts concepts ⟨index, inside⟩
  obtain rfl : concept = found := Option.some.inj (arrival.here.symm.trans here)
  exact ⟨inside, step⟩

/-- Where the walk halts, the concept gives the reason. -/
theorem ComesTo.halted {index : Fin (Workflow.ofConcepts concepts).length} {concept : String}
    {state before final : σ} {earnings : List Float} {earned : Float} {reason : Halt}
    (arrival : evaluator.ComesTo context concepts state index concept earnings before)
    (halt : evaluator.Halts (.ofConcepts concepts) context index before earned reason final) :
    evaluator.EndsInChain context concepts state
      (.ok (.ofFirst (index + 1) (earnings ++ [earned]) reason)) final := by
  obtain ⟨inside, step⟩ := arrival.get
  cases halt with
  | terminal execution kind =>
      rw [step] at execution kind
      exact .terminal arrival execution kind
  | conditionUnmet execution kind answer =>
      rw [step] at execution kind answer
      exact .conditionUnmet arrival execution kind answer
  | noNextStep execution clearance unconnected =>
      rw [step] at execution clearance unconnected
      exact .noNextStep arrival execution clearance
        ((Concept.next?_stepAt_eq_none arrival.lt).mp unconnected)

/-- Where a concept gives a reason, the walk halts. -/
theorem EndsInChain.halts {state final : σ} {report : Report} (nonempty : concepts ≠ [])
    (ending : evaluator.EndsInChain context concepts state (.ok report) final) :
    ∃ index concept earnings before earned,
      evaluator.ComesTo context concepts state index concept earnings before ∧
        report = .ofFirst (index + 1) (earnings ++ [earned]) report.halt ∧
        ∃ inside, evaluator.Halts (.ofConcepts concepts) context ⟨index, inside⟩ before earned
          report.halt final := by
  cases ending with
  | unvisited empty => exact absurd empty nonempty
  | terminal arrival execution kind =>
      obtain ⟨inside, step⟩ := arrival.get
      rw [← step] at execution
      exact ⟨_, _, _, _, _, arrival, rfl, inside, .terminal execution (step ▸ kind)⟩
  | conditionUnmet arrival execution kind answer =>
      obtain ⟨inside, step⟩ := arrival.get
      rw [← step] at execution answer
      exact ⟨_, _, _, _, _, arrival, rfl, inside, .conditionUnmet execution (step ▸ kind) answer⟩
  | @noNextStep index concept _ _ _ _ _ arrival execution clearance last =>
      obtain ⟨inside, step⟩ := arrival.get
      have unconnected : (Concept.stepAt concepts.length index concept).next? = none :=
        (Concept.next?_stepAt_eq_none arrival.lt).mpr last
      rw [← step] at execution clearance unconnected
      exact ⟨_, _, _, _, _, arrival, rfl, inside, .noNextStep execution clearance unconnected⟩

/-- Where no concept stands, there is no walk. -/
theorem endsInChain_nil_iff {state final : σ} {outcome : Except WorkflowFault Report} :
    evaluator.EndsInChain context [] state outcome final ↔
      outcome = .ok .empty ∧ final = state := by
  constructor
  · intro ending
    cases ending with
    | unvisited => exact ⟨rfl, rfl⟩
    | terminal arrival | conditionUnmet arrival | noNextStep arrival | stepFailed arrival =>
        cases arrival.here
  · rintro ⟨rfl, rfl⟩
    exact .unvisited rfl

/-- A run of a built workflow ends in one of these ways. -/
theorem run_eq_iff_endsInChain (sized : concepts.length < sizeLimit) {state final : σ}
    {outcome : Except WorkflowFault Report} :
    evaluator.run (.ofConcepts concepts) context state = (outcome, final) ↔
      evaluator.EndsInChain context concepts state outcome final := by
  by_cases empty : concepts = []
  · subst empty
    rw [run_of_empty (by decide), endsInChain_nil_iff, Prod.mk.injEq]
    exact and_congr eq_comm eq_comm
  have length := Workflow.length_ofConcepts concepts
  have nonempty : 0 < (Workflow.ofConcepts concepts).length :=
    length ▸ List.length_pos_iff.mpr empty
  rw [run_eq_iff_of_linear (Workflow.linear_ofConcepts concepts) (length ▸ sized) nonempty]
  constructor
  · rintro ⟨index, earnings, before, passes, ending⟩
    obtain ⟨concept, arrival, step⟩ := passes.comesTo
    rcases ending with ⟨earned, reason, halt, rfl⟩ | ⟨fault, execution, rfl⟩
    · rw [← ofFirst_eq index.isLt]
      exact arrival.halted halt
    · rw [step] at execution ⊢
      exact .stepFailed arrival execution
  · intro ending
    cases outcome with
    | ok report =>
        obtain ⟨index, concept, earnings, before, earned, arrival, same, inside, halt⟩ :=
          ending.halts empty
        refine ⟨⟨index, inside⟩, earnings, before, arrival.passes, Or.inl ⟨_, _, halt, ?_⟩⟩
        rw [same, ofFirst_eq inside]
    | error fault =>
        cases ending with
        | stepFailed arrival execution =>
            obtain ⟨inside, step⟩ := arrival.get
            rw [← step] at execution
            exact ⟨_, _, _, arrival.passes, Or.inr ⟨_, execution, by rw [step]; rfl⟩⟩

end Evaluator

end Stepwise
