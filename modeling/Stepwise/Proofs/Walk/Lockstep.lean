/-
Module: Stepwise.Proofs.Walk.Lockstep
Purpose: Walks through two workflows of one length that look alike wherever the
  first of them comes.
Main exports: Step.Counterpart, Evaluator.ReadsFaces, Transcript.faces,
  Evaluator.ReadsFaces.observed, Evaluator.Path.lockstep, Evaluator.run_lockstep
-/
import Stepwise.Proofs.Walk.Cycle

namespace Stepwise

/-!
A policy is handed whole steps, and a step carries its connections.  Policies
that read no more of a step than its face cannot tell two workflows apart by
them, so the walks differ only if the steps they arrive at have different faces
or lead elsewhere.  References are resolved by position, which makes the length
of the workflow the only other thing that a walk depends on.

Such policies may still keep whole steps, in a log for instance.  Their states
then differ in what is never read, and the relation `Agree` says what may
differ.
-/

/-- The step shows the same face as the other one and, unless it is terminal,
leads on by the same connection. -/
structure Step.Counterpart (step step' : Step) : Prop where
  face : step.face = step'.face
  next : step.kind ≠ .terminal → step.next? = step'.next?

theorem Step.Counterpart.name {step step' : Step} (same : step.Counterpart step') :
    step.name = step'.name :=
  congrArg Face.name same.face

theorem Step.Counterpart.kind {step step' : Step} (same : step.Counterpart step') :
    step.kind = step'.kind :=
  congrArg Face.kind same.face

/-- The calls of a transcript, without the connections of the steps. -/
def Transcript.faces (calls : Transcript) :
    List (Step.Face × Except StepFault Float) × List (Step.Face × Bool) :=
  (calls.executed.map fun call => (call.1.face, call.2),
    calls.asked.map fun call => (call.1.face, call.2))

/-- The visit in another workflow of the same length. -/
def Visit.cast {length length' : Nat} (same : length = length') (visit : Visit length) :
    Visit length' :=
  { index := visit.index.cast same
    earned := visit.earned }

/-- A reference leads to the same place in every workflow of one length. -/
theorem Workflow.locate_cast {w w' : Workflow} (same : w.length = w'.length)
    (reference : String) : w'.locate reference = (w.locate reference).map (Fin.cast same) := by
  unfold locate
  rcases Step.ordinal? reference with _ | _ | index
  · rfl
  · rfl
  · by_cases inside : index < w.length
    · simp only [inside, same ▸ inside, dif_pos]
      rfl
    · simp only [inside, same ▸ inside, dif_neg, not_false_eq_true]
      rfl

namespace Evaluator

variable {σ : Type} {evaluator : Evaluator σ} {Agree : σ → σ → Prop} {w w' : Workflow}
  {context : Context}

/-- The policies read no more of a step than its face: for steps of one face
and states that agree they give the same answer, and the states agree again. -/
structure ReadsFaces (evaluator : Evaluator σ) (Agree : σ → σ → Prop) : Prop where
  execute : ∀ {step step' : Step} (context : Context) {state state' : σ},
    step.face = step'.face → Agree state state' →
      (evaluator.executor.execute step context state).1 =
          (evaluator.executor.execute step' context state').1 ∧
        Agree (evaluator.executor.execute step context state).2
          (evaluator.executor.execute step' context state').2
  holds : ∀ {step step' : Step} (context : Context) {state state' : σ},
    step.face = step'.face → Agree state state' →
      (evaluator.condition.holds step context state).1 =
          (evaluator.condition.holds step' context state').1 ∧
        Agree (evaluator.condition.holds step context state).2
          (evaluator.condition.holds step' context state').2

/-- Observed states that agree and whose logs are equal up to connections. -/
def AgreeInFaces (Agree : σ → σ → Prop) (state state' : σ × Transcript) : Prop :=
  Agree state.1 state'.1 ∧ state.2.faces = state'.2.faces

/-- Observation reads no more of a step than the policies do. -/
theorem ReadsFaces.observed (reads : evaluator.ReadsFaces Agree) :
    evaluator.observed.ReadsFaces (AgreeInFaces Agree) := by
  refine ⟨?_, ?_⟩
  · rintro step step' context state state' face ⟨agree, logs⟩
    obtain ⟨answer, agree⟩ := reads.execute context face agree
    obtain ⟨executed, asked⟩ := Prod.mk.inj logs
    refine ⟨answer, agree, ?_⟩
    simp only [Evaluator.observed, Transcript.faces, List.map_append, List.map_cons,
      List.map_nil, executed, asked, face, answer]
  · rintro step step' context state state' face ⟨agree, logs⟩
    obtain ⟨answer, agree⟩ := reads.holds context face agree
    obtain ⟨executed, asked⟩ := Prod.mk.inj logs
    refine ⟨answer, agree, ?_⟩
    simp only [Evaluator.observed, Transcript.faces, List.map_append, List.map_cons,
      List.map_nil, executed, asked, face, answer]

/-! ### Single visits -/

theorem ReadsFaces.executed (reads : evaluator.ReadsFaces Agree) {step step' : Step}
    (face : step.face = step'.face) {state state' after : σ} (agree : Agree state state')
    {answer : Except StepFault Float}
    (execution : evaluator.executor.execute step context state = (answer, after)) :
    ∃ after', evaluator.executor.execute step' context state' = (answer, after') ∧
      Agree after after' := by
  obtain ⟨same, agree⟩ := reads.execute context face agree
  rw [execution] at same agree
  exact ⟨(evaluator.executor.execute step' context state').2, Prod.ext same.symm rfl, agree⟩

theorem ReadsFaces.asked (reads : evaluator.ReadsFaces Agree) {step step' : Step}
    (face : step.face = step'.face) {state state' after : σ} (agree : Agree state state')
    {answer : Bool}
    (question : evaluator.condition.holds step context state = (answer, after)) :
    ∃ after', evaluator.condition.holds step' context state' = (answer, after') ∧
      Agree after after' := by
  obtain ⟨same, agree⟩ := reads.holds context face agree
  rw [question] at same agree
  exact ⟨(evaluator.condition.holds step' context state').2, Prod.ext same.symm rfl, agree⟩

theorem Clears.lockstep (reads : evaluator.ReadsFaces Agree) {step step' : Step}
    (same : step.Counterpart step') {state state' after : σ} (agree : Agree state state')
    (clearance : evaluator.Clears context step state after) :
    ∃ after', evaluator.Clears context step' state' after' ∧ Agree after after' := by
  cases clearance with
  | process kind => exact ⟨state', .process (same.kind ▸ kind), agree⟩
  | decision kind answer =>
      obtain ⟨after', answer, agree⟩ := reads.asked same.face agree answer
      exact ⟨after', .decision (same.kind ▸ kind) answer, agree⟩

theorem Advances.lockstep (reads : evaluator.ReadsFaces Agree) (length : w.length = w'.length)
    {index next : Fin w.length} (same : (w.get index).Counterpart (w'.get (index.cast length)))
    {state state' after : σ} (agree : Agree state state') {earned : Float}
    (advance : evaluator.Advances w context index state earned next after) :
    ∃ after', evaluator.Advances w' context (index.cast length) state' earned
        (next.cast length) after' ∧ Agree after after' := by
  cases advance with
  | goto execution clearance connection resolution =>
      obtain ⟨executed', execution, agree⟩ := reads.executed same.face agree execution
      obtain ⟨after', cleared, agree⟩ := clearance.lockstep reads same agree
      rw [same.next clearance.kind_ne_terminal] at connection
      refine ⟨after', .goto execution cleared connection ?_, agree⟩
      rw [Workflow.locate_cast length, resolution]
      rfl

theorem Halts.lockstep (reads : evaluator.ReadsFaces Agree) (length : w.length = w'.length)
    {index : Fin w.length} (same : (w.get index).Counterpart (w'.get (index.cast length)))
    {state state' after : σ} (agree : Agree state state') {earned : Float} {reason : Halt}
    (halt : evaluator.Halts w context index state earned reason after) :
    ∃ after', evaluator.Halts w' context (index.cast length) state' earned reason after' ∧
      Agree after after' := by
  cases halt with
  | terminal execution kind =>
      obtain ⟨after', execution, agree⟩ := reads.executed same.face agree execution
      exact ⟨after', .terminal execution (same.kind ▸ kind), agree⟩
  | conditionUnmet execution kind answer =>
      obtain ⟨executed', execution, agree⟩ := reads.executed same.face agree execution
      obtain ⟨after', answer, agree⟩ := reads.asked same.face agree answer
      exact ⟨after', .conditionUnmet execution (same.kind ▸ kind) answer, agree⟩
  | noNextStep execution clearance unconnected =>
      obtain ⟨executed', execution, agree⟩ := reads.executed same.face agree execution
      obtain ⟨after', cleared, agree⟩ := clearance.lockstep reads same agree
      rw [same.next clearance.kind_ne_terminal] at unconnected
      exact ⟨after', .noNextStep execution cleared unconnected, agree⟩

theorem Breaks.lockstep (reads : evaluator.ReadsFaces Agree) (length : w.length = w'.length)
    {index : Fin w.length} (same : (w.get index).Counterpart (w'.get (index.cast length)))
    {state state' after : σ} (agree : Agree state state') {fault : WorkflowFault}
    (breakage : evaluator.Breaks w context index state fault after) :
    ∃ after', evaluator.Breaks w' context (index.cast length) state' fault after' ∧
      Agree after after' := by
  cases breakage with
  | stepFailed execution =>
      obtain ⟨after', execution, agree⟩ := reads.executed same.face agree execution
      rw [same.name]
      exact ⟨after', .stepFailed execution, agree⟩
  | malformedReference execution clearance connection resolution =>
      obtain ⟨executed', execution, agree⟩ := reads.executed same.face agree execution
      obtain ⟨after', cleared, agree⟩ := clearance.lockstep reads same agree
      rw [same.next clearance.kind_ne_terminal] at connection
      rw [same.name]
      refine ⟨after', .malformedReference execution cleared connection ?_, agree⟩
      rw [Workflow.locate_cast length, resolution]
      rfl

/-! ### Whole walks -/

theorem Path.lockstep (reads : evaluator.ReadsFaces Agree) (length : w.length = w'.length)
    {start last : Fin w.length} {state final : σ} {visits : List (Visit w.length)}
    (path : evaluator.Path w context start state visits last final)
    (same : ∀ visit ∈ visits,
      (w.get visit.index).Counterpart (w'.get (visit.index.cast length)))
    {state' : σ} (agree : Agree state state') :
    ∃ final', evaluator.Path w' context (start.cast length) state'
        (visits.map (Visit.cast length)) (last.cast length) final' ∧ Agree final final' := by
  induction path generalizing state' with
  | here => exact ⟨state', .here, agree⟩
  | onward advance _rest ih =>
      obtain ⟨first, others⟩ := List.forall_mem_cons.mp same
      obtain ⟨between', advance, agree⟩ := advance.lockstep reads length first agree
      obtain ⟨final', rest, agree⟩ := ih others agree
      exact ⟨final', .onward advance rest, agree⟩

/-- Reports on the same visits are the same if the steps have the same names. -/
theorem ofVisits_cast (length : w.length = w'.length) (visits : List (Visit w.length))
    (same : ∀ visit ∈ visits,
      (w.get visit.index).name = (w'.get (visit.index.cast length)).name) (halt : Halt) :
    Report.ofVisits w' (visits.map (Visit.cast length)) halt = Report.ofVisits w visits halt := by
  simp only [Report.ofVisits, Workflow.namesOf, List.map_map, Report.mk.injEq, and_true]
  exact ⟨rfl, List.map_congr_left fun visit visited => (same visit visited).symm⟩

/-- Two workflows of one length end alike if every step that the first walk
arrives at has its counterpart in the other. -/
theorem Ends.lockstep (reads : evaluator.ReadsFaces Agree) (length : w.length = w'.length)
    {limit : Nat} {start : Fin w.length} {state state' final : σ}
    {outcome : Except WorkflowFault Report}
    (ending : evaluator.Ends w context limit start state outcome final)
    (same : ∀ visits index between, evaluator.Path w context start state visits index between →
      visits.length ≤ limit → (w.get index).Counterpart (w'.get (index.cast length)))
    (agree : Agree state state') :
    ∃ final', evaluator.Ends w' context limit (start.cast length) state' outcome final' ∧
      Agree final final' := by
  -- Every visit of a path is the end of a shorter path.
  have along {visits : List (Visit w.length)} {last : Fin w.length} {between : σ}
      (path : evaluator.Path w context start state visits last between)
      (within : visits.length ≤ limit) (visit : Visit w.length) (visited : visit ∈ visits) :
      (w.get visit.index).Counterpart (w'.get (visit.index.cast length)) := by
    obtain ⟨behind, earned, ahead, middle, rfl, before, -⟩ :=
      path.split (List.mem_map_of_mem visited)
    rw [List.length_append] at within
    exact same behind visit.index middle before (by omega)
  cases ending with
  | @halted visits last before final earned reason path room halt =>
      have behind := along path (Nat.le_of_lt room)
      have atEnd := same visits last before path (Nat.le_of_lt room)
      obtain ⟨before', path', agree⟩ := path.lockstep reads length behind agree
      obtain ⟨final', halt', agree⟩ := halt.lockstep reads length atEnd agree
      have names : ∀ visit ∈ visits ++ [⟨last, earned⟩],
          (w.get visit.index).name = (w'.get (visit.index.cast length)).name := by
        rw [List.forall_mem_append, List.forall_mem_singleton]
        exact ⟨fun visit visited => (behind visit visited).name, atEnd.name⟩
      rw [← ofVisits_cast length _ names reason, List.map_append]
      exact ⟨final', .halted path' (by rwa [List.length_map]) halt', agree⟩
  | @broken visits last before final fault path room breakage =>
      have behind := along path (Nat.le_of_lt room)
      have atEnd := same visits last before path (Nat.le_of_lt room)
      obtain ⟨before', path', agree⟩ := path.lockstep reads length behind agree
      obtain ⟨final', breakage', agree⟩ := breakage.lockstep reads length atEnd agree
      exact ⟨final', .broken path' (by rwa [List.length_map]) breakage', agree⟩
  | @exhausted visits last final path full =>
      have behind := along path (Nat.le_of_eq full)
      have atEnd := same visits last final path (Nat.le_of_eq full)
      obtain ⟨final', path', agree⟩ := path.lockstep reads length behind agree
      rw [atEnd.name]
      exact ⟨final', .exhausted path' (by rwa [List.length_map]), agree⟩

/-- Two workflows of one length are walked alike if every step that the first
walk arrives at has its counterpart in the other. -/
theorem run_lockstep (reads : evaluator.ReadsFaces Agree) (length : w.length = w'.length)
    (context : Context) {state state' : σ}
    (same : ∀ nonempty visits index between,
      evaluator.Path w context ⟨0, nonempty⟩ state visits index between →
        visits.length ≤ visitCeiling evaluator.ceilingFactor w.length →
          (w.get index).Counterpart (w'.get (index.cast length)))
    (agree : Agree state state') :
    (evaluator.run w context state).1 = (evaluator.run w' context state').1 ∧
      Agree (evaluator.run w context state).2 (evaluator.run w' context state').2 := by
  by_cases nonempty : 0 < w.length
  · have nonempty' : 0 < w'.length := length ▸ nonempty
    obtain ⟨final', ending', agree⟩ :=
      (evaluator.ends_run context state nonempty).lockstep reads length (same nonempty) agree
    have ceilings := congrArg (visitCeiling evaluator.ceilingFactor) length
    rw [ceilings] at ending'
    have answered := (run_eq_iff_ends nonempty').mpr ending'
    rw [answered]
    exact ⟨rfl, agree⟩
  · have empty' : ¬ 0 < w'.length := length ▸ nonempty
    rw [run_of_empty nonempty, run_of_empty empty']
    exact ⟨rfl, agree⟩

end Evaluator

end Stepwise
