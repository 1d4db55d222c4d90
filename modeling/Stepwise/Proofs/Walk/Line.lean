/-
Module: Stepwise.Proofs.Walk.Line
Purpose: Walks through linear workflows, which end on the way or at the last
  step and never by a reference or the ceiling.
Main exports: Workflow.Linear, Evaluator.Passes, Evaluator.Path.passes,
  Evaluator.Passes.path, Evaluator.run_of_linear, Evaluator.linear_run_cases
-/
import Stepwise.Proofs.Workflow.Resolution
import Stepwise.Proofs.Walk.Cycle

namespace Stepwise

/-!
In a linear workflow the first connection of every step leads to the step
behind it, so a path from the entry has visited the steps in front of its end,
in order and each once.  What is left of a path is how the policies answer
there.  `Passes` says that about a list of steps alone, without a workflow,
indices or references.
-/

/-- Every step leads to the step behind it, and the last one to none. -/
def Workflow.Linear (w : Workflow) : Prop :=
  ∀ index : Fin w.length, (w.get index).next? =
    if index.val + 1 < w.length then some (Step.nameOf (index.val + 2)) else none

/-- In a linear workflow a connection that is followed leads one step on. -/
theorem Workflow.Linear.locate {w : Workflow} (linear : w.Linear) (sized : w.length < sizeLimit)
    {index : Fin w.length} {reference : String}
    (connection : (w.get index).next? = some reference) :
    ∃ inside : index.val + 1 < w.length, w.locate reference = .ok ⟨index.val + 1, inside⟩ := by
  rw [linear index] at connection
  split at connection
  · cases connection
    exact ⟨‹_›, Workflow.locate_nameOf sized _⟩
  · cases connection

theorem Workflow.drop_eq_get_cons {w : Workflow} (index : Fin w.length) :
    w.steps.drop index = w.get index :: w.steps.drop (index + 1) :=
  List.drop_eq_getElem_cons index.isLt

namespace Evaluator

variable {σ : Type} {evaluator : Evaluator σ} {w : Workflow} {context : Context}

/-- Steps that are carried out in order, each with success and each cleared,
and what they earn. -/
inductive Passes (evaluator : Evaluator σ) (context : Context) :
    List Step → σ → List Float → σ → Prop where
  | none {state : σ} : Passes evaluator context [] state [] state
  | onward {step : Step} {steps : List Step} {state executed between final : σ} {earned : Float}
      {earnings : List Float}
      (execution : evaluator.executor.execute step context state = (.ok earned, executed))
      (clearance : evaluator.Clears context step executed between)
      (rest : Passes evaluator context steps between earnings final) :
      Passes evaluator context (step :: steps) state (earned :: earnings) final

/-- A path of a linear workflow passes the steps between its ends. -/
theorem Path.passes (linear : w.Linear) (sized : w.length < sizeLimit) {start last : Fin w.length}
    {state final : σ} {visits : List (Visit w.length)}
    (path : evaluator.Path w context start state visits last final) :
    last.val = start.val + visits.length ∧
      w.namesOf visits = ((w.steps.drop start).take visits.length).map Step.name ∧
      evaluator.Passes context ((w.steps.drop start).take visits.length) state
        (visits.map Visit.earned) final := by
  induction path with
  | here => exact ⟨rfl, rfl, .none⟩
  | @onward index next last state between final earned visits advance rest ih =>
      obtain ⟨arrival, names, passes⟩ := ih
      cases advance with
      | goto execution clearance connection resolution =>
          obtain ⟨inside, leads⟩ := linear.locate sized connection
          obtain rfl : ⟨index.val + 1, inside⟩ = next := Except.ok.inj (leads.symm.trans resolution)
          have arrival : last.val = index.val + 1 + visits.length := arrival
          rw [Workflow.drop_eq_get_cons index]
          refine ⟨?_, ?_, .onward execution clearance passes⟩
          · rw [arrival, List.length_cons]
            omega
          · exact congrArg ((w.get index).name :: ·) names

/-- Steps that are passed, and that stand in a linear workflow one behind the
other, are walked by a path. -/
theorem Passes.path (linear : w.Linear) (sized : w.length < sizeLimit) {steps : List Step}
    {state final : σ} {earnings : List Float}
    (passes : evaluator.Passes context steps state earnings final) {start last : Fin w.length}
    (line : steps <+: w.steps.drop start) (arrival : last.val = start.val + steps.length) :
    ∃ visits, evaluator.Path w context start state visits last final ∧
      visits.map Visit.earned = earnings := by
  induction passes generalizing start with
  | none =>
      obtain rfl : last = start := Fin.ext arrival
      exact ⟨[], .here, rfl⟩
  | @onward step steps state executed between final earned earnings execution clearance rest ih =>
      rw [Workflow.drop_eq_get_cons, List.cons_prefix_cons] at line
      obtain ⟨rfl, line⟩ := line
      have inside : start.val + 1 < w.length := by
        have bound := last.isLt
        rw [arrival, List.length_cons] at bound
        omega
      have further : last.val = (⟨start.val + 1, inside⟩ : Fin w.length).val + steps.length := by
        rw [arrival, List.length_cons, Nat.add_right_comm, Nat.add_assoc]
      obtain ⟨visits, path, earns⟩ := ih line further
      have advance : evaluator.Advances w context start state earned
          ⟨start.val + 1, inside⟩ between :=
        .goto execution clearance ((linear start).trans (if_pos inside))
          (Workflow.locate_nameOf sized inside)
      exact ⟨⟨start, earned⟩ :: visits, .onward advance path, by rw [List.map_cons, earns]⟩

/-- A path from the entry passes the steps in front of its end. -/
theorem Path.passes_entry (linear : w.Linear) (sized : w.length < sizeLimit)
    {nonempty : 0 < w.length} {last : Fin w.length} {state final : σ}
    {visits : List (Visit w.length)}
    (path : evaluator.Path w context ⟨0, nonempty⟩ state visits last final) :
    visits.length = last.val ∧
      w.namesOf visits = (w.steps.take last).map Step.name ∧
      evaluator.Passes context (w.steps.take last) state (visits.map Visit.earned) final := by
  obtain ⟨arrival, names, passes⟩ := path.passes linear sized
  rw [Nat.zero_add] at arrival
  rw [← arrival] at names passes
  exact ⟨arrival.symm, names, passes⟩

/-- A path from the entry of a linear workflow has room for the visit of its
end under every ceiling. -/
theorem Path.room_of_linear (linear : w.Linear) (sized : w.length < sizeLimit)
    {nonempty : 0 < w.length} {last : Fin w.length} {state final : σ}
    {visits : List (Visit w.length)}
    (path : evaluator.Path w context ⟨0, nonempty⟩ state visits last final)
    (ceilingFactor : Nat) : visits.length < visitCeiling ceilingFactor w.length := by
  rw [(path.passes_entry linear sized).1]
  exact Nat.lt_of_lt_of_le last.isLt (le_visitCeiling sized ceilingFactor)

/-- The report at the end of such a path is on the steps up to that end. -/
theorem Path.ofVisits_of_linear (linear : w.Linear) (sized : w.length < sizeLimit)
    {nonempty : 0 < w.length} {last : Fin w.length} {state final : σ}
    {visits : List (Visit w.length)}
    (path : evaluator.Path w context ⟨0, nonempty⟩ state visits last final) (earned : Float)
    (halt : Halt) :
    Report.ofVisits w (visits ++ [⟨last, earned⟩]) halt =
      { reward := (visits.map Visit.earned ++ [earned]).foldl (· + ·) 0.0
        visited := (w.steps.take (last + 1)).map Step.name
        halt := halt } := by
  have upto : w.steps.take (last + 1) = w.steps.take last ++ [w.get last] :=
    List.take_succ_eq_append_getElem last.isLt
  have names := (path.passes_entry linear sized).2.1
  unfold Workflow.namesOf at names
  simp [Report.ofVisits, Workflow.namesOf, upto, names]

/-- A walk through a linear workflow passes the steps in front of some index
and ends there: it halts, or the step cannot be executed. -/
theorem run_eq_iff_of_linear (linear : w.Linear) (sized : w.length < sizeLimit)
    (nonempty : 0 < w.length) {state final : σ} {outcome : Except WorkflowFault Report} :
    evaluator.run w context state = (outcome, final) ↔
      ∃ (index : Fin w.length) (earnings : List Float) (before : σ),
        evaluator.Passes context (w.steps.take index) state earnings before ∧
          ((∃ earned reason, evaluator.Halts w context index before earned reason final ∧
              outcome = .ok
                { reward := (earnings ++ [earned]).foldl (· + ·) 0.0
                  visited := (w.steps.take (index + 1)).map Step.name
                  halt := reason }) ∨
            ∃ fault, evaluator.executor.execute (w.get index) context before =
                (.error fault, final) ∧
              outcome = .error (.stepFailed (w.get index).name fault)) := by
  rw [run_eq_iff_ends nonempty]
  constructor
  · intro ending
    cases ending with
    | halted path room halt =>
        obtain ⟨-, -, passes⟩ := path.passes_entry linear sized
        refine ⟨_, _, _, passes, Or.inl ⟨_, _, halt, ?_⟩⟩
        rw [path.ofVisits_of_linear linear sized]
    | broken path room breakage =>
        obtain ⟨-, -, passes⟩ := path.passes_entry linear sized
        cases breakage with
        | stepFailed execution => exact ⟨_, _, _, passes, Or.inr ⟨_, execution, rfl⟩⟩
        | malformedReference execution clearance connection resolution =>
            obtain ⟨inside, leads⟩ := linear.locate sized connection
            rw [leads] at resolution
            cases resolution
    | exhausted path full =>
        have room := path.room_of_linear linear sized evaluator.ceilingFactor
        exact absurd full (Nat.ne_of_lt room)
  · rintro ⟨index, earnings, before, passes, ending⟩
    have arrival :
        index.val = (⟨0, nonempty⟩ : Fin w.length).val + (w.steps.take index).length := by
      rw [List.length_take, Nat.min_eq_left index.isLt.le, Nat.zero_add]
    obtain ⟨visits, path, rfl⟩ := passes.path linear sized (List.take_prefix _ _) arrival
    have room := path.room_of_linear linear sized evaluator.ceilingFactor
    rcases ending with ⟨earned, reason, halt, rfl⟩ | ⟨fault, execution, rfl⟩
    · rw [← path.ofVisits_of_linear linear sized]
      exact .halted path room halt
    · exact .broken path room (.stepFailed execution)

end Evaluator

end Stepwise
