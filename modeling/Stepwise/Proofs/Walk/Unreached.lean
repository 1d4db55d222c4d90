/-
Module: Stepwise.Proofs.Walk.Unreached
Purpose: What a run does not come to is free to change.
Main exports: Evaluator.Reaches, Workflow.successor?, Evaluator.Reaches.of_closed,
  Evaluator.run_eq_of_reached
-/
import Stepwise.Proofs.Walk.Lockstep
import Stepwise.Proofs.Walk.Script

namespace Stepwise

/-!
A run looks at the steps it comes to, and of their connections at the first one
of a step that is not terminal.  All else in a workflow may be exchanged, as long
as the number of steps stays: a reference is malformed or not by that number, and
so is the ceiling.  The last step that a run comes to counts as well if there is
no room to execute it, since the fault bears its name.

Which steps a run comes to depends on the policies.  An upper bound that does not
is any set of indices with the entry in it that first connections do not lead out
of.
-/

instance (step step' : Step) : Decidable (step.Counterpart step') :=
  decidable_of_iff
    (step.face = step'.face ∧ (step.kind ≠ .terminal → step.next? = step'.next?))
    ⟨fun ⟨face, next⟩ => ⟨face, next⟩, fun ⟨face, next⟩ => ⟨face, next⟩⟩

/-- Where the first connection of the step at an index leads, if there is one
and it leads anywhere. -/
def Workflow.successor? (w : Workflow) (index : Fin w.length) : Option (Fin w.length) :=
  (w.get index).next?.bind fun reference => (w.locate reference).toOption

theorem Workflow.Links.successor?_eq {w : Workflow} {index next : Fin w.length}
    (links : w.Links index next) : w.successor? index = some next := by
  obtain ⟨-, reference, connection, resolution⟩ := links
  rw [successor?, connection, Option.bind_some, resolution]
  rfl

namespace Evaluator

variable {σ : Type} {evaluator : Evaluator σ} {w : Workflow} {context : Context}

/-- The run comes to the step at `index`: it executes the step, or it is
exhausted in front of it. -/
def Reaches (evaluator : Evaluator σ) (w : Workflow) (context : Context) (state : σ)
    (index : Fin w.length) : Prop :=
  ∃ (nonempty : 0 < w.length) (visits : List (Visit w.length)) (between : σ),
    evaluator.Path w context ⟨0, nonempty⟩ state visits index between ∧
      visits.length ≤ visitCeiling evaluator.ceilingFactor w.length

/-- A run stays among indices that first connections do not lead out of. -/
theorem Reaches.of_closed {inside : Fin w.length → Prop} {state : σ} {index : Fin w.length}
    (reaches : evaluator.Reaches w context state index)
    (entry : ∀ nonempty : 0 < w.length, inside ⟨0, nonempty⟩)
    (closed : ∀ index next, inside index → w.successor? index = some next → inside next) :
    inside index := by
  obtain ⟨nonempty, visits, between, path, -⟩ := reaches
  have linked := path.reaches
  clear path
  induction linked with
  | refl => exact entry nonempty
  | tail _earlier links ih => exact closed _ _ ih links.successor?_eq

/-- Steps that a run does not reach do not matter, and neither do connections
that it does not follow.  Policies that read no more of a step than its name,
kind and instruction give the same outcome in two workflows of one length, with
the same calls, if each step that the run comes to in the first one has its
counterpart in the second. -/
theorem run_eq_of_reached (evaluator : Evaluator σ) (Agree : σ → σ → Prop)
    (reads : evaluator.ReadsFaces Agree) (w w' : Workflow) (length : w.length = w'.length)
    (context : Context) (state state' : σ) (agree : Agree state state')
    (same : ∀ index, evaluator.Reaches w context state index →
      (w.get index).Counterpart (w'.get (index.cast length))) :
    let run := evaluator.run w context state
    let run' := evaluator.run w' context state'
    let calls := (evaluator.observed.run w context (state, .empty)).2.2
    let calls' := (evaluator.observed.run w' context (state', .empty)).2.2
    run.1 = run'.1 ∧ Agree run.2 run'.2 ∧ calls.faces = calls'.faces := by
  intro run run' calls calls'
  have started : AgreeInFaces Agree (state, .empty) (state', .empty) := ⟨agree, rfl⟩
  have plain : run = _ := evaluator.run_observed w context state .empty
  have plain' : run' = _ := evaluator.run_observed w' context state' .empty
  have lockstep := run_lockstep reads.observed length context ?_ started
  · obtain ⟨outcome, agree, logs⟩ := lockstep
    rw [plain, plain']
    exact ⟨outcome, agree, logs⟩
  · -- The observed run comes to the same steps as the run itself.
    intro nonempty visits index between path within
    apply same
    exact ⟨nonempty, visits, between.1, (Path.of_observed path).1, within⟩

/-- A loop that a decision leaves, with a detour that nothing leads to and an end
that is never seen. -/
def detour : Workflow :=
  { steps :=
      [{ name := "step_1", kind := .process, instruction := "load",
          connections := ["step_2", "step_3"] },
        { name := "step_2", kind := .decision, instruction := "again?",
          connections := ["step_4", "step_1"] },
        { name := "step_3", kind := .process, instruction := "undo", connections := ["step_1"] },
        { name := "step_4", kind := .terminal, instruction := "end",
          connections := ["step_1"] }] }

/-- The same steps on the way, and everything else malformed. -/
def detourSpoilt : Workflow :=
  { steps :=
      [{ name := "step_1", kind := .process, instruction := "load",
          connections := ["step_2", "nowhere"] },
        { name := "step_2", kind := .decision, instruction := "again?",
          connections := ["step_4"] },
        { name := "step_1", kind := .terminal, instruction := "", connections := ["step_0"] },
        { name := "step_4", kind := .terminal, instruction := "end",
          connections := ["step_5", "nowhere"] }] }

theorem retryOnce_readsFaces : retryOnce.ReadsFaces Eq := by
  refine ⟨?_, ?_⟩
  · rintro step step' context log _ face rfl
    have name : step.name = step'.name := congrArg Step.Face.name face
    refine ⟨rfl, ?_⟩
    simp only [retryOnce, Executor.recorded, name]
  · rintro step step' context log _ face rfl
    have name : step.name = step'.name := congrArg Step.Face.name face
    refine ⟨rfl, ?_⟩
    simp only [retryOnce, Condition.scripted, name]

/-- The run is the same, although the second workflow has connections that lead
nowhere, in steps that the run comes to as well. -/
theorem run_detourSpoilt :
    detour.length = detourSpoilt.length ∧ retryOnce.ReadsFaces Eq ∧
      (∀ index, retryOnce.Reaches detour .empty .empty index → index ≠ ⟨2, by decide⟩) ∧
      retryOnce.run detour .empty .empty = retryOnce.run detourSpoilt .empty .empty ∧
      detourSpoilt.locate "nowhere" = .error .notAReference ∧
      detourSpoilt.locate "step_5" = .error .pastTheEnd := by
  have kept (index : Fin detour.length)
      (reaches : retryOnce.Reaches detour .empty .empty index) : index ≠ ⟨2, by decide⟩ := by
    apply reaches.of_closed
    · decide
    · decide
  have counterpart : ∀ index : Fin detour.length, index ≠ ⟨2, by decide⟩ →
      (detour.get index).Counterpart (detourSpoilt.get (index.cast rfl)) := by
    decide
  have same := run_eq_of_reached retryOnce Eq retryOnce_readsFaces detour detourSpoilt rfl .empty
    .empty .empty rfl fun index reaches => counterpart index (kept index reaches)
  exact ⟨rfl, retryOnce_readsFaces, kept, Prod.ext same.1 same.2.1, rfl, rfl⟩

end Evaluator

end Stepwise
