/-
Module: Stepwise.Proofs.Pseudocode.Evaluation
Purpose: Workflows with the same pseudocode are walked alike.
Main exports: Pseudocode.counterpart_of_block_eq, Pseudocode.exists_length_eq_of_map_block_eq,
  Pseudocode.run_eq_of_render_eq
-/
import Stepwise.Proofs.Pseudocode.Inversion
import Stepwise.Proofs.Walk.Lockstep

namespace Stepwise.Pseudocode

/-!
What the written form leaves out, further connections of steps that are no
decisions, is what walks never look at.  So the text decides the walk, for
policies that read of a step what the text shows of it.
-/

/-- Steps with the same block are counterparts. -/
theorem counterpart_of_block_eq {step step' : Step} (same : block step = block step') :
    step.Counterpart step' := by
  obtain ⟨face, exits⟩ := face_exits_of_block_eq same
  exact ⟨face, fun _ => next?_eq_of_exits_eq (congrArg Step.Face.kind face) exits⟩

/-- Equal blocks belong to steps at the same index of workflows of one length. -/
theorem exists_length_eq_of_map_block_eq {w w' : Workflow}
    (same : w.steps.map block = w'.steps.map block) :
    ∃ length : w.length = w'.length,
      ∀ index : Fin w.length, block (w.get index) = block (w'.get (index.cast length)) := by
  have length : w.length = w'.length := by simpa using congrArg List.length same
  refine ⟨length, fun index => ?_⟩
  have inside : index.val < w'.steps.length := lt_of_lt_of_eq index.isLt length
  have entry := congrArg (fun blocks => blocks[index.val]?) same
  simp only [List.getElem?_map, List.getElem?_eq_getElem index.isLt,
    List.getElem?_eq_getElem inside, Option.map_some, Option.some.injEq] at entry
  exact entry

/-- The pseudocode determines the walk.  Two workflows whose texts hold no line
feeds and that are written alike give the same outcome under all policies that
read no more of a step than its name, kind and instruction, and the policies
receive the same calls. -/
theorem run_eq_of_render_eq {σ : Type} (evaluator : Evaluator σ) (Agree : σ → σ → Prop)
    (reads : evaluator.ReadsFaces Agree) (w w' : Workflow) (single : w.SingleLine)
    (single' : w'.SingleLine) (same : render w = render w') (context : Context)
    (state state' : σ) (agree : Agree state state') :
    let run := evaluator.run w context state
    let run' := evaluator.run w' context state'
    let calls := (evaluator.observed.run w context (state, .empty)).2.2
    let calls' := (evaluator.observed.run w' context (state', .empty)).2.2
    run.1 = run'.1 ∧ Agree run.2 run'.2 ∧ calls.faces = calls'.faces := by
  intro run run' calls calls'
  obtain ⟨length, blocks⟩ :=
    exists_length_eq_of_map_block_eq (map_block_eq_of_render_eq single single' same)
  have started : Evaluator.AgreeInFaces Agree (state, .empty) (state', .empty) := ⟨agree, rfl⟩
  obtain ⟨outcome, agree, logs⟩ := Evaluator.run_lockstep reads.observed length context
    (fun _ _ index _ _ _ => counterpart_of_block_eq (blocks index)) started
  have plain := evaluator.run_observed w context state .empty
  have plain' := evaluator.run_observed w' context state' .empty
  refine ⟨?_, ?_, logs⟩
  · rw [show run = _ from plain, show run' = _ from plain']
    exact outcome
  · rw [show run = _ from plain, show run' = _ from plain']
    exact agree

/-- The loop that a decision leaves, with a connection that is not followed. -/
def spareLoop : Workflow :=
  { steps :=
      [{ name := "step_1", kind := .process, instruction := "load",
          connections := ["step_2", "nowhere"] },
        { name := "step_2", kind := .decision, instruction := "again?",
          connections := ["step_1"] }] }

/-- Rewards of one, and a condition that is true until four steps have been
executed; the state holds them whole. -/
def untilFour : Evaluator (List Step) :=
  { executor := ⟨fun step _ executed => (.ok 1.0, executed ++ [step])⟩
    condition := ⟨fun _ _ executed => (executed.length < 4, executed)⟩
    ceilingFactor := 2 }

theorem untilFour_readsFaces :
    untilFour.ReadsFaces fun executed executed' =>
      executed.map Step.face = executed'.map Step.face := by
  refine ⟨?_, ?_⟩
  · intro step step' context executed executed' face agree
    exact ⟨rfl, by simp [untilFour, face, agree]⟩
  · intro step step' context executed executed' face agree
    have count : executed.length = executed'.length := by simpa using congrArg List.length agree
    exact ⟨by simp [untilFour, count], agree⟩

/-- The connection that is not written makes no difference to the walk, although
it is in the steps that the policies keep. -/
theorem run_spareLoop_eq :
    Evaluator.retryLoop.SingleLine ∧ spareLoop.SingleLine ∧
      Evaluator.retryLoop ≠ spareLoop ∧ render Evaluator.retryLoop = render spareLoop ∧
      (untilFour.run Evaluator.retryLoop .empty []).1 = (untilFour.run spareLoop .empty []).1 ∧
      (untilFour.run Evaluator.retryLoop .empty []).2 ≠ (untilFour.run spareLoop .empty []).2 := by
  have single : Evaluator.retryLoop.SingleLine := by decide
  have single' : spareLoop.SingleLine := by decide
  have same : render Evaluator.retryLoop = render spareLoop := rfl
  have alike := run_eq_of_render_eq untilFour _ untilFour_readsFaces Evaluator.retryLoop spareLoop
    single single' same .empty [] [] rfl
  exact ⟨single, single', by decide, same, alike.1, by decide⟩

end Stepwise.Pseudocode
