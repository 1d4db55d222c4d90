/-
Module: Stepwise.Proofs.Pseudocode.Injectivity
Purpose: What workflows with the same pseudocode have in common, and the
  workflows that the text leaves nothing of out.
Main exports: Step.WrittenAlike, Pseudocode.block_eq_iff, Pseudocode.map_block_eq_iff,
  Workflow.FullyWritten, Workflow.eq_of_writtenAlike, Workflow.singleLine_ofPrompt,
  Workflow.fullyWritten_ofPrompt, Pseudocode.render_loses_only_unwritten
-/
import Mathlib.Data.Set.Function
import Stepwise.Proofs.Concept.Spacing
import Stepwise.Proofs.Concept.Validation
import Stepwise.Proofs.Pseudocode.Evaluation

namespace Stepwise

/-!
The text is read back in two turns: first the blocks, then the step of each
block.  So all questions about equal texts are questions about two single
steps.  What a block does not show is the connections behind the first one,
where the step is no decision.  A chain has none of these, and its texts come
from the lines of a prompt and hold no line feed.
-/

/-- The steps differ at most in connections that are not written: all of them
are written for a decision, and the first one for every other step. -/
structure Step.WrittenAlike (step step' : Step) : Prop where
  face : step.face = step'.face
  connections : step.kind = .decision → step.connections = step'.connections
  next : step.kind ≠ .decision → step.next? = step'.next?

namespace Pseudocode

variable {step step' : Step} {w w' : Workflow}

theorem block_of_face (face : step.face = step'.face) (exits : exits step = exits step') :
    block step = block step' := by
  have name : step.name = step'.name := congrArg Step.Face.name face
  have kind : step.kind = step'.kind := congrArg Step.Face.kind face
  have instruction : step.instruction = step'.instruction := congrArg Step.Face.instruction face
  unfold block header
  rw [name, kind, instruction, exits]

/-- The block of a step shows all that two steps have in common if they are
written alike, and nothing else. -/
theorem block_eq_iff : block step = block step' ↔ step.WrittenAlike step' := by
  constructor
  · intro same
    obtain ⟨face, exits⟩ := face_exits_of_block_eq same
    have kinds : step.kind = step'.kind := congrArg Step.Face.kind face
    refine ⟨face, ?_, ?_⟩
    · intro kind
      exact connections_eq_of_exits_eq kind (kinds ▸ kind) exits
    · intro _
      exact next?_eq_of_exits_eq kinds exits
  · intro alike
    have kinds : step.kind = step'.kind := congrArg Step.Face.kind alike.face
    apply block_of_face alike.face
    by_cases kind : step.kind = .decision
    · rw [exits_of_decision kind, exits_of_decision (kinds ▸ kind), alike.connections kind]
    · rw [exits_of_other kind, exits_of_other (kinds ▸ kind), alike.next kind]

/-- Equal blocks in equal places are steps that are written alike. -/
theorem map_block_eq_iff :
    w.steps.map block = w'.steps.map block ↔
      ∃ length : w.length = w'.length, ∀ index : Fin w.length,
        (w.get index).WrittenAlike (w'.get (index.cast length)) := by
  constructor
  · intro same
    obtain ⟨length, blocks⟩ := exists_length_eq_of_map_block_eq same
    exact ⟨length, fun index => block_eq_iff.mp (blocks index)⟩
  · rintro ⟨length, alike⟩
    apply List.ext_getElem
    · rw [List.length_map, List.length_map]
      exact length
    · intro index inside inside'
      rw [List.length_map] at inside
      rw [List.getElem_map, List.getElem_map]
      exact block_eq_iff.mpr (alike ⟨index, inside⟩)

/-- The text is put together from the blocks. -/
theorem render_eq_of_map_block_eq (same : w.steps.map block = w'.steps.map block) :
    render w = render w' := by
  have together (steps : List Step) :
      lines steps = (steps.map block).flatMap fun block => block ++ [""] := by
    rw [lines, List.flatMap_map]
  unfold render
  rw [together, together, same]

end Pseudocode

/-! ### Steps that are written whole -/

/-- The step has no connection that is not written. -/
def Step.FullyWritten (step : Step) : Prop :=
  step.kind ≠ .decision → step.connections.length ≤ 1

instance (step : Step) : Decidable step.FullyWritten :=
  inferInstanceAs (Decidable (step.kind ≠ .decision → step.connections.length ≤ 1))

/-- No step of the workflow has a connection that is not written. -/
def Workflow.FullyWritten (w : Workflow) : Prop :=
  ∀ step ∈ w.steps, step.FullyWritten

instance (w : Workflow) : Decidable w.FullyWritten :=
  inferInstanceAs (Decidable (∀ step ∈ w.steps, step.FullyWritten))

/-- A single connection is the first one. -/
theorem Step.connections_eq_toList_next? {step : Step} (single : step.connections.length ≤ 1) :
    step.connections = step.next?.toList := by
  unfold next?
  match step.connections, single with
  | [], _ => rfl
  | [_], _ => rfl

/-- Steps that are written alike are the same if nothing of them is lost. -/
theorem Step.eq_of_writtenAlike {step step' : Step} (full : step.FullyWritten)
    (full' : step'.FullyWritten) (alike : step.WrittenAlike step') : step = step' := by
  obtain ⟨face, all, first⟩ := alike
  have kinds : step.kind = step'.kind := congrArg Face.kind face
  have connections : step.connections = step'.connections := by
    by_cases kind : step.kind = .decision
    · exact all kind
    · rw [connections_eq_toList_next? (full kind), first kind,
        connections_eq_toList_next? (full' (kinds ▸ kind))]
  obtain ⟨name, kind, instruction, held⟩ := step
  obtain ⟨name', kind', instruction', held'⟩ := step'
  obtain ⟨⟩ := face
  obtain rfl : held = held' := connections
  rfl

namespace Workflow

variable {w w' : Workflow}

/-- Where nothing is lost, workflows whose steps are written alike are the
same. -/
theorem eq_of_writtenAlike (full : w.FullyWritten) (full' : w'.FullyWritten)
    (length : w.length = w'.length)
    (alike : ∀ index : Fin w.length, (w.get index).WrittenAlike (w'.get (index.cast length))) :
    w = w' := by
  obtain ⟨steps⟩ := w
  obtain ⟨steps'⟩ := w'
  apply congrArg Workflow.mk
  apply List.ext_getElem length
  intro index inside inside'
  apply Step.eq_of_writtenAlike _ _ (alike ⟨index, inside⟩)
  · exact full _ (List.getElem_mem inside)
  · exact full' _ (List.getElem_mem inside')

/-! ### Workflows of prompts -/

/-- Every step of a built workflow is made from one of the concepts. -/
theorem exists_stepAt_of_mem_ofConcepts {concepts : List String} {step : Step}
    (held : step ∈ (ofConcepts concepts).steps) :
    ∃ index, ∃ concept ∈ concepts, step = Concept.stepAt concepts.length index concept := by
  rw [steps_ofConcepts] at held
  obtain ⟨index, inside, made⟩ := List.mem_mapIdx.mp held
  exact ⟨index, concepts[index], List.getElem_mem inside, made.symm⟩

/-- The workflow of a prompt holds no line feeds. -/
theorem singleLine_ofPrompt (prompt : String) : (ofPrompt prompt).SingleLine := by
  intro step held
  obtain ⟨index, concept, among, rfl⟩ := exists_stepAt_of_mem_ofConcepts held
  refine ⟨Step.newline_not_mem_nameOf _, (Concept.isConcept_of_mem_ofPrompt among).1, ?_⟩
  intro reference connected
  simp only [Concept.stepAt] at connected
  split at connected
  · rw [List.mem_singleton.mp connected]
    exact Step.newline_not_mem_nameOf _
  · cases connected

/-- The connections of a chain are all written. -/
theorem fullyWritten_ofPrompt (prompt : String) : (ofPrompt prompt).FullyWritten := by
  intro step held _
  obtain ⟨index, concept, -, rfl⟩ := exists_stepAt_of_mem_ofConcepts held
  simp only [Concept.stepAt]
  split
  · exact Nat.le_refl 1
  · exact Nat.zero_le 1

end Workflow

namespace Pseudocode

variable {w w' : Workflow}

/-- Equal texts are those of workflows of one length whose steps are written
alike. -/
theorem render_eq_iff_writtenAlike (single : w.SingleLine) (single' : w'.SingleLine) :
    render w = render w' ↔
      ∃ length : w.length = w'.length, ∀ index : Fin w.length,
        (w.get index).WrittenAlike (w'.get (index.cast length)) := by
  rw [← map_block_eq_iff]
  constructor
  · exact map_block_eq_of_render_eq single single'
  · exact render_eq_of_map_block_eq

theorem eq_of_render_eq (single : w.SingleLine) (single' : w'.SingleLine)
    (full : w.FullyWritten) (full' : w'.FullyWritten) (same : render w = render w') : w = w' := by
  obtain ⟨length, alike⟩ := (render_eq_iff_writtenAlike single single').mp same
  exact Workflow.eq_of_writtenAlike full full' length alike

/-- Pseudocode loses connections that are not written, and nothing else.  Where
no text holds a line feed, workflows with the same pseudocode have the same
number of steps, and steps at the same index have the same name, kind and
instruction, all connections in common if they are decisions and the first
connection, if any, in common otherwise.  So workflows without such lost
connections can be told apart by their pseudocode, and those of prompts are
among them. -/
theorem render_loses_only_unwritten :
    (∀ w w' : Workflow, w.SingleLine → w'.SingleLine →
      (render w = render w' ↔
        ∃ length : w.length = w'.length, ∀ index : Fin w.length,
          (w.get index).WrittenAlike (w'.get (index.cast length)))) ∧
      Set.InjOn render {w | w.SingleLine ∧ w.FullyWritten} ∧
      ∀ prompt prompt' : String,
        render (.ofPrompt prompt) = render (.ofPrompt prompt') →
          Workflow.ofPrompt prompt = Workflow.ofPrompt prompt' := by
  refine ⟨?_, ?_, ?_⟩
  · intro w w' single single'
    exact render_eq_iff_writtenAlike single single'
  · rintro w ⟨single, full⟩ w' ⟨single', full'⟩ same
    exact eq_of_render_eq single single' full full' same
  · intro prompt prompt' same
    apply eq_of_render_eq _ _ _ _ same
    · exact Workflow.singleLine_ofPrompt prompt
    · exact Workflow.singleLine_ofPrompt prompt'
    · exact Workflow.fullyWritten_ofPrompt prompt
    · exact Workflow.fullyWritten_ofPrompt prompt'

/-- A process whose instruction reads like the way out of a step, in front of a
terminal step whose name reads like a header. -/
def disguised (lost : List String) : Workflow :=
  { steps :=
      [{ name := "step_1", kind := .process, instruction := "    next: step_2",
          connections := "step_2" :: lost },
        { name := "decision step_3:", kind := .terminal, instruction := "goto step_1",
          connections := "nowhere" :: lost }] }

/-- Texts that look like other lines are read back as they are, and only what
stands behind the first connection is lost.  Blank lines of a prompt leave no
trace in its workflow, nor in the text. -/
theorem render_disguised :
    (disguised []).SingleLine ∧ (disguised ["step_1"]).SingleLine ∧
      render (disguised []) = render (disguised ["step_1"]) ∧
      disguised [] ≠ disguised ["step_1"] ∧
      ((disguised []).get ⟨1, by decide⟩).WrittenAlike
        ((disguised ["step_1"]).get ⟨1, by decide⟩) ∧
      (disguised []).FullyWritten ∧ Evaluator.retryLoop.SingleLine ∧
      Evaluator.retryLoop.FullyWritten ∧
      render (disguised []) ≠ render Evaluator.retryLoop ∧
      render (.ofPrompt "load\n\nend") = render (.ofPrompt " \nload\nend\n") ∧
      Workflow.ofPrompt "load\n\nend" = Workflow.ofPrompt " \nload\nend\n" := by
  have single : (disguised []).SingleLine := by decide
  have single' : (disguised ["step_1"]).SingleLine := by decide
  have same : render (disguised []) = render (disguised ["step_1"]) := rfl
  have full : (disguised []).FullyWritten := by decide
  have loop : Evaluator.retryLoop.SingleLine ∧ Evaluator.retryLoop.FullyWritten := by decide
  have prompts : render (.ofPrompt "load\n\nend") = render (.ofPrompt " \nload\nend\n") := rfl
  obtain ⟨losses, apart, built⟩ := render_loses_only_unwritten
  obtain ⟨length, alike⟩ := (losses _ _ single single').mp same
  refine ⟨single, single', same, by decide, alike ⟨1, by decide⟩, full, loop.1, loop.2, ?_,
    prompts, built _ _ prompts⟩
  intro written
  have merged : disguised [] = Evaluator.retryLoop := apart ⟨single, full⟩ loop written
  exact absurd merged (by decide)

end Pseudocode

end Stepwise
