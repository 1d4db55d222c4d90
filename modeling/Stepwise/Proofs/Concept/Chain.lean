/-
Module: Stepwise.Proofs.Concept.Chain
Purpose: The steps of a workflow built from concepts, each by its index.
Main exports: Concept.stepAt, Concept.chainFrom_eq_mapIdx, Workflow.steps_ofConcepts,
  Workflow.linear_ofConcepts, Workflow.positional_ofConcepts
-/
import Stepwise.Concept.Chain
import Stepwise.Proofs.Reachability.Acceptance
import Stepwise.Proofs.Walk.Line

namespace Stepwise

/-!
The chain is built from the front, and whether a step is the last one shows
only in the concepts behind it.  Seen from outside, a step depends on its
concept, its index and the number of concepts, and on no other concept.
-/

/-- The step made from the concept at an index of `count` concepts. -/
def Concept.stepAt (count index : Nat) (concept : String) : Step :=
  { name := Step.nameOf (index + 1)
    kind := Concept.kind concept
    instruction := concept
    connections := if index + 1 < count then [Step.nameOf (index + 2)] else [] }

/-- A chain that begins behind `base` steps is made concept by concept. -/
theorem Concept.chainFrom_eq_mapIdx (base : Nat) (concepts : List String) :
    chainFrom (base + 1) concepts =
      concepts.mapIdx fun index => stepAt (base + concepts.length) (base + index) := by
  induction concepts generalizing base with
  | nil => rfl
  | cons concept rest ih =>
      have first : (if rest.isEmpty then [] else [Step.nameOf (base + 1 + 1)]) =
          if base + 0 + 1 < base + (rest.length + 1) then [Step.nameOf (base + 0 + 2)] else [] := by
        cases rest with
        | nil => simp
        | cons _ _ => simp
      have shift (index : Nat) : base + 1 + index = base + (index + 1) := by omega
      rw [chainFrom, ih (base + 1), List.mapIdx_cons, List.length_cons, first]
      simp only [shift]
      rfl

/-- A step of a chain leads to the step behind it, if there is one. -/
theorem Concept.next?_stepAt (count index : Nat) (concept : String) :
    (stepAt count index concept).next? =
      if index + 1 < count then some (Step.nameOf (index + 2)) else none := by
  simp only [Step.next?, stepAt]
  split <;> rfl

theorem Concept.next?_stepAt_eq_none {count index : Nat} {concept : String}
    (inside : index < count) :
    (stepAt count index concept).next? = none ↔ index + 1 = count := by
  rw [next?_stepAt]
  by_cases further : index + 1 < count
  · rw [if_pos further]
    apply iff_of_false
    · intro unconnected
      cases unconnected
    · omega
  · rw [if_neg further]
    apply iff_of_true rfl
    omega

namespace Workflow

/-- A workflow built from concepts has one step for each of them, in order. -/
theorem steps_ofConcepts (concepts : List String) :
    (ofConcepts concepts).steps = concepts.mapIdx (Concept.stepAt concepts.length) := by
  simpa [ofConcepts] using Concept.chainFrom_eq_mapIdx 0 concepts

theorem length_ofConcepts (concepts : List String) :
    (ofConcepts concepts).length = concepts.length := by
  rw [length, steps_ofConcepts, List.length_mapIdx]

theorem get?_ofConcepts (concepts : List String) (index : Nat) :
    (ofConcepts concepts).get? index =
      concepts[index]?.map (Concept.stepAt concepts.length index) := by
  rw [get?, steps_ofConcepts, List.getElem?_mapIdx]

/-- The step at an index of a built workflow is made from the concept there. -/
theorem get_ofConcepts (concepts : List String) (index : Fin (ofConcepts concepts).length) :
    ∃ concept, concepts[index.val]? = some concept ∧
      (ofConcepts concepts).get index = Concept.stepAt concepts.length index concept := by
  have inside : index.val < concepts.length := length_ofConcepts concepts ▸ index.isLt
  refine ⟨_, List.getElem?_eq_getElem inside, ?_⟩
  have step := get?_ofConcepts concepts index
  rw [get?, List.getElem?_eq_getElem inside, List.getElem?_eq_getElem index.isLt] at step
  exact Option.some.inj step

/-- What a built step has from its concept alone is read off the concepts. -/
theorem map_ofConcepts {α : Type} (concepts : List String) {read : Step → α} {made : String → α}
    (reads : ∀ count index concept, read (Concept.stepAt count index concept) = made concept) :
    (ofConcepts concepts).steps.map read = concepts.map made := by
  rw [steps_ofConcepts]
  apply List.ext_getElem?
  intro index
  simp [reads, Function.comp_def]

/-- The kinds of the steps are the kinds of the concepts. -/
theorem map_kind_ofConcepts (concepts : List String) :
    (ofConcepts concepts).steps.map Step.kind = concepts.map Concept.kind :=
  map_ofConcepts concepts fun _ _ _ => rfl

/-- The instructions of the steps are the concepts. -/
theorem map_instruction_ofConcepts (concepts : List String) :
    (ofConcepts concepts).steps.map Step.instruction = concepts := by
  rw [map_ofConcepts concepts fun _ _ _ => rfl]
  exact List.map_id concepts

/-- A built workflow is linear. -/
theorem linear_ofConcepts (concepts : List String) : (ofConcepts concepts).Linear := by
  intro index
  obtain ⟨concept, -, step⟩ := get_ofConcepts concepts index
  rw [step, Concept.next?_stepAt, ← length_ofConcepts]

/-- The steps of a built workflow bear their positional names. -/
theorem positional_ofConcepts (concepts : List String) : (ofConcepts concepts).Positional := by
  intro index
  obtain ⟨concept, -, step⟩ := get_ofConcepts concepts index
  rw [step]
  rfl

end Workflow

end Stepwise
