/-
Module: Stepwise.Proofs.Concept.Composition
Purpose: The workflow of a prompt that is made of two prompts.
Main exports: Concept.ofPrompt_append, Concept.stepAt_add, Workflow.Composes,
  Workflow.composes_ofConcepts, Workflow.composes_ofPrompt
-/
import Stepwise.Proofs.Concept.Chain
import Stepwise.Proofs.Concept.Prompt

namespace Stepwise

/-!
A line feed between two prompts keeps their lines apart, so the concepts of both
follow each other.  Of the chains, the first one keeps its names and the second
one is counted on.  The only new connection is the one across the seam, and
there is none if one of the sides has no concepts.
-/

namespace Concept

theorem lines_append (first second : String) :
    lines (first ++ "\n" ++ second) = lines first ++ lines second := by
  have text : (first ++ "\n" ++ second).toList = first.toList ++ '\n' :: second.toList := by
    simp
  rw [lines, text, List.splitOn_append_cons_self, List.map_append]
  rfl

/-- The concepts of two prompts on separate lines are those of the first and
then those of the second. -/
theorem ofPrompt_append (first second : String) :
    ofPrompt (first ++ "\n" ++ second) = ofPrompt first ++ ofPrompt second := by
  simp only [ofPrompt_eq_filter_lines, lines_append, List.filter_append]

/-- The ordinals that a step of a chain of `count` steps is connected to. -/
def onward (count index : Nat) : List Nat :=
  if index + 1 < count then [index + 2] else []

theorem connections_stepAt (count index : Nat) (concept : String) :
    (stepAt count index concept).connections = (onward count index).map Step.nameOf := by
  simp only [stepAt, onward]
  split <;> rfl

/-- With steps in front of the chain, all ordinals are raised by their number. -/
theorem stepAt_add (base count index : Nat) (concept : String) :
    stepAt (base + count) (base + index) concept =
      { stepAt count index concept with
        name := Step.nameOf (base + (index + 1))
        connections := (onward count index).map fun ordinal => Step.nameOf (base + ordinal) } := by
  have further : base + index + 1 < base + count ↔ index + 1 < count := by omega
  simp only [stepAt, onward, further]
  split <;> rfl

/-- Steps behind the chain do not change a step that is not its last. -/
theorem stepAt_of_further {count index : Nat} (further : index + 1 < count) (behind : Nat)
    (concept : String) : stepAt (count + behind) index concept = stepAt count index concept := by
  have longer : index + 1 < count + behind := Nat.lt_add_right behind further
  rw [stepAt, stepAt, if_pos longer, if_pos further]

theorem connections_stepAt_of_last {count index : Nat} (last : index + 1 = count)
    (concept : String) : (stepAt count index concept).connections = [] :=
  if_neg (Nat.not_lt_of_le last.ge)

/-- Steps behind the chain connect its last one. -/
theorem stepAt_of_last {count index behind : Nat} (last : index + 1 = count)
    (some_behind : 0 < behind) (concept : String) :
    stepAt (count + behind) index concept =
      { stepAt count index concept with connections := [Step.nameOf (count + 1)] } := by
  have longer : index + 1 < count + behind := by omega
  rw [stepAt, stepAt, if_pos longer, last.symm]

end Concept

namespace Workflow

/-- The step at an index, by the length of the chain. -/
theorem get_ofConcepts_eq_stepAt {concepts : List String}
    (index : Fin (ofConcepts concepts).length) :
    ∃ concept, concepts[index.val]? = some concept ∧
      (ofConcepts concepts).get index =
        Concept.stepAt (ofConcepts concepts).length index concept := by
  obtain ⟨concept, here, step⟩ := get_ofConcepts concepts index
  refine ⟨concept, here, step.trans ?_⟩
  exact congrArg (Concept.stepAt · index concept) (length_ofConcepts concepts).symm

/-- A step in front of further concepts. -/
theorem get?_ofConcepts_append_left {first : List String} (second : List String)
    (index : Fin (ofConcepts first).length) :
    ∃ concept, (ofConcepts first).get index =
        Concept.stepAt (ofConcepts first).length index concept ∧
      (ofConcepts (first ++ second)).get? index =
        some (Concept.stepAt ((ofConcepts first).length + (ofConcepts second).length) index
          concept) := by
  obtain ⟨concept, here, step⟩ := get_ofConcepts_eq_stepAt index
  have inside : index.val < first.length := length_ofConcepts first ▸ index.isLt
  refine ⟨concept, step, ?_⟩
  rw [get?_ofConcepts, List.getElem?_append_left inside, here]
  simp only [Option.map_some, List.length_append, length_ofConcepts]

/-- A step behind further concepts. -/
theorem get?_ofConcepts_append_right (first : List String) {second : List String}
    (index : Fin (ofConcepts second).length) :
    ∃ concept, (ofConcepts second).get index =
        Concept.stepAt (ofConcepts second).length index concept ∧
      (ofConcepts (first ++ second)).get? ((ofConcepts first).length + index) =
        some (Concept.stepAt ((ofConcepts first).length + (ofConcepts second).length)
          ((ofConcepts first).length + index) concept) := by
  obtain ⟨concept, here, step⟩ := get_ofConcepts_eq_stepAt index
  refine ⟨concept, step, ?_⟩
  rw [length_ofConcepts first, get?_ofConcepts, List.getElem?_append_right (Nat.le_add_right _ _),
    Nat.add_sub_cancel_left, here]
  simp only [Option.map_some, List.length_append, length_ofConcepts]

/-- A workflow holds the steps of two others in a row.  Those in front are
unchanged, except that the last of them, which is connected to nothing, leads
over the seam if there is a step behind it.  Those behind it keep their kinds
and instructions, and the ordinals in their names and connections are raised by
the number of steps in front. -/
structure Composes (front back whole : Workflow) : Prop where
  length : whole.length = front.length + back.length
  kept (index : Fin front.length) (inner : index.val + 1 < front.length ∨ back.length = 0) :
    whole.get? index = some (front.get index)
  linked (index : Fin front.length) (last : index.val + 1 = front.length)
    (further : 0 < back.length) :
    (front.get index).connections = [] ∧
      whole.get? index =
        some { front.get index with connections := [Step.nameOf (front.length + 1)] }
  raised (index : Fin back.length) :
    ∃ ordinals : List Nat, (back.get index).connections = ordinals.map Step.nameOf ∧
      whole.get? (front.length + index) =
        some { back.get index with
          name := Step.nameOf (front.length + (index + 1))
          connections := ordinals.map fun ordinal => Step.nameOf (front.length + ordinal) }

/-- The chain of two lists of concepts is made of the chains of both. -/
theorem composes_ofConcepts (first second : List String) :
    Composes (ofConcepts first) (ofConcepts second) (ofConcepts (first ++ second)) where
  length := by
    simp only [length_ofConcepts, List.length_append]
  kept index inner := by
    obtain ⟨concept, step, joined⟩ := get?_ofConcepts_append_left second index
    rw [joined, step]
    rcases inner with further | alone
    · rw [Concept.stepAt_of_further further]
    · rw [alone, Nat.add_zero]
  linked index last further := by
    obtain ⟨concept, step, joined⟩ := get?_ofConcepts_append_left second index
    rw [joined, step]
    constructor
    · exact Concept.connections_stepAt_of_last last concept
    · rw [Concept.stepAt_of_last last further]
  raised index := by
    obtain ⟨concept, step, joined⟩ := get?_ofConcepts_append_right first index
    rw [joined, step]
    refine ⟨Concept.onward (ofConcepts second).length index, ?_, ?_⟩
    · rw [Concept.connections_stepAt]
    · rw [Concept.stepAt_add]

/-- Building is compositional: the workflow of two prompts on separate lines is
made of the workflows of both. -/
theorem composes_ofPrompt (first second : String) :
    Composes (ofPrompt first) (ofPrompt second) (ofPrompt (first ++ "\n" ++ second)) := by
  simp only [ofPrompt, Concept.ofPrompt_append]
  exact composes_ofConcepts _ _

-- Blank lines on both sides of the seam do not matter.
example :
    (ofPrompt ("load\n\nready?\n " ++ "\n" ++ "\n\t\nEnd")).steps =
      [⟨"step_1", .process, "load", ["step_2"]⟩, ⟨"step_2", .decision, "ready?", ["step_3"]⟩,
        ⟨"step_3", .terminal, "End", []⟩] := by
  decide

end Workflow

end Stepwise
