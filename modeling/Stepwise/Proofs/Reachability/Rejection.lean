/-
Module: Stepwise.Proofs.Reachability.Rejection
Purpose: Which workflows validation rejects, and which of their defects it reports.
Main exports: Workflow.misnamed?_eq_some_iff, Workflow.targets_eq_error_iff, Workflow.FirstDefect,
  Workflow.validate_eq_error_iff, Workflow.validate_exact
-/
import Stepwise.Proofs.Reachability.Acceptance

namespace Stepwise

/-!
A workflow can have many defects, and validation reports one of them.  All names
are looked at before any connection is, so a wrong name hides the broken
connections in front of it.  Among defects of one sort the first one counts, for
connections by the step and then by the place in its list.
-/

namespace Workflow

variable {w : Workflow} {fault : WorkflowFault}

/-- The fault of the names is that of the first wrong one. -/
theorem misnamed?_eq_some_iff :
    w.misnamed? = some fault ↔
      ∃ index : Fin w.length, fault = .misnamedStep index (w.get index).name ∧
        (w.get index).name ≠ Step.nameOf (index.val + 1) ∧
        ∀ earlier < index, (w.get earlier).name = Step.nameOf (earlier.val + 1) := by
  simp only [misnamed?, Option.map_eq_some_iff, List.find?_eq_some_iff_getElem]
  constructor
  · rintro ⟨_, ⟨wrong, index, inside, rfl, first⟩, rfl⟩
    rw [List.length_zipIdx] at inside
    refine ⟨⟨index, inside⟩, ?_, ?_, fun earlier before => ?_⟩
    · simp [get]
    · simpa [get] using wrong
    · simpa [get] using first earlier.val before
  · rintro ⟨index, rfl, wrong, first⟩
    refine ⟨(w.get index, index.val), ⟨?_, index.val, ?_, ?_, fun earlier before => ?_⟩, rfl⟩
    · simpa using wrong
    · simp
    · simp [get]
    · simpa [get] using first ⟨earlier, before.trans index.isLt⟩ before

/-- The fault of the connections is that of the first one that leads nowhere. -/
theorem targets_eq_error_iff :
    w.targets = .error fault ↔
      ∃ index : Fin w.length,
        (∃ position : Fin (w.get index).connections.length,
          w.resolve (w.get index).name ((w.get index).connections.get position) = .error fault ∧
            ∀ earlier < position, ∃ next,
              w.resolve (w.get index).name ((w.get index).connections.get earlier) = .ok next) ∧
          ∀ earlier < index, ∀ reference ∈ (w.get earlier).connections,
            ∃ next, w.resolve (w.get earlier).name reference = .ok next := by
  simp only [targets, mapM_eq_error_iff, exists_mapM_eq_ok_iff]
  rfl

/-- Connections are looked at when all names are right. -/
theorem validate_eq_error_iff :
    w.validate = .error fault ↔
      w.misnamed? = some fault ∨ w.Positional ∧ w.targets = .error fault := by
  rw [Positional, ← misnamed?_eq_none_iff, validate]
  cases w.misnamed? with
  | some other => simp
  | none => simp [bind_eq_error_iff, pure, Except.pure]

/-- The name of every step is the stem with the ordinal of its position, without
zeros in front. -/
def Named (w : Workflow) : Prop :=
  ∀ index : Fin w.length, Step.Bears (w.get index).name (index.val + 1)

/-- The defect of a workflow that counts.  A wrong name counts if the names in
front of it are right, whatever the connections are like.  A connection without
a target counts if all names are right, and all connections in front of it, in
its own step and in earlier ones, have targets. -/
inductive FirstDefect (w : Workflow) : WorkflowFault → Prop where
  | misnamed (index : Fin w.length)
      (wrong : ¬ Step.Bears (w.get index).name (index.val + 1))
      (first : ∀ earlier < index, Step.Bears (w.get earlier).name (earlier.val + 1)) :
      FirstDefect w (.misnamedStep index (w.get index).name)
  | misleading (named : w.Named) (index : Fin w.length)
      (position : Fin (w.get index).connections.length) {why : ReferenceFault}
      (wrong : why.Explains w.length ((w.get index).connections.get position))
      (first : ∀ earlier < position, w.Admits ((w.get index).connections.get earlier))
      (before : ∀ earlier < index, ∀ reference ∈ (w.get earlier).connections, w.Admits reference) :
      FirstDefect w
        (.malformedReference (w.get index).name ((w.get index).connections.get position) why)

theorem bears_iff_name_eq {index : Fin w.length} :
    Step.Bears (w.get index).name (index.val + 1) ↔
      (w.get index).name = Step.nameOf (index.val + 1) :=
  Step.bears_iff (Nat.succ_pos _)

theorem named_iff_positional : w.Named ↔ w.Positional :=
  forall_congr' fun _ => bears_iff_name_eq

/-- The search for a wrong name and the search for a connection without a target
find the defect that counts. -/
theorem firstDefect_iff (sized : w.length < sizeLimit) :
    w.FirstDefect fault ↔ w.misnamed? = some fault ∨ w.Positional ∧ w.targets = .error fault := by
  simp only [misnamed?_eq_some_iff, targets_eq_error_iff, exists_resolve_iff sized,
    ← named_iff_positional, ← bears_iff_name_eq, ne_eq]
  constructor
  · intro defect
    cases defect with
    | misnamed index wrong first => exact Or.inl ⟨index, rfl, wrong, first⟩
    | @misleading named index position why wrong first before =>
        apply Or.inr
        refine ⟨named, index, ⟨position, ?_, first⟩, before⟩
        exact resolve_eq_error_iff.mpr ⟨why, rfl, wrong⟩
  · rintro (⟨index, rfl, wrong, first⟩ | ⟨named, index, ⟨position, refused, first⟩, before⟩)
    · exact .misnamed index wrong first
    · obtain ⟨why, rfl, wrong⟩ := resolve_eq_error_iff.mp refused
      exact .misleading named index position wrong first before

/-- Validation accepts a workflow exactly if the steps are named by their
positions and every connection spells the ordinal of a step.  Any other workflow
is rejected with the one of its defects that counts. -/
theorem validate_exact (sized : w.length < sizeLimit) :
    ((∃ names, w.validate = .ok names) ↔
        w.Named ∧ ∀ index : Fin w.length, ∀ reference ∈ (w.get index).connections,
          w.Admits reference) ∧
      ∀ fault, w.validate = .error fault ↔ w.FirstDefect fault := by
  constructor
  · rw [validate_accepts_iff, named_iff_positional]
    simp only [Resolving, exists_resolve_iff sized]
  · intro fault
    rw [validate_eq_error_iff, firstDefect_iff sized]

/-- Two steps, of which both have connections that lead nowhere, and the name of
the second is open. -/
def defective (second : String) : Workflow :=
  ⟨[⟨"step_1", .process, "load", ["step_02", "step_0", "ghost"]⟩,
    ⟨second, .terminal, "end", ["step_3"]⟩]⟩

/-- A zero in front is wrong in a name and not in a connection.  A wrong name of
the second step is reported before the connections of the first, and if the name
is right, the first of them that leads nowhere is reported. -/
theorem validate_defective :
    (defective "step_02").length < sizeLimit ∧ (defective "step_2").length < sizeLimit ∧
      (defective "step_02").validate = .error (.misnamedStep 1 "step_02") ∧
      (defective "step_2").validate =
        .error (.malformedReference "step_1" "step_0" .zeroOrdinal) := by
  have sized : (defective "step_02").length < sizeLimit := by decide
  have sized' : (defective "step_2").length < sizeLimit := by decide
  refine ⟨sized, sized', ?_, ?_⟩
  · apply ((validate_exact sized).2 _).mpr
    apply FirstDefect.misnamed (w := defective "step_02") ⟨1, by decide⟩
    · rw [bears_iff_name_eq]
      decide
    · simp only [bears_iff_name_eq]
      decide
  · apply ((validate_exact sized').2 _).mpr
    have named : (defective "step_2").Named := by
      simp only [Named, bears_iff_name_eq]
      decide
    have two : Step.Spells "step_02" 2 := ⟨['0', '2'], rfl, Text.spells_iff.mpr (by decide)⟩
    have zero : Step.Spells "step_0" 0 := ⟨['0'], rfl, Text.spells_iff.mpr (by decide)⟩
    have wrong : ReferenceFault.zeroOrdinal.Explains (defective "step_2").length "step_0" := zero
    apply FirstDefect.misleading named ⟨0, by decide⟩ ⟨1, by decide⟩ wrong
    · intro earlier before
      obtain rfl : earlier = ⟨0, by decide⟩ := Fin.ext (Nat.lt_one_iff.mp before)
      exact ⟨2, two, by decide, by decide⟩
    · exact fun earlier before => absurd before (Nat.not_lt_zero earlier)

end Workflow

end Stepwise
