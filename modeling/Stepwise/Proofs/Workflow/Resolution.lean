/-
Module: Stepwise.Proofs.Workflow.Resolution
Purpose: Which references lead to a step of a workflow, and why the others do not.
Main exports: ReferenceFault.Explains, Workflow.Admits, Workflow.locate_eq_ok_iff_spells,
  Workflow.locate_eq_error_iff_explains, Workflow.resolve_eq_error_iff, Workflow.Refuses,
  Workflow.resolve_exact
-/
import Stepwise.Proofs.Step.Name
import Stepwise.Workflow

namespace Stepwise

/-!
Whether a reference leads to a step is a question of what it spells, as a number
without bound, and of the length of the workflow, which is a size.  A number that
is none is past the end of every workflow, but it is refused like a text that
spells nothing, because no ordinal is read from it.
-/

/-- What is wrong with a reference in a workflow of `length` steps. -/
def ReferenceFault.Explains (why : ReferenceFault) (length : Nat) (reference : String) : Prop :=
  match why with
  | .notAReference =>
      (∀ value, ¬ Step.Spells reference value) ∨
        ∃ value, Step.Spells reference value ∧ sizeLimit ≤ value
  | .zeroOrdinal => Step.Spells reference 0
  | .pastTheEnd => ∃ value, Step.Spells reference value ∧ length < value ∧ value < sizeLimit

/-- No two reasons have the same words. -/
theorem ReferenceFault.reason_injective : Function.Injective reason := by
  intro why other same
  cases why <;> cases other <;> first | rfl | exact absurd same (by decide)

namespace Workflow

variable {w : Workflow} {holder reference : String}

/-- The reference spells the ordinal of one of the steps. -/
def Admits (w : Workflow) (reference : String) : Prop :=
  ∃ value, Step.Spells reference value ∧ 1 ≤ value ∧ value ≤ w.length

/-- The reference is refused with a reason in words. -/
def Refuses (w : Workflow) (holder reference reason : String) : Prop :=
  ∃ why, w.resolve holder reference = .error (.malformedReference holder reference why) ∧
    why.reason = reason

/-- A reference leads to the step whose ordinal is read from it. -/
theorem locate_eq_ok_iff {index : Fin w.length} :
    w.locate reference = .ok index ↔ Step.ordinal? reference = some (index.val + 1) := by
  unfold locate
  rcases Step.ordinal? reference with _ | _ | position
  · exact ⟨nofun, nofun⟩
  · exact ⟨nofun, nofun⟩
  · by_cases inside : position < w.length
    · simp [inside, Fin.ext_iff]
    · have behind : position ≠ index.val := fun same => inside (same ▸ index.isLt)
      simp [inside, behind]

/-- What is read from a reference that leads nowhere. -/
theorem locate_eq_error_iff {why : ReferenceFault} :
    w.locate reference = .error why ↔
      match why with
      | .notAReference => Step.ordinal? reference = none
      | .zeroOrdinal => Step.ordinal? reference = some 0
      | .pastTheEnd =>
          ∃ position, Step.ordinal? reference = some (position + 1) ∧ w.length ≤ position := by
  unfold locate
  rcases Step.ordinal? reference with _ | _ | position
  · cases why <;> simp
  · cases why <;> simp
  · by_cases inside : position < w.length
    · cases why <;> simp [inside]
    · cases why <;> simp [inside, Nat.le_of_not_lt inside]

/-- A positional name leads to the step at its position. -/
theorem locate_nameOf (sized : w.length < sizeLimit) {index : Nat} (inside : index < w.length) :
    w.locate (Step.nameOf (index + 1)) = .ok ⟨index, inside⟩ :=
  locate_eq_ok_iff.mpr (Step.ordinal?_nameOf (by omega))

theorem resolve_eq_ok_iff {index : Fin w.length} :
    w.resolve holder reference = .ok index ↔ w.locate reference = .ok index := by
  unfold resolve
  cases w.locate reference with
  | ok found =>
      change (.ok found : Except WorkflowFault _) = .ok index ↔ _
      rw [Except.ok.injEq, Except.ok.injEq]
  | error why => exact ⟨nofun, nofun⟩

theorem locate_eq_error_iff_explains {why : ReferenceFault} :
    w.locate reference = .error why ↔ why.Explains w.length reference := by
  rw [locate_eq_error_iff]
  cases why with
  | notAReference => exact Step.ordinal?_eq_none_iff
  | zeroOrdinal =>
      apply Step.ordinal?_eq_some_iff.trans
      exact and_iff_left (by decide)
  | pastTheEnd =>
      constructor
      · rintro ⟨position, read, behind⟩
        obtain ⟨spelt, sized⟩ := Step.ordinal?_eq_some_iff.mp read
        exact ⟨position + 1, spelt, Nat.lt_succ_of_le behind, sized⟩
      · rintro ⟨value, spelt, behind, sized⟩
        obtain ⟨position, rfl⟩ := Nat.exists_eq_succ_of_ne_zero (Nat.ne_zero_of_lt behind)
        exact ⟨position, Step.ordinal?_eq_some_iff.mpr ⟨spelt, sized⟩, Nat.le_of_lt_succ behind⟩

/-- A refusal repeats the reference and its holder, and gives the reason. -/
theorem resolve_eq_error_iff {fault : WorkflowFault} :
    w.resolve holder reference = .error fault ↔
      ∃ why, fault = .malformedReference holder reference why ∧
        why.Explains w.length reference := by
  simp only [← locate_eq_error_iff_explains]
  unfold resolve
  cases w.locate reference with
  | ok next => exact ⟨nofun, nofun⟩
  | error why =>
      constructor
      · rintro ⟨⟩
        exact ⟨why, rfl, rfl⟩
      · rintro ⟨_, rfl, ⟨⟩⟩
        rfl

theorem refuses_iff (why : ReferenceFault) :
    w.Refuses holder reference why.reason ↔ why.Explains w.length reference := by
  constructor
  · rintro ⟨other, refused, same⟩
    obtain ⟨given, ⟨⟩, explains⟩ := resolve_eq_error_iff.mp refused
    exact ReferenceFault.reason_injective same ▸ explains
  · intro explains
    exact ⟨why, resolve_eq_error_iff.mpr ⟨why, rfl, explains⟩, rfl⟩

section Sized

variable (sized : w.length < sizeLimit)

include sized

/-- A reference leads to the step whose ordinal it spells. -/
theorem locate_eq_ok_iff_spells {index : Fin w.length} :
    w.locate reference = .ok index ↔ Step.Spells reference (index.val + 1) := by
  rw [locate_eq_ok_iff, Step.ordinal?_eq_some_iff]
  exact and_iff_left (by omega)

theorem exists_resolve_iff :
    (∃ next, w.resolve holder reference = .ok next) ↔ w.Admits reference := by
  simp only [resolve_eq_ok_iff, locate_eq_ok_iff_spells sized]
  constructor
  · rintro ⟨next, spelt⟩
    exact ⟨next.val + 1, spelt, Nat.le_add_left 1 _, next.isLt⟩
  · rintro ⟨value, spelt, positive, inside⟩
    obtain ⟨position, rfl⟩ := Nat.exists_eq_add_of_le' positive
    exact ⟨⟨position, inside⟩, spelt⟩

/-- The index and the step that a reference leads to. -/
theorem resolved_eq_ok_iff {index : Nat} {step : Step} :
    (w.resolve holder reference).map (fun next => (next.val, w.get next)) = .ok (index, step) ↔
      Step.Spells reference (index + 1) ∧ w.get? index = some step := by
  constructor
  · intro leads
    cases resolved : w.resolve holder reference with
    | error fault =>
        rw [resolved] at leads
        cases leads
    | ok next =>
        rw [resolved] at leads
        cases leads
        rw [resolve_eq_ok_iff, locate_eq_ok_iff_spells sized] at resolved
        exact ⟨resolved, List.getElem?_eq_getElem next.isLt⟩
  · rintro ⟨spelt, found⟩
    obtain ⟨inside, rfl⟩ := List.getElem?_eq_some_iff.mp found
    have located : w.locate reference = .ok ⟨index, inside⟩ :=
      (locate_eq_ok_iff_spells sized).mpr spelt
    rw [resolve_eq_ok_iff.mpr located]
    rfl

/-- A reference leads to the step whose ordinal it spells, with zeros in front
or without.  If it spells no ordinal of a step, it is refused for the one reason
that fits: it spells zero, or a size past the end, or it spells nothing or no
size.  A reader that takes digit by digit and gives up as soon as it leaves the
sizes reads the same ordinals, so that no number is taken for another one. -/
theorem resolve_exact (holder reference : String) :
    (∀ index step,
        (w.resolve holder reference).map (fun next => (next.val, w.get next)) =
            .ok (index, step) ↔
          ∃ value, Step.Spells reference value ∧ 1 ≤ value ∧ value ≤ w.length ∧
            index = value - 1 ∧ w.get? index = some step) ∧
      (w.Refuses holder reference "ordinals start at 1" ↔ Step.Spells reference 0) ∧
      (w.Refuses holder reference "ordinal is past the end of the workflow" ↔
        ∃ value, Step.Spells reference value ∧ w.length < value ∧ value < sizeLimit) ∧
      (w.Refuses holder reference "not of the form step_<n>" ↔
        (∀ value, ¬ Step.Spells reference value) ∨
          ∃ value, Step.Spells reference value ∧ sizeLimit ≤ value) ∧
      (∀ fault, w.resolve holder reference = .error fault →
        ∃ why, fault = .malformedReference holder reference why) ∧
      ∀ digits value, Text.Spells digits value →
        Step.ordinal? ("step_" ++ String.ofList digits) = digits.foldlM Text.extend? 0 := by
  refine ⟨?_, refuses_iff .zeroOrdinal, refuses_iff .pastTheEnd, refuses_iff .notAReference, ?_,
    ?_⟩
  · intro index step
    rw [resolved_eq_ok_iff sized]
    constructor
    · rintro ⟨spelt, found⟩
      have inside : index < w.length := (List.getElem?_eq_some_iff.mp found).1
      exact ⟨index + 1, spelt, Nat.le_add_left 1 index, inside, rfl, found⟩
    · rintro ⟨value, spelt, positive, -, rfl, found⟩
      rw [Nat.sub_add_cancel positive]
      exact ⟨spelt, found⟩
  · intro fault refused
    obtain ⟨why, explained, -⟩ := resolve_eq_error_iff.mp refused
    exact ⟨why, explained⟩
  · intro digits value spelt
    rw [spelt.foldlM_extend?]
    exact Step.Spells.ordinal?_eq ⟨digits, rfl, spelt⟩

end Sized

/-- A step that is connected to the one behind it. -/
def twoSteps : Workflow :=
  ⟨[⟨"step_1", .process, "load", ["step_2"]⟩, ⟨"step_2", .terminal, "end", []⟩]⟩

/-- Two is spelt by twenty zeros and a two, and not by a number that leaves two
when it is divided by the number of sizes. -/
theorem resolve_padded :
    twoSteps.length < sizeLimit ∧
      (twoSteps.resolve "step_1" "step_000000000000000000002").map
          (fun next => (next.val, twoSteps.get next)) =
        .ok (1, ⟨"step_2", .terminal, "end", []⟩) ∧
      twoSteps.Refuses "step_1" "step_18446744073709551618" "not of the form step_<n>" := by
  have sized : twoSteps.length < sizeLimit := by decide
  have two : Step.Spells "step_000000000000000000002" 2 :=
    ⟨"000000000000000000002".toList, rfl, Text.spells_iff.mpr (by decide)⟩
  have large : Step.Spells "step_18446744073709551618" (sizeLimit + 2) :=
    ⟨"18446744073709551618".toList, rfl, Text.spells_iff.mpr (by decide)⟩
  obtain ⟨leads, -⟩ := resolve_exact sized "step_1" "step_000000000000000000002"
  obtain ⟨-, -, -, refused, -⟩ := resolve_exact sized "step_1" "step_18446744073709551618"
  refine ⟨sized, ?_, ?_⟩
  · apply (leads 1 _).mpr
    exact ⟨2, two, by decide, by decide, rfl, rfl⟩
  · apply refused.mpr
    exact Or.inr ⟨sizeLimit + 2, large, Nat.le_add_right _ _⟩

end Workflow

end Stepwise
