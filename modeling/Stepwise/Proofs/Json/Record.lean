/-
Module: Stepwise.Proofs.Json.Record
Purpose: A record is read from a text by taking the members as they were written.
Main exports: Json.Behaves, Json.fills_of_behaves, Json.Record.Suits, Json.Record.read_write,
  Json.Record.foldlM_takeMember_selected
-/
import Stepwise.Proofs.Json.Decoder
import Stepwise.Proofs.Json.Order
import Stepwise.Proofs.Json.Skip

namespace Stepwise.Json

/-!
Reading straight from a text and taking the members of a value differ in the order of
the members, and in nothing else.  From a text they come in the order in which they
were written, repeated keys included.  So the result of reading is what taking them
in that order gives, and the fault is the mismatch at the first member that is not
taken, or at the end.
-/

/-! ### Members -/

section Members

variable {σ β : Type} {member : σ → String → Reader σ} {spacing : Spacing}
  {entry : β → String × Json} {step : σ → β → Except Fault σ} {elements : List β}

/-- In every state a reader of members does with a written member what a step does. -/
def Behaves (member : σ → String → Reader σ) (spacing : Spacing) (depth : Nat)
    (written : String × Json) (step : σ → Except Fault σ) : Prop :=
  ∀ state, Meets member spacing depth state written (step state)

/-- Written members are taken one after the other, up to the first fault. -/
theorem fills_of_behaves {depth : Nat}
    (behaves : ∀ element ∈ elements,
      Behaves member spacing depth (entry element) fun state => step state element)
    (state : σ) :
    Fills member spacing depth state (elements.map entry) (elements.foldlM step state) := by
  induction elements generalizing state with
  | nil => exact .nil
  | cons element elements ih =>
      rw [List.forall_mem_cons] at behaves
      rw [List.map_cons, List.foldlM_cons]
      have met : Meets member spacing depth state (entry element) (step state element) :=
        behaves.1 state
      cases taken : step state element with
      | error fault =>
          rw [taken] at met
          exact .fault met
      | ok next =>
          rw [taken] at met
          exact .cons met (ih behaves.2 next)

end Members

/-! ### Records -/

namespace Record

variable {δ α : Type} {record : Record δ α}

/-- A member that a record passes over because its key is unknown, or takes into every
draft in which its field is not set. -/
inductive Suits (record : Record δ α) : String × Json → Prop where
  | unknown {key : String} {value : Json} (unknown : record.field? key = none)
      (scalar : value.isScalar = true) : record.Suits (key, value)
  | known {key : String} {value : Json} {field : Field δ} (known : record.field? key = some field)
      (takes : ∀ draft, field.isSet draft = false → ∃ next, field.Takes draft value next) :
      record.Suits (key, value)

/-- A member behind its key is read as it is taken. -/
theorem Suits.behaves {entry : String × Json} (suits : record.Suits entry) {spacing : Spacing}
    (spaced : spacing.Blank) (depth : Nat) :
    Behaves record.readMember spacing depth entry fun draft =>
      (record.takeMember draft (entry.1, entry.2.normal)).mapError .mismatch := by
  intro draft rest ended
  cases suits with
  | @unknown key value unknown scalar =>
      have skipped := skips_write spacing depth scalar _ rest spaced.afterColon ended
      simp [Record.readMember, takeMember, unknown, readColon_cons, skipped, Except.map,
        Except.mapError, pure, Except.pure, bind, Except.bind]
  | @known key value field known takes =>
      cases set : field.isSet draft with
      | true => simp [Record.readMember, takeMember, known, set, Except.map, Except.mapError]
      | false =>
          obtain ⟨next, taken⟩ := takes draft set
          have read := (taken.reads spacing spaced depth).read _ rest spaced.afterColon ended
          simp [Record.readMember, takeMember, known, set, readColon_cons, read, taken.fromValue,
            Except.map, Except.mapError, bind, Except.bind]

theorem foldlM_mapError {σ β ε ε' : Type} (convert : ε → ε') (take : σ → β → Except ε σ)
    (state : σ) (entries : List β) :
    entries.foldlM (fun state entry => (take state entry).mapError convert) state =
      (entries.foldlM take state).mapError convert := by
  induction entries generalizing state with
  | nil => rfl
  | cons entry entries ih =>
      rw [List.foldlM_cons, List.foldlM_cons]
      cases take state entry with
      | error fault => rfl
      | ok next => exact ih next

/-- A record is read from the text of an object as it is taken from the members in the
order in which they were written. -/
theorem read_write {members : List (String × Json)} {spacing : Spacing}
    (suits : ∀ entry ∈ members, record.Suits entry) (spaced : spacing.Blank) (depth : Nat) :
    record.decoder.read (String.ofList (write spacing depth (.obj members))) =
      (record.ofValue (.obj (members.map fun member => (member.1, member.2.normal)))).mapError
        .mismatch := by
  have fills := fills_of_behaves
    (fun entry held => (suits entry held).behaves spaced (depth + 1)) record.blank
  obtain ⟨tail, opening, read⟩ := readMembers_write spaced depth fills
  rw [List.map_id'] at opening
  have read_all := read []
  rw [List.append_nil, foldlM_mapError] at read_all
  have bracket : skipSpace ('\x7b' :: tail) = '\x7b' :: tail := skipSpace_cons (by decide) tail
  rw [ofValue, List.foldlM_map, Decoder.read, readWhole, String.toList_ofList, opening]
  simp only [decoder, bracket, readObject, read_all]
  cases members.foldlM
    (fun draft member => record.takeMember draft (member.1, member.2.normal)) record.blank with
  | error why => rfl
  | ok draft =>
      simp only [Except.map, Except.mapError, pure, Except.pure, bind, Except.bind]
      cases record.complete draft <;> rfl

/-- Members with unknown keys do not count. -/
theorem foldlM_takeMember_selected (entries : List (String × Json)) (draft : δ) :
    entries.foldlM record.takeMember draft =
      (selected (fun key => (record.field? key).isSome) entries).foldlM record.takeMember
        draft := by
  induction entries generalizing draft with
  | nil => rfl
  | cons entry entries ih =>
      cases known : record.field? entry.1 with
      | none =>
          have passed : record.takeMember draft entry = .ok draft := by
            simp [takeMember, known]
          rw [List.foldlM_cons, passed, selected, List.filter_cons_of_neg (by simp [known])]
          exact ih draft
      | some field =>
          rw [selected, List.filter_cons_of_pos (by simp [known]), List.foldlM_cons,
            List.foldlM_cons]
          exact bind_congr ih

end Record

end Stepwise.Json
