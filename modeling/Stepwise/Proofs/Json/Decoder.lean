/-
Module: Stepwise.Proofs.Json.Decoder
Purpose: Decoders that take a written value for the one it was written from.
Main exports: Json.Decoder.Accepts, Json.Decoder.accepts_text, Json.Decoder.accepts_choice,
  Json.Decoder.accepts_list, Json.Decoder.Accepts.map, Json.Record.Fills,
  Json.Record.accepts, Json.Decoder.Accepts.read, Json.Decoder.Accepts.readThrough
-/
import Stepwise.Json.Record
import Stepwise.Proofs.Json.Value

namespace Stepwise.Json

/-!
A decoder works in two ways, from a text and from a value, and `Accepts` asks
the same of both: what was written for a typed value is read as that value.
Decoders are built from smaller ones, and so are the proofs.  A record is
filled member by member.  From a text it meets the members as they were
written, and from a value in the order of their keys, so it has to be filled
in both orders.
-/

/-- A decoder takes a written value for a typed one, from each of its texts and
from the value that the texts are read as. -/
structure Decoder.Accepts {α : Type} (decoder : Decoder α) (written : Json) (value : α) :
    Prop where
  reads : ∀ spacing : Spacing, spacing.Blank → ∀ depth,
    Reads decoder.fromText (write spacing depth written) value
  fromValue : decoder.fromValue written.normal = .ok value

namespace Decoder

/-! ### Scalars -/

theorem accepts_text (content : String) : text.Accepts (.str content) content where
  reads spacing _ depth := by
    rw [write, quoted]
    refine Reads.of_skipSpace rfl (by decide) fun source rest opening _ => ?_
    simp [text, opening, readText_written]
  fromValue := rfl

theorem accepts_choice {α : Type} {choices : List (String × α)} {name : String} {value : α}
    (known : choices.lookup name = some value) :
    (choice choices).Accepts (.str name) value where
  reads spacing _ depth := by
    rw [write, quoted]
    refine Reads.of_skipSpace rfl (by decide) fun source rest opening _ => ?_
    simp [choice, opening, readChoice, readText_written, select, known, Except.mapError, pure,
      Except.pure, bind, Except.bind]
  fromValue := by simp [choice, normal, select, known]

/-! ### Lists -/

theorem mapM_fromValue {α : Type} {item : Decoder α} {toJson : α → Json}
    (accepts : ∀ value, item.Accepts (toJson value) value) (values : List α) :
    (normalItems (values.map toJson)).mapM item.fromValue = .ok values := by
  induction values with
  | nil => rfl
  | cons value values ih =>
      simp [normalItems, (accepts value).fromValue, ih, pure, Except.pure, bind, Except.bind]

theorem accepts_list {α : Type} {item : Decoder α} {toJson : α → Json}
    (accepts : ∀ value, item.Accepts (toJson value) value) (values : List α) :
    (list item).Accepts (.arr (values.map toJson)) values where
  reads spacing spaced depth := by
    have every : List.Forall₂
        (fun written value => Reads item.fromText (write spacing (depth + 1) written) value)
        (values.map toJson) values :=
      List.forall₂_map_left_iff.mpr
        (List.forall₂_same.mpr fun value _ => (accepts value).reads spacing spaced (depth + 1))
    obtain ⟨tail, opening, read⟩ := readItems_write spaced depth every
    refine Reads.of_skipSpace opening (by decide) fun source rest opens _ => ?_
    simp [list, opens, read rest]
  fromValue := by simp [list, normal, mapM_fromValue accepts]

/-! ### Converted values -/

theorem Accepts.map {α β : Type} {decoder : Decoder α} {written : Json} {value : α}
    (accepts : decoder.Accepts written value) (convert : α → β) :
    (decoder.map convert).Accepts written (convert value) where
  reads spacing spaced depth := (accepts.reads spacing spaced depth).map convert
  fromValue := by simp [Decoder.map, accepts.fromValue, Except.map]

end Decoder

/-! ### Records -/

section Record

variable {δ α β : Type}

/-- A field takes a written value into a draft in which it is not set. -/
structure Field.Takes (field : Field δ) (draft : δ) (written : Json) (next : δ) : Prop where
  unset : field.isSet draft = false
  reads : ∀ spacing : Spacing, spacing.Blank → ∀ depth,
    Reads (field.fromText draft) (write spacing depth written) next
  fromValue : field.fromValue draft written.normal = .ok next

theorem Field.takes_of {name : String} {optional : Bool} {get : δ → Option β} {set : δ → β → δ}
    {decoder : Decoder β} {draft : δ} {written : Json} {value : β}
    (unset : get draft = none) (accepts : decoder.Accepts written value) :
    (Field.of name optional get set decoder).Takes draft written (set draft value) where
  unset := by simp [Field.of, unset]
  reads spacing spaced depth := (accepts.reads spacing spaced depth).map (set draft)
  fromValue := by simp [Field.of, accepts.fromValue, Except.map]

namespace Record

variable {record : Record δ α}

/-- The fields of a record take written members into a draft, one after the
other. -/
inductive Fills (record : Record δ α) : δ → List (String × Json) → δ → Prop where
  | nil {draft : δ} : record.Fills draft [] draft
  | cons {draft next final : δ} {field : Field δ} {key : String} {written : Json}
      {members : List (String × Json)}
      (known : record.field? key = some field) (takes : field.Takes draft written next)
      (others : record.Fills next members final) :
      record.Fills draft ((key, written) :: members) final

variable {draft final : δ} {members : List (String × Json)}

theorem Fills.readMember (fills : record.Fills draft members final) {spacing : Spacing}
    (spaced : spacing.Blank) (depth : Nat) :
    Json.Fills record.readMember spacing depth draft members (.ok final) := by
  induction fills with
  | nil => exact .nil
  | cons known takes others ih =>
      refine .cons (fun rest ended => ?_) ih
      have read := (takes.reads spacing spaced depth).read _ rest spaced.afterColon ended
      simp [Record.readMember, known, takes.unset, readColon_cons, read, Except.map, bind,
        Except.bind]

theorem Fills.takeMember (fills : record.Fills draft members final) :
    (members.map fun member => (member.1, member.2.normal)).foldlM record.takeMember draft =
      .ok final := by
  induction fills with
  | nil => rfl
  | cons known takes others ih =>
      simp [Record.takeMember, known, takes.unset, takes.fromValue, ih, bind, Except.bind]

/-- A record takes an object for a value when its members fill the draft both as
they are written and in the order of their keys. -/
theorem accepts {sorted : List (String × Json)} {value : α}
    (fills : record.Fills record.blank members final)
    (sorts : normalMembers [] members = sorted.map fun member => (member.1, member.2.normal))
    (fills_sorted : record.Fills record.blank sorted final)
    (finishes : record.finish final = .ok value) :
    record.decoder.Accepts (.obj members) value where
  reads spacing spaced depth := by
    obtain ⟨tail, opening, read⟩ :=
      readMembers_write spaced depth (fills.readMember spaced (depth + 1))
    refine Reads.of_skipSpace opening (by decide) fun source rest opens _ => ?_
    simp [decoder, opens, readObject, read rest, complete, finishes, Except.map, Except.mapError,
      pure, Except.pure, bind, Except.bind]
  fromValue := by
    simp [decoder, ofValue, normal, sorts, fills_sorted.takeMember, complete, finishes,
      Except.mapError, bind, Except.bind]

end Record

end Record

/-! ### Whole texts -/

namespace Decoder

variable {α : Type} {decoder : Decoder α} {written : Json} {value : α} {spacing : Spacing}

theorem Accepts.read (accepts : decoder.Accepts written value) (spaced : spacing.Blank)
    (depth : Nat) :
    decoder.read (String.ofList (write spacing depth written)) = .ok value :=
  (accepts.reads spacing spaced depth).readWhole

theorem Accepts.readThrough (accepts : decoder.Accepts written value) (spaced : spacing.Blank)
    (fits : written.fits depthLimit = true) (depth : Nat) :
    decoder.readThrough (String.ofList (write spacing depth written)) = .ok value := by
  simp [Decoder.readThrough, parse_write spaced fits, accepts.fromValue, Except.mapError, bind,
    Except.bind]

end Decoder

end Stepwise.Json
