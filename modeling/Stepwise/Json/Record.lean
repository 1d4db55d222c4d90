/-
Module: Stepwise.Json.Record
Purpose: Reading records from objects and from lists.
Main exports: Json.Field, Json.Field.of, Json.required, Json.Record, Json.Record.decoder
-/
import Stepwise.Json.Decoder
import Stepwise.Json.Skip

namespace Stepwise.Json

/-!
A record is read into a draft, in which every field may still be missing.  An
object fills the draft in the order of its members: unknown members are passed
over, and a known one may come only once.  A list fills it in the order of the
fields.  At the end the draft is finished, or its first missing field is
named.
-/

/-- A field of a record, as part of its draft. -/
structure Field (δ : Type) where
  name : String
  optional : Bool
  isSet : δ → Bool
  fromText : δ → Reader δ
  fromValue : δ → Json → Except Mismatch δ

/-- The field that is kept in one place of the draft. -/
def Field.of {δ β : Type} (name : String) (optional : Bool) (get : δ → Option β)
    (set : δ → β → δ) (decoder : Decoder β) : Field δ :=
  { name := name
    optional := optional
    isSet := fun draft => (get draft).isSome
    fromText := fun draft text => do
      let (value, rest) ← decoder.fromText text
      return (set draft value, rest)
    fromValue := fun draft value => (decoder.fromValue value).map (set draft) }

/-- The value of a field that must not be missing, or the name of the field. -/
def required {β : Type} (name : String) : Option β → Except String β
  | some value => .ok value
  | none => .error name

/-- How a type is read as a record.  Finishing gives the name of the first
field that is missing. -/
structure Record (δ α : Type) where
  name : String
  fields : List (Field δ)
  blank : δ
  finish : δ → Except String α

namespace Record

variable {δ α : Type}

/-- What is expected where a record should start. -/
def expectation (record : Record δ α) : String :=
  "struct " ++ record.name

/-- What is expected of a list that ends too early, and where it ended. -/
def tooShort (record : Record δ α) (length : Nat) : Mismatch :=
  .wrongLength length
    (record.expectation ++ " with " ++ record.fields.length.repr ++ " elements")

/-- The field with a name. -/
def field? (record : Record δ α) (name : String) : Option (Field δ) :=
  record.fields.find? fun field => field.name == name

/-- Finishes a draft. -/
def complete (record : Record δ α) (draft : δ) : Except Mismatch α :=
  (record.finish draft).mapError .missingField

/-! ### From a text -/

/-- Reads a member behind its key into the draft. -/
def readMember (record : Record δ α) (draft : δ) (key : String) : Reader δ := fun text => do
  match record.field? key with
  | none => return (draft, ← skipValue (← readColon text))
  | some field =>
      if field.isSet draft then .error (.mismatch (.duplicateField key))
      else field.fromText draft (← readColon text)

/-- Reads an object behind its opening bracket. -/
def readObject (record : Record δ α) : Reader α := fun text => do
  let (draft, rest) ← readMembers record.readMember record.blank text
  return (← (record.complete draft).mapError .mismatch, rest)

/-- Goes on without the given fields, the first of which has an index, when the
list has ended. -/
def leaveOut (record : Record δ α) (index : Nat) (fields : List (Field δ)) (draft : δ) :
    Except Mismatch δ :=
  match fields.findIdx? fun field => !field.optional with
  | none => .ok draft
  | some position => .error (record.tooShort (index + position))

/-- Reads the items of a list into the fields from an index on, and then passes
over the closing bracket. -/
def readFields (record : Record δ α) : Nat → List (Field δ) → δ → Reader δ
  | _, [], draft, text => do return (draft, ← endItems text)
  | index, field :: fields, draft, text => do
      match ← nextItem (index == 0) text with
      | .close rest =>
          return (← (record.leaveOut index (field :: fields) draft).mapError .mismatch, rest)
      | .part rest =>
          let (draft, rest) ← field.fromText draft rest
          record.readFields (index + 1) fields draft rest

/-- Reads a list behind its opening bracket. -/
def readList (record : Record δ α) : Reader α := fun text => do
  let (draft, rest) ← record.readFields 0 record.fields record.blank text
  return (← (record.complete draft).mapError .mismatch, rest)

/-! ### From a value -/

/-- Takes a member into the draft. -/
def takeMember (record : Record δ α) (draft : δ) (member : String × Json) :
    Except Mismatch δ :=
  match record.field? member.1 with
  | none => .ok draft
  | some field =>
      if field.isSet draft then .error (.duplicateField member.1)
      else field.fromValue draft member.2

/-- Takes items into the fields from an index on, and gives back the items for
which there is no field. -/
def takeItems (record : Record δ α) :
    Nat → List (Field δ) → δ → List Json → Except Mismatch (δ × List Json)
  | _, [], draft, values => .ok (draft, values)
  | index, field :: fields, draft, [] => do
      return (← record.leaveOut index (field :: fields) draft, [])
  | index, field :: fields, draft, value :: values => do
      record.takeItems (index + 1) fields (← field.fromValue draft value) values

/-- The record that a value is. -/
def ofValue (record : Record δ α) : Json → Except Mismatch α
  | .obj members => do
      record.complete (← members.foldlM record.takeMember record.blank)
  | .arr values => do
      let (draft, left) ← record.takeItems 0 record.fields record.blank values
      let result ← record.complete draft
      if left.isEmpty then return result
      else .error (.wrongLength values.length "fewer elements in array")
  | value => .error (wrongValue record.expectation value)

/-- The decoder of a record. -/
def decoder (record : Record δ α) : Decoder α :=
  { fromText := fun text =>
      match skipSpace text with
      | '\x7b' :: rest => record.readObject rest
      | '[' :: rest => record.readList rest
      | text => .error (wrongStart record.expectation text)
    fromValue := record.ofValue }

end Record

end Stepwise.Json
