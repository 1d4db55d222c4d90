/-
Module: Stepwise.Proofs.Form.Member
Purpose: The members of an object that may be a step, and what taking them comes to.
Main exports: Step.Part, Step.Member, Step.objectText, Step.take_of_has, Step.take_of_fresh,
  Step.uses, Step.foldlM_take_of_le, Step.foldlM_take_of_two_le, Step.read_objectText
-/
import Stepwise.Proofs.Form.Step
import Stepwise.Proofs.Json.Record

namespace Stepwise.Step

open Json (Decoder)

/-!
A draft has four places, and every member either fills one of them or is passed over.
What counts is how often each part has been given, in the draft and in the members
that are still to come: taking a member moves it from one to the other.  So all
members are taken if no part is given twice, and otherwise the first one that gives a
part again is a duplicate.
-/

/-- The parts of a step. -/
inductive Part where
  | name
  | kind
  | instruction
  | connections
deriving Repr, Inhabited, DecidableEq

/-- The key under which a part is given. -/
def Part.key : Part → String
  | .name => "name"
  | .kind => "step_type"
  | .instruction => "instruction"
  | .connections => "connections"

/-- A member of an object: a part of a step, or a scalar under any other key. -/
inductive Member where
  | name (text : String)
  | kind (choice : StepKind)
  | instruction (text : String)
  | connections (names : List String)
  | further (key : String) (value : Json) (other : ∀ part : Part, key ≠ part.key)
      (scalar : value.isScalar = true)

namespace Member

/-- The part of a step that a member gives. -/
def part? : Member → Option Part
  | .name _ => some .name
  | .kind _ => some .kind
  | .instruction _ => some .instruction
  | .connections _ => some .connections
  | .further _ _ _ _ => none

/-- A member in its JSON form. -/
def toJson : Member → String × Json
  | .name text => (Part.name.key, .str text)
  | .kind choice => (Part.kind.key, choice.toJson)
  | .instruction text => (Part.instruction.key, .str text)
  | .connections names => (Part.connections.key, .ofStrings names)
  | .further key value _ _ => (key, value)

end Member

/-- The text of an object with the given members. -/
def objectText (spacing : Json.Spacing) (depth : Nat) (members : List Member) : String :=
  String.ofList (Json.write spacing depth (.obj (members.map Member.toJson)))

/-! ### Taking one member -/

namespace Draft

/-- Whether a part is in the draft. -/
def has (draft : Draft) : Part → Bool
  | .name => draft.name.isSome
  | .kind => draft.kind.isSome
  | .instruction => draft.instruction.isSome
  | .connections => draft.connections.isSome

/-- The draft with what a member gives. -/
def add (draft : Draft) : Member → Draft
  | .name name => { draft with name := some name }
  | .kind kind => { draft with kind := some kind }
  | .instruction text => { draft with instruction := some text }
  | .connections names => { draft with connections := some names }
  | .further _ _ _ _ => draft

theorem has_add (draft : Draft) (member : Member) (part : Part) :
    (draft.add member).has part = (draft.has part || member.part? == some part) := by
  cases member <;> cases part <;> simp [add, has, Member.part?]

end Draft

theorem field?_eq_none {key : String} (other : ∀ part : Part, key ≠ part.key) :
    record.field? key = none := by
  have fields : record.fields.map Json.Field.name =
      [Part.name, .kind, .instruction, .connections].map Part.key := rfl
  rw [Json.Record.field?, List.find?_eq_none]
  intro field held
  have name : field.name ∈ record.fields.map Json.Field.name := List.mem_map_of_mem held
  rw [fields] at name
  obtain ⟨part, -, same⟩ := List.mem_map.mp name
  rw [← same, beq_iff_eq]
  exact (other part).symm

/-- What a member gives is taken by a field into the place of its part. -/
structure Placed (member : Member) (part : Part) (field : Json.Field Draft) : Prop where
  key : member.toJson.1 = part.key
  known : record.field? part.key = some field
  isSet : ∀ draft, field.isSet draft = draft.has part
  takes : ∀ draft, draft.has part = false →
    field.Takes draft member.toJson.2 (draft.add member)

/-- The fields of the record are those of the parts. -/
theorem exists_placed {member : Member} {part : Part} (known : member.part? = some part) :
    ∃ field, Placed member part field := by
  have empty {β : Type} {place : Option β} (unset : place.isSome = false) : place = none :=
    Option.not_isSome_iff_eq_none.mp (Bool.eq_false_iff.mp unset)
  cases member with
  | name text =>
      obtain rfl := Option.some.inj known
      exact ⟨_, rfl, rfl, fun _ => rfl, fun _ unset =>
        Json.Field.takes_of (empty unset) (Decoder.accepts_text text)⟩
  | kind choice =>
      obtain rfl := Option.some.inj known
      exact ⟨_, rfl, rfl, fun _ => rfl, fun _ unset =>
        Json.Field.takes_of (empty unset) (StepKind.accepts_toJson choice)⟩
  | instruction text =>
      obtain rfl := Option.some.inj known
      exact ⟨_, rfl, rfl, fun _ => rfl, fun _ unset =>
        Json.Field.takes_of (empty unset) (Decoder.accepts_text text)⟩
  | connections names =>
      obtain rfl := Option.some.inj known
      exact ⟨_, rfl, rfl, fun _ => rfl, fun _ unset =>
        Json.Field.takes_of (empty unset) (Json.accepts_ofStrings names)⟩
  | further => contradiction

theorem suits_toJson (member : Member) : record.Suits member.toJson := by
  cases given : member.part? with
  | none =>
      cases member with
      | further key value other scalar => exact .unknown (field?_eq_none other) scalar
      | _ => contradiction
  | some part =>
      obtain ⟨field, placed⟩ := exists_placed given
      have suits : record.Suits (part.key, member.toJson.2) := by
        refine .known placed.known fun draft unset => ?_
        rw [placed.isSet] at unset
        exact ⟨_, placed.takes draft unset⟩
      rwa [← placed.key] at suits

/-- Nothing in a member has to be brought into another order. -/
theorem normal_toJson (member : Member) : member.toJson.2.normal = member.toJson.2 := by
  cases member with
  | further key value other scalar => exact Json.normal_of_isScalar scalar
  | connections names =>
      induction names <;> simp_all [Member.toJson, Json.normal, Json.ofStrings, Json.normalItems]
  | _ => simp [Member.toJson, StepKind.toJson, Json.normal]

/-- Takes a member into a draft. -/
def take (draft : Draft) (member : Member) : Except Json.Mismatch Draft :=
  record.takeMember draft member.toJson

/-- A part that the draft has is not taken again. -/
theorem take_of_has {member : Member} {part : Part} (given : member.part? = some part)
    {draft : Draft} (has : draft.has part = true) :
    take draft member = .error (.duplicateField part.key) := by
  obtain ⟨field, placed⟩ := exists_placed given
  simp [take, Json.Record.takeMember, placed.key, placed.known, placed.isSet, has]

/-- A member that gives nothing the draft has is taken. -/
theorem take_of_fresh {draft : Draft} {member : Member}
    (fresh : ∀ part, member.part? = some part → draft.has part = false) :
    take draft member = .ok (draft.add member) := by
  cases given : member.part? with
  | none =>
      cases member with
      | further key value other scalar =>
          simp [take, Json.Record.takeMember, Member.toJson, field?_eq_none other, Draft.add]
      | _ => contradiction
  | some part =>
      obtain ⟨field, placed⟩ := exists_placed given
      have unset := fresh part given
      have taken := (placed.takes draft unset).fromValue
      rw [normal_toJson] at taken
      simp [take, Json.Record.takeMember, placed.key, placed.known, placed.isSet, unset, taken]

/-! ### Taking all members -/

/-- How often a part is given, by a draft and by the members that are to come. -/
def uses (draft : Draft) (members : List Member) (part : Part) : Nat :=
  (draft.has part).toNat + (members.filterMap Member.part?).count part

theorem has_blank (part : Part) : Draft.blank.has part = false := by
  cases part <;> rfl

theorem uses_blank (members : List Member) (part : Part) :
    uses .blank members part = (members.filterMap Member.part?).count part := by
  rw [uses, has_blank]
  exact Nat.zero_add _

/-- Taking a member moves what it gives from the members to the draft. -/
theorem uses_add {draft : Draft} {member : Member}
    (fresh : ∀ part, member.part? = some part → draft.has part = false) (members : List Member)
    (part : Part) : uses (draft.add member) members part = uses draft (member :: members) part := by
  cases given : member.part? with
  | none =>
      simp [uses, Draft.has_add, given]
  | some first =>
      simp only [uses, Draft.has_add, given, List.filterMap_cons, List.count_cons]
      by_cases same : first = part
      · subst same
        simp [fresh first given, Nat.add_comm]
      · have differ : (first == part) = false := beq_false_of_ne same
        simp [differ]

/-- If no part is given twice, all members are taken. -/
theorem foldlM_take_of_le {draft : Draft} {members : List Member}
    (once : ∀ part, uses draft members part ≤ 1) :
    members.foldlM take draft = .ok (members.foldl Draft.add draft) := by
  induction members generalizing draft with
  | nil => rfl
  | cons member members ih =>
      have fresh : ∀ part, member.part? = some part → draft.has part = false := by
        intro part given
        have single := once part
        simp only [uses, List.filterMap_cons, given, List.count_cons_self] at single
        cases has : draft.has part with
        | false => rfl
        | true =>
            rw [has, Bool.toNat_true] at single
            omega
      rw [List.foldlM_cons, take_of_fresh fresh, List.foldl_cons]
      exact ih fun part => (uses_add fresh members part).le.trans (once part)

/-- If a part is given twice, some such part is named as a duplicate. -/
theorem foldlM_take_of_two_le {draft : Draft} {members : List Member} {part : Part}
    (twice : 2 ≤ uses draft members part) :
    ∃ other, 2 ≤ uses draft members other ∧
      members.foldlM take draft = .error (.duplicateField other.key) := by
  induction members generalizing draft with
  | nil =>
      have single := Bool.toNat_le (draft.has part)
      simp [uses] at twice
      omega
  | cons member members ih =>
      by_cases fresh : ∀ part, member.part? = some part → draft.has part = false
      · rw [← uses_add fresh] at twice
        obtain ⟨other, still, failed⟩ := ih twice
        rw [uses_add fresh] at still
        refine ⟨other, still, ?_⟩
        rw [List.foldlM_cons, take_of_fresh fresh]
        exact failed
      · obtain ⟨other, given, has⟩ : ∃ part, member.part? = some part ∧ draft.has part = true := by
          simpa using fresh
        refine ⟨other, ?_, ?_⟩
        · simp [uses, has, given]
          omega
        · rw [List.foldlM_cons, take_of_has given has]
          rfl

/-! ### Whole texts -/

theorem map_normal_toJson (members : List Member) :
    ((members.map Member.toJson).map fun member => (member.1, member.2.normal)) =
      members.map Member.toJson := by
  rw [List.map_map]
  apply List.map_congr_left
  intro member _
  exact Prod.ext rfl (normal_toJson member)

/-- The text of any members is read as the members are taken. -/
theorem read_objectText {spacing : Json.Spacing} (spaced : spacing.Blank) (depth : Nat)
    (members : List Member) :
    decoder.read (objectText spacing depth members) =
      (record.ofValue (.obj (members.map Member.toJson))).mapError .mismatch := by
  have suits : ∀ entry ∈ members.map Member.toJson, record.Suits entry := by
    intro entry held
    obtain ⟨member, -, rfl⟩ := List.mem_map.mp held
    exact suits_toJson member
  have read := Json.Record.read_write suits spaced depth
  rwa [map_normal_toJson] at read

end Stepwise.Step
