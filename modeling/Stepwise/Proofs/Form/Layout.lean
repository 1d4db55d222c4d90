/-
Module: Stepwise.Proofs.Form.Layout
Purpose: How the object of a step is laid out does not matter.
Main exports: Step.LaidOut, Step.LaidOut.finish, Step.LaidOut.ofValue, Step.Reread,
  Step.LaidOut.fromValue, Step.LaidOut.readThrough, Step.Wrong, Step.ofValue_of_wrong,
  Step.layout_irrelevant
-/
import Stepwise.Proofs.Except
import Stepwise.Proofs.Form.Member
import Stepwise.Proofs.Json.Outcome

namespace Stepwise.Step

open Json (Decoder)

/-!
Different places of a draft do not get in each other's way.  So members that give
every part once make up the same step in any order, both in the order in which they
were written and in that of their keys.  Members that are passed over may even be read
as other ones, as a double is that comes back with another value.
-/

/-! ### The finished step -/

/-- The members of a step. -/
def members (step : Step) : List Member :=
  [.name step.name, .kind step.kind, .instruction step.instruction,
    .connections step.connections]

/-- The members that are not passed over. -/
def known (members : List Member) : List Member :=
  members.filter fun member => member.part?.isSome

/-- The members make up an object of a step: its own members are among them, in any
order, and if it has no connections, these may be missing. -/
inductive LaidOut (step : Step) (members : List Member) : Prop where
  | complete (order : (known members).Perm step.members)
  | unconnected (none : step.connections = [])
      (order : (known members).Perm
        [.name step.name, .kind step.kind, .instruction step.instruction])

theorem foldl_add_known (members : List Member) (draft : Draft) :
    (known members).foldl Draft.add draft = members.foldl Draft.add draft := by
  rw [known, List.foldl_filter]
  congr
  funext draft member
  cases member <;> rfl

theorem filterMap_known (members : List Member) :
    (known members).filterMap Member.part? = members.filterMap Member.part? := by
  rw [known, List.filterMap_filter]
  congr
  funext member
  cases member <;> rfl

variable {step : Step} {members : List Member}

/-- What is given in a layout of a step: enough of its members, each once. -/
theorem LaidOut.exists_given (laid : LaidOut step members) :
    ∃ given, (known members).Perm given ∧ given.Sublist step.members ∧
      (given.foldl Draft.add .blank).finish = .ok step := by
  cases laid with
  | complete order => exact ⟨step.members, order, List.Sublist.refl _, rfl⟩
  | unconnected none order =>
      refine ⟨_, order, List.sublist_append_left _ [Member.connections step.connections], ?_⟩
      obtain ⟨name, kind, instruction, connections⟩ := step
      subst none
      rfl

/-- No part is given twice. -/
theorem LaidOut.uses_le (laid : LaidOut step members) (part : Part) :
    uses .blank members part ≤ 1 := by
  obtain ⟨given, order, inside, -⟩ := laid.exists_given
  have parts : step.members.filterMap Member.part? =
      [.name, .kind, .instruction, .connections] := rfl
  calc uses .blank members part
      = ((known members).filterMap Member.part?).count part := by
        rw [uses_blank, filterMap_known]
    _ = (given.filterMap Member.part?).count part := (order.filterMap _).count_eq part
    _ ≤ (step.members.filterMap Member.part?).count part :=
        (inside.filterMap Member.part?).count_le part
    _ ≤ 1 := by
        rw [parts]
        cases part <;> decide

/-- In whatever order they are taken, the members make up the step. -/
theorem LaidOut.finish (laid : LaidOut step members) :
    (members.foldl Draft.add .blank).finish = .ok step := by
  obtain ⟨given, order, inside, finished⟩ := laid.exists_given
  have commute : ∀ first ∈ step.members, ∀ second ∈ step.members, ∀ draft : Draft,
      (draft.add first).add second = (draft.add second).add first := by
    simp [Step.members, Draft.add]
  rw [← foldl_add_known, ← finished]
  congr 1
  refine (order.symm.foldl_eq' ?_ Draft.blank).symm
  intro first held second also draft
  exact commute first (inside.subset held) second (inside.subset also) draft

/-- Taken as the members of a value, a layout of a step is that step. -/
theorem LaidOut.ofValue (laid : LaidOut step members) :
    record.ofValue (.obj (members.map Member.toJson)) = .ok step := by
  have taken := foldlM_take_of_le laid.uses_le
  have folded : (members.map Member.toJson).foldlM record.takeMember record.blank =
      .ok (members.foldl Draft.add .blank) := by
    rw [List.foldlM_map]
    exact taken
  have finished : record.finish (members.foldl Draft.add .blank) = .ok step := laid.finish
  simp [Json.Record.ofValue, folded, Json.Record.complete, finished, Except.mapError, bind,
    Except.bind]

/-! ### Reading through a value -/

theorem LaidOut.of_perm {others : List Member} (laid : LaidOut step members)
    (order : (known others).Perm (known members)) : LaidOut step others := by
  cases laid with
  | complete given => exact .complete (order.trans given)
  | unconnected none given => exact .unconnected none (order.trans given)

theorem selected_toJson (members : List Member) :
    Json.selected (fun key => (record.field? key).isSome) (members.map Member.toJson) =
      (known members).map Member.toJson := by
  rw [Json.selected, known, List.filter_map]
  congr 2
  funext member
  cases member with
  | further key value other scalar =>
      simp [Member.toJson, field?_eq_none other, Member.part?]
  | _ => rfl

/-- Sorting the members leaves a layout of the same step. -/
theorem LaidOut.ofValue_normalMembers (laid : LaidOut step members) :
    record.ofValue (.obj (Json.normalMembers [] (members.map Member.toJson))) = .ok step := by
  have distinct : ((Json.selected (fun key => (record.field? key).isSome)
      ([] ++ members.map Member.toJson)).map Prod.fst).Nodup := by
    obtain ⟨given, order, inside, -⟩ := laid.exists_given
    have keys : (step.members.map Member.toJson).map Prod.fst =
      ["name", "step_type", "instruction", "connections"] := rfl
    rw [List.nil_append, selected_toJson, ((order.map Member.toJson).map Prod.fst).nodup_iff]
    refine List.Nodup.sublist ((inside.map Member.toJson).map Prod.fst) ?_
    rw [keys]
    decide
  have sorted := Json.selected_normalMembers _ _ _ distinct
  rw [map_normal_toJson, List.nil_append, selected_toJson] at sorted
  -- What is selected is made of the known members in another order.
  obtain ⟨others, same, order⟩ := List.perm_comp_forall₂
    (r := fun entry (member : Member) => entry = member.toJson) sorted
    (List.forall₂_map_left_iff.mpr (List.forall₂_same.mpr fun _ _ => rfl))
  have selected : Json.selected (fun key => (record.field? key).isSome)
      (Json.normalMembers [] (members.map Member.toJson)) = others.map Member.toJson := by
    rw [← List.forall₂_eq_eq_eq, List.forall₂_map_right_iff]
    exact same
  have again : LaidOut step others := by
    apply laid.of_perm
    have only_known : known (known members) = known members := by
      simp [known, List.filter_filter]
    rw [← only_known]
    exact order.filter _
  rw [Json.Record.ofValue, Json.Record.foldlM_takeMember_selected, selected]
  exact again.ofValue

theorem fits_toJson_of_known {member : Member} (given : member.part?.isSome = true)
    (limit : Nat) : member.toJson.2.fits (limit + 1) = true := by
  cases member with
  | further => contradiction
  | connections names =>
      simp [Member.toJson, Json.ofStrings, Json.fits, Json.fitsItems_eq_all]
  | _ => simp [Member.toJson, StepKind.toJson, Json.fits]

/-- What a written member may be read as: a part as itself, and a scalar as any scalar
under the same key. -/
inductive Reread : Member → Member → Prop where
  | part {member : Member} (given : member.part?.isSome = true) : Reread member member
  | further {key : String} {value result : Json} {other : ∀ part : Part, key ≠ part.key}
      {scalar : value.isScalar = true} {scalar' : result.isScalar = true} :
      Reread (.further key value other scalar) (.further key result other scalar')

/-- A written member is read as a member that it may be read as, or not at all. -/
theorem exists_reread (member : Member) {spacing : Json.Spacing} (spaced : spacing.Blank)
    (limit depth : Nat) :
    ∃ outcome : Except Json.Fault Member, (∀ other, outcome = .ok other → Reread member other) ∧
      Json.Behaves (Json.readMember (Json.readValue (limit + 1))) spacing depth member.toJson
        fun read => outcome.map fun other =>
          Json.insertMember other.toJson.1 other.toJson.2 read := by
  cases given : member.part?.isSome with
  | true =>
      have reads := Json.reads_write spaced member.toJson.2 (limit + 1) depth
        (fits_toJson_of_known given limit)
      rw [normal_toJson] at reads
      refine ⟨.ok member, ?_, reads.determines.behaves spaced⟩
      rintro other ⟨⟩
      exact .part given
  | false =>
      cases member with
      | further key value other scalar =>
          obtain ⟨outcome, kept, determines⟩ := Json.readsScalar_write scalar spaced depth
          cases outcome with
          | error fault =>
              exact ⟨.error fault, nofun, (determines (limit + 1)).behaves spaced⟩
          | ok result =>
              refine ⟨.ok (.further key result other (kept result rfl)), ?_,
                (determines (limit + 1)).behaves spaced⟩
              rintro _ ⟨⟩
              exact .further
      | _ => contradiction

theorem known_eq_of_rereads {others : List Member} (rereads : List.Forall₂ Reread members others) :
    known others = known members := by
  induction rereads with
  | nil => rfl
  | cons first _others ih =>
      cases first with
      | part given => simpa [known, given] using ih
      | further => exact ih

/-- Members that are all read are set among the others in a row. -/
theorem exists_forall₂_of_foldlM {outcome : Member → Except Json.Fault Member}
    {read final : List (String × Json)}
    (accepted : members.foldlM
      (fun read member => (outcome member).map fun other =>
        Json.insertMember other.toJson.1 other.toJson.2 read) read = .ok final) :
    ∃ others, List.Forall₂ (fun member other => outcome member = .ok other) members others ∧
      final = Json.normalMembers read (others.map Member.toJson) := by
  induction members generalizing read with
  | nil =>
      obtain rfl := Except.ok.inj accepted
      exact ⟨[], .nil, rfl⟩
  | cons member members ih =>
      rw [List.foldlM_cons] at accepted
      obtain ⟨next, first, rest⟩ := bind_eq_ok_iff.mp accepted
      cases result : outcome member with
      | error fault =>
          rw [result] at first
          contradiction
      | ok other =>
          rw [result] at first
          obtain rfl := Except.ok.inj first
          obtain ⟨others, inside, rfl⟩ := ih rest
          refine ⟨other :: others, .cons result inside, ?_⟩
          rw [List.map_cons, Json.normalMembers, normal_toJson]

/-- A value that the text of a layout is read as is that step, whatever becomes of the
doubles in it. -/
theorem LaidOut.fromValue (laid : LaidOut step members) {spacing : Json.Spacing}
    (spaced : spacing.Blank) (depth : Nat) {value : Json}
    (parsed : Json.parse (objectText spacing depth members) = .ok value) :
    decoder.fromValue value = .ok step := by
  choose outcome reread behaves using fun member : Member =>
    exists_reread member spaced 125 (depth + 1)
  rw [objectText, Json.parse_object spaced depth fun member _ => behaves member] at parsed
  cases folded : members.foldlM
    (fun read member => (outcome member).map fun other =>
      Json.insertMember other.toJson.1 other.toJson.2 read) [] with
  | error fault =>
      rw [folded] at parsed
      contradiction
  | ok final =>
      rw [folded] at parsed
      obtain rfl := Except.ok.inj parsed
      obtain ⟨others, inside, rfl⟩ := exists_forall₂_of_foldlM folded
      have rereads : List.Forall₂ Reread members others := inside.imp reread
      have order : (known others).Perm (known members) := by
        rw [known_eq_of_rereads rereads]
      exact (laid.of_perm order).ofValue_normalMembers

theorem fits_toJson_of_exact {member : Member} (limit : Nat)
    (exact : ∀ number, member.toJson.2 = .num number → number.Exact) :
    member.toJson.2.fits (limit + 1) = true := by
  cases member with
  | further key value other scalar =>
      cases value with
      | num number => simpa [Member.toJson, Json.fits] using exact number rfl
      | arr items => contradiction
      | obj members => contradiction
      | _ => simp [Member.toJson, Json.fits]
  | _ => exact fits_toJson_of_known rfl limit

/-- The text of members whose numbers are integers in the range is read through a
value as well. -/
theorem LaidOut.readThrough (laid : LaidOut step members)
    (exact : ∀ member ∈ members, ∀ number, member.toJson.2 = .num number → number.Exact)
    {spacing : Json.Spacing} (spaced : spacing.Blank) (depth : Nat) :
    decoder.readThrough (objectText spacing depth members) = .ok step := by
  have fits : (Json.obj (members.map Member.toJson)).fits Json.depthLimit = true := by
    rw [Json.depthLimit, Json.fits, Json.fitsMembers_eq_all, List.all_map, List.all_eq_true]
    exact fun member held => fits_toJson_of_exact 125 (exact member held)
  have parsed := Json.parse_write spaced fits depth
  have value := laid.fromValue spaced depth parsed
  simp [Decoder.readThrough, objectText, parsed, value, Except.mapError, bind, Except.bind]

/-! ### Members that make up no step -/

theorem has_foldl_add (members : List Member) (draft : Draft) (part : Part) :
    (members.foldl Draft.add draft).has part = true ↔
      draft.has part = true ∨ part ∈ members.filterMap Member.part? := by
  induction members generalizing draft with
  | nil => simp
  | cons member members ih =>
      rw [List.foldl_cons, ih, Draft.has_add, Bool.or_eq_true, beq_iff_eq, or_assoc]
      cases given : member.part? with
      | none => simp [given]
      | some first =>
          rw [List.filterMap_cons_some given, List.mem_cons, Option.some.injEq,
            eq_comm (a := first)]

/-- Without one of the three parts that have to be given a draft is not finished. -/
theorem finish_of_missing {draft : Draft} {part : Part} (needed : part ≠ .connections)
    (missing : draft.has part = false) :
    ∃ other, other ≠ .connections ∧ draft.has other = false ∧
      draft.finish = .error other.key := by
  obtain ⟨name, kind, instruction, connections⟩ := draft
  cases name with
  | none => exact ⟨.name, by decide, rfl, rfl⟩
  | some name =>
      cases kind with
      | none => exact ⟨.kind, by decide, rfl, rfl⟩
      | some kind =>
          cases instruction with
          | none => exact ⟨.instruction, by decide, rfl, rfl⟩
          | some instruction => cases part <;> contradiction

/-- What is wrong with members that make up no step: a part is given twice, or it has
to be given and is not. -/
inductive Wrong (members : List Member) : Json.Mismatch → Prop where
  | twice {part : Part} (given : 2 ≤ (members.filterMap Member.part?).count part) :
      Wrong members (.duplicateField part.key)
  | missing {part : Part} (needed : part ≠ .connections)
      (absent : part ∉ members.filterMap Member.part?) : Wrong members (.missingField part.key)

/-- If anything is wrong with the members, something that is wrong is reported. -/
theorem ofValue_of_wrong {members : List Member} {why : Json.Mismatch}
    (wrong : Wrong members why) :
    ∃ reported, Wrong members reported ∧
      record.ofValue (.obj (members.map Member.toJson)) = .error reported := by
  have folded : (members.map Member.toJson).foldlM record.takeMember record.blank =
      members.foldlM take .blank := List.foldlM_map ..
  rw [Json.Record.ofValue, folded]
  by_cases once : ∀ part, uses .blank members part ≤ 1
  · cases wrong with
    | @twice part given =>
        have single := once part
        rw [uses_blank] at single
        omega
    | @missing part needed absent =>
        have unset : (members.foldl Draft.add .blank).has part = false := by
          rw [← Bool.not_eq_true, has_foldl_add, has_blank]
          simpa using absent
        obtain ⟨other, also, lacks, unfinished⟩ := finish_of_missing needed unset
        refine ⟨_, .missing also fun held => ?_, ?_⟩
        · rw [(has_foldl_add members .blank other).mpr (Or.inr held)] at lacks
          contradiction
        · have finished : record.finish (members.foldl Draft.add .blank) = .error other.key :=
            unfinished
          rw [foldlM_take_of_le once]
          simp [Json.Record.complete, finished, Except.mapError, bind, Except.bind]
  · obtain ⟨part, twice⟩ := not_forall.mp once
    obtain ⟨other, given, failed⟩ := foldlM_take_of_two_le (Nat.lt_of_not_le twice)
    rw [uses_blank] at given
    refine ⟨_, .twice given, ?_⟩
    rw [failed]
    rfl

/-- How the object of a step is laid out does not matter.  In any order, with any
scalars under other keys among them and with any white space, the members of a step
are read as that step, and so is the value of the text, if it has one; it does if all
numbers are integers in the range.  If a part is given twice, or a part other than the
connections is not given, the text is not read: it is JSON of another shape, and what
is reported is such a part. -/
theorem layout_irrelevant :
    (∀ (step : Step) (members : List Member), LaidOut step members →
      ∀ spacing : Json.Spacing, spacing.Blank → ∀ depth,
        decoder.read (objectText spacing depth members) = .ok step ∧
        (∀ value, Json.parse (objectText spacing depth members) = .ok value →
          decoder.fromValue value = .ok step) ∧
        ((∀ member ∈ members, ∀ number, member.toJson.2 = .num number → number.Exact) →
          decoder.readThrough (objectText spacing depth members) = .ok step)) ∧
    ∀ (members : List Member) (why : Json.Mismatch), Wrong members why →
      ∀ spacing : Json.Spacing, spacing.Blank → ∀ depth, ∃ fault reported,
        decoder.read (objectText spacing depth members) = .error fault ∧
        fault.category = .data ∧ fault = .mismatch reported ∧ Wrong members reported := by
  constructor
  · intro step members laid spacing spaced depth
    refine ⟨?_, fun _ parsed => laid.fromValue spaced depth parsed,
      fun exact => laid.readThrough exact spaced depth⟩
    rw [read_objectText spaced, laid.ofValue]
    rfl
  · intro members why wrong spacing spaced depth
    obtain ⟨reported, also, failed⟩ := ofValue_of_wrong wrong
    refine ⟨.mismatch reported, reported, ?_, rfl, rfl, also⟩
    rw [read_objectText spaced, failed]
    rfl

/-- A step with one connection. -/
def loading : Step :=
  { name := "step_1"
    kind := .process
    instruction := "load"
    connections := ["step_2"] }

/-- Its members from the last to the first, with others between them. -/
def scattered : List Member :=
  have other : ∀ part : Part, "note" ≠ part.key := fun part => by cases part <;> decide
  [.further "note" (.num (.float 0.5)) other rfl, .connections ["step_2"], .instruction "load",
    .further "note" (.str "again\n") other rfl, .kind .process, .name "step_1",
    .further "note" .null other rfl]

/-- They are read in that order, and not at all with a second name. -/
theorem layout_irrelevant_scattered :
    LaidOut loading scattered ∧ LaidOut loading (known scattered) ∧
      Json.Spacing.compact.Blank ∧ Json.Spacing.indented.Blank ∧
      decoder.read (objectText .compact 0 scattered) = .ok loading ∧
      (∃ value, Json.parse (objectText .indented 0 (known scattered)) = .ok value ∧
        decoder.fromValue value = .ok loading) ∧
      decoder.readThrough (objectText .indented 0 (known scattered)) = .ok loading ∧
      Wrong (.name "step_9" :: scattered) (.duplicateField "name") ∧
      ∃ fault reported,
        decoder.read (objectText .indented 0 (.name "step_9" :: scattered)) = .error fault ∧
        fault.category = .data ∧ fault = .mismatch reported ∧
        Wrong (.name "step_9" :: scattered) reported := by
  obtain ⟨reads, fails⟩ := layout_irrelevant
  have laid : LaidOut loading scattered := .complete (List.reverse_perm loading.members)
  have laid_alone : LaidOut loading (known scattered) :=
    .complete (List.reverse_perm loading.members)
  have wrong : Wrong (.name "step_9" :: scattered) (.duplicateField Part.name.key) :=
    .twice (by decide)
  have strings : ∀ member ∈ known scattered, ∀ number,
      member.toJson.2 = .num number → number.Exact := by
    simp [known, scattered, Member.part?, Member.toJson, StepKind.toJson, Json.ofStrings]
  have parsed := Json.parse_write Json.Spacing.blank_indented
    (show (Json.obj ((known scattered).map Member.toJson)).fits Json.depthLimit = true by decide) 0
  have read := reads loading scattered laid .compact Json.Spacing.blank_compact 0
  have read_alone :=
    reads loading (known scattered) laid_alone .indented Json.Spacing.blank_indented 0
  exact ⟨laid, laid_alone, Json.Spacing.blank_compact, Json.Spacing.blank_indented, read.1,
    ⟨_, parsed, read_alone.2.1 _ parsed⟩, read_alone.2.2 strings, wrong,
    fails _ _ wrong .indented Json.Spacing.blank_indented 0⟩

end Stepwise.Step
