/-
Module: Stepwise.Proofs.Form.Step
Purpose: Steps and workflows survive their JSON form.
Main exports: Step.accepts_toJson, Workflow.accepts_toJson, Workflow.fits_toJson,
  Workflow.json_round_trip
-/
import Stepwise.Form.Step
import Stepwise.Proofs.Json.Decoder

namespace Stepwise

open Json (Decoder Record)

/-!
Every member of a step has its own decoder, and each of them takes what the
writer leaves for it.  The writer starts a step with its name, while a value
that was read from a text lists the connections first; the draft of a step is
filled in either order.
-/

theorem StepKind.accepts_toJson (kind : StepKind) : StepKind.decoder.Accepts kind.toJson kind :=
  Decoder.accepts_choice (by cases kind <;> rfl)

theorem Json.accepts_ofStrings (texts : List String) :
    (Decoder.list .text).Accepts (Json.ofStrings texts) texts :=
  Decoder.accepts_list Decoder.accepts_text texts

namespace Step

/-- The members of a step in the order of their keys. -/
def sortedMembers (step : Step) : List (String × Json) :=
  [("connections", .ofStrings step.connections), ("instruction", .str step.instruction),
    ("name", .str step.name), ("step_type", step.kind.toJson)]

/-- The draft with all members of a step. -/
def draft (step : Step) : Draft :=
  { name := some step.name
    kind := some step.kind
    instruction := some step.instruction
    connections := some step.connections }

theorem fills_written (step : Step) :
    record.Fills .blank
      [("name", .str step.name), ("step_type", step.kind.toJson),
        ("instruction", .str step.instruction), ("connections", .ofStrings step.connections)]
      step.draft :=
  .cons rfl (Json.Field.takes_of rfl (Decoder.accepts_text step.name)) <|
  .cons rfl (Json.Field.takes_of rfl (StepKind.accepts_toJson step.kind)) <|
  .cons rfl (Json.Field.takes_of rfl (Decoder.accepts_text step.instruction)) <|
  .cons rfl (Json.Field.takes_of rfl (Json.accepts_ofStrings step.connections)) .nil

theorem fills_sorted (step : Step) : record.Fills .blank step.sortedMembers step.draft :=
  .cons rfl (Json.Field.takes_of rfl (Json.accepts_ofStrings step.connections)) <|
  .cons rfl (Json.Field.takes_of rfl (Decoder.accepts_text step.instruction)) <|
  .cons rfl (Json.Field.takes_of rfl (Decoder.accepts_text step.name)) <|
  .cons rfl (Json.Field.takes_of rfl (StepKind.accepts_toJson step.kind)) .nil

/-- What is written for a step is read as that step. -/
theorem accepts_toJson (step : Step) : Step.decoder.Accepts step.toJson step := by
  -- The keys are fixed, so sorting them is a computation.
  have sorts : Json.normalMembers []
      [("name", .str step.name), ("step_type", step.kind.toJson),
        ("instruction", .str step.instruction), ("connections", .ofStrings step.connections)] =
      step.sortedMembers.map fun member => (member.1, member.2.normal) := rfl
  exact Record.accepts step.fills_written sorts step.fills_sorted rfl

/-- A step needs two brackets at once, its own and the one of its
connections. -/
theorem fits_toJson (step : Step) (depth : Nat) : step.toJson.fits (depth + 2) = true := by
  simp [toJson, StepKind.toJson, Json.ofStrings, Json.fits, Json.fitsMembers,
    Json.fitsItems_eq_all]

end Step

namespace Workflow

/-- What is written for a workflow is read as that workflow. -/
theorem accepts_toJson (w : Workflow) : Workflow.decoder.Accepts w.toJson w :=
  (Decoder.accepts_list Step.accepts_toJson w.steps).map Workflow.mk

theorem fits_toJson (w : Workflow) : w.toJson.fits Json.depthLimit = true := by
  simp [toJson, Json.fits, Json.depthLimit, Json.fitsItems_eq_all, Step.fits_toJson]

/-- Both forms of a workflow are read as that workflow, in both ways. -/
theorem read_form (w : Workflow) {form : Json → String}
    (written : form ∈ [Json.compact, Json.indented]) :
    decoder.read (form w.toJson) = .ok w ∧ decoder.readThrough (form w.toJson) = .ok w := by
  obtain ⟨spacing, spaced, rfl⟩ : ∃ spacing : Json.Spacing, spacing.Blank ∧
      form = fun value => String.ofList (Json.write spacing 0 value) := by
    rcases List.mem_pair.mp written with rfl | rfl
    · exact ⟨.compact, Json.Spacing.blank_compact, rfl⟩
    · exact ⟨.indented, Json.Spacing.blank_indented, rfl⟩
  exact ⟨w.accepts_toJson.read spaced 0, w.accepts_toJson.readThrough spaced w.fits_toJson 0⟩

/-- A workflow survives its JSON form: it is read back from the compact and from
the indented text, straight and through a value; so two workflows never share
a text, and a text that is read as a workflow may be replaced by what is
written for it. -/
theorem json_round_trip :
    (∀ w : Workflow, ∀ form ∈ [Json.compact, Json.indented],
      decoder.read (form w.toJson) = .ok w ∧ decoder.readThrough (form w.toJson) = .ok w) ∧
    (∀ form ∈ [Json.compact, Json.indented],
      Function.Injective fun w : Workflow => form w.toJson) ∧
    ∀ read ∈ [decoder.read, decoder.readThrough],
      ∀ again ∈ [decoder.read, decoder.readThrough],
        ∀ form ∈ [Json.compact, Json.indented], ∀ text,
          (do again (form (← read text).toJson)) = read text := by
  refine ⟨fun w form written => w.read_form written, ?_, ?_⟩
  · intro form written w w' same
    have first := (w.read_form written).1
    have second := (w'.read_form written).1
    rw [show form w.toJson = form w'.toJson from same, second] at first
    exact (Except.ok.inj first).symm
  · intro read _ again reader form written text
    cases read text with
    | error fault => rfl
    | ok w =>
        rcases List.mem_pair.mp reader with rfl | rfl
        · exact (w.read_form written).1
        · exact (w.read_form written).2

/-- One step, with texts that are empty or have to be escaped. -/
def escaping : Workflow :=
  { steps :=
      [{ name := "", kind := .decision, instruction := "say \"no\\\"\n\x01\x7f?",
          connections := ["step_1", "\t"] }] }

/-- Its texts come back from both forms and in both ways of reading. -/
theorem json_round_trip_escaping :
    Json.compact ∈ [Json.compact, Json.indented] ∧
      Json.indented ∈ [Json.compact, Json.indented] ∧
      decoder.read escaping.toJson.compact = .ok escaping ∧
      decoder.readThrough escaping.toJson.indented = .ok escaping ∧
      (do decoder.readThrough (← decoder.read escaping.toJson.compact).toJson.indented) =
        decoder.read escaping.toJson.compact := by
  obtain ⟨survives, -, stays⟩ := json_round_trip
  refine ⟨by simp, by simp, ?_, ?_, ?_⟩
  · exact (survives escaping _ (by simp)).1
  · exact (survives escaping _ (by simp)).2
  · exact stays _ (by simp) _ (by simp) _ (by simp) escaping.toJson.compact

end Workflow

end Stepwise
