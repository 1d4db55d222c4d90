/-
Module: Stepwise.Proofs.Json.Outcome
Purpose: What reading a written scalar as a value comes to, doubles included.
Main exports: Json.Determines, Json.Reads.determines, Json.ReadsScalar, Json.Scans.readsScalar,
  Json.readsScalar_write, Json.Determines.behaves, Json.parse_object
-/
import Stepwise.Proofs.Json.Record

namespace Stepwise.Json

/-!
Which double a numeral is read as, and whether it is too large for one, is a question
of the arithmetic of doubles.  Whatever the answer is, it only depends on the piece of
text and not on where the piece stands.
-/

/-- A reader does the same with a piece of text wherever the piece stands, whether it
gives a result or a fault. -/
def Determines {α : Type} (reader : Reader α) (piece : List Char) (outcome : Except Fault α) :
    Prop :=
  ∀ gap rest, Blank gap → Ended rest →
    reader (gap ++ (piece ++ rest)) = outcome.map fun value => (value, rest)

theorem Reads.determines {α : Type} {reader : Reader α} {piece : List Char} {value : α}
    (reads : Reads reader piece value) : Determines reader piece (.ok value) :=
  reads.read

theorem determines_of_readScalar {c : Char} {tail : List Char} {outcome : Except Fault Json}
    (limit : Nat) (solid : isSpace c = false) (no_list : c ≠ '[') (no_object : c ≠ '\x7b')
    (scalar : ∀ rest, Ended rest →
      readScalar (c :: (tail ++ rest)) = outcome.map fun value => (value, rest)) :
    Determines (readValue limit) (c :: tail) outcome := by
  intro gap rest blank ended
  rw [List.cons_append,
    readValue_scalar limit (skipSpace_append_cons blank solid _) no_list no_object]
  exact scalar rest ended

/-- A piece of text is read as some scalar, or not at all. -/
def ReadsScalar (piece : List Char) : Prop :=
  ∃ outcome : Except Fault Json, (∀ result, outcome = .ok result → result.isScalar = true) ∧
    ∀ limit, Determines (readValue limit) piece outcome

theorem readsScalar_of_reads {piece : List Char} {value : Json} (scalar : value.isScalar = true)
    (reads : ∀ limit, Reads (readValue limit) piece value) : ReadsScalar piece := by
  refine ⟨.ok value, ?_, fun limit => (reads limit).determines⟩
  rintro result ⟨⟩
  exact scalar

/-- A numeral is read as some number, or it is too large. -/
theorem Scans.readsScalar {piece : List Char} (scans : Scans piece) : ReadsScalar piece := by
  obtain ⟨c, tail, rfl, starts⟩ := scans.opening
  obtain ⟨numeral, scanned⟩ := scans.scan
  obtain ⟨outcome, read⟩ : ∃ outcome : Except Fault Number, ∀ rest, Ended rest →
      readNumber (c :: (tail ++ rest)) = outcome.map fun number => (number, rest) := by
    refine ⟨(numeral.value?.map .ok).getD (.error (.malformed .numberTooLarge)),
      fun rest ended => ?_⟩
    rw [← List.cons_append, readNumber, scanned rest ended]
    dsimp only
    cases numeral.value? <;> rfl
  refine ⟨outcome.map Json.num, ?_, fun limit => ?_⟩
  · cases outcome <;> simp [Except.map, isScalar]
  · obtain rfl | digit := starts
    · apply determines_of_readScalar limit (by decide) (by decide) (by decide)
      intro rest ended
      cases outcome <;>
        simp [readScalar, read rest ended, Except.map, pure, Except.pure, bind, Except.bind]
    · obtain ⟨solid, no_brackets, no_n, no_t, no_f, no_quote⟩ := not_other_of_isDigit digit
      apply determines_of_readScalar limit solid no_brackets.1 no_brackets.2.2
      intro rest ended
      cases outcome <;>
        simp [readScalar, read rest ended, digit, no_n, no_t, no_f, no_quote, Except.map, pure,
          Except.pure, bind, Except.bind]

/-- A written scalar is read as some scalar, or not at all. -/
theorem readsScalar_write {value : Json} (scalar : value.isScalar = true) {spacing : Spacing}
    (spaced : spacing.Blank) (depth : Nat) : ReadsScalar (write spacing depth value) := by
  have of_fits (fits : ∀ limit, value.fits limit = true) :
      ReadsScalar (write spacing depth value) := by
    apply readsScalar_of_reads scalar
    intro limit
    have reads := reads_write spaced value limit depth (fits limit)
    rwa [normal_of_isScalar scalar] at reads
  cases value with
  | num number =>
      rw [write]
      obtain nothing | scans := scans_write number
      · rw [nothing]
        exact readsScalar_of_reads rfl reads_null
      · exact scans.readsScalar
  | arr items => contradiction
  | obj members => contradiction
  | _ => exact of_fits fun limit => by simp [fits]

/-- A member behind its key is set among the others if its value is read. -/
theorem Determines.behaves {limit depth : Nat} {key : String} {value : Json}
    {outcome : Except Fault Json} {spacing : Spacing}
    (determines : Determines (readValue limit) (write spacing depth value) outcome)
    (spaced : spacing.Blank) :
    Behaves (readMember (readValue limit)) spacing depth (key, value) fun members =>
      outcome.map fun result => insertMember key result members := by
  intro members rest ended
  have read := determines _ rest spaced.afterColon ended
  cases outcome <;>
    simp [readMember, readColon_cons, read, Except.map, pure, Except.pure, bind, Except.bind]

/-- The text of an object is read as a value by setting its members in a row, up to
the first fault. -/
theorem parse_object {β : Type} {entry : β → String × Json}
    {take : List (String × Json) → β → Except Fault (List (String × Json))} {elements : List β}
    {spacing : Spacing} (spaced : spacing.Blank) (depth : Nat)
    (behaves : ∀ element ∈ elements, Behaves (readMember (readValue 126)) spacing (depth + 1)
      (entry element) fun members => take members element) :
    parse (String.ofList (write spacing depth (.obj (elements.map entry)))) =
      (elements.foldlM take []).map Json.obj := by
  obtain ⟨tail, opening, read⟩ := readMembers_write spaced depth (fills_of_behaves behaves [])
  have read_all := read []
  rw [List.append_nil] at read_all
  have bracket : skipSpace ('\x7b' :: tail) = '\x7b' :: tail := skipSpace_cons (by decide) tail
  rw [parse, readWhole, String.toList_ofList, opening, depthLimit, readValue_object 126 bracket,
    read_all]
  cases elements.foldlM take [] <;> rfl

end Stepwise.Json
