/-
Module: Stepwise.Proofs.Json.Value
Purpose: A written value is read back as the same value.
Main exports: Json.normal, Json.fits, Json.reads_write, Json.parse_write
-/
import Stepwise.Json.Parse
import Stepwise.Proofs.Json.Numeral

namespace Stepwise.Json

/-!
A text is read as the value it was written from, up to the members of objects:
the writers keep their order, and the reader sorts them by key and keeps the
last one of a key.  `normal` says what becomes of a value in this way.  It is
asked of the value that no doubles are in it, that its integers are in the
range of numerals, and that it opens no more brackets than a reader allows.
-/

mutual

/-- The value that the text of a value is read as. -/
def normal : Json → Json
  | .arr items => .arr (normalItems items)
  | .obj members => .obj (normalMembers [] members)
  | value => value

/-- The items that the text of an array is read as. -/
def normalItems : List Json → List Json
  | [] => []
  | item :: items => item.normal :: normalItems items

/-- The members that stand in an object after further ones have been read. -/
def normalMembers (read : List (String × Json)) : List (String × Json) → List (String × Json)
  | [] => read
  | (key, value) :: members => normalMembers (insertMember key value.normal read) members

end

mutual

/-- Whether a value comes back from its text where the given number of brackets
may be open. -/
def fits : Nat → Json → Bool
  | _, .num number => decide number.Exact
  | 0, .arr _ => false
  | depth + 1, .arr items => fitsItems depth items
  | 0, .obj _ => false
  | depth + 1, .obj members => fitsMembers depth members
  | _, _ => true

/-- Whether all items come back. -/
def fitsItems : Nat → List Json → Bool
  | _, [] => true
  | depth, item :: items => item.fits depth && fitsItems depth items

/-- Whether the values of all members come back. -/
def fitsMembers : Nat → List (String × Json) → Bool
  | _, [] => true
  | depth, (_, value) :: members => value.fits depth && fitsMembers depth members

end

theorem fitsItems_eq_all (depth : Nat) (items : List Json) :
    fitsItems depth items = items.all (fits depth) := by
  induction items with
  | nil => rfl
  | cons item items ih => rw [fitsItems, ih, List.all_cons]

theorem fitsMembers_eq_all (depth : Nat) (members : List (String × Json)) :
    fitsMembers depth members = members.all fun member => member.2.fits depth := by
  induction members with
  | nil => rfl
  | cons member members ih => rw [fitsMembers, ih, List.all_cons]

/-! ### The three kinds of values -/

section Kinds

variable {text rest : List Char}

theorem readValue_list (limit : Nat) (opening : skipSpace text = '[' :: rest) :
    readValue (limit + 1) text = do
      let (items, rest) ← readItems (readValue limit) rest
      return (.arr items, rest) := by
  rw [readValue.eq_def]
  simp [opening]

theorem readValue_object (limit : Nat) (opening : skipSpace text = '\x7b' :: rest) :
    readValue (limit + 1) text = do
      let (members, rest) ← readMembers (readMember (readValue limit)) [] rest
      return (.obj members, rest) := by
  rw [readValue.eq_def]
  simp [opening]

theorem readValue_scalar (limit : Nat) {c : Char} (opening : skipSpace text = c :: rest)
    (no_list : c ≠ '[') (no_object : c ≠ '\x7b') :
    readValue limit text = readScalar (c :: rest) := by
  rw [readValue.eq_def]
  simp only [opening]
  split <;> simp_all

end Kinds

/-! ### Scalars -/

/-- What is neither a list nor an object is read as a scalar. -/
theorem reads_of_readScalar {c : Char} {tail : List Char} {value : Json} (limit : Nat)
    (solid : isSpace c = false) (no_brackets : c ≠ '[' ∧ c ≠ ']' ∧ c ≠ '\x7b')
    (scalar : ∀ rest, Ended rest → readScalar (c :: (tail ++ rest)) = .ok (value, rest)) :
    Reads (readValue limit) (c :: tail) value := by
  refine Reads.of_skipSpace rfl ⟨solid, no_brackets.2.1⟩ fun text rest opening ended => ?_
  rw [readValue_scalar limit opening no_brackets.1 no_brackets.2.2]
  exact scalar rest ended

theorem reads_null (limit : Nat) : Reads (readValue limit) ['n', 'u', 'l', 'l'] .null :=
  reads_of_readScalar limit (by decide) (by decide) fun rest _ => by
    simp [readScalar, readWord, pure, Except.pure, bind, Except.bind]

theorem reads_true (limit : Nat) : Reads (readValue limit) ['t', 'r', 'u', 'e'] (.bool true) :=
  reads_of_readScalar limit (by decide) (by decide) fun rest _ => by
    simp [readScalar, readWord, pure, Except.pure, bind, Except.bind]

theorem reads_false (limit : Nat) :
    Reads (readValue limit) ['f', 'a', 'l', 's', 'e'] (.bool false) :=
  reads_of_readScalar limit (by decide) (by decide) fun rest _ => by
    simp [readScalar, readWord, pure, Except.pure, bind, Except.bind]

theorem reads_text (limit : Nat) (text : String) :
    Reads (readValue limit) (quoted text) (.str text) :=
  reads_of_readScalar limit (by decide) (by decide) fun rest _ => by
    simp [readScalar, readText_written, pure, Except.pure, bind, Except.bind]

/-- A digit opens nothing else than a number. -/
theorem not_other_of_isDigit {c : Char} (digit : c.isDigit = true) :
    isSpace c = false ∧ (c ≠ '[' ∧ c ≠ ']' ∧ c ≠ '\x7b') ∧
      c ≠ 'n' ∧ c ≠ 't' ∧ c ≠ 'f' ∧ c ≠ '"' := by
  have no_space : isSpace c = false := by
    by_contra space
    simp only [isSpace, Bool.not_eq_false, Bool.or_eq_true, beq_iff_eq] at space
    rcases space with ((rfl | rfl) | rfl) | rfl <;> simp at digit
  refine ⟨no_space, ?_⟩
  refine ⟨⟨?_, ?_, ?_⟩, ?_, ?_, ?_, ?_⟩ <;>
    · rintro rfl
      exact absurd digit (by decide)

theorem reads_number (limit : Nat) {number : Number} (exact : number.Exact) :
    Reads (readValue limit) number.write.toList (.num number) := by
  cases number with
  | float value => exact exact.elim
  | int value =>
      obtain ⟨c, tail, opening, starts⟩ := repr_eq_cons value
      have read (rest : List Char) (ended : Ended rest) := readNumber_write exact ended
      simp only [Number.write, opening, List.cons_append] at read ⊢
      rcases starts with rfl | digit
      · refine reads_of_readScalar limit (by decide) (by decide) fun rest ended => ?_
        simp [readScalar, read rest ended, pure, Except.pure, bind, Except.bind]
      · obtain ⟨solid, no_brackets, no_n, no_t, no_f, no_quote⟩ := not_other_of_isDigit digit
        refine reads_of_readScalar limit solid no_brackets fun rest ended => ?_
        simp [readScalar, read rest ended, digit, no_n, no_t, no_f, no_quote,
          pure, Except.pure, bind, Except.bind]

/-! ### All values -/

section Write

variable {spacing : Spacing}

theorem reads_list {limit depth : Nat} {items values : List Json} (spaced : spacing.Blank)
    (reads : List.Forall₂
      (fun written value => Reads (readValue limit) (write spacing (depth + 1) written) value)
      items values) :
    Reads (readValue (limit + 1)) (write spacing depth (.arr items)) (.arr values) := by
  obtain ⟨tail, opening, read⟩ := readItems_write spaced depth reads
  refine Reads.of_skipSpace opening (by decide) fun text rest opens _ => ?_
  rw [readValue_list limit opens]
  simp [read rest, pure, Except.pure, bind, Except.bind]

theorem reads_object {limit depth : Nat} {members final : List (String × Json)}
    (spaced : spacing.Blank)
    (fills : Fills (readMember (readValue limit)) spacing (depth + 1) [] members (.ok final)) :
    Reads (readValue (limit + 1)) (write spacing depth (.obj members)) (.obj final) := by
  obtain ⟨tail, opening, read⟩ := readMembers_write spaced depth fills
  refine Reads.of_skipSpace opening (by decide) fun text rest opens _ => ?_
  rw [readValue_object limit opens]
  simp [read rest, Except.map, pure, Except.pure, bind, Except.bind]

/-- A written value behind its key and colon is set among the members read so
far. -/
theorem readMember_write {limit depth : Nat} {written value : Json} (spaced : spacing.Blank)
    (reads : Reads (readValue limit) (write spacing depth written) value)
    (members : List (String × Json)) (key : String) {rest : List Char} (ended : Ended rest) :
    readMember (readValue limit) members key
        (':' :: (spacing.afterColon ++ (write spacing depth written ++ rest))) =
      .ok (insertMember key value members, rest) := by
  simp [readMember, readColon_cons, reads.read _ rest spaced.afterColon ended, pure, Except.pure,
    bind, Except.bind]

mutual

/-- A written value is read as its normal form.  Each bracket takes one off the
limit of the reader and adds one to the depth of the writer. -/
theorem reads_write (spaced : spacing.Blank) :
    ∀ (value : Json) (limit depth : Nat), value.fits limit = true →
      Reads (readValue limit) (write spacing depth value) value.normal
  | .null, limit, _, _ => by simpa [write, normal] using reads_null limit
  | .bool true, limit, _, _ => by simpa [write, normal] using reads_true limit
  | .bool false, limit, _, _ => by simpa [write, normal] using reads_false limit
  | .num number, limit, _, fits => by
      have exact_number : number.Exact := by simpa [Json.fits] using fits
      simpa [write, normal] using reads_number limit exact_number
  | .str text, limit, _, _ => by simpa [write, normal] using reads_text limit text
  | .arr _, 0, _, fits => by simp [Json.fits] at fits
  | .arr items, limit + 1, depth, fits => by
      have inside : fitsItems limit items = true := by simpa [Json.fits] using fits
      rw [normal]
      exact reads_list spaced (reads_writeItems spaced items limit (depth + 1) inside)
  | .obj _, 0, _, fits => by simp [Json.fits] at fits
  | .obj members, limit + 1, depth, fits => by
      have inside : fitsMembers limit members = true := by simpa [Json.fits] using fits
      rw [normal]
      exact reads_object spaced (fills_writeMembers spaced members limit (depth + 1) inside [])

/-- Every written item is read as its normal form. -/
theorem reads_writeItems (spaced : spacing.Blank) :
    ∀ (items : List Json) (limit depth : Nat), fitsItems limit items = true →
      List.Forall₂
        (fun written value => Reads (readValue limit) (write spacing depth written) value)
        items (normalItems items)
  | [], _, _, _ => .nil
  | item :: items, limit, depth, fits => by
      obtain ⟨first, others⟩ : item.fits limit = true ∧ fitsItems limit items = true := by
        simpa [fitsItems] using fits
      exact .cons (reads_write spaced item limit depth first)
        (reads_writeItems spaced items limit depth others)

/-- Every written member is set among those before it. -/
theorem fills_writeMembers (spaced : spacing.Blank) :
    ∀ (members : List (String × Json)) (limit depth : Nat), fitsMembers limit members = true →
      ∀ read, Fills (readMember (readValue limit)) spacing depth read members
        (.ok (normalMembers read members))
  | [], _, _, _, _ => .nil
  | (key, value) :: members, limit, depth, fits, read => by
      obtain ⟨first, others⟩ : value.fits limit = true ∧ fitsMembers limit members = true := by
        simpa [fitsMembers] using fits
      exact .cons
        (fun _ => readMember_write spaced (reads_write spaced value limit depth first) read key)
        (fills_writeMembers spaced members limit depth others _)

end

end Write

/-! ### Whole texts -/

/-- A text made of one piece is read as what the piece stands for. -/
theorem Reads.readWhole {α : Type} {reader : Reader α} {piece : List Char} {value : α}
    (reads : Reads reader piece value) : readWhole reader (String.ofList piece) = .ok value := by
  simp [Json.readWhole, reads.whole, skipSpace, pure, Except.pure, bind, Except.bind]

/-- The text of a value is read as its normal form. -/
theorem parse_write {spacing : Spacing} (spaced : spacing.Blank) {value : Json}
    (fits : value.fits depthLimit = true) (depth : Nat) :
    parse (String.ofList (write spacing depth value)) = .ok value.normal :=
  (reads_write spaced value depthLimit depth fits).readWhole

end Stepwise.Json
