/-
Module: Stepwise.Proofs.Json.Container
Purpose: Lists and objects are read back from their written form, whatever
  their items and members are read as.
Main exports: Json.Blank, Json.Spacing.Blank, Json.Ended, Json.Reads, Json.Reads.of_skipSpace,
  Json.Turned, Json.Meets, Json.Fills, Json.readItems_write, Json.readMembers_write
-/
import Mathlib.Data.List.Forall2
import Stepwise.Json.Container
import Stepwise.Proofs.Json.Text

namespace Stepwise.Json

/-!
What a reader makes of a piece of text must not depend on where the piece
stands: any space may come before it, and behind it anything that a number
cannot go on with.  `Reads` states this of a single value.  A container is
read in turns, and `Turned` follows them as the reader takes them, to a result or
to a fault.  Every turn on a written container leaves a shorter text behind, so
the turns allowed are always enough.
-/

/-! ### Space -/

/-- A text of space only. -/
def Blank (gap : List Char) : Prop :=
  ∀ c ∈ gap, isSpace c = true

/-- All that is written between tokens is space. -/
structure Spacing.Blank (spacing : Spacing) : Prop where
  lineBreak : ∀ depth, Json.Blank (spacing.lineBreak depth)
  afterColon : Json.Blank spacing.afterColon

theorem Blank.nil : Blank [] :=
  List.forall_mem_nil _

theorem Spacing.blank_compact : Spacing.compact.Blank where
  lineBreak _ := Blank.nil
  afterColon := Blank.nil

theorem Spacing.blank_indented : Spacing.indented.Blank where
  lineBreak depth c member := by
    rcases List.mem_cons.mp member with rfl | filler
    · rfl
    · rw [List.eq_of_mem_replicate filler]
      rfl
  afterColon c member := by
    rw [List.mem_singleton.mp member]
    rfl

theorem skipSpace_append {gap : List Char} (blank : Blank gap) (text : List Char) :
    skipSpace (gap ++ text) = skipSpace text :=
  List.dropWhile_append_of_pos blank

theorem skipSpace_cons {c : Char} (solid : isSpace c = false) (text : List Char) :
    skipSpace (c :: text) = c :: text := by
  simp [skipSpace, solid]

theorem skipSpace_append_cons {gap : List Char} (blank : Blank gap) {c : Char}
    (solid : isSpace c = false) (text : List Char) : skipSpace (gap ++ c :: text) = c :: text := by
  rw [skipSpace_append blank, skipSpace_cons solid]

/-- A text that a number in front of it would not go on with. -/
def Ended (rest : List Char) : Prop :=
  ∀ c ∈ rest.head?, c.isDigit = false ∧ c ≠ '.' ∧ c ≠ 'e' ∧ c ≠ 'E'

theorem Ended.nil : Ended [] := by
  simp [Ended]

theorem ended_append {gap rest : List Char} (blank : Blank gap) (ended : Ended rest) :
    Ended (gap ++ rest) := by
  cases gap with
  | nil => exact ended
  | cons c gap =>
      have space : isSpace c = true := blank c List.mem_cons_self
      simp only [isSpace, Bool.or_eq_true, beq_iff_eq] at space
      rintro d ⟨⟩
      rcases space with ((rfl | rfl) | rfl) | rfl <;> decide

/-! ### Values -/

/-- A piece of text that starts with neither space nor the end of a list. -/
def Solid (piece : List Char) : Prop :=
  ∃ c tail, piece = c :: tail ∧ isSpace c = false ∧ c ≠ ']'

/-- A reader takes a piece of text for a value wherever the piece stands. -/
structure Reads {α : Type} (reader : Reader α) (piece : List Char) (value : α) : Prop where
  solid : Solid piece
  read : ∀ gap rest, Blank gap → Ended rest → reader (gap ++ (piece ++ rest)) = .ok (value, rest)

section Reads

variable {α : Type} {reader : Reader α} {piece : List Char} {value : α}

/-- A reader that passes over space takes a piece for a value as soon as it does
so from the first character of the piece. -/
theorem Reads.of_skipSpace {c : Char} {tail : List Char} (opening : piece = c :: tail)
    (solid : isSpace c = false ∧ c ≠ ']')
    (read : ∀ text rest, skipSpace text = c :: (tail ++ rest) → Ended rest →
      reader text = .ok (value, rest)) :
    Reads reader piece value where
  solid := ⟨c, tail, opening, solid⟩
  read gap rest blank ended := by
    refine read _ rest ?_ ended
    rw [opening, List.cons_append, skipSpace_append_cons blank solid.1]

/-- Without space in front. -/
theorem Reads.here (reads : Reads reader piece value) {rest : List Char} (ended : Ended rest) :
    reader (piece ++ rest) = .ok (value, rest) :=
  reads.read [] rest .nil ended

/-- A whole text made of one piece. -/
theorem Reads.whole (reads : Reads reader piece value) : reader piece = .ok (value, []) := by
  simpa using reads.here Ended.nil

/-- With the result passed through a function. -/
theorem Reads.map {β : Type} (reads : Reads reader piece value) (convert : α → β) :
    Reads
      (fun text => do
        let (result, rest) ← reader text
        return (convert result, rest))
      piece (convert value) where
  solid := reads.solid
  read gap rest blank ended := by
    simp [reads.read gap rest blank ended, pure, Except.pure, bind, Except.bind]

end Reads

/-! ### Turns -/

/-- The turns of a reader, each on a shorter text than the one before, up to its
outcome: a result and what is left of the text, or a fault. -/
inductive Turned {σ α : Type} (turn : σ → List Char → Except Fault (Turn σ α)) :
    σ → List Char → Except Fault (α × List Char) → Prop where
  | done {state : σ} {text : List Char} {result : α} {rest : List Char}
      (last : turn state text = .ok (.done result rest)) :
      Turned turn state text (.ok (result, rest))
  | fault {state : σ} {text : List Char} {fault : Fault} (fails : turn state text = .error fault) :
      Turned turn state text (.error fault)
  | again {state next : σ} {text left : List Char} {outcome : Except Fault (α × List Char)}
      (goes : turn state text = .ok (.again next left)) (shorter : left.length < text.length)
      (others : Turned turn next left outcome) :
      Turned turn state text outcome

section Turned

variable {σ α : Type} {turn : σ → List Char → Except Fault (Turn σ α)} {state : σ}
  {text : List Char} {outcome : Except Fault (α × List Char)}

theorem Turned.takeTurns_eq (turned : Turned turn state text outcome) {turns : Nat}
    (enough : text.length < turns) : takeTurns turn turns state text = outcome := by
  obtain ⟨turns, rfl⟩ : ∃ n, turns = n + 1 := ⟨turns - 1, by omega⟩
  induction turned generalizing turns with
  | done last => simp [takeTurns, last]
  | fault fails => simp [takeTurns, fails]
  | again goes shorter others ih =>
      obtain ⟨turns, rfl⟩ : ∃ n, turns = n + 1 := ⟨turns - 1, by omega⟩
      rw [takeTurns, goes]
      exact ih turns (by omega)

/-- A reader has enough turns for all that it takes. -/
theorem Turned.repeatTurns_eq (turned : Turned turn state text outcome) :
    repeatTurns turn state text = outcome :=
  turned.takeTurns_eq (Nat.lt_succ_self _)

end Turned

/-! ### Lists -/

section Items

variable {α : Type} {item : Reader α} {spacing : Spacing}

theorem nextItem_first {gap piece : List Char} (blank : Blank gap) (solid : Solid piece)
    (rest : List Char) :
    nextItem true (gap ++ (piece ++ rest)) = .ok (.part (piece ++ rest)) := by
  obtain ⟨c, tail, rfl, solid, inside⟩ := solid
  simp [nextItem, skipSpace_append_cons blank solid, inside]

theorem nextItem_comma {gap piece : List Char} (blank : Blank gap) (solid : Solid piece)
    (rest : List Char) :
    nextItem false (',' :: (gap ++ (piece ++ rest))) = .ok (.part (piece ++ rest)) := by
  obtain ⟨c, tail, rfl, solid, inside⟩ := solid
  have comma : isSpace ',' = false := by decide
  simp [nextItem, skipSpace_cons comma, skipSpace_append_cons blank solid, inside]

theorem nextItem_close {gap : List Char} (blank : Blank gap) (first : Bool) (rest : List Char) :
    nextItem first (gap ++ ']' :: rest) = .ok (.close rest) := by
  have bracket : isSpace ']' = false := by decide
  simp [nextItem, skipSpace_append_cons blank bracket]

theorem itemTurn_first {gap piece : List Char} {value : α} (blank : Blank gap)
    (reads : Reads item piece value) {rest : List Char} (ended : Ended rest) :
    itemTurn item [] (gap ++ (piece ++ rest)) = .ok (.again [value] rest) := by
  simp [itemTurn, nextItem_first blank reads.solid, reads.here ended, pure, Except.pure, bind,
    Except.bind]

theorem itemTurn_comma {gap piece : List Char} {value : α} (blank : Blank gap)
    (reads : Reads item piece value) {rest : List Char} (ended : Ended rest) (last : α)
    (read : List α) :
    itemTurn item (last :: read) (',' :: (gap ++ (piece ++ rest))) =
      .ok (.again (value :: last :: read) rest) := by
  simp [itemTurn, nextItem_comma blank reads.solid, reads.here ended, pure, Except.pure, bind,
    Except.bind]

theorem itemTurn_close {gap : List Char} (blank : Blank gap) (read : List α)
    (rest : List Char) :
    itemTurn item read (gap ++ ']' :: rest) = .ok (.done read.reverse rest) := by
  simp [itemTurn, nextItem_close blank, pure, Except.pure, bind, Except.bind]

/-- Behind an item stands a comma or the end of the list. -/
theorem ended_writeItems (spaced : spacing.Blank) (depth outer : Nat) (items : List Json)
    (rest : List Char) :
    Ended (writeItems spacing depth items ++ (spacing.lineBreak outer ++ ']' :: rest)) := by
  cases items with
  | nil =>
      rw [writeItems, List.nil_append]
      exact ended_append (spaced.lineBreak outer) (by simp [Ended])
  | cons item items => simp [writeItems, Ended]

/-- The items behind the first one are read in turns.  The items read before stand
backwards in the state and come first in the result. -/
theorem turned_writeItems (spaced : spacing.Blank) (depth outer : Nat) {items : List Json}
    {values : List α}
    (reads : List.Forall₂ (fun written value => Reads item (write spacing depth written) value)
      items values)
    (last : α) (read : List α) (rest : List Char) :
    Turned (itemTurn item) (last :: read)
      (writeItems spacing depth items ++ (spacing.lineBreak outer ++ ']' :: rest))
      (.ok ((last :: read).reverse ++ values, rest)) := by
  induction reads generalizing last read with
  | nil =>
      refine .done ?_
      simpa [writeItems] using itemTurn_close (spaced.lineBreak outer) (last :: read) rest
  | @cons written value items values head tail ih =>
      have goes := itemTurn_comma (spaced.lineBreak depth) head
        (ended_writeItems spaced depth outer items rest) last read
      have others := ih value (last :: read)
      simp only [writeItems, List.cons_append, List.append_assoc]
      refine .again goes ?_ ?_
      · simp only [List.length_cons, List.length_append]
        omega
      · simpa using others

/-- Behind the opening bracket of a written list its items are read. -/
theorem readItems_write (spaced : spacing.Blank) (depth : Nat) {items : List Json}
    {values : List α}
    (reads : List.Forall₂
      (fun written value => Reads item (write spacing (depth + 1) written) value) items values) :
    ∃ tail, write spacing depth (.arr items) = '[' :: tail ∧
      ∀ rest, readItems item (tail ++ rest) = .ok (values, rest) := by
  cases reads with
  | nil =>
      refine ⟨[']'], by simp [write], fun rest => Turned.repeatTurns_eq (.done ?_)⟩
      exact itemTurn_close .nil [] rest
  | @cons written value items values head tail =>
      refine ⟨_, by simp [write]; rfl, fun rest => Turned.repeatTurns_eq ?_⟩
      have goes := itemTurn_first (spaced.lineBreak (depth + 1)) head
        (ended_writeItems spaced (depth + 1) depth items rest)
      have others := turned_writeItems spaced (depth + 1) depth tail value [] rest
      simp only [List.append_assoc, List.cons_append, List.nil_append]
      refine .again goes ?_ ?_
      · obtain ⟨c, left, opening, -, -⟩ := head.solid
        simp only [opening, List.length_cons, List.length_append]
        omega
      · simpa using others

end Items

/-! ### Objects -/

section Members

variable {σ : Type} {member : σ → String → Reader σ} {spacing : Spacing} {state next : σ}

theorem quoted_append (key : String) (text : List Char) :
    quoted key ++ text = '"' :: (key.toList.flatMap escape ++ '"' :: text) := by
  simp [quoted]

theorem nextKey_first {gap : List Char} (blank : Blank gap) (text : List Char) :
    nextKey true (gap ++ '"' :: text) = .ok (.part text) := by
  have quote : isSpace '"' = false := by decide
  simp [nextKey, skipSpace_append_cons blank quote]

theorem nextKey_comma {gap : List Char} (blank : Blank gap) (text : List Char) :
    nextKey false (',' :: (gap ++ '"' :: text)) = .ok (.part text) := by
  have comma : isSpace ',' = false := by decide
  have quote : isSpace '"' = false := by decide
  simp [nextKey, skipSpace_cons comma, skipSpace_append_cons blank quote]

theorem nextKey_close {gap : List Char} (blank : Blank gap) (first : Bool)
    (rest : List Char) :
    nextKey first (gap ++ '\x7d' :: rest) = .ok (.close rest) := by
  have bracket : isSpace '\x7d' = false := by decide
  simp [nextKey, skipSpace_append_cons blank bracket]

/-- A turn on the first member goes as the reader of the member does. -/
theorem memberTurn_first {gap : List Char} (blank : Blank gap) (state : σ) (key : String)
    (text : List Char) :
    memberTurn member (true, state) (gap ++ (quoted key ++ text)) =
      (member state key text).map fun read => .again (false, read.1) read.2 := by
  simp only [memberTurn, quoted_append, nextKey_first blank, readText_written, bind, Except.bind]
  cases member state key text <;> rfl

/-- So does a turn on a member behind a comma. -/
theorem memberTurn_comma {gap : List Char} (blank : Blank gap) (state : σ) (key : String)
    (text : List Char) :
    memberTurn member (false, state) (',' :: (gap ++ (quoted key ++ text))) =
      (member state key text).map fun read => .again (false, read.1) read.2 := by
  simp only [memberTurn, quoted_append, nextKey_comma blank, readText_written, bind, Except.bind]
  cases member state key text <;> rfl

theorem memberTurn_close {gap : List Char} (blank : Blank gap) (first : Bool) (state : σ)
    (rest : List Char) :
    memberTurn member (first, state) (gap ++ '\x7d' :: rest) = .ok (.done state rest) := by
  simp [memberTurn, nextKey_close blank, pure, Except.pure, bind, Except.bind]

theorem readColon_cons (text : List Char) : readColon (':' :: text) = .ok text := by
  have colon : isSpace ':' = false := by decide
  simp [readColon, skipSpace_cons colon]

/-- What a reader of members comes to on one written member, whatever follows: its
next state, with the reader behind the member, or a fault. -/
def Meets (member : σ → String → Reader σ) (spacing : Spacing) (depth : Nat) (state : σ)
    (written : String × Json) (met : Except Fault σ) : Prop :=
  ∀ rest, Ended rest →
    member state written.1
        (':' :: (spacing.afterColon ++ (write spacing depth written.2 ++ rest))) =
      met.map fun next => (next, rest)

/-- The written members of an object take a reader from a state to another one,
or up to the first fault. -/
inductive Fills (member : σ → String → Reader σ) (spacing : Spacing) (depth : Nat) :
    σ → List (String × Json) → Except Fault σ → Prop where
  | nil {state : σ} : Fills member spacing depth state [] (.ok state)
  | fault {state : σ} {written : String × Json} {members : List (String × Json)} {fault : Fault}
      (fails : Meets member spacing depth state written (.error fault)) :
      Fills member spacing depth state (written :: members) (.error fault)
  | cons {state next : σ} {written : String × Json} {members : List (String × Json)}
      {outcome : Except Fault σ} (takes : Meets member spacing depth state written (.ok next))
      (others : Fills member spacing depth next members outcome) :
      Fills member spacing depth state (written :: members) outcome

/-- Behind a member stands a comma or the end of the object. -/
theorem ended_writeMembers (spaced : spacing.Blank) (depth outer : Nat)
    (members : List (String × Json)) (rest : List Char) :
    Ended (writeMembers spacing depth members ++ (spacing.lineBreak outer ++ '\x7d' :: rest)) := by
  cases members with
  | nil =>
      rw [writeMembers, List.nil_append]
      exact ended_append (spaced.lineBreak outer) (by simp [Ended])
  | cons member members => simp [writeMembers, Ended]

/-- The members behind the first one are read in turns. -/
theorem turned_writeMembers (spaced : spacing.Blank) (depth outer : Nat)
    {members : List (String × Json)} {outcome : Except Fault σ}
    (fills : Fills member spacing depth state members outcome) (rest : List Char) :
    Turned (memberTurn member) (false, state)
      (writeMembers spacing depth members ++ (spacing.lineBreak outer ++ '\x7d' :: rest))
      (outcome.map fun final => (final, rest)) := by
  induction fills with
  | nil =>
      refine .done ?_
      simpa [writeMembers] using memberTurn_close (spaced.lineBreak outer) false _ rest
  | @fault state written members fault fails =>
      refine .fault ?_
      simp only [writeMembers, List.cons_append, List.append_assoc]
      rw [memberTurn_comma (spaced.lineBreak depth),
        fails _ (ended_writeMembers spaced depth outer members rest)]
      rfl
  | @cons state next written members outcome takes others ih =>
      refine .again ?_ ?_ ih
      · simp only [writeMembers, List.cons_append, List.append_assoc]
        rw [memberTurn_comma (spaced.lineBreak depth),
          takes _ (ended_writeMembers spaced depth outer members rest)]
        rfl
      · simp only [writeMembers, List.cons_append, List.length_cons, List.length_append]
        omega

/-- Behind the opening bracket of a written object its members are read, up to
the first fault. -/
theorem readMembers_write (spaced : spacing.Blank) (depth : Nat)
    {members : List (String × Json)} {outcome : Except Fault σ}
    (fills : Fills member spacing (depth + 1) state members outcome) :
    ∃ tail, write spacing depth (.obj members) = '\x7b' :: tail ∧
      ∀ rest, readMembers member state (tail ++ rest) =
        outcome.map fun final => (final, rest) := by
  cases fills with
  | nil =>
      refine ⟨['\x7d'], by simp [write], fun rest => Turned.repeatTurns_eq (.done ?_)⟩
      exact memberTurn_close .nil true state rest
  | @fault _ written members fault fails =>
      refine ⟨_, by simp [write]; rfl, fun rest => Turned.repeatTurns_eq (.fault ?_)⟩
      simp only [List.append_assoc, List.cons_append, List.nil_append]
      rw [memberTurn_first (spaced.lineBreak (depth + 1)),
        fails _ (ended_writeMembers spaced (depth + 1) depth members rest)]
      rfl
  | @cons _ next written members _ takes others =>
      refine ⟨_, by simp [write]; rfl, fun rest => Turned.repeatTurns_eq ?_⟩
      refine .again ?_ ?_ (turned_writeMembers spaced (depth + 1) depth others rest)
      · simp only [List.append_assoc, List.cons_append, List.nil_append]
        rw [memberTurn_first (spaced.lineBreak (depth + 1)),
          takes _ (ended_writeMembers spaced (depth + 1) depth members rest)]
        rfl
      · simp only [quoted, List.length_cons, List.length_append]
        omega

end Members

end Stepwise.Json
