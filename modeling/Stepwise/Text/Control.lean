/-
Module: Stepwise.Text.Control
Purpose: Text without the control sequences of terminals.
Main exports: Text.Sequence, Text.Sequence.next, Text.Sequence.shows, Text.Showing,
  Text.Showing.step, Text.shown
-/

namespace Stepwise.Text

/-!
A control sequence starts with the escape character and tells a terminal what
to do.  Where no terminal reads, a text is shown without its control sequences
and without control characters, except for those that only space it out.

Inside the short kinds of sequence a spacing character is shown at once.  What
stands behind it is then shown as if no sequence were open, up to the next
character that is not shown.  There the open sequence goes on, unless a
character beyond ASCII has come in between.
-/

/-- The part of a control sequence that has been read last. -/
inductive Sequence where
  /-- No sequence is open. -/
  | none
  /-- The escape character. -/
  | escape
  /-- The escape character and characters that lead to the last one. -/
  | escapeMiddle
  /-- A command to the terminal. -/
  | command
  /-- A setting of the system, such as a title. -/
  | setting
  /-- The start of a call of the device. -/
  | device
  /-- The numbers of a call of the device. -/
  | deviceNumbers
  /-- Characters that lead to the name of a call of the device. -/
  | deviceMiddle
  /-- Data for the device, or a string without meaning. -/
  | data
deriving Repr, Inhabited, DecidableEq

/-- Whether a character spaces out text. -/
def isSpacing (c : Char) : Bool :=
  c == '\t' || c == '\n' || c == '\x0c' || c == '\r'

/-- Whether data ends in a character.  Data ends with one certain byte, and the
encoding of a character may hold this byte. -/
def endsData (c : Char) : Bool :=
  (String.utf8EncodeChar c).contains 0x9c

/-- Whether a character lies between two others, both included. -/
def isBetween (first last c : Char) : Bool :=
  first ≤ c && c ≤ last

namespace Sequence

/-- What the character behind the escape character opens. -/
def opened (c : Char) : Sequence :=
  if isBetween ' ' '/' c then .escapeMiddle
  else if c = '[' then .command
  else if c = ']' then .setting
  else if c = 'P' then .device
  else if c = 'X' || c = '^' || c = '_' then .data
  else if isBetween '0' '~' c then .none
  else .escape

/-- What is open behind a character.  Two characters cancel every sequence, and
the escape character starts a new one. -/
def next (sequence : Sequence) (c : Char) : Sequence :=
  if c = '\x1b' then .escape
  else if c = '\x18' || c = '\x1a' then .none
  else
    match sequence with
    | .none => .none
    | .escape => opened c
    | .escapeMiddle => if isBetween '0' '~' c then .none else .escapeMiddle
    | .command => if isBetween '@' '~' c then .none else .command
    | .setting => if c = '\x07' then .none else .setting
    | .device =>
        if isBetween ' ' '/' c then .deviceMiddle
        else if isBetween '0' '?' c then .deviceNumbers
        else if isBetween '@' '~' c then .data
        else .device
    | .deviceNumbers =>
        if isBetween ' ' '/' c then .deviceMiddle
        else if isBetween '<' '~' c then .data
        else .deviceNumbers
    | .deviceMiddle => if isBetween '0' '~' c then .data else .deviceMiddle
    | .data => if endsData c then .none else .data

/-- Whether a character is shown where a sequence may be open. -/
def shows (sequence : Sequence) (c : Char) : Bool :=
  match sequence with
  | .none => isSpacing c || (' ' ≤ c && c != '\x7f')
  | .escape | .escapeMiddle | .command => isSpacing c
  | _ => false

end Sequence

/-- The state behind a character: the sequence that is open, and whether the
character was shown. -/
structure Showing where
  sequence : Sequence
  running : Bool
deriving Repr, Inhabited, DecidableEq

namespace Showing

/-- Before any character. -/
def start : Showing :=
  { sequence := .none
    running := false }

/-- Takes one character. -/
def step (showing : Showing) (c : Char) : Showing :=
  if showing.running && Sequence.none.shows c then
    { sequence := if c.toNat < 0x80 then showing.sequence else .none
      running := true }
  else
    { sequence := showing.sequence.next c
      running := showing.sequence.shows c }

/-- The characters that are shown. -/
def shownChars (showing : Showing) : List Char → List Char
  | [] => []
  | c :: rest =>
      let showing := showing.step c
      if showing.running then c :: showing.shownChars rest else showing.shownChars rest

end Showing

/-- A text as it is shown where no terminal reads it. -/
def shown (text : String) : String :=
  String.ofList (Showing.start.shownChars text.toList)

end Stepwise.Text
