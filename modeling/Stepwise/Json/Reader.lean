/-
Module: Stepwise.Json.Reader
Purpose: The parts that readers of JSON text are made of.
Main exports: Json.Reader, Json.skipSpace, Json.readWord, Json.Turn, Json.repeatTurns,
  Json.Next, Json.nextItem, Json.nextKey, Json.readColon, Json.endItems
-/
import Stepwise.Json.Fault

namespace Stepwise.Json

/-!
A reader takes a text and gives a result with the rest of the text, or the
first fault it meets.  Containers are read in turns, one per item or member.
A turn that asks for another one has read at least one character, so a text of
`n` characters cannot ask for more than `n` turns, and `repeatTurns` allows one
more than that: its last case is never reached.
-/

/-- Reads the front of a text. -/
abbrev Reader (α : Type) :=
  List Char → Except Fault (α × List Char)

/-- The four characters that may stand between tokens. -/
def isSpace (c : Char) : Bool :=
  c == ' ' || c == '\n' || c == '\t' || c == '\r'

/-- The text without the space at its front. -/
def skipSpace (text : List Char) : List Char :=
  text.dropWhile isSpace

/-- Reads the remaining letters of a word whose first letter is read. -/
def readWord : List Char → List Char → Except Fault (List Char)
  | [], text => .ok text
  | _ :: _, [] => .error (.ended .value)
  | letter :: word, c :: text =>
      if c = letter then readWord word text else .error (.malformed .wordUnknown)

/-- What a turn asks for: another turn in a new state, or nothing more. -/
inductive Turn (σ α : Type) where
  | again (state : σ) (rest : List Char)
  | done (result : α) (rest : List Char)

/-- Takes turns, at most as many as the number allows. -/
def takeTurns {σ α : Type} (turn : σ → List Char → Except Fault (Turn σ α)) :
    Nat → σ → List Char → Except Fault (α × List Char)
  | 0, _, _ => .error (.ended .value)
  | turns + 1, state, text =>
      match turn state text with
      | .error fault => .error fault
      | .ok (.done result rest) => .ok (result, rest)
      | .ok (.again state rest) => takeTurns turn turns state rest

/-- Takes turns until one is the last. -/
def repeatTurns {σ α : Type} (turn : σ → List Char → Except Fault (Turn σ α))
    (state : σ) (text : List Char) : Except Fault (α × List Char) :=
  takeTurns turn (text.length + 1) state text

/-- Whether a container goes on.  Behind `part` stands the next item, or the
first character of the next key; behind `close` stands what follows the
closing bracket. -/
inductive Next where
  | part (rest : List Char)
  | close (rest : List Char)
deriving Repr, Inhabited, DecidableEq

/-- Looks for the next item of a list, past the comma if it is not the first. -/
def nextItem (first : Bool) (text : List Char) : Except Fault Next :=
  match skipSpace text with
  | [] => .error (.ended .list)
  | c :: rest =>
      if c = ']' then .ok (.close rest)
      else if first then .ok (.part (c :: rest))
      else if c = ',' then
        match skipSpace rest with
        | [] => .error (.ended .value)
        | d :: rest =>
            if d = ']' then .error (.malformed .commaTrailing) else .ok (.part (d :: rest))
      else .error (.malformed .listCommaMissing)

/-- Looks for the end of a list whose items are all read. -/
def endItems (text : List Char) : Except Fault (List Char) :=
  match skipSpace text with
  | [] => .error (.ended .list)
  | c :: rest =>
      if c = ']' then .ok rest
      else if c = ',' then
        match skipSpace rest with
        | ']' :: _ => .error (.malformed .commaTrailing)
        | _ => .error (.malformed .textTrailing)
      else .error (.malformed .textTrailing)

/-- Looks for the next key of an object, past the comma if it is not the first
one and past the opening quote. -/
def nextKey (first : Bool) (text : List Char) : Except Fault Next :=
  match skipSpace text with
  | [] => .error (.ended .object)
  | c :: rest =>
      if c = '\x7d' then .ok (.close rest)
      else if first then
        if c = '"' then .ok (.part rest) else .error (.malformed .keyNotText)
      else if c = ',' then
        match skipSpace rest with
        | [] => .error (.ended .value)
        | d :: rest =>
            if d = '"' then .ok (.part rest)
            else if d = '\x7d' then .error (.malformed .commaTrailing)
            else .error (.malformed .keyNotText)
      else .error (.malformed .objectCommaMissing)

/-- Reads the colon behind a key. -/
def readColon (text : List Char) : Except Fault (List Char) :=
  match skipSpace text with
  | [] => .error (.ended .object)
  | c :: rest => if c = ':' then .ok rest else .error (.malformed .colonMissing)

end Stepwise.Json
