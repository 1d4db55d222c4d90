/-
Module: Stepwise.Json.Decoder
Purpose: Reading typed values, from a text or from a JSON value.
Main exports: Json.Decoder, Json.Decoder.text, Json.Decoder.float, Json.Decoder.choice,
  Json.Decoder.list, Json.Decoder.read, Json.Decoder.readThrough
-/
import Stepwise.Json.Parse

namespace Stepwise.Json

/-!
A decoder reads one type in two ways.  From a text it reads straight, so that a
wrong shape is reported as soon as it is seen, before the rest of the text is
looked at; a list or an object in the wrong place is reported at its opening
bracket, a scalar after it has been read.  From a value it can only find a
wrong shape, because a value is well formed.
-/

/-- Reads values of a type. -/
structure Decoder (α : Type) where
  fromText : Reader α
  fromValue : Json → Except Mismatch α

/-- The fault of a text that starts with something else than what is wanted. -/
def wrongStart (expected : String) (text : List Char) : Fault :=
  match text with
  | '[' :: _ => .mismatch (.wrongType .sequence expected)
  | '\x7b' :: _ => .mismatch (.wrongType .map expected)
  | text =>
      match readScalar text with
      | .error fault => fault
      | .ok (value, _) => .mismatch (.wrongType (.ofValue value) expected)

/-- The mismatch of a value that is something else than what is wanted. -/
def wrongValue (expected : String) (value : Json) : Mismatch :=
  .wrongType (.ofValue value) expected

namespace Decoder

/-- Strings. -/
def text : Decoder String :=
  { fromText := fun text =>
      match skipSpace text with
      | '"' :: rest => readText rest
      | text => .error (wrongStart "a string" text)
    fromValue := fun
      | .str text => .ok text
      | value => .error (wrongValue "a string" value) }

/-- Doubles, which may be spelled as integers. -/
def float : Decoder Float :=
  { fromText := fun text =>
      match skipSpace text with
      | [] => .error (.ended .value)
      | c :: rest => do
          if c = '-' || c.isDigit then
            let (number, rest) ← readNumber (c :: rest)
            return (number.toFloat, rest)
          else .error (wrongStart "f64" (c :: rest))
    fromValue := fun
      | .num number => .ok number.toFloat
      | value => .error (wrongValue "f64" value) }

/-- The word `null`, which carries no information. -/
def nothing : Decoder Unit :=
  { fromText := fun text =>
      match skipSpace text with
      | 'n' :: rest => do return ((), ← readWord ['u', 'l', 'l'] rest)
      | text => .error (wrongStart "unit" text)
    fromValue := fun
      | .null => .ok ()
      | value => .error (wrongValue "unit" value) }

/-- Looks a name up among named values. -/
def select {α : Type} (choices : List (String × α)) (name : String) : Except Mismatch α :=
  match choices.lookup name with
  | some choice => .ok choice
  | none => .error (.unknownVariant name (choices.map Prod.fst))

/-- Reads a name behind its opening quote and looks it up. -/
def readChoice {α : Type} (choices : List (String × α)) : Reader α := fun text => do
  let (name, rest) ← readText text
  return (← (select choices name).mapError .mismatch, rest)

/-- Reads the single member of an object behind its opening bracket: the name
of a choice with the value `null`.  Every other key breaks the rules of JSON,
and so does an object without a member. -/
def readChoiceMember {α : Type} (choices : List (String × α)) : Reader α := fun text =>
  match skipSpace text with
  | '"' :: rest => do
      let (choice, rest) ← readChoice choices rest
      let ((), rest) ← nothing.fromText (← readColon rest)
      match skipSpace rest with
      | [] => .error (.ended .object)
      | c :: rest =>
          if c = '\x7d' then return (choice, rest) else .error (.malformed .valueMissing)
  | [] => .error (.ended .object)
  | '\x7d' :: _ => .error (.malformed .valueMissing)
  | _ => .error (.malformed .keyNotText)

/-- One of several named values: a string with the name, or an object whose
only member has the name as its key and the value `null`. -/
def choice {α : Type} (choices : List (String × α)) : Decoder α :=
  { fromText := fun text =>
      match skipSpace text with
      | [] => .error (.ended .value)
      | '"' :: rest => readChoice choices rest
      | '\x7b' :: rest => readChoiceMember choices rest
      | _ => .error (.malformed .valueMissing)
    fromValue := fun
      | .str name => select choices name
      | .obj [(name, value)] => do
          let choice ← select choices name
          nothing.fromValue value
          return choice
      | .obj _ => .error (.wrongValue .map "map with a single key")
      | value => .error (wrongValue "string or map" value) }

/-- Lists. -/
def list {α : Type} (item : Decoder α) : Decoder (List α) :=
  { fromText := fun text =>
      match skipSpace text with
      | '[' :: rest => readItems item.fromText rest
      | text => .error (wrongStart "a sequence" text)
    fromValue := fun
      | .arr values => values.mapM item.fromValue
      | value => .error (wrongValue "a sequence" value) }

/-- A decoder with its results passed through a function. -/
def map {α β : Type} (convert : α → β) (decoder : Decoder α) : Decoder β :=
  { fromText := fun text => do
      let (value, rest) ← decoder.fromText text
      return (convert value, rest)
    fromValue := fun value => (decoder.fromValue value).map convert }

/-- Reads a whole text straight. -/
def read {α : Type} (decoder : Decoder α) (text : String) : Except Fault α :=
  readWhole decoder.fromText text

/-- Reads a whole text as a JSON value and then decodes the value. -/
def readThrough {α : Type} (decoder : Decoder α) (text : String) : Except Fault α := do
  (decoder.fromValue (← parse text)).mapError .mismatch

end Decoder

end Stepwise.Json
