/-
Module: Stepwise.Json.Fault
Purpose: Everything that can be wrong with a JSON text.
Main exports: Json.Ending, Json.Defect, Json.Found, Json.Mismatch, Json.Fault, Json.Fault.message
-/
import Stepwise.Json.Writer
import Stepwise.Text.Quoted

namespace Stepwise.Json

/-!
Reading fails in one of three ways: the text ends too early, it is not JSON,
or it is JSON of another shape than the one wanted.  A text is read once from
left to right, and the first problem met is the one reported.
-/

/-- What the text was in the middle of when it ended. -/
inductive Ending where
  | list
  | object
  | string
  | value
deriving Repr, Inhabited, DecidableEq

/-- The rule of JSON that a text breaks. -/
inductive Defect where
  | colonMissing
  | listCommaMissing
  | objectCommaMissing
  | wordUnknown
  | valueMissing
  | escapeUnknown
  | numberMalformed
  | numberTooLarge
  | controlCharacter
  | keyNotText
  | surrogateUnpaired
  | surrogatePairBroken
  | commaTrailing
  | textTrailing
  | nestedTooDeep
deriving Repr, Inhabited, DecidableEq

/-- What stands where something else is wanted. -/
inductive Found where
  | null
  | bool (value : Bool)
  | num (value : Number)
  | str (value : String)
  | sequence
  | map
deriving Repr, Inhabited

/-- How JSON of the wrong shape differs from the shape wanted. -/
inductive Mismatch where
  | wrongType (found : Found) (expected : String)
  | wrongValue (found : Found) (expected : String)
  | wrongLength (length : Nat) (expected : String)
  | unknownVariant (name : String) (variants : List String)
  | missingField (name : String)
  | duplicateField (name : String)
deriving Repr, Inhabited

/-- Why a text cannot be read. -/
inductive Fault where
  | ended (inside : Ending)
  | malformed (defect : Defect)
  | mismatch (why : Mismatch)
deriving Repr, Inhabited

/-- The three ways in which reading fails. -/
inductive Category where
  | eof
  | broken
  | data
deriving Repr, Inhabited, DecidableEq

/-- The way in which a fault made reading fail. -/
def Fault.category : Fault → Category
  | .ended _ => .eof
  | .malformed _ => .broken
  | .mismatch _ => .data

/-- What a value counts as when it stands where something else is wanted. -/
def Found.ofValue : Json → Found
  | .null => .null
  | .bool value => .bool value
  | .num value => .num value
  | .str value => .str value
  | .arr _ => .sequence
  | .obj _ => .map

/-- What was found, in words. -/
def Found.message : Found → String
  | .null => "null"
  | .bool value => "boolean `" ++ toString value ++ "`"
  | .num (.int value) => "integer `" ++ value.repr ++ "`"
  | .num (.float value) => "floating point `" ++ numberLayout.write value ++ "`"
  | .str value => "string " ++ Text.spelled value
  | .sequence => "sequence"
  | .map => "map"

/-- The end of the text, in words. -/
def Ending.message : Ending → String
  | .list => "EOF while parsing a list"
  | .object => "EOF while parsing an object"
  | .string => "EOF while parsing a string"
  | .value => "EOF while parsing a value"

/-- The broken rule, in words. -/
def Defect.message : Defect → String
  | .colonMissing => "expected `:`"
  | .listCommaMissing => "expected `,` or `]`"
  | .objectCommaMissing => "expected `,` or `\x7d`"
  | .wordUnknown => "expected ident"
  | .valueMissing => "expected value"
  | .escapeUnknown => "invalid escape"
  | .numberMalformed => "invalid number"
  | .numberTooLarge => "number out of range"
  | .controlCharacter => "control character (\\u0000-\\u001F) found while parsing a string"
  | .keyNotText => "key must be a string"
  | .surrogateUnpaired => "lone leading surrogate in hex escape"
  | .surrogatePairBroken => "unexpected end of hex escape"
  | .commaTrailing => "trailing comma"
  | .textTrailing => "trailing characters"
  | .nestedTooDeep => "recursion limit exceeded"

/-- The difference in shape, in words. -/
def Mismatch.message : Mismatch → String
  | .wrongType found expected =>
      "invalid type: " ++ found.message ++ ", expected " ++ expected
  | .wrongValue found expected =>
      "invalid value: " ++ found.message ++ ", expected " ++ expected
  | .wrongLength length expected =>
      "invalid length " ++ length.repr ++ ", expected " ++ expected
  | .unknownVariant name variants =>
      "unknown variant `" ++ name ++ "`, expected one of " ++
        ", ".intercalate (variants.map fun variant => "`" ++ variant ++ "`")
  | .missingField name => "missing field `" ++ name ++ "`"
  | .duplicateField name => "duplicate field `" ++ name ++ "`"

/-- The fault in words. -/
def Fault.message : Fault → String
  | .ended inside => inside.message
  | .malformed defect => defect.message
  | .mismatch why => why.message

end Stepwise.Json
