/-
Module: Stepwise.Json.Writer
Purpose: JSON values as text.
Main exports: Json.Spacing, Json.write, Json.compact, Json.indented, Json.numberLayout
-/
import Stepwise.Decimal.Layout
import Stepwise.Json.Text
import Stepwise.Json.Value

namespace Stepwise.Json

/-!
One writer serves every form; forms differ only in the white space between
tokens, which `Spacing` describes.  Members are written in the order in which
the object lists them.  Doubles are written with the shortest digits that read
back, always with a point or an exponent so that they stay doubles, and values
that JSON cannot express become `null`.
-/

/-- White space around the parts of a container. -/
structure Spacing where
  /-- What stands before an item at a depth, and before a closing bracket. -/
  lineBreak : Nat → List Char
  /-- What stands behind a colon. -/
  afterColon : List Char

/-- No white space at all. -/
def Spacing.compact : Spacing :=
  { lineBreak := fun _ => []
    afterColon := [] }

/-- One item a line, two spaces to a level. -/
def Spacing.indented : Spacing :=
  { lineBreak := fun depth => '\n' :: List.replicate (2 * depth) ' '
    afterColon := [' '] }

/-- Doubles keep a decimal point, and sizes from `1e-5` up to below `1e16` are
written without an exponent. -/
def numberLayout : Decimal.Layout :=
  { tie := .toEven
    positional := fun exponent => -5 ≤ exponent && exponent < 16
    wholeEnd := ".0"
    nan := "null"
    infinite := "null"
    negativeInfinite := "null" }

/-- A number as text. -/
def Number.write : Number → String
  | .int value => value.repr
  | .float value => numberLayout.write value

mutual

/-- A value as text, its first line standing at the given depth. -/
def write (spacing : Spacing) (depth : Nat) : Json → List Char
  | .null => ['n', 'u', 'l', 'l']
  | .bool true => ['t', 'r', 'u', 'e']
  | .bool false => ['f', 'a', 'l', 's', 'e']
  | .num number => number.write.toList
  | .str text => quoted text
  | .arr [] => ['[', ']']
  | .arr (item :: items) =>
      '[' :: spacing.lineBreak (depth + 1) ++ write spacing (depth + 1) item ++
        writeItems spacing (depth + 1) items ++ spacing.lineBreak depth ++ [']']
  | .obj [] => ['\x7b', '\x7d']
  | .obj ((key, value) :: members) =>
      '\x7b' :: spacing.lineBreak (depth + 1) ++ quoted key ++ ':' :: spacing.afterColon ++
        write spacing (depth + 1) value ++ writeMembers spacing (depth + 1) members ++
        spacing.lineBreak depth ++ ['\x7d']

/-- The items of an array behind its first one. -/
def writeItems (spacing : Spacing) (depth : Nat) : List Json → List Char
  | [] => []
  | item :: items =>
      ',' :: spacing.lineBreak depth ++ write spacing depth item ++
        writeItems spacing depth items

/-- The members of an object behind its first one. -/
def writeMembers (spacing : Spacing) (depth : Nat) : List (String × Json) → List Char
  | [] => []
  | (key, value) :: members =>
      ',' :: spacing.lineBreak depth ++ quoted key ++ ':' :: spacing.afterColon ++
        write spacing depth value ++ writeMembers spacing depth members

end

/-- A value without white space. -/
def compact (value : Json) : String :=
  String.ofList (write .compact 0 value)

/-- A value with one item a line. -/
def indented (value : Json) : String :=
  String.ofList (write .indented 0 value)

end Stepwise.Json
