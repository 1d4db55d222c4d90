/-
Module: Stepwise.Text.Quoted
Purpose: Text between quotes with everything invisible spelled out.
Main exports: Text.isInvisible, Text.spellChar, Text.spelled
-/
import Stepwise.Text.Tables.GraphemeExtend
import Stepwise.Text.Tables.Unprintable

namespace Stepwise.Text

/-!
Reports quote foreign text so that it can be read: a character that has no
glyph of its own, or that would merge with its neighbour, is spelled by its
code point.  This form is for people and is not the JSON form of a string.
-/

/-- The letters that only fill a place in a syllable and are not seen. -/
def fillers : List Char :=
  ['\u115F', '\u1160', '\u3164', '\uFFA0']

/-- The extending marks that take up a place of their own. -/
def standingMarks : List Char :=
  ['\uFF9E', '\uFF9F']

/-- Whether a character cannot be seen, or cannot be seen alone. -/
def isInvisible (c : Char) : Bool :=
  fillers.contains c || inRanges unprintableRanges c ||
    (inRanges graphemeExtendRanges c && !standingMarks.contains c)

/-- A character as it stands in quoted text. -/
def spellChar (c : Char) : List Char :=
  if c = '"' || c = '\\' then ['\\', c]
  else if c.toNat = 0 then ['\\', '0']
  else if c = '\t' then ['\\', 't']
  else if c = '\n' then ['\\', 'n']
  else if c = '\r' then ['\\', 'r']
  else if isInvisible c then
    ['\\', 'u', '\x7b'] ++ Nat.toDigits 16 c.toNat ++ ['\x7d']
  else [c]

/-- A text between quotes. -/
def spelled (text : String) : String :=
  String.ofList ('"' :: text.toList.flatMap spellChar ++ ['"'])

end Stepwise.Text
