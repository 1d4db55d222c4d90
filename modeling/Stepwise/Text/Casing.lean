/-
Module: Stepwise.Text.Casing
Purpose: Full lower-casing of text.
Main exports: Text.lowerChar, Text.endsWord, Text.lowercase
-/
import Stepwise.Text.Tables.Cased
import Stepwise.Text.Tables.CaseIgnorable
import Stepwise.Text.Tables.LowerCase

namespace Stepwise.Text

/-!
Lower-casing follows the Unicode rules that do not depend on a language.  It
is not character by character: U+0130 becomes an `i` with a combining dot, and
a capital sigma becomes the final form when a cased letter comes before it and
none after it, both judged across case-ignorable characters.
-/

/-- Whether a character belongs to a run. -/
def CaseShift.covers (run : CaseShift) (c : Char) : Bool :=
  run.first ≤ c.toNat && c.toNat ≤ run.last && (c.toNat - run.first) % run.step == 0

/-- The lower-case form of a character on its own. -/
def lowerChar (c : Char) : List Char :=
  if c = '\u0130' then ['i', '\u0307']
  else
    match lowerCaseShifts.find? fun run => run.covers c with
    | some run => [Char.ofNat ((c.toNat : Int) + run.shift).toNat]
    | none => [c]

/-- Whether the first character that is not case-ignorable is cased. -/
def startsCased (text : List Char) : Bool :=
  match text.dropWhile (inRanges caseIgnorableRanges) with
  | [] => false
  | c :: _ => inRanges casedRanges c

/-- Whether a position ends a word: a cased letter lies before it and none
behind it.  The text before the position is given backwards. -/
def endsWord (before after : List Char) : Bool :=
  startsCased before && !startsCased after

/-- The lower-case form of a text that stands behind `before`, which is given
backwards. -/
def lowercaseBehind : List Char → List Char → List Char
  | _, [] => []
  | before, c :: rest =>
      (if c = '\u03A3' && endsWord before rest then ['\u03C2'] else lowerChar c) ++
        lowercaseBehind (c :: before) rest

/-- The lower-case form of a text. -/
def lowercase (text : List Char) : List Char :=
  lowercaseBehind [] text

end Stepwise.Text
