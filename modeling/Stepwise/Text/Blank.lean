/-
Module: Stepwise.Text.Blank
Purpose: White space and blank text.
Main exports: Text.isWhiteSpace, Text.isBlank
-/
import Stepwise.Text.CharRange

namespace Stepwise.Text

/-!
White space is the Unicode property White_Space: twenty-five characters, among
them the line and paragraph separators, the no-break space and the ideographic
space.  The zero-width space and the byte order mark are not white space.
-/

/-- The characters with the property White_Space, in ascending order. -/
def whiteSpaceRanges : List CharRange :=
  [⟨0x0009, 0x000D⟩, ⟨0x0020, 0x0020⟩, ⟨0x0085, 0x0085⟩, ⟨0x00A0, 0x00A0⟩,
    ⟨0x1680, 0x1680⟩, ⟨0x2000, 0x200A⟩, ⟨0x2028, 0x2029⟩, ⟨0x202F, 0x202F⟩,
    ⟨0x205F, 0x205F⟩, ⟨0x3000, 0x3000⟩]

/-- Whether a character is white space. -/
def isWhiteSpace (c : Char) : Bool :=
  inRanges whiteSpaceRanges c

/-- Whether a text holds white space only. -/
def isBlank (text : List Char) : Bool :=
  text.all isWhiteSpace

end Stepwise.Text
