/-
Module: Stepwise.Proofs.Json.Text
Purpose: A string is read back from its JSON form.
Main exports: Json.readTextAfter_escape, Json.readText_written
-/
import Mathlib.Tactic.SplitIfs
import Stepwise.Json.Unescape

namespace Stepwise.Json

/-!
The reader meets every character in the form in which the writer left it: as
itself, behind a backslash as a letter, or as four hexadecimal digits.  Only
control characters are written in the last form, so no surrogate is met.
-/

theorem hexValue?_hexDigit (value : Nat) : hexValue? (hexDigit value) = some (value % 16) := by
  have every : ∀ digit < 16, hexValue? (Nat.digitChar digit) = some digit := by decide
  exact every _ (Nat.mod_lt value (by decide))

/-- The two digits of a control character, behind two zeros, are its unit. -/
theorem hexUnit?_hexDigit {code : Nat} (control : code < 0x20) :
    hexUnit? '0' '0' (hexDigit (code / 16)) (hexDigit code) = some code := by
  have zero : hexValue? '0' = some 0 := by decide
  simp only [hexUnit?, zero, hexValue?_hexDigit, Option.some.injEq]
  omega

/-- A character that is not escaped is read as itself. -/
theorem readTextAfter_plain {c : Char} (no_quote : c ≠ '"') (no_backslash : c ≠ '\\')
    (no_control : ¬ c.toNat < 0x20) (read rest : List Char) :
    readTextAfter read (c :: rest) = readTextAfter (c :: read) rest := by
  rw [readTextAfter, if_neg no_control]
  -- The other cases of the reader start with a quote or a backslash.
  all_goals simp_all

/-- Four hexadecimal digits of a control character are read as that
character. -/
theorem readTextAfter_unit {code : Nat} (control : code < 0x20) (read rest : List Char) :
    readTextAfter read
        ('\\' :: 'u' :: '0' :: '0' :: hexDigit (code / 16) :: hexDigit code :: rest) =
      readTextAfter (Char.ofNat code :: read) rest := by
  have low : isLowSurrogate code = false := by simp [isLowSurrogate]; omega
  have high : isHighSurrogate code = false := by simp [isHighSurrogate]; omega
  rw [readTextAfter, hexUnit?_hexDigit control]
  simp [low, high]

/-- A letter behind a backslash is read as the character it stands for. -/
theorem readTextAfter_letter {letter c : Char} (known : letterEscape? letter = some c)
    (read rest : List Char) :
    readTextAfter read ('\\' :: letter :: rest) = readTextAfter (c :: read) rest := by
  have not_unit : letter ≠ 'u' := by
    rintro rfl
    simp [letterEscape?] at known
  rw [readTextAfter, known]
  all_goals simp_all

/-- A written character is read as itself. -/
theorem readTextAfter_escape (c : Char) (read rest : List Char) :
    readTextAfter read (escape c ++ rest) = readTextAfter (c :: read) rest := by
  have of_code {code : Nat} (same : c.toNat = code) : Char.ofNat code = c := by
    rw [← same, Char.ofNat_toNat]
  unfold escape
  split_ifs with quote backslash backspace tab feed page turn control
  · exact readTextAfter_letter (by rw [quote]; decide) read rest
  · exact readTextAfter_letter (by rw [backslash]; decide) read rest
  · exact readTextAfter_letter (by rw [← of_code backspace]; decide) read rest
  · exact readTextAfter_letter (by rw [← of_code tab]; decide) read rest
  · exact readTextAfter_letter (by rw [← of_code feed]; decide) read rest
  · exact readTextAfter_letter (by rw [← of_code page]; decide) read rest
  · exact readTextAfter_letter (by rw [← of_code turn]; decide) read rest
  · simpa [of_code rfl] using readTextAfter_unit control read rest
  · exact readTextAfter_plain quote backslash control read rest

theorem readTextAfter_written (written read rest : List Char) :
    readTextAfter read (written.flatMap escape ++ '"' :: rest) =
      .ok (read.reverse ++ written, rest) := by
  induction written generalizing read with
  | nil => simp [readTextAfter]
  | cons c written ih =>
      rw [List.flatMap_cons, List.append_assoc, readTextAfter_escape, ih]
      simp

/-- A written string is read as itself, up to its closing quote. -/
theorem readText_written (text : String) (rest : List Char) :
    readText (text.toList.flatMap escape ++ '"' :: rest) = .ok (text, rest) := by
  simp [readText, readTextAfter_written, pure, Except.pure, bind, Except.bind]

end Stepwise.Json
