/-
Module: Stepwise.Proofs.Json.Skip
Purpose: A written scalar is passed over up to its end.
Main exports: Json.isScalar, Json.skipText_of_readTextAfter, Json.skipValue_scalar, Json.Skips,
  Json.skips_write
-/
import Stepwise.Json.Skip
import Stepwise.Proofs.Json.Double
import Stepwise.Proofs.Json.Value

namespace Stepwise.Json

/-!
Passing over a value asks for less than reading it does.  A string that can be read
can be passed over, and of a number only the grammar is checked, so that every number
that is written can be passed over, although not every one can be read.
-/

/-- Whether a value is neither a list nor an object. -/
def isScalar : Json → Bool
  | .arr _ | .obj _ => false
  | .null | .bool _ | .num _ | .str _ => true

theorem normal_of_isScalar {value : Json} (scalar : value.isScalar = true) :
    value.normal = value := by
  cases value with
  | arr items => contradiction
  | obj members => contradiction
  | _ => rw [normal] <;> simp

/-- A string that can be read can be passed over. -/
theorem skipText_of_readTextAfter {read text : List Char} {result rest : List Char}
    (reads : readTextAfter read text = .ok (result, rest)) : skipText text = .ok rest := by
  -- Both go through the text in the same steps; the second half of a pair is one more step.
  fun_induction readTextAfter read text <;> simp_all [skipText]

/-- One turn is enough for a scalar outside of all containers. -/
theorem skipValue_scalar {text tail rest : List Char} {c : Char}
    (opening : skipSpace text = c :: tail) (no_list : c ≠ '[') (no_object : c ≠ '\x7b')
    (skipped : skipScalar (c :: tail) = .ok rest) : skipValue text = .ok rest := by
  have turn : skipTurn [] text = .ok (.done () rest) := by
    unfold skipTurn
    rw [opening]
    split
    · simp_all
    · simp_all
    · rw [skipped]
      rfl
  have turned := (Turned.done turn).repeatTurns_eq
  simp [skipValue, turned, pure, Except.pure, bind, Except.bind]

/-- A piece of text that is passed over wherever it stands. -/
def Skips (piece : List Char) : Prop :=
  ∀ gap rest, Blank gap → Ended rest → skipValue (gap ++ (piece ++ rest)) = .ok rest

theorem skips_of_skipScalar {c : Char} {tail : List Char} (solid : isSpace c = false)
    (no_list : c ≠ '[') (no_object : c ≠ '\x7b')
    (scalar : ∀ rest, Ended rest → skipScalar (c :: (tail ++ rest)) = .ok rest) :
    Skips (c :: tail) :=
  fun _ rest blank ended =>
    skipValue_scalar (skipSpace_append_cons blank solid _) no_list no_object (scalar rest ended)

theorem skips_null : Skips ['n', 'u', 'l', 'l'] := by
  apply skips_of_skipScalar (by decide) (by decide) (by decide)
  intro rest _
  simp [skipScalar, readWord]

theorem skips_quoted (text : String) : Skips (quoted text) := by
  apply skips_of_skipScalar (by decide) (by decide) (by decide)
  intro rest _
  have reads := readTextAfter_written text.toList [] rest
  simpa [skipScalar] using skipText_of_readTextAfter reads

theorem skips_number {piece : List Char} (scans : Scans piece) : Skips piece := by
  obtain ⟨c, tail, rfl, starts⟩ := scans.opening
  have scanned (rest : List Char) (ended : Ended rest) :
      skipNumber (c :: (tail ++ rest)) = .ok rest := by
    obtain ⟨numeral, scan⟩ := scans.scan
    have scan_here := scan rest ended
    rw [List.cons_append] at scan_here
    simp [skipNumber, scan_here]
  obtain rfl | digit := starts
  · apply skips_of_skipScalar (by decide) (by decide) (by decide)
    intro rest ended
    simp [skipScalar, scanned rest ended]
  · obtain ⟨solid, no_brackets, no_n, no_t, no_f, no_quote⟩ := not_other_of_isDigit digit
    apply skips_of_skipScalar solid no_brackets.1 no_brackets.2.2
    intro rest ended
    simp [skipScalar, scanned rest ended, digit, no_n, no_t, no_f, no_quote]

/-- A written scalar is passed over, whatever number it is. -/
theorem skips_write (spacing : Spacing) (depth : Nat) {value : Json}
    (scalar : value.isScalar = true) : Skips (write spacing depth value) := by
  cases value with
  | null => simpa [write] using skips_null
  | bool value =>
      cases value <;> rw [write] <;>
        · apply skips_of_skipScalar (by decide) (by decide) (by decide)
          intro rest _
          simp [skipScalar, readWord]
  | num number =>
      rw [write]
      obtain nothing | scans := scans_write number
      · rw [nothing]
        exact skips_null
      · exact skips_number scans
  | str text => simpa [write] using skips_quoted text
  | arr items => contradiction
  | obj members => contradiction

end Stepwise.Json
