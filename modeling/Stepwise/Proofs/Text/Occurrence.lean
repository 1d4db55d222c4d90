/-
Module: Stepwise.Proofs.Text.Occurrence
Purpose: How often a pattern stands in a text that is put together from parts.
Main exports: Text.occurrences, Text.occurrences_eq_zero_iff, Text.occurrences_append_cons,
  Text.occurrences_between
-/
import Mathlib.Data.List.Infix

namespace Stepwise.Text

/-!
A place where a pattern stands in a text cannot reach across a character that
the pattern does not have.  Where such a character is known, the text may be cut
there, and each part counted for itself.
-/

/-- The number of places at which a pattern stands in a text.  Places may
overlap. -/
def occurrences (pattern text : List Char) : Nat :=
  text.tails.countP fun rest => pattern.isPrefixOf rest

variable {pattern : List Char} {c : Char}

theorem occurrences_cons (pattern : List Char) (c : Char) (text : List Char) :
    occurrences pattern (c :: text) =
      occurrences pattern text + if pattern.isPrefixOf (c :: text) then 1 else 0 := by
  rw [occurrences, List.tails_cons, List.countP_cons]
  rfl

/-- A pattern that stands nowhere is no part of the text. -/
theorem occurrences_eq_zero_iff {text : List Char} :
    occurrences pattern text = 0 ↔ ¬ pattern <:+: text := by
  rw [occurrences, List.countP_eq_zero, List.infix_iff_prefix_suffix, not_exists]
  apply forall_congr'
  intro rest
  rw [List.mem_tails, List.isPrefixOf_iff_prefix, not_and']

theorem occurrences_nil (nonempty : pattern ≠ []) : occurrences pattern [] = 0 := by
  rw [occurrences_eq_zero_iff, List.infix_nil]
  exact nonempty

/-- Where a pattern begins, it ends before any character that it does not have. -/
theorem prefix_append_cons_iff (missing : c ∉ pattern) (front rest : List Char) :
    pattern <+: front ++ c :: rest ↔ pattern <+: front := by
  constructor
  · intro opens
    have near : front <+: front ++ c :: rest := List.prefix_append _ _
    rcases List.prefix_or_prefix_of_prefix opens near with inside | ⟨behind, rfl⟩
    · exact inside
    · rw [List.prefix_append_right_inj] at opens
      cases behind with
      | nil => simp
      | cons d behind =>
          obtain ⟨rfl, -⟩ := List.cons_prefix_cons.mp opens
          exact absurd (by simp) missing
  · intro inside
    exact inside.trans (List.prefix_append _ _)

/-- A text may be cut at a character that the pattern does not have. -/
theorem occurrences_append_cons (nonempty : pattern ≠ []) (missing : c ∉ pattern)
    (front rest : List Char) :
    occurrences pattern (front ++ c :: rest) =
      occurrences pattern front + occurrences pattern rest := by
  induction front with
  | nil =>
      have elsewhere : ¬ pattern.isPrefixOf (c :: rest) = true := by
        rw [List.isPrefixOf_iff_prefix]
        intro opens
        have inside := (prefix_append_cons_iff missing [] rest).mp opens
        exact nonempty (List.prefix_nil.mp inside)
      rw [List.nil_append, occurrences_cons, if_neg elsewhere, occurrences_nil nonempty,
        Nat.add_zero, Nat.zero_add]
  | cons d front ih =>
      have begins : pattern.isPrefixOf (d :: (front ++ c :: rest)) =
          pattern.isPrefixOf (d :: front) := by
        rw [Bool.eq_iff_iff, List.isPrefixOf_iff_prefix, List.isPrefixOf_iff_prefix]
        exact prefix_append_cons_iff missing (d :: front) rest
      rw [List.cons_append, occurrences_cons, occurrences_cons, ih, begins]
      omega

/-- Parts are counted for themselves if the one in the middle lies between
characters that the pattern does not have. -/
theorem occurrences_between (nonempty : pattern ≠ []) {front rest : List Char} {d : Char}
    (ends : c ∈ front.getLast?) (starts : d ∈ rest.head?) (missing : c ∉ pattern)
    (missing' : d ∉ pattern) (middle : List Char) :
    occurrences pattern (front ++ middle ++ rest) =
      occurrences pattern front + occurrences pattern middle + occurrences pattern rest := by
  obtain ⟨front, rfl⟩ := List.getLast?_eq_some_iff.mp ends
  obtain ⟨rest, rfl⟩ := List.head?_eq_some_iff.mp starts
  have cut := occurrences_append_cons nonempty missing front (middle ++ d :: rest)
  have cut_middle := occurrences_append_cons nonempty missing' middle rest
  have cut_front := occurrences_append_cons nonempty missing front []
  have cut_rest := occurrences_append_cons nonempty missing' [] rest
  have empty := occurrences_nil nonempty
  rw [List.append_assoc, List.append_assoc, List.singleton_append]
  rw [List.nil_append] at cut_rest
  omega

end Stepwise.Text
