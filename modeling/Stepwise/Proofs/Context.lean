/-
Module: Stepwise.Proofs.Context
Purpose: What a context made from entries holds.
Main exports: Context.get?_insert, Context.get?_ofEntries, Context.KeepsLast,
  Context.keepsLast_ofEntries
-/
import Mathlib.Data.List.Induction
import Stepwise.Context

namespace Stepwise.Context

/-!
A context is built by setting one key after the other.  Setting a key hides what
was there under it and nothing else, so the entries are best looked at from
their end: the last entry of a key is the one that is found.
-/

variable {context : Context} {key other : String} {value : Json}

/-- Leaving out one key changes nothing for another. -/
theorem lookup_filter_ne (different : key ≠ other) (entries : List (String × Json)) :
    (entries.filter fun entry => entry.1 != other).lookup key = entries.lookup key := by
  induction entries with
  | nil => rfl
  | cons entry entries ih =>
      obtain ⟨name, content⟩ := entry
      by_cases dropped : name = other
      · have elsewhere : (key == name) = false := by simp [dropped, different]
        rw [List.filter_cons_of_neg (by simp [dropped]), ih, List.lookup_cons, elsewhere]
      · rw [List.filter_cons_of_pos (by simp [dropped]), List.lookup_cons, List.lookup_cons, ih]

theorem get?_insert :
    (context.insert other value).get? key =
      if key = other then some value else context.get? key := by
  unfold get? insert
  split
  next same => rw [same, List.lookup_cons_self]
  next different =>
    have elsewhere : (key == other) = false := by simp [different]
    rw [List.lookup_cons, elsewhere, lookup_filter_ne different]

theorem mem_keys_insert :
    other ∈ (context.insert key value).entries.map Prod.fst ↔
      other = key ∨ other ∈ context.entries.map Prod.fst := by
  by_cases same : other = key
  · simp [insert, same]
  · simp [insert, same]

theorem nodup_keys_insert (distinct : (context.entries.map Prod.fst).Nodup) :
    ((context.insert key value).entries.map Prod.fst).Nodup := by
  unfold insert
  rw [List.map_cons, List.nodup_cons]
  constructor
  · simp
  · exact distinct.sublist (List.filter_sublist.map Prod.fst)

theorem ofEntries_concat (entries : List (String × Json)) (entry : String × Json) :
    ofEntries (entries ++ [entry]) = (ofEntries entries).insert entry.1 entry.2 := by
  rw [ofEntries, List.foldl_append]
  rfl

/-- A key is looked up among the entries from their end. -/
theorem get?_ofEntries (entries : List (String × Json)) (key : String) :
    (ofEntries entries).get? key = entries.reverse.lookup key := by
  induction entries using List.reverseRecOn with
  | nil => rfl
  | append_singleton entries entry ih =>
      obtain ⟨name, content⟩ := entry
      rw [ofEntries_concat, get?_insert, List.reverse_concat, ih, List.lookup_cons]
      by_cases same : key = name
      · simp [same]
      · have elsewhere : (key == name) = false := by simp [same]
        rw [if_neg same, elsewhere]

theorem mem_keys_ofEntries (entries : List (String × Json)) (key : String) :
    key ∈ (ofEntries entries).entries.map Prod.fst ↔ key ∈ entries.map Prod.fst := by
  induction entries using List.reverseRecOn with
  | nil => rfl
  | append_singleton entries entry ih =>
      rw [ofEntries_concat, mem_keys_insert, ih]
      simp [or_comm]

theorem nodup_keys_ofEntries (entries : List (String × Json)) :
    ((ofEntries entries).entries.map Prod.fst).Nodup := by
  induction entries using List.reverseRecOn with
  | nil => exact List.nodup_nil
  | append_singleton entries entry ih =>
      rw [ofEntries_concat]
      exact nodup_keys_insert ih

/-- A context has the keys of the entries, each with the value of its last
entry, and no other key. -/
structure KeepsLast (context : Context) (entries : List (String × Json)) : Prop where
  get : ∀ key value, context.get? key = some value ↔
    ∃ before after, entries = before ++ (key, value) :: after ∧ key ∉ after.map Prod.fst
  keys : ∀ key, key ∈ context.entries.map Prod.fst ↔ key ∈ entries.map Prod.fst
  distinct : (context.entries.map Prod.fst).Nodup

theorem forall_key_ne_iff {entries : List (String × Json)} :
    (∀ entry ∈ entries, (key != entry.1) = true) ↔ key ∉ entries.map Prod.fst := by
  rw [List.mem_map]
  constructor
  · rintro others ⟨entry, held, rfl⟩
    simpa using others entry held
  · intro absent entry held
    rw [bne_iff_ne]
    rintro rfl
    exact absent ⟨entry, held, rfl⟩

/-- Of several entries with one key the last one counts. -/
theorem keepsLast_ofEntries (entries : List (String × Json)) :
    (ofEntries entries).KeepsLast entries where
  get key value := by
    rw [get?_ofEntries, List.lookup_eq_some_iff]
    constructor
    · rintro ⟨after, before, reversed, absent⟩
      refine ⟨before.reverse, after.reverse, ?_, ?_⟩
      · rw [← List.reverse_inj, reversed]
        simp
      · rwa [List.map_reverse, List.mem_reverse, ← forall_key_ne_iff]
    · rintro ⟨before, after, rfl, absent⟩
      refine ⟨after.reverse, before.reverse, by simp, ?_⟩
      rwa [forall_key_ne_iff, List.map_reverse, List.mem_reverse]
  keys := mem_keys_ofEntries entries
  distinct := nodup_keys_ofEntries entries

end Stepwise.Context
