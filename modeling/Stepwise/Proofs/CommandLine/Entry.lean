/-
Module: Stepwise.Proofs.CommandLine.Entry
Purpose: Context entries, from the arguments to the context they make up.
Main exports: CommandLine.parseEntry_append, CommandLine.exists_parseEntry_eq_error_iff,
  CommandLine.foldlM_setOption, CommandLine.parseEntry_faithful
-/
import Mathlib.Data.List.TakeWhile
import Stepwise.CommandLine.Settled
import Stepwise.Proofs.Context
import Stepwise.Proofs.Except
import Stepwise.Proofs.Json.Order

namespace Stepwise.CommandLine

/-!
An argument is cut at its first equals sign.  A key without one can therefore be
put in front of any text, whatever signs the text has itself, and both are found
again.  The text is then read as JSON, and what no JSON reader takes is a value
all the same, namely the text.
-/

/-! ### Single entries -/

theorem ne_equals_of_mem {text : List Char} (plain : '=' ∉ text) :
    ∀ c ∈ text, (c != '=') = true := by
  intro c held
  rw [bne_iff_ne]
  exact ne_of_mem_of_not_mem held plain

theorem splitAtEquals_append {key : List Char} (plain : '=' ∉ key) (value : List Char) :
    splitAtEquals (key ++ '=' :: value) = (key, some value) := by
  unfold splitAtEquals
  rw [List.takeWhile_append_of_pos (ne_equals_of_mem plain),
    List.dropWhile_append_of_pos (ne_equals_of_mem plain)]
  simp

theorem splitAtEquals_of_not_mem {text : List Char} (plain : '=' ∉ text) :
    splitAtEquals text = (text, none) := by
  unfold splitAtEquals
  rw [List.takeWhile_eq_self_iff.mpr (ne_equals_of_mem plain),
    List.dropWhile_eq_nil_iff.mpr (ne_equals_of_mem plain)]
  rfl

/-- A key and a text around an equals sign. -/
theorem parseEntry_append {key : String} (plain : '=' ∉ key.toList) (text : String) :
    parseEntry (key ++ "=" ++ text) =
      if key = "" then .error .emptyKey else .ok (key, entryValue text) := by
  have cut : (key ++ "=" ++ text).toList = key.toList ++ '=' :: text.toList := by simp
  unfold parseEntry
  rw [cut, splitAtEquals_append plain]
  simp

theorem parseEntry_of_not_mem {raw : String} (plain : '=' ∉ raw.toList) :
    parseEntry raw = .error .noEqualsSign := by
  unfold parseEntry
  rw [splitAtEquals_of_not_mem plain]

/-- An argument has no equals sign, or it is a key and a text around the first
one. -/
theorem exists_key_of_mem {raw : String} (held : '=' ∈ raw.toList) :
    ∃ key text : String, '=' ∉ key.toList ∧ raw = key ++ "=" ++ text := by
  obtain ⟨key, text, cut, plain⟩ := List.eq_append_cons_of_mem held
  refine ⟨String.ofList key, String.ofList text, by simpa using plain, ?_⟩
  rw [← String.toList_inj]
  simp [cut]

/-- An argument is turned down for two reasons only. -/
theorem exists_parseEntry_eq_error_iff {raw : String} :
    (∃ why, parseEntry raw = .error why) ↔
      '=' ∉ raw.toList ∨ raw.toList.head? = some '=' := by
  by_cases held : '=' ∈ raw.toList
  · obtain ⟨key, text, plain, rfl⟩ := exists_key_of_mem held
    rw [parseEntry_append plain]
    by_cases empty : key = ""
    · simp [empty]
    · have nonempty : key.toList ≠ [] := fun none => empty (String.toList_eq_nil_iff.mp none)
      obtain ⟨c, rest, letters⟩ := List.exists_cons_of_ne_nil nonempty
      have other : c ≠ '=' := ne_of_mem_of_not_mem (by simp [letters]) plain
      simp [empty, letters, other]
  · simp [parseEntry_of_not_mem held, held]

/-- The value of an entry with the text of a plain value. -/
theorem entryValue_compact {value : Json} (plain : value.Plain) (deep : value.depth ≤ 127) :
    entryValue value.compact = value.normal := by
  have fits : value.fits Json.depthLimit = true := Json.fits_of_plain value _ plain deep
  have read := Json.parse_write Json.Spacing.blank_compact fits 0
  unfold entryValue
  rw [Json.compact, read]

/-! ### Entries in a row -/

/-- Accepted arguments are kept in their order. -/
theorem foldlM_setOption {raws : List String} {entries : List (String × Json)}
    (accepted : raws.map parseEntry = entries.map .ok) (settled : Settled) :
    raws.foldlM (fun settled raw => settled.setOption .context raw) settled =
      .ok { settled with entries := settled.entries ++ entries } := by
  induction raws generalizing settled entries with
  | nil =>
      obtain rfl := List.map_eq_nil_iff.mp accepted.symm
      simp [pure, Except.pure]
  | cons raw raws ih =>
      obtain ⟨entry, others, rfl, first, rest⟩ := List.map_eq_cons_iff.mp accepted.symm
      have taken : settled.setOption .context raw =
          .ok { settled with entries := settled.entries ++ [entry] } := by
        simp [Settled.setOption, ← first, Except.mapError, pure, Except.pure, bind, Except.bind]
      rw [List.foldlM_cons, taken]
      refine (ih rest.symm _).trans ?_
      simp

theorem context_of_complete {settled : Settled} {action : Action} {supplied : Option String}
    {invocation : Invocation} (completed : settled.complete action supplied = .ok invocation) :
    invocation.context = .ofEntries settled.entries := by
  unfold Settled.complete at completed
  obtain ⟨factor, -, rest⟩ := bind_eq_ok_iff.mp completed
  split at rest
  · cases rest
  · cases rest
    rfl

/-- Context entries carry JSON values faithfully.  A key without an equals sign and
the text of a value give back the key and the value; the members of its objects
come in the order of their keys.  A text that is no JSON is carried as it is.
Only arguments without an equals sign, or with one at their front, are turned
down.  In the context that accepted arguments make up, each key has the value of
its last entry, and there is no other key. -/
theorem parseEntry_faithful :
    (∀ (key : String) (value : Json), key ≠ "" → '=' ∉ key.toList → value.Plain →
        value.depth ≤ 127 →
          ∃ read, parseEntry (key ++ "=" ++ value.compact) = .ok (key, read) ∧
            Json.Alike value read ∧ (value.Ordered → read = value)) ∧
      (∀ (key text : String) (fault : Json.Fault), key ≠ "" → '=' ∉ key.toList →
        Json.parse text = .error fault →
          parseEntry (key ++ "=" ++ text) = .ok (key, .str text)) ∧
      (∀ raw : String, (∃ why, parseEntry raw = .error why) ↔
        '=' ∉ raw.toList ∨ raw.toList.head? = some '=') ∧
      ∀ (raws : List String) (entries : List (String × Json)),
        raws.map parseEntry = entries.map .ok →
          (Context.ofEntries entries).KeepsLast entries ∧
            ∃ settled,
              raws.foldlM (fun settled raw => settled.setOption .context raw) Settled.start =
                  .ok settled ∧
                ∀ action supplied invocation, settled.complete action supplied = .ok invocation →
                  invocation.context = Context.ofEntries entries := by
  refine ⟨?_, ?_, fun _ => exists_parseEntry_eq_error_iff, ?_⟩
  · intro key value nonempty plain_key plain deep
    refine ⟨value.normal, ?_, Json.alike_normal value plain, Json.normal_of_ordered value⟩
    rw [parseEntry_append plain_key, if_neg nonempty, entryValue_compact plain deep]
  · intro key text fault nonempty plain_key unread
    rw [parseEntry_append plain_key, if_neg nonempty, entryValue, unread]
  · intro raws entries accepted
    refine ⟨Context.keepsLast_ofEntries entries, _, foldlM_setOption accepted _, ?_⟩
    intro action supplied invocation completed
    exact context_of_complete completed

/-- A value at the end of the range of integers, a text with equals signs and
quotes, and keys in descending order. -/
def unsorted : Json :=
  .obj [("b", .arr [.num (.int (-9223372036854775808)), .null]), ("a", .str "x=\"1\"")]

/-- It is carried with its members in order, an unclosed brace is carried as text,
and the second of two entries with one key counts. -/
theorem parseEntry_faithful_unsorted :
    "k" ≠ "" ∧ '=' ∉ "k".toList ∧ unsorted.Plain ∧ unsorted.depth ≤ 127 ∧
      (∃ read, parseEntry ("k" ++ "=" ++ unsorted.compact) = .ok ("k", read) ∧
        Json.Alike unsorted read) ∧
      Json.parse "\x7b" = .error (.ended .object) ∧
      parseEntry ("k" ++ "=" ++ "\x7b") = .ok ("k", .str "\x7b") ∧
      ["a=null", "b=x=y", "a=true"].map parseEntry =
        [("a", .null), ("b", .str "x=y"), ("a", .bool true)].map .ok ∧
      (Context.ofEntries [("a", .null), ("b", .str "x=y"), ("a", .bool true)]).get? "a" =
        some (.bool true) := by
  obtain ⟨carries, keeps, -, adds⟩ := parseEntry_faithful
  have key : "k" ≠ "" ∧ '=' ∉ "k".toList := by decide
  have plain : unsorted.Plain := by
    simp only [unsorted, Json.Plain, Json.PlainMembers, Json.PlainItems]
    decide
  have deep : unsorted.depth ≤ 127 := by decide
  have unread : Json.parse "\x7b" = .error (.ended .object) := rfl
  have accepted : ["a=null", "b=x=y", "a=true"].map parseEntry =
      [("a", .null), ("b", .str "x=y"), ("a", .bool true)].map .ok := rfl
  obtain ⟨read, taken, alike, -⟩ := carries "k" unsorted key.1 key.2 plain deep
  have last := (adds _ _ accepted).1.get "a" (.bool true)
  refine ⟨key.1, key.2, plain, deep, ⟨read, taken, alike⟩, unread,
    keeps "k" _ _ key.1 key.2 unread, accepted, last.mpr ?_⟩
  exact ⟨[("a", .null), ("b", .str "x=y")], [], rfl, by simp⟩

end Stepwise.CommandLine
