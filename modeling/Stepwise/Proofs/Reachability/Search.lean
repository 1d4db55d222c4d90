/-
Module: Stepwise.Proofs.Reachability.Search
Purpose: The invariant of the breadth-first search and what it leaves behind
  when the queue is empty.
Main exports: Reachability.Leads, Reachability.Searching, Reachability.Searching.step,
  Reachability.searching_explore, Reachability.mem_explore_of_mem_targets,
  Reachability.mem_explore_of_reaches
-/
import Mathlib.Data.Fintype.Card
import Mathlib.Logic.Relation
import Stepwise.Reachability

namespace Stepwise.Reachability

/-!
Finished and queued indices together are the indices found so far.  No index
is found twice, and whatever a finished index leads to has been found.  Since
there are only `n` indices, `n` rounds empty the queue, and then every index
found is finished: the result is closed under the targets.
-/

variable {n : Nat} {targets : Fin n → List (Fin n)}

/-- The second index is a target of the first. -/
def Leads (targets : Fin n → List (Fin n)) (source target : Fin n) : Prop :=
  target ∈ targets source

theorem mem_fresh {known found : List (Fin n)} {index : Fin n} :
    index ∈ fresh known found ↔ index ∈ found ∧ index ∉ known := by
  induction found generalizing known with
  | nil => simp [fresh]
  | cons target rest ih =>
      by_cases seen : target ∈ known
      · simp only [fresh, seen, if_true, ih, List.mem_cons]
        constructor
        · exact fun ⟨member, new⟩ => ⟨Or.inr member, new⟩
        · rintro ⟨rfl | member, new⟩
          · exact absurd seen new
          · exact ⟨member, new⟩
      · simp only [fresh, seen, if_false, ih, List.mem_cons]
        constructor
        · rintro (rfl | ⟨member, new⟩)
          · exact ⟨Or.inl rfl, seen⟩
          · exact ⟨Or.inr member, fun old => new (Or.inr old)⟩
        · rintro ⟨rfl | member, new⟩
          · exact Or.inl rfl
          · by_cases same : index = target
            · exact Or.inl same
            · exact Or.inr ⟨member, fun old => old.elim same new⟩

theorem nodup_fresh (known found : List (Fin n)) : (fresh known found).Nodup := by
  induction found generalizing known with
  | nil => exact List.nodup_nil
  | cons target rest ih =>
      unfold fresh
      split
      · exact ih known
      · refine List.nodup_cons.mpr ⟨?_, ih (target :: known)⟩
        intro again
        exact (mem_fresh.mp again).2 (List.mem_cons_self ..)

/-- The state of a search: what is found is found once, and what a finished
index leads to is found. -/
structure Searching (targets : Fin n → List (Fin n)) (finished queue : List (Fin n)) :
    Prop where
  nodup : (finished ++ queue).Nodup
  closed : ∀ index ∈ finished, ∀ target ∈ targets index, target ∈ finished ++ queue

theorem Searching.start (entry : Fin n) : Searching targets [] [entry] :=
  { nodup := List.nodup_singleton entry
    closed := by simp }

/-- Finishing an index finds its targets and loses nothing. -/
theorem mem_found_step {finished queue : List (Fin n)} {index other : Fin n} :
    other ∈ (finished ++ [index]) ++
        (queue ++ fresh (finished ++ index :: queue) (targets index)) ↔
      other ∈ finished ++ index :: queue ∨ other ∈ targets index := by
  simp only [List.mem_append, List.mem_cons, mem_fresh]
  tauto

/-- One round of the search. -/
theorem Searching.step {finished queue : List (Fin n)} {index : Fin n}
    (searching : Searching targets finished (index :: queue)) :
    Searching targets (finished ++ [index])
      (queue ++ fresh (finished ++ index :: queue) (targets index)) := by
  refine ⟨?_, ?_⟩
  -- Together the two parts are what was found before and the fresh targets.
  · have regroup : (finished ++ [index]) ++
        (queue ++ fresh (finished ++ index :: queue) (targets index)) =
          (finished ++ index :: queue) ++
            fresh (finished ++ index :: queue) (targets index) := by simp
    rw [regroup]
    refine List.nodup_append.mpr ⟨searching.nodup, nodup_fresh _ _, ?_⟩
    rintro old isOld new isNew rfl
    exact (mem_fresh.mp isNew).2 isOld
  · intro done isDone target leads
    rw [mem_found_step]
    rcases List.mem_append.mp isDone with earlier | now
    · exact Or.inl (searching.closed done earlier target leads)
    · rw [List.mem_singleton] at now
      exact Or.inr (now ▸ leads)

/-- While an index is waiting, not all indices are finished. -/
theorem Searching.length_lt {finished queue : List (Fin n)} {index : Fin n}
    (searching : Searching targets finished (index :: queue)) : finished.length < n := by
  have bound := searching.nodup.length_le_card
  rw [Fintype.card_fin, List.length_append, List.length_cons] at bound
  omega

/-- A search with enough rounds finishes everything it finds.  The induction
is on the rounds that are left; each finishes one index, so with none left all
`n` indices are finished and the queue has to be empty. -/
theorem searching_explore {rounds : Nat} {finished queue : List (Fin n)}
    (searching : Searching targets finished queue) (enough : n ≤ rounds + finished.length) :
    Searching targets (explore targets rounds finished queue) [] ∧
      ∀ index ∈ finished ++ queue, index ∈ explore targets rounds finished queue := by
  induction rounds generalizing finished queue with
  | zero =>
      cases queue with
      | nil => exact ⟨by simpa [explore] using searching, by simp [explore]⟩
      | cons index queue =>
          have waiting := searching.length_lt
          omega
  | succ rounds ih =>
      cases queue with
      | nil => exact ⟨by simpa [explore] using searching, by simp [explore]⟩
      | cons index queue =>
          have count : n ≤ rounds + (finished ++ [index]).length := by
            rw [List.length_append, List.length_singleton]
            omega
          obtain ⟨complete, keeps⟩ := ih searching.step count
          exact ⟨complete, fun other found => keeps other (mem_found_step.mpr (Or.inl found))⟩

/-- Targets of indices in the result are in the result. -/
theorem mem_explore_of_mem_targets {entry index target : Fin n} (leads : target ∈ targets index)
    (listed : index ∈ explore targets n [] [entry]) : target ∈ explore targets n [] [entry] := by
  have complete :=
    (searching_explore (.start entry : Searching targets [] [entry]) (Nat.le_add_right n _)).1
  have found := complete.closed index listed target leads
  rwa [List.append_nil] at found

/-- Whatever can be reached from the entry is in the result. -/
theorem mem_explore_of_reaches {entry index : Fin n}
    (reaches : Relation.ReflTransGen (fun source target => target ∈ targets source) entry index) :
    index ∈ explore targets n [] [entry] := by
  have keeps :=
    (searching_explore (.start entry : Searching targets [] [entry]) (Nat.le_add_right n _)).2
  induction reaches with
  | refl => exact keeps entry (by simp)
  | tail _earlier leads ih => exact mem_explore_of_mem_targets leads ih

end Stepwise.Reachability
