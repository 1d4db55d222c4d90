/-
Module: Stepwise.Proofs.Reachability.Unbranched
Purpose: Breadth-first search where nothing branches, which lists one route.
Main exports: Reachability.isChain_explore, Reachability.prefix_or_prefix_explore,
  Reachability.prefix_explore_of_new, Reachability.explore_eq_of_deadEnd, Workflow.Unbranched,
  Workflow.exists_explore_of_validate
-/
import Mathlib.Data.List.Chain
import Mathlib.Logic.Relator
import Stepwise.Proofs.Reachability.Acceptance

namespace Stepwise

/-!
Where every index has one target at most, the queue never holds more than one
index, and the search goes along the only route from the entry until the route
ends or comes back.  Any other route from the entry takes the same turns, so one
of the two begins with the other.  Which one does, shows at the end of the
route: the search lists no index twice and never stops in front of a target that
it has not found.
-/

/-- Where one index can only be followed by one other, two chains from the same
start do not part. -/
theorem prefix_or_prefix_of_isChain {α : Type} {relation : α → α → Prop}
    (functional : Relator.RightUnique relation) {start : α} {route other : List α}
    (linked : (start :: route).IsChain relation) (linked' : (start :: other).IsChain relation) :
    start :: route <+: start :: other ∨ start :: other <+: start :: route := by
  induction route generalizing start other with
  | nil => exact Or.inl (List.prefix_append [start] other)
  | cons next route ih =>
      cases other with
      | nil => exact Or.inr (List.prefix_append [start] (next :: route))
      | cons next' other =>
          obtain ⟨first, further⟩ := List.isChain_cons_cons.mp linked
          obtain ⟨first', further'⟩ := List.isChain_cons_cons.mp linked'
          obtain rfl := functional first first'
          rcases ih further further' with shorter | longer
          · exact Or.inl ((List.prefix_cons_inj start).mpr shorter)
          · exact Or.inr ((List.prefix_cons_inj start).mpr longer)

/-- A chain ends where nothing can follow. -/
theorem eq_nil_of_isChain_of_deadEnd {α : Type} {relation : α → α → Prop} {behind ahead : List α}
    {last : α} (linked : (behind ++ last :: ahead).IsChain relation)
    (deadEnd : ∀ next, ¬ relation last next) : ahead = [] := by
  cases ahead with
  | nil => rfl
  | cons next ahead =>
      have onward := List.isChain_cons_cons.mp linked.right_of_append
      exact absurd onward.1 (deadEnd next)

namespace Reachability

variable {n : Nat} {targets : Fin n → List (Fin n)} {entry : Fin n}

theorem leads_rightUnique (unbranched : ∀ index, (targets index).length ≤ 1) :
    Relator.RightUnique (Leads targets) := by
  intro source target other leads leads'
  unfold Leads at leads leads'
  match found : targets source, unbranched source with
  | [], _ => simp [found] at leads
  | [only], _ =>
      rw [found, List.mem_singleton] at leads leads'
      exact leads.trans leads'.symm

/-- The search keeps what it has finished and found. -/
theorem prefix_explore (rounds : Nat) (finished queue : List (Fin n)) :
    finished <+: explore targets rounds finished queue := by
  induction rounds generalizing finished queue with
  | zero => cases queue <;> exact List.prefix_refl _
  | succ rounds ih =>
      cases queue with
      | nil => exact List.prefix_refl _
      | cons index queue => exact (List.prefix_append _ _).trans (ih _ _)

theorem exists_explore_eq_cons (targets : Fin n → List (Fin n)) (entry : Fin n) :
    ∃ route, explore targets n [] [entry] = entry :: route := by
  obtain ⟨rounds, rfl⟩ := Nat.exists_eq_succ_of_ne_zero (Nat.ne_zero_of_lt entry.isLt)
  obtain ⟨route, found⟩ :
      [entry] <+: explore targets rounds [entry] (fresh [entry] (targets entry)) :=
    prefix_explore rounds _ _
  exact ⟨route, found.symm⟩

theorem length_fresh_le (known found : List (Fin n)) :
    (fresh known found).length ≤ found.length := by
  induction found generalizing known with
  | nil => exact Nat.le_refl _
  | cons target rest ih =>
      unfold fresh
      split
      · exact (ih known).trans (Nat.le_succ _)
      · exact Nat.succ_le_succ (ih (target :: known))

/-- Without branches the search finishes indices along a chain.  The invariant
is that the finished indices and the one in the queue are such a chain. -/
theorem isChain_explore (unbranched : ∀ index, (targets index).length ≤ 1) {rounds : Nat}
    {finished queue : List (Fin n)} (short : queue.length ≤ 1)
    (linked : (finished ++ queue).IsChain (Leads targets)) :
    (explore targets rounds finished queue).IsChain (Leads targets) := by
  induction rounds generalizing finished queue with
  | zero => cases queue <;> exact linked.left_of_append
  | succ rounds ih =>
      match queue with
      | [] => exact linked.left_of_append
      | [index] =>
          have further := (length_fresh_le (finished ++ [index]) (targets index)).trans
            (unbranched index)
          refine ih further ?_
          match found : fresh (finished ++ [index]) (targets index), further with
          | [], _ => simpa using linked
          | [target], _ =>
              have leads : target ∈ targets index :=
                (mem_fresh.mp (found ▸ List.mem_singleton_self target)).1
              rw [List.nil_append, List.append_assoc]
              exact List.isChain_split.mpr ⟨linked, List.isChain_pair.mpr leads⟩

/-- The search lists every index of a chain from the entry. -/
theorem subset_explore {route : List (Fin n)}
    (linked : (entry :: route).IsChain (Leads targets)) :
    entry :: route ⊆ explore targets n [] [entry] := by
  intro index member
  refine linked.induction (· ∈ explore targets n [] [entry]) _ ?_ ?_ index member
  · exact fun _ _ leads listed => mem_explore_of_mem_targets leads listed
  · intro _
    exact mem_explore_of_reaches .refl

variable {route behind : List (Fin n)} {last : Fin n}

/-- Of the search and a chain from the entry, one begins with the other. -/
theorem prefix_or_prefix_explore (unbranched : ∀ index, (targets index).length ≤ 1)
    (linked : (entry :: route).IsChain (Leads targets)) :
    entry :: route <+: explore targets n [] [entry] ∨
      explore targets n [] [entry] <+: entry :: route := by
  have listed : (explore targets n [] [entry]).IsChain (Leads targets) :=
    isChain_explore unbranched (Nat.le_refl 1) (List.isChain_singleton entry)
  obtain ⟨others, found⟩ := exists_explore_eq_cons targets entry
  rw [found] at listed ⊢
  exact prefix_or_prefix_of_isChain (leads_rightUnique unbranched) linked listed

/-- A chain from the entry whose last index is new at its end is a beginning of
the search: going further than the search would mean to come back. -/
theorem prefix_explore_of_new (unbranched : ∀ index, (targets index).length ≤ 1)
    (linked : (entry :: route).IsChain (Leads targets)) (cut : entry :: route = behind ++ [last])
    (new : last ∉ behind) : entry :: route <+: explore targets n [] [entry] := by
  rcases prefix_or_prefix_explore unbranched linked with shorter | longer
  · exact shorter
  have listed : last ∈ explore targets n [] [entry] :=
    subset_explore linked (cut ▸ List.mem_append_right behind (List.mem_singleton_self last))
  rw [cut] at longer ⊢
  rcases List.prefix_concat_iff.mp longer with same | inside
  · exact same ▸ List.prefix_refl _
  · exact absurd (inside.subset listed) new

/-- A chain from the entry to a dead end is all that the search lists. -/
theorem explore_eq_of_deadEnd (unbranched : ∀ index, (targets index).length ≤ 1)
    (linked : (entry :: route).IsChain (Leads targets)) (cut : entry :: route = behind ++ [last])
    (deadEnd : targets last = []) : explore targets n [] [entry] = entry :: route := by
  have stops (next : Fin n) : ¬ Leads targets last next := by
    simp [Leads, deadEnd]
  have onChain : last ∈ entry :: route :=
    cut ▸ List.mem_append_right behind (List.mem_singleton_self last)
  -- Neither list can go on behind the dead end, and both contain it.
  obtain ⟨before, after, split⟩ := List.append_of_mem (subset_explore linked onChain)
  have listed : (explore targets n [] [entry]).IsChain (Leads targets) :=
    isChain_explore unbranched (Nat.le_refl 1) (List.isChain_singleton entry)
  obtain rfl := eq_nil_of_isChain_of_deadEnd (split ▸ listed) stops
  rcases prefix_or_prefix_explore unbranched linked with ⟨more, whole⟩ | ⟨more, whole⟩
  · rw [cut, List.append_assoc] at whole
    obtain rfl := eq_nil_of_isChain_of_deadEnd (whole ▸ listed) stops
    rw [← whole, cut]
    rfl
  · rw [split, List.append_assoc] at whole
    obtain rfl := eq_nil_of_isChain_of_deadEnd (whole ▸ linked) stops
    rw [split, ← whole]
    rfl

end Reachability

/-- No step has more than one connection. -/
def Workflow.Unbranched (w : Workflow) : Prop :=
  ∀ index : Fin w.length, (w.get index).connections.length ≤ 1

instance (w : Workflow) : Decidable w.Unbranched :=
  inferInstanceAs (Decidable (∀ index : Fin w.length, (w.get index).connections.length ≤ 1))

namespace Workflow

variable {w : Workflow} {names : List String}

/-- The list of an accepted workflow with steps names what a search over its
connections finds. -/
theorem exists_explore_of_validate (valid : w.validate = .ok names) (nonempty : 0 < w.length) :
    ∃ targets : Fin w.length → List (Fin w.length),
      (∀ index, (targets index).length = (w.get index).connections.length) ∧
        (∀ index next, Reachability.Leads targets index next ↔ w.Connects index next) ∧
        names = (Reachability.explore targets w.length [] [⟨0, nonempty⟩]).map
          fun index => (w.get index).name := by
  obtain ⟨named, targets, resolved, rfl⟩ := validate_eq_ok_iff.mp valid
  refine ⟨fun index => targets.getD index.val [], ?_, ?_, ?_⟩
  · intro index
    have rows := congrArg List.length (resolve_connections resolved index)
    rw [List.length_map, List.length_map] at rows
    exact rows.symm
  · exact fun index next => mem_targets_iff_connects resolved
  · rw [reachable, dif_pos nonempty]
    exact List.map_congr_left fun index _ => (named index).symm

end Workflow

end Stepwise
