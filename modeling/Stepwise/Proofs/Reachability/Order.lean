/-
Module: Stepwise.Proofs.Reachability.Order
Purpose: The order in which the search lists indices, said without the search.
Main exports: Reachability.discovery, Reachability.Discovering, Reachability.Discovering.step,
  Reachability.BreadthFirst, Reachability.breadthFirst_explore,
  Reachability.BreadthFirst.exists_source_in_front, Reachability.BreadthFirst.unique
-/
import Stepwise.Proofs.Reachability.Exactness

namespace Stepwise

/-!
An order of indices assigns to each of them a discovery: which position of the
order is the first to lead there, and at which place among its targets.  The
search lists indices by increasing discovery.  What it has finished decides the
discoveries of everything found, since whatever a finished index leads to has
been found; so a round discovers at one new position, behind all earlier ones,
and at the places in which the new targets stand.

Nothing but the search order has increasing discoveries.  Two such orders that
part somewhere would each put first what the other puts later, although both
discover the two indices in the part that they share.
-/

/-- Two different arrangements of the same elements part at some place, and each
of them has behind that place what the other has there. -/
theorem exists_parting_of_perm {α : Type} {list other : List α} (same : list.Perm other)
    (different : list ≠ other) :
    ∃ front element element' behind behind', list = front ++ element :: behind ∧
      other = front ++ element' :: behind' ∧ element ≠ element' ∧
      element' ∈ behind ∧ element ∈ behind' := by
  induction list generalizing other with
  | nil => exact absurd (List.nil_perm.mp same).symm different
  | cons element list ih =>
      cases other with
      | nil => exact absurd (List.perm_nil.mp same) different
      | cons element' other =>
          by_cases first : element = element'
          · subst first
            have later : list ≠ other := fun equal => different (equal ▸ rfl)
            obtain ⟨front, one, another, behind, behind', rfl, rfl, parted⟩ :=
              ih same.cons_inv later
            exact ⟨element :: front, one, another, behind, behind', rfl, rfl, parted⟩
          · have here : element' ∈ element :: list := same.mem_iff.mpr List.mem_cons_self
            have there : element ∈ element' :: other := same.mem_iff.mp List.mem_cons_self
            exact ⟨[], element, element', list, other, rfl, rfl, first,
              (List.mem_cons.mp here).resolve_left (Ne.symm first),
              (List.mem_cons.mp there).resolve_left first⟩

namespace Reachability

variable {n : Nat} {targets : Fin n → List (Fin n)} {entry index : Fin n}

/-! ### Discoveries -/

/-- The first position in an order whose index leads to the given one. -/
def position (targets : Fin n → List (Fin n)) (order : List (Fin n)) (index : Fin n) : Nat :=
  order.findIdx fun source => (targets source).contains index

/-- Where an order discovers an index: the first position whose index leads to
it, and its first place among the targets there. -/
def discovery (targets : Fin n → List (Fin n)) (order : List (Fin n)) (index : Fin n) :
    Nat × Nat :=
  (position targets order index,
    (order[position targets order index]?.map fun source => (targets source).idxOf index).getD 0)

/-- The earlier discovery is made at an earlier position, or at the same
position and an earlier place. -/
abbrev Earlier (first second : Nat × Nat) : Prop :=
  Prod.Lex (· < ·) (· < ·) first second

theorem fst_le_of_earlier {first second : Nat × Nat} (earlier : Earlier first second) :
    first.1 ≤ second.1 := by
  have forth := Prod.lex_iff.mp earlier
  omega

theorem not_earlier_of_earlier {first second : Nat × Nat} (earlier : Earlier first second) :
    ¬ Earlier second first := by
  intro later
  have forth := Prod.lex_iff.mp earlier
  have back := Prod.lex_iff.mp later
  omega

theorem position_lt_length {order : List (Fin n)} :
    position targets order index < order.length ↔
      ∃ source ∈ order, Leads targets source index := by
  simp [position, Leads, List.findIdx_lt_length]

theorem position_append {front : List (Fin n)}
    (found : ∃ source ∈ front, Leads targets source index) (behind : List (Fin n)) :
    position targets (front ++ behind) index = position targets front index := by
  have inside : position targets front index < front.length := position_lt_length.mpr found
  unfold position at inside ⊢
  rw [List.findIdx_append, if_pos inside]

theorem length_le_position {front : List (Fin n)}
    (unfound : ∀ source ∈ front, ¬ Leads targets source index) (behind : List (Fin n)) :
    front.length ≤ position targets (front ++ behind) index := by
  have outside : ¬ position targets front index < front.length := by
    intro inside
    obtain ⟨source, member, leads⟩ := position_lt_length.mp inside
    exact unfound source member leads
  unfold position at outside ⊢
  rw [List.findIdx_append, if_neg outside]
  exact Nat.le_add_left _ _

/-- An index that is discovered in the front of an order is discovered there. -/
theorem discovery_append {front : List (Fin n)}
    (found : ∃ source ∈ front, Leads targets source index) (behind : List (Fin n)) :
    discovery targets (front ++ behind) index = discovery targets front index := by
  unfold discovery
  rw [position_append found, List.getElem?_append_left (position_lt_length.mpr found)]

/-- An index to which only the last one leads is discovered there. -/
theorem discovery_concat {front : List (Fin n)} {last : Fin n}
    (unfound : ∀ source ∈ front, ¬ Leads targets source index)
    (leads : Leads targets last index) :
    discovery targets (front ++ [last]) index = (front.length, (targets last).idxOf index) := by
  have inside : position targets (front ++ [last]) index < (front ++ [last]).length :=
    position_lt_length.mpr ⟨last, by simp, leads⟩
  rw [List.length_append, List.length_singleton] at inside
  have atEnd : position targets (front ++ [last]) index = front.length :=
    Nat.le_antisymm (Nat.le_of_lt_succ inside) (length_le_position unfound [last])
  unfold discovery
  rw [atEnd, List.getElem?_concat_length]
  rfl

/-- New targets are found in the order in which they stand. -/
theorem pairwise_fresh (known found : List (Fin n)) :
    (fresh known found).Pairwise fun first second => found.idxOf first < found.idxOf second := by
  induction found generalizing known with
  | nil => exact List.Pairwise.nil
  | cons target rest ih =>
      -- Behind the first target, places count from one and the target is known.
      have shift {known : List (Fin n)} (seen : target ∈ known) :
          (fresh known rest).Pairwise fun first second =>
            (target :: rest).idxOf first < (target :: rest).idxOf second := by
        refine (ih known).imp_of_mem ?_
        intro first second isFirst isSecond before
        have other {index : Fin n} (new : index ∈ fresh known rest) : target ≠ index := by
          rintro rfl
          exact (mem_fresh.mp new).2 seen
        rw [List.idxOf_cons_ne _ (other isFirst), List.idxOf_cons_ne _ (other isSecond)]
        exact Nat.succ_lt_succ before
      unfold fresh
      split
      next seen => exact shift seen
      next new =>
        refine List.pairwise_cons.mpr ⟨?_, shift List.mem_cons_self⟩
        intro second later
        have other : target ≠ second := by
          rintro rfl
          exact (mem_fresh.mp later).2 List.mem_cons_self
        rw [List.idxOf_cons_self, List.idxOf_cons_ne _ other]
        exact Nat.succ_pos _

/-! ### The order of the search -/

/-- The state of a search that discovers in order: behind the entry, everything
found is discovered by something finished, and by increasing discovery. -/
structure Discovering (targets : Fin n → List (Fin n)) (entry : Fin n)
    (finished queue : List (Fin n)) : Prop where
  searching : Searching targets finished queue
  first : (finished ++ queue).head? = some entry
  sources : ∀ index ∈ (finished ++ queue).tail, ∃ source ∈ finished, Leads targets source index
  increasing : (finished ++ queue).tail.Pairwise fun first second =>
    Earlier (discovery targets finished first) (discovery targets finished second)

theorem Discovering.start (entry : Fin n) : Discovering targets entry [] [entry] :=
  { searching := .start entry
    first := rfl
    sources := by simp
    increasing := List.Pairwise.nil }

/-- One round of the search discovers everything new at the position of the
index that it finishes. -/
theorem Discovering.step {finished queue : List (Fin n)} {index : Fin n}
    (discovering : Discovering targets entry finished (index :: queue)) :
    Discovering targets entry (finished ++ [index])
      (queue ++ fresh (finished ++ index :: queue) (targets index)) := by
  obtain ⟨searching, first, sources, increasing⟩ := discovering
  have regroup : (finished ++ [index]) ++
      (queue ++ fresh (finished ++ index :: queue) (targets index)) =
        (finished ++ index :: queue) ++
          fresh (finished ++ index :: queue) (targets index) := by simp
  have begun : finished ++ index :: queue ≠ [] := by simp
  have leads {new : Fin n}
      (isNew : new ∈ fresh (finished ++ index :: queue) (targets index)) :
      Leads targets index new := (mem_fresh.mp isNew).1
  have found {new : Fin n} (isNew : new ∈ fresh (finished ++ index :: queue) (targets index)) :
      discovery targets (finished ++ [index]) new =
        (finished.length, (targets index).idxOf new) := by
    refine discovery_concat ?_ (leads isNew)
    intro source done reached
    exact (mem_fresh.mp isNew).2 (searching.closed source done new reached)
  have kept {old : Fin n} (isOld : old ∈ (finished ++ index :: queue).tail) :
      discovery targets (finished ++ [index]) old = discovery targets finished old :=
    discovery_append (sources old isOld) [index]
  refine ⟨searching.step, ?_, ?_, ?_⟩
  · rw [regroup, List.head?_append_of_ne_nil _ begun]
    exact first
  · rw [regroup, List.tail_append_of_ne_nil begun]
    intro other member
    rcases List.mem_append.mp member with isOld | isNew
    · obtain ⟨source, done, reached⟩ := sources other isOld
      exact ⟨source, List.mem_append_left _ done, reached⟩
    · exact ⟨index, List.mem_append_right _ List.mem_cons_self, leads isNew⟩
  · rw [regroup, List.tail_append_of_ne_nil begun]
    refine List.pairwise_append.mpr ⟨?_, ?_, ?_⟩
    · refine increasing.imp_of_mem ?_
      intro one other isOne isOther before
      rwa [kept isOne, kept isOther]
    · refine (pairwise_fresh _ _).imp_of_mem ?_
      intro one other isOne isOther before
      rw [found isOne, found isOther]
      exact Prod.Lex.right _ before
    · intro old isOld new isNew
      rw [kept isOld, found isNew]
      exact Prod.lex_iff.mpr (Or.inl (position_lt_length.mpr (sources old isOld)))

/-- Everything that the entry leads to, each index once, the entry first and
the others by increasing discovery. -/
structure BreadthFirst (targets : Fin n → List (Fin n)) (entry : Fin n)
    (order : List (Fin n)) : Prop where
  first : order.head? = some entry
  nodup : order.Nodup
  complete : ∀ index, index ∈ order ↔ Relation.ReflTransGen (Leads targets) entry index
  increasing : order.tail.Pairwise fun first second =>
    Earlier (discovery targets order first) (discovery targets order second)

/-- The search lists indices breadth first. -/
theorem breadthFirst_explore (targets : Fin n → List (Fin n)) (entry : Fin n) :
    BreadthFirst targets entry (explore targets n [] [entry]) := by
  have discovering := (drains_entry targets entry).keeps (Discovering targets entry)
    (fun before => before.step) (.start entry)
  obtain ⟨searching, first, -, increasing⟩ := discovering
  rw [List.append_nil] at first increasing
  exact
    { first := first
      nodup := nodup_explore targets entry
      complete := fun _ => mem_explore_iff_reaches
      increasing := increasing }

/-! ### What increasing discoveries decide -/

variable {order front behind : List (Fin n)}

/-- Behind the entry, discoveries increase from any index on. -/
theorem BreadthFirst.earlier_of_mem (breadthFirst : BreadthFirst targets entry order)
    (cut : order = front ++ index :: behind) (begun : entry ∈ front) {later : Fin n}
    (isLater : later ∈ behind) :
    Earlier (discovery targets order index) (discovery targets order later) := by
  have increasing := breadthFirst.increasing
  generalize discovery targets order = discovered at increasing ⊢
  rw [cut, List.tail_append_of_ne_nil (List.ne_nil_of_mem begun)] at increasing
  exact List.rel_of_pairwise_cons (List.pairwise_append.mp increasing).2.1 isLater

/-- Something in front of an index leads to it.  Otherwise nothing there would
lead to what is behind the index either, and the front would hold everything
that the entry leads to. -/
theorem BreadthFirst.exists_source_in_front (breadthFirst : BreadthFirst targets entry order)
    (cut : order = front ++ index :: behind) (begun : entry ∈ front) :
    ∃ source ∈ front, Leads targets source index := by
  by_contra none
  have unfound : ∀ source ∈ front, ¬ Leads targets source index := by
    intro source member leads
    exact none ⟨source, member, leads⟩
  have unfoundBehind : ∀ later ∈ behind, ∀ source ∈ front, ¬ Leads targets source later := by
    intro later isLater source member leads
    have outside : front.length ≤ position targets order index :=
      cut ▸ length_le_position unfound (index :: behind)
    have increase : position targets order index ≤ position targets order later :=
      fst_le_of_earlier (breadthFirst.earlier_of_mem cut begun isLater)
    rw [cut, position_append ⟨source, member, leads⟩, ← cut] at increase
    have inside : position targets front later < front.length :=
      position_lt_length.mpr ⟨source, member, leads⟩
    omega
  have closed : ∀ other, Relation.ReflTransGen (Leads targets) entry other → other ∈ front := by
    intro other reaches
    induction reaches with
    | refl => exact begun
    | @tail source target reaches leads ih =>
        have listed : target ∈ order := (breadthFirst.complete target).mpr (reaches.tail leads)
        rw [cut] at listed
        rcases List.mem_append.mp listed with inFront | elsewhere
        · exact inFront
        · rcases List.mem_cons.mp elsewhere with rfl | isLater
          · exact absurd leads (unfound source ih)
          · exact absurd leads (unfoundBehind target isLater source ih)
  have listed : index ∈ order := cut ▸ List.mem_append_right front List.mem_cons_self
  have again : index ∈ front := closed index ((breadthFirst.complete index).mp listed)
  have nodup := breadthFirst.nodup
  rw [cut] at nodup
  exact List.disjoint_of_nodup_append nodup again List.mem_cons_self

/-- The entry is in front of any place at which two orders part. -/
theorem BreadthFirst.entry_mem {order other behind' : List (Fin n)} {index' : Fin n}
    (breadthFirst : BreadthFirst targets entry order)
    (breadthFirst' : BreadthFirst targets entry other) (cut : order = front ++ index :: behind)
    (cut' : other = front ++ index' :: behind') (apart : index ≠ index') : entry ∈ front := by
  have first := breadthFirst.first
  have first' := breadthFirst'.first
  rw [cut] at first
  rw [cut'] at first'
  cases front with
  | nil => exact absurd (Option.some.inj (first.trans first'.symm)) apart
  | cons one front =>
      obtain rfl : one = entry := Option.some.inj first
      exact List.mem_cons_self

/-- There is one order at most that lists breadth first what the entry leads to. -/
theorem BreadthFirst.unique {other : List (Fin n)} (breadthFirst : BreadthFirst targets entry order)
    (breadthFirst' : BreadthFirst targets entry other) : order = other := by
  by_contra different
  have same : order.Perm other := by
    refine (List.perm_ext_iff_of_nodup breadthFirst.nodup breadthFirst'.nodup).mpr ?_
    intro index
    rw [breadthFirst.complete, breadthFirst'.complete]
  obtain ⟨front, index, index', behind, behind', cut, cut', apart, isLater, isLater'⟩ :=
    exists_parting_of_perm same different
  have begun := breadthFirst.entry_mem breadthFirst' cut cut' apart
  -- Both indices are discovered in the front, which the two orders share.
  have found := breadthFirst.exists_source_in_front cut begun
  have found' := breadthFirst'.exists_source_in_front cut' begun
  have forth := breadthFirst.earlier_of_mem cut begun isLater
  have back := breadthFirst'.earlier_of_mem cut' begun isLater'
  rw [cut, discovery_append found, discovery_append found'] at forth
  rw [cut', discovery_append found, discovery_append found'] at back
  exact not_earlier_of_earlier forth back

end Reachability

end Stepwise
