/-
Module: Stepwise.Proofs.Reachability.Distance
Purpose: The list of reachable names in true breadth-first order, by distances
  and by the connections through which its steps are discovered.
Main exports: Reachability.Within, Reachability.distance, Reachability.BreadthFirst.distance_le,
  Workflow.distance, Workflow.discovery, Workflow.breadthFirst_of_discoveries,
  Workflow.validate_breadthFirst
-/
import Mathlib.Data.ENat.Lattice
import Stepwise.Proofs.Reachability.Order

namespace Stepwise

/-!
An order with increasing discoveries also has increasing distances.  Whatever
is near is discovered through something nearer, so it is discovered at an
earlier position than what is far, whose discoverer cannot be as near; the
comparison passes from the discoverers to what they discover.
-/

namespace Reachability

/-- At most `steps` edges lead from the entry to an element. -/
inductive Within {α : Type} (leads : α → α → Prop) (entry : α) : Nat → α → Prop where
  | here {steps : Nat} : Within leads entry steps entry
  | onward {steps : Nat} {source target : α} (near : Within leads entry steps source)
      (edge : leads source target) : Within leads entry (steps + 1) target

/-- The least number of edges that lead from the entry to an element; infinite
if none do. -/
noncomputable def distance {α : Type} (leads : α → α → Prop) (entry element : α) : ℕ∞ :=
  ⨅ (steps : Nat) (_ : Within leads entry steps element), (steps : ℕ∞)

theorem Within.reaches {α : Type} {leads : α → α → Prop} {entry element : α} {steps : Nat}
    (near : Within leads entry steps element) : Relation.ReflTransGen leads entry element := by
  induction near with
  | here => exact .refl
  | onward _near edge ih => exact ih.tail edge

variable {n : Nat} {targets : Fin n → List (Fin n)} {entry index : Fin n} {order : List (Fin n)}

theorem leads_position (inside : position targets order index < order.length) :
    Leads targets order[position targets order index] index := by
  apply List.contains_iff_mem.mp
  exact List.findIdx_getElem (p := fun source => (targets source).contains index) (w := inside)

theorem position_le {place : Nat} (inside : place < order.length)
    (leads : Leads targets order[place] index) : position targets order index ≤ place := by
  by_contra beyond
  have unfound := List.not_of_lt_findIdx (Nat.lt_of_not_le beyond)
  simp [show index ∈ targets order[place] from leads] at unfound

theorem BreadthFirst.getElem_zero (breadthFirst : BreadthFirst targets entry order)
    (nonempty : 0 < order.length) : order[0] = entry := by
  have first := breadthFirst.first
  rw [List.head?_eq_getElem?, List.getElem?_eq_getElem nonempty] at first
  exact Option.some.inj first

/-- Any place behind the first one can be cut out of an order, and leaves the
entry in front. -/
theorem BreadthFirst.cut_at (breadthFirst : BreadthFirst targets entry order) {place : Nat}
    (behind : 0 < place) (inside : place < order.length) :
    order = order.take place ++ order[place] :: order.drop (place + 1) ∧
      entry ∈ order.take place := by
  constructor
  · rw [List.getElem_cons_drop, List.take_append_drop]
  · rw [← breadthFirst.getElem_zero (Nat.zero_lt_of_lt inside)]
    exact List.mem_take_iff_getElem.mpr ⟨0, lt_min behind (Nat.zero_lt_of_lt inside), rfl⟩

/-- What stands behind the entry is discovered in front of its own place. -/
theorem BreadthFirst.position_lt (breadthFirst : BreadthFirst targets entry order) {place : Nat}
    (behind : 0 < place) (inside : place < order.length) :
    position targets order order[place] < place := by
  obtain ⟨cut, begun⟩ := breadthFirst.cut_at behind inside
  have found := breadthFirst.exists_source_in_front cut begun
  have front := position_lt_length.mpr found
  rw [← position_append found (order[place] :: order.drop (place + 1)), ← cut] at front
  exact Nat.lt_of_lt_of_le front (List.length_take_le place order)

theorem BreadthFirst.position_le_position (breadthFirst : BreadthFirst targets entry order)
    {place place' : Nat} (behind : 0 < place) (before : place < place')
    (inside : place' < order.length) :
    position targets order order[place] ≤ position targets order order[place'] := by
  obtain ⟨cut, begun⟩ := breadthFirst.cut_at behind (before.trans inside)
  have isLater : order[place'] ∈ order.drop (place + 1) :=
    List.mem_drop_iff_getElem.mpr ⟨place' - (place + 1), by omega, by congr 1; omega⟩
  exact fst_le_of_earlier (breadthFirst.earlier_of_mem cut begun isLater)

/-- What is near comes in front of what is far.  The induction is on the edges
that lead to the near index; its discoverer is no later than the last but one
index on the way there. -/
theorem BreadthFirst.lt_of_within (breadthFirst : BreadthFirst targets entry order) {steps : Nat}
    {near : Fin n} (reached : Within (Leads targets) entry steps near) {place place' : Nat}
    (inside : place < order.length) (inside' : place' < order.length) (here : order[place] = near)
    (far : ¬ Within (Leads targets) entry steps order[place']) : place < place' := by
  have behind : 0 < place' := by
    apply Nat.pos_of_ne_zero
    rintro rfl
    rw [breadthFirst.getElem_zero inside'] at far
    exact far .here
  induction reached generalizing place place' with
  | here =>
      have first := breadthFirst.getElem_zero (Nat.zero_lt_of_lt inside)
      have same := (List.Nodup.getElem_inj_iff breadthFirst.nodup).mp (here.trans first.symm)
      exact same ▸ behind
  | @onward steps source target reached edge ih =>
      have listed : source ∈ order := (breadthFirst.complete source).mpr reached.reaches
      obtain ⟨middle, inside'', rfl⟩ := List.getElem_of_mem listed
      have discoverer := breadthFirst.position_lt behind inside'
      have leads := leads_position (discoverer.trans inside')
      have farther :
          ¬ Within (Leads targets) entry steps order[position targets order order[place']] := by
        intro nearby
        exact far (.onward nearby leads)
      have later : middle < position targets order order[place'] := by
        apply ih inside'' (discoverer.trans inside') rfl farther
        apply Nat.pos_of_ne_zero
        intro zero
        simp only [zero, breadthFirst.getElem_zero] at farther
        exact farther .here
      have earlier : position targets order order[place] ≤ middle :=
        position_le inside'' (here ▸ edge)
      by_contra notBefore
      rcases Nat.lt_or_eq_of_le (Nat.le_of_not_lt notBefore) with before | same
      · have ordered := breadthFirst.position_le_position behind before inside
        omega
      · subst same
        omega

/-- Distances do not decrease along a breadth-first order. -/
theorem BreadthFirst.distance_le (breadthFirst : BreadthFirst targets entry order) :
    order.Pairwise fun first second =>
      distance (Leads targets) entry first ≤ distance (Leads targets) entry second := by
  apply List.pairwise_iff_getElem.mpr
  intro place place' inside inside' before
  apply le_iInf₂
  intro steps reached
  apply iInf₂_le steps
  by_contra far
  exact absurd (breadthFirst.lt_of_within reached inside' inside rfl far) before.not_gt

end Reachability

namespace Workflow

variable {w : Workflow} {targets : List (List (Fin w.length))}

/-! ### Discoveries through connections -/

instance (w : Workflow) (index next : Fin w.length) : Decidable (w.Connects index next) :=
  inferInstanceAs (Decidable (∃ reference ∈ (w.get index).connections,
    w.locate reference = .ok next))

/-- The least number of connections that lead from the entry to `index`. -/
noncomputable def distance (w : Workflow) (index : Fin w.length) : ℕ∞ :=
  Reachability.distance w.Connects ⟨0, length_pos index⟩ index

/-- The position of the earliest entry of a list that has a connection to
`index`. -/
def parentPosition (w : Workflow) (order : List (Fin w.length)) (index : Fin w.length) : Nat :=
  order.findIdx fun parent => w.Connects parent index

/-- The place of the first connection of `parent` that leads to `index`. -/
def slot (w : Workflow) (parent index : Fin w.length) : Nat :=
  (w.get parent).connections.findIdx fun reference => w.locate reference = .ok index

/-- Through which connection a list discovers an index: the position of its
parent, and the slot in that parent. -/
def discovery (w : Workflow) (order : List (Fin w.length)) (index : Fin w.length) : Nat × Nat :=
  (w.parentPosition order index,
    (order[w.parentPosition order index]?.map fun parent => w.slot parent index).getD 0)

/-- A target stands where the first connection to it stands. -/
theorem slot_eq_idxOf (resolved : w.targets = .ok targets) (parent index : Fin w.length) :
    w.slot parent index = (targets.getD parent.val []).idxOf index := by
  have places := congrArg (fun row => row.findIdx fun found => found = .ok index)
    (resolve_connections resolved parent)
  simp only [List.findIdx_map, Function.comp_def, resolve_eq_ok_iff, Except.ok.injEq] at places
  rw [slot, places, List.idxOf]
  rfl

theorem discovery_eq (resolved : w.targets = .ok targets) (order : List (Fin w.length))
    (index : Fin w.length) :
    w.discovery order index =
      Reachability.discovery (fun source => targets.getD source.val []) order index := by
  have position : w.parentPosition order index =
      Reachability.position (fun source => targets.getD source.val []) order index := by
    simp only [parentPosition, Reachability.position, List.contains_eq_mem,
      mem_targets_iff_connects resolved]
  simp only [discovery, Reachability.discovery, position, slot_eq_idxOf resolved]

/-- The search over the targets lists indices breadth first. -/
theorem breadthFirst_reachable (targets : List (List (Fin w.length))) (nonempty : 0 < w.length) :
    Reachability.BreadthFirst (fun source => targets.getD source.val []) ⟨0, nonempty⟩
      (w.reachable targets) := by
  rw [reachable, dif_pos nonempty]
  exact Reachability.breadthFirst_explore _ _

/-- An arrangement of the listed indices that has the same first entry and
increasing discoveries lists them breadth first. -/
theorem breadthFirst_of_discoveries (resolved : w.targets = .ok targets) (nonempty : 0 < w.length)
    {other : List (Fin w.length)} (same : other.Perm (w.reachable targets))
    (first : other.head? = (w.reachable targets).head?)
    (increasing : other.tail.Pairwise fun first second =>
      Reachability.Earlier (w.discovery other first) (w.discovery other second)) :
    Reachability.BreadthFirst (fun source => targets.getD source.val []) ⟨0, nonempty⟩ other := by
  have listed := breadthFirst_reachable targets nonempty
  simp only [discovery_eq resolved] at increasing
  exact
    { first := first.trans listed.first
      nodup := same.nodup_iff.mpr listed.nodup
      complete := fun index => same.mem_iff.trans (listed.complete index)
      increasing := increasing }

/-- Distances do not decrease along what the search lists. -/
theorem distance_le_reachable (resolved : w.targets = .ok targets) (nonempty : 0 < w.length) :
    (w.reachable targets).Pairwise fun first second => w.distance first ≤ w.distance second := by
  have ordered := (breadthFirst_reachable targets nonempty).distance_le
  rwa [leads_eq_connects resolved] at ordered

/-- Validation lists names in true breadth-first order.  A list that is not
empty starts with the first step; distances from the entry do not decrease
along it; and every later entry is discovered by an entry in front of it, the
discoveries increasing along the list.  No other arrangement of the same
entries behind the same first one has increasing discoveries. -/
theorem validate_breadthFirst (w : Workflow) (names : List String)
    (valid : w.validate = .ok names) :
    ∃ order : List (Fin w.length),
      names = order.map (fun index => (w.get index).name) ∧
        (0 < w.length → names.head? = some "step_1") ∧
        (order.Pairwise fun first second => w.distance first ≤ w.distance second) ∧
        (∀ place (inside : place < order.length), 0 < place →
          (w.discovery order order[place]).1 < place) ∧
        (order.tail.Pairwise fun first second =>
          Reachability.Earlier (w.discovery order first) (w.discovery order second)) ∧
        ∀ other : List (Fin w.length), other.Perm order → other.head? = order.head? →
          (other.tail.Pairwise fun first second =>
            Reachability.Earlier (w.discovery other first) (w.discovery other second)) →
          other = order := by
  obtain ⟨named, targets, resolved, rfl⟩ := validate_eq_ok_iff.mp valid
  refine ⟨w.reachable targets, List.map_congr_left fun index _ => (named index).symm, ?_⟩
  by_cases nonempty : 0 < w.length
  · have listed := breadthFirst_reachable targets nonempty
    refine ⟨?_, distance_le_reachable resolved nonempty, ?_, ?_, ?_⟩
    · intro _
      have spelled : Step.nameOf 1 = "step_1" := by decide
      rw [List.head?_map, listed.first]
      exact congrArg some spelled
    · intro place inside behind
      rw [discovery_eq resolved]
      exact listed.position_lt behind inside
    · simp only [discovery_eq resolved]
      exact listed.increasing
    · intro other same first increasing
      exact (breadthFirst_of_discoveries resolved nonempty same first increasing).unique listed
  · have unlisted : w.reachable targets = [] := by rw [reachable, dif_neg nonempty]
    rw [unlisted]
    refine ⟨fun steps => absurd steps nonempty, List.Pairwise.nil, ?_, List.Pairwise.nil, ?_⟩
    · intro place inside
      cases inside
    · intro other same _ _
      exact List.perm_nil.mp same

/-- The empty workflow is accepted as well, and its list starts with no name. -/
theorem validate_empty_starts_with_nothing :
    Workflow.empty.validate = .ok [] ∧ ([] : List String).head? ≠ some "step_1" :=
  ⟨rfl, nofun⟩

/-- A fork whose second prong is named first, where both prongs lead on. -/
def fork : Workflow :=
  { steps :=
      [{ name := "step_1", kind := .decision, instruction := "which?",
          connections := ["step_3", "step_2"] },
        { name := "step_2", kind := .process, instruction := "left", connections := ["step_4"] },
        { name := "step_3", kind := .process, instruction := "right",
          connections := ["step_05", "step_1"] },
        { name := "step_4", kind := .terminal, instruction := "end", connections := [] },
        { name := "step_5", kind := .process, instruction := "further",
          connections := ["step_4"] }] }

/-- The prongs are listed in the order of their connections, and both of them in
front of what they lead to.  The last step is discovered through the second
prong, which stands in front of the further step. -/
theorem validate_fork :
    fork.validate = .ok ["step_1", "step_3", "step_2", "step_5", "step_4"] ∧
      ∃ order : List (Fin fork.length),
        order.map Fin.val = [0, 2, 1, 4, 3] ∧
          order.tail.map (fork.discovery order) = [(0, 0), (0, 1), (1, 0), (2, 0)] ∧
          (order.Pairwise fun first second => fork.distance first ≤ fork.distance second) ∧
          ∀ other : List (Fin fork.length), other.Perm order → other.head? = order.head? →
            (other.tail.Pairwise fun first second =>
              Reachability.Earlier (fork.discovery other first) (fork.discovery other second)) →
            other = order := by
  have valid : fork.validate = .ok ["step_1", "step_3", "step_2", "step_5", "step_4"] := rfl
  obtain ⟨order, listed, -, distances, -, -, unique⟩ := validate_breadthFirst fork _ valid
  have apart := (validate_accepts_iff.mp ⟨_, valid⟩).1.injective
  obtain rfl : order =
      [⟨0, by decide⟩, ⟨2, by decide⟩, ⟨1, by decide⟩, ⟨4, by decide⟩, ⟨3, by decide⟩] :=
    List.map_injective_iff.mpr apart (listed.symm.trans rfl)
  exact ⟨valid, _, rfl, by decide, distances, unique⟩

end Workflow

end Stepwise
