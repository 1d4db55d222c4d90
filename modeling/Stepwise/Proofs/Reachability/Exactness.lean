/-
Module: Stepwise.Proofs.Reachability.Exactness
Purpose: The search without a bound on its rounds, and the list of reachable
  names: nothing is missing from it and nothing else is in it.
Main exports: Reachability.Drains, Reachability.Drains.keeps, Reachability.drains_explore,
  Reachability.mem_explore_iff_reaches, Workflow.Reachable, Workflow.mem_reachable_iff,
  Workflow.drains_reachable, Workflow.validate_lists_reachable
-/
import Stepwise.Proofs.Reachability.Acceptance

namespace Stepwise

/-!
The bound on the rounds is there for the recursion only.  A search that is
simply continued until its queue is empty is a relation between its state and
its result; that it comes to a result is what has to be proved, and the bounded
search proves it by arriving there.  Facts about the result are then facts that
hold at the start and that every round keeps.
-/

namespace Reachability

variable {n : Nat} {targets : Fin n → List (Fin n)} {entry index : Fin n}
  {finished queue result : List (Fin n)}

/-- Round by round the search empties its queue, and `result` is what it has
finished then. -/
inductive Drains (targets : Fin n → List (Fin n)) :
    List (Fin n) → List (Fin n) → List (Fin n) → Prop where
  | done {finished : List (Fin n)} : Drains targets finished [] finished
  | round {finished queue result : List (Fin n)} {index : Fin n}
      (rest : Drains targets (finished ++ [index])
        (queue ++ fresh (finished ++ index :: queue) (targets index)) result) :
      Drains targets finished (index :: queue) result

/-- With enough rounds the bounded search empties its queue. -/
theorem drains_explore {rounds : Nat} (searching : Searching targets finished queue)
    (enough : n ≤ rounds + finished.length) :
    Drains targets finished queue (explore targets rounds finished queue) := by
  induction rounds generalizing finished queue with
  | zero =>
      cases queue with
      | nil => exact .done
      | cons index queue =>
          have waiting := searching.length_lt
          omega
  | succ rounds ih =>
      cases queue with
      | nil => exact .done
      | cons index queue =>
          refine .round (ih searching.step ?_)
          rw [List.length_append, List.length_singleton]
          omega

/-- What every round keeps holds of the result, when nothing is waiting. -/
theorem Drains.keeps (invariant : List (Fin n) → List (Fin n) → Prop)
    (round : ∀ {finished queue : List (Fin n)} {index : Fin n},
      invariant finished (index :: queue) →
        invariant (finished ++ [index])
          (queue ++ fresh (finished ++ index :: queue) (targets index)))
    (drains : Drains targets finished queue result) (start : invariant finished queue) :
    invariant result [] := by
  induction drains with
  | done => exact start
  | round _rest ih => exact ih (round start)

/-- A search from an entry that is continued until nothing is waiting. -/
theorem drains_entry (targets : Fin n → List (Fin n)) (entry : Fin n) :
    Drains targets [] [entry] (explore targets n [] [entry]) :=
  drains_explore (.start entry) (Nat.le_add_right n _)

/-- The search finds nothing but what the entry leads to.  Each round finds
targets of an index that was found before. -/
theorem reaches_of_mem_explore (listed : index ∈ explore targets n [] [entry]) :
    Relation.ReflTransGen (Leads targets) entry index := by
  have found := (drains_entry targets entry).keeps fun finished queue =>
    ∀ other ∈ finished ++ queue, Relation.ReflTransGen (Leads targets) entry other
  refine found ?_ ?_ index (by simpa using listed)
  · intro finished queue source reached other member
    rcases mem_found_step.mp member with earlier | target
    · exact reached other earlier
    · exact (reached source (by simp)).tail target
  · intro other member
    obtain rfl : other = entry := by simpa using member
    exact .refl

/-- The search lists exactly what the entry leads to. -/
theorem mem_explore_iff_reaches :
    index ∈ explore targets n [] [entry] ↔ Relation.ReflTransGen (Leads targets) entry index :=
  ⟨reaches_of_mem_explore, fun reaches => mem_explore_of_reaches reaches⟩

end Reachability

namespace Workflow

variable {w : Workflow}

/-- A workflow that has an index has an entry. -/
theorem length_pos (index : Fin w.length) : 0 < w.length :=
  index.pos

/-- Any number of connections lead from the entry to `index`, whatever their
places in the steps that hold them and whatever the kinds of these steps. -/
def Reachable (w : Workflow) (index : Fin w.length) : Prop :=
  Relation.ReflTransGen w.Connects ⟨0, length_pos index⟩ index

theorem length_targets {targets : List (List (Fin w.length))} (resolved : w.targets = .ok targets) :
    targets.length = w.length := by
  have rows := congrArg List.length (mapM_eq_ok_iff.mp resolved)
  rw [List.length_map, List.length_map] at rows
  exact rows.symm

/-- The targets lead where the connections lead. -/
theorem leads_eq_connects {targets : List (List (Fin w.length))}
    (resolved : w.targets = .ok targets) :
    Reachability.Leads (fun source : Fin w.length => targets.getD source.val []) =
      w.Connects := by
  funext source target
  exact propext (mem_targets_iff_connects resolved)

/-- What the search over the targets lists can be reached over connections. -/
theorem mem_reachable_iff {targets : List (List (Fin w.length))}
    (resolved : w.targets = .ok targets) {index : Fin w.length} :
    index ∈ w.reachable targets ↔ w.Reachable index := by
  rw [reachable, dif_pos index.pos, Reachability.mem_explore_iff_reaches,
    leads_eq_connects resolved]
  rfl

/-- The search over the targets never looks behind their end, and it comes to
an end itself. -/
theorem drains_reachable {targets : List (List (Fin w.length))}
    (whole : targets.length = w.length) (nonempty : 0 < w.length) :
    Reachability.Drains (fun index => targets.get (index.cast whole.symm)) [] [⟨0, nonempty⟩]
      (w.reachable targets) := by
  have inside : (fun index : Fin w.length => targets.getD index.val []) =
      fun index => targets.get (index.cast whole.symm) := by
    funext index
    simp [whole]
  rw [reachable, dif_pos nonempty, ← inside]
  exact Reachability.drains_entry _ _

/-- Validation of a workflow with positional names and resolving connections
lists exactly the steps that connections reach from the entry.  It lists each
of them once, and nothing else; only a workflow without steps has an empty
list.  The search behind the list empties its queue, and every index that it
looks up is one of the targets. -/
theorem validate_lists_reachable (w : Workflow) (named : w.Positional) (resolving : w.Resolving) :
    ∃ names, w.validate = .ok names ∧ names.Nodup ∧
      (∀ index : Fin w.length, Step.nameOf (index.val + 1) ∈ names ↔ w.Reachable index) ∧
      (∀ name ∈ names, ∃ index : Fin w.length, name = Step.nameOf (index.val + 1)) ∧
      (names = [] ↔ w.length = 0) ∧
      ∃ (targets : List (List (Fin w.length))) (whole : targets.length = w.length),
        w.targets = .ok targets ∧
          ∀ nonempty : 0 < w.length, ∃ order,
            Reachability.Drains (fun index => targets.get (index.cast whole.symm)) []
                [⟨0, nonempty⟩] order ∧
              names = order.map fun index => Step.nameOf (index.val + 1) := by
  obtain ⟨names, valid⟩ := validate_accepts_iff.mpr ⟨named, resolving⟩
  obtain ⟨-, targets, resolved, rfl⟩ := validate_eq_ok_iff.mp valid
  have whole := length_targets resolved
  have apart : Function.Injective fun index : Fin w.length => Step.nameOf (index.val + 1) := by
    intro index other same
    exact Fin.ext (Nat.succ_injective (Step.nameOf_injective same))
  refine ⟨_, valid, (nodup_reachable targets).map apart, ?_, ?_, ?_, targets, whole, resolved, ?_⟩
  · intro index
    rw [← mem_reachable_iff resolved]
    exact List.mem_map_of_injective apart
  · intro name listed
    obtain ⟨index, -, rfl⟩ := List.mem_map.mp listed
    exact ⟨index, rfl⟩
  · rw [List.map_eq_nil_iff]
    constructor
    · intro unlisted
      by_contra steps
      have entry : ⟨0, Nat.pos_of_ne_zero steps⟩ ∈ w.reachable targets :=
        (mem_reachable_iff resolved).mpr .refl
      rw [unlisted] at entry
      cases entry
    · intro empty
      rw [reachable, dif_neg (by omega)]
  · intro nonempty
    exact ⟨_, drains_reachable whole nonempty, rfl⟩

/-- A decision with a way back to itself and two ways to a terminal step, a
step that nothing leads to, and a way back to the decision. -/
def tangle : Workflow :=
  { steps :=
      [{ name := "step_1", kind := .decision, instruction := "again?",
          connections := ["step_003", "step_1", "step_3"] },
        { name := "step_2", kind := .process, instruction := "idle", connections := ["step_1"] },
        { name := "step_3", kind := .terminal, instruction := "end",
          connections := ["step_0004", "step_4"] },
        { name := "step_4", kind := .process, instruction := "undo",
          connections := ["step_1"] }] }

/-- The terminal step is passed, and the second step is left out. -/
theorem validate_tangle :
    tangle.Positional ∧ tangle.Resolving ∧
      tangle.validate = .ok ["step_1", "step_3", "step_4"] ∧
      tangle.Reachable ⟨3, by decide⟩ ∧ ¬ tangle.Reachable ⟨1, by decide⟩ := by
  have valid : tangle.validate = .ok ["step_1", "step_3", "step_4"] := rfl
  obtain ⟨named, resolving⟩ := validate_accepts_iff.mp ⟨_, valid⟩
  obtain ⟨names, valid', -, exactly, -⟩ := validate_lists_reachable tangle named resolving
  obtain rfl := Except.ok.inj (valid.symm.trans valid')
  refine ⟨named, resolving, valid, (exactly ⟨3, by decide⟩).mp (by decide), ?_⟩
  intro reached
  exact absurd ((exactly ⟨1, by decide⟩).mpr reached) (by decide)

end Workflow

end Stepwise
