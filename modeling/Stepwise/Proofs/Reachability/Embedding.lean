/-
Module: Stepwise.Proofs.Reachability.Embedding
Purpose: The search inside a larger graph that nothing leads out into, and the
  list of reachable names when steps are put behind a workflow.
Main exports: Reachability.fresh_map, Reachability.Drains.map, Reachability.Drains.unique,
  Reachability.explore_map, Workflow.targets_append, Workflow.names_eq_of_validate_append
-/
import Stepwise.Proofs.Reachability.Exactness
import Stepwise.Proofs.Workflow.Append

namespace Stepwise

/-!
The search looks at targets only and compares indices only.  So a search in a
part of a graph that is closed under targets is the search in that part alone,
with its indices read in the whole.  The bound on the rounds differs between the
two, but a search that empties its queue has one result whatever the bound.
-/

namespace Reachability

variable {n m : Nat} {targets : Fin n → List (Fin n)} {targets' : Fin m → List (Fin m)}
  {place : Fin n → Fin m}

theorem fresh_map (injective : Function.Injective place) (known found : List (Fin n)) :
    fresh (known.map place) (found.map place) = (fresh known found).map place := by
  induction found generalizing known with
  | nil => rfl
  | cons target rest ih =>
      have same : place target ∈ known.map place ↔ target ∈ known :=
        List.mem_map_of_injective injective
      by_cases seen : target ∈ known
      · rw [List.map_cons, fresh, fresh, if_pos (same.mpr seen), if_pos seen, ih]
      · rw [List.map_cons, fresh, fresh, if_neg (fun again => seen (same.mp again)), if_neg seen,
          List.map_cons, ← ih, List.map_cons]

/-- Round by round, the search in the part is the search in the whole. -/
theorem Drains.map (injective : Function.Injective place)
    (closed : ∀ index, targets' (place index) = (targets index).map place)
    {finished queue result : List (Fin n)} (drains : Drains targets finished queue result) :
    Drains targets' (finished.map place) (queue.map place) (result.map place) := by
  induction drains with
  | done => exact .done
  | @round finished queue result index _rest ih =>
      apply Drains.round
      rw [closed]
      have known : finished.map place ++ place index :: queue.map place =
          (finished ++ index :: queue).map place := by simp
      rw [known, fresh_map injective]
      simpa only [List.map_append, List.map_singleton] using ih

/-- A search that empties its queue has one result. -/
theorem Drains.unique {finished queue result other : List (Fin n)}
    (drains : Drains targets finished queue result)
    (drains' : Drains targets finished queue other) : result = other := by
  induction drains with
  | done =>
      cases drains' with
      | done => rfl
  | round _rest ih =>
      cases drains' with
      | round rest' => exact ih rest'

/-- A part that targets do not lead out of is searched as if it were all. -/
theorem explore_map (injective : Function.Injective place)
    (closed : ∀ index, targets' (place index) = (targets index).map place) (entry : Fin n) :
    explore targets' m [] [place entry] = (explore targets n [] [entry]).map place := by
  have part := (drains_entry targets entry).map injective closed
  exact (drains_entry targets' (place entry)).unique part

end Reachability

namespace Workflow

variable {w : Workflow} {further : List Step}

/-- Each step of an accepted workflow has the same targets when steps are put
behind it. -/
theorem targets_append {targets : List (List (Fin w.length))}
    {targets' : List (List (Fin (w.append further).length))} (resolved : w.targets = .ok targets)
    (resolved' : (w.append further).targets = .ok targets') (index : Fin w.length) :
    targets'.getD (w.embed further index).val [] =
      (targets.getD index.val []).map (w.embed further) := by
  have row := resolve_connections resolved index
  have row' := resolve_connections resolved' (w.embed further index)
  rw [get_embed] at row'
  -- All connections of an accepted workflow lead somewhere, so none of them is past the end.
  have inside : (w.get index).connections.map ((w.append further).resolve (w.get index).name) =
      ((w.get index).connections.map (w.resolve (w.get index).name)).map
        (Except.map (w.embed further)) := by
    rw [List.map_map]
    apply List.map_congr_left
    intro reference held
    have answered : w.resolve (w.get index).name reference ∈
        (targets.getD index.val []).map Except.ok := row ▸ List.mem_map_of_mem held
    obtain ⟨next, -, leads⟩ := List.mem_map.mp answered
    rw [Function.comp_apply, ← leads]
    exact resolve_eq_ok_iff.mpr (locate_append_of_ok (resolve_eq_ok_iff.mp leads.symm))
  rw [inside, row, List.map_map] at row'
  have lists : (targets'.getD (w.embed further index).val []).map
      (Except.ok : _ → Except WorkflowFault _) =
        ((targets.getD index.val []).map (w.embed further)).map Except.ok := by
    rw [List.map_map]
    exact row'.symm
  exact (List.map_inj_right fun _ _ => Except.ok.inj).mp lists

/-- What is accepted with and without further steps reaches none of them. -/
theorem names_eq_of_validate_append (nonempty : 0 < w.length) {names names' : List String}
    (valid : w.validate = .ok names) (valid' : (w.append further).validate = .ok names') :
    names' = names := by
  obtain ⟨-, targets, resolved, rfl⟩ := validate_eq_ok_iff.mp valid
  obtain ⟨-, targets', resolved', rfl⟩ := validate_eq_ok_iff.mp valid'
  have nonempty' : 0 < (w.append further).length :=
    Nat.lt_of_lt_of_le nonempty (length_le_append w further)
  have closed (index : Fin w.length) :
      (fun source => targets'.getD source.val []) (w.embed further index) =
        ((fun source => targets.getD source.val []) index).map (w.embed further) :=
    targets_append resolved resolved' index
  have search : (w.append further).reachable targets' =
      (w.reachable targets).map (w.embed further) := by
    rw [reachable, dif_pos nonempty', reachable, dif_pos nonempty]
    exact Reachability.explore_map (w.embed_injective further) closed ⟨0, nonempty⟩
  rw [search, List.map_map]
  rfl

end Workflow

end Stepwise
