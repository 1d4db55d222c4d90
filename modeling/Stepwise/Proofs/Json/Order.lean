/-
Module: Stepwise.Proofs.Json.Order
Purpose: The order in which the members of an object are written does not matter
  to the value that is read.
Main exports: Json.depth, Json.Plain, Json.fits_of_plain, Json.Ordered, Json.normal_of_ordered,
  Json.selected, Json.selected_normalMembers, Json.Alike, Json.alike_normal
-/
import Mathlib.Data.List.Perm.Basic
import Stepwise.Proofs.Json.Value

namespace Stepwise.Json

/-!
Reading brings the members of every object into the order of their keys.  A
value whose objects are in that order already is read back unchanged.  Any other
value is read back as one that is like it: the objects have the same members in
another order, provided that no key is repeated, for of repeated keys only the
last one is kept.
-/

/-! ### Values that can be read back -/

mutual

/-- The greatest number of brackets that are open at once. -/
def depth : Json → Nat
  | .arr items => depthOfItems items + 1
  | .obj members => depthOfMembers members + 1
  | .null | .bool _ | .num _ | .str _ => 0

/-- The greatest depth of an item. -/
def depthOfItems : List Json → Nat
  | [] => 0
  | item :: items => max item.depth (depthOfItems items)

/-- The greatest depth of the value of a member. -/
def depthOfMembers : List (String × Json) → Nat
  | [] => 0
  | (_, value) :: members => max value.depth (depthOfMembers members)

end

mutual

/-- All numbers are integers in the range of numerals, and no object has a key
twice. -/
def Plain : Json → Prop
  | .num number => number.Exact
  | .arr items => PlainItems items
  | .obj members => (members.map Prod.fst).Nodup ∧ PlainMembers members
  | .null | .bool _ | .str _ => True

/-- All items are plain. -/
def PlainItems : List Json → Prop
  | [] => True
  | item :: items => item.Plain ∧ PlainItems items

/-- The values of all members are plain. -/
def PlainMembers : List (String × Json) → Prop
  | [] => True
  | (_, value) :: members => value.Plain ∧ PlainMembers members

end

mutual

/-- A plain value comes back where as many brackets may be open as it needs. -/
theorem fits_of_plain : ∀ (value : Json) (limit : Nat), value.Plain → value.depth ≤ limit →
    value.fits limit = true
  | .null, _, _, _ | .bool _, _, _, _ | .str _, _, _, _ => by simp [fits]
  | .num number, _, plain, _ => by simpa [fits, Plain] using plain
  | .arr items, limit, plain, deep => by
      obtain ⟨limit, rfl⟩ : ∃ n, limit = n + 1 := ⟨limit - 1, by rw [depth] at deep; omega⟩
      rw [depth] at deep
      rw [Plain] at plain
      rw [fits]
      exact fitsItems_of_plain items limit plain (by omega)
  | .obj members, limit, plain, deep => by
      obtain ⟨limit, rfl⟩ : ∃ n, limit = n + 1 := ⟨limit - 1, by rw [depth] at deep; omega⟩
      rw [depth] at deep
      rw [Plain] at plain
      rw [fits]
      exact fitsMembers_of_plain members limit plain.2 (by omega)

theorem fitsItems_of_plain : ∀ (items : List Json) (limit : Nat), PlainItems items →
    depthOfItems items ≤ limit → fitsItems limit items = true
  | [], _, _, _ => rfl
  | item :: items, limit, plain, deep => by
      rw [PlainItems] at plain
      rw [depthOfItems] at deep
      rw [fitsItems, fits_of_plain item limit plain.1 (by omega),
        fitsItems_of_plain items limit plain.2 (by omega)]
      rfl

theorem fitsMembers_of_plain : ∀ (members : List (String × Json)) (limit : Nat),
    PlainMembers members → depthOfMembers members ≤ limit → fitsMembers limit members = true
  | [], _, _, _ => rfl
  | (_, value) :: members, limit, plain, deep => by
      rw [PlainMembers] at plain
      rw [depthOfMembers] at deep
      rw [fitsMembers, fits_of_plain value limit plain.1 (by omega),
        fitsMembers_of_plain members limit plain.2 (by omega)]
      rfl

end

/-! ### Objects in the order of their keys -/

mutual

/-- Every object lists its members in ascending order of their keys. -/
def Ordered : Json → Prop
  | .arr items => OrderedItems items
  | .obj members => (members.map Prod.fst).Pairwise (· < ·) ∧ OrderedMembers members
  | .null | .bool _ | .num _ | .str _ => True

/-- The objects in all items are ordered. -/
def OrderedItems : List Json → Prop
  | [] => True
  | item :: items => item.Ordered ∧ OrderedItems items

/-- The objects in the values of all members are ordered. -/
def OrderedMembers : List (String × Json) → Prop
  | [] => True
  | (_, value) :: members => value.Ordered ∧ OrderedMembers members

end

/-- A key behind all others is put at the end. -/
theorem insertMember_of_last {key : String} (value : Json) {members : List (String × Json)}
    (last : ∀ member ∈ members, member.1 < key) :
    insertMember key value members = members ++ [(key, value)] := by
  induction members with
  | nil => rfl
  | cons member members ih =>
      obtain ⟨other, old⟩ := member
      rw [List.forall_mem_cons] at last
      have before : other < key := last.1
      have new : key ≠ other := by
        rintro rfl
        exact String.lt_irrefl key before
      rw [insertMember, if_neg new, if_neg (String.lt_asymm before), ih last.2]
      rfl

mutual

/-- A value with ordered objects is read back as it is. -/
theorem normal_of_ordered : ∀ value : Json, value.Ordered → value.normal = value
  | .null, _ | .bool _, _ | .num _, _ | .str _, _ => by simp [normal]
  | .arr items, ordered => by
      rw [Ordered] at ordered
      rw [normal, normalItems_of_ordered items ordered]
  | .obj members, ordered => by
      rw [Ordered] at ordered
      rw [normal, normalMembers_of_ordered members [] ordered.2 ordered.1, List.nil_append]

theorem normalItems_of_ordered : ∀ items : List Json, OrderedItems items →
    normalItems items = items
  | [], _ => rfl
  | item :: items, ordered => by
      rw [OrderedItems] at ordered
      rw [normalItems, normal_of_ordered item ordered.1, normalItems_of_ordered items ordered.2]

/-- Each member of an ordered object comes behind those that are read. -/
theorem normalMembers_of_ordered : ∀ members read : List (String × Json),
    OrderedMembers members → ((read ++ members).map Prod.fst).Pairwise (· < ·) →
      normalMembers read members = read ++ members
  | [], read, _, _ => by rw [normalMembers, List.append_nil]
  | (key, value) :: members, read, ordered, ascending => by
      rw [OrderedMembers] at ordered
      have last : ∀ member ∈ read, member.1 < key := by
        rw [List.map_append, List.pairwise_append] at ascending
        intro member held
        exact ascending.2.2 member.1 (List.mem_map_of_mem held) key (by simp)
      have shifted : ((read ++ [(key, value)] ++ members).map Prod.fst).Pairwise (· < ·) := by
        rwa [List.append_assoc]
      rw [normalMembers, normal_of_ordered value ordered.1, insertMember_of_last value last,
        normalMembers_of_ordered members _ ordered.2 shifted, List.append_assoc]
      rfl

end

/-! ### Objects in any order -/

section Selected

variable (selects : String → Bool)

/-- The members whose keys are selected. -/
def selected (members : List (String × Json)) : List (String × Json) :=
  members.filter fun member => selects member.1

theorem selected_cons (member : String × Json) (members : List (String × Json)) :
    selected selects (member :: members) = selected selects [member] ++ selected selects members :=
  List.filter_append [member] members

theorem selected_append (members members' : List (String × Json)) :
    selected selects (members ++ members') =
      selected selects members ++ selected selects members' :=
  List.filter_append members members'

theorem map_fst_selected (members : List (String × Json)) :
    (selected selects members).map Prod.fst = (members.map Prod.fst).filter selects :=
  List.filter_map.symm

/-- A new key is added to the selected members if it is selected itself, and the
others of them stay. -/
theorem selected_insertMember {key : String} (value : Json) {members : List (String × Json)}
    (new : selects key = true → key ∉ members.map Prod.fst) :
    (selected selects (insertMember key value members)).Perm
      (selected selects [(key, value)] ++ selected selects members) := by
  induction members with
  | nil => simp [insertMember, selected]
  | cons member members ih =>
      obtain ⟨other, old⟩ := member
      rw [insertMember]
      split
      next same =>
        subst same
        have unselected : ¬ selects key = true := fun chosen => new chosen (by simp)
        simp [selected, unselected]
      next different =>
        split
        next before => rw [selected_cons]
        next behind =>
          have inner := ih fun chosen held => new chosen (List.mem_cons_of_mem _ held)
          rw [selected_cons, selected_cons selects (other, old) members]
          exact (inner.append_left _).trans (List.perm_append_comm_assoc _ _ _)

/-- The selected members that are read are the selected ones that were written, in
another order, if none of the selected keys is repeated. -/
theorem selected_normalMembers (members read : List (String × Json))
    (distinct : ((selected selects (read ++ members)).map Prod.fst).Nodup) :
    (selected selects (normalMembers read members)).Perm
      (selected selects (read ++ members.map fun member => (member.1, member.2.normal))) := by
  induction members generalizing read with
  | nil => rw [normalMembers, List.map_nil, List.append_nil]
  | cons member members ih =>
      obtain ⟨key, value⟩ := member
      have new : selects key = true → key ∉ read.map Prod.fst := by
        intro chosen held
        rw [map_fst_selected, List.map_append, List.filter_append, List.nodup_append] at distinct
        exact distinct.2.2 key (List.mem_filter.mpr ⟨held, chosen⟩) key (by simp [chosen]) rfl
      have added := selected_insertMember selects value.normal new
      -- The member that is set moves from behind the read ones to their front.
      have moved : (selected selects (insertMember key value.normal read ++ members)).Perm
          (selected selects [(key, value.normal)] ++ selected selects read ++
            selected selects members) := by
        rw [selected_append]
        exact added.append_right _
      have still_distinct : ((selected selects
          (insertMember key value.normal read ++ members)).map Prod.fst).Nodup := by
        have same_key : (selected selects [(key, value.normal)]).map Prod.fst =
            (selected selects [(key, value)]).map Prod.fst := by
          rw [map_fst_selected, map_fst_selected]
          rfl
        rw [selected_append, selected_cons, List.map_append, List.map_append] at distinct
        rw [(moved.map Prod.fst).nodup_iff, List.append_assoc, List.map_append, List.map_append,
          same_key]
        exact (List.perm_append_comm_assoc _ _ _).nodup_iff.mpr distinct
      have rest := ih _ still_distinct
      rw [normalMembers]
      refine rest.trans ?_
      rw [selected_append, selected_append, List.map_cons, selected_cons]
      refine (added.append_right _).trans ?_
      rw [List.append_assoc]
      exact List.perm_append_comm_assoc _ _ _

end Selected

mutual

/-- Two values that differ only in the order of the members of their objects. -/
inductive Alike : Json → Json → Prop where
  | null : Alike .null .null
  | bool (value : Bool) : Alike (.bool value) (.bool value)
  | num (number : Number) : Alike (.num number) (.num number)
  | str (text : String) : Alike (.str text) (.str text)
  | arr {items items' : List Json} (inside : AlikeItems items items') :
      Alike (.arr items) (.arr items')
  | obj {members between members' : List (String × Json)}
      (inside : AlikeMembers members between) (order : between.Perm members') :
      Alike (.obj members) (.obj members')

/-- Lists of values that are alike one by one. -/
inductive AlikeItems : List Json → List Json → Prop where
  | nil : AlikeItems [] []
  | cons {item item' : Json} {items items' : List Json} (first : Alike item item')
      (others : AlikeItems items items') : AlikeItems (item :: items) (item' :: items')

/-- Lists of members with the same keys and with values that are alike one by
one. -/
inductive AlikeMembers : List (String × Json) → List (String × Json) → Prop where
  | nil : AlikeMembers [] []
  | cons {key : String} {value value' : Json} {members members' : List (String × Json)}
      (first : Alike value value') (others : AlikeMembers members members') :
      AlikeMembers ((key, value) :: members) ((key, value') :: members')

end

mutual

/-- A plain value is read back as one that is like it. -/
theorem alike_normal : ∀ value : Json, value.Plain → Alike value value.normal
  | .null, _ => by simpa [normal] using Alike.null
  | .bool value, _ => by simpa [normal] using Alike.bool value
  | .num number, _ => by simpa [normal] using Alike.num number
  | .str text, _ => by simpa [normal] using Alike.str text
  | .arr items, plain => by
      rw [Plain] at plain
      rw [normal]
      exact .arr (alike_normalItems items plain)
  | .obj members, plain => by
      rw [Plain] at plain
      rw [normal]
      have order := selected_normalMembers (fun _ => true) members []
        (by simpa [selected] using plain.1)
      simp only [selected, List.filter_true, List.nil_append] at order
      exact .obj (alike_normalMembers members plain.2) order.symm

theorem alike_normalItems : ∀ items : List Json, PlainItems items →
    AlikeItems items (normalItems items)
  | [], _ => .nil
  | item :: items, plain => by
      rw [PlainItems] at plain
      exact .cons (alike_normal item plain.1) (alike_normalItems items plain.2)

theorem alike_normalMembers : ∀ members : List (String × Json), PlainMembers members →
    AlikeMembers members (members.map fun member => (member.1, member.2.normal))
  | [], _ => .nil
  | (_, value) :: members, plain => by
      rw [PlainMembers] at plain
      exact .cons (alike_normal value plain.1) (alike_normalMembers members plain.2)

end

end Stepwise.Json
