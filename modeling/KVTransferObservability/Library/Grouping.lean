import KVTransferObservability.Library.Dict
import Mathlib.Data.List.Induction

/-!
# Grouping and collecting by key

`table.setdefault(key, []).append(item)` groups a list by key, in the order in which
the keys first appear. `{key(item): item for item in items}` keeps the last item of
each key, so its length tells whether the keys are distinct.
-/

namespace KVTransferObservability.Library

set_option autoImplicit false

universe u v

variable {Key : Type u} {Item : Type v} [DecidableEq Key]

/-- `groups.setdefault(key, []).append(item)`. -/
def appendTo : List (Key × List Item) → Key → Item → List (Key × List Item)
  | [], key, item => [(key, [item])]
  | (other, members) :: rest, key, item =>
      if other = key then (other, members ++ [item]) :: rest
      else (other, members) :: appendTo rest key item

theorem append_to_keys (groups : List (Key × List Item)) (key : Key) (item : Item) :
    (appendTo groups key item).map Prod.fst =
      if key ∈ groups.map Prod.fst then groups.map Prod.fst
      else groups.map Prod.fst ++ [key] := by
  induction groups with
  | nil => simp [appendTo]
  | cons group rest induction =>
      rcases group with ⟨other, members⟩
      by_cases same : other = key
      · simp [appendTo, same]
      · have different : key ≠ other := fun equal => same equal.symm
        simp only [appendTo, if_neg same, List.map_cons, induction, List.mem_cons, different,
          false_or]
        split <;> simp

theorem mem_append_to (groups : List (Key × List Item)) (key value : Key) (item : Item)
    (members : List Item) (distinct : (groups.map Prod.fst).Nodup) :
    (value, members) ∈ appendTo groups key item ↔
      if value = key then
        (∃ before, (key, before) ∈ groups ∧ members = before ++ [item]) ∨
          (key ∉ groups.map Prod.fst ∧ members = [item])
      else (value, members) ∈ groups := by
  induction groups with
  | nil =>
      by_cases own : value = key <;> simp [appendTo, own]
  | cons group rest induction =>
      rcases group with ⟨other, kept⟩
      rw [List.map_cons, List.nodup_cons] at distinct
      have later := induction distinct.2
      by_cases same : other = key
      · subst same
        have absent : ∀ before, (other, before) ∉ rest := by
          intro before member
          exact distinct.1 (List.mem_map.mpr ⟨(other, before), member, rfl⟩)
        by_cases own : value = other
        · subst own
          simp [appendTo, absent]
        · simp [appendTo, own]
      · have different : key ≠ other := fun equal => same equal.symm
        simp only [appendTo, if_neg same, List.mem_cons, later, Prod.mk.injEq]
        by_cases own : value = key
        · subst own
          simp [different]
        · simp [own]

def groupBy (key : Item → Key) (items : List Item) : List (Key × List Item) :=
  items.foldl (fun groups item => appendTo groups (key item) item) []

variable (key : Item → Key)

theorem group_by_snoc (items : List Item) (item : Item) :
    groupBy key (items ++ [item]) = appendTo (groupBy key items) (key item) item := by
  simp [groupBy]

theorem mem_group_by_keys (items : List Item) (value : Key) :
    value ∈ (groupBy key items).map Prod.fst ↔ value ∈ items.map key := by
  induction items using List.reverseRecOn with
  | nil => simp [groupBy]
  | append_singleton items item induction =>
      rw [group_by_snoc, append_to_keys, List.map_append, List.mem_append, ← induction]
      split
      · rename_i present
        simp only [List.map_cons, List.map_nil, List.mem_singleton]
        constructor
        · exact Or.inl
        · rintro (before | same)
          · exact before
          · rw [same]
            exact present
      · rw [List.mem_append]
        simp

theorem group_by_keys_nodup (items : List Item) :
    ((groupBy key items).map Prod.fst).Nodup := by
  induction items using List.reverseRecOn with
  | nil => simp [groupBy]
  | append_singleton items item induction =>
      rw [group_by_snoc, append_to_keys]
      split
      · exact induction
      · rename_i absent
        rw [List.nodup_append]
        refine ⟨induction, List.nodup_singleton _, ?_⟩
        intro value member other same equal
        rw [List.mem_singleton] at same
        rw [equal, same] at member
        exact absent member

theorem group_by_length (items : List Item) :
    (groupBy key items).length = (items.map key).toFinset.card := by
  have same : ((groupBy key items).map Prod.fst).toFinset = (items.map key).toFinset := by
    ext value
    rw [List.mem_toFinset, List.mem_toFinset, mem_group_by_keys]
  rw [← same, List.toFinset_card_of_nodup (group_by_keys_nodup key items), List.length_map]

/-- The groups are the sublists of equal keys. -/
theorem mem_group_by (items : List Item) (value : Key) (members : List Item) :
    (value, members) ∈ groupBy key items ↔
      value ∈ items.map key ∧ members = items.filter fun item => key item = value := by
  induction items using List.reverseRecOn generalizing value members with
  | nil => simp [groupBy]
  | append_singleton items item induction =>
      have keys := mem_group_by_keys key items (key item)
      rw [group_by_snoc, mem_append_to _ _ _ _ _ (group_by_keys_nodup key items)]
      by_cases own : value = key item
      · subst own
        simp only [if_true, induction, keys, List.filter_append, List.map_append, List.mem_append]
        by_cases present : key item ∈ items.map key
        · simp [present]
        · have none : items.filter (fun other => key other = key item) = [] := by
            rw [List.filter_eq_nil_iff]
            intro other member same
            exact present (List.mem_map.mpr ⟨other, member, of_decide_eq_true same⟩)
          simp [present, none]
      · have other : key item ≠ value := fun same => own same.symm
        simp [own, other, induction]

/-! ## Dictionary comprehensions -/

/-- `{key(item): item for item in items}`. -/
def collect (items : List Item) : Dict Key Item :=
  items.foldl (fun table item => table.insert (key item) item) ∅

theorem collect_snoc (items : List Item) (item : Item) :
    collect key (items ++ [item]) = (collect key items).insert (key item) item := by
  simp [collect]

theorem keys_collect (items : List Item) :
    (collect key items).keys = (items.map key).toFinset := by
  induction items using List.reverseRecOn with
  | nil => simp [collect]
  | append_singleton items item induction =>
      rw [collect_snoc, Dict.keys_insert, induction]
      ext value
      simp

theorem size_collect_iff (items : List Item) :
    (collect key items).size = items.length ↔ (items.map key).Nodup := by
  rw [Dict.size, keys_collect, List.card_toFinset, ← List.length_map (f := key)]
  constructor
  · intro same
    have whole := (List.dedup_sublist (items.map key)).eq_of_length same
    rw [← whole]
    exact List.nodup_dedup _
  · intro distinct
    rw [distinct.dedup]

theorem lookup_collect (items : List Item) (distinct : (items.map key).Nodup) (item : Item)
    (member : item ∈ items) : (collect key items).lookup (key item) = some item := by
  induction items using List.reverseRecOn with
  | nil => cases member
  | append_singleton items last induction =>
      rw [List.map_append, List.map_cons, List.map_nil, List.nodup_append] at distinct
      rw [collect_snoc, Dict.lookup_insert_ite]
      rcases List.mem_append.mp member with before | here
      · have different : key item ≠ key last :=
          distinct.2.2 _ (List.mem_map_of_mem before) _ (List.mem_singleton_self _)
        rw [if_neg different]
        exact induction distinct.1 before
      · rw [List.mem_singleton] at here
        rw [here, if_pos rfl]

end KVTransferObservability.Library
