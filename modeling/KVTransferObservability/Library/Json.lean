import Mathlib.Data.List.Perm.Subperm
import Mathlib.Data.List.Nodup
import Mathlib.Data.List.Forall2
import Mathlib.Data.Option.Basic

/-!
# JSON values

Trees of scalars, arrays and objects. The scalars stay a parameter, so that two
values can be compared under any comparison of scalars: the strict one, and the
coarser ones of host languages. An object is the list of its entries; on objects
without a repeated key its comparison does not depend on their order.
-/

namespace KVTransferObservability.Library

set_option autoImplicit false

inductive Json (Scalar : Type)
  | scalar (value : Scalar)
  | array (items : List (Json Scalar))
  | object (entries : List (String × Json Scalar))

namespace Json

variable {Scalar : Type}

abbrev Entries (Scalar : Type) := List (String × Json Scalar)

def keys (entries : Entries Scalar) : List String := entries.map Prod.fst

mutual

/-- Equality of trees whose scalars are compared by `alike`; objects are compared
as dictionaries. -/
def agrees (alike : Scalar → Scalar → Bool) : Json Scalar → Json Scalar → Bool
  | .scalar left, .scalar right => alike left right
  | .array left, .array right => itemsAgree alike left right
  | .object left, .object right => left.length == right.length && entriesAgree alike left right
  | _, _ => false

def itemsAgree (alike : Scalar → Scalar → Bool) :
    List (Json Scalar) → List (Json Scalar) → Bool
  | [], [] => true
  | left :: lefts, right :: rights => agrees alike left right && itemsAgree alike lefts rights
  | _, _ => false

/-- Every entry of the first object is an entry of the second. -/
def entriesAgree (alike : Scalar → Scalar → Bool) : Entries Scalar → Entries Scalar → Bool
  | [], _ => true
  | (key, value) :: rest, other =>
      (match other.lookup key with
        | some found => agrees alike value found
        | none => false) && entriesAgree alike rest other

end

/-- No object of the tree repeats a key. -/
inductive UniqueKeys : Json Scalar → Prop
  | scalar (value : Scalar) : UniqueKeys (.scalar value)
  | array {items : List (Json Scalar)} (each : ∀ item ∈ items, UniqueKeys item) :
      UniqueKeys (.array items)
  | object {entries : Entries Scalar} (distinct : (keys entries).Nodup)
      (each : ∀ entry ∈ entries, UniqueKeys entry.2) : UniqueKeys (.object entries)

/-- Every scalar of the tree has the property. -/
inductive Every (property : Scalar → Prop) : Json Scalar → Prop
  | scalar {value : Scalar} (holds : property value) : Every property (.scalar value)
  | array {items : List (Json Scalar)} (each : ∀ item ∈ items, Every property item) :
      Every property (.array items)
  | object {entries : Entries Scalar} (each : ∀ entry ∈ entries, Every property entry.2) :
      Every property (.object entries)

/-! ## Looking up a key -/

theorem mem_of_lookup {Content : Type} {entries : List (String × Content)} {key : String}
    {value : Content} (found : entries.lookup key = some value) : (key, value) ∈ entries := by
  obtain ⟨before, after, split, _⟩ := List.lookup_eq_some_iff.mp found
  rw [split]
  exact List.mem_append_right before List.mem_cons_self

theorem lookup_of_mem {entries : Entries Scalar} {key : String} {value : Json Scalar}
    (distinct : (keys entries).Nodup) (member : (key, value) ∈ entries) :
    entries.lookup key = some value := by
  induction entries with
  | nil => cases member
  | cons entry rest induction =>
      obtain ⟨fresh, distinctRest⟩ := List.nodup_cons.mp distinct
      rcases List.mem_cons.mp member with same | later
      · rw [← same]
        exact List.lookup_cons_self
      · have other : key ≠ entry.1 := by
          intro same
          exact fresh (same ▸ List.mem_map_of_mem (f := Prod.fst) later)
        rw [List.lookup_cons, beq_false_of_ne other]
        exact induction distinctRest later

theorem lookup_eq_none_iff (entries : Entries Scalar) (key : String) :
    entries.lookup key = none ↔ key ∉ keys entries := by
  rw [List.lookup_eq_none_iff, keys, List.mem_map]
  constructor
  · rintro absent ⟨entry, member, same⟩
    simpa [same] using absent entry member
  · intro absent entry member
    rw [bne_iff_ne]
    intro same
    exact absent ⟨entry, member, same.symm⟩

theorem mem_keys_iff (entries : Entries Scalar) (key : String) :
    key ∈ keys entries ↔ ∃ value, entries.lookup key = some value := by
  rw [← Option.ne_none_iff_exists', ne_eq, lookup_eq_none_iff, not_not]

theorem unique_keys_lookup {entries : Entries Scalar} {key : String} {value : Json Scalar}
    (unique : UniqueKeys (.object entries)) (found : entries.lookup key = some value) :
    UniqueKeys value := by
  cases unique with
  | object _ each => exact each (key, value) (mem_of_lookup found)

/-! ## Comparing trees -/

section

variable {alike : Scalar → Scalar → Bool}

theorem items_agree_iff (left right : List (Json Scalar)) :
    itemsAgree alike left right = true ↔
      List.Forall₂ (fun first second => agrees alike first second = true) left right := by
  induction left generalizing right with
  | nil => cases right <;> simp [itemsAgree]
  | cons item rest induction =>
      cases right with
      | nil => simp [itemsAgree]
      | cons other others =>
          rw [itemsAgree, Bool.and_eq_true, induction, List.forall₂_cons]

theorem entries_agree_iff (left right : Entries Scalar) :
    entriesAgree alike left right = true ↔
      ∀ entry ∈ left, ∃ found,
        right.lookup entry.1 = some found ∧ agrees alike entry.2 found = true := by
  induction left with
  | nil => simp [entriesAgree]
  | cons entry rest induction =>
      obtain ⟨key, value⟩ := entry
      rw [entriesAgree, Bool.and_eq_true, induction, List.forall_mem_cons]
      apply and_congr_left
      intro _
      cases found : right.lookup key with
      | none => simp
      | some other => simp

/-- Both sides hold the key and their values agree, or neither holds it. -/
def EntryAgrees (alike : Scalar → Scalar → Bool) :
    Option (Json Scalar) → Option (Json Scalar) → Prop
  | some left, some right => agrees alike left right = true
  | none, none => True
  | _, _ => False

/-- Objects without repeated keys are compared key by key. -/
theorem object_agrees_iff (left right : Entries Scalar) (leftDistinct : (keys left).Nodup)
    (rightDistinct : (keys right).Nodup) :
    agrees alike (.object left) (.object right) = true ↔
      ∀ key, EntryAgrees alike (left.lookup key) (right.lookup key) := by
  rw [agrees, Bool.and_eq_true, beq_iff_eq, entries_agree_iff]
  constructor
  · rintro ⟨sameLength, included⟩ key
    have subset : keys left ⊆ keys right := by
      intro name member
      obtain ⟨entry, entryMember, rfl⟩ := List.mem_map.mp member
      obtain ⟨found, located, _⟩ := included entry entryMember
      exact (mem_keys_iff right entry.1).mpr ⟨found, located⟩
    have permutation : (keys left).Perm (keys right) := by
      apply (leftDistinct.subperm subset).perm_of_length_le
      simp [keys, sameLength]
    cases found : left.lookup key with
    | some value =>
        obtain ⟨other, located, agree⟩ := included (key, value) (mem_of_lookup found)
        rw [located]
        exact agree
    | none =>
        have absent : right.lookup key = none := by
          rw [lookup_eq_none_iff, ← permutation.mem_iff, ← lookup_eq_none_iff]
          exact found
        rw [absent]
        trivial
  · intro pointwise
    have located : ∀ entry ∈ left, ∃ found,
        right.lookup entry.1 = some found ∧ agrees alike entry.2 found = true := by
      intro entry member
      have agree := pointwise entry.1
      rw [lookup_of_mem leftDistinct member] at agree
      cases found : right.lookup entry.1 with
      | none =>
          rw [found] at agree
          cases agree
      | some other =>
          rw [found] at agree
          exact ⟨other, rfl, agree⟩
    have sameKeys : ∀ key, key ∈ keys left ↔ key ∈ keys right := by
      intro key
      have agree := pointwise key
      rw [mem_keys_iff, mem_keys_iff]
      cases first : left.lookup key with
      | none =>
          cases second : right.lookup key with
          | none => simp
          | some other =>
              rw [first, second] at agree
              cases agree
      | some value =>
          cases second : right.lookup key with
          | none =>
              rw [first, second] at agree
              cases agree
          | some other => simp
    have permutation := (List.perm_ext_iff_of_nodup leftDistinct rightDistinct).mpr sameKeys
    refine ⟨?_, located⟩
    have lengths := permutation.length_eq
    simpa [keys] using lengths

end

/-- A tree without repeated keys agrees with itself. -/
theorem agrees_refl {alike : Scalar → Scalar → Bool} (reflexive : ∀ value, alike value value = true)
    {tree : Json Scalar} (unique : UniqueKeys tree) : agrees alike tree tree = true := by
  induction unique with
  | scalar value => exact reflexive value
  | @array items _ each =>
      rw [agrees, items_agree_iff, List.forall₂_same]
      exact each
  | @object entries distinct _ each =>
      rw [object_agrees_iff entries entries distinct distinct]
      intro key
      cases found : entries.lookup key with
      | none => trivial
      | some value => exact each (key, value) (mem_of_lookup found)

theorem forall_two_mono {Left Right : Type} {coarse fine : Left → Right → Prop}
    {known : Left → Prop} {rights : List Right}
    (refines : ∀ right ∈ rights, ∀ {left}, known left → coarse left right → fine left right)
    {lefts : List Left} (every : ∀ left ∈ lefts, known left)
    (related : List.Forall₂ coarse lefts rights) : List.Forall₂ fine lefts rights := by
  induction related with
  | nil => exact List.Forall₂.nil
  | cons first _ induction =>
      apply List.Forall₂.cons
      · exact refines _ List.mem_cons_self (every _ List.mem_cons_self) first
      · apply induction
        · intro right member
          exact refines right (List.mem_cons_of_mem _ member)
        · intro left member
          exact every left (List.mem_cons_of_mem _ member)

/-- A coarser comparison is as good as a finer one when the scalars of each side have a
property under which the two comparisons coincide. -/
theorem agrees_of_every {coarse fine : Scalar → Scalar → Bool} {first second : Scalar → Prop}
    (refines : ∀ left right, first left → second right → coarse left right = true →
      fine left right = true)
    {left right : Json Scalar} (everyLeft : Every first left) (everyRight : Every second right)
    (agree : agrees coarse left right = true) : agrees fine left right = true := by
  induction everyRight generalizing left with
  | @scalar value holds =>
      cases everyLeft with
      | scalar known => exact refines _ value known holds agree
      | array _ => cases agree
      | object _ => cases agree
  | @array items _ each =>
      cases everyLeft with
      | scalar _ => cases agree
      | object _ => cases agree
      | @array others everyOther =>
          rw [agrees, items_agree_iff] at agree ⊢
          exact forall_two_mono each everyOther agree
  | @object entries _ each =>
      cases everyLeft with
      | scalar _ => cases agree
      | array _ => cases agree
      | @object others everyOther =>
          rw [agrees, Bool.and_eq_true, entries_agree_iff] at agree ⊢
          refine ⟨agree.1, ?_⟩
          intro entry member
          obtain ⟨found, located, same⟩ := agree.2 entry member
          have known := everyOther entry member
          exact ⟨found, located, each (entry.1, found) (mem_of_lookup located) known same⟩

mutual

theorem every_of_forall {property : Scalar → Prop} (holds : ∀ value, property value) :
    (tree : Json Scalar) → Every property tree
  | .scalar value => .scalar (holds value)
  | .array items => .array (every_item_of_forall holds items)
  | .object entries => .object (every_entry_of_forall holds entries)

theorem every_item_of_forall {property : Scalar → Prop} (holds : ∀ value, property value) :
    (items : List (Json Scalar)) → ∀ item ∈ items, Every property item
  | [], _, member => absurd member List.not_mem_nil
  | first :: rest, item, member => by
      rcases List.mem_cons.mp member with same | later
      · rw [same]
        exact every_of_forall holds first
      · exact every_item_of_forall holds rest item later

theorem every_entry_of_forall {property : Scalar → Prop} (holds : ∀ value, property value) :
    (entries : Entries Scalar) → ∀ entry ∈ entries, Every property entry.2
  | [], _, member => absurd member List.not_mem_nil
  | (_, value) :: rest, entry, member => by
      rcases List.mem_cons.mp member with same | later
      · rw [same]
        exact every_of_forall holds value
      · exact every_entry_of_forall holds rest entry later

end

theorem every_mono {first second : Scalar → Prop} (implies : ∀ value, first value → second value)
    {tree : Json Scalar} (every : Every first tree) : Every second tree := by
  induction every with
  | scalar holds => exact .scalar (implies _ holds)
  | array _ each => exact .array each
  | object _ each => exact .object each

theorem agrees_mono {fine coarse : Scalar → Scalar → Bool}
    (refines : ∀ left right, fine left right = true → coarse left right = true)
    {left right : Json Scalar} (agree : agrees fine left right = true) :
    agrees coarse left right = true := by
  have everyLeft : Every (fun _ => True) left := every_of_forall (fun _ => trivial) left
  have everyRight : Every (fun _ => True) right := every_of_forall (fun _ => trivial) right
  exact agrees_of_every (fun first second _ _ => refines first second) everyLeft everyRight agree

/-! ## Records with optional fields -/

/-- The object of a table that leaves out the fields without a value. -/
def present (table : List (String × Option (Json Scalar))) : Entries Scalar :=
  table.filterMap fun field => field.2.map fun value => (field.1, value)

theorem mem_present {table : List (String × Option (Json Scalar))} {key : String}
    {value : Json Scalar} :
    (key, value) ∈ present table ↔ (key, some value) ∈ table := by
  simp only [present, List.mem_filterMap, Option.map_eq_some_iff, Prod.mk.injEq]
  constructor
  · rintro ⟨⟨name, field⟩, member, content, filled, sameKey, sameValue⟩
    simp only at filled sameKey
    rw [← sameKey, ← sameValue, ← filled]
    exact member
  · intro member
    exact ⟨(key, some value), member, value, rfl, rfl, rfl⟩

theorem keys_present_sublist (table : List (String × Option (Json Scalar))) :
    (keys (present table)).Sublist (table.map Prod.fst) := by
  induction table with
  | nil => exact List.Sublist.slnil
  | cons field table induction =>
      obtain ⟨key, value⟩ := field
      cases value with
      | none => exact List.Sublist.cons key induction
      | some content => exact List.Sublist.cons_cons key induction

theorem present_distinct {table : List (String × Option (Json Scalar))}
    (distinct : (table.map Prod.fst).Nodup) : (keys (present table)).Nodup :=
  (keys_present_sublist table).nodup distinct

theorem every_present {property : Scalar → Prop} {table : List (String × Option (Json Scalar))}
    (each : ∀ field ∈ table, ∀ value ∈ field.2, Every property value) :
    Every property (.object (present table)) := by
  apply Every.object
  intro entry member
  exact each (entry.1, some entry.2) (mem_present.mp member) entry.2 rfl

theorem unique_keys_present {table : List (String × Option (Json Scalar))}
    (distinct : (table.map Prod.fst).Nodup)
    (each : ∀ field ∈ table, ∀ value ∈ field.2, UniqueKeys value) :
    UniqueKeys (.object (present table)) := by
  apply UniqueKeys.object (present_distinct distinct)
  intro entry member
  exact each (entry.1, some entry.2) (mem_present.mp member) entry.2 rfl

theorem lookup_present {table : List (String × Option (Json Scalar))}
    (distinct : (table.map Prod.fst).Nodup) (key : String) :
    (present table).lookup key = (table.lookup key).join := by
  induction table with
  | nil => rfl
  | cons field table induction =>
      obtain ⟨name, value⟩ := field
      obtain ⟨fresh, distinctRest⟩ := List.nodup_cons.mp distinct
      have rest := induction distinctRest
      by_cases same : key = name
      · subst same
        rw [List.lookup_cons_self]
        cases value with
        | some content => exact List.lookup_cons_self
        | none =>
            change (present table).lookup key = none
            rw [lookup_eq_none_iff]
            intro member
            exact fresh ((keys_present_sublist table).subset member)
      · rw [List.lookup_cons, beq_false_of_ne same]
        cases value with
        | none => exact rest
        | some content =>
            change ((name, content) :: present table).lookup key = _
            rw [List.lookup_cons, beq_false_of_ne same]
            exact rest

end Json

end KVTransferObservability.Library
