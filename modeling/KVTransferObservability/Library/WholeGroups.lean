import Mathlib.Data.Finset.Card
import Mathlib.Data.Finset.Image
import Mathlib.Data.Multiset.Filter

/-!
# Parts that keep whole groups

A part of a collection may miss items. It keeps whole groups if no group of which it
has an item misses one. Then a missing item shows in the number of groups.
-/

namespace KVTransferObservability.Library

set_option autoImplicit false

universe u v

variable {Item : Type u} {Key : Type v} [DecidableEq Key]

def groupOf (key : Item → Key) (items : Multiset Item) (value : Key) : Multiset Item :=
  items.filter fun item => key item = value

def groupKeys (key : Item → Key) (items : Multiset Item) : Finset Key :=
  (items.map key).toFinset

def KeepsGroups (key : Item → Key) (part whole : Multiset Item) : Prop :=
  ∀ item ∈ part, groupOf key part (key item) = groupOf key whole (key item)

variable {key : Item → Key} {part whole : Multiset Item}

theorem mem_group_keys (value : Key) :
    value ∈ groupKeys key whole ↔ ∃ item ∈ whole, key item = value := by
  rw [groupKeys, Multiset.mem_toFinset, Multiset.mem_map]

theorem group_keys_subset (smaller : part ≤ whole) : groupKeys key part ⊆ groupKeys key whole := by
  intro value member
  obtain ⟨item, listed, same⟩ := (mem_group_keys value).mp member
  exact (mem_group_keys value).mpr ⟨item, Multiset.mem_of_le smaller listed, same⟩

variable (key) in
theorem group_count_le (smaller : part ≤ whole) :
    (groupKeys key part).card ≤ (groupKeys key whole).card :=
  Finset.card_le_card (group_keys_subset smaller)

theorem KeepsGroups.eq_of_count [DecidableEq Item] (keeps : KeepsGroups key part whole)
    (smaller : part ≤ whole) (counted : (groupKeys key whole).card ≤ (groupKeys key part).card) :
    part = whole := by
  have keys : groupKeys key part = groupKeys key whole :=
    Finset.eq_of_subset_of_card_le (group_keys_subset smaller) counted
  ext item
  by_cases listed : item ∈ whole
  · have known : key item ∈ groupKeys key part := by
      rw [keys]
      exact (mem_group_keys _).mpr ⟨item, listed, rfl⟩
    obtain ⟨other, member, same⟩ := (mem_group_keys _).mp known
    have groups := congrArg (Multiset.count item) (keeps other member)
    simpa only [same, groupOf, Multiset.count_filter, if_true] using groups
  · rw [Multiset.count_eq_zero_of_notMem listed,
      Multiset.count_eq_zero_of_notMem fun member => listed (Multiset.mem_of_le smaller member)]

end KVTransferObservability.Library
