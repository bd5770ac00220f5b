import Mathlib.Data.Finmap
import Mathlib.Data.Finset.Card
import Mathlib.Data.Finset.Image

/-!
# Finite dictionaries

A Python `dict` is a finite map with one value per key. Mathlib's `Finmap` is
that object; this module adds what programs ask of it besides lookup: how many
entries it has, how an update changes that number, and bulk deletion.
-/

namespace KVTransferObservability.Library

set_option autoImplicit false

universe u v

abbrev Dict (Key : Type u) (Value : Type v) := Finmap fun _ : Key => Value

namespace Dict

variable {Key : Type u} {Value : Type v}

/-- `len(table)`. -/
def size (table : Dict Key Value) : Nat := table.keys.card

theorem size_empty : size (∅ : Dict Key Value) = 0 := by
  simp [size]

/-- The number of entries is the number of keys, whichever way the key set is
described. -/
theorem size_eq_card (table : Dict Key Value) (keys : Finset Key)
    (same : ∀ key, key ∈ table ↔ key ∈ keys) : size table = keys.card := by
  have equal : table.keys = keys := by
    ext key
    rw [Finmap.mem_keys, same]
  rw [size, equal]

/-- A table whose keys inject into the keys of another is no larger. -/
theorem size_le_of_injection {Other : Type u} {Item : Type v}
    (left : Dict Key Value) (right : Dict Other Item) (translate : Key → Other)
    (injective : ∀ first ∈ left, ∀ second ∈ left,
      translate first = translate second → first = second)
    (maps : ∀ key ∈ left, translate key ∈ right) : size left ≤ size right := by
  apply Finset.card_le_card_of_injOn translate
  · intro key member
    exact Finmap.mem_keys.mpr (maps key (Finmap.mem_keys.mp member))
  · intro first firstMember second secondMember same
    exact injective first (Finmap.mem_keys.mp firstMember) second
      (Finmap.mem_keys.mp secondMember) same

variable [DecidableEq Key]

theorem lookup_insert_ite (table : Dict Key Value) (key other : Key) (value : Value) :
    (table.insert key value).lookup other =
      if other = key then some value else table.lookup other := by
  by_cases same : other = key
  · subst same
    simp
  · simp [same, Finmap.lookup_insert_of_ne table same]

theorem lookup_erase_ite (table : Dict Key Value) (key other : Key) :
    (table.erase key).lookup other = if other = key then none else table.lookup other := by
  by_cases same : other = key
  · subst same
    simp
  · simp [same, Finmap.lookup_erase_ne same]

theorem keys_insert (table : Dict Key Value) (key : Key) (value : Value) :
    (table.insert key value).keys = insert key table.keys := by
  ext other
  simp [Finmap.mem_keys, Finmap.mem_insert]

theorem size_insert_fresh (table : Dict Key Value) (key : Key) (value : Value)
    (fresh : key ∉ table) : size (table.insert key value) = size table + 1 := by
  rw [size, keys_insert, Finset.card_insert_of_notMem (by simpa [Finmap.mem_keys] using fresh)]
  rfl

theorem size_insert_le (table : Dict Key Value) (key : Key) (value : Value) :
    size (table.insert key value) ≤ size table + 1 := by
  rw [size, keys_insert]
  exact Finset.card_insert_le key table.keys

theorem size_erase_le (table : Dict Key Value) (key : Key) :
    size (table.erase key) ≤ size table := by
  rw [size, Finmap.keys_erase]
  exact Finset.card_erase_le

theorem mem_of_lookup {table : Dict Key Value} {key : Key} {value : Value}
    (found : table.lookup key = some value) : key ∈ table :=
  Finmap.mem_of_lookup_eq_some found

theorem lookup_of_mem {table : Dict Key Value} {key : Key} (present : key ∈ table) :
    ∃ value, table.lookup key = some value :=
  Finmap.mem_iff.mp present

/-- `for key in keys: table.pop(key, None)`. -/
def eraseAll (table : Dict Key Value) (keys : List Key) : Dict Key Value :=
  keys.foldl (fun current key => current.erase key) table

theorem lookup_erase_all (table : Dict Key Value) (keys : List Key) (other : Key) :
    (eraseAll table keys).lookup other = if other ∈ keys then none else table.lookup other := by
  induction keys generalizing table with
  | nil => simp [eraseAll]
  | cons key keys induction =>
      have tail := induction (table.erase key)
      simp only [eraseAll, List.foldl_cons] at tail ⊢
      rw [tail, lookup_erase_ite]
      by_cases later : other ∈ keys <;> by_cases now : other = key <;> simp [later, now]

theorem size_erase_all_le (table : Dict Key Value) (keys : List Key) :
    size (eraseAll table keys) ≤ size table := by
  induction keys generalizing table with
  | nil => exact Nat.le_refl _
  | cons key keys induction =>
      exact (induction (table.erase key)).trans (size_erase_le table key)

end Dict

end KVTransferObservability.Library
