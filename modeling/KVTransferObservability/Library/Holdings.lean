import Mathlib.Data.List.Basic

/-!
# Names held in a shared store

Several parties share a store of named entries. Each holds some names, no two hold the
same one, and everything else is as it was at the start. A party may take a name that is
free, and change or give back a name it holds; it never learns what the others do. The
partition is kept by every such step, whatever the order.
-/

namespace KVTransferObservability.Library

set_option autoImplicit false

universe u v

variable {Name : Type u} {Entry : Type v}

/-- What a party holds: the entries of its names. -/
abbrev Holding (Name : Type u) (Entry : Type v) := Name → Option Entry

/-- Two parties hold no name in common. -/
def Holding.Apart (first second : Holding Name Entry) : Prop :=
  ∀ name, first name = none ∨ second name = none

/-- The store has what it had at the start and what the parties hold, and no name has two
owners. -/
structure Partition (base store : Holding Name Entry) (holdings : List (Holding Name Entry)) :
    Prop where
  kept : ∀ name entry, base name = some entry → store name = some entry
  reserved : ∀ name entry, base name = some entry → ∀ holding ∈ holdings, holding name = none
  held : ∀ holding ∈ holdings, ∀ name entry, holding name = some entry → store name = some entry
  made : ∀ name entry, store name = some entry →
    base name = some entry ∨ ∃ holding ∈ holdings, holding name = some entry
  apart : holdings.Pairwise Holding.Apart

/-- A step of one party: at every name it leaves the store and its own holding alone, or it
finds there what it holds (nothing, when it takes a free name) and leaves there what it
holds afterwards. -/
def Changes (old new : Holding Name Entry) (store next : Holding Name Entry) : Prop :=
  ∀ name, (new name = old name ∧ next name = store name) ∨
    (store name = old name ∧ next name = new name)

namespace Partition

variable {base store next : Holding Name Entry} {holdings : List (Holding Name Entry)}

theorem initial (base : Holding Name Entry) : Partition base base [] where
  kept _ _ found := found
  reserved _ _ _ _ member := nomatch member
  held _ member := nomatch member
  made _ _ found := .inl found
  apart := .nil

/-- A new party comes with nothing. -/
theorem join (partition : Partition base store holdings) (newcomer : Holding Name Entry)
    (nothing : ∀ name, newcomer name = none) :
    Partition base store (holdings ++ [newcomer]) where
  kept := partition.kept
  reserved name entry found holding member := by
    rcases List.mem_append.mp member with old | new
    · exact partition.reserved name entry found holding old
    · rw [List.mem_singleton.mp new]
      exact nothing name
  held holding member name entry found := by
    rcases List.mem_append.mp member with old | new
    · exact partition.held holding old name entry found
    · rw [List.mem_singleton.mp new, nothing name] at found
      cases found
  made name entry found :=
    (partition.made name entry found).imp_right fun ⟨holding, member, same⟩ =>
      ⟨holding, List.mem_append_left _ member, same⟩
  apart := by
    refine List.pairwise_append.mpr ⟨partition.apart, List.pairwise_singleton _ _, ?_⟩
    intro first _ second member name
    rw [List.mem_singleton.mp member]
    exact .inr (nothing name)

/-- The parties at two places hold no name in common. -/
theorem apart_at (partition : Partition base store holdings) {first second : Nat}
    {left right : Holding Name Entry} (different : first ≠ second)
    (here : holdings[first]? = some left) (there : holdings[second]? = some right) :
    left.Apart right := by
  obtain ⟨firstBound, rfl⟩ := List.getElem?_eq_some_iff.mp here
  obtain ⟨secondBound, rfl⟩ := List.getElem?_eq_some_iff.mp there
  rcases Nat.lt_or_gt_of_ne different with before | after
  · exact List.pairwise_iff_getElem.mp partition.apart first second firstBound secondBound before
  · intro name
    exact (List.pairwise_iff_getElem.mp partition.apart second first secondBound firstBound after
      name).symm

/-- A step of the party at a place keeps the partition. -/
theorem change (partition : Partition base store holdings) {place : Nat}
    {old new : Holding Name Entry} (found : holdings[place]? = some old)
    (changes : Changes old new store next) :
    Partition base next (holdings.set place new) := by
  have member : old ∈ holdings := List.mem_of_getElem? found
  have bound : place < holdings.length := (List.getElem?_eq_some_iff.mp found).1
  -- What another party holds is not what this one finds, so it stays in the store.
  have others (other : Nat) (holding : Holding Name Entry) (different : place ≠ other)
      (there : holdings[other]? = some holding) (name : Name) (entry : Entry)
      (holds : holding name = some entry) : next name = some entry ∧ new name = none := by
    have stored := partition.held holding (List.mem_of_getElem? there) name entry holds
    have free : old name = none := by
      rcases partition.apart_at different found there name with mine | theirs
      · exact mine
      · rw [theirs] at holds
        cases holds
    rcases changes name with ⟨sameHolding, sameStore⟩ | ⟨finds, _⟩
    · exact ⟨sameStore.trans stored, sameHolding.trans free⟩
    · rw [stored, free] at finds
      cases finds
  have based (name : Name) (entry : Entry) (found : base name = some entry) :
      next name = some entry ∧ new name = none := by
    have stored := partition.kept name entry found
    have free := partition.reserved name entry found old member
    rcases changes name with ⟨sameHolding, sameStore⟩ | ⟨finds, _⟩
    · exact ⟨sameStore.trans stored, sameHolding.trans free⟩
    · rw [stored, free] at finds
      cases finds
  refine ⟨fun name entry found => (based name entry found).1, ?_, ?_, ?_, ?_⟩
  · intro name entry found holding listed
    rcases List.mem_or_eq_of_mem_set listed with other | same
    · exact partition.reserved name entry found holding other
    · rw [same]
      exact (based name entry found).2
  · intro holding listed name entry holds
    obtain ⟨other, there⟩ := List.mem_iff_getElem?.mp listed
    by_cases same : place = other
    · subst same
      rw [List.getElem?_set_self bound] at there
      cases there
      rcases changes name with ⟨sameHolding, sameStore⟩ | ⟨_, leaves⟩
      · rw [sameStore]
        exact partition.held old member name entry (sameHolding ▸ holds)
      · rw [leaves]
        exact holds
    · rw [List.getElem?_set_ne same] at there
      exact (others other holding same there name entry holds).1
  · intro name entry stored
    rcases changes name with ⟨sameHolding, sameStore⟩ | ⟨_, leaves⟩
    · rw [sameStore] at stored
      rcases partition.made name entry stored with atStart | ⟨holding, listed, holds⟩
      · exact .inl atStart
      · obtain ⟨other, there⟩ := List.mem_iff_getElem?.mp listed
        right
        by_cases same : place = other
        · subst same
          rw [found] at there
          cases there
          exact ⟨new, List.mem_of_getElem? (List.getElem?_set_self bound),
            sameHolding.trans holds⟩
        · refine ⟨holding, List.mem_of_getElem? (i := other) ?_, holds⟩
          rw [List.getElem?_set_ne same]
          exact there
    · rw [leaves] at stored
      exact .inr ⟨new, List.mem_of_getElem? (List.getElem?_set_self bound), stored⟩
  · refine List.pairwise_iff_getElem.mpr ?_
    intro first second firstBound secondBound before name
    rw [List.length_set] at firstBound secondBound
    have free (other : Nat) (otherBound : other < holdings.length) (different : place ≠ other) :
        holdings[other] name = none ∨ new name = none := by
      cases holds : holdings[other] name with
      | none => exact .inl rfl
      | some entry =>
          exact .inr (others other _ different (List.getElem?_eq_getElem otherBound) name entry
            holds).2
    rw [List.getElem_set, List.getElem_set]
    by_cases isFirst : place = first
    · have isSecond : place ≠ second := by omega
      rw [if_pos isFirst, if_neg isSecond]
      exact (free second secondBound isSecond).symm
    · rw [if_neg isFirst]
      by_cases isSecond : place = second
      · rw [if_pos isSecond]
        exact free first firstBound isFirst
      · rw [if_neg isSecond]
        exact List.pairwise_iff_getElem.mp partition.apart first second firstBound secondBound
          before name

end Partition

end KVTransferObservability.Library
