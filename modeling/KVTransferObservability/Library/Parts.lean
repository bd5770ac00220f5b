import Mathlib.Data.List.Forall2
import Mathlib.Data.List.Perm.Basic

/-!
# Lists in parts

A list that is read part by part: what relates the parts relates the whole, and the order
of the parts does not show in a selection that only one of them has.
-/

namespace KVTransferObservability.Library

set_option autoImplicit false

variable {Item Value : Type}

/-- A list related to a list in parts is in parts itself. -/
theorem forall_two_flatten_iff {related : Item → Value → Prop} (parts : List (List Item))
    (values : List Value) :
    List.Forall₂ related parts.flatten values ↔
      ∃ others, List.Forall₂ (List.Forall₂ related) parts others ∧ others.flatten = values := by
  constructor
  · intro pairs
    induction parts generalizing values with
    | nil =>
        cases pairs
        exact ⟨[], .nil, rfl⟩
    | cons part parts induction =>
        rw [List.flatten_cons] at pairs
        have head : List.Forall₂ related part (values.take part.length) := by
          simpa using List.forall₂_take part.length pairs
        have tail : List.Forall₂ related parts.flatten (values.drop part.length) := by
          simpa using List.forall₂_drop part.length pairs
        obtain ⟨others, rest, whole⟩ := induction (values.drop part.length) tail
        refine ⟨values.take part.length :: others, .cons head rest, ?_⟩
        rw [List.flatten_cons, whole, List.take_append_drop]
  · intro split
    obtain ⟨others, pairs, whole⟩ := split
    rw [← whole]
    exact List.rel_flatten pairs

/-- Two parts of which one is empty can be exchanged. -/
def OneEmpty (first second : List Item) : Prop := first = [] ∨ second = []

theorem one_empty_symmetric {first second : List Item} (apart : OneEmpty first second) :
    OneEmpty second first :=
  apart.symm

/-- The order of parts does not matter when at most one has an item. -/
theorem flatten_reordered {parts reordered : List (List Item)} (permuted : parts.Perm reordered)
    (apart : parts.Pairwise OneEmpty) : parts.flatten = reordered.flatten := by
  induction permuted with
  | nil => rfl
  | cons part _ induction =>
      rw [List.flatten_cons, List.flatten_cons, induction (List.pairwise_cons.mp apart).2]
  | swap first second rest =>
      have exchanged := (List.pairwise_cons.mp apart).1 first List.mem_cons_self
      rcases exchanged with empty | empty
      · simp [empty]
      · simp [empty]
  | trans one _ firstStep secondStep =>
      exact (firstStep apart).trans (secondStep (apart.perm one one_empty_symmetric))

end KVTransferObservability.Library
