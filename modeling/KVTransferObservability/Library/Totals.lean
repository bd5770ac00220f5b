import Mathlib.Algebra.Ring.Nat
import Mathlib.Data.List.Basic

/-!
# Totals over a list of parties

Parties that take steps one at a time are a list; a step replaces one of them, adds
one or removes one. A quantity that is spread over them is a total, and each of these
changes moves it by the part of the party concerned.
-/

namespace KVTransferObservability.Library.Totals

set_option autoImplicit false

universe u

variable {Item : Type u}

def total (part : Item → Nat) (items : List Item) : Nat := (items.map part).sum

@[simp] theorem total_nil (part : Item → Nat) : total part [] = 0 := rfl

@[simp] theorem total_cons (part : Item → Nat) (item : Item) (items : List Item) :
    total part (item :: items) = part item + total part items := by
  simp [total]

theorem total_snoc (part : Item → Nat) (items : List Item) (item : Item) :
    total part (items ++ [item]) = total part items + part item := by
  simp [total]

theorem total_set (part : Item → Nat) (items : List Item) (place : Nat) (old new : Item)
    (found : items[place]? = some old) :
    total part (items.set place new) + part old = total part items + part new := by
  induction items generalizing place with
  | nil => cases found
  | cons item items induction =>
      cases place with
      | zero =>
          cases found
          simp only [List.set_cons_zero, total_cons]
          omega
      | succ place =>
          have rest := induction place found
          simp only [List.set_cons_succ, total_cons]
          omega

theorem total_erase (part : Item → Nat) (items : List Item) (place : Nat) (old : Item)
    (found : items[place]? = some old) :
    total part (items.eraseIdx place) + part old = total part items := by
  induction items generalizing place with
  | nil => cases found
  | cons item items induction =>
      cases place with
      | zero =>
          cases found
          simp only [List.eraseIdx_cons_zero, total_cons]
          omega
      | succ place =>
          have rest := induction place found
          simp only [List.eraseIdx_cons_succ, total_cons]
          omega

theorem total_eq_zero (part : Item → Nat) (items : List Item)
    (none : ∀ item ∈ items, part item = 0) : total part items = 0 := by
  induction items with
  | nil => rfl
  | cons item items induction =>
      rw [total_cons, none item List.mem_cons_self,
        induction fun other member => none other (List.mem_cons_of_mem item member)]

theorem total_congr (first second : Item → Nat) (items : List Item)
    (same : ∀ item ∈ items, first item = second item) :
    total first items = total second items := by
  induction items with
  | nil => rfl
  | cons item items induction =>
      rw [total_cons, total_cons, same item List.mem_cons_self,
        induction fun other member => same other (List.mem_cons_of_mem item member)]

end KVTransferObservability.Library.Totals
