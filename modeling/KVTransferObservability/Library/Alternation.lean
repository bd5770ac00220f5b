import Mathlib.Data.List.Basic
import Mathlib.Data.List.Induction

/-!
# Lists that alternate between opening and closing items

A log grows at its end, so the relation does too; the second argument is the
item that is still open. `alternates_pairs` reads a log from its beginning.
-/

namespace KVTransferObservability.Library

set_option autoImplicit false

universe u

variable {Item : Type u}

inductive Alternates (opens : Item → Prop) (closes : Item → Item → Prop) :
    List Item → Option Item → Prop
  | empty : Alternates opens closes [] none
  | opened (items : List Item) (item : Item) (before : Alternates opens closes items none)
      (opening : opens item) : Alternates opens closes (items ++ [item]) (some item)
  | closed (items : List Item) (first item : Item)
      (before : Alternates opens closes items (some first)) (closing : closes first item) :
      Alternates opens closes (items ++ [item]) none

/-- Finished pairs, each opened and then closed, and at most one open item. -/
theorem alternates_pairs (opens : Item → Prop) (closes : Item → Item → Prop)
    (items : List Item) (last : Option Item) (alternates : Alternates opens closes items last) :
    ∃ pairs : List (Item × Item),
      items = pairs.flatMap (fun pair => [pair.1, pair.2]) ++ last.toList ∧
      (∀ pair ∈ pairs, opens pair.1 ∧ closes pair.1 pair.2) ∧ ∀ item ∈ last, opens item := by
  induction alternates with
  | empty =>
      refine ⟨[], rfl, ?_, ?_⟩
      · intro pair member
        cases member
      · intro item member
        cases member
  | opened items item before opening induction =>
      obtain ⟨pairs, split, finished, _⟩ := induction
      refine ⟨pairs, ?_, finished, ?_⟩
      · rw [split]
        simp
      · intro other member
        cases member
        exact opening
  | closed items first item before closing induction =>
      obtain ⟨pairs, split, finished, opening⟩ := induction
      refine ⟨pairs ++ [(first, item)], ?_, ?_, ?_⟩
      · rw [split]
        simp
      · intro pair member
        rcases List.mem_append.mp member with earlier | final
        · exact finished pair earlier
        · rw [List.mem_singleton.mp final]
          exact ⟨opening first rfl, closing⟩
      · intro other member
        cases member

theorem alternates_snoc (opens : Item → Prop) (closes : Item → Item → Prop) (items : List Item)
    (item : Item) (last : Option Item) (alternates : Alternates opens closes (items ++ [item]) last) :
    ∃ earlier, Alternates opens closes items earlier := by
  generalize whole : items ++ [item] = log at alternates
  cases alternates with
  | empty => exact absurd whole (List.append_ne_nil_of_right_ne_nil items (List.cons_ne_nil _ _))
  | opened before added earlier opening =>
      obtain ⟨rfl, _⟩ := List.append_inj' whole rfl
      exact ⟨none, earlier⟩
  | closed before first added earlier closing =>
      obtain ⟨rfl, _⟩ := List.append_inj' whole rfl
      exact ⟨some first, earlier⟩

/-- An alternating log alternated at every earlier time. -/
theorem alternates_initial (opens : Item → Prop) (closes : Item → Item → Prop)
    (before after : List Item) (last : Option Item)
    (alternates : Alternates opens closes (before ++ after) last) :
    ∃ earlier, Alternates opens closes before earlier := by
  induction after using List.reverseRecOn generalizing last with
  | nil =>
      rw [List.append_nil] at alternates
      exact ⟨last, alternates⟩
  | append_singleton after item induction =>
      rw [← List.append_assoc] at alternates
      obtain ⟨earlier, shorter⟩ :=
        alternates_snoc opens closes (before ++ after) item last alternates
      exact induction earlier shorter

end KVTransferObservability.Library
