import Mathlib.Data.List.Basic

/-!
# The last item of a kind before a position

In a log that only grows, "the last item satisfying `kind` before `limit`" does
not change once the log has reached `limit`. This is what lets a step-by-step
invariant speak about positions of the finished log.
-/

namespace KVTransferObservability.Library

set_option autoImplicit false

universe u

variable {Item : Type u}

structure LastAt (kind : Item → Prop) (items : List Item) (limit position : Nat) (item : Item) :
    Prop where
  before : position < limit
  here : items[position]? = some item
  isKind : kind item
  last : ∀ later other, position < later → later < limit → items[later]? = some other →
    ¬ kind other

namespace LastAt

variable {kind : Item → Prop} {items : List Item} {limit position : Nat} {item : Item}

theorem position_lt (found : LastAt kind items limit position item) :
    position < items.length :=
  (List.getElem?_eq_some_iff.mp found.here).1

theorem append (found : LastAt kind items limit position item) (more : List Item)
    (reached : limit ≤ items.length) : LastAt kind (items ++ more) limit position item where
  before := found.before
  here := by
    rw [List.getElem?_append_left found.position_lt]
    exact found.here
  isKind := found.isKind
  last := by
    intro later other after inside there
    rw [List.getElem?_append_left (by omega)] at there
    exact found.last later other after inside there

theorem of_append {more : List Item}
    (found : LastAt kind (items ++ more) limit position item) (reached : limit ≤ items.length) :
    LastAt kind items limit position item where
  before := found.before
  here := by
    have here := found.here
    have before := found.before
    rw [List.getElem?_append_left (by omega)] at here
    exact here
  isKind := found.isKind
  last := by
    intro later other after inside there
    apply found.last later other after inside
    rw [List.getElem?_append_left (by omega)]
    exact there

/-- An item of another kind at the end leaves the last one where it was. -/
theorem snoc (found : LastAt kind items items.length position item) (next : Item)
    (other : ¬ kind next) :
    LastAt kind (items ++ [next]) (items ++ [next]).length position item where
  before := by
    have before := found.before
    rw [List.length_append, List.length_singleton]
    omega
  here := (found.append [next] (Nat.le_refl _)).here
  isKind := found.isKind
  last := by
    intro later item after inside there
    rw [List.length_append, List.length_singleton] at inside
    rcases Nat.lt_or_ge later items.length with old | new
    · exact (found.append [next] (Nat.le_refl _)).last later item after old there
    · have position : later = items.length := by omega
      rw [position, List.getElem?_concat_length] at there
      cases there
      exact other

theorem snoc_new (next : Item) (isKind : kind next) :
    LastAt kind (items ++ [next]) (items ++ [next]).length items.length next where
  before := by simp
  here := List.getElem?_concat_length
  isKind := isKind
  last := by
    intro later item after inside there
    rw [List.length_append, List.length_singleton] at inside
    omega

/-- The end of the log is the only place where the last item can change. -/
theorem of_snoc {next : Item}
    (found : LastAt kind (items ++ [next]) (items ++ [next]).length position item) :
    (position = items.length ∧ item = next) ∨
      (¬ kind next ∧ LastAt kind items items.length position item) := by
  rcases Nat.lt_or_ge position items.length with old | new
  · have other : ¬ kind next :=
      found.last items.length next old (by simp) List.getElem?_concat_length
    have shorter : LastAt kind (items ++ [next]) items.length position item := by
      refine ⟨old, found.here, found.isKind, ?_⟩
      intro later item after inside there
      exact found.last later item after (by simp; omega) there
    exact Or.inr ⟨other, shorter.of_append (Nat.le_refl _)⟩
  · have before := found.before
    rw [List.length_append, List.length_singleton] at before
    have position : position = items.length := by omega
    have here := found.here
    rw [position, List.getElem?_concat_length] at here
    exact Or.inl ⟨position, (Option.some.inj here).symm⟩

theorem unique {other : Nat} {second : Item}
    (found : LastAt kind items limit position item)
    (again : LastAt kind items limit other second) : position = other ∧ item = second := by
  have same : position = other := by
    rcases Nat.lt_trichotomy position other with earlier | same | later
    · exact absurd again.isKind (found.last other second earlier again.before again.here)
    · exact same
    · exact absurd found.isKind (again.last position item later found.before found.here)
  have here := found.here
  rw [same, again.here] at here
  exact ⟨same, (Option.some.inj here).symm⟩

end LastAt

/-- An item of a log extended by one is an old item or the new one. -/
theorem getElem_snoc {items : List Item} {next item : Item} {position : Nat}
    (here : (items ++ [next])[position]? = some item) :
    (position < items.length ∧ items[position]? = some item) ∨
      (position = items.length ∧ item = next) := by
  rcases Nat.lt_or_ge position items.length with old | new
  · rw [List.getElem?_append_left old] at here
    exact Or.inl ⟨old, here⟩
  · have inside := (List.getElem?_eq_some_iff.mp here).1
    rw [List.length_append, List.length_singleton] at inside
    have position : position = items.length := by omega
    rw [position, List.getElem?_concat_length] at here
    exact Or.inr ⟨position, (Option.some.inj here).symm⟩

end KVTransferObservability.Library
