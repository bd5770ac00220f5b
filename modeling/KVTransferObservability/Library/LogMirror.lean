import KVTransferObservability.Library.Dict

/-!
# Tables that mirror a log

A table that programs keep beside a log often holds a key exactly while the log has
opened it and not closed it again. `Mirrors` says this with the value each opening
item stands for; the rules say how the table has to follow one more item.
-/

namespace KVTransferObservability.Library

set_option autoImplicit false

universe u v

variable {Key : Type u} {Value : Type u} {Item : Type v}

/-- The key is open with the value: some item opened it and none closed it. -/
def Mirrors [DecidableEq Key] (opens : Key → Value → Item → Prop) (closes : Key → Item → Prop)
    (table : Dict Key Value) (log : List Item) : Prop :=
  ∀ key value, table.lookup key = some value ↔
    (∃ item ∈ log, opens key value item) ∧ ∀ other ∈ log, ¬ closes key other

namespace Mirrors

variable [DecidableEq Key] {opens : Key → Value → Item → Prop} {closes : Key → Item → Prop}
variable {table : Dict Key Value} {log : List Item}

theorem empty (opens : Key → Value → Item → Prop) (closes : Key → Item → Prop) :
    Mirrors opens closes (∅ : Dict Key Value) [] := by
  intro key value
  simp

theorem mem_iff (mirrors : Mirrors opens closes table log) (key : Key) :
    key ∈ table ↔
      (∃ value, ∃ item ∈ log, opens key value item) ∧ ∀ other ∈ log, ¬ closes key other := by
  constructor
  · intro member
    obtain ⟨value, found⟩ := Dict.lookup_of_mem member
    obtain ⟨opened, unclosed⟩ := (mirrors key value).mp found
    exact ⟨⟨value, opened⟩, unclosed⟩
  · rintro ⟨⟨value, opened⟩, unclosed⟩
    exact Dict.mem_of_lookup ((mirrors key value).mpr ⟨opened, unclosed⟩)

/-- An item that opens nothing: the keys it closes leave the table. -/
theorem close (mirrors : Mirrors opens closes table log) (item : Item)
    (opensNothing : ∀ key value, ¬ opens key value item) (next : Dict Key Value)
    (closed : ∀ key, closes key item → next.lookup key = none)
    (kept : ∀ key, ¬ closes key item → next.lookup key = table.lookup key) :
    Mirrors opens closes next (log ++ [item]) := by
  intro key value
  by_cases closing : closes key item
  · rw [closed key closing]
    constructor
    · intro found
      cases found
    · rintro ⟨_, unclosed⟩
      exact absurd closing (unclosed item (by simp))
  · rw [kept key closing, mirrors key value]
    simp [or_and_right, exists_or, opensNothing, or_imp, forall_and, closing]

theorem frame (mirrors : Mirrors opens closes table log) (item : Item)
    (opensNothing : ∀ key value, ¬ opens key value item) (closesNothing : ∀ key, ¬ closes key item) :
    Mirrors opens closes table (log ++ [item]) :=
  mirrors.close item opensNothing table (fun key closing => absurd closing (closesNothing key))
    (fun _ _ => rfl)

/-- An item that opens one key, which was neither open nor closed before. -/
theorem insert (mirrors : Mirrors opens closes table log) (item : Item) (key : Key) (value : Value)
    (opening : opens key value item)
    (only : ∀ other content, opens other content item → other = key ∧ content = value)
    (closesNothing : ∀ other, ¬ closes other item)
    (unopened : ∀ earlier ∈ log, ∀ content, ¬ opens key content earlier)
    (unclosed : ∀ earlier ∈ log, ¬ closes key earlier) :
    Mirrors opens closes (table.insert key value) (log ++ [item]) := by
  intro other content
  rw [Dict.lookup_insert_ite]
  by_cases same : other = key
  · subst same
    rw [if_pos rfl]
    constructor
    · intro found
      cases found
      refine ⟨⟨item, by simp, opening⟩, ?_⟩
      intro earlier member
      rcases List.mem_append.mp member with before | here
      · exact unclosed earlier before
      · rw [List.mem_singleton.mp here]
        exact closesNothing other
    · rintro ⟨⟨earlier, member, opened⟩, _⟩
      rcases List.mem_append.mp member with before | here
      · exact absurd opened (unopened earlier before content)
      · rw [List.mem_singleton.mp here] at opened
        rw [(only other content opened).2]
  · rw [if_neg same, mirrors other content]
    have apart : ¬ opens other content item := fun opened => same (only other content opened).1
    simp [or_and_right, exists_or, apart, or_imp, forall_and, closesNothing]

end Mirrors

end KVTransferObservability.Library
