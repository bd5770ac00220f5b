import KVTransferObservability.Library.Dict

/-!
# Tables restricted to some of their entries

Two programs that handle the same stream, one of them only a part of it, keep tables
of which one is the restriction of the other. The rules say how the smaller table has
to follow an update of the larger one: with the same update if it concerns a kept
entry, not at all otherwise.
-/

namespace KVTransferObservability.Library

set_option autoImplicit false

universe u v

variable {Key : Type u} {Value : Type v}

/-- The entries of the whole table that are kept, and no others. -/
def Restricts [DecidableEq Key] (keep : Key → Value → Prop) (whole part : Dict Key Value) : Prop :=
  ∀ key value, part.lookup key = some value ↔ whole.lookup key = some value ∧ keep key value

namespace Restricts

variable [DecidableEq Key] {keep : Key → Value → Prop} {whole part : Dict Key Value}

theorem empty (keep : Key → Value → Prop) :
    Restricts keep (∅ : Dict Key Value) (∅ : Dict Key Value) := by
  intro key value
  simp

theorem found (restricts : Restricts keep whole part) {key : Key} {value : Value}
    (lookup : whole.lookup key = some value) (kept : keep key value) :
    part.lookup key = some value :=
  (restricts key value).mpr ⟨lookup, kept⟩

theorem mem_whole (restricts : Restricts keep whole part) {key : Key} (member : key ∈ part) :
    key ∈ whole := by
  obtain ⟨value, lookup⟩ := Dict.lookup_of_mem member
  exact Dict.mem_of_lookup ((restricts key value).mp lookup).1

theorem absent (restricts : Restricts keep whole part) {key : Key} (missing : key ∉ whole) :
    key ∉ part :=
  fun member => missing (restricts.mem_whole member)

/-- An entry that is not kept is absent from the part. -/
theorem dropped (restricts : Restricts keep whole part) {key : Key} {value : Value}
    (lookup : whole.lookup key = some value) (other : ¬ keep key value) : key ∉ part := by
  intro member
  obtain ⟨content, inPart⟩ := Dict.lookup_of_mem member
  obtain ⟨inWhole, kept⟩ := (restricts key content).mp inPart
  rw [lookup] at inWhole
  cases inWhole
  exact other kept

theorem size_le (restricts : Restricts keep whole part) : part.size ≤ whole.size := by
  apply Dict.size_le_of_injection part whole id
  · intro first _ second _ same
    exact same
  · intro key member
    exact restricts.mem_whole member

/-! ### Updates -/

theorem insert_kept (restricts : Restricts keep whole part) (key : Key) (value : Value)
    (kept : keep key value) :
    Restricts keep (whole.insert key value) (part.insert key value) := by
  intro other content
  rw [Dict.lookup_insert_ite, Dict.lookup_insert_ite]
  by_cases same : other = key
  · subst same
    rw [if_pos rfl, if_pos rfl]
    constructor
    · intro equal
      cases equal
      exact ⟨rfl, kept⟩
    · exact And.left
  · rw [if_neg same, if_neg same]
    exact restricts other content

theorem insert_dropped (restricts : Restricts keep whole part) (key : Key) (value : Value)
    (fresh : key ∉ whole) (other : ¬ keep key value) :
    Restricts keep (whole.insert key value) part := by
  intro name content
  rw [Dict.lookup_insert_ite]
  by_cases same : name = key
  · subst same
    rw [if_pos rfl]
    constructor
    · intro inPart
      exact absurd (Dict.mem_of_lookup inPart) (restricts.absent fresh)
    · rintro ⟨equal, kept⟩
      cases equal
      exact absurd kept other
  · rw [if_neg same]
    exact restricts name content

theorem erase_kept (restricts : Restricts keep whole part) (key : Key) :
    Restricts keep (whole.erase key) (part.erase key) := by
  intro other content
  rw [Dict.lookup_erase_ite, Dict.lookup_erase_ite]
  by_cases same : other = key
  · rw [if_pos same, if_pos same]
    simp
  · rw [if_neg same, if_neg same]
    exact restricts other content

theorem erase_dropped (restricts : Restricts keep whole part) (key : Key) (missing : key ∉ part) :
    Restricts keep (whole.erase key) part := by
  intro other content
  rw [Dict.lookup_erase_ite]
  by_cases same : other = key
  · subst same
    rw [if_pos rfl, Finmap.lookup_eq_none.mpr missing]
    simp
  · rw [if_neg same]
    exact restricts other content

theorem erase_all_kept (restricts : Restricts keep whole part) (keys : List Key) :
    Restricts keep (whole.eraseAll keys) (part.eraseAll keys) := by
  intro other content
  rw [Dict.lookup_erase_all, Dict.lookup_erase_all]
  by_cases listed : other ∈ keys
  · rw [if_pos listed, if_pos listed]
    simp
  · rw [if_neg listed, if_neg listed]
    exact restricts other content

theorem erase_all_dropped (restricts : Restricts keep whole part) (keys : List Key)
    (missing : ∀ key ∈ keys, key ∉ part) : Restricts keep (whole.eraseAll keys) part := by
  intro other content
  rw [Dict.lookup_erase_all]
  by_cases listed : other ∈ keys
  · rw [if_pos listed, Finmap.lookup_eq_none.mpr (missing other listed)]
    simp
  · rw [if_neg listed]
    exact restricts other content

end Restricts

end KVTransferObservability.Library
