import Mathlib.Data.List.Basic
import Mathlib.Data.List.Forall2
import Mathlib.Data.List.Induction
import Mathlib.Data.List.Nodup

/-!
# Checkers that read a log once

A checker folds over a log and may stop with an error. If its state tracks the log
read so far, it accepts exactly the logs in which every item is admissible after the
items before it. What is admissible is then studied without the checker: by parts, by
key, and up to a relation between logs.
-/

namespace KVTransferObservability.Library.OnlineCheck

set_option autoImplicit false

universe u v w

variable {Item : Type u}

/-- Every item is admissible after the history and the items before it. -/
def Legal (admissible : List Item → Item → Prop) : List Item → List Item → Prop
  | _, [] => True
  | history, item :: rest => admissible history item ∧ Legal admissible (history ++ [item]) rest

section Lists

variable (admissible : List Item → Item → Prop)

theorem legal_append (history first second : List Item) :
    Legal admissible history (first ++ second) ↔
      Legal admissible history first ∧ Legal admissible (history ++ first) second := by
  induction first generalizing history with
  | nil => simp [Legal]
  | cons item first induction =>
      simp only [List.cons_append, Legal, induction, and_assoc, List.append_assoc,
        List.nil_append]

theorem legal_snoc (items : List Item) (item : Item) :
    Legal admissible [] (items ++ [item]) ↔
      Legal admissible [] items ∧ admissible items item := by
  rw [legal_append]
  simp [Legal]

theorem legal_after_iff (history items : List Item) :
    Legal admissible history items ↔
      ∀ before item after, items = before ++ item :: after →
        admissible (history ++ before) item := by
  constructor
  · intro legal before item after split
    rw [split, legal_append] at legal
    exact legal.2.1
  · intro every
    induction items using List.reverseRecOn with
    | nil => trivial
    | append_singleton items item induction =>
        rw [legal_append]
        constructor
        · apply induction
          intro before other after split
          exact every before other (after ++ [item]) (by rw [split]; simp)
        · exact ⟨every items item [] rfl, trivial⟩

theorem legal_iff (items : List Item) :
    Legal admissible [] items ↔
      ∀ before item after, items = before ++ item :: after → admissible before item :=
  legal_after_iff admissible [] items

variable {admissible}

theorem Legal.here {items : List Item} (legal : Legal admissible [] items) {item : Item}
    (member : item ∈ items) :
    ∃ before after, items = before ++ item :: after ∧ admissible before item := by
  obtain ⟨before, after, split⟩ := List.append_of_mem member
  exact ⟨before, after, split, (legal_iff admissible items).mp legal before item after split⟩

end Lists

/-! ## The fold -/

section Fold

variable {State : Type v} {Error : Type w}
variable (step : State → Item → Except Error State)
variable (tracks : State → List Item → Prop) (admissible : List Item → Item → Prop)

/-- The step accepts what is admissible after the tracked history, and tracks on. -/
structure Decides : Prop where
  accepts : ∀ state history item, tracks state history → Legal admissible [] history →
    admissible history item → ∃ next, step state item = .ok next ∧ tracks next (history ++ [item])
  sound : ∀ state history item next, tracks state history → Legal admissible [] history →
    step state item = .ok next → admissible history item

variable {step tracks admissible}

theorem Decides.fold_accepts (decides : Decides step tracks admissible) (items : List Item)
    (state : State) (history : List Item) (tracked : tracks state history)
    (legal : Legal admissible [] (history ++ items)) :
    ∃ final, items.foldlM step state = .ok final ∧ tracks final (history ++ items) := by
  induction items generalizing state history with
  | nil =>
      rw [List.append_nil]
      exact ⟨state, rfl, tracked⟩
  | cons item items induction =>
      have parts := (legal_append admissible [] history (item :: items)).mp legal
      obtain ⟨next, stepped, after⟩ :=
        decides.accepts state history item tracked parts.1 parts.2.1
      rw [List.append_cons] at legal ⊢
      obtain ⟨final, folded, trackedFinal⟩ := induction next (history ++ [item]) after legal
      refine ⟨final, ?_, trackedFinal⟩
      rw [List.foldlM_cons, stepped]
      exact folded

theorem Decides.fold_sound (decides : Decides step tracks admissible) (items : List Item)
    (state final : State) (history : List Item) (tracked : tracks state history)
    (legal : Legal admissible [] history) (folded : items.foldlM step state = .ok final) :
    Legal admissible [] (history ++ items) := by
  induction items generalizing state history with
  | nil =>
      rw [List.append_nil]
      exact legal
  | cons item items induction =>
      rw [List.foldlM_cons] at folded
      cases stepped : step state item with
      | error error =>
          rw [stepped] at folded
          cases folded
      | ok next =>
          rw [stepped] at folded
          have here := decides.sound state history item next tracked legal stepped
          obtain ⟨same, again, after⟩ := decides.accepts state history item tracked legal here
          rw [stepped] at again
          cases again
          rw [List.append_cons]
          exact induction next (history ++ [item]) after
            ((legal_snoc admissible history item).mpr ⟨legal, here⟩) folded

/-- A fold stops at one of its items. -/
theorem fold_error (items : List Item) (state : State) (error : Error)
    (stopped : items.foldlM step state = .error error) :
    ∃ item ∈ items, ∃ reached, step reached item = .error error := by
  induction items generalizing state with
  | nil => cases stopped
  | cons item items induction =>
      rw [List.foldlM_cons] at stopped
      cases stepped : step state item with
      | error other =>
          rw [stepped] at stopped
          cases stopped
          exact ⟨item, List.mem_cons_self, state, stepped⟩
      | ok next =>
          rw [stepped] at stopped
          obtain ⟨later, member, reached, failed⟩ := induction next stopped
          exact ⟨later, List.mem_cons_of_mem item member, reached, failed⟩

end Fold

/-! ## Legal logs -/

theorem legal_and (first second : List Item → Item → Prop) (history items : List Item) :
    Legal (fun history item => first history item ∧ second history item) history items ↔
      Legal first history items ∧ Legal second history items := by
  induction items generalizing history with
  | nil => simp [Legal]
  | cons item items induction =>
      rw [Legal, Legal, Legal, induction]
      exact and_and_and_comm

theorem legal_mono (first second : List Item → Item → Prop)
    (weaker : ∀ history item, first history item → second history item)
    (history items : List Item) (legal : Legal first history items) :
    Legal second history items := by
  induction items generalizing history with
  | nil => trivial
  | cons item items induction =>
      exact ⟨weaker history item legal.1, induction (history ++ [item]) legal.2⟩

theorem legal_congr (first second : List Item → Item → Prop) (items : List Item)
    (same : ∀ before item after, items = before ++ item :: after →
      Legal first [] before → (first before item ↔ second before item)) :
    Legal first [] items ↔ Legal second [] items := by
  induction items using List.reverseRecOn with
  | nil => exact Iff.rfl
  | append_singleton items item induction =>
      have shorter := induction fun before other after split =>
        same before other (after ++ [item]) (by rw [split]; simp)
      rw [legal_snoc, legal_snoc, ← shorter]
      apply and_congr_right
      intro legal
      exact same items item [] rfl legal

/-- A rule that only looks at earlier items of the same key is a rule for each key
separately. -/
theorem legal_by_key {Key : Type v} [DecidableEq Key] (key : Item → Key)
    (admissible : List Item → Item → Prop)
    (keyed : ∀ history item,
      admissible history item ↔
        admissible (history.filter fun other => key other = key item) item)
    (items : List Item) :
    Legal admissible [] items ↔
      ∀ value, Legal admissible [] (items.filter fun item => key item = value) := by
  induction items using List.reverseRecOn with
  | nil => simp [Legal]
  | append_singleton items item induction =>
      rw [legal_snoc, induction, keyed]
      constructor
      · rintro ⟨every, here⟩ value
        by_cases own : key item = value
        · subst own
          simp only [List.filter_append, decide_true, List.filter_cons_of_pos, List.filter_nil]
          exact (legal_snoc admissible _ item).mpr ⟨every _, here⟩
        · simp only [List.filter_append, own, decide_false, Bool.false_eq_true,
            not_false_eq_true, List.filter_cons_of_neg, List.filter_nil, List.append_nil]
          exact every value
      · intro every
        have own := every (key item)
        simp only [List.filter_append, decide_true, List.filter_cons_of_pos,
          List.filter_nil] at own
        constructor
        · intro value
          have split := every value
          rw [List.filter_append, legal_append] at split
          exact split.1
        · exact ((legal_snoc admissible _ item).mp own).2

theorem legal_pairwise_iff (relation : Item → Item → Prop) (items : List Item) :
    Legal (fun history item => ∀ other ∈ history, relation other item) [] items ↔
      items.Pairwise relation := by
  induction items using List.reverseRecOn with
  | nil => simp [Legal]
  | append_singleton items item induction =>
      rw [legal_snoc, induction, List.pairwise_append]
      simp

/-- A rule that never looks back. -/
theorem legal_forall_iff (rule : Item → Prop) (items : List Item) :
    Legal (fun _ item => rule item) [] items ↔ ∀ item ∈ items, rule item := by
  induction items using List.reverseRecOn with
  | nil => simp [Legal]
  | append_singleton items item induction =>
      rw [legal_snoc, induction, List.forall_mem_append, List.forall_mem_singleton]

/-- A running limit, tested after every item, is a limit on the whole. -/
theorem legal_limit_iff (within : List Item → Prop) (empty : within [])
    (shorter : ∀ history item, within (history ++ [item]) → within history) (items : List Item) :
    Legal (fun history item => within (history ++ [item])) [] items ↔ within items := by
  induction items using List.reverseRecOn with
  | nil => exact iff_of_true trivial empty
  | append_singleton items item induction =>
      rw [legal_snoc, induction]
      exact and_iff_right_of_imp (shorter items item)

/-- Values that may occur once. -/
theorem legal_fresh_iff {Value : Type v} (value : Item → Option Value) (items : List Item) :
    Legal (fun history item => ∀ found, value item = some found →
      found ∉ history.filterMap value) [] items ↔ (items.filterMap value).Nodup := by
  induction items using List.reverseRecOn with
  | nil => simp [Legal]
  | append_singleton items item induction =>
      rw [legal_snoc, induction, List.filterMap_append]
      cases present : value item with
      | none => simp [present]
      | some found =>
          simp only [List.filterMap_cons, present, List.filterMap_nil, List.nodup_append,
            List.nodup_singleton, true_and, List.mem_singleton]
          apply and_congr_right
          intro _
          constructor
          · intro absent other member last isFound same
            rw [same, isFound] at member
            exact absent found rfl member
          · intro apart other same member
            cases same
            exact apart found member found rfl rfl

/-- A value that occurs once has one item. -/
theorem fresh_unique {Value : Type v} (value : Item → Option Value) (items : List Item)
    (distinct : (items.filterMap value).Nodup) (first second : Item) (firstMember : first ∈ items)
    (secondMember : second ∈ items) (found : Value) (one : value first = some found)
    (other : value second = some found) : first = second := by
  rw [← legal_fresh_iff, legal_iff] at distinct
  obtain ⟨before, after, split⟩ := List.append_of_mem firstMember
  rw [split, List.mem_append, List.mem_cons] at secondMember
  rcases secondMember with earlier | same | later
  · exact absurd (List.mem_filterMap.mpr ⟨second, earlier, other⟩)
      (distinct before first after split found one)
  · exact same.symm
  · obtain ⟨between, rest, splitLater⟩ := List.append_of_mem later
    have absent := distinct (before ++ first :: between) second rest
      (by rw [split, splitLater]; simp) found other
    exact absurd (List.mem_filterMap.mpr ⟨first, by simp, one⟩) absent

/-! ## Related logs -/

section Related

variable {Other : Type v} {related : Item → Other → Prop} {items : List Item}
variable {others : List Other} (logs : List.Forall₂ related items others)
include logs

theorem exists_related (first : Item → Prop) (second : Other → Prop)
    (same : ∀ item other, related item other → (first item ↔ second other)) :
    (∃ item ∈ items, first item) ↔ ∃ other ∈ others, second other := by
  induction logs with
  | nil => simp
  | cons pair rest induction =>
      simp only [List.mem_cons, exists_eq_or_imp]
      exact or_congr (same _ _ pair) induction

theorem forall_related (first : Item → Prop) (second : Other → Prop)
    (same : ∀ item other, related item other → (first item ↔ second other)) :
    (∀ item ∈ items, first item) ↔ ∀ other ∈ others, second other := by
  induction logs with
  | nil => simp
  | cons pair rest induction =>
      simp only [List.mem_cons, forall_eq_or_imp]
      exact and_congr (same _ _ pair) induction

theorem filter_map_related {Value : Type w} (first : Item → Option Value)
    (second : Other → Option Value)
    (same : ∀ item other, related item other → first item = second other) :
    items.filterMap first = others.filterMap second := by
  induction logs with
  | nil => rfl
  | cons pair rest induction =>
      rw [List.filterMap_cons, List.filterMap_cons, same _ _ pair, induction]

theorem flat_map_related {Value : Type w} (first : Item → List Value)
    (second : Other → List Value)
    (same : ∀ item other, related item other → first item = second other) :
    items.flatMap first = others.flatMap second := by
  induction logs with
  | nil => rfl
  | cons pair rest induction =>
      rw [List.flatMap_cons, List.flatMap_cons, same _ _ pair, induction]

end Related

/-- Related logs are legal together. -/
theorem legal_related {Other : Type v} (related : Item → Other → Prop)
    (admissible : List Item → Item → Prop) (translated : List Other → Other → Prop)
    (same : ∀ history others item other, List.Forall₂ related history others →
      related item other → (admissible history item ↔ translated others other))
    (history items : List Item) (others translatedItems : List Other)
    (histories : List.Forall₂ related history others)
    (logs : List.Forall₂ related items translatedItems) :
    Legal admissible history items ↔ Legal translated others translatedItems := by
  induction logs generalizing history others with
  | nil => exact Iff.rfl
  | cons pair rest induction =>
      rw [Legal, Legal, same history others _ _ histories pair]
      apply and_congr_right
      intro _
      exact induction _ _ (List.rel_append histories (List.Forall₂.cons pair List.Forall₂.nil))

end KVTransferObservability.Library.OnlineCheck
