import KVTransferObservability.RestoreChain
import KVTransferObservability.ShiftedClocks

/-!
# What the verdict does not depend on

The clocks of different processes, the interleaving of their files, and the records
that do not concern the request: none of them changes the count the validator returns,
or that it rejects.
-/

namespace KVTransferObservability.ValidationIndependence

open Library PythonValues Schema Observation HostFacts Correlated Adapter Validation
open NormalizerEvidence ChainRules ChainVerdict ChainEpisodes RestoreChain CorrelatedChain
open ShiftedClocks

set_option autoImplicit false

/-- The number of recoveries, or nothing if the validator rejects. -/
def outcome (records : List EventRecord) (requestId : String) : Option Nat :=
  (validateRestoreChain records requestId).toOption

theorem outcome_eq (first second : List EventRecord) (requestId : String)
    (same : ∀ count, validateRestoreChain first requestId = .ok count ↔
      validateRestoreChain second requestId = .ok count) :
    outcome first requestId = outcome second requestId := by
  unfold outcome
  cases accepted : validateRestoreChain first requestId with
  | ok count => rw [(same count).mp accepted]
  | error error =>
      cases other : validateRestoreChain second requestId with
      | error _ => rfl
      | ok count =>
          have wrong := (same count).mpr other
          rw [accepted] at wrong
          cases wrong

/-! ## Order -/

/-- The record, if it is a canonical record of the identity. -/
def canonicalOf (identity : ObservationIdentity) : EventRecord → Option KVTransferObservation
  | .canonical record => if record.identity = identity then some record else none
  | _ => none

/-- The recovery events of an identity are found among its canonical records. -/
theorem own_events_of (requestId : String) (records : List EventRecord)
    (identity : ObservationIdentity) :
    ownEvents (recoveryEvents requestId records) identity =
      (records.filterMap (canonicalOf identity)).filter fun record =>
        record.identity.requestId.val = requestId ∧ record.event ∈ relevant := by
  induction records with
  | nil => rfl
  | cons record records induction =>
      rw [ownEvents, recoveryEvents] at induction ⊢
      rw [List.filterMap_cons, List.filterMap_cons]
      cases record with
      | hostFact fact => exact induction
      | correlated record => exact induction
      | canonical record =>
          simp only [recoveryEvent, canonicalOf]
          by_cases own : record.identity = identity <;>
            by_cases recovery : record.identity.requestId.val = requestId ∧
              record.event ∈ relevant
          · rw [if_pos own, if_pos recovery, List.filter_cons_of_pos (by simpa using own),
              List.filter_cons_of_pos (by simpa using recovery), induction]
          · rw [if_pos own, if_neg recovery, List.filter_cons_of_neg (by simpa using recovery),
              induction]
          · rw [if_neg own, if_pos recovery, List.filter_cons_of_neg (by simpa using own),
              induction]
          · rw [if_neg own, if_neg recovery, induction]

theorem correlated_order (first second : List EventRecord) (requestId : String)
    (correlated : ∃ record ∈ first, isCorrelatedFor requestId record = true)
    (permuted : first.Perm second) (count : Nat) :
    validateRestoreChain first requestId = .ok count ↔
      validateRestoreChain second requestId = .ok count := by
  have other : ∃ record ∈ second, isCorrelatedFor requestId record = true := by
    obtain ⟨record, member, own⟩ := correlated
    exact ⟨record, permuted.mem_iff.mp member, own⟩
  have bag := Multiset.coe_eq_coe.mpr (permuted.filterMap (ownRecord requestId))
  rw [correlated_verdict first requestId correlated, correlated_verdict second requestId other,
    bag]

section Canonical

variable {first second : List EventRecord} (requestId : String)
variable (permuted : first.Perm second)
include permuted

theorem recovery_events_perm :
    (recoveryEvents requestId first).Perm (recoveryEvents requestId second) :=
  permuted.filterMap (recoveryEvent requestId)

theorem identities_perm :
    identities (recoveryEvents requestId first) = identities (recoveryEvents requestId second) :=
  List.toFinset_eq_of_perm _ _ ((recovery_events_perm requestId permuted).map _)

/-- An accepted list stays accepted in every order that respects the identities. -/
theorem canonical_order
    (uncorrelated : ∀ record ∈ first, isCorrelatedFor requestId record = false)
    (bounded : startCount (recoveryEvents requestId first) ≤ 4096)
    (subsequences : ∀ identity,
      first.filterMap (canonicalOf identity) = second.filterMap (canonicalOf identity))
    (count : Nat) :
    validateRestoreChain first requestId = .ok count ↔
      validateRestoreChain second requestId = .ok count := by
  have nobody : ∀ records : List EventRecord,
      (∀ record ∈ records, isCorrelatedFor requestId record = false) →
        records.any (isCorrelatedFor requestId) = false := by
    intro records none
    rw [List.any_eq_false]
    intro record member
    rw [none record member]
    exact Bool.false_ne_true
  have others : ∀ record ∈ second, isCorrelatedFor requestId record = false := by
    intro record member
    exact uncorrelated record (permuted.mem_iff.mpr member)
  have events := recovery_events_perm requestId permuted
  have boundedOther : startCount (recoveryEvents requestId second) ≤ 4096 := by
    rw [startCount, ← events.countP_eq]
    exact bounded
  have successes : (∀ record ∈ first, ¬ NonSuccess requestId record) ↔
      ∀ record ∈ second, ¬ NonSuccess requestId record := by
    simp only [permuted.mem_iff]
  have nonempty : recoveryEvents requestId first ≠ [] ↔ recoveryEvents requestId second ≠ [] := by
    rw [Ne, Ne, ← List.length_eq_zero_iff, events.length_eq, List.length_eq_zero_iff]
  have complete : ∀ identity, ownEvents (recoveryEvents requestId first) identity =
      ownEvents (recoveryEvents requestId second) identity := by
    intro identity
    rw [own_events_of, own_events_of, subsequences]
  have legal : (OnlineCheck.Legal Admissible [] (recoveryEvents requestId first) ∧
        AllComputed (recoveryEvents requestId first)) ↔
      OnlineCheck.Legal Admissible [] (recoveryEvents requestId second) ∧
        AllComputed (recoveryEvents requestId second) := by
    rw [legal_computed_iff _ bounded, legal_computed_iff _ boundedOther,
      identities_perm requestId permuted, (events.filterMap startedTransfer).nodup_iff,
      (events.filterMap receiptOf).nodup_iff]
    simp only [complete]
  have regroup : ∀ history : History, (OnlineCheck.Legal Admissible [] history ∧ history ≠ [] ∧
      AllComputed history ∧ (identities history).card = count) ↔
      (OnlineCheck.Legal Admissible [] history ∧ AllComputed history) ∧ history ≠ [] ∧
        (identities history).card = count := by
    intro history
    constructor
    · rintro ⟨one, two, three, four⟩
      exact ⟨⟨one, three⟩, two, four⟩
    · rintro ⟨⟨one, three⟩, two, four⟩
      exact ⟨one, two, three, four⟩
  rw [uncorrelated_verdict first requestId (nobody first uncorrelated),
    uncorrelated_verdict second requestId (nobody second others), successes, regroup, regroup,
    legal, nonempty, identities_perm requestId permuted]

end Canonical

/-! ## Bystanders -/

/-- Records of the request other than its copies to the host. -/
def concerns (requestId : String) : EventRecord → Bool
  | .canonical record =>
      record.identity.requestId.val == requestId && record.direction != some .d2h
  | .correlated record => record.requestId.val == requestId
  | .hostFact _ => false

/-- No recovery event is a copy to the host. -/
theorem recovery_direction (record : KVTransferObservation) (event : record.event ∈ relevant) :
    record.direction ≠ some .d2h := by
  intro preserved
  have shape := event_shape record
  simp only [relevant, List.mem_cons, List.not_mem_nil, or_false] at event
  rcases event with event | event | event | event | event
  · obtain ⟨_, content⟩ := recovery_requeued_content _ shape event
    rw [content] at preserved
    cases preserved
  · obtain ⟨_, _, content⟩ := restore_started_content _ shape event
    rw [content] at preserved
    cases preserved
  · obtain ⟨_, _, _, _, _, _, content⟩ := restore_completed_content _ shape event
    rw [content] at preserved
    cases preserved
  · obtain ⟨_, _, content⟩ := recovery_admitted_content _ shape event
    rw [content] at preserved
    cases preserved
  · obtain ⟨_, _, _, _, _, content⟩ := first_compute_content _ shape event
    rw [content] at preserved
    cases preserved

section Bystanders

variable (requestId : String) (record : EventRecord)
variable (bystander : concerns requestId record = false)
include bystander

theorem bystander_uncorrelated : isCorrelatedFor requestId record = false := by
  cases record with
  | canonical record => rfl
  | hostFact fact => rfl
  | correlated record => exact bystander

theorem bystander_not_own : ownRecord requestId record = none := by
  cases record with
  | canonical record => rfl
  | hostFact fact => rfl
  | correlated record =>
      have other : record.requestId.val ≠ requestId := ne_of_beq_false bystander
      exact if_neg other

theorem bystander_direction (observation : KVTransferObservation)
    (canonical : record = .canonical observation)
    (own : observation.identity.requestId.val = requestId) :
    observation.direction = some .d2h := by
  subst canonical
  simpa [concerns, own] using bystander

theorem bystander_no_event : recoveryEvent requestId record = none := by
  cases record with
  | correlated record => rfl
  | hostFact fact => rfl
  | canonical record =>
      apply if_neg
      rintro ⟨own, event⟩
      exact recovery_direction record event
        (bystander_direction requestId _ bystander record rfl own)

theorem bystander_success : ¬ NonSuccess requestId record := by
  cases record with
  | correlated record => exact fun failure => failure
  | hostFact fact => exact fun failure => failure
  | canonical record =>
      rintro ⟨own, _, restore⟩
      rw [bystander_direction requestId _ bystander record rfl own] at restore
      cases restore

end Bystanders

section Concerned

variable (requestId : String) (records : List EventRecord)

/-- What is read off the records one by one is read off those that concern the request. -/
theorem filter_map_concerned {Value : Type} (value : EventRecord → Option Value)
    (silent : ∀ record, concerns requestId record = false → value record = none) :
    (records.filter (concerns requestId)).filterMap value = records.filterMap value := by
  rw [List.filterMap_filter]
  apply List.filterMap_congr
  intro record _
  cases concerned : concerns requestId record with
  | true => rfl
  | false => exact (silent record concerned).symm

theorem success_concerned :
    (∀ record ∈ records.filter (concerns requestId), ¬ NonSuccess requestId record) ↔
      ∀ record ∈ records, ¬ NonSuccess requestId record := by
  constructor
  · intro successes record member
    cases concerned : concerns requestId record with
    | true => exact successes record (List.mem_filter.mpr ⟨member, concerned⟩)
    | false => exact bystander_success requestId record concerned
  · intro successes record member
    exact successes record (List.mem_filter.mp member).1

theorem correlated_concerned :
    (records.filter (concerns requestId)).any (isCorrelatedFor requestId) =
      records.any (isCorrelatedFor requestId) := by
  rw [List.any_filter]
  congr 1
  funext record
  cases concerned : concerns requestId record with
  | true => rfl
  | false => exact (bystander_uncorrelated requestId record concerned).symm

/-- The verdict is the one on the records that concern the request. -/
theorem verdict_concerned (count : Nat) :
    validateRestoreChain (records.filter (concerns requestId)) requestId = .ok count ↔
      validateRestoreChain records requestId = .ok count := by
  have chosen := correlated_concerned requestId records
  cases correlated : records.any (isCorrelatedFor requestId) with
  | true =>
      rw [correlated] at chosen
      rw [correlated_verdict _ requestId (List.any_eq_true.mp chosen),
        correlated_verdict _ requestId (List.any_eq_true.mp correlated),
        filter_map_concerned requestId records _ (bystander_not_own requestId)]
  | false =>
      rw [correlated] at chosen
      rw [uncorrelated_verdict _ requestId chosen, uncorrelated_verdict _ requestId correlated,
        success_concerned]
      unfold recoveryEvents
      rw [filter_map_concerned requestId records _ (bystander_no_event requestId)]

end Concerned

/-- The clocks of the processes, the order of the records (within each identity for
canonical chains) and the records that do not concern the request are all without
influence on the count or the rejection. -/
theorem outcome_independent (requestId : String) :
    (∀ (clock : Process → Int) (records shifted : List EventRecord),
      List.Forall₂ (Shifted clock) records shifted →
        outcome records requestId = outcome shifted requestId) ∧
    (∀ records reordered : List EventRecord,
      (∃ record ∈ records, isCorrelatedFor requestId record = true) →
      records.Perm reordered → outcome records requestId = outcome reordered requestId) ∧
    (∀ records reordered : List EventRecord,
      (∀ record ∈ records, isCorrelatedFor requestId record = false) →
      startCount (recoveryEvents requestId records) ≤ 4096 →
      records.Perm reordered →
      (∀ identity, records.filterMap (canonicalOf identity) =
        reordered.filterMap (canonicalOf identity)) →
      outcome records requestId = outcome reordered requestId) ∧
    (∀ records others : List EventRecord,
      records.filter (concerns requestId) = others.filter (concerns requestId) →
        outcome records requestId = outcome others requestId) := by
  refine ⟨?_, ?_, ?_, ?_⟩
  · intro clock records shifted logs
    exact outcome_eq _ _ _ (verdict_shift logs requestId)
  · intro records reordered correlated permuted
    exact outcome_eq _ _ _ (correlated_order records reordered requestId correlated permuted)
  · intro records reordered uncorrelated bounded permuted subsequences
    exact outcome_eq _ _ _ (canonical_order requestId permuted uncorrelated bounded subsequences)
  · intro records others concerned
    have reduced : ∀ list : List EventRecord,
        outcome (list.filter (concerns requestId)) requestId = outcome list requestId :=
      fun list => outcome_eq _ _ _ (verdict_concerned requestId list)
    rw [← reduced records, ← reduced others, concerned]

end KVTransferObservability.ValidationIndependence
