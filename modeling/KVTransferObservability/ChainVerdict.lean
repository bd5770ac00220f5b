import KVTransferObservability.ChainTracking

/-!
# The verdict on a canonical chain

The validator passes over everything but the recovery events of the request, unless it
meets a restore that did not succeed. What is left is one legal history, complete when
every episode in it has computed.
-/

namespace KVTransferObservability.ChainVerdict

open Library PythonValues Schema Observation Correlated Normalization Adapter Validation
open ChainRules ChainTracking

set_option autoImplicit false

/-- The canonical records of the request that belong to its recovery. -/
def recoveryEvent (requestId : String) : EventRecord → Option KVTransferObservation
  | .canonical record =>
      if record.identity.requestId.val = requestId ∧ record.event ∈ relevant then some record
      else none
  | _ => none

def recoveryEvents (requestId : String) (records : List EventRecord) : History :=
  records.filterMap (recoveryEvent requestId)

/-- A restore of the request that failed or was cancelled. -/
def NonSuccess (requestId : String) : EventRecord → Prop
  | .canonical record =>
      record.identity.requestId.val = requestId ∧ record.event ∉ relevant ∧
        record.direction = some .h2d
  | _ => False

/-- Every episode of the history has computed. -/
def AllComputed (history : History) : Prop :=
  ∀ record ∈ history, ∃ compute ∈ history, ComputeOf record.identity compute

def identities (history : History) : Finset ObservationIdentity :=
  (history.map fun record => record.identity).toFinset

/-- What the loop does with one record of the file. -/
inductive Reads (requestId : String) (record : EventRecord) : Prop
  | event (found : KVTransferObservation)
      (recovery : recoveryEvent requestId record = some found)
      (success : ¬ NonSuccess requestId record)
      (same : ∀ state : ChainState, state.step requestId record = state.observe found)
  | passes (other : recoveryEvent requestId record = none)
      (success : ¬ NonSuccess requestId record)
      (same : ∀ state : ChainState, state.step requestId record = .ok state)
  | fails (failure : NonSuccess requestId record)
      (same : ∀ state : ChainState, state.step requestId record =
        .error (.valueError "requested recovery contains a non-success path"))

theorem reads (requestId : String) (record : EventRecord) : Reads requestId record := by
  cases record with
  | hostFact fact => exact .passes rfl (fun failure => failure) (fun _ => rfl)
  | correlated record => exact .passes rfl (fun failure => failure) (fun _ => rfl)
  | canonical record =>
      by_cases own : record.identity.requestId.val = requestId
      · by_cases listed : record.event ∈ relevant
        · have contained : relevant.contains record.event = true := List.contains_iff_mem.mpr listed
          refine .event record (if_pos ⟨own, listed⟩) (fun failure => failure.2.1 listed) ?_
          intro state
          simp only [ChainState.step, own, contained, ne_eq, not_true_eq_false, if_false,
            Bool.not_true, Bool.false_eq_true]
        · have missing : relevant.contains record.event = false := by
            rw [← Bool.not_eq_true, List.contains_iff_mem]
            exact listed
          by_cases restore : record.direction = some .h2d
          · refine .fails ⟨own, listed, restore⟩ ?_
            intro state
            simp [ChainState.step, own, listed, restore, raiseIf, bind, Except.bind]
          · refine .passes (if_neg fun both => listed both.2) (fun failure => restore failure.2.2)
              ?_
            intro state
            simp [ChainState.step, own, listed, restore, raiseIf, bind, Except.bind]
      · refine .passes (if_neg fun both => own both.1) (fun failure => own failure.1) ?_
        intro state
        simp [ChainState.step, own]

/-- The loop over the file is the loop over the recovery events. -/
theorem fold_step_iff (requestId : String) (records : List EventRecord)
    (state final : ChainState) :
    records.foldlM (ChainState.step requestId) state = .ok final ↔
      (∀ record ∈ records, ¬ NonSuccess requestId record) ∧
        (recoveryEvents requestId records).foldlM ChainState.observe state = .ok final := by
  induction records generalizing state with
  | nil => simp [recoveryEvents]
  | cons record records induction =>
      rw [List.foldlM_cons, List.forall_mem_cons, recoveryEvents, List.filterMap_cons]
      cases reads requestId record with
      | event found recovery success same =>
          rw [same, recovery, List.foldlM_cons, bind_eq_ok, bind_eq_ok]
          constructor
          · rintro ⟨next, observed, folded⟩
            obtain ⟨successes, rest⟩ := (induction next).mp folded
            exact ⟨⟨success, successes⟩, next, observed, rest⟩
          · rintro ⟨⟨_, successes⟩, next, observed, rest⟩
            exact ⟨next, observed, (induction next).mpr ⟨successes, rest⟩⟩
      | passes other success same =>
          rw [same, other, bind_eq_ok]
          constructor
          · rintro ⟨next, stepped, folded⟩
            cases stepped
            obtain ⟨successes, rest⟩ := (induction state).mp folded
            exact ⟨⟨success, successes⟩, rest⟩
          · rintro ⟨⟨_, successes⟩, rest⟩
            exact ⟨state, rfl, (induction state).mpr ⟨successes, rest⟩⟩
      | fails failure same =>
          rw [same]
          constructor
          · intro folded
            cases folded
          · rintro ⟨⟨success, _⟩, _⟩
            exact absurd failure success

section Final

variable {state : ChainState} {history : History} (tracked : Tracked state history)
include tracked

theorem tracked_keys : state.episodes.keys = identities history := by
  ext identity
  rw [Finmap.mem_keys, tracked.known, identities, List.mem_toFinset, List.mem_map]

/-- The check after the loop. -/
theorem complete_iff :
    (decide (state.episodes.keys = ∅) ||
        decide (∃ identity ∈ state.episodes.keys,
          (state.episodes.lookup identity).any Episode.computed = false)) = false ↔
      history ≠ [] ∧ AllComputed history := by
  have empty : identities history = ∅ ↔ history = [] := by
    rw [identities, List.toFinset_eq_empty_iff, List.map_eq_nil_iff]
  rw [Bool.or_eq_false_iff, decide_eq_false_iff_not, decide_eq_false_iff_not,
    tracked_keys tracked, empty]
  apply and_congr_right
  intro _
  constructor
  · intro complete record member
    have listed : record.identity ∈ identities history := by
      rw [identities, List.mem_toFinset]
      exact List.mem_map_of_mem member
    obtain ⟨episode, found⟩ := Dict.lookup_of_mem
      ((tracked.known record.identity).mpr ⟨record, member, rfl⟩)
    rw [← (tracked.episode record.identity episode found).computed]
    by_contra uncomputed
    apply complete
    refine ⟨record.identity, listed, ?_⟩
    rw [found, Option.any_some]
    exact Bool.not_eq_true _ ▸ uncomputed
  · rintro computed ⟨identity, listed, uncomputed⟩
    rw [identities, List.mem_toFinset] at listed
    obtain ⟨record, member, rfl⟩ := List.mem_map.mp listed
    obtain ⟨episode, found⟩ := Dict.lookup_of_mem
      ((tracked.known record.identity).mpr ⟨record, member, rfl⟩)
    have flag := (tracked.episode record.identity episode found).computed.mpr
      (computed record member)
    rw [found, Option.any_some, flag] at uncomputed
    cases uncomputed

end Final

/-- A request without correlated records is accepted exactly if its restores all
succeeded and its recovery events are a legal history in which every episode
computed. -/
theorem uncorrelated_verdict (records : List EventRecord) (requestId : String)
    (uncorrelated : records.any (isCorrelatedFor requestId) = false) (count : Nat) :
    validateRestoreChain records requestId = .ok count ↔
      (∀ record ∈ records, ¬ NonSuccess requestId record) ∧
      OnlineCheck.Legal Admissible [] (recoveryEvents requestId records) ∧
      recoveryEvents requestId records ≠ [] ∧
      AllComputed (recoveryEvents requestId records) ∧
      (identities (recoveryEvents requestId records)).card = count := by
  unfold validateRestoreChain
  rw [uncorrelated, if_neg Bool.false_ne_true, bind_eq_ok]
  simp only [fold_step_iff, raise_if_bind_ok, Except.ok.injEq]
  generalize recoveryEvents requestId records = history
  constructor
  · rintro ⟨final, ⟨successes, folded⟩, complete, size⟩
    have legal := observe_decides.fold_sound history _ final [] tracked_empty trivial folded
    rw [List.nil_append] at legal
    obtain ⟨same, again, tracked⟩ :=
      observe_decides.fold_accepts history _ [] tracked_empty legal
    rw [folded] at again
    cases again
    rw [List.nil_append] at tracked
    obtain ⟨nonempty, computed⟩ := (complete_iff tracked).mp complete
    refine ⟨successes, legal, nonempty, computed, ?_⟩
    rw [← size, Dict.size, tracked_keys tracked]
  · rintro ⟨successes, legal, nonempty, computed, size⟩
    obtain ⟨final, folded, tracked⟩ :=
      observe_decides.fold_accepts history { normalizer := defaultNormalizer } [] tracked_empty
        legal
    rw [List.nil_append] at tracked
    refine ⟨final, ⟨successes, folded⟩, (complete_iff tracked).mpr ⟨nonempty, computed⟩, ?_⟩
    rw [← size, Dict.size, tracked_keys tracked]

end KVTransferObservability.ChainVerdict
