import KVTransferObservability.NormalizerShards
import KVTransferObservability.ChainVerdict

/-!
# Replaying what a live normalizer returned

The validator replays the records of one request into a fresh normalizer of its own and
compares. On the records that a live normalizer returned in one run the two agree, so a
recorded run is only ever rejected for the shape of its chain, never for a disagreement
between the recorded and the replayed evidence.
-/

namespace KVTransferObservability.LiveReplay

open Library PythonValues Schema Observation Adapter Normalization Validation
open NormalizerRecords NormalizerTransitions NormalizerRejection NormalizerHistory
open NormalizerShards ChainRules ReplayedNormalizer ChainTracking ChainVerdict

set_option autoImplicit false

/-- The error of the comparison with the replayed record. -/
def disagreement : PyError :=
  .valueError "lifecycle identity, receipt, timing or order mismatch"

/-! ## The observation a record is replayed as -/

inductive ReplayedAs (record : KVTransferObservation) : SourceObservation → Prop
  | requeued (source : CoreRecoveryRequeued)
      (fields : record.toObservationFields = requeuedFields source) :
      ReplayedAs record (.requeued source)
  | started (source : CoreTransferSubmitted) (event : record.event = .restoreStarted)
      (fields : record.toObservationFields = startedFields source) :
      ReplayedAs record (.submitted source)
  | completed (source : CoreTransferCompleted) (receipt : ReceiptIdentity)
      (known : CompletedAs record source receipt) : ReplayedAs record (.completed source)
  | admitted (source : CoreRecoveryAdmitted)
      (fields : record.toObservationFields = admittedFields source) :
      ReplayedAs record (.admitted source)
  | computed (source : FirstComputeObserved)
      (fields : record.toObservationFields = computedFields source) :
      ReplayedAs record (.firstCompute source)

/-- What a replay can come to: one observation, or a complaint about the chain. -/
inductive Replay (episode : Episode) (seenTransfers : Finset TransferIdentity)
    (record : KVTransferObservation) : Prop
  | observes (source : SourceObservation) (progress : Episode)
      (seen : Finset TransferIdentity) (replayed : ReplayedAs record source)
      (same : replay episode seenTransfers record = .ok (source, progress, seen))
  | complains (error : PyError) (other : error ≠ disagreement)
      (same : replay episode seenTransfers record = .error error)

theorem replay_cases (episode : Episode) (seenTransfers : Finset TransferIdentity)
    (record : KVTransferObservation) (listed : record.event ∈ relevant) :
    Replay episode seenTransfers record := by
  simp only [relevant, List.mem_cons, List.not_mem_nil, or_false] at listed
  rcases listed with event | event | event | event | event
  · obtain ⟨source, fields, same⟩ := replay_requeued episode seenTransfers record event
    exact .observes _ _ _ (.requeued source fields) same
  · obtain ⟨source, _, fields, same⟩ := replay_started episode seenTransfers record event
    split at same
    · exact .complains _ (by decide) same
    · exact .observes _ _ _ (.started source event fields) same
  · obtain ⟨source, receipt, known, _, same⟩ :=
      replay_completed episode seenTransfers record event
    split at same
    · exact .complains _ (by decide) same
    · exact .observes _ _ _ (.completed source receipt known) same
  · obtain ⟨source, fields, _, same⟩ := replay_admitted episode seenTransfers record event
    split at same
    · exact .complains _ (by decide) same
    · exact .observes _ _ _ (.admitted source fields) same
  · obtain ⟨source, fields, _, _, same⟩ := replay_computed episode seenTransfers record event
    exact .observes _ _ _ (.computed source fields) same

/-- The live normalizer had been given such an observation as well. -/
theorem outcome_replayed {self next : LifecycleNormalizer} {live : SourceObservation}
    {record : KVTransferObservation} (outcome : Outcome self live (some record) next)
    (listed : record.event ∈ relevant) : ReplayedAs record live := by
  have unlisted (event : ObservationEvent) (same : record.event = event)
      (other : event ∉ relevant) : ReplayedAs record live :=
    absurd (same ▸ listed) other
  cases outcome with
  | started source record fields fresh unfinished room =>
      have event := congrArg ObservationFields.event fields
      dsimp only [startedFields, startEvent] at event
      split at event
      · exact unlisted _ event (by decide)
      · exact .started source event fields
  | restored source pending receipt record fields matched scope room =>
      refine .completed source receipt
        ⟨matched.success, matched.moved, matched.received, scope, ?_⟩
      have identity := congrArg ObservationFields.identity fields
      have blocks := congrArg ObservationFields.blockCount fields
      have duration := congrArg ObservationFields.durationNs fields
      dsimp only [restoredFields] at identity blocks duration
      rw [identity, blocks, duration]
      exact fields
  | failed source pending record fields =>
      exact unlisted .transferFailed (congrArg ObservationFields.event fields) (by decide)
  | preserved source pending record fields =>
      exact unlisted .preserveCompleted (congrArg ObservationFields.event fields) (by decide)
  | cancelled source pending reason record fields =>
      exact unlisted .transferCancelled (congrArg ObservationFields.event fields) (by decide)
  | requeued source record fields epoch => exact .requeued source fields
  | admitted source record fields epoch fresh room backed => exact .admitted source fields
  | computed source record fields epoch matched => exact .computed source fields

/-! ## A record determines its observation, but for the host -/

/-- Observations of the same content. Only a first compute names its host. -/
inductive SameContent : SourceObservation → SourceObservation → Prop
  | same (source : SourceObservation) : SameContent source source
  | host (first second : FirstComputeObserved)
      (fields : computedFields first = computedFields second) :
      SameContent (.firstCompute first) (.firstCompute second)

theorem ReplayedAs.event {record : KVTransferObservation} {source : SourceObservation}
    (replayed : ReplayedAs record source) :
    record.event =
      match source with
      | .requeued _ => .recoveryRequeued
      | .submitted _ => .restoreStarted
      | .completed _ => .restoreCompleted
      | .admitted _ => .recoveryAdmitted
      | _ => .firstCompute := by
  cases replayed with
  | requeued source fields => exact congrArg ObservationFields.event fields
  | started source event fields => exact event
  | completed source receipt known => exact congrArg ObservationFields.event known.fields
  | admitted source fields => exact congrArg ObservationFields.event fields
  | computed source fields => exact congrArg ObservationFields.event fields

theorem requeued_fields_injective (first second : CoreRecoveryRequeued)
    (same : requeuedFields first = requeuedFields second) : first = second := by
  rcases first with ⟨identity, reason, time⟩
  rcases second with ⟨otherIdentity, otherReason, otherTime⟩
  simp only [requeuedFields, ObservationFields.mk.injEq, Option.some.injEq, true_and,
    and_true] at same
  obtain ⟨rfl, rfl, rfl⟩ := same
  rfl

theorem admitted_fields_injective (first second : CoreRecoveryAdmitted)
    (same : admittedFields first = admittedFields second) : first = second := by
  rcases first with ⟨identity, transfers, time⟩
  rcases second with ⟨otherIdentity, otherTransfers, otherTime⟩
  simp only [admittedFields, ObservationFields.mk.injEq, true_and, and_true] at same
  obtain ⟨rfl, rfl, roster⟩ := same
  rw [Subtype.ext roster]

theorem completed_unique {record : KVTransferObservation} {first second : CoreTransferCompleted}
    {receipt other : ReceiptIdentity} (one : CompletedAs record first receipt)
    (two : CompletedAs record second other) : first = second := by
  have same := one.fields.symm.trans two.fields
  simp only [ObservationFields.mk.injEq, Option.some.injEq, true_and] at same
  obtain ⟨time, transfer, received, moved, device⟩ := same
  rcases first with ⟨transferOne, timeOne, successOne, movedOne, deviceOne, receiptOne⟩
  rcases second with ⟨transferTwo, timeTwo, successTwo, movedTwo, deviceTwo, receiptTwo⟩
  have success := one.success.trans two.success.symm
  have receipts := one.received.trans ((congrArg some received).trans two.received.symm)
  dsimp only at time transfer moved device success receipts
  rw [time, transfer, moved, device, success, receipts]

theorem replayed_content {record : KVTransferObservation} {first second : SourceObservation}
    (one : ReplayedAs record first) (two : ReplayedAs record second) :
    SameContent first second := by
  have event := one.event.symm.trans two.event
  cases one with
  | requeued source fields =>
      cases two with
      | requeued other others =>
          rw [requeued_fields_injective source other (fields.symm.trans others)]
          exact .same _
      | _ => cases event
  | started source starts fields =>
      cases two with
      | started other begins others =>
          rw [started_fields_injective source other (fields.symm.trans others)]
          exact .same _
      | _ => cases event
  | completed source receipt known =>
      cases two with
      | completed other given fits =>
          rw [completed_unique known fits]
          exact .same _
      | _ => cases event
  | admitted source fields =>
      cases two with
      | admitted other others =>
          rw [admitted_fields_injective source other (fields.symm.trans others)]
          exact .same _
      | _ => cases event
  | computed source fields =>
      cases two with
      | computed other others => exact .host source other (fields.symm.trans others)
      | _ => cases event

/-- The host of a first compute has no part in what is returned. -/
theorem SameContent.outcome {self next : LifecycleNormalizer}
    {record : KVTransferObservation} {first second : SourceObservation}
    (content : SameContent first second) (outcome : Outcome self first (some record) next) :
    Outcome self second (some record) next := by
  cases content with
  | same source => exact outcome
  | host first second same =>
      cases outcome with
      | computed source record fields epoch matched =>
          have both := fields.trans same
          rcases first with ⟨host, identity, receipt, transfers, kind, time⟩
          rcases second with ⟨otherHost, other, given, others, computes, otherTime⟩
          simp only [computedFields, ObservationFields.mk.injEq, Option.some.injEq, true_and,
            and_true] at same
          obtain ⟨rfl, rfl, rfl, roster, rfl⟩ := same
          obtain rfl := Subtype.ext roster
          exact .computed _ record both epoch matched

/-! ## The loop body on a record of the run -/

theorem raise_if_error {condition : Bool} {message : String} {error : PyError}
    (raised : raiseIf condition message = .error error) : error = .valueError message := by
  cases condition with
  | false => cases raised
  | true => exact (Except.error.inj raised).symm

theorem open_complaint (state : ChainState) (record : KVTransferObservation) :
    state.openEpisode record ≠ .error disagreement := by
  intro raised
  unfold ChainState.openEpisode at raised
  split at raised
  · rcases bind_eq_error.mp raised with refused | ⟨_, _, rest⟩
    · exact absurd (raise_if_error refused) (by decide)
    · cases rest
  · cases raised

theorem receipt_complaint (state : ChainState) (record : KVTransferObservation) :
    state.claimReceipt record ≠ .error disagreement := by
  intro raised
  unfold ChainState.claimReceipt at raised
  split at raised
  · cases raised
  · rcases bind_eq_error.mp raised with refused | ⟨_, _, rest⟩
    · exact absurd (raise_if_error refused) (by decide)
    · cases rest

/-- Only the comparison raises a disagreement. -/
theorem observe_disagrees (state : ChainState) (record : KVTransferObservation)
    (listed : record.event ∈ relevant) (raised : state.observe record = .error disagreement) :
    ∃ source, ReplayedAs record source ∧
      (state.normalizer.normalize source).1 ≠ .ok (some record) := by
  unfold ChainState.observe at raised
  rcases bind_eq_error.mp raised with opening | ⟨episodes, opened, raised⟩
  · exact absurd opening (open_complaint state record)
  split at raised
  · exact absurd (Except.error.inj raised) (by decide)
  · rename_i episode found
    rcases bind_eq_error.mp raised with refused | ⟨_, _, raised⟩
    · exact absurd (raise_if_error refused) (by decide)
    rcases bind_eq_error.mp raised with refused | ⟨_, _, raised⟩
    · exact absurd (raise_if_error refused) (by decide)
    rcases bind_eq_error.mp raised with refused | ⟨_, _, raised⟩
    · exact absurd refused (receipt_complaint state record)
    rcases bind_eq_error.mp raised with refused | ⟨⟨source, progress, seen⟩, replays, raised⟩
    · cases replay_cases _ state.seenTransfers record listed with
      | observes other progress seen replayed same => cases same.symm.trans refused
      | complains error other same =>
          exact absurd (Except.error.inj (same.symm.trans refused)) other
    · refine ⟨source, ?_, ?_⟩
      · cases replay_cases _ state.seenTransfers record listed with
        | observes other progress seen replayed same =>
            cases same.symm.trans replays
            exact replayed
        | complains error other same => cases same.symm.trans replays
      · intro answered
        dsimp only at raised
        rw [answered] at raised
        simp [raiseIf, bind, Except.bind] at raised

section Lockstep

variable {shard : Shard} {whole next : LifecycleNormalizer} {live : SourceObservation}
variable {record : KVTransferObservation} {state : ChainState}

/-- The replayed normalizer returns the record that the live one returned. -/
theorem replayed_selected (projects : Projects shard whole state.normalizer)
    (outcome : Outcome whole live (some record) next) (selected : shard.selects record = true)
    (listed : record.event ∈ relevant) (source : SourceObservation)
    (replayed : ReplayedAs record source) :
    ∃ after, state.normalizer.normalize source = (.ok (some record), after) ∧
      Projects shard next after := by
  have content := replayed_content (outcome_replayed outcome listed) replayed
  obtain ⟨after, taken, tracked⟩ :=
    selected_outcome projects source record (content.outcome outcome) selected
  exact ⟨after, (normalize_record_iff _ _ _ _ projects.opened projects.valid).mpr taken, tracked⟩

theorem observe_agrees (projects : Projects shard whole state.normalizer)
    (outcome : Outcome whole live (some record) next) (selected : shard.selects record = true)
    (listed : record.event ∈ relevant) : state.observe record ≠ .error disagreement := by
  intro raised
  obtain ⟨source, replayed, other⟩ := observe_disagrees state record listed raised
  obtain ⟨after, same, _⟩ :=
    replayed_selected projects outcome selected listed source replayed
  exact other (congrArg Prod.fst same)

theorem observe_lockstep (projects : Projects shard whole state.normalizer)
    (outcome : Outcome whole live (some record) next) (selected : shard.selects record = true)
    (listed : record.event ∈ relevant) (after : ChainState)
    (observed : state.observe record = .ok after) : Projects shard next after.normalizer := by
  obtain ⟨episodes, episode, receipts, source, progress, seen, normalizer, _, _, _, _, _,
    replays, taken, rfl⟩ :=
    (observe_ok_iff state after record projects.opened projects.valid).mp observed
  cases replay_cases _ state.seenTransfers record listed with
  | complains error other same => cases same.symm.trans replays
  | observes other progress seen replayed same =>
      cases same.symm.trans replays
      obtain ⟨reached, answered, tracked⟩ :=
        replayed_selected projects outcome selected listed source replayed
      have answers := (normalize_record_iff _ _ _ _ projects.opened projects.valid).mpr taken
      rw [answered] at answers
      cases answers
      exact tracked

end Lockstep

/-! ## Whole runs -/

/-- The part of one request that its recovery chain is about. -/
def requestShard (requestId : String) : Shard where
  identities identity := identity.requestId.val == requestId
  preserves := false

theorem request_selects (requestId : String) (record : KVTransferObservation) :
    (requestShard requestId).selects record = true ↔
      record.identity.requestId.val = requestId ∧ record.direction ≠ some .d2h := by
  simp [requestShard, Shard.selects, Shard.holds]

theorem listed_direction {record : KVTransferObservation} {source : SourceObservation}
    (replayed : ReplayedAs record source) : record.direction ≠ some .d2h := by
  intro preserve
  cases replayed with
  | requeued source fields => cases preserve.symm.trans (congrArg ObservationFields.direction fields)
  | started source event fields =>
      have direction := preserve.symm.trans (congrArg ObservationFields.direction fields)
      have starts := event.symm.trans (congrArg ObservationFields.event fields)
      rcases source with ⟨identity, transfer, operation, blocks, time⟩
      cases operation with
      | d2hPreserve => cases starts
      | h2dRestore => cases direction
  | completed source receipt known =>
      cases preserve.symm.trans (congrArg ObservationFields.direction known.fields)
  | admitted source fields => cases preserve.symm.trans (congrArg ObservationFields.direction fields)
  | computed source fields => cases preserve.symm.trans (congrArg ObservationFields.direction fields)

theorem unlisted_direction {whole next : LifecycleNormalizer} {live : SourceObservation}
    {record : KVTransferObservation} (outcome : Outcome whole live (some record) next)
    (unlisted : record.event ∉ relevant) : record.direction ≠ none := by
  intro absent
  cases outcome with
  | requeued source record fields epoch =>
      have event : record.event = .recoveryRequeued := congrArg ObservationFields.event fields
      rw [event] at unlisted
      exact unlisted (by decide)
  | admitted source record fields epoch fresh room backed =>
      have event : record.event = .recoveryAdmitted := congrArg ObservationFields.event fields
      rw [event] at unlisted
      exact unlisted (by decide)
  | computed source record fields epoch matched =>
      have event : record.event = .firstCompute := congrArg ObservationFields.event fields
      rw [event] at unlisted
      exact unlisted (by decide)
  | _ =>
      cases absent.symm.trans
        (congrArg ObservationFields.direction ‹record.toObservationFields = _›)

theorem step_agrees (requestId : String) {whole : LifecycleNormalizer} {state : ChainState}
    (tracks : Tracks (requestShard requestId) whole state.normalizer) (call : Call)
    (spared : Spared whole call) (record : KVTransferObservation)
    (answered : returned (step whole call).1 = some record) :
    state.step requestId (.canonical record) ≠ .error disagreement ∧
      ∀ after, state.step requestId (.canonical record) = .ok after →
        Tracks (requestShard requestId) (step whole call).2 after.normalizer := by
  have tables := tracks.tables.step call
  obtain ⟨result, answer, transition⟩ := step_transition whole call
  have given : result = some record := by
    rw [answer] at answered
    exact answered
  subst given
  have passed (other : (requestShard requestId).selects record = false) :
      Tracks (requestShard requestId) (step whole call).2 state.normalizer := by
    refine step_unselected tracks call spared ?_
    intro returnedRecord same
    cases answered.symm.trans same
    exact other
  generalize (step whole call).2 = next at transition tables passed ⊢
  cases transition with
  | handled source result next opened valid outcome =>
      have projects := tracks.projects ⟨opened, valid⟩
      cases reads requestId (.canonical record) with
      | event found recovery success same =>
          simp only [recoveryEvent, Option.ite_none_right_eq_some, Option.some.injEq] at recovery
          obtain ⟨⟨own, listed⟩, rfl⟩ := recovery
          have selected := (request_selects requestId record).mpr
            ⟨own, listed_direction (outcome_replayed outcome listed)⟩
          rw [same]
          exact ⟨observe_agrees projects outcome selected listed, fun after observed =>
            ⟨tables, fun _ => observe_lockstep projects outcome selected listed after observed⟩⟩
      | passes other success same =>
          rw [same]
          constructor
          · intro raised
            cases raised
          rintro after ⟨⟩
          apply passed
          rw [← Bool.not_eq_true, request_selects]
          rintro ⟨own, restores⟩
          have unlisted : record.event ∉ relevant := fun listed => by
            rw [recoveryEvent, if_pos ⟨own, listed⟩] at other
            cases other
          cases direction : record.direction with
          | none => exact unlisted_direction outcome unlisted direction
          | some way =>
              cases way with
              | d2h => exact restores direction
              | h2d => exact success ⟨own, unlisted, direction⟩
      | fails failure same =>
          rw [same]
          refine ⟨by simp [disagreement], ?_⟩
          rintro after ⟨⟩

/-- The canonical records of a file, without the other kinds. -/
def canonicalRecord : EventRecord → Option KVTransferObservation
  | .canonical record => some record
  | _ => none

theorem fold_canonical (requestId : String) (records : List EventRecord) (state : ChainState) :
    records.foldlM (ChainState.step requestId) state =
      (records.filterMap canonicalRecord).foldlM
        (fun state record => state.step requestId (.canonical record)) state := by
  induction records generalizing state with
  | nil => rfl
  | cons record records induction =>
      rw [List.foldlM_cons, List.filterMap_cons]
      cases record with
      | hostFact fact => exact induction state
      | correlated record => exact induction state
      | canonical record =>
          exact congrArg (state.step requestId (.canonical record) >>= ·) (funext induction)

theorem fold_agrees (requestId : String) (calls : List Call) (whole : LifecycleNormalizer)
    (state : ChainState) (tracks : Tracks (requestShard requestId) whole state.normalizer)
    (spared : Machine.Along step Spared whole calls) :
    (emitted whole calls).foldlM
      (fun state record => state.step requestId (.canonical record)) state ≠
        .error disagreement := by
  induction calls generalizing whole state with
  | nil =>
      intro raised
      cases raised
  | cons call calls induction =>
      obtain ⟨here, later⟩ := spared
      rw [emitted_cons]
      cases answered : returned (step whole call).1 with
      | none =>
          apply induction _ state _ later
          apply step_unselected tracks call here
          intro record same
          cases answered.symm.trans same
      | some record =>
          obtain ⟨agrees, lockstep⟩ := step_agrees requestId tracks call here record answered
          rw [Option.toList_some, List.singleton_append, List.foldlM_cons]
          intro raised
          rcases bind_eq_error.mp raised with refused | ⟨after, observed, raised⟩
          · exact agrees refused
          · exact induction _ after (lockstep after observed) later raised

/-- However a live normalizer with no more room than the default was called, the validator
never finds its recorded run in disagreement with the replayed evidence: a request
without correlated records is accepted, or rejected for the shape of its chain. -/
theorem live_run_never_disagrees (transfers admissions : Nat)
    (few : transfers ≤ defaultMaxCorrelatedTransfers)
    (rare : admissions ≤ defaultMaxRecoveryAdmissions) (calls : List Call)
    (spared : Machine.Along step Spared (fresh transfers admissions true) calls)
    (records : List EventRecord) (requestId : String)
    (recorded : records.filterMap canonicalRecord =
      emitted (fresh transfers admissions true) calls)
    (uncorrelated : records.any (isCorrelatedFor requestId) = false) :
    validateRestoreChain records requestId ≠ .error disagreement := by
  intro raised
  unfold validateRestoreChain at raised
  rw [uncorrelated, if_neg Bool.false_ne_true, fold_canonical, recorded] at raised
  rcases bind_eq_error.mp raised with refused | ⟨state, _, raised⟩
  · refine fold_agrees requestId calls _ _ ⟨NormalizerTables.TableInvariant.fresh _ _ _, ?_⟩ spared
      refused
    exact fun _ => projects_fresh _ transfers admissions _ _ true few rare
  · rcases bind_eq_error.mp raised with refused | ⟨_, _, rest⟩
    · exact absurd (raise_if_error refused) (by decide)
    · cases rest

theorem sample_run_never_disagrees :
    validateRestoreChain ((emitted (fresh 1 1 true) sampleRestore).map EventRecord.canonical)
      "request-1" ≠ .error disagreement :=
  live_run_never_disagrees 1 1 (by decide) (by decide) sampleRestore ⟨trivial, trivial, trivial⟩ _ _
    rfl rfl

end KVTransferObservability.LiveReplay
