import KVTransferObservability.NormalizerTransitions
import KVTransferObservability.Validation

/-!
# Rejections are `ValueError`s

Whatever the records, the validator returns a count or raises `ValueError`. Its
dictionaries are looked into only where an earlier check has found the key.
-/

namespace KVTransferObservability.ValidationErrors

open Library PythonValues Schema Observation HostFacts Correlated Normalization Adapter
open NormalizerTransitions Validation

set_option autoImplicit false

/-! ## Canonical chains -/

theorem require_transfers_errors (transfers : Argument (List TransferIdentity)) :
    OnlyValueErrors (requireTransfers transfers) := by
  unfold requireTransfers
  repeat' split
  all_goals first | exact OnlyValueErrors.ok _ | exact OnlyValueErrors.valueError _

theorem submitted_errors (identity : Argument ObservationIdentity)
    (transfer : Argument TransferIdentity) (operation : Argument TransferOperation)
    (blockCount observedAtNs : PyObject) :
    OnlyValueErrors (CoreTransferSubmitted.make identity transfer operation blockCount
      observedAtNs) := by
  apply OnlyValueErrors.bind (OnlyValueErrors.expect _ _); intro _
  apply OnlyValueErrors.bind (OnlyValueErrors.expect _ _); intro _
  apply OnlyValueErrors.bind (OnlyValueErrors.expect _ _); intro _
  apply OnlyValueErrors.bind (OnlyValueErrors.checkPositiveUint _ _ _); intro _
  apply OnlyValueErrors.bind (OnlyValueErrors.checkUint _ _ _); intro _
  exact OnlyValueErrors.ok _

theorem completed_errors (transfer : Argument TransferIdentity)
    (observedAtNs bytesMoved deviceDurationNs : PyObject) (success : Bool)
    (receipt : Argument ReceiptIdentity) :
    OnlyValueErrors (CoreTransferCompleted.make transfer observedAtNs (.bool success) bytesMoved
      deviceDurationNs receipt) := by
  apply OnlyValueErrors.bind (OnlyValueErrors.expect _ _); intro _
  apply OnlyValueErrors.bind (OnlyValueErrors.checkUint _ _ _); intro _
  apply OnlyValueErrors.bind (OnlyValueErrors.ok _); intro _
  apply OnlyValueErrors.bind
    (OnlyValueErrors.optional _ fun _ => OnlyValueErrors.checkPositiveUint _ _ _); intro _
  apply OnlyValueErrors.bind
    (OnlyValueErrors.optional _ fun _ => OnlyValueErrors.checkPositiveUint _ _ _); intro _
  apply OnlyValueErrors.bind (OnlyValueErrors.expectOptional _ _); intro _
  exact OnlyValueErrors.ok _

theorem requeued_errors (identity : Argument ObservationIdentity)
    (reason : Argument RecoveryRequeueReason) (observedAtNs : PyObject) :
    OnlyValueErrors (CoreRecoveryRequeued.make identity reason observedAtNs) := by
  apply OnlyValueErrors.bind (OnlyValueErrors.expect _ _); intro _
  apply OnlyValueErrors.bind (OnlyValueErrors.expect _ _); intro _
  apply OnlyValueErrors.bind (OnlyValueErrors.checkUint _ _ _); intro _
  exact OnlyValueErrors.ok _

theorem admitted_errors (identity : Argument ObservationIdentity)
    (transfers : Argument (List TransferIdentity)) (observedAtNs : PyObject) :
    OnlyValueErrors (CoreRecoveryAdmitted.make identity transfers observedAtNs) := by
  apply OnlyValueErrors.bind (OnlyValueErrors.expect _ _); intro _
  apply OnlyValueErrors.bind (require_transfers_errors _); intro _
  apply OnlyValueErrors.bind (OnlyValueErrors.checkUint _ _ _); intro _
  exact OnlyValueErrors.ok _

theorem computed_errors (source : Argument SourceHost) (identity : Argument ObservationIdentity)
    (receipt : Argument ReceiptIdentity) (transfers : Argument (List TransferIdentity))
    (computeKind : Argument ComputeKind) (observedAtNs : PyObject) :
    OnlyValueErrors (FirstComputeObserved.make source identity receipt transfers computeKind
      observedAtNs) := by
  apply OnlyValueErrors.bind (OnlyValueErrors.expect _ _); intro _
  apply OnlyValueErrors.bind (OnlyValueErrors.expect _ _); intro _
  apply OnlyValueErrors.bind (OnlyValueErrors.expect _ _); intro _
  apply OnlyValueErrors.bind (require_transfers_errors _); intro _
  apply OnlyValueErrors.bind (OnlyValueErrors.expect _ _); intro _
  apply OnlyValueErrors.bind (OnlyValueErrors.checkUint _ _ _); intro _
  exact OnlyValueErrors.ok _

theorem require_transfer_errors (record : KVTransferObservation) :
    OnlyValueErrors (requireTransfer record) := by
  unfold requireTransfer
  cases record.transfer with
  | none => exact OnlyValueErrors.valueError _
  | some transfer => exact OnlyValueErrors.ok transfer

theorem replay_errors (episode : Episode) (seen : Finset TransferIdentity)
    (record : KVTransferObservation) : OnlyValueErrors (replay episode seen record) := by
  unfold replay
  split
  · apply OnlyValueErrors.bind (requeued_errors _ _ _); intro _
    exact OnlyValueErrors.ok _
  · apply OnlyValueErrors.bind (require_transfer_errors record); intro _
    apply OnlyValueErrors.bind (OnlyValueErrors.raiseIf _ _); intro _
    apply OnlyValueErrors.bind (submitted_errors _ _ _ _ _); intro _
    exact OnlyValueErrors.ok _
  · apply OnlyValueErrors.bind (require_transfer_errors record); intro _
    apply OnlyValueErrors.bind (OnlyValueErrors.raiseIf _ _); intro _
    apply OnlyValueErrors.bind (completed_errors _ _ _ _ _ _); intro _
    exact OnlyValueErrors.ok _
  · apply OnlyValueErrors.bind (OnlyValueErrors.raiseIf _ _); intro _
    apply OnlyValueErrors.bind (admitted_errors _ _ _); intro _
    exact OnlyValueErrors.ok _
  · apply OnlyValueErrors.bind (computed_errors _ _ _ _ _ _); intro _
    exact OnlyValueErrors.ok _

/-- The normalizer answers every observation; it raises nothing. -/
theorem normalize_errors (normalizer : LifecycleNormalizer) (source : SourceObservation) :
    OnlyValueErrors (normalizer.normalize source).1 := by
  obtain ⟨result, answered, _⟩ := step_transition normalizer (.normalize source)
  have same : (normalizer.normalize source).1 = .ok result := answered
  rw [same]
  exact OnlyValueErrors.ok result

theorem observe_errors (state : ChainState) (record : KVTransferObservation) :
    OnlyValueErrors (state.observe record) := by
  have opening : OnlyValueErrors (state.openEpisode record) := by
    unfold ChainState.openEpisode
    split
    · apply OnlyValueErrors.bind (OnlyValueErrors.raiseIf _ _); intro _
      exact OnlyValueErrors.ok _
    · exact OnlyValueErrors.ok _
  have claiming : OnlyValueErrors (state.claimReceipt record) := by
    unfold ChainState.claimReceipt
    split
    · exact OnlyValueErrors.ok _
    · apply OnlyValueErrors.bind (OnlyValueErrors.raiseIf _ _); intro _
      exact OnlyValueErrors.ok _
  unfold ChainState.observe
  apply OnlyValueErrors.bind opening; intro episodes
  split
  · exact OnlyValueErrors.valueError _
  · apply OnlyValueErrors.bind (OnlyValueErrors.raiseIf _ _); intro _
    apply OnlyValueErrors.bind (OnlyValueErrors.raiseIf _ _); intro _
    apply OnlyValueErrors.bind claiming; intro _
    apply OnlyValueErrors.bind (replay_errors _ _ record); intro replayed
    apply OnlyValueErrors.bind (normalize_errors state.normalizer replayed.1); intro _
    apply OnlyValueErrors.bind (OnlyValueErrors.raiseIf _ _); intro _
    exact OnlyValueErrors.ok _

theorem step_errors (requestId : String) (state : ChainState) (record : EventRecord) :
    OnlyValueErrors (state.step requestId record) := by
  unfold ChainState.step
  split
  · split
    · exact OnlyValueErrors.ok _
    · split
      · apply OnlyValueErrors.bind (OnlyValueErrors.raiseIf _ _); intro _
        exact OnlyValueErrors.ok _
      · exact observe_errors state _
  · exact OnlyValueErrors.ok _

/-! ## Cross-process chains -/

theorem add_errors (requestId : String) (state : CorrelatedGroups) (record : EventRecord) :
    OnlyValueErrors (state.add requestId record) := by
  unfold CorrelatedGroups.add
  split
  · split
    · exact OnlyValueErrors.ok _
    · apply OnlyValueErrors.bind
      · apply OnlyValueErrors.foldlM
        intro owner jobId
        apply OnlyValueErrors.bind (OnlyValueErrors.raiseIf _ _); intro _
        exact OnlyValueErrors.ok _
      · intro _
        exact OnlyValueErrors.ok _
  · exact OnlyValueErrors.ok _

theorem only_errors (items : List CorrelatedHostObservation) (event : CorrelatedEvent) :
    OnlyValueErrors (only items event) := by
  unfold only
  split
  · exact OnlyValueErrors.ok _
  · exact OnlyValueErrors.valueError _

theorem stage_of_errors (items : List CorrelatedHostObservation) (event : CorrelatedEvent)
    (expected : List StageKey) : OnlyValueErrors (stageOf items event expected) := by
  apply OnlyValueErrors.bind (OnlyValueErrors.raiseIf _ _); intro _
  exact OnlyValueErrors.ok _

theorem stage_of_keys (items : List CorrelatedHostObservation) (event : CorrelatedEvent)
    (expected : List StageKey) (stage : Stage) (found : stageOf items event expected = .ok stage) :
    stage.keys = expected.toFinset := by
  rw [stageOf, raise_if_bind_ok] at found
  obtain ⟨exactly, same⟩ := found
  cases same
  rw [Bool.or_eq_false_iff, decide_eq_false_iff_not, not_not] at exactly
  exact exactly.2

theorem observed_at_errors (stage : Stage) (key : StageKey) (present : key ∈ stage.keys) :
    OnlyValueErrors (observedAt stage key) := by
  obtain ⟨item, found⟩ := Dict.lookup_of_mem (Finmap.mem_keys.mp present)
  rw [observedAt, found]
  exact OnlyValueErrors.ok _

theorem check_receipt_errors (requeued admitted : CorrelatedHostObservation)
    (roster : Dict (Uint uint64Max) JobReceipt) (receipt : CorrelatedHostObservation)
    (listed : receipt.jobId ∈ roster.keys.image some) :
    OnlyValueErrors (checkReceipt requeued admitted roster receipt) := by
  obtain ⟨jobId, present, same⟩ := Finset.mem_image.mp listed
  obtain ⟨job, found⟩ := Dict.lookup_of_mem (Finmap.mem_keys.mp present)
  rw [checkReceipt, ← same, Option.bind_some, found]
  exact OnlyValueErrors.raiseIf _ _

theorem check_episode_errors (items : List CorrelatedHostObservation) :
    OnlyValueErrors (checkEpisode items) := by
  apply OnlyValueErrors.bind (only_errors items _); intro requeued
  apply OnlyValueErrors.bind (only_errors items _); intro admitted
  apply OnlyValueErrors.bind (OnlyValueErrors.raiseIf _ _); intro _
  apply OnlyValueErrors.bind_of (OnlyValueErrors.raiseIf _ _)
  intro _ receiptsChecked
  rw [raise_if_ok, Bool.or_eq_false_iff, decide_eq_false_iff_not, not_not] at receiptsChecked
  apply OnlyValueErrors.bind
  · apply OnlyValueErrors.forM
    intro receipt member
    apply check_receipt_errors
    rw [← receiptsChecked.2, List.mem_toFinset]
    exact List.mem_map_of_mem member
  intro _
  apply OnlyValueErrors.bind_of (stage_of_errors _ _ _); intro submitted submittedFound
  apply OnlyValueErrors.bind_of (stage_of_errors _ _ _); intro completed completedFound
  have submittedKeys := stage_of_keys _ _ _ _ submittedFound
  have completedKeys := stage_of_keys _ _ _ _ completedFound
  apply OnlyValueErrors.bind
  · apply OnlyValueErrors.forM
    intro key member
    rw [← List.mem_toFinset] at member
    apply OnlyValueErrors.bind (observed_at_errors completed key (completedKeys ▸ member))
    intro _
    apply OnlyValueErrors.bind (observed_at_errors submitted key (submittedKeys ▸ member))
    intro _
    exact OnlyValueErrors.raiseIf _ _
  intro _
  apply OnlyValueErrors.bind (OnlyValueErrors.raiseIf _ _); intro _
  apply OnlyValueErrors.forM
  intro item _
  apply OnlyValueErrors.bind (OnlyValueErrors.raiseIf _ _); intro _
  apply OnlyValueErrors.forM
  intro key member
  have listed := List.mem_toFinset.mpr (List.mem_of_mem_filter member)
  apply OnlyValueErrors.bind (observed_at_errors completed key (completedKeys ▸ listed))
  intro _
  exact OnlyValueErrors.raiseIf _ _

/-- The validator returns a count or raises `ValueError`. -/
theorem validate_errors (records : List EventRecord) (requestId : String) :
    OnlyValueErrors (validateRestoreChain records requestId) := by
  unfold validateRestoreChain
  split
  · apply OnlyValueErrors.bind (OnlyValueErrors.foldlM (add_errors requestId) records _)
    intro state
    apply OnlyValueErrors.bind (OnlyValueErrors.raiseIf _ _); intro _
    apply OnlyValueErrors.bind
    · apply OnlyValueErrors.forM
      intro group _
      exact check_episode_errors group.2
    · intro _
      exact OnlyValueErrors.ok _
  · apply OnlyValueErrors.bind (OnlyValueErrors.foldlM (step_errors requestId) records _)
    intro state
    apply OnlyValueErrors.bind (OnlyValueErrors.raiseIf _ _); intro _
    exact OnlyValueErrors.ok _

end KVTransferObservability.ValidationErrors
