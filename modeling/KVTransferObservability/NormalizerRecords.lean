import KVTransferObservability.Normalization

/-!
# The records the normalizer builds

The arguments each handler passes to the canonical constructor, and when the
constructor accepts them. Most are accepted whatever the source observation is;
the others ask for a recovery epoch or for one process scope.
-/

namespace KVTransferObservability.NormalizerRecords

open Library PythonValues Schema Observation Normalization
open LifecycleNormalizer

set_option autoImplicit false

def startEvent (operation : TransferOperation) : ObservationEvent :=
  if operation = .d2hPreserve then .preserveStarted else .restoreStarted

def startedFields (source : CoreTransferSubmitted) : ObservationFields :=
  { event := startEvent source.operation
    identity := source.identity
    observedAtNs := source.observedAtNs
    transfer := some source.transfer
    direction := some source.operation.direction
    blockCount := some source.blockCount }

def failedFields (pending : CoreTransferSubmitted) (source : CoreTransferCompleted) :
    ObservationFields :=
  { event := .transferFailed
    identity := pending.identity
    observedAtNs := source.observedAtNs
    transfer := some source.transfer
    direction := some pending.operation.direction
    terminalReason := some .backendFailure }

/-- The time from submission to completion; a difference of two uint64 values
that the handlers take only when it is not negative. -/
def durationBetween (first last : Uint uint64Max) : Uint uint64Max :=
  ⟨last.val - first.val, (Nat.sub_le _ _).trans last.property⟩

def restoredFields (pending : CoreTransferSubmitted) (source : CoreTransferCompleted)
    (receipt : ReceiptIdentity) : ObservationFields :=
  { event := .restoreCompleted
    identity := pending.identity
    observedAtNs := source.observedAtNs
    transfer := some source.transfer
    direction := some .h2d
    receipt := some receipt
    bytesMoved := source.bytesMoved
    blockCount := some pending.blockCount
    durationNs := some (durationBetween pending.observedAtNs source.observedAtNs)
    deviceDurationNs := source.deviceDurationNs }

def preservedFields (pending : CoreTransferSubmitted) (source : CoreTransferCompleted) :
    ObservationFields :=
  { event := .preserveCompleted
    identity := pending.identity
    observedAtNs := source.observedAtNs
    transfer := some source.transfer
    direction := some .d2h
    bytesMoved := source.bytesMoved
    blockCount := some pending.blockCount
    durationNs := some (durationBetween pending.observedAtNs source.observedAtNs)
    deviceDurationNs := source.deviceDurationNs }

def cancelledFields (pending : CoreTransferSubmitted) (source : CoreTransferCancelled)
    (reason : TransferTerminalReason) : ObservationFields :=
  { event := .transferCancelled
    identity := pending.identity
    observedAtNs := source.observedAtNs
    transfer := some source.transfer
    direction := some pending.operation.direction
    terminalReason := some reason }

def requeuedFields (source : CoreRecoveryRequeued) : ObservationFields :=
  { event := .recoveryRequeued
    identity := source.identity
    observedAtNs := source.observedAtNs
    requeueReason := some source.reason }

def admittedFields (source : CoreRecoveryAdmitted) : ObservationFields :=
  { event := .recoveryAdmitted
    identity := source.identity
    observedAtNs := source.observedAtNs
    associatedTransfers := source.transfers.val }

def computedFields (source : FirstComputeObserved) : ObservationFields :=
  { event := .firstCompute
    identity := source.identity
    observedAtNs := source.observedAtNs
    receipt := some source.receipt
    associatedTransfers := source.transfers.val
    computeKind := some source.computeKind }

theorem started_shape (source : CoreTransferSubmitted) :
    validateEventShape (startedFields source) = .ok () := by
  rcases source with ⟨identity, transfer, operation, blocks, time⟩
  cases operation <;> rfl

theorem failed_shape (pending : CoreTransferSubmitted) (source : CoreTransferCompleted) :
    validateEventShape (failedFields pending source) = .ok () := rfl

theorem preserved_shape (pending : CoreTransferSubmitted) (source : CoreTransferCompleted)
    (moved : source.bytesMoved ≠ none) :
    validateEventShape (preservedFields pending source) = .ok () := by
  rcases source with ⟨transfer, time, success, bytes, device, receipt⟩
  cases bytes with
  | none => exact absurd rfl moved
  | some bytes => cases device <;> rfl

theorem restored_shape (pending : CoreTransferSubmitted) (source : CoreTransferCompleted)
    (receipt : ReceiptIdentity) (moved : source.bytesMoved ≠ none)
    (scope : receipt.processUuid = source.transfer.processUuid) :
    validateEventShape (restoredFields pending source receipt) = .ok () := by
  rcases source with ⟨transfer, time, success, bytes, device, received⟩
  cases bytes with
  | none => exact absurd rfl moved
  | some bytes =>
      rw [validate_event_shape_iff]
      refine ⟨?_, ?_, rfl, rfl, ?_, rfl, rfl, rfl, rfl⟩
      · cases device <;> rfl
      · cases device <;> rfl
      · simp [restoredFields, receiptOutOfScope, scope]

theorem restored_shape_scope (pending : CoreTransferSubmitted)
    (source : CoreTransferCompleted) (receipt : ReceiptIdentity)
    (shape : validateEventShape (restoredFields pending source receipt) = .ok ()) :
    receipt.processUuid = source.transfer.processUuid := by
  have scope := ((validate_event_shape_iff _).mp shape).restoreScope
  simpa [restoredFields, receiptOutOfScope] using scope

theorem cancelled_shape (pending : CoreTransferSubmitted) (source : CoreTransferCancelled)
    (reason : TransferTerminalReason) (cancellation : reason ∈ cancellationReasons) :
    validateEventShape (cancelledFields pending source reason) = .ok () := by
  cases reason <;> first | rfl | exact absurd cancellation (by decide)

theorem epoch_known (identity : ObservationIdentity) :
    identity.recoveryEpoch.isNone = false ↔ identity.recoveryEpoch ≠ none := by
  cases identity.recoveryEpoch <;> simp

theorem requeued_shape (source : CoreRecoveryRequeued)
    (epoch : source.identity.recoveryEpoch ≠ none) :
    validateEventShape (requeuedFields source) = .ok () := by
  have known := (epoch_known source.identity).mpr epoch
  rw [validate_event_shape_iff]
  refine ⟨rfl, rfl, rfl, rfl, rfl, rfl, rfl, ?_, rfl⟩
  simpa only [requeuedFields, Bool.and_eq_false_iff] using Or.inr known

theorem requeued_shape_epoch (source : CoreRecoveryRequeued)
    (shape : validateEventShape (requeuedFields source) = .ok ()) :
    source.identity.recoveryEpoch ≠ none := by
  have epoch := ((validate_event_shape_iff _).mp shape).epoch
  rw [Bool.and_eq_false_iff] at epoch
  rcases epoch with listed | known
  · simp [requeuedFields] at listed
  · exact (epoch_known source.identity).mp known

theorem admitted_shape (source : CoreRecoveryAdmitted)
    (epoch : source.identity.recoveryEpoch ≠ none) :
    validateEventShape (admittedFields source) = .ok () := by
  rcases source with ⟨identity, ⟨⟨transfers, bounded⟩, nonempty⟩, time⟩
  have known := (epoch_known identity).mpr epoch
  cases transfers with
  | nil => exact absurd rfl nonempty
  | cons transfer transfers =>
      rw [validate_event_shape_iff]
      refine ⟨rfl, rfl, rfl, rfl, rfl, rfl, rfl, ?_, rfl⟩
      simpa only [admittedFields, Bool.and_eq_false_iff] using Or.inr known

theorem computed_shape (source : FirstComputeObserved)
    (epoch : source.identity.recoveryEpoch ≠ none)
    (scope : ∀ transfer ∈ source.transfers.val.val,
      transfer.processUuid = source.receipt.processUuid) :
    validateEventShape (computedFields source) = .ok () := by
  rcases source with ⟨host, identity, receipt, ⟨⟨transfers, bounded⟩, nonempty⟩, kind, time⟩
  have known := (epoch_known identity).mpr epoch
  cases transfers with
  | nil => exact absurd rfl nonempty
  | cons transfer transfers =>
      rw [validate_event_shape_iff]
      refine ⟨rfl, rfl, rfl, rfl, rfl, rfl, rfl, ?_, ?_⟩
      · simpa only [computedFields, Bool.and_eq_false_iff] using Or.inr known
      · simpa [computedFields, rosterOutOfScope] using scope

theorem computed_shape_epoch (source : FirstComputeObserved)
    (shape : validateEventShape (computedFields source) = .ok ()) :
    source.identity.recoveryEpoch ≠ none := by
  have epoch := ((validate_event_shape_iff _).mp shape).epoch
  rw [Bool.and_eq_false_iff] at epoch
  rcases epoch with listed | known
  · simp [computedFields] at listed
  · exact (epoch_known source.identity).mp known

/-! ## Emission -/

theorem emit_shape (fields : ObservationFields) (shape : validateEventShape fields = .ok ()) :
    emit fields.arguments = .ok (some { fields with shape := shape }) := by
  rw [emit, make_arguments, of_fields_shape fields shape]
  rfl

theorem emit_invalid (arguments : ObservationArguments) (error : PyError)
    (raised : emit arguments = .error error) : ∃ message, error = .valueError message :=
  OnlyValueErrors.map some (make_errors arguments) error raised

theorem emit_unshaped (fields : ObservationFields)
    (unshaped : validateEventShape fields ≠ .ok ()) :
    ∃ message, emit fields.arguments = .error (.valueError message) := by
  cases result : emit fields.arguments with
  | ok record =>
      rw [emit, make_arguments, KVTransferObservation.ofFields] at result
      split at result
      · rename_i shape
        exact absurd shape unshaped
      · cases result
  | error error =>
      obtain ⟨message, rfl⟩ := emit_invalid _ error result
      exact ⟨message, rfl⟩

/-- The canonical constructor refuses a cancellation reason that is not an
enumeration member. -/
theorem emit_text_reason (fields : ObservationFields) (object : PyObject)
    (text : object ≠ .none) :
    ∃ message, emit { fields.arguments with terminalReason := .other object } =
      .error (.valueError message) := by
  refine ⟨"terminal_reason must be a TransferTerminalReason", ?_⟩
  unfold emit KVTransferObservation.make ObservationFields.arguments
  simp only [Argument.expect_typed, require_uint_value, Argument.expect_optional_of_option,
    require_associated_transfers_value, bind, Except.bind]
  cases object <;> first | rfl | exact absurd rfl text

end KVTransferObservability.NormalizerRecords
