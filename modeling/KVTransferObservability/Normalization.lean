import KVTransferObservability.Library.Dict
import KVTransferObservability.Library.Machine
import KVTransferObservability.Observation

/-!
# Bounded normalization of host lifecycle observations

`normalization.py`: the six typed source observations and `LifecycleNormalizer`.
A handler may change the normalizer and raise afterwards, so every handler
returns what it returned or raised together with the object it leaves behind.
-/

namespace KVTransferObservability.Normalization

open Library PythonValues Schema Observation

set_option autoImplicit false

def defaultMaxCorrelatedTransfers : Nat := 4096
def defaultMaxRecoveryAdmissions : Nat := 4096

inductive SourceHost
  | vllm
  | vllmAscend
  deriving DecidableEq, Repr

inductive TransferOperation
  | d2hPreserve
  | h2dRestore
  deriving DecidableEq, Repr

namespace TransferOperation

def all : List TransferOperation := [.d2hPreserve, .h2dRestore]

def value : TransferOperation → String
  | .d2hPreserve => "d2h_preserve"
  | .h2dRestore => "h2d_restore"

def direction : TransferOperation → TransferDirection
  | .d2hPreserve => .d2h
  | .h2dRestore => .h2d

end TransferOperation

def requireUint64 (value : PyObject) (name : String) : Py (Uint uint64Max) :=
  checkUint value uint64Max (name ++ " must be a uint64")

def requirePositive (value : PyObject) (name : String) (maximum : Nat) :
    Py (PositiveUint maximum) :=
  checkPositiveUint value maximum
    (name ++ " must be a positive integer <= " ++ toString maximum)

/-! ## Source observations -/

structure CoreTransferSubmitted where
  identity : ObservationIdentity
  transfer : TransferIdentity
  operation : TransferOperation
  blockCount : PositiveUint uint32Max
  observedAtNs : Uint uint64Max
  deriving DecidableEq

def CoreTransferSubmitted.make (identity : Argument ObservationIdentity)
    (transfer : Argument TransferIdentity) (operation : Argument TransferOperation)
    (blockCount observedAtNs : PyObject) : Py CoreTransferSubmitted := do
  let identity ← identity.expect "identity must be an ObservationIdentity"
  let transfer ← transfer.expect "transfer must be a TransferIdentity"
  let operation ← operation.expect "operation must be a TransferOperation"
  let blockCount ← requirePositive blockCount "block_count" uint32Max
  let observedAtNs ← requireUint64 observedAtNs "observed_at_ns"
  .ok { identity, transfer, operation, blockCount, observedAtNs }

structure CoreTransferCompleted where
  transfer : TransferIdentity
  observedAtNs : Uint uint64Max
  success : Bool
  bytesMoved : Option (PositiveUint uint64Max)
  deviceDurationNs : Option (PositiveUint uint64Max)
  receipt : Option ReceiptIdentity
  deriving DecidableEq

/-- `type(success) is bool`. -/
def requireBool (value : PyObject) (message : String) : Py Bool :=
  match value with
  | .bool flag => .ok flag
  | _ => .error (.valueError message)

def CoreTransferCompleted.make (transfer : Argument TransferIdentity)
    (observedAtNs success bytesMoved deviceDurationNs : PyObject)
    (receipt : Argument ReceiptIdentity) : Py CoreTransferCompleted := do
  let transfer ← transfer.expect "transfer must be a TransferIdentity"
  let observedAtNs ← requireUint64 observedAtNs "observed_at_ns"
  let success ← requireBool success "success must be a bool"
  let bytesMoved ← optional bytesMoved
    fun value => requirePositive value "bytes_moved" uint64Max
  let deviceDurationNs ← optional deviceDurationNs
    fun value => requirePositive value "device_duration_ns" uint64Max
  let receipt ← receipt.expectOptional "receipt must be a ReceiptIdentity"
  .ok { transfer, observedAtNs, success, bytesMoved, deviceDurationNs, receipt }

/-- Membership in the set of cancellation reasons. The members are strings, so a
plain string with the value of a member is found in the set as well. -/
def isCancellationReason : Argument TransferTerminalReason → Bool
  | .typed reason => cancellationReasons.contains reason
  | .other object =>
      (memberOfValue cancellationReasons TransferTerminalReason.value object).isSome

structure CoreTransferCancelled where
  transfer : TransferIdentity
  observedAtNs : Uint uint64Max
  reason : Argument TransferTerminalReason
  cancellation : isCancellationReason reason = true

def CoreTransferCancelled.make (transfer : Argument TransferIdentity)
    (observedAtNs : PyObject) (reason : Argument TransferTerminalReason) :
    Py CoreTransferCancelled := do
  let transfer ← transfer.expect "transfer must be a TransferIdentity"
  let observedAtNs ← requireUint64 observedAtNs "observed_at_ns"
  match reason with
  | .other object =>
      if !object.hashable then .error (.typeError "unhashable type")
      else if cancellation : isCancellationReason (.other object) = true then
        .ok { transfer, observedAtNs, reason := .other object, cancellation }
      else .error (.valueError "cancellation requires a cancellation reason")
  | .typed member =>
      if cancellation : isCancellationReason (.typed member) = true then
        .ok { transfer, observedAtNs, reason := .typed member, cancellation }
      else .error (.valueError "cancellation requires a cancellation reason")

structure CoreRecoveryRequeued where
  identity : ObservationIdentity
  reason : RecoveryRequeueReason
  observedAtNs : Uint uint64Max
  deriving DecidableEq

def CoreRecoveryRequeued.make (identity : Argument ObservationIdentity)
    (reason : Argument RecoveryRequeueReason) (observedAtNs : PyObject) :
    Py CoreRecoveryRequeued := do
  let identity ← identity.expect "identity must be an ObservationIdentity"
  let reason ← reason.expect "reason must be a RecoveryRequeueReason"
  let observedAtNs ← requireUint64 observedAtNs "observed_at_ns"
  .ok { identity, reason, observedAtNs }

abbrev NonemptyRoster := { roster : TransferRoster // roster.val ≠ [] }

/-- The tuple checks shared by admissions and first-compute observations. -/
def requireTransfers (transfers : Argument (List TransferIdentity)) : Py NonemptyRoster :=
  match transfers with
  | .typed transfers =>
      if nonempty : transfers ≠ [] then
        if sorted : sortedUnique TransferIdentity.value transfers = true then
          if bounded : transfers.length ≤ maxTransferAssociations then
            .ok ⟨⟨transfers, bounded, sorted⟩, nonempty⟩
          else .error (.valueError "transfers exceeds the bounded association limit")
        else .error (.valueError "transfers must be sorted and unique")
      else .error (.valueError "transfers must be a nonempty tuple")
  | .other (.tuple (_ :: _)) => .error (.valueError "transfers contains an invalid identity")
  | .other _ => .error (.valueError "transfers must be a nonempty tuple")

@[simp] theorem require_transfers_value (roster : TransferRoster) (nonempty : roster.val ≠ []) :
    requireTransfers (.typed roster.val) = .ok ⟨roster, nonempty⟩ := by
  simp [requireTransfers, nonempty, roster.property.1, roster.property.2]

structure CoreRecoveryAdmitted where
  identity : ObservationIdentity
  transfers : NonemptyRoster
  observedAtNs : Uint uint64Max
  deriving DecidableEq

def CoreRecoveryAdmitted.make (identity : Argument ObservationIdentity)
    (transfers : Argument (List TransferIdentity)) (observedAtNs : PyObject) :
    Py CoreRecoveryAdmitted := do
  let identity ← identity.expect "identity must be an ObservationIdentity"
  let transfers ← requireTransfers transfers
  let observedAtNs ← requireUint64 observedAtNs "observed_at_ns"
  .ok { identity, transfers, observedAtNs }

structure FirstComputeObserved where
  source : SourceHost
  identity : ObservationIdentity
  receipt : ReceiptIdentity
  transfers : NonemptyRoster
  computeKind : ComputeKind
  observedAtNs : Uint uint64Max
  deriving DecidableEq

def FirstComputeObserved.make (source : Argument SourceHost)
    (identity : Argument ObservationIdentity) (receipt : Argument ReceiptIdentity)
    (transfers : Argument (List TransferIdentity)) (computeKind : Argument ComputeKind)
    (observedAtNs : PyObject) : Py FirstComputeObserved := do
  let source ← source.expect "source must be a SourceHost"
  let identity ← identity.expect "identity must be an ObservationIdentity"
  let receipt ← receipt.expect "receipt must be a ReceiptIdentity"
  let transfers ← requireTransfers transfers
  let computeKind ← computeKind.expect "compute_kind must be a ComputeKind"
  let observedAtNs ← requireUint64 observedAtNs "observed_at_ns"
  .ok { source, identity, receipt, transfers, computeKind, observedAtNs }

/-- `unsupported` is an object of any other class. -/
inductive SourceObservation
  | submitted (source : CoreTransferSubmitted)
  | completed (source : CoreTransferCompleted)
  | cancelled (source : CoreTransferCancelled)
  | requeued (source : CoreRecoveryRequeued)
  | admitted (source : CoreRecoveryAdmitted)
  | firstCompute (source : FirstComputeObserved)
  | unsupported

/-! ## The normalizer -/

structure NormalizationCounters where
  accepted : Nat := 0
  invalid : Nat := 0
  capacityDropped : Nat := 0
  evidenceDisabledDropped : Nat := 0
  closedDropped : Nat := 0
  deriving DecidableEq, Repr

structure CompletedRestore where
  identity : ObservationIdentity
  receipt : ReceiptIdentity
  observedAtNs : Uint uint64Max
  deriving DecidableEq

structure RecoveryAdmission where
  transfers : TransferRoster
  observedAtNs : Uint uint64Max
  deriving DecidableEq

structure LifecycleNormalizer where
  maxCorrelatedTransfers : Nat
  maxRecoveryAdmissions : Nat
  retainRestoreReceipts : Bool
  pending : Dict TransferIdentity CoreTransferSubmitted := ∅
  completedRestores : Dict TransferIdentity CompletedRestore := ∅
  admissions : Dict ObservationIdentity RecoveryAdmission := ∅
  counterValues : NormalizationCounters := {}
  evidenceValid : Bool := true
  closed : Bool := false

namespace LifecycleNormalizer

def requireCapacity (value : PyObject) (name : String) :
    Py (PositiveUint maxTransferAssociations) :=
  checkPositiveUint value maxTransferAssociations
    (name ++ " must be within 1.." ++ toString maxTransferAssociations)

/-- `__init__`. -/
def make (maxCorrelatedTransfers maxRecoveryAdmissions retainRestoreReceipts : PyObject) :
    Py LifecycleNormalizer := do
  let maxCorrelatedTransfers ← requireCapacity maxCorrelatedTransfers
    "max_correlated_transfers"
  let maxRecoveryAdmissions ← requireCapacity maxRecoveryAdmissions "max_recovery_admissions"
  let retainRestoreReceipts ← requireBool retainRestoreReceipts
    "retain_restore_receipts must be a bool"
  .ok { maxCorrelatedTransfers := maxCorrelatedTransfers.val
        maxRecoveryAdmissions := maxRecoveryAdmissions.val
        retainRestoreReceipts := retainRestoreReceipts }

/-- What a handler returned or raised, and the object it leaves behind. -/
abbrev Attempt := Py (Option KVTransferObservation) × LifecycleNormalizer

def invalid (message : String) : Py (Option KVTransferObservation) :=
  .error (.valueError message)

def emit (arguments : ObservationArguments) : Py (Option KVTransferObservation) :=
  (KVTransferObservation.make arguments).map some

def disableForCapacity (self : LifecycleNormalizer) : LifecycleNormalizer :=
  { self with
    evidenceValid := false
    counterValues := { self.counterValues with
      capacityDropped := self.counterValues.capacityDropped + 1 } }

def transferSubmitted (self : LifecycleNormalizer) (source : CoreTransferSubmitted) :
    Attempt :=
  if source.transfer ∈ self.pending ∨ source.transfer ∈ self.completedRestores then
    (invalid "duplicate transfer identity", self)
  else if self.maxCorrelatedTransfers ≤ self.pending.size then
    (.ok none, self.disableForCapacity)
  else
    let event : ObservationEvent :=
      if source.operation = .d2hPreserve then .preserveStarted else .restoreStarted
    (emit
      { event := .typed event
        identity := .typed source.identity
        observedAtNs := .int source.observedAtNs.val
        transfer := .typed source.transfer
        direction := .typed source.operation.direction
        blockCount := .int source.blockCount.val },
      { self with pending := self.pending.insert source.transfer source })

/-- The end of a successful completion: the record is built first, and the
tables change only when that did not raise. -/
def transferSucceeded (self : LifecycleNormalizer) (pending : CoreTransferSubmitted)
    (source : CoreTransferCompleted) (durationNs : Nat) : Attempt :=
  match pending.operation with
  | .h2dRestore =>
      match source.receipt with
      | none => (invalid "successful restore requires a later receipt", self)
      | some receipt =>
        if durationNs = 0 then (invalid "successful restore requires a later receipt", self)
        else if self.retainRestoreReceipts ∧
            self.maxCorrelatedTransfers ≤ self.completedRestores.size then
          (.ok none,
            { self with pending := self.pending.erase source.transfer }.disableForCapacity)
        else
          match emit
            { event := .typed .restoreCompleted
              identity := .typed pending.identity
              observedAtNs := .int source.observedAtNs.val
              transfer := .typed source.transfer
              direction := .typed .h2d
              receipt := .ofOption source.receipt
              bytesMoved := .ofOption (source.bytesMoved.map Subtype.val)
              blockCount := .int pending.blockCount.val
              durationNs := .int durationNs
              deviceDurationNs := .ofOption (source.deviceDurationNs.map Subtype.val) } with
          | .error error => (.error error, self)
          | .ok result =>
              let completedRestores :=
                if self.retainRestoreReceipts then
                  self.completedRestores.insert source.transfer
                    { identity := pending.identity
                      receipt := receipt
                      observedAtNs := source.observedAtNs }
                else self.completedRestores
              (.ok result,
                { self with
                  completedRestores := completedRestores
                  pending := self.pending.erase source.transfer })
  | .d2hPreserve =>
      if durationNs = 0 ∨ source.receipt ≠ none then
        (invalid "preserve completion has invalid receipt or timing", self)
      else
        match emit
          { event := .typed .preserveCompleted
            identity := .typed pending.identity
            observedAtNs := .int source.observedAtNs.val
            transfer := .typed source.transfer
            direction := .typed .d2h
            bytesMoved := .ofOption (source.bytesMoved.map Subtype.val)
            blockCount := .int pending.blockCount.val
            durationNs := .int durationNs
            deviceDurationNs := .ofOption (source.deviceDurationNs.map Subtype.val) } with
        | .error error => (.error error, self)
        | .ok result =>
            (.ok result, { self with pending := self.pending.erase source.transfer })

def transferCompleted (self : LifecycleNormalizer) (source : CoreTransferCompleted) :
    Attempt :=
  match self.pending.lookup source.transfer with
  | none => (invalid "completion does not match a submitted transfer", self)
  | some pending =>
    if source.observedAtNs.val < pending.observedAtNs.val then
      (invalid "completion does not match a submitted transfer", self)
    else if pending.operation = .d2hPreserve ∧
        source.observedAtNs.val = pending.observedAtNs.val then
      (invalid "D2H completion must follow submission", self)
    else if source.success = false then
      if source.bytesMoved ≠ none ∨ source.receipt ≠ none then
        (invalid "failed completion cannot carry success evidence", self)
      else
        (emit
          { event := .typed .transferFailed
            identity := .typed pending.identity
            observedAtNs := .int source.observedAtNs.val
            transfer := .typed source.transfer
            direction := .typed pending.operation.direction
            terminalReason := .typed .backendFailure },
          { self with pending := self.pending.erase source.transfer })
    else if source.bytesMoved = none then
      (invalid "successful completion requires bytes_moved", self)
    else
      -- The first check makes this difference exact.
      self.transferSucceeded pending source
        (source.observedAtNs.val - pending.observedAtNs.val)

def transferCancelled (self : LifecycleNormalizer) (source : CoreTransferCancelled) :
    Attempt :=
  match self.pending.lookup source.transfer with
  | none => (invalid "cancellation does not match a submitted transfer", self)
  | some pending =>
    if source.observedAtNs.val < pending.observedAtNs.val then
      (invalid "cancellation does not match a submitted transfer", self)
    else
      -- The entry is gone before the record is built, whatever the reason is.
      (emit
        { event := .typed .transferCancelled
          identity := .typed pending.identity
          observedAtNs := .int source.observedAtNs.val
          transfer := .typed source.transfer
          direction := .typed pending.operation.direction
          terminalReason := source.reason },
        { self with pending := self.pending.erase source.transfer })

def recoveryRequeued (self : LifecycleNormalizer) (source : CoreRecoveryRequeued) : Attempt :=
  (emit
    { event := .typed .recoveryRequeued
      identity := .typed source.identity
      observedAtNs := .int source.observedAtNs.val
      requeueReason := .typed source.reason }, self)

/-- A roster entry the admission cannot rest on. -/
def lacksReceipt (self : LifecycleNormalizer) (source : CoreRecoveryAdmitted)
    (transfer : TransferIdentity) : Bool :=
  match self.completedRestores.lookup transfer with
  | none => true
  | some completed =>
      completed.identity != source.identity ||
        decide (completed.observedAtNs.val > source.observedAtNs.val)

def recoveryAdmitted (self : LifecycleNormalizer) (source : CoreRecoveryAdmitted) : Attempt :=
  if source.identity.recoveryEpoch = none then
    (invalid "recovery admission requires an epoch", self)
  else if source.identity ∈ self.admissions then
    (invalid "duplicate recovery admission", self)
  else if self.maxRecoveryAdmissions ≤ self.admissions.size then
    (.ok none, self.disableForCapacity)
  else if source.transfers.val.val.any (self.lacksReceipt source) then
    (invalid "admission roster lacks an exact restore receipt", self)
  else
    (emit
      { event := .typed .recoveryAdmitted
        identity := .typed source.identity
        observedAtNs := .int source.observedAtNs.val
        associatedTransfers := .typed source.transfers.val.val },
      { self with
        admissions := self.admissions.insert source.identity
          { transfers := source.transfers.val, observedAtNs := source.observedAtNs } })

/-- The roster, timing and process checks of a first-compute observation. -/
def matchesAdmission (admitted : Option RecoveryAdmission) (source : FirstComputeObserved) :
    Bool :=
  match admitted with
  | none => false
  | some admitted =>
      admitted.transfers == source.transfers.val &&
        decide (admitted.observedAtNs.val ≤ source.observedAtNs.val) &&
          source.transfers.val.val.all fun transfer =>
            transfer.processUuid == source.receipt.processUuid

def firstCompute (self : LifecycleNormalizer) (source : FirstComputeObserved) : Attempt :=
  if !matchesAdmission (self.admissions.lookup source.identity) source then
    (invalid "first-compute roster does not match admission",
      { self with evidenceValid := false })
  else
    match emit
      { event := .typed .firstCompute
        identity := .typed source.identity
        observedAtNs := .int source.observedAtNs.val
        receipt := .typed source.receipt
        associatedTransfers := .typed source.transfers.val.val
        computeKind := .typed source.computeKind } with
    | .error error => (.error error, self)
    | .ok result =>
        (.ok result,
          { self with
            admissions := self.admissions.erase source.identity
            completedRestores := self.completedRestores.eraseAll source.transfers.val.val })

def normalizeLocked (self : LifecycleNormalizer) : SourceObservation → Attempt
  | .submitted source => self.transferSubmitted source
  | .completed source => self.transferCompleted source
  | .cancelled source => self.transferCancelled source
  | .requeued source => self.recoveryRequeued source
  | .admitted source => self.recoveryAdmitted source
  | .firstCompute source => self.firstCompute source
  | .unsupported => (.error (.typeError "unsupported source observation"), self)

def countAccepted (self : LifecycleNormalizer) : LifecycleNormalizer :=
  { self with counterValues := { self.counterValues with
      accepted := self.counterValues.accepted + 1 } }

def countInvalid (self : LifecycleNormalizer) : LifecycleNormalizer :=
  { self with counterValues := { self.counterValues with
      invalid := self.counterValues.invalid + 1 } }

def countEvidenceDisabledDropped (self : LifecycleNormalizer) : LifecycleNormalizer :=
  { self with counterValues := { self.counterValues with
      evidenceDisabledDropped := self.counterValues.evidenceDisabledDropped + 1 } }

def countClosedDropped (self : LifecycleNormalizer) : LifecycleNormalizer :=
  { self with counterValues := { self.counterValues with
      closedDropped := self.counterValues.closedDropped + 1 } }

/-- The `except (TypeError, ValueError)` clause and the two exits after it. -/
def settle : Attempt → Attempt
  | (.error (.valueError _), self) => (.ok none, self.countInvalid)
  | (.error (.typeError _), self) => (.ok none, self.countInvalid)
  | (.error error, self) => (.error error, self)
  | (.ok none, self) => (.ok none, self)
  | (.ok (some result), self) => (.ok (some result), self.countAccepted)

def normalize (self : LifecycleNormalizer) (source : SourceObservation) : Attempt :=
  if self.closed then (.ok none, self.countClosedDropped)
  else if !self.evidenceValid then (.ok none, self.countEvidenceDisabledDropped)
  else settle (self.normalizeLocked source)

def close (self : LifecycleNormalizer) : LifecycleNormalizer :=
  if self.closed then self
  else { self with closed := true, pending := ∅, completedRestores := ∅, admissions := ∅ }

end LifecycleNormalizer

end KVTransferObservability.Normalization
