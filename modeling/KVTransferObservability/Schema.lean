import KVTransferObservability.PythonValues
import Mathlib.Data.String.Basic

/-!
# Typed lifecycle observation records

`schema.py`: request and worker identities, process-scoped transfer and receipt
identities, and the canonical record with its closed event shapes. A value of
these types carries the checks its Python constructor has made; `make` is the
constructor itself, from unchecked arguments.
-/

namespace KVTransferObservability.Schema

open PythonValues

set_option autoImplicit false

def maxRuntimeRequestIdBytes : Nat := 128
def maxTransferAssociations : Nat := 4096

inductive ObservationEvent
  | preserveStarted
  | preserveCompleted
  | transferStarted
  | transferCompleted
  | transferFailed
  | transferCancelled
  | restoreStarted
  | restoreCompleted
  | recoveryRequeued
  | recoveryAdmitted
  | firstCompute
  deriving DecidableEq, Repr

def ObservationEvent.all : List ObservationEvent :=
  [.preserveStarted, .preserveCompleted, .transferStarted, .transferCompleted, .transferFailed,
    .transferCancelled, .restoreStarted, .restoreCompleted, .recoveryRequeued,
    .recoveryAdmitted, .firstCompute]

def ObservationEvent.value : ObservationEvent → String
  | .preserveStarted => "preserve_started"
  | .preserveCompleted => "preserve_completed"
  | .transferStarted => "transfer_started"
  | .transferCompleted => "transfer_completed"
  | .transferFailed => "transfer_failed"
  | .transferCancelled => "transfer_cancelled"
  | .restoreStarted => "restore_started"
  | .restoreCompleted => "restore_completed"
  | .recoveryRequeued => "recovery_requeued"
  | .recoveryAdmitted => "recovery_admitted"
  | .firstCompute => "first_compute"

inductive TransferDirection
  | d2h
  | h2d
  deriving DecidableEq, Repr

def TransferDirection.all : List TransferDirection := [.d2h, .h2d]

def TransferDirection.value : TransferDirection → String
  | .d2h => "d2h"
  | .h2d => "h2d"

inductive ComputeKind
  | prefill
  | decode
  deriving DecidableEq, Repr

def ComputeKind.all : List ComputeKind := [.prefill, .decode]

def ComputeKind.value : ComputeKind → String
  | .prefill => "prefill"
  | .decode => "decode"

inductive RecoveryRequeueReason
  | loraCapacity
  | prefillThrottled
  | tokenBudget
  | encoderBudget
  | blockCapacity
  | unclassified
  deriving DecidableEq, Repr

def RecoveryRequeueReason.all : List RecoveryRequeueReason :=
  [.loraCapacity, .prefillThrottled, .tokenBudget, .encoderBudget, .blockCapacity,
    .unclassified]

def RecoveryRequeueReason.value : RecoveryRequeueReason → String
  | .loraCapacity => "lora_capacity"
  | .prefillThrottled => "prefill_throttled"
  | .tokenBudget => "token_budget"
  | .encoderBudget => "encoder_budget"
  | .blockCapacity => "block_capacity"
  | .unclassified => "unclassified"

inductive TransferTerminalReason
  | submissionRejected
  | backendFailure
  | invalidMeasurement
  | requestCancelled
  | workerGenerationChanged
  | hostShutdown
  deriving DecidableEq, Repr

def TransferTerminalReason.all : List TransferTerminalReason :=
  [.submissionRejected, .backendFailure, .invalidMeasurement, .requestCancelled,
    .workerGenerationChanged, .hostShutdown]

def TransferTerminalReason.value : TransferTerminalReason → String
  | .submissionRejected => "submission_rejected"
  | .backendFailure => "backend_failure"
  | .invalidMeasurement => "invalid_measurement"
  | .requestCancelled => "request_cancelled"
  | .workerGenerationChanged => "worker_generation_changed"
  | .hostShutdown => "host_shutdown"

def failureReasons : List TransferTerminalReason :=
  [.submissionRejected, .backendFailure, .invalidMeasurement]

def cancellationReasons : List TransferTerminalReason :=
  [.requestCancelled, .workerGenerationChanged, .hostShutdown]

def requireUint (value : PyObject) (fieldName : String) (maximum : Nat) : Py (Uint maximum) :=
  checkUint value maximum
    (fieldName ++ " must be an unsigned integer <= " ++ toString maximum)

def requirePositiveUint (value : PyObject) (fieldName : String) (maximum : Nat) :
    Py (PositiveUint maximum) := do
  let result ← requireUint value fieldName maximum
  if positive : 0 < result.val then .ok ⟨result.val, positive, result.property⟩
  else .error (.valueError (fieldName ++ " must be positive"))

@[simp] theorem require_uint_value {maximum : Nat} (number : Uint maximum)
    (fieldName : String) :
    requireUint (.int number.val) fieldName maximum = .ok number := by
  simp [requireUint]

@[simp] theorem require_positive_uint_value {maximum : Nat} (number : PositiveUint maximum)
    (fieldName : String) :
    requirePositiveUint (.int number.val) fieldName maximum = .ok number := by
  have bounded : requireUint (.int number.val) fieldName maximum =
      .ok ⟨number.val, number.property.2⟩ := by
    simp [requireUint, check_uint_nat _ _ _ number.property.2]
  simp only [requirePositiveUint, bounded, bind, Except.bind, dif_pos number.property.1]

theorem require_uint_errors (value : PyObject) (fieldName : String) (maximum : Nat) :
    OnlyValueErrors (requireUint value fieldName maximum) :=
  OnlyValueErrors.checkUint value maximum _

theorem require_positive_uint_errors (value : PyObject) (fieldName : String) (maximum : Nat) :
    OnlyValueErrors (requirePositiveUint value fieldName maximum) := by
  apply OnlyValueErrors.bind (require_uint_errors value fieldName maximum)
  intro result
  split
  · exact OnlyValueErrors.ok _
  · exact OnlyValueErrors.valueError _

def isAscii (text : String) : Bool := text.toList.all fun character => character.toNat < 128

/-- `str.isprintable` on ASCII text: no control characters. -/
def isPrintable (text : String) : Bool :=
  text.toList.all fun character => 0x20 ≤ character.toNat && character.toNat ≤ 0x7e

def printableAsciiWithin (maxBytes : Nat) (text : String) : Bool :=
  isAscii text && (0 < text.toList.length && text.toList.length ≤ maxBytes) && isPrintable text

abbrev PrintableAscii (maxBytes : Nat) :=
  { text : String // printableAsciiWithin maxBytes text = true }

abbrev RequestId := PrintableAscii maxRuntimeRequestIdBytes

def requirePrintableAscii (value : PyObject) (fieldName : String) (maxBytes : Nat) :
    Py (PrintableAscii maxBytes) :=
  match value with
  | .str text =>
      if isAscii text then
        if valid : printableAsciiWithin maxBytes text = true then .ok ⟨text, valid⟩
        else .error (.valueError (fieldName ++ " must be nonempty printable ASCII within " ++
          toString maxBytes ++ " bytes"))
      else .error (.valueError (fieldName ++ " must be ASCII"))
  | _ => .error (.valueError (fieldName ++ " must be a string"))

@[simp] theorem require_printable_ascii_value {maxBytes : Nat} (text : PrintableAscii maxBytes)
    (fieldName : String) :
    requirePrintableAscii (.str text.val) fieldName maxBytes = .ok text := by
  have valid := text.property
  have ascii : isAscii text.val = true := by
    simp only [printableAsciiWithin, Bool.and_eq_true] at valid
    exact valid.1.1
  simp [requirePrintableAscii, ascii, text.property]

/-! ## Process-scoped identities -/

def isHexDigit (character : Char) : Bool :=
  ('0' ≤ character && character ≤ '9') || ('a' ≤ character && character ≤ 'f')

/-- `0|[1-9][0-9]{0,19}`. -/
def isSequence : List Char → Bool
  | [] => false
  | first :: rest =>
      (first == '0' && rest.isEmpty) ||
        ('1' ≤ first && first ≤ '9' && rest.all Char.isDigit && rest.length ≤ 19)

structure ScopedIdMatch where
  process : List Char
  kind : Char
  seq : List Char

/-- `_PROCESS_SCOPED_ID.fullmatch(value)`, with its three named groups. -/
def processScopedIdMatch (value : String) : Option ScopedIdMatch :=
  match value.toList.drop 32 with
  | ':' :: kind :: ':' :: sequence =>
      let process := value.toList.take 32
      if process.length = 32 ∧ process.all isHexDigit = true ∧ (kind = 't' ∨ kind = 'k') ∧
          isSequence sequence = true then
        some { process := process, kind := kind, seq := sequence }
      else none
  | _ => none

def isScopedId (kind : Char) (value : String) : Bool :=
  match processScopedIdMatch value with
  | none => false
  | some groups =>
      groups.kind == kind && decide (Nat.ofDigitChars 10 groups.seq 0 ≤ uint64Max)

abbrev ScopedId (kind : Char) := { value : String // isScopedId kind value = true }

def requireScopedId (value : PyObject) (fieldName : String) (kind : Char) :
    Py (ScopedId kind) :=
  match value with
  | .str text =>
      if valid : isScopedId kind text = true then .ok ⟨text, valid⟩
      else
        let label := if kind = 't' then "process_uuid:t:sequence" else "process_uuid:k:sequence"
        .error (.valueError (fieldName ++ " must use " ++ label))
  | _ => .error (.valueError (fieldName ++ " must be a string"))

/-- `value.partition(":")[0]`. -/
def processUuidOf (value : String) : String :=
  String.ofList (value.toList.takeWhile (· ≠ ':'))

structure ObservationIdentity where
  requestId : RequestId
  workerGeneration : Uint uint64Max
  rank : Uint uint32Max
  recoveryEpoch : Option (PositiveUint uint64Max)
  deriving DecidableEq

def ObservationIdentity.make (requestId workerGeneration rank recoveryEpoch : PyObject) :
    Py ObservationIdentity := do
  let requestId ← requirePrintableAscii requestId "request_id" maxRuntimeRequestIdBytes
  let workerGeneration ← requireUint workerGeneration "worker_generation" uint64Max
  let rank ← requireUint rank "rank" uint32Max
  let recoveryEpoch ← optional recoveryEpoch
    fun value => requirePositiveUint value "recovery_epoch" uint64Max
  .ok { requestId, workerGeneration, rank, recoveryEpoch }

structure TransferIdentity where
  id : ScopedId 't'
  deriving DecidableEq

namespace TransferIdentity

def value (transfer : TransferIdentity) : String := transfer.id.val

def make (value : PyObject) : Py TransferIdentity :=
  (requireScopedId value "transfer_id" 't').map TransferIdentity.mk

def processUuid (transfer : TransferIdentity) : String := processUuidOf transfer.value

end TransferIdentity

structure ReceiptIdentity where
  id : ScopedId 'k'
  deriving DecidableEq

namespace ReceiptIdentity

def value (receipt : ReceiptIdentity) : String := receipt.id.val

def make (value : PyObject) : Py ReceiptIdentity :=
  (requireScopedId value "receipt_id" 'k').map ReceiptIdentity.mk

def processUuid (receipt : ReceiptIdentity) : String := processUuidOf receipt.value

end ReceiptIdentity

/-- A bounded tuple of transfers, sorted by value and without repetition. -/
abbrev TransferRoster :=
  { transfers : List TransferIdentity //
    transfers.length ≤ maxTransferAssociations ∧
      sortedUnique TransferIdentity.value transfers = true }

def TransferRoster.empty : TransferRoster := ⟨[], by decide, by decide⟩

theorem transfer_roster_nodup (roster : TransferRoster) : roster.val.Nodup :=
  sorted_unique_nodup TransferIdentity.value roster.val roster.property.2

end KVTransferObservability.Schema
