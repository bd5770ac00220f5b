import KVTransferObservability.Schema

/-!
# Host-reported facts

`host_facts.py`: one process-local claim of the host, with a closed shape for each
event. A fact carries the process UUID of the binding that built it.
-/

namespace KVTransferObservability.HostFacts

open PythonValues Schema

set_option autoImplicit false

inductive HostFactEvent
  | transferReceipt
  | recoveryRequeued
  | recoveryAdmitted
  | firstCompute
  deriving DecidableEq, Repr

def HostFactEvent.all : List HostFactEvent :=
  [.transferReceipt, .recoveryRequeued, .recoveryAdmitted, .firstCompute]

def HostFactEvent.value : HostFactEvent → String
  | .transferReceipt => "transfer_receipt"
  | .recoveryRequeued => "recovery_requeued"
  | .recoveryAdmitted => "recovery_admitted"
  | .firstCompute => "first_compute"

/-- `[0-9a-f]{32}`. -/
def isProcessUuid (text : String) : Bool :=
  decide (text.toList.length = 32) && text.toList.all isHexDigit

abbrev ProcessUuid := { text : String // isProcessUuid text = true }

def requireProcessUuid (value : PyObject) (message : String) : Py ProcessUuid :=
  match value with
  | .str text =>
      if valid : isProcessUuid text = true then .ok ⟨text, valid⟩
      else .error (.valueError message)
  | _ => .error (.valueError message)

/-- A bounded tuple of integers, sorted and without repetition. -/
abbrev UintRoster (maximum : Nat) :=
  { items : List (Uint maximum) //
    items.length ≤ maxTransferAssociations ∧ sortedUnique Subtype.val items = true }

def UintRoster.empty (maximum : Nat) : UintRoster maximum := ⟨[], Nat.zero_le _, rfl⟩

/-- `_roster`. -/
def requireRoster (value : PyObject) (name : String) (maximum : Nat) :
    Py (UintRoster maximum) :=
  match value with
  | .tuple objects =>
      if objects.length ≤ maxTransferAssociations then do
        let items ← objects.mapM fun item => requireUint item name maximum
        if valid : items.length ≤ maxTransferAssociations ∧
            sortedUnique Subtype.val items = true then .ok ⟨items, valid⟩
        else .error (.valueError (name ++ " must be sorted and unique"))
      else .error (.valueError (name ++ " must be a bounded tuple"))
  | _ => .error (.valueError (name ++ " must be a bounded tuple"))

inductive HostFactField
  | jobId
  | rank
  | recoveryEpoch
  | jobIds
  | ranks
  | computeKind
  | requeueReason
  deriving DecidableEq, Repr

def hostFactFields : List HostFactField :=
  [.jobId, .rank, .recoveryEpoch, .jobIds, .ranks, .computeKind, .requeueReason]

/-- The closed schema of each event, in the order of `hostFactFields`. -/
def hostFactShapes : HostFactEvent → List HostFactField
  | .transferReceipt => [.jobId, .ranks]
  | .recoveryRequeued => [.recoveryEpoch, .requeueReason]
  | .recoveryAdmitted => [.recoveryEpoch, .jobIds]
  | .firstCompute => [.rank, .recoveryEpoch, .jobIds, .computeKind]

structure HostFactFields where
  event : HostFactEvent
  processUuid : ProcessUuid
  observedAtNs : Uint uint64Max
  requestId : RequestId
  jobId : Option (Uint uint64Max) := none
  rank : Option (Uint uint32Max) := none
  recoveryEpoch : Option (PositiveUint uint64Max) := none
  jobIds : UintRoster uint64Max := UintRoster.empty uint64Max
  ranks : UintRoster uint32Max := UintRoster.empty uint32Max
  computeKind : Option ComputeKind := none
  requeueReason : Option RecoveryRequeueReason := none
  deriving DecidableEq

/-- Neither `None` nor the empty tuple. -/
def HostFactFields.isPopulated (fields : HostFactFields) : HostFactField → Bool
  | .jobId => fields.jobId.isSome
  | .rank => fields.rank.isSome
  | .recoveryEpoch => fields.recoveryEpoch.isSome
  | .jobIds => !fields.jobIds.val.isEmpty
  | .ranks => !fields.ranks.val.isEmpty
  | .computeKind => fields.computeKind.isSome
  | .requeueReason => fields.requeueReason.isSome

structure HostFact extends HostFactFields where
  shape : hostFactFields.filter toHostFactFields.isPopulated = hostFactShapes event

theorem host_fact_ext (first second : HostFact)
    (same : first.toHostFactFields = second.toHostFactFields) : first = second := by
  cases first
  cases second
  cases same
  rfl

instance : DecidableEq HostFact := fun first second =>
  decidable_of_iff (first.toHostFactFields = second.toHostFactFields)
    ⟨host_fact_ext first second, congrArg HostFact.toHostFactFields⟩

structure HostFactArguments where
  event : Argument HostFactEvent
  processUuid : PyObject
  observedAtNs : PyObject
  requestId : PyObject
  jobId : PyObject := .none
  rank : PyObject := .none
  recoveryEpoch : PyObject := .none
  jobIds : PyObject := .tuple []
  ranks : PyObject := .tuple []
  computeKind : Argument ComputeKind := .other .none
  requeueReason : Argument RecoveryRequeueReason := .other .none

def HostFact.make (arguments : HostFactArguments) : Py HostFact := do
  let event ← arguments.event.expect "event must be a HostFactEvent"
  let processUuid ← requireProcessUuid arguments.processUuid
    "process_uuid must be 32 lowercase hex digits"
  let observedAtNs ← requireUint arguments.observedAtNs "observed_at_ns" uint64Max
  let requestId ← requirePrintableAscii arguments.requestId "request_id"
    maxRuntimeRequestIdBytes
  let jobId ← optional arguments.jobId fun value => requireUint value "job_id" uint64Max
  let rank ← optional arguments.rank fun value => requireUint value "rank" uint32Max
  let recoveryEpoch ← optional arguments.recoveryEpoch
    fun value => requirePositiveUint value "recovery_epoch" uint64Max
  let jobIds ← requireRoster arguments.jobIds "job_ids" uint64Max
  let ranks ← requireRoster arguments.ranks "ranks" uint32Max
  let computeKind ← arguments.computeKind.expectOptional "compute_kind must be a ComputeKind"
  let requeueReason ← arguments.requeueReason.expectOptional
    "requeue_reason must be a RecoveryRequeueReason"
  let fields : HostFactFields :=
    { event, processUuid, observedAtNs, requestId, jobId, rank, recoveryEpoch, jobIds, ranks,
      computeKind, requeueReason }
  if shape : hostFactFields.filter fields.isPopulated = hostFactShapes fields.event then
    .ok { fields with shape := shape }
  else .error (.valueError "fields do not match the closed host fact schema")

end KVTransferObservability.HostFacts
