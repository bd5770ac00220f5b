import KVTransferObservability.HostFacts
import Mathlib.Data.Prod.Lex
import Mathlib.Data.List.Lex
import Mathlib.Data.String.Basic

/-!
# Correlated host records

`correlated.py`: the closed records of the host's cross-process recovery seam. A
record is one link; whether a set of them forms a chain is decided offline.
-/

namespace KVTransferObservability.Correlated

open PythonValues Schema HostFacts

set_option autoImplicit false

def maxCorrelatedRoster : Nat := 4096

structure WorkerReceipt where
  rank : Uint uint32Max
  workerGeneration : ProcessUuid
  deriving DecidableEq

/-- Workers are ordered by rank, then by generation. -/
def WorkerReceipt.key (worker : WorkerReceipt) : Nat ×ₗ String :=
  toLex (worker.rank.val, worker.workerGeneration.val)

/-- Sorted, and no rank or worker twice. -/
def exactWorkers (workers : List WorkerReceipt) : Bool :=
  decide (workers.length ≤ maxCorrelatedRoster) && sortedUnique WorkerReceipt.key workers &&
    decide (workers.map WorkerReceipt.rank).Nodup

abbrev WorkerRoster := { workers : List WorkerReceipt // exactWorkers workers = true }

def WorkerRoster.empty : WorkerRoster := ⟨[], rfl⟩

structure JobReceipt where
  jobId : Uint uint64Max
  workers : WorkerRoster
  nonempty : workers.val ≠ []
  deriving DecidableEq

/-- Jobs are ordered by id, then by their workers. -/
def JobReceipt.key (job : JobReceipt) : Nat ×ₗ List (Nat ×ₗ String) :=
  toLex (job.jobId.val, job.workers.val.map WorkerReceipt.key)

/-- Sorted, no job twice, and boundedly many workers over all jobs. -/
def exactJobs (jobs : List JobReceipt) : Bool :=
  decide (jobs.length ≤ maxCorrelatedRoster) && sortedUnique JobReceipt.key jobs &&
    decide (jobs.map JobReceipt.jobId).Nodup &&
      decide ((jobs.map fun job => job.workers.val.length).sum ≤ maxCorrelatedRoster)

abbrev JobRoster := { jobs : List JobReceipt // exactJobs jobs = true }

def JobRoster.empty : JobRoster := ⟨[], rfl⟩

inductive CorrelatedEvent
  | recoveryRequeued
  | restoreSubmitted
  | restoreCompleted
  | transferReceipt
  | recoveryAdmitted
  | firstCompute
  deriving DecidableEq, Repr

def CorrelatedEvent.all : List CorrelatedEvent :=
  [.recoveryRequeued, .restoreSubmitted, .restoreCompleted, .transferReceipt, .recoveryAdmitted,
    .firstCompute]

def CorrelatedEvent.value : CorrelatedEvent → String
  | .recoveryRequeued => "recovery_requeued"
  | .restoreSubmitted => "restore_submitted"
  | .restoreCompleted => "restore_completed"
  | .transferReceipt => "transfer_receipt"
  | .recoveryAdmitted => "recovery_admitted"
  | .firstCompute => "first_compute"

inductive CorrelatedField
  | jobId
  | rank
  | workerGeneration
  | blockCount
  | workers
  | roster
  | computeKind
  deriving DecidableEq, Repr

def correlatedFields : List CorrelatedField :=
  [.jobId, .rank, .workerGeneration, .blockCount, .workers, .roster, .computeKind]

/-- The fields each event requires, in the order of `correlatedFields`. -/
def required : CorrelatedEvent → List CorrelatedField
  | .recoveryRequeued => []
  | .restoreSubmitted => [.jobId, .rank, .workerGeneration, .blockCount]
  | .restoreCompleted => [.jobId, .rank, .workerGeneration]
  | .transferReceipt => [.jobId, .workers]
  | .recoveryAdmitted => [.roster]
  | .firstCompute => [.rank, .workerGeneration, .roster, .computeKind]

structure CorrelatedFields where
  event : CorrelatedEvent
  schedulerGeneration : ProcessUuid
  requestId : RequestId
  recoveryEpoch : PositiveUint uint64Max
  observedAtNs : Uint uint64Max
  jobId : Option (Uint uint64Max) := none
  rank : Option (Uint uint32Max) := none
  workerGeneration : Option ProcessUuid := none
  blockCount : Option (PositiveUint uint32Max) := none
  workers : WorkerRoster := WorkerRoster.empty
  roster : JobRoster := JobRoster.empty
  computeKind : Option ComputeKind := none
  deriving DecidableEq

/-- Neither `None` nor the empty tuple. -/
def CorrelatedFields.isPopulated (fields : CorrelatedFields) : CorrelatedField → Bool
  | .jobId => fields.jobId.isSome
  | .rank => fields.rank.isSome
  | .workerGeneration => fields.workerGeneration.isSome
  | .blockCount => fields.blockCount.isSome
  | .workers => !fields.workers.val.isEmpty
  | .roster => !fields.roster.val.isEmpty
  | .computeKind => fields.computeKind.isSome

structure CorrelatedHostObservation extends CorrelatedFields where
  shape : correlatedFields.filter toCorrelatedFields.isPopulated = required event

theorem correlated_ext (first second : CorrelatedHostObservation)
    (same : first.toCorrelatedFields = second.toCorrelatedFields) : first = second := by
  cases first
  cases second
  cases same
  rfl

instance : DecidableEq CorrelatedHostObservation := fun first second =>
  decidable_of_iff (first.toCorrelatedFields = second.toCorrelatedFields)
    ⟨correlated_ext first second, congrArg CorrelatedHostObservation.toCorrelatedFields⟩

/-! ## Constructors -/

def requireIdentity (value : PyObject) (maximum : Nat) : Py (Uint maximum) :=
  checkUint value maximum "identity must be an unsigned integer"

def requireGeneration (value : PyObject) : Py ProcessUuid :=
  requireProcessUuid value "generation must be 32 lowercase hex digits"

def WorkerReceipt.make (rank workerGeneration : PyObject) : Py WorkerReceipt := do
  let rank ← requireIdentity rank uint32Max
  let workerGeneration ← requireGeneration workerGeneration
  .ok { rank, workerGeneration }

def JobReceipt.make (jobId : PyObject) (workers : Argument (List WorkerReceipt)) :
    Py JobReceipt := do
  let jobId ← requireIdentity jobId uint64Max
  let workers ← workers.expect "workers must be an exact sorted rank roster"
  if valid : exactWorkers workers = true ∧ workers ≠ [] then
    .ok { jobId := jobId, workers := ⟨workers, valid.1⟩, nonempty := valid.2 }
  else .error (.valueError "workers must be an exact sorted rank roster")

structure CorrelatedArguments where
  event : Argument CorrelatedEvent
  schedulerGeneration : PyObject
  requestId : PyObject
  recoveryEpoch : PyObject
  observedAtNs : PyObject
  jobId : PyObject := .none
  rank : PyObject := .none
  workerGeneration : PyObject := .none
  blockCount : PyObject := .none
  workers : Argument (List WorkerReceipt) := .typed []
  roster : Argument (List JobReceipt) := .typed []
  computeKind : PyObject := .none

def requireRequestId (value : PyObject) : Py RequestId :=
  match value with
  | .str text =>
      if valid : printableAsciiWithin maxRuntimeRequestIdBytes text = true then .ok ⟨text, valid⟩
      else .error (.valueError "request_id must be bounded printable ASCII")
  | _ => .error (.valueError "request_id must be bounded printable ASCII")

theorem positive_within {maximum : Nat} (number : Uint maximum) (positive : 0 < number.val) :
    0 < number.val ∧ number.val ≤ maximum :=
  ⟨positive, number.property⟩

def requirePositiveIdentity (value : PyObject) (maximum : Nat) (message : String) :
    Py (PositiveUint maximum) := do
  let number ← requireIdentity value maximum
  if positive : 0 < number.val then .ok ⟨number.val, positive_within number positive⟩
  else .error (.valueError message)

/-- Membership in `{"prefill", "decode"}`, which hashes its operand. -/
def requireComputeKind (value : PyObject) : Py ComputeKind :=
  if !value.hashable then .error (.typeError "unhashable type")
  else
    match memberOfValue ComputeKind.all ComputeKind.value value with
    | some kind => .ok kind
    | none => .error (.valueError "compute_kind must be prefill or decode")

/-- A value that is neither `None` nor the empty tuple. -/
def present : PyObject → Bool
  | .none => false
  | .tuple [] => false
  | _ => true

def CorrelatedHostObservation.make (arguments : CorrelatedArguments) :
    Py CorrelatedHostObservation := do
  let event ← arguments.event.expect "event must be a CorrelatedEvent"
  let schedulerGeneration ← requireGeneration arguments.schedulerGeneration
  let requestId ← requireRequestId arguments.requestId
  let recoveryEpoch ← requirePositiveIdentity arguments.recoveryEpoch uint64Max
    "recovery_epoch must be positive"
  let observedAtNs ← requireIdentity arguments.observedAtNs uint64Max
  let jobId ← optional arguments.jobId fun value => requireIdentity value uint64Max
  let rank ← optional arguments.rank fun value => requireIdentity value uint32Max
  let blockCount ← optional arguments.blockCount
    fun value => requirePositiveIdentity value uint32Max "block_count must be positive"
  let workerGeneration ← optional arguments.workerGeneration requireGeneration
  let workers ← arguments.workers.expect "workers must be a bounded exact roster"
  if validWorkers : exactWorkers workers = true then
    let roster ← arguments.roster.expect "roster must be a bounded exact job roster"
    if validRoster : exactJobs roster = true then
      let fields : CorrelatedFields :=
        { event, schedulerGeneration, requestId, recoveryEpoch, observedAtNs, jobId, rank,
          workerGeneration, blockCount, workers := ⟨workers, validWorkers⟩,
          roster := ⟨roster, validRoster⟩ }
      -- The shape is compared before the text of the kind is looked at.
      raiseIf (correlatedFields.filter (fun name =>
          if name = .computeKind then present arguments.computeKind
          else fields.isPopulated name) != required event)
        "fields do not match the correlated event shape"
      let computeKind ← optional arguments.computeKind requireComputeKind
      let complete := { fields with computeKind := computeKind }
      if shape : correlatedFields.filter complete.isPopulated = required complete.event then
        .ok { complete with shape := shape }
      else .error (.valueError "fields do not match the correlated event shape")
    else .error (.valueError "roster must be a bounded exact job roster")
  else .error (.valueError "workers must be a bounded exact roster")

end KVTransferObservability.Correlated
