import KVTransferObservability.Payload

/-!
# Reading payloads back

`validation.py`: the decoders of the three record types. Each takes the fields it
knows out of the object, hands them to the constructor of its record as keyword
arguments, and compares what the record would be written as with the object it was
read from.
-/

namespace KVTransferObservability.Decoding

open PythonValues Schema Observation HostFacts Correlated Payload Library

set_option autoImplicit false

/-! ## Looking into an object -/

/-- `_object`. -/
def asObject (value : Value) : Py Fields :=
  match value with
  | .object fields => .ok fields
  | _ => .error (.valueError "expected a JSON object")

/-- `fields[key]`. -/
def item (fields : Fields) (key : String) : Py Value :=
  match fields.lookup key with
  | some value => .ok value
  | none => .error (.keyError key)

/-- `fields.get(key)`, and the keyword argument `key` of a constructor whose default
is `None`. -/
def argument (fields : Fields) (key : String) : PyObject :=
  match fields.lookup key with
  | some value => toPython value
  | none => .none

/-- A keyword argument without a default. -/
def requiredArgument (fields : Fields) (key : String) : Py PyObject :=
  match fields.lookup key with
  | some value => .ok (toPython value)
  | none => .error (.typeError ("missing required argument: " ++ key))

/-- Keys that the decoder does not take out are keyword arguments of the constructor. -/
def refuseUnexpected (fields : Fields) (taken parameters : List String) : Py Unit :=
  if (Json.keys fields).all fun key => taken.contains key || parameters.contains key then .ok ()
  else .error (.typeError "got an unexpected keyword argument")

/-- `set(fields) == set(names)`. -/
def hasExactly (fields : Fields) (names : List String) : Bool :=
  (Json.keys fields).all (fun key => names.contains key) &&
    names.all fun name => (Json.keys fields).contains name

/-- `EnumClass(value)` for a value of the object. -/
def enumMember {Member : Type} (python : Interpreter) (members : List Member)
    (value : Member → String) (content : Value) : Py Member :=
  python.enumMember members value (toPython content)

/-- `if name in fields: fields[name] = EnumClass(fields[name])`. -/
def enumArgument {Member : Type} (python : Interpreter) (members : List Member)
    (value : Member → String) (fields : Fields) (name : String) : Py (Argument Member) :=
  match fields.lookup name with
  | some content => (enumMember python members value content).map Argument.typed
  | none => .ok (.other .none)

/-- `except (KeyError, TypeError, ValueError) as exc: raise ValueError(message) from exc`;
a `RecursionError` is none of the three. -/
def closing {Result : Type} (message : String) (computation : Py Result) : Py Result :=
  match computation with
  | .ok result => .ok result
  | .error (.keyError _) => .error (.valueError message)
  | .error (.typeError _) => .error (.valueError message)
  | .error (.valueError _) => .error (.valueError message)
  | .error error => .error error

/-! ## The common shape of the decoders -/

structure RecordFormat (Record : Type) where
  toPayload : Record → Value
  /-- The comparison of the schema fields. -/
  admits : Fields → Bool
  /-- The body of the `try` block. -/
  read : Fields → Py Record
  wrongSchema : String
  invalid : String
  noncanonical : String

def RecordFormat.fromPayload {Record : Type} (format : RecordFormat Record) (payload : Value) :
    Py Record := do
  let fields ← asObject payload
  raiseIf (!format.admits fields) format.wrongSchema
  let result ← closing format.invalid (format.read fields)
  raiseIf (!equal (format.toPayload result) payload) format.noncanonical
  .ok result

/-! ## Canonical records -/

/-- `_identity`. -/
def identityFromPayload (value : Value) : Py ObservationIdentity := do
  let fields ← asObject value
  raiseIf (!hasExactly fields ["request_id", "worker_generation", "rank", "recovery_epoch"])
    "identity fields do not match v2"
  ObservationIdentity.make (argument fields "request_id") (argument fields "worker_generation")
    (argument fields "rank") (argument fields "recovery_epoch")

/-- An identity is read from the key `source`, unless the parameter `target` is there
under its own name as well. -/
def renamedArgument {Identity : Type} (make : PyObject → Py Identity) (fields : Fields)
    (source target : String) : Py (Argument Identity) :=
  match fields.lookup source with
  | some value => do
      raiseIf (fields.lookup target).isSome "noncanonical event fields"
      (make (toPython value)).map Argument.typed
  | none => .ok (.other (argument fields target))

def associatedArgument (fields : Fields) : Py (Argument (List TransferIdentity)) :=
  match fields.lookup "associated_transfer_ids" with
  | some value => do
      raiseIf (fields.lookup "associated_transfers").isSome "noncanonical association fields"
      match value with
      | .array items =>
          (items.mapM fun item => TransferIdentity.make (toPython item)).map Argument.typed
      | _ => .error (.valueError "associated_transfer_ids must be a JSON array")
  | none =>
      match fields.lookup "associated_transfers" with
      | some value => .ok (.other (toPython value))
      | none => .ok (.typed [])

def readObservation (python : Interpreter) (fields : Fields) : Py KVTransferObservation := do
  let identity ← identityFromPayload (← item fields "identity")
  let event ← enumMember python ObservationEvent.all ObservationEvent.value
    (← item fields "event")
  let observedAtNs ← item fields "observed_at_ns"
  let direction ← enumArgument python TransferDirection.all TransferDirection.value fields
    "direction"
  let computeKind ← enumArgument python ComputeKind.all ComputeKind.value fields "compute_kind"
  let requeueReason ← enumArgument python RecoveryRequeueReason.all
    RecoveryRequeueReason.value fields "requeue_reason"
  let terminalReason ← enumArgument python TransferTerminalReason.all TransferTerminalReason.value
    fields "terminal_reason"
  let transfer ← renamedArgument TransferIdentity.make fields "transfer_id" "transfer"
  let receipt ← renamedArgument ReceiptIdentity.make fields "receipt_id" "receipt"
  let associatedTransfers ← associatedArgument fields
  refuseUnexpected fields ["schema", "transfer_id", "receipt_id", "associated_transfer_ids"]
    ["event", "identity", "observed_at_ns", "transfer", "direction", "receipt",
      "associated_transfers", "compute_kind", "requeue_reason", "terminal_reason",
      "bytes_moved", "block_count", "duration_ns", "device_duration_ns"]
  KVTransferObservation.make
    { event := .typed event, identity := .typed identity, observedAtNs := toPython observedAtNs,
      transfer, direction, receipt, associatedTransfers, computeKind, requeueReason,
      terminalReason, bytesMoved := argument fields "bytes_moved",
      blockCount := argument fields "block_count", durationNs := argument fields "duration_ns",
      deviceDurationNs := argument fields "device_duration_ns" }

def observationFormat (python : Interpreter) : RecordFormat KVTransferObservation where
  toPayload := KVTransferObservation.toPayload
  admits fields := (argument fields "schema").equalsText eventSchema
  read := readObservation python
  wrongSchema := "expected canonical event schema v2"
  invalid := "invalid closed event record"
  noncanonical := "noncanonical event fields"

def observationFromPayload (python : Interpreter) : Value → Py KVTransferObservation :=
  (observationFormat python).fromPayload

/-! ## Host facts -/

/-- A list becomes the tuple the constructor asks for; the default is the empty one. -/
def tupleArgument (fields : Fields) (name : String) : Py PyObject :=
  match fields.lookup name with
  | some (.array items) => .ok (.tuple (items.map toPython))
  | some _ => .error (.valueError (name ++ " must be an array"))
  | none => .ok (.tuple [])

def readHostFact (python : Interpreter) (fields : Fields) : Py HostFact := do
  let event ← enumMember python HostFactEvent.all HostFactEvent.value (← item fields "event")
  let computeKind ← enumArgument python ComputeKind.all ComputeKind.value fields "compute_kind"
  let requeueReason ← enumArgument python RecoveryRequeueReason.all
    RecoveryRequeueReason.value fields "requeue_reason"
  let jobIds ← tupleArgument fields "job_ids"
  let ranks ← tupleArgument fields "ranks"
  refuseUnexpected fields ["schema", "scope"]
    ["event", "process_uuid", "observed_at_ns", "request_id", "job_id", "rank",
      "recovery_epoch", "job_ids", "ranks", "compute_kind", "requeue_reason"]
  let processUuid ← requiredArgument fields "process_uuid"
  let observedAtNs ← requiredArgument fields "observed_at_ns"
  let requestId ← requiredArgument fields "request_id"
  HostFact.make
    { event := .typed event, processUuid, observedAtNs, requestId,
      jobId := argument fields "job_id", rank := argument fields "rank",
      recoveryEpoch := argument fields "recovery_epoch", jobIds, ranks, computeKind,
      requeueReason }

def hostFactFormat (python : Interpreter) : RecordFormat HostFact where
  toPayload := HostFact.toPayload
  admits fields := (argument fields "schema").equalsText hostFactSchema &&
    (argument fields "scope").equalsText hostFactScope
  read := readHostFact python
  wrongSchema := "expected unjoined host fact schema"
  invalid := "invalid closed host fact record"
  noncanonical := "noncanonical host fact fields"

def hostFactFromPayload (python : Interpreter) : Value → Py HostFact :=
  (hostFactFormat python).fromPayload

/-! ## Correlated records -/

/-- `WorkerReceipt(**_object(worker))`. -/
def workerFromPayload (value : Value) : Py WorkerReceipt := do
  let fields ← asObject value
  refuseUnexpected fields [] ["rank", "worker_generation"]
  let rank ← requiredArgument fields "rank"
  let workerGeneration ← requiredArgument fields "worker_generation"
  WorkerReceipt.make rank workerGeneration

def jobFromPayload (value : Value) : Py JobReceipt := do
  let job ← asObject value
  match hasExactly job ["job_id", "workers"], job.lookup "workers" with
  | true, some (.array items) => do
      let workers ← items.mapM workerFromPayload
      JobReceipt.make (argument job "job_id") (.typed workers)
  | _, _ => .error (.valueError "invalid job roster")

/-- A list of objects becomes a tuple of receipts; the default is the empty one. -/
def receiptsArgument {Receipt : Type} (read : Value → Py Receipt) (fields : Fields)
    (name : String) : Py (List Receipt) :=
  match fields.lookup name with
  | some (.array items) => items.mapM read
  | some _ => .error (.valueError (name ++ " must be an array"))
  | none => .ok []

def readCorrelated (python : Interpreter) (fields : Fields) : Py CorrelatedHostObservation := do
  let event ← enumMember python CorrelatedEvent.all CorrelatedEvent.value
    (← item fields "event")
  let workers ← receiptsArgument workerFromPayload fields "workers"
  let roster ← receiptsArgument jobFromPayload fields "roster"
  refuseUnexpected fields ["schema"]
    ["event", "scheduler_generation", "request_id", "recovery_epoch", "observed_at_ns",
      "job_id", "rank", "worker_generation", "block_count", "workers", "roster",
      "compute_kind"]
  let schedulerGeneration ← requiredArgument fields "scheduler_generation"
  let requestId ← requiredArgument fields "request_id"
  let recoveryEpoch ← requiredArgument fields "recovery_epoch"
  let observedAtNs ← requiredArgument fields "observed_at_ns"
  CorrelatedHostObservation.make
    { event := .typed event, schedulerGeneration, requestId, recoveryEpoch, observedAtNs,
      jobId := argument fields "job_id", rank := argument fields "rank",
      workerGeneration := argument fields "worker_generation",
      blockCount := argument fields "block_count", workers := .typed workers,
      roster := .typed roster, computeKind := argument fields "compute_kind" }

def correlatedFormat (python : Interpreter) : RecordFormat CorrelatedHostObservation where
  toPayload := CorrelatedHostObservation.toPayload
  admits fields := (argument fields "schema").equalsText correlatedSchema
  read := readCorrelated python
  wrongSchema := "expected correlated host schema v2"
  invalid := "invalid closed correlated host record"
  noncanonical := "noncanonical correlated host fields"

def correlatedFromPayload (python : Interpreter) : Value → Py CorrelatedHostObservation :=
  (correlatedFormat python).fromPayload

end KVTransferObservability.Decoding
