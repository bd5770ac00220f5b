import KVTransferObservability.Adapter

/-!
# The binding to the host observer

`native.py`: `VllmOffloadingObserverBinding` turns untyped host records into typed
source observations and keeps one entry for each submission the plugin accepted.
The callbacks change what lies behind them, so they are state transformers over
a `World`; what they return is an arbitrary object, compared with `True`.
-/

namespace KVTransferObservability.Native

open Library PythonValues Schema HostFacts Normalization Adapter
open Correlated (WorkerReceipt JobReceipt CorrelatedEvent CorrelatedHostObservation)

set_option autoImplicit false

def maxBindingTransfers : Nat := defaultMaxCorrelatedTransfers

/-- The attributes of a host record the binding looks at; a missing attribute is
`none`. `interpreter` is what the call finds of the recursion limit. -/
structure HostRecord where
  interpreter : Interpreter := .unlimited
  event : Option PyObject := none
  jobId : Option PyObject := none
  operation : Option PyObject := none
  requestId : Option PyObject := none
  rank : Option PyObject := none
  blockCount : Option PyObject := none
  observedAtNs : Option PyObject := none
  success : Option PyObject := none
  bytesMoved : Option PyObject := none
  durationNs : Option PyObject := none
  reason : Option PyObject := none
  recoveryEpoch : Option PyObject := none
  requeueReason : Option PyObject := none
  ranks : Option PyObject := none
  jobIds : Option PyObject := none
  computeKind : Option PyObject := none

/-- `record.name`. -/
def readAttribute (field : Option PyObject) (name : String) : Py PyObject :=
  match field with
  | some value => .ok value
  | none => .error (.attributeError name)

/-- `record.name.value`. -/
def readAttributeValue (field : Option PyObject) (name : String) : Py PyObject :=
  match field with
  | some (.member text) => .ok (.str text)
  | some (.object _ (some value)) => .ok value
  | _ => .error (.attributeError name)

/-- `getattr(getattr(record, name, None), "value", None)`. -/
def valueOf (field : Option PyObject) : PyObject := (field.getD .none).valueAttribute

/-- An attribute of a correlated record that is iterated over: an iterable of records,
or any other object. -/
inductive HostRoster (Item : Type)
  | items (items : List Item)
  | other (object : PyObject)

structure WorkerRecord where
  rank : Option PyObject := none
  workerGeneration : Option PyObject := none

structure JobRecord where
  jobId : Option PyObject := none
  workers : Option (HostRoster WorkerRecord) := none

/-- The attributes of a correlated host record, with the same convention. -/
structure CorrelatedHostRecord where
  interpreter : Interpreter := .unlimited
  event : Option PyObject := none
  schedulerGeneration : Option PyObject := none
  requestId : Option PyObject := none
  recoveryEpoch : Option PyObject := none
  observedAtNs : Option PyObject := none
  jobId : Option PyObject := none
  rank : Option PyObject := none
  workerGeneration : Option PyObject := none
  blockCount : Option PyObject := none
  workers : Option (HostRoster WorkerRecord) := none
  roster : Option (HostRoster JobRecord) := none
  computeKind : Option PyObject := none

/-- `for item in record.name`. What a string, a dictionary or a list of plain values
yields has none of the attributes that are read next. -/
def iterate {Item : Type} (field : Option (HostRoster Item)) (name : String) (blank : Item) :
    Py (List Item) :=
  match field with
  | none => .error (.attributeError name)
  | some (.items items) => .ok items
  | some (.other (.str text)) => .ok (text.toList.map fun _ => blank)
  | some (.other (.member text)) => .ok (text.toList.map fun _ => blank)
  | some (.other (.list items)) => .ok (items.map fun _ => blank)
  | some (.other (.tuple items)) => .ok (items.map fun _ => blank)
  | some (.other (.dict entries)) => .ok (entries.map fun _ => blank)
  | some (.other _) => .error (.typeError "object is not iterable")

structure HostObserverCallbacks (World : Type) where
  observe : World → SourceObservation → Py PyObject × World
  hostFact : Option (World → HostFact → Py PyObject × World)
  correlated : Option (World → CorrelatedHostObservation → Py PyObject × World) := none

/-- An accepted submission: its identity, transfer and operation. -/
structure PendingTransfer where
  identity : ObservationIdentity
  transfer : TransferIdentity
  operation : TransferOperation
  deriving DecidableEq

structure VllmOffloadingObserverBinding (World : Type) where
  processUuid : ProcessUuid
  callbacks : Option (HostObserverCallbacks World) := none
  pending : Dict Nat PendingTransfer := ∅

def hexValue (character : Char) : Nat :=
  if character ≤ '9' then character.toNat - '0'.toNat else character.toNat - 'a'.toNat + 10

/-- `int(process_uuid[:16], 16) or 1`. -/
def workerGenerationOf (processUuid : ProcessUuid) : Nat :=
  let generation := (processUuid.val.toList.take 16).foldl
    (fun total character => 16 * total + hexValue character) 0
  if generation = 0 then 1 else generation

namespace VllmOffloadingObserverBinding

variable {World : Type}

/-- `_identity`. -/
def identityOf (self : VllmOffloadingObserverBinding World) (record : HostRecord) :
    Option ObservationIdentity :=
  match record.jobId, record.rank, record.requestId with
  | some (.int jobId), some (.int rank), some (.str requestId) =>
      if ¬ (0 ≤ jobId ∧ jobId ≤ uint64Max) ∨ ¬ (0 ≤ rank ∧ rank ≤ uint32Max) then none
      else
        match ObservationIdentity.make (.str requestId)
            (.int (workerGenerationOf self.processUuid)) (.int rank) .none with
        | .ok identity => some identity
        | .error _ => none
  | _, _, _ => none

/-- `_transfer`, from a job id that `_identity` has checked. -/
def transferOf (self : VllmOffloadingObserverBinding World) (jobId : Nat) :
    Py TransferIdentity :=
  TransferIdentity.make (.str (self.processUuid.val ++ ":t:" ++ toString jobId))

/-- `_operation`: `except (TypeError, ValueError): return None`. -/
def operationOf (record : HostRecord) : Py (Option TransferOperation) :=
  match record.interpreter.enumMember TransferOperation.all TransferOperation.value
      (valueOf record.operation) with
  | .ok operation => .ok (some operation)
  | .error (.typeError _) => .ok none
  | .error (.valueError _) => .ok none
  | .error error => .error error

/-- `f"{job_id}"`. A dictionary key that is no `int` is a `bool` or a `float`, and
the text of either holds a character that no sequence has. -/
def formatJobId : PyObject → String
  | .int number => toString number
  | .bool flag => if flag then "True" else "False"
  | .float (some whole) => toString whole ++ ".0"
  | _ => "object"

/-- The source observation of a submission. -/
def submittedSource (self : VllmOffloadingObserverBinding World) (record : HostRecord)
    (identity : ObservationIdentity) (operation : TransferOperation) (jobId : Nat)
    (blockCount : PyObject) : Py CoreTransferSubmitted := do
  let transfer ← self.transferOf jobId
  let observedAtNs ← readAttribute record.observedAtNs "observed_at_ns"
  CoreTransferSubmitted.make (.typed identity) (.typed transfer) (.typed operation) blockCount
    observedAtNs

def observeSubmitted (self : VllmOffloadingObserverBinding World) (world : World)
    (record : HostRecord) (operation : Option TransferOperation) :
    Py Bool × VllmOffloadingObserverBinding World × World :=
  match self.identityOf record, operation, record.blockCount, record.jobId with
  | some identity, some operation, some (.int blockCount), some (.int jobId) =>
      match self.submittedSource record identity operation jobId.toNat (.int blockCount) with
      | .error _ => (.ok false, self, world)
      | .ok source =>
          match self.callbacks with
          | none => (.ok false, self, world)
          | some callbacks =>
              if jobId.toNat ∈ self.pending ∨ maxBindingTransfers ≤ self.pending.size then
                (.ok false, self, world)
              else
                match callbacks.observe world (.submitted source) with
                | (.error _, world) => (.ok false, self, world)
                | (.ok answer, world) =>
                    if answer.isTrue then
                      let entry : PendingTransfer := ⟨identity, source.transfer, operation⟩
                      (.ok true, { self with pending := self.pending.insert jobId.toNat entry },
                        world)
                    else (.ok false, self, world)
  | _, _, _, _ => (.ok false, self, world)

/-- `duration_ns if type(duration_ns) is int and duration_ns > 0 else None`. -/
def deviceDuration : PyObject → PyObject
  | .int number => if 0 < number then .int number else .none
  | _ => .none

/-- The receipt of a successful restore; other records have none. -/
def terminalReceipt (self : VllmOffloadingObserverBinding World) (record : HostRecord)
    (operation : TransferOperation) : Py (Option ReceiptIdentity) :=
  if operation = .h2dRestore then
    match readAttribute record.success "success" with
    | .error error => .error error
    | .ok success =>
        if success.isTrue then
          (ReceiptIdentity.make (.str (self.processUuid.val ++ ":k:" ++
            formatJobId (record.jobId.getD .none)))).map some
        else .ok none
  else .ok none

/-- The source observation of a terminal record, or `none` for a cancellation the
binding does not take over. -/
def terminalSource (self : VllmOffloadingObserverBinding World) (record : HostRecord)
    (event : String) (transfer : TransferIdentity) (operation : TransferOperation) :
    Py (Option SourceObservation) :=
  if event = "transfer_completed" then do
    let receipt ← self.terminalReceipt record operation
    let durationNs ← readAttribute record.durationNs "duration_ns"
    let observedAtNs ← readAttribute record.observedAtNs "observed_at_ns"
    let success ← readAttribute record.success "success"
    let bytesMoved ← readAttribute record.bytesMoved "bytes_moved"
    let source ← CoreTransferCompleted.make (.typed transfer) observedAtNs success bytesMoved
      (deviceDuration durationNs) (.ofOption receipt)
    .ok (some (.completed source))
  else if (valueOf record.reason).equalsText "host_shutdown" then do
    let observedAtNs ← readAttribute record.observedAtNs "observed_at_ns"
    let source ← CoreTransferCancelled.make (.typed transfer) observedAtNs
      (.typed .hostShutdown)
    .ok (some (.cancelled source))
  else .ok none

/-- The entry a terminal record speaks about. -/
def lookupJob (self : VllmOffloadingObserverBinding World) (key : Option Int) :
    Option (Nat × PendingTransfer) :=
  match key with
  | some (.ofNat jobId) => (self.pending.lookup jobId).map fun pending => (jobId, pending)
  | _ => none

def observeTerminal (self : VllmOffloadingObserverBinding World) (world : World)
    (record : HostRecord) (event : String) (operation : Option TransferOperation) :
    Py Bool × VllmOffloadingObserverBinding World × World :=
  match (record.jobId.getD .none).integerKey with
  | .error error => (.error error, self, world)
  | .ok key =>
    match self.callbacks, self.lookupJob key, operation with
    | some callbacks, some (jobId, pending), some operation =>
        if operation ≠ pending.operation ∨
            !(record.requestId.getD .none).equalsText pending.identity.requestId.val ∨
            !(record.rank.getD .none).equalsNat pending.identity.rank.val then
          (.ok false, self, world)
        else
          match self.terminalSource record event pending.transfer operation with
          | .error _ => (.ok false, self, world)
          | .ok none => (.ok false, self, world)
          | .ok (some source) =>
              -- The entry goes whatever the callback answers.
              match callbacks.observe world source with
              | (.error _, world) =>
                  (.ok false, { self with pending := self.pending.erase jobId }, world)
              | (.ok answer, world) =>
                  (.ok answer.isTrue, { self with pending := self.pending.erase jobId }, world)
    | _, _, _ => (.ok false, self, world)

/-- The fact of a record, or `none` for a receipt the binding does not take over. -/
def hostFactOf (self : VllmOffloadingObserverBinding World) (record : HostRecord)
    (event : HostFactEvent) : Py (Option HostFact) := do
  let observedAtNs ← readAttribute record.observedAtNs "observed_at_ns"
  let requestId ← readAttribute record.requestId "request_id"
  let shared : HostFactArguments :=
    { event := .typed event
      processUuid := .str self.processUuid.val
      observedAtNs := observedAtNs
      requestId := requestId }
  match event with
  | .transferReceipt =>
      let success ← readAttribute record.success "success"
      if !success.isTrue then .ok none
      else
        let operation ← operationOf record
        if operation != some .h2dRestore then .ok none
        else
          let jobId ← readAttribute record.jobId "job_id"
          let rank ← readAttribute record.rank "rank"
          let ranks ← readAttribute record.ranks "ranks"
          (HostFact.make { shared with jobId := jobId, rank := rank, ranks := ranks }).map some
  | .recoveryRequeued =>
      let recoveryEpoch ← readAttribute record.recoveryEpoch "recovery_epoch"
      let reason ← readAttributeValue record.requeueReason "requeue_reason"
      let requeueReason ← record.interpreter.enumMember RecoveryRequeueReason.all
        RecoveryRequeueReason.value reason
      (HostFact.make { shared with
        recoveryEpoch := recoveryEpoch
        requeueReason := .typed requeueReason }).map some
  | .recoveryAdmitted =>
      let recoveryEpoch ← readAttribute record.recoveryEpoch "recovery_epoch"
      let jobIds ← readAttribute record.jobIds "job_ids"
      (HostFact.make { shared with recoveryEpoch := recoveryEpoch, jobIds := jobIds }).map some
  | .firstCompute =>
      let rank ← readAttribute record.rank "rank"
      let recoveryEpoch ← readAttribute record.recoveryEpoch "recovery_epoch"
      let jobIds ← readAttribute record.jobIds "job_ids"
      let kind ← readAttributeValue record.computeKind "compute_kind"
      let computeKind ← record.interpreter.enumMember ComputeKind.all ComputeKind.value kind
      (HostFact.make { shared with
        rank := rank
        recoveryEpoch := recoveryEpoch
        jobIds := jobIds
        computeKind := .typed computeKind }).map some

/-- `_observe_host_fact`. -/
def observeHostFact (self : VllmOffloadingObserverBinding World) (world : World)
    (record : HostRecord) (event : HostFactEvent) : Bool × World :=
  match self.callbacks.bind HostObserverCallbacks.hostFact with
  | none => (false, world)
  | some callback =>
      match self.hostFactOf record event with
      | .error _ => (false, world)
      | .ok none => (false, world)
      | .ok (some fact) =>
          match callback world fact with
          | (.error _, world) => (false, world)
          | (.ok answer, world) => (answer.isTrue, world)

/-- `_observe_host`: the callback registered with the host. The operation of a record that
is no fact is looked up outside every `try`, whatever its event. -/
def observeHost (self : VllmOffloadingObserverBinding World) (world : World)
    (record : HostRecord) :
    Py Bool × VllmOffloadingObserverBinding World × World :=
  match valueOf record.event with
  | .str event =>
      match memberOfValue HostFactEvent.all HostFactEvent.value (.str event) with
      | some factEvent =>
          let (accepted, world) := self.observeHostFact world record factEvent
          (.ok accepted, self, world)
      | none =>
          match operationOf record with
          | .error error => (.error error, self, world)
          | .ok operation =>
              if event = "transfer_submitted" then self.observeSubmitted world record operation
              else if event = "transfer_completed" ∨ event = "transfer_cancelled" then
                self.observeTerminal world record event operation
              else (.ok false, self, world)
  | _ => (.ok false, self, world)

/-! ## Correlated records -/

/-- `tuple(WorkerReceipt(item.rank, item.worker_generation) for item in record.workers)`. -/
def workerReceipts (workers : Option (HostRoster WorkerRecord)) : Py (List WorkerReceipt) := do
  let items ← iterate workers "workers" {}
  items.mapM fun item => do
    let rank ← readAttribute item.rank "rank"
    let workerGeneration ← readAttribute item.workerGeneration "worker_generation"
    WorkerReceipt.make rank workerGeneration

def jobReceipts (roster : Option (HostRoster JobRecord)) : Py (List JobReceipt) := do
  let jobs ← iterate roster "roster" {}
  jobs.mapM fun job => do
    let jobId ← readAttribute job.jobId "job_id"
    let workers ← workerReceipts job.workers
    JobReceipt.make jobId (.typed workers)

/-- The observation of a correlated record. -/
def correlatedOf (record : CorrelatedHostRecord) : Py CorrelatedHostObservation := do
  let name ← readAttributeValue record.event "event"
  let event ← record.interpreter.enumMember CorrelatedEvent.all CorrelatedEvent.value name
  let workers ← workerReceipts record.workers
  let roster ← jobReceipts record.roster
  let schedulerGeneration ← readAttribute record.schedulerGeneration "scheduler_generation"
  let requestId ← readAttribute record.requestId "request_id"
  let recoveryEpoch ← readAttribute record.recoveryEpoch "recovery_epoch"
  let observedAtNs ← readAttribute record.observedAtNs "observed_at_ns"
  let jobId ← readAttribute record.jobId "job_id"
  let rank ← readAttribute record.rank "rank"
  let workerGeneration ← readAttribute record.workerGeneration "worker_generation"
  let blockCount ← readAttribute record.blockCount "block_count"
  let computeKind ← readAttribute record.computeKind "compute_kind"
  CorrelatedHostObservation.make
    { event := .typed event
      schedulerGeneration, requestId, recoveryEpoch, observedAtNs, jobId, rank,
      workerGeneration, blockCount, computeKind
      workers := .typed workers
      roster := .typed roster }

/-- `_observe_correlated_host`. -/
def observeCorrelatedHost (self : VllmOffloadingObserverBinding World) (world : World)
    (record : CorrelatedHostRecord) : Py Bool × World :=
  match self.callbacks.bind HostObserverCallbacks.correlated with
  | none => (.ok false, world)
  | some callback =>
      match correlatedOf record with
      | .error _ => (.ok false, world)
      | .ok item =>
          match callback world item with
          | (.error _, world) => (.ok false, world)
          | (.ok answer, world) => (.ok answer.isTrue, world)

/-! ## Registration -/

/-- `register`, with what the host APIs answer: without a handle from each of them
nothing is registered. -/
def register (self : VllmOffloadingObserverBinding World)
    (callbacks : HostObserverCallbacks World) (handle : Bool) :
    Py Bool × VllmOffloadingObserverBinding World :=
  if self.callbacks.isSome then
    (.error (.raised "host observer binding is already registered"), self)
  else if handle then (.ok true, { self with callbacks := some callbacks })
  else (.error (.raised "host observer returned no handle"), self)

def unregister (self : VllmOffloadingObserverBinding World) :
    VllmOffloadingObserverBinding World :=
  { self with callbacks := none, pending := ∅ }

end VllmOffloadingObserverBinding

/-- The callbacks `start` registers, on the adapter itself. -/
def adapterCallbacks {Sink : Type} (emit : Sink → EventRecord → Py Bool × Sink) :
    HostObserverCallbacks (KVTransferHostAdapter Sink) where
  observe adapter source :=
    let (accepted, adapter) := adapter.observe emit source
    (.ok (.bool accepted), adapter)
  hostFact := some fun adapter fact =>
    let (accepted, adapter) := adapter.observeHostFact emit fact
    (.ok (.bool accepted), adapter)
  correlated := some fun adapter record =>
    let (accepted, adapter) := adapter.observeCorrelated emit record
    (.ok (.bool accepted), adapter)

end KVTransferObservability.Native
