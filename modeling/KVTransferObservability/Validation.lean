import KVTransferObservability.Adapter
import KVTransferObservability.Library.Grouping

/-!
# Offline validation of recovery chains

`validation.py`: `validate_restore_chain` and its cross-process counterpart. Both
read a finite list of records and return the number of recovery episodes of a
request or raise `ValueError`.
-/

namespace KVTransferObservability.Validation

open Library PythonValues Schema Observation HostFacts Correlated Normalization Adapter

set_option autoImplicit false

/-! ## Cross-process chains -/

/-- The scheduler generation, the request and the epoch. -/
abbrev EpisodeKey := ProcessUuid × RequestId × PositiveUint uint64Max

def episodeKey (record : CorrelatedHostObservation) : EpisodeKey :=
  (record.schedulerGeneration, record.requestId, record.recoveryEpoch)

/-- The jobs a record names, in its own field and in its roster. -/
def jobIds (record : CorrelatedHostObservation) : List (Uint uint64Max) :=
  record.jobId.toList ++ record.roster.val.map JobReceipt.jobId

abbrev JobOwners := Dict (ProcessUuid × Uint uint64Max) EpisodeKey

def claimJob (generation : ProcessUuid) (identity : EpisodeKey) (jobOwner : JobOwners)
    (jobId : Uint uint64Max) : Py JobOwners := do
  raiseIf ((jobOwner.lookup (generation, jobId)).any fun owner => owner != identity)
    "job ID reused across recovery episodes"
  .ok (jobOwner.insert (generation, jobId) identity)

/-- The two dictionaries of the first loop. -/
structure CorrelatedGroups where
  groups : List (EpisodeKey × List CorrelatedHostObservation) := []
  jobOwner : JobOwners := ∅

def CorrelatedGroups.add (requestId : String) (self : CorrelatedGroups) :
    EventRecord → Py CorrelatedGroups
  | .correlated record =>
      if record.requestId.val ≠ requestId then .ok self
      else do
        let groups := appendTo self.groups (episodeKey record) record
        let jobOwner ← (jobIds record).foldlM
          (claimJob record.schedulerGeneration (episodeKey record)) self.jobOwner
        .ok { groups, jobOwner }
  | _ => .ok self

def itemsOf (items : List CorrelatedHostObservation) (event : CorrelatedEvent) :
    List CorrelatedHostObservation :=
  items.filter fun item => item.event = event

def only (items : List CorrelatedHostObservation) (event : CorrelatedEvent) :
    Py CorrelatedHostObservation :=
  match itemsOf items event with
  | [item] => .ok item
  | _ => .error (.valueError ("expected one " ++ event.value ++ " per recovery episode"))

/-- A job, rank and worker generation; a record that lacks one has `None` there. -/
abbrev StageKey := Option (Uint uint64Max) × Option (Uint uint32Max) × Option ProcessUuid

def stageKey (item : CorrelatedHostObservation) : StageKey :=
  (item.jobId, item.rank, item.workerGeneration)

abbrev WorkerKey := Option (Uint uint32Max) × Option ProcessUuid

def workerKey (item : CorrelatedHostObservation) : WorkerKey :=
  (item.rank, item.workerGeneration)

def workerKeys (workers : WorkerRoster) : List WorkerKey :=
  workers.val.map fun worker => (some worker.rank, some worker.workerGeneration)

def expectedKeys (roster : JobRoster) : List StageKey :=
  roster.val.flatMap fun job => (workerKeys job.workers).map (Prod.mk (some job.jobId))

def expectedWorkers (roster : JobRoster) : List WorkerKey :=
  roster.val.flatMap fun job => workerKeys job.workers

abbrev Stage := Dict StageKey CorrelatedHostObservation

/-- `stage[key].observed_at_ns`. -/
def observedAt (stage : Stage) (key : StageKey) : Py Nat :=
  match stage.lookup key with
  | some item => .ok item.observedAtNs.val
  | none => .error (.keyError "stage")

def checkReceipt (requeued admitted : CorrelatedHostObservation)
    (roster : Dict (Uint uint64Max) JobReceipt) (receipt : CorrelatedHostObservation) :
    Py Unit :=
  match receipt.jobId.bind roster.lookup with
  | none => .error (.keyError "roster")
  | some job =>
      raiseIf (receipt.workers != job.workers ||
          !(decide (requeued.observedAtNs.val < receipt.observedAtNs.val) &&
            decide (receipt.observedAtNs.val < admitted.observedAtNs.val)))
        "transfer receipt differs from admission roster"

/-- The records of one restore stage by job, rank and worker generation. -/
def stageOf (items : List CorrelatedHostObservation) (event : CorrelatedEvent)
    (expected : List StageKey) : Py Stage := do
  let found := itemsOf items event
  let stage := collect stageKey found
  raiseIf (stage.size != found.length || decide (stage.keys ≠ expected.toFinset))
    "restore stage does not match exact Worker roster"
  .ok stage

def checkStages (submitted completed : Stage) (key : StageKey) : Py Unit := do
  let completedAt ← observedAt completed key
  let submittedAt ← observedAt submitted key
  raiseIf (decide (completedAt ≤ submittedAt)) "Worker completion precedes submission"

/-- One first compute against the admission and its own worker's completions. -/
def checkFirstCompute (admitted : CorrelatedHostObservation) (completed : Stage)
    (expected : List StageKey) (item : CorrelatedHostObservation) : Py Unit := do
  let message := "first compute has mismatched roster or Worker order"
  raiseIf (item.roster != admitted.roster) message
  (expected.filter fun key => key.2 = workerKey item).forM fun key => do
    let completedAt ← observedAt completed key
    raiseIf (decide (item.observedAtNs.val ≤ completedAt)) message

/-- The checks of one recovery episode. -/
def checkEpisode (items : List CorrelatedHostObservation) : Py Unit := do
  let requeued ← only items .recoveryRequeued
  let admitted ← only items .recoveryAdmitted
  raiseIf (decide (admitted.observedAtNs.val ≤ requeued.observedAtNs.val))
    "scheduler admission precedes requeue"
  let roster := collect JobReceipt.jobId admitted.roster.val
  let receipts := itemsOf items .transferReceipt
  raiseIf (receipts.length != roster.size ||
      decide ((receipts.map fun item => item.jobId).toFinset ≠ roster.keys.image some))
    "admission lacks the exact transfer receipts"
  receipts.forM (checkReceipt requeued admitted roster)
  let expected := expectedKeys admitted.roster
  let submitted ← stageOf items .restoreSubmitted expected
  let completed ← stageOf items .restoreCompleted expected
  expected.forM (checkStages submitted completed)
  let first := itemsOf items .firstCompute
  let firstByWorker := collect workerKey first
  raiseIf (firstByWorker.size != first.length ||
      decide (firstByWorker.keys ≠ (expectedWorkers admitted.roster).toFinset))
    "first compute does not match exact Worker roster"
  -- The workers are distinct here, so the dictionary lists the records themselves.
  first.forM (checkFirstCompute admitted completed expected)

def validateCorrelatedRestoreChain (records : List EventRecord) (requestId : String) :
    Py Nat := do
  let state ← records.foldlM (CorrelatedGroups.add requestId) {}
  raiseIf state.groups.isEmpty "requested recovery chain is absent or incomplete"
  state.groups.forM fun (_, items) => checkEpisode items
  .ok state.groups.length

/-! ## Canonical chains -/

def relevant : List ObservationEvent :=
  [.recoveryRequeued, .restoreStarted, .restoreCompleted, .recoveryAdmitted, .firstCompute]

structure Episode where
  started : Finset TransferIdentity := ∅
  completed : Finset TransferIdentity := ∅
  admitted : Bool := false
  computed : Bool := false
  lastNs : Nat

structure ChainState where
  episodes : Dict ObservationIdentity Episode := ∅
  seenTransfers : Finset TransferIdentity := ∅
  seenReceipts : Finset ReceiptIdentity := ∅
  normalizer : LifecycleNormalizer

/-- The transfer of a start or a completion, whose shape has one. -/
def requireTransfer (record : KVTransferObservation) : Py TransferIdentity :=
  match record.transfer with
  | some transfer => .ok transfer
  | none => .error (.valueError "transfer must be a TransferIdentity")

/-- The source observation a record is replayed as, with the episode and the seen
transfers it leaves. The source host is the normalizer's neutral projection. -/
def replay (episode : Episode) (seenTransfers : Finset TransferIdentity)
    (record : KVTransferObservation) :
    Py (SourceObservation × Episode × Finset TransferIdentity) :=
  match record.event with
  | .recoveryRequeued => do
      let source ← CoreRecoveryRequeued.make (.typed record.identity)
        (.ofOption record.requeueReason) (.int record.observedAtNs.val)
      .ok (.requeued source, episode, seenTransfers)
  | .restoreStarted => do
      let transfer ← requireTransfer record
      raiseIf (episode.admitted || decide (transfer ∈ seenTransfers))
        "late or duplicate restore submission"
      let source ← CoreTransferSubmitted.make (.typed record.identity) (.typed transfer)
        (.typed .h2dRestore) (.ofOption (record.blockCount.map Subtype.val))
        (.int record.observedAtNs.val)
      .ok (.submitted source,
        { episode with started := insert transfer episode.started },
        insert transfer seenTransfers)
  | .restoreCompleted => do
      let transfer ← requireTransfer record
      raiseIf episode.admitted "completion after admission"
      let source ← CoreTransferCompleted.make (.typed transfer) (.int record.observedAtNs.val)
        (.bool true) (.ofOption (record.bytesMoved.map Subtype.val))
        (.ofOption (record.deviceDurationNs.map Subtype.val)) (.ofOption record.receipt)
      .ok (.completed source,
        { episode with completed := insert transfer episode.completed }, seenTransfers)
  | .recoveryAdmitted => do
      let roster := record.associatedTransfers.val.toFinset
      raiseIf (episode.admitted || decide (roster = ∅) || decide (roster ≠ episode.started) ||
          decide (roster ≠ episode.completed))
        "admission does not contain the complete roster"
      let source ← CoreRecoveryAdmitted.make (.typed record.identity)
        (.typed record.associatedTransfers.val) (.int record.observedAtNs.val)
      .ok (.admitted source, { episode with admitted := true }, seenTransfers)
  | _ => do
      let source ← FirstComputeObserved.make (.typed .vllm) (.typed record.identity)
        (.ofOption record.receipt) (.typed record.associatedTransfers.val)
        (.ofOption record.computeKind) (.int record.observedAtNs.val)
      .ok (.firstCompute source, { episode with computed := true }, seenTransfers)

namespace ChainState

/-- `episodes`, with a new entry if the record is a requeue. -/
def openEpisode (self : ChainState) (record : KVTransferObservation) :
    Py (Dict ObservationIdentity Episode) :=
  if record.event = .recoveryRequeued then do
    raiseIf (decide (record.identity ∈ self.episodes)) "duplicate recovery episode"
    .ok (self.episodes.insert record.identity { lastNs := record.observedAtNs.val })
  else .ok self.episodes

def claimReceipt (self : ChainState) (record : KVTransferObservation) :
    Py (Finset ReceiptIdentity) :=
  match record.receipt with
  | none => .ok self.seenReceipts
  | some receipt => do
      raiseIf (decide (receipt ∈ self.seenReceipts)) "receipt identity reused"
      .ok (insert receipt self.seenReceipts)

/-- The loop body for a record of one of the five recovery events. -/
def observe (self : ChainState) (record : KVTransferObservation) : Py ChainState := do
  let episodes ← self.openEpisode record
  match episodes.lookup record.identity with
  | none => .error (.valueError "missing requeue or event after first compute")
  | some episode =>
      raiseIf episode.computed "missing requeue or event after first compute"
      raiseIf (decide (record.observedAtNs.val < episode.lastNs))
        "episode events are out of order"
      let episode := { episode with lastNs := record.observedAtNs.val }
      let seenReceipts ← self.claimReceipt record
      let (source, episode, seenTransfers) ← replay episode self.seenTransfers record
      let (answer, normalizer) := self.normalizer.normalize source
      let result ← answer
      raiseIf (result != some record) "lifecycle identity, receipt, timing or order mismatch"
      .ok { episodes := episodes.insert record.identity episode
            seenTransfers := seenTransfers
            seenReceipts := seenReceipts
            normalizer := normalizer }

/-- The loop body. -/
def step (requestId : String) (self : ChainState) : EventRecord → Py ChainState
  | .canonical record =>
      if record.identity.requestId.val ≠ requestId then .ok self
      else if !(relevant.contains record.event) then do
        raiseIf (record.direction == some .h2d)
          "requested recovery contains a non-success path"
        .ok self
      else self.observe record
  | _ => .ok self

end ChainState

/-- `LifecycleNormalizer()`. -/
def defaultNormalizer : LifecycleNormalizer :=
  { maxCorrelatedTransfers := defaultMaxCorrelatedTransfers
    maxRecoveryAdmissions := defaultMaxRecoveryAdmissions
    retainRestoreReceipts := true }

def isCorrelatedFor (requestId : String) : EventRecord → Bool
  | .correlated record => record.requestId.val == requestId
  | _ => false

/-- `validate_restore_chain`. The `finally` clause closes a normalizer nobody else
sees. -/
def validateRestoreChain (records : List EventRecord) (requestId : String) : Py Nat :=
  if records.any (isCorrelatedFor requestId) then
    validateCorrelatedRestoreChain records requestId
  else do
    let state ← records.foldlM (ChainState.step requestId) { normalizer := defaultNormalizer }
    raiseIf (decide (state.episodes.keys = ∅) ||
        decide (∃ identity ∈ state.episodes.keys,
          (state.episodes.lookup identity).any Episode.computed = false))
      "requested recovery chain is absent or incomplete"
    .ok state.episodes.size

end KVTransferObservability.Validation
