import KVTransferObservability.NativeDelivery
import KVTransferObservability.NormalizerTables

/-!
# The binding's table inside the normalizer's

Every job the binding holds is pending in the normalizer, under the identity and
the operation of its submission. The converse is not kept: the normalizer may hold
a transfer that the binding never entered or has already let go.
-/

namespace KVTransferObservability.NativeInFlight

open Library PythonValues Schema Observation HostFacts Normalization Adapter Native ScopedIds
open NormalizerTransitions NormalizerTables NativeDelivery

set_option autoImplicit false

/-! ## The pending table of the normalizer -/

/-- A completion or cancellation of the transfer. -/
inductive TerminalOf (transfer : TransferIdentity) : SourceObservation → Prop
  | completed (source : CoreTransferCompleted) (same : source.transfer = transfer) :
      TerminalOf transfer (.completed source)
  | cancelled (source : CoreTransferCancelled) (same : source.transfer = transfer) :
      TerminalOf transfer (.cancelled source)

theorem submission_pending (self next : LifecycleNormalizer) (source : CoreTransferSubmitted)
    (result : Option KVTransferObservation)
    (transition : Transition self (.normalize (.submitted source)) result next) :
    (result = none ∧ next.pending = self.pending) ∨
      (∃ record, result = some record ∧ source.transfer ∉ self.pending ∧
        next.pending = self.pending.insert source.transfer source) := by
  cases transition with
  | afterClose source closed => exact Or.inl ⟨rfl, rfl⟩
  | afterLoss source opened lost => exact Or.inl ⟨rfl, rfl⟩
  | handled source result next opened valid outcome =>
      cases outcome with
      | refused source reason => exact Or.inl ⟨rfl, rfl⟩
      | submissionFull source absent unfinished full => exact Or.inl ⟨rfl, rfl⟩
      | started source record fields absent unfinished room =>
          exact Or.inr ⟨record, rfl, absent, rfl⟩

theorem terminal_pending (self next : LifecycleNormalizer) (transfer : TransferIdentity)
    (source : SourceObservation) (terminal : TerminalOf transfer source)
    (result : Option KVTransferObservation)
    (transition : Transition self (.normalize source) result next) :
    next.pending = self.pending ∨ next.pending = self.pending.erase transfer := by
  cases transition with
  | afterClose source closed => exact Or.inl rfl
  | afterLoss source opened lost => exact Or.inl rfl
  | handled source result next opened valid outcome =>
      cases terminal with
      | completed source same =>
          subst same
          cases outcome with
          | refused source reason => exact Or.inl rfl
          | _ => exact Or.inr rfl
      | cancelled source same =>
          subst same
          cases outcome with
          | refused source reason => exact Or.inl rfl
          | _ => exact Or.inr rfl

/-- The terminal observation is one the normalizer accepts for the submission. -/
def Fits (submission : CoreTransferSubmitted) : SourceObservation → Prop
  | .completed source =>
      submission.observedAtNs.val ≤ source.observedAtNs.val ∧
      (source.success = true → source.bytesMoved ≠ none ∧
        submission.observedAtNs.val < source.observedAtNs.val) ∧
      (source.success = false → source.bytesMoved = none ∧
        (submission.operation = .d2hPreserve →
          submission.observedAtNs.val < source.observedAtNs.val))
  | .cancelled source => submission.observedAtNs.val ≤ source.observedAtNs.val
  | _ => False

/-- What the binding guarantees about the terminal observations it builds: receipts
of the transfer's process for successful restores and for nothing else, and reasons
that are members of the enumeration. -/
inductive WellSourced (transfer : TransferIdentity) (operation : TransferOperation) :
    SourceObservation → Prop
  | completed (source : CoreTransferCompleted) (same : source.transfer = transfer)
      (own : operation = .h2dRestore ∧ source.success = true → ∃ receipt,
        source.receipt = some receipt ∧ receipt.processUuid = transfer.processUuid)
      (plain : ¬ (operation = .h2dRestore ∧ source.success = true) → source.receipt = none) :
      WellSourced transfer operation (.completed source)
  | cancelled (source : CoreTransferCancelled) (same : source.transfer = transfer)
      (reason : TransferTerminalReason) (member : source.reason = .typed reason) :
      WellSourced transfer operation (.cancelled source)

theorem WellSourced.terminal {transfer : TransferIdentity} {operation : TransferOperation}
    {source : SourceObservation} (sourced : WellSourced transfer operation source) :
    TerminalOf transfer source := by
  cases sourced with
  | completed source same own plain => exact .completed source same
  | cancelled source same reason member => exact .cancelled source same

section Closing

variable (self : LifecycleNormalizer) (submission : CoreTransferSubmitted)
variable (transfer : TransferIdentity)

theorem fitting_restore (source : CoreTransferCompleted) (receipt : ReceiptIdentity)
    (matched : RestoreMatched self source submission receipt)
    (scope : receipt.processUuid = source.transfer.processUuid) :
    ∃ result next, Outcome self (.completed source) result next ∧
      next.pending = self.pending.erase source.transfer := by
  have shape := NormalizerRecords.restored_shape submission source receipt matched.moved scope
  by_cases full : self.retainRestoreReceipts = true ∧
      self.maxCorrelatedTransfers ≤ self.completedRestores.size
  · exact ⟨_, _, .completionFull source submission receipt matched full.1 full.2, rfl⟩
  · have room : self.retainRestoreReceipts = true →
        self.completedRestores.size < self.maxCorrelatedTransfers := by
      intro retained
      exact Nat.not_le.mp fun bound => full ⟨retained, bound⟩
    exact ⟨_, _, .restored source submission receipt
      { NormalizerRecords.restoredFields submission source receipt with shape := shape }
      rfl matched scope room, rfl⟩

theorem fitting_completion (source : CoreTransferCompleted)
    (found : self.pending.lookup source.transfer = some submission)
    (own : submission.operation = .h2dRestore ∧ source.success = true → ∃ receipt,
      source.receipt = some receipt ∧ receipt.processUuid = source.transfer.processUuid)
    (plain : ¬ (submission.operation = .h2dRestore ∧ source.success = true) →
      source.receipt = none)
    (fits : Fits submission (.completed source)) :
    ∃ result next, Outcome self (.completed source) result next ∧
      next.pending = self.pending.erase source.transfer := by
  obtain ⟨ordered, succeeded, failed⟩ := fits
  cases success : source.success with
  | false =>
      obtain ⟨bytes, later⟩ := failed success
      have receipt : source.receipt = none := by
        apply plain
        rintro ⟨_, other⟩
        rw [success] at other
        cases other
      exact ⟨_, _, .failed source submission
        { NormalizerRecords.failedFields submission source with
          shape := NormalizerRecords.failed_shape submission source }
        rfl found ordered (fun preserve => Nat.ne_of_lt (later preserve)) success bytes receipt,
        rfl⟩
  | true =>
      obtain ⟨moved, later⟩ := succeeded success
      cases operation : submission.operation with
      | h2dRestore =>
          obtain ⟨receipt, received, scope⟩ := own ⟨operation, success⟩
          exact fitting_restore self submission source receipt
            ⟨found, operation, later, success, moved, received⟩ scope
      | d2hPreserve =>
          have receipt : source.receipt = none := by
            apply plain
            rintro ⟨other, _⟩
            rw [operation] at other
            cases other
          exact ⟨_, _, .preserved source submission
            { NormalizerRecords.preservedFields submission source with
              shape := NormalizerRecords.preserved_shape submission source moved }
            rfl found operation later success moved receipt, rfl⟩

theorem fitting_outcome (source : SourceObservation)
    (found : self.pending.lookup transfer = some submission)
    (sourced : WellSourced transfer submission.operation source)
    (fits : Fits submission source) :
    ∃ result next, Outcome self source result next ∧
      next.pending = self.pending.erase transfer := by
  cases sourced with
  | completed source same own plain =>
      subst same
      exact fitting_completion self submission source found own plain fits
  | cancelled source same reason member =>
      subst same
      have cancellation : reason ∈ cancellationReasons := by
        have accepted := source.cancellation
        rw [member] at accepted
        exact List.contains_iff_mem.mp accepted
      exact ⟨_, _, .cancelled source submission reason
        { NormalizerRecords.cancelledFields submission source reason with
          shape := NormalizerRecords.cancelled_shape submission source reason cancellation }
        rfl member found fits, rfl⟩

theorem restore_fits (source : CoreTransferCompleted) (pending : CoreTransferSubmitted)
    (receipt : ReceiptIdentity) (found : self.pending.lookup source.transfer = some submission)
    (matched : RestoreMatched self source pending receipt) :
    Fits submission (.completed source) := by
  have again := matched.found
  rw [found] at again
  cases again
  refine ⟨Nat.le_of_lt matched.later, fun _ => ⟨matched.moved, matched.later⟩, ?_⟩
  intro failure
  rw [matched.success] at failure
  cases failure

/-- Only a fitting terminal takes the transfer out of the pending table. -/
theorem fits_of_removed (next : LifecycleNormalizer) (source : SourceObservation)
    (result : Option KVTransferObservation)
    (found : self.pending.lookup transfer = some submission)
    (sourced : WellSourced transfer submission.operation source)
    (outcome : Outcome self source result next) (removed : transfer ∉ next.pending) :
    Fits submission source := by
  have present : transfer ∈ self.pending := Dict.mem_of_lookup found
  cases sourced with
  | completed source same own plain =>
      subst same
      cases outcome with
      | refused source reason => exact absurd present removed
      | completionFull source pending receipt matched retained full =>
          exact restore_fits self submission source pending receipt found matched
      | failed source pending record fields again ordered preserve failure bytes receipt =>
          rw [found] at again
          cases again
          refine ⟨ordered, ?_, ?_⟩
          · intro success
            rw [failure] at success
            cases success
          · intro _
            refine ⟨bytes, fun operation => ?_⟩
            exact Nat.lt_of_le_of_ne ordered (preserve operation)
      | restored source pending receipt record fields matched scope room =>
          exact restore_fits self submission source pending receipt found matched
      | preserved source pending record fields again operation later success moved receipt =>
          rw [found] at again
          cases again
          refine ⟨Nat.le_of_lt later, fun _ => ⟨moved, later⟩, ?_⟩
          intro failure
          rw [success] at failure
          cases failure
  | cancelled source same reason member =>
      subst same
      cases outcome with
      | refused source reason => exact absurd present removed
      | torn source pending object text again ordered =>
          rw [found] at again
          cases again
          exact ordered
      | cancelled source pending reason record fields member again ordered =>
          rw [found] at again
          cases again
          exact ordered

/-- A terminal observation of a pending transfer closes it exactly when the evidence
is still valid and the observation fits. -/
theorem terminal_closes_iff (source : SourceObservation) (opened : self.closed = false)
    (found : self.pending.lookup transfer = some submission)
    (sourced : WellSourced transfer submission.operation source) :
    transfer ∉ (self.normalize source).2.pending ↔
      self.evidenceValid = true ∧ Fits submission source := by
  have present : transfer ∈ self.pending := Dict.mem_of_lookup found
  constructor
  · intro removed
    obtain ⟨result, answer, transition⟩ := step_transition self (.normalize source)
    change Transition self (.normalize source) result (self.normalize source).2 at transition
    generalize (self.normalize source).2 = next at transition removed
    cases transition with
    | afterClose source closed => exact absurd present removed
    | afterLoss source opened lost => exact absurd present removed
    | handled source result next opened valid outcome =>
        exact ⟨valid, fits_of_removed self submission transfer next source result found
          sourced outcome removed⟩
  · rintro ⟨valid, fits⟩
    obtain ⟨result, next, outcome, erased⟩ :=
      fitting_outcome self submission transfer source found sourced fits
    rw [normalize_handled self source opened valid,
      outcome_handled self source result next outcome]
    show transfer ∉ next.pending
    rw [erased]
    exact fun member => (Finmap.mem_erase.mp member).1 rfl

end Closing

/-! ## The two tables side by side -/

section Tables

variable {Sink : Type} (emit : Sink → EventRecord → Py Bool × Sink)

/-- Every entry of the binding is pending in the normalizer. -/
structure InFlight (transfers admissions : Nat) (retain : Bool) (system : System Sink)
    (normalizer : LifecycleNormalizer) : Prop where
  opened : normalizer.closed = false
  settings : Settings normalizer transfers admissions retain
  tables : TableInvariant normalizer
  transfer : ∀ jobId entry, system.binding.pending.lookup jobId = some entry →
    system.binding.transferOf jobId = .ok entry.transfer
  pending : ∀ jobId entry, system.binding.pending.lookup jobId = some entry →
    ∃ submission, normalizer.pending.lookup entry.transfer = some submission ∧
      submission.identity = entry.identity ∧ submission.operation = entry.operation

theorem normalize_open (self : LifecycleNormalizer) (source : SourceObservation)
    (opened : self.closed = false) : (self.normalize source).2.closed = false := by
  obtain ⟨result, _, transition⟩ := step_transition self (.normalize source)
  change Transition self (.normalize source) result (self.normalize source).2 at transition
  generalize (self.normalize source).2 = next at transition
  cases transition with
  | afterClose source closed => exact opened
  | afterLoss source opened lost => exact opened
  | handled source result next opened valid outcome =>
      cases outcome <;> exact opened

/-- What the binding read off a terminal record is well sourced for the submission
behind the entry. -/
theorem terminates_well_sourced {World : Type} (binding : VllmOffloadingObserverBinding World)
    (record : HostRecord) (jobId : Nat) (entry : PendingTransfer) (source : SourceObservation)
    (scope : binding.transferOf jobId = .ok entry.transfer)
    (terminates : Terminates binding record jobId entry source) :
    WellSourced entry.transfer entry.operation source := by
  obtain ⟨event, _, _, built⟩ := terminates.source
  have process := transfer_of_process binding jobId entry.transfer scope
  rcases terminal_source_fields binding record event entry.transfer entry.operation source built
    with ⟨completed, rfl, same, own, plain⟩ | ⟨cancelled, rfl, same, member⟩
  · refine .completed completed same ?_ plain
    intro restored
    obtain ⟨receipt, received, receiptProcess⟩ := own restored
    exact ⟨receipt, received, receiptProcess.trans process.symm⟩
  · exact .cancelled cancelled same .hostShutdown member

variable {transfers admissions : Nat} {retain : Bool}
variable {system after : System Sink} {normalizer : LifecycleNormalizer}

/-- The part of the invariant that does not mention the binding survives every
observation. -/
theorem InFlight.normalized (holds : InFlight transfers admissions retain system normalizer)
    (source : SourceObservation)
    (transfer : ∀ jobId entry, after.binding.pending.lookup jobId = some entry →
      after.binding.transferOf jobId = .ok entry.transfer)
    (pending : ∀ jobId entry, after.binding.pending.lookup jobId = some entry →
      ∃ submission, (normalizer.normalize source).2.pending.lookup entry.transfer =
          some submission ∧
        submission.identity = entry.identity ∧ submission.operation = entry.operation) :
    InFlight transfers admissions retain after (normalizer.normalize source).2 where
  opened := normalize_open normalizer source holds.opened
  settings := step_settings normalizer (.normalize source) transfers admissions retain
    holds.settings
  tables := holds.tables.step (.normalize source)
  transfer := transfer
  pending := pending

theorem normalize_transition (self : LifecycleNormalizer) (source : SourceObservation) :
    ∃ result, (self.normalize source).1 = .ok result ∧
      Transition self (.normalize source) result (self.normalize source).2 :=
  step_transition self (.normalize source)

/-- A submission that the sink took is pending now; the others keep their place. -/
theorem InFlight.submitted (holds : InFlight transfers admissions retain system normalizer)
    (record : HostRecord) (jobId : Nat) (source : CoreTransferSubmitted)
    (submits : Submits system.binding record jobId source) (accepted : Bool)
    (answered : accepted = true → ∃ record,
      (normalizer.normalize (.submitted source)).1 = .ok (some record))
    (binding : after.binding = if accepted = true then
        { system.binding with
          pending := system.binding.pending.insert jobId (entryOf source) }
      else system.binding) :
    InFlight transfers admissions retain after (normalizer.normalize (.submitted source)).2 := by
  obtain ⟨blockCount, blocks, built⟩ := submits.source
  obtain ⟨_, _, scope⟩ := submitted_source_fields system.binding record source.identity
    source.operation jobId (.int blockCount) source built
  obtain ⟨result, answer, transition⟩ := normalize_transition normalizer (.submitted source)
  have table := submission_pending normalizer _ source result transition
  have kept : ∀ job entry, system.binding.pending.lookup job = some entry →
      ∃ submission, (normalizer.normalize (.submitted source)).2.pending.lookup entry.transfer =
          some submission ∧
        submission.identity = entry.identity ∧ submission.operation = entry.operation := by
    intro job entry found
    obtain ⟨submission, present, facts⟩ := holds.pending job entry found
    refine ⟨submission, ?_, facts⟩
    rcases table with ⟨_, same⟩ | ⟨_, _, absent, grown⟩
    · rw [same]
      exact present
    · have different : entry.transfer ≠ source.transfer := by
        intro same
        rw [← same] at absent
        exact absent (Dict.mem_of_lookup present)
      rw [grown, Dict.lookup_insert_ite, if_neg different]
      exact present
  cases accepted with
  | false =>
      rw [if_neg (by decide)] at binding
      apply holds.normalized
      · rw [binding]
        exact holds.transfer
      · rw [binding]
        exact kept
  | true =>
      rw [if_pos rfl] at binding
      obtain ⟨given, returned⟩ := answered rfl
      rw [answer] at returned
      cases returned
      apply holds.normalized
      · intro job entry found
        rw [binding, Dict.lookup_insert_ite] at found
        rw [binding]
        split at found
        · rename_i same
          cases found
          rw [same]
          exact scope
        · exact holds.transfer job entry found
      · intro job entry found
        rw [binding, Dict.lookup_insert_ite] at found
        split at found
        · cases found
          rcases table with ⟨nothing, _⟩ | ⟨_, _, _, grown⟩
          · cases nothing
          · refine ⟨source, ?_, rfl, rfl⟩
            rw [grown, Dict.lookup_insert_ite]
            exact if_pos rfl
        · exact kept job entry found

/-- A terminal record takes its own entry out; no other entry has its transfer. -/
theorem InFlight.terminated (holds : InFlight transfers admissions retain system normalizer)
    (record : HostRecord) (jobId : Nat) (entry : PendingTransfer) (source : SourceObservation)
    (found : system.binding.pending.lookup jobId = some entry)
    (terminates : Terminates system.binding record jobId entry source)
    (binding : after.binding = { system.binding with
      pending := system.binding.pending.erase jobId }) :
    InFlight transfers admissions retain after (normalizer.normalize source).2 := by
  have scope := holds.transfer jobId entry found
  have sourced := terminates_well_sourced system.binding record jobId entry source scope
    terminates
  obtain ⟨result, _, transition⟩ := normalize_transition normalizer source
  have table := terminal_pending normalizer _ entry.transfer source sourced.terminal result
    transition
  apply holds.normalized
  · intro job other kept
    rw [binding, Dict.lookup_erase_ite] at kept
    rw [binding]
    split at kept
    · cases kept
    · exact holds.transfer job other kept
  · intro job other kept
    rw [binding, Dict.lookup_erase_ite] at kept
    split at kept
    · cases kept
    · rename_i different
      obtain ⟨submission, present, facts⟩ := holds.pending job other kept
      refine ⟨submission, ?_, facts⟩
      rcases table with same | shrunk
      · rw [same]
        exact present
      · have otherTransfer : other.transfer ≠ entry.transfer := by
          intro same
          have there := holds.transfer job other kept
          rw [same] at there
          exact different (transfer_of_injective system.binding job jobId entry.transfer there
            scope)
        rw [shrunk, Dict.lookup_erase_ite, if_neg otherTransfer]
        exact present

theorem lookup_job_found {World : Type} (binding : VllmOffloadingObserverBinding World)
    (key : Option Int) (jobId : Nat) (entry : PendingTransfer)
    (found : binding.lookupJob key = some (jobId, entry)) :
    binding.pending.lookup jobId = some entry := by
  unfold VllmOffloadingObserverBinding.lookupJob at found
  split at found
  · obtain ⟨value, present, same⟩ := Option.map_eq_some_iff.mp found
    cases same
    exact present
  · cases found

theorem terminates_found {World : Type} (binding : VllmOffloadingObserverBinding World)
    (record : HostRecord) (jobId : Nat) (entry : PendingTransfer) (source : SourceObservation)
    (terminates : Terminates binding record jobId entry source) :
    binding.pending.lookup jobId = some entry := by
  obtain ⟨key, _, found⟩ := terminates.key
  exact lookup_job_found binding key jobId entry found

theorem InFlight.delivery (holds : InFlight transfers admissions retain system normalizer)
    (record : HostRecord) (sink : Sink) (next : LifecycleNormalizer)
    (delivery : Delivery emit system record normalizer sink after next) :
    InFlight transfers admissions retain after next := by
  cases delivery with
  | submitted jobId source taken after submits accepts binding =>
      apply holds.submitted record jobId source submits taken
      · intro accepted
        obtain ⟨observation, answer, _⟩ := accepts.mp accepted
        exact ⟨observation, answer⟩
      · exact binding
  | terminal jobId entry source after terminates binding =>
      exact holds.terminated record jobId entry source
        (terminates_found system.binding record jobId entry source terminates) terminates binding
  | idle after noSubmission noTerminal binding =>
      refine ⟨holds.opened, holds.settings, holds.tables, ?_, ?_⟩
      · rw [binding]
        exact holds.transfer
      · rw [binding]
        exact holds.pending

theorem attached_in_flight (processUuid : ProcessUuid) (transfers admissions : Nat)
    (retain : Bool) (sink : Sink) :
    InFlight transfers admissions retain
      (attached emit processUuid transfers admissions retain sink)
      (fresh transfers admissions retain) where
  opened := rfl
  settings := ⟨rfl, rfl, rfl⟩
  tables := TableInvariant.fresh transfers admissions retain
  transfer := by
    intro jobId entry found
    cases found
  pending := by
    intro jobId entry found
    cases found

/-- After every run of host records the adapter serves a normalizer that holds what
the binding holds. -/
theorem reachable_in_flight (processUuid : ProcessUuid) (transfers admissions : Nat)
    (retain : Bool) (sink : Sink) (records : List HostRecord) :
    ∃ normalizer nextSink,
      Running emit processUuid
        (Machine.finalState deliver
          (attached emit processUuid transfers admissions retain sink) records)
        normalizer nextSink ∧
      InFlight transfers admissions retain
        (Machine.finalState deliver
          (attached emit processUuid transfers admissions retain sink) records) normalizer := by
  apply Machine.invariant_run deliver (fun system => ∃ normalizer nextSink,
    Running emit processUuid system normalizer nextSink ∧
      InFlight transfers admissions retain system normalizer)
  · rintro system record ⟨normalizer, before, running, holds⟩
    obtain ⟨next, nextSink, still, delivery⟩ := deliver_delivery emit system record processUuid
      normalizer before running
    exact ⟨next, nextSink, still, holds.delivery emit record before next delivery⟩
  · exact ⟨fresh transfers admissions retain, sink, ⟨rfl, rfl, ⟨rfl, rfl, rfl⟩⟩,
      attached_in_flight emit processUuid transfers admissions retain sink⟩

/-- The transfer is pending in the normalizer the adapter serves. -/
def Held (system : System Sink) (transfer : TransferIdentity) : Prop :=
  ∃ normalizer, system.adapter.normalizer = some normalizer ∧ transfer ∈ normalizer.pending

instance (system : System Sink) (transfer : TransferIdentity) :
    Decidable (Held system transfer) :=
  match serves : system.adapter.normalizer with
  | none => isFalse (by
      rintro ⟨normalizer, other, _⟩
      rw [serves] at other
      cases other)
  | some normalizer => decidable_of_iff (transfer ∈ normalizer.pending) (by
      constructor
      · intro present
        exact ⟨normalizer, serves, present⟩
      · rintro ⟨other, same, present⟩
        rw [serves] at same
        cases same
        exact present)

theorem held_iff (processUuid : ProcessUuid) (sink : Sink) (transfer : TransferIdentity)
    (running : Running emit processUuid system normalizer sink) :
    Held system transfer ↔ transfer ∈ normalizer.pending := by
  constructor
  · rintro ⟨other, serves, present⟩
    rw [running.serving.normalizer] at serves
    cases serves
    exact present
  · intro present
    exact ⟨normalizer, running.serving.normalizer, present⟩

end Tables

/-! ## Sample host records -/

def sampleProcess : ProcessUuid := ⟨"dddddddddddddddddddddddddddddddd", by decide +kernel⟩

def submissionRecord (jobId : Nat) : HostRecord :=
  { event := some (.member "transfer_submitted")
    jobId := some (.int jobId)
    operation := some (.member "h2d_restore")
    requestId := some (.str "request-1")
    rank := some (.int 0)
    blockCount := some (.int 4)
    observedAtNs := some (.int 10) }

/-- A successful completion of the submission, with the given byte count. -/
def completionRecord (jobId : Nat) (bytesMoved : PyObject) : HostRecord :=
  { event := some (.member "transfer_completed")
    jobId := some (.int jobId)
    operation := some (.member "h2d_restore")
    requestId := some (.str "request-1")
    rank := some (.int 0)
    observedAtNs := some (.int 20)
    success := some (.bool true)
    bytesMoved := some bytesMoved
    durationNs := some .none }

/-- What the binding reads off the submission of a job. -/
def submissionSource (jobId : Uint uint64Max) : CoreTransferSubmitted :=
  { identity :=
      { requestId := ⟨"request-1", request_one⟩
        workerGeneration := ⟨workerGenerationOf sampleProcess, by decide +kernel⟩
        rank := ⟨0, rank_zero⟩
        recoveryEpoch := none }
    transfer := jobTransfer sampleProcess jobId
    operation := .h2dRestore
    blockCount := ⟨4, four_blocks⟩
    observedAtNs := ⟨10, time_ten⟩ }

/-- A sink that answers every record the same way. -/
def constantSink (answer : Bool) (sink : Unit) (_ : EventRecord) : Py Bool × Unit :=
  (.ok answer, sink)

end KVTransferObservability.NativeInFlight
