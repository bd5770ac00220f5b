import KVTransferObservability.ScopedIds
import KVTransferObservability.NormalizerTransitions

/-!
# One host record, from the binding to the tables

The binding, an active adapter and its normalizer as one system. A record does one
of three things to the two pending tables: nothing, one submission, or one
terminal observation; `deliver_submitted`, `deliver_terminal` and `deliver_idle`
say which, in terms of what the binding read off the record.
-/

namespace KVTransferObservability.NativeDelivery

open Library PythonValues Schema HostFacts Normalization Adapter Native ScopedIds
open NormalizerTransitions
open VllmOffloadingObserverBinding (operationOf)

set_option autoImplicit false

structure System (Sink : Type) where
  binding : VllmOffloadingObserverBinding (KVTransferHostAdapter Sink)
  adapter : KVTransferHostAdapter Sink

section Delivery

variable {Sink : Type}

/-- The host calls `_observe_host`. -/
def deliver (system : System Sink) (record : HostRecord) : Py Bool × System Sink :=
  let (answer, binding, adapter) := system.binding.observeHost system.adapter record
  (answer, { binding, adapter })

variable (emit : Sink → EventRecord → Py Bool × Sink)

/-- The binding registered on an active adapter with a new normalizer. -/
def attached (processUuid : ProcessUuid) (maxCorrelatedTransfers maxRecoveryAdmissions : Nat)
    (retainRestoreReceipts : Bool) (sink : Sink) : System Sink :=
  { binding :=
      { processUuid := processUuid
        callbacks := some (adapterCallbacks emit) }
    adapter :=
      { state := .active
        normalizer :=
          some (fresh maxCorrelatedTransfers maxRecoveryAdmissions retainRestoreReceipts)
        sink := some sink } }

/-- An active adapter with its normalizer and sink. -/
structure Serving (adapter : KVTransferHostAdapter Sink) (normalizer : LifecycleNormalizer)
    (sink : Sink) : Prop where
  active : adapter.state = .active
  normalizer : adapter.normalizer = some normalizer
  sink : adapter.sink = some sink

/-- The sink takes the record the normalizer returns for the source. -/
def Accepts (normalizer : LifecycleNormalizer) (sink : Sink) (source : SourceObservation) :
    Prop :=
  ∃ record, (normalizer.normalize source).1 = .ok (some record) ∧
    (emit sink (.canonical record)).1 = .ok true

theorem observe_serving (adapter : KVTransferHostAdapter Sink)
    (normalizer : LifecycleNormalizer) (sink : Sink)
    (serving : Serving adapter normalizer sink) (source : SourceObservation) :
    (∃ next, Serving (adapter.observe emit source).2 (normalizer.normalize source).2 next) ∧
      ((adapter.observe emit source).1 = true ↔ Accepts emit normalizer sink source) := by
  rcases adapter with ⟨state, counters, held, written⟩
  obtain ⟨active, sameNormalizer, sameSink⟩ := serving
  dsimp only at active sameNormalizer sameSink
  subst active sameNormalizer sameSink
  unfold KVTransferHostAdapter.observe Accepts
  simp only [ne_eq, not_true_eq_false, if_false, KVTransferHostAdapter.count]
  rcases answer : normalizer.normalize source with ⟨error | observation, next⟩
  · exact ⟨⟨sink, ⟨rfl, rfl, rfl⟩⟩, by simp⟩
  · cases observation with
    | none => exact ⟨⟨sink, ⟨rfl, rfl, rfl⟩⟩, by simp⟩
    | some record =>
        rcases taken : emit sink (.canonical record) with ⟨error | accepted, after⟩
        · simp only [taken]
          exact ⟨⟨after, ⟨rfl, rfl, rfl⟩⟩, by simp [taken]⟩
        · cases accepted
          · simp only [taken]
            exact ⟨⟨after, ⟨rfl, rfl, rfl⟩⟩, by simp [taken]⟩
          · simp only [taken]
            exact ⟨⟨after, ⟨rfl, rfl, rfl⟩⟩, by simp [taken]⟩

theorem observe_host_fact_serving (adapter : KVTransferHostAdapter Sink)
    (normalizer : LifecycleNormalizer) (sink : Sink)
    (serving : Serving adapter normalizer sink) (fact : HostFact) :
    ∃ next, Serving (adapter.observeHostFact emit fact).2 normalizer next := by
  rcases adapter with ⟨state, counters, held, written⟩
  obtain ⟨active, sameNormalizer, sameSink⟩ := serving
  dsimp only at active sameNormalizer sameSink
  subst active sameNormalizer sameSink
  unfold KVTransferHostAdapter.observeHostFact KVTransferHostAdapter.queue
  simp only [ne_eq, not_true_eq_false, if_false, KVTransferHostAdapter.count]
  rcases taken : emit sink (.hostFact fact) with ⟨error | accepted, after⟩
  · exact ⟨after, ⟨rfl, rfl, rfl⟩⟩
  · cases accepted
    · exact ⟨after, ⟨rfl, rfl, rfl⟩⟩
    · exact ⟨after, ⟨rfl, rfl, rfl⟩⟩

/-- The system while the adapter is active and the binding registered. -/
structure Running (processUuid : ProcessUuid) (system : System Sink)
    (normalizer : LifecycleNormalizer) (sink : Sink) : Prop where
  processUuid : system.binding.processUuid = processUuid
  callbacks : system.binding.callbacks = some (adapterCallbacks emit)
  serving : Serving system.adapter normalizer sink

end Delivery

/-! ## What the binding reads off a record -/

section Reading

variable {World : Type}

/-- The entry of an accepted submission. -/
def entryOf (source : CoreTransferSubmitted) : PendingTransfer :=
  { identity := source.identity, transfer := source.transfer, operation := source.operation }

/-- The record is a well-formed submission of a job the binding does not know yet and
has room for. -/
structure Submits (binding : VllmOffloadingObserverBinding World) (record : HostRecord)
    (jobId : Nat) (source : CoreTransferSubmitted) : Prop where
  event : valueOf record.event = .str "transfer_submitted"
  job : record.jobId = some (.int jobId)
  identity : binding.identityOf record = some source.identity
  operation : operationOf record = .ok (some source.operation)
  source : ∃ blockCount, record.blockCount = some (.int blockCount) ∧
    binding.submittedSource record source.identity source.operation jobId (.int blockCount) =
      .ok source
  fresh : jobId ∉ binding.pending
  room : binding.pending.size < maxBindingTransfers

/-- The record is a terminal record of the entry that the binding turns into the
source observation. -/
structure Terminates (binding : VllmOffloadingObserverBinding World) (record : HostRecord)
    (jobId : Nat) (entry : PendingTransfer) (source : SourceObservation) : Prop where
  key : ∃ key, (record.jobId.getD .none).integerKey = .ok key ∧
    binding.lookupJob key = some (jobId, entry)
  operation : operationOf record = .ok (some entry.operation)
  request : (record.requestId.getD .none).equalsText entry.identity.requestId.val = true
  rank : (record.rank.getD .none).equalsNat entry.identity.rank.val = true
  source : ∃ event, valueOf record.event = .str event ∧
    (event = "transfer_completed" ∨ event = "transfer_cancelled") ∧
    binding.terminalSource record event entry.transfer entry.operation = .ok (some source)

theorem submitted_source_fields (binding : VllmOffloadingObserverBinding World)
    (record : HostRecord) (identity : ObservationIdentity) (operation : TransferOperation)
    (jobId : Nat) (blockCount : PyObject) (source : CoreTransferSubmitted)
    (built : binding.submittedSource record identity operation jobId blockCount = .ok source) :
    source.identity = identity ∧ source.operation = operation ∧
      binding.transferOf jobId = .ok source.transfer := by
  unfold VllmOffloadingObserverBinding.submittedSource CoreTransferSubmitted.make at built
  obtain ⟨transfer, sameTransfer, built⟩ := bind_eq_ok.mp built
  obtain ⟨time, _, built⟩ := bind_eq_ok.mp built
  simp only [Argument.expect_typed, bind, Except.bind] at built
  obtain ⟨blocks, _, built⟩ := bind_eq_ok.mp built
  obtain ⟨observed, _, built⟩ := bind_eq_ok.mp built
  cases built
  exact ⟨rfl, rfl, sameTransfer⟩

theorem terminal_receipt_fields (binding : VllmOffloadingObserverBinding World)
    (record : HostRecord) (operation : TransferOperation) (receipt : Option ReceiptIdentity)
    (success : Bool) (read : readAttribute record.success "success" = .ok (.bool success))
    (received : binding.terminalReceipt record operation = .ok receipt) :
    (operation = .h2dRestore ∧ success = true → ∃ own, receipt = some own ∧
      own.processUuid = binding.processUuid.val) ∧
    (¬ (operation = .h2dRestore ∧ success = true) → receipt = none) := by
  unfold VllmOffloadingObserverBinding.terminalReceipt at received
  rw [read] at received
  cases operation with
  | d2hPreserve =>
      cases received
      exact ⟨fun restore => absurd restore.1 (by decide), fun _ => rfl⟩
  | h2dRestore =>
      cases success with
      | false =>
          cases received
          exact ⟨fun restore => absurd restore.2 (by decide), fun _ => rfl⟩
      | true =>
          refine ⟨fun _ => ?_, fun plain => absurd ⟨rfl, rfl⟩ plain⟩
          simp only [PyObject.isTrue, if_true] at received
          cases built : ReceiptIdentity.make (.str (binding.processUuid.val ++ ":k:" ++
              VllmOffloadingObserverBinding.formatJobId (record.jobId.getD .none))) with
          | error error =>
              rw [built] at received
              cases received
          | ok own =>
              rw [built] at received
              cases received
              exact ⟨own, rfl, receipt_of_process binding _ own built⟩

theorem completed_make_fields (transfer : TransferIdentity)
    (observedAtNs success bytesMoved deviceDurationNs : PyObject)
    (receipt : Option ReceiptIdentity) (completed : CoreTransferCompleted)
    (built : CoreTransferCompleted.make (.typed transfer) observedAtNs success bytesMoved
      deviceDurationNs (.ofOption receipt) = .ok completed) :
    completed.transfer = transfer ∧ success = .bool completed.success ∧
      completed.receipt = receipt := by
  unfold CoreTransferCompleted.make at built
  simp only [Argument.expect_typed, Argument.expect_optional_of_option, bind, Except.bind] at built
  obtain ⟨time, _, built⟩ := bind_eq_ok.mp built
  obtain ⟨flag, checked, built⟩ := bind_eq_ok.mp built
  obtain ⟨bytes, _, built⟩ := bind_eq_ok.mp built
  obtain ⟨device, _, built⟩ := bind_eq_ok.mp built
  cases built
  refine ⟨rfl, ?_, rfl⟩
  cases success <;> cases checked
  rfl

theorem cancelled_make_fields (transfer : TransferIdentity) (observedAtNs : PyObject)
    (reason : TransferTerminalReason) (cancelled : CoreTransferCancelled)
    (built : CoreTransferCancelled.make (.typed transfer) observedAtNs (.typed reason) =
      .ok cancelled) :
    cancelled.transfer = transfer ∧ cancelled.reason = .typed reason := by
  unfold CoreTransferCancelled.make at built
  simp only [Argument.expect_typed, bind, Except.bind] at built
  obtain ⟨time, _, built⟩ := bind_eq_ok.mp built
  split at built
  · cases built
    exact ⟨rfl, rfl⟩
  · cases built

/-- A terminal source speaks about the entry's transfer. A successful restore comes
with a receipt of the binding's own process; other completions bring none. -/
theorem terminal_source_fields (binding : VllmOffloadingObserverBinding World)
    (record : HostRecord) (event : String) (transfer : TransferIdentity)
    (operation : TransferOperation) (source : SourceObservation)
    (built : binding.terminalSource record event transfer operation = .ok (some source)) :
    (∃ completed, source = .completed completed ∧ completed.transfer = transfer ∧
      (operation = .h2dRestore ∧ completed.success = true → ∃ receipt,
        completed.receipt = some receipt ∧
          receipt.processUuid = binding.processUuid.val) ∧
      (¬ (operation = .h2dRestore ∧ completed.success = true) → completed.receipt = none)) ∨
    (∃ cancelled, source = .cancelled cancelled ∧ cancelled.transfer = transfer ∧
      cancelled.reason = .typed .hostShutdown) := by
  unfold VllmOffloadingObserverBinding.terminalSource at built
  split at built
  · left
    obtain ⟨receipt, received, built⟩ := bind_eq_ok.mp built
    obtain ⟨duration, _, built⟩ := bind_eq_ok.mp built
    obtain ⟨time, _, built⟩ := bind_eq_ok.mp built
    obtain ⟨success, read, built⟩ := bind_eq_ok.mp built
    obtain ⟨bytes, _, built⟩ := bind_eq_ok.mp built
    obtain ⟨completed, made, built⟩ := bind_eq_ok.mp built
    cases built
    obtain ⟨sameTransfer, flag, sameReceipt⟩ := completed_make_fields _ _ _ _ _ _ _ made
    rw [flag] at read
    obtain ⟨own, plain⟩ :=
      terminal_receipt_fields binding record operation receipt completed.success read received
    refine ⟨completed, rfl, sameTransfer, ?_, ?_⟩
    · rw [sameReceipt]
      exact own
    · rw [sameReceipt]
      exact plain
  · split at built
    · right
      obtain ⟨time, _, built⟩ := bind_eq_ok.mp built
      obtain ⟨cancelled, made, built⟩ := bind_eq_ok.mp built
      cases built
      exact ⟨cancelled, rfl, cancelled_make_fields transfer time .hostShutdown cancelled made⟩
    · cases built

theorem identity_of_job (binding : VllmOffloadingObserverBinding World) (record : HostRecord)
    (identity : ObservationIdentity) (jobId : Int)
    (read : binding.identityOf record = some identity)
    (job : record.jobId = some (.int jobId)) : 0 ≤ jobId ∧ jobId ≤ uint64Max := by
  unfold VllmOffloadingObserverBinding.identityOf at read
  split at read
  · rename_i number rank request found _ _
    rw [job] at found
    cases found
    split at read
    · cases read
    · rename_i inRange
      exact not_not.mp (not_or.mp inRange).1
  · cases read

theorem submitted_idle (binding : VllmOffloadingObserverBinding World) (world : World)
    (record : HostRecord) (operation : Option TransferOperation)
    (event : valueOf record.event = .str "transfer_submitted")
    (looked : operationOf record = .ok operation)
    (noSubmission : ∀ jobId source, ¬ Submits binding record jobId source) :
    (binding.observeSubmitted world record operation).2 = (binding, world) := by
  unfold VllmOffloadingObserverBinding.observeSubmitted
  split
  · rename_i identity operation blockCount jobId readIdentity readBlocks readJob
    split
    · rfl
    · rename_i source built
      split
      · rfl
      · split
        · rfl
        · rename_i free
          obtain ⟨fresh, room⟩ := not_or.mp free
          obtain ⟨sameIdentity, sameOperation, _⟩ :=
            submitted_source_fields binding record identity operation _ _ source built
          have nonnegative := (identity_of_job binding record identity jobId readIdentity
            readJob).1
          have submits : Submits binding record jobId.toNat source := by
            refine ⟨event, ?_, ?_, ?_, ⟨blockCount, readBlocks, ?_⟩, fresh, Nat.not_le.mp room⟩
            · rw [Int.toNat_of_nonneg nonnegative]
              exact readJob
            · rw [sameIdentity]
              exact readIdentity
            · rw [sameOperation]
              exact looked
            · rw [sameIdentity, sameOperation]
              exact built
          exact absurd submits (noSubmission _ _)
  · rfl

theorem terminal_idle (binding : VllmOffloadingObserverBinding World) (world : World)
    (record : HostRecord) (event : String) (operation : Option TransferOperation)
    (name : valueOf record.event = .str event)
    (kind : event = "transfer_completed" ∨ event = "transfer_cancelled")
    (looked : operationOf record = .ok operation)
    (noTerminal : ∀ jobId entry source, ¬ Terminates binding record jobId entry source) :
    (binding.observeTerminal world record event operation).2 = (binding, world) := by
  unfold VllmOffloadingObserverBinding.observeTerminal
  split
  · rfl
  · rename_i key hashed
    split
    · rename_i callbacks jobId entry operation registered found
      split
      · rfl
      · rename_i agrees
        rw [not_or, not_or, not_not, Bool.not_eq_true, Bool.not_eq_true, Bool.not_eq_false',
          Bool.not_eq_false'] at agrees
        obtain ⟨sameOperation, request, rank⟩ := agrees
        split
        · rfl
        · rfl
        · rename_i source built
          have terminates : Terminates binding record jobId entry source := by
            refine ⟨⟨key, hashed, found⟩, ?_, request, rank, event, name, kind, ?_⟩
            · rw [← sameOperation]
              exact looked
            · rw [← sameOperation]
              exact built
          exact absurd terminates (noTerminal _ _ _)
    · rfl

end Reading

/-! ## What the system does with it -/

section Steps

variable {Sink : Type} (emit : Sink → EventRecord → Py Bool × Sink)
variable (system : System Sink) (record : HostRecord)

theorem adapter_callbacks_observe (adapter : KVTransferHostAdapter Sink)
    (source : SourceObservation) :
    (adapterCallbacks emit).observe adapter source =
      (.ok (.bool (adapter.observe emit source).1), (adapter.observe emit source).2) := rfl

theorem deliver_submitted (callbacks : system.binding.callbacks = some (adapterCallbacks emit))
    (jobId : Nat) (source : CoreTransferSubmitted)
    (submits : Submits system.binding record jobId source) :
    (deliver system record).2 =
      { binding :=
          if (system.adapter.observe emit (.submitted source)).1 = true then
            { system.binding with
              pending := system.binding.pending.insert jobId (entryOf source) }
          else system.binding
        adapter := (system.adapter.observe emit (.submitted source)).2 } := by
  rcases system with ⟨⟨processUuid, registered, pending⟩, adapter⟩
  dsimp only at callbacks submits ⊢
  subst callbacks
  obtain ⟨blockCount, blocks, built⟩ := submits.source
  have noFact : memberOfValue HostFactEvent.all HostFactEvent.value
      (.str "transfer_submitted") = none := by decide
  have open_ : ¬ (jobId ∈ pending ∨ maxBindingTransfers ≤ pending.size) :=
    not_or.mpr ⟨submits.fresh, Nat.not_le.mpr submits.room⟩
  unfold deliver VllmOffloadingObserverBinding.observeHost
    VllmOffloadingObserverBinding.observeSubmitted
  simp only [submits.event, noFact, submits.identity, submits.operation, blocks, submits.job,
    Int.toNat_natCast, built, if_neg open_, adapter_callbacks_observe, if_true]
  cases accepted : (adapter.observe emit (.submitted source)).1 <;>
    simp [PyObject.isTrue, entryOf]

theorem deliver_terminal (callbacks : system.binding.callbacks = some (adapterCallbacks emit))
    (jobId : Nat) (entry : PendingTransfer) (source : SourceObservation)
    (terminates : Terminates system.binding record jobId entry source) :
    (deliver system record).2 =
      { binding := { system.binding with pending := system.binding.pending.erase jobId }
        adapter := (system.adapter.observe emit source).2 } := by
  rcases system with ⟨⟨processUuid, registered, pending⟩, adapter⟩
  dsimp only at callbacks terminates ⊢
  subst callbacks
  obtain ⟨key, hashed, found⟩ := terminates.key
  obtain ⟨event, name, kind, built⟩ := terminates.source
  have noFact : memberOfValue HostFactEvent.all HostFactEvent.value (.str event) = none := by
    rcases kind with rfl | rfl <;> decide
  have notSubmitted : event ≠ "transfer_submitted" := by
    rcases kind with rfl | rfl <;> decide
  unfold deliver VllmOffloadingObserverBinding.observeHost
    VllmOffloadingObserverBinding.observeTerminal
  simp only [name, noFact, if_neg notSubmitted, if_pos kind, hashed, found,
    terminates.operation, terminates.request, terminates.rank, built, adapter_callbacks_observe]
  simp

theorem host_fact_serving (binding : VllmOffloadingObserverBinding (KVTransferHostAdapter Sink))
    (adapter : KVTransferHostAdapter Sink) (normalizer : LifecycleNormalizer) (sink : Sink)
    (callbacks : binding.callbacks = some (adapterCallbacks emit))
    (serving : Serving adapter normalizer sink) (event : HostFactEvent) :
    ∃ next, Serving (binding.observeHostFact adapter record event).2 normalizer next := by
  unfold VllmOffloadingObserverBinding.observeHostFact
  rw [callbacks]
  simp only [Option.bind_some, adapterCallbacks]
  split
  · exact ⟨sink, serving⟩
  · exact ⟨sink, serving⟩
  · rename_i fact built
    exact observe_host_fact_serving emit adapter normalizer sink serving fact

/-- A record that is neither leaves both tables alone. -/
theorem deliver_idle (processUuid : ProcessUuid) (normalizer : LifecycleNormalizer) (sink : Sink)
    (running : Running emit processUuid system normalizer sink)
    (noSubmission : ∀ jobId source, ¬ Submits system.binding record jobId source)
    (noTerminal : ∀ jobId entry source, ¬ Terminates system.binding record jobId entry source) :
    (deliver system record).2.binding = system.binding ∧
      ∃ next, Serving (deliver system record).2.adapter normalizer next := by
  have serving := running.serving
  change (system.binding.observeHost system.adapter record).2.1 = _ ∧
    ∃ next, Serving (system.binding.observeHost system.adapter record).2.2 normalizer next
  unfold VllmOffloadingObserverBinding.observeHost
  split
  · rename_i event name
    split
    · rename_i factEvent known
      exact ⟨rfl, host_fact_serving emit record system.binding system.adapter normalizer sink
        running.callbacks serving factEvent⟩
    · split
      · exact ⟨rfl, sink, serving⟩
      · rename_i operation looked
        split
        · rename_i submitted
          rw [submitted] at name
          rw [submitted_idle system.binding system.adapter record operation name looked
            noSubmission]
          exact ⟨rfl, sink, serving⟩
        · split
          · rename_i kind
            rw [terminal_idle system.binding system.adapter record event operation name kind
              looked noTerminal]
            exact ⟨rfl, sink, serving⟩
          · exact ⟨rfl, sink, serving⟩
  · exact ⟨rfl, sink, serving⟩

/-- Every way a record changes the two pending tables: the binding it leaves and the
normalizer it leaves. -/
inductive Delivery (normalizer : LifecycleNormalizer) (sink : Sink) :
    System Sink → LifecycleNormalizer → Prop
  | submitted (jobId : Nat) (source : CoreTransferSubmitted) (taken : Bool) (after : System Sink)
      (submits : Submits system.binding record jobId source)
      (accepts : taken = true ↔ Accepts emit normalizer sink (.submitted source))
      (binding : after.binding = if taken = true then
          { system.binding with
            pending := system.binding.pending.insert jobId (entryOf source) }
        else system.binding) :
      Delivery normalizer sink after (normalizer.normalize (.submitted source)).2
  | terminal (jobId : Nat) (entry : PendingTransfer) (source : SourceObservation)
      (after : System Sink)
      (terminates : Terminates system.binding record jobId entry source)
      (binding : after.binding = { system.binding with
        pending := system.binding.pending.erase jobId }) :
      Delivery normalizer sink after (normalizer.normalize source).2
  | idle (after : System Sink)
      (noSubmission : ∀ jobId source, ¬ Submits system.binding record jobId source)
      (noTerminal : ∀ jobId entry source,
        ¬ Terminates system.binding record jobId entry source)
      (binding : after.binding = system.binding) :
      Delivery normalizer sink after normalizer

/-- The system keeps running, and a record does one of the three things. -/
theorem deliver_delivery (processUuid : ProcessUuid) (normalizer : LifecycleNormalizer)
    (sink : Sink) (running : Running emit processUuid system normalizer sink) :
    ∃ next nextSink, Running emit processUuid (deliver system record).2 next nextSink ∧
      Delivery emit system record normalizer sink (deliver system record).2 next := by
  have callbacks := running.callbacks
  by_cases submission : ∃ jobId source, Submits system.binding record jobId source
  · obtain ⟨jobId, source, submits⟩ := submission
    obtain ⟨⟨nextSink, serving⟩, accepts⟩ := observe_serving emit system.adapter normalizer sink
      running.serving (.submitted source)
    have delivered := deliver_submitted emit system record callbacks jobId source submits
    refine ⟨_, nextSink, ?_, .submitted jobId source _ _ submits accepts
      (congrArg System.binding delivered)⟩
    rw [delivered]
    refine ⟨?_, ?_, serving⟩
    · dsimp only
      split <;> exact running.processUuid
    · dsimp only
      split <;> exact running.callbacks
  · by_cases termination : ∃ jobId entry source,
        Terminates system.binding record jobId entry source
    · obtain ⟨jobId, entry, source, terminates⟩ := termination
      obtain ⟨⟨nextSink, serving⟩, _⟩ := observe_serving emit system.adapter normalizer sink
        running.serving source
      have delivered := deliver_terminal emit system record callbacks jobId entry source
        terminates
      refine ⟨_, nextSink, ?_, .terminal jobId entry source _ terminates
        (congrArg System.binding delivered)⟩
      rw [delivered]
      exact ⟨running.processUuid, running.callbacks, serving⟩
    · have noSubmission : ∀ jobId source, ¬ Submits system.binding record jobId source :=
        fun jobId source submits => submission ⟨jobId, source, submits⟩
      have noTerminal : ∀ jobId entry source,
          ¬ Terminates system.binding record jobId entry source :=
        fun jobId entry source terminates => termination ⟨jobId, entry, source, terminates⟩
      obtain ⟨binding, nextSink, serving⟩ := deliver_idle emit system record processUuid
        normalizer sink running noSubmission noTerminal
      refine ⟨normalizer, nextSink, ⟨?_, ?_, serving⟩,
        .idle _ noSubmission noTerminal binding⟩
      · rw [binding]
        exact running.processUuid
      · rw [binding]
        exact running.callbacks

end Steps

end KVTransferObservability.NativeDelivery
