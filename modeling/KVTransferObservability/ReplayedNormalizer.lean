import KVTransferObservability.ChainRules
import KVTransferObservability.Library.LogMirror

/-!
# The normalizer a legal history leaves

The validator replays every record into a fresh normalizer and asks for the same
record back. The three tables mirror the history: a transfer is pending from its start
to its completion, a restore is kept from its completion to the first compute that
takes it, an admission lives until its episode computes.
-/

namespace KVTransferObservability.ReplayedNormalizer

open Library PythonValues Schema Observation Normalization Validation NormalizerRecords
open NormalizerTransitions NormalizerEvidence ChainRules
open LifecycleNormalizer

set_option autoImplicit false

def PendingLink (transfer : TransferIdentity) (source : CoreTransferSubmitted)
    (record : KVTransferObservation) : Prop :=
  StartOf transfer record ∧ record.toObservationFields = startedFields source

structure CompletedLink (transfer : TransferIdentity) (kept : CompletedRestore)
    (record : KVTransferObservation) : Prop where
  completion : CompletionOf transfer record
  identity : record.identity = kept.identity
  receipt : record.receipt = some kept.receipt
  time : record.observedAtNs = kept.observedAtNs

structure AdmissionLink (identity : ObservationIdentity) (admission : RecoveryAdmission)
    (record : KVTransferObservation) : Prop where
  admitted : AdmissionOf identity record
  roster : record.associatedTransfers = admission.transfers
  time : record.observedAtNs = admission.observedAtNs

structure Replayed (normalizer : LifecycleNormalizer) (history : History) : Prop where
  opened : normalizer.closed = false
  valid : normalizer.evidenceValid = true
  settings : Settings normalizer defaultMaxCorrelatedTransfers defaultMaxRecoveryAdmissions true
  pending : Mirrors PendingLink CompletionOf normalizer.pending history
  completed : Mirrors CompletedLink ConsumptionOf normalizer.completedRestores history
  admissions : Mirrors AdmissionLink ComputeOf normalizer.admissions history

theorem replayed_default : Replayed defaultNormalizer [] where
  opened := rfl
  valid := rfl
  settings := ⟨rfl, rfl, rfl⟩
  pending := Mirrors.empty PendingLink CompletionOf
  completed := Mirrors.empty CompletedLink ConsumptionOf
  admissions := Mirrors.empty AdmissionLink ComputeOf

/-! ## Records and the tables' entries -/

theorem started_fields_injective (first second : CoreTransferSubmitted)
    (same : startedFields first = startedFields second) : first = second := by
  rcases first with ⟨identity, transfer, operation, blocks, time⟩
  rcases second with ⟨otherIdentity, otherTransfer, otherOperation, otherBlocks, otherTime⟩
  simp only [startedFields, ObservationFields.mk.injEq, Option.some.injEq] at same
  obtain ⟨event, rfl, rfl, rfl, _, _, _, _, _, _, _, rfl, _⟩ := same
  cases operation <;> cases otherOperation <;> first | rfl | cases event

/-- A start is the record of one submission of a restore. -/
theorem start_source (transfer : TransferIdentity) (record : KVTransferObservation)
    (start : StartOf transfer record) :
    ∃ source : CoreTransferSubmitted, source.transfer = transfer ∧
      source.operation = .h2dRestore ∧ record.toObservationFields = startedFields source := by
  obtain ⟨found, blocks, content⟩ := restore_started_content record.toObservationFields
    (event_shape record) start.1
  have same : found = transfer := by
    have field := congrArg ObservationFields.transfer content
    rw [start.2] at field
    exact (Option.some.inj field).symm
  subst same
  exact ⟨⟨record.identity, found, .h2dRestore, blocks, record.observedAtNs⟩, rfl, rfl, content⟩

theorem pending_link_source (transfer : TransferIdentity) (source : CoreTransferSubmitted)
    (record : KVTransferObservation) (link : PendingLink transfer source record) :
    source.identity = record.identity ∧ source.transfer = transfer ∧
      source.operation = .h2dRestore ∧ some source.blockCount = record.blockCount ∧
      source.observedAtNs = record.observedAtNs := by
  obtain ⟨start, fields⟩ := link
  obtain ⟨known, sameTransfer, restore, content⟩ := start_source transfer record start
  have same := started_fields_injective source known (fields.symm.trans content)
  rw [same, sameTransfer, restore, content]
  exact ⟨rfl, rfl, rfl, rfl, rfl⟩

/-- What a completion record says, as a source observation with its receipt. -/
structure CompletedAs (record : KVTransferObservation) (source : CoreTransferCompleted)
    (receipt : ReceiptIdentity) : Prop where
  success : source.success = true
  moved : source.bytesMoved ≠ none
  received : source.receipt = some receipt
  scope : receipt.processUuid = source.transfer.processUuid
  fields : record.toObservationFields =
    { event := .restoreCompleted
      identity := record.identity
      observedAtNs := source.observedAtNs
      transfer := some source.transfer
      direction := some .h2d
      receipt := some receipt
      bytesMoved := source.bytesMoved
      blockCount := record.blockCount
      durationNs := record.durationNs
      deviceDurationNs := source.deviceDurationNs }

theorem completion_source (transfer : TransferIdentity) (record : KVTransferObservation)
    (completion : CompletionOf transfer record) :
    ∃ source receipt, source.transfer = transfer ∧ CompletedAs record source receipt := by
  obtain ⟨found, receipt, bytes, blocks, duration, scope, content⟩ :=
    restore_completed_content record.toObservationFields (event_shape record) completion.1
  have same : found = transfer := by
    have field := congrArg ObservationFields.transfer content
    rw [completion.2] at field
    exact (Option.some.inj field).symm
  have blockField := congrArg ObservationFields.blockCount content
  have durationField := congrArg ObservationFields.durationNs content
  subst same
  refine ⟨⟨found, record.observedAtNs, true, some bytes, record.deviceDurationNs, some receipt⟩,
    receipt, rfl, rfl, by simp, rfl, scope, ?_⟩
  rw [blockField, durationField]
  exact content

theorem completed_link (transfer : TransferIdentity) (record : KVTransferObservation)
    (completion : CompletionOf transfer record) : ∃ kept, CompletedLink transfer kept record := by
  obtain ⟨source, receipt, _, known⟩ := completion_source transfer record completion
  have receiptField := congrArg ObservationFields.receipt known.fields
  exact ⟨⟨record.identity, receipt, record.observedAtNs⟩, completion, rfl, receiptField, rfl⟩

/-- The completion record is the one built from a pending submission exactly if it
measures the submission. -/
theorem restored_fields_iff (record : KVTransferObservation) (source : CoreTransferCompleted)
    (receipt : ReceiptIdentity) (pending : CoreTransferSubmitted)
    (known : CompletedAs record source receipt) :
    record.toObservationFields = restoredFields pending source receipt ↔
      pending.identity = record.identity ∧ some pending.blockCount = record.blockCount ∧
        record.durationNs = some (durationBetween pending.observedAtNs source.observedAtNs) := by
  rw [known.fields, restoredFields]
  simp only [ObservationFields.mk.injEq, true_and, and_true]
  constructor
  · rintro ⟨identity, blocks, duration⟩
    exact ⟨identity.symm, blocks.symm, duration⟩
  · rintro ⟨identity, blocks, duration⟩
    exact ⟨identity.symm, blocks.symm, duration⟩

/-! ## Sizes -/

section Sizes

variable {normalizer : LifecycleNormalizer} {history : History}
variable (replayed : Replayed normalizer history)
include replayed

theorem mem_pending_iff (transfer : TransferIdentity) :
    transfer ∈ normalizer.pending ↔ transfer ∈ openTransfers history := by
  rw [replayed.pending.mem_iff, openTransfers, Finset.mem_sdiff, List.mem_toFinset,
    List.mem_toFinset, mem_started_transfers, mem_completed_transfers]
  apply and_congr
  · constructor
    · rintro ⟨source, record, member, start, _⟩
      exact ⟨record, member, start⟩
    · rintro ⟨record, member, start⟩
      obtain ⟨source, _, _, fields⟩ := start_source transfer record start
      exact ⟨source, record, member, start, fields⟩
  · rw [not_exists]
    simp only [not_and]

theorem mem_completed_iff (transfer : TransferIdentity) :
    transfer ∈ normalizer.completedRestores ↔ transfer ∈ keptTransfers history := by
  rw [replayed.completed.mem_iff, keptTransfers, Finset.mem_sdiff, List.mem_toFinset,
    List.mem_toFinset, mem_completed_transfers, mem_consumed_transfers]
  apply and_congr
  · constructor
    · rintro ⟨kept, record, member, link⟩
      exact ⟨record, member, link.completion⟩
    · rintro ⟨record, member, completion⟩
      obtain ⟨kept, link⟩ := completed_link transfer record completion
      exact ⟨kept, record, member, link⟩
  · rw [not_exists]
    simp only [not_and]

theorem mem_admissions_iff (identity : ObservationIdentity) :
    identity ∈ normalizer.admissions ↔ identity ∈ liveAdmissions history := by
  rw [replayed.admissions.mem_iff, liveAdmissions, Finset.mem_sdiff, List.mem_toFinset,
    List.mem_toFinset, mem_admitted_identities, mem_computed_identities]
  apply and_congr
  · constructor
    · rintro ⟨admission, record, member, link⟩
      exact ⟨record, member, link.admitted⟩
    · rintro ⟨record, member, admitted⟩
      exact ⟨⟨record.associatedTransfers, record.observedAtNs⟩, record, member, admitted, rfl,
        rfl⟩
  · rw [not_exists]
    simp only [not_and]

theorem pending_size : normalizer.pending.size = (openTransfers history).card :=
  Dict.size_eq_card _ _ (mem_pending_iff replayed)

theorem completed_size : normalizer.completedRestores.size = (keptTransfers history).card :=
  Dict.size_eq_card _ _ (mem_completed_iff replayed)

theorem admissions_size : normalizer.admissions.size = (liveAdmissions history).card :=
  Dict.size_eq_card _ _ (mem_admissions_iff replayed)

end Sizes

/-! ## One more record -/

section Frames

variable {history : History} {record : KVTransferObservation}

theorem pending_frame {pending : Dict TransferIdentity CoreTransferSubmitted}
    (mirrors : Mirrors PendingLink CompletionOf pending history)
    (notStarted : record.event ≠ .restoreStarted)
    (notCompleted : record.event ≠ .restoreCompleted) :
    Mirrors PendingLink CompletionOf pending (history ++ [record]) :=
  mirrors.frame record (fun _ _ link => notStarted link.1.1)
    (fun _ completion => notCompleted completion.1)

theorem completed_frame {completed : Dict TransferIdentity CompletedRestore}
    (mirrors : Mirrors CompletedLink ConsumptionOf completed history)
    (notCompleted : record.event ≠ .restoreCompleted)
    (notComputed : record.event ≠ .firstCompute) :
    Mirrors CompletedLink ConsumptionOf completed (history ++ [record]) :=
  mirrors.frame record (fun _ _ link => notCompleted link.completion.1)
    (fun _ consumption => notComputed consumption.1)

theorem admissions_frame {admissions : Dict ObservationIdentity RecoveryAdmission}
    (mirrors : Mirrors AdmissionLink ComputeOf admissions history)
    (notAdmitted : record.event ≠ .recoveryAdmitted)
    (notComputed : record.event ≠ .firstCompute) :
    Mirrors AdmissionLink ComputeOf admissions (history ++ [record]) :=
  mirrors.frame record (fun _ _ link => notAdmitted link.admitted.2)
    (fun _ compute => notComputed compute.2)

end Frames

section Steps

variable {self next : LifecycleNormalizer} {history : History} {record : KVTransferObservation}
variable (replayed : Replayed self history)
variable (legal : OnlineCheck.Legal Admissible [] history)
include replayed

theorem replayed_settings (source : SourceObservation) (result : Option KVTransferObservation)
    (outcome : Outcome self source result next) :
    Settings next defaultMaxCorrelatedTransfers defaultMaxRecoveryAdmissions true := by
  have settings := outcome_settings self source result next outcome
  rw [replayed.settings.transfers, replayed.settings.admissions,
    replayed.settings.retain] at settings
  exact settings

theorem requeued_replayed (source : CoreRecoveryRequeued)
    (event : record.event = .recoveryRequeued)
    (outcome : Outcome self (.requeued source) (some record) next) :
    Replayed next (history ++ [record]) := by
  have settings := replayed_settings replayed _ _ outcome
  cases outcome with
  | requeued source record fields epoch =>
      refine ⟨replayed.opened, replayed.valid, settings, ?_, ?_, ?_⟩
      · exact pending_frame replayed.pending (by rw [event]; decide) (by rw [event]; decide)
      · exact completed_frame replayed.completed (by rw [event]; decide) (by rw [event]; decide)
      · exact admissions_frame replayed.admissions (by rw [event]; decide) (by rw [event]; decide)

include legal

/-- A start whose transfer is new is replayed exactly if there is room. -/
theorem started_outcome_iff (source : CoreTransferSubmitted)
    (start : StartOf source.transfer record)
    (fields : record.toObservationFields = startedFields source)
    (fresh : Fresh startedTransfer history record) :
    (∃ next, Outcome self (.submitted source) (some record) next) ↔
      (openTransfers history).card < defaultMaxCorrelatedTransfers := by
  have startedValue : startedTransfer record = some source.transfer := by
    rw [startedTransfer, if_pos start.1, start.2]
  have unstarted := fresh source.transfer startedValue
  rw [mem_started_transfers] at unstarted
  rw [← pending_size replayed]
  constructor
  · rintro ⟨next, outcome⟩
    cases outcome with
    | started source record fields absent unfinished room =>
        rw [replayed.settings.transfers] at room
        exact room
  · intro room
    refine ⟨_, .started source record fields ?_ ?_ ?_⟩
    · rw [replayed.pending.mem_iff]
      rintro ⟨⟨content, earlier, member, link⟩, _⟩
      exact unstarted ⟨earlier, member, link.1⟩
    · rw [replayed.completed.mem_iff]
      rintro ⟨⟨kept, earlier, member, link⟩, _⟩
      obtain ⟨first, there, started, _⟩ :=
        completion_started legal source.transfer earlier member link.completion
      exact unstarted ⟨first, there, started⟩
    · rw [replayed.settings.transfers]
      exact room

theorem started_replayed (source : CoreTransferSubmitted)
    (start : StartOf source.transfer record) (fresh : Fresh startedTransfer history record)
    (outcome : Outcome self (.submitted source) (some record) next) :
    Replayed next (history ++ [record]) := by
  have startedValue : startedTransfer record = some source.transfer := by
    rw [startedTransfer, if_pos start.1, start.2]
  have unstarted := fresh source.transfer startedValue
  rw [mem_started_transfers] at unstarted
  have settings := replayed_settings replayed _ _ outcome
  have event := start.1
  cases outcome with
  | started source record fields absent unfinished room =>
      refine ⟨replayed.opened, replayed.valid, settings, ?_, ?_, ?_⟩
      · apply replayed.pending.insert record source.transfer source ⟨start, fields⟩
        · rintro other content ⟨started, sameFields⟩
          constructor
          · exact Option.some.inj (started.2.symm.trans start.2)
          · exact started_fields_injective content source (sameFields.symm.trans fields)
        · intro other completion
          exact absurd (event.symm.trans completion.1) (by decide)
        · rintro earlier member content ⟨started, _⟩
          exact unstarted ⟨earlier, member, started⟩
        · intro earlier member completion
          obtain ⟨first, there, started, _⟩ :=
            completion_started legal source.transfer earlier member completion
          exact unstarted ⟨first, there, started⟩
      · exact completed_frame replayed.completed (by rw [event]; decide) (by rw [event]; decide)
      · exact admissions_frame replayed.admissions (by rw [event]; decide) (by rw [event]; decide)

/-- A completion is replayed exactly if it completes a start of its own episode and
there is room. -/
theorem completed_outcome_iff (source : CoreTransferCompleted) (receipt : ReceiptIdentity)
    (known : CompletedAs record source receipt) :
    (∃ next, Outcome self (.completed source) (some record) next) ↔
      Completes history record ∧ (keptTransfers history).card < defaultMaxCorrelatedTransfers := by
  have event := congrArg ObservationFields.event known.fields
  have transferField := congrArg ObservationFields.transfer known.fields
  have timeField := congrArg ObservationFields.observedAtNs known.fields
  dsimp only at event transferField timeField
  rw [← completed_size replayed]
  constructor
  · rintro ⟨next, outcome⟩
    cases outcome with
    | failed source pending record fields found ordered preserve failure bytes none =>
        rw [known.success] at failure
        cases failure
    | preserved source pending record fields found operation later success moved none =>
        rw [known.received] at none
        cases none
    | restored source pending other record fields matched scope room =>
        have received := matched.received
        rw [known.received] at received
        cases received
        obtain ⟨identity, blocks, duration⟩ :=
          (restored_fields_iff record source receipt pending known).mp fields
        obtain ⟨⟨start, member, link⟩, unclosed⟩ :=
          (replayed.pending source.transfer pending).mp matched.found
        obtain ⟨startIdentity, _, _, startBlocks, startTime⟩ :=
          pending_link_source source.transfer pending start link
        refine ⟨⟨⟨start, member, link.1.1, ?_, ?_, ?_, ?_, ?_⟩, ?_⟩, ?_⟩
        · exact startIdentity.symm.trans identity
        · exact link.1.2.trans transferField.symm
        · rw [← startTime, timeField]
          exact matched.later
        · exact startBlocks.symm.trans blocks
        · rw [duration, ← startTime, timeField]
          rfl
        · intro other there _ completion same
          exact unclosed other there ⟨completion, same.trans transferField⟩
        · have bound := room replayed.settings.retain
          rw [replayed.settings.transfers] at bound
          exact bound
  · rintro ⟨completes, room⟩
    have unclosed := uncompleted legal record completes source.transfer transferField
    obtain ⟨start, member, startEvent, measures⟩ := completes.started
    have started : StartOf source.transfer start :=
      ⟨startEvent, measures.transfer.trans transferField⟩
    obtain ⟨pending, sameTransfer, restore, content⟩ :=
      start_source source.transfer start started
    have link : PendingLink source.transfer pending start := ⟨started, content⟩
    obtain ⟨identity, _, _, blocks, time⟩ :=
      pending_link_source source.transfer pending start link
    have found := (replayed.pending source.transfer pending).mpr ⟨⟨start, member, link⟩, unclosed⟩
    have later : pending.observedAtNs.val < source.observedAtNs.val := by
      rw [time, ← timeField]
      exact measures.later
    refine ⟨_, .restored source pending receipt record ?_
      ⟨found, restore, later, known.success, known.moved, known.received⟩ known.scope ?_⟩
    · rw [restored_fields_iff record source receipt pending known]
      refine ⟨identity.trans measures.identity, blocks.trans measures.blockCount, ?_⟩
      obtain ⟨duration, durationField, difference⟩ :=
        Option.map_eq_some_iff.mp measures.duration
      rw [durationField]
      congr 1
      apply Subtype.ext
      rw [difference, time, ← timeField]
      rfl
    · intro _
      rw [replayed.settings.transfers]
      exact room

theorem completed_replayed (source : CoreTransferCompleted) (receipt : ReceiptIdentity)
    (known : CompletedAs record source receipt) (completes : Completes history record)
    (outcome : Outcome self (.completed source) (some record) next) :
    Replayed next (history ++ [record]) := by
  have settings := replayed_settings replayed _ _ outcome
  have event := congrArg ObservationFields.event known.fields
  have transferField := congrArg ObservationFields.transfer known.fields
  dsimp only at event transferField
  have unclosed := uncompleted legal record completes source.transfer transferField
  cases outcome with
  | failed source pending record fields found ordered preserve failure bytes none =>
      rw [known.success] at failure
      cases failure
  | preserved source pending record fields found operation later success moved none =>
      rw [known.received] at none
      cases none
  | restored source pending other record fields matched scope room =>
      have received := matched.received
      rw [known.received] at received
      cases received
      have identity := ((restored_fields_iff record source receipt pending known).mp fields).1
      have receiptField := congrArg ObservationFields.receipt known.fields
      have timeField := congrArg ObservationFields.observedAtNs known.fields
      have completion : CompletionOf source.transfer record := ⟨event, transferField⟩
      refine ⟨replayed.opened, replayed.valid, settings, ?_, ?_, ?_⟩
      · apply replayed.pending.close record
        · rintro transfer content ⟨start, _⟩
          exact absurd (event.symm.trans start.1) (by decide)
        · intro transfer completed
          have same : transfer = source.transfer :=
            Option.some.inj (completed.2.symm.trans transferField)
          rw [same]
          exact Finmap.lookup_erase source.transfer self.pending
        · intro transfer other
          have different : transfer ≠ source.transfer := by
            rintro rfl
            exact other completion
          exact Finmap.lookup_erase_ne different
      · have retained := replayed.settings.retain
        dsimp only [countAccepted]
        rw [if_pos retained]
        apply replayed.completed.insert record
        · exact ⟨completion, identity.symm, receiptField, timeField⟩
        · intro transfer kept link
          have same : transfer = source.transfer :=
            Option.some.inj (link.completion.2.symm.trans transferField)
          refine ⟨same, ?_⟩
          rcases kept with ⟨keptIdentity, keptReceipt, keptTime⟩
          have sameReceipt := Option.some.inj (link.receipt.symm.trans receiptField)
          have sameIdentity := link.identity.symm.trans identity.symm
          have sameTime := link.time.symm.trans timeField
          dsimp only at sameReceipt sameIdentity sameTime
          rw [sameReceipt, sameIdentity, sameTime]
        · intro transfer consumption
          exact absurd (event.symm.trans consumption.1) (by decide)
        · intro earlier member kept link
          exact unclosed earlier member link.completion
        · intro earlier member consumption
          obtain ⟨completed, there, _, again⟩ :=
            consumption_completed legal earlier member source.transfer consumption
          exact unclosed completed there again
      · exact admissions_frame replayed.admissions (by rw [event]; decide) (by rw [event]; decide)

/-- A transfer that the open episode completed is kept for its admission. -/
theorem completed_kept (opened : Opened history record) (transfer : TransferIdentity)
    (completion : KVTransferObservation) (member : completion ∈ history)
    (identity : completion.identity = record.identity)
    (completed : CompletionOf transfer completion) :
    ∃ kept, self.completedRestores.lookup transfer = some kept ∧
      kept.identity = record.identity ∧ kept.observedAtNs.val ≤ record.observedAtNs.val := by
  obtain ⟨kept, link⟩ := completed_link transfer completion completed
  refine ⟨kept, ?_, link.identity.symm.trans identity, ?_⟩
  · rw [replayed.completed]
    refine ⟨⟨completion, member, link⟩, ?_⟩
    intro compute there consumed
    obtain ⟨other, otherMember, otherIdentity, again⟩ :=
      consumption_completed legal compute there transfer consumed
    obtain ⟨start, startMember, started, _⟩ :=
      completion_started legal transfer completion member completed
    have first := started_identity legal transfer start completion startMember member started
      completed
    have second := started_identity legal transfer start other startMember otherMember started
      again
    apply opened.uncomputed compute there
    refine ⟨?_, consumed.1⟩
    exact otherIdentity.symm.trans (second.trans (first.symm.trans identity))
  · rw [← link.time]
    exact opened.ordered completion member identity

/-- An admission that covers its roster is replayed exactly if there is room. -/
theorem admitted_outcome_iff (source : CoreRecoveryAdmitted)
    (fields : record.toObservationFields = admittedFields source)
    (epoch : record.identity.recoveryEpoch ≠ none) (opened : Opened history record)
    (unadmitted : Unadmitted history record) (covers : CoversRoster history record) :
    (∃ next, Outcome self (.admitted source) (some record) next) ↔
      (liveAdmissions history).card < defaultMaxRecoveryAdmissions := by
  have identityField := congrArg ObservationFields.identity fields
  have rosterField := congrArg ObservationFields.associatedTransfers fields
  have timeField := congrArg ObservationFields.observedAtNs fields
  dsimp only [admittedFields] at identityField rosterField timeField
  rw [← admissions_size replayed]
  constructor
  · rintro ⟨next, outcome⟩
    cases outcome with
    | admitted source record fields epoch absent room backed =>
        rw [replayed.settings.admissions] at room
        exact room
  · intro room
    refine ⟨_, .admitted source record fields ?_ ?_ ?_ ?_⟩
    · rw [← identityField]
      exact epoch
    · rw [replayed.admissions.mem_iff]
      rintro ⟨⟨admission, earlier, member, link⟩, _⟩
      apply unadmitted earlier member
      rw [identityField]
      exact link.admitted
    · rw [replayed.settings.admissions]
      exact room
    · rw [List.any_eq_false]
      intro transfer listed
      rw [← rosterField] at listed
      obtain ⟨completion, member, identity, completed⟩ := (covers.completed transfer).mp listed
      obtain ⟨kept, found, own, ordered⟩ :=
        completed_kept replayed legal opened transfer completion member identity completed
      rw [identityField] at own
      rw [timeField] at ordered
      have inOrder : kept.observedAtNs ≤ source.observedAtNs := ordered
      simp [lacksReceipt, found, own, inOrder]

omit legal in
theorem admitted_replayed (source : CoreRecoveryAdmitted)
    (fields : record.toObservationFields = admittedFields source)
    (opened : Opened history record) (unadmitted : Unadmitted history record)
    (outcome : Outcome self (.admitted source) (some record) next) :
    Replayed next (history ++ [record]) := by
  have settings := replayed_settings replayed _ _ outcome
  have event := congrArg ObservationFields.event fields
  have identityField := congrArg ObservationFields.identity fields
  have rosterField := congrArg ObservationFields.associatedTransfers fields
  have timeField := congrArg ObservationFields.observedAtNs fields
  dsimp only [admittedFields] at event identityField rosterField timeField
  cases outcome with
  | admitted source record fields epoch absent room backed =>
      refine ⟨replayed.opened, replayed.valid, settings, ?_, ?_, ?_⟩
      · exact pending_frame replayed.pending (by rw [event]; decide) (by rw [event]; decide)
      · exact completed_frame replayed.completed (by rw [event]; decide) (by rw [event]; decide)
      · apply replayed.admissions.insert record
        · exact ⟨⟨identityField, event⟩, rosterField, timeField⟩
        · intro identity admission link
          refine ⟨link.admitted.1.symm.trans identityField, ?_⟩
          rcases admission with ⟨roster, time⟩
          have sameRoster := link.roster.symm.trans rosterField
          have sameTime := link.time.symm.trans timeField
          dsimp only at sameRoster sameTime
          rw [sameRoster, sameTime]
        · intro identity compute
          exact absurd (event.symm.trans compute.2) (by decide)
        · intro earlier member admission link
          apply unadmitted earlier member
          rw [identityField]
          exact link.admitted
        · intro earlier member compute
          apply opened.uncomputed earlier member
          rw [identityField]
          exact compute

omit legal in
/-- A first compute of an open episode is replayed exactly if the episode was admitted
with the same roster. -/
theorem computed_outcome_iff (source : FirstComputeObserved)
    (fields : record.toObservationFields = computedFields source)
    (epoch : record.identity.recoveryEpoch ≠ none)
    (scope : ∀ transfer ∈ source.transfers.val.val,
      transfer.processUuid = source.receipt.processUuid)
    (opened : Opened history record) :
    (∃ next, Outcome self (.firstCompute source) (some record) next) ↔
      ∃ admission ∈ history, AdmissionOf record.identity admission ∧
        admission.associatedTransfers = record.associatedTransfers := by
  have identityField := congrArg ObservationFields.identity fields
  have rosterField := congrArg ObservationFields.associatedTransfers fields
  have timeField := congrArg ObservationFields.observedAtNs fields
  dsimp only [computedFields] at identityField rosterField timeField
  constructor
  · rintro ⟨next, outcome⟩
    cases outcome with
    | computed source record fields epoch matched =>
        obtain ⟨admission, found, roster, _⟩ := (matches_admission_iff _ source).mp matched
        obtain ⟨⟨earlier, member, link⟩, _⟩ :=
          (replayed.admissions source.identity admission).mp found
        refine ⟨earlier, member, ?_, ?_⟩
        · rw [identityField]
          exact link.admitted
        · rw [link.roster, roster, rosterField]
  · rintro ⟨admission, member, admitted, roster⟩
    refine ⟨_, .computed source record fields ?_ ?_⟩
    · rw [← identityField]
      exact epoch
    · rw [matches_admission_iff]
      refine ⟨⟨admission.associatedTransfers, admission.observedAtNs⟩, ?_, ?_, ?_, scope⟩
      · rw [replayed.admissions, ← identityField]
        exact ⟨⟨admission, member, admitted, rfl, rfl⟩, opened.uncomputed⟩
      · exact roster.trans rosterField
      · rw [← timeField]
        exact opened.ordered admission member admitted.1

omit legal in
theorem computed_replayed (source : FirstComputeObserved)
    (fields : record.toObservationFields = computedFields source)
    (outcome : Outcome self (.firstCompute source) (some record) next) :
    Replayed next (history ++ [record]) := by
  have settings := replayed_settings replayed _ _ outcome
  have event := congrArg ObservationFields.event fields
  have identityField := congrArg ObservationFields.identity fields
  have rosterField := congrArg ObservationFields.associatedTransfers fields
  dsimp only [computedFields] at event identityField rosterField
  cases outcome with
  | computed source record fields epoch matched =>
      refine ⟨replayed.opened, replayed.valid, settings, ?_, ?_, ?_⟩
      · exact pending_frame replayed.pending (by rw [event]; decide) (by rw [event]; decide)
      · apply replayed.completed.close record
        · intro transfer kept link
          exact absurd (event.symm.trans link.completion.1) (by decide)
        · intro transfer consumption
          have listed := consumption.2
          rw [rosterField] at listed
          exact (Dict.lookup_erase_all _ _ _).trans (if_pos listed)
        · intro transfer other
          have unlisted : transfer ∉ source.transfers.val.val := by
            rw [← rosterField]
            exact fun listed => other ⟨event, listed⟩
          exact (Dict.lookup_erase_all _ _ _).trans (if_neg unlisted)
      · apply replayed.admissions.close record
        · intro identity admission link
          exact absurd (event.symm.trans link.admitted.2) (by decide)
        · intro identity compute
          have same : identity = source.identity := compute.1.symm.trans identityField
          rw [same]
          exact Finmap.lookup_erase source.identity self.admissions
        · intro identity other
          have different : identity ≠ source.identity := by
            rintro rfl
            exact other ⟨identityField, event⟩
          exact Finmap.lookup_erase_ne different

end Steps

end KVTransferObservability.ReplayedNormalizer
