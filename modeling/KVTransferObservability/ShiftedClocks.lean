import KVTransferObservability.ChainVerdict
import KVTransferObservability.CorrelatedChain

/-!
# Clocks of different processes

Every timestamp is read from the clock of one process. A shift adds a constant to
each clock and changes nothing else; no rule of the validator tells a chain from a
shifted one, since it compares times of one process only.
-/

namespace KVTransferObservability.ShiftedClocks

open Library PythonValues Schema Observation HostFacts Correlated Adapter Validation
open NormalizerEvidence ChainRules ChainVerdict EpisodeChecks CorrelatedChain

set_option autoImplicit false

/-- Whose clock a timestamp is read from: a scheduler's, a worker's of the host, or
that of a canonical observation's worker. -/
inductive Process
  | scheduler (generation : ProcessUuid)
  | hostWorker (worker : WorkerKey)
  | worker (workerGeneration : Uint uint64Max) (rank : Uint uint32Max)

def observedBy (identity : ObservationIdentity) : Process :=
  .worker identity.workerGeneration identity.rank

def recordedBy (record : CorrelatedHostObservation) : Process :=
  match record.event with
  | .recoveryRequeued => .scheduler record.schedulerGeneration
  | .transferReceipt => .scheduler record.schedulerGeneration
  | .recoveryAdmitted => .scheduler record.schedulerGeneration
  | _ => .hostWorker (workerKey record)

variable (clock : Process → Int)

/-- The same record with the time moved by its process's constant. -/
structure ShiftedObservation (before after : KVTransferObservation) : Prop where
  fields : after.toObservationFields =
    { before.toObservationFields with observedAtNs := after.observedAtNs }
  time : (after.observedAtNs.val : Int) =
    before.observedAtNs.val + clock (observedBy before.identity)

structure ShiftedCorrelated (before after : CorrelatedHostObservation) : Prop where
  fields : after.toCorrelatedFields =
    { before.toCorrelatedFields with observedAtNs := after.observedAtNs }
  time : (after.observedAtNs.val : Int) = before.observedAtNs.val + clock (recordedBy before)

/-- Host facts are not part of a chain; their times may change at will. -/
inductive Shifted : EventRecord → EventRecord → Prop
  | canonical (before after : KVTransferObservation)
      (shifted : ShiftedObservation clock before after) :
      Shifted (.canonical before) (.canonical after)
  | correlated (before after : CorrelatedHostObservation)
      (shifted : ShiftedCorrelated clock before after) :
      Shifted (.correlated before) (.correlated after)
  | hostFact (before after : HostFact) : Shifted (.hostFact before) (.hostFact after)

/-! ## Canonical chains -/

namespace ShiftedObservation

variable {clock} {before after : KVTransferObservation}
variable (shifted : ShiftedObservation clock before after)
include shifted

theorem event : after.event = before.event := by
  rw [shifted.fields]

theorem identity : after.identity = before.identity := by
  rw [shifted.fields]

theorem transfer : after.transfer = before.transfer := by
  rw [shifted.fields]

theorem direction : after.direction = before.direction := by
  rw [shifted.fields]

theorem receipt : after.receipt = before.receipt := by
  rw [shifted.fields]

theorem roster : after.associatedTransfers = before.associatedTransfers := by
  rw [shifted.fields]

theorem blockCount : after.blockCount = before.blockCount := by
  rw [shifted.fields]

theorem duration : after.durationNs = before.durationNs := by
  rw [shifted.fields]

end ShiftedObservation

section Pair

variable {clock} {first first' second second' : KVTransferObservation}
variable (one : ShiftedObservation clock first first')
variable (other : ShiftedObservation clock second second')
include one other

/-- Within one identity the shift moves both times alike. -/
theorem times_shifted (same : first.identity = second.identity) :
    (first'.observedAtNs.val : Int) - first.observedAtNs.val =
      second'.observedAtNs.val - second.observedAtNs.val := by
  have firstTime := one.time
  have secondTime := other.time
  rw [same] at firstTime
  omega

theorem identity_related :
    first.identity = second.identity ↔ first'.identity = second'.identity := by
  rw [one.identity, other.identity]

theorem admission_related :
    AdmissionOf second.identity first ↔ AdmissionOf second'.identity first' := by
  rw [AdmissionOf, AdmissionOf, one.identity, one.event, other.identity]

theorem compute_related :
    ComputeOf second.identity first ↔ ComputeOf second'.identity first' := by
  rw [ComputeOf, ComputeOf, one.identity, one.event, other.identity]

theorem measures_related : Measures first second ↔ Measures first' second' := by
  constructor
  · intro measures
    have moved := times_shifted one other measures.identity
    have later := measures.later
    constructor
    · rw [one.identity, other.identity, measures.identity]
    · rw [one.transfer, other.transfer, measures.transfer]
    · omega
    · rw [one.blockCount, other.blockCount, measures.blockCount]
    · rw [other.duration, measures.duration]
      congr 1
      omega
  · intro measures
    have same := (identity_related one other).mpr measures.identity
    have moved := times_shifted one other same
    have later := measures.later
    constructor
    · exact same
    · rw [← one.transfer, ← other.transfer, measures.transfer]
    · omega
    · rw [← one.blockCount, ← other.blockCount, measures.blockCount]
    · rw [← other.duration, measures.duration]
      congr 1
      omega

end Pair

section Histories

variable {clock} {history history' : History} {record record' : KVTransferObservation}
variable (histories : List.Forall₂ (ShiftedObservation clock) history history')
variable (shifted : ShiftedObservation clock record record')
include histories shifted

theorem opened_related : Opened history record ↔ Opened history' record' := by
  have known := OnlineCheck.exists_related histories
    (fun other => other.identity = record.identity) (fun other => other.identity = record'.identity)
    (fun _ _ pair => identity_related pair shifted)
  have uncomputed := OnlineCheck.forall_related histories
    (fun other => ¬ ComputeOf record.identity other)
    (fun other => ¬ ComputeOf record'.identity other)
    (fun _ _ pair => not_congr (compute_related pair shifted))
  have ordered := OnlineCheck.forall_related histories
    (fun other => other.identity = record.identity →
      other.observedAtNs.val ≤ record.observedAtNs.val)
    (fun other => other.identity = record'.identity →
      other.observedAtNs.val ≤ record'.observedAtNs.val)
    (by
      intro other other' pair
      rw [← identity_related pair shifted]
      apply forall_congr'
      intro same
      have moved := times_shifted pair shifted same
      omega)
  constructor
  · intro opened
    exact ⟨known.mp opened.known, uncomputed.mp opened.uncomputed, ordered.mp opened.ordered⟩
  · intro opened
    exact ⟨known.mpr opened.known, uncomputed.mpr opened.uncomputed, ordered.mpr opened.ordered⟩

theorem unadmitted_related : Unadmitted history record ↔ Unadmitted history' record' :=
  OnlineCheck.forall_related histories _ _
    fun _ _ pair => not_congr (admission_related pair shifted)

theorem completes_related : Completes history record ↔ Completes history' record' := by
  have started := OnlineCheck.exists_related histories
    (fun start => start.event = .restoreStarted ∧ Measures start record)
    (fun start => start.event = .restoreStarted ∧ Measures start record')
    (by
      intro start start' pair
      rw [pair.event, measures_related pair shifted])
  have once := OnlineCheck.forall_related histories
    (fun other => other.identity = record.identity → other.event = .restoreCompleted →
      other.transfer ≠ record.transfer)
    (fun other => other.identity = record'.identity → other.event = .restoreCompleted →
      other.transfer ≠ record'.transfer)
    (by
      intro other other' pair
      rw [← identity_related pair shifted, pair.event, pair.transfer, shifted.transfer])
  constructor
  · intro completes
    exact ⟨started.mp completes.started, once.mp completes.once⟩
  · intro completes
    exact ⟨started.mpr completes.started, once.mpr completes.once⟩

theorem covers_related : CoversRoster history record ↔ CoversRoster history' record' := by
  have started : ∀ transfer,
      (∃ start ∈ history, start.identity = record.identity ∧ StartOf transfer start) ↔
        ∃ start ∈ history', start.identity = record'.identity ∧ StartOf transfer start := by
    intro transfer
    apply OnlineCheck.exists_related histories
    intro start start' pair
    rw [identity_related pair shifted, StartOf, StartOf, pair.event, pair.transfer]
  have completed : ∀ transfer,
      (∃ completion ∈ history, completion.identity = record.identity ∧
        CompletionOf transfer completion) ↔
      ∃ completion ∈ history', completion.identity = record'.identity ∧
        CompletionOf transfer completion := by
    intro transfer
    apply OnlineCheck.exists_related histories
    intro completion completion' pair
    rw [identity_related pair shifted, CompletionOf, CompletionOf, pair.event, pair.transfer]
  constructor
  · intro covers
    constructor
    · intro transfer
      rw [shifted.roster, covers.started, started]
    · intro transfer
      rw [shifted.roster, covers.completed, completed]
  · intro covers
    constructor
    · intro transfer
      rw [← shifted.roster, covers.started, started]
    · intro transfer
      rw [← shifted.roster, covers.completed, completed]

theorem continues_related : Continues history record ↔ Continues history' record' := by
  unfold Continues
  rw [shifted.event]
  cases record.event
  case recoveryRequeued =>
    exact OnlineCheck.forall_related histories _ _
      fun _ _ pair => not_congr (identity_related pair shifted)
  case restoreStarted =>
    exact and_congr (opened_related histories shifted) (unadmitted_related histories shifted)
  case restoreCompleted =>
    exact and_congr (opened_related histories shifted)
      (and_congr (unadmitted_related histories shifted) (completes_related histories shifted))
  case recoveryAdmitted =>
    exact and_congr (opened_related histories shifted)
      (and_congr (unadmitted_related histories shifted) (covers_related histories shifted))
  case firstCompute =>
    apply and_congr (opened_related histories shifted)
    apply OnlineCheck.exists_related histories
    intro admission admission' pair
    rw [admission_related pair shifted, pair.roster, shifted.roster]
  all_goals exact Iff.rfl

omit histories in
theorem started_transfer_related : startedTransfer record = startedTransfer record' := by
  rw [startedTransfer, startedTransfer, shifted.event, shifted.transfer]

omit histories in
theorem completed_transfer_related : completedTransfer record = completedTransfer record' := by
  rw [completedTransfer, completedTransfer, shifted.event, shifted.transfer]

omit histories in
theorem consumed_transfers_related : consumedTransfers record = consumedTransfers record' := by
  rw [consumedTransfers, consumedTransfers, shifted.event, shifted.roster]

omit histories in
theorem admitted_identity_related : admittedIdentity record = admittedIdentity record' := by
  rw [admittedIdentity, admittedIdentity, shifted.event, shifted.identity]

omit histories in
theorem computed_identity_related : computedIdentity record = computedIdentity record' := by
  rw [computedIdentity, computedIdentity, shifted.event, shifted.identity]

theorem fresh_related {Value : Type} (value : KVTransferObservation → Option Value)
    (same : ∀ {before after : KVTransferObservation}, ShiftedObservation clock before after →
      value before = value after) :
    Fresh value history record ↔ Fresh value history' record' := by
  rw [Fresh, Fresh, same shifted,
    OnlineCheck.filter_map_related histories value value fun _ _ pair => same pair]

theorem room_related : Room history record ↔ Room history' record' := by
  have started := OnlineCheck.filter_map_related histories startedTransfer startedTransfer
    fun _ _ pair => started_transfer_related pair
  have completed := OnlineCheck.filter_map_related histories completedTransfer completedTransfer
    fun _ _ pair => completed_transfer_related pair
  have consumed := OnlineCheck.flat_map_related histories consumedTransfers consumedTransfers
    fun _ _ pair => consumed_transfers_related pair
  have admitted := OnlineCheck.filter_map_related histories admittedIdentity admittedIdentity
    fun _ _ pair => admitted_identity_related pair
  have computed := OnlineCheck.filter_map_related histories computedIdentity computedIdentity
    fun _ _ pair => computed_identity_related pair
  unfold Room openTransfers keptTransfers liveAdmissions
  rw [shifted.event, started, completed, consumed, admitted, computed]

theorem admissible_related : Admissible history record ↔ Admissible history' record' := by
  have continues := continues_related histories shifted
  have freshTransfer := fresh_related histories shifted startedTransfer started_transfer_related
  have freshReceipt := fresh_related histories shifted receiptOf fun pair => pair.receipt.symm
  have room := room_related histories shifted
  constructor
  · rintro ⟨one, two, three, four⟩
    exact ⟨continues.mp one, freshTransfer.mp two, freshReceipt.mp three, room.mp four⟩
  · rintro ⟨one, two, three, four⟩
    exact ⟨continues.mpr one, freshTransfer.mpr two, freshReceipt.mpr three, room.mpr four⟩

end Histories

section Canonical

variable {clock} {records others : List EventRecord}
variable (logs : List.Forall₂ (Shifted clock) records others) (requestId : String)
include logs

theorem recovery_events_related :
    List.Forall₂ (ShiftedObservation clock) (recoveryEvents requestId records)
      (recoveryEvents requestId others) := by
  apply List.rel_filterMap _ logs
  intro record other pair
  cases pair with
  | hostFact before after => exact Option.Rel.none
  | correlated before after shifted => exact Option.Rel.none
  | canonical before after shifted =>
      rw [recoveryEvent, recoveryEvent, shifted.identity, shifted.event]
      split
      · exact Option.Rel.some shifted
      · exact Option.Rel.none

theorem success_related :
    (∀ record ∈ records, ¬ NonSuccess requestId record) ↔
      ∀ record ∈ others, ¬ NonSuccess requestId record := by
  apply OnlineCheck.forall_related logs
  intro record other pair
  cases pair with
  | hostFact before after => exact Iff.rfl
  | correlated before after shifted => exact Iff.rfl
  | canonical before after shifted =>
      rw [NonSuccess, NonSuccess, shifted.identity, shifted.event, shifted.direction]

theorem all_computed_related :
    AllComputed (recoveryEvents requestId records) ↔
      AllComputed (recoveryEvents requestId others) := by
  have events := recovery_events_related logs requestId
  apply OnlineCheck.forall_related events
  intro record other pair
  apply OnlineCheck.exists_related events
  intro compute compute' computes
  exact compute_related computes pair

theorem identities_related :
    identities (recoveryEvents requestId records) =
      identities (recoveryEvents requestId others) := by
  have same : (recoveryEvents requestId records).map (fun record => record.identity) =
      (recoveryEvents requestId others).map fun record => record.identity := by
    rw [← List.filterMap_eq_map]
    apply OnlineCheck.filter_map_related (recovery_events_related logs requestId)
    intro record other pair
    rw [Function.comp_apply, Function.comp_apply, pair.identity]
  rw [identities, identities, same]

theorem canonical_shift (uncorrelated : records.any (isCorrelatedFor requestId) = false)
    (othersUncorrelated : others.any (isCorrelatedFor requestId) = false) (count : Nat) :
    validateRestoreChain records requestId = .ok count ↔
      validateRestoreChain others requestId = .ok count := by
  have events := recovery_events_related logs requestId
  have legal := OnlineCheck.legal_related (ShiftedObservation clock) Admissible Admissible
    (fun _ _ _ _ histories pair => admissible_related histories pair) [] _ [] _ .nil events
  have empty : recoveryEvents requestId records = [] ↔ recoveryEvents requestId others = [] := by
    rw [← List.length_eq_zero_iff, events.length_eq, List.length_eq_zero_iff]
  rw [uncorrelated_verdict records requestId uncorrelated,
    uncorrelated_verdict others requestId othersUncorrelated, success_related logs requestId,
    legal, Ne, Ne, empty, all_computed_related logs requestId, identities_related logs requestId]

end Canonical

/-! ## Cross-process chains -/

namespace ShiftedCorrelated

variable {clock} {before after : CorrelatedHostObservation}
variable (shifted : ShiftedCorrelated clock before after)
include shifted

theorem event : after.event = before.event := by
  rw [shifted.fields]

theorem schedulerGeneration : after.schedulerGeneration = before.schedulerGeneration := by
  rw [shifted.fields]

theorem requestId : after.requestId = before.requestId := by
  rw [shifted.fields]

theorem jobId : after.jobId = before.jobId := by
  rw [shifted.fields]

theorem workers : after.workers = before.workers := by
  rw [shifted.fields]

theorem roster : after.roster = before.roster := by
  rw [shifted.fields]

theorem groupKey : groupKey after = groupKey before := by
  rw [CorrelatedChain.groupKey, CorrelatedChain.groupKey, shifted.fields]

theorem stageKey : stageKey after = stageKey before := by
  rw [Validation.stageKey, Validation.stageKey, shifted.fields]

theorem workerKey : workerKey after = workerKey before := by
  rw [Validation.workerKey, Validation.workerKey, shifted.fields]

theorem jobIds : jobIds after = jobIds before := by
  rw [Validation.jobIds, Validation.jobIds, shifted.fields]

theorem recordedBy : recordedBy after = recordedBy before := by
  rw [ShiftedClocks.recordedBy, ShiftedClocks.recordedBy, shifted.event,
    shifted.schedulerGeneration, shifted.workerKey]

theorem back : ShiftedCorrelated (fun process => - clock process) after before := by
  constructor
  · rw [shifted.fields]
  · have time := shifted.time
    rw [shifted.recordedBy]
    omega

end ShiftedCorrelated

/-- A shifted record of one stage of one scheduler's episodes. -/
structure StageShift (generation : ProcessUuid) (event : CorrelatedEvent)
    (before after : CorrelatedHostObservation) : Prop where
  shifted : ShiftedCorrelated clock before after
  event : before.event = event
  generation : before.schedulerGeneration = generation

section Stage

variable {clock} {generation : ProcessUuid}

theorem scheduler_time {event : CorrelatedEvent} {before after : CorrelatedHostObservation}
    (pair : StageShift clock generation event before after)
    (scheduled : event = .recoveryRequeued ∨ event = .transferReceipt ∨
      event = .recoveryAdmitted) :
    (after.observedAtNs.val : Int) = before.observedAtNs.val + clock (.scheduler generation) := by
  have own : recordedBy before = .scheduler generation := by
    rw [recordedBy, pair.event, ← pair.generation]
    rcases scheduled with rfl | rfl | rfl <;> rfl
  rw [pair.shifted.time, own]

theorem worker_time {event : CorrelatedEvent} {before after : CorrelatedHostObservation}
    (pair : StageShift clock generation event before after)
    (worked : event = .restoreSubmitted ∨ event = .restoreCompleted ∨ event = .firstCompute) :
    (after.observedAtNs.val : Int) =
      before.observedAtNs.val + clock (.hostWorker (workerKey before)) := by
  have own : recordedBy before = .hostWorker (workerKey before) := by
    rw [recordedBy, pair.event]
    rcases worked with rfl | rfl | rfl <;> rfl
  rw [pair.shifted.time, own]

variable {items others : List CorrelatedHostObservation}
variable (logs : List.Forall₂ (ShiftedCorrelated clock) items others)
variable (own : ∀ item ∈ items, item.schedulerGeneration = generation)
include logs own

theorem stage_related (event : CorrelatedEvent) :
    List.Forall₂ (StageShift clock generation event) (itemsOf items event)
      (itemsOf others event) := by
  have filtered : List.Forall₂ (ShiftedCorrelated clock) (itemsOf items event)
      (itemsOf others event) := by
    apply List.rel_filter _ logs
    intro before after shifted
    simp only [shifted.event]
  have facts : ∀ item ∈ itemsOf items event,
      item.event = event ∧ item.schedulerGeneration = generation := by
    intro item member
    obtain ⟨inside, same⟩ := List.mem_filter.mp member
    exact ⟨of_decide_eq_true same, own item inside⟩
  have both := (List.forall₂_and_left _ _).mpr ⟨facts, filtered⟩
  apply both.imp
  rintro before after ⟨⟨same, generated⟩, shifted⟩
  exact ⟨shifted, same, generated⟩

/-- The one record of a stage stays the one record of it. -/
theorem only_related (event : CorrelatedEvent) (item : CorrelatedHostObservation)
    (one : eventsOf ↑items event = {item}) :
    ∃ other, StageShift clock generation event item other ∧ eventsOf ↑others event = {other} := by
  have stage := stage_related logs own event
  rw [← only_ok_iff] at one
  have single : itemsOf items event = [item] := by
    unfold only at one
    split at one
    · rename_i found listed
      cases one
      exact listed
    · cases one
  rw [single] at stage
  obtain ⟨other, rest, pair, empty, listed⟩ := List.forall₂_cons_left_iff.mp stage
  rw [List.forall₂_nil_left_iff.mp empty] at listed
  refine ⟨other, pair, ?_⟩
  rw [← only_ok_iff, only, listed]

theorem stage_keys_related {Key : Type} (key : CorrelatedHostObservation → Key)
    (same : ∀ {before after : CorrelatedHostObservation}, ShiftedCorrelated clock before after →
      key after = key before) (event : CorrelatedEvent) :
    (eventsOf ↑others event).map key = (eventsOf ↑items event).map key := by
  rw [map_events_of, map_events_of]
  congr 1
  rw [← List.filterMap_eq_map]
  symm
  apply OnlineCheck.filter_map_related (stage_related logs own event)
  intro before after pair
  rw [Function.comp_apply, Function.comp_apply, same pair.shifted]

/-- Statements about all records of a stage, one of each pair at a time. -/
theorem stage_forall_related (event : CorrelatedEvent)
    (first second : CorrelatedHostObservation → Prop)
    (same : ∀ before after, StageShift clock generation event before after →
      (first before ↔ second after)) :
    (∀ item ∈ eventsOf ↑items event, first item) ↔
      ∀ other ∈ eventsOf ↑others event, second other := by
  simp only [mem_events_of]
  exact OnlineCheck.forall_related (stage_related logs own event) first second same

theorem complete_group_shift (requeued admitted : CorrelatedHostObservation)
    (complete : CompleteGroup ↑items requeued admitted) :
    ∃ requeued' admitted', CompleteGroup ↑others requeued' admitted' := by
  obtain ⟨requeued', requeuedPair, requeue⟩ :=
    only_related logs own .recoveryRequeued requeued complete.requeue
  obtain ⟨admitted', admittedPair, admission⟩ :=
    only_related logs own .recoveryAdmitted admitted complete.admission
  have requeuedTime := scheduler_time requeuedPair (.inl rfl)
  have admittedTime := scheduler_time admittedPair (.inr (.inr rfl))
  have roster := admittedPair.shifted.roster
  refine ⟨requeued', admitted', ?_⟩
  constructor
  case requeue => exact requeue
  case admission => exact admission
  case receipts =>
    rw [stage_keys_related logs own _ (fun shifted => shifted.jobId), roster]
    exact complete.receipts
  case receiptWorkers =>
    rw [← stage_forall_related logs own .transferReceipt
      (fun receipt => ∀ job ∈ admitted.roster.val, receipt.jobId = some job.jobId →
        receipt.workers = job.workers)]
    · exact complete.receiptWorkers
    · intro before after pair
      rw [roster, pair.shifted.jobId, pair.shifted.workers]
  case receiptTimes =>
    rw [← stage_forall_related logs own .transferReceipt
      (fun receipt => requeued.observedAtNs.val < receipt.observedAtNs.val ∧
        receipt.observedAtNs.val < admitted.observedAtNs.val)]
    · exact complete.receiptTimes
    · intro before after pair
      have time := scheduler_time pair (.inr (.inl rfl))
      omega
  case submissions =>
    rw [stage_keys_related logs own _ (fun shifted => shifted.stageKey), roster]
    exact complete.submissions
  case completions =>
    rw [stage_keys_related logs own _ (fun shifted => shifted.stageKey), roster]
    exact complete.completions
  case completedLater =>
    rw [← stage_forall_related logs own .restoreSubmitted
      (fun submission => ∀ completion ∈ eventsOf ↑items .restoreCompleted,
        stageKey submission = stageKey completion →
          submission.observedAtNs.val < completion.observedAtNs.val)]
    · exact complete.completedLater
    · intro submission submission' submitted
      apply stage_forall_related logs own .restoreCompleted
      intro completion completion' completed
      rw [submitted.shifted.stageKey, completed.shifted.stageKey]
      apply forall_congr'
      intro same
      have submittedTime := worker_time submitted (.inl rfl)
      have completedTime := worker_time completed (.inr (.inl rfl))
      have worker : workerKey submission = workerKey completion := (Prod.mk.inj same).2
      rw [worker] at submittedTime
      omega
  case computes =>
    rw [stage_keys_related logs own _ (fun shifted => shifted.workerKey), roster]
    exact complete.computes
  case computeRoster =>
    rw [← stage_forall_related logs own .firstCompute
      (fun compute => compute.roster = admitted.roster)]
    · exact complete.computeRoster
    · intro before after pair
      rw [roster, pair.shifted.roster]
  case computedLater =>
    rw [← stage_forall_related logs own .firstCompute
      (fun compute => ∀ completion ∈ eventsOf ↑items .restoreCompleted,
        workerKey completion = workerKey compute →
          completion.observedAtNs.val < compute.observedAtNs.val)]
    · exact complete.computedLater
    · intro compute compute' computed
      apply stage_forall_related logs own .restoreCompleted
      intro completion completion' completed
      rw [computed.shifted.workerKey, completed.shifted.workerKey]
      apply forall_congr'
      intro same
      have computedTime := worker_time computed (.inr (.inr rfl))
      have completedTime := worker_time completed (.inr (.inl rfl))
      rw [same] at completedTime
      omega

end Stage

section Chains

variable {clock} {own others : List CorrelatedHostObservation}
variable (logs : List.Forall₂ (ShiftedCorrelated clock) own others)
include logs

theorem logs_back :
    List.Forall₂ (ShiftedCorrelated fun process => - clock process) others own := by
  apply List.Forall₂.flip
  apply logs.imp
  intro before after shifted
  exact shifted.back

theorem group_shift (record record' : CorrelatedHostObservation)
    (pair : ShiftedCorrelated clock record record')
    (complete : ∃ requeued admitted, CompleteGroup
      ((own : Group).filter fun other => groupKey other = groupKey record) requeued admitted) :
    ∃ requeued admitted, CompleteGroup
      ((others : Group).filter fun other => groupKey other = groupKey record') requeued
        admitted := by
  obtain ⟨requeued, admitted, group⟩ := complete
  rw [Multiset.filter_coe] at group ⊢
  have members : List.Forall₂ (ShiftedCorrelated clock)
      (own.filter fun other => groupKey other = groupKey record)
      (others.filter fun other => groupKey other = groupKey record') := by
    apply List.rel_filter _ logs
    intro before after shifted
    simp only [shifted.groupKey, pair.groupKey]
  apply complete_group_shift members _ requeued admitted group
  · exact record.schedulerGeneration
  · intro item member
    have same := of_decide_eq_true (List.mem_filter.mp member).2
    exact (Prod.mk.inj same).1

theorem complete_chains_related (count : Nat) :
    CompleteChains ↑own count ↔ CompleteChains ↑others count := by
  have keys : (own : Group).map groupKey = (others : Group).map groupKey := by
    rw [Multiset.map_coe, Multiset.map_coe, ← List.filterMap_eq_map]
    congr 1
    apply OnlineCheck.filter_map_related logs
    intro before after shifted
    rw [Function.comp_apply, Function.comp_apply, shifted.groupKey]
  have complete := OnlineCheck.forall_related logs
    (fun record => ∃ requeued admitted, CompleteGroup
      ((own : Group).filter fun other => groupKey other = groupKey record) requeued admitted)
    (fun record => ∃ requeued admitted, CompleteGroup
      ((others : Group).filter fun other => groupKey other = groupKey record) requeued admitted)
    (fun record record' pair =>
      ⟨group_shift logs record record' pair,
        group_shift (logs_back logs) record' record pair.back⟩)
  have owned := OnlineCheck.forall_related logs
    (fun first => ∀ second ∈ own, SameGroup first second)
    (fun first => ∀ second ∈ others, SameGroup first second)
    (by
      intro first first' one
      apply OnlineCheck.forall_related logs
      intro second second' other
      rw [SameGroup, SameGroup, one.schedulerGeneration, other.schedulerGeneration, one.jobIds,
        other.jobIds, one.groupKey, other.groupKey])
  constructor
  · intro chains
    exact ⟨keys ▸ chains.counted, complete.mp chains.complete, owned.mp chains.owned⟩
  · intro chains
    exact ⟨keys ▸ chains.counted, complete.mpr chains.complete, owned.mpr chains.owned⟩

end Chains

section Correlated

variable {clock} {records others : List EventRecord}
variable (logs : List.Forall₂ (Shifted clock) records others) (requestId : String)
include logs

theorem own_records_related :
    List.Forall₂ (ShiftedCorrelated clock) (records.filterMap (ownRecord requestId))
      (others.filterMap (ownRecord requestId)) := by
  apply List.rel_filterMap _ logs
  intro record other pair
  cases pair with
  | canonical before after shifted => exact Option.Rel.none
  | hostFact before after => exact Option.Rel.none
  | correlated before after shifted =>
      rw [ownRecord, ownRecord, shifted.requestId]
      split
      · exact Option.Rel.some shifted
      · exact Option.Rel.none

theorem correlated_related :
    (∃ record ∈ records, isCorrelatedFor requestId record = true) ↔
      ∃ record ∈ others, isCorrelatedFor requestId record = true := by
  apply OnlineCheck.exists_related logs
  intro record other pair
  cases pair with
  | canonical before after shifted => exact Iff.rfl
  | hostFact before after => exact Iff.rfl
  | correlated before after shifted => rw [isCorrelatedFor, isCorrelatedFor, shifted.requestId]

/-- The verdict is the same whatever the clocks of the processes are set to. -/
theorem verdict_shift (count : Nat) :
    validateRestoreChain records requestId = .ok count ↔
      validateRestoreChain others requestId = .ok count := by
  have chosen := correlated_related logs requestId
  by_cases correlated : ∃ record ∈ records, isCorrelatedFor requestId record = true
  · rw [correlated_verdict records requestId correlated,
      correlated_verdict others requestId (chosen.mp correlated)]
    exact complete_chains_related (own_records_related logs requestId) count
  · have first := Bool.eq_false_iff.mpr (fun any => correlated (List.any_eq_true.mp any))
    have second := Bool.eq_false_iff.mpr
      (fun any => correlated (chosen.mpr (List.any_eq_true.mp any)))
    exact canonical_shift logs requestId first second count

end Correlated

end KVTransferObservability.ShiftedClocks
