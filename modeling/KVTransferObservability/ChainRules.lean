import KVTransferObservability.Library.OnlineCheck
import KVTransferObservability.NormalizerEvidence
import KVTransferObservability.Validation

/-!
# Which record may follow a history of recovery records

`Admissible` is the validator's verdict on one more record in terms of the records
before it alone: how the record continues its own episode, that it reuses no transfer
and no receipt, and that the replayed normalizer has room. The validator never uses
any other property of the history.
-/

namespace KVTransferObservability.ChainRules

open Library PythonValues Schema Observation Normalization Validation
open NormalizerEvidence

set_option autoImplicit false

abbrev History := List KVTransferObservation

def AdmissionOf (identity : ObservationIdentity) (record : KVTransferObservation) : Prop :=
  record.identity = identity ∧ record.event = .recoveryAdmitted

def ComputeOf (identity : ObservationIdentity) (record : KVTransferObservation) : Prop :=
  record.identity = identity ∧ record.event = .firstCompute

/-- A first compute whose roster holds the transfer. -/
def ConsumptionOf (transfer : TransferIdentity) (record : KVTransferObservation) : Prop :=
  record.event = .firstCompute ∧ transfer ∈ record.associatedTransfers.val

/-- The episode of the record was requeued, has not computed, and is not later than
the record. -/
structure Opened (history : History) (record : KVTransferObservation) : Prop where
  known : ∃ other ∈ history, other.identity = record.identity
  uncomputed : ∀ other ∈ history, ¬ ComputeOf record.identity other
  ordered : ∀ other ∈ history, other.identity = record.identity →
    other.observedAtNs.val ≤ record.observedAtNs.val

def Unadmitted (history : History) (record : KVTransferObservation) : Prop :=
  ∀ other ∈ history, ¬ AdmissionOf record.identity other

/-- The completion repeats the start's blocks and measures the time since. -/
structure Measures (start completion : KVTransferObservation) : Prop where
  identity : start.identity = completion.identity
  transfer : start.transfer = completion.transfer
  later : start.observedAtNs.val < completion.observedAtNs.val
  blockCount : start.blockCount = completion.blockCount
  duration : completion.durationNs.map Subtype.val =
    some (completion.observedAtNs.val - start.observedAtNs.val)

structure Completes (history : History) (record : KVTransferObservation) : Prop where
  started : ∃ start ∈ history, start.event = .restoreStarted ∧ Measures start record
  once : ∀ other ∈ history, other.identity = record.identity →
    other.event = .restoreCompleted → other.transfer ≠ record.transfer

/-- The roster is what the episode has started and what it has completed. -/
structure CoversRoster (history : History) (record : KVTransferObservation) : Prop where
  started : ∀ transfer, transfer ∈ record.associatedTransfers.val ↔
    ∃ start ∈ history, start.identity = record.identity ∧ StartOf transfer start
  completed : ∀ transfer, transfer ∈ record.associatedTransfers.val ↔
    ∃ completion ∈ history, completion.identity = record.identity ∧
      CompletionOf transfer completion

/-- How a record continues its own episode. -/
def Continues (history : History) (record : KVTransferObservation) : Prop :=
  match record.event with
  | .recoveryRequeued => ∀ other ∈ history, other.identity ≠ record.identity
  | .restoreStarted => Opened history record ∧ Unadmitted history record
  | .restoreCompleted =>
      Opened history record ∧ Unadmitted history record ∧ Completes history record
  | .recoveryAdmitted =>
      Opened history record ∧ Unadmitted history record ∧ CoversRoster history record
  | .firstCompute =>
      Opened history record ∧ ∃ admission ∈ history, AdmissionOf record.identity admission ∧
        admission.associatedTransfers = record.associatedTransfers
  | _ => False

def startedTransfer (record : KVTransferObservation) : Option TransferIdentity :=
  if record.event = .restoreStarted then record.transfer else none

def completedTransfer (record : KVTransferObservation) : Option TransferIdentity :=
  if record.event = .restoreCompleted then record.transfer else none

def consumedTransfers (record : KVTransferObservation) : List TransferIdentity :=
  if record.event = .firstCompute then record.associatedTransfers.val else []

def admittedIdentity (record : KVTransferObservation) : Option ObservationIdentity :=
  if record.event = .recoveryAdmitted then some record.identity else none

def computedIdentity (record : KVTransferObservation) : Option ObservationIdentity :=
  if record.event = .firstCompute then some record.identity else none

def receiptOf (record : KVTransferObservation) : Option ReceiptIdentity := record.receipt

/-- The value of the record, if it has one, is new. -/
def Fresh {Value : Type} (value : KVTransferObservation → Option Value) (history : History)
    (record : KVTransferObservation) : Prop :=
  ∀ found, value record = some found → found ∉ history.filterMap value

/-- Transfers started and not completed. -/
def openTransfers (history : History) : Finset TransferIdentity :=
  (history.filterMap startedTransfer).toFinset \ (history.filterMap completedTransfer).toFinset

/-- Transfers completed and not taken by a first compute. -/
def keptTransfers (history : History) : Finset TransferIdentity :=
  (history.filterMap completedTransfer).toFinset \ (history.flatMap consumedTransfers).toFinset

/-- Episodes admitted and not yet computed. -/
def liveAdmissions (history : History) : Finset ObservationIdentity :=
  (history.filterMap admittedIdentity).toFinset \ (history.filterMap computedIdentity).toFinset

/-- The replayed normalizer has a place for the record. -/
def Room (history : History) (record : KVTransferObservation) : Prop :=
  match record.event with
  | .restoreStarted => (openTransfers history).card < defaultMaxCorrelatedTransfers
  | .restoreCompleted => (keptTransfers history).card < defaultMaxCorrelatedTransfers
  | .recoveryAdmitted => (liveAdmissions history).card < defaultMaxRecoveryAdmissions
  | _ => True

structure Admissible (history : History) (record : KVTransferObservation) : Prop where
  continues : Continues history record
  freshTransfer : Fresh startedTransfer history record
  freshReceipt : Fresh receiptOf history record
  room : Room history record

theorem mem_started_transfers (history : History) (transfer : TransferIdentity) :
    transfer ∈ history.filterMap startedTransfer ↔
      ∃ start ∈ history, StartOf transfer start := by
  simp only [List.mem_filterMap, startedTransfer, StartOf, Option.ite_none_right_eq_some]

theorem mem_completed_transfers (history : History) (transfer : TransferIdentity) :
    transfer ∈ history.filterMap completedTransfer ↔
      ∃ completion ∈ history, CompletionOf transfer completion := by
  simp only [List.mem_filterMap, completedTransfer, CompletionOf, Option.ite_none_right_eq_some]

theorem mem_consumed_transfers (history : History) (transfer : TransferIdentity) :
    transfer ∈ history.flatMap consumedTransfers ↔
      ∃ compute ∈ history, ConsumptionOf transfer compute := by
  simp only [List.mem_flatMap, consumedTransfers, ConsumptionOf, List.mem_ite_nil_right]

theorem mem_admitted_identities (history : History) (identity : ObservationIdentity) :
    identity ∈ history.filterMap admittedIdentity ↔
      ∃ admission ∈ history, AdmissionOf identity admission := by
  simp only [List.mem_filterMap, admittedIdentity, AdmissionOf, Option.ite_none_right_eq_some,
    Option.some.injEq, and_comm]

theorem mem_computed_identities (history : History) (identity : ObservationIdentity) :
    identity ∈ history.filterMap computedIdentity ↔
      ∃ compute ∈ history, ComputeOf identity compute := by
  simp only [List.mem_filterMap, computedIdentity, ComputeOf, Option.ite_none_right_eq_some,
    Option.some.injEq, and_comm]

/-! ## What a legal history shows -/

section Legal

variable {history : History} (legal : OnlineCheck.Legal Admissible [] history)
include legal

theorem starts_nodup : (history.filterMap startedTransfer).Nodup := by
  rw [← OnlineCheck.legal_fresh_iff]
  exact OnlineCheck.legal_mono _ _ (fun _ _ admissible => admissible.freshTransfer) [] history
    legal

theorem start_unique (transfer : TransferIdentity) (first second : KVTransferObservation)
    (firstMember : first ∈ history) (secondMember : second ∈ history)
    (one : StartOf transfer first) (other : StartOf transfer second) : first = second := by
  apply OnlineCheck.fresh_unique startedTransfer history (starts_nodup legal) first second
    firstMember secondMember transfer
  · rw [startedTransfer, if_pos one.1, one.2]
  · rw [startedTransfer, if_pos other.1, other.2]

theorem completion_continues (completion : KVTransferObservation) (member : completion ∈ history)
    (event : completion.event = .restoreCompleted) :
    ∃ start ∈ history, start.event = .restoreStarted ∧ Measures start completion := by
  obtain ⟨before, after, split, admissible⟩ := legal.here member
  have continues := admissible.continues
  rw [Continues, event] at continues
  obtain ⟨_, _, completes⟩ := continues
  obtain ⟨start, earlier, facts⟩ := completes.started
  exact ⟨start, by rw [split]; exact List.mem_append_left _ earlier, facts⟩

/-- A completed transfer was started, by the same episode. -/
theorem completion_started (transfer : TransferIdentity) (completion : KVTransferObservation)
    (member : completion ∈ history) (completed : CompletionOf transfer completion) :
    ∃ start ∈ history, StartOf transfer start ∧ start.identity = completion.identity := by
  obtain ⟨start, there, event, measures⟩ :=
    completion_continues legal completion member completed.1
  exact ⟨start, there, ⟨event, measures.transfer.trans completed.2⟩, measures.identity⟩

theorem compute_admitted (compute : KVTransferObservation) (member : compute ∈ history)
    (event : compute.event = .firstCompute) :
    ∃ admission ∈ history, AdmissionOf compute.identity admission ∧
      admission.associatedTransfers = compute.associatedTransfers := by
  obtain ⟨before, after, split, admissible⟩ := legal.here member
  have continues := admissible.continues
  rw [Continues, event] at continues
  obtain ⟨_, admission, earlier, facts⟩ := continues
  exact ⟨admission, by rw [split]; exact List.mem_append_left _ earlier, facts⟩

/-- An admitted transfer was completed, by the same episode. -/
theorem admission_completed (admission : KVTransferObservation) (member : admission ∈ history)
    (event : admission.event = .recoveryAdmitted) (transfer : TransferIdentity)
    (listed : transfer ∈ admission.associatedTransfers.val) :
    ∃ completion ∈ history, completion.identity = admission.identity ∧
      CompletionOf transfer completion := by
  obtain ⟨before, after, split, admissible⟩ := legal.here member
  have continues := admissible.continues
  rw [Continues, event] at continues
  obtain ⟨_, _, covers⟩ := continues
  obtain ⟨completion, earlier, facts⟩ := (covers.completed transfer).mp listed
  exact ⟨completion, by rw [split]; exact List.mem_append_left _ earlier, facts⟩

theorem consumption_completed (compute : KVTransferObservation) (member : compute ∈ history)
    (transfer : TransferIdentity) (consumed : ConsumptionOf transfer compute) :
    ∃ completion ∈ history, completion.identity = compute.identity ∧
      CompletionOf transfer completion := by
  obtain ⟨admission, there, admitted, roster⟩ :=
    compute_admitted legal compute member consumed.1
  have listed := consumed.2
  rw [← roster] at listed
  have completed := admission_completed legal admission there admitted.2 transfer listed
  rw [admitted.1] at completed
  exact completed

/-- A transfer belongs to the episode that started it. -/
theorem started_identity (transfer : TransferIdentity) (start completion : KVTransferObservation)
    (startMember : start ∈ history) (member : completion ∈ history)
    (started : StartOf transfer start) (completed : CompletionOf transfer completion) :
    completion.identity = start.identity := by
  obtain ⟨other, there, startedToo, same⟩ :=
    completion_started legal transfer completion member completed
  rw [start_unique legal transfer start other startMember there started startedToo, same]

/-- No transfer of the record was completed before, by whichever episode. -/
theorem uncompleted (record : KVTransferObservation)
    (completes : Completes history record) (transfer : TransferIdentity)
    (field : record.transfer = some transfer) :
    ∀ other ∈ history, ¬ CompletionOf transfer other := by
  intro other member completion
  obtain ⟨start, there, event, measures⟩ := completes.started
  have started : StartOf transfer start := ⟨event, measures.transfer.trans field⟩
  have same := started_identity legal transfer start other there member started completion
  have own : other.identity = record.identity := same.trans measures.identity
  exact completes.once other member own completion.1 (completion.2.trans field.symm)

end Legal

end KVTransferObservability.ChainRules
