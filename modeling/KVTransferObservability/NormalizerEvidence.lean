import KVTransferObservability.Library.LastOccurrence
import KVTransferObservability.NormalizerHistory
import KVTransferObservability.NormalizerTables

/-!
# What stands behind an emitted first compute

The tables of the normalizer are read as links into the log of emitted records:
a pending restore links to its start, a completed restore to its completion and
the start before it, a live admission to its admission record. An admission or a
first compute is emitted from linked entries, so the log itself shows the chain.
-/

namespace KVTransferObservability.NormalizerEvidence

open Library PythonValues Schema Observation Normalization NormalizerRecords
open NormalizerTransitions NormalizerTables NormalizerHistory
open LifecycleNormalizer

set_option autoImplicit false

abbrev Log := List KVTransferObservation

def StartOf (transfer : TransferIdentity) (record : KVTransferObservation) : Prop :=
  record.event = .restoreStarted ∧ record.transfer = some transfer

def CompletionOf (transfer : TransferIdentity) (record : KVTransferObservation) : Prop :=
  record.event = .restoreCompleted ∧ record.transfer = some transfer

/-- The records that open or consume an admission of the identity. -/
def RecoveryOf (identity : ObservationIdentity) (record : KVTransferObservation) : Prop :=
  (record.event = .recoveryAdmitted ∨ record.event = .firstCompute) ∧
    record.identity = identity

/-- The completion of the transfer that counts at `limit` is at `position`, and it
follows a start of the same identity. -/
structure RestoredAt (log : Log) (limit : Nat) (transfer : TransferIdentity)
    (identity : ObservationIdentity) (position : Nat) (completion : KVTransferObservation) :
    Prop where
  completed : LastAt (CompletionOf transfer) log limit position completion
  sameIdentity : completion.identity = identity
  started : ∃ place start, LastAt (StartOf transfer) log position place start ∧
    start.identity = identity ∧ start.observedAtNs.val < completion.observedAtNs.val

def AdmissionBacked (log : Log) (position : Nat) (admission : KVTransferObservation) : Prop :=
  ∀ transfer ∈ admission.associatedTransfers.val, ∃ place completion,
    RestoredAt log position transfer admission.identity place completion ∧
      completion.observedAtNs.val ≤ admission.observedAtNs.val

/-- The last recovery record of the identity is an unconsumed admission with the
same roster, and the roster belongs to the process of the receipt. -/
def ComputeBacked (log : Log) (position : Nat) (compute : KVTransferObservation) : Prop :=
  ∃ place admission, LastAt (RecoveryOf compute.identity) log position place admission ∧
    admission.event = .recoveryAdmitted ∧
    admission.associatedTransfers = compute.associatedTransfers ∧
    admission.observedAtNs.val ≤ compute.observedAtNs.val ∧
    ∃ receipt, compute.receipt = some receipt ∧
      ∀ transfer ∈ compute.associatedTransfers.val,
        transfer.processUuid = receipt.processUuid

/-- The admission at `position` rests on the completion at `place`. -/
def Uses (log : Log) (position place : Nat) : Prop :=
  ∃ admission transfer completion, log[position]? = some admission ∧
    admission.event = .recoveryAdmitted ∧ transfer ∈ admission.associatedTransfers.val ∧
    LastAt (CompletionOf transfer) log position place completion

/-- The first compute at `position` consumes the admission at `admitted`. -/
def Consumes (log : Log) (position admitted : Nat) : Prop :=
  ∃ compute admission, log[position]? = some compute ∧ compute.event = .firstCompute ∧
    LastAt (RecoveryOf compute.identity) log position admitted admission

structure Backed (log : Log) : Prop where
  admissions : ∀ position admission, log[position]? = some admission →
    admission.event = .recoveryAdmitted → AdmissionBacked log position admission
  computes : ∀ position compute, log[position]? = some compute →
    compute.event = .firstCompute → ComputeBacked log position compute
  unshared : ∀ first second place, Uses log first place → Uses log second place → first = second

/-- The tables as links into the log. `held`: while a completed restore is kept, an
admission that rests on it is still live. -/
structure Linked (pending : Dict TransferIdentity CoreTransferSubmitted)
    (completedRestores : Dict TransferIdentity CompletedRestore)
    (admissions : Dict ObservationIdentity RecoveryAdmission) (log : Log) : Prop where
  starts : ∀ transfer source, pending.lookup transfer = some source →
    source.operation = .h2dRestore → ∃ place start,
      LastAt (StartOf transfer) log log.length place start ∧
        start.identity = source.identity ∧ start.observedAtNs = source.observedAtNs
  completions : ∀ transfer completed, completedRestores.lookup transfer = some completed →
    ∃ place completion,
      RestoredAt log log.length transfer completed.identity place completion ∧
        completion.observedAtNs = completed.observedAtNs
  admitted : ∀ identity admission, admissions.lookup identity = some admission →
    ∃ place record, LastAt (RecoveryOf identity) log log.length place record ∧
      record.event = .recoveryAdmitted ∧ record.associatedTransfers = admission.transfers ∧
        record.observedAtNs = admission.observedAtNs
  held : ∀ position record transfer place completion, log[position]? = some record →
    record.event = .recoveryAdmitted → transfer ∈ record.associatedTransfers.val →
    LastAt (CompletionOf transfer) log position place completion →
    LastAt (CompletionOf transfer) log log.length place completion →
    transfer ∈ completedRestores → ∃ admission,
      admissions.lookup record.identity = some admission ∧
        transfer ∈ admission.transfers.val

/-! ## The log grows -/

theorem RestoredAt.append {log : Log} {limit position : Nat} {transfer : TransferIdentity}
    {identity : ObservationIdentity} {completion : KVTransferObservation}
    (restored : RestoredAt log limit transfer identity position completion) (more : Log)
    (reached : limit ≤ log.length) :
    RestoredAt (log ++ more) limit transfer identity position completion where
  completed := restored.completed.append more reached
  sameIdentity := restored.sameIdentity
  started := by
    obtain ⟨place, start, last, facts⟩ := restored.started
    exact ⟨place, start, last.append more (Nat.le_of_lt restored.completed.position_lt), facts⟩

theorem RestoredAt.snoc {log : Log} {position : Nat} {transfer : TransferIdentity}
    {identity : ObservationIdentity} {completion : KVTransferObservation}
    (restored : RestoredAt log log.length transfer identity position completion)
    (record : KVTransferObservation) (other : ¬ CompletionOf transfer record) :
    RestoredAt (log ++ [record]) (log ++ [record]).length transfer identity position
      completion where
  completed := restored.completed.snoc record other
  sameIdentity := restored.sameIdentity
  started := (restored.append [record] (Nat.le_refl _)).started

theorem AdmissionBacked.append {log : Log} {position : Nat} {admission : KVTransferObservation}
    (backed : AdmissionBacked log position admission) (more : Log)
    (reached : position ≤ log.length) : AdmissionBacked (log ++ more) position admission := by
  intro transfer member
  obtain ⟨place, completion, restored, ordered⟩ := backed transfer member
  exact ⟨place, completion, restored.append more reached, ordered⟩

theorem ComputeBacked.append {log : Log} {position : Nat} {compute : KVTransferObservation}
    (backed : ComputeBacked log position compute) (more : Log)
    (reached : position ≤ log.length) : ComputeBacked (log ++ more) position compute := by
  obtain ⟨place, admission, last, facts⟩ := backed
  exact ⟨place, admission, last.append more reached, facts⟩

theorem Uses.position_lt {log : Log} {position place : Nat} (uses : Uses log position place) :
    position < log.length := by
  obtain ⟨admission, _, _, here, _⟩ := uses
  exact (List.getElem?_eq_some_iff.mp here).1

/-- A use in the longer log is an old use, or one by the new record. -/
theorem Uses.of_snoc {log : Log} {record : KVTransferObservation} {position place : Nat}
    (uses : Uses (log ++ [record]) position place) :
    Uses log position place ∨
      (position = log.length ∧ record.event = .recoveryAdmitted ∧
        ∃ transfer ∈ record.associatedTransfers.val, ∃ completion,
          LastAt (CompletionOf transfer) log log.length place completion) := by
  obtain ⟨admission, transfer, completion, here, event, member, last⟩ := uses
  rcases getElem_snoc here with ⟨old, there⟩ | ⟨new, same⟩
  · exact Or.inl ⟨admission, transfer, completion, there, event, member,
      last.of_append (Nat.le_of_lt old)⟩
  · rw [same] at event member
    rw [new] at last
    exact Or.inr ⟨new, event, transfer, member, completion, last.of_append (Nat.le_refl _)⟩

theorem Backed.snoc {log : Log} (backed : Backed log) (record : KVTransferObservation)
    (admission : record.event = .recoveryAdmitted → AdmissionBacked log log.length record ∧
      ∀ position place transfer completion, Uses log position place →
        transfer ∈ record.associatedTransfers.val →
          ¬ LastAt (CompletionOf transfer) log log.length place completion)
    (compute : record.event = .firstCompute → ComputeBacked log log.length record) :
    Backed (log ++ [record]) where
  admissions := by
    intro position other here event
    rcases getElem_snoc here with ⟨old, there⟩ | ⟨new, same⟩
    · exact (backed.admissions position other there event).append [record] (Nat.le_of_lt old)
    · rw [same] at event
      rw [new, same]
      exact (admission event).1.append [record] (Nat.le_refl _)
  computes := by
    intro position other here event
    rcases getElem_snoc here with ⟨old, there⟩ | ⟨new, same⟩
    · exact (backed.computes position other there event).append [record] (Nat.le_of_lt old)
    · rw [same] at event
      rw [new, same]
      exact (compute event).append [record] (Nat.le_refl _)
  unshared := by
    intro first second place one other
    rcases one.of_snoc with oneOld | ⟨oneNew, event, transfer, member, completion, last⟩
    · rcases other.of_snoc with otherOld | ⟨otherNew, event, transfer, member, completion, last⟩
      · exact backed.unshared first second place oneOld otherOld
      · exact absurd last ((admission event).2 first place transfer completion oneOld member)
    · rcases other.of_snoc with otherOld | ⟨otherNew, _⟩
      · exact absurd last ((admission event).2 second place transfer completion otherOld member)
      · rw [oneNew, otherNew]

/-! ## The tables change -/

namespace Linked

variable {pending : Dict TransferIdentity CoreTransferSubmitted}
variable {completedRestores : Dict TransferIdentity CompletedRestore}
variable {admissions : Dict ObservationIdentity RecoveryAdmission} {log : Log}

theorem erase_pending (linked : Linked pending completedRestores admissions log)
    (transfer : TransferIdentity) :
    Linked (pending.erase transfer) completedRestores admissions log where
  starts := by
    intro other source found restore
    rw [Dict.lookup_erase_ite] at found
    split at found
    · cases found
    · exact linked.starts other source found restore
  completions := linked.completions
  admitted := linked.admitted
  held := linked.held

theorem insert_pending (linked : Linked pending completedRestores admissions log)
    (source : CoreTransferSubmitted)
    (started : source.operation = .h2dRestore → ∃ place start,
      LastAt (StartOf source.transfer) log log.length place start ∧
        start.identity = source.identity ∧ start.observedAtNs = source.observedAtNs) :
    Linked (pending.insert source.transfer source) completedRestores admissions log where
  starts := by
    intro other submitted found restore
    rw [Dict.lookup_insert_ite] at found
    split at found
    · rename_i same
      cases found
      rw [same]
      exact started restore
    · exact linked.starts other submitted found restore
  completions := linked.completions
  admitted := linked.admitted
  held := linked.held

/-- A record that is no start, completion or recovery record of any entry. -/
theorem snoc (linked : Linked pending completedRestores admissions log)
    (record : KVTransferObservation)
    (noStart : ∀ transfer ∈ pending, ¬ StartOf transfer record)
    (noCompletion : ∀ transfer ∈ completedRestores, ¬ CompletionOf transfer record)
    (noRecovery : ∀ identity ∈ admissions, ¬ RecoveryOf identity record)
    (noAdmission : record.event ≠ .recoveryAdmitted) :
    Linked pending completedRestores admissions (log ++ [record]) where
  starts := by
    intro transfer source found restore
    obtain ⟨place, start, last, facts⟩ := linked.starts transfer source found restore
    exact ⟨place, start, last.snoc record (noStart transfer (Dict.mem_of_lookup found)), facts⟩
  completions := by
    intro transfer completed found
    obtain ⟨place, completion, restored, time⟩ := linked.completions transfer completed found
    have other := noCompletion transfer (Dict.mem_of_lookup found)
    exact ⟨place, completion, restored.snoc record other, time⟩
  admitted := by
    intro identity admission found
    obtain ⟨place, admitted, last, facts⟩ := linked.admitted identity admission found
    have other := noRecovery identity (Dict.mem_of_lookup found)
    exact ⟨place, admitted, last.snoc record other, facts⟩
  held := by
    intro position other transfer place completion here event member used current kept
    rcases getElem_snoc here with ⟨old, there⟩ | ⟨new, same⟩
    · have before := used.of_append (Nat.le_of_lt old)
      rcases current.of_snoc with ⟨atEnd, _⟩ | ⟨_, still⟩
      · have earlier := before.position_lt
        omega
      · exact linked.held position other transfer place completion there event member before
          still kept
    · rw [same] at event
      exact absurd event noAdmission

/-- The completion just logged becomes the entry of its transfer. No admission can
rest on it yet. -/
theorem insert_completed (linked : Linked pending completedRestores admissions log)
    (transfer : TransferIdentity) (completed : CompletedRestore) (place : Nat)
    (completion : KVTransferObservation)
    (restored : RestoredAt log log.length transfer completed.identity place completion)
    (time : completion.observedAtNs = completed.observedAtNs)
    (newest : place + 1 = log.length) :
    Linked pending (completedRestores.insert transfer completed) admissions log where
  starts := linked.starts
  completions := by
    intro other entry found
    rw [Dict.lookup_insert_ite] at found
    split at found
    · rename_i same
      cases found
      rw [same]
      exact ⟨place, completion, restored, time⟩
    · exact linked.completions other entry found
  admitted := linked.admitted
  held := by
    intro position record other used before here event member last current kept
    by_cases same : other = transfer
    · subst same
      have position_lt := (List.getElem?_eq_some_iff.mp here).1
      have used_lt := last.before
      have equal := (current.unique restored.completed).1
      omega
    · rcases Finmap.mem_insert.mp kept with equal | old
      · exact absurd equal same
      · exact linked.held position record other used before here event member last current old

/-- The admission just checked against the completed restores is logged and
entered. -/
theorem insert_admission (linked : Linked pending completedRestores admissions log)
    (identity : ObservationIdentity) (admission : RecoveryAdmission)
    (record : KVTransferObservation) (event : record.event = .recoveryAdmitted)
    (sameIdentity : record.identity = identity)
    (roster : record.associatedTransfers = admission.transfers)
    (time : record.observedAtNs = admission.observedAtNs) (absent : identity ∉ admissions) :
    Linked pending completedRestores (admissions.insert identity admission)
      (log ++ [record]) where
  starts := by
    intro transfer source found restore
    obtain ⟨place, start, last, facts⟩ := linked.starts transfer source found restore
    refine ⟨place, start, last.snoc record ?_, facts⟩
    rintro ⟨start_event, _⟩
    rw [event] at start_event
    cases start_event
  completions := by
    intro transfer completed found
    obtain ⟨place, completion, restored, same⟩ := linked.completions transfer completed found
    refine ⟨place, completion, restored.snoc record ?_, same⟩
    rintro ⟨completion_event, _⟩
    rw [event] at completion_event
    cases completion_event
  admitted := by
    intro other entry found
    rw [Dict.lookup_insert_ite] at found
    split at found
    · rename_i same
      cases found
      refine ⟨log.length, record, ?_, event, roster, time⟩
      exact LastAt.snoc_new record ⟨Or.inl event, sameIdentity.trans same.symm⟩
    · rename_i different
      obtain ⟨place, admitted, last, facts⟩ := linked.admitted other entry found
      refine ⟨place, admitted, last.snoc record ?_, facts⟩
      rintro ⟨_, equal⟩
      exact different (equal.symm.trans sameIdentity)
  held := by
    intro position other transfer place completion here admitted member used current kept
    rcases getElem_snoc here with ⟨old, there⟩ | ⟨new, same⟩
    · have before := used.of_append (Nat.le_of_lt old)
      rcases current.of_snoc with ⟨atEnd, _⟩ | ⟨_, still⟩
      · have earlier := before.position_lt
        omega
      · obtain ⟨entry, found, inside⟩ := linked.held position other transfer place completion
          there admitted member before still kept
        refine ⟨entry, ?_, inside⟩
        have different : other.identity ≠ identity := by
          intro equal
          rw [equal] at found
          exact absent (Dict.mem_of_lookup found)
        rw [Dict.lookup_insert_ite, if_neg different]
        exact found
    · refine ⟨admission, ?_, ?_⟩
      · rw [same, sameIdentity, Dict.lookup_insert_ite, if_pos rfl]
      · rw [same, roster] at member
        exact member

/-- A first compute removes an admission and the completed restores of its roster.
An admission that rests on a restore still kept is therefore another one. -/
theorem consume (linked : Linked pending completedRestores admissions log)
    (identity : ObservationIdentity) (consumed : RecoveryAdmission)
    (found : admissions.lookup identity = some consumed) :
    Linked pending (completedRestores.eraseAll consumed.transfers.val)
      (admissions.erase identity) log where
  starts := linked.starts
  completions := by
    intro transfer completed kept
    rw [Dict.lookup_erase_all] at kept
    split at kept
    · cases kept
    · exact linked.completions transfer completed kept
  admitted := by
    intro other admission kept
    rw [Dict.lookup_erase_ite] at kept
    split at kept
    · cases kept
    · exact linked.admitted other admission kept
  held := by
    intro position record transfer place completion here event member used current kept
    obtain ⟨completed, lookup⟩ := Dict.lookup_of_mem kept
    rw [Dict.lookup_erase_all] at lookup
    split at lookup
    · cases lookup
    · rename_i outside
      obtain ⟨admission, live, inside⟩ := linked.held position record transfer place completion
        here event member used current (Dict.mem_of_lookup lookup)
      have different : record.identity ≠ identity := by
        intro equal
        rw [equal, found] at live
        cases live
        exact outside inside
      refine ⟨admission, ?_, inside⟩
      rw [Dict.lookup_erase_ite, if_neg different]
      exact live

end Linked

/-! ## One call -/

/-- What holds of the log, and of the tables while they can still lead to a record. -/
def Traced (self : LifecycleNormalizer) (log : Log) : Prop :=
  Backed log ∧
    (Emitting self → Linked self.pending self.completedRestores self.admissions log)

/-- A record that neither starts nor completes a restore, nor admits or computes. -/
structure Ordinary (record : KVTransferObservation) : Prop where
  notStart : record.event ≠ .restoreStarted
  notCompletion : record.event ≠ .restoreCompleted
  notAdmission : record.event ≠ .recoveryAdmitted
  notCompute : record.event ≠ .firstCompute

theorem ordinary_of_event (record : KVTransferObservation) (event : ObservationEvent)
    (same : record.event = event)
    (other : event ∉ [ObservationEvent.restoreStarted, .restoreCompleted, .recoveryAdmitted,
      .firstCompute]) : Ordinary record := by
  simp only [List.mem_cons, List.not_mem_nil, or_false, not_or] at other
  rw [← same] at other
  exact ⟨other.1, other.2.1, other.2.2.1, other.2.2.2⟩

section Outcomes

variable {self next : LifecycleNormalizer} {log : Log}

theorem ordinary_traced (backed : Backed log)
    (linked : Linked next.pending next.completedRestores next.admissions log)
    (record : KVTransferObservation) (ordinary : Ordinary record) :
    Traced next (log ++ (some record).toList) := by
  constructor
  · apply backed.snoc record
    · intro event
      exact absurd event ordinary.notAdmission
    · intro event
      exact absurd event ordinary.notCompute
  · intro _
    apply linked.snoc record
    · intro transfer _ start
      exact ordinary.notStart start.1
    · intro transfer _ completion
      exact ordinary.notCompletion completion.1
    · rintro identity _ ⟨admission | compute, _⟩
      · exact ordinary.notAdmission admission
      · exact ordinary.notCompute compute
    · exact ordinary.notAdmission

theorem silent_traced (backed : Backed log)
    (linked : Emitting next →
      Linked next.pending next.completedRestores next.admissions log) :
    Traced next (log ++ (none : Option KVTransferObservation).toList) := by
  rw [Option.toList_none, List.append_nil]
  exact ⟨backed, linked⟩

theorem started_traced (backed : Backed log)
    (linked : Linked self.pending self.completedRestores self.admissions log)
    (source : CoreTransferSubmitted) (record : KVTransferObservation)
    (fields : record.toObservationFields = startedFields source)
    (absent : source.transfer ∉ self.pending)
    (entered : next.pending = self.pending.insert source.transfer source)
    (sameCompleted : next.completedRestores = self.completedRestores)
    (sameAdmissions : next.admissions = self.admissions) :
    Traced next (log ++ (some record).toList) := by
  have starts := started_is_start source
  rw [← fields] at starts
  have carried : record.transfer = some source.transfer :=
    congrArg ObservationFields.transfer fields
  have notAdmission : record.event ≠ .recoveryAdmitted := by
    rcases starts with event | event <;> rw [event] <;> decide
  have notCompute : record.event ≠ .firstCompute := by
    rcases starts with event | event <;> rw [event] <;> decide
  have notCompletion : record.event ≠ .restoreCompleted := by
    rcases starts with event | event <;> rw [event] <;> decide
  constructor
  · apply backed.snoc record
    · intro event
      exact absurd event notAdmission
    · intro event
      exact absurd event notCompute
  · intro _
    rw [entered, sameCompleted, sameAdmissions]
    apply Linked.insert_pending
    · apply linked.snoc record
      · rintro transfer member ⟨_, subject⟩
        rw [carried] at subject
        cases subject
        exact absent member
      · intro transfer _ completion
        exact notCompletion completion.1
      · rintro identity _ ⟨admission | compute, _⟩
        · exact notAdmission admission
        · exact notCompute compute
      · exact notAdmission
    · intro restore
      have event : record.event = .restoreStarted := by
        rw [fields]
        simp [startedFields, startEvent, restore]
      have sameIdentity : record.identity = source.identity :=
        congrArg ObservationFields.identity fields
      have time : record.observedAtNs = source.observedAtNs :=
        congrArg ObservationFields.observedAtNs fields
      exact ⟨log.length, record, LastAt.snoc_new record ⟨event, carried⟩, sameIdentity, time⟩

/-- The completion just emitted, with the start that the pending entry links to. -/
theorem restored_at_end
    (linked : Linked self.pending self.completedRestores self.admissions log)
    (source : CoreTransferCompleted) (pending : CoreTransferSubmitted)
    (receipt : ReceiptIdentity) (record : KVTransferObservation)
    (fields : record.toObservationFields = restoredFields pending source receipt)
    (matched : RestoreMatched self source pending receipt) :
    RestoredAt (log ++ [record]) (log ++ [record]).length source.transfer pending.identity
      log.length record := by
  have event : record.event = .restoreCompleted := congrArg ObservationFields.event fields
  have carried : record.transfer = some source.transfer :=
    congrArg ObservationFields.transfer fields
  have time : record.observedAtNs = source.observedAtNs :=
    congrArg ObservationFields.observedAtNs fields
  obtain ⟨place, start, last, identity, started⟩ :=
    linked.starts source.transfer pending matched.found matched.operation
  constructor
  · exact LastAt.snoc_new record ⟨event, carried⟩
  · exact congrArg ObservationFields.identity fields
  · refine ⟨place, start, last.append [record] (Nat.le_refl _), identity, ?_⟩
    rw [started, time]
    exact matched.later

theorem restored_traced (tables : TableInvariant self) (backed : Backed log)
    (linked : Linked self.pending self.completedRestores self.admissions log)
    (source : CoreTransferCompleted) (pending : CoreTransferSubmitted)
    (receipt : ReceiptIdentity) (record : KVTransferObservation)
    (fields : record.toObservationFields = restoredFields pending source receipt)
    (matched : RestoreMatched self source pending receipt)
    (removed : next.pending = self.pending.erase source.transfer)
    (entered : next.completedRestores =
      if self.retainRestoreReceipts then
        self.completedRestores.insert source.transfer
          { identity := pending.identity
            receipt := receipt
            observedAtNs := source.observedAtNs }
      else self.completedRestores)
    (sameAdmissions : next.admissions = self.admissions) :
    Traced next (log ++ (some record).toList) := by
  have event : record.event = .restoreCompleted := congrArg ObservationFields.event fields
  have carried : record.transfer = some source.transfer :=
    congrArg ObservationFields.transfer fields
  have time : record.observedAtNs = source.observedAtNs :=
    congrArg ObservationFields.observedAtNs fields
  constructor
  · apply backed.snoc record
    · intro other
      rw [event] at other
      cases other
    · intro other
      rw [event] at other
      cases other
  · intro _
    have grown : Linked (self.pending.erase source.transfer) self.completedRestores
        self.admissions (log ++ [record]) := by
      apply (linked.erase_pending source.transfer).snoc record
      · rintro transfer _ ⟨other, _⟩
        rw [event] at other
        cases other
      · rintro transfer member ⟨_, subject⟩
        -- A pending transfer has no completed restore.
        rw [carried] at subject
        cases subject
        exact tables.disjoint _ (Dict.mem_of_lookup matched.found) member
      · rintro identity _ ⟨other | other, _⟩
        · rw [event] at other
          cases other
        · rw [event] at other
          cases other
      · rw [event]
        decide
    rw [removed, entered, sameAdmissions]
    split
    · have restored := restored_at_end linked source pending receipt record fields matched
      exact grown.insert_completed source.transfer _ log.length record restored time (by simp)
    · exact grown

/-- No admission in the log rests on a completion that a new admission finds: it
would be live, and its identity would be the one of the completed restore. -/
theorem completion_unused (tables : TableInvariant self)
    (linked : Linked self.pending self.completedRestores self.admissions log)
    (source : CoreRecoveryAdmitted) (absent : source.identity ∉ self.admissions)
    (backed : source.transfers.val.val.any (self.lacksReceipt source) = false)
    (position place : Nat) (transfer : TransferIdentity) (completion : KVTransferObservation)
    (used : Uses log position place) (member : transfer ∈ source.transfers.val.val) :
    ¬ LastAt (CompletionOf transfer) log log.length place completion := by
  intro current
  obtain ⟨admission, other, earlier, here, event, inside, last⟩ := used
  have same : other = transfer := by
    have subject := last.isKind.2
    have found := last.here
    rw [current.here] at found
    cases found
    rw [current.isKind.2] at subject
    exact (Option.some.inj subject).symm
  subst same
  obtain ⟨completed, lookup, identity, _⟩ :=
    TableInvariant.roster_backed source backed other member
  have agree : completion = earlier := by
    have found := last.here
    rw [current.here] at found
    exact Option.some.inj found
  rw [← agree] at last
  obtain ⟨live, found, contained⟩ := linked.held position admission other place completion here
    event inside last current (Dict.mem_of_lookup lookup)
  obtain ⟨again, lookup_again, identity_again, _⟩ :=
    tables.backed admission.identity live found other contained
  rw [lookup] at lookup_again
  cases lookup_again
  rw [← identity, identity_again] at absent
  exact absent (Dict.mem_of_lookup found)

theorem admitted_traced (tables : TableInvariant self) (backed : Backed log)
    (linked : Linked self.pending self.completedRestores self.admissions log)
    (source : CoreRecoveryAdmitted) (record : KVTransferObservation)
    (fields : record.toObservationFields = admittedFields source)
    (absent : source.identity ∉ self.admissions)
    (receipts : source.transfers.val.val.any (self.lacksReceipt source) = false)
    (samePending : next.pending = self.pending)
    (sameCompleted : next.completedRestores = self.completedRestores)
    (entered : next.admissions = self.admissions.insert source.identity
      { transfers := source.transfers.val, observedAtNs := source.observedAtNs }) :
    Traced next (log ++ (some record).toList) := by
  have event : record.event = .recoveryAdmitted := congrArg ObservationFields.event fields
  have sameIdentity : record.identity = source.identity :=
    congrArg ObservationFields.identity fields
  have roster : record.associatedTransfers = source.transfers.val :=
    congrArg ObservationFields.associatedTransfers fields
  have time : record.observedAtNs = source.observedAtNs :=
    congrArg ObservationFields.observedAtNs fields
  constructor
  · apply backed.snoc record
    · intro _
      constructor
      · intro transfer member
        rw [roster] at member
        obtain ⟨completed, lookup, identity, ordered⟩ :=
          TableInvariant.roster_backed source receipts transfer member
        obtain ⟨place, completion, restored, completed_time⟩ :=
          linked.completions transfer completed lookup
        rw [identity, ← sameIdentity] at restored
        refine ⟨place, completion, restored, ?_⟩
        rw [completed_time, time]
        exact ordered
      · intro position place transfer completion used member
        rw [roster] at member
        exact completion_unused tables linked source absent receipts position place transfer
          completion used member
    · intro other
      rw [event] at other
      cases other
  · intro _
    rw [samePending, sameCompleted, entered]
    exact linked.insert_admission source.identity _ record event sameIdentity roster time absent

theorem computed_traced (backed : Backed log)
    (linked : Linked self.pending self.completedRestores self.admissions log)
    (source : FirstComputeObserved) (record : KVTransferObservation)
    (fields : record.toObservationFields = computedFields source)
    (matched : matchesAdmission (self.admissions.lookup source.identity) source = true)
    (samePending : next.pending = self.pending)
    (consumed : next.completedRestores =
      self.completedRestores.eraseAll source.transfers.val.val)
    (removed : next.admissions = self.admissions.erase source.identity) :
    Traced next (log ++ (some record).toList) := by
  have event : record.event = .firstCompute := congrArg ObservationFields.event fields
  have sameIdentity : record.identity = source.identity :=
    congrArg ObservationFields.identity fields
  have roster : record.associatedTransfers = source.transfers.val :=
    congrArg ObservationFields.associatedTransfers fields
  have time : record.observedAtNs = source.observedAtNs :=
    congrArg ObservationFields.observedAtNs fields
  have received : record.receipt = some source.receipt :=
    congrArg ObservationFields.receipt fields
  obtain ⟨admission, found, same, ordered, scope⟩ := (matches_admission_iff _ source).mp matched
  constructor
  · apply backed.snoc record
    · intro other
      rw [event] at other
      cases other
    · intro _
      obtain ⟨place, admitted, last, admitted_event, admitted_roster, admitted_time⟩ :=
        linked.admitted source.identity admission found
      rw [← sameIdentity] at last
      refine ⟨place, admitted, last, admitted_event, ?_, ?_, source.receipt, received, ?_⟩
      · rw [admitted_roster, same, roster]
      · rw [admitted_time, time]
        exact ordered
      · rw [roster]
        exact scope
  · intro _
    rw [samePending, consumed, removed, ← same]
    apply (linked.consume source.identity admission found).snoc record
    · rintro transfer _ ⟨other, _⟩
      rw [event] at other
      cases other
    · rintro transfer _ ⟨other, _⟩
      rw [event] at other
      cases other
    · rintro identity member ⟨_, equal⟩
      exact (Finmap.mem_erase.mp member).1 (equal.symm.trans sameIdentity)
    · rw [event]
      decide

end Outcomes

theorem outcome_traced (self next : LifecycleNormalizer) (log : Log) (source : SourceObservation)
    (result : Option KVTransferObservation) (tables : TableInvariant self)
    (emitting : Emitting self) (traced : Traced self log)
    (outcome : Outcome self source result next) : Traced next (log ++ result.toList) := by
  obtain ⟨backed, links⟩ := traced
  have linked := links emitting
  cases outcome with
  | refused source reason => exact silent_traced backed fun _ => linked
  | mismatched source mismatch =>
      exact silent_traced backed fun after => absurd after.2 Bool.false_ne_true
  | torn source pending object text found ordered =>
      exact silent_traced backed fun _ => linked.erase_pending source.transfer
  | submissionFull source absent unfinished full =>
      exact silent_traced backed fun after => absurd after.2 Bool.false_ne_true
  | completionFull source pending receipt matched retained full =>
      exact silent_traced backed fun after => absurd after.2 Bool.false_ne_true
  | admissionFull source epoch absent full =>
      exact silent_traced backed fun after => absurd after.2 Bool.false_ne_true
  | started source record fields absent unfinished room =>
      exact started_traced backed linked source record fields absent rfl rfl rfl
  | failed source pending record fields found ordered preserve failure bytes receipt =>
      have event : record.event = .transferFailed := congrArg ObservationFields.event fields
      exact ordinary_traced backed (linked.erase_pending source.transfer) record
        (ordinary_of_event record _ event (by decide))
  | restored source pending receipt record fields matched scope room =>
      exact restored_traced tables backed linked source pending receipt record fields matched
        rfl rfl rfl
  | preserved source pending record fields found operation later success moved receipt =>
      have event : record.event = .preserveCompleted := congrArg ObservationFields.event fields
      exact ordinary_traced backed (linked.erase_pending source.transfer) record
        (ordinary_of_event record _ event (by decide))
  | cancelled source pending reason record fields member found ordered =>
      have event : record.event = .transferCancelled := congrArg ObservationFields.event fields
      exact ordinary_traced backed (linked.erase_pending source.transfer) record
        (ordinary_of_event record _ event (by decide))
  | requeued source record fields epoch =>
      have event : record.event = .recoveryRequeued := congrArg ObservationFields.event fields
      exact ordinary_traced backed linked record
        (ordinary_of_event record _ event (by decide))
  | admitted source record fields epoch absent room receipts =>
      exact admitted_traced tables backed linked source record fields absent receipts rfl rfl rfl
  | computed source record fields epoch matched =>
      exact computed_traced backed linked source record fields matched rfl rfl rfl

theorem step_traced (self : LifecycleNormalizer) (log : Log) (call : Call)
    (tables : TableInvariant self) (traced : Traced self log) :
    Traced (step self call).2 (log ++ (returned (step self call).1).toList) := by
  obtain ⟨result, answer, transition⟩ := step_transition self call
  rw [answer]
  generalize (step self call).2 = next at transition ⊢
  cases transition with
  | afterClose source closed => exact silent_traced traced.1 traced.2
  | afterLoss source opened lost => exact silent_traced traced.1 traced.2
  | handled source result next opened valid outcome =>
      exact outcome_traced self next log source result tables ⟨opened, valid⟩ traced outcome
  | closed =>
      apply silent_traced traced.1
      intro after
      have opened := after.1
      unfold close at opened
      split at opened
      · rename_i closed
        rw [closed] at opened
        cases opened
      · cases opened

theorem backed_nil : Backed [] where
  admissions := by
    intro position admission here
    cases here
  computes := by
    intro position compute here
    cases here
  unshared := by
    intro first second place uses
    exact absurd uses.position_lt (Nat.not_lt_zero first)

theorem linked_empty : Linked ∅ ∅ ∅ [] where
  starts := by
    intro transfer source found
    cases found
  completions := by
    intro transfer completed found
    cases found
  admitted := by
    intro identity admission found
    cases found
  held := by
    intro position record transfer place completion here
    cases here

theorem run_traced (transfers admissions : Nat) (retain : Bool) (calls : List Call) :
    Traced (Machine.finalState step (fresh transfers admissions retain) calls)
      (emitted (fresh transfers admissions retain) calls) := by
  have preserved : ∀ self log call, TableInvariant self ∧ Traced self log →
      TableInvariant (step self call).2 ∧
        Traced (step self call).2 (log ++ (returned (step self call).1).toList) := by
    intro self log call ⟨tables, traced⟩
    exact ⟨tables.step call, step_traced self log call tables traced⟩
  exact (emitted_run (fun self log => TableInvariant self ∧ Traced self log) preserved
    (fresh transfers admissions retain) calls
    ⟨TableInvariant.fresh transfers admissions retain, backed_nil, fun _ => linked_empty⟩).2

/-- Between an admission and the first compute that consumes it there is no other
first compute of the identity. -/
theorem consumes_unique (log : Log) (first second admitted : Nat)
    (one : Consumes log first admitted) (other : Consumes log second admitted) :
    first = second := by
  obtain ⟨compute, admission, here, event, used⟩ := one
  obtain ⟨next, again, there, next_event, used_again⟩ := other
  have same : compute.identity = next.identity := by
    have identity := used.isKind.2
    have found := used.here
    rw [used_again.here] at found
    cases found
    exact identity.symm.trans used_again.isKind.2
  rcases Nat.lt_trichotomy first second with earlier | equal | later
  · exact absurd ⟨Or.inr event, same⟩
      (used_again.last first compute used.before earlier here)
  · exact equal
  · exact absurd ⟨Or.inr next_event, same.symm⟩
      (used.last second next used_again.before later there)

/-- Every emitted first compute consumes an admission of its own identity and
roster that no earlier first compute consumed; the admission rests, transfer by
transfer, on a start and a later completion of the same identity; and no
completion serves two admissions or two first computes. -/
theorem first_compute_backed (transfers admissions : Nat) (retain : Bool) (calls : List Call) :
    let log := emitted (fresh transfers admissions retain) calls
    (∀ position compute, log[position]? = some compute → compute.event = .firstCompute →
      ∃ receipt admitted admission, compute.receipt = some receipt ∧
        LastAt (RecoveryOf compute.identity) log position admitted admission ∧
        admission.event = .recoveryAdmitted ∧
        admission.identity = compute.identity ∧
        admission.associatedTransfers = compute.associatedTransfers ∧
        admission.observedAtNs.val ≤ compute.observedAtNs.val ∧
        ∀ transfer ∈ compute.associatedTransfers.val,
          transfer.processUuid = receipt.processUuid ∧
          ∃ completed completion started start,
            LastAt (CompletionOf transfer) log admitted completed completion ∧
            LastAt (StartOf transfer) log completed started start ∧
            completion.identity = compute.identity ∧ start.identity = compute.identity ∧
            start.observedAtNs.val < completion.observedAtNs.val ∧
            completion.observedAtNs.val ≤ admission.observedAtNs.val) ∧
    (∀ first second completed, Uses log first completed → Uses log second completed →
      first = second) ∧
    (∀ first second one other completed, Consumes log first one → Uses log one completed →
      Consumes log second other → Uses log other completed → first = second) := by
  intro log
  have backed : Backed log := (run_traced transfers admissions retain calls).1
  refine ⟨?_, backed.unshared, ?_⟩
  · intro position compute here event
    obtain ⟨admitted, admission, last, admitted_event, roster, ordered, receipt, received,
      scope⟩ := backed.computes position compute here event
    refine ⟨receipt, admitted, admission, received, last, admitted_event, last.isKind.2, roster,
      ordered, ?_⟩
    intro transfer member
    refine ⟨scope transfer member, ?_⟩
    rw [← roster] at member
    obtain ⟨completed, completion, restored, before⟩ :=
      backed.admissions admitted admission last.here admitted_event transfer member
    obtain ⟨started, start, first, start_identity, later⟩ := restored.started
    have identity := last.isKind.2
    exact ⟨completed, completion, started, start, restored.completed, first,
      restored.sameIdentity.trans identity, start_identity.trans identity, later, before⟩
  · intro first second one other completed consumes uses again uses_again
    have same : one = other := backed.unshared one other completed uses uses_again
    rw [← same] at again
    exact consumes_unique log first second one consumes again

end KVTransferObservability.NormalizerEvidence
