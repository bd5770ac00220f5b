import KVTransferObservability.NormalizerTransitions

/-!
# What the tables of a normalizer always satisfy

The clauses about rosters hold only together: an admission stays backed because
a transfer cannot be submitted again while its completed restore is kept, and a
first compute takes away no other admission's restores because each restore has
one identity.
-/

namespace KVTransferObservability.NormalizerTables

open Library PythonValues Schema Observation Normalization NormalizerTransitions
open LifecycleNormalizer

set_option autoImplicit false

structure TableInvariant (normalizer : LifecycleNormalizer) : Prop where
  pendingBound : normalizer.pending.size ≤ normalizer.maxCorrelatedTransfers
  completedBound : normalizer.completedRestores.size ≤ normalizer.maxCorrelatedTransfers
  admissionBound : normalizer.admissions.size ≤ normalizer.maxRecoveryAdmissions
  disjoint : ∀ transfer ∈ normalizer.pending, transfer ∉ normalizer.completedRestores
  backed : ∀ identity admission, normalizer.admissions.lookup identity = some admission →
    ∀ transfer ∈ admission.transfers.val, ∃ completed,
      normalizer.completedRestores.lookup transfer = some completed ∧
        completed.identity = identity ∧
          completed.observedAtNs.val ≤ admission.observedAtNs.val
  epoch : ∀ identity ∈ normalizer.admissions, identity.recoveryEpoch ≠ none
  workerOnly : normalizer.retainRestoreReceipts = false →
    normalizer.completedRestores = ∅ ∧ normalizer.admissions = ∅

namespace TableInvariant

theorem cleared (transfers admissions : Nat) (retain valid closed : Bool)
    (counters : NormalizationCounters) :
    TableInvariant ⟨transfers, admissions, retain, ∅, ∅, ∅, counters, valid, closed⟩ where
  pendingBound := (Nat.le_of_eq Dict.size_empty).trans (Nat.zero_le _)
  completedBound := (Nat.le_of_eq Dict.size_empty).trans (Nat.zero_le _)
  admissionBound := (Nat.le_of_eq Dict.size_empty).trans (Nat.zero_le _)
  disjoint := by
    intro transfer _
    exact Finmap.notMem_empty
  backed := by
    intro identity admission found
    cases found
  epoch := by
    intro identity member
    exact absurd member Finmap.notMem_empty
  workerOnly := fun _ => ⟨rfl, rfl⟩

theorem fresh (transfers admissions : Nat) (retain : Bool) :
    TableInvariant (NormalizerTransitions.fresh transfers admissions retain) :=
  cleared transfers admissions retain true false {}

variable {self next : LifecycleNormalizer}

/-- Admissions of different identities share no transfer: the completed restore
of a shared one would have both identities. -/
theorem rosters_disjoint (holds : TableInvariant self) (first second : ObservationIdentity)
    (one other : RecoveryAdmission) (found : self.admissions.lookup first = some one)
    (second_found : self.admissions.lookup second = some other) (distinct : first ≠ second) :
    ∀ transfer ∈ one.transfers.val, transfer ∉ other.transfers.val := by
  intro transfer here there
  obtain ⟨completed, lookup, identity, _⟩ := holds.backed first one found transfer here
  obtain ⟨again, lookup_again, identity_again, _⟩ :=
    holds.backed second other second_found transfer there
  rw [lookup] at lookup_again
  cases lookup_again
  exact distinct (identity.symm.trans identity_again)

theorem erase_pending (holds : TableInvariant self) (transfer : TransferIdentity) :
    TableInvariant { self with pending := self.pending.erase transfer } where
  pendingBound := (Dict.size_erase_le self.pending transfer).trans holds.pendingBound
  completedBound := holds.completedBound
  admissionBound := holds.admissionBound
  disjoint := by
    intro other member
    exact holds.disjoint other (Finmap.mem_erase.mp member).2
  backed := holds.backed
  epoch := holds.epoch
  workerOnly := holds.workerOnly

theorem started (holds : TableInvariant self) (source : CoreTransferSubmitted)
    (absent : source.transfer ∉ self.pending)
    (unfinished : source.transfer ∉ self.completedRestores)
    (room : self.pending.size < self.maxCorrelatedTransfers) :
    TableInvariant { self with pending := self.pending.insert source.transfer source } where
  pendingBound := by
    have grown := Dict.size_insert_fresh self.pending source.transfer source absent
    exact (Nat.le_of_eq grown).trans room
  completedBound := holds.completedBound
  admissionBound := holds.admissionBound
  disjoint := by
    intro other member
    rcases Finmap.mem_insert.mp member with same | before
    · rw [same]
      exact unfinished
    · exact holds.disjoint other before
  backed := holds.backed
  epoch := holds.epoch
  workerOnly := holds.workerOnly

/-- A restore completes into a place no live admission looks at: its transfer was
pending, hence not among the completed restores. -/
theorem restored (holds : TableInvariant self) (transfer : TransferIdentity)
    (completed : CompletedRestore) (present : transfer ∈ self.pending)
    (retained : self.retainRestoreReceipts = true)
    (room : self.completedRestores.size < self.maxCorrelatedTransfers) :
    TableInvariant
      { self with
        completedRestores := self.completedRestores.insert transfer completed
        pending := self.pending.erase transfer } where
  pendingBound := (Dict.size_erase_le self.pending transfer).trans holds.pendingBound
  completedBound := by
    have grown := Dict.size_insert_le self.completedRestores transfer completed
    exact grown.trans room
  admissionBound := holds.admissionBound
  disjoint := by
    intro other member restored
    obtain ⟨different, before⟩ := Finmap.mem_erase.mp member
    rcases Finmap.mem_insert.mp restored with same | finished
    · exact different same
    · exact holds.disjoint other before finished
  backed := by
    intro identity admission found other member
    obtain ⟨kept, lookup, facts⟩ := holds.backed identity admission found other member
    have different : other ≠ transfer := by
      rintro rfl
      exact holds.disjoint other present (Dict.mem_of_lookup lookup)
    refine ⟨kept, ?_, facts⟩
    rw [Dict.lookup_insert_ite, if_neg different]
    exact lookup
  epoch := holds.epoch
  workerOnly := by
    intro worker
    rw [retained] at worker
    cases worker

theorem lacks_receipt_false (source : CoreRecoveryAdmitted) (transfer : TransferIdentity)
    (present : self.lacksReceipt source transfer = false) :
    ∃ completed, self.completedRestores.lookup transfer = some completed ∧
      completed.identity = source.identity ∧
        completed.observedAtNs.val ≤ source.observedAtNs.val := by
  unfold lacksReceipt at present
  split at present
  · cases present
  · rename_i completed found
    rw [Bool.or_eq_false_iff] at present
    refine ⟨completed, found, by simpa using present.1, by simpa using present.2⟩

theorem roster_backed (source : CoreRecoveryAdmitted)
    (backed : source.transfers.val.val.any (self.lacksReceipt source) = false) :
    ∀ transfer ∈ source.transfers.val.val, ∃ completed,
      self.completedRestores.lookup transfer = some completed ∧
        completed.identity = source.identity ∧
          completed.observedAtNs.val ≤ source.observedAtNs.val := by
  intro transfer member
  apply lacks_receipt_false source transfer
  have every := List.any_eq_false.mp backed transfer member
  simpa using every

theorem admitted (holds : TableInvariant self) (source : CoreRecoveryAdmitted)
    (epoch : source.identity.recoveryEpoch ≠ none)
    (absent : source.identity ∉ self.admissions)
    (room : self.admissions.size < self.maxRecoveryAdmissions)
    (backed : source.transfers.val.val.any (self.lacksReceipt source) = false) :
    TableInvariant
      { self with
        admissions := self.admissions.insert source.identity
          { transfers := source.transfers.val, observedAtNs := source.observedAtNs } } where
  pendingBound := holds.pendingBound
  completedBound := holds.completedBound
  admissionBound := by
    have grown := Dict.size_insert_fresh self.admissions source.identity
      { transfers := source.transfers.val, observedAtNs := source.observedAtNs } absent
    exact (Nat.le_of_eq grown).trans room
  disjoint := holds.disjoint
  backed := by
    intro identity admission found transfer member
    simp only [Dict.lookup_insert_ite] at found
    split at found
    · rename_i same
      cases found
      rw [same]
      exact roster_backed source backed transfer member
    · exact holds.backed identity admission found transfer member
  epoch := by
    intro identity member
    rcases Finmap.mem_insert.mp member with same | before
    · rw [same]
      exact epoch
    · exact holds.epoch identity before
  workerOnly := by
    intro worker
    -- A nonempty roster needs a completed restore, and none is kept.
    obtain ⟨transfer, member⟩ := List.exists_mem_of_ne_nil _ source.transfers.property
    obtain ⟨completed, found, _⟩ := roster_backed source backed transfer member
    rw [(holds.workerOnly worker).1] at found
    cases found

/-- The restores a first compute takes away belong to its own identity. -/
theorem computed (holds : TableInvariant self) (identity : ObservationIdentity)
    (consumed : RecoveryAdmission)
    (found : self.admissions.lookup identity = some consumed) :
    TableInvariant
      { self with
        admissions := self.admissions.erase identity
        completedRestores := self.completedRestores.eraseAll consumed.transfers.val } where
  pendingBound := holds.pendingBound
  completedBound := (Dict.size_erase_all_le _ _).trans holds.completedBound
  admissionBound := (Dict.size_erase_le _ _).trans holds.admissionBound
  disjoint := by
    intro transfer member finished
    obtain ⟨completed, lookup⟩ := Dict.lookup_of_mem finished
    rw [Dict.lookup_erase_all] at lookup
    split at lookup
    · cases lookup
    · exact holds.disjoint transfer member (Dict.mem_of_lookup lookup)
  backed := by
    intro other admission kept transfer member
    simp only [Dict.lookup_erase_ite] at kept
    split at kept
    · cases kept
    · rename_i different
      obtain ⟨completed, lookup, facts⟩ := holds.backed other admission kept transfer member
      have outside : transfer ∉ consumed.transfers.val :=
        holds.rosters_disjoint other identity admission consumed kept found different
          transfer member
      refine ⟨completed, ?_, facts⟩
      rw [Dict.lookup_erase_all, if_neg outside]
      exact lookup
  epoch := by
    intro other member
    exact holds.epoch other (Finmap.mem_erase.mp member).2
  workerOnly := by
    intro worker
    rw [(holds.workerOnly worker).2] at found
    cases found

/-- Counters and flags do not matter. -/
theorem frame (holds : TableInvariant self)
    (settings : next.maxCorrelatedTransfers = self.maxCorrelatedTransfers ∧
      next.maxRecoveryAdmissions = self.maxRecoveryAdmissions ∧
        next.retainRestoreReceipts = self.retainRestoreReceipts)
    (tables : next.pending = self.pending ∧
      next.completedRestores = self.completedRestores ∧ next.admissions = self.admissions) :
    TableInvariant next := by
  obtain ⟨transfers, admissions, retain⟩ := settings
  obtain ⟨pending, completed, admitted⟩ := tables
  constructor
  · rw [pending, transfers]
    exact holds.pendingBound
  · rw [completed, transfers]
    exact holds.completedBound
  · rw [admitted, admissions]
    exact holds.admissionBound
  · rw [pending, completed]
    exact holds.disjoint
  · rw [admitted, completed]
    exact holds.backed
  · rw [admitted]
    exact holds.epoch
  · rw [retain, completed, admitted]
    exact holds.workerOnly

theorem outcome (holds : TableInvariant self) (source : SourceObservation)
    (result : Option KVTransferObservation) (handled : Outcome self source result next) :
    TableInvariant next := by
  cases handled with
  | refused source reason => exact holds.frame ⟨rfl, rfl, rfl⟩ ⟨rfl, rfl, rfl⟩
  | mismatched source mismatch => exact holds.frame ⟨rfl, rfl, rfl⟩ ⟨rfl, rfl, rfl⟩
  | torn source pending object text found ordered =>
      exact (holds.erase_pending source.transfer).frame ⟨rfl, rfl, rfl⟩ ⟨rfl, rfl, rfl⟩
  | submissionFull source absent unfinished full =>
      exact holds.frame ⟨rfl, rfl, rfl⟩ ⟨rfl, rfl, rfl⟩
  | completionFull source pending receipt matched retained full =>
      exact (holds.erase_pending source.transfer).frame ⟨rfl, rfl, rfl⟩ ⟨rfl, rfl, rfl⟩
  | admissionFull source epoch absent full =>
      exact holds.frame ⟨rfl, rfl, rfl⟩ ⟨rfl, rfl, rfl⟩
  | started source record fields absent unfinished room =>
      exact (holds.started source absent unfinished room).frame ⟨rfl, rfl, rfl⟩ ⟨rfl, rfl, rfl⟩
  | failed source pending record fields found ordered preserve failure bytes receipt =>
      exact (holds.erase_pending source.transfer).frame ⟨rfl, rfl, rfl⟩ ⟨rfl, rfl, rfl⟩
  | restored source pending receipt record fields matched scope room =>
      have present := Dict.mem_of_lookup matched.found
      by_cases retained : self.retainRestoreReceipts = true
      · have tables := holds.restored source.transfer
          { identity := pending.identity
            receipt := receipt
            observedAtNs := source.observedAtNs } present retained (room retained)
        exact tables.frame ⟨rfl, rfl, rfl⟩ ⟨rfl, if_pos retained, rfl⟩
      · exact (holds.erase_pending source.transfer).frame
          ⟨rfl, rfl, rfl⟩ ⟨rfl, if_neg retained, rfl⟩
  | preserved source pending record fields found operation later success moved receipt =>
      exact (holds.erase_pending source.transfer).frame ⟨rfl, rfl, rfl⟩ ⟨rfl, rfl, rfl⟩
  | cancelled source pending reason record fields member found ordered =>
      exact (holds.erase_pending source.transfer).frame ⟨rfl, rfl, rfl⟩ ⟨rfl, rfl, rfl⟩
  | requeued source record fields epoch => exact holds.frame ⟨rfl, rfl, rfl⟩ ⟨rfl, rfl, rfl⟩
  | admitted source record fields epoch absent room backed =>
      exact (holds.admitted source epoch absent room backed).frame
        ⟨rfl, rfl, rfl⟩ ⟨rfl, rfl, rfl⟩
  | computed source record fields epoch matched =>
      obtain ⟨consumed, found, roster, ordered, scope⟩ :=
        (matches_admission_iff _ source).mp matched
      have tables := holds.computed source.identity consumed found
      rw [roster] at tables
      exact tables.frame ⟨rfl, rfl, rfl⟩ ⟨rfl, rfl, rfl⟩

theorem close (holds : TableInvariant self) : TableInvariant self.close := by
  unfold LifecycleNormalizer.close
  split
  · exact holds
  · exact cleared _ _ _ _ _ _

theorem step (holds : TableInvariant self) (call : Call) :
    TableInvariant (NormalizerTransitions.step self call).2 := by
  obtain ⟨result, _, transition⟩ := step_transition self call
  generalize (NormalizerTransitions.step self call).2 = next at transition ⊢
  cases transition with
  | afterClose source closed => exact holds.frame ⟨rfl, rfl, rfl⟩ ⟨rfl, rfl, rfl⟩
  | afterLoss source opened lost => exact holds.frame ⟨rfl, rfl, rfl⟩ ⟨rfl, rfl, rfl⟩
  | handled source result next opened valid handled =>
      exact holds.outcome source result handled
  | closed => exact holds.close

end TableInvariant

theorem reachable_invariant (transfers admissions : Nat) (retain : Bool) (calls : List Call) :
    TableInvariant (Machine.finalState step (fresh transfers admissions retain) calls) :=
  Machine.invariant_run step TableInvariant (fun _ call holds => holds.step call)
    (fresh transfers admissions retain) calls (TableInvariant.fresh transfers admissions retain)

/-- In every reachable state the tables stay within their bounds, pending and
completed transfers are apart, and every admission rests on completed restores
of its own identity which it shares with no other admission. -/
theorem reachable_tables (transfers admissions : Nat) (retain : Bool) (calls : List Call) :
    let reached := Machine.finalState step (fresh transfers admissions retain) calls
    reached.pending.size ≤ transfers ∧
    reached.completedRestores.size ≤ transfers ∧
    reached.admissions.size ≤ admissions ∧
    (∀ transfer ∈ reached.pending, transfer ∉ reached.completedRestores) ∧
    (∀ identity admission, reached.admissions.lookup identity = some admission →
      ∀ transfer ∈ admission.transfers.val, ∃ completed,
        reached.completedRestores.lookup transfer = some completed ∧
          completed.identity = identity ∧
            completed.observedAtNs.val ≤ admission.observedAtNs.val) ∧
    (∀ first second one other, reached.admissions.lookup first = some one →
      reached.admissions.lookup second = some other → first ≠ second →
        ∀ transfer ∈ one.transfers.val, transfer ∉ other.transfers.val) ∧
    (∀ identity ∈ reached.admissions, identity.recoveryEpoch ≠ none) ∧
    (retain = false → reached.completedRestores = ∅ ∧ reached.admissions = ∅) := by
  intro reached
  have holds : TableInvariant reached := reachable_invariant transfers admissions retain calls
  have settings : Settings reached transfers admissions retain :=
    run_settings transfers admissions retain calls
  have pending := holds.pendingBound
  have completed := holds.completedBound
  have admitted := holds.admissionBound
  have worker := holds.workerOnly
  rw [settings.transfers] at pending completed
  rw [settings.admissions] at admitted
  rw [settings.retain] at worker
  exact ⟨pending, completed, admitted, holds.disjoint, holds.backed,
    fun first second one other here there distinct =>
      holds.rosters_disjoint first second one other here there distinct,
    holds.epoch, worker⟩

end KVTransferObservability.NormalizerTables
