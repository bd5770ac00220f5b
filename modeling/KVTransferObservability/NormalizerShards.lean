import KVTransferObservability.Library.Restriction
import KVTransferObservability.NormalizerHistory
import KVTransferObservability.NormalizerTables

/-!
# A normalizer for a part of the stream

One normalizer serves every request, rank and worker of a process. Its tables fall
apart into those of the parts: a normalizer that only receives what one part
contributes keeps the restriction of each table, and returns the records of that part
and no others. The parts share nothing but the capacities.
-/

namespace KVTransferObservability.NormalizerShards

open Library PythonValues Schema Observation Normalization
open NormalizerRecords NormalizerTransitions NormalizerRejection NormalizerTables NormalizerHistory
open LifecycleNormalizer

set_option autoImplicit false

/-- The identities of a part, and whether their preserve transfers belong to it. -/
structure Shard where
  identities : ObservationIdentity → Bool
  preserves : Bool

namespace Shard

def holds (self : Shard) (identity : ObservationIdentity)
    (direction : Option TransferDirection) : Bool :=
  self.identities identity && (self.preserves || direction != some .d2h)

def selects (self : Shard) (record : KVTransferObservation) : Bool :=
  self.holds record.identity record.direction

def keepsPending (self : Shard) (_ : TransferIdentity) (source : CoreTransferSubmitted) : Prop :=
  self.holds source.identity (some source.operation.direction) = true

def keepsCompleted (self : Shard) (_ : TransferIdentity) (completed : CompletedRestore) : Prop :=
  self.identities completed.identity = true

def keepsAdmission (self : Shard) (identity : ObservationIdentity) (_ : RecoveryAdmission) :
    Prop :=
  self.identities identity = true

variable (shard : Shard)

theorem selects_fields (record : KVTransferObservation) (fields : ObservationFields)
    (same : record.toObservationFields = fields) :
    shard.selects record = shard.holds fields.identity fields.direction := by
  rw [← same]
  rfl

theorem holds_identities (identity : ObservationIdentity)
    (direction : Option TransferDirection) (held : shard.holds identity direction = true) :
    shard.identities identity = true :=
  (Bool.and_eq_true_iff.mp held).1

/-- Only the records of preserve transfers depend on more than the identity. -/
theorem selects_identity (record : KVTransferObservation) (fields : ObservationFields)
    (same : record.toObservationFields = fields) (other : fields.direction ≠ some .d2h) :
    shard.selects record = shard.identities fields.identity := by
  rw [shard.selects_fields record fields same]
  simp [holds, other]

end Shard

/-- The part keeps the entries of the whole that belong to it, with no less room. -/
structure Projects (shard : Shard) (whole part : LifecycleNormalizer) : Prop where
  opened : part.closed = false
  valid : part.evidenceValid = true
  retain : part.retainRestoreReceipts = whole.retainRestoreReceipts
  transfers : whole.maxCorrelatedTransfers ≤ part.maxCorrelatedTransfers
  recoveries : whole.maxRecoveryAdmissions ≤ part.maxRecoveryAdmissions
  pending : Restricts shard.keepsPending whole.pending part.pending
  completed : Restricts shard.keepsCompleted whole.completedRestores part.completedRestores
  admissions : Restricts shard.keepsAdmission whole.admissions part.admissions

theorem projects_fresh (shard : Shard) (transfers admissions wider broader : Nat) (retain : Bool)
    (enough : transfers ≤ wider) (plenty : admissions ≤ broader) :
    Projects shard (fresh transfers admissions retain) (fresh wider broader retain) where
  opened := rfl
  valid := rfl
  retain := rfl
  transfers := enough
  recoveries := plenty
  pending := Restricts.empty _
  completed := Restricts.empty _
  admissions := Restricts.empty _

section Steps

variable {shard : Shard} {whole part next : LifecycleNormalizer}
variable (projects : Projects shard whole part)
include projects

theorem Projects.emitting : Emitting part := ⟨projects.opened, projects.valid⟩

theorem room_pending (room : whole.pending.size < whole.maxCorrelatedTransfers) :
    part.pending.size < part.maxCorrelatedTransfers := by
  have smaller := projects.pending.size_le
  have larger := projects.transfers
  omega

theorem room_completed (room : whole.retainRestoreReceipts = true →
      whole.completedRestores.size < whole.maxCorrelatedTransfers)
    (retained : part.retainRestoreReceipts = true) :
    part.completedRestores.size < part.maxCorrelatedTransfers := by
  have here := room (projects.retain.symm.trans retained)
  have smaller := projects.completed.size_le
  have larger := projects.transfers
  omega

theorem room_admissions (room : whole.admissions.size < whole.maxRecoveryAdmissions) :
    part.admissions.size < part.maxRecoveryAdmissions := by
  have smaller := projects.admissions.size_le
  have larger := projects.recoveries
  omega

/-! ## Records of the part -/

theorem started_selected (source : CoreTransferSubmitted) (record : KVTransferObservation)
    (fields : record.toObservationFields = startedFields source)
    (fresh : source.transfer ∉ whole.pending)
    (unfinished : source.transfer ∉ whole.completedRestores)
    (room : whole.pending.size < whole.maxCorrelatedTransfers)
    (selected : shard.selects record = true) :
    ∃ after, Outcome part (.submitted source) (some record) after ∧
      Projects shard
        (countAccepted { whole with pending := whole.pending.insert source.transfer source })
        after := by
  rw [shard.selects_fields record _ fields] at selected
  refine ⟨_, .started source record fields (projects.pending.absent fresh)
    (projects.completed.absent unfinished) (room_pending projects room), ?_⟩
  exact ⟨projects.opened, projects.valid, projects.retain, projects.transfers,
    projects.recoveries, projects.pending.insert_kept _ source selected, projects.completed,
    projects.admissions⟩

theorem erased_projects (transfer : TransferIdentity) :
    Projects shard (countAccepted { whole with pending := whole.pending.erase transfer })
      (countAccepted { part with pending := part.pending.erase transfer }) :=
  ⟨projects.opened, projects.valid, projects.retain, projects.transfers, projects.recoveries,
    projects.pending.erase_kept transfer, projects.completed, projects.admissions⟩

/-- A pending transfer whose terminal record belongs to the part is pending there. -/
theorem pending_selected (transfer : TransferIdentity) (pending : CoreTransferSubmitted)
    (record : KVTransferObservation)
    (found : whole.pending.lookup transfer = some pending)
    (identity : record.identity = pending.identity)
    (direction : record.direction = some pending.operation.direction)
    (selected : shard.selects record = true) :
    part.pending.lookup transfer = some pending := by
  apply projects.pending.found found
  unfold Shard.selects at selected
  rw [identity, direction] at selected
  exact selected

theorem restored_selected (source : CoreTransferCompleted) (pending : CoreTransferSubmitted)
    (receipt : ReceiptIdentity) (record : KVTransferObservation)
    (fields : record.toObservationFields = restoredFields pending source receipt)
    (matched : RestoreMatched whole source pending receipt)
    (scope : receipt.processUuid = source.transfer.processUuid)
    (room : whole.retainRestoreReceipts = true →
      whole.completedRestores.size < whole.maxCorrelatedTransfers)
    (selected : shard.selects record = true) :
    ∃ after, Outcome part (.completed source) (some record) after ∧
      Projects shard
        (countAccepted
          { whole with
            completedRestores :=
              if whole.retainRestoreReceipts then
                whole.completedRestores.insert source.transfer
                  { identity := pending.identity
                    receipt := receipt
                    observedAtNs := source.observedAtNs }
              else whole.completedRestores
            pending := whole.pending.erase source.transfer })
        after := by
  have direction : record.direction = some pending.operation.direction := by
    rw [matched.operation]
    exact congrArg ObservationFields.direction fields
  have found := pending_selected projects source.transfer pending record matched.found
    (congrArg ObservationFields.identity fields) direction selected
  rw [shard.selects_fields record _ fields] at selected
  refine ⟨_, .restored source pending receipt record fields
    ⟨found, matched.operation, matched.later, matched.success, matched.moved, matched.received⟩
    scope (room_completed projects room), ?_⟩
  refine ⟨projects.opened, projects.valid, projects.retain, projects.transfers,
    projects.recoveries, projects.pending.erase_kept source.transfer, ?_, projects.admissions⟩
  dsimp only [countAccepted]
  rw [projects.retain]
  split
  · exact projects.completed.insert_kept _ _ (shard.holds_identities _ _ selected)
  · exact projects.completed

theorem backed_selected (source : CoreRecoveryAdmitted)
    (kept : shard.identities source.identity = true)
    (backed : source.transfers.val.val.any (whole.lacksReceipt source) = false) :
    source.transfers.val.val.any (part.lacksReceipt source) = false := by
  rw [List.any_eq_false]
  intro transfer member
  obtain ⟨completed, found, own, ordered⟩ :=
    TableInvariant.roster_backed source backed transfer member
  have here : part.completedRestores.lookup transfer = some completed := by
    apply projects.completed.found found
    rw [Shard.keepsCompleted, own]
    exact kept
  have inOrder : completed.observedAtNs ≤ source.observedAtNs := ordered
  simp [lacksReceipt, here, own, inOrder]

theorem admitted_selected (source : CoreRecoveryAdmitted) (record : KVTransferObservation)
    (fields : record.toObservationFields = admittedFields source)
    (epoch : source.identity.recoveryEpoch ≠ none)
    (fresh : source.identity ∉ whole.admissions)
    (room : whole.admissions.size < whole.maxRecoveryAdmissions)
    (backed : source.transfers.val.val.any (whole.lacksReceipt source) = false)
    (selected : shard.selects record = true) :
    ∃ after, Outcome part (.admitted source) (some record) after ∧
      Projects shard
        (countAccepted
          { whole with
            admissions := whole.admissions.insert source.identity
              { transfers := source.transfers.val, observedAtNs := source.observedAtNs } })
        after := by
  rw [shard.selects_fields record _ fields] at selected
  have kept := shard.holds_identities _ _ selected
  refine ⟨_, .admitted source record fields epoch (projects.admissions.absent fresh)
    (room_admissions projects room) (backed_selected projects source kept backed), ?_⟩
  exact ⟨projects.opened, projects.valid, projects.retain, projects.transfers,
    projects.recoveries, projects.pending, projects.completed,
    projects.admissions.insert_kept _ _ kept⟩

theorem matches_selected (source : FirstComputeObserved)
    (kept : shard.identities source.identity = true)
    (matched : matchesAdmission (whole.admissions.lookup source.identity) source = true) :
    matchesAdmission (part.admissions.lookup source.identity) source = true := by
  obtain ⟨admission, found, facts⟩ := (matches_admission_iff _ source).mp matched
  exact (matches_admission_iff _ source).mpr
    ⟨admission, projects.admissions.found found kept, facts⟩

theorem computed_selected (source : FirstComputeObserved) (record : KVTransferObservation)
    (fields : record.toObservationFields = computedFields source)
    (epoch : source.identity.recoveryEpoch ≠ none)
    (matched : matchesAdmission (whole.admissions.lookup source.identity) source = true)
    (selected : shard.selects record = true) :
    ∃ after, Outcome part (.firstCompute source) (some record) after ∧
      Projects shard
        (countAccepted
          { whole with
            admissions := whole.admissions.erase source.identity
            completedRestores := whole.completedRestores.eraseAll source.transfers.val.val })
        after := by
  rw [shard.selects_fields record _ fields] at selected
  refine ⟨_, .computed source record fields epoch
    (matches_selected projects source (shard.holds_identities _ _ selected) matched), ?_⟩
  exact ⟨projects.opened, projects.valid, projects.retain, projects.transfers,
    projects.recoveries, projects.pending,
    projects.completed.erase_all_kept source.transfers.val.val,
    projects.admissions.erase_kept source.identity⟩

/-- A record of the part is returned by the part as well. -/
theorem selected_outcome (source : SourceObservation) (record : KVTransferObservation)
    (outcome : Outcome whole source (some record) next)
    (selected : shard.selects record = true) :
    ∃ after, Outcome part source (some record) after ∧ Projects shard next after := by
  cases outcome with
  | started source record fields fresh unfinished room =>
      exact started_selected projects source record fields fresh unfinished room selected
  | failed source pending record fields found ordered preserve failure bytes receipt =>
      have here := pending_selected projects source.transfer pending record found
        (congrArg ObservationFields.identity fields)
        (congrArg ObservationFields.direction fields) selected
      exact ⟨_, .failed source pending record fields here ordered preserve failure bytes receipt,
        erased_projects projects source.transfer⟩
  | restored source pending receipt record fields matched scope room =>
      exact restored_selected projects source pending receipt record fields matched scope room
        selected
  | preserved source pending record fields found operation later success moved receipt =>
      have direction : record.direction = some pending.operation.direction := by
        rw [operation]
        exact congrArg ObservationFields.direction fields
      have here := pending_selected projects source.transfer pending record found
        (congrArg ObservationFields.identity fields) direction selected
      exact ⟨_, .preserved source pending record fields here operation later success moved receipt,
        erased_projects projects source.transfer⟩
  | cancelled source pending reason record fields member found ordered =>
      have here := pending_selected projects source.transfer pending record found
        (congrArg ObservationFields.identity fields)
        (congrArg ObservationFields.direction fields) selected
      exact ⟨_, .cancelled source pending reason record fields member here ordered,
        erased_projects projects source.transfer⟩
  | requeued source record fields epoch =>
      exact ⟨_, .requeued source record fields epoch, projects.opened, projects.valid,
        projects.retain, projects.transfers, projects.recoveries, projects.pending,
        projects.completed, projects.admissions⟩
  | admitted source record fields epoch fresh room backed =>
      exact admitted_selected projects source record fields epoch fresh room backed selected
  | computed source record fields epoch matched =>
      exact computed_selected projects source record fields epoch matched selected

/-! ## Everything else -/

/-- A transfer whose terminal record belongs elsewhere is not pending in the part. -/
theorem pending_unselected (transfer : TransferIdentity) (pending : CoreTransferSubmitted)
    (record : KVTransferObservation)
    (found : whole.pending.lookup transfer = some pending)
    (identity : record.identity = pending.identity)
    (direction : record.direction = some pending.operation.direction)
    (other : shard.selects record = false) : transfer ∉ part.pending := by
  apply projects.pending.dropped found
  unfold Shard.selects at other
  rw [identity, direction] at other
  rw [Shard.keepsPending, other]
  exact Bool.false_ne_true

theorem erased_unselected (transfer : TransferIdentity) (missing : transfer ∉ part.pending) :
    Projects shard (countAccepted { whole with pending := whole.pending.erase transfer }) part :=
  ⟨projects.opened, projects.valid, projects.retain, projects.transfers, projects.recoveries,
    projects.pending.erase_dropped transfer missing, projects.completed, projects.admissions⟩

theorem restored_unselected (tables : TableInvariant whole) (source : CoreTransferCompleted)
    (pending : CoreTransferSubmitted) (receipt : ReceiptIdentity)
    (record : KVTransferObservation)
    (fields : record.toObservationFields = restoredFields pending source receipt)
    (matched : RestoreMatched whole source pending receipt)
    (other : shard.selects record = false) :
    Projects shard
      (countAccepted
        { whole with
          completedRestores :=
            if whole.retainRestoreReceipts then
              whole.completedRestores.insert source.transfer
                { identity := pending.identity
                  receipt := receipt
                  observedAtNs := source.observedAtNs }
            else whole.completedRestores
          pending := whole.pending.erase source.transfer })
      part := by
  have direction : record.direction = some pending.operation.direction := by
    rw [matched.operation]
    exact congrArg ObservationFields.direction fields
  have missing := pending_unselected projects source.transfer pending record matched.found
    (congrArg ObservationFields.identity fields) direction other
  have apart : shard.identities pending.identity = false :=
    (shard.selects_identity record _ fields (by intro same; cases same)).symm.trans other
  refine ⟨projects.opened, projects.valid, projects.retain, projects.transfers,
    projects.recoveries, projects.pending.erase_dropped source.transfer missing, ?_,
    projects.admissions⟩
  dsimp only [countAccepted]
  split
  · apply projects.completed.insert_dropped
    · exact tables.disjoint _ (Dict.mem_of_lookup matched.found)
    · intro kept
      exact Bool.false_ne_true (apart.symm.trans kept)
  · exact projects.completed

theorem computed_unselected (tables : TableInvariant whole) (source : FirstComputeObserved)
    (record : KVTransferObservation)
    (fields : record.toObservationFields = computedFields source)
    (matched : matchesAdmission (whole.admissions.lookup source.identity) source = true)
    (other : shard.selects record = false) :
    Projects shard
      (countAccepted
        { whole with
          admissions := whole.admissions.erase source.identity
          completedRestores := whole.completedRestores.eraseAll source.transfers.val.val })
      part := by
  have apart : shard.identities source.identity = false :=
    (shard.selects_identity record _ fields (by intro same; cases same)).symm.trans other
  have unkept : ¬ shard.identities source.identity = true := by
    rw [apart]
    exact Bool.false_ne_true
  obtain ⟨admission, found, roster, _⟩ := (matches_admission_iff _ source).mp matched
  refine ⟨projects.opened, projects.valid, projects.retain, projects.transfers,
    projects.recoveries, projects.pending, ?_, ?_⟩
  · apply projects.completed.erase_all_dropped
    intro transfer member
    rw [← roster] at member
    -- The restores an admission rests on belong to the episode it admits.
    obtain ⟨completed, lookup, own, _⟩ := tables.backed source.identity admission found transfer
      member
    apply projects.completed.dropped lookup
    rw [Shard.keepsCompleted, own]
    exact unkept
  · exact projects.admissions.erase_dropped _ (projects.admissions.dropped found unkept)

/-- Whatever else happens to the whole leaves the part as it is. -/
theorem unselected_outcome (tables : TableInvariant whole) (source : SourceObservation)
    (result : Option KVTransferObservation) (outcome : Outcome whole source result next)
    (spared : Spared whole (.normalize source)) (emitting : Emitting whole)
    (after : Emitting next) (other : ∀ record ∈ result, shard.selects record = false) :
    Projects shard next part := by
  have same : ∀ normalizer : LifecycleNormalizer, SameTables whole normalizer →
      Settings normalizer whole.maxCorrelatedTransfers whole.maxRecoveryAdmissions
        whole.retainRestoreReceipts → Projects shard normalizer part := by
    intro normalizer tables settings
    exact ⟨projects.opened, projects.valid, by rw [settings.retain]; exact projects.retain,
      by rw [settings.transfers]; exact projects.transfers,
      by rw [settings.admissions]; exact projects.recoveries,
      by rw [tables.pending]; exact projects.pending,
      by rw [tables.completedRestores]; exact projects.completed,
      by rw [tables.admissions]; exact projects.admissions⟩
  cases outcome with
  | refused source reason => exact same _ ⟨rfl, rfl, rfl⟩ ⟨rfl, rfl, rfl⟩
  | mismatched source mismatch => exact absurd after.2 Bool.false_ne_true
  | torn source pending object text found ordered =>
      refine absurd ⟨emitting.1, emitting.2, ?_, pending, found, ordered⟩ spared
      intro reason typed
      rw [text] at typed
      cases typed
  | submissionFull source fresh unfinished full => exact absurd after.2 Bool.false_ne_true
  | completionFull source pending receipt matched retained full =>
      exact absurd after.2 Bool.false_ne_true
  | admissionFull source epoch fresh full => exact absurd after.2 Bool.false_ne_true
  | started source record fields fresh unfinished room =>
      have apart := other record rfl
      rw [shard.selects_fields record _ fields] at apart
      have unkept : ¬ shard.keepsPending source.transfer source := by
        intro kept
        exact Bool.false_ne_true (apart.symm.trans kept)
      exact ⟨projects.opened, projects.valid, projects.retain, projects.transfers,
        projects.recoveries, projects.pending.insert_dropped _ source fresh unkept,
        projects.completed, projects.admissions⟩
  | failed source pending record fields found ordered preserve failure bytes receipt =>
      exact erased_unselected projects source.transfer
        (pending_unselected projects source.transfer pending record found
          (congrArg ObservationFields.identity fields)
          (congrArg ObservationFields.direction fields) (other record rfl))
  | restored source pending receipt record fields matched scope room =>
      exact restored_unselected projects tables source pending receipt record fields matched
        (other record rfl)
  | preserved source pending record fields found operation later success moved receipt =>
      have direction : record.direction = some pending.operation.direction := by
        rw [operation]
        exact congrArg ObservationFields.direction fields
      exact erased_unselected projects source.transfer
        (pending_unselected projects source.transfer pending record found
          (congrArg ObservationFields.identity fields) direction (other record rfl))
  | cancelled source pending reason record fields member found ordered =>
      exact erased_unselected projects source.transfer
        (pending_unselected projects source.transfer pending record found
          (congrArg ObservationFields.identity fields)
          (congrArg ObservationFields.direction fields) (other record rfl))
  | requeued source record fields epoch => exact same _ ⟨rfl, rfl, rfl⟩ ⟨rfl, rfl, rfl⟩
  | admitted source record fields epoch fresh room backed =>
      have apart : shard.identities source.identity = false :=
        (shard.selects_identity record _ fields (by intro same; cases same)).symm.trans
          (other record rfl)
      have unkept : ¬ shard.keepsAdmission source.identity
          { transfers := source.transfers.val, observedAtNs := source.observedAtNs } := by
        intro kept
        exact Bool.false_ne_true (apart.symm.trans kept)
      exact ⟨projects.opened, projects.valid, projects.retain, projects.transfers,
        projects.recoveries, projects.pending, projects.completed,
        projects.admissions.insert_dropped _ _ fresh unkept⟩
  | computed source record fields epoch matched =>
      exact computed_unselected projects tables source record fields matched (other record rfl)

end Steps

/-! ## Runs -/

/-- As long as the whole returns records at all, the part keeps its restriction. -/
structure Tracks (shard : Shard) (whole part : LifecycleNormalizer) : Prop where
  tables : TableInvariant whole
  projects : Emitting whole → Projects shard whole part

section Calls

variable {shard : Shard} {whole part : LifecycleNormalizer}
variable (tracks : Tracks shard whole part) (call : Call)
include tracks

theorem step_unselected (spared : Spared whole call)
    (other : ∀ record ∈ returned (step whole call).1, shard.selects record = false) :
    Tracks shard (step whole call).2 part := by
  have tables := tracks.tables.step call
  obtain ⟨result, answer, transition⟩ := step_transition whole call
  rw [answer] at other
  generalize (step whole call).2 = next at transition tables ⊢
  refine ⟨tables, ?_⟩
  intro after
  cases transition with
  | afterClose source closed => exact Bool.noConfusion (closed.symm.trans after.1)
  | afterLoss source opened lost => exact Bool.noConfusion (lost.symm.trans after.2)
  | handled source result next opened valid outcome =>
      exact unselected_outcome (tracks.projects ⟨opened, valid⟩) tracks.tables source result
        outcome spared ⟨opened, valid⟩ after other
  | closed =>
      have opened := after.1
      unfold close at opened
      split at opened
      · rename_i closed
        rw [closed] at opened
        cases opened
      · cases opened

end Calls

theorem emitted_cons (self : LifecycleNormalizer) (call : Call) (calls : List Call) :
    emitted self (call :: calls) =
      (returned (step self call).1).toList ++ emitted (step self call).2 calls := by
  rw [emitted, Machine.outputs, List.filterMap_cons]
  cases returned (step self call).1 with
  | none => rfl
  | some record => rfl

def sampleRestore : List Call :=
  [.normalize (.submitted (sampleSubmission ⟨10, time_ten⟩)),
    .normalize (.completed (sampleCompletion ⟨20, time_twenty⟩))]

end KVTransferObservability.NormalizerShards
