import KVTransferObservability.NormalizerTransitions

/-!
# A normalizer next to one that never runs out of room

The two take the same steps until the bounded one drops an observation for
capacity. The dropped observation is one the roomy normalizer accepts, unless a
check that comes after the capacity check would have rejected it: the process
scope of a restore receipt, or the roster of an admission.
-/

namespace KVTransferObservability.NormalizerCapacity

open Library PythonValues Schema Observation Normalization NormalizerTransitions
open LifecycleNormalizer

set_option autoImplicit false

/-- The same normalizer under other capacities. -/
def widen (self : LifecycleNormalizer) (transfers admissions : Nat) : LifecycleNormalizer :=
  { self with
    maxCorrelatedTransfers := transfers
    maxRecoveryAdmissions := admissions }

/-- No table is full. -/
structure Roomy (normalizer : LifecycleNormalizer) : Prop where
  pending : normalizer.pending.size < normalizer.maxCorrelatedTransfers
  completed : normalizer.completedRestores.size < normalizer.maxCorrelatedTransfers
  admissions : normalizer.admissions.size < normalizer.maxRecoveryAdmissions

def dropped (self : LifecycleNormalizer) : Nat := self.counterValues.capacityDropped

/-- An observation that meets a full table although a later check rejects it. -/
inductive Misjudged (self : LifecycleNormalizer) : Call → Prop
  | completion (source : CoreTransferCompleted) (pending : CoreTransferSubmitted)
      (receipt : ReceiptIdentity) (opened : self.closed = false)
      (valid : self.evidenceValid = true)
      (matched : RestoreMatched self source pending receipt)
      (retained : self.retainRestoreReceipts = true)
      (full : self.maxCorrelatedTransfers ≤ self.completedRestores.size)
      (foreign : receipt.processUuid ≠ source.transfer.processUuid) :
      Misjudged self (.normalize (.completed source))
  | admission (source : CoreRecoveryAdmitted) (opened : self.closed = false)
      (valid : self.evidenceValid = true) (epoch : source.identity.recoveryEpoch ≠ none)
      (absent : source.identity ∉ self.admissions)
      (full : self.maxRecoveryAdmissions ≤ self.admissions.size)
      (lacking : source.transfers.val.val.any (self.lacksReceipt source) = true) :
      Misjudged self (.normalize (.admitted source))

/-! ## Steps without a capacity drop -/

section Widening

variable {self next : LifecycleNormalizer} {transfers admissions : Nat}

theorem restore_matched_widen {source : CoreTransferCompleted} {pending : CoreTransferSubmitted}
    {receipt : ReceiptIdentity} (matched : RestoreMatched self source pending receipt) :
    RestoreMatched (widen self transfers admissions) source pending receipt :=
  ⟨matched.found, matched.operation, matched.later, matched.success, matched.moved,
    matched.received⟩

theorem refused_widen (roomy : Roomy (widen self transfers admissions))
    (source : SourceObservation) (reason : Refused self source) :
    Refused (widen self transfers admissions) source := by
  cases reason with
  | duplicate source known => exact .duplicate source known
  | unmatchedCompletion source unmatched => exact .unmatchedCompletion source unmatched
  | instantPreserve source pending found operation instant =>
      exact .instantPreserve source pending found operation instant
  | failureEvidence source failure evidence => exact .failureEvidence source failure evidence
  | missingBytes source success missing => exact .missingBytes source success missing
  | restoreReceipt source pending found operation success early =>
      exact .restoreReceipt source pending found operation success early
  | foreignReceipt source pending receipt found operation success received foreign room =>
      exact .foreignReceipt source pending receipt found operation success received foreign
        fun _ => roomy.completed
  | preserveReceipt source pending found operation success received =>
      exact .preserveReceipt source pending found operation success received
  | unmatchedCancellation source unmatched => exact .unmatchedCancellation source unmatched
  | requeueEpoch source epoch => exact .requeueEpoch source epoch
  | admissionEpoch source epoch => exact .admissionEpoch source epoch
  | duplicateAdmission source known => exact .duplicateAdmission source known
  | lackingReceipt source room lacking => exact .lackingReceipt source roomy.admissions lacking
  | computeEpoch source epoch matched => exact .computeEpoch source epoch matched
  | unsupported => exact .unsupported

/-- An outcome that counts no drop is an outcome of the roomy normalizer too. -/
theorem outcome_widen (roomy : Roomy (widen self transfers admissions))
    (source : SourceObservation) (result : Option KVTransferObservation)
    (outcome : Outcome self source result next) (kept : dropped next = dropped self) :
    Outcome (widen self transfers admissions) source result
      (widen next transfers admissions) := by
  cases outcome with
  | refused source reason => exact .refused source (refused_widen roomy source reason)
  | mismatched source mismatch => exact .mismatched source mismatch
  | torn source pending object text found ordered =>
      exact .torn source pending object text found ordered
  | submissionFull source absent unfinished full => exact absurd kept (Nat.succ_ne_self _)
  | completionFull source pending receipt matched retained full =>
      exact absurd kept (Nat.succ_ne_self _)
  | admissionFull source epoch absent full => exact absurd kept (Nat.succ_ne_self _)
  | started source record fields absent unfinished room =>
      exact .started source record fields absent unfinished roomy.pending
  | failed source pending record fields found ordered preserve failure bytes receipt =>
      exact .failed source pending record fields found ordered preserve failure bytes receipt
  | restored source pending receipt record fields matched scope room =>
      exact .restored source pending receipt record fields (restore_matched_widen matched) scope
        fun _ => roomy.completed
  | preserved source pending record fields found operation later success moved receipt =>
      exact .preserved source pending record fields found operation later success moved receipt
  | cancelled source pending reason record fields member found ordered =>
      exact .cancelled source pending reason record fields member found ordered
  | requeued source record fields epoch => exact .requeued source record fields epoch
  | admitted source record fields epoch absent room backed =>
      exact .admitted source record fields epoch absent roomy.admissions backed
  | computed source record fields epoch matched =>
      exact .computed source record fields epoch matched

theorem normalize_outcome (source : SourceObservation) (result : Option KVTransferObservation)
    (opened : self.closed = false) (valid : self.evidenceValid = true)
    (outcome : Outcome self source result next) :
    step self (.normalize source) = (.ok result, next) := by
  show self.normalize source = _
  rw [normalize_handled self source opened valid, outcome_handled self source result next outcome]

theorem step_widen (roomy : Roomy (widen self transfers admissions)) (call : Call)
    (kept : dropped (step self call).2 = dropped self) :
    step (widen self transfers admissions) call =
      ((step self call).1, widen (step self call).2 transfers admissions) := by
  obtain ⟨result, answer, transition⟩ := step_transition self call
  rw [answer]
  generalize (step self call).2 = next at transition kept ⊢
  cases transition with
  | afterClose source closed =>
      show (widen self transfers admissions).normalize source = _
      have alsoClosed : (widen self transfers admissions).closed = true := closed
      simp only [LifecycleNormalizer.normalize, alsoClosed, if_true]
      rfl
  | afterLoss source opened lost =>
      show (widen self transfers admissions).normalize source = _
      have alsoOpened : (widen self transfers admissions).closed = false := opened
      have alsoLost : (widen self transfers admissions).evidenceValid = false := lost
      simp only [LifecycleNormalizer.normalize, alsoOpened, alsoLost]
      rfl
  | handled source result next opened valid outcome =>
      exact normalize_outcome source result opened valid
        (outcome_widen roomy source result outcome kept)
  | closed =>
      show (Except.ok none, (widen self transfers admissions).close) = _
      unfold close
      cases closed : self.closed with
      | true =>
          have alsoClosed : (widen self transfers admissions).closed = true := closed
          rw [if_pos alsoClosed, if_pos rfl]
      | false =>
          have alsoOpened : ¬ (widen self transfers admissions).closed = true := by
            rw [Bool.not_eq_true]
            exact closed
          rw [if_neg alsoOpened, if_neg Bool.false_ne_true]
          rfl

/-! ## The step that drops -/

/-- The roomy normalizer accepts the dropped observation unless it was misjudged. -/
theorem drop_accepted (roomy : Roomy (widen self transfers admissions))
    (source : SourceObservation) (result : Option KVTransferObservation)
    (opened : self.closed = false) (valid : self.evidenceValid = true)
    (outcome : Outcome self source result next) (counted : dropped next ≠ dropped self) :
    (∃ record, (step (widen self transfers admissions) (.normalize source)).1 =
      .ok (some record)) ↔ ¬ Misjudged self (.normalize source) := by
  have alsoOpened : (widen self transfers admissions).closed = false := opened
  have alsoValid : (widen self transfers admissions).evidenceValid = true := valid
  cases outcome with
  | submissionFull source absent unfinished full =>
      have accepted : Outcome (widen self transfers admissions) (.submitted source) _ _ :=
        .started source { NormalizerRecords.startedFields source with
          shape := NormalizerRecords.started_shape source } rfl absent unfinished roomy.pending
      constructor
      · rintro _ misjudged
        cases misjudged
      · intro _
        rw [normalize_outcome (.submitted source) _ alsoOpened alsoValid accepted]
        exact ⟨_, rfl⟩
  | completionFull source pending receipt matched retained full =>
      by_cases scope : receipt.processUuid = source.transfer.processUuid
      · have accepted : Outcome (widen self transfers admissions) (.completed source) _ _ :=
          .restored source pending receipt
            { NormalizerRecords.restoredFields pending source receipt with
              shape := NormalizerRecords.restored_shape pending source receipt matched.moved
                scope } rfl (restore_matched_widen matched) scope fun _ => roomy.completed
        constructor
        · rintro _ misjudged
          cases misjudged with
          | completion source other found opened valid again retained full foreign =>
              have same := again.received
              rw [matched.received] at same
              cases same
              exact foreign scope
        · intro _
          rw [normalize_outcome (.completed source) _ alsoOpened alsoValid accepted]
          exact ⟨_, rfl⟩
      · have refused : Outcome (widen self transfers admissions) (.completed source) _ _ :=
          .refused _ (.foreignReceipt source pending receipt matched.found matched.operation
            matched.success matched.received scope fun _ => roomy.completed)
        constructor
        · rintro ⟨record, answer⟩
          rw [normalize_outcome (.completed source) _ alsoOpened alsoValid refused] at answer
          cases answer
        · intro judged
          exact absurd (.completion source pending receipt opened valid matched retained full
            scope) judged
  | admissionFull source epoch absent full =>
      cases lacking : source.transfers.val.val.any (self.lacksReceipt source) with
      | false =>
          have accepted : Outcome (widen self transfers admissions) (.admitted source) _ _ :=
            .admitted source { NormalizerRecords.admittedFields source with
              shape := NormalizerRecords.admitted_shape source epoch } rfl epoch absent
              roomy.admissions lacking
          constructor
          · rintro _ misjudged
            cases misjudged with
            | admission source opened valid epoch absent full again =>
                rw [lacking] at again
                cases again
          · intro _
            rw [normalize_outcome (.admitted source) _ alsoOpened alsoValid accepted]
            exact ⟨_, rfl⟩
      | true =>
          have refused : Outcome (widen self transfers admissions) (.admitted source) _ _ :=
            .refused _ (.lackingReceipt source roomy.admissions lacking)
          constructor
          · rintro ⟨record, answer⟩
            rw [normalize_outcome (.admitted source) _ alsoOpened alsoValid refused] at answer
            cases answer
          · intro judged
            exact absurd (.admission source opened valid epoch absent full lacking) judged
  | _ => exact absurd rfl counted

/-- A misjudged observation is one the bounded normalizer drops. -/
theorem misjudged_dropped (call : Call) (misjudged : Misjudged self call) :
    dropped (step self call).2 ≠ dropped self := by
  cases misjudged with
  | completion source pending receipt opened valid matched retained full foreign =>
      rw [normalize_outcome (.completed source) _ opened valid
        (.completionFull source pending receipt matched retained full)]
      exact Nat.succ_ne_self _
  | admission source opened valid epoch absent full lacking =>
      rw [normalize_outcome (.admitted source) _ opened valid
        (.admissionFull source epoch absent full)]
      exact Nat.succ_ne_self _

end Widening

/-! ## Runs -/

theorem outcome_dropped (self next : LifecycleNormalizer) (source : SourceObservation)
    (result : Option KVTransferObservation) (outcome : Outcome self source result next) :
    dropped self ≤ dropped next ∧ (next.evidenceValid = true → dropped next = dropped self) := by
  cases outcome with
  | submissionFull source absent unfinished full =>
      exact ⟨Nat.le_succ _, fun valid => absurd valid Bool.false_ne_true⟩
  | completionFull source pending receipt matched retained full =>
      exact ⟨Nat.le_succ _, fun valid => absurd valid Bool.false_ne_true⟩
  | admissionFull source epoch absent full =>
      exact ⟨Nat.le_succ _, fun valid => absurd valid Bool.false_ne_true⟩
  | _ => exact ⟨Nat.le_refl _, fun _ => rfl⟩

theorem step_dropped (self : LifecycleNormalizer) (call : Call) :
    dropped self ≤ dropped (step self call).2 ∧
      ((step self call).2.evidenceValid = true → self.evidenceValid = true ∧
        dropped (step self call).2 = dropped self) := by
  obtain ⟨result, answer, transition⟩ := step_transition self call
  generalize (step self call).2 = next at transition ⊢
  cases transition with
  | afterClose source closed => exact ⟨Nat.le_refl _, fun valid => ⟨valid, rfl⟩⟩
  | afterLoss source opened lost => exact ⟨Nat.le_refl _, fun valid => ⟨valid, rfl⟩⟩
  | handled source result next opened valid outcome =>
      obtain ⟨grown, kept⟩ := outcome_dropped self next source result outcome
      exact ⟨grown, fun after => ⟨valid, kept after⟩⟩
  | closed =>
      unfold close
      split <;> exact ⟨Nat.le_refl _, fun valid => ⟨valid, rfl⟩⟩

theorem run_dropped (self : LifecycleNormalizer) (calls : List Call) :
    dropped self ≤ dropped (Machine.finalState step self calls) :=
  Machine.invariant_run step (fun reached => dropped self ≤ dropped reached)
    (fun reached call before => before.trans (step_dropped reached call).1) self calls
    (Nat.le_refl _)

/-- Evidence is valid only while nothing was dropped. -/
theorem run_valid (transfers admissions : Nat) (retain : Bool) (calls : List Call)
    (valid : (Machine.finalState step (fresh transfers admissions retain) calls).evidenceValid =
      true) :
    dropped (Machine.finalState step (fresh transfers admissions retain) calls) = 0 := by
  have invariant := Machine.invariant_run step
    (fun reached => reached.evidenceValid = true → dropped reached = 0)
    (by
      intro reached call before after
      obtain ⟨valid, same⟩ := (step_dropped reached call).2 after
      rw [same]
      exact before valid)
    (fresh transfers admissions retain) calls (fun _ => rfl)
  exact invariant valid

/-- Until the first drop the roomy run goes through the same states. -/
theorem run_widen (self : LifecycleNormalizer) (transfers admissions : Nat) (calls : List Call)
    (roomy : Machine.Along step (fun reached _ => Roomy reached)
      (widen self transfers admissions) calls)
    (kept : dropped (Machine.finalState step self calls) = dropped self) :
    Machine.finalState step (widen self transfers admissions) calls =
      widen (Machine.finalState step self calls) transfers admissions := by
  induction calls generalizing self with
  | nil => rfl
  | cons call calls induction =>
      have first := (step_dropped self call).1
      have rest := run_dropped (step self call).2 calls
      rw [Machine.final_state_cons] at kept
      have now : dropped (step self call).2 = dropped self := by omega
      have moved := step_widen roomy.1 call now
      have later := roomy.2
      rw [moved] at later
      rw [Machine.final_state_cons, Machine.final_state_cons, moved]
      exact induction (step self call).2 later (by omega)

/-- While nothing has been dropped the two answer alike, and what the bounded one
now drops the other one accepts with a record. -/
def Agrees (bounded unbounded : LifecycleNormalizer) (call : Call) : Prop :=
  dropped bounded = 0 →
    if dropped (step bounded call).2 = 0 then (step bounded call).1 = (step unbounded call).1
    else ∃ record, (step unbounded call).1 = .ok (some record)

theorem agrees_iff (self : LifecycleNormalizer) (transfers admissions : Nat) (call : Call)
    (roomy : Roomy (widen self transfers admissions)) (clean : dropped self = 0) :
    Agrees self (widen self transfers admissions) call ↔ ¬ Misjudged self call := by
  constructor
  · intro agrees misjudged
    have counted := misjudged_dropped call misjudged
    rw [clean] at counted
    have accepted := agrees clean
    rw [if_neg counted] at accepted
    have same := misjudged
    cases misjudged with
    | completion source pending receipt opened valid matched retained full foreign =>
        exact (drop_accepted roomy _ _ opened valid
          (.completionFull source pending receipt matched retained full)
          (Nat.succ_ne_self _)).mp accepted same
    | admission source opened valid epoch absent full lacking =>
        exact (drop_accepted roomy _ _ opened valid (.admissionFull source epoch absent full)
          (Nat.succ_ne_self _)).mp accepted same
  · intro judged _
    by_cases kept : dropped (step self call).2 = 0
    · rw [if_pos kept, step_widen roomy call (kept.trans clean.symm)]
    · rw [if_neg kept]
      rw [← clean] at kept
      obtain ⟨result, answer, transition⟩ := step_transition self call
      generalize (step self call).2 = next at transition kept
      cases transition with
      | handled source result next opened valid outcome =>
          exact (drop_accepted roomy source result opened valid outcome kept).mpr judged
      | afterClose source closed => exact absurd rfl kept
      | afterLoss source opened lost => exact absurd rfl kept
      | closed =>
          unfold close at kept
          split at kept <;> exact absurd rfl kept

/-- The bounded normalizer agrees with one whose tables never fill, up to its
first capacity drop and in what that drop costs, exactly when no observation of
the run is misjudged at a full table. -/
theorem capacity_costs_valid_iff_none_misjudged (transfers admissions roomyTransfers
    roomyAdmissions : Nat) (retain : Bool) (calls : List Call)
    (roomy : Machine.Along step (fun reached _ => Roomy reached)
      (fresh roomyTransfers roomyAdmissions retain) calls) :
    (∀ before call after, calls = before ++ call :: after →
      Agrees (Machine.finalState step (fresh transfers admissions retain) before)
        (Machine.finalState step (fresh roomyTransfers roomyAdmissions retain) before) call) ↔
      Machine.Along step (fun reached call => ¬ Misjudged reached call)
        (fresh transfers admissions retain) calls := by
  rw [Machine.along_iff]
  apply forall_congr'
  intro before
  apply forall_congr'
  intro call
  apply forall_congr'
  intro after
  apply imp_congr_right
  intro split
  rw [split, Machine.along_append] at roomy
  generalize reached_eq :
    Machine.finalState step (fresh transfers admissions retain) before = reached
  by_cases clean : dropped reached = 0
  · have initially : dropped (fresh transfers admissions retain) = 0 := rfl
    have same := run_widen (fresh transfers admissions retain) roomyTransfers roomyAdmissions
      before roomy.1 (by rw [reached_eq, clean, initially])
    rw [reached_eq] at same
    change Machine.finalState step (fresh roomyTransfers roomyAdmissions retain) before =
      _ at same
    have room := roomy.2.1
    rw [same] at room ⊢
    exact agrees_iff reached roomyTransfers roomyAdmissions call room clean
  · constructor
    · intro _ misjudged
      -- After a drop the evidence is invalid, so nothing is judged any more.
      have valid : reached.evidenceValid = true := by
        cases misjudged <;> assumption
      rw [← reached_eq] at valid clean
      exact clean (run_valid transfers admissions retain before valid)
    · intro _ still
      exact absurd still clean

/-- A restore that is submitted, completed and admitted. -/
def admittedRestore : List Call :=
  [.normalize (.submitted (sampleSubmission ⟨10, time_ten⟩)),
    .normalize (.completed (sampleCompletion ⟨20, time_twenty⟩)),
    .normalize (.admitted (sampleAdmission sampleIdentity ⟨30, time_thirty⟩))]

theorem capacity_costs_valid_admitted_restore :
    (∀ before call after, admittedRestore = before ++ call :: after →
      Agrees (Machine.finalState step (fresh 1 1 true) before)
        (Machine.finalState step (fresh 4 4 true) before) call) ↔
      Machine.Along step (fun reached call => ¬ Misjudged reached call)
        (fresh 1 1 true) admittedRestore := by
  have roomy : Machine.Along step (fun reached _ => Roomy reached) (fresh 4 4 true)
      admittedRestore :=
    ⟨⟨by decide, by decide, by decide⟩, ⟨by decide, by decide, by decide⟩,
      ⟨by decide, by decide, by decide⟩, trivial⟩
  exact capacity_costs_valid_iff_none_misjudged 1 1 4 4 true admittedRestore roomy

/-- Another epoch of the request, admitted on the same restore. -/
def repeatedAdmission : Call :=
  .normalize (.admitted (sampleAdmission
    { sampleIdentity with recoveryEpoch := some ⟨2, by decide⟩ } ⟨40, time_forty⟩))

/-- With one admission live and room for one, an admission of another epoch that
lacks its receipt disables the evidence; with room for more it is invalid. -/
theorem unbacked_admission_drops_for_capacity :
    let calls := admittedRestore ++ [repeatedAdmission]
    Machine.Along step (fun reached _ => Roomy reached) (fresh 4 4 true) calls ∧
      ¬ ∀ before call after, calls = before ++ call :: after →
        Agrees (Machine.finalState step (fresh 1 1 true) before)
          (Machine.finalState step (fresh 4 4 true) before) call := by
  intro calls
  constructor
  · exact ⟨⟨by decide, by decide, by decide⟩, ⟨by decide, by decide, by decide⟩,
      ⟨by decide, by decide, by decide⟩, ⟨by decide, by decide, by decide⟩, trivial⟩
  · intro every
    have agrees := every admittedRestore repeatedAdmission [] rfl rfl
    have counted : ¬ dropped (step (Machine.finalState step (fresh 1 1 true) admittedRestore)
        repeatedAdmission).2 = 0 := by
      decide
    rw [if_neg counted] at agrees
    obtain ⟨record, answer⟩ := agrees
    have rejected : (step (Machine.finalState step (fresh 4 4 true) admittedRestore)
        repeatedAdmission).1 = .ok none := rfl
    rw [rejected] at answer
    cases answer

end KVTransferObservability.NormalizerCapacity
