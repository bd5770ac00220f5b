import KVTransferObservability.NormalizerRecords

/-!
# What one call of the normalizer can do

`Outcome` lists every way an observation is answered, with the guards it passed,
the record returned and the tables left behind; `outcome_iff` says that the list
and the handlers agree. Invariants are proved from the list, so a change of a
handler is met here and nowhere else.
-/

namespace KVTransferObservability.NormalizerTransitions

open Library PythonValues Schema Observation Normalization NormalizerRecords
open LifecycleNormalizer

set_option autoImplicit false

/-! ## Outcomes of a handled observation -/

/-- The call has left the tables as they were. -/
structure SameTables (before after : LifecycleNormalizer) : Prop where
  pending : after.pending = before.pending
  completedRestores : after.completedRestores = before.completedRestores
  admissions : after.admissions = before.admissions

/-- Why an observation is rejected with nothing changed. -/
inductive Refused (self : LifecycleNormalizer) : SourceObservation → Prop
  | duplicate (source : CoreTransferSubmitted)
      (known : source.transfer ∈ self.pending ∨ source.transfer ∈ self.completedRestores) :
      Refused self (.submitted source)
  | unmatchedCompletion (source : CoreTransferCompleted)
      (unmatched : ∀ pending, self.pending.lookup source.transfer = some pending →
        source.observedAtNs.val < pending.observedAtNs.val) :
      Refused self (.completed source)
  | instantPreserve (source : CoreTransferCompleted) (pending : CoreTransferSubmitted)
      (found : self.pending.lookup source.transfer = some pending)
      (operation : pending.operation = .d2hPreserve)
      (instant : source.observedAtNs.val = pending.observedAtNs.val) :
      Refused self (.completed source)
  | failureEvidence (source : CoreTransferCompleted) (failure : source.success = false)
      (evidence : source.bytesMoved ≠ none ∨ source.receipt ≠ none) :
      Refused self (.completed source)
  | missingBytes (source : CoreTransferCompleted) (success : source.success = true)
      (missing : source.bytesMoved = none) :
      Refused self (.completed source)
  | restoreReceipt (source : CoreTransferCompleted) (pending : CoreTransferSubmitted)
      (found : self.pending.lookup source.transfer = some pending)
      (operation : pending.operation = .h2dRestore) (success : source.success = true)
      (early : source.receipt = none ∨
        source.observedAtNs.val = pending.observedAtNs.val) :
      Refused self (.completed source)
  | foreignReceipt (source : CoreTransferCompleted) (pending : CoreTransferSubmitted)
      (receipt : ReceiptIdentity)
      (found : self.pending.lookup source.transfer = some pending)
      (operation : pending.operation = .h2dRestore) (success : source.success = true)
      (received : source.receipt = some receipt)
      (foreign : receipt.processUuid ≠ source.transfer.processUuid)
      (room : self.retainRestoreReceipts = true →
        self.completedRestores.size < self.maxCorrelatedTransfers) :
      Refused self (.completed source)
  | preserveReceipt (source : CoreTransferCompleted) (pending : CoreTransferSubmitted)
      (found : self.pending.lookup source.transfer = some pending)
      (operation : pending.operation = .d2hPreserve) (success : source.success = true)
      (received : source.receipt ≠ none) :
      Refused self (.completed source)
  | unmatchedCancellation (source : CoreTransferCancelled)
      (unmatched : ∀ pending, self.pending.lookup source.transfer = some pending →
        source.observedAtNs.val < pending.observedAtNs.val) :
      Refused self (.cancelled source)
  | requeueEpoch (source : CoreRecoveryRequeued)
      (epoch : source.identity.recoveryEpoch = none) :
      Refused self (.requeued source)
  | admissionEpoch (source : CoreRecoveryAdmitted)
      (epoch : source.identity.recoveryEpoch = none) :
      Refused self (.admitted source)
  | duplicateAdmission (source : CoreRecoveryAdmitted)
      (known : source.identity ∈ self.admissions) :
      Refused self (.admitted source)
  | lackingReceipt (source : CoreRecoveryAdmitted)
      (room : self.admissions.size < self.maxRecoveryAdmissions)
      (lacking : source.transfers.val.val.any (self.lacksReceipt source) = true) :
      Refused self (.admitted source)
  | computeEpoch (source : FirstComputeObserved)
      (epoch : source.identity.recoveryEpoch = none)
      (matched : matchesAdmission (self.admissions.lookup source.identity) source = true) :
      Refused self (.firstCompute source)
  | unsupported : Refused self .unsupported

/-- What a completion of a restore must offer before its capacity is looked at. -/
structure RestoreMatched (normalizer : LifecycleNormalizer) (source : CoreTransferCompleted)
    (pending : CoreTransferSubmitted) (receipt : ReceiptIdentity) : Prop where
  found : normalizer.pending.lookup source.transfer = some pending
  operation : pending.operation = .h2dRestore
  later : pending.observedAtNs.val < source.observedAtNs.val
  success : source.success = true
  moved : source.bytesMoved ≠ none
  received : source.receipt = some receipt

/-- Every way an open normalizer with valid evidence answers an observation: the
record it returns and the object it leaves. -/
inductive Outcome (self : LifecycleNormalizer) :
    SourceObservation → Option KVTransferObservation → LifecycleNormalizer → Prop
  | refused (source : SourceObservation) (reason : Refused self source) :
      Outcome self source none self.countInvalid
  | mismatched (source : FirstComputeObserved)
      (mismatch : matchesAdmission (self.admissions.lookup source.identity) source = false) :
      Outcome self (.firstCompute source) none
        (LifecycleNormalizer.countInvalid { self with evidenceValid := false })
  | torn (source : CoreTransferCancelled) (pending : CoreTransferSubmitted)
      (object : PyObject) (text : source.reason = .other object)
      (found : self.pending.lookup source.transfer = some pending)
      (ordered : pending.observedAtNs.val ≤ source.observedAtNs.val) :
      Outcome self (.cancelled source) none
        (LifecycleNormalizer.countInvalid
          { self with pending := self.pending.erase source.transfer })
  | submissionFull (source : CoreTransferSubmitted)
      (fresh : source.transfer ∉ self.pending)
      (unfinished : source.transfer ∉ self.completedRestores)
      (full : self.maxCorrelatedTransfers ≤ self.pending.size) :
      Outcome self (.submitted source) none self.disableForCapacity
  | completionFull (source : CoreTransferCompleted) (pending : CoreTransferSubmitted)
      (receipt : ReceiptIdentity) (matched : RestoreMatched self source pending receipt)
      (retained : self.retainRestoreReceipts = true)
      (full : self.maxCorrelatedTransfers ≤ self.completedRestores.size) :
      Outcome self (.completed source) none
        (disableForCapacity { self with pending := self.pending.erase source.transfer })
  | admissionFull (source : CoreRecoveryAdmitted)
      (epoch : source.identity.recoveryEpoch ≠ none)
      (fresh : source.identity ∉ self.admissions)
      (full : self.maxRecoveryAdmissions ≤ self.admissions.size) :
      Outcome self (.admitted source) none self.disableForCapacity
  | started (source : CoreTransferSubmitted) (record : KVTransferObservation)
      (fields : record.toObservationFields = startedFields source)
      (fresh : source.transfer ∉ self.pending)
      (unfinished : source.transfer ∉ self.completedRestores)
      (room : self.pending.size < self.maxCorrelatedTransfers) :
      Outcome self (.submitted source) (some record)
        (LifecycleNormalizer.countAccepted
          { self with pending := self.pending.insert source.transfer source })
  | failed (source : CoreTransferCompleted) (pending : CoreTransferSubmitted)
      (record : KVTransferObservation)
      (fields : record.toObservationFields = failedFields pending source)
      (found : self.pending.lookup source.transfer = some pending)
      (ordered : pending.observedAtNs.val ≤ source.observedAtNs.val)
      (preserve : pending.operation = .d2hPreserve →
        pending.observedAtNs.val ≠ source.observedAtNs.val)
      (failure : source.success = false) (bytes : source.bytesMoved = none)
      (receipt : source.receipt = none) :
      Outcome self (.completed source) (some record)
        (LifecycleNormalizer.countAccepted
          { self with pending := self.pending.erase source.transfer })
  | restored (source : CoreTransferCompleted) (pending : CoreTransferSubmitted)
      (receipt : ReceiptIdentity) (record : KVTransferObservation)
      (fields : record.toObservationFields = restoredFields pending source receipt)
      (matched : RestoreMatched self source pending receipt)
      (scope : receipt.processUuid = source.transfer.processUuid)
      (room : self.retainRestoreReceipts = true →
        self.completedRestores.size < self.maxCorrelatedTransfers) :
      Outcome self (.completed source) (some record)
        (LifecycleNormalizer.countAccepted
          { self with
            completedRestores :=
              if self.retainRestoreReceipts then
                self.completedRestores.insert source.transfer
                  { identity := pending.identity
                    receipt := receipt
                    observedAtNs := source.observedAtNs }
              else self.completedRestores
            pending := self.pending.erase source.transfer })
  | preserved (source : CoreTransferCompleted) (pending : CoreTransferSubmitted)
      (record : KVTransferObservation)
      (fields : record.toObservationFields = preservedFields pending source)
      (found : self.pending.lookup source.transfer = some pending)
      (operation : pending.operation = .d2hPreserve)
      (later : pending.observedAtNs.val < source.observedAtNs.val)
      (success : source.success = true) (moved : source.bytesMoved ≠ none)
      (receipt : source.receipt = none) :
      Outcome self (.completed source) (some record)
        (LifecycleNormalizer.countAccepted
          { self with pending := self.pending.erase source.transfer })
  | cancelled (source : CoreTransferCancelled) (pending : CoreTransferSubmitted)
      (reason : TransferTerminalReason) (record : KVTransferObservation)
      (fields : record.toObservationFields = cancelledFields pending source reason)
      (member : source.reason = .typed reason)
      (found : self.pending.lookup source.transfer = some pending)
      (ordered : pending.observedAtNs.val ≤ source.observedAtNs.val) :
      Outcome self (.cancelled source) (some record)
        (LifecycleNormalizer.countAccepted
          { self with pending := self.pending.erase source.transfer })
  | requeued (source : CoreRecoveryRequeued) (record : KVTransferObservation)
      (fields : record.toObservationFields = requeuedFields source)
      (epoch : source.identity.recoveryEpoch ≠ none) :
      Outcome self (.requeued source) (some record) self.countAccepted
  | admitted (source : CoreRecoveryAdmitted) (record : KVTransferObservation)
      (fields : record.toObservationFields = admittedFields source)
      (epoch : source.identity.recoveryEpoch ≠ none)
      (fresh : source.identity ∉ self.admissions)
      (room : self.admissions.size < self.maxRecoveryAdmissions)
      (backed : source.transfers.val.val.any (self.lacksReceipt source) = false) :
      Outcome self (.admitted source) (some record)
        (LifecycleNormalizer.countAccepted
          { self with
            admissions := self.admissions.insert source.identity
              { transfers := source.transfers.val, observedAtNs := source.observedAtNs } })
  | computed (source : FirstComputeObserved) (record : KVTransferObservation)
      (fields : record.toObservationFields = computedFields source)
      (epoch : source.identity.recoveryEpoch ≠ none)
      (matched : matchesAdmission (self.admissions.lookup source.identity) source = true) :
      Outcome self (.firstCompute source) (some record)
        (LifecycleNormalizer.countAccepted
          { self with
            admissions := self.admissions.erase source.identity
            completedRestores := self.completedRestores.eraseAll source.transfers.val.val })

theorem settle_invalid (message : String) (next : LifecycleNormalizer) :
    settle (invalid message, next) = (.ok none, next.countInvalid) := rfl

theorem emit_record (record : KVTransferObservation) :
    emit record.toObservationFields.arguments = .ok (some record) :=
  emit_shape record.toObservationFields record.shape

theorem settle_emit (record : KVTransferObservation) (fields : ObservationFields)
    (same : record.toObservationFields = fields) (next : LifecycleNormalizer) :
    settle (emit fields.arguments, next) = (.ok (some record), next.countAccepted) := by
  rw [← same, emit_record]
  rfl

theorem settle_unshaped (fields : ObservationFields)
    (unshaped : validateEventShape fields ≠ .ok ()) (next : LifecycleNormalizer) :
    settle (emit fields.arguments, next) = (.ok none, next.countInvalid) := by
  obtain ⟨message, raised⟩ := emit_unshaped fields unshaped
  rw [raised]
  rfl

section Emitted

variable (fields : ObservationFields) (self : LifecycleNormalizer)
variable (proceed : Option KVTransferObservation → Attempt)

/-- A handler goes on with the record it has made, -/
theorem settle_made (record : KVTransferObservation)
    (same : record.toObservationFields = fields) :
    settle (match emit fields.arguments with
      | .error error => (.error error, self)
      | .ok result => proceed result) = settle (proceed (some record)) := by
  rw [← same, emit_record]

/-- and stops if there is none to be made. -/
theorem settle_unmade (unshaped : validateEventShape fields ≠ .ok ()) :
    settle (match emit fields.arguments with
      | .error error => (.error error, self)
      | .ok result => proceed result) = (.ok none, self.countInvalid) := by
  obtain ⟨message, raised⟩ := emit_unshaped fields unshaped
  rw [raised]
  rfl

end Emitted

theorem transfer_completed_matched (self : LifecycleNormalizer)
    (source : CoreTransferCompleted) (pending : CoreTransferSubmitted)
    (found : self.pending.lookup source.transfer = some pending)
    (ordered : pending.observedAtNs.val ≤ source.observedAtNs.val)
    (preserve : pending.operation = .d2hPreserve →
      source.observedAtNs.val ≠ pending.observedAtNs.val)
    (success : source.success = true) (moved : source.bytesMoved ≠ none) :
    self.transferCompleted source = self.transferSucceeded pending source
      (source.observedAtNs.val - pending.observedAtNs.val) := by
  unfold transferCompleted
  simp only [found]
  rw [if_neg (by omega), if_neg (fun same => preserve same.1 same.2),
    if_neg (by simp [success]), if_neg moved]

theorem restore_matched_completed (self : LifecycleNormalizer)
    (source : CoreTransferCompleted) (pending : CoreTransferSubmitted)
    (receipt : ReceiptIdentity) (matched : RestoreMatched self source pending receipt) :
    self.transferCompleted source = self.transferSucceeded pending source
      (source.observedAtNs.val - pending.observedAtNs.val) := by
  have preserve : pending.operation = .d2hPreserve →
      source.observedAtNs.val ≠ pending.observedAtNs.val := by
    intro operation
    rw [matched.operation] at operation
    cases operation
  exact transfer_completed_matched self source pending matched.found
    (Nat.le_of_lt matched.later) preserve matched.success matched.moved

/-- A successful completion is rejected unchanged when its last stage rejects it:
the checks before that stage can only reject it earlier. -/
theorem success_refused (self : LifecycleNormalizer) (source : CoreTransferCompleted)
    (pending : CoreTransferSubmitted)
    (found : self.pending.lookup source.transfer = some pending)
    (success : source.success = true)
    (refused : pending.observedAtNs.val ≤ source.observedAtNs.val →
      settle (self.transferSucceeded pending source
        (source.observedAtNs.val - pending.observedAtNs.val)) = (.ok none, self.countInvalid)) :
    settle (self.transferCompleted source) = (.ok none, self.countInvalid) := by
  unfold transferCompleted
  simp only [found, success, Bool.true_eq_false, ↓reduceIte]
  split
  · exact settle_invalid _ self
  · rename_i ordered
    split
    · exact settle_invalid _ self
    · split
      · exact settle_invalid _ self
      · exact refused (Nat.not_lt.mp ordered)

theorem refused_handled (self : LifecycleNormalizer) (source : SourceObservation)
    (reason : Refused self source) :
    settle (self.normalizeLocked source) = (.ok none, self.countInvalid) := by
  cases reason with
  | duplicate source known =>
      show settle (self.transferSubmitted source) = _
      unfold transferSubmitted
      rw [if_pos known, settle_invalid]
  | unmatchedCompletion source unmatched =>
      show settle (self.transferCompleted source) = _
      unfold transferCompleted
      split
      · exact settle_invalid _ self
      · rename_i pending found
        rw [if_pos (unmatched pending found), settle_invalid]
  | instantPreserve source pending found operation instant =>
      show settle (self.transferCompleted source) = _
      unfold transferCompleted
      simp only [found]
      rw [if_neg (by omega), if_pos ⟨operation, instant⟩, settle_invalid]
  | failureEvidence source failure evidence =>
      show settle (self.transferCompleted source) = _
      unfold transferCompleted
      simp only [failure, if_pos evidence, ↓reduceIte]
      repeat' split
      all_goals exact settle_invalid _ self
  | missingBytes source success missing =>
      show settle (self.transferCompleted source) = _
      unfold transferCompleted
      simp only [success, missing, Bool.true_eq_false, ↓reduceIte]
      repeat' split
      all_goals exact settle_invalid _ self
  | restoreReceipt source pending found operation success early =>
      apply success_refused self source pending found success
      intro ordered
      unfold transferSucceeded
      simp only [operation]
      rcases early with missing | instant
      · rw [missing]
        exact settle_invalid _ self
      · split
        · exact settle_invalid _ self
        · rw [if_pos (by omega), settle_invalid]
  | foreignReceipt source pending receipt found operation success received foreign room =>
      apply success_refused self source pending found success
      intro ordered
      have unshaped : validateEventShape (restoredFields pending source receipt) ≠ .ok () := by
        intro shape
        exact foreign (restored_shape_scope pending source receipt shape)
      have open_ : ¬ (self.retainRestoreReceipts = true ∧
          self.maxCorrelatedTransfers ≤ self.completedRestores.size) := by
        rintro ⟨retained, full⟩
        exact absurd full (Nat.not_le.mpr (room retained))
      unfold transferSucceeded
      simp only [operation, received, if_neg open_]
      split
      · exact settle_invalid _ self
      · exact settle_unmade (restoredFields pending source receipt) self _ unshaped
  | preserveReceipt source pending found operation success received =>
      apply success_refused self source pending found success
      intro ordered
      unfold transferSucceeded
      simp only [operation]
      rw [if_pos (Or.inr received), settle_invalid]
  | unmatchedCancellation source unmatched =>
      show settle (self.transferCancelled source) = _
      unfold transferCancelled
      split
      · exact settle_invalid _ self
      · rename_i pending found
        rw [if_pos (unmatched pending found), settle_invalid]
  | requeueEpoch source epoch =>
      have unshaped : validateEventShape (requeuedFields source) ≠ .ok () := by
        intro shape
        exact requeued_shape_epoch source shape epoch
      exact settle_unshaped (requeuedFields source) unshaped self
  | admissionEpoch source epoch =>
      show settle (self.recoveryAdmitted source) = _
      unfold recoveryAdmitted
      rw [if_pos epoch, settle_invalid]
  | duplicateAdmission source known =>
      show settle (self.recoveryAdmitted source) = _
      unfold recoveryAdmitted
      rw [if_pos known]
      split <;> exact settle_invalid _ self
  | lackingReceipt source room lacking =>
      show settle (self.recoveryAdmitted source) = _
      unfold recoveryAdmitted
      rw [if_neg (Nat.not_le.mpr room), if_pos lacking]
      split
      · exact settle_invalid _ self
      · split <;> exact settle_invalid _ self
  | computeEpoch source epoch matched =>
      have unshaped : validateEventShape (computedFields source) ≠ .ok () := by
        intro shape
        exact computed_shape_epoch source shape epoch
      show settle (self.firstCompute source) = _
      unfold firstCompute
      rw [matched]
      exact settle_unmade (computedFields source) self _ unshaped
  | unsupported => rfl

theorem outcome_handled (self : LifecycleNormalizer) (source : SourceObservation)
    (result : Option KVTransferObservation) (next : LifecycleNormalizer)
    (outcome : Outcome self source result next) :
    settle (self.normalizeLocked source) = (.ok result, next) := by
  cases outcome with
  | refused source reason => exact refused_handled self source reason
  | mismatched source mismatch =>
      show settle (self.firstCompute source) = _
      unfold firstCompute
      rw [mismatch]
      exact settle_invalid _ _
  | torn source pending object text found ordered =>
      have present : object ≠ .none := by
        rintro rfl
        have cancellation := source.cancellation
        rw [text] at cancellation
        cases cancellation
      obtain ⟨message, raised⟩ := emit_text_reason
        (cancelledFields pending source .requestCancelled) object present
      show settle (self.transferCancelled source) = _
      unfold transferCancelled
      simp only [found, text]
      rw [if_neg (by omega)]
      change settle (emit { (cancelledFields pending source .requestCancelled).arguments with
        terminalReason := .other object }, _) = _
      rw [raised]
      rfl
  | submissionFull source fresh unfinished full =>
      show settle (self.transferSubmitted source) = _
      unfold transferSubmitted
      rw [if_neg (not_or.mpr ⟨fresh, unfinished⟩), if_pos full]
      rfl
  | completionFull source pending receipt matched retained full =>
      have later := matched.later
      show settle (self.transferCompleted source) = _
      rw [restore_matched_completed self source pending receipt matched]
      unfold transferSucceeded
      simp only [matched.operation, matched.received]
      rw [if_neg (by omega), if_pos ⟨retained, full⟩]
      rfl
  | admissionFull source epoch fresh full =>
      show settle (self.recoveryAdmitted source) = _
      unfold recoveryAdmitted
      rw [if_neg epoch, if_neg fresh, if_pos full]
      rfl
  | started source record fields fresh unfinished room =>
      show settle (self.transferSubmitted source) = _
      unfold transferSubmitted
      rw [if_neg (not_or.mpr ⟨fresh, unfinished⟩), if_neg (Nat.not_le.mpr room)]
      exact settle_emit record (startedFields source) fields _
  | failed source pending record fields found ordered preserve failure bytes receipt =>
      show settle (self.transferCompleted source) = _
      unfold transferCompleted
      simp only [found, failure, ↓reduceIte]
      rw [if_neg (by omega), if_neg (fun same => preserve same.1 same.2.symm),
        if_neg (by simp [bytes, receipt])]
      exact settle_emit record (failedFields pending source) fields _
  | restored source pending receipt record fields matched scope room =>
      have later := matched.later
      have open_ : ¬ (self.retainRestoreReceipts = true ∧
          self.maxCorrelatedTransfers ≤ self.completedRestores.size) := by
        rintro ⟨retained, full⟩
        exact absurd full (Nat.not_le.mpr (room retained))
      show settle (self.transferCompleted source) = _
      rw [restore_matched_completed self source pending receipt matched]
      unfold transferSucceeded
      simp only [matched.operation, matched.received, if_neg open_]
      rw [if_neg (by omega)]
      exact settle_made (restoredFields pending source receipt) self _ record fields
  | preserved source pending record fields found operation later success moved receipt =>
      show settle (self.transferCompleted source) = _
      rw [transfer_completed_matched self source pending found (Nat.le_of_lt later)
        (fun _ => Nat.ne_of_gt later) success moved]
      unfold transferSucceeded
      simp only [operation]
      rw [if_neg (by simp [receipt]; omega)]
      exact settle_made (preservedFields pending source) self _ record fields
  | cancelled source pending reason record fields member found ordered =>
      show settle (self.transferCancelled source) = _
      unfold transferCancelled
      simp only [found, member]
      rw [if_neg (by omega)]
      exact settle_emit record (cancelledFields pending source reason) fields _
  | requeued source record fields epoch =>
      exact settle_emit record (requeuedFields source) fields self
  | admitted source record fields epoch fresh room backed =>
      show settle (self.recoveryAdmitted source) = _
      unfold recoveryAdmitted
      rw [if_neg epoch, if_neg fresh, if_neg (Nat.not_le.mpr room), if_neg (by simp [backed])]
      exact settle_emit record (admittedFields source) fields _
  | computed source record fields epoch matched =>
      show settle (self.firstCompute source) = _
      unfold firstCompute
      rw [matched]
      exact settle_made (computedFields source) self _ record fields

/-! ## Every observation has an outcome -/

theorem submitted_outcome (self : LifecycleNormalizer) (source : CoreTransferSubmitted) :
    ∃ result next, Outcome self (.submitted source) result next := by
  by_cases known : source.transfer ∈ self.pending ∨ source.transfer ∈ self.completedRestores
  · exact ⟨_, _, .refused _ (.duplicate source known)⟩
  · obtain ⟨fresh, unfinished⟩ := not_or.mp known
    rcases Nat.lt_or_ge self.pending.size self.maxCorrelatedTransfers with room | full
    · exact ⟨_, _, .started source { startedFields source with shape := started_shape source }
        rfl fresh unfinished room⟩
    · exact ⟨_, _, .submissionFull source fresh unfinished full⟩

theorem restored_outcome (self : LifecycleNormalizer) (source : CoreTransferCompleted)
    (pending : CoreTransferSubmitted) (receipt : ReceiptIdentity)
    (matched : RestoreMatched self source pending receipt) :
    ∃ result next, Outcome self (.completed source) result next := by
  by_cases full : self.retainRestoreReceipts = true ∧
      self.maxCorrelatedTransfers ≤ self.completedRestores.size
  · exact ⟨_, _, .completionFull source pending receipt matched full.1 full.2⟩
  · have room : self.retainRestoreReceipts = true →
        self.completedRestores.size < self.maxCorrelatedTransfers := by
      intro retained
      exact Nat.not_le.mp fun reached => full ⟨retained, reached⟩
    by_cases scope : receipt.processUuid = source.transfer.processUuid
    · exact ⟨_, _, .restored source pending receipt
        { restoredFields pending source receipt with
          shape := restored_shape pending source receipt matched.moved scope }
        rfl matched scope room⟩
    · exact ⟨_, _, .refused _ (.foreignReceipt source pending receipt matched.found
        matched.operation matched.success matched.received scope room)⟩

theorem succeeded_outcome (self : LifecycleNormalizer) (source : CoreTransferCompleted)
    (pending : CoreTransferSubmitted)
    (found : self.pending.lookup source.transfer = some pending)
    (ordered : pending.observedAtNs.val ≤ source.observedAtNs.val)
    (success : source.success = true) (moved : source.bytesMoved ≠ none) :
    ∃ result next, Outcome self (.completed source) result next := by
  cases operation : pending.operation with
  | h2dRestore =>
      by_cases early : source.receipt = none ∨
          source.observedAtNs.val = pending.observedAtNs.val
      · exact ⟨_, _, .refused _ (.restoreReceipt source pending found operation success early)⟩
      · obtain ⟨missing, instant⟩ := not_or.mp early
        obtain ⟨receipt, received⟩ := Option.ne_none_iff_exists'.mp missing
        exact restored_outcome self source pending receipt
          ⟨found, operation, by omega, success, moved, received⟩
  | d2hPreserve =>
      by_cases instant : source.observedAtNs.val = pending.observedAtNs.val
      · exact ⟨_, _, .refused _ (.instantPreserve source pending found operation instant)⟩
      · by_cases receipt : source.receipt = none
        · exact ⟨_, _, .preserved source pending
            { preservedFields pending source with
              shape := preserved_shape pending source moved }
            rfl found operation (by omega) success moved receipt⟩
        · exact ⟨_, _, .refused _
            (.preserveReceipt source pending found operation success receipt)⟩

theorem completed_outcome (self : LifecycleNormalizer) (source : CoreTransferCompleted) :
    ∃ result next, Outcome self (.completed source) result next := by
  by_cases matched : ∃ pending, self.pending.lookup source.transfer = some pending ∧
      pending.observedAtNs.val ≤ source.observedAtNs.val
  · obtain ⟨pending, found, ordered⟩ := matched
    cases success : source.success with
    | true =>
        by_cases moved : source.bytesMoved = none
        · exact ⟨_, _, .refused _ (.missingBytes source success moved)⟩
        · exact succeeded_outcome self source pending found ordered success moved
    | false =>
        by_cases evidence : source.bytesMoved ≠ none ∨ source.receipt ≠ none
        · exact ⟨_, _, .refused _ (.failureEvidence source success evidence)⟩
        · obtain ⟨bytes, receipt⟩ := not_or.mp evidence
          by_cases instant : pending.operation = .d2hPreserve ∧
              source.observedAtNs.val = pending.observedAtNs.val
          · exact ⟨_, _, .refused _
              (.instantPreserve source pending found instant.1 instant.2)⟩
          · exact ⟨_, _, .failed source pending
              { failedFields pending source with shape := failed_shape pending source }
              rfl found ordered (fun preserve same => instant ⟨preserve, same.symm⟩) success
              (not_not.mp bytes) (not_not.mp receipt)⟩
  · refine ⟨_, _, .refused _ (.unmatchedCompletion source ?_)⟩
    intro pending found
    exact Nat.not_le.mp fun ordered => matched ⟨pending, found, ordered⟩

theorem cancelled_outcome (self : LifecycleNormalizer) (source : CoreTransferCancelled) :
    ∃ result next, Outcome self (.cancelled source) result next := by
  by_cases matched : ∃ pending, self.pending.lookup source.transfer = some pending ∧
      pending.observedAtNs.val ≤ source.observedAtNs.val
  · obtain ⟨pending, found, ordered⟩ := matched
    cases member : source.reason with
    | typed reason =>
        have cancellation : reason ∈ cancellationReasons := by
          have accepted := source.cancellation
          rw [member] at accepted
          exact List.contains_iff_mem.mp accepted
        exact ⟨_, _, .cancelled source pending reason
          { cancelledFields pending source reason with
            shape := cancelled_shape pending source reason cancellation }
          rfl member found ordered⟩
    | other object => exact ⟨_, _, .torn source pending object member found ordered⟩
  · refine ⟨_, _, .refused _ (.unmatchedCancellation source ?_)⟩
    intro pending found
    exact Nat.not_le.mp fun ordered => matched ⟨pending, found, ordered⟩

theorem admitted_outcome (self : LifecycleNormalizer) (source : CoreRecoveryAdmitted) :
    ∃ result next, Outcome self (.admitted source) result next := by
  by_cases epoch : source.identity.recoveryEpoch = none
  · exact ⟨_, _, .refused _ (.admissionEpoch source epoch)⟩
  by_cases known : source.identity ∈ self.admissions
  · exact ⟨_, _, .refused _ (.duplicateAdmission source known)⟩
  rcases Nat.lt_or_ge self.admissions.size self.maxRecoveryAdmissions with room | full
  · cases lacking : source.transfers.val.val.any (self.lacksReceipt source) with
    | true => exact ⟨_, _, .refused _ (.lackingReceipt source room lacking)⟩
    | false =>
        exact ⟨_, _, .admitted source
          { admittedFields source with shape := admitted_shape source epoch }
          rfl epoch known room lacking⟩
  · exact ⟨_, _, .admissionFull source epoch known full⟩

theorem matches_admission_iff (admitted : Option RecoveryAdmission)
    (source : FirstComputeObserved) :
    matchesAdmission admitted source = true ↔
      ∃ admission, admitted = some admission ∧ admission.transfers = source.transfers.val ∧
        admission.observedAtNs.val ≤ source.observedAtNs.val ∧
        ∀ transfer ∈ source.transfers.val.val,
          transfer.processUuid = source.receipt.processUuid := by
  cases admitted with
  | none => simp [matchesAdmission]
  | some admission => simp [matchesAdmission, and_assoc, Subtype.ext_iff]

theorem computed_outcome (self : LifecycleNormalizer) (source : FirstComputeObserved) :
    ∃ result next, Outcome self (.firstCompute source) result next := by
  cases matched : matchesAdmission (self.admissions.lookup source.identity) source with
  | false => exact ⟨_, _, .mismatched source matched⟩
  | true =>
      by_cases epoch : source.identity.recoveryEpoch = none
      · exact ⟨_, _, .refused _ (.computeEpoch source epoch matched)⟩
      · obtain ⟨admission, found, roster, ordered, scope⟩ :=
          (matches_admission_iff _ source).mp matched
        exact ⟨_, _, .computed source
          { computedFields source with shape := computed_shape source epoch scope }
          rfl epoch matched⟩

theorem outcome_total (self : LifecycleNormalizer) (source : SourceObservation) :
    ∃ result next, Outcome self source result next := by
  cases source with
  | submitted source => exact submitted_outcome self source
  | completed source => exact completed_outcome self source
  | cancelled source => exact cancelled_outcome self source
  | requeued source =>
      by_cases epoch : source.identity.recoveryEpoch = none
      · exact ⟨_, _, .refused _ (.requeueEpoch source epoch)⟩
      · exact ⟨_, _, .requeued source
          { requeuedFields source with shape := requeued_shape source epoch } rfl epoch⟩
  | admitted source => exact admitted_outcome self source
  | firstCompute source => exact computed_outcome self source
  | unsupported => exact ⟨_, _, .refused _ .unsupported⟩

/-- The handlers and the list of outcomes say the same. -/
theorem outcome_iff (self : LifecycleNormalizer) (source : SourceObservation)
    (result : Option KVTransferObservation) (next : LifecycleNormalizer) :
    Outcome self source result next ↔
      settle (self.normalizeLocked source) = (.ok result, next) := by
  constructor
  · exact outcome_handled self source result next
  · intro handled
    obtain ⟨otherResult, otherNext, outcome⟩ := outcome_total self source
    have same := outcome_handled self source otherResult otherNext outcome
    rw [handled] at same
    cases same
    exact outcome

/-! ## Calls and runs -/

inductive Call
  | normalize (source : SourceObservation)
  | close

/-- `close` returns `None`. -/
def step (self : LifecycleNormalizer) : Call → Attempt
  | .normalize source => self.normalize source
  | .close => (.ok none, self.close)

inductive Transition (self : LifecycleNormalizer) :
    Call → Option KVTransferObservation → LifecycleNormalizer → Prop
  | afterClose (source : SourceObservation) (closed : self.closed = true) :
      Transition self (.normalize source) none self.countClosedDropped
  | afterLoss (source : SourceObservation) (opened : self.closed = false)
      (lost : self.evidenceValid = false) :
      Transition self (.normalize source) none self.countEvidenceDisabledDropped
  | handled (source : SourceObservation) (result : Option KVTransferObservation)
      (next : LifecycleNormalizer) (opened : self.closed = false)
      (valid : self.evidenceValid = true) (outcome : Outcome self source result next) :
      Transition self (.normalize source) result next
  | closed : Transition self .close none self.close

theorem normalize_handled (self : LifecycleNormalizer) (source : SourceObservation)
    (opened : self.closed = false) (valid : self.evidenceValid = true) :
    self.normalize source = settle (self.normalizeLocked source) := by
  simp [LifecycleNormalizer.normalize, opened, valid]

/-- A call never raises, and ends in one of the listed ways. -/
theorem step_transition (self : LifecycleNormalizer) (call : Call) :
    ∃ result, (step self call).1 = .ok result ∧
      Transition self call result (step self call).2 := by
  cases call with
  | close => exact ⟨none, rfl, .closed⟩
  | normalize source =>
      show ∃ result, (self.normalize source).1 = .ok result ∧
        Transition self (.normalize source) result (self.normalize source).2
      cases opened : self.closed with
      | true =>
          have dropped : self.normalize source = (.ok none, self.countClosedDropped) := by
            simp [LifecycleNormalizer.normalize, opened]
          rw [dropped]
          exact ⟨none, rfl, .afterClose source opened⟩
      | false =>
          cases valid : self.evidenceValid with
          | false =>
              have dropped : self.normalize source =
                  (.ok none, self.countEvidenceDisabledDropped) := by
                simp [LifecycleNormalizer.normalize, opened, valid]
              rw [dropped]
              exact ⟨none, rfl, .afterLoss source opened valid⟩
          | true =>
              obtain ⟨result, next, outcome⟩ := outcome_total self source
              rw [normalize_handled self source opened valid,
                outcome_handled self source result next outcome]
              exact ⟨result, rfl, .handled source result next opened valid outcome⟩

/-- The constructor's settings, which no call changes. -/
structure Settings (normalizer : LifecycleNormalizer) (transfers admissions : Nat)
    (retain : Bool) : Prop where
  transfers : normalizer.maxCorrelatedTransfers = transfers
  admissions : normalizer.maxRecoveryAdmissions = admissions
  retain : normalizer.retainRestoreReceipts = retain

theorem outcome_settings (self : LifecycleNormalizer) (source : SourceObservation)
    (result : Option KVTransferObservation) (next : LifecycleNormalizer)
    (outcome : Outcome self source result next) :
    Settings next self.maxCorrelatedTransfers self.maxRecoveryAdmissions
      self.retainRestoreReceipts := by
  cases outcome <;> exact ⟨rfl, rfl, rfl⟩

theorem step_settings (self : LifecycleNormalizer) (call : Call) (transfers admissions : Nat)
    (retain : Bool) (before : Settings self transfers admissions retain) :
    Settings (step self call).2 transfers admissions retain := by
  obtain ⟨rfl, rfl, rfl⟩ := before
  obtain ⟨result, _, transition⟩ := step_transition self call
  generalize (step self call).2 = next at transition
  cases transition with
  | afterClose source closed => exact ⟨rfl, rfl, rfl⟩
  | afterLoss source opened lost => exact ⟨rfl, rfl, rfl⟩
  | handled source result next opened valid outcome =>
      exact outcome_settings self source result _ outcome
  | closed =>
      unfold close
      split <;> exact ⟨rfl, rfl, rfl⟩

/-- A normalizer as its constructor leaves it. -/
def fresh (maxCorrelatedTransfers maxRecoveryAdmissions : Nat) (retainRestoreReceipts : Bool) :
    LifecycleNormalizer :=
  { maxCorrelatedTransfers := maxCorrelatedTransfers
    maxRecoveryAdmissions := maxRecoveryAdmissions
    retainRestoreReceipts := retainRestoreReceipts }

theorem make_fresh (maxCorrelatedTransfers maxRecoveryAdmissions retainRestoreReceipts : PyObject)
    (self : LifecycleNormalizer)
    (made : LifecycleNormalizer.make maxCorrelatedTransfers maxRecoveryAdmissions
      retainRestoreReceipts = .ok self) :
    ∃ transfers admissions retain, self = fresh transfers admissions retain := by
  unfold LifecycleNormalizer.make at made
  cases first : requireCapacity maxCorrelatedTransfers "max_correlated_transfers" with
  | error error =>
      rw [first] at made
      cases made
  | ok transfers =>
      cases second : requireCapacity maxRecoveryAdmissions "max_recovery_admissions" with
      | error error =>
          rw [first, second] at made
          cases made
      | ok admissions =>
          cases third : requireBool retainRestoreReceipts
              "retain_restore_receipts must be a bool" with
          | error error =>
              rw [first, second, third] at made
              cases made
          | ok retain =>
              rw [first, second, third] at made
              cases made
              exact ⟨transfers.val, admissions.val, retain, rfl⟩

theorem run_settings (transfers admissions : Nat) (retain : Bool) (calls : List Call) :
    Settings (Machine.finalState step (fresh transfers admissions retain) calls)
      transfers admissions retain :=
  Machine.invariant_run step (fun self => Settings self transfers admissions retain)
    (fun self call before => step_settings self call transfers admissions retain before)
    (fresh transfers admissions retain) calls ⟨rfl, rfl, rfl⟩

/-- The record a call returned, if it returned one. -/
def returned : Py (Option KVTransferObservation) → Option KVTransferObservation
  | .ok result => result
  | .error _ => none

/-- The records a run returns, in order. -/
def emitted (self : LifecycleNormalizer) (calls : List Call) : List KVTransferObservation :=
  (Machine.outputs step self calls).filterMap returned

theorem emitted_snoc (self : LifecycleNormalizer) (calls : List Call) (call : Call) :
    emitted self (calls ++ [call]) = emitted self calls ++
      (returned (step (Machine.finalState step self calls) call).1).toList := by
  unfold emitted
  rw [Machine.outputs_append, List.filterMap_append]
  cases answered : returned (step (Machine.finalState step self calls) call).1 <;>
    simp [Machine.outputs, answered]

/-- What every call preserves of the state and the records so far, a run preserves. -/
theorem emitted_run (invariant : LifecycleNormalizer → List KVTransferObservation → Prop)
    (preserved : ∀ self log call, invariant self log →
      invariant (step self call).2 (log ++ (returned (step self call).1).toList))
    (self : LifecycleNormalizer) (calls : List Call) (initial : invariant self []) :
    invariant (Machine.finalState step self calls) (emitted self calls) := by
  induction calls using List.reverseRecOn with
  | nil => exact initial
  | append_singleton calls call before =>
      rw [emitted_snoc, Machine.final_state_append]
      exact preserved _ _ call before

/-! ## Sample observations -/

theorem request_one : printableAsciiWithin maxRuntimeRequestIdBytes "request-1" = true := by decide

theorem rank_zero : 0 ≤ uint32Max := by decide

theorem epoch_one : 0 < 1 ∧ 1 ≤ uint64Max := by decide

theorem job_seven : 7 ≤ uint64Max := by decide

theorem four_blocks : 0 < 4 ∧ 4 ≤ uint32Max := by decide

theorem time_ten : 10 ≤ uint64Max := by decide

theorem time_twenty : 20 ≤ uint64Max := by decide

theorem time_thirty : 30 ≤ uint64Max := by decide

theorem time_forty : 40 ≤ uint64Max := by decide

def sampleIdentity : ObservationIdentity :=
  { requestId := ⟨"request-1", request_one⟩
    workerGeneration := ⟨2, by decide⟩
    rank := ⟨0, rank_zero⟩
    recoveryEpoch := some ⟨1, epoch_one⟩ }

def sampleTransfer : TransferIdentity :=
  ⟨⟨"dddddddddddddddddddddddddddddddd:t:1", by decide +kernel⟩⟩

def sampleReceipt : ReceiptIdentity :=
  ⟨⟨"dddddddddddddddddddddddddddddddd:k:1", by decide +kernel⟩⟩

/-- A restore submitted at the given time. -/
def sampleSubmission (observedAtNs : Uint uint64Max) : CoreTransferSubmitted :=
  { identity := sampleIdentity
    transfer := sampleTransfer
    operation := .h2dRestore
    blockCount := ⟨4, four_blocks⟩
    observedAtNs := observedAtNs }

/-- Its completion at the given time. -/
def sampleCompletion (observedAtNs : Uint uint64Max) : CoreTransferCompleted :=
  { transfer := sampleTransfer
    observedAtNs := observedAtNs
    success := true
    bytesMoved := some ⟨4096, by decide⟩
    deviceDurationNs := none
    receipt := some sampleReceipt }

def sampleRoster : NonemptyRoster :=
  ⟨⟨[sampleTransfer], by decide, by decide +kernel⟩, by decide⟩

/-- The admission of the restored transfer by a request at the given time. -/
def sampleAdmission (identity : ObservationIdentity) (observedAtNs : Uint uint64Max) :
    CoreRecoveryAdmitted :=
  { identity := identity, transfers := sampleRoster, observedAtNs := observedAtNs }

end KVTransferObservability.NormalizerTransitions
