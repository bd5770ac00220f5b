import KVTransferObservability.ReplayedNormalizer

/-!
# The validator's loop decides admissibility

The loop keeps a dictionary of episodes, two sets and a normalizer. All of it is
determined by the recovery records read so far, and the loop body goes on exactly if
the next record is admissible after them.
-/

namespace KVTransferObservability.ChainTracking

open Library PythonValues Schema Observation Normalization Validation NormalizerRecords
open NormalizerTransitions NormalizerEvidence ChainRules ReplayedNormalizer

set_option autoImplicit false

/-! ## Replayed sources -/

section Replays

variable (episode : Episode) (seenTransfers : Finset TransferIdentity)
variable (record : KVTransferObservation)

theorem replay_requeued (event : record.event = .recoveryRequeued) :
    ∃ source, record.toObservationFields = requeuedFields source ∧
      replay episode seenTransfers record = .ok (.requeued source, episode, seenTransfers) := by
  obtain ⟨reason, content⟩ := recovery_requeued_content record.toObservationFields
    (event_shape record) event
  have reasonField := congrArg ObservationFields.requeueReason content
  dsimp only at reasonField
  refine ⟨⟨record.identity, reason, record.observedAtNs⟩, content, ?_⟩
  unfold replay
  simp [event, reasonField, CoreRecoveryRequeued.make, Argument.ofOption, requireUint64, bind,
    Except.bind]

theorem replay_started (event : record.event = .restoreStarted) :
    ∃ source : CoreTransferSubmitted, StartOf source.transfer record ∧
      record.toObservationFields = startedFields source ∧
      replay episode seenTransfers record =
        if episode.admitted = true ∨ source.transfer ∈ seenTransfers then
          .error (.valueError "late or duplicate restore submission")
        else
          .ok (.submitted source,
            { episode with started := insert source.transfer episode.started },
            insert source.transfer seenTransfers) := by
  obtain ⟨transfer, blocks, content⟩ := restore_started_content record.toObservationFields
    (event_shape record) event
  have transferField := congrArg ObservationFields.transfer content
  have blockField := congrArg ObservationFields.blockCount content
  dsimp only at transferField blockField
  refine ⟨⟨record.identity, transfer, .h2dRestore, blocks, record.observedAtNs⟩,
    ⟨event, transferField⟩, content, ?_⟩
  unfold replay
  simp only [event, requireTransfer, transferField, blockField, raiseIf,
    CoreTransferSubmitted.make, requireUint64, requirePositive, Option.map_some,
    Argument.expect_typed, check_uint_value, bind, Except.bind, Bool.or_eq_true,
    decide_eq_true_eq, PyObject.ofOption, check_positive_uint_value]
  by_cases refused : episode.admitted = true ∨ transfer ∈ seenTransfers
  · rw [if_pos refused, if_pos refused]
  · rw [if_neg refused, if_neg refused]

theorem replay_completed (event : record.event = .restoreCompleted) :
    ∃ source receipt, CompletedAs record source receipt ∧ CompletionOf source.transfer record ∧
      replay episode seenTransfers record =
        if episode.admitted = true then .error (.valueError "completion after admission")
        else
          .ok (.completed source,
            { episode with completed := insert source.transfer episode.completed },
            seenTransfers) := by
  obtain ⟨transfer, receipt, bytes, blocks, duration, scope, content⟩ :=
    restore_completed_content record.toObservationFields (event_shape record) event
  have transferField := congrArg ObservationFields.transfer content
  have receiptField := congrArg ObservationFields.receipt content
  have bytesField := congrArg ObservationFields.bytesMoved content
  have blockField := congrArg ObservationFields.blockCount content
  have durationField := congrArg ObservationFields.durationNs content
  dsimp only at transferField receiptField bytesField blockField durationField
  refine ⟨⟨transfer, record.observedAtNs, true, some bytes, record.deviceDurationNs,
    some receipt⟩, receipt, ⟨rfl, by simp, rfl, scope, ?_⟩, ⟨event, transferField⟩, ?_⟩
  · rw [blockField, durationField]
    exact content
  · have device : optional (PyObject.ofOption (record.deviceDurationNs.map Subtype.val))
        (fun value => requirePositive value "device_duration_ns" uint64Max) =
          .ok record.deviceDurationNs := by
      cases record.deviceDurationNs with
      | none => rfl
      | some number => simp [requirePositive, Except.map]
    have moved : optional (PyObject.ofOption (some bytes.val))
        (fun value => requirePositive value "bytes_moved" uint64Max) = .ok (some bytes) := by
      simp [requirePositive, Except.map]
    unfold replay
    simp only [event, requireTransfer, transferField, receiptField, bytesField, raiseIf,
      CoreTransferCompleted.make, requireUint64, requireBool, Option.map_some,
      Argument.expect_typed, Argument.expect_optional_of_option, check_uint_value, device,
      moved, bind, Except.bind]
    by_cases refused : episode.admitted = true
    · rw [if_pos refused, if_pos refused]
    · rw [if_neg refused, if_neg refused]

theorem replay_admitted (event : record.event = .recoveryAdmitted) :
    ∃ source, record.toObservationFields = admittedFields source ∧
      record.identity.recoveryEpoch ≠ none ∧
      replay episode seenTransfers record =
        if episode.admitted = true ∨ record.associatedTransfers.val.toFinset ≠ episode.started ∨
            record.associatedTransfers.val.toFinset ≠ episode.completed then
          .error (.valueError "admission does not contain the complete roster")
        else .ok (.admitted source, { episode with admitted := true }, seenTransfers) := by
  obtain ⟨nonempty, epoch, content⟩ := recovery_admitted_content record.toObservationFields
    (event_shape record) event
  refine ⟨⟨record.identity, ⟨record.associatedTransfers, nonempty⟩, record.observedAtNs⟩,
    content, epoch, ?_⟩
  have roster : ¬ record.associatedTransfers.val.toFinset = ∅ := by
    rw [List.toFinset_eq_empty_iff]
    exact nonempty
  unfold replay
  simp only [event, raiseIf, CoreRecoveryAdmitted.make, requireUint64, Argument.expect_typed,
    check_uint_value, require_transfers_value _ nonempty, bind, Except.bind, Bool.or_eq_true,
    decide_eq_true_eq, roster, or_false, or_assoc]
  by_cases refused : episode.admitted = true ∨
      record.associatedTransfers.val.toFinset ≠ episode.started ∨
        record.associatedTransfers.val.toFinset ≠ episode.completed
  · rw [if_pos refused, if_pos refused]
  · rw [if_neg refused, if_neg refused]

theorem replay_computed (event : record.event = .firstCompute) :
    ∃ source, record.toObservationFields = computedFields source ∧
      record.identity.recoveryEpoch ≠ none ∧
      (∀ transfer ∈ source.transfers.val.val,
        transfer.processUuid = source.receipt.processUuid) ∧
      replay episode seenTransfers record =
        .ok (.firstCompute source, { episode with computed := true }, seenTransfers) := by
  obtain ⟨receipt, kind, nonempty, epoch, scope, content⟩ :=
    first_compute_content record.toObservationFields (event_shape record) event
  have receiptField := congrArg ObservationFields.receipt content
  have kindField := congrArg ObservationFields.computeKind content
  dsimp only at receiptField kindField
  refine ⟨⟨.vllm, record.identity, receipt, ⟨record.associatedTransfers, nonempty⟩, kind,
    record.observedAtNs⟩, content, epoch, scope, ?_⟩
  unfold replay
  simp only [event, FirstComputeObserved.make, requireUint64, Argument.expect_typed,
    Argument.ofOption, receiptField, kindField, check_uint_value,
    require_transfers_value _ nonempty, bind, Except.bind]

/-- No other event is replayed: its shape has no receipt. -/
theorem replay_irrelevant (irrelevant : record.event ∉ relevant)
    (result : SourceObservation × Episode × Finset TransferIdentity) :
    replay episode seenTransfers record ≠ .ok result := by
  have presence := populated_iff record.toObservationFields (event_shape record) .receipt
    (by decide)
  have receipt : record.receipt = none := by
    apply optional_absent
    cases event : record.event <;> rw [event] at presence <;>
      first | exact presence | exact absurd (event ▸ by decide) irrelevant
  intro replayed
  unfold replay at replayed
  cases event : record.event <;> rw [event] at replayed irrelevant <;>
    first
    | exact absurd (by decide) irrelevant
    | simp [FirstComputeObserved.make, Argument.ofOption, receipt, Argument.expect, bind,
        Except.bind] at replayed

end Replays

/-! ## The loop body in one formula -/

theorem normalize_record_iff (self next : LifecycleNormalizer) (source : SourceObservation)
    (record : KVTransferObservation) (opened : self.closed = false)
    (valid : self.evidenceValid = true) :
    self.normalize source = (.ok (some record), next) ↔ Outcome self source (some record) next := by
  rw [normalize_handled self source opened valid, outcome_iff]

theorem observe_ok_iff (self next : ChainState) (record : KVTransferObservation)
    (opened : self.normalizer.closed = false) (valid : self.normalizer.evidenceValid = true) :
    self.observe record = .ok next ↔
      ∃ episodes episode seenReceipts source progress seenTransfers normalizer,
        self.openEpisode record = .ok episodes ∧
        episodes.lookup record.identity = some episode ∧ episode.computed = false ∧
        episode.lastNs ≤ record.observedAtNs.val ∧
        self.claimReceipt record = .ok seenReceipts ∧
        replay { episode with lastNs := record.observedAtNs.val } self.seenTransfers record =
          .ok (source, progress, seenTransfers) ∧
        Outcome self.normalizer source (some record) normalizer ∧
        next =
          { episodes := episodes.insert record.identity progress
            seenTransfers := seenTransfers
            seenReceipts := seenReceipts
            normalizer := normalizer } := by
  unfold ChainState.observe
  constructor
  · intro observed
    obtain ⟨episodes, openedEpisode, observed⟩ := bind_eq_ok.mp observed
    split at observed
    · cases observed
    · rename_i episode found
      simp only [raise_if_bind_ok, decide_eq_false_iff_not, Nat.not_lt] at observed
      obtain ⟨computed, ordered, observed⟩ := observed
      obtain ⟨seenReceipts, claimed, observed⟩ := bind_eq_ok.mp observed
      obtain ⟨⟨source, progress, seenTransfers⟩, replayed, observed⟩ := bind_eq_ok.mp observed
      obtain ⟨result, answered, observed⟩ := bind_eq_ok.mp observed
      simp only [raise_if_bind_ok, bne_eq_false_iff_eq] at observed
      obtain ⟨same, observed⟩ := observed
      refine ⟨episodes, episode, seenReceipts, source, progress, seenTransfers, _,
        openedEpisode, found, computed, ordered, claimed, replayed, ?_,
        (Except.ok.inj observed).symm⟩
      rw [← normalize_record_iff self.normalizer _ source record opened valid]
      rw [same] at answered
      exact Prod.ext answered rfl
  · rintro ⟨episodes, episode, seenReceipts, source, progress, seenTransfers, normalizer,
      openedEpisode, found, computed, ordered, claimed, replayed, outcome, rfl⟩
    have normalized := (normalize_record_iff self.normalizer normalizer source record opened
      valid).mpr outcome
    have inOrder : decide (record.observedAtNs.val < episode.lastNs) = false :=
      decide_eq_false (Nat.not_lt.mpr ordered)
    rw [computed] at replayed
    simp only [openedEpisode, bind, Except.bind, found, raiseIf, computed, inOrder, claimed,
      replayed, normalized, bne_self_eq_false, Bool.false_eq_true, if_false]

theorem claim_receipt_iff (self : ChainState) (record : KVTransferObservation)
    (history : History)
    (receipts : ∀ receipt, receipt ∈ self.seenReceipts ↔ receipt ∈ history.filterMap receiptOf) :
    (∃ next, self.claimReceipt record = .ok next) ↔ Fresh receiptOf history record := by
  unfold ChainState.claimReceipt Fresh receiptOf
  cases field : record.receipt with
  | none => simp
  | some receipt =>
      have same := receipts receipt
      unfold receiptOf at same
      simp only [raise_if_bind_ok, exists_and_left, Option.some.injEq, forall_eq',
        decide_eq_false_iff_not, same, Except.ok.injEq, exists_eq', and_true]

theorem claimed_receipts (self : ChainState) (record : KVTransferObservation)
    (next : Finset ReceiptIdentity) (claimed : self.claimReceipt record = .ok next)
    (receipt : ReceiptIdentity) :
    receipt ∈ next ↔ receipt ∈ self.seenReceipts ∨ receiptOf record = some receipt := by
  unfold ChainState.claimReceipt at claimed
  unfold receiptOf
  cases field : record.receipt with
  | none =>
      rw [field] at claimed
      cases claimed
      simp
  | some other =>
      rw [field] at claimed
      simp only [raise_if_bind_ok] at claimed
      obtain ⟨_, claimed⟩ := claimed
      cases claimed
      rw [Finset.mem_insert, or_comm, Option.some.injEq, eq_comm]

/-! ## What the state says about the history -/

structure EpisodeTracks (history : History) (identity : ObservationIdentity)
    (episode : Episode) : Prop where
  started : ∀ transfer, transfer ∈ episode.started ↔
    ∃ start ∈ history, start.identity = identity ∧ StartOf transfer start
  completed : ∀ transfer, transfer ∈ episode.completed ↔
    ∃ completion ∈ history, completion.identity = identity ∧ CompletionOf transfer completion
  admitted : episode.admitted = true ↔ ∃ admission ∈ history, AdmissionOf identity admission
  computed : episode.computed = true ↔ ∃ compute ∈ history, ComputeOf identity compute

/-- `lastNs` is the time of the episode's latest record. -/
def LastTime (history : History) (identity : ObservationIdentity) (episode : Episode) : Prop :=
  ∀ time, episode.lastNs ≤ time ↔
    ∀ other ∈ history, other.identity = identity → other.observedAtNs.val ≤ time

structure Tracked (state : ChainState) (history : History) : Prop where
  known : ∀ identity, identity ∈ state.episodes ↔ ∃ other ∈ history, other.identity = identity
  episode : ∀ identity episode, state.episodes.lookup identity = some episode →
    EpisodeTracks history identity episode
  last : ∀ identity episode, state.episodes.lookup identity = some episode →
    LastTime history identity episode
  transfers : ∀ transfer, transfer ∈ state.seenTransfers ↔
    transfer ∈ history.filterMap startedTransfer
  receipts : ∀ receipt, receipt ∈ state.seenReceipts ↔ receipt ∈ history.filterMap receiptOf
  replayed : Replayed state.normalizer history

theorem tracked_empty : Tracked { normalizer := defaultNormalizer } [] where
  known := by
    intro identity
    exact iff_of_false Finmap.notMem_empty (by simp)
  episode := by
    intro identity episode found
    cases found
  last := by
    intro identity episode found
    cases found
  transfers := by simp
  receipts := by simp
  replayed := replayed_default

/-- What a record adds to the entry of its episode. -/
structure Progress (record : KVTransferObservation) (before after : Episode) : Prop where
  started : ∀ transfer, transfer ∈ after.started ↔
    transfer ∈ before.started ∨ StartOf transfer record
  completed : ∀ transfer, transfer ∈ after.completed ↔
    transfer ∈ before.completed ∨ CompletionOf transfer record
  admitted : after.admitted = true ↔
    before.admitted = true ∨ record.event = .recoveryAdmitted
  computed : after.computed = true ↔ before.computed = true ∨ record.event = .firstCompute
  lastNs : after.lastNs = before.lastNs

section Advance

variable {history : History} {record : KVTransferObservation}

theorem exists_mem_snoc (kind : KVTransferObservation → Prop) :
    (∃ other ∈ history ++ [record], kind other) ↔
      (∃ other ∈ history, kind other) ∨ kind record := by
  simp [or_and_right, exists_or]

theorem EpisodeTracks.advance {before after : Episode}
    (tracks : EpisodeTracks history record.identity before)
    (progress : Progress record before after) :
    EpisodeTracks (history ++ [record]) record.identity after where
  started := by
    intro transfer
    rw [exists_mem_snoc, progress.started, tracks.started]
    simp
  completed := by
    intro transfer
    rw [exists_mem_snoc, progress.completed, tracks.completed]
    simp
  admitted := by
    rw [exists_mem_snoc, progress.admitted, tracks.admitted]
    simp [AdmissionOf]
  computed := by
    rw [exists_mem_snoc, progress.computed, tracks.computed]
    simp [ComputeOf]

theorem EpisodeTracks.other {identity : ObservationIdentity} {episode : Episode}
    (tracks : EpisodeTracks history identity episode) (different : record.identity ≠ identity) :
    EpisodeTracks (history ++ [record]) identity episode where
  started := by
    intro transfer
    rw [exists_mem_snoc, tracks.started]
    simp [different]
  completed := by
    intro transfer
    rw [exists_mem_snoc, tracks.completed]
    simp [different]
  admitted := by
    rw [exists_mem_snoc, tracks.admitted]
    simp [AdmissionOf, different]
  computed := by
    rw [exists_mem_snoc, tracks.computed]
    simp [ComputeOf, different]

/-- The state after the loop body, from what the record adds to each part. -/
theorem Tracked.advance {state next : ChainState} (tracked : Tracked state history)
    (before after : Episode)
    (tracks : EpisodeTracks history record.identity before) (progress : Progress record before after)
    (current : before.lastNs = record.observedAtNs.val)
    (ordered : ∀ other ∈ history, other.identity = record.identity →
      other.observedAtNs.val ≤ record.observedAtNs.val)
    (own : next.episodes.lookup record.identity = some after)
    (others : ∀ identity, identity ≠ record.identity →
      next.episodes.lookup identity = state.episodes.lookup identity)
    (transfers : ∀ transfer, transfer ∈ next.seenTransfers ↔
      transfer ∈ state.seenTransfers ∨ startedTransfer record = some transfer)
    (receipts : ∀ receipt, receipt ∈ next.seenReceipts ↔
      receipt ∈ state.seenReceipts ∨ receiptOf record = some receipt)
    (replayed : Replayed next.normalizer (history ++ [record])) :
    Tracked next (history ++ [record]) where
  known := by
    intro identity
    rw [exists_mem_snoc]
    by_cases same : identity = record.identity
    · rw [same]
      exact iff_of_true (Dict.mem_of_lookup own) (Or.inr rfl)
    · have different : record.identity ≠ identity := fun equal => same equal.symm
      rw [← tracked.known, Finmap.mem_iff, Finmap.mem_iff, others identity same]
      simp [different]
  episode := by
    intro identity episode found
    by_cases same : identity = record.identity
    · rw [same, own] at found
      cases found
      rw [same]
      exact tracks.advance progress
    · rw [others identity same] at found
      exact (tracked.episode identity episode found).other fun equal => same equal.symm
  last := by
    intro identity episode found time
    by_cases same : identity = record.identity
    · subst same
      rw [own] at found
      cases found
      rw [progress.lastNs, current]
      constructor
      · intro bound other member sameIdentity
        rcases List.mem_append.mp member with earlier | here
        · exact (ordered other earlier sameIdentity).trans bound
        · rw [List.mem_singleton.mp here]
          exact bound
      · intro every
        exact every record (by simp) rfl
    · rw [others identity same] at found
      rw [tracked.last identity episode found time]
      have different : record.identity ≠ identity := fun equal => same equal.symm
      simp [or_imp, forall_and, different]
  transfers := by
    intro transfer
    rw [transfers, tracked.transfers, List.filterMap_append, List.mem_append]
    cases value : startedTransfer record <;> simp [value, eq_comm]
  receipts := by
    intro receipt
    rw [receipts, tracked.receipts, List.filterMap_append, List.mem_append]
    cases value : receiptOf record <;> simp [value, eq_comm]
  replayed := replayed

/-- The first three checks of the loop body, for a record of a known episode. -/
theorem opened_iff {state : ChainState} (tracked : Tracked state history) :
    Opened history record ↔
      ∃ episode, state.episodes.lookup record.identity = some episode ∧
        episode.computed = false ∧ episode.lastNs ≤ record.observedAtNs.val := by
  constructor
  · rintro ⟨known, uncomputed, ordered⟩
    obtain ⟨episode, found⟩ := Dict.lookup_of_mem ((tracked.known record.identity).mpr known)
    refine ⟨episode, found, ?_, ?_⟩
    · rw [← Bool.not_eq_true, (tracked.episode _ episode found).computed]
      rintro ⟨compute, member, computed⟩
      exact uncomputed compute member computed
    · exact (tracked.last _ episode found _).mpr ordered
  · rintro ⟨episode, found, uncomputed, ordered⟩
    refine ⟨(tracked.known _).mp (Dict.mem_of_lookup found), ?_, ?_⟩
    · intro compute member computed
      have flag := (tracked.episode _ episode found).computed.mpr ⟨compute, member, computed⟩
      rw [uncomputed] at flag
      cases flag
    · exact (tracked.last _ episode found _).mp ordered

theorem unadmitted_iff {episode : Episode}
    (tracks : EpisodeTracks history record.identity episode) :
    Unadmitted history record ↔ episode.admitted = false := by
  rw [← Bool.not_eq_true, tracks.admitted, Unadmitted, not_exists]
  simp only [not_and]

theorem covers_roster_iff {episode : Episode}
    (tracks : EpisodeTracks history record.identity episode) :
    CoversRoster history record ↔
      record.associatedTransfers.val.toFinset = episode.started ∧
        record.associatedTransfers.val.toFinset = episode.completed := by
  constructor
  · rintro ⟨started, completed⟩
    constructor
    · ext transfer
      rw [List.mem_toFinset, tracks.started, started]
    · ext transfer
      rw [List.mem_toFinset, tracks.completed, completed]
  · rintro ⟨started, completed⟩
    constructor
    · intro transfer
      rw [← List.mem_toFinset, started, tracks.started]
    · intro transfer
      rw [← List.mem_toFinset, completed, tracks.completed]

/-! ## What each event adds -/

theorem progress_started (before : Episode) (transfer : TransferIdentity)
    (start : StartOf transfer record) :
    Progress record before { before with started := insert transfer before.started } where
  started := by
    intro other
    rw [Finset.mem_insert, StartOf, start.2, or_comm, Option.some.injEq]
    simp [start.1, eq_comm]
  completed := by simp [CompletionOf, start.1]
  admitted := by simp [start.1]
  computed := by simp [start.1]
  lastNs := rfl

theorem progress_completed (before : Episode) (transfer : TransferIdentity)
    (completion : CompletionOf transfer record) :
    Progress record before { before with completed := insert transfer before.completed } where
  started := by simp [StartOf, completion.1]
  completed := by
    intro other
    rw [Finset.mem_insert, CompletionOf, completion.2, or_comm, Option.some.injEq]
    simp [completion.1, eq_comm]
  admitted := by simp [completion.1]
  computed := by simp [completion.1]
  lastNs := rfl

theorem progress_requeued (before : Episode) (event : record.event = .recoveryRequeued) :
    Progress record before before where
  started := by simp [StartOf, event]
  completed := by simp [CompletionOf, event]
  admitted := by simp [event]
  computed := by simp [event]
  lastNs := rfl

theorem progress_admitted (before : Episode) (event : record.event = .recoveryAdmitted) :
    Progress record before { before with admitted := true } where
  started := by simp [StartOf, event]
  completed := by simp [CompletionOf, event]
  admitted := by simp [event]
  computed := by simp [event]
  lastNs := rfl

theorem progress_computed (before : Episode) (event : record.event = .firstCompute) :
    Progress record before { before with computed := true } where
  started := by simp [StartOf, event]
  completed := by simp [CompletionOf, event]
  admitted := by simp [event]
  computed := by simp [event]
  lastNs := rfl

theorem fresh_unless_started (history : History) (other : record.event ≠ .restoreStarted) :
    Fresh startedTransfer history record := by
  intro transfer value
  rw [startedTransfer, if_neg other] at value
  cases value

/-! ## The loop body decides -/

/-- How the loop body goes on with a record of a known episode. -/
def Continuation (state : ChainState) (history : History) (record : KVTransferObservation)
    (episode : Episode) : Prop :=
  ∃ source progress seenTransfers normalizer,
    replay { episode with lastNs := record.observedAtNs.val } state.seenTransfers record =
      .ok (source, progress, seenTransfers) ∧
    Progress record { episode with lastNs := record.observedAtNs.val } progress ∧
    (∀ transfer, transfer ∈ seenTransfers ↔
      transfer ∈ state.seenTransfers ∨ startedTransfer record = some transfer) ∧
    Outcome state.normalizer source (some record) normalizer ∧
    Replayed normalizer (history ++ [record])

variable {state : ChainState} (tracked : Tracked state history)
include tracked

theorem observe_goes_on (episodes : Dict ObservationIdentity Episode) (episode : Episode)
    (openedEpisode : state.openEpisode record = .ok episodes)
    (found : episodes.lookup record.identity = some episode)
    (others : ∀ identity, identity ≠ record.identity →
      episodes.lookup identity = state.episodes.lookup identity)
    (tracks : EpisodeTracks history record.identity episode)
    (uncomputed : episode.computed = false) (inOrder : episode.lastNs ≤ record.observedAtNs.val)
    (ordered : ∀ other ∈ history, other.identity = record.identity →
      other.observedAtNs.val ≤ record.observedAtNs.val)
    (freshReceipt : Fresh receiptOf history record)
    (continuation : Continuation state history record episode) :
    ∃ next, state.observe record = .ok next ∧ Tracked next (history ++ [record]) := by
  obtain ⟨source, progress, seenTransfers, normalizer, replayed, adds, transfers, outcome,
    replayedNext⟩ := continuation
  obtain ⟨seenReceipts, claimed⟩ :=
    (claim_receipt_iff state record history tracked.receipts).mpr freshReceipt
  refine ⟨_, (observe_ok_iff state _ record tracked.replayed.opened tracked.replayed.valid).mpr
    ⟨episodes, episode, seenReceipts, source, progress, seenTransfers, normalizer,
      openedEpisode, found, uncomputed, inOrder, claimed, replayed, outcome, rfl⟩, ?_⟩
  apply tracked.advance { episode with lastNs := record.observedAtNs.val } progress
    ⟨tracks.started, tracks.completed, tracks.admitted, tracks.computed⟩ adds rfl ordered
  · exact Finmap.lookup_insert episodes
  · intro identity different
    exact (Finmap.lookup_insert_of_ne episodes different).trans (others identity different)
  · exact transfers
  · exact claimed_receipts state record seenReceipts claimed
  · exact replayedNext

theorem observe_accepts (plain : record.event ≠ .recoveryRequeued)
    (opened : Opened history record) (freshReceipt : Fresh receiptOf history record)
    (continuation : ∀ episode, EpisodeTracks history record.identity episode →
      Continuation state history record episode) :
    ∃ next, state.observe record = .ok next ∧ Tracked next (history ++ [record]) := by
  obtain ⟨episode, found, uncomputed, inOrder⟩ := (opened_iff tracked).mp opened
  have tracks := tracked.episode record.identity episode found
  have openedEpisode : state.openEpisode record = .ok state.episodes := by
    rw [ChainState.openEpisode, if_neg plain]
  exact observe_goes_on tracked state.episodes episode openedEpisode found (fun _ _ => rfl) tracks
    uncomputed inOrder opened.ordered freshReceipt (continuation episode tracks)

theorem observe_checked (plain : record.event ≠ .recoveryRequeued) (next : ChainState)
    (observed : state.observe record = .ok next) :
    Opened history record ∧ Fresh receiptOf history record ∧
      ∃ episode source progress seenTransfers normalizer,
        EpisodeTracks history record.identity episode ∧
        replay { episode with lastNs := record.observedAtNs.val } state.seenTransfers record =
          .ok (source, progress, seenTransfers) ∧
        Outcome state.normalizer source (some record) normalizer := by
  obtain ⟨episodes, episode, seenReceipts, source, progress, seenTransfers, normalizer,
    openedEpisode, found, uncomputed, inOrder, claimed, replayed, outcome, _⟩ :=
    (observe_ok_iff state next record tracked.replayed.opened tracked.replayed.valid).mp observed
  rw [ChainState.openEpisode, if_neg plain] at openedEpisode
  cases openedEpisode
  refine ⟨(opened_iff tracked).mpr ⟨episode, found, uncomputed, inOrder⟩, ?_, episode, source,
    progress, seenTransfers, normalizer, tracked.episode _ episode found, replayed, outcome⟩
  exact (claim_receipt_iff state record history tracked.receipts).mp ⟨seenReceipts, claimed⟩

variable (legal : OnlineCheck.Legal Admissible [] history)

theorem requeued_accepts (event : record.event = .recoveryRequeued)
    (admissible : Admissible history record) :
    ∃ next, state.observe record = .ok next ∧ Tracked next (history ++ [record]) := by
  have first := admissible.continues
  rw [Continues, event] at first
  dsimp only at first
  have absent : record.identity ∉ state.episodes := by
    rw [tracked.known]
    rintro ⟨other, member, same⟩
    exact first other member same
  have openedEpisode : state.openEpisode record =
      .ok (state.episodes.insert record.identity { lastNs := record.observedAtNs.val }) := by
    rw [ChainState.openEpisode, if_pos event]
    simp [raiseIf, absent, bind, Except.bind]
  have none : ∀ kind : KVTransferObservation → Prop,
      ¬ ∃ other ∈ history, other.identity = record.identity ∧ kind other := by
    rintro kind ⟨other, member, same, _⟩
    exact first other member same
  have tracks : EpisodeTracks history record.identity { lastNs := record.observedAtNs.val } := by
    constructor
    · intro transfer
      exact iff_of_false (Finset.notMem_empty transfer) (none _)
    · intro transfer
      exact iff_of_false (Finset.notMem_empty transfer) (none _)
    · exact iff_of_false Bool.false_ne_true (none _)
    · exact iff_of_false Bool.false_ne_true (none _)
  apply observe_goes_on tracked _ { lastNs := record.observedAtNs.val } openedEpisode
    (Finmap.lookup_insert state.episodes) _ tracks rfl (Nat.le_refl _) _ admissible.freshReceipt
  · obtain ⟨source, fields, replayed⟩ := replay_requeued
      { lastNs := record.observedAtNs.val } state.seenTransfers record event
    have epoch : source.identity.recoveryEpoch ≠ Option.none := by
      have shape := record.shape
      rw [fields] at shape
      exact requeued_shape_epoch source shape
    have outcome : Outcome state.normalizer (.requeued source) (some record)
        state.normalizer.countAccepted := .requeued source record fields epoch
    refine ⟨_, _, _, _, replayed, progress_requeued _ event, ?_, outcome,
      requeued_replayed tracked.replayed source event outcome⟩
    intro transfer
    simp [startedTransfer, event]
  · intro identity different
    exact Finmap.lookup_insert_of_ne state.episodes different
  · intro other member same
    exact absurd same (first other member)

theorem requeued_sound (event : record.event = .recoveryRequeued) (next : ChainState)
    (observed : state.observe record = .ok next) : Admissible history record := by
  obtain ⟨episodes, episode, seenReceipts, source, progress, seenTransfers, normalizer,
    openedEpisode, _, _, _, claimed, _⟩ :=
    (observe_ok_iff state next record tracked.replayed.opened tracked.replayed.valid).mp observed
  rw [ChainState.openEpisode, if_pos event] at openedEpisode
  simp only [raise_if_bind_ok, decide_eq_false_iff_not] at openedEpisode
  constructor
  · rw [Continues, event]
    intro other member same
    exact openedEpisode.1 ((tracked.known _).mpr ⟨other, member, same⟩)
  · exact fresh_unless_started history (by rw [event]; decide)
  · exact (claim_receipt_iff state record history tracked.receipts).mp ⟨seenReceipts, claimed⟩
  · rw [Room, event]
    trivial

include legal

theorem started_accepts (event : record.event = .restoreStarted)
    (admissible : Admissible history record) :
    ∃ next, state.observe record = .ok next ∧ Tracked next (history ++ [record]) := by
  have continues := admissible.continues
  have room := admissible.room
  rw [Continues, event] at continues
  rw [Room, event] at room
  obtain ⟨opened, unadmitted⟩ := continues
  apply observe_accepts tracked (by rw [event]; decide) opened admissible.freshReceipt
  intro episode tracks
  obtain ⟨source, start, fields, replayed⟩ := replay_started
    { episode with lastNs := record.observedAtNs.val } state.seenTransfers record event
  have startedValue : startedTransfer record = some source.transfer := by
    rw [startedTransfer, if_pos event, start.2]
  have unseen : source.transfer ∉ state.seenTransfers := by
    rw [tracked.transfers]
    exact admissible.freshTransfer source.transfer startedValue
  have free := (unadmitted_iff tracks).mp unadmitted
  rw [if_neg (by simp [free, unseen])] at replayed
  obtain ⟨normalizer, outcome⟩ := (started_outcome_iff tracked.replayed legal source start fields
    admissible.freshTransfer).mpr room
  refine ⟨_, _, _, normalizer, replayed, progress_started _ source.transfer start, ?_, outcome,
    started_replayed tracked.replayed legal source start admissible.freshTransfer outcome⟩
  intro transfer
  rw [Finset.mem_insert, startedValue, Option.some.injEq, or_comm, eq_comm]

theorem started_sound (event : record.event = .restoreStarted) (next : ChainState)
    (observed : state.observe record = .ok next) : Admissible history record := by
  obtain ⟨opened, freshReceipt, episode, source, progress, seenTransfers, normalizer, tracks,
    replayed, outcome⟩ := observe_checked tracked (by rw [event]; decide) next observed
  obtain ⟨known, start, fields, equation⟩ := replay_started
    { episode with lastNs := record.observedAtNs.val } state.seenTransfers record event
  rw [equation] at replayed
  split at replayed
  · cases replayed
  · rename_i free
    obtain ⟨unadmitted, unseen⟩ := not_or.mp free
    cases replayed
    have startedValue : startedTransfer record = some known.transfer := by
      rw [startedTransfer, if_pos event, start.2]
    have freshTransfer : Fresh startedTransfer history record := by
      intro transfer value
      rw [startedValue] at value
      cases value
      rw [← tracked.transfers]
      exact unseen
    refine ⟨?_, freshTransfer, freshReceipt, ?_⟩
    · rw [Continues, event]
      exact ⟨opened, (unadmitted_iff tracks).mpr (Bool.not_eq_true _ ▸ unadmitted)⟩
    · rw [Room, event]
      exact (started_outcome_iff tracked.replayed legal known start fields freshTransfer).mp
        ⟨normalizer, outcome⟩

theorem completed_accepts (event : record.event = .restoreCompleted)
    (admissible : Admissible history record) :
    ∃ next, state.observe record = .ok next ∧ Tracked next (history ++ [record]) := by
  have continues := admissible.continues
  have room := admissible.room
  rw [Continues, event] at continues
  rw [Room, event] at room
  obtain ⟨opened, unadmitted, completes⟩ := continues
  apply observe_accepts tracked (by rw [event]; decide) opened admissible.freshReceipt
  intro episode tracks
  obtain ⟨source, receipt, known, completion, replayed⟩ := replay_completed
    { episode with lastNs := record.observedAtNs.val } state.seenTransfers record event
  have free := (unadmitted_iff tracks).mp unadmitted
  rw [if_neg (by simp [free])] at replayed
  obtain ⟨normalizer, outcome⟩ := (completed_outcome_iff tracked.replayed legal source receipt
    known).mpr ⟨completes, room⟩
  refine ⟨_, _, _, normalizer, replayed, progress_completed _ source.transfer completion, ?_,
    outcome, completed_replayed tracked.replayed legal source receipt known completes outcome⟩
  intro transfer
  simp [startedTransfer, event]

theorem completed_sound (event : record.event = .restoreCompleted) (next : ChainState)
    (observed : state.observe record = .ok next) : Admissible history record := by
  obtain ⟨opened, freshReceipt, episode, source, progress, seenTransfers, normalizer, tracks,
    replayed, outcome⟩ := observe_checked tracked (by rw [event]; decide) next observed
  obtain ⟨completed, receipt, known, completion, equation⟩ := replay_completed
    { episode with lastNs := record.observedAtNs.val } state.seenTransfers record event
  rw [equation] at replayed
  split at replayed
  · cases replayed
  · rename_i unadmitted
    cases replayed
    obtain ⟨completes, room⟩ := (completed_outcome_iff tracked.replayed legal completed receipt
      known).mp ⟨normalizer, outcome⟩
    refine ⟨?_, fresh_unless_started history (by rw [event]; decide), freshReceipt, ?_⟩
    · rw [Continues, event]
      exact ⟨opened, (unadmitted_iff tracks).mpr (Bool.not_eq_true _ ▸ unadmitted), completes⟩
    · rw [Room, event]
      exact room

theorem admitted_accepts (event : record.event = .recoveryAdmitted)
    (admissible : Admissible history record) :
    ∃ next, state.observe record = .ok next ∧ Tracked next (history ++ [record]) := by
  have continues := admissible.continues
  have room := admissible.room
  rw [Continues, event] at continues
  rw [Room, event] at room
  obtain ⟨opened, unadmitted, covers⟩ := continues
  apply observe_accepts tracked (by rw [event]; decide) opened admissible.freshReceipt
  intro episode tracks
  obtain ⟨source, fields, epoch, replayed⟩ := replay_admitted
    { episode with lastNs := record.observedAtNs.val } state.seenTransfers record event
  have free := (unadmitted_iff tracks).mp unadmitted
  obtain ⟨started, completed⟩ := (covers_roster_iff tracks).mp covers
  rw [if_neg (by simp [free, ← started, ← completed])] at replayed
  obtain ⟨normalizer, outcome⟩ := (admitted_outcome_iff tracked.replayed legal source fields epoch
    opened unadmitted covers).mpr room
  refine ⟨_, _, _, normalizer, replayed, progress_admitted _ event, ?_, outcome,
    admitted_replayed tracked.replayed source fields opened unadmitted outcome⟩
  intro transfer
  simp [startedTransfer, event]

theorem admitted_sound (event : record.event = .recoveryAdmitted) (next : ChainState)
    (observed : state.observe record = .ok next) : Admissible history record := by
  obtain ⟨opened, freshReceipt, episode, source, progress, seenTransfers, normalizer, tracks,
    replayed, outcome⟩ := observe_checked tracked (by rw [event]; decide) next observed
  obtain ⟨admitted, fields, epoch, equation⟩ := replay_admitted
    { episode with lastNs := record.observedAtNs.val } state.seenTransfers record event
  rw [equation] at replayed
  split at replayed
  · cases replayed
  · rename_i complete
    rw [not_or, not_or, not_not, not_not] at complete
    obtain ⟨free, started, completed⟩ := complete
    cases replayed
    have unadmitted := (unadmitted_iff tracks).mpr (Bool.not_eq_true _ ▸ free)
    have covers := (covers_roster_iff tracks).mpr ⟨started, completed⟩
    refine ⟨?_, fresh_unless_started history (by rw [event]; decide), freshReceipt, ?_⟩
    · rw [Continues, event]
      exact ⟨opened, unadmitted, covers⟩
    · rw [Room, event]
      exact (admitted_outcome_iff tracked.replayed legal admitted fields epoch opened unadmitted
        covers).mp ⟨normalizer, outcome⟩

omit legal in
theorem computed_accepts (event : record.event = .firstCompute)
    (admissible : Admissible history record) :
    ∃ next, state.observe record = .ok next ∧ Tracked next (history ++ [record]) := by
  have continues := admissible.continues
  rw [Continues, event] at continues
  obtain ⟨opened, admission⟩ := continues
  apply observe_accepts tracked (by rw [event]; decide) opened admissible.freshReceipt
  intro episode tracks
  obtain ⟨source, fields, epoch, scope, replayed⟩ := replay_computed
    { episode with lastNs := record.observedAtNs.val } state.seenTransfers record event
  obtain ⟨normalizer, outcome⟩ := (computed_outcome_iff tracked.replayed source fields epoch scope
    opened).mpr admission
  refine ⟨_, _, _, normalizer, replayed, progress_computed _ event, ?_, outcome,
    computed_replayed tracked.replayed source fields outcome⟩
  intro transfer
  simp [startedTransfer, event]

omit legal in
theorem computed_sound (event : record.event = .firstCompute) (next : ChainState)
    (observed : state.observe record = .ok next) : Admissible history record := by
  obtain ⟨opened, freshReceipt, episode, source, progress, seenTransfers, normalizer, tracks,
    replayed, outcome⟩ := observe_checked tracked (by rw [event]; decide) next observed
  obtain ⟨computed, fields, epoch, scope, equation⟩ := replay_computed
    { episode with lastNs := record.observedAtNs.val } state.seenTransfers record event
  rw [equation] at replayed
  cases replayed
  have admission := (computed_outcome_iff tracked.replayed computed fields epoch scope opened).mp
    ⟨normalizer, outcome⟩
  refine ⟨?_, fresh_unless_started history (by rw [event]; decide), freshReceipt, ?_⟩
  · rw [Continues, event]
    exact ⟨opened, admission⟩
  · rw [Room, event]
    trivial

end Advance

theorem irrelevant_inadmissible (history : History) (record : KVTransferObservation)
    (irrelevant : record.event ∉ relevant) : ¬ Admissible history record := by
  intro admissible
  have continues := admissible.continues
  unfold Continues at continues
  cases event : record.event <;> rw [event] at continues irrelevant <;>
    first | exact absurd (by decide) irrelevant | exact continues

/-- The loop body goes on exactly with the admissible records. -/
theorem observe_decides : OnlineCheck.Decides ChainState.observe Tracked Admissible where
  accepts := by
    intro state history record tracked legal admissible
    cases event : record.event with
    | recoveryRequeued => exact requeued_accepts tracked event admissible
    | restoreStarted => exact started_accepts tracked legal event admissible
    | restoreCompleted => exact completed_accepts tracked legal event admissible
    | recoveryAdmitted => exact admitted_accepts tracked legal event admissible
    | firstCompute => exact computed_accepts tracked event admissible
    | _ =>
        exact absurd admissible
          (irrelevant_inadmissible history record (by rw [event]; decide))
  sound := by
    intro state history record next tracked legal observed
    cases event : record.event with
    | recoveryRequeued => exact requeued_sound tracked event next observed
    | restoreStarted => exact started_sound tracked legal event next observed
    | restoreCompleted => exact completed_sound tracked legal event next observed
    | recoveryAdmitted => exact admitted_sound tracked legal event next observed
    | firstCompute => exact computed_sound tracked event next observed
    | _ =>
        obtain ⟨_, _, episode, source, progress, seenTransfers, _, _, replayed, _⟩ :=
          observe_checked tracked (by rw [event]; decide) next observed
        exact absurd replayed (replay_irrelevant _ _ record (by rw [event]; decide) _)

end KVTransferObservability.ChainTracking
