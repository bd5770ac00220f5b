import KVTransferObservability.NativeInFlight
import KVTransferObservability.NormalizerRejection

/-!
# What a rejected submission leaves behind

`observe` commits in two stages: the normalizer changes its tables and builds the
record, and only then is the record offered to the sink. A refusal of the second
stage does not undo the first.
-/

namespace KVTransferObservability.RejectedSubmission

open Library PythonValues Schema Observation Normalization Adapter NormalizerRecords
open NormalizerTransitions NormalizerRejection NativeInFlight

set_option autoImplicit false

/-- The normalizer would start the submission. -/
structure Startable (normalizer : LifecycleNormalizer) (source : CoreTransferSubmitted) :
    Prop where
  opened : normalizer.closed = false
  valid : normalizer.evidenceValid = true
  absent : source.transfer ∉ normalizer.pending
  unfinished : source.transfer ∉ normalizer.completedRestores
  room : normalizer.pending.size < normalizer.maxCorrelatedTransfers

/-- The start record of a submission. -/
def startedRecord (source : CoreTransferSubmitted) : KVTransferObservation :=
  { startedFields source with shape := started_shape source }

theorem startable_normalized (normalizer : LifecycleNormalizer) (source : CoreTransferSubmitted)
    (startable : Startable normalizer source) :
    normalizer.normalize (.submitted source) =
      (.ok (some (startedRecord source)), LifecycleNormalizer.countAccepted
        { normalizer with pending := normalizer.pending.insert source.transfer source }) := by
  obtain ⟨opened, valid, absent, unfinished, room⟩ := startable
  rw [normalize_handled normalizer _ opened valid]
  exact outcome_handled normalizer _ _ _
    (.started source (startedRecord source) rfl absent unfinished room)

theorem not_startable_normalized (normalizer : LifecycleNormalizer)
    (source : CoreTransferSubmitted) (blocked : ¬ Startable normalizer source) :
    (normalizer.normalize (.submitted source)).1 = .ok none ∧
      SameTables normalizer (normalizer.normalize (.submitted source)).2 := by
  obtain ⟨result, answered, transition⟩ :=
    step_transition normalizer (.normalize (.submitted source))
  change (normalizer.normalize (.submitted source)).1 = .ok result at answered
  change Transition normalizer (.normalize (.submitted source)) result
    (normalizer.normalize (.submitted source)).2 at transition
  rw [answered]
  generalize (normalizer.normalize (.submitted source)).2 = next at transition ⊢
  cases transition with
  | afterClose source closed => exact ⟨rfl, rfl, rfl, rfl⟩
  | afterLoss source opened lost => exact ⟨rfl, rfl, rfl, rfl⟩
  | handled source result next opened valid outcome =>
      cases outcome with
      | refused source reason => exact ⟨rfl, rfl, rfl, rfl⟩
      | submissionFull source absent unfinished full => exact ⟨rfl, rfl, rfl, rfl⟩
      | started source record fields absent unfinished room =>
          exact absurd ⟨opened, valid, absent, unfinished, room⟩ blocked

section Adapters

variable {Sink : Type} (emit : Sink → EventRecord → Py Bool × Sink)

/-- The adapter's normalizer, where it has one, has the tables it had. -/
def KeepsTables (before after : KVTransferHostAdapter Sink) : Prop :=
  ∀ normalizer, before.normalizer = some normalizer →
    ∃ next, after.normalizer = some next ∧ SameTables normalizer next

/-- If the adapter answers a submission with `False`, no table has changed. -/
def RejectionKeepsTables (adapter : KVTransferHostAdapter Sink)
    (source : CoreTransferSubmitted) : Prop :=
  (adapter.observe emit (.submitted source)).1 = false →
    KeepsTables adapter (adapter.observe emit (.submitted source)).2

/-- The sink takes the start record of every submission the normalizer starts. -/
def TakenWhenStarted (adapter : KVTransferHostAdapter Sink) (source : CoreTransferSubmitted) :
    Prop :=
  ∀ normalizer sink, adapter.state = .active → adapter.normalizer = some normalizer →
    adapter.sink = some sink → Startable normalizer source →
    (emit sink (.canonical (startedRecord source))).1 = .ok true

theorem observe_offered (adapter : KVTransferHostAdapter Sink)
    (normalizer next : LifecycleNormalizer) (sink : Sink) (source : SourceObservation)
    (record : KVTransferObservation) (active : adapter.state = .active)
    (normalizes : adapter.normalizer = some normalizer) (writes : adapter.sink = some sink)
    (normalized : normalizer.normalize source = (.ok (some record), next)) :
    ((adapter.observe emit source).1 = true ↔ (emit sink (.canonical record)).1 = .ok true) ∧
      (adapter.observe emit source).2.normalizer = some next := by
  rcases adapter with ⟨state, counters, held, written⟩
  dsimp only at active normalizes writes
  subst active normalizes writes
  unfold KVTransferHostAdapter.observe
  simp only [ne_eq, not_true_eq_false, if_false, KVTransferHostAdapter.count, normalized]
  rcases emit sink (.canonical record) with ⟨error | accepted, after⟩
  · exact ⟨by simp, rfl⟩
  · cases accepted with
    | false => exact ⟨by simp, rfl⟩
    | true => exact ⟨by simp, rfl⟩

theorem observe_dropped (adapter : KVTransferHostAdapter Sink)
    (normalizer next : LifecycleNormalizer) (sink : Sink) (source : SourceObservation)
    (active : adapter.state = .active) (normalizes : adapter.normalizer = some normalizer)
    (writes : adapter.sink = some sink)
    (normalized : normalizer.normalize source = (.ok none, next)) :
    (adapter.observe emit source).2.normalizer = some next := by
  rcases adapter with ⟨state, counters, held, written⟩
  dsimp only at active normalizes writes
  subst active normalizes writes
  unfold KVTransferHostAdapter.observe
  simp only [ne_eq, not_true_eq_false, if_false, KVTransferHostAdapter.count, normalized]

theorem observe_idle (adapter : KVTransferHostAdapter Sink) (source : SourceObservation)
    (idle : adapter.state = .active → adapter.normalizer = none ∨ adapter.sink = none) :
    (adapter.observe emit source).2.normalizer = adapter.normalizer := by
  rcases adapter with ⟨state, counters, held, written⟩
  unfold KVTransferHostAdapter.observe
  by_cases active : state = .active
  · simp only [ne_eq, active, not_true_eq_false, if_false, KVTransferHostAdapter.count]
    cases held with
    | none => rfl
    | some normalizer =>
        cases written with
        | none => rfl
        | some sink =>
            rcases idle active with missing | missing
            · cases missing
            · cases missing
  · simp only [ne_eq, active, not_false_eq_true, if_true, KVTransferHostAdapter.count]

theorem not_taken_loses (adapter : KVTransferHostAdapter Sink) (source : CoreTransferSubmitted)
    (normalizer : LifecycleNormalizer) (sink : Sink) (active : adapter.state = .active)
    (normalizes : adapter.normalizer = some normalizer) (writes : adapter.sink = some sink)
    (startable : Startable normalizer source)
    (refused : (emit sink (.canonical (startedRecord source))).1 ≠ .ok true) :
    ¬ RejectionKeepsTables emit adapter source := by
  obtain ⟨answer, inserted⟩ := observe_offered emit adapter normalizer _ sink _ _ active
    normalizes writes (startable_normalized normalizer source startable)
  intro keeps
  have rejected : (adapter.observe emit (.submitted source)).1 = false := by
    rw [← Bool.not_eq_true, answer]
    exact refused
  obtain ⟨next, found, tables⟩ := keeps rejected normalizer normalizes
  rw [inserted] at found
  cases found
  have pending : normalizer.pending.insert source.transfer source = normalizer.pending :=
    tables.pending
  have present : source.transfer ∈ normalizer.pending.insert source.transfer source :=
    Finmap.mem_insert.mpr (Or.inl rfl)
  rw [pending] at present
  exact startable.absent present

theorem taken_keeps (adapter : KVTransferHostAdapter Sink) (source : CoreTransferSubmitted)
    (taken : TakenWhenStarted emit adapter source) :
    RejectionKeepsTables emit adapter source := by
  intro rejected normalizer normalizes
  by_cases idle : adapter.state = .active → adapter.normalizer = none ∨ adapter.sink = none
  · refine ⟨normalizer, ?_, rfl, rfl, rfl⟩
    rw [observe_idle emit adapter _ idle, normalizes]
  · obtain ⟨active, busy⟩ := Classical.not_imp.mp idle
    obtain ⟨sink, writes⟩ := Option.ne_none_iff_exists'.mp (not_or.mp busy).2
    by_cases startable : Startable normalizer source
    · obtain ⟨answer, _⟩ := observe_offered emit adapter normalizer _ sink _ _ active normalizes
        writes (startable_normalized normalizer source startable)
      rw [answer.mpr (taken normalizer sink active normalizes writes startable)] at rejected
      cases rejected
    · obtain ⟨answered, tables⟩ := not_startable_normalized normalizer source startable
      refine ⟨(normalizer.normalize (.submitted source)).2, ?_, tables⟩
      exact observe_dropped emit adapter normalizer _ sink _ active normalizes writes
        (Prod.ext answered rfl)

/-- A rejected submission leaves the tables alone exactly when the sink takes the
start record, or the normalizer did not start the submission in the first place. -/
theorem rejected_submission_keeps_tables_iff (adapter : KVTransferHostAdapter Sink)
    (source : CoreTransferSubmitted) :
    RejectionKeepsTables emit adapter source ↔ TakenWhenStarted emit adapter source := by
  constructor
  · intro keeps normalizer sink active normalizes writes startable
    by_contra refused
    exact not_taken_loses emit adapter source normalizer sink active normalizes writes startable
      refused keeps
  · exact taken_keeps emit adapter source

end Adapters

/-- A just started adapter whose sink refuses the first submission, as a full or
closed sink does. -/
theorem refused_submission_stays_pending :
    let adapter : KVTransferHostAdapter Unit :=
      { state := .active, normalizer := some (fresh 1 1 true), sink := some () }
    let source := sampleSubmission ⟨10, by decide⟩
    ¬ RejectionKeepsTables (constantSink false) adapter source := by
  intro adapter source
  refine not_taken_loses (constantSink false) adapter source (fresh 1 1 true) () rfl rfl rfl
    ⟨rfl, rfl, Finmap.notMem_empty, Finmap.notMem_empty, ?_⟩ ?_
  · change Dict.size (∅ : Dict TransferIdentity CoreTransferSubmitted) < 1
    rw [Dict.size_empty]
    exact Nat.zero_lt_one
  · intro accepted
    cases accepted

end KVTransferObservability.RejectedSubmission
