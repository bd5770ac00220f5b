import KVTransferObservability.NormalizerTransitions

/-!
# The counters of the normalizer

Every call of `normalize` adds one to exactly one counter, and to `accepted` exactly if
it returns a record. A capacity drop, a first compute that does not match its admission
and `close` are final: from then on every observation is dropped and counted as such.
-/

namespace KVTransferObservability.NormalizerCounters

open Library PythonValues Schema Observation Normalization NormalizerTransitions
open LifecycleNormalizer

set_option autoImplicit false

/-- The outcomes counted so far. -/
def total (counters : NormalizationCounters) : Nat :=
  counters.accepted + counters.invalid + counters.capacityDropped +
    counters.evidenceDisabledDropped + counters.closedDropped

def isNormalize : Call → Bool
  | .normalize _ => true
  | .close => false

/-- No observation is looked at any more. -/
def Latched (self : LifecycleNormalizer) : Prop :=
  self.closed = true ∨ self.evidenceValid = false

/-! ## One call -/

/-- What a call that is looked at adds to the counters. -/
structure Counted (result : Option KVTransferObservation) (normalizer next : LifecycleNormalizer) :
    Prop where
  total : total next.counterValues = total normalizer.counterValues + 1
  accepted : next.counterValues.accepted =
    normalizer.counterValues.accepted + (if result.isSome then 1 else 0)
  capacity : next.counterValues.capacityDropped = normalizer.counterValues.capacityDropped ∨
    (next.counterValues.capacityDropped = normalizer.counterValues.capacityDropped + 1 ∧
      normalizer.evidenceValid = true ∧ next.evidenceValid = false)
  closed : next.closed = normalizer.closed
  lost : normalizer.evidenceValid = false → next.evidenceValid = false

theorem total_accepted (counters : NormalizationCounters) :
    total { counters with accepted := counters.accepted + 1 } = total counters + 1 := by
  simp only [total]
  omega

theorem total_invalid (counters : NormalizationCounters) :
    total { counters with invalid := counters.invalid + 1 } = total counters + 1 := by
  simp only [total]
  omega

theorem total_capacity (counters : NormalizationCounters) :
    total { counters with capacityDropped := counters.capacityDropped + 1 } =
      total counters + 1 := by
  simp only [total]
  omega

theorem outcome_counted (self : LifecycleNormalizer) (source : SourceObservation)
    (result : Option KVTransferObservation) (next : LifecycleNormalizer)
    (valid : self.evidenceValid = true) (outcome : Outcome self source result next) :
    Counted result self next := by
  have stays : self.evidenceValid = false → next.evidenceValid = false := by
    intro lost
    rw [valid] at lost
    cases lost
  cases outcome with
  | refused source reason => exact ⟨total_invalid _, rfl, .inl rfl, rfl, stays⟩
  | mismatched source mismatch => exact ⟨total_invalid _, rfl, .inl rfl, rfl, stays⟩
  | torn source pending object text found ordered =>
      exact ⟨total_invalid _, rfl, .inl rfl, rfl, stays⟩
  | submissionFull source fresh unfinished full =>
      exact ⟨total_capacity _, rfl, .inr ⟨rfl, valid, rfl⟩, rfl, stays⟩
  | completionFull source pending receipt matched retained full =>
      exact ⟨total_capacity _, rfl, .inr ⟨rfl, valid, rfl⟩, rfl, stays⟩
  | admissionFull source epoch fresh full =>
      exact ⟨total_capacity _, rfl, .inr ⟨rfl, valid, rfl⟩, rfl, stays⟩
  | _ => exact ⟨total_accepted _, rfl, .inl rfl, rfl, stays⟩

structure EmptyTables (normalizer : LifecycleNormalizer) : Prop where
  pending : normalizer.pending = ∅
  completedRestores : normalizer.completedRestores = ∅
  admissions : normalizer.admissions = ∅

/-- An observation is dropped: no record, no table changed, one counter increased. -/
structure Dropped (normalizer : LifecycleNormalizer) (attempt : Attempt) : Prop where
  silent : attempt.1 = .ok none
  tables : SameTables normalizer attempt.2
  counted : attempt.2.counterValues =
    if normalizer.closed then
      { normalizer.counterValues with closedDropped := normalizer.counterValues.closedDropped + 1 }
    else
      { normalizer.counterValues with
        evidenceDisabledDropped := normalizer.counterValues.evidenceDisabledDropped + 1 }

/-- `close` clears the tables the first time, and counts nothing. -/
structure Cleared (normalizer : LifecycleNormalizer) (attempt : Attempt) : Prop where
  silent : attempt.1 = .ok none
  tables : if normalizer.closed then SameTables normalizer attempt.2 else EmptyTables attempt.2
  counted : attempt.2.counterValues = normalizer.counterValues

/-- How a latched normalizer answers a call. -/
def Ignored (self : LifecycleNormalizer) (call : Call) : Prop :=
  match call with
  | .normalize _ => Dropped self (step self call)
  | .close => Cleared self (step self call)

theorem latched_ignores (self : LifecycleNormalizer) (latched : Latched self) (call : Call) :
    Ignored self call := by
  cases call with
  | normalize source =>
      change Dropped self (self.normalize source)
      unfold LifecycleNormalizer.normalize
      by_cases closed : self.closed = true
      · rw [if_pos closed]
        exact ⟨rfl, ⟨rfl, rfl, rfl⟩, (if_pos closed).symm⟩
      · have lost : self.evidenceValid = false := latched.resolve_left closed
        rw [if_neg closed, lost]
        exact ⟨rfl, ⟨rfl, rfl, rfl⟩, (if_neg closed).symm⟩
  | close =>
      change Cleared self (.ok none, self.close)
      unfold LifecycleNormalizer.close
      by_cases closed : self.closed = true
      · rw [if_pos closed]
        refine ⟨rfl, ?_, rfl⟩
        rw [if_pos closed]
        exact ⟨rfl, rfl, rfl⟩
      · rw [if_neg closed]
        refine ⟨rfl, ?_, rfl⟩
        rw [if_neg closed]
        exact ⟨rfl, rfl, rfl⟩

/-- The latch does not open again. -/
theorem latched_step (self : LifecycleNormalizer) (latched : Latched self) (call : Call) :
    Latched (step self call).2 := by
  obtain ⟨result, _, transition⟩ := step_transition self call
  generalize (step self call).2 = next at transition
  cases transition with
  | afterClose source closed => exact latched
  | afterLoss source opened lost => exact latched
  | handled source result next opened valid outcome =>
      rcases latched with closed | lost
      · rw [opened] at closed
        cases closed
      · rw [valid] at lost
        cases lost
  | closed =>
      left
      unfold close
      split
      · assumption
      · rfl

theorem step_total (self : LifecycleNormalizer) (call : Call) :
    total (step self call).2.counterValues =
      total self.counterValues + (if isNormalize call then 1 else 0) := by
  obtain ⟨result, _, transition⟩ := step_transition self call
  generalize (step self call).2 = next at transition
  cases transition with
  | afterClose source closed => rfl
  | afterLoss source opened lost =>
      change total { self.counterValues with evidenceDisabledDropped := _ } = _
      simp only [total, isNormalize, if_true]
      omega
  | handled source result next opened valid outcome =>
      exact (outcome_counted self source result _ valid outcome).total
  | closed =>
      unfold close
      split
      · rfl
      · rfl

theorem step_accepted (self : LifecycleNormalizer) (call : Call) :
    (step self call).2.counterValues.accepted =
      self.counterValues.accepted + (if (returned (step self call).1).isSome then 1 else 0) := by
  obtain ⟨result, answer, transition⟩ := step_transition self call
  rw [answer]
  generalize (step self call).2 = next at transition
  cases transition with
  | afterClose source closed => rfl
  | afterLoss source opened lost => rfl
  | handled source result next opened valid outcome =>
      exact (outcome_counted self source result _ valid outcome).accepted
  | closed =>
      unfold close
      split
      · rfl
      · rfl

/-- No capacity drop while evidence is valid, and one at most. -/
structure OneDrop (normalizer : LifecycleNormalizer) : Prop where
  bounded : normalizer.counterValues.capacityDropped ≤ 1
  none : normalizer.evidenceValid = true → normalizer.counterValues.capacityDropped = 0

theorem step_one_drop (self : LifecycleNormalizer) (call : Call) (holds : OneDrop self) :
    OneDrop (step self call).2 := by
  obtain ⟨result, _, transition⟩ := step_transition self call
  generalize (step self call).2 = next at transition
  cases transition with
  | afterClose source closed => exact ⟨holds.bounded, holds.none⟩
  | afterLoss source opened lost => exact ⟨holds.bounded, holds.none⟩
  | handled source result next opened valid outcome =>
      have counted := outcome_counted self source result _ valid outcome
      have before := holds.none valid
      rcases counted.capacity with same | ⟨more, _, lost⟩
      · refine ⟨by omega, ?_⟩
        intro _
        exact same.trans before
      · refine ⟨by omega, ?_⟩
        intro valid
        rw [lost] at valid
        cases valid
  | closed =>
      unfold close
      split
      · exact holds
      · exact ⟨holds.bounded, holds.none⟩

/-! ## The calls that are final -/

/-- `close`, a drop for capacity, and a first compute that is looked at and does not
match its admission. -/
inductive Disables (self : LifecycleNormalizer) : Call → Prop
  | close : Disables self .close
  | capacity (source : SourceObservation)
      (dropped : self.counterValues.capacityDropped <
        (self.normalize source).2.counterValues.capacityDropped) :
      Disables self (.normalize source)
  | mismatch (source : FirstComputeObserved) (opened : self.closed = false)
      (valid : self.evidenceValid = true)
      (mismatch : matchesAdmission (self.admissions.lookup source.identity) source = false) :
      Disables self (.normalize (.firstCompute source))

theorem disables_latches (self : LifecycleNormalizer) (call : Call)
    (disables : Disables self call) : Latched (step self call).2 := by
  cases disables with
  | close =>
      left
      change self.close.closed = true
      unfold LifecycleNormalizer.close
      split
      · assumption
      · rfl
  | capacity source dropped =>
      right
      change self.counterValues.capacityDropped <
        (step self (.normalize source)).2.counterValues.capacityDropped at dropped
      obtain ⟨result, _, transition⟩ := step_transition self (.normalize source)
      generalize (step self (.normalize source)).2 = next at transition dropped
      cases transition with
      | afterClose source closed => exact absurd dropped (Nat.lt_irrefl _)
      | afterLoss source opened lost => exact absurd dropped (Nat.lt_irrefl _)
      | handled source result next opened valid outcome =>
          have counted := outcome_counted self source result _ valid outcome
          rcases counted.capacity with same | ⟨_, _, lost⟩
          · rw [same] at dropped
            exact absurd dropped (Nat.lt_irrefl _)
          · exact lost
  | mismatch source opened valid mismatch =>
      right
      have answer := outcome_handled self _ _ _ (.mismatched source mismatch)
      change (self.normalize (.firstCompute source)).2.evidenceValid = false
      rw [normalize_handled self _ opened valid, answer]
      rfl

/-! ## Runs -/

theorem run_total (self : LifecycleNormalizer) (calls : List Call) :
    total (Machine.finalState step self calls).counterValues =
      total self.counterValues + calls.countP isNormalize := by
  induction calls generalizing self with
  | nil => rfl
  | cons call calls induction =>
      rw [Machine.final_state_cons, induction, step_total, List.countP_cons]
      omega

theorem run_accepted (self : LifecycleNormalizer) (calls : List Call) :
    (Machine.finalState step self calls).counterValues.accepted =
      self.counterValues.accepted + (emitted self calls).length := by
  induction calls generalizing self with
  | nil => rfl
  | cons call calls induction =>
      rw [Machine.final_state_cons, induction, step_accepted]
      unfold emitted
      rw [Machine.outputs, List.filterMap_cons]
      cases answer : returned (step self call).1 with
      | none => rfl
      | some record =>
          rw [List.length_cons]
          simp only [Option.isSome_some, if_true]
          omega

theorem run_answers (self : LifecycleNormalizer) (calls : List Call) :
    ∀ output ∈ Machine.outputs step self calls, ∃ result, output = .ok result := by
  induction calls generalizing self with
  | nil =>
      intro output member
      cases member
  | cons call calls induction =>
      rw [Machine.outputs, List.forall_mem_cons]
      obtain ⟨result, answer, _⟩ := step_transition self call
      exact ⟨⟨result, answer⟩, induction _⟩

theorem run_latched (self : LifecycleNormalizer) (calls : List Call) (latched : Latched self) :
    Latched (Machine.finalState step self calls) :=
  Machine.invariant_run step Latched (fun self call latched => latched_step self latched call) self
    calls latched

theorem run_one_drop (transfers admissions : Nat) (retain : Bool) (calls : List Call) :
    OneDrop (Machine.finalState step (fresh transfers admissions retain) calls) :=
  Machine.invariant_run step OneDrop step_one_drop (fresh transfers admissions retain) calls
    ⟨Nat.zero_le 1, fun _ => rfl⟩

/-- Whatever the calls are, in whatever order they take the lock: each ends normally, the
counters add up to the calls of `normalize`, `accepted` counts the records returned, and
one drop for capacity at most is counted. After a final call every other is ignored. -/
theorem outcomes_accounted_and_disabling_permanent (transfers admissions : Nat) (retain : Bool)
    (calls : List Call) :
    (∀ output ∈ Machine.outputs step (fresh transfers admissions retain) calls,
        ∃ result, output = .ok result) ∧
      total (Machine.finalState step (fresh transfers admissions retain) calls).counterValues =
        calls.countP isNormalize ∧
      (Machine.finalState step (fresh transfers admissions retain) calls).counterValues.accepted =
        (emitted (fresh transfers admissions retain) calls).length ∧
      (Machine.finalState step (fresh transfers admissions retain)
        calls).counterValues.capacityDropped ≤ 1 ∧
      ∀ before call between later after,
        calls = before ++ call :: (between ++ later :: after) →
        Disables (Machine.finalState step (fresh transfers admissions retain) before) call →
        Ignored (Machine.finalState step (fresh transfers admissions retain)
          (before ++ call :: between)) later := by
  refine ⟨run_answers _ calls, ?_, ?_, (run_one_drop transfers admissions retain calls).bounded,
    ?_⟩
  · have totals := run_total (fresh transfers admissions retain) calls
    rw [totals]
    exact Nat.zero_add _
  · have accepted := run_accepted (fresh transfers admissions retain) calls
    rw [accepted]
    exact Nat.zero_add _
  · intro before call between later after _ disables
    apply latched_ignores
    rw [Machine.final_state_append, Machine.final_state_cons]
    exact run_latched _ between (disables_latches _ call disables)

end KVTransferObservability.NormalizerCounters
