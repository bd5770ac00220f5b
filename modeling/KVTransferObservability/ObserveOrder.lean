import KVTransferObservability.Adapter
import KVTransferObservability.EventSink
import KVTransferObservability.RejectedSubmission

/-!
# The order of concurrent observations

`observe` takes two locks one after the other: the normalizer's, which fixes the
order in which records are accepted, and the sink's, which fixes the order in which
they are written. Between the two, calls on other threads may run.
-/

namespace KVTransferObservability.ObserveOrder

open Library PythonValues Schema Observation Normalization Adapter NormalizerTransitions
open NativeInFlight RejectedSubmission

set_option autoImplicit false

section Halves

variable {Sink : Type} (emit : Sink → EventRecord → Py Bool × Sink)

/-- `observe` up to the answer of the normalizer; with no record the call is over. -/
def observeNormalize (self : KVTransferHostAdapter Sink) (source : SourceObservation) :
    Option KVTransferObservation × KVTransferHostAdapter Sink :=
  if self.state ≠ .active then
    (none, self.count KVTransferHostAdapter.countInactiveDropped)
  else
    let self := self.count fun counters =>
      { counters with observationsReceived := counters.observationsReceived + 1 }
    match self.normalizer, self.sink with
    | some normalizer, some _ =>
        match normalizer.normalize source with
        | (.error _, normalizer) =>
            (none, { self with normalizer := some normalizer }.count
              KVTransferHostAdapter.countCallbackErrors)
        | (.ok none, normalizer) =>
            (none, { self with normalizer := some normalizer }.count
              KVTransferHostAdapter.countNormalizationDropped)
        | (.ok (some observation), normalizer) =>
            (some observation, { self with normalizer := some normalizer })
    | _, _ => (none, self.count KVTransferHostAdapter.countCallbackErrors)

/-- The rest of `observe`, once the normalizer has answered with a record. -/
def observeEnqueue (self : KVTransferHostAdapter Sink) (observation : KVTransferObservation) :
    Bool × KVTransferHostAdapter Sink :=
  match self.sink with
  | none => (false, self.count KVTransferHostAdapter.countCallbackErrors)
  | some sink =>
      match emit sink (.canonical observation) with
      | (.error _, sink) =>
          (false, { self with sink := some sink }.count KVTransferHostAdapter.countCallbackErrors)
      | (.ok false, sink) =>
          (false, { self with sink := some sink }.count KVTransferHostAdapter.countSinkDropped)
      | (.ok true, sink) =>
          (true, { self with sink := some sink }.count fun counters =>
            { counters with observationsEmitted := counters.observationsEmitted + 1 })

/-- A call that is not interrupted is its two halves in a row. -/
theorem observe_halves (self : KVTransferHostAdapter Sink) (source : SourceObservation) :
    self.observe emit source =
      match observeNormalize self source with
      | (none, next) => (false, next)
      | (some observation, next) => observeEnqueue emit next observation := by
  rcases self with ⟨state, counters, held, written⟩
  unfold KVTransferHostAdapter.observe observeNormalize
  by_cases active : state = .active
  · simp only [ne_eq, active, not_true_eq_false, if_false, KVTransferHostAdapter.count]
    cases held with
    | none => rfl
    | some normalizer =>
        cases written with
        | none => rfl
        | some sink =>
            rcases normalized : normalizer.normalize source with ⟨error | observation, next⟩
            · simp only [normalized]
            · cases observation with
              | none => simp only [normalized]
              | some observation =>
                  simp only [normalized]
                  rfl
  · simp only [ne_eq, active, not_false_eq_true, if_true]

end Halves

/-! ## Interleaved calls -/

/-- The adapter, the records the normalizer has accepted, and for each call a ticket:
the place of its record among them. A call waits between its two halves. -/
structure ConcurrentObserve (Sink : Type) where
  adapter : KVTransferHostAdapter Sink
  normalized : List KVTransferObservation := []
  waiting : List Nat := []
  accepted : List Nat := []

inductive ObserveEvent (Sink : Type)
  | normalize (source : SourceObservation)
  | enqueue (ticket : Nat)
  /-- The writer, `close` or another producer has changed the sink. -/
  | sinkMoves (sink : Sink)

section Runs

variable {Sink : Type} (emit : Sink → EventRecord → Py Bool × Sink)

def step (state : ConcurrentObserve Sink) :
    ObserveEvent Sink → Option (ConcurrentObserve Sink)
  | .normalize source =>
      match observeNormalize state.adapter source with
      | (none, adapter) => some { state with adapter := adapter }
      | (some observation, adapter) =>
          some { state with
            adapter := adapter
            normalized := state.normalized ++ [observation]
            waiting := state.waiting ++ [state.normalized.length] }
  | .enqueue ticket =>
      match state.waiting.contains ticket, state.normalized[ticket]? with
      | true, some observation =>
          let (answer, adapter) := observeEnqueue emit state.adapter observation
          some { state with
            adapter := adapter
            waiting := state.waiting.erase ticket
            accepted := if answer then state.accepted ++ [ticket] else state.accepted }
      | _, _ => none
  | .sinkMoves sink => some { state with adapter := { state.adapter with sink := some sink } }

/-- The records the sink has accepted, in the order of the file. -/
def recorded (state : ConcurrentObserve Sink) : List KVTransferObservation :=
  state.accepted.filterMap (state.normalized[·]?)

/-- The sink has accepted records in the order in which the normalizer had. -/
structure CausalOrder (state : ConcurrentObserve Sink) : Prop where
  tickets : state.accepted.Pairwise (· < ·)
  records : (recorded state).Sublist state.normalized

/-- No call enqueues its record while one that was normalized before it still waits. -/
def NotOvertaking (state : ConcurrentObserve Sink) : ObserveEvent Sink → Prop
  | .enqueue ticket => ∀ other ∈ state.waiting, ticket ≤ other
  | _ => True

/-- Tickets wait in order, and behind every accepted one. -/
structure Queued (state : ConcurrentObserve Sink) : Prop where
  waiting : state.waiting.Pairwise (· < ·)
  issued : ∀ ticket ∈ state.waiting, ticket < state.normalized.length
  accepted : state.accepted.Pairwise (· < ·)
  known : ∀ ticket ∈ state.accepted, ticket < state.normalized.length
  behind : ∀ first ∈ state.accepted, ∀ later ∈ state.waiting, first < later

theorem queued_normalize (state : ConcurrentObserve Sink) (holds : Queued state)
    (observation : KVTransferObservation) (adapter : KVTransferHostAdapter Sink) :
    Queued { state with
      adapter := adapter
      normalized := state.normalized ++ [observation]
      waiting := state.waiting ++ [state.normalized.length] } := by
  obtain ⟨waiting, issued, accepted, known, behind⟩ := holds
  have longer : state.normalized.length < (state.normalized ++ [observation]).length := by
    rw [List.length_append, List.length_singleton]
    exact Nat.lt_succ_self _
  refine ⟨?_, ?_, accepted, ?_, ?_⟩
  · rw [List.pairwise_append]
    refine ⟨waiting, List.pairwise_singleton _ _, ?_⟩
    intro ticket member last new
    rw [List.mem_singleton.mp new]
    exact issued ticket member
  · intro ticket member
    rcases List.mem_append.mp member with old | new
    · exact (issued ticket old).trans longer
    · rw [List.mem_singleton.mp new]
      exact longer
  · intro ticket member
    exact (known ticket member).trans longer
  · intro first member later found
    rcases List.mem_append.mp found with old | new
    · exact behind first member later old
    · rw [List.mem_singleton.mp new]
      exact known first member

theorem queued_enqueue (state : ConcurrentObserve Sink) (holds : Queued state) (ticket : Nat)
    (waits : ticket ∈ state.waiting) (first : ∀ other ∈ state.waiting, ticket ≤ other)
    (adapter : KVTransferHostAdapter Sink) (answer : Bool) :
    Queued { state with
      adapter := adapter
      waiting := state.waiting.erase ticket
      accepted := if answer then state.accepted ++ [ticket] else state.accepted } := by
  obtain ⟨waiting, issued, accepted, known, behind⟩ := holds
  have kept : ∀ other ∈ state.waiting.erase ticket, other ∈ state.waiting :=
    fun other member => List.mem_of_mem_erase member
  have distinct : state.waiting.Nodup := waiting.imp fun less => Nat.ne_of_lt less
  refine ⟨waiting.sublist List.erase_sublist, fun other member => issued other (kept other member),
    ?_, ?_, ?_⟩
  · cases answer with
    | false => exact accepted
    | true =>
        refine List.pairwise_append.mpr ⟨accepted, List.pairwise_singleton _ _, ?_⟩
        intro earlier member last new
        rw [List.mem_singleton.mp new]
        exact behind earlier member ticket waits
  · cases answer with
    | false => exact known
    | true =>
        intro other member
        rcases List.mem_append.mp member with old | new
        · exact known other old
        · rw [List.mem_singleton.mp new]
          exact issued ticket waits
  · intro earlier member later found
    have remaining := kept later found
    cases answer with
    | false => exact behind earlier member later remaining
    | true =>
        rcases List.mem_append.mp member with old | new
        · exact behind earlier old later remaining
        · rw [List.mem_singleton.mp new]
          have different : later ≠ ticket := by
            rintro rfl
            exact (List.Nodup.mem_erase_iff distinct).mp found |>.1 rfl
          exact lt_of_le_of_ne (first later remaining) (Ne.symm different)

theorem step_queued (state : ConcurrentObserve Sink) (event : ObserveEvent Sink)
    (next : ConcurrentObserve Sink) (holds : Queued state) (meets : NotOvertaking state event)
    (taken : step emit state event = some next) : Queued next := by
  cases event with
  | normalize source =>
      simp only [step] at taken
      split at taken
      · cases taken
        exact ⟨holds.waiting, holds.issued, holds.accepted, holds.known, holds.behind⟩
      · cases taken
        exact queued_normalize state holds _ _
  | enqueue ticket =>
      simp only [step] at taken
      split at taken
      · rename_i observation waits found
        cases taken
        exact queued_enqueue state holds ticket (List.contains_iff_mem.mp waits) meets _ _
      · cases taken
  | sinkMoves sink =>
      cases taken
      exact ⟨holds.waiting, holds.issued, holds.accepted, holds.known, holds.behind⟩

/-- Increasing places of a list pick a sublist of it. -/
theorem increasing_places_sublist {Item : Type} (items : List Item) (places : List Nat)
    (increasing : places.Pairwise (· < ·)) (known : ∀ place ∈ places, place < items.length) :
    (places.filterMap (items[·]?)).Sublist items := by
  have picked : places.filterMap (items[·]?) =
      (places.pmap Fin.mk known).map (fun place => items[place]) := by
    rw [List.map_pmap]
    induction places with
    | nil => rfl
    | cons place places induction =>
        have here := known place List.mem_cons_self
        rw [List.filterMap_cons_some (List.getElem?_eq_getElem here), List.pmap_cons,
          induction (List.pairwise_cons.mp increasing).2
            (fun other member => known other (List.mem_cons_of_mem place member))]
        rfl
  rw [picked]
  apply List.map_getElem_sublist
  rw [List.pairwise_pmap]
  exact increasing.imp fun less _ _ => less

theorem queued_causal (state : ConcurrentObserve Sink) (holds : Queued state) :
    CausalOrder state :=
  ⟨holds.accepted,
    increasing_places_sublist state.normalized state.accepted holds.accepted holds.known⟩

/-- As long as no call overtakes another between its two halves, the file has the
order of the normalizer. -/
theorem recorded_in_causal_order_without_overtaking (adapter : KVTransferHostAdapter Sink)
    (events : List (ObserveEvent Sink)) (state : ConcurrentObserve Sink)
    (meets : Steps.Along (step emit) NotOvertaking { adapter := adapter } events)
    (reached : Steps.run (step emit) { adapter := adapter } events = some state) :
    CausalOrder state := by
  have initial : Queued ({ adapter := adapter } : ConcurrentObserve Sink) :=
    ⟨List.Pairwise.nil, List.forall_mem_nil _, List.Pairwise.nil, List.forall_mem_nil _,
      List.forall_mem_nil _⟩
  exact queued_causal state (Steps.invariant_along (step emit) Queued NotOvertaking
    (step_queued emit) _ state events initial meets reached)

end Runs

/-! ## Two threads -/

def servingAdapter : KVTransferHostAdapter Unit :=
  { state := .active, normalizer := some (fresh 1 1 true), sink := some () }

/-- A submission and its completion, with both calls between their halves at once. -/
def overlappingCalls (first second : Nat) : List (ObserveEvent Unit) :=
  [.normalize (.submitted (sampleSubmission ⟨10, time_ten⟩)),
    .normalize (.completed (sampleCompletion ⟨20, time_twenty⟩)), .enqueue first, .enqueue second]

theorem overlapping_calls_in_turn :
    Steps.Along (step (constantSink true)) NotOvertaking { adapter := servingAdapter }
      (overlappingCalls 0 1) := by
  refine ⟨trivial, fun first submitted => ⟨trivial, fun second completed => ⟨?_, ?_⟩⟩⟩
  · intro other _
    exact Nat.zero_le other
  · intro third enqueued
    refine ⟨?_, fun _ _ => trivial⟩
    cases submitted
    cases completed
    cases enqueued
    intro other member
    exact Nat.le_of_eq (List.mem_singleton.mp member).symm

theorem overlapping_calls_keep_causal_order :
    ∃ state,
      Steps.run (step (constantSink true)) { adapter := servingAdapter } (overlappingCalls 0 1) =
        some state ∧
      state.accepted = [0, 1] ∧ CausalOrder state :=
  ⟨_, rfl, rfl, recorded_in_causal_order_without_overtaking (constantSink true) servingAdapter
    (overlappingCalls 0 1) _ overlapping_calls_in_turn rfl⟩

/-- The thread that reports the completion is the first to reach the sink, and the
file has the completion of the transfer before its start. -/
theorem overtaken_submission_breaks_causal_order :
    ∃ state start completion,
      Steps.run (step (constantSink true)) { adapter := servingAdapter } (overlappingCalls 1 0) =
        some state ∧
      recorded state = [completion, start] ∧
      start.event = .restoreStarted ∧ start.transfer = some sampleTransfer ∧
      completion.event = .restoreCompleted ∧ completion.transfer = some sampleTransfer ∧
      ¬ CausalOrder state := by
  refine ⟨_, _, _, rfl, rfl, rfl, rfl, rfl, rfl, ?_⟩
  intro ordered
  have less : (1 : Nat) < 0 :=
    (List.pairwise_cons.mp ordered.tickets).1 0 (List.mem_singleton.mpr rfl)
  exact absurd less (Nat.not_lt_zero 1)

end KVTransferObservability.ObserveOrder
