import KVTransferObservability.NormalizerEvidence
import KVTransferObservability.ObserveOrder

/-!
# Episodes in the file of concurrent calls

What the order of the file is good for: the record that ends a transfer comes after the
one that began it, and a first compute after its admission. The normalizer emits them in
this order, and calls that do not overtake one another keep it.
-/

namespace KVTransferObservability.RecordedEpisodes

open Library PythonValues Schema Observation Normalization Adapter NormalizerRecords
open NormalizerTransitions
open NormalizerRejection NormalizerTables NormalizerHistory NormalizerEvidence ObserveOrder
open NativeInFlight (constantSink)

set_option autoImplicit false

/-! ## The log of the normalizer -/

/-- The record ends what an earlier record of the log began. -/
def Begun (log : Log) (position : Nat) (terminal : KVTransferObservation) : Prop :=
  ∃ (earlier : Nat) (start : KVTransferObservation), earlier < position ∧
    log[earlier]? = some start ∧ start.transfer = terminal.transfer ∧ Opens start ∧
      Fits start terminal

theorem Begun.append {log : Log} {position : Nat} {terminal : KVTransferObservation}
    (begun : Begun log position terminal) (more : Log) : Begun (log ++ more) position terminal := by
  obtain ⟨earlier, start, before, here, rest⟩ := begun
  have inside := (List.getElem?_eq_some_iff.mp here).1
  refine ⟨earlier, start, before, ?_, rest⟩
  rw [List.getElem?_append_left inside]
  exact here

/-- Whatever is pending has its start in the log, and so has whatever has ended. -/
structure Begins (normalizer : LifecycleNormalizer) (log : Log) : Prop where
  entries : Emitting normalizer → ∀ transfer source,
    normalizer.pending.lookup transfer = some source →
    ∃ (place : Nat) (start : KVTransferObservation), log[place]? = some start ∧
      start.transfer = some transfer ∧ start.toObservationFields = startedFields source
  records : ∀ position record, log[position]? = some record → record.transfer ≠ none →
    Opens record ∨ Begun log position record

section Step

variable {self next : LifecycleNormalizer} {log : Log}

theorem silent_begins (begins : Begins self log)
    (kept : Emitting next → Emitting self ∧ ∀ transfer source,
      next.pending.lookup transfer = some source → self.pending.lookup transfer = some source) :
    Begins next log where
  entries emitting transfer source found :=
    begins.entries (kept emitting).1 transfer source ((kept emitting).2 transfer source found)
  records := begins.records

/-- A start enters the log with its entry, and a terminal record closes the start of the
entry that it removes. -/
theorem effect_begins (begins : Begins self log) (result : Option KVTransferObservation)
    (effect : ∀ transfer, TransferEffect self next transfer result) :
    Begins next (log ++ result.toList) where
  entries emitting transfer source found := by
    cases effect transfer with
    | unrelated result silent kept =>
        obtain ⟨before, same⟩ := kept emitting
        rw [same] at found
        obtain ⟨place, start, here, fields⟩ := begins.entries before transfer source found
        refine ⟨place, start, ?_, fields⟩
        rw [List.getElem?_append_left (List.getElem?_eq_some_iff.mp here).1]
        exact here
    | starts record other fields subject before absent entered =>
        rw [entered] at found
        cases found
        refine ⟨log.length, record, ?_, ?_, fields⟩
        · simp
        · have about := congrArg ObservationFields.transfer fields
          rw [about, ← subject]
          rfl
    | terminates record pending subject before entry closes removed =>
        rw [removed] at found
        cases found
  records position record here known := by
    by_cases inside : position < log.length
    · rw [List.getElem?_append_left inside] at here
      rcases begins.records position record here known with opens | begun
      · exact .inl opens
      · exact .inr (begun.append _)
    · rw [List.getElem?_append_right (Nat.not_lt.mp inside)] at here
      have emitted : record ∈ result := by
        have member := List.mem_of_getElem? here
        exact Option.mem_toList.mp member
      obtain ⟨transfer, subject⟩ := Option.ne_none_iff_exists'.mp known
      cases effect transfer with
      | unrelated result silent kept =>
          have other := silent record emitted
          rw [about, subject, decide_eq_false_iff_not] at other
          exact absurd rfl other
      | starts started source fields same before absent entered =>
          cases emitted
          left
          rw [Opens, fields]
          exact started_is_start source
      | terminates terminal pending same before entry closes removed =>
          cases emitted
          right
          obtain ⟨place, start, found, about, fields⟩ :=
            begins.entries before transfer pending entry
          have known := (List.getElem?_eq_some_iff.mp found).1
          refine ⟨place, start, ?_, ?_, about.trans subject.symm, ?_, ?_⟩
          · exact Nat.lt_of_lt_of_le known (Nat.not_lt.mp inside)
          · rw [List.getElem?_append_left known]
            exact found
          · rw [Opens, fields]
            exact started_is_start pending
          · rw [Fits, fields]
            exact closes

end Step

theorem step_begins (self : LifecycleNormalizer) (log : Log) (call : Call)
    (begins : Begins self log) :
    Begins (NormalizerTransitions.step self call).2
      (log ++ (returned (NormalizerTransitions.step self call).1).toList) := by
  by_cases spared : Spared self call
  · exact effect_begins begins _ (step_effect self call spared)
  · -- What is left is a torn cancellation: its entry goes, and no record comes of it.
    cases call with
    | close => exact absurd trivial spared
    | normalize source =>
        cases source with
        | cancelled source =>
            have torn : TornCancellation self source := not_not.mp spared
            have answer := torn_answer self source torn
            change Begins (self.normalize (.cancelled source)).2
              (log ++ (returned (self.normalize (.cancelled source)).1).toList)
            rw [answer]
            have unchanged : log ++ (returned (.ok none)).toList = log := List.append_nil log
            rw [unchanged]
            apply silent_begins begins
            intro _
            refine ⟨⟨torn.opened, torn.valid⟩, ?_⟩
            intro transfer pending found
            change (self.pending.erase source.transfer).lookup transfer = some pending at found
            rw [Dict.lookup_erase_ite] at found
            split at found
            · cases found
            · exact found
        | _ => exact absurd trivial spared

theorem run_begins (transfers admissions : Nat) (retain : Bool) (calls : List Call) :
    Begins (Machine.finalState NormalizerTransitions.step (fresh transfers admissions retain) calls)
      (emitted (fresh transfers admissions retain) calls) := by
  refine emitted_run Begins step_begins (fresh transfers admissions retain) calls ⟨?_, ?_⟩
  · intro _ transfer source found
    cases found
  · intro position record here
    cases here

/-! ## The calls behind the file -/

section Calls

variable {Sink : Type} (emit : Sink → EventRecord → Py Bool × Sink)

/-- The normalizer of the adapter is where `calls` have led it, and the records that
waited for the sink are those it has returned. -/
def Follows (start : LifecycleNormalizer) (state : ConcurrentObserve Sink) : Prop :=
  ∃ calls, state.adapter.normalizer =
      some (Machine.finalState NormalizerTransitions.step start calls) ∧
    state.normalized = emitted start calls

/-- The first half of a call either leaves the normalizer alone or is one call of it. -/
theorem observe_normalize_cases (adapter : KVTransferHostAdapter Sink)
    (source : SourceObservation) (normalizer : LifecycleNormalizer)
    (held : adapter.normalizer = some normalizer) :
    ((observeNormalize adapter source).1 = none ∧
      (observeNormalize adapter source).2.normalizer = some normalizer) ∨
    ((observeNormalize adapter source).1 = returned (normalizer.normalize source).1 ∧
      (observeNormalize adapter source).2.normalizer = some (normalizer.normalize source).2) := by
  rcases adapter with ⟨state, counters, kept, written⟩
  dsimp only at held
  subst held
  unfold observeNormalize
  by_cases active : state = .active
  · simp only [ne_eq, active, not_true_eq_false, if_false, KVTransferHostAdapter.count]
    cases written with
    | none => exact .inl ⟨rfl, rfl⟩
    | some sink =>
        right
        rcases normalized : normalizer.normalize source with ⟨error | observation, next⟩
        · simp only [normalized, returned, and_self]
        · cases observation with
          | none => simp only [normalized, returned, and_self]
          | some observation => simp only [normalized, returned, and_self]
  · simp only [ne_eq, active, not_false_eq_true, if_true]
    exact .inl ⟨trivial, rfl⟩

theorem observe_enqueue_normalizer (adapter : KVTransferHostAdapter Sink)
    (observation : KVTransferObservation) :
    (observeEnqueue emit adapter observation).2.normalizer = adapter.normalizer := by
  rcases adapter with ⟨state, counters, kept, written⟩
  unfold observeEnqueue
  cases written with
  | none => rfl
  | some sink =>
      dsimp only
      rcases emit sink (.canonical observation) with ⟨error | accepted, after⟩
      · rfl
      · cases accepted with
        | false => rfl
        | true => rfl

theorem emitted_call (start : LifecycleNormalizer) (calls : List Call) (source : SourceObservation)
    {answer : Option KVTransferObservation}
    (answered : answer = returned
      ((Machine.finalState NormalizerTransitions.step start calls).normalize source).1) :
    emitted start calls ++ answer.toList = emitted start (calls ++ [.normalize source]) := by
  rw [emitted_snoc, answered]
  rfl

theorem step_follows (start : LifecycleNormalizer) (state : ConcurrentObserve Sink)
    (event : ObserveEvent Sink) (next : ConcurrentObserve Sink) (follows : Follows start state)
    (taken : ObserveOrder.step emit state event = some next) : Follows start next := by
  obtain ⟨calls, held, records⟩ := follows
  cases event with
  | normalize source =>
      have outcome := observe_normalize_cases state.adapter source _ held
      have moved : Machine.finalState NormalizerTransitions.step start
          (calls ++ [.normalize source]) =
          ((Machine.finalState NormalizerTransitions.step start calls).normalize source).2 :=
        Machine.final_state_append NormalizerTransitions.step start calls [.normalize source]
      simp only [ObserveOrder.step] at taken
      split at taken
      · rename_i adapter answered
        rw [answered] at outcome
        cases taken
        rcases outcome with ⟨_, same⟩ | ⟨silent, called⟩
        · exact ⟨calls, same, records⟩
        · refine ⟨calls ++ [.normalize source], called.trans (congrArg some moved.symm), ?_⟩
          have unchanged := emitted_call start calls source silent
          rw [Option.toList_none, List.append_nil] at unchanged
          exact records.trans unchanged
      · rename_i observation adapter answered
        rw [answered] at outcome
        cases taken
        rcases outcome with ⟨silent, _⟩ | ⟨record, called⟩
        · cases silent
        · refine ⟨calls ++ [.normalize source], called.trans (congrArg some moved.symm), ?_⟩
          rw [records]
          exact emitted_call start calls source record
  | enqueue ticket =>
      simp only [ObserveOrder.step] at taken
      split at taken
      · rename_i observation waits found
        cases taken
        exact ⟨calls, (observe_enqueue_normalizer emit state.adapter observation).trans held,
          records⟩
      · cases taken
  | sinkMoves sink =>
      cases taken
      exact ⟨calls, held, records⟩

/-! ## In the file -/

theorem pair_in_order {Item : Type} (items : List Item) (places : List Nat)
    (increasing : places.Pairwise (· < ·)) (first second : Nat) (before : first < second)
    (one : first ∈ places) (other : second ∈ places) (start terminal : Item)
    (started : items[first]? = some start) (ended : items[second]? = some terminal) :
    [start, terminal].Sublist (places.filterMap (items[·]?)) := by
  have picked : [first, second].filterMap (items[·]?) = [start, terminal] := by
    rw [List.filterMap_cons_some started, List.filterMap_cons_some ended]
    rfl
  have pair : [first, second].Pairwise (· < ·) := List.pairwise_pair.mpr before
  have inside : [first, second].Sublist places := by
    refine List.sublist_of_subperm_of_pairwise (List.Nodup.subperm ?_ ?_) pair increasing
    · exact pair.imp Nat.ne_of_lt
    · intro place member
      rcases List.mem_pair.mp member with rfl | rfl
      · exact one
      · exact other
  rw [← picked]
  exact inside.filterMap _

/-- What began a recorded end or first compute came earlier, and precedes it in the file
too, if the sink took it. -/
structure EpisodesInOrder (state : ConcurrentObserve Sink) : Prop where
  transfers : ∀ ended ∈ state.accepted, ∀ terminal,
    state.normalized[ended]? = some terminal → terminal.transfer ≠ none → Opens terminal ∨
    ∃ (started : Nat) (start : KVTransferObservation), started < ended ∧
      state.normalized[started]? = some start ∧ start.transfer = terminal.transfer ∧
      Opens start ∧ Fits start terminal ∧
      (started ∈ state.accepted → [start, terminal].Sublist (recorded state))
  recoveries : ∀ computed ∈ state.accepted, ∀ compute,
    state.normalized[computed]? = some compute → compute.event = .firstCompute →
    ∃ (admitted : Nat) (admission : KVTransferObservation), admitted < computed ∧
      state.normalized[admitted]? = some admission ∧ admission.event = .recoveryAdmitted ∧
      admission.identity = compute.identity ∧
      admission.associatedTransfers = compute.associatedTransfers ∧
      (admitted ∈ state.accepted → [admission, compute].Sublist (recorded state))

theorem queued_episodes_in_order (transfers admissions : Nat) (retain : Bool)
    (state : ConcurrentObserve Sink) (queued : Queued state)
    (follows : Follows (fresh transfers admissions retain) state) : EpisodesInOrder state := by
  obtain ⟨calls, _, records⟩ := follows
  have begins := run_begins transfers admissions retain calls
  have backed := (run_traced transfers admissions retain calls).1
  rw [← records] at begins backed
  constructor
  · intro ended taken terminal here known
    rcases begins.records ended terminal here known with opens | begun
    · exact .inl opens
    · obtain ⟨started, start, before, found, same, opens, fits⟩ := begun
      refine .inr ⟨started, start, before, found, same, opens, fits, ?_⟩
      intro kept
      exact pair_in_order state.normalized state.accepted queued.accepted started ended before
        kept taken start terminal found here
  · intro computed taken compute here event
    obtain ⟨admitted, admission, last, admits, roster, _⟩ :=
      backed.computes computed compute here event
    refine ⟨admitted, admission, last.before, last.here, admits, last.isKind.2, roster, ?_⟩
    intro kept
    exact pair_in_order state.normalized state.accepted queued.accepted admitted computed
      last.before kept taken admission compute last.here here

/-- In particular, with a normalizer that starts empty and calls that do not overtake one
another, the file has a start before the record that ends it, and an admission before its
first compute. -/
theorem episodes_in_order_without_overtaking (adapter : KVTransferHostAdapter Sink)
    (transfers admissions : Nat) (retain : Bool)
    (empty : adapter.normalizer = some (fresh transfers admissions retain))
    (events : List (ObserveEvent Sink)) (state : ConcurrentObserve Sink)
    (meets : Steps.Along (ObserveOrder.step emit) NotOvertaking { adapter := adapter } events)
    (reached : Steps.run (ObserveOrder.step emit) { adapter := adapter } events = some state) :
    EpisodesInOrder state := by
  have follows := Steps.invariant_run (ObserveOrder.step emit)
    (Follows (fresh transfers admissions retain)) (step_follows emit _) _ state events
    ⟨[], empty, rfl⟩ reached
  have queued := Steps.invariant_along (ObserveOrder.step emit) Queued NotOvertaking
    (step_queued emit) _ state events
    ⟨List.Pairwise.nil, List.forall_mem_nil _, List.Pairwise.nil, List.forall_mem_nil _,
      List.forall_mem_nil _⟩ meets reached
  exact queued_episodes_in_order transfers admissions retain state queued follows

end Calls

/-- Two calls that are between their halves at once, in turn. -/
example : ∃ state,
    Steps.run (ObserveOrder.step (constantSink true)) { adapter := servingAdapter }
        (overlappingCalls 0 1) = some state ∧
      (recorded state).length = 2 ∧ EpisodesInOrder state :=
  ⟨_, rfl, rfl, episodes_in_order_without_overtaking (constantSink true) servingAdapter 1 1 true
    rfl (overlappingCalls 0 1) _ overlapping_calls_in_turn rfl⟩

end KVTransferObservability.RecordedEpisodes
