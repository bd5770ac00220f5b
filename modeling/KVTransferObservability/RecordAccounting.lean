import KVTransferObservability.RecordCallbacks
import KVTransferObservability.RecordedEvents

/-!
# No record disappears without a counter

Whatever the threads, the starts and the writers do, every call of a callback that
finds the adapter active is in progress or in one counter, every record that a callback
reports as emitted is in a queue, with a writer or in a sink counter, and every drop is
one that a normalizer or a sink has counted itself.
-/

namespace KVTransferObservability.RecordAccounting

open Library Totals PythonValues Schema Observation Normalization NormalizerTransitions Adapter
open EventSink SinkDrain RecordText RecordCallbacks
open RecordedEvents (sampleJson)

set_option autoImplicit false

/-! ## Columns of the books -/

/-- What a call in progress still stands for. -/
inductive Column
  | kind (kind : RecordKind)
  | accepted
  | dropped
  | returned
  | silent
  deriving DecidableEq

def callKind : CallPoint → RecordKind
  | .observing _ _ => .observation
  | .emitting kind _ _ => kind
  | .answered kind _ => kind

/-- A record that a normalizer returned has not been settled. -/
def callReturned : CallPoint → Bool
  | .observing _ _ => false
  | .emitting kind _ _ => kind = .observation
  | .answered kind result => kind = .observation && result ≠ .silent

def callResult : CallPoint → Option CallResult
  | .answered _ result => some result
  | _ => none

def callPart (column : Column) (point : CallPoint) : Nat :=
  match column with
  | .kind kind => if callKind point = kind then 1 else 0
  | .accepted => if callResult point = some .accepted then 1 else 0
  | .dropped => if callResult point = some .dropped then 1 else 0
  | .returned => if callReturned point then 1 else 0
  | .silent => if callResult point = some .silent then 1 else 0

def acceptedRecords (generation : Generation) : Nat := generation.run.accepted.length

/-- The drops that a sink counts in `emit`. -/
def sinkRefused (counters : EventSinkCounters) : Nat :=
  counters .closedDropped + counters .queueDropped + counters .recordSizeDropped +
    counters .serializationErrors

def refusedRecords (generation : Generation) : Nat :=
  sinkRefused generation.run.sink.counterValues

def returnedRecords (generation : Generation) : Nat :=
  generation.normalizer.counterValues.accepted

def silentObservations (generation : Generation) : Nat :=
  generation.normalizer.counterValues.invalid +
    generation.normalizer.counterValues.capacityDropped +
    generation.normalizer.counterValues.evidenceDisabledDropped +
    generation.normalizer.counterValues.closedDropped

def receivedCalls (counters : AdapterCounters) : RecordKind → Nat
  | .observation => counters.observationsReceived
  | .hostFact => counters.hostFactsReceived
  | .correlated => counters.correlatedReceived

/-- The calls of a kind that ended in a counter. -/
def settledCalls (counters : AdapterCounters) (raised : List RecordKind) : RecordKind → Nat
  | .observation =>
      counters.observationsEmitted + counters.normalizationDropped + counters.sinkDropped +
        raised.count .observation
  | .hostFact => counters.hostFactsEmitted + counters.hostFactsDropped
  | .correlated => counters.correlatedEmitted + counters.correlatedDropped

def emittedTotal (counters : AdapterCounters) : Nat :=
  counters.observationsEmitted + counters.hostFactsEmitted + counters.correlatedEmitted

def droppedTotal (counters : AdapterCounters) : Nat :=
  counters.sinkDropped + counters.hostFactsDropped + counters.correlatedDropped

/-- The host records whose `emit` raised; they are counted as dropped as well. -/
def raisedHostRecords (raised : List RecordKind) : Nat :=
  raised.countP fun kind => kind ≠ .observation

/-- The observations whose record went to a sink. -/
def offered (counters : AdapterCounters) : Nat :=
  counters.observationsEmitted + counters.sinkDropped

/-- The books of the adapter, of its normalizers and of its sinks agree. -/
structure Balanced (state : RecordSystem) : Prop where
  serving : state.state = .starting ∨ state.state = .active →
    ∃ place, state.current = some place ∧ place < state.generations.length
  sinks : ∀ generation ∈ state.generations, Accounted generation.run
  received : ∀ kind, receivedCalls state.counterValues kind =
    settledCalls state.counterValues state.raisedCalls kind +
      total (callPart (.kind kind)) state.calls
  raised : state.counterValues.callbackErrors = state.raisedCalls.length
  accepted : total acceptedRecords state.generations =
    emittedTotal state.counterValues + total (callPart .accepted) state.calls
  refused : total refusedRecords state.generations + raisedHostRecords state.raisedCalls =
    droppedTotal state.counterValues + total (callPart .dropped) state.calls
  returned : total returnedRecords state.generations =
    offered state.counterValues + state.raisedCalls.count .observation +
      total (callPart .returned) state.calls
  silent : total silentObservations state.generations =
    state.counterValues.normalizationDropped + total (callPart .silent) state.calls

/-! ## Counting -/

section Counting

variable (counters : AdapterCounters) (raised : List RecordKind) (kind other : RecordKind)

theorem received_counted :
    receivedCalls (countReceived counters kind) other =
      receivedCalls counters other + (if kind = other then 1 else 0) := by
  cases kind <;> cases other <;> rfl

theorem emitted_received :
    receivedCalls (countEmitted counters kind) other = receivedCalls counters other := by
  cases kind <;> cases other <;> rfl

theorem dropped_received :
    receivedCalls (countDropped counters kind) other = receivedCalls counters other := by
  cases kind <;> cases other <;> rfl

theorem received_settles :
    settledCalls (countReceived counters kind) raised other = settledCalls counters raised other := by
  cases kind <;> cases other <;> rfl

theorem emitted_settles :
    settledCalls (countEmitted counters kind) raised other =
      settledCalls counters raised other + (if kind = other then 1 else 0) := by
  cases kind <;> cases other <;>
    simp only [settledCalls, countEmitted, if_true, if_false, reduceCtorEq] <;> omega

theorem dropped_settles :
    settledCalls (countDropped counters kind) raised other =
      settledCalls counters raised other + (if kind = other then 1 else 0) := by
  cases kind <;> cases other <;>
    simp only [settledCalls, countDropped, KVTransferHostAdapter.countSinkDropped, if_true,
      if_false, reduceCtorEq] <;> omega

theorem emitted_adds : emittedTotal (countEmitted counters kind) = emittedTotal counters + 1 := by
  cases kind <;> simp only [emittedTotal, countEmitted] <;> omega

theorem dropped_adds : droppedTotal (countDropped counters kind) = droppedTotal counters + 1 := by
  cases kind <;>
    simp only [droppedTotal, countDropped, KVTransferHostAdapter.countSinkDropped] <;> omega

theorem emitted_drops : droppedTotal (countEmitted counters kind) = droppedTotal counters := by
  cases kind <;> rfl

theorem dropped_emits : emittedTotal (countDropped counters kind) = emittedTotal counters := by
  cases kind <;> rfl

theorem emitted_offers :
    offered (countEmitted counters kind) =
      offered counters + (if kind = .observation then 1 else 0) := by
  cases kind <;> simp only [offered, countEmitted, if_true, if_false, reduceCtorEq] <;> omega

theorem dropped_offers :
    offered (countDropped counters kind) =
      offered counters + (if kind = .observation then 1 else 0) := by
  cases kind <;> simp only [offered, countDropped, KVTransferHostAdapter.countSinkDropped, if_true,
    if_false, reduceCtorEq] <;> omega

theorem emitted_others :
    (countEmitted counters kind).normalizationDropped = counters.normalizationDropped ∧
      (countEmitted counters kind).callbackErrors = counters.callbackErrors := by
  cases kind <;> exact ⟨rfl, rfl⟩

theorem dropped_others :
    (countDropped counters kind).normalizationDropped = counters.normalizationDropped ∧
      (countDropped counters kind).callbackErrors = counters.callbackErrors := by
  cases kind <;> exact ⟨rfl, rfl⟩

end Counting

/-! ## Calls -/

section Calls

variable (json : JsonModule) (state next : RecordSystem)

theorem sound_generations (generations : List Generation) (place : Nat) (changed : Generation)
    (sound : ∀ generation ∈ generations, Accounted generation.run)
    (own : Accounted changed.run) :
    ∀ generation ∈ generations.set place changed, Accounted generation.run := by
  intro generation member
  rcases List.mem_or_eq_of_mem_set member with old | new
  · exact sound generation old
  · rw [new]
    exact own

theorem enter_balanced (kind : RecordKind) (absent : CallResult) (point : Nat → CallPoint)
    (own : ∀ place, callKind (point place) = kind)
    (unanswered : ∀ place, callResult (point place) = none)
    (unreturned : ∀ place, callReturned (point place) = false)
    (balanced : Balanced state) : Balanced (state.enter kind absent point) := by
  unfold RecordSystem.enter
  split
  · refine ⟨balanced.serving, balanced.sinks, ?_, balanced.raised, balanced.accepted,
      balanced.refused, balanced.returned, balanced.silent⟩
    intro other
    have received := balanced.received other
    cases other <;> exact received
  · rename_i active
    obtain ⟨place, current, _⟩ := balanced.serving (.inr (Decidable.not_not.mp active))
    have accepted := balanced.accepted
    have refused := balanced.refused
    have returned := balanced.returned
    have silent := balanced.silent
    refine ⟨balanced.serving, balanced.sinks, ?_, ?_, ?_, ?_, ?_, ?_⟩
    · intro other
      have received := balanced.received other
      dsimp only
      rw [received_counted, received_settles, total_snoc, current]
      simp only [callPart, own]
      omega
    · cases kind <;> exact balanced.raised
    all_goals
      dsimp only
      rw [total_snoc, current]
      simp only [callPart, unanswered, unreturned, reduceCtorEq, if_false, Bool.false_eq_true]
      cases kind <;> assumption

/-- What a call moves from its own part into the books of a generation, or not at all. -/
structure Moves (old point : CallPoint) (generation changed : Generation) : Prop where
  sound : Accounted generation.run → Accounted changed.run
  kind : callKind point = callKind old
  accepted : acceptedRecords changed + callPart .accepted old =
    acceptedRecords generation + callPart .accepted point
  refused : refusedRecords changed + callPart .dropped old =
    refusedRecords generation + callPart .dropped point
  returned : returnedRecords changed + callPart .returned old =
    returnedRecords generation + callPart .returned point
  silent : silentObservations changed + callPart .silent old =
    silentObservations generation + callPart .silent point

theorem moved_balanced (call place : Nat) (old point : CallPoint)
    (generation changed : Generation) (found : state.calls[call]? = some old)
    (held : state.generations[place]? = some generation) (moves : Moves old point generation changed)
    (balanced : Balanced state) :
    Balanced { state with
      generations := state.generations.set place changed
      calls := state.calls.set call point } := by
  have calls := fun column => total_set (callPart column) state.calls call old point found
  have books := fun part => total_set part state.generations place generation changed held
  refine ⟨?_, ?_, ?_, balanced.raised, ?_, ?_, ?_, ?_⟩
  · dsimp only
    rw [List.length_set]
    exact balanced.serving
  · exact sound_generations _ _ _ balanced.sinks
      (moves.sound (balanced.sinks generation (List.mem_of_getElem? held)))
  · intro kind
    have received := balanced.received kind
    have here := calls (.kind kind)
    simp only [callPart, moves.kind] at here received ⊢
    omega
  · have before := balanced.accepted
    have here := calls .accepted
    have there := books acceptedRecords
    have given := moves.accepted
    dsimp only
    omega
  · have before := balanced.refused
    have here := calls .dropped
    have there := books refusedRecords
    have given := moves.refused
    dsimp only
    omega
  · have before := balanced.returned
    have here := calls .returned
    have there := books returnedRecords
    have given := moves.returned
    dsimp only
    omega
  · have before := balanced.silent
    have here := calls .silent
    have there := books silentObservations
    have given := moves.silent
    dsimp only
    omega

/-- A call of `normalize` is counted as a record or as a silent observation. -/
theorem normalize_counts (normalizer : LifecycleNormalizer) (source : SourceObservation) :
    ∃ result, (normalizer.normalize source).1 = .ok result ∧
      (normalizer.normalize source).2.counterValues.accepted =
        normalizer.counterValues.accepted + (if result.isSome then 1 else 0) ∧
      NormalizerCounters.total (normalizer.normalize source).2.counterValues =
        NormalizerCounters.total normalizer.counterValues + 1 := by
  obtain ⟨result, answer, _⟩ := step_transition normalizer (.normalize source)
  have accepted := NormalizerCounters.step_accepted normalizer (.normalize source)
  rw [answer] at accepted
  exact ⟨result, answer, accepted, NormalizerCounters.step_total normalizer (.normalize source)⟩

theorem normalize_balanced (call : Nat) (balanced : Balanced state)
    (taken : state.normalize call = some next) : Balanced next := by
  unfold RecordSystem.normalize at taken
  split at taken
  · rename_i place source found
    obtain ⟨generation, held, same⟩ := Option.map_eq_some_iff.mp taken
    obtain ⟨result, answer, counted, totalled⟩ := normalize_counts generation.normalizer source
    rcases normalized : generation.normalizer.normalize source with ⟨given, normalizer⟩
    rw [normalized] at answer counted totalled same
    dsimp only at answer counted totalled same
    subst answer same
    simp only [NormalizerCounters.total] at totalled
    apply moved_balanced state call place _ _ _ _ found held _ balanced
    cases result with
    | none =>
        refine ⟨id, rfl, rfl, rfl, ?_, ?_⟩
        · simpa [returnedRecords, callPart, callReturned] using counted
        · simp only [Option.isSome_none, Bool.false_eq_true, if_false] at counted
          simp only [silentObservations, callPart, callResult, reduceCtorEq, if_false, if_true]
          omega
    | some record =>
        refine ⟨id, rfl, rfl, rfl, ?_, ?_⟩
        · simpa [returnedRecords, callPart, callReturned] using counted
        · simp only [Option.isSome_some, if_true] at counted
          simp only [silentObservations, callPart, callResult, reduceCtorEq, if_false]
          omega
  · cases taken

def refusedNames : List EventSinkCounter :=
  [.closedDropped, .queueDropped, .recordSizeDropped, .serializationErrors]

theorem refused_increment (counters : EventSinkCounters) (name : EventSinkCounter) :
    sinkRefused (counters.increment name) =
      sinkRefused counters + (if name ∈ refusedNames then 1 else 0) := by
  cases name <;> simp [sinkRefused, refusedNames, EventSinkCounters.increment] <;> omega

theorem refused_uncounted : ∀ name ∈ refusedNames, name ∉ countedNames := by decide

/-- `emit` of a sink either accepts the record or counts a drop. -/
theorem emit_counts (run : SinkRun) (record : Argument EventRecord) :
    (Accounted run → Accounted (emitTo json run record).2) ∧
      (emitTo json run record).2.accepted.length =
        run.accepted.length + (if (emitTo json run record).1 then 1 else 0) ∧
      sinkRefused (emitTo json run record).2.sink.counterValues =
        sinkRefused run.sink.counterValues + (if (emitTo json run record).1 then 0 else 1) := by
  have refuses (name : EventSinkCounter) (listed : name ∈ refusedNames) :
      (Accounted run → Accounted { run with sink := run.sink.increment name }) ∧
        run.accepted.length = run.accepted.length + 0 ∧
        sinkRefused (run.sink.increment name).counterValues =
          sinkRefused run.sink.counterValues + 1 := by
    refine ⟨fun holds => accounted_increment run holds name (refused_uncounted name listed), rfl, ?_⟩
    exact (refused_increment run.sink.counterValues name).trans (by rw [if_pos listed])
  cases record with
  | other object => exact refuses .serializationErrors (by decide)
  | typed record =>
      unfold emitTo
      dsimp only
      split
      · exact refuses .recordSizeDropped (by decide)
      · refine ⟨fun holds => accounted_enqueue run holds (encoded json record), ?_⟩
        unfold JsonlKVTransferEventSink.enqueue
        split
        · exact (refuses .closedDropped (by decide)).2
        · split
          · exact (refuses .queueDropped (by decide)).2
          · refine ⟨List.length_append, ?_⟩
            exact (refused_increment run.sink.counterValues .enqueued).trans rfl

theorem raised_part (column : Column) (kind : RecordKind) (place : Nat)
    (record : Argument EventRecord) :
    callPart column (.answered kind .raised) = callPart column (.emitting kind place record) := by
  cases column with
  | returned => simp [callPart, callReturned]
  | _ => rfl

theorem answered_returned (kind : RecordKind) (place : Nat) (record : Argument EventRecord)
    (answer : Bool) :
    callPart .returned (.answered kind (if answer then .accepted else .dropped)) =
      callPart .returned (.emitting kind place record) := by
  cases answer <;> simp [callPart, callReturned]

theorem emit_balanced (call : Nat) (raises : Bool) (balanced : Balanced state)
    (taken : state.emit json call raises = some next) : Balanced next := by
  unfold RecordSystem.emit at taken
  split at taken
  · rename_i kind place record found
    cases raises with
    | true =>
        cases taken
        have same : ∀ column, total (callPart column)
            (state.calls.set call (.answered kind .raised)) = total (callPart column) state.calls := by
          intro column
          have here := total_set (callPart column) state.calls call _ (.answered kind .raised) found
          rw [raised_part column kind place record] at here
          omega
        refine ⟨balanced.serving, balanced.sinks, ?_, balanced.raised, ?_, ?_, ?_, ?_⟩
        · intro other
          rw [same]
          exact balanced.received other
        · rw [same]
          exact balanced.accepted
        · rw [same]
          exact balanced.refused
        · rw [same]
          exact balanced.returned
        · rw [same]
          exact balanced.silent
    | false =>
        obtain ⟨generation, held, same⟩ := Option.map_eq_some_iff.mp taken
        obtain ⟨sound, accepted, refused⟩ := emit_counts json generation.run record
        rcases emitted : emitTo json generation.run record with ⟨answer, run⟩
        rw [emitted] at sound accepted refused same
        dsimp only at sound accepted refused same
        subst same
        apply moved_balanced state call place _ _ _ _ found held _ balanced
        have returned := answered_returned kind place record answer
        cases answer with
        | true => exact ⟨sound, rfl, accepted, refused, congrArg _ returned.symm, rfl⟩
        | false => exact ⟨sound, rfl, accepted, refused, congrArg _ returned.symm, rfl⟩
  · cases taken

/-- A call that ends in a counter. -/
structure Ends (old : CallPoint) (before after : AdapterCounters)
    (raised raisedAfter : List RecordKind) : Prop where
  received : ∀ other, receivedCalls after other = receivedCalls before other
  settled : ∀ other, settledCalls after raisedAfter other =
    settledCalls before raised other + callPart (.kind other) old
  errors : before.callbackErrors = raised.length → after.callbackErrors = raisedAfter.length
  accepted : emittedTotal after = emittedTotal before + callPart .accepted old
  dropped : droppedTotal after + raisedHostRecords raised =
    droppedTotal before + raisedHostRecords raisedAfter + callPart .dropped old
  offered : offered after + raisedAfter.count .observation =
    offered before + raised.count .observation + callPart .returned old
  silent : after.normalizationDropped = before.normalizationDropped + callPart .silent old

theorem emitted_ends (counters : AdapterCounters) (raised : List RecordKind) (kind : RecordKind) :
    Ends (.answered kind .accepted) counters (countEmitted counters kind) raised raised where
  received := emitted_received counters kind
  settled other := emitted_settles counters raised kind other
  errors := (emitted_others counters kind).2.trans
  accepted := emitted_adds counters kind
  dropped := congrArg (· + raisedHostRecords raised) (emitted_drops counters kind)
  offered := by
    rw [emitted_offers]
    simp only [callPart, callReturned, Bool.and_eq_true, decide_eq_true_eq, ne_eq, reduceCtorEq,
      not_false_eq_true, and_true]
    omega
  silent := (emitted_others counters kind).1

theorem dropped_ends (counters : AdapterCounters) (raised : List RecordKind) (kind : RecordKind) :
    Ends (.answered kind .dropped) counters (countDropped counters kind) raised raised where
  received := dropped_received counters kind
  settled other := dropped_settles counters raised kind other
  errors := (dropped_others counters kind).2.trans
  accepted := dropped_emits counters kind
  dropped := by
    rw [dropped_adds]
    simp only [callPart, callResult, if_true]
    omega
  offered := by
    rw [dropped_offers]
    simp only [callPart, callReturned, Bool.and_eq_true, decide_eq_true_eq, ne_eq, reduceCtorEq,
      not_false_eq_true, and_true]
    omega
  silent := (dropped_others counters kind).1

theorem silent_ends (counters : AdapterCounters) (raised : List RecordKind) :
    Ends (.answered .observation .silent) counters
      (KVTransferHostAdapter.countNormalizationDropped counters) raised raised where
  received other := by cases other <;> rfl
  settled other := by
    cases other <;>
      simp only [settledCalls, KVTransferHostAdapter.countNormalizationDropped, callPart, callKind,
        if_true, if_false, reduceCtorEq] <;> omega
  errors := id
  accepted := rfl
  dropped := rfl
  offered := rfl
  silent := rfl

theorem raised_ends (counters : AdapterCounters) (raised : List RecordKind) :
    Ends (.answered .observation .raised) counters
      (KVTransferHostAdapter.countCallbackErrors counters) raised (raised ++ [.observation]) where
  received other := by cases other <;> rfl
  settled other := by
    cases other <;>
      simp only [settledCalls, KVTransferHostAdapter.countCallbackErrors, callPart, callKind,
        List.count_append, List.count_singleton_self, if_true, if_false, reduceCtorEq] <;> omega
  errors same := by
    rw [List.length_append, ← same]
    rfl
  accepted := rfl
  dropped := by
    rw [raisedHostRecords, raisedHostRecords, List.countP_append]
    rfl
  offered := by
    rw [List.count_append]
    rfl
  silent := rfl

theorem ended_balanced (call : Nat) (old : CallPoint) (after : AdapterCounters)
    (raisedAfter : List RecordKind) (found : state.calls[call]? = some old)
    (ends : Ends old state.counterValues after state.raisedCalls raisedAfter)
    (balanced : Balanced state) :
    Balanced { state with
      counterValues := after
      raisedCalls := raisedAfter
      calls := state.calls.eraseIdx call } := by
  have calls := fun column => total_erase (callPart column) state.calls call old found
  refine ⟨balanced.serving, balanced.sinks, ?_, ends.errors balanced.raised, ?_, ?_, ?_, ?_⟩
  · intro other
    have before := balanced.received other
    have here := calls (.kind other)
    dsimp only
    rw [ends.received, ends.settled]
    omega
  · have before := balanced.accepted
    have here := calls .accepted
    dsimp only
    rw [ends.accepted]
    omega
  · have before := balanced.refused
    have here := calls .dropped
    have booked := ends.dropped
    dsimp only
    omega
  · have before := balanced.returned
    have here := calls .returned
    have booked := ends.offered
    dsimp only
    omega
  · have before := balanced.silent
    have here := calls .silent
    dsimp only
    rw [ends.silent]
    omega

/-- A host record whose `emit` raised is counted again, as a drop. -/
theorem recounted_balanced (call : Nat) (kind : RecordKind) (host : kind ≠ .observation)
    (found : state.calls[call]? = some (.answered kind .raised)) (balanced : Balanced state) :
    Balanced { state with
      counterValues := KVTransferHostAdapter.countCallbackErrors state.counterValues
      raisedCalls := state.raisedCalls ++ [kind]
      calls := state.calls.set call (.answered kind .dropped) } := by
  have calls := fun column => total_set (callPart column) state.calls call _
    (.answered kind .dropped) found
  have counts : (state.raisedCalls ++ [kind]).count .observation =
      state.raisedCalls.count .observation := by
    rw [List.count_append, List.count_singleton, beq_false_of_ne host]
    rfl
  have hosts : raisedHostRecords (state.raisedCalls ++ [kind]) =
      raisedHostRecords state.raisedCalls + 1 := by
    simp [raisedHostRecords, host]
  refine ⟨balanced.serving, balanced.sinks, ?_, ?_, ?_, ?_, ?_, ?_⟩
  · intro other
    have before := balanced.received other
    have here := calls (.kind other)
    have kept : settledCalls (KVTransferHostAdapter.countCallbackErrors state.counterValues)
        (state.raisedCalls ++ [kind]) other =
          settledCalls state.counterValues state.raisedCalls other := by
      cases other with
      | observation => exact congrArg (_ + ·) counts
      | _ => rfl
    have same : callPart (.kind other) (.answered kind .dropped) =
        callPart (.kind other) (.answered kind .raised) := rfl
    have received : receivedCalls (KVTransferHostAdapter.countCallbackErrors state.counterValues)
        other = receivedCalls state.counterValues other := by cases other <;> rfl
    dsimp only
    rw [kept, received]
    omega
  · dsimp only [KVTransferHostAdapter.countCallbackErrors]
    rw [balanced.raised, List.length_append]
    rfl
  · exact balanced.accepted.trans (congrArg (_ + ·) (calls .accepted).symm)
  · have before := balanced.refused
    have here := calls .dropped
    have unanswered : callPart .dropped (.answered kind .raised) = 0 := rfl
    have answered : callPart .dropped (.answered kind .dropped) = 1 := rfl
    have kept : droppedTotal (KVTransferHostAdapter.countCallbackErrors state.counterValues) =
      droppedTotal state.counterValues := rfl
    dsimp only
    rw [hosts, kept]
    omega
  · have here := calls .returned
    simp only [callPart, callReturned, host, decide_false, Bool.false_and, Bool.false_eq_true,
      if_false] at here
    dsimp only
    rw [counts]
    exact balanced.returned.trans (congrArg (_ + ·) here.symm)
  · exact balanced.silent.trans (congrArg (_ + ·) (calls .silent).symm)

theorem count_balanced (call : Nat) (balanced : Balanced state)
    (taken : state.count call = some next) : Balanced next := by
  unfold RecordSystem.count at taken
  split at taken
  · rename_i kind found
    cases taken
    exact ended_balanced state call _ _ _ found (emitted_ends _ _ kind) balanced
  · rename_i kind found
    cases taken
    exact ended_balanced state call _ _ _ found (dropped_ends _ _ kind) balanced
  · rename_i found
    cases taken
    exact ended_balanced state call _ _ _ found (silent_ends _ _) balanced
  · rename_i kind found
    cases taken
    split
    · rename_i own
      subst own
      exact ended_balanced state call _ _ _ found (raised_ends _ _) balanced
    · rename_i host
      exact recounted_balanced state call kind host found balanced
  · cases taken

/-! ## Writers and lifecycle -/

/-- A step of a writer or of `close` accepts nothing and refuses nothing. -/
theorem quiet_counts (run after : SinkRun) (event : SinkEvent)
    (quiet : event ≠ .oversized ∧ event ≠ .unencodable ∧ ∀ line, event ≠ .enqueue line)
    (taken : EventSink.step run event = some after) :
    after.accepted = run.accepted ∧
      sinkRefused after.sink.counterValues = sinkRefused run.sink.counterValues := by
  cases event with
  | enqueue line => exact absurd rfl (quiet.2.2 line)
  | unencodable => exact absurd rfl quiet.2.1
  | oversized => exact absurd rfl quiet.1
  | close =>
      cases taken
      refine ⟨rfl, ?_⟩
      unfold JsonlKVTransferEventSink.close
      split <;> rfl
  | closeTimeout =>
      obtain ⟨_, same⟩ := Option.ite_none_right_eq_some.mp taken
      cases same
      exact ⟨rfl, refused_increment _ .shutdownTimeouts⟩
  | testStop =>
      obtain ⟨_, same⟩ := Option.ite_none_right_eq_some.mp taken
      cases same
      exact ⟨rfl, rfl⟩
  | testEmpty =>
      obtain ⟨_, same⟩ := Option.ite_none_right_eq_some.mp taken
      cases same
      exact ⟨rfl, rfl⟩
  | get =>
      simp only [EventSink.step] at taken
      split at taken
      · cases taken
        exact ⟨rfl, rfl⟩
      · cases taken
  | getTimeout =>
      obtain ⟨_, same⟩ := Option.ite_none_right_eq_some.mp taken
      cases same
      exact ⟨rfl, rfl⟩
  | write result =>
      simp only [EventSink.step] at taken
      split at taken
      · cases taken
        exact ⟨rfl, rfl⟩
      · cases taken
  | count =>
      simp only [EventSink.step] at taken
      split at taken
      · rename_i result counting
        cases taken
        refine ⟨rfl, ?_⟩
        cases result <;> exact refused_increment _ _
      · cases taken

/-- A change of one start's resources that the books do not show. -/
theorem unbooked_balanced (place : Nat) (generation changed : Generation)
    (held : state.generations[place]? = some generation)
    (sound : Accounted generation.run → Accounted changed.run)
    (accepted : acceptedRecords changed = acceptedRecords generation)
    (refused : refusedRecords changed = refusedRecords generation)
    (counters : changed.normalizer.counterValues = generation.normalizer.counterValues)
    (balanced : Balanced state) :
    Balanced { state with generations := state.generations.set place changed } := by
  have kept (part : Generation → Nat) (same : part changed = part generation) :
      total part (state.generations.set place changed) = total part state.generations := by
    have here := total_set part state.generations place generation changed held
    omega
  have returned : returnedRecords changed = returnedRecords generation := by
    rw [returnedRecords, counters, returnedRecords]
  have silent : silentObservations changed = silentObservations generation := by
    rw [silentObservations, counters, silentObservations]
  refine ⟨?_, ?_, balanced.received, balanced.raised, ?_, ?_, ?_, ?_⟩
  · dsimp only
    rw [List.length_set]
    exact balanced.serving
  · exact sound_generations _ _ _ balanced.sinks
      (sound (balanced.sinks generation (List.mem_of_getElem? held)))
  · exact (kept acceptedRecords accepted).trans balanced.accepted
  · dsimp only
    rw [kept refusedRecords refused]
    exact balanced.refused
  · exact (kept returnedRecords returned).trans balanced.returned
  · exact (kept silentObservations silent).trans balanced.silent

theorem sink_step_balanced (place : Nat) (event : SinkEvent) (balanced : Balanced state)
    (taken : state.sinkStep place event = some next) : Balanced next := by
  unfold RecordSystem.sinkStep at taken
  split at taken
  · cases taken
  · cases taken
  · cases taken
  · rename_i line oversized unencodable
    obtain ⟨generation, held, moved⟩ := Option.bind_eq_some_iff.mp taken
    obtain ⟨run, stepped, same⟩ := Option.map_eq_some_iff.mp moved
    subst same
    obtain ⟨accepted, refused⟩ := quiet_counts generation.run run event
      ⟨oversized, unencodable, line⟩ stepped
    exact unbooked_balanced state place generation _ held
      (fun sound => step_accounted _ _ _ sound stepped) (congrArg List.length accepted) refused rfl
      balanced

theorem close_counters (normalizer : LifecycleNormalizer) :
    normalizer.close.counterValues = normalizer.counterValues := by
  unfold LifecycleNormalizer.close
  split <;> rfl

theorem prepared_balanced (settings : ResourceSettings) (balanced : Balanced state) :
    Balanced { state with
      state := .starting
      current := some state.generations.length
      generations := state.generations ++ [settings.prepared] } := by
  refine ⟨fun _ => ⟨_, rfl, by simp⟩, ?_, balanced.received, balanced.raised, ?_, ?_, ?_, ?_⟩
  · intro generation member
    rcases List.mem_append.mp member with old | new
    · exact balanced.sinks generation old
    · rw [List.mem_singleton.mp new]
      exact opened_accounted settings.bounds
  all_goals
    dsimp only
    rw [total_snoc]
  · exact balanced.accepted
  · exact balanced.refused
  · exact balanced.returned
  · exact balanced.silent

theorem step_balanced (settings : ResourceSettings) (event : RecordEvent)
    (balanced : Balanced state) (taken : step json settings state event = some next) :
    Balanced next := by
  cases event with
  | prepare =>
      obtain ⟨_, same⟩ := Option.ite_none_right_eq_some.mp taken
      cases same
      exact prepared_balanced state settings balanced
  | activate =>
      obtain ⟨starting, same⟩ := Option.ite_none_right_eq_some.mp taken
      cases same
      refine ⟨fun _ => balanced.serving (.inl starting), balanced.sinks, ?_, balanced.raised,
        balanced.accepted, balanced.refused, balanced.returned, balanced.silent⟩
      intro kind
      have received := balanced.received kind
      cases kind <;> exact received
  | beginStop =>
      obtain ⟨_, same⟩ := Option.ite_none_left_eq_some.mp taken
      cases same
      exact ⟨fun serves => by rcases serves with starting | active <;> contradiction,
        balanced.sinks, balanced.received, balanced.raised, balanced.accepted, balanced.refused,
        balanced.returned, balanced.silent⟩
  | endStop =>
      obtain ⟨_, same⟩ := Option.ite_none_right_eq_some.mp taken
      cases same
      exact ⟨fun serves => by rcases serves with starting | active <;> contradiction,
        balanced.sinks, balanced.received, balanced.raised, balanced.accepted, balanced.refused,
        balanced.returned, balanced.silent⟩
  | closeNormalizer place =>
      obtain ⟨generation, held, same⟩ := Option.map_eq_some_iff.mp taken
      subst same
      exact unbooked_balanced state place generation _ held id rfl rfl (close_counters _) balanced
  | observe source =>
      cases taken
      exact enter_balanced state .observation .raised _ (fun _ => rfl) (fun _ => rfl)
        (fun _ => rfl) balanced
  | observeHostFact fact =>
      cases taken
      exact enter_balanced state .hostFact .dropped _ (fun _ => rfl) (fun _ => rfl)
        (fun _ => rfl) balanced
  | observeCorrelated record =>
      cases taken
      exact enter_balanced state .correlated .dropped _ (fun _ => rfl) (fun _ => rfl)
        (fun _ => rfl) balanced
  | normalize call => exact normalize_balanced state next call balanced taken
  | emit call raises => exact emit_balanced json state next call raises balanced taken
  | count call => exact count_balanced state next call balanced taken
  | sink place event => exact sink_step_balanced state next place event balanced taken

end Calls

/-! ## Runs -/

theorem balanced_initial : Balanced {} where
  serving serves := by rcases serves with starting | active <;> contradiction
  sinks generation member := nomatch member
  received kind := by cases kind <;> rfl
  raised := rfl
  accepted := rfl
  refused := rfl
  returned := rfl
  silent := rfl

/-- The records a sink has written, not fitted into its file, or failed to write. -/
def settledRecords (generation : Generation) : Nat := settled generation.run

/-- The books once every call has returned and every writer has exited. -/
structure Closed (state : RecordSystem) : Prop where
  received : ∀ kind, receivedCalls state.counterValues kind =
    settledCalls state.counterValues state.raisedCalls kind
  emitted : emittedTotal state.counterValues = total settledRecords state.generations
  dropped : droppedTotal state.counterValues =
    total refusedRecords state.generations + raisedHostRecords state.raisedCalls
  normalized : total returnedRecords state.generations =
    offered state.counterValues + state.raisedCalls.count .observation
  silent : total silentObservations state.generations = state.counterValues.normalizationDropped

theorem balanced_closed (state : RecordSystem) (balanced : Balanced state)
    (idle : state.calls = [])
    (exited : ∀ generation ∈ state.generations, generation.run.sink.writer = .exited) :
    Closed state := by
  have none (column : Column) : total (callPart column) state.calls = 0 := by
    rw [idle]
    rfl
  have written : total settledRecords state.generations = total acceptedRecords state.generations :=
    total_congr _ _ _ fun generation member =>
      (exited_drained generation.run (balanced.sinks generation member)
        (exited generation member)).settled
  have accepted := balanced.accepted
  have refused := balanced.refused
  have returned := balanced.returned
  have silent := balanced.silent
  simp only [none, Nat.add_zero] at accepted refused returned silent
  refine ⟨?_, ?_, refused.symm, returned, silent⟩
  · intro kind
    have received := balanced.received kind
    rw [none] at received
    exact received
  · rw [written, accepted]

theorem reached_balanced (json : JsonModule) (settings : ResourceSettings)
    (events : List RecordEvent) (state : RecordSystem)
    (reached : Steps.run (step json settings) {} events = some state) : Balanced state :=
  Steps.invariant_run (step json settings) Balanced
    (fun before event after holds taken =>
      step_balanced json before after settings event holds taken)
    {} state events balanced_initial reached

/-- In every reachable state, under every interleaving of calls, starts, stops and
writers, the books of the adapter agree with those of its normalizers and sinks; once
nothing is in progress, every record received is in one counter of the adapter, and
every record reported as emitted is in one counter of the sink that took it. -/
theorem record_accounting_balances (json : JsonModule) (settings : ResourceSettings)
    (events : List RecordEvent) (state : RecordSystem)
    (reached : Steps.run (step json settings) {} events = some state) :
    Balanced state ∧
      (state.calls = [] →
        (∀ generation ∈ state.generations, generation.run.sink.writer = .exited) →
        Closed state) := by
  have balanced := reached_balanced json settings events state reached
  exact ⟨balanced, balanced_closed state balanced⟩

/-- Two starts: an observation the normalizer passes over, a host record of another type,
one whose `emit` raises, a call that comes too late, and one that overlaps the stop. -/
def sampleCalls : List RecordEvent :=
  [.prepare, .activate, .observe .unsupported, .observeHostFact (.other .none),
    .observeCorrelated (.other .none), .normalize 0, .emit 1 false, .emit 2 true, .count 1,
    .count 0, .beginStop, .observe .unsupported, .closeNormalizer 0, .count 0, .sink 0 .close,
    .sink 0 .testStop, .sink 0 .testEmpty, .endStop, .prepare, .activate, .count 0, .beginStop,
    .sink 1 .close, .sink 1 .testStop, .sink 1 .testEmpty, .endStop]

def sampleSettings : ResourceSettings where
  maxCorrelatedTransfers := 1
  maxRecoveryAdmissions := 1
  retainRestoreReceipts := false
  bounds := sampleBounds

theorem sample_calls_balance :
    ∃ state, Steps.run (step sampleJson sampleSettings) {} sampleCalls = some state ∧
      state.counterValues.callbackErrors = 1 ∧ Closed state := by
  have finished : ∃ state,
      Steps.run (step sampleJson sampleSettings) {} sampleCalls = some state ∧
      state.counterValues.callbackErrors = 1 ∧ state.calls = [] ∧
      state.generations.map (fun generation => generation.run.sink.writer) = [.exited, .exited] :=
    ⟨_, rfl, rfl, rfl, rfl⟩
  obtain ⟨state, reached, errors, idle, writers⟩ := finished
  refine ⟨state, reached, errors,
    (record_accounting_balances sampleJson sampleSettings sampleCalls state reached).2 idle ?_⟩
  intro generation member
  have listed := List.mem_map_of_mem (f := fun generation => generation.run.sink.writer) member
  rw [writers] at listed
  simpa using listed

theorem balanced_serves (state : RecordSystem) (balanced : Balanced state) : Serves state := by
  intro active
  obtain ⟨place, current, bound⟩ := balanced.serving (.inr active)
  exact ⟨place, _, current, List.getElem?_eq_getElem bound⟩

/-- In a run, a call of `observe` that nothing interrupts is the call of the adapter. -/
theorem reachable_observe_is_adapter_call (json : JsonModule) (settings : ResourceSettings)
    (events : List RecordEvent) (state : RecordSystem)
    (reached : Steps.run (step json settings) {} events = some state)
    (source : SourceObservation) :
    ∃ rest ∈ callEvents state.calls.length, ∃ final,
      Steps.run (step json settings) {} (events ++ .observe source :: rest) = some final ∧
        final.calls = state.calls ∧
        final.adapter = (state.adapter.observe (emitSink json) source).2 := by
  have serves := balanced_serves state (reached_balanced json settings events state reached)
  obtain ⟨rest, listed, final, taken, calls, same⟩ :=
    uninterrupted_observe json settings state serves source
  exact ⟨rest, listed, final, (Steps.run_append_iff _ _ _ _ _).mpr ⟨state, reached, taken⟩, calls,
    same⟩

end KVTransferObservability.RecordAccounting
