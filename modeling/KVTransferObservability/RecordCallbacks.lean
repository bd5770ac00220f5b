import KVTransferObservability.SinkDrain
import KVTransferObservability.RecordText
import KVTransferObservability.NormalizerCounters
import KVTransferObservability.Library.Totals

/-!
# Record callbacks across starts and threads

`adapter.py`: `observe`, `observe_host_fact` and `observe_correlated`, called by any
number of threads, with the parts of `start` and `stop` that they can see. A call reads
the state and counts under the adapter's lock, normalizes under the normalizer's and
queues under the sink's: each is one step. A call keeps the normalizer and the sink it
has read, also when a later start has brought new ones.
-/

namespace KVTransferObservability.RecordCallbacks

open Library PythonValues Schema Observation HostFacts Correlated Normalization Adapter
open NormalizerTransitions (fresh step_transition)
open EventSink RecordText

set_option autoImplicit false

/-- The callbacks that end in the event sink. -/
inductive RecordKind
  | observation
  | hostFact
  | correlated
  deriving DecidableEq, Repr

/-- What is to be counted at the end of a call. -/
inductive CallResult
  | accepted
  | dropped
  | silent
  | raised
  deriving DecidableEq, Repr

/-- Where a call stands. The place is that of the start whose resources it has read;
an argument of another type reaches `emit` as any other object. -/
inductive CallPoint
  | observing (place : Nat) (source : SourceObservation)
  | emitting (kind : RecordKind) (place : Nat) (record : Argument EventRecord)
  | answered (kind : RecordKind) (result : CallResult)

/-- The normalizer and the sink of one start. -/
structure Generation where
  normalizer : LifecycleNormalizer
  run : SinkRun

/-- What `_prepare_resources` makes of the configuration. -/
structure ResourceSettings where
  maxCorrelatedTransfers : Nat
  maxRecoveryAdmissions : Nat
  retainRestoreReceipts : Bool
  bounds : SinkBounds

def ResourceSettings.prepared (settings : ResourceSettings) : Generation where
  normalizer := fresh settings.maxCorrelatedTransfers settings.maxRecoveryAdmissions
    settings.retainRestoreReceipts
  run := opened settings.bounds

/-- The adapter, all normalizers and sinks it ever had, and the calls in progress.
`raisedCalls` are the calls that `callback_errors` has counted. -/
structure RecordSystem where
  state : AdapterState := .stopped
  current : Option Nat := none
  counterValues : AdapterCounters := {}
  generations : List Generation := []
  calls : List CallPoint := []
  raisedCalls : List RecordKind := []

inductive RecordEvent
  /-- A start has its resources. -/
  | prepare
  | activate
  | beginStop
  /-- A stop whose writers have exited, or a start that could not register. -/
  | endStop
  | closeNormalizer (place : Nat)
  /-- The first lock of a call. -/
  | observe (source : SourceObservation)
  | observeHostFact (fact : Argument EventRecord)
  | observeCorrelated (record : Argument EventRecord)
  | normalize (call : Nat)
  | emit (call : Nat) (raises : Bool)
  | count (call : Nat)
  /-- A step of a writer or of `close`. -/
  | sink (place : Nat) (event : SinkEvent)

/-! ## Counters -/

def countReceived (counters : AdapterCounters) : RecordKind → AdapterCounters
  | .observation => { counters with observationsReceived := counters.observationsReceived + 1 }
  | .hostFact => { counters with hostFactsReceived := counters.hostFactsReceived + 1 }
  | .correlated => { counters with correlatedReceived := counters.correlatedReceived + 1 }

def countEmitted (counters : AdapterCounters) : RecordKind → AdapterCounters
  | .observation => { counters with observationsEmitted := counters.observationsEmitted + 1 }
  | .hostFact => { counters with hostFactsEmitted := counters.hostFactsEmitted + 1 }
  | .correlated => { counters with correlatedEmitted := counters.correlatedEmitted + 1 }

def countDropped (counters : AdapterCounters) : RecordKind → AdapterCounters
  | .observation => KVTransferHostAdapter.countSinkDropped counters
  | .hostFact => { counters with hostFactsDropped := counters.hostFactsDropped + 1 }
  | .correlated => { counters with correlatedDropped := counters.correlatedDropped + 1 }

/-! ## One step of a call -/

/-- `emit` of a sink, without the exceptions it does not catch. -/
def emitTo (json : JsonModule) (run : SinkRun) : Argument EventRecord → Bool × SinkRun
  | .other _ => (false, { run with sink := run.sink.increment .serializationErrors })
  | .typed record =>
      if run.sink.bounds.maxRecordBytes < (encoded json record).length then
        (false, { run with sink := run.sink.increment .recordSizeDropped })
      else
        let (answer, sink) := run.sink.enqueue (encoded json record)
        (answer, { run with
          sink := sink
          accepted := if answer then run.accepted ++ [encoded json record] else run.accepted })

namespace RecordSystem

/-- The first lock. Without resources an observation is an error, a host record a drop. -/
def enter (self : RecordSystem) (kind : RecordKind) (absent : CallResult)
    (point : Nat → CallPoint) : RecordSystem :=
  if self.state ≠ .active then
    { self with counterValues := KVTransferHostAdapter.countInactiveDropped self.counterValues }
  else
    { self with
      counterValues := countReceived self.counterValues kind
      calls := self.calls ++
        [match self.current with
          | none => .answered kind absent
          | some place => point place] }

def normalize (self : RecordSystem) (call : Nat) : Option RecordSystem :=
  match self.calls[call]? with
  | some (.observing place source) =>
      (self.generations[place]?).map fun generation =>
        let (answer, normalizer) := generation.normalizer.normalize source
        { self with
          generations := self.generations.set place { generation with normalizer := normalizer }
          calls := self.calls.set call
            (match answer with
              | .error _ => .answered .observation .raised
              | .ok none => .answered .observation .silent
              | .ok (some record) => .emitting .observation place (.typed (.canonical record))) }
  | _ => none

def emit (json : JsonModule) (self : RecordSystem) (call : Nat) (raises : Bool) :
    Option RecordSystem :=
  match self.calls[call]? with
  | some (.emitting kind place record) =>
      if raises then some { self with calls := self.calls.set call (.answered kind .raised) }
      else
        (self.generations[place]?).map fun generation =>
          let (answer, run) := emitTo json generation.run record
          { self with
            generations := self.generations.set place { generation with run := run }
            calls := self.calls.set call (.answered kind (if answer then .accepted else .dropped)) }
  | _ => none

/-- The last lock; a host record whose `emit` raised takes it twice. -/
def count (self : RecordSystem) (call : Nat) : Option RecordSystem :=
  match self.calls[call]? with
  | some (.answered kind .accepted) =>
      some { self with
        counterValues := countEmitted self.counterValues kind
        calls := self.calls.eraseIdx call }
  | some (.answered kind .dropped) =>
      some { self with
        counterValues := countDropped self.counterValues kind
        calls := self.calls.eraseIdx call }
  | some (.answered .observation .silent) =>
      some { self with
        counterValues := KVTransferHostAdapter.countNormalizationDropped self.counterValues
        calls := self.calls.eraseIdx call }
  | some (.answered kind .raised) =>
      some { self with
        counterValues := KVTransferHostAdapter.countCallbackErrors self.counterValues
        raisedCalls := self.raisedCalls ++ [kind]
        calls :=
          if kind = .observation then self.calls.eraseIdx call
          else self.calls.set call (.answered kind .dropped) }
  | _ => none

def sinkStep (self : RecordSystem) (place : Nat) (event : SinkEvent) : Option RecordSystem :=
  match event with
  | .enqueue _ | .oversized | .unencodable => none
  | event =>
      (self.generations[place]?).bind fun generation =>
        (EventSink.step generation.run event).map fun run =>
          { self with generations := self.generations.set place { generation with run := run } }

end RecordSystem

def step (json : JsonModule) (settings : ResourceSettings) (state : RecordSystem) :
    RecordEvent → Option RecordSystem
  | .prepare =>
      if state.state = .stopped then
        some { state with
          state := .starting
          current := some state.generations.length
          generations := state.generations ++ [settings.prepared] }
      else none
  | .activate =>
      if state.state = .starting then
        some { state with
          state := .active
          counterValues := { state.counterValues with
            registrations := state.counterValues.registrations + 1 } }
      else none
  | .beginStop =>
      if state.state = .stopped then none else some { state with state := .stopping }
  | .endStop =>
      if state.state = .starting ∨ state.state = .stopping then
        some { state with state := .stopped, current := none }
      else none
  | .closeNormalizer place =>
      (state.generations[place]?).map fun generation =>
        { state with
          generations := state.generations.set place
            { generation with normalizer := generation.normalizer.close } }
  | .observe source => some (state.enter .observation .raised fun place => .observing place source)
  | .observeHostFact fact =>
      some (state.enter .hostFact .dropped fun place => .emitting .hostFact place fact)
  | .observeCorrelated record =>
      some (state.enter .correlated .dropped fun place => .emitting .correlated place record)
  | .normalize call => state.normalize call
  | .emit call raises => state.emit json call raises
  | .count call => state.count call
  | .sink place event => state.sinkStep place event

/-! ## Calls that nothing interrupts -/

/-- The sink as the adapter's callbacks see it. -/
def emitSink (json : JsonModule) (run : SinkRun) (record : EventRecord) : Py Bool × SinkRun :=
  let (answer, run) := emitTo json run (.typed record)
  (.ok answer, run)

/-- The adapter with the resources it serves with. -/
def RecordSystem.adapter (self : RecordSystem) : KVTransferHostAdapter SinkRun where
  state := self.state
  counterValues := self.counterValues
  normalizer := (self.current.bind (self.generations[·]?)).map Generation.normalizer
  sink := (self.current.bind (self.generations[·]?)).map Generation.run

/-- An active adapter has resources. -/
def Serves (state : RecordSystem) : Prop :=
  state.state = .active →
    ∃ place generation, state.current = some place ∧ state.generations[place]? = some generation

section Uninterrupted

variable (json : JsonModule) (settings : ResourceSettings) (state : RecordSystem)

theorem last_erased (calls : List CallPoint) (point : CallPoint) :
    (calls ++ [point]).eraseIdx calls.length = calls := by
  rw [List.eraseIdx_append_of_length_le (Nat.le_refl _), Nat.sub_self]
  exact List.append_nil _

/-- The steps of a call after its first lock. -/
def callEvents (call : Nat) : List (List RecordEvent) :=
  [[], [.normalize call, .count call], [.emit call false, .count call],
    [.normalize call, .emit call false, .count call]]

/-- What is left of a state after a call of its own has changed one start's resources. -/
def RecordSystem.after (self : RecordSystem) (place : Nat) (changed : Generation)
    (counters : AdapterCounters) (calls : List CallPoint) : RecordSystem :=
  { self with
    counterValues := counters
    generations := self.generations.set place changed
    calls := calls }

section Active

variable {place : Nat} {generation : Generation}
variable (active : state.state = .active) (current : state.current = some place)
variable (held : state.generations[place]? = some generation)
include current held

theorem adapter_serves :
    state.adapter =
      { state := state.state
        counterValues := state.counterValues
        normalizer := some generation.normalizer
        sink := some generation.run } := by
  simp [RecordSystem.adapter, current, held]

theorem adapter_after (changed : Generation) (counters : AdapterCounters)
    (calls : List CallPoint) :
    (state.after place changed counters calls).adapter =
      { state := state.state
        counterValues := counters
        normalizer := some changed.normalizer
        sink := some changed.run } := by
  have found : (state.generations.set place changed)[place]? = some changed :=
    List.getElem?_set_self (List.getElem?_eq_some_iff.mp held).1
  simp [RecordSystem.adapter, RecordSystem.after, current, found]

include active in
theorem observe_normalizes (source : SourceObservation) (result : Option KVTransferObservation)
    (normalizer : LifecycleNormalizer)
    (normalized : generation.normalizer.normalize source = (.ok result, normalizer)) :
    Steps.run (step json settings) state [.observe source, .normalize state.calls.length] =
      some (state.after place { generation with normalizer := normalizer }
        (countReceived state.counterValues .observation)
        (state.calls ++
          [result.elim (.answered .observation .silent) fun record =>
            .emitting .observation place (.typed (.canonical record))])) := by
  cases result <;>
    simp [Steps.run, step, RecordSystem.enter, active, current, RecordSystem.normalize, held,
      normalized, RecordSystem.after]

end Active

/-- The last two steps of a call that has a record to queue. -/
theorem emit_counts_last (kind : RecordKind) (place : Nat) (generation : Generation)
    (record : EventRecord) (calls : List CallPoint)
    (held : state.generations[place]? = some generation)
    (last : state.calls = calls ++ [.emitting kind place (.typed record)]) :
    Steps.run (step json settings) state [.emit calls.length false, .count calls.length] =
      some (state.after place
        { generation with run := (emitTo json generation.run (.typed record)).2 }
        (if (emitTo json generation.run (.typed record)).1 then
          countEmitted state.counterValues kind
        else countDropped state.counterValues kind) calls) := by
  rcases emitted : emitTo json generation.run (.typed record) with ⟨answer, run⟩
  cases answer <;>
    simp [Steps.run, step, RecordSystem.emit, RecordSystem.count, last, held, emitted, last_erased,
      RecordSystem.after]

theorem after_after (place : Nat) (first second : Generation) (counters others : AdapterCounters)
    (calls rest : List CallPoint) :
    (state.after place first counters calls).after place second others rest =
      state.after place second others rest := by
  simp [RecordSystem.after]

/-- A call of `observe` that nothing interrupts is the call of the adapter. -/
theorem uninterrupted_observe (serves : Serves state) (source : SourceObservation) :
    ∃ rest ∈ callEvents state.calls.length, ∃ final,
      Steps.run (step json settings) state (.observe source :: rest) = some final ∧
        final.calls = state.calls ∧
        final.adapter = (state.adapter.observe (emitSink json) source).2 := by
  by_cases active : state.state = .active
  · obtain ⟨place, generation, current, held⟩ := serves active
    obtain ⟨result, returned, _⟩ := step_transition generation.normalizer (.normalize source)
    rcases normalized : generation.normalizer.normalize source with ⟨answer, changed⟩
    have same : answer = .ok result := (congrArg Prod.fst normalized).symm.trans returned
    subst same
    have normalizes := observe_normalizes json settings state active current held source result
      changed normalized
    rw [adapter_serves state current held, active]
    cases result with
    | none =>
        refine ⟨[.normalize state.calls.length, .count state.calls.length], by simp [callEvents],
          state.after place { generation with normalizer := changed }
            (KVTransferHostAdapter.countNormalizationDropped
              (countReceived state.counterValues .observation)) state.calls,
          (Steps.run_append_iff _ _ _ [_, _] [_]).mpr ⟨_, normalizes, ?_⟩, rfl, ?_⟩
        · simp [Steps.run, step, RecordSystem.count, last_erased, RecordSystem.after]
        · rw [adapter_after state current held, active]
          simp only [KVTransferHostAdapter.observe, KVTransferHostAdapter.count, normalized, ne_eq,
            not_true_eq_false, if_false]
          rfl
    | some record =>
        rcases emitted : emitTo json generation.run (.typed (.canonical record)) with ⟨taken, run⟩
        have counted := emit_counts_last json settings
          (state.after place { generation with normalizer := changed }
            (countReceived state.counterValues .observation)
            (state.calls ++ [.emitting .observation place (.typed (.canonical record))]))
          .observation place { generation with normalizer := changed } (.canonical record)
          state.calls (List.getElem?_set_self (List.getElem?_eq_some_iff.mp held).1) rfl
        rw [after_after, emitted] at counted
        refine ⟨[.normalize state.calls.length, .emit state.calls.length false,
          .count state.calls.length], by simp [callEvents], _,
          (Steps.run_append_iff _ _ _ [_, _] [_, _]).mpr ⟨_, normalizes, counted⟩, rfl, ?_⟩
        rw [adapter_after state current held, active]
        simp only [KVTransferHostAdapter.observe, KVTransferHostAdapter.count, normalized, emitSink,
          emitted, ne_eq, not_true_eq_false, if_false]
        cases taken <;> rfl
  · refine ⟨[], by simp [callEvents], _, rfl, ?_, ?_⟩
    · simp [RecordSystem.enter, active]
    · have inactive : state.adapter.state ≠ .active := active
      simp only [RecordSystem.enter, active, ne_eq, not_false_eq_true, if_true,
        KVTransferHostAdapter.observe, inactive]
      rfl

/-- So is a call that hands over a host record. -/
theorem uninterrupted_queue (serves : Serves state) (kind : RecordKind) (record : EventRecord)
    (first : RecordEvent)
    (enters : step json settings state first =
      some (state.enter kind .dropped fun place => .emitting kind place (.typed record))) :
    ∃ rest ∈ callEvents state.calls.length, ∃ final,
      Steps.run (step json settings) state (first :: rest) = some final ∧
        final.calls = state.calls ∧
        final.adapter = (state.adapter.queue (emitSink json) record (countReceived · kind)
          (countEmitted · kind) (countDropped · kind)).2 := by
  by_cases active : state.state = .active
  · obtain ⟨place, generation, current, held⟩ := serves active
    rw [adapter_serves state current held, active]
    rcases emitted : emitTo json generation.run (.typed record) with ⟨taken, run⟩
    have entered : state.enter kind .dropped (fun place => .emitting kind place (.typed record)) =
        { state with
          counterValues := countReceived state.counterValues kind
          calls := state.calls ++ [.emitting kind place (.typed record)] } := by
      simp [RecordSystem.enter, active, current]
    have counted := emit_counts_last json settings
      { state with
        counterValues := countReceived state.counterValues kind
        calls := state.calls ++ [.emitting kind place (.typed record)] }
      kind place generation record state.calls held rfl
    rw [emitted] at counted
    rw [entered] at enters
    refine ⟨[.emit state.calls.length false, .count state.calls.length], by simp [callEvents],
      state.after place { generation with run := run } _ state.calls,
      (Steps.run_cons_iff _ _ _ _ _).mpr ⟨_, enters, counted⟩, rfl, ?_⟩
    rw [adapter_after state current held, active]
    simp only [KVTransferHostAdapter.queue, KVTransferHostAdapter.count, emitSink, emitted, ne_eq,
      not_true_eq_false, if_false]
    cases taken <;> rfl
  · refine ⟨[], by simp [callEvents], _, (Steps.run_cons_iff _ _ _ _ _).mpr ⟨_, enters, rfl⟩, ?_, ?_⟩
    · simp [RecordSystem.enter, active]
    · have inactive : state.adapter.state ≠ .active := active
      simp only [RecordSystem.enter, active, ne_eq, not_false_eq_true, if_true,
        KVTransferHostAdapter.queue, inactive]
      rfl

theorem uninterrupted_host_fact (serves : Serves state) (fact : HostFact) :
    ∃ rest ∈ callEvents state.calls.length, ∃ final,
      Steps.run (step json settings) state (.observeHostFact (.typed (.hostFact fact)) :: rest) =
          some final ∧
        final.calls = state.calls ∧
        final.adapter = (state.adapter.observeHostFact (emitSink json) fact).2 :=
  uninterrupted_queue json settings state serves .hostFact (.hostFact fact) _ rfl

theorem uninterrupted_correlated (serves : Serves state) (record : CorrelatedHostObservation) :
    ∃ rest ∈ callEvents state.calls.length, ∃ final,
      Steps.run (step json settings) state (.observeCorrelated (.typed (.correlated record)) :: rest) =
          some final ∧
        final.calls = state.calls ∧
        final.adapter = (state.adapter.observeCorrelated (emitSink json) record).2 :=
  uninterrupted_queue json settings state serves .correlated (.correlated record) _ rfl

end Uninterrupted

end KVTransferObservability.RecordCallbacks
