import KVTransferObservability.Library.Steps
import KVTransferObservability.PythonValues

/-!
# The bounded event sink

`events.py`: the queue between the callers of `emit` and the writer thread. The
steps are those that the source makes atomic: what `emit` and `close` do under
`_state_lock`, and in `_run` the reading of `_stop`, of `_records.empty()`, the
`get`, the record write and the counting of its result.
-/

namespace KVTransferObservability.EventSink

open Library PythonValues

set_option autoImplicit false

abbrev Bytes := List UInt8

def defaultMaxPendingRecords : Nat := 4096
def defaultMaxRecordBytes : Nat := 1024 * 1024
def defaultMaxFileBytes : Nat := 64 * 1024 * 1024
def minRecordBytes : Nat := 512

/-- The bounds of a sink, with what its constructor checks of them. -/
structure SinkBounds where
  maxPendingRecords : Nat
  maxRecordBytes : Nat
  maxFileBytes : Nat
  pending : 0 < maxPendingRecords
  record : minRecordBytes ≤ maxRecordBytes
  file : maxRecordBytes ≤ maxFileBytes

theorem positive_to_nat {number : Int} (positive : 0 < number) : 0 < number.toNat :=
  Int.pos_iff_toNat_pos.mp positive

/-- `_positive_int`. -/
def positiveInt (value : PyObject) (name : String) : Py { number : Nat // 0 < number } :=
  match value with
  | .int number =>
      if positive : 0 < number then .ok ⟨number.toNat, positive_to_nat positive⟩
      else .error (.valueError (name ++ " must be a positive integer"))
  | _ => .error (.valueError (name ++ " must be a positive integer"))

/-- The checks of `JsonlKVTransferEventSink.__init__`. -/
def SinkBounds.make (maxPendingRecords maxRecordBytes maxFileBytes : PyObject) :
    Py SinkBounds := do
  let pending ← positiveInt maxPendingRecords "max_pending_records"
  let record ← positiveInt maxRecordBytes "max_record_bytes"
  let file ← positiveInt maxFileBytes "max_file_bytes"
  if enough : minRecordBytes ≤ record.val then
    if fits : record.val ≤ file.val then
      .ok ⟨pending.val, record.val, file.val, pending.property, enough, fits⟩
    else .error (.valueError "max_file_bytes must be >= max_record_bytes")
  else .error (.valueError ("max_record_bytes must be at least " ++ toString minRecordBytes))

/-- The keys of `_counter_values`. -/
inductive EventSinkCounter
  | enqueued
  | written
  | queueDropped
  | recordSizeDropped
  | fileCapacityDropped
  | serializationErrors
  | ioErrors
  | closedDropped
  | shutdownTimeouts
  deriving DecidableEq, Repr

abbrev EventSinkCounters := EventSinkCounter → Nat

def EventSinkCounters.zero : EventSinkCounters := fun _ => 0

def EventSinkCounters.increment (counters : EventSinkCounters) (name : EventSinkCounter) :
    EventSinkCounters :=
  fun other => if other = name then counters other + 1 else counters other

@[simp] theorem increment_self (counters : EventSinkCounters) (name : EventSinkCounter) :
    counters.increment name name = counters name + 1 := if_pos rfl

theorem increment_other (counters : EventSinkCounters) (name other : EventSinkCounter)
    (different : other ≠ name) : counters.increment name other = counters other :=
  if_neg different

/-- What `_write_record` answers; `failed` is an `OSError` or a `RuntimeError`. -/
inductive WriteResult
  | written
  | capacity
  | failed
  deriving DecidableEq, Repr

/-- The counter `_run` increments for a result. -/
def WriteResult.counter : WriteResult → EventSinkCounter
  | .written => .written
  | .capacity => .fileCapacityDropped
  | .failed => .ioErrors

/-- Where the writer stands in `_run`. -/
inductive WriterPoint
  | testStop
  | testEmpty
  | receive
  | writing (record : Bytes)
  | counting (result : WriteResult)
  | exited
  deriving DecidableEq, Repr

structure JsonlKVTransferEventSink where
  bounds : SinkBounds
  counterValues : EventSinkCounters := .zero
  records : List Bytes := []
  stop : Bool := false
  closed : Bool := false
  writer : WriterPoint := .testStop

namespace JsonlKVTransferEventSink

/-- `_increment`. -/
def increment (self : JsonlKVTransferEventSink) (name : EventSinkCounter) :
    JsonlKVTransferEventSink :=
  { self with counterValues := self.counterValues.increment name }

/-- What `emit` does with an encoded record under the lock. -/
def enqueue (self : JsonlKVTransferEventSink) (encoded : Bytes) :
    Bool × JsonlKVTransferEventSink :=
  if self.closed then (false, self.increment .closedDropped)
  else if self.bounds.maxPendingRecords ≤ self.records.length then (false, self.increment .queueDropped)
  else (true, { self with records := self.records ++ [encoded] }.increment .enqueued)

/-- What `close` does under the lock. -/
def close (self : JsonlKVTransferEventSink) : JsonlKVTransferEventSink :=
  if self.closed then self else { self with closed := true, stop := true }

end JsonlKVTransferEventSink

/-- The sink with what it has done so far: the records that `emit` answered `True`
for, and the results of the record writes. -/
structure SinkRun where
  sink : JsonlKVTransferEventSink
  accepted : List Bytes := []
  processed : List (Bytes × WriteResult) := []

inductive SinkEvent
  /-- The locked part of `emit`. -/
  | enqueue (encoded : Bytes)
  /-- `emit` gives up before the queue: the record has no encoding, or is too long. -/
  | unencodable
  | oversized
  /-- The locked part of `close`. -/
  | close
  /-- The `join` of `close` ran out of time. -/
  | closeTimeout
  | testStop
  | testEmpty
  | get
  /-- `get` raises `Empty`. -/
  | getTimeout
  | write (result : WriteResult)
  | count
  deriving DecidableEq, Repr

/-- One atomic step of a caller or of the writer, where it is enabled. -/
def step (state : SinkRun) : SinkEvent → Option SinkRun
  | .enqueue encoded =>
      let (answer, sink) := state.sink.enqueue encoded
      some { state with
        sink := sink
        accepted := if answer then state.accepted ++ [encoded] else state.accepted }
  | .unencodable => some { state with sink := state.sink.increment .serializationErrors }
  | .oversized => some { state with sink := state.sink.increment .recordSizeDropped }
  | .close => some { state with sink := state.sink.close }
  | .closeTimeout =>
      if state.sink.closed ∧ state.sink.writer ≠ .exited then
        some { state with sink := state.sink.increment .shutdownTimeouts }
      else none
  | .testStop =>
      if state.sink.writer = .testStop then
        some { state with sink := { state.sink with
          writer := if state.sink.stop then .testEmpty else .receive } }
      else none
  | .testEmpty =>
      if state.sink.writer = .testEmpty then
        some { state with sink := { state.sink with
          writer := if state.sink.records = [] then .exited else .receive } }
      else none
  | .get =>
      match state.sink.writer, state.sink.records with
      | .receive, record :: rest =>
          some { state with sink := { state.sink with records := rest, writer := .writing record } }
      | _, _ => none
  | .getTimeout =>
      if state.sink.writer = .receive ∧ state.sink.records = [] then
        some { state with sink := { state.sink with writer := .testStop } }
      else none
  | .write result =>
      match state.sink.writer with
      | .writing record =>
          some { state with
            sink := { state.sink with writer := .counting result }
            processed := state.processed ++ [(record, result)] }
      | _ => none
  | .count =>
      match state.sink.writer with
      | .counting result =>
          some { state with sink :=
            { state.sink with writer := .testStop }.increment result.counter }
      | _ => none

/-- The sink as its constructor leaves it, with the writer just started. -/
def opened (bounds : SinkBounds) : SinkRun :=
  { sink := { bounds := bounds } }

/-- The record that has left the queue and is not written. -/
def WriterPoint.unwritten : WriterPoint → List Bytes
  | .writing record => [record]
  | _ => []

/-- The result that is not counted. -/
def WriterPoint.uncounted : WriterPoint → List WriteResult
  | .counting result => [result]
  | _ => []

/-- The number of records in flight: taken from the queue and not counted. -/
def WriterPoint.inFlight (point : WriterPoint) : Nat :=
  point.unwritten.length + point.uncounted.length

/-! ## The invariant -/

/-- The queue is a FIFO buffer between `emit` and the record writes, every result
is counted once, and the writer leaves its loop only when nothing can be queued. -/
structure Accounted (state : SinkRun) : Prop where
  fifo : state.accepted =
    state.processed.map Prod.fst ++ state.sink.writer.unwritten ++ state.sink.records
  enqueued : state.sink.counterValues .enqueued = state.accepted.length
  counted : ∀ result, (state.processed.map Prod.snd).count result =
    state.sink.counterValues result.counter + state.sink.writer.uncounted.count result
  bounded : state.sink.records.length ≤ state.sink.bounds.maxPendingRecords
  stopped : state.sink.stop = state.sink.closed
  draining : state.sink.writer = .testEmpty → state.sink.closed = true
  exited : state.sink.writer = .exited →
    state.sink.closed = true ∧ state.sink.records = []

theorem opened_accounted (bounds : SinkBounds) : Accounted (opened bounds) where
  fifo := rfl
  enqueued := rfl
  counted := fun _ => rfl
  bounded := Nat.zero_le _
  stopped := rfl
  draining := fun point => by cases point
  exited := fun point => by cases point

/-- The counters the invariant is about. -/
def countedNames : List EventSinkCounter := [.enqueued, .written, .fileCapacityDropped, .ioErrors]

theorem result_counted (result : WriteResult) : result.counter ∈ countedNames := by
  cases result <;> decide

section Steps

variable (state : SinkRun)

theorem accounted_increment (holds : Accounted state) (name : EventSinkCounter)
    (uncounted : name ∉ countedNames) :
    Accounted { state with sink := state.sink.increment name } := by
  obtain ⟨fifo, enqueued, counted, bounded, stopped, draining, exited⟩ := holds
  have other : ∀ read ∈ countedNames,
      state.sink.counterValues.increment name read = state.sink.counterValues read := by
    intro read member
    exact increment_other _ _ _ (fun same => uncounted (same ▸ member))
  refine ⟨fifo, ?_, ?_, bounded, stopped, draining, exited⟩
  · change state.sink.counterValues.increment name .enqueued = state.accepted.length
    rw [other .enqueued (by decide), enqueued]
  · intro result
    change (state.processed.map Prod.snd).count result =
      state.sink.counterValues.increment name result.counter +
        state.sink.writer.uncounted.count result
    rw [other result.counter (result_counted result), counted]

/-- The writer moves between two points that hold no record. -/
theorem accounted_moved (holds : Accounted state) (point : WriterPoint)
    (empty : state.sink.writer.unwritten = [] ∧ state.sink.writer.uncounted = [])
    (still : point.unwritten = [] ∧ point.uncounted = [])
    (draining : point = .testEmpty → state.sink.closed = true)
    (exited : point = .exited → state.sink.closed = true ∧ state.sink.records = []) :
    Accounted { state with sink := { state.sink with writer := point } } := by
  obtain ⟨fifo, enqueued, counted, bounded, stopped, _, _⟩ := holds
  refine ⟨?_, enqueued, ?_, bounded, stopped, draining, exited⟩
  · rw [still.1, ← empty.1]
    exact fifo
  · intro result
    rw [still.2, ← empty.2]
    exact counted result

theorem accounted_enqueue (holds : Accounted state) (encoded : Bytes) :
    Accounted { state with
      sink := (state.sink.enqueue encoded).2
      accepted := if (state.sink.enqueue encoded).1 then state.accepted ++ [encoded]
        else state.accepted } := by
  unfold JsonlKVTransferEventSink.enqueue
  by_cases closed : state.sink.closed = true
  · rw [if_pos closed]
    exact accounted_increment state holds .closedDropped (by decide)
  · rw [if_neg closed]
    by_cases full : state.sink.bounds.maxPendingRecords ≤ state.sink.records.length
    · rw [if_pos full]
      exact accounted_increment state holds .queueDropped (by decide)
    · rw [if_neg full]
      obtain ⟨fifo, enqueued, counted, bounded, stopped, draining, exited⟩ := holds
      refine ⟨?_, ?_, ?_, ?_, stopped, draining, ?_⟩
      · change state.accepted ++ [encoded] = state.processed.map Prod.fst ++
          state.sink.writer.unwritten ++ (state.sink.records ++ [encoded])
        rw [fifo, List.append_assoc]
      · change state.sink.counterValues.increment .enqueued .enqueued =
          (state.accepted ++ [encoded]).length
        rw [increment_self, enqueued, List.length_append, List.length_singleton]
      · intro result
        change (state.processed.map Prod.snd).count result =
          state.sink.counterValues.increment .enqueued result.counter +
            state.sink.writer.uncounted.count result
        rw [increment_other _ _ _ (by cases result <;> decide), counted]
      · change (state.sink.records ++ [encoded]).length ≤ state.sink.bounds.maxPendingRecords
        rw [List.length_append, List.length_singleton]
        omega
      · intro point
        exact absurd (exited point).1 closed

theorem accounted_close (holds : Accounted state) :
    Accounted { state with sink := state.sink.close } := by
  unfold JsonlKVTransferEventSink.close
  by_cases closed : state.sink.closed = true
  · rw [if_pos closed]
    exact holds
  · rw [if_neg closed]
    obtain ⟨fifo, enqueued, counted, bounded, stopped, draining, exited⟩ := holds
    refine ⟨fifo, enqueued, counted, bounded, rfl, fun _ => rfl, ?_⟩
    intro point
    exact absurd (exited point).1 closed

theorem accounted_get (holds : Accounted state) (record : Bytes) (rest : List Bytes)
    (receiving : state.sink.writer = .receive) (queued : state.sink.records = record :: rest) :
    Accounted { state with
      sink := { state.sink with records := rest, writer := .writing record } } := by
  obtain ⟨fifo, enqueued, counted, bounded, stopped, _, _⟩ := holds
  rw [receiving, queued] at fifo
  rw [queued] at bounded
  refine ⟨?_, enqueued, ?_, Nat.le_of_succ_le bounded, stopped, ?_, ?_⟩
  · simpa [WriterPoint.unwritten] using fifo
  · intro result
    have before := counted result
    rw [receiving] at before
    exact before
  · intro point
    cases point
  · intro point
    cases point

theorem accounted_write (holds : Accounted state) (record : Bytes) (result : WriteResult)
    (writing : state.sink.writer = .writing record) :
    Accounted { state with
      sink := { state.sink with writer := .counting result }
      processed := state.processed ++ [(record, result)] } := by
  obtain ⟨fifo, enqueued, counted, bounded, stopped, _, _⟩ := holds
  rw [writing] at fifo
  refine ⟨?_, enqueued, ?_, bounded, stopped, ?_, ?_⟩
  · simpa [WriterPoint.unwritten] using fifo
  · intro other
    have before := counted other
    rw [writing] at before
    simp only [List.map_append, List.count_append, before, WriterPoint.uncounted, List.map_cons,
      List.map_nil, List.count_nil, Nat.add_zero]
  · intro point
    cases point
  · intro point
    cases point

theorem accounted_count (holds : Accounted state) (result : WriteResult)
    (counting : state.sink.writer = .counting result) :
    Accounted { state with sink :=
      { state.sink with writer := .testStop }.increment result.counter } := by
  obtain ⟨fifo, enqueued, counted, bounded, stopped, _, _⟩ := holds
  rw [counting] at fifo
  refine ⟨fifo, ?_, ?_, bounded, stopped, ?_, ?_⟩
  · change state.sink.counterValues.increment result.counter .enqueued = state.accepted.length
    rw [increment_other _ _ _ (by cases result <;> decide), enqueued]
  · intro other
    have before := counted other
    rw [counting] at before
    change (state.processed.map Prod.snd).count other =
      state.sink.counterValues.increment result.counter other.counter + 0
    rw [before]
    by_cases same : other = result
    · subst same
      rw [increment_self]
      simp [WriterPoint.uncounted]
    · rw [increment_other]
      · simp [WriterPoint.uncounted, Ne.symm same]
      · intro counters
        cases other <;> cases result <;> first | exact same rfl | cases counters
  · intro point
    cases point
  · intro point
    cases point

end Steps

/-- Every step keeps the invariant. -/
theorem step_accounted (state : SinkRun) (event : SinkEvent) (next : SinkRun)
    (holds : Accounted state) (taken : step state event = some next) : Accounted next := by
  cases event with
  | enqueue encoded =>
      cases taken
      exact accounted_enqueue state holds encoded
  | unencodable =>
      cases taken
      exact accounted_increment state holds .serializationErrors (by decide)
  | oversized =>
      cases taken
      exact accounted_increment state holds .recordSizeDropped (by decide)
  | close =>
      cases taken
      exact accounted_close state holds
  | closeTimeout =>
      obtain ⟨_, counted⟩ := Option.ite_none_right_eq_some.mp taken
      cases counted
      exact accounted_increment state holds .shutdownTimeouts (by decide)
  | testStop =>
      obtain ⟨point, moved⟩ := Option.ite_none_right_eq_some.mp taken
      cases moved
      have empty : state.sink.writer.unwritten = [] ∧ state.sink.writer.uncounted = [] := by
        rw [point]
        exact ⟨rfl, rfl⟩
      cases stopping : state.sink.stop with
      | true =>
          refine accounted_moved state holds .testEmpty empty ⟨rfl, rfl⟩ ?_ ?_
          · intro _
            rw [← holds.stopped, stopping]
          · intro moved
            cases moved
      | false =>
          refine accounted_moved state holds .receive empty ⟨rfl, rfl⟩ ?_ ?_
          · intro moved
            cases moved
          · intro moved
            cases moved
  | testEmpty =>
      obtain ⟨point, moved⟩ := Option.ite_none_right_eq_some.mp taken
      cases moved
      have empty : state.sink.writer.unwritten = [] ∧ state.sink.writer.uncounted = [] := by
        rw [point]
        exact ⟨rfl, rfl⟩
      by_cases drained : state.sink.records = []
      · rw [if_pos drained]
        refine accounted_moved state holds .exited empty ⟨rfl, rfl⟩ ?_ ?_
        · intro moved
          cases moved
        · intro _
          exact ⟨holds.draining point, drained⟩
      · rw [if_neg drained]
        refine accounted_moved state holds .receive empty ⟨rfl, rfl⟩ ?_ ?_
        · intro moved
          cases moved
        · intro moved
          cases moved
  | get =>
      simp only [step] at taken
      split at taken
      · rename_i record rest receiving queued
        cases taken
        exact accounted_get state holds record rest receiving queued
      · cases taken
  | getTimeout =>
      obtain ⟨⟨point, _⟩, moved⟩ := Option.ite_none_right_eq_some.mp taken
      cases moved
      refine accounted_moved state holds .testStop ?_ ⟨rfl, rfl⟩ ?_ ?_
      · rw [point]
        exact ⟨rfl, rfl⟩
      · intro moved
        cases moved
      · intro moved
        cases moved
  | write result =>
      simp only [step] at taken
      split at taken
      · rename_i record writing
        cases taken
        exact accounted_write state holds record result writing
      · cases taken
  | count =>
      simp only [step] at taken
      split at taken
      · rename_i result counting
        cases taken
        exact accounted_count state holds result counting
      · cases taken

end KVTransferObservability.EventSink
