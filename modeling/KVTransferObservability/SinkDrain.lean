import KVTransferObservability.EventSink

/-!
# Nothing is lost at shutdown

The writer tests the stop flag and the queue in two separate steps. It may still
leave its loop only when the queue is empty and stays so: the flag is set inside the
critical section that closes the sink, and `emit` tests `_closed` and puts in another.
-/

namespace KVTransferObservability.SinkDrain

open Library EventSink

set_option autoImplicit false

theorem run_accounted (bounds : SinkBounds) (events : List SinkEvent) (state : SinkRun)
    (reached : Steps.run step (opened bounds) events = some state) : Accounted state :=
  Steps.invariant_run step Accounted step_accounted (opened bounds) state events
    (opened_accounted bounds) reached

theorem enqueue_bounds (sink : JsonlKVTransferEventSink) (encoded : Bytes) :
    (sink.enqueue encoded).2.bounds = sink.bounds := by
  unfold JsonlKVTransferEventSink.enqueue
  split
  · rfl
  · split <;> rfl

theorem close_bounds (sink : JsonlKVTransferEventSink) : sink.close.bounds = sink.bounds := by
  unfold JsonlKVTransferEventSink.close
  split <;> rfl

theorem step_bounds (state : SinkRun) (event : SinkEvent) (next : SinkRun)
    (taken : step state event = some next) : next.sink.bounds = state.sink.bounds := by
  cases event with
  | enqueue encoded =>
      cases taken
      exact enqueue_bounds state.sink encoded
  | close =>
      cases taken
      exact close_bounds state.sink
  | _ =>
      simp only [step] at taken
      first
        | cases taken; rfl
        | (split at taken
           · cases taken
             rfl
           · cases taken)

theorem run_bounds (bounds : SinkBounds) (events : List SinkEvent) (state : SinkRun)
    (reached : Steps.run step (opened bounds) events = some state) :
    state.sink.bounds = bounds :=
  Steps.invariant_run step (fun state => state.sink.bounds = bounds)
    (fun state event next same taken => (step_bounds state event next taken).trans same)
    (opened bounds) state events rfl reached

/-! ## Counting the results -/

theorem results_length (results : List WriteResult) :
    results.length = results.count .written + results.count .capacity + results.count .failed := by
  induction results with
  | nil => rfl
  | cons result results induction =>
      rw [List.length_cons, induction]
      cases result <;> simp <;> omega

/-- The records that have been counted, by the three counters of `_run`. -/
def settled (state : SinkRun) : Nat :=
  state.sink.counterValues .written + state.sink.counterValues .fileCapacityDropped +
    state.sink.counterValues .ioErrors

theorem processed_settled (state : SinkRun) (holds : Accounted state) :
    state.processed.length = settled state + state.sink.writer.uncounted.length := by
  have total := results_length (state.processed.map Prod.snd)
  have pending := results_length state.sink.writer.uncounted
  rw [List.length_map, holds.counted .written, holds.counted .capacity, holds.counted .failed]
    at total
  change state.processed.length =
    state.sink.counterValues .written + state.sink.writer.uncounted.count .written +
      (state.sink.counterValues .fileCapacityDropped +
        state.sink.writer.uncounted.count .capacity) +
      (state.sink.counterValues .ioErrors + state.sink.writer.uncounted.count .failed) at total
  unfold settled
  omega

/-! ## Every reachable state -/

/-- Every accepted record is counted, in flight or queued; it is written at most once
and in the order of acceptance. -/
structure Balanced (bounds : SinkBounds) (state : SinkRun) : Prop where
  counts : state.sink.counterValues .enqueued =
    settled state + (state.sink.records.length + state.sink.writer.inFlight)
  bounded : state.sink.records.length ≤ bounds.maxPendingRecords
  accepted : state.sink.counterValues .enqueued = state.accepted.length
  order : state.accepted =
    state.processed.map Prod.fst ++ (state.sink.writer.unwritten ++ state.sink.records)

theorem accounted_balanced (state : SinkRun) (holds : Accounted state) :
    Balanced state.sink.bounds state where
  counts := by
    have total := processed_settled state holds
    have order := congrArg List.length holds.fifo
    rw [List.length_append, List.length_append, List.length_map] at order
    rw [holds.enqueued, order, total]
    unfold WriterPoint.inFlight
    omega
  bounded := holds.bounded
  accepted := holds.enqueued
  order := by rw [← List.append_assoc, ← holds.fifo]

/-! ## After the writer has exited -/

/-- Every accepted record is written and counted once. -/
structure Drained (state : SinkRun) : Prop where
  empty : state.sink.records = []
  processed : state.accepted = state.processed.map Prod.fst
  counted : ∀ result,
    state.sink.counterValues result.counter = (state.processed.map Prod.snd).count result
  settled : settled state = state.accepted.length

theorem exited_drained (state : SinkRun) (holds : Accounted state)
    (exited : state.sink.writer = .exited) : Drained state := by
  have empty := (holds.exited exited).2
  have order := holds.fifo
  have total := processed_settled state holds
  rw [exited, empty] at order
  rw [exited] at total
  have processed : state.accepted = state.processed.map Prod.fst := by
    simpa [WriterPoint.unwritten] using order
  refine ⟨empty, processed, ?_, ?_⟩
  · intro result
    have counted := holds.counted result
    rw [exited] at counted
    exact counted.symm
  · rw [processed, List.length_map, total]
    rfl

/-- The writer has left its loop, and the two logs are these. -/
structure Over (accepted : List Bytes) (processed : List (Bytes × WriteResult))
    (state : SinkRun) : Prop where
  exited : state.sink.writer = .exited
  closed : state.sink.closed = true
  accepted : state.accepted = accepted
  processed : state.processed = processed

theorem closed_refuses (sink : JsonlKVTransferEventSink) (closed : sink.closed = true)
    (encoded : Bytes) : sink.enqueue encoded = (false, sink.increment .closedDropped) := by
  unfold JsonlKVTransferEventSink.enqueue
  rw [if_pos closed]

theorem step_over (accepted : List Bytes) (processed : List (Bytes × WriteResult))
    (state : SinkRun) (event : SinkEvent) (next : SinkRun)
    (ended : Over accepted processed state) (taken : step state event = some next) :
    Over accepted processed next := by
  obtain ⟨exited, closed, same, done⟩ := ended
  cases event with
  | enqueue encoded =>
      simp only [step, closed_refuses state.sink closed] at taken
      cases taken
      exact ⟨exited, closed, same, done⟩
  | unencodable =>
      cases taken
      exact ⟨exited, closed, same, done⟩
  | oversized =>
      cases taken
      exact ⟨exited, closed, same, done⟩
  | close =>
      simp only [step, JsonlKVTransferEventSink.close, closed, if_true] at taken
      cases taken
      exact ⟨exited, closed, same, done⟩
  | _ =>
      simp only [step, exited] at taken
      simp at taken

/-- For every interleaving of producers, `close` and the writer: no accepted record
is lost or processed twice, and once the writer has exited all of them have been
counted and none is accepted any more. -/
theorem no_accepted_record_lost_or_duplicated (bounds : SinkBounds) (events : List SinkEvent)
    (state : SinkRun) (reached : Steps.run step (opened bounds) events = some state) :
    Balanced bounds state ∧
      (state.sink.writer = .exited →
        Drained state ∧
        ∀ later final, Steps.run step state later = some final →
          final.sink.writer = .exited ∧ Drained final ∧ final.accepted = state.accepted ∧
          ∀ encoded, (final.sink.enqueue encoded).1 = false) := by
  have holds := run_accounted bounds events state reached
  refine ⟨?_, ?_⟩
  · have balanced := accounted_balanced state holds
    rw [run_bounds bounds events state reached] at balanced
    exact balanced
  · intro exited
    refine ⟨exited_drained state holds exited, ?_⟩
    intro later final after
    have ended : Over state.accepted state.processed final :=
      Steps.invariant_run step _ (step_over state.accepted state.processed) state final later
        ⟨exited, (holds.exited exited).1, rfl, rfl⟩ after
    have accounted := Steps.invariant_run step Accounted step_accounted state final later holds
      after
    refine ⟨ended.exited, exited_drained final accounted ended.exited, ended.accepted, ?_⟩
    intro encoded
    rw [closed_refuses final.sink ended.closed]

def sampleBounds : SinkBounds :=
  { maxPendingRecords := 1
    maxRecordBytes := minRecordBytes
    maxFileBytes := minRecordBytes
    pending := by decide
    record := by decide
    file := by decide }

/-- A record is accepted between the writer's test of the stop flag and `close`, a
second one is refused, and the writer drains the first before it leaves. -/
def sampleShutdown : List SinkEvent :=
  [.testStop, .enqueue [123, 10], .close, .enqueue [125, 10], .get, .write .written, .count,
    .testStop, .testEmpty]

theorem sample_shutdown_drains :
    ∃ state, Steps.run step (opened sampleBounds) sampleShutdown = some state ∧
      Drained state ∧ state.accepted = [[123, 10]] :=
  ⟨_, rfl, ((no_accepted_record_lost_or_duplicated sampleBounds sampleShutdown _ rfl).2 rfl).1,
    rfl⟩

end KVTransferObservability.SinkDrain
