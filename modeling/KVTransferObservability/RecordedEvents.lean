import KVTransferObservability.EventFile
import KVTransferObservability.Recording

/-!
# What the sink writes is what the reader reads

The file of a drained sink whose writes did not fail, read by `read_events`: the
accepted records, less those that did not fit into the file, in the order in which
they were accepted.
-/

namespace KVTransferObservability.RecordedEvents

open PythonValues Adapter EventSink EventReaders RecordText EventFile Recording Library

set_option autoImplicit false

/-- The accepted records without those dropped for file capacity. -/
def survivors (state : RecordedFile) : List EventRecord :=
  ((state.accepted.zip (results state)).filter fun entry => entry.2 ≠ .capacity).map Prod.fst

/-- No record is queued, and none is between the queue and its counter. -/
structure Drained (state : RecordedFile) : Prop where
  queue : state.run.sink.records = []
  inFlight : state.run.sink.writer.inFlight = 0

section

variable {json : JsonModule} {bounds : ConfiguredBounds} {state : RecordedFile}

theorem drained_uncounted (drained : Drained state) (result : WriteResult) :
    state.run.sink.writer.uncounted.count result = 0 := by
  have none := drained.inFlight
  unfold WriterPoint.inFlight at none
  have empty : state.run.sink.writer.uncounted = [] := List.length_eq_zero_iff.mp (by omega)
  rw [empty]
  rfl

theorem drained_results (holds : Recorded json bounds state) (drained : Drained state) :
    (results state).length = state.accepted.length := by
  have none := drained.inFlight
  unfold WriterPoint.inFlight at none
  have empty : state.run.sink.writer.unwritten = [] := List.length_eq_zero_iff.mp (by omega)
  have order := congrArg List.length (records_in_order holds)
  rw [empty, drained.queue, List.length_map] at order
  simpa [results] using order.symm

theorem no_failed_result (holds : Recorded json bounds state) (drained : Drained state)
    (noErrors : state.run.sink.counterValues .ioErrors = 0) : .failed ∉ results state := by
  have counted := holds.accounted.counted .failed
  rw [drained_uncounted drained] at counted
  change (results state).count .failed = state.run.sink.counterValues .ioErrors + 0 at counted
  rw [noErrors] at counted
  exact List.count_eq_zero.mp counted

theorem survivors_written (none : .failed ∉ results state) :
    survivors state = recordsWith .written state := by
  unfold survivors recordsWith
  congr 1
  apply List.filter_congr
  intro entry member
  have result := (List.of_mem_zip member).2
  cases outcome : entry.2 with
  | written => rfl
  | capacity => rfl
  | failed => exact absurd (outcome ▸ result) none

/-- A file without torn lines is the lines of the written records. -/
theorem file_of_records (holds : Recorded json bounds state) (whole : state.torn = false) :
    state.file = ((recordsWith .written state).map (encoded json)).flatten := by
  rw [holds.whole whole, written_lines_eq holds]

theorem written_short (holds : Recorded json bounds state) :
    ∀ record ∈ recordsWith .written state, (encoded json record).length ≤ EventFile.maxRecordBytes := by
  intro record member
  have short := holds.short record (records_with_accepted state .written record member)
  exact Nat.le_trans short bounds.recordLimit

theorem file_fits (holds : Recorded json bounds state) :
    state.file.length ≤ maxArtifactBytes :=
  Nat.le_trans holds.bounded bounds.fileLimit

theorem file_lines (holds : Recorded json bounds state) (whole : state.torn = false) :
    lines state.file = (recordsWith .written state).map (encoded json) := by
  rw [file_of_records holds whole]
  apply lines_of_whole
  · intro line member
    obtain ⟨record, _, rfl⟩ := List.mem_map.mp member
    exact encoded_is_line json record
  · intro line member
    obtain ⟨record, written, rfl⟩ := List.mem_map.mp member
    exact written_short holds record written

/-- Reading the file of a sink: all written records, or a refusal for their number. -/
theorem read_recorded_file (holds : Recorded json bounds state) (whole : state.torn = false)
    (inverse : ∀ record ∈ state.accepted, Inverse json record) :
    readEvents json state.file =
      if (recordsWith .written state).length ≤ maxRecords then
        (if (recordsWith .written state).isEmpty then .error (.valueError "no events recorded")
          else .ok (recordsWith .written state))
      else .error (.valueError "event artifact exceeds the record limit") := by
  have total : (((recordsWith .written state).map (encoded json)).map List.length).sum =
      state.file.length := by
    rw [file_of_records holds whole, List.length_flatten]
  have read := read_record_lines json (recordsWith .written state) [] 0
    (fun record member => inverse record (records_with_accepted state .written record member))
    (written_short holds) (by rw [total, Nat.zero_add]; exact file_fits holds) (Nat.zero_le _)
  unfold readEvents
  rw [file_lines holds whole, read, List.length_nil, Nat.zero_add, List.nil_append]
  split
  · split
    · rename_i empty
      simp [raiseIf, empty, bind, Except.bind]
    · rename_i filled
      simp [raiseIf, filled, bind, Except.bind]
  · rfl

end

/-- For every configured sink and every run from an empty file that is drained without
I/O errors: the reader returns the accepted records that were not dropped for file
capacity, in their order, when there is at least one and no more than it takes. -/
theorem read_events_returns_what_was_recorded (json : JsonModule) (bounds : ConfiguredBounds)
    (events : List RecordingEvent) (state : RecordedFile)
    (reached : Steps.run (step json) (opened bounds) events = some state)
    (drained : Drained state) (noErrors : state.run.sink.counterValues .ioErrors = 0)
    (inverse : ∀ record ∈ state.accepted, Inverse json record)
    (some : 1 ≤ state.run.sink.counterValues .written)
    (few : state.run.sink.counterValues .written ≤ maxRecords) :
    readEvents json state.file = .ok (survivors state) ∧
      (results state).length = state.accepted.length ∧
      (survivors state).length = state.run.sink.counterValues .written := by
  have holds := run_recorded json bounds events state reached
  have none := no_failed_result holds drained noErrors
  have whole : state.torn = false := by
    cases torn : state.torn with
    | false => rfl
    | true => exact absurd (holds.failed torn) none
  have count : (recordsWith .written state).length = state.run.sink.counterValues .written := by
    rw [records_with_counted holds .written, drained_uncounted drained]
    rfl
  rw [survivors_written none]
  refine ⟨?_, drained_results holds drained, count⟩
  have filled : (recordsWith .written state).isEmpty = false := by
    rw [List.isEmpty_eq_false_iff, ← List.length_pos_iff, count]
    exact some
  rw [read_recorded_file holds whole inverse, if_pos (by rw [count]; exact few), filled]
  rfl

/-! ## Recording one record at a time -/

/-- The writer waits at an empty queue of an open sink. -/
structure Ready (state : RecordedFile) : Prop where
  writer : state.run.sink.writer = .testStop
  queue : state.run.sink.records = []
  running : state.run.sink.stop = false
  accepting : state.run.sink.closed = false

/-- A record is offered, taken from the queue and passed to `_write_record`, which ends
as the event says. -/
def cycle (record : EventRecord) (ends : RecordingEvent) : List RecordingEvent :=
  [.emit record, .other .testStop, .other .get, ends, .other .count]

/-- The state when the record is about to be written. -/
def received (json : JsonModule) (state : RecordedFile) (record : EventRecord) : RecordedFile :=
  { state with
    run :=
      { state.run with
        sink := { state.run.sink.increment .enqueued with
          writer := .writing (encoded json record) }
        accepted := state.run.accepted ++ [encoded json record] }
    accepted := state.accepted ++ [record] }

theorem run_received (json : JsonModule) (state : RecordedFile) (record : EventRecord)
    (ready : Ready state)
    (short : (encoded json record).length ≤ state.run.sink.bounds.maxRecordBytes) :
    Steps.run (step json) state [.emit record, .other .testStop, .other .get] =
      some (received json state record) := by
  obtain ⟨⟨⟨bounds, counters, queue, stop, closed, writer⟩, lines, processed⟩, records, file,
    torn⟩ := state
  obtain ⟨rfl, rfl, rfl, rfl⟩ := ready
  have offered : offer json bounds record = .enqueue (encoded json record) :=
    if_neg (Nat.not_lt.mpr short)
  have room : ¬ bounds.maxPendingRecords ≤ 0 := Nat.not_le.mpr bounds.pending
  have enqueued : ∀ sink : JsonlKVTransferEventSink, sink.closed = false → sink.records = [] →
      sink.bounds = bounds → sink.enqueue (encoded json record) =
        (true, { sink with records := [encoded json record] }.increment .enqueued) := by
    intro sink accepting empty same
    rw [JsonlKVTransferEventSink.enqueue, accepting, empty, same, List.length_nil, if_neg room]
    rfl
  simp [Steps.run, Recording.step, answer, offered, EventSink.step, enqueued, received,
    JsonlKVTransferEventSink.increment]

/-- The state when the result is counted. -/
def settled (json : JsonModule) (state : RecordedFile) (record : EventRecord)
    (result : WriteResult) (file : Bytes) (torn : Bool) : RecordedFile where
  run :=
    { sink := (state.run.sink.increment .enqueued).increment result.counter
      accepted := state.run.accepted ++ [encoded json record]
      processed := state.run.processed ++ [(encoded json record, result)] }
  accepted := state.accepted ++ [record]
  file := file
  torn := torn

theorem settled_ready (json : JsonModule) {state : RecordedFile} (ready : Ready state)
    (record : EventRecord) (result : WriteResult) (file : Bytes) (torn : Bool) :
    Ready (settled json state record result file torn) :=
  ⟨ready.writer, ready.queue, ready.running, ready.accepting⟩

theorem run_cycle_of_received (json : JsonModule) (state : RecordedFile) (record : EventRecord)
    (ready : Ready state)
    (short : (encoded json record).length ≤ state.run.sink.bounds.maxRecordBytes)
    (ends : RecordingEvent) (final : RecordedFile)
    (ended : Steps.run (Recording.step json) (received json state record)
      [ends, .other .count] = some final) :
    Steps.run (Recording.step json) state (cycle record ends) = some final := by
  have split : cycle record ends =
      [.emit record, .other .testStop, .other .get] ++ [ends, .other .count] := rfl
  rw [split, Steps.run_append_iff]
  exact ⟨received json state record, run_received json state record ready short, ended⟩

theorem run_cycle_written (json : JsonModule) (state : RecordedFile) (record : EventRecord)
    (ready : Ready state)
    (short : (encoded json record).length ≤ state.run.sink.bounds.maxRecordBytes)
    (room : state.file.length + (encoded json record).length ≤
      state.run.sink.bounds.maxFileBytes) :
    Steps.run (Recording.step json) state (cycle record .write) =
      some (settled json state record .written (state.file ++ encoded json record)
        state.torn) := by
  apply run_cycle_of_received json state record ready short
  obtain ⟨⟨⟨bounds, counters, queue, stop, closed, writer⟩, lines, processed⟩, records, file,
    torn⟩ := state
  obtain ⟨rfl, rfl, rfl, rfl⟩ := ready
  have writes : FileWriter.writeRecord bounds.maxFileBytes file (encoded json record) =
      (.written, file ++ encoded json record) := if_neg (Nat.not_lt.mpr room)
  simp [Steps.run, Recording.step, received, writes, EventSink.step, settled,
    JsonlKVTransferEventSink.increment]

theorem run_cycle_failed (json : JsonModule) (state : RecordedFile) (record : EventRecord)
    (ready : Ready state)
    (short : (encoded json record).length ≤ state.run.sink.bounds.maxRecordBytes)
    (room : state.file.length + (encoded json record).length ≤
      state.run.sink.bounds.maxFileBytes)
    (left : Nat) (part : left ≤ (encoded json record).length) :
    Steps.run (Recording.step json) state (cycle record (.writeFails left)) =
      some (settled json state record .failed (state.file ++ (encoded json record).take left)
        (state.torn || decide (left ≠ 0))) := by
  apply run_cycle_of_received json state record ready short
  obtain ⟨⟨⟨bounds, counters, queue, stop, closed, writer⟩, lines, processed⟩, records, file,
    torn⟩ := state
  obtain ⟨rfl, rfl, rfl, rfl⟩ := ready
  simp [Steps.run, Recording.step, received, part, room, EventSink.step, settled,
    JsonlKVTransferEventSink.increment]

theorem run_cycle_dropped (json : JsonModule) (state : RecordedFile) (record : EventRecord)
    (ready : Ready state)
    (short : (encoded json record).length ≤ state.run.sink.bounds.maxRecordBytes)
    (full : state.run.sink.bounds.maxFileBytes <
      state.file.length + (encoded json record).length) :
    Steps.run (Recording.step json) state (cycle record .write) =
      some (settled json state record .capacity state.file state.torn) := by
  apply run_cycle_of_received json state record ready short
  obtain ⟨⟨⟨bounds, counters, queue, stop, closed, writer⟩, lines, processed⟩, records, file,
    torn⟩ := state
  obtain ⟨rfl, rfl, rfl, rfl⟩ := ready
  have drops : FileWriter.writeRecord bounds.maxFileBytes file (encoded json record) =
      (.capacity, file) := if_pos full
  simp [Steps.run, Recording.step, received, drops, EventSink.step, settled,
    JsonlKVTransferEventSink.increment]

/-! ## Records of two types -/

def sampleRecord : EventRecord := .hostFact sampleFact

/-- The payload of the sample, in the order of its fields. -/
def sampleEntries : Payload.Fields :=
  [("schema", Payload.text Payload.hostFactSchema), ("scope", Payload.text Payload.hostFactScope),
    ("event", Payload.text "recovery_requeued"),
    ("process_uuid", Payload.text "00000000000000000000000000000000"),
    ("observed_at_ns", Payload.natural 0), ("request_id", Payload.text "r"),
    ("recovery_epoch", Payload.natural 1), ("requeue_reason", Payload.text "token_budget")]

theorem sample_payload : Payload.EventRecord.toPayload sampleRecord = .object sampleEntries := rfl

theorem sample_length (json : JsonModule) : (encoded json sampleRecord).length = 246 := by
  rw [encoded, List.length_append, encodeAscii, List.length_map, dumps, sample_payload,
    JsonText.write_object_length]
  simp only [sampleEntries, Payload.text, Payload.natural, List.map_cons, List.map_nil,
    JsonText.write, scalarText]
  decide +kernel

/-- No float is in the payload, so its text is the same for every `JsonModule`. -/
theorem encoded_sample (json other : JsonModule) :
    encoded json sampleRecord = encoded other sampleRecord := by
  simp only [encoded, dumps, sample_payload, sampleEntries, Payload.text, Payload.natural,
    JsonText.write, JsonText.writeEntries, scalarText]

theorem epoch_one : 0 < 1 ∧ 1 ≤ uint64Max := by decide

/-- A correlated record of the same moment. -/
def sampleLink : EventRecord :=
  .correlated
    { event := .recoveryRequeued
      schedulerGeneration := sampleFact.processUuid
      requestId := sampleFact.requestId
      recoveryEpoch := ⟨1, epoch_one⟩
      observedAtNs := sampleFact.observedAtNs
      shape := rfl }

def linkEntries : Payload.Fields :=
  [("schema", Payload.text Payload.correlatedSchema), ("event", Payload.text "recovery_requeued"),
    ("scheduler_generation", Payload.text "00000000000000000000000000000000"),
    ("request_id", Payload.text "r"), ("recovery_epoch", Payload.natural 1),
    ("observed_at_ns", Payload.natural 0)]

/-- The same with its keys in sorted order. -/
def linkFields : Payload.Fields :=
  [("event", Payload.text "recovery_requeued"), ("observed_at_ns", Payload.natural 0),
    ("recovery_epoch", Payload.natural 1), ("request_id", Payload.text "r"),
    ("scheduler_generation", Payload.text "00000000000000000000000000000000"),
    ("schema", Payload.text Payload.correlatedSchema)]

theorem link_payload : Payload.EventRecord.toPayload sampleLink = .object linkEntries := rfl

theorem link_length (json : JsonModule) : (encoded json sampleLink).length = 195 := by
  rw [encoded, List.length_append, encodeAscii, List.length_map, dumps, link_payload,
    JsonText.write_object_length]
  simp only [linkEntries, Payload.text, Payload.natural, List.map_cons, List.map_nil,
    JsonText.write, scalarText]
  decide +kernel

theorem encoded_link (json other : JsonModule) :
    encoded json sampleLink = encoded other sampleLink := by
  simp only [encoded, dumps, link_payload, linkEntries, Payload.text, Payload.natural,
    JsonText.write, JsonText.writeEntries, scalarText]

theorem link_fields_unique : Json.UniqueKeys (.object linkFields) := by
  apply Json.UniqueKeys.object (by decide)
  simp only [linkFields, List.forall_mem_cons]
  exact ⟨.scalar _, .scalar _, .scalar _, .scalar _, .scalar _, .scalar _, List.forall_mem_nil _⟩

/-- A module that can only write. -/
def writingJson : JsonModule where
  floatText _ := []
  loads _ := .error (.valueError "Expecting value")

/-- Reading the lines of the two gives their fields back. -/
def sampleJson : JsonModule where
  floatText _ := []
  loads line :=
    if line = encoded writingJson sampleRecord then .ok (.object sampleFields)
    else if line = encoded writingJson sampleLink then .ok (.object linkFields)
    else .error (.valueError "Expecting value")

theorem sample_inverse : Inverse sampleJson sampleRecord := by
  refine ⟨.object sampleFields, ?_, sample_fields_unique, by decide +kernel⟩
  simp only [sampleJson]
  rw [if_pos (encoded_sample _ _)]

theorem link_inverse : Inverse sampleJson sampleLink := by
  refine ⟨.object linkFields, ?_, link_fields_unique, by decide +kernel⟩
  have other : encoded sampleJson sampleLink ≠ encoded writingJson sampleRecord := by
    intro same
    have lengths := congrArg List.length same
    rw [link_length, sample_length] at lengths
    cases lengths
  simp only [sampleJson] at other ⊢
  rw [if_neg other, if_pos (encoded_link _ _)]

/-- The defaults of `ObserverConfig`. -/
def defaultBounds : ConfiguredBounds where
  maxPendingRecords := defaultMaxPendingRecords
  maxRecordBytes := defaultMaxRecordBytes
  maxFileBytes := defaultMaxFileBytes
  pending := by decide
  record := by decide
  file := by decide
  pendingLimit := Nat.le_refl _
  recordLimit := Nat.le_refl _
  fileLimit := Nat.le_refl _

theorem opened_ready (bounds : ConfiguredBounds) : Ready (Recording.opened bounds) :=
  ⟨rfl, rfl, rfl, rfl⟩

theorem sample_short {state : RecordedFile}
    (configured : state.run.sink.bounds = defaultBounds.toSinkBounds) :
    (encoded sampleJson sampleRecord).length ≤ state.run.sink.bounds.maxRecordBytes := by
  rw [sample_length, configured]
  decide

theorem sample_room {state : RecordedFile}
    (configured : state.run.sink.bounds = defaultBounds.toSinkBounds)
    (fits : state.file.length + 246 ≤ defaultMaxFileBytes) :
    state.file.length + (encoded sampleJson sampleRecord).length ≤
      state.run.sink.bounds.maxFileBytes := by
  rw [sample_length, configured]
  exact fits

/-- The file after the sample has been recorded. -/
def sampleFile : RecordedFile :=
  settled sampleJson (Recording.opened defaultBounds) sampleRecord .written
    (encoded sampleJson sampleRecord) false

theorem run_sample :
    Steps.run (Recording.step sampleJson) (Recording.opened defaultBounds)
      (cycle sampleRecord .write) = some sampleFile := by
  apply run_cycle_written sampleJson (Recording.opened defaultBounds) sampleRecord
    (opened_ready defaultBounds) (sample_short rfl)
  apply sample_room rfl
  decide

theorem sample_accepted : ∀ record ∈ sampleFile.accepted, Inverse sampleJson record := by
  intro record member
  cases List.mem_singleton.mp member
  exact sample_inverse

theorem small_file_bytes : 512 ≤ defaultMaxFileBytes := by decide

/-- The smallest file a configuration can ask for. -/
def smallBounds : ConfiguredBounds where
  maxPendingRecords := defaultMaxPendingRecords
  maxRecordBytes := minRecordBytes
  maxFileBytes := minRecordBytes
  pending := defaultBounds.pending
  record := Nat.le_refl _
  file := Nat.le_refl _
  pendingLimit := Nat.le_refl _
  recordLimit := Nat.le_trans defaultBounds.record defaultBounds.recordLimit
  fileLimit := small_file_bytes

/-- A record of either type, and a third that the file has no room for. -/
def mixedRun : List RecordingEvent :=
  cycle sampleRecord .write ++ (cycle sampleLink .write ++ cycle sampleRecord .write)

def oneRecord : RecordedFile :=
  settled sampleJson (Recording.opened smallBounds) sampleRecord .written
    (encoded sampleJson sampleRecord) false

def twoRecords : RecordedFile :=
  settled sampleJson oneRecord sampleLink .written
    (encoded sampleJson sampleRecord ++ encoded sampleJson sampleLink) false

def mixedFile : RecordedFile :=
  settled sampleJson twoRecords sampleRecord .capacity twoRecords.file false

theorem one_record_length : oneRecord.file.length = 246 := sample_length sampleJson

theorem two_records_length : twoRecords.file.length = 246 + 195 := by
  have parts : twoRecords.file.length =
      (encoded sampleJson sampleRecord).length + (encoded sampleJson sampleLink).length :=
    List.length_append
  rw [parts, sample_length, link_length]

theorem run_mixed :
    Steps.run (Recording.step sampleJson) (Recording.opened smallBounds) mixedRun =
      some mixedFile := by
  have ready := opened_ready smallBounds
  have readyOne : Ready oneRecord := settled_ready sampleJson ready sampleRecord _ _ _
  have readyTwo : Ready twoRecords := settled_ready sampleJson readyOne sampleLink _ _ _
  have sampleShort : (encoded sampleJson sampleRecord).length ≤ minRecordBytes := by
    rw [sample_length]
    decide
  have linkShort : (encoded sampleJson sampleLink).length ≤ minRecordBytes := by
    rw [link_length]
    decide
  have first : Steps.run (Recording.step sampleJson) (Recording.opened smallBounds)
      (cycle sampleRecord .write) = some oneRecord := by
    apply run_cycle_written sampleJson _ sampleRecord ready sampleShort
    rw [sample_length]
    decide
  have second : Steps.run (Recording.step sampleJson) oneRecord (cycle sampleLink .write) =
      some twoRecords := by
    apply run_cycle_written sampleJson _ sampleLink readyOne linkShort
    rw [one_record_length, link_length]
    decide
  have third : Steps.run (Recording.step sampleJson) twoRecords (cycle sampleRecord .write) =
      some mixedFile := by
    apply run_cycle_dropped sampleJson _ sampleRecord readyTwo sampleShort
    rw [two_records_length, sample_length]
    decide
  unfold mixedRun
  rw [Steps.run_append_iff]
  refine ⟨oneRecord, first, ?_⟩
  rw [Steps.run_append_iff]
  exact ⟨twoRecords, second, third⟩

theorem mixed_accepted : ∀ record ∈ mixedFile.accepted, Inverse sampleJson record := by
  change ∀ record ∈ [sampleRecord, sampleLink, sampleRecord], Inverse sampleJson record
  simp only [List.forall_mem_cons]
  exact ⟨sample_inverse, link_inverse, sample_inverse, List.forall_mem_nil _⟩

theorem few_mixed : 2 ≤ maxRecords := by
  rw [maxRecords]
  omega

/-- Two records are read back in their order and as their own types; the third was accepted
and dropped. -/
theorem sample_record_read :
    ∃ state, Steps.run (Recording.step sampleJson) (Recording.opened smallBounds) mixedRun =
        some state ∧
      state.accepted = [sampleRecord, sampleLink, sampleRecord] ∧
      results state = [.written, .written, .capacity] ∧
      readEvents sampleJson state.file = .ok [sampleRecord, sampleLink] := by
  have read := (read_events_returns_what_was_recorded sampleJson smallBounds _ mixedFile
    run_mixed ⟨rfl, rfl⟩ rfl mixed_accepted (by decide) few_mixed).1
  exact ⟨mixedFile, run_mixed, rfl, rfl, read⟩

end KVTransferObservability.RecordedEvents
