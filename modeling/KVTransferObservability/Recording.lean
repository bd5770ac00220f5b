import KVTransferObservability.SinkDrain
import KVTransferObservability.FileWriter
import KVTransferObservability.RecordText

/-!
# Records, queue and file together

A sink with the bounds of an `ObserverConfig` and a file of its own: typed records
go in through `emit`, lines come out in the file. Each record write is one critical
section of the file writer; a failed one may leave a torn line behind, when the
roll-back of its bytes fails too.
-/

namespace KVTransferObservability.Recording

open PythonValues Adapter EventSink SinkDrain FileWriter RecordText Library

set_option autoImplicit false

/-! ## Configured bounds -/

theorem bounded_to_nat {minimum maximum : Nat} {number : Int}
    (bounded : (minimum : Int) ≤ number ∧ number ≤ maximum) :
    minimum ≤ number.toNat ∧ number.toNat ≤ maximum := by omega

/-- `_bounded_int`; `ConfigurationError` is a `ValueError`. -/
def boundedInt (value : PyObject) (name : String) (minimum maximum : Nat) :
    Py { number : Nat // minimum ≤ number ∧ number ≤ maximum } :=
  match value with
  | .int number =>
      if bounded : (minimum : Int) ≤ number ∧ number ≤ maximum then
        .ok ⟨number.toNat, bounded_to_nat bounded⟩
      else .error (.valueError (name ++ " must be within " ++ toString minimum ++ ".." ++
        toString maximum))
  | _ => .error (.valueError (name ++ " must be within " ++ toString minimum ++ ".." ++
      toString maximum))

/-- The bounds of a sink that `ObserverConfig.__post_init__` lets through. -/
structure ConfiguredBounds extends SinkBounds where
  pendingLimit : maxPendingRecords ≤ defaultMaxPendingRecords
  recordLimit : maxRecordBytes ≤ defaultMaxRecordBytes
  fileLimit : maxFileBytes ≤ defaultMaxFileBytes

def ConfiguredBounds.make (maxPendingRecords maxRecordBytes maxFileBytes : PyObject) :
    Py ConfiguredBounds := do
  let pending ← boundedInt maxPendingRecords "max_pending_records" 1 defaultMaxPendingRecords
  let record ← boundedInt maxRecordBytes "max_record_bytes" minRecordBytes defaultMaxRecordBytes
  let file ← boundedInt maxFileBytes "max_file_bytes" record.val defaultMaxFileBytes
  .ok
    { maxPendingRecords := pending.val
      maxRecordBytes := record.val
      maxFileBytes := file.val
      pending := pending.property.1
      record := record.property.1
      file := file.property.1
      pendingLimit := pending.property.2
      recordLimit := record.property.2
      fileLimit := file.property.2 }

theorem bounded_int_value {minimum maximum : Nat} (number : Nat) (low : minimum ≤ number)
    (high : number ≤ maximum) (name : String) :
    boundedInt (.int number) name minimum maximum = .ok ⟨number, low, high⟩ := by
  have inRange : (minimum : Int) ≤ number ∧ (number : Int) ≤ maximum := by omega
  simp only [boundedInt, dif_pos inRange, Int.toNat_natCast]

/-- Every configured triple is one that the configuration accepts, -/
theorem configured_bounds_make (bounds : ConfiguredBounds) :
    ConfiguredBounds.make (.int bounds.maxPendingRecords) (.int bounds.maxRecordBytes)
      (.int bounds.maxFileBytes) = .ok bounds := by
  simp only [ConfiguredBounds.make,
    bounded_int_value bounds.maxPendingRecords bounds.pending bounds.pendingLimit,
    bounded_int_value bounds.maxRecordBytes bounds.record bounds.recordLimit,
    bounded_int_value bounds.maxFileBytes bounds.file bounds.fileLimit, bind, Except.bind]

/-- and the sink's own constructor takes it as it is. -/
theorem configured_bounds_taken (bounds : ConfiguredBounds) :
    SinkBounds.make (.int bounds.maxPendingRecords) (.int bounds.maxRecordBytes)
      (.int bounds.maxFileBytes) = .ok bounds.toSinkBounds := by
  have recordPositive : 0 < bounds.maxRecordBytes :=
    Nat.lt_of_lt_of_le (by decide) bounds.record
  have filePositive : 0 < bounds.maxFileBytes := Nat.lt_of_lt_of_le recordPositive bounds.file
  have positive : ∀ (number : Nat) (holds : 0 < number) (name : String),
      positiveInt (.int number) name = .ok ⟨number, holds⟩ := by
    intro number holds name
    have cast : (0 : Int) < number := by omega
    simp only [positiveInt, dif_pos cast, Int.toNat_natCast]
  simp only [SinkBounds.make, positive _ bounds.pending, positive _ recordPositive,
    positive _ filePositive, bind, Except.bind, dif_pos bounds.record, dif_pos bounds.file]

/-! ## One step -/

/-- `accepted` has the records that `emit` answered `True` for, and `torn` says whether
a failed write has left bytes behind. -/
structure RecordedFile where
  run : SinkRun
  accepted : List EventRecord := []
  file : Bytes := []
  torn : Bool := false

inductive RecordingEvent
  | emit (record : EventRecord)
  /-- `_write_record` ends without an exception. -/
  | write
  /-- `_write_record` raises and leaves this many bytes of the record in the file. -/
  | writeFails (left : Nat)
  /-- Any step of the sink that touches neither records nor file. -/
  | other (event : SinkEvent)

/-- What `emit` does before it takes the lock. -/
def offer (json : JsonModule) (bounds : SinkBounds) (record : EventRecord) : SinkEvent :=
  if bounds.maxRecordBytes < (encoded json record).length then .oversized
  else .enqueue (encoded json record)

/-- The answer of `emit`. -/
def answer (json : JsonModule) (sink : JsonlKVTransferEventSink) (record : EventRecord) : Bool :=
  match offer json sink.bounds record with
  | .enqueue line => (sink.enqueue line).1
  | _ => false

def step (json : JsonModule) (state : RecordedFile) : RecordingEvent → Option RecordedFile
  | .emit record =>
      (EventSink.step state.run (offer json state.run.sink.bounds record)).map fun run =>
        { state with
          run := run
          accepted := if answer json state.run.sink record then state.accepted ++ [record]
            else state.accepted }
  | .write =>
      match state.run.sink.writer with
      | .writing line =>
          let (result, file) := writeRecord state.run.sink.bounds.maxFileBytes state.file line
          (EventSink.step state.run (.write result)).map fun run =>
            { state with run := run, file := file }
      | _ => none
  | .writeFails left =>
      match state.run.sink.writer with
      | .writing line =>
          if left ≤ line.length ∧ (left = 0 ∨
              state.file.length + line.length ≤ state.run.sink.bounds.maxFileBytes) then
            (EventSink.step state.run (.write .failed)).map fun run =>
              { state with
                run := run
                file := state.file ++ line.take left
                torn := state.torn || decide (left ≠ 0) }
          else none
      | _ => none
  | .other event =>
      match event with
      | .enqueue _ | .oversized | .unencodable | .write _ => none
      | event => (EventSink.step state.run event).map fun run => { state with run := run }

def opened (bounds : ConfiguredBounds) : RecordedFile :=
  { run := EventSink.opened bounds.toSinkBounds }

/-! ## The sink inside -/

section Steps

variable (json : JsonModule) (state : RecordedFile)

theorem emit_step (record : EventRecord) (next : RecordedFile)
    (taken : step json state (.emit record) = some next) :
    EventSink.step state.run (offer json state.run.sink.bounds record) = some next.run ∧
      next.accepted = (if answer json state.run.sink record then state.accepted ++ [record]
        else state.accepted) ∧ next.file = state.file ∧ next.torn = state.torn := by
  obtain ⟨run, moved, rfl⟩ := Option.map_eq_some_iff.mp taken
  exact ⟨moved, rfl, rfl, rfl⟩

theorem write_step (next : RecordedFile) (taken : step json state .write = some next) :
    ∃ line result, state.run.sink.writer = .writing line ∧
      (result, next.file) = writeRecord state.run.sink.bounds.maxFileBytes state.file line ∧
      EventSink.step state.run (.write result) = some next.run ∧
      next.accepted = state.accepted ∧ next.torn = state.torn := by
  simp only [step] at taken
  split at taken
  · rename_i line writing
    obtain ⟨run, moved, rfl⟩ := Option.map_eq_some_iff.mp taken
    exact ⟨line, _, writing, rfl, moved, rfl, rfl⟩
  · cases taken

theorem write_fails_step (left : Nat) (next : RecordedFile)
    (taken : step json state (.writeFails left) = some next) :
    ∃ line, state.run.sink.writer = .writing line ∧
      (left = 0 ∨ state.file.length + line.length ≤ state.run.sink.bounds.maxFileBytes) ∧
      EventSink.step state.run (.write .failed) = some next.run ∧
      next.accepted = state.accepted ∧ next.file = state.file ++ line.take left ∧
      next.torn = (state.torn || decide (left ≠ 0)) := by
  simp only [step] at taken
  split at taken
  · rename_i line writing
    obtain ⟨⟨_, room⟩, moved⟩ := Option.ite_none_right_eq_some.mp taken
    obtain ⟨run, stepped, rfl⟩ := Option.map_eq_some_iff.mp moved
    exact ⟨line, writing, room, stepped, rfl, rfl, rfl⟩
  · cases taken

/-- The steps of the sink that leave both its logs alone. -/
def Quiet : SinkEvent → Prop
  | .enqueue _ | .oversized | .unencodable | .write _ => False
  | _ => True

theorem other_step (event : SinkEvent) (next : RecordedFile)
    (taken : step json state (.other event) = some next) :
    Quiet event ∧ EventSink.step state.run event = some next.run ∧
      next.accepted = state.accepted ∧ next.file = state.file ∧ next.torn = state.torn := by
  cases event with
  | enqueue _ => cases taken
  | oversized => cases taken
  | unencodable => cases taken
  | write _ => cases taken
  | close =>
      cases taken
      exact ⟨trivial, rfl, rfl, rfl, rfl⟩
  | _ =>
      obtain ⟨run, moved, rfl⟩ := Option.map_eq_some_iff.mp taken
      exact ⟨trivial, moved, rfl, rfl, rfl⟩

/-- Every step here is a step of the sink. -/
theorem sink_step (event : RecordingEvent) (next : RecordedFile)
    (taken : step json state event = some next) :
    ∃ sinkEvent, EventSink.step state.run sinkEvent = some next.run := by
  cases event with
  | emit record => exact ⟨_, (emit_step json state record next taken).1⟩
  | write =>
      obtain ⟨_, result, _, _, moved, _⟩ := write_step json state next taken
      exact ⟨_, moved⟩
  | writeFails left =>
      obtain ⟨_, _, _, moved, _⟩ := write_fails_step json state left next taken
      exact ⟨_, moved⟩
  | other event => exact ⟨_, (other_step json state event next taken).2.1⟩

theorem quiet_logs (run next : SinkRun) (event : SinkEvent) (quiet : Quiet event)
    (taken : EventSink.step run event = some next) :
    next.accepted = run.accepted ∧ next.processed = run.processed := by
  cases event with
  | enqueue _ => exact quiet.elim
  | oversized => exact quiet.elim
  | unencodable => exact quiet.elim
  | write _ => exact quiet.elim
  | close =>
      cases taken
      exact ⟨rfl, rfl⟩
  | _ =>
      simp only [EventSink.step] at taken
      split at taken
      · cases taken
        exact ⟨rfl, rfl⟩
      · cases taken

end Steps

/-! ## What the file holds -/

/-- The results of the record writes, in order. -/
def results (state : RecordedFile) : List WriteResult := state.run.processed.map Prod.snd

/-- The accepted records whose write had this result. -/
def recordsWith (result : WriteResult) (state : RecordedFile) : List EventRecord :=
  ((state.accepted.zip (results state)).filter fun entry => entry.2 = result).map Prod.fst

/-- The lines that were written. -/
def writtenLines (processed : List (Bytes × WriteResult)) : List Bytes :=
  (processed.filter fun entry => entry.2 = .written).map Prod.fst

theorem written_lines_snoc (processed : List (Bytes × WriteResult)) (line : Bytes)
    (result : WriteResult) :
    writtenLines (processed ++ [(line, result)]) =
      writtenLines processed ++ (if result = .written then [line] else []) := by
  unfold writtenLines
  rw [List.filter_append, List.map_append, List.filter_singleton]
  by_cases written : result = .written
  · simp [written]
  · simp [written]

structure Recorded (json : JsonModule) (bounds : ConfiguredBounds) (state : RecordedFile) :
    Prop where
  accounted : Accounted state.run
  configured : state.run.sink.bounds = bounds.toSinkBounds
  lines : state.run.accepted = state.accepted.map (encoded json)
  short : ∀ record ∈ state.accepted, (encoded json record).length ≤ bounds.maxRecordBytes
  whole : state.torn = false → state.file = (writtenLines state.run.processed).flatten
  bounded : state.file.length ≤ bounds.maxFileBytes
  failed : state.torn = true → .failed ∈ results state

section Invariant

variable (json : JsonModule) (bounds : ConfiguredBounds)

theorem opened_recorded : Recorded json bounds (opened bounds) where
  accounted := opened_accounted bounds.toSinkBounds
  configured := rfl
  lines := rfl
  short := fun _ member => by cases member
  whole := fun _ => rfl
  bounded := Nat.zero_le _
  failed := fun torn => by cases torn

variable (state : RecordedFile) (holds : Recorded json bounds state) (next : RecordedFile)

include holds

/-- A step that leaves both logs and the file alone. -/
theorem recorded_unchanged (event : SinkEvent)
    (moved : EventSink.step state.run event = some next.run)
    (logs : next.run.accepted = state.run.accepted ∧ next.run.processed = state.run.processed)
    (accepted : next.accepted = state.accepted) (file : next.file = state.file)
    (torn : next.torn = state.torn) : Recorded json bounds next := by
  refine ⟨step_accounted _ _ _ holds.accounted moved,
    (step_bounds _ _ _ moved).trans holds.configured, ?_, ?_, ?_, ?_, ?_⟩
  · rw [logs.1, accepted, holds.lines]
  · rw [accepted]
    exact holds.short
  · rw [torn, file, logs.2]
    exact holds.whole
  · rw [file]
    exact holds.bounded
  · rw [torn, results, logs.2]
    exact holds.failed

theorem recorded_emit (record : EventRecord)
    (taken : step json state (.emit record) = some next) : Recorded json bounds next := by
  obtain ⟨moved, accepted, file, torn⟩ := emit_step json state record next taken
  unfold answer at accepted
  unfold offer at moved accepted
  by_cases long : state.run.sink.bounds.maxRecordBytes < (encoded json record).length
  · rw [if_pos long] at moved accepted
    have logs : next.run.accepted = state.run.accepted ∧
        next.run.processed = state.run.processed := by
      rw [← Option.some.inj moved]
      exact ⟨rfl, rfl⟩
    exact recorded_unchanged json bounds state holds next _ moved logs accepted file torn
  · rw [if_neg long] at moved accepted
    have fits : (encoded json record).length ≤ bounds.maxRecordBytes := by
      rw [holds.configured] at long
      exact Nat.not_lt.mp long
    have logs : next.run.accepted = (if (state.run.sink.enqueue (encoded json record)).1 then
          state.run.accepted ++ [encoded json record] else state.run.accepted) ∧
        next.run.processed = state.run.processed := by
      rw [← Option.some.inj moved]
      exact ⟨rfl, rfl⟩
    have same : next.accepted = (if (state.run.sink.enqueue (encoded json record)).1 then
        state.accepted ++ [record] else state.accepted) := accepted
    refine ⟨step_accounted _ _ _ holds.accounted moved,
      (step_bounds _ _ _ moved).trans holds.configured, ?_, ?_, ?_, ?_, ?_⟩
    · rw [logs.1, same, holds.lines]
      split
      · rw [List.map_append, List.map_singleton]
      · rfl
    · rw [same]
      split
      · rw [List.forall_mem_append, List.forall_mem_singleton]
        exact ⟨holds.short, fits⟩
      · exact holds.short
    · rw [torn, file, logs.2]
      exact holds.whole
    · rw [file]
      exact holds.bounded
    · rw [torn, results, logs.2]
      exact holds.failed

omit holds in
theorem write_logs (run after : SinkRun) (line : Bytes) (result : WriteResult)
    (writing : run.sink.writer = .writing line)
    (moved : EventSink.step run (.write result) = some after) :
    after.accepted = run.accepted ∧ after.processed = run.processed ++ [(line, result)] := by
  simp only [EventSink.step, writing] at moved
  cases moved
  exact ⟨rfl, rfl⟩

theorem recorded_write (taken : step json state .write = some next) :
    Recorded json bounds next := by
  obtain ⟨line, result, writing, answered, moved, accepted, torn⟩ :=
    write_step json state next taken
  have logs := write_logs state.run next.run line result writing moved
  have answers := write_record_cases _ _ _ _ _ answered
  rw [holds.configured] at answers
  refine ⟨step_accounted _ _ _ holds.accounted moved,
    (step_bounds _ _ _ moved).trans holds.configured, ?_, ?_, ?_, ?_, ?_⟩
  · rw [logs.1, accepted, holds.lines]
  · rw [accepted]
    exact holds.short
  · rw [torn, logs.2, written_lines_snoc]
    intro whole
    have before := holds.whole whole
    rcases answers with ⟨rfl, _, file⟩ | ⟨rfl, _, file⟩
    · rw [file, before]
      simp
    · rw [file, before]
      simp
  · rcases answers with ⟨_, _, file⟩ | ⟨_, room, file⟩
    · rw [file]
      exact holds.bounded
    · rw [file, List.length_append]
      exact room
  · rw [torn, results, logs.2, List.map_append, List.mem_append]
    intro broken
    exact .inl (holds.failed broken)

theorem recorded_write_fails (left : Nat)
    (taken : step json state (.writeFails left) = some next) : Recorded json bounds next := by
  obtain ⟨line, writing, room, moved, accepted, file, torn⟩ :=
    write_fails_step json state left next taken
  have logs := write_logs state.run next.run line .failed writing moved
  rw [holds.configured] at room
  refine ⟨step_accounted _ _ _ holds.accounted moved,
    (step_bounds _ _ _ moved).trans holds.configured, ?_, ?_, ?_, ?_, ?_⟩
  · rw [logs.1, accepted, holds.lines]
  · rw [accepted]
    exact holds.short
  · rw [torn, logs.2, written_lines_snoc, file]
    intro whole
    simp only [Bool.or_eq_false_iff, decide_eq_false_iff_not, ne_eq, not_not] at whole
    rw [holds.whole whole.1, whole.2]
    simp
  · rw [file, List.length_append, List.length_take]
    have before := holds.bounded
    rcases room with none | room
    · omega
    · omega
  · intro _
    rw [results, logs.2, List.map_append, List.mem_append]
    exact .inr List.mem_cons_self

theorem recorded_other (event : SinkEvent)
    (taken : step json state (.other event) = some next) : Recorded json bounds next := by
  obtain ⟨quiet, moved, accepted, file, torn⟩ := other_step json state event next taken
  have logs := quiet_logs state.run next.run event quiet moved
  exact recorded_unchanged json bounds state holds next event moved logs accepted file torn

end Invariant

theorem step_recorded (json : JsonModule) (bounds : ConfiguredBounds) (state : RecordedFile)
    (event : RecordingEvent) (next : RecordedFile) (holds : Recorded json bounds state)
    (taken : step json state event = some next) : Recorded json bounds next := by
  cases event with
  | emit record => exact recorded_emit json bounds state holds next record taken
  | write => exact recorded_write json bounds state holds next taken
  | writeFails left => exact recorded_write_fails json bounds state holds next left taken
  | other event => exact recorded_other json bounds state holds next event taken

theorem run_recorded (json : JsonModule) (bounds : ConfiguredBounds)
    (events : List RecordingEvent) (state : RecordedFile)
    (reached : Steps.run (step json) (opened bounds) events = some state) :
    Recorded json bounds state :=
  Steps.invariant_run (step json) (Recorded json bounds) (step_recorded json bounds)
    (opened bounds) state events (opened_recorded json bounds) reached

/-! ## The records behind the lines -/

theorem written_lines_of_records (json : JsonModule) (processed : List (Bytes × WriteResult))
    (records : List EventRecord) (rest : List Bytes)
    (order : records.map (encoded json) = processed.map Prod.fst ++ rest) :
    writtenLines processed =
      (((records.zip (processed.map Prod.snd)).filter fun entry => entry.2 = .written).map
        Prod.fst).map (encoded json) := by
  induction processed generalizing records with
  | nil =>
      rw [List.map_nil, List.zip_nil_right]
      rfl
  | cons entry processed induction =>
      cases records with
      | nil => cases order
      | cons record records =>
          obtain ⟨line, result⟩ := entry
          simp only [List.map_cons, List.cons_append, List.cons.injEq] at order
          have tail := induction records order.2
          unfold writtenLines at tail ⊢
          by_cases written : result = .written
          · simp [written, order.1, tail]
          · simp [written, tail]

theorem records_with_length (processed : List WriteResult) (records : List EventRecord)
    (enough : processed.length ≤ records.length) (result : WriteResult) :
    ((records.zip processed).filter fun entry => entry.2 = result).length =
      processed.count result := by
  induction processed generalizing records with
  | nil => simp
  | cons other processed induction =>
      cases records with
      | nil => cases enough
      | cons record records =>
          have tail := induction records (Nat.le_of_succ_le_succ enough)
          rw [List.zip_cons_cons, List.count_cons, ← tail, List.filter_cons]
          by_cases same : other = result
          · simp [same]
          · simp [same]

section

variable {json : JsonModule} {bounds : ConfiguredBounds} {state : RecordedFile}
  (holds : Recorded json bounds state)

include holds

theorem records_in_order : state.accepted.map (encoded json) =
    state.run.processed.map Prod.fst ++
      (state.run.sink.writer.unwritten ++ state.run.sink.records) := by
  rw [← holds.lines, holds.accounted.fifo, List.append_assoc]

theorem written_lines_eq : writtenLines state.run.processed =
    (recordsWith .written state).map (encoded json) :=
  written_lines_of_records json _ _ _ (records_in_order holds)

theorem results_within : (results state).length ≤ state.accepted.length := by
  have lengths := congrArg List.length (records_in_order holds)
  rw [List.length_map, List.length_append, List.length_map] at lengths
  rw [results, List.length_map]
  omega

/-- The counters of `_run` count the records by the result of their write. -/
theorem records_with_counted (result : WriteResult) :
    (recordsWith result state).length =
      state.run.sink.counterValues result.counter +
        state.run.sink.writer.uncounted.count result := by
  rw [recordsWith, List.length_map, records_with_length _ _ (results_within holds) result,
    ← holds.accounted.counted result]
  rfl

end

theorem records_with_accepted (state : RecordedFile) (result : WriteResult) :
    ∀ record ∈ recordsWith result state, record ∈ state.accepted := by
  intro record member
  obtain ⟨entry, filtered, rfl⟩ := List.mem_map.mp member
  exact (List.of_mem_zip (List.mem_of_mem_filter filtered)).1

end KVTransferObservability.Recording
