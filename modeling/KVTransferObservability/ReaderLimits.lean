import KVTransferObservability.RecordedEvents

/-!
# The limits of writer and reader

The bytes of a configured sink's file stay within what `read_events` takes. The number
of its records need not: the writer counts bytes only. A line may also outgrow the
reader's limit, when writes fail again and again and no roll-back removes their bytes.
-/

namespace KVTransferObservability.ReaderLimits

open PythonValues Adapter EventSink EventReaders RecordText EventFile Recording RecordedEvents
open Library

set_option autoImplicit false

/-- The two refusals of `read_events` for size. -/
def SizeRefused (result : Py (List EventRecord)) : Prop :=
  result = .error (.valueError "event artifact exceeds the byte limit") ∨
    result = .error (.valueError "event artifact exceeds the record limit")

section

variable {json : JsonModule} {bounds : ConfiguredBounds} {state : RecordedFile}

theorem encoded_all_counted (json : JsonModule) (records : List EventRecord) :
    (records.map (encoded json)).filter (fun line => !line.all isSpace) =
      records.map (encoded json) := by
  rw [List.filter_eq_self]
  intro line member
  obtain ⟨record, _, rfl⟩ := List.mem_map.mp member
  rw [encoded_not_blank]
  rfl

theorem file_line_count (holds : Recorded json bounds state) (whole : state.torn = false) :
    ((lines state.file).filter fun line => !line.all isSpace).length =
      (recordsWith .written state).length := by
  rw [file_lines holds whole, encoded_all_counted, List.length_map]

theorem file_line_lengths (holds : Recorded json bounds state) (whole : state.torn = false) :
    ∀ line ∈ lines state.file, line.length ≤ EventFile.maxRecordBytes := by
  rw [file_lines holds whole]
  intro line member
  obtain ⟨record, written, rfl⟩ := List.mem_map.mp member
  exact written_short holds record written

theorem within_limits_iff (holds : Recorded json bounds state) (whole : state.torn = false) :
    WithinLimits state.file ↔ (recordsWith .written state).length ≤ maxRecords := by
  constructor
  · intro within
    rw [← file_line_count holds whole]
    exact within.count
  · intro few
    rw [← file_line_count holds whole] at few
    exact ⟨file_line_lengths holds whole, file_fits holds, few⟩

theorem size_refused_iff (holds : Recorded json bounds state) (whole : state.torn = false)
    (inverse : ∀ record ∈ state.accepted, Inverse json record) :
    SizeRefused (readEvents json state.file) ↔
      maxRecords < (recordsWith .written state).length := by
  rw [read_recorded_file holds whole inverse]
  by_cases few : (recordsWith .written state).length ≤ maxRecords
  · rw [if_pos few]
    have notMany : ¬ maxRecords < (recordsWith .written state).length := Nat.not_lt.mpr few
    constructor
    · intro refused
      exfalso
      unfold SizeRefused at refused
      split at refused
      · simp at refused
      · simp at refused
    · intro many
      exact absurd many notMany
  · rw [if_neg few]
    constructor
    · intro _
      exact Nat.not_le.mp few
    · intro _
      exact .inr rfl

end

/-- Whatever a configured sink does with its file, the file is no longer than an
artifact may be; while no failed write has left bytes behind, no line is longer than a
record may be, and the file is refused for its size exactly when more records were
written than the reader takes. -/
theorem sink_output_meets_the_byte_limits (json : JsonModule) (bounds : ConfiguredBounds)
    (events : List RecordingEvent) (state : RecordedFile)
    (reached : Steps.run (Recording.step json) (Recording.opened bounds) events = some state) :
    state.file.length ≤ maxArtifactBytes ∧
      (state.torn = false →
        (∀ line ∈ lines state.file, line.length ≤ EventFile.maxRecordBytes) ∧
        (WithinLimits state.file ↔ (recordsWith .written state).length ≤ maxRecords) ∧
        ((∀ record ∈ state.accepted, Inverse json record) →
          (SizeRefused (readEvents json state.file) ↔
            maxRecords < (recordsWith .written state).length))) := by
  have holds := run_recorded json bounds events state reached
  refine ⟨file_fits holds, ?_⟩
  intro whole
  exact ⟨file_line_lengths holds whole, within_limits_iff holds whole,
    size_refused_iff holds whole⟩

theorem sample_record_within_limits :
    ∃ state, Steps.run (Recording.step sampleJson) (Recording.opened smallBounds) mixedRun =
        some state ∧
      recordsWith .written state = [sampleRecord, sampleLink] ∧
      recordsWith .capacity state = [sampleRecord] ∧ state.file.length ≤ maxArtifactBytes ∧
      WithinLimits state.file ∧ ¬ SizeRefused (readEvents sampleJson state.file) := by
  obtain ⟨fits, limits⟩ := sink_output_meets_the_byte_limits sampleJson smallBounds _ _ run_mixed
  obtain ⟨_, within, refused⟩ := limits rfl
  refine ⟨_, run_mixed, rfl, rfl, fits, within.mpr few_mixed, ?_⟩
  rw [refused mixed_accepted]
  exact Nat.not_lt.mpr few_mixed

/-! ## One cycle after the other -/

/-- The sample has been offered `count` times, and each time left `part` in the file. -/
structure Repeated (part : Bytes) (torn : Bool) (count : Nat) (state : RecordedFile) : Prop where
  ready : Ready state
  configured : state.run.sink.bounds = defaultBounds.toSinkBounds
  file : state.file = (List.replicate count part).flatten
  accepted : ∀ record ∈ state.accepted, record = sampleRecord
  whole : torn = false → state.torn = false

theorem repeated_length {part : Bytes} {torn : Bool} {count : Nat} {state : RecordedFile}
    (repeated : Repeated part torn count state) : state.file.length = count * part.length := by
  rw [repeated.file]
  simp

theorem repeated_cycle {part : Bytes} {torn : Bool} {count : Nat} {state : RecordedFile}
    (repeated : Repeated part torn count state) (result : WriteResult) :
    Repeated part torn (count + 1)
      (settled sampleJson state sampleRecord result (state.file ++ part) (state.torn || torn)) where
  ready := settled_ready sampleJson repeated.ready sampleRecord result _ _
  configured := repeated.configured
  file := by
    rw [List.replicate_succ', List.flatten_append, List.flatten_singleton, ← repeated.file]
    rfl
  accepted := by
    change ∀ record ∈ state.accepted ++ [sampleRecord], record = sampleRecord
    rw [List.forall_mem_append, List.forall_mem_singleton]
    exact ⟨repeated.accepted, rfl⟩
  whole := by
    intro none
    change (state.torn || torn) = false
    rw [repeated.whole none, none]
    rfl

theorem run_cycles (ends : RecordingEvent) (result : WriteResult) (part : Bytes) (torn : Bool)
    (short : part.length ≤ 246)
    (each : ∀ state, Ready state → state.run.sink.bounds = defaultBounds.toSinkBounds →
      state.file.length + 246 ≤ defaultMaxFileBytes →
      Steps.run (Recording.step sampleJson) state (cycle sampleRecord ends) =
        some (settled sampleJson state sampleRecord result (state.file ++ part)
          (state.torn || torn)))
    (count : Nat) (fits : count * 246 ≤ defaultMaxFileBytes) :
    ∃ state, Steps.run (Recording.step sampleJson) (Recording.opened defaultBounds)
        (List.replicate count (cycle sampleRecord ends)).flatten = some state ∧
      Repeated part torn count state := by
  induction count with
  | zero =>
      refine ⟨Recording.opened defaultBounds, rfl, ?_⟩
      refine ⟨opened_ready defaultBounds, rfl, rfl, ?_, fun _ => rfl⟩
      intro record member
      cases member
  | succ count induction =>
      rw [Nat.succ_mul] at fits
      have fitsBefore : count * 246 ≤ defaultMaxFileBytes :=
        Nat.le_trans (Nat.le_add_right _ _) fits
      obtain ⟨state, reached, repeated⟩ := induction fitsBefore
      have room : state.file.length + 246 ≤ defaultMaxFileBytes := by
        rw [repeated_length repeated]
        exact Nat.le_trans (Nat.add_le_add_right (Nat.mul_le_mul_left count short) 246) fits
      have next := each state repeated.ready repeated.configured room
      refine ⟨_, ?_, repeated_cycle repeated result⟩
      rw [List.replicate_succ', List.flatten_append, List.flatten_singleton,
        Steps.run_append_iff]
      exact ⟨state, reached, next⟩

/-! ## More records than the reader takes -/

def fillingRun : List RecordingEvent :=
  (List.replicate 100001 (cycle sampleRecord .write)).flatten

theorem run_filling :
    ∃ state, Steps.run (Recording.step sampleJson) (Recording.opened defaultBounds) fillingRun =
        some state ∧
      Repeated (encoded sampleJson sampleRecord) false 100001 state := by
  apply run_cycles .write .written _ false (Nat.le_of_eq (sample_length sampleJson))
  · intro state ready configured fits
    rw [Bool.or_false]
    exact run_cycle_written sampleJson state sampleRecord ready (sample_short configured)
      (sample_room configured fits)
  · rw [defaultMaxFileBytes]
    omega

theorem filled_records {bounds : ConfiguredBounds} {count : Nat} {state : RecordedFile}
    (holds : Recorded sampleJson bounds state)
    (repeated : Repeated (encoded sampleJson sampleRecord) false count state) :
    (recordsWith .written state).length = count := by
  have whole := repeated.whole rfl
  have total := congrArg List.length (file_of_records holds whole)
  have same : ((recordsWith .written state).map (encoded sampleJson)) =
      List.replicate (recordsWith .written state).length (encoded sampleJson sampleRecord) := by
    rw [List.eq_replicate_iff]
    refine ⟨List.length_map _, ?_⟩
    intro line member
    obtain ⟨record, written, rfl⟩ := List.mem_map.mp member
    rw [repeated.accepted record (records_with_accepted state .written record written)]
  rw [repeated_length repeated, same, List.length_flatten, List.map_replicate,
    List.sum_replicate_nat, sample_length] at total
  omega

/-! ## A line longer than the reader takes -/

theorem long_line {file : Bytes} (unbroken : newline ∉ file)
    (long : EventFile.maxRecordBytes < file.length) :
    ∃ rest, lines file = file.take (EventFile.maxRecordBytes + 1) :: rest := by
  have length : (file.take (EventFile.maxRecordBytes + 1)).length =
      EventFile.maxRecordBytes + 1 := List.length_take_of_le long
  have nonempty : file.take (EventFile.maxRecordBytes + 1) ≠ [] := by
    intro empty
    rw [empty] at length
    cases length
  cases fuel : file.length with
  | zero => omega
  | succ fuel' =>
      refine ⟨linesOf fuel' (file.drop (EventFile.maxRecordBytes + 1)), ?_⟩
      rw [lines, fuel]
      simp only [linesOf, readline_unbroken file _ unbroken, if_neg nonempty]

theorem long_line_refused (json : JsonModule) {file : Bytes} (unbroken : newline ∉ file)
    (long : EventFile.maxRecordBytes < file.length) :
    ¬ WithinLimits file ∧
      readEvents json file = .error (.valueError "event artifact exceeds the byte limit") := by
  obtain ⟨rest, split⟩ := long_line unbroken long
  have length : (file.take (EventFile.maxRecordBytes + 1)).length =
      EventFile.maxRecordBytes + 1 := List.length_take_of_le long
  constructor
  · intro within
    have short := within.records _ (split ▸ List.mem_cons_self)
    omega
  · have exceeds : (decide (EventFile.maxRecordBytes <
        (file.take (EventFile.maxRecordBytes + 1)).length)) = true := by
      rw [length]
      exact decide_eq_true (Nat.lt_succ_self _)
    unfold readEvents
    rw [split, List.foldlM_cons, readLine, exceeds]
    rfl

def tearingRun : List RecordingEvent :=
  (List.replicate 5000 (cycle sampleRecord (.writeFails 245))).flatten

/-- All of the sample's line but the newline. -/
def samplePart : Bytes := (encoded sampleJson sampleRecord).take 245

theorem sample_part_length : samplePart.length = 245 := by
  rw [samplePart, List.length_take, sample_length]
  rfl

theorem sample_part_unbroken : newline ∉ samplePart := by
  obtain ⟨body, line, unbroken⟩ := (encoded_is_line sampleJson sampleRecord).shape
  have length := sample_length sampleJson
  rw [line, List.length_append, List.length_singleton] at length
  have whole : body.length = 245 := by omega
  rw [samplePart, line, List.take_left' whole]
  exact unbroken

theorem run_tearing :
    ∃ state, Steps.run (Recording.step sampleJson) (Recording.opened defaultBounds) tearingRun =
        some state ∧
      Repeated samplePart true 5000 state := by
  apply run_cycles (.writeFails 245) .failed _ true
  · rw [sample_part_length]
    omega
  · intro state ready configured fits
    exact run_cycle_failed sampleJson state sampleRecord ready (sample_short configured)
      (sample_room configured fits) 245 (by rw [sample_length]; omega)
  · rw [defaultMaxFileBytes]
    omega

/-! ## Both files -/

/-- With the default configuration, 100,001 records of one line each are refused for their
number, and 5,000 failed writes that leave all but the newline for the length of a line. -/
theorem reader_limits_exceeded :
    (∃ state, Steps.run (Recording.step sampleJson) (Recording.opened defaultBounds) fillingRun =
        some state ∧ state.file ≠ [] ∧ state.torn = false ∧ ¬ WithinLimits state.file ∧
      readEvents sampleJson state.file =
        .error (.valueError "event artifact exceeds the record limit")) ∧
    (∃ state, Steps.run (Recording.step sampleJson) (Recording.opened defaultBounds) tearingRun =
        some state ∧ state.file ≠ [] ∧ ¬ WithinLimits state.file ∧
      readEvents sampleJson state.file =
        .error (.valueError "event artifact exceeds the byte limit")) := by
  constructor
  · obtain ⟨state, reached, repeated⟩ := run_filling
    have holds := run_recorded sampleJson defaultBounds _ state reached
    have whole := repeated.whole rfl
    have count := filled_records holds repeated
    have length := repeated_length repeated
    rw [sample_length] at length
    have many : ¬ (recordsWith .written state).length ≤ maxRecords := by
      rw [count, maxRecords]
      omega
    have inverse : ∀ record ∈ state.accepted, Inverse sampleJson record := by
      intro record member
      rw [repeated.accepted record member]
      exact sample_inverse
    refine ⟨state, reached, ?_, whole, fun within => many ((within_limits_iff holds whole).mp
      within), ?_⟩
    · intro empty
      rw [empty] at length
      cases length
    · rw [read_recorded_file holds whole inverse, if_neg many]
  · obtain ⟨state, reached, repeated⟩ := run_tearing
    have length := repeated_length repeated
    rw [sample_part_length] at length
    have long : EventFile.maxRecordBytes < state.file.length := by
      rw [length, EventFile.maxRecordBytes]
      omega
    have unbroken : newline ∉ state.file := by
      rw [repeated.file]
      intro member
      obtain ⟨part, parts, inside⟩ := List.mem_flatten.mp member
      rw [List.eq_of_mem_replicate parts] at inside
      exact sample_part_unbroken inside
    refine ⟨state, reached, ?_, long_line_refused sampleJson unbroken long⟩
    intro empty
    rw [empty] at long
    cases long

end KVTransferObservability.ReaderLimits
