import KVTransferObservability.EncodedSizes
import KVTransferObservability.EventFile

/-!
# The default byte bounds

A record is never too long for a sink with the default bounds, nor an inventory for a
capture with them, so that the counters of what was dropped for its size stay where they
were. The validator accepts lines and files of the same lengths.
-/

namespace KVTransferObservability.DefaultBounds

open PythonValues Schema Adapter Library RecordText EventSink Recording Descriptors
  DescriptorPublication EncodedSizes
open Block (Keeps)

set_option autoImplicit false

theorem record_short (json : JsonModule) (record : EventRecord) :
    (encoded json record).length ≤ defaultMaxRecordBytes := by
  have bound := record_within json record
  rw [encoded_length]
  unfold defaultMaxRecordBytes
  omega

theorem inventory_short (json : JsonModule) (inventory : DescriptorInventory)
    (label : EvidenceLabel) :
    (inventory.encoded json label).length ≤ defaultMaxDescriptorRecordBytes := by
  have bound := inventory_within json inventory label
  rw [inventory_encoded_length]
  unfold defaultMaxDescriptorRecordBytes
  omega

/-! ## The sink -/

theorem size_drops_increment (sink : JsonlKVTransferEventSink) (name : EventSinkCounter)
    (other : .recordSizeDropped ≠ name) :
    (sink.increment name).counterValues .recordSizeDropped =
      sink.counterValues .recordSizeDropped :=
  increment_other sink.counterValues name .recordSizeDropped other

theorem size_drops_enqueue (sink : JsonlKVTransferEventSink) (line : Bytes) :
    (sink.enqueue line).2.counterValues .recordSizeDropped =
      sink.counterValues .recordSizeDropped := by
  unfold JsonlKVTransferEventSink.enqueue
  split
  · exact size_drops_increment _ _ (by decide)
  · split
    · exact size_drops_increment _ _ (by decide)
    · exact size_drops_increment { sink with records := sink.records ++ [line] } _ (by decide)

/-- Only a record that is too long is counted as one. -/
theorem size_drops_step (run next : SinkRun) (event : SinkEvent) (fits : event ≠ .oversized)
    (moved : EventSink.step run event = some next) :
    next.sink.counterValues .recordSizeDropped = run.sink.counterValues .recordSizeDropped := by
  cases event with
  | oversized => exact absurd rfl fits
  | enqueue line =>
      rw [← Option.some.inj moved]
      exact size_drops_enqueue run.sink line
  | unencodable =>
      cases moved
      exact size_drops_increment _ _ (by decide)
  | close =>
      cases moved
      simp only [JsonlKVTransferEventSink.close]
      split
      · rfl
      · rfl
  | closeTimeout =>
      simp only [EventSink.step] at moved
      split at moved
      · cases moved
        exact size_drops_increment _ _ (by decide)
      · cases moved
  | count =>
      simp only [EventSink.step] at moved
      split at moved
      · rename_i result counting
        cases moved
        apply size_drops_increment
        cases result <;> decide
      · cases moved
  | _ =>
      simp only [EventSink.step] at moved
      split at moved
      · cases moved
        rfl
      · cases moved

/-- The bounds have the default record size, and nothing was too long for it. -/
structure NoneOversized (state : RecordedFile) : Prop where
  recordSize : state.run.sink.bounds.maxRecordBytes = defaultMaxRecordBytes
  dropped : state.run.sink.counterValues .recordSizeDropped = 0

theorem offer_default (json : JsonModule) (bounds : SinkBounds) (record : EventRecord)
    (default : bounds.maxRecordBytes = defaultMaxRecordBytes) :
    offer json bounds record = .enqueue (encoded json record) := by
  unfold offer
  rw [default]
  exact if_neg (Nat.not_lt.mpr (record_short json record))

theorem step_none_oversized (json : JsonModule) (state : RecordedFile) (event : RecordingEvent)
    (next : RecordedFile) (holds : NoneOversized state)
    (taken : Recording.step json state event = some next) : NoneOversized next := by
  have moved : ∃ sinkEvent, sinkEvent ≠ .oversized ∧
      EventSink.step state.run sinkEvent = some next.run := by
    cases event with
    | emit record =>
        refine ⟨.enqueue (encoded json record), by simp, ?_⟩
        rw [← offer_default json state.run.sink.bounds record holds.recordSize]
        exact (emit_step json state record next taken).1
    | write =>
        obtain ⟨_, result, _, _, moved, _⟩ := write_step json state next taken
        exact ⟨.write result, by simp, moved⟩
    | writeFails left =>
        obtain ⟨_, _, _, moved, _⟩ := write_fails_step json state left next taken
        exact ⟨.write .failed, by simp, moved⟩
    | other event =>
        obtain ⟨quiet, moved, _⟩ := other_step json state event next taken
        refine ⟨event, ?_, moved⟩
        intro same
        subst same
        exact quiet
  obtain ⟨sinkEvent, fits, moved⟩ := moved
  refine ⟨?_, ?_⟩
  · rw [SinkDrain.step_bounds _ _ _ moved]
    exact holds.recordSize
  · rw [size_drops_step state.run next.run sinkEvent fits moved]
    exact holds.dropped

theorem run_none_oversized (json : JsonModule) (bounds : ConfiguredBounds)
    (default : bounds.maxRecordBytes = defaultMaxRecordBytes) (events : List RecordingEvent)
    (state : RecordedFile)
    (reached : Steps.run (Recording.step json) (Recording.opened bounds) events = some state) :
    NoneOversized state :=
  Steps.invariant_run (Recording.step json) NoneOversized (step_none_oversized json)
    (Recording.opened bounds) state events ⟨default, rfl⟩ reached

/-! ## The capture -/

/-- So many inventories were too large for the capture. -/
def CapacityDropped (count : Nat) (state : Publication) : Prop :=
  state.counters.capacityDropped = count

section Frame

variable (pattern : FailurePattern) (count : Nat)

theorem keeps_perform (change : Publication → Publication)
    (same : ∀ state, (change state).counters.capacityDropped = state.counters.capacityDropped) :
    Keeps (CapacityDropped count) (Block.perform change : CaptureBlock) := by
  apply Keeps.perform
  intro state holds
  exact (same state).trans holds

theorem keeps_system_call (name : SystemCall) {act : Publication → Except OsFailure Publication}
    (same : ∀ state next, act state = .ok next → next.counters = state.counters) :
    Keeps (CapacityDropped count) (systemCall pattern name act) := by
  intro state exit next holds ended
  unfold systemCall at ended
  split at ended
  · cases acted : act state with
    | ok changed =>
        rw [acted] at ended
        cases ended
        rw [CapacityDropped, same state _ acted]
        exact holds
    | error failure =>
        rw [acted] at ended
        cases ended
        exact holds
  · cases ended
    exact holds

theorem keeps_sync (name : SystemCall) :
    Keeps (CapacityDropped count) (systemCall pattern name .ok) := by
  apply keeps_system_call
  intro state next acted
  cases acted
  rfl

theorem keeps_create (name : SystemCall) (file : String) :
    Keeps (CapacityDropped count) (systemCall pattern name (Publication.create file)) := by
  apply keeps_system_call
  intro state next acted
  unfold Publication.create at acted
  split at acted
  · cases acted
  · cases acted
    rfl

theorem keeps_link (name : SystemCall) (source target : String) :
    Keeps (CapacityDropped count) (systemCall pattern name (Publication.link source target)) := by
  apply keeps_system_call
  intro state next acted
  unfold Publication.link at acted
  split at acted
  · cases acted
  · split at acted
    · cases acted
    · cases acted
      rfl

theorem keeps_unlink (name : SystemCall) (file : String) :
    Keeps (CapacityDropped count) (systemCall pattern name (Publication.unlink file)) := by
  apply keeps_system_call
  intro state next acted
  unfold Publication.unlink at acted
  split at acted
  · cases acted
    rfl
  · cases acted

theorem append_counters (file : String) (bytes : Bytes) (state : Publication) :
    (state.append file bytes).counters = state.counters := by
  unfold Publication.append
  split
  · rfl
  · rfl

theorem keeps_write_round (temporary : String) :
    Keeps (CapacityDropped count) (writeRound pattern temporary) := by
  intro state exit next holds ended
  unfold writeRound at ended
  split at ended
  · cases ended
    exact holds
  · simp only at ended
    split at ended
    · cases ended
      rw [CapacityDropped, append_counters]
      exact holds
    · cases ended
      rw [CapacityDropped, append_counters]
      exact holds

theorem keeps_suppressed {block : CaptureBlock} (change : Publication → Publication)
    (runs : Keeps (CapacityDropped count) block)
    (same : ∀ state, (change state).counters.capacityDropped = state.counters.capacityDropped) :
    Keeps (CapacityDropped count) (suppressed block change) :=
  Keeps.handled runs fun _ => keeps_perform count change same

theorem keeps_publish_body (temporary final : String) (data : Bytes) (fuel : Nat) :
    Keeps (CapacityDropped count) (publishBody pattern temporary final data fuel) := by
  apply Keeps.chain
  simp only [List.forall_mem_cons]
  refine ⟨keeps_create pattern count _ temporary, keeps_perform count _ fun _ => rfl, ?_,
    keeps_sync pattern count _, keeps_sync pattern count _,
    keeps_perform count _ fun _ => rfl, keeps_link pattern count _ temporary final,
    keeps_perform count _ fun _ => rfl, keeps_unlink pattern count _ temporary,
    keeps_perform count _ fun _ => rfl, keeps_sync pattern count _, List.forall_mem_nil _⟩
  exact Keeps.andThen (keeps_perform count _ fun _ => rfl)
    (Keeps.loop _ (keeps_write_round pattern count temporary) fuel)

theorem keeps_publish_handler (final : String) (failure : OsFailure) :
    Keeps (CapacityDropped count) (publishHandler pattern final failure) := by
  cases failure with
  | fileExists =>
      apply Keeps.chain
      simp only [List.forall_mem_cons]
      exact ⟨keeps_perform count _ fun _ => rfl, Keeps.giveBack none, List.forall_mem_nil _⟩
  | osError =>
      apply Keeps.chain
      simp only [List.forall_mem_cons]
      refine ⟨keeps_perform count _ fun _ => rfl, ?_, Keeps.giveBack none,
        List.forall_mem_nil _⟩
      exact Keeps.guarded _
        (keeps_suppressed count _ (keeps_unlink pattern count _ final) fun _ => rfl)

theorem keeps_publish_cleanup (temporary : String) :
    Keeps (CapacityDropped count) (publishCleanup pattern temporary) := by
  apply Keeps.chain
  simp only [List.forall_mem_cons]
  exact ⟨Keeps.guarded _ (keeps_suppressed count _ (keeps_sync pattern count _) fun _ => rfl),
    Keeps.guarded _ (keeps_suppressed count _ (keeps_unlink pattern count _ temporary)
      fun _ => rfl),
    List.forall_mem_nil _⟩

theorem keeps_publish (path temporary final : String) (data : Bytes) (fuel : Nat) :
    Keeps (CapacityDropped count) (publish pattern path temporary final data fuel) := by
  apply Keeps.chain
  simp only [List.forall_mem_cons]
  exact ⟨Keeps.lastly
      (Keeps.handled (keeps_publish_body pattern count temporary final data fuel)
        (keeps_publish_handler pattern count final))
      (keeps_publish_cleanup pattern count temporary),
    keeps_perform count _ fun _ => rfl, Keeps.giveBack (some path), List.forall_mem_nil _⟩

end Frame

theorem capture_none_dropped (json : JsonModule) (capture : DescriptorLayoutCapture)
    (regions : capture.maxRegions = maxDescriptorRegions)
    (bytes : capture.maxRecordBytes = defaultMaxDescriptorRecordBytes)
    (pattern : FailurePattern) (fuel : Nat) (directory : Directory)
    (counters : DescriptorCaptureCounters) (inventory : Argument DescriptorInventory)
    (exit : Completion (Option String) OsFailure) (next : Publication)
    (ended : capture.captureLocked json pattern fuel directory counters inventory =
      some (exit, next)) :
    next.counters.capacityDropped = counters.capacityDropped := by
  unfold DescriptorLayoutCapture.captureLocked at ended
  simp only [Returned] at ended
  split at ended
  · cases ended
    rfl
  split at ended
  · cases ended
    rfl
  cases inventory with
  | other object =>
      cases ended
      rfl
  | typed inventory =>
      have short := inventory_short json inventory capture.evidenceLabel
      rw [← bytes] at short
      have few := inventory.bounded
      rw [← regions] at few
      simp only [if_neg (Nat.not_lt.mpr few), if_neg (Nat.not_lt.mpr short)] at ended
      cases named : pattern.token with
      | none =>
          rw [named] at ended
          cases ended
          rfl
      | some token =>
          rw [named] at ended
          apply keeps_publish pattern counters.capacityDropped _ _ _ _ fuel _ exit next ?_ ended
          exact Eq.refl counters.capacityDropped

/-! ## Schema bounds imply byte bounds -/

/-- With the default bounds nothing that the schema allows is too long. -/
structure DefaultsSuffice (json : JsonModule) : Prop where
  records : ∀ record, (encoded json record).length ≤ defaultMaxRecordBytes
  inventories : ∀ (inventory : DescriptorInventory) label,
    (inventory.encoded json label).length ≤ defaultMaxDescriptorRecordBytes
  noRecordDropped : ∀ bounds : ConfiguredBounds,
    bounds.maxRecordBytes = defaultMaxRecordBytes → ∀ events state,
      Steps.run (Recording.step json) (Recording.opened bounds) events = some state →
        state.run.sink.counterValues .recordSizeDropped = 0
  noInventoryDropped : ∀ capture : DescriptorLayoutCapture,
    capture.maxRegions = maxDescriptorRegions →
    capture.maxRecordBytes = defaultMaxDescriptorRecordBytes →
      ∀ pattern fuel directory counters inventory exit next,
        capture.captureLocked json pattern fuel directory counters inventory = some (exit, next) →
          next.counters.capacityDropped = counters.capacityDropped
  readableRecords : ∀ record, (encoded json record).length ≤ EventFile.maxRecordBytes
  readableInventories : ∀ (inventory : DescriptorInventory) label,
    (inventory.encoded json label).length ≤ EventFile.maxRecordBytes

theorem schema_bounds_imply_byte_bounds (json : JsonModule) : DefaultsSuffice json where
  records := record_short json
  inventories := inventory_short json
  noRecordDropped := fun bounds default events state reached =>
    (run_none_oversized json bounds default events state reached).dropped
  noInventoryDropped := capture_none_dropped json
  readableRecords := record_short json
  readableInventories := inventory_short json

end KVTransferObservability.DefaultBounds
