import KVTransferObservability.CommandLine
import KVTransferObservability.Library.Parts
import KVTransferObservability.RecordedEvents
import KVTransferObservability.ValidationIndependence

/-!
# Event files given together

How the events are spread over files does not decide: a file that is cut at line
boundaries gives the same verdict and the same summary, and so do the files in another
order, unless a recovery in its canonical form is spread over several of them.
-/

namespace KVTransferObservability.SeveralFiles

open PythonValues Schema Observation Adapter EventSink RecordText EventFile EventLines Library
open Validation ChainVerdict ChainEpisodes CorrelatedChain DescriptorCorrelation CommandLine
open ValidationIndependence Recording RecordedEvents

set_option autoImplicit false

/-! ## One file cut into several -/

theorem counted_flatten (files : List Bytes) (ends : ∀ file ∈ files, EndsLine file) :
    counted files.flatten = (files.map counted).flatten := by
  unfold counted
  rw [lines_flatten_files files ends, List.filter_flatten, List.map_map]
  rfl

/-- Each file is within the limits if all are together. -/
theorem within_part {files : List Bytes} (ends : ∀ file ∈ files, EndsLine file)
    (within : WithinLimits files.flatten) {file : Bytes} (member : file ∈ files) :
    WithinLimits file := by
  have lineLimits := within.records
  have countLimit := within.count
  rw [lines_flatten_files files ends] at lineLimits countLimit
  refine ⟨?_, ?_, ?_⟩
  · intro line listed
    exact lineLimits line (List.mem_flatten.mpr ⟨lines file, List.mem_map_of_mem member, listed⟩)
  · exact (List.Sublist.length_le (List.sublist_flatten_of_mem member)).trans within.artifact
  · have part : List.Sublist (lines file) (files.map lines).flatten :=
      List.sublist_flatten_of_mem (List.mem_map_of_mem member)
    exact (List.Sublist.length_le (part.filter _)).trans countLimit

theorem within_whole {files : List Bytes} (ends : ∀ file ∈ files, EndsLine file)
    (each : ∀ file ∈ files, WithinLimits file) (bytes : files.flatten.length ≤ maxArtifactBytes)
    (count : (counted files.flatten).length ≤ maxRecords) : WithinLimits files.flatten := by
  refine ⟨?_, bytes, count⟩
  rw [lines_flatten_files files ends]
  intro line listed
  obtain ⟨part, inParts, inPart⟩ := List.mem_flatten.mp listed
  obtain ⟨file, member, same⟩ := List.mem_map.mp inParts
  subst same
  exact (each file member).records line inPart

/-- What is read of the whole is what is read of the parts, one after the other. -/
theorem reads_flatten_iff (json : JsonModule) (files : List Bytes) (some : files ≠ [])
    (ends : ∀ file ∈ files, EndsLine file) (records : List EventRecord) :
    (∃ parts, List.Forall₂ (Reads json) files parts ∧ parts.flatten = records ∧
        files.flatten.length ≤ maxArtifactBytes ∧ records.length ≤ maxRecords) ↔
      (∀ file ∈ files, counted file ≠ []) ∧ Reads json files.flatten records := by
  constructor
  · intro parted
    obtain ⟨parts, read, whole, bytes, count⟩ := parted
    have each : List.Forall₂ (Holds json) (counted files.flatten) records := by
      rw [counted_flatten files ends]
      refine (forall_two_flatten_iff _ _).mpr ⟨parts, ?_, whole⟩
      exact List.forall₂_map_left_iff.mpr (read.imp fun file part reads => reads.each)
    have filled (file : Bytes) (member : file ∈ files) :
        counted file ≠ [] ∧ WithinLimits file := by
      obtain ⟨place, inside, found⟩ := List.getElem_of_mem member
      have reads := read.get inside (read.length_eq ▸ inside)
      rw [List.get_eq_getElem, found] at reads
      refine ⟨?_, reads.limits⟩
      intro empty
      have none := reads.each
      rw [empty] at none
      exact reads.present (List.forall₂_nil_left_iff.mp none)
    refine ⟨fun file member => (filled file member).1, ?_, ?_, each⟩
    · refine within_whole ends (fun file member => (filled file member).2) bytes ?_
      rw [each.length_eq]
      exact count
    · obtain ⟨file, member⟩ := List.exists_mem_of_ne_nil files some
      intro none
      rw [none, List.forall₂_nil_right_iff, counted_flatten files ends,
        List.flatten_eq_nil_iff] at each
      exact (filled file member).1 (each _ (List.mem_map_of_mem member))
  · intro read
    obtain ⟨filled, limits, present, each⟩ := read
    have count := limits.count
    rw [show ((lines files.flatten).filter fun line => !line.all isSpace) =
      counted files.flatten from rfl, each.length_eq] at count
    rw [counted_flatten files ends] at each
    obtain ⟨parts, pairs, whole⟩ := (forall_two_flatten_iff _ _).mp each
    rw [List.forall₂_map_left_iff] at pairs
    refine ⟨parts, ?_, whole, limits.artifact, count⟩
    refine (List.forall₂_iff_get.mpr ⟨pairs.length_eq, ?_⟩)
    intro place inside inParts
    have here := pairs.get inside inParts
    have member : files.get ⟨place, inside⟩ ∈ files := List.get_mem files _
    refine ⟨within_part ends limits member, ?_, here⟩
    intro none
    rw [none, List.forall₂_nil_right_iff] at here
    exact filled _ member here

/-! ## Files as they are stored -/

/-- The files under these paths, which do not change between `stat` and `open`. -/
def Stored (artifacts : Artifacts) (paths : List String) (files : List Bytes) : Prop :=
  List.Forall₂
    (fun path file => artifacts.content path = some file ∧ artifacts.size path = some file.length)
    paths files

section Stored

variable (json : JsonModule) {artifacts : Artifacts} {args : Arguments} {files : List Bytes}

theorem stored_sizes {paths : List String} (stored : Stored artifacts paths files)
    (sizes : List Nat) :
    List.Forall₂ (fun path size => artifacts.size path = some size) paths sizes ↔
      sizes = files.map List.length := by
  induction stored generalizing sizes with
  | nil => exact List.forall₂_nil_left_iff
  | cons first _ induction =>
      rw [List.forall₂_cons_left_iff, List.map_cons]
      constructor
      · intro pairs
        obtain ⟨size, rest, found, others, same⟩ := pairs
        rw [same, (induction rest).mp others, Option.some.inj (first.2.symm.trans found)]
      · intro same
        exact ⟨_, _, first.2, (induction _).mpr rfl, same⟩

theorem stored_read {paths : List String} (stored : Stored artifacts paths files)
    (parts : List (List EventRecord)) :
    List.Forall₂
        (fun path records => ∃ file, artifacts.content path = some file ∧ Reads json file records)
        paths parts ↔
      List.Forall₂ (Reads json) files parts := by
  induction stored generalizing parts with
  | nil => rw [List.forall₂_nil_left_iff, List.forall₂_nil_left_iff]
  | cons first _ induction =>
      rw [List.forall₂_cons_left_iff, List.forall₂_cons_left_iff]
      constructor
      · intro pairs
        obtain ⟨records, rest, ⟨file, found, reads⟩, others, same⟩ := pairs
        rw [Option.some.inj (found.symm.trans first.1)] at reads
        exact ⟨records, rest, reads, (induction rest).mp others, same⟩
      · intro pairs
        obtain ⟨records, rest, reads, others, same⟩ := pairs
        exact ⟨records, rest, ⟨_, first.1, reads⟩, (induction rest).mpr others, same⟩

theorem examined_stored_iff (stored : Stored artifacts args.events files)
    (parts : List (List EventRecord)) :
    (∃ sizes, Examined json artifacts args sizes parts) ↔
      files.flatten.length ≤ maxArtifactBytes ∧ List.Forall₂ (Reads json) files parts ∧
        parts.flatten.length ≤ maxRecords := by
  have total : files.flatten.length = (files.map List.length).sum := List.length_flatten
  constructor
  · intro examined
    obtain ⟨sizes, sized, bytes, read, count⟩ := examined
    rw [(stored_sizes stored sizes).mp sized, ← total] at bytes
    exact ⟨bytes, (stored_read json stored parts).mp read, count⟩
  · intro parted
    obtain ⟨bytes, read, count⟩ := parted
    rw [total] at bytes
    exact ⟨_, (stored_sizes stored _).mpr rfl, bytes, (stored_read json stored parts).mpr read,
      count⟩

theorem stored_nonempty (stored : Stored artifacts args.events files) : files ≠ [] := by
  intro none
  rw [none] at stored
  exact args.given (List.forall₂_nil_right_iff.mp stored)

end Stored

/-! ## Files of observers -/

/-- The file of an observer that has come to rest, whose writes did not fail and whose
records can be read back. -/
structure AtRest (json : JsonModule) (state : RecordedFile) : Prop where
  reached : ∃ bounds events,
    Steps.run (Recording.step json) (Recording.opened bounds) events = some state
  drained : Drained state
  noErrors : state.run.sink.counterValues .ioErrors = 0
  inverse : ∀ record ∈ state.accepted, Inverse json record
  written : 1 ≤ state.run.sink.counterValues .written

def written (state : RecordedFile) : Nat := state.run.sink.counterValues .written

section Observers

variable {json : JsonModule} {artifacts : Artifacts} {args : Arguments}

theorem survivors_length {state : RecordedFile} (rest : AtRest json state) :
    (survivors state).length = written state := by
  obtain ⟨bounds, events, reached⟩ := rest.reached
  have holds := run_recorded json bounds events state reached
  rw [survivors_written (no_failed_result holds rest.drained rest.noErrors),
    records_with_counted holds .written, drained_uncounted rest.drained]
  rfl

/-- What is read of such a file is what the observer has written. -/
theorem reads_at_rest_iff {state : RecordedFile} (rest : AtRest json state)
    (records : List EventRecord) :
    EventLines.Reads json state.file records ↔
      written state ≤ maxRecords ∧ records = survivors state := by
  have length := survivors_length rest
  obtain ⟨bounds, events, reached⟩ := rest.reached
  have holds := run_recorded json bounds events state reached
  have none := no_failed_result holds rest.drained rest.noErrors
  have whole : state.torn = false := by
    rw [← Bool.not_eq_true]
    exact fun torn => none (holds.failed torn)
  have filled : (survivors state).isEmpty = false := by
    rw [List.isEmpty_eq_false_iff, ← List.length_pos_iff, length]
    exact rest.written
  rw [← read_events_iff, read_recorded_file holds whole rest.inverse, ← survivors_written none,
    length]
  by_cases few : written state ≤ maxRecords
  · rw [if_pos few, filled]
    constructor
    · intro same
      exact ⟨few, (Except.ok.inj same).symm⟩
    · intro same
      rw [same.2]
      rfl
  · rw [if_neg few]
    exact ⟨nofun, fun same => absurd same.1 few⟩

theorem all_reads_iff {states : List RecordedFile} (rest : ∀ state ∈ states, AtRest json state)
    (parts : List (List EventRecord)) :
    List.Forall₂ (EventLines.Reads json) (states.map RecordedFile.file) parts ↔
      (∀ state ∈ states, written state ≤ maxRecords) ∧ parts = states.map survivors := by
  induction states generalizing parts with
  | nil =>
      rw [List.map_nil, List.forall₂_nil_left_iff]
      exact ⟨fun none => ⟨nofun, none⟩, fun none => none.2⟩
  | cons state states induction =>
      obtain ⟨first, others⟩ := List.forall_mem_cons.mp rest
      rw [List.map_cons, List.forall₂_cons_left_iff, List.forall_mem_cons, List.map_cons]
      constructor
      · intro pairs
        obtain ⟨records, rest, reads, pairs, same⟩ := pairs
        obtain ⟨few, found⟩ := (reads_at_rest_iff first records).mp reads
        obtain ⟨fews, founds⟩ := (induction others rest).mp pairs
        exact ⟨⟨few, fews⟩, by rw [same, found, founds]⟩
      · intro same
        obtain ⟨⟨few, fews⟩, same⟩ := same
        exact ⟨_, _, (reads_at_rest_iff first _).mpr ⟨few, rfl⟩,
          (induction others _).mpr ⟨fews, rfl⟩, same⟩

theorem survivors_together {states : List RecordedFile}
    (rest : ∀ state ∈ states, AtRest json state) :
    (states.map survivors).flatten.length = (states.map written).sum := by
  rw [List.length_flatten, List.map_map]
  refine congrArg List.sum (List.map_congr_left ?_)
  intro state member
  exact survivors_length (rest state member)

/-- Given the files of any number of observers, the command reports on exactly the records
that they have written, if the files are within its limits together. -/
theorem command_reports_what_observers_wrote {states : List RecordedFile}
    (rest : ∀ state ∈ states, AtRest json state)
    (stored : Stored artifacts args.events (states.map RecordedFile.file)) (summary : Summary) :
    main json artifacts args = .passed summary ↔
      (states.map fun state => state.file.length).sum ≤ maxArtifactBytes ∧
        (states.map written).sum ≤ maxRecords ∧
        Reported json artifacts args (states.map survivors).flatten summary := by
  have bytes : (states.map RecordedFile.file).flatten.length =
      (states.map fun state => state.file.length).sum := by
    rw [List.length_flatten, List.map_map]
    rfl
  have count := survivors_together rest
  rw [main_passed_iff, examine_iff]
  constructor
  · intro passed
    obtain ⟨sizes, parts, examined, reported⟩ := passed
    obtain ⟨fits, read, few⟩ := (examined_stored_iff json stored parts).mp ⟨sizes, examined⟩
    obtain ⟨_, same⟩ := (all_reads_iff rest parts).mp read
    subst same
    rw [bytes] at fits
    rw [count] at few
    exact ⟨fits, few, reported⟩
  · intro passed
    obtain ⟨fits, few, reported⟩ := passed
    rw [← bytes] at fits
    have each (state : RecordedFile) (member : state ∈ states) : written state ≤ maxRecords :=
      (List.single_le_sum (fun _ _ => Nat.zero_le _) _ (List.mem_map_of_mem member)).trans few
    obtain ⟨sizes, examined⟩ := (examined_stored_iff json stored (states.map survivors)).mpr
      ⟨fits, (all_reads_iff rest _).mpr ⟨each, rfl⟩, by rw [count]; exact few⟩
    exact ⟨sizes, _, examined, reported⟩

theorem sample_at_rest : AtRest sampleJson sampleFile where
  reached := ⟨defaultBounds, cycle sampleRecord .write, run_sample⟩
  drained := ⟨rfl, rfl⟩
  noErrors := rfl
  inverse := sample_accepted
  written := by decide

end Observers

/-- The file of one record under every name, and the file of two under one. -/
def sampleArtifacts : Artifacts where
  size path :=
    some (if path = "both.jsonl" then 2 * sampleFile.file.length else sampleFile.file.length)
  content path :=
    some (if path = "both.jsonl" then sampleFile.file ++ sampleFile.file else sampleFile.file)
  directory _ := none

def sampleArguments : Arguments where
  events := ["first.jsonl", "second.jsonl"]
  captureDir := none
  expectRestoreChain := none
  given := List.cons_ne_nil _ _

theorem sample_stored :
    Stored sampleArtifacts sampleArguments.events ([sampleFile, sampleFile].map RecordedFile.file) :=
  .cons ⟨rfl, rfl⟩ (.cons ⟨rfl, rfl⟩ .nil)

def sampleSummary : Summary where
  events := 2
  unjoinedHostFacts := 2
  correlatedHostRecords := 0
  completeRestoreEpisodes := none
  descriptorInventories := none

theorem sample_rest : ∀ state ∈ [sampleFile, sampleFile], AtRest sampleJson state := by
  intro state member
  simp only [List.mem_cons, List.not_mem_nil, or_false, or_self] at member
  exact member ▸ sample_at_rest

theorem sample_observers_reported :
    main sampleJson sampleArtifacts sampleArguments = .passed sampleSummary := by
  refine (command_reports_what_observers_wrote sample_rest sample_stored _).mpr ⟨?_, ?_, ?_⟩
  · have length : sampleFile.file.length = 246 := sample_length sampleJson
    simp only [List.map_cons, List.map_nil, List.sum_cons, List.sum_nil, length]
    decide
  · decide
  · exact ⟨rfl, rfl, rfl, fun _ => rfl, nofun, fun _ => rfl, nofun⟩

section Cut

variable (json : JsonModule) (artifacts : Artifacts) (args whole : Arguments)

/-- The files of one command, cut at line boundaries, are the file of the other. -/
structure Joined (files : List Bytes) (path : String) : Prop where
  stored : Stored artifacts args.events files
  ends : ∀ file ∈ files, EndsLine file
  events : whole.events = [path]
  together : Stored artifacts [path] [files.flatten]
  captureDir : whole.captureDir = args.captureDir
  expectRestoreChain : whole.expectRestoreChain = args.expectRestoreChain

variable {artifacts args whole}

/-- The report depends on the records and on what is asked for. -/
theorem reported_of_same {records : List EventRecord} {summary : Summary}
    (captureDir : whole.captureDir = args.captureDir)
    (expectRestoreChain : whole.expectRestoreChain = args.expectRestoreChain)
    (reported : Reported json artifacts args records summary) :
    Reported json artifacts whole records summary where
  events := reported.events
  hostFacts := reported.hostFacts
  correlated := reported.correlated
  unasked asked := reported.unasked (expectRestoreChain.symm.trans asked)
  restored requestId asked := reported.restored requestId (expectRestoreChain.symm.trans asked)
  uncaptured asked := reported.uncaptured (captureDir.symm.trans asked)
  described directory asked := reported.described directory (captureDir.symm.trans asked)

theorem examined_joined {files : List Bytes} {path : String}
    (joined : Joined artifacts args whole files path) (records : List EventRecord) :
    (∃ sizes parts, Examined json artifacts args sizes parts ∧ parts.flatten = records) ↔
      (∀ file ∈ files, counted file ≠ []) ∧
        ∃ sizes parts, Examined json artifacts whole sizes parts ∧ parts.flatten = records := by
  have together : Stored artifacts whole.events [files.flatten] := by
    rw [joined.events]
    exact joined.together
  have split := reads_flatten_iff json files (stored_nonempty joined.stored) joined.ends records
  constructor
  · intro examined
    obtain ⟨sizes, parts, examined, same⟩ := examined
    obtain ⟨bytes, read, count⟩ :=
      (examined_stored_iff json joined.stored parts).mp ⟨sizes, examined⟩
    rw [same] at count
    obtain ⟨filled, reads⟩ := split.mp ⟨parts, read, same, bytes, count⟩
    refine ⟨filled, ?_⟩
    have one : ([records] : List (List EventRecord)).flatten = records := List.flatten_singleton
    obtain ⟨sizes, examined⟩ := (examined_stored_iff json together [records]).mpr
      ⟨by simpa using bytes, .cons reads .nil, by rw [one]; exact count⟩
    exact ⟨sizes, [records], examined, one⟩
  · intro examined
    obtain ⟨filled, sizes, parts, examined, same⟩ := examined
    obtain ⟨bytes, read, count⟩ := (examined_stored_iff json together parts).mp ⟨sizes, examined⟩
    obtain ⟨one, none, reads, empty, isOne⟩ := List.forall₂_cons_left_iff.mp read
    rw [List.forall₂_nil_left_iff.mp empty] at isOne
    rw [isOne, List.flatten_singleton] at same
    rw [same] at reads
    obtain ⟨parts, read, same, bytes, count⟩ := split.mpr ⟨filled, reads⟩
    rw [← same] at count
    obtain ⟨sizes, examined⟩ :=
      (examined_stored_iff json joined.stored parts).mpr ⟨bytes, read, count⟩
    exact ⟨sizes, parts, examined, same⟩

/-- Cutting an event file at line boundaries changes neither the exit code nor the summary,
as long as no piece is without a record. -/
theorem pieces_pass_as_one_file {files : List Bytes} {path : String}
    (joined : Joined artifacts args whole files path) (summary : Summary) :
    main json artifacts args = .passed summary ↔
      (∀ file ∈ files, counted file ≠ []) ∧ main json artifacts whole = .passed summary := by
  rw [main_passed_iff, main_passed_iff, examine_iff, examine_iff]
  constructor
  · intro passed
    obtain ⟨sizes, parts, examined, reported⟩ := passed
    obtain ⟨filled, sizes, others, examined, same⟩ :=
      (examined_joined json joined parts.flatten).mp ⟨sizes, parts, examined, rfl⟩
    refine ⟨filled, sizes, others, examined, ?_⟩
    rw [same]
    exact reported_of_same json joined.captureDir joined.expectRestoreChain reported
  · intro passed
    obtain ⟨filled, sizes, parts, examined, reported⟩ := passed
    obtain ⟨sizes, others, examined, same⟩ :=
      (examined_joined json joined parts.flatten).mpr ⟨filled, sizes, parts, examined, rfl⟩
    refine ⟨sizes, others, examined, ?_⟩
    rw [same]
    exact reported_of_same json joined.captureDir.symm joined.expectRestoreChain.symm reported

end Cut

def wholeArguments : Arguments :=
  { sampleArguments with events := ["both.jsonl"], given := List.cons_ne_nil _ _ }

theorem sample_joined :
    Joined sampleArtifacts sampleArguments wholeArguments
      ([sampleFile, sampleFile].map RecordedFile.file) "both.jsonl" where
  stored := sample_stored
  ends file member := by
    simp only [List.map_cons, List.map_nil, List.mem_cons, List.not_mem_nil, or_false,
      or_self] at member
    obtain ⟨body, line, _⟩ := (encoded_is_line sampleJson sampleRecord).shape
    exact .inr ⟨body, member.trans line⟩
  events := rfl
  together := by
    refine .cons ⟨?_, ?_⟩ .nil
    · simp [sampleArtifacts]
    · simp [sampleArtifacts, Nat.two_mul]
  captureDir := rfl
  expectRestoreChain := rfl

theorem sample_pieces_pass :
    main sampleJson sampleArtifacts sampleArguments = .passed sampleSummary ↔
      (∀ file ∈ [sampleFile, sampleFile].map RecordedFile.file, counted file ≠ []) ∧
        main sampleJson sampleArtifacts wholeArguments = .passed sampleSummary :=
  pieces_pass_as_one_file sampleJson sample_joined sampleSummary

/-! ## The order of the files -/

/-- The request has cross-process records, or no identity has canonical records in two
files and its restores fit the replayed normalizer. -/
def OrderFree (requestId : String) (parts : List (List EventRecord)) : Prop :=
  (∃ record ∈ parts.flatten, isCorrelatedFor requestId record = true) ∨
    startCount (recoveryEvents requestId parts.flatten) ≤ 4096 ∧
      ∀ identity, (parts.map fun part => part.filterMap (canonicalOf identity)).Pairwise OneEmpty

section Order

variable (json : JsonModule) (artifacts : Artifacts) {args reordered : Arguments}

theorem examined_reordered (permuted : reordered.events.Perm args.events) {sizes : List Nat}
    {parts : List (List EventRecord)} (examined : Examined json artifacts args sizes parts) :
    ∃ resized others, Examined json artifacts reordered resized others ∧ others.Perm parts := by
  obtain ⟨resized, sized, sameSizes⟩ := List.perm_comp_forall₂ permuted examined.sized
  obtain ⟨others, read, sameParts⟩ := List.perm_comp_forall₂ permuted examined.read
  refine ⟨resized, others, ⟨sized, ?_, read, ?_⟩, sameParts⟩
  · rw [sameSizes.sum_eq]
    exact examined.bytes
  · rw [sameParts.flatten.length_eq]
    exact examined.count

theorem restored_reordered {requestId : String} {parts others : List (List EventRecord)}
    (free : OrderFree requestId parts) (permuted : parts.Perm others) (count : Nat) :
    Restored parts.flatten requestId count ↔ Restored others.flatten requestId count := by
  rw [← restored_iff, ← restored_iff]
  by_cases correlated : ∃ record ∈ parts.flatten, isCorrelatedFor requestId record = true
  · exact correlated_order parts.flatten others.flatten requestId correlated permuted.flatten count
  · obtain ⟨bounded, apart⟩ := free.resolve_left correlated
    have uncorrelated : ∀ record ∈ parts.flatten, isCorrelatedFor requestId record = false := by
      intro record member
      rw [← Bool.not_eq_true]
      exact fun correlatedFor => correlated ⟨record, member, correlatedFor⟩
    refine canonical_order requestId permuted.flatten uncorrelated bounded ?_ count
    intro identity
    rw [List.filterMap_flatten, List.filterMap_flatten]
    exact flatten_reordered (permuted.map _) (apart identity)

theorem reported_reordered {parts others : List (List EventRecord)} {summary : Summary}
    (captureDir : reordered.captureDir = args.captureDir)
    (expectRestoreChain : reordered.expectRestoreChain = args.expectRestoreChain)
    (free : ∀ requestId, args.expectRestoreChain = some requestId → OrderFree requestId parts)
    (permuted : others.Perm parts) :
    Reported json artifacts reordered others.flatten summary ↔
      Reported json artifacts args parts.flatten summary := by
  have moved {first second : Arguments} {one another : List (List EventRecord)}
      (sameDir : second.captureDir = first.captureDir)
      (sameChain : second.expectRestoreChain = first.expectRestoreChain)
      (perm : one.Perm another)
      (kept : ∀ requestId count, first.expectRestoreChain = some requestId →
        Restored one.flatten requestId count → Restored another.flatten requestId count)
      (reported : Reported json artifacts first one.flatten summary) :
      Reported json artifacts second another.flatten summary := by
    apply reported_of_same json sameDir sameChain
    refine ⟨?_, ?_, ?_, reported.unasked, ?_, reported.uncaptured, ?_⟩
    · exact reported.events.trans perm.flatten.length_eq
    · exact reported.hostFacts.trans (perm.flatten.countP_eq isHostFact)
    · exact reported.correlated.trans (perm.flatten.countP_eq isCorrelated)
    · intro requestId asked
      obtain ⟨count, found, restored⟩ := reported.restored requestId asked
      exact ⟨count, found, kept requestId count asked restored⟩
    · intro directory asked
      obtain ⟨listing, known, present, found, correlated⟩ := reported.described directory asked
      exact ⟨listing, known, present, found,
        correlated_perm json _ _ _ _ (List.Perm.refl _) perm.flatten correlated⟩
  constructor
  · apply moved captureDir.symm expectRestoreChain.symm permuted
    intro requestId count asked
    exact (restored_reordered (free requestId (expectRestoreChain.symm.trans asked))
      permuted.symm count).mpr
  · apply moved captureDir expectRestoreChain permuted.symm
    intro requestId count asked
    exact (restored_reordered (free requestId asked) permuted.symm count).mp

/-- The order in which the event files are given changes neither the exit code nor the
summary, unless a recovery in its canonical form is spread over several of them. -/
theorem order_of_files_is_irrelevant (loads : ∀ text, Contained (json.loads text))
    (permuted : reordered.events.Perm args.events)
    (captureDir : reordered.captureDir = args.captureDir)
    (expectRestoreChain : reordered.expectRestoreChain = args.expectRestoreChain)
    (free : ∀ requestId, args.expectRestoreChain = some requestId → ∀ sizes parts,
      Examined json artifacts args sizes parts → OrderFree requestId parts) :
    main json artifacts reordered = main json artifacts args := by
  have passes (summary : Summary) :
      main json artifacts reordered = .passed summary ↔
        main json artifacts args = .passed summary := by
    rw [main_passed_iff, main_passed_iff, examine_iff, examine_iff]
    constructor
    · intro passed
      obtain ⟨sizes, others, examined, reported⟩ := passed
      obtain ⟨resized, parts, again, same⟩ :=
        examined_reordered json artifacts permuted.symm examined
      refine ⟨resized, parts, again, ?_⟩
      exact (reported_reordered json artifacts captureDir expectRestoreChain
        (fun requestId asked => free requestId asked resized parts again) same.symm).mp reported
    · intro passed
      obtain ⟨sizes, parts, examined, reported⟩ := passed
      obtain ⟨resized, others, again, same⟩ :=
        examined_reordered json artifacts permuted examined
      refine ⟨resized, others, again, ?_⟩
      exact (reported_reordered json artifacts captureDir expectRestoreChain
        (fun requestId asked => free requestId asked sizes parts examined) same).mpr reported
  by_cases passed : ∃ summary, main json artifacts args = .passed summary
  · obtain ⟨summary, passed⟩ := passed
    rw [passed]
    exact (passes summary).mpr passed
  · have refused (summary : Summary) : main json artifacts args ≠ .passed summary :=
      fun accepted => passed ⟨summary, accepted⟩
    rw [main_rejected json artifacts args loads refused]
    apply main_rejected json artifacts reordered loads
    intro summary accepted
    exact refused summary ((passes summary).mp accepted)

end Order

/-- The same two files, with a request. -/
def chainArguments (events : List String) (given : events ≠ []) : Arguments where
  events := events
  captureDir := none
  expectRestoreChain := some "request-1"
  given := given

theorem sample_loads (text : Bytes) : Contained (sampleJson.loads text) := by
  intro error raised
  simp only [sampleJson] at raised
  split at raised
  · cases raised
  · split at raised
    · cases raised
    · cases raised
      rfl

theorem sample_order_free (events : List String) (given : events ≠ [])
    (stored : Stored sampleArtifacts events ([sampleFile, sampleFile].map RecordedFile.file))
    (sizes : List Nat) (parts : List (List EventRecord))
    (examined : Examined sampleJson sampleArtifacts (chainArguments events given) sizes parts) :
    OrderFree "request-1" parts := by
  have read := ((stored_read sampleJson stored parts).mp examined.read)
  have same : parts = [sampleFile, sampleFile].map survivors :=
    ((all_reads_iff sample_rest parts).mp read).2
  subst same
  refine .inr ⟨Nat.zero_le _, ?_⟩
  intro identity
  exact .cons (fun _ _ => .inl rfl) (List.pairwise_singleton _ _)

theorem sample_order_irrelevant :
    main sampleJson sampleArtifacts
        (chainArguments ["second.jsonl", "first.jsonl"] (List.cons_ne_nil _ _)) =
      main sampleJson sampleArtifacts
        (chainArguments ["first.jsonl", "second.jsonl"] (List.cons_ne_nil _ _)) :=
  order_of_files_is_irrelevant sampleJson sampleArtifacts sample_loads (.swap _ _ []) rfl rfl
    fun requestId asked => by
      cases asked
      exact sample_order_free _ _ sample_stored

end KVTransferObservability.SeveralFiles
