import KVTransferObservability.ChainVerdict
import KVTransferObservability.CorrelatedChain
import KVTransferObservability.DescriptorCorrelation
import KVTransferObservability.EventLines
import KVTransferObservability.ValidationErrors

/-!
# The validator's command

`validation.py`: `main`. Every event file is sized, then every one is read, and the
records of all of them are checked together. Whatever stops that, the command says so
with its exit code and does not raise, as long as the JSON parser raises nothing that is
not caught.
-/

namespace KVTransferObservability.CommandLine

open PythonValues Schema Observation Adapter EventSink RecordText EventFile EventLines Library
open Validation ChainVerdict CorrelatedChain DescriptorCorrelation DecodingRules

set_option autoImplicit false

/-! ## The code -/

/-- The parsed arguments; `--events` is required and may be repeated. -/
structure Arguments where
  events : List String
  captureDir : Option String
  expectRestoreChain : Option String
  given : events ≠ []

/-- What is found under a path. `none` stands for an `OSError`, or for a path that is not
a directory. -/
structure Artifacts where
  size : String → Option Nat
  content : String → Option Bytes
  directory : String → Option (List CaptureFile)

/-- The object that is printed, less its constant scope. -/
structure Summary where
  events : Nat
  unjoinedHostFacts : Nat
  correlatedHostRecords : Nat
  completeRestoreEpisodes : Option Nat
  descriptorInventories : Option Nat
  deriving DecidableEq, Repr

/-- How the command ends: with exit code 0 and a summary, with exit code 1, or by an
exception that it does not catch. -/
inductive Exit
  | passed (summary : Summary)
  | rejected
  | escaped (error : PyError)
  deriving DecidableEq

def osError : PyError := .raised "OSError"

/-- `except (OSError, ValueError, TypeError, RecursionError)`. -/
def caught : PyError → Bool
  | .valueError _ => true
  | .typeError _ => true
  | .attributeError _ => false
  | .keyError _ => false
  | .raised name => name == "OSError" || name == "RecursionError"

def isHostFact : EventRecord → Bool
  | .hostFact _ => true
  | _ => false

def isCorrelated : EventRecord → Bool
  | .correlated _ => true
  | _ => false

section Code

variable (json : JsonModule) (artifacts : Artifacts)

/-- `path.stat().st_size`. -/
def stat (path : String) : Py Nat :=
  match artifacts.size path with
  | some size => .ok size
  | none => .error osError

/-- `read_events(path)`. -/
def readPath (path : String) : Py (List EventRecord) :=
  match artifacts.content path with
  | some file => readEvents json file
  | none => .error osError

/-- `f(x) if x is not None else None`. -/
def whenGiven {Value Result : Type} (value : Option Value) (check : Value → Py Result) :
    Py (Option Result) :=
  match value with
  | some value => (check value).map some
  | none => .ok none

/-- The body of the `try` statement, and the summary. -/
def examine (args : Arguments) : Py Summary := do
  let sizes ← args.events.mapM (stat artifacts)
  raiseIf (maxArtifactBytes < sizes.sum) "combined event artifacts exceed the byte limit"
  let parts ← args.events.mapM (readPath json artifacts)
  let records := parts.flatten
  raiseIf (maxRecords < records.length) "combined event artifacts exceed the record limit"
  let chains ← whenGiven args.expectRestoreChain (validateRestoreChain records)
  let descriptors ← whenGiven args.captureDir fun captureDir =>
    validateDescriptors json (artifacts.directory captureDir) records
  .ok { events := records.length
        unjoinedHostFacts := records.countP isHostFact
        correlatedHostRecords := records.countP isCorrelated
        completeRestoreEpisodes := chains
        descriptorInventories := descriptors }

def main (args : Arguments) : Exit :=
  match examine json artifacts args with
  | .ok summary => .passed summary
  | .error error => if caught error then .rejected else .escaped error

end Code

/-! ## What is examined and reported -/

/-- The count is that of the complete episodes of the request, which the records have in
one of the two forms. -/
def Restored (records : List EventRecord) (requestId : String) (count : Nat) : Prop :=
  if records.any (isCorrelatedFor requestId) then
    CompleteChains ↑(records.filterMap (ownRecord requestId)) count
  else
    (∀ record ∈ records, ¬ NonSuccess requestId record) ∧
      OnlineCheck.Legal ChainRules.Admissible [] (recoveryEvents requestId records) ∧
      recoveryEvents requestId records ≠ [] ∧
      AllComputed (recoveryEvents requestId records) ∧
      (identities (recoveryEvents requestId records)).card = count

section Verdict

variable (json : JsonModule) (artifacts : Artifacts) (args : Arguments)

/-- Every event file is there, with records that are within the limits together. -/
structure Examined (sizes : List Nat) (parts : List (List EventRecord)) : Prop where
  sized : List.Forall₂ (fun path size => artifacts.size path = some size) args.events sizes
  bytes : sizes.sum ≤ maxArtifactBytes
  read : List.Forall₂
    (fun path records => ∃ file, artifacts.content path = some file ∧ Reads json file records)
    args.events parts
  count : parts.flatten.length ≤ maxRecords

/-- The checks that were asked for pass, and the summary has their counts. -/
structure Reported (records : List EventRecord) (summary : Summary) : Prop where
  events : summary.events = records.length
  hostFacts : summary.unjoinedHostFacts = records.countP isHostFact
  correlated : summary.correlatedHostRecords = records.countP isCorrelated
  unasked : args.expectRestoreChain = none → summary.completeRestoreEpisodes = none
  restored : ∀ requestId, args.expectRestoreChain = some requestId →
    ∃ count, summary.completeRestoreEpisodes = some count ∧ Restored records requestId count
  uncaptured : args.captureDir = none → summary.descriptorInventories = none
  described : ∀ captureDir, args.captureDir = some captureDir →
    ∃ listing, artifacts.directory captureDir = some listing ∧ jsonFiles listing ≠ [] ∧
      summary.descriptorInventories = some (jsonFiles listing).length ∧
      Correlated json (jsonFiles listing) records

theorem restored_iff (records : List EventRecord) (requestId : String) (count : Nat) :
    validateRestoreChain records requestId = .ok count ↔ Restored records requestId count := by
  unfold Restored
  cases chosen : records.any (isCorrelatedFor requestId) with
  | true =>
      rw [if_pos rfl]
      exact correlated_verdict records requestId (List.any_eq_true.mp chosen) count
  | false =>
      rw [if_neg Bool.false_ne_true]
      exact uncorrelated_verdict records requestId chosen count

theorem map_m_ok_iff {Item Result : Type} (read : Item → Py Result) (items : List Item)
    (results : List Result) :
    items.mapM read = .ok results ↔
      List.Forall₂ (fun item result => read item = .ok result) items results := by
  induction items generalizing results with
  | nil =>
      rw [List.mapM_nil, List.forall₂_nil_left_iff]
      exact ⟨fun same => (Except.ok.inj same).symm, fun same => same ▸ rfl⟩
  | cons item items induction =>
      rw [List.mapM_cons, bind_eq_ok]
      constructor
      · intro passed
        obtain ⟨first, one, passed⟩ := passed
        obtain ⟨others, rest, same⟩ := bind_eq_ok.mp passed
        rw [← Except.ok.inj same]
        exact .cons one ((induction others).mp rest)
      · intro pairs
        cases pairs with
        | cons one rest =>
            rename_i first others
            exact ⟨first, one, bind_eq_ok.mpr ⟨others, (induction others).mpr rest, rfl⟩⟩

theorem stat_iff (path : String) (size : Nat) :
    stat artifacts path = .ok size ↔ artifacts.size path = some size := by
  unfold stat
  cases artifacts.size path with
  | none => exact ⟨nofun, nofun⟩
  | some found =>
      exact ⟨fun same => congrArg some (Except.ok.inj same),
        fun same => congrArg Except.ok (Option.some.inj same)⟩

theorem read_path_iff (path : String) (records : List EventRecord) :
    readPath json artifacts path = .ok records ↔
      ∃ file, artifacts.content path = some file ∧ Reads json file records := by
  unfold readPath
  cases artifacts.content path with
  | none => exact ⟨nofun, fun ⟨_, missing, _⟩ => nomatch missing⟩
  | some found =>
      rw [read_events_iff]
      constructor
      · intro reads
        exact ⟨found, rfl, reads⟩
      · intro reads
        obtain ⟨file, same, reads⟩ := reads
        cases same
        exact reads

theorem when_given_iff {Value Result : Type} (value : Option Value) (check : Value → Py Result)
    (result : Option Result) :
    whenGiven value check = .ok result ↔
      (value = none → result = none) ∧
        ∀ given, value = some given → ∃ answer, result = some answer ∧
          check given = .ok answer := by
  cases value with
  | none =>
      constructor
      · intro same
        exact ⟨fun _ => (Except.ok.inj same).symm, nofun⟩
      · intro absent
        rw [absent.1 rfl]
        rfl
  | some given =>
      unfold whenGiven
      constructor
      · intro passed
        obtain ⟨answer, accepted, same⟩ := (EventReaders.map_ok_iff _ _ _).mp passed
        refine ⟨nofun, ?_⟩
        intro other another
        cases another
        exact ⟨answer, same.symm, accepted⟩
      · intro passed
        obtain ⟨answer, same, accepted⟩ := passed.2 given rfl
        exact (EventReaders.map_ok_iff _ _ _).mpr ⟨answer, accepted, same.symm⟩

theorem described_iff (captureDir : String) (records : List EventRecord) (count : Nat) :
    validateDescriptors json (artifacts.directory captureDir) records = .ok count ↔
      ∃ listing, artifacts.directory captureDir = some listing ∧ jsonFiles listing ≠ [] ∧
        count = (jsonFiles listing).length ∧ Correlated json (jsonFiles listing) records := by
  cases found : artifacts.directory captureDir with
  | none =>
      constructor
      · intro accepted
        obtain ⟨_, _, refused⟩ := bind_eq_ok.mp accepted
        cases refused
      · intro described
        obtain ⟨listing, missing, _⟩ := described
        cases missing
  | some listing =>
      rw [validate_descriptors_iff]
      constructor
      · intro accepted
        obtain ⟨positive, counted, correlated⟩ := accepted
        rw [counted] at positive
        exact ⟨listing, rfl, List.length_pos_iff.mp positive, counted, correlated⟩
      · intro described
        obtain ⟨other, same, present, counted, correlated⟩ := described
        cases same
        rw [counted]
        exact ⟨List.length_pos_iff.mpr present, rfl, correlated⟩

theorem examine_iff (summary : Summary) :
    examine json artifacts args = .ok summary ↔
      ∃ sizes parts, Examined json artifacts args sizes parts ∧
        Reported json artifacts args parts.flatten summary := by
  unfold examine
  constructor
  · intro examined
    obtain ⟨sizes, sized, examined⟩ := bind_eq_ok.mp examined
    obtain ⟨bytes, examined⟩ := (raise_if_bind_ok _ _ _ _).mp examined
    obtain ⟨parts, read, examined⟩ := bind_eq_ok.mp examined
    obtain ⟨count, examined⟩ := (raise_if_bind_ok _ _ _ _).mp examined
    obtain ⟨chains, restored, examined⟩ := bind_eq_ok.mp examined
    obtain ⟨descriptors, described, same⟩ := bind_eq_ok.mp examined
    obtain ⟨unasked, restored⟩ := (when_given_iff _ _ _).mp restored
    obtain ⟨uncaptured, described⟩ := (when_given_iff _ _ _).mp described
    rw [decide_eq_false_iff_not, Nat.not_lt] at bytes count
    refine ⟨sizes, parts, ⟨?_, bytes, ?_, count⟩, ?_⟩
    · exact ((map_m_ok_iff _ _ _).mp sized).imp fun path size => (stat_iff artifacts path size).mp
    · exact ((map_m_ok_iff _ _ _).mp read).imp fun path records =>
        (read_path_iff json artifacts path records).mp
    · rw [← Except.ok.inj same]
      refine ⟨rfl, rfl, rfl, unasked, ?_, uncaptured, ?_⟩
      · intro requestId asked
        obtain ⟨episodes, found, accepted⟩ := restored requestId asked
        exact ⟨episodes, found, (restored_iff _ requestId episodes).mp accepted⟩
      · intro captureDir asked
        obtain ⟨inventories, found, accepted⟩ := described captureDir asked
        obtain ⟨listing, known, present, counted, correlated⟩ :=
          (described_iff json artifacts captureDir _ inventories).mp accepted
        exact ⟨listing, known, present, found.trans (congrArg some counted), correlated⟩
  · intro examined
    obtain ⟨sizes, parts, ⟨sized, bytes, read, count⟩, reported⟩ := examined
    refine bind_eq_ok.mpr ⟨sizes, ?_, ?_⟩
    · exact (map_m_ok_iff _ _ _).mpr (sized.imp fun path size => (stat_iff artifacts path size).mpr)
    refine (raise_if_bind_ok _ _ _ _).mpr ⟨decide_eq_false (Nat.not_lt.mpr bytes), ?_⟩
    refine bind_eq_ok.mpr ⟨parts, ?_, ?_⟩
    · exact (map_m_ok_iff _ _ _).mpr (read.imp fun path records =>
        (read_path_iff json artifacts path records).mpr)
    refine (raise_if_bind_ok _ _ _ _).mpr ⟨decide_eq_false (Nat.not_lt.mpr count), ?_⟩
    refine bind_eq_ok.mpr ⟨summary.completeRestoreEpisodes, ?_, ?_⟩
    · refine (when_given_iff _ _ _).mpr ⟨reported.unasked, ?_⟩
      intro requestId asked
      obtain ⟨episodes, found, restored⟩ := reported.restored requestId asked
      exact ⟨episodes, found, (restored_iff _ requestId episodes).mpr restored⟩
    refine bind_eq_ok.mpr ⟨summary.descriptorInventories, ?_, ?_⟩
    · refine (when_given_iff _ _ _).mpr ⟨reported.uncaptured, ?_⟩
      intro captureDir asked
      obtain ⟨listing, known, present, found, correlated⟩ := reported.described captureDir asked
      exact ⟨_, found, (described_iff json artifacts captureDir _ _).mpr
        ⟨listing, known, present, rfl, correlated⟩⟩
    · rw [← reported.events, ← reported.hostFacts, ← reported.correlated]

/-! ## Exceptions -/

/-- What the computation raises is caught. -/
def Contained {Result : Type} (computation : Py Result) : Prop :=
  ∀ error, computation = .error error → caught error = true

theorem contained_of_value_errors {Result : Type} {computation : Py Result}
    (errors : OnlyValueErrors computation) : Contained computation := by
  intro error raised
  obtain ⟨message, same⟩ := errors error raised
  rw [same]
  rfl

theorem contained_of_lookups {Result : Type} {overflow : Prop} {computation : Py Result}
    (errors : ValueErrorsUnless overflow computation) : Contained computation := by
  intro error raised
  rcases errors error raised with ⟨message, same⟩ | ⟨same, _⟩
  · rw [same]
    rfl
  · rw [same]
    rfl

theorem contained_bind {First Second : Type} {computation : Py First}
    {next : First → Py Second} (first : Contained computation)
    (second : ∀ value, Contained (next value)) : Contained (computation >>= next) := by
  intro error raised
  rcases bind_eq_error.mp raised with failed | ⟨value, _, failed⟩
  · exact first error failed
  · exact second value error failed

theorem contained_map_m {Item Result : Type} {read : Item → Py Result}
    (every : ∀ item, Contained (read item)) (items : List Item) :
    Contained (items.mapM read) := by
  induction items with
  | nil => exact contained_of_value_errors (OnlyValueErrors.ok [])
  | cons item items induction =>
      rw [List.mapM_cons]
      apply contained_bind (every item)
      intro first
      apply contained_bind induction
      intro rest
      exact contained_of_value_errors (OnlyValueErrors.ok (first :: rest))

theorem contained_when_given {Value Result : Type} {value : Option Value}
    {check : Value → Py Result} (every : ∀ given, Contained (check given)) :
    Contained (whenGiven value check) := by
  cases value with
  | none => exact contained_of_value_errors (OnlyValueErrors.ok none)
  | some given =>
      intro error raised
      change (check given).map some = .error error at raised
      cases result : check given with
      | ok answer =>
          rw [result] at raised
          cases raised
      | error other =>
          rw [result] at raised
          cases raised
          exact every given error result

theorem read_line_contained (loads : ∀ text, Contained (json.loads text))
    (state : Nat × List EventRecord) (line : Bytes) : Contained (readLine json state line) := by
  unfold readLine
  apply contained_bind (contained_of_value_errors (OnlyValueErrors.raiseIf _ _))
  intro _
  split
  · exact contained_of_value_errors (OnlyValueErrors.ok _)
  · apply contained_bind (contained_of_value_errors (OnlyValueErrors.raiseIf _ _))
    intro _
    apply contained_bind
    · apply contained_bind (loads line)
      intro parsed
      exact contained_of_value_errors (hooked_errors parsed)
    intro payload
    apply contained_bind
      (contained_of_lookups (EventReaders.record_from_payload_errors payload))
    intro record
    exact contained_of_value_errors (OnlyValueErrors.ok _)

theorem read_path_contained (loads : ∀ text, Contained (json.loads text)) (path : String) :
    Contained (readPath json artifacts path) := by
  unfold readPath
  cases artifacts.content path with
  | none =>
      intro error raised
      cases raised
      rfl
  | some file =>
      apply contained_bind
      · intro error stopped
        obtain ⟨line, _, reached, failed⟩ := OnlineCheck.fold_error _ _ error stopped
        exact read_line_contained json loads reached line error failed
      intro state
      apply contained_bind (contained_of_value_errors (OnlyValueErrors.raiseIf _ _))
      intro _
      exact contained_of_value_errors (OnlyValueErrors.ok _)

theorem descriptors_contained (loads : ∀ text, Contained (json.loads text))
    (captureDir : String) (records : List EventRecord) :
    Contained (validateDescriptors json (artifacts.directory captureDir) records) := by
  cases artifacts.directory captureDir with
  | none =>
      apply contained_bind
        (contained_of_value_errors (OnlyValueErrors.foldlM add_owner_errors records ∅))
      intro transfers
      exact contained_of_value_errors (OnlyValueErrors.valueError _)
  | some listing =>
      intro error raised
      rcases validate_descriptors_errors json listing records error raised with
        ⟨message, same⟩ | ⟨file, _, _, failed | ⟨same, _⟩⟩
      · rw [same]
        rfl
      · exact loads file error failed
      · rw [same]
        rfl

theorem examine_contained (loads : ∀ text, Contained (json.loads text)) :
    Contained (examine json artifacts args) := by
  unfold examine
  apply contained_bind
  · apply contained_map_m
    intro path
    unfold stat
    cases artifacts.size path with
    | none =>
        intro error raised
        cases raised
        rfl
    | some size => exact contained_of_value_errors (OnlyValueErrors.ok size)
  intro sizes
  apply contained_bind (contained_of_value_errors (OnlyValueErrors.raiseIf _ _))
  intro _
  apply contained_bind (contained_map_m (read_path_contained json artifacts loads) args.events)
  intro parts
  apply contained_bind (contained_of_value_errors (OnlyValueErrors.raiseIf _ _))
  intro _
  apply contained_bind
  · apply contained_when_given
    intro requestId
    exact contained_of_value_errors (ValidationErrors.validate_errors parts.flatten requestId)
  intro chains
  apply contained_bind
  · apply contained_when_given
    intro captureDir
    exact descriptors_contained json artifacts loads captureDir parts.flatten
  intro descriptors
  exact contained_of_value_errors (OnlyValueErrors.ok _)

theorem main_passed_iff (summary : Summary) :
    main json artifacts args = .passed summary ↔ examine json artifacts args = .ok summary := by
  unfold main
  cases examine json artifacts args with
  | ok other =>
      exact ⟨fun same => congrArg Except.ok (Exit.passed.inj same),
        fun same => congrArg Exit.passed (Except.ok.inj same)⟩
  | error error =>
      refine ⟨fun passed => ?_, nofun⟩
      dsimp only at passed
      split at passed
      · cases passed
      · cases passed

theorem main_rejected (loads : ∀ text, Contained (json.loads text))
    (refused : ∀ summary, main json artifacts args ≠ .passed summary) :
    main json artifacts args = .rejected := by
  unfold main at refused ⊢
  cases result : examine json artifacts args with
  | ok summary =>
      rw [result] at refused
      exact absurd rfl (refused summary)
  | error error =>
      have contained := examine_contained json artifacts args loads error result
      dsimp only
      rw [if_pos contained]

end Verdict

end KVTransferObservability.CommandLine
