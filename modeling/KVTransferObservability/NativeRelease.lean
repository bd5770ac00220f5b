import KVTransferObservability.NativeInFlight

/-!
# What a terminal record releases

The binding lets go of its entry once it has built a source observation, whatever
the adapter answers. The normalizer lets go of the transfer only if it accepts the
observation.
-/

namespace KVTransferObservability.NativeRelease

open Library PythonValues Schema HostFacts Normalization Adapter Native ScopedIds
open NormalizerTransitions NativeDelivery NativeInFlight

set_option autoImplicit false

section Reading

variable {World : Type} (binding : VllmOffloadingObserverBinding World) (record : HostRecord)

theorem submits_not_terminates (jobId other : Nat) (entry : PendingTransfer)
    (submission : CoreTransferSubmitted) (source : SourceObservation)
    (submits : Submits binding record jobId submission) :
    ¬ Terminates binding record other entry source := by
  intro terminates
  obtain ⟨event, name, kind, _⟩ := terminates.source
  have submitted := submits.event
  rw [name] at submitted
  cases submitted
  exact absurd kind (by decide)

/-- A record submits at most one source observation. -/
theorem submits_unique (first second : Nat) (source other : CoreTransferSubmitted)
    (left : Submits binding record first source)
    (right : Submits binding record second other) : source = other := by
  have identity := left.identity.symm.trans right.identity
  have operation := left.operation.symm.trans right.operation
  have job := left.job.symm.trans right.job
  cases job
  obtain ⟨blockCount, blocks, built⟩ := left.source
  obtain ⟨otherCount, otherBlocks, otherBuilt⟩ := right.source
  rw [blocks] at otherBlocks
  cases otherBlocks
  rw [Option.some.inj identity, Option.some.inj (Except.ok.inj operation), otherBuilt] at built
  cases built
  rfl

/-- A record terminates at most one entry, with one source observation. -/
theorem terminates_unique (first second : Nat) (one other : PendingTransfer)
    (source again : SourceObservation)
    (left : Terminates binding record first one source)
    (right : Terminates binding record second other again) :
    first = second ∧ one = other ∧ source = again := by
  obtain ⟨key, hashed, found⟩ := left.key
  obtain ⟨sameKey, hashedAgain, foundAgain⟩ := right.key
  rw [hashed] at hashedAgain
  cases hashedAgain
  rw [found] at foundAgain
  cases foundAgain
  obtain ⟨event, name, _, built⟩ := left.source
  obtain ⟨sameEvent, nameAgain, _, builtAgain⟩ := right.source
  rw [name] at nameAgain
  cases nameAgain
  rw [built] at builtAgain
  cases builtAgain
  exact ⟨rfl, rfl, rfl⟩

end Reading

section Releases

variable {Sink : Type} (emit : Sink → EventRecord → Py Bool × Sink)
variable {transfers admissions : Nat} {retain : Bool} {system after : System Sink}
variable {normalizer next : LifecycleNormalizer}

/-- A record that does not terminate the entry leaves it in both tables. -/
theorem kept_in_both (holds : InFlight transfers admissions retain system normalizer)
    (record : HostRecord) (sink : Sink) (jobId : Nat) (entry : PendingTransfer)
    (submission : CoreTransferSubmitted)
    (found : system.binding.pending.lookup jobId = some entry)
    (submitted : normalizer.pending.lookup entry.transfer = some submission)
    (other : ∀ source, ¬ Terminates system.binding record jobId entry source)
    (delivery : Delivery emit system record normalizer sink after next) :
    jobId ∈ after.binding.pending ∧ entry.transfer ∈ next.pending := by
  have present : jobId ∈ system.binding.pending := Dict.mem_of_lookup found
  have pending : entry.transfer ∈ normalizer.pending := Dict.mem_of_lookup submitted
  cases delivery with
  | submitted otherJob source taken after submits accepts binding =>
      constructor
      · rw [binding]
        split
        · exact Finmap.mem_insert.mpr (Or.inr present)
        · exact present
      · obtain ⟨result, _, transition⟩ := normalize_transition normalizer (.submitted source)
        rcases submission_pending normalizer _ source result transition
          with ⟨_, same⟩ | ⟨_, _, _, grown⟩
        · rw [same]
          exact pending
        · rw [grown]
          exact Finmap.mem_insert.mpr (Or.inr pending)
  | terminal otherJob otherEntry source after terminates binding =>
      have otherFound := terminates_found system.binding record otherJob otherEntry source
        terminates
      have different : jobId ≠ otherJob := by
        intro same
        rw [same, otherFound] at found
        cases found
        rw [same] at other
        exact other source terminates
      have otherScope := holds.transfer otherJob otherEntry otherFound
      constructor
      · rw [binding]
        exact Finmap.mem_erase.mpr ⟨different, present⟩
      · have sourced := terminates_well_sourced system.binding record otherJob otherEntry source
          otherScope terminates
        obtain ⟨result, _, transition⟩ := normalize_transition normalizer source
        rcases terminal_pending normalizer _ otherEntry.transfer source sourced.terminal result
          transition with same | shrunk
        · rw [same]
          exact pending
        · have otherTransfer : entry.transfer ≠ otherEntry.transfer := by
            intro same
            have scope := holds.transfer jobId entry found
            rw [same] at scope
            exact different (transfer_of_injective system.binding jobId otherJob
              otherEntry.transfer scope otherScope)
          rw [shrunk]
          exact Finmap.mem_erase.mpr ⟨otherTransfer, pending⟩
  | idle after noSubmission noTerminal binding =>
      rw [binding]
      exact ⟨present, pending⟩

/-- A record that terminates the entry takes it out of the binding; the normalizer
follows exactly if the source observation fits the submission. -/
theorem released_by_terminal (holds : InFlight transfers admissions retain system normalizer)
    (record : HostRecord) (sink : Sink) (jobId : Nat) (entry : PendingTransfer)
    (submission : CoreTransferSubmitted) (source : SourceObservation)
    (submitted : normalizer.pending.lookup entry.transfer = some submission)
    (terminates : Terminates system.binding record jobId entry source)
    (delivery : Delivery emit system record normalizer sink after next) :
    jobId ∉ after.binding.pending ∧
      (entry.transfer ∉ next.pending ↔
        normalizer.evidenceValid = true ∧ Fits submission source) := by
  have found := terminates_found system.binding record jobId entry source terminates
  cases delivery with
  | submitted otherJob other taken after submits accepts binding =>
      exact absurd terminates
        (submits_not_terminates system.binding record otherJob jobId entry other source submits)
  | terminal otherJob otherEntry other after terminatesOther binding =>
      obtain ⟨rfl, rfl, rfl⟩ := terminates_unique system.binding record jobId otherJob entry
        otherEntry source other terminates terminatesOther
      constructor
      · rw [binding]
        exact fun member => (Finmap.mem_erase.mp member).1 rfl
      · obtain ⟨pending, lookup, _, operation⟩ := holds.pending jobId entry found
        rw [submitted] at lookup
        cases lookup
        have sourced := terminates_well_sourced system.binding record jobId entry source
          (holds.transfer jobId entry found) terminates
        rw [← operation] at sourced
        exact terminal_closes_iff normalizer submission entry.transfer source holds.opened
          submitted sourced
  | idle after noSubmission noTerminal binding =>
      exact absurd terminates (noTerminal jobId entry source)

end Releases

/-- In every reachable system, a record leaves a job that both tables hold in both or
in neither exactly when every source observation the binding builds from it for this
job fits the submission while the evidence is valid. -/
theorem released_in_both_iff_terminal_fits {Sink : Type}
    (emit : Sink → EventRecord → Py Bool × Sink) (processUuid : ProcessUuid)
    (transfers admissions : Nat) (retain : Bool) (sink : Sink) (before : List HostRecord)
    (record : HostRecord) (system : System Sink)
    (reached : system = Machine.finalState deliver
      (attached emit processUuid transfers admissions retain sink) before)
    (jobId : Nat) (entry : PendingTransfer) (normalizer : LifecycleNormalizer)
    (submission : CoreTransferSubmitted)
    (found : system.binding.pending.lookup jobId = some entry)
    (serves : system.adapter.normalizer = some normalizer)
    (submitted : normalizer.pending.lookup entry.transfer = some submission) :
    (jobId ∈ (deliver system record).2.binding.pending ↔
        Held (deliver system record).2 entry.transfer) ↔
      ∀ source, Terminates system.binding record jobId entry source →
        normalizer.evidenceValid = true ∧ Fits submission source := by
  obtain ⟨served, nextSink, running, holds⟩ :=
    reachable_in_flight emit processUuid transfers admissions retain sink before
  rw [← reached] at running holds
  have same := running.serving.normalizer
  rw [serves] at same
  cases same
  obtain ⟨next, lastSink, still, delivery⟩ :=
    deliver_delivery emit system record processUuid normalizer nextSink running
  rw [held_iff emit processUuid lastSink entry.transfer still]
  by_cases termination : ∃ source, Terminates system.binding record jobId entry source
  · obtain ⟨source, terminates⟩ := termination
    obtain ⟨released, closes⟩ := released_by_terminal emit holds record nextSink jobId entry
      submission source submitted terminates delivery
    constructor
    · intro both other terminatesOther
      obtain ⟨_, _, rfl⟩ := terminates_unique system.binding record jobId jobId entry entry
        source other terminates terminatesOther
      exact closes.mp fun member => released (both.mpr member)
    · intro fits
      have closed := closes.mpr (fits source terminates)
      exact ⟨fun member => absurd member released, fun member => absurd member closed⟩
  · have other : ∀ source, ¬ Terminates system.binding record jobId entry source :=
      fun source terminates => termination ⟨source, terminates⟩
    obtain ⟨kept, pending⟩ := kept_in_both emit holds record nextSink jobId entry submission
      found submitted other delivery
    constructor
    · intro _ source terminates
      exact absurd terminates (other source)
    · intro _
      exact ⟨fun _ => pending, fun _ => kept⟩

def sampleSource : CoreTransferSubmitted := submissionSource ⟨7, job_seven⟩

/-- The binding and the adapter after one submission that the sink took. -/
def submittedSystem : System Unit :=
  Machine.finalState deliver
    (attached (constantSink true) sampleProcess maxBindingTransfers 4 false ())
    [submissionRecord 7]

def sampleNormalizer : LifecycleNormalizer :=
  ((fresh maxBindingTransfers 4 false).normalize (.submitted sampleSource)).2

theorem released_in_both_reported_bytes :
    (7 ∈ (deliver submittedSystem (completionRecord 7 (.int 4096))).2.binding.pending ↔
        Held (deliver submittedSystem (completionRecord 7 (.int 4096))).2
          (entryOf sampleSource).transfer) ↔
      ∀ source,
        Terminates submittedSystem.binding (completionRecord 7 (.int 4096)) 7
          (entryOf sampleSource) source →
        sampleNormalizer.evidenceValid = true ∧ Fits sampleSource source :=
  released_in_both_iff_terminal_fits (constantSink true) sampleProcess maxBindingTransfers 4
    false () [submissionRecord 7] (completionRecord 7 (.int 4096)) submittedSystem rfl 7
    (entryOf sampleSource) sampleNormalizer sampleSource (by decide +kernel) rfl
    (by decide +kernel)

/-- A completion that reports success without a byte count frees the job in the
binding and leaves its transfer pending in the normalizer. -/
theorem missing_bytes_release_one_layer :
    7 ∈ submittedSystem.binding.pending ∧
      Held submittedSystem (entryOf sampleSource).transfer ∧
      ¬ (7 ∈ (deliver submittedSystem (completionRecord 7 .none)).2.binding.pending ↔
          Held (deliver submittedSystem (completionRecord 7 .none)).2
            (entryOf sampleSource).transfer) := by
  decide +kernel

end KVTransferObservability.NativeRelease
