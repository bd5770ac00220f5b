import KVTransferObservability.NativeRelease

/-!
# When transfer-only observation switches itself off

The binding bounds its own table and the normalizer bounds its own. The first bound
protects the second only as long as nothing leaks: a submission the sink did not
take, or a terminal observation the normalizer rejects, stays pending in the
normalizer when the binding has no entry for it.
-/

namespace KVTransferObservability.NativeExhaustion

open Library PythonValues Schema Observation HostFacts Normalization Adapter Native ScopedIds
open NormalizerTransitions NormalizerTables NativeDelivery NativeInFlight NativeRelease

set_option autoImplicit false

/-- Evidence is valid and nothing was dropped for capacity. -/
structure Sound (normalizer : LifecycleNormalizer) : Prop where
  valid : normalizer.evidenceValid = true
  dropped : normalizer.counterValues.capacityDropped = 0

/-- The submission would need a place the normalizer does not have. -/
structure Overflows (normalizer : LifecycleNormalizer) (source : CoreTransferSubmitted) :
    Prop where
  absent : source.transfer ∉ normalizer.pending
  full : normalizer.maxCorrelatedTransfers ≤ normalizer.pending.size

section Normalizer

variable (self next : LifecycleNormalizer) (result : Option KVTransferObservation)

theorem submission_sound_iff (source : CoreTransferSubmitted) (opened : self.closed = false)
    (sound : Sound self) (unfinished : source.transfer ∉ self.completedRestores)
    (transition : Transition self (.normalize (.submitted source)) result next) :
    Sound next ↔ ¬ Overflows self source := by
  cases transition with
  | afterClose source closed =>
      rw [opened] at closed
      cases closed
  | afterLoss source opened lost =>
      rw [sound.valid] at lost
      cases lost
  | handled source result next opened valid outcome =>
      cases outcome with
      | refused source reason =>
          constructor
          · intro _ overflows
            cases reason with
            | duplicate source known =>
                exact known.elim overflows.absent unfinished
          · intro _
            exact ⟨sound.valid, sound.dropped⟩
      | submissionFull source absent unfinished full =>
          constructor
          · intro after
            cases after.valid
          · intro room
            exact absurd ⟨absent, full⟩ room
      | started source record fields absent unfinished room =>
          constructor
          · intro _ overflows
            exact absurd overflows.full (Nat.not_le.mpr room)
          · intro _
            exact ⟨sound.valid, sound.dropped⟩

theorem submission_starts (source : CoreTransferSubmitted) (opened : self.closed = false)
    (sound : Sound self) (absent : source.transfer ∉ self.pending)
    (unfinished : source.transfer ∉ self.completedRestores)
    (room : self.pending.size < self.maxCorrelatedTransfers)
    (transition : Transition self (.normalize (.submitted source)) result next) :
    next.pending = self.pending.insert source.transfer source := by
  cases transition with
  | afterClose source closed =>
      rw [opened] at closed
      cases closed
  | afterLoss source opened lost =>
      rw [sound.valid] at lost
      cases lost
  | handled source result next opened valid outcome =>
      cases outcome with
      | refused source reason =>
          cases reason with
          | duplicate source known => exact absurd known (not_or.mpr ⟨absent, unfinished⟩)
      | submissionFull source absent unfinished full => exact absurd full (Nat.not_le.mpr room)
      | started source record fields absent unfinished room => rfl

theorem terminal_sound (transfer : TransferIdentity) (source : SourceObservation)
    (terminal : TerminalOf transfer source) (opened : self.closed = false)
    (worker : self.retainRestoreReceipts = false) (sound : Sound self)
    (transition : Transition self (.normalize source) result next) : Sound next := by
  cases transition with
  | afterClose source closed =>
      rw [opened] at closed
      cases closed
  | afterLoss source opened lost =>
      rw [sound.valid] at lost
      cases lost
  | handled source result next opened valid outcome =>
      cases terminal with
      | completed source same =>
          cases outcome with
          | completionFull source pending receipt matched retained full =>
              rw [worker] at retained
              cases retained
          | _ => exact ⟨sound.valid, sound.dropped⟩
      | cancelled source same =>
          cases outcome with
          | _ => exact ⟨sound.valid, sound.dropped⟩

end Normalizer

section Systems

variable {Sink : Type} (emit : Sink → EventRecord → Py Bool × Sink)

/-- The adapter's normalizer is sound. -/
def Healthy (system : System Sink) : Prop :=
  ∃ normalizer, system.adapter.normalizer = some normalizer ∧ Sound normalizer

/-- The record makes the binding forward a submission that overflows the
normalizer. -/
def Exhausts (system : System Sink) (record : HostRecord) : Prop :=
  ∃ jobId source normalizer, Submits system.binding record jobId source ∧
    system.adapter.normalizer = some normalizer ∧ Overflows normalizer source

/-- The record leaves a transfer in the normalizer that the binding does not hold:
the normalizer starts a submission that the sink does not take, or the binding
forwards a terminal observation that does not fit the submission. -/
inductive Leaks (system : System Sink) (record : HostRecord) : Prop
  | untaken (jobId : Nat) (source : CoreTransferSubmitted) (normalizer : LifecycleNormalizer)
      (sink : Sink) (observation : KVTransferObservation)
      (submits : Submits system.binding record jobId source)
      (serves : system.adapter.normalizer = some normalizer)
      (writes : system.adapter.sink = some sink)
      (started : (normalizer.normalize (.submitted source)).1 = .ok (some observation))
      (refused : (emit sink (.canonical observation)).1 ≠ .ok true)
  | unfitting (jobId : Nat) (entry : PendingTransfer) (source : SourceObservation)
      (normalizer : LifecycleNormalizer) (submission : CoreTransferSubmitted)
      (terminates : Terminates system.binding record jobId entry source)
      (serves : system.adapter.normalizer = some normalizer)
      (found : normalizer.pending.lookup entry.transfer = some submission)
      (unfit : ¬ Fits submission source)

variable {processUuid : ProcessUuid} {admissions : Nat} {system after : System Sink}
variable {normalizer next : LifecycleNormalizer} {sink : Sink}

theorem healthy_iff (running : Running emit processUuid system normalizer sink) :
    Healthy system ↔ Sound normalizer := by
  constructor
  · rintro ⟨other, serves, sound⟩
    rw [running.serving.normalizer] at serves
    cases serves
    exact sound
  · intro sound
    exact ⟨normalizer, running.serving.normalizer, sound⟩

theorem exhausts_iff (record : HostRecord) (jobId : Nat) (source : CoreTransferSubmitted)
    (running : Running emit processUuid system normalizer sink)
    (submits : Submits system.binding record jobId source) :
    Exhausts system record ↔ Overflows normalizer source := by
  constructor
  · rintro ⟨otherJob, other, served, submitsOther, serves, overflows⟩
    rw [running.serving.normalizer] at serves
    cases serves
    rw [submits_unique system.binding record jobId otherJob source other submits submitsOther]
    exact overflows
  · intro overflows
    exact ⟨jobId, source, normalizer, submits, running.serving.normalizer, overflows⟩

/-- One record keeps a worker-only normalizer sound exactly if it does not exhaust
it. -/
theorem delivery_sound_iff (record : HostRecord)
    (running : Running emit processUuid system normalizer sink)
    (holds : InFlight maxBindingTransfers admissions false system normalizer)
    (sound : Sound normalizer)
    (delivery : Delivery emit system record normalizer sink after next) :
    Sound next ↔ ¬ Exhausts system record := by
  cases delivery with
  | submitted jobId source taken after submits accepts binding =>
      rw [exhausts_iff emit record jobId source running submits]
      obtain ⟨result, _, transition⟩ := normalize_transition normalizer (.submitted source)
      apply submission_sound_iff normalizer _ result source holds.opened sound ?_ transition
      rw [(holds.tables.workerOnly holds.settings.retain).1]
      exact Finmap.notMem_empty
  | terminal jobId entry source after terminates binding =>
      have found := terminates_found system.binding record jobId entry source terminates
      have sourced := terminates_well_sourced system.binding record jobId entry source
        (holds.transfer jobId entry found) terminates
      obtain ⟨result, _, transition⟩ := normalize_transition normalizer source
      constructor
      · rintro _ ⟨otherJob, other, served, submits, _, _⟩
        exact submits_not_terminates system.binding record otherJob jobId entry other source
          submits terminates
      · intro _
        exact terminal_sound normalizer _ result entry.transfer source sourced.terminal
          holds.opened holds.settings.retain sound transition
  | idle after noSubmission noTerminal binding =>
      constructor
      · rintro _ ⟨jobId, source, served, submits, _, _⟩
        exact noSubmission jobId source submits
      · intro _
        exact sound

/-! ## Runs that leak nothing -/

/-- The normalizer holds nothing that the binding does not hold. -/
def Covered (system : System Sink) (normalizer : LifecycleNormalizer) : Prop :=
  ∀ transfer ∈ normalizer.pending, ∃ jobId entry,
    system.binding.pending.lookup jobId = some entry ∧ entry.transfer = transfer

theorem covered_size (covered : Covered system normalizer) :
    normalizer.pending.size ≤ system.binding.pending.size := by
  have choice : ∀ transfer, ∃ jobId, transfer ∈ normalizer.pending →
      ∃ entry, system.binding.pending.lookup jobId = some entry ∧ entry.transfer = transfer := by
    intro transfer
    by_cases present : transfer ∈ normalizer.pending
    · obtain ⟨jobId, entry, found⟩ := covered transfer present
      exact ⟨jobId, fun _ => ⟨entry, found⟩⟩
    · exact ⟨0, fun member => absurd member present⟩
  choose jobOf jobFound using choice
  apply Dict.size_le_of_injection normalizer.pending system.binding.pending jobOf
  · intro first firstMember second secondMember same
    obtain ⟨one, found, transfer⟩ := jobFound first firstMember
    obtain ⟨other, foundOther, transferOther⟩ := jobFound second secondMember
    rw [same, foundOther] at found
    cases found
    exact transfer.symm.trans transferOther
  · intro transfer member
    obtain ⟨entry, found, _⟩ := jobFound transfer member
    exact Dict.mem_of_lookup found

theorem covered_not_exhausted (record : HostRecord)
    (running : Running emit processUuid system normalizer sink)
    (holds : InFlight maxBindingTransfers admissions false system normalizer)
    (covered : Covered system normalizer) : ¬ Exhausts system record := by
  rintro ⟨jobId, source, served, submits, serves, overflows⟩
  rw [running.serving.normalizer] at serves
  cases serves
  have full := overflows.full
  rw [holds.settings.transfers] at full
  have room := submits.room
  have bound := covered_size covered
  omega

theorem covered_submitted (record : HostRecord) (jobId : Nat) (source : CoreTransferSubmitted)
    (taken : Bool) (running : Running emit processUuid system normalizer sink)
    (covered : Covered system normalizer) (tight : ¬ Leaks emit system record)
    (submits : Submits system.binding record jobId source)
    (accepts : taken = true ↔ Accepts emit normalizer sink (.submitted source))
    (binding : after.binding = if taken = true then
        { system.binding with
          pending := system.binding.pending.insert jobId (entryOf source) }
      else system.binding) :
    Covered after (normalizer.normalize (.submitted source)).2 := by
  obtain ⟨result, answer, transition⟩ := normalize_transition normalizer (.submitted source)
  have kept : ∀ transfer ∈ normalizer.pending, ∃ job entry,
      after.binding.pending.lookup job = some entry ∧ entry.transfer = transfer := by
    intro transfer member
    obtain ⟨job, entry, found, same⟩ := covered transfer member
    refine ⟨job, entry, ?_, same⟩
    rw [binding]
    split
    · have different : job ≠ jobId := by
        intro same
        rw [same] at found
        exact submits.fresh (Dict.mem_of_lookup found)
      rw [Dict.lookup_insert_ite, if_neg different]
      exact found
    · exact found
  rcases submission_pending normalizer _ source result transition
    with ⟨_, same⟩ | ⟨observation, started, _, grown⟩
  · intro transfer member
    rw [same] at member
    exact kept transfer member
  · intro transfer member
    rw [grown] at member
    rcases Finmap.mem_insert.mp member with same | before
    · have written : taken = true := by
        rw [started] at answer
        apply accepts.mpr
        refine ⟨observation, answer, ?_⟩
        by_contra refused
        exact tight (.untaken jobId source normalizer sink observation submits
          running.serving.normalizer running.serving.sink answer refused)
      refine ⟨jobId, entryOf source, ?_, same.symm⟩
      rw [binding, if_pos written, Dict.lookup_insert_ite]
      exact if_pos rfl
    · exact kept transfer before

theorem covered_terminated (record : HostRecord) (jobId : Nat) (entry : PendingTransfer)
    (source : SourceObservation) (running : Running emit processUuid system normalizer sink)
    (holds : InFlight maxBindingTransfers admissions false system normalizer)
    (sound : Sound normalizer) (covered : Covered system normalizer)
    (tight : ¬ Leaks emit system record)
    (terminates : Terminates system.binding record jobId entry source)
    (binding : after.binding = { system.binding with
      pending := system.binding.pending.erase jobId }) :
    Covered after (normalizer.normalize source).2 := by
  have found := terminates_found system.binding record jobId entry source terminates
  have sourced := terminates_well_sourced system.binding record jobId entry source
    (holds.transfer jobId entry found) terminates
  obtain ⟨submission, submitted, _, operation⟩ := holds.pending jobId entry found
  have fits : Fits submission source := by
    by_contra unfit
    exact tight (.unfitting jobId entry source normalizer submission terminates
      running.serving.normalizer submitted unfit)
  have closed : entry.transfer ∉ (normalizer.normalize source).2.pending := by
    rw [terminal_closes_iff normalizer submission entry.transfer source holds.opened submitted
      (operation ▸ sourced)]
    exact ⟨sound.valid, fits⟩
  obtain ⟨result, _, transition⟩ := normalize_transition normalizer source
  have shrunk := terminal_pending normalizer _ entry.transfer source sourced.terminal result
    transition
  intro transfer member
  have different : transfer ≠ entry.transfer := by
    intro same
    rw [same] at member
    exact closed member
  have before : transfer ∈ normalizer.pending := by
    rcases shrunk with same | less
    · rw [same] at member
      exact member
    · rw [less] at member
      exact (Finmap.mem_erase.mp member).2
  obtain ⟨job, other, present, same⟩ := covered transfer before
  have otherJob : job ≠ jobId := by
    intro sameJob
    rw [sameJob, found] at present
    cases present
    exact different same.symm
  refine ⟨job, other, ?_, same⟩
  rw [binding, Dict.lookup_erase_ite, if_neg otherJob]
  exact present

theorem covered_delivery (record : HostRecord)
    (running : Running emit processUuid system normalizer sink)
    (holds : InFlight maxBindingTransfers admissions false system normalizer)
    (sound : Sound normalizer) (covered : Covered system normalizer)
    (tight : ¬ Leaks emit system record)
    (delivery : Delivery emit system record normalizer sink after next) :
    Covered after next := by
  cases delivery with
  | submitted jobId source taken after submits accepts binding =>
      exact covered_submitted emit record jobId source taken running covered tight submits
        accepts binding
  | terminal jobId entry source after terminates binding =>
      exact covered_terminated emit record jobId entry source running holds sound covered tight
        terminates binding
  | idle after noSubmission noTerminal binding =>
      unfold Covered
      rw [binding]
      exact covered

/-! ## Runs -/

section Runs

variable (processUuid) (admissions) (sink)

/-- The binding registered on an adapter configured for transfers only. -/
def transferOnly : System Sink :=
  attached emit processUuid maxBindingTransfers admissions false sink

/-- A running system whose normalizer is sound. -/
def SoundRun (system : System Sink) : Prop :=
  ∃ normalizer sink, Running emit processUuid system normalizer sink ∧
    InFlight maxBindingTransfers admissions false system normalizer ∧ Sound normalizer

theorem transfer_only_sound :
    SoundRun emit processUuid admissions (transferOnly emit processUuid admissions sink) :=
  ⟨fresh maxBindingTransfers admissions false, sink, ⟨rfl, rfl, ⟨rfl, rfl, rfl⟩⟩,
    attached_in_flight emit processUuid maxBindingTransfers admissions false sink, ⟨rfl, rfl⟩⟩

theorem SoundRun.deliver_iff (record : HostRecord)
    (run : SoundRun emit processUuid admissions system) :
    (Healthy (deliver system record).2 ↔ ¬ Exhausts system record) ∧
      (Healthy (deliver system record).2 →
        SoundRun emit processUuid admissions (deliver system record).2) := by
  obtain ⟨normalizer, before, running, holds, sound⟩ := run
  obtain ⟨next, nextSink, still, delivery⟩ :=
    deliver_delivery emit system record processUuid normalizer before running
  rw [healthy_iff emit still]
  constructor
  · exact delivery_sound_iff emit record running holds sound delivery
  · intro after
    exact ⟨next, nextSink, still, holds.delivery emit record before next delivery, after⟩

theorem SoundRun.healthy (run : SoundRun emit processUuid admissions system) :
    Healthy system := by
  obtain ⟨normalizer, before, running, _, sound⟩ := run
  exact (healthy_iff emit running).mpr sound

theorem sound_run_of_not_exhausted (records : List HostRecord)
    (spared : Machine.Along deliver (fun system record => ¬ Exhausts system record)
      (transferOnly emit processUuid admissions sink) records) :
    SoundRun emit processUuid admissions
      (Machine.finalState deliver (transferOnly emit processUuid admissions sink) records) := by
  apply Machine.invariant_along deliver (SoundRun emit processUuid admissions)
    (fun system record => ¬ Exhausts system record)
  · intro system record run room
    obtain ⟨healthy, next⟩ := SoundRun.deliver_iff emit processUuid admissions record run
    exact next (healthy.mpr room)
  · exact transfer_only_sound emit processUuid admissions sink
  · exact spared

/-- Without leaks the normalizer holds what the binding holds, so its table is never
full when the binding has room. -/
theorem not_exhausted_of_no_leak (records : List HostRecord)
    (tight : Machine.Along deliver (fun system record => ¬ Leaks emit system record)
      (transferOnly emit processUuid admissions sink) records) :
    Machine.Along deliver (fun system record => ¬ Exhausts system record)
      (transferOnly emit processUuid admissions sink) records := by
  rw [Machine.along_iff] at tight ⊢
  intro before record after split
  have covered := Machine.invariant_along deliver
    (fun system => ∃ normalizer sink, Running emit processUuid system normalizer sink ∧
      InFlight maxBindingTransfers admissions false system normalizer ∧ Sound normalizer ∧
      Covered system normalizer)
    (fun system record => ¬ Leaks emit system record)
    (by
      rintro system record ⟨normalizer, before, running, holds, sound, covered⟩ tight
      obtain ⟨next, nextSink, still, delivery⟩ :=
        deliver_delivery emit system record processUuid normalizer before running
      have room := covered_not_exhausted emit record running holds covered
      exact ⟨next, nextSink, still, holds.delivery emit record before next delivery,
        (delivery_sound_iff emit record running holds sound delivery).mpr room,
        covered_delivery emit record running holds sound covered tight delivery⟩)
    (transferOnly emit processUuid admissions sink) before
    ⟨fresh maxBindingTransfers admissions false, sink, ⟨rfl, rfl, ⟨rfl, rfl, rfl⟩⟩,
      attached_in_flight emit processUuid maxBindingTransfers admissions false sink,
      ⟨rfl, rfl⟩, fun transfer member => absurd member Finmap.notMem_empty⟩
    (by
      rw [Machine.along_iff]
      intro earlier item later splitBefore
      exact tight earlier item (later ++ record :: after) (by rw [split, splitBefore]; simp))
  obtain ⟨normalizer, nextSink, running, holds, _, covered⟩ := covered
  exact covered_not_exhausted emit record running holds covered

end Runs

end Systems

/-- Transfer-only observation stays valid in every state of a run exactly if no
record of the run exhausts the normalizer, and a run that leaks nothing never does. -/
theorem stays_healthy_iff_never_exhausted {Sink : Type}
    (emit : Sink → EventRecord → Py Bool × Sink) (processUuid : ProcessUuid)
    (admissions : Nat) (sink : Sink) (records : List HostRecord) :
    ((∀ before after, records = before ++ after → Healthy
        (Machine.finalState deliver (transferOnly emit processUuid admissions sink) before)) ↔
      Machine.Along deliver (fun system record => ¬ Exhausts system record)
        (transferOnly emit processUuid admissions sink) records) ∧
    (Machine.Along deliver (fun system record => ¬ Leaks emit system record)
        (transferOnly emit processUuid admissions sink) records →
      Machine.Along deliver (fun system record => ¬ Exhausts system record)
        (transferOnly emit processUuid admissions sink) records) := by
  constructor
  · constructor
    · intro every
      induction records using List.reverseRecOn with
      | nil => trivial
      | append_singleton records record induction =>
          have spared := induction fun before after split =>
            every before (after ++ [record]) (by rw [split, List.append_assoc])
          rw [Machine.along_append]
          refine ⟨spared, ?_, trivial⟩
          have run := sound_run_of_not_exhausted emit processUuid admissions sink records spared
          have healthy := every (records ++ [record]) [] (List.append_nil _).symm
          rw [Machine.final_state_append] at healthy
          exact (SoundRun.deliver_iff emit processUuid admissions record run).1.mp healthy
    · intro spared before after split
      rw [split, Machine.along_append] at spared
      exact (sound_run_of_not_exhausted emit processUuid admissions sink before
        spared.1).healthy
  · exact not_exhausted_of_no_leak emit processUuid admissions sink records

/-! ## A sink that never takes anything -/

section Refused

def submissionsUpTo (count : Nat) : List HostRecord := (List.range count).map submissionRecord

theorem submission_submits {World : Type} (binding : VllmOffloadingObserverBinding World)
    (process : binding.processUuid = sampleProcess) (jobId : Uint uint64Max)
    (absent : jobId.val ∉ binding.pending) (room : binding.pending.size < maxBindingTransfers) :
    Submits binding (submissionRecord jobId.val) jobId.val (submissionSource jobId) where
  event := rfl
  job := rfl
  identity := by
    have bounded : (jobId.val : Int) ≤ (uint64Max : Int) := Int.ofNat_le.mpr jobId.property
    have inRange : ¬ (¬ (0 ≤ (jobId.val : Int) ∧ (jobId.val : Int) ≤ uint64Max) ∨
        ¬ (0 ≤ (0 : Int) ∧ (0 : Int) ≤ uint32Max)) := by
      simp [bounded]
    have made : ObservationIdentity.make (.str "request-1")
        (.int (workerGenerationOf sampleProcess)) (.int 0) .none =
          .ok (submissionSource jobId).identity := rfl
    unfold VllmOffloadingObserverBinding.identityOf submissionRecord
    simp only [if_neg inRange, process, made]
  operation := rfl
  source := by
    refine ⟨4, rfl, ?_⟩
    unfold VllmOffloadingObserverBinding.submittedSource
    rw [transfer_of_job binding jobId, process]
    rfl
  fresh := absent
  room := room

/-- The state a refusing sink leads to: the binding holds nothing and the normalizer
one transfer for each submission so far. -/
structure Filled (count : Nat) (system : System Unit) (normalizer : LifecycleNormalizer) :
    Prop where
  running : Running (constantSink false) sampleProcess system normalizer ()
  holds : InFlight maxBindingTransfers 4 false system normalizer
  sound : Sound normalizer
  empty : system.binding.pending = ∅
  size : normalizer.pending.size = count
  jobs : ∀ transfer ∈ normalizer.pending, ∃ jobId : Uint uint64Max,
    jobId.val < count ∧ transfer = jobTransfer sampleProcess jobId

theorem job_transfer_injective (processUuid : ProcessUuid) (first second : Uint uint64Max)
    (same : jobTransfer processUuid first = jobTransfer processUuid second) :
    first.val = second.val := by
  have text := congrArg (fun transfer : TransferIdentity => transfer.value.toList) same
  change (String.ofList _).toList = (String.ofList _).toList at text
  rw [String.toList_ofList, String.toList_ofList] at text
  exact scoped_text_injective processUuid 't' first.val second.val text

theorem Filled.submits (count : Nat) (system : System Unit) (normalizer : LifecycleNormalizer)
    (filled : Filled count system normalizer) (bounded : count ≤ uint64Max) :
    Submits system.binding (submissionRecord count) count (submissionSource ⟨count, bounded⟩) := by
  apply submission_submits system.binding filled.running.processUuid ⟨count, bounded⟩
  · rw [filled.empty]
    exact Finmap.notMem_empty
  · rw [filled.empty, Dict.size_empty]
    decide

theorem Filled.absent (count : Nat) (system : System Unit) (normalizer : LifecycleNormalizer)
    (filled : Filled count system normalizer) (bounded : count ≤ uint64Max) :
    (submissionSource ⟨count, bounded⟩).transfer ∉ normalizer.pending := by
  intro present
  obtain ⟨jobId, earlier, same⟩ := filled.jobs _ present
  have equal := job_transfer_injective sampleProcess ⟨count, bounded⟩ jobId same
  dsimp only at equal
  omega

theorem filled_step (count : Nat) (system : System Unit) (normalizer : LifecycleNormalizer)
    (filled : Filled count system normalizer) (small : count < maxBindingTransfers) :
    ∃ next, Filled (count + 1) (deliver system (submissionRecord count)).2 next := by
  have bounded : count ≤ uint64Max := (Nat.le_of_lt small).trans (by decide)
  have submits := filled.submits count system normalizer bounded
  have absent := filled.absent count system normalizer bounded
  obtain ⟨next, nextSink, still, delivery⟩ := deliver_delivery (constantSink false) system
    (submissionRecord count) sampleProcess normalizer () filled.running
  have holds := filled.holds.delivery (constantSink false) (submissionRecord count) () next
    delivery
  have room : normalizer.pending.size < normalizer.maxCorrelatedTransfers := by
    rw [filled.size, filled.holds.settings.transfers]
    exact small
  have sound : Sound next := by
    apply (delivery_sound_iff (constantSink false) (submissionRecord count) filled.running
      filled.holds filled.sound delivery).mpr
    rw [exhausts_iff (constantSink false) (submissionRecord count) count _ filled.running submits]
    exact fun overflows => Nat.not_le.mpr room overflows.full
  generalize (deliver system (submissionRecord count)).2 = after at still delivery holds
  cases delivery with
  | submitted jobId source taken after submitsOther accepts binding =>
      have same := submits_unique system.binding (submissionRecord count) count jobId
        (submissionSource ⟨count, bounded⟩) source submits submitsOther
      subst same
      have untaken : ¬ taken = true := by
        intro accepted
        obtain ⟨record, _, answer⟩ := accepts.mp accepted
        cases answer
      rw [if_neg untaken] at binding
      have unfinished : (submissionSource ⟨count, bounded⟩).transfer ∉
          normalizer.completedRestores := by
        rw [(filled.holds.tables.workerOnly filled.holds.settings.retain).1]
        exact Finmap.notMem_empty
      obtain ⟨result, _, transition⟩ := normalize_transition normalizer
        (.submitted (submissionSource ⟨count, bounded⟩))
      have grown := submission_starts normalizer _ result (submissionSource ⟨count, bounded⟩)
        filled.holds.opened filled.sound absent unfinished room transition
      refine ⟨_, still, holds, sound, ?_, ?_, ?_⟩
      · rw [binding]
        exact filled.empty
      · rw [grown, Dict.size_insert_fresh _ _ _ absent, filled.size]
      · intro transfer member
        rw [grown] at member
        rcases Finmap.mem_insert.mp member with same | before
        · exact ⟨⟨count, bounded⟩, Nat.lt_succ_self count, same⟩
        · obtain ⟨jobId, earlier, same⟩ := filled.jobs transfer before
          exact ⟨jobId, Nat.lt_succ_of_lt earlier, same⟩
  | terminal jobId entry source after terminates binding =>
      exact absurd terminates (submits_not_terminates system.binding (submissionRecord count)
        count jobId entry _ source submits)
  | idle after noSubmission noTerminal binding => exact absurd submits (noSubmission _ _)

theorem filled_run (count : Nat) (small : count ≤ maxBindingTransfers) :
    ∃ normalizer, Filled count
      (Machine.finalState deliver (transferOnly (constantSink false) sampleProcess 4 ())
        (submissionsUpTo count)) normalizer := by
  induction count with
  | zero =>
      exact ⟨fresh maxBindingTransfers 4 false, ⟨rfl, rfl, ⟨rfl, rfl, rfl⟩⟩,
        attached_in_flight (constantSink false) sampleProcess maxBindingTransfers 4 false (),
        ⟨rfl, rfl⟩, rfl, Dict.size_empty,
        fun transfer member => absurd member Finmap.notMem_empty⟩
  | succ count induction =>
      obtain ⟨normalizer, filled⟩ := induction (Nat.le_of_lt small)
      unfold submissionsUpTo at filled ⊢
      rw [List.range_succ, List.map_append, Machine.final_state_append]
      exact filled_step count _ normalizer filled small

theorem filled_exhausts (count : Nat) (full : count = maxBindingTransfers) (system : System Unit)
    (normalizer : LifecycleNormalizer) (filled : Filled count system normalizer) :
    ¬ Healthy (deliver system (submissionRecord count)).2 := by
  have bounded : count ≤ uint64Max := (Nat.le_of_eq full).trans (by decide)
  have submits := filled.submits count system normalizer bounded
  have run : SoundRun (constantSink false) sampleProcess 4 system :=
    ⟨normalizer, (), filled.running, filled.holds, filled.sound⟩
  rw [(SoundRun.deliver_iff (constantSink false) sampleProcess 4 (submissionRecord count)
    run).1, not_not, exhausts_iff (constantSink false) _ count _ filled.running submits]
  refine ⟨filled.absent count system normalizer bounded, ?_⟩
  rw [filled.size, filled.holds.settings.transfers, full]

/-- A sink that refuses every record: one submission more than the bound, each of a
new job, and the evidence is invalid although the binding never held an entry. -/
theorem refused_submissions_exhaust :
    ¬ ∀ before after, submissionsUpTo (maxBindingTransfers + 1) = before ++ after →
      Healthy (Machine.finalState deliver
        (transferOnly (constantSink false) sampleProcess 4 ()) before) := by
  intro every
  have split : ∀ count, submissionsUpTo (count + 1) =
      submissionsUpTo count ++ [submissionRecord count] := by
    intro count
    rw [submissionsUpTo, List.range_succ, List.map_append]
    rfl
  have healthy := every _ [] (List.append_nil _).symm
  obtain ⟨normalizer, filled⟩ := filled_run maxBindingTransfers (Nat.le_refl _)
  rw [split, Machine.final_state_append, Machine.final_state_cons,
    Machine.final_state_nil] at healthy
  exact filled_exhausts maxBindingTransfers rfl _ normalizer filled healthy

end Refused

end KVTransferObservability.NativeExhaustion
