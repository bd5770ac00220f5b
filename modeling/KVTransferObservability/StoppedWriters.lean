import KVTransferObservability.LifecycleTransitions

/-!
# Writers that outlive their adapter

`stop` keeps the ownership of a writer that is still running and stays `STOPPING`. A
`start` that fails after it has created a writer closes it as well, but ignores the
answer and goes back to `STOPPED`.
-/

namespace KVTransferObservability.StoppedWriters

open Library PythonValues Adapter AdapterLifecycle LifecycleTransitions

set_option autoImplicit false

section Runs

variable {Binding Handle Host : Type}
variable (register : Binding → Host → Py (Option Handle) × Binding)
variable (unregister : Binding → Handle → Host → Py Unit × Binding)

/-- No writer runs while the adapter is stopped, and so none does when a start opens
a destination. -/
structure NoWriterWhenStopped (adapter : Lifecycle Binding Handle) : Prop where
  stopped : adapter.state = .stopped → adapter.running = []
  opens : ∀ call : Call Host,
    (step register unregister adapter call).2.attempts ≠ adapter.attempts → adapter.running = []

/-- A start that fails after it has created writers sees each of them finish. -/
def FinishedInCleanup (self : Lifecycle Binding Handle) : Call Host → Prop
  | .start outcomes =>
      Attempts self outcomes →
        (HalfOpened self outcomes.construction → outcomes.closing.sink.finishes = true) ∧
        (Opened self outcomes.construction →
          (∀ handle, (register self.binding outcomes.host).1 ≠ .ok (some handle)) →
          outcomes.closing.sink.finishes = true ∧
            (self.capturesDescriptors = true → outcomes.closing.capture.finishes = true))
  | _ => True

/-- Every running writer belongs to the resources the adapter holds. -/
structure Owned (adapter : Lifecycle Binding Handle) : Prop where
  held : ∀ writer ∈ adapter.running, ∃ resources, adapter.resources = some resources ∧
    writer ∈ resources.writers
  idle : adapter.state = .stopped → adapter.resources = none

theorem Owned.quiet {self : Lifecycle Binding Handle} (holds : Owned self)
    (stopped : self.state = .stopped) : self.running = [] := by
  apply List.eq_nil_iff_forall_not_mem.mpr
  intro writer runs
  obtain ⟨resources, held, _⟩ := holds.held writer runs
  rw [holds.idle stopped] at held
  cases held

theorem owned_of_empty (self : Lifecycle Binding Handle) (empty : self.running = [])
    (idle : self.state = .stopped → self.resources = none) : Owned self where
  held := by
    intro writer runs
    rw [empty] at runs
    cases runs
  idle := idle

theorem owned_no_writer_when_stopped (self : Lifecycle Binding Handle) (holds : Owned self) :
    NoWriterWhenStopped register unregister self where
  stopped := holds.quiet
  opens := by
    intro call opened
    cases call with
    | start outcomes =>
        have started := start_started register self outcomes
        change (self.start register outcomes).2.attempts ≠ self.attempts at opened
        generalize (self.start register outcomes).1 = answer at started
        generalize (self.start register outcomes).2 = next at started opened
        cases started with
        | idle answer idle inactive => exact absurd rfl opened
        | unopened counters attempts unopened => exact absurd rfl opened
        | halfOpened counters running attempts half left => exact holds.quiet attempts.stopped
        | unregistered counters running attempts whole refused left =>
            exact holds.quiet attempts.stopped
        | active counters handle attempts whole registered => exact holds.quiet attempts.stopped
    | stop host closing =>
        have ended := stop_stopped unregister self host closing
        change (self.stop unregister host closing).2.attempts ≠ self.attempts at opened
        generalize (self.stop unregister host closing).1 = answer at ended
        generalize (self.stop unregister host closing).2 = next at ended opened
        cases ended <;> exact absurd rfl opened
    | writerExits writer => exact absurd rfl opened

theorem writers_opening (self : Lifecycle Binding Handle) (writer : Writer) :
    writer ∈ (opening self).writers ↔ writer = (opening self).sink ∨
      (self.capturesDescriptors = true ∧ writer = .descriptor self.attempts) := by
  unfold Resources.writers Resources.capture opening
  cases self.capturesDescriptors <;> simp

theorem owned_stop (self : Lifecycle Binding Handle) (holds : Owned self) (host : Host)
    (closing : ClosingOutcomes) : Owned (self.stop unregister host closing).2 := by
  have ended := stop_stopped unregister self host closing
  generalize (self.stop unregister host closing).1 = answer at ended
  generalize (self.stop unregister host closing).2 = next at ended ⊢
  cases ended with
  | idle stopped => exact holds
  | kept answer counters running resources writer busy left owned member alive =>
      refine ⟨?_, ?_⟩
      · intro other runs
        exact holds.held other ((left other).mp runs).1
      · intro stopped
        cases stopped
  | finished answer counters running busy left gone =>
      apply owned_of_empty
      · apply List.eq_nil_iff_forall_not_mem.mpr
        intro writer runs
        obtain ⟨resources, owned, member⟩ := holds.held writer ((left writer).mp runs).1
        exact gone resources owned writer member runs
      · intro _
        rfl

theorem owned_start (self : Lifecycle Binding Handle) (holds : Owned self)
    (outcomes : StartOutcomes Host)
    (finished : FinishedInCleanup register self (.start outcomes)) :
    Owned (self.start register outcomes).2 := by
  have started := start_started register self outcomes
  generalize (self.start register outcomes).1 = answer at started
  generalize (self.start register outcomes).2 = next at started ⊢
  cases started with
  | idle answer idle inactive => exact holds
  | unopened counters attempts unopened => exact ⟨holds.held, holds.idle⟩
  | halfOpened counters running attempts half left =>
      have sink := (finished attempts).1 half
      apply owned_of_empty
      · apply List.eq_nil_iff_forall_not_mem.mpr
        intro writer runs
        obtain ⟨created | same, survived⟩ := (left writer).mp runs
        · rw [holds.quiet attempts.stopped] at created
          cases created
        · rw [survived same.symm] at sink
          cases sink
      · exact holds.idle
  | unregistered counters running attempts whole refused left =>
      obtain ⟨sink, capture⟩ := (finished attempts).2 whole refused
      apply owned_of_empty
      · apply List.eq_nil_iff_forall_not_mem.mpr
        intro writer runs
        obtain ⟨created | member, captureSurvived, sinkSurvived⟩ := (left writer).mp runs
        · rw [holds.quiet attempts.stopped] at created
          cases created
        · rcases (writers_opening self writer).mp member with same | ⟨captures, same⟩
          · rw [sinkSurvived same.symm] at sink
            cases sink
          · have kept := captureSurvived (by rw [same]; exact if_pos captures)
            rw [capture captures] at kept
            cases kept
      · intro _
        rfl
  | active counters handle attempts whole registered =>
      refine ⟨?_, ?_⟩
      · intro writer runs
        rcases List.mem_append.mp runs with earlier | created
        · rw [holds.quiet attempts.stopped] at earlier
          cases earlier
        · exact ⟨opening self, rfl, created⟩
      · intro stopped
        cases stopped

theorem step_owned (self : Lifecycle Binding Handle) (call : Call Host) (holds : Owned self)
    (finished : FinishedInCleanup register self call) :
    Owned (step register unregister self call).2 := by
  cases call with
  | start outcomes => exact owned_start register self holds outcomes finished
  | stop host closing => exact owned_stop unregister self holds host closing
  | writerExits writer =>
      refine ⟨?_, holds.idle⟩
      intro other runs
      exact holds.held other (List.mem_filter.mp runs).1

/-- A writer that survives the cleanup of a half opened attempt runs on unowned. -/
theorem half_opened_finishes (self : Lifecycle Binding Handle) (outcomes : StartOutcomes Host)
    (attempts : Attempts self outcomes) (half : HalfOpened self outcomes.construction)
    (quiet : (self.start register outcomes).2.state = .stopped →
      (self.start register outcomes).2.running = []) :
    outcomes.closing.sink.finishes = true := by
  rw [← Bool.not_eq_false]
  intro survives
  have started := start_started register self outcomes
  generalize (self.start register outcomes).1 = answer at started
  generalize (self.start register outcomes).2 = next at started quiet
  cases started with
  | idle answer idle inactive => exact idle attempts
  | unopened counters attempts unopened =>
      exact unopened_not_half_opened self _ unopened half
  | halfOpened counters running attempts half left =>
      have runs := (left (opening self).sink).mpr ⟨Or.inr rfl, fun _ => survives⟩
      have empty : running = [] := quiet attempts.stopped
      rw [empty] at runs
      cases runs
  | unregistered counters running attempts whole refused left =>
      exact half_opened_not_opened self _ half whole
  | active counters handle attempts whole registered =>
      exact half_opened_not_opened self _ half whole

theorem refused_finishes (self : Lifecycle Binding Handle) (outcomes : StartOutcomes Host)
    (attempts : Attempts self outcomes) (whole : Opened self outcomes.construction)
    (refused : ∀ handle, (register self.binding outcomes.host).1 ≠ .ok (some handle))
    (quiet : (self.start register outcomes).2.state = .stopped →
      (self.start register outcomes).2.running = []) :
    outcomes.closing.sink.finishes = true ∧
      (self.capturesDescriptors = true → outcomes.closing.capture.finishes = true) := by
  have started := start_started register self outcomes
  generalize (self.start register outcomes).1 = answer at started
  generalize (self.start register outcomes).2 = next at started quiet
  cases started with
  | idle answer idle inactive => exact absurd attempts idle
  | unopened counters attempts unopened =>
      exact absurd whole (unopened_not_opened self _ unopened)
  | halfOpened counters running attempts half left =>
      exact absurd whole (half_opened_not_opened self _ half)
  | unregistered counters running attempts whole refused left =>
      have empty : running = [] := quiet rfl
      rw [empty] at left
      constructor
      · rw [← Bool.not_eq_false]
        intro survives
        have sink : (opening self).sink ∈ (opening self).writers := List.mem_cons_self
        have runs := (left (opening self).sink).mpr ⟨Or.inr sink, ?_, fun _ => survives⟩
        · cases runs
        · intro same
          unfold Resources.capture Resources.sink at same
          split at same
          · cases same
          · cases same
      · intro captures
        rw [← Bool.not_eq_false]
        intro survives
        have member := (writers_opening self (.descriptor self.attempts)).mpr
          (Or.inr ⟨captures, rfl⟩)
        have runs := (left (.descriptor self.attempts)).mpr
          ⟨Or.inr member, fun _ => survives, fun same => by cases same⟩
        cases runs
  | active counters handle attempts whole registered => exact absurd registered (refused handle)

theorem step_finished (self : Lifecycle Binding Handle) (call : Call Host)
    (quiet : NoWriterWhenStopped register unregister
      (step register unregister self call).2) :
    FinishedInCleanup register self call := by
  cases call with
  | start outcomes =>
      intro attempts
      refine ⟨fun half => ?_, fun whole refused => ?_⟩
      · exact half_opened_finishes register self outcomes attempts half quiet.stopped
      · exact refused_finishes register self outcomes attempts whole refused quiet.stopped
  | stop host closing => trivial
  | writerExits writer => trivial

/-- In a run, no writer is running in any stopped state exactly when every start that
failed after creating writers saw them finish. -/
theorem no_writer_when_stopped_iff_finished_in_cleanup (enabled capturesDescriptors : Bool)
    (binding : Binding) (calls : List (Call Host)) :
    (∀ before after, calls = before ++ after →
      NoWriterWhenStopped register unregister
        (Machine.finalState (step register unregister)
          (constructed enabled capturesDescriptors binding) before)) ↔
      Machine.Along (step register unregister) (FinishedInCleanup register)
        (constructed enabled capturesDescriptors binding) calls :=
  Machine.every_state_iff_along (step register unregister) Owned
    (NoWriterWhenStopped register unregister) (FinishedInCleanup register)
    (owned_no_writer_when_stopped register unregister)
    (fun state call holds finished => step_owned register unregister state call holds finished)
    (fun state call _ quiet => step_finished register unregister state call quiet)
    (constructed enabled capturesDescriptors binding) calls
    (owned_of_empty _ rfl fun _ => rfl)

end Runs

/-- The descriptor directory cannot be opened, and the sink, which was created before,
has not finished when the shutdown timeout is over. -/
def abandonedSink : StartOutcomes Unit :=
  { contractVersion := .ok (.str hostObserverContract)
    construction := { captureRaises := true }
    host := ()
    closing := { sink := .timedOut false } }

theorem abandoned_sink_outlives_adapter :
    let register : Unit → Unit → Py (Option Unit) × Unit := fun _ _ => (.ok (some ()), ())
    let unregister : Unit → Unit → Unit → Py Unit × Unit := fun _ _ _ => (.ok (), ())
    let reached := Machine.finalState (step register unregister) (constructed true true ())
      [.start abandonedSink]
    reached.state = .stopped ∧ reached.running = [.sink 0] ∧
      ¬ NoWriterWhenStopped register unregister reached := by
  intro register unregister reached
  refine ⟨rfl, rfl, ?_⟩
  intro quiet
  have empty := quiet.stopped rfl
  cases empty

end KVTransferObservability.StoppedWriters
