import KVTransferObservability.PluginProcesses
import KVTransferObservability.ScopedIds

/-!
# What a process of the plugin owns

A registration belongs to the process that made it: a fork takes none over, and the
writers of two processes never have a default destination of one name. Within a process
a second writer runs only after a failed registration that has left one behind.
-/

namespace KVTransferObservability.PluginOwnership

open Library PythonValues Adapter AdapterLifecycle LifecycleTransitions HostRegistration
open StoppedWriters PluginProcesses

set_option autoImplicit false

/-! ## The answer of `stop` -/

section Answers

variable {Binding Held Host : Type} (self : Lifecycle Binding Held)

theorem close_writer_ok (running : List Writer) (writer : Writer) (outcome : CloseOutcome)
    (answered : (closeWriter running writer outcome).1 = .ok true) :
    writer ∉ (closeWriter running writer outcome).2 := by
  intro member
  obtain ⟨runs, survives⟩ := (close_writer_mem_iff running writer writer outcome).mp member
  cases outcome with
  | finished => cases survives rfl
  | timedOut exitsAfter =>
      rw [closeWriter, if_pos runs] at answered
      cases answered
  | raised exitsAfter => cases answered

theorem close_one_ok (cleanupOk : Bool) (outcome : CloseOutcome) (closing : Option Writer)
    (answered : (self.closeOne cleanupOk outcome closing).1 = true) :
    cleanupOk = true ∧
      ∀ writer, closing = some writer →
        writer ∉ (self.closeOne cleanupOk outcome closing).2.running := by
  cases closing with
  | none => exact ⟨answered, fun writer same => nomatch same⟩
  | some closed =>
      have left := close_writer_ok self.running closed outcome
      rcases answer : closeWriter self.running closed outcome with ⟨error | finished, running⟩
      · simp only [Lifecycle.closeOne, answer] at answered
        cases answered
      · cases finished with
        | false =>
            simp only [Lifecycle.closeOne, answer] at answered
            cases answered
        | true =>
            simp only [Lifecycle.closeOne, answer] at answered ⊢
            rw [answer] at left
            refine ⟨answered, ?_⟩
            intro writer same
            cases same
            exact left rfl

/-- `closed` is about the running writers only, so it may be read off the last close. -/
theorem close_prepared_ok (sink capture : Option Writer) (closing : ClosingOutcomes)
    (answered : (self.closePreparedResources sink capture closing).1 = true) :
    ∀ writer, sink = some writer ∨ capture = some writer →
      writer ∉ (self.closePreparedResources sink capture closing).2.running := by
  let counted := if closing.normalizerRaises then self.countCleanupError else self
  rcases middle : counted.closeOne (!closing.normalizerRaises) closing.capture capture
    with ⟨cleanupOk, between⟩
  have whole : self.closePreparedResources sink capture closing =
      between.closeOne cleanupOk closing.sink sink := by
    unfold Lifecycle.closePreparedResources
    dsimp only
    rw [middle]
  rw [whole] at answered ⊢
  obtain ⟨first, sinkGone⟩ := close_one_ok between cleanupOk closing.sink sink answered
  have captureGone := (close_one_ok counted (!closing.normalizerRaises) closing.capture capture
    (by rw [middle]; exact first)).2
  rw [middle] at captureGone
  obtain ⟨running, ⟨counters, closed⟩, left⟩ :=
    close_one_closed between cleanupOk closing.sink sink
  intro writer listed
  rcases listed with sinkSame | captureSame
  · exact sinkGone writer sinkSame
  · rw [closed]
    intro member
    exact captureGone writer captureSame ((left writer).mp member).1

theorem close_owned_ok (closing : ClosingOutcomes)
    (answered : (self.closeOwned closing).1 = true) :
    (self.closeOwned closing).2.writersAlive = false := by
  rw [← Bool.not_eq_true]
  intro alive
  obtain ⟨resources, writer, owned, member, runs⟩ := (writers_alive_iff _).mp alive
  obtain ⟨counters, running, closed, _⟩ := close_owned_left self closing
  rw [closed] at owned
  change self.resources = some resources at owned
  unfold Lifecycle.closeOwned at answered runs
  rw [owned] at answered runs
  refine close_prepared_ok self (some resources.sink) resources.capture closing answered writer ?_
    runs
  unfold Resources.writers at member
  rcases List.mem_cons.mp member with same | captured
  · exact .inl (congrArg some same.symm)
  · exact .inr (Option.mem_toList.mp captured)

variable (unregister : Binding → Held → Host → Py Unit × Binding)

/-- A `stop` that answers `True` has no writer left to wait for. -/
theorem stop_true_stopped (host : Host) (closing : ClosingOutcomes)
    (answered : (self.stop unregister host closing).1 = true) :
    (self.stop unregister host closing).2.state = .stopped := by
  by_cases stopped : self.state = .stopped
  · unfold Lifecycle.stop
    rw [if_pos stopped]
    exact stopped
  · unfold Lifecycle.stop at answered ⊢
    rw [if_neg stopped] at answered ⊢
    dsimp only at answered ⊢
    have shutdownOk := (Bool.and_eq_true_iff.mp answered).2
    have quiet := close_owned_ok _ closing shutdownOk
    rw [if_neg]
    rw [Bool.not_eq_true]
    exact quiet

end Answers

/-! ## One adapter of the plugin -/

section Observers

variable {Handle : Type}

theorem unstarted_attempts (correlatedApi : Bool) (outcomes : RegisterOutcomes Handle) :
    Attempts (unstarted correlatedApi : HostLifecycle Handle) outcomes.start where
  enabled := rfl
  stopped := rfl
  contract := ⟨.str hostObserverContract, rfl, beq_self_eq_true _⟩

/-- What the calls of the plugin keep of an adapter: one writer at most, and neither a
handle nor resources while it is stopped. -/
structure Kept (adapter : HostLifecycle Handle) : Prop where
  writer : ∀ writer ∈ adapter.running, writer = .sink 0
  handle : adapter.state = .stopped → adapter.handle = none
  idle : adapter.state = .stopped → adapter.resources = none

/-- A start of the plugin ends with an active adapter or with a stopped one. -/
inductive Activation (outcomes : RegisterOutcomes Handle) (correlatedApi : Bool) :
    Except AdapterActivationError Bool → HostLifecycle Handle → Prop
  | failed (error : AdapterActivationError) (adapter : HostLifecycle Handle)
      (kept : Kept adapter) (stopped : adapter.state = .stopped)
      (left : adapter.running ≠ [] ↔
        Opened (unstarted correlatedApi : HostLifecycle Handle) outcomes.construction ∧
          outcomes.closing.sink.finishes = false) :
      Activation outcomes correlatedApi (.error error) adapter
  | active (adapter : HostLifecycle Handle) (kept : Kept adapter) (owned : Owned adapter)
      (active : adapter.state = .active) (held : adapter.handle.isSome = true)
      (running : adapter.running = [.sink 0]) :
      Activation outcomes correlatedApi (.ok true) adapter

theorem start_activation (outcomes : RegisterOutcomes Handle) (correlatedApi : Bool) :
    Activation outcomes correlatedApi
      ((unstarted correlatedApi).start VllmOffloadingObserverBinding.register outcomes.start).1
      ((unstarted correlatedApi).start VllmOffloadingObserverBinding.register
        outcomes.start).2 := by
  have started := start_started VllmOffloadingObserverBinding.register
    (unstarted correlatedApi) outcomes.start
  generalize ((unstarted correlatedApi).start VllmOffloadingObserverBinding.register
    outcomes.start).1 = answer at started ⊢
  generalize ((unstarted correlatedApi).start VllmOffloadingObserverBinding.register
    outcomes.start).2 = next at started ⊢
  cases started with
  | idle answer idle inactive => exact absurd (unstarted_attempts correlatedApi outcomes) idle
  | unopened counters attempts unopened =>
      refine .failed _ _ ⟨?_, fun _ => rfl, fun _ => rfl⟩ rfl ?_
      · intro writer member
        cases member
      · refine iff_of_false (fun runs => runs rfl) ?_
        exact fun left => unopened_not_opened _ _ unopened left.1
  | halfOpened counters running attempts half left => cases half.configured
  | unregistered counters running attempts whole refused left =>
      have member (writer : Writer) : writer ∈ running ↔
          writer = .sink 0 ∧ outcomes.closing.sink.finishes = false := by
        rw [left]
        change (writer ∈ [] ∨ writer ∈ [Writer.sink 0]) ∧ (none = some writer → _) ∧
          (Writer.sink 0 = writer → outcomes.closing.sink.finishes = false) ↔ _
        constructor
        · rintro ⟨listed, _, survives⟩
          have same := List.mem_singleton.mp (listed.resolve_left List.not_mem_nil)
          exact ⟨same, survives same.symm⟩
        · rintro ⟨same, survives⟩
          exact ⟨.inr (List.mem_singleton.mpr same), (fun absent => nomatch absent),
            fun _ => survives⟩
      refine .failed _ _ ⟨fun writer runs => ((member writer).mp runs).1, fun _ => rfl,
        fun _ => rfl⟩ rfl ?_
      change running ≠ [] ↔ _
      constructor
      · intro runs
        obtain ⟨writer, first⟩ := List.exists_mem_of_ne_nil running runs
        exact ⟨whole, ((member writer).mp first).2⟩
      · rintro ⟨_, survives⟩
        exact List.ne_nil_of_mem ((member (.sink 0)).mpr ⟨rfl, survives⟩)
  | active counters handle attempts opened registered =>
      refine .active _ ⟨?_, ?_, ?_⟩ ⟨?_, ?_⟩ rfl rfl rfl
      · intro writer member
        exact List.mem_singleton.mp member
      · intro stopped
        cases stopped
      · intro stopped
        cases stopped
      · intro writer member
        exact ⟨_, rfl, member⟩
      · intro stopped
        cases stopped

theorem stop_kept (adapter : HostLifecycle Handle) (kept : Kept adapter)
    (host : HostOutcomes Handle) (closing : ClosingOutcomes) :
    Kept (adapter.stop VllmOffloadingObserverBinding.unregister host closing).2 := by
  have stopped := stop_stopped VllmOffloadingObserverBinding.unregister adapter host closing
  generalize (adapter.stop VllmOffloadingObserverBinding.unregister host closing).1 = answer
    at stopped
  generalize (adapter.stop VllmOffloadingObserverBinding.unregister host closing).2 = next
    at stopped ⊢
  cases stopped with
  | idle stopped => exact kept
  | kept answer counters running resources writer busy left owned member alive =>
      refine ⟨?_, fun _ => rfl, (fun stopped => nomatch stopped)⟩
      exact fun writer runs => kept.writer writer ((left writer).mp runs).1
  | finished answer counters running busy left gone =>
      refine ⟨?_, fun _ => rfl, fun _ => rfl⟩
      exact fun writer runs => kept.writer writer ((left writer).mp runs).1

end Observers

/-! ## One process -/

section Calls

variable {Handle : Type} (hexdigest : List Char → List Char) (process : Process Handle)

theorem register_result (environment : Environment) (outcomes : RegisterOutcomes Handle) :
    RegisterResult hexdigest process environment outcomes
      (process.registerPlugin hexdigest environment outcomes).1
      (process.registerPlugin hexdigest environment outcomes).2 := by
  unfold Process.registerPlugin
  by_cases inert : some process.pid = process.registeredPid ∨
      activationRequested environment = false
  · rw [if_pos inert]
    exact .inert (inert.imp_left Eq.symm)
  · rw [if_neg inert]
    obtain ⟨other, requested⟩ := not_or.mp inert
    have absent : process.registeredPid ≠ some process.pid := fun same => other same.symm
    rw [Bool.not_eq_false] at requested
    cases destination : eventPath hexdigest environment process.pid with
    | error error => exact .unprepared error absent requested (.inl destination)
    | ok path =>
        cases bound : outcomes.binding with
        | error error => exact .unprepared error absent requested (.inr bound)
        | ok correlatedApi =>
            have activation := start_activation outcomes correlatedApi
            rcases started : (unstarted correlatedApi).start
              VllmOffloadingObserverBinding.register outcomes.start with ⟨answer, adapter⟩
            rw [started] at activation
            cases activation with
            | failed error adapter kept stopped left =>
                simp only [started]
                exact .failed error path correlatedApi adapter absent requested destination bound
                  started
            | active adapter kept owned active held running =>
                simp only [started]
                exact .registered path correlatedApi adapter absent requested destination bound
                  started

/-- What holds of a process at any time. `own` is about every writer of the process, also
one that a failed registration has left behind. -/
structure Local : Prop where
  registered : process.registeredPid = process.adapter.map fun _ => process.pid
  held : ∀ place, process.adapter = some place →
    ∃ observer, process.observers[place]? = some observer ∧ Owned observer.adapter
  dropped : ∀ place observer, process.observers[place]? = some observer →
    process.adapter ≠ some place → observer.adapter.state = .stopped
  kept : ∀ observer ∈ process.observers, Kept observer.adapter
  own : ∀ observer ∈ process.observers, observer.adapter.running ≠ [] →
    ∃ environment, eventPath hexdigest environment process.pid = .ok observer.eventPath

theorem local_initial (pid : Nat) : Local hexdigest ({ pid := pid } : Process Handle) where
  registered := rfl
  held place same := nomatch same
  dropped place observer found := by cases found
  kept observer member := by cases member
  own observer member := by cases member

variable {hexdigest process}

theorem Local.unregistered (holds : Local hexdigest process)
    (absent : process.registeredPid ≠ some process.pid) : process.adapter = none := by
  have registered := holds.registered
  cases current : process.adapter with
  | none => rfl
  | some place =>
      rw [current] at registered
      exact absurd registered absent

theorem getElem?_concat (observers : List (Observer Handle)) (last observer : Observer Handle)
    (place : Nat) (found : (observers ++ [last])[place]? = some observer) :
    observers[place]? = some observer ∨ (place = observers.length ∧ observer = last) := by
  by_cases inside : place < observers.length
  · rw [List.getElem?_append_left inside] at found
    exact .inl found
  · rw [List.getElem?_append_right (Nat.le_of_not_lt inside), List.getElem?_singleton] at found
    by_cases zero : place - observers.length = 0
    · rw [if_pos zero] at found
      exact .inr ⟨by omega, (Option.some.inj found).symm⟩
    · rw [if_neg zero] at found
      cases found

theorem kept_concat (holds : Local hexdigest process) (last : Observer Handle)
    (kept : Kept last.adapter) :
    ∀ observer ∈ process.observers ++ [last], Kept observer.adapter := by
  intro observer member
  rcases List.mem_append.mp member with old | new
  · exact holds.kept observer old
  · rw [List.mem_singleton.mp new]
    exact kept

theorem own_concat (holds : Local hexdigest process) (last : Observer Handle)
    (environment : Environment)
    (destination : eventPath hexdigest environment process.pid = .ok last.eventPath) :
    ∀ observer ∈ process.observers ++ [last], observer.adapter.running ≠ [] →
      ∃ environment, eventPath hexdigest environment process.pid = .ok observer.eventPath := by
  intro observer member runs
  rcases List.mem_append.mp member with old | new
  · exact holds.own observer old runs
  · rw [List.mem_singleton.mp new]
    exact ⟨environment, destination⟩

theorem register_local (holds : Local hexdigest process) (environment : Environment)
    (outcomes : RegisterOutcomes Handle) :
    Local hexdigest (process.registerPlugin hexdigest environment outcomes).2 := by
  have result := register_result hexdigest process environment outcomes
  generalize (process.registerPlugin hexdigest environment outcomes).1 = answer at result
  generalize (process.registerPlugin hexdigest environment outcomes).2 = next at result ⊢
  cases result with
  | inert inert => exact holds
  | unprepared error absent requested raised => exact holds
  | failed error path correlatedApi adapter absent requested destination bound started =>
      have activation := start_activation outcomes correlatedApi
      rw [started] at activation
      cases activation with
      | failed error adapter kept stopped left =>
          have none := holds.unregistered absent
          refine ⟨holds.registered, ?_, ?_, kept_concat holds _ kept,
            own_concat holds _ environment destination⟩
          · intro place same
            change process.adapter = some place at same
            rw [none] at same
            cases same
          · intro place observer found other
            rcases getElem?_concat _ _ _ _ found with old | ⟨_, new⟩
            · exact holds.dropped place observer old other
            · rw [new]
              exact stopped
  | registered path correlatedApi adapter absent requested destination bound started =>
      have activation := start_activation outcomes correlatedApi
      rw [started] at activation
      cases activation with
      | active adapter kept owned active held running =>
          have none := holds.unregistered absent
          refine ⟨rfl, ?_, ?_, kept_concat holds _ kept,
            own_concat holds _ environment destination⟩
          · intro place same
            cases same
            exact ⟨⟨path, adapter⟩, List.getElem?_concat_length, owned⟩
          · intro place observer found other
            rcases getElem?_concat _ _ _ _ found with old | ⟨last, _⟩
            · exact holds.dropped place observer old (by rw [none]; exact nofun)
            · exact absurd (congrArg some last.symm) other

/-- The observer after a `stop` of its adapter. -/
def stoppedObserver (observer : Observer Handle) (host : HostOutcomes Handle)
    (closing : ClosingOutcomes) : Observer Handle :=
  { observer with
    adapter := (observer.adapter.stop VllmOffloadingObserverBinding.unregister host closing).2 }

variable (process) in
/-- Every way a call of `stop_plugin` ends. -/
inductive StopResult (host : HostOutcomes Handle) (closing : ClosingOutcomes) :
    Bool → Process Handle → Prop
  | absent (none : process.adapter = none) : StopResult host closing true process
  | closed (place : Nat) (observer : Observer Handle) (current : process.adapter = some place)
      (found : process.observers[place]? = some observer)
      (stopped : (stoppedObserver observer host closing).adapter.state = .stopped) :
      StopResult host closing true
        { process with
          observers := process.observers.set place (stoppedObserver observer host closing)
          adapter := none, registeredPid := none }
  | kept (place : Nat) (observer : Observer Handle) (current : process.adapter = some place)
      (found : process.observers[place]? = some observer) :
      StopResult host closing false
        { process with
          observers := process.observers.set place (stoppedObserver observer host closing) }

theorem stop_result (holds : Local hexdigest process) (host : HostOutcomes Handle)
    (closing : ClosingOutcomes) :
    StopResult process host closing (process.stopPlugin host closing).1
      (process.stopPlugin host closing).2 := by
  unfold Process.stopPlugin
  cases current : process.adapter with
  | none => exact .absent current
  | some place =>
      obtain ⟨observer, found, _⟩ := holds.held place current
      simp only [found]
      have answer := stop_true_stopped observer.adapter VllmOffloadingObserverBinding.unregister
        host closing
      by_cases answered :
          (observer.adapter.stop VllmOffloadingObserverBinding.unregister host closing).1 = true
      · rw [if_pos answered]
        exact .closed place observer current found (answer answered)
      · rw [if_neg answered, ← current]
        exact .kept place observer current found

/-- Changes at one place that leave the path alone and start no writer. -/
theorem local_of_set (holds : Local hexdigest process) (place : Nat)
    (observer changed : Observer Handle) (found : process.observers[place]? = some observer)
    (path : changed.eventPath = observer.eventPath)
    (runs : changed.adapter.running ≠ [] → observer.adapter.running ≠ [])
    (kept : Kept changed.adapter) :
    (∀ observer ∈ process.observers.set place changed, Kept observer.adapter) ∧
      ∀ observer ∈ process.observers.set place changed, observer.adapter.running ≠ [] →
        ∃ environment, eventPath hexdigest environment process.pid = .ok observer.eventPath := by
  constructor
  · intro other member
    rcases List.mem_or_eq_of_mem_set member with old | new
    · exact holds.kept other old
    · rw [new]
      exact kept
  · intro other member running
    rcases List.mem_or_eq_of_mem_set member with old | new
    · exact holds.own other old running
    · rw [new] at running ⊢
      rw [path]
      exact holds.own observer (List.mem_of_getElem? found) (runs running)

theorem stopped_runs (observer : Observer Handle) (host : HostOutcomes Handle)
    (closing : ClosingOutcomes) :
    (stoppedObserver observer host closing).adapter.running ⊆ observer.adapter.running := by
  have stopped := stop_stopped VllmOffloadingObserverBinding.unregister observer.adapter host
    closing
  unfold stoppedObserver
  generalize (observer.adapter.stop VllmOffloadingObserverBinding.unregister host closing).1 =
    answer at stopped
  generalize (observer.adapter.stop VllmOffloadingObserverBinding.unregister host closing).2 =
    next at stopped ⊢
  cases stopped with
  | idle stopped => exact List.Subset.refl _
  | kept answer counters running resources writer busy left owned member alive =>
      exact fun writer member => ((left writer).mp member).1
  | finished answer counters running busy left gone =>
      exact fun writer member => ((left writer).mp member).1

theorem running_of_subset {first second : HostLifecycle Handle}
    (fewer : first.running ⊆ second.running) (runs : first.running ≠ []) :
    second.running ≠ [] := by
  obtain ⟨writer, member⟩ := List.exists_mem_of_ne_nil _ runs
  exact List.ne_nil_of_mem (fewer member)

theorem stop_local (holds : Local hexdigest process) (host : HostOutcomes Handle)
    (closing : ClosingOutcomes) : Local hexdigest (process.stopPlugin host closing).2 := by
  have result := stop_result holds host closing
  generalize (process.stopPlugin host closing).1 = answer at result
  generalize (process.stopPlugin host closing).2 = next at result ⊢
  cases result with
  | absent none => exact holds
  | closed place observer current found stopped =>
      obtain ⟨kept, own⟩ := local_of_set holds place observer
        (stoppedObserver observer host closing) found rfl
        (running_of_subset (stopped_runs observer host closing))
        (stop_kept _ (holds.kept observer (List.mem_of_getElem? found)) host closing)
      refine ⟨rfl, (fun place same => nomatch same), ?_, kept, own⟩
      intro other left listed _
      by_cases same : place = other
      · subst same
        rw [List.getElem?_set_self (List.getElem?_eq_some_iff.mp found).1] at listed
        cases listed
        exact stopped
      · rw [List.getElem?_set_ne same] at listed
        exact holds.dropped other left listed (by rw [current]; simpa using same)
  | kept place observer current found =>
      obtain ⟨kept, own⟩ := local_of_set holds place observer
        (stoppedObserver observer host closing) found rfl
        (running_of_subset (stopped_runs observer host closing))
        (stop_kept _ (holds.kept observer (List.mem_of_getElem? found)) host closing)
      obtain ⟨held, listed, owned⟩ := holds.held place current
      rw [found] at listed
      cases listed
      refine ⟨holds.registered, ?_, ?_, kept, own⟩
      · intro other same
        change process.adapter = some other at same
        rw [current] at same
        cases same
        exact ⟨_, List.getElem?_set_self (List.getElem?_eq_some_iff.mp found).1,
          owned_stop _ observer.adapter owned host closing⟩
      · intro other left listed different
        change process.adapter ≠ some other at different
        rw [current] at different
        rw [List.getElem?_set_ne (fun same => different (congrArg some same))] at listed
        exact holds.dropped other left listed (by rw [current]; exact different)

theorem writer_exits_local (holds : Local hexdigest process) (place : Nat) (writer : Writer) :
    Local hexdigest
      { process with observers := process.observers.modify place (·.writerExits writer) } := by
  have before (other : Nat) (observer : Observer Handle)
      (found : (process.observers.modify place (·.writerExits writer))[other]? = some observer) :
      ∃ old, process.observers[other]? = some old ∧
        (observer = old ∨ observer = old.writerExits writer) := by
    rw [List.getElem?_modify] at found
    obtain ⟨old, listed, same⟩ := Option.map_eq_some_iff.mp found
    by_cases here : place = other
    · rw [if_pos here] at same
      exact ⟨old, listed, .inr same.symm⟩
    · rw [if_neg here] at same
      exact ⟨old, listed, .inl same.symm⟩
  have fewer (old : Observer Handle) :
      (old.writerExits writer).adapter.running ⊆ old.adapter.running :=
    fun _ member => List.mem_of_mem_filter member
  have exitKept (old : Observer Handle) (kept : Kept old.adapter) :
      Kept (old.writerExits writer).adapter :=
    ⟨fun other member => kept.writer other (fewer old member), kept.handle, kept.idle⟩
  have exitOwned (old : Observer Handle) (owned : Owned old.adapter) :
      Owned (old.writerExits writer).adapter :=
    ⟨fun other member => owned.held other (fewer old member), owned.idle⟩
  refine ⟨holds.registered, ?_, ?_, ?_, ?_⟩
  · intro other current
    obtain ⟨old, listed, owned⟩ := holds.held other current
    by_cases here : place = other
    · exact ⟨old.writerExits writer, by rw [List.getElem?_modify, listed, here]; simp,
        exitOwned old owned⟩
    · exact ⟨old, by rw [List.getElem?_modify, listed]; simp [here], owned⟩
  · intro other observer found different
    obtain ⟨old, listed, same | same⟩ := before other observer found
    · rw [same]
      exact holds.dropped other old listed different
    · rw [same]
      exact holds.dropped other old listed different
  · intro observer member
    obtain ⟨other, found⟩ := List.mem_iff_getElem?.mp member
    obtain ⟨old, listed, same | same⟩ := before other observer found
    · rw [same]
      exact holds.kept old (List.mem_of_getElem? listed)
    · rw [same]
      exact exitKept old (holds.kept old (List.mem_of_getElem? listed))
  · intro observer member runs
    obtain ⟨other, found⟩ := List.mem_iff_getElem?.mp member
    obtain ⟨old, listed, same | same⟩ := before other observer found
    · rw [same] at runs ⊢
      exact holds.own old (List.mem_of_getElem? listed) runs
    · rw [same] at runs ⊢
      exact holds.own old (List.mem_of_getElem? listed) (running_of_subset (fewer old) runs)

theorem call_local (holds : Local hexdigest process) (call : ProcessCall Handle) :
    Local hexdigest (process.call hexdigest call) := by
  cases call with
  | register environment outcomes => exact register_local holds environment outcomes
  | stop host closing => exact stop_local holds host closing
  | writerExits place writer => exact writer_exits_local holds place writer

theorem call_pid (hexdigest : List Char → List Char) (process : Process Handle)
    (call : ProcessCall Handle) : (process.call hexdigest call).pid = process.pid := by
  cases call with
  | register environment outcomes =>
      have result := register_result hexdigest process environment outcomes
      change (process.registerPlugin hexdigest environment outcomes).2.pid = process.pid
      generalize (process.registerPlugin hexdigest environment outcomes).1 = answer at result
      generalize (process.registerPlugin hexdigest environment outcomes).2 = next at result ⊢
      cases result <;> rfl
  | stop host closing =>
      change (process.stopPlugin host closing).2.pid = process.pid
      unfold Process.stopPlugin
      cases process.adapter with
      | none => rfl
      | some place =>
          dsimp only
          cases process.observers[place]? with
          | none => rfl
          | some observer =>
              dsimp only
              cases (observer.adapter.stop VllmOffloadingObserverBinding.unregister host
                closing).1 with
              | true => rfl
              | false => rfl
  | writerExits place writer => rfl

/-! ## A fork -/

/-- What the child of a fork starts with. -/
structure Inherited (process : Process Handle) : Prop where
  unregistered : process.registeredPid = none ∧ process.adapter = none
  inactive : ∀ observer ∈ process.observers, observer.adapter.state = .stopped
  quiet : ∀ observer ∈ process.observers, observer.adapter.running = []
  detached : ∀ observer ∈ process.observers,
    observer.adapter.handle = none ∧ observer.adapter.resources = none

theorem forked_child (holds : Local hexdigest process) (child : Nat)
    (other : child ≠ process.pid) :
    ∃ observers, process.forked child = { pid := child, observers := observers } ∧
      (process.adapter = none → observers = process.observers.map Observer.copied) ∧
      ∀ place, process.adapter = some place →
        observers = (process.observers.map Observer.copied).modify place
          Observer.abandonAfterFork := by
  have foreign : ¬ some child = process.registeredPid := by
    rw [holds.registered]
    cases process.adapter with
    | none => exact nofun
    | some place => exact fun same => other (Option.some.inj same)
  unfold Process.forked Process.afterForkInChild
  rw [if_neg foreign]
  cases process.adapter with
  | none => exact ⟨_, rfl, fun _ => rfl, fun place same => nomatch same⟩
  | some place =>
      refine ⟨_, rfl, (fun same => nomatch same), ?_⟩
      intro other same
      cases same
      rfl

theorem forked_inherited (holds : Local hexdigest process) (child : Nat)
    (other : child ≠ process.pid) : Inherited (process.forked child) := by
  obtain ⟨observers, whole, absent, held⟩ := forked_child holds child other
  have every : ∀ observer ∈ observers,
      observer.adapter.state = .stopped ∧ observer.adapter.running = [] ∧
        observer.adapter.handle = none ∧ observer.adapter.resources = none := by
    have copy (old : Observer Handle) (member : old ∈ process.observers)
        (stopped : old.adapter.state = .stopped) :
        old.copied.adapter.state = .stopped ∧ old.copied.adapter.running = [] ∧
          old.copied.adapter.handle = none ∧ old.copied.adapter.resources = none :=
      ⟨stopped, rfl, (holds.kept old member).handle stopped, (holds.kept old member).idle stopped⟩
    intro observer member
    obtain ⟨place, found⟩ := List.mem_iff_getElem?.mp member
    cases current : process.adapter with
    | none =>
        rw [absent current, List.getElem?_map] at found
        obtain ⟨old, listed, rfl⟩ := Option.map_eq_some_iff.mp found
        exact copy old (List.mem_of_getElem? listed)
          (holds.dropped place old listed (by rw [current]; exact nofun))
    | some owner =>
        rw [held owner current, List.getElem?_modify, List.getElem?_map] at found
        obtain ⟨copied, mapped, same⟩ := Option.map_eq_some_iff.mp found
        obtain ⟨old, listed, rfl⟩ := Option.map_eq_some_iff.mp mapped
        by_cases here : owner = place
        · rw [if_pos here] at same
          rw [← same]
          exact ⟨rfl, rfl, rfl, rfl⟩
        · rw [if_neg here] at same
          rw [← same]
          exact copy old (List.mem_of_getElem? listed)
            (holds.dropped place old listed (by rw [current]; simpa using here))
  rw [whole]
  exact ⟨⟨rfl, rfl⟩, fun observer member => (every observer member).1,
    fun observer member => (every observer member).2.1,
    fun observer member => (every observer member).2.2⟩

theorem inherited_local (inherited : Inherited process) : Local hexdigest process := by
  obtain ⟨⟨registered, absent⟩, inactive, quiet, detached⟩ := inherited
  refine ⟨?_, ?_, ?_, ?_, ?_⟩
  · rw [registered, absent]
    rfl
  · intro place same
    rw [absent] at same
    cases same
  · intro place observer found _
    exact inactive observer (List.mem_of_getElem? found)
  · intro observer member
    refine ⟨?_, fun _ => (detached observer member).1, fun _ => (detached observer member).2⟩
    rw [quiet observer member]
    exact fun writer runs => nomatch runs
  · intro observer member runs
    exact absurd (quiet observer member) runs

end Calls

/-! ## The names of default destinations -/

theorem digits_before_dash (first second : List Char) (before after : List Char)
    (firstDigits : '-' ∉ first) (secondDigits : '-' ∉ second)
    (same : before ++ '-' :: first = after ++ '-' :: second) : first = second := by
  have reversed : first.reverse ++ '-' :: before.reverse = second.reverse ++ '-' :: after.reverse := by
    simpa using congrArg List.reverse same
  have cut := congrArg (List.takeWhile (· ≠ '-')) reversed
  have visible (digits : List Char) (absent : '-' ∉ digits) :
      ∀ character ∈ digits.reverse, decide (character ≠ '-') = true := by
    intro character member
    rw [decide_eq_true_iff]
    rintro rfl
    exact absent (List.mem_reverse.mp member)
  rw [List.takeWhile_append_of_pos (visible first firstDigits),
    List.takeWhile_append_of_pos (visible second secondDigits)] at cut
  simpa using cut

/-- The name holds the number of the process, whatever the launch. -/
theorem scoped_name_pid (launch other : List Char) (first second : Nat)
    (same : scopedName launch first = scopedName other second) : first = second := by
  unfold scopedName at same
  have suffix (front : List Char) (pid : Nat) :
      "vllm-hust-kv-transfer-".toList ++ front ++ '-' :: (Nat.toDigits 10 pid ++ ".jsonl".toList) =
        ("vllm-hust-kv-transfer-".toList ++ front ++ '-' :: Nat.toDigits 10 pid) ++
          ".jsonl".toList := by
    simp only [List.append_assoc, List.cons_append]
  rw [suffix, suffix] at same
  have digits (pid : Nat) : '-' ∉ Nat.toDigits 10 pid := by
    intro member
    have digit := Nat.isDigit_of_mem_toDigits (by decide) (by decide) member
    cases digit
  exact ScopedIds.digits_injective first second
    (digits_before_dash _ _ _ _ (digits first) (digits second) (List.append_cancel_right same))

theorem scoped_path (hexdigest : List Char → List Char) (environment : Environment) (pid : Nat)
    (directory name : List Char)
    (destination : eventPath hexdigest environment pid = .ok (.scoped directory name)) :
    ∃ launch, name = scopedName launch pid := by
  unfold eventPath at destination
  dsimp only at destination
  split at destination
  · cases destination
  · obtain ⟨_, _, same⟩ := bind_eq_ok.mp destination
    cases same
    exact ⟨_, rfl⟩

/-! ## Families of processes -/

section Families

variable {Handle : Type} (hexdigest : List Char → List Char)

structure Family (processes : List (Process Handle)) : Prop where
  distinct : (processes.map Process.pid).Nodup
  each : ∀ process ∈ processes, Local hexdigest process

theorem called_pids (processes : List (Process Handle)) (pid : Nat) (call : ProcessCall Handle) :
    (processes.map fun process =>
      if process.pid = pid then process.call hexdigest call else process).map Process.pid =
      processes.map Process.pid := by
  rw [List.map_map]
  apply List.map_congr_left
  intro process _
  rw [Function.comp_apply]
  split
  · exact call_pid hexdigest process call
  · rfl

theorem forked_pid (process : Process Handle) (child : Nat) : (process.forked child).pid = child := by
  unfold Process.forked Process.afterForkInChild
  split <;> rfl

theorem step_family (processes next : List (Process Handle)) (event : PluginEvent Handle)
    (family : Family hexdigest processes)
    (taken : step hexdigest processes event = some next) : Family hexdigest next := by
  cases event with
  | call pid call =>
      obtain ⟨live, same⟩ := Option.ite_none_right_eq_some.mp taken
      cases same
      refine ⟨by rw [called_pids]; exact family.distinct, ?_⟩
      intro process member
      obtain ⟨before, listed, same⟩ := List.mem_map.mp member
      have holds := family.each before listed
      split at same
      · rw [← same]
        exact call_local holds call
      · rw [← same]
        exact holds
  | fork pid child =>
      obtain ⟨fresh, same⟩ := Option.ite_none_left_eq_some.mp taken
      obtain ⟨parent, found, same⟩ := Option.map_eq_some_iff.mp same
      cases same
      have listed := List.mem_of_find?_eq_some found
      have other : child ≠ parent.pid := by
        rintro rfl
        exact fresh (List.mem_map_of_mem listed)
      refine ⟨?_, ?_⟩
      · rw [List.map_append, List.map_singleton, forked_pid]
        exact List.nodup_append.mpr ⟨family.distinct, List.nodup_singleton _,
          fun first member second last same =>
            fresh (by rwa [← List.mem_singleton.mp last, ← same])⟩
      · intro process member
        rcases List.mem_append.mp member with old | new
        · exact family.each process old
        · rw [List.mem_singleton.mp new]
          exact inherited_local (forked_inherited (family.each parent listed) child other)
  | exits pid =>
      cases taken
      exact ⟨family.distinct.sublist (List.filter_sublist.map _),
        fun process member => family.each process (List.mem_of_mem_filter member)⟩

theorem family_initial (pid : Nat) : Family hexdigest [({ pid := pid } : Process Handle)] := by
  refine ⟨List.nodup_singleton _, ?_⟩
  intro process member
  rw [List.mem_singleton.mp member]
  exact local_initial hexdigest pid

theorem reached_family (pid : Nat) (events : List (PluginEvent Handle))
    (processes : List (Process Handle))
    (reached : Steps.run (step hexdigest) [{ pid := pid }] events = some processes) :
    Family hexdigest processes :=
  Steps.invariant_run (step hexdigest) (Family hexdigest)
    (fun before event after holds taken => step_family hexdigest before after event holds taken)
    [{ pid := pid }] processes events (family_initial hexdigest pid) reached

/-- A registration is that of its own process, and two processes never have writers with
default destinations of one name, whatever was forked and whatever is left running. -/
theorem default_destinations_are_process_local (pid : Nat) (events : List (PluginEvent Handle))
    (processes : List (Process Handle))
    (reached : Steps.run (step hexdigest) [{ pid := pid }] events = some processes) :
    (∀ process ∈ processes, process.registeredPid = process.adapter.map fun _ => process.pid) ∧
      ∀ first ∈ processes, ∀ second ∈ processes, ∀ left ∈ first.observers,
        ∀ right ∈ second.observers, left.adapter.running ≠ [] → right.adapter.running ≠ [] →
        ∀ directory other name, left.eventPath = .scoped directory name →
          right.eventPath = .scoped other name → first = second := by
  have family := reached_family hexdigest pid events processes reached
  refine ⟨fun process member => (family.each process member).registered, ?_⟩
  intro first firstMember second secondMember left leftMember right rightMember leftRuns rightRuns
    directory other name leftPath rightPath
  obtain ⟨_, leftOwn⟩ := (family.each first firstMember).own left leftMember leftRuns
  obtain ⟨_, rightOwn⟩ := (family.each second secondMember).own right rightMember rightRuns
  rw [leftPath] at leftOwn
  rw [rightPath] at rightOwn
  obtain ⟨launch, leftName⟩ := scoped_path hexdigest _ _ _ _ leftOwn
  obtain ⟨otherLaunch, rightName⟩ := scoped_path hexdigest _ _ _ _ rightOwn
  have same := scoped_name_pid launch otherLaunch first.pid second.pid (leftName ▸ rightName)
  exact List.inj_on_of_nodup_map family.distinct firstMember secondMember same

theorem sample_destinations_are_local :
    sampleProcesses.map Process.registeredPid = [some 10, some 11] ∧
      sampleProcesses.map (fun process => process.observers.map (·.adapter.running)) =
        [[[.sink 0]], [[], [.sink 0]]] ∧
      ∀ first ∈ sampleProcesses, ∀ second ∈ sampleProcesses, ∀ left ∈ first.observers,
        ∀ right ∈ second.observers, left.adapter.running ≠ [] → right.adapter.running ≠ [] →
        ∀ directory other name, left.eventPath = .scoped directory name →
          right.eventPath = .scoped other name → first = second :=
  ⟨rfl, rfl, (default_destinations_are_process_local sampleDigest 10 sampleEvents sampleProcesses
    sample_reached).2⟩

/-! ## One writer in a process -/

variable {hexdigest}

variable (hexdigest)

end Families

end KVTransferObservability.PluginOwnership
