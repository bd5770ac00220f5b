import KVTransferObservability.AdapterLifecycle

/-!
# What one start or stop can do

`Started` and `Stopped` list every way a call ends, with the registration it leaves
and the writers that still run; what is proved about runs is proved from the lists.
-/

namespace KVTransferObservability.LifecycleTransitions

open Library PythonValues Adapter AdapterLifecycle

set_option autoImplicit false

section Calls

variable {Binding Handle Host : Type}

/-- The call gets as far as opening the resources. -/
structure Attempts (adapter : Lifecycle Binding Handle) (outcomes : StartOutcomes Host) :
    Prop where
  enabled : adapter.enabled = true
  stopped : adapter.state = .stopped
  contract : ∃ version, outcomes.contractVersion = .ok version ∧
    version.equalsText hostObserverContract = true

/-- No writer is created. -/
def Unopened (construction : Construction) : Prop :=
  construction.normalizerRaises = true ∨ construction.sinkRaises = true

/-- The sink is created and the descriptor capture is not. -/
structure HalfOpened (adapter : Lifecycle Binding Handle) (construction : Construction) :
    Prop where
  normalizer : construction.normalizerRaises = false
  sink : construction.sinkRaises = false
  configured : adapter.capturesDescriptors = true
  capture : construction.captureRaises = true

structure Opened (adapter : Lifecycle Binding Handle) (construction : Construction) :
    Prop where
  normalizer : construction.normalizerRaises = false
  sink : construction.sinkRaises = false
  capture : adapter.capturesDescriptors = true → construction.captureRaises = false

variable (register : Binding → Host → Py (Option Handle) × Binding)
variable (unregister : Binding → Handle → Host → Py Unit × Binding)
variable (self : Lifecycle Binding Handle)

/-- The resources of the next attempt. -/
def opening : Resources := ⟨self.attempts, self.capturesDescriptors⟩

inductive Started (outcomes : StartOutcomes Host) :
    Except AdapterActivationError Bool → Lifecycle Binding Handle → Prop
  | idle (answer : Except AdapterActivationError Bool)
      (idle : ¬ Attempts self outcomes) (inactive : answer ≠ .ok true) :
      Started outcomes answer self
  | unopened (counters : LifecycleCounters) (attempts : Attempts self outcomes)
      (unopened : Unopened outcomes.construction) :
      Started outcomes (.error (.resource "observer destinations could not be initialized"))
        { self with counterValues := counters }
  | halfOpened (counters : LifecycleCounters) (running : List Writer)
      (attempts : Attempts self outcomes) (opened : HalfOpened self outcomes.construction)
      (left : ∀ writer, writer ∈ running ↔
        (writer ∈ self.running ∨ writer = (opening self).sink) ∧
          ((opening self).sink = writer → outcomes.closing.sink.finishes = false)) :
      Started outcomes (.error (.resource "observer destinations could not be initialized"))
        { self with
          counterValues := counters, running := running, attempts := self.attempts + 1 }
  | unregistered (counters : LifecycleCounters) (running : List Writer)
      (attempts : Attempts self outcomes) (opened : Opened self outcomes.construction)
      (refused : ∀ handle, (register self.binding outcomes.host).1 ≠ .ok (some handle))
      (left : ∀ writer, writer ∈ running ↔
        (writer ∈ self.running ∨ writer ∈ (opening self).writers) ∧
          ((opening self).capture = some writer → outcomes.closing.capture.finishes = false) ∧
          ((opening self).sink = writer → outcomes.closing.sink.finishes = false)) :
      Started outcomes (.error (.registration "host observer registration failed"))
        { self with
          binding := (register self.binding outcomes.host).2
          resources := none
          state := .stopped
          counterValues := counters, running := running, attempts := self.attempts + 1 }
  | active (counters : LifecycleCounters) (handle : Handle)
      (attempts : Attempts self outcomes) (opened : Opened self outcomes.construction)
      (registered : (register self.binding outcomes.host).1 = .ok (some handle)) :
      Started outcomes (.ok true)
        { self with
          binding := (register self.binding outcomes.host).2
          handle := some handle
          resources := some (opening self)
          state := .active
          counterValues := counters
          running := self.running ++ (opening self).writers
          attempts := self.attempts + 1 }

/-- The resources of an attempt that opened all of them. -/
theorem prepare_opened (construction : Construction) (closing : ClosingOutcomes)
    (opened : Opened self construction) :
    self.prepareResources construction closing =
      (some (opening self), { self with
        running := self.running ++ (opening self).writers, attempts := self.attempts + 1 }) := by
  obtain ⟨normalizer, sink, capture⟩ := opened
  unfold Lifecycle.prepareResources Resources.writers Resources.capture opening
  cases captures : self.capturesDescriptors with
  | false => simp [normalizer, sink]
  | true => simp [normalizer, sink, capture captures]

theorem prepare_unopened (construction : Construction) (closing : ClosingOutcomes)
    (unopened : Unopened construction) :
    ∃ counters, self.prepareResources construction closing =
      (none, { self with counterValues := counters }) := by
  unfold Lifecycle.prepareResources
  by_cases normalizer : construction.normalizerRaises = true
  · rw [if_pos normalizer]
    exact ⟨self.counterValues, rfl⟩
  · have sink := unopened.resolve_left normalizer
    rw [if_neg normalizer, if_pos sink]
    unfold Lifecycle.closePreparedResources Lifecycle.closeOne
    cases closing.normalizerRaises with
    | false => exact ⟨self.counterValues, rfl⟩
    | true => exact ⟨self.countCleanupError.counterValues, rfl⟩

theorem prepare_half_opened (construction : Construction) (closing : ClosingOutcomes)
    (opened : HalfOpened self construction) :
    ∃ counters running, self.prepareResources construction closing =
        (none, { self with
          counterValues := counters, running := running, attempts := self.attempts + 1 }) ∧
      ∀ writer, writer ∈ running ↔
        (writer ∈ self.running ∨ writer = (opening self).sink) ∧
          ((opening self).sink = writer → closing.sink.finishes = false) := by
  obtain ⟨normalizer, sink, configured, capture⟩ := opened
  let created : Lifecycle Binding Handle :=
    { self with
      attempts := self.attempts + 1
      running := self.running ++ [(opening self).sink] }
  obtain ⟨running, ⟨counters, closed⟩, left⟩ :=
    close_prepared_closed created (some (opening self).sink) none closing
  refine ⟨counters, running, ?_, ?_⟩
  · have prepared : self.prepareResources construction closing =
        (none, (created.closePreparedResources (some (opening self).sink) none closing).2) := by
      unfold Lifecycle.prepareResources
      simp only [normalizer, sink, configured, capture, Bool.false_eq_true, if_false, if_true]
      unfold created opening
      rw [configured]
    rw [prepared, closed]
  · intro writer
    rw [left, List.mem_append, List.mem_singleton, Option.some.injEq]
    simp

theorem construction_cases (construction : Construction) :
    Unopened construction ∨ HalfOpened self construction ∨ Opened self construction := by
  by_cases unopened : Unopened construction
  · exact Or.inl unopened
  · obtain ⟨normalizer, sink⟩ := not_or.mp unopened
    rw [Bool.not_eq_true] at normalizer sink
    by_cases failing : self.capturesDescriptors = true ∧ construction.captureRaises = true
    · exact Or.inr (Or.inl ⟨normalizer, sink, failing.1, failing.2⟩)
    · refine Or.inr (Or.inr ⟨normalizer, sink, ?_⟩)
      intro configured
      rw [← Bool.not_eq_true]
      exact fun raises => failing ⟨configured, raises⟩

theorem unopened_not_half_opened (self : Lifecycle Binding Handle) (construction : Construction)
    (unopened : Unopened construction) : ¬ HalfOpened self construction := by
  intro half
  rcases unopened with raises | raises
  · rw [half.normalizer] at raises
    cases raises
  · rw [half.sink] at raises
    cases raises

theorem unopened_not_opened (self : Lifecycle Binding Handle) (construction : Construction)
    (unopened : Unopened construction) : ¬ Opened self construction := by
  intro opened
  rcases unopened with raises | raises
  · rw [opened.normalizer] at raises
    cases raises
  · rw [opened.sink] at raises
    cases raises

theorem half_opened_not_opened (self : Lifecycle Binding Handle) (construction : Construction)
    (half : HalfOpened self construction) : ¬ Opened self construction := by
  intro opened
  have built := opened.capture half.configured
  rw [half.capture] at built
  cases built

theorem activate_started (outcomes : StartOutcomes Host) (attempts : Attempts self outcomes) :
    Started register self outcomes (self.activate register outcomes).1
      (self.activate register outcomes).2 := by
  rcases construction_cases self outcomes.construction with unopened | half | opened
  · obtain ⟨counters, prepared⟩ :=
      prepare_unopened self outcomes.construction outcomes.closing unopened
    unfold Lifecycle.activate
    rw [prepared]
    exact .unopened counters attempts unopened
  · obtain ⟨counters, running, prepared, left⟩ :=
      prepare_half_opened self outcomes.construction outcomes.closing half
    unfold Lifecycle.activate
    rw [prepared]
    exact .halfOpened counters running attempts half left
  · have prepared := prepare_opened self outcomes.construction outcomes.closing opened
    by_cases registers : ∃ handle, (register self.binding outcomes.host).1 = .ok (some handle)
    · obtain ⟨handle, registered⟩ := registers
      have answered : register self.binding outcomes.host =
          (.ok (some handle), (register self.binding outcomes.host).2) :=
        Prod.ext registered rfl
      unfold Lifecycle.activate
      rw [prepared]
      dsimp only
      rw [answered]
      exact .active _ handle attempts opened registered
    · have refused : ∀ handle, (register self.binding outcomes.host).1 ≠ .ok (some handle) :=
        fun handle registered => registers ⟨handle, registered⟩
      let failed : Lifecycle Binding Handle :=
        { self with
          binding := (register self.binding outcomes.host).2
          resources := some (opening self)
          state := .starting
          running := self.running ++ (opening self).writers
          attempts := self.attempts + 1 }
      obtain ⟨running, ⟨counters, closed⟩, left⟩ := close_prepared_closed failed
        (some (opening self).sink) (opening self).capture outcomes.closing
      have answered : self.activate register outcomes =
          (.error (.registration "host observer registration failed"),
            { (failed.closePreparedResources (some (opening self).sink) (opening self).capture
                outcomes.closing).2 with resources := none, state := .stopped }) := by
        unfold Lifecycle.activate
        rw [prepared]
        dsimp only
        split
        · rename_i handle binding answer
          exact absurd (by rw [answer]) (refused handle)
        · rename_i result binding answer
          unfold failed
          rw [answer]
      rw [answered, closed]
      refine .unregistered counters running attempts opened refused ?_
      intro writer
      rw [left, List.mem_append, Option.some.injEq]

theorem start_started (outcomes : StartOutcomes Host) :
    Started register self outcomes (self.start register outcomes).1
      (self.start register outcomes).2 := by
  by_cases attempts : Attempts self outcomes
  · obtain ⟨enabled, stopped, version, contract, provided⟩ := attempts
    have answered : self.start register outcomes = self.activate register outcomes := by
      unfold Lifecycle.start
      simp [enabled, stopped, contract, provided]
    rw [answered]
    exact activate_started register self outcomes ⟨enabled, stopped, version, contract, provided⟩
  · unfold Lifecycle.start
    by_cases enabled : self.enabled = false
    · rw [if_pos enabled]
      exact .idle _ attempts (by simp)
    · by_cases stopped : self.state = .stopped
      · rw [if_neg enabled, if_neg (not_not.mpr stopped)]
        cases contract : outcomes.contractVersion with
        | error error => exact .idle _ attempts (by simp)
        | ok version =>
            have mismatch : version.equalsText hostObserverContract ≠ true := by
              intro provided
              exact attempts ⟨by simpa using enabled, stopped, version, contract, provided⟩
            dsimp only
            rw [if_neg mismatch]
            exact .idle _ attempts (by simp)
      · rw [if_neg enabled, if_pos stopped]
        exact .idle _ attempts (by simp)

/-- The binding after the unregistration of a stop. -/
def unregistered (host : Host) : Binding :=
  match self.handle with
  | none => self.binding
  | some handle => (unregister self.binding handle host).2

/-- The writers of the adapter's resources that the closing leaves running. -/
def Survives (closing : ClosingOutcomes) (writer : Writer) : Prop :=
  writer ∈ self.running ∧
    ∀ resources, self.resources = some resources →
      (resources.capture = some writer → closing.capture.finishes = false) ∧
      (resources.sink = writer → closing.sink.finishes = false)

inductive Stopped (host : Host) (closing : ClosingOutcomes) :
    Bool → Lifecycle Binding Handle → Prop
  | idle (stopped : self.state = .stopped) : Stopped host closing true self
  | kept (answer : Bool) (counters : LifecycleCounters) (running : List Writer)
      (resources : Resources) (writer : Writer) (busy : self.state ≠ .stopped)
      (left : ∀ writer, writer ∈ running ↔ Survives self closing writer)
      (owned : self.resources = some resources) (member : writer ∈ resources.writers)
      (alive : writer ∈ running) :
      Stopped host closing answer
        { self with
          binding := unregistered unregister self host
          handle := none
          state := .stopping
          counterValues := counters, running := running }
  | finished (answer : Bool) (counters : LifecycleCounters) (running : List Writer)
      (busy : self.state ≠ .stopped)
      (left : ∀ writer, writer ∈ running ↔ Survives self closing writer)
      (gone : ∀ resources, self.resources = some resources →
        ∀ writer ∈ resources.writers, writer ∉ running) :
      Stopped host closing answer
        { self with
          binding := unregistered unregister self host
          handle := none
          resources := none
          state := .stopped
          counterValues := counters, running := running }

theorem unregister_handle_left (host : Host) :
    ∃ counters, (self.unregisterHandle unregister host).2 =
      { self with binding := unregistered unregister self host, counterValues := counters } := by
  rcases self with ⟨enabled, captures, binding, state, held, resources, counters, attempts, running⟩
  unfold Lifecycle.unregisterHandle unregistered
  cases held with
  | none => exact ⟨counters, rfl⟩
  | some handle =>
      rcases answer : unregister binding handle host with ⟨error | done, next⟩
      · simp only [answer]
        exact ⟨_, rfl⟩
      · simp only [answer]
        exact ⟨_, rfl⟩

theorem close_owned_left (closing : ClosingOutcomes) :
    ∃ counters running, (self.closeOwned closing).2 =
        { self with running := running, counterValues := counters } ∧
      ∀ writer, writer ∈ running ↔ Survives self closing writer := by
  rcases self with ⟨enabled, captures, binding, state, held, owned, counters, attempts, running⟩
  unfold Lifecycle.closeOwned Survives
  cases owned with
  | none =>
      refine ⟨counters, running, rfl, ?_⟩
      intro writer
      simp
  | some resources =>
      obtain ⟨remaining, ⟨after, closed⟩, left⟩ := close_prepared_closed
        ⟨enabled, captures, binding, state, held, some resources, counters, attempts, running⟩
        (some resources.sink) resources.capture closing
      refine ⟨after, remaining, closed, ?_⟩
      intro writer
      rw [left]
      simp

theorem writers_alive_iff :
    self.writersAlive = true ↔ ∃ resources writer, self.resources = some resources ∧
      writer ∈ resources.writers ∧ writer ∈ self.running := by
  unfold Lifecycle.writersAlive
  cases self.resources with
  | none => simp
  | some resources => simp

theorem stop_stopped (host : Host) (closing : ClosingOutcomes) :
    Stopped unregister self host closing (self.stop unregister host closing).1
      (self.stop unregister host closing).2 := by
  by_cases stopped : self.state = .stopped
  · unfold Lifecycle.stop
    rw [if_pos stopped]
    exact .idle stopped
  · let stopping : Lifecycle Binding Handle := { self with state := .stopping }
    obtain ⟨first, detached⟩ := unregister_handle_left unregister stopping host
    rcases detaching : stopping.unregisterHandle unregister host with ⟨unregisterOk, middle⟩
    rw [detaching] at detached
    change middle = _ at detached
    obtain ⟨second, running, closed, left⟩ := close_owned_left middle closing
    rcases closing' : middle.closeOwned closing with ⟨shutdownOk, last⟩
    rw [closing'] at closed
    change last = _ at closed
    let released : Lifecycle Binding Handle := { last with handle := none }
    have answered : self.stop unregister host closing =
        (unregisterOk && shutdownOk,
          if released.writersAlive then { released with state := .stopping }
          else { released with resources := none, state := .stopped }) := by
      unfold Lifecycle.stop
      rw [if_neg stopped]
      dsimp only
      rw [detaching]
      dsimp only
      rw [closing']
    have survives : ∀ writer, writer ∈ running ↔ Survives self closing writer := by
      intro writer
      rw [left, detached]
      rfl
    rw [answered]
    by_cases alive : released.writersAlive = true
    · rw [if_pos alive]
      obtain ⟨resources, writer, owned, member, runs⟩ := (writers_alive_iff released).mp alive
      unfold released at owned runs ⊢
      rw [closed, detached] at owned runs ⊢
      exact .kept _ second running resources writer stopped survives owned member runs
    · rw [if_neg alive]
      rw [writers_alive_iff] at alive
      unfold released at alive ⊢
      rw [closed, detached] at alive ⊢
      refine .finished _ second running stopped survives ?_
      intro resources owned writer member runs
      exact alive ⟨resources, writer, owned, member, runs⟩

end Calls

end KVTransferObservability.LifecycleTransitions
