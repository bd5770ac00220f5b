import KVTransferObservability.Adapter
import KVTransferObservability.Library.Machine

/-!
# Starting and stopping the host adapter

`adapter.py`: `KVTransferHostAdapter.start` and `stop`, with the resources they open
and close. The lifecycle lock serializes the calls, so a run is a sequence of them;
between two calls a writer may finish. What the host binding and the writers do in a
call is part of the call; the binding itself is a parameter.
-/

namespace KVTransferObservability.AdapterLifecycle

open Library PythonValues Adapter

set_option autoImplicit false

def hostObserverContract : String := "vllm.kv-transfer.observer.v1"

inductive AdapterActivationError
  | contract (message : String)
  | resource (message : String)
  | registration (message : String)
  deriving DecidableEq, Repr

/-- A writer thread, by the attempt to start that created it. -/
inductive Writer
  | sink (attempt : Nat)
  | descriptor (attempt : Nat)
  deriving DecidableEq, Repr

/-- What the `close` of a writer does: the writer finishes within the remaining
timeout, or `close` returns `False`, or it raises. In the last two cases the writer
may still finish before `is_alive` is read. -/
inductive CloseOutcome
  | finished
  | timedOut (exitsAfter : Bool)
  | raised (exitsAfter : Bool)
  deriving DecidableEq, Repr

/-- The writer is gone when `is_alive` is read after the `close`. -/
def CloseOutcome.finishes : CloseOutcome → Bool
  | .finished => true
  | .timedOut exitsAfter => exitsAfter
  | .raised exitsAfter => exitsAfter

structure ClosingOutcomes where
  normalizerRaises : Bool := false
  capture : CloseOutcome := .finished
  sink : CloseOutcome := .finished
  deriving DecidableEq, Repr

/-- Which of the constructors of `_prepare_resources` raises. -/
structure Construction where
  normalizerRaises : Bool := false
  sinkRaises : Bool := false
  captureRaises : Bool := false
  deriving DecidableEq, Repr

/-- What a call of `start` meets. -/
structure StartOutcomes (Host : Type) where
  contractVersion : Py PyObject
  construction : Construction
  host : Host
  closing : ClosingOutcomes

structure LifecycleCounters where
  registrations : Nat := 0
  unregisterErrors : Nat := 0
  cleanupErrors : Nat := 0
  shutdownTimeouts : Nat := 0
  deriving DecidableEq, Repr

/-- The normalizer, the sink and the descriptor capture of one attempt. -/
structure Resources where
  attempt : Nat
  captures : Bool
  deriving DecidableEq, Repr

def Resources.sink (resources : Resources) : Writer := .sink resources.attempt

def Resources.capture (resources : Resources) : Option Writer :=
  if resources.captures then some (.descriptor resources.attempt) else none

def Resources.writers (resources : Resources) : List Writer :=
  resources.sink :: resources.capture.toList

/-- The adapter with the binding it is started over and the writers that run.
`enabled` and `capturesDescriptors` are its configuration; `handle` stands for
`_binding` and `_handle`, and `resources` for `_normalizer`, `_sink` and
`_descriptor_capture`, which are set and cleared together. -/
structure Lifecycle (Binding Handle : Type) where
  enabled : Bool
  capturesDescriptors : Bool
  binding : Binding
  state : AdapterState := .stopped
  handle : Option Handle := none
  resources : Option Resources := none
  counterValues : LifecycleCounters := {}
  attempts : Nat := 0
  running : List Writer := []

/-- `close` of a writer: its answer, and the writers that run afterwards. -/
def closeWriter (running : List Writer) (writer : Writer) : CloseOutcome → Py Bool × List Writer
  | .finished => (.ok true, running.filter (· ≠ writer))
  | .timedOut exitsAfter =>
      if writer ∈ running then
        (.ok false, if exitsAfter then running.filter (· ≠ writer) else running)
      else (.ok true, running)
  | .raised exitsAfter =>
      (.error (.raised "writer close failed"),
        if exitsAfter then running.filter (· ≠ writer) else running)

namespace Lifecycle

variable {Binding Handle Host : Type}

def countCleanupError (self : Lifecycle Binding Handle) : Lifecycle Binding Handle :=
  { self with counterValues := { self.counterValues with
      cleanupErrors := self.counterValues.cleanupErrors + 1 } }

def countShutdownTimeout (self : Lifecycle Binding Handle) : Lifecycle Binding Handle :=
  { self with counterValues := { self.counterValues with
      shutdownTimeouts := self.counterValues.shutdownTimeouts + 1 } }

def countUnregisterError (self : Lifecycle Binding Handle) : Lifecycle Binding Handle :=
  { self with counterValues := { self.counterValues with
      unregisterErrors := self.counterValues.unregisterErrors + 1 } }

/-- One writer of `_close_prepared_resources`. -/
def closeOne (self : Lifecycle Binding Handle) (cleanupOk : Bool) (outcome : CloseOutcome) :
    Option Writer → Bool × Lifecycle Binding Handle
  | none => (cleanupOk, self)
  | some writer =>
      match closeWriter self.running writer outcome with
      | (.ok true, running) => (cleanupOk, { self with running := running })
      | (.ok false, running) => (false, { self with running := running }.countShutdownTimeout)
      | (.error _, running) => (false, { self with running := running }.countCleanupError)

/-- The normalizer is closed first, then the descriptor writer, then the sink. -/
def closePreparedResources (self : Lifecycle Binding Handle) (sink capture : Option Writer)
    (closing : ClosingOutcomes) : Bool × Lifecycle Binding Handle :=
  let self := if closing.normalizerRaises then self.countCleanupError else self
  let (cleanupOk, self) := self.closeOne (!closing.normalizerRaises) closing.capture capture
  self.closeOne cleanupOk closing.sink sink

/-- A constructor that raises leaves no writer of its own behind. -/
def prepareResources (self : Lifecycle Binding Handle) (construction : Construction)
    (closing : ClosingOutcomes) : Option Resources × Lifecycle Binding Handle :=
  if construction.normalizerRaises then (none, self)
  else if construction.sinkRaises then
    (none, (self.closePreparedResources none none closing).2)
  else
    let resources : Resources := ⟨self.attempts, self.capturesDescriptors⟩
    let self := { self with
      attempts := self.attempts + 1
      running := self.running ++ [resources.sink] }
    if self.capturesDescriptors then
      if construction.captureRaises then
        (none, (self.closePreparedResources (some resources.sink) none closing).2)
      else
        (some resources, { self with running := self.running ++ resources.capture.toList })
    else (some resources, self)

variable (register : Binding → Host → Py (Option Handle) × Binding)
variable (unregister : Binding → Handle → Host → Py Unit × Binding)

/-- The part of `start` after the contract has been inspected. -/
def activate (self : Lifecycle Binding Handle) (outcomes : StartOutcomes Host) :
    Except AdapterActivationError Bool × Lifecycle Binding Handle :=
  match self.prepareResources outcomes.construction outcomes.closing with
  | (none, self) =>
      (.error (.resource "observer destinations could not be initialized"), self)
  | (some resources, self) =>
      let self := { self with state := .starting, resources := some resources }
      match register self.binding outcomes.host with
      | (.ok (some handle), binding) =>
          (.ok true, { self with
            binding := binding
            handle := some handle
            state := .active
            counterValues := { self.counterValues with
              registrations := self.counterValues.registrations + 1 } })
      | (_, binding) =>
          let self := { self with binding := binding }
          let self := (self.closePreparedResources (some resources.sink) resources.capture
            outcomes.closing).2
          (.error (.registration "host observer registration failed"),
            { self with resources := none, state := .stopped })

def start (self : Lifecycle Binding Handle) (outcomes : StartOutcomes Host) :
    Except AdapterActivationError Bool × Lifecycle Binding Handle :=
  if self.enabled = false then (.ok false, self)
  else if self.state ≠ .stopped then (.ok false, self)
  else
    match outcomes.contractVersion with
    | .error _ => (.error (.contract "host binding contract could not be inspected"), self)
    | .ok version =>
        if version.equalsText hostObserverContract then self.activate register outcomes
        else (.error (.contract ("host binding must provide " ++ hostObserverContract)), self)

/-- The unregistration of `stop`. -/
def unregisterHandle (self : Lifecycle Binding Handle) (host : Host) :
    Bool × Lifecycle Binding Handle :=
  match self.handle with
  | none => (true, self)
  | some handle =>
      match unregister self.binding handle host with
      | (.ok (), binding) => (true, { self with binding := binding })
      | (.error _, binding) => (false, { self with binding := binding }.countUnregisterError)

/-- The closing of `stop`. -/
def closeOwned (self : Lifecycle Binding Handle) (closing : ClosingOutcomes) :
    Bool × Lifecycle Binding Handle :=
  match self.resources with
  | none => (true, self)
  | some resources => self.closePreparedResources (some resources.sink) resources.capture closing

/-- `is_alive` of the sink or of the descriptor capture. -/
def writersAlive (self : Lifecycle Binding Handle) : Bool :=
  match self.resources with
  | none => false
  | some resources => resources.writers.any (self.running.contains ·)

def stop (self : Lifecycle Binding Handle) (host : Host) (closing : ClosingOutcomes) :
    Bool × Lifecycle Binding Handle :=
  if self.state = .stopped then (true, self)
  else
    let self := { self with state := .stopping }
    let (unregisterOk, self) := self.unregisterHandle unregister host
    let (shutdownOk, self) := self.closeOwned closing
    let self := { self with handle := none }
    let self :=
      if self.writersAlive then { self with state := .stopping }
      else { self with resources := none, state := .stopped }
    (unregisterOk && shutdownOk, self)

end Lifecycle

/-! ## Runs -/

/-- A call, with what it meets, or a writer that finishes between two calls. -/
inductive Call (Host : Type)
  | start (outcomes : StartOutcomes Host)
  | stop (host : Host) (closing : ClosingOutcomes)
  | writerExits (writer : Writer)

section Runs

variable {Binding Handle Host : Type}
variable (register : Binding → Host → Py (Option Handle) × Binding)
variable (unregister : Binding → Handle → Host → Py Unit × Binding)

/-- One call; a writer that exits answers nothing. -/
def step (self : Lifecycle Binding Handle) :
    Call Host → Except AdapterActivationError Bool × Lifecycle Binding Handle
  | .start outcomes => self.start register outcomes
  | .stop host closing =>
      let (answer, self) := self.stop unregister host closing
      (.ok answer, self)
  | .writerExits writer =>
      (.ok true, { self with running := self.running.filter (· ≠ writer) })

/-- The adapter as its constructor leaves it, over a binding. -/
def constructed (enabled capturesDescriptors : Bool) (binding : Binding) :
    Lifecycle Binding Handle :=
  { enabled := enabled, capturesDescriptors := capturesDescriptors, binding := binding }

end Runs

/-! ## What closing leaves running -/

theorem close_writer_mem_iff (running : List Writer) (writer other : Writer)
    (outcome : CloseOutcome) :
    other ∈ (closeWriter running writer outcome).2 ↔
      other ∈ running ∧ (other = writer → outcome.finishes = false) := by
  have kept : other ∈ running.filter (· ≠ writer) ↔ other ∈ running ∧ other ≠ writer := by
    rw [List.mem_filter, decide_eq_true_iff]
  cases outcome with
  | finished =>
      simp only [closeWriter, kept, CloseOutcome.finishes]
      simp
  | timedOut exitsAfter =>
      simp only [closeWriter, CloseOutcome.finishes]
      by_cases runs : writer ∈ running
      · cases exitsAfter with
        | false => simp [runs]
        | true => simp [runs]
      · simp only [runs, if_false]
        constructor
        · intro member
          refine ⟨member, ?_⟩
          rintro rfl
          exact absurd member runs
        · exact And.left
  | raised exitsAfter =>
      cases exitsAfter with
      | false => simp [closeWriter, CloseOutcome.finishes]
      | true => simp [closeWriter, CloseOutcome.finishes]

section Closing

variable {Binding Handle : Type} (self : Lifecycle Binding Handle)

/-- Closing changes the running writers and the counters, and nothing else. -/
def Closed (next : Lifecycle Binding Handle) (running : List Writer) : Prop :=
  ∃ counters, next = { self with running := running, counterValues := counters }

theorem close_one_closed (cleanupOk : Bool) (outcome : CloseOutcome) (closing : Option Writer) :
    ∃ running, Closed self (self.closeOne cleanupOk outcome closing).2 running ∧
      ∀ writer, writer ∈ running ↔
        writer ∈ self.running ∧ (closing = some writer → outcome.finishes = false) := by
  cases closing with
  | none =>
      refine ⟨self.running, ⟨self.counterValues, rfl⟩, ?_⟩
      intro writer
      simp
  | some closed =>
      refine ⟨(closeWriter self.running closed outcome).2, ?_, ?_⟩
      · rcases answer : closeWriter self.running closed outcome with ⟨error | finished, running⟩
        · refine ⟨(Lifecycle.countCleanupError { self with running := running }).counterValues, ?_⟩
          simp only [Lifecycle.closeOne, answer]
          rfl
        · cases finished with
          | false =>
              refine ⟨(Lifecycle.countShutdownTimeout
                { self with running := running }).counterValues, ?_⟩
              simp only [Lifecycle.closeOne, answer]
              rfl
          | true =>
              refine ⟨self.counterValues, ?_⟩
              simp only [Lifecycle.closeOne, answer]
      · intro writer
        rw [close_writer_mem_iff, Option.some.injEq, eq_comm (a := closed)]

theorem close_prepared_closed (sink capture : Option Writer) (closing : ClosingOutcomes) :
    ∃ running, Closed self (self.closePreparedResources sink capture closing).2 running ∧
      ∀ writer, writer ∈ running ↔ writer ∈ self.running ∧
        (capture = some writer → closing.capture.finishes = false) ∧
        (sink = some writer → closing.sink.finishes = false) := by
  let counted := if closing.normalizerRaises then self.countCleanupError else self
  obtain ⟨captured, ⟨first, captureClosed⟩, captureLeft⟩ :=
    close_one_closed counted (!closing.normalizerRaises) closing.capture capture
  rcases answer : counted.closeOne (!closing.normalizerRaises) closing.capture capture
    with ⟨cleanupOk, middle⟩
  obtain ⟨running, ⟨second, sinkClosed⟩, sinkLeft⟩ :=
    close_one_closed middle cleanupOk closing.sink sink
  rw [answer] at captureClosed
  change middle = _ at captureClosed
  have whole : self.closePreparedResources sink capture closing =
      middle.closeOne cleanupOk closing.sink sink := by
    change (match counted.closeOne (!closing.normalizerRaises) closing.capture capture with
      | (cleanupOk, self) => self.closeOne cleanupOk closing.sink sink) = _
    rw [answer]
  have same : counted.running = self.running := by
    unfold counted
    split <;> rfl
  refine ⟨running, ⟨second, ?_⟩, ?_⟩
  · rw [whole, sinkClosed, captureClosed]
    unfold counted
    split <;> rfl
  · intro writer
    rw [sinkLeft, captureClosed]
    change (writer ∈ captured ∧ _) ↔ _
    rw [captureLeft, same, and_assoc]

end Closing

end KVTransferObservability.AdapterLifecycle
