import KVTransferObservability.Native
import KVTransferObservability.Library.Machine

/-!
# What the host sees of the binding

The host calls `_observe_host` and `_observe_correlated_host` while it serves, with
records of any kind. Both answer with a boolean, and with `True` only if a callback of
the plugin did. Two exceptions escape: that of a terminal record whose job id cannot be
hashed, which is looked up outside every `try`, and that of an operation whose text
recurses too deeply, which `_operation` does not catch.
-/

namespace KVTransferObservability.HostCallbacks

open Library PythonValues Schema HostFacts Normalization Native
open Correlated (CorrelatedHostObservation)
open VllmOffloadingObserverBinding (correlatedOf operationOf)

set_option autoImplicit false

section Callbacks

variable {World : Type}

def terminalEvents : List String := ["transfer_completed", "transfer_cancelled"]

/-- What `_observe_host` needs outside its `try` blocks: the job id of a terminal record can
be a dictionary key, and the text of the operation can be made, unless the record is a
fact. -/
structure Tractable (record : HostRecord) : Prop where
  hashable : ∀ event ∈ terminalEvents, valueOf record.event = .str event →
    (record.jobId.getD .none).hashable = true
  printable : ∀ event, valueOf record.event = .str event →
    (∀ fact : HostFactEvent, event ≠ fact.value) →
    record.interpreter.reprOverflows (valueOf record.operation) = false

/-- The source observation comes from the record. -/
inductive SourceOf (self : VllmOffloadingObserverBinding World) (record : HostRecord) :
    SourceObservation → Prop
  | submitted (identity : ObservationIdentity) (operation : TransferOperation) (jobId : Nat)
      (blockCount : PyObject) (source : CoreTransferSubmitted)
      (built : self.submittedSource record identity operation jobId blockCount = .ok source) :
      SourceOf self record (.submitted source)
  | terminal (event : String) (transfer : TransferIdentity) (operation : TransferOperation)
      (source : SourceObservation)
      (built : self.terminalSource record event transfer operation = .ok (some source)) :
      SourceOf self record source

/-- A callback of the plugin is given what the record says, and returns `True`. -/
inductive Taken (self : VllmOffloadingObserverBinding World) (world : World)
    (record : HostRecord) : Prop
  | observed (callbacks : HostObserverCallbacks World) (source : SourceObservation)
      (registered : self.callbacks = some callbacks) (made : SourceOf self record source)
      (answer : (callbacks.observe world source).1 = .ok (.bool true))
  | fact (callback : World → HostFact → Py PyObject × World) (event : HostFactEvent)
      (fact : HostFact)
      (registered : self.callbacks.bind HostObserverCallbacks.hostFact = some callback)
      (made : self.hostFactOf record event = .ok (some fact))
      (answer : (callback world fact).1 = .ok (.bool true))

def TakenCorrelated (self : VllmOffloadingObserverBinding World) (world : World)
    (record : CorrelatedHostRecord) : Prop :=
  ∃ callback item, self.callbacks.bind HostObserverCallbacks.correlated = some callback ∧
    correlatedOf record = .ok item ∧ (callback world item).1 = .ok (.bool true)

/-- `True` or `False` is returned, and `True` for a reason only. -/
def Contained (answer : Py Bool) (taken : Prop) : Prop :=
  ∃ accepted, answer = .ok accepted ∧ (accepted = true → taken)

theorem contained_false (taken : Prop) : Contained (.ok false) taken := by
  refine ⟨false, rfl, ?_⟩
  intro accepted
  cases accepted

theorem is_true_iff (answer : PyObject) : answer.isTrue = true ↔ answer = .bool true := by
  constructor
  · intro accepted
    unfold PyObject.isTrue at accepted
    split at accepted
    · rfl
    · cases accepted
  · intro same
    rw [same]
    rfl

variable (self : VllmOffloadingObserverBinding World) (world : World)

/-! ## One record -/

theorem operation_of_fits (record : HostRecord)
    (fits : record.interpreter.reprOverflows (valueOf record.operation) = false) :
    ∃ operation, operationOf record = .ok operation := by
  unfold VllmOffloadingObserverBinding.operationOf
  split
  · exact ⟨_, rfl⟩
  · exact ⟨_, rfl⟩
  · exact ⟨_, rfl⟩
  · rename_i error _ notValue raised
    obtain ⟨message, same⟩ := record.interpreter.enum_member_errors fits error raised
    exact absurd same (notValue message)

theorem operation_of_overflows (record : HostRecord)
    (overflows : record.interpreter.reprOverflows (valueOf record.operation) = true) :
    operationOf record = .error (.raised "RecursionError") := by
  unfold VllmOffloadingObserverBinding.operationOf
  rw [record.interpreter.enum_member_overflows overflows]

theorem submitted_contained (record : HostRecord) (operation : Option TransferOperation) :
    Contained (self.observeSubmitted world record operation).1 (Taken self world record) := by
  unfold VllmOffloadingObserverBinding.observeSubmitted
  split
  · rename_i identity operation blockCount jobId _ _ _
    split
    · exact contained_false _
    · rename_i source built
      split
      · exact contained_false _
      · rename_i callbacks registered
        split
        · exact contained_false _
        · split
          · exact contained_false _
          · rename_i answer next answered
            split
            · rename_i accepted
              refine ⟨true, rfl, fun _ => ?_⟩
              refine .observed callbacks (.submitted source) registered
                (.submitted identity operation _ _ source built) ?_
              rw [answered, (is_true_iff answer).mp accepted]
            · exact contained_false _
  · exact contained_false _

theorem terminal_contained (record : HostRecord) (event : String)
    (operation : Option TransferOperation)
    (hashable : (record.jobId.getD .none).hashable = true) :
    Contained (self.observeTerminal world record event operation).1
      (Taken self world record) := by
  have hashed : (record.jobId.getD .none).integerKey =
      .ok (record.jobId.getD .none).equalInteger := by
    unfold PyObject.integerKey
    rw [if_pos hashable]
  unfold VllmOffloadingObserverBinding.observeTerminal
  rw [hashed]
  dsimp only
  split
  · rename_i callbacks jobId entry operation registered _
    split
    · exact contained_false _
    · split
      · exact contained_false _
      · exact contained_false _
      · rename_i source built
        split
        · exact contained_false _
        · rename_i answer next answered
          refine ⟨answer.isTrue, rfl, ?_⟩
          intro accepted
          refine .observed callbacks source registered
            (.terminal event entry.transfer operation source built) ?_
          rw [answered, (is_true_iff answer).mp accepted]
  · exact contained_false _

/-- The lookup raises whether or not a callback is registered. -/
theorem unhashable_raises (record : HostRecord) (event : String)
    (operation : Option TransferOperation)
    (unhashable : (record.jobId.getD .none).hashable = false) :
    self.observeTerminal world record event operation =
      (.error (.typeError "unhashable type"), self, world) := by
  unfold VllmOffloadingObserverBinding.observeTerminal PyObject.integerKey
  rw [unhashable]
  rfl

theorem fact_contained (record : HostRecord) (event : HostFactEvent) :
    Contained (.ok (self.observeHostFact world record event).1) (Taken self world record) := by
  unfold VllmOffloadingObserverBinding.observeHostFact
  split
  · exact contained_false _
  · rename_i callback registered
    split
    · exact contained_false _
    · exact contained_false _
    · rename_i fact built
      split
      · exact contained_false _
      · rename_i answer next answered
        refine ⟨answer.isTrue, rfl, ?_⟩
        intro accepted
        refine .fact callback event fact registered built ?_
        rw [answered, (is_true_iff answer).mp accepted]

theorem correlated_contained (record : CorrelatedHostRecord) :
    Contained (self.observeCorrelatedHost world record).1
      (TakenCorrelated self world record) := by
  unfold VllmOffloadingObserverBinding.observeCorrelatedHost
  split
  · exact contained_false _
  · rename_i callback registered
    split
    · exact contained_false _
    · rename_i item built
      split
      · exact contained_false _
      · rename_i answer next answered
        refine ⟨answer.isTrue, rfl, ?_⟩
        intro accepted
        refine ⟨callback, item, registered, built, ?_⟩
        rw [answered, (is_true_iff answer).mp accepted]

/-- A fact is recognised before the operation is looked at. -/
theorem fact_event_iff (event : String) :
    memberOfValue HostFactEvent.all HostFactEvent.value (.str event) = none ↔
      ∀ fact : HostFactEvent, event ≠ fact.value := by
  rw [memberOfValue, List.find?_eq_none]
  constructor
  · intro unknown fact same
    have listed : fact ∈ HostFactEvent.all := by cases fact <;> decide
    exact unknown fact listed (beq_iff_eq.mpr same)
  · intro unknown fact _ same
    exact unknown fact (beq_iff_eq.mp same)

/-- Every other record with an event goes through the lookup of its operation. -/
theorem host_operation (record : HostRecord) (event : String)
    (operation : Option TransferOperation) (name : valueOf record.event = .str event)
    (unknown : ∀ fact : HostFactEvent, event ≠ fact.value)
    (looked : operationOf record = .ok operation) :
    self.observeHost world record =
      if event = "transfer_submitted" then self.observeSubmitted world record operation
      else if event = "transfer_completed" ∨ event = "transfer_cancelled" then
        self.observeTerminal world record event operation
      else (.ok false, self, world) := by
  unfold VllmOffloadingObserverBinding.observeHost
  simp only [name, (fact_event_iff event).mpr unknown, looked]

theorem terminal_events_unknown (event : String) (terminal : event ∈ terminalEvents) :
    (∀ fact : HostFactEvent, event ≠ fact.value) ∧ event ≠ "transfer_submitted" ∧
      (event = "transfer_completed" ∨ event = "transfer_cancelled") := by
  have kind : event = "transfer_completed" ∨ event = "transfer_cancelled" := by
    simpa [terminalEvents] using terminal
  refine ⟨?_, ?_, kind⟩
  · intro fact
    rcases kind with rfl | rfl <;> cases fact <;> decide
  · rcases kind with rfl | rfl <;> decide

/-- A record that is looked up outside a `try` and cannot be raises into the host. -/
theorem overflow_raises (record : HostRecord) (event : String)
    (name : valueOf record.event = .str event)
    (unknown : ∀ fact : HostFactEvent, event ≠ fact.value)
    (overflows : record.interpreter.reprOverflows (valueOf record.operation) = true) :
    self.observeHost world record = (.error (.raised "RecursionError"), self, world) := by
  unfold VllmOffloadingObserverBinding.observeHost
  simp only [name, (fact_event_iff event).mpr unknown, operation_of_overflows record overflows]

theorem host_contained_iff (record : HostRecord) :
    Contained (self.observeHost world record).1 (Taken self world record) ↔
      Tractable record := by
  constructor
  · rintro ⟨accepted, returned, _⟩
    have printable : ∀ event, valueOf record.event = .str event →
        (∀ fact : HostFactEvent, event ≠ fact.value) →
        record.interpreter.reprOverflows (valueOf record.operation) = false := by
      intro event name unknown
      by_contra overflows
      rw [overflow_raises self world record event name unknown
        (Bool.of_not_eq_false overflows)] at returned
      cases returned
    refine ⟨?_, printable⟩
    intro event terminal name
    obtain ⟨unknown, notSubmitted, kind⟩ := terminal_events_unknown event terminal
    obtain ⟨operation, looked⟩ := operation_of_fits record (printable event name unknown)
    by_contra unhashable
    rw [host_operation self world record event operation name unknown looked,
      if_neg notSubmitted, if_pos kind, unhashable_raises self world record event operation
      (Bool.eq_false_iff.mpr unhashable)] at returned
    cases returned
  · intro tractable
    cases name : valueOf record.event with
    | str event =>
        cases known : memberOfValue HostFactEvent.all HostFactEvent.value (.str event) with
        | some factEvent =>
            have fact := fact_contained self world record factEvent
            unfold VllmOffloadingObserverBinding.observeHost
            simpa only [name, known] using fact
        | none =>
            have unknown := (fact_event_iff event).mp known
            obtain ⟨operation, looked⟩ :=
              operation_of_fits record (tractable.printable event name unknown)
            rw [host_operation self world record event operation name unknown looked]
            split
            · exact submitted_contained self world record operation
            · split
              · rename_i kind
                refine terminal_contained self world record event operation
                  (tractable.hashable event ?_ name)
                simpa [terminalEvents] using kind
              · exact contained_false _
    | _ =>
        unfold VllmOffloadingObserverBinding.observeHost
        rw [name]
        exact contained_false _

end Callbacks

/-! ## Runs -/

section Runs

variable {World : Type}

/-- What happens to a binding: it is registered and removed again, and called by the
host. -/
inductive BindingCall (World : Type)
  | register (callbacks : HostObserverCallbacks World) (handle : Bool)
  | unregister
  | host (record : HostRecord)
  | correlated (record : CorrelatedHostRecord)

/-- A binding and what lies behind its callbacks. -/
abbrev Served (World : Type) := VllmOffloadingObserverBinding World × World

def step (served : Served World) : BindingCall World → Py Bool × Served World
  | .register callbacks handle =>
      let (answer, binding) := served.1.register callbacks handle
      (answer, binding, served.2)
  | .unregister => (.ok true, served.1.unregister, served.2)
  | .host record => served.1.observeHost served.2 record
  | .correlated record =>
      let (answer, world) := served.1.observeCorrelatedHost served.2 record
      (answer, served.1, world)

/-- A call of the host is contained; the plugin's own calls may raise. -/
def Serves (served : Served World) (call : BindingCall World) : Prop :=
  match call with
  | .host record => Contained (step served call).1 (Taken served.1 served.2 record)
  | .correlated record =>
      Contained (step served call).1 (TakenCorrelated served.1 served.2 record)
  | _ => True

/-- The condition on a call of the host; calls of the plugin and correlated records meet it
always. -/
def TractableCall : BindingCall World → Prop
  | .host record => Tractable record
  | _ => True

theorem serves_iff (served : Served World) (call : BindingCall World) :
    Serves served call ↔ TractableCall call := by
  cases call with
  | register callbacks handle => exact Iff.rfl
  | unregister => exact Iff.rfl
  | host record => exact host_contained_iff served.1 served.2 record
  | correlated record =>
      exact iff_of_true (correlated_contained served.1 served.2 record) trivial

/-- In every run of a binding each call of the host ends with a boolean, `True` only if a
callback returned `True` for the record, exactly if no terminal record of the run has a
job id that cannot be hashed and no record outside the facts an operation whose text
recurses too deeply. -/
theorem host_calls_contained_iff_tractable (processUuid : ProcessUuid) (world : World)
    (calls : List (BindingCall World)) :
    (∀ before call after, calls = before ++ call :: after →
        Serves (Machine.finalState step ({ processUuid := processUuid }, world) before) call) ↔
      ∀ call ∈ calls, TractableCall call := by
  constructor
  · intro every call member
    obtain ⟨before, after, split⟩ := List.append_of_mem member
    exact (serves_iff _ call).mp (every before call after split)
  · intro every before call after split
    apply (serves_iff _ call).mpr
    apply every
    rw [split]
    exact List.mem_append_right before List.mem_cons_self

def namedEvent (name : String) : PyObject := .object true (some (.str name))

/-- A completed transfer whose job id is a list. -/
def listJobRecord : HostRecord :=
  { event := some (namedEvent "transfer_completed"), jobId := some (.list []) }

/-- A cancelled one whose job id is an object of a class that is compared by value. -/
def unhashableJobRecord : HostRecord :=
  { event := some (namedEvent "transfer_cancelled"),
    jobId := some (.object false (some (.int 7))) }

/-- An event the binding has no use for, with an operation a thousand brackets deep. -/
def deepOperationRecord : HostRecord :=
  { interpreter := .limitedTo 1000, event := some (namedEvent "transfer_queued"),
    operation := some (.object true (some (Interpreter.nestedList 1000))) }

def hostProcess : ProcessUuid := ⟨"cccccccccccccccccccccccccccccccc", by decide +kernel⟩

def acceptingCallbacks : HostObserverCallbacks Unit :=
  { observe := fun world _ => (.ok (.bool true), world), hostFact := none }

/-- A binding on which the plugin has registered. -/
def registeredServed : Served Unit :=
  Machine.finalState step ({ processUuid := hostProcess }, ()) [.register acceptingCallbacks true]

/-- The records raise into the host, the first before the registration as well. -/
theorem list_job_raises :
    (step ({ processUuid := hostProcess }, ()) (.host listJobRecord)).1 =
        .error (.typeError "unhashable type") ∧
      (step registeredServed (.host listJobRecord)).1 =
        .error (.typeError "unhashable type") ∧
      (step registeredServed (.host unhashableJobRecord)).1 =
        .error (.typeError "unhashable type") ∧
      (step registeredServed (.host deepOperationRecord)).1 =
        .error (.raised "RecursionError") ∧
      ¬ Serves registeredServed (.host listJobRecord) := by
  refine ⟨rfl, rfl, rfl, ?_, ?_⟩
  · have raised := overflow_raises registeredServed.1 registeredServed.2 deepOperationRecord
      "transfer_queued" rfl (by intro fact; cases fact <;> decide) (Interpreter.nested_list_overflows 1000)
    unfold step
    dsimp only
    rw [raised]
  · rw [serves_iff]
    intro tractable
    have impossible := tractable.hashable "transfer_completed" List.mem_cons_self rfl
    cases impossible

end Runs

end KVTransferObservability.HostCallbacks
