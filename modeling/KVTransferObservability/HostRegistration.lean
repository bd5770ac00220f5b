import KVTransferObservability.Library.Alternation
import KVTransferObservability.LifecycleTransitions

/-!
# Registration with the host

`native.py`: `VllmOffloadingObserverBinding.register` and `unregister`, over a v1 host
API and optionally a v2 one. The log has every handle the host returned and every
handle that was passed to an unregister call, in order.
-/

namespace KVTransferObservability.HostRegistration

open Library PythonValues Adapter AdapterLifecycle LifecycleTransitions

set_option autoImplicit false

inductive HostApi
  | v1
  | v2
  deriving DecidableEq, Repr

inductive HostCall (Handle : Type)
  | obtained (api : HostApi) (handle : Handle)
  | released (api : HostApi) (handle : Handle)

def HostCall.api {Handle : Type} : HostCall Handle → HostApi
  | .obtained api _ => api
  | .released api _ => api

/-- What the two host APIs answer during one call of the binding. -/
structure HostOutcomes (Handle : Type) where
  registers : Py (Option Handle)
  correlatedRegisters : Py (Option Handle)
  unregisters : Py Unit
  correlatedUnregisters : Py Unit

/-- `correlatedApi` and `callbacks` say whether `_correlated_api` and `_callbacks` are
set. The adapter always passes a correlated callback. -/
structure VllmOffloadingObserverBinding (Handle : Type) where
  correlatedApi : Bool
  callbacks : Bool := false
  correlatedHandle : Option Handle := none
  log : List (HostCall Handle) := []

namespace VllmOffloadingObserverBinding

variable {Handle : Type}

def record (self : VllmOffloadingObserverBinding Handle) (call : HostCall Handle) :
    VllmOffloadingObserverBinding Handle :=
  { self with log := self.log ++ [call] }

@[simp] theorem record_correlated_api (self : VllmOffloadingObserverBinding Handle)
    (call : HostCall Handle) : (self.record call).correlatedApi = self.correlatedApi := rfl

/-- The v2 half of `register`, with the rollback of the v1 half. -/
def registerCorrelated (self : VllmOffloadingObserverBinding Handle) (handle : Handle)
    (host : HostOutcomes Handle) : Py (Option Handle) × VllmOffloadingObserverBinding Handle :=
  match host.correlatedRegisters with
  | .ok (some correlated) =>
      (.ok (some handle), { self.record (.obtained .v2 correlated) with
        correlatedHandle := some correlated, callbacks := true })
  | .ok none =>
      (host.unregisters >>= fun _ =>
          .error (.raised "correlated observer returned no handle"),
        { self.record (.released .v1 handle) with correlatedHandle := none })
  | .error error =>
      (host.unregisters >>= fun _ => .error error, self.record (.released .v1 handle))

def register (self : VllmOffloadingObserverBinding Handle) (host : HostOutcomes Handle) :
    Py (Option Handle) × VllmOffloadingObserverBinding Handle :=
  if self.callbacks then
    (.error (.raised "host observer binding is already registered"), self)
  else
    match host.registers with
    | .error error => (.error error, self)
    | .ok none => (.error (.raised "host observer returned no handle"), self)
    | .ok (some handle) =>
        let self := self.record (.obtained .v1 handle)
        if self.correlatedApi then self.registerCorrelated handle host
        else (.ok (some handle), { self with callbacks := true })

/-- The v1 handle is released in a `finally` clause. -/
def unregister (self : VllmOffloadingObserverBinding Handle) (handle : Handle)
    (host : HostOutcomes Handle) : Py Unit × VllmOffloadingObserverBinding Handle :=
  let self := { self with callbacks := false }
  match self.correlatedHandle with
  | some correlated =>
      let self := { self.record (.released .v2 correlated) with correlatedHandle := none }
      (host.unregisters >>= fun _ => host.correlatedUnregisters,
        self.record (.released .v1 handle))
  | none => (host.unregisters, self.record (.released .v1 handle))

end VllmOffloadingObserverBinding

open VllmOffloadingObserverBinding

/-! ## The log of one API -/

section Logs

variable {Handle : Type}

def callsOf (api : HostApi) (log : List (HostCall Handle)) : List (HostCall Handle) :=
  log.filter fun call => call.api = api

def Obtains (api : HostApi) (call : HostCall Handle) : Prop :=
  ∃ handle, call = .obtained api handle

/-- The second call releases the handle that the first obtained. -/
def Releases (api : HostApi) (first call : HostCall Handle) : Prop :=
  ∃ handle, first = .obtained api handle ∧ call = .released api handle

/-- The calls of the API are handles obtained and at once released, and then the
outstanding one. -/
def Logged (api : HostApi) (log : List (HostCall Handle)) (outstanding : Option Handle) : Prop :=
  Alternates (Obtains api) (Releases api) (callsOf api log) (outstanding.map (.obtained api))

theorem logged_obtained (api : HostApi) (log : List (HostCall Handle)) (handle : Handle)
    (logged : Logged api log none) : Logged api (log ++ [.obtained api handle]) (some handle) := by
  unfold Logged callsOf
  rw [List.filter_append, List.filter_singleton]
  simp only [HostCall.api, decide_true]
  exact .opened _ _ logged ⟨handle, rfl⟩

theorem logged_released (api : HostApi) (log : List (HostCall Handle)) (handle : Handle)
    (logged : Logged api log (some handle)) : Logged api (log ++ [.released api handle]) none := by
  unfold Logged callsOf
  rw [List.filter_append, List.filter_singleton]
  simp only [HostCall.api, decide_true]
  exact .closed _ _ _ logged ⟨handle, rfl, rfl⟩

theorem logged_other (api other : HostApi) (log : List (HostCall Handle)) (call : HostCall Handle)
    (outstanding : Option Handle) (called : call.api = other) (different : other ≠ api)
    (logged : Logged api log outstanding) : Logged api (log ++ [call]) outstanding := by
  unfold Logged callsOf
  rw [List.filter_append, List.filter_singleton, called]
  simp only [different, decide_false, cond_false, List.append_nil]
  exact logged

/-- Both registrations of the binding: the calls balance except for the handles that
are outstanding. -/
structure Holding (binding : VllmOffloadingObserverBinding Handle) (handle : Option Handle) :
    Prop where
  v1 : Logged .v1 binding.log handle
  v2 : Logged .v2 binding.log binding.correlatedHandle
  callbacks : binding.callbacks = handle.isSome
  correlated : binding.correlatedHandle.isSome = (handle.isSome && binding.correlatedApi)

theorem Holding.none_correlated {binding : VllmOffloadingObserverBinding Handle}
    (holding : Holding binding none) : binding.correlatedHandle = none :=
  Option.isNone_iff_eq_none.mp (by simpa using holding.correlated)

theorem bind_error_not_ok {First Second : Type} (first : Py First) (error : PyError)
    (result : Second) : (first >>= fun _ => (.error error : Py Second)) ≠ .ok result := by
  intro returned
  obtain ⟨_, _, raised⟩ := bind_eq_ok.mp returned
  cases raised

theorem holding_rolled_back (binding : VllmOffloadingObserverBinding Handle) (handle : Handle)
    (holding : Holding binding none) :
    Holding ((binding.record (.obtained .v1 handle)).record (.released .v1 handle)) none where
  v1 := logged_released .v1 _ handle (logged_obtained .v1 _ handle holding.v1)
  v2 := by
    apply logged_other .v2 .v1 _ (.released .v1 handle) _ rfl (by decide)
    exact logged_other .v2 .v1 _ (.obtained .v1 handle) _ rfl (by decide) holding.v2
  callbacks := holding.callbacks
  correlated := holding.correlated

/-- A registration of an unregistered binding obtains one handle from each API it
has, or leaves none outstanding. -/
inductive Registered (binding : VllmOffloadingObserverBinding Handle) :
    Py (Option Handle) → VllmOffloadingObserverBinding Handle → Prop
  | held (handle : Handle) (next : VllmOffloadingObserverBinding Handle)
      (holding : Holding next (some handle)) (api : next.correlatedApi = binding.correlatedApi) :
      Registered binding (.ok (some handle)) next
  | refused (answer : Py (Option Handle)) (next : VllmOffloadingObserverBinding Handle)
      (refused : ∀ handle, answer ≠ .ok (some handle)) (holding : Holding next none)
      (api : next.correlatedApi = binding.correlatedApi) :
      Registered binding answer next

theorem register_correlated_registered (binding : VllmOffloadingObserverBinding Handle)
    (handle : Handle) (host : HostOutcomes Handle) (holding : Holding binding none)
    (configured : binding.correlatedApi = true) :
    Registered binding
      ((binding.record (.obtained .v1 handle)).registerCorrelated handle host).1
      ((binding.record (.obtained .v1 handle)).registerCorrelated handle host).2 := by
  have rolledBack := holding_rolled_back binding handle holding
  unfold registerCorrelated
  cases host.correlatedRegisters with
  | error error =>
      exact .refused _ _ (fun handle => bind_error_not_ok _ _ _) rolledBack rfl
  | ok answer =>
      cases answer with
      | none =>
          refine .refused _ _ (fun handle => bind_error_not_ok _ _ _) ?_ rfl
          have logged := rolledBack.v2
          rw [rolledBack.none_correlated] at logged
          exact ⟨rolledBack.v1, logged, rolledBack.callbacks, rfl⟩
      | some correlated =>
          refine .held handle _ ⟨?_, ?_, rfl, ?_⟩ rfl
          · apply logged_other .v1 .v2 _ (.obtained .v2 correlated) _ rfl (by decide)
            exact logged_obtained .v1 _ handle holding.v1
          · apply logged_obtained .v2
            apply logged_other .v2 .v1 _ (.obtained .v1 handle) _ rfl (by decide)
            have logged := holding.v2
            rw [holding.none_correlated] at logged
            exact logged
          · exact configured.symm

theorem register_registered (binding : VllmOffloadingObserverBinding Handle)
    (host : HostOutcomes Handle) (holding : Holding binding none) :
    Registered binding (binding.register host).1 (binding.register host).2 := by
  have fresh : binding.callbacks = false := holding.callbacks
  unfold register
  rw [if_neg (by rw [fresh]; exact Bool.false_ne_true)]
  cases host.registers with
  | error error => exact .refused _ _ (fun handle same => by cases same) holding rfl
  | ok answer =>
      cases answer with
      | none => exact .refused _ _ (fun handle same => by cases same) holding rfl
      | some handle =>
          dsimp only
          by_cases configured : binding.correlatedApi = true
          · rw [record_correlated_api, if_pos configured]
            exact register_correlated_registered binding handle host holding configured
          · rw [record_correlated_api, if_neg configured]
            refine .held handle _ ⟨?_, ?_, rfl, ?_⟩ rfl
            · exact logged_obtained .v1 _ handle holding.v1
            · exact logged_other .v2 .v1 _ (.obtained .v1 handle) _ rfl (by decide) holding.v2
            · have absent := holding.none_correlated
              change binding.correlatedHandle.isSome = binding.correlatedApi
              rw [absent, Bool.not_eq_true _ |>.mp configured]
              rfl

theorem unregister_holding (binding : VllmOffloadingObserverBinding Handle) (handle : Handle)
    (host : HostOutcomes Handle) (holding : Holding binding (some handle)) :
    Holding (binding.unregister handle host).2 none ∧
      (binding.unregister handle host).2.correlatedApi = binding.correlatedApi := by
  rcases binding with ⟨api, registered, held, log⟩
  obtain ⟨v1, v2, callbacks, correlated⟩ := holding
  unfold unregister
  cases held with
  | none =>
      refine ⟨⟨logged_released .v1 _ handle v1, ?_, rfl, rfl⟩, rfl⟩
      exact logged_other .v2 .v1 _ (.released .v1 handle) _ rfl (by decide) v2
  | some other =>
      refine ⟨⟨?_, ?_, rfl, rfl⟩, rfl⟩
      · apply logged_released .v1
        exact logged_other .v1 .v2 _ (.released .v2 other) _ rfl (by decide) v1
      · apply logged_other .v2 .v1 _ (.released .v1 handle) _ rfl (by decide)
        exact logged_released .v2 _ other v2

end Logs

/-! ## Runs of the adapter over the binding -/

section Runs

variable {Handle : Type}

abbrev HostLifecycle (Handle : Type) : Type :=
  Lifecycle (VllmOffloadingObserverBinding Handle) Handle

def step : HostLifecycle Handle → Call (HostOutcomes Handle) →
    Except AdapterActivationError Bool × HostLifecycle Handle :=
  AdapterLifecycle.step register unregister

/-- The binding holds the adapter's handle, which the adapter has while it is active. -/
structure Attached (correlatedApi : Bool) (adapter : HostLifecycle Handle) : Prop where
  holding : Holding adapter.binding adapter.handle
  active : adapter.handle.isSome = true ↔ adapter.state = .active
  api : adapter.binding.correlatedApi = correlatedApi

theorem detached_of_stopped (correlatedApi : Bool) (adapter : HostLifecycle Handle)
    (attached : Attached correlatedApi adapter) (stopped : adapter.state = .stopped) :
    adapter.handle = none := by
  rw [← Option.not_isSome_iff_eq_none, attached.active, stopped]
  intro active
  cases active

theorem start_attached (correlatedApi : Bool) (adapter : HostLifecycle Handle)
    (attached : Attached correlatedApi adapter)
    (outcomes : StartOutcomes (HostOutcomes Handle)) :
    Attached correlatedApi (adapter.start register outcomes).2 := by
  have started := start_started register adapter outcomes
  generalize (adapter.start register outcomes).1 = answer at started
  generalize (adapter.start register outcomes).2 = next at started ⊢
  cases started with
  | idle answer idle inactive => exact attached
  | unopened counters attempts unopened =>
      exact ⟨attached.holding, attached.active, attached.api⟩
  | halfOpened counters running attempts half left =>
      exact ⟨attached.holding, attached.active, attached.api⟩
  | unregistered counters running attempts whole refused left =>
      have detached := detached_of_stopped correlatedApi adapter attached attempts.stopped
      have holding := attached.holding
      rw [detached] at holding
      have registered := register_registered adapter.binding outcomes.host holding
      generalize (register adapter.binding outcomes.host).1 = reply at registered refused
      generalize (register adapter.binding outcomes.host).2 = binding at registered ⊢
      cases registered with
      | held handle next holding api => exact absurd rfl (refused handle)
      | refused reply next _ holding api =>
          refine ⟨?_, ?_, api.trans attached.api⟩
          · change Holding binding adapter.handle
            rw [detached]
            exact holding
          · change adapter.handle.isSome = true ↔ AdapterState.stopped = .active
            rw [detached]
            simp
  | active counters handle attempts whole accepted =>
      have detached := detached_of_stopped correlatedApi adapter attached attempts.stopped
      have holding := attached.holding
      rw [detached] at holding
      have registered := register_registered adapter.binding outcomes.host holding
      generalize (register adapter.binding outcomes.host).1 = reply at registered accepted
      generalize (register adapter.binding outcomes.host).2 = binding at registered ⊢
      cases registered with
      | held other next holding api =>
          cases accepted
          exact ⟨holding, by simp, api.trans attached.api⟩
      | refused reply next refused holding api => exact absurd accepted (refused handle)

theorem unregistered_holding (adapter : HostLifecycle Handle)
    (holding : Holding adapter.binding adapter.handle) (host : HostOutcomes Handle) :
    Holding (unregistered unregister adapter host) none ∧
      (unregistered unregister adapter host).correlatedApi = adapter.binding.correlatedApi := by
  unfold unregistered
  cases held : adapter.handle with
  | none =>
      rw [held] at holding
      exact ⟨holding, rfl⟩
  | some handle =>
      rw [held] at holding
      exact unregister_holding adapter.binding handle host holding

theorem stop_attached (correlatedApi : Bool) (adapter : HostLifecycle Handle)
    (attached : Attached correlatedApi adapter) (host : HostOutcomes Handle)
    (closing : ClosingOutcomes) :
    Attached correlatedApi (adapter.stop unregister host closing).2 := by
  have ended := stop_stopped unregister adapter host closing
  obtain ⟨holding, api⟩ := unregistered_holding adapter attached.holding host
  generalize (adapter.stop unregister host closing).1 = answer at ended
  generalize (adapter.stop unregister host closing).2 = next at ended ⊢
  cases ended with
  | idle stopped => exact attached
  | kept answer counters running resources writer busy left owned member alive =>
      exact ⟨holding, by simp, api.trans attached.api⟩
  | finished answer counters running busy left gone =>
      exact ⟨holding, by simp, api.trans attached.api⟩

theorem step_attached (correlatedApi : Bool) (adapter : HostLifecycle Handle)
    (call : Call (HostOutcomes Handle)) (attached : Attached correlatedApi adapter) :
    Attached correlatedApi (step adapter call).2 := by
  cases call with
  | start outcomes => exact start_attached correlatedApi adapter attached outcomes
  | stop host closing => exact stop_attached correlatedApi adapter attached host closing
  | writerExits writer => exact ⟨attached.holding, attached.active, attached.api⟩

/-- The calls of one API so far: handles obtained and at once released through it, and
then the outstanding handle, if there is one. -/
def Paired (api : HostApi) (log : List (HostCall Handle)) (outstanding : Option Handle) : Prop :=
  ∃ handles : List Handle, callsOf api log =
    handles.flatMap (fun handle => [.obtained api handle, .released api handle]) ++
      (outstanding.map (.obtained api)).toList

theorem alternates_paired (api : HostApi) (log : List (HostCall Handle))
    (last : Option (HostCall Handle))
    (alternates : Alternates (Obtains api) (Releases api) (callsOf api log) last) :
    ∃ outstanding, last = outstanding.map (.obtained api) ∧ Paired api log outstanding := by
  unfold Paired
  generalize callsOf api log = calls at alternates ⊢
  induction alternates with
  | empty => exact ⟨none, rfl, [], rfl⟩
  | opened calls call before opening induction =>
      obtain ⟨outstanding, closed, handles, split⟩ := induction
      obtain ⟨handle, rfl⟩ := opening
      rw [← closed] at split
      refine ⟨some handle, rfl, handles, ?_⟩
      rw [split]
      simp
  | closed calls first call before closing induction =>
      obtain ⟨outstanding, held, handles, split⟩ := induction
      obtain ⟨handle, rfl, rfl⟩ := closing
      rw [← held] at split
      refine ⟨none, rfl, handles ++ [handle], ?_⟩
      rw [split]
      simp

theorem logged_paired (api : HostApi) (log : List (HostCall Handle)) (outstanding : Option Handle)
    (logged : Logged api log outstanding) : Paired api log outstanding := by
  obtain ⟨other, same, paired⟩ := alternates_paired api log _ logged
  have equal : outstanding = other := by
    cases outstanding with
    | none =>
        cases other with
        | none => rfl
        | some other => cases same
    | some handle =>
        cases other with
        | none => cases same
        | some other =>
            cases same
            rfl
  rw [equal]
  exact paired

theorem logged_earlier (api : HostApi) (before after : List (HostCall Handle))
    (outstanding : Option Handle) (logged : Logged api (before ++ after) outstanding) :
    ∃ earlier, Paired api before earlier := by
  unfold Logged callsOf at logged
  rw [List.filter_append] at logged
  obtain ⟨last, alternates⟩ := alternates_initial _ _ _ _ _ logged
  obtain ⟨earlier, _, paired⟩ := alternates_paired api before last alternates
  exact ⟨earlier, paired⟩

/-- The handle the binding has obtained from the API and not passed to its
unregister call. -/
def outstanding (adapter : HostLifecycle Handle) : HostApi → Option Handle
  | .v1 => adapter.handle
  | .v2 => adapter.binding.correlatedHandle

/-- The calls that release what is outstanding, the v2 handle first. -/
def releasesOf (adapter : HostLifecycle Handle) : List (HostCall Handle) :=
  (outstanding adapter .v2).toList.map (.released .v2) ++
    (outstanding adapter .v1).toList.map (.released .v1)

/-- The call opens all resources and obtains a handle from each API. -/
structure Succeeds (adapter : HostLifecycle Handle)
    (outcomes : StartOutcomes (HostOutcomes Handle)) : Prop where
  contract : ∃ version, outcomes.contractVersion = .ok version ∧
    version.equalsText hostObserverContract = true
  opened : Opened adapter outcomes.construction
  registers : ∃ handle, outcomes.host.registers = .ok (some handle)
  correlated : ∃ handle, outcomes.host.correlatedRegisters = .ok (some handle)

/-- What holds between two calls. `earlier` is about every instant, also within a
call: at most one handle of each API is outstanding. A stop passes the outstanding handles
to their own unregister calls, whatever these do, and leaves none; there is none to pass
when the adapter is not active. -/
structure ReleasedOnce (correlatedApi : Bool) (adapter : HostLifecycle Handle) : Prop where
  paired : ∀ api, Paired api adapter.binding.log (outstanding adapter api)
  earlier : ∀ api before after, adapter.binding.log = before ++ after →
    ∃ held, Paired api before held
  primary : (outstanding adapter .v1).isSome = true ↔ adapter.state = .active
  correlated : (outstanding adapter .v2).isSome = true ↔
    adapter.state = .active ∧ correlatedApi = true
  releases : ∀ host closing, (adapter.stop unregister host closing).2.binding.log =
    adapter.binding.log ++ releasesOf adapter
  stopped : ∀ host closing, (adapter.stop unregister host closing).2.state ≠ .active ∧
    ∀ api, outstanding (adapter.stop unregister host closing).2 api = none
  idle : adapter.state ≠ .active → releasesOf adapter = []
  failed : ∀ outcomes error, (adapter.start register outcomes).1 = .error error →
    (adapter.start register outcomes).2.state = .stopped
  restart : adapter.enabled = true → adapter.state = .stopped →
    ∀ outcomes, Succeeds adapter outcomes → (adapter.start register outcomes).1 = .ok true ∧
      (adapter.start register outcomes).2.state = .active

theorem outstanding_none (correlatedApi : Bool) (adapter : HostLifecycle Handle)
    (attached : Attached correlatedApi adapter) (inactive : adapter.state ≠ .active)
    (api : HostApi) : outstanding adapter api = none := by
  have detached : adapter.handle = none := by
    rw [← Option.not_isSome_iff_eq_none, attached.active]
    exact inactive
  have holding := attached.holding
  rw [detached] at holding
  cases api with
  | v1 => exact detached
  | v2 => exact holding.none_correlated

theorem releases_none (correlatedApi : Bool) (adapter : HostLifecycle Handle)
    (attached : Attached correlatedApi adapter) (inactive : adapter.state ≠ .active) :
    releasesOf adapter = [] := by
  have none := outstanding_none correlatedApi adapter attached inactive
  rw [releasesOf, none .v1, none .v2]
  rfl

theorem unregister_log (binding : VllmOffloadingObserverBinding Handle) (handle : Handle)
    (host : HostOutcomes Handle) :
    (binding.unregister handle host).2.log =
      binding.log ++ (binding.correlatedHandle.toList.map (.released .v2) ++
        [.released .v1 handle]) := by
  rcases binding with ⟨api, registered, held, log⟩
  cases held with
  | none => rfl
  | some other =>
      change (log ++ [HostCall.released .v2 other]) ++ [.released .v1 handle] = _
      rw [List.append_assoc]
      rfl

theorem unregistered_log (correlatedApi : Bool) (adapter : HostLifecycle Handle)
    (attached : Attached correlatedApi adapter) (host : HostOutcomes Handle) :
    (unregistered unregister adapter host).log = adapter.binding.log ++ releasesOf adapter := by
  have active := attached.active
  unfold unregistered
  cases held : adapter.handle with
  | none =>
      rw [held] at active
      have inactive : adapter.state ≠ .active := fun same => by simpa using active.mpr same
      rw [releases_none correlatedApi adapter attached inactive, List.append_nil]
  | some handle =>
      rw [releasesOf]
      simp only [outstanding, held]
      exact unregister_log adapter.binding handle host

/-- A stop releases both handles, or finds them released. -/
theorem stop_releases (correlatedApi : Bool) (adapter : HostLifecycle Handle)
    (attached : Attached correlatedApi adapter) (host : HostOutcomes Handle)
    (closing : ClosingOutcomes) :
    (adapter.stop unregister host closing).2.binding.log =
        adapter.binding.log ++ releasesOf adapter ∧
      (adapter.stop unregister host closing).2.state ≠ .active := by
  have ended := stop_stopped unregister adapter host closing
  have log := unregistered_log correlatedApi adapter attached host
  generalize (adapter.stop unregister host closing).1 = answer at ended
  generalize (adapter.stop unregister host closing).2 = next at ended ⊢
  cases ended with
  | idle stopped =>
      have inactive : adapter.state ≠ .active := by
        rw [stopped]
        simp
      refine ⟨?_, inactive⟩
      rw [releases_none correlatedApi adapter attached inactive, List.append_nil]
  | kept answer counters running resources writer busy left owned member alive =>
      exact ⟨log, by simp⟩
  | finished answer counters running busy left gone => exact ⟨log, by simp⟩

theorem start_failed (adapter : HostLifecycle Handle)
    (outcomes : StartOutcomes (HostOutcomes Handle)) (error : AdapterActivationError)
    (failed : (adapter.start register outcomes).1 = .error error) :
    (adapter.start register outcomes).2.state = .stopped := by
  have started := start_started register adapter outcomes
  by_cases attempts : Attempts adapter outcomes
  · generalize (adapter.start register outcomes).1 = answer at started failed
    generalize (adapter.start register outcomes).2 = next at started ⊢
    cases started with
    | idle answer idle inactive => exact absurd attempts idle
    | unopened counters attempts unopened => exact attempts.stopped
    | halfOpened counters running attempts half left => exact attempts.stopped
    | unregistered counters running attempts whole refused left => rfl
    | active counters handle attempts whole accepted => cases failed
  · by_cases stopped : adapter.state = .stopped
    · generalize (adapter.start register outcomes).1 = answer at started failed
      generalize (adapter.start register outcomes).2 = next at started ⊢
      cases started with
      | idle answer idle inactive => exact stopped
      | unopened counters attempted unopened => exact absurd attempted attempts
      | halfOpened counters running attempted half left => exact absurd attempted attempts
      | unregistered counters running attempted whole refused left =>
          exact absurd attempted attempts
      | active counters handle attempted whole accepted => exact absurd attempted attempts
    · unfold Lifecycle.start at failed
      rw [if_pos stopped] at failed
      split at failed
      · cases failed
      · cases failed

theorem register_succeeds (binding : VllmOffloadingObserverBinding Handle)
    (host : HostOutcomes Handle) (holding : Holding binding none)
    (registers : ∃ handle, host.registers = .ok (some handle))
    (correlated : ∃ handle, host.correlatedRegisters = .ok (some handle)) :
    ∃ handle, (binding.register host).1 = .ok (some handle) := by
  obtain ⟨handle, obtained⟩ := registers
  obtain ⟨other, also⟩ := correlated
  have fresh : binding.callbacks = false := holding.callbacks
  refine ⟨handle, ?_⟩
  unfold register
  rw [if_neg (by rw [fresh]; exact Bool.false_ne_true), obtained]
  dsimp only
  split
  · unfold registerCorrelated
    rw [also]
  · rfl

theorem start_succeeds (correlatedApi : Bool) (adapter : HostLifecycle Handle)
    (attached : Attached correlatedApi adapter) (enabled : adapter.enabled = true)
    (stopped : adapter.state = .stopped) (outcomes : StartOutcomes (HostOutcomes Handle))
    (succeeds : Succeeds adapter outcomes) :
    (adapter.start register outcomes).1 = .ok true ∧
      (adapter.start register outcomes).2.state = .active := by
  have attempts : Attempts adapter outcomes := ⟨enabled, stopped, succeeds.contract⟩
  have detached := detached_of_stopped correlatedApi adapter attached stopped
  have holding := attached.holding
  rw [detached] at holding
  obtain ⟨handle, registered⟩ := register_succeeds adapter.binding outcomes.host holding
    succeeds.registers succeeds.correlated
  have started := start_started register adapter outcomes
  generalize (adapter.start register outcomes).1 = answer at started ⊢
  generalize (adapter.start register outcomes).2 = next at started ⊢
  cases started with
  | idle answer idle inactive => exact absurd attempts idle
  | unopened counters attempts unopened =>
      exact absurd succeeds.opened (unopened_not_opened adapter _ unopened)
  | halfOpened counters running attempts half left =>
      exact absurd succeeds.opened (half_opened_not_opened adapter _ half)
  | unregistered counters running attempts whole refused left =>
      exact absurd registered (refused handle)
  | active counters handle attempts whole accepted => exact ⟨rfl, rfl⟩

/-- For every sequence of starts and stops and whatever the host, the constructors and
the writers do in them: each API's handles are released once, by the call that
matches. -/
theorem host_registrations_released_once (enabled capturesDescriptors correlatedApi : Bool)
    (calls : List (Call (HostOutcomes Handle))) :
    ReleasedOnce correlatedApi (Machine.finalState step
      (constructed enabled capturesDescriptors { correlatedApi := correlatedApi }) calls) := by
  have attached : Attached correlatedApi (Machine.finalState step
      (constructed enabled capturesDescriptors { correlatedApi := correlatedApi }) calls) := by
    refine Machine.invariant_run step _ (step_attached correlatedApi) _ calls ?_
    exact ⟨⟨.empty, .empty, rfl, rfl⟩, by simp [constructed], rfl⟩
  generalize Machine.finalState step
    (constructed enabled capturesDescriptors { correlatedApi := correlatedApi }) calls = adapter
    at attached ⊢
  have holding := attached.holding
  refine ⟨?_, ?_, attached.active, ?_, ?_, ?_, releases_none correlatedApi adapter attached,
    start_failed adapter, ?_⟩
  · intro api
    cases api with
    | v1 => exact logged_paired .v1 _ _ holding.v1
    | v2 => exact logged_paired .v2 _ _ holding.v2
  · intro api before after split
    cases api with
    | v1 => exact logged_earlier .v1 before after _ (split ▸ holding.v1)
    | v2 => exact logged_earlier .v2 before after _ (split ▸ holding.v2)
  · change adapter.binding.correlatedHandle.isSome = true ↔ _
    rw [holding.correlated, attached.api, Bool.and_eq_true, attached.active]
  · intro host closing
    exact (stop_releases correlatedApi adapter attached host closing).1
  · intro host closing
    have inactive := (stop_releases correlatedApi adapter attached host closing).2
    have next := stop_attached correlatedApi adapter attached host closing
    exact ⟨inactive, outstanding_none correlatedApi _ next inactive⟩
  · intro enabled stopped outcomes succeeds
    exact start_succeeds correlatedApi adapter attached enabled stopped outcomes succeeds

/-- The hosts answer with these handles, and every unregister call raises. -/
def sampleOutcomes (correlated : Py (Option Nat)) : HostOutcomes Nat where
  registers := .ok (some 1)
  correlatedRegisters := correlated
  unregisters := .error (.raised "v1")
  correlatedUnregisters := .error (.raised "v2")

def sampleStart (correlated : Py (Option Nat)) : Call (HostOutcomes Nat) :=
  .start
    { contractVersion := .ok (.str hostObserverContract)
      construction := {}
      host := sampleOutcomes correlated
      closing := {} }

/-- A start whose v2 registration is refused, a start that succeeds, and two stops. -/
def sampleCalls : List (Call (HostOutcomes Nat)) :=
  [sampleStart (.ok none), sampleStart (.ok (some 2)), .stop (sampleOutcomes (.ok none)) {},
    .stop (sampleOutcomes (.ok none)) {}]

def sampleAdapter : HostLifecycle Nat :=
  Machine.finalState step (constructed true true { correlatedApi := true }) sampleCalls

theorem sample_registrations_released :
    sampleAdapter.binding.log =
        [.obtained .v1 1, .released .v1 1, .obtained .v1 1, .obtained .v2 2, .released .v2 2,
          .released .v1 1] ∧
      sampleAdapter.state = .stopped ∧ ReleasedOnce true sampleAdapter :=
  ⟨rfl, rfl, host_registrations_released_once true true true sampleCalls⟩

end Runs

end KVTransferObservability.HostRegistration
