import KVTransferObservability.HostRegistration
import KVTransferObservability.StoppedWriters
import KVTransferObservability.Library.Steps
import Mathlib.Data.List.DropRight

/-!
# The plugin in a family of processes

`plugin.py`: `register_plugin`, `stop_plugin` and `_after_fork_in_child`, over the
variables of the module and the adapters a process has created. A process forks at any
time between two calls; the child has a copy of everything but the threads, and runs
`_after_fork_in_child` before anything else. A process may end at any time; the calls of
`stop_plugin` that `atexit` makes before are calls like any other.
-/

namespace KVTransferObservability.PluginProcesses

open Library PythonValues Adapter AdapterLifecycle HostRegistration

set_option autoImplicit false

/-! ## Activation and destination -/

def extensionId : List Char := "org.vllm-hust.kv-transfer-observability".toList

def pluginName : List Char := "kv_transfer_observability".toList

/-- The variables the plugin reads, and what `tempfile.gettempdir` answers. -/
structure Environment where
  enabledBundles : Option (List Char) := none
  vllmPlugins : Option (List Char) := none
  eventPath : Option (List Char) := none
  launchId : Option (List Char) := none
  temporaryDirectory : Py (List Char)

/-- `str.isspace` of one character. -/
def isSpace (character : Char) : Bool :=
  let code := character.toNat
  (9 ≤ code && code ≤ 13) || (28 ≤ code && code ≤ 32) || (0x2000 ≤ code && code ≤ 0x200a) ||
    [0x85, 0xa0, 0x1680, 0x2028, 0x2029, 0x202f, 0x205f, 0x3000].contains code

def strip (text : List Char) : List Char := (text.dropWhile isSpace).rdropWhile isSpace

/-- The name is an item of the comma-separated text. -/
def listed (name text : List Char) : Bool := ((text.splitOn ',').map strip).contains name

def activationRequested (environment : Environment) : Bool :=
  match environment.enabledBundles with
  | some bundles => listed extensionId bundles
  | none => listed pluginName (environment.vllmPlugins.getD [])

example : activationRequested
    { vllmPlugins := some "other, kv_transfer_observability ".toList
      temporaryDirectory := .ok [] } = true := by decide

/-- The path of a configured text, or a name in the directory for temporary files. -/
inductive EventPath
  | configured (text : List Char)
  | scoped (directory name : List Char)
  deriving DecidableEq, Repr

def scopedName (launchDigest : List Char) (pid : Nat) : List Char :=
  "vllm-hust-kv-transfer-".toList ++ launchDigest ++
    '-' :: (Nat.toDigits 10 pid ++ ".jsonl".toList)

/-- `hexdigest` is the SHA-256 of a text in UTF-8, in hexadecimal. -/
def eventPath (hexdigest : List Char → List Char) (environment : Environment) (pid : Nat) :
    Py EventPath :=
  let configured := strip (environment.eventPath.getD [])
  if configured ≠ [] then .ok (.configured configured)
  else do
    let launchId := environment.launchId.getD "unbound".toList
    let launchDigest := (hexdigest launchId).take 16
    let directory ← environment.temporaryDirectory
    .ok (.scoped directory (scopedName launchDigest pid))

/-! ## One process -/

/-- An adapter that `register_plugin` has created, with the path in its configuration. -/
structure Observer (Handle : Type) where
  eventPath : EventPath
  adapter : HostLifecycle Handle

/-- `observers` are all adapters ever created in the process or inherited by it, and
`adapter` is the place of `_ADAPTER` among them; `_BINDING` is the binding of that one. -/
structure Process (Handle : Type) where
  pid : Nat
  registeredPid : Option Nat := none
  adapter : Option Nat := none
  observers : List (Observer Handle) := []

inductive PluginError
  /-- Of `_event_path` or of the constructor of the binding. -/
  | raised (error : PyError)
  | activation (error : AdapterActivationError)
  | runtimeError (message : String)

/-- What a call of `register_plugin` meets. The constructor of the binding raises, or
finds a host with or without the correlated API. -/
structure RegisterOutcomes (Handle : Type) where
  binding : Py Bool
  construction : Construction := {}
  host : HostOutcomes Handle
  closing : ClosingOutcomes := {}

variable {Handle : Type}

/-- `contract_version` is a constant of the binding class. -/
def RegisterOutcomes.start (self : RegisterOutcomes Handle) :
    StartOutcomes (HostOutcomes Handle) where
  contractVersion := .ok (.str hostObserverContract)
  construction := self.construction
  host := self.host
  closing := self.closing

/-- The adapter of `register_plugin`: enabled, and without a descriptor directory. -/
def unstarted (correlatedApi : Bool) : HostLifecycle Handle :=
  constructed true false { correlatedApi := correlatedApi }

/-- The threads of a process are not copied by a fork. -/
def Observer.copied (self : Observer Handle) : Observer Handle :=
  { self with adapter := { self.adapter with running := [] } }

def Observer.abandonAfterFork (self : Observer Handle) : Observer Handle :=
  { self with adapter := { self.adapter with
      state := .stopped, handle := none, resources := none } }

def Observer.writerExits (self : Observer Handle) (writer : Writer) : Observer Handle :=
  { self with adapter := { self.adapter with
      running := self.adapter.running.filter (· ≠ writer) } }

namespace Process

def add (self : Process Handle) (observer : Observer Handle) : Process Handle :=
  { self with observers := self.observers ++ [observer] }

def registerPlugin (hexdigest : List Char → List Char) (self : Process Handle)
    (environment : Environment) (outcomes : RegisterOutcomes Handle) :
    Except PluginError Unit × Process Handle :=
  if some self.pid = self.registeredPid ∨ activationRequested environment = false then
    (.ok (), self)
  else
    match PluginProcesses.eventPath hexdigest environment self.pid with
    | .error error => (.error (.raised error), self)
    | .ok path =>
        match outcomes.binding with
        | .error error => (.error (.raised error), self)
        | .ok correlatedApi =>
            match (unstarted correlatedApi).start VllmOffloadingObserverBinding.register
                outcomes.start with
            | (.error error, adapter) => (.error (.activation error), self.add ⟨path, adapter⟩)
            | (.ok false, adapter) =>
                (.error (.runtimeError "KV transfer observer did not activate"),
                  self.add ⟨path, adapter⟩)
            | (.ok true, adapter) =>
                (.ok (), { self.add ⟨path, adapter⟩ with
                  adapter := some self.observers.length
                  registeredPid := some self.pid })

def stopPlugin (self : Process Handle) (host : HostOutcomes Handle) (closing : ClosingOutcomes) :
    Bool × Process Handle :=
  match self.adapter with
  | none => (true, self)
  | some place =>
      match self.observers[place]? with
      | none => (true, self)
      | some observer =>
          let (stopped, adapter) :=
            observer.adapter.stop VllmOffloadingObserverBinding.unregister host closing
          let self := { self with
            observers := self.observers.set place { observer with adapter := adapter } }
          if stopped then (true, { self with adapter := none, registeredPid := none })
          else (false, self)

def afterForkInChild (self : Process Handle) : Process Handle :=
  if some self.pid = self.registeredPid then self
  else
    { self with
      adapter := none
      registeredPid := none
      observers :=
        match self.adapter with
        | none => self.observers
        | some place => self.observers.modify place Observer.abandonAfterFork }

/-- The child as `os.fork` returns in it. -/
def forked (self : Process Handle) (child : Nat) : Process Handle :=
  afterForkInChild { self with pid := child, observers := self.observers.map Observer.copied }

end Process

/-- What a process does; a writer may exit at any time. -/
inductive ProcessCall (Handle : Type)
  | register (environment : Environment) (outcomes : RegisterOutcomes Handle)
  | stop (host : HostOutcomes Handle) (closing : ClosingOutcomes)
  | writerExits (place : Nat) (writer : Writer)

def Process.call (hexdigest : List Char → List Char) (self : Process Handle) :
    ProcessCall Handle → Process Handle
  | .register environment outcomes => (self.registerPlugin hexdigest environment outcomes).2
  | .stop host closing => (self.stopPlugin host closing).2
  | .writerExits place writer =>
      { self with observers := self.observers.modify place (·.writerExits writer) }

/-! ## Processes -/

inductive PluginEvent (Handle : Type)
  | call (pid : Nat) (call : ProcessCall Handle)
  /-- The system gives the child a number that no process has. -/
  | fork (pid child : Nat)
  | exits (pid : Nat)

def step (hexdigest : List Char → List Char) (processes : List (Process Handle)) :
    PluginEvent Handle → Option (List (Process Handle))
  | .call pid call =>
      if pid ∈ processes.map Process.pid then
        some (processes.map fun process =>
          if process.pid = pid then process.call hexdigest call else process)
      else none
  | .fork pid child =>
      if child ∈ processes.map Process.pid then none
      else
        (processes.find? (·.pid = pid)).map fun parent => processes ++ [parent.forked child]
  | .exits pid => some (processes.filter (·.pid ≠ pid))

/-! ## What one call can do -/

/-- Every way a call of `register_plugin` ends. -/
inductive RegisterResult (hexdigest : List Char → List Char) (process : Process Handle)
    (environment : Environment) (outcomes : RegisterOutcomes Handle) :
    Except PluginError Unit → Process Handle → Prop
  | inert (inert : process.registeredPid = some process.pid ∨
        activationRequested environment = false) :
      RegisterResult hexdigest process environment outcomes (.ok ()) process
  | unprepared (error : PyError) (absent : process.registeredPid ≠ some process.pid)
      (requested : activationRequested environment = true)
      (raised : eventPath hexdigest environment process.pid = .error error ∨
        outcomes.binding = .error error) :
      RegisterResult hexdigest process environment outcomes (.error (.raised error)) process
  | failed (error : AdapterActivationError) (path : EventPath) (correlatedApi : Bool)
      (adapter : HostLifecycle Handle)
      (absent : process.registeredPid ≠ some process.pid)
      (requested : activationRequested environment = true)
      (destination : eventPath hexdigest environment process.pid = .ok path)
      (bound : outcomes.binding = .ok correlatedApi)
      (started : (unstarted correlatedApi).start VllmOffloadingObserverBinding.register
        outcomes.start = (.error error, adapter)) :
      RegisterResult hexdigest process environment outcomes (.error (.activation error))
        (process.add ⟨path, adapter⟩)
  | registered (path : EventPath) (correlatedApi : Bool) (adapter : HostLifecycle Handle)
      (absent : process.registeredPid ≠ some process.pid)
      (requested : activationRequested environment = true)
      (destination : eventPath hexdigest environment process.pid = .ok path)
      (bound : outcomes.binding = .ok correlatedApi)
      (started : (unstarted correlatedApi).start VllmOffloadingObserverBinding.register
        outcomes.start = (.ok true, adapter)) :
      RegisterResult hexdigest process environment outcomes (.ok ())
        { process.add ⟨path, adapter⟩ with
          adapter := some process.observers.length, registeredPid := some process.pid }

/-! ## A run -/

def sampleEnvironment : Environment where
  vllmPlugins := some pluginName
  temporaryDirectory := .ok []

/-- A host without the correlated API, which gives out one handle. -/
def sampleHost : HostOutcomes Unit where
  registers := .ok (some ())
  correlatedRegisters := .ok none
  unregisters := .ok ()
  correlatedUnregisters := .ok ()

def sampleRegistration : RegisterOutcomes Unit where
  binding := .ok false
  host := sampleHost

/-- A process registers and forks, and the child registers as well. -/
def sampleEvents : List (PluginEvent Unit) :=
  [.call 10 (.register sampleEnvironment sampleRegistration), .fork 10 11,
    .call 11 (.register sampleEnvironment sampleRegistration)]

def sampleDigest (_ : List Char) : List Char := []

def sampleProcesses : List (Process Unit) :=
  (Steps.run (step sampleDigest) [{ pid := 10 }] sampleEvents).getD []

theorem sample_reached :
    Steps.run (step sampleDigest) [{ pid := 10 }] sampleEvents = some sampleProcesses := by
  rfl

end KVTransferObservability.PluginProcesses
