import KVTransferObservability.DescriptorPublication
import KVTransferObservability.Library.Steps

/-!
# Publications that share a directory

`descriptors.py`: `_capture_locked` of any number of captures, in any number of processes,
that publish into one directory. Every system call is one step, whatever the other calls
do between two steps, and a process may be killed at any time. The directory is the one
that the captures opened: a call that finds another one in its place does not begin.
-/

namespace KVTransferObservability.ConcurrentPublication

open PythonValues Schema Library RecordText EventSink Descriptors DescriptorPublication

set_option autoImplicit false

/-- A call of `_capture_locked` that has come to the first system call of its `try`
statement. `next` is the system call it makes next, and `state` has its local variables
and counters, with the directory as it left it. `rolledBack` and `removed` say that the
`unlink` of the handler or of the `finally` clause has succeeded. -/
structure PublicationCall where
  capture : DescriptorLayoutCapture
  inventory : DescriptorInventory
  token : String
  state : Publication
  next : Option SystemCall := some .create
  answer : Option String := none
  rolledBack : Bool := false
  removed : Bool := false
  killed : Bool := false

namespace PublicationCall

def temporary (self : PublicationCall) : String := self.inventory.temporaryName self.token

def final (self : PublicationCall) : String := self.inventory.finalName

def data (json : JsonModule) (self : PublicationCall) : Bytes :=
  self.inventory.encoded json self.capture.evidenceLabel

/-- The `finally` clause. -/
def cleaning (self : PublicationCall) : PublicationCall :=
  { self with next :=
      if self.state.descriptor then some .closeAgain
      else if self.state.temporaryExists then some .cleanup
      else none }

/-- The two `except` clauses. -/
def raised (self : PublicationCall) : OsFailure → PublicationCall
  | .fileExists => { self with state := self.state.countConflicts }.cleaning
  | .osError =>
      let self := { self with state := self.state.countIoErrors }
      if self.state.published then { self with next := some .rollback } else self.cleaning

def failed (self : PublicationCall) (name : SystemCall) (failure : OsFailure) : PublicationCall :=
  { self with state := self.state.fail name }.raised failure

/-- A system call of the `try` statement. -/
def attempt (self : PublicationCall) (name : SystemCall) (succeeds : Bool)
    (act : Publication → Except OsFailure Publication)
    (continues : Publication → PublicationCall) : PublicationCall :=
  if succeeds then
    match act self.state with
    | .ok state => continues state
    | .error failure => self.failed name failure
  else self.failed name .osError

/-- A system call of a handler or of the cleanup, whose failure is counted. -/
def attemptUnlink (self : PublicationCall) (name : SystemCall) (target : String)
    (succeeds : Bool) : Bool × PublicationCall :=
  match if succeeds then self.state.unlink target else .error .osError with
  | .ok state => (true, { self with state := state })
  | .error _ => (false, { self with state := (self.state.fail name).countIoErrors })

/-- `while view:` of `_write_all`. -/
def writing (self : PublicationCall) : PublicationCall :=
  { self with next := some (if self.state.view.isEmpty then .syncFile else .write) }

/-- One round of `_write_all`. -/
def writeSome (self : PublicationCall) (accepted : Option Nat) : PublicationCall :=
  match accepted with
  | none =>
      { self with state := { self.state with writes := self.state.writes + 1 } }.failed .write
        .osError
  | some accepted =>
      let written := min accepted self.state.view.length
      let state := { self.state.append self.temporary (self.state.view.take written) with
        writes := self.state.writes + 1 }
      if written = 0 then { self with state := state }.raised .osError
      else { self with state := { state with view := self.state.view.drop written } }.writing

/-- The next system call. The system lets it fail, or, when it writes, says how many bytes
it accepts. -/
def act (json : JsonModule) (self : PublicationCall) (name : SystemCall)
    (accepted : Option Nat) : PublicationCall :=
  match name with
  | .create =>
      self.attempt .create accepted.isSome (Publication.create self.temporary) fun state =>
        { self with state := { state with
            descriptor := true, temporaryExists := true, view := self.data json } }.writing
  | .write => self.writeSome accepted
  | .syncFile =>
      self.attempt .syncFile accepted.isSome .ok fun state =>
        { self with state := state, next := some .close }
  | .close =>
      self.attempt .close accepted.isSome .ok fun state =>
        { self with state := { state with descriptor := false }, next := some .link }
  | .link =>
      self.attempt .link accepted.isSome (Publication.link self.temporary self.final)
        fun state =>
          { self with state := { state with published := true }, next := some .unlinkTemporary }
  | .unlinkTemporary =>
      self.attempt .unlinkTemporary accepted.isSome (Publication.unlink self.temporary)
        fun state =>
          { self with
            state := { state with temporaryExists := false }, next := some .syncDirectory }
  | .syncDirectory =>
      self.attempt .syncDirectory accepted.isSome .ok fun state =>
        { self with
          state := state.countWritten
          next := none
          answer := some (self.capture.location self.inventory) }
  | .rollback =>
      let (undone, self) := self.attemptUnlink .rollback self.final accepted.isSome
      { self with rolledBack := undone }.cleaning
  | .closeAgain =>
      { self with
        state := if accepted.isSome then self.state else self.state.fail .closeAgain
        next := if self.state.temporaryExists then some .cleanup else none }
  | .cleanup =>
      let (undone, self) := self.attemptUnlink .cleanup self.temporary accepted.isSome
      { self with removed := undone, next := none }

end PublicationCall

/-- The directory and every call there has been, in the order in which they began. -/
structure CaptureDirectory where
  directory : Directory
  calls : List PublicationCall := []

/-- What `_capture_locked` checks before its first system call. -/
structure Admitted (json : JsonModule) (capture : DescriptorLayoutCapture)
    (inventory : DescriptorInventory) : Prop where
  opened : capture.closed = false
  regions : inventory.regions.length ≤ capture.maxRegions
  bytes : (inventory.encoded json capture.evidenceLabel).length ≤ capture.maxRecordBytes

instance (json : JsonModule) (capture : DescriptorLayoutCapture)
    (inventory : DescriptorInventory) : Decidable (Admitted json capture inventory) :=
  decidable_of_iff
    (capture.closed = false ∧ inventory.regions.length ≤ capture.maxRegions ∧
      (inventory.encoded json capture.evidenceLabel).length ≤ capture.maxRecordBytes)
    ⟨fun ⟨opened, regions, bytes⟩ => ⟨opened, regions, bytes⟩,
      fun admitted => ⟨admitted.opened, admitted.regions, admitted.bytes⟩⟩

inductive CaptureEvent
  /-- A call with the counters of its capture, and the token it has drawn. -/
  | begins (capture : DescriptorLayoutCapture) (counters : DescriptorCaptureCounters)
      (inventory : DescriptorInventory) (token : String)
  | acts (place : Nat) (accepted : Option Nat)
  /-- The process of a call is killed. -/
  | killed (place : Nat)

def CaptureDirectory.set (self : CaptureDirectory) (place : Nat) (call : PublicationCall) :
    CaptureDirectory where
  directory := call.state.directory
  calls := self.calls.set place call

def step (json : JsonModule) (self : CaptureDirectory) :
    CaptureEvent → Option CaptureDirectory
  | .begins capture counters inventory token =>
      if Admitted json capture inventory then
        some { self with calls := self.calls ++
          [{ capture := capture, inventory := inventory, token := token,
             state := { directory := self.directory, counters := counters } }] }
      else none
  | .acts place accepted =>
      (self.calls[place]?).bind fun call =>
        call.next.map fun name =>
          self.set place
            ({ call with state := { call.state with directory := self.directory } }.act json name
              accepted)
  | .killed place =>
      (self.calls[place]?).bind fun call =>
        call.next.map fun _ =>
          { self with calls := self.calls.set place { call with next := none, killed := true } }

end KVTransferObservability.ConcurrentPublication
