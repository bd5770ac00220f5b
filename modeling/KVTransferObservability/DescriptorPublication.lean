import KVTransferObservability.Descriptors
import KVTransferObservability.Library.Blocks
import KVTransferObservability.Library.Dict

/-!
# Publication of a descriptor inventory

`descriptors.py`: `_capture_locked` of `DescriptorLayoutCapture`. The directory is a map
from names to entries, and every system call succeeds or fails and changes nothing. A
file is written under a temporary name and linked to its final one, so that the final
name appears with its whole content or not at all.
-/

namespace KVTransferObservability.DescriptorPublication

open PythonValues Schema Library RecordText EventSink Descriptors
open Block (Ensures)

set_option autoImplicit false

inductive DirectoryEntry
  | file (content : Bytes)
  | symlink (target : String)
  deriving DecidableEq

abbrev Directory := Dict String DirectoryEntry

/-- The system calls of `_capture_locked`, `rollback` and `cleanup` being the calls of
`unlink` in the handler and in the `finally` clause. -/
inductive SystemCall
  | create
  | write
  | syncFile
  | close
  | link
  | unlinkTemporary
  | syncDirectory
  | rollback
  | closeAgain
  | cleanup
  deriving DecidableEq, Repr

/-- `FileExistsError`, which only `create` and `link` raise, and every other `OSError`. -/
inductive OsFailure
  | fileExists
  | osError
  deriving DecidableEq, Repr

/-- What the system answers: the identity of the directory that is found, the token of
the temporary name, which calls succeed, and how many bytes each write accepts. -/
structure FailurePattern where
  stat : Option (Nat × Nat)
  token : Option String
  succeeds : SystemCall → Bool
  writes : Nat → Option Nat

structure DescriptorCaptureCounters where
  written : Nat := 0
  invalidRecords : Nat := 0
  capacityDropped : Nat := 0
  conflicts : Nat := 0
  ioErrors : Nat := 0
  closedDropped : Nat := 0
  deriving DecidableEq, Repr

structure DescriptorLayoutCapture where
  captureDir : String
  evidenceLabel : EvidenceLabel
  maxRegions : Nat
  maxRecordBytes : Nat
  directoryIdentity : Nat × Nat
  closed : Bool

/-- The directory and the counters, the local variables of a call, and the calls that
have failed. -/
structure Publication where
  directory : Directory
  counters : DescriptorCaptureCounters
  descriptor : Bool := false
  temporaryExists : Bool := false
  published : Bool := false
  view : Bytes := []
  writes : Nat := 0
  failed : List SystemCall := []

abbrev CaptureBlock := Block Publication (Option String) OsFailure

namespace Publication

def fail (self : Publication) (name : SystemCall) : Publication :=
  { self with failed := name :: self.failed }

/-- `_increment("io_errors")`. -/
def countIoErrors (self : Publication) : Publication :=
  { self with counters := { self.counters with ioErrors := self.counters.ioErrors + 1 } }

def countConflicts (self : Publication) : Publication :=
  { self with counters := { self.counters with conflicts := self.counters.conflicts + 1 } }

def countWritten (self : Publication) : Publication :=
  { self with counters := { self.counters with written := self.counters.written + 1 } }

def countInvalidRecords (self : Publication) : Publication :=
  { self with counters :=
      { self.counters with invalidRecords := self.counters.invalidRecords + 1 } }

def countCapacityDropped (self : Publication) : Publication :=
  { self with counters :=
      { self.counters with capacityDropped := self.counters.capacityDropped + 1 } }

def countClosedDropped (self : Publication) : Publication :=
  { self with counters :=
      { self.counters with closedDropped := self.counters.closedDropped + 1 } }

/-! ## System calls -/

/-- `O_CREAT | O_EXCL`. -/
def create (name : String) (self : Publication) : Except OsFailure Publication :=
  if name ∈ self.directory then .error .fileExists
  else .ok { self with directory := self.directory.insert name (.file []) }

def append (name : String) (bytes : Bytes) (self : Publication) : Publication :=
  match self.directory.lookup name with
  | some (.file content) =>
      { self with directory := self.directory.insert name (.file (content ++ bytes)) }
  | _ => self

def link (source target : String) (self : Publication) : Except OsFailure Publication :=
  match self.directory.lookup source with
  | none => .error .osError
  | some entry =>
      if target ∈ self.directory then .error .fileExists
      else .ok { self with directory := self.directory.insert target entry }

def unlink (name : String) (self : Publication) : Except OsFailure Publication :=
  if name ∈ self.directory then .ok { self with directory := self.directory.erase name }
  else .error .osError

end Publication

section Capturing

variable (pattern : FailurePattern)

def systemCall (name : SystemCall) (act : Publication → Except OsFailure Publication) :
    CaptureBlock :=
  fun state =>
    if pattern.succeeds name then
      match act state with
      | .ok next => some (.normal, next)
      | .error failure => some (.raised failure, state.fail name)
    else some (.raised .osError, state.fail name)

/-- `with suppress(OSError)`, or a handler that counts the failure. -/
def suppressed (block : CaptureBlock) (count : Publication → Publication) : CaptureBlock :=
  Block.handled block fun _ => Block.perform count

/-- One round of `_write_all`. No call accepts more than it is given. -/
def writeRound (temporary : String) : CaptureBlock := fun state =>
  match pattern.writes state.writes with
  | none => some (.raised .osError, { state with writes := state.writes + 1 }.fail .write)
  | some accepted =>
      let written := min accepted state.view.length
      let next := { state.append temporary (state.view.take written) with
        writes := state.writes + 1 }
      if written = 0 then some (.raised .osError, next)
      else some (.normal, { next with view := state.view.drop written })

/-- `_write_all`. -/
def writeAll (temporary : String) (data : Bytes) (fuel : Nat) : CaptureBlock :=
  Block.andThen (Block.perform fun state => { state with view := data })
    (Block.loop (fun state => !state.view.isEmpty) (writeRound pattern temporary) fuel)

/-- The body of the `try` statement. -/
def publishBody (temporary final : String) (data : Bytes) (fuel : Nat) : CaptureBlock :=
  Block.chain
    [systemCall pattern .create (Publication.create temporary),
      Block.perform fun state => { state with descriptor := true, temporaryExists := true },
      writeAll pattern temporary data fuel,
      systemCall pattern .syncFile .ok,
      systemCall pattern .close .ok,
      Block.perform fun state => { state with descriptor := false },
      systemCall pattern .link (Publication.link temporary final),
      Block.perform fun state => { state with published := true },
      systemCall pattern .unlinkTemporary (Publication.unlink temporary),
      Block.perform fun state => { state with temporaryExists := false },
      systemCall pattern .syncDirectory .ok]

/-- The two `except` clauses. -/
def publishHandler (final : String) : OsFailure → CaptureBlock
  | .fileExists =>
      Block.chain [Block.perform Publication.countConflicts, Block.giveBack none]
  | .osError =>
      Block.chain
        [Block.perform Publication.countIoErrors,
          Block.guarded Publication.published
            (suppressed (systemCall pattern .rollback (Publication.unlink final))
              Publication.countIoErrors),
          Block.giveBack none]

/-- The `finally` clause. -/
def publishCleanup (temporary : String) : CaptureBlock :=
  Block.chain
    [Block.guarded Publication.descriptor
        (suppressed (systemCall pattern .closeAgain .ok) id),
      Block.guarded Publication.temporaryExists
        (suppressed (systemCall pattern .cleanup (Publication.unlink temporary))
          Publication.countIoErrors)]

/-- The `try` statement and what follows it. -/
def publish (path temporary final : String) (data : Bytes) (fuel : Nat) : CaptureBlock :=
  Block.chain
    [Block.lastly
        (Block.handled (publishBody pattern temporary final data fuel)
          (publishHandler pattern final))
        (publishCleanup pattern temporary),
      Block.perform Publication.countWritten,
      Block.giveBack (some path)]

/-- The answer of a call of `_capture_locked`, and what it leaves. -/
def Returned (answer : Option String) (state : Publication) :
    Option (Completion (Option String) OsFailure × Publication) :=
  some (.returned answer, state)

end Capturing

namespace DescriptorLayoutCapture

/-- `self.capture_dir / final_name`. -/
def location (self : DescriptorLayoutCapture) (inventory : DescriptorInventory) : String :=
  self.captureDir ++ "/" ++ inventory.finalName

/-- `_capture_locked`. The encoding of a valid inventory does not raise. -/
def captureLocked (self : DescriptorLayoutCapture) (json : JsonModule)
    (pattern : FailurePattern) (fuel : Nat) (directory : Directory)
    (counters : DescriptorCaptureCounters) (inventory : Argument DescriptorInventory) :
    Option (Completion (Option String) OsFailure × Publication) :=
  let start : Publication := { directory := directory, counters := counters }
  if self.closed then Returned none start.countClosedDropped
  else if pattern.stat ≠ some self.directoryIdentity then Returned none start.countIoErrors
  else
    match inventory with
    | .other _ => Returned none start.countInvalidRecords
    | .typed inventory =>
        if self.maxRegions < inventory.regions.length then
          Returned none start.countCapacityDropped
        else
          let data := inventory.encoded json self.evidenceLabel
          if self.maxRecordBytes < data.length then Returned none start.countCapacityDropped
          else
            match pattern.token with
            | none => Returned none start.countIoErrors
            | some token =>
                publish pattern (self.location inventory) (inventory.temporaryName token)
                  inventory.finalName data fuel start

end DescriptorLayoutCapture

end KVTransferObservability.DescriptorPublication
