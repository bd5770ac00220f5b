import KVTransferObservability.Adapter
import KVTransferObservability.Library.Steps
import KVTransferObservability.Library.Totals

/-!
# Bounded descriptor admission

`descriptors.py`: the queue and the writer of `AsyncDescriptorLayoutCapture`, and
`adapter.py`: `capture_descriptor` with the parts of `start` and `stop` that it can
see. A call takes three locks one after the other and is three steps; so is the
handling of an inventory by the writer: publication, counting, result callback. The
callback of the adapter increments a counter and cannot raise.
-/

namespace KVTransferObservability.DescriptorQueue

open Library Totals PythonValues Adapter

set_option autoImplicit false

/-- Where the writer stands in `_run`; `true` is a successful publication. -/
inductive CaptureWriter (Inventory : Type)
  | waiting
  | publishing (inventory : Inventory)
  | counting (written : Bool)
  | reporting (written : Bool)
  | exited

structure AsyncDescriptorCounters where
  accepted : Nat := 0
  queueFull : Nat := 0
  invalidRecords : Nat := 0
  closedDropped : Nat := 0
  written : Nat := 0
  failed : Nat := 0
  cleanupErrors : Nat := 0
  deriving DecidableEq, Repr

/-- The capture, with the inventories it accepted and those it handed to publication,
each with whether a path came back. -/
structure AsyncDescriptorLayoutCapture (Inventory : Type) where
  queue : List Inventory := []
  closing : Bool := false
  counts : AsyncDescriptorCounters := {}
  writer : CaptureWriter Inventory := .waiting
  accepted : List Inventory := []
  published : List (Inventory × Bool) := []

/-- A call of `capture_descriptor` after its first step: it holds the capture it has
read, or the answer it has got; `none` is an exception. -/
inductive CallPoint (Inventory : Type)
  | entered (capture : Option Nat) (inventory : Argument Inventory)
  | answered (answer : Option Bool)

structure DescriptorCounters where
  received : Nat := 0
  queued : Nat := 0
  written : Nat := 0
  dropped : Nat := 0
  inactiveDropped : Nat := 0
  callbackErrors : Nat := 0
  deriving DecidableEq, Repr

/-- `captures` has the captures of all starts, `current` the one in
`_descriptor_capture`, and `raised` counts the calls whose enqueueing raised. -/
structure DescriptorSystem (Inventory : Type) where
  state : AdapterState := .stopped
  current : Option Nat := none
  counterValues : DescriptorCounters := {}
  captures : List (AsyncDescriptorLayoutCapture Inventory) := []
  calls : List (CallPoint Inventory) := []
  raised : Nat := 0

inductive DescriptorEvent (Inventory : Type)
  /-- A start has its resources; without a directory there is no capture. -/
  | prepare (captures : Bool)
  | activate
  | beginStop
  | endStop
  | close (capture : Nat)
  | enter (inventory : Argument Inventory)
  | enqueue (call : Nat) (raises : Bool)
  | answer (call : Nat)
  | take (capture : Nat)
  | publish (capture : Nat) (written : Bool)
  | count (capture : Nat)
  | report (capture : Nat)
  | exit (capture : Nat) (cleanupRaises : Bool)

section Capture

variable {Inventory : Type} (regions : Inventory → Nat) (maxPending maxRegions : Nat)

/-- `capture`: drop the newest on overflow. -/
def AsyncDescriptorLayoutCapture.capture (self : AsyncDescriptorLayoutCapture Inventory)
    (inventory : Argument Inventory) : Bool × AsyncDescriptorLayoutCapture Inventory :=
  if self.closing then
    (false, { self with counts := { self.counts with
        closedDropped := self.counts.closedDropped + 1 } })
  else
    match inventory with
    | .other _ =>
        (false, { self with counts := { self.counts with
            invalidRecords := self.counts.invalidRecords + 1 } })
    | .typed inventory =>
        if maxRegions < regions inventory then
          (false, { self with counts := { self.counts with
              invalidRecords := self.counts.invalidRecords + 1 } })
        else if maxPending ≤ self.queue.length then
          (false, { self with counts := { self.counts with
              queueFull := self.counts.queueFull + 1 } })
        else
          (true, { self with
            queue := self.queue ++ [inventory]
            counts := { self.counts with accepted := self.counts.accepted + 1 }
            accepted := self.accepted ++ [inventory] })

/-- One step of the writer of a capture. -/
def AsyncDescriptorLayoutCapture.take (self : AsyncDescriptorLayoutCapture Inventory) :
    Option (AsyncDescriptorLayoutCapture Inventory) :=
  match self.writer, self.queue with
  | .waiting, inventory :: rest =>
      some { self with queue := rest, writer := .publishing inventory }
  | _, _ => none

def AsyncDescriptorLayoutCapture.publish (self : AsyncDescriptorLayoutCapture Inventory)
    (written : Bool) : Option (AsyncDescriptorLayoutCapture Inventory) :=
  match self.writer with
  | .publishing inventory =>
      some { self with
        writer := .counting written, published := self.published ++ [(inventory, written)] }
  | _ => none

def AsyncDescriptorLayoutCapture.count (self : AsyncDescriptorLayoutCapture Inventory) :
    Option (AsyncDescriptorLayoutCapture Inventory) :=
  match self.writer with
  | .counting true =>
      some { self with
        writer := .reporting true
        counts := { self.counts with written := self.counts.written + 1 } }
  | .counting false =>
      some { self with
        writer := .reporting false
        counts := { self.counts with failed := self.counts.failed + 1 } }
  | _ => none

/-- The writer returns only when the capture is closing and its queue is empty. -/
def AsyncDescriptorLayoutCapture.exit (self : AsyncDescriptorLayoutCapture Inventory)
    (cleanupRaises : Bool) : Option (AsyncDescriptorLayoutCapture Inventory) :=
  match self.writer, self.queue, self.closing with
  | .waiting, [], true =>
      some { self with
        writer := .exited
        counts := if cleanupRaises then
          { self.counts with cleanupErrors := self.counts.cleanupErrors + 1 } else self.counts }
  | _, _, _ => none

end Capture

section System

variable {Inventory : Type} (regions : Inventory → Nat) (maxPending maxRegions : Nat)

/-- A writer step of one of the captures. -/
def DescriptorSystem.writerStep (state : DescriptorSystem Inventory) (place : Nat)
    (change : AsyncDescriptorLayoutCapture Inventory →
      Option (AsyncDescriptorLayoutCapture Inventory)) :
    Option (DescriptorSystem Inventory) :=
  (state.captures[place]?).bind fun capture =>
    (change capture).map fun next => { state with captures := state.captures.set place next }

/-- `_descriptor_result`, called back after the counting. -/
def DescriptorSystem.report (state : DescriptorSystem Inventory) (place : Nat) :
    Option (DescriptorSystem Inventory) :=
  match state.captures[place]? with
  | none => none
  | some capture =>
      match capture.writer with
      | .reporting written =>
          some { state with
            captures := state.captures.set place { capture with writer := .waiting }
            counterValues := if written then
              { state.counterValues with written := state.counterValues.written + 1 }
            else { state.counterValues with dropped := state.counterValues.dropped + 1 } }
      | _ => none

/-- The first step of `capture_descriptor`. -/
def DescriptorSystem.enter (state : DescriptorSystem Inventory)
    (inventory : Argument Inventory) : DescriptorSystem Inventory :=
  if state.state = .active then
    { state with
      counterValues := { state.counterValues with
        received := state.counterValues.received + 1 }
      calls := state.calls ++ [.entered state.current inventory] }
  else
    { state with counterValues := { state.counterValues with
        inactiveDropped := state.counterValues.inactiveDropped + 1 } }

/-- The second step: without a capture the call is dropped; the enqueueing may raise. -/
def DescriptorSystem.enqueue (state : DescriptorSystem Inventory) (call : Nat) (raises : Bool) :
    Option (DescriptorSystem Inventory) :=
  match state.calls[call]? with
  | some (.entered none _) => some { state with calls := state.calls.set call (.answered false) }
  | some (.entered (some place) inventory) =>
      if raises then
        some { state with
          calls := state.calls.set call (.answered none), raised := state.raised + 1 }
      else
        (state.captures[place]?).map fun capture =>
          let (answer, next) := capture.capture regions maxPending maxRegions inventory
          { state with
            captures := state.captures.set place next
            calls := state.calls.set call (.answered answer) }
  | _ => none

/-- The last step: the counter of the answer. -/
def DescriptorSystem.answer (state : DescriptorSystem Inventory) (call : Nat) :
    Option (DescriptorSystem Inventory) :=
  match state.calls[call]? with
  | some (.answered answer) =>
      some { state with
        calls := state.calls.eraseIdx call
        counterValues :=
          match answer with
          | none => { state.counterValues with
              callbackErrors := state.counterValues.callbackErrors + 1 }
          | some true => { state.counterValues with queued := state.counterValues.queued + 1 }
          | some false => { state.counterValues with dropped := state.counterValues.dropped + 1 } }
  | _ => none

def step (state : DescriptorSystem Inventory) :
    DescriptorEvent Inventory → Option (DescriptorSystem Inventory)
  | .prepare captures =>
      if state.state = .stopped then
        some { state with
          state := .starting
          current := if captures then some state.captures.length else none
          captures := if captures then state.captures ++ [{}] else state.captures }
      else none
  | .activate => if state.state = .starting then some { state with state := .active } else none
  | .beginStop =>
      if state.state = .stopped then none else some { state with state := .stopping }
  | .endStop =>
      if state.state = .starting ∨ state.state = .stopping then
        some { state with state := .stopped, current := none }
      else none
  | .close place =>
      state.writerStep place fun capture => some { capture with closing := true }
  | .enter inventory => some (state.enter inventory)
  | .enqueue call raises => state.enqueue regions maxPending maxRegions call raises
  | .answer call => state.answer call
  | .take place => state.writerStep place AsyncDescriptorLayoutCapture.take
  | .publish place written => state.writerStep place fun capture => capture.publish written
  | .count place => state.writerStep place AsyncDescriptorLayoutCapture.count
  | .report place => state.report place
  | .exit place cleanupRaises =>
      state.writerStep place fun capture => capture.exit cleanupRaises

end System

end KVTransferObservability.DescriptorQueue
