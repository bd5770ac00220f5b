import KVTransferObservability.Correlated
import KVTransferObservability.Normalization

/-!
# The host adapter

`adapter.py`: the callbacks of `KVTransferHostAdapter`, which join the normalizer to
the event sink and count what they drop. The sink is a parameter: `emit` says
what it answers to a record, or raises, and how it changes.
-/

namespace KVTransferObservability.Adapter

open PythonValues Schema Observation HostFacts Correlated Normalization

set_option autoImplicit false

/-- The three kinds of record the sink takes and the validator reads back. -/
inductive EventRecord
  | canonical (record : KVTransferObservation)
  | hostFact (fact : HostFact)
  | correlated (record : CorrelatedHostObservation)
  deriving DecidableEq

inductive AdapterState
  | stopped
  | starting
  | active
  | stopping
  deriving DecidableEq, Repr

structure AdapterCounters where
  registrations : Nat := 0
  observationsReceived : Nat := 0
  observationsEmitted : Nat := 0
  hostFactsReceived : Nat := 0
  hostFactsEmitted : Nat := 0
  hostFactsDropped : Nat := 0
  correlatedReceived : Nat := 0
  correlatedEmitted : Nat := 0
  correlatedDropped : Nat := 0
  normalizationDropped : Nat := 0
  sinkDropped : Nat := 0
  inactiveDropped : Nat := 0
  callbackErrors : Nat := 0
  deriving DecidableEq, Repr

structure KVTransferHostAdapter (Sink : Type) where
  state : AdapterState := .stopped
  counterValues : AdapterCounters := {}
  normalizer : Option LifecycleNormalizer := none
  sink : Option Sink := none

namespace KVTransferHostAdapter

variable {Sink : Type} (emit : Sink → EventRecord → Py Bool × Sink)

/-- `_increment`. -/
def count (self : KVTransferHostAdapter Sink) (change : AdapterCounters → AdapterCounters) :
    KVTransferHostAdapter Sink :=
  { self with counterValues := change self.counterValues }

def countInactiveDropped (counters : AdapterCounters) : AdapterCounters :=
  { counters with inactiveDropped := counters.inactiveDropped + 1 }

def countCallbackErrors (counters : AdapterCounters) : AdapterCounters :=
  { counters with callbackErrors := counters.callbackErrors + 1 }

def countNormalizationDropped (counters : AdapterCounters) : AdapterCounters :=
  { counters with normalizationDropped := counters.normalizationDropped + 1 }

def countSinkDropped (counters : AdapterCounters) : AdapterCounters :=
  { counters with sinkDropped := counters.sinkDropped + 1 }

/-- Normalize and enqueue one source record. -/
def observe (self : KVTransferHostAdapter Sink) (source : SourceObservation) :
    Bool × KVTransferHostAdapter Sink :=
  if self.state ≠ .active then (false, self.count countInactiveDropped)
  else
    let self := self.count fun counters =>
      { counters with observationsReceived := counters.observationsReceived + 1 }
    match self.normalizer, self.sink with
    | some normalizer, some sink =>
        match normalizer.normalize source with
        | (.error _, normalizer) =>
            (false, { self with normalizer := some normalizer }.count countCallbackErrors)
        | (.ok none, normalizer) =>
            (false, { self with normalizer := some normalizer }.count countNormalizationDropped)
        | (.ok (some observation), normalizer) =>
            let self := { self with normalizer := some normalizer }
            match emit sink (.canonical observation) with
            | (.error _, sink) => (false, { self with sink := some sink }.count countCallbackErrors)
            | (.ok false, sink) => (false, { self with sink := some sink }.count countSinkDropped)
            | (.ok true, sink) =>
                (true, { self with sink := some sink }.count fun counters =>
                  { counters with observationsEmitted := counters.observationsEmitted + 1 })
    | _, _ => (false, self.count countCallbackErrors)

/-- Queue one record that is not normalized; the two counters are those of its
kind. -/
def queue (self : KVTransferHostAdapter Sink) (record : EventRecord)
    (countReceived countEmitted countDropped : AdapterCounters → AdapterCounters) :
    Bool × KVTransferHostAdapter Sink :=
  if self.state ≠ .active then (false, self.count countInactiveDropped)
  else
    let self := self.count countReceived
    match self.sink with
    | none => (false, self.count countDropped)
    | some sink =>
        match emit sink record with
        | (.error _, sink) =>
            (false, ({ self with sink := some sink }.count countCallbackErrors).count countDropped)
        | (.ok false, sink) => (false, { self with sink := some sink }.count countDropped)
        | (.ok true, sink) => (true, { self with sink := some sink }.count countEmitted)

def observeHostFact (self : KVTransferHostAdapter Sink) (fact : HostFact) :
    Bool × KVTransferHostAdapter Sink :=
  self.queue emit (.hostFact fact)
    (fun counters => { counters with hostFactsReceived := counters.hostFactsReceived + 1 })
    (fun counters => { counters with hostFactsEmitted := counters.hostFactsEmitted + 1 })
    (fun counters => { counters with hostFactsDropped := counters.hostFactsDropped + 1 })

def observeCorrelated (self : KVTransferHostAdapter Sink) (record : CorrelatedHostObservation) :
    Bool × KVTransferHostAdapter Sink :=
  self.queue emit (.correlated record)
    (fun counters => { counters with correlatedReceived := counters.correlatedReceived + 1 })
    (fun counters => { counters with correlatedEmitted := counters.correlatedEmitted + 1 })
    (fun counters => { counters with correlatedDropped := counters.correlatedDropped + 1 })

end KVTransferHostAdapter

end KVTransferObservability.Adapter
