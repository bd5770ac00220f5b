import KVTransferObservability.DefaultBounds
import KVTransferObservability.NormalizerTransitions
import KVTransferObservability.PublicationInterleavings

/-!
# A capture directory that is read while it is written

`validate_descriptors` takes no lock: it lists a directory and opens its files one after
the other, while captures of other processes publish into it, fail and are killed. It
meets whole inventories only, and whatever it has found in the end is accepted if the
events account for it.
-/

namespace KVTransferObservability.ScannedCaptures

open PythonValues Schema Adapter RecordText EventSink EventFile Descriptors Library
open DescriptorPublication ConcurrentPublication PublicationCall PublicationInterleavings
open DescriptorCorrelation
open Observation NormalizerRecords
open NormalizerTransitions (four_blocks time_ten)
open PublicationOutcomes (sampleCapture sampleData)

set_option autoImplicit false

/-! ## What a call was asked for -/

/-- Some event has begun the call. -/
def Begun (events : List CaptureEvent) (call : PublicationCall) : Prop :=
  ∃ counters, CaptureEvent.begins call.capture counters call.inventory call.token ∈ events

section Scan

variable (json : JsonModule) (start : Directory) (events : List CaptureEvent)

variable {json start events} {listing : List CaptureFile}

end Scan

/-- The restore that the inventory describes. -/
def sampleRestore : KVTransferObservation :=
  { startedFields
      { identity := sampleInventory.identity
        transfer := sampleInventory.transfer
        operation := .h2dRestore
        blockCount := ⟨4, four_blocks⟩
        observedAtNs := ⟨10, time_ten⟩ } with
    shape := by decide +kernel }

end KVTransferObservability.ScannedCaptures
