import KVTransferObservability.RecordText
import KVTransferObservability.Library.IndentedJson

/-!
# Descriptor inventories

`descriptors.py`: the copy regions of one transfer job and the file that is published
for them. A region holds no address, only numbered tensors and offsets in them.
-/

namespace KVTransferObservability.Descriptors

open PythonValues Schema Payload Library RecordText EventSink

set_option autoImplicit false

def maxDescriptorRegions : Nat := 4096
def defaultMaxDescriptorRecordBytes : Nat := 1024 * 1024

inductive EvidenceLabel
  | existingServerProbe
  | realOnline
  | replay
  | simulationModel
  deriving DecidableEq, Repr

def EvidenceLabel.all : List EvidenceLabel :=
  [.existingServerProbe, .realOnline, .replay, .simulationModel]

def EvidenceLabel.value : EvidenceLabel → String
  | .existingServerProbe => "existing-server-probe"
  | .realOnline => "real-online"
  | .replay => "replay"
  | .simulationModel => "simulation/model"

structure DescriptorRegion where
  srcOffset : Uint uint64Max
  dstOffset : Uint uint64Max
  size : PositiveUint uint64Max
  direction : TransferDirection
  srcRegionId : Uint uint32Max
  dstRegionId : Uint uint32Max
  deriving DecidableEq

structure DescriptorInventory where
  identity : ObservationIdentity
  transfer : TransferIdentity
  jobId : Uint uint64Max
  direction : TransferDirection
  regions : List DescriptorRegion
  observedAtNs : Uint uint64Max
  nonempty : regions ≠ []
  bounded : regions.length ≤ maxDescriptorRegions
  oneDirection : ∀ region ∈ regions, region.direction = direction
  deriving DecidableEq

/-! ## Constructors -/

/-- `_require_uint`. -/
def requireUint64 (value : PyObject) (name : String) : Py (Uint uint64Max) :=
  checkUint value uint64Max (name ++ " must be a uint64")

structure RegionArguments where
  srcOffset : PyObject
  dstOffset : PyObject
  size : PyObject
  direction : Argument TransferDirection
  srcRegionId : PyObject
  dstRegionId : PyObject

def DescriptorRegion.make (arguments : RegionArguments) : Py DescriptorRegion := do
  let srcOffset ← requireUint64 arguments.srcOffset "src_offset"
  let dstOffset ← requireUint64 arguments.dstOffset "dst_offset"
  let size ← requireUint64 arguments.size "size"
  if positive : 0 < size.val then
    let direction ← arguments.direction.expect "direction must be a TransferDirection"
    let srcRegionId ← checkUint arguments.srcRegionId uint32Max "src_region_id must be a uint32"
    let dstRegionId ← checkUint arguments.dstRegionId uint32Max "dst_region_id must be a uint32"
    .ok { srcOffset, dstOffset, size := ⟨size.val, positive, size.property⟩, direction,
          srcRegionId, dstRegionId }
  else .error (.valueError "size must be positive")

structure InventoryArguments where
  identity : Argument ObservationIdentity
  transfer : Argument TransferIdentity
  jobId : PyObject
  direction : Argument TransferDirection
  regions : Argument (List DescriptorRegion)
  observedAtNs : PyObject

def DescriptorInventory.make (arguments : InventoryArguments) : Py DescriptorInventory := do
  let identity ← arguments.identity.expect "identity must be an ObservationIdentity"
  let transfer ← arguments.transfer.expect "transfer must be a TransferIdentity"
  let jobId ← requireUint64 arguments.jobId "job_id"
  let direction ← arguments.direction.expect "direction must be a TransferDirection"
  let regions ← arguments.regions.expect "regions must be a nonempty tuple"
  if nonempty : regions ≠ [] then
    if bounded : regions.length ≤ maxDescriptorRegions then
      if oneDirection : ∀ region ∈ regions, region.direction = direction then
        let observedAtNs ← requireUint64 arguments.observedAtNs "observed_at_ns"
        .ok { identity, transfer, jobId, direction, regions, observedAtNs, nonempty, bounded,
              oneDirection }
      else .error (.valueError "descriptor direction changed within one inventory")
    else .error (.valueError "regions exceeds the bounded inventory limit")
  else .error (.valueError "regions must be a nonempty tuple")

/-! ## Payloads -/

def descriptorSchema : String := "vllm-hust.kv-transfer-descriptor-layout.v2"

def DescriptorRegion.toPayload (region : DescriptorRegion) : Value :=
  .object
    [("direction", text region.direction.value),
      ("dst_region_id", natural region.dstRegionId.val),
      ("dst_offset", natural region.dstOffset.val),
      ("size", natural region.size.val),
      ("src_region_id", natural region.srcRegionId.val),
      ("src_offset", natural region.srcOffset.val)]

/-- The entries of a written inventory. -/
def DescriptorInventory.entries (inventory : DescriptorInventory) (label : EvidenceLabel) :
    Fields :=
  [("descriptors", .array (inventory.regions.map DescriptorRegion.toPayload)),
    ("direction", text inventory.direction.value),
    ("evidence_label", text label.value),
    ("identity", ObservationIdentity.toPayload inventory.identity),
    ("job_id", natural inventory.jobId.val),
    ("observed_at_ns", natural inventory.observedAtNs.val),
    ("schema", text descriptorSchema),
    ("transfer_id", text inventory.transfer.value)]

def DescriptorInventory.toPayload (inventory : DescriptorInventory) (label : EvidenceLabel) :
    Value :=
  .object (inventory.entries label)

theorem written_region (region : DescriptorRegion) :
    Written (DescriptorRegion.toPayload region) := by
  apply written_object
  · simp [Json.keys]
  · simp only [List.forall_mem_cons, List.not_mem_nil, false_implies, implies_true, and_true]
    exact ⟨written_text _, written_natural _, written_natural _, written_natural _,
      written_natural _, written_natural _⟩

theorem written_inventory (inventory : DescriptorInventory) (label : EvidenceLabel) :
    Written (inventory.toPayload label) := by
  apply written_object
  · simp [Json.keys, DescriptorInventory.entries]
  · simp only [DescriptorInventory.entries, List.forall_mem_cons, List.not_mem_nil,
      false_implies, implies_true, and_true]
    refine ⟨?_, written_text _, written_text _, written_identity _, written_natural _,
      written_natural _, written_text _, written_text _⟩
    apply written_array
    intro item member
    obtain ⟨region, _, rfl⟩ := List.mem_map.mp member
    exact written_region region

/-! ## The published file -/

/-- `json.dumps(payload, ensure_ascii=True, indent=2, sort_keys=True)`. -/
def dumpsIndented (json : JsonModule) (payload : Value) : List Char :=
  IndentedJson.layout (scalarText json) 0 payload

/-- The bytes that `capture` publishes for an inventory. -/
def DescriptorInventory.encoded (json : JsonModule) (inventory : DescriptorInventory)
    (label : EvidenceLabel) : Bytes :=
  encodeAscii (dumpsIndented json (inventory.toPayload label)) ++ [newline]

/-- `rank{rank}-gen{worker_generation}-{direction}-job{job_id}.json`. -/
def DescriptorInventory.finalName (inventory : DescriptorInventory) : String :=
  "rank" ++ toString inventory.identity.rank.val ++ "-gen" ++
    toString inventory.identity.workerGeneration.val ++ "-" ++ inventory.direction.value ++
    "-job" ++ toString inventory.jobId.val ++ ".json"

/-- `.{final_name}.{token}.tmp`. -/
def DescriptorInventory.temporaryName (inventory : DescriptorInventory) (token : String) :
    String :=
  "." ++ inventory.finalName ++ "." ++ token ++ ".tmp"

theorem temporary_not_final (inventory : DescriptorInventory) (token : String) :
    inventory.temporaryName token ≠ inventory.finalName := by
  intro same
  have heads := congrArg (fun name : String => name.toList.head?) same
  simp [DescriptorInventory.temporaryName, DescriptorInventory.finalName] at heads

/-- The inventory of a restore with one region. -/
def sampleInventory : DescriptorInventory :=
  { identity :=
      { requestId := ⟨"request-2", by decide⟩
        workerGeneration := ⟨17, by decide⟩
        rank := ⟨3, by decide⟩
        recoveryEpoch := none }
    transfer := ⟨⟨"eeeeeeeeeeeeeeeeeeeeeeeeeeeeeeee:t:1", by decide +kernel⟩⟩
    jobId := ⟨21, by decide⟩
    direction := .h2d
    regions :=
      [{ srcOffset := ⟨512, by decide⟩
         dstOffset := ⟨1024, by decide⟩
         size := ⟨65536, by decide⟩
         direction := .h2d
         srcRegionId := ⟨3, by decide⟩
         dstRegionId := ⟨5, by decide⟩ }]
    observedAtNs := ⟨12, by decide⟩
    nonempty := List.cons_ne_nil _ _
    bounded := by decide
    oneDirection := by decide }

example : sampleInventory.finalName = "rank3-gen17-h2d-job21.json" := by decide +kernel

end KVTransferObservability.Descriptors
