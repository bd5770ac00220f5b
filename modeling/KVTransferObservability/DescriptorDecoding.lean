import KVTransferObservability.Descriptors
import KVTransferObservability.ObservationDecoding
import KVTransferObservability.CorrelatedDecoding

/-!
# Descriptor inventories are read exactly as written

`validation.py`: `descriptor_from_payload`. The regions are rebuilt from their objects by
keyword, and the label is looked at once the inventory stands, so what decides in the end
is the comparison with the payload of inventory and label together. A direction or label
that is nested too deeply to be printed leaves the reader as `RecursionError`.
-/

namespace KVTransferObservability.DescriptorDecoding

open PythonValues Schema Payload Decoding DecodingRules Constructors ObservationDecoding
  CorrelatedDecoding Descriptors Library

set_option autoImplicit false

def inventoryKeys : List String :=
  ["schema", "identity", "transfer_id", "job_id", "direction", "descriptors", "observed_at_ns",
    "evidence_label"]

def regionKeys : List String :=
  ["src_offset", "dst_offset", "size", "direction", "src_region_id", "dst_region_id"]

def identityKeys : List String := ["request_id", "worker_generation", "rank", "recovery_epoch"]

/-- `DescriptorRegion(**fields)`, with the direction replaced by its member. -/
def regionFromPayload (python : Interpreter) (value : Value) : Py DescriptorRegion := do
  let fields ← asObject value
  let direction ← enumMember python TransferDirection.all TransferDirection.value
    (← item fields "direction")
  refuseUnexpected fields [] regionKeys
  let srcOffset ← requiredArgument fields "src_offset"
  let dstOffset ← requiredArgument fields "dst_offset"
  let size ← requiredArgument fields "size"
  let srcRegionId ← requiredArgument fields "src_region_id"
  let dstRegionId ← requiredArgument fields "dst_region_id"
  DescriptorRegion.make
    { srcOffset, dstOffset, size, direction := .typed direction, srcRegionId, dstRegionId }

/-- The body of the `try` block. -/
def readInventory (python : Interpreter) (fields : Fields) :
    Py (DescriptorInventory × EvidenceLabel) :=
  match fields.lookup "descriptors" with
  | some (.array values) => do
      let regions ← values.mapM (regionFromPayload python)
      let identity ← identityFromPayload (← item fields "identity")
      let transfer ← TransferIdentity.make (argument fields "transfer_id")
      let direction ← enumMember python TransferDirection.all TransferDirection.value
        (← item fields "direction")
      let inventory ← DescriptorInventory.make
        { identity := .typed identity, transfer := .typed transfer,
          jobId := argument fields "job_id", direction := .typed direction,
          regions := .typed regions, observedAtNs := argument fields "observed_at_ns" }
      let label ← enumMember python EvidenceLabel.all EvidenceLabel.value
        (← item fields "evidence_label")
      .ok (inventory, label)
  | _ => .error (.valueError "descriptors must be an array")

def descriptorFromPayload (python : Interpreter) (payload : Value) :
    Py DescriptorInventory := do
  let fields ← asObject payload
  raiseIf (!hasExactly fields inventoryKeys) "descriptor inventory fields do not match v2"
  raiseIf (!(argument fields "schema").equalsText descriptorSchema) "expected descriptor schema v2"
  let result ← closing "invalid closed descriptor inventory" (readInventory python fields)
  raiseIf (!equal (result.1.toPayload result.2) payload) "noncanonical descriptor fields"
  .ok result.1

variable {python : Interpreter}

/-! ## Constructors -/

def regionArguments (region : DescriptorRegion) : RegionArguments :=
  { srcOffset := .int region.srcOffset.val
    dstOffset := .int region.dstOffset.val
    size := .int region.size.val
    direction := .typed region.direction
    srcRegionId := .int region.srcRegionId.val
    dstRegionId := .int region.dstRegionId.val }

theorem region_make_iff (arguments : RegionArguments) (region : DescriptorRegion) :
    DescriptorRegion.make arguments = .ok region ↔ arguments = regionArguments region := by
  constructor
  · intro made
    obtain ⟨srcOffset, srcChecked, made⟩ := bind_eq_ok.mp made
    obtain ⟨dstOffset, dstChecked, made⟩ := bind_eq_ok.mp made
    obtain ⟨size, sizeChecked, made⟩ := bind_eq_ok.mp made
    split at made
    case isFalse => cases made
    obtain ⟨direction, directed, made⟩ := bind_eq_ok.mp made
    obtain ⟨srcRegion, srcRegionChecked, made⟩ := bind_eq_ok.mp made
    obtain ⟨dstRegion, dstRegionChecked, made⟩ := bind_eq_ok.mp made
    cases made
    cases arguments
    simp only [regionArguments, RegionArguments.mk.injEq]
    exact ⟨check_uint_sound srcChecked, check_uint_sound dstChecked,
      check_uint_sound sizeChecked, expect_sound directed, check_uint_sound srcRegionChecked,
      check_uint_sound dstRegionChecked⟩
  · intro same
    subst same
    have sized : checkUint (.int region.size.val) uint64Max ("size" ++ " must be a uint64") =
        .ok ⟨region.size.val, region.size.property.2⟩ :=
      check_uint_nat region.size.val uint64Max _ region.size.property.2
    simp only [DescriptorRegion.make, regionArguments, sized, bind, Except.bind,
      dif_pos region.size.property.1, requireUint64, check_uint_value, Argument.expect_typed]

def inventoryArguments (inventory : DescriptorInventory) : InventoryArguments :=
  { identity := .typed inventory.identity
    transfer := .typed inventory.transfer
    jobId := .int inventory.jobId.val
    direction := .typed inventory.direction
    regions := .typed inventory.regions
    observedAtNs := .int inventory.observedAtNs.val }

theorem inventory_make_iff (arguments : InventoryArguments) (inventory : DescriptorInventory) :
    DescriptorInventory.make arguments = .ok inventory ↔
      arguments = inventoryArguments inventory := by
  constructor
  · intro made
    obtain ⟨identity, identified, made⟩ := bind_eq_ok.mp made
    obtain ⟨transfer, transferred, made⟩ := bind_eq_ok.mp made
    obtain ⟨jobId, jobChecked, made⟩ := bind_eq_ok.mp made
    obtain ⟨direction, directed, made⟩ := bind_eq_ok.mp made
    obtain ⟨regions, listed, made⟩ := bind_eq_ok.mp made
    split at made
    case isFalse => cases made
    split at made
    case isFalse => cases made
    split at made
    case isFalse => cases made
    obtain ⟨observedAtNs, timeChecked, made⟩ := bind_eq_ok.mp made
    cases made
    cases arguments
    simp only [inventoryArguments, InventoryArguments.mk.injEq]
    exact ⟨expect_sound identified, expect_sound transferred, check_uint_sound jobChecked,
      expect_sound directed, expect_sound listed, check_uint_sound timeChecked⟩
  · intro same
    subst same
    simp only [DescriptorInventory.make, inventoryArguments, Argument.expect_typed, requireUint64,
      check_uint_value, bind, Except.bind, dif_pos inventory.nonempty,
      dif_pos inventory.bounded, dif_pos inventory.oneDirection]

theorem region_make_errors (arguments : RegionArguments) :
    OnlyValueErrors (DescriptorRegion.make arguments) := by
  apply OnlyValueErrors.bind (OnlyValueErrors.checkUint _ _ _); intro _
  apply OnlyValueErrors.bind (OnlyValueErrors.checkUint _ _ _); intro _
  apply OnlyValueErrors.bind (OnlyValueErrors.checkUint _ _ _); intro _
  split
  case isFalse => exact OnlyValueErrors.valueError _
  apply OnlyValueErrors.bind (OnlyValueErrors.expect _ _); intro _
  apply OnlyValueErrors.bind (OnlyValueErrors.checkUint _ _ _); intro _
  apply OnlyValueErrors.bind (OnlyValueErrors.checkUint _ _ _); intro _
  exact OnlyValueErrors.ok _

theorem inventory_make_errors (arguments : InventoryArguments) :
    OnlyValueErrors (DescriptorInventory.make arguments) := by
  apply OnlyValueErrors.bind (OnlyValueErrors.expect _ _); intro _
  apply OnlyValueErrors.bind (OnlyValueErrors.expect _ _); intro _
  apply OnlyValueErrors.bind (OnlyValueErrors.checkUint _ _ _); intro _
  apply OnlyValueErrors.bind (OnlyValueErrors.expect _ _); intro _
  apply OnlyValueErrors.bind (OnlyValueErrors.expect _ _); intro _
  split
  case isFalse => exact OnlyValueErrors.valueError _
  split
  case isFalse => exact OnlyValueErrors.valueError _
  split
  case isFalse => exact OnlyValueErrors.valueError _
  apply OnlyValueErrors.bind (OnlyValueErrors.checkUint _ _ _); intro _
  exact OnlyValueErrors.ok _

/-! ## Regions -/

theorem region_plain {value : Value} {region : DescriptorRegion} (unique : value.UniqueKeys)
    (read : regionFromPayload python value = .ok region) : Plain value := by
  obtain ⟨fields, isObject, read⟩ := bind_eq_ok.mp read
  obtain ⟨directionValue, directionFound, read⟩ := bind_eq_ok.mp read
  obtain ⟨direction, directionRead, read⟩ := bind_eq_ok.mp read
  obtain ⟨_, expected, read⟩ := bind_eq_ok.mp read
  obtain ⟨srcOffset, srcRead, read⟩ := bind_eq_ok.mp read
  obtain ⟨dstOffset, dstRead, read⟩ := bind_eq_ok.mp read
  obtain ⟨size, sizeRead, read⟩ := bind_eq_ok.mp read
  obtain ⟨srcRegion, srcRegionRead, read⟩ := bind_eq_ok.mp read
  obtain ⟨dstRegion, dstRegionRead, made⟩ := bind_eq_ok.mp read
  rw [region_make_iff, regionArguments, RegionArguments.mk.injEq] at made
  obtain ⟨srcAccepted, dstAccepted, sizeAccepted, _, srcRegionAccepted, dstRegionAccepted⟩ := made
  rw [as_object_ok_iff] at isObject
  rw [item_ok_iff] at directionFound
  have directionPlain : Plain directionValue := by
    rw [enum_member_sound directionRead]
    exact text_plain _
  subst isObject srcAccepted dstAccepted sizeAccepted srcRegionAccepted dstRegionAccepted
  cases unique with
  | object distinct _ =>
      apply plain_of_keywords distinct expected
      simp only [regionKeys, List.nil_append, List.forall_mem_cons]
      exact ⟨required_argument_int_plain srcRead, required_argument_int_plain dstRead,
        required_argument_int_plain sizeRead, found_plain directionFound directionPlain,
        required_argument_int_plain srcRegionRead, required_argument_int_plain dstRegionRead,
        List.forall_mem_nil _⟩

/-- The keys of a written region are those of its constructor. -/
theorem region_keys {fields : Fields} {region : DescriptorRegion}
    (unique : Json.UniqueKeys (.object fields))
    (agree : same (DescriptorRegion.toPayload region) (.object fields) = true) (key : String) :
    key ∈ Json.keys fields ↔ key ∈ regionKeys := by
  obtain ⟨others, identical, _, entries⟩ := same_object (by simp [Json.keys]) unique agree
  cases identical
  rw [same_keys entries key]
  simp only [Json.keys, regionKeys, List.map_cons, List.map_nil, List.mem_cons, List.not_mem_nil,
    or_false]
  tauto

theorem region_complete {value : Value} {region : DescriptorRegion} (unique : value.UniqueKeys)
    (agree : same (DescriptorRegion.toPayload region) value = true) :
    regionFromPayload python value = .ok region := by
  obtain ⟨fields, rfl, _, entries⟩ := same_object (by simp [Json.keys]) unique agree
  have keys := region_keys unique agree
  have direction : fields.lookup "direction" = some (text region.direction.value) :=
    lookup_text (entries "direction")
  have srcOffset : fields.lookup "src_offset" = some (natural region.srcOffset.val) :=
    lookup_natural (entries "src_offset")
  have dstOffset : fields.lookup "dst_offset" = some (natural region.dstOffset.val) :=
    lookup_natural (entries "dst_offset")
  have size : fields.lookup "size" = some (natural region.size.val) :=
    lookup_natural (entries "size")
  have srcRegion : fields.lookup "src_region_id" = some (natural region.srcRegionId.val) :=
    lookup_natural (entries "src_region_id")
  have dstRegion : fields.lookup "dst_region_id" = some (natural region.dstRegionId.val) :=
    lookup_natural (entries "dst_region_id")
  have expected : refuseUnexpected fields [] regionKeys = .ok () := by
    rw [refuse_unexpected_ok_iff]
    intro key member
    exact (keys key).mp member
  have isObject := (as_object_ok_iff (.object fields) fields).mpr rfl
  have directionItem := (item_ok_iff fields "direction" _).mpr direction
  have directionRead := enum_member_complete python direction_exact region.direction
  have srcRead := required_argument_of_lookup srcOffset
  have dstRead := required_argument_of_lookup dstOffset
  have sizeRead := required_argument_of_lookup size
  have srcRegionRead := required_argument_of_lookup srcRegion
  have dstRegionRead := required_argument_of_lookup dstRegion
  simp only [regionFromPayload, isObject, directionItem, directionRead, expected, srcRead,
    dstRead, sizeRead, srcRegionRead, dstRegionRead, bind, Except.bind]
  exact (region_make_iff _ region).mpr rfl

/-- The key of a region looked up in an enumeration. -/
def regionLookups : List String := ["direction"]

def RegionOverflows (python : Interpreter) (value : Value) : Prop :=
  ∃ fields, value = .object fields ∧ Overflows python regionLookups fields

theorem region_caught (value : Value) :
    OnlyCaught (RegionOverflows python value) (regionFromPayload python value) := by
  apply OnlyCaught.bind_of (OnlyCaught.ofValueErrors (as_object_errors value))
  intro fields isObject
  have within : Overflows python regionLookups fields → RegionOverflows python value :=
    fun deep => ⟨fields, (as_object_ok_iff value fields).mp isObject, deep⟩
  apply OnlyCaught.weaken within
  apply OnlyCaught.bind_of (item_caught fields _); intro content found
  apply OnlyCaught.bind (enum_item_caught python _ _ fields _ (by decide) content found); intro _
  apply OnlyCaught.bind (refuse_unexpected_caught _ _ _); intro _
  apply OnlyCaught.bind (required_argument_caught fields _); intro _
  apply OnlyCaught.bind (required_argument_caught fields _); intro _
  apply OnlyCaught.bind (required_argument_caught fields _); intro _
  apply OnlyCaught.bind (required_argument_caught fields _); intro _
  apply OnlyCaught.bind (required_argument_caught fields _); intro _
  exact OnlyCaught.ofValueErrors (region_make_errors _)

/-! ## Inventories -/

theorem label_exact (label : EvidenceLabel) :
    memberOfValue EvidenceLabel.all EvidenceLabel.value (.str label.value) = some label := by
  cases label <;> decide

def descriptorFormat (python : Interpreter) :
    RecordFormat (DescriptorInventory × EvidenceLabel) where
  toPayload labelled := labelled.1.toPayload labelled.2
  admits fields :=
    hasExactly fields inventoryKeys && (argument fields "schema").equalsText descriptorSchema
  read := readInventory python
  wrongSchema := "expected descriptor schema v2"
  invalid := "invalid closed descriptor inventory"
  noncanonical := "noncanonical descriptor fields"

/-- The keys of an inventory looked up in an enumeration. -/
def inventoryLookups : List String := ["direction", "evidence_label"]

/-- The text of a direction or of the label recurses too deeply. -/
def InventoryOverflows (python : Interpreter) (fields : Fields) : Prop :=
  Overflows python inventoryLookups fields ∨
    ∃ values, fields.lookup "descriptors" = some (.array values) ∧
      ∃ value ∈ values, RegionOverflows python value

theorem read_inventory_caught (fields : Fields) :
    OnlyCaught (InventoryOverflows python fields) (readInventory python fields) := by
  unfold readInventory
  split
  · rename_i values listed
    have regionsCaught : OnlyCaught (InventoryOverflows python fields)
        (values.mapM (regionFromPayload python)) := by
      apply OnlyCaught.mapM
      intro value member
      apply OnlyCaught.weaken _ (region_caught value)
      intro deep
      exact .inr ⟨values, listed, value, member, deep⟩
    apply OnlyCaught.bind regionsCaught; intro _
    apply OnlyCaught.weaken (Or.inl : Overflows python inventoryLookups fields → _)
    apply OnlyCaught.bind (item_caught fields _); intro _
    apply OnlyCaught.bind (identity_from_payload_caught _); intro _
    apply OnlyCaught.bind
      (OnlyCaught.map _ (OnlyCaught.ofValueErrors (require_scoped_id_errors _ _ _)))
    intro _
    apply OnlyCaught.bind_of (item_caught fields _); intro content found
    apply OnlyCaught.bind (enum_item_caught python _ _ fields _ (by decide) content found)
    intro _
    apply OnlyCaught.bind (OnlyCaught.ofValueErrors (inventory_make_errors _)); intro _
    apply OnlyCaught.bind_of (item_caught fields _); intro content found
    apply OnlyCaught.bind (enum_item_caught python _ _ fields _ (by decide) content found)
    intro _
    exact OnlyCaught.ok _
  · exact OnlyCaught.error trivial

theorem read_inventory_plain {fields : Fields} {labelled : DescriptorInventory × EvidenceLabel}
    (unique : Json.UniqueKeys (.object fields))
    (admitted : (descriptorFormat python).admits fields = true)
    (read : readInventory python fields = .ok labelled) : Plain (.object fields) := by
  obtain ⟨exactKeys, schemaTest⟩ := (Bool.and_eq_true _ _).mp admitted
  have schema := (argument_equals_text_iff fields "schema" descriptorSchema).mp schemaTest
  rw [has_exactly_iff] at exactKeys
  unfold readInventory at read
  split at read
  case h_2 => cases read
  rename_i values found
  obtain ⟨regions, regionsRead, read⟩ := bind_eq_ok.mp read
  obtain ⟨identityValue, identityFound, read⟩ := bind_eq_ok.mp read
  obtain ⟨identity, identityRead, read⟩ := bind_eq_ok.mp read
  obtain ⟨transfer, transferRead, read⟩ := bind_eq_ok.mp read
  obtain ⟨directionValue, directionFound, read⟩ := bind_eq_ok.mp read
  obtain ⟨direction, directionRead, read⟩ := bind_eq_ok.mp read
  obtain ⟨inventory, made, read⟩ := bind_eq_ok.mp read
  obtain ⟨labelValue, labelFound, read⟩ := bind_eq_ok.mp read
  obtain ⟨label, labelRead, _⟩ := bind_eq_ok.mp read
  rw [inventory_make_iff, inventoryArguments, InventoryArguments.mk.injEq] at made
  obtain ⟨_, _, job, _, _, observedAt⟩ := made
  rw [item_ok_iff] at identityFound directionFound labelFound
  have regionsPlain : Plain (.array values) :=
    items_plain (fun item region => region_plain) (Json.unique_keys_lookup unique found)
      regionsRead
  have identityPlain := identity_plain (Json.unique_keys_lookup unique identityFound) identityRead
  have transferRead := (transfer_make_iff _ transfer).mp transferRead
  have directionPlain : Plain directionValue := by
    rw [enum_member_sound directionRead]
    exact text_plain _
  have labelPlain : Plain labelValue := by
    rw [enum_member_sound labelRead]
    exact text_plain _
  have each : ∀ key ∈ inventoryKeys, ∀ value, fields.lookup key = some value → Plain value := by
    simp only [inventoryKeys, List.forall_mem_cons]
    exact ⟨found_plain schema (text_plain _), found_plain identityFound identityPlain,
      argument_str_plain transferRead, argument_int_plain job,
      found_plain directionFound directionPlain, found_plain found regionsPlain,
      argument_int_plain observedAt, found_plain labelFound labelPlain, List.forall_mem_nil _⟩
  cases unique with
  | object distinct _ =>
      apply Json.Every.object
      intro entry member
      have known := (exactKeys entry.1).mp (List.mem_map_of_mem member)
      exact each entry.1 known entry.2 (Json.lookup_of_mem distinct member)

/-- The entries of an object that is a written inventory. -/
theorem inventory_entries {inventory : DescriptorInventory} {label : EvidenceLabel}
    {fields : Fields} (unique : Json.UniqueKeys (.object fields))
    (agree : same (inventory.toPayload label) (.object fields) = true) :
    ∀ key, SameEntry ((inventory.entries label).lookup key) (fields.lookup key) := by
  obtain ⟨others, identical, _, entries⟩ :=
    same_object (by simp [Json.keys, DescriptorInventory.entries]) unique agree
  cases identical
  exact entries

theorem inventory_keys {inventory : DescriptorInventory} {label : EvidenceLabel}
    {fields : Fields}
    (entries : ∀ key, SameEntry ((inventory.entries label).lookup key) (fields.lookup key))
    (key : String) : key ∈ Json.keys fields ↔ key ∈ inventoryKeys := by
  rw [same_keys entries key]
  simp only [Json.keys, DescriptorInventory.entries, inventoryKeys, List.map_cons, List.map_nil,
    List.mem_cons, List.not_mem_nil, or_false]
  tauto

theorem read_inventory_complete {fields : Fields} {inventory : DescriptorInventory}
    {label : EvidenceLabel} (unique : Json.UniqueKeys (.object fields))
    (agree : same (inventory.toPayload label) (.object fields) = true) :
    (descriptorFormat python).admits fields = true ∧
      readInventory python fields = .ok (inventory, label) := by
  have entries := inventory_entries unique agree
  have exactKeys := (has_exactly_iff fields inventoryKeys).mpr (inventory_keys entries)
  have schema : fields.lookup "schema" = some (text descriptorSchema) :=
    lookup_text (entries "schema")
  have direction : fields.lookup "direction" = some (text inventory.direction.value) :=
    lookup_text (entries "direction")
  have labelled : fields.lookup "evidence_label" = some (text label.value) :=
    lookup_text (entries "evidence_label")
  have job : fields.lookup "job_id" = some (natural inventory.jobId.val) :=
    lookup_natural (entries "job_id")
  have observedAt : fields.lookup "observed_at_ns" = some (natural inventory.observedAtNs.val) :=
    lookup_natural (entries "observed_at_ns")
  have transfer : fields.lookup "transfer_id" = some (text inventory.transfer.value) :=
    lookup_text (entries "transfer_id")
  obtain ⟨identityValue, identityFound, identityAgrees⟩ := lookup_agrees (entries "identity")
  obtain ⟨regionsValue, regionsFound, regionsAgree⟩ := lookup_agrees (entries "descriptors")
  obtain ⟨values, rfl, related⟩ := same_array regionsAgree
  have regionsRead : values.mapM (regionFromPayload python) = .ok inventory.regions :=
    items_complete (fun item region => region_complete)
      (Json.unique_keys_lookup unique regionsFound) related
  have identityItem := (item_ok_iff fields "identity" _).mpr identityFound
  have identityRead := identity_complete (Json.unique_keys_lookup unique identityFound)
    identityAgrees
  have transferRead := (transfer_make_iff _ inventory.transfer).mpr
    (argument_str_of_lookup transfer)
  have directionItem := (item_ok_iff fields "direction" _).mpr direction
  have directionRead := enum_member_complete python direction_exact inventory.direction
  have labelItem := (item_ok_iff fields "evidence_label" _).mpr labelled
  have labelRead := enum_member_complete python label_exact label
  have made := (inventory_make_iff (inventoryArguments inventory) inventory).mpr rfl
  constructor
  · apply (Bool.and_eq_true _ _).mpr
    exact ⟨exactKeys, (argument_equals_text_iff fields "schema" descriptorSchema).mpr schema⟩
  · unfold readInventory
    rw [regionsFound]
    simp only [regionsRead, identityItem, identityRead, transferRead, directionItem,
      directionRead, labelItem, labelRead, argument_int_of_lookup job,
      argument_int_of_lookup observedAt, bind, Except.bind]
    unfold inventoryArguments at made
    rw [made]

variable (python) in
theorem descriptor_format_lawful :
    Lawful (descriptorFormat python) (InventoryOverflows python) where
  written labelled := written_inventory labelled.1 labelled.2
  object _ := ⟨_, rfl⟩
  sound _ _ unique admitted read := read_inventory_plain unique admitted read
  complete _ _ unique agree := read_inventory_complete unique agree
  caught := read_inventory_caught

/-- The reader drops the label of what the format reads. -/
theorem descriptor_from_payload_format (payload : Value) (inventory : DescriptorInventory) :
    descriptorFromPayload python payload = .ok inventory ↔
      ∃ label, (descriptorFormat python).fromPayload payload = .ok (inventory, label) := by
  constructor
  · intro success
    obtain ⟨fields, isObject, success⟩ := bind_eq_ok.mp success
    obtain ⟨keys, success⟩ := (raise_if_bind_ok _ _ _ _).mp success
    obtain ⟨schema, success⟩ := (raise_if_bind_ok _ _ _ _).mp success
    obtain ⟨result, closed, success⟩ := bind_eq_ok.mp success
    obtain ⟨agree, success⟩ := (raise_if_bind_ok _ _ _ _).mp success
    cases success
    rw [Bool.not_eq_false'] at keys schema
    have admitted : (!(descriptorFormat python).admits fields) = false := by
      rw [Bool.not_eq_false']
      exact (Bool.and_eq_true _ _).mpr ⟨keys, schema⟩
    refine ⟨result.2, bind_eq_ok.mpr ⟨fields, isObject, ?_⟩⟩
    refine (raise_if_bind_ok _ _ _ _).mpr ⟨admitted, bind_eq_ok.mpr ⟨result, closed, ?_⟩⟩
    exact (raise_if_bind_ok _ _ _ _).mpr ⟨agree, rfl⟩
  · intro accepted
    obtain ⟨label, success⟩ := accepted
    obtain ⟨fields, isObject, success⟩ := bind_eq_ok.mp success
    obtain ⟨admitted, success⟩ := (raise_if_bind_ok _ _ _ _).mp success
    obtain ⟨result, closed, success⟩ := bind_eq_ok.mp success
    obtain ⟨agree, success⟩ := (raise_if_bind_ok _ _ _ _).mp success
    cases success
    rw [Bool.not_eq_false'] at admitted
    obtain ⟨keys, schema⟩ := (Bool.and_eq_true _ _).mp admitted
    rw [← Bool.not_eq_false'] at keys schema
    refine bind_eq_ok.mpr ⟨fields, isObject, ?_⟩
    refine (raise_if_bind_ok _ _ _ _).mpr ⟨keys, (raise_if_bind_ok _ _ _ _).mpr ⟨schema, ?_⟩⟩
    refine bind_eq_ok.mpr ⟨(inventory, label), closed, ?_⟩
    exact (raise_if_bind_ok _ _ _ _).mpr ⟨agree, rfl⟩

theorem descriptor_from_payload_iff (payload : Value) (unique : payload.UniqueKeys)
    (inventory : DescriptorInventory) :
    descriptorFromPayload python payload = .ok inventory ↔
      ∃ label, same (inventory.toPayload label) payload = true := by
  rw [descriptor_from_payload_format]
  constructor
  · intro accepted
    obtain ⟨label, success⟩ := accepted
    exact ⟨label, (from_payload_iff (descriptor_format_lawful python) payload unique _).mp success⟩
  · intro written
    obtain ⟨label, agree⟩ := written
    exact ⟨label,
      (from_payload_iff (descriptor_format_lawful python) payload unique (inventory, label)).mpr agree⟩

/-- The object is labelled as an inventory, and what it says about a direction or the label
cannot be printed. -/
def InventoryTooDeep (python : Interpreter) (payload : Value) : Prop :=
  ∃ fields, payload = .object fields ∧ (descriptorFormat python).admits fields = true ∧
    InventoryOverflows python fields

theorem descriptor_from_payload_errors (payload : Value) :
    ValueErrorsUnless (InventoryTooDeep python payload)
      (descriptorFromPayload python payload) := by
  apply ValueErrorsUnless.bind_of (.ofValueErrors (as_object_errors payload))
  intro fields isObject
  apply ValueErrorsUnless.bind_of (.ofValueErrors (OnlyValueErrors.raiseIf _ _))
  intro _ keys
  apply ValueErrorsUnless.bind_of (.ofValueErrors (OnlyValueErrors.raiseIf _ _))
  intro _ schema
  rw [raise_if_ok, Bool.not_eq_false'] at keys schema
  have within : InventoryOverflows python fields → InventoryTooDeep python payload :=
    fun deep => ⟨fields, (as_object_ok_iff payload fields).mp isObject,
      (Bool.and_eq_true _ _).mpr ⟨keys, schema⟩, deep⟩
  apply ValueErrorsUnless.bind_of
    (closing_errors _ (OnlyCaught.weaken within (read_inventory_caught fields)))
  intro _ _
  apply ValueErrorsUnless.ofValueErrors
  apply OnlyValueErrors.bind (OnlyValueErrors.raiseIf _ _); intro _
  exact OnlyValueErrors.ok _

/-! ## Refused payloads -/

/-- Refused with `ValueError`, or because a lookup ran out of levels. -/
def Refused (python : Interpreter) (payload : Value) : Prop :=
  (∃ message, descriptorFromPayload python payload = .error (.valueError message)) ∨
    descriptorFromPayload python payload = .error (.raised "RecursionError") ∧
      InventoryTooDeep python payload

theorem inventory_or_refused (payload : Value) :
    (∃ inventory, descriptorFromPayload python payload = .ok inventory) ∨
      Refused python payload :=
  (descriptor_from_payload_errors payload).outcome

theorem refused_of_unlike {payload : Value} (unique : payload.UniqueKeys)
    (unlike : ∀ (inventory : DescriptorInventory) label,
      same (inventory.toPayload label) payload = true → False) :
    Refused python payload := by
  rcases inventory_or_refused payload with ⟨inventory, accepted⟩ | refused
  · obtain ⟨label, agree⟩ := (descriptor_from_payload_iff payload unique inventory).mp accepted
    exact (unlike inventory label agree).elim
  · exact refused

theorem inventory_plain {payload : Value} (unique : payload.UniqueKeys)
    {inventory : DescriptorInventory} (accepted : descriptorFromPayload python payload = .ok inventory) :
    Plain payload := by
  obtain ⟨label, success⟩ := (descriptor_from_payload_format payload inventory).mp accepted
  exact from_payload_plain (descriptor_format_lawful python) unique success

/-- The regions of an accepted object, in order. -/
theorem region_values {inventory : DescriptorInventory} {label : EvidenceLabel}
    {fields : Fields} {values : List Value} (unique : Json.UniqueKeys (.object fields))
    (agree : same (inventory.toPayload label) (.object fields) = true)
    (found : fields.lookup "descriptors" = some (.array values)) :
    List.Forall₂ (fun region value => same (DescriptorRegion.toPayload region) value = true)
      inventory.regions values := by
  obtain ⟨value, again, regionsAgree⟩ :=
    lookup_agrees (inventory_entries unique agree "descriptors")
  rw [found] at again
  cases again
  obtain ⟨others, identical, related⟩ := same_array regionsAgree
  cases identical
  rw [List.forall₂_map_left_iff] at related
  exact related

/-- Every item of a list has its counterpart in a list it is related to item by item. -/
theorem related_source {Source Item : Type} {related : Source → Item → Prop}
    {sources : List Source} {items : List Item} (pairs : List.Forall₂ related sources items)
    {item : Item} (member : item ∈ items) : ∃ source ∈ sources, related source item := by
  induction pairs with
  | nil => cases member
  | @cons source other _ _ first _ induction =>
      rcases List.mem_cons.mp member with same | later
      · subst same
        exact ⟨source, List.mem_cons_self, first⟩
      · obtain ⟨found, inside, holds⟩ := induction later
        exact ⟨found, List.mem_cons_of_mem source inside, holds⟩

theorem region_of_value {inventory : DescriptorInventory} {label : EvidenceLabel}
    {fields region : Fields} {values : List Value} (unique : Json.UniqueKeys (.object fields))
    (agree : same (inventory.toPayload label) (.object fields) = true)
    (found : fields.lookup "descriptors" = some (.array values))
    (member : .object region ∈ values) :
    Json.UniqueKeys (.object region) ∧ ∃ source ∈ inventory.regions,
      same (DescriptorRegion.toPayload source) (.object region) = true := by
  constructor
  · cases Json.unique_keys_lookup unique found with
    | array each => exact each _ member
  · exact related_source (region_values unique agree found) member

section

variable {fields : Fields} (unique : Json.UniqueKeys (.object fields))

include unique

theorem wrong_keys_refused {key : String}
    (wrong : ¬ (key ∈ Json.keys fields ↔ key ∈ inventoryKeys)) : Refused python (.object fields) := by
  apply refused_of_unlike unique
  intro inventory label agree
  exact wrong (inventory_keys (inventory_entries unique agree) key)

theorem unknown_label_refused
    (unknown : ∀ label : EvidenceLabel,
      fields.lookup "evidence_label" ≠ some (text label.value)) : Refused python (.object fields) := by
  apply refused_of_unlike unique
  intro inventory label agree
  exact unknown label (lookup_text (inventory_entries unique agree "evidence_label"))

theorem wrong_identity_refused {identity : Fields} {key : String}
    (found : fields.lookup "identity" = some (.object identity))
    (wrong : ¬ (key ∈ Json.keys identity ↔ key ∈ identityKeys)) : Refused python (.object fields) := by
  apply refused_of_unlike unique
  intro inventory label agree
  obtain ⟨value, again, identityAgrees⟩ :=
    lookup_agrees (inventory_entries unique agree "identity")
  rw [found] at again
  cases again
  obtain ⟨others, identical, _, entries⟩ :=
    same_object (by simp [Json.keys]) (Json.unique_keys_lookup unique found) identityAgrees
  cases identical
  apply wrong
  rw [same_keys entries key]
  simp only [Json.keys, identityKeys, List.map_cons, List.map_nil, List.mem_cons,
    List.not_mem_nil, or_false]
  tauto

variable {values : List Value} (found : fields.lookup "descriptors" = some (.array values))

include found

theorem wrong_count_refused (wrong : values = [] ∨ maxDescriptorRegions < values.length) :
    Refused python (.object fields) := by
  apply refused_of_unlike unique
  intro inventory label agree
  have length := (region_values unique agree found).length_eq
  have bounded := inventory.bounded
  rcases wrong with empty | large
  · rw [empty, List.length_nil, List.length_eq_zero_iff] at length
    exact inventory.nonempty length
  · omega

variable {region : Fields} (member : .object region ∈ values)

include member

theorem wrong_region_refused {key : String}
    (wrong : ¬ (key ∈ Json.keys region ↔ key ∈ regionKeys)) : Refused python (.object fields) := by
  apply refused_of_unlike unique
  intro inventory label agree
  obtain ⟨distinct, source, _, regionAgrees⟩ := region_of_value unique agree found member
  exact wrong (region_keys distinct regionAgrees key)

/-- All regions are copied the way the inventory says. -/
theorem other_direction_refused
    (other : region.lookup "direction" ≠ fields.lookup "direction") : Refused python (.object fields) := by
  apply refused_of_unlike unique
  intro inventory label agree
  obtain ⟨distinct, source, inside, regionAgrees⟩ := region_of_value unique agree found member
  obtain ⟨others, identical, _, entries⟩ :=
    same_object (by simp [Json.keys]) distinct regionAgrees
  cases identical
  have outer : fields.lookup "direction" = some (text inventory.direction.value) :=
    lookup_text (inventory_entries unique agree "direction")
  have inner : region.lookup "direction" = some (text source.direction.value) :=
    lookup_text (entries "direction")
  apply other
  rw [inner, outer, inventory.oneDirection source inside]

end

/-- What decides about an object: it is accepted as an inventory exactly when it is that
inventory's payload under some label, and otherwise refused, with `ValueError` unless a
direction or the label is too deep to be printed. -/
structure InventoryReadExactly (python : Interpreter) (payload : Value) : Prop where
  accepted : ∀ inventory, descriptorFromPayload python payload = .ok inventory ↔
    ∃ label, same (inventory.toPayload label) payload = true
  oneInventory : ∀ first second : DescriptorInventory,
    (∃ label, same (first.toPayload label) payload = true) →
    (∃ label, same (second.toPayload label) payload = true) → first = second
  otherwise : (∀ (inventory : DescriptorInventory) label,
    same (inventory.toPayload label) payload = false) → Refused python payload
  raises : ValueErrorsUnless (InventoryTooDeep python payload)
    (descriptorFromPayload python payload)
  raisesValueErrors : ¬ InventoryTooDeep python payload →
    OnlyValueErrors (descriptorFromPayload python payload)
  wrongTypes : ¬ Plain payload → Refused python payload
  keys : ∀ fields key, payload = .object fields →
    ¬ (key ∈ Json.keys fields ↔ key ∈ inventoryKeys) → Refused python payload
  label : ∀ fields, payload = .object fields →
    (∀ label : EvidenceLabel, fields.lookup "evidence_label" ≠ some (text label.value)) →
    Refused python payload
  identity : ∀ fields identity key, payload = .object fields →
    fields.lookup "identity" = some (.object identity) →
    ¬ (key ∈ Json.keys identity ↔ key ∈ identityKeys) → Refused python payload
  regionCount : ∀ fields values, payload = .object fields →
    fields.lookup "descriptors" = some (.array values) →
    values = [] ∨ maxDescriptorRegions < values.length → Refused python payload
  region : ∀ fields values region key, payload = .object fields →
    fields.lookup "descriptors" = some (.array values) → .object region ∈ values →
    ¬ (key ∈ Json.keys region ↔ key ∈ regionKeys) → Refused python payload
  direction : ∀ fields values region, payload = .object fields →
    fields.lookup "descriptors" = some (.array values) → .object region ∈ values →
    region.lookup "direction" ≠ fields.lookup "direction" → Refused python payload

theorem descriptor_reader_accepts_exactly_what_is_written :
    (∀ (python : Interpreter) (payload : Value), payload.UniqueKeys →
      InventoryReadExactly python payload) ∧
      ∀ (python : Interpreter) (inventory : DescriptorInventory) label,
        descriptorFromPayload python (inventory.toPayload label) = .ok inventory := by
  constructor
  · intro python payload unique
    have accepted : ∀ inventory, descriptorFromPayload python payload = .ok inventory ↔
        ∃ label, same (inventory.toPayload label) payload = true :=
      descriptor_from_payload_iff payload unique
    have raises : ValueErrorsUnless (InventoryTooDeep python payload)
        (descriptorFromPayload python payload) := descriptor_from_payload_errors payload
    constructor
    · exact accepted
    · intro first second firstWritten secondWritten
      have readFirst := (accepted first).mpr firstWritten
      have readSecond := (accepted second).mpr secondWritten
      exact Except.ok.inj (readFirst.symm.trans readSecond)
    · intro unlike
      apply refused_of_unlike unique
      intro inventory label agree
      rw [unlike inventory label] at agree
      cases agree
    · exact raises
    · intro fits
      exact raises.onlyValueErrors fits
    · intro notPlain
      rcases inventory_or_refused payload with ⟨inventory, success⟩ | refused
      · exact absurd (inventory_plain unique success) notPlain
      · exact refused
    · intro fields key isObject wrong
      subst isObject
      exact wrong_keys_refused unique wrong
    · intro fields isObject unknown
      subst isObject
      exact unknown_label_refused unique unknown
    · intro fields identity key isObject found wrong
      subst isObject
      exact wrong_identity_refused unique found wrong
    · intro fields values isObject found wrong
      subst isObject
      exact wrong_count_refused unique found wrong
    · intro fields values region key isObject found member wrong
      subst isObject
      exact wrong_region_refused unique found member wrong
    · intro fields values region isObject found member other
      subst isObject
      exact other_direction_refused unique found member other
  · intro python inventory label
    have unique := (written_inventory inventory label).unique
    exact (descriptor_from_payload_iff _ unique inventory).mpr ⟨label, same_refl unique⟩

/-- The regions are read first, and of each region its direction. -/
theorem region_direction_overflows {fields region : Fields} {values : List Value}
    {content : Value} (admitted : (descriptorFormat python).admits fields = true)
    (listed : fields.lookup "descriptors" = some (.array (.object region :: values)))
    (direction : region.lookup "direction" = some content)
    (deep : python.reprOverflows (toPython content) = true) :
    descriptorFromPayload python (.object fields) = .error (.raised "RecursionError") := by
  obtain ⟨keys, schema⟩ := (Bool.and_eq_true _ _).mp admitted
  have directionItem := (item_ok_iff region "direction" content).mpr direction
  have looked : enumMember python TransferDirection.all TransferDirection.value content =
      .error (.raised "RecursionError") := python.enum_member_overflows deep
  have first : regionFromPayload python (.object region) = .error (.raised "RecursionError") := by
    simp only [regionFromPayload, asObject, directionItem, looked, bind, Except.bind]
  have read : readInventory python fields = .error (.raised "RecursionError") := by
    simp only [readInventory, listed, List.mapM_cons, first, bind, Except.bind]
  simp only [descriptorFromPayload, asObject, keys, schema, read, closing, bind, Except.bind,
    raiseIf, Bool.not_true, Bool.false_eq_true, if_false]

/-- An inventory with a region whose direction is a thousand brackets deep. -/
def nestedDirection : Fields :=
  [("schema", text descriptorSchema), ("identity", .scalar .null), ("transfer_id", .scalar .null),
    ("job_id", .scalar .null), ("direction", .scalar .null),
    ("descriptors", .array [.object [("direction", nestedArray 1000)]]),
    ("observed_at_ns", .scalar .null), ("evidence_label", .scalar .null)]

theorem nested_direction_raises :
    Json.UniqueKeys (.object nestedDirection) ∧
      descriptorFromPayload (.limitedTo 1000) (.object nestedDirection) =
        .error (.raised "RecursionError") ∧
      ∀ message, descriptorFromPayload (.limitedTo 1000) (.object nestedDirection) ≠
        .error (.valueError message) := by
  have raised : descriptorFromPayload (.limitedTo 1000) (.object nestedDirection) =
      .error (.raised "RecursionError") :=
    region_direction_overflows (by decide) rfl rfl (nested_array_overflows 1000)
  refine ⟨?_, raised, ?_⟩
  · have region : Json.UniqueKeys (.object [("direction", nestedArray 1000)]) :=
      .object (by decide) (List.forall_mem_singleton.mpr (nested_array_unique 1000))
    apply Json.UniqueKeys.object (by decide)
    simp only [nestedDirection, List.forall_mem_cons]
    exact ⟨.scalar _, .scalar _, .scalar _, .scalar _, .scalar _,
      .array (List.forall_mem_singleton.mpr region), .scalar _, .scalar _, List.forall_mem_nil _⟩
  · intro message
    rw [raised]
    simp

end KVTransferObservability.DescriptorDecoding
