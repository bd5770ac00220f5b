import KVTransferObservability.Schema

/-!
# The canonical record and its closed event shapes

`KVTransferObservation` of `schema.py`. Every event fixes which optional fields
are populated; the lemmas at the end turn that rule into the contents of a
record of each recovery event.
-/

namespace KVTransferObservability.Observation

open PythonValues Schema

set_option autoImplicit false

/-- The optional fields that decide the shape of a record. -/
inductive ObservationField
  | transfer
  | direction
  | receipt
  | associatedTransfers
  | computeKind
  | requeueReason
  | terminalReason
  | bytesMoved
  | blockCount
  | durationNs
  | deviceDurationNs
  deriving DecidableEq, Repr

def observationFields : List ObservationField :=
  [.transfer, .direction, .receipt, .associatedTransfers, .computeKind, .requeueReason,
    .terminalReason, .bytesMoved, .blockCount, .durationNs, .deviceDurationNs]

structure ObservationFields where
  event : ObservationEvent
  identity : ObservationIdentity
  observedAtNs : Uint uint64Max
  transfer : Option TransferIdentity := none
  direction : Option TransferDirection := none
  receipt : Option ReceiptIdentity := none
  associatedTransfers : TransferRoster := TransferRoster.empty
  computeKind : Option ComputeKind := none
  requeueReason : Option RecoveryRequeueReason := none
  terminalReason : Option TransferTerminalReason := none
  bytesMoved : Option (PositiveUint uint64Max) := none
  blockCount : Option (PositiveUint uint32Max) := none
  durationNs : Option (Uint uint64Max) := none
  deviceDurationNs : Option (PositiveUint uint64Max) := none
  deriving DecidableEq

/-- Neither `None` nor the empty tuple. -/
def ObservationFields.isPopulated (fields : ObservationFields) : ObservationField → Bool
  | .transfer => fields.transfer.isSome
  | .direction => fields.direction.isSome
  | .receipt => fields.receipt.isSome
  | .associatedTransfers => !fields.associatedTransfers.val.isEmpty
  | .computeKind => fields.computeKind.isSome
  | .requeueReason => fields.requeueReason.isSome
  | .terminalReason => fields.terminalReason.isSome
  | .bytesMoved => fields.bytesMoved.isSome
  | .blockCount => fields.blockCount.isSome
  | .durationNs => fields.durationNs.isSome
  | .deviceDurationNs => fields.deviceDurationNs.isSome

/-- The set of populated fields, listed in the order of `observationFields`. -/
def ObservationFields.populated (fields : ObservationFields) : List ObservationField :=
  observationFields.filter fields.isPopulated

/-- The closed schema of each event, in the same order. -/
def shapes : ObservationEvent → List ObservationField
  | .preserveStarted => [.transfer, .direction, .blockCount]
  | .preserveCompleted => [.transfer, .direction, .bytesMoved, .blockCount, .durationNs]
  | .transferStarted => [.transfer, .direction, .bytesMoved]
  | .transferCompleted => [.transfer, .direction, .bytesMoved, .durationNs]
  | .transferFailed => [.transfer, .direction, .terminalReason]
  | .transferCancelled => [.transfer, .direction, .terminalReason]
  | .restoreStarted => [.transfer, .direction, .blockCount]
  | .restoreCompleted =>
      [.transfer, .direction, .receipt, .bytesMoved, .blockCount, .durationNs]
  | .recoveryRequeued => [.requeueReason]
  | .recoveryAdmitted => [.associatedTransfers]
  | .firstCompute => [.receipt, .associatedTransfers, .computeKind]

def receiptOutOfScope (receipt : Option ReceiptIdentity) (transfer : Option TransferIdentity) :
    Bool :=
  match receipt, transfer with
  | some receipt, some transfer => receipt.processUuid != transfer.processUuid
  | _, _ => false

def rosterOutOfScope (receipt : Option ReceiptIdentity) (transfers : List TransferIdentity) :
    Bool :=
  match receipt with
  | some receipt => transfers.any fun transfer => transfer.processUuid != receipt.processUuid
  | none => false

def reasonOutside (reason : Option TransferTerminalReason)
    (reasons : List TransferTerminalReason) : Bool :=
  match reason with
  | some reason => !reasons.contains reason
  | none => true

def validateEventShape (fields : ObservationFields) : Py Unit := do
  let populated := fields.populated
  raiseIf (populated.contains .deviceDurationNs &&
      !([.preserveCompleted, .transferCompleted, .restoreCompleted].contains fields.event))
    "device_duration_ns is only valid for completed transfers"
  raiseIf (populated.erase .deviceDurationNs != shapes fields.event)
    ("fields do not match the closed schema for " ++ fields.event.value)
  raiseIf ([.preserveStarted, .preserveCompleted].contains fields.event &&
      fields.direction != some .d2h)
    "preserve events require d2h direction"
  raiseIf ([.restoreStarted, .restoreCompleted].contains fields.event &&
      fields.direction != some .h2d)
    "restore events require h2d direction"
  raiseIf (fields.event == .restoreCompleted &&
      receiptOutOfScope fields.receipt fields.transfer)
    "restore receipt and transfer must share process scope"
  raiseIf (fields.event == .transferFailed && reasonOutside fields.terminalReason failureReasons)
    "transfer_failed has an invalid terminal reason"
  raiseIf (fields.event == .transferCancelled &&
      reasonOutside fields.terminalReason cancellationReasons)
    "transfer_cancelled has an invalid terminal reason"
  raiseIf ([.recoveryRequeued, .recoveryAdmitted, .firstCompute].contains fields.event &&
      fields.identity.recoveryEpoch.isNone)
    (fields.event.value ++ " requires a recovery epoch")
  raiseIf (fields.event == .firstCompute &&
      rosterOutOfScope fields.receipt fields.associatedTransfers.val)
    "first-compute receipt and transfers must share process scope"

structure KVTransferObservation extends ObservationFields where
  shape : validateEventShape toObservationFields = .ok ()
  deriving DecidableEq

/-- What the constructor is called with. -/
structure ObservationArguments where
  event : Argument ObservationEvent
  identity : Argument ObservationIdentity
  observedAtNs : PyObject
  transfer : Argument TransferIdentity := .other .none
  direction : Argument TransferDirection := .other .none
  receipt : Argument ReceiptIdentity := .other .none
  associatedTransfers : Argument (List TransferIdentity) := .typed []
  computeKind : Argument ComputeKind := .other .none
  requeueReason : Argument RecoveryRequeueReason := .other .none
  terminalReason : Argument TransferTerminalReason := .other .none
  bytesMoved : PyObject := .none
  blockCount : PyObject := .none
  durationNs : PyObject := .none
  deviceDurationNs : PyObject := .none

/-- The tuple checks of `__post_init__` on `associated_transfers`. -/
def requireAssociatedTransfers (transfers : Argument (List TransferIdentity)) :
    Py TransferRoster :=
  match transfers with
  | .typed transfers =>
      if bounded : transfers.length ≤ maxTransferAssociations then
        if sorted : sortedUnique TransferIdentity.value transfers = true then
          .ok ⟨transfers, bounded, sorted⟩
        else .error (.valueError "associated_transfers must be sorted and unique")
      else .error (.valueError "associated_transfers exceeds the bounded limit")
  | .other (.tuple items) =>
      if items.length ≤ maxTransferAssociations then
        .error (.valueError "associated_transfers contains an invalid identity")
      else .error (.valueError "associated_transfers exceeds the bounded limit")
  | .other _ => .error (.valueError "associated_transfers must be a tuple")

@[simp] theorem require_associated_transfers_value (roster : TransferRoster) :
    requireAssociatedTransfers (.typed roster.val) = .ok roster := by
  simp [requireAssociatedTransfers, roster.property.1, roster.property.2]

/-- The last step of `__post_init__`. -/
def KVTransferObservation.ofFields (fields : ObservationFields) : Py KVTransferObservation :=
  match shape : validateEventShape fields with
  | .ok () => .ok { fields with shape := shape }
  | .error error => .error error

def KVTransferObservation.make (arguments : ObservationArguments) :
    Py KVTransferObservation := do
  let event ← arguments.event.expect "event must be an ObservationEvent"
  let identity ← arguments.identity.expect "identity must be an ObservationIdentity"
  let observedAtNs ← requireUint arguments.observedAtNs "observed_at_ns" uint64Max
  let transfer ← arguments.transfer.expectOptional "transfer must be a TransferIdentity"
  let direction ← arguments.direction.expectOptional "direction must be a TransferDirection"
  let receipt ← arguments.receipt.expectOptional "receipt must be a ReceiptIdentity"
  let associatedTransfers ← requireAssociatedTransfers arguments.associatedTransfers
  let computeKind ← arguments.computeKind.expectOptional "compute_kind must be a ComputeKind"
  let requeueReason ← arguments.requeueReason.expectOptional
    "requeue_reason must be a RecoveryRequeueReason"
  let terminalReason ← arguments.terminalReason.expectOptional
    "terminal_reason must be a TransferTerminalReason"
  let bytesMoved ← optional arguments.bytesMoved
    fun value => requirePositiveUint value "bytes_moved" uint64Max
  let blockCount ← optional arguments.blockCount
    fun value => requirePositiveUint value "block_count" uint32Max
  let durationNs ← optional arguments.durationNs
    fun value => requireUint value "duration_ns" uint64Max
  let deviceDurationNs ← optional arguments.deviceDurationNs
    fun value => requirePositiveUint value "device_duration_ns" uint64Max
  KVTransferObservation.ofFields
    { event, identity, observedAtNs, transfer, direction, receipt, associatedTransfers,
      computeKind, requeueReason, terminalReason, bytesMoved, blockCount, durationNs,
      deviceDurationNs }

/-- Passing checked values back to the constructor. -/
def ObservationFields.arguments (fields : ObservationFields) : ObservationArguments where
  event := .typed fields.event
  identity := .typed fields.identity
  observedAtNs := .int fields.observedAtNs.val
  transfer := .ofOption fields.transfer
  direction := .ofOption fields.direction
  receipt := .ofOption fields.receipt
  associatedTransfers := .typed fields.associatedTransfers.val
  computeKind := .ofOption fields.computeKind
  requeueReason := .ofOption fields.requeueReason
  terminalReason := .ofOption fields.terminalReason
  bytesMoved := .ofOption (fields.bytesMoved.map Subtype.val)
  blockCount := .ofOption (fields.blockCount.map Subtype.val)
  durationNs := .ofOption (fields.durationNs.map Subtype.val)
  deviceDurationNs := .ofOption (fields.deviceDurationNs.map Subtype.val)

@[simp] theorem optional_positive_value {maximum : Nat} (value : Option (PositiveUint maximum))
    (fieldName : String) :
    optional (PyObject.ofOption (value.map Subtype.val))
      (fun object => requirePositiveUint object fieldName maximum) = .ok value := by
  cases value with
  | none => rfl
  | some number => simp [Except.map]

@[simp] theorem optional_uint_value {maximum : Nat} (value : Option (Uint maximum))
    (fieldName : String) :
    optional (PyObject.ofOption (value.map Subtype.val))
      (fun object => requireUint object fieldName maximum) = .ok value := by
  cases value with
  | none => rfl
  | some number => simp [Except.map]

/-- On checked values only the event shape can still be refused. -/
theorem make_arguments (fields : ObservationFields) :
    KVTransferObservation.make fields.arguments = KVTransferObservation.ofFields fields := by
  unfold KVTransferObservation.make ObservationFields.arguments
  simp only [Argument.expect_typed, require_uint_value, Argument.expect_optional_of_option,
    require_associated_transfers_value, optional_positive_value, optional_uint_value,
    bind, Except.bind]

theorem of_fields_shape (fields : ObservationFields)
    (shape : validateEventShape fields = .ok ()) :
    KVTransferObservation.ofFields fields = .ok { fields with shape := shape } := by
  unfold KVTransferObservation.ofFields
  split
  · rfl
  · rename_i error failed
    rw [shape] at failed
    cases failed

theorem validate_event_shape_errors (fields : ObservationFields) :
    OnlyValueErrors (validateEventShape fields) := by
  unfold validateEventShape
  repeat
    refine OnlyValueErrors.bind (OnlyValueErrors.raiseIf _ _) ?_
    intro _
  exact OnlyValueErrors.raiseIf _ _

theorem require_associated_transfers_errors (transfers : Argument (List TransferIdentity)) :
    OnlyValueErrors (requireAssociatedTransfers transfers) := by
  unfold requireAssociatedTransfers
  repeat' split
  all_goals first | exact OnlyValueErrors.ok _ | exact OnlyValueErrors.valueError _

theorem make_errors (arguments : ObservationArguments) :
    OnlyValueErrors (KVTransferObservation.make arguments) := by
  unfold KVTransferObservation.make
  refine OnlyValueErrors.bind (OnlyValueErrors.expect _ _) fun event => ?_
  refine OnlyValueErrors.bind (OnlyValueErrors.expect _ _) fun identity => ?_
  refine OnlyValueErrors.bind (require_uint_errors _ _ _) fun observedAtNs => ?_
  refine OnlyValueErrors.bind (OnlyValueErrors.expectOptional _ _) fun transfer => ?_
  refine OnlyValueErrors.bind (OnlyValueErrors.expectOptional _ _) fun direction => ?_
  refine OnlyValueErrors.bind (OnlyValueErrors.expectOptional _ _) fun receipt => ?_
  refine OnlyValueErrors.bind (require_associated_transfers_errors _) fun roster => ?_
  refine OnlyValueErrors.bind (OnlyValueErrors.expectOptional _ _) fun kind => ?_
  refine OnlyValueErrors.bind (OnlyValueErrors.expectOptional _ _) fun requeue => ?_
  refine OnlyValueErrors.bind (OnlyValueErrors.expectOptional _ _) fun terminal => ?_
  refine OnlyValueErrors.bind
    (OnlyValueErrors.optional _ fun _ => require_positive_uint_errors _ _ _) fun bytes => ?_
  refine OnlyValueErrors.bind
    (OnlyValueErrors.optional _ fun _ => require_positive_uint_errors _ _ _) fun blocks => ?_
  refine OnlyValueErrors.bind
    (OnlyValueErrors.optional _ fun _ => require_uint_errors _ _ _) fun duration => ?_
  refine OnlyValueErrors.bind
    (OnlyValueErrors.optional _ fun _ => require_positive_uint_errors _ _ _) fun device => ?_
  unfold KVTransferObservation.ofFields
  split
  · exact OnlyValueErrors.ok _
  · rename_i error failed
    intro other raised
    cases raised
    exact validate_event_shape_errors _ _ failed

/-! ## What an accepted shape says -/

/-- The checks of `validateEventShape`, one field each. -/
structure EventShape (fields : ObservationFields) : Prop where
  deviceDuration : (fields.populated.contains .deviceDurationNs &&
    !([.preserveCompleted, .transferCompleted, .restoreCompleted].contains fields.event)) = false
  closed : fields.populated.erase .deviceDurationNs = shapes fields.event
  preserveDirection : ([.preserveStarted, .preserveCompleted].contains fields.event &&
    fields.direction != some .d2h) = false
  restoreDirection : ([.restoreStarted, .restoreCompleted].contains fields.event &&
    fields.direction != some .h2d) = false
  restoreScope : (fields.event == .restoreCompleted &&
    receiptOutOfScope fields.receipt fields.transfer) = false
  failureReason : (fields.event == .transferFailed &&
    reasonOutside fields.terminalReason failureReasons) = false
  cancellationReason : (fields.event == .transferCancelled &&
    reasonOutside fields.terminalReason cancellationReasons) = false
  epoch : ([.recoveryRequeued, .recoveryAdmitted, .firstCompute].contains fields.event &&
    fields.identity.recoveryEpoch.isNone) = false
  computeScope : (fields.event == .firstCompute &&
    rosterOutOfScope fields.receipt fields.associatedTransfers.val) = false

theorem validate_event_shape_iff (fields : ObservationFields) :
    validateEventShape fields = .ok () ↔ EventShape fields := by
  unfold validateEventShape
  simp only [raise_if_bind_ok, raise_if_ok, bne_eq_false_iff_eq]
  constructor
  · rintro ⟨device, closed, preserve, restore, scope, failure, cancellation, epoch, compute⟩
    exact ⟨device, closed, preserve, restore, scope, failure, cancellation, epoch, compute⟩
  · rintro ⟨device, closed, preserve, restore, scope, failure, cancellation, epoch, compute⟩
    exact ⟨device, closed, preserve, restore, scope, failure, cancellation, epoch, compute⟩

theorem event_shape (record : KVTransferObservation) : EventShape record.toObservationFields :=
  (validate_event_shape_iff _).mp record.shape

theorem mem_observation_fields (name : ObservationField) : name ∈ observationFields := by
  cases name <;> decide

theorem populated_iff (fields : ObservationFields) (shape : EventShape fields)
    (name : ObservationField) (plain : name ≠ .deviceDurationNs) :
    fields.isPopulated name = decide (name ∈ shapes fields.event) := by
  rw [← shape.closed]
  have member : name ∈ fields.populated.erase .deviceDurationNs ↔
      fields.isPopulated name = true := by
    rw [List.mem_erase_of_ne plain, ObservationFields.populated, List.mem_filter]
    exact and_iff_right (mem_observation_fields name)
  by_cases populated : fields.isPopulated name = true
  · rw [populated, decide_eq_true (member.mpr populated)]
  · rw [Bool.not_eq_true] at populated
    rw [populated, decide_eq_false]
    rw [member, populated]
    decide

/-- No device timing outside completions. -/
theorem device_duration_absent (fields : ObservationFields) (shape : EventShape fields)
    (other : !([.preserveCompleted, .transferCompleted, .restoreCompleted].contains fields.event)) :
    fields.deviceDurationNs = none := by
  have absent := shape.deviceDuration
  rw [other, Bool.and_true] at absent
  have notMember : ObservationField.deviceDurationNs ∉ fields.populated := by
    simpa using absent
  rw [ObservationFields.populated, List.mem_filter, not_and] at notMember
  have unpopulated := notMember (mem_observation_fields _)
  simpa [ObservationFields.isPopulated] using unpopulated

theorem roster_absent {roster : TransferRoster} (absent : (!roster.val.isEmpty) = false) :
    roster = TransferRoster.empty := by
  apply Subtype.ext
  have empty : roster.val = [] := by simpa using absent
  exact empty

theorem optional_absent {Value : Type} {value : Option Value} (absent : value.isSome = false) :
    value = none := by
  simpa using absent

theorem optional_present {Value : Type} {value : Option Value} (present : value.isSome = true) :
    ∃ content, value = some content :=
  Option.isSome_iff_exists.mp present

/-- The fields with all but the named ones at their defaults; the device timing stays. -/
def ObservationFields.only (names : List ObservationField) (fields : ObservationFields) :
    ObservationFields where
  event := fields.event
  identity := fields.identity
  observedAtNs := fields.observedAtNs
  transfer := if .transfer ∈ names then fields.transfer else none
  direction := if .direction ∈ names then fields.direction else none
  receipt := if .receipt ∈ names then fields.receipt else none
  associatedTransfers :=
    if .associatedTransfers ∈ names then fields.associatedTransfers else TransferRoster.empty
  computeKind := if .computeKind ∈ names then fields.computeKind else none
  requeueReason := if .requeueReason ∈ names then fields.requeueReason else none
  terminalReason := if .terminalReason ∈ names then fields.terminalReason else none
  bytesMoved := if .bytesMoved ∈ names then fields.bytesMoved else none
  blockCount := if .blockCount ∈ names then fields.blockCount else none
  durationNs := if .durationNs ∈ names then fields.durationNs else none
  deviceDurationNs := fields.deviceDurationNs

theorem optional_kept {Value : Type} (value : Option Value) (allowed : Prop) [Decidable allowed]
    (presence : value.isSome = decide allowed) : (if allowed then value else none) = value := by
  split
  · rfl
  · rename_i outside
    rw [decide_eq_false outside] at presence
    exact (optional_absent presence).symm

/-- Nothing outside its shape is in an event. -/
theorem only_shape (fields : ObservationFields) (shape : EventShape fields) :
    fields.only (shapes fields.event) = fields := by
  have presence := populated_iff fields shape
  have roster : (if .associatedTransfers ∈ shapes fields.event then fields.associatedTransfers
      else TransferRoster.empty) = fields.associatedTransfers := by
    split
    · rfl
    · rename_i outside
      have absent := presence .associatedTransfers (by decide)
      rw [decide_eq_false outside] at absent
      exact (roster_absent absent).symm
  simp only [ObservationFields.only, roster,
    optional_kept _ _ (presence .transfer (by decide)),
    optional_kept _ _ (presence .direction (by decide)),
    optional_kept _ _ (presence .receipt (by decide)),
    optional_kept _ _ (presence .computeKind (by decide)),
    optional_kept _ _ (presence .requeueReason (by decide)),
    optional_kept _ _ (presence .terminalReason (by decide)),
    optional_kept _ _ (presence .bytesMoved (by decide)),
    optional_kept _ _ (presence .blockCount (by decide)),
    optional_kept _ _ (presence .durationNs (by decide))]

theorem roster_present (fields : ObservationFields)
    (present : fields.isPopulated .associatedTransfers = true) :
    fields.associatedTransfers.val ≠ [] := by
  intro empty
  simp [ObservationFields.isPopulated, empty] at present

theorem recovery_requeued_content (fields : ObservationFields) (shape : EventShape fields)
    (event : fields.event = .recoveryRequeued) :
    ∃ reason, fields =
      { event := .recoveryRequeued, identity := fields.identity,
        observedAtNs := fields.observedAtNs, requeueReason := some reason } := by
  have presence := populated_iff fields shape
  have device := device_duration_absent fields shape (by rw [event]; decide)
  have kept := only_shape fields shape
  rw [event] at presence kept
  obtain ⟨reason, requeue⟩ := optional_present (presence .requeueReason (by decide))
  refine ⟨reason, kept.symm.trans ?_⟩
  rw [ObservationFields.only, event, requeue, device]
  rfl

theorem restore_started_content (fields : ObservationFields) (shape : EventShape fields)
    (event : fields.event = .restoreStarted) :
    ∃ transfer blocks, fields =
      { event := .restoreStarted, identity := fields.identity,
        observedAtNs := fields.observedAtNs, transfer := some transfer,
        direction := some .h2d, blockCount := some blocks } := by
  have presence := populated_iff fields shape
  have device := device_duration_absent fields shape (by rw [event]; decide)
  have kept := only_shape fields shape
  have direction : fields.direction = some .h2d := by
    have restore := shape.restoreDirection
    rw [event] at restore
    simpa using restore
  rw [event] at presence kept
  obtain ⟨transfer, moved⟩ := optional_present (presence .transfer (by decide))
  obtain ⟨blocks, counted⟩ := optional_present (presence .blockCount (by decide))
  refine ⟨transfer, blocks, kept.symm.trans ?_⟩
  rw [ObservationFields.only, event, moved, direction, counted, device]
  rfl

theorem restore_completed_content (fields : ObservationFields) (shape : EventShape fields)
    (event : fields.event = .restoreCompleted) :
    ∃ transfer receipt bytes blocks duration,
      receipt.processUuid = transfer.processUuid ∧
      fields =
        { event := .restoreCompleted, identity := fields.identity,
          observedAtNs := fields.observedAtNs, transfer := some transfer,
          direction := some .h2d, receipt := some receipt, bytesMoved := some bytes,
          blockCount := some blocks, durationNs := some duration,
          deviceDurationNs := fields.deviceDurationNs } := by
  have presence := populated_iff fields shape
  have kept := only_shape fields shape
  have direction : fields.direction = some .h2d := by
    have restore := shape.restoreDirection
    rw [event] at restore
    simpa using restore
  have scope := shape.restoreScope
  rw [event] at presence scope kept
  obtain ⟨transfer, moved⟩ := optional_present (presence .transfer (by decide))
  obtain ⟨receipt, received⟩ := optional_present (presence .receipt (by decide))
  obtain ⟨bytes, weighed⟩ := optional_present (presence .bytesMoved (by decide))
  obtain ⟨blocks, counted⟩ := optional_present (presence .blockCount (by decide))
  obtain ⟨duration, timed⟩ := optional_present (presence .durationNs (by decide))
  refine ⟨transfer, receipt, bytes, blocks, duration, ?_, kept.symm.trans ?_⟩
  · rw [moved, received] at scope
    simpa [receiptOutOfScope] using scope
  · rw [ObservationFields.only, event, moved, direction, received, weighed, counted, timed]
    rfl

theorem recovery_admitted_content (fields : ObservationFields) (shape : EventShape fields)
    (event : fields.event = .recoveryAdmitted) :
    fields.associatedTransfers.val ≠ [] ∧ fields.identity.recoveryEpoch ≠ none ∧
      fields =
        { event := .recoveryAdmitted, identity := fields.identity,
          observedAtNs := fields.observedAtNs,
          associatedTransfers := fields.associatedTransfers } := by
  have presence := populated_iff fields shape
  have device := device_duration_absent fields shape (by rw [event]; decide)
  have kept := only_shape fields shape
  have epoch := shape.epoch
  rw [event] at presence epoch kept
  refine ⟨roster_present fields (presence .associatedTransfers (by decide)), ?_,
    kept.symm.trans ?_⟩
  · intro missing
    simp [missing] at epoch
  · rw [ObservationFields.only, event, device]
    rfl

theorem first_compute_content (fields : ObservationFields) (shape : EventShape fields)
    (event : fields.event = .firstCompute) :
    ∃ receipt kind,
      fields.associatedTransfers.val ≠ [] ∧ fields.identity.recoveryEpoch ≠ none ∧
      (∀ transfer ∈ fields.associatedTransfers.val,
        transfer.processUuid = receipt.processUuid) ∧
      fields =
        { event := .firstCompute, identity := fields.identity,
          observedAtNs := fields.observedAtNs, receipt := some receipt,
          associatedTransfers := fields.associatedTransfers, computeKind := some kind } := by
  have presence := populated_iff fields shape
  have device := device_duration_absent fields shape (by rw [event]; decide)
  have kept := only_shape fields shape
  have epoch := shape.epoch
  have scope := shape.computeScope
  rw [event] at presence epoch scope kept
  obtain ⟨receipt, received⟩ := optional_present (presence .receipt (by decide))
  obtain ⟨kind, computed⟩ := optional_present (presence .computeKind (by decide))
  refine ⟨receipt, kind, roster_present fields (presence .associatedTransfers (by decide)), ?_, ?_,
    kept.symm.trans ?_⟩
  · intro missing
    simp [missing] at epoch
  · rw [received] at scope
    simpa [rosterOutOfScope] using scope
  · rw [ObservationFields.only, event, received, computed, device]
    rfl

end KVTransferObservability.Observation
