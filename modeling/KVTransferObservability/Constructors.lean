import KVTransferObservability.Observation
import KVTransferObservability.Correlated

/-!
# What the constructors accept

A record type's constructor succeeds on exactly the arguments its record can be
built from again: the checked value determines the unchecked one. The correlated
record is the exception in one field, where a text and an equal enumeration member
are both taken.
-/

namespace KVTransferObservability.Constructors

open PythonValues Schema Observation HostFacts Correlated

set_option autoImplicit false

/-! ## Single checks -/

theorem expect_sound {Expected : Type} {argument : Argument Expected} {message : String}
    {value : Expected} (checked : argument.expect message = .ok value) :
    argument = .typed value := by
  cases argument with
  | typed content =>
      cases checked
      rfl
  | other object => cases checked

theorem expect_optional_sound {Expected : Type} {argument : Argument Expected} {message : String}
    {value : Option Expected} (checked : argument.expectOptional message = .ok value) :
    argument = Argument.ofOption value := by
  cases argument with
  | typed content =>
      cases checked
      rfl
  | other object =>
      cases object <;> cases checked
      rfl

theorem optional_cases {Checked : Type} {value : PyObject} {check : PyObject → Py Checked}
    {result : Option Checked} (checked : optional value check = .ok result) :
    value = .none ∧ result = none ∨
      ∃ content, check value = .ok content ∧ result = some content := by
  have absentOrChecked : value = .none ∧ result = none ∨
      (check value).map some = .ok result := by
    cases value <;> first | exact .inr checked | (cases checked; exact .inl ⟨rfl, rfl⟩)
  rcases absentOrChecked with absent | present
  · exact .inl absent
  · cases outcome : check value with
    | error raised =>
        rw [outcome] at present
        cases present
    | ok content =>
        rw [outcome] at present
        cases present
        exact .inr ⟨content, rfl, rfl⟩

theorem optional_sound {Checked : Type} {value : PyObject} {check : PyObject → Py Checked}
    {number : Checked → Nat}
    (sound : ∀ object result, check object = .ok result → object = .int (number result))
    {result : Option Checked} (checked : optional value check = .ok result) :
    value = PyObject.ofOption (result.map number) := by
  rcases optional_cases checked with ⟨rfl, rfl⟩ | ⟨content, success, rfl⟩
  · rfl
  · exact sound value content success

theorem require_positive_uint_sound {value : PyObject} {fieldName : String} {maximum : Nat}
    {number : PositiveUint maximum}
    (checked : requirePositiveUint value fieldName maximum = .ok number) :
    value = .int number.val := by
  obtain ⟨result, bounded, positive⟩ := bind_eq_ok.mp checked
  split at positive
  · cases positive
    exact check_uint_sound bounded
  · cases positive

theorem require_printable_ascii_sound {value : PyObject} {fieldName : String} {maxBytes : Nat}
    {content : PrintableAscii maxBytes}
    (checked : requirePrintableAscii value fieldName maxBytes = .ok content) :
    value = .str content.val := by
  unfold requirePrintableAscii at checked
  repeat' split at checked
  all_goals cases checked
  rfl

theorem require_scoped_id_sound {value : PyObject} {fieldName : String} {kind : Char}
    {id : ScopedId kind} (checked : requireScopedId value fieldName kind = .ok id) :
    value = .str id.val := by
  unfold requireScopedId at checked
  repeat' split at checked
  all_goals cases checked
  rfl

theorem require_process_uuid_sound {value : PyObject} {message : String} {uuid : ProcessUuid}
    (checked : requireProcessUuid value message = .ok uuid) : value = .str uuid.val := by
  unfold requireProcessUuid at checked
  repeat' split at checked
  all_goals cases checked
  rfl

@[simp] theorem require_scoped_id_value {kind : Char} (id : ScopedId kind) (fieldName : String) :
    requireScopedId (.str id.val) fieldName kind = .ok id := by
  simp [requireScopedId, id.property]

@[simp] theorem require_process_uuid_value (uuid : ProcessUuid) (message : String) :
    requireProcessUuid (.str uuid.val) message = .ok uuid := by
  simp [requireProcessUuid, uuid.property]

theorem require_printable_ascii_errors (value : PyObject) (fieldName : String) (maxBytes : Nat) :
    OnlyValueErrors (requirePrintableAscii value fieldName maxBytes) := by
  unfold requirePrintableAscii
  repeat' split
  all_goals first | exact OnlyValueErrors.ok _ | exact OnlyValueErrors.valueError _

theorem require_scoped_id_errors (value : PyObject) (fieldName : String) (kind : Char) :
    OnlyValueErrors (requireScopedId value fieldName kind) := by
  unfold requireScopedId
  repeat' split
  all_goals first | exact OnlyValueErrors.ok _ | exact OnlyValueErrors.valueError _

theorem require_process_uuid_errors (value : PyObject) (message : String) :
    OnlyValueErrors (requireProcessUuid value message) := by
  unfold requireProcessUuid
  repeat' split
  all_goals first | exact OnlyValueErrors.ok _ | exact OnlyValueErrors.valueError _

/-! ## Identities -/

theorem identity_make_iff (requestId workerGeneration rank recoveryEpoch : PyObject)
    (identity : ObservationIdentity) :
    ObservationIdentity.make requestId workerGeneration rank recoveryEpoch = .ok identity ↔
      requestId = .str identity.requestId.val ∧
        workerGeneration = .int identity.workerGeneration.val ∧ rank = .int identity.rank.val ∧
        recoveryEpoch = PyObject.ofOption (identity.recoveryEpoch.map Subtype.val) := by
  constructor
  · intro made
    obtain ⟨request, requestChecked, made⟩ := bind_eq_ok.mp made
    obtain ⟨generation, generationChecked, made⟩ := bind_eq_ok.mp made
    obtain ⟨number, rankChecked, made⟩ := bind_eq_ok.mp made
    obtain ⟨epoch, epochChecked, made⟩ := bind_eq_ok.mp made
    cases made
    exact ⟨require_printable_ascii_sound requestChecked, check_uint_sound generationChecked,
      check_uint_sound rankChecked,
      optional_sound (fun _ _ checked => require_positive_uint_sound checked) epochChecked⟩
  · rintro ⟨rfl, rfl, rfl, rfl⟩
    simp only [ObservationIdentity.make, require_printable_ascii_value, require_uint_value,
      optional_positive_value, bind, Except.bind]

theorem identity_make_errors (requestId workerGeneration rank recoveryEpoch : PyObject) :
    OnlyValueErrors
      (ObservationIdentity.make requestId workerGeneration rank recoveryEpoch) := by
  apply OnlyValueErrors.bind (require_printable_ascii_errors _ _ _); intro _
  apply OnlyValueErrors.bind (require_uint_errors _ _ _); intro _
  apply OnlyValueErrors.bind (require_uint_errors _ _ _); intro _
  apply OnlyValueErrors.bind
    (OnlyValueErrors.optional _ fun _ => require_positive_uint_errors _ _ _)
  intro _
  exact OnlyValueErrors.ok _

theorem transfer_make_iff (value : PyObject) (transfer : TransferIdentity) :
    TransferIdentity.make value = .ok transfer ↔ value = .str transfer.value := by
  unfold TransferIdentity.make TransferIdentity.value
  constructor
  · intro made
    cases checked : requireScopedId value "transfer_id" 't' with
    | error raised =>
        rw [checked] at made
        cases made
    | ok id =>
        rw [checked] at made
        cases made
        exact require_scoped_id_sound checked
  · rintro rfl
    rw [require_scoped_id_value]
    rfl

theorem receipt_make_iff (value : PyObject) (receipt : ReceiptIdentity) :
    ReceiptIdentity.make value = .ok receipt ↔ value = .str receipt.value := by
  unfold ReceiptIdentity.make ReceiptIdentity.value
  constructor
  · intro made
    cases checked : requireScopedId value "receipt_id" 'k' with
    | error raised =>
        rw [checked] at made
        cases made
    | ok id =>
        rw [checked] at made
        cases made
        exact require_scoped_id_sound checked
  · rintro rfl
    rw [require_scoped_id_value]
    rfl

/-! ## Canonical records -/

theorem require_associated_transfers_sound {transfers : Argument (List TransferIdentity)}
    {roster : TransferRoster} (checked : requireAssociatedTransfers transfers = .ok roster) :
    transfers = .typed roster.val := by
  unfold requireAssociatedTransfers at checked
  repeat' split at checked
  all_goals cases checked
  rfl

theorem of_fields_sound {fields : ObservationFields} {record : KVTransferObservation}
    (made : KVTransferObservation.ofFields fields = .ok record) :
    record.toObservationFields = fields := by
  unfold KVTransferObservation.ofFields at made
  split at made
  · cases made
    rfl
  · cases made

theorem observation_make_iff (arguments : ObservationArguments) (record : KVTransferObservation) :
    KVTransferObservation.make arguments = .ok record ↔ arguments = record.arguments := by
  constructor
  · intro made
    obtain ⟨event, eventChecked, made⟩ := bind_eq_ok.mp made
    obtain ⟨identity, identityChecked, made⟩ := bind_eq_ok.mp made
    obtain ⟨observedAt, observedChecked, made⟩ := bind_eq_ok.mp made
    obtain ⟨transfer, transferChecked, made⟩ := bind_eq_ok.mp made
    obtain ⟨direction, directionChecked, made⟩ := bind_eq_ok.mp made
    obtain ⟨receipt, receiptChecked, made⟩ := bind_eq_ok.mp made
    obtain ⟨roster, rosterChecked, made⟩ := bind_eq_ok.mp made
    obtain ⟨kind, kindChecked, made⟩ := bind_eq_ok.mp made
    obtain ⟨requeue, requeueChecked, made⟩ := bind_eq_ok.mp made
    obtain ⟨terminal, terminalChecked, made⟩ := bind_eq_ok.mp made
    obtain ⟨bytes, bytesChecked, made⟩ := bind_eq_ok.mp made
    obtain ⟨blocks, blocksChecked, made⟩ := bind_eq_ok.mp made
    obtain ⟨duration, durationChecked, made⟩ := bind_eq_ok.mp made
    obtain ⟨device, deviceChecked, made⟩ := bind_eq_ok.mp made
    rw [of_fields_sound made]
    cases arguments
    simp only [ObservationFields.arguments, ObservationArguments.mk.injEq]
    exact ⟨expect_sound eventChecked, expect_sound identityChecked,
      check_uint_sound observedChecked, expect_optional_sound transferChecked,
      expect_optional_sound directionChecked, expect_optional_sound receiptChecked,
      require_associated_transfers_sound rosterChecked, expect_optional_sound kindChecked,
      expect_optional_sound requeueChecked, expect_optional_sound terminalChecked,
      optional_sound (fun _ _ checked => require_positive_uint_sound checked) bytesChecked,
      optional_sound (fun _ _ checked => require_positive_uint_sound checked) blocksChecked,
      optional_sound (fun _ _ checked => check_uint_sound checked) durationChecked,
      optional_sound (fun _ _ checked => require_positive_uint_sound checked) deviceChecked⟩
  · rintro rfl
    rw [make_arguments, of_fields_shape record.toObservationFields record.shape]

/-! ## Host facts -/

/-- Passing checked values back to the constructor. -/
def hostFactArguments (fields : HostFactFields) : HostFactArguments where
  event := .typed fields.event
  processUuid := .str fields.processUuid.val
  observedAtNs := .int fields.observedAtNs.val
  requestId := .str fields.requestId.val
  jobId := .ofOption (fields.jobId.map Subtype.val)
  rank := .ofOption (fields.rank.map Subtype.val)
  recoveryEpoch := .ofOption (fields.recoveryEpoch.map Subtype.val)
  jobIds := .tuple (fields.jobIds.val.map fun number => .int number.val)
  ranks := .tuple (fields.ranks.val.map fun number => .int number.val)
  computeKind := .ofOption fields.computeKind
  requeueReason := .ofOption fields.requeueReason

theorem require_items_iff (objects : List PyObject) (name : String) (maximum : Nat)
    (items : List (Uint maximum)) :
    (objects.mapM fun object => requireUint object name maximum) = .ok items ↔
      objects = items.map fun number => .int number.val := by
  induction objects generalizing items with
  | nil => cases items <;> simp [pure, Except.pure]
  | cons object objects induction =>
      rw [List.mapM_cons]
      constructor
      · intro checked
        obtain ⟨first, firstChecked, checked⟩ := bind_eq_ok.mp checked
        obtain ⟨rest, restChecked, checked⟩ := bind_eq_ok.mp checked
        cases checked
        rw [List.map_cons, (induction rest).mp restChecked, check_uint_sound firstChecked]
      · intro same
        cases items with
        | nil => cases same
        | cons first rest =>
            simp only [List.map_cons, List.cons.injEq] at same
            rw [same.1, (induction rest).mpr same.2, require_uint_value]
            rfl

theorem require_roster_iff (value : PyObject) (name : String) (maximum : Nat)
    (roster : UintRoster maximum) :
    requireRoster value name maximum = .ok roster ↔
      value = .tuple (roster.val.map fun number => .int number.val) := by
  constructor
  · intro checked
    unfold requireRoster at checked
    split at checked
    · rename_i objects
      split at checked
      · obtain ⟨items, itemsChecked, checked⟩ := bind_eq_ok.mp checked
        rw [require_items_iff] at itemsChecked
        split at checked
        · cases checked
          rw [itemsChecked]
        · cases checked
      · cases checked
    · cases checked
  · rintro rfl
    have items := (require_items_iff _ name maximum roster.val).mpr rfl
    simp only [requireRoster, List.length_map, roster.property.1, if_true, items, bind,
      Except.bind, roster.property.2, and_self, dif_pos]

theorem host_fact_make_iff (arguments : HostFactArguments) (fact : HostFact) :
    HostFact.make arguments = .ok fact ↔ arguments = hostFactArguments fact.toHostFactFields := by
  constructor
  · intro made
    obtain ⟨event, eventChecked, made⟩ := bind_eq_ok.mp made
    obtain ⟨uuid, uuidChecked, made⟩ := bind_eq_ok.mp made
    obtain ⟨observedAt, observedChecked, made⟩ := bind_eq_ok.mp made
    obtain ⟨request, requestChecked, made⟩ := bind_eq_ok.mp made
    obtain ⟨job, jobChecked, made⟩ := bind_eq_ok.mp made
    obtain ⟨rank, rankChecked, made⟩ := bind_eq_ok.mp made
    obtain ⟨epoch, epochChecked, made⟩ := bind_eq_ok.mp made
    obtain ⟨jobs, jobsChecked, made⟩ := bind_eq_ok.mp made
    obtain ⟨ranks, ranksChecked, made⟩ := bind_eq_ok.mp made
    obtain ⟨kind, kindChecked, made⟩ := bind_eq_ok.mp made
    obtain ⟨reason, reasonChecked, made⟩ := bind_eq_ok.mp made
    simp only at made
    split at made
    · cases made
      cases arguments
      simp only [hostFactArguments, HostFactArguments.mk.injEq]
      exact ⟨expect_sound eventChecked, require_process_uuid_sound uuidChecked,
        check_uint_sound observedChecked, require_printable_ascii_sound requestChecked,
        optional_sound (fun _ _ checked => check_uint_sound checked) jobChecked,
        optional_sound (fun _ _ checked => check_uint_sound checked) rankChecked,
        optional_sound (fun _ _ checked => require_positive_uint_sound checked) epochChecked,
        (require_roster_iff _ _ _ _).mp jobsChecked, (require_roster_iff _ _ _ _).mp ranksChecked,
        expect_optional_sound kindChecked, expect_optional_sound reasonChecked⟩
    · cases made
  · rintro rfl
    have jobs := (require_roster_iff _ "job_ids" _ fact.jobIds).mpr rfl
    have ranks := (require_roster_iff _ "ranks" _ fact.ranks).mpr rfl
    simp only [HostFact.make, hostFactArguments, Argument.expect_typed,
      require_process_uuid_value, require_uint_value, require_printable_ascii_value,
      optional_uint_value, optional_positive_value, jobs, ranks,
      Argument.expect_optional_of_option, bind, Except.bind]
    rw [dif_pos fact.shape]

theorem require_roster_errors (value : PyObject) (name : String) (maximum : Nat) :
    OnlyValueErrors (requireRoster value name maximum) := by
  unfold requireRoster
  split
  · split
    · apply OnlyValueErrors.bind
      · apply OnlyValueErrors.mapM
        intro object
        exact require_uint_errors object name maximum
      · intro items
        split
        · exact OnlyValueErrors.ok _
        · exact OnlyValueErrors.valueError _
    · exact OnlyValueErrors.valueError _
  · exact OnlyValueErrors.valueError _

theorem host_fact_make_errors (arguments : HostFactArguments) :
    OnlyValueErrors (HostFact.make arguments) := by
  apply OnlyValueErrors.bind (OnlyValueErrors.expect _ _); intro _
  apply OnlyValueErrors.bind (require_process_uuid_errors _ _); intro _
  apply OnlyValueErrors.bind (require_uint_errors _ _ _); intro _
  apply OnlyValueErrors.bind (require_printable_ascii_errors _ _ _); intro _
  apply OnlyValueErrors.bind (OnlyValueErrors.optional _ fun _ => require_uint_errors _ _ _)
  intro _
  apply OnlyValueErrors.bind (OnlyValueErrors.optional _ fun _ => require_uint_errors _ _ _)
  intro _
  apply OnlyValueErrors.bind
    (OnlyValueErrors.optional _ fun _ => require_positive_uint_errors _ _ _)
  intro _
  apply OnlyValueErrors.bind (require_roster_errors _ _ _); intro _
  apply OnlyValueErrors.bind (require_roster_errors _ _ _); intro _
  apply OnlyValueErrors.bind (OnlyValueErrors.expectOptional _ _); intro _
  apply OnlyValueErrors.bind (OnlyValueErrors.expectOptional _ _); intro _
  simp only
  split
  · exact OnlyValueErrors.ok _
  · exact OnlyValueErrors.valueError _

/-! ## Correlated records -/

theorem worker_make_iff (rank workerGeneration : PyObject) (worker : WorkerReceipt) :
    WorkerReceipt.make rank workerGeneration = .ok worker ↔
      rank = .int worker.rank.val ∧ workerGeneration = .str worker.workerGeneration.val := by
  constructor
  · intro made
    obtain ⟨number, rankChecked, made⟩ := bind_eq_ok.mp made
    obtain ⟨generation, generationChecked, made⟩ := bind_eq_ok.mp made
    cases made
    exact ⟨check_uint_sound rankChecked, require_process_uuid_sound generationChecked⟩
  · rintro ⟨rfl, rfl⟩
    simp only [WorkerReceipt.make, requireIdentity, requireGeneration, check_uint_value,
      require_process_uuid_value, bind, Except.bind]

theorem job_make_iff (jobId : PyObject) (workers : List WorkerReceipt) (job : JobReceipt) :
    JobReceipt.make jobId (.typed workers) = .ok job ↔
      jobId = .int job.jobId.val ∧ workers = job.workers.val := by
  constructor
  · intro made
    obtain ⟨number, idChecked, made⟩ := bind_eq_ok.mp made
    simp only [Argument.expect_typed, bind, Except.bind] at made
    split at made
    · cases made
      exact ⟨check_uint_sound idChecked, rfl⟩
    · cases made
  · rintro ⟨rfl, rfl⟩
    have valid : exactWorkers job.workers.val = true ∧ job.workers.val ≠ [] :=
      ⟨job.workers.property, job.nonempty⟩
    simp only [JobReceipt.make, requireIdentity, check_uint_value, Argument.expect_typed, bind,
      Except.bind, dif_pos valid]

theorem require_positive_identity_sound {value : PyObject} {maximum : Nat} {message : String}
    {number : PositiveUint maximum}
    (checked : requirePositiveIdentity value maximum message = .ok number) :
    value = .int number.val := by
  obtain ⟨result, bounded, positive⟩ := bind_eq_ok.mp checked
  split at positive
  · cases positive
    exact check_uint_sound bounded
  · cases positive

theorem require_positive_identity_value {maximum : Nat} (number : PositiveUint maximum)
    (message : String) :
    requirePositiveIdentity (.int number.val) maximum message = .ok number := by
  have bounded := check_uint_nat number.val maximum "identity must be an unsigned integer"
    number.property.2
  simp only [requirePositiveIdentity, requireIdentity, bounded, bind, Except.bind,
    dif_pos number.property.1]

theorem require_request_id_sound {value : PyObject} {requestId : RequestId}
    (checked : requireRequestId value = .ok requestId) : value = .str requestId.val := by
  unfold requireRequestId at checked
  repeat' split at checked
  all_goals cases checked
  rfl

theorem require_request_id_value (requestId : RequestId) :
    requireRequestId (.str requestId.val) = .ok requestId := by
  simp only [requireRequestId, dif_pos requestId.property]

theorem optional_value {Checked : Type} {check : PyObject → Py Checked} {number : Checked → Nat}
    (accepts : ∀ content, check (.int (number content)) = .ok content)
    (content : Option Checked) :
    optional (PyObject.ofOption (content.map number)) check = .ok content := by
  cases content with
  | none => rfl
  | some value =>
      change (check (.int (number value))).map some = .ok (some value)
      rw [accepts]
      rfl

/-- The texts and enumeration members that name a compute kind, or `None`. -/
def DenotesKind (object : PyObject) : Option ComputeKind → Prop
  | none => object = .none
  | some kind => object.equalsText kind.value = true

theorem optional_kind_iff (object : PyObject) (kind : Option ComputeKind) :
    optional object requireComputeKind = .ok kind ↔ DenotesKind object kind := by
  constructor
  · intro checked
    rcases optional_cases checked with ⟨rfl, rfl⟩ | ⟨content, success, rfl⟩
    · rfl
    · unfold requireComputeKind at success
      split at success
      · cases success
      · split at success
        · rename_i found located
          cases success
          exact List.find?_some (p := fun member : ComputeKind => object.equalsText member.value)
            located
        · cases success
  · intro denotes
    cases kind with
    | none =>
        cases denotes
        rfl
    | some kind =>
        have named : object = .str kind.value ∨ object = .member kind.value := by
          cases object <;> simp_all [DenotesKind, PyObject.equalsText]
        rcases named with rfl | rfl <;> cases kind <;> rfl

/-- `None` for an absent generation. -/
def generationObject : Option ProcessUuid → PyObject
  | none => .none
  | some generation => .str generation.val

/-- Passing checked values back to the constructor, with any object for the kind. -/
def correlatedArguments (fields : CorrelatedFields) (computeKind : PyObject) :
    CorrelatedArguments where
  event := .typed fields.event
  schedulerGeneration := .str fields.schedulerGeneration.val
  requestId := .str fields.requestId.val
  recoveryEpoch := .int fields.recoveryEpoch.val
  observedAtNs := .int fields.observedAtNs.val
  jobId := .ofOption (fields.jobId.map Subtype.val)
  rank := .ofOption (fields.rank.map Subtype.val)
  workerGeneration := generationObject fields.workerGeneration
  blockCount := .ofOption (fields.blockCount.map Subtype.val)
  workers := .typed fields.workers.val
  roster := .typed fields.roster.val
  computeKind := computeKind

theorem optional_generation_iff (object : PyObject) (generation : Option ProcessUuid) :
    optional object requireGeneration = .ok generation ↔ object = generationObject generation := by
  constructor
  · intro checked
    rcases optional_cases checked with ⟨rfl, rfl⟩ | ⟨content, success, rfl⟩
    · rfl
    · exact require_process_uuid_sound success
  · rintro rfl
    cases generation with
    | none => rfl
    | some content =>
        change (requireGeneration (.str content.val)).map some = .ok (some content)
        rw [requireGeneration, require_process_uuid_value]
        rfl

/-- Whether the kind is present is decided by its object as by its checked value. -/
theorem present_kind {object : PyObject} {kind : Option ComputeKind}
    (denotes : DenotesKind object kind) : present object = kind.isSome := by
  cases kind with
  | none =>
      cases denotes
      rfl
  | some kind => cases object <;> first | rfl | cases denotes

theorem populated_with_kind (fields : CorrelatedFields) {object : PyObject}
    (denotes : DenotesKind object fields.computeKind) :
    (fun name => if name = .computeKind then present object
      else ({ fields with computeKind := none } : CorrelatedFields).isPopulated name) =
      fields.isPopulated := by
  funext name
  cases name <;> first | rfl | exact present_kind denotes

theorem correlated_make_iff (arguments : CorrelatedArguments)
    (record : CorrelatedHostObservation) :
    CorrelatedHostObservation.make arguments = .ok record ↔
      DenotesKind arguments.computeKind record.computeKind ∧
        arguments = correlatedArguments record.toCorrelatedFields arguments.computeKind := by
  constructor
  · intro made
    obtain ⟨event, eventChecked, made⟩ := bind_eq_ok.mp made
    obtain ⟨scheduler, schedulerChecked, made⟩ := bind_eq_ok.mp made
    obtain ⟨request, requestChecked, made⟩ := bind_eq_ok.mp made
    obtain ⟨epoch, epochChecked, made⟩ := bind_eq_ok.mp made
    obtain ⟨observedAt, observedChecked, made⟩ := bind_eq_ok.mp made
    obtain ⟨job, jobChecked, made⟩ := bind_eq_ok.mp made
    obtain ⟨rank, rankChecked, made⟩ := bind_eq_ok.mp made
    obtain ⟨blocks, blocksChecked, made⟩ := bind_eq_ok.mp made
    obtain ⟨generation, generationChecked, made⟩ := bind_eq_ok.mp made
    obtain ⟨workers, workersChecked, made⟩ := bind_eq_ok.mp made
    split at made
    case isFalse => cases made
    obtain ⟨roster, rosterChecked, made⟩ := bind_eq_ok.mp made
    split at made
    case isFalse => cases made
    obtain ⟨_, made⟩ := (raise_if_bind_ok _ _ _ _).mp made
    obtain ⟨kind, kindChecked, made⟩ := bind_eq_ok.mp made
    simp only at made
    split at made
    case isFalse => cases made
    cases made
    refine ⟨(optional_kind_iff _ _).mp kindChecked, ?_⟩
    cases arguments
    simp only [correlatedArguments, CorrelatedArguments.mk.injEq]
    exact ⟨expect_sound eventChecked, require_process_uuid_sound schedulerChecked,
      require_request_id_sound requestChecked, require_positive_identity_sound epochChecked,
      check_uint_sound observedChecked,
      optional_sound (fun _ _ checked => check_uint_sound checked) jobChecked,
      optional_sound (fun _ _ checked => check_uint_sound checked) rankChecked,
      (optional_generation_iff _ _).mp generationChecked,
      optional_sound (fun _ _ checked => require_positive_identity_sound checked) blocksChecked,
      expect_sound workersChecked, expect_sound rosterChecked, trivial⟩
  · rintro ⟨denotes, same⟩
    generalize arguments.computeKind = object at denotes same
    subst same
    have kind := (optional_kind_iff object record.computeKind).mpr denotes
    have generation := (optional_generation_iff _ record.workerGeneration).mpr rfl
    have job : optional (.ofOption (record.jobId.map Subtype.val))
        (fun value => requireIdentity value uint64Max) = .ok record.jobId :=
      optional_value (fun content => check_uint_value content _) record.jobId
    have rank : optional (.ofOption (record.rank.map Subtype.val))
        (fun value => requireIdentity value uint32Max) = .ok record.rank :=
      optional_value (fun content => check_uint_value content _) record.rank
    have blocks : optional (.ofOption (record.blockCount.map Subtype.val))
        (fun value => requirePositiveIdentity value uint32Max "block_count must be positive") =
          .ok record.blockCount :=
      optional_value (fun content => require_positive_identity_value content _) record.blockCount
    have shape : (correlatedFields.filter (fun name =>
        if name = .computeKind then present object
        else ({ record.toCorrelatedFields with computeKind := none } :
          CorrelatedFields).isPopulated name) != required record.event) = false := by
      rw [populated_with_kind record.toCorrelatedFields denotes, bne_eq_false_iff_eq]
      exact record.shape
    have scheduler : requireGeneration (.str record.schedulerGeneration.val) =
        .ok record.schedulerGeneration := require_process_uuid_value _ _
    have observedAt : requireIdentity (.int record.observedAtNs.val) uint64Max =
        .ok record.observedAtNs := check_uint_value _ _
    simp only [CorrelatedHostObservation.make, correlatedArguments, Argument.expect_typed,
      scheduler, require_request_id_value, require_positive_identity_value, observedAt, job, rank,
      blocks, generation, bind, Except.bind]
    have admitted := (raise_if_ok _ "fields do not match the correlated event shape").mpr shape
    simp only at admitted
    rw [dif_pos record.workers.property, dif_pos record.roster.property]
    simp only [Subtype.coe_eta, admitted, kind]
    rw [dif_pos record.shape]

end KVTransferObservability.Constructors
