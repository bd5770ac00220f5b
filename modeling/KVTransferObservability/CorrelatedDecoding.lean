import KVTransferObservability.HostFactDecoding

/-!
# Correlated records are read exactly as written

The format of correlated records is lawful, with its two nested rosters: workers,
and jobs that each carry their own workers.
-/

namespace KVTransferObservability.CorrelatedDecoding

open PythonValues Schema HostFacts Correlated Payload Decoding DecodingRules Constructors
  ObservationDecoding Library

set_option autoImplicit false

variable {overflow : Prop} {python : Interpreter}

theorem correlated_event_exact (event : CorrelatedEvent) :
    memberOfValue CorrelatedEvent.all CorrelatedEvent.value (.str event.value) = some event := by
  cases event <;> rfl

/-! ## Receipts -/

theorem worker_plain {value : Value} {worker : WorkerReceipt} (unique : value.UniqueKeys)
    (read : workerFromPayload value = .ok worker) : Plain value := by
  obtain ⟨fields, isObject, read⟩ := bind_eq_ok.mp read
  obtain ⟨_, expected, read⟩ := bind_eq_ok.mp read
  obtain ⟨rank, rankRead, read⟩ := bind_eq_ok.mp read
  obtain ⟨generation, generationRead, made⟩ := bind_eq_ok.mp read
  obtain ⟨rankAccepted, generationAccepted⟩ := (worker_make_iff rank generation worker).mp made
  rw [as_object_ok_iff] at isObject
  subst isObject rankAccepted generationAccepted
  cases unique with
  | object distinct _ =>
      apply plain_of_keywords distinct expected
      simp only [List.nil_append, List.forall_mem_cons]
      exact ⟨required_argument_int_plain rankRead, required_argument_str_plain generationRead,
        List.forall_mem_nil _⟩

theorem worker_complete {value : Value} {worker : WorkerReceipt} (unique : value.UniqueKeys)
    (agree : same (WorkerReceipt.toPayload worker) value = true) :
    workerFromPayload value = .ok worker := by
  obtain ⟨fields, rfl, distinct, entries⟩ := same_object (by simp [Json.keys]) unique agree
  have rank : fields.lookup "rank" = some (natural worker.rank.val) :=
    lookup_natural (entries "rank")
  have generation : fields.lookup "worker_generation" = some (text worker.workerGeneration.val) :=
    lookup_text (entries "worker_generation")
  have rankRead := required_argument_of_lookup rank
  have generationRead := required_argument_of_lookup generation
  have expected : refuseUnexpected fields [] ["rank", "worker_generation"] = .ok () := by
    rw [refuse_unexpected_ok_iff]
    intro key member
    exact (same_keys entries key).mp member
  have isObject := (as_object_ok_iff (.object fields) fields).mpr rfl
  simp only [workerFromPayload, isObject, expected, rankRead, generationRead, bind, Except.bind]
  exact (worker_make_iff _ _ worker).mpr ⟨rfl, rfl⟩

theorem worker_caught (value : Value) : OnlyCaught overflow (workerFromPayload value) := by
  apply OnlyCaught.bind (OnlyCaught.ofValueErrors (as_object_errors value)); intro fields
  apply OnlyCaught.bind (refuse_unexpected_caught _ _ _); intro _
  apply OnlyCaught.bind (required_argument_caught fields _); intro _
  apply OnlyCaught.bind (required_argument_caught fields _); intro _
  apply OnlyCaught.bind (OnlyCaught.ofValueErrors (OnlyValueErrors.checkUint _ _ _)); intro _
  apply OnlyCaught.bind (OnlyCaught.ofValueErrors (require_process_uuid_errors _ _)); intro _
  exact OnlyCaught.ok _

/-- An array is plain when each of its items is read as something. -/
theorem items_plain {Receipt : Type} {read : Value → Py Receipt}
    (plain : ∀ item receipt, item.UniqueKeys → read item = .ok receipt → Plain item)
    {items : List Value} {receipts : List Receipt} (unique : Json.UniqueKeys (.array items))
    (success : items.mapM read = .ok receipts) : Plain (.array items) := by
  cases unique with
  | array each =>
      apply Json.Every.array
      intro item member
      obtain ⟨receipt, readItem⟩ := map_m_each success item member
      exact plain item receipt (each item member) readItem

theorem items_complete {Receipt : Type} {read : Value → Py Receipt} {write : Receipt → Value}
    (complete : ∀ item receipt, item.UniqueKeys → same (write receipt) item = true →
      read item = .ok receipt)
    {items : List Value} {receipts : List Receipt} (unique : Json.UniqueKeys (.array items))
    (related : List.Forall₂ (fun left right => same left right = true) (receipts.map write) items) :
    items.mapM read = .ok receipts := by
  cases unique with
  | array each =>
      apply map_m_complete
      rw [List.forall₂_map_left_iff] at related
      induction related with
      | nil => exact List.Forall₂.nil
      | @cons receipt item _ _ first _ induction =>
          apply List.Forall₂.cons
          · exact complete item receipt (each item List.mem_cons_self) first
          · apply induction
            intro other member
            exact each other (List.mem_cons_of_mem item member)

theorem job_plain {value : Value} {job : JobReceipt} (unique : value.UniqueKeys)
    (read : jobFromPayload value = .ok job) : Plain value := by
  obtain ⟨fields, isObject, checked⟩ := bind_eq_ok.mp read
  rw [as_object_ok_iff] at isObject
  subst isObject
  split at checked
  case h_2 => cases checked
  rename_i items exactKeys found
  obtain ⟨workers, workersRead, made⟩ := bind_eq_ok.mp checked
  obtain ⟨idAccepted, _⟩ := (job_make_iff _ workers job).mp made
  rw [has_exactly_iff] at exactKeys
  have workersPlain := items_plain (fun item worker => worker_plain)
    (Json.unique_keys_lookup unique found) workersRead
  cases unique with
  | object distinct _ =>
      apply Json.Every.object
      intro entry member
      have located := Json.lookup_of_mem distinct member
      have known := (exactKeys entry.1).mp (List.mem_map_of_mem member)
      simp only [List.mem_cons, List.not_mem_nil, or_false] at known
      rcases known with name | name <;> rw [name] at located
      · exact argument_int_plain idAccepted entry.2 located
      · exact found_plain found workersPlain entry.2 located

theorem job_complete {value : Value} {job : JobReceipt} (unique : value.UniqueKeys)
    (agree : same (JobReceipt.toPayload job) value = true) : jobFromPayload value = .ok job := by
  obtain ⟨fields, rfl, distinct, entries⟩ := same_object (by simp [Json.keys]) unique agree
  have id : fields.lookup "job_id" = some (natural job.jobId.val) :=
    lookup_natural (entries "job_id")
  obtain ⟨workers, found, agreeWorkers⟩ := lookup_agrees (entries "workers")
  obtain ⟨items, rfl, related⟩ := same_array agreeWorkers
  have workersRead := items_complete (fun item worker => worker_complete)
    (Json.unique_keys_lookup unique found) related
  have exactKeys : hasExactly fields ["job_id", "workers"] = true := by
    rw [has_exactly_iff]
    intro key
    exact same_keys entries key
  have isObject := (as_object_ok_iff (.object fields) fields).mpr rfl
  simp only [jobFromPayload, isObject, exactKeys, found, workersRead, bind, Except.bind]
  exact (job_make_iff _ _ job).mpr ⟨argument_int_of_lookup id, rfl⟩

theorem job_caught (value : Value) : OnlyCaught overflow (jobFromPayload value) := by
  apply OnlyCaught.bind (OnlyCaught.ofValueErrors (as_object_errors value)); intro fields
  split
  · apply OnlyCaught.bind (OnlyCaught.mapM _ fun item _ => worker_caught item); intro workers
    apply OnlyCaught.bind (OnlyCaught.ofValueErrors (OnlyValueErrors.checkUint _ _ _)); intro _
    simp only [Argument.expect_typed, bind, Except.bind]
    split
    · exact OnlyCaught.ok _
    · exact OnlyCaught.error trivial
  · exact OnlyCaught.error trivial

section

variable {Receipt : Type} {read : Value → Py Receipt} {write : Receipt → Value} {fields : Fields}
  {name : String} {receipts : List Receipt}

theorem receipts_argument_plain
    (plain : ∀ item receipt, item.UniqueKeys → read item = .ok receipt → Plain item)
    (unique : Json.UniqueKeys (.object fields))
    (success : receiptsArgument read fields name = .ok receipts) (content : Value)
    (found : fields.lookup name = some content) : Plain content := by
  have uniqueContent := Json.unique_keys_lookup unique found
  unfold receiptsArgument at success
  rw [found] at success
  cases content with
  | scalar _ => cases success
  | object _ => cases success
  | array items => exact items_plain plain uniqueContent success

theorem receipts_argument_complete
    (complete : ∀ item receipt, item.UniqueKeys → same (write receipt) item = true →
      read item = .ok receipt)
    (unique : Json.UniqueKeys (.object fields))
    (agree : SameEntry (nonempty write receipts) (fields.lookup name)) :
    receiptsArgument read fields name = .ok receipts := by
  unfold receiptsArgument
  cases receipts with
  | nil =>
      rw [lookup_none agree]
  | cons first rest =>
      obtain ⟨value, found, agreeValue⟩ := lookup_agrees agree
      obtain ⟨items, rfl, related⟩ := same_array agreeValue
      rw [found]
      exact items_complete complete (Json.unique_keys_lookup unique found) related

theorem receipts_argument_caught (only : ∀ item, OnlyCaught overflow (read item)) :
    OnlyCaught overflow (receiptsArgument read fields name) := by
  unfold receiptsArgument
  split
  · exact OnlyCaught.mapM _ fun item _ => only item
  · exact OnlyCaught.error trivial
  · exact OnlyCaught.ok _

end

/-! ## The format -/

theorem require_compute_kind_caught (value : PyObject) :
    OnlyCaught overflow (requireComputeKind value) := by
  unfold requireComputeKind
  split
  · exact OnlyCaught.error trivial
  · split
    · exact OnlyCaught.ok _
    · exact OnlyCaught.error trivial

theorem require_positive_identity_errors (value : PyObject) (maximum : Nat) (message : String) :
    OnlyValueErrors (requirePositiveIdentity value maximum message) := by
  apply OnlyValueErrors.bind (OnlyValueErrors.checkUint _ _ _)
  intro number
  split
  · exact OnlyValueErrors.ok _
  · exact OnlyValueErrors.valueError _

theorem require_request_id_errors (value : PyObject) :
    OnlyValueErrors (requireRequestId value) := by
  unfold requireRequestId
  repeat' split
  all_goals first | exact OnlyValueErrors.ok _ | exact OnlyValueErrors.valueError _

theorem correlated_make_caught (arguments : CorrelatedArguments) :
    OnlyCaught overflow (CorrelatedHostObservation.make arguments) := by
  apply OnlyCaught.bind (OnlyCaught.ofValueErrors (OnlyValueErrors.expect _ _)); intro _
  apply OnlyCaught.bind (OnlyCaught.ofValueErrors (require_process_uuid_errors _ _)); intro _
  apply OnlyCaught.bind (OnlyCaught.ofValueErrors (require_request_id_errors _)); intro _
  apply OnlyCaught.bind (OnlyCaught.ofValueErrors (require_positive_identity_errors _ _ _))
  intro _
  apply OnlyCaught.bind (OnlyCaught.ofValueErrors (OnlyValueErrors.checkUint _ _ _)); intro _
  apply OnlyCaught.bind (OnlyCaught.ofValueErrors
    (OnlyValueErrors.optional _ fun _ => OnlyValueErrors.checkUint _ _ _))
  intro _
  apply OnlyCaught.bind (OnlyCaught.ofValueErrors
    (OnlyValueErrors.optional _ fun _ => OnlyValueErrors.checkUint _ _ _))
  intro _
  apply OnlyCaught.bind (OnlyCaught.ofValueErrors
    (OnlyValueErrors.optional _ fun _ => require_positive_identity_errors _ _ _))
  intro _
  apply OnlyCaught.bind (OnlyCaught.ofValueErrors
    (OnlyValueErrors.optional _ fun _ => require_process_uuid_errors _ _))
  intro _
  apply OnlyCaught.bind (OnlyCaught.ofValueErrors (OnlyValueErrors.expect _ _)); intro _
  split
  case isFalse => exact OnlyCaught.error trivial
  apply OnlyCaught.bind (OnlyCaught.ofValueErrors (OnlyValueErrors.expect _ _)); intro _
  split
  case isFalse => exact OnlyCaught.error trivial
  apply OnlyCaught.bind (OnlyCaught.raiseIf _ _); intro _
  apply OnlyCaught.bind (OnlyCaught.optional _ require_compute_kind_caught); intro _
  simp only
  split
  · exact OnlyCaught.ok _
  · exact OnlyCaught.error trivial

/-- The keys looked up in an enumeration. -/
def correlatedLookups : List String := ["event"]

theorem read_correlated_caught (fields : Fields) :
    OnlyCaught (Overflows python correlatedLookups fields) (readCorrelated python fields) := by
  apply OnlyCaught.bind_of (item_caught fields _); intro content found
  apply OnlyCaught.bind (enum_item_caught python _ _ fields _ (by decide) content found); intro _
  apply OnlyCaught.bind (receipts_argument_caught worker_caught); intro _
  apply OnlyCaught.bind (receipts_argument_caught job_caught); intro _
  apply OnlyCaught.bind (refuse_unexpected_caught _ _ _); intro _
  apply OnlyCaught.bind (required_argument_caught fields _); intro _
  apply OnlyCaught.bind (required_argument_caught fields _); intro _
  apply OnlyCaught.bind (required_argument_caught fields _); intro _
  apply OnlyCaught.bind (required_argument_caught fields _); intro _
  exact correlated_make_caught _

theorem kind_plain {fields : Fields} {kind : Option ComputeKind}
    (denotes : DenotesKind (argument fields "compute_kind") kind) (value : Value)
    (found : fields.lookup "compute_kind" = some value) : Plain value := by
  unfold argument at denotes
  rw [found] at denotes
  cases kind with
  | none =>
      rw [to_python_none denotes]
      exact .scalar trivial
  | some kind =>
      rw [(equals_text_iff value kind.value).mp denotes]
      exact text_plain _

theorem generation_plain {fields : Fields} {generation : Option ProcessUuid}
    (accepted : argument fields "worker_generation" = generationObject generation) (value : Value)
    (found : fields.lookup "worker_generation" = some value) : Plain value := by
  cases generation with
  | none =>
      unfold argument at accepted
      rw [found] at accepted
      rw [to_python_none accepted]
      exact .scalar trivial
  | some generation => exact argument_str_plain accepted value found

theorem read_correlated_plain {fields : Fields} {record : CorrelatedHostObservation}
    (unique : Json.UniqueKeys (.object fields))
    (admitted : (correlatedFormat python).admits fields = true)
    (read : readCorrelated python fields = .ok record) : Plain (.object fields) := by
  have schema := (argument_equals_text_iff fields "schema" correlatedSchema).mp admitted
  obtain ⟨eventValue, eventFound, read⟩ := bind_eq_ok.mp read
  obtain ⟨event, eventRead, read⟩ := bind_eq_ok.mp read
  obtain ⟨workers, workersRead, read⟩ := bind_eq_ok.mp read
  obtain ⟨roster, rosterRead, read⟩ := bind_eq_ok.mp read
  obtain ⟨_, expected, read⟩ := bind_eq_ok.mp read
  obtain ⟨scheduler, schedulerRead, read⟩ := bind_eq_ok.mp read
  obtain ⟨request, requestRead, read⟩ := bind_eq_ok.mp read
  obtain ⟨epoch, epochRead, read⟩ := bind_eq_ok.mp read
  obtain ⟨observedAt, observedRead, made⟩ := bind_eq_ok.mp read
  obtain ⟨kind, made⟩ := (correlated_make_iff _ record).mp made
  have schedulerAccepted : scheduler = _ :=
    congrArg CorrelatedArguments.schedulerGeneration made
  have requestAccepted : request = _ := congrArg CorrelatedArguments.requestId made
  have epochAccepted : epoch = _ := congrArg CorrelatedArguments.recoveryEpoch made
  have observedAccepted : observedAt = _ := congrArg CorrelatedArguments.observedAtNs made
  have job : argument fields "job_id" = _ := congrArg CorrelatedArguments.jobId made
  have rank : argument fields "rank" = _ := congrArg CorrelatedArguments.rank made
  have generation : argument fields "worker_generation" = _ :=
    congrArg CorrelatedArguments.workerGeneration made
  have blocks : argument fields "block_count" = _ := congrArg CorrelatedArguments.blockCount made
  rw [schedulerAccepted] at schedulerRead
  rw [requestAccepted] at requestRead
  rw [epochAccepted] at epochRead
  rw [observedAccepted] at observedRead
  rw [item_ok_iff] at eventFound
  have eventPlain : Plain eventValue := by
    rw [enum_member_sound eventRead]
    exact text_plain _
  have workersPlain := receipts_argument_plain (fun item worker => worker_plain) unique workersRead
  have rosterPlain := receipts_argument_plain (fun item job => job_plain) unique rosterRead
  cases unique with
  | object distinct _ =>
      apply plain_of_keywords distinct expected
      simp only [List.cons_append, List.nil_append, List.forall_mem_cons]
      exact ⟨found_plain schema (text_plain _), found_plain eventFound eventPlain,
        required_argument_str_plain schedulerRead, required_argument_str_plain requestRead,
        required_argument_int_plain epochRead, required_argument_int_plain observedRead,
        argument_plain job, argument_plain rank, generation_plain generation,
        argument_plain blocks, workersPlain, rosterPlain, kind_plain kind,
        List.forall_mem_nil _⟩

theorem generation_of_lookup {fields : Fields} {generation : Option ProcessUuid}
    (found : fields.lookup "worker_generation" =
      generation.map fun generation => text generation.val) :
    argument fields "worker_generation" = generationObject generation := by
  unfold argument
  rw [found]
  cases generation <;> rfl

theorem kind_of_lookup {fields : Fields} {kind : Option ComputeKind}
    (found : fields.lookup "compute_kind" = kind.map fun kind => text kind.value) :
    DenotesKind (argument fields "compute_kind") kind := by
  unfold argument
  rw [found]
  cases kind with
  | none => rfl
  | some kind => exact (equals_text_iff (text kind.value) kind.value).mpr rfl

theorem read_correlated_complete {fields : Fields} {record : CorrelatedHostObservation}
    (unique : Json.UniqueKeys (.object fields))
    (agree : same (CorrelatedHostObservation.toPayload record) (.object fields) = true) :
    (correlatedFormat python).admits fields = true ∧
      readCorrelated python fields = .ok record := by
  have tableDistinct : ((correlatedTable record.toCorrelatedFields).map Prod.fst).Nodup := by
    rw [correlated_table_keys]
    decide
  have entries := same_present tableDistinct unique agree
  have schema : fields.lookup "schema" = some (text correlatedSchema) :=
    lookup_text (entries "schema")
  have event : fields.lookup "event" = some (text record.event.value) :=
    lookup_text (entries "event")
  have scheduler : fields.lookup "scheduler_generation" =
      some (text record.schedulerGeneration.val) := lookup_text (entries "scheduler_generation")
  have request : fields.lookup "request_id" = some (text record.requestId.val) :=
    lookup_text (entries "request_id")
  have epoch : fields.lookup "recovery_epoch" = some (natural record.recoveryEpoch.val) :=
    lookup_natural (entries "recovery_epoch")
  have observedAt : fields.lookup "observed_at_ns" = some (natural record.observedAtNs.val) :=
    lookup_natural (entries "observed_at_ns")
  have job : fields.lookup "job_id" = _ :=
    lookup_map (natural_flat fun number : Uint uint64Max => number.val) (entries "job_id")
  have rank : fields.lookup "rank" = _ :=
    lookup_map (natural_flat fun number : Uint uint32Max => number.val) (entries "rank")
  have generation : fields.lookup "worker_generation" = _ :=
    lookup_map (text_flat fun generation : ProcessUuid => generation.val)
      (entries "worker_generation")
  have blocks : fields.lookup "block_count" = _ :=
    lookup_map (natural_flat fun number : PositiveUint uint32Max => number.val)
      (entries "block_count")
  have kind : fields.lookup "compute_kind" = _ :=
    lookup_map (text_flat ComputeKind.value) (entries "compute_kind")
  have eventItem := (item_ok_iff fields "event" _).mpr event
  have eventRead := enum_member_complete python correlated_event_exact record.event
  have workersRead : receiptsArgument workerFromPayload fields "workers" =
      .ok record.workers.val :=
    receipts_argument_complete (fun item worker => worker_complete) unique (entries "workers")
  have rosterRead : receiptsArgument jobFromPayload fields "roster" = .ok record.roster.val :=
    receipts_argument_complete (fun item job => job_complete) unique (entries "roster")
  have expected : refuseUnexpected fields ["schema"]
      ["event", "scheduler_generation", "request_id", "recovery_epoch", "observed_at_ns",
        "job_id", "rank", "worker_generation", "block_count", "workers", "roster",
        "compute_kind"] = .ok () := by
    apply expected_of_table entries
    rw [correlated_table_keys]
    decide
  have schedulerRead := required_argument_of_lookup scheduler
  have requestRead := required_argument_of_lookup request
  have epochRead := required_argument_of_lookup epoch
  have observedRead := required_argument_of_lookup observedAt
  refine ⟨(argument_equals_text_iff fields "schema" correlatedSchema).mpr schema, ?_⟩
  simp only [readCorrelated, eventItem, eventRead, workersRead, rosterRead, expected,
    schedulerRead, requestRead, epochRead, observedRead, bind, Except.bind]
  rw [correlated_make_iff]
  refine ⟨kind_of_lookup kind, ?_⟩
  simp only [correlatedArguments, argument_of_lookup job, argument_of_lookup rank,
    argument_of_lookup blocks, generation_of_lookup generation]
  rfl

variable (python) in
theorem correlated_format_lawful :
    Lawful (correlatedFormat python) (Overflows python correlatedLookups) where
  written record := written_record (.correlated record)
  object _ := ⟨_, rfl⟩
  sound _ _ unique admitted read := read_correlated_plain unique admitted read
  complete _ _ unique agree := read_correlated_complete unique agree
  caught := read_correlated_caught

end KVTransferObservability.CorrelatedDecoding
