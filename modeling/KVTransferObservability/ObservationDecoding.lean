import KVTransferObservability.Constructors
import KVTransferObservability.DecodingRules

/-!
# Canonical records are read exactly as written

The format of canonical records is lawful: a nested identity, renamed transfer and
receipt keys, and an array of associated transfers that is written only when there
are any.
-/

namespace KVTransferObservability.ObservationDecoding

open PythonValues Schema Observation Payload Decoding DecodingRules Constructors Library

set_option autoImplicit false

variable {overflow : Prop} {python : Interpreter}

theorem observation_event_exact (event : ObservationEvent) :
    memberOfValue ObservationEvent.all ObservationEvent.value (.str event.value) = some event := by
  cases event <;> rfl

theorem direction_exact (direction : TransferDirection) :
    memberOfValue TransferDirection.all TransferDirection.value (.str direction.value) =
      some direction := by
  cases direction <;> rfl

theorem compute_kind_exact (kind : ComputeKind) :
    memberOfValue ComputeKind.all ComputeKind.value (.str kind.value) = some kind := by
  cases kind <;> rfl

theorem requeue_reason_exact (reason : RecoveryRequeueReason) :
    memberOfValue RecoveryRequeueReason.all RecoveryRequeueReason.value (.str reason.value) =
      some reason := by
  cases reason <;> rfl

theorem terminal_reason_exact (reason : TransferTerminalReason) :
    memberOfValue TransferTerminalReason.all TransferTerminalReason.value (.str reason.value) =
      some reason := by
  cases reason <;> rfl

/-! ## Identities -/

theorem identity_from_payload_caught (value : Value) :
    OnlyCaught overflow (identityFromPayload value) := by
  apply OnlyCaught.bind (OnlyCaught.ofValueErrors (as_object_errors value))
  intro fields
  apply OnlyCaught.bind (OnlyCaught.raiseIf _ _)
  intro _
  exact OnlyCaught.ofValueErrors (identity_make_errors _ _ _ _)

theorem identity_plain {value : Value} {identity : ObservationIdentity}
    (unique : value.UniqueKeys) (read : identityFromPayload value = .ok identity) :
    Plain value := by
  obtain ⟨fields, isObject, read⟩ := bind_eq_ok.mp read
  obtain ⟨exactKeys, made⟩ := (raise_if_bind_ok _ _ _ _).mp read
  rw [as_object_ok_iff] at isObject
  subst isObject
  rw [Bool.not_eq_false', has_exactly_iff] at exactKeys
  obtain ⟨request, generation, rank, epoch⟩ := (identity_make_iff _ _ _ _ identity).mp made
  cases unique with
  | object distinct _ =>
      apply Json.Every.object
      intro entry member
      have found := Json.lookup_of_mem distinct member
      have known := (exactKeys entry.1).mp (List.mem_map_of_mem member)
      simp only [List.mem_cons, List.not_mem_nil, or_false] at known
      rcases known with name | name | name | name <;> rw [name] at found
      · exact argument_str_plain request entry.2 found
      · exact argument_int_plain generation entry.2 found
      · exact argument_int_plain rank entry.2 found
      · exact argument_plain epoch entry.2 found

theorem epoch_flat : Flat epochValue := by
  intro epoch value agree
  cases epoch with
  | none => exact same_scalar agree
  | some number => exact same_scalar agree

theorem identity_complete {identity : ObservationIdentity} {value : Value}
    (unique : value.UniqueKeys)
    (agree : same (ObservationIdentity.toPayload identity) value = true) :
    identityFromPayload value = .ok identity := by
  obtain ⟨fields, rfl, distinct, entries⟩ := same_object (by simp [Json.keys]) unique agree
  have rank : fields.lookup "rank" = some (natural identity.rank.val) :=
    lookup_natural (entries "rank")
  have epoch : fields.lookup "recovery_epoch" = some (epochValue identity.recoveryEpoch) :=
    lookup_some epoch_flat (entries "recovery_epoch")
  have request : fields.lookup "request_id" = some (text identity.requestId.val) :=
    lookup_text (entries "request_id")
  have generation : fields.lookup "worker_generation" =
      some (natural identity.workerGeneration.val) :=
    lookup_natural (entries "worker_generation")
  have epochArgument : argument fields "recovery_epoch" =
      PyObject.ofOption (identity.recoveryEpoch.map Subtype.val) := by
    unfold argument
    rw [epoch]
    cases identity.recoveryEpoch <;> rfl
  have exactKeys : hasExactly fields
      ["request_id", "worker_generation", "rank", "recovery_epoch"] = true := by
    rw [has_exactly_iff]
    intro key
    rw [same_keys entries key]
    simp only [Json.keys, List.map_cons, List.map_nil, List.mem_cons, List.not_mem_nil, or_false]
    tauto
  change (raiseIf _ _ >>= _) = _
  rw [raise_if_bind_ok, exactKeys]
  refine ⟨rfl, ?_⟩
  exact (identity_make_iff _ _ _ _ identity).mpr ⟨argument_str_of_lookup request,
    argument_int_of_lookup generation,
    argument_int_of_lookup rank, epochArgument⟩

/-! ## Renamed keys -/

section

variable {Identity : Type} {make : PyObject → Py Identity} {value : Identity → String}
  {fields : Fields} {source target : String}

theorem renamed_source_plain
    (sound : ∀ object identity, make object = .ok identity → object = .str (value identity))
    {argument : Argument Identity}
    (read : renamedArgument make fields source target = .ok argument) (content : Value)
    (found : fields.lookup source = some content) : Plain content := by
  unfold renamedArgument at read
  rw [found] at read
  obtain ⟨_, made⟩ := (raise_if_bind_ok _ _ _ _).mp read
  cases outcome : make (toPython content) with
  | error raised =>
      rw [outcome] at made
      cases made
  | ok identity =>
      rw [to_python_str (sound _ identity outcome)]
      exact text_plain _

theorem renamed_target_plain {accepted : Option Identity}
    (read : renamedArgument make fields source target = .ok (Argument.ofOption accepted))
    (content : Value) (found : fields.lookup target = some content) : Plain content := by
  unfold renamedArgument at read
  cases renamed : fields.lookup source with
  | some written =>
      rw [renamed] at read
      obtain ⟨absent, _⟩ := (raise_if_bind_ok _ _ _ _).mp read
      rw [found] at absent
      cases absent
  | none =>
      rw [renamed] at read
      have passed := Except.ok.inj read
      cases accepted with
      | some identity => cases passed
      | none =>
          have isNone := Argument.other.inj passed
          unfold argument at isNone
          rw [found] at isNone
          rw [to_python_none isNone]
          exact .scalar trivial

theorem renamed_of_lookup (complete : ∀ identity, make (.str (value identity)) = .ok identity)
    {content : Option Identity}
    (found : fields.lookup source = content.map fun identity => text (value identity))
    (absent : fields.lookup target = none) :
    renamedArgument make fields source target = .ok (Argument.ofOption content) := by
  unfold renamedArgument
  rw [found]
  cases content with
  | none =>
      simp only [Option.map_none, argument, absent]
      rfl
  | some identity =>
      have made : make (toPython (text (value identity))) = .ok identity := complete identity
      simp only [Option.map_some, absent, made]
      rfl

end

theorem associated_source_plain {fields : Fields}
    {argument : Argument (List TransferIdentity)} (read : associatedArgument fields = .ok argument)
    (content : Value) (found : fields.lookup "associated_transfer_ids" = some content) :
    Plain content := by
  unfold associatedArgument at read
  rw [found] at read
  obtain ⟨_, made⟩ := (raise_if_bind_ok _ _ _ _).mp read
  cases content with
  | scalar _ => cases made
  | object _ => cases made
  | array items =>
      cases outcome : items.mapM fun item => TransferIdentity.make (toPython item) with
      | error raised =>
          simp only [outcome] at made
          cases made
      | ok transfers =>
          apply Json.Every.array
          intro item member
          obtain ⟨transfer, success⟩ := map_m_each outcome item member
          rw [to_python_str ((transfer_make_iff _ transfer).mp success)]
          exact text_plain _

theorem associated_target_absent {fields : Fields} {transfers : List TransferIdentity}
    (read : associatedArgument fields = .ok (.typed transfers)) :
    fields.lookup "associated_transfers" = none := by
  unfold associatedArgument at read
  cases renamed : fields.lookup "associated_transfer_ids" with
  | some written =>
      rw [renamed] at read
      obtain ⟨absent, _⟩ := (raise_if_bind_ok _ _ _ _).mp read
      simpa using absent
  | none =>
      rw [renamed] at read
      cases target : fields.lookup "associated_transfers" with
      | none => rfl
      | some content =>
          rw [target] at read
          cases read

theorem associated_of_lookup {fields : Fields} {transfers : List TransferIdentity}
    (found : fields.lookup "associated_transfer_ids" =
      nonempty (fun transfer => text transfer.value) transfers)
    (absent : fields.lookup "associated_transfers" = none) :
    associatedArgument fields = .ok (.typed transfers) := by
  unfold associatedArgument
  rw [found, absent]
  cases transfers with
  | nil => rfl
  | cons first rest =>
      have each : ((first :: rest).map fun transfer => text transfer.value).mapM
          (fun item => TransferIdentity.make (toPython item)) = .ok (first :: rest) := by
        apply map_m_complete
        rw [List.forall₂_map_right_iff, List.forall₂_same]
        intro transfer _
        exact (transfer_make_iff _ transfer).mpr rfl
      change Except.map Argument.typed (List.mapM _ _) = _
      rw [each]
      rfl

theorem associated_argument_caught (fields : Fields) :
    OnlyCaught overflow (associatedArgument fields) := by
  unfold associatedArgument
  split
  · apply OnlyCaught.bind (OnlyCaught.raiseIf _ _)
    intro _
    split
    · apply OnlyCaught.map
      apply OnlyCaught.mapM
      intro item _
      exact OnlyCaught.ofValueErrors (OnlyValueErrors.map _ (require_scoped_id_errors _ _ _))
    · exact OnlyCaught.error trivial
  · split
    · exact OnlyCaught.ok _
    · exact OnlyCaught.ok _

theorem renamed_argument_caught {Identity : Type} {make : PyObject → Py Identity}
    (only : ∀ object, OnlyValueErrors (make object)) (fields : Fields) (source target : String) :
    OnlyCaught overflow (renamedArgument make fields source target) := by
  unfold renamedArgument
  split
  · apply OnlyCaught.bind (OnlyCaught.raiseIf _ _)
    intro _
    exact OnlyCaught.map _ (OnlyCaught.ofValueErrors (only _))
  · exact OnlyCaught.ok _

/-! ## The format -/

/-- The keys looked up in an enumeration. -/
def observationLookups : List String :=
  ["event", "direction", "compute_kind", "requeue_reason", "terminal_reason"]

theorem read_observation_caught (fields : Fields) :
    OnlyCaught (Overflows python observationLookups fields) (readObservation python fields) := by
  apply OnlyCaught.bind (item_caught fields _); intro _
  apply OnlyCaught.bind (identity_from_payload_caught _); intro _
  apply OnlyCaught.bind_of (item_caught fields _); intro content found
  apply OnlyCaught.bind (enum_item_caught python _ _ fields _ (by decide) content found); intro _
  apply OnlyCaught.bind (item_caught fields _); intro _
  apply OnlyCaught.bind (enum_argument_caught python _ _ fields _ (by decide)); intro _
  apply OnlyCaught.bind (enum_argument_caught python _ _ fields _ (by decide)); intro _
  apply OnlyCaught.bind (enum_argument_caught python _ _ fields _ (by decide)); intro _
  apply OnlyCaught.bind (enum_argument_caught python _ _ fields _ (by decide)); intro _
  apply OnlyCaught.bind (renamed_argument_caught
    (fun _ => OnlyValueErrors.map _ (require_scoped_id_errors _ _ _)) _ _ _)
  intro _
  apply OnlyCaught.bind (renamed_argument_caught
    (fun _ => OnlyValueErrors.map _ (require_scoped_id_errors _ _ _)) _ _ _)
  intro _
  apply OnlyCaught.bind (associated_argument_caught fields); intro _
  apply OnlyCaught.bind (refuse_unexpected_caught _ _ _); intro _
  exact OnlyCaught.ofValueErrors (make_errors _)

theorem read_observation_plain {fields : Fields} {record : KVTransferObservation}
    (unique : Json.UniqueKeys (.object fields))
    (admitted : (observationFormat python).admits fields = true)
    (read : readObservation python fields = .ok record) : Plain (.object fields) := by
  have schema := (argument_equals_text_iff fields "schema" eventSchema).mp admitted
  obtain ⟨identityValue, identityFound, read⟩ := bind_eq_ok.mp read
  obtain ⟨identity, identityRead, read⟩ := bind_eq_ok.mp read
  obtain ⟨eventValue, eventFound, read⟩ := bind_eq_ok.mp read
  obtain ⟨event, eventRead, read⟩ := bind_eq_ok.mp read
  obtain ⟨observedAt, observedFound, read⟩ := bind_eq_ok.mp read
  obtain ⟨direction, directionRead, read⟩ := bind_eq_ok.mp read
  obtain ⟨kind, kindRead, read⟩ := bind_eq_ok.mp read
  obtain ⟨requeue, requeueRead, read⟩ := bind_eq_ok.mp read
  obtain ⟨terminal, terminalRead, read⟩ := bind_eq_ok.mp read
  obtain ⟨transfer, transferRead, read⟩ := bind_eq_ok.mp read
  obtain ⟨receipt, receiptRead, read⟩ := bind_eq_ok.mp read
  obtain ⟨associated, associatedRead, read⟩ := bind_eq_ok.mp read
  obtain ⟨_, expected, made⟩ := bind_eq_ok.mp read
  rw [observation_make_iff] at made
  have transferAccepted : transfer = _ := congrArg ObservationArguments.transfer made
  have receiptAccepted : receipt = _ := congrArg ObservationArguments.receipt made
  have rosterAccepted : associated = _ := congrArg ObservationArguments.associatedTransfers made
  have observedAccepted : toPython observedAt = _ :=
    congrArg ObservationArguments.observedAtNs made
  have bytes : argument fields "bytes_moved" = _ := congrArg ObservationArguments.bytesMoved made
  have blocks : argument fields "block_count" = _ := congrArg ObservationArguments.blockCount made
  have duration : argument fields "duration_ns" = _ :=
    congrArg ObservationArguments.durationNs made
  have device : argument fields "device_duration_ns" = _ :=
    congrArg ObservationArguments.deviceDurationNs made
  rw [item_ok_iff] at identityFound eventFound observedFound
  have identityUnique := Json.unique_keys_lookup unique identityFound
  have observedPlain : Plain observedAt := by
    rw [to_python_int observedAccepted]
    exact natural_plain _
  have eventPlain : Plain eventValue := by
    rw [enum_member_sound eventRead]
    exact text_plain _
  rw [transferAccepted] at transferRead
  rw [receiptAccepted] at receiptRead
  have rosterAbsent := associated_target_absent (rosterAccepted ▸ associatedRead)
  cases unique with
  | object distinct _ =>
      apply plain_of_keywords distinct expected
      simp only [List.cons_append, List.nil_append, List.forall_mem_cons]
      refine ⟨found_plain schema (text_plain _),
        renamed_source_plain (fun object id => (transfer_make_iff object id).mp) transferRead,
        renamed_source_plain (fun object id => (receipt_make_iff object id).mp) receiptRead,
        associated_source_plain associatedRead,
        found_plain eventFound eventPlain,
        found_plain identityFound (identity_plain identityUnique identityRead),
        found_plain observedFound observedPlain,
        renamed_target_plain transferRead,
        enum_argument_plain directionRead,
        renamed_target_plain receiptRead,
        ?_,
        enum_argument_plain kindRead,
        enum_argument_plain requeueRead,
        enum_argument_plain terminalRead,
        argument_plain bytes,
        argument_plain blocks,
        argument_plain duration,
        argument_plain device,
        List.forall_mem_nil _⟩
      intro content found
      rw [rosterAbsent] at found
      cases found

theorem read_observation_complete {fields : Fields} {record : KVTransferObservation}
    (unique : Json.UniqueKeys (.object fields))
    (agree : same (KVTransferObservation.toPayload record) (.object fields) = true) :
    (observationFormat python).admits fields = true ∧
      readObservation python fields = .ok record := by
  have tableDistinct : ((observationTable record.toObservationFields).map Prod.fst).Nodup := by
    rw [observation_table_keys]
    decide
  have entries := same_present tableDistinct unique agree
  have schema : fields.lookup "schema" = some (text eventSchema) := lookup_text (entries "schema")
  have event : fields.lookup "event" = some (text record.event.value) :=
    lookup_text (entries "event")
  have observedAt : fields.lookup "observed_at_ns" = some (natural record.observedAtNs.val) :=
    lookup_natural (entries "observed_at_ns")
  have transfer : fields.lookup "transfer_id" = _ :=
    lookup_map (text_flat TransferIdentity.value) (entries "transfer_id")
  have direction : fields.lookup "direction" = _ :=
    lookup_map (text_flat TransferDirection.value) (entries "direction")
  have receipt : fields.lookup "receipt_id" = _ :=
    lookup_map (text_flat ReceiptIdentity.value) (entries "receipt_id")
  have roster : fields.lookup "associated_transfer_ids" = _ :=
    lookup_nonempty (text_flat TransferIdentity.value) (entries "associated_transfer_ids")
  have kind : fields.lookup "compute_kind" = _ :=
    lookup_map (text_flat ComputeKind.value) (entries "compute_kind")
  have requeue : fields.lookup "requeue_reason" = _ :=
    lookup_map (text_flat RecoveryRequeueReason.value) (entries "requeue_reason")
  have terminal : fields.lookup "terminal_reason" = _ :=
    lookup_map (text_flat TransferTerminalReason.value) (entries "terminal_reason")
  have bytes : fields.lookup "bytes_moved" = _ :=
    lookup_map (natural_flat fun number : PositiveUint uint64Max => number.val)
      (entries "bytes_moved")
  have blocks : fields.lookup "block_count" = _ :=
    lookup_map (natural_flat fun number : PositiveUint uint32Max => number.val)
      (entries "block_count")
  have duration : fields.lookup "duration_ns" = _ :=
    lookup_map (natural_flat fun number : Uint uint64Max => number.val) (entries "duration_ns")
  have device : fields.lookup "device_duration_ns" = _ :=
    lookup_map (natural_flat fun number : PositiveUint uint64Max => number.val)
      (entries "device_duration_ns")
  have noTransfer : fields.lookup "transfer" = none := lookup_none (entries "transfer")
  have noReceipt : fields.lookup "receipt" = none := lookup_none (entries "receipt")
  have noRoster : fields.lookup "associated_transfers" = none :=
    lookup_none (entries "associated_transfers")
  obtain ⟨identity, identityFound, identityAgrees⟩ := lookup_agrees (entries "identity")
  have identityItem := (item_ok_iff fields "identity" identity).mpr identityFound
  have eventItem := (item_ok_iff fields "event" _).mpr event
  have observedItem := (item_ok_iff fields "observed_at_ns" _).mpr observedAt
  have identityRead :=
    identity_complete (Json.unique_keys_lookup unique identityFound) identityAgrees
  have eventRead := enum_member_complete python observation_event_exact record.event
  have transferRead := renamed_of_lookup
    (fun transfer => (transfer_make_iff _ transfer).mpr rfl) transfer noTransfer
  have receiptRead := renamed_of_lookup
    (fun receipt => (receipt_make_iff _ receipt).mpr rfl) receipt noReceipt
  have rosterRead := associated_of_lookup roster noRoster
  have directionRead := enum_argument_of_lookup python direction_exact direction
  have kindRead := enum_argument_of_lookup python compute_kind_exact kind
  have requeueRead := enum_argument_of_lookup python requeue_reason_exact requeue
  have terminalRead := enum_argument_of_lookup python terminal_reason_exact terminal
  have expected : refuseUnexpected fields
      ["schema", "transfer_id", "receipt_id", "associated_transfer_ids"]
      ["event", "identity", "observed_at_ns", "transfer", "direction", "receipt",
        "associated_transfers", "compute_kind", "requeue_reason", "terminal_reason",
        "bytes_moved", "block_count", "duration_ns", "device_duration_ns"] = .ok () := by
    apply expected_of_table entries
    rw [observation_table_keys]
    decide
  refine ⟨(argument_equals_text_iff fields "schema" eventSchema).mpr schema, ?_⟩
  simp only [readObservation, identityItem, identityRead, eventItem, eventRead, observedItem,
    directionRead, kindRead, requeueRead, terminalRead, transferRead, receiptRead, rosterRead,
    expected, bind, Except.bind]
  rw [observation_make_iff]
  simp only [ObservationFields.arguments, argument_of_lookup bytes, argument_of_lookup blocks,
    argument_of_lookup duration, argument_of_lookup device]
  rfl

variable (python) in
theorem observation_format_lawful :
    Lawful (observationFormat python) (Overflows python observationLookups) where
  written record := written_record (.canonical record)
  object _ := ⟨_, rfl⟩
  sound _ _ unique admitted read := read_observation_plain unique admitted read
  complete _ _ unique agree := read_observation_complete unique agree
  caught := read_observation_caught

end KVTransferObservability.ObservationDecoding
