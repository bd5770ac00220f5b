import KVTransferObservability.CorrelatedDecoding

/-!
# Readers accept what writers produce

The dispatch of `read_events` on the schema field, over the three decoders. Decoding
and `to_payload` are inverse to each other, up to the order of object keys, and
whatever is not the payload of a valid record is refused with `ValueError`, or with the
`RecursionError` of an enumeration that cannot print the value it does not know.
-/

namespace KVTransferObservability.EventReaders

open PythonValues Schema HostFacts Adapter Payload Decoding DecodingRules ObservationDecoding HostFactDecoding
  CorrelatedDecoding Library

set_option autoImplicit false

/-- One iteration of `read_events`, after the line has been decoded. -/
def recordFromPayload (python : Interpreter) (payload : Value) : Py EventRecord := do
  let fields ← asObject payload
  if (argument fields "schema").equalsText hostFactSchema then
    (hostFactFromPayload python payload).map EventRecord.hostFact
  else if (argument fields "schema").equalsText correlatedSchema then
    (correlatedFromPayload python payload).map EventRecord.correlated
  else (observationFromPayload python payload).map EventRecord.canonical

variable {python : Interpreter}

theorem map_ok_iff {First Second : Type} (computation : Py First) (change : First → Second)
    (result : Second) :
    computation.map change = .ok result ↔ ∃ value, computation = .ok value ∧ change value = result := by
  cases computation with
  | error raised => simp [Except.map]
  | ok value => simp [Except.map]

def schemaOf : EventRecord → String
  | .canonical _ => eventSchema
  | .hostFact _ => hostFactSchema
  | .correlated _ => correlatedSchema

theorem schema_of_same {record : EventRecord} {fields : Fields}
    (unique : Json.UniqueKeys (.object fields))
    (agree : same (EventRecord.toPayload record) (.object fields) = true) :
    fields.lookup "schema" = some (text (schemaOf record)) := by
  cases record with
  | canonical record =>
      have admitted := ((observation_format_lawful .unlimited).complete fields record unique
        agree).1
      exact (argument_equals_text_iff fields "schema" eventSchema).mp admitted
  | hostFact fact =>
      have admitted := ((host_fact_format_lawful .unlimited).complete fields fact unique agree).1
      have both := (Bool.and_eq_true _ _).mp admitted
      exact (argument_equals_text_iff fields "schema" hostFactSchema).mp both.1
  | correlated record =>
      have admitted := ((correlated_format_lawful .unlimited).complete fields record unique
        agree).1
      exact (argument_equals_text_iff fields "schema" correlatedSchema).mp admitted

theorem payload_is_object {record : EventRecord} {payload : Value}
    (agree : same (EventRecord.toPayload record) payload = true) :
    ∃ fields, payload = .object fields := by
  have written : ∃ entries, EventRecord.toPayload record = .object entries := by
    cases record <;> exact ⟨_, rfl⟩
  obtain ⟨entries, shape⟩ := written
  rw [shape] at agree
  cases payload with
  | scalar _ => cases agree
  | array _ => cases agree
  | object fields => exact ⟨fields, rfl⟩

theorem schema_test (fields : Fields) {content : String}
    (schema : fields.lookup "schema" = some (text content)) (expected : String) :
    (argument fields "schema").equalsText expected = decide (content = expected) := by
  rw [argument_str_of_lookup schema]
  rfl

theorem record_from_payload_iff (payload : Value) (unique : payload.UniqueKeys)
    (record : EventRecord) :
    recordFromPayload python payload = .ok record ↔
      same (EventRecord.toPayload record) payload = true := by
  constructor
  · intro read
    obtain ⟨fields, isObject, dispatched⟩ := bind_eq_ok.mp read
    rw [as_object_ok_iff] at isObject
    subst isObject
    split at dispatched
    · obtain ⟨fact, decoded, rfl⟩ := (map_ok_iff _ _ _).mp dispatched
      exact (from_payload_iff (host_fact_format_lawful python) _ unique fact).mp decoded
    · split at dispatched
      · obtain ⟨link, decoded, rfl⟩ := (map_ok_iff _ _ _).mp dispatched
        exact (from_payload_iff (correlated_format_lawful python) _ unique link).mp decoded
      · obtain ⟨event, decoded, rfl⟩ := (map_ok_iff _ _ _).mp dispatched
        exact (from_payload_iff (observation_format_lawful python) _ unique event).mp decoded
  · intro agree
    obtain ⟨fields, rfl⟩ := payload_is_object agree
    apply bind_eq_ok.mpr
    refine ⟨fields, rfl, ?_⟩
    cases record with
    | canonical event =>
        have schema : fields.lookup "schema" = some (text eventSchema) :=
          schema_of_same unique agree
        have decoded := (from_payload_iff (observation_format_lawful python) _ unique event).mpr agree
        rw [schema_test fields schema, schema_test fields schema, if_neg (by decide),
          if_neg (by decide)]
        exact (map_ok_iff _ _ _).mpr ⟨event, decoded, rfl⟩
    | hostFact fact =>
        have schema : fields.lookup "schema" = some (text hostFactSchema) :=
          schema_of_same unique agree
        have decoded := (from_payload_iff (host_fact_format_lawful python) _ unique fact).mpr agree
        rw [schema_test fields schema, if_pos (by decide)]
        exact (map_ok_iff _ _ _).mpr ⟨fact, decoded, rfl⟩
    | correlated link =>
        have schema : fields.lookup "schema" = some (text correlatedSchema) :=
          schema_of_same unique agree
        have decoded := (from_payload_iff (correlated_format_lawful python) _ unique link).mpr agree
        rw [schema_test fields schema, schema_test fields schema, if_neg (by decide),
          if_pos (by decide)]
        exact (map_ok_iff _ _ _).mpr ⟨link, decoded, rfl⟩

/-- The keys that the decoder of an object looks up in an enumeration. -/
def lookups (fields : Fields) : List String :=
  if (argument fields "schema").equalsText hostFactSchema then hostFactLookups
  else if (argument fields "schema").equalsText correlatedSchema then correlatedLookups
  else if (argument fields "schema").equalsText eventSchema then observationLookups
  else []

/-- The text of a value looked up in an enumeration recurses too deeply. -/
def TooDeep (python : Interpreter) (payload : Value) : Prop :=
  ∃ fields, payload = .object fields ∧ Overflows python (lookups fields) fields

theorem record_from_payload_errors (payload : Value) :
    ValueErrorsUnless (TooDeep python payload) (recordFromPayload python payload) := by
  apply ValueErrorsUnless.bind_of (.ofValueErrors (as_object_errors payload))
  intro fields isObject
  rw [as_object_ok_iff] at isObject
  split
  · rename_i isFact
    apply ValueErrorsUnless.map
    apply ValueErrorsUnless.weaken _ (from_payload_errors (host_fact_format_lawful python) payload)
    rintro ⟨others, same, _, deep⟩
    refine ⟨others, same, ?_⟩
    rw [isObject, Json.object.injEq] at same
    rw [lookups, ← same, if_pos isFact, same]
    exact deep
  · split
    · rename_i notFact isCorrelated
      apply ValueErrorsUnless.map
      apply ValueErrorsUnless.weaken _
        (from_payload_errors (correlated_format_lawful python) payload)
      rintro ⟨others, same, _, deep⟩
      refine ⟨others, same, ?_⟩
      rw [isObject, Json.object.injEq] at same
      rw [lookups, ← same, if_neg notFact, if_pos isCorrelated, same]
      exact deep
    · rename_i notFact notCorrelated
      apply ValueErrorsUnless.map
      apply ValueErrorsUnless.weaken _
        (from_payload_errors (observation_format_lawful python) payload)
      rintro ⟨others, same, admitted, deep⟩
      refine ⟨others, same, ?_⟩
      rw [isObject, Json.object.injEq] at same
      subst same
      have named : (argument fields "schema").equalsText eventSchema = true := admitted
      rw [lookups, if_neg notFact, if_neg notCorrelated, if_pos named]
      exact deep

theorem record_round_trip (record : EventRecord) :
    recordFromPayload python (EventRecord.toPayload record) = .ok record := by
  have unique := (written_record record).unique
  exact (record_from_payload_iff _ unique record).mpr (same_refl unique)

/-! ## Refused payloads -/

/-- Refused with `ValueError`, or because a lookup ran out of levels. -/
def Rejected (python : Interpreter) (payload : Value) : Prop :=
  (∃ message, recordFromPayload python payload = .error (.valueError message)) ∨
    recordFromPayload python payload = .error (.raised "RecursionError") ∧
      TooDeep python payload

theorem accepted_or_rejected (payload : Value) :
    (∃ record, recordFromPayload python payload = .ok record) ∨ Rejected python payload :=
  (record_from_payload_errors payload).outcome

theorem rejected_of_unwritten {payload : Value} (unique : payload.UniqueKeys)
    (unwritten : ∀ record, same (EventRecord.toPayload record) payload = false) :
    Rejected python payload := by
  rcases accepted_or_rejected payload with ⟨record, accepted⟩ | rejected
  · have agree := (record_from_payload_iff payload unique record).mp accepted
    rw [unwritten record] at agree
    cases agree
  · exact rejected

/-- The keys of the record types. -/
def knownKeys : List String := observationKeys ++ hostFactKeys ++ correlatedKeys

theorem record_table_known (record : EventRecord) :
    ∀ key ∈ (recordTable record).map Prod.fst, key ∈ knownKeys := by
  cases record with
  | canonical record =>
      rw [recordTable, observation_table_keys]
      decide
  | hostFact fact =>
      rw [recordTable, host_fact_table_keys]
      decide
  | correlated record =>
      rw [recordTable, correlated_table_keys]
      decide

theorem accepted_entries {fields : Fields} {record : EventRecord}
    (unique : Json.UniqueKeys (.object fields))
    (accepted : recordFromPayload python (.object fields) = .ok record) (key : String) :
    SameEntry ((recordTable record).lookup key).join (fields.lookup key) := by
  have agree := (record_from_payload_iff _ unique record).mp accepted
  rw [record_table_written] at agree
  exact same_present (record_table_distinct record) unique agree key

/-- Every mandatory key of the three types. -/
def sharedKeys : List String := ["schema", "event", "observed_at_ns"]

theorem shared_key_filled (record : EventRecord) :
    ∀ key ∈ sharedKeys, ∃ value, (recordTable record).lookup key = some (some value) := by
  simp only [sharedKeys, List.forall_mem_cons, List.not_mem_nil, false_implies, implies_true,
    and_true]
  cases record <;> exact ⟨⟨_, rfl⟩, ⟨_, rfl⟩, ⟨_, rfl⟩⟩

theorem extra_key_rejected {fields : Fields} (unique : Json.UniqueKeys (.object fields))
    {key : String} (present : key ∈ Json.keys fields) (unknown : key ∉ knownKeys) :
    Rejected python (.object fields) := by
  rcases accepted_or_rejected (.object fields) with ⟨record, accepted⟩ | rejected
  · have entry := accepted_entries unique accepted key
    obtain ⟨value, found⟩ := (Json.mem_keys_iff fields key).mp present
    have absent : (recordTable record).lookup key = none := by
      rw [List.lookup_eq_none_iff]
      intro field member
      rw [bne_iff_ne]
      rintro rfl
      exact unknown (record_table_known record field.1 (List.mem_map_of_mem member))
    rw [absent, found] at entry
    cases entry
  · exact rejected

theorem missing_key_rejected {fields : Fields} (unique : Json.UniqueKeys (.object fields))
    {key : String} (shared : key ∈ sharedKeys) (missing : key ∉ Json.keys fields) :
    Rejected python (.object fields) := by
  rcases accepted_or_rejected (.object fields) with ⟨record, accepted⟩ | rejected
  · have entry := accepted_entries unique accepted key
    obtain ⟨value, written⟩ := shared_key_filled record key shared
    rw [written, (Json.lookup_eq_none_iff fields key).mpr missing] at entry
    cases entry
  · exact rejected

theorem null_of_same {value : Value} (agree : same value (.scalar .null) = true) :
    value = .scalar .null := by
  cases value with
  | scalar scalar =>
      have identical : scalar = .null := of_decide_eq_true agree
      rw [identical]
  | array _ => cases agree
  | object _ => cases agree

theorem null_rejected {fields : Fields} (unique : Json.UniqueKeys (.object fields))
    {key : String} (null : fields.lookup key = some (.scalar .null)) :
    Rejected python (.object fields) := by
  rcases accepted_or_rejected (.object fields) with ⟨record, accepted⟩ | rejected
  · have entry := accepted_entries unique accepted key
    rw [null] at entry
    cases located : (recordTable record).lookup key with
    | none =>
        rw [located] at entry
        cases entry
    | some content =>
        rw [located] at entry
        cases content with
        | none => cases entry
        | some value =>
            have member := Json.mem_of_lookup located
            have filled := record_table_filled record (key, some value) member value rfl
            exact absurd (null_of_same entry) filled.notNull
  · exact rejected

theorem plain_of_accepted {payload : Value} (unique : payload.UniqueKeys) {record : EventRecord}
    (accepted : recordFromPayload python payload = .ok record) : Plain payload := by
  obtain ⟨fields, _, dispatched⟩ := bind_eq_ok.mp accepted
  split at dispatched
  · obtain ⟨fact, decoded, _⟩ := (map_ok_iff _ _ _).mp dispatched
    exact from_payload_plain (host_fact_format_lawful python) unique decoded
  · split at dispatched
    · obtain ⟨link, decoded, _⟩ := (map_ok_iff _ _ _).mp dispatched
      exact from_payload_plain (correlated_format_lawful python) unique decoded
    · obtain ⟨event, decoded, _⟩ := (map_ok_iff _ _ _).mp dispatched
      exact from_payload_plain (observation_format_lawful python) unique decoded

/-- What decides about a payload: it is accepted as `record` exactly when it is that
record's payload, and otherwise refused, with `ValueError` unless a value that is looked up
in an enumeration is too deep to be printed. -/
structure ReadExactly (python : Interpreter) (payload : Value) : Prop where
  accepted : ∀ record, recordFromPayload python payload = .ok record ↔
    same (EventRecord.toPayload record) payload = true
  oneRecord : ∀ first second, same (EventRecord.toPayload first) payload = true →
    same (EventRecord.toPayload second) payload = true → first = second
  refused : (∀ record, same (EventRecord.toPayload record) payload = false) →
    Rejected python payload
  raises : ValueErrorsUnless (TooDeep python payload) (recordFromPayload python payload)
  raisesValueErrors : ¬ TooDeep python payload →
    OnlyValueErrors (recordFromPayload python payload)
  wrongTypes : ¬ Plain payload → Rejected python payload
  extraKey : ∀ fields, payload = .object fields →
    (∃ key ∈ Json.keys fields, key ∉ knownKeys) → Rejected python payload
  missingKey : ∀ fields, payload = .object fields →
    (∃ key ∈ sharedKeys, key ∉ Json.keys fields) → Rejected python payload
  nullField : ∀ fields, payload = .object fields →
    (∃ key, fields.lookup key = some (.scalar .null)) → Rejected python payload

theorem readers_accept_exactly_what_is_written :
    (∀ (python : Interpreter) (payload : Value), payload.UniqueKeys →
      ReadExactly python payload) ∧
    ∀ (python : Interpreter) (record : EventRecord),
      recordFromPayload python (EventRecord.toPayload record) = .ok record := by
  refine ⟨?_, fun python record => record_round_trip record⟩
  intro python payload unique
  have accepted : ∀ record, recordFromPayload python payload = .ok record ↔
      same (EventRecord.toPayload record) payload = true :=
    record_from_payload_iff payload unique
  have raises : ValueErrorsUnless (TooDeep python payload) (recordFromPayload python payload) :=
    record_from_payload_errors payload
  refine ⟨accepted, ?_, rejected_of_unwritten unique, raises,
    fun fits => raises.onlyValueErrors fits, ?_, ?_, ?_, ?_⟩
  · intro first second firstAgrees secondAgrees
    have readFirst := (accepted first).mpr firstAgrees
    have readSecond := (accepted second).mpr secondAgrees
    exact Except.ok.inj (readFirst.symm.trans readSecond)
  · intro notPlain
    rcases accepted_or_rejected payload with ⟨record, success⟩ | rejected
    · exact absurd (plain_of_accepted unique success) notPlain
    · exact rejected
  · rintro fields rfl ⟨key, present, unknown⟩
    exact extra_key_rejected unique present unknown
  · rintro fields rfl ⟨key, shared, missing⟩
    exact missing_key_rejected unique shared missing
  · rintro fields rfl ⟨key, null⟩
    exact null_rejected unique null

/-- The first thing the decoder of a correlated record does is to look up its event. -/
theorem correlated_event_overflows {fields : Fields} {content : Value}
    (schema : fields.lookup "schema" = some (text correlatedSchema))
    (event : fields.lookup "event" = some content)
    (deep : python.reprOverflows (toPython content) = true) :
    recordFromPayload python (.object fields) = .error (.raised "RecursionError") := by
  have eventItem := (item_ok_iff fields "event" content).mpr event
  have looked : enumMember python Correlated.CorrelatedEvent.all Correlated.CorrelatedEvent.value
      content = .error (.raised "RecursionError") := python.enum_member_overflows deep
  have read : readCorrelated python fields = .error (.raised "RecursionError") := by
    unfold readCorrelated
    simp only [eventItem, looked, bind, Except.bind]
  have admitted : (correlatedFormat python).admits fields = true := by
    change (argument fields "schema").equalsText correlatedSchema = true
    rw [schema_test fields schema]
    decide
  have decoded : correlatedFromPayload python (.object fields) =
      .error (.raised "RecursionError") := from_payload_raises admitted read
  unfold recordFromPayload
  simp only [asObject, bind, Except.bind, schema_test fields schema]
  rw [if_neg (by decide), if_pos (by decide), decoded]
  rfl

/-- A correlated record whose event is a thousand brackets deep. -/
def nestedEvent : Fields :=
  [("schema", text correlatedSchema), ("event", nestedArray 1000)]

theorem nested_event_raises :
    Json.UniqueKeys (.object nestedEvent) ∧
      recordFromPayload (.limitedTo 1000) (.object nestedEvent) =
        .error (.raised "RecursionError") ∧
      ∀ message, recordFromPayload (.limitedTo 1000) (.object nestedEvent) ≠
        .error (.valueError message) := by
  have raised : recordFromPayload (.limitedTo 1000) (.object nestedEvent) =
      .error (.raised "RecursionError") :=
    correlated_event_overflows rfl rfl (nested_array_overflows 1000)
  refine ⟨?_, raised, ?_⟩
  · apply Json.UniqueKeys.object (by decide)
    simp only [nestedEvent, List.forall_mem_cons]
    exact ⟨.scalar _, nested_array_unique 1000, List.forall_mem_nil _⟩
  · intro message
    rw [raised]
    simp

def sampleFact : HostFact where
  event := .recoveryRequeued
  processUuid := ⟨"00000000000000000000000000000000", by decide +kernel⟩
  observedAtNs := ⟨0, by decide⟩
  requestId := ⟨"r", by decide⟩
  recoveryEpoch := some ⟨1, by decide⟩
  requeueReason := some .tokenBudget
  shape := rfl

/-- The payload of the sample with its keys in sorted order, as the sink writes them. -/
def sampleFields : Fields :=
  [("event", text "recovery_requeued"), ("observed_at_ns", natural 0),
    ("process_uuid", text "00000000000000000000000000000000"), ("recovery_epoch", natural 1),
    ("request_id", text "r"), ("requeue_reason", text "token_budget"),
    ("schema", text hostFactSchema), ("scope", text hostFactScope)]

theorem sample_fields_unique : Json.UniqueKeys (.object sampleFields) := by
  apply Json.UniqueKeys.object (by decide)
  simp only [sampleFields, List.forall_mem_cons]
  exact ⟨.scalar _, .scalar _, .scalar _, .scalar _, .scalar _, .scalar _, .scalar _, .scalar _,
    List.forall_mem_nil _⟩

theorem sample_fields_read :
    recordFromPayload .unlimited (.object sampleFields) = .ok (.hostFact sampleFact) :=
  ((readers_accept_exactly_what_is_written.1 _ _ sample_fields_unique).accepted _).mpr
    (by decide +kernel)

end KVTransferObservability.EventReaders
