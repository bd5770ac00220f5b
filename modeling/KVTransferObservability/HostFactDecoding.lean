import KVTransferObservability.ObservationDecoding

/-!
# Host facts are read exactly as written

The format of host facts is lawful. Its rosters are arrays of integers, left out when
they are empty; an empty array is refused by the final comparison.
-/

namespace KVTransferObservability.HostFactDecoding

open PythonValues Schema HostFacts Payload Decoding DecodingRules Constructors
  ObservationDecoding Library

set_option autoImplicit false

variable {overflow : Prop} {python : Interpreter}

theorem host_fact_event_exact (event : HostFactEvent) :
    memberOfValue HostFactEvent.all HostFactEvent.value (.str event.value) = some event := by
  cases event <;> rfl

theorem tuple_argument_plain {maximum : Nat} {fields : Fields} {name : String}
    {numbers : List (Uint maximum)}
    (read : tupleArgument fields name =
      .ok (.tuple (numbers.map fun number => .int number.val)))
    (content : Value) (found : fields.lookup name = some content) : Plain content := by
  unfold tupleArgument at read
  rw [found] at read
  cases content with
  | scalar _ => cases read
  | object _ => cases read
  | array items =>
      have identical : items.map toPython = numbers.map fun number => .int number.val :=
        PyObject.tuple.inj (Except.ok.inj read)
      apply Json.Every.array
      intro item member
      have written : toPython item ∈ numbers.map fun number => PyObject.int number.val :=
        identical ▸ List.mem_map_of_mem member
      obtain ⟨number, _, same⟩ := List.mem_map.mp written
      rw [to_python_int same.symm]
      exact natural_plain _

theorem tuple_argument_of_lookup {maximum : Nat} {fields : Fields} {name : String}
    {numbers : List (Uint maximum)}
    (found : fields.lookup name = nonempty (fun number => natural number.val) numbers) :
    tupleArgument fields name = .ok (.tuple (numbers.map fun number => .int number.val)) := by
  unfold tupleArgument
  rw [found]
  cases numbers with
  | nil => rfl
  | cons first rest =>
      have each : ((first :: rest).map fun number => natural number.val).map toPython =
          (first :: rest).map fun number => .int number.val := by
        rw [List.map_map]
        rfl
      change Except.ok (PyObject.tuple (List.map toPython _)) = _
      rw [each]

theorem tuple_argument_caught (fields : Fields) (name : String) :
    OnlyCaught overflow (tupleArgument fields name) := by
  unfold tupleArgument
  split
  · exact OnlyCaught.ok _
  · exact OnlyCaught.error trivial
  · exact OnlyCaught.ok _

/-- The keys looked up in an enumeration. -/
def hostFactLookups : List String :=
  ["event", "compute_kind", "requeue_reason"]

theorem read_host_fact_caught (fields : Fields) :
    OnlyCaught (Overflows python hostFactLookups fields) (readHostFact python fields) := by
  apply OnlyCaught.bind_of (item_caught fields _); intro content found
  apply OnlyCaught.bind (enum_item_caught python _ _ fields _ (by decide) content found); intro _
  apply OnlyCaught.bind (enum_argument_caught python _ _ fields _ (by decide)); intro _
  apply OnlyCaught.bind (enum_argument_caught python _ _ fields _ (by decide)); intro _
  apply OnlyCaught.bind (tuple_argument_caught fields _); intro _
  apply OnlyCaught.bind (tuple_argument_caught fields _); intro _
  apply OnlyCaught.bind (refuse_unexpected_caught _ _ _); intro _
  apply OnlyCaught.bind (required_argument_caught fields _); intro _
  apply OnlyCaught.bind (required_argument_caught fields _); intro _
  apply OnlyCaught.bind (required_argument_caught fields _); intro _
  exact OnlyCaught.ofValueErrors (host_fact_make_errors _)

theorem read_host_fact_plain {fields : Fields} {fact : HostFact}
    (unique : Json.UniqueKeys (.object fields))
    (admitted : (hostFactFormat python).admits fields = true)
    (read : readHostFact python fields = .ok fact) : Plain (.object fields) := by
  have both := (Bool.and_eq_true _ _).mp admitted
  have schema := (argument_equals_text_iff fields "schema" hostFactSchema).mp both.1
  have scope := (argument_equals_text_iff fields "scope" hostFactScope).mp both.2
  obtain ⟨eventValue, eventFound, read⟩ := bind_eq_ok.mp read
  obtain ⟨event, eventRead, read⟩ := bind_eq_ok.mp read
  obtain ⟨kind, kindRead, read⟩ := bind_eq_ok.mp read
  obtain ⟨reason, reasonRead, read⟩ := bind_eq_ok.mp read
  obtain ⟨jobs, jobsRead, read⟩ := bind_eq_ok.mp read
  obtain ⟨ranks, ranksRead, read⟩ := bind_eq_ok.mp read
  obtain ⟨_, expected, read⟩ := bind_eq_ok.mp read
  obtain ⟨uuid, uuidRead, read⟩ := bind_eq_ok.mp read
  obtain ⟨observedAt, observedRead, read⟩ := bind_eq_ok.mp read
  obtain ⟨request, requestRead, made⟩ := bind_eq_ok.mp read
  rw [host_fact_make_iff] at made
  have uuidAccepted : uuid = _ := congrArg HostFactArguments.processUuid made
  have observedAccepted : observedAt = _ := congrArg HostFactArguments.observedAtNs made
  have requestAccepted : request = _ := congrArg HostFactArguments.requestId made
  have job : argument fields "job_id" = _ := congrArg HostFactArguments.jobId made
  have rank : argument fields "rank" = _ := congrArg HostFactArguments.rank made
  have epoch : argument fields "recovery_epoch" = _ := congrArg HostFactArguments.recoveryEpoch made
  have jobsAccepted : jobs = _ := congrArg HostFactArguments.jobIds made
  have ranksAccepted : ranks = _ := congrArg HostFactArguments.ranks made
  rw [uuidAccepted] at uuidRead
  rw [observedAccepted] at observedRead
  rw [requestAccepted] at requestRead
  rw [jobsAccepted] at jobsRead
  rw [ranksAccepted] at ranksRead
  rw [item_ok_iff] at eventFound
  have eventPlain : Plain eventValue := by
    rw [enum_member_sound eventRead]
    exact text_plain _
  cases unique with
  | object distinct _ =>
      apply plain_of_keywords distinct expected
      simp only [List.cons_append, List.nil_append, List.forall_mem_cons]
      exact ⟨found_plain schema (text_plain _), found_plain scope (text_plain _),
        found_plain eventFound eventPlain, required_argument_str_plain uuidRead,
        required_argument_int_plain observedRead, required_argument_str_plain requestRead,
        argument_plain job, argument_plain rank, argument_plain epoch,
        tuple_argument_plain jobsRead, tuple_argument_plain ranksRead,
        enum_argument_plain kindRead, enum_argument_plain reasonRead, List.forall_mem_nil _⟩

theorem read_host_fact_complete {fields : Fields} {fact : HostFact}
    (unique : Json.UniqueKeys (.object fields))
    (agree : same (HostFact.toPayload fact) (.object fields) = true) :
    (hostFactFormat python).admits fields = true ∧ readHostFact python fields = .ok fact := by
  have tableDistinct : ((hostFactTable fact.toHostFactFields).map Prod.fst).Nodup := by
    rw [host_fact_table_keys]
    decide
  have entries := same_present tableDistinct unique agree
  have schema : fields.lookup "schema" = some (text hostFactSchema) :=
    lookup_text (entries "schema")
  have scope : fields.lookup "scope" = some (text hostFactScope) := lookup_text (entries "scope")
  have event : fields.lookup "event" = some (text fact.event.value) :=
    lookup_text (entries "event")
  have uuid : fields.lookup "process_uuid" = some (text fact.processUuid.val) :=
    lookup_text (entries "process_uuid")
  have observedAt : fields.lookup "observed_at_ns" = some (natural fact.observedAtNs.val) :=
    lookup_natural (entries "observed_at_ns")
  have request : fields.lookup "request_id" = some (text fact.requestId.val) :=
    lookup_text (entries "request_id")
  have job : fields.lookup "job_id" = _ :=
    lookup_map (natural_flat fun number : Uint uint64Max => number.val) (entries "job_id")
  have rank : fields.lookup "rank" = _ :=
    lookup_map (natural_flat fun number : Uint uint32Max => number.val) (entries "rank")
  have epoch : fields.lookup "recovery_epoch" = _ :=
    lookup_map (natural_flat fun number : PositiveUint uint64Max => number.val)
      (entries "recovery_epoch")
  have jobs : fields.lookup "job_ids" = _ :=
    lookup_nonempty (natural_flat fun number : Uint uint64Max => number.val) (entries "job_ids")
  have ranks : fields.lookup "ranks" = _ :=
    lookup_nonempty (natural_flat fun number : Uint uint32Max => number.val) (entries "ranks")
  have kind : fields.lookup "compute_kind" = _ :=
    lookup_map (text_flat ComputeKind.value) (entries "compute_kind")
  have reason : fields.lookup "requeue_reason" = _ :=
    lookup_map (text_flat RecoveryRequeueReason.value) (entries "requeue_reason")
  have eventItem := (item_ok_iff fields "event" _).mpr event
  have eventRead := enum_member_complete python host_fact_event_exact fact.event
  have kindRead := enum_argument_of_lookup python compute_kind_exact kind
  have reasonRead := enum_argument_of_lookup python requeue_reason_exact reason
  have jobsRead := tuple_argument_of_lookup jobs
  have ranksRead := tuple_argument_of_lookup ranks
  have uuidRead := required_argument_of_lookup uuid
  have observedRead := required_argument_of_lookup observedAt
  have requestRead := required_argument_of_lookup request
  have expected : refuseUnexpected fields ["schema", "scope"]
      ["event", "process_uuid", "observed_at_ns", "request_id", "job_id", "rank",
        "recovery_epoch", "job_ids", "ranks", "compute_kind", "requeue_reason"] = .ok () := by
    apply expected_of_table entries
    rw [host_fact_table_keys]
    decide
  constructor
  · apply (Bool.and_eq_true _ _).mpr
    exact ⟨(argument_equals_text_iff fields "schema" hostFactSchema).mpr schema,
      (argument_equals_text_iff fields "scope" hostFactScope).mpr scope⟩
  · simp only [readHostFact, eventItem, eventRead, kindRead, reasonRead, jobsRead, ranksRead,
      expected, uuidRead, observedRead, requestRead, bind, Except.bind]
    rw [host_fact_make_iff]
    simp only [hostFactArguments, argument_of_lookup job, argument_of_lookup rank,
      argument_of_lookup epoch]
    rfl

variable (python) in
theorem host_fact_format_lawful :
    Lawful (hostFactFormat python) (Overflows python hostFactLookups) where
  written fact := written_record (.hostFact fact)
  object _ := ⟨_, rfl⟩
  sound _ _ unique admitted read := read_host_fact_plain unique admitted read
  complete _ _ unique agree := read_host_fact_complete unique agree
  caught := read_host_fact_caught

end KVTransferObservability.HostFactDecoding
