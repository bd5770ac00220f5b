import KVTransferObservability.DescriptorPublication
import KVTransferObservability.Recording
import KVTransferObservability.ScopedIds

/-!
# How long records are

Every field of a record has a bounded text: integers have at most twenty digits,
identities have a fixed alphabet, and a printable request id at most doubles. Summed over
the fields, and over rosters of their greatest length, the texts stay below the default
byte bounds of the sink and of the capture.
-/

namespace KVTransferObservability.EncodedSizes

open PythonValues Schema Observation HostFacts Correlated Adapter Payload EventSink RecordText
  ScopedIds Descriptors DescriptorPublication Library
open JsonText (quoted)

set_option autoImplicit false

/-! ## Texts of scalars -/

theorem integer_uint64 {number : Nat} (bounded : number ≤ uint64Max) :
    (JsonText.integer number).length ≤ 20 := by
  apply JsonText.integer_length_le number 20 (by decide)
  unfold uint64Max at bounded
  omega

theorem integer_uint32 {number : Nat} (bounded : number ≤ uint32Max) :
    (JsonText.integer number).length ≤ 10 := by
  apply JsonText.integer_length_le number 10 (by decide)
  unfold uint32Max at bounded
  omega

theorem hex_bare {character : Char} (hex : isHexDigit character = true) :
    JsonText.Bare character := by
  simp only [isHexDigit, Bool.or_eq_true, Bool.and_eq_true, decide_eq_true_eq] at hex
  have bounds : (48 ≤ character.toNat ∧ character.toNat ≤ 57) ∨
      (97 ≤ character.toNat ∧ character.toNat ≤ 102) := hex
  refine ⟨⟨by omega, by omega⟩, ?_, ?_⟩
  · intro same
    rw [same] at bounds
    revert bounds
    decide
  · intro same
    rw [same] at bounds
    revert bounds
    decide

theorem digit_bare {character : Char} (digit : character.isDigit = true) :
    JsonText.Bare character := by
  simp only [Char.isDigit, Bool.and_eq_true, decide_eq_true_eq] at digit
  apply hex_bare
  simp only [isHexDigit, Bool.or_eq_true, Bool.and_eq_true, decide_eq_true_eq]
  exact .inl digit

theorem uuid_bare (uuid : ProcessUuid) :
    ∀ character ∈ uuid.val.toList, JsonText.Bare character := by
  intro character member
  exact hex_bare (List.all_eq_true.mp (process_uuid_hex uuid) character member)

theorem quoted_uuid (uuid : ProcessUuid) : (quoted uuid.val).length ≤ 34 := by
  rw [JsonText.quoted_bare_length _ (uuid_bare uuid), process_uuid_length]

/-- A process, a kind between two colons, and at most twenty digits. -/
theorem quoted_scoped {kind : Char} (known : kind = 't' ∨ kind = 'k') (id : ScopedId kind) :
    (quoted id.val).length ≤ 57 := by
  obtain ⟨uuid, sequence, written⟩ := (scoped_id_iff kind known id.val).mp id.property
  have digits : (Nat.toDigits 10 sequence.val).length ≤ 20 := by
    have bounded := sequence.property
    unfold uint64Max at bounded
    rw [Nat.length_toDigits_le_iff (by decide) (by decide)]
    omega
  have colon : JsonText.Bare ':' := by
    unfold JsonText.Bare
    decide
  have middle : JsonText.Bare kind := by
    rcases known with same | same
    · rw [same]
      unfold JsonText.Bare
      decide
    · rw [same]
      unfold JsonText.Bare
      decide
  have characters : id.val.toList = scopedText uuid kind sequence.val := by
    rw [written, String.toList_ofList]
  have bare : ∀ character ∈ id.val.toList, JsonText.Bare character := by
    rw [characters, scopedText]
    simp only [List.forall_mem_append, List.forall_mem_cons]
    refine ⟨uuid_bare uuid, colon, middle, colon, ?_⟩
    intro character member
    exact digit_bare (Nat.isDigit_of_mem_toDigits (by decide) (by decide) member)
  rw [JsonText.quoted_bare_length _ bare, characters, scopedText, List.length_append,
    process_uuid_length, List.length_cons, List.length_cons, List.length_cons]
  omega

theorem quoted_transfer (transfer : TransferIdentity) :
    (quoted transfer.value).length ≤ 57 := by
  rw [TransferIdentity.value]
  exact quoted_scoped (.inl rfl) transfer.id

theorem quoted_receipt (receipt : ReceiptIdentity) : (quoted receipt.value).length ≤ 57 := by
  rw [ReceiptIdentity.value]
  exact quoted_scoped (.inr rfl) receipt.id

theorem quoted_request (requestId : RequestId) : (quoted requestId.val).length ≤ 258 := by
  have valid := requestId.property
  simp only [printableAsciiWithin, Bool.and_eq_true, decide_eq_true_eq] at valid
  obtain ⟨⟨_, _, short⟩, printable⟩ := valid
  have visible : ∀ character ∈ requestId.val.toList, JsonText.Visible character := by
    intro character member
    have each := List.all_eq_true.mp printable character member
    simp only [Bool.and_eq_true, decide_eq_true_eq] at each
    exact each
  have bound := JsonText.quoted_visible_length_le requestId.val visible
  unfold maxRuntimeRequestIdBytes at short
  omega

theorem quoted_event (event : ObservationEvent) : (quoted event.value).length ≤ 20 := by
  cases event <;> decide

theorem quoted_fact_event (event : HostFactEvent) : (quoted event.value).length ≤ 20 := by
  cases event <;> decide

theorem quoted_correlated_event (event : CorrelatedEvent) : (quoted event.value).length ≤ 20 := by
  cases event <;> decide

theorem quoted_direction (direction : TransferDirection) :
    (quoted direction.value).length ≤ 5 := by
  cases direction <;> decide

theorem quoted_kind (kind : ComputeKind) : (quoted kind.value).length ≤ 9 := by
  cases kind <;> decide

theorem quoted_requeue (reason : RecoveryRequeueReason) : (quoted reason.value).length ≤ 20 := by
  cases reason <;> decide

theorem quoted_terminal (reason : TransferTerminalReason) :
    (quoted reason.value).length ≤ 27 := by
  cases reason <;> decide

theorem quoted_label (label : EvidenceLabel) : (quoted label.value).length ≤ 23 := by
  cases label <;> decide

/-! ## Sums over fields -/

/-- What the fields of an object may take together: a key, its colon, a separator and the
text for each. -/
def budget (keys : List String) (limits : List Nat) : Nat :=
  (List.zipWith (fun key limit => (quoted key).length + 2 + limit) keys limits).sum

theorem budget_cons (key : String) (limit : Nat) (keys : List String) (limits : List Nat) :
    budget (key :: keys) (limit :: limits) = (quoted key).length + 2 + limit + budget keys limits := by
  rw [budget, List.zipWith_cons_cons, List.sum_cons, budget]

theorem entries_within_budget (cost : Value → Nat) {entries : Fields} {limits : List Nat}
    (each : List.Forall₂ (fun entry limit => cost entry.2 ≤ limit) entries limits) :
    (entries.map fun entry => (quoted entry.1).length + 2 + cost entry.2).sum ≤
      budget (Json.keys entries) limits := by
  induction each with
  | nil => exact Nat.zero_le _
  | cons bounded _ induction =>
      rw [List.map_cons, List.sum_cons, Json.keys, List.map_cons, budget_cons]
      have rest : _ ≤ budget (List.map Prod.fst _) _ := induction
      omega

section

variable (json : JsonModule)

/-- On scalars the cost is the length of their text. -/
def CountsScalars (cost : Value → Nat) : Prop :=
  ∀ scalar, cost (.scalar scalar) = (scalarText json scalar).length

variable {json} {cost : Value → Nat} (counts : CountsScalars json cost)

include counts

theorem text_within {content : String} {limit : Nat}
    (bounded : (quoted content).length ≤ limit) : cost (text content) ≤ limit := by
  rw [text, counts]
  exact bounded

theorem natural_within {number limit : Nat}
    (bounded : (JsonText.integer number).length ≤ limit) : cost (natural number) ≤ limit := by
  rw [natural, counts]
  exact bounded

theorem uint64_within (number : Uint uint64Max) : cost (natural number.val) ≤ 20 :=
  natural_within counts (integer_uint64 number.property)

theorem uint32_within (number : Uint uint32Max) : cost (natural number.val) ≤ 10 :=
  natural_within counts (integer_uint32 number.property)

theorem positive_uint64_within (number : PositiveUint uint64Max) :
    cost (natural number.val) ≤ 20 :=
  natural_within counts (integer_uint64 number.property.2)

theorem positive_uint32_within (number : PositiveUint uint32Max) :
    cost (natural number.val) ≤ 10 :=
  natural_within counts (integer_uint32 number.property.2)

theorem epoch_within (epoch : Option (PositiveUint uint64Max)) : cost (epochValue epoch) ≤ 20 := by
  cases epoch with
  | none =>
      rw [epochValue, counts]
      change 4 ≤ 20
      decide
  | some epoch => exact positive_uint64_within counts epoch

end

/-- The greatest lengths of the fields of an identity. -/
def identityLimits : List Nat := [10, 20, 258, 20]

def identityKeys : List String := ["rank", "recovery_epoch", "request_id", "worker_generation"]

theorem identity_within {json : JsonModule} {cost : Value → Nat}
    (counts : CountsScalars json cost) (identity : ObservationIdentity) :
    List.Forall₂ (fun entry limit => cost entry.2 ≤ limit)
      [("rank", natural identity.rank.val),
        ("recovery_epoch", epochValue identity.recoveryEpoch),
        ("request_id", text identity.requestId.val),
        ("worker_generation", natural identity.workerGeneration.val)] identityLimits :=
  .cons (uint32_within counts identity.rank)
    (.cons (epoch_within counts identity.recoveryEpoch)
      (.cons (text_within counts (quoted_request identity.requestId))
        (.cons (uint64_within counts identity.workerGeneration) .nil)))

section Compact

variable (json : JsonModule)

/-- The length of the compact text. -/
def size (value : Value) : Nat := (dumps json value).length

theorem size_counts : CountsScalars json (size json) := by
  intro scalar
  rw [size, dumps, JsonText.write]

theorem size_object (limits : List Nat) {entries : Fields}
    (each : List.Forall₂ (fun entry limit => size json entry.2 ≤ limit) entries limits) :
    size json (.object entries) ≤ budget (Json.keys entries) limits + 2 := by
  have whole := entries_within_budget (size json) each
  have separated : (entries.map fun entry => (quoted entry.1).length + 2 + size json entry.2).sum =
      (entries.map fun entry =>
        (quoted entry.1).length + 1 + (JsonText.write (scalarText json) entry.2).length).sum +
        entries.length := by
    rw [← Nat.mul_one entries.length, ← smul_eq_mul, ← List.sum_replicate, ← List.map_const',
      ← List.sum_map_add]
    congr 1
    apply List.map_congr_left
    intro entry _
    rw [size, dumps]
    omega
  rw [size, dumps, JsonText.write_object_length]
  omega

theorem size_array_sum (items : List Value) :
    size json (.array items) ≤ (items.map fun item => size json item + 1).sum + 2 :=
  JsonText.write_array_length_le items

theorem size_array {items : List Value} (limit : Nat) {count : Nat} (few : items.length ≤ count)
    (each : ∀ item ∈ items, size json item ≤ limit) :
    size json (.array items) ≤ count * (limit + 1) + 2 := by
  have bounded : ∀ length ∈ items.map fun item => size json item + 1, length ≤ limit + 1 := by
    rw [List.forall_mem_map]
    intro item member
    exact Nat.succ_le_succ (each item member)
  have total := List.sum_le_card_nsmul _ (limit + 1) bounded
  rw [List.length_map, smul_eq_mul] at total
  have more := Nat.mul_le_mul_right (limit + 1) few
  have whole := size_array_sum json items
  omega

/-- The field is left out or short. -/
def Fits (limit : Nat) (content : Option Value) : Prop := ∀ value ∈ content, size json value ≤ limit

theorem fits_some {value : Value} {limit : Nat} (bounded : size json value ≤ limit) :
    Fits json limit (some value) := by
  intro content present
  cases present
  exact bounded

theorem fits_map {Item : Type} {write : Item → Value} {limit : Nat}
    (bounded : ∀ item, size json (write item) ≤ limit) (content : Option Item) :
    Fits json limit (content.map write) := by
  intro value present
  obtain ⟨item, _, written⟩ := Option.map_eq_some_iff.mp present
  rw [← written]
  exact bounded item

theorem fits_nonempty {Item : Type} {write : Item → Value} {items : List Item}
    (count limit : Nat) (few : items.length ≤ count) (bounded : ∀ item, size json (write item) ≤ limit) :
    Fits json (count * (limit + 1) + 2) (nonempty write items) := by
  intro value present
  unfold nonempty at present
  split at present
  · cases present
  · cases present
    apply size_array json limit
    · rw [List.length_map]
      exact few
    · rw [List.forall_mem_map]
      intro item _
      exact bounded item

/-- An absent field costs nothing. -/
theorem present_within_budget {table : List (String × Option Value)} {limits : List Nat}
    (each : List.Forall₂ (fun field limit => Fits json limit field.2) table limits) :
    size json (.object (Json.present table)) ≤ budget (table.map Prod.fst) limits + 2 := by
  have chosen : ∃ chosen, List.Forall₂ (fun entry limit => size json entry.2 ≤ limit)
      (Json.present table) chosen ∧
        budget (Json.keys (Json.present table)) chosen ≤ budget (table.map Prod.fst) limits := by
    induction each with
    | nil => exact ⟨[], .nil, Nat.le_refl _⟩
    | @cons field limit table limits fits _ induction =>
        obtain ⟨chosen, inside, cheaper⟩ := induction
        obtain ⟨key, content⟩ := field
        rw [List.map_cons, budget_cons]
        cases content with
        | none => exact ⟨chosen, inside, cheaper.trans (Nat.le_add_left _ _)⟩
        | some value =>
            refine ⟨limit :: chosen, .cons (fits value rfl) inside, ?_⟩
            change budget (key :: Json.keys (Json.present table)) (limit :: chosen) ≤ _
            rw [budget_cons]
            exact Nat.add_le_add_left cheaper _
  obtain ⟨limits, inside, cheaper⟩ := chosen
  exact (size_object json limits inside).trans (Nat.add_le_add_right cheaper 2)

/-! ## Records -/

theorem size_identity (identity : ObservationIdentity) :
    size json (ObservationIdentity.toPayload identity) ≤ 371 := by
  have whole := size_object json identityLimits (identity_within (size_counts json) identity)
  have costs : budget identityKeys identityLimits = 369 := by decide +kernel
  rw [Json.keys] at whole
  exact whole.trans (Nat.le_of_eq (congrArg (· + 2) costs))

theorem size_worker (worker : WorkerReceipt) :
    size json (WorkerReceipt.toPayload worker) ≤ 75 := by
  have costs : budget ["rank", "worker_generation"] [10, 34] = 73 := by decide +kernel
  refine (size_object json [10, 34] ?_).trans (Nat.le_of_eq (congrArg (· + 2) costs))
  exact .cons (uint32_within (size_counts json) worker.rank)
    (.cons (text_within (size_counts json) (quoted_uuid worker.workerGeneration)) .nil)

/-- A job takes what its workers take and a constant. -/
theorem size_job (job : JobReceipt) :
    size json (JobReceipt.toPayload job) ≤ 45 + job.workers.val.length * 76 := by
  have workers : size json (.array (job.workers.val.map WorkerReceipt.toPayload)) ≤
      job.workers.val.length * 76 + 2 := by
    apply size_array json 75
    · rw [List.length_map]
    · rw [List.forall_mem_map]
      intro worker _
      exact size_worker json worker
  have keys : (quoted "job_id").length = 8 ∧ (quoted "workers").length = 9 := by decide
  have costs : budget ["job_id", "workers"] [20, job.workers.val.length * 76 + 2] + 2 ≤
      45 + job.workers.val.length * 76 := by
    rw [budget_cons, budget_cons, keys.1, keys.2]
    change 8 + 2 + 20 + (9 + 2 + (job.workers.val.length * 76 + 2) + 0) + 2 ≤ _
    omega
  refine (size_object json [20, job.workers.val.length * 76 + 2] ?_).trans costs
  exact .cons (uint64_within (size_counts json) job.jobId) (.cons workers .nil)

/-- All jobs of a roster draw on one number of workers. -/
theorem size_roster (roster : JobRoster) :
    Fits json 499714 (nonempty JobReceipt.toPayload roster.val) := by
  have exact := roster.property
  simp only [exactJobs, Bool.and_eq_true, decide_eq_true_eq] at exact
  obtain ⟨⟨⟨few, _⟩, _⟩, shared⟩ := exact
  have jobs : ((roster.val.map JobReceipt.toPayload).map fun item => size json item + 1).sum ≤
      roster.val.length * 46 + (roster.val.map fun job => job.workers.val.length).sum * 76 := by
    generalize roster.val = jobs
    induction jobs with
    | nil => exact Nat.zero_le _
    | cons job rest induction =>
        have first := size_job json job
        simp only [List.map_cons, List.sum_cons, List.length_cons]
        omega
  intro value present
  unfold nonempty at present
  split at present
  · cases present
  · cases present
    have whole := size_array_sum json (roster.val.map JobReceipt.toPayload)
    unfold maxCorrelatedRoster at few shared
    omega

theorem workers_few (roster : WorkerRoster) : roster.val.length ≤ 4096 := by
  have exact := roster.property
  simp only [exactWorkers, Bool.and_eq_true, decide_eq_true_eq] at exact
  exact exact.1.1

/-- The greatest lengths of the fields of a record. -/
def observationLimits : List Nat :=
  [33, 20, 371, 20, 57, 5, 57, 237570, 9, 20, 27, 20, 10, 20, 20]

theorem observation_within (record : ObservationFields) :
    List.Forall₂ (fun field limit => Fits json limit field.2) (observationTable record)
      observationLimits := by
  have counts := size_counts json
  simp only [observationTable, observationLimits, List.forall₂_cons, List.Forall₂.nil, and_true]
  exact ⟨fits_some json (text_within counts (by decide)),
    fits_some json (text_within counts (quoted_event record.event)),
    fits_some json (size_identity json record.identity),
    fits_some json (uint64_within counts record.observedAtNs),
    fits_map json (fun transfer => text_within counts (quoted_transfer transfer)) _,
    fits_map json (fun direction => text_within counts (quoted_direction direction)) _,
    fits_map json (fun receipt => text_within counts (quoted_receipt receipt)) _,
    fits_nonempty json 4096 57 record.associatedTransfers.property.1 fun transfer =>
      text_within counts (quoted_transfer transfer),
    fits_map json (fun kind => text_within counts (quoted_kind kind)) _,
    fits_map json (fun reason => text_within counts (quoted_requeue reason)) _,
    fits_map json (fun reason => text_within counts (quoted_terminal reason)) _,
    fits_map json (positive_uint64_within counts) _,
    fits_map json (positive_uint32_within counts) _, fits_map json (uint64_within counts) _,
    fits_map json (positive_uint64_within counts) _⟩

def hostFactLimits : List Nat :=
  [39, 24, 20, 34, 20, 258, 20, 10, 20, 86018, 45058, 9, 20]

theorem host_fact_within (fact : HostFactFields) :
    List.Forall₂ (fun field limit => Fits json limit field.2) (hostFactTable fact)
      hostFactLimits := by
  have counts := size_counts json
  simp only [hostFactTable, hostFactLimits, List.forall₂_cons, List.Forall₂.nil, and_true]
  exact ⟨fits_some json (text_within counts (by decide)),
    fits_some json (text_within counts (by decide)),
    fits_some json (text_within counts (quoted_fact_event fact.event)),
    fits_some json (text_within counts (quoted_uuid fact.processUuid)),
    fits_some json (uint64_within counts fact.observedAtNs),
    fits_some json (text_within counts (quoted_request fact.requestId)),
    fits_map json (uint64_within counts) _, fits_map json (uint32_within counts) _,
    fits_map json (positive_uint64_within counts) _,
    fits_nonempty json 4096 20 fact.jobIds.property.1 (uint64_within counts),
    fits_nonempty json 4096 10 fact.ranks.property.1 (uint32_within counts),
    fits_map json (fun kind => text_within counts (quoted_kind kind)) _,
    fits_map json (fun reason => text_within counts (quoted_requeue reason)) _⟩

def correlatedLimits : List Nat :=
  [46, 20, 34, 258, 20, 20, 20, 10, 34, 10, 9, 311298, 499714]

theorem correlated_within (record : CorrelatedFields) :
    List.Forall₂ (fun field limit => Fits json limit field.2) (correlatedTable record)
      correlatedLimits := by
  have counts := size_counts json
  simp only [correlatedTable, correlatedLimits, List.forall₂_cons, List.Forall₂.nil, and_true]
  exact ⟨fits_some json (text_within counts (by decide)),
    fits_some json (text_within counts (quoted_correlated_event record.event)),
    fits_some json (text_within counts (quoted_uuid record.schedulerGeneration)),
    fits_some json (text_within counts (quoted_request record.requestId)),
    fits_some json (positive_uint64_within counts record.recoveryEpoch),
    fits_some json (uint64_within counts record.observedAtNs),
    fits_map json (uint64_within counts) _, fits_map json (uint32_within counts) _,
    fits_map json (fun generation => text_within counts (quoted_uuid generation)) _,
    fits_map json (positive_uint32_within counts) _,
    fits_map json (fun kind => text_within counts (quoted_kind kind)) _,
    fits_nonempty json 4096 75 (workers_few record.workers) (size_worker json),
    size_roster json record.roster⟩

theorem record_within (record : EventRecord) :
    size json (EventRecord.toPayload record) ≤ 1000000 := by
  rw [record_table_written]
  cases record with
  | canonical record =>
      have costs : budget observationKeys observationLimits + 2 ≤ 1000000 := by decide +kernel
      exact (present_within_budget json (observation_within json _)).trans costs
  | hostFact fact =>
      have costs : budget hostFactKeys hostFactLimits + 2 ≤ 1000000 := by decide +kernel
      exact (present_within_budget json (host_fact_within json _)).trans costs
  | correlated record =>
      have costs : budget correlatedKeys correlatedLimits + 2 ≤ 1000000 := by decide +kernel
      exact (present_within_budget json (correlated_within json _)).trans costs

theorem encoded_length (record : EventRecord) :
    (encoded json record).length = size json (EventRecord.toPayload record) + 1 := by
  rw [encoded, encodeAscii, List.length_append, List.length_map, List.length_singleton, size]

end Compact

/-! ## Indented inventories -/

section Indented

variable (json : JsonModule)

/-- The length of the indented text at a level. -/
def extent (level : Nat) (value : Value) : Nat :=
  (IndentedJson.layout (scalarText json) level value).length

theorem extent_counts (level : Nat) : CountsScalars json (extent json level) := by
  intro scalar
  rw [extent, IndentedJson.layout]

theorem extent_object (level : Nat) (limits : List Nat) {entries : Fields}
    (each : List.Forall₂ (fun entry limit => extent json (level + 1) entry.2 ≤ limit)
      entries limits) :
    extent json level (.object entries) ≤
      budget (Json.keys entries) limits + limits.length * (2 * level + 4) + (2 * level + 3) := by
  have whole := IndentedJson.layout_object_length_le (scalarText json) level entries
  have inside := entries_within_budget (extent json (level + 1)) each
  rw [each.length_eq] at whole
  exact whole.trans (Nat.add_le_add_right (Nat.add_le_add_right inside _) _)

theorem extent_array (level limit count : Nat) {items : List Value} (few : items.length ≤ count)
    (each : ∀ item ∈ items, extent json (level + 1) item ≤ limit) :
    extent json level (.array items) ≤
      count * (limit + (2 * level + 4)) + (2 * level + 3) := by
  have bounded : ∀ length ∈ items.map (extent json (level + 1)), length ≤ limit := by
    rw [List.forall_mem_map]
    exact each
  have total := List.sum_le_card_nsmul _ limit bounded
  rw [List.length_map, smul_eq_mul] at total
  have more := Nat.mul_le_mul_right (limit + (2 * level + 4)) few
  have whole := IndentedJson.layout_array_length_le (scalarText json) level items
  rw [Nat.mul_add items.length] at more
  exact whole.trans (Nat.add_le_add_right ((Nat.add_le_add_right total _).trans more) _)

theorem extent_identity (identity : ObservationIdentity) :
    extent json 1 (ObservationIdentity.toPayload identity) ≤ 398 := by
  have costs : budget identityKeys identityLimits + identityLimits.length * 6 + 5 ≤ 398 := by
    decide +kernel
  exact (extent_object json 1 identityLimits
    (identity_within (extent_counts json 2) identity)).trans costs

def regionKeys : List String :=
  ["direction", "dst_region_id", "dst_offset", "size", "src_region_id", "src_offset"]

def regionLimits : List Nat := [5, 10, 20, 20, 10, 20]

theorem extent_region (region : DescriptorRegion) :
    extent json 2 (DescriptorRegion.toPayload region) ≤ 223 := by
  have counts := extent_counts json 3
  have costs : budget regionKeys regionLimits + regionLimits.length * 8 + 7 ≤ 223 := by
    decide +kernel
  refine (extent_object json 2 regionLimits ?_).trans costs
  exact .cons (text_within counts (quoted_direction region.direction))
    (.cons (uint32_within counts region.dstRegionId)
      (.cons (uint64_within counts region.dstOffset)
        (.cons (positive_uint64_within counts region.size)
          (.cons (uint32_within counts region.srcRegionId)
            (.cons (uint64_within counts region.srcOffset) .nil)))))

def inventoryKeys : List String :=
  ["descriptors", "direction", "evidence_label", "identity", "job_id", "observed_at_ns",
    "schema", "transfer_id"]

def inventoryLimits : List Nat := [937989, 5, 23, 398, 20, 20, 46, 57]

theorem inventory_within (inventory : DescriptorInventory) (label : EvidenceLabel) :
    extent json 0 (inventory.toPayload label) ≤ 940000 := by
  have counts := extent_counts json 1
  have regions : extent json 1 (.array (inventory.regions.map DescriptorRegion.toPayload)) ≤
      4096 * (223 + 6) + 5 := by
    apply extent_array json 1 223 4096
    · rw [List.length_map]
      exact inventory.bounded
    · rw [List.forall_mem_map]
      intro region _
      exact extent_region json region
  have costs : budget inventoryKeys inventoryLimits + inventoryLimits.length * 4 + 3 ≤ 940000 := by
    decide +kernel
  refine (extent_object json 0 inventoryLimits ?_).trans costs
  exact .cons regions
    (.cons (text_within counts (quoted_direction inventory.direction))
      (.cons (text_within counts (quoted_label label))
        (.cons (extent_identity json inventory.identity)
          (.cons (uint64_within counts inventory.jobId)
            (.cons (uint64_within counts inventory.observedAtNs)
              (.cons (text_within counts (by decide))
                (.cons (text_within counts (quoted_transfer inventory.transfer)) .nil)))))))

theorem inventory_encoded_length (inventory : DescriptorInventory) (label : EvidenceLabel) :
    (inventory.encoded json label).length = extent json 0 (inventory.toPayload label) + 1 := by
  rw [DescriptorInventory.encoded, encodeAscii, List.length_append, List.length_map,
    List.length_singleton, dumpsIndented, extent]

end Indented

end KVTransferObservability.EncodedSizes
