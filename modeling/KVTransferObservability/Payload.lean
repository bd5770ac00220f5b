import KVTransferObservability.Adapter
import KVTransferObservability.Library.Json
import Mathlib.Data.Rat.Defs

/-!
# Payloads of the three record types

`to_payload` of the canonical record, the host fact and the correlated record, and
the JSON values they are written as. Python compares numbers across types, so a
decoded payload can be equal to a written one without being the same; two
comparisons are kept apart here for that reason.
-/

namespace KVTransferObservability.Payload

open PythonValues Schema Observation HostFacts Correlated Adapter Library

set_option autoImplicit false

/-! ## Decoded JSON -/

/-- A float that JSON text can denote. An exponent may overflow to an infinity; NaN is
refused while decoding. -/
inductive JsonFloat
  | finite (value : Rat)
  | infinite (negative : Bool)
  deriving DecidableEq

inductive JsonScalar
  | null
  | bool (flag : Bool)
  | int (number : Int)
  | float (number : JsonFloat)
  | str (text : String)
  deriving DecidableEq

/-- What `json.loads` returns. -/
abbrev Value := Json JsonScalar

abbrev Fields := Json.Entries JsonScalar

def text (content : String) : Value := .scalar (.str content)

def natural (number : Nat) : Value := .scalar (.int number)

def JsonFloat.whole : JsonFloat → Option Int
  | .finite value => if value.den = 1 then some value.num else none
  | .infinite _ => none

/-- The integer a scalar is equal to in Python. -/
def JsonScalar.equalInteger : JsonScalar → Option Int
  | .int number => some number
  | .bool flag => some (if flag then 1 else 0)
  | .float number => number.whole
  | _ => none

/-- `left == right` in Python. -/
def JsonScalar.equal (left right : JsonScalar) : Bool :=
  match left.equalInteger, right.equalInteger with
  | some first, some second => first == second
  | none, none => decide (left = right)
  | _, _ => false

/-- `left == right` on decoded values. -/
def equal (left right : Value) : Bool := Json.agrees JsonScalar.equal left right

/-- Equality that tells booleans, integers and floats apart. -/
def same (left right : Value) : Bool :=
  Json.agrees (fun first second => decide (first = second)) left right

mutual

/-- A decoded value as an ordinary Python object. -/
def toPython : Value → PyObject
  | .scalar .null => .none
  | .scalar (.bool flag) => .bool flag
  | .scalar (.int number) => .int number
  | .scalar (.float number) => .float number.whole
  | .scalar (.str content) => .str content
  | .array items => .list (itemsToPython items)
  | .object entries => .dict (entriesToPython entries)

def itemsToPython : List Value → List PyObject
  | [] => []
  | item :: rest => toPython item :: itemsToPython rest

def entriesToPython : Fields → List (String × PyObject)
  | [] => []
  | (key, value) :: rest => (key, toPython value) :: entriesToPython rest

end

/-! ## What records are written as -/

def eventSchema : String := "vllm-hust.kv-transfer-event.v2"

def hostFactSchema : String := "vllm-hust.kv-transfer-host-fact.v1"

def hostFactScope : String := "host_reported_unjoined"

def correlatedSchema : String := "vllm-hust.kv-transfer-correlated-host.v2"

/-- `None` for an absent epoch, which is written as `null`. -/
def epochValue : Option (PositiveUint uint64Max) → Value
  | none => .scalar .null
  | some epoch => natural epoch.val

def ObservationIdentity.toPayload (identity : ObservationIdentity) : Value :=
  .object
    [("rank", natural identity.rank.val),
      ("recovery_epoch", epochValue identity.recoveryEpoch),
      ("request_id", text identity.requestId.val),
      ("worker_generation", natural identity.workerGeneration.val)]

/-- An array, left out when there is nothing in it. -/
def nonempty {Item : Type} (write : Item → Value) (items : List Item) : Option Value :=
  if items.isEmpty then none else some (.array (items.map write))

def observationTable (record : ObservationFields) : List (String × Option Value) :=
  [("schema", some (text eventSchema)),
    ("event", some (text record.event.value)),
    ("identity", some (ObservationIdentity.toPayload record.identity)),
    ("observed_at_ns", some (natural record.observedAtNs.val)),
    ("transfer_id", record.transfer.map fun transfer => text transfer.value),
    ("direction", record.direction.map fun direction => text direction.value),
    ("receipt_id", record.receipt.map fun receipt => text receipt.value),
    ("associated_transfer_ids",
      nonempty (fun transfer => text transfer.value) record.associatedTransfers.val),
    ("compute_kind", record.computeKind.map fun kind => text kind.value),
    ("requeue_reason", record.requeueReason.map fun reason => text reason.value),
    ("terminal_reason", record.terminalReason.map fun reason => text reason.value),
    ("bytes_moved", record.bytesMoved.map fun number => natural number.val),
    ("block_count", record.blockCount.map fun number => natural number.val),
    ("duration_ns", record.durationNs.map fun number => natural number.val),
    ("device_duration_ns", record.deviceDurationNs.map fun number => natural number.val)]

def KVTransferObservation.toPayload (record : KVTransferObservation) : Value :=
  .object (Json.present (observationTable record.toObservationFields))

def hostFactTable (fact : HostFactFields) : List (String × Option Value) :=
  [("schema", some (text hostFactSchema)),
    ("scope", some (text hostFactScope)),
    ("event", some (text fact.event.value)),
    ("process_uuid", some (text fact.processUuid.val)),
    ("observed_at_ns", some (natural fact.observedAtNs.val)),
    ("request_id", some (text fact.requestId.val)),
    ("job_id", fact.jobId.map fun number => natural number.val),
    ("rank", fact.rank.map fun number => natural number.val),
    ("recovery_epoch", fact.recoveryEpoch.map fun number => natural number.val),
    ("job_ids", nonempty (fun number => natural number.val) fact.jobIds.val),
    ("ranks", nonempty (fun number => natural number.val) fact.ranks.val),
    ("compute_kind", fact.computeKind.map fun kind => text kind.value),
    ("requeue_reason", fact.requeueReason.map fun reason => text reason.value)]

def HostFact.toPayload (fact : HostFact) : Value :=
  .object (Json.present (hostFactTable fact.toHostFactFields))

def WorkerReceipt.toPayload (worker : WorkerReceipt) : Value :=
  .object
    [("rank", natural worker.rank.val),
      ("worker_generation", text worker.workerGeneration.val)]

def JobReceipt.toPayload (job : JobReceipt) : Value :=
  .object
    [("job_id", natural job.jobId.val),
      ("workers", .array (job.workers.val.map WorkerReceipt.toPayload))]

def correlatedTable (record : CorrelatedFields) : List (String × Option Value) :=
  [("schema", some (text correlatedSchema)),
    ("event", some (text record.event.value)),
    ("scheduler_generation", some (text record.schedulerGeneration.val)),
    ("request_id", some (text record.requestId.val)),
    ("recovery_epoch", some (natural record.recoveryEpoch.val)),
    ("observed_at_ns", some (natural record.observedAtNs.val)),
    ("job_id", record.jobId.map fun number => natural number.val),
    ("rank", record.rank.map fun number => natural number.val),
    ("worker_generation", record.workerGeneration.map fun generation => text generation.val),
    ("block_count", record.blockCount.map fun number => natural number.val),
    ("compute_kind", record.computeKind.map fun kind => text kind.value),
    ("workers", nonempty WorkerReceipt.toPayload record.workers.val),
    ("roster", nonempty JobReceipt.toPayload record.roster.val)]

def CorrelatedHostObservation.toPayload (record : CorrelatedHostObservation) : Value :=
  .object (Json.present (correlatedTable record.toCorrelatedFields))

/-- `record.to_payload()` for a record of any of the three types. -/
def EventRecord.toPayload : EventRecord → Value
  | .canonical record => KVTransferObservation.toPayload record
  | .hostFact fact => HostFact.toPayload fact
  | .correlated record => CorrelatedHostObservation.toPayload record

/-! ## Payloads hold strings, integers and null only -/

/-- Neither a boolean nor a float. -/
def JsonScalar.Plain : JsonScalar → Prop
  | .bool _ => False
  | .float _ => False
  | _ => True

abbrev Plain (value : Value) : Prop := Json.Every JsonScalar.Plain value

theorem text_plain (content : String) : Plain (text content) := .scalar trivial

theorem natural_plain (number : Nat) : Plain (natural number) := .scalar trivial

/-- Without booleans and floats Python's equality is the strict one. -/
theorem equal_of_plain (left right : JsonScalar) (plainLeft : left.Plain)
    (plainRight : right.Plain) (agree : left.equal right = true) :
    decide (left = right) = true := by
  cases left <;> cases right <;>
    simp_all [JsonScalar.Plain, JsonScalar.equal, JsonScalar.equalInteger]

theorem same_of_equal {left right : Value} (plainLeft : Plain left) (plainRight : Plain right)
    (agree : equal left right = true) : same left right = true :=
  Json.agrees_of_every equal_of_plain plainLeft plainRight agree

theorem equal_of_same {left right : Value} (agree : same left right = true) :
    equal left right = true := by
  apply Json.agrees_mono _ agree
  intro first second identical
  have one := of_decide_eq_true identical
  subst one
  unfold JsonScalar.equal
  cases first.equalInteger with
  | none => simp
  | some number => simp

theorem same_refl {value : Value} (unique : value.UniqueKeys) : same value value = true := by
  apply Json.agrees_refl _ unique
  intro scalar
  exact decide_eq_true rfl

/-- What the writers build: no repeated keys, no booleans and no floats. -/
structure Written (value : Value) : Prop where
  plain : Plain value
  unique : value.UniqueKeys

theorem written_text (content : String) : Written (text content) :=
  ⟨text_plain content, .scalar _⟩

theorem written_natural (number : Nat) : Written (natural number) :=
  ⟨natural_plain number, .scalar _⟩

theorem written_array {items : List Value} (each : ∀ item ∈ items, Written item) :
    Written (.array items) :=
  ⟨.array fun item member => (each item member).plain,
    .array fun item member => (each item member).unique⟩

theorem written_object {entries : Fields} (distinct : (Json.keys entries).Nodup)
    (each : ∀ entry ∈ entries, Written entry.2) : Written (.object entries) :=
  ⟨.object fun entry member => (each entry member).plain,
    .object distinct fun entry member => (each entry member).unique⟩

theorem written_present {table : List (String × Option Value)}
    (distinct : (table.map Prod.fst).Nodup)
    (each : ∀ field ∈ table, ∀ value ∈ field.2, Written value) :
    Written (.object (Json.present table)) :=
  ⟨Json.every_present fun field member value filled => (each field member value filled).plain,
    Json.unique_keys_present distinct
      fun field member value filled => (each field member value filled).unique⟩

/-- The value of a field of a record; an absent one is left out instead. -/
structure Filled (value : Value) : Prop where
  written : Written value
  notNull : value ≠ .scalar .null

theorem filled_text (content : String) : Filled (text content) :=
  ⟨written_text content, by simp [text]⟩

theorem filled_natural (number : Nat) : Filled (natural number) :=
  ⟨written_natural number, by simp [natural]⟩

theorem filled_array {items : List Value} (written : Written (.array items)) :
    Filled (.array items) :=
  ⟨written, by simp⟩

theorem filled_object {entries : Fields} (written : Written (.object entries)) :
    Filled (.object entries) :=
  ⟨written, by simp⟩

theorem filled_some {value : Value} (filled : Filled value) :
    ∀ content ∈ some value, Filled content := by
  intro content present
  cases present
  exact filled

theorem filled_map {Item : Type} {write : Item → Value} (writes : ∀ item, Filled (write item))
    (content : Option Item) : ∀ value ∈ content.map write, Filled value := by
  intro value present
  obtain ⟨item, _, rfl⟩ := Option.map_eq_some_iff.mp present
  exact writes item

theorem filled_nonempty {Item : Type} {write : Item → Value}
    (writes : ∀ item, Written (write item)) (items : List Item) :
    ∀ value ∈ nonempty write items, Filled value := by
  intro value present
  unfold nonempty at present
  split at present
  · cases present
  · cases present
    apply filled_array
    apply written_array
    intro item member
    obtain ⟨content, _, rfl⟩ := List.mem_map.mp member
    exact writes content

theorem written_identity (identity : ObservationIdentity) :
    Written (ObservationIdentity.toPayload identity) := by
  apply written_object
  · simp [Json.keys]
  · simp only [List.forall_mem_cons, List.not_mem_nil, false_implies, implies_true, and_true]
    refine ⟨written_natural _, ?_, written_text _, written_natural _⟩
    cases identity.recoveryEpoch with
    | none => exact ⟨.scalar trivial, .scalar _⟩
    | some epoch => exact written_natural _

theorem written_worker (worker : WorkerReceipt) : Written (WorkerReceipt.toPayload worker) := by
  apply written_object
  · simp [Json.keys]
  · simp only [List.forall_mem_cons, List.not_mem_nil, false_implies, implies_true, and_true]
    exact ⟨written_natural _, written_text _⟩

theorem written_job (job : JobReceipt) : Written (JobReceipt.toPayload job) := by
  apply written_object
  · simp [Json.keys]
  · simp only [List.forall_mem_cons, List.not_mem_nil, false_implies, implies_true, and_true]
    refine ⟨written_natural _, ?_⟩
    apply written_array
    intro item member
    obtain ⟨worker, _, rfl⟩ := List.mem_map.mp member
    exact written_worker worker

def observationKeys : List String :=
  ["schema", "event", "identity", "observed_at_ns", "transfer_id", "direction", "receipt_id",
    "associated_transfer_ids", "compute_kind", "requeue_reason", "terminal_reason",
    "bytes_moved", "block_count", "duration_ns", "device_duration_ns"]

theorem observation_table_keys (record : ObservationFields) :
    (observationTable record).map Prod.fst = observationKeys := rfl

theorem observation_table_filled (record : ObservationFields) :
    ∀ field ∈ observationTable record, ∀ value ∈ field.2, Filled value := by
  simp only [observationTable, List.forall_mem_cons, List.not_mem_nil, false_implies,
    implies_true, and_true]
  exact ⟨filled_some (filled_text _), filled_some (filled_text _),
      filled_some (filled_object (written_identity _)), filled_some (filled_natural _),
      filled_map (fun _ => filled_text _) _, filled_map (fun _ => filled_text _) _,
      filled_map (fun _ => filled_text _) _, filled_nonempty (fun _ => written_text _) _,
      filled_map (fun _ => filled_text _) _, filled_map (fun _ => filled_text _) _,
      filled_map (fun _ => filled_text _) _, filled_map (fun _ => filled_natural _) _,
      filled_map (fun _ => filled_natural _) _, filled_map (fun _ => filled_natural _) _,
      filled_map (fun _ => filled_natural _) _⟩

def hostFactKeys : List String :=
  ["schema", "scope", "event", "process_uuid", "observed_at_ns", "request_id", "job_id", "rank",
    "recovery_epoch", "job_ids", "ranks", "compute_kind", "requeue_reason"]

theorem host_fact_table_keys (fact : HostFactFields) :
    (hostFactTable fact).map Prod.fst = hostFactKeys := rfl

theorem host_fact_table_filled (fact : HostFactFields) :
    ∀ field ∈ hostFactTable fact, ∀ value ∈ field.2, Filled value := by
  simp only [hostFactTable, List.forall_mem_cons, List.not_mem_nil, false_implies,
    implies_true, and_true]
  exact ⟨filled_some (filled_text _), filled_some (filled_text _),
      filled_some (filled_text _), filled_some (filled_text _),
      filled_some (filled_natural _), filled_some (filled_text _),
      filled_map (fun _ => filled_natural _) _, filled_map (fun _ => filled_natural _) _,
      filled_map (fun _ => filled_natural _) _, filled_nonempty (fun _ => written_natural _) _,
      filled_nonempty (fun _ => written_natural _) _, filled_map (fun _ => filled_text _) _,
      filled_map (fun _ => filled_text _) _⟩

def correlatedKeys : List String :=
  ["schema", "event", "scheduler_generation", "request_id", "recovery_epoch", "observed_at_ns",
    "job_id", "rank", "worker_generation", "block_count", "compute_kind", "workers", "roster"]

theorem correlated_table_keys (record : CorrelatedFields) :
    (correlatedTable record).map Prod.fst = correlatedKeys := rfl

theorem correlated_table_filled (record : CorrelatedFields) :
    ∀ field ∈ correlatedTable record, ∀ value ∈ field.2, Filled value := by
  simp only [correlatedTable, List.forall_mem_cons, List.not_mem_nil, false_implies,
    implies_true, and_true]
  exact ⟨filled_some (filled_text _), filled_some (filled_text _),
      filled_some (filled_text _), filled_some (filled_text _),
      filled_some (filled_natural _), filled_some (filled_natural _),
      filled_map (fun _ => filled_natural _) _, filled_map (fun _ => filled_natural _) _,
      filled_map (fun _ => filled_text _) _, filled_map (fun _ => filled_natural _) _,
      filled_map (fun _ => filled_text _) _, filled_nonempty written_worker _,
      filled_nonempty written_job _⟩

/-- The fields of a record, whichever type it has. -/
def recordTable : EventRecord → List (String × Option Value)
  | .canonical record => observationTable record.toObservationFields
  | .hostFact fact => hostFactTable fact.toHostFactFields
  | .correlated record => correlatedTable record.toCorrelatedFields

theorem record_table_written (record : EventRecord) :
    EventRecord.toPayload record = .object (Json.present (recordTable record)) := by
  cases record <;> rfl

theorem record_table_filled (record : EventRecord) :
    ∀ field ∈ recordTable record, ∀ value ∈ field.2, Filled value := by
  cases record with
  | canonical record => exact observation_table_filled record.toObservationFields
  | hostFact fact => exact host_fact_table_filled fact.toHostFactFields
  | correlated record => exact correlated_table_filled record.toCorrelatedFields

theorem record_table_distinct (record : EventRecord) :
    ((recordTable record).map Prod.fst).Nodup := by
  cases record with
  | canonical record =>
      rw [recordTable, observation_table_keys]
      decide
  | hostFact fact =>
      rw [recordTable, host_fact_table_keys]
      decide
  | correlated record =>
      rw [recordTable, correlated_table_keys]
      decide

theorem written_record (record : EventRecord) : Written (EventRecord.toPayload record) := by
  rw [record_table_written]
  apply written_present (record_table_distinct record)
  intro field member value present
  exact (record_table_filled record field member value present).written

end KVTransferObservability.Payload
