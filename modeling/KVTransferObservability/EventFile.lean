import KVTransferObservability.RecordText

/-!
# Reading an event file

`read_events`: bounded lines, blank ones skipped, each decoded and dispatched on its
schema. A file that consists of whole lines is read line by line.
-/

namespace KVTransferObservability.EventFile

open PythonValues Adapter Payload EventSink EventReaders RecordText DecodingRules Library

set_option autoImplicit false

def maxRecordBytes : Nat := 1024 * 1024
def maxArtifactBytes : Nat := 64 * 1024 * 1024
def maxRecords : Nat := 100000

/-! ## Decoding a line -/

/-- The body of the loop of `_unique_object`. -/
def addPair (obj : Fields) (pair : String × Value) : Py Fields := do
  raiseIf ((Json.keys obj).contains pair.1) "duplicate JSON key"
  .ok (obj ++ [pair])

def uniqueObject (pairs : Fields) : Py Fields := pairs.foldlM addPair []

mutual

/-- `json.loads` calls its `object_pairs_hook` on every object, an inner one first. -/
def hooked : Value → Py Value
  | .scalar value => .ok (.scalar value)
  | .array items => do .ok (.array (← hookedItems items))
  | .object pairs => do
      let values ← hookedPairs pairs
      let obj ← uniqueObject values
      .ok (.object obj)

def hookedItems : List Value → Py (List Value)
  | [] => .ok []
  | item :: rest => do
      let value ← hooked item
      .ok (value :: (← hookedItems rest))

def hookedPairs : Fields → Py Fields
  | [] => .ok []
  | (key, item) :: rest => do
      let value ← hooked item
      .ok ((key, value) :: (← hookedPairs rest))

end

/-- `_decode`. -/
def decode (json : JsonModule) (line : Bytes) : Py Value := do
  hooked (← json.loads line)

theorem add_pairs_iff (pairs obj result : Fields) (distinct : (Json.keys obj).Nodup) :
    pairs.foldlM addPair obj = .ok result ↔
      result = obj ++ pairs ∧ (Json.keys (obj ++ pairs)).Nodup := by
  induction pairs generalizing obj with
  | nil =>
      rw [List.append_nil, List.foldlM_nil]
      constructor
      · intro read
        cases read
        exact ⟨rfl, distinct⟩
      · rintro ⟨rfl, _⟩
        rfl
  | cons pair pairs induction =>
      have split : obj ++ pair :: pairs = (obj ++ [pair]) ++ pairs := by simp
      by_cases repeated : pair.1 ∈ Json.keys obj
      · have fails : addPair obj pair = .error (.valueError "duplicate JSON key") := by
          simp [addPair, raiseIf, repeated, bind, Except.bind]
        rw [List.foldlM_cons, fails]
        constructor
        · intro read
          cases read
        · rintro ⟨_, unique⟩
          simp only [Json.keys, List.map_append, List.map_cons, List.nodup_append] at unique
          exact absurd rfl (unique.2.2 _ repeated _ List.mem_cons_self)
      · have adds : addPair obj pair = .ok (obj ++ [pair]) := by
          simp [addPair, raiseIf, repeated, bind, Except.bind]
        have extended : (Json.keys (obj ++ [pair])).Nodup := by
          rw [Json.keys, List.map_append, List.nodup_append]
          refine ⟨distinct, List.nodup_singleton _, ?_⟩
          intro key member other last same
          rw [List.map_singleton, List.mem_singleton] at last
          exact repeated (last ▸ same ▸ member)
        rw [List.foldlM_cons, adds, split]
        exact induction (obj ++ [pair]) extended

theorem unique_object_iff (pairs result : Fields) :
    uniqueObject pairs = .ok result ↔ result = pairs ∧ (Json.keys pairs).Nodup :=
  add_pairs_iff pairs [] result List.nodup_nil

mutual

/-- The hook changes nothing, and refuses a repeated key at any depth. -/
theorem hooked_iff : ∀ value result : Value,
    hooked value = .ok result ↔ result = value ∧ value.UniqueKeys
  | .scalar value, result => by
      rw [hooked]
      constructor
      · intro read
        cases read
        exact ⟨rfl, .scalar value⟩
      · rintro ⟨rfl, _⟩
        rfl
  | .array items, result => by
      rw [hooked, bind_eq_ok]
      constructor
      · rintro ⟨values, read, done⟩
        obtain ⟨rfl, each⟩ := (hooked_items_iff items values).mp read
        cases done
        exact ⟨rfl, .array each⟩
      · rintro ⟨rfl, unique⟩
        cases unique with
        | array each => exact ⟨items, (hooked_items_iff items items).mpr ⟨rfl, each⟩, rfl⟩
  | .object pairs, result => by
      rw [hooked, bind_eq_ok]
      constructor
      · rintro ⟨values, read, rest⟩
        obtain ⟨rfl, each⟩ := (hooked_pairs_iff pairs values).mp read
        obtain ⟨obj, checked, done⟩ := bind_eq_ok.mp rest
        obtain ⟨rfl, distinct⟩ := (unique_object_iff _ obj).mp checked
        cases done
        exact ⟨rfl, .object distinct each⟩
      · rintro ⟨rfl, unique⟩
        cases unique with
        | object distinct each =>
            refine ⟨pairs, (hooked_pairs_iff pairs pairs).mpr ⟨rfl, each⟩, ?_⟩
            exact bind_eq_ok.mpr ⟨pairs, (unique_object_iff pairs pairs).mpr ⟨rfl, distinct⟩, rfl⟩

theorem hooked_items_iff : ∀ items result : List Value,
    hookedItems items = .ok result ↔ result = items ∧ ∀ item ∈ items, item.UniqueKeys
  | [], result => by
      rw [hookedItems]
      constructor
      · intro read
        cases read
        exact ⟨rfl, fun _ member => by cases member⟩
      · rintro ⟨rfl, _⟩
        rfl
  | item :: rest, result => by
      rw [hookedItems, bind_eq_ok, List.forall_mem_cons]
      constructor
      · rintro ⟨value, read, others⟩
        obtain ⟨rfl, first⟩ := (hooked_iff item value).mp read
        obtain ⟨values, readRest, done⟩ := bind_eq_ok.mp others
        obtain ⟨rfl, each⟩ := (hooked_items_iff rest values).mp readRest
        cases done
        exact ⟨rfl, first, each⟩
      · rintro ⟨rfl, first, each⟩
        refine ⟨item, (hooked_iff item item).mpr ⟨rfl, first⟩, ?_⟩
        exact bind_eq_ok.mpr ⟨rest, (hooked_items_iff rest rest).mpr ⟨rfl, each⟩, rfl⟩

theorem hooked_pairs_iff : ∀ pairs result : Fields,
    hookedPairs pairs = .ok result ↔ result = pairs ∧ ∀ pair ∈ pairs, pair.2.UniqueKeys
  | [], result => by
      rw [hookedPairs]
      constructor
      · intro read
        cases read
        exact ⟨rfl, fun _ member => by cases member⟩
      · rintro ⟨rfl, _⟩
        rfl
  | (key, item) :: rest, result => by
      rw [hookedPairs, bind_eq_ok, List.forall_mem_cons]
      constructor
      · rintro ⟨value, read, others⟩
        obtain ⟨rfl, first⟩ := (hooked_iff item value).mp read
        obtain ⟨values, readRest, done⟩ := bind_eq_ok.mp others
        obtain ⟨rfl, each⟩ := (hooked_pairs_iff rest values).mp readRest
        cases done
        exact ⟨rfl, first, each⟩
      · rintro ⟨rfl, first, each⟩
        refine ⟨item, (hooked_iff item item).mpr ⟨rfl, first⟩, ?_⟩
        exact bind_eq_ok.mpr ⟨rest, (hooked_pairs_iff rest rest).mpr ⟨rfl, each⟩, rfl⟩

end

theorem unique_object_errors (pairs : Fields) : OnlyValueErrors (uniqueObject pairs) := by
  apply OnlyValueErrors.foldlM
  intro obj pair
  apply OnlyValueErrors.bind (OnlyValueErrors.raiseIf _ _)
  intro _
  exact OnlyValueErrors.ok _

mutual

theorem hooked_errors : ∀ value : Value, OnlyValueErrors (hooked value)
  | .scalar value => by
      rw [hooked]
      exact OnlyValueErrors.ok _
  | .array items => by
      rw [hooked]
      apply OnlyValueErrors.bind (hooked_items_errors items)
      intro _
      exact OnlyValueErrors.ok _
  | .object pairs => by
      rw [hooked]
      apply OnlyValueErrors.bind (hooked_pairs_errors pairs)
      intro values
      apply OnlyValueErrors.bind (unique_object_errors values)
      intro _
      exact OnlyValueErrors.ok _

theorem hooked_items_errors : ∀ items : List Value, OnlyValueErrors (hookedItems items)
  | [] => by
      rw [hookedItems]
      exact OnlyValueErrors.ok _
  | item :: rest => by
      rw [hookedItems]
      apply OnlyValueErrors.bind (hooked_errors item)
      intro _
      apply OnlyValueErrors.bind (hooked_items_errors rest)
      intro _
      exact OnlyValueErrors.ok _

theorem hooked_pairs_errors : ∀ pairs : Fields, OnlyValueErrors (hookedPairs pairs)
  | [] => by
      rw [hookedPairs]
      exact OnlyValueErrors.ok _
  | (key, item) :: rest => by
      rw [hookedPairs]
      apply OnlyValueErrors.bind (hooked_errors item)
      intro _
      apply OnlyValueErrors.bind (hooked_pairs_errors rest)
      intro _
      exact OnlyValueErrors.ok _

end

/-- What `_decode` returns has no repeated key. -/
theorem decode_unique {json : JsonModule} {line : Bytes} {payload : Value}
    (read : decode json line = .ok payload) : payload.UniqueKeys := by
  obtain ⟨parsed, _, checked⟩ := bind_eq_ok.mp read
  obtain ⟨rfl, unique⟩ := (hooked_iff parsed payload).mp checked
  exact unique

/-! ## Lines of a file -/

/-- `stream.readline(limit)`, with what is left of the stream. -/
def readline : Nat → Bytes → Bytes × Bytes
  | _, [] => ([], [])
  | 0, stream => ([], stream)
  | limit + 1, byte :: rest =>
      if byte = newline then ([byte], rest)
      else (byte :: (readline limit rest).1, (readline limit rest).2)

/-- The lines that `readline` returns until it returns none; each takes a byte at
least, so the length of the stream is fuel enough. -/
def linesOf : Nat → Bytes → List Bytes
  | 0, _ => []
  | fuel + 1, stream =>
      let line := readline (maxRecordBytes + 1) stream
      if line.1 = [] then [] else line.1 :: linesOf fuel line.2

def lines (file : Bytes) : List Bytes := linesOf file.length file

/-- The body of the loop, over `total` and `records`. -/
def readLine (json : JsonModule) (state : Nat × List EventRecord) (line : Bytes) :
    Py (Nat × List EventRecord) := do
  let total := state.1 + line.length
  raiseIf (maxRecordBytes < line.length || maxArtifactBytes < total)
    "event artifact exceeds the byte limit"
  if line.all isSpace then .ok (total, state.2)
  else do
    raiseIf (maxRecords ≤ state.2.length) "event artifact exceeds the record limit"
    let payload ← decode json line
    let record ← recordFromPayload json.interpreter payload
    .ok (total, state.2 ++ [record])

def readEvents (json : JsonModule) (file : Bytes) : Py (List EventRecord) := do
  let state ← (lines file).foldlM (readLine json) (0, [])
  raiseIf state.2.isEmpty "no events recorded"
  .ok state.2

/-- None of the three limits is exceeded. -/
structure WithinLimits (file : Bytes) : Prop where
  records : ∀ line ∈ lines file, line.length ≤ maxRecordBytes
  artifact : file.length ≤ maxArtifactBytes
  count : ((lines file).filter fun line => !line.all isSpace).length ≤ maxRecords

/-! ## Lines -/

theorem readline_line (body rest : Bytes) (limit : Nat) (whole : newline ∉ body)
    (fits : body.length + 1 ≤ limit) :
    readline limit (body ++ newline :: rest) = (body ++ [newline], rest) := by
  induction body generalizing limit with
  | nil =>
      cases limit with
      | zero => cases fits
      | succ limit => simp [readline]
  | cons byte body induction =>
      have different : byte ≠ newline := fun same => whole (same ▸ List.mem_cons_self)
      cases limit with
      | zero => cases fits
      | succ limit =>
          have tail := induction limit (fun member => whole (List.mem_cons_of_mem byte member))
            (Nat.le_of_succ_le_succ fits)
          rw [List.cons_append, readline, if_neg different, tail]
          rfl

theorem readline_unbroken (stream : Bytes) (limit : Nat) (unbroken : newline ∉ stream) :
    readline limit stream = (stream.take limit, stream.drop limit) := by
  induction stream generalizing limit with
  | nil => cases limit <;> rfl
  | cons byte rest induction =>
      cases limit with
      | zero => rfl
      | succ limit =>
          have different : byte ≠ newline := fun same => unbroken (same ▸ List.mem_cons_self)
          have tail := induction limit fun member => unbroken (List.mem_cons_of_mem byte member)
          rw [readline, if_neg different, tail]
          rfl

theorem line_nonempty {line : Bytes} (isLine : IsLine line) : line ≠ [] := by
  obtain ⟨body, rfl, _⟩ := isLine.shape
  simp

theorem lines_of_flatten (whole : List Bytes) (each : ∀ line ∈ whole, IsLine line)
    (short : ∀ line ∈ whole, line.length ≤ maxRecordBytes) (fuel : Nat)
    (enough : whole.length ≤ fuel) : linesOf fuel whole.flatten = whole := by
  induction whole generalizing fuel with
  | nil => cases fuel <;> rfl
  | cons line rest induction =>
      obtain ⟨firstLine, otherLines⟩ := List.forall_mem_cons.mp each
      obtain ⟨firstShort, othersShort⟩ := List.forall_mem_cons.mp short
      have nonempty := line_nonempty firstLine
      obtain ⟨body, rfl, unbroken⟩ := firstLine.shape
      rw [List.length_append, List.length_singleton] at firstShort
      cases fuel with
      | zero => cases enough
      | succ fuel =>
          have stream : ((body ++ [newline]) :: rest).flatten = body ++ newline :: rest.flatten := by
            simp
          have read := readline_line body rest.flatten (maxRecordBytes + 1) unbroken (by omega)
          have tail := induction otherLines othersShort fuel (Nat.le_of_succ_le_succ enough)
          simp only [linesOf, stream, read, if_neg nonempty, tail]

theorem lines_le_bytes (whole : List Bytes) (each : ∀ line ∈ whole, line ≠ []) :
    whole.length ≤ whole.flatten.length := by
  induction whole with
  | nil => exact Nat.le_refl 0
  | cons line rest induction =>
      obtain ⟨first, others⟩ := List.forall_mem_cons.mp each
      have tail := induction others
      have positive := List.length_pos_iff.mpr first
      rw [List.flatten_cons, List.length_append, List.length_cons]
      omega

/-- A file of whole lines is read line by line. -/
theorem lines_of_whole (whole : List Bytes) (each : ∀ line ∈ whole, IsLine line)
    (short : ∀ line ∈ whole, line.length ≤ maxRecordBytes) : lines whole.flatten = whole :=
  lines_of_flatten whole each short _
    (lines_le_bytes whole fun line member => line_nonempty (each line member))

/-! ## Records -/

/-- `json.loads` undoes `json.dumps` on the record's payload, up to the order of the
keys. -/
def Inverse (json : JsonModule) (record : EventRecord) : Prop :=
  ∃ payload, json.loads (encoded json record) = .ok payload ∧ payload.UniqueKeys ∧
    same (EventRecord.toPayload record) payload = true

theorem decode_inverse {json : JsonModule} {record : EventRecord}
    (inverse : Inverse json record) :
    ∃ payload, decode json (encoded json record) = .ok payload ∧
      same (EventRecord.toPayload record) payload = true := by
  obtain ⟨payload, parsed, unique, agree⟩ := inverse
  refine ⟨payload, ?_, agree⟩
  exact bind_eq_ok.mpr ⟨payload, parsed, (hooked_iff payload payload).mpr ⟨rfl, unique⟩⟩

theorem read_line_record (json : JsonModule) (record : EventRecord) (inverse : Inverse json record)
    (total : Nat) (before : List EventRecord)
    (short : (encoded json record).length ≤ maxRecordBytes)
    (fits : total + (encoded json record).length ≤ maxArtifactBytes) :
    readLine json (total, before) (encoded json record) =
      if maxRecords ≤ before.length then
        .error (.valueError "event artifact exceeds the record limit")
      else .ok (total + (encoded json record).length, before ++ [record]) := by
  obtain ⟨payload, decoded, agree⟩ := decode_inverse inverse
  have read : recordFromPayload json.interpreter payload = .ok record :=
    (record_from_payload_iff payload (decode_unique decoded) record).mpr agree
  have within : (decide (maxRecordBytes < (encoded json record).length) ||
      decide (maxArtifactBytes < total + (encoded json record).length)) = false := by
    rw [Bool.or_eq_false_iff, decide_eq_false_iff_not, decide_eq_false_iff_not]
    exact ⟨Nat.not_lt.mpr short, Nat.not_lt.mpr fits⟩
  unfold readLine
  simp only [within, raiseIf, encoded_not_blank, decoded, read, bind, Except.bind,
    Bool.false_eq_true, if_false, decide_eq_true_eq]
  split
  · rename_i result full
    split at full
    · cases full
      rw [if_pos]
      assumption
    · cases full
  · rename_i result room
    split at room
    · cases room
    · rw [if_neg]
      assumption

/-- The lines of records are read back in order, up to the limit on their number. -/
theorem read_record_lines (json : JsonModule) (records before : List EventRecord) (total : Nat)
    (inverse : ∀ record ∈ records, Inverse json record)
    (short : ∀ record ∈ records, (encoded json record).length ≤ maxRecordBytes)
    (fits : total + ((records.map (encoded json)).map List.length).sum ≤ maxArtifactBytes)
    (room : before.length ≤ maxRecords) :
    (records.map (encoded json)).foldlM (readLine json) (total, before) =
      if before.length + records.length ≤ maxRecords then
        .ok (total + ((records.map (encoded json)).map List.length).sum, before ++ records)
      else .error (.valueError "event artifact exceeds the record limit") := by
  induction records generalizing before total with
  | nil =>
      rw [if_pos (by simpa using room), List.append_nil]
      rfl
  | cons record records induction =>
      obtain ⟨inverseFirst, inverseOthers⟩ := List.forall_mem_cons.mp inverse
      obtain ⟨shortFirst, shortOthers⟩ := List.forall_mem_cons.mp short
      simp only [List.map_cons, List.sum_cons] at fits ⊢
      have first := read_line_record json record inverseFirst total before shortFirst (by omega)
      rw [List.foldlM_cons, first]
      by_cases full : maxRecords ≤ before.length
      · rw [if_pos full, if_neg (by rw [List.length_cons]; omega)]
        rfl
      · rw [if_neg full]
        have tail := induction (before ++ [record]) (total + (encoded json record).length)
          inverseOthers shortOthers (by omega) (by
            rw [List.length_append, List.length_singleton]
            omega)
        simp only [List.length_append, List.length_singleton, List.append_assoc,
          List.singleton_append] at tail
        change List.foldlM _ _ _ = _
        rw [tail, List.length_cons, Nat.add_assoc, Nat.add_assoc, Nat.add_comm 1]

end KVTransferObservability.EventFile
