import KVTransferObservability.EventFile

/-!
# What a file of events holds

`read_events` returns the records of the lines that are not blank, one for each, exactly
if the file is within its limits and has one. A file that ends at a line boundary can be
read together with what follows it, or alone.
-/

namespace KVTransferObservability.EventLines

open PythonValues Adapter Payload EventSink EventReaders RecordText EventFile Library

set_option autoImplicit false

/-- The lines that count as records. -/
def counted (file : Bytes) : List Bytes := (lines file).filter fun line => !line.all isSpace

/-- The line is the payload of the record, as JSON. -/
def Holds (json : JsonModule) (line : Bytes) (record : EventRecord) : Prop :=
  ∃ payload, decode json line = .ok payload ∧ same (EventRecord.toPayload record) payload = true

structure Reads (json : JsonModule) (file : Bytes) (records : List EventRecord) : Prop where
  limits : WithinLimits file
  present : records ≠ []
  each : List.Forall₂ (Holds json) (counted file) records

section Acceptance

variable (json : JsonModule)

theorem holds_iff (line : Bytes) (record : EventRecord) :
    (decode json line >>= recordFromPayload json.interpreter) = .ok record ↔ Holds json line record := by
  rw [bind_eq_ok]
  constructor
  · intro accepted
    obtain ⟨payload, decoded, read⟩ := accepted
    exact ⟨payload, decoded,
      (record_from_payload_iff payload (decode_unique decoded) record).mp read⟩
  · intro holds
    obtain ⟨payload, decoded, agree⟩ := holds
    exact ⟨payload, decoded,
      (record_from_payload_iff payload (decode_unique decoded) record).mpr agree⟩

/-- What is read of the lines after some records. -/
def After (total : Nat) (before : List EventRecord) (rest : List Bytes)
    (state : Nat × List EventRecord) : Prop :=
  (∀ line ∈ rest, line.length ≤ maxRecordBytes) ∧
  total + (rest.map List.length).sum ≤ maxArtifactBytes ∧
  before.length + (rest.filter fun line => !line.all isSpace).length ≤ maxRecords ∧
  ∃ records, List.Forall₂ (Holds json) (rest.filter fun line => !line.all isSpace) records ∧
    state = (total + (rest.map List.length).sum, before ++ records)

theorem read_line_blank (total : Nat) (before : List EventRecord) (line : Bytes)
    (blank : line.all isSpace = true) (next : Nat × List EventRecord) :
    readLine json (total, before) line = .ok next ↔
      (line.length ≤ maxRecordBytes ∧ total + line.length ≤ maxArtifactBytes) ∧
        next = (total + line.length, before) := by
  rw [readLine, raise_if_bind_ok, if_pos blank]
  apply and_congr
  · simp only [Bool.or_eq_false_iff, decide_eq_false_iff_not, Nat.not_lt]
  · constructor
    · intro same
      exact (Except.ok.inj same).symm
    · intro same
      rw [same]

theorem read_line_counted (total : Nat) (before : List EventRecord) (line : Bytes)
    (filled : line.all isSpace = false) (next : Nat × List EventRecord) :
    readLine json (total, before) line = .ok next ↔
      (line.length ≤ maxRecordBytes ∧ total + line.length ≤ maxArtifactBytes) ∧
        before.length < maxRecords ∧
        ∃ record, Holds json line record ∧
          next = (total + line.length, before ++ [record]) := by
  rw [readLine, raise_if_bind_ok, if_neg (ne_true_of_eq_false filled)]
  apply and_congr
  · simp only [Bool.or_eq_false_iff, decide_eq_false_iff_not, Nat.not_lt]
  · rw [raise_if_bind_ok, decide_eq_false_iff_not, Nat.not_le]
    apply and_congr_right
    intro _
    constructor
    · intro read
      obtain ⟨payload, decoded, read⟩ := bind_eq_ok.mp read
      obtain ⟨record, accepted, same⟩ := bind_eq_ok.mp read
      exact ⟨record, (holds_iff json line record).mp (bind_eq_ok.mpr ⟨payload, decoded, accepted⟩),
        (Except.ok.inj same).symm⟩
    · intro read
      obtain ⟨record, holds, same⟩ := read
      obtain ⟨payload, decoded, accepted⟩ := bind_eq_ok.mp ((holds_iff json line record).mpr holds)
      refine bind_eq_ok.mpr ⟨payload, decoded, bind_eq_ok.mpr ⟨record, accepted, ?_⟩⟩
      rw [same]

/-- The loop, by induction on the lines that are left. -/
theorem read_lines_iff (rest : List Bytes) (total : Nat) (before : List EventRecord)
    (room : total ≤ maxArtifactBytes) (few : before.length ≤ maxRecords)
    (state : Nat × List EventRecord) :
    rest.foldlM (readLine json) (total, before) = .ok state ↔ After json total before rest state := by
  induction rest generalizing total before with
  | nil =>
      constructor
      · intro same
        refine ⟨nofun, room, few, [], .nil, ?_⟩
        rw [List.append_nil]
        exact (Except.ok.inj same).symm
      · intro after
        obtain ⟨_, _, _, records, each, same⟩ := after
        cases each
        rw [same, List.append_nil]
        rfl
  | cons line rest induction =>
      rw [List.foldlM_cons, bind_eq_ok]
      unfold After
      cases blank : line.all isSpace with
      | true =>
          simp only [List.filter_cons, blank, Bool.not_true, Bool.false_eq_true, if_false,
            List.map_cons, List.sum_cons, List.forall_mem_cons]
          constructor
          · intro read
            obtain ⟨next, first, others⟩ := read
            obtain ⟨⟨short, fits⟩, same⟩ := (read_line_blank json total before line blank next).mp first
            subst same
            obtain ⟨shorts, all, count, records, each, same⟩ :=
              (induction (total + line.length) before fits few).mp others
            exact ⟨⟨short, shorts⟩, by omega, count, records, each, by rw [same, Nat.add_assoc]⟩
          · intro after
            obtain ⟨⟨short, shorts⟩, all, count, records, each, same⟩ := after
            have fits : total + line.length ≤ maxArtifactBytes := by omega
            refine ⟨_, (read_line_blank json total before line blank _).mpr ⟨⟨short, fits⟩, rfl⟩, ?_⟩
            refine (induction (total + line.length) before fits few).mpr
              ⟨shorts, by omega, count, records, each, ?_⟩
            rw [same, Nat.add_assoc]
      | false =>
          simp only [List.filter_cons, blank, Bool.not_false, if_true, List.map_cons,
            List.sum_cons, List.forall_mem_cons, List.length_cons]
          constructor
          · intro read
            obtain ⟨next, first, others⟩ := read
            obtain ⟨⟨short, fits⟩, more, record, holds, same⟩ :=
              (read_line_counted json total before line blank next).mp first
            subst same
            have length : (before ++ [record]).length = before.length + 1 := by simp
            obtain ⟨shorts, all, count, records, each, same⟩ :=
              (induction (total + line.length) (before ++ [record]) fits (by omega)).mp others
            refine ⟨⟨short, shorts⟩, by omega, by omega, record :: records, .cons holds each, ?_⟩
            rw [same, Nat.add_assoc, List.append_assoc]
            rfl
          · intro after
            obtain ⟨⟨short, shorts⟩, all, count, records, each, same⟩ := after
            cases each with
            | cons holds each =>
                rename_i record records
                have length : (before ++ [record]).length = before.length + 1 := by simp
                have fits : total + line.length ≤ maxArtifactBytes := by omega
                refine ⟨_, (read_line_counted json total before line blank _).mpr
                  ⟨⟨short, fits⟩, by omega, record, holds, rfl⟩, ?_⟩
                refine (induction (total + line.length) (before ++ [record]) fits (by omega)).mpr
                  ⟨shorts, by omega, by omega, records, each, ?_⟩
                rw [same, Nat.add_assoc, List.append_assoc]
                rfl

end Acceptance

/-! ## Lines and the bytes of a file -/

theorem readline_split (limit : Nat) (stream : Bytes) :
    (readline limit stream).1 ++ (readline limit stream).2 = stream := by
  induction limit, stream using readline.induct with
  | case1 limit => cases limit <;> rfl
  | case2 stream => cases stream <;> rfl
  | case3 limit rest =>
      rw [readline, if_pos rfl]
      rfl
  | case4 limit byte rest different induction =>
      rw [readline, if_neg different]
      exact congrArg (List.cons byte) induction

theorem readline_progress (limit : Nat) (byte : UInt8) (rest : Bytes) :
    (readline (limit + 1) (byte :: rest)).1 ≠ [] := by
  rw [readline]
  split
  · exact List.cons_ne_nil _ _
  · exact List.cons_ne_nil _ _

theorem readline_shorter (limit : Nat) (byte : UInt8) (rest : Bytes) :
    (readline (limit + 1) (byte :: rest)).2.length < (byte :: rest).length := by
  have whole := congrArg List.length (readline_split (limit + 1) (byte :: rest))
  have progress := List.length_pos_iff.mpr (readline_progress limit byte rest)
  rw [List.length_append] at whole
  omega

/-- Fuel for every byte is enough. -/
theorem lines_of_enough (fuel : Nat) (stream : Bytes) (enough : stream.length ≤ fuel) :
    linesOf fuel stream = lines stream := by
  unfold lines
  induction fuel using Nat.strong_induction_on generalizing stream with
  | _ fuel induction =>
      cases stream with
      | nil => cases fuel <;> rfl
      | cons byte rest =>
          have shorter := readline_shorter maxRecordBytes byte rest
          rw [List.length_cons] at enough shorter
          cases fuel with
          | zero => omega
          | succ fuel =>
              have first := induction fuel (Nat.lt_succ_self fuel)
                (readline (maxRecordBytes + 1) (byte :: rest)).2 (by omega)
              rw [List.length_cons]
              simp only [linesOf, if_neg (readline_progress maxRecordBytes byte rest), first]
              by_cases exact : rest.length = fuel
              · rw [exact, first]
              · rw [induction rest.length (by omega) _ (by omega)]

theorem lines_cons (byte : UInt8) (rest : Bytes) :
    lines (byte :: rest) = (readline (maxRecordBytes + 1) (byte :: rest)).1 ::
      lines (readline (maxRecordBytes + 1) (byte :: rest)).2 := by
  have shorter := readline_shorter maxRecordBytes byte rest
  rw [List.length_cons] at shorter
  rw [lines, List.length_cons]
  simp only [linesOf, if_neg (readline_progress maxRecordBytes byte rest)]
  rw [lines_of_enough rest.length _ (by omega)]

theorem lines_flatten (file : Bytes) : (lines file).flatten = file := by
  induction length : file.length using Nat.strong_induction_on generalizing file with
  | _ size induction =>
      cases file with
      | nil => rfl
      | cons byte rest =>
          have shorter := readline_shorter maxRecordBytes byte rest
          rw [lines_cons, List.flatten_cons,
            induction _ (length ▸ shorter) _ rfl, readline_split]

theorem lines_length (file : Bytes) : ((lines file).map List.length).sum = file.length := by
  rw [← List.length_flatten, lines_flatten]

/-- The file is empty or ends at a line boundary. -/
def EndsLine (file : Bytes) : Prop := file = [] ∨ ∃ body, file = body ++ [newline]

theorem ends_line_tail {byte : UInt8} {rest : Bytes} (ends : EndsLine (byte :: rest)) :
    EndsLine rest ∧ (byte ≠ newline → rest ≠ []) := by
  rcases ends with empty | ⟨body, whole⟩
  · cases empty
  · cases body with
    | nil =>
        rw [List.nil_append, List.cons.injEq] at whole
        exact ⟨.inl whole.2, fun other => absurd whole.1 other⟩
    | cons head body =>
        rw [List.cons_append, List.cons.injEq] at whole
        refine ⟨.inr ⟨body, whole.2⟩, fun _ empty => ?_⟩
        rw [whole.2] at empty
        exact List.append_ne_nil_of_right_ne_nil body (List.cons_ne_nil _ _) empty

/-- A line does not reach beyond a line boundary. -/
theorem readline_append (limit : Nat) (file rest : Bytes) (ends : EndsLine file)
    (filled : file ≠ []) :
    readline limit (file ++ rest) =
        ((readline limit file).1, (readline limit file).2 ++ rest) ∧
      EndsLine (readline limit file).2 := by
  induction limit, file using readline.induct with
  | case1 limit => exact absurd rfl filled
  | case2 file _ =>
      cases file with
      | nil => exact absurd rfl filled
      | cons byte tail => exact ⟨rfl, ends⟩
  | case3 limit tail =>
      rw [List.cons_append, readline, if_pos rfl, readline, if_pos rfl]
      exact ⟨rfl, (ends_line_tail ends).1⟩
  | case4 limit byte tail different induction =>
      obtain ⟨tailEnds, more⟩ := ends_line_tail ends
      obtain ⟨read, left⟩ := induction tailEnds (more different)
      rw [List.cons_append, readline, if_neg different, readline, if_neg different, read]
      exact ⟨rfl, left⟩

theorem lines_append (file rest : Bytes) (ends : EndsLine file) :
    lines (file ++ rest) = lines file ++ lines rest := by
  induction length : file.length using Nat.strong_induction_on generalizing file with
  | _ size induction =>
      cases file with
      | nil => rfl
      | cons byte tail =>
          have shorter := readline_shorter maxRecordBytes byte tail
          obtain ⟨read, left⟩ := readline_append (maxRecordBytes + 1) (byte :: tail) rest ends
            (List.cons_ne_nil byte tail)
          rw [List.cons_append] at read
          rw [List.cons_append, lines_cons, lines_cons, read, List.cons_append,
            induction _ (length ▸ shorter) _ left rfl]

theorem lines_flatten_files (files : List Bytes) (ends : ∀ file ∈ files, EndsLine file) :
    lines files.flatten = (files.map lines).flatten := by
  induction files with
  | nil => rfl
  | cons file files induction =>
      obtain ⟨first, others⟩ := List.forall_mem_cons.mp ends
      rw [List.flatten_cons, List.map_cons, List.flatten_cons,
        lines_append file files.flatten first, induction others]

/-! ## Reading -/

theorem read_events_iff (json : JsonModule) (file : Bytes) (records : List EventRecord) :
    readEvents json file = .ok records ↔ Reads json file records := by
  have room : (0 : Nat) ≤ maxArtifactBytes := Nat.zero_le _
  have few : ([] : List EventRecord).length ≤ maxRecords := Nat.zero_le _
  rw [readEvents, bind_eq_ok]
  constructor
  · intro read
    obtain ⟨state, collected, passed⟩ := read
    obtain ⟨present, result⟩ := (raise_if_bind_ok _ _ _ _).mp passed
    obtain ⟨short, all, count, others, each, reached⟩ :=
      (read_lines_iff json (lines file) 0 [] room few state).mp collected
    rw [lines_length, Nat.zero_add] at all
    rw [List.length_nil, Nat.zero_add] at count
    cases Except.ok.inj result
    rw [reached] at present ⊢
    refine ⟨⟨short, all, count⟩, ?_, each⟩
    rw [List.isEmpty_eq_false_iff] at present
    exact present
  · intro reads
    obtain ⟨⟨short, all, count⟩, present, each⟩ := reads
    refine ⟨(file.length, records), ?_, ?_⟩
    · refine (read_lines_iff json (lines file) 0 [] room few _).mpr
        ⟨short, ?_, ?_, records, each, ?_⟩
      · rw [lines_length, Nat.zero_add]
        exact all
      · rw [List.length_nil, Nat.zero_add]
        exact count
      · rw [lines_length, Nat.zero_add]
        rfl
    · exact (raise_if_bind_ok _ _ _ _).mpr ⟨List.isEmpty_eq_false_iff.mpr present, rfl⟩

end KVTransferObservability.EventLines
