import KVTransferObservability.EventSink
import Mathlib.Logic.Function.Basic

/-!
# Whole records in a shared file

`events.py`: `_write_record` and `_write_all` of any number of sinks, one for each
process, that append to one destination. `flock` gives mutual exclusion and writes
append at the end of the file; every `os.write` may take any part of what is left, no
byte at all, or fail. The writer's loop is `EventSink`; here its record write is taken
apart into system calls.
-/

namespace KVTransferObservability.FileWriter

open Library EventSink

set_option autoImplicit false

/-- Where a sink stands in `_write_record`, from `_run` taking a record up to the
counting of the result. -/
inductive WritePoint
  | idle
  | opening (record : Bytes)
  | unlocked (record : Bytes)
  | locked (record : Bytes)
  | writing (startSize : Nat) (record rest : Bytes)
  | rollback (startSize : Nat) (record : Bytes)
  | unlocking (record : Bytes) (result : WriteResult)
  | counting (result : WriteResult)
  deriving DecidableEq, Repr

/-- `descriptor` says whether `_file_descriptor` is open; `written` has the records for
which `_write_record` has answered `"written"`. -/
structure FileSink where
  descriptor : Bool := false
  point : WritePoint := .idle
  counterValues : EventSinkCounters := .zero
  written : List Bytes := []

/-- The file, the holder of its lock, and the records whose section has ended with
`"written"`, with the sink that wrote each. -/
structure SharedFile (SinkId : Type) where
  file : Bytes
  lock : Option SinkId := none
  sinks : SinkId → FileSink := fun _ => {}
  log : List (SinkId × Bytes) := []

inductive WriteEvent
  /-- `_run` takes a record from its queue. -/
  | begin (record : Bytes)
  | open (succeeds : Bool)
  | lock
  /-- `fstat` and the test of the capacity. -/
  | stat
  /-- `os.write` takes the given number of bytes. -/
  | write (count : Nat)
  /-- `os.write` fails after it has taken the given number of bytes. -/
  | writeFails (count : Nat)
  /-- The loop of `_write_all` has nothing left to write. -/
  | finish
  | truncate
  | unlock
  | count
  deriving DecidableEq, Repr

section Steps

variable {SinkId : Type} [DecidableEq SinkId] (maxFileBytes : SinkId → Nat)

/-- The sink moves to another point. -/
def SharedFile.move (state : SharedFile SinkId) (sink : SinkId) (point : WritePoint) :
    SharedFile SinkId :=
  { state with sinks := Function.update state.sinks sink { state.sinks sink with point := point } }

/-- One system call, or one step between two of them, of one sink. -/
def step (state : SharedFile SinkId) : SinkId × WriteEvent → Option (SharedFile SinkId)
  | (sink, event) =>
    match (state.sinks sink).point, event with
    | .idle, .begin record =>
        some (state.move sink
          (if (state.sinks sink).descriptor then .unlocked record else .opening record))
    | .opening record, .open succeeds =>
        some { state with sinks := Function.update state.sinks sink { state.sinks sink with
          descriptor := succeeds
          point := if succeeds then .unlocked record else .counting .failed } }
    | .unlocked record, .lock =>
        match state.lock with
        | none => some ({ state with lock := some sink }.move sink (.locked record))
        | some _ => none
    | .locked record, .stat =>
        some (state.move sink
          (if maxFileBytes sink < state.file.length + record.length then
            .unlocking record .capacity
          else .writing state.file.length record record))
    | .writing startSize record rest, .write count =>
        if rest ≠ [] ∧ count ≤ rest.length then
          some ({ state with file := state.file ++ rest.take count }.move sink
            (if count = 0 then .rollback startSize record
            else .writing startSize record (rest.drop count)))
        else none
    | .writing startSize record rest, .writeFails count =>
        if rest ≠ [] ∧ count ≤ rest.length then
          some ({ state with file := state.file ++ rest.take count }.move sink
            (.rollback startSize record))
        else none
    | .writing _ record [], .finish => some (state.move sink (.unlocking record .written))
    | .rollback startSize record, .truncate =>
        some ({ state with file := state.file.take startSize }.move sink
          (.unlocking record .failed))
    | .unlocking record result, .unlock =>
        some { state with
          lock := none
          log := if result = .written then state.log ++ [(sink, record)] else state.log
          sinks := Function.update state.sinks sink { state.sinks sink with
            point := .counting result
            written := if result = .written then (state.sinks sink).written ++ [record]
              else (state.sinks sink).written } }
    | .counting result, .count =>
        some { state with sinks := Function.update state.sinks sink { state.sinks sink with
          point := .idle
          -- After a failure `_run` closes the descriptor, and the next record opens it again.
          descriptor := (state.sinks sink).descriptor && decide (result ≠ .failed)
          counterValues := (state.sinks sink).counterValues.increment result.counter } }
    | _, _ => none

/-- What one critical section does to the file when no call in it fails. -/
def writeRecord (maxFileBytes : Nat) (file record : Bytes) : WriteResult × Bytes :=
  if maxFileBytes < file.length + record.length then (.capacity, file)
  else (.written, file ++ record)

end Steps

/-! ## The invariant -/

section Invariant

variable {SinkId : Type} [DecidableEq SinkId] (maxFileBytes : SinkId → Nat) (initial : Bytes)

/-- The bytes of the records whose section has ended with `"written"`. -/
def logBytes (log : List (SinkId × Bytes)) : Bytes := log.flatMap Prod.snd

/-- The records of one sink. -/
def recordsOf (sink : SinkId) (log : List (SinkId × Bytes)) : List Bytes :=
  (log.filter fun entry => entry.1 = sink).map Prod.snd

/-- What the file is while the sink at this point holds the lock, over the bytes
`committed` that were there when it took it. -/
def Inside (limit : Nat) (committed file : Bytes) : WritePoint → Prop
  | .locked _ => file = committed
  | .writing startSize record rest =>
      startSize = committed.length ∧ startSize + record.length ≤ limit ∧
        ∃ done, record = done ++ rest ∧ file = committed ++ done
  | .rollback startSize record =>
      startSize = committed.length ∧ startSize + record.length ≤ limit ∧
        ∃ done rest, record = done ++ rest ∧ file = committed ++ done
  | .unlocking record result =>
      (result, file) = writeRecord limit committed record ∨
        (result = .failed ∧ file = committed)
  | _ => False

/-- The points at which the sink does not hold the lock. -/
def Outside : WritePoint → Prop
  | .idle | .opening _ | .unlocked _ | .counting _ => True
  | _ => False

/-- A result that `"written"` is part of and that is not counted. -/
def uncountedWritten : WritePoint → Nat
  | .counting .written => 1
  | _ => 0

/-- The size stays within the initial size or some sink's limit. -/
def Bounded (size : Nat) : Prop :=
  size ≤ initial.length ∨ ∃ sink, size ≤ maxFileBytes sink

structure Consistent (state : SharedFile SinkId) : Prop where
  free : state.lock = none → state.file = initial ++ logBytes state.log
  held : ∀ sink, state.lock = some sink →
    Inside (maxFileBytes sink) (initial ++ logBytes state.log) state.file
      (state.sinks sink).point
  outside : ∀ sink, state.lock ≠ some sink → Outside (state.sinks sink).point
  written : ∀ sink, (state.sinks sink).written = recordsOf sink state.log
  counted : ∀ sink, (state.sinks sink).counterValues .written +
    uncountedWritten (state.sinks sink).point = (state.sinks sink).written.length
  bounded : Bounded maxFileBytes initial (initial ++ logBytes state.log).length

theorem inside_uncounted (limit : Nat) (committed file : Bytes) (point : WritePoint)
    (inside : Inside limit committed file point) : uncountedWritten point = 0 := by
  cases point <;> first | rfl | exact inside.elim

omit [DecidableEq SinkId] in
theorem log_bytes_snoc (log : List (SinkId × Bytes)) (sink : SinkId) (record : Bytes) :
    logBytes (log ++ [(sink, record)]) = logBytes log ++ record := by
  unfold logBytes
  rw [List.flatMap_append, List.flatMap_singleton]

theorem records_snoc (log : List (SinkId × Bytes)) (sink other : SinkId) (record : Bytes) :
    recordsOf other (log ++ [(sink, record)]) =
      recordsOf other log ++ (if sink = other then [record] else []) := by
  unfold recordsOf
  rw [List.filter_append, List.map_append, List.filter_singleton]
  by_cases same : sink = other
  · simp [same]
  · simp [same]

theorem write_record_cases (limit : Nat) (committed file record : Bytes) (result : WriteResult)
    (answer : (result, file) = writeRecord limit committed record) :
    (result = .capacity ∧ limit < committed.length + record.length ∧ file = committed) ∨
      (result = .written ∧ committed.length + record.length ≤ limit ∧
        file = committed ++ record) := by
  unfold writeRecord at answer
  split at answer
  · rename_i large
    cases answer
    exact Or.inl ⟨rfl, large, rfl⟩
  · rename_i fits
    cases answer
    exact Or.inr ⟨rfl, Nat.not_lt.mp fits, rfl⟩

/-! ## The system calls of one critical section -/

section Calls

variable {limit : Nat} {committed file record rest : Bytes} {startSize : Nat}

theorem stat_inside (inside : Inside limit committed file (.locked record)) :
    Inside limit committed file (if limit < file.length + record.length then
        .unlocking record .capacity
      else .writing file.length record record) := by
  change file = committed at inside
  subst inside
  by_cases large : limit < file.length + record.length
  · rw [if_pos large]
    refine Or.inl ?_
    rw [writeRecord, if_pos large]
  · rw [if_neg large]
    exact ⟨rfl, Nat.not_lt.mp large, [], rfl, (List.append_nil file).symm⟩

/-- Whatever a call has taken of the rest, the file ends in a part of the record. -/
theorem write_inside (inside : Inside limit committed file (.writing startSize record rest))
    (count : Nat) :
    Inside limit committed (file ++ rest.take count)
        (.writing startSize record (rest.drop count)) ∧
      Inside limit committed (file ++ rest.take count) (.rollback startSize record) := by
  obtain ⟨start, fits, done, split, appended⟩ := inside
  have pieces : record = (done ++ rest.take count) ++ rest.drop count := by
    rw [List.append_assoc, List.take_append_drop, split]
  have grown : file ++ rest.take count = committed ++ (done ++ rest.take count) := by
    rw [appended, List.append_assoc]
  exact ⟨⟨start, fits, _, pieces, grown⟩, ⟨start, fits, _, _, pieces, grown⟩⟩

theorem finish_inside (inside : Inside limit committed file (.writing startSize record [])) :
    Inside limit committed file (.unlocking record .written) := by
  obtain ⟨start, fits, done, split, appended⟩ := inside
  rw [List.append_nil] at split
  rw [start] at fits
  refine Or.inl ?_
  rw [writeRecord, if_neg (Nat.not_lt.mpr fits), appended, split]

theorem truncate_inside (inside : Inside limit committed file (.rollback startSize record)) :
    Inside limit committed (file.take startSize) (.unlocking record .failed) := by
  obtain ⟨start, fits, done, rest, split, appended⟩ := inside
  refine Or.inr ⟨rfl, ?_⟩
  rw [appended, start]
  exact List.take_left

theorem unwritten_inside {result : WriteResult}
    (inside : Inside limit committed file (.unlocking record result))
    (unwritten : result ≠ .written) : file = committed := by
  rcases inside with answer | ⟨_, same⟩
  · rcases write_record_cases _ _ _ _ _ answer with ⟨_, _, same⟩ | ⟨written, _⟩
    · exact same
    · exact absurd written unwritten
  · exact same

end Calls

section Preservation

variable (state : SharedFile SinkId) (sink : SinkId)

theorem opened_consistent : Consistent maxFileBytes initial ({ file := initial } : SharedFile SinkId)
    where
  free := fun _ => (List.append_nil initial).symm
  held := fun _ held => by cases held
  outside := fun _ _ => trivial
  written := fun _ => rfl
  counted := fun _ => rfl
  bounded := Or.inl (by simp [logBytes])

variable (holds : Consistent maxFileBytes initial state)

include holds

theorem holder (inside : ¬ Outside (state.sinks sink).point) : state.lock = some sink := by
  by_contra free
  exact inside (holds.outside sink free)

/-- The sink at a point inside holds the lock, and the file is what the point says. -/
theorem inside_at (point : WritePoint) (stands : (state.sinks sink).point = point)
    (inside : ¬ Outside point) :
    state.lock = some sink ∧
      Inside (maxFileBytes sink) (initial ++ logBytes state.log) state.file point := by
  subst stands
  have locked := holder maxFileBytes initial state sink holds inside
  exact ⟨locked, holds.held sink locked⟩

theorem not_holder (outside : Outside (state.sinks sink).point) : state.lock ≠ some sink := by
  intro locked
  have inside := holds.held sink locked
  generalize (state.sinks sink).point = point at outside inside
  cases point <;> first | exact inside | exact outside

/-- A step of a sink that does not hold the lock. -/
theorem consistent_outside (next : FileSink) (before : Outside (state.sinks sink).point)
    (outside : Outside next.point) (written : next.written = (state.sinks sink).written)
    (counted : next.counterValues .written + uncountedWritten next.point =
      (state.sinks sink).written.length) :
    Consistent maxFileBytes initial
      { state with sinks := Function.update state.sinks sink next } := by
  have free := not_holder maxFileBytes initial state sink holds before
  refine ⟨holds.free, ?_, ?_, ?_, ?_, holds.bounded⟩
  · refine (Function.forall_update_iff state.sinks fun other entry => state.lock = some other →
      Inside (maxFileBytes other) (initial ++ logBytes state.log) state.file entry.point).mpr ?_
    exact ⟨fun locked => absurd locked free, fun other _ => holds.held other⟩
  · refine (Function.forall_update_iff state.sinks fun other entry =>
      state.lock ≠ some other → Outside entry.point).mpr ?_
    exact ⟨fun _ => outside, fun other _ => holds.outside other⟩
  · refine (Function.forall_update_iff state.sinks fun other entry =>
      entry.written = recordsOf other state.log).mpr ?_
    exact ⟨written.trans (holds.written sink), fun other _ => holds.written other⟩
  · refine (Function.forall_update_iff state.sinks fun _ entry =>
      entry.counterValues .written + uncountedWritten entry.point = entry.written.length).mpr ?_
    rw [written]
    exact ⟨counted, fun other _ => holds.counted other⟩

/-- A step of the sink that holds the lock, or takes it, to a point inside. -/
theorem consistent_inside (file : Bytes) (point : WritePoint)
    (free : ∀ other, state.lock = some other → other = sink)
    (inside : Inside (maxFileBytes sink) (initial ++ logBytes state.log) file point)
    (uncounted : uncountedWritten (state.sinks sink).point = 0) :
    Consistent maxFileBytes initial
      ({ state with file := file, lock := some sink }.move sink point) := by
  have still := inside_uncounted _ _ _ _ inside
  refine ⟨?_, ?_, ?_, ?_, ?_, holds.bounded⟩
  · intro unlocked
    cases unlocked
  · intro other locked
    cases locked
    simp only [SharedFile.move, Function.update_self]
    exact inside
  · refine (Function.forall_update_iff state.sinks fun other entry =>
      some sink ≠ some other → Outside entry.point).mpr ⟨fun unlocked => absurd rfl unlocked, ?_⟩
    intro other different _
    apply holds.outside other
    intro locked
    exact different (free other locked)
  · refine (Function.forall_update_iff state.sinks fun other entry =>
      entry.written = recordsOf other state.log).mpr ?_
    exact ⟨holds.written sink, fun other _ => holds.written other⟩
  · refine (Function.forall_update_iff state.sinks fun _ entry =>
      entry.counterValues .written + uncountedWritten entry.point = entry.written.length).mpr ?_
    refine ⟨?_, fun other _ => holds.counted other⟩
    rw [still, ← uncounted]
    exact holds.counted sink

/-- A step inside a critical section. -/
theorem consistent_held (locked : state.lock = some sink) (file : Bytes) (point : WritePoint)
    (inside : Inside (maxFileBytes sink) (initial ++ logBytes state.log) file point) :
    Consistent maxFileBytes initial ({ state with file := file }.move sink point) := by
  have before := inside_uncounted _ _ _ _ (holds.held sink locked)
  have next := consistent_inside maxFileBytes initial state sink holds file point
    (fun other same => by rw [locked] at same; exact (Option.some.inj same).symm) inside before
  rw [← locked] at next
  exact next

/-- The end of a critical section that has written its record, -/
theorem consistent_unlock_written (record : Bytes)
    (point : (state.sinks sink).point = .unlocking record .written) :
    Consistent maxFileBytes initial { state with
      lock := none
      log := state.log ++ [(sink, record)]
      sinks := Function.update state.sinks sink { state.sinks sink with
        point := .counting .written
        written := (state.sinks sink).written ++ [record] } } := by
  obtain ⟨locked, inside⟩ := inside_at maxFileBytes initial state sink holds _ point id
  have whole : (initial ++ logBytes state.log).length + record.length ≤ maxFileBytes sink ∧
      state.file = initial ++ logBytes state.log ++ record := by
    rcases inside with answer | ⟨failed, _⟩
    · rcases write_record_cases _ _ _ _ _ answer with ⟨other, _⟩ | ⟨_, fits, appended⟩
      · cases other
      · exact ⟨fits, appended⟩
    · cases failed
  refine ⟨?_, ?_, ?_, ?_, ?_, ?_⟩
  · intro _
    rw [log_bytes_snoc, ← List.append_assoc]
    exact whole.2
  · intro other locked
    cases locked
  · refine (Function.forall_update_iff state.sinks fun other entry =>
      none ≠ some other → Outside entry.point).mpr ⟨fun _ => trivial, ?_⟩
    intro other different _
    exact holds.outside other fun same => different (Option.some.inj (same.symm.trans locked))
  · refine (Function.forall_update_iff state.sinks fun other entry =>
      entry.written = recordsOf other (state.log ++ [(sink, record)])).mpr ⟨?_, ?_⟩
    · rw [records_snoc, if_pos rfl, holds.written sink]
    · intro other different
      rw [records_snoc, if_neg (Ne.symm different), List.append_nil, holds.written other]
  · refine (Function.forall_update_iff state.sinks fun _ entry =>
      entry.counterValues .written + uncountedWritten entry.point = entry.written.length).mpr ?_
    refine ⟨?_, fun other _ => holds.counted other⟩
    have counted := holds.counted sink
    rw [point] at counted
    change _ + 0 = _ at counted
    rw [List.length_append, ← counted]
    rfl
  · refine Or.inr ⟨sink, ?_⟩
    rw [log_bytes_snoc, ← List.append_assoc, List.length_append]
    exact whole.1

/-- and of one that has not. -/
theorem consistent_unlock_unwritten (record : Bytes) (result : WriteResult)
    (point : (state.sinks sink).point = .unlocking record result) (unwritten : result ≠ .written) :
    Consistent maxFileBytes initial { state with
      lock := none
      sinks := Function.update state.sinks sink { state.sinks sink with
        point := .counting result } } := by
  obtain ⟨locked, inside⟩ := inside_at maxFileBytes initial state sink holds _ point id
  refine ⟨fun _ => unwritten_inside inside unwritten, ?_, ?_, ?_, ?_, holds.bounded⟩
  · intro other locked
    cases locked
  · refine (Function.forall_update_iff state.sinks fun other entry =>
      none ≠ some other → Outside entry.point).mpr ⟨fun _ => trivial, ?_⟩
    intro other different _
    exact holds.outside other fun same => different (Option.some.inj (same.symm.trans locked))
  · refine (Function.forall_update_iff state.sinks fun other entry =>
      entry.written = recordsOf other state.log).mpr ?_
    exact ⟨holds.written sink, fun other _ => holds.written other⟩
  · refine (Function.forall_update_iff state.sinks fun _ entry =>
      entry.counterValues .written + uncountedWritten entry.point = entry.written.length).mpr ?_
    refine ⟨?_, fun other _ => holds.counted other⟩
    have counted := holds.counted sink
    rw [point] at counted
    cases result with
    | written => exact absurd rfl unwritten
    | capacity => exact counted
    | failed => exact counted

theorem step_consistent (event : WriteEvent) (next : SharedFile SinkId)
    (taken : step maxFileBytes state (sink, event) = some next) :
    Consistent maxFileBytes initial next := by
  have counted := holds.counted sink
  simp only [step] at taken
  split at taken
  case h_1 record point =>
    cases taken
    rw [point] at counted
    refine consistent_outside maxFileBytes initial state sink holds _ (by rw [point]; trivial) ?_
      rfl ?_
    · dsimp only
      split <;> trivial
    · dsimp only
      split <;> exact counted
  case h_2 record succeeds point =>
    cases taken
    rw [point] at counted
    refine consistent_outside maxFileBytes initial state sink holds _ (by rw [point]; trivial) ?_
      rfl ?_
    · dsimp only
      split <;> trivial
    · dsimp only
      split <;> exact counted
  case h_3 record point =>
    split at taken
    · rename_i free
      cases taken
      refine consistent_inside maxFileBytes initial state sink holds state.file _ ?_ ?_ ?_
      · intro other locked
        rw [free] at locked
        cases locked
      · exact holds.free free
      · rw [point]
        rfl
    · cases taken
  case h_4 record point =>
    cases taken
    obtain ⟨locked, inside⟩ := inside_at maxFileBytes initial state sink holds _ point id
    exact consistent_held maxFileBytes initial state sink holds locked state.file _
      (stat_inside inside)
  case h_5 startSize record rest count point =>
    obtain ⟨_, moved⟩ := Option.ite_none_right_eq_some.mp taken
    cases moved
    obtain ⟨locked, inside⟩ := inside_at maxFileBytes initial state sink holds _ point id
    have grown := write_inside inside count
    refine consistent_held maxFileBytes initial state sink holds locked _ _ ?_
    by_cases stuck : count = 0
    · rw [if_pos stuck]
      exact grown.2
    · rw [if_neg stuck]
      exact grown.1
  case h_6 startSize record rest count point =>
    obtain ⟨_, moved⟩ := Option.ite_none_right_eq_some.mp taken
    cases moved
    obtain ⟨locked, inside⟩ := inside_at maxFileBytes initial state sink holds _ point id
    exact consistent_held maxFileBytes initial state sink holds locked _ _
      (write_inside inside count).2
  case h_7 startSize record point =>
    cases taken
    obtain ⟨locked, inside⟩ := inside_at maxFileBytes initial state sink holds _ point id
    exact consistent_held maxFileBytes initial state sink holds locked state.file _
      (finish_inside inside)
  case h_8 startSize record point =>
    cases taken
    obtain ⟨locked, inside⟩ := inside_at maxFileBytes initial state sink holds _ point id
    exact consistent_held maxFileBytes initial state sink holds locked _ _
      (truncate_inside inside)
  case h_9 record result point =>
    cases taken
    by_cases written : result = .written
    · subst written
      exact consistent_unlock_written maxFileBytes initial state sink holds record point
    · simp only [if_neg written]
      exact consistent_unlock_unwritten maxFileBytes initial state sink holds record result point
        written
  case h_10 result point =>
    cases taken
    rw [point] at counted
    refine consistent_outside maxFileBytes initial state sink holds _ (by rw [point]; trivial)
      trivial rfl ?_
    change (state.sinks sink).counterValues.increment result.counter .written + 0 = _
    rw [← counted]
    cases result with
    | written => rfl
    | capacity => rfl
    | failed => rfl
  · cases taken

end Preservation

/-! ## Runs -/

/-- The records each sink counted as written are its part of the file, in its order;
a record whose section has ended is counted by the sink's next step. -/
structure WholeRecords (state : SharedFile SinkId) : Prop where
  file : state.lock = none → state.file = initial ++ logBytes state.log
  written : ∀ sink, recordsOf sink state.log = (state.sinks sink).written
  counted : ∀ sink, (state.sinks sink).written.length =
    (state.sinks sink).counterValues .written + uncountedWritten (state.sinks sink).point
  failed : ∀ sink record result, (state.sinks sink).point = .unlocking record result →
    result ≠ .written → state.file = initial ++ logBytes state.log
  bounded : Bounded maxFileBytes initial state.file.length

theorem inside_bounded (limit : Nat) (committed file : Bytes) (point : WritePoint)
    (inside : Inside limit committed file point) :
    file.length ≤ committed.length ∨ file.length ≤ limit := by
  cases point with
  | locked record =>
      change file = committed at inside
      exact Or.inl (Nat.le_of_eq (congrArg List.length inside))
  | writing startSize record rest =>
      obtain ⟨start, fits, done, split, appended⟩ := inside
      rw [appended, List.length_append]
      rw [start, split, List.length_append] at fits
      omega
  | rollback startSize record =>
      obtain ⟨start, fits, done, rest, split, appended⟩ := inside
      rw [appended, List.length_append]
      rw [start, split, List.length_append] at fits
      omega
  | unlocking record result =>
      rcases inside with answer | ⟨_, same⟩
      · rcases write_record_cases _ _ _ _ _ answer with ⟨_, _, same⟩ | ⟨_, fits, appended⟩
        · exact Or.inl (Nat.le_of_eq (congrArg List.length same))
        · rw [appended, List.length_append]
          exact Or.inr fits
      · exact Or.inl (Nat.le_of_eq (congrArg List.length same))
  | _ => exact inside.elim

theorem consistent_whole_records (state : SharedFile SinkId)
    (holds : Consistent maxFileBytes initial state) : WholeRecords maxFileBytes initial state where
  file := holds.free
  written := fun sink => (holds.written sink).symm
  counted := fun sink => (holds.counted sink).symm
  failed := by
    intro sink record result point unwritten
    have inside := (inside_at maxFileBytes initial state sink holds _ point id).2
    exact unwritten_inside inside unwritten
  bounded := by
    cases locked : state.lock with
    | none =>
        rw [holds.free locked]
        exact holds.bounded
    | some sink =>
        rcases inside_bounded _ _ _ _ (holds.held sink locked) with before | within
        · rcases holds.bounded with small | ⟨other, small⟩
          · exact Or.inl (before.trans small)
          · exact Or.inr ⟨other, before.trans small⟩
        · exact Or.inr ⟨sink, within⟩

/-- Whatever the interleaving of the sinks and whatever each `os.write` does: while the
lock is free the file is its initial bytes and then whole records, those that the
sinks have written. -/
theorem file_consists_of_whole_records (events : List (SinkId × WriteEvent))
    (state : SharedFile SinkId)
    (reached : Steps.run (step maxFileBytes) { file := initial } events = some state) :
    WholeRecords maxFileBytes initial state := by
  refine consistent_whole_records maxFileBytes initial state ?_
  refine Steps.invariant_run (step maxFileBytes) (Consistent maxFileBytes initial) ?_
    { file := initial } state events (opened_consistent maxFileBytes initial) reached
  rintro before ⟨sink, event⟩ next holds taken
  exact step_consistent maxFileBytes initial before sink holds event next taken

end Invariant

/-- Two sinks: the first is cut off after one byte and rolls back, the second writes
its record in two parts. -/
def sampleSections : List (Bool × WriteEvent) :=
  [(true, .begin [1, 2]), (true, .open true), (false, .begin [3, 4]), (false, .open true),
    (true, .lock), (true, .stat), (true, .write 1), (true, .writeFails 0), (true, .truncate),
    (true, .unlock), (false, .lock), (false, .stat), (false, .write 1), (true, .count),
    (false, .write 1), (false, .finish), (false, .unlock), (false, .count)]

theorem sample_sections_whole :
    ∃ state, Steps.run (step fun _ => 8) { file := [0] } sampleSections = some state ∧
      state.file = [0, 3, 4] ∧ WholeRecords (fun _ => 8) [0] state := by
  have reached : Steps.run (step fun _ => 8) { file := [0] } sampleSections = some _ := rfl
  exact ⟨_, reached, rfl, file_consists_of_whole_records (fun _ => 8) [0] sampleSections _ reached⟩

end KVTransferObservability.FileWriter
