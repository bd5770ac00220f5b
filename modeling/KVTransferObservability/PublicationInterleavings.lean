import KVTransferObservability.ConcurrentPublication
import KVTransferObservability.DescriptorCorrelation
import KVTransferObservability.Library.Holdings
import KVTransferObservability.PublicationOutcomes

/-!
# Publications in any interleaving

A call holds two names of the directory: its temporary one from `open` to `unlink`, and
its final one from `link` on. Both calls fail when the name exists, so that no name has two
holders, and the `unlink` of a handler or a cleanup only removes what its own call made.
-/

namespace KVTransferObservability.PublicationInterleavings

open PythonValues Schema Library RecordText EventSink Descriptors DescriptorPublication
open ConcurrentPublication PublicationCall
open DescriptorCorrelation (isJson)
open PublicationOutcomes (sampleCapture writingJson)

set_option autoImplicit false

section Calls

variable (json : JsonModule)

/-! ## What a call holds -/

/-- What has been written of the data. -/
def content (call : PublicationCall) : Bytes :=
  (call.data json).take ((call.data json).length - call.state.view.length)

def holding (call : PublicationCall) : Holding String DirectoryEntry := fun name =>
  if name = call.temporary then
    if call.state.temporaryExists && !call.removed then some (.file (content json call)) else none
  else if name = call.final then
    if call.state.published && !call.rolledBack then some (.file (call.data json)) else none
  else none

theorem temporary_ne_final (call : PublicationCall) : call.temporary ≠ call.final :=
  temporary_not_final call.inventory call.token

theorem holding_temporary (call : PublicationCall) :
    holding json call call.temporary =
      if call.state.temporaryExists && !call.removed then some (.file (content json call))
      else none := by
  unfold holding
  rw [if_pos rfl]

theorem holding_final (call : PublicationCall) :
    holding json call call.final =
      if call.state.published && !call.rolledBack then some (.file (call.data json)) else none := by
  unfold holding
  rw [if_neg (temporary_ne_final call).symm, if_pos rfl]

theorem holding_temporary_free (call : PublicationCall)
    (free : call.state.temporaryExists = false ∨ call.removed = true) :
    holding json call call.temporary = none := by
  rw [holding_temporary]
  rcases free with free | free
  · rw [free]
    rfl
  · rw [free, Bool.not_true, Bool.and_false]
    rfl

theorem holding_final_free (call : PublicationCall)
    (free : call.state.published = false ∨ call.rolledBack = true) :
    holding json call call.final = none := by
  rw [holding_final]
  rcases free with free | free
  · rw [free]
    rfl
  · rw [free, Bool.not_true, Bool.and_false]
    rfl

theorem holding_temporary_kept (call : PublicationCall) (present : call.state.temporaryExists = true)
    (unremoved : call.removed = false) :
    holding json call call.temporary = some (.file (content json call)) := by
  rw [holding_temporary, present, unremoved]
  rfl

theorem holding_final_kept (call : PublicationCall) (published : call.state.published = true)
    (unrolled : call.rolledBack = false) :
    holding json call call.final = some (.file (call.data json)) := by
  rw [holding_final, published, unrolled]
  rfl

/-- Two points of one call. -/
structure SameNames (before after : PublicationCall) : Prop where
  capture : after.capture = before.capture
  inventory : after.inventory = before.inventory
  token : after.token = before.token

theorem holding_elsewhere (before after : PublicationCall) (same : SameNames before after)
    (name : String)
    (temporary : name ≠ before.temporary ∨
      after.state.temporaryExists = before.state.temporaryExists ∧
        after.removed = before.removed ∧ after.state.view = before.state.view)
    (final : name ≠ before.final ∨
      after.state.published = before.state.published ∧ after.rolledBack = before.rolledBack) :
    holding json after name = holding json before name := by
  have data : after.data json = before.data json := by
    unfold PublicationCall.data
    rw [same.inventory, same.capture]
  have sameTemporary : after.temporary = before.temporary := by
    unfold PublicationCall.temporary
    rw [same.inventory, same.token]
  have sameFinal : after.final = before.final := by
    unfold PublicationCall.final
    rw [same.inventory]
  unfold holding content
  rw [sameTemporary, sameFinal, data]
  by_cases isTemporary : name = before.temporary
  · obtain ⟨present, removed, view⟩ := temporary.resolve_left fun other => other isTemporary
    rw [if_pos isTemporary, if_pos isTemporary, present, removed, view]
  · rw [if_neg isTemporary, if_neg isTemporary]
    by_cases isFinal : name = before.final
    · obtain ⟨published, rolledBack⟩ := final.resolve_left fun other => other isFinal
      rw [if_pos isFinal, if_pos isFinal, published, rolledBack]
    · rw [if_neg isFinal, if_neg isFinal]

/-- What the flags are before each system call. -/
def Flags : Option SystemCall → Bool → Bool → Prop
  | some .create, temporaryExists, published => temporaryExists = false ∧ published = false
  | some .write, temporaryExists, published => temporaryExists = true ∧ published = false
  | some .syncFile, temporaryExists, published => temporaryExists = true ∧ published = false
  | some .close, temporaryExists, published => temporaryExists = true ∧ published = false
  | some .link, temporaryExists, published => temporaryExists = true ∧ published = false
  | some .unlinkTemporary, temporaryExists, published => temporaryExists = true ∧ published = true
  | some .syncDirectory, temporaryExists, published => temporaryExists = false ∧ published = true
  | some .rollback, _, published => published = true
  | some .closeAgain, _, _ => True
  | some .cleanup, temporaryExists, _ => temporaryExists = true
  | none, _, _ => True

/-- The call belongs to the `try` statement or to its handlers. -/
def InTry (name : SystemCall) : Prop := name ≠ .closeAgain ∧ name ≠ .cleanup

structure Shaped (call : PublicationCall) : Prop where
  flags : Flags call.next call.state.temporaryExists call.state.published
  suffix : call.state.view <:+ call.data json
  whole : ∀ name, call.next = some name → name = .syncFile ∨ name = .close ∨ name = .link →
    call.state.view = []
  unremoved : ∀ name, call.next = some name → call.removed = false ∧ call.answer = none
  unrolled : ∀ name, call.next = some name → InTry name → call.rolledBack = false
  answered : ∀ path, call.answer = some path →
    path = call.capture.location call.inventory ∧ call.state.published = true ∧
      call.rolledBack = false ∧ call.state.temporaryExists = false
  handled : (∀ name, call.next = some name → ¬ InTry name) → call.killed = false →
    call.answer = none → call.state.published = true →
      call.rolledBack = true ∨ .rollback ∈ call.state.failed
  cleaned : call.next = none → call.killed = false → call.state.temporaryExists = true →
    call.removed = true ∨ .cleanup ∈ call.state.failed

/-- A call has taken a step: it is still the same call, and its holding has changed with the
directory. -/
structure Advances (before after : PublicationCall) : Prop where
  shaped : Shaped json after
  capture : after.capture = before.capture
  inventory : after.inventory = before.inventory
  token : after.token = before.token
  changes : Changes (holding json before) (holding json after) before.state.directory.lookup
    after.state.directory.lookup

variable {json}

theorem changes_of_same {before after : PublicationCall}
    (same : holding json after = holding json before)
    (directory : after.state.directory = before.state.directory) :
    Changes (holding json before) (holding json after) before.state.directory.lookup
      after.state.directory.lookup :=
  fun name => .inl ⟨congrFun same name, by rw [directory]⟩

variable (json) in
/-- A call between two of its system calls. -/
structure Active (call : PublicationCall) : Prop where
  suffix : call.state.view <:+ call.data json
  unremoved : call.removed = false
  unanswered : call.answer = none

theorem Shaped.active {call : PublicationCall} (shaped : Shaped json call) {name : SystemCall}
    (next : call.next = some name) : Active json call :=
  ⟨shaped.suffix, (shaped.unremoved name next).1, (shaped.unremoved name next).2⟩

/-- A call that goes on in its `try` statement. -/
theorem shaped_in_try {call : PublicationCall} {name : SystemCall}
    (active : Active json call) (next : call.next = some name) (inTry : InTry name)
    (unrolled : call.rolledBack = false)
    (flags : Flags (some name) call.state.temporaryExists call.state.published)
    (whole : name = .syncFile ∨ name = .close ∨ name = .link → call.state.view = []) :
    Shaped json call where
  flags := by
    rw [next]
    exact flags
  suffix := active.suffix
  whole other continues staged := by
    rw [next] at continues
    cases continues
    exact whole staged
  unremoved _ _ := ⟨active.unremoved, active.unanswered⟩
  unrolled _ _ _ := unrolled
  answered path answer := by
    rw [active.unanswered] at answer
    cases answer
  handled free := absurd inTry (free name next)
  cleaned finished := by
    rw [next] at finished
    cases finished

/-- A call whose body and handlers are finished. -/
theorem shaped_in_cleanup {call : PublicationCall} (suffix : call.state.view <:+ call.data json)
    (unanswered : call.answer = none) (last : ∀ name, call.next = some name → ¬ InTry name)
    (flags : Flags call.next call.state.temporaryExists call.state.published)
    (unremoved : ∀ name, call.next = some name → call.removed = false)
    (handled : call.killed = false → call.state.published = true →
      call.rolledBack = true ∨ .rollback ∈ call.state.failed)
    (cleaned : call.next = none → call.killed = false → call.state.temporaryExists = true →
      call.removed = true ∨ .cleanup ∈ call.state.failed) : Shaped json call where
  flags := flags
  suffix := suffix
  whole name next staged := by
    refine absurd ?_ (last name next)
    rcases staged with rfl | rfl | rfl
    · exact ⟨by decide, by decide⟩
    · exact ⟨by decide, by decide⟩
    · exact ⟨by decide, by decide⟩
  unremoved name next := ⟨unremoved name next, unanswered⟩
  unrolled name next inTry := absurd inTry (last name next)
  answered path answer := by
    rw [unanswered] at answer
    cases answer
  handled _ alive _ := handled alive
  cleaned := cleaned

/-- The cleanup is what is left to do once the handlers are finished. -/
theorem after_closing_shaped {call : PublicationCall} (active : Active json call)
    (next : call.next = if call.state.temporaryExists then some .cleanup else none)
    (handled : call.killed = false → call.state.published = true →
      call.rolledBack = true ∨ .rollback ∈ call.state.failed) : Shaped json call := by
  by_cases stays : call.state.temporaryExists = true
  · rw [if_pos stays] at next
    refine shaped_in_cleanup active.suffix active.unanswered ?_ ?_ (fun _ _ => active.unremoved)
      handled ?_
    · intro name continues inTry
      rw [next] at continues
      exact inTry.2 (Option.some.inj continues).symm
    · rw [next]
      exact stays
    · intro finished
      rw [next] at finished
      cases finished
  · rw [if_neg stays] at next
    refine shaped_in_cleanup active.suffix active.unanswered ?_ ?_ (fun _ _ => active.unremoved)
      handled fun _ _ present => absurd present stays
    · intro name continues
      rw [next] at continues
      cases continues
    · rw [next]
      trivial

theorem cleaning_shaped {call : PublicationCall} (active : Active json call)
    (handled : call.killed = false → call.state.published = true →
      call.rolledBack = true ∨ .rollback ∈ call.state.failed) : Shaped json call.cleaning := by
  by_cases descriptor : call.state.descriptor = true
  · have next : call.cleaning.next = some .closeAgain := by
      unfold cleaning
      rw [if_pos descriptor]
    refine shaped_in_cleanup active.suffix active.unanswered ?_ ?_ (fun _ _ => active.unremoved)
      handled ?_
    · intro name continues inTry
      rw [next] at continues
      exact inTry.1 (Option.some.inj continues).symm
    · rw [next]
      trivial
    · intro finished
      rw [next] at finished
      cases finished
  · refine after_closing_shaped ⟨active.suffix, active.unremoved, active.unanswered⟩ ?_ handled
    unfold cleaning
    rw [if_neg descriptor]

/-- A name that exists already is not a published one. -/
theorem raised_shaped {call : PublicationCall} (active : Active json call)
    (unrolled : call.rolledBack = false) (failure : OsFailure)
    (conflict : failure = .fileExists → call.state.published = false) :
    Shaped json (call.raised failure) := by
  cases failure with
  | fileExists =>
      let counted : PublicationCall := { call with state := call.state.countConflicts }
      have stays : Active json counted := ⟨active.suffix, active.unremoved, active.unanswered⟩
      refine cleaning_shaped stays ?_
      intro _ published
      change call.state.published = true at published
      rw [conflict rfl] at published
      cases published
  | osError =>
      let counted : PublicationCall := { call with state := call.state.countIoErrors }
      have stays : Active json counted := ⟨active.suffix, active.unremoved, active.unanswered⟩
      change Shaped json
        (if counted.state.published then { counted with next := some .rollback }
        else counted.cleaning)
      by_cases published : counted.state.published = true
      · rw [if_pos published]
        refine shaped_in_try ⟨stays.suffix, stays.unremoved, stays.unanswered⟩ rfl
          ⟨by decide, by decide⟩ unrolled published ?_
        rintro (same | same | same) <;> cases same
      · rw [if_neg published]
        exact cleaning_shaped stays fun _ linked => absurd linked published

variable (json) in
/-- Neither a handler nor the way to the cleanup touches the directory. -/
theorem raised_frame (call : PublicationCall) (failure : OsFailure) :
    (call.raised failure).capture = call.capture ∧
      (call.raised failure).inventory = call.inventory ∧
      (call.raised failure).token = call.token ∧
      (call.raised failure).state.directory = call.state.directory ∧
      holding json (call.raised failure) = holding json call := by
  cases failure with
  | fileExists => exact ⟨rfl, rfl, rfl, rfl, rfl⟩
  | osError =>
      unfold raised
      dsimp only
      split
      · exact ⟨rfl, rfl, rfl, rfl, rfl⟩
      · exact ⟨rfl, rfl, rfl, rfl, rfl⟩

theorem raised_advances (before middle : PublicationCall) (active : Active json middle)
    (unrolled : middle.rolledBack = false) (capture : middle.capture = before.capture)
    (inventory : middle.inventory = before.inventory) (token : middle.token = before.token)
    (changes : Changes (holding json before) (holding json middle)
      before.state.directory.lookup middle.state.directory.lookup) (failure : OsFailure)
    (conflict : failure = .fileExists → middle.state.published = false) :
    Advances json before (middle.raised failure) := by
  obtain ⟨sameCapture, sameInventory, sameToken, directory, held⟩ :=
    raised_frame json middle failure
  refine ⟨raised_shaped active unrolled failure conflict, sameCapture.trans capture,
    sameInventory.trans inventory, sameToken.trans token, ?_⟩
  rw [held, directory]
  exact changes

/-! ## One system call -/

variable {call : PublicationCall} {name : SystemCall}

theorem failed_advances (shaped : Shaped json call) (next : call.next = some name)
    (inTry : InTry name) (calls : SystemCall) (failure : OsFailure)
    (conflict : failure = .fileExists → call.state.published = false) :
    Advances json call (call.failed calls failure) :=
  have active := shaped.active next
  raised_advances call { call with state := call.state.fail calls }
    ⟨active.suffix, active.unremoved, active.unanswered⟩
    (shaped.unrolled name next inTry) rfl rfl rfl (changes_of_same rfl rfl) failure conflict

theorem attempt_advances (shaped : Shaped json call) (next : call.next = some name)
    (inTry : InTry name) (succeeds : Bool) (act : Publication → Except OsFailure Publication)
    (continues : Publication → PublicationCall)
    (conflict : act call.state = .error .fileExists → call.state.published = false)
    (success : ∀ state, act call.state = .ok state → Advances json call (continues state)) :
    Advances json call (call.attempt name succeeds act continues) := by
  unfold attempt
  cases succeeds with
  | false => exact failed_advances shaped next inTry name .osError nofun
  | true =>
      rw [if_pos rfl]
      cases done : act call.state with
      | error failure =>
          refine failed_advances shaped next inTry name failure fun same => conflict ?_
          rw [done, same]
      | ok state => exact success state done

/-- A call whose flags, view and directory are the same holds the same. -/
theorem quiet_advances {after : PublicationCall} (shaped : Shaped json after)
    (capture : after.capture = call.capture) (inventory : after.inventory = call.inventory)
    (token : after.token = call.token) (same : holding json after = holding json call)
    (directory : after.state.directory = call.state.directory) : Advances json call after :=
  ⟨shaped, capture, inventory, token, changes_of_same same directory⟩

/-- A step that changes one name only. -/
theorem changes_at {before after : PublicationCall} (target : String)
    (elsewhere : ∀ other, other ≠ target → holding json after other = holding json before other)
    (others : ∀ other, other ≠ target →
      after.state.directory.lookup other = before.state.directory.lookup other)
    (finds : before.state.directory.lookup target = holding json before target)
    (leaves : after.state.directory.lookup target = holding json after target) :
    Changes (holding json before) (holding json after) before.state.directory.lookup
      after.state.directory.lookup := by
  intro other
  by_cases same : other = target
  · rw [same]
    exact .inr ⟨finds, leaves⟩
  · exact .inl ⟨elsewhere other same, others other same⟩

/-- The loop of `_write_all` goes on, or the file is synced. -/
theorem writing_shaped (active : Active json call) (unrolled : call.rolledBack = false)
    (present : call.state.temporaryExists = true) (unpublished : call.state.published = false) :
    Shaped json call.writing := by
  have stays : Active json call.writing := ⟨active.suffix, active.unremoved, active.unanswered⟩
  by_cases empty : call.state.view.isEmpty = true
  · have next : call.writing.next = some .syncFile := by
      unfold writing
      rw [if_pos empty]
    exact shaped_in_try stays next ⟨by decide, by decide⟩ unrolled ⟨present, unpublished⟩
      fun _ => List.isEmpty_iff.mp empty
  · have next : call.writing.next = some .write := by
      unfold writing
      rw [if_neg empty]
    refine shaped_in_try stays next ⟨by decide, by decide⟩ unrolled ⟨present, unpublished⟩ ?_
    rintro (same | same | same) <;> cases same

theorem create_advances (shaped : Shaped json call) (next : call.next = some .create)
    (accepted : Option Nat) : Advances json call (call.act json .create accepted) := by
  obtain ⟨temporaryExists, published⟩ : call.state.temporaryExists = false ∧
      call.state.published = false := by
    have flags := shaped.flags
    rw [next] at flags
    exact flags
  refine attempt_advances shaped next ⟨by decide, by decide⟩ _ _ _ (fun _ => published) ?_
  intro state created
  unfold Publication.create at created
  split at created
  · cases created
  · rename_i absent
    cases created
    have active := shaped.active next
    refine ⟨writing_shaped ⟨List.suffix_refl _, active.unremoved, active.unanswered⟩
      (shaped.unrolled .create next ⟨by decide, by decide⟩) rfl published, rfl, rfl, rfl, ?_⟩
    let created : PublicationCall :=
      { call with state := { call.state with
          directory := call.state.directory.insert call.temporary (.file [])
          descriptor := true, temporaryExists := true, view := call.data json } }
    have empty : content json created = [] := by
      unfold content
      change (call.data json).take ((call.data json).length - (call.data json).length) = []
      rw [Nat.sub_self, List.take_zero]
    have holds : holding json created.writing call.temporary = some (.file []) := by
      rw [← empty]
      exact holding_temporary_kept json created.writing rfl active.unremoved
    refine changes_at call.temporary ?_ ?_ ?_ ?_
    · intro other different
      exact holding_elsewhere json call created.writing ⟨rfl, rfl, rfl⟩ other (.inl different) (.inr ⟨rfl, rfl⟩)
    · intro other different
      exact Finmap.lookup_insert_of_ne _ different
    · rw [holding_temporary_free json call (.inl temporaryExists)]
      exact Finmap.lookup_eq_none.mpr absent
    · exact (Finmap.lookup_insert _).trans holds.symm

theorem sync_file_advances (shaped : Shaped json call) (next : call.next = some .syncFile)
    (accepted : Option Nat) : Advances json call (call.act json .syncFile accepted) := by
  have active := shaped.active next
  have flags := shaped.flags
  rw [next] at flags
  unfold act
  refine attempt_advances shaped next ⟨by decide, by decide⟩ _ _ _ nofun ?_
  intro state done
  cases done
  exact quiet_advances
    (shaped_in_try ⟨active.suffix, active.unremoved, active.unanswered⟩ rfl
      ⟨by decide, by decide⟩ (shaped.unrolled .syncFile next ⟨by decide, by decide⟩) flags
      fun _ => shaped.whole .syncFile next (.inl rfl))
    rfl rfl rfl rfl rfl

theorem close_advances (shaped : Shaped json call) (next : call.next = some .close)
    (accepted : Option Nat) : Advances json call (call.act json .close accepted) := by
  have active := shaped.active next
  have flags := shaped.flags
  rw [next] at flags
  unfold act
  refine attempt_advances shaped next ⟨by decide, by decide⟩ _ _ _ nofun ?_
  intro state done
  cases done
  exact quiet_advances
    (shaped_in_try ⟨active.suffix, active.unremoved, active.unanswered⟩ rfl
      ⟨by decide, by decide⟩ (shaped.unrolled .close next ⟨by decide, by decide⟩) flags
      fun _ => shaped.whole .close next (.inr (.inl rfl)))
    rfl rfl rfl rfl rfl

variable (json call) in
/-- The directory has what the call holds. -/
def Has : Prop := ∀ name entry, holding json call name = some entry →
  call.state.directory.lookup name = some entry

/-- While its temporary file exists, it has what has been written. -/
theorem has_temporary (has : Has json call) (present : call.state.temporaryExists = true)
    (unremoved : call.removed = false) :
    call.state.directory.lookup call.temporary = some (.file (content json call)) := by
  apply has
  exact holding_temporary_kept json call present unremoved

theorem content_whole (empty : call.state.view = []) : content json call = call.data json := by
  unfold content
  rw [empty, List.length_nil, Nat.sub_zero, List.take_length]

/-- What is written next comes after what has been written. -/
theorem content_append (suffix : call.state.view <:+ call.data json) (count : Nat)
    (few : count ≤ call.state.view.length) :
    content json call ++ call.state.view.take count =
      (call.data json).take ((call.data json).length - (call.state.view.drop count).length) := by
  obtain ⟨written, whole⟩ := suffix
  unfold content
  rw [← whole]
  simp only [List.length_append, List.length_drop]
  rw [show written.length + call.state.view.length - call.state.view.length = written.length by
      omega,
    show written.length + call.state.view.length - (call.state.view.length - count) =
      written.length + count by omega,
    List.take_left, List.take_length_add_append]

theorem write_advances (shaped : Shaped json call) (has : Has json call)
    (next : call.next = some .write) (accepted : Option Nat) :
    Advances json call (call.act json .write accepted) := by
  have active := shaped.active next
  have unrolled := shaped.unrolled .write next ⟨by decide, by decide⟩
  obtain ⟨present, published⟩ : call.state.temporaryExists = true ∧
      call.state.published = false := by
    have flags := shaped.flags
    rw [next] at flags
    exact flags
  change Advances json call (call.writeSome accepted)
  unfold writeSome
  cases accepted with
  | none =>
      let counted : Publication := { call.state with writes := call.state.writes + 1 }
      exact raised_advances call { call with state := counted.fail .write }
        ⟨active.suffix, active.unremoved, active.unanswered⟩ unrolled rfl rfl rfl
        (changes_of_same rfl rfl) .osError nofun
  | some accepted =>
      dsimp only
      have few : min accepted call.state.view.length ≤ call.state.view.length := Nat.min_le_right _ _
      generalize min accepted call.state.view.length = count at few
      have stored := has_temporary has present active.unremoved
      have appended : call.state.append call.temporary (call.state.view.take count) =
          { call.state with
            directory := call.state.directory.insert call.temporary
              (.file (content json call ++ call.state.view.take count)) } := by
        unfold Publication.append
        rw [stored]
      rw [appended]
      -- The directory after the write, for the view that is left.
      have changes (after : PublicationCall)
          (same : SameNames call after)
          (flags : after.state.temporaryExists = true ∧ after.removed = false ∧
            after.state.published = call.state.published ∧ after.rolledBack = call.rolledBack)
          (left : (after.state.view).length = (call.state.view.drop count).length)
          (directory : after.state.directory = call.state.directory.insert call.temporary
            (.file (content json call ++ call.state.view.take count))) :
          Changes (holding json call) (holding json after) call.state.directory.lookup
            after.state.directory.lookup := by
        obtain ⟨stays, unremoved, samePublished, sameRolledBack⟩ := flags
        have temporary : after.temporary = call.temporary := by
          unfold PublicationCall.temporary
          rw [same.inventory, same.token]
        have data : after.data json = call.data json := by
          unfold PublicationCall.data
          rw [same.inventory, same.capture]
        apply changes_at call.temporary
        · intro other different
          exact holding_elsewhere json call after same other (.inl different)
            (.inr ⟨samePublished, sameRolledBack⟩)
        · intro other different
          rw [directory]
          exact Finmap.lookup_insert_of_ne _ different
        · rw [holding_temporary_kept json call present active.unremoved]
          exact stored
        · rw [directory, Finmap.lookup_insert, ← temporary,
            holding_temporary_kept json after stays unremoved,
            content_append active.suffix count few]
          unfold content
          rw [data, left]
      by_cases none : count = 0
      · rw [if_pos none]
        let grown : Publication :=
          { call.state with
            directory := call.state.directory.insert call.temporary
              (.file (content json call ++ call.state.view.take count))
            writes := call.state.writes + 1 }
        refine raised_advances call { call with state := grown }
          ⟨active.suffix, active.unremoved, active.unanswered⟩ unrolled rfl rfl rfl
          (changes _ ⟨rfl, rfl, rfl⟩ ⟨present, active.unremoved, rfl, rfl⟩ ?_ rfl) .osError nofun
        rw [none, List.drop_zero]
      · rw [if_neg none]
        exact ⟨writing_shaped
          ⟨(List.drop_suffix _ _).trans active.suffix, active.unremoved, active.unanswered⟩
          unrolled present published, rfl, rfl, rfl,
          changes _ ⟨rfl, rfl, rfl⟩ ⟨present, active.unremoved, rfl, rfl⟩ rfl rfl⟩

theorem link_advances (shaped : Shaped json call) (has : Has json call)
    (next : call.next = some .link) (accepted : Option Nat) :
    Advances json call (call.act json .link accepted) := by
  have active := shaped.active next
  have unrolled := shaped.unrolled .link next ⟨by decide, by decide⟩
  have empty := shaped.whole .link next (.inr (.inr rfl))
  obtain ⟨present, published⟩ : call.state.temporaryExists = true ∧
      call.state.published = false := by
    have flags := shaped.flags
    rw [next] at flags
    exact flags
  have stored := has_temporary has present active.unremoved
  rw [content_whole empty] at stored
  unfold act
  refine attempt_advances shaped next ⟨by decide, by decide⟩ _ _ _ (fun _ => published) ?_
  intro state linked
  unfold Publication.link at linked
  rw [stored] at linked
  dsimp only at linked
  split at linked
  · cases linked
  · rename_i absent
    cases linked
    refine ⟨shaped_in_try ⟨active.suffix, active.unremoved, active.unanswered⟩ rfl
      ⟨by decide, by decide⟩ unrolled ⟨present, rfl⟩ ?_, rfl, rfl, rfl, ?_⟩
    · rintro (same | same | same) <;> cases same
    · let linked : PublicationCall :=
        { call with
          state := { call.state with
            directory := call.state.directory.insert call.final (.file (call.data json))
            published := true }
          next := some .unlinkTemporary }
      have holds : holding json linked call.final = some (.file (call.data json)) :=
        holding_final_kept json linked rfl unrolled
      refine changes_at call.final ?_ ?_ ?_ ?_
      · intro other different
        exact holding_elsewhere json call linked ⟨rfl, rfl, rfl⟩ other (.inr ⟨rfl, rfl, rfl⟩) (.inl different)
      · intro other different
        exact Finmap.lookup_insert_of_ne _ different
      · rw [holding_final_free json call (.inl published)]
        exact Finmap.lookup_eq_none.mpr absent
      · exact (Finmap.lookup_insert _).trans holds.symm

theorem unlink_ok {target : String} {state next : Publication}
    (unlinked : state.unlink target = .ok next) :
    next = { state with directory := state.directory.erase target } := by
  unfold Publication.unlink at unlinked
  split at unlinked
  · cases unlinked
    rfl
  · cases unlinked

theorem unlink_no_conflict {target : String} {state : Publication} :
    state.unlink target ≠ .error .fileExists := by
  unfold Publication.unlink
  split
  · exact nofun
  · exact nofun

theorem unlink_temporary_advances (shaped : Shaped json call) (has : Has json call)
    (next : call.next = some .unlinkTemporary) (accepted : Option Nat) :
    Advances json call (call.act json .unlinkTemporary accepted) := by
  have active := shaped.active next
  have unrolled := shaped.unrolled .unlinkTemporary next ⟨by decide, by decide⟩
  obtain ⟨present, published⟩ : call.state.temporaryExists = true ∧
      call.state.published = true := by
    have flags := shaped.flags
    rw [next] at flags
    exact flags
  unfold act
  refine attempt_advances shaped next ⟨by decide, by decide⟩ _ _ _
    (fun conflict => absurd conflict unlink_no_conflict) ?_
  intro state unlinked
  rw [unlink_ok unlinked]
  refine ⟨shaped_in_try ⟨active.suffix, active.unremoved, active.unanswered⟩ rfl
    ⟨by decide, by decide⟩ unrolled ⟨rfl, published⟩ ?_, rfl, rfl, rfl, ?_⟩
  · rintro (same | same | same) <;> cases same
  · let unlinked : PublicationCall :=
      { call with
        state := { call.state with
          directory := call.state.directory.erase call.temporary, temporaryExists := false }
        next := some .syncDirectory }
    have holds : holding json unlinked call.temporary = none :=
      holding_temporary_free json unlinked (.inl rfl)
    refine changes_at call.temporary ?_ ?_ ?_ ?_
    · intro other different
      exact holding_elsewhere json call unlinked ⟨rfl, rfl, rfl⟩ other (.inl different) (.inr ⟨rfl, rfl⟩)
    · intro other different
      exact Finmap.lookup_erase_ne different
    · rw [holding_temporary_kept json call present active.unremoved]
      exact has_temporary has present active.unremoved
    · exact (Finmap.lookup_erase _ _).trans holds.symm

theorem sync_directory_advances (shaped : Shaped json call)
    (next : call.next = some .syncDirectory) (accepted : Option Nat) :
    Advances json call (call.act json .syncDirectory accepted) := by
  have unrolled := shaped.unrolled .syncDirectory next ⟨by decide, by decide⟩
  obtain ⟨gone, published⟩ : call.state.temporaryExists = false ∧
      call.state.published = true := by
    have flags := shaped.flags
    rw [next] at flags
    exact flags
  unfold act
  refine attempt_advances shaped next ⟨by decide, by decide⟩ _ _ _ nofun ?_
  intro state done
  cases done
  refine quiet_advances ⟨trivial, shaped.suffix, nofun, nofun, nofun, ?_, nofun, ?_⟩
    rfl rfl rfl rfl rfl
  · intro path answer
    cases answer
    exact ⟨rfl, published, unrolled, gone⟩
  · intro _ _ present
    change call.state.temporaryExists = true at present
    rw [gone] at present
    cases present

theorem close_again_advances (shaped : Shaped json call) (next : call.next = some .closeAgain)
    (accepted : Option Nat) : Advances json call (call.act json .closeAgain accepted) := by
  have active := shaped.active next
  have handled (alive : call.killed = false) (published : call.state.published = true) :
      call.rolledBack = true ∨ .rollback ∈ call.state.failed := by
    refine shaped.handled ?_ alive active.unanswered published
    intro name continues inTry
    rw [next] at continues
    exact inTry.1 (Option.some.inj continues).symm
  unfold act
  cases accepted with
  | none =>
      refine quiet_advances (after_closing_shaped
        ⟨active.suffix, active.unremoved, active.unanswered⟩ rfl ?_) rfl rfl rfl rfl rfl
      intro alive published
      exact (handled alive published).imp_right (List.mem_cons_of_mem _)
  | some accepted =>
      exact quiet_advances (after_closing_shaped
        ⟨active.suffix, active.unremoved, active.unanswered⟩ rfl handled) rfl rfl rfl rfl rfl

variable (call) in
theorem attempt_unlink_cases (calls : SystemCall) (target : String) (succeeds : Bool) :
    call.attemptUnlink calls target succeeds =
        (true, { call with
          state := { call.state with directory := call.state.directory.erase target } }) ∨
      call.attemptUnlink calls target succeeds =
        (false, { call with state := (call.state.fail calls).countIoErrors }) := by
  unfold attemptUnlink
  cases succeeds with
  | false => exact .inr rfl
  | true =>
      rw [if_pos rfl]
      cases unlinked : call.state.unlink target with
      | error failure => exact .inr rfl
      | ok state =>
          rw [unlink_ok unlinked]
          exact .inl rfl

theorem rollback_advances (shaped : Shaped json call) (has : Has json call)
    (next : call.next = some .rollback) (accepted : Option Nat) :
    Advances json call (call.act json .rollback accepted) := by
  have active := shaped.active next
  have unrolled := shaped.unrolled .rollback next ⟨by decide, by decide⟩
  have published : call.state.published = true := by
    have flags := shaped.flags
    rw [next] at flags
    exact flags
  have holds := holding_final_kept json call published unrolled
  have stored := has _ _ holds
  unfold act
  dsimp only
  rcases attempt_unlink_cases call .rollback call.final accepted.isSome with done | failed
  · rw [done]
    let undone : PublicationCall :=
      { call with
        state := { call.state with directory := call.state.directory.erase call.final }
        rolledBack := true }
    have cleaned : Shaped json undone.cleaning :=
      cleaning_shaped ⟨active.suffix, active.unremoved, active.unanswered⟩ fun _ _ => .inl rfl
    have gone : holding json undone.cleaning call.final = none :=
      holding_final_free json undone.cleaning (.inr rfl)
    refine ⟨cleaned, rfl, rfl, rfl, changes_at call.final ?_ ?_ ?_ ?_⟩
    · intro other different
      exact holding_elsewhere json call undone.cleaning ⟨rfl, rfl, rfl⟩ other (.inr ⟨rfl, rfl, rfl⟩) (.inl different)
    · intro other different
      exact Finmap.lookup_erase_ne different
    · exact stored.trans holds.symm
    · exact (Finmap.lookup_erase _ _).trans gone.symm
  · rw [failed]
    let kept : PublicationCall :=
      { call with state := (call.state.fail .rollback).countIoErrors, rolledBack := false }
    have cleaned : Shaped json kept.cleaning :=
      cleaning_shaped ⟨active.suffix, active.unremoved, active.unanswered⟩
        fun _ _ => .inr List.mem_cons_self
    refine quiet_advances cleaned rfl rfl rfl (funext fun other => ?_) rfl
    exact holding_elsewhere json call kept.cleaning ⟨rfl, rfl, rfl⟩ other (.inr ⟨rfl, rfl, rfl⟩)
      (.inr ⟨rfl, unrolled.symm⟩)

theorem cleanup_advances (shaped : Shaped json call) (has : Has json call)
    (next : call.next = some .cleanup) (accepted : Option Nat) :
    Advances json call (call.act json .cleanup accepted) := by
  have active := shaped.active next
  have present : call.state.temporaryExists = true := by
    have flags := shaped.flags
    rw [next] at flags
    exact flags
  have handled (alive : call.killed = false) (published : call.state.published = true) :
      call.rolledBack = true ∨ .rollback ∈ call.state.failed := by
    refine shaped.handled ?_ alive active.unanswered published
    intro name continues inTry
    rw [next] at continues
    exact inTry.2 (Option.some.inj continues).symm
  unfold act
  dsimp only
  rcases attempt_unlink_cases call .cleanup call.temporary accepted.isSome
    with done | failed
  · rw [done]
    let removed : PublicationCall :=
      { call with
        state := { call.state with directory := call.state.directory.erase call.temporary }
        removed := true, next := none }
    have gone : holding json removed call.temporary = none :=
      holding_temporary_free json removed (.inr rfl)
    refine ⟨shaped_in_cleanup active.suffix active.unanswered nofun trivial nofun handled
      fun _ _ _ => .inl rfl, rfl, rfl, rfl, changes_at call.temporary ?_ ?_ ?_ ?_⟩
    · intro other different
      exact holding_elsewhere json call removed ⟨rfl, rfl, rfl⟩ other (.inl different) (.inr ⟨rfl, rfl⟩)
    · intro other different
      exact Finmap.lookup_erase_ne different
    · rw [holding_temporary_kept json call present active.unremoved]
      exact has_temporary has present active.unremoved
    · exact (Finmap.lookup_erase _ _).trans gone.symm
  · rw [failed]
    let kept : PublicationCall :=
      { call with
        state := (call.state.fail .cleanup).countIoErrors, removed := false, next := none }
    refine quiet_advances (shaped_in_cleanup active.suffix active.unanswered nofun trivial nofun
      (fun alive published => (handled alive published).imp_right (List.mem_cons_of_mem _))
      fun _ _ _ => .inr List.mem_cons_self) rfl rfl rfl (funext fun other => ?_) rfl
    exact holding_elsewhere json call kept ⟨rfl, rfl, rfl⟩ other
      (.inr ⟨rfl, active.unremoved.symm, rfl⟩) (.inr ⟨rfl, rfl⟩)

theorem act_advances (shaped : Shaped json call) (has : Has json call)
    (next : call.next = some name) (accepted : Option Nat) :
    Advances json call (call.act json name accepted) := by
  cases name with
  | create => exact create_advances shaped next accepted
  | write => exact write_advances shaped has next accepted
  | syncFile => exact sync_file_advances shaped next accepted
  | close => exact close_advances shaped next accepted
  | link => exact link_advances shaped has next accepted
  | unlinkTemporary => exact unlink_temporary_advances shaped has next accepted
  | syncDirectory => exact sync_directory_advances shaped next accepted
  | rollback => exact rollback_advances shaped has next accepted
  | closeAgain => exact close_again_advances shaped next accepted
  | cleanup => exact cleanup_advances shaped has next accepted

end Calls

/-! ## Any interleaving -/

section Runs

variable (json : JsonModule) (start : Directory)

/-- Every call is somewhere in its `try` statement or finished, and the directory is what it was
at the start with what the calls hold. -/
structure Orderly (state : CaptureDirectory) : Prop where
  shaped : ∀ call ∈ state.calls, Shaped json call
  partition : Partition start.lookup state.directory.lookup (state.calls.map (holding json))

theorem orderly_initial : Orderly json start { directory := start } :=
  ⟨fun _ => nofun, Partition.initial _⟩

theorem begins_shaped (capture : DescriptorLayoutCapture) (counters : DescriptorCaptureCounters)
    (inventory : DescriptorInventory) (token : String) (directory : Directory) :
    Shaped json
      { capture := capture, inventory := inventory, token := token,
        state := { directory := directory, counters := counters } } where
  flags := ⟨rfl, rfl⟩
  suffix := List.nil_suffix
  whole _ _ _ := rfl
  unremoved _ _ := ⟨rfl, rfl⟩
  unrolled _ _ _ := rfl
  answered _ answer := nomatch answer
  handled free := absurd ⟨by decide, by decide⟩ (free .create rfl)
  cleaned finished := nomatch finished

theorem step_orderly (state next : CaptureDirectory) (event : CaptureEvent)
    (orderly : Orderly json start state) (taken : step json state event = some next) :
    Orderly json start next := by
  cases event with
  | begins capture counters inventory token =>
      obtain ⟨_, same⟩ := Option.ite_none_right_eq_some.mp taken
      cases same
      refine ⟨?_, ?_⟩
      · intro call member
        rcases List.mem_append.mp member with old | new
        · exact orderly.shaped call old
        · rw [List.mem_singleton.mp new]
          exact begins_shaped json capture counters inventory token state.directory
      · rw [List.map_append, List.map_singleton]
        apply orderly.partition.join
        intro name
        unfold holding
        split
        · rfl
        · split
          · rfl
          · rfl
  | acts place accepted =>
      obtain ⟨call, found, acted⟩ := Option.bind_eq_some_iff.mp taken
      obtain ⟨name, continues, same⟩ := Option.map_eq_some_iff.mp acted
      cases same
      have member := List.mem_of_getElem? found
      have listed : (state.calls.map (holding json))[place]? = some (holding json call) := by
        rw [List.getElem?_map, found]
        rfl
      let current : PublicationCall :=
        { call with state := { call.state with directory := state.directory } }
      have shaped : Shaped json current := by
        obtain ⟨flags, suffix, whole, unremoved, unrolled, answered, handled, cleaned⟩ :=
          orderly.shaped call member
        exact ⟨flags, suffix, whole, unremoved, unrolled, answered, handled, cleaned⟩
      have has : Has json current := fun name entry holds =>
        orderly.partition.held _ (List.mem_of_getElem? listed) name entry holds
      have advances := act_advances shaped has continues accepted
      refine ⟨?_, ?_⟩
      · intro other listed
        rcases List.mem_or_eq_of_mem_set listed with old | new
        · exact orderly.shaped other old
        · rw [new]
          exact advances.shaped
      · change Partition _ _ ((state.calls.set place _).map _)
        rw [List.map_set]
        exact orderly.partition.change listed advances.changes
  | killed place =>
      obtain ⟨call, found, killed⟩ := Option.bind_eq_some_iff.mp taken
      obtain ⟨name, continues, same⟩ := Option.map_eq_some_iff.mp killed
      cases same
      have member := List.mem_of_getElem? found
      have shaped := orderly.shaped call member
      refine ⟨?_, ?_⟩
      · intro other listed
        rcases List.mem_or_eq_of_mem_set listed with old | new
        · exact orderly.shaped other old
        · rw [new]
          exact shaped_in_cleanup shaped.suffix (shaped.active continues).unanswered nofun trivial
            nofun nofun nofun
      · have listed : (state.calls.map (holding json))[place]? = some (holding json call) := by
          rw [List.getElem?_map, found]
          rfl
        change Partition _ _ ((state.calls.set place _).map _)
        rw [List.map_set]
        exact orderly.partition.change listed fun name => .inl ⟨rfl, rfl⟩

theorem reached_orderly (events : List CaptureEvent) (state : CaptureDirectory)
    (reached : Steps.run (step json) { directory := start } events = some state) :
    Orderly json start state :=
  Steps.invariant_run (step json) (Orderly json start)
    (fun before event after holds taken => step_orderly json start before after event holds taken)
    { directory := start } state events (orderly_initial json start) reached

/-! ## The directory at any moment -/

theorem temporary_not_json (call : PublicationCall) : isJson call.temporary = false := by
  unfold isJson PublicationCall.temporary DescriptorInventory.temporaryName
  rw [String.toList_append, ← Bool.not_eq_true]
  intro suffixed
  obtain ⟨front, same⟩ := List.isSuffixOf_iff_suffix.mp suffixed
  have last := congrArg List.getLast? same
  have json : ".json".toList.getLast? = some 'n' := by decide
  have tmp : ".tmp".toList.getLast? = some 'p' := by decide
  rw [List.getLast?_append, List.getLast?_append, json, tmp] at last
  exact absurd (Option.some.inj last) (by decide)

/-- What every observer of the directory can rely on, at any moment. A name of the start is
never touched, a name that the reader looks at has a whole inventory, what a call has
returned stays, no two calls return the same path, and nothing else is left once every call
is over whose handlers could remove what they had made. -/
structure Exposed (state : CaptureDirectory) : Prop where
  kept : ∀ name entry, start.lookup name = some entry → state.directory.lookup name = some entry
  complete : ∀ name entry, isJson name = true → start.lookup name = none →
    state.directory.lookup name = some entry →
      ∃ call ∈ state.calls, name = call.final ∧ entry = .file (call.data json)
  returned : ∀ call ∈ state.calls, ∀ path, call.answer = some path →
    path = call.capture.location call.inventory ∧ start.lookup call.final = none ∧
      state.directory.lookup call.final = some (.file (call.data json))
  once : state.calls.Pairwise fun first second =>
    first.answer.isSome = true → second.answer.isSome = true → first.final ≠ second.final
  tidy : (∀ call ∈ state.calls, call.next = none ∧ call.killed = false ∧
      .rollback ∉ call.state.failed ∧ .cleanup ∉ call.state.failed) →
    ∀ name entry, start.lookup name = none → state.directory.lookup name = some entry →
      ∃ call ∈ state.calls, call.answer.isSome = true ∧ name = call.final

theorem holding_answered {call : PublicationCall} (shaped : Shaped json call) {path : String}
    (answer : call.answer = some path) :
    holding json call call.final = some (.file (call.data json)) := by
  obtain ⟨_, published, unrolled, _⟩ := shaped.answered path answer
  exact holding_final_kept json call published unrolled

/-- A call that is finished holds nothing but what it has returned. -/
theorem holding_over {call : PublicationCall} (shaped : Shaped json call)
    (finished : call.next = none) (alive : call.killed = false)
    (rolledBack : .rollback ∉ call.state.failed) (removed : .cleanup ∉ call.state.failed)
    {name : String} {entry : DirectoryEntry} (holds : holding json call name = some entry) :
    call.answer.isSome = true ∧ name = call.final := by
  unfold holding at holds
  split at holds
  · obtain ⟨held, _⟩ := Option.ite_none_right_eq_some.mp holds
    obtain ⟨present, kept⟩ := Bool.and_eq_true_iff.mp held
    have gone := (shaped.cleaned finished alive present).resolve_right removed
    rw [gone] at kept
    cases kept
  · obtain ⟨isFinal, holds⟩ := Option.ite_none_right_eq_some.mp holds
    obtain ⟨held, _⟩ := Option.ite_none_right_eq_some.mp holds
    obtain ⟨published, kept⟩ := Bool.and_eq_true_iff.mp held
    refine ⟨?_, isFinal⟩
    cases answer : call.answer with
    | some path => rfl
    | none =>
        have last : ∀ name, call.next = some name → ¬ InTry name := by
          intro name continues
          rw [finished] at continues
          cases continues
        have gone := (shaped.handled last alive answer published).resolve_right rolledBack
        rw [gone] at kept
        cases kept

theorem orderly_exposed (state : CaptureDirectory) (orderly : Orderly json start state) :
    Exposed json start state := by
  have partition := orderly.partition
  refine ⟨partition.kept, ?_, ?_, ?_, ?_⟩
  · intro name entry readable free found
    rcases partition.made name entry found with atStart | ⟨held, listed, holds⟩
    · rw [free] at atStart
      cases atStart
    · obtain ⟨call, member, rfl⟩ := List.mem_map.mp listed
      unfold holding at holds
      split at holds
      · rename_i isTemporary
        rw [isTemporary, temporary_not_json] at readable
        cases readable
      · obtain ⟨isFinal, holds⟩ := Option.ite_none_right_eq_some.mp holds
        obtain ⟨_, same⟩ := Option.ite_none_right_eq_some.mp holds
        exact ⟨call, member, isFinal, (Option.some.inj same).symm⟩
  · intro call member path answer
    have shaped := orderly.shaped call member
    have holds := holding_answered json shaped answer
    have listed : holding json call ∈ state.calls.map (holding json) := List.mem_map_of_mem member
    refine ⟨(shaped.answered path answer).1, ?_, partition.held _ listed _ _ holds⟩
    cases atStart : start.lookup call.final with
    | none => rfl
    | some entry =>
        have reserved := partition.reserved _ entry atStart _ listed
        rw [holds] at reserved
        cases reserved
  · have apart := List.pairwise_map.mp partition.apart
    refine List.Pairwise.imp_of_mem ?_ apart
    intro first second firstMember secondMember apart firstAnswered secondAnswered same
    obtain ⟨_, firstAnswer⟩ := Option.isSome_iff_exists.mp firstAnswered
    obtain ⟨_, secondAnswer⟩ := Option.isSome_iff_exists.mp secondAnswered
    have firstHolds := holding_answered json (orderly.shaped first firstMember) firstAnswer
    have secondHolds := holding_answered json (orderly.shaped second secondMember) secondAnswer
    rcases apart first.final with none | none
    · rw [firstHolds] at none
      cases none
    · rw [same, secondHolds] at none
      cases none
  · intro finished name entry free found
    rcases partition.made name entry found with atStart | ⟨held, listed, holds⟩
    · rw [free] at atStart
      cases atStart
    · obtain ⟨call, member, rfl⟩ := List.mem_map.mp listed
      obtain ⟨ended, alive, rolledBack, removed⟩ := finished call member
      exact ⟨call, member, holding_over json (orderly.shaped call member) ended alive rolledBack
        removed holds⟩

/-- A call that has returned a path takes no further step. -/
theorem step_answered (state next : CaptureDirectory) (event : CaptureEvent)
    (orderly : Orderly json start state) (taken : step json state event = some next)
    (place : Nat) (call : PublicationCall) (found : state.calls[place]? = some call)
    (path : String) (answer : call.answer = some path) : next.calls[place]? = some call := by
  have stopped (name : SystemCall) : call.next ≠ some name := by
    intro continues
    have unanswered := ((orderly.shaped call (List.mem_of_getElem? found)).unremoved name
      continues).2
    rw [answer] at unanswered
    cases unanswered
  have elsewhere (other : Nat) (acting : PublicationCall) (name : SystemCall)
      (here : state.calls[other]? = some acting) (continues : acting.next = some name)
      (changed : PublicationCall) : (state.calls.set other changed)[place]? = some call := by
    rw [List.getElem?_set_ne]
    · exact found
    · rintro rfl
      rw [found] at here
      cases here
      exact stopped name continues
  cases event with
  | begins capture counters inventory token =>
      obtain ⟨_, same⟩ := Option.ite_none_right_eq_some.mp taken
      cases same
      exact (List.getElem?_append_left (List.getElem?_eq_some_iff.mp found).1).trans found
  | acts other accepted =>
      obtain ⟨acting, here, acted⟩ := Option.bind_eq_some_iff.mp taken
      obtain ⟨name, continues, same⟩ := Option.map_eq_some_iff.mp acted
      cases same
      exact elsewhere other acting name here continues _
  | killed other =>
      obtain ⟨acting, here, killed⟩ := Option.bind_eq_some_iff.mp taken
      obtain ⟨name, continues, same⟩ := Option.map_eq_some_iff.mp killed
      cases same
      exact elsewhere other acting name here continues _

theorem run_answered (events : List CaptureEvent) (middle state : CaptureDirectory)
    (orderly : Orderly json start middle)
    (reached : Steps.run (step json) middle events = some state) (place : Nat)
    (call : PublicationCall) (found : middle.calls[place]? = some call) (path : String)
    (answer : call.answer = some path) :
    Orderly json start state ∧ state.calls[place]? = some call := by
  refine Steps.invariant_run (step json)
    (fun state => Orderly json start state ∧ state.calls[place]? = some call) ?_ middle state
    events ⟨orderly, found⟩ reached
  rintro before event after ⟨holds, here⟩ taken
  exact ⟨step_orderly json start before after event holds taken,
    step_answered json start before after event holds taken place call here path answer⟩

/-- Whatever calls publish into a directory, in whatever order their system calls fall,
which of them fail and whoever is killed, its readers can rely on the directory at every
moment, and the file of a path that has been returned stays as it is. -/
theorem directory_exposed_at_every_moment (events later : List CaptureEvent)
    (middle state : CaptureDirectory)
    (reached : Steps.run (step json) { directory := start } events = some middle)
    (continued : Steps.run (step json) middle later = some state) :
    Exposed json start state ∧
      ∀ (place : Nat) (call : PublicationCall) (path : String),
        middle.calls[place]? = some call → call.answer = some path →
          state.calls[place]? = some call ∧
          state.directory.lookup call.final = some (.file (call.data json)) := by
  have first := reached_orderly json start events middle reached
  have whole : Steps.run (step json) { directory := start } (events ++ later) = some state :=
    (Steps.run_append_iff (step json) _ _ _ _).mpr ⟨middle, reached, continued⟩
  have exposed := orderly_exposed json start state
    (reached_orderly json start (events ++ later) state whole)
  refine ⟨exposed, ?_⟩
  intro place call path found answer
  have stays := (run_answered json start later middle state first continued place call found path
    answer).2
  exact ⟨stays, (exposed.returned call (List.mem_of_getElem? stays) path answer).2.2⟩

end Runs

/-- A call that publishes the inventory. -/
def publishingEvents : List CaptureEvent :=
  .begins sampleCapture {} sampleInventory "0123456789abcdef" ::
    List.replicate 7 (.acts 0 (some defaultMaxDescriptorRecordBytes))

/-- A second call for the same transfer, killed after it has written 16 bytes. -/
def killedEvents : List CaptureEvent :=
  [.begins sampleCapture {} sampleInventory "fedcba9876543210", .acts 1 (some 0),
    .acts 1 (some 16), .killed 1]

theorem sample_directory_exposed :
    ∃ middle state, Steps.run (step writingJson) { directory := ∅ } publishingEvents =
        some middle ∧
      Steps.run (step writingJson) middle killedEvents = some state ∧
      Exposed writingJson ∅ state ∧
      ∃ call path, middle.calls[0]? = some call ∧ call.answer = some path ∧
        state.directory.lookup call.final = some (.file (call.data writingJson)) := by
  have runs : (Steps.run (step writingJson) { directory := ∅ }
      (publishingEvents ++ killedEvents)).isSome = true := by decide +kernel
  have answers : ((Steps.run (step writingJson) { directory := ∅ } publishingEvents).bind
      fun state => (state.calls[0]?).bind PublicationCall.answer).isSome = true := by
    decide +kernel
  obtain ⟨state, whole⟩ := Option.isSome_iff_exists.mp runs
  obtain ⟨middle, reached, continued⟩ :=
    (Steps.run_append_iff (step writingJson) _ _ _ _).mp whole
  obtain ⟨path, answered⟩ := Option.isSome_iff_exists.mp answers
  rw [reached, Option.bind_some] at answered
  obtain ⟨call, found, answer⟩ := Option.bind_eq_some_iff.mp answered
  obtain ⟨exposed, stays⟩ := directory_exposed_at_every_moment writingJson ∅ publishingEvents
    killedEvents middle state reached continued
  exact ⟨middle, state, reached, continued, exposed, call, path, found, answer,
    (stays 0 call path found answer).2⟩

end KVTransferObservability.PublicationInterleavings
