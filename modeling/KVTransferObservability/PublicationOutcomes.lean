import KVTransferObservability.DescriptorPublication

/-!
# What a publication leaves

At every point where a system call may raise, `temporary_exists` and `published` describe
the directory. The handlers and the cleanup rely on nothing else, so the directory is as
before whenever no path is returned, unless an `unlink` of theirs fails.
-/

namespace KVTransferObservability.PublicationOutcomes

open PythonValues Library RecordText EventSink Descriptors DescriptorPublication
open Block (Ensures)

set_option autoImplicit false

/-! ## What the two flags say about the directory -/

/-- The directory, the flags and the counter of published files are the same. -/
structure SameFiles (state next : Publication) : Prop where
  directory : next.directory = state.directory
  temporaryExists : next.temporaryExists = state.temporaryExists
  published : next.published = state.published
  written : next.counters.written = state.counters.written

section Flags

variable (start : Directory) (written : Nat) (temporary final : String) (data : Bytes)

/-- Names other than the two, and the counter of published files, are as before. -/
structure Elsewhere (state : Publication) : Prop where
  others : ∀ name, name ≠ temporary → name ≠ final →
    state.directory.lookup name = start.lookup name
  written : state.counters.written = written

/-- `temporary_exists` is set exactly while the call owns the temporary name. -/
structure TemporaryFlag (state : Publication) : Prop where
  owned : state.temporaryExists = true →
    start.lookup temporary = none ∧ temporary ∈ state.directory
  free : state.temporaryExists = false →
    state.directory.lookup temporary = start.lookup temporary

/-- `published` is set exactly when the final name has the whole content. -/
structure FinalFlag (state : Publication) : Prop where
  linked : state.published = true →
    start.lookup final = none ∧ state.directory.lookup final = some (.file data)
  unlinked : state.published = false → state.directory.lookup final = start.lookup final

/-- Both flags describe the directory. -/
structure Described (state : Publication) : Prop where
  elsewhere : Elsewhere start written temporary final state
  temporary : TemporaryFlag start temporary state
  final : FinalFlag start final data state

/-- Nothing has been created yet. -/
structure Unstarted (state : Publication) : Prop where
  described : Described start written temporary final data state
  temporaryExists : state.temporaryExists = false
  published : state.published = false

/-- The temporary file holds the content, and the final name is untouched. -/
structure Staged (content : Bytes) (state : Publication) : Prop where
  described : Described start written temporary final data state
  temporaryExists : state.temporaryExists = true
  published : state.published = false
  content : state.directory.lookup temporary = some (.file content)

/-- Both names have the file. -/
structure Linked (state : Publication) : Prop where
  described : Described start written temporary final data state
  temporaryExists : state.temporaryExists = true
  published : state.published = true

/-- Only the final name is left. -/
structure Complete (state : Publication) : Prop where
  described : Described start written temporary final data state
  temporaryExists : state.temporaryExists = false
  published : state.published = true
  fresh : start.lookup temporary = none

/-- How the body is left: what is raised finds flags that describe the directory, and an
existing name is met before anything is published. -/
def BodyLeft : Completion (Option String) OsFailure → Publication → Prop
  | .normal, state => Complete start written temporary final data state
  | .returned _, _ => False
  | .raised failure, state =>
      Described start written temporary final data state ∧
        (failure = .fileExists → state.published = false)

end Flags

section Rules

variable {pattern : FailurePattern} {before : Publication → Prop}
variable {after : Completion (Option String) OsFailure → Publication → Prop}

/-- A system call has its effect, or raises and leaves everything but the record of
failed calls alone. -/
theorem ensures_system_call {name : SystemCall} {act : Publication → Except OsFailure Publication}
    (succeeds : ∀ state next, before state → act state = .ok next → after .normal next)
    (fails : ∀ state failure, before state → act state = .error failure →
      after (.raised failure) (state.fail name))
    (refused : ∀ state, before state → after (.raised .osError) (state.fail name)) :
    Ensures before (systemCall pattern name act) after := by
  intro state holds
  unfold systemCall
  split
  · cases result : act state with
    | ok next => exact ⟨.normal, next, rfl, succeeds state next holds result⟩
    | error failure => exact ⟨.raised failure, _, rfl, fails state failure holds result⟩
  · exact ⟨.raised .osError, _, rfl, refused state holds⟩

/-- The calls on descriptors change no name. -/
theorem ensures_sync {name : SystemCall}
    (succeeds : ∀ state, before state → after .normal state)
    (refused : ∀ state, before state → after (.raised .osError) (state.fail name)) :
    Ensures before (systemCall pattern name .ok) after := by
  apply ensures_system_call
  · intro state next holds same
    cases same
    exact succeeds state holds
  · intro state failure _ raised
    cases raised
  · exact refused

theorem ensures_unlink {name : SystemCall} {target : String}
    (succeeds : ∀ state, before state → target ∈ state.directory →
      after .normal { state with directory := state.directory.erase target })
    (missing : ∀ state, before state → target ∈ state.directory)
    (refused : ∀ state, before state → after (.raised .osError) (state.fail name)) :
    Ensures before (systemCall pattern name (Publication.unlink target)) after := by
  apply ensures_system_call
  · intro state next holds removed
    have present := missing state holds
    unfold Publication.unlink at removed
    rw [if_pos present] at removed
    cases removed
    exact succeeds state holds present
  · intro state failure holds raised
    unfold Publication.unlink at raised
    rw [if_pos (missing state holds)] at raised
    cases raised
  · exact refused

/-- A suppressed failure is counted, and the statement falls through. -/
theorem ensures_suppressed {block : CaptureBlock} {count : Publication → Publication}
    (runs : Ensures before block fun exit state => match exit with
      | .normal => after .normal state
      | .returned _ => False
      | .raised _ => after .normal (count state)) :
    Ensures before (suppressed block count) after := by
  apply Ensures.handled runs
  · intro state result
    exact result
  · intro value state impossible
    exact impossible.elim
  · intro failure
    apply Ensures.perform
    intro state result
    exact result

end Rules

section Body

variable (start : Directory) (written : Nat) (temporary final : String) (data : Bytes)
variable (pattern : FailurePattern)

theorem described_frame {state next : Publication}
    (holds : Described start written temporary final data state) (same : SameFiles state next) :
    Described start written temporary final data next := by
  obtain ⟨directory, temporaryExists, published, counted⟩ := same
  refine ⟨⟨?_, ?_⟩, ⟨?_, ?_⟩, ⟨?_, ?_⟩⟩
  · rw [directory]
    exact holds.elsewhere.others
  · rw [counted]
    exact holds.elsewhere.written
  · rw [directory, temporaryExists]
    exact holds.temporary.owned
  · rw [directory, temporaryExists]
    exact holds.temporary.free
  · rw [directory, published]
    exact holds.final.linked
  · rw [directory, published]
    exact holds.final.unlinked

theorem staged_frame {content : Bytes} {state next : Publication}
    (staged : Staged start written temporary final data content state)
    (same : SameFiles state next) :
    Staged start written temporary final data content next := by
  refine ⟨described_frame start written temporary final data staged.described same, ?_, ?_, ?_⟩
  · rw [same.temporaryExists]
    exact staged.temporaryExists
  · rw [same.published]
    exact staged.published
  · rw [same.directory]
    exact staged.content

/-- What the body is left with when a call raises `OSError`. -/
theorem raised_described {state : Publication} (name : SystemCall)
    (holds : Described start written temporary final data state) :
    BodyLeft start written temporary final data (.raised .osError) (state.fail name) :=
  ⟨described_frame start written temporary final data holds ⟨rfl, rfl, rfl, rfl⟩,
    fun impossible => by cases impossible⟩

theorem ensures_create (distinct : temporary ≠ final) :
    Ensures (Unstarted start written temporary final data)
      (systemCall pattern .create (Publication.create temporary))
      (Block.through
        (fun state => Staged start written temporary final data []
          { state with descriptor := true, temporaryExists := true })
        (BodyLeft start written temporary final data)) := by
  apply ensures_system_call
  · intro state next holds created
    unfold Publication.create at created
    split at created
    · cases created
    · rename_i absent
      cases created
      have free := holds.described.temporary.free holds.temporaryExists
      have fresh : start.lookup temporary = none := by
        rw [← free]
        exact Finmap.lookup_eq_none.mpr absent
      refine ⟨⟨⟨?_, holds.described.elsewhere.written⟩, ⟨?_, ?_⟩, ⟨?_, ?_⟩⟩, rfl, holds.published,
        Finmap.lookup_insert _⟩
      · intro name notTemporary notFinal
        rw [Finmap.lookup_insert_of_ne _ notTemporary]
        exact holds.described.elsewhere.others name notTemporary notFinal
      · intro _
        exact ⟨fresh, Finmap.mem_insert.mpr (Or.inl rfl)⟩
      · intro impossible
        cases impossible
      · intro linked
        rw [holds.published] at linked
        cases linked
      · intro _
        rw [Finmap.lookup_insert_of_ne _ distinct.symm]
        exact holds.described.final.unlinked holds.published
  · intro state failure holds raised
    exact ⟨described_frame start written temporary final data holds.described
      ⟨rfl, rfl, rfl, rfl⟩, fun _ => holds.published⟩
  · intro state holds
    exact raised_described start written temporary final data _ holds.described

/-- Bytes are appended to a staged file, and the loop takes them off its view. -/
theorem staged_append {content : Bytes} {state : Publication} (bytes view : Bytes) (writes : Nat)
    (distinct : temporary ≠ final)
    (staged : Staged start written temporary final data content state) :
    Staged start written temporary final data (content ++ bytes)
      { state.append temporary bytes with writes := writes, view := view } := by
  have described := staged.described
  have appended : state.append temporary bytes = { state with
      directory := state.directory.insert temporary (.file (content ++ bytes)) } := by
    unfold Publication.append
    rw [staged.content]
  rw [appended]
  refine ⟨⟨⟨?_, described.elsewhere.written⟩, ⟨?_, ?_⟩, ⟨?_, ?_⟩⟩, staged.temporaryExists,
    staged.published, Finmap.lookup_insert _⟩
  · intro name notTemporary notFinal
    rw [Finmap.lookup_insert_of_ne _ notTemporary]
    exact described.elsewhere.others name notTemporary notFinal
  · intro owned
    exact ⟨(described.temporary.owned owned).1, Finmap.mem_insert.mpr (Or.inl rfl)⟩
  · intro free
    have owned := staged.temporaryExists
    rw [free] at owned
    cases owned
  · intro linked
    have unpublished := staged.published
    rw [linked] at unpublished
    cases unpublished
  · intro unlinked
    rw [Finmap.lookup_insert_of_ne _ distinct.symm]
    exact described.final.unlinked unlinked

theorem staged_raised {content : Bytes} {state : Publication} (failure : OsFailure)
    (staged : Staged start written temporary final data content state) :
    BodyLeft start written temporary final data (.raised failure) state :=
  ⟨staged.described, fun _ => staged.published⟩

/-- What has been written and what is left to write make up the data. -/
def Writing (state : Publication) : Prop :=
  ∃ content, Staged start written temporary final data content state ∧
    content ++ state.view = data

theorem ensures_round (distinct : temporary ≠ final) (size : Nat) :
    Ensures
      (fun state => Writing start written temporary final data state ∧
        (!state.view.isEmpty) = true ∧ state.view.length = size)
      (writeRound pattern temporary)
      (Block.through
        (fun state => Writing start written temporary final data state ∧ state.view.length < size)
        (Block.through (Staged start written temporary final data data)
          (BodyLeft start written temporary final data))) := by
  intro state holds
  obtain ⟨⟨content, staged, whole⟩, remaining, sized⟩ := holds
  unfold writeRound
  split
  · exact ⟨_, _, rfl, staged_raised start written temporary final data _
      (staged_frame start written temporary final data staged ⟨rfl, rfl, rfl, rfl⟩)⟩
  · rename_i accepted _
    dsimp only
    split
    · exact ⟨_, _, rfl, staged_raised start written temporary final data _
        (staged_append start written temporary final data _ _ _ distinct staged)⟩
    · rename_i progress
      refine ⟨_, _, rfl, ⟨content ++ state.view.take (min accepted state.view.length),
        staged_append start written temporary final data _ _ _ distinct staged, ?_⟩, ?_⟩
      · dsimp only
        rw [List.append_assoc, List.take_append_drop]
        exact whole
      · dsimp only
        rw [List.length_drop]
        omega

theorem ensures_write_all (distinct : temporary ≠ final) (fuel : Nat)
    (enough : data.length < fuel) :
    Ensures (Staged start written temporary final data [])
      (writeAll pattern temporary data fuel)
      (Block.through (Staged start written temporary final data data)
        (BodyLeft start written temporary final data)) := by
  have begins : Ensures (Staged start written temporary final data [])
      (Block.perform fun state => { state with view := data })
      (Block.through
        (fun state => Writing start written temporary final data state ∧
          state.view.length < fuel)
        (Block.through (Staged start written temporary final data data)
          (BodyLeft start written temporary final data))) := by
    apply Ensures.perform
    intro state staged
    exact ⟨⟨[], staged_frame start written temporary final data staged ⟨rfl, rfl, rfl, rfl⟩, rfl⟩, enough⟩
  apply Ensures.andThen begins
  apply Ensures.loop
  · exact ensures_round start written temporary final data pattern distinct
  · intro state holds finished
    obtain ⟨content, staged, whole⟩ := holds
    have empty : state.view = [] := by
      rw [Bool.not_eq_false', List.isEmpty_iff] at finished
      exact finished
    rw [empty, List.append_nil] at whole
    rw [whole] at staged
    exact staged

theorem ensures_link :
    Ensures (Staged start written temporary final data data)
      (systemCall pattern .link (Publication.link temporary final))
      (Block.through
        (fun state => Linked start written temporary final data { state with published := true })
        (BodyLeft start written temporary final data)) := by
  apply ensures_system_call
  · intro state next staged linked
    unfold Publication.link at linked
    rw [staged.content] at linked
    dsimp only at linked
    split at linked
    · cases linked
    · rename_i absent
      cases linked
      have described := staged.described
      have fresh : start.lookup final = none := by
        rw [← described.final.unlinked staged.published]
        exact Finmap.lookup_eq_none.mpr absent
      refine ⟨⟨⟨?_, described.elsewhere.written⟩, ⟨?_, ?_⟩, ⟨?_, ?_⟩⟩, staged.temporaryExists, rfl⟩
      · intro name notTemporary notFinal
        rw [Finmap.lookup_insert_of_ne _ notFinal]
        exact described.elsewhere.others name notTemporary notFinal
      · intro owned
        obtain ⟨absentBefore, present⟩ := described.temporary.owned owned
        exact ⟨absentBefore, Finmap.mem_insert.mpr (Or.inr present)⟩
      · intro free
        have owned := staged.temporaryExists
        rw [free] at owned
        cases owned
      · intro _
        exact ⟨fresh, Finmap.lookup_insert _⟩
      · intro impossible
        cases impossible
  · intro state failure staged raised
    exact staged_raised start written temporary final data failure
      (staged_frame start written temporary final data staged ⟨rfl, rfl, rfl, rfl⟩)
  · intro state staged
    exact raised_described start written temporary final data _ staged.described

theorem ensures_unlink_temporary (distinct : temporary ≠ final) :
    Ensures (Linked start written temporary final data)
      (systemCall pattern .unlinkTemporary (Publication.unlink temporary))
      (Block.through
        (fun state =>
          Complete start written temporary final data { state with temporaryExists := false })
        (BodyLeft start written temporary final data)) := by
  apply ensures_unlink
  · intro state linked _
    have described := linked.described
    have fresh := (described.temporary.owned linked.temporaryExists).1
    refine ⟨⟨⟨?_, described.elsewhere.written⟩, ⟨?_, ?_⟩, ⟨?_, ?_⟩⟩, rfl, linked.published, fresh⟩
    · intro name notTemporary notFinal
      rw [Finmap.lookup_erase_ne notTemporary]
      exact described.elsewhere.others name notTemporary notFinal
    · intro impossible
      cases impossible
    · intro _
      rw [Finmap.lookup_erase, fresh]
    · intro published
      rw [Finmap.lookup_erase_ne distinct.symm]
      exact described.final.linked published
    · intro unpublished
      have published := linked.published
      rw [unpublished] at published
      cases published
  · intro state linked
    exact (linked.described.temporary.owned linked.temporaryExists).2
  · intro state linked
    exact raised_described start written temporary final data _ linked.described

/-- A call on a descriptor keeps what holds of the directory. -/
theorem ensures_kept {holds : Publication → Prop} (name : SystemCall)
    (described : ∀ state, holds state → Described start written temporary final data state) :
    Ensures holds (systemCall pattern name .ok)
      (Block.through holds (BodyLeft start written temporary final data)) := by
  apply ensures_sync
  · intro state held
    exact held
  · intro state held
    exact raised_described start written temporary final data name (described state held)

/-- At every point where a call may raise, the flags describe the directory. -/
theorem ensures_body (distinct : temporary ≠ final) (fuel : Nat) (enough : data.length < fuel) :
    Ensures (Unstarted start written temporary final data)
      (publishBody pattern temporary final data fuel)
      (BodyLeft start written temporary final data) := by
  have staged : ∀ state, Staged start written temporary final data data state →
      Described start written temporary final data state := fun _ holds => holds.described
  have complete : ∀ state, Complete start written temporary final data state →
      Described start written temporary final data state := fun _ holds => holds.described
  have closed : Ensures (Staged start written temporary final data data)
      (Block.perform fun state => { state with descriptor := false })
      (Block.through (Staged start written temporary final data data)
        (BodyLeft start written temporary final data)) := by
    apply Ensures.perform
    intro state holds
    exact staged_frame start written temporary final data holds ⟨rfl, rfl, rfl, rfl⟩
  apply Ensures.chain_cons
    (ensures_create start written temporary final data pattern distinct)
  apply Ensures.chain_cons (Ensures.assign _)
  apply Ensures.chain_cons
    (ensures_write_all start written temporary final data pattern distinct fuel enough)
  apply Ensures.chain_cons
    (ensures_kept start written temporary final data pattern .syncFile staged)
  apply Ensures.chain_cons (ensures_kept start written temporary final data pattern .close staged)
  apply Ensures.chain_cons closed
  apply Ensures.chain_cons (ensures_link start written temporary final data pattern)
  apply Ensures.chain_cons (Ensures.assign _)
  apply Ensures.chain_cons
    (ensures_unlink_temporary start written temporary final data pattern distinct)
  apply Ensures.chain_cons (Ensures.assign _)
  apply Ensures.chain_cons
    (ensures_kept start written temporary final data pattern .syncDirectory complete)
  exact Ensures.chain_nil fun _ holds => holds

/-! ## The handlers and the cleanup -/

/-- After a handler: a published file is gone again unless the rollback has failed. -/
structure Rolled (state : Publication) : Prop where
  elsewhere : Elsewhere start written temporary final state
  temporary : TemporaryFlag start temporary state
  final : state.directory.lookup final = start.lookup final ∨
    (start.lookup final = none ∧ SystemCall.rollback ∈ state.failed)

/-- After the cleanup: the same of the temporary name. -/
structure Settled (state : Publication) : Prop where
  elsewhere : Elsewhere start written temporary final state
  temporary : state.directory.lookup temporary = start.lookup temporary ∨
    (start.lookup temporary = none ∧ SystemCall.cleanup ∈ state.failed)
  final : state.directory.lookup final = start.lookup final ∨
    (start.lookup final = none ∧ SystemCall.rollback ∈ state.failed)

def HandlersLeft : Completion (Option String) OsFailure → Publication → Prop
  | .normal, state => Complete start written temporary final data state
  | .returned answer, state => answer = none ∧ Rolled start written temporary final state
  | .raised _, _ => False

def CleanupLeft : Completion (Option String) OsFailure → Publication → Prop
  | .normal, state => Complete start written temporary final data state
  | .returned answer, state => answer = none ∧ Settled start written temporary final state
  | .raised _, _ => False

theorem ensures_conflict :
    Ensures
      (fun state => Described start written temporary final data state ∧ state.published = false)
      (publishHandler pattern final .fileExists)
      (HandlersLeft start written temporary final data) := by
  have counted : Ensures
      (fun state => Described start written temporary final data state ∧ state.published = false)
      (Block.perform Publication.countConflicts)
      (Block.through (Rolled start written temporary final)
        (HandlersLeft start written temporary final data)) := by
    apply Ensures.perform
    intro state holds
    obtain ⟨described, unpublished⟩ := holds
    exact ⟨⟨described.elsewhere.others, described.elsewhere.written⟩,
      ⟨described.temporary.owned, described.temporary.free⟩,
      .inl (described.final.unlinked unpublished)⟩
  apply Ensures.chain_cons counted
  apply Ensures.chain_cons
  · apply Ensures.giveBack
    intro state rolled
    exact ⟨rfl, rolled⟩
  · exact Ensures.chain_nil fun _ holds => holds

/-- The rollback of a file that has been published. -/
theorem ensures_rollback (distinct : temporary ≠ final) :
    Ensures
      (fun state => Described start written temporary final data state ∧ state.published = true)
      (suppressed (systemCall pattern .rollback (Publication.unlink final))
        Publication.countIoErrors)
      (Block.through (Rolled start written temporary final)
        (HandlersLeft start written temporary final data)) := by
  apply ensures_suppressed
  apply ensures_unlink
  · intro state holds _
    obtain ⟨described, published⟩ := holds
    refine ⟨⟨?_, described.elsewhere.written⟩, ⟨?_, ?_⟩, .inl ?_⟩
    · intro name notTemporary notFinal
      rw [Finmap.lookup_erase_ne notFinal]
      exact described.elsewhere.others name notTemporary notFinal
    · intro owned
      obtain ⟨fresh, present⟩ := described.temporary.owned owned
      exact ⟨fresh, Finmap.mem_erase.mpr ⟨distinct, present⟩⟩
    · intro free
      rw [Finmap.lookup_erase_ne distinct]
      exact described.temporary.free free
    · rw [Finmap.lookup_erase, (described.final.linked published).1]
  · intro state holds
    exact Dict.mem_of_lookup (holds.1.final.linked holds.2).2
  · intro state holds
    obtain ⟨described, published⟩ := holds
    exact ⟨⟨described.elsewhere.others, described.elsewhere.written⟩,
      ⟨described.temporary.owned, described.temporary.free⟩,
      .inr ⟨(described.final.linked published).1, List.mem_cons_self⟩⟩

theorem ensures_os_error (distinct : temporary ≠ final) :
    Ensures (Described start written temporary final data)
      (publishHandler pattern final .osError) (HandlersLeft start written temporary final data) := by
  have counted : Ensures (Described start written temporary final data)
      (Block.perform Publication.countIoErrors)
      (Block.through (Described start written temporary final data)
        (HandlersLeft start written temporary final data)) := by
    apply Ensures.perform
    intro state described
    exact described_frame start written temporary final data described ⟨rfl, rfl, rfl, rfl⟩
  apply Ensures.chain_cons counted
  apply Ensures.chain_cons
  · apply Ensures.guarded
    · exact ensures_rollback start written temporary final data pattern distinct
    · intro state described unpublished
      exact ⟨described.elsewhere, described.temporary,
        .inl (described.final.unlinked unpublished)⟩
  · apply Ensures.chain_cons
    · apply Ensures.giveBack
      intro state rolled
      exact ⟨rfl, rolled⟩
    · exact Ensures.chain_nil fun _ holds => holds

theorem ensures_handled (distinct : temporary ≠ final) (fuel : Nat)
    (enough : data.length < fuel) :
    Ensures (Unstarted start written temporary final data)
      (Block.handled (publishBody pattern temporary final data fuel)
        (publishHandler pattern final))
      (HandlersLeft start written temporary final data) := by
  apply Ensures.handled
    (ensures_body start written temporary final data pattern distinct fuel enough)
  · intro state complete
    exact complete
  · intro value state impossible
    exact impossible.elim
  · intro failure
    cases failure with
    | fileExists =>
        apply (ensures_conflict start written temporary final data pattern).strengthen
        intro state left
        exact ⟨left.1, left.2 rfl⟩
    | osError =>
        apply (ensures_os_error start written temporary final data pattern distinct).strengthen
        intro state left
        exact left.1

/-- Closing the descriptor once more changes nothing that is claimed. -/
theorem ensures_close_again {holds : Publication → Prop}
    {after : Completion (Option String) OsFailure → Publication → Prop}
    (kept : ∀ state, holds state → holds (state.fail .closeAgain)) :
    Ensures holds
      (Block.guarded Publication.descriptor (suppressed (systemCall pattern .closeAgain .ok) id))
      (Block.through holds after) := by
  apply Ensures.guarded
  · apply ensures_suppressed
    apply ensures_sync
    · intro state held
      exact held.1
    · intro state held
      exact kept state held.1
  · intro state held _
    exact held

/-- A failed call leaves the published name as it was, and only adds to the failures. -/
theorem rolled_final_fail {state : Publication} (name : SystemCall)
    (rolled : Rolled start written temporary final state) :
    (state.fail name).directory.lookup final = start.lookup final ∨
      (start.lookup final = none ∧ SystemCall.rollback ∈ (state.fail name).failed) := by
  rcases rolled.final with same | ⟨fresh, failed⟩
  · exact .inl same
  · exact .inr ⟨fresh, List.mem_cons_of_mem _ failed⟩

theorem rolled_settles {state : Publication} (rolled : Rolled start written temporary final state)
    (distinct : temporary ≠ final) (owned : state.temporaryExists = true) :
    Settled start written temporary final
      { state with directory := state.directory.erase temporary } := by
  refine ⟨⟨?_, rolled.elsewhere.written⟩, .inl ?_, ?_⟩
  · intro name notTemporary notFinal
    rw [Finmap.lookup_erase_ne notTemporary]
    exact rolled.elsewhere.others name notTemporary notFinal
  · rw [Finmap.lookup_erase, (rolled.temporary.owned owned).1]
  · rw [Finmap.lookup_erase_ne distinct.symm]
    exact rolled.final

/-- The cleanup of a call that returns `None`. -/
theorem ensures_settled (distinct : temporary ≠ final) :
    Ensures (Rolled start written temporary final) (publishCleanup pattern temporary)
      (fun left state => left = .normal ∧ Settled start written temporary final state) := by
  apply Ensures.chain_cons
  · apply ensures_close_again
    intro state rolled
    exact ⟨⟨rolled.elsewhere.others, rolled.elsewhere.written⟩,
      ⟨rolled.temporary.owned, rolled.temporary.free⟩,
      rolled_final_fail start written temporary final .closeAgain rolled⟩
  · apply Ensures.chain_cons
    · apply Ensures.guarded
      · apply ensures_suppressed
        apply ensures_unlink
        · intro state holds _
          exact rolled_settles start written temporary final holds.1 distinct holds.2
        · intro state holds
          exact (holds.1.temporary.owned holds.2).2
        · intro state holds
          obtain ⟨rolled, owned⟩ := holds
          exact ⟨⟨rolled.elsewhere.others, rolled.elsewhere.written⟩,
            .inr ⟨(rolled.temporary.owned owned).1, List.mem_cons_self⟩,
            rolled_final_fail start written temporary final .cleanup rolled⟩
      · intro state rolled free
        exact ⟨rolled.elsewhere, .inl (rolled.temporary.free free), rolled.final⟩
    · exact Ensures.chain_nil fun _ settled => ⟨rfl, settled⟩

/-- A call that publishes leaves the cleanup nothing to remove. -/
theorem ensures_complete :
    Ensures (Complete start written temporary final data) (publishCleanup pattern temporary)
      (fun left state => left = .normal ∧ Complete start written temporary final data state) := by
  apply Ensures.chain_cons
  · apply ensures_close_again
    intro state complete
    exact ⟨described_frame start written temporary final data complete.described
      ⟨rfl, rfl, rfl, rfl⟩, complete.temporaryExists, complete.published, complete.fresh⟩
  · apply Ensures.chain_cons
    · apply Ensures.guarded
      · intro state holds
        have free := holds.1.temporaryExists
        rw [holds.2] at free
        cases free
      · intro state complete _
        exact complete
    · exact Ensures.chain_nil fun _ complete => ⟨rfl, complete⟩

theorem ensures_cleaned (distinct : temporary ≠ final) (fuel : Nat)
    (enough : data.length < fuel) :
    Ensures (Unstarted start written temporary final data)
      (Block.lastly
        (Block.handled (publishBody pattern temporary final data fuel)
          (publishHandler pattern final))
        (publishCleanup pattern temporary))
      (CleanupLeft start written temporary final data) := by
  apply Ensures.lastly
    (ensures_handled start written temporary final data pattern distinct fuel enough)
  intro exit
  cases exit with
  | normal => exact ensures_complete start written temporary final data pattern
  | returned answer =>
      intro state holds
      obtain ⟨nothing, rolled⟩ := holds
      obtain ⟨left, next, ended, normal, settled⟩ :=
        ensures_settled start written temporary final pattern distinct state rolled
      exact ⟨left, next, ended, normal, nothing, settled⟩
  | raised failure =>
      intro state impossible
      exact impossible.elim

/-! ## One publication -/

/-- The final name is new and holds the whole content, and the temporary one is gone. -/
structure Published (state : Publication) : Prop where
  elsewhere : Elsewhere start (written + 1) temporary final state
  freshFinal : start.lookup final = none
  freshTemporary : start.lookup temporary = none
  content : state.directory.lookup final = some (.file data)
  gone : state.directory.lookup temporary = none

def PublishLeft (path : String) : Completion (Option String) OsFailure → Publication → Prop
  | .returned (some location), state =>
      location = path ∧ Published start written temporary final data state
  | .returned none, state => Settled start written temporary final state
  | _, _ => False

theorem complete_published {state : Publication}
    (complete : Complete start written temporary final data state) :
    Published start written temporary final data state.countWritten := by
  have described := complete.described
  obtain ⟨fresh, content⟩ := described.final.linked complete.published
  refine ⟨⟨described.elsewhere.others, ?_⟩, fresh, complete.fresh, content, ?_⟩
  · exact congrArg (· + 1) described.elsewhere.written
  · exact (described.temporary.free complete.temporaryExists).trans complete.fresh

theorem ensures_publish (path : String) (distinct : temporary ≠ final) (fuel : Nat)
    (enough : data.length < fuel) :
    Ensures (Unstarted start written temporary final data)
      (publish pattern path temporary final data fuel)
      (PublishLeft start written temporary final data path) := by
  have cleaned : Ensures (Unstarted start written temporary final data)
      (Block.lastly
        (Block.handled (publishBody pattern temporary final data fuel)
          (publishHandler pattern final))
        (publishCleanup pattern temporary))
      (Block.through (Complete start written temporary final data)
        (PublishLeft start written temporary final data path)) := by
    apply (ensures_cleaned start written temporary final data pattern distinct fuel enough).weaken
    intro exit state left
    cases exit with
    | normal => exact left
    | returned answer =>
        obtain ⟨nothing, settled⟩ := left
        subst nothing
        exact settled
    | raised failure => exact left
  have counted : Ensures (Complete start written temporary final data)
      (Block.perform Publication.countWritten)
      (Block.through (Published start written temporary final data)
        (PublishLeft start written temporary final data path)) := by
    apply Ensures.perform
    intro state complete
    exact complete_published start written temporary final data complete
  apply Ensures.chain_cons cleaned
  apply Ensures.chain_cons counted
  apply Ensures.chain_cons
  · apply Ensures.giveBack
    intro state published
    exact ⟨rfl, published⟩
  · exact Ensures.chain_nil fun _ impossible => impossible

end Body

/-! ## One call -/

section Calls

variable (self : DescriptorLayoutCapture) (json : JsonModule) (pattern : FailurePattern)
variable (directory : Directory) (counters : DescriptorCaptureCounters)
variable (inventory : Argument DescriptorInventory)

/-- The published file is complete and new, an existing name is never replaced, and a
call that publishes nothing leaves nothing behind unless an `unlink` that should have
removed it failed. -/
structure AllOrNothing (answer : Option String) (after : Publication) : Prop where
  published : ∀ path, answer = some path → ∃ typed token,
    inventory = .typed typed ∧ pattern.token = some token ∧ path = self.location typed ∧
      directory.lookup typed.finalName = none ∧
      after.directory.lookup typed.finalName =
        some (.file (typed.encoded json self.evidenceLabel)) ∧
      after.directory.lookup (typed.temporaryName token) = none ∧
      after.counters.written = counters.written + 1
  existing : ∀ typed, inventory = .typed typed → typed.finalName ∈ directory →
    answer = none ∧ after.directory.lookup typed.finalName = directory.lookup typed.finalName
  restored : answer = none → SystemCall.rollback ∉ after.failed →
    SystemCall.cleanup ∉ after.failed → after.directory = directory
  elsewhere : ∀ name, after.directory.lookup name ≠ directory.lookup name → ∃ typed token,
    inventory = .typed typed ∧ pattern.token = some token ∧
      (name = typed.finalName ∨ name = typed.temporaryName token)

theorem refused_all_or_nothing (after : Publication) (same : after.directory = directory) :
    AllOrNothing self json pattern directory counters inventory none after := by
  refine ⟨?_, ?_, fun _ _ _ => same, ?_⟩
  · intro path published
    cases published
  · intro typed _ _
    rw [same]
    exact ⟨rfl, rfl⟩
  · intro name changed
    rw [same] at changed
    exact absurd rfl changed

variable (typed : DescriptorInventory) (token : String) (after : Publication)

theorem settled_all_or_nothing (given : inventory = .typed typed)
    (drawn : pattern.token = some token)
    (settled : Settled directory counters.written (typed.temporaryName token) typed.finalName
      after) :
    AllOrNothing self json pattern directory counters inventory none after := by
  refine ⟨?_, ?_, ?_, ?_⟩
  · intro path published
    cases published
  · intro other sameOther present
    rw [given] at sameOther
    cases sameOther
    refine ⟨rfl, settled.final.resolve_right ?_⟩
    intro lost
    exact Finmap.lookup_eq_none.mp lost.1 present
  · intro _ rollback cleanup
    apply Finmap.ext_lookup
    intro name
    by_cases isTemporary : name = typed.temporaryName token
    · rw [isTemporary]
      exact settled.temporary.resolve_right fun lost => cleanup lost.2
    · by_cases isFinal : name = typed.finalName
      · rw [isFinal]
        exact settled.final.resolve_right fun lost => rollback lost.2
      · exact settled.elsewhere.others name isTemporary isFinal
  · intro name changed
    refine ⟨typed, token, given, drawn, ?_⟩
    by_contra neither
    obtain ⟨notFinal, notTemporary⟩ := not_or.mp neither
    exact changed (settled.elsewhere.others name notTemporary notFinal)

theorem published_all_or_nothing (given : inventory = .typed typed)
    (drawn : pattern.token = some token)
    (published : Published directory counters.written (typed.temporaryName token)
      typed.finalName (typed.encoded json self.evidenceLabel) after) :
    AllOrNothing self json pattern directory counters inventory (some (self.location typed))
      after := by
  refine ⟨?_, ?_, ?_, ?_⟩
  · intro path same
    cases same
    exact ⟨typed, token, given, drawn, rfl, published.freshFinal, published.content,
      published.gone, published.elsewhere.written⟩
  · intro other sameOther present
    rw [given] at sameOther
    cases sameOther
    exact absurd present (Finmap.lookup_eq_none.mp published.freshFinal)
  · intro nothing
    cases nothing
  · intro name changed
    refine ⟨typed, token, given, drawn, ?_⟩
    by_contra neither
    obtain ⟨notFinal, notTemporary⟩ := not_or.mp neither
    exact changed (published.elsewhere.others name notTemporary notFinal)

theorem start_unstarted (temporary final : String) (data : Bytes) :
    Unstarted directory counters.written temporary final data
      { directory := directory, counters := counters } := by
  refine ⟨⟨⟨fun _ _ _ => rfl, rfl⟩, ⟨?_, fun _ => rfl⟩, ⟨?_, fun _ => rfl⟩⟩, rfl, rfl⟩
  · intro impossible
    cases impossible
  · intro impossible
    cases impossible

/-- Whatever the directory, the inventory and the failures are, a call ends and is all or
nothing. -/
theorem capture_publishes_all_or_nothing (fuel : Nat)
    (enough : ∀ typed, inventory = .typed typed →
      (typed.encoded json self.evidenceLabel).length < fuel) :
    ∃ answer after,
      self.captureLocked json pattern fuel directory counters inventory =
          some (.returned answer, after) ∧
        AllOrNothing self json pattern directory counters inventory answer after := by
  have refused : ∀ after : Publication, after.directory = directory → ∃ answer next,
      Returned none after = some (.returned answer, next) ∧
        AllOrNothing self json pattern directory counters inventory answer next := by
    intro after same
    exact ⟨none, after, rfl,
      refused_all_or_nothing self json pattern directory counters inventory after same⟩
  unfold DescriptorLayoutCapture.captureLocked
  dsimp only
  split
  · exact refused _ rfl
  · split
    · exact refused _ rfl
    · split
      · exact refused _ rfl
      · rename_i typed
        split
        · exact refused _ rfl
        · split
          · exact refused _ rfl
          · split
            · exact refused _ rfl
            · rename_i token drawn
              obtain ⟨exit, next, ended, left⟩ := ensures_publish directory counters.written
                (typed.temporaryName token) typed.finalName
                (typed.encoded json self.evidenceLabel) pattern (self.location typed)
                (temporary_not_final typed token) fuel (enough typed rfl) _
                (start_unstarted directory counters _ _ _)
              cases exit with
              | normal => exact left.elim
              | raised failure => exact left.elim
              | returned answer =>
                  cases answer with
                  | none =>
                      exact ⟨none, next, ended, settled_all_or_nothing self json pattern
                        directory counters _ typed token next rfl drawn left⟩
                  | some path =>
                      obtain ⟨same, published⟩ := left
                      subst same
                      exact ⟨_, next, ended, published_all_or_nothing self json pattern
                        directory counters _ typed token next rfl drawn published⟩

end Calls

def sampleCapture : DescriptorLayoutCapture :=
  { captureDir := "/captures"
    evidenceLabel := .realOnline
    maxRegions := maxDescriptorRegions
    maxRecordBytes := defaultMaxDescriptorRecordBytes
    directoryIdentity := (1, 2)
    closed := false }

/-- Every call succeeds, and writes accept 16 bytes at most. -/
def succeedingPattern : FailurePattern :=
  { stat := some (1, 2)
    token := some "0123456789abcdef"
    succeeds := fun _ => true
    writes := fun _ => some 16 }

/-- Every call succeeds but the `fsync` of the directory, after the file has been
linked. -/
def unsyncedPattern : FailurePattern :=
  { succeedingPattern with succeeds := fun call => call != .syncDirectory }

/-- An inventory holds no float, and nothing is decoded. -/
def writingJson : JsonModule :=
  { floatText := fun _ => [], loads := fun _ => .error (.valueError "Expecting value") }

def sampleData : Bytes := sampleInventory.encoded writingJson sampleCapture.evidenceLabel

def sampleCall (pattern : FailurePattern) :
    Option (Completion (Option String) OsFailure × Publication) :=
  sampleCapture.captureLocked writingJson pattern (sampleData.length + 1) ∅ {}
    (.typed sampleInventory)

theorem succeeding_call_returns_path :
    (sampleCall succeedingPattern).map Prod.fst =
      some (.returned (some (sampleCapture.location sampleInventory))) := by
  decide +kernel

theorem unsynced_call_returns_none :
    (sampleCall unsyncedPattern).map Prod.fst = some (.returned none) := by
  decide +kernel

theorem answer_of_call {pattern : FailurePattern} {answer expected : Option String}
    {after : Publication} (ended : sampleCall pattern = some (.returned answer, after))
    (evaluated : (sampleCall pattern).map Prod.fst = some (.returned expected)) :
    answer = expected := by
  rw [ended] at evaluated
  cases evaluated
  rfl

/-- One call publishes the file and returns its path, the other takes the file back. -/
theorem sample_capture_all_or_nothing :
    ∃ published undone,
      sampleCall succeedingPattern =
          some (.returned (some (sampleCapture.location sampleInventory)), published) ∧
        AllOrNothing sampleCapture writingJson succeedingPattern ∅ {} (.typed sampleInventory)
          (some (sampleCapture.location sampleInventory)) published ∧
        sampleCall unsyncedPattern = some (.returned none, undone) ∧
        AllOrNothing sampleCapture writingJson unsyncedPattern ∅ {} (.typed sampleInventory)
          none undone := by
  have enough : ∀ typed, Argument.typed sampleInventory = .typed typed →
      (typed.encoded writingJson sampleCapture.evidenceLabel).length < sampleData.length + 1 := by
    intro typed same
    rw [← Argument.typed.inj same, sampleData]
    exact Nat.lt_add_one _
  obtain ⟨path, published, ended, outcome⟩ :=
    capture_publishes_all_or_nothing sampleCapture writingJson succeedingPattern ∅ {}
      (.typed sampleInventory) (sampleData.length + 1) enough
  obtain ⟨nothing, undone, failed, taken⟩ :=
    capture_publishes_all_or_nothing sampleCapture writingJson unsyncedPattern ∅ {}
      (.typed sampleInventory) (sampleData.length + 1) enough
  have answered := answer_of_call ended succeeding_call_returns_path
  have refused := answer_of_call failed unsynced_call_returns_none
  subst answered refused
  exact ⟨published, undone, ended, outcome, failed, taken⟩

end KVTransferObservability.PublicationOutcomes
