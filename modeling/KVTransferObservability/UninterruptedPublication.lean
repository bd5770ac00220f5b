import KVTransferObservability.ConcurrentPublication
import KVTransferObservability.PublicationOutcomes

/-!
# A publication that nothing interrupts

When no other call acts in between, the system calls of one call of `_capture_locked`,
taken one by one, end in the directory, the counters and the answer of the call as a
whole. So the calls that other modules take as one step are schedules of the calls here.
-/

namespace KVTransferObservability.UninterruptedPublication

open PythonValues Schema Library RecordText EventSink Descriptors DescriptorPublication
open PublicationOutcomes ConcurrentPublication PublicationCall
open Block (Ensures)

set_option autoImplicit false

section Simulation

variable (json : JsonModule) (world : CaptureDirectory) (first : CaptureEvent)
variable (base : PublicationCall)

/-- After the first event, some schedule of the last call leads to this point of it. -/
def At (call : PublicationCall) : Prop :=
  ∃ events, Steps.run (ConcurrentPublication.step json) world (first :: events) =
    some { directory := call.state.directory, calls := world.calls ++ [call] }

theorem at_act {call : PublicationCall} {name : SystemCall} (reached : At json world first call)
    (next : call.next = some name) (accepted : Option Nat) :
    At json world first (call.act json name accepted) := by
  obtain ⟨events, taken⟩ := reached
  refine ⟨events ++ [.acts world.calls.length accepted], ?_⟩
  rw [← List.cons_append]
  refine (Steps.run_append_iff (ConcurrentPublication.step json) _ _ _ _).mpr ⟨_, taken, ?_⟩
  refine (Steps.run_cons_iff (ConcurrentPublication.step json) _ _ _ _).mpr ⟨_, ?_, rfl⟩
  refine Option.bind_eq_some_iff.mpr ⟨call, List.getElem?_concat_length, ?_⟩
  refine Option.map_eq_some_iff.mpr ⟨name, next, ?_⟩
  unfold CaptureDirectory.set
  rw [List.set_append_right _ _ (Nat.le_refl _), Nat.sub_self, List.set_cons_zero]

/-! ## Points of the call -/

/-- The call with these variables, before a system call of its `try` statement. -/
def point (name : SystemCall) (state : Publication) : PublicationCall :=
  { base with state := state, next := some name }

def Before (name : SystemCall) (state : Publication) : Prop :=
  At json world first (point base name state)

/-- The call raises an exception in its `try` statement. -/
def Raising (failure : OsFailure) (state : Publication) : Prop :=
  ∃ next, At json world first ({ base with state := state, next := next }.raised failure)

/-- The body has come to its end: what is left to do changes the counter only. -/
def Finished (path : String) (state : Publication) : Prop :=
  state.descriptor = false ∧ state.temporaryExists = false ∧
    At json world first
      { base with state := state.countWritten, next := none, answer := some path }

def BodyEnds (path : String) : Completion (Option String) OsFailure → Publication → Prop
  | .normal, state => Finished json world first base path state
  | .returned _, _ => False
  | .raised failure, state => Raising json world first base failure state

variable {base} (pattern : FailurePattern)

/-- A system call of the body is one step of the call. `extra` is what else is known of the
variables, and no system call changes it. -/
theorem ensures_attempt {name : SystemCall} {act : Publication → Except OsFailure Publication}
    {middle : Publication → Prop}
    {after : Completion (Option String) OsFailure → Publication → Prop}
    (extra : Publication → Prop) (continues : Publication → PublicationCall)
    (acts : ∀ state accepted, (point base name state).act json name accepted =
      (point base name state).attempt name accepted.isSome act continues)
    (kept : ∀ state next, extra state → act state = .ok next → extra next)
    (raises : ∀ failure state, Raising json world first base failure state →
      after (.raised failure) state)
    (succeeds : ∀ state, At json world first (continues state) → extra state → middle state) :
    Ensures (fun state => Before json world first base name state ∧ extra state)
      (systemCall pattern name act) (Block.through middle after) := by
  have failed (state : Publication) (accepted : Option Nat) (failure : OsFailure)
      (reached : Before json world first base name state)
      (same : (point base name state).attempt name accepted.isSome act continues =
        (point base name state).failed name failure) :
      Raising json world first base failure (state.fail name) := by
    have next := at_act json world first reached rfl accepted
    rw [acts, same] at next
    exact ⟨some name, next⟩
  apply ensures_system_call
  · intro state next reached done
    refine succeeds next ?_ (kept state next reached.2 done)
    have acted := at_act json world first reached.1 rfl (some 0)
    rw [acts] at acted
    unfold attempt at acted
    rw [Option.isSome_some, if_pos rfl, show (point base name state).state = state from rfl, done]
      at acted
    exact acted
  · intro state failure reached raised
    apply raises
    refine failed state (some 0) failure reached.1 ?_
    unfold attempt
    rw [Option.isSome_some, if_pos rfl, show (point base name state).state = state from rfl,
      raised]
  · intro state reached
    apply raises
    refine failed state none .osError reached.1 ?_
    unfold attempt
    rfl

/-! ## The loop of `_write_all` -/

variable (base) in
/-- At the head of the loop. -/
def Writing (state : Publication) : Prop :=
  At json world first ({ base with state := state }.writing)

theorem writing_before (state : Publication) (remaining : state.view.isEmpty = false)
    (reached : Writing json world first base state) :
    Before json world first base .write state := by
  have same : { base with state := state }.writing = point base .write state := by
    unfold writing point
    rw [if_neg (by rw [remaining]; exact Bool.false_ne_true)]
  unfold Before
  rw [← same]
  exact reached

theorem writing_over (state : Publication) (finished : state.view.isEmpty = true)
    (reached : Writing json world first base state) :
    Before json world first base .syncFile state := by
  have same : { base with state := state }.writing = point base .syncFile state := by
    unfold writing point
    rw [if_pos finished]
  unfold Before
  rw [← same]
  exact reached

theorem ensures_round {after : Completion (Option String) OsFailure → Publication → Prop}
    (raises : ∀ failure state, Raising json world first base failure state →
      after (.raised failure) state)
    (size : Nat) :
    Ensures
      (fun state => Writing json world first base state ∧ (!state.view.isEmpty) = true ∧
        state.view.length = size)
      (writeRound pattern base.temporary)
      (Block.through
        (fun state => Writing json world first base state ∧ state.view.length < size)
        (Block.through (Before json world first base .syncFile) after)) := by
  intro state holds
  obtain ⟨reached, remaining, sized⟩ := holds
  have nonempty : state.view.isEmpty = false := by
    rw [Bool.not_eq_true'] at remaining
    exact remaining
  have acted := at_act json world first (writing_before json world first state nonempty reached)
    rfl (pattern.writes state.writes)
  change At json world first
    ((point base .write state).writeSome (pattern.writes state.writes)) at acted
  unfold writeRound
  unfold writeSome at acted
  cases answer : pattern.writes state.writes with
  | none =>
      rw [answer] at acted
      exact ⟨_, _, rfl, raises _ _ ⟨some .write, acted⟩⟩
  | some accepted =>
      rw [answer] at acted
      dsimp only at acted ⊢
      change At json world first
        (if min accepted state.view.length = 0 then _ else _) at acted
      by_cases progress : min accepted state.view.length = 0
      · rw [if_pos progress] at acted ⊢
        exact ⟨_, _, rfl, raises _ _ ⟨some .write, acted⟩⟩
      · rw [if_neg progress] at acted ⊢
        refine ⟨_, _, rfl, acted, ?_⟩
        dsimp only
        rw [List.length_drop]
        omega

theorem ensures_write_all {after : Completion (Option String) OsFailure → Publication → Prop}
    (raises : ∀ failure state, Raising json world first base failure state →
      after (.raised failure) state)
    (data : Bytes) (fuel : Nat) (enough : data.length < fuel) :
    Ensures (fun state => Writing json world first base { state with view := data })
      (writeAll pattern base.temporary data fuel)
      (Block.through (Before json world first base .syncFile) after) := by
  have begins : Ensures
      (fun state => Writing json world first base { state with view := data })
      (Block.perform fun state => { state with view := data })
      (Block.through
        (fun state => Writing json world first base state ∧ state.view.length < fuel)
        (Block.through (Before json world first base .syncFile) after)) := by
    apply Ensures.perform
    intro state reached
    exact ⟨reached, enough⟩
  apply Ensures.andThen begins
  apply Ensures.loop
  · intro size
    exact ensures_round json world first pattern raises size
  · intro state reached finished
    rw [Bool.not_eq_false'] at finished
    exact writing_over json world first state finished reached

/-! ## The body -/

theorem link_descriptor {source target : String} {state next : Publication}
    (linked : state.link source target = .ok next) : next.descriptor = state.descriptor := by
  unfold Publication.link at linked
  split at linked
  · cases linked
  · split at linked
    · cases linked
    · cases linked
      rfl

theorem unlink_descriptor {target : String} {state next : Publication}
    (unlinked : state.unlink target = .ok next) : next.descriptor = state.descriptor := by
  unfold Publication.unlink at unlinked
  split at unlinked
  · cases unlinked
    rfl
  · cases unlinked

variable (base) in
/-- Before a system call that is made after the descriptor has been closed. -/
def Closed (name : SystemCall) (state : Publication) : Prop :=
  Before json world first base name state ∧ state.descriptor = false

variable (base) in
/-- Before the last system call of the body. -/
def Unlinked (state : Publication) : Prop :=
  Before json world first base .syncDirectory state ∧
    state.descriptor = false ∧ state.temporaryExists = false

/-- The path that the call returns. -/
def path (base : PublicationCall) : String := base.capture.location base.inventory

theorem ensures_body (fuel : Nat) (enough : (base.data json).length < fuel) :
    Ensures (Before json world first base .create)
      (publishBody pattern base.temporary base.final (base.data json) fuel)
      (BodyEnds json world first base (path base)) := by
  have raises (failure : OsFailure) (state : Publication)
      (raising : Raising json world first base failure state) :
      BodyEnds json world first base (path base) (.raised failure) state := raising
  have plain (name : SystemCall) (state : Publication)
      (reached : Before json world first base name state) :
      Before json world first base name state ∧ True := ⟨reached, trivial⟩
  have creates : Ensures (Before json world first base .create)
      (systemCall pattern .create (Publication.create base.temporary))
      (Block.through
        (fun state => Writing json world first base
          { state with descriptor := true, temporaryExists := true, view := base.data json })
        (BodyEnds json world first base (path base))) :=
    (ensures_attempt json world first pattern (fun _ => True) _ (fun _ _ => rfl)
      (fun _ _ _ _ => trivial) raises fun state reached _ => reached).strengthen (plain .create)
  have opens : Ensures
      (fun state => Writing json world first base
        { state with descriptor := true, temporaryExists := true, view := base.data json })
      (Block.perform fun state => { state with descriptor := true, temporaryExists := true })
      (Block.through
        (fun state => Writing json world first base { state with view := base.data json })
        (BodyEnds json world first base (path base))) :=
    Ensures.perform _ fun _ holds => holds
  have syncs : Ensures (Before json world first base .syncFile)
      (systemCall pattern .syncFile .ok)
      (Block.through (Before json world first base .close)
        (BodyEnds json world first base (path base))) :=
    (ensures_attempt json world first pattern (fun _ => True) _ (fun _ _ => rfl)
      (fun _ _ _ _ => trivial) raises fun state reached _ => reached).strengthen
      (plain .syncFile)
  have closes : Ensures (Before json world first base .close) (systemCall pattern .close .ok)
      (Block.through
        (fun state => Closed json world first base .link { state with descriptor := false })
        (BodyEnds json world first base (path base))) :=
    (ensures_attempt json world first pattern (fun _ => True) _ (fun _ _ => rfl)
      (fun _ _ _ _ => trivial) raises fun state reached _ => ⟨reached, rfl⟩).strengthen
      (plain .close)
  have links : Ensures (Closed json world first base .link)
      (systemCall pattern .link (Publication.link base.temporary base.final))
      (Block.through
        (fun state =>
          Closed json world first base .unlinkTemporary { state with published := true })
        (BodyEnds json world first base (path base))) := by
    refine ensures_attempt json world first pattern (fun state => state.descriptor = false) _
      (fun _ _ => rfl) ?_ raises fun state reached closed => ⟨reached, closed⟩
    intro state next closed linked
    exact (link_descriptor linked).trans closed
  have unlinks : Ensures (Closed json world first base .unlinkTemporary)
      (systemCall pattern .unlinkTemporary (Publication.unlink base.temporary))
      (Block.through
        (fun state => Unlinked json world first base { state with temporaryExists := false })
        (BodyEnds json world first base (path base))) := by
    refine ensures_attempt json world first pattern (fun state => state.descriptor = false) _
      (fun _ _ => rfl) ?_ raises fun state reached closed => ⟨reached, closed, rfl⟩
    intro state next closed unlinked
    exact (unlink_descriptor unlinked).trans closed
  have ends : Ensures (Unlinked json world first base) (systemCall pattern .syncDirectory .ok)
      (Block.through (Finished json world first base (path base))
        (BodyEnds json world first base (path base))) := by
    refine ensures_attempt json world first pattern
      (fun state => state.descriptor = false ∧ state.temporaryExists = false) _
      (fun _ _ => rfl) ?_ raises fun state reached flags => ⟨flags.1, flags.2, reached⟩
    intro state next flags same
    cases same
    exact flags
  apply Ensures.chain_cons creates
  apply Ensures.chain_cons opens
  apply Ensures.chain_cons
    (ensures_write_all json world first pattern raises (base.data json) fuel enough)
  apply Ensures.chain_cons syncs
  apply Ensures.chain_cons closes
  apply Ensures.chain_cons (Ensures.assign _)
  apply Ensures.chain_cons links
  apply Ensures.chain_cons (Ensures.assign _)
  apply Ensures.chain_cons unlinks
  apply Ensures.chain_cons (Ensures.assign _)
  apply Ensures.chain_cons ends
  exact Ensures.chain_nil fun state finished => finished

/-! ## The handlers and the cleanup -/

variable (base) in
/-- In the handler of an `OSError`, which has been counted. -/
def Handling (state : Publication) : Prop :=
  ∃ next, At json world first
    (if state.published then { base with state := state, next := some .rollback }
      else { base with state := state, next := next }.cleaning)

variable (base) in
/-- At the beginning of the `finally` clause. -/
def Cleaning (state : Publication) : Prop :=
  ∃ next undone, At json world first
    { base with state := state, next := next, rolledBack := undone }.cleaning

variable (base) in
/-- The descriptor has been closed. -/
def Removing (state : Publication) : Prop :=
  ∃ undone, At json world first
    { base with
      state := state
      next := if state.temporaryExists then some .cleanup else none
      rolledBack := undone }

variable (base) in
/-- There is nothing left to do. -/
def Over (answer : Option String) (state : Publication) : Prop :=
  ∃ undone removed, At json world first
    { base with
      state := state, next := none, answer := answer, rolledBack := undone, removed := removed }

variable (base) in
def HandlersEnd (path : String) : Completion (Option String) OsFailure → Publication → Prop
  | .normal, state => Finished json world first base path state
  | .returned answer, state => answer = none ∧ Cleaning json world first base state
  | .raised _, _ => False

variable (base) in
def CleanupEnds (path : String) : Completion (Option String) OsFailure → Publication → Prop
  | .normal, state => Finished json world first base path state
  | .returned answer, state => answer = none ∧ Over json world first base none state
  | .raised _, _ => False

variable (base) in
def PublishEnds : Completion (Option String) OsFailure → Publication → Prop
  | .returned answer, state => Over json world first base answer state
  | _, _ => False

theorem attempt_unlink_removed {call : PublicationCall} {target : String} {next : Publication}
    (name : SystemCall) (removed : call.state.unlink target = .ok next) :
    call.attemptUnlink name target true = (true, { call with state := next }) := by
  unfold attemptUnlink
  rw [if_pos rfl, removed]

theorem attempt_unlink_missing {call : PublicationCall} {target : String} {failure : OsFailure}
    (name : SystemCall) (missing : call.state.unlink target = .error failure) :
    call.attemptUnlink name target true =
      (false, { call with state := (call.state.fail name).countIoErrors }) := by
  unfold attemptUnlink
  rw [if_pos rfl, missing]

theorem ensures_conflict :
    Ensures (Raising json world first base .fileExists)
      (publishHandler pattern base.final .fileExists)
      (HandlersEnd json world first base (path base)) := by
  have counts : Ensures (Raising json world first base .fileExists)
      (Block.perform Publication.countConflicts)
      (Block.through (Cleaning json world first base)
        (HandlersEnd json world first base (path base))) := by
    apply Ensures.perform
    intro state raising
    obtain ⟨next, reached⟩ := raising
    exact ⟨next, base.rolledBack, reached⟩
  apply Ensures.chain_cons counts
  apply Ensures.chain_cons
  · apply Ensures.giveBack
    intro state cleaning
    exact ⟨rfl, cleaning⟩
  · exact Ensures.chain_nil fun _ holds => holds

/-- The rollback of the handler is one step, and the `finally` clause is next. -/
theorem ensures_rollback :
    Ensures
      (fun state => Handling json world first base state ∧ state.published = true)
      (suppressed (systemCall pattern .rollback (Publication.unlink base.final))
        Publication.countIoErrors)
      (Block.through (Cleaning json world first base)
        (HandlersEnd json world first base (path base))) := by
  have reaches (state : Publication)
      (holds : Handling json world first base state ∧ state.published = true)
      (accepted : Option Nat) :
      At json world first
        ((point base .rollback state).act json .rollback accepted) := by
    obtain ⟨⟨next, reached⟩, published⟩ := holds
    rw [if_pos published] at reached
    exact at_act json world first reached rfl accepted
  apply ensures_suppressed
  apply ensures_system_call
  · intro state next holds removed
    have reached := reaches state holds (some 0)
    unfold act at reached
    dsimp only at reached
    rw [show (some 0).isSome = true from rfl,
      show (point base .rollback state).final = base.final from rfl, attempt_unlink_removed .rollback removed] at reached
    exact ⟨some .rollback, true, reached⟩
  · intro state failure holds missing
    have reached := reaches state holds (some 0)
    unfold act at reached
    dsimp only at reached
    rw [show (some 0).isSome = true from rfl,
      show (point base .rollback state).final = base.final from rfl, attempt_unlink_missing .rollback missing] at reached
    exact ⟨some .rollback, false, reached⟩
  · intro state holds
    exact ⟨some .rollback, false, reaches state holds none⟩

theorem ensures_os_error :
    Ensures (Raising json world first base .osError)
      (publishHandler pattern base.final .osError)
      (HandlersEnd json world first base (path base)) := by
  have counts : Ensures (Raising json world first base .osError)
      (Block.perform Publication.countIoErrors)
      (Block.through (Handling json world first base)
        (HandlersEnd json world first base (path base))) := by
    apply Ensures.perform
    intro state raising
    obtain ⟨next, reached⟩ := raising
    exact ⟨next, reached⟩
  apply Ensures.chain_cons counts
  apply Ensures.chain_cons
  · apply Ensures.guarded
    · exact ensures_rollback json world first pattern
    · intro state handling unpublished
      obtain ⟨next, reached⟩ := handling
      rw [if_neg (by rw [unpublished]; exact Bool.false_ne_true)] at reached
      exact ⟨next, base.rolledBack, reached⟩
  · apply Ensures.chain_cons
    · apply Ensures.giveBack
      intro state cleaning
      exact ⟨rfl, cleaning⟩
    · exact Ensures.chain_nil fun _ holds => holds

theorem ensures_handled (fuel : Nat) (enough : (base.data json).length < fuel) :
    Ensures (Before json world first base .create)
      (Block.handled
        (publishBody pattern base.temporary base.final (base.data json) fuel)
        (publishHandler pattern base.final))
      (HandlersEnd json world first base (path base)) := by
  apply Ensures.handled (ensures_body json world first pattern fuel enough)
  · intro state finished
    exact finished
  · intro value state impossible
    exact impossible.elim
  · intro failure
    cases failure with
    | fileExists => exact ensures_conflict json world first pattern
    | osError => exact ensures_os_error json world first pattern

theorem ensures_close_again :
    Ensures (Cleaning json world first base)
      (Block.guarded Publication.descriptor
        (suppressed (systemCall pattern .closeAgain .ok) id))
      (Block.through (Removing json world first base)
        (fun left state => left = .normal ∧ Over json world first base none state)) := by
  have reaches (state : Publication)
      (holds : Cleaning json world first base state ∧ state.descriptor = true)
      (accepted : Option Nat) : ∃ undone,
      At json world first
        ({ point base .closeAgain state with rolledBack := undone }.act json .closeAgain
          accepted) := by
    obtain ⟨⟨next, undone, reached⟩, opened⟩ := holds
    unfold cleaning at reached
    rw [if_pos opened] at reached
    exact ⟨undone, at_act json world first reached rfl accepted⟩
  apply Ensures.guarded
  · apply ensures_suppressed
    apply ensures_sync
    · intro state holds
      exact reaches state holds (some 0)
    · intro state holds
      exact reaches state holds none
  · intro state cleaning closed
    obtain ⟨next, undone, reached⟩ := cleaning
    unfold PublicationCall.cleaning at reached
    rw [if_neg (by dsimp only; rw [closed]; exact Bool.false_ne_true)] at reached
    exact ⟨undone, reached⟩

/-- The cleanup of a call that returns `None`. -/
theorem ensures_settled (fresh : base.answer = none) :
    Ensures (Cleaning json world first base) (publishCleanup pattern base.temporary)
      (fun left state => left = .normal ∧ Over json world first base none state) := by
  have reaches (state : Publication)
      (holds : Removing json world first base state ∧ state.temporaryExists = true)
      (accepted : Option Nat) : ∃ undone,
      At json world first
        ({ point base .cleanup state with rolledBack := undone }.act json .cleanup accepted) := by
    obtain ⟨⟨undone, reached⟩, exists_⟩ := holds
    rw [if_pos exists_] at reached
    exact ⟨undone, at_act json world first reached rfl accepted⟩
  have settles (state : Publication) (undone removed : Bool)
      (reached : At json world first
        { base with
          state := state, next := none, rolledBack := undone, removed := removed }) :
      Over json world first base none state := by
    rw [← fresh]
    exact ⟨undone, removed, reached⟩
  apply Ensures.chain_cons (ensures_close_again json world first pattern)
  apply Ensures.chain_cons
  · apply Ensures.guarded
    · apply ensures_suppressed
      apply ensures_system_call
      · intro state next holds removed
        obtain ⟨undone, reached⟩ := reaches state holds (some 0)
        unfold act at reached
        dsimp only at reached
        rw [show (some 0).isSome = true from rfl,
          attempt_unlink_removed .cleanup removed] at reached
        exact settles next undone true reached
      · intro state failure holds missing
        obtain ⟨undone, reached⟩ := reaches state holds (some 0)
        unfold act at reached
        dsimp only at reached
        rw [show (some 0).isSome = true from rfl,
          attempt_unlink_missing .cleanup missing] at reached
        exact settles _ undone false reached
      · intro state holds
        obtain ⟨undone, reached⟩ := reaches state holds none
        exact settles _ undone false reached
    · intro state removing gone
      obtain ⟨undone, reached⟩ := removing
      rw [if_neg (by rw [gone]; exact Bool.false_ne_true)] at reached
      exact settles state undone base.removed reached
  · exact Ensures.chain_nil fun _ settled => ⟨rfl, settled⟩

/-- After the body has come to its end, the cleanup has nothing to do. -/
theorem ensures_finished (location : String) :
    Ensures (Finished json world first base location) (publishCleanup pattern base.temporary)
      (fun left state => left = .normal ∧ Finished json world first base location state) := by
  apply Ensures.chain_cons
  · apply Ensures.guarded
    · intro state holds
      exact absurd (holds.1.1.symm.trans holds.2) Bool.false_ne_true
    · intro state finished _
      exact finished
  apply Ensures.chain_cons
  · apply Ensures.guarded
    · intro state holds
      exact absurd (holds.1.2.1.symm.trans holds.2) Bool.false_ne_true
    · intro state finished _
      exact finished
  exact Ensures.chain_nil fun _ finished => ⟨rfl, finished⟩

variable (base) in
theorem ensures_publish (fresh : base.answer = none) (fuel : Nat)
    (enough : (base.data json).length < fuel) :
    Ensures (Before json world first base .create)
      (publish pattern (path base) base.temporary base.final (base.data json) fuel)
      (PublishEnds json world first base) := by
  have cleaned : Ensures (Before json world first base .create)
      (Block.lastly
        (Block.handled (publishBody pattern base.temporary base.final (base.data json) fuel)
          (publishHandler pattern base.final))
        (publishCleanup pattern base.temporary))
      (CleanupEnds json world first base (path base)) := by
    apply Ensures.lastly (ensures_handled json world first pattern fuel enough)
    intro exit
    cases exit with
    | normal => exact ensures_finished json world first pattern (path base)
    | returned answer =>
        intro state left
        obtain ⟨missing, cleaning⟩ := left
        obtain ⟨exit, next, ended, same, settled⟩ :=
          ensures_settled json world first pattern fresh state cleaning
        exact ⟨exit, next, ended, same, missing, settled⟩
    | raised failure =>
        intro state impossible
        exact impossible.elim
  have completed : Ensures (Before json world first base .create)
      (Block.lastly
        (Block.handled (publishBody pattern base.temporary base.final (base.data json) fuel)
          (publishHandler pattern base.final))
        (publishCleanup pattern base.temporary))
      (Block.through (Finished json world first base (path base))
        (PublishEnds json world first base)) := by
    apply cleaned.weaken
    intro exit state left
    cases exit with
    | normal => exact left
    | returned answer =>
        obtain ⟨missing, settled⟩ := left
        subst missing
        exact settled
    | raised failure => exact left.elim
  have counted : Ensures (Finished json world first base (path base))
      (Block.perform Publication.countWritten)
      (Block.through (Over json world first base (some (path base)))
        (PublishEnds json world first base)) := by
    apply Ensures.perform
    intro state finished
    exact ⟨base.rolledBack, base.removed, finished.2.2⟩
  apply Ensures.chain_cons completed
  apply Ensures.chain_cons counted
  apply Ensures.chain_cons
  · apply Ensures.giveBack
    intro state settled
    exact settled
  · exact Ensures.chain_nil fun _ holds => holds

end Simulation

/-! ## One call as a whole -/

variable (json : JsonModule) (world : CaptureDirectory) (capture : DescriptorLayoutCapture)
variable (counters : DescriptorCaptureCounters) (inventory : DescriptorInventory)
variable (pattern : FailurePattern) (token : String)

/-- A call of `_capture_locked` that gets as far as its system calls is a schedule of
them: it leaves the directory, the counters and the answer of the call as a whole. -/
theorem uninterrupted_call_is_capture_locked (drawn : pattern.token = some token)
    (found : pattern.stat = some capture.directoryIdentity)
    (admitted : Admitted json capture inventory) (fuel : Nat)
    (enough : (inventory.encoded json capture.evidenceLabel).length < fuel) :
    ∃ events answer after, ∃ call : PublicationCall,
      capture.captureLocked json pattern fuel world.directory counters (.typed inventory) =
          some (.returned answer, after) ∧
        Steps.run (ConcurrentPublication.step json) world
            (.begins capture counters inventory token :: events) =
          some { directory := after.directory, calls := world.calls ++ [call] } ∧
        call.state = after ∧ call.answer = answer ∧ call.next = none := by
  let base : PublicationCall :=
    { capture := capture, inventory := inventory, token := token,
      state := { directory := world.directory, counters := counters } }
  let first : CaptureEvent := .begins capture counters inventory token
  have starts : Before json world first base .create base.state :=
    ⟨[], (Steps.run_cons_iff (ConcurrentPublication.step json) _ _ _ _).mpr
      ⟨_, if_pos admitted, rfl⟩⟩
  obtain ⟨exit, after, ended, left⟩ :=
    ensures_publish json world first base pattern rfl fuel enough base.state starts
  cases exit with
  | normal => exact left.elim
  | raised failure => exact left.elim
  | returned answer =>
      obtain ⟨undone, removed, events, reached⟩ := left
      refine ⟨events, answer, after, _, ?_, reached, rfl, rfl, rfl⟩
      unfold DescriptorLayoutCapture.captureLocked
      rw [if_neg (by rw [admitted.opened]; exact Bool.false_ne_true),
        if_neg (not_not_intro found)]
      dsimp only
      rw [if_neg (Nat.not_lt.mpr admitted.regions), if_neg (Nat.not_lt.mpr admitted.bytes),
        drawn]
      exact ended

theorem sample_uninterrupted_call :
    ∃ events answer after, ∃ call : PublicationCall,
      sampleCapture.captureLocked writingJson unsyncedPattern (sampleData.length + 1) ∅ {}
          (.typed sampleInventory) = some (.returned answer, after) ∧
        Steps.run (ConcurrentPublication.step writingJson) { directory := ∅ }
            (.begins sampleCapture {} sampleInventory "0123456789abcdef" :: events) =
          some { directory := after.directory, calls := [call] } ∧
        call.state = after ∧ call.answer = answer ∧ call.next = none :=
  uninterrupted_call_is_capture_locked writingJson { directory := ∅ } sampleCapture {}
    sampleInventory unsyncedPattern "0123456789abcdef" rfl rfl
    ⟨rfl, by decide, by decide +kernel⟩ (sampleData.length + 1) (Nat.lt_add_one _)

end KVTransferObservability.UninterruptedPublication
