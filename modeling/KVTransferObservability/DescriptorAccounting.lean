import KVTransferObservability.DescriptorQueue
import Mathlib.Data.Bool.Count

/-!
# The descriptor counters balance

Every inventory that `capture_descriptor` has received is in exactly one place: in a
call that has no answer counted, in a queue, with a writer, or in a counter. The
invariant says so for the calls and captures of all starts together; when no call is
in progress and every writer has exited, only the counters are left.
-/

namespace KVTransferObservability.DescriptorAccounting

open Library Totals PythonValues Adapter DescriptorQueue

set_option autoImplicit false

section Parts

variable {Inventory : Type}

/-- The inventory that has left the queue and is not published. -/
def unpublished : CaptureWriter Inventory → List Inventory
  | .publishing inventory => [inventory]
  | _ => []

/-- A publication with this result is not counted. -/
def uncounted (result : Bool) : CaptureWriter Inventory → Nat
  | .counting written => if written = result then 1 else 0
  | _ => 0

/-- A publication with this result is counted, and the adapter is not told. -/
def unreported (result : Bool) : CaptureWriter Inventory → Nat
  | .reporting written => if written = result then 1 else 0
  | _ => 0

/-- The accepted inventories that the adapter has not been told about. -/
def capturePending (capture : AsyncDescriptorLayoutCapture Inventory) : Nat :=
  capture.queue.length + (unpublished capture.writer).length +
    (uncounted true capture.writer + uncounted false capture.writer) +
    (unreported true capture.writer + unreported false capture.writer)

def unreportedWritten (capture : AsyncDescriptorLayoutCapture Inventory) : Nat :=
  unreported true capture.writer

def countedWritten (capture : AsyncDescriptorLayoutCapture Inventory) : Nat :=
  capture.counts.written

/-- A call that is received and neither queued nor counted as dropped or raised. -/
def callPending : CallPoint Inventory → Nat
  | .entered _ _ => 1
  | .answered (some true) => 0
  | .answered _ => 1

/-- A call whose enqueueing raised, not counted. -/
def callRaised : CallPoint Inventory → Nat
  | .answered none => 1
  | _ => 0

/-- One capture: a FIFO queue between admission and publication, with its counters. -/
structure CaptureSound (maxPending : Nat) (capture : AsyncDescriptorLayoutCapture Inventory) :
    Prop where
  fifo : capture.accepted =
    capture.published.map Prod.fst ++ unpublished capture.writer ++ capture.queue
  accepted : capture.counts.accepted = capture.accepted.length
  written : (capture.published.map Prod.snd).count true =
    capture.counts.written + uncounted true capture.writer
  failed : (capture.published.map Prod.snd).count false =
    capture.counts.failed + uncounted false capture.writer
  bounded : capture.queue.length ≤ maxPending
  exited : capture.writer = .exited → capture.closing = true ∧ capture.queue = []

/-- The whole system. -/
structure Balanced (maxPending : Nat) (state : DescriptorSystem Inventory) : Prop where
  sound : ∀ capture ∈ state.captures, CaptureSound maxPending capture
  received : state.counterValues.received =
    state.counterValues.written + state.counterValues.dropped +
      state.counterValues.callbackErrors + total callPending state.calls +
      total capturePending state.captures
  raised : state.raised = state.counterValues.callbackErrors + total callRaised state.calls
  written : state.counterValues.written + total unreportedWritten state.captures =
    total countedWritten state.captures

end Parts

/-! ## One capture -/

section Captures

variable {Inventory : Type} (regions : Inventory → Nat) (maxPending maxRegions : Nat)
variable (capture next : AsyncDescriptorLayoutCapture Inventory)

theorem fresh_sound : CaptureSound maxPending ({} : AsyncDescriptorLayoutCapture Inventory) where
  fifo := rfl
  accepted := rfl
  written := rfl
  failed := rfl
  bounded := Nat.zero_le _
  exited := fun point => by cases point

/-- A change that the adapter does not hear of. -/
structure Silent : Prop where
  sound : CaptureSound maxPending next
  pending : capturePending next = capturePending capture
  written : countedWritten next + unreportedWritten capture =
    countedWritten capture + unreportedWritten next

theorem close_silent (sound : CaptureSound maxPending capture) :
    Silent maxPending capture { capture with closing := true } where
  sound := ⟨sound.fifo, sound.accepted, sound.written, sound.failed, sound.bounded,
    fun point => ⟨rfl, (sound.exited point).2⟩⟩
  pending := rfl
  written := rfl

theorem take_silent (sound : CaptureSound maxPending capture)
    (taken : capture.take = some next) : Silent maxPending capture next := by
  rcases capture with ⟨queue, closing, counts, writer, accepted, published⟩
  unfold AsyncDescriptorLayoutCapture.take at taken
  split at taken
  · rename_i inventory rest waiting queued
    dsimp only at waiting queued
    subst waiting queued
    cases taken
    obtain ⟨fifo, admitted, written, failed, bounded, _⟩ := sound
    refine ⟨⟨?_, admitted, written, failed, Nat.le_of_succ_le bounded, ?_⟩, ?_, rfl⟩
    · simpa [unpublished] using fifo
    · intro point
      cases point
    · simp only [capturePending, unpublished, uncounted, unreported, List.length_cons,
        List.length_nil]
  · cases taken

theorem publish_silent (written : Bool) (sound : CaptureSound maxPending capture)
    (taken : capture.publish written = some next) : Silent maxPending capture next := by
  rcases capture with ⟨queue, closing, counts, writer, accepted, published⟩
  unfold AsyncDescriptorLayoutCapture.publish at taken
  split at taken
  · rename_i inventory publishing
    dsimp only at publishing
    subst publishing
    cases taken
    obtain ⟨fifo, admitted, counted, failed, bounded, _⟩ := sound
    refine ⟨⟨?_, admitted, ?_, ?_, bounded, ?_⟩, ?_, rfl⟩
    · simpa [unpublished] using fifo
    · cases written <;> simpa [uncounted] using counted
    · cases written <;> simpa [uncounted] using failed
    · intro point
      cases point
    · cases written <;> rfl
  · cases taken

theorem count_silent (sound : CaptureSound maxPending capture)
    (taken : capture.count = some next) : Silent maxPending capture next := by
  rcases capture with ⟨queue, closing, counts, writer, accepted, published⟩
  obtain ⟨fifo, admitted, counted, failed, bounded, _⟩ := sound
  unfold AsyncDescriptorLayoutCapture.count at taken
  split at taken
  · rename_i counting
    dsimp only at counting
    subst counting
    cases taken
    refine ⟨⟨fifo, admitted, counted, failed, bounded, fun point => by cases point⟩, rfl, ?_⟩
    rfl
  · rename_i counting
    dsimp only at counting
    subst counting
    cases taken
    exact ⟨⟨fifo, admitted, counted, failed, bounded, fun point => by cases point⟩, rfl, rfl⟩
  · cases taken

theorem exit_silent (cleanupRaises : Bool) (sound : CaptureSound maxPending capture)
    (taken : capture.exit cleanupRaises = some next) : Silent maxPending capture next := by
  rcases capture with ⟨queue, closing, counts, writer, accepted, published⟩
  obtain ⟨fifo, admitted, counted, failed, bounded, _⟩ := sound
  unfold AsyncDescriptorLayoutCapture.exit at taken
  split at taken
  · rename_i waiting empty closed
    dsimp only at waiting empty closed
    subst waiting empty closed
    cases taken
    cases cleanupRaises with
    | false => exact ⟨⟨fifo, admitted, counted, failed, bounded, fun _ => ⟨rfl, rfl⟩⟩, rfl, rfl⟩
    | true => exact ⟨⟨fifo, admitted, counted, failed, bounded, fun _ => ⟨rfl, rfl⟩⟩, rfl, rfl⟩
  · cases taken

/-- The result callback settles one pending inventory. -/
theorem report_told (written : Bool) (reporting : capture.writer = .reporting written)
    (sound : CaptureSound maxPending capture) :
    CaptureSound maxPending { capture with writer := .waiting } ∧
      capturePending capture = capturePending { capture with writer := .waiting } + 1 ∧
      unreportedWritten capture =
        unreportedWritten { capture with writer := .waiting } + (if written then 1 else 0) ∧
      countedWritten { capture with writer := .waiting } = countedWritten capture := by
  rcases capture with ⟨queue, closing, counts, writer, accepted, published⟩
  dsimp only at reporting
  subst reporting
  obtain ⟨fifo, admitted, counted, failed, bounded, _⟩ := sound
  refine ⟨⟨fifo, admitted, counted, failed, bounded, fun point => by cases point⟩, ?_, ?_, rfl⟩
  · cases written <;> rfl
  · cases written <;> rfl

/-- An admission adds one pending inventory when the answer is `True`, and none
otherwise. -/
theorem capture_admits (inventory : Argument Inventory)
    (sound : CaptureSound maxPending capture) :
    CaptureSound maxPending (capture.capture regions maxPending maxRegions inventory).2 ∧
      capturePending (capture.capture regions maxPending maxRegions inventory).2 =
        capturePending capture +
          (if (capture.capture regions maxPending maxRegions inventory).1 then 1 else 0) ∧
      countedWritten (capture.capture regions maxPending maxRegions inventory).2 =
        countedWritten capture ∧
      unreportedWritten (capture.capture regions maxPending maxRegions inventory).2 =
        unreportedWritten capture := by
  have refused : ∀ counts : AsyncDescriptorCounters, counts.accepted = capture.counts.accepted →
      counts.written = capture.counts.written → counts.failed = capture.counts.failed →
      CaptureSound maxPending { capture with counts := counts } := by
    intro counts accepted written failed
    exact ⟨sound.fifo, accepted.trans sound.accepted, written ▸ sound.written,
      failed ▸ sound.failed, sound.bounded, sound.exited⟩
  unfold AsyncDescriptorLayoutCapture.capture
  split
  · exact ⟨refused _ rfl rfl rfl, rfl, rfl, rfl⟩
  · rename_i opened
    split
    · exact ⟨refused _ rfl rfl rfl, rfl, rfl, rfl⟩
    · rename_i inventory
      split
      · exact ⟨refused _ rfl rfl rfl, rfl, rfl, rfl⟩
      · split
        · exact ⟨refused _ rfl rfl rfl, rfl, rfl, rfl⟩
        · rename_i room
          refine ⟨⟨?_, ?_, sound.written, sound.failed, ?_, ?_⟩, ?_, rfl, rfl⟩
          · change capture.accepted ++ [inventory] = capture.published.map Prod.fst ++
              unpublished capture.writer ++ (capture.queue ++ [inventory])
            rw [sound.fifo, List.append_assoc]
          · change capture.counts.accepted + 1 = (capture.accepted ++ [inventory]).length
            rw [sound.accepted, List.length_append, List.length_singleton]
          · change (capture.queue ++ [inventory]).length ≤ maxPending
            rw [List.length_append, List.length_singleton]
            omega
          · intro point
            exact absurd (sound.exited point).1 opened
          · simp only [capturePending, List.length_append, List.length_singleton, if_true]
            omega

end Captures

/-! ## The whole system -/

section System

variable {Inventory : Type} (regions : Inventory → Nat) (maxPending maxRegions : Nat)
variable (state : DescriptorSystem Inventory)

theorem sound_set (captures : List (AsyncDescriptorLayoutCapture Inventory)) (place : Nat)
    (next : AsyncDescriptorLayoutCapture Inventory)
    (sound : ∀ capture ∈ captures, CaptureSound maxPending capture)
    (changed : CaptureSound maxPending next) :
    ∀ capture ∈ captures.set place next, CaptureSound maxPending capture := by
  intro capture member
  rcases List.mem_or_eq_of_mem_set member with old | new
  · exact sound capture old
  · rw [new]
    exact changed

theorem writer_step_balanced (next : DescriptorSystem Inventory) (place : Nat)
    (change : AsyncDescriptorLayoutCapture Inventory →
      Option (AsyncDescriptorLayoutCapture Inventory))
    (silent : ∀ capture after, CaptureSound maxPending capture → change capture = some after →
      Silent maxPending capture after)
    (balanced : Balanced maxPending state) (taken : state.writerStep place change = some next) :
    Balanced maxPending next := by
  obtain ⟨capture, found, changed⟩ := Option.bind_eq_some_iff.mp taken
  obtain ⟨after, moved, same⟩ := Option.map_eq_some_iff.mp changed
  subst same
  have before := balanced.sound capture (List.mem_of_getElem? found)
  obtain ⟨sound, pending, written⟩ := silent capture after before moved
  have pendings := total_set capturePending state.captures place capture after found
  have counts := total_set countedWritten state.captures place capture after found
  have reports := total_set unreportedWritten state.captures place capture after found
  have received := balanced.received
  have total := balanced.written
  refine ⟨sound_set maxPending state.captures place after balanced.sound sound, ?_,
    balanced.raised, ?_⟩
  · dsimp only
    omega
  · dsimp only
    omega

theorem report_balanced (next : DescriptorSystem Inventory) (place : Nat)
    (balanced : Balanced maxPending state) (taken : state.report place = some next) :
    Balanced maxPending next := by
  unfold DescriptorSystem.report at taken
  cases found : state.captures[place]? with
  | none =>
      rw [found] at taken
      cases taken
  | some capture =>
      rw [found] at taken
      have before := balanced.sound capture (List.mem_of_getElem? found)
      dsimp only at taken
      split at taken
      · rename_i written reporting
        cases taken
        obtain ⟨sound, told, due, same⟩ := report_told maxPending capture written reporting before
        generalize { capture with writer := .waiting } = after at sound told due same ⊢
        have pendings := total_set capturePending state.captures place capture after found
        have counts := total_set countedWritten state.captures place capture after found
        have reports := total_set unreportedWritten state.captures place capture after found
        have received := balanced.received
        have total := balanced.written
        refine ⟨sound_set maxPending state.captures place after balanced.sound sound, ?_, ?_, ?_⟩
        · cases written with
          | false =>
              simp only [Bool.false_eq_true, if_false]
              omega
          | true =>
              simp only [if_true]
              omega
        · cases written <;> exact balanced.raised
        · cases written with
          | false =>
              simp only [Bool.false_eq_true, if_false] at due ⊢
              omega
          | true =>
              simp only [if_true] at due ⊢
              omega
      · cases taken

theorem enter_balanced (inventory : Argument Inventory) (balanced : Balanced maxPending state) :
    Balanced maxPending (state.enter inventory) := by
  unfold DescriptorSystem.enter
  split
  · have received := balanced.received
    refine ⟨balanced.sound, ?_, ?_, balanced.written⟩
    · dsimp only
      rw [total_snoc]
      simp only [callPending]
      omega
    · dsimp only
      rw [total_snoc]
      exact balanced.raised
  · exact ⟨balanced.sound, balanced.received, balanced.raised, balanced.written⟩

theorem enqueue_balanced (next : DescriptorSystem Inventory) (call : Nat) (raises : Bool)
    (balanced : Balanced maxPending state)
    (taken : state.enqueue regions maxPending maxRegions call raises = some next) :
    Balanced maxPending next := by
  have received := balanced.received
  have raised := balanced.raised
  have written := balanced.written
  unfold DescriptorSystem.enqueue at taken
  split at taken
  · rename_i inventory found
    cases taken
    have pendings := total_set callPending state.calls call _ (.answered (some false)) found
    have raises := total_set callRaised state.calls call _ (.answered (some false)) found
    refine ⟨balanced.sound, ?_, ?_, balanced.written⟩
    · simp only [callPending] at pendings
      dsimp only
      omega
    · simp only [callRaised] at raises
      dsimp only
      omega
  · rename_i place inventory found
    cases raises with
    | true =>
        cases taken
        have pendings := total_set callPending state.calls call _ (.answered none) found
        have raises := total_set callRaised state.calls call _ (.answered none) found
        refine ⟨balanced.sound, ?_, ?_, balanced.written⟩
        · simp only [callPending] at pendings
          dsimp only
          omega
        · simp only [callRaised] at raises
          dsimp only
          omega
    | false =>
        obtain ⟨capture, held, same⟩ := Option.map_eq_some_iff.mp taken
        subst same
        obtain ⟨sound, admits, counted, unreported⟩ := capture_admits regions maxPending maxRegions
          capture inventory (balanced.sound capture (List.mem_of_getElem? held))
        rcases captured : capture.capture regions maxPending maxRegions inventory
          with ⟨answer, after⟩
        rw [captured] at sound admits counted unreported
        dsimp only at sound admits counted unreported ⊢
        have calls := total_set callPending state.calls call _ (.answered (some answer)) found
        have raises := total_set callRaised state.calls call _ (.answered (some answer)) found
        have pendings := total_set capturePending state.captures place capture after held
        have counts := total_set countedWritten state.captures place capture after held
        have reports := total_set unreportedWritten state.captures place capture after held
        refine ⟨sound_set maxPending state.captures place after balanced.sound sound, ?_, ?_, ?_⟩
        · cases answer with
          | false =>
              simp only [callPending, Bool.false_eq_true, if_false] at calls admits
              dsimp only
              omega
          | true =>
              simp only [callPending, if_true] at calls admits
              dsimp only
              omega
        · cases answer with
          | false =>
              simp only [callRaised] at raises
              dsimp only
              omega
          | true =>
              simp only [callRaised] at raises
              dsimp only
              omega
        · dsimp only
          omega
  · cases taken

theorem answer_balanced (next : DescriptorSystem Inventory) (call : Nat)
    (balanced : Balanced maxPending state) (taken : state.answer call = some next) :
    Balanced maxPending next := by
  have received := balanced.received
  have raised := balanced.raised
  unfold DescriptorSystem.answer at taken
  split at taken
  · rename_i answer found
    cases taken
    have pendings := total_erase callPending state.calls call _ found
    have raises := total_erase callRaised state.calls call _ found
    cases answer with
    | none =>
        simp only [callPending, callRaised] at pendings raises
        refine ⟨balanced.sound, ?_, ?_, balanced.written⟩
        · dsimp only
          omega
        · dsimp only
          omega
    | some answer =>
        cases answer with
        | false =>
            simp only [callPending, callRaised] at pendings raises
            refine ⟨balanced.sound, ?_, ?_, balanced.written⟩
            · dsimp only
              omega
            · dsimp only
              omega
        | true =>
            simp only [callPending, callRaised] at pendings raises
            refine ⟨balanced.sound, ?_, ?_, balanced.written⟩
            · dsimp only
              omega
            · dsimp only
              omega
  · cases taken

theorem prepare_balanced (captures : Bool) (balanced : Balanced maxPending state) :
    Balanced maxPending { state with
      state := .starting
      current := if captures then some state.captures.length else none
      captures := if captures then state.captures ++ [{}] else state.captures } := by
  cases captures with
  | false => exact ⟨balanced.sound, balanced.received, balanced.raised, balanced.written⟩
  | true =>
      refine ⟨?_, ?_, balanced.raised, ?_⟩
      · intro capture member
        rcases List.mem_append.mp member with old | new
        · exact balanced.sound capture old
        · rw [List.mem_singleton.mp new]
          exact fresh_sound maxPending
      · simp only [if_true]
        rw [total_snoc]
        exact balanced.received
      · simp only [if_true]
        rw [total_snoc, total_snoc]
        exact balanced.written

theorem step_balanced (event : DescriptorEvent Inventory) (next : DescriptorSystem Inventory)
    (balanced : Balanced maxPending state)
    (taken : step regions maxPending maxRegions state event = some next) :
    Balanced maxPending next := by
  have moved : ∀ (after : AdapterState) (current : Option Nat),
      Balanced maxPending { state with state := after, current := current } :=
    fun _ _ => ⟨balanced.sound, balanced.received, balanced.raised, balanced.written⟩
  cases event with
  | prepare captures =>
      obtain ⟨_, prepared⟩ := Option.ite_none_right_eq_some.mp taken
      cases prepared
      exact prepare_balanced maxPending state captures balanced
  | activate =>
      obtain ⟨_, activated⟩ := Option.ite_none_right_eq_some.mp taken
      cases activated
      exact moved .active state.current
  | beginStop =>
      obtain ⟨_, stopping⟩ := Option.ite_none_left_eq_some.mp taken
      cases stopping
      exact moved .stopping state.current
  | endStop =>
      obtain ⟨_, stopped⟩ := Option.ite_none_right_eq_some.mp taken
      cases stopped
      exact moved .stopped none
  | close place =>
      refine writer_step_balanced maxPending state next place _ ?_ balanced taken
      intro capture after sound closed
      cases closed
      exact close_silent maxPending capture sound
  | enter inventory =>
      cases taken
      exact enter_balanced maxPending state inventory balanced
  | enqueue call raises =>
      exact enqueue_balanced regions maxPending maxRegions state next call raises balanced taken
  | answer call => exact answer_balanced maxPending state next call balanced taken
  | take place =>
      exact writer_step_balanced maxPending state next place _
        (fun capture after sound => take_silent maxPending capture after sound) balanced taken
  | publish place written =>
      exact writer_step_balanced maxPending state next place _
        (fun capture after sound => publish_silent maxPending capture after written sound)
        balanced taken
  | count place =>
      exact writer_step_balanced maxPending state next place _
        (fun capture after sound => count_silent maxPending capture after sound) balanced taken
  | report place => exact report_balanced maxPending state next place balanced taken
  | exit place cleanupRaises =>
      exact writer_step_balanced maxPending state next place _
        (fun capture after sound => exit_silent maxPending capture after cleanupRaises sound)
        balanced taken

/-! ## Runs -/

/-- The queue is bounded, and each accepted inventory is published at most once, in the
order of acceptance. -/
structure HandedOver (capture : AsyncDescriptorLayoutCapture Inventory) : Prop where
  bounded : capture.queue.length ≤ maxPending
  order : capture.accepted =
    capture.published.map Prod.fst ++ (unpublished capture.writer ++ capture.queue)

/-- A capture whose writer has exited. -/
structure Finished (capture : AsyncDescriptorLayoutCapture Inventory) : Prop where
  empty : capture.queue = []
  accepted : capture.counts.accepted = capture.counts.written + capture.counts.failed
  published : capture.accepted = capture.published.map Prod.fst
  successes : capture.counts.written = (capture.published.map Prod.snd).count true

/-- The successful publications of all captures. -/
def successes (captures : List (AsyncDescriptorLayoutCapture Inventory)) : Nat :=
  total (fun capture => (capture.published.map Prod.snd).count true) captures

/-- The counters of the adapter. -/
structure Accounted : Prop where
  received : state.counterValues.received =
    state.counterValues.written + state.counterValues.dropped + state.raised
  written : state.counterValues.written = successes state.captures

theorem sound_finished (capture : AsyncDescriptorLayoutCapture Inventory)
    (sound : CaptureSound maxPending capture) (exited : capture.writer = .exited) :
    Finished capture := by
  obtain ⟨fifo, admitted, written, failed, bounded, done⟩ := sound
  have empty := (done exited).2
  rw [exited] at fifo written failed
  rw [empty] at fifo
  have published : capture.accepted = capture.published.map Prod.fst := by
    simpa [unpublished] using fifo
  refine ⟨empty, ?_, published, written.symm⟩
  have results := List.count_true_add_count_false (capture.published.map Prod.snd)
  rw [written, failed, List.length_map] at results
  rw [admitted, published, List.length_map]
  exact results.symm

theorem balanced_accounted (balanced : Balanced maxPending state) (idle : state.calls = [])
    (exited : ∀ capture ∈ state.captures, capture.writer = .exited) : Accounted state := by
  have received := balanced.received
  have raised := balanced.raised
  have written := balanced.written
  have unqueued : total capturePending state.captures = 0 := by
    apply total_eq_zero
    intro capture member
    have empty := (balanced.sound capture member).exited (exited capture member)
    unfold capturePending
    rw [exited capture member, empty.2]
    rfl
  have told : total unreportedWritten state.captures = 0 := by
    apply total_eq_zero
    intro capture member
    unfold unreportedWritten
    rw [exited capture member]
    rfl
  have counted : total countedWritten state.captures = successes state.captures := by
    apply total_congr
    intro capture member
    exact (sound_finished maxPending capture (balanced.sound capture member)
      (exited capture member)).successes
  rw [idle, total_nil] at received raised
  exact ⟨by omega, by omega⟩

/-- For every interleaving of calls, starts, stops and writers: each queue is bounded
and published in order, and after a drain the counters balance. -/
theorem descriptor_accounting_balances (events : List (DescriptorEvent Inventory))
    (reached : Steps.run (step regions maxPending maxRegions) {} events = some state) :
    (∀ capture ∈ state.captures, HandedOver maxPending capture) ∧
      (∀ capture ∈ state.captures, capture.writer = .exited → Finished capture) ∧
      (state.calls = [] → (∀ capture ∈ state.captures, capture.writer = .exited) →
        Accounted state) := by
  have initial : Balanced maxPending ({} : DescriptorSystem Inventory) :=
    ⟨List.forall_mem_nil _, rfl, rfl, rfl⟩
  have balanced := Steps.invariant_run (step regions maxPending maxRegions) (Balanced maxPending)
    (fun state event next => step_balanced regions maxPending maxRegions state event next)
    {} state events initial reached
  refine ⟨?_, ?_, balanced_accounted maxPending state balanced⟩
  · intro capture member
    have sound := balanced.sound capture member
    exact ⟨sound.bounded, by rw [sound.fifo, List.append_assoc]⟩
  · intro capture member exited
    exact sound_finished maxPending capture (balanced.sound capture member) exited

end System

/-- Four calls with a queue of two: two are accepted, of which the writer publishes one and
fails to publish the other, one is refused because the queue is full, one raises; the
adapter is stopped and the writer drains. -/
def sampleDrain : List (DescriptorEvent Unit) :=
  [.prepare true, .activate, .enter (.typed ()), .enter (.typed ()), .enter (.typed ()),
    .enter (.typed ()), .enqueue 0 false, .enqueue 1 false, .enqueue 2 false, .enqueue 3 true,
    .answer 0, .answer 0, .answer 0, .answer 0, .beginStop, .close 0,
    .take 0, .publish 0 true, .count 0, .report 0,
    .take 0, .publish 0 false, .count 0, .report 0, .exit 0 false, .endStop]

theorem sample_drain_balances :
    ∃ state, Steps.run (step (fun _ => 0) 2 1) {} sampleDrain = some state ∧
      state.counterValues =
        { received := 4, queued := 2, written := 1, dropped := 2, callbackErrors := 1 } ∧
      Accounted state := by
  have reached : Steps.run (step (fun _ => 0) 2 1) {} sampleDrain = some _ := rfl
  refine ⟨_, reached, rfl, ?_⟩
  refine (descriptor_accounting_balances (fun _ => 0) 2 1 _ sampleDrain reached).2.2 rfl ?_
  intro capture member
  rw [List.mem_singleton.mp member]

end KVTransferObservability.DescriptorAccounting
