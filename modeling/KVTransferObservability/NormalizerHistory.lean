import KVTransferObservability.Library.Alternation
import KVTransferObservability.NormalizerRejection

/-!
# The emitted history of one transfer

The records of a transfer alternate between a start and a terminal record that
fits it. The log and the pending table move together: a start is open in the log
exactly when the transfer is pending, as long as the normalizer still emits.
-/

namespace KVTransferObservability.NormalizerHistory

open Library PythonValues Schema Observation Normalization NormalizerRecords
open NormalizerTransitions NormalizerRejection
open LifecycleNormalizer

set_option autoImplicit false

def IsStart (record : ObservationFields) : Prop :=
  record.event = .preserveStarted ∨ record.event = .restoreStarted

def IsCompletion (record : ObservationFields) : Prop :=
  record.event = .preserveCompleted ∨ record.event = .restoreCompleted

/-- The terminal record fits the start: same identity and direction, no step back
in time, and for a completion also the kind, the blocks and the exact duration. -/
structure Closes (start terminal : ObservationFields) : Prop where
  terminates : IsCompletion terminal ∨ terminal.event = .transferFailed ∨
    terminal.event = .transferCancelled
  identity : terminal.identity = start.identity
  direction : terminal.direction = start.direction
  ordered : start.observedAtNs.val ≤ terminal.observedAtNs.val
  kind : IsCompletion terminal →
    (terminal.event = .preserveCompleted ↔ start.event = .preserveStarted)
  blocks : IsCompletion terminal → terminal.blockCount = start.blockCount
  later : IsCompletion terminal → start.observedAtNs.val < terminal.observedAtNs.val
  duration : IsCompletion terminal → ∃ duration, terminal.durationNs = some duration ∧
    duration.val = terminal.observedAtNs.val - start.observedAtNs.val ∧
      1 ≤ duration.val ∧ duration.val ≤ 2 ^ 64 - 1

theorem started_is_start (source : CoreTransferSubmitted) : IsStart (startedFields source) := by
  unfold IsStart startedFields startEvent
  cases source.operation
  · exact Or.inl rfl
  · exact Or.inr rfl

theorem failed_closes (pending : CoreTransferSubmitted) (source : CoreTransferCompleted)
    (ordered : pending.observedAtNs.val ≤ source.observedAtNs.val) :
    Closes (startedFields pending) (failedFields pending source) where
  terminates := Or.inr (Or.inl rfl)
  identity := rfl
  direction := rfl
  ordered := ordered
  kind := by rintro (completion | completion) <;> cases completion
  blocks := by rintro (completion | completion) <;> cases completion
  later := by rintro (completion | completion) <;> cases completion
  duration := by rintro (completion | completion) <;> cases completion

theorem cancelled_closes (pending : CoreTransferSubmitted) (source : CoreTransferCancelled)
    (reason : TransferTerminalReason)
    (ordered : pending.observedAtNs.val ≤ source.observedAtNs.val) :
    Closes (startedFields pending) (cancelledFields pending source reason) where
  terminates := Or.inr (Or.inr rfl)
  identity := rfl
  direction := rfl
  ordered := ordered
  kind := by rintro (completion | completion) <;> cases completion
  blocks := by rintro (completion | completion) <;> cases completion
  later := by rintro (completion | completion) <;> cases completion
  duration := by rintro (completion | completion) <;> cases completion

theorem duration_between (first last : Uint uint64Max) (later : first.val < last.val) :
    (durationBetween first last).val = last.val - first.val ∧
      1 ≤ (durationBetween first last).val ∧ (durationBetween first last).val ≤ 2 ^ 64 - 1 := by
  refine ⟨rfl, ?_, (durationBetween first last).property⟩
  show 1 ≤ last.val - first.val
  omega

theorem restored_closes (pending : CoreTransferSubmitted) (source : CoreTransferCompleted)
    (receipt : ReceiptIdentity) (operation : pending.operation = .h2dRestore)
    (later : pending.observedAtNs.val < source.observedAtNs.val) :
    Closes (startedFields pending) (restoredFields pending source receipt) where
  terminates := Or.inl (Or.inr rfl)
  identity := rfl
  direction := by
    show some TransferDirection.h2d = some pending.operation.direction
    rw [operation]
    rfl
  ordered := Nat.le_of_lt later
  kind := by
    intro _
    simp [restoredFields, startedFields, startEvent, operation]
  blocks := fun _ => rfl
  later := fun _ => later
  duration := fun _ => ⟨_, rfl, duration_between _ _ later⟩

theorem preserved_closes (pending : CoreTransferSubmitted) (source : CoreTransferCompleted)
    (operation : pending.operation = .d2hPreserve)
    (later : pending.observedAtNs.val < source.observedAtNs.val) :
    Closes (startedFields pending) (preservedFields pending source) where
  terminates := Or.inl (Or.inl rfl)
  identity := rfl
  direction := by
    show some TransferDirection.d2h = some pending.operation.direction
    rw [operation]
    rfl
  ordered := Nat.le_of_lt later
  kind := by
    intro _
    simp [preservedFields, startedFields, startEvent, operation]
  blocks := fun _ => rfl
  later := fun _ => later
  duration := fun _ => ⟨_, rfl, duration_between _ _ later⟩

/-! ## One call seen from one transfer -/

/-- The normalizer can still emit. -/
def Emitting (self : LifecycleNormalizer) : Prop :=
  self.closed = false ∧ self.evidenceValid = true

def about (transfer : TransferIdentity) (record : KVTransferObservation) : Bool :=
  decide (record.transfer = some transfer)

/-- What a call does to the entry of one transfer and to the log about it. -/
inductive TransferEffect (self next : LifecycleNormalizer) (transfer : TransferIdentity) :
    Option KVTransferObservation → Prop
  | unrelated (result : Option KVTransferObservation)
      (silent : ∀ record ∈ result, about transfer record = false)
      (kept : Emitting next → Emitting self ∧
        next.pending.lookup transfer = self.pending.lookup transfer) :
      TransferEffect self next transfer result
  | starts (record : KVTransferObservation) (source : CoreTransferSubmitted)
      (fields : record.toObservationFields = startedFields source)
      (subject : source.transfer = transfer) (emitting : Emitting self)
      (absent : self.pending.lookup transfer = none)
      (entered : next.pending.lookup transfer = some source) :
      TransferEffect self next transfer (some record)
  | terminates (record : KVTransferObservation) (pending : CoreTransferSubmitted)
      (subject : record.transfer = some transfer) (emitting : Emitting self)
      (found : self.pending.lookup transfer = some pending)
      (closes : Closes (startedFields pending) record.toObservationFields)
      (removed : next.pending.lookup transfer = none) :
      TransferEffect self next transfer (some record)

theorem not_about (record : KVTransferObservation) (fields : ObservationFields)
    (transfer : TransferIdentity) (same : record.toObservationFields = fields)
    (other : fields.transfer ≠ some transfer) : about transfer record = false := by
  rw [about, same]
  exact decide_eq_false other

theorem no_record (transfer : TransferIdentity) :
    ∀ record ∈ (none : Option KVTransferObservation), about transfer record = false := by
  intro record member
  cases member

/-- A record that concerns no transfer, with the pending table untouched. -/
theorem impersonal_effect (self next : LifecycleNormalizer) (transfer : TransferIdentity)
    (record : KVTransferObservation) (impersonal : record.transfer = none)
    (emitting : Emitting self) (kept : next.pending = self.pending) :
    TransferEffect self next transfer (some record) := by
  apply TransferEffect.unrelated
  · intro other member
    cases member
    simp [about, impersonal]
  · intro _
    rw [kept]
    exact ⟨emitting, rfl⟩

theorem terminal_effect (self next : LifecycleNormalizer) (transfer ended : TransferIdentity)
    (record : KVTransferObservation) (pending : CoreTransferSubmitted)
    (subject : record.transfer = some ended) (emitting : Emitting self)
    (found : self.pending.lookup ended = some pending)
    (closes : Closes (startedFields pending) record.toObservationFields)
    (removed : next.pending = self.pending.erase ended) :
    TransferEffect self next transfer (some record) := by
  by_cases same : transfer = ended
  · subst same
    apply TransferEffect.terminates record pending subject emitting found closes
    rw [removed, Dict.lookup_erase_ite, if_pos rfl]
  · apply TransferEffect.unrelated
    · intro other member
      cases member
      rw [about, subject]
      exact decide_eq_false fun equal => same (Option.some.inj equal).symm
    · intro _
      rw [removed, Dict.lookup_erase_ite, if_neg same]
      exact ⟨emitting, rfl⟩

theorem started_effect (self next : LifecycleNormalizer) (transfer : TransferIdentity)
    (record : KVTransferObservation) (source : CoreTransferSubmitted)
    (fields : record.toObservationFields = startedFields source) (emitting : Emitting self)
    (absent : source.transfer ∉ self.pending)
    (entered : next.pending = self.pending.insert source.transfer source) :
    TransferEffect self next transfer (some record) := by
  by_cases same : source.transfer = transfer
  · apply TransferEffect.starts record source fields same emitting
    · rw [← same]
      exact Finmap.lookup_eq_none.mpr absent
    · rw [entered, Dict.lookup_insert_ite, if_pos same.symm]
  · apply TransferEffect.unrelated
    · intro other member
      cases member
      exact not_about record _ transfer fields fun equal => same (Option.some.inj equal)
    · intro _
      rw [entered, Dict.lookup_insert_ite, if_neg (Ne.symm same)]
      exact ⟨emitting, rfl⟩

theorem outcome_effect (self next : LifecycleNormalizer) (source : SourceObservation)
    (result : Option KVTransferObservation) (emitting : Emitting self)
    (outcome : Outcome self source result next) (spared : Spared self (.normalize source))
    (transfer : TransferIdentity) : TransferEffect self next transfer result := by
  cases outcome with
  | refused source reason => exact .unrelated none (no_record transfer) fun _ => ⟨emitting, rfl⟩
  | mismatched source mismatch =>
      exact .unrelated none (no_record transfer) fun after =>
        absurd after.2 Bool.false_ne_true
  | torn source pending object text found ordered =>
      refine absurd ⟨emitting.1, emitting.2, ?_, pending, found, ordered⟩ spared
      intro reason typed
      rw [text] at typed
      cases typed
  | submissionFull source absent unfinished full =>
      exact .unrelated none (no_record transfer) fun after =>
        absurd after.2 Bool.false_ne_true
  | completionFull source pending receipt matched retained full =>
      exact .unrelated none (no_record transfer) fun after =>
        absurd after.2 Bool.false_ne_true
  | admissionFull source epoch absent full =>
      exact .unrelated none (no_record transfer) fun after =>
        absurd after.2 Bool.false_ne_true
  | started source record fields absent unfinished room =>
      exact started_effect self _ transfer record source fields emitting absent rfl
  | failed source pending record fields found ordered preserve failure bytes receipt =>
      have closes := failed_closes pending source ordered
      have subject := congrArg ObservationFields.transfer fields
      rw [← fields] at closes
      exact terminal_effect self _ transfer source.transfer record pending subject emitting found
        closes rfl
  | restored source pending receipt record fields matched scope room =>
      have closes := restored_closes pending source receipt matched.operation matched.later
      have subject := congrArg ObservationFields.transfer fields
      rw [← fields] at closes
      exact terminal_effect self _ transfer source.transfer record pending subject emitting
        matched.found closes rfl
  | preserved source pending record fields found operation later success moved receipt =>
      have closes := preserved_closes pending source operation later
      have subject := congrArg ObservationFields.transfer fields
      rw [← fields] at closes
      exact terminal_effect self _ transfer source.transfer record pending subject emitting found
        closes rfl
  | cancelled source pending reason record fields member found ordered =>
      have closes := cancelled_closes pending source reason ordered
      have subject := congrArg ObservationFields.transfer fields
      rw [← fields] at closes
      exact terminal_effect self _ transfer source.transfer record pending subject emitting found
        closes rfl
  | requeued source record fields epoch =>
      have impersonal := congrArg ObservationFields.transfer fields
      exact impersonal_effect self _ transfer record impersonal emitting rfl
  | admitted source record fields epoch absent room backed =>
      have impersonal := congrArg ObservationFields.transfer fields
      exact impersonal_effect self _ transfer record impersonal emitting rfl
  | computed source record fields epoch matched =>
      have impersonal := congrArg ObservationFields.transfer fields
      exact impersonal_effect self _ transfer record impersonal emitting rfl

theorem step_effect (self : LifecycleNormalizer) (call : Call) (spared : Spared self call)
    (transfer : TransferIdentity) :
    TransferEffect self (step self call).2 transfer (returned (step self call).1) := by
  obtain ⟨result, answer, transition⟩ := step_transition self call
  rw [answer]
  generalize (step self call).2 = next at transition ⊢
  cases transition with
  | afterClose source closed =>
      refine .unrelated none (no_record transfer) fun after => ?_
      have opened : self.closed = false := after.1
      rw [closed] at opened
      cases opened
  | afterLoss source opened lost =>
      refine .unrelated none (no_record transfer) fun after => ?_
      have valid : self.evidenceValid = true := after.2
      rw [lost] at valid
      cases valid
  | handled source result next opened valid outcome =>
      exact outcome_effect self next source result ⟨opened, valid⟩ outcome spared transfer
  | closed =>
      refine .unrelated none (no_record transfer) fun after => ?_
      have opened := after.1
      unfold close at opened
      split at opened
      · rename_i closed
        rw [closed] at opened
        cases opened
      · cases opened

/-! ## The log -/

def history (transfer : TransferIdentity) (log : List (Py (Option KVTransferObservation))) :
    List KVTransferObservation :=
  (log.filterMap returned).filter (about transfer)

def Opens (record : KVTransferObservation) : Prop := IsStart record.toObservationFields

def Fits (start terminal : KVTransferObservation) : Prop :=
  Closes start.toObservationFields terminal.toObservationFields

/-- The log alternates, and its open start is the pending entry. -/
structure Logged (transfer : TransferIdentity) (self : LifecycleNormalizer)
    (log : List (Py (Option KVTransferObservation))) (last : Option KVTransferObservation) :
    Prop where
  alternates : Alternates Opens Fits (history transfer log) last
  entry : Emitting self → last.map KVTransferObservation.toObservationFields =
    (self.pending.lookup transfer).map startedFields

theorem history_snoc (transfer : TransferIdentity)
    (log : List (Py (Option KVTransferObservation)))
    (answer : Py (Option KVTransferObservation)) :
    history transfer (log ++ [answer]) =
      history transfer log ++ (returned answer).toList.filter (about transfer) := by
  unfold history
  rw [List.filterMap_append, List.filter_append]
  cases answered : returned answer <;> simp [answered]

theorem history_unrelated (transfer : TransferIdentity)
    (log : List (Py (Option KVTransferObservation)))
    (answer : Py (Option KVTransferObservation))
    (silent : ∀ record ∈ returned answer, about transfer record = false) :
    history transfer (log ++ [answer]) = history transfer log := by
  rw [history_snoc]
  cases answered : returned answer with
  | none => simp
  | some record => simp [silent record (by rw [answered]; rfl)]

theorem history_related (transfer : TransferIdentity)
    (log : List (Py (Option KVTransferObservation)))
    (answer : Py (Option KVTransferObservation)) (record : KVTransferObservation)
    (answered : returned answer = some record) (subject : record.transfer = some transfer) :
    history transfer (log ++ [answer]) = history transfer log ++ [record] := by
  rw [history_snoc, answered]
  simp [about, subject]

theorem logged_step (transfer : TransferIdentity) (self : LifecycleNormalizer)
    (log : List (Py (Option KVTransferObservation))) (call : Call)
    (logged : ∃ last, Logged transfer self log last) (spared : Spared self call) :
    ∃ last, Logged transfer (step self call).2 (log ++ [(step self call).1]) last := by
  obtain ⟨last, alternates, entry⟩ := logged
  have effect := step_effect self call spared transfer
  generalize answered : returned (step self call).1 = result at effect
  cases effect with
  | unrelated result silent kept =>
      refine ⟨last, ?_, ?_⟩
      · rw [history_unrelated transfer log _ (by rw [answered]; exact silent)]
        exact alternates
      · intro after
        obtain ⟨before, same⟩ := kept after
        rw [same]
        exact entry before
  | starts record source fields subject emitting absent entered =>
      have none_open : last = none := by
        have opened := entry emitting
        rw [absent] at opened
        exact Option.map_eq_none_iff.mp opened
      have carried : record.transfer = some transfer := by
        rw [fields, ← subject]
        rfl
      refine ⟨some record, ?_, ?_⟩
      · rw [history_related transfer log _ record answered carried]
        rw [none_open] at alternates
        apply Alternates.opened _ _ alternates
        rw [Opens, fields]
        exact started_is_start source
      · intro _
        rw [entered]
        exact congrArg some fields
  | terminates record pending subject emitting found closes removed =>
      obtain ⟨first, opened, started⟩ : ∃ first, last = some first ∧
          first.toObservationFields = startedFields pending := by
        have same := entry emitting
        rw [found] at same
        exact Option.map_eq_some_iff.mp same
      refine ⟨none, ?_, ?_⟩
      · rw [history_related transfer log _ record answered subject]
        rw [opened] at alternates
        apply Alternates.closed _ _ _ alternates
        rw [Fits, started]
        exact closes
      · intro _
        rw [removed]
        rfl

/-- In a run without torn cancellations the records of every transfer are pairs of
a start and a terminal that fits it, followed by at most one open start. -/
theorem emitted_history_alternates (transfers admissions : Nat) (retain : Bool)
    (calls : List Call)
    (spared : Machine.Along step Spared (fresh transfers admissions retain) calls)
    (transfer : TransferIdentity) :
    ∃ (pairs : List (KVTransferObservation × KVTransferObservation))
      (last : Option KVTransferObservation),
      (emitted (fresh transfers admissions retain) calls).filter (about transfer) =
        pairs.flatMap (fun pair => [pair.1, pair.2]) ++ last.toList ∧
      (∀ pair ∈ pairs, IsStart pair.1.toObservationFields ∧
        Closes pair.1.toObservationFields pair.2.toObservationFields) ∧
      ∀ start ∈ last, IsStart start.toObservationFields := by
  have logged := Machine.history_along step
    (fun self log => ∃ last, Logged transfer self log last) Spared
    (fun self log call before now => logged_step transfer self log call before now)
    (fresh transfers admissions retain) [] calls ⟨none, .empty, fun _ => rfl⟩ spared
  obtain ⟨last, alternates, _⟩ := logged
  obtain ⟨pairs, split, finished, opening⟩ := alternates_pairs Opens Fits _ last alternates
  exact ⟨pairs, last, split, finished, opening⟩

theorem emitted_history_alternates_cancelled :
    let cancellation : CoreTransferCancelled :=
      { transfer := sampleTransfer
        observedAtNs := ⟨20, by decide⟩
        reason := .typed .requestCancelled
        cancellation := rfl }
    let calls : List Call :=
      [.normalize (.submitted (sampleSubmission ⟨10, by decide⟩)),
        .normalize (.cancelled cancellation)]
    ∃ (pairs : List (KVTransferObservation × KVTransferObservation))
      (last : Option KVTransferObservation),
      (emitted (fresh 1 1 true) calls).filter (about sampleTransfer) =
        pairs.flatMap (fun pair => [pair.1, pair.2]) ++ last.toList ∧
      (∀ pair ∈ pairs, IsStart pair.1.toObservationFields ∧
        Closes pair.1.toObservationFields pair.2.toObservationFields) ∧
      ∀ start ∈ last, IsStart start.toObservationFields := by
  intro cancellation calls
  have spared : Machine.Along step Spared (fresh 1 1 true) calls := by
    refine ⟨trivial, ?_, trivial⟩
    intro torn
    exact torn.text .requestCancelled rfl
  exact emitted_history_alternates 1 1 true calls spared sampleTransfer

/-- A submission, its cancellation with the reason as plain text, and the same
transfer again: two starts with no terminal between them. -/
def resubmission : List Call :=
  [.normalize (.submitted (sampleSubmission ⟨10, time_ten⟩)),
    .normalize (.cancelled textCancellation),
    .normalize (.submitted (sampleSubmission ⟨30, time_thirty⟩))]

def sampleStart (observedAtNs : Uint uint64Max) : KVTransferObservation :=
  { startedFields (sampleSubmission observedAtNs) with shape := started_shape _ }

theorem text_cancellation_repeats_start :
    ¬ ∃ (pairs : List (KVTransferObservation × KVTransferObservation))
      (last : Option KVTransferObservation),
      (emitted (fresh 1 1 true) resubmission).filter (about sampleTransfer) =
        pairs.flatMap (fun pair => [pair.1, pair.2]) ++ last.toList ∧
      (∀ pair ∈ pairs, IsStart pair.1.toObservationFields ∧
        Closes pair.1.toObservationFields pair.2.toObservationFields) ∧
      ∀ start ∈ last, IsStart start.toObservationFields := by
  have twice : (emitted (fresh 1 1 true) resubmission).filter (about sampleTransfer) =
      [sampleStart ⟨10, by decide⟩, sampleStart ⟨30, by decide⟩] := rfl
  rintro ⟨pairs, last, split, finished, _⟩
  rw [twice] at split
  cases pairs with
  | nil => cases last <;> cases split
  | cons pair pairs =>
      obtain ⟨start, terminal⟩ := pair
      simp only [List.flatMap_cons, List.cons_append, List.nil_append, List.cons.injEq] at split
      have closes := (finished (start, terminal) List.mem_cons_self).2
      rw [← split.2.1] at closes
      rcases closes.terminates with (completion | completion) | failed | cancelled
      · cases completion
      · cases completion
      · cases failed
      · cases cancelled

end KVTransferObservability.NormalizerHistory
