import KVTransferObservability.ChainEpisodes
import KVTransferObservability.ChainVerdict
import KVTransferObservability.ValidationErrors

/-!
# Accepted chains are the complete recoveries

A complete recovery is one requeue, the starts and completions of its restores, one
admission of exactly these restores and one first compute of the same roster. The
validator accepts a request exactly if the recovery events of each identity are one
complete recovery and the recoveries share no transfer and no receipt.
-/

namespace KVTransferObservability.RestoreChain

open Library PythonValues Schema Observation Normalization Validation
open Adapter NormalizerRecords NormalizerTransitions NormalizerEvidence
open ChainRules ChainVerdict ChainEpisodes

set_option autoImplicit false

/-- The moves between the requeue and the admission restore exactly the roster, each
transfer once, and the first compute carries that roster. -/
structure Completed (requeue : KVTransferObservation) (moves : History)
    (admission compute : KVTransferObservation) : Prop where
  requeued : requeue.event = .recoveryRequeued
  moving : ∀ move ∈ moves, move.event = .restoreStarted ∨ move.event = .restoreCompleted
  admitted : admission.event = .recoveryAdmitted
  computed : compute.event = .firstCompute
  ordered : (requeue :: (moves ++ [admission, compute])).Pairwise fun earlier later =>
    earlier.observedAtNs.val ≤ later.observedAtNs.val
  startedOnce : (moves.filterMap startedTransfer).Nodup
  completedOnce : (moves.filterMap completedTransfer).Nodup
  measured : ∀ before completion after, moves = before ++ completion :: after →
    completion.event = .restoreCompleted →
    ∃ start ∈ before, start.event = .restoreStarted ∧ Measures start completion
  rosterStarted : ∀ transfer, transfer ∈ admission.associatedTransfers.val ↔
    ∃ start ∈ moves, StartOf transfer start
  rosterCompleted : ∀ transfer, transfer ∈ admission.associatedTransfers.val ↔
    ∃ completion ∈ moves, CompletionOf transfer completion
  sameRoster : compute.associatedTransfers = admission.associatedTransfers

def CompleteRecovery (own : History) : Prop :=
  ∃ requeue moves admission compute, own = requeue :: (moves ++ [admission, compute]) ∧
    Completed requeue moves admission compute

section Parts

variable {requeue : KVTransferObservation} {moves : History}
variable {admission compute : KVTransferObservation} {identity : ObservationIdentity}

theorem moves_identity
    (same : ∀ record ∈ requeue :: (moves ++ [admission, compute]), record.identity = identity)
    (record : KVTransferObservation) (listed : record ∈ requeue :: moves) :
    record.identity = admission.identity := by
  have inside : record ∈ (requeue :: moves) ++ [admission, compute] :=
    List.mem_append_left _ listed
  rw [same record inside, same admission (by simp)]

/-- Among the events before the admission, the requeue is no evidence for a transfer. -/
theorem exists_move_iff (requeued : requeue.event = .recoveryRequeued)
    (identical : ∀ record ∈ requeue :: moves, record.identity = identity)
    (kind : KVTransferObservation → Prop)
    (moving : ∀ record, kind record → record.event ≠ .recoveryRequeued) :
    (∃ record ∈ requeue :: moves, record.identity = identity ∧ kind record) ↔
      ∃ record ∈ moves, kind record := by
  constructor
  · rintro ⟨record, listed, _, facts⟩
    rcases List.mem_cons.mp listed with rfl | inside
    · exact absurd requeued (moving record facts)
    · exact ⟨record, inside, facts⟩
  · rintro ⟨record, listed, facts⟩
    have inside := List.mem_cons_of_mem requeue listed
    exact ⟨record, inside, identical record inside, facts⟩

theorem start_moves (transfer : TransferIdentity) (record : KVTransferObservation)
    (started : StartOf transfer record) : record.event ≠ .recoveryRequeued := by
  rw [started.1]
  decide

theorem completion_moves (transfer : TransferIdentity) (record : KVTransferObservation)
    (completed : CompletionOf transfer record) : record.event ≠ .recoveryRequeued := by
  rw [completed.1]
  decide

end Parts

/-! ## A legal episode that computed is complete -/

section Legal

variable {own : History} {identity : ObservationIdentity}
variable (same : ∀ record ∈ own, record.identity = identity)
variable (legal : OnlineCheck.Legal Continues [] own)
include same legal

/-- Only a requeue opens an episode, and everything later follows it. -/
theorem opened_unless_requeue (before after : History) (record : KVTransferObservation)
    (split : own = before ++ record :: after) :
    (record.event = .recoveryRequeued ∧ before = []) ∨ Opened before record := by
  have continues := (OnlineCheck.legal_iff Continues own).mp legal before record after split
  rw [Continues] at continues
  cases event : record.event <;> rw [event] at continues
  case recoveryRequeued =>
    left
    refine ⟨rfl, List.eq_nil_iff_forall_not_mem.mpr ?_⟩
    intro other member
    apply continues other member
    rw [same other (by simp [split, member]), same record (by simp [split])]
  case restoreStarted => exact .inr continues.1
  case restoreCompleted => exact .inr continues.1
  case recoveryAdmitted => exact .inr continues.1
  case firstCompute => exact .inr continues.1
  all_goals cases continues

theorem own_ordered :
    own.Pairwise fun earlier later => earlier.observedAtNs.val ≤ later.observedAtNs.val := by
  rw [← OnlineCheck.legal_pairwise_iff, OnlineCheck.legal_iff]
  intro before record after split other member
  rcases opened_unless_requeue same legal before after record split with first | opened
  · rw [first.2] at member
    cases member
  · apply opened.ordered other member
    rw [same other (by simp [split, member]), same record (by simp [split])]

theorem compute_is_last (before after : History) (compute : KVTransferObservation)
    (split : own = before ++ compute :: after) (event : compute.event = .firstCompute) :
    after = [] := by
  cases after with
  | nil => rfl
  | cons next rest =>
      have later := opened_unless_requeue same legal (before ++ [compute]) rest next
        (by rw [split]; simp)
      rcases later with first | opened
      · simp at first
      · exfalso
        apply opened.uncomputed compute (by simp)
        constructor
        · rw [same compute (by simp [split]), same next (by simp [split])]
        · exact event

theorem admission_then_compute (before after : History)
    (admission compute : KVTransferObservation)
    (split : own = before ++ admission :: (after ++ [compute]))
    (event : admission.event = .recoveryAdmitted) : after = [] := by
  cases after with
  | nil => rfl
  | cons next rest =>
      exfalso
      have nextSplit : own = (before ++ [admission]) ++ next :: (rest ++ [compute]) := by
        rw [split]
        simp
      have identical : admission.identity = next.identity := by
        rw [same admission (by simp [split]), same next (by simp [split])]
      have unadmitted : ¬ Unadmitted (before ++ [admission]) next := by
        intro unadmitted
        exact unadmitted admission (by simp) ⟨identical, event⟩
      have continues := (OnlineCheck.legal_iff Continues own).mp legal _ next _ nextSplit
      rw [Continues] at continues
      cases kind : next.event <;> rw [kind] at continues
      case recoveryRequeued => exact continues admission (by simp) identical
      case restoreStarted => exact unadmitted continues.2
      case restoreCompleted => exact unadmitted continues.2.1
      case recoveryAdmitted => exact unadmitted continues.2.1
      case firstCompute =>
        have last := compute_is_last same legal _ _ next nextSplit kind
        simp at last
      all_goals cases continues

/-- The shape of an episode that computed. -/
theorem episode_shape (compute : KVTransferObservation) (member : compute ∈ own)
    (event : compute.event = .firstCompute) :
    ∃ requeue moves admission, own = requeue :: (moves ++ [admission, compute]) ∧
      admission.event = .recoveryAdmitted ∧
      admission.associatedTransfers = compute.associatedTransfers := by
  obtain ⟨before, after, split⟩ := List.append_of_mem member
  have last := compute_is_last same legal before after compute split event
  rw [last] at split
  have continues := (OnlineCheck.legal_iff Continues own).mp legal before compute [] split
  rw [Continues, event] at continues
  obtain ⟨_, admission, earlier, admitted, roster⟩ := continues
  obtain ⟨first, between, splitBefore⟩ := List.append_of_mem earlier
  have joined : own = first ++ admission :: (between ++ [compute]) := by
    rw [split, splitBefore]
    simp
  have adjacent := admission_then_compute same legal first between admission compute joined
    admitted.2
  rw [adjacent] at joined
  cases first with
  | nil =>
      have opened := opened_unless_requeue same legal [] _ admission joined
      rw [admitted.2] at opened
      rcases opened with wrong | opened
      · cases wrong.1
      · obtain ⟨other, absent, _⟩ := opened.known
        cases absent
  | cons requeue moves =>
      exact ⟨requeue, moves, admission, joined, admitted.2, roster⟩

/-! ### The parts of that shape -/

section Shape

variable {requeue : KVTransferObservation} {moves : History}
variable {admission compute : KVTransferObservation}
variable (shape : own = requeue :: (moves ++ [admission, compute]))
include shape

theorem first_requeued : requeue.event = .recoveryRequeued := by
  rcases opened_unless_requeue same legal [] _ requeue shape with first | opened
  · exact first.1
  · obtain ⟨other, absent, _⟩ := opened.known
    cases absent

omit same in
theorem move_continues (before after : History) (move : KVTransferObservation)
    (split : moves = before ++ move :: after) : Continues (requeue :: before) move := by
  apply (OnlineCheck.legal_iff Continues own).mp legal _ move (after ++ [admission, compute])
  rw [shape, split]
  simp

omit same in
theorem move_completes (before after : History) (move : KVTransferObservation)
    (split : moves = before ++ move :: after) (event : move.event = .restoreCompleted) :
    Completes (requeue :: before) move := by
  have continues := move_continues legal shape before after move split
  rw [Continues, event] at continues
  exact continues.2.2

omit same in
theorem last_admits (admitted : admission.event = .recoveryAdmitted) :
    Opened (requeue :: moves) admission ∧ Unadmitted (requeue :: moves) admission ∧
      CoversRoster (requeue :: moves) admission := by
  have split : own = (requeue :: moves) ++ admission :: [compute] := by
    rw [shape]
    simp
  have continues := (OnlineCheck.legal_iff Continues own).mp legal _ admission _ split
  rw [Continues, admitted] at continues
  exact continues

theorem moves_move (admitted : admission.event = .recoveryAdmitted)
    (move : KVTransferObservation) (listed : move ∈ moves) :
    move.event = .restoreStarted ∨ move.event = .restoreCompleted := by
  obtain ⟨opened, unadmitted, _⟩ := last_admits legal shape admitted
  have inside := List.mem_cons_of_mem requeue listed
  subst shape
  have identical := moves_identity same move inside
  obtain ⟨before, after, split⟩ := List.append_of_mem listed
  have continues := move_continues legal rfl before after move split
  rw [Continues] at continues
  cases kind : move.event <;> rw [kind] at continues
  case recoveryRequeued =>
    apply absurd (moves_identity same requeue List.mem_cons_self)
    rw [← identical]
    exact continues requeue List.mem_cons_self
  case restoreStarted => exact .inl rfl
  case restoreCompleted => exact .inr rfl
  case recoveryAdmitted => exact absurd ⟨identical, kind⟩ (unadmitted move inside)
  case firstCompute => exact absurd ⟨identical, kind⟩ (opened.uncomputed move inside)
  all_goals cases continues

theorem moves_completed_once : (moves.filterMap completedTransfer).Nodup := by
  rw [← OnlineCheck.legal_fresh_iff, OnlineCheck.legal_iff]
  intro before move after split transfer found again
  rw [completedTransfer, Option.ite_none_right_eq_some] at found
  obtain ⟨other, earlier, event, repeated⟩ :=
    (mem_completed_transfers before transfer).mp again
  have identical : other.identity = move.identity := by
    subst shape
    rw [moves_identity same other (by simp [split, earlier]),
      moves_identity same move (by simp [split])]
  have once := (move_completes legal shape before after move split found.1).once other
    (List.mem_cons_of_mem requeue earlier) identical event
  exact once (repeated.trans found.2.symm)

theorem moves_measured (before after : History) (completion : KVTransferObservation)
    (split : moves = before ++ completion :: after)
    (event : completion.event = .restoreCompleted) :
    ∃ start ∈ before, start.event = .restoreStarted ∧ Measures start completion := by
  obtain ⟨start, earlier, started, measures⟩ :=
    (move_completes legal shape before after completion split event).started
  rcases List.mem_cons.mp earlier with rfl | inside
  · have requeued := first_requeued same legal shape
    rw [requeued] at started
    cases started
  · exact ⟨start, inside, started, measures⟩

end Shape

theorem complete_of_legal (startedOnce : (own.filterMap startedTransfer).Nodup)
    (compute : KVTransferObservation) (member : compute ∈ own)
    (computed : compute.event = .firstCompute) : CompleteRecovery own := by
  obtain ⟨requeue, moves, admission, shape, admitted, roster⟩ :=
    episode_shape same legal compute member computed
  have covers := (last_admits legal shape admitted).2.2
  have requeued := first_requeued same legal shape
  have members := same
  rw [shape] at members
  have identical := moves_identity members
  refine ⟨requeue, moves, admission, compute, shape, ?_⟩
  constructor
  case requeued => exact requeued
  case moving => exact moves_move same legal shape admitted
  case admitted => exact admitted
  case computed => exact computed
  case ordered =>
    rw [← shape]
    exact own_ordered same legal
  case startedOnce =>
    have inside : List.Sublist moves own := by
      rw [shape]
      exact (List.sublist_append_left moves _).cons requeue
    exact startedOnce.sublist (inside.filterMap startedTransfer)
  case completedOnce => exact moves_completed_once same legal shape
  case measured =>
    intro before completion after
    exact moves_measured same legal shape before after completion
  case rosterStarted =>
    intro transfer
    rw [covers.started]
    exact exists_move_iff requeued identical _ (start_moves transfer)
  case rosterCompleted =>
    intro transfer
    rw [covers.completed]
    exact exists_move_iff requeued identical _ (completion_moves transfer)
  case sameRoster => exact roster.symm

end Legal

/-! ## A complete episode is legal -/

section Complete

variable {requeue : KVTransferObservation} {moves : History}
variable {admission compute : KVTransferObservation}
variable (completed : Completed requeue moves admission compute)
variable {identity : ObservationIdentity}
variable (same : ∀ record ∈ requeue :: (moves ++ [admission, compute]),
  record.identity = identity)
include completed same

/-- What stands before a record of the episode opens it, unless it has computed. -/
theorem completed_opens (before after : History) (record : KVTransferObservation)
    (split : moves ++ [admission, compute] = before ++ record :: after)
    (uncomputed : ∀ other ∈ before, other.event ≠ .firstCompute) :
    Opened (requeue :: before) record := by
  have ordered := completed.ordered
  rw [split, ← List.cons_append, List.pairwise_append] at ordered
  rw [split] at same
  constructor
  · refine ⟨requeue, List.mem_cons_self, ?_⟩
    rw [same requeue List.mem_cons_self, same record (by simp)]
  · intro other listed computed
    rcases List.mem_cons.mp listed with rfl | inside
    · have requeued := completed.requeued
      rw [computed.2] at requeued
      cases requeued
    · exact uncomputed other inside computed.2
  · intro other listed _
    exact ordered.2.2 other listed record List.mem_cons_self

omit same in
theorem moving_event (move : KVTransferObservation) (listed : move ∈ requeue :: moves)
    (event : ObservationEvent) (other : event ≠ .recoveryRequeued ∧ event ≠ .restoreStarted ∧
      event ≠ .restoreCompleted) : move.event ≠ event := by
  intro same
  subst same
  rcases List.mem_cons.mp listed with rfl | inside
  · exact other.1 completed.requeued
  · rcases completed.moving move inside with started | ended
    · exact other.2.1 started
    · exact other.2.2 ended

theorem move_legal (before after : History) (move : KVTransferObservation)
    (split : moves = before ++ move :: after) : Continues (requeue :: before) move := by
  have earlier : ∀ other ∈ requeue :: before, other ∈ requeue :: moves := by
    intro other listed
    rw [split]
    exact List.mem_append_left (move :: after) listed
  have opened : Opened (requeue :: before) move := by
    apply completed_opens completed same before (after ++ [admission, compute]) move
    · rw [split]
      simp
    · intro other listed
      exact moving_event completed other (earlier other (List.mem_cons_of_mem _ listed))
        .firstCompute (by decide)
  have unadmitted : Unadmitted (requeue :: before) move := by
    intro other listed admitted
    exact moving_event completed other (earlier other listed) .recoveryAdmitted (by decide)
      admitted.2
  rcases completed.moving move (by simp [split]) with event | event
  · rw [Continues, event]
    exact ⟨opened, unadmitted⟩
  · rw [Continues, event]
    refine ⟨opened, unadmitted, ?_, ?_⟩
    · obtain ⟨start, listed, facts⟩ := completed.measured before move after split event
      exact ⟨start, List.mem_cons_of_mem requeue listed, facts⟩
    · intro other listed _ ended repeated
      have once := completed.completedOnce
      rw [← OnlineCheck.legal_fresh_iff, OnlineCheck.legal_iff] at once
      rcases List.mem_cons.mp listed with rfl | inside
      · rw [completed.requeued] at ended
        cases ended
      · obtain ⟨transfer, field⟩ := completed_value move event
        apply once before move after split transfer
        · rw [completedTransfer, if_pos event, field]
        · exact (mem_completed_transfers before transfer).mpr
            ⟨other, inside, ended, repeated.trans field⟩

theorem admission_legal : Continues (requeue :: moves) admission := by
  have identical := moves_identity same
  rw [Continues, completed.admitted]
  refine ⟨?_, ?_, ?_, ?_⟩
  · apply completed_opens completed same moves [compute] admission rfl
    intro other listed
    exact moving_event completed other (List.mem_cons_of_mem _ listed) .firstCompute (by decide)
  · intro other listed admitted
    exact moving_event completed other listed .recoveryAdmitted (by decide) admitted.2
  · intro transfer
    rw [completed.rosterStarted]
    exact (exists_move_iff completed.requeued identical _ (start_moves transfer)).symm
  · intro transfer
    rw [completed.rosterCompleted]
    exact (exists_move_iff completed.requeued identical _ (completion_moves transfer)).symm

theorem compute_legal : Continues (requeue :: (moves ++ [admission])) compute := by
  rw [Continues, completed.computed]
  constructor
  · apply completed_opens completed same (moves ++ [admission]) [] compute
    · simp
    · intro other listed event
      rcases List.mem_append.mp listed with inside | last
      · exact moving_event completed other (List.mem_cons_of_mem _ inside) .firstCompute
          (by decide) event
      · rw [List.mem_singleton.mp last, completed.admitted] at event
        cases event
  · refine ⟨admission, by simp, ⟨?_, completed.admitted⟩, completed.sameRoster.symm⟩
    rw [same admission (by simp), same compute (by simp)]

theorem complete_legal :
    OnlineCheck.Legal Continues [] (requeue :: (moves ++ [admission, compute])) := by
  constructor
  · rw [Continues, completed.requeued]
    intro other absent
    cases absent
  · rw [List.nil_append, OnlineCheck.legal_append]
    constructor
    · rw [OnlineCheck.legal_after_iff]
      intro before move after
      exact move_legal completed same before after move
    · refine ⟨admission_legal completed same, ?_, trivial⟩
      exact compute_legal completed same

end Complete

theorem complete_recovery_iff (own : History) (identity : ObservationIdentity)
    (same : ∀ record ∈ own, record.identity = identity) :
    CompleteRecovery own ↔
      OnlineCheck.Legal Continues [] own ∧ (own.filterMap startedTransfer).Nodup ∧
        ∃ compute ∈ own, compute.event = .firstCompute := by
  constructor
  · rintro ⟨requeue, moves, admission, compute, rfl, completed⟩
    refine ⟨complete_legal completed same, ?_, compute, by simp, completed.computed⟩
    have silent : ∀ record : KVTransferObservation, record.event ≠ .restoreStarted →
        startedTransfer record = none := by
      intro record other
      rw [startedTransfer, if_neg other]
    rw [List.filterMap_cons_none (silent requeue (by simp [completed.requeued])),
      List.filterMap_append,
      List.filterMap_cons_none (silent admission (by simp [completed.admitted])),
      List.filterMap_cons_none (silent compute (by simp [completed.computed])),
      List.filterMap_nil, List.append_nil]
    exact completed.startedOnce
  · rintro ⟨legal, startedOnce, compute, member, computed⟩
    exact complete_of_legal same legal startedOnce compute member computed

/-! ## The verdict -/

/-- The chains the validator is to accept, with the number of their recoveries. -/
structure AcceptedChain (requestId : String) (records : List EventRecord) (count : Nat) :
    Prop where
  success : ∀ record ∈ records, ¬ NonSuccess requestId record
  present : 1 ≤ count
  counted : count = (identities (recoveryEvents requestId records)).card
  complete : ∀ identity ∈ identities (recoveryEvents requestId records),
    CompleteRecovery (ownEvents (recoveryEvents requestId records) identity)
  transfersOnce : ((recoveryEvents requestId records).filterMap startedTransfer).Nodup
  receiptsOnce : ((recoveryEvents requestId records).filterMap receiptOf).Nodup

theorem mem_identities (history : History) (identity : ObservationIdentity) :
    identity ∈ identities history ↔ ∃ record ∈ history, record.identity = identity := by
  rw [identities, List.mem_toFinset, List.mem_map]

theorem all_computed_iff (history : History) :
    AllComputed history ↔ ∀ identity ∈ identities history,
      ∃ compute ∈ ownEvents history identity, compute.event = .firstCompute := by
  constructor
  · intro computed identity listed
    obtain ⟨record, member, rfl⟩ := (mem_identities history identity).mp listed
    obtain ⟨compute, there, own, event⟩ := computed record member
    exact ⟨compute, (mem_own_events history _ compute).mpr ⟨there, own⟩, event⟩
  · intro computed record member
    obtain ⟨compute, there, event⟩ := computed record.identity
      ((mem_identities history _).mpr ⟨record, member, rfl⟩)
    obtain ⟨inside, own⟩ := (mem_own_events history _ compute).mp there
    exact ⟨compute, inside, own, event⟩

theorem own_events_empty (history : History) (identity : ObservationIdentity)
    (absent : identity ∉ identities history) : ownEvents history identity = [] := by
  rw [List.eq_nil_iff_forall_not_mem]
  intro record member
  obtain ⟨inside, own⟩ := (mem_own_events history identity record).mp member
  exact absent ((mem_identities history identity).mpr ⟨record, inside, own⟩)

/-- Legal histories in which all episodes computed are those whose episodes are all
complete. -/
theorem legal_computed_iff (history : History)
    (bounded : startCount history ≤ defaultMaxCorrelatedTransfers) :
    (OnlineCheck.Legal Admissible [] history ∧ AllComputed history) ↔
      (∀ identity ∈ identities history, CompleteRecovery (ownEvents history identity)) ∧
        (history.filterMap startedTransfer).Nodup ∧ (history.filterMap receiptOf).Nodup := by
  have same : ∀ identity, ∀ record ∈ ownEvents history identity, record.identity = identity := by
    intro identity record member
    exact ((mem_own_events history identity record).mp member).2
  rw [legal_iff_episodes history bounded, all_computed_iff]
  constructor
  · rintro ⟨⟨legal, transfers, receipts⟩, computed⟩
    refine ⟨?_, transfers, receipts⟩
    intro identity listed
    rw [complete_recovery_iff _ identity (same identity)]
    have own : List.Sublist (ownEvents history identity) history := List.filter_sublist
    exact ⟨legal identity, transfers.sublist (own.filterMap startedTransfer),
      computed identity listed⟩
  · rintro ⟨complete, transfers, receipts⟩
    refine ⟨⟨?_, transfers, receipts⟩, ?_⟩
    · intro identity
      by_cases listed : identity ∈ identities history
      · exact ((complete_recovery_iff _ identity (same identity)).mp (complete identity listed)).1
      · rw [own_events_empty history identity listed]
        trivial
    · intro identity listed
      exact ((complete_recovery_iff _ identity (same identity)).mp (complete identity listed)).2.2

/-- Without correlated records of the request, and with no more starts than the
normalizer has places, the validator accepts exactly the complete chains. -/
theorem accepts_exactly_complete_chains (records : List EventRecord) (requestId : String)
    (uncorrelated : ∀ record ∈ records, isCorrelatedFor requestId record = false)
    (bounded : startCount (recoveryEvents requestId records) ≤ 4096) :
    (∀ count, validateRestoreChain records requestId = .ok count ↔
      AcceptedChain requestId records count) ∧
    OnlyValueErrors (validateRestoreChain records requestId) := by
  refine ⟨?_, ValidationErrors.validate_errors records requestId⟩
  intro count
  have nobody : records.any (isCorrelatedFor requestId) = false := by
    rw [List.any_eq_false]
    intro record member
    rw [uncorrelated record member]
    exact Bool.false_ne_true
  have episodes := legal_computed_iff (recoveryEvents requestId records) bounded
  rw [uncorrelated_verdict records requestId nobody count]
  constructor
  · rintro ⟨successes, legal, nonempty, computed, counted⟩
    obtain ⟨complete, transfers, receipts⟩ := episodes.mp ⟨legal, computed⟩
    refine ⟨successes, ?_, counted.symm, complete, transfers, receipts⟩
    rw [← counted, Nat.one_le_iff_ne_zero, Ne, Finset.card_eq_zero, identities,
      List.toFinset_eq_empty_iff, List.map_eq_nil_iff]
    exact nonempty
  · intro accepted
    obtain ⟨legal, computed⟩ := episodes.mpr
      ⟨accepted.complete, accepted.transfersOnce, accepted.receiptsOnce⟩
    refine ⟨accepted.success, legal, ?_, computed, accepted.counted.symm⟩
    intro empty
    have present := accepted.present
    rw [accepted.counted, empty] at present
    exact absurd present (by decide)

/-! ### A recovery of one transfer -/

def sampleRequeue : KVTransferObservation :=
  { requeuedFields
      { identity := sampleIdentity, reason := .blockCapacity, observedAtNs := ⟨5, by decide⟩ } with
    shape := rfl }

def sampleStarted : KVTransferObservation :=
  { startedFields (sampleSubmission ⟨10, time_ten⟩) with shape := rfl }

def sampleCompleted : KVTransferObservation :=
  { restoredFields (sampleSubmission ⟨10, time_ten⟩) (sampleCompletion ⟨20, time_twenty⟩)
      sampleReceipt with
    shape := by decide +kernel }

def sampleAdmitted : KVTransferObservation :=
  { admittedFields (sampleAdmission sampleIdentity ⟨30, time_thirty⟩) with
    shape := by decide +kernel }

def sampleCompute : KVTransferObservation :=
  { computedFields
      { source := .vllm
        identity := sampleIdentity
        receipt := ⟨⟨"dddddddddddddddddddddddddddddddd:k:2", by decide +kernel⟩⟩
        transfers := sampleRoster
        computeKind := .decode
        observedAtNs := ⟨40, time_forty⟩ } with
    shape := by decide +kernel }

def sampleRecovery : History :=
  [sampleRequeue, sampleStarted, sampleCompleted, sampleAdmitted, sampleCompute]

theorem sample_recovery_complete : CompleteRecovery sampleRecovery := by
  refine ⟨sampleRequeue, [sampleStarted, sampleCompleted], sampleAdmitted, sampleCompute, rfl, ?_⟩
  constructor
  case requeued => rfl
  case moving => simp [sampleStarted, sampleCompleted, startedFields, restoredFields, startEvent,
    sampleSubmission]
  case admitted => rfl
  case computed => rfl
  case ordered => decide +kernel
  case startedOnce => decide +kernel
  case completedOnce => decide +kernel
  case measured =>
    intro before completion after split event
    cases before with
    | nil =>
        cases split
        cases event
    | cons first rest =>
        obtain ⟨rfl, later⟩ := List.cons.inj split
        refine ⟨sampleStarted, List.mem_cons_self, rfl, ?_⟩
        have last : completion ∈ [sampleCompleted] := by
          rw [later]
          exact List.mem_append_right rest List.mem_cons_self
        rw [List.mem_singleton.mp last]
        exact ⟨rfl, rfl, by decide, rfl, rfl⟩
  case rosterStarted =>
    intro transfer
    have listed : transfer ∈ sampleAdmitted.associatedTransfers.val ↔ transfer = sampleTransfer :=
      List.mem_singleton
    rw [listed]
    constructor
    · rintro rfl
      exact ⟨sampleStarted, List.mem_cons_self, rfl, rfl⟩
    · rintro ⟨start, member, event, field⟩
      simp only [List.mem_cons, List.not_mem_nil, or_false] at member
      rcases member with rfl | rfl
      · exact (Option.some.inj field).symm
      · cases event
  case rosterCompleted =>
    intro transfer
    have listed : transfer ∈ sampleAdmitted.associatedTransfers.val ↔ transfer = sampleTransfer :=
      List.mem_singleton
    rw [listed]
    constructor
    · rintro rfl
      exact ⟨sampleCompleted, by simp, rfl, rfl⟩
    · rintro ⟨completion, member, event, field⟩
      simp only [List.mem_cons, List.not_mem_nil, or_false] at member
      rcases member with rfl | rfl
      · cases event
      · exact (Option.some.inj field).symm
  case sameRoster => rfl

theorem sample_recovery_accepted :
    validateRestoreChain (sampleRecovery.map .canonical) "request-1" = .ok 1 := by
  have events : recoveryEvents "request-1" (sampleRecovery.map .canonical) = sampleRecovery := by
    rfl
  have own : identities sampleRecovery = {sampleIdentity} := by decide +kernel
  have verdict := (accepts_exactly_complete_chains (sampleRecovery.map .canonical) "request-1"
    (by decide +kernel) (by decide +kernel)).1 1
  rw [verdict]
  constructor
  case success =>
    intro record member failure
    obtain ⟨event, listed, rfl⟩ := List.mem_map.mp member
    have relevantOnly : ∀ event ∈ sampleRecovery, event.event ∈ relevant := by decide +kernel
    exact failure.2.1 (relevantOnly event listed)
  case present => exact Nat.le_refl 1
  case counted => rw [events, own, Finset.card_singleton]
  case complete =>
    rw [events, own]
    intro identity listed
    rw [Finset.mem_singleton.mp listed]
    exact sample_recovery_complete
  case transfersOnce => decide +kernel
  case receiptsOnce => decide +kernel

end KVTransferObservability.RestoreChain
