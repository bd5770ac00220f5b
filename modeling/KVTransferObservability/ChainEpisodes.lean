import KVTransferObservability.ChainRules
import Mathlib.Combinatorics.Enumerative.DoubleCounting

/-!
# Episodes checked one by one

With no more starts than the normalizer has places, capacity never decides. A history
is then legal exactly if each episode is, and no transfer is started and no receipt
used twice in the whole of it.
-/

namespace KVTransferObservability.ChainEpisodes

open Library PythonValues Schema Observation Normalization
open NormalizerEvidence ChainRules

set_option autoImplicit false

def startCount (history : History) : Nat :=
  history.countP fun record => record.event = .restoreStarted

/-! ## Room -/

theorem completed_value (record : KVTransferObservation)
    (event : record.event = .restoreCompleted) : ∃ transfer, record.transfer = some transfer := by
  obtain ⟨transfer, receipt, bytes, blocks, duration, scope, content⟩ :=
    restore_completed_content record.toObservationFields (event_shape record) event
  refine ⟨transfer, ?_⟩
  rw [content]

theorem roster_nonempty (record : KVTransferObservation)
    (event : record.event = .recoveryAdmitted) :
    ∃ transfer, transfer ∈ record.associatedTransfers.val :=
  List.exists_mem_of_ne_nil _
    (recovery_admitted_content record.toObservationFields (event_shape record) event).1

theorem start_count_append (history rest : History) :
    startCount history ≤ startCount (history ++ rest) := by
  rw [startCount, startCount, List.countP_append]
  exact Nat.le_add_right _ _

theorem started_card (history : History) :
    (history.filterMap startedTransfer).toFinset.card ≤ startCount history := by
  apply (List.toFinset_card_le _).trans
  rw [List.length_filterMap_eq_countP, startCount]
  apply List.countP_mono_left
  intro record _ started
  rw [startedTransfer] at started
  by_contra other
  rw [if_neg (fun event => other (decide_eq_true event))] at started
  cases started

section Bounded

variable {history : History} (legal : OnlineCheck.Legal Admissible [] history)
variable (record : KVTransferObservation)

theorem room_for_start (event : record.event = .restoreStarted) :
    (openTransfers history).card < startCount (history ++ [record]) := by
  have grown : startCount (history ++ [record]) = startCount history + 1 := by
    simp [startCount, List.countP_append, event]
  have bound : (openTransfers history).card ≤ startCount history :=
    (Finset.card_le_card Finset.sdiff_subset).trans (started_card history)
  rw [grown]
  exact Nat.lt_succ_of_le bound

include legal

theorem room_for_completion (event : record.event = .restoreCompleted)
    (completes : Completes history record) :
    (keptTransfers history).card < startCount history := by
  obtain ⟨transfer, field⟩ := completed_value record event
  obtain ⟨start, member, startEvent, measures⟩ := completes.started
  have started : transfer ∈ (history.filterMap startedTransfer).toFinset := by
    rw [List.mem_toFinset, mem_started_transfers]
    exact ⟨start, member, startEvent, measures.transfer.trans field⟩
  have inside : keptTransfers history ⊆
      (history.filterMap startedTransfer).toFinset.erase transfer := by
    intro other kept
    have completed := (Finset.mem_sdiff.mp kept).1
    rw [List.mem_toFinset, mem_completed_transfers] at completed
    obtain ⟨completion, there, facts⟩ := completed
    rw [Finset.mem_erase, List.mem_toFinset, mem_started_transfers]
    constructor
    · rintro rfl
      exact uncompleted legal record completes other field completion there facts
    · obtain ⟨first, firstMember, firstStart, _⟩ :=
        completion_started legal other completion there facts
      exact ⟨first, firstMember, firstStart⟩
  have smaller := Finset.card_erase_lt_of_mem started
  exact (Finset.card_le_card inside).trans_lt (smaller.trans_le (started_card history))

theorem admitted_started (identity : ObservationIdentity)
    (admitted : ∃ admission ∈ history, AdmissionOf identity admission) :
    ∃ transfer start, start ∈ history ∧ StartOf transfer start ∧ start.identity = identity := by
  obtain ⟨admission, member, same, event⟩ := admitted
  obtain ⟨transfer, listed⟩ := roster_nonempty admission event
  obtain ⟨completion, there, own, completed⟩ :=
    admission_completed legal admission member event transfer listed
  obtain ⟨start, startMember, started, identical⟩ :=
    completion_started legal transfer completion there completed
  exact ⟨transfer, start, startMember, started, identical.trans (own.trans same)⟩

/-- Every live admission, and the new one, has started a transfer of its own. -/
theorem room_for_admission (event : record.event = .recoveryAdmitted)
    (unadmitted : Unadmitted history record) (covers : CoversRoster history record) :
    (liveAdmissions history).card < startCount history := by
  have fresh : record.identity ∉ liveAdmissions history := by
    intro live
    have admitted := (Finset.mem_sdiff.mp live).1
    rw [List.mem_toFinset, mem_admitted_identities] at admitted
    obtain ⟨admission, member, facts⟩ := admitted
    exact unadmitted admission member facts
  have counted := Finset.card_le_card_of_forall_subsingleton
    (s := insert record.identity (liveAdmissions history))
    (t := (history.filterMap startedTransfer).toFinset)
    (fun identity transfer => ∃ start ∈ history, StartOf transfer start ∧
      start.identity = identity)
    (by
      intro identity member
      have own : ∃ transfer start, start ∈ history ∧ StartOf transfer start ∧
          start.identity = identity := by
        rcases Finset.mem_insert.mp member with rfl | live
        · obtain ⟨transfer, listed⟩ := roster_nonempty record event
          obtain ⟨start, there, same, started⟩ := (covers.started transfer).mp listed
          exact ⟨transfer, start, there, started, same⟩
        · have admitted := (Finset.mem_sdiff.mp live).1
          rw [List.mem_toFinset, mem_admitted_identities] at admitted
          exact admitted_started legal identity admitted
      obtain ⟨transfer, start, there, started, same⟩ := own
      refine ⟨transfer, ?_, start, there, started, same⟩
      rw [List.mem_toFinset, mem_started_transfers]
      exact ⟨start, there, started⟩)
    (by
      rintro transfer _ first ⟨_, one, oneMember, oneStart, rfl⟩ second
        ⟨_, other, otherMember, otherStart, rfl⟩
      rw [start_unique legal transfer one other oneMember otherMember oneStart otherStart])
  rw [Finset.card_insert_of_notMem fresh] at counted
  exact counted.trans (started_card history)

theorem room_of_bounded (continues : Continues history record)
    (bounded : startCount (history ++ [record]) ≤ defaultMaxCorrelatedTransfers) :
    Room history record := by
  have before := start_count_append history [record]
  unfold Continues at continues
  unfold Room
  cases event : record.event <;> rw [event] at continues
  case restoreStarted => exact (room_for_start record event).trans_le bounded
  case restoreCompleted =>
    exact (room_for_completion legal record event continues.2.2).trans_le (before.trans bounded)
  case recoveryAdmitted =>
    exact (room_for_admission legal record event continues.2.1 continues.2.2).trans_le
      (before.trans bounded)
  all_goals trivial

end Bounded

/-! ## One episode at a time -/

def ownEvents (history : History) (identity : ObservationIdentity) : History :=
  history.filter fun record => record.identity = identity

section Own

variable (history : History) (record : KVTransferObservation)

theorem mem_own_events (identity : ObservationIdentity) (other : KVTransferObservation) :
    other ∈ ownEvents history identity ↔ other ∈ history ∧ other.identity = identity := by
  rw [ownEvents, List.mem_filter, decide_eq_true_eq]

theorem exists_own (kind : KVTransferObservation → Prop)
    (own : ∀ other, kind other → other.identity = record.identity) :
    (∃ other ∈ ownEvents history record.identity, kind other) ↔
      ∃ other ∈ history, kind other := by
  constructor
  · rintro ⟨other, member, facts⟩
    exact ⟨other, ((mem_own_events history _ other).mp member).1, facts⟩
  · rintro ⟨other, member, facts⟩
    exact ⟨other, (mem_own_events history _ other).mpr ⟨member, own other facts⟩, facts⟩

theorem opened_own : Opened history record ↔ Opened (ownEvents history record.identity) record := by
  constructor
  · rintro ⟨known, uncomputed, ordered⟩
    refine ⟨(exists_own history record _ fun _ same => same).mpr known, ?_, ?_⟩
    · intro other member
      exact uncomputed other ((mem_own_events history _ other).mp member).1
    · intro other member
      exact ordered other ((mem_own_events history _ other).mp member).1
  · rintro ⟨known, uncomputed, ordered⟩
    refine ⟨(exists_own history record _ fun _ same => same).mp known, ?_, ?_⟩
    · intro other member computed
      exact uncomputed other ((mem_own_events history _ other).mpr ⟨member, computed.1⟩) computed
    · intro other member same
      exact ordered other ((mem_own_events history _ other).mpr ⟨member, same⟩) same

theorem unadmitted_own :
    Unadmitted history record ↔ Unadmitted (ownEvents history record.identity) record := by
  constructor
  · intro unadmitted other member
    exact unadmitted other ((mem_own_events history _ other).mp member).1
  · intro unadmitted other member admitted
    exact unadmitted other ((mem_own_events history _ other).mpr ⟨member, admitted.1⟩) admitted

theorem completes_own :
    Completes history record ↔ Completes (ownEvents history record.identity) record := by
  constructor
  · rintro ⟨started, once⟩
    refine ⟨(exists_own history record _ fun _ facts => facts.2.identity).mpr started, ?_⟩
    intro other member
    exact once other ((mem_own_events history _ other).mp member).1
  · rintro ⟨started, once⟩
    refine ⟨(exists_own history record _ fun _ facts => facts.2.identity).mp started, ?_⟩
    intro other member same
    exact once other ((mem_own_events history _ other).mpr ⟨member, same⟩) same

theorem covers_own :
    CoversRoster history record ↔ CoversRoster (ownEvents history record.identity) record := by
  constructor
  · rintro ⟨started, completed⟩
    constructor
    · intro transfer
      rw [started, exists_own history record _ fun _ facts => facts.1]
    · intro transfer
      rw [completed, exists_own history record _ fun _ facts => facts.1]
  · rintro ⟨started, completed⟩
    constructor
    · intro transfer
      rw [started, exists_own history record _ fun _ facts => facts.1]
    · intro transfer
      rw [completed, exists_own history record _ fun _ facts => facts.1]

theorem continues_own :
    Continues history record ↔ Continues (ownEvents history record.identity) record := by
  unfold Continues
  cases record.event
  case recoveryRequeued =>
    constructor
    · intro first other member
      exact first other ((mem_own_events history _ other).mp member).1
    · intro first other member same
      exact first other ((mem_own_events history _ other).mpr ⟨member, same⟩) same
  case restoreStarted => exact and_congr (opened_own history record) (unadmitted_own history record)
  case restoreCompleted =>
    exact and_congr (opened_own history record)
      (and_congr (unadmitted_own history record) (completes_own history record))
  case recoveryAdmitted =>
    exact and_congr (opened_own history record)
      (and_congr (unadmitted_own history record) (covers_own history record))
  case firstCompute =>
    exact and_congr (opened_own history record)
      (exists_own history record _ fun _ facts => facts.1.1).symm
  all_goals exact Iff.rfl

end Own

/-- Within the capacities, legality is a matter of each episode and of two lists
without repetition. -/
theorem legal_iff_episodes (history : History)
    (bounded : startCount history ≤ defaultMaxCorrelatedTransfers) :
    OnlineCheck.Legal Admissible [] history ↔
      (∀ identity, OnlineCheck.Legal Continues [] (ownEvents history identity)) ∧
        (history.filterMap startedTransfer).Nodup ∧ (history.filterMap receiptOf).Nodup := by
  have parts : OnlineCheck.Legal Admissible [] history ↔
      OnlineCheck.Legal (fun before record => Continues before record ∧
        Fresh startedTransfer before record ∧ Fresh receiptOf before record) [] history := by
    apply OnlineCheck.legal_congr
    intro before record after split legal
    constructor
    · intro admissible
      exact ⟨admissible.continues, admissible.freshTransfer, admissible.freshReceipt⟩
    · rintro ⟨continues, freshTransfer, freshReceipt⟩
      refine ⟨continues, freshTransfer, freshReceipt, room_of_bounded legal record continues ?_⟩
      have shorter := start_count_append (before ++ [record]) after
      rw [← List.append_cons, ← split] at shorter
      exact shorter.trans bounded
  rw [parts, OnlineCheck.legal_and, OnlineCheck.legal_and,
    OnlineCheck.legal_by_key (fun record : KVTransferObservation => record.identity) Continues
      continues_own]
  unfold Fresh
  rw [OnlineCheck.legal_fresh_iff, OnlineCheck.legal_fresh_iff]
  rfl

end KVTransferObservability.ChainEpisodes
