import KVTransferObservability.Library.WholeGroups
import KVTransferObservability.RestoreChain
import KVTransferObservability.CorrelatedChain
import KVTransferObservability.EventReaders

/-!
# Lost records

Records may be lost between the host and the validator: by a full queue, a failed
write, a full file or a file that was not handed in. If what is left is still accepted,
only whole episodes have been lost, and none if the count is the same.
-/

namespace KVTransferObservability.LostRecords

open Library PythonValues Schema Observation Correlated Normalization Adapter Validation
open ChainRules ChainVerdict ChainEpisodes RestoreChain EpisodeChecks CorrelatedChain
open EventReaders (sampleFact)

set_option autoImplicit false

/-! ## Canonical episodes -/

section Recovery

variable {requeue : KVTransferObservation} {moves : History}
variable {admission compute : KVTransferObservation}

theorem moves_by_kind (moves : History)
    (moving : ∀ move ∈ moves, move.event = .restoreStarted ∨ move.event = .restoreCompleted) :
    moves.length =
      (moves.filterMap startedTransfer).length + (moves.filterMap completedTransfer).length := by
  induction moves with
  | nil => rfl
  | cons move moves induction =>
      rw [List.forall_mem_cons] at moving
      obtain ⟨here, later⟩ := moving
      have rest := induction later
      rcases here with event | event
      · obtain ⟨transfer, blocks, content⟩ := restore_started_content move.toObservationFields
          (event_shape move) event
        have field : move.transfer = some transfer := congrArg ObservationFields.transfer content
        simp only [List.filterMap_cons, startedTransfer, completedTransfer, event, field,
          List.length_cons, reduceCtorEq, if_true, if_false]
        omega
      · obtain ⟨transfer, field⟩ := completed_value move event
        simp only [List.filterMap_cons, startedTransfer, completedTransfer, event, field,
          List.length_cons, reduceCtorEq, if_true, if_false]
        omega

/-- A complete recovery starts and completes each transfer of its roster once. -/
theorem moves_length (completed : Completed requeue moves admission compute) :
    moves.length = 2 * admission.associatedTransfers.val.length := by
  have roster := transfer_roster_nodup admission.associatedTransfers
  have started : (moves.filterMap startedTransfer).Perm admission.associatedTransfers.val := by
    rw [List.perm_ext_iff_of_nodup completed.startedOnce roster]
    intro transfer
    rw [mem_started_transfers, completed.rosterStarted]
  have finished : (moves.filterMap completedTransfer).Perm admission.associatedTransfers.val := by
    rw [List.perm_ext_iff_of_nodup completed.completedOnce roster]
    intro transfer
    rw [mem_completed_transfers, completed.rosterCompleted]
  rw [moves_by_kind moves completed.moving, started.length_eq, finished.length_eq]
  omega

theorem only_admission (completed : Completed requeue moves admission compute)
    (record : KVTransferObservation) (member : record ∈ requeue :: (moves ++ [admission, compute]))
    (event : record.event = .recoveryAdmitted) : record = admission := by
  simp only [List.mem_cons, List.mem_append, List.not_mem_nil, or_false] at member
  rcases member with rfl | moving | rfl | rfl
  · exact absurd (event.symm.trans completed.requeued) (by decide)
  · rcases completed.moving record moving with other | other
    · exact absurd (event.symm.trans other) (by decide)
    · exact absurd (event.symm.trans other) (by decide)
  · rfl
  · exact absurd (event.symm.trans completed.computed) (by decide)

end Recovery

/-- No record of a complete recovery can be left out of it. -/
theorem complete_part (own part : History) (smaller : part.Sublist own)
    (complete : CompleteRecovery own) (still : CompleteRecovery part) : part = own := by
  obtain ⟨requeue, moves, admission, compute, rfl, whole⟩ := complete
  obtain ⟨first, kept, admitted, last, rfl, left⟩ := still
  have same : admitted = admission :=
    only_admission whole admitted (smaller.subset (by simp)) left.admitted
  subst same
  apply smaller.eq_of_length
  simp only [List.length_cons, List.length_append, List.length_nil, moves_length whole,
    moves_length left]

/-- Accepted episodes are complete, whatever the number of their restores. -/
theorem accepted_episodes (records : List EventRecord) (requestId : String) (count : Nat)
    (uncorrelated : records.any (isCorrelatedFor requestId) = false)
    (accepted : validateRestoreChain records requestId = .ok count)
    (identity : ObservationIdentity)
    (listed : identity ∈ identities (recoveryEvents requestId records)) :
    CompleteRecovery (ownEvents (recoveryEvents requestId records) identity) := by
  obtain ⟨_, legal, _, computed, _⟩ :=
    (uncorrelated_verdict records requestId uncorrelated count).mp accepted
  generalize recoveryEvents requestId records = history at *
  have continues := OnlineCheck.legal_mono _ Continues
    (fun _ _ admissible => admissible.continues) [] history legal
  have episodes := (OnlineCheck.legal_by_key
    (fun record : KVTransferObservation => record.identity) Continues continues_own history).mp
      continues
  have own : (ownEvents history identity).Sublist history := List.filter_sublist
  rw [complete_recovery_iff _ identity fun record member =>
    ((mem_own_events history identity record).mp member).2]
  exact ⟨episodes identity, (starts_nodup legal).sublist (own.filterMap startedTransfer),
    (all_computed_iff history).mp computed identity listed⟩

/-- What is left of an accepted file without correlated records of the request is only
accepted with whole episodes missing, and with none missing if the count is the same. -/
theorem canonical_loss_is_whole_episodes (records kept : List EventRecord) (requestId : String)
    (part : kept.Sublist records)
    (uncorrelated : ∀ record ∈ records, isCorrelatedFor requestId record = false)
    (count remaining : Nat) (accepted : validateRestoreChain records requestId = .ok count)
    (still : validateRestoreChain kept requestId = .ok remaining) :
    (∀ record ∈ recoveryEvents requestId kept,
      ownEvents (recoveryEvents requestId kept) record.identity =
        ownEvents (recoveryEvents requestId records) record.identity) ∧
      remaining ≤ count ∧
      (remaining = count → recoveryEvents requestId kept = recoveryEvents requestId records) := by
  have nobody (file : List EventRecord) (inside : file.Sublist records) :
      file.any (isCorrelatedFor requestId) = false := by
    rw [List.any_eq_false]
    intro record member
    rw [uncorrelated record (inside.subset member)]
    exact Bool.false_ne_true
  have smaller : (recoveryEvents requestId kept).Sublist (recoveryEvents requestId records) :=
    part.filterMap _
  have counts := ((uncorrelated_verdict records requestId (nobody records (.refl _)) count).mp
    accepted).2.2.2.2
  have counted := ((uncorrelated_verdict kept requestId (nobody kept part) remaining).mp
    still).2.2.2.2
  have episodes := accepted_episodes records requestId count (nobody records (.refl _)) accepted
  have left := accepted_episodes kept requestId remaining (nobody kept part) still
  generalize recoveryEvents requestId kept = few at *
  generalize recoveryEvents requestId records = many at *
  have whole : ∀ record ∈ few, ownEvents few record.identity = ownEvents many record.identity := by
    intro record member
    refine complete_part _ _ (smaller.filter _) (episodes _ ?_) (left _ ?_)
    · exact (mem_identities many _).mpr ⟨record, smaller.subset member, rfl⟩
    · exact (mem_identities few _).mpr ⟨record, member, rfl⟩
  have inside : (few : Multiset KVTransferObservation) ≤ many := smaller.subperm
  refine ⟨whole, ?_, ?_⟩
  · rw [← counts, ← counted]
    exact group_count_le (fun record : KVTransferObservation => record.identity) inside
  · intro same
    have keeps : KeepsGroups (fun record : KVTransferObservation => record.identity)
        (few : Multiset KVTransferObservation) many := fun record member =>
      congrArg _ (whole record member)
    have equal := keeps.eq_of_count inside (by
      rw [← counts, ← counted] at same
      exact same.ge)
    exact smaller.eq_of_length (congrArg Multiset.card equal)

theorem sample_recovery_whole :
    (∀ record ∈ recoveryEvents "request-1" (sampleRecovery.map .canonical),
      ownEvents (recoveryEvents "request-1" (sampleRecovery.map .canonical)) record.identity =
        ownEvents (recoveryEvents "request-1"
          (.hostFact sampleFact :: sampleRecovery.map .canonical)) record.identity) ∧
      1 ≤ 1 ∧
      (1 = 1 → recoveryEvents "request-1" (sampleRecovery.map .canonical) =
        recoveryEvents "request-1" (.hostFact sampleFact :: sampleRecovery.map .canonical)) :=
  canonical_loss_is_whole_episodes (.hostFact sampleFact :: sampleRecovery.map .canonical) _
    "request-1" (.cons _ (.refl _)) (by simp [sampleRecovery, isCorrelatedFor]) 1 1
    sample_recovery_accepted sample_recovery_accepted

/-! ## Cross-process episodes -/

theorem group_by_event (group : Group) :
    Multiset.card group =
      Multiset.card (eventsOf group .recoveryRequeued) +
      Multiset.card (eventsOf group .recoveryAdmitted) +
      Multiset.card (eventsOf group .transferReceipt) +
      Multiset.card (eventsOf group .restoreSubmitted) +
      Multiset.card (eventsOf group .restoreCompleted) +
      Multiset.card (eventsOf group .firstCompute) := by
  induction group using Multiset.induction_on with
  | empty => rfl
  | cons record group induction =>
      unfold eventsOf at induction ⊢
      simp only [Multiset.filter_cons, Multiset.card_add, Multiset.card_cons, induction]
      cases record.event <;> simp <;> omega

/-- The number of records an admitted roster calls for. -/
def episodeSize (roster : JobRoster) : Nat :=
  2 + roster.val.length + 2 * (expectedKeys roster).length +
    (expectedWorkers roster).dedup.length

theorem complete_group_card {group : Group} {requeued admitted : CorrelatedHostObservation}
    (complete : CompleteGroup group requeued admitted) :
    Multiset.card group = episodeSize admitted.roster := by
  have receipts := congrArg Multiset.card complete.receipts
  have submissions := congrArg Multiset.card complete.submissions
  have completions := congrArg Multiset.card complete.completions
  have computes := congrArg Multiset.card complete.computes
  rw [Multiset.card_map, Multiset.coe_card] at receipts submissions completions computes
  rw [List.length_map] at receipts
  rw [group_by_event, complete.requeue, complete.admission, receipts, submissions, completions,
    computes, Multiset.card_singleton, Multiset.card_singleton, episodeSize]
  omega

theorem complete_group_part {whole part : Group}
    {requeued admitted first roster : CorrelatedHostObservation} (smaller : part ≤ whole)
    (complete : CompleteGroup whole requeued admitted)
    (still : CompleteGroup part first roster) : part = whole := by
  have inside : eventsOf part .recoveryAdmitted ≤ eventsOf whole .recoveryAdmitted :=
    Multiset.filter_le_filter _ smaller
  rw [complete.admission, still.admission, Multiset.singleton_le, Multiset.mem_singleton] at inside
  subst inside
  apply Multiset.eq_of_le_of_card_le smaller
  rw [complete_group_card complete, complete_group_card still]

/-- What is left of an accepted file, in any order, is only accepted as cross-process
evidence with whole episodes missing, and with none missing if the count is the same. -/
theorem correlated_loss_is_whole_episodes (records kept : List EventRecord) (requestId : String)
    (part : kept.Subperm records)
    (correlated : ∃ record ∈ kept, isCorrelatedFor requestId record = true)
    (count remaining : Nat) (accepted : validateRestoreChain records requestId = .ok count)
    (still : validateRestoreChain kept requestId = .ok remaining) :
    (∀ record ∈ kept.filterMap (ownRecord requestId),
      ((kept.filterMap (ownRecord requestId)).filter fun other =>
        groupKey other = groupKey record).Perm
      ((records.filterMap (ownRecord requestId)).filter fun other =>
        groupKey other = groupKey record)) ∧
      remaining ≤ count ∧
      (remaining = count →
        (kept.filterMap (ownRecord requestId)).Perm (records.filterMap (ownRecord requestId))) := by
  have known : ∃ record ∈ records, isCorrelatedFor requestId record = true := by
    obtain ⟨record, member, own⟩ := correlated
    exact ⟨record, part.subset member, own⟩
  have inside : (kept.filterMap (ownRecord requestId) : Group) ≤
      records.filterMap (ownRecord requestId) := by
    obtain ⟨ordered, permuted, sublist⟩ := part
    exact (permuted.symm.filterMap _).subperm.trans (sublist.filterMap _).subperm
  have many := (correlated_verdict records requestId known count).mp accepted
  have few := (correlated_verdict kept requestId correlated remaining).mp still
  have keeps : KeepsGroups groupKey (kept.filterMap (ownRecord requestId) : Group)
      (records.filterMap (ownRecord requestId)) := by
    intro record member
    obtain ⟨requeued, admitted, complete⟩ := many.complete record (Multiset.mem_of_le inside member)
    obtain ⟨first, roster, left⟩ := few.complete record member
    exact complete_group_part (Multiset.filter_le_filter _ inside) complete left
  refine ⟨fun record member => Multiset.coe_eq_coe.mp (keeps record member), ?_, ?_⟩
  · rw [many.counted, few.counted]
    exact group_count_le groupKey inside
  · intro same
    rw [many.counted, few.counted] at same
    exact Multiset.coe_eq_coe.mp (keeps.eq_of_count inside same.ge)

theorem sample_episode_whole :
    (∀ record ∈ (sampleEpisode.map EventRecord.correlated).filterMap (ownRecord "request-1"),
      (((sampleEpisode.map EventRecord.correlated).filterMap (ownRecord "request-1")).filter
        fun other => groupKey other = groupKey record).Perm
      (((.hostFact sampleFact :: sampleEpisode.map EventRecord.correlated).filterMap
        (ownRecord "request-1")).filter fun other => groupKey other = groupKey record)) ∧
      1 ≤ 1 ∧
      (1 = 1 →
        ((sampleEpisode.map EventRecord.correlated).filterMap (ownRecord "request-1")).Perm
          ((.hostFact sampleFact :: sampleEpisode.map EventRecord.correlated).filterMap
            (ownRecord "request-1"))) :=
  correlated_loss_is_whole_episodes (.hostFact sampleFact :: sampleEpisode.map .correlated) _
    "request-1" (List.Sublist.cons _ (.refl _)).subperm
    ⟨.correlated sampleRequeued, List.mem_map_of_mem List.mem_cons_self, rfl⟩ 1 1
    sample_episode_accepted sample_episode_accepted

end KVTransferObservability.LostRecords
