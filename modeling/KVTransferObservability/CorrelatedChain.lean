import KVTransferObservability.EpisodeChecks
import KVTransferObservability.Library.OnlineCheck
import Mathlib.Data.Finset.Image
import Mathlib.Data.Multiset.ZeroCons

/-!
# Accepted cross-process chains

The correlated records of a request fall into episodes by scheduler generation and
epoch. The validator accepts exactly if every episode is complete and no job belongs
to two of them, which is a property of the multiset of these records.
-/

namespace KVTransferObservability.CorrelatedChain

open Library PythonValues Schema HostFacts Correlated Adapter Validation EpisodeChecks
open NormalizerTransitions (request_one rank_zero epoch_one job_seven four_blocks time_ten
  time_twenty time_thirty)

set_option autoImplicit false

/-- The record, if it is a correlated record of the request. -/
def ownRecord (requestId : String) : EventRecord → Option CorrelatedHostObservation
  | .correlated record => if record.requestId.val = requestId then some record else none
  | _ => none

def groupKey (record : CorrelatedHostObservation) : ProcessUuid × PositiveUint uint64Max :=
  (record.schedulerGeneration, record.recoveryEpoch)

/-- Records of one scheduler generation that name a job in common are in one group. -/
def SameGroup (first second : CorrelatedHostObservation) : Prop :=
  first.schedulerGeneration = second.schedulerGeneration →
    ∀ jobId ∈ jobIds first, jobId ∈ jobIds second → groupKey first = groupKey second

/-- The chains the validator is to accept, with the number of their episodes. -/
structure CompleteChains (records : Group) (count : Nat) : Prop where
  counted : count = (records.map groupKey).toFinset.card
  complete : ∀ record ∈ records, ∃ requeued admitted,
    CompleteGroup (records.filter fun other => groupKey other = groupKey record) requeued admitted
  owned : ∀ first ∈ records, ∀ second ∈ records, SameGroup first second

/-! ## Job owners -/

section Claims

variable (generation : ProcessUuid) (identity : EpisodeKey)

theorem claim_job_ok_iff (owners next : JobOwners) (jobId : Uint uint64Max) :
    claimJob generation identity owners jobId = .ok next ↔
      (∀ owner, owners.lookup (generation, jobId) = some owner → owner = identity) ∧
        owners.insert (generation, jobId) identity = next := by
  rw [claimJob, raise_if_bind_ok, Except.ok.injEq]
  apply and_congr_left
  intro _
  cases owners.lookup (generation, jobId) <;> simp

def claimAll (owners : JobOwners) (jobs : List (Uint uint64Max)) : JobOwners :=
  jobs.foldl (fun table jobId => table.insert (generation, jobId) identity) owners

theorem lookup_claim_all (owners : JobOwners) (jobs : List (Uint uint64Max))
    (other : ProcessUuid) (jobId : Uint uint64Max) :
    (claimAll generation identity owners jobs).lookup (other, jobId) =
      if other = generation ∧ jobId ∈ jobs then some identity
      else owners.lookup (other, jobId) := by
  induction jobs generalizing owners with
  | nil => simp [claimAll]
  | cons job jobs induction =>
      have tail := induction (owners.insert (generation, job) identity)
      simp only [claimAll, List.foldl_cons] at tail ⊢
      rw [tail, Dict.lookup_insert_ite]
      by_cases same : other = generation <;> by_cases later : jobId ∈ jobs <;>
        by_cases now : jobId = job <;> simp [same, later, now]

theorem claims_ok_iff (owners next : JobOwners) (jobs : List (Uint uint64Max)) :
    jobs.foldlM (claimJob generation identity) owners = .ok next ↔
      (∀ jobId ∈ jobs, ∀ owner, owners.lookup (generation, jobId) = some owner →
        owner = identity) ∧ claimAll generation identity owners jobs = next := by
  induction jobs generalizing owners with
  | nil => simp [claimAll, pure, Except.pure]
  | cons job jobs induction =>
      rw [List.foldlM_cons, bind_eq_ok, List.forall_mem_cons]
      simp only [claim_job_ok_iff, induction]
      have rest : (∀ jobId ∈ jobs, ∀ owner,
          (owners.insert (generation, job) identity).lookup (generation, jobId) = some owner →
            owner = identity) ↔
          ∀ jobId ∈ jobs, jobId ≠ job → ∀ owner, owners.lookup (generation, jobId) = some owner →
            owner = identity := by
        apply forall_congr'; intro jobId
        apply forall_congr'; intro _
        rw [Dict.lookup_insert_ite]
        by_cases now : jobId = job
        · rw [if_pos (by rw [now])]
          constructor
          · intro _ different
            exact absurd now different
          · intro _ owner same
            exact (Option.some.inj same).symm
        · rw [if_neg (fun same => now (Prod.mk.inj same).2)]
          exact ⟨fun owned _ => owned, fun owned => owned now⟩
      constructor
      · rintro ⟨_, ⟨own, rfl⟩, others, rfl⟩
        refine ⟨⟨own, ?_⟩, rfl⟩
        intro jobId member
        by_cases now : jobId = job
        · rw [now]
          exact own
        · exact rest.mp others jobId member now
      · rintro ⟨⟨own, others⟩, rfl⟩
        refine ⟨_, ⟨own, rfl⟩, rest.mpr ?_, rfl⟩
        intro jobId member _
        exact others jobId member

end Claims

/-! ## The first loop -/

/-- The loop body for a correlated record of the request. -/
def addOwn (state : CorrelatedGroups) (record : CorrelatedHostObservation) :
    Py CorrelatedGroups := do
  let jobOwner ← (jobIds record).foldlM
    (claimJob record.schedulerGeneration (episodeKey record)) state.jobOwner
  .ok { groups := appendTo state.groups (episodeKey record) record, jobOwner := jobOwner }

theorem fold_add (requestId : String) (records : List EventRecord) (state : CorrelatedGroups) :
    records.foldlM (CorrelatedGroups.add requestId) state =
      (records.filterMap (ownRecord requestId)).foldlM addOwn state := by
  induction records generalizing state with
  | nil => rfl
  | cons record records induction =>
      have skipped : CorrelatedGroups.add requestId state record = .ok state →
          ownRecord requestId record = none →
          (record :: records).foldlM (CorrelatedGroups.add requestId) state =
            ((record :: records).filterMap (ownRecord requestId)).foldlM addOwn state := by
        intro passed other
        rw [List.foldlM_cons, passed, List.filterMap_cons_none other]
        exact induction state
      cases record with
      | canonical record => exact skipped rfl rfl
      | hostFact fact => exact skipped rfl rfl
      | correlated record =>
          by_cases own : record.requestId.val = requestId
          · have found : ownRecord requestId (.correlated record) = some record := if_pos own
            have added : CorrelatedGroups.add requestId state (.correlated record) =
                addOwn state record := by
              rw [CorrelatedGroups.add, if_neg (not_not.mpr own)]
              rfl
            rw [List.foldlM_cons, added, List.filterMap_cons_some found, List.foldlM_cons]
            congr 1
            funext next
            exact induction next
          · apply skipped
            · rw [CorrelatedGroups.add, if_pos own]
            · exact if_neg own

/-- The two dictionaries after a list of records without a shared job. -/
structure Grouped (state : CorrelatedGroups) (history : List CorrelatedHostObservation) :
    Prop where
  groups : state.groups = groupBy episodeKey history
  owner : ∀ generation jobId owner,
    state.jobOwner.lookup (generation, jobId) = some owner ↔
      ∃ record ∈ history, record.schedulerGeneration = generation ∧ jobId ∈ jobIds record ∧
        episodeKey record = owner

/-- No earlier record of another episode names a job of the record. -/
def Unshared (history : List CorrelatedHostObservation) (record : CorrelatedHostObservation) :
    Prop :=
  ∀ other ∈ history, other.schedulerGeneration = record.schedulerGeneration →
    ∀ jobId ∈ jobIds other, jobId ∈ jobIds record → episodeKey other = episodeKey record

theorem claims_iff_unshared (state : CorrelatedGroups)
    (history : List CorrelatedHostObservation) (record : CorrelatedHostObservation)
    (grouped : Grouped state history) :
    (∀ jobId ∈ jobIds record, ∀ owner,
      state.jobOwner.lookup (record.schedulerGeneration, jobId) = some owner →
        owner = episodeKey record) ↔ Unshared history record := by
  constructor
  · intro claimed other member same jobId first second
    apply claimed jobId second
    rw [grouped.owner]
    exact ⟨other, member, same, first, rfl⟩
  · intro unshared jobId listed owner found
    rw [grouped.owner] at found
    obtain ⟨other, member, same, first, rfl⟩ := found
    exact unshared other member same jobId first listed

theorem add_decides : OnlineCheck.Decides addOwn Grouped Unshared := by
  constructor
  · intro state history record grouped _ unshared
    have claimed := (claims_iff_unshared state history record grouped).mpr unshared
    have claims := (claims_ok_iff record.schedulerGeneration (episodeKey record) state.jobOwner
      _ (jobIds record)).mpr ⟨claimed, rfl⟩
    refine ⟨_, by rw [addOwn, claims]; rfl, ?_, ?_⟩
    · rw [grouped.groups, group_by_snoc]
    · intro generation jobId owner
      rw [lookup_claim_all]
      split
      · rename_i named
        obtain ⟨rfl, listed⟩ := named
        rw [Option.some.injEq]
        constructor
        · rintro rfl
          exact ⟨record, by simp, rfl, listed, rfl⟩
        · rintro ⟨other, member, same, first, rfl⟩
          rcases List.mem_append.mp member with earlier | last
          · exact (unshared other earlier same jobId first listed).symm
          · rw [List.mem_singleton.mp last]
      · rename_i other
        rw [grouped.owner]
        constructor
        · rintro ⟨found, member, facts⟩
          exact ⟨found, List.mem_append_left _ member, facts⟩
        · rintro ⟨found, member, same, listed, facts⟩
          rcases List.mem_append.mp member with earlier | last
          · exact ⟨found, earlier, same, listed, facts⟩
          · rw [List.mem_singleton.mp last] at same listed
            exact absurd ⟨same.symm, listed⟩ other
  · intro state history record next grouped _ added
    rw [addOwn, bind_eq_ok] at added
    obtain ⟨owners, claims, _⟩ := added
    rw [claims_ok_iff] at claims
    exact (claims_iff_unshared state history record grouped).mp claims.1

theorem grouped_empty : Grouped {} [] := by
  constructor
  · rfl
  · intro generation jobId owner
    simp

/-! ## The verdict -/

section Verdict

variable {requestId : String} {own : List CorrelatedHostObservation}
variable (request : ∀ record ∈ own, record.requestId.val = requestId)
include request

theorem episode_key_iff (first second : CorrelatedHostObservation) (firstMember : first ∈ own)
    (secondMember : second ∈ own) :
    episodeKey first = episodeKey second ↔ groupKey first = groupKey second := by
  have same : first.requestId = second.requestId := by
    apply Subtype.ext
    rw [request first firstMember, request second secondMember]
  simp only [episodeKey, groupKey, Prod.mk.injEq, same, true_and]

theorem unshared_iff :
    OnlineCheck.Legal Unshared [] own ↔ ∀ first ∈ own, ∀ second ∈ own, SameGroup first second := by
  have symmetric : ∀ first second : CorrelatedHostObservation,
      (first.schedulerGeneration = second.schedulerGeneration → ∀ jobId ∈ jobIds first,
        jobId ∈ jobIds second → episodeKey first = episodeKey second) →
      (second.schedulerGeneration = first.schedulerGeneration → ∀ jobId ∈ jobIds second,
        jobId ∈ jobIds first → episodeKey second = episodeKey first) := by
    intro first second apart same jobId one other
    exact (apart same.symm jobId other one).symm
  unfold Unshared
  rw [OnlineCheck.legal_pairwise_iff]
  constructor
  · intro pairs first firstMember second secondMember same jobId one other
    rw [← episode_key_iff request first second firstMember secondMember]
    have flipped := pairs.imp fun {first second} apart => symmetric first second apart
    exact List.Pairwise.forall_of_forall_of_flip (fun _ _ _ _ _ _ => rfl) pairs flipped firstMember
      secondMember same jobId one other
  · intro pairs
    apply List.pairwise_of_forall_mem_list
    intro first firstMember second secondMember same jobId one other
    rw [episode_key_iff request first second firstMember secondMember]
    exact pairs first firstMember second secondMember same jobId one other

theorem group_filter (record : CorrelatedHostObservation) (member : record ∈ own) :
    ((own.filter fun other => episodeKey other = episodeKey record : List _) : Group) =
      (own : Group).filter fun other => groupKey other = groupKey record := by
  rw [Multiset.filter_coe, Multiset.coe_eq_coe]
  apply List.Perm.of_eq
  apply List.filter_congr
  intro other otherMember
  simp only [episode_key_iff request other record otherMember member]

theorem groups_length :
    (groupBy episodeKey own).length = ((own : Group).map groupKey).toFinset.card := by
  have image : (own.map groupKey).toFinset =
      (own.map episodeKey).toFinset.image fun key => (key.1, key.2.2) := by
    ext value
    simp only [List.mem_toFinset, Finset.mem_image, List.mem_map, exists_exists_and_eq_and]
    rfl
  have injective : Set.InjOn (fun key : EpisodeKey => (key.1, key.2.2))
      ((own.map episodeKey).toFinset : Set EpisodeKey) := by
    intro first firstListed second secondListed same
    rw [Finset.mem_coe, List.mem_toFinset] at firstListed secondListed
    obtain ⟨one, oneMember, rfl⟩ := List.mem_map.mp firstListed
    obtain ⟨other, otherMember, rfl⟩ := List.mem_map.mp secondListed
    exact (episode_key_iff request one other oneMember otherMember).mpr same
  have whole : ((own : Group).map groupKey).toFinset = (own.map groupKey).toFinset := rfl
  rw [group_by_length, whole, image, Finset.card_image_of_injOn injective]

/-- The checks after the loop, group by group. -/
theorem episodes_ok_iff :
    ((groupBy episodeKey own).forM fun (_, items) => checkEpisode items) = .ok () ↔
      ∀ record ∈ own, ∃ requeued admitted, CompleteGroup
        ((own : Group).filter fun other => groupKey other = groupKey record) requeued admitted := by
  rw [for_m_ok_iff]
  constructor
  · intro every record member
    have listed := (mem_group_by episodeKey own (episodeKey record) _).mpr
      ⟨List.mem_map_of_mem member, rfl⟩
    rw [← group_filter request record member]
    exact (check_episode_ok_iff _).mp (every _ listed)
  · rintro every ⟨key, items⟩ listed
    obtain ⟨known, rfl⟩ := (mem_group_by episodeKey own key items).mp listed
    obtain ⟨record, member, rfl⟩ := List.mem_map.mp known
    rw [check_episode_ok_iff, group_filter request record member]
    exact every record member

end Verdict

theorem own_request (requestId : String) (records : List EventRecord)
    (record : CorrelatedHostObservation)
    (member : record ∈ records.filterMap (ownRecord requestId)) :
    record.requestId.val = requestId := by
  obtain ⟨found, _, own⟩ := List.mem_filterMap.mp member
  cases found with
  | canonical other => cases own
  | hostFact fact => cases own
  | correlated other =>
      rw [ownRecord, Option.ite_none_right_eq_some] at own
      rw [← Option.some.inj own.2]
      exact own.1

theorem own_nonempty (requestId : String) (records : List EventRecord)
    (correlated : ∃ record ∈ records, isCorrelatedFor requestId record = true) :
    records.filterMap (ownRecord requestId) ≠ [] := by
  obtain ⟨record, member, own⟩ := correlated
  cases record with
  | canonical other => cases own
  | hostFact fact => cases own
  | correlated other =>
      have same : other.requestId.val = requestId := eq_of_beq own
      apply List.ne_nil_of_mem (a := other)
      exact List.mem_filterMap.mpr ⟨.correlated other, member, if_pos same⟩

/-- A request with correlated records is accepted exactly if these are complete chains. -/
theorem correlated_verdict (records : List EventRecord) (requestId : String)
    (correlated : ∃ record ∈ records, isCorrelatedFor requestId record = true) (count : Nat) :
    validateRestoreChain records requestId = .ok count ↔
      CompleteChains ↑(records.filterMap (ownRecord requestId)) count := by
  have chosen : records.any (isCorrelatedFor requestId) = true := List.any_eq_true.mpr correlated
  have nonempty := own_nonempty requestId records correlated
  rw [validateRestoreChain, if_pos chosen, validateCorrelatedRestoreChain, fold_add, bind_eq_ok]
  have request := own_request requestId records
  generalize records.filterMap (ownRecord requestId) = own at nonempty request
  simp only [check_bind_ok_iff, Except.ok.injEq]
  constructor
  · rintro ⟨state, folded, _, checked, rfl⟩
    have legal := add_decides.fold_sound own _ state [] grouped_empty trivial folded
    obtain ⟨same, again, grouped⟩ := add_decides.fold_accepts own {} [] grouped_empty legal
    rw [folded] at again
    cases again
    rw [List.nil_append] at grouped legal
    rw [grouped.groups] at checked ⊢
    constructor
    · exact groups_length request
    · exact (episodes_ok_iff request).mp checked
    · exact (unshared_iff request).mp legal
  · intro complete
    have legal := (unshared_iff request).mpr complete.owned
    obtain ⟨state, folded, grouped⟩ := add_decides.fold_accepts own {} [] grouped_empty legal
    rw [List.nil_append] at grouped
    refine ⟨state, folded, ?_, ?_, ?_⟩
    · rw [grouped.groups, raise_if_ok, List.isEmpty_eq_false_iff]
      intro empty
      obtain ⟨record, member⟩ := List.exists_mem_of_ne_nil own nonempty
      have listed := (mem_group_by_keys episodeKey own (episodeKey record)).mpr
        (List.mem_map_of_mem member)
      rw [empty] at listed
      cases listed
    · rw [grouped.groups]
      exact (episodes_ok_iff request).mpr complete.complete
    · rw [grouped.groups, groups_length request, complete.counted]

/-- With a correlated record of the request, the validator accepts exactly the complete
cross-process chains, a property of the multiset of records. -/
theorem accepts_exactly_complete_groups (records : List EventRecord) (requestId : String)
    (correlated : ∃ record ∈ records, isCorrelatedFor requestId record = true) :
    (∀ count, validateRestoreChain records requestId = .ok count ↔
      CompleteChains ((records : Multiset EventRecord).filterMap (ownRecord requestId)) count) ∧
    OnlyValueErrors (validateRestoreChain records requestId) :=
  ⟨correlated_verdict records requestId correlated,
    ValidationErrors.validate_errors records requestId⟩

/-! ### An episode of one job and one worker -/

def sampleScheduler : ProcessUuid := ⟨"aaaaaaaaaaaaaaaaaaaaaaaaaaaaaaaa", by decide +kernel⟩

def sampleWorker : WorkerReceipt :=
  { rank := ⟨0, rank_zero⟩
    workerGeneration := ⟨"bbbbbbbbbbbbbbbbbbbbbbbbbbbbbbbb", by decide +kernel⟩ }

def sampleWorkers : WorkerRoster := ⟨[sampleWorker], by decide +kernel⟩

def sampleJobs : JobRoster :=
  ⟨[{ jobId := ⟨7, job_seven⟩, workers := sampleWorkers, nonempty := by decide }],
    by decide +kernel⟩

/-- The fields every record of the episode has. -/
def sampleFields (event : CorrelatedEvent) (observedAtNs : Uint uint64Max) : CorrelatedFields :=
  { event := event
    schedulerGeneration := sampleScheduler
    requestId := ⟨"request-1", request_one⟩
    recoveryEpoch := ⟨1, epoch_one⟩
    observedAtNs := observedAtNs }

def sampleRequeued : CorrelatedHostObservation :=
  { sampleFields .recoveryRequeued ⟨10, time_ten⟩ with shape := rfl }

def sampleReceived : CorrelatedHostObservation :=
  { sampleFields .transferReceipt ⟨20, time_twenty⟩ with
    jobId := some ⟨7, job_seven⟩
    workers := sampleWorkers
    shape := rfl }

def sampleAdmittedJobs : CorrelatedHostObservation :=
  { sampleFields .recoveryAdmitted ⟨30, time_thirty⟩ with
    roster := sampleJobs
    shape := rfl }

def sampleSubmitted : CorrelatedHostObservation :=
  { sampleFields .restoreSubmitted ⟨1000, by decide⟩ with
    jobId := some ⟨7, job_seven⟩
    rank := some sampleWorker.rank
    workerGeneration := some sampleWorker.workerGeneration
    blockCount := some ⟨4, four_blocks⟩
    shape := rfl }

def sampleFinished : CorrelatedHostObservation :=
  { sampleFields .restoreCompleted ⟨1010, by decide⟩ with
    jobId := some ⟨7, job_seven⟩
    rank := some sampleWorker.rank
    workerGeneration := some sampleWorker.workerGeneration
    shape := rfl }

def sampleFirstCompute : CorrelatedHostObservation :=
  { sampleFields .firstCompute ⟨1020, by decide⟩ with
    rank := some sampleWorker.rank
    workerGeneration := some sampleWorker.workerGeneration
    roster := sampleJobs
    computeKind := some .decode
    shape := rfl }

def sampleEpisode : List CorrelatedHostObservation :=
  [sampleRequeued, sampleReceived, sampleAdmittedJobs, sampleSubmitted, sampleFinished,
    sampleFirstCompute]

theorem sample_episode_complete :
    CompleteGroup ↑sampleEpisode sampleRequeued sampleAdmittedJobs := by
  constructor <;> decide +kernel

theorem sample_episode_accepted :
    validateRestoreChain (sampleEpisode.map .correlated) "request-1" = .ok 1 := by
  have verdict := (accepts_exactly_complete_groups (sampleEpisode.map .correlated) "request-1"
    ⟨.correlated sampleRequeued, by simp [sampleEpisode], by decide +kernel⟩).1 1
  have own : ((sampleEpisode.map .correlated : List EventRecord) : Multiset EventRecord).filterMap
      (ownRecord "request-1") = ↑sampleEpisode := rfl
  have one : ∀ record ∈ sampleEpisode, ∀ other ∈ sampleEpisode,
      groupKey other = groupKey record := by decide +kernel
  rw [verdict, own]
  constructor
  · decide +kernel
  · intro record member
    refine ⟨sampleRequeued, sampleAdmittedJobs, ?_⟩
    rw [Multiset.filter_eq_self.mpr (one record member)]
    exact sample_episode_complete
  · intro first firstMember second secondMember _ _ _ _
    exact one second secondMember first firstMember

end KVTransferObservability.CorrelatedChain
