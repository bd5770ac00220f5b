import KVTransferObservability.ValidationErrors
import Mathlib.Data.Multiset.Filter
import Mathlib.Data.Multiset.MapFold

/-!
# The checks of one cross-process episode

The validator compares dictionaries with lists and lengths with lengths. What these
checks say about the records of an episode does not depend on their order: it is a
statement about the multiset of records, one stage at a time.
-/

namespace KVTransferObservability.EpisodeChecks

open Library PythonValues Schema HostFacts Correlated Validation

set_option autoImplicit false

abbrev Group := Multiset CorrelatedHostObservation

def eventsOf (group : Group) (event : CorrelatedEvent) : Group :=
  group.filter fun item => item.event = event

/-- The records of a complete episode: the roster of the admission is received,
submitted, completed and computed on, by each worker once and in its own order. -/
structure CompleteGroup (group : Group) (requeued admitted : CorrelatedHostObservation) :
    Prop where
  requeue : eventsOf group .recoveryRequeued = {requeued}
  admission : eventsOf group .recoveryAdmitted = {admitted}
  receipts : (eventsOf group .transferReceipt).map (fun receipt => receipt.jobId) =
    ↑(admitted.roster.val.map fun job => some job.jobId)
  receiptWorkers : ∀ receipt ∈ eventsOf group .transferReceipt, ∀ job ∈ admitted.roster.val,
    receipt.jobId = some job.jobId → receipt.workers = job.workers
  receiptTimes : ∀ receipt ∈ eventsOf group .transferReceipt,
    requeued.observedAtNs.val < receipt.observedAtNs.val ∧
      receipt.observedAtNs.val < admitted.observedAtNs.val
  submissions : (eventsOf group .restoreSubmitted).map stageKey =
    ↑(expectedKeys admitted.roster)
  completions : (eventsOf group .restoreCompleted).map stageKey =
    ↑(expectedKeys admitted.roster)
  completedLater : ∀ submission ∈ eventsOf group .restoreSubmitted,
    ∀ completion ∈ eventsOf group .restoreCompleted, stageKey submission = stageKey completion →
      submission.observedAtNs.val < completion.observedAtNs.val
  computes : (eventsOf group .firstCompute).map workerKey =
    ↑(expectedWorkers admitted.roster).dedup
  computeRoster : ∀ compute ∈ eventsOf group .firstCompute, compute.roster = admitted.roster
  computedLater : ∀ compute ∈ eventsOf group .firstCompute,
    ∀ completion ∈ eventsOf group .restoreCompleted, workerKey completion = workerKey compute →
      completion.observedAtNs.val < compute.observedAtNs.val

/-! ## Rosters -/

theorem roster_jobs_nodup (roster : JobRoster) : (roster.val.map JobReceipt.jobId).Nodup := by
  have valid := roster.property
  simp only [exactJobs, Bool.and_eq_true, decide_eq_true_eq] at valid
  exact valid.1.2

theorem worker_keys_nodup (workers : WorkerRoster) : (workerKeys workers).Nodup := by
  have valid := workers.property
  simp only [exactWorkers, Bool.and_eq_true, decide_eq_true_eq] at valid
  have ranks : (workerKeys workers).map Prod.fst =
      (workers.val.map WorkerReceipt.rank).map some := by
    rw [workerKeys, List.map_map, List.map_map]
    rfl
  apply List.Nodup.of_map Prod.fst
  rw [ranks]
  exact valid.2.map (Option.some_injective _)

theorem expected_keys_nodup (roster : JobRoster) : (expectedKeys roster).Nodup := by
  rw [expectedKeys, List.nodup_flatMap]
  constructor
  · intro job _
    apply (worker_keys_nodup job.workers).map
    intro first second same
    exact (Prod.mk.inj same).2
  · have apart := roster_jobs_nodup roster
    rw [List.nodup_iff_pairwise_ne, List.pairwise_map] at apart
    apply apart.imp
    intro first second different key here there
    obtain ⟨one, _, rfl⟩ := List.mem_map.mp here
    obtain ⟨other, _, same⟩ := List.mem_map.mp there
    exact different (Option.some.inj (Prod.mk.inj same).1).symm

theorem roster_job_unique (roster : JobRoster) (first second : JobReceipt)
    (firstMember : first ∈ roster.val) (secondMember : second ∈ roster.val)
    (same : first.jobId = second.jobId) : first = second :=
  List.inj_on_of_nodup_map (roster_jobs_nodup roster) firstMember secondMember same

/-! ## Distinct and complete -/

section Exact

variable {Key : Type} [DecidableEq Key]

/-- Distinct keys that are the expected ones are the expected ones in another order. -/
theorem exact_iff_perm (found expected : List Key) (distinct : expected.Nodup) :
    (found.Nodup ∧ found.toFinset = expected.toFinset) ↔
      (found : Multiset Key) = (expected : Multiset Key) := by
  rw [Multiset.coe_eq_coe]
  constructor
  · rintro ⟨once, same⟩
    exact List.perm_of_nodup_nodup_toFinset_eq once distinct same
  · intro permuted
    exact ⟨permuted.nodup_iff.mpr distinct, List.toFinset_eq_of_perm _ _ permuted⟩

/-- As many keys as expected, and no other ones. -/
theorem counted_iff_perm (found expected : List Key) (distinct : expected.Nodup) :
    (found.length = expected.length ∧ found.toFinset = expected.toFinset) ↔
      (found : Multiset Key) = (expected : Multiset Key) := by
  rw [← exact_iff_perm found expected distinct]
  apply and_congr_left
  intro same
  rw [← List.toFinset_card_of_nodup distinct, ← same, List.card_toFinset]
  constructor
  · intro counted
    rw [← (List.dedup_sublist found).eq_of_length counted.symm]
    exact List.nodup_dedup found
  · intro once
    rw [once.dedup]

end Exact

/-- A check returns nothing that the next step could use. -/
theorem check_bind_ok_iff {Result : Type} (check : Py Unit) (next : Unit → Py Result)
    (result : Result) :
    (check >>= next) = .ok result ↔ check = .ok () ∧ next () = .ok result := by
  rw [bind_eq_ok]
  constructor
  · rintro ⟨_, checked, returned⟩
    exact ⟨checked, returned⟩
  · rintro ⟨checked, returned⟩
    exact ⟨(), checked, returned⟩

theorem for_m_ok_iff {Item : Type} (check : Item → Py Unit) (items : List Item) :
    items.forM check = .ok () ↔ ∀ item ∈ items, check item = .ok () := by
  induction items with
  | nil => simp [List.forM, pure, Except.pure]
  | cons item items induction =>
      have unfolded : (item :: items).forM check = (check item >>= fun _ => items.forM check) :=
        rfl
      rw [unfolded, check_bind_ok_iff, List.forall_mem_cons, induction]

/-! ## Each check -/

theorem only_ok_iff (items : List CorrelatedHostObservation) (event : CorrelatedEvent)
    (item : CorrelatedHostObservation) :
    only items event = .ok item ↔ eventsOf ↑items event = {item} := by
  have same : eventsOf ↑items event = ↑(itemsOf items event) := Multiset.filter_coe _ _
  rw [same, Multiset.coe_eq_singleton, only]
  split
  · rename_i found listed
    rw [listed, Except.ok.injEq, List.cons.injEq]
    simp
  · rename_i several
    constructor
    · intro accepted
      cases accepted
    · intro listed
      exact absurd listed (several item)

theorem mem_events_of (items : List CorrelatedHostObservation) (event : CorrelatedEvent)
    (item : CorrelatedHostObservation) :
    item ∈ eventsOf ↑items event ↔ item ∈ itemsOf items event := by
  rw [eventsOf, Multiset.filter_coe, Multiset.mem_coe]
  rfl

theorem map_events_of {Key : Type} (key : CorrelatedHostObservation → Key)
    (items : List CorrelatedHostObservation) (event : CorrelatedEvent) :
    (eventsOf ↑items event).map key = ↑((itemsOf items event).map key) := by
  rw [eventsOf, Multiset.filter_coe, Multiset.map_coe]
  rfl

section Roster

variable (roster : JobRoster)

theorem receipts_ok_iff (receipts : List CorrelatedHostObservation) :
    (receipts.length != (collect JobReceipt.jobId roster.val).size ||
        decide ((receipts.map fun item => item.jobId).toFinset ≠
          (collect JobReceipt.jobId roster.val).keys.image some)) = false ↔
      ((receipts.map fun item => item.jobId : List _) : Multiset (Option (Uint uint64Max))) =
        ↑(roster.val.map fun job => some job.jobId) := by
  have jobs : roster.val.map (fun job => some job.jobId) =
      (roster.val.map JobReceipt.jobId).map some := by
    rw [List.map_map]
    rfl
  have distinct : (roster.val.map fun job => some job.jobId).Nodup := by
    rw [jobs]
    exact (roster_jobs_nodup roster).map (Option.some_injective _)
  have size := (size_collect_iff JobReceipt.jobId roster.val).mpr (roster_jobs_nodup roster)
  have keys : (collect JobReceipt.jobId roster.val).keys.image some =
      (roster.val.map fun job => some job.jobId).toFinset := by
    rw [keys_collect, jobs]
    ext value
    simp
  rw [← counted_iff_perm _ _ distinct, Bool.or_eq_false_iff, bne_eq_false_iff_eq,
    decide_eq_false_iff_not, not_not, size, keys, List.length_map, List.length_map]

/-- A receipt of a listed job agrees with that job of the roster. -/
theorem check_receipt_ok_iff (requeued admitted receipt : CorrelatedHostObservation)
    (listed : ∃ job ∈ roster.val, receipt.jobId = some job.jobId) :
    checkReceipt requeued admitted (collect JobReceipt.jobId roster.val) receipt = .ok () ↔
      (∀ job ∈ roster.val, receipt.jobId = some job.jobId → receipt.workers = job.workers) ∧
        requeued.observedAtNs.val < receipt.observedAtNs.val ∧
        receipt.observedAtNs.val < admitted.observedAtNs.val := by
  obtain ⟨job, member, same⟩ := listed
  have found := lookup_collect JobReceipt.jobId roster.val (roster_jobs_nodup roster) job member
  have own : (∀ other ∈ roster.val, receipt.jobId = some other.jobId →
      receipt.workers = other.workers) ↔ receipt.workers = job.workers := by
    constructor
    · intro every
      exact every job member same
    · intro equal other otherMember otherSame
      have identical := roster_job_unique roster job other member otherMember
        (Option.some.inj (same.symm.trans otherSame))
      rw [equal, identical]
  rw [own, checkReceipt, same, Option.bind_some, found]
  simp

theorem stage_ok_iff (items : List CorrelatedHostObservation) (event : CorrelatedEvent)
    (stage : Stage) :
    stageOf items event (expectedKeys roster) = .ok stage ↔
      collect stageKey (itemsOf items event) = stage ∧
        (eventsOf ↑items event).map stageKey = ↑(expectedKeys roster) := by
  rw [map_events_of, ← exact_iff_perm _ _ (expected_keys_nodup roster), stageOf,
    raise_if_bind_ok, Bool.or_eq_false_iff, bne_eq_false_iff_eq, size_collect_iff,
    decide_eq_false_iff_not, not_not, keys_collect, Except.ok.injEq]
  exact and_comm

end Roster

/-- The time of the one record of a stage with the key. -/
theorem observed_at_ok_iff (items : List CorrelatedHostObservation)
    (distinct : (items.map stageKey).Nodup) (item : CorrelatedHostObservation)
    (member : item ∈ items) (time : Nat) :
    observedAt (collect stageKey items) (stageKey item) = .ok time ↔
      time = item.observedAtNs.val := by
  rw [observedAt, lookup_collect stageKey items distinct item member, Except.ok.injEq]
  exact eq_comm

section Stages

variable (expected : List StageKey)
variable (submissions completions : List CorrelatedHostObservation)
variable (submitted : (submissions.map stageKey).Perm expected)
variable (completed : (completions.map stageKey).Perm expected) (distinct : expected.Nodup)
include completed distinct

include submitted in
theorem stages_ok_iff :
    expected.forM (checkStages (collect stageKey submissions) (collect stageKey completions)) =
        .ok () ↔
      ∀ submission ∈ submissions, ∀ completion ∈ completions,
        stageKey submission = stageKey completion →
          submission.observedAtNs.val < completion.observedAtNs.val := by
  have submittedOnce := submitted.nodup_iff.mpr distinct
  have completedOnce := completed.nodup_iff.mpr distinct
  have pairOk : ∀ submission ∈ submissions, ∀ completion ∈ completions,
      stageKey submission = stageKey completion →
      (checkStages (collect stageKey submissions) (collect stageKey completions)
        (stageKey completion) = .ok () ↔
          submission.observedAtNs.val < completion.observedAtNs.val) := by
    intro submission first completion second same
    have submittedAt := observed_at_ok_iff submissions submittedOnce submission first
    rw [same] at submittedAt
    simp only [checkStages, bind_eq_ok, submittedAt,
      observed_at_ok_iff completions completedOnce completion second, exists_eq_left, raise_if_ok,
      decide_eq_false_iff_not, not_le]
  rw [for_m_ok_iff]
  constructor
  · intro every submission first completion second same
    rw [← pairOk submission first completion second same]
    exact every _ (completed.mem_iff.mp (List.mem_map_of_mem second))
  · intro ordered key listed
    obtain ⟨submission, first, here⟩ := List.mem_map.mp (submitted.mem_iff.mpr listed)
    obtain ⟨completion, second, there⟩ := List.mem_map.mp (completed.mem_iff.mpr listed)
    have same := here.trans there.symm
    rw [← there, pairOk submission first completion second same]
    exact ordered submission first completion second same

theorem check_first_compute_ok_iff (admitted compute : CorrelatedHostObservation) :
    checkFirstCompute admitted (collect stageKey completions) expected compute = .ok () ↔
      compute.roster = admitted.roster ∧
        ∀ completion ∈ completions, workerKey completion = workerKey compute →
          completion.observedAtNs.val < compute.observedAtNs.val := by
  have completedOnce := completed.nodup_iff.mpr distinct
  rw [checkFirstCompute, raise_if_bind_ok, for_m_ok_iff, bne_eq_false_iff_eq]
  apply and_congr_right
  intro _
  have each : ∀ completion ∈ completions,
      ((do
          let completedAt ← observedAt (collect stageKey completions) (stageKey completion)
          raiseIf (decide (compute.observedAtNs.val ≤ completedAt))
            "first compute has mismatched roster or Worker order" : Py Unit) = .ok () ↔
        completion.observedAtNs.val < compute.observedAtNs.val) := by
    intro completion member
    simp only [bind_eq_ok, observed_at_ok_iff completions completedOnce completion member,
      exists_eq_left, raise_if_ok, decide_eq_false_iff_not, not_le]
  constructor
  · intro every completion member own
    rw [← each completion member]
    apply every
    rw [List.mem_filter, decide_eq_true_eq]
    exact ⟨completed.mem_iff.mp (List.mem_map_of_mem member), own⟩
  · intro ordered key listed
    rw [List.mem_filter, decide_eq_true_eq] at listed
    obtain ⟨completion, member, rfl⟩ := List.mem_map.mp (completed.mem_iff.mpr listed.1)
    exact (each completion member).mpr (ordered completion member listed.2)

end Stages

/-! ## The whole episode -/

theorem admission_roster_nonempty (admitted : CorrelatedHostObservation)
    (event : admitted.event = .recoveryAdmitted) : ∃ job, job ∈ admitted.roster.val := by
  have shape := admitted.shape
  rw [event] at shape
  have listed : CorrelatedField.roster ∈
      correlatedFields.filter admitted.toCorrelatedFields.isPopulated := by
    rw [shape]
    decide
  have populated := (List.mem_filter.mp listed).2
  rw [CorrelatedFields.isPopulated, Bool.not_eq_true', List.isEmpty_eq_false_iff] at populated
  exact List.exists_mem_of_ne_nil _ populated

theorem admission_event (group : Group) (admitted : CorrelatedHostObservation)
    (only : eventsOf group .recoveryAdmitted = {admitted}) :
    admitted.event = .recoveryAdmitted := by
  have member : admitted ∈ eventsOf group .recoveryAdmitted := by
    rw [only]
    exact Multiset.mem_singleton_self admitted
  exact (Multiset.mem_filter.mp member).2

theorem receipt_listed (group : Group) (roster : JobRoster)
    (receipts : (eventsOf group .transferReceipt).map (fun receipt => receipt.jobId) =
      ↑(roster.val.map fun job => some job.jobId))
    (receipt : CorrelatedHostObservation) (member : receipt ∈ eventsOf group .transferReceipt) :
    ∃ job ∈ roster.val, receipt.jobId = some job.jobId := by
  have listed := Multiset.mem_map_of_mem (fun receipt => receipt.jobId) member
  rw [receipts, Multiset.mem_coe] at listed
  obtain ⟨job, inside, same⟩ := List.mem_map.mp listed
  exact ⟨job, inside, same.symm⟩

/-- A complete episode was admitted after its requeue: a receipt lies between. -/
theorem admitted_after_requeue (group : Group) (requeued admitted : CorrelatedHostObservation)
    (complete : CompleteGroup group requeued admitted) :
    requeued.observedAtNs.val < admitted.observedAtNs.val := by
  obtain ⟨job, member⟩ := admission_roster_nonempty admitted
    (admission_event group admitted complete.admission)
  have listed : some job.jobId ∈
      (eventsOf group .transferReceipt).map fun receipt => receipt.jobId := by
    rw [complete.receipts]
    exact Multiset.mem_coe.mpr (List.mem_map_of_mem member)
  obtain ⟨receipt, there, _⟩ := Multiset.mem_map.mp listed
  exact (complete.receiptTimes receipt there).1.trans (complete.receiptTimes receipt there).2

theorem firsts_ok_iff (items : List CorrelatedHostObservation) (roster : JobRoster) :
    ((collect workerKey (itemsOf items .firstCompute)).size !=
          (itemsOf items .firstCompute).length ||
        decide ((collect workerKey (itemsOf items .firstCompute)).keys ≠
          (expectedWorkers roster).toFinset)) = false ↔
      (eventsOf ↑items .firstCompute).map workerKey = ↑(expectedWorkers roster).dedup := by
  rw [map_events_of, ← exact_iff_perm _ _ (List.nodup_dedup _), Bool.or_eq_false_iff,
    bne_eq_false_iff_eq, size_collect_iff, decide_eq_false_iff_not, not_not, keys_collect]
  have same : (expectedWorkers roster).dedup.toFinset = (expectedWorkers roster).toFinset := by
    ext value
    rw [List.mem_toFinset, List.mem_toFinset, List.mem_dedup]
  rw [same]

/-- What the validator runs through, one check after the other. -/
theorem check_episode_steps (items : List CorrelatedHostObservation) :
    checkEpisode items = .ok () ↔
      ∃ requeued, only items .recoveryRequeued = .ok requeued ∧
      ∃ admitted, only items .recoveryAdmitted = .ok admitted ∧
        requeued.observedAtNs.val < admitted.observedAtNs.val ∧
        (eventsOf ↑items .transferReceipt).map (fun receipt => receipt.jobId) =
          ↑(admitted.roster.val.map fun job => some job.jobId) ∧
        (itemsOf items .transferReceipt).forM (checkReceipt requeued admitted
          (collect JobReceipt.jobId admitted.roster.val)) = .ok () ∧
      ∃ submitted, stageOf items .restoreSubmitted (expectedKeys admitted.roster) =
          .ok submitted ∧
      ∃ completed, stageOf items .restoreCompleted (expectedKeys admitted.roster) =
          .ok completed ∧
        (expectedKeys admitted.roster).forM (checkStages submitted completed) = .ok () ∧
        (eventsOf ↑items .firstCompute).map workerKey =
          ↑(expectedWorkers admitted.roster).dedup ∧
        (itemsOf items .firstCompute).forM
          (checkFirstCompute admitted completed (expectedKeys admitted.roster)) = .ok () := by
  rw [checkEpisode, bind_eq_ok]
  apply exists_congr; intro requeued
  apply and_congr_right; intro _
  rw [bind_eq_ok]
  apply exists_congr; intro admitted
  apply and_congr_right; intro _
  rw [raise_if_bind_ok, decide_eq_false_iff_not, not_le]
  apply and_congr_right; intro _
  rw [raise_if_bind_ok, receipts_ok_iff, map_events_of]
  apply and_congr_right; intro _
  rw [check_bind_ok_iff]
  apply and_congr_right; intro _
  rw [bind_eq_ok]
  apply exists_congr; intro submitted
  apply and_congr_right; intro _
  rw [bind_eq_ok]
  apply exists_congr; intro completed
  apply and_congr_right; intro _
  rw [check_bind_ok_iff]
  apply and_congr_right; intro _
  rw [raise_if_bind_ok, firsts_ok_iff]

section Passes

variable (items : List CorrelatedHostObservation) (admitted : CorrelatedHostObservation)

theorem receipt_checks_ok_iff (requeued : CorrelatedHostObservation)
    (receipts : (eventsOf ↑items .transferReceipt).map (fun receipt => receipt.jobId) =
      ↑(admitted.roster.val.map fun job => some job.jobId)) :
    (itemsOf items .transferReceipt).forM (checkReceipt requeued admitted
        (collect JobReceipt.jobId admitted.roster.val)) = .ok () ↔
      ∀ receipt ∈ eventsOf ↑items .transferReceipt,
        (∀ job ∈ admitted.roster.val, receipt.jobId = some job.jobId →
          receipt.workers = job.workers) ∧
        requeued.observedAtNs.val < receipt.observedAtNs.val ∧
        receipt.observedAtNs.val < admitted.observedAtNs.val := by
  rw [for_m_ok_iff]
  apply forall_congr'; intro receipt
  rw [← mem_events_of]
  apply forall_congr'; intro member
  exact check_receipt_ok_iff admitted.roster requeued admitted receipt
    (receipt_listed ↑items admitted.roster receipts receipt member)

theorem stage_perm (event : CorrelatedEvent) (roster : JobRoster)
    (same : (eventsOf ↑items event).map stageKey = ↑(expectedKeys roster)) :
    ((itemsOf items event).map stageKey).Perm (expectedKeys roster) := by
  rw [map_events_of, Multiset.coe_eq_coe] at same
  exact same

variable (completions : (eventsOf ↑items .restoreCompleted).map stageKey =
  ↑(expectedKeys admitted.roster))
include completions

theorem order_checks_ok_iff
    (submissions : (eventsOf ↑items .restoreSubmitted).map stageKey =
      ↑(expectedKeys admitted.roster)) :
    (expectedKeys admitted.roster).forM (checkStages
        (collect stageKey (itemsOf items .restoreSubmitted))
        (collect stageKey (itemsOf items .restoreCompleted))) = .ok () ↔
      ∀ submission ∈ eventsOf ↑items .restoreSubmitted,
        ∀ completion ∈ eventsOf ↑items .restoreCompleted,
          stageKey submission = stageKey completion →
            submission.observedAtNs.val < completion.observedAtNs.val := by
  rw [stages_ok_iff _ _ _ (stage_perm items _ _ submissions) (stage_perm items _ _ completions)
    (expected_keys_nodup admitted.roster)]
  simp only [mem_events_of]

theorem compute_checks_ok_iff :
    (itemsOf items .firstCompute).forM (checkFirstCompute admitted
        (collect stageKey (itemsOf items .restoreCompleted)) (expectedKeys admitted.roster)) =
        .ok () ↔
      ∀ compute ∈ eventsOf ↑items .firstCompute, compute.roster = admitted.roster ∧
        ∀ completion ∈ eventsOf ↑items .restoreCompleted,
          workerKey completion = workerKey compute →
            completion.observedAtNs.val < compute.observedAtNs.val := by
  rw [for_m_ok_iff]
  simp only [mem_events_of]
  apply forall_congr'; intro compute
  apply forall_congr'; intro _
  exact check_first_compute_ok_iff _ _ (stage_perm items _ _ completions)
    (expected_keys_nodup admitted.roster) admitted compute

end Passes

theorem check_episode_ok_iff (items : List CorrelatedHostObservation) :
    checkEpisode items = .ok () ↔
      ∃ requeued admitted, CompleteGroup ↑items requeued admitted := by
  rw [check_episode_steps]
  constructor
  · rintro ⟨requeued, requeue, admitted, admission, _, receipts, receiptChecks, submitted,
      submittedStage, completed, completedStage, ordered, computes, computeChecks⟩
    obtain ⟨rfl, submissions⟩ := (stage_ok_iff admitted.roster items _ submitted).mp
      submittedStage
    obtain ⟨rfl, completions⟩ := (stage_ok_iff admitted.roster items _ completed).mp
      completedStage
    rw [receipt_checks_ok_iff items admitted requeued receipts] at receiptChecks
    rw [order_checks_ok_iff items admitted completions submissions] at ordered
    rw [compute_checks_ok_iff items admitted completions] at computeChecks
    refine ⟨requeued, admitted, ?_⟩
    constructor
    case requeue => exact (only_ok_iff items _ requeued).mp requeue
    case admission => exact (only_ok_iff items _ admitted).mp admission
    case receipts => exact receipts
    case receiptWorkers => exact fun receipt member => (receiptChecks receipt member).1
    case receiptTimes => exact fun receipt member => (receiptChecks receipt member).2
    case submissions => exact submissions
    case completions => exact completions
    case completedLater => exact ordered
    case computes => exact computes
    case computeRoster => exact fun compute member => (computeChecks compute member).1
    case computedLater => exact fun compute member => (computeChecks compute member).2
  · rintro ⟨requeued, admitted, complete⟩
    refine ⟨requeued, (only_ok_iff items _ requeued).mpr complete.requeue, admitted,
      (only_ok_iff items _ admitted).mpr complete.admission,
      admitted_after_requeue _ requeued admitted complete, complete.receipts, ?_,
      collect stageKey (itemsOf items .restoreSubmitted),
      (stage_ok_iff admitted.roster items _ _).mpr ⟨rfl, complete.submissions⟩,
      collect stageKey (itemsOf items .restoreCompleted),
      (stage_ok_iff admitted.roster items _ _).mpr ⟨rfl, complete.completions⟩, ?_,
      complete.computes, ?_⟩
    · rw [receipt_checks_ok_iff items admitted requeued complete.receipts]
      intro receipt member
      exact ⟨complete.receiptWorkers receipt member, complete.receiptTimes receipt member⟩
    · rw [order_checks_ok_iff items admitted complete.completions complete.submissions]
      exact complete.completedLater
    · rw [compute_checks_ok_iff items admitted complete.completions]
      intro compute member
      exact ⟨complete.computeRoster compute member, complete.computedLater compute member⟩

end KVTransferObservability.EpisodeChecks
