import KVTransferObservability.NormalizerTransitions

/-!
# What a rejected observation leaves behind

The handlers reject before they change a table, with one exception: a
cancellation removes its pending transfer and then builds a record that a reason
given as plain text cannot pass. `rejection_intact_iff` says that this is the
only exception.
-/

namespace KVTransferObservability.NormalizerRejection

open Library PythonValues Schema Observation Normalization NormalizerTransitions
open LifecycleNormalizer

set_option autoImplicit false

def isFirstCompute : SourceObservation → Bool
  | .firstCompute _ => true
  | _ => false

/-- If the call that led to `next` was counted as invalid, the tables are as they
were and nothing else has changed, except that a first-compute observation may
have cost the evidence. -/
def IntactAfter (self : LifecycleNormalizer) (source : SourceObservation)
    (next : LifecycleNormalizer) : Prop :=
  next.counterValues.invalid ≠ self.counterValues.invalid →
    SameTables self next ∧
    Settings next self.maxCorrelatedTransfers self.maxRecoveryAdmissions
      self.retainRestoreReceipts ∧
    next.closed = self.closed ∧
    next.counterValues =
      { self.counterValues with invalid := self.counterValues.invalid + 1 } ∧
    (next.evidenceValid = self.evidenceValid ∨
      isFirstCompute source = true ∧ next.evidenceValid = false)

def RejectionIntact (self : LifecycleNormalizer) : Call → Prop
  | .close => True
  | .normalize source => IntactAfter self source (self.normalize source).2

/-- A cancellation whose reason is plain text, of a transfer that is pending since
no later than the cancellation, sent to an open normalizer with valid evidence. -/
structure TornCancellation (normalizer : LifecycleNormalizer)
    (source : CoreTransferCancelled) : Prop where
  opened : normalizer.closed = false
  valid : normalizer.evidenceValid = true
  text : ∀ reason, source.reason ≠ .typed reason
  matched : ∃ pending, normalizer.pending.lookup source.transfer = some pending ∧
    pending.observedAtNs.val ≤ source.observedAtNs.val

/-- The call is not a torn cancellation. -/
def Spared (self : LifecycleNormalizer) : Call → Prop
  | .normalize (.cancelled source) => ¬ TornCancellation self source
  | _ => True

/-- A torn cancellation removes the entry and returns no record for it. -/
theorem torn_answer (self : LifecycleNormalizer) (source : CoreTransferCancelled)
    (torn : TornCancellation self source) :
    self.normalize (.cancelled source) = (.ok none, LifecycleNormalizer.countInvalid
      { self with pending := self.pending.erase source.transfer }) := by
  obtain ⟨opened, valid, text, pending, found, ordered⟩ := torn
  have outcome : Outcome self (.cancelled source) none
      (LifecycleNormalizer.countInvalid
        { self with pending := self.pending.erase source.transfer }) := by
    cases member : source.reason with
    | typed reason => exact absurd member (text reason)
    | other object => exact .torn source pending object member found ordered
  rw [normalize_handled self _ opened valid, outcome_handled self _ _ _ outcome]

theorem torn_not_intact (self : LifecycleNormalizer) (source : CoreTransferCancelled)
    (torn : TornCancellation self source) :
    ¬ RejectionIntact self (.normalize (.cancelled source)) := by
  intro intact
  obtain ⟨pending, found, _⟩ := torn.matched
  simp only [RejectionIntact, IntactAfter, torn_answer self source torn] at intact
  have tables := (intact (Nat.succ_ne_self _)).1
  have still : source.transfer ∈ self.pending.erase source.transfer := by
    have kept : self.pending.erase source.transfer = self.pending := tables.pending
    rw [kept]
    exact Dict.mem_of_lookup found
  exact (Finmap.mem_erase.mp still).1 rfl

theorem spared_intact (self : LifecycleNormalizer) (call : Call) (spared : Spared self call) :
    RejectionIntact self call := by
  cases call with
  | close => trivial
  | normalize source =>
      obtain ⟨result, _, transition⟩ := step_transition self (.normalize source)
      change Transition self (.normalize source) result (self.normalize source).2 at transition
      change IntactAfter self source (self.normalize source).2
      generalize (self.normalize source).2 = next at transition ⊢
      intro rejected
      cases transition with
      | afterClose source closed => exact absurd rfl rejected
      | afterLoss source opened lost => exact absurd rfl rejected
      | handled source result next opened valid outcome =>
          cases outcome with
          | refused source reason =>
              exact ⟨⟨rfl, rfl, rfl⟩, ⟨rfl, rfl, rfl⟩, rfl, rfl, Or.inl rfl⟩
          | mismatched source mismatch =>
              exact ⟨⟨rfl, rfl, rfl⟩, ⟨rfl, rfl, rfl⟩, rfl, rfl, Or.inr ⟨rfl, rfl⟩⟩
          | torn source pending object text found ordered =>
              refine absurd ⟨opened, valid, ?_, pending, found, ordered⟩ spared
              intro reason typed
              rw [text] at typed
              cases typed
          | _ => exact absurd rfl rejected

theorem rejection_intact_iff (self : LifecycleNormalizer) (call : Call) :
    RejectionIntact self call ↔ Spared self call := by
  constructor
  · intro intact
    unfold Spared
    split
    · rename_i source
      intro torn
      exact torn_not_intact self source torn intact
    · trivial
  · exact spared_intact self call

/-- In a run, every rejection leaves the correlation state intact exactly when no
call is a torn cancellation. -/
theorem rejections_intact_iff_no_torn_cancellation (transfers admissions : Nat) (retain : Bool)
    (calls : List Call) :
    Machine.Along step RejectionIntact (fresh transfers admissions retain) calls ↔
      Machine.Along step Spared (fresh transfers admissions retain) calls := by
  rw [Machine.along_iff, Machine.along_iff]
  constructor
  · intro intact before call after split
    exact (rejection_intact_iff _ call).mp (intact before call after split)
  · intro spared before call after split
    exact (rejection_intact_iff _ call).mpr (spared before call after split)

def textCancellation : CoreTransferCancelled :=
  { transfer := sampleTransfer
    observedAtNs := ⟨20, time_twenty⟩
    reason := .other (.str "request_cancelled")
    cancellation := by decide }

/-- The constructor accepts the text of a cancellation reason; sent after the
submission it is counted as invalid and takes the pending transfer with it. -/
theorem text_cancellation_not_intact :
    let submitted : List Call := [.normalize (.submitted (sampleSubmission ⟨10, by decide⟩))]
    let reached := Machine.finalState step (fresh 1 1 true) submitted
    CoreTransferCancelled.make (.typed sampleTransfer) (.int 20)
        (.other (.str "request_cancelled")) = .ok textCancellation ∧
      ¬ RejectionIntact reached (.normalize (.cancelled textCancellation)) ∧
      ¬ Machine.Along step RejectionIntact (fresh 1 1 true)
        (submitted ++ [.normalize (.cancelled textCancellation)]) := by
  intro submitted reached
  have torn : TornCancellation reached textCancellation := by
    refine ⟨rfl, rfl, ?_, sampleSubmission ⟨10, by decide⟩, rfl, by decide⟩
    intro reason typed
    cases typed
  refine ⟨rfl, torn_not_intact reached textCancellation torn, ?_⟩
  rw [Machine.along_append]
  rintro ⟨_, intact, _⟩
  exact torn_not_intact reached textCancellation torn intact

end KVTransferObservability.NormalizerRejection
