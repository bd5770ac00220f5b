import Mathlib.Data.Option.Basic
import Mathlib.Data.List.Basic

/-!
# Interleaved atomic steps

Parties that run concurrently take atomic steps one at a time. A step that is not
enabled in a state has no result there, so a schedule is a list of events and a run
is a schedule whose events are all enabled in turn. A claim about every interleaving
is a claim about every run.
-/

namespace KVTransferObservability.Library.Steps

set_option autoImplicit false

universe u v u' v'

variable {State : Type u} {Event : Type v} (step : State → Event → Option State)

/-- The state a schedule ends in, when every event of it is enabled. -/
def run : State → List Event → Option State
  | state, [] => some state
  | state, event :: rest => (step state event).bind fun next => run next rest

/-- Every event of the schedule meets the condition in the state it is taken in. -/
def Along (condition : State → Event → Prop) : State → List Event → Prop
  | _, [] => True
  | state, event :: rest =>
      condition state event ∧ ∀ next, step state event = some next → Along condition next rest

@[simp] theorem run_nil (state : State) : run step state [] = some state := rfl

theorem run_cons_iff (state final : State) (event : Event) (rest : List Event) :
    run step state (event :: rest) = some final ↔
      ∃ next, step state event = some next ∧ run step next rest = some final :=
  Option.bind_eq_some_iff

theorem run_append_iff (state final : State) (before after : List Event) :
    run step state (before ++ after) = some final ↔
      ∃ middle, run step state before = some middle ∧ run step middle after = some final := by
  induction before generalizing state with
  | nil => simp
  | cons event before induction =>
      rw [List.cons_append, run_cons_iff]
      constructor
      · rintro ⟨next, first, rest⟩
        obtain ⟨middle, reached, finished⟩ := (induction next).mp rest
        exact ⟨middle, (run_cons_iff step state middle event before).mpr ⟨next, first, reached⟩,
          finished⟩
      · rintro ⟨middle, reached, finished⟩
        obtain ⟨next, first, rest⟩ := (run_cons_iff step state middle event before).mp reached
        exact ⟨next, first, (induction next).mpr ⟨middle, rest, finished⟩⟩

/-- An invariant of the steps that meet a condition holds after every run whose
events all meet it. -/
theorem invariant_along (invariant : State → Prop) (condition : State → Event → Prop)
    (preserved : ∀ state event next, invariant state → condition state event →
      step state event = some next → invariant next)
    (state final : State) (events : List Event) (initial : invariant state)
    (meets : Along step condition state events)
    (reached : run step state events = some final) : invariant final := by
  induction events generalizing state with
  | nil =>
      cases reached
      exact initial
  | cons event events induction =>
      obtain ⟨next, taken, rest⟩ := (run_cons_iff step state final event events).mp reached
      exact induction next (preserved state event next initial meets.1 taken) (meets.2 next taken)
        rest

theorem along_of_forall (condition : State → Event → Prop)
    (every : ∀ state event, condition state event) (state : State) (events : List Event) :
    Along step condition state events := by
  induction events generalizing state with
  | nil => trivial
  | cons event events induction => exact ⟨every state event, fun next _ => induction next⟩

/-- An invariant of every step holds after every run. -/
theorem invariant_run (invariant : State → Prop)
    (preserved : ∀ state event next, invariant state → step state event = some next →
      invariant next)
    (state final : State) (events : List Event) (initial : invariant state)
    (reached : run step state events = some final) : invariant final :=
  invariant_along step invariant (fun _ _ => True)
    (fun state event next holds _ taken => preserved state event next holds taken)
    state final events initial (along_of_forall step _ (fun _ _ => trivial) state events) reached

/-- A property of the states that the invariant gives, and that only the condition can
give after a step, holds in every state of a run exactly when the condition holds
along it. -/
theorem every_state_iff_along (invariant property : State → Prop)
    (condition : State → Event → Prop)
    (gives : ∀ state, invariant state → property state)
    (preserved : ∀ state event next, invariant state → condition state event →
      step state event = some next → invariant next)
    (needed : ∀ state event next, invariant state → step state event = some next →
      property next → condition state event)
    (state final : State) (events : List Event) (initial : invariant state)
    (reached : run step state events = some final) :
    (∀ before after middle, events = before ++ after → run step state before = some middle →
        property middle) ↔
      Along step condition state events := by
  induction events generalizing state with
  | nil =>
      refine iff_of_true ?_ trivial
      intro before after middle split taken
      rw [(List.append_eq_nil_iff.mp split.symm).1] at taken
      cases taken
      exact gives state initial
  | cons event events induction =>
      obtain ⟨next, taken, rest⟩ := (run_cons_iff step state final event events).mp reached
      constructor
      · intro every
        have first : property next :=
          every [event] events next rfl ((run_cons_iff step state next event []).mpr
            ⟨next, taken, rfl⟩)
        have meets := needed state event next initial taken first
        refine ⟨meets, ?_⟩
        intro other same
        rw [taken] at same
        cases same
        refine (induction next (preserved state event next initial meets taken) rest).mp ?_
        intro before after middle split reaches
        exact every (event :: before) after middle (by rw [split, List.cons_append])
          ((run_cons_iff step state middle event before).mpr ⟨next, taken, reaches⟩)
      · rintro ⟨meets, later⟩ before after middle split reaches
        cases before with
        | nil =>
            cases reaches
            exact gives state initial
        | cons head before =>
            obtain ⟨rfl, tail⟩ := List.cons_eq_cons.mp split
            obtain ⟨other, same, onward⟩ := (run_cons_iff step state middle _ before).mp reaches
            rw [taken] at same
            cases same
            exact (induction next (preserved state event next initial meets taken) rest).mpr
              (later next taken) before after middle tail onward

end KVTransferObservability.Library.Steps
