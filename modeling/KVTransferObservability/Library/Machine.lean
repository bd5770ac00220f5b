import Mathlib.Data.List.Basic

/-!
# Deterministic machines with outputs

A component that answers one input at a time is a function from a state and an
input to an output and the next state. Claims about the component quantify over
its runs; the rules here reduce them to one step.
-/

namespace KVTransferObservability.Library.Machine

set_option autoImplicit false

universe u v w

variable {State : Type u} {Input : Type v} {Output : Type w}
variable (step : State → Input → Output × State)

def finalState : State → List Input → State
  | state, [] => state
  | state, input :: rest => finalState (step state input).2 rest

def outputs : State → List Input → List Output
  | _, [] => []
  | state, input :: rest => (step state input).1 :: outputs (step state input).2 rest

/-- Every input of the run satisfies the condition in the state it meets. -/
def Along (condition : State → Input → Prop) : State → List Input → Prop
  | _, [] => True
  | state, input :: rest =>
      condition state input ∧ Along condition (step state input).2 rest

@[simp] theorem final_state_nil (state : State) : finalState step state [] = state := rfl

@[simp] theorem final_state_cons (state : State) (input : Input) (rest : List Input) :
    finalState step state (input :: rest) = finalState step (step state input).2 rest := rfl

theorem final_state_append (state : State) (before after : List Input) :
    finalState step state (before ++ after) =
      finalState step (finalState step state before) after := by
  induction before generalizing state with
  | nil => rfl
  | cons input before induction => exact induction (step state input).2

theorem outputs_append (state : State) (before after : List Input) :
    outputs step state (before ++ after) =
      outputs step state before ++ outputs step (finalState step state before) after := by
  induction before generalizing state with
  | nil => rfl
  | cons input before induction =>
      exact congrArg ((step state input).1 :: ·) (induction (step state input).2)

theorem along_iff (condition : State → Input → Prop) (state : State) (inputs : List Input) :
    Along step condition state inputs ↔
      ∀ before input after, inputs = before ++ input :: after →
        condition (finalState step state before) input := by
  induction inputs generalizing state with
  | nil => simp [Along]
  | cons first rest induction =>
      rw [Along, induction]
      constructor
      · rintro ⟨now, later⟩ before input after split
        cases before with
        | nil =>
            obtain ⟨rfl, rfl⟩ := List.cons_eq_cons.mp split
            exact now
        | cons head before =>
            obtain ⟨rfl, tail⟩ := List.cons_eq_cons.mp split
            exact later before input after tail
      · intro every
        refine ⟨every [] first rest rfl, ?_⟩
        intro before input after split
        exact every (first :: before) input after (by rw [split, List.cons_append])

theorem along_append (condition : State → Input → Prop) (state : State)
    (before after : List Input) :
    Along step condition state (before ++ after) ↔
      Along step condition state before ∧
        Along step condition (finalState step state before) after := by
  induction before generalizing state with
  | nil => simp [Along]
  | cons input before induction =>
      simp only [List.cons_append, Along, final_state_cons, induction, and_assoc]

theorem along_of_forall (condition : State → Input → Prop)
    (every : ∀ state input, condition state input) (state : State) (inputs : List Input) :
    Along step condition state inputs := by
  induction inputs generalizing state with
  | nil => trivial
  | cons input inputs induction => exact ⟨every state input, induction _⟩

/-- An invariant of the steps that meet a condition holds after every run whose
steps all meet it. -/
theorem invariant_along (invariant : State → Prop) (condition : State → Input → Prop)
    (preserved : ∀ state input, invariant state → condition state input →
      invariant (step state input).2)
    (state : State) (inputs : List Input) (initial : invariant state)
    (meets : Along step condition state inputs) :
    invariant (finalState step state inputs) := by
  induction inputs generalizing state with
  | nil => exact initial
  | cons input inputs induction =>
      exact induction (step state input).2 (preserved state input initial meets.1) meets.2

theorem invariant_run (invariant : State → Prop)
    (preserved : ∀ state input, invariant state → invariant (step state input).2)
    (state : State) (inputs : List Input) (initial : invariant state) :
    invariant (finalState step state inputs) :=
  invariant_along step invariant (fun _ _ => True)
    (fun state input holds _ => preserved state input holds) state inputs initial
    (along_of_forall step _ (fun _ _ => trivial) state inputs)

/-- A property of the states that the invariant gives, and that only the condition can
give after a step, holds in every state of a run exactly when the condition holds
along it. -/
theorem every_state_iff_along (invariant property : State → Prop)
    (condition : State → Input → Prop)
    (gives : ∀ state, invariant state → property state)
    (preserved : ∀ state input, invariant state → condition state input →
      invariant (step state input).2)
    (needed : ∀ state input, invariant state → property (step state input).2 →
      condition state input)
    (state : State) (inputs : List Input) (initial : invariant state) :
    (∀ before after, inputs = before ++ after → property (finalState step state before)) ↔
      Along step condition state inputs := by
  constructor
  · intro every
    induction inputs generalizing state with
    | nil => trivial
    | cons input inputs induction =>
        have meets := needed state input initial (every [input] inputs rfl)
        refine ⟨meets, induction _ (preserved state input initial meets) ?_⟩
        intro before after split
        exact every (input :: before) after (by rw [split, List.cons_append])
  · intro along before after split
    rw [split, along_append] at along
    exact gives _ (invariant_along step invariant condition preserved state before initial along.1)

/-- The same rule for a property of the state together with everything the
machine has put out so far. -/
theorem history_along (invariant : State → List Output → Prop)
    (condition : State → Input → Prop)
    (preserved : ∀ state history input, invariant state history → condition state input →
      invariant (step state input).2 (history ++ [(step state input).1]))
    (state : State) (history : List Output) (inputs : List Input)
    (initial : invariant state history) (meets : Along step condition state inputs) :
    invariant (finalState step state inputs) (history ++ outputs step state inputs) := by
  induction inputs generalizing state history with
  | nil => simpa [outputs] using initial
  | cons input inputs induction =>
      have next := induction (step state input).2 (history ++ [(step state input).1])
        (preserved state history input initial meets.1) meets.2
      simpa [outputs, List.append_assoc] using next

end KVTransferObservability.Library.Machine
