import Mathlib.Data.List.Basic

/-!
# Blocks that return or raise

Statements of a language with exceptions, over any state: a block falls through, returns
a value or raises, and changes the state in each case. A loop that has not ended within
its fuel gives `none`. `Ensures` is total correctness, and `Keeps` says that a block never
breaks what holds before it; each has one rule for each kind of statement.
-/

namespace KVTransferObservability.Library

set_option autoImplicit false

/-- How a block that has ended was left. -/
inductive Completion (Value Failure : Type)
  | normal
  | returned (value : Value)
  | raised (failure : Failure)
  deriving DecidableEq

abbrev Block (State Value Failure : Type) := State → Option (Completion Value Failure × State)

namespace Block

variable {State Value Failure : Type}

/-- A statement that cannot raise. -/
def perform (change : State → State) : Block State Value Failure :=
  fun state => some (.normal, change state)

def giveBack (value : Value) : Block State Value Failure :=
  fun state => some (.returned value, state)

/-- The second block is run only if the first falls through. -/
def andThen (first second : Block State Value Failure) : Block State Value Failure :=
  fun state =>
    match first state with
    | none => none
    | some (.normal, next) => second next
    | some (exit, next) => some (exit, next)

def chain : List (Block State Value Failure) → Block State Value Failure
  | [] => perform id
  | block :: rest => andThen block (chain rest)

/-- `if condition: block`. -/
def guarded (condition : State → Bool) (block : Block State Value Failure) :
    Block State Value Failure :=
  fun state => if condition state then block state else some (.normal, state)

/-- `try: body` with handlers for every failure. -/
def handled (body : Block State Value Failure) (handler : Failure → Block State Value Failure) :
    Block State Value Failure :=
  fun state =>
    match body state with
    | some (.raised failure, next) => handler failure next
    | exit => exit

/-- `try: body` with `finally: cleanup`; what the cleanup returns or raises goes first. -/
def lastly (body cleanup : Block State Value Failure) : Block State Value Failure :=
  fun state =>
    match body state with
    | none => none
    | some (exit, next) =>
        match cleanup next with
        | some (.normal, last) => some (exit, last)
        | other => other

/-- `while condition: body`. -/
def loop (condition : State → Bool) (body : Block State Value Failure) :
    Nat → Block State Value Failure
  | 0 => fun _ => none
  | fuel + 1 => fun state =>
      if condition state then andThen body (loop condition body fuel) state
      else some (.normal, state)

/-! ## Total correctness -/

/-- From a state that satisfies the precondition the block ends, and how it is left and
the state satisfy the postcondition. -/
def Ensures (before : State → Prop) (block : Block State Value Failure)
    (after : Completion Value Failure → State → Prop) : Prop :=
  ∀ state, before state → ∃ exit next, block state = some (exit, next) ∧ after exit next

/-- Falling through leads to the assertion between two blocks; every other way to leave
the first block is final. -/
def through (middle : State → Prop) (after : Completion Value Failure → State → Prop) :
    Completion Value Failure → State → Prop
  | .normal, state => middle state
  | exit, state => after exit state

namespace Ensures

variable {before middle : State → Prop} {after other : Completion Value Failure → State → Prop}
variable {block body cleanup first second : Block State Value Failure}

theorem weaken (ensures : Ensures before block after)
    (weaker : ∀ exit state, after exit state → other exit state) :
    Ensures before block other := by
  intro state holds
  obtain ⟨exit, next, ended, result⟩ := ensures state holds
  exact ⟨exit, next, ended, weaker exit next result⟩

theorem strengthen (ensures : Ensures middle block after)
    (stronger : ∀ state, before state → middle state) : Ensures before block after :=
  fun state holds => ensures state (stronger state holds)

theorem perform (change : State → State)
    (changed : ∀ state, before state → after .normal (change state)) :
    Ensures before (Block.perform change) after :=
  fun state holds => ⟨.normal, change state, rfl, changed state holds⟩

/-- An assignment leads to an assertion from what the assertion says after it. -/
theorem assign (change : State → State) :
    Ensures (fun state => middle (change state)) (Block.perform change) (through middle after) :=
  perform change fun _ holds => holds

theorem giveBack (value : Value) (returns : ∀ state, before state → after (.returned value) state) :
    Ensures before (Block.giveBack value) after :=
  fun state holds => ⟨.returned value, state, rfl, returns state holds⟩

theorem andThen (starts : Ensures before first (through middle after))
    (continues : Ensures middle second after) :
    Ensures before (Block.andThen first second) after := by
  intro state holds
  obtain ⟨exit, next, ended, result⟩ := starts state holds
  cases exit with
  | normal =>
      obtain ⟨exit, last, finished, result⟩ := continues next result
      refine ⟨exit, last, ?_, result⟩
      rw [Block.andThen, ended]
      exact finished
  | returned value =>
      refine ⟨.returned value, next, ?_, result⟩
      rw [Block.andThen, ended]
  | raised failure =>
      refine ⟨.raised failure, next, ?_, result⟩
      rw [Block.andThen, ended]

theorem chain_nil (falls : ∀ state, before state → after .normal state) :
    Ensures before (Block.chain [] : Block State Value Failure) after :=
  perform id falls

theorem chain_cons {rest : List (Block State Value Failure)}
    (starts : Ensures before first (through middle after))
    (continues : Ensures middle (Block.chain rest) after) :
    Ensures before (Block.chain (first :: rest)) after :=
  andThen starts continues

theorem guarded (condition : State → Bool)
    (runs : Ensures (fun state => before state ∧ condition state = true) block after)
    (skips : ∀ state, before state → condition state = false → after .normal state) :
    Ensures before (Block.guarded condition block) after := by
  intro state holds
  cases decided : condition state with
  | true =>
      obtain ⟨exit, next, ended, result⟩ := runs state ⟨holds, decided⟩
      refine ⟨exit, next, ?_, result⟩
      rw [Block.guarded, decided]
      exact ended
  | false =>
      refine ⟨.normal, state, ?_, skips state holds decided⟩
      rw [Block.guarded, decided]
      rfl

theorem handled {handler : Failure → Block State Value Failure} (runs : Ensures before body other)
    (passes : ∀ state, other .normal state → after .normal state)
    (returns : ∀ value state, other (.returned value) state → after (.returned value) state)
    (handles : ∀ failure, Ensures (other (.raised failure)) (handler failure) after) :
    Ensures before (Block.handled body handler) after := by
  intro state holds
  obtain ⟨exit, next, ended, result⟩ := runs state holds
  cases exit with
  | normal =>
      refine ⟨.normal, next, ?_, passes next result⟩
      rw [Block.handled, ended]
  | returned value =>
      refine ⟨.returned value, next, ?_, returns value next result⟩
      rw [Block.handled, ended]
  | raised failure =>
      obtain ⟨exit, last, finished, result⟩ := handles failure next result
      refine ⟨exit, last, ?_, result⟩
      rw [Block.handled, ended]
      exact finished

/-- A cleanup that always falls through keeps how the body was left. -/
theorem lastly (runs : Ensures before body other)
    (cleans : ∀ exit, Ensures (other exit) cleanup
      (fun left state => left = .normal ∧ after exit state)) :
    Ensures before (Block.lastly body cleanup) after := by
  intro state holds
  obtain ⟨exit, next, ended, result⟩ := runs state holds
  obtain ⟨left, last, finished, same, result⟩ := cleans exit next result
  subst same
  refine ⟨exit, last, ?_, result⟩
  rw [Block.lastly, ended]
  simp only [finished]

/-- An invariant and a measure that every round decreases. The loop ends, with any fuel
above the measure. -/
theorem loop (condition : State → Bool) (measure : State → Nat) (invariant : State → Prop)
    (round : ∀ size, Ensures
      (fun state => invariant state ∧ condition state = true ∧ measure state = size) body
      (through (fun state => invariant state ∧ measure state < size) after))
    (leaves : ∀ state, invariant state → condition state = false → after .normal state)
    (fuel : Nat) :
    Ensures (fun state => invariant state ∧ measure state < fuel)
      (Block.loop condition body fuel) after := by
  induction fuel with
  | zero =>
      intro state holds
      exact absurd holds.2 (Nat.not_lt_zero _)
  | succ fuel induction =>
      intro state holds
      cases decided : condition state with
      | true =>
          have continues : Ensures (fun other => other = state)
              (Block.andThen body (Block.loop condition body fuel)) after := by
            apply andThen ((round (measure state)).strengthen ?_)
            · apply induction.strengthen
              intro next result
              obtain ⟨kept, smaller⟩ := result
              have bound := holds.2
              exact ⟨kept, by omega⟩
            · intro other same
              subst same
              exact ⟨holds.1, decided, rfl⟩
          obtain ⟨exit, next, ended, result⟩ := continues state rfl
          exact ⟨exit, next, (if_pos decided).trans ended, result⟩
      | false =>
          exact ⟨.normal, state, if_neg (ne_true_of_eq_false decided),
            leaves state holds.1 decided⟩

end Ensures

/-! ## Frames -/

/-- However the block is left, what held before it still holds. -/
def Keeps (invariant : State → Prop) (block : Block State Value Failure) : Prop :=
  ∀ state exit next, invariant state → block state = some (exit, next) → invariant next

namespace Keeps

variable {invariant : State → Prop} {body cleanup first second : Block State Value Failure}

theorem perform (change : State → State)
    (changed : ∀ state, invariant state → invariant (change state)) :
    Keeps invariant (Block.perform change : Block State Value Failure) := by
  intro state exit next holds ended
  cases ended
  exact changed state holds

theorem giveBack (value : Value) :
    Keeps invariant (Block.giveBack value : Block State Value Failure) := by
  intro state exit next holds ended
  cases ended
  exact holds

theorem andThen (starts : Keeps invariant first) (continues : Keeps invariant second) :
    Keeps invariant (Block.andThen first second) := by
  intro state exit next holds ended
  unfold Block.andThen at ended
  split at ended
  · cases ended
  · rename_i middle left
    exact continues middle exit next (starts state .normal middle holds left) ended
  · rename_i other middle _ left
    cases ended
    exact starts state _ _ holds left

theorem chain {blocks : List (Block State Value Failure)}
    (each : ∀ block ∈ blocks, Keeps invariant block) : Keeps invariant (Block.chain blocks) := by
  induction blocks with
  | nil => exact perform id fun _ holds => holds
  | cons block rest induction =>
      obtain ⟨head, others⟩ := List.forall_mem_cons.mp each
      exact andThen head (induction others)

theorem guarded (condition : State → Bool) (runs : Keeps invariant body) :
    Keeps invariant (Block.guarded condition body) := by
  intro state exit next holds ended
  unfold Block.guarded at ended
  split at ended
  · exact runs state exit next holds ended
  · cases ended
    exact holds

theorem handled {handler : Failure → Block State Value Failure} (runs : Keeps invariant body)
    (handles : ∀ failure, Keeps invariant (handler failure)) :
    Keeps invariant (Block.handled body handler) := by
  intro state exit next holds ended
  unfold Block.handled at ended
  split at ended
  · rename_i failure middle left
    exact handles failure middle exit next (runs state _ middle holds left) ended
  · exact runs state exit next holds ended

theorem lastly (runs : Keeps invariant body) (cleans : Keeps invariant cleanup) :
    Keeps invariant (Block.lastly body cleanup) := by
  intro state exit next holds ended
  unfold Block.lastly at ended
  split at ended
  · cases ended
  · rename_i left middle completed
    have between := runs state left middle holds completed
    split at ended
    · rename_i last finished
      cases ended
      exact cleans middle _ _ between finished
    · exact cleans middle exit next between ended

theorem loop (condition : State → Bool) (round : Keeps invariant body) (fuel : Nat) :
    Keeps invariant (Block.loop condition body fuel) := by
  induction fuel with
  | zero =>
      intro state exit next _ ended
      cases ended
  | succ fuel induction =>
      intro state exit next holds ended
      unfold Block.loop at ended
      split at ended
      · exact andThen round induction state exit next holds ended
      · cases ended
        exact holds

end Keeps

end Block

end KVTransferObservability.Library
