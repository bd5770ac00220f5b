import Mathlib.Algebra.Ring.Nat
import Mathlib.Data.List.Basic
import Mathlib.Data.Int.Basic
import Mathlib.Data.List.Dedup
import Mathlib.Data.List.Sort
import Mathlib.Order.Defs.LinearOrder

/-!
# Python values that reach the plugin untyped

Host records, constructor arguments and decoded JSON are ordinary Python
objects until a constructor has checked them. `PyObject` keeps what those checks
can tell apart, `Argument` is a constructor argument that may or may not be an
instance of the class asked for, and `Py` is a computation that may raise.
-/

namespace KVTransferObservability.PythonValues

set_option autoImplicit false

/-- `raised` stands for every exception class the plugin does not name. -/
inductive PyError
  | valueError (message : String)
  | typeError (message : String)
  | attributeError (message : String)
  | keyError (message : String)
  | raised (message : String)
  deriving DecidableEq, Repr

abbrev Py := Except PyError

/-- A float is only ever compared with integers, so `float` keeps the integer it
is equal to, if there is one. Dictionaries are looked into only when they come
from JSON, where keys are strings. `member` is a member of a string enumeration,
equal to its text though not a plain `str`. `object` is any other object: whether
its class leaves it a hash, and its `value` attribute if it has one. -/
inductive PyObject
  | none
  | bool (flag : Bool)
  | int (number : Int)
  | float (whole : Option Int)
  | str (text : String)
  | list (items : List PyObject)
  | tuple (items : List PyObject)
  | dict (entries : List (String × PyObject))
  | member (text : String)
  | object (hasHash : Bool) (value : Option PyObject)

namespace PyObject

/-- `getattr(value, "value", None)`. -/
def valueAttribute : PyObject → PyObject
  | .member text => .str text
  | .object _ (some value) => value
  | _ => .none

/-- `value is True`. -/
def isTrue : PyObject → Bool
  | .bool true => true
  | _ => false

/-- A Python `None` for an absent optional integer. -/
def ofOption : Option Nat → PyObject
  | Option.none => .none
  | some number => .int number

mutual

def hashable : PyObject → Bool
  | .list _ => false
  | .dict _ => false
  | .tuple items => allHashable items
  | .object hasHash _ => hasHash
  | _ => true

def allHashable : List PyObject → Bool
  | [] => true
  | item :: rest => hashable item && allHashable rest

end

/-- The integer a value is equal to: `True == 1` and `2.0 == 2` hold in Python. -/
def equalInteger : PyObject → Option Int
  | .int number => some number
  | .bool flag => some (if flag then 1 else 0)
  | .float whole => whole
  | _ => Option.none

/-- The key under which a dictionary with integer keys is searched; hashing a
list, a dictionary or an object without a hash raises instead. -/
def integerKey (value : PyObject) : Py (Option Int) :=
  if value.hashable then .ok value.equalInteger
  else .error (.typeError "unhashable type")

/-- `value == text` for a string `text`. -/
def equalsText (value : PyObject) (text : String) : Bool :=
  match value with
  | .str other => other == text
  | .member other => other == text
  | _ => false

/-- `value == number` for an integer `number`. -/
def equalsNat (value : PyObject) (number : Nat) : Bool :=
  value.equalInteger == some (number : Int)

/-- The text of a container or of an object may hold the texts of others. -/
def nests : PyObject → Bool
  | .list _ => true
  | .tuple _ => true
  | .dict _ => true
  | .object _ _ => true
  | _ => false

mutual

/-- The levels `repr(value)` goes through, where the text of an object holds that of its
`value`. -/
def nesting : PyObject → Nat
  | .list items => itemsNesting items + 1
  | .tuple items => itemsNesting items + 1
  | .dict entries => entriesNesting entries + 1
  | .object _ (some value) => nesting value + 1
  | .object _ Option.none => 1
  | _ => 0

def itemsNesting : List PyObject → Nat
  | [] => 0
  | item :: rest => max (nesting item) (itemsNesting rest)

def entriesNesting : List (String × PyObject) → Nat
  | [] => 0
  | (_, item) :: rest => max (nesting item) (entriesNesting rest)

end

end PyObject

/-- What the recursion limit does to a program that formats values: the values whose
`repr` exceeds it. The text of a plain value holds no other text. -/
structure Interpreter where
  reprOverflows : PyObject → Bool
  plainFits : ∀ value, value.nests = false → reprOverflows value = false

namespace Interpreter

def unlimited : Interpreter := ⟨fun _ => false, fun _ _ => rfl⟩

theorem plain_nesting (value : PyObject) (plain : value.nests = false) : value.nesting = 0 := by
  cases value <;> first | rfl | cases plain

/-- An interpreter that has `depth` levels left. -/
def limitedTo (depth : Nat) : Interpreter where
  reprOverflows value := decide (depth < value.nesting)
  plainFits value plain := by
    rw [plain_nesting value plain]
    exact decide_eq_false (Nat.not_lt_zero depth)

/-- Brackets around an empty list. -/
def nestedList : Nat → PyObject
  | 0 => .list []
  | depth + 1 => .list [nestedList depth]

theorem nested_list_nesting (depth : Nat) : (nestedList depth).nesting = depth + 1 := by
  induction depth with
  | zero => rfl
  | succ depth induction =>
      simp only [nestedList, PyObject.nesting, PyObject.itemsNesting, induction]
      omega

theorem nested_list_overflows (depth : Nat) :
    (Interpreter.limitedTo depth).reprOverflows (nestedList depth) = true := by
  apply decide_eq_true
  rw [nested_list_nesting]
  exact Nat.lt_succ_self depth

end Interpreter

/-- The member of a string enumeration with the given value. -/
def memberOfValue {Member : Type} (members : List Member) (text : Member → String)
    (value : PyObject) : Option Member :=
  members.find? fun member => value.equalsText (text member)

/-- `EnumClass(value)`. The `ValueError` of an unknown value is made with its `repr`, so
that a value nested too deeply raises `RecursionError` instead. -/
def Interpreter.enumMember {Member : Type} (python : Interpreter) (members : List Member)
    (text : Member → String) (value : PyObject) : Py Member :=
  match memberOfValue members text value with
  | some member => .ok member
  | none =>
      if python.reprOverflows value then .error (.raised "RecursionError")
      else .error (.valueError "not a valid member")

/-- A constructor argument: an instance of the expected class, or anything else. -/
inductive Argument (Expected : Type)
  | typed (value : Expected)
  | other (object : PyObject)

namespace Argument

variable {Expected : Type}

def ofOption : Option Expected → Argument Expected
  | none => .other .none
  | some value => .typed value

/-- `if type(argument) is not Expected: raise ValueError(message)`. -/
def expect (argument : Argument Expected) (message : String) : Py Expected :=
  match argument with
  | .typed value => .ok value
  | .other _ => .error (.valueError message)

/-- The same check guarded by `argument is not None`. -/
def expectOptional (argument : Argument Expected) (message : String) :
    Py (Option Expected) :=
  match argument with
  | .typed value => .ok (some value)
  | .other .none => .ok none
  | .other _ => .error (.valueError message)

@[simp] theorem expect_typed (value : Expected) (message : String) :
    (Argument.typed value).expect message = .ok value := rfl

@[simp] theorem expect_optional_of_option (value : Option Expected) (message : String) :
    (Argument.ofOption value).expectOptional message = .ok value := by
  cases value <;> rfl

end Argument

/-- `if condition: raise ValueError(message)`. -/
def raiseIf (condition : Bool) (message : String) : Py Unit :=
  if condition then .error (.valueError message) else .ok ()

@[simp] theorem raise_if_bind_ok {Result : Type} (condition : Bool) (message : String)
    (next : Unit → Py Result) (result : Result) :
    ((raiseIf condition message >>= next) = .ok result) ↔
      condition = false ∧ next () = .ok result := by
  cases condition <;> simp [raiseIf, bind, Except.bind]

@[simp] theorem raise_if_ok (condition : Bool) (message : String) :
    (raiseIf condition message = .ok ()) ↔ condition = false := by
  cases condition <;> simp [raiseIf]

/-- The steps of a computation that returned. -/
theorem bind_eq_ok {First Second : Type} {computation : Py First} {next : First → Py Second}
    {result : Second} :
    (computation >>= next) = .ok result ↔
      ∃ value, computation = .ok value ∧ next value = .ok result := by
  cases computation with
  | error error => simp [bind, Except.bind]
  | ok value => simp [bind, Except.bind]

/-- Where a computation that raised was left. -/
theorem bind_eq_error {First Second : Type} {computation : Py First} {next : First → Py Second}
    {error : PyError} :
    (computation >>= next) = .error error ↔
      computation = .error error ∨
        ∃ value, computation = .ok value ∧ next value = .error error := by
  cases computation with
  | error other => simp [bind, Except.bind]
  | ok value => simp [bind, Except.bind]

/-- `if value is not None: check(value)`. -/
def optional {Checked : Type} (value : PyObject) (check : PyObject → Py Checked) :
    Py (Option Checked) :=
  match value with
  | .none => .ok none
  | value => (check value).map some

def uint32Max : Nat := 2 ^ 32 - 1
def uint64Max : Nat := 2 ^ 64 - 1

abbrev Uint (maximum : Nat) := { number : Nat // number ≤ maximum }
abbrev PositiveUint (maximum : Nat) := { number : Nat // 0 < number ∧ number ≤ maximum }

/-- `type(value) is int and 0 <= value <= maximum`. -/
def checkUint (value : PyObject) (maximum : Nat) (message : String) : Py (Uint maximum) :=
  match value with
  | .int number =>
      if bounded : 0 ≤ number ∧ number ≤ maximum then
        .ok ⟨number.toNat, by omega⟩
      else .error (.valueError message)
  | _ => .error (.valueError message)

/-- `type(value) is int and 0 < value <= maximum`. -/
def checkPositiveUint (value : PyObject) (maximum : Nat) (message : String) :
    Py (PositiveUint maximum) :=
  match value with
  | .int number =>
      if bounded : 0 < number ∧ number ≤ maximum then
        .ok ⟨number.toNat, by omega⟩
      else .error (.valueError message)
  | _ => .error (.valueError message)

theorem check_uint_nat (number maximum : Nat) (message : String) (bounded : number ≤ maximum) :
    checkUint (.int number) maximum message = .ok ⟨number, bounded⟩ := by
  have inRange : (0 : Int) ≤ number ∧ (number : Int) ≤ maximum := by omega
  simp only [checkUint, dif_pos inRange, Int.toNat_natCast]

@[simp] theorem check_uint_value {maximum : Nat} (number : Uint maximum) (message : String) :
    checkUint (.int number.val) maximum message = .ok number :=
  check_uint_nat number.val maximum message number.property

theorem check_uint_sound {value : PyObject} {maximum : Nat} {message : String}
    {number : Uint maximum} (checked : checkUint value maximum message = .ok number) :
    value = .int number.val := by
  cases value with
  | int candidate =>
      simp only [checkUint] at checked
      split at checked
      · rename_i bounded
        have same := congrArg Subtype.val (Except.ok.inj checked)
        simp only at same
        rw [← same, Int.toNat_of_nonneg bounded.1]
      · cases checked
  | _ => cases checked

@[simp] theorem check_positive_uint_value {maximum : Nat} (number : PositiveUint maximum)
    (message : String) :
    checkPositiveUint (.int number.val) maximum message = .ok number := by
  have inRange : (0 : Int) < number.val ∧ (number.val : Int) ≤ maximum := by
    have bounds := number.property
    omega
  simp only [checkPositiveUint, dif_pos inRange, Int.toNat_natCast]

@[simp] theorem optional_of_option {Checked : Type} (value : Option Nat)
    (check : PyObject → Py Checked) :
    optional (PyObject.ofOption value) check =
      match value with
      | none => .ok none
      | some number => (check (.int number)).map some := by
  cases value <;> rfl

/-! ## Checks that raise nothing but `ValueError` -/

def OnlyValueErrors {Result : Type} (computation : Py Result) : Prop :=
  ∀ error, computation = .error error → ∃ message, error = .valueError message

namespace OnlyValueErrors

theorem ok {Result : Type} (result : Result) : OnlyValueErrors (.ok result) := by
  intro error raised
  cases raised

theorem valueError {Result : Type} (message : String) :
    OnlyValueErrors (.error (.valueError message) : Py Result) := by
  intro error raised
  cases raised
  exact ⟨message, rfl⟩

theorem bind {First Second : Type} {computation : Py First} {next : First → Py Second}
    (first : OnlyValueErrors computation) (second : ∀ value, OnlyValueErrors (next value)) :
    OnlyValueErrors (computation >>= next) := by
  intro error raised
  cases result : computation with
  | error other =>
      rw [result] at raised
      cases raised
      exact first _ result
  | ok value =>
      rw [result] at raised
      exact second value error raised

theorem bind_of {First Second : Type} {computation : Py First} {next : First → Py Second}
    (first : OnlyValueErrors computation)
    (second : ∀ value, computation = .ok value → OnlyValueErrors (next value)) :
    OnlyValueErrors (computation >>= next) := by
  cases result : computation with
  | error other =>
      intro error raised
      cases raised
      exact first _ result
  | ok value => exact second value result

theorem foldlM {State Item : Type} {step : State → Item → Py State}
    (every : ∀ state item, OnlyValueErrors (step state item)) (items : List Item)
    (state : State) : OnlyValueErrors (items.foldlM step state) := by
  induction items generalizing state with
  | nil => exact ok state
  | cons item items induction =>
      rw [List.foldlM_cons]
      exact bind (every state item) induction

theorem forM {Item : Type} {check : Item → Py Unit} (items : List Item)
    (every : ∀ item ∈ items, OnlyValueErrors (check item)) :
    OnlyValueErrors (items.forM check) := by
  induction items with
  | nil => exact ok ()
  | cons item items induction =>
      apply bind (every item List.mem_cons_self)
      intro _
      exact induction fun other member => every other (List.mem_cons_of_mem item member)

theorem mapM {Item Result : Type} {read : Item → Py Result}
    (every : ∀ item, OnlyValueErrors (read item)) (items : List Item) :
    OnlyValueErrors (items.mapM read) := by
  induction items with
  | nil => exact ok []
  | cons item items induction =>
      rw [List.mapM_cons]
      apply bind (every item)
      intro first
      apply bind induction
      intro rest
      exact ok (first :: rest)

theorem map {First Second : Type} {computation : Py First} (change : First → Second)
    (first : OnlyValueErrors computation) : OnlyValueErrors (computation.map change) := by
  intro error raised
  cases result : computation with
  | error other =>
      rw [result] at raised
      cases raised
      exact first _ result
  | ok value =>
      rw [result] at raised
      cases raised

theorem raiseIf (condition : Bool) (message : String) :
    OnlyValueErrors (PythonValues.raiseIf condition message) := by
  cases condition
  · exact ok ()
  · exact valueError message

theorem expect {Expected : Type} (argument : Argument Expected) (message : String) :
    OnlyValueErrors (argument.expect message) := by
  cases argument
  · exact ok _
  · exact valueError message

theorem expectOptional {Expected : Type} (argument : Argument Expected) (message : String) :
    OnlyValueErrors (argument.expectOptional message) := by
  cases argument with
  | typed value => exact ok _
  | other object => cases object <;> first | exact ok _ | exact valueError message

theorem optional {Checked : Type} (value : PyObject) {check : PyObject → Py Checked}
    (checked : ∀ object, OnlyValueErrors (check object)) :
    OnlyValueErrors (PythonValues.optional value check) := by
  cases value <;> first | exact ok _ | exact map some (checked _)

theorem checkUint (value : PyObject) (maximum : Nat) (message : String) :
    OnlyValueErrors (PythonValues.checkUint value maximum message) := by
  unfold PythonValues.checkUint
  split
  · split
    · exact ok _
    · exact valueError message
  · exact valueError message

theorem checkPositiveUint (value : PyObject) (maximum : Nat) (message : String) :
    OnlyValueErrors (PythonValues.checkPositiveUint value maximum message) := by
  unfold PythonValues.checkPositiveUint
  split
  · split
    · exact ok _
    · exact valueError message
  · exact valueError message

end OnlyValueErrors

/-! ## Members of an enumeration -/

namespace Interpreter

variable {Member : Type} {members : List Member} {text : Member → String} {value : PyObject}

theorem equals_text_plain {content : String} (same : value.equalsText content = true) :
    value.nests = false := by
  cases value <;> first | rfl | cases same

/-- A value with a text of its own is never a member, so that its lookup fails. -/
theorem enum_member_overflows (python : Interpreter)
    (overflows : python.reprOverflows value = true) :
    python.enumMember members text value = .error (.raised "RecursionError") := by
  unfold enumMember
  split
  · rename_i member found
    unfold memberOfValue at found
    have same := List.find?_some found
    have plain := equals_text_plain same
    rw [python.plainFits value plain] at overflows
    cases overflows
  · rw [if_pos overflows]

theorem enum_member_ok_iff (python : Interpreter) (member : Member) :
    python.enumMember members text value = .ok member ↔
      memberOfValue members text value = some member := by
  unfold enumMember
  split
  · rename_i other found
    rw [found, Except.ok.injEq, Option.some.injEq]
  · rename_i absent
    rw [absent]
    split <;> simp

theorem enum_member_errors (python : Interpreter)
    (fits : python.reprOverflows value = false) :
    OnlyValueErrors (python.enumMember members text value) := by
  unfold enumMember
  split
  · exact OnlyValueErrors.ok _
  · rw [fits]
    exact OnlyValueErrors.valueError _

end Interpreter

/-- `tuple(sorted(set(values))) == values`, for items compared through a key. -/
def sortedUnique {Item Key : Type} [DecidableEq Item] [LinearOrder Key] (key : Item → Key)
    (values : List Item) : Bool :=
  decide (values.dedup.insertionSort (fun left right => key left ≤ key right) = values)

theorem sorted_unique_nodup {Item Key : Type} [DecidableEq Item] [LinearOrder Key]
    (key : Item → Key) (values : List Item) (sorted : sortedUnique key values = true) :
    values.Nodup := by
  have equal := of_decide_eq_true sorted
  have permutation := List.perm_insertionSort (fun left right => key left ≤ key right) values.dedup
  rw [equal] at permutation
  exact permutation.nodup_iff.mpr values.nodup_dedup

end KVTransferObservability.PythonValues
