import KVTransferObservability.Decoding

/-!
# What the parts of a decoder accept

One lemma for each step the decoders are made of: which values it accepts, what it
makes of a written field, and which exceptions it can raise. The last section puts
them together for any record format.
-/

namespace KVTransferObservability.DecodingRules

open PythonValues Schema HostFacts Payload Decoding Library

set_option autoImplicit false

/-! ## Exceptions the decoders catch -/

def Caught : PyError → Prop
  | .keyError _ => True
  | .typeError _ => True
  | .valueError _ => True
  | _ => False

/-- The computation raises what the decoders catch, and otherwise only the
`RecursionError` of a lookup, on the condition `overflow`. -/
def OnlyCaught {Result : Type} (overflow : Prop) (computation : Py Result) : Prop :=
  ∀ error, computation = .error error →
    Caught error ∨ error = .raised "RecursionError" ∧ overflow

namespace OnlyCaught

variable {overflow : Prop}

theorem ok {Result : Type} (result : Result) : OnlyCaught overflow (.ok result) := by
  intro error raised
  cases raised

theorem error {Result : Type} {raised : PyError} (caught : Caught raised) :
    OnlyCaught overflow (.error raised : Py Result) := by
  intro error same
  cases same
  exact .inl caught

theorem ofValueErrors {Result : Type} {computation : Py Result}
    (only : OnlyValueErrors computation) : OnlyCaught overflow computation := by
  intro error raised
  obtain ⟨message, rfl⟩ := only error raised
  exact .inl trivial

theorem bind {First Second : Type} {computation : Py First} {next : First → Py Second}
    (first : OnlyCaught overflow computation) (second : ∀ value, OnlyCaught overflow (next value)) :
    OnlyCaught overflow (computation >>= next) := by
  intro error raised
  cases result : computation with
  | error other =>
      rw [result] at raised
      cases raised
      exact first _ result
  | ok value =>
      rw [result] at raised
      exact second value error raised

theorem bind_of {First Second : Type} {computation : Py First} {next : First → Py Second}
    (first : OnlyCaught overflow computation)
    (second : ∀ value, computation = .ok value → OnlyCaught overflow (next value)) :
    OnlyCaught overflow (computation >>= next) := by
  cases result : computation with
  | error other =>
      intro error raised
      cases raised
      exact first _ result
  | ok value => exact second value result

theorem map {First Second : Type} {computation : Py First} (change : First → Second)
    (first : OnlyCaught overflow computation) : OnlyCaught overflow (computation.map change) := by
  intro error raised
  cases result : computation with
  | error other =>
      rw [result] at raised
      cases raised
      exact first _ result
  | ok value =>
      rw [result] at raised
      cases raised

theorem mapM {Item Result : Type} {read : Item → Py Result} (items : List Item)
    (every : ∀ item ∈ items, OnlyCaught overflow (read item)) :
    OnlyCaught overflow (items.mapM read) := by
  induction items with
  | nil => exact ok []
  | cons item items induction =>
      rw [List.mapM_cons]
      apply bind (every item List.mem_cons_self)
      intro first
      apply bind (induction fun other member => every other (List.mem_cons_of_mem item member))
      intro rest
      exact ok (first :: rest)

theorem raiseIf (condition : Bool) (message : String) :
    OnlyCaught overflow (PythonValues.raiseIf condition message) :=
  ofValueErrors (OnlyValueErrors.raiseIf condition message)

theorem optional {Checked : Type} (value : PyObject) {check : PyObject → Py Checked}
    (checked : ∀ object, OnlyCaught overflow (check object)) :
    OnlyCaught overflow (PythonValues.optional value check) := by
  cases value <;> first | exact ok _ | exact map some (checked _)

theorem weaken {weaker : Prop} {Result : Type} {computation : Py Result}
    (implied : overflow → weaker) (only : OnlyCaught overflow computation) :
    OnlyCaught weaker computation := by
  intro error raised
  rcases only error raised with caught | ⟨isRecursion, deep⟩
  · exact .inl caught
  · exact .inr ⟨isRecursion, implied deep⟩

end OnlyCaught

/-- What is left of the exceptions once they have been caught. -/
def ValueErrorsUnless {Result : Type} (overflow : Prop) (computation : Py Result) : Prop :=
  ∀ error, computation = .error error →
    (∃ message, error = .valueError message) ∨ error = .raised "RecursionError" ∧ overflow

namespace ValueErrorsUnless

variable {overflow : Prop}

theorem ofValueErrors {Result : Type} {computation : Py Result}
    (only : OnlyValueErrors computation) : ValueErrorsUnless overflow computation := by
  intro error raised
  exact .inl (only error raised)

theorem bind_of {First Second : Type} {computation : Py First} {next : First → Py Second}
    (first : ValueErrorsUnless overflow computation)
    (second : ∀ value, computation = .ok value → ValueErrorsUnless overflow (next value)) :
    ValueErrorsUnless overflow (computation >>= next) := by
  cases result : computation with
  | error other =>
      intro error raised
      cases raised
      exact first _ result
  | ok value => exact second value result

theorem map {First Second : Type} {computation : Py First} (change : First → Second)
    (first : ValueErrorsUnless overflow computation) :
    ValueErrorsUnless overflow (computation.map change) := by
  intro error raised
  cases result : computation with
  | error other =>
      rw [result] at raised
      cases raised
      exact first _ result
  | ok value =>
      rw [result] at raised
      cases raised

theorem weaken {weaker : Prop} {Result : Type} {computation : Py Result}
    (implied : overflow → weaker) (only : ValueErrorsUnless overflow computation) :
    ValueErrorsUnless weaker computation := by
  intro error raised
  rcases only error raised with isValue | ⟨isRecursion, deep⟩
  · exact .inl isValue
  · exact .inr ⟨isRecursion, implied deep⟩

theorem onlyValueErrors {Result : Type} {computation : Py Result} (fits : ¬ overflow)
    (only : ValueErrorsUnless overflow computation) : OnlyValueErrors computation := by
  intro error raised
  rcases only error raised with isValue | ⟨_, deep⟩
  · exact isValue
  · exact absurd deep fits

theorem outcome {Result : Type} {computation : Py Result}
    (only : ValueErrorsUnless overflow computation) :
    (∃ value, computation = .ok value) ∨
      (∃ message, computation = .error (.valueError message)) ∨
        computation = .error (.raised "RecursionError") ∧ overflow := by
  cases result : computation with
  | ok value => exact .inl ⟨value, rfl⟩
  | error raised =>
      right
      rcases only raised result with ⟨message, rfl⟩ | ⟨rfl, deep⟩
      · exact .inl ⟨message, rfl⟩
      · exact .inr ⟨rfl, deep⟩

end ValueErrorsUnless

section

variable {overflow : Prop}

theorem closing_ok_iff {Result : Type} (message : String) (computation : Py Result)
    (result : Result) : closing message computation = .ok result ↔ computation = .ok result := by
  cases computation with
  | ok value => rfl
  | error raised => cases raised <;> simp [closing]

theorem closing_errors {Result : Type} (message : String) {computation : Py Result}
    (only : OnlyCaught overflow computation) :
    ValueErrorsUnless overflow (closing message computation) := by
  cases computation with
  | ok value => exact .ofValueErrors (OnlyValueErrors.ok value)
  | error raised =>
      rcases only raised rfl with caught | ⟨rfl, deep⟩
      · cases raised with
        | keyError _ => exact .ofValueErrors (OnlyValueErrors.valueError message)
        | typeError _ => exact .ofValueErrors (OnlyValueErrors.valueError message)
        | valueError _ => exact .ofValueErrors (OnlyValueErrors.valueError message)
        | attributeError _ => cases caught
        | raised _ => cases caught
      · intro error same
        cases same
        exact .inr ⟨rfl, deep⟩

theorem as_object_ok_iff (value : Value) (fields : Fields) :
    asObject value = .ok fields ↔ value = .object fields := by
  cases value <;> simp [asObject]

theorem as_object_errors (value : Value) : OnlyValueErrors (asObject value) := by
  cases value with
  | object fields => exact OnlyValueErrors.ok fields
  | scalar _ => exact OnlyValueErrors.valueError _
  | array _ => exact OnlyValueErrors.valueError _

theorem item_caught (fields : Fields) (key : String) : OnlyCaught overflow (item fields key) := by
  unfold item
  split
  · exact OnlyCaught.ok _
  · exact OnlyCaught.error trivial

theorem item_ok_iff (fields : Fields) (key : String) (value : Value) :
    item fields key = .ok value ↔ fields.lookup key = some value := by
  unfold item
  cases fields.lookup key <;> simp

theorem required_argument_caught (fields : Fields) (key : String) :
    OnlyCaught overflow (requiredArgument fields key) := by
  unfold requiredArgument
  split
  · exact OnlyCaught.ok _
  · exact OnlyCaught.error trivial

theorem refuse_unexpected_caught (fields : Fields) (taken parameters : List String) :
    OnlyCaught overflow (refuseUnexpected fields taken parameters) := by
  unfold refuseUnexpected
  split
  · exact OnlyCaught.ok _
  · exact OnlyCaught.error trivial

theorem enum_member_caught {Member : Type} (python : Interpreter) (members : List Member)
    (value : Member → String) (content : Value)
    (deep : python.reprOverflows (toPython content) = true → overflow) :
    OnlyCaught overflow (enumMember python members value content) := by
  cases fits : python.reprOverflows (toPython content) with
  | false => exact OnlyCaught.ofValueErrors (python.enum_member_errors fits)
  | true =>
      intro error raised
      rw [enumMember, python.enum_member_overflows fits] at raised
      cases raised
      exact .inr ⟨rfl, deep fits⟩

end

/-- The text of a value under one of the keys recurses too deeply. -/
def Overflows (python : Interpreter) (keys : List String) (fields : Fields) : Prop :=
  ∃ key ∈ keys, ∃ value, fields.lookup key = some value ∧
    python.reprOverflows (toPython value) = true

theorem enum_argument_caught {Member : Type} (python : Interpreter) (members : List Member)
    (value : Member → String) {keys : List String} (fields : Fields) (name : String)
    (looked : name ∈ keys) :
    OnlyCaught (Overflows python keys fields) (enumArgument python members value fields name) := by
  unfold enumArgument
  split
  · rename_i content found
    apply OnlyCaught.map
    apply enum_member_caught
    intro deep
    exact ⟨name, looked, content, found, deep⟩
  · exact OnlyCaught.ok _

/-- `EnumClass(fields[name])`. -/
theorem enum_item_caught {Member : Type} (python : Interpreter) (members : List Member)
    (value : Member → String) {keys : List String} (fields : Fields) (name : String)
    (looked : name ∈ keys) (content : Value) (read : item fields name = .ok content) :
    OnlyCaught (Overflows python keys fields) (enumMember python members value content) := by
  apply enum_member_caught
  intro deep
  exact ⟨name, looked, content, (item_ok_iff fields name content).mp read, deep⟩

/-- Brackets around an empty array. -/
def nestedArray : Nat → Value
  | 0 => .array []
  | depth + 1 => .array [nestedArray depth]

theorem nested_array_python (depth : Nat) :
    toPython (nestedArray depth) = Interpreter.nestedList depth := by
  induction depth with
  | zero => rfl
  | succ depth induction =>
      simp only [nestedArray, Interpreter.nestedList, toPython, itemsToPython, induction]

theorem nested_array_unique (depth : Nat) : (nestedArray depth).UniqueKeys := by
  induction depth with
  | zero => exact .array (List.forall_mem_nil _)
  | succ depth induction => exact .array (List.forall_mem_singleton.mpr induction)

/-- An interpreter without the levels for it cannot print an array. -/
theorem nested_array_overflows (depth : Nat) :
    (Interpreter.limitedTo depth).reprOverflows (toPython (nestedArray depth)) = true := by
  rw [nested_array_python]
  exact Interpreter.nested_list_overflows depth

/-! ## Scalars -/

theorem to_python_str {value : Value} {content : String}
    (read : toPython value = .str content) : value = text content := by
  cases value with
  | scalar scalar =>
      cases scalar <;> simp [toPython] at read
      rw [read]
      rfl
  | array items => simp [toPython] at read
  | object fields => simp [toPython] at read

theorem to_python_int {value : Value} {number : Nat}
    (read : toPython value = .int number) : value = natural number := by
  cases value with
  | scalar scalar =>
      cases scalar <;> simp [toPython] at read
      rw [read]
      rfl
  | array items => simp [toPython] at read
  | object fields => simp [toPython] at read

theorem to_python_none {value : Value} (read : toPython value = .none) :
    value = .scalar .null := by
  cases value with
  | scalar scalar => cases scalar <;> simp [toPython] at read ⊢
  | array items => simp [toPython] at read
  | object fields => simp [toPython] at read

theorem equals_text_iff (value : Value) (content : String) :
    (toPython value).equalsText content = true ↔ value = text content := by
  constructor
  · intro equals
    cases value with
    | scalar scalar => cases scalar <;> simp_all [toPython, PyObject.equalsText, text]
    | array items => simp [toPython, PyObject.equalsText] at equals
    | object fields => simp [toPython, PyObject.equalsText] at equals
  · intro same
    simp [same, text, toPython, PyObject.equalsText]

theorem argument_equals_text_iff (fields : Fields) (key content : String) :
    (argument fields key).equalsText content = true ↔ fields.lookup key = some (text content) := by
  unfold argument
  cases found : fields.lookup key with
  | none => simp [PyObject.equalsText]
  | some value => simp [equals_text_iff]

theorem argument_of_lookup {Item : Type} {number : Item → Nat} {fields : Fields} {name : String}
    {content : Option Item}
    (found : fields.lookup name = content.map fun item => natural (number item)) :
    argument fields name = PyObject.ofOption (content.map number) := by
  unfold argument
  rw [found]
  cases content <;> rfl

theorem argument_str_of_lookup {fields : Fields} {name content : String}
    (found : fields.lookup name = some (text content)) :
    argument fields name = .str content := by
  unfold argument
  rw [found]
  rfl

theorem argument_str_plain {fields : Fields} {name content : String}
    (read : argument fields name = .str content) (value : Value)
    (found : fields.lookup name = some value) : Plain value := by
  unfold argument at read
  rw [found] at read
  rw [to_python_str read]
  exact text_plain content

theorem argument_int_of_lookup {fields : Fields} {name : String} {number : Nat}
    (found : fields.lookup name = some (natural number)) :
    argument fields name = .int number := by
  unfold argument
  rw [found]
  rfl

theorem argument_int_plain {fields : Fields} {name : String} {number : Nat}
    (read : argument fields name = .int number) (value : Value)
    (found : fields.lookup name = some value) : Plain value := by
  unfold argument at read
  rw [found] at read
  rw [to_python_int read]
  exact natural_plain number

theorem argument_plain {fields : Fields} {name : String} {content : Option Nat}
    (read : argument fields name = PyObject.ofOption content) (value : Value)
    (found : fields.lookup name = some value) : Plain value := by
  unfold argument at read
  rw [found] at read
  cases content with
  | none =>
      rw [to_python_none read]
      exact .scalar trivial
  | some number =>
      rw [to_python_int read]
      exact natural_plain number

theorem required_argument_str_plain {fields : Fields} {name content : String}
    (read : requiredArgument fields name = .ok (.str content)) (value : Value)
    (found : fields.lookup name = some value) : Plain value := by
  unfold requiredArgument at read
  rw [found] at read
  rw [to_python_str (Except.ok.inj read)]
  exact text_plain content

theorem required_argument_int_plain {fields : Fields} {name : String} {number : Nat}
    (read : requiredArgument fields name = .ok (.int number)) (value : Value)
    (found : fields.lookup name = some value) : Plain value := by
  unfold requiredArgument at read
  rw [found] at read
  rw [to_python_int (Except.ok.inj read)]
  exact natural_plain number

theorem required_argument_of_lookup {fields : Fields} {name : String} {value : Value}
    (found : fields.lookup name = some value) :
    requiredArgument fields name = .ok (toPython value) := by
  unfold requiredArgument
  rw [found]

/-! ## Enumerations -/

section

variable {python : Interpreter} {Member : Type} {members : List Member}
variable {value : Member → String}

theorem enum_member_sound {content : Value} {member : Member}
    (read : enumMember python members value content = .ok member) :
    content = text (value member) := by
  have located := (python.enum_member_ok_iff member).mp read
  have equals := List.find?_some (p := fun member => (toPython content).equalsText (value member))
    located
  exact (equals_text_iff content (value member)).mp equals

variable (python) in
theorem enum_member_complete
    (exact : ∀ member, memberOfValue members value (.str (value member)) = some member)
    (member : Member) : enumMember python members value (text (value member)) = .ok member :=
  (python.enum_member_ok_iff member).mpr (exact member)

theorem enum_argument_plain {fields : Fields} {name : String} {argument : Argument Member}
    (read : enumArgument python members value fields name = .ok argument) (content : Value)
    (found : fields.lookup name = some content) : Plain content := by
  unfold enumArgument at read
  rw [found] at read
  cases result : enumMember python members value content with
  | error _ =>
      simp only [result] at read
      cases read
  | ok member =>
      rw [enum_member_sound result]
      exact text_plain _

variable (python) in
theorem enum_argument_of_lookup
    (exact : ∀ member, memberOfValue members value (.str (value member)) = some member)
    {fields : Fields} {name : String} {content : Option Member}
    (found : fields.lookup name = content.map fun member => text (value member)) :
    enumArgument python members value fields name = .ok (Argument.ofOption content) := by
  unfold enumArgument
  rw [found]
  cases content with
  | none => rfl
  | some member =>
      simp only [Option.map_some, enum_member_complete python exact member]
      rfl

end

/-! ## Keywords -/

theorem refuse_unexpected_ok_iff (fields : Fields) (taken parameters : List String) :
    refuseUnexpected fields taken parameters = .ok () ↔
      ∀ key ∈ Json.keys fields, key ∈ taken ++ parameters := by
  unfold refuseUnexpected
  split
  · rename_i all
    simpa using all
  · rename_i notAll
    simpa using notAll

/-- An object is plain when no key is unexpected and every expected key holds a plain
value. -/
theorem plain_of_keywords {fields : Fields} {taken parameters : List String}
    (distinct : (Json.keys fields).Nodup)
    (expected : refuseUnexpected fields taken parameters = .ok ())
    (each : ∀ key ∈ taken ++ parameters, ∀ value, fields.lookup key = some value → Plain value) :
    Plain (.object fields) := by
  apply Json.Every.object
  intro entry member
  have known := (refuse_unexpected_ok_iff fields taken parameters).mp expected entry.1
    (List.mem_map_of_mem member)
  exact each entry.1 known entry.2 (Json.lookup_of_mem distinct member)

theorem found_plain {fields : Fields} {key : String} {value : Value}
    (found : fields.lookup key = some value) (plain : Plain value) (other : Value)
    (again : fields.lookup key = some other) : Plain other := by
  rw [found] at again
  cases again
  exact plain

theorem has_exactly_iff (fields : Fields) (names : List String) :
    hasExactly fields names = true ↔ ∀ key, key ∈ Json.keys fields ↔ key ∈ names := by
  simp only [hasExactly, Bool.and_eq_true, List.all_eq_true, List.contains_iff_mem]
  constructor
  · intro both key
    exact ⟨both.1 key, both.2 key⟩
  · intro every
    exact ⟨fun key => (every key).mp, fun key => (every key).mpr⟩

/-! ## Fields of a written payload -/

/-- Entries of two objects that are the same, under one key. -/
abbrev SameEntry (left right : Option Value) : Prop :=
  Json.EntryAgrees (fun first second => decide (first = second)) left right

theorem same_scalar {scalar : JsonScalar} {value : Value}
    (agree : same (.scalar scalar) value = true) : value = .scalar scalar := by
  cases value with
  | scalar other =>
      have identical : scalar = other := of_decide_eq_true agree
      rw [identical]
  | array items => cases agree
  | object fields => cases agree

theorem same_array {items : List Value} {value : Value} (agree : same (.array items) value = true) :
    ∃ others, value = .array others ∧
      List.Forall₂ (fun left right => same left right = true) items others := by
  cases value with
  | scalar other => cases agree
  | object fields => cases agree
  | array others => exact ⟨others, rfl, (Json.items_agree_iff items others).mp agree⟩

theorem same_object {entries : Fields} {value : Value} (distinct : (Json.keys entries).Nodup)
    (unique : value.UniqueKeys) (agree : same (.object entries) value = true) :
    ∃ fields, value = .object fields ∧ (Json.keys fields).Nodup ∧
      ∀ key, SameEntry (entries.lookup key) (fields.lookup key) := by
  cases unique with
  | scalar _ => cases agree
  | array _ => cases agree
  | @object fields distinctFields _ =>
      refine ⟨fields, rfl, distinctFields, ?_⟩
      exact (Json.object_agrees_iff entries fields distinct distinctFields).mp agree

theorem same_keys {entries fields : Fields}
    (agree : ∀ key, SameEntry (entries.lookup key) (fields.lookup key)) (key : String) :
    key ∈ Json.keys fields ↔ key ∈ Json.keys entries := by
  have both := agree key
  rw [Json.mem_keys_iff, Json.mem_keys_iff]
  cases first : entries.lookup key <;> cases second : fields.lookup key
  · simp
  · rw [first, second] at both
    cases both
  · rw [first, second] at both
    cases both
  · simp

theorem same_present {table : List (String × Option Value)} {fields : Fields}
    (distinct : (table.map Prod.fst).Nodup) (unique : Json.UniqueKeys (.object fields))
    (agree : same (.object (Json.present table)) (.object fields) = true) (key : String) :
    SameEntry (table.lookup key).join (fields.lookup key) := by
  obtain ⟨others, identical, _, pointwise⟩ :=
    same_object (Json.present_distinct distinct) unique agree
  cases identical
  rw [← Json.lookup_present distinct key]
  exact pointwise key

/-- A written object has no key beyond its table's. -/
theorem expected_of_table {table : List (String × Option Value)} {fields : Fields}
    {taken parameters : List String}
    (agree : ∀ key, SameEntry (table.lookup key).join (fields.lookup key))
    (known : ∀ key ∈ table.map Prod.fst, key ∈ taken ++ parameters) :
    refuseUnexpected fields taken parameters = .ok () := by
  rw [refuse_unexpected_ok_iff]
  intro key member
  obtain ⟨value, found⟩ := (Json.mem_keys_iff fields key).mp member
  have both := agree key
  rw [found] at both
  cases located : table.lookup key with
  | none =>
      rw [located] at both
      cases both
  | some content =>
      obtain ⟨before, after, split, _⟩ := List.lookup_eq_some_iff.mp located
      apply known key
      rw [split]
      simp

/-- Values written without nested objects are read back literally. -/
def Flat {Item : Type} (write : Item → Value) : Prop :=
  ∀ item value, same (write item) value = true → value = write item

theorem text_flat {Item : Type} (content : Item → String) :
    Flat fun item => text (content item) := by
  intro item value agree
  exact same_scalar agree

theorem natural_flat {Item : Type} (number : Item → Nat) :
    Flat fun item => natural (number item) := by
  intro item value agree
  exact same_scalar agree

section

variable {Item : Type} {write : Item → Value}

theorem lookup_some (flat : Flat write) {item : Item} {found : Option Value}
    (agree : SameEntry (some (write item)) found) : found = some (write item) := by
  cases found with
  | none => cases agree
  | some value => rw [flat item value agree]

theorem lookup_agrees {left : Value} {found : Option Value} (agree : SameEntry (some left) found) :
    ∃ value, found = some value ∧ same left value = true := by
  cases found with
  | none => cases agree
  | some value => exact ⟨value, rfl, agree⟩

theorem lookup_map (flat : Flat write) {content : Option Item} {found : Option Value}
    (agree : SameEntry (content.map write) found) : found = content.map write := by
  cases content with
  | some item => exact lookup_some flat agree
  | none =>
      cases found with
      | none => rfl
      | some value => cases agree

theorem lookup_none {found : Option Value} (agree : SameEntry none found) : found = none := by
  cases found with
  | none => rfl
  | some value => cases agree

theorem lookup_text {content : String} {found : Option Value}
    (agree : SameEntry (some (text content)) found) : found = some (text content) :=
  lookup_some (text_flat fun content : String => content) agree

theorem lookup_natural {number : Nat} {found : Option Value}
    (agree : SameEntry (some (natural number)) found) : found = some (natural number) :=
  lookup_some (natural_flat fun number : Nat => number) agree

theorem items_flat (flat : Flat write) {items : List Item} {others : List Value}
    (related : List.Forall₂ (fun left right => same left right = true) (items.map write) others) :
    others = items.map write := by
  rw [List.forall₂_map_left_iff] at related
  induction related with
  | nil => rfl
  | cons first _ induction => rw [List.map_cons, flat _ _ first, induction]

theorem lookup_nonempty (flat : Flat write) {items : List Item} {found : Option Value}
    (agree : SameEntry (nonempty write items) found) : found = nonempty write items := by
  unfold nonempty at agree ⊢
  split at agree
  · rename_i empty
    rw [if_pos empty]
    exact lookup_none agree
  · rename_i filled
    rw [if_neg filled]
    cases found with
    | none => cases agree
    | some value =>
        obtain ⟨others, rfl, related⟩ := same_array agree
        rw [items_flat flat related]

end

theorem map_m_complete {Item Result : Type} {read : Item → Py Result} {results : List Result}
    {items : List Item}
    (related : List.Forall₂ (fun result item => read item = .ok result) results items) :
    items.mapM read = .ok results := by
  induction related with
  | nil => rfl
  | cons first _ induction =>
      rw [List.mapM_cons, first, induction]
      rfl

theorem map_m_each {Item Result : Type} {read : Item → Py Result} {results : List Result}
    {items : List Item} (success : items.mapM read = .ok results) :
    ∀ item ∈ items, ∃ result, read item = .ok result := by
  induction items generalizing results with
  | nil =>
      intro item member
      cases member
  | cons first rest induction =>
      rw [List.mapM_cons] at success
      obtain ⟨result, readFirst, success⟩ := bind_eq_ok.mp success
      obtain ⟨others, readRest, _⟩ := bind_eq_ok.mp success
      intro item member
      rcases List.mem_cons.mp member with rfl | later
      · exact ⟨result, readFirst⟩
      · exact induction readRest item later

/-! ## Record formats -/

/-- What makes a format exact: it reads everything that it writes and nothing but
strings, integers and null, so that Python's comparison at the end decides. `overflows`
says when a lookup can end in a `RecursionError`. -/
structure Lawful {Record : Type} (format : RecordFormat Record) (overflows : Fields → Prop) :
    Prop where
  written : ∀ record, Written (format.toPayload record)
  object : ∀ record, ∃ entries, format.toPayload record = .object entries
  sound : ∀ fields record, Json.UniqueKeys (.object fields) → format.admits fields = true →
    format.read fields = .ok record → Plain (.object fields)
  complete : ∀ fields record, Json.UniqueKeys (.object fields) →
    same (format.toPayload record) (.object fields) = true →
    format.admits fields = true ∧ format.read fields = .ok record
  caught : ∀ fields, OnlyCaught (overflows fields) (format.read fields)

theorem from_payload_steps {Record : Type} {format : RecordFormat Record} {payload : Value}
    {record : Record} (success : format.fromPayload payload = .ok record) :
    ∃ fields, payload = .object fields ∧ format.admits fields = true ∧
      format.read fields = .ok record ∧ equal (format.toPayload record) payload = true := by
  obtain ⟨fields, isObject, success⟩ := bind_eq_ok.mp success
  obtain ⟨admitted, success⟩ := (raise_if_bind_ok _ _ _ _).mp success
  obtain ⟨result, closed, success⟩ := bind_eq_ok.mp success
  obtain ⟨agree, success⟩ := (raise_if_bind_ok _ _ _ _).mp success
  cases success
  rw [as_object_ok_iff] at isObject
  rw [Bool.not_eq_false'] at admitted agree
  rw [closing_ok_iff] at closed
  exact ⟨fields, isObject, admitted, closed, agree⟩

/-- What is not caught leaves the decoder. -/
theorem from_payload_raises {Record : Type} {format : RecordFormat Record} {fields : Fields}
    {name : String} (admitted : format.admits fields = true)
    (read : format.read fields = .error (.raised name)) :
    format.fromPayload (.object fields) = .error (.raised name) := by
  simp only [RecordFormat.fromPayload, asObject, admitted, read, closing, bind, Except.bind,
    raiseIf, Bool.not_true, Bool.false_eq_true, if_false]

section

variable {Record : Type} {format : RecordFormat Record} {overflows : Fields → Prop}
variable (lawful : Lawful format overflows)

include lawful

theorem from_payload_plain {payload : Value} (unique : payload.UniqueKeys) {record : Record}
    (success : format.fromPayload payload = .ok record) : Plain payload := by
  obtain ⟨fields, rfl, admitted, read, _⟩ := from_payload_steps success
  exact lawful.sound fields record unique admitted read

theorem from_payload_iff (payload : Value) (unique : payload.UniqueKeys) (record : Record) :
    format.fromPayload payload = .ok record ↔
      same (format.toPayload record) payload = true := by
  constructor
  · intro success
    obtain ⟨_, _, _, _, agree⟩ := from_payload_steps success
    exact same_of_equal (lawful.written record).plain (from_payload_plain lawful unique success)
      agree
  · intro agree
    obtain ⟨entries, shape⟩ := lawful.object record
    have isObject : ∃ fields, payload = .object fields := by
      rw [shape] at agree
      cases payload with
      | scalar _ => cases agree
      | array _ => cases agree
      | object fields => exact ⟨fields, rfl⟩
    obtain ⟨fields, rfl⟩ := isObject
    obtain ⟨admitted, success⟩ := lawful.complete fields record unique agree
    apply bind_eq_ok.mpr
    refine ⟨fields, rfl, ?_⟩
    rw [raise_if_bind_ok, admitted]
    refine ⟨rfl, ?_⟩
    rw [success]
    change (raiseIf _ _ >>= _) = _
    rw [raise_if_bind_ok, equal_of_same agree]
    exact ⟨rfl, rfl⟩

theorem from_payload_errors (payload : Value) :
    ValueErrorsUnless
      (∃ fields, payload = .object fields ∧ format.admits fields = true ∧ overflows fields)
      (format.fromPayload payload) := by
  apply ValueErrorsUnless.bind_of (.ofValueErrors (as_object_errors payload))
  intro fields isObject
  apply ValueErrorsUnless.bind_of (.ofValueErrors (OnlyValueErrors.raiseIf _ _))
  intro _ admitted
  rw [raise_if_ok, Bool.not_eq_false'] at admitted
  have within : overflows fields →
      ∃ fields, payload = .object fields ∧ format.admits fields = true ∧ overflows fields :=
    fun deep => ⟨fields, (as_object_ok_iff payload fields).mp isObject, admitted, deep⟩
  apply ValueErrorsUnless.bind_of
    (closing_errors _ (OnlyCaught.weaken within (lawful.caught fields)))
  intro record _
  apply ValueErrorsUnless.ofValueErrors
  apply OnlyValueErrors.bind (OnlyValueErrors.raiseIf _ _)
  intro _
  exact OnlyValueErrors.ok record

end

end KVTransferObservability.DecodingRules
