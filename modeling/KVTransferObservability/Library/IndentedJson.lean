import KVTransferObservability.Library.JsonText

/-!
# Indented JSON text

The layout of `indent=2`: every item of an array and every entry of an object, the
entries in the order of their keys, on a line of its own. The length of a text is a sum
over the parts, whatever their order.
-/

namespace KVTransferObservability.Library.IndentedJson

open JsonText

set_option autoImplicit false

/-- The break before an item of the level. -/
def lineBreak (level : Nat) : List Char := '\n' :: List.replicate (2 * level) ' '

def joined (separator : List Char) : List (List Char) → List Char
  | [] => []
  | [part] => part
  | part :: rest => part ++ separator ++ joined separator rest

/-- The parts between two brackets, one level further in; without parts the brackets
stand together. -/
def bracketed (opening closing : Char) (level : Nat) : List (List Char) → List Char
  | [] => [opening, closing]
  | part :: rest =>
      opening :: lineBreak (level + 1) ++ joined (',' :: lineBreak (level + 1)) (part :: rest) ++
        lineBreak level ++ [closing]

def entryLine (entry : String × List Char) : List Char := quoted entry.1 ++ ':' :: ' ' :: entry.2

section

variable {Scalar : Type} (scalarText : Scalar → List Char)

mutual

def layout (level : Nat) : Json Scalar → List Char
  | .scalar value => scalarText value
  | .array items => bracketed '[' ']' level (layoutItems (level + 1) items)
  | .object entries =>
      bracketed '{' '}' level ((sortedByKey (layoutEntries (level + 1) entries)).map entryLine)

def layoutItems (level : Nat) : List (Json Scalar) → List (List Char)
  | [] => []
  | item :: rest => layout level item :: layoutItems level rest

def layoutEntries (level : Nat) : Json.Entries Scalar → List (String × List Char)
  | [] => []
  | (key, value) :: rest => (key, layout level value) :: layoutEntries level rest

end

theorem layout_items_eq (level : Nat) (items : List (Json Scalar)) :
    layoutItems scalarText level items = items.map (layout scalarText level) := by
  induction items with
  | nil => rfl
  | cons item rest induction => rw [layoutItems, induction, List.map_cons]

theorem layout_entries_eq (level : Nat) (entries : Json.Entries Scalar) :
    layoutEntries scalarText level entries =
      entries.map fun entry => (entry.1, layout scalarText level entry.2) := by
  induction entries with
  | nil => rfl
  | cons entry rest induction => rw [layoutEntries, induction, List.map_cons]

end

/-! ## Lengths -/

theorem line_break_length (level : Nat) : (lineBreak level).length = 2 * level + 1 := by
  rw [lineBreak, List.length_cons, List.length_replicate]

theorem joined_length (separator : List Char) (part : List Char) (rest : List (List Char)) :
    (joined separator (part :: rest)).length =
      ((part :: rest).map List.length).sum + rest.length * separator.length := by
  induction rest generalizing part with
  | nil => simp [joined]
  | cons next rest induction =>
      rw [joined, List.length_append, List.length_append, induction]
      · simp only [List.map_cons, List.sum_cons, List.length_cons, Nat.succ_mul]
        omega
      · simp

/-- The brackets, the parts and a separator's length for each of them. -/
theorem bracketed_length_le (opening closing : Char) (level : Nat) (parts : List (List Char)) :
    (bracketed opening closing level parts).length ≤
      (parts.map List.length).sum + parts.length * (2 * level + 4) + (2 * level + 3) := by
  cases parts with
  | nil =>
      change 2 ≤ _
      omega
  | cons part rest =>
      have parted := joined_length (',' :: lineBreak (level + 1)) part rest
      have separator : (',' :: lineBreak (level + 1)).length = 2 * level + 4 := by
        rw [List.length_cons, line_break_length]
        omega
      rw [separator] at parted
      rw [bracketed, List.length_append, List.length_append, List.cons_append, List.length_cons,
        List.length_append, parted, line_break_length, line_break_length, List.length_singleton,
        List.length_cons, Nat.succ_mul rest.length]
      omega

section

variable {Scalar : Type} (scalarText : Scalar → List Char)

theorem layout_array_length_le (level : Nat) (items : List (Json Scalar)) :
    (layout scalarText level (.array items)).length ≤
      (items.map fun item => (layout scalarText (level + 1) item).length).sum +
        items.length * (2 * level + 4) + (2 * level + 3) := by
  rw [layout, layout_items_eq]
  have bound := bracketed_length_le '[' ']' level (items.map (layout scalarText (level + 1)))
  rw [List.map_map, List.length_map] at bound
  exact bound

theorem layout_object_length_le (level : Nat) (entries : Json.Entries Scalar) :
    (layout scalarText level (.object entries)).length ≤
      (entries.map fun entry =>
        (quoted entry.1).length + 2 + (layout scalarText (level + 1) entry.2).length).sum +
        entries.length * (2 * level + 4) + (2 * level + 3) := by
  have permutation : (sortedByKey (layoutEntries scalarText (level + 1) entries)).Perm
      (entries.map fun entry => (entry.1, layout scalarText (level + 1) entry.2)) := by
    rw [← layout_entries_eq]
    exact List.perm_insertionSort _ _
  have lengths : (((sortedByKey (layoutEntries scalarText (level + 1) entries)).map
      entryLine).map List.length).sum = (entries.map fun entry =>
        (quoted entry.1).length + 2 + (layout scalarText (level + 1) entry.2).length).sum := by
    rw [((permutation.map entryLine).map List.length).sum_nat, List.map_map, List.map_map]
    congr 1
    apply List.map_congr_left
    intro entry _
    simp only [Function.comp, entryLine, List.length_append, List.length_cons]
    omega
  have counts : (sortedByKey (layoutEntries scalarText (level + 1) entries)).length =
      entries.length := by
    rw [permutation.length_eq, List.length_map]
  have bound := bracketed_length_le '{' '}' level
    ((sortedByKey (layoutEntries scalarText (level + 1) entries)).map entryLine)
  rw [lengths, List.length_map, counts] at bound
  rw [layout]
  exact bound

end

end KVTransferObservability.Library.IndentedJson
