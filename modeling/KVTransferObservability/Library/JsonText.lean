import KVTransferObservability.Library.Json
import Mathlib.Algebra.Order.BigOperators.Group.List
import Mathlib.Algebra.Ring.Nat
import Mathlib.Algebra.Group.Action.Defs
import Mathlib.Data.List.Sort
import Mathlib.Order.Defs.LinearOrder
import Mathlib.Data.String.Basic

/-!
# Compact JSON text

The text of a tree without blanks, with the keys of every object in order and every
character outside printable ASCII escaped. Such a text is printable ASCII itself, so
it has no line break, and its length does not depend on the order of the entries.
-/

namespace KVTransferObservability.Library.JsonText

set_option autoImplicit false

/-- Printable ASCII. -/
def Visible (character : Char) : Prop :=
  0x20 ≤ character.toNat ∧ character.toNat ≤ 0x7e

instance (character : Char) : Decidable (Visible character) :=
  inferInstanceAs (Decidable (_ ∧ _))

def quote : Char := Char.ofNat 34
def backslash : Char := Char.ofNat 92

/-- `\uXXXX`, with lowercase hexadecimal digits. -/
def unicodeEscape (code : Nat) : List Char :=
  [backslash, 'u', Nat.digitChar (code / 4096 % 16), Nat.digitChar (code / 256 % 16),
    Nat.digitChar (code / 16 % 16), Nat.digitChar (code % 16)]

/-- A character inside a string. Beyond the basic plane it is written as a surrogate
pair. -/
def escaped (character : Char) : List Char :=
  match character.toNat with
  | 34 => [backslash, quote]
  | 92 => [backslash, backslash]
  | 8 => [backslash, 'b']
  | 9 => [backslash, 't']
  | 10 => [backslash, 'n']
  | 12 => [backslash, 'f']
  | 13 => [backslash, 'r']
  | code =>
      if 0x20 ≤ code ∧ code ≤ 0x7e then [character]
      else if code < 0x10000 then unicodeEscape code
      else unicodeEscape (0xd800 + (code - 0x10000) / 0x400) ++
        unicodeEscape (0xdc00 + (code - 0x10000) % 0x400)

def quoted (content : String) : List Char :=
  quote :: content.toList.flatMap escaped ++ [quote]

def integer (number : Int) : List Char :=
  if number < 0 then '-' :: Nat.toDigits 10 number.natAbs else Nat.toDigits 10 number.natAbs

/-- The parts with commas between them. -/
def separated : List (List Char) → List Char
  | [] => []
  | [part] => part
  | part :: rest => part ++ ',' :: separated rest

def sortedByKey (entries : List (String × List Char)) : List (String × List Char) :=
  entries.insertionSort fun left right => left.1 ≤ right.1

def entryText (entry : String × List Char) : List Char := quoted entry.1 ++ ':' :: entry.2

section

variable {Scalar : Type} (scalarText : Scalar → List Char)

mutual

def write : Json Scalar → List Char
  | .scalar value => scalarText value
  | .array items => '[' :: separated (writeItems items) ++ [']']
  | .object entries =>
      '{' :: separated ((sortedByKey (writeEntries entries)).map entryText) ++ ['}']

def writeItems : List (Json Scalar) → List (List Char)
  | [] => []
  | item :: rest => write item :: writeItems rest

def writeEntries : Json.Entries Scalar → List (String × List Char)
  | [] => []
  | (key, value) :: rest => (key, write value) :: writeEntries rest

end

theorem write_items_eq (items : List (Json Scalar)) :
    writeItems scalarText items = items.map (write scalarText) := by
  induction items with
  | nil => rfl
  | cons item rest induction => rw [writeItems, induction, List.map_cons]

theorem write_entries_eq (entries : Json.Entries Scalar) :
    writeEntries scalarText entries =
      entries.map fun entry => (entry.1, write scalarText entry.2) := by
  induction entries with
  | nil => rfl
  | cons entry rest induction => rw [writeEntries, induction, List.map_cons]

end

/-! ## Only printable ASCII -/

theorem digit_visible : ∀ digit < 16, Visible (Nat.digitChar digit) := by
  decide

theorem backslash_visible : Visible backslash := by
  decide

theorem quote_visible : Visible quote := by
  decide

theorem unicode_escape_visible (code : Nat) : ∀ character ∈ unicodeEscape code,
    Visible character := by
  have digit : ∀ number, Visible (Nat.digitChar (number % 16)) := by
    intro number
    exact digit_visible _ (Nat.mod_lt _ (by decide))
  simp only [unicodeEscape, List.forall_mem_cons]
  exact ⟨backslash_visible, by decide, digit _, digit _, digit _, digit _, List.forall_mem_nil _⟩

theorem pair_visible {character : Char} (visible : Visible character) :
    ∀ other ∈ [backslash, character], Visible other := by
  rw [List.forall_mem_cons, List.forall_mem_singleton]
  exact ⟨backslash_visible, visible⟩

theorem escaped_visible (original : Char) : ∀ character ∈ escaped original,
    Visible character := by
  unfold escaped
  split
  case h_8 =>
    split
    · rename_i plain
      rw [List.forall_mem_singleton]
      exact plain
    · split
      · exact unicode_escape_visible _
      · rw [List.forall_mem_append]
        exact ⟨unicode_escape_visible _, unicode_escape_visible _⟩
  all_goals exact pair_visible (by decide)

theorem quoted_visible (content : String) : ∀ character ∈ quoted content, Visible character := by
  have inside : ∀ character ∈ content.toList.flatMap escaped, Visible character := by
    intro character member
    obtain ⟨original, _, produced⟩ := List.mem_flatMap.mp member
    exact escaped_visible original character produced
  unfold quoted
  rw [List.cons_append, List.forall_mem_cons, List.forall_mem_append, List.forall_mem_singleton]
  exact ⟨quote_visible, inside, quote_visible⟩

theorem decimal_visible {character : Char} (digit : character.isDigit = true) :
    Visible character := by
  simp only [Char.isDigit, Bool.and_eq_true, decide_eq_true_eq] at digit
  obtain ⟨low, high⟩ := digit
  have lowNat : 48 ≤ character.toNat := low
  have highNat : character.toNat ≤ 57 := high
  constructor <;> omega

theorem integer_visible (number : Int) : ∀ character ∈ integer number, Visible character := by
  have digits : ∀ character ∈ Nat.toDigits 10 number.natAbs, Visible character := by
    intro character member
    exact decimal_visible (Nat.isDigit_of_mem_toDigits (by decide) (by decide) member)
  unfold integer
  split
  · rw [List.forall_mem_cons]
    exact ⟨by decide, digits⟩
  · exact digits

theorem separated_visible (parts : List (List Char))
    (each : ∀ part ∈ parts, ∀ character ∈ part, Visible character) :
    ∀ character ∈ separated parts, Visible character := by
  induction parts with
  | nil => exact List.forall_mem_nil _
  | cons part rest induction =>
      obtain ⟨first, others⟩ := List.forall_mem_cons.mp each
      cases rest with
      | nil => exact first
      | cons next more =>
          rw [separated, List.forall_mem_append, List.forall_mem_cons]
          · exact ⟨first, by decide, induction others⟩
          · simp

section

variable {Scalar : Type} {scalarText : Scalar → List Char}

theorem write_visible {tree : Json Scalar}
    (every : Json.Every (fun scalar => ∀ character ∈ scalarText scalar, Visible character) tree) :
    ∀ character ∈ write scalarText tree, Visible character := by
  induction every with
  | scalar visible => exact visible
  | array _ each =>
      rw [write, write_items_eq, List.cons_append, List.forall_mem_cons, List.forall_mem_append,
        List.forall_mem_singleton]
      refine ⟨by decide, ?_, by decide⟩
      apply separated_visible
      intro part member
      obtain ⟨item, itemMember, rfl⟩ := List.mem_map.mp member
      exact each item itemMember
  | @object entries _ each =>
      rw [write, write_entries_eq, List.cons_append, List.forall_mem_cons, List.forall_mem_append,
        List.forall_mem_singleton]
      refine ⟨by decide, ?_, by decide⟩
      apply separated_visible
      intro part member
      obtain ⟨entry, sorted, rfl⟩ := List.mem_map.mp member
      have written := (List.perm_insertionSort _ _).mem_iff.mp sorted
      obtain ⟨original, originalMember, rfl⟩ := List.mem_map.mp written
      rw [entryText, List.forall_mem_append, List.forall_mem_cons]
      exact ⟨quoted_visible _, by decide, each original originalMember⟩

/-! ## Lengths -/

theorem separated_length (parts : List (List Char)) :
    (separated parts).length = (parts.map List.length).sum + (parts.length - 1) := by
  induction parts with
  | nil => rfl
  | cons part rest induction =>
      cases rest with
      | nil => simp [separated]
      | cons next more =>
          rw [separated, List.length_append, List.length_cons, induction]
          · simp only [List.map_cons, List.sum_cons, List.length_cons]
            omega
          · simp

/-- The entries' texts, the separators and the braces. -/
theorem write_object_length (entries : Json.Entries Scalar) :
    (write scalarText (.object entries)).length =
      (entries.map fun entry =>
        (quoted entry.1).length + 1 + (write scalarText entry.2).length).sum +
        (entries.length - 1) + 2 := by
  have permutation : (sortedByKey (writeEntries scalarText entries)).Perm
      (entries.map fun entry => (entry.1, write scalarText entry.2)) := by
    rw [← write_entries_eq]
    exact List.perm_insertionSort _ _
  have lengths : (((sortedByKey (writeEntries scalarText entries)).map entryText).map
      List.length).sum = (entries.map fun entry =>
        (quoted entry.1).length + 1 + (write scalarText entry.2).length).sum := by
    rw [((permutation.map entryText).map List.length).sum_nat, List.map_map, List.map_map]
    congr 1
    apply List.map_congr_left
    intro entry _
    simp only [Function.comp, entryText, List.length_append, List.length_cons]
    omega
  have counts : (sortedByKey (writeEntries scalarText entries)).length = entries.length := by
    rw [permutation.length_eq, List.length_map]
  rw [write, List.cons_append, List.length_cons, List.length_append, List.length_singleton,
    separated_length, lengths, List.length_map, counts]

theorem write_array_length_le (items : List (Json Scalar)) :
    (write scalarText (.array items)).length ≤
      (items.map fun item => (write scalarText item).length + 1).sum + 2 := by
  have counted : (items.map fun item => (write scalarText item).length + 1).sum =
      (items.map fun item => (write scalarText item).length).sum + items.length := by
    rw [List.sum_map_add, List.map_const', List.sum_replicate, smul_eq_mul, Nat.mul_one]
  rw [write, write_items_eq, List.cons_append, List.length_cons, List.length_append,
    List.length_singleton, separated_length, List.map_map, List.length_map, counted]
  change (items.map fun item => (write scalarText item).length).sum + (items.length - 1) + 1 + 1 ≤ _
  omega

end

/-! ## Bounds for scalars -/

theorem integer_length_le (number digits : Nat) (positive : 0 < digits)
    (bounded : number < 10 ^ digits) : (integer number).length ≤ digits := by
  have sign : ¬ (number : Int) < 0 := by omega
  rw [integer, if_neg sign, Int.natAbs_natCast]
  exact (Nat.length_toDigits_le_iff (by decide) positive).mpr bounded

/-- A printable character that has no escape. -/
def Bare (character : Char) : Prop :=
  Visible character ∧ character ≠ quote ∧ character ≠ backslash

theorem escaped_bare {character : Char} (bare : Bare character) :
    escaped character = [character] := by
  obtain ⟨visible, notQuote, notBackslash⟩ := bare
  have code : ∀ other : Nat, character.toNat = other → character = Char.ofNat other := by
    intro other same
    rw [← same, Char.ofNat_toNat]
  unfold escaped
  split
  · rename_i same
    exact absurd (code 34 same) notQuote
  · rename_i same
    exact absurd (code 92 same) notBackslash
  case h_8 => exact if_pos visible
  all_goals
    rename_i same
    have low := visible.1
    omega

theorem escaped_visible_length_le {character : Char} (visible : Visible character) :
    (escaped character).length ≤ 2 := by
  unfold escaped
  split
  case h_8 =>
    rw [if_pos (And.intro visible.1 visible.2)]
    exact Nat.le_succ 1
  all_goals exact Nat.le_refl 2

theorem quoted_length (content : String) :
    (quoted content).length =
      (content.toList.map fun character => (escaped character).length).sum + 2 := by
  rw [quoted, List.cons_append, List.length_cons, List.length_append, List.length_singleton,
    List.length_flatMap]

theorem quoted_bare_length (content : String) (bare : ∀ character ∈ content.toList, Bare character) :
    (quoted content).length = content.toList.length + 2 := by
  have each : content.toList.map (fun character => (escaped character).length) =
      content.toList.map fun _ => 1 := by
    apply List.map_congr_left
    intro character member
    rw [escaped_bare (bare character member)]
    rfl
  rw [quoted_length, each, List.map_const', List.sum_replicate, smul_eq_mul, Nat.mul_one]

theorem quoted_visible_length_le (content : String)
    (visible : ∀ character ∈ content.toList, Visible character) :
    (quoted content).length ≤ content.toList.length * 2 + 2 := by
  have each : ∀ length ∈ content.toList.map fun character => (escaped character).length,
      length ≤ 2 := by
    rw [List.forall_mem_map]
    intro character member
    exact escaped_visible_length_le (visible character member)
  have total := List.sum_le_card_nsmul _ 2 each
  rw [List.length_map, smul_eq_mul] at total
  rw [quoted_length]
  omega

end KVTransferObservability.Library.JsonText
