import KVTransferObservability.EventReaders
import KVTransferObservability.EventSink
import KVTransferObservability.Library.JsonText

/-!
# Records as lines

The encoding of `emit`: a payload as compact JSON text with sorted keys, and a
newline. The payload of a record is printable ASCII whatever it holds, so the
newline at the end of its line is the only one.
-/

namespace KVTransferObservability.RecordText

open PythonValues Adapter Payload EventSink EventReaders Library

set_option autoImplicit false

/-- What the model leaves open of the `json` module: the text of a float, which no
record has, and what `json.loads` makes of a line before it hands the pairs of an object
to its hook. `interpreter` is the one that runs it and the readers. -/
structure JsonModule where
  interpreter : Interpreter := .unlimited
  floatText : JsonFloat → List Char
  loads : Bytes → Py Value

def scalarText (json : JsonModule) : JsonScalar → List Char
  | .null => "null".toList
  | .bool flag => if flag then "true".toList else "false".toList
  | .int number => JsonText.integer number
  | .float number => json.floatText number
  | .str content => JsonText.quoted content

/-- `json.dumps(payload, ensure_ascii=True, separators=(",", ":"), sort_keys=True)`. -/
def dumps (json : JsonModule) (payload : Value) : List Char :=
  JsonText.write (scalarText json) payload

def newline : UInt8 := 10

/-- `text.encode("ascii")`. -/
def encodeAscii (content : List Char) : Bytes :=
  content.map fun character => UInt8.ofNat character.toNat

/-- The line that `emit` queues for a record. -/
def encoded (json : JsonModule) (record : EventRecord) : Bytes :=
  encodeAscii (dumps json (EventRecord.toPayload record)) ++ [newline]

theorem dumps_visible (json : JsonModule) {payload : Value} (plain : Plain payload) :
    ∀ character ∈ dumps json payload, JsonText.Visible character := by
  apply JsonText.write_visible
  apply Json.every_mono _ plain
  intro scalar known
  cases scalar with
  | null =>
      change ∀ character ∈ ['n', 'u', 'l', 'l'], JsonText.Visible character
      simp only [List.forall_mem_cons]
      exact ⟨by decide, by decide, by decide, by decide, List.forall_mem_nil _⟩
  | bool flag => cases known
  | int number => exact JsonText.integer_visible number
  | float number => cases known
  | str content => exact JsonText.quoted_visible content

theorem visible_not_newline {character : Char} (visible : JsonText.Visible character) :
    UInt8.ofNat character.toNat ≠ newline := by
  intro same
  have code : character.toNat % 256 = 10 := congrArg UInt8.toNat same
  obtain ⟨low, high⟩ := visible
  omega

/-- A line ends in its only newline. -/
structure IsLine (line : Bytes) : Prop where
  shape : ∃ body, line = body ++ [newline] ∧ newline ∉ body

theorem encoded_is_line (json : JsonModule) (record : EventRecord) :
    IsLine (encoded json record) := by
  refine ⟨_, rfl, ?_⟩
  intro member
  obtain ⟨character, written, same⟩ := List.mem_map.mp member
  have visible := dumps_visible json (written_record record).plain character written
  exact visible_not_newline visible same

/-- `bytes.strip` removes these. -/
def isSpace (byte : UInt8) : Bool :=
  byte = 32 || (9 ≤ byte && byte ≤ 13)

theorem encoded_not_blank (json : JsonModule) (record : EventRecord) :
    (encoded json record).all isSpace = false := by
  rw [encoded, dumps, record_table_written]
  rfl

end KVTransferObservability.RecordText
