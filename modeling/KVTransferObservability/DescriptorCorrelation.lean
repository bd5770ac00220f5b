import KVTransferObservability.DescriptorDecoding
import KVTransferObservability.EventFile
import KVTransferObservability.Library.Dict
import KVTransferObservability.Library.OnlineCheck

/-!
# Descriptor files and the events they belong to

`validation.py`: `validate_descriptors`. The first loop looks for a transfer with two
owners, the second reads every `*.json` file of a directory. Both check a log once, and
what they admit after a history is a condition on pairs and sums, so that neither the
names of the files nor any order decides.
-/

namespace KVTransferObservability.DescriptorCorrelation

open PythonValues Schema Observation Adapter Payload EventSink RecordText EventFile Descriptors
  DescriptorDecoding Library

set_option autoImplicit false

/-! ## The code -/

/-- A regular file that can be read. -/
structure CaptureFile where
  name : String
  content : Bytes

/-- `fnmatch(name, "*.json")`. -/
def isJson (name : String) : Bool := ".json".toList.isSuffixOf name.toList

/-- `capture_dir.glob("*.json")`, in the order of the directory. -/
def jsonFiles (listing : List CaptureFile) : List Bytes :=
  (listing.filter fun file => isJson file.name).map CaptureFile.content

abbrev Owner := ObservationIdentity × Option TransferDirection

abbrev Owners := Dict TransferIdentity Owner

/-- The body of the loop over the records. -/
def addOwner (transfers : Owners) : EventRecord → Py Owners
  | .hostFact _ => .ok transfers
  | .correlated _ => .ok transfers
  | .canonical event =>
      match event.transfer with
      | none => .ok transfers
      | some transfer => do
          let key := (event.identity, event.direction)
          raiseIf (decide (transfer ∈ transfers) && transfers.lookup transfer != some key)
            "transfer identity has inconsistent event ownership"
          .ok (transfers.insert transfer key)

structure Scan where
  total : Nat := 0
  count : Nat := 0
  seen : List TransferIdentity := []

/-- The body of the loop over the files. -/
def checkFile (json : JsonModule) (transfers : Owners) (state : Scan) (file : Bytes) :
    Py Scan := do
  let data := file.take (maxRecordBytes + 1)
  let total := state.total + data.length
  let count := state.count + 1
  raiseIf (maxRecordBytes < data.length || maxArtifactBytes < total || maxRecords < count)
    "descriptor artifacts exceed the validation limit"
  let inventory ← descriptorFromPayload json.interpreter (← decode json data)
  raiseIf (state.seen.contains inventory.transfer) "duplicate descriptor inventory"
  raiseIf (transfers.lookup inventory.transfer != some (inventory.identity, some inventory.direction))
    "descriptor has no matching event identity/direction"
  .ok { total, count, seen := inventory.transfer :: state.seen }

/-- `none` stands for a path that is not a directory. -/
def validateDescriptors (json : JsonModule) (captureDir : Option (List CaptureFile))
    (records : List EventRecord) : Py Nat := do
  let transfers ← records.foldlM addOwner ∅
  match captureDir with
  | none => .error (.valueError "descriptor directory missing")
  | some listing => do
      let state ← (jsonFiles listing).foldlM (checkFile json transfers) {}
      raiseIf (state.count == 0) "no descriptor inventories recorded"
      .ok state.count

/-! ## Owners of transfers -/

/-- The transfer a canonical record is about, and whose it is. -/
def ownership : EventRecord → Option (TransferIdentity × Owner)
  | .canonical event => event.transfer.map fun transfer => (transfer, event.identity, event.direction)
  | _ => none

/-- Records of one transfer have one owner. -/
def SameOwner (first second : EventRecord) : Prop :=
  ∀ transfer owner other, ownership first = some (transfer, owner) →
    ownership second = some (transfer, other) → owner = other

/-- No earlier record gives the transfer to another. -/
def Unopposed (history : List EventRecord) (record : EventRecord) : Prop :=
  ∀ other ∈ history, SameOwner other record

/-- The dictionary has the owners of the records read. -/
def Tracked (transfers : Owners) (history : List EventRecord) : Prop :=
  ∀ transfer owner, transfers.lookup transfer = some owner ↔
    ∃ record ∈ history, ownership record = some (transfer, owner)

theorem add_owner_none (transfers : Owners) (record : EventRecord)
    (absent : ownership record = none) : addOwner transfers record = .ok transfers := by
  cases record with
  | hostFact fact => rfl
  | correlated record => rfl
  | canonical event =>
      rw [addOwner, Option.map_eq_none_iff.mp absent]

theorem add_owner_some (transfers : Owners) (record : EventRecord) (transfer : TransferIdentity)
    (owner : Owner) (present : ownership record = some (transfer, owner)) (next : Owners) :
    addOwner transfers record = .ok next ↔
      (∀ other, transfers.lookup transfer = some other → other = owner) ∧
        next = transfers.insert transfer owner := by
  cases record with
  | hostFact fact => cases present
  | correlated record => cases present
  | canonical event =>
      obtain ⟨found, isFound, same⟩ := Option.map_eq_some_iff.mp present
      cases same
      simp only [addOwner, isFound]
      rw [raise_if_bind_ok]
      constructor
      · intro added
        obtain ⟨agreed, done⟩ := added
        refine ⟨?_, (Except.ok.inj done).symm⟩
        intro other known
        have member := Dict.mem_of_lookup known
        rw [known, decide_eq_true member, Bool.true_and, bne_eq_false_iff_eq] at agreed
        exact Option.some.inj agreed
      · intro agreed
        obtain ⟨unopposed, same⟩ := agreed
        refine ⟨?_, congrArg Except.ok same.symm⟩
        by_cases member : transfer ∈ transfers
        · obtain ⟨other, known⟩ := Dict.lookup_of_mem member
          rw [known, unopposed other known]
          simp
        · simp [member]

theorem unopposed_iff (transfers : Owners) (history : List EventRecord)
    (tracked : Tracked transfers history) (record : EventRecord) (transfer : TransferIdentity)
    (owner : Owner) (present : ownership record = some (transfer, owner)) :
    (∀ other, transfers.lookup transfer = some other → other = owner) ↔
      Unopposed history record := by
  constructor
  · intro agreed other member named mine theirs first second
    rw [present] at second
    cases second
    apply agreed
    rw [tracked]
    exact ⟨other, member, first⟩
  · intro unopposed other known
    rw [tracked] at known
    obtain ⟨earlier, member, first⟩ := known
    exact unopposed earlier member transfer other owner first present

theorem tracked_skip (transfers : Owners) (history : List EventRecord)
    (tracked : Tracked transfers history) (record : EventRecord)
    (absent : ownership record = none) : Tracked transfers (history ++ [record]) := by
  intro transfer owner
  rw [tracked]
  simp only [List.mem_append, List.mem_singleton, or_and_right, exists_or, exists_eq_left, absent,
    reduceCtorEq, or_false]

theorem tracked_insert (transfers : Owners) (history : List EventRecord)
    (tracked : Tracked transfers history) (record : EventRecord) (transfer : TransferIdentity)
    (owner : Owner) (present : ownership record = some (transfer, owner))
    (unopposed : Unopposed history record) :
    Tracked (transfers.insert transfer owner) (history ++ [record]) := by
  intro named other
  simp only [List.mem_append, List.mem_singleton, or_and_right, exists_or, exists_eq_left, present,
    Option.some.injEq, Prod.mk.injEq]
  rw [Dict.lookup_insert_ite, ← tracked named other]
  by_cases same : named = transfer
  · subst same
    rw [if_pos rfl, Option.some.injEq]
    constructor
    · intro mine
      exact .inr ⟨rfl, mine⟩
    · intro known
      rcases known with earlier | last
      · exact ((unopposed_iff transfers history tracked record named owner present).mpr unopposed
          other earlier).symm
      · exact last.2
  · rw [if_neg same]
    constructor
    · exact Or.inl
    · intro known
      rcases known with earlier | last
      · exact earlier
      · exact absurd last.1.symm same

theorem owners_decide : OnlineCheck.Decides addOwner Tracked Unopposed := by
  constructor
  · intro transfers history record tracked _ unopposed
    cases present : ownership record with
    | none =>
        exact ⟨transfers, add_owner_none transfers record present,
          tracked_skip transfers history tracked record present⟩
    | some claim =>
        obtain ⟨transfer, owner⟩ := claim
        have agreed := (unopposed_iff transfers history tracked record transfer owner present).mpr
          unopposed
        exact ⟨_, (add_owner_some transfers record transfer owner present _).mpr ⟨agreed, rfl⟩,
          tracked_insert transfers history tracked record transfer owner present unopposed⟩
  · intro transfers history record next tracked _ added
    cases present : ownership record with
    | none =>
        intro other _ transfer first second _ claim
        rw [present] at claim
        cases claim
    | some claim =>
        obtain ⟨transfer, owner⟩ := claim
        have agreed := ((add_owner_some transfers record transfer owner present next).mp added).1
        exact (unopposed_iff transfers history tracked record transfer owner present).mp agreed

theorem tracked_empty : Tracked ∅ [] := by
  intro transfer owner
  simp

theorem same_owner_symmetric (first second : EventRecord) (same : SameOwner first second) :
    SameOwner second first := by
  intro transfer owner other one two
  exact (same transfer other owner two one).symm

theorem same_owner_refl (record : EventRecord) : SameOwner record record := by
  intro transfer owner other one two
  rw [one] at two
  cases two
  rfl

/-- Every two records agree, in whatever order they come. -/
def Consistent (records : List EventRecord) : Prop :=
  ∀ first ∈ records, ∀ second ∈ records, SameOwner first second

theorem unopposed_legal_iff (records : List EventRecord) :
    OnlineCheck.Legal Unopposed [] records ↔ Consistent records := by
  unfold Unopposed
  rw [OnlineCheck.legal_pairwise_iff]
  constructor
  · intro pairs first firstMember second secondMember
    have flipped := pairs.imp fun {first second} same => same_owner_symmetric first second same
    exact List.Pairwise.forall_of_forall_of_flip (fun record _ => same_owner_refl record) pairs
      flipped firstMember secondMember
  · intro every
    exact List.pairwise_of_forall_mem_list every

/-- The first loop ends with the owners of all records, if every two of them agree. -/
theorem owners_iff (records : List EventRecord) :
    (∃ transfers, records.foldlM addOwner ∅ = .ok transfers) ↔ Consistent records := by
  rw [← unopposed_legal_iff]
  constructor
  · intro finished
    obtain ⟨transfers, folded⟩ := finished
    exact owners_decide.fold_sound records ∅ transfers [] tracked_empty trivial folded
  · intro legal
    obtain ⟨transfers, folded, _⟩ := owners_decide.fold_accepts records ∅ [] tracked_empty legal
    exact ⟨transfers, folded⟩

theorem owners_tracked (records : List EventRecord) (transfers : Owners)
    (folded : records.foldlM addOwner ∅ = .ok transfers) : Tracked transfers records := by
  have legal := owners_decide.fold_sound records ∅ transfers [] tracked_empty trivial folded
  obtain ⟨final, again, tracked⟩ := owners_decide.fold_accepts records ∅ [] tracked_empty legal
  rw [folded] at again
  cases again
  exact tracked

/-! ## One file -/

section Files

variable (json : JsonModule)

/-- The file holds the inventory under some label, written as it is. -/
def Describes (file : Bytes) (inventory : DescriptorInventory) : Prop :=
  ∃ payload label, decode json file = .ok payload ∧
    same (inventory.toPayload label) payload = true

theorem read_iff (file : Bytes) (inventory : DescriptorInventory) :
    (decode json file >>= descriptorFromPayload json.interpreter) = .ok inventory ↔
      Describes json file inventory := by
  rw [bind_eq_ok]
  constructor
  · intro accepted
    obtain ⟨payload, decoded, read⟩ := accepted
    obtain ⟨label, agree⟩ :=
      (descriptor_from_payload_iff payload (decode_unique decoded) inventory).mp read
    exact ⟨payload, label, decoded, agree⟩
  · intro described
    obtain ⟨payload, label, decoded, agree⟩ := described
    exact ⟨payload, decoded,
      (descriptor_from_payload_iff payload (decode_unique decoded) inventory).mpr ⟨label, agree⟩⟩

theorem describes_one (file : Bytes) (first second : DescriptorInventory)
    (one : Describes json file first) (other : Describes json file second) : first = second := by
  rw [← read_iff] at one other
  rw [one] at other
  exact Except.ok.inj other

variable (transfers : Owners)

/-- The file is short enough and describes a transfer with its owner. -/
def Matched (file : Bytes) : Prop :=
  file.length ≤ maxRecordBytes ∧ ∃ inventory, Describes json file inventory ∧
    transfers.lookup inventory.transfer = some (inventory.identity, some inventory.direction)

/-- Two files describe different transfers. -/
def Apart (first second : Bytes) : Prop :=
  ∀ one other, Describes json first one → Describes json second other →
    one.transfer ≠ other.transfer

/-- The limits on all files. -/
def WithinArtifact (files : List Bytes) : Prop :=
  (files.map List.length).sum ≤ maxArtifactBytes ∧ files.length ≤ maxRecords

def Admissible (history : List Bytes) (file : Bytes) : Prop :=
  (Matched json transfers file ∧ WithinArtifact (history ++ [file])) ∧
    ∀ other ∈ history, Apart json other file

/-- The counters and the transfers of the files read. -/
structure Scanned (state : Scan) (history : List Bytes) : Prop where
  total : state.total = (history.map List.length).sum
  count : state.count = history.length
  seen : ∀ transfer, transfer ∈ state.seen ↔
    ∃ file ∈ history, ∃ inventory, Describes json file inventory ∧ inventory.transfer = transfer

theorem check_file_iff (state next : Scan) (file : Bytes) :
    checkFile json transfers state file = .ok next ↔
      (file.length ≤ maxRecordBytes ∧ state.total + file.length ≤ maxArtifactBytes ∧
        state.count + 1 ≤ maxRecords) ∧
      ∃ inventory, Describes json file inventory ∧ inventory.transfer ∉ state.seen ∧
        transfers.lookup inventory.transfer = some (inventory.identity, some inventory.direction) ∧
        next = { total := state.total + file.length
                 count := state.count + 1
                 seen := inventory.transfer :: state.seen } := by
  by_cases short : file.length ≤ maxRecordBytes
  · have whole : file.take (maxRecordBytes + 1) = file :=
      List.take_of_length_le (Nat.le_succ_of_le short)
    rw [checkFile, whole, raise_if_bind_ok]
    apply and_congr
    · simp only [Bool.or_eq_false_iff, decide_eq_false_iff_not, Nat.not_lt, and_assoc]
    · constructor
      · intro checked
        obtain ⟨payload, decoded, checked⟩ := bind_eq_ok.mp checked
        obtain ⟨inventory, read, checked⟩ := bind_eq_ok.mp checked
        obtain ⟨unseen, checked⟩ := (raise_if_bind_ok _ _ _ _).mp checked
        obtain ⟨owned, done⟩ := (raise_if_bind_ok _ _ _ _).mp checked
        refine ⟨inventory, ?_, ?_, ?_, (Except.ok.inj done).symm⟩
        · exact (read_iff json file inventory).mp (bind_eq_ok.mpr ⟨payload, decoded, read⟩)
        · simpa using unseen
        · exact bne_eq_false_iff_eq.mp owned
      · intro described
        obtain ⟨inventory, described, unseen, owned, done⟩ := described
        obtain ⟨payload, decoded, read⟩ :=
          bind_eq_ok.mp ((read_iff json file inventory).mpr described)
        refine bind_eq_ok.mpr ⟨payload, decoded, bind_eq_ok.mpr ⟨inventory, read, ?_⟩⟩
        refine (raise_if_bind_ok _ _ _ _).mpr ⟨by simpa using unseen, ?_⟩
        exact (raise_if_bind_ok _ _ _ _).mpr ⟨bne_eq_false_iff_eq.mpr owned,
          congrArg Except.ok done.symm⟩
  · constructor
    · intro checked
      rw [checkFile, raise_if_bind_ok] at checked
      have limits := checked.1
      simp only [Bool.or_eq_false_iff, decide_eq_false_iff_not, List.length_take] at limits
      omega
    · intro checked
      exact absurd checked.1.1 short

theorem unseen_iff (state : Scan) (history : List Bytes) (scanned : Scanned json state history)
    (file : Bytes) (inventory : DescriptorInventory) (described : Describes json file inventory) :
    inventory.transfer ∉ state.seen ↔ ∀ other ∈ history, Apart json other file := by
  rw [scanned.seen]
  constructor
  · intro unseen other member one two first second equal
    have own := describes_one json file two inventory second described
    subst own
    exact unseen ⟨other, member, one, first, equal⟩
  · intro apart known
    obtain ⟨other, member, one, first, equal⟩ := known
    exact apart other member one inventory first described equal

theorem scanned_snoc (state : Scan) (history : List Bytes) (scanned : Scanned json state history)
    (file : Bytes) (inventory : DescriptorInventory) (described : Describes json file inventory) :
    Scanned json
      { total := state.total + file.length
        count := state.count + 1
        seen := inventory.transfer :: state.seen } (history ++ [file]) := by
  refine ⟨?_, ?_, ?_⟩
  · rw [scanned.total, List.map_append, List.sum_append, List.map_singleton, List.sum_singleton]
  · rw [scanned.count, List.length_append, List.length_singleton]
  · intro transfer
    simp only [List.mem_append, List.mem_singleton, or_and_right, exists_or, exists_eq_left]
    rw [List.mem_cons, scanned.seen, or_comm]
    apply or_congr_right
    constructor
    · intro own
      exact ⟨inventory, described, own.symm⟩
    · intro known
      obtain ⟨other, again, named⟩ := known
      rw [describes_one json file inventory other described again]
      exact named.symm

theorem limits_snoc (state : Scan) (history : List Bytes) (scanned : Scanned json state history)
    (file : Bytes) :
    WithinArtifact (history ++ [file]) ↔
      state.total + file.length ≤ maxArtifactBytes ∧ state.count + 1 ≤ maxRecords := by
  rw [WithinArtifact, List.map_append, List.sum_append, List.map_singleton, List.sum_singleton,
    List.length_append, List.length_singleton, scanned.total, scanned.count]

theorem scan_decides :
    OnlineCheck.Decides (checkFile json transfers) (Scanned json) (Admissible json transfers) := by
  constructor
  · intro state history file scanned _ admissible
    obtain ⟨⟨⟨short, inventory, described, owned⟩, limits⟩, apart⟩ := admissible
    have unseen := (unseen_iff json state history scanned file inventory described).mpr apart
    have room := (limits_snoc json state history scanned file).mp limits
    exact ⟨_, (check_file_iff json transfers state _ file).mpr
      ⟨⟨short, room⟩, inventory, described, unseen, owned, rfl⟩,
      scanned_snoc json state history scanned file inventory described⟩
  · intro state history file next scanned _ checked
    obtain ⟨⟨short, room⟩, inventory, described, unseen, owned, _⟩ :=
      (check_file_iff json transfers state next file).mp checked
    refine ⟨⟨⟨short, inventory, described, owned⟩, ?_⟩, ?_⟩
    · exact (limits_snoc json state history scanned file).mpr room
    · exact (unseen_iff json state history scanned file inventory described).mp unseen

theorem scanned_empty : Scanned json {} [] := by
  refine ⟨rfl, rfl, ?_⟩
  intro transfer
  simp

/-- The limits hold of a directory when they hold of its files in any order. -/
theorem within_shorter (history : List Bytes) (file : Bytes)
    (within : WithinArtifact (history ++ [file])) : WithinArtifact history := by
  obtain ⟨bytes, count⟩ := within
  rw [List.map_append, List.sum_append] at bytes
  rw [List.length_append] at count
  exact ⟨Nat.le_of_add_right_le bytes, Nat.le_of_add_right_le count⟩

theorem admissible_legal_iff (files : List Bytes) :
    OnlineCheck.Legal (Admissible json transfers) [] files ↔
      ((∀ file ∈ files, Matched json transfers file) ∧ WithinArtifact files) ∧
        files.Pairwise (Apart json) := by
  unfold Admissible
  rw [OnlineCheck.legal_and, OnlineCheck.legal_and, OnlineCheck.legal_forall_iff,
    OnlineCheck.legal_pairwise_iff,
    OnlineCheck.legal_limit_iff WithinArtifact ⟨Nat.zero_le _, Nat.zero_le _⟩ within_shorter]

/-- The second loop counts the files, if each is admitted. -/
theorem scan_iff (files : List Bytes) (count : Nat) :
    (∃ state, files.foldlM (checkFile json transfers) {} = .ok state ∧ state.count = count) ↔
      (((∀ file ∈ files, Matched json transfers file) ∧ WithinArtifact files) ∧
        files.Pairwise (Apart json)) ∧ count = files.length := by
  rw [← admissible_legal_iff]
  constructor
  · intro finished
    obtain ⟨state, folded, counted⟩ := finished
    have legal := (scan_decides json transfers).fold_sound files {} state [] (scanned_empty json)
      trivial folded
    obtain ⟨final, again, scanned⟩ :=
      (scan_decides json transfers).fold_accepts files {} [] (scanned_empty json) legal
    rw [folded] at again
    cases again
    exact ⟨legal, counted.symm.trans scanned.count⟩
  · intro admitted
    obtain ⟨legal, counted⟩ := admitted
    obtain ⟨final, folded, scanned⟩ :=
      (scan_decides json transfers).fold_accepts files {} [] (scanned_empty json) legal
    exact ⟨final, folded, scanned.count.trans counted.symm⟩

end Files

/-! ## The verdict -/

/-- Some record is about the inventory's transfer, and has its identity and direction. -/
def Owned (records : List EventRecord) (inventory : DescriptorInventory) : Prop :=
  ∃ event, .canonical event ∈ records ∧ event.transfer = some inventory.transfer ∧
    event.identity = inventory.identity ∧ event.direction = some inventory.direction

/-- What the validator looks for. No clause depends on an order. -/
structure Correlated (json : JsonModule) (files : List Bytes) (records : List EventRecord) :
    Prop where
  each : ∀ file ∈ files, file.length ≤ maxRecordBytes
  together : (files.map List.length).sum ≤ maxArtifactBytes
  count : files.length ≤ maxRecords
  described : ∀ file ∈ files, ∃ inventory, Describes json file inventory ∧ Owned records inventory
  distinct : files.Pairwise (Apart json)
  consistent : Consistent records

theorem owned_iff (transfers : Owners) (records : List EventRecord)
    (tracked : Tracked transfers records) (inventory : DescriptorInventory) :
    transfers.lookup inventory.transfer = some (inventory.identity, some inventory.direction) ↔
      Owned records inventory := by
  rw [tracked]
  constructor
  · intro known
    obtain ⟨record, member, claim⟩ := known
    cases record with
    | hostFact fact => cases claim
    | correlated record => cases claim
    | canonical event =>
        obtain ⟨transfer, present, same⟩ := Option.map_eq_some_iff.mp claim
        simp only [Prod.mk.injEq] at same
        obtain ⟨named, identity, direction⟩ := same
        rw [named] at present
        exact ⟨event, member, present, identity, direction⟩
  · intro owned
    obtain ⟨event, member, present, identity, direction⟩ := owned
    refine ⟨.canonical event, member, ?_⟩
    rw [ownership, present, Option.map_some, identity, direction]

section Verdict

variable (json : JsonModule)

/-- What follows the second loop. -/
theorem counted_iff (files : List Bytes) (transfers : Owners) (count : Nat) :
    (do
      let state ← files.foldlM (checkFile json transfers) {}
      raiseIf (state.count == 0) "no descriptor inventories recorded"
      .ok state.count) = Except.ok count ↔
        1 ≤ count ∧ ∃ state, files.foldlM (checkFile json transfers) {} = .ok state ∧
          state.count = count := by
  rw [bind_eq_ok]
  constructor
  · intro returned
    obtain ⟨state, folded, returned⟩ := returned
    obtain ⟨some, done⟩ := (raise_if_bind_ok _ _ _ _).mp returned
    have counted := Except.ok.inj done
    rw [beq_eq_false_iff_ne, counted] at some
    exact ⟨Nat.one_le_iff_ne_zero.mpr some, state, folded, counted⟩
  · intro counted
    obtain ⟨positive, state, folded, same⟩ := counted
    refine ⟨state, folded, (raise_if_bind_ok _ _ _ _).mpr ⟨?_, congrArg Except.ok same⟩⟩
    rw [beq_eq_false_iff_ne, same]
    exact Nat.one_le_iff_ne_zero.mp positive

theorem correlated_iff (files : List Bytes) (records : List EventRecord) (transfers : Owners)
    (tracked : Tracked transfers records) (consistent : Consistent records) :
    (((∀ file ∈ files, Matched json transfers file) ∧ WithinArtifact files) ∧
      files.Pairwise (Apart json)) ↔ Correlated json files records := by
  constructor
  · intro admitted
    obtain ⟨⟨matched, within⟩, distinct⟩ := admitted
    refine ⟨fun file member => (matched file member).1, within.1, within.2, ?_, distinct,
      consistent⟩
    intro file member
    obtain ⟨_, inventory, described, owned⟩ := matched file member
    exact ⟨inventory, described, (owned_iff transfers records tracked inventory).mp owned⟩
  · intro correlated
    refine ⟨⟨?_, correlated.together, correlated.count⟩, correlated.distinct⟩
    intro file member
    obtain ⟨inventory, described, owned⟩ := correlated.described file member
    exact ⟨correlated.each file member, inventory, described,
      (owned_iff transfers records tracked inventory).mpr owned⟩

theorem validate_descriptors_iff (listing : List CaptureFile) (records : List EventRecord)
    (count : Nat) :
    validateDescriptors json (some listing) records = .ok count ↔
      1 ≤ count ∧ count = (jsonFiles listing).length ∧
        Correlated json (jsonFiles listing) records := by
  rw [validateDescriptors, bind_eq_ok]
  constructor
  · intro returned
    obtain ⟨transfers, folded, returned⟩ := returned
    have tracked := owners_tracked records transfers folded
    have consistent := (owners_iff records).mp ⟨transfers, folded⟩
    obtain ⟨positive, scanned⟩ := (counted_iff json _ transfers count).mp returned
    obtain ⟨admitted, counted⟩ := (scan_iff json transfers _ count).mp scanned
    exact ⟨positive, counted,
      (correlated_iff json _ records transfers tracked consistent).mp admitted⟩
  · intro accepted
    obtain ⟨positive, counted, correlated⟩ := accepted
    obtain ⟨transfers, folded⟩ := (owners_iff records).mpr correlated.consistent
    have tracked := owners_tracked records transfers folded
    have admitted :=
      (correlated_iff json _ records transfers tracked correlated.consistent).mpr correlated
    refine ⟨transfers, folded, (counted_iff json _ transfers count).mpr ⟨positive, ?_⟩⟩
    exact (scan_iff json transfers _ count).mpr ⟨admitted, counted⟩

/-! ## Order -/

theorem apart_symmetric (first second : Bytes) (apart : Apart json first second) :
    Apart json second first := by
  intro one other described again
  exact (apart other one again described).symm

theorem correlated_perm (files others : List Bytes) (records reordered : List EventRecord)
    (sameFiles : files.Perm others) (sameRecords : records.Perm reordered)
    (correlated : Correlated json files records) : Correlated json others reordered where
  each file member := correlated.each file (sameFiles.mem_iff.mpr member)
  together := by
    rw [← (sameFiles.map List.length).sum_nat]
    exact correlated.together
  count := by
    rw [← sameFiles.length_eq]
    exact correlated.count
  described file member := by
    obtain ⟨inventory, described, event, present, owned⟩ :=
      correlated.described file (sameFiles.mem_iff.mpr member)
    exact ⟨inventory, described, event, sameRecords.mem_iff.mp present, owned⟩
  distinct := sameFiles.pairwise correlated.distinct fun apart => apart_symmetric json _ _ apart
  consistent first firstMember second secondMember :=
    correlated.consistent first (sameRecords.mem_iff.mpr firstMember) second
      (sameRecords.mem_iff.mpr secondMember)

/-- Names of files and the order of files and records are without influence on the count
or the rejection. -/
theorem validate_descriptors_perm (listing relisted : List CaptureFile)
    (records reordered : List EventRecord)
    (sameFiles : (jsonFiles listing).Perm (jsonFiles relisted))
    (sameRecords : records.Perm reordered) (count : Nat) :
    validateDescriptors json (some listing) records = .ok count ↔
      validateDescriptors json (some relisted) reordered = .ok count := by
  rw [validate_descriptors_iff, validate_descriptors_iff, sameFiles.length_eq]
  constructor
  · intro accepted
    obtain ⟨positive, counted, correlated⟩ := accepted
    exact ⟨positive, counted,
      correlated_perm json _ _ records reordered sameFiles sameRecords correlated⟩
  · intro accepted
    obtain ⟨positive, counted, correlated⟩ := accepted
    exact ⟨positive, counted,
      correlated_perm json _ _ reordered records sameFiles.symm sameRecords.symm correlated⟩

/-! ## Errors -/

/-- What a file can raise beside `ValueError`: what `json.loads` raises on it, and the
`RecursionError` of a lookup in what `json.loads` has made of it. -/
def Escapes (file : Bytes) (error : PyError) : Prop :=
  json.loads file = .error error ∨
    error = .raised "RecursionError" ∧
      ∃ payload, decode json file = .ok payload ∧ InventoryTooDeep json.interpreter payload

/-- Nothing is parsed that is too long. -/
theorem check_file_errors (transfers : Owners) (state : Scan) (file : Bytes) (error : PyError)
    (raised : checkFile json transfers state file = .error error) :
    (∃ message, error = .valueError message) ∨
      (file.length ≤ maxRecordBytes ∧ Escapes json file error) := by
  rw [checkFile] at raised
  rcases bind_eq_error.mp raised with limit | ⟨_, passed, raised⟩
  · exact .inl (OnlyValueErrors.raiseIf _ _ error limit)
  · have short : file.length ≤ maxRecordBytes := by
      rw [raise_if_ok] at passed
      simp only [Bool.or_eq_false_iff, decide_eq_false_iff_not, List.length_take] at passed
      omega
    rw [List.take_of_length_le (Nat.le_succ_of_le short)] at raised
    rcases bind_eq_error.mp raised with undecoded | ⟨payload, decoded, raised⟩
    · rcases bind_eq_error.mp undecoded with unloaded | ⟨parsed, _, repeated⟩
      · exact .inr ⟨short, .inl unloaded⟩
      · exact .inl (hooked_errors parsed error repeated)
    · rcases bind_eq_error.mp raised with refused | ⟨inventory, _, raised⟩
      · rcases descriptor_from_payload_errors payload error refused with isValue | ⟨same, deep⟩
        · exact .inl isValue
        · exact .inr ⟨short, .inr ⟨same, payload, decoded, deep⟩⟩
      · left
        apply OnlyValueErrors.bind (OnlyValueErrors.raiseIf _ _) _ error raised
        intro _
        apply OnlyValueErrors.bind (OnlyValueErrors.raiseIf _ _)
        intro _
        exact OnlyValueErrors.ok _

theorem add_owner_errors (transfers : Owners) (record : EventRecord) :
    OnlyValueErrors (addOwner transfers record) := by
  cases record with
  | hostFact fact => exact OnlyValueErrors.ok transfers
  | correlated record => exact OnlyValueErrors.ok transfers
  | canonical event =>
      rw [addOwner]
      cases event.transfer with
      | none => exact OnlyValueErrors.ok transfers
      | some transfer =>
          apply OnlyValueErrors.bind (OnlyValueErrors.raiseIf _ _)
          intro _
          exact OnlyValueErrors.ok _

theorem validate_descriptors_errors (listing : List CaptureFile) (records : List EventRecord)
    (error : PyError) (raised : validateDescriptors json (some listing) records = .error error) :
    (∃ message, error = .valueError message) ∨
      ∃ file ∈ jsonFiles listing, file.length ≤ maxRecordBytes ∧ Escapes json file error := by
  rw [validateDescriptors] at raised
  rcases bind_eq_error.mp raised with owners | ⟨transfers, _, raised⟩
  · exact .inl (OnlyValueErrors.foldlM add_owner_errors records ∅ error owners)
  · rcases bind_eq_error.mp raised with stopped | ⟨state, _, raised⟩
    · obtain ⟨file, member, reached, failed⟩ := OnlineCheck.fold_error _ _ error stopped
      rcases check_file_errors json transfers reached file error failed with value | escapes
      · exact .inl value
      · exact .inr ⟨file, member, escapes⟩
    · left
      apply OnlyValueErrors.bind (OnlyValueErrors.raiseIf _ _) _ error raised
      intro _
      exact OnlyValueErrors.ok _

/-- The file is parsed, or refused with `ValueError`, and what it holds can be printed. -/
def Shallow (file : Bytes) : Prop :=
  OnlyValueErrors (json.loads file) ∧
    ∀ payload, decode json file = .ok payload → ¬ InventoryTooDeep json.interpreter payload

/-- If nothing escapes from the files, the validator raises only `ValueError`. -/
theorem validate_descriptors_only_value_errors (listing : List CaptureFile)
    (records : List EventRecord) (shallow : ∀ file ∈ jsonFiles listing, Shallow json file) :
    OnlyValueErrors (validateDescriptors json (some listing) records) := by
  intro error raised
  rcases validate_descriptors_errors json listing records error raised with value | nested
  · exact value
  · obtain ⟨file, member, _, escapes⟩ := nested
    obtain ⟨parser, printable⟩ := shallow file member
    rcases escapes with loads | ⟨_, payload, decoded, deep⟩
    · exact parser error loads
    · exact absurd deep (printable payload decoded)

/-- The count is returned for correlated files only, whatever their names and whatever the
order of files and records. What else is raised is `ValueError`, or comes from the parser
or from a lookup in what it made of a file. -/
theorem descriptor_correlation_is_exact :
    (∀ listing records count, validateDescriptors json (some listing) records = .ok count ↔
      1 ≤ count ∧ count = (jsonFiles listing).length ∧
        Correlated json (jsonFiles listing) records) ∧
    (∀ listing records error, validateDescriptors json (some listing) records = .error error →
      (∃ message, error = .valueError message) ∨
        ∃ file ∈ jsonFiles listing, file.length ≤ maxRecordBytes ∧ Escapes json file error) ∧
    (∀ listing records, (∀ file ∈ jsonFiles listing, Shallow json file) →
      OnlyValueErrors (validateDescriptors json (some listing) records)) ∧
    (∀ listing relisted records reordered, (jsonFiles listing).Perm (jsonFiles relisted) →
      records.Perm reordered → ∀ count,
        validateDescriptors json (some listing) records = .ok count ↔
          validateDescriptors json (some relisted) reordered = .ok count) := by
  refine ⟨?_, ?_, ?_, ?_⟩
  · exact validate_descriptors_iff json
  · exact validate_descriptors_errors json
  · exact validate_descriptors_only_value_errors json
  · intro listing relisted records reordered sameFiles sameRecords count
    exact validate_descriptors_perm json listing relisted records reordered sameFiles sameRecords
      count

end Verdict

/-! ## Nested text -/

/-- A file that the parser gives up on ends the check with the parser's error. -/
theorem parser_error_raised (json : JsonModule) (file : Bytes) (error : PyError)
    (short : file.length ≤ maxRecordBytes) (loads : json.loads file = .error error)
    (name : String) (isNamed : isJson name = true) :
    validateDescriptors json (some [⟨name, file⟩]) [] = .error error := by
  have files : jsonFiles [⟨name, file⟩] = [file] := by
    simp [jsonFiles, isNamed]
  have checked : checkFile json ∅ {} file = .error error := by
    have decoded : decode json file = .error error :=
      bind_eq_error.mpr (.inl loads)
    have room : (decide (maxRecordBytes < file.length) ||
        decide (maxArtifactBytes < 0 + file.length) || decide (maxRecords < 0 + 1)) = false := by
      simp only [Bool.or_eq_false_iff, decide_eq_false_iff_not]
      unfold maxRecordBytes at short ⊢
      unfold maxArtifactBytes maxRecords
      omega
    rw [checkFile, List.take_of_length_le (Nat.le_succ_of_le short)]
    refine bind_eq_error.mpr (.inr ⟨(), (raise_if_ok _ _).mpr room, ?_⟩)
    exact bind_eq_error.mpr (.inl decoded)
  refine bind_eq_error.mpr (.inr ⟨∅, rfl, ?_⟩)
  refine bind_eq_error.mpr (.inl ?_)
  rw [files]
  exact bind_eq_error.mpr (.inl checked)

/-- A module that gives up on text with more brackets at its head than the recursion limit,
and finds no JSON in other text. -/
def nestingModule : JsonModule :=
  { floatText := fun _ => []
    loads := fun file =>
      if 1000 < (file.takeWhile fun byte => byte = 91).length then
        .error (.raised "RecursionError")
      else .error (.valueError "Expecting value") }

theorem nesting_module_loads (depth : Nat) (deep : 1000 < depth) :
    nestingModule.loads (List.replicate depth 91) = .error (.raised "RecursionError") := by
  have brackets : ((List.replicate depth 91).takeWhile fun byte : UInt8 => byte = 91).length =
      depth := by
    rw [List.takeWhile_replicate, if_pos (decide_eq_true rfl), List.length_replicate]
  rw [← brackets] at deep
  exact if_pos deep

/-- A hundred thousand opening brackets. -/
def nestedFile : CaptureFile := ⟨"capture.json", List.replicate 100000 91⟩

theorem nested_file_raises_recursion_error :
    validateDescriptors nestingModule (some [nestedFile]) [] =
        .error (.raised "RecursionError") ∧
      ∀ message, validateDescriptors nestingModule (some [nestedFile]) [] ≠
        .error (.valueError message) := by
  have short : (List.replicate 100000 (91 : UInt8)).length ≤ maxRecordBytes := by
    rw [List.length_replicate]
    decide
  have raised : validateDescriptors nestingModule (some [nestedFile]) [] =
      .error (.raised "RecursionError") :=
    parser_error_raised nestingModule _ _ short (nesting_module_loads 100000 (by decide))
      "capture.json" (by decide)
  refine ⟨raised, ?_⟩
  intro message other
  rw [raised] at other
  cases other

end KVTransferObservability.DescriptorCorrelation
