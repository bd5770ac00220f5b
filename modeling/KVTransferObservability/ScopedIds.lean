import KVTransferObservability.Constructors
import KVTransferObservability.Native

/-!
# Identities built from a process and a sequence

The binding writes `process:kind:sequence` with the sequence in decimal. The text
is accepted, it gives back the process, and it determines the sequence; and the
constructors of the identities accept no other text.
-/

namespace KVTransferObservability.ScopedIds

open Library PythonValues Schema HostFacts Normalization Native Constructors

set_option autoImplicit false

def scopedText (processUuid : ProcessUuid) (kind : Char) (jobId : Nat) : List Char :=
  processUuid.val.toList ++ ':' :: kind :: ':' :: Nat.toDigits 10 jobId

theorem process_uuid_length (processUuid : ProcessUuid) : processUuid.val.toList.length = 32 := by
  have valid := processUuid.property
  rw [isProcessUuid, Bool.and_eq_true] at valid
  exact of_decide_eq_true valid.1

theorem process_uuid_hex (processUuid : ProcessUuid) :
    processUuid.val.toList.all isHexDigit = true := by
  have valid := processUuid.property
  rw [isProcessUuid, Bool.and_eq_true] at valid
  exact valid.2

theorem hex_not_colon (character : Char) (hex : isHexDigit character = true) :
    character ≠ ':' := by
  rintro rfl
  exact absurd hex (by decide)

/-- What stands before the first colon of an id is the process that built it. -/
theorem process_uuid_of_append (processUuid : ProcessUuid) (rest : List Char) :
    processUuidOf (String.ofList (processUuid.val.toList ++ ':' :: rest)) = processUuid.val := by
  have plain : ∀ character ∈ processUuid.val.toList, (decide (character ≠ ':')) = true := by
    intro character member
    have hex := List.all_eq_true.mp (process_uuid_hex processUuid) character member
    exact decide_eq_true (hex_not_colon character hex)
  rw [processUuidOf, String.toList_ofList, List.takeWhile_append_of_pos plain,
    List.takeWhile_cons_of_neg (by simp), List.append_nil, String.ofList_toList]

theorem digits_injective (first second : Nat)
    (same : Nat.toDigits 10 first = Nat.toDigits 10 second) : first = second := by
  have value := congrArg (fun digits => Nat.ofDigitChars 10 digits 0) same
  simpa only [Nat.ofDigitChars_ten_toDigits] using value

theorem scoped_text_injective (processUuid : ProcessUuid) (kind : Char) (first second : Nat)
    (same : scopedText processUuid kind first = scopedText processUuid kind second) :
    first = second := by
  have tails := List.append_cancel_left same
  simp only [List.cons.injEq, true_and] at tails
  exact digits_injective first second tails

/-! ## The decimal text is an accepted sequence -/

theorem digit_char_positive (digit : Nat) (positive : 0 < digit) (small : digit < 10) :
    '1' ≤ digit.digitChar ∧ digit.digitChar ≤ '9' := by
  have cases : digit = 1 ∨ digit = 2 ∨ digit = 3 ∨ digit = 4 ∨ digit = 5 ∨ digit = 6 ∨
      digit = 7 ∨ digit = 8 ∨ digit = 9 := by omega
  rcases cases with rfl | rfl | rfl | rfl | rfl | rfl | rfl | rfl | rfl <;> decide

/-- The first digit of a positive number is not zero. -/
theorem leading_digit (number : Nat) (positive : 0 < number) :
    ∃ first rest, Nat.toDigits 10 number = first :: rest ∧ '1' ≤ first ∧ first ≤ '9' := by
  induction number using Nat.strongRecOn with
  | ind number induction =>
      rcases Nat.lt_or_ge number 10 with small | large
      · refine ⟨number.digitChar, [], Nat.toDigits_of_lt_base small, ?_⟩
        exact digit_char_positive number positive small
      · obtain ⟨first, rest, shorter, bounds⟩ := induction (number / 10)
          (Nat.div_lt_self positive (by decide)) (Nat.div_pos large (by decide))
        refine ⟨first, rest ++ [(number % 10).digitChar], ?_, bounds⟩
        rw [Nat.toDigits_of_base_le (by decide) large, shorter, List.cons_append]

theorem digits_sequence (number : Nat) (bounded : number ≤ uint64Max) :
    isSequence (Nat.toDigits 10 number) = true := by
  rcases Nat.eq_zero_or_pos number with rfl | positive
  · rfl
  · obtain ⟨first, rest, digits, low, high⟩ := leading_digit number positive
    have short : (Nat.toDigits 10 number).length ≤ 20 := by
      rw [Nat.length_toDigits_le_iff (by decide) (by decide)]
      exact Nat.lt_of_le_of_lt bounded (by decide)
    have digit : ∀ character ∈ Nat.toDigits 10 number, character.isDigit = true := by
      intro character member
      exact Nat.isDigit_of_mem_toDigits (by decide) (by decide) member
    rw [digits] at short digit ⊢
    have rest_short : rest.length ≤ 19 := by
      rw [List.length_cons] at short
      omega
    have rest_digits : rest.all Char.isDigit = true := by
      rw [List.all_eq_true]
      intro character member
      exact digit character (List.mem_cons_of_mem first member)
    simp [isSequence, low, high, rest_digits, rest_short]

theorem scoped_match (processUuid : ProcessUuid) (kind : Char) (jobId : Nat)
    (known : kind = 't' ∨ kind = 'k') (bounded : jobId ≤ uint64Max) :
    processScopedIdMatch (String.ofList (scopedText processUuid kind jobId)) =
      some { process := processUuid.val.toList
             kind := kind
             seq := Nat.toDigits 10 jobId } := by
  have length := process_uuid_length processUuid
  have drop : (scopedText processUuid kind jobId).drop 32 =
      ':' :: kind :: ':' :: Nat.toDigits 10 jobId := by
    rw [scopedText, ← length, List.drop_left]
  have take : (scopedText processUuid kind jobId).take 32 = processUuid.val.toList := by
    rw [scopedText, ← length, List.take_left]
  unfold processScopedIdMatch
  rw [String.toList_ofList, drop, take]
  simp only [if_pos (And.intro length (And.intro (process_uuid_hex processUuid)
    (And.intro known (digits_sequence jobId bounded))))]

theorem scoped_id_valid (processUuid : ProcessUuid) (kind : Char) (jobId : Nat)
    (known : kind = 't' ∨ kind = 'k') (bounded : jobId ≤ uint64Max) :
    isScopedId kind (String.ofList (scopedText processUuid kind jobId)) = true := by
  rw [isScopedId, scoped_match processUuid kind jobId known bounded]
  simp [Nat.ofDigitChars_ten_toDigits, bounded]

/-- The transfer the binding gives to a job. -/
def jobTransfer (processUuid : ProcessUuid) (jobId : Uint uint64Max) : TransferIdentity :=
  ⟨⟨String.ofList (scopedText processUuid 't' jobId.val),
    scoped_id_valid processUuid 't' jobId.val (Or.inl rfl) jobId.property⟩⟩

theorem id_text (processUuid : ProcessUuid) (separator : String) (kind : Char) (jobId : Nat)
    (split : separator.toList = [':', kind, ':']) :
    processUuid.val ++ separator ++ toString jobId =
      String.ofList (scopedText processUuid kind jobId) := by
  apply String.toList_injective
  rw [String.toList_ofList, String.toList_append, String.toList_append, split, scopedText,
    Nat.toString_eq_repr, Nat.toList_repr, List.append_assoc]
  rfl

section Binding

variable {World : Type} (binding : VllmOffloadingObserverBinding World)

theorem transfer_of_job (jobId : Uint uint64Max) :
    binding.transferOf jobId.val = .ok (jobTransfer binding.processUuid jobId) := by
  have valid := scoped_id_valid binding.processUuid 't' jobId.val (Or.inl rfl) jobId.property
  unfold VllmOffloadingObserverBinding.transferOf TransferIdentity.make requireScopedId
  simp only [id_text binding.processUuid ":t:" 't' jobId.val rfl, dif_pos valid]
  rfl

/-- Whatever job id was accepted, its transfer reads as the text it was built from. -/
theorem transfer_of_value (jobId : Nat) (transfer : TransferIdentity)
    (built : binding.transferOf jobId = .ok transfer) :
    transfer.value = String.ofList (scopedText binding.processUuid 't' jobId) := by
  unfold VllmOffloadingObserverBinding.transferOf TransferIdentity.make requireScopedId at built
  rw [id_text binding.processUuid ":t:" 't' jobId rfl] at built
  simp only at built
  split at built
  · cases built
    rfl
  · cases built

theorem transfer_of_injective (first second : Nat) (transfer : TransferIdentity)
    (one : binding.transferOf first = .ok transfer)
    (other : binding.transferOf second = .ok transfer) : first = second := by
  have same := (transfer_of_value binding first transfer one).symm.trans
    (transfer_of_value binding second transfer other)
  have text := congrArg String.toList same
  rw [String.toList_ofList, String.toList_ofList] at text
  exact scoped_text_injective binding.processUuid 't' first second text

theorem transfer_of_process (jobId : Nat) (transfer : TransferIdentity)
    (built : binding.transferOf jobId = .ok transfer) :
    transfer.processUuid = binding.processUuid.val := by
  rw [TransferIdentity.processUuid, transfer_of_value binding jobId transfer built, scopedText]
  exact process_uuid_of_append binding.processUuid _

/-- A receipt built by the binding belongs to its process, whatever the sequence
text is. -/
theorem receipt_of_process (text : String) (receipt : ReceiptIdentity)
    (built : ReceiptIdentity.make (.str (binding.processUuid.val ++ ":k:" ++ text)) =
      .ok receipt) : receipt.processUuid = binding.processUuid.val := by
  have value : receipt.value = binding.processUuid.val ++ ":k:" ++ text := by
    unfold ReceiptIdentity.make requireScopedId at built
    simp only at built
    split at built
    · cases built
      rfl
    · cases built
  have split : binding.processUuid.val ++ ":k:" ++ text =
      String.ofList (binding.processUuid.val.toList ++ ':' :: ('k' :: ':' :: text.toList)) := by
    apply String.toList_injective
    rw [String.toList_ofList, String.toList_append, String.toList_append, List.append_assoc]
    rfl
  rw [ReceiptIdentity.processUuid, value, split]
  exact process_uuid_of_append binding.processUuid _

end Binding

/-! ## Accepted texts are of this form -/

theorem digit_char_value (character : Char) (digit : character.isDigit = true) :
    character.toNat - '0'.toNat < 10 ∧
      (character.toNat - '0'.toNat).digitChar = character := by
  have bounds : 48 ≤ character.toNat ∧ character.toNat ≤ 57 := by
    rw [Char.isDigit, Bool.and_eq_true, decide_eq_true_eq, decide_eq_true_eq] at digit
    exact ⟨UInt32.le_iff_toNat_le.mp digit.1, UInt32.le_iff_toNat_le.mp digit.2⟩
  have small : character.toNat - 48 < 10 := by omega
  refine ⟨small, Char.toNat_inj.mp ?_⟩
  change (character.toNat - 48).digitChar.toNat = character.toNat
  rw [Nat.toNat_digitChar_of_lt_ten small]
  omega

/-- Digits after a positive number are the digits of the number they lead to. -/
theorem digits_of_value (digits : List Char) (number : Nat) (positive : 0 < number)
    (decimal : digits.all Char.isDigit = true) :
    Nat.toDigits 10 number ++ digits = Nat.toDigits 10 (Nat.ofDigitChars 10 digits number) := by
  induction digits generalizing number with
  | nil => rw [List.append_nil, Nat.ofDigitChars_nil]
  | cons digit digits induction =>
      rw [List.all_cons, Bool.and_eq_true] at decimal
      obtain ⟨small, written⟩ := digit_char_value digit decimal.1
      have longer := Nat.toDigits_append_toDigits (b := 10) (by decide) positive small
      rw [Nat.toDigits_of_lt_base small, written] at longer
      have tail := induction (10 * number + (digit.toNat - '0'.toNat)) (by omega) decimal.2
      rw [Nat.ofDigitChars_cons, ← tail, ← longer, List.append_assoc, List.singleton_append]

theorem sequence_digits (sequence : List Char) (valid : isSequence sequence = true) :
    Nat.toDigits 10 (Nat.ofDigitChars 10 sequence 0) = sequence := by
  cases sequence with
  | nil => cases valid
  | cons first rest =>
      rw [isSequence, Bool.or_eq_true] at valid
      rcases valid with zero | positive
      · rw [Bool.and_eq_true, beq_iff_eq, List.isEmpty_iff] at zero
        obtain ⟨rfl, rfl⟩ := zero
        rfl
      · simp only [Bool.and_eq_true, decide_eq_true_eq] at positive
        obtain ⟨⟨⟨low, high⟩, decimal⟩, _⟩ := positive
        have bounds : 49 ≤ first.toNat ∧ first.toNat ≤ 57 := ⟨low, high⟩
        have leading : first.isDigit = true := by
          rw [Char.isDigit, Bool.and_eq_true, decide_eq_true_eq, decide_eq_true_eq]
          exact ⟨UInt32.le_iff_toNat_le.mpr (Nat.le_trans (by decide) low),
            UInt32.le_iff_toNat_le.mpr high⟩
        obtain ⟨small, written⟩ := digit_char_value first leading
        have whole := digits_of_value rest (first.toNat - '0'.toNat)
          (Nat.sub_pos_of_lt bounds.1) decimal
        rw [Nat.toDigits_of_lt_base small, written, List.singleton_append] at whole
        rw [Nat.ofDigitChars_cons, Nat.mul_zero, Nat.zero_add, ← whole]

theorem match_parts {text : String} {groups : ScopedIdMatch}
    (found : processScopedIdMatch text = some groups) :
    text.toList = groups.process ++ ':' :: groups.kind :: ':' :: groups.seq ∧
      groups.process.length = 32 ∧ groups.process.all isHexDigit = true ∧
      isSequence groups.seq = true := by
  unfold processScopedIdMatch at found
  split at found
  · rename_i kind sequence tail
    dsimp only at found
    split at found
    · rename_i valid
      cases found
      refine ⟨?_, valid.1, valid.2.1, valid.2.2.2⟩
      rw [← tail, List.take_append_drop]
    · cases found
  · cases found

theorem scoped_id_iff (kind : Char) (known : kind = 't' ∨ kind = 'k') (text : String) :
    isScopedId kind text = true ↔ ∃ (processUuid : ProcessUuid) (sequence : Uint uint64Max),
      text = String.ofList (scopedText processUuid kind sequence.val) := by
  constructor
  · intro valid
    unfold isScopedId at valid
    split at valid
    · cases valid
    · rename_i groups found
      rw [Bool.and_eq_true, beq_iff_eq, decide_eq_true_eq] at valid
      obtain ⟨parts, length, hex, sequence⟩ := match_parts found
      have process : isProcessUuid (String.ofList groups.process) = true := by
        rw [isProcessUuid, String.toList_ofList, length, hex]
        rfl
      refine ⟨⟨_, process⟩, ⟨_, valid.2⟩, ?_⟩
      apply String.toList_injective
      rw [String.toList_ofList, scopedText, String.toList_ofList, sequence_digits _ sequence,
        parts, valid.1]
  · rintro ⟨processUuid, sequence, rfl⟩
    exact scoped_id_valid processUuid kind sequence.val known sequence.property

/-! ## Both kinds of identities -/

/-- The texts that a constructor accepts are those of a process and a uint64 sequence
with the separator between them, and process and sequence can be told from the text. -/
structure Encodes {Identity : Type} (make : PyObject → Py Identity)
    (processUuidOf : Identity → String) (separator : String) : Prop where
  accepted : ∀ text, (∃ id, make (.str text) = .ok id) ↔
    ∃ (processUuid : ProcessUuid) (sequence : Uint uint64Max),
      text = processUuid.val ++ separator ++ toString sequence.val
  injective : ∀ (first second : ProcessUuid) (number other : Nat),
    first.val ++ separator ++ toString number = second.val ++ separator ++ toString other →
      first = second ∧ number = other
  process : ∀ (processUuid : ProcessUuid) (number : Nat) (id : Identity),
    make (.str (processUuid.val ++ separator ++ toString number)) = .ok id →
      processUuidOf id = processUuid.val

theorem text_injective (separator : String) (kind : Char)
    (split : separator.toList = [':', kind, ':']) (first second : ProcessUuid)
    (number other : Nat)
    (same : first.val ++ separator ++ toString number =
      second.val ++ separator ++ toString other) : first = second ∧ number = other := by
  rw [id_text first separator kind number split, id_text second separator kind other split] at same
  have texts := congrArg String.toList same
  rw [String.toList_ofList, String.toList_ofList] at texts
  have lengths : first.val.toList.length = second.val.toList.length :=
    (process_uuid_length first).trans (process_uuid_length second).symm
  obtain ⟨processes, tails⟩ := List.append_inj texts lengths
  simp only [List.cons.injEq, true_and] at tails
  exact ⟨Subtype.ext (String.toList_injective processes), digits_injective number other tails⟩

theorem accepted_iff {Identity : Type} {make : PyObject → Py Identity}
    {value : Identity → String} (kind : Char) (known : kind = 't' ∨ kind = 'k')
    (separator : String) (split : separator.toList = [':', kind, ':'])
    (make_iff : ∀ object id, make object = .ok id ↔ object = .str (value id))
    (values : ∀ text, (∃ id, value id = text) ↔ isScopedId kind text = true) (text : String) :
    (∃ id, make (.str text) = .ok id) ↔
      ∃ (processUuid : ProcessUuid) (sequence : Uint uint64Max),
        text = processUuid.val ++ separator ++ toString sequence.val := by
  have made : (∃ id, make (.str text) = .ok id) ↔ ∃ id, value id = text := by
    constructor
    · rintro ⟨id, accepted⟩
      have same := (make_iff (.str text) id).mp accepted
      exact ⟨id, (PyObject.str.inj same).symm⟩
    · rintro ⟨id, rfl⟩
      exact ⟨id, (make_iff _ id).mpr rfl⟩
  rw [made, values, scoped_id_iff kind known]
  simp only [id_text _ separator kind _ split]

theorem transfer_texts : Encodes TransferIdentity.make TransferIdentity.processUuid ":t:" where
  accepted := by
    apply accepted_iff 't' (.inl rfl) ":t:" rfl transfer_make_iff
    intro text
    constructor
    · rintro ⟨transfer, rfl⟩
      exact transfer.id.property
    · intro valid
      exact ⟨⟨⟨text, valid⟩⟩, rfl⟩
  injective := text_injective ":t:" 't' rfl
  process := by
    intro processUuid number transfer made
    have value := PyObject.str.inj ((transfer_make_iff _ transfer).mp made)
    rw [id_text processUuid ":t:" 't' number rfl] at value
    rw [TransferIdentity.processUuid, ← value]
    exact process_uuid_of_append processUuid _

theorem receipt_texts : Encodes ReceiptIdentity.make ReceiptIdentity.processUuid ":k:" where
  accepted := by
    apply accepted_iff 'k' (.inr rfl) ":k:" rfl receipt_make_iff
    intro text
    constructor
    · rintro ⟨receipt, rfl⟩
      exact receipt.id.property
    · intro valid
      exact ⟨⟨⟨text, valid⟩⟩, rfl⟩
  injective := text_injective ":k:" 'k' rfl
  process := by
    intro processUuid number receipt made
    have value := PyObject.str.inj ((receipt_make_iff _ receipt).mp made)
    rw [id_text processUuid ":k:" 'k' number rfl] at value
    rw [ReceiptIdentity.processUuid, ← value]
    exact process_uuid_of_append processUuid _

/-- No text names both a transfer and a receipt. -/
theorem kinds_disjoint (text : String) (transfer : isScopedId 't' text = true)
    (receipt : isScopedId 'k' text = true) : False := by
  unfold isScopedId at transfer receipt
  cases found : processScopedIdMatch text with
  | none =>
      rw [found] at transfer
      cases transfer
  | some groups =>
      rw [found] at transfer receipt
      simp only [Bool.and_eq_true, beq_iff_eq] at transfer receipt
      exact absurd (transfer.1.symm.trans receipt.1) (by decide)

/-- `ReceiptIdentity(f"{self._process_uuid}:k:{job_id}")`. -/
def receiptOf {World : Type} (binding : VllmOffloadingObserverBinding World)
    (jobId : PyObject) : Py ReceiptIdentity :=
  ReceiptIdentity.make (.str (binding.processUuid.val ++ ":k:" ++
    VllmOffloadingObserverBinding.formatJobId jobId))

/-- What the ids that a binding builds for its jobs are. -/
structure JobIds {World : Type} (binding : VllmOffloadingObserverBinding World) : Prop where
  transfer : ∀ jobId : Uint uint64Max, ∃ id, binding.transferOf jobId.val = .ok id
  receipt : ∀ jobId : Uint uint64Max, ∃ id, receiptOf binding (.int jobId.val) = .ok id
  distinctTransfers : ∀ first second : Uint uint64Max, first ≠ second →
    binding.transferOf first.val ≠ binding.transferOf second.val
  distinctReceipts : ∀ first second : Uint uint64Max, first ≠ second →
    receiptOf binding (.int first.val) ≠ receiptOf binding (.int second.val)

theorem distinct_ids {Identity : Type} {make : PyObject → Py Identity}
    {processUuidOf value : Identity → String} {separator : String}
    (encodes : Encodes make processUuidOf separator)
    (make_iff : ∀ object id, make object = .ok id ↔ object = .str (value id))
    (processUuid : ProcessUuid) (first second : Uint uint64Max) (different : first ≠ second) :
    make (.str (processUuid.val ++ separator ++ toString first.val)) ≠
      make (.str (processUuid.val ++ separator ++ toString second.val)) := by
  intro same
  obtain ⟨id, made⟩ := (encodes.accepted _).mpr ⟨processUuid, first, rfl⟩
  have one := PyObject.str.inj ((make_iff _ id).mp made)
  have other := PyObject.str.inj ((make_iff _ id).mp (same ▸ made))
  exact different (Subtype.ext
    (encodes.injective processUuid processUuid _ _ (one.trans other.symm)).2)

theorem job_ids {World : Type} (binding : VllmOffloadingObserverBinding World) :
    JobIds binding where
  transfer jobId := (transfer_texts.accepted _).mpr ⟨binding.processUuid, jobId, rfl⟩
  receipt jobId := (receipt_texts.accepted _).mpr ⟨binding.processUuid, jobId, rfl⟩
  distinctTransfers := distinct_ids transfer_texts transfer_make_iff binding.processUuid
  distinctReceipts := distinct_ids receipt_texts receipt_make_iff binding.processUuid

/-- Scoped ids encode a process and a uint64 sequence, transfers and receipts apart, and
the binding's own are always accepted and never shared by two jobs. -/
theorem scoped_ids_encode_process_and_sequence :
    Encodes TransferIdentity.make TransferIdentity.processUuid ":t:" ∧
      Encodes ReceiptIdentity.make ReceiptIdentity.processUuid ":k:" ∧
      (∀ text transfer receipt, TransferIdentity.make (.str text) = .ok transfer →
        ReceiptIdentity.make (.str text) ≠ .ok receipt) ∧
      ∀ (World : Type) (binding : VllmOffloadingObserverBinding World), JobIds binding := by
  refine ⟨transfer_texts, receipt_texts, ?_, fun World binding => job_ids binding⟩
  intro text transfer receipt one other
  have first := PyObject.str.inj ((transfer_make_iff _ transfer).mp one)
  have second := PyObject.str.inj ((receipt_make_iff _ receipt).mp other)
  exact kinds_disjoint text (first ▸ transfer.id.property) (second ▸ receipt.id.property)

end KVTransferObservability.ScopedIds
