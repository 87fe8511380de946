import Psv.Reconciliation
import Psv.Python.Lenient

/-!
# Strict decoding of transfer logs

The decoder of `reconciliation.py` promises to decode "without coercion or
defaults".  Its checks go through `bytes.fromhex` and `int(text, 16)`, which
also read white space, signs and underscores.  A log whose texts pass all checks
(`LogTexts.Readable`) is decoded up to the conversion of the data; so the
decoder is strict on a log exactly when texts that pass the checks hold nothing
but digits (`decoding_iff`).
-/

namespace Psv

open Python Interaction Chain Reconciliation

namespace Ledger

section Fields

variable [Interpreter] {text : Str} {size : ℕ} {what : String}

theorem exactHex_of_loose (loose : isLooseHex size text = true) :
    exactHex (.str text) size what = .ok (lower text) := by
  simp only [isLooseHex, Bool.and_eq_true, decide_eq_true_eq] at loose
  exact if_pos ⟨loose.1.1, loose.1.2, loose.2⟩

theorem exactHex_cases (value : Value) (size : ℕ) (what : String) :
    (∃ text, value = .str text ∧ isLooseHex size text = true ∧
      exactHex value size what = .ok (lower text)) ∨
    ∃ message, exactHex value size what = .error (.reconciliationError message) := by
  cases value with
  | str text =>
      by_cases loose : isLooseHex size text = true
      · exact Or.inl ⟨text, rfl, loose, exactHex_of_loose loose⟩
      · right
        refine ⟨_, if_neg ?_⟩
        intro ⟨start, length, readable⟩
        simp [isLooseHex, start, length, readable] at loose
  | _ => exact Or.inr ⟨_, rfl⟩

/-- The number that the quantity decoder reads. -/
def looseQuantity (text : Str) : Option ℤ :=
  if text.take 2 ≠ ['0', 'x'] ∨ text.length = 2 ∨ (3 < text.length ∧ text[2]? = some '0') then none
  else (int16 (text.drop 2)).filter fun n => decide (0 ≤ n ∧ n ≤ uint256Max)

theorem quantity_of_loose {n : ℤ} (loose : looseQuantity text = some n) :
    quantity (.str text) what = .ok n ∧ 0 ≤ n ∧ n ≤ uint256Max := by
  unfold looseQuantity at loose
  split at loose
  · cases loose
  · rename_i shape
    simp only [Option.filter_eq_some_iff, decide_eq_true_eq] at loose
    rcases loose with ⟨read, bounds⟩
    refine ⟨?_, bounds⟩
    have inside : ¬¬(0 ≤ n ∧ n ≤ uint256Max) := not_not.mpr bounds
    simp only [quantity, refuse_of_fails shape, read, orRaise, Checks.ok_bind,
      refuse_of_fails inside]
    rfl

theorem bounds_of_loose {n : ℤ} (loose : looseQuantity text = some n) :
    0 ≤ n ∧ n ≤ uint256Max :=
  (@quantity_of_loose _ text "" n loose).2

theorem quantity_cases (value : Value) (what : String) :
    (∃ text n, value = .str text ∧ looseQuantity text = some n ∧ quantity value what = .ok n) ∨
    ∃ message, quantity value what = .error (.reconciliationError message) := by
  cases value with
  | str text =>
      rcases loose : looseQuantity text with _ | n
      · right
        unfold looseQuantity at loose
        split at loose
        · rename_i shape
          simp only [quantity, refuse_of_holds shape]
          exact ⟨_, rfl⟩
        · rename_i shape
          simp only [quantity, refuse_of_fails shape, Checks.ok_bind]
          rcases read : int16 (text.drop 2) with _ | n
          · exact ⟨_, rfl⟩
          · have outside : ¬(0 ≤ n ∧ n ≤ uint256Max) := by
              simpa [read, Option.filter] using loose
            simp only [orRaise, Checks.ok_bind, refuse_of_holds outside]
            exact ⟨_, rfl⟩
      · exact Or.inl ⟨text, n, rfl, loose, (quantity_of_loose loose).1⟩
  | _ => exact Or.inr ⟨_, rfl⟩

/-- A topic that holds an address behind zeros, as far as the decoder looks. -/
def isLooseTopic (topic : Str) : Bool :=
  isLooseHex 32 topic && decide (((lower topic).drop 2).take 24 = List.replicate 24 '0')

theorem addrFromTopic_of_loose (loose : isLooseTopic text = true) :
    addrFromTopic (.str text) what = .ok ('0' :: 'x' :: (lower text).drop 26) := by
  simp only [isLooseTopic, Bool.and_eq_true, decide_eq_true_eq] at loose
  have padded : ¬((lower text).drop 2).take 24 ≠ List.replicate 24 '0' := not_not.mpr loose.2
  simp only [addrFromTopic, exactHex_of_loose loose.1, Checks.ok_bind, refuse_of_fails padded]
  rfl

theorem addrFromTopic_cases (value : Value) (what : String) :
    (∃ text, value = .str text ∧ isLooseTopic text = true ∧
      addrFromTopic value what = .ok ('0' :: 'x' :: (lower text).drop 26)) ∨
    ∃ message, addrFromTopic value what = .error (.reconciliationError message) := by
  rcases exactHex_cases value 32 what with ⟨text, rfl, loose, exact⟩ | ⟨message, failed⟩
  · by_cases padded : ((lower text).drop 2).take 24 = List.replicate 24 '0'
    · have topic : isLooseTopic text = true := by simp [isLooseTopic, loose, padded]
      exact Or.inl ⟨text, rfl, topic, addrFromTopic_of_loose topic⟩
    · right
      simp only [addrFromTopic, exact, Checks.ok_bind, refuse_of_holds padded]
      exact ⟨_, rfl⟩
  · right
    simp only [addrFromTopic, failed]
    exact ⟨message, rfl⟩

/-- The address of a loose topic passes the constructor of the credit unchanged. -/
theorem looseTopic_tail (loose : isLooseTopic text = true) :
    isLooseHex 20 ('0' :: 'x' :: (lower text).drop 26) = true ∧
      lower ('0' :: 'x' :: (lower text).drop 26) = '0' :: 'x' :: (lower text).drop 26 := by
  simp only [isLooseTopic, Bool.and_eq_true, decide_eq_true_eq] at loose
  rcases loose with ⟨loose, padded⟩
  rcases isLooseHex_iff.mp loose with ⟨rest, rfl, length, readable⟩
  rw [lower_loose readable] at padded ⊢
  have lowered := isSome_fromHex_toLower readable
  have zeros : ((rest.map Char.toLower).take 24).all isHexDigit = true := by
    rw [show (rest.map Char.toLower).take 24 = List.replicate 24 '0' from padded]
    decide
  have even : ((rest.map Char.toLower).take 24).length % 2 = 0 := by
    simp [length]
  have tail : (fromHex ((rest.map Char.toLower).drop 24)).isSome = true := by
    apply isSome_fromHex_append zeros even
    rwa [List.take_append_drop]
  constructor
  · exact isLooseHex_iff.mpr ⟨_, rfl, by simp [length], tail⟩
  · have again : ((rest.map Char.toLower).drop 24).map Char.toLower =
        (rest.map Char.toLower).drop 24 := by
      have whole := lower_lower_loose loose
      rw [lower_loose readable, lower_loose lowered] at whole
      rw [List.map_drop]
      exact congrArg (List.drop 24) (List.cons.inj (List.cons.inj whole).2).2
    have dropped : ('0' :: 'x' :: rest.map Char.toLower).drop 26 =
        (rest.map Char.toLower).drop 24 := rfl
    rw [dropped, lower_loose tail, again]

end Fields

/-! ### The texts of a log -/

namespace LogTexts

/-- The texts that the checks of the decoder do not compare with anything. -/
def free (texts : LogTexts) : List Str :=
  [texts.topic1, texts.topic2, texts.data, texts.address, texts.transactionHash, texts.logIndex,
    texts.blockHash, texts.blockNumber]

/-- Nothing but digits behind the prefix. -/
def Plain (texts : LogTexts) : Prop :=
  ∀ text ∈ texts.free, (text.drop 2).all isHexDigit = true

variable [Interpreter]

/-- The texts that pass every check in front of the conversion of the data. -/
structure Readable (texts : LogTexts) : Prop where
  topic0 : isLooseHex 32 texts.topic0 = true
  signature : lower texts.topic0 = topicTransfer
  topic1 : isLooseTopic texts.topic1 = true
  topic2 : isLooseTopic texts.topic2 = true
  data : isLooseHex 32 texts.data = true
  address : isLooseHex 20 texts.address = true
  transactionHash : isLooseHex 32 texts.transactionHash = true
  logIndex : (looseQuantity texts.logIndex).isSome = true
  blockHash : isLooseHex 32 texts.blockHash = true
  blockNumber : (looseQuantity texts.blockNumber).isSome = true

/-- The credit of readable texts. -/
def credit (texts : LogTexts) (chainId logIndex blockNumber value : ℤ) : OnChainCredit where
  identity := ⟨chainId, lower texts.address, lower texts.transactionHash, logIndex⟩
  blockHash := lower texts.blockHash
  blockNumber := blockNumber
  payer := '0' :: 'x' :: (lower texts.topic1).drop 26
  payee := '0' :: 'x' :: (lower texts.topic2).drop 26
  value := value
  removed := texts.removed

end LogTexts

section Decoder

variable [Interpreter] {log : Fields} {chainId : ℤ} {texts : LogTexts}

theorem settlementIdentity_of_loose {address txHash : Str} {logIndex : ℤ}
    (positive : 0 < chainId) (addressLoose : isLooseHex 20 address = true)
    (txLoose : isLooseHex 32 txHash = true) (bounds : 0 ≤ logIndex ∧ logIndex ≤ uint256Max) :
    settlementIdentity chainId (lower address) (lower txHash) logIndex =
      .ok ⟨chainId, lower address, lower txHash, logIndex⟩ := by
  have notNegative : ¬chainId ≤ 0 := not_le.mpr positive
  have inside : ¬¬(0 ≤ logIndex ∧ logIndex ≤ uint256Max) := not_not.mpr bounds
  simp only [settlementIdentity, Reconciliation.address, refuse_of_fails notNegative,
    exactHex_of_loose (isLooseHex_lower addressLoose), lower_lower_loose addressLoose,
    exactHex_of_loose (isLooseHex_lower txLoose), lower_lower_loose txLoose,
    refuse_of_fails inside, Checks.ok_bind]
  rfl

/-- On readable texts the decoder gets to the conversion of the data, and through the rest. -/
theorem decode_of_readable (isOf : texts.Of log) (positive : 0 < chainId)
    (readable : texts.Readable) :
    ∃ logIndex blockNumber, looseQuantity texts.logIndex = some logIndex ∧
      looseQuantity texts.blockNumber = some blockNumber ∧
      decodeTransferLog log chainId =
        match int16 (lower texts.data) with
        | some value => .ok (texts.credit chainId logIndex blockNumber value)
        | none => .error (.valueError s!"invalid literal for int() with base 16: {
            Interpreter.repr (.str (lower texts.data))}") := by
  rcases Option.isSome_iff_exists.mp readable.logIndex with ⟨logIndex, indexed⟩
  rcases Option.isSome_iff_exists.mp readable.blockNumber with ⟨blockNumber, numbered⟩
  refine ⟨logIndex, blockNumber, indexed, numbered, ?_⟩
  have notNegative : ¬chainId ≤ 0 := not_le.mpr positive
  have signature : ¬lower texts.topic0 ≠ topicTransfer := not_not.mpr readable.signature
  have payer := looseTopic_tail readable.topic1
  have payee := looseTopic_tail readable.topic2
  have indexBounds : 0 ≤ logIndex ∧ logIndex ≤ uint256Max := bounds_of_loose indexed
  have numberBounds : 0 ≤ blockNumber ∧ blockNumber ≤ uint256Max := bounds_of_loose numbered
  have numberInside : ¬¬(0 ≤ blockNumber ∧ blockNumber ≤ uint256Max) := not_not.mpr numberBounds
  simp only [decodeTransferLog, refuse_of_fails notNegative, isOf.topics,
    exactHex_of_loose readable.topic0, refuse_of_fails signature, isOf.data,
    exactHex_of_loose readable.data, isOf.removed, isOf.address, Reconciliation.address,
    exactHex_of_loose readable.address, isOf.transactionHash,
    exactHex_of_loose readable.transactionHash, isOf.logIndex, (quantity_of_loose indexed).1,
    isOf.blockHash, exactHex_of_loose readable.blockHash, isOf.blockNumber,
    (quantity_of_loose numbered).1, Checks.ok_bind,
    settlementIdentity_of_loose positive readable.address readable.transactionHash indexBounds,
    addrFromTopic_of_loose readable.topic1, addrFromTopic_of_loose readable.topic2]
  rcases read : int16 (lower texts.data) with _ | value
  · rfl
  · have bounds := int16_loose readable.data read
    have valueInside : ¬¬(0 ≤ value ∧ value ≤ uint256Max) := by
      rw [not_not, uint256Max]
      have := bounds.2
      constructor
      · exact bounds.1
      · norm_num at this ⊢
        omega
    simp only [orRaise, Checks.ok_bind, onChainCredit,
      exactHex_of_loose (isLooseHex_lower readable.blockHash),
      lower_lower_loose readable.blockHash, Reconciliation.address, exactHex_of_loose payer.1,
      payer.2, exactHex_of_loose payee.1, payee.2, refuse_of_fails numberInside,
      refuse_of_fails valueInside]
    rfl

/-- The computation does not end in a `ReconciliationError`. -/
def Unrefused {α : Type} (computation : Except PyError α) : Prop :=
  ∀ message, computation ≠ .error (.reconciliationError message)

namespace Unrefused

variable {α : Type} {value : Value} {size : ℕ} {what : String}

omit [Interpreter] in
theorem refuse_bind {condition : Prop} [Decidable condition] {message : String}
    {next : Unit → Except PyError α}
    (unrefused : Unrefused (refuse condition (.reconciliationError message) >>= next)) :
    ¬condition ∧ Unrefused (next ()) := by
  by_cases holds : condition
  · rw [refuse_of_holds holds] at unrefused
    exact absurd rfl (unrefused message)
  · rw [refuse_of_fails holds] at unrefused
    exact ⟨holds, unrefused⟩

theorem exactHex_bind {next : Str → Except PyError α}
    (unrefused : Unrefused (exactHex value size what >>= next)) :
    ∃ text, value = .str text ∧ isLooseHex size text = true ∧ Unrefused (next (lower text)) := by
  rcases exactHex_cases value size what with ⟨text, isText, loose, exact⟩ | ⟨message, failed⟩
  · rw [exact] at unrefused
    exact ⟨text, isText, loose, unrefused⟩
  · rw [failed] at unrefused
    exact absurd rfl (unrefused message)

theorem quantity_bind {next : ℤ → Except PyError α}
    (unrefused : Unrefused (quantity value what >>= next)) :
    ∃ text n, value = .str text ∧ looseQuantity text = some n ∧ Unrefused (next n) := by
  rcases quantity_cases value what with ⟨text, n, isText, loose, exact⟩ | ⟨message, failed⟩
  · rw [exact] at unrefused
    exact ⟨text, n, isText, loose, unrefused⟩
  · rw [failed] at unrefused
    exact absurd rfl (unrefused message)

theorem addrFromTopic_bind {next : Str → Except PyError α}
    (unrefused : Unrefused (addrFromTopic value what >>= next)) :
    ∃ text, value = .str text ∧ isLooseTopic text = true ∧
      Unrefused (next ('0' :: 'x' :: (lower text).drop 26)) := by
  rcases addrFromTopic_cases value what with ⟨text, isText, loose, exact⟩ | ⟨message, failed⟩
  · rw [exact] at unrefused
    exact ⟨text, isText, loose, unrefused⟩
  · rw [failed] at unrefused
    exact absurd rfl (unrefused message)

end Unrefused

/-- A log that is not refused has readable texts. -/
theorem readable_of_unrefused (unrefused : Unrefused (decodeTransferLog log chainId)) :
    0 < chainId ∧ ∃ texts : LogTexts, texts.Of log ∧ texts.Readable := by
  unfold decodeTransferLog at unrefused
  rcases unrefused.refuse_bind with ⟨positive, unrefused⟩
  split at unrefused
  · rename_i topic0 topic1 topic2 topics
    rcases unrefused.exactHex_bind with ⟨text0, rfl, loose0, unrefused⟩
    rcases unrefused.refuse_bind with ⟨signature, unrefused⟩
    rcases unrefused.exactHex_bind with ⟨data, isData, dataLoose, unrefused⟩
    split at unrefused
    · rename_i removed isRemoved
      rcases unrefused.exactHex_bind with ⟨address, isAddress, addressLoose, unrefused⟩
      rcases unrefused.exactHex_bind with ⟨txHash, isTx, txLoose, unrefused⟩
      rcases unrefused.quantity_bind with ⟨indexText, index, isIndex, indexed, unrefused⟩
      rcases unrefused.exactHex_bind with ⟨blockHash, isBlockHash, hashLoose, unrefused⟩
      rcases unrefused.quantity_bind with ⟨numberText, number, isNumber, numbered, unrefused⟩
      rw [settlementIdentity_of_loose (not_le.mp positive) addressLoose txLoose
        (bounds_of_loose indexed), Checks.ok_bind] at unrefused
      rcases unrefused.addrFromTopic_bind with ⟨text1, rfl, loose1, unrefused⟩
      rcases unrefused.addrFromTopic_bind with ⟨text2, rfl, loose2, _⟩
      refine ⟨not_le.mp positive, ⟨text0, text1, text2, data, removed, address, txHash, indexText,
        blockHash, numberText⟩, ?_, ?_⟩
      · exact ⟨topics, isData, isRemoved, isAddress, isTx, isIndex, isBlockHash, isNumber⟩
      · exact ⟨loose0, not_not.mp signature, loose1, loose2, dataLoose, addressLoose, txLoose,
          Option.isSome_iff_exists.mpr ⟨_, indexed⟩, hashLoose,
          Option.isSome_iff_exists.mpr ⟨_, numbered⟩⟩
    · exact absurd rfl (unrefused _)
  · exact absurd rfl (unrefused _)

end Decoder

/-! ### Strict logs -/

section Strict

variable [Interpreter]

/-- A strict `Transfer` log and the credit that its texts denote. -/
structure Denotes (log : Fields) (chainId : ℤ) (credit : OnChainCredit) : Prop where
  chainPositive : 0 < chainId
  chain : credit.identity.chainId = chainId
  topics : ∃ topic0 topic1 topic2, getField log "topics" =
      .list [.str topic0, .str topic1, .str topic2] ∧
    isExactHex 64 topic0 = true ∧ isExactHex 64 topic1 = true ∧ isExactHex 64 topic2 = true ∧
    hexVal (topic0.drop 2) = hexVal (topicTransfer.drop 2) ∧
    (topic1.drop 2).take 24 = List.replicate 24 '0' ∧
    (topic2.drop 2).take 24 = List.replicate 24 '0' ∧
    credit.payer = hexAddress (hexVal (topic1.drop 2)) ∧
    credit.payee = hexAddress (hexVal (topic2.drop 2))
  data : ∃ text, getField log "data" = .str text ∧ isExactHex 64 text = true ∧
    credit.value = hexVal (text.drop 2)
  removed : getField log "removed" = .bool credit.removed
  asset : ∃ text, getField log "address" = .str text ∧ isExactHex 40 text = true ∧
    credit.identity.asset = hexAddress (hexVal (text.drop 2))
  txHash : ∃ text, getField log "transactionHash" = .str text ∧ isExactHex 64 text = true ∧
    credit.identity.txHash = hexWord (hexVal (text.drop 2))
  logIndex : ∃ text, getField log "logIndex" = .str text ∧ isQuantity text = true ∧
    hexVal (text.drop 2) ≤ uint256Max ∧ credit.identity.logIndex = hexVal (text.drop 2)
  blockHash : ∃ text, getField log "blockHash" = .str text ∧ isExactHex 64 text = true ∧
    credit.blockHash = hexWord (hexVal (text.drop 2))
  blockNumber : ∃ text, getField log "blockNumber" = .str text ∧ isQuantity text = true ∧
    hexVal (text.drop 2) ≤ uint256Max ∧ credit.blockNumber = hexVal (text.drop 2)

/-- The client's validators accept the scalars of the log and read the same numbers. -/
structure ClientReads (log : Fields) (credit : OnChainCredit) : Prop where
  topics : ∃ topics, getField log "topics" = .list topics ∧
    ∀ topic ∈ topics, ∀ what, ∃ text, Anvil.hash topic what = .ok text
  data : ∀ what, ∃ text, Anvil.data (getField log "data") what = .ok text ∧
    credit.value = hexVal (text.drop 2)
  address : ∀ what, ∃ text, Anvil.address (getField log "address") what = .ok text ∧
    credit.identity.asset = hexAddress (hexVal (text.drop 2))
  transactionHash : ∀ what, ∃ text, Anvil.hash (getField log "transactionHash") what = .ok text ∧
    credit.identity.txHash = hexWord (hexVal (text.drop 2))
  logIndex : ∀ what, ∃ n : ℕ, Anvil.quantity (getField log "logIndex") what = .ok n ∧
    credit.identity.logIndex = n
  blockHash : ∀ what, ∃ text, Anvil.hash (getField log "blockHash") what = .ok text ∧
    credit.blockHash = hexWord (hexVal (text.drop 2))
  blockNumber : ∀ what, ∃ n : ℕ, Anvil.quantity (getField log "blockNumber") what = .ok n ∧
    credit.blockNumber = n

/-- The decoder is strict on the log: it accepts exactly the credit that a strict log denotes,
the client would have accepted the same scalars, and everything else is refused with a
`ReconciliationError`. -/
structure DecodesStrictly (log : Fields) (chainId : ℤ) : Prop where
  exact : ∀ credit, decodeTransferLog log chainId = .ok credit ↔ Denotes log chainId credit
  client : ∀ credit, decodeTransferLog log chainId = .ok credit → ClientReads log credit
  refuses : ∀ error, decodeTransferLog log chainId = .error error →
    ∃ message, error = .reconciliationError message

/-! ### Readable texts without white space -/

theorem isQuantity_of_loose {text : Str} {n : ℤ} (loose : looseQuantity text = some n)
    (plain : (text.drop 2).all isHexDigit = true) :
    isQuantity text = true ∧ hexVal (text.drop 2) ≤ uint256Max ∧ n = hexVal (text.drop 2) := by
  unfold looseQuantity at loose
  split at loose
  · cases loose
  · rename_i shape
    simp only [not_or, not_not, not_and] at shape
    rcases shape with ⟨start, nonempty, canonical⟩
    simp only [Option.filter_eq_some_iff, decide_eq_true_eq] at loose
    rcases loose with ⟨read, _, bound⟩
    rcases text with _ | ⟨c, _ | ⟨d, rest⟩⟩
    · simp at start
    · simp at start
    · simp only [List.take_succ_cons, List.take_zero, List.cons.injEq, and_true] at start
      rcases start with ⟨rfl, rfl⟩
      simp only [List.drop_succ_cons, List.drop_zero] at plain read ⊢
      have notNil : rest ≠ [] := by
        rintro rfl
        exact nonempty rfl
      rw [(int16_digits notNil plain).1] at read
      cases read
      refine ⟨?_, by exact_mod_cast bound, rfl⟩
      rcases rest with _ | ⟨e, _ | ⟨f, rest⟩⟩
      · exact absurd rfl notNil
      · simpa [isQuantity] using plain
      · have nonzero : e ≠ '0' := by simpa using canonical
        simpa [isQuantity, nonzero] using plain

theorem looseQuantity_of_isQuantity {text : Str} (shape : isQuantity text = true)
    (bound : hexVal (text.drop 2) ≤ uint256Max) :
    looseQuantity text = some (hexVal (text.drop 2) : ℤ) ∧
      (text.drop 2).all isHexDigit = true := by
  rcases isQuantity_imp shape with ⟨rest, rfl, _, all⟩
  refine ⟨?_, all⟩
  have read : quantity (.str ('0' :: 'x' :: rest)) "" = .ok (hexVal rest : ℤ) :=
    (quantity_of_isQuantity shape).mpr ⟨rfl, bound⟩
  rcases quantity_cases (.str ('0' :: 'x' :: rest)) "" with ⟨text, n, same, loose, found⟩ | failed
  · cases same
    cases read.symm.trans found
    exact loose
  · rcases failed with ⟨message, failed⟩
    cases read.symm.trans failed

/-- Only the transfer topic itself passes the comparison. -/
theorem signature_iff {topic : Str} :
    (isLooseHex 32 topic = true ∧ lower topic = topicTransfer) ↔
      (isExactHex 64 topic = true ∧ hexVal (topic.drop 2) = hexVal (topicTransfer.drop 2)) := by
  have normal : topicTransfer = '0' :: 'x' :: hexPad 64 (hexVal (topicTransfer.drop 2)) := by
    decide +kernel
  constructor
  · rintro ⟨loose, same⟩
    rcases isLooseHex_iff.mp loose with ⟨rest, rfl, length, readable⟩
    rw [lower_loose readable] at same
    have digits : (rest.map Char.toLower).all isHexDigit = true := by
      have behind : rest.map Char.toLower = topicTransfer.drop 2 := congrArg (List.drop 2) same
      rw [behind]
      decide +kernel
    have plain : rest.all isHexDigit = true := by
      rw [List.all_eq_true] at digits ⊢
      intro c mem
      rcases chars_of_isSome_fromHex readable c mem with digit | space
      · exact digit
      · have lowered := digits c.toLower (List.mem_map_of_mem mem)
        rwa [toLower_of_isAsciiSpace space] at lowered
    refine ⟨isExactHex_iff.mpr ⟨rest, rfl, length, plain⟩, ?_⟩
    rw [← same, List.drop_succ_cons, List.drop_succ_cons, List.drop_zero, List.drop_succ_cons,
      List.drop_succ_cons, List.drop_zero, hexVal_map_toLower plain]
  · rintro ⟨exact, same⟩
    refine ⟨(isLooseHex_of_exact 32 exact).1, ?_⟩
    rw [lower_eq_hexPad exact, same]
    exact normal.symm

omit [Interpreter] in
theorem drop_hexPad (extra width n : ℕ) : (hexPad (extra + width) n).drop extra = hexPad width n := by
  induction width generalizing n with
  | zero =>
      apply List.drop_eq_nil_of_le
      simp
  | succ width ih =>
      rw [← add_assoc, hexPad, List.drop_append_of_le_length (by simp), ih]
      rfl

/-- A plain topic is an exact topic; it holds the address behind the zeros. -/
theorem topic_of_plain {topic : Str} :
    (isLooseTopic topic = true ∧ (topic.drop 2).all isHexDigit = true) ↔
      (isExactHex 64 topic = true ∧ (topic.drop 2).take 24 = List.replicate 24 '0') := by
  have zeros : ∀ rest : Str, rest.all isHexDigit = true →
      ((rest.map Char.toLower).take 24 = List.replicate 24 '0' ↔
        rest.take 24 = List.replicate 24 '0') := by
    intro rest all
    rw [← List.map_take]
    constructor
    · intro same
      rw [List.eq_replicate_iff] at same ⊢
      refine ⟨by simpa using same.1, ?_⟩
      intro c mem
      have digit := List.all_eq_true.mp all c (List.mem_of_mem_take mem)
      exact toLower_eq_zero digit (same.2 _ (List.mem_map_of_mem mem))
    · intro same
      rw [same]
      decide
  constructor
  · rintro ⟨loose, plain⟩
    simp only [isLooseTopic, Bool.and_eq_true, decide_eq_true_eq] at loose
    rcases loose with ⟨loose, padded⟩
    have exact := isExactHex_of_loose loose plain
    rcases isExactHex_iff.mp exact with ⟨rest, rfl, _, all⟩
    rw [lower_prefixed all] at padded
    exact ⟨exact, (zeros rest all).mp padded⟩
  · rintro ⟨exact, padded⟩
    rcases isLooseHex_of_exact 32 exact with ⟨loose, plain⟩
    refine ⟨?_, plain⟩
    rcases isExactHex_iff.mp exact with ⟨rest, rfl, _, all⟩
    have lowered := (zeros rest all).mpr padded
    simp only [isLooseTopic, loose, lower_prefixed all, Bool.true_and, decide_eq_true_eq]
    exact lowered

theorem topic_address {topic : Str} (exact : isExactHex 64 topic = true) :
    '0' :: 'x' :: (lower topic).drop 26 = hexAddress (hexVal (topic.drop 2)) := by
  have wide : (64 : ℕ) = 24 + 40 := by norm_num
  rw [lower_eq_hexPad exact, List.drop_succ_cons, List.drop_succ_cons, wide, drop_hexPad,
    hexAddress]

/-- The strict logs are those whose texts are readable and plain. -/
theorem denotes_iff {log : Fields} {chainId : ℤ} {credit : OnChainCredit} :
    Denotes log chainId credit ↔
      0 < chainId ∧ ∃ texts : LogTexts, texts.Of log ∧ texts.Readable ∧ texts.Plain ∧
        ∃ logIndex blockNumber value, looseQuantity texts.logIndex = some logIndex ∧
          looseQuantity texts.blockNumber = some blockNumber ∧
          int16 (lower texts.data) = some value ∧
          credit = texts.credit chainId logIndex blockNumber value := by
  constructor
  · intro denotes
    rcases denotes.topics with ⟨text0, text1, text2, topics, exact0, exact1, exact2, signature,
      padded1, padded2, payer, payee⟩
    rcases denotes.data with ⟨data, isData, dataExact, value⟩
    rcases denotes.asset with ⟨address, isAddress, addressExact, asset⟩
    rcases denotes.txHash with ⟨txHash, isTx, txExact, tx⟩
    rcases denotes.logIndex with ⟨index, isIndex, indexShape, indexBound, indexed⟩
    rcases denotes.blockHash with ⟨blockHash, isBlockHash, hashExact, hash⟩
    rcases denotes.blockNumber with ⟨number, isNumber, numberShape, numberBound, numbered⟩
    rcases looseQuantity_of_isQuantity indexShape indexBound with ⟨indexLoose, indexPlain⟩
    rcases looseQuantity_of_isQuantity numberShape numberBound with ⟨numberLoose, numberPlain⟩
    rcases topic_of_plain.mpr ⟨exact1, padded1⟩ with ⟨loose1, plain1⟩
    rcases topic_of_plain.mpr ⟨exact2, padded2⟩ with ⟨loose2, plain2⟩
    rcases signature_iff.mpr ⟨exact0, signature⟩ with ⟨loose0, same⟩
    refine ⟨denotes.chainPositive, ⟨text0, text1, text2, data, credit.removed, address, txHash,
      index, blockHash, number⟩, ?_, ?_, ?_, _, _, _, indexLoose, numberLoose,
      int16_lower dataExact, ?_⟩
    · exact ⟨topics, isData, denotes.removed, isAddress, isTx, isIndex, isBlockHash, isNumber⟩
    · exact ⟨loose0, same, loose1, loose2, (isLooseHex_of_exact 32 dataExact).1,
        (isLooseHex_of_exact 20 addressExact).1, (isLooseHex_of_exact 32 txExact).1,
        Option.isSome_iff_exists.mpr ⟨_, indexLoose⟩, (isLooseHex_of_exact 32 hashExact).1,
        Option.isSome_iff_exists.mpr ⟨_, numberLoose⟩⟩
    · simp only [LogTexts.Plain, LogTexts.free, List.mem_cons, List.not_mem_nil, or_false,
        forall_eq_or_imp, forall_eq]
      exact ⟨plain1, plain2, (isLooseHex_of_exact 32 dataExact).2,
        (isLooseHex_of_exact 20 addressExact).2, (isLooseHex_of_exact 32 txExact).2, indexPlain,
        (isLooseHex_of_exact 32 hashExact).2, numberPlain⟩
    · rcases credit with ⟨⟨chain, creditAsset, creditTx, creditIndex⟩, creditHash, creditNumber,
        creditPayer, creditPayee, creditValue, removed⟩
      have chain_eq : chain = chainId := denotes.chain
      simp only at asset tx indexed hash numbered payer payee value
      simp only [LogTexts.credit, topic_address exact1, topic_address exact2,
        lower_eq_hexPad addressExact, lower_eq_hexPad txExact, lower_eq_hexPad hashExact,
        chain_eq, asset, tx, indexed, hash, numbered, payer, payee, value]
      rfl
  · rintro ⟨positive, texts, isOf, readable, plain, logIndex, blockNumber, value, indexLoose,
      numberLoose, read, rfl⟩
    simp only [LogTexts.Plain, LogTexts.free, List.mem_cons, List.not_mem_nil, or_false,
      forall_eq_or_imp, forall_eq] at plain
    rcases plain with ⟨plain1, plain2, dataPlain, addressPlain, txPlain, indexPlain, hashPlain,
      numberPlain⟩
    rcases signature_iff.mp ⟨readable.topic0, readable.signature⟩ with ⟨exact0, signature⟩
    rcases topic_of_plain.mp ⟨readable.topic1, plain1⟩ with ⟨exact1, padded1⟩
    rcases topic_of_plain.mp ⟨readable.topic2, plain2⟩ with ⟨exact2, padded2⟩
    have dataExact := isExactHex_of_loose readable.data dataPlain
    have addressExact := isExactHex_of_loose readable.address addressPlain
    have txExact := isExactHex_of_loose readable.transactionHash txPlain
    have hashExact := isExactHex_of_loose readable.blockHash hashPlain
    rw [int16_lower dataExact] at read
    cases read
    constructor
    · exact positive
    · rfl
    · exact ⟨_, _, _, isOf.topics, exact0, exact1, exact2, signature, padded1, padded2,
        topic_address exact1, topic_address exact2⟩
    · exact ⟨_, isOf.data, dataExact, rfl⟩
    · exact isOf.removed
    · exact ⟨_, isOf.address, addressExact, lower_eq_hexPad addressExact⟩
    · exact ⟨_, isOf.transactionHash, txExact, lower_eq_hexPad txExact⟩
    · exact ⟨_, isOf.logIndex, isQuantity_of_loose indexLoose indexPlain⟩
    · exact ⟨_, isOf.blockHash, hashExact, lower_eq_hexPad hashExact⟩
    · exact ⟨_, isOf.blockNumber, isQuantity_of_loose numberLoose numberPlain⟩

/-- The client reads a strict log as it is. -/
theorem Denotes.clientReads {log : Fields} {chainId : ℤ} {credit : OnChainCredit}
    (denotes : Denotes log chainId credit) : ClientReads log credit := by
  rcases denotes.topics with ⟨text0, text1, text2, topics, exact0, exact1, exact2, _⟩
  rcases denotes.data with ⟨data, isData, dataExact, value⟩
  rcases denotes.asset with ⟨address, isAddress, addressExact, asset⟩
  rcases denotes.txHash with ⟨txHash, isTx, txExact, tx⟩
  rcases denotes.logIndex with ⟨index, isIndex, indexShape, _, indexed⟩
  rcases denotes.blockHash with ⟨blockHash, isBlockHash, hashExact, hash⟩
  rcases denotes.blockNumber with ⟨number, isNumber, numberShape, _, numbered⟩
  constructor
  · refine ⟨_, topics, ?_⟩
    intro topic mem what
    simp only [List.mem_cons, List.not_mem_nil, or_false] at mem
    rcases mem with rfl | rfl | rfl
    · exact ⟨_, Anvil.hash_eq_ok_iff.mpr ⟨rfl, exact0⟩⟩
    · exact ⟨_, Anvil.hash_eq_ok_iff.mpr ⟨rfl, exact1⟩⟩
    · exact ⟨_, Anvil.hash_eq_ok_iff.mpr ⟨rfl, exact2⟩⟩
  · exact fun what => ⟨_, Anvil.data_eq_ok_iff.mpr
      ⟨isData, isData_of_isExactHex dataExact (by norm_num)⟩, value⟩
  · exact fun what => ⟨_, Anvil.address_eq_ok_iff.mpr ⟨isAddress, addressExact⟩, asset⟩
  · exact fun what => ⟨_, Anvil.hash_eq_ok_iff.mpr ⟨isTx, txExact⟩, tx⟩
  · exact fun what => ⟨_, Anvil.quantity_eq_ok_iff.mpr ⟨_, isIndex, indexShape, rfl⟩, indexed⟩
  · exact fun what => ⟨_, Anvil.hash_eq_ok_iff.mpr ⟨isBlockHash, hashExact⟩, hash⟩
  · exact fun what => ⟨_, Anvil.quantity_eq_ok_iff.mpr ⟨_, isNumber, numberShape, rfl⟩, numbered⟩

omit [Interpreter] in
theorem LogTexts.Of.unique {left right : LogTexts} {log : Fields} (isLeft : left.Of log)
    (isRight : right.Of log) : left = right := by
  have topics := isLeft.topics.symm.trans isRight.topics
  have data := isLeft.data.symm.trans isRight.data
  have removed := isLeft.removed.symm.trans isRight.removed
  have address := isLeft.address.symm.trans isRight.address
  have transactionHash := isLeft.transactionHash.symm.trans isRight.transactionHash
  have logIndex := isLeft.logIndex.symm.trans isRight.logIndex
  have blockHash := isLeft.blockHash.symm.trans isRight.blockHash
  have blockNumber := isLeft.blockNumber.symm.trans isRight.blockNumber
  cases left
  cases right
  simp_all

/-- The decoder is strict on a log exactly when texts that pass the checks are plain. -/
theorem decoding_iff (log : Fields) (chainId : ℤ) :
    DecodesStrictly log chainId ↔
      (0 < chainId → ∀ texts : LogTexts, texts.Of log → texts.Readable → texts.Plain) := by
  constructor
  · intro strict positive texts isOf readable
    rcases decode_of_readable isOf positive readable with
      ⟨logIndex, blockNumber, _, _, decoded⟩
    rcases read : int16 (lower texts.data) with _ | value
    · rw [read] at decoded
      rcases strict.refuses _ decoded with ⟨message, impossible⟩
      cases impossible
    · rw [read] at decoded
      rcases denotes_iff.mp ((strict.exact _).mp decoded) with ⟨_, other, isOther, _, plain, _⟩
      rw [isOf.unique isOther]
      exact plain
  · intro plain
    have exact : ∀ credit, decodeTransferLog log chainId = .ok credit ↔
        Denotes log chainId credit := by
      intro credit
      constructor
      · intro decoded
        have unrefused : Unrefused (decodeTransferLog log chainId) := by
          intro message
          rw [decoded]
          simp
        rcases readable_of_unrefused unrefused with ⟨positive, texts, isOf, readable⟩
        rcases decode_of_readable isOf positive readable with
          ⟨logIndex, blockNumber, indexed, numbered, equation⟩
        rcases read : int16 (lower texts.data) with _ | value
        · rw [decoded, read] at equation
          cases equation
        · rw [decoded, read] at equation
          cases equation
          exact denotes_iff.mpr ⟨positive, texts, isOf, readable,
            plain positive texts isOf readable, _, _, _, indexed, numbered, read, rfl⟩
      · intro denotes
        rcases denotes_iff.mp denotes with ⟨positive, texts, isOf, readable, _, logIndex,
          blockNumber, value, indexed, numbered, read, rfl⟩
        rcases decode_of_readable isOf positive readable with
          ⟨logIndex', blockNumber', indexed', numbered', equation⟩
        rw [equation, read]
        cases indexed.symm.trans indexed'
        cases numbered.symm.trans numbered'
        rfl
    refine ⟨exact, fun credit decoded => ((exact credit).mp decoded).clientReads, ?_⟩
    intro error failed
    by_contra other
    have unrefused : Unrefused (decodeTransferLog log chainId) := by
      intro message refused
      rw [failed] at refused
      cases refused
      exact other ⟨message, rfl⟩
    rcases readable_of_unrefused unrefused with ⟨positive, texts, isOf, readable⟩
    have isPlain := plain positive texts isOf readable
    simp only [LogTexts.Plain, LogTexts.free, List.mem_cons, List.not_mem_nil, or_false,
      forall_eq_or_imp, forall_eq] at isPlain
    rcases decode_of_readable isOf positive readable with ⟨_, _, _, _, equation⟩
    rw [failed, int16_lower (isExactHex_of_loose readable.data isPlain.2.2.1)] at equation
    cases equation

end Strict

/-! ### Sample logs -/

/-- A log with the given texts. -/
def LogTexts.log (texts : LogTexts) : Fields :=
  [(.str "topics", .list [.str texts.topic0, .str texts.topic1, .str texts.topic2]),
    (.str "data", .str texts.data), (.str "removed", .bool texts.removed),
    (.str "address", .str texts.address),
    (.str "transactionHash", .str texts.transactionHash),
    (.str "logIndex", .str texts.logIndex), (.str "blockHash", .str texts.blockHash),
    (.str "blockNumber", .str texts.blockNumber)]

theorem LogTexts.of_log (texts : LogTexts) : texts.Of texts.log :=
  ⟨rfl, rfl, rfl, rfl, rfl, rfl, rfl, rfl⟩

/-- A transfer of 100. -/
def sampleTexts : LogTexts where
  topic0 := topicTransfer
  topic1 := hexWord 0xa1
  topic2 := hexWord 0xb2
  data := hexWord 100
  removed := false
  address := hexAddress 0x70
  transactionHash := hexWord 0x1001
  logIndex := "0x1".toList
  blockHash := hexWord 0x11
  blockNumber := "0x1".toList

/-- The same transfer with a sign in front of the position. -/
def signedTexts : LogTexts := { sampleTexts with logIndex := "0x+1".toList }

/-- The decoder reads `0x+1` as a position. -/
theorem signedLog_accepted : letI := asciiInterpreter []
    (∃ credit, decodeTransferLog signedTexts.log 84532 = .ok credit) ∧
      ¬DecodesStrictly signedTexts.log 84532 := by
  let := asciiInterpreter []
  have readable : signedTexts.Readable := by
    constructor <;> decide +kernel
  have read : int16 (lower signedTexts.data) = some 100 := by decide +kernel
  rcases decode_of_readable signedTexts.of_log (by norm_num : (0 : ℤ) < 84532) readable with
    ⟨_, _, _, _, decoded⟩
  rw [read] at decoded
  refine ⟨⟨_, decoded⟩, ?_⟩
  intro strict
  rcases ((strict.exact _).mp decoded).logIndex with ⟨text, isText, quantity, _⟩
  cases isText
  exact absurd quantity (by decide)

end Ledger

end Psv
