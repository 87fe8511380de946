import Psv.Sut.Confirmer
import Psv.Reconciliation
import Psv.Python.Lenient

/-!
# What the confirmer confirms, the reconciler reads

The confirmer reads a transferred value as any hexadecimal number, the strict
decoder of the reconciliation only as a word.  On receipts the client has
validated this is the one difference between them: a confirmed transfer is
decoded as the same credit exactly when its data is one word, the chain id is
positive and the two parties are addresses.
-/

namespace Psv

open Python Interaction Chain Reconciliation

namespace Confirmer

variable [Interpreter]

/-- An address in normal form. -/
def normalAddress (addr : Str) : Str := '0' :: 'x' :: removePrefix0x (lower addr)

/-- Forty hexadecimal digits, with or without the prefix. -/
def IsAddress (addr : Str) : Prop := isExactHex 40 (normalAddress addr) = true

/-- The log whose index the confirmer returns: the last transfer of the receipt. -/
def matchedLog (settlement : Settlement) (receipt : Fields) (fetchedLogs : List Fields) :
    Option Fields :=
  match minedIn settlement receipt, getField receipt "logs" with
  | some blockNumber, .list items => ((mappings items).filter fun log =>
      (transferOf topicTransfer settlement blockNumber fetchedLogs log).isSome).getLast?
  | _, _ => none

/-- The block number and the log indices of a receipt are within `uint256`. -/
def Uint256Quantities (receipt : Fields) : Prop :=
  ∀ logs, LogsAre receipt logs → ∀ log ∈ logs, ∀ name ∈ ["logIndex", "blockNumber"], ∀ text,
    getField log name = .str text → hexVal (text.drop 2) ≤ uint256Max

/-- The credit that the decoder of the reconciliation ought to make of a confirmed settlement. -/
structure ReadsAs (settlement : Settlement) (chainId index : ℤ) (credit : OnChainCredit) :
    Prop where
  identity : credit.identity =
    ⟨chainId, lower settlement.token, lower settlement.submittedTx, index⟩
  payer : credit.payer = normalAddress settlement.payer
  payee : credit.payee = normalAddress settlement.payee
  value : credit.value = settlement.expectedValue
  removed : credit.removed = false

section Last

variable {α β : Type} {select : α → Option β}

omit [Interpreter] in
/-- The last selected value belongs to the last item that is selected. -/
theorem getLast?_filterMap (items : List α) (value : β) :
    (items.filterMap select).getLast? = some value ↔
      ∃ item, (items.filter fun item => (select item).isSome).getLast? = some item ∧
        select item = some value := by
  induction items using List.reverseRecOn with
  | nil =>
    constructor
    · intro impossible
      cases impossible
    · intro impossible
      rcases impossible with ⟨_, impossible, _⟩
      cases impossible
  | append_singleton items item ih =>
    rw [List.filterMap_append, List.filter_append, List.getLast?_append, List.getLast?_append]
    cases shape : select item with
    | none => simpa [shape] using ih
    | some head => simp [shape]

end Last

section Reading

variable {settlement : Settlement} {receipt : Fields} {fetchedLogs : List Fields} {index : ℤ}

theorem matchedLog_of_confirmed
    (confirmed : (withLogs fetchedLogs).settlementLogIndex settlement (some receipt) = some index) :
    ∃ log logs blockNumber, matchedLog settlement receipt fetchedLogs = some log ∧
      LogsAre receipt logs ∧ log ∈ logs ∧
      TransferLog settlement blockNumber fetchedLogs log index := by
  rcases settlementLogIndex_eq_some_iff.mp confirmed with ⟨_, blockNumber, same, mined, found⟩
  cases same
  rcases transferIndex_eq_some_iff.mp found with ⟨_, _, ⟨items, isList, rfl⟩, isLast, _⟩
  rcases (getLast?_filterMap _ _).mp isLast with ⟨log, isLog, selected⟩
  refine ⟨log, _, blockNumber, ?_, ⟨items, isList, rfl⟩, ?_, transferOf_eq_some_iff.mp selected⟩
  · rw [matchedLog, mined, isList]
    exact isLog
  · exact (List.mem_filter.mp (List.mem_of_getLast? isLog)).1

theorem sameHex_str {text other : Str} : sameHex (.str text) other = true ↔ lower text = lower other :=
  beq_iff_eq

/-- Digits that come out of `lower` are lower-case. -/
theorem toLower_of_mem_lower {text : Str} {c : Char} (mem : c ∈ lower text)
    (digit : isHexDigit c = true) : c.toLower = c := by
  rw [lower, List.mem_flatMap] at mem
  rcases mem with ⟨d, _, isLower⟩
  split_ifs at isLower with ascii
  · rw [List.mem_singleton] at isLower
    rw [isLower] at digit ⊢
    exact toLower_toLower_hex digit
  · have noDigit := (Interpreter.lowerChar_notHex d (not_lt.mp ascii) c isLower).1
    rw [noDigit] at digit
    cases digit

omit [Interpreter] in
theorem mem_of_mem_removePrefix0x {text : Str} {c : Char} (mem : c ∈ removePrefix0x text) :
    c ∈ text := by
  unfold removePrefix0x at mem
  split at mem
  · exact List.mem_cons_of_mem _ (List.mem_cons_of_mem _ mem)
  · exact mem

/-- A topic that spells a padded address ends with that address. -/
theorem topicAddr_reads {addr topic : Str} (isAddress : IsAddress addr)
    (spelled : lower topic = lower (topicAddr addr)) :
    ((lower topic).drop 2).take 24 = List.replicate 24 '0' ∧
      '0' :: 'x' :: (lower topic).drop 26 = normalAddress addr := by
  rcases isExactHex_iff.mp isAddress with ⟨digits, same, length, all⟩
  have isDigits : removePrefix0x (lower addr) = digits :=
    (List.cons.inj (List.cons.inj same).2).2
  have normal : digits.map Char.toLower = digits := by
    conv_rhs => rw [← List.map_id digits]
    apply List.map_congr_left
    intro c mem
    rw [← isDigits] at mem
    exact toLower_of_mem_lower (mem_of_mem_removePrefix0x mem)
      (List.all_eq_true.mp all c (isDigits ▸ mem))
  have padded : rjustZero 64 digits = List.replicate 24 '0' ++ digits := by
    rw [rjustZero, length]
  have zeros : (List.replicate 24 '0').all isHexDigit = true := by decide
  have lowered : lower (topicAddr addr) = '0' :: 'x' :: (List.replicate 24 '0' ++ digits) := by
    rw [topicAddr, isDigits, padded, lower_prefixed (by rw [List.all_append, zeros, all]; rfl),
      List.map_append, normal]
    rfl
  rw [spelled, lowered, normalAddress, isDigits]
  exact ⟨rfl, rfl⟩

omit [Interpreter] in
theorem mappings_dict (logs : List Fields) : mappings (logs.map .dict) = logs := by
  induction logs with
  | nil => rfl
  | cons log logs ih => rw [List.map_cons, mappings, ih]

omit [Interpreter] in
/-- The logs of a validated receipt are validated. -/
theorem shape_of_mem (valid : Anvil.ReceiptShape receipt) {logs : List Fields} {log : Fields}
    (isLogs : LogsAre receipt logs) (mem : log ∈ logs) : Anvil.LogShape log := by
  rcases valid.logs with ⟨given, isList, _, shapes⟩
  rw [isLogs.unique ⟨_, isList, rfl⟩, mappings_dict] at mem
  exact shapes log mem

theorem int16_of_isData {text : Str} {value : ℤ} (shape : isData text = true)
    (read : int16 text = some value) : value = hexVal (text.drop 2) := by
  rcases isData_iff.mp shape with ⟨digits, same, _, all⟩
  by_cases empty : digits = []
  · rw [same, empty] at read
    cases read
  · rw [same, (int16_digits empty all).2] at read
    rw [same]
    exact (Option.some.inj read).symm

theorem int16_of_isQuantity {text : Str} {value : ℤ} (shape : isQuantity text = true)
    (read : int16 text = some value) : value = hexVal (text.drop 2) := by
  rcases isQuantity_imp shape with ⟨digits, same, nonempty, all⟩
  rw [same, (int16_digits nonempty all).2] at read
  rw [same]
  exact (Option.some.inj read).symm

/-- The topics of a validated transfer log. -/
theorem TransferLog.texts {blockNumber : ℤ} {log : Fields}
    (transfer : TransferLog settlement blockNumber fetchedLogs log index)
    (shape : Anvil.LogShape log) :
    ∃ signature payer payee, getField log "topics" =
        .list [.str signature, .str payer, .str payee] ∧
      lower signature = topicTransfer ∧ isExactHex 64 payer = true ∧ isExactHex 64 payee = true ∧
      lower payer = lower (topicAddr settlement.payer) ∧
      lower payee = lower (topicAddr settlement.payee) := by
  rcases shape.topics with ⟨texts, isTexts, _, exact_⟩
  rcases transfer.topics with ⟨topic0, topic1, topic2, isTopics, isTransfer, isPayer, isPayee⟩
  rw [isTexts, Value.list.injEq] at isTopics
  rcases texts with _ | ⟨signature, _ | ⟨payer, _ | ⟨payee, _ | ⟨more, rest⟩⟩⟩⟩ <;>
    simp only [List.map_cons, List.map_nil, List.cons.injEq, reduceCtorEq, and_false,
      and_true] at isTopics
  rcases isTopics with ⟨rfl, rfl, rfl⟩
  have normal : lower topicTransfer = topicTransfer := by
    rw [topicTransfer, hexWord, lower_eq_hexPad (isExactHex_hexPad 64 _), List.drop_succ_cons,
      List.drop_succ_cons, List.drop_zero, hexVal_hexPad_of_lt (by norm_num)]
  exact ⟨signature, payer, payee, isTexts, (sameHex_str.mp isTransfer).trans normal,
    exact_ payer (by simp), exact_ payee (by simp), sameHex_str.mp isPayer, sameHex_str.mp isPayee⟩

/-- A confirmed transfer is decoded as the same credit exactly when its data is one word, the chain
id is positive and the parties are addresses. -/
theorem readable_iff (valid : Anvil.ReceiptShape receipt)
    (bounded : Uint256Quantities receipt) (chainId : ℤ)
    (confirmed : (withLogs fetchedLogs).settlementLogIndex settlement (some receipt) = some index) :
    (∃ log credit, matchedLog settlement receipt fetchedLogs = some log ∧
      decodeTransferLog log chainId = .ok credit ∧ ReadsAs settlement chainId index credit) ↔
    (∃ log data, matchedLog settlement receipt fetchedLogs = some log ∧
      getField log "data" = .str data ∧ data.length = 66) ∧
      0 < chainId ∧ IsAddress settlement.payer ∧ IsAddress settlement.payee := by
  rcases matchedLog_of_confirmed confirmed with
    ⟨log, logs, blockNumber, isLog, isLogs, mem, transfer⟩
  have shape := shape_of_mem valid isLogs mem
  rcases transfer.texts shape with
    ⟨signature, payer, payee, isTopics, isTransfer, payerShape, payeeShape, isPayer, isPayee⟩
  constructor
  · intro readable
    rcases readable with ⟨found, credit, isFound, decoded, reads⟩
    rw [isLog, Option.some.injEq] at isFound
    rw [← isFound] at decoded
    have decodes := (decodeTransferLog_eq_ok_iff shape).mp decoded
    rcases decodes.data with ⟨data, isData, word, _⟩
    rcases isExactHex_iff.mp word with ⟨digits, same, length, _⟩
    rcases decodes.topics with ⟨_, first, second, isFound, _, _, creditPayer, _, creditPayee⟩
    rw [isTopics] at isFound
    simp only [Value.list.injEq, List.cons.injEq, Value.str.injEq, and_true] at isFound
    rcases isFound with ⟨_, rfl, rfl⟩
    refine ⟨⟨log, data, isLog, isData, ?_⟩, decodes.chainPositive, ?_, ?_⟩
    · rw [same, List.length_cons, List.length_cons, length]
    · rw [IsAddress, ← reads.payer, creditPayer]
      exact (topicTail payerShape).1
    · rw [IsAddress, ← reads.payee, creditPayee]
      exact (topicTail payeeShape).1
  · intro conditions
    rcases conditions with ⟨⟨found, data, isFound, isData, length⟩, positive, payerIs, payeeIs⟩
    rw [isLog, Option.some.injEq] at isFound
    rw [← isFound] at isData
    rcases shape.data with ⟨text, isText, dataShape⟩
    rw [isData, Value.str.injEq] at isText
    rw [← isText] at dataShape
    have word : isExactHex 64 data = true := by
      rcases isData_iff.mp dataShape with ⟨digits, same, _, all⟩
      refine isExactHex_iff.mpr ⟨digits, same, ?_, all⟩
      rw [same, List.length_cons, List.length_cons] at length
      omega
    have value := transfer.value
    rw [isData] at value
    rcases shape.address with ⟨address, isAddress, _⟩
    rcases shape.transactionHash with ⟨txHash, isTxHash, _⟩
    rcases shape.blockHash with ⟨blockHash, isBlockHash, _⟩
    rcases shape.blockNumber with ⟨block, isBlock, _⟩
    rcases shape.logIndex with ⟨position, isPosition, positionShape⟩
    rcases shape.removed with ⟨flag, isFlag⟩
    have token := transfer.address
    have tx := transfer.transactionHash
    have own := transfer.logIndex
    rw [isAddress, sameHex_str] at token
    rw [isTxHash, sameHex_str] at tx
    rw [isPosition] at own
    have notRemoved : flag = false := by
      have removed := transfer.removed
      rw [isFlag] at removed
      cases flag with
      | false => rfl
      | true => exact absurd rfl removed
    rcases topicAddr_reads payerIs isPayer with ⟨payerZeros, payerTail⟩
    rcases topicAddr_reads payeeIs isPayee with ⟨payeeZeros, payeeTail⟩
    have limit := bounded logs isLogs log mem
    refine ⟨log, ⟨⟨chainId, lower settlement.token, lower settlement.submittedTx, index⟩,
      lower blockHash, hexVal (block.drop 2), normalAddress settlement.payer,
      normalAddress settlement.payee, settlement.expectedValue, false⟩, isLog,
      (decodeTransferLog_eq_ok_iff shape).mpr ?_, rfl, rfl, rfl, rfl, rfl⟩
    refine ⟨positive, rfl, ⟨signature, payer, payee, isTopics, isTransfer, payerZeros,
      payerTail.symm, payeeZeros, payeeTail.symm⟩, ⟨data, isData, word, ?_⟩, ?_,
      ⟨address, isAddress, token.symm⟩, ⟨txHash, isTxHash, tx.symm⟩,
      ⟨position, isPosition, int16_of_isQuantity positionShape own,
        limit "logIndex" (by decide) position isPosition⟩, ⟨blockHash, isBlockHash, rfl⟩,
      ⟨block, isBlock, rfl, limit "blockNumber" (by decide) block isBlock⟩⟩
    · exact int16_of_isData dataShape value
    · rw [isFlag, notRemoved]

end Reading

/-! ### Sample receipts -/

omit [Interpreter] in
theorem sampleLog_shape {topics : List Str} {data : Str} {index : ℕ}
    (few : topics.length ≤ 16) (words : ∀ topic ∈ topics, isExactHex 64 topic = true)
    (isBytes : isData data = true) : Anvil.LogShape (sampleLog topics data index) where
  complete := by
    intro name required
    simp only [Anvil.requiredLogFields, List.mem_cons, List.not_mem_nil, or_false] at required
    rcases required with rfl | rfl | rfl | rfl | rfl | rfl | rfl | rfl | rfl <;> rfl
  address := ⟨_, rfl, isExactHex_hexPad 40 _⟩
  topics := ⟨topics, rfl, few, words⟩
  data := ⟨_, rfl, isBytes⟩
  blockNumber := ⟨_, rfl, isQuantity_pyHex 1⟩
  transactionHash := ⟨_, rfl, isExactHex_hexPad 64 _⟩
  transactionIndex := ⟨_, rfl, isQuantity_pyHex 0⟩
  blockHash := ⟨_, rfl, isExactHex_hexPad 64 _⟩
  logIndex := ⟨_, rfl, isQuantity_pyHex index⟩
  removed := ⟨_, rfl⟩

omit [Interpreter] in
theorem sampleReceipt_shape {data : Str} (isBytes : isData data = true) :
    Anvil.ReceiptShape (sampleReceipt data) where
  complete := by
    intro name required
    simp only [Anvil.requiredReceiptFields, List.mem_cons, List.not_mem_nil, or_false] at required
    rcases required with rfl | rfl | rfl | rfl | rfl <;> rfl
  transactionHash := ⟨_, rfl, isExactHex_hexPad 64 _⟩
  blockHash := ⟨_, rfl, isExactHex_hexPad 64 _⟩
  blockNumber := ⟨_, rfl, isQuantity_pyHex 1⟩
  status := ⟨_, rfl, isQuantity_pyHex 1, .inr (hexVal_hexDigitsOf 1)⟩
  logs := by
    refine ⟨[sampleUse, sampleTransfer data], rfl, (show 2 ≤ Anvil.maxRpcListItems by decide), ?_⟩
    intro log mem
    simp only [List.mem_cons, List.not_mem_nil, or_false] at mem
    rcases mem with rfl | rfl
    · exact sampleLog_shape (by decide) (by decide) (by decide)
    · exact sampleLog_shape (by decide) (by decide) isBytes
  quantities := by
    intro name listed present
    simp only [List.mem_cons, List.not_mem_nil, or_false] at listed
    rcases listed with rfl | rfl | rfl | rfl <;> cases present
  sender := by
    intro present
    cases present
  recipient := fun _ => .inr ⟨_, rfl, isExactHex_hexPad 40 _⟩

omit [Interpreter] in
theorem sampleReceipt_bounded (data : Str) : Uint256Quantities (sampleReceipt data) := by
  intro logs isLogs log mem name listed text isText
  rw [isLogs.unique ⟨_, rfl, rfl⟩] at mem
  simp only [mappings, List.mem_cons, List.not_mem_nil, or_false] at mem listed
  have quantities : ∀ n, n ≤ 1 → hexVal ((pyHex n).drop 2) ≤ uint256Max := by
    intro n small
    rw [pyHex, List.drop_succ_cons, List.drop_succ_cons, List.drop_zero, hexVal_hexDigitsOf]
    exact small.trans (by decide)
  rcases mem with rfl | rfl <;> rcases listed with rfl | rfl <;> cases isText
  · exact quantities 0 (by decide)
  · exact quantities 1 (by decide)
  · exact quantities 1 (by decide)
  · exact quantities 1 (by decide)

theorem matchedLog_sample {data : Str}
    (mined : minedIn sampleSettlement (sampleReceipt data) = some 1)
    (transfer : (transferOf topicTransfer sampleSettlement 1 [sampleTransfer data]
      (sampleTransfer data)).isSome = true) :
    matchedLog sampleSettlement (sampleReceipt data) [sampleTransfer data] =
      some (sampleTransfer data) := by
  have logs : getField (sampleReceipt data) "logs" =
      .list [.dict sampleUse, .dict (sampleTransfer data)] := rfl
  rw [matchedLog, mined, logs]
  cases use : (transferOf topicTransfer sampleSettlement 1 [sampleTransfer data] sampleUse).isSome
  · simp [mappings, List.filter, use, transfer]
  · simp [mappings, List.filter, use, transfer]

omit [Interpreter] in
/-- A receipt whose transfer holds one word of data is read as the confirmed credit. -/
theorem wordData_readable : letI := asciiInterpreter []
    ∃ log credit, matchedLog sampleSettlement (sampleReceipt (hexWord 100))
        [sampleTransfer (hexWord 100)] = some log ∧
      decodeTransferLog log 84532 = .ok credit ∧ ReadsAs sampleSettlement 84532 1 credit := by
  let := asciiInterpreter []
  have mined : minedIn sampleSettlement (sampleReceipt (hexWord 100)) = some 1 := by
    decide +kernel
  have found : transferIndex topicTransfer sampleSettlement (sampleReceipt (hexWord 100)) 1
      [sampleTransfer (hexWord 100)] = some 1 := by
    decide +kernel
  have confirmed := settlementLogIndex_eq_some_iff.mpr ⟨_, 1, rfl, mined, found⟩
  have conditions := readable_iff (sampleReceipt_shape (isData_of_isExactHex
    (isExactHex_hexPad 64 100) rfl)) (sampleReceipt_bounded _) 84532 confirmed
  have matched := matchedLog_sample mined (by decide +kernel)
  have payer : isExactHex 40 (normalAddress sampleSettlement.payer) = true := by decide +kernel
  have payee : isExactHex 40 (normalAddress sampleSettlement.payee) = true := by decide +kernel
  exact conditions.mpr
    ⟨⟨sampleTransfer (hexWord 100), hexWord 100, matched, rfl, rfl⟩, by norm_num, payer, payee⟩

omit [Interpreter] in
/-- The confirmer reads one byte of data as a value, the decoder refuses it. -/
theorem shortData_unreadable : letI := asciiInterpreter []
    Anvil.ReceiptShape (sampleReceipt "0x64".toList) ∧
      Uint256Quantities (sampleReceipt "0x64".toList) ∧
      (∀ log ∈ [sampleTransfer "0x64".toList], Anvil.LogShape log) ∧
      (withLogs [sampleTransfer "0x64".toList]).settlementLogIndex sampleSettlement
        (some (sampleReceipt "0x64".toList)) = some 1 ∧
      ∀ log, matchedLog sampleSettlement (sampleReceipt "0x64".toList)
          [sampleTransfer "0x64".toList] = some log →
        decodeTransferLog log 84532 =
          .error (.reconciliationError "Transfer data must be 0x-prefixed 32-byte hex") := by
  let := asciiInterpreter []
  have mined : minedIn sampleSettlement (sampleReceipt "0x64".toList) = some 1 := by
    decide +kernel
  have found : transferIndex topicTransfer sampleSettlement (sampleReceipt "0x64".toList) 1
      [sampleTransfer "0x64".toList] = some 1 := by
    decide +kernel
  refine ⟨sampleReceipt_shape (by decide), sampleReceipt_bounded _, ?_,
    settlementLogIndex_eq_some_iff.mpr ⟨_, 1, rfl, mined, found⟩, ?_⟩
  · intro log mem
    rw [List.mem_singleton.mp mem]
    exact sampleLog_shape (by decide) (by decide) (by decide)
  · intro log isLog
    have matched := matchedLog_sample mined (by decide +kernel)
    rw [matched, Option.some.injEq] at isLog
    rw [← isLog]
    decide +kernel

end Confirmer

end Psv
