import Psv.Chain
import Mathlib.Data.List.AList
import Mathlib.Data.List.Sort
import Mathlib.Data.Prod.Lex
import Mathlib.Data.Char
import Mathlib.Data.List.Lex

/-!
# Settlement identities and decoded credits

`reconciliation.py`: exact hexadecimal fields, the identity of one emitted
credit, the strict decoder of `Transfer` logs, and the diff of decoded credits
against a ledger.  The decoders go through `bytes.fromhex` and `int(text, 16)`
and are as lenient as these are.
-/

namespace Psv

open Python Interaction Chain

namespace Reconciliation

variable [Interpreter]

/-- Validate, normalize, and return fixed-size 0x-prefixed hex. -/
def exactHex (value : Value) (size : ℕ) (what : String) : Except PyError Str :=
  match value with
  | .str text =>
      if text.take 2 = ['0', 'x'] ∧ text.length = 2 + size * 2 ∧
          (fromHex (text.drop 2)).isSome then
        .ok (lower text)
      else .error (.reconciliationError s!"{what} must be 0x-prefixed {size}-byte hex")
  | _ => .error (.reconciliationError s!"{what} must be 0x-prefixed {size}-byte hex")

/-- Decode a canonical JSON-RPC quantity constrained to uint256. -/
def quantity (value : Value) (what : String) : Except PyError ℤ :=
  match value with
  | .str text => do
      refuse (text.take 2 ≠ ['0', 'x'] ∨ text.length = 2 ∨
          (3 < text.length ∧ text[2]? = some '0'))
        (.reconciliationError s!"{what} must be a canonical JSON-RPC hex quantity")
      let result ← orRaise (int16 (text.drop 2))
        (.reconciliationError s!"{what} must be a canonical JSON-RPC hex quantity")
      refuse (¬(0 ≤ result ∧ result ≤ uint256Max))
        (.reconciliationError s!"{what} is outside uint256")
      return result
  | _ => .error (.reconciliationError s!"{what} must be a canonical JSON-RPC hex quantity")

/-- Validate and normalize an exact 20-byte address. -/
def address (value : Value) (what : String) : Except PyError Str := exactHex value 20 what

/-- Encode an exact EVM address as a 32-byte indexed topic. -/
def topicAddr (addr : Value) : Except PyError Str := do
  let exact ← address addr "address"
  return '0' :: 'x' :: (List.replicate 24 '0' ++ exact.drop 2)

/-- Decode a canonically padded address from an indexed topic. -/
def addrFromTopic (topic : Value) (what : String) : Except PyError Str := do
  let exact ← exactHex topic 32 what
  refuse ((exact.drop 2).take 24 ≠ List.replicate 24 '0')
    (.reconciliationError s!"{what} is not a canonically padded address topic")
  return '0' :: 'x' :: exact.drop 26

end Reconciliation

/-- Collision-free identity of one emitted settlement credit. -/
structure SettlementIdentity where
  chainId : ℤ
  asset : Str
  txHash : Str
  logIndex : ℤ
  deriving DecidableEq

/-- A strictly decoded token credit and its reorg-relevant provenance. -/
structure OnChainCredit where
  identity : SettlementIdentity
  blockHash : Str
  blockNumber : ℤ
  payer : Str
  payee : Str
  value : ℤ
  removed : Bool
  deriving DecidableEq

/-- `SettlementIdentity | OnChainCredit` -/
inductive LedgerEntry where
  | settled (identity : SettlementIdentity)
  | credited (credit : OnChainCredit)

/-- `entry.identity if isinstance(entry, OnChainCredit) else entry` -/
def LedgerEntry.settlement : LedgerEntry → SettlementIdentity
  | .settled identity => identity
  | .credited credit => credit.identity

namespace Reconciliation

variable [Interpreter]

/-- The constructor of `SettlementIdentity`: normalize and validate all components. -/
def settlementIdentity (chainId : ℤ) (asset txHash : Str) (logIndex : ℤ) :
    Except PyError SettlementIdentity := do
  refuse (chainId ≤ 0) (.reconciliationError "chain_id must be positive")
  let asset ← address (.str asset) "asset"
  let txHash ← exactHex (.str txHash) 32 "tx hash"
  refuse (¬(0 ≤ logIndex ∧ logIndex ≤ uint256Max))
    (.reconciliationError "log_index is outside uint256")
  return ⟨chainId, asset, txHash, logIndex⟩

/-- The constructor of `OnChainCredit`: normalize and validate the provenance. -/
def onChainCredit (identity : SettlementIdentity) (blockHash : Str) (blockNumber : ℤ)
    (payer payee : Str) (value : ℤ) (removed : Bool) : Except PyError OnChainCredit := do
  let blockHash ← exactHex (.str blockHash) 32 "block hash"
  let payer ← address (.str payer) "payer"
  let payee ← address (.str payee) "payee"
  refuse (¬(0 ≤ blockNumber ∧ blockNumber ≤ uint256Max))
    (.reconciliationError "block_number is outside uint256")
  refuse (¬(0 ≤ value ∧ value ≤ uint256Max)) (.reconciliationError "value is outside uint256")
  return ⟨identity, blockHash, blockNumber, payer, payee, value, removed⟩

/-- Decode a complete JSON-RPC `Transfer` log without coercion or defaults. -/
def decodeTransferLog (log : Fields) (chainId : ℤ) : Except PyError OnChainCredit := do
  refuse (chainId ≤ 0) (.reconciliationError "chain_id must be positive")
  match getField log "topics" with
  | .list [topic0, topic1, topic2] => do
      let signature ← exactHex topic0 32 "topic0"
      refuse (signature ≠ topicTransfer)
        (.reconciliationError "log topic0 is not Transfer(address,address,uint256)")
      let data ← exactHex (getField log "data") 32 "Transfer data"
      match getField log "removed" with
      | .bool removed => do
          let asset ← address (getField log "address") "log address"
          let txHash ← exactHex (getField log "transactionHash") 32 "transaction hash"
          let logIndex ← quantity (getField log "logIndex") "log index"
          let blockHash ← exactHex (getField log "blockHash") 32 "block hash"
          let blockNumber ← quantity (getField log "blockNumber") "block number"
          let identity ← settlementIdentity chainId asset txHash logIndex
          let payer ← addrFromTopic topic1 "payer topic"
          let payee ← addrFromTopic topic2 "payee topic"
          let value ← orRaise (int16 data) (.valueError
            s!"invalid literal for int() with base 16: {Interpreter.repr (.str data)}")
          onChainCredit identity blockHash blockNumber payer payee value removed
      | _ => .error (.reconciliationError "removed must be a boolean")
  | _ => .error (.reconciliationError "Transfer log must contain exactly three topics")

/-- `repr(identity)` -/
def identityRepr (identity : SettlementIdentity) : String :=
  s!"SettlementIdentity(chain_id={identity.chainId}, asset={
    Interpreter.repr (.str identity.asset)}, tx_hash={
    Interpreter.repr (.str identity.txHash)}, log_index={identity.logIndex})"

omit [Interpreter] in
/-- Credits are listed by block, position, transaction and asset. -/
def sortKey (credit : OnChainCredit) : ℤ ×ₗ ℤ ×ₗ Str ×ₗ Str :=
  toLex (credit.blockNumber, toLex (credit.identity.logIndex,
    toLex (credit.identity.txHash, credit.identity.asset)))

/-- The credits seen so far, each under its identity. -/
abbrev Observations : Type := AList fun _ : SettlementIdentity => OnChainCredit

/-- Add one log to the observations, refusing foreign and conflicting ones. -/
def observe (chainId : ℤ) (asset payee : Option Str) (observations : Observations)
    (log : Fields) : Except PyError Observations := do
  let credit ← decodeTransferLog log chainId
  refuse (∃ expected ∈ asset, credit.identity.asset ≠ expected) (.reconciliationError
    s!"cross-asset log: expected {String.ofList (asset.getD [])}, observed {
      String.ofList credit.identity.asset}")
  refuse (∃ expected ∈ payee, credit.payee ≠ expected) (.reconciliationError
    s!"cross-recipient log: expected {String.ofList (payee.getD [])}, observed {
      String.ofList credit.payee}")
  refuse (∃ previous ∈ observations.lookup credit.identity, previous ≠ credit)
    (.reconciliationError
      s!"conflicting observations for settlement {identityRepr credit.identity}")
  return observations.insert credit.identity credit

/-- The normalized form of an optional expected address; the empty text counts as absent. -/
def expectedAddress (expected : Option Str) (what : String) : Except PyError (Option Str) :=
  match expected with
  | some (c :: rest) => (address (.str (c :: rest)) what).map some
  | _ => .ok none

/-- Return unique, canonical credits missing from the exact-identity ledger. -/
def findUnreconciled (transfers : List Fields) (ledgerEntries : List LedgerEntry) (chainId : ℤ)
    (expectedAsset expectedPayee : Option Str) : Except PyError (List OnChainCredit) := do
  let known := ledgerEntries.map LedgerEntry.settlement
  let asset ← expectedAddress expectedAsset "expected asset"
  let payee ← expectedAddress expectedPayee "expected payee"
  let observations ← transfers.foldlM (observe chainId asset payee) ∅
  let missing := (observations.entries.map Sigma.snd).filter fun credit =>
    !credit.removed && decide (credit.identity ∉ known)
  return missing.insertionSort fun first second => sortKey first ≤ sortKey second

/-- The logs of one asset; every log is decoded. -/
def scopeTo (asset : Str) (chainId : ℤ) : List Fields → Except PyError (List Fields)
  | [] => .ok []
  | log :: logs => do
      let credit ← decodeTransferLog log chainId
      let kept ← scopeTo asset chainId logs
      return if credit.identity.asset = asset then log :: kept else kept

/-- Reconcile only the credits of the expected asset from a possibly multi-asset snapshot. -/
def reconcileAssetScoped (transfers : List Fields) (ledgerEntries : List LedgerEntry)
    (chainId : ℤ) (expectedAsset : Str) (expectedPayee : Option Str) :
    Except PyError (List OnChainCredit) := do
  let asset ← address (.str expectedAsset) "expected asset"
  let kept ← scopeTo asset chainId transfers
  findUnreconciled kept ledgerEntries chainId (some asset) expectedPayee

/-! ### Decoding a log the client has validated -/

theorem exactHex_of_isExactHex {text : Str} {size : ℕ} {what : String}
    (shape : isExactHex (size * 2) text = true) :
    exactHex (.str text) size what = .ok (lower text) := by
  obtain ⟨rest, rfl, length, all⟩ := isExactHex_iff.mp shape
  have even : rest.length % 2 = 0 := by omega
  have readable := isSome_fromHex all even
  simp [exactHex, length, readable]
  omega

theorem exactHex_word {text : Str} {what : String} (shape : isExactHex 64 text = true) :
    exactHex (.str text) 32 what = .ok (lower text) :=
  exactHex_of_isExactHex shape

theorem address_exact {text : Str} {what : String} (shape : isExactHex 40 text = true) :
    address (.str text) what = .ok (lower text) :=
  exactHex_of_isExactHex shape

theorem topicAddr_exact {text : Str} (shape : isExactHex 40 text = true) :
    topicAddr (.str text) = .ok (hexWord (hexVal (text.drop 2))) := by
  have padded := replicate_zero_append_hexPad 24 40 _ (hexVal_exact_lt shape)
  rw [topicAddr, address_exact shape, lower_eq_hexPad shape]
  change Except.ok ('0' :: 'x' :: (List.replicate 24 '0' ++ hexPad 40 _)) = _
  rw [padded]
  rfl

theorem quantity_of_isQuantity {text : Str} {what : String} {result : ℤ}
    (shape : isQuantity text = true) :
    quantity (.str text) what = .ok result ↔
      result = hexVal (text.drop 2) ∧ hexVal (text.drop 2) ≤ uint256Max := by
  obtain ⟨rest, rfl, nonempty, all⟩ := isQuantity_imp shape
  have canonical : ¬(3 < ('0' :: 'x' :: rest).length ∧ ('0' :: 'x' :: rest)[2]? = some '0') := by
    rintro ⟨long, zero⟩
    rcases rest with _ | ⟨c, _ | ⟨d, rest⟩⟩
    · simp at long
    · simp at long
    · obtain rfl : c = '0' := by simpa using zero
      simp [isQuantity] at shape
  have length : ('0' :: 'x' :: rest).length ≠ 2 := by
    simpa [List.length_eq_zero_iff] using nonempty
  have canonicalShape : ¬(('0' :: 'x' :: rest).take 2 ≠ ['0', 'x'] ∨
      ('0' :: 'x' :: rest).length = 2 ∨
      (3 < ('0' :: 'x' :: rest).length ∧ ('0' :: 'x' :: rest)[2]? = some '0')) := by
    rintro (wrong | short | zero)
    · simp at wrong
    · exact length short
    · exact canonical zero
  simp only [quantity, Checks.bind_eq_ok_iff, refuse_eq_ok_iff, exists_const, orRaise_eq_ok_iff,
    List.drop_succ_cons, List.drop_zero, (int16_digits nonempty all).1, not_not, pure,
    Except.pure, Except.ok.injEq, Option.some.injEq, canonicalShape, not_false_eq_true, true_and]
  constructor
  · rintro ⟨found, rfl, bounds, rfl⟩
    exact ⟨rfl, by exact_mod_cast bounds.2⟩
  · rintro ⟨rfl, bound⟩
    exact ⟨_, rfl, ⟨by positivity, by exact_mod_cast bound⟩, rfl⟩

/-- A `Transfer` log and the credit it denotes. -/
structure DecodesTo (log : Fields) (chainId : ℤ) (credit : OnChainCredit) : Prop where
  chainPositive : 0 < chainId
  chainId_eq : credit.identity.chainId = chainId
  topics : ∃ signature payer payee, getField log "topics" =
      .list [.str signature, .str payer, .str payee] ∧
    lower signature = topicTransfer ∧
    ((lower payer).drop 2).take 24 = List.replicate 24 '0' ∧
    credit.payer = '0' :: 'x' :: (lower payer).drop 26 ∧
    ((lower payee).drop 2).take 24 = List.replicate 24 '0' ∧
    credit.payee = '0' :: 'x' :: (lower payee).drop 26
  data : ∃ text, getField log "data" = .str text ∧ isExactHex 64 text = true ∧
    credit.value = hexVal (text.drop 2)
  removed : getField log "removed" = .bool credit.removed
  asset : ∃ text, getField log "address" = .str text ∧ credit.identity.asset = lower text
  txHash : ∃ text, getField log "transactionHash" = .str text ∧
    credit.identity.txHash = lower text
  logIndex : ∃ text, getField log "logIndex" = .str text ∧
    credit.identity.logIndex = hexVal (text.drop 2) ∧ hexVal (text.drop 2) ≤ uint256Max
  blockHash : ∃ text, getField log "blockHash" = .str text ∧ credit.blockHash = lower text
  blockNumber : ∃ text, getField log "blockNumber" = .str text ∧
    credit.blockNumber = hexVal (text.drop 2) ∧ hexVal (text.drop 2) ≤ uint256Max

theorem exactHex_of_isData {text result : Str} {size : ℕ} {what : String}
    (shape : isData text = true) :
    exactHex (.str text) size what = .ok result ↔
      isExactHex (size * 2) text = true ∧ result = lower text := by
  constructor
  · intro accepted
    obtain ⟨rest, rfl, _, all⟩ := isData_iff.mp shape
    simp only [exactHex] at accepted
    split at accepted
    · rename_i exact
      refine ⟨isExactHex_iff.mpr ⟨rest, rfl, ?_, all⟩, by simpa using accepted.symm⟩
      have length := exact.2.1
      simp only [List.length_cons] at length
      omega
    · cases accepted
  · rintro ⟨exact, rfl⟩
    exact exactHex_of_isExactHex exact

/-- The address part of a normalized topic is an address in normal form. -/
theorem topicTail {topic : Str} (shape : isExactHex 64 topic = true) :
    isExactHex 40 ('0' :: 'x' :: (lower topic).drop 26) = true ∧
      lower ('0' :: 'x' :: (lower topic).drop 26) = '0' :: 'x' :: (lower topic).drop 26 := by
  obtain ⟨rest, rfl, length, all⟩ := isExactHex_iff.mp shape
  have normal : rest.map Char.toLower = hexPad 64 (hexVal rest) := by
    rw [map_toLower_eq_hexPad all, length]
  rw [lower_prefixed all, normal]
  have tailAll : ((hexPad 64 (hexVal rest)).drop 24).all isHexDigit = true :=
    List.all_eq_true.mpr fun c mem => isHexDigit_of_mem_hexPad (List.mem_of_mem_drop mem)
  simp only [List.drop_succ_cons]
  constructor
  · exact isExactHex_iff.mpr ⟨_, rfl, by simp, tailAll⟩
  · rw [lower_prefixed tailAll, List.map_drop, map_toLower_hexPad]

theorem int16_lower {text : Str} (shape : isExactHex 64 text = true) :
    int16 (lower text) = some (hexVal (text.drop 2) : ℤ) := by
  obtain ⟨rest, rfl, length, all⟩ := isExactHex_iff.mp shape
  have allLower : (rest.map Char.toLower).all isHexDigit = true := by
    simp only [List.all_map, List.all_eq_true] at all ⊢
    exact fun c mem => isHexDigit_toLower (all c mem)
  have nonempty : rest.map Char.toLower ≠ [] := by
    intro empty
    have none : (rest.map Char.toLower).length = 0 := by rw [empty]; rfl
    simp [length] at none
  rw [lower_prefixed all, (int16_digits nonempty allLower).2, hexVal_map_toLower all]
  rfl

theorem settlementIdentity_eq_ok_iff {chainId logIndex : ℤ} {asset txHash : Str}
    {identity : SettlementIdentity} (assetShape : isExactHex 40 asset = true)
    (txShape : isExactHex 64 txHash = true) :
    settlementIdentity chainId asset txHash logIndex = .ok identity ↔
      0 < chainId ∧ 0 ≤ logIndex ∧ logIndex ≤ uint256Max ∧
        identity = ⟨chainId, lower asset, lower txHash, logIndex⟩ := by
  simp only [settlementIdentity, address_exact assetShape,
    exactHex_word txShape, Checks.bind_eq_ok_iff, refuse_eq_ok_iff, exists_const,
    Except.ok.injEq, exists_eq_left', pure, Except.pure, not_not, not_le]
  constructor
  · rintro ⟨positive, bounds, rfl⟩
    exact ⟨positive, bounds.1, bounds.2, rfl⟩
  · rintro ⟨positive, nonnegative, bound, rfl⟩
    exact ⟨positive, ⟨nonnegative, bound⟩, rfl⟩

end Reconciliation

/-! ### The texts of a log -/

namespace Ledger

open Reconciliation

/-- The texts of a log whose fields have the types of a `Transfer` log. -/
structure LogTexts where
  topic0 : Str
  topic1 : Str
  topic2 : Str
  data : Str
  removed : Bool
  address : Str
  transactionHash : Str
  logIndex : Str
  blockHash : Str
  blockNumber : Str

namespace LogTexts

/-- The log has these texts. -/
structure Of (texts : LogTexts) (log : Fields) : Prop where
  topics : getField log "topics" = .list [.str texts.topic0, .str texts.topic1, .str texts.topic2]
  data : getField log "data" = .str texts.data
  removed : getField log "removed" = .bool texts.removed
  address : getField log "address" = .str texts.address
  transactionHash : getField log "transactionHash" = .str texts.transactionHash
  logIndex : getField log "logIndex" = .str texts.logIndex
  blockHash : getField log "blockHash" = .str texts.blockHash
  blockNumber : getField log "blockNumber" = .str texts.blockNumber

/-- The texts passed the client's validation. -/
structure Shaped (texts : LogTexts) : Prop where
  topic0 : isExactHex 64 texts.topic0 = true
  topic1 : isExactHex 64 texts.topic1 = true
  topic2 : isExactHex 64 texts.topic2 = true
  data : isData texts.data = true
  address : isExactHex 40 texts.address = true
  transactionHash : isExactHex 64 texts.transactionHash = true
  logIndex : isQuantity texts.logIndex = true
  blockHash : isExactHex 64 texts.blockHash = true
  blockNumber : isQuantity texts.blockNumber = true

variable [Interpreter]

/-- What the decoder asks of such texts beyond that. -/
structure Denotes (texts : LogTexts) (chainId : ℤ) : Prop where
  chainPositive : 0 < chainId
  signature : lower texts.topic0 = topicTransfer
  payer : ((lower texts.topic1).drop 2).take 24 = List.replicate 24 '0'
  payee : ((lower texts.topic2).drop 2).take 24 = List.replicate 24 '0'
  data : isExactHex 64 texts.data = true
  logIndex : hexVal (texts.logIndex.drop 2) ≤ uint256Max
  blockNumber : hexVal (texts.blockNumber.drop 2) ≤ uint256Max

/-- The credit that they denote. -/
def denoted (texts : LogTexts) (chainId : ℤ) : OnChainCredit where
  identity := ⟨chainId, lower texts.address, lower texts.transactionHash,
    hexVal (texts.logIndex.drop 2)⟩
  blockHash := lower texts.blockHash
  blockNumber := hexVal (texts.blockNumber.drop 2)
  payer := '0' :: 'x' :: (lower texts.topic1).drop 26
  payee := '0' :: 'x' :: (lower texts.topic2).drop 26
  value := hexVal (texts.data.drop 2)
  removed := texts.removed

variable {texts : LogTexts} {log : Fields} {chainId : ℤ} {credit : OnChainCredit}

omit [Interpreter] in
/-- A validated log has such texts, or no three topics. -/
theorem exists_of_shape (shape : Anvil.LogShape log) :
    (∃ texts : LogTexts, texts.Of log ∧ texts.Shaped) ∨
      ∀ topic0 topic1 topic2, getField log "topics" ≠ .list [topic0, topic1, topic2] := by
  rcases shape.address with ⟨address, isAddress, addressShape⟩
  rcases shape.topics with ⟨topics, isTopics, _, topicShapes⟩
  rcases shape.data with ⟨data, isData, dataShape⟩
  rcases shape.blockNumber with ⟨blockNumber, isNumber, numberShape⟩
  rcases shape.transactionHash with ⟨txHash, isHash, hashShape⟩
  rcases shape.blockHash with ⟨blockHash, isBlock, blockShape⟩
  rcases shape.logIndex with ⟨logIndex, isIndex, indexShape⟩
  rcases shape.removed with ⟨removed, isRemoved⟩
  by_cases three : ∃ topic0 topic1 topic2, topics = [topic0, topic1, topic2]
  · rcases three with ⟨topic0, topic1, topic2, rfl⟩
    simp only [List.forall_mem_cons] at topicShapes
    rcases topicShapes with ⟨shape0, shape1, shape2, _⟩
    left
    exact ⟨⟨topic0, topic1, topic2, data, removed, address, txHash, logIndex, blockHash, blockNumber⟩,
      ⟨isTopics, isData, isRemoved, isAddress, isHash, isIndex, isBlock, isNumber⟩,
      ⟨shape0, shape1, shape2, dataShape, addressShape, hashShape, indexShape, blockShape,
        numberShape⟩⟩
  · right
    intro topic0 topic1 topic2 same
    rw [isTopics, Value.list.injEq] at same
    rcases topics with _ | ⟨first, _ | ⟨second, _ | ⟨third, _ | ⟨fourth, rest⟩⟩⟩⟩
    · cases same
    · cases same
    · cases same
    · exact three ⟨first, second, third, rfl⟩
    · cases same

/-- The decoder accepts exactly the texts that denote a credit, and returns it. -/
theorem Of.decode_iff (isOf : texts.Of log) (shaped : texts.Shaped) :
    decodeTransferLog log chainId = .ok credit ↔
      texts.Denotes chainId ∧ credit = texts.denoted chainId := by
  have lowerAddress := isExactHex_lower shaped.address
  have lowerTx := isExactHex_lower shaped.transactionHash
  have lowerHash := isExactHex_lower shaped.blockHash
  have payer := topicTail shaped.topic1
  have payee := topicTail shaped.topic2
  simp only [decodeTransferLog, isOf.topics, isOf.data, isOf.removed, isOf.address,
    isOf.transactionHash, isOf.logIndex, isOf.blockHash, isOf.blockNumber, Checks.bind_eq_ok_iff,
    refuse_eq_ok_iff, exists_const, not_le, exactHex_word shaped.topic0, Except.ok.injEq,
    exists_eq_left', not_not, exactHex_of_isData shaped.data, address_exact shaped.address,
    exactHex_word shaped.transactionHash, exactHex_word shaped.blockHash,
    quantity_of_isQuantity shaped.logIndex, quantity_of_isQuantity shaped.blockNumber,
    settlementIdentity_eq_ok_iff lowerAddress lowerTx, addrFromTopic, exactHex_word shaped.topic1,
    exactHex_word shaped.topic2, pure, Except.pure, orRaise_eq_ok_iff, onChainCredit,
    exactHex_word lowerHash]
  constructor
  · rintro ⟨positive, signature, _, ⟨exactData, rfl⟩, _, ⟨rfl, indexBound⟩, _, ⟨rfl, numberBound⟩,
      _, ⟨_, _, _, rfl⟩, _, ⟨payerPadded, rfl⟩, _, ⟨payeePadded, rfl⟩, value, isValue, _, isPayer, _,
      isPayee, _, _, same⟩
    rw [address_exact payer.1, payer.2] at isPayer
    rw [address_exact payee.1, payee.2] at isPayee
    rw [int16_lower exactData] at isValue
    cases isPayer
    cases isPayee
    cases isValue
    refine ⟨⟨positive, signature, payerPadded, payeePadded, exactData, indexBound, numberBound⟩, ?_⟩
    rw [← same, denoted, lower_lower_exactHex shaped.address,
      lower_lower_exactHex shaped.transactionHash, lower_lower_exactHex shaped.blockHash]
  · rintro ⟨denotes, rfl⟩
    have dataBound : hexVal (texts.data.drop 2) ≤ uint256Max := by
      rcases isExactHex_iff.mp denotes.data with ⟨rest, same, length, all⟩
      have bound := hexVal_lt all
      rw [length] at bound
      rw [same]
      simp only [List.drop_succ_cons, List.drop_zero, uint256Max]
      omega
    refine ⟨denotes.chainPositive, denotes.signature, _, ⟨denotes.data, rfl⟩, _,
      ⟨rfl, denotes.logIndex⟩, _, ⟨rfl, denotes.blockNumber⟩, _,
      ⟨denotes.chainPositive, by positivity, by exact_mod_cast denotes.logIndex, rfl⟩, _,
      ⟨denotes.payer, rfl⟩, _, ⟨denotes.payee, rfl⟩, _, int16_lower denotes.data, _,
      address_exact payer.1, _, address_exact payee.1, ?_, ?_, ?_⟩
    · exact ⟨by positivity, by exact_mod_cast denotes.blockNumber⟩
    · exact ⟨by positivity, by exact_mod_cast dataBound⟩
    · rw [payer.2, payee.2, denoted, lower_lower_exactHex shaped.address,
        lower_lower_exactHex shaped.transactionHash, lower_lower_exactHex shaped.blockHash]

/-- The texts of a log denote a credit exactly when the log does. -/
theorem Of.decodesTo_iff (isOf : texts.Of log) :
    DecodesTo log chainId credit ↔ texts.Denotes chainId ∧ credit = texts.denoted chainId := by
  constructor
  · intro decodes
    rcases decodes.topics with ⟨_, _, _, isTopics, signature, payerPadded, isPayer, payeePadded,
      isPayee⟩
    rcases decodes.data with ⟨_, isData, exactData, isValue⟩
    rcases decodes.asset with ⟨_, isAddress, isAsset⟩
    rcases decodes.txHash with ⟨_, isHash, isTx⟩
    rcases decodes.logIndex with ⟨_, isIndex, isLogIndex, indexBound⟩
    rcases decodes.blockHash with ⟨_, isBlock, isBlockHash⟩
    rcases decodes.blockNumber with ⟨_, isNumber, isBlockNumber, numberBound⟩
    have isRemoved := decodes.removed
    rw [isOf.topics] at isTopics
    cases isTopics
    cases isOf.data.symm.trans isData
    cases isOf.address.symm.trans isAddress
    cases isOf.transactionHash.symm.trans isHash
    cases isOf.logIndex.symm.trans isIndex
    cases isOf.blockHash.symm.trans isBlock
    cases isOf.blockNumber.symm.trans isNumber
    rw [isOf.removed, Value.bool.injEq] at isRemoved
    refine ⟨⟨decodes.chainPositive, signature, payerPadded, payeePadded, exactData, indexBound,
      numberBound⟩, ?_⟩
    rw [denoted, ← decodes.chainId_eq, ← isAsset, ← isTx, ← isLogIndex, ← isBlockHash,
      ← isBlockNumber, ← isPayer, ← isPayee, ← isValue, isRemoved]
  · rintro ⟨denotes, rfl⟩
    exact ⟨denotes.chainPositive, rfl,
      ⟨_, _, _, isOf.topics, denotes.signature, denotes.payer, rfl, denotes.payee, rfl⟩,
      ⟨_, isOf.data, denotes.data, rfl⟩, isOf.removed, ⟨_, isOf.address, rfl⟩,
      ⟨_, isOf.transactionHash, rfl⟩, ⟨_, isOf.logIndex, rfl, denotes.logIndex⟩,
      ⟨_, isOf.blockHash, rfl⟩, ⟨_, isOf.blockNumber, rfl, denotes.blockNumber⟩⟩

end LogTexts

end Ledger

namespace Reconciliation

variable [Interpreter]

/-- On a log that passed the client's validation the decoder is exact. -/
theorem decodeTransferLog_eq_ok_iff {log : Fields} {chainId : ℤ} {credit : OnChainCredit}
    (shape : Anvil.LogShape log) :
    decodeTransferLog log chainId = .ok credit ↔ DecodesTo log chainId credit := by
  rcases Ledger.LogTexts.exists_of_shape shape with ⟨texts, isOf, shaped⟩ | notThree
  · exact (isOf.decode_iff shaped).trans isOf.decodesTo_iff.symm
  · constructor
    · intro decoded
      rcases Checks.bind_eq_ok_iff.mp decoded with ⟨_, _, decoded⟩
      split at decoded
      · rename_i isTopics
        exact absurd isTopics (notThree _ _ _)
      · cases decoded
    · intro decodes
      rcases decodes.topics with ⟨_, _, _, isTopics, _⟩
      exact absurd isTopics (notThree _ _ _)

end Reconciliation

end Psv
