import Psv.World

/-!
# The strict JSON-RPC client

The validators of `anvil.py` and the `RpcClient` methods built on them.  Every
method is a request, one call and a validator of its result, and comes with the
rule that says exactly when it returns, which result it saw and that it asked
nothing else.
-/

namespace Psv

open Python Interaction

variable [Interpreter]

/-- A block selector: a number or a named tag. -/
inductive BlockId where
  | number (n : ℤ)
  | tag (name : String)

namespace Anvil

def maxRpcListItems : ℕ := 10000

/-- Decode a canonical non-negative JSON-RPC hex quantity. -/
def quantity (value : Value) (what : String) : Except PyError ℕ :=
  match value with
  | .str text =>
      if isQuantity text then .ok (hexVal (text.drop 2))
      else .error (.rpcError s!"{what}: expected canonical hex quantity, got {Interpreter.repr value}")
  | _ => .error (.rpcError s!"{what}: expected canonical hex quantity, got {Interpreter.repr value}")

/-- The text of a value when it is a string of the given shape. -/
def shaped (shape : Str → Bool) (expected : String) (value : Value) (what : String) :
    Except PyError Str :=
  match value with
  | .str text =>
      if shape text then .ok text
      else .error (.rpcError s!"{what}: expected {expected}, got {Interpreter.repr value}")
  | _ => .error (.rpcError s!"{what}: expected {expected}, got {Interpreter.repr value}")

/-- Validate and return even-length 0x-prefixed hexadecimal data. -/
def data : Value → String → Except PyError Str := shaped isData "even-length hex data"

/-- Validate and return an exact 32-byte JSON-RPC hash. -/
def hash : Value → String → Except PyError Str := shaped (isExactHex 64) "a 32-byte hash"

/-- Validate and return an exact EVM address. -/
def address : Value → String → Except PyError Str := shaped (isExactHex 40) "a 20-byte address"

/-- An exact EVM address or null. -/
def addressOrNull (value : Value) (what : String) : Except PyError (Option Str) :=
  match value with
  | .null => .ok none
  | _ => (address value what).map some

def blockTags : List String := ["earliest", "latest", "pending", "safe", "finalized"]

/-- Encode an integer or approved block tag for an RPC request. -/
def blockParam : BlockId → Except PyError Str
  | .number n =>
      if 0 ≤ n then .ok (pyHex n.toNat)
      else .error (.valueError s!"invalid block selector: {Interpreter.repr (.int n)}")
  | .tag name =>
      if name ∈ blockTags then .ok name.toList
      else .error (.valueError s!"invalid block selector: {Interpreter.repr (.str name.toList)}")

/-- The fields an object lacks, as an error text shows them. -/
def missingText (missing : List String) : String :=
  "[" ++ ", ".intercalate ((missing.mergeSort (· ≤ ·)).map fun name => "'" ++ name ++ "'") ++ "]"

def requiredLogFields : List String :=
  ["address", "topics", "data", "blockNumber", "transactionHash", "transactionIndex", "blockHash",
    "logIndex", "removed"]

/-- Validate the complete shape and scalar domains of an EVM log. -/
def validateLog (value : Value) (what : String) : Except PyError Fields :=
  match value with
  | .dict fields => do
      let missing := requiredLogFields.filter fun name => !hasField fields name
      refuse (missing ≠ []) (.rpcError s!"{what}: log missing fields {missingText missing}")
      let _ ← address (getField fields "address") s!"{what}.address"
      match getField fields "topics" with
      | .list topics => do
          refuse (16 < topics.length) (.rpcError s!"{what}.topics: expected a bounded list")
          let _ ← decodeAll (fun index topic => hash topic s!"{what}.topics[{index}]") 0 topics
          let _ ← data (getField fields "data") s!"{what}.data"
          let _ ← quantity (getField fields "blockNumber") s!"{what}.blockNumber"
          let _ ← hash (getField fields "transactionHash") s!"{what}.transactionHash"
          let _ ← quantity (getField fields "transactionIndex") s!"{what}.transactionIndex"
          let _ ← hash (getField fields "blockHash") s!"{what}.blockHash"
          let _ ← quantity (getField fields "logIndex") s!"{what}.logIndex"
          match getField fields "removed" with
          | .bool _ => .ok fields
          | _ => .error (.rpcError s!"{what}.removed: expected boolean")
      | _ => .error (.rpcError s!"{what}.topics: expected a bounded list")
  | _ => .error (.rpcError s!"{what}: expected log object, got {value.typeName}")

def requiredReceiptFields : List String :=
  ["transactionHash", "blockHash", "blockNumber", "status", "logs"]

/-- A member that is validated only when it is present. -/
def optionalMember {α : Type} (validator : Value → String → Except PyError α) (fields : Fields)
    (what name : String) : Except PyError Unit :=
  if hasField fields name then
    (validator (getField fields name) s!"{what}.{name}").map fun _ => ()
  else .ok ()

/-- Validate a mined receipt and every log it contains. -/
def validateReceipt (value : Value) (what : String) : Except PyError Fields :=
  match value with
  | .dict fields => do
      let missing := requiredReceiptFields.filter fun name => !hasField fields name
      refuse (missing ≠ []) (.rpcError s!"{what}: receipt missing fields {missingText missing}")
      let _ ← hash (getField fields "transactionHash") s!"{what}.transactionHash"
      let _ ← hash (getField fields "blockHash") s!"{what}.blockHash"
      let _ ← quantity (getField fields "blockNumber") s!"{what}.blockNumber"
      let status ← quantity (getField fields "status") s!"{what}.status"
      refuse (status ≠ 0 ∧ status ≠ 1) (.rpcError s!"{what}.status: expected 0 or 1")
      match getField fields "logs" with
      | .list logs => do
          refuse (maxRpcListItems < logs.length)
            (.rpcError s!"{what}.logs: expected a bounded list")
          let _ ← decodeAll (fun index log => validateLog log s!"{what}.logs[{index}]") 0 logs
          optionalMember quantity fields what "transactionIndex"
          optionalMember quantity fields what "cumulativeGasUsed"
          optionalMember quantity fields what "gasUsed"
          optionalMember quantity fields what "type"
          optionalMember address fields what "from"
          optionalMember addressOrNull fields what "to"
          return fields
      | _ => .error (.rpcError s!"{what}.logs: expected a bounded list")
  | _ => .error (.rpcError s!"{what}: expected receipt object, got {value.typeName}")

/-! ### What the validators accept -/

theorem quantity_eq_ok_iff {value : Value} {what : String} {n : ℕ} :
    quantity value what = .ok n ↔
      ∃ text, value = .str text ∧ isQuantity text = true ∧ n = hexVal (text.drop 2) := by
  constructor
  · intro accepted
    unfold quantity at accepted
    split at accepted
    · split at accepted
      · rename_i text shape
        exact ⟨text, rfl, shape, by simpa using accepted.symm⟩
      · cases accepted
    · cases accepted
  · rintro ⟨text, rfl, shape, rfl⟩
    simp [quantity, shape]

theorem shaped_eq_ok_iff {shape : Str → Bool} {expected : String} {value : Value} {what : String}
    {text : Str} :
    shaped shape expected value what = .ok text ↔ value = .str text ∧ shape text = true := by
  constructor
  · intro accepted
    unfold shaped at accepted
    split at accepted
    · split at accepted
      · rename_i found holds
        cases accepted
        exact ⟨rfl, holds⟩
      · cases accepted
    · cases accepted
  · rintro ⟨rfl, holds⟩
    simp [shaped, holds]

theorem hash_eq_ok_iff {value : Value} {what : String} {text : Str} :
    hash value what = .ok text ↔ value = .str text ∧ isExactHex 64 text = true :=
  shaped_eq_ok_iff

theorem address_eq_ok_iff {value : Value} {what : String} {text : Str} :
    address value what = .ok text ↔ value = .str text ∧ isExactHex 40 text = true :=
  shaped_eq_ok_iff

theorem data_eq_ok_iff {value : Value} {what : String} {text : Str} :
    data value what = .ok text ↔ value = .str text ∧ isData text = true :=
  shaped_eq_ok_iff

omit [Interpreter] in
theorem optionalMember_eq_ok_iff {α : Type} {validator : Value → String → Except PyError α}
    {fields : Fields} {what name : String} {result : Unit} :
    optionalMember validator fields what name = .ok result ↔
      (hasField fields name = true →
        ∃ value, validator (getField fields name) s!"{what}.{name}" = .ok value) := by
  unfold optionalMember
  by_cases present : hasField fields name = true
  · simp only [present, ↓reduceIte, forall_const]
    rcases validator (getField fields name) s!"{what}.{name}" with error | value
    · simp [Except.map]
    · simp [Except.map]
  · simp [present]

/-- What `validateLog` guarantees of a log. -/
structure LogShape (fields : Fields) : Prop where
  complete : ∀ name ∈ requiredLogFields, hasField fields name = true
  address : ∃ text, getField fields "address" = .str text ∧ isExactHex 40 text = true
  topics : ∃ topics : List Str, getField fields "topics" = .list (topics.map .str) ∧
    topics.length ≤ 16 ∧ ∀ topic ∈ topics, isExactHex 64 topic = true
  data : ∃ text, getField fields "data" = .str text ∧ isData text = true
  blockNumber : ∃ text, getField fields "blockNumber" = .str text ∧ isQuantity text = true
  transactionHash : ∃ text, getField fields "transactionHash" = .str text ∧
    isExactHex 64 text = true
  transactionIndex : ∃ text, getField fields "transactionIndex" = .str text ∧
    isQuantity text = true
  blockHash : ∃ text, getField fields "blockHash" = .str text ∧ isExactHex 64 text = true
  logIndex : ∃ text, getField fields "logIndex" = .str text ∧ isQuantity text = true
  removed : ∃ flag, getField fields "removed" = .bool flag

theorem decodeAll_hash_iff (what : ℕ → String) {items : List Value} {start : ℕ}
    {texts : List Str} :
    decodeAll (fun index item => hash item (what index)) start items = .ok texts ↔
      items = texts.map .str ∧ ∀ text ∈ texts, isExactHex 64 text = true := by
  have each : ∀ position item text, hash item (what position) = .ok text ↔
      item = .str text ∧ isExactHex 64 text = true := fun _ _ _ => hash_eq_ok_iff
  rw [decodeAll_eq_ok_iff each]
  clear each
  induction texts generalizing items with
  | nil => simp
  | cons text texts ih =>
      constructor
      · intro related
        cases related with
        | cons first rest =>
            obtain ⟨rfl, shapes⟩ := ih.mp rest
            refine ⟨by rw [first.1]; rfl, ?_⟩
            simpa using ⟨first.2, shapes⟩
      · rintro ⟨rfl, shapes⟩
        simp only [List.mem_cons, forall_eq_or_imp] at shapes
        exact .cons ⟨rfl, shapes.1⟩ (ih.mpr ⟨rfl, shapes.2⟩)

theorem validateLog_eq_ok_iff {value : Value} {what : String} {fields : Fields} :
    validateLog value what = .ok fields ↔ value = .dict fields ∧ LogShape fields := by
  constructor
  · intro accepted
    unfold validateLog at accepted
    split at accepted
    · rename_i found
      simp only [Checks.bind_eq_ok_iff, refuse_eq_ok_iff, not_not] at accepted
      obtain ⟨_, complete, _, addressOk, accepted⟩ := accepted
      split at accepted
      · rename_i topics topicsEq
        simp only [Checks.bind_eq_ok_iff, refuse_eq_ok_iff, not_lt] at accepted
        obtain ⟨_, bounded, texts, topicsOk, _, dataOk, _, blockOk, _, txOk, _, txIndexOk, _,
          blockHashOk, _, logIndexOk, accepted⟩ := accepted
        split at accepted
        · rename_i flag removedEq
          cases accepted
          rw [decodeAll_hash_iff fun index => s!"{what}.topics[{index}]"] at topicsOk
          obtain ⟨rfl, topicShapes⟩ := topicsOk
          obtain ⟨blockText, blockNumber⟩ := quantity_eq_ok_iff.mp blockOk
          obtain ⟨txIndexText, txIndex⟩ := quantity_eq_ok_iff.mp txIndexOk
          obtain ⟨logIndexText, logIndex⟩ := quantity_eq_ok_iff.mp logIndexOk
          refine ⟨rfl, ?_⟩
          constructor
          · intro name required
            by_contra absent
            have listed : name ∈ requiredLogFields.filter fun name => !hasField fields name := by
              simpa [required] using absent
            rw [complete] at listed
            simp at listed
          · exact ⟨_, address_eq_ok_iff.mp addressOk⟩
          · exact ⟨texts, topicsEq, by simpa using bounded, topicShapes⟩
          · exact ⟨_, data_eq_ok_iff.mp dataOk⟩
          · exact ⟨blockText, blockNumber.1, blockNumber.2.1⟩
          · exact ⟨_, hash_eq_ok_iff.mp txOk⟩
          · exact ⟨txIndexText, txIndex.1, txIndex.2.1⟩
          · exact ⟨_, hash_eq_ok_iff.mp blockHashOk⟩
          · exact ⟨logIndexText, logIndex.1, logIndex.2.1⟩
          · exact ⟨flag, removedEq⟩
        · cases accepted
      · cases accepted
    · cases accepted
  · rintro ⟨rfl, shape⟩
    obtain ⟨addressText, addressOk⟩ := shape.address
    obtain ⟨topics, topicsEq, bounded, topicShapes⟩ := shape.topics
    obtain ⟨dataText, dataOk⟩ := shape.data
    obtain ⟨blockText, blockOk⟩ := shape.blockNumber
    obtain ⟨txText, txOk⟩ := shape.transactionHash
    obtain ⟨txIndexText, txIndexOk⟩ := shape.transactionIndex
    obtain ⟨blockHashText, blockHashOk⟩ := shape.blockHash
    obtain ⟨logIndexText, logIndexOk⟩ := shape.logIndex
    obtain ⟨flag, removedEq⟩ := shape.removed
    have complete : requiredLogFields.filter (fun name => !hasField fields name) = [] := by
      rw [List.filter_eq_nil_iff]
      intro name required
      simp [shape.complete name required]
    simp only [validateLog, Checks.bind_eq_ok_iff, refuse_eq_ok_iff, not_not, complete, topicsEq,
      removedEq, not_lt, List.length_map]
    refine ⟨(), trivial, addressText, address_eq_ok_iff.mpr addressOk, (), bounded, topics,
      (decodeAll_hash_iff fun index => s!"{what}.topics[{index}]").mpr
        ⟨rfl, topicShapes⟩,
      dataText, data_eq_ok_iff.mpr dataOk,
      _, quantity_eq_ok_iff.mpr ⟨blockText, blockOk.1, blockOk.2, rfl⟩,
      txText, hash_eq_ok_iff.mpr txOk,
      _, quantity_eq_ok_iff.mpr ⟨txIndexText, txIndexOk.1, txIndexOk.2, rfl⟩,
      blockHashText, hash_eq_ok_iff.mpr blockHashOk,
      _, quantity_eq_ok_iff.mpr ⟨logIndexText, logIndexOk.1, logIndexOk.2, rfl⟩, trivial⟩

theorem decodeAll_validateLog_iff (what : ℕ → String) {items : List Value} {start : ℕ}
    {logs : List Fields} :
    decodeAll (fun index item => validateLog item (what index)) start items = .ok logs ↔
      items = logs.map .dict ∧ ∀ log ∈ logs, LogShape log := by
  have each : ∀ position item log, validateLog item (what position) = .ok log ↔
      item = .dict log ∧ LogShape log := fun _ _ _ => validateLog_eq_ok_iff
  rw [decodeAll_eq_ok_iff each]
  clear each
  induction logs generalizing items with
  | nil => simp
  | cons log logs ih =>
      constructor
      · intro related
        cases related with
        | cons first rest =>
            obtain ⟨rfl, shapes⟩ := ih.mp rest
            refine ⟨by rw [first.1]; rfl, ?_⟩
            simpa using ⟨first.2, shapes⟩
      · rintro ⟨rfl, shapes⟩
        simp only [List.mem_cons, forall_eq_or_imp] at shapes
        exact .cons ⟨rfl, shapes.1⟩ (ih.mpr ⟨rfl, shapes.2⟩)

/-- What `validateReceipt` guarantees of a receipt. -/
structure ReceiptShape (fields : Fields) : Prop where
  complete : ∀ name ∈ requiredReceiptFields, hasField fields name = true
  transactionHash : ∃ text, getField fields "transactionHash" = .str text ∧
    isExactHex 64 text = true
  blockHash : ∃ text, getField fields "blockHash" = .str text ∧ isExactHex 64 text = true
  blockNumber : ∃ text, getField fields "blockNumber" = .str text ∧ isQuantity text = true
  status : ∃ text, getField fields "status" = .str text ∧ isQuantity text = true ∧
    (hexVal (text.drop 2) = 0 ∨ hexVal (text.drop 2) = 1)
  logs : ∃ logs : List Fields, getField fields "logs" = .list (logs.map .dict) ∧
    logs.length ≤ maxRpcListItems ∧ ∀ log ∈ logs, LogShape log
  quantities : ∀ name ∈ ["transactionIndex", "cumulativeGasUsed", "gasUsed", "type"],
    hasField fields name = true →
      ∃ text, getField fields name = .str text ∧ isQuantity text = true
  sender : hasField fields "from" = true →
    ∃ text, getField fields "from" = .str text ∧ isExactHex 40 text = true
  recipient : hasField fields "to" = true → getField fields "to" = .null ∨
    ∃ text, getField fields "to" = .str text ∧ isExactHex 40 text = true

theorem addressOrNull_isOk_iff {value : Value} {what : String} :
    (∃ found, addressOrNull value what = .ok found) ↔
      value = .null ∨ ∃ text, value = .str text ∧ isExactHex 40 text = true := by
  unfold addressOrNull
  split
  · simp
  · rename_i notNull
    rcases outcome : address value what with error | text
    · simp only [Except.map, reduceCtorEq, exists_false, false_iff, not_or, not_exists]
      refine ⟨notNull, fun text shape => ?_⟩
      rw [address_eq_ok_iff.mpr shape] at outcome
      cases outcome
    · have shape := address_eq_ok_iff.mp outcome
      simp only [Except.map, Except.ok.injEq, exists_eq', true_iff]
      exact Or.inr ⟨text, shape⟩

theorem quantity_isOk_iff {value : Value} {what : String} :
    (∃ n, quantity value what = .ok n) ↔ ∃ text, value = .str text ∧ isQuantity text = true := by
  constructor
  · rintro ⟨n, accepted⟩
    obtain ⟨text, isText, shape, _⟩ := quantity_eq_ok_iff.mp accepted
    exact ⟨text, isText, shape⟩
  · rintro ⟨text, isText, shape⟩
    exact ⟨_, quantity_eq_ok_iff.mpr ⟨text, isText, shape, rfl⟩⟩

theorem validateReceipt_eq_ok_iff {value : Value} {what : String} {fields : Fields} :
    validateReceipt value what = .ok fields ↔ value = .dict fields ∧ ReceiptShape fields := by
  constructor
  · intro accepted
    unfold validateReceipt at accepted
    split at accepted
    · rename_i found
      simp only [Checks.bind_eq_ok_iff, refuse_eq_ok_iff, not_not] at accepted
      obtain ⟨_, complete, _, txOk, _, blockHashOk, _, blockOk, status, statusOk, _, binary,
        accepted⟩ := accepted
      split at accepted
      · rename_i logs logsEq
        simp only [Checks.bind_eq_ok_iff, refuse_eq_ok_iff, not_lt, optionalMember_eq_ok_iff,
          exists_const] at accepted
        obtain ⟨bounded, decoded, logsOk, txIndexOk, cumulativeOk, gasOk, typeOk, fromOk, toOk,
          accepted⟩ := accepted
        obtain rfl : found = fields := by simpa [pure, Except.pure] using accepted
        obtain ⟨rfl, logShapes⟩ :=
          (decodeAll_validateLog_iff fun index => s!"{what}.logs[{index}]").mp logsOk
        obtain ⟨blockText, blockNumber⟩ := quantity_eq_ok_iff.mp blockOk
        obtain ⟨statusText, isText, statusShape, rfl⟩ := quantity_eq_ok_iff.mp statusOk
        refine ⟨rfl, ?_⟩
        constructor
        · intro name required
          by_contra absent
          have listed : name ∈ requiredReceiptFields.filter fun name => !hasField found name := by
            simpa [required] using absent
          rw [complete] at listed
          simp at listed
        · exact ⟨_, hash_eq_ok_iff.mp txOk⟩
        · exact ⟨_, hash_eq_ok_iff.mp blockHashOk⟩
        · exact ⟨blockText, blockNumber.1, blockNumber.2.1⟩
        · exact ⟨statusText, isText, statusShape, by omega⟩
        · exact ⟨decoded, logsEq, by simpa using bounded, logShapes⟩
        · intro name listed present
          simp only [List.mem_cons, List.not_mem_nil, or_false] at listed
          rcases listed with rfl | rfl | rfl | rfl
          · exact quantity_isOk_iff.mp (txIndexOk present)
          · exact quantity_isOk_iff.mp (cumulativeOk present)
          · exact quantity_isOk_iff.mp (gasOk present)
          · exact quantity_isOk_iff.mp (typeOk present)
        · intro present
          obtain ⟨text, accepted⟩ := fromOk present
          exact ⟨text, address_eq_ok_iff.mp accepted⟩
        · intro present
          exact addressOrNull_isOk_iff.mp (toOk present)
      · cases accepted
    · cases accepted
  · rintro ⟨rfl, shape⟩
    obtain ⟨txText, txOk⟩ := shape.transactionHash
    obtain ⟨blockHashText, blockHashOk⟩ := shape.blockHash
    obtain ⟨blockText, blockOk⟩ := shape.blockNumber
    obtain ⟨statusText, statusOk, statusShape, binary⟩ := shape.status
    obtain ⟨logs, logsEq, bounded, logShapes⟩ := shape.logs
    have complete : requiredReceiptFields.filter (fun name => !hasField fields name) = [] := by
      rw [List.filter_eq_nil_iff]
      intro name required
      simp [shape.complete name required]
    simp only [validateReceipt, Checks.bind_eq_ok_iff, refuse_eq_ok_iff, not_not, complete, logsEq,
      not_lt, List.length_map, optionalMember_eq_ok_iff, exists_const]
    refine ⟨trivial, txText, hash_eq_ok_iff.mpr txOk, blockHashText,
      hash_eq_ok_iff.mpr blockHashOk, _, quantity_eq_ok_iff.mpr ⟨blockText, blockOk.1, blockOk.2,
      rfl⟩, _, quantity_eq_ok_iff.mpr ⟨statusText, statusOk, statusShape, rfl⟩, by omega, bounded,
      logs, (decodeAll_validateLog_iff fun index => s!"{what}.logs[{index}]").mpr
        ⟨rfl, logShapes⟩, ?_, ?_, ?_, ?_, ?_, ?_, rfl⟩
    · exact fun present => quantity_isOk_iff.mpr (shape.quantities _ (by simp) present)
    · exact fun present => quantity_isOk_iff.mpr (shape.quantities _ (by simp) present)
    · exact fun present => quantity_isOk_iff.mpr (shape.quantities _ (by simp) present)
    · exact fun present => quantity_isOk_iff.mpr (shape.quantities _ (by simp) present)
    · intro present
      obtain ⟨text, shape⟩ := shape.sender present
      exact ⟨text, address_eq_ok_iff.mpr shape⟩
    · exact fun present => addressOrNull_isOk_iff.mpr (shape.recipient present)

theorem blockParam_number {n : ℤ} (nonnegative : 0 ≤ n) :
    blockParam (.number n) = .ok (pyHex n.toNat) := by
  simp [blockParam, nonnegative]

theorem decodeAll_topics {topics : List Str} {start : ℕ}
    (shapes : ∀ topic ∈ topics, isExactHex 64 topic = true) :
    decodeAll (fun _ topic => hash (.str topic) "eth_getLogs topic") start topics =
      .ok topics := by
  induction topics generalizing start with
  | nil => rfl
  | cons topic topics ih =>
      simp only [List.mem_cons, forall_eq_or_imp] at shapes
      have first : hash (.str topic) "eth_getLogs topic" = .ok topic :=
        hash_eq_ok_iff.mpr ⟨rfl, shapes.1⟩
      rw [decodeAll, first, ih shapes.2]
      rfl

/-! ### What a malformed answer raises -/

/-- An error of the client. -/
def ByClient (error : PyError) : Prop := error.isRpcError = true

omit [Interpreter] in
theorem byClient_rpcError {message : String} : ByClient (.rpcError message) := rfl

theorem failsOnly_shaped {shape : Str → Bool} {expected what : String} {value : Value} :
    FailsOnly ByClient (shaped shape expected value what) := by
  rw [shaped.eq_def]
  split
  · split_ifs
    · exact failsOnly_ok _
    · exact failsOnly_error byClient_rpcError
  · exact failsOnly_error byClient_rpcError

theorem failsOnly_quantity {what : String} {value : Value} :
    FailsOnly ByClient (quantity value what) := by
  rw [quantity.eq_def]
  split
  · split_ifs
    · exact failsOnly_ok _
    · exact failsOnly_error byClient_rpcError
  · exact failsOnly_error byClient_rpcError

theorem failsOnly_validateLog {what : String} {value : Value} :
    FailsOnly ByClient (validateLog value what) := by
  rw [validateLog.eq_def]
  split
  · refine (failsOnly_refuse byClient_rpcError).bind fun _ _ => failsOnly_shaped.bind fun _ _ => ?_
    split
    · refine (failsOnly_refuse byClient_rpcError).bind fun _ _ =>
        (failsOnly_decodeAll fun _ _ => failsOnly_shaped).bind fun _ _ =>
        failsOnly_shaped.bind fun _ _ => failsOnly_quantity.bind fun _ _ =>
        failsOnly_shaped.bind fun _ _ => failsOnly_quantity.bind fun _ _ =>
        failsOnly_shaped.bind fun _ _ => failsOnly_quantity.bind fun _ _ => ?_
      split
      · exact failsOnly_ok _
      · exact failsOnly_error byClient_rpcError
    · exact failsOnly_error byClient_rpcError
  · exact failsOnly_error byClient_rpcError

omit [Interpreter] in
theorem failsOnly_optionalMember {α : Type} {validator : Value → String → Except PyError α}
    {P : PyError → Prop} (only : ∀ value what, FailsOnly P (validator value what)) {fields : Fields}
    {what name : String} : FailsOnly P (optionalMember validator fields what name) := by
  rw [optionalMember]
  split_ifs
  · intro error failed
    cases outcome : validator (getField fields name) s!"{what}.{name}" with
    | error fault =>
      rw [outcome] at failed
      cases failed
      exact only _ _ _ outcome
    | ok value =>
      rw [outcome] at failed
      cases failed
  · exact failsOnly_ok _

/-- A malformed receipt is an error of the client. -/
theorem failsOnly_validateReceipt {what : String} {value : Value} :
    FailsOnly ByClient
      (validateReceipt value what) := by
  have recipient : ∀ value what, FailsOnly ByClient
      (addressOrNull value what) := by
    intro value what
    rw [addressOrNull.eq_def]
    split
    · exact failsOnly_ok _
    · intro error failed
      cases outcome : address value what with
      | error fault =>
        rw [outcome] at failed
        cases failed
        exact failsOnly_shaped _ outcome
      | ok text =>
        rw [outcome] at failed
        cases failed
  have member : ∀ {fields : Fields} {name : String}, FailsOnly ByClient
      (optionalMember quantity fields what name) :=
    failsOnly_optionalMember fun _ _ => failsOnly_quantity
  rw [validateReceipt.eq_def]
  split
  · refine (failsOnly_refuse byClient_rpcError).bind fun _ _ => failsOnly_shaped.bind fun _ _ =>
      failsOnly_shaped.bind fun _ _ => failsOnly_quantity.bind fun _ _ =>
      failsOnly_quantity.bind fun _ _ => (failsOnly_refuse byClient_rpcError).bind fun _ _ => ?_
    split
    · exact (failsOnly_refuse byClient_rpcError).bind fun _ _ =>
        (failsOnly_decodeAll fun _ _ => failsOnly_validateLog).bind fun _ _ =>
        member.bind fun _ _ => member.bind fun _ _ => member.bind fun _ _ => member.bind fun _ _ =>
        (failsOnly_optionalMember fun _ _ => failsOnly_shaped).bind fun _ _ =>
        (failsOnly_optionalMember recipient).bind fun _ _ => failsOnly_ok _
    · exact failsOnly_error byClient_rpcError
  · exact failsOnly_error byClient_rpcError

end Anvil

namespace RpcClient

open Anvil Program

variable {σ : Type}

/-- Call one JSON-RPC method; the client's own failures surface as `RpcError`. -/
def call (method : String) (params : List Value) : Proc σ Value := do
  let answer ← question (S := interface) (Ask.rpc method params)
  lift (Except.mapError PyError.rpcError answer)

/-- Return the latest chain height as an exact integer. -/
def blockNumber : Proc σ ℕ := do
  let result ← call "eth_blockNumber" []
  lift (quantity result "eth_blockNumber result")

/-- The chain id in the result of `eth_chainId`. -/
def checkChainId (result : Value) : Except PyError ℕ := do
  let chainId ← quantity result "eth_chainId result"
  refuse (chainId = 0) (.rpcError "eth_chainId result: chain id must be positive")
  return chainId

/-- Return the live EVM chain id as a strictly decoded quantity. -/
def chainId : Proc σ ℕ := do
  let result ← call "eth_chainId" []
  lift (checkChainId result)

/-- A required member of a block and its validator. -/
def blockMember {α : Type} (validator : Value → String → Except PyError α) (fields : Fields)
    (name : String) : Except PyError Unit := do
  refuse (hasField fields name = false) (.rpcError s!"eth_getBlockByNumber result: missing {name}")
  let _ ← validator (getField fields name) s!"block.{name}"

/-- The members of a block object without full transactions. -/
def checkBlock (result : Value) : Except PyError Fields :=
  match result with
  | .dict fields => do
      blockMember quantity fields "number"
      blockMember quantity fields "timestamp"
      blockMember hash fields "hash"
      blockMember hash fields "parentHash"
      match getField fields "transactions" with
      | .list transactions => do
          refuse (maxRpcListItems < transactions.length)
            (.rpcError "block.transactions: expected a bounded list")
          let _ ← decodeAll (fun index transaction =>
            hash transaction s!"block.transactions[{index}]") 0 transactions
          return fields
      | _ => .error (.rpcError "block.transactions: expected a bounded list")
  | _ => .error (.rpcError "eth_getBlockByNumber result: expected block object")

/-- Return one block suitable for pinning subsequent state reads. -/
def getBlock (block : BlockId) : Proc σ Fields := do
  let selector ← lift (blockParam block)
  let result ← call "eth_getBlockByNumber" [.str selector, .bool false]
  lift (checkBlock result)

/-- A topic filter as JSON: a topic or null for any. -/
def topicValue : Option Str → Value
  | some topic => .str topic
  | none => .null

/-- The logs in the result of `eth_getLogs`. -/
def checkLogs (result : Value) : Except PyError (List Fields) :=
  match result with
  | .list logs => do
      refuse (maxRpcListItems < logs.length)
        (.rpcError "eth_getLogs result: expected a bounded list")
      decodeAll (fun index log => validateLog log s!"eth_getLogs result[{index}]") 0 logs
  | _ => .error (.rpcError "eth_getLogs result: expected a bounded list")

/-- The validated parameters of `eth_getLogs`. -/
def logFilter (token : Str) (topics : List (Option Str)) (fromBlock toBlock : BlockId) :
    Except PyError Value := do
  let _ ← address (.str token) "eth_getLogs address"
  refuse (16 < topics.length) (.valueError "topics must be a list with at most 16 entries")
  let _ ← decodeAll (fun _ topic => hash (.str topic) "eth_getLogs topic") 0
    (topics.filterMap id)
  let fromText ← blockParam fromBlock
  let toText ← blockParam toBlock
  return .dict [(.str "address", .str token), (.str "topics", .list (topics.map topicValue)),
    (.str "fromBlock", .str fromText), (.str "toBlock", .str toText)]

/-- Fetch bounded logs for an exact address, topics, and block range. -/
def getLogs (token : Str) (topics : List (Option Str)) (fromBlock toBlock : BlockId) :
    Proc σ (List Fields) := do
  let filter ← lift (logFilter token topics fromBlock toBlock)
  let result ← call "eth_getLogs" [filter]
  lift (checkLogs result)

/-- The validated parameters of `eth_call`. -/
def callParams (target payload : Str) (block : BlockId) : Except PyError (List Value) := do
  let _ ← address (.str target) "eth_call to"
  let _ ← data (.str payload) "eth_call data"
  let selector ← blockParam block
  return [.dict [(.str "to", .str target), (.str "data", .str payload)], .str selector]

/-- Execute a read-only contract call at an explicit block selector. -/
def ethCall (target payload : Str) (block : BlockId) : Proc σ Str := do
  let params ← lift (callParams target payload block)
  let result ← call "eth_call" params
  lift (data result "eth_call result")

/-- The validated parameters of `eth_getCode`. -/
def codeParams (target : Str) (block : BlockId) : Except PyError (List Value) := do
  let _ ← address (.str target) "eth_getCode address"
  let selector ← blockParam block
  return [.str target, .str selector]

/-- Return validated bytecode for an address at an explicit block. -/
def getCode (target : Str) (block : BlockId) : Proc σ Str := do
  let params ← lift (codeParams target block)
  let result ← call "eth_getCode" params
  lift (data result "eth_getCode result")

/-- Broadcast validated signed transaction bytes and return its hash. -/
def sendRawTransaction (raw : Str) : Proc σ Str := do
  let _ ← lift (data (.str raw) "raw transaction")
  let result ← call "eth_sendRawTransaction" [.str raw]
  lift (hash result "eth_sendRawTransaction result")

/-- The receipt in the result of `eth_getTransactionReceipt`. -/
def checkReceipt (txHash : Str) (receipt : Value) : Except PyError Fields :=
  match receipt with
  | .null => .error (.rpcError s!"no receipt for {String.ofList txHash}")
  | _ => validateReceipt receipt "eth_getTransactionReceipt result"

/-- Return a mined receipt, rejecting missing or malformed evidence. -/
def getTransactionReceipt (txHash : Str) : Proc σ Fields := do
  let _ ← lift (hash (.str txHash) "transaction hash")
  let receipt ← call "eth_getTransactionReceipt" [.str txHash]
  lift (checkReceipt txHash receipt)

/-- The polling loop of `wait_for_receipt` with `left` polls to go. -/
def pollReceipt (txHash : Str) (tries : ℤ) : ℕ → Proc σ Fields
  | 0 => .raise (.rpcError s!"no receipt for {String.ofList txHash} after {tries} tries")
  | left + 1 => do
      let receipt ← call "eth_getTransactionReceipt" [.str txHash]
      match receipt with
      | .null => pollReceipt txHash tries left
      | _ => lift (validateReceipt receipt "eth_getTransactionReceipt result")

/-- Poll for a mined receipt using bounded attempts. -/
def waitForReceipt (txHash : Str) (tries : ℤ) : Proc σ Fields := do
  let _ ← lift (hash (.str txHash) "transaction hash")
  lift (refuse (tries ≤ 0) (.valueError "tries must be a positive integer"))
  pollReceipt txHash tries tries.toNat

/-! ### What the methods ask and return -/

/-- What `checkBlock` guarantees of a block. -/
structure BlockShape (fields : Fields) : Prop where
  complete : ∀ name ∈ ["number", "timestamp", "hash", "parentHash"], hasField fields name = true
  number : ∃ text, getField fields "number" = .str text ∧ isQuantity text = true
  timestamp : ∃ text, getField fields "timestamp" = .str text ∧ isQuantity text = true
  hash : ∃ text, getField fields "hash" = .str text ∧ isExactHex 64 text = true
  parentHash : ∃ text, getField fields "parentHash" = .str text ∧ isExactHex 64 text = true
  transactions : ∃ hashes : List Str, getField fields "transactions" = .list (hashes.map .str) ∧
    hashes.length ≤ maxRpcListItems ∧ ∀ text ∈ hashes, isExactHex 64 text = true

omit [Interpreter] in
theorem blockMember_eq_ok_iff {α : Type} {validator : Value → String → Except PyError α}
    {fields : Fields} {name : String} {result : Unit} :
    blockMember validator fields name = .ok result ↔
      hasField fields name = true ∧
        ∃ value, validator (getField fields name) s!"block.{name}" = .ok value := by
  simp only [blockMember, Checks.bind_eq_ok_iff, refuse_eq_ok_iff, Bool.not_eq_false, pure,
    Except.pure, and_true, exists_const]

theorem checkBlock_eq_ok_iff {value : Value} {fields : Fields} :
    checkBlock value = .ok fields ↔ value = .dict fields ∧ BlockShape fields := by
  constructor
  · intro accepted
    unfold checkBlock at accepted
    split at accepted
    · rename_i found
      simp only [Checks.bind_eq_ok_iff, blockMember_eq_ok_iff, exists_const] at accepted
      obtain ⟨⟨hasNumber, number, numberOk⟩, ⟨hasTime, time, timeOk⟩, ⟨hasHash, hash, hashOk⟩,
        ⟨hasParent, parent, parentOk⟩, accepted⟩ := accepted
      split at accepted
      · rename_i transactions listEq
        simp only [Checks.bind_eq_ok_iff, refuse_eq_ok_iff, not_lt, exists_const] at accepted
        obtain ⟨bounded, hashes, hashesOk, accepted⟩ := accepted
        obtain rfl : found = fields := by simpa [pure, Except.pure] using accepted
        obtain ⟨rfl, shapes⟩ :=
          (decodeAll_hash_iff fun index => s!"block.transactions[{index}]").mp hashesOk
        refine ⟨rfl, ?_⟩
        constructor
        · intro name listed
          simp only [List.mem_cons, List.not_mem_nil, or_false] at listed
          rcases listed with rfl | rfl | rfl | rfl <;> assumption
        · exact quantity_isOk_iff.mp ⟨_, numberOk⟩
        · exact quantity_isOk_iff.mp ⟨_, timeOk⟩
        · exact ⟨_, hash_eq_ok_iff.mp hashOk⟩
        · exact ⟨_, hash_eq_ok_iff.mp parentOk⟩
        · exact ⟨hashes, listEq, by simpa using bounded, shapes⟩
      · cases accepted
    · cases accepted
  · rintro ⟨rfl, shape⟩
    obtain ⟨hash, hashOk⟩ := shape.hash
    obtain ⟨parent, parentOk⟩ := shape.parentHash
    obtain ⟨hashes, listEq, bounded, shapes⟩ := shape.transactions
    simp only [checkBlock, Checks.bind_eq_ok_iff, blockMember_eq_ok_iff, exists_const, listEq,
      refuse_eq_ok_iff, not_lt, List.length_map]
    exact ⟨⟨shape.complete _ (by simp), quantity_isOk_iff.mpr shape.number⟩,
      ⟨shape.complete _ (by simp), quantity_isOk_iff.mpr shape.timestamp⟩,
      ⟨shape.complete _ (by simp), hash, hash_eq_ok_iff.mpr hashOk⟩,
      ⟨shape.complete _ (by simp), parent, hash_eq_ok_iff.mpr parentOk⟩, bounded, hashes,
      (decodeAll_hash_iff fun index => s!"block.transactions[{index}]").mpr ⟨rfl, shapes⟩, rfl⟩

theorem checkLogs_eq_ok_iff {value : Value} {logs : List Fields} :
    checkLogs value = .ok logs ↔
      value = .list (logs.map .dict) ∧ logs.length ≤ maxRpcListItems ∧
        ∀ log ∈ logs, LogShape log := by
  constructor
  · intro accepted
    unfold checkLogs at accepted
    split at accepted
    · simp only [Checks.bind_eq_ok_iff, refuse_eq_ok_iff, not_lt, exists_const] at accepted
      obtain ⟨bounded, decoded⟩ := accepted
      obtain ⟨rfl, shapes⟩ :=
        (decodeAll_validateLog_iff fun index => s!"eth_getLogs result[{index}]").mp decoded
      exact ⟨rfl, by simpa using bounded, shapes⟩
    · cases accepted
  · rintro ⟨rfl, bounded, shapes⟩
    simp only [checkLogs, Checks.bind_eq_ok_iff, refuse_eq_ok_iff, not_lt, exists_const,
      List.length_map]
    exact ⟨bounded, (decodeAll_validateLog_iff fun index =>
      s!"eth_getLogs result[{index}]").mpr ⟨rfl, shapes⟩⟩

theorem checkReceipt_eq_ok_iff {txHash : Str} {value : Value} {fields : Fields} :
    checkReceipt txHash value = .ok fields ↔ value = .dict fields ∧ ReceiptShape fields := by
  unfold checkReceipt
  split
  · simp
  · exact validateReceipt_eq_ok_iff

theorem checkChainId_eq_ok_iff {value : Value} {chainId : ℕ} :
    checkChainId value = .ok chainId ↔
      ∃ text, value = .str text ∧ isQuantity text = true ∧ chainId = hexVal (text.drop 2) ∧
        0 < chainId := by
  simp only [checkChainId, Checks.bind_eq_ok_iff, refuse_eq_ok_iff, exists_const, pure,
    Except.pure, Except.ok.injEq, quantity_eq_ok_iff]
  constructor
  · rintro ⟨n, ⟨text, isText, shape, rfl⟩, positive, rfl⟩
    exact ⟨text, isText, shape, rfl, by omega⟩
  · rintro ⟨text, isText, shape, rfl, positive⟩
    exact ⟨_, ⟨text, isText, shape, rfl⟩, by omega, rfl⟩

section Reads

omit [Interpreter] in
theorem replays_call_ok_iff {method : String} {params : List Value} {value : Value}
    {state finalState : σ} {said : Conversation} :
    Replays (call method params : Proc σ Value) state said (.ok value) finalState ↔
      said = [exchange method params (.ok value)] ∧ finalState = state := by
  unfold call
  simp only [replays_bind_ok_iff, replays_lift_iff]
  constructor
  · rintro ⟨answer, _, _, _, rfl, ⟨_, _, rfl, rfl, equal, rfl⟩, rfl, mapped, rfl⟩
    cases equal
    rcases answer with error | found
    · cases mapped
    · cases mapped
      exact ⟨rfl, rfl⟩
  · rintro ⟨rfl, rfl⟩
    exact ⟨.ok value, _, _, [], rfl, ⟨.ok value, [], rfl, rfl, rfl, rfl⟩, rfl, rfl, rfl⟩

omit [Interpreter] in
theorem reads_call (method : String) (params : List Value) :
    Reads (call method params : Proc σ Value) fun value said =>
      said = [exchange method params (.ok value)] :=
  fun _ _ _ _ => replays_call_ok_iff

omit [Interpreter] in
/-- One call followed by a check of its result. -/
theorem reads_checked {α : Type} (method : String) (params : List Value)
    (check : Value → Except PyError α) :
    Reads (do let value ← call method params; lift (check value) : Proc σ α) fun result said =>
      ∃ value, said = [exchange method params (.ok value)] ∧ check value = .ok result := by
  intro state said result finalState
  rw [(reads_call method params).bind_ok_iff]
  simp only [replays_lift_iff]
  constructor
  · rintro ⟨value, _, _, rfl, rfl, rfl, checked, rfl⟩
    exact ⟨⟨value, rfl, checked.symm⟩, rfl⟩
  · rintro ⟨⟨value, rfl, checked⟩, rfl⟩
    exact ⟨value, _, [], rfl, rfl, rfl, checked.symm, rfl⟩

theorem reads_chainId : Reads (chainId : Proc σ ℕ) fun n said =>
    ∃ text, said = [exchange "eth_chainId" [] (.ok (.str text))] ∧ isQuantity text = true ∧
      n = hexVal (text.drop 2) ∧ 0 < n := by
  intro state said n finalState
  refine (reads_checked "eth_chainId" [] checkChainId _ _ _ _).trans (and_congr_left' ?_)
  simp only [checkChainId_eq_ok_iff]
  constructor
  · rintro ⟨_, rfl, text, rfl, shape, equal, positive⟩
    exact ⟨text, rfl, shape, equal, positive⟩
  · rintro ⟨text, rfl, shape, equal, positive⟩
    exact ⟨_, rfl, text, rfl, shape, equal, positive⟩

theorem reads_getBlock (block : BlockId) : Reads (getBlock block : Proc σ Fields)
    fun fields said => ∃ selector, blockParam block = .ok selector ∧
      said = [exchange "eth_getBlockByNumber" [.str selector, .bool false]
        (.ok (.dict fields))] ∧ BlockShape fields := by
  intro state said fields finalState
  unfold getBlock
  rw [replays_lift_bind_ok_iff]
  simp only [reads_checked _ _ checkBlock _ _ _ _, checkBlock_eq_ok_iff]
  constructor
  · rintro ⟨selector, selected, ⟨_, rfl, rfl, shape⟩, rfl⟩
    exact ⟨⟨selector, selected, rfl, shape⟩, rfl⟩
  · rintro ⟨⟨selector, selected, rfl, shape⟩, rfl⟩
    exact ⟨selector, selected, ⟨_, rfl, rfl, shape⟩, rfl⟩

theorem reads_getTransactionReceipt (txHash : Str) :
    Reads (getTransactionReceipt txHash : Proc σ Fields) fun fields said =>
      isExactHex 64 txHash = true ∧
        said = [exchange "eth_getTransactionReceipt" [.str txHash] (.ok (.dict fields))] ∧
        ReceiptShape fields := by
  intro state said fields finalState
  unfold getTransactionReceipt
  rw [replays_lift_bind_ok_iff]
  simp only [reads_checked _ _ (checkReceipt txHash) _ _ _ _, checkReceipt_eq_ok_iff,
    hash_eq_ok_iff]
  constructor
  · rintro ⟨_, ⟨same, exact⟩, ⟨_, rfl, rfl, shape⟩, rfl⟩
    cases same
    exact ⟨⟨exact, rfl, shape⟩, rfl⟩
  · rintro ⟨⟨exact, rfl, shape⟩, rfl⟩
    exact ⟨txHash, ⟨rfl, exact⟩, ⟨_, rfl, rfl, shape⟩, rfl⟩

/-- The parameters of an `eth_call` at a numbered block. -/
def callAt (target payload : Str) (number : ℕ) : List Value :=
  [.dict [(.str "to", .str target), (.str "data", .str payload)], .str (pyHex number)]

theorem callParams_eq_ok_iff {target payload : Str} {number : ℕ} {params : List Value} :
    callParams target payload (.number number) = .ok params ↔
      isExactHex 40 target = true ∧ isData payload = true ∧
        params = callAt target payload number := by
  simp only [callParams, Checks.bind_eq_ok_iff, address_eq_ok_iff, data_eq_ok_iff, blockParam,
    Int.natCast_nonneg, if_true, Int.toNat_natCast, Except.ok.injEq, exists_eq_left', pure,
    Except.pure, Value.str.injEq]
  constructor
  · rintro ⟨_, ⟨rfl, exact⟩, _, ⟨rfl, even⟩, rfl⟩
    exact ⟨exact, even, rfl⟩
  · rintro ⟨exact, even, rfl⟩
    exact ⟨_, ⟨rfl, exact⟩, _, ⟨rfl, even⟩, rfl⟩

theorem reads_ethCall (target payload : Str) (number : ℕ) :
    Reads (ethCall target payload (.number number) : Proc σ Str) fun text said =>
      isExactHex 40 target = true ∧ isData payload = true ∧
        said = [exchange "eth_call" (callAt target payload number) (.ok (.str text))] ∧
        isData text = true := by
  intro state said text finalState
  unfold ethCall
  rw [replays_lift_bind_ok_iff]
  simp only [reads_checked _ _ (fun value => data value "eth_call result") _ _ _ _,
    callParams_eq_ok_iff, data_eq_ok_iff]
  constructor
  · rintro ⟨_, ⟨exact, even, rfl⟩, ⟨_, rfl, rfl, shape⟩, rfl⟩
    exact ⟨⟨exact, even, rfl, shape⟩, rfl⟩
  · rintro ⟨⟨exact, even, rfl, shape⟩, rfl⟩
    exact ⟨_, ⟨exact, even, rfl⟩, ⟨_, rfl, rfl, shape⟩, rfl⟩

theorem reads_getCode (target : Str) (number : ℕ) :
    Reads (getCode target (.number number) : Proc σ Str) fun text said =>
      isExactHex 40 target = true ∧
        said = [exchange "eth_getCode" [.str target, .str (pyHex number)] (.ok (.str text))] ∧
        isData text = true := by
  intro state said text finalState
  unfold getCode
  rw [replays_lift_bind_ok_iff]
  simp only [reads_checked _ _ (fun value => data value "eth_getCode result") _ _ _ _,
    codeParams, Checks.bind_eq_ok_iff, address_eq_ok_iff, blockParam, Int.natCast_nonneg, if_true,
    Int.toNat_natCast, Except.ok.injEq, exists_eq_left', pure, Except.pure, data_eq_ok_iff,
    Value.str.injEq]
  constructor
  · rintro ⟨_, ⟨_, ⟨rfl, exact⟩, rfl⟩, ⟨_, rfl, rfl, shape⟩, rfl⟩
    exact ⟨⟨exact, rfl, shape⟩, rfl⟩
  · rintro ⟨⟨exact, rfl, shape⟩, rfl⟩
    exact ⟨_, ⟨_, ⟨rfl, exact⟩, rfl⟩, ⟨_, rfl, rfl, shape⟩, rfl⟩

theorem reads_getLogs (token : Str) (topics : List (Option Str)) (fromBlock toBlock : BlockId) :
    Reads (getLogs token topics fromBlock toBlock : Proc σ (List Fields)) fun logs said =>
      ∃ filter, logFilter token topics fromBlock toBlock = .ok filter ∧
        said = [exchange "eth_getLogs" [filter] (.ok (.list (logs.map .dict)))] ∧
        logs.length ≤ maxRpcListItems ∧ ∀ log ∈ logs, LogShape log := by
  intro state said logs finalState
  unfold getLogs
  rw [replays_lift_bind_ok_iff]
  simp only [reads_checked _ _ checkLogs _ _ _ _, checkLogs_eq_ok_iff]
  constructor
  · rintro ⟨filter, filtered, ⟨_, rfl, rfl, bounded, shapes⟩, rfl⟩
    exact ⟨⟨filter, filtered, rfl, bounded, shapes⟩, rfl⟩
  · rintro ⟨⟨filter, filtered, rfl, bounded, shapes⟩, rfl⟩
    exact ⟨filter, filtered, ⟨_, rfl, rfl, bounded, shapes⟩, rfl⟩

end Reads

end RpcClient

end Psv
