import Psv.Node.Chain

/-!
# A node that answers everything

`serve` renders a chain as JSON in lower case.  Its objects pass the client's
validation (`logShape_logJson` and its companions) and all its answers are
honest (`honest_serve`).
-/

namespace Psv

open Python Interaction Program RpcClient Anvil Chain Rails

namespace Node

/-! ### JSON objects -/

def logJson (number : ℕ) (ofBlock txHash : Word) (position : ℕ) (log : Log) : Fields :=
  [(.str "address", .str (hexAddress log.emitter.toNat)),
    (.str "topics", .list (log.topics.map fun topic => .str (hexWord topic.toNat))),
    (.str "data", .str (hexData log.data)),
    (.str "blockNumber", .str (pyHex number)),
    (.str "transactionHash", .str (hexWord txHash.toNat)),
    (.str "transactionIndex", .str (pyHex position)),
    (.str "blockHash", .str (hexWord ofBlock.toNat)),
    (.str "logIndex", .str (pyHex log.index)),
    (.str "removed", .bool false)]

def receiptJson (number : ℕ) (ofBlock : Word) (position : ℕ) (receipt : Receipt) : Fields :=
  [(.str "transactionHash", .str (hexWord receipt.txHash.toNat)),
    (.str "blockHash", .str (hexWord ofBlock.toNat)),
    (.str "blockNumber", .str (pyHex number)),
    (.str "transactionIndex", .str (pyHex position)),
    (.str "status", .str (pyHex (if receipt.success then 1 else 0))),
    (.str "logs", .list ((receipt.logs.map
      (logJson number ofBlock receipt.txHash position)).map .dict))]

def blockJson (number : ℕ) (parentHash : Word) (block : Block) : Fields :=
  [(.str "number", .str (pyHex number)),
    (.str "timestamp", .str (pyHex block.timestamp)),
    (.str "hash", .str (hexWord block.hash.toNat)),
    (.str "parentHash", .str (hexWord parentHash.toNat)),
    (.str "transactions",
      .list ((block.receipts.map fun receipt => hexWord receipt.txHash.toNat).map .str))]

/-! ### Answers -/

/-- The hash of the block before `number`; the first block has none. -/
def Chain.parentHash (chain : Chain) (number : ℕ) : Word :=
  if number = 0 then 0 else (chain.blocks[number - 1]?).elim 0 Block.hash

/-- The height a block selector names; every tag names the head. -/
def Chain.height (chain : Chain) (selector : Str) : ℕ :=
  if isQuantity selector then hexVal (selector.drop 2) else chain.blocks.length - 1

/-- Answer a question about the state after a block, if there is such a block. -/
def Chain.atBlock (chain : Chain) (selector : Str) (answer : State → Str) :
    Except String Value :=
  match chain.blocks[chain.height selector]? with
  | some block => .ok (.str (answer block.post))
  | none => .error "unknown block"

/-- A contract call to a token: `balanceOf` or `authorizationState`. -/
def State.call (state : State) (target : Address) (payload : Str) : Str :=
  if state.code target = [] then ['0', 'x']
  else if payload.take 10 = '0' :: 'x' :: selBalanceOf then
    hexWord (state.balance target (BitVec.ofNat 160 (hexVal (payload.drop 10)))).toNat
  else if payload.take 10 = '0' :: 'x' :: selAuthorizationState then
    hexWord (if state.used target (BitVec.ofNat 160 (hexVal ((payload.drop 10).take 64)))
      (BitVec.ofNat 256 (hexVal (payload.drop 74))) then 1 else 0)
  else ['0', 'x']

/-- The first receipt of a transaction, with its place. -/
def Chain.findReceipt (chain : Chain) (tx : Word) : Option (ℕ × Block × ℕ × Receipt) :=
  chain.blocks.zipIdx.findSome? fun (block, number) =>
    block.receipts.zipIdx.findSome? fun (receipt, position) =>
      if receipt.txHash = tx then some (number, block, position, receipt) else none

/-- The log objects of a block that a filter selects. -/
def Block.selectJson (block : Block) (number : ℕ) (emitter : Address)
    (wanted : List (Option Word)) : List Fields :=
  block.receipts.zipIdx.flatMap fun (receipt, position) =>
    (receipt.logs.filter fun log =>
      decide (log.emitter = emitter) && topicsMatch wanted log.topics).map
        (logJson number block.hash receipt.txHash position)

/-- A topic of a filter. -/
def readTopic : Value → Option Word
  | .str text => some (readWord text)
  | _ => none

/-- The text of a field, empty when it is no text. -/
def fieldText (fields : Fields) (name : String) : Str :=
  match getField fields name with
  | .str text => text
  | _ => []

/-- The logs a filter selects, over its range of blocks. -/
def Chain.filterLogs (chain : Chain) (filter : Fields) : List Fields :=
  let first := chain.height (fieldText filter "fromBlock")
  let last := chain.height (fieldText filter "toBlock")
  let wanted := match getField filter "topics" with
    | .list topics => topics.map readTopic
    | _ => []
  (List.range' first (last + 1 - first)).flatMap fun number =>
    (chain.blocks[number]?).elim [] fun block =>
      block.selectJson number (readAddress (fieldText filter "address")) wanted

/-- The node's answer to a call. -/
def serve (chain : Chain) (method : String) (params : List Value) : Except String Value :=
  if method = "eth_chainId" then .ok (.str (pyHex chain.chainId))
  else if method = "eth_getBlockByNumber" then
    match params with
    | .str selector :: _ =>
        let number := chain.height selector
        match chain.blocks[number]? with
        | some block => .ok (.dict (blockJson number (chain.parentHash number) block))
        | none => .ok .null
    | _ => .error "invalid params"
  else if method = "eth_getTransactionReceipt" then
    match params with
    | .str tx :: _ =>
        match chain.findReceipt (readWord tx) with
        | some (number, block, position, receipt) =>
            .ok (.dict (receiptJson number block.hash position receipt))
        | none => .ok .null
    | _ => .error "invalid params"
  else if method = "eth_getCode" then
    match params with
    | [.str target, .str selector] =>
        chain.atBlock selector fun state => hexData (state.code (readAddress target))
    | _ => .error "invalid params"
  else if method = "eth_getStorageAt" then
    match params with
    | [.str target, .str slot, .str selector] =>
        chain.atBlock selector fun state =>
          hexWord (state.storage (readAddress target) (readWord slot)).toNat
    | _ => .error "invalid params"
  else if method = "eth_call" then
    match params with
    | [.dict fields, .str selector] =>
        chain.atBlock selector fun state =>
          state.call (readAddress (fieldText fields "to")) (fieldText fields "data")
    | _ => .error "invalid params"
  else if method = "eth_getLogs" then
    match params with
    | [.dict filter] => .ok (.list ((chain.filterLogs filter).map .dict))
    | _ => .error "invalid params"
  else .error "method not found"

/-- The world of a reader: one node that never changes. -/
def served (chain : Chain) : World
  | _, .rpc method params => (serve chain method params : Except String Value)
  | _, .sign _ => (.error (.valueError "no account") : Except PyError Str)
  | _, .clock => (⟨1, by norm_num⟩ : { seconds : ℤ // 0 < seconds })
  | _, .now => (⟨true, .ok "1970-01-01T00:00:00+00:00".toList⟩ : DateTime)
  | _, .tokenHex _ => ("" : String)

/-! ### Shapes -/

section Shapes

variable (number position : ℕ) (ofBlock txHash parentHash : Word) (log : Log) (receipt : Receipt)
  (block : Block)

theorem isExactHex_hexWord (n : ℕ) : isExactHex 64 (hexWord n) = true := isExactHex_hexPad _ _

theorem isExactHex_hexAddress (n : ℕ) : isExactHex 40 (hexAddress n) = true :=
  isExactHex_hexPad _ _

theorem all_bytesHex (data : List UInt8) : (bytesHex data).all isHexDigit = true := by
  simp [bytesHex, List.all_flatMap]

theorem length_bytesHex (data : List UInt8) : (bytesHex data).length = 2 * data.length := by
  induction data with
  | nil => rfl
  | cons byte data ih =>
      have split : bytesHex (byte :: data) = hexPad 2 byte.toNat ++ bytesHex data := rfl
      rw [split, List.length_append, length_hexPad, ih, List.length_cons]
      omega

theorem isData_hexData (data : List UInt8) : isData (hexData data) = true :=
  isData_iff.mpr ⟨_, rfl, by rw [length_bytesHex]; omega, all_bytesHex data⟩

theorem logShape_logJson (few : log.topics.length ≤ 16) :
    LogShape (logJson number ofBlock txHash position log) := by
  constructor
  · intro name required
    simp only [requiredLogFields, List.mem_cons, List.not_mem_nil, or_false] at required
    rcases required with rfl | rfl | rfl | rfl | rfl | rfl | rfl | rfl | rfl <;> rfl
  · exact ⟨_, rfl, isExactHex_hexAddress _⟩
  · refine ⟨log.topics.map fun topic => hexWord topic.toNat, ?_, by simpa using few, ?_⟩
    · change Value.list _ = _
      rw [List.map_map]
      rfl
    · intro text mem
      obtain ⟨topic, _, rfl⟩ := List.mem_map.mp mem
      exact isExactHex_hexWord _
  · exact ⟨_, rfl, isData_hexData _⟩
  · exact ⟨_, rfl, isQuantity_pyHex _⟩
  · exact ⟨_, rfl, isExactHex_hexWord _⟩
  · exact ⟨_, rfl, isQuantity_pyHex _⟩
  · exact ⟨_, rfl, isExactHex_hexWord _⟩
  · exact ⟨_, rfl, isQuantity_pyHex _⟩
  · exact ⟨_, rfl⟩

theorem receiptShape_receiptJson (bounded : receipt.logs.length ≤ maxRpcListItems)
    (few : ∀ log ∈ receipt.logs, log.topics.length ≤ 16) :
    ReceiptShape (receiptJson number ofBlock position receipt) := by
  constructor
  · intro name required
    simp only [requiredReceiptFields, List.mem_cons, List.not_mem_nil, or_false] at required
    rcases required with rfl | rfl | rfl | rfl | rfl <;> rfl
  · exact ⟨_, rfl, isExactHex_hexWord _⟩
  · exact ⟨_, rfl, isExactHex_hexWord _⟩
  · exact ⟨_, rfl, isQuantity_pyHex _⟩
  · refine ⟨_, rfl, isQuantity_pyHex _, ?_⟩
    rw [(spells_pyHex _).quantity_eq (isQuantity_pyHex _)]
    rcases receipt.success with _ | _ <;> simp
  · refine ⟨_, rfl, by simpa using bounded, ?_⟩
    intro fields mem
    obtain ⟨log, inReceipt, rfl⟩ := List.mem_map.mp mem
    exact logShape_logJson number position ofBlock receipt.txHash log (few log inReceipt)
  · intro name listed present
    simp only [List.mem_cons, List.not_mem_nil, or_false] at listed
    rcases listed with rfl | rfl | rfl | rfl
    · exact ⟨_, rfl, isQuantity_pyHex _⟩
    · cases present
    · cases present
    · cases present
  · intro present
    cases present
  · intro present
    cases present

theorem blockShape_blockJson (bounded : block.receipts.length ≤ maxRpcListItems) :
    BlockShape (blockJson number parentHash block) := by
  constructor
  · intro name required
    simp only [List.mem_cons, List.not_mem_nil, or_false] at required
    rcases required with rfl | rfl | rfl | rfl <;> rfl
  · exact ⟨_, rfl, isQuantity_pyHex _⟩
  · exact ⟨_, rfl, isQuantity_pyHex _⟩
  · exact ⟨_, rfl, isExactHex_hexWord _⟩
  · exact ⟨_, rfl, isExactHex_hexWord _⟩
  · refine ⟨_, rfl, by simpa using bounded, ?_⟩
    intro text mem
    obtain ⟨receipt, _, rfl⟩ := List.mem_map.mp mem
    exact isExactHex_hexWord _

theorem spells_hexData (data : List UInt8) : Spells (hexData data) (hexData data) := by
  have same : (bytesHex data).map Char.toLower = bytesHex data := by
    induction data with
    | nil => rfl
    | cons byte data ih =>
        change (hexPad 2 byte.toNat ++ bytesHex data).map Char.toLower = _
        rw [List.map_append, map_toLower_hexPad, ih]
        rfl
  change '0' :: 'x' :: (bytesHex data).map Char.toLower = _
  rw [same]
  rfl

theorem rendersLog_logJson :
    RendersLog number ofBlock txHash log (logJson number ofBlock txHash position log) := by
  constructor
  · exact ⟨_, rfl, spells_hexAddress _⟩
  · refine ⟨log.topics.map fun topic => hexWord topic.toNat, ?_, ?_⟩
    · change Value.list _ = _
      rw [List.map_map]
      rfl
    · rw [List.forall₂_map_left_iff]
      exact List.forall₂_same.mpr fun topic _ => spells_hexWord _
  · exact ⟨_, rfl, spells_hexData _⟩
  · exact ⟨_, rfl, spells_pyHex _⟩
  · exact ⟨_, rfl, spells_hexWord _⟩
  · exact ⟨_, rfl, spells_hexWord _⟩
  · exact ⟨_, rfl, spells_pyHex _⟩
  · rfl

theorem rendersReceipt_receiptJson :
    RendersReceipt number ofBlock receipt (receiptJson number ofBlock position receipt) := by
  constructor
  · exact ⟨_, rfl, spells_hexWord _⟩
  · exact ⟨_, rfl, spells_hexWord _⟩
  · exact ⟨_, rfl, spells_pyHex _⟩
  · exact ⟨_, rfl, spells_pyHex _⟩
  · refine ⟨_, rfl, ?_⟩
    rw [List.forall₂_map_right_iff]
    exact List.forall₂_same.mpr fun log _ => rendersLog_logJson _ _ _ _ _

theorem rendersBlock_blockJson : RendersBlock number block (blockJson number parentHash block) :=
  ⟨⟨_, rfl, spells_pyHex _⟩, ⟨_, rfl, spells_hexWord _⟩⟩

end Shapes

/-! ### The node is honest -/

variable {chain : Chain}

theorem height_pyHex (number : ℕ) : chain.height (pyHex number) = number := by
  rw [Chain.height, isQuantity_pyHex, if_pos rfl]
  exact (spells_pyHex number).quantity_eq (isQuantity_pyHex number)

theorem findReceipt_eq_some {tx : Word} {number position : ℕ} {block : Block} {receipt : Receipt}
    (found : chain.findReceipt tx = some (number, block, position, receipt)) :
    chain.Mined number block position receipt ∧ receipt.txHash = tx := by
  obtain ⟨⟨block', number'⟩, blockMem, inBlock⟩ := List.exists_of_findSome?_eq_some found
  obtain ⟨⟨receipt', position'⟩, receiptMem, here⟩ := List.exists_of_findSome?_eq_some inBlock
  simp only [Option.ite_none_right_eq_some, Option.some.injEq, Prod.mk.injEq] at here
  obtain ⟨same, rfl, rfl, rfl, rfl⟩ := here
  exact ⟨⟨List.mem_zipIdx_iff_getElem?.mp blockMem, List.mem_zipIdx_iff_getElem?.mp receiptMem⟩,
    same⟩

theorem atBlock_pyHex {number : ℕ} {answer : State → Str} {text : Str}
    (answered : chain.atBlock (pyHex number) answer = .ok (.str text)) :
    ∃ block, chain.blocks[number]? = some block ∧ text = answer block.post := by
  rw [Chain.atBlock, height_pyHex] at answered
  split at answered
  · rename_i block found
    cases answered
    exact ⟨block, found, rfl⟩
  · cases answered

theorem drop_balancePayload (account : ℕ) :
    (TokenView.balancePayload account).take 10 = '0' :: 'x' :: selBalanceOf ∧
      (TokenView.balancePayload account).drop 10 = hexPad 64 account := by
  have eight : selBalanceOf.length = 8 := by decide
  constructor
  · simp [TokenView.balancePayload, eight]
  · simp [TokenView.balancePayload, eight]

theorem drop_authorizationPayload (account nonce : ℕ) :
    (TokenView.authorizationPayload account nonce).take 10 = '0' :: 'x' :: selAuthorizationState ∧
      ((TokenView.authorizationPayload account nonce).drop 10).take 64 = hexPad 64 account ∧
      (TokenView.authorizationPayload account nonce).drop 74 = hexPad 64 nonce := by
  have eight : selAuthorizationState.length = 8 := by decide
  refine ⟨?_, ?_, ?_⟩
  · simp [TokenView.authorizationPayload, eight]
  · simp [TokenView.authorizationPayload, eight]
  · simp [TokenView.authorizationPayload, List.drop_append, eight]

theorem hexVal_hexPad_address (address : Address) :
    BitVec.ofNat 160 (hexVal (hexPad 64 address.toNat)) = address := by
  have small : address.toNat < 16 ^ 64 :=
    lt_of_lt_of_le address.isLt (by norm_num)
  rw [hexVal_hexPad_of_lt small, BitVec.ofNat_toNat, BitVec.setWidth_eq]

theorem hexVal_hexPad_word (word : Word) :
    BitVec.ofNat 256 (hexVal (hexPad 64 word.toNat)) = word := by
  have small : word.toNat < 16 ^ 64 := lt_of_lt_of_eq word.isLt (by norm_num)
  rw [hexVal_hexPad_of_lt small, BitVec.ofNat_toNat, BitVec.setWidth_eq]

theorem call_balancePayload {state : State} {target who : Address} :
    state.call target (TokenView.balancePayload who.toNat) =
      if state.code target = [] then ['0', 'x']
      else hexWord (state.balance target who).toNat := by
  obtain ⟨selector, argument⟩ := drop_balancePayload who.toNat
  rw [State.call, selector, argument, if_pos rfl, hexVal_hexPad_address]

theorem call_authorizationPayload {state : State} {target who : Address} {nonce : Word} :
    state.call target (TokenView.authorizationPayload who.toNat nonce.toNat) =
      if state.code target = [] then ['0', 'x']
      else hexWord (if state.used target who nonce then 1 else 0) := by
  obtain ⟨selector, account, argument⟩ := drop_authorizationPayload who.toNat nonce.toNat
  have other : ¬('0' :: 'x' :: selAuthorizationState = '0' :: 'x' :: selBalanceOf) := by decide
  rw [State.call, selector, account, argument, if_neg other, if_pos rfl, hexVal_hexPad_address,
    hexVal_hexPad_word]

theorem select_selectJson {block : Block} {number : ℕ} {emitter : Address}
    {wanted : List (Option Word)} :
    List.Forall₂ (fun entry fields => RendersLog number block.hash entry.1 entry.2 fields)
      (block.select emitter wanted) (block.selectJson number emitter wanted) := by
  unfold Block.select Block.selectJson
  generalize block.receipts = receipts
  generalize start : 0 = position
  clear start
  induction receipts generalizing position with
  | nil => exact .nil
  | cons receipt receipts ih =>
      simp only [List.flatMap_cons, List.zipIdx_cons]
      refine List.rel_append ?_ (ih (position + 1))
      rw [List.forall₂_map_left_iff, List.forall₂_map_right_iff]
      exact List.forall₂_same.mpr fun log _ => rendersLog_logJson _ _ _ _ _

theorem filterLogs_filterFields {target : Str} {wanted : List (Option Word)} {number : ℕ}
    {block : Block} (found : chain.blocks[number]? = some block) :
    chain.filterLogs (filterFields target
        (wanted.map (Option.map fun word => hexWord word.toNat)) number) =
      block.selectJson number (readAddress target) wanted := by
  have topics : ((wanted.map (Option.map fun word : Word => hexWord word.toNat)).map
      topicValue).map readTopic = wanted := by
    rw [List.map_map, List.map_map]
    conv_rhs => rw [← List.map_id wanted]
    refine List.map_congr_left fun topic _ => ?_
    rcases topic with _ | word
    · rfl
    · exact congrArg some (readWord_hexWord word)
  generalize asked : wanted.map (Option.map fun word : Word => hexWord word.toNat) = texts at *
  have fromText : fieldText (filterFields target texts number) "fromBlock" = pyHex number := rfl
  have toText : fieldText (filterFields target texts number) "toBlock" = pyHex number := rfl
  have address : fieldText (filterFields target texts number) "address" = target := rfl
  have listed : getField (filterFields target texts number) "topics" =
      .list (texts.map topicValue) := rfl
  simp only [Chain.filterLogs, fromText, toText, address, listed, height_pyHex, topics]
  simp [found]

/-- Every answer of the node is a true statement about its chain. -/
theorem honest_serve {method : String} {params : List Value} {value : Value}
    (answered : serve chain method params = .ok value) : Honest chain method params value := by
  have blockAnswer : ∀ selector fields, serve chain "eth_getBlockByNumber"
      [.str selector, .bool false] = .ok (.dict fields) →
      ∃ block, chain.blocks[chain.height selector]? = some block ∧
        RendersBlock (chain.height selector) block fields := by
    intro selector fields said
    simp only [serve, String.reduceEq, if_false, if_true] at said
    split at said
    · rename_i block found
      cases said
      exact ⟨block, found, rendersBlock_blockJson _ _ _⟩
    · cases said
  constructor
  · rintro rfl text rfl
    simp only [serve, if_true, Except.ok.injEq, Value.str.injEq] at answered
    subst answered
    exact spells_pyHex _
  · rintro number fields rfl rfl rfl
    simpa only [height_pyHex] using blockAnswer _ _ answered
  · rintro tag fields rfl rfl rfl
    exact ⟨_, blockAnswer _ _ answered⟩
  · rintro tx fields rfl rfl rfl
    simp only [serve, String.reduceEq, if_false, if_true, readWord_hexWord] at answered
    split at answered
    · rename_i number block position receipt found
      cases answered
      obtain ⟨mined, same⟩ := findReceipt_eq_some found
      exact ⟨number, block, position, receipt, mined, same, rendersReceipt_receiptJson _ _ _ _⟩
    · cases answered
  · rintro target number text rfl rfl exact rfl
    simp only [serve, String.reduceEq, if_false, if_true] at answered
    obtain ⟨block, found, rfl⟩ := atBlock_pyHex answered
    exact ⟨block, found, spells_hexData _⟩
  · rintro target slot number text rfl rfl exact slotExact rfl _
    simp only [serve, String.reduceEq, if_false, if_true] at answered
    obtain ⟨block, found, rfl⟩ := atBlock_pyHex answered
    exact ⟨block, found, spells_hexWord _⟩
  · rintro target who number text rfl rfl exact rfl shape
    simp only [serve, String.reduceEq, if_false, if_true, callAt] at answered
    obtain ⟨block, found, rfl⟩ := atBlock_pyHex answered
    refine ⟨block, found, ?_⟩
    change Spells (block.post.call (readAddress target) _) _
    change isExactHex 64 (block.post.call (readAddress target) _) = true at shape
    rw [show fieldText [(Key.str "to", Value.str target), (Key.str "data",
      Value.str (TokenView.balancePayload who.toNat))] "data" =
        TokenView.balancePayload who.toNat from rfl, call_balancePayload] at shape ⊢
    split at shape
    · cases shape
    · rename_i deployed
      rw [if_neg deployed]
      exact spells_hexWord _
  · rintro target who nonce number text rfl rfl exact rfl shape
    simp only [serve, String.reduceEq, if_false, if_true, callAt] at answered
    obtain ⟨block, found, rfl⟩ := atBlock_pyHex answered
    refine ⟨block, found, ?_⟩
    change Spells (block.post.call (readAddress target) _) _
    change isExactHex 64 (block.post.call (readAddress target) _) = true at shape
    rw [show fieldText [(Key.str "to", Value.str target), (Key.str "data",
      Value.str (TokenView.authorizationPayload who.toNat nonce.toNat))] "data" =
        TokenView.authorizationPayload who.toNat nonce.toNat from rfl,
      call_authorizationPayload] at shape ⊢
    split at shape
    · cases shape
    · rename_i deployed
      rw [if_neg deployed]
      exact spells_hexWord _
  · rintro target wanted number logs block rfl rfl exact listed found
    simp only [serve, String.reduceEq, if_false, if_true, transferFilter,
      filterLogs_filterFields found, Except.ok.injEq] at answered
    rw [← answered, Value.list.injEq] at listed
    obtain rfl := List.map_injective_iff.mpr (fun _ _ same => by simpa using same) listed
    exact select_selectJson

theorem honestWorld_served (chain : Chain) : HonestWorld chain (served chain) :=
  fun _ _ _ _ answered => honest_serve answered

/-! ### The answers one by one -/

attribute [local simp] serve

theorem serve_block {number : ℕ} {block : Block} (found : chain.blocks[number]? = some block) :
    serve chain "eth_getBlockByNumber" [.str (pyHex number), .bool false] =
      .ok (.dict (blockJson number (chain.parentHash number) block)) := by
  simp [height_pyHex, found]

theorem serve_tag {head : Block} (tag : FinalityTag)
    (found : chain.blocks[chain.blocks.length - 1]? = some head) :
    serve chain "eth_getBlockByNumber" [.str tag.text.toList, .bool false] =
      .ok (.dict (blockJson (chain.blocks.length - 1)
        (chain.parentHash (chain.blocks.length - 1)) head)) := by
  have height : chain.height tag.text.toList = chain.blocks.length - 1 := by
    have named : isQuantity tag.text.toList = false := by cases tag <;> decide
    rw [Chain.height, named, if_neg (by simp)]
  simp [height, found]

theorem findReceipt_of_mined {number position : ℕ} {block : Block} {receipt : Receipt}
    (mined : chain.Mined number block position receipt) :
    chain.findReceipt receipt.txHash = some (number, block, position, receipt) := by
  rcases found : chain.findReceipt receipt.txHash with _ | ⟨number', block', position', receipt'⟩
  · have nowhere := List.findSome?_eq_none_iff.mp found (block, number)
      (List.mem_zipIdx_iff_getElem?.mpr mined.inChain)
    have here := List.findSome?_eq_none_iff.mp nowhere (receipt, position)
      (List.mem_zipIdx_iff_getElem?.mpr mined.inBlock)
    simp at here
  · obtain ⟨other, same⟩ := findReceipt_eq_some found
    obtain ⟨rfl, rfl, rfl, rfl⟩ := other.unique mined same
    rfl

theorem serve_receipt {number position : ℕ} {block : Block} {receipt : Receipt}
    (mined : chain.Mined number block position receipt) :
    serve chain "eth_getTransactionReceipt" [.str (hexWord receipt.txHash.toNat)] =
      .ok (.dict (receiptJson number block.hash position receipt)) := by
  simp [readWord_hexWord, findReceipt_of_mined mined]

theorem atBlock_of_found {number : ℕ} {block : Block} {answer : State → Str}
    (found : chain.blocks[number]? = some block) :
    chain.atBlock (pyHex number) answer = .ok (.str (answer block.post)) := by
  simp only [Chain.atBlock, height_pyHex, found]

theorem serve_code {number : ℕ} {block : Block} (target : Str)
    (found : chain.blocks[number]? = some block) :
    serve chain "eth_getCode" [.str target, .str (pyHex number)] =
      .ok (.str (hexData (block.post.code (readAddress target)))) := by
  simp [atBlock_of_found found]

theorem serve_balance {number : ℕ} {block : Block} (target : Str) (who : Address)
    (found : chain.blocks[number]? = some block)
    (deployed : block.post.code (readAddress target) ≠ []) :
    serve chain "eth_call" (callAt target (TokenView.balancePayload who.toNat) number) =
      .ok (.str (hexWord (block.post.balance (readAddress target) who).toNat)) := by
  have served : serve chain "eth_call"
      (callAt target (TokenView.balancePayload who.toNat) number) =
      chain.atBlock (pyHex number) fun state =>
        state.call (readAddress target) (TokenView.balancePayload who.toNat) := rfl
  rw [served, atBlock_of_found found, call_balancePayload, if_neg deployed]

theorem serve_used {number : ℕ} {block : Block} (target : Str) (who : Address) (nonce : Word)
    (found : chain.blocks[number]? = some block)
    (deployed : block.post.code (readAddress target) ≠ []) :
    serve chain "eth_call"
        (callAt target (TokenView.authorizationPayload who.toNat nonce.toNat) number) =
      .ok (.str (hexWord (if block.post.used (readAddress target) who nonce then 1 else 0))) := by
  have served : serve chain "eth_call"
      (callAt target (TokenView.authorizationPayload who.toNat nonce.toNat) number) =
      chain.atBlock (pyHex number) fun state =>
        state.call (readAddress target)
          (TokenView.authorizationPayload who.toNat nonce.toNat) := rfl
  rw [served, atBlock_of_found found, call_authorizationPayload, if_neg deployed]

theorem serve_logs {number : ℕ} {block : Block} (target : Str) (wanted : List (Option Word))
    (found : chain.blocks[number]? = some block) :
    serve chain "eth_getLogs" [transferFilter target
        (wanted.map (Option.map fun word => hexWord word.toNat)) number] =
      .ok (.list ((block.selectJson number (readAddress target) wanted).map .dict)) := by
  simp [transferFilter, filterLogs_filterFields found]

end Node

end Psv
