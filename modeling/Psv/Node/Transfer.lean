import Psv.Node.Observe

/-!
# A transfer on a served chain

When the logs of a successful transaction and of its block single out one
transfer, and the balances moved as it says, the window of a run can be
attributed (`transferOk_served`), so the run returns (`returns_transferred`).
-/

namespace Psv

open Python Interaction Program RpcClient Anvil Chain Rails

namespace Node

variable [Interpreter] {σ : Type}

/-! ### Encodings -/

/-- The last `count` bytes of a number, most significant first. -/
def bytesOf : ℕ → ℕ → List UInt8
  | 0, _ => []
  | count + 1, n => bytesOf count (n / 256) ++ [UInt8.ofNat (n % 256)]

/-- The data of a log with one word. -/
def wordData (word : Word) : List UInt8 := bytesOf 32 word.toNat

section Encodings

omit [Interpreter]

theorem bytesHex_append (first second : List UInt8) :
    bytesHex (first ++ second) = bytesHex first ++ bytesHex second := by
  simp [bytesHex]

theorem bytesHex_bytesOf (count n : ℕ) : bytesHex (bytesOf count n) = hexPad (2 * count) n := by
  induction count generalizing n with
  | zero => rfl
  | succ count ih =>
      have byte : (UInt8.ofNat (n % 256)).toNat = n % 256 := by
        simp
      have last : bytesHex [UInt8.ofNat (n % 256)] = hexPad 2 (n % 256) := by
        simp [bytesHex, byte]
      have split : 2 * (count + 1) = 2 * count + 1 + 1 := by ring
      have high : n % 256 / 16 % 16 = n / 16 % 16 := by omega
      have low : n % 256 % 16 = n % 16 := by omega
      rw [bytesOf, bytesHex_append, ih, last, split]
      simp only [hexPad, List.append_assoc, List.nil_append, List.singleton_append, high, low,
        Nat.div_div_eq_div_mul]

theorem hexData_wordData (word : Word) : hexData (wordData word) = hexWord word.toNat := by
  rw [hexData, wordData, bytesHex_bytesOf]
  rfl

theorem hexWord_injective {left right : Word} (same : hexWord left.toNat = hexWord right.toNat) :
    left = right := by
  have small : ∀ word : Word, word.toNat < 16 ^ 64 := fun word =>
    lt_of_lt_of_eq word.isLt (by norm_num)
  simp only [hexWord, List.cons.injEq, true_and] at same
  exact BitVec.eq_of_toNat_eq (hexPad_injOn (small left) (small right) same)

theorem hexAddress_injective {left right : Address}
    (same : hexAddress left.toNat = hexAddress right.toNat) : left = right := by
  have small : ∀ address : Address, address.toNat < 16 ^ 40 := fun address =>
    lt_of_lt_of_eq address.isLt (by norm_num)
  simp only [hexAddress, List.cons.injEq, true_and] at same
  exact BitVec.eq_of_toNat_eq (hexPad_injOn (small left) (small right) same)

end Encodings

/-! ### Logs by position -/

section Positions

omit [Interpreter]

theorem filter_key_eq_singleton {α β : Type} [DecidableEq β] {items : List α} {key : α → β}
    {item : α} (nodup : (items.map key).Nodup) (mem : item ∈ items) :
    items.filter (fun other => decide (key other = key item)) = [item] := by
  induction items with
  | nil => simp at mem
  | cons first rest ih =>
      simp only [List.map_cons, List.nodup_cons, List.mem_map, not_exists, not_and] at nodup
      rcases List.mem_cons.mp mem with rfl | inRest
      · rw [List.filter_cons_of_pos (by simp), List.filter_eq_nil_iff.mpr]
        intro other otherMem
        simpa using nodup.1 other otherMem
      · have different : key first ≠ key item := fun same => nodup.1 item inRest same.symm
        rw [List.filter_cons_of_neg (by simpa using different)]
        exact ih nodup.2 inRest

/-- The positions of a receipt's logs are distinct. -/
theorem Chain.positions_receipt {chain : Chain} {number position : ℕ} {block : Block}
    {receipt : Receipt} (mined : chain.Mined number block position receipt) :
    (receipt.logs.map Log.index).Nodup := by
  have nodup := chain.positions_nodup block (List.mem_of_getElem? mined.inChain)
  rw [Block.logs, List.map_flatMap] at nodup
  exact (List.nodup_flatMap.mp nodup).1 receipt (List.mem_of_getElem? mined.inBlock)

/-- The selected logs are the logs of the block that pass the filter. -/
theorem map_snd_select (block : Block) (emitter : Address) (wanted : List (Option Word)) :
    (block.select emitter wanted).map Prod.snd = block.logs.filter fun log =>
      decide (log.emitter = emitter) && topicsMatch wanted log.topics := by
  simp [Block.select, Block.logs, List.map_flatMap, List.filter_flatMap, Function.comp_def]

/-- A selection that only holds one log has at most one entry. -/
theorem length_select_le {chain : Chain} {block : Block} {emitter : Address}
    {wanted : List (Option Word)} {entry : Word × Log} (mem : block ∈ chain.blocks)
    (only : ∀ other ∈ block.select emitter wanted, other = entry) :
    (block.select emitter wanted).length ≤ 1 := by
  have nodup : ((block.select emitter wanted).map fun other => other.2.index).Nodup := by
    have all := chain.positions_nodup block mem
    have same : (block.select emitter wanted).map (fun other => other.2.index) =
        (block.logs.filter fun log =>
          decide (log.emitter = emitter) && topicsMatch wanted log.topics).map Log.index := by
      rw [← map_snd_select, List.map_map]
      rfl
    rw [same]
    exact all.sublist (List.filter_sublist.map _)
  rcases selected : block.select emitter wanted with _ | ⟨first, _ | ⟨second, rest⟩⟩
  · simp
  · simp
  · rw [selected] at nodup only
    have equal : first = second := (only first (by simp)).trans (only second (by simp)).symm
    simp [equal] at nodup

theorem mem_selectJson {block : Block} {number : ℕ} {emitter : Address}
    {wanted : List (Option Word)} {fields : Fields}
    (mem : fields ∈ block.selectJson number emitter wanted) :
    ∃ entry ∈ block.select emitter wanted, ∃ position,
      fields = logJson number block.hash entry.1 position entry.2 := by
  simp only [Block.selectJson, List.mem_flatMap, List.mem_map, List.mem_filter, Prod.exists,
    Bool.and_eq_true, decide_eq_true_eq] at mem
  obtain ⟨receipt, position, inBlock, log, ⟨inReceipt, same, matched⟩, rfl⟩ := mem
  refine ⟨(receipt.txHash, log), ?_, position, rfl⟩
  simp only [Block.select, List.mem_flatMap, List.mem_map, List.mem_filter, Bool.and_eq_true,
    decide_eq_true_eq]
  exact ⟨receipt, List.mem_of_getElem? (List.mem_zipIdx_iff_getElem?.mp inBlock), log,
    ⟨inReceipt, same, matched⟩, rfl⟩

theorem length_selectJson (block : Block) (number : ℕ) (emitter : Address)
    (wanted : List (Option Word)) :
    (block.selectJson number emitter wanted).length = (block.select emitter wanted).length :=
  select_selectJson.length_eq.symm

theorem mem_select {chain : Chain} {number position : ℕ} {block : Block} {receipt : Receipt}
    {log : Log} {emitter : Address} {wanted : List (Option Word)}
    (mined : chain.Mined number block position receipt) (inReceipt : log ∈ receipt.logs)
    (same : log.emitter = emitter) (matched : topicsMatch wanted log.topics = true) :
    (receipt.txHash, log) ∈ block.select emitter wanted := by
  simp only [Block.select, List.mem_flatMap, List.mem_map, List.mem_filter, Bool.and_eq_true,
    decide_eq_true_eq]
  exact ⟨receipt, List.mem_of_getElem? mined.inBlock, log, ⟨inReceipt, same, matched⟩, rfl⟩

end Positions

/-! ### Attribution -/

/-- The topics of a `Transfer` and of an `AuthorizationUsed` log. -/
def transferTopics (payer payee : Address) : List Word :=
  [readWord topicTransfer, payer.setWidth 256, payee.setWidth 256]

def usedTopics (payer : Address) (nonce : Word) : List Word :=
  [readWord topicAuthorizationUsed, payer.setWidth 256, nonce]

/-- The logs of the block single out one transfer, and the balances that are served moved as
it says. -/
structure Transferred (token : TokenView) (payment : Payment) (number : ℕ) (snapshot : Snapshot)
    (block : Block) (receipt : Receipt) (transfer authorization : Log) (value : Word) : Prop where
  success : receipt.success = true
  number_lt : number < 2 ^ 256
  index : (transfer.index : ℤ) = payment.logIndex
  inReceipt : transfer ∈ receipt.logs
  emitter : transfer.emitter = readAddress token.address
  topics : transfer.topics =
    transferTopics (readAddress payment.payer) (readAddress payment.payee)
  data : transfer.data = wordData value
  authorized : receipt.logs.filter (fun log => decide (log.emitter = readAddress token.address ∧
    log.topics = usedTopics (readAddress payment.payer) (readWord payment.nonce))) =
      [authorization]
  inbound : ∀ entry ∈ block.select (readAddress token.address) [some (readWord topicTransfer),
    none, some ((readAddress payment.payee).setWidth 256)], entry = (receipt.txHash, transfer)
  outbound : ∀ entry ∈ block.select (readAddress token.address) [some (readWord topicTransfer),
    some ((readAddress payment.payer).setWidth 256), none], entry = (receipt.txHash, transfer)
  used : snapshot.nonceConsumed = true
  debited : (snapshot.payerAfter : ℤ) - snapshot.payerParent = -value.toNat
  received : 0 < (snapshot.payeeAfter : ℤ) - snapshot.payeeParent ∧
    (snapshot.payeeAfter : ℤ) - snapshot.payeeParent ≤ value.toNat

/-- The credit a transfer log decodes to. -/
def creditOf (chainId number : ℕ) (ofBlock txHash : Word) (token : TokenView) (payment : Payment)
    (transfer : Log) (value : Word) : OnChainCredit where
  identity := ⟨chainId, lower token.address, hexWord txHash.toNat, transfer.index⟩
  blockHash := hexWord ofBlock.toNat
  blockNumber := number
  payer := lower payment.payer
  payee := lower payment.payee
  value := value.toNat
  removed := false

theorem decodesTo_logJson {chainId number position : ℕ} {ofBlock txHash : Word}
    {token : TokenView} {payment : Payment} {transfer : Log} {value : Word}
    (positive : 0 < chainId) (number_lt : number < 2 ^ 256) (index_lt : transfer.index < 2 ^ 256)
    (payerShape : isExactHex 40 payment.payer = true)
    (payeeShape : isExactHex 40 payment.payee = true)
    (emitter : transfer.emitter = readAddress token.address)
    (topics : transfer.topics =
      transferTopics (readAddress payment.payer) (readAddress payment.payee))
    (data : transfer.data = wordData value) :
    Reconciliation.DecodesTo (logJson number ofBlock txHash position transfer) chainId
      (creditOf chainId number ofBlock txHash token payment transfer value) := by
  have quantity : ∀ n, hexVal ((pyHex n).drop 2) = n :=
    fun n => (spells_pyHex n).quantity_eq (isQuantity_pyHex n)
  have zeros : ∀ address : Address, ((hexWord address.toNat).drop 2).take 24 =
      List.replicate 24 '0' := by
    intro address
    rw [hexWord_address, List.drop_succ_cons, List.drop_succ_cons, List.drop_zero]
    exact List.take_left' (by simp)
  have tail : ∀ address : Address, (hexWord address.toNat).drop 26 = hexPad 40 address.toNat := by
    intro address
    rw [hexWord_address, List.drop_succ_cons, List.drop_succ_cons]
    exact List.drop_left' (by simp)
  constructor
  · exact_mod_cast positive
  · rfl
  · refine ⟨topicTransfer, hexWord (readAddress payment.payer).toNat,
      hexWord (readAddress payment.payee).toNat, ?_, ?_, ?_, ?_, ?_, ?_⟩
    · change Value.list (transfer.topics.map _) = _
      rw [topics]
      simp [transferTopics, topicTransfer_eq, -BitVec.toNat_setWidth, toNat_setWidth]
    · exact lower_hexWord _
    · rw [lower_hexWord, zeros]
    · rw [lower_hexWord, tail]
      exact lower_address payerShape
    · rw [lower_hexWord, zeros]
    · rw [lower_hexWord, tail]
      exact lower_address payeeShape
  · refine ⟨hexWord value.toNat, ?_, isExactHex_hexWord _, ?_⟩
    · change Value.str (hexData transfer.data) = _
      rw [data, hexData_wordData]
    · rw [(spells_hexWord _).word_eq (isExactHex_hexWord _)]
      rfl
  · rfl
  · refine ⟨hexAddress transfer.emitter.toNat, rfl, ?_⟩
    rw [emitter, show lower (hexAddress _) = _ from lower_hexPad 40 _]
    exact lower_address token.exact
  · exact ⟨_, rfl, (lower_hexWord _).symm⟩
  · refine ⟨_, rfl, ?_, ?_⟩
    · rw [quantity]
      rfl
    · rw [quantity, uint256Max]
      omega
  · exact ⟨_, rfl, (lower_hexWord _).symm⟩
  · refine ⟨_, rfl, ?_, ?_⟩
    · rw [quantity]
      rfl
    · rw [quantity, uint256Max]
      omega

omit [Interpreter] in
theorem hasLogIndex_logJson {number position : ℕ} {ofBlock txHash : Word} {log : Log}
    {index : ℕ} : hasLogIndex index (logJson number ofBlock txHash position log) =
      decide (log.index = index) := by
  change (isQuantity (pyHex log.index) && decide ((hexVal ((pyHex log.index).drop 2) : ℤ) = index))
    = _
  rw [isQuantity_pyHex, (spells_pyHex _).quantity_eq (isQuantity_pyHex _)]
  simp

theorem isTokenLog_logJson {token : TokenView} {payment : Payment} {number position : ℕ}
    {ofBlock txHash : Word} {log : Log} (payerShape : isExactHex 40 payment.payer = true)
    (nonceShape : isExactHex 64 payment.nonce = true) :
    isTokenLog token.address (authorizationTopics payment)
        (logJson number ofBlock txHash position log) =
      decide (log.emitter = readAddress token.address ∧
        log.topics = usedTopics (readAddress payment.payer) (readWord payment.nonce)) := by
  have address : lower (hexAddress log.emitter.toNat) = lower token.address ↔
      log.emitter = readAddress token.address := by
    rw [show lower (hexAddress log.emitter.toNat) = _ from lower_hexPad 40 _,
      lower_address token.exact]
    exact ⟨fun same => hexAddress_injective same, fun same => by rw [same]; rfl⟩
  have topicTexts : authorizationTopics payment =
      (usedTopics (readAddress payment.payer) (readWord payment.nonce)).map
        fun topic => hexWord topic.toNat := by
    have auth : hexWord (readWord topicAuthorizationUsed).toNat = topicAuthorizationUsed :=
      hexWord_readWord _
    simp [authorizationTopics, usedTopics, auth, -BitVec.toNat_setWidth, toNat_setWidth,
      toNat_readAddress payerShape, lower_word nonceShape]
  have topics : (Value.list (log.topics.map fun topic => .str (hexWord topic.toNat))).isTexts
      (authorizationTopics payment) = true ↔
        log.topics = usedTopics (readAddress payment.payer) (readWord payment.nonce) := by
    rw [Value.isTexts_iff, topicTexts, Value.list.injEq, List.map_map]
    refine ⟨fun same => ?_, fun same => by rw [same]; rfl⟩
    refine List.map_injective_iff.mpr (fun left right equal => ?_) same
    exact hexWord_injective (by simpa using equal)
  change (decide (lower (hexAddress log.emitter.toNat) = lower token.address) &&
    (Value.list (log.topics.map fun topic => .str (hexWord topic.toNat))).isTexts
      (authorizationTopics payment)) = _
  rw [Bool.eq_iff_iff, Bool.and_eq_true, decide_eq_true_iff, decide_eq_true_iff, address, topics]

section Transferred

variable {chain : Chain} {token : TokenView} {rail : RailConfig} {payment : Payment}
  {number position : ℕ} {parent block head : Block} {receipt : Receipt} {snapshot : Snapshot}
  {transfer authorization : Log} {value : Word}

theorem raceOk_served
    (mined : chain.Mined number block position receipt) (positive : 0 < chain.chainId)
    (payerShape : isExactHex 40 payment.payer = true)
    (payeeShape : isExactHex 40 payment.payee = true) (index_lt : transfer.index < 2 ^ 256)
    (moved : Transferred token payment number snapshot block receipt transfer authorization
      value) :
    RaceOk (creditOf chain.chainId number block.hash receipt.txHash token payment transfer value)
      (servedRace token payment number block).1 (servedRace token payment number block).2 := by
  have mem := List.mem_of_getElem? mined.inChain
  have inMem : (receipt.txHash, transfer) ∈ block.select (readAddress token.address)
      [some (readWord topicTransfer), none, some ((readAddress payment.payee).setWidth 256)] :=
    mem_select mined moved.inReceipt moved.emitter (by
      rw [moved.topics]; simp [transferTopics, topicsMatch])
  have every : ∀ fields ∈ (servedRace token payment number block).1 ++
      (servedRace token payment number block).2, ∃ position,
        fields = logJson number block.hash receipt.txHash position transfer := by
    intro fields listed
    rcases List.mem_append.mp listed with listed | listed
    · obtain ⟨entry, selected, position, rfl⟩ := mem_selectJson listed
      obtain rfl := moved.inbound entry selected
      exact ⟨position, rfl⟩
    · obtain ⟨entry, selected, position, rfl⟩ := mem_selectJson listed
      obtain rfl := moved.outbound entry selected
      exact ⟨position, rfl⟩
  have small : (1 : ℕ) ≤ maxRpcListItems := by decide
  constructor
  · rw [servedRace, length_selectJson]
    exact (length_select_le mem moved.inbound).trans small
  · rw [servedRace, length_selectJson]
    exact (length_select_le mem moved.outbound).trans small
  · intro fields listed
    obtain ⟨position, rfl⟩ := every fields listed
    exact logShape_logJson _ _ _ _ _ (by rw [moved.topics]; simp [transferTopics])
  · intro empty
    have none := List.append_eq_nil_iff.mp empty
    have length := length_selectJson block number (readAddress token.address)
      [some (readWord topicTransfer), Option.none, some ((readAddress payment.payee).setWidth 256)]
    rw [show block.selectJson number (readAddress token.address) _ = [] from none.1] at length
    rw [List.length_eq_zero_iff.mp length.symm] at inMem
    simp at inMem
  · intro fields listed
    obtain ⟨position, rfl⟩ := every fields listed
    exact ⟨_, decodesTo_logJson positive moved.number_lt index_lt payerShape payeeShape
      moved.emitter moved.topics moved.data, rfl, rfl⟩

theorem transferOk_served
    (readable : Readable chain token rail payment number position block head receipt)
    (payerShape : isExactHex 40 payment.payer = true)
    (payeeShape : isExactHex 40 payment.payee = true)
    (moved : Transferred token payment number snapshot block receipt transfer authorization
      value) :
    TransferOk token payment chain.chainId (lower payment.transactionHash)
      (pointOf chain number block receipt) (receiptJson number block.hash position receipt)
      snapshot
      (creditOf chain.chainId number block.hash receipt.txHash token payment transfer value)
      authorization.index (servedRace token payment number block).1
      (servedRace token payment number block).2 := by
  have positive : 0 < chain.chainId := by
    have chain_eq := readable.chain_eq
    have := rail.chainId_pos
    omega
  have index_lt : transfer.index < 2 ^ 256 := by
    have bound := readable.arguments.logIndex.2
    have index := moved.index
    simp only [uint256Max] at bound
    omega
  have nodup := Chain.positions_receipt readable.mined
  constructor
  · refine ⟨receipt.logs.map (logJson number block.hash receipt.txHash position), rfl,
      ⟨logJson number block.hash receipt.txHash position transfer, ?_,
        decodesTo_logJson positive moved.number_lt index_lt payerShape payeeShape moved.emitter
          moved.topics moved.data⟩,
      logJson number block.hash receipt.txHash position authorization, ?_, rfl,
      quantityAt_pyHex rfl⟩
    · rw [← moved.index, List.filter_map]
      simp only [Function.comp_def, hasLogIndex_logJson]
      rw [filter_key_eq_singleton nodup moved.inReceipt]
      rfl
    · rw [List.filter_map]
      simp only [Function.comp_def,
        isTokenLog_logJson payerShape readable.arguments.nonceShape]
      rw [moved.authorized]
      rfl
  · rfl
  · rfl
  · exact readable.txHash_eq.symm
  · rfl
  · rfl
  · rfl
  · rfl
  · exact moved.used
  · exact raceOk_served readable.mined positive payerShape payeeShape index_lt moved
  · exact moved.debited
  · exact moved.received

theorem attributionOk_served
    (readable : Readable chain token rail payment number position block head receipt)
    (payerShape : isExactHex 40 payment.payer = true)
    (payeeShape : isExactHex 40 payment.payee = true)
    (moved : Transferred token payment number snapshot block receipt transfer authorization
      value) :
    AttributionOk token payment chain.chainId (lower payment.transactionHash)
      (pointOf chain number block receipt) (receiptJson number block.hash position receipt)
      snapshot (some (servedRace token payment number block))
      (successAttribution
        (creditOf chain.chainId number block.hash receipt.txHash token payment transfer value)
        authorization.index snapshot) :=
  ⟨by simp [pointOf, moved.success], _, _,
    transferOk_served readable payerShape payeeShape moved, rfl⟩

/-- What a run reads on a chain where the transfer stands. -/
def transferredWindow (chain : Chain) (token : TokenView) (rail : RailConfig) (payment : Payment)
    (number position : ℕ) (snapshot : Snapshot) (block head : Block) (receipt : Receipt)
    (transfer authorization : Log) (value : Word) : Window :=
  observed chain token rail number position block head receipt (wordsOf snapshot) snapshot
    (some (servedRace token payment number block))
    (successAttribution
      (creditOf chain.chainId number block.hash receipt.txHash token payment transfer value)
      authorization.index snapshot)

/-- What a run reads on a chain where the transaction reverted. -/
def revertedWindow (chain : Chain) (token : TokenView) (rail : RailConfig) (payment : Payment)
    (number position : ℕ) (parent block head : Block) (receipt : Receipt) : Window :=
  let snapshot := snapshotOf token payment parent block
  observed chain token rail number position block head receipt (wordsOf snapshot) snapshot none
    (revertedAttribution snapshot)

/-- A run against a served chain with a standing transfer returns. -/
theorem returns_transferred {state : σ} {history : Conversation} (believes : Bool)
    (readable : Readable chain token rail payment number position block head receipt)
    (balanced : Balanced chain token payment number parent)
    (moved : Transferred token payment number (snapshotOf token payment parent block) block
      receipt transfer authorization value) :
    let window := transferredWindow chain token rail payment number position
      (snapshotOf token payment parent block) block head receipt transfer authorization value
    ∃ divergence, detectPaymentDivergence window.attribution.truth believes
        (some payment.requiredAmount) = .ok divergence ∧
      Returns (served chain) (reconcileLive token rail payment believes) state history
        ⟨divergence, window.evidence token rail payment⟩ state
        (history ++ window.transcript token rail payment) := by
  refine returns_served believes readable balanced ?_
    (attributionOk_served readable balanced.payerShape balanced.payeeShape moved)
  rintro _ ⟨⟩
  rfl

/-- A run against a served chain with a reverted transaction returns. -/
theorem returns_reverted {state : σ} {history : Conversation} (believes : Bool)
    (readable : Readable chain token rail payment number position block head receipt)
    (balanced : Balanced chain token payment number parent) (reverted : receipt.success = false)
    (unused : (snapshotOf token payment parent block).nonceConsumed = false) :
    let window := revertedWindow chain token rail payment number position parent block head
      receipt
    ∃ divergence, detectPaymentDivergence window.attribution.truth believes
        (some payment.requiredAmount) = .ok divergence ∧
      Returns (served chain) (reconcileLive token rail payment believes) state history
        ⟨divergence, window.evidence token rail payment⟩ state
        (history ++ window.transcript token rail payment) := by
  refine returns_served believes readable balanced (by simp) ?_
  exact ⟨by simp [pointOf, reverted], unused, rfl⟩

end Transferred

/-! ### Sample chains

A token on the local rail, and the payment by transaction `0x1001` whose
transfer stands at position 1 of block 1. -/

namespace Sample

omit [Interpreter]

/-- Knows the digest of the sample token's code. -/
@[reducible]
def interpreter : Interpreter :=
  asciiInterpreter
    [([0x60, 0x00], 0xf3df0a62b10f205b0f29768aa3d69e777154caaa179f64aabb0a4899c666b017)]

def token : TokenView := tokenForRail mockAnvil

def target : Address := readAddress token.address

def payer : Address := 0xa1

def payee : Address := 0xb2

def third : Address := 0xc3

def nonce : Word := 7

def txHash : Word := 0x1001

/-- A state of the token; its code and its implementation never change. -/
def post (ofPayer ofPayee ofThird : Word) (used : Bool) : State where
  code _ := [0x60, 0x00]
  storage _ _ := 0xee
  balance _ who :=
    if who = payer then ofPayer else if who = payee then ofPayee
    else if who = third then ofThird else 0
  used _ _ _ := used

def authorization : Log := ⟨target, usedTopics payer nonce, [], 0⟩

def transfer (source destination : Address) (value : Word) (index : ℕ) : Log :=
  ⟨target, transferTopics source destination, wordData value, index⟩

def genesis : Block := ⟨0x10, 0, [], post 1000 0 0 false⟩

/-- The payment of 100 out of 1000 to an empty account. -/
def paymentTo (destination : Address) : Payment :=
  ⟨hexAddress payer.toNat, hexAddress destination.toNat, hexWord nonce.toNat,
    hexWord txHash.toNat, 1, 100, 1000, 0⟩

section

variable {destination : Address} {chain : Chain} {number position : ℕ} {block head : Block}
  {receipt : Receipt}

theorem argumentsOk {rail : RailConfig} (same : rail.tokenAddress = mockAnvil.tokenAddress) :
    letI := interpreter; ArgumentsOk token rail (paymentTo destination) := by
  let := interpreter
  constructor
  · rw [same]
    rfl
  · exact isExactHex_hexWord _
  · exact isExactHex_hexWord _
  all_goals norm_num [paymentTo, uint256Max]

/-- On a rail that waits for one confirmation and whose pins are met, a block of few transactions can
be read as soon as it is mined. -/
theorem readable_of_pinned {rail : RailConfig} (address : rail.tokenAddress = mockAnvil.tokenAddress)
    (calibrated : rail.attestation.networkClass = .mainnet → rail.attestation.calibrated = true)
    (pinned : letI := interpreter; Pinned chain rail block)
    (expected : letI := interpreter; ∀ sha ∈ rail.attestation.expectedCodeSha256,
      Interpreter.sha256 [0x60, 0x00] = sha)
    (shallow : rail.finality.minimumConfirmations = 1) (chainId : (chain.chainId : ℤ) = rail.chainId)
    (mined : chain.Mined number block position receipt) (tx : receipt.txHash = txHash)
    (onHead : chain.blocks[chain.blocks.length - 1]? = some head)
    (few : block.receipts.length ≤ 10 ∧ head.receipts.length ≤ 10 ∧ receipt.logs.length ≤ 10)
    (topics : ∀ log ∈ receipt.logs, log.topics.length ≤ 16)
    (code : block.post.code target = [0x60, 0x00]) :
    letI := interpreter
    Readable chain token rail (paymentTo destination) number position block head receipt := by
  let := interpreter
  have inside := (List.getElem?_eq_some_iff.mp mined.inChain).1
  have ten : (10 : ℕ) ≤ maxRpcListItems := by decide
  constructor
  · exact argumentsOk address
  · exact chainId
  · exact calibrated
  · exact pinned
  · exact mined
  · rw [tx]
    exact readWord_hexWord _
  · exact onHead
  · rw [shallow]
    omega
  · omega
  · omega
  · omega
  · exact topics
  · rw [show readAddress token.address = target from rfl, code]
    decide
  · rw [show readAddress token.address = target from rfl, code]
    exact expected

/-- On the local rail a block of few transactions can be read as soon as it is mined. -/
theorem readable (chainId : chain.chainId = 84532)
    (mined : chain.Mined number block position receipt) (tx : receipt.txHash = txHash)
    (onHead : chain.blocks[chain.blocks.length - 1]? = some head)
    (few : block.receipts.length ≤ 10 ∧ head.receipts.length ≤ 10 ∧ receipt.logs.length ≤ 10)
    (topics : ∀ log ∈ receipt.logs, log.topics.length ≤ 16)
    (code : block.post.code target = [0x60, 0x00]) :
    letI := interpreter
    Readable chain token mockAnvil (paymentTo destination) number position block head receipt := by
  refine readable_of_pinned rfl (fun mainnet => absurd mainnet (by decide))
    (@pinned_of_free interpreter _ _ _ rfl rfl) (by rintro _ ⟨⟩) rfl ?_ mined tx onHead few topics
    code
  rw [chainId]
  rfl

theorem balanced (parentFound : chain.blocks[number - 1]? = some genesis)
    (afterGenesis : 0 < number) (empty : genesis.post.balance target destination = 0) :
    Balanced chain token (paymentTo destination) number genesis where
  afterGenesis := afterGenesis
  payerShape := isExactHex_hexAddress _
  payeeShape := isExactHex_hexAddress _
  parentFound := parentFound
  parentDeployed := by decide
  payerBefore := by
    rw [show (paymentTo destination).payer = hexAddress payer.toNat from rfl,
      readAddress_hexAddress]
    rfl
  payeeBefore := by
    rw [show (paymentTo destination).payee = hexAddress destination.toNat from rfl,
      readAddress_hexAddress, show readAddress token.address = target from rfl, empty]
    rfl

end

/-- The transaction that pays 100, and the block in which it settles. -/
def settled (destination : Address) : Receipt :=
  ⟨txHash, true, [authorization, transfer payer destination 100 1]⟩

def settlement (destination : Address) (others : List Receipt) (state : State) : Block :=
  ⟨0x11, 1, settled destination :: others, state⟩

/-- Whatever balances are served, the logs of the block single out the transfer when no other
log is a transfer from the payer or to the receiver. -/
theorem transferred {destination : Address} {others : List Receipt} {state : State}
    {snapshot : Snapshot}
    (quiet : ∀ receipt ∈ others, ∀ log ∈ receipt.logs,
      topicsMatch [some (readWord topicTransfer), none, some (destination.setWidth 256)]
          log.topics = false ∧
        topicsMatch [some (readWord topicTransfer), some (payer.setWidth 256), none]
          log.topics = false)
    (used : snapshot.nonceConsumed = true)
    (debited : (snapshot.payerAfter : ℤ) - snapshot.payerParent = -100)
    (received : 0 < (snapshot.payeeAfter : ℤ) - snapshot.payeeParent ∧
      (snapshot.payeeAfter : ℤ) - snapshot.payeeParent ≤ 100) :
    Transferred token (paymentTo destination) 1 snapshot (settlement destination others state)
      (settled destination) (transfer payer destination 100 1) authorization 100 := by
  have readPayer : readAddress (paymentTo destination).payer = payer := readAddress_hexAddress _
  have readPayee : readAddress (paymentTo destination).payee = destination :=
    readAddress_hexAddress _
  have readNonce : readWord (paymentTo destination).nonce = nonce := readWord_hexWord _
  have notTransfer : readWord topicAuthorizationUsed ≠ readWord topicTransfer := by decide +kernel
  constructor
  · rfl
  · decide
  · rfl
  · simp [settled]
  · rfl
  · rw [readPayer, readPayee]
    rfl
  · rfl
  · rw [readPayer, readNonce]
    simp [settled, authorization, transfer, usedTopics, transferTopics, notTransfer.symm, target]
  · rw [readPayee]
    intro entry mem
    simp only [settlement, Block.select, List.flatMap_cons, List.mem_append, List.mem_flatMap,
      List.mem_map, List.mem_filter, Bool.and_eq_true] at mem
    rcases mem with ⟨log, ⟨inReceipt, _, matched⟩, rfl⟩ | ⟨receipt, listed, log, ⟨inReceipt, _,
      matched⟩, rfl⟩
    · simp only [settled, List.mem_cons, List.not_mem_nil, or_false] at inReceipt
      rcases inReceipt with rfl | rfl
      · simp [authorization, usedTopics, topicsMatch, notTransfer.symm] at matched
      · rfl
    · rw [(quiet receipt listed log inReceipt).1] at matched
      cases matched
  · rw [readPayer]
    intro entry mem
    simp only [settlement, Block.select, List.flatMap_cons, List.mem_append, List.mem_flatMap,
      List.mem_map, List.mem_filter, Bool.and_eq_true] at mem
    rcases mem with ⟨log, ⟨inReceipt, _, matched⟩, rfl⟩ | ⟨receipt, listed, log, ⟨inReceipt, _,
      matched⟩, rfl⟩
    · simp only [settled, List.mem_cons, List.not_mem_nil, or_false] at inReceipt
      rcases inReceipt with rfl | rfl
      · simp [authorization, usedTopics, topicsMatch, notTransfer.symm] at matched
      · rfl
    · rw [(quiet receipt listed log inReceipt).2] at matched
      cases matched
  · exact used
  · exact debited
  · exact received

/-- The chain of the deployment and one settlement. -/
def chainTo (destination : Address) (state : State) : Chain where
  chainId := 84532
  blocks := [genesis, settlement destination [] state]
  transactions_nodup := by simp [genesis, settlement]
  positions_nodup := by
    simp [genesis, settlement, Block.logs, settled, authorization, transfer]

theorem readable_chainTo (destination : Address) (state : State)
    (code : state.code target = [0x60, 0x00]) :
    letI := interpreter
    Readable (chainTo destination state) token mockAnvil (paymentTo destination) 1 0
      (settlement destination [] state) (settlement destination [] state) (settled destination) :=
  readable rfl ⟨rfl, rfl⟩ rfl rfl (by simp [settlement, settled])
    (by simp [settled, authorization, transfer, usedTopics, transferTopics]) code

/-- The honest payment: 100 of 1000 move from payer to payee. -/
def paid : State := post 900 100 0 true

theorem moved_paid : Transferred token (paymentTo payee) 1
    (snapshotOf token (paymentTo payee) genesis (settlement payee [] paid))
    (settlement payee [] paid) (settled payee) (transfer payer payee 100 1) authorization 100 := by
  have snapshot_eq : snapshotOf token (paymentTo payee) genesis (settlement payee [] paid) =
      ⟨1000, 0, 900, 100, true⟩ := by
    decide +kernel
  rw [snapshot_eq]
  exact transferred (by simp) rfl (by decide) (by decide)

/-- The honest payment on a chain with some id. -/
def paidOn (chainId : ℕ) : Chain := { chainTo payee paid with chainId := chainId }

/-- A rail for the sample token that waits for one confirmation and pins nothing else than what the
sample chain shows. -/
structure Suited (rail : RailConfig) : Prop where
  address : rail.tokenAddress = mockAnvil.tokenAddress
  calibrated : rail.attestation.networkClass = .mainnet → rail.attestation.calibrated = true
  pinned : ∀ chain : Chain, chain.blocks[0]? = some genesis →
    @Pinned interpreter chain rail (settlement payee [] paid)
  expected : letI := interpreter; ∀ sha ∈ rail.attestation.expectedCodeSha256,
    Interpreter.sha256 [0x60, 0x00] = sha
  shallow : rail.finality.minimumConfirmations = 1

/-- A rail that pins nothing at all is suited. -/
theorem suited_of_free {rail : RailConfig} (address : rail.tokenAddress = mockAnvil.tokenAddress)
    (noAnchor : reviewAnchor rail = none) (noProxy : rail.attestation.proxyKind = .none)
    (notMainnet : rail.attestation.networkClass ≠ .mainnet)
    (noCode : rail.attestation.expectedCodeSha256 = none)
    (shallow : rail.finality.minimumConfirmations = 1) : Suited rail where
  address := address
  calibrated mainnet := absurd mainnet notMainnet
  pinned _ _ := @pinned_of_free interpreter _ _ _ noAnchor noProxy
  expected := by
    rw [noCode]
    rintro _ ⟨⟩
  shallow := shallow

theorem suited_mockAnvil : Suited mockAnvil :=
  suited_of_free rfl rfl rfl (by decide) rfl rfl

def codeSha : Str := hexPad 64 0xf3df0a62b10f205b0f29768aa3d69e777154caaa179f64aabb0a4899c666b017

/-- A rail that was calibrated on the sample chain, with the token behind a proxy. -/
def calibratedRail : RailConfig := { mockAnvil with
  attestation := { mockAttestation with
    networkClass := .testnet
    proxyKind := .erc1967Proxy
    reviewedBlockNumber := some 0
    reviewedBlockHash := some (hexWord 0x10)
    expectedCodeSha256 := some codeSha
    implementationAddress := some (hexAddress 0xee)
    proxyImplementationSlot := some (hexWord 1)
    implementationCodeSha256 := some codeSha
    calibrated := true
    accepted := by decide +kernel }
  accepted := by decide +kernel }

theorem suited_calibratedRail : Suited calibratedRail where
  address := rfl
  calibrated _ := rfl
  pinned chain begins := by
    let := interpreter
    constructor
    · intro number anchored
      cases anchored
      exact ⟨genesis, begins, by decide, rfl⟩
    · intro _
      refine ⟨hexWord 1, hexAddress 0xee, rfl, rfl, ?_, List.cons_ne_nil _ _, ?_⟩
      · rw [show (0xee : ℕ) = (0xee : Address).toNat from rfl, readAddress_hexAddress]
        decide
      · decide +kernel
  expected := by
    rintro _ ⟨⟩
    decide +kernel
  shallow := rfl

/-- What a run reads of the honest payment. -/
def paidWindow (rail : RailConfig) (chainId : ℕ) : Window :=
  @transferredWindow interpreter (paidOn chainId) token rail (paymentTo payee) 1 0
    (snapshotOf token (paymentTo payee) genesis (settlement payee [] paid))
    (settlement payee [] paid) (settlement payee [] paid) (settled payee)
    (transfer payer payee 100 1) authorization 100

section

variable {rail : RailConfig} {chainId : ℕ}

theorem readable_paidOn (suited : Suited rail) (sameChain : (chainId : ℤ) = rail.chainId) :
    letI := interpreter
    Readable (paidOn chainId) token rail (paymentTo payee) 1 0 (settlement payee [] paid)
      (settlement payee [] paid) (settled payee) :=
  readable_of_pinned suited.address suited.calibrated (suited.pinned _ rfl) suited.expected
    suited.shallow sameChain ⟨rfl, rfl⟩ rfl rfl (by simp [settlement, settled])
    (by simp [settled, authorization, transfer, usedTopics, transferTopics]) rfl

theorem balanced_paidOn : letI := interpreter
    Balanced (paidOn chainId) token (paymentTo payee) 1 genesis :=
  balanced rfl (by decide) rfl

theorem accepted_paidWindow (suited : Suited rail)
    (sameChain : (chainId : ℤ) = rail.chainId) :
    letI := interpreter; (paidWindow rail chainId).Accepted token rail (paymentTo payee) := by
  let := interpreter
  have readable := readable_paidOn suited sameChain
  have balanced := @balanced_paidOn chainId
  apply accepted_served readable balanced
  exact attributionOk_served readable (isExactHex_hexAddress _) (isExactHex_hexAddress _) moved_paid

/-- The run on the honest payment returns with a successful receipt. -/
theorem returns_paidWindow {σ : Type} (suited : Suited rail)
    (sameChain : (chainId : ℤ) = rail.chainId) (state : σ) (history : Conversation)
    (believes : Bool) :
    letI := interpreter
    ∃ divergence, Returns (served (paidOn chainId))
      (reconcileLive token rail (paymentTo payee) believes) state history
      ⟨divergence, (paidWindow rail chainId).evidence token rail (paymentTo payee)⟩ state
      (history ++ (paidWindow rail chainId).transcript token rail (paymentTo payee)) := by
  let := interpreter
  have balanced := @balanced_paidOn chainId
  rcases returns_transferred believes (readable_paidOn suited sameChain) balanced
    moved_paid with ⟨divergence, _, returned⟩
  exact ⟨divergence, returned⟩

end

theorem returns_paidOn {σ : Type} {rail : RailConfig} {chainId : ℕ} (suited : Suited rail)
    (sameChain : (chainId : ℤ) = rail.chainId) (state : σ) (believes : Bool) :
    letI := interpreter
    ∃ said result, Returns (served (paidOn chainId))
        (reconcileLive token rail (paymentTo payee) believes) state [] result state said ∧
      result.evidence.receiptStatus = 1 := by
  rcases returns_paidWindow suited sameChain state [] believes with ⟨_, returned⟩
  exact ⟨_, _, returned, rfl⟩

theorem returns_paid {σ : Type} (state : σ) (believes : Bool) : letI := interpreter
    ∃ said result, Returns (served (chainTo payee paid))
        (reconcileLive token mockAnvil (paymentTo payee) believes) state [] result state said ∧
      result.evidence.receiptStatus = 1 :=
  @returns_paidOn σ mockAnvil 84532 suited_mockAnvil rfl state believes

end Sample

end Node

end Psv
