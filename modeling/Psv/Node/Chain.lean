import Psv.Rails.Window

/-!
# A canonical chain and the node that serves it

The chain as a reader of JSON-RPC sees it: blocks with receipts and logs, and
the state after each block.  `Honest` says which answers a node may give about
a chain: any letter case, any failure, but never a false statement.  `serve` is
one such node, the one that answers everything and writes lower case.
-/

namespace Psv

open Python Interaction Program RpcClient Anvil Chain Rails

namespace Node

abbrev Address : Type := BitVec 160

abbrev Word : Type := BitVec 256

/-- A log as the token emitted it, with its position in the block. -/
structure Log where
  emitter : Address
  topics : List Word
  data : List UInt8
  index : ℕ
  deriving DecidableEq

structure Receipt where
  txHash : Word
  success : Bool
  logs : List Log
  deriving DecidableEq

/-- The reads that the state after a block answers. -/
structure State where
  code : Address → List UInt8
  storage : Address → Word → Word
  balance : Address → Address → Word
  used : Address → Address → Word → Bool

structure Block where
  hash : Word
  timestamp : ℕ
  receipts : List Receipt
  post : State

/-- The logs of a block in order. -/
def Block.logs (block : Block) : List Log := block.receipts.flatMap Receipt.logs

/-- A chain, from its first block on.  A transaction is mined once, and the logs of
a block have distinct positions. -/
structure Chain where
  chainId : ℕ
  blocks : List Block
  transactions_nodup : (blocks.flatMap fun block => block.receipts.map Receipt.txHash).Nodup
  positions_nodup : ∀ block ∈ blocks, (block.logs.map Log.index).Nodup

/-- The transaction is the `position`-th of block `number`. -/
structure Chain.Mined (chain : Chain) (number : ℕ) (block : Block) (position : ℕ)
    (receipt : Receipt) : Prop where
  inChain : chain.blocks[number]? = some block
  inBlock : block.receipts[position]? = some receipt

/-- A transaction has one place in the chain. -/
theorem Chain.Mined.unique {chain : Chain} {number number' position position' : ℕ}
    {block block' : Block} {receipt receipt' : Receipt}
    (mined : chain.Mined number block position receipt)
    (again : chain.Mined number' block' position' receipt')
    (same : receipt.txHash = receipt'.txHash) :
    number = number' ∧ block = block' ∧ position = position' ∧ receipt = receipt' := by
  obtain ⟨each, apart⟩ := List.nodup_flatMap.mp chain.transactions_nodup
  have listed : ∀ {n i b r}, chain.Mined n b i r → r.txHash ∈ b.receipts.map Receipt.txHash :=
    fun here => List.mem_map_of_mem (List.mem_of_getElem? here.inBlock)
  obtain ⟨inside, at₁⟩ := List.getElem?_eq_some_iff.mp mined.inChain
  obtain ⟨inside', at₂⟩ := List.getElem?_eq_some_iff.mp again.inChain
  have heights : number = number' := by
    have disjoint := List.pairwise_iff_getElem.mp apart
    rcases Nat.lt_trichotomy number number' with below | equal | above
    · have separate := disjoint number number' inside inside' below
      change List.Disjoint (List.map _ _) (List.map _ _) at separate
      rw [at₁, at₂] at separate
      exact absurd (listed again) (fun mem => separate (same ▸ listed mined) mem)
    · exact equal
    · have separate := disjoint number' number inside' inside above
      change List.Disjoint (List.map _ _) (List.map _ _) at separate
      rw [at₁, at₂] at separate
      exact absurd (listed mined) (fun mem => separate (same ▸ listed again) mem)
  subst heights
  obtain rfl : block = block' := by
    rw [← at₁, at₂]
  have nodup := each block (List.mem_of_getElem? mined.inChain)
  obtain ⟨place, here⟩ := List.getElem?_eq_some_iff.mp mined.inBlock
  obtain ⟨place', here'⟩ := List.getElem?_eq_some_iff.mp again.inBlock
  have positions : position = position' := by
    have injective := List.nodup_iff_injective_get.mp nodup
    have equal : (⟨position, by simpa using place⟩ : Fin (block.receipts.map _).length) =
        ⟨position', by simpa using place'⟩ := injective (by simpa [here, here'] using same)
    exact Fin.mk.inj equal
  subst positions
  exact ⟨rfl, rfl, rfl, by rw [← here, here']⟩

/-! ### Spelling -/

/-- The text is this one up to letter case. -/
def Spells (text canonical : Str) : Prop := text.map Char.toLower = canonical

/-- A field holds this text up to letter case. -/
def SpellsAt (fields : Fields) (name : String) (canonical : Str) : Prop :=
  ∃ text, getField fields name = .str text ∧ Spells text canonical

theorem spells_hexPad (digits n : ℕ) :
    Spells ('0' :: 'x' :: hexPad digits n) ('0' :: 'x' :: hexPad digits n) := by
  change '0' :: 'x' :: (hexPad digits n).map Char.toLower = _
  rw [map_toLower_hexPad]

theorem spells_hexWord (n : ℕ) : Spells (hexWord n) (hexWord n) := spells_hexPad _ _

theorem spells_hexAddress (n : ℕ) : Spells (hexAddress n) (hexAddress n) := spells_hexPad _ _

theorem spells_pyHex (n : ℕ) : Spells (pyHex n) (pyHex n) := spells_hexPad _ _

/-- Fixed-size text spells the number it denotes. -/
theorem spells_of_isExactHex {digits : ℕ} {text : Str} (shape : isExactHex digits text = true) :
    Spells text ('0' :: 'x' :: hexPad digits (hexVal (text.drop 2))) := by
  obtain ⟨rest, rfl, rfl, all⟩ := isExactHex_iff.mp shape
  change '0' :: 'x' :: rest.map Char.toLower = _
  rw [map_toLower_eq_hexPad all]
  rfl

theorem Spells.hexVal_eq {digits n : ℕ} {text : Str} (shape : isExactHex digits text = true)
    (spells : Spells text ('0' :: 'x' :: hexPad digits n)) (small : n < 16 ^ digits) :
    hexVal (text.drop 2) = n := by
  have same := (spells_of_isExactHex shape).symm.trans spells
  simp only [List.cons.injEq, true_and] at same
  exact hexPad_injOn (hexVal_exact_lt shape) small same

theorem Spells.word_eq {text : Str} {word : Word} (shape : isExactHex 64 text = true)
    (spells : Spells text (hexWord word.toNat)) : hexVal (text.drop 2) = word.toNat :=
  spells.hexVal_eq shape (lt_of_lt_of_eq word.isLt (by norm_num))

theorem Spells.quantity_eq {text : Str} {n : ℕ} (shape : isQuantity text = true)
    (spells : Spells text (pyHex n)) : hexVal (text.drop 2) = n :=
  hexVal_of_map_toLower_eq_pyHex shape spells

theorem Spells.lower_eq [Interpreter] {digits : ℕ} {text canonical : Str}
    (shape : isExactHex digits text = true) (spells : Spells text canonical) :
    lower text = canonical := by
  rw [lower_exactHex shape]
  exact spells

/-- The address and the word that prefixed text denotes. -/
def readAddress (text : Str) : Address := BitVec.ofNat 160 (hexVal (text.drop 2))

def readWord (text : Str) : Word := BitVec.ofNat 256 (hexVal (text.drop 2))

theorem toNat_readAddress {text : Str} (shape : isExactHex 40 text = true) :
    (readAddress text).toNat = hexVal (text.drop 2) := by
  rw [readAddress, BitVec.toNat_ofNat]
  exact Nat.mod_eq_of_lt (lt_of_lt_of_eq (hexVal_exact_lt shape) (by norm_num))

theorem toNat_readWord {text : Str} (shape : isExactHex 64 text = true) :
    (readWord text).toNat = hexVal (text.drop 2) := by
  rw [readWord, BitVec.toNat_ofNat]
  exact Nat.mod_eq_of_lt (lt_of_lt_of_eq (hexVal_exact_lt shape) (by norm_num))

theorem readAddress_hexAddress (address : Address) :
    readAddress (hexAddress address.toNat) = address := by
  apply BitVec.eq_of_toNat_eq
  rw [hexAddress, toNat_readAddress (isExactHex_hexPad 40 _)]
  exact hexVal_hexPad_of_lt (lt_of_lt_of_eq address.isLt (by norm_num))

theorem readWord_hexWord (word : Word) : readWord (hexWord word.toNat) = word := by
  apply BitVec.eq_of_toNat_eq
  rw [hexWord, toNat_readWord (isExactHex_hexPad 64 _)]
  exact hexVal_hexPad_of_lt (lt_of_lt_of_eq word.isLt (by norm_num))

theorem spells_readAddress {text : Str} (shape : isExactHex 40 text = true) :
    Spells text (hexAddress (readAddress text).toNat) := by
  rw [toNat_readAddress shape]
  exact spells_of_isExactHex shape

theorem spells_readWord {text : Str} (shape : isExactHex 64 text = true) :
    Spells text (hexWord (readWord text).toNat) := by
  rw [toNat_readWord shape]
  exact spells_of_isExactHex shape

/-- Bytes as prefixed text. -/
def hexData (data : List UInt8) : Str := '0' :: 'x' :: bytesHex data

/-- A log object of block `number`. -/
structure RendersLog (number : ℕ) (ofBlock txHash : Word) (log : Log) (fields : Fields) :
    Prop where
  address : SpellsAt fields "address" (hexAddress log.emitter.toNat)
  topics : ∃ texts : List Str, getField fields "topics" = .list (texts.map .str) ∧
    List.Forall₂ (fun text topic => Spells text (hexWord topic.toNat)) texts log.topics
  data : SpellsAt fields "data" (hexData log.data)
  blockNumber : SpellsAt fields "blockNumber" (pyHex number)
  transactionHash : SpellsAt fields "transactionHash" (hexWord txHash.toNat)
  blockHash : SpellsAt fields "blockHash" (hexWord ofBlock.toNat)
  logIndex : SpellsAt fields "logIndex" (pyHex log.index)
  removed : getField fields "removed" = .bool false

/-- A receipt object of block `number`. -/
structure RendersReceipt (number : ℕ) (ofBlock : Word) (receipt : Receipt) (fields : Fields) :
    Prop where
  transactionHash : SpellsAt fields "transactionHash" (hexWord receipt.txHash.toNat)
  blockHash : SpellsAt fields "blockHash" (hexWord ofBlock.toNat)
  blockNumber : SpellsAt fields "blockNumber" (pyHex number)
  status : SpellsAt fields "status" (pyHex (if receipt.success then 1 else 0))
  logs : ∃ logs : List Fields, getField fields "logs" = .list (logs.map .dict) ∧
    List.Forall₂ (RendersLog number ofBlock receipt.txHash) receipt.logs logs

/-- A block object. -/
structure RendersBlock (number : ℕ) (block : Block) (fields : Fields) : Prop where
  number : SpellsAt fields "number" (pyHex number)
  hash : SpellsAt fields "hash" (hexWord block.hash.toNat)

/-! ### Log filters -/

/-- The topic filter of `eth_getLogs`: a prefix of the topics, `none` matching any. -/
def topicsMatch : List (Option Word) → List Word → Bool
  | [], _ => true
  | _ :: _, [] => false
  | none :: wanted, _ :: topics => topicsMatch wanted topics
  | some want :: wanted, topic :: topics => decide (want = topic) && topicsMatch wanted topics

/-- The logs of a block that a filter selects, each with its transaction. -/
def Block.select (block : Block) (emitter : Address) (wanted : List (Option Word)) :
    List (Word × Log) :=
  block.receipts.flatMap fun receipt =>
    (receipt.logs.filter fun log =>
      decide (log.emitter = emitter) && topicsMatch wanted log.topics).map
        fun log => (receipt.txHash, log)

/-! ### Honest answers -/

/-- The value is a true statement about the chain, for each question that psv puts. -/
structure Honest (chain : Chain) (method : String) (params : List Value) (value : Value) :
    Prop where
  chainId : method = "eth_chainId" → ∀ text, value = .str text →
    Spells text (pyHex chain.chainId)
  block : ∀ number fields, method = "eth_getBlockByNumber" →
    params = [.str (pyHex number), .bool false] → value = .dict fields →
    ∃ block, chain.blocks[number]? = some block ∧ RendersBlock number block fields
  tag : ∀ (tag : FinalityTag) fields, method = "eth_getBlockByNumber" →
    params = [.str tag.text.toList, .bool false] → value = .dict fields →
    ∃ number block, chain.blocks[number]? = some block ∧ RendersBlock number block fields
  receipt : ∀ (tx : Word) fields, method = "eth_getTransactionReceipt" →
    params = [.str (hexWord tx.toNat)] → value = .dict fields →
    ∃ number block position receipt, chain.Mined number block position receipt ∧
      receipt.txHash = tx ∧ RendersReceipt number block.hash receipt fields
  code : ∀ target number text, method = "eth_getCode" →
    params = [.str target, .str (pyHex number)] → isExactHex 40 target = true →
    value = .str text → ∃ block, chain.blocks[number]? = some block ∧
      Spells text (hexData (block.post.code (readAddress target)))
  storage : ∀ target slot number text, method = "eth_getStorageAt" →
    params = [.str target, .str slot, .str (pyHex number)] → isExactHex 40 target = true →
    isExactHex 64 slot = true → value = .str text → isExactHex 64 text = true →
    ∃ block, chain.blocks[number]? = some block ∧
      Spells text (hexWord (block.post.storage (readAddress target) (readWord slot)).toNat)
  balance : ∀ target (who : Address) number text, method = "eth_call" →
    params = callAt target (TokenView.balancePayload who.toNat) number →
    isExactHex 40 target = true → value = .str text → isExactHex 64 text = true →
    ∃ block, chain.blocks[number]? = some block ∧
      Spells text (hexWord (block.post.balance (readAddress target) who).toNat)
  used : ∀ target (who : Address) (nonce : Word) number text, method = "eth_call" →
    params = callAt target (TokenView.authorizationPayload who.toNat nonce.toNat) number →
    isExactHex 40 target = true → value = .str text → isExactHex 64 text = true →
    ∃ block, chain.blocks[number]? = some block ∧
      Spells text (hexWord (if block.post.used (readAddress target) who nonce then 1 else 0))
  logs : ∀ target (wanted : List (Option Word)) number (logs : List Fields) block,
    method = "eth_getLogs" →
    params = [transferFilter target (wanted.map (Option.map fun word => hexWord word.toNat))
      number] →
    isExactHex 40 target = true → value = .list (logs.map .dict) →
    chain.blocks[number]? = some block →
    List.Forall₂ (fun entry fields => RendersLog number block.hash entry.1 entry.2 fields)
      (block.select (readAddress target) wanted) logs

/-- The world never makes a false statement about the chain. -/
def HonestWorld (chain : Chain) (world : World) : Prop :=
  ∀ history method params value,
    world history (Ask.rpc method params) = (.ok value : Except String Value) →
    Honest chain method params value

end Node

end Psv
