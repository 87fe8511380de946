import Psv.Node.Reading
import Mathlib.Algebra.BigOperators.Group.List.Basic

/-!
# The logs of many blocks

A query for logs up to the head returns the selected logs of all blocks from a
number on, in order.  Each of them has a transaction and a position, and no other
log of the chain has the same two, so what is decoded from the answer are as many
credits with as many identities.
-/

namespace Psv

open Python Interaction Program RpcClient Anvil Chain Rails

namespace Node

/-! ### Entries -/

/-- A selected log and where it stands. -/
structure Entry where
  number : ℕ
  ofBlock : Word
  txHash : Word
  log : Log
  deriving DecidableEq

/-- The selected logs of blocks that begin with a number. -/
def entriesFrom (emitter : Address) (wanted : List (Option Word)) : ℕ → List Block → List Entry
  | _, [] => []
  | number, block :: blocks =>
      (block.select emitter wanted).map
          (fun selected => ⟨number, block.hash, selected.1, selected.2⟩) ++
        entriesFrom emitter wanted (number + 1) blocks

/-- The selected logs of a chain from a block on. -/
def Chain.entries (chain : Chain) (emitter : Address) (wanted : List (Option Word))
    (first : ℕ) : List Entry :=
  entriesFrom emitter wanted first (chain.blocks.drop first)

/-- What identifies an entry. -/
def Entry.place (entry : Entry) : Word × ℕ := (entry.txHash, entry.log.index)

variable {chain : Chain} {emitter : Address} {wanted : List (Option Word)} {first : ℕ}
  {blocks : List Block}

theorem map_place_entriesFrom : (entriesFrom emitter wanted first blocks).map Entry.place =
    blocks.flatMap fun block => block.receipts.flatMap fun receipt =>
      (receipt.logs.filter fun log =>
        decide (log.emitter = emitter) && topicsMatch wanted log.topics).map
          fun log => (receipt.txHash, log.index) := by
  induction blocks generalizing first with
  | nil => rfl
  | cons block blocks ih =>
    rw [entriesFrom, List.map_append, ih, List.flatMap_cons, Block.select, List.map_map,
      List.map_flatMap]
    simp only [List.map_map]
    rfl

/-- Entries are told apart by their transaction and position. -/
theorem Chain.nodup_entries (chain : Chain) (emitter : Address) (wanted : List (Option Word))
    (first : ℕ) : ((chain.entries emitter wanted first).map Entry.place).Nodup := by
  have hashes : ((chain.blocks.drop first).flatMap fun block =>
      block.receipts.map Receipt.txHash).Nodup := by
    have all := chain.transactions_nodup
    rw [← List.take_append_drop first chain.blocks, List.flatMap_append] at all
    exact all.of_append_right
  rcases List.nodup_flatMap.mp hashes with ⟨inBlock, apart⟩
  rw [Chain.entries, map_place_entriesFrom, List.nodup_flatMap]
  constructor
  · intro block mem
    have positions := chain.positions_nodup block (List.mem_of_mem_drop mem)
    rw [Block.logs, List.map_flatMap, List.nodup_flatMap] at positions
    rw [List.nodup_flatMap]
    constructor
    · intro receipt listed
      have indices : ((receipt.logs.filter fun log => decide (log.emitter = emitter) &&
          topicsMatch wanted log.topics).map Log.index).Nodup :=
        (positions.1 receipt listed).sublist (List.filter_sublist.map Log.index)
      rw [← List.nodup_map_iff (Prod.mk_right_injective receipt.txHash), List.map_map] at indices
      exact indices
    · refine (List.pairwise_map.mp (inBlock block mem)).imp ?_
      intro left right different place inLeft inRight
      rcases List.mem_map.mp inLeft with ⟨_, _, rfl⟩
      rcases List.mem_map.mp inRight with ⟨_, _, same⟩
      exact different (congrArg Prod.fst same).symm
  · refine apart.imp ?_
    intro left right disjoint place inLeft inRight
    rcases List.mem_flatMap.mp inLeft with ⟨receipt, listed, isPlace⟩
    rcases List.mem_map.mp isPlace with ⟨_, _, rfl⟩
    rcases List.mem_flatMap.mp inRight with ⟨other, isOther, isSame⟩
    rcases List.mem_map.mp isSame with ⟨_, _, same⟩
    have hash : other.txHash = receipt.txHash := congrArg Prod.fst same
    exact disjoint (List.mem_map_of_mem listed) (hash ▸ List.mem_map_of_mem isOther)

/-! ### Honest answers -/

/-- A log object of an entry. -/
def RendersEntry (entry : Entry) (fields : Fields) : Prop :=
  RendersLog entry.number entry.ofBlock entry.txHash entry.log fields

/-- The filter for all logs from a block to the head. -/
def historyFilter (target : Str) (wanted : List (Option Word)) (first : ℕ) : Value :=
  .dict [(.str "address", .str target),
    (.str "topics", .list (wanted.map fun topic =>
      topicValue (topic.map fun word => hexWord word.toNat))),
    (.str "fromBlock", .str (pyHex first)), (.str "toBlock", .str "latest".toList)]

/-- Where the logs up to the head were answered, they are those of the chain. -/
def HonestHistory (chain : Chain) (said : Conversation) : Prop :=
  ∀ target wanted first (logs : List Fields), isExactHex 40 target = true →
    exchange "eth_getLogs" [historyFilter target wanted first] (.ok (.list (logs.map .dict))) ∈
      said → List.Forall₂ RendersEntry (chain.entries (readAddress target) wanted first) logs

/-- A filter for many blocks determines what is asked for. -/
theorem historyFilter_injective {target other : Str} {wanted others : List (Option Word)}
    {first second : ℕ}
    (same : historyFilter target wanted first = historyFilter other others second) :
    target = other ∧ wanted = others ∧ first = second := by
  have topics : Function.Injective fun topic : Option Word =>
      topicValue (topic.map fun word => hexWord word.toNat) := by
    intro left right equal
    cases left <;> cases right <;> simp [topicValue] at equal ⊢
    exact hexWord_injective equal
  simp only [historyFilter, Value.dict.injEq, List.cons.injEq, Prod.mk.injEq, true_and,
    Value.str.injEq, Value.list.injEq, and_true] at same
  refine ⟨same.1, List.map_injective_iff.mpr topics same.2.1, ?_⟩
  have heights := (spells_pyHex first).quantity_eq (isQuantity_pyHex first)
  rw [same.2.2, (spells_pyHex second).quantity_eq (isQuantity_pyHex second)] at heights
  exact heights.symm

/-- An answer with the logs of the chain is honest. -/
theorem honestHistory_answer {target : Str} {logs : List Fields}
    (renders : List.Forall₂ RendersEntry (chain.entries (readAddress target) wanted first) logs) :
    HonestHistory chain
      [exchange "eth_getLogs" [historyFilter target wanted first] (.ok (.list (logs.map .dict)))] := by
  intro other others second given _ mem
  have same := List.mem_singleton.mp mem
  have asked := (Ask.rpc.inj (congrArg Sigma.fst same)).2
  rcases historyFilter_injective (List.singleton_injective asked) with ⟨rfl, rfl, rfl⟩
  have answered : (Except.ok (Value.list (given.map Value.dict)) : Except String Value) =
      .ok (.list (logs.map .dict)) := eq_of_heq (Sigma.mk.inj same).2
  rw [Except.ok.injEq, Value.list.injEq] at answered
  have injective : Function.Injective Value.dict := fun _ _ equal => Value.dict.inj equal
  rw [List.map_injective_iff.mpr injective answered]
  exact renders

/-! ### Credits of entries -/

/-- The number that the data of a log denotes. -/
def Log.value (log : Log) : ℕ := hexVal (bytesHex log.data)

theorem value_of_wordData {log : Log} {value : Word} (data : log.data = wordData value) :
    log.value = value.toNat := by
  have text := hexData_wordData value
  simp only [hexData, hexWord, List.cons.injEq, true_and] at text
  rw [Log.value, data, text, hexVal_hexPad_of_lt (lt_of_lt_of_eq value.isLt (by norm_num))]

/-- The identity of the credit that an entry reports. -/
def Entry.identity (chainId : ℤ) (entry : Entry) : SettlementIdentity :=
  ⟨chainId, hexAddress entry.log.emitter.toNat, hexWord entry.txHash.toNat, entry.log.index⟩

/-- Entries with different places report credits with different identities. -/
theorem place_of_identity {chainId : ℤ} {left right : Entry}
    (same : left.identity chainId = right.identity chainId) : left.place = right.place := by
  simp only [Entry.identity, SettlementIdentity.mk.injEq, Nat.cast_inj, true_and] at same
  rw [Entry.place, Entry.place, hexWord_injective same.2.1, same.2.2]

theorem Chain.nodup_identities (chain : Chain) (emitter : Address) (wanted : List (Option Word))
    (first : ℕ) (chainId : ℤ) :
    ((chain.entries emitter wanted first).map (Entry.identity chainId)).Nodup := by
  have places := chain.nodup_entries emitter wanted first
  rw [List.Nodup, List.pairwise_map] at places ⊢
  exact places.imp fun different same => different (place_of_identity same)

/-- What is decoded from the rendering of an entry is its credit. -/
theorem credit_of_entry [Interpreter] {entry : Entry} {fields : Fields} {chainId : ℤ}
    {credit : OnChainCredit} (renders : RendersEntry entry fields) (shape : LogShape fields)
    (decoded : Reconciliation.decodeTransferLog fields chainId = .ok credit) :
    credit.identity = entry.identity chainId ∧ credit.value = entry.log.value ∧
      credit.removed = false := by
  have decodes := (Reconciliation.decodeTransferLog_eq_ok_iff shape).mp decoded
  obtain ⟨_, _, value, _, data, _, _, isValue, asset, txHash, logIndex⟩ :=
    transfer_of_decodesTo renders shape decodes
  have removed := decodes.removed
  rw [renders.removed, Value.bool.injEq] at removed
  have identity : credit.identity = entry.identity chainId := by
    rw [Entry.identity, ← asset, ← txHash, ← logIndex, ← decodes.chainId_eq]
  exact ⟨identity, isValue.trans (congrArg Nat.cast (value_of_wordData data).symm), removed.symm⟩

end Node

end Psv
