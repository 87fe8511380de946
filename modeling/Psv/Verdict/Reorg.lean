import Psv.Node.Reading

/-!
# A reorg during observation

State is read by block number, so a chain that is replaced halfway could mix the
states of two chains.  The settlement block is sighted before and after the
block-pinned reads.  A read before the replacement is answered by the chain of
the first sighting, and a read after it by the chain of the second, so whichever
chain answers holds the settlement block (`pinned_by_holder`).
-/

namespace Psv

open Python Interaction Program RpcClient Anvil Chain Rails

namespace Node

/-- The canonical chain is replaced at most once, before some call. -/
def ReorgWorld (before after : Chain) (world : World) : Prop :=
  ∃ switch : ℕ, ∀ (history : Conversation) method params value,
    world history (Ask.rpc method params) = (.ok value : Except String Value) →
      Honest (if history.length < switch then before else after) method params value

/-- Equal hashes come with equal heights, receipts, states and parents. -/
structure Chain.HashesAgree (left right : Chain) : Prop where
  determine : ∀ (number number' : ℕ) (block block' : Block), left.blocks[number]? = some block →
    right.blocks[number']? = some block' → block.hash = block'.hash →
      number = number' ∧ block.receipts = block'.receipts ∧ block.post = block'.post
  parent : ∀ (number : ℕ) (block block' parent parent' : Block),
    left.blocks[number]? = some block → right.blocks[number]? = some block' → block.hash = block'.hash →
      left.blocks[number - 1]? = some parent → right.blocks[number - 1]? = some parent' →
        parent.hash = parent'.hash

/-- The chain holds a block with this hash at this height. -/
def Chain.Holds (chain : Chain) (number : ℕ) (hash : Str) : Prop :=
  ∃ block, chain.blocks[number]? = some block ∧ hash = hexWord block.hash.toNat

/-- A chain that holds the hash of a block carries that block. -/
theorem Chain.HashesAgree.carries {chain other : Chain} {number number' : ℕ} {hash : Str}
    {parent block : Block} (agree : chain.HashesAgree other) (holds : chain.Holds number hash)
    (found : other.blocks[number']? = some block) (isHash : hash = hexWord block.hash.toNat)
    (parentFound : other.blocks[number' - 1]? = some parent) :
    number = number' ∧ chain.Carries number parent block := by
  obtain ⟨here, atHere, hereHash⟩ := holds
  have same : here.hash = block.hash := hexWord_injective (hereHash.symm.trans isHash)
  obtain ⟨rfl, receipts, post⟩ := agree.determine _ _ _ _ atHere found same
  have inside := (List.getElem?_eq_some_iff.mp atHere).1
  have previous := List.getElem?_eq_getElem (show number - 1 < chain.blocks.length by omega)
  have parents := agree.parent _ _ _ _ _ atHere found same previous parentFound
  exact ⟨rfl, ⟨here, atHere, same, receipts, post⟩, _, previous,
    (agree.determine _ _ _ _ previous parentFound parents).2.2⟩

/-- Chains that share their first blocks agree when no other block of them has a hash twice. -/
theorem hashesAgree_of_fork {shared first second : List Block} {left right : Chain}
    (isLeft : left.blocks = shared ++ first) (isRight : right.blocks = shared ++ second)
    (nodup : ((shared ++ (first ++ second)).map Block.hash).Nodup) : left.HashesAgree right := by
  have onLeft : ∀ {number : ℕ} {block : Block}, left.blocks[number]? = some block →
      number < (shared ++ first).length ∧ (shared ++ (first ++ second))[number]? = some block := by
    intro number block found
    rw [isLeft] at found
    have inside := (List.getElem?_eq_some_iff.mp found).1
    rw [← List.append_assoc, List.getElem?_append_left inside]
    exact ⟨inside, found⟩
  -- a block of the right chain that is not shared stands behind those of the left one
  have onRight : ∀ {number : ℕ} {block : Block}, right.blocks[number]? = some block →
      (number < shared.length ∧ (shared ++ (first ++ second))[number]? = some block) ∨
        ∃ place, (shared ++ first).length ≤ place ∧
          (shared ++ (first ++ second))[place]? = some block := by
    intro number block found
    rw [isRight] at found
    by_cases early : number < shared.length
    · rw [List.getElem?_append_left early] at found
      rw [List.getElem?_append_left early]
      exact Or.inl ⟨early, found⟩
    · rw [List.getElem?_append_right (not_lt.mp early)] at found
      refine Or.inr ⟨(shared ++ first).length + (number - shared.length), by omega, ?_⟩
      rw [← List.append_assoc, List.getElem?_append_right (by omega), Nat.add_sub_cancel_left]
      exact found
  have unique : ∀ {place place' : ℕ} {block block' : Block},
      (shared ++ (first ++ second))[place]? = some block →
        (shared ++ (first ++ second))[place']? = some block' → block.hash = block'.hash →
          place = place' := by
    intro place place' block block' found found' same
    have inside := (List.getElem?_eq_some_iff.mp found).1
    refine (List.getElem?_inj (by simpa using inside) nodup).mp ?_
    rw [List.getElem?_map, List.getElem?_map, found, found', Option.map_some, Option.map_some, same]
  have common : ∀ {number number' : ℕ} {block block' : Block}, left.blocks[number]? = some block →
      right.blocks[number']? = some block' → block.hash = block'.hash →
        number = number' ∧ number < shared.length ∧ block = block' := by
    intro number number' block block' found found' same
    rcases onLeft found with ⟨inside, here⟩
    rcases onRight found' with ⟨early, there⟩ | ⟨place, behind, there⟩
    · rcases unique here there same with rfl
      exact ⟨rfl, early, Option.some.inj (here.symm.trans there)⟩
    · rcases unique here there same with rfl
      omega
  constructor
  · intro number number' block block' found found' same
    rcases common found found' same with ⟨rfl, _, rfl⟩
    exact ⟨rfl, rfl, rfl⟩
  · intro number block block' parent parent' found found' same parentFound parentFound'
    rcases common found found' same with ⟨_, early, _⟩
    have before : number - 1 < shared.length := by omega
    rw [isLeft, List.getElem?_append_left before] at parentFound
    rw [isRight, List.getElem?_append_left before] at parentFound'
    cases parentFound.symm.trans parentFound'
    rfl

/-- What is said to a world with a reorg splits at the replacement. -/
theorem ReorgWorld.split {before after : Chain} {world : World} {history said : Conversation}
    (reorg : ReorgWorld before after world) (follows : Follows world history said) :
    ∃ first second, said = first ++ second ∧ (∀ entry ∈ first, HonestEntry before entry) ∧
      ∀ entry ∈ second, HonestEntry after entry := by
  obtain ⟨switch, honest⟩ := reorg
  induction said generalizing history with
  | nil => exact ⟨[], [], rfl, by simp, by simp⟩
  | cons entry rest ih =>
      by_cases early : history.length < switch
      · obtain ⟨first, second, rfl, firstHonest, secondHonest⟩ := ih follows.2
        refine ⟨entry :: first, second, rfl, ?_, secondHonest⟩
        simp only [List.mem_cons, forall_eq_or_imp]
        refine ⟨?_, firstHonest⟩
        rintro method params value rfl
        have answer := honest history method params value follows.1.symm
        rwa [if_pos early] at answer
      · refine ⟨[], entry :: rest, rfl, by simp, ?_⟩
        rintro other mem method params value rfl
        obtain ⟨earlier, later, answered⟩ := follows.mem mem
        have longer : ¬earlier.length < switch := by
          have := later.length_le
          omega
        have answer := honest earlier method params value answered.symm
        rwa [if_neg longer] at answer

end Node

namespace Verdict

open Node

/-- An entry of a split list stands in the first part with all that precedes it, or in the
second with all that follows. -/
theorem mem_split {α : Type} {left right first second : List α} {item : α}
    (split : left ++ item :: right = first ++ second) :
    ((∀ other ∈ left, other ∈ first) ∧ item ∈ first) ∨
      (item ∈ second ∧ ∀ other ∈ right, other ∈ second) := by
  rcases List.append_eq_append_iff.mp split with ⟨_ | ⟨_, middle⟩, rfl, rest⟩ | ⟨middle, rfl, rest⟩
  · refine Or.inr ?_
    rw [List.nil_append] at rest
    rw [← rest]
    exact ⟨List.mem_cons_self .., fun _ mem => List.mem_cons_of_mem _ mem⟩
  · refine Or.inl ?_
    obtain ⟨rfl, _⟩ := List.cons.inj rest
    exact ⟨fun _ mem => List.mem_append_left _ mem, by simp⟩
  · refine Or.inr ?_
    rw [rest]
    exact ⟨by simp, fun _ mem => by simp [mem]⟩

section Reorg

variable [Interpreter] {σ : Type} {before after : Chain} {token : TokenView} {rail : RailConfig}
  {payment : Payment} {window : Window} {first second : Conversation}

theorem holds_canonical {chain : Chain} {block : Fields} {number : ℕ}
    (honest : HonestEntry chain (blockSaid (pyHex window.point.number) block))
    (ok : BlockOk block number window.point.hash) :
    chain.Holds window.point.number window.point.hash := by
  obtain ⟨found, atFound, _, hash⟩ := read_block honest ok
  exact ⟨found, atFound, hash⟩

/-- The chain that answers for the receipt holds the block that the receipt names. -/
theorem holds_receipt {chain : Chain} (accepted : window.Accepted token rail payment)
    (honest : HonestEntry chain (receiptSaid (lower payment.transactionHash) window.receipt)) :
    chain.Holds window.point.number window.point.hash := by
  obtain ⟨number, block, _, _, mined, _, renders⟩ :=
    read_receipt accepted.arguments.txShape honest
  obtain rfl := quantityAt_spells accepted.point.number renders.blockNumber
  exact ⟨block, mined.inChain, hashAt_spells accepted.point.hash renders.blockHash⟩

/-- Every block-pinned read is answered by a chain that holds the settlement block. -/
theorem pinned_by_holder (accepted : window.Accepted token rail payment)
    (split : window.transcript token rail payment = first ++ second)
    (firstHonest : ∀ entry ∈ first, HonestEntry before entry)
    (secondHonest : ∀ entry ∈ second, HonestEntry after entry) :
    ∀ entry ∈ window.pinned token rail payment, ∃ chain ∈ [before, after],
      HonestEntry chain entry ∧ chain.Holds window.point.number window.point.hash := by
  intro entry mem
  obtain ⟨left, right, pinned⟩ := List.append_of_mem mem
  have around : (window.opening rail ++
      (receiptSaid (lower payment.transactionHash) window.receipt ::
        blockSaid (pyHex window.point.number) window.canonical :: left)) ++
      entry :: (right ++ [receiptSaid (lower payment.transactionHash) window.receiptAfter,
        blockSaid (pyHex window.point.number) window.canonicalAfter]) = first ++ second := by
    rw [← split, Window.transcript, pinned]
    simp
  obtain ⟨number, afterOk⟩ := accepted.recheck.canonical
  rcases mem_split around with ⟨earlier, inFirst⟩ | ⟨inSecond, later⟩
  · exact ⟨before, by simp, firstHonest entry inFirst,
      holds_canonical (firstHonest _ (earlier _ (by simp))) accepted.canonical⟩
  · exact ⟨after, by simp, secondHonest entry inSecond,
      holds_canonical (secondHonest _ (later _ (by simp))) afterOk⟩

/-- Whenever the canonical chain is replaced during a run that returns, every block-pinned value
of the evidence belongs to the block whose hash it reports. -/
theorem evidence_of_settlement_block {world : World} {believes : Bool} {state finalState : σ}
    {history finalHistory : Conversation} {result : LiveReconciliation}
    (reorg : ReorgWorld before after world)
    (determined : ∀ left ∈ [before, after], ∀ right ∈ [before, after], left.HashesAgree right)
    (returned : Returns world (reconcileLive token rail payment believes) state history result
      finalState finalHistory) :
    (∃ chain ∈ [before, after], ∃ (number : ℕ) (block : Block), chain.blocks[number]? = some block ∧
      result.evidence.settlementBlockHash = hexWord block.hash.toNat) ∧
    ∀ chain ∈ [before, after], ∀ (number : ℕ) (parent block : Block), chain.blocks[number]? = some block →
      chain.blocks[number - 1]? = some parent →
      result.evidence.settlementBlockHash = hexWord block.hash.toNat →
        ∃ receipt, EvidenceOf token rail payment result.evidence number parent block receipt := by
  obtain ⟨said, _, follows, replays⟩ := returns_iff.mp returned
  obtain ⟨_, window, accepted, rfl, evidence, _⟩ := replays_reconcileLive_ok_iff.mp replays
  obtain ⟨first, second, split, firstHonest, secondHonest⟩ := reorg.split follows
  have pinned := pinned_by_holder accepted split firstHonest secondHonest
  have receipt : ∃ chain ∈ [before, after], HonestEntry chain
      (receiptSaid (lower payment.transactionHash) window.receipt) ∧
        chain.Holds window.point.number window.point.hash := by
    have mem : receiptSaid (lower payment.transactionHash) window.receipt ∈ first ++ second := by
      rw [← split]
      simp [Window.transcript]
    rcases List.mem_append.mp mem with inFirst | inSecond
    · exact ⟨before, by simp, firstHonest _ inFirst, holds_receipt accepted (firstHonest _ inFirst)⟩
    · exact ⟨after, by simp, secondHonest _ inSecond,
        holds_receipt accepted (secondHonest _ inSecond)⟩
  rw [evidence]
  constructor
  · obtain ⟨chain, listed, _, block, found, hash⟩ := receipt
    exact ⟨chain, listed, _, block, found, hash⟩
  · intro chain listed number parent block found parentFound hash
    have carries : ∀ holder ∈ [before, after], holder.Holds window.point.number window.point.hash →
        window.point.number = number ∧ holder.Carries window.point.number parent block :=
      fun holder inside holds => (determined holder inside chain listed).carries holds found hash
        parentFound
    obtain ⟨holder, inside, holderHonest, holds⟩ := receipt
    obtain ⟨rfl, holderCarries⟩ := carries holder inside holds
    refine evidenceOf_honest accepted hash ⟨holder, holderHonest, holderCarries⟩ ?_
    intro entry mem
    obtain ⟨other, otherInside, otherHonest, otherHolds⟩ := pinned entry mem
    exact ⟨other, otherHonest, (carries other otherInside otherHolds).2⟩

end Reorg

/-! ### A replaced settlement block

The settlement block is block 1 only from the fourth call on; up to then another block stands in its
place, which is the head that the run has seen.  The token is behind a proxy. -/

namespace Replaced

open Node.Sample

def replaced : Block := ⟨0x21, 1, [], post 1000 0 0 false⟩

def before : Node.Chain where
  chainId := 84532
  blocks := [genesis, replaced]
  transactions_nodup := by simp [genesis, replaced]
  positions_nodup := by simp [genesis, replaced, Block.logs]

def after : Node.Chain := paidOn 84532

/-- The chain is replaced between the third and the fourth call. -/
def world : World := fun history question =>
  if history.length < 3 then served before history question else served after history question

theorem world_early {history : Conversation} (early : history.length < 3) :
    world history = served before history :=
  funext fun _ => if_pos early

theorem world_late {history : Conversation} (late : ¬history.length < 3) :
    world history = served after history :=
  funext fun _ => if_neg late

theorem reorgWorld : ReorgWorld before after world := by
  refine ⟨3, fun history method params value answered => ?_⟩
  by_cases early : history.length < 3
  · rw [if_pos early]
    rw [world_early early] at answered
    exact honestWorld_served before history method params value answered
  · rw [if_neg early]
    rw [world_late early] at answered
    exact honestWorld_served after history method params value answered

theorem hashesAgree : ∀ left ∈ [before, after], ∀ right ∈ [before, after],
    left.HashesAgree right := by
  have isBefore : before.blocks = [genesis] ++ [replaced] := rfl
  have isAfter : after.blocks = [genesis] ++ [settlement payee [] paid] := rfl
  simp only [List.mem_cons, List.not_mem_nil, or_false, forall_eq_or_imp, forall_eq]
  refine ⟨⟨?_, ?_⟩, ?_, ?_⟩
  · exact hashesAgree_of_fork (List.append_nil _).symm (List.append_nil _).symm (by decide)
  · exact hashesAgree_of_fork isBefore isAfter (by decide)
  · exact hashesAgree_of_fork isAfter isBefore (by decide)
  · exact hashesAgree_of_fork (List.append_nil _).symm (List.append_nil _).symm (by decide)

/-- What a run reads: the head of the first chain, and the rest on the second. -/
def window : Window := { paidWindow calibratedRail 84532 with
  finality := blockJson 1 (before.parentHash 1) replaced
  finalityHash := hexWord 0x21 }

theorem accepted : letI := interpreter
    window.Accepted token calibratedRail (paymentTo payee) := by
  let := interpreter
  have base := accepted_paidWindow suited_calibratedRail (rfl : ((84532 : ℕ) : ℤ) = _)
  exact { base with finality := blockOk_blockJson 1 (before.parentHash 1) replaced (by decide) }

theorem returned : letI := interpreter
    ∃ divergence, Returns world (reconcileLive token calibratedRail (paymentTo payee) true) () []
      ⟨divergence, window.evidence token calibratedRail (paymentTo payee)⟩ ()
      (window.transcript token calibratedRail (paymentTo payee)) := by
  let := interpreter
  have readable : Readable after token calibratedRail (paymentTo payee) 1 0
      (settlement payee [] paid) (settlement payee [] paid) (settled payee) :=
    readable_paidOn suited_calibratedRail rfl
  have servedAfter : ∀ entry ∈ (paidWindow calibratedRail 84532).transcript token calibratedRail
      (paymentTo payee), ∀ earlier, entry.2 = served after earlier entry.1 :=
    served_observed readable (isExactHex_hexAddress _) (isExactHex_hexAddress _) rfl (by decide)
      (fun _ raced => (Option.mem_some_iff.mp raced).symm)
  have isOpening : window.opening calibratedRail =
      [exchange "eth_chainId" [] (.ok (.str (pyHex 84532))),
        blockSaid (pyHex 0) (blockJson 0 (before.parentHash 0) genesis),
        blockSaid FinalityTag.latest.text.toList (blockJson 1 (before.parentHash 1) replaced)] := rfl
  rcases accepted.detects true with ⟨divergence, detected⟩
  refine ⟨divergence, returns_iff.mpr ⟨_, rfl, ?_,
    replays_reconcileLive_ok_iff.mpr ⟨rfl, window, accepted, rfl, rfl, detected⟩⟩⟩
  change Follows world [] (window.opening calibratedRail ++ _)
  refine follows_append_iff.mpr ⟨?_, follows_of_forall ?_⟩
  · rw [isOpening]
    refine ⟨rfl, ?_, ?_, trivial⟩
    · rw [world_early (by simp)]
      exact (serve_block (rfl : before.blocks[0]? = some genesis)).symm
    · rw [world_early (by simp)]
      exact (serve_tag .latest (rfl : before.blocks[1]? = some replaced)).symm
  · intro entry mem earlier later
    have late : ¬earlier.length < 3 := by
      have := later.length_le
      rw [isOpening] at this
      simp only [List.nil_append, List.length_cons, List.length_nil] at this
      omega
    rw [world_late late]
    exact servedAfter entry (List.mem_append_right _ mem) earlier

end Replaced

open Node.Sample in
/-- The evidence belongs to the block that was put in, with the balances around it and the
implementation behind the proxy. -/
theorem evidence_of_settlement_block_replaced : letI := interpreter
    ∃ said result receipt, Returns Replaced.world
        (reconcileLive token calibratedRail (paymentTo payee) true) () [] result () said ∧
      result.evidence.finalityBlockHash = hexWord Replaced.replaced.hash.toNat ∧
      result.evidence.settlementBlockHash = hexWord (settlement payee [] paid).hash.toNat ∧
      EvidenceOf token calibratedRail (paymentTo payee) result.evidence 1 genesis
        (settlement payee [] paid) receipt := by
  let := interpreter
  rcases Replaced.returned with ⟨divergence, returned⟩
  rcases (evidence_of_settlement_block Replaced.reorgWorld Replaced.hashesAgree returned).2
    Replaced.after (by simp) 1 genesis (settlement payee [] paid) rfl rfl rfl with ⟨receipt, evidence⟩
  exact ⟨_, _, receipt, returned, rfl, rfl, evidence⟩

end Verdict

end Psv
