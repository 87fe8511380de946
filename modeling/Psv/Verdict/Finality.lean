import Psv.Node.Reading
import Psv.Reorg
import Mathlib.Logic.Relation

/-!
# Finality along reorgs

A chain changes by reorgs that keep its settled blocks: those below a depth that reorgs do not
reach, or those that the network has finalized.  A settlement that is final under more
confirmations than there are unsettled blocks stays final in the very same block
(`final_persists`).  A verdict asks for the confirmations of its rail, so it is final, and later
verdicts on the payment repeat it (`verdict_persists`).
-/

namespace Psv

open Python Interaction Program RpcClient Anvil Chain Rails

namespace Node

/-! ### Reorgs -/

/-- The chain changed above its settled blocks, and no less is settled now. -/
structure Reorgs (settled : Chain → ℕ) (before after : Chain) : Prop where
  kept : after.blocks.take (settled before) = before.blocks.take (settled before)
  grows : settled before ≤ settled after

/-- A chain after any number of reorgs. -/
def ReorgsTo (settled : Chain → ℕ) : Chain → Chain → Prop :=
  Relation.ReflTransGen (Reorgs settled)

/-- The block stands at this height under at least so many blocks, itself included. -/
structure Chain.Buried (chain : Chain) (number : ℕ) (block : Block) (depth : ℕ) : Prop where
  found : chain.blocks[number]? = some block
  deep : number + depth ≤ chain.blocks.length

section

variable {settled : Chain → ℕ} {before after chain : Chain} {required number : ℕ}
  {block : Block}

theorem Reorgs.getElem?_eq (reorgs : Reorgs settled before after)
    (below : number < settled before) : after.blocks[number]? = before.blocks[number]? := by
  have same := congrArg (fun blocks => blocks[number]?) reorgs.kept
  simpa only [List.getElem?_take, if_pos below] using same

theorem ReorgsTo.grows (reorgs : ReorgsTo settled before after) :
    settled before ≤ settled after := by
  induction reorgs with
  | refl => exact Nat.le_refl _
  | tail _ step ih => exact ih.trans step.grows

/-- A settled block stays where it is. -/
theorem ReorgsTo.getElem?_eq (reorgs : ReorgsTo settled before after)
    (below : number < settled before) : after.blocks[number]? = before.blocks[number]? := by
  induction reorgs with
  | refl => rfl
  | tail earlier step ih =>
    exact (step.getElem?_eq (below.trans_le (ReorgsTo.grows earlier))).trans ih

/-! ### Finality -/

variable [Interpreter]

/-- The hash at a height, as it is read off the chain. -/
def Chain.canonicalHash (chain : Chain) (number : ℕ) : Option Str :=
  (chain.blocks[number]?).map fun block => hexWord block.hash.toNat

/-- The settlement is final as things stand on the chain. -/
def Chain.IsFinal (chain : Chain) (number : ℕ) (ofBlock : Str) (required : ℤ) : Prop :=
  Reorg.Final number ofBlock (chain.blocks.length - 1 : ℕ) (chain.canonicalHash number) required

theorem Chain.isFinal_iff {ofBlock : Str} {required : ℤ} :
    chain.IsFinal number ofBlock required ↔
      0 < required ∧ isExactHex 64 ofBlock = true ∧ 0 < number ∧
        ((chain.blocks.length - 1 : ℕ) : ℤ) ≤ Reorg.uint256Max ∧
        ∃ block, chain.Buried number block required.toNat ∧
          lower ofBlock = hexWord block.hash.toNat := by
  rw [Chain.IsFinal, Reorg.final_iff]
  constructor
  · rintro ⟨positive, exact_, mined, small, deep, text, isHash, _, same⟩
    rcases Option.map_eq_some_iff.mp isHash with ⟨block, found, rfl⟩
    have inside := (List.getElem?_eq_some_iff.mp found).1
    refine ⟨positive, exact_, by omega, small, block, ⟨found, by omega⟩, ?_⟩
    rw [← same]
    exact lower_hexWord _
  · rintro ⟨positive, exact_, mined, small, block, buried, same⟩
    have deep := buried.deep
    have inside := (List.getElem?_eq_some_iff.mp buried.found).1
    refine ⟨positive, exact_, by omega, small, by omega, hexWord block.hash.toNat, ?_,
      isExactHex_hexWord _, ?_⟩
    · rw [Chain.canonicalHash, buried.found]
      rfl
    · rw [same]
      exact lower_hexWord _

/-- What is final under more confirmations than there are unsettled blocks stays final in its
block, on every chain that is not shorter. -/
theorem final_persists {ofBlock : Str} (final : before.IsFinal number ofBlock required)
    (reorgs : ReorgsTo settled before after)
    (unsettled : before.blocks.length < settled before + required)
    (longer : before.blocks.length ≤ after.blocks.length)
    (small : ((after.blocks.length - 1 : ℕ) : ℤ) ≤ Reorg.uint256Max) :
    after.IsFinal number ofBlock required ∧
      ∃ block, before.blocks[number]? = some block ∧ after.blocks[number]? = some block := by
  rcases Chain.isFinal_iff.mp final with ⟨positive, exact_, mined, _, block, buried, same⟩
  have deep := buried.deep
  have kept : after.blocks[number]? = some block := by
    rw [reorgs.getElem?_eq (by omega)]
    exact buried.found
  exact ⟨Chain.isFinal_iff.mpr ⟨positive, exact_, mined, small, block, ⟨kept, by omega⟩, same⟩,
    block, buried.found, kept⟩

end

/-! ### A settlement whose following block is replaced -/

namespace Sample

/-- The chain of the settlement and one more block with this hash. -/
def grown (hash : Word) : Chain where
  chainId := 84532
  blocks := [genesis, settlement payee [] paid, ⟨hash, 2, [], paid⟩]
  transactions_nodup := by simp [genesis, settlement]
  positions_nodup := by
    simp [genesis, settlement, Block.logs, settled, authorization, transfer]

/-- The first two blocks are settled, and the third comes and is replaced. -/
theorem reorgsTo_grown :
    ReorgsTo (fun _ => 2) (chainTo payee paid) (grown 0x13) :=
  (Relation.ReflTransGen.single (b := grown 0x12) ⟨rfl, le_refl 2⟩).tail ⟨rfl, le_refl 2⟩

/-- The third block, which is not settled, is replaced. -/
theorem reorgsTo_replaced : ReorgsTo (fun _ => 2) (grown 0x12) (grown 0x13) :=
  Relation.ReflTransGen.single ⟨rfl, le_refl 2⟩

theorem isFinal_grown : letI := interpreter
    (grown 0x12).IsFinal 1 (hexWord 0x11) 2 := by
  let := interpreter
  exact Chain.isFinal_iff.mpr ⟨by decide, isExactHex_hexWord _, by decide, by decide, _,
    ⟨rfl, by decide⟩, lower_hexWord _⟩

/-- The payment is judged wherever it can be read. -/
theorem returns_on {chain : Chain} {head : Block} : letI := interpreter
    Readable chain token mockAnvil (paymentTo payee) 1 0 (settlement payee [] paid) head
      (settled payee) →
    Balanced chain token (paymentTo payee) 1 genesis →
    ∃ said result, Returns (served chain) (reconcileLive token mockAnvil (paymentTo payee) true)
        () [] result () said ∧
      result.evidence.finalityBlockNumber = (chain.blocks.length - 1 : ℕ) := by
  let := interpreter
  intro readable onChain
  rcases returns_transferred true readable onChain moved_paid with ⟨_, _, returned⟩
  exact ⟨_, _, returned, rfl⟩

end Sample

open Sample in
/-- A settlement with two confirmations stays final while the second of them is replaced. -/
theorem final_persists_grown : letI := interpreter
    (grown 0x12).blocks[2]? ≠ (grown 0x13).blocks[2]? ∧
      (grown 0x13).IsFinal 1 (hexWord 0x11) 2 ∧ ∃ block,
        (grown 0x12).blocks[1]? = some block ∧ (grown 0x13).blocks[1]? = some block := by
  let := interpreter
  refine ⟨?_, final_persists isFinal_grown reorgsTo_replaced (by decide) (by decide) (by decide)⟩
  intro same
  have hashes : (0x12 : Word) = 0x13 := congrArg Block.hash (Option.some.inj same)
  revert hashes
  decide

end Node

namespace Verdict

open Node

/-! ### Verdicts -/

/-- The evidence differs in nothing but the head that was observed and where the authorization
log stands. -/
def SameSettlement (first second : ChainEvidence) : Prop :=
  second = { first with
    finalityBlockNumber := second.finalityBlockNumber
    finalityBlockHash := second.finalityBlockHash
    confirmations := second.confirmations
    authorizationLogIndex := second.authorizationLogIndex }

section

variable [Interpreter] {σ : Type} {before after chain : Node.Chain} {world later : World}
  {token : TokenView} {rail : RailConfig} {payment : Payment} {believes : Bool}
  {window again : Window} {parent block : Block} {receipt : Receipt} {number : ℕ}
  {settled : Node.Chain → ℕ}

omit [Interpreter] in
/-- The log at a position of a receipt is one log. -/
theorem event_same {first second : ChainEvidence} {transfer transfer' authorization authorization' :
      Log} {value value' : Word} (positions : (receipt.logs.map Log.index).Nodup)
    (event : EventOf token payment first receipt transfer authorization value)
    (event' : EventOf token payment second receipt transfer' authorization' value') :
    second.logIndex = first.logIndex ∧ second.eventValue = first.eventValue := by
  have sameIndex : transfer'.index = transfer.index := by
    have index := event.index
    have index' := event'.index
    omega
  have sameLog : transfer' = transfer :=
    List.inj_on_of_nodup_map positions event'.listed event.listed sameIndex
  have sameValue : value' = value := by
    have data : wordData value' = wordData value := by
      rw [← event.data, ← event'.data, sameLog]
    apply hexWord_injective
    rw [← hexData_wordData, ← hexData_wordData, data]
  rw [event.logIndex, event'.logIndex, event.eventValue, event'.eventValue, sameIndex, sameValue]
  exact ⟨rfl, rfl⟩

/-- Which implementation was found is settled by the attestation. -/
theorem implementation_same {read read' : Option (Str × Str)}
    {identity identity' : Option Str × Option Str} (ok : ImplementationOk rail read identity)
    (ok' : ImplementationOk rail read' identity') : identity' = identity := by
  cases read with
  | none =>
    cases read' with
    | none => rw [ok.2, ok'.2]
    | some _ => exact absurd ok.1 ok'.1
  | some _ =>
    cases read' with
    | none => exact absurd ok'.1 ok.1
    | some _ =>
      rcases ok with ⟨_, slot, address, sha, _, isAddress, isSha, _, _, _, _, rfl⟩
      rcases ok' with ⟨_, slot', address', sha', _, isAddress', isSha', _, _, _, _, rfl⟩
      cases isAddress.symm.trans isAddress'
      cases isSha.symm.trans isSha'
      rfl

/-- Windows on the same block saw the same state. -/
theorem snapshot_same
    (seen : EvidenceOf token rail payment (window.evidence token rail payment) number parent block
      receipt)
    (seen' : EvidenceOf token rail payment (again.evidence token rail payment) number parent block
      receipt) : again.snapshot = window.snapshot := by
  have payerBefore : again.snapshot.payerParent = window.snapshot.payerParent :=
    Int.natCast_inj.mp (seen'.payerBefore.trans seen.payerBefore.symm)
  have payeeBefore : again.snapshot.payeeParent = window.snapshot.payeeParent :=
    Int.natCast_inj.mp (seen'.payeeBefore.trans seen.payeeBefore.symm)
  have payerAfter : again.snapshot.payerAfter = window.snapshot.payerAfter :=
    Int.natCast_inj.mp (seen'.payerAfter.trans seen.payerAfter.symm)
  have payeeAfter : again.snapshot.payeeAfter = window.snapshot.payeeAfter :=
    Int.natCast_inj.mp (seen'.payeeAfter.trans seen.payeeAfter.symm)
  have nonce : again.snapshot.nonceConsumed = window.snapshot.nonceConsumed :=
    seen'.nonce.trans seen.nonce.symm
  calc again.snapshot
    _ = ⟨again.snapshot.payerParent, again.snapshot.payeeParent, again.snapshot.payerAfter,
          again.snapshot.payeeAfter, again.snapshot.nonceConsumed⟩ := rfl
    _ = ⟨window.snapshot.payerParent, window.snapshot.payeeParent, window.snapshot.payerAfter,
          window.snapshot.payeeAfter, window.snapshot.nonceConsumed⟩ := by
      rw [payerBefore, payeeBefore, payerAfter, payeeAfter, nonce]

/-- Windows on the same block attribute the same. -/
theorem attribution_same (accepted : window.Accepted token rail payment)
    (accepted' : again.Accepted token rail payment)
    (status : again.point.status = window.point.status)
    (snapshot : again.snapshot = window.snapshot) :
    again.attribution.truth = window.attribution.truth ∧
      again.attribution.receivedAmount = window.attribution.receivedAmount ∧
      (again.evidence token rail payment).removed =
        (window.evidence token rail payment).removed := by
  have attribution := accepted.attribution
  have attribution' := accepted'.attribution
  cases raced : window.race with
  | none =>
    rw [raced] at attribution
    cases raced' : again.race with
    | none =>
      rw [raced'] at attribution'
      simp [Window.evidence, chainEvidence, attribution.2.2, attribution'.2.2, snapshot]
    | some _ =>
      rw [raced'] at attribution'
      exact absurd (status.symm.trans attribution'.1) attribution.1
  | some _ =>
    rw [raced] at attribution
    cases raced' : again.race with
    | none =>
      rw [raced'] at attribution'
      exact absurd (status.trans attribution.1) attribution'.1
    | some _ =>
      rw [raced'] at attribution'
      rcases attribution with ⟨_, credit, index, ok, attributed⟩
      rcases attribution' with ⟨_, credit', index', ok', attributed'⟩
      simp [Window.evidence, chainEvidence, attributed, attributed', successAttribution,
        snapshot, ok.standing, ok'.standing]

/-- Windows on the same block give the same verdict on the settlement. -/
theorem settlement_same (accepted : window.Accepted token rail payment)
    (accepted' : again.Accepted token rail payment)
    (positions : (receipt.logs.map Log.index).Nodup)
    (seen : EvidenceOf token rail payment (window.evidence token rail payment) number parent block
      receipt)
    (seen' : EvidenceOf token rail payment (again.evidence token rail payment) number parent block
      receipt) :
    again.attribution.truth = window.attribution.truth ∧
      SameSettlement (window.evidence token rail payment) (again.evidence token rail payment) := by
  have snapshot := snapshot_same seen seen'
  have atNumber : again.point.number = window.point.number :=
    Int.natCast_inj.mp (seen'.number.trans seen.number.symm)
  have hash : again.point.hash = window.point.hash := seen'.hash.trans seen.hash.symm
  have status : again.point.status = window.point.status :=
    Int.natCast_inj.mp (seen'.status.trans seen.status.symm)
  have liveChain : again.liveChain = window.liveChain :=
    Int.natCast_inj.mp (accepted'.chain_eq.trans accepted.chain_eq.symm)
  have code : again.tokenCode = window.tokenCode := seen'.code.trans seen.code.symm
  have identity := implementation_same accepted.implementation accepted'.implementation
  rcases attribution_same accepted accepted' status snapshot with ⟨truth, received, removed⟩
  have events : (again.evidence token rail payment).logIndex =
        (window.evidence token rail payment).logIndex ∧
      (again.evidence token rail payment).eventValue =
        (window.evidence token rail payment).eventValue := by
    cases succeeded : receipt.success with
    | true =>
      rcases seen.event succeeded with ⟨_, _, _, event⟩
      rcases seen'.event succeeded with ⟨_, _, _, event'⟩
      exact event_same positions event event'
    | false =>
      rcases seen.noEvent succeeded with ⟨logIndex, eventValue, _⟩
      rcases seen'.noEvent succeeded with ⟨logIndex', eventValue', _⟩
      exact ⟨logIndex'.trans logIndex.symm, eventValue'.trans eventValue.symm⟩
  refine ⟨truth, ?_⟩
  rcases events with ⟨logIndex, eventValue⟩
  simp only [Window.evidence, chainEvidence] at logIndex eventValue removed
  simp only [SameSettlement, Window.evidence, chainEvidence, atNumber, hash, status, liveChain,
    code, identity, snapshot, received, removed, logIndex, eventValue]

/-- A verdict is about a block that is buried under the confirmations of the rail. -/
theorem buried_of_accepted (accepted : window.Accepted token rail payment)
    (honest : ∀ entry ∈ window.transcript token rail payment, HonestEntry chain entry)
    (found : chain.blocks[window.point.number]? = some block) :
    chain.Buried window.point.number block rail.finality.minimumConfirmations.toNat := by
  rcases read_tag (honest (blockSaid rail.finality.blockTag.text.toList window.finality)
    (by simp [Window.transcript, Window.opening])) accepted.finality with ⟨_, head, _⟩
  have inside := (List.getElem?_eq_some_iff.mp head).1
  have deep := accepted.point.deep
  have positive := rail.finality.positive
  rw [accepted.point.confirmations] at deep
  exact ⟨found, by omega⟩

/-- A verdict is final with the confirmations of its rail.  When it was given on a head that is
fewer confirmations above the settled blocks, later verdicts repeat it. -/
theorem verdict_persists {state finalState state' finalState' : σ}
    {history finalHistory history' finalHistory' : Conversation}
    {first second : LiveReconciliation} (honest : HonestWorld before world)
    (honestLater : HonestWorld after later) (reorgs : ReorgsTo settled before after)
    (small : ((before.blocks.length - 1 : ℕ) : ℤ) ≤ Reorg.uint256Max)
    (returned : Returns world (reconcileLive token rail payment believes) state history first
      finalState finalHistory)
    (onSettled : first.evidence.finalityBlockNumber + 1 <
      settled before + rail.finality.minimumConfirmations)
    (repeated : Returns later (reconcileLive token rail payment believes) state' history' second
      finalState' finalHistory') :
    (∃ number : ℕ, first.evidence.settlementBlockNumber = number ∧
      before.IsFinal number first.evidence.settlementBlockHash
        rail.finality.minimumConfirmations) ∧
    second.divergence = first.divergence ∧ SameSettlement first.evidence second.evidence := by
  rcases returns_iff.mp returned with ⟨_, _, follows, replays⟩
  rcases replays_reconcileLive_ok_iff.mp replays with ⟨_, window, accepted, rfl, isFirst, detected⟩
  rcases returns_iff.mp repeated with ⟨_, _, follows', replays'⟩
  rcases replays_reconcileLive_ok_iff.mp replays' with
    ⟨_, again, accepted', rfl, isSecond, detected'⟩
  have entries := honest.entry follows
  rcases evidenceOf_chain accepted entries with ⟨parent, block, position, receipt, mined,
    parentFound, seen⟩
  rcases evidenceOf_chain accepted' (honestLater.entry follows') with ⟨parent', block', position',
    receipt', mined', parentFound', seen'⟩
  have below : window.point.number < settled before := by
    have deep := accepted.point.deep
    rw [accepted.point.confirmations] at deep
    rw [isFirst] at onSettled
    change (window.finalityNumber : ℤ) + 1 < _ at onSettled
    omega
  have kept : after.blocks[window.point.number]? = some block :=
    (reorgs.getElem?_eq below).trans mined.inChain
  have keptParent : after.blocks[window.point.number - 1]? = some parent :=
    (reorgs.getElem?_eq (by omega)).trans parentFound
  have sameTransaction : receipt.txHash = receipt'.txHash :=
    seen.transaction.trans seen'.transaction.symm
  rcases Chain.Mined.unique ⟨kept, mined.inBlock⟩ mined' sameTransaction with
    ⟨sameNumber, rfl, _, rfl⟩
  rw [← sameNumber] at parentFound' seen'
  cases keptParent.symm.trans parentFound'
  rcases settlement_same accepted accepted' (Chain.positions_receipt mined) seen seen' with
    ⟨truth, same⟩
  rw [isFirst, isSecond]
  refine ⟨⟨window.point.number, rfl, ?_⟩, ?_, same⟩
  · have positive := rail.finality.positive
    have buried := buried_of_accepted accepted entries mined.inChain
    rw [seen.hash]
    exact Chain.isFinal_iff.mpr ⟨by omega, isExactHex_hexWord _, accepted.snapshot.afterGenesis,
      small, block, buried, lower_hexWord _⟩
  · rw [truth] at detected'
    exact Except.ok.inj (detected'.symm.trans detected)

end

open Node.Sample in
/-- The verdict on a payment whose following block is replaced is repeated. -/
theorem verdict_persists_grown : letI := interpreter
    ∃ said said' first second,
      Returns (served (chainTo payee paid)) (reconcileLive token mockAnvil (paymentTo payee) true)
        () [] first () said ∧
      Returns (served (grown 0x13)) (reconcileLive token mockAnvil (paymentTo payee) true)
        () [] second () said' ∧
      second.divergence = first.divergence ∧ SameSettlement first.evidence second.evidence := by
  let := interpreter
  have readable : Readable (grown 0x13) token mockAnvil (paymentTo payee) 1 0
      (settlement payee [] paid) ⟨0x13, 2, [], paid⟩ (settled payee) :=
    Node.Sample.readable rfl ⟨rfl, rfl⟩ rfl rfl (by simp [settlement, settled])
      (by simp [settled, authorization, transfer, usedTopics, transferTopics]) rfl
  have onGrown : Balanced (grown 0x13) token (paymentTo payee) 1 genesis :=
    balanced rfl (by decide) rfl
  have onChain : Balanced (chainTo payee paid) token (paymentTo payee) 1 genesis :=
    balanced rfl (by decide) rfl
  rcases returns_on (readable_chainTo payee paid rfl) onChain with ⟨_, _, returned, onHead⟩
  rcases returns_on readable onGrown with ⟨_, _, repeated, _⟩
  refine ⟨_, _, _, _, returned, repeated, (verdict_persists (honestWorld_served _)
    (honestWorld_served _) reorgsTo_grown (by decide) returned ?_ repeated).2⟩
  rw [onHead]
  decide

end Verdict

end Psv
