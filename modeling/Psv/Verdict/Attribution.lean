import Psv.Node.Reading

/-!
# Attribution of balance changes

The received amount is a difference of block balances.  On a plain token, where
balances change by transfer events only, the same-block filters leave nothing
but the selected transfer to explain what came in.  What the payee sends away in
the same block is not filtered, so the difference is the value of the transfer
less this outflow: the amount is attributed correctly exactly when the payee
sends nothing in that block (`attribution_iff`).
-/

namespace Psv

open Python Interaction Program RpcClient Anvil Chain Rails

namespace Node

/-! ### Plain tokens -/

/-- A movement of tokens as an event reports it. -/
structure Movement where
  source : Address
  destination : Address
  value : Word
  deriving DecidableEq

/-- The number that bytes denote, most significant first. -/
def bytesVal (data : List UInt8) : ℕ := data.foldl (fun n byte => 256 * n + byte.toNat) 0

/-- The movement a log of the token reports. -/
def Log.movement (token : Address) (log : Log) : Option Movement :=
  match log.topics with
  | [_, source, destination] =>
      if log.emitter = token ∧ log.data.length = 32 ∧
          log.topics = transferTopics (source.setWidth 160) (destination.setWidth 160) then
        some ⟨source.setWidth 160, destination.setWidth 160, BitVec.ofNat 256 (bytesVal log.data)⟩
      else none
  | _ => none

/-- What a log adds to an account and takes from it. -/
def Log.credit (token who : Address) (log : Log) : ℕ :=
  (log.movement token).elim 0 fun movement =>
    if movement.destination = who then movement.value.toNat else 0

def Log.debit (token who : Address) (log : Log) : ℕ :=
  (log.movement token).elim 0 fun movement =>
    if movement.source = who then movement.value.toNat else 0

/-- What all transfers of a block add to an account and take from it. -/
def Block.inflow (block : Block) (token who : Address) : ℕ :=
  (block.logs.map (Log.credit token who)).sum

def Block.outflow (block : Block) (token who : Address) : ℕ :=
  (block.logs.map (Log.debit token who)).sum

/-- Balances change from block to block by the transfer events alone. -/
def Chain.Plain (chain : Chain) (token : Address) : Prop :=
  ∀ number parent block, chain.blocks[number]? = some parent →
    chain.blocks[number + 1]? = some block → ∀ who,
      (block.post.balance token who).toNat + block.outflow token who =
        (parent.post.balance token who).toNat + block.inflow token who

theorem bytesVal_append (data : List UInt8) (byte : UInt8) :
    bytesVal (data ++ [byte]) = 256 * bytesVal data + byte.toNat := by
  simp [bytesVal]

theorem bytesVal_bytesOf (count n : ℕ) : bytesVal (bytesOf count n) = n % 256 ^ count := by
  induction count generalizing n with
  | zero => simp [bytesOf, bytesVal, Nat.mod_one]
  | succ count ih =>
      have byte : (UInt8.ofNat (n % 256)).toNat = n % 256 := by simp
      rw [bytesOf, bytesVal_append, ih, byte, pow_succ', Nat.mod_mul]
      ring

theorem length_bytesOf (count n : ℕ) : (bytesOf count n).length = count := by
  induction count generalizing n with
  | zero => rfl
  | succ count ih => simp [bytesOf, ih]

theorem setWidth_setWidth (address : Address) : (address.setWidth 256).setWidth 160 = address := by
  apply BitVec.eq_of_toNat_eq
  rw [BitVec.toNat_setWidth, toNat_setWidth]
  exact Nat.mod_eq_of_lt address.isLt

/-- A transfer log moves its value. -/
theorem movement_transfer {token source destination : Address} {value : Word} {log : Log}
    (emitter : log.emitter = token) (topics : log.topics = transferTopics source destination)
    (data : log.data = wordData value) :
    log.movement token = some ⟨source, destination, value⟩ := by
  have length : log.data.length = 32 := by rw [data, wordData, length_bytesOf]
  have decoded : BitVec.ofNat 256 (bytesVal log.data) = value := by
    apply BitVec.eq_of_toNat_eq
    rw [data, wordData, bytesVal_bytesOf, BitVec.toNat_ofNat,
      Nat.mod_mod_of_dvd _ (by norm_num)]
    exact Nat.mod_eq_of_lt value.isLt
  unfold Log.movement
  rw [topics]
  simp only [transferTopics, setWidth_setWidth, emitter, length, and_self, if_true, decoded]

/-- A log that moves tokens is a transfer log. -/
theorem topics_of_movement {token : Address} {log : Log} {movement : Movement}
    (moves : log.movement token = some movement) :
    log.emitter = token ∧
      log.topics = transferTopics movement.source movement.destination := by
  unfold Log.movement at moves
  split at moves
  · split at moves
    · rename_i conditions
      cases moves
      exact ⟨conditions.1, conditions.2.2⟩
    · cases moves
  · cases moves

theorem sum_map_eq_of_unique {α : Type} {items : List α} {item : α} {amount : α → ℕ}
    (nodup : items.Nodup) (mem : item ∈ items)
    (others : ∀ other ∈ items, other ≠ item → amount other = 0) :
    (items.map amount).sum = amount item := by
  induction items with
  | nil => simp at mem
  | cons first rest ih =>
      simp only [List.mem_cons, forall_eq_or_imp] at others
      obtain ⟨fresh, nodup⟩ := List.nodup_cons.mp nodup
      rcases List.mem_cons.mp mem with rfl | later
      · have zeros : ∀ other ∈ rest, amount other = 0 := fun other listed =>
          others.2 other listed fun same => fresh (same ▸ listed)
        have none : (rest.map amount).sum = 0 :=
          List.sum_eq_zero_iff_forall_eq_nat.mpr (by simpa using zeros)
        simp [none]
      · have different : first ≠ item := fun same => fresh (same ▸ later)
        simp [others.1 different, ih nodup later others.2]

end Node

namespace Verdict

open Node

section Attribution

variable [Interpreter] {σ : Type}

/-- The received amount is what the selected transfer brought the payee, and an underpayment
is only reported of a transfer that is too small. -/
def CreditsSelected (token : TokenView) (payment : Payment) (receipt : Receipt)
    (result : LiveReconciliation) : Prop :=
  ∃ transfer ∈ receipt.logs, ∃ value : Word, (transfer.index : ℤ) = payment.logIndex ∧
    transfer.movement (readAddress token.address) =
      some ⟨readAddress payment.payer, readAddress payment.payee, value⟩ ∧
    result.evidence.eventValue = some (value.toNat : ℤ) ∧
    result.evidence.receivedAmount = value.toNat ∧
    (result.divergence.kind = .underpaidCredit → (value.toNat : ℤ) < payment.requiredAmount)

/-- The filters leave only the selected transfer to explain what came in. -/
theorem inflow_eq {chain : Chain} {token : TokenView} {payment : Payment} {number position : ℕ}
    {block : Block} {receipt : Receipt} {transfer : Log} {value : Word}
    {inbound outbound : List Fields} {credit : OnChainCredit}
    (mined : chain.Mined number block position receipt) (listed : transfer ∈ receipt.logs)
    (moves : transfer.movement (readAddress token.address) =
      some ⟨readAddress payment.payer, readAddress payment.payee, value⟩)
    (index : credit.identity.logIndex = transfer.index) (race : RaceOk credit inbound outbound)
    (rendered : List.Forall₂
      (fun entry fields => RendersLog number block.hash entry.1 entry.2 fields)
      (block.select (readAddress token.address) [some (readWord topicTransfer), none,
        some ((readAddress payment.payee).setWidth 256)]) inbound) :
    block.inflow (readAddress token.address) (readAddress payment.payee) = value.toNat := by
  have positions := chain.positions_nodup block (List.mem_of_getElem? mined.inChain)
  have inBlock : transfer ∈ block.logs :=
    List.mem_flatMap.mpr ⟨receipt, List.mem_of_getElem? mined.inBlock, listed⟩
  have amount : transfer.credit (readAddress token.address) (readAddress payment.payee) =
      value.toNat := by
    simp [Log.credit, moves]
  rw [← amount]
  refine sum_map_eq_of_unique positions.of_map inBlock fun other otherListed different => ?_
  rcases moved : other.movement (readAddress token.address) with _ | movement
  · simp [Log.credit, moved]
  · rcases eq_or_ne movement.destination (readAddress payment.payee) with arrives | elsewhere
    · -- A transfer to the payee passes the filter, so it has the position of the selected one.
      obtain ⟨emitter, topics⟩ := topics_of_movement moved
      obtain ⟨origin, originListed, inOrigin⟩ := List.mem_flatMap.mp otherListed
      have selected : (origin.txHash, other) ∈ block.select (readAddress token.address)
          [some (readWord topicTransfer), none,
            some ((readAddress payment.payee).setWidth 256)] := by
        simp only [Block.select, List.mem_flatMap, List.mem_map, List.mem_filter,
          Bool.and_eq_true, decide_eq_true_eq]
        exact ⟨origin, originListed, other,
          ⟨inOrigin, emitter, by rw [topics, arrives]; simp [transferTopics, topicsMatch]⟩, rfl⟩
      obtain ⟨fields, fieldsListed, renders⟩ := forall₂_origin rendered.flip selected
      have both := List.mem_append_left outbound fieldsListed
      obtain ⟨found, decodes, _, same⟩ := race.alone fields both
      obtain ⟨_, _, _, _, _, _, _, _, _, _, foundIndex⟩ :=
        transfer_of_decodesTo renders (race.shapes fields both) decodes
      have sameIndex : other.index = transfer.index := by
        have indices := (Prod.mk.inj same).2
        simp only at foundIndex
        omega
      exact absurd (List.inj_on_of_nodup_map positions otherListed inBlock sameIndex) different
    · simp [Log.credit, moved, elsewhere]

/-- On a plain token the received amount is the value less what the payee sends away in the
same block. -/
theorem received_eq {chain : Chain} {token : TokenView} {rail : RailConfig} {payment : Payment}
    {window : Window} {number position : ℕ} {block : Block} {receipt : Receipt}
    (plain : chain.Plain (readAddress token.address))
    (accepted : window.Accepted token rail payment) (success : window.point.status = 1)
    (honest : ∀ entry ∈ window.transcript token rail payment, HonestEntry chain entry)
    (mined : chain.Mined number block position receipt)
    (tx : receipt.txHash = readWord payment.transactionHash) :
    ∃ transfer ∈ receipt.logs, ∃ value : Word, (transfer.index : ℤ) = payment.logIndex ∧
      transfer.movement (readAddress token.address) =
        some ⟨readAddress payment.payer, readAddress payment.payee, value⟩ ∧
      (window.evidence token rail payment).eventValue = some (value.toNat : ℤ) ∧
      (window.evidence token rail payment).receivedAmount =
        value.toNat - block.outflow (readAddress token.address) (readAddress payment.payee) := by
  obtain ⟨parent, found, _, settled, foundMined, parentFound, evidence⟩ :=
    evidenceOf_chain accepted honest
  obtain ⟨rfl, rfl, rfl, rfl⟩ := foundMined.unique mined (evidence.transaction.trans tx.symm)
  have attribution := accepted.attribution
  rcases raced : window.race with _ | ⟨inbound, outbound⟩
  · rw [raced] at attribution
    exact absurd success attribution.1
  · rw [raced] at attribution
    obtain ⟨_, credit, authIndex, ok, attributed⟩ := attribution
    have succeeded : settled.success = true := by
      have status := evidence.status
      change (window.point.status : ℤ) = _ at status
      rw [success] at status
      by_contra failed
      simp [failed] at status
    obtain ⟨transfer, authorization, value, event⟩ := evidence.event succeeded
    have moves := movement_transfer event.emitter event.topics event.data
    have index : credit.identity.logIndex = transfer.index := by
      have reported := event.logIndex
      simpa [Window.evidence, chainEvidence, attributed, successAttribution] using reported
    have raceHonest : ∀ entry ∈ raceSaid token payment window.point.number
        (some (inbound, outbound)), HonestEntry chain entry := fun entry mem =>
      honest entry (by simp [Window.transcript, Window.pinned, raced, mem])
    have rendered := (read_race accepted.snapshot.payerShape accepted.snapshot.payeeShape
      foundMined.inChain raceHonest).1
    have inflow := inflow_eq foundMined event.listed moves index ok.race rendered
    have height : window.point.number - 1 + 1 = window.point.number :=
      Nat.sub_add_cancel accepted.snapshot.afterGenesis
    have balance := plain _ _ _ parentFound (height.symm ▸ foundMined.inChain)
      (readAddress payment.payee)
    have before := evidence.payeeBefore
    have after := evidence.payeeAfter
    refine ⟨transfer, event.listed, value, event.index, moves, event.eventValue, ?_⟩
    change (window.snapshot.payeeParent : ℤ) = _ at before
    change (window.snapshot.payeeAfter : ℤ) = _ at after
    have received : (window.evidence token rail payment).receivedAmount =
        (window.snapshot.payeeAfter : ℤ) - window.snapshot.payeeParent := by
      simp [Window.evidence, chainEvidence, attributed, successAttribution]
    rw [received]
    omega

/-- On a plain token served by an honest node, a positive verdict credits the payee with the
selected transfer exactly when the payee sends nothing in the settlement block. -/
theorem attribution_iff {chain : Chain} {world : World} {token : TokenView} {rail : RailConfig}
    {payment : Payment} {believes : Bool} {state finalState : σ}
    {history finalHistory : Conversation} {result : LiveReconciliation} {number position : ℕ}
    {block : Block} {receipt : Receipt} (honest : HonestWorld chain world)
    (plain : chain.Plain (readAddress token.address))
    (returned : Returns world (reconcileLive token rail payment believes) state history result
      finalState finalHistory)
    (success : result.evidence.receiptStatus = 1)
    (mined : chain.Mined number block position receipt)
    (tx : receipt.txHash = readWord payment.transactionHash) :
    CreditsSelected token payment receipt result ↔
      block.outflow (readAddress token.address) (readAddress payment.payee) = 0 := by
  obtain ⟨said, _, follows, replays⟩ := returns_iff.mp returned
  obtain ⟨_, window, accepted, rfl, evidence, detected⟩ := replays_reconcileLive_ok_iff.mp replays
  rw [evidence] at success
  have status : window.point.status = 1 := by
    have reported : ((window.point.status : ℕ) : ℤ) = 1 := success
    exact_mod_cast reported
  obtain ⟨transfer, listed, value, index, moves, eventValue, received⟩ :=
    received_eq plain accepted status (honest.entry follows) mined tx
  constructor
  · rintro ⟨_, _, _, _, _, eventValue', received', _⟩
    rw [evidence] at eventValue' received'
    rw [eventValue', Option.some.injEq] at eventValue
    omega
  · intro nothing
    rw [nothing] at received
    refine ⟨transfer, listed, value, index, moves, evidence ▸ eventValue, ?_, ?_⟩
    · rw [evidence, received]
      simp
    · intro underpaid
      have kind := (accepted.graded detected).1
      have amount : window.attribution.receivedAmount = value.toNat := by
        simpa [Window.evidence, chainEvidence] using received
      rw [underpaid, status, amount] at kind
      by_contra enough
      cases believes <;> simp [grade, enough] at kind

end Attribution

/-! ### A payee that sends on -/

namespace Sweep

open Node.Sample

/-- The payee sends a part of its 100 on to a third account, in the same block. -/
def sweep (value : Word) : Receipt := ⟨0x1002, true, [transfer payee third value 2]⟩

def block (value rest : Word) : Block := settlement payee [sweep value] (post 900 rest value true)

def chain (value rest : Word) : Node.Chain where
  chainId := 84532
  blocks := [genesis, block value rest]
  transactions_nodup := by simp [genesis, block, settlement, settled, sweep, txHash]
  positions_nodup := by
    simp [genesis, block, settlement, Block.logs, settled, authorization, transfer, sweep]

variable {value rest : Word}

theorem movement_transfer (source destination : Address) (value : Word) (index : ℕ) :
    (transfer source destination value index).movement (readAddress token.address) =
      some ⟨source, destination, value⟩ :=
  Node.movement_transfer rfl rfl rfl

theorem movement_authorization : authorization.movement (readAddress token.address) = none := by
  decide +kernel

theorem flows (who : Address) :
    (block value rest).inflow (readAddress token.address) who =
        (if payee = who then 100 else 0) + (if third = who then value.toNat else 0) ∧
      (block value rest).outflow (readAddress token.address) who =
        (if payer = who then 100 else 0) + (if payee = who then value.toNat else 0) := by
  simp [block, settlement, Block.inflow, Block.outflow, Block.logs, settled, sweep, Log.credit,
    Log.debit, movement_transfer, movement_authorization]

theorem plain (exact : rest.toNat + value.toNat = 100) :
    (chain value rest).Plain (readAddress token.address) := by
  rintro (_ | _ | number) parent after atParent atAfter who
  · cases atParent
    cases atAfter
    obtain ⟨inflow, outflow⟩ := @flows value rest who
    rw [inflow, outflow]
    have distinct : payer ≠ payee ∧ payer ≠ third ∧ payee ≠ third := by decide
    simp only [genesis, block, settlement, post]
    by_cases isPayer : who = payer
    · subst isPayer
      simp [distinct.1.symm, distinct.2.1.symm]
    · by_cases isPayee : who = payee
      · subst isPayee
        simp [distinct.1, distinct.1.symm, distinct.2.2.symm, exact]
      · by_cases isThird : who = third
        · subst isThird
          simp [distinct.2.1, distinct.2.2, distinct.2.1.symm, distinct.2.2.symm]
        · simp [isPayer, isPayee, isThird, Ne.symm isPayer, Ne.symm isPayee, Ne.symm isThird]
  · cases atAfter
  · cases atAfter

/-- The run on the swept payment returns, with what is left to the payee as received. -/
theorem returned (exact : rest.toNat + value.toNat = 100) (left : 0 < rest.toNat) :
    letI := interpreter
    ∃ said result, Returns (served (chain value rest))
        (reconcileLive token mockAnvil (paymentTo payee) true) () [] result () said ∧
      result.evidence.receiptStatus = 1 ∧ result.evidence.eventValue = some 100 ∧
      result.evidence.receivedAmount = rest.toNat ∧
      result.divergence.kind = grade true true (decide (rest.toNat < 100)) := by
  let := interpreter
  have readPayer : readAddress (paymentTo payee).payer = payer := readAddress_hexAddress _
  have readPayee : readAddress (paymentTo payee).payee = payee := readAddress_hexAddress _
  have distinct : payee ≠ payer := by decide
  have snapshot_eq : snapshotOf token (paymentTo payee) genesis (block value rest) =
      ⟨1000, 0, 900, rest.toNat, true⟩ := by
    rw [snapshotOf, readPayer, readPayee]
    simp [genesis, block, settlement, post, distinct]
  have quiet : ∀ receipt ∈ [sweep value], ∀ log ∈ receipt.logs,
      topicsMatch [some (readWord topicTransfer), none, some (payee.setWidth 256)]
          log.topics = false ∧
        topicsMatch [some (readWord topicTransfer), some (payer.setWidth 256), none]
          log.topics = false := by
    have apart : payee.setWidth 256 ≠ third.setWidth 256 ∧
        payer.setWidth 256 ≠ payee.setWidth 256 := by
      decide
    simp [sweep, transfer, transferTopics, topicsMatch, apart]
  have moved : Transferred token (paymentTo payee) 1
      (snapshotOf token (paymentTo payee) genesis (block value rest)) (block value rest)
      (settled payee) (transfer payer payee 100 1) authorization 100 := by
    rw [snapshot_eq]
    exact transferred quiet rfl (by norm_num) (by simp only; omega)
  have readable : Readable (chain value rest) token mockAnvil (paymentTo payee) 1 0
      (block value rest) (block value rest) (settled payee) :=
    Node.Sample.readable rfl ⟨rfl, rfl⟩ rfl rfl (by simp [block, settlement, settled])
      (by simp [settled, authorization, transfer, usedTopics, transferTopics]) rfl
  obtain ⟨divergence, detected, returned⟩ := returns_transferred true readable
    (balanced rfl (by decide) rfl) moved
  refine ⟨_, _, returned, rfl, rfl, ?_, ?_⟩
  · change ((snapshotOf token (paymentTo payee) genesis (block value rest)).payeeAfter : ℤ) -
      (snapshotOf token (paymentTo payee) genesis (block value rest)).payeeParent = _
    rw [snapshot_eq]
    simp
  · rw [(detectPaymentDivergence_grade detected).1]
    simp only [transferredWindow, observed, successAttribution, snapshot_eq,
      SettlementTruth.fundsMoved]
    have positive : (0 : ℤ) < rest.toNat - 0 := by omega
    simp [left, paymentTo]

end Sweep

open Node.Sample in
/-- A payee that sends 30 of the 100 on in the same block appears underpaid, although the
transfer was of the required 100. -/
theorem swept_underpaid : letI := interpreter
    HonestWorld (Sweep.chain 30 70) (served (Sweep.chain 30 70)) ∧
      (Sweep.chain 30 70).Plain (readAddress token.address) ∧
      ∃ said result, Returns (served (Sweep.chain 30 70))
          (reconcileLive token mockAnvil (paymentTo payee) true) () [] result () said ∧
        result.evidence.receiptStatus = 1 ∧ result.evidence.eventValue = some 100 ∧
        result.evidence.receivedAmount = 70 ∧ result.divergence.kind = .underpaidCredit ∧
        ¬CreditsSelected token (paymentTo payee) (settled payee) result := by
  let := interpreter
  obtain ⟨said, result, returned, status, value, received, kind⟩ :=
    @Sweep.returned 30 70 (by decide) (by decide)
  refine ⟨honestWorld_served _, Sweep.plain (by decide), said, result, returned, status, value,
    received, kind, ?_⟩
  rintro ⟨_, _, amount, _, _, isValue, isReceived, _⟩
  rw [value, Option.some.injEq] at isValue
  rw [received] at isReceived
  have seventy : ((70 : Word).toNat : ℤ) = 70 := rfl
  omega

open Node.Sample in
/-- A payee that sends nothing of value on in the same block is credited with the transfer. -/
theorem unswept_credited : letI := interpreter
    ∃ said result, Returns (served (Sweep.chain 0 100))
        (reconcileLive token mockAnvil (paymentTo payee) true) () [] result () said ∧
      CreditsSelected token (paymentTo payee) (settled payee) result := by
  let := interpreter
  obtain ⟨said, result, returned, status, _⟩ := @Sweep.returned 0 100 (by decide) (by decide)
  have kept : (Sweep.block 0 100).outflow (readAddress token.address)
      (readAddress (paymentTo payee).payee) = 0 := by
    rw [show readAddress (paymentTo payee).payee = payee from readAddress_hexAddress _,
      (Sweep.flows payee).2]
    decide
  have mined : (Sweep.chain 0 100).Mined 1 (Sweep.block 0 100) 0 (settled payee) := ⟨rfl, rfl⟩
  exact ⟨said, result, returned, (attribution_iff (honestWorld_served _)
    (Sweep.plain (by decide)) returned status mined (readWord_hexWord _).symm).mpr kept⟩

end Verdict

end Psv
