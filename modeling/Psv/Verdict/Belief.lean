import Psv.Sut.Accounts
import Psv.Sut.Requests
import Psv.Verdict.Soundness

/-!
# The beliefs of the service

The service believes in a settlement after reading one receipt through a best-effort
decoder; a run of the verifier reads the same transaction through strict ones and
against balances.  When the receipts that the service was given are those of the
chain that the verifier is shown, the two agree: whatever the service has booked, in
any interleaving of its requests, the verifier grades as moved funds of exactly the
price, and at worst as underpaid, never as a phantom credit (`booked_is_no_phantom`).
-/

namespace Psv

open Python Interaction Program Chain RpcClient Anvil Reconciliation Confirmer Node Rails

namespace ReferenceSut

variable [Interpreter]

/-! ### Receipts of a chain -/

/-- The receipts that were served still stand in the chain. -/
def Standing {ι : Type} (chain : Node.Chain) (record : Record interface ι) : Prop :=
  ∀ i txHash receipt, isExactHex 64 txHash = true →
    (i, polled txHash (.ok (.dict receipt))) ∈ record →
      ∃ number block position mined, chain.Mined number block position mined ∧
        mined.txHash = readWord txHash ∧ RendersReceipt number block.hash mined receipt

section Receipts

variable {settlement : Settlement} {receipt : Fields} {index : ℤ} {number : ℕ} {ofBlock : Word}
  {mined : Receipt}

/-- A quantity that renders a number is read as that number. -/
theorem quantity_of_spells {fields : Fields} {name : String} {n : ℕ} {value : ℤ}
    (spelled : SpellsAt fields name (pyHex n))
    (shape : ∃ text, getField fields name = .str text ∧ isQuantity text = true)
    (read : Confirmer.quantity (getField fields name) = some value) : value = n := by
  rcases shape with ⟨text, isText, isQuantity⟩
  rcases spelled with ⟨_, same, spells⟩
  cases isText.symm.trans same
  rw [isText] at read
  rw [int16_of_isQuantity isQuantity read, spells.quantity_eq isQuantity]

/-- The data of a log that renders bytes is read as their number. -/
theorem value_of_renders {txHash : Word} {log : Log} {fields : Fields} {value : ℤ}
    (renders : RendersLog number ofBlock txHash log fields) (shape : LogShape fields)
    (read : Confirmer.quantity (getField fields "data") = some value) : value = log.value := by
  rcases shape.data with ⟨text, isText, isBytes⟩
  rcases renders.data with ⟨_, same, spells⟩
  cases isText.symm.trans same
  rw [isText] at read
  rcases isData_iff.mp isBytes with ⟨digits, rfl, _, all⟩
  have lowered : digits.map Char.toLower = bytesHex log.data :=
    (List.cons.inj (List.cons.inj spells).2).2
  rw [int16_of_isData isBytes read, Log.value, ← lowered, hexVal_map_toLower all]
  rfl

/-- A topic that renders a word in the place of a padded account is that word. -/
theorem topic_of_renders {text account : Str} {topic : Word} (shape : isExactHex 64 text = true)
    (spells : Spells text (hexWord topic.toNat)) (same : lower text = lower (topicAddr account)) :
    hexWord topic.toNat = lower (topicAddr account) := by
  rw [← same, spells.lower_eq shape]

/-- A receipt of the chain that settles a payment succeeded, and the chain has a log at the index
which the token emitted for the payment. -/
theorem SettledBy.stands (settled : SettledBy settlement receipt index)
    (valid : ReceiptShape receipt) (renders : RendersReceipt number ofBlock mined receipt)
    (exact : isExactHex 40 settlement.token = true) :
    mined.success = true ∧ ∃ log ∈ mined.logs, (log.index : ℤ) = index ∧
      log.emitter = readAddress settlement.token ∧ (log.value : ℤ) = settlement.expectedValue ∧
      ∃ signature payer payee, log.topics = [signature, payer, payee] ∧
        hexWord payer.toNat = lower (topicAddr settlement.payer) ∧
        hexWord payee.toNat = lower (topicAddr settlement.payee) := by
  constructor
  · rcases valid.status with ⟨text, isText, shape, _⟩
    have one := quantity_of_spells renders.status ⟨text, isText, shape⟩ settled.status
    by_contra failed
    rw [if_neg failed] at one
    cases one
  · rcases settled.logs with ⟨_, logs, _, _, isLogs, ⟨_, fields, mem, transfer⟩, _⟩
    have shape := shape_of_mem valid isLogs mem
    rcases renders.logs with ⟨rendered, isRendered, related⟩
    rw [isLogs.unique ⟨_, isRendered, rfl⟩, mappings_dict] at mem
    rcases forall₂_origin related mem with ⟨log, listed, isLog⟩
    refine ⟨log, listed, ?_, ?_, ?_, ?_⟩
    · exact (quantity_of_spells isLog.logIndex shape.logIndex transfer.logIndex).symm
    · rcases shape.address with ⟨text, isText, isExact⟩
      rcases isLog.address with ⟨_, same, spells⟩
      cases isText.symm.trans same
      have token := transfer.address
      rw [isText, sameHex_str, spells.lower_eq isExact, lower_address exact] at token
      exact hexAddress_injective token
    · exact (value_of_renders isLog shape transfer.value).symm
    · rcases transfer.texts shape with
        ⟨signature, payer, payee, isTopics, _, payerShape, payeeShape, isPayer, isPayee⟩
      rcases isLog.topics with ⟨texts, areTexts, spelled⟩
      rw [isTopics, Value.list.injEq] at areTexts
      obtain rfl : [signature, payer, payee] = texts :=
        List.map_injective_iff.mpr (fun _ _ same => Value.str.inj same) areTexts
      rcases List.forall₂_cons_left_iff.mp spelled with ⟨first, _, _, later, words⟩
      rcases List.forall₂_cons_left_iff.mp later with ⟨second, _, isSecond, last, rfl⟩
      rcases List.forall₂_cons_left_iff.mp last with ⟨third, _, isThird, ended, rfl⟩
      cases ended
      exact ⟨first, second, third, words, topic_of_renders payerShape isSecond isPayer,
        topic_of_renders payeeShape isThird isPayee⟩

end Receipts

/-! ### The verifier on what the service booked -/

variable {ι : Type} {sut : ReferenceSut} {requests : ι → Request} {chain : Node.Chain}
  {record : Record interface ι} {order : Order} {txHash : Str} {index : ℤ}

/-- What payments of an order saw settled stands in the chain as a transfer of the price to the
merchant. -/
theorem Settles.stands (settles : sut.Settles requests record order txHash index)
    (standing : Standing chain record) :
    ∃ number block position mined, chain.Mined number block position mined ∧
      mined.txHash = readWord txHash ∧ mined.success = true ∧
      ∃ log ∈ mined.logs, (log.index : ℤ) = index ∧ log.emitter = sut.asset ∧
        (log.value : ℤ) = order.amount ∧ ∃ signature payer payee,
          log.topics = [signature, payer, payee] ∧
            hexWord payee.toNat = lower (topicAddr sut.config.merchantAddress) := by
  rcases settles with ⟨authorization, settlement, receipt, sent, ⟨valid, i, _, _, mem⟩, read,
    settled⟩
  rcases standing i txHash receipt sent.shape mem with
    ⟨number, block, position, mined, isMined, isTx, renders⟩
  rcases sent.encodes with ⟨encoded, encodes⟩
  rcases @Encodes.settlementFor _ sut authorization encoded order txHash encodes with
    ⟨payer, nonce, _, _, isSettlement⟩
  cases isSettlement.symm.trans read
  rcases settled.stands valid renders sut.exact with
    ⟨success, log, listed, isIndex, emitter, value, signature, payerTopic, payeeTopic, topics, _,
      payee⟩
  exact ⟨number, block, position, mined, isMined, isTx, success, log, listed, isIndex, emitter,
    value, signature, payerTopic, payeeTopic, topics, payee⟩

section Verdict

variable {σ : Type} {world : World} {token : TokenView} {rail : RailConfig} {payment : Payment}
  {state finalState : σ} {history finalHistory : Conversation} {result : LiveReconciliation}
  {number position : ℕ} {block : Block} {mined : Receipt} {log : Log}

/-- A verdict about a log of a transaction that succeeded grades what the log reports. -/
theorem graded_of_mined (honest : HonestWorld chain world)
    (returned : Returns world (reconcileLive token rail payment true) state history result
      finalState finalHistory)
    (isMined : chain.Mined number block position mined) (success : mined.success = true)
    (sameTx : mined.txHash = readWord payment.transactionHash) (listed : log ∈ mined.logs)
    (sameIndex : (log.index : ℤ) = payment.logIndex) :
    result.evidence.receiptStatus = 1 ∧ log.emitter = readAddress token.address ∧
      log.topics = transferTopics (readAddress payment.payer) (readAddress payment.payee) ∧
      result.evidence.eventValue = some (log.value : ℤ) ∧
      0 < result.evidence.receivedAmount ∧ result.evidence.receivedAmount ≤ log.value ∧
      result.divergence.kind = if result.evidence.receivedAmount < payment.requiredAmount then
        .underpaidCredit else .consistentPaid := by
  obtain ⟨said, _, follows, replays⟩ := returns_iff.mp returned
  obtain ⟨_, window, accepted, rfl, evidence, detected⟩ := replays_reconcileLive_ok_iff.mp replays
  obtain ⟨_, _, _, _, again, _, read⟩ := evidenceOf_chain accepted (honest.entry follows)
  rw [evidence]
  obtain ⟨rfl, rfl, _, rfl⟩ := isMined.unique again (sameTx.trans read.transaction.symm)
  have status : ((window.point.status : ℕ) : ℤ) = 1 := read.status.trans (if_pos success)
  have isSuccess : window.point.status = 1 := by exact_mod_cast status
  obtain ⟨transfer, _, value, event⟩ := read.event success
  have inBlock : ∀ {other}, other ∈ mined.logs → other ∈ block.logs :=
    fun mem => List.mem_flatMap.mpr ⟨mined, List.mem_of_getElem? isMined.inBlock, mem⟩
  have positions := chain.positions_nodup block (List.mem_of_getElem? isMined.inChain)
  obtain rfl : log = transfer := List.inj_on_of_nodup_map positions (inBlock listed)
    (inBlock event.listed) (by exact_mod_cast sameIndex.trans event.index.symm)
  have isValue := value_of_wordData event.data
  obtain ⟨_, same, _, _, positive, bounded⟩ :=
    (Verdict.backed_of_accepted accepted isSuccess).balances
  rw [event.eventValue, Option.some.injEq, ← isValue] at same
  have graded := (accepted.graded detected).1
  rw [decide_eq_true isSuccess] at graded
  refine ⟨status, event.emitter, event.topics, ?_, positive, same ▸ bounded, ?_⟩
  · rw [event.eventValue, isValue]
  · rw [graded]
    by_cases short : window.attribution.receivedAmount < payment.requiredAmount
    · rw [decide_eq_true short]
      exact (if_pos short).symm
    · rw [decide_eq_false short]
      exact (if_neg short).symm

variable [DecidableEq ι] {fairPrice : ℤ} {key : Str} {identity : SettlementIdentity}
  {pool : Pool interface SutState PyError Reply (Record interface ι) ι}

/-- In any interleaving of requests, and while the receipts that the service was given stand in the
chain: a run of the verifier against that chain about a settlement that the service has booked, at
the price of its order, finds that the token moved exactly the price to the merchant.  Its verdict
is that the payment is consistent, or underpaid when the merchant's balance rose by less. -/
theorem booked_is_no_phantom (reaches : Reaches anyAnswers (sut.opened requests fairPrice) pool)
    (standing : Standing chain pool.world) (found : pool.shared.orders.lookup key = some order)
    (booked : order.settlementIdentity = some identity) (honest : HonestWorld chain world)
    (sameTx : readWord payment.transactionHash = readWord identity.txHash)
    (sameIndex : payment.logIndex = identity.logIndex)
    (sameAmount : payment.requiredAmount = order.amount)
    (returned : Returns world (reconcileLive token rail payment true) state history result
      finalState finalHistory) :
    result.evidence.receiptStatus = 1 ∧ readAddress token.address = sut.asset ∧
      hexWord (readAddress payment.payee).toNat = lower (topicAddr sut.config.merchantAddress) ∧
      result.evidence.eventValue = some order.amount ∧
      0 < result.evidence.receivedAmount ∧ result.evidence.receivedAmount ≤ order.amount ∧
      result.divergence.kind = if result.evidence.receivedAmount < order.amount then
        .underpaidCredit else .consistentPaid := by
  have backed := ((safe_opened sut requests fairPrice).reaches reaches).2.inv.backed key order found
  rcases backed.identity identity booked with ⟨txHash, index, settles, rfl⟩
  rcases settles.stands standing with
    ⟨number, block, position, mined, isMined, isTx, success, log, listed, isIndex, emitter, value,
      signature, payer, payee, topics, isPayee⟩
  have exact : isExactHex 64 txHash = true := by
    rcases settles with ⟨_, _, _, sent, _⟩
    exact sent.shape
  have isHash : readWord (lower txHash) = readWord txHash := by
    rw [lower_word exact, readWord_hexWord]
  rcases graded_of_mined honest returned isMined success (isTx.trans (isHash ▸ sameTx.symm)) listed
    (isIndex.trans sameIndex.symm) with
    ⟨status, isAsset, isTransfer, eventValue, positive, bounded, kind⟩
  rw [value] at eventValue bounded
  rw [sameAmount] at kind
  refine ⟨status, isAsset.symm.trans emitter, ?_, eventValue, positive, bounded, kind⟩
  rw [topics] at isTransfer
  have third : payee = (readAddress payment.payee).setWidth 256 :=
    (List.cons.inj (List.cons.inj (List.cons.inj isTransfer).2).2).1
  rw [← isPayee, third, toNat_setWidth]

end Verdict

/-! ### The sample order

The chain holds the sample settlement, and the verifier is asked about it. -/

section Sample

omit [Interpreter]

def sampleRail : RailConfig :=
  { mockAnvil with
    chainId := 31337, tokenAddress := hexAddress 0x70, accepted := by decide +kernel }

def samplePayment : Payment :=
  ⟨hexAddress 0xa1, hexAddress 0xb2, hexWord 0x77, hexWord 0x1001, 1, 100, 1000, 0⟩

def useLog : Log := ⟨0x70, usedTopics 0xa1 0x77, [], 0⟩

def priceLog : Log := ⟨0x70, transferTopics 0xa1 0xb2, wordData 100, 1⟩

def sampleMined : Receipt := ⟨0x1001, true, [useLog, priceLog]⟩

def sampleBlock : Block := ⟨0x11, 1, [sampleMined], Node.Sample.paid⟩

def sampleChain : Node.Chain where
  chainId := 31337
  blocks := [Node.Sample.genesis, sampleBlock]
  transactions_nodup := by simp [Node.Sample.genesis, sampleBlock]
  positions_nodup := by
    simp [Node.Sample.genesis, sampleBlock, Block.logs, sampleMined, useLog, priceLog]

theorem renders_sampleReceipt :
    RendersReceipt 1 0x11 sampleMined (sampleReceipt (hexWord 100)) where
  transactionHash := ⟨_, rfl, spells_hexWord _⟩
  blockHash := ⟨_, rfl, spells_hexWord _⟩
  blockNumber := ⟨_, rfl, spells_pyHex _⟩
  status := ⟨_, rfl, spells_pyHex _⟩
  logs := by
    have log : ∀ {topics : List Word} {data : List UInt8} {index : ℕ},
        RendersLog 1 0x11 0x1001 ⟨0x70, topics, data, index⟩
          (sampleLog (topics.map fun topic => hexWord topic.toNat) (hexData data) index) := by
      intro topics data index
      refine ⟨⟨_, rfl, spells_hexAddress _⟩, ⟨_, rfl, ?_⟩, ⟨_, rfl, spells_hexData data⟩,
        ⟨_, rfl, spells_pyHex _⟩, ⟨_, rfl, spells_hexWord _⟩, ⟨_, rfl, spells_hexWord _⟩,
        ⟨_, rfl, spells_pyHex _⟩, rfl⟩
      rw [List.forall₂_map_left_iff]
      exact List.forall₂_same.mpr fun topic _ => spells_hexWord _
    have price : sampleTransfer (hexWord 100) = sampleLog (priceLog.topics.map fun topic =>
        hexWord topic.toNat) (hexData priceLog.data) 1 := by
      have topics : (priceLog.topics.map fun topic => hexWord topic.toNat) =
          [topicTransfer, hexWord 0xa1, hexWord 0xb2] := by
        decide +kernel
      rw [topics, priceLog, hexData_wordData]
      rfl
    have use : sampleUse = sampleLog (useLog.topics.map fun topic => hexWord topic.toNat)
        (hexData useLog.data) 0 := by
      have topics : (useLog.topics.map fun topic => hexWord topic.toNat) =
          [topicAuthorizationUsed, hexWord 0xa1, hexWord 0x77] := by
        decide +kernel
      rw [topics]
      rfl
    refine ⟨[sampleUse, sampleTransfer (hexWord 100)], rfl, ?_⟩
    rw [price, use]
    exact .cons log (.cons log .nil)

theorem standing_sample {record : Record interface ℕ} (only : OnlySampleReceipt record) :
    Standing sampleChain record := by
  intro i txHash receipt _ mem
  rcases only i txHash receipt mem with ⟨rfl, rfl⟩
  exact ⟨1, sampleBlock, 0, sampleMined, ⟨rfl, rfl⟩, (readWord_hexWord 0x1001).symm,
    renders_sampleReceipt⟩

theorem readable_sample : letI := asciiInterpreter []
    Readable sampleChain (tokenForRail sampleRail) sampleRail samplePayment 1 0 sampleBlock
      sampleBlock sampleMined := by
  let := asciiInterpreter []
  constructor
  · exact ⟨rfl, isExactHex_hexWord _, isExactHex_hexWord _, by decide, by decide, by decide,
      by decide⟩
  · rfl
  · rintro ⟨⟩
  · exact pinned_of_free rfl rfl
  · exact ⟨rfl, rfl⟩
  · exact readWord_hexWord 0x1001
  · rfl
  · decide
  · decide
  · decide
  · decide
  · decide
  · decide
  · rintro _ ⟨⟩

theorem balanced_sample : letI := asciiInterpreter []
    Balanced sampleChain (tokenForRail sampleRail) samplePayment 1 Node.Sample.genesis := by
  let := asciiInterpreter []
  refine ⟨by decide, isExactHex_hexAddress _, isExactHex_hexAddress _, rfl, by decide, ?_, ?_⟩
  · decide +kernel
  · decide +kernel

theorem moved_sample : letI := asciiInterpreter []
    Transferred (tokenForRail sampleRail) samplePayment 1
      (snapshotOf (tokenForRail sampleRail) samplePayment Node.Sample.genesis sampleBlock)
      sampleBlock sampleMined priceLog useLog 100 := by
  let := asciiInterpreter []
  constructor
  · rfl
  · decide
  · rfl
  · exact List.mem_cons_of_mem _ List.mem_cons_self
  · decide +kernel
  · decide +kernel
  · rfl
  · decide +kernel
  · decide +kernel
  · decide +kernel
  · decide +kernel
  · decide +kernel
  · decide +kernel

/-- The verifier finds that the sample order was paid. -/
theorem booked_is_no_phantom_sample : letI := asciiInterpreter []
    ∃ pool : Pool interface SutState PyError Reply (Record interface ℕ) ℕ,
      pool.shared.orders.lookup sampleOrderId = some (samplePending.booked sampleIdentity) ∧
      ∃ result said, Returns (served sampleChain) (reconcileLive (tokenForRail sampleRail)
          sampleRail samplePayment true) () [] result () said ∧
        result.evidence.eventValue = some 100 ∧ result.evidence.receivedAmount ≤ 100 := by
  let := asciiInterpreter []
  rcases exists_sampleRequests with ⟨_, pool, _, reaches, _, _, goesOn, booked, only, _⟩
  rcases @returns_transferred _ Unit sampleChain (tokenForRail sampleRail) sampleRail samplePayment
    1 0 Node.Sample.genesis sampleBlock sampleBlock sampleMined priceLog useLog 100 () [] true
    readable_sample balanced_sample moved_sample with ⟨divergence, _, returned⟩
  have found : pool.shared.orders.lookup sampleOrderId =
      some (samplePending.booked sampleIdentity) := booked ▸ booked_lookup
  have verified := booked_is_no_phantom (reaches.trans goesOn) (standing_sample only) found rfl
    (honestWorld_served sampleChain) rfl rfl rfl returned
  exact ⟨pool, found, _, _, returned, verified.2.2.2.1, verified.2.2.2.2.2.1⟩

end Sample

end ReferenceSut

end Psv
