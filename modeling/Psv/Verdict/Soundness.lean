import Psv.Node.Transfer

/-!
# Evidence soundness against an untrusted node

Nothing is assumed about the node here.  Whatever a positive verdict reports is
backed by answers of the conversation, and the checks tie these answers to one
transaction, one block and one transfer (`evidence_backed`).  Payer and payee
are told apart by their balances only, so a node that answers one question in
two ways can present them as one account (`selfPayment_accepted`).
-/

namespace Psv

open Python Interaction Program RpcClient Anvil Chain Rails

namespace Verdict

section Soundness

variable [Interpreter] {σ : Type}

/-- The account an address text denotes. -/
def account (text : Str) : ℕ := hexVal (text.drop 2)

/-- A log is the standing transfer that the evidence reports. -/
structure TransferBacks (rail : RailConfig) (payment : Payment) (evidence : ChainEvidence)
    (log : Fields) : Prop where
  standing : getField log "removed" = .bool false
  emitter : ∃ text, getField log "address" = .str text ∧ lower text = lower rail.tokenAddress
  topics : ∃ signature payer payee,
    getField log "topics" = .list [.str signature, .str payer, .str payee] ∧
      lower signature = topicTransfer ∧ lower payer = hexWord (account payment.payer) ∧
      lower payee = hexWord (account payment.payee)
  transaction : HashAt log "transactionHash" (lower payment.transactionHash)
  blockHash : HashAt log "blockHash" evidence.settlementBlockHash
  blockNumber : ∃ number, QuantityAt log "blockNumber" number ∧
    evidence.settlementBlockNumber = number
  value : ∃ text, getField log "data" = .str text ∧ isExactHex 64 text = true ∧
    evidence.eventValue = some (hexVal (text.drop 2) : ℤ)

/-- A receipt holds the transaction, one transfer and one authorization. -/
structure ReceiptBacks (token : TokenView) (rail : RailConfig) (payment : Payment)
    (evidence : ChainEvidence) (receipt : Fields) : Prop where
  transaction : HashAt receipt "transactionHash" (lower payment.transactionHash)
  status : QuantityAt receipt "status" 1
  blockHash : HashAt receipt "blockHash" evidence.settlementBlockHash
  blockNumber : ∃ number, QuantityAt receipt "blockNumber" number ∧
    evidence.settlementBlockNumber = number
  logs : ∃ logs : List Fields, getField receipt "logs" = .list (logs.map .dict) ∧
    (∃ log, logs.filter (hasLogIndex payment.logIndex) = [log] ∧
      TransferBacks rail payment evidence log) ∧
    ∃ log index, logs.filter (isTokenLog token.address (authorizationTopics payment)) = [log] ∧
      getField log "removed" = .bool false ∧ QuantityAt log "logIndex" index ∧
      evidence.authorizationLogIndex = some (index : ℤ)

/-- The value of a word that was read about an account. -/
def ReadsBalance (token : TokenView) (said : Conversation) (who : Str) (number : ℕ)
    (balance : ℤ) : Prop :=
  ∃ word n, callSaid token.address (TokenView.balancePayload (account who)) number word ∈ said ∧
    WordIs word n ∧ balance = n

/-- The same contract call was never answered in two ways. -/
def ConsistentCalls (said : Conversation) : Prop :=
  ∀ params left right, exchange "eth_call" params left ∈ said →
    exchange "eth_call" params right ∈ said → left = right

/-- Everything a positive verdict reports is backed by the conversation. -/
structure Backed (token : TokenView) (rail : RailConfig) (payment : Payment)
    (said : Conversation) (evidence : ChainEvidence) : Prop where
  chain_eq : evidence.chainId = rail.chainId
  chainAnswer : ∃ text, exchange "eth_chainId" [] (.ok (.str text)) ∈ said ∧
    isQuantity text = true ∧ evidence.chainId = hexVal (text.drop 2)
  transaction : evidence.transactionHash = lower payment.transactionHash
  logIndex : evidence.logIndex = some payment.logIndex
  receipt : ∃ receipt, receiptSaid (lower payment.transactionHash) receipt ∈ said ∧
    ReceiptBacks token rail payment evidence receipt
  canonical : ∃ block number, blockSaid (pyHex number) block ∈ said ∧
    evidence.settlementBlockNumber = number ∧
    BlockOk block number evidence.settlementBlockHash
  authorization : ∃ number word, evidence.settlementBlockNumber = (number : ℕ) ∧
    callSaid token.address (TokenView.authorizationPayload (account payment.payer)
      (hexVal (payment.nonce.drop 2))) number word ∈ said ∧ WordIs word 1
  consumed : evidence.nonceConsumed = true
  reads : ∃ number : ℕ, evidence.settlementBlockNumber = number ∧ 0 < number ∧
    ReadsBalance token said payment.payer (number - 1) evidence.payerBalanceBefore ∧
    ReadsBalance token said payment.payee (number - 1) evidence.payeeBalanceBefore ∧
    ReadsBalance token said payment.payer number evidence.payerBalanceAfter ∧
    ReadsBalance token said payment.payee number evidence.payeeBalanceAfter
  balances : ∃ value, evidence.eventValue = some value ∧
    evidence.payerBalanceAfter = evidence.payerBalanceBefore - value ∧
    evidence.payeeBalanceAfter = evidence.payeeBalanceBefore + evidence.receivedAmount ∧
    0 < evidence.receivedAmount ∧ evidence.receivedAmount ≤ value
  distinct : ConsistentCalls said → evidence.payer ≠ evidence.payee

/-! ### From accepted windows -/

/-- A padded topic whose address part is known is the whole word of that address. -/
theorem topic_eq_hexWord {topic address : Str} (topicShape : isExactHex 64 topic = true)
    (addressShape : isExactHex 40 address = true)
    (zeros : ((lower topic).drop 2).take 24 = List.replicate 24 '0')
    (tail : lower address = '0' :: 'x' :: (lower topic).drop 26) :
    lower topic = hexWord (account address) := by
  have small := hexVal_exact_lt addressShape
  rw [lower_eq_hexPad addressShape] at tail
  simp only [List.cons.injEq, true_and] at tail
  have split : lower topic = '0' :: 'x' :: (((lower topic).drop 2).take 24 ++
      ((lower topic).drop 2).drop 24) := by
    rw [List.take_append_drop, lower_eq_hexPad topicShape]
    rfl
  rw [List.drop_drop] at split
  rw [split, zeros, ← tail, replicate_zero_append_hexPad 24 40 _ small]
  rfl

section Accepted

variable {token : TokenView} {rail : RailConfig} {payment : Payment} {window : Window}

theorem transferBacks_of_decodesTo {credit : OnChainCredit} {authIndex : ℕ}
    {inbound outbound : List Fields} {log : Fields} {evidence : ChainEvidence}
    (sameToken : lower token.address = lower rail.tokenAddress)
    (snapshotOk : SnapshotOk payment window.point.number window.words window.snapshot)
    (ok : TransferOk token payment window.liveChain (lower payment.transactionHash) window.point
      window.receipt window.snapshot credit authIndex inbound outbound)
    (shape : LogShape log) (decodes : Reconciliation.DecodesTo log window.liveChain credit)
    (hash : evidence.settlementBlockHash = window.point.hash)
    (number : evidence.settlementBlockNumber = window.point.number)
    (value : evidence.eventValue = some credit.value) :
    TransferBacks rail payment evidence log := by
  obtain ⟨signature, payerTopic, payeeTopic, listed, isTransfer, payerZeros, payerIs, payeeZeros,
    payeeIs⟩ := decodes.topics
  obtain ⟨texts, textsEq, _, shapes⟩ := shape.topics
  have topicShapes : isExactHex 64 payerTopic = true ∧ isExactHex 64 payeeTopic = true := by
    obtain rfl : texts = [signature, payerTopic, payeeTopic] := by
      rw [textsEq, Value.list.injEq] at listed
      exact List.map_injective_iff.mpr (fun _ _ same => by simpa using same) listed
    exact ⟨shapes _ (by simp), shapes _ (by simp)⟩
  obtain ⟨assetText, assetEq, assetIs⟩ := decodes.asset
  obtain ⟨txText, txEq, txIs⟩ := decodes.txHash
  obtain ⟨hashText, hashEq, hashIs⟩ := decodes.blockHash
  obtain ⟨numberText, numberEq, numberIs, _⟩ := decodes.blockNumber
  obtain ⟨dataText, dataEq, dataShape, dataIs⟩ := decodes.data
  obtain ⟨_, txEq', txShape⟩ := shape.transactionHash
  obtain ⟨_, hashEq', hashShape⟩ := shape.blockHash
  obtain ⟨_, numberEq', numberShape⟩ := shape.blockNumber
  cases txEq.symm.trans txEq'
  cases hashEq.symm.trans hashEq'
  cases numberEq.symm.trans numberEq'
  constructor
  · rw [decodes.removed, ok.standing]
  · exact ⟨assetText, assetEq, by rw [← assetIs, ok.asset, sameToken]⟩
  · refine ⟨signature, payerTopic, payeeTopic, listed, isTransfer, ?_, ?_⟩
    · exact topic_eq_hexWord topicShapes.1 snapshotOk.payerShape payerZeros
        (ok.payer.symm.trans payerIs)
    · exact topic_eq_hexWord topicShapes.2 snapshotOk.payeeShape payeeZeros
        (ok.payee.symm.trans payeeIs)
  · exact ⟨txText, txEq, txShape, by rw [← txIs, ok.txHash]⟩
  · exact ⟨hashText, hashEq, hashShape, by rw [hash, ← hashIs, ok.blockHash]⟩
  · exact ⟨_, ⟨numberText, numberEq, numberShape, rfl⟩,
      by rw [number, ← numberIs, ok.blockNumber]⟩
  · exact ⟨dataText, dataEq, dataShape, by rw [value, dataIs]⟩

/-- The snapshot reads of an accepted window. -/
theorem mem_transcript_of_snapshot {entry : Σ question : interface.Ask, interface.Answer question}
    (mem : entry ∈ snapshotSaid token payment window.point.number window.words) :
    entry ∈ window.transcript token rail payment := by
  rw [Window.transcript_eq]
  simp only [List.mem_append]
  exact Or.inr (Or.inr (Or.inr (Or.inr (Or.inr (Or.inr (Or.inr (Or.inl mem)))))))

/-- Equal addresses make equal questions, and equal answers leave nothing received. -/
theorem payer_ne_payee (snapshotOk : SnapshotOk payment window.point.number window.words
      window.snapshot) {credit : OnChainCredit} {authIndex : ℕ} {inbound outbound : List Fields}
    (ok : TransferOk token payment window.liveChain (lower payment.transactionHash) window.point
      window.receipt window.snapshot credit authIndex inbound outbound)
    (consistent : ConsistentCalls (window.transcript token rail payment)) :
    lower payment.payer ≠ lower payment.payee := by
  intro same
  have accounts : hexVal (payment.payer.drop 2) = hexVal (payment.payee.drop 2) := by
    rw [lower_eq_hexPad snapshotOk.payerShape, lower_eq_hexPad snapshotOk.payeeShape] at same
    simp only [List.cons.injEq, true_and] at same
    exact hexPad_injOn (hexVal_exact_lt snapshotOk.payerShape)
      (hexVal_exact_lt snapshotOk.payeeShape) same
  have parents : window.words.payerParent = window.words.payeeParent := by
    have equal := consistent _ (.ok (.str window.words.payerParent))
      (.ok (.str window.words.payeeParent))
      (mem_transcript_of_snapshot (by simp only [snapshotSaid, List.mem_cons]; exact Or.inl rfl))
      (mem_transcript_of_snapshot (by
        simp only [snapshotSaid, List.mem_cons, accounts]; exact Or.inr (Or.inl rfl)))
    simpa using equal
  have afters : window.words.payerAfter = window.words.payeeAfter := by
    have equal := consistent _ (.ok (.str window.words.payerAfter))
      (.ok (.str window.words.payeeAfter))
      (mem_transcript_of_snapshot (by
        simp only [snapshotSaid, List.mem_cons]; exact Or.inr (Or.inr (Or.inl rfl))))
      (mem_transcript_of_snapshot (by
        simp only [snapshotSaid, List.mem_cons, accounts]
        exact Or.inr (Or.inr (Or.inr (Or.inl rfl)))))
    simpa using equal
  have parentValue : window.snapshot.payerParent = window.snapshot.payeeParent := by
    rw [snapshotOk.payerParent.2, snapshotOk.payeeParent.2, parents]
  have afterValue : window.snapshot.payerAfter = window.snapshot.payeeAfter := by
    rw [snapshotOk.payerAfter.2, snapshotOk.payeeAfter.2, afters]
  have debited := ok.debited
  have received := ok.received
  omega

/-- The first receipt of an accepted window holds the two logs the evidence names. -/
theorem receiptBacks_of_accepted (accepted : window.Accepted token rail payment)
    (success : window.point.status = 1) :
    ReceiptBacks token rail payment (window.evidence token rail payment) window.receipt ∧
      (window.evidence token rail payment).logIndex = some payment.logIndex := by
  have attribution := accepted.attribution
  rcases raced : window.race with _ | ⟨inbound, outbound⟩
  · rw [raced] at attribution
    exact absurd success attribution.1
  · rw [raced] at attribution
    rcases attribution with ⟨_, credit, authIndex, ok, attributed⟩
    rcases ok.logs with ⟨logs, logged, ⟨log, single, decodes⟩, authLog, authSingle, authStanding,
      authPlaced⟩
    have shapes : ∀ log ∈ logs, LogShape log := by
      rcases accepted.point.shape.logs with ⟨found, foundLogged, _, shapes⟩
      obtain rfl : logs = found := by
        rw [logged, Value.list.injEq] at foundLogged
        exact List.map_injective_iff.mpr (fun _ _ same => by simpa using same) foundLogged
      exact shapes
    have logMem : log ∈ logs.filter (hasLogIndex payment.logIndex) := by simp [single]
    have isChosen := (List.mem_filter.mp logMem).2
    have eventValue : (window.evidence token rail payment).eventValue = some credit.value := by
      simp [Window.evidence, chainEvidence, attributed, successAttribution]
    have status : QuantityAt window.receipt "status" 1 := by
      simpa [success] using accepted.point.status
    constructor
    · refine ⟨accepted.point.transaction, status, accepted.point.hash,
        ⟨_, accepted.point.number, rfl⟩, logs, logged, ⟨log, single, ?_⟩, authLog, authIndex,
        authSingle, authStanding, authPlaced, ?_⟩
      · exact transferBacks_of_decodesTo accepted.arguments.sameToken accepted.snapshot ok
          (shapes log (List.mem_filter.mp logMem).1) decodes rfl rfl eventValue
      · simp [Window.evidence, chainEvidence, attributed, successAttribution]
    · have index : credit.identity.logIndex = payment.logIndex := by
        rcases decodes.logIndex with ⟨text, is, value, _⟩
        simp only [hasLogIndex, is, Bool.and_eq_true, decide_eq_true_eq] at isChosen
        rw [value, isChosen.2]
      simp [Window.evidence, chainEvidence, attributed, successAttribution, index]

theorem backed_of_accepted (accepted : window.Accepted token rail payment)
    (success : window.point.status = 1) :
    Backed token rail payment (window.transcript token rail payment)
      (window.evidence token rail payment) := by
  rcases receiptBacks_of_accepted accepted success with ⟨receiptBacks, isIndex⟩
  have attribution := accepted.attribution
  rcases raced : window.race with _ | ⟨inbound, outbound⟩
  · rw [raced] at attribution
    exact absurd success attribution.1
  · rw [raced] at attribution
    rcases attribution with ⟨_, credit, authIndex, ok, attributed⟩
    have snapshotOk := accepted.snapshot
    have mem : ∀ word, word ∈ snapshotSaid token payment window.point.number window.words →
        word ∈ window.transcript token rail payment := fun _ => mem_transcript_of_snapshot
    have consumedWord : WordIs window.words.nonce 1 := by
      simpa [ok.consumed] using snapshotOk.nonce
    have eventValue : (window.evidence token rail payment).eventValue = some credit.value := by
      simp [Window.evidence, chainEvidence, attributed, successAttribution]
    constructor
    · exact accepted.chain_eq
    · refine ⟨window.chainText, ?_, accepted.chainShape, ?_⟩
      · rw [Window.transcript_eq]
        simp
      · exact congrArg _ accepted.liveChain
    · rfl
    · exact isIndex
    · refine ⟨window.receipt, ?_, receiptBacks⟩
      rw [Window.transcript_eq]
      simp
    · refine ⟨window.canonical, window.point.number, ?_, rfl, accepted.canonical⟩
      rw [Window.transcript_eq]
      simp
    · exact ⟨window.point.number, window.words.nonce, rfl,
        mem _ (by simp [snapshotSaid, account]), consumedWord⟩
    · exact ok.consumed
    · exact ⟨window.point.number, rfl, snapshotOk.afterGenesis,
        ⟨_, _, mem _ (by simp [snapshotSaid, account]), snapshotOk.payerParent, rfl⟩,
        ⟨_, _, mem _ (by simp [snapshotSaid, account]), snapshotOk.payeeParent, rfl⟩,
        ⟨_, _, mem _ (by simp [snapshotSaid, account]), snapshotOk.payerAfter, rfl⟩,
        ⟨_, _, mem _ (by simp [snapshotSaid, account]), snapshotOk.payeeAfter, rfl⟩⟩
    · have debited := ok.debited
      have received := ok.received
      refine ⟨credit.value, eventValue, ?_, ?_, ?_, ?_⟩ <;>
        simp only [Window.evidence, chainEvidence, attributed, successAttribution] <;> omega
    · intro consistent
      exact payer_ne_payee snapshotOk ok consistent

end Accepted

/-- Whatever the node answers, a positive verdict is backed by the conversation that led
to it. -/
theorem evidence_backed {world : World} {token : TokenView} {rail : RailConfig}
    {payment : Payment} {believes : Bool} {state finalState : σ}
    {history finalHistory : Conversation} {result : LiveReconciliation}
    (returned : Returns world (reconcileLive token rail payment believes) state history result
      finalState finalHistory)
    (success : result.evidence.receiptStatus = 1) :
    ∃ said, finalHistory = history ++ said ∧
      Backed token rail payment said result.evidence := by
  obtain ⟨said, extended, _, replays⟩ := returns_iff.mp returned
  obtain ⟨_, window, accepted, rfl, evidence, _⟩ := replays_reconcileLive_ok_iff.mp replays
  rw [evidence] at success ⊢
  have status : ((window.point.status : ℕ) : ℤ) = 1 := success
  exact ⟨_, extended, backed_of_accepted accepted (by exact_mod_cast status)⟩

end Soundness

open Node Node.Sample in
/-- A payment of 100 on the local rail is settled, and its verdict is backed. -/
theorem evidence_backed_sample : letI := interpreter
    ∃ said result, Returns (served (chainTo payee paid))
        (reconcileLive token mockAnvil (paymentTo payee) true) () [] result () said ∧
      result.evidence.receiptStatus = 1 ∧
      Backed token mockAnvil (paymentTo payee) said result.evidence := by
  let := interpreter
  obtain ⟨_, result, returned, success⟩ := returns_paid () true
  obtain ⟨said, equal, backed⟩ := evidence_backed returned success
  refine ⟨_, result, returned, success, ?_⟩
  rw [equal]
  exact backed

/-! ### One account as payer and payee -/

namespace SelfPayment

open Node Node.Sample

def chain : Node.Chain := chainTo payer paid

/-- What a node says that serves the payer first as the payer and then as the payee. -/
def window : Window :=
  letI := interpreter
  transferredWindow chain token mockAnvil (paymentTo payer) 1 0 ⟨1000, 0, 900, 100, true⟩
    (settlement payer [] paid) (settlement payer [] paid) (settled payer)
    (transfer payer payer 100 1) authorization 100

noncomputable def world : World :=
  letI := interpreter
  scripted (window.transcript token mockAnvil (paymentTo payer)) (served chain)

end SelfPayment

open Node Node.Sample in
/-- A node that answers a repeated balance question differently makes one account pass for
payer and payee. -/
theorem selfPayment_accepted : letI := interpreter
    ∃ said result, Returns SelfPayment.world
        (reconcileLive token mockAnvil (paymentTo payer) true) () [] result () said ∧
      result.evidence.receiptStatus = 1 ∧ result.evidence.payer = result.evidence.payee := by
  let := interpreter
  let snapshot : Snapshot := ⟨1000, 0, 900, 100, true⟩
  have moved : Transferred token (paymentTo payer) 1 snapshot (settlement payer [] paid)
      (settled payer) (transfer payer payer 100 1) authorization 100 :=
    transferred (by simp) rfl (by decide) (by decide)
  have words : SnapshotOk (paymentTo payer) 1 (wordsOf snapshot) snapshot :=
    snapshotOk_words (by decide) (isExactHex_hexAddress _) (isExactHex_hexAddress _)
      (isExactHex_hexWord _) (by decide) (by decide) (by decide) (by decide) rfl rfl
  have readable := readable_chainTo payer paid rfl
  have accepted : SelfPayment.window.Accepted token mockAnvil (paymentTo payer) :=
    accepted_observed readable words
      (attributionOk_served readable words.payerShape words.payeeShape moved)
  obtain ⟨_, _, returned⟩ := accepted.returns true (served SelfPayment.chain) ()
  exact ⟨_, _, returned, rfl, rfl⟩

end Verdict

end Psv
