import Psv.Verdict.Report
import Psv.Verdict.Soundness

/-!
# Evidence of one transaction

A positive verdict names two logs of the receipt by their indices.  The transfer
is tied to the requested transaction and its block by the checks on the log
itself; the authorization is found by its topics alone.  So the two logs belong
to one transaction exactly when the authorization log of the receipt repeats the
receipt's own identity, and a node can serve a receipt where it does not
(`foreign_authorization`).
-/

namespace Psv

open Python Interaction Program RpcClient Anvil Chain Rails

namespace Verdict

section Binding

variable [Interpreter] {σ : Type}

/-- A log carries the requested transaction and the block of the evidence. -/
structure BoundTo (payment : Payment) (evidence : ChainEvidence) (log : Fields) : Prop where
  transaction : HashAt log "transactionHash" (lower payment.transactionHash)
  blockHash : HashAt log "blockHash" evidence.settlementBlockHash
  blockNumber : ∃ number, QuantityAt log "blockNumber" number ∧
    evidence.settlementBlockNumber = number

/-- The transfer log and the authorization log of the evidence are two logs of the receipt that
both carry the requested transaction and its block. -/
structure OneTransaction (token : TokenView) (payment : Payment) (evidence : ChainEvidence)
    (receipt : Fields) : Prop where
  transfer : ∃ (logs : List Fields) (log : Fields) (index : ℤ),
    getField receipt "logs" = .list (logs.map .dict) ∧ evidence.logIndex = some index ∧
      logs.filter (hasLogIndex index) = [log] ∧ BoundTo payment evidence log
  authorization : ∃ (logs : List Fields) (log : Fields) (index : ℕ),
    getField receipt "logs" = .list (logs.map .dict) ∧
      evidence.authorizationLogIndex = some (index : ℤ) ∧
      logs.filter (isTokenLog token.address (authorizationTopics payment)) = [log] ∧
      QuantityAt log "logIndex" index ∧ BoundTo payment evidence log
  distinct : evidence.logIndex ≠ evidence.authorizationLogIndex

/-- Every authorization log of the receipt repeats the transaction hash, block hash and block
number of the receipt. -/
def Coherent (token : TokenView) (payment : Payment) (receipt : Fields) : Prop :=
  ∀ logs : List Fields, getField receipt "logs" = .list (logs.map .dict) →
    ∀ log ∈ logs, isTokenLog token.address (authorizationTopics payment) log = true →
      (∀ name ∈ ["transactionHash", "blockHash"], ∀ hash,
        HashAt receipt name hash → HashAt log name hash) ∧
      ∀ number, QuantityAt receipt "blockNumber" number → QuantityAt log "blockNumber" number

omit [Interpreter] in
theorem logs_unique {receipt : Fields} {logs others : List Fields}
    (one : getField receipt "logs" = .list (logs.map .dict))
    (two : getField receipt "logs" = .list (others.map .dict)) : logs = others := by
  rw [one, Value.list.injEq] at two
  exact List.map_injective_iff.mpr (fun _ _ same => by simpa using same) two

omit [Interpreter] in
theorem notTransfer_topic : topicAuthorizationUsed ≠ topicTransfer := by decide +kernel

/-- A log with the topics of an authorization is no transfer. -/
theorem not_isTokenLog_of_transferBacks {token : TokenView} {rail : RailConfig} {payment : Payment}
    {evidence : ChainEvidence} {log : Fields} (backs : TransferBacks rail payment evidence log) :
    isTokenLog token.address (authorizationTopics payment) log = false := by
  by_contra chosen
  rcases backs.topics with ⟨signature, payer, payee, listed, isTransfer, _, _⟩
  rw [Bool.not_eq_false] at chosen
  unfold isTokenLog at chosen
  split at chosen
  · rw [Bool.and_eq_true, Value.isTexts_iff, listed, Value.list.injEq] at chosen
    have same := chosen.2
    simp only [authorizationTopics, List.map_cons, List.map_nil, List.cons.injEq,
      Value.str.injEq] at same
    apply notTransfer_topic
    rw [← isTransfer, same.1]
    exact (Node.lower_hexPad 64 _).symm
  · cases chosen

variable {token : TokenView} {rail : RailConfig} {payment : Payment} {evidence : ChainEvidence}
  {receipt : Fields}

/-- The two indices differ, because the transfer is the only log at its own. -/
theorem ReceiptBacks.distinct (backs : ReceiptBacks token rail payment evidence receipt)
    (isIndex : evidence.logIndex = some payment.logIndex) :
    evidence.logIndex ≠ evidence.authorizationLogIndex := by
  rcases backs.logs with ⟨logs, _, ⟨transfer, single, transferBacks⟩, log, index, found, _, placed,
    isAuthorization⟩
  intro same
  rw [isIndex, isAuthorization, Option.some.injEq] at same
  have isLog : log ∈ logs ∧ isTokenLog token.address (authorizationTopics payment) log = true := by
    have mem : log ∈ logs.filter (isTokenLog token.address (authorizationTopics payment)) := by
      rw [found]
      exact List.mem_singleton_self _
    exact List.mem_filter.mp mem
  have atIndex : hasLogIndex payment.logIndex log = true := by
    rcases placed with ⟨text, is, shape, value⟩
    simp only [hasLogIndex, is, shape, Bool.true_and, decide_eq_true_eq]
    rw [same, value]
  have isTransfer : log = transfer := by
    have mem : log ∈ logs.filter (hasLogIndex payment.logIndex) :=
      List.mem_filter.mpr ⟨isLog.1, atIndex⟩
    rw [single] at mem
    exact List.mem_singleton.mp mem
  rw [isTransfer, not_isTokenLog_of_transferBacks transferBacks] at isLog
  exact absurd isLog.2 Bool.false_ne_true

/-- What is backed is of one transaction exactly when the receipt is coherent. -/
theorem ReceiptBacks.singleTransaction_iff (backs : ReceiptBacks token rail payment evidence receipt)
    (isIndex : evidence.logIndex = some payment.logIndex) :
    OneTransaction token payment evidence receipt ↔ Coherent token payment receipt := by
  have distinct := backs.distinct isIndex
  rcases backs with ⟨transaction, _, blockHash, ⟨number, isNumber, sameNumber⟩, logs, logged,
    ⟨transfer, single, transferBacks⟩, log, index, found, _, placed, isAuthorization⟩
  constructor
  · intro one others othersLogged other isOther chosen
    rcases one.authorization with ⟨_, bound, _, boundLogged, _, boundFound, _, isBound⟩
    cases logs_unique boundLogged othersLogged
    have isChosen : other = bound := by
      have mem := List.mem_filter.mpr ⟨isOther, chosen⟩
      rw [boundFound] at mem
      exact List.mem_singleton.mp mem
    subst isChosen
    constructor
    · intro name isName hash hashed
      simp only [List.mem_cons, List.not_mem_nil, or_false] at isName
      rcases isName with rfl | rfl
      · rw [hashed.unique transaction]
        exact isBound.transaction
      · rw [hashed.unique blockHash]
        exact isBound.blockHash
    · intro n numbered
      rcases isBound.blockNumber with ⟨m, isBlock, same⟩
      have equal : n = m := by
        have fromReceipt := numbered.unique isNumber
        omega
      rw [equal]
      exact isBlock
  · intro coherent
    have isLog : log ∈ logs ∧ isTokenLog token.address (authorizationTopics payment) log = true := by
      have mem : log ∈ logs.filter (isTokenLog token.address (authorizationTopics payment)) := by
        rw [found]
        exact List.mem_singleton_self _
      exact List.mem_filter.mp mem
    rcases coherent logs logged log isLog.1 isLog.2 with ⟨hashes, numbers⟩
    constructor
    · exact ⟨logs, transfer, payment.logIndex, logged, isIndex, single,
        transferBacks.transaction, transferBacks.blockHash, transferBacks.blockNumber⟩
    · exact ⟨logs, log, index, logged, isAuthorization, found, placed,
        hashes "transactionHash" (by decide) _ transaction,
        hashes "blockHash" (by decide) _ blockHash, number, numbers number isNumber, sameNumber⟩
    · exact distinct

/-- The logs of a positive verdict belong to one transaction exactly when the authorization log of
the receipt that was read repeats the receipt's identity. -/
theorem oneTransaction_iff {world : World} {believes : Bool} {state finalState : σ}
    {history finalHistory : Conversation} {result : LiveReconciliation}
    (returned : Returns world (reconcileLive token rail payment believes) state history result
      finalState finalHistory)
    (success : result.evidence.receiptStatus = 1) :
    ∃ said receipt, finalHistory = history ++ said ∧
      firstObject asksReceipt said = some receipt ∧
      (OneTransaction token payment result.evidence receipt ↔ Coherent token payment receipt) := by
  rcases returns_iff.mp returned with ⟨said, extended, _, replays⟩
  rcases replays_reconcileLive_ok_iff.mp replays with ⟨_, window, accepted, rfl, evidence, _⟩
  rw [evidence] at success ⊢
  have status : ((window.point.status : ℕ) : ℤ) = 1 := success
  rcases receiptBacks_of_accepted accepted (by exact_mod_cast status) with ⟨backs, isIndex⟩
  have first := @firstReceipt_transcript _ token rail payment window []
  rw [List.append_nil] at first
  exact ⟨_, window.receipt, extended, first, backs.singleTransaction_iff isIndex⟩

open Node in
/-- The logs of a receipt that a node serves repeat its identity. -/
theorem coherent_receiptJson {number position : ℕ} {ofBlock : Word} {served : Receipt} :
    Coherent token payment (receiptJson number ofBlock position served) := by
  intro logs isLogs log mem _
  rw [logs_unique isLogs rfl] at mem
  rcases List.mem_map.mp mem with ⟨entry, _, rfl⟩
  constructor
  · intro name listed hash found
    simp only [List.mem_cons, List.not_mem_nil, or_false] at listed
    rcases listed with rfl | rfl
    · exact found
    · exact found
  · intro n found
    exact found

end Binding

open Node Node.Sample in
/-- The honest payment of 100: its logs belong to one transaction. -/
theorem oneTransaction_sample : letI := interpreter
    ∃ said result receipt, Returns (served (chainTo payee paid))
        (reconcileLive token mockAnvil (paymentTo payee) true) () [] result () said ∧
      result.evidence.receiptStatus = 1 ∧ firstObject asksReceipt said = some receipt ∧
      Coherent token (paymentTo payee) receipt ∧
      OneTransaction token (paymentTo payee) result.evidence receipt := by
  let := interpreter
  rcases returns_paidWindow suited_mockAnvil rfl () [] true with ⟨divergence, returned⟩
  have served := @firstReceipt_transcript _ token mockAnvil (paymentTo payee)
    (paidWindow mockAnvil 84532) []
  rw [List.append_nil] at served
  rcases oneTransaction_iff returned rfl with ⟨said, receipt, same, first, iff⟩
  rw [List.nil_append, List.nil_append] at same
  rw [← same, served, Option.some.injEq] at first
  rw [← first] at iff
  have coherent : Coherent token (paymentTo payee) (paidWindow mockAnvil 84532).receipt :=
    coherent_receiptJson
  exact ⟨_, _, _, returned, rfl, served, coherent, iff.mpr coherent⟩

/-! ### An authorization of another transaction -/

namespace Foreign

open Node Node.Sample

/-- The receipt of the honest payment, with an authorization log of another transaction. -/
def receipt : Fields :=
  let block := settlement payee [] paid
  [(.str "transactionHash", .str (hexWord (settled payee).txHash.toNat)),
    (.str "blockHash", .str (hexWord block.hash.toNat)),
    (.str "blockNumber", .str (pyHex 1)),
    (.str "transactionIndex", .str (pyHex 0)),
    (.str "status", .str (pyHex 1)),
    (.str "logs", .list ([logJson 1 block.hash 0x1002 0 authorization,
      logJson 1 block.hash (settled payee).txHash 0 (transfer payer payee 100 1)].map .dict))]

def window : Window := { paidWindow mockAnvil 84532 with receipt := receipt }

theorem receiptShape : ReceiptShape receipt := by
  constructor
  · intro name required
    simp only [requiredReceiptFields, List.mem_cons, List.not_mem_nil, or_false] at required
    rcases required with rfl | rfl | rfl | rfl | rfl <;> rfl
  · exact ⟨_, rfl, isExactHex_hexWord _⟩
  · exact ⟨_, rfl, isExactHex_hexWord _⟩
  · exact ⟨_, rfl, isQuantity_pyHex _⟩
  · exact ⟨_, rfl, isQuantity_pyHex _, Or.inr (by decide)⟩
  · refine ⟨_, rfl, by decide, ?_⟩
    intro fields mem
    simp only [List.mem_cons, List.not_mem_nil, or_false] at mem
    rcases mem with rfl | rfl
    · exact logShape_logJson _ _ _ _ _ (by decide)
    · exact logShape_logJson _ _ _ _ _ (by decide)
  · intro name listed present
    simp only [List.mem_cons, List.not_mem_nil, or_false] at listed
    rcases listed with rfl | rfl | rfl | rfl
    · exact ⟨_, rfl, isQuantity_pyHex _⟩
    · cases present
    · cases present
    · cases present
  · intro present
    cases present
  · intro present
    cases present

/-- Which of the two logs is the authorization. -/
theorem isTokenLog_logs (ofBlock tx : Word) : letI := interpreter
    isTokenLog token.address (authorizationTopics (paymentTo payee))
        (logJson 1 ofBlock tx 0 authorization) = true ∧
      isTokenLog token.address (authorizationTopics (paymentTo payee))
        (logJson 1 ofBlock tx 0 (transfer payer payee 100 1)) = false := by
  let := interpreter
  have payerShape : isExactHex 40 (paymentTo payee).payer = true := isExactHex_hexAddress _
  have nonceShape : isExactHex 64 (paymentTo payee).nonce = true := isExactHex_hexWord _
  have readPayer : readAddress (paymentTo payee).payer = payer := readAddress_hexAddress _
  have readNonce : readWord (paymentTo payee).nonce = nonce := readWord_hexWord _
  have notTransfer : readWord topicAuthorizationUsed ≠ readWord topicTransfer := by decide +kernel
  rw [isTokenLog_logJson payerShape nonceShape, isTokenLog_logJson payerShape nonceShape,
    readPayer, readNonce]
  constructor
  · simp [authorization, usedTopics, target]
  · simp [transfer, usedTopics, transferTopics, notTransfer.symm]

theorem attributionOk_of_transferOk [Interpreter] {token : TokenView} {payment : Payment}
    {liveChain : ℕ} {txHash : Str} {point : SettlementPoint} {receipt : Fields}
    {snapshot : Snapshot} {credit : OnChainCredit} {authIndex : ℕ}
    {race : List Fields × List Fields} (success : point.status = 1)
    (ok : TransferOk token payment liveChain txHash point receipt snapshot credit authIndex race.1
      race.2) :
    AttributionOk token payment liveChain txHash point receipt snapshot (some race)
      (successAttribution credit authIndex snapshot) :=
  ⟨success, credit, authIndex, ok, rfl⟩

theorem attributionOk : letI := interpreter
    AttributionOk token (paymentTo payee) (paidOn 84532).chainId
      (lower (paymentTo payee).transactionHash) (paidWindow mockAnvil 84532).point receipt
      (paidWindow mockAnvil 84532).snapshot (paidWindow mockAnvil 84532).race
      (paidWindow mockAnvil 84532).attribution := by
  let := interpreter
  have payerShape : isExactHex 40 (paymentTo payee).payer = true := isExactHex_hexAddress _
  have payeeShape : isExactHex 40 (paymentTo payee).payee = true := isExactHex_hexAddress _
  have ok := transferOk_served (@readable_paidOn mockAnvil 84532 suited_mockAnvil rfl) payerShape
    payeeShape moved_paid
  apply attributionOk_of_transferOk rfl
  refine ⟨?_, ok.asset, ok.standing, ok.txHash, ok.blockHash, ok.blockNumber, ok.payer, ok.payee,
    ok.consumed, ok.race, ok.debited, ok.received⟩
  have first : ∀ ofBlock tx : Word,
      hasLogIndex (paymentTo payee).logIndex (logJson 1 ofBlock tx 0 authorization) = false :=
    fun _ _ => @hasLogIndex_logJson _ _ _ _ _ 1
  have second : ∀ ofBlock tx : Word, hasLogIndex (paymentTo payee).logIndex
      (logJson 1 ofBlock tx 0 (transfer payer payee 100 1)) = true :=
    fun _ _ => @hasLogIndex_logJson _ _ _ _ _ 1
  refine ⟨_, rfl, ⟨logJson 1 _ _ 0 (transfer payer payee 100 1), ?_,
    decodesTo_logJson (Nat.succ_pos _) moved_paid.number_lt (by norm_num [transfer]) payerShape
      payeeShape moved_paid.emitter moved_paid.topics moved_paid.data⟩,
    logJson 1 (settlement payee [] paid).hash 0x1002 0 authorization, ?_, rfl, quantityAt_pyHex rfl⟩
  · simp only [List.filter_cons, first, second, List.filter_nil, Bool.false_eq_true, if_false,
      if_true]
  · simp only [List.filter_cons, isTokenLog_logs, List.filter_nil, Bool.false_eq_true, if_false,
      if_true]

theorem accepted : letI := interpreter
    window.Accepted token mockAnvil (paymentTo payee) := by
  let := interpreter
  have base := @accepted_paidWindow mockAnvil 84532 suited_mockAnvil rfl
  have readable := @readable_paidOn mockAnvil 84532 suited_mockAnvil rfl
  constructor
  · exact base.arguments
  · exact base.chainShape
  · exact base.liveChain
  · exact base.chain_eq
  · exact base.calibrated
  · exact base.anchor
  · exact base.finality
  · constructor
    · exact receiptShape
    · rw [readable.txHash_eq]
      exact hashAt_hexWord rfl
    · exact quantityAt_pyHex rfl
    · exact hashAt_hexWord rfl
    · exact quantityAt_pyHex rfl
    · exact base.point.confirmations
    · exact base.point.deep
  · exact base.canonical
  · exact base.code
  · exact base.expectedCode
  · exact base.implementation
  · exact base.snapshot
  · exact attributionOk
  · exact base.recheck

end Foreign

open Node Node.Sample in
/-- A receipt whose authorization log names another transaction leads to a positive verdict. -/
theorem foreign_authorization : letI := interpreter
    ∃ (world : World) (said : Conversation) (result : LiveReconciliation) (receipt : Fields),
      Returns world (reconcileLive token mockAnvil (paymentTo payee) true) () [] result () said ∧
      result.evidence.receiptStatus = 1 ∧ firstObject asksReceipt said = some receipt ∧
      ¬OneTransaction token (paymentTo payee) result.evidence receipt := by
  let := interpreter
  rcases Foreign.accepted.returns true (served (paidOn 84532)) () with ⟨_, _, returned⟩
  have first := @firstReceipt_transcript _ token mockAnvil (paymentTo payee) Foreign.window []
  rw [List.append_nil] at first
  refine ⟨_, _, _, Foreign.window.receipt, returned, rfl, first, ?_⟩
  intro one
  rcases one.authorization with ⟨logs, log, _, logged, _, found, _, bound⟩
  have isLogs : logs = [logJson 1 0x11 0x1002 0 authorization,
      logJson 1 0x11 txHash 0 (transfer payer payee 100 1)] := logs_unique logged rfl
  have chosen : logJson 1 (0x11 : Word) 0x1002 0 authorization ∈
      logs.filter (isTokenLog token.address (authorizationTopics (paymentTo payee))) := by
    rw [isLogs, List.mem_filter]
    exact ⟨List.mem_cons_self, (Foreign.isTokenLog_logs 0x11 0x1002).1⟩
  rw [found, List.mem_singleton] at chosen
  rcases bound.transaction with ⟨text, is, _, same⟩
  rw [← chosen] at is
  cases is
  revert same
  decide +kernel

end Verdict

end Psv
