import Psv.Verdict.Complete
import Psv.Verdict.Unspent

/-!
# Verdicts and what the token has executed

The logs of the token in a receipt are the events of the call that the transaction
made, so evidence of a success leads back to a call that the token executed: it had
verified a signature of the payer on this transfer (`funds_authorized`).  Used
authorizations stay used, so a verdict without funds says that no call for the
authorization was executed up to the settlement block (`unpaid_iff_unexecuted`).
-/

namespace Psv

open Python Interaction Program RpcClient Anvil Chain Rails Node

namespace Onchain

section

variable [Cryptography] {surroundings : Surroundings} {state after : State}
  {transactions : List Transaction}

/-! ### Events and calls -/

omit [Cryptography] in
theorem topicAuthorizationUsed_ne : readWord topicTransfer ≠ readWord topicAuthorizationUsed ∧
    readWord topicTransferV2 ≠ readWord topicAuthorizationUsed := by
  decide +kernel

omit [Cryptography] in
/-- The topics of a used authorization name it. -/
theorem used_of_topics {event : Event} {who : Address} {nonce : Word}
    (topics : usedTopics who nonce = event.topics) : event = .authorizationUsed who nonce := by
  cases event with
  | authorizationUsed authorizer other =>
    simp only [Event.topics, usedTopics, List.cons.injEq, and_true, true_and] at topics
    rw [setWidth_injective topics.1, topics.2]
  | transfer =>
    simp [Event.topics, usedTopics, transferTopics, topicAuthorizationUsed_ne.1.symm] at topics
  | transferV2 =>
    simp [Event.topics, usedTopics, topicAuthorizationUsed_ne.2.symm] at topics
  | eventModeChanged => simp [Event.topics, usedTopics] at topics
  | feeBpsChanged => simp [Event.topics, usedTopics] at topics

omit [Cryptography] in
/-- The topics and the data of a transfer name it. -/
theorem transfer_of_topics {event : Event} {payer payee : Address} {value : Word}
    (topics : transferTopics payer payee = event.topics) (data : wordData value = event.data) :
    event = .transfer payer payee value := by
  cases event with
  | transfer fromAddr toAddr other =>
    simp only [Event.topics, transferTopics, List.cons.injEq, and_true, true_and] at topics
    have same : hexWord value.toNat = hexWord other.toNat := by
      rw [← hexData_wordData, ← hexData_wordData, data]
      rfl
    rw [setWidth_injective topics.1, setWidth_injective topics.2, hexWord_injective same]
  | authorizationUsed =>
    simp [Event.topics, usedTopics, transferTopics, topicTransfer_ne.2.symm] at topics
  | transferV2 => simp [Event.topics, transferTopics, topicTransfer_ne.1.symm] at topics
  | eventModeChanged => simp [Event.topics, transferTopics] at topics
  | feeBpsChanged => simp [Event.topics, transferTopics] at topics

/-- Only the execution of an authorization reports one as used. -/
theorem call_of_used {message : Message} {call : Call} {events : List Event} {who : Address}
    {nonce : Word} (done : execute message state call = .ok (after, events))
    (reported : .authorizationUsed who nonce ∈ events) :
    ∃ authorization, call = .transferWithAuthorization authorization ∧
      authorization.fromAddr = who ∧ authorization.nonce = nonce := by
  cases call with
  | setEventMode mode =>
    simp only [execute, setEventMode, Checks.bind_eq_ok_iff] at done
    rcases done with ⟨_, _, _, _, same⟩
    cases same
    simp at reported
  | setFeeBps bps =>
    simp only [execute, setFeeBps, Checks.bind_eq_ok_iff] at done
    rcases done with ⟨_, _, _, _, same⟩
    cases same
    simp at reported
  | mint receiver amount =>
    simp only [execute, mint, Checks.bind_eq_ok_iff] at done
    rcases done with ⟨_, _, _, _, same⟩
    cases same
    simp at reported
  | transferWithAuthorization authorization =>
    rw [execute] at done
    rw [(transfer_ok done).2.2.2.2.2, transferEvents] at reported
    split_ifs at reported <;> simp at reported
    · exact ⟨authorization, rfl, reported.1.symm, reported.2.symm⟩
    · exact ⟨authorization, rfl, reported.1.symm, reported.2.symm⟩

omit [Cryptography] in
theorem transfer_mem_events {authorization : Authorization} {fromAddr toAddr : Address}
    {value : Word} (reported : .transfer fromAddr toAddr value ∈
      transferEvents state authorization) :
    authorization.toAddr = toAddr ∧ authorization.value = value := by
  rw [transferEvents] at reported
  split_ifs at reported <;> simp at reported
  exact ⟨reported.2.1.symm, reported.2.2.symm⟩

/-! ### Receipts and transactions -/

/-- Every receipt is that of a transaction, executed after the ones in front of it. -/
theorem receipts_split {first : ℕ} {receipt : Receipt}
    (listed : receipt ∈ receipts surroundings state first transactions) :
    ∃ front transaction back, transactions = front ++ transaction :: back ∧
      receipt.txHash = transaction.hash ∧
      ∃ position, receipt.logs = number position
        (transaction.execute surroundings (afterAll surroundings state front)).emissions := by
  induction transactions generalizing state first with
  | nil => cases listed
  | cons transaction transactions ih =>
    rcases List.mem_cons.mp listed with rfl | later
    · exact ⟨[], transaction, transactions, rfl, rfl, first, rfl⟩
    · rcases ih later with ⟨front, found, back, rfl, same, logs⟩
      exact ⟨transaction :: front, found, back, rfl, same, logs⟩

/-- A log of the token is an event of the call that the transaction made. -/
theorem event_of_log {transaction : Transaction} {position : ℕ} {log : Log}
    (foreign : transaction.action.Foreign surroundings.contract)
    (mem : log ∈ number position (transaction.execute surroundings state).emissions)
    (own : log.emitter = surroundings.contract) :
    ∃ sender call next events, transaction.action = .token sender call ∧
      execute (surroundings.message sender) state call = .ok (next, events) ∧
      ∃ event ∈ events, log.topics = event.topics ∧ log.data = event.data := by
  have emission := mem_number mem
  rcases transaction with ⟨hash, action⟩
  cases action with
  | other success emissions =>
    rw [Transaction.execute] at emission
    dsimp only at emission
    split_ifs at emission
    · exact absurd own (foreign _ emission)
    · cases emission
  | token sender call =>
    rw [Transaction.execute] at emission
    dsimp only at emission
    cases done : execute (surroundings.message sender) state call with
    | error _ =>
      rw [done] at emission
      cases emission
    | ok result =>
      rw [done] at emission
      rcases List.mem_map.mp emission with ⟨event, listed, same⟩
      refine ⟨sender, call, result.1, result.2, rfl, done, event, listed, ?_, ?_⟩
      · exact (congrArg Emission.topics same).symm
      · exact (congrArg Emission.data same).symm

end

/-! ### Executed authorizations -/

section

variable [Cryptography] {chain : Node.Chain} {contract deployer : Address} {start : ℕ}
  {states : ℕ → State} {transactions : ℕ → List Transaction} {number : ℕ} {block : Block}
  {transaction : Transaction} {authorization : Authorization}

/-- The token has executed the authorization in this block; it had recovered the payer from the
signature. -/
structure Executed (chain : Node.Chain) (contract : Address) (states : ℕ → State)
    (transactions : ℕ → List Transaction) (number : ℕ) (block : Block)
    (transaction : Transaction) (authorization : Authorization) : Prop where
  found : chain.blocks[number]? = some block
  call : ∃ front back sender after events, transactions number = front ++ transaction :: back ∧
    transaction.action = .token sender (.transferWithAuthorization authorization) ∧
    transferWithAuthorization ((surroundingsOf chain contract block).message sender)
      (afterAll (surroundingsOf chain contract block) (states (number - 1)) front)
      authorization = .ok (after, events) ∧
    recover (authorizationDigest ((surroundingsOf chain contract block).message sender)
      authorization) authorization.signature = .ok authorization.fromAddr

/-- No log of the token is older than its first state. -/
def Unlogged (chain : Node.Chain) (contract : Address) (start : ℕ) : Prop :=
  ∀ number ≤ start, ∀ block, chain.blocks[number]? = some block →
    ∀ receipt ∈ block.receipts, ∀ log ∈ receipt.logs, log.emitter ≠ contract

theorem recovers_of_ok {message : Message} {state : State}
    (checked : checkAuthorization message state authorization = .ok ()) :
    recover (authorizationDigest message authorization) authorization.signature =
      .ok authorization.fromAddr := by
  simp only [checkAuthorization, Checks.bind_eq_ok_iff, require_eq_ok_iff, exists_const] at checked
  rcases checked with ⟨_, _, _, _, _, signer, recovered, _, same⟩
  rw [recovered, same]

/-- After the block of an executed authorization it is used, in every later block too. -/
theorem Executed.used {later : ℕ} {block' : Block}
    (past : Deployment chain contract deployer start states transactions)
    (executed : Executed chain contract states transactions number block transaction
      authorization) (reached : start < number) (order : number ≤ later)
    (found : chain.blocks[later]? = some block') :
    (states later).authorizationState authorization.fromAddr authorization.nonce = true := by
  induction later, order using Nat.le_induction generalizing block' with
  | base =>
    rcases executed.call with ⟨front, back, sender, after, events, split, isCall, done, _⟩
    rw [(past.next number block reached executed.found).2, split, afterAll_append]
    change (afterAll _ (transaction.execute _ _).state back).authorizationState _ _ = true
    rw [Transaction.execute, isCall]
    dsimp only
    rw [execute, done]
    exact afterAll_used (transfer_used done)
  | succ later order ih =>
    have inside : later < chain.blocks.length := by
      have := (List.getElem?_eq_some_iff.mp found).1
      omega
    rw [(past.next (later + 1) block' (by omega) found).2, Nat.add_sub_cancel]
    exact afterAll_used (ih (List.getElem?_eq_getElem inside))

/-- A transaction with the logs of a settlement has executed the authorization. -/
theorem executed_of_logs {position : ℕ} {receipt : Receipt} {transfer used : Log}
    {payer payee : Address} {nonce value : Word}
    (past : Deployment chain contract deployer start states transactions)
    (unlogged : Unlogged chain contract start)
    (mined : chain.Mined number block position receipt) (listed : transfer ∈ receipt.logs)
    (own : transfer.emitter = contract) (topics : transfer.topics = transferTopics payer payee)
    (data : transfer.data = wordData value) (usedListed : used ∈ receipt.logs)
    (usedOwn : used.emitter = contract) (usedTopics_eq : used.topics = usedTopics payer nonce) :
    start < number ∧ ∃ transaction authorization, transaction.hash = receipt.txHash ∧
      Executed chain contract states transactions number block transaction authorization ∧
      authorization.fromAddr = payer ∧ authorization.toAddr = payee ∧
      authorization.value = value ∧ authorization.nonce = nonce := by
  have here := List.mem_of_getElem? mined.inBlock
  have reached : start < number := by
    by_contra early
    exact unlogged number (by omega) block mined.inChain receipt here transfer listed own
  have executes := (past.next number block reached mined.inChain).1
  rw [executes.receipts] at here
  rcases receipts_split here with ⟨front, transaction, back, split, hash, first, logs⟩
  have foreign := executes.foreign transaction (by simp [split])
  rw [logs] at listed usedListed
  rcases event_of_log foreign usedListed usedOwn with
    ⟨sender, call, next, events, isCall, done, event, reported, same, _⟩
  rw [usedTopics_eq] at same
  rw [used_of_topics same] at reported
  rcases call_of_used done reported with ⟨authorization, rfl, isPayer, isNonce⟩
  rcases event_of_log foreign listed own with
    ⟨sender', call', next', events', isCall', done', event', reported', same', sameData⟩
  rw [isCall] at isCall'
  cases isCall'
  rw [done] at done'
  cases done'
  rw [topics] at same'
  rw [data] at sameData
  rw [transfer_of_topics same' sameData] at reported'
  rw [execute] at done
  have ok := transfer_ok done
  rw [ok.2.2.2.2.2] at reported'
  rcases transfer_mem_events reported' with ⟨isPayee, isValue⟩
  exact ⟨reached, transaction, authorization, hash.symm, ⟨mined.inChain, front, back, sender, next,
    events, split, isCall, done, recovers_of_ok ok.1⟩, isPayer, isPayee, isValue, isNonce⟩

/-! ### Verdicts -/

section

variable [Interpreter] {σ : Type} {world : World} {token : TokenView} {rail : RailConfig}
  {payment : Payment} {believes : Bool} {first last : σ} {history said : Conversation}
  {result : LiveReconciliation}

omit [Cryptography] [Interpreter] in
theorem grade_unpaid_iff {moved believes short : Bool} :
    (grade moved believes short = .phantomCredit ∨
      grade moved believes short = .consistentUnpaid) ↔ moved = false := by
  cases moved <;> cases believes <;> cases short <;> simp [grade]

/-- A verdict that says that funds have moved leads back to an authorization that the token has
executed: of this payer, for this receiver, the reported value and this nonce. -/
theorem funds_authorized (honest : HonestWorld chain world)
    (past : Deployment chain (readAddress token.address) deployer start states transactions)
    (unlogged : Unlogged chain (readAddress token.address) start)
    (returned : Returns world (reconcileLive token rail payment believes) first history result last
      said)
    (funds : ¬(result.divergence.kind = .phantomCredit ∨
      result.divergence.kind = .consistentUnpaid)) :
    ∃ number block transaction authorization, start < number ∧
      Executed chain (readAddress token.address) states transactions number block transaction
        authorization ∧
      result.evidence.settlementBlockNumber = number ∧
      result.evidence.settlementBlockHash = hexWord block.hash.toNat ∧
      transaction.hash = readWord payment.transactionHash ∧
      authorization.fromAddr = readAddress payment.payer ∧
      authorization.toAddr = readAddress payment.payee ∧
      result.evidence.eventValue = some (authorization.value.toNat : ℤ) ∧
      authorization.nonce = readWord payment.nonce := by
  obtain ⟨_, _, follows, replays⟩ := returns_iff.mp returned
  obtain ⟨_, window, accepted, rfl, evidence, detected⟩ := replays_reconcileLive_ok_iff.mp replays
  obtain ⟨_, block, position, receipt, mined, _, evidenceOf⟩ :=
    evidenceOf_chain accepted (honest.entry follows)
  rw [(accepted.graded detected).1, grade_unpaid_iff, Bool.not_eq_false,
    decide_eq_true_eq] at funds
  have status : (window.evidence token rail payment).receiptStatus = 1 :=
    congrArg Nat.cast funds
  have success : receipt.success = true := by
    by_contra failed
    rw [evidenceOf.status, if_neg failed] at status
    cases status
  rcases evidenceOf.event success with ⟨transfer, used, value, event⟩
  rcases executed_of_logs past unlogged mined event.listed event.emitter event.topics event.data
    event.authorized event.byToken event.used with
    ⟨reached, transaction, authorization, hash, executed, isPayer, isPayee, isValue, isNonce⟩
  rw [evidence]
  refine ⟨window.point.number, block, transaction, authorization, reached, executed,
    evidenceOf.number, evidenceOf.hash, hash.trans evidenceOf.transaction, isPayer, isPayee, ?_,
    isNonce⟩
  rw [isValue]
  exact event.eventValue

/-- A verdict says that no funds have moved exactly when the token has not executed the
authorization up to the settlement block. -/
theorem unpaid_iff_unexecuted (honest : HonestWorld chain world)
    (past : Deployment chain (readAddress token.address) deployer start states transactions)
    (unlogged : Unlogged chain (readAddress token.address) start)
    (returned : Returns world (reconcileLive token rail payment believes) first history result last
      said) :
    (result.divergence.kind = .phantomCredit ∨ result.divergence.kind = .consistentUnpaid) ↔
      ∀ (number : ℕ) block transaction authorization, start < number →
        number ≤ result.evidence.settlementBlockNumber →
        Executed chain (readAddress token.address) states transactions number block transaction
          authorization →
        authorization.fromAddr = readAddress payment.payer →
        authorization.nonce ≠ readWord payment.nonce := by
  constructor
  · intro unpaid number block transaction authorization reached order executed isPayer isNonce
    obtain ⟨_, _, follows, replays⟩ := returns_iff.mp returned
    obtain ⟨_, window, accepted, rfl, evidence, detected⟩ :=
      replays_reconcileLive_ok_iff.mp replays
    obtain ⟨_, found, _, receipt, mined, _, evidenceOf⟩ :=
      evidenceOf_chain accepted (honest.entry follows)
    rw [(accepted.graded detected).1, grade_unpaid_iff, decide_eq_false_iff_not] at unpaid
    rw [evidence, evidenceOf.number] at order
    have below : number ≤ window.point.number := by exact_mod_cast order
    have used := executed.used past reached below mined.inChain
    rw [isPayer, isNonce] at used
    have attribution := accepted.attribution
    cases raced : window.race with
    | none =>
      rw [raced] at attribution
      have unused : found.post.used (readAddress token.address) (readAddress payment.payer)
          (readWord payment.nonce) = false := by
        rw [← evidenceOf.nonce]
        exact attribution.2.1
      rw [(past.shows mined.inChain (by omega)).used, used] at unused
      cases unused
    | some lists =>
      rw [raced] at attribution
      exact unpaid attribution.1
  · intro unexecuted
    by_contra funds
    rcases funds_authorized honest past unlogged returned funds with
      ⟨number, block, transaction, authorization, reached, executed, isNumber, _, _, isPayer, _, _,
        isNonce⟩
    exact unexecuted number block transaction authorization reached isNumber.ge executed isPayer
      isNonce

end

end

open Node.Sample Sample in
theorem unlogged_sample : Unlogged Sample.chain target 0 := by
  intro number early block found receipt listed
  obtain rfl := Nat.le_zero.mp early
  cases found
  cases listed

open Node.Sample Sample in
/-- The credit of the sample leads back to the transaction that pays. -/
theorem funds_authorized_paying : letI := cryptography
    ∃ number block transaction authorization,
      Executed Sample.chain target Sample.states Sample.transactions number block transaction
        authorization ∧
      transaction.hash = txHash ∧ authorization.fromAddr = payer ∧
      authorization.toAddr = payee := by
  let := interpreter
  let := cryptography
  rcases returns_paying with ⟨result, said, returned, short, kind⟩
  have funds : ¬(result.divergence.kind = .phantomCredit ∨
      result.divergence.kind = .consistentUnpaid) := by
    rw [kind, grade_unpaid_iff]
    decide
  rcases funds_authorized (honestWorld_served _) Sample.deployment unlogged_sample returned funds
    with ⟨number, block, transaction, authorization, _, executed, _, _, hash, isPayer, isPayee, _⟩
  refine ⟨number, block, transaction, authorization, executed, hash.trans (readWord_hexWord _),
    isPayer.trans (readAddress_hexAddress _), isPayee.trans (readAddress_hexAddress _)⟩

open Node.Sample Sample in
/-- So the token has executed an authorization up to the block of the sample. -/
theorem unpaid_iff_unexecuted_paying : letI := interpreter
    letI := cryptography
    ∃ result said, Returns (served Sample.chain)
        (reconcileLive token mockAnvil (paymentTo payee) true) () [] result () said ∧
      ¬∀ (number : ℕ) block transaction authorization, 0 < number →
        number ≤ result.evidence.settlementBlockNumber →
        Executed Sample.chain target Sample.states Sample.transactions number block transaction
          authorization →
        authorization.fromAddr = payer → authorization.nonce ≠ nonce := by
  let := interpreter
  let := cryptography
  rcases returns_paying with ⟨result, said, returned, short, kind⟩
  refine ⟨result, said, returned, ?_⟩
  intro unexecuted
  have unpaid := (unpaid_iff_unexecuted (honestWorld_served _) Sample.deployment unlogged_sample
    returned).mpr (by
      intro number block transaction authorization reached order executed isPayer isNonce
      exact unexecuted number block transaction authorization reached order executed
        (isPayer.trans (readAddress_hexAddress _)) (isNonce.trans (readWord_hexWord _)))
  rw [kind, grade_unpaid_iff] at unpaid
  cases unpaid

end Onchain

end Psv
