import Psv.Sut.Submission

/-!
# What the operations do to the ledger

Every operation of the reference service is inverted once: what it asked, what
it answered and how it changed the ledger.  `pay` changes at most the order it is
about, by a change that depends on how far the settlement came; `quote` and
`reconcile` book orders, and the backups replace the ledger as a whole.
-/

namespace Psv

open Python Interaction Program Chain RpcClient Reconciliation Confirmer

/-! ### The changes of an order -/

namespace Order

/-- Nothing is waited for any more. -/
def resolved (order : Order) : Order :=
  { order with pendingTx := none, pendingAuthorization := none }

/-- The settlement is waited for. -/
def waiting (txHash : Str) (authorization : Fields) (order : Order) : Order :=
  { order with pendingTx := some txHash, pendingAuthorization := some authorization }

/-- The settlement is confirmed and the resource released. -/
def released (order : Order) : Order :=
  { order.resolved with
    paid := true
    resource := some ("premium-content::".toList ++ order.orderId) }

/-- The settlement is booked. -/
def booked (identity : SettlementIdentity) (order : Order) : Order :=
  { order.released with settlementIdentity := some identity }

/-- A submission is attempted. -/
def attempted (nonce : Str) (order : Order) : Order :=
  { order with nonceSeen := some nonce, settleAttempts := order.settleAttempts + 1 }

/-- The settlement is broadcast. -/
def submitted (txHash : Str) (order : Order) : Order := { order with submittedTx := some txHash }

/-- What no payment changes. -/
structure SameQuote (order changed : Order) : Prop where
  orderId : changed.orderId = order.orderId
  amount : changed.amount = order.amount
  expiresAt : changed.expiresAt = order.expiresAt
  quotedFairPrice : changed.quotedFairPrice = order.quotedFairPrice
  createdBlock : changed.createdBlock = order.createdBlock
  recovered : changed.recovered = order.recovered

end Order

namespace ReferenceSut

variable [Interpreter]

/-! ### Programs that leave the ledger alone -/

section Reading

variable {σ : Type} {sut : ReferenceSut} {authorization : Fields}

omit [Interpreter] in
theorem stateless_call {method : String} {params : List Value} :
    (call method params : Proc σ Value).Stateless :=
  (stateless_question _).bind fun _ => stateless_lift _

theorem stateless_getLogs {token : Str} {topics : List (Option Str)} {fromBlock toBlock : BlockId} :
    (getLogs token topics fromBlock toBlock : Proc σ (List Fields)).Stateless :=
  (stateless_lift _).bind fun _ => stateless_call.bind fun _ => stateless_lift _

theorem stateless_pollReceipt {txHash : Str} {tries : ℤ} (left : ℕ) :
    (pollReceipt txHash tries left : Proc σ Fields).Stateless := by
  induction left with
  | zero => trivial
  | succ left ih =>
    rw [pollReceipt]
    apply stateless_call.bind
    intro receipt
    cases receipt with
    | null => exact ih
    | _ => exact stateless_lift _

theorem stateless_waitForReceipt {txHash : Str} {tries : ℤ} :
    (waitForReceipt txHash tries : Proc σ Fields).Stateless :=
  (stateless_lift _).bind fun _ => (stateless_lift _).bind fun _ => stateless_pollReceipt _

theorem stateless_prepareSettlement :
    (sut.prepareSettlement authorization : Proc σ Transaction).Stateless := by
  have policy : (sut.requireSafe authorization : Proc σ Unit).Stateless := by
    unfold requireSafe Safety.requireSafeSubmission getCode
    refine (stateless_lift _).bind fun _ => (stateless_lift _).bind fun _ =>
      (stateless_lift _).bind fun _ => (stateless_lift _).bind fun _ => stateless_call.bind fun _ =>
      (stateless_lift _).bind fun _ => Stateless.bind ?_ fun _ => stateless_lift _
    exact (stateless_lift _).bind fun _ => stateless_call.bind fun _ => stateless_lift _
  have price : (gasPrice : Proc σ ℤ).Stateless := by
    apply Stateless.handle
    · exact stateless_call.bind fun _ => stateless_lift _
    · intro error
      cases error <;> trivial
  exact policy.bind fun _ => (stateless_lift _).bind fun _ => stateless_call.bind fun _ =>
    (stateless_lift _).bind fun _ => price.bind fun _ => trivial

theorem stateless_submitSettlement :
    (sut.submitSettlement authorization : Proc σ Str).Stateless := by
  rw [submitSettlement, signSettlement_eq]
  apply Stateless.bind
  · exact stateless_prepareSettlement.bind fun _ => (stateless_question _).bind fun _ =>
      stateless_lift _
  · exact fun _ => (stateless_lift _).bind fun _ => stateless_call.bind fun _ => stateless_lift _

theorem stateless_confirmer {settlement : Settlement} {receipt : Option Fields} :
    (confirmer.settlementLogIndex settlement receipt : Proc σ (Option ℤ)).Stateless := by
  rw [EventWatchingConfirmer.settlementLogIndex.eq_def]
  cases receipt with
  | none => trivial
  | some fields =>
    dsimp only
    cases minedIn settlement fields with
    | none => trivial
    | some blockNumber => exact stateless_getLogs.bind fun _ => trivial

end Reading

/-! ### A judged receipt -/

section Paying

variable (sut : ReferenceSut)

/-- The settlement that the confirmer looks for. -/
def settlementFor (order : Order) (authorization : Fields) (txHash : Str) :
    Except PyError Settlement := do
  let payer ← textItem authorization "from"
  let nonce ← textItem authorization "nonce"
  return ⟨sut.config.tokenAddress, payer, sut.config.merchantAddress, order.amount, nonce, txHash,
    order.createdBlock⟩

/-- The answer of the confirmer about a settlement. -/
def Watched (settlement : Settlement) (receipt : Option Fields) (said : Conversation)
    (result : Except PyError (Option ℤ)) : Prop :=
  Tells (confirmer.settlementLogIndex settlement receipt : Proc SutState (Option ℤ)) said result

/-- A judgment: what was asked, what is answered and what becomes of the order. -/
inductive Judged (order : Order) (authorization : Fields) (txHash : Str)
    (receipt : Option Fields) :
    Conversation → Except PyError PayResponse → (Order → Order) → Prop
  | unread {error : PyError}
      (unread : sut.settlementFor order authorization txHash = .error error) :
      Judged order authorization txHash receipt [] (.error error) Order.resolved
  | failed {settlement : Settlement} {said : Conversation} {error : PyError}
      (read : sut.settlementFor order authorization txHash = .ok settlement)
      (watched : Watched settlement receipt said (.error error)) :
      Judged order authorization txHash receipt said (.error error) Order.resolved
  | unsettled {settlement : Settlement} {said : Conversation}
      (read : sut.settlementFor order authorization txHash = .ok settlement)
      (watched : Watched settlement receipt said (.ok none)) :
      Judged order authorization txHash receipt said
        (.ok (.judged order.orderId txHash false)) Order.resolved
  | unidentified {settlement : Settlement} {said : Conversation} {logIndex : ℤ} {error : PyError}
      (read : sut.settlementFor order authorization txHash = .ok settlement)
      (watched : Watched settlement receipt said (.ok (some logIndex)))
      (refused : settlementIdentity sut.config.chainId sut.config.tokenAddress txHash logIndex =
        .error error) :
      Judged order authorization txHash receipt said (.error error) Order.released
  | settled {settlement : Settlement} {said : Conversation} {logIndex : ℤ}
      {identity : SettlementIdentity}
      (read : sut.settlementFor order authorization txHash = .ok settlement)
      (watched : Watched settlement receipt said (.ok (some logIndex)))
      (identified : settlementIdentity sut.config.chainId sut.config.tokenAddress txHash logIndex =
        .ok identity) :
      Judged order authorization txHash receipt said (.ok (.judged order.orderId txHash true))
        (Order.booked identity)

/-- The ledger after an order was changed. -/
def alterOrder (state : SutState) (orderId : Str) (change : Order → Order) : SutState :=
  { state with orders := state.orders.alter orderId change }

variable {sut} {order : Order} {authorization : Fields} {txHash : Str}
  {state finalState : SutState} {said : Conversation} {result : Except PyError PayResponse}

/-- The judgment with the reading of the authorization in one piece. -/
theorem judge_eq {receipt : Option Fields} :
    sut.judge order authorization txHash receipt = (do
      changeOrder order.orderId Order.resolved
      let settlement ← lift (sut.settlementFor order authorization txHash)
      let logIndex ← confirmer.settlementLogIndex settlement receipt
      match logIndex with
      | none => return .judged order.orderId txHash false
      | some logIndex => do
          changeOrder order.orderId fun order =>
            { order with
              paid := true
              resource := some ("premium-content::".toList ++ order.orderId) }
          let identity ← lift (settlementIdentity sut.config.chainId sut.config.tokenAddress
            txHash logIndex)
          changeOrder order.orderId fun order => { order with settlementIdentity := some identity }
          return .judged order.orderId txHash true) := by
  rw [judge, settlementFor]
  cases textItem authorization "from" with
  | error error => rfl
  | ok payer =>
    cases textItem authorization "nonce" with
    | error error => rfl
    | ok nonce => rfl

omit [Interpreter] in
theorem alterOrder_alterOrder {orderId : Str} {change later : Order → Order} :
    alterOrder (alterOrder state orderId change) orderId later =
      alterOrder state orderId fun order => later (change order) :=
  congrArg (fun orders => { state with orders := orders }) (Dict.alter_alter later)

/-- What a judgment can do. -/
theorem judge_replays_iff {receipt : Option Fields} :
    (sut.judge order authorization txHash receipt).Replays state said result finalState ↔
      ∃ change, sut.Judged order authorization txHash receipt said result change ∧
        finalState = alterOrder state order.orderId change := by
  rw [judge_eq]
  refine replays_modify_bind_iff.trans (replays_lift_bind_iff.trans ?_)
  constructor
  · intro replays
    rcases replays with ⟨settlement, read, asked⟩ | ⟨error, unread, rfl, rfl, rfl⟩
    · rcases stateless_confirmer.bind_iff.mp asked with
        ⟨logIndex, first, second, rfl, watched, booked⟩ | ⟨error, rfl, failed, rfl⟩
      · cases logIndex with
        | none =>
          rcases replays_pure_iff.mp booked with ⟨rfl, rfl, rfl⟩
          rw [List.append_nil]
          exact ⟨_, .unsettled read watched, rfl⟩
        | some logIndex =>
          have released := replays_modify_bind_iff.mp booked
          rcases replays_lift_bind_iff.mp released with
            ⟨identity, identified, ends⟩ | ⟨error, refused, rfl, rfl, rfl⟩
          · rcases replays_modify_bind_iff.mp ends with ⟨rfl, rfl, rfl⟩
            rw [List.append_nil]
            refine ⟨_, .settled read watched identified, ?_⟩
            change alterOrder (alterOrder (alterOrder state _ _) _ _) _ _ = _
            rw [alterOrder_alterOrder, alterOrder_alterOrder]
            rfl
          · rw [List.append_nil]
            refine ⟨_, .unidentified read watched refused, ?_⟩
            change alterOrder (alterOrder state _ _) _ _ = _
            rw [alterOrder_alterOrder]
            rfl
      · exact ⟨_, .failed read failed, rfl⟩
    · exact ⟨_, .unread unread, rfl⟩
  · intro judged
    rcases judged with ⟨change, judged, rfl⟩
    cases judged with
    | unread unread => exact Or.inr ⟨_, unread, rfl, rfl, rfl⟩
    | failed read watched =>
      exact Or.inl ⟨_, read, stateless_confirmer.bind_iff.mpr (Or.inr ⟨_, rfl, watched, rfl⟩)⟩
    | @unsettled settlement said read watched =>
      refine Or.inl ⟨_, read, stateless_confirmer.bind_iff.mpr (Or.inl ⟨none, said, [], ?_, watched,
        replays_pure_iff.mpr ⟨rfl, rfl, rfl⟩⟩)⟩
      exact (List.append_nil said).symm
    | @unidentified settlement said logIndex error read watched refused =>
      refine Or.inl ⟨_, read, stateless_confirmer.bind_iff.mpr (Or.inl ⟨some logIndex, said, [], ?_,
        watched, replays_modify_bind_iff.mpr (replays_lift_bind_iff.mpr (Or.inr ⟨_, refused, rfl, rfl,
          ?_⟩))⟩)⟩
      · exact (List.append_nil said).symm
      · change _ = alterOrder (alterOrder state _ _) _ _
        rw [alterOrder_alterOrder]
        rfl
    | @settled settlement said logIndex identity read watched identified =>
      refine Or.inl ⟨_, read, stateless_confirmer.bind_iff.mpr (Or.inl ⟨some logIndex, said, [], ?_,
        watched, replays_modify_bind_iff.mpr (replays_lift_bind_iff.mpr (Or.inl ⟨_, identified,
          replays_modify_bind_iff.mpr (replays_pure_iff.mpr ⟨rfl, rfl, ?_⟩)⟩))⟩)⟩
      · exact (List.append_nil said).symm
      · change _ = alterOrder (alterOrder (alterOrder state _ _) _ _) _ _
        rw [alterOrder_alterOrder, alterOrder_alterOrder]
        rfl

/-! ### A confirmed settlement -/

/-- A confirmation: what was asked, what is answered and what becomes of the order. -/
inductive Confirmed (sut : ReferenceSut) (order : Order) (authorization : Fields) (txHash : Str) :
    Conversation → Except PyError PayResponse → (Order → Order) → Prop
  | unwatched {said : Conversation} {result : Except PyError PayResponse} {change : Order → Order}
      (hasty : sut.config.confirmWithoutWaiting = true)
      (judged : sut.Judged order authorization txHash none said result change) :
      Confirmed sut order authorization txHash said result change
  | mined {receipt : Fields} {waited said : Conversation} {result : Except PyError PayResponse}
      {change : Order → Order} (patient : sut.config.confirmWithoutWaiting = false)
      (obtained : Tells (waitForReceipt txHash sut.config.receiptTries : Proc SutState Fields)
        waited (.ok receipt))
      (judged : sut.Judged order authorization txHash (some receipt) said result change) :
      Confirmed sut order authorization txHash (waited ++ said) result change
  | pending {waited : Conversation} {error : PyError}
      (patient : sut.config.confirmWithoutWaiting = false)
      (failed : Tells (waitForReceipt txHash sut.config.receiptTries : Proc SutState Fields) waited
        (.error error)) (caught : error.isRpcError = true) :
      Confirmed sut order authorization txHash waited
        (.ok (.settlementPending order.orderId txHash)) (Order.waiting txHash authorization)
  | escaped {waited : Conversation} {error : PyError}
      (patient : sut.config.confirmWithoutWaiting = false)
      (failed : Tells (waitForReceipt txHash sut.config.receiptTries : Proc SutState Fields) waited
        (.error error)) (uncaught : error.isRpcError = false) :
      Confirmed sut order authorization txHash waited (.error error) id

omit [Interpreter] in
theorem alterOrder_id {orderId : Str} : alterOrder state orderId id = state :=
  congrArg (fun orders => { state with orders := orders }) (Dict.alter_eq_self fun _ _ => rfl)

/-- What a confirmation can do. -/
theorem confirm_replays_iff :
    (sut.confirm order authorization txHash).Replays state said result finalState ↔
      ∃ change, sut.Confirmed order authorization txHash said result change ∧
        finalState = alterOrder state order.orderId change := by
  rw [confirm]
  split_ifs with hasty
  · rw [judge_replays_iff]
    constructor
    · rintro ⟨change, judged, changed⟩
      exact ⟨change, .unwatched hasty judged, changed⟩
    · rintro ⟨change, confirmed, changed⟩
      cases confirmed with
      | unwatched _ judged => exact ⟨change, judged, changed⟩
      | mined patient => exact absurd (hasty.symm.trans patient) Bool.noConfusion
      | pending patient => exact absurd (hasty.symm.trans patient) Bool.noConfusion
      | escaped patient => exact absurd (hasty.symm.trans patient) Bool.noConfusion
  · have patient : sut.config.confirmWithoutWaiting = false := by simpa using hasty
    rw [stateless_waitForReceipt.attempt_bind_iff]
    constructor
    · rintro ⟨outcome, waited, later, rfl, asked, continues⟩
      cases outcome with
      | ok receipt =>
        rcases judge_replays_iff.mp continues with ⟨change, judged, changed⟩
        exact ⟨change, .mined patient asked judged, changed⟩
      | error error =>
        dsimp only at continues
        split_ifs at continues with caught
        · rcases replays_modify_bind_iff.mp continues with ⟨rfl, rfl, rfl⟩
          rw [List.append_nil]
          exact ⟨_, .pending patient asked caught, rfl⟩
        · rcases continues with ⟨rfl, rfl, rfl⟩
          rw [List.append_nil]
          exact ⟨_, .escaped patient asked (by simpa using caught), alterOrder_id.symm⟩
    · rintro ⟨change, confirmed, rfl⟩
      cases confirmed with
      | unwatched isHasty => exact absurd isHasty hasty
      | mined _ obtained judged =>
        exact ⟨_, _, _, rfl, obtained, judge_replays_iff.mpr ⟨change, judged, rfl⟩⟩
      | pending _ failed caught =>
        refine ⟨_, said, [], (List.append_nil said).symm, failed, ?_⟩
        dsimp only
        rw [if_pos caught]
        exact ⟨rfl, rfl, rfl⟩
      | escaped _ failed uncaught =>
        refine ⟨_, said, [], (List.append_nil said).symm, failed, ?_⟩
        dsimp only
        rw [if_neg (by simpa using uncaught), alterOrder_id]
        exact ⟨rfl, rfl, rfl⟩

/-! ### A payment -/

variable (sut) in
/-- An order that a payment may still settle. -/
structure Unsettled (state : SutState) (orderId : Str) (order : Order) : Prop where
  found : state.orders.lookup orderId = some order
  unsettled : ¬(order.paid = true ∧ sut.config.idempotentPay = true)

variable (sut) in
/-- A payment that passes the guards. -/
structure Admitted (state : SutState) (orderId : Str) (authorization : Fields) (order : Order)
    (now : ℤ) (nonce : Str) : Prop extends sut.Unsettled state orderId order where
  free : sut.inFlight order = none
  inTime : now ≤ order.expiresAt
  fresh : sut.isStale order state.fairPrice = .ok false
  read : textItem authorization "nonce" = .ok nonce

/-- A payment that ends before anything is written. -/
inductive Refused (sut : ReferenceSut) (state : SutState) (orderId : Str)
    (authorization : Fields) : Conversation → Except PyError PayResponse → Prop
  | unknown (missing : state.orders.lookup orderId = none) :
      Refused sut state orderId authorization [] (.ok (.refused orderId "unknown_order"))
  | alreadySettled {order : Order} (found : state.orders.lookup orderId = some order)
      (paid : order.paid = true) (idempotent : sut.config.idempotentPay = true) :
      Refused sut state orderId authorization []
        (.ok (.alreadySettled order.orderId order.submittedTx))
  | expired {order : Order} {now : Ask.Answer .clock}
      (open_ : sut.Unsettled state orderId order) (free : sut.inFlight order = none)
      (late : order.expiresAt < now.1) :
      Refused sut state orderId authorization [⟨Ask.clock, now⟩]
        (.ok (.refused order.orderId "quote_expired"))
  | unpriced {order : Order} {now : Ask.Answer .clock} {error : PyError}
      (open_ : sut.Unsettled state orderId order) (free : sut.inFlight order = none)
      (inTime : now.1 ≤ order.expiresAt)
      (failed : sut.isStale order state.fairPrice = .error error) :
      Refused sut state orderId authorization [⟨Ask.clock, now⟩] (.error error)
  | stale {order : Order} {now : Ask.Answer .clock}
      (open_ : sut.Unsettled state orderId order) (free : sut.inFlight order = none)
      (inTime : now.1 ≤ order.expiresAt)
      (isStale : sut.isStale order state.fairPrice = .ok true) :
      Refused sut state orderId authorization [⟨Ask.clock, now⟩]
        (.ok (.refused order.orderId "stale_quote"))
  | unnumbered {order : Order} {now : Ask.Answer .clock} {error : PyError}
      (open_ : sut.Unsettled state orderId order) (free : sut.inFlight order = none)
      (inTime : now.1 ≤ order.expiresAt)
      (fresh : sut.isStale order state.fairPrice = .ok false)
      (unread : textItem authorization "nonce" = .error error) :
      Refused sut state orderId authorization [⟨Ask.clock, now⟩] (.error error)

/-- A payment that changes its order: what was asked, what is answered and what becomes of the
order. -/
inductive Changes (sut : ReferenceSut) (state : SutState) (orderId : Str)
    (authorization : Fields) (order : Order) :
    Conversation → Except PyError PayResponse → (Order → Order) → Prop
  | retried {original : Fields} {txHash : Str} {said : Conversation}
      {result : Except PyError PayResponse} {change : Order → Order}
      (open_ : sut.Unsettled state orderId order)
      (inFlight : sut.inFlight order = some (original, txHash))
      (confirmed : sut.Confirmed order original txHash said result change) :
      Changes sut state orderId authorization order said result change
  | unsubmitted {now : Ask.Answer .clock} {nonce : Str} {said : Conversation} {error : PyError}
      (admitted : sut.Admitted state orderId authorization order now.1 nonce)
      (failed : Tells (sut.submitSettlement authorization : Proc SutState Str) said
        (.error error)) :
      Changes sut state orderId authorization order (⟨Ask.clock, now⟩ :: said) (.error error)
        (Order.attempted nonce)
  | submitted {now : Ask.Answer .clock} {nonce txHash : Str} {sent said : Conversation}
      {result : Except PyError PayResponse} {change : Order → Order}
      (admitted : sut.Admitted state orderId authorization order now.1 nonce)
      (broadcast : Tells (sut.submitSettlement authorization : Proc SutState Str) sent
        (.ok txHash))
      (confirmed : sut.Confirmed order authorization txHash said result change) :
      Changes sut state orderId authorization order (⟨Ask.clock, now⟩ :: (sent ++ said)) result
        fun order => change ((order.attempted nonce).submitted txHash)

/-- A payment: what was asked, what is answered and the state after it. -/
inductive Pays (sut : ReferenceSut) (state : SutState) (orderId : Str) (authorization : Fields) :
    Conversation → Except PyError PayResponse → SutState → Prop
  | refused {said : Conversation} {result : Except PyError PayResponse}
      (refused : sut.Refused state orderId authorization said result) :
      Pays sut state orderId authorization said result state
  | changed {order : Order} {said : Conversation} {result : Except PyError PayResponse}
      {change : Order → Order}
      (changes : sut.Changes state orderId authorization order said result change) :
      Pays sut state orderId authorization said result (alterOrder state order.orderId change)

theorem Changes.open_ {orderId : Str} {change : Order → Order}
    (changes : sut.Changes state orderId authorization order said result change) :
    sut.Unsettled state orderId order := by
  cases changes with
  | retried open_ => exact open_
  | unsubmitted admitted => exact admitted.toUnsettled
  | submitted admitted => exact admitted.toUnsettled

theorem Judged.same {receipt : Option Fields} {change : Order → Order}
    (judged : sut.Judged order authorization txHash receipt said result change) (given : Order) :
    given.SameQuote (change given) := by
  cases judged with
  | unread => exact ⟨rfl, rfl, rfl, rfl, rfl, rfl⟩
  | failed => exact ⟨rfl, rfl, rfl, rfl, rfl, rfl⟩
  | unsettled => exact ⟨rfl, rfl, rfl, rfl, rfl, rfl⟩
  | unidentified => exact ⟨rfl, rfl, rfl, rfl, rfl, rfl⟩
  | settled => exact ⟨rfl, rfl, rfl, rfl, rfl, rfl⟩

theorem Confirmed.same {change : Order → Order}
    (confirmed : sut.Confirmed order authorization txHash said result change) (given : Order) :
    given.SameQuote (change given) := by
  cases confirmed with
  | unwatched _ judged => exact judged.same given
  | mined _ _ judged => exact judged.same given
  | pending => exact ⟨rfl, rfl, rfl, rfl, rfl, rfl⟩
  | escaped => exact ⟨rfl, rfl, rfl, rfl, rfl, rfl⟩

/-- A payment leaves the quote of its order as it is. -/
theorem Changes.same {orderId : Str} {change : Order → Order}
    (changes : sut.Changes state orderId authorization order said result change) :
    order.SameQuote (change order) := by
  cases changes with
  | retried _ _ confirmed => exact confirmed.same order
  | unsubmitted => exact ⟨rfl, rfl, rfl, rfl, rfl, rfl⟩
  | @submitted _ nonce txHash _ _ _ _ _ _ confirmed =>
    have kept := confirmed.same ((order.attempted nonce).submitted txHash)
    exact ⟨kept.orderId, kept.amount, kept.expiresAt, kept.quotedFairPrice, kept.createdBlock,
      kept.recovered⟩

/-- A payment of an order that is not settled and that nothing is waited for. -/
theorem pay_replays_iff_settle {orderId : Str} (open_ : sut.Unsettled state orderId order)
    (free : sut.inFlight order = none) :
    (sut.pay orderId authorization).Replays state said result finalState ↔
      (sut.settle order authorization).Replays state said result finalState := by
  have unsettled : ¬(order.paid && sut.config.idempotentPay) = true := by
    rw [Bool.and_eq_true]
    exact open_.unsettled
  rw [pay, replays_state_bind_iff, open_.found]
  dsimp only
  rw [if_neg unsettled, free]

/-- A payment of an order that a settlement is waited for. -/
theorem pay_replays_iff_confirm {orderId : Str} {original : Fields}
    (open_ : sut.Unsettled state orderId order)
    (inFlight : sut.inFlight order = some (original, txHash)) :
    (sut.pay orderId authorization).Replays state said result finalState ↔
      (sut.confirm order original txHash).Replays state said result finalState := by
  have unsettled : ¬(order.paid && sut.config.idempotentPay) = true := by
    rw [Bool.and_eq_true]
    exact open_.unsettled
  rw [pay, replays_state_bind_iff, open_.found]
  dsimp only
  rw [if_neg unsettled, inFlight]

/-- What follows the guards. -/
def submitAndConfirm (sut : ReferenceSut) (order : Order) (authorization : Fields) :
    Proc SutState PayResponse := do
  let txHash ← sut.submitSettlement authorization
  changeOrder order.orderId fun order => { order with submittedTx := some txHash }
  sut.confirm order authorization txHash

theorem submitAndConfirm_replays_iff {nonce : Str} :
    (sut.submitAndConfirm order authorization).Replays
        (alterOrder state order.orderId (Order.attempted nonce)) said result finalState ↔
      (∃ txHash sent later change, said = sent ++ later ∧
          Tells (sut.submitSettlement authorization : Proc SutState Str) sent (.ok txHash) ∧
          sut.Confirmed order authorization txHash later result change ∧
          finalState = alterOrder state order.orderId fun order =>
            change ((order.attempted nonce).submitted txHash)) ∨
        ∃ error, result = .error error ∧
          Tells (sut.submitSettlement authorization : Proc SutState Str) said (.error error) ∧
          finalState = alterOrder state order.orderId (Order.attempted nonce) := by
  have twice : ∀ txHash change,
      alterOrder (alterOrder (alterOrder state order.orderId (Order.attempted nonce)) order.orderId
          (Order.submitted txHash)) order.orderId change =
        alterOrder state order.orderId fun order =>
          change ((order.attempted nonce).submitted txHash) := by
    intro txHash change
    rw [alterOrder_alterOrder, alterOrder_alterOrder]
  rw [submitAndConfirm, stateless_submitSettlement.bind_iff]
  constructor
  · rintro (⟨txHash, sent, later, rfl, broadcast, books⟩ | failed)
    · rcases confirm_replays_iff.mp (replays_modify_bind_iff.mp books) with
        ⟨change, confirmed, rfl⟩
      exact Or.inl ⟨txHash, sent, later, change, rfl, broadcast, confirmed, twice txHash change⟩
    · exact Or.inr failed
  · rintro (⟨txHash, sent, later, change, rfl, broadcast, confirmed, rfl⟩ | failed)
    · rw [← twice]
      exact Or.inl ⟨txHash, sent, later, rfl, broadcast,
        replays_modify_bind_iff.mpr (confirm_replays_iff.mpr ⟨change, confirmed, rfl⟩)⟩
    · exact Or.inr failed

theorem pays_of_settle {orderId : Str} (open_ : sut.Unsettled state orderId order)
    (free : sut.inFlight order = none)
    (replays : (sut.settle order authorization).Replays state said result finalState) :
    sut.Pays state orderId authorization said result finalState := by
  rw [settle] at replays
  rcases replays_question_bind_iff.mp replays with ⟨now, rest, rfl, guards⟩
  split_ifs at guards with late
  · rcases replays_pure_iff.mp guards with ⟨rfl, rfl, rfl⟩
    exact .refused (.expired open_ free late)
  · have inTime := not_lt.mp late
    have priced := replays_state_bind_iff.mp guards
    rcases replays_lift_bind_iff.mp priced with
      ⟨stale, isStale, judged⟩ | ⟨error, failed, rfl, rfl, rfl⟩
    · cases stale with
      | true =>
        rcases replays_pure_iff.mp judged with ⟨rfl, rfl, rfl⟩
        exact .refused (.stale open_ free inTime isStale)
      | false =>
        rcases replays_lift_bind_iff.mp judged with
          ⟨nonce, read, attempts⟩ | ⟨error, unread, rfl, rfl, rfl⟩
        · have admitted : sut.Admitted state orderId authorization order now.1 nonce :=
            ⟨open_, free, inTime, isStale, read⟩
          rcases submitAndConfirm_replays_iff.mp (replays_modify_bind_iff.mp attempts) with
            ⟨txHash, sent, later, change, rfl, broadcast, confirmed, rfl⟩ |
            ⟨error, rfl, failed, rfl⟩
          · exact .changed (.submitted admitted broadcast confirmed)
          · exact .changed (.unsubmitted admitted failed)
        · exact .refused (.unnumbered open_ free inTime isStale unread)
    · exact .refused (.unpriced open_ free inTime failed)

/-- A payment that passes the guards attempts a submission. -/
theorem Admitted.replays_iff {orderId nonce : Str} {now : Ask.Answer .clock}
    (admitted : sut.Admitted state orderId authorization order now.1 nonce) :
    (sut.pay orderId authorization).Replays state (⟨Ask.clock, now⟩ :: said) result finalState ↔
      (sut.submitAndConfirm order authorization).Replays
        (alterOrder state order.orderId (Order.attempted nonce)) said result finalState := by
  rw [pay_replays_iff_settle admitted.toUnsettled admitted.free, settle]
  refine replays_question_bind_iff.trans ?_
  have passes : ∀ rest, Replays (do
      let state ← Program.state
      let stale ← lift (sut.isStale order state.fairPrice)
      if stale then return .refused order.orderId "stale_quote"
      else do
        let nonce ← lift (textItem authorization "nonce")
        changeOrder order.orderId fun order =>
          { order with nonceSeen := some nonce, settleAttempts := order.settleAttempts + 1 }
        let txHash ← sut.submitSettlement authorization
        changeOrder order.orderId fun order => { order with submittedTx := some txHash }
        sut.confirm order authorization txHash) state rest result finalState ↔
      (sut.submitAndConfirm order authorization).Replays
        (alterOrder state order.orderId (Order.attempted nonce)) rest result finalState := by
    intro rest
    rw [replays_state_bind_iff, admitted.fresh, lift_ok_bind, admitted.read, if_neg Bool.false_ne_true,
      lift_ok_bind]
    exact replays_modify_bind_iff
  constructor
  · rintro ⟨answer, rest, same, guards⟩
    cases same
    rw [if_neg (not_lt.mpr admitted.inTime)] at guards
    exact (passes said).mp guards
  · intro submits
    refine ⟨now, said, rfl, ?_⟩
    rw [if_neg (not_lt.mpr admitted.inTime)]
    exact (passes said).mpr submits

/-- What a payment can do. -/
theorem pay_replays_iff {orderId : Str} :
    (sut.pay orderId authorization).Replays state said result finalState ↔
      sut.Pays state orderId authorization said result finalState := by
  constructor
  · intro replays
    have looked := replays
    rw [pay, replays_state_bind_iff] at looked
    cases found : state.orders.lookup orderId with
    | none =>
      rw [found] at looked
      rcases replays_pure_iff.mp looked with ⟨rfl, rfl, rfl⟩
      exact .refused (.unknown found)
    | some order =>
      rw [found] at looked
      dsimp only at looked
      split_ifs at looked with settled
      · rcases replays_pure_iff.mp looked with ⟨rfl, rfl, rfl⟩
        rw [Bool.and_eq_true] at settled
        exact .refused (.alreadySettled found settled.1 settled.2)
      · rw [Bool.and_eq_true] at settled
        have open_ : sut.Unsettled state orderId order := ⟨found, settled⟩
        cases inFlight : sut.inFlight order with
        | none => exact pays_of_settle open_ inFlight ((pay_replays_iff_settle open_ inFlight).mp replays)
        | some waiting =>
          rcases waiting with ⟨original, txHash⟩
          rcases confirm_replays_iff.mp ((pay_replays_iff_confirm open_ inFlight).mp replays) with
            ⟨change, confirmed, rfl⟩
          exact .changed (.retried open_ inFlight confirmed)
  · intro pays
    cases pays with
    | refused refused =>
      cases refused with
      | unknown missing =>
        rw [pay, replays_state_bind_iff, missing]
        exact ⟨rfl, rfl, rfl⟩
      | alreadySettled found paid idempotent =>
        rw [pay, replays_state_bind_iff, found]
        dsimp only
        rw [paid, idempotent]
        exact ⟨rfl, rfl, rfl⟩
      | @expired order now open_ free late =>
        rw [pay_replays_iff_settle open_ free, settle]
        refine replays_question_bind_iff.mpr ⟨now, [], rfl, ?_⟩
        rw [if_pos late]
        exact ⟨rfl, rfl, rfl⟩
      | @unpriced order now error open_ free inTime failed =>
        rw [pay_replays_iff_settle open_ free, settle]
        refine replays_question_bind_iff.mpr ⟨now, [], rfl, ?_⟩
        rw [if_neg (not_lt.mpr inTime), replays_state_bind_iff, failed]
        exact ⟨rfl, rfl, rfl⟩
      | @stale order now open_ free inTime isStale =>
        rw [pay_replays_iff_settle open_ free, settle]
        refine replays_question_bind_iff.mpr ⟨now, [], rfl, ?_⟩
        rw [if_neg (not_lt.mpr inTime), replays_state_bind_iff, isStale]
        exact ⟨rfl, rfl, rfl⟩
      | @unnumbered order now error open_ free inTime fresh unread =>
        rw [pay_replays_iff_settle open_ free, settle]
        refine replays_question_bind_iff.mpr ⟨now, [], rfl, ?_⟩
        rw [if_neg (not_lt.mpr inTime), replays_state_bind_iff, fresh, lift_ok_bind, unread]
        exact ⟨rfl, rfl, rfl⟩
    | changed changes =>
      cases changes with
      | retried open_ inFlight confirmed =>
        exact (pay_replays_iff_confirm open_ inFlight).mpr
          (confirm_replays_iff.mpr ⟨_, confirmed, rfl⟩)
      | unsubmitted admitted failed =>
        exact admitted.replays_iff.mpr
          (submitAndConfirm_replays_iff.mpr (Or.inr ⟨_, rfl, failed, rfl⟩))
      | submitted admitted broadcast confirmed =>
        exact admitted.replays_iff.mpr (submitAndConfirm_replays_iff.mpr
          (Or.inl ⟨_, _, _, _, rfl, broadcast, confirmed, rfl⟩))

/-! ### Quotes -/

-- the bound on the digits of an integer is not to be evaluated
attribute [local irreducible] showInt

variable (sut) in
/-- The order of a new quote. -/
def quotedOrder (orderId : Str) (now fairPrice createdBlock : ℤ) : Order where
  orderId := orderId
  amount := sut.config.price
  expiresAt := now + sut.config.quoteTtl
  quotedFairPrice := fairPrice
  createdBlock := createdBlock

variable (sut) in
/-- The answer to a request for a quote. -/
def quoteAnswer (orderId : Str) (now : ℤ) : Except PyError QuoteResponse := do
  let amount ← showInt sut.config.price
  let chainId ← showInt sut.config.chainId
  return ⟨orderId, amount.toList, sut.config.merchantAddress, sut.config.tokenAddress,
    "eip155:".toList ++ chainId.toList, sut.config.tokenName, sut.config.tokenVersion,
    now + sut.config.quoteTtl⟩

/-- A request for a quote: what was asked, what is answered and the state after it. -/
inductive Quotes (sut : ReferenceSut) (state : SutState) :
    Conversation → Except PyError QuoteResponse → SutState → Prop
  | failed {drawn : Ask.Answer (.tokenHex 8)} {now : Ask.Answer .clock} {said : Conversation}
      {error : PyError} (failed : Tells (blockNumber : Proc SutState ℕ) said (.error error)) :
      Quotes sut state (⟨Ask.tokenHex 8, drawn⟩ :: ⟨Ask.clock, now⟩ :: said) (.error error)
        state
  | quoted {drawn : Ask.Answer (.tokenHex 8)} {now : Ask.Answer .clock} {said : Conversation}
      {createdBlock : ℕ} (height : Tells (blockNumber : Proc SutState ℕ) said (.ok createdBlock)) :
      Quotes sut state (⟨Ask.tokenHex 8, drawn⟩ :: ⟨Ask.clock, now⟩ :: said)
        (sut.quoteAnswer ("ord_".toList ++ String.toList drawn) now.1)
        { state with
          orders := state.orders.setItem ("ord_".toList ++ String.toList drawn)
            (sut.quotedOrder ("ord_".toList ++ String.toList drawn) now.1 state.fairPrice
              createdBlock) }

theorem stateless_blockNumber : (blockNumber : Proc SutState ℕ).Stateless :=
  stateless_call.bind fun _ => stateless_lift _

/-- Every request for a quote draws an id and reads the clock. -/
theorem quote_replays_iff_drawn {result : Except PyError QuoteResponse} :
    sut.quote.Replays state said result finalState ↔
      ∃ (drawn : Ask.Answer (.tokenHex 8)) (now : Ask.Answer .clock) (rest : Conversation),
        said = ⟨Ask.tokenHex 8, drawn⟩ :: ⟨Ask.clock, now⟩ :: rest ∧
        (do
          let createdBlock ← blockNumber
          modify fun current => { current with
            orders := current.orders.setItem ("ord_".toList ++ String.toList drawn)
              (sut.quotedOrder ("ord_".toList ++ String.toList drawn) now.1 state.fairPrice
                createdBlock) }
          lift (sut.quoteAnswer ("ord_".toList ++ String.toList drawn) now.1) :
            Proc SutState QuoteResponse).Replays state rest result finalState := by
  have answers : ∀ (orderId : Str) (now : ℤ), (do
      let amount ← lift (showInt sut.config.price)
      let chainId ← lift (showInt sut.config.chainId)
      return ⟨orderId, amount.toList, sut.config.merchantAddress, sut.config.tokenAddress,
        "eip155:".toList ++ chainId.toList, sut.config.tokenName, sut.config.tokenVersion,
        now + sut.config.quoteTtl⟩ : Proc SutState QuoteResponse) =
      lift (sut.quoteAnswer orderId now) := by
    intro orderId now
    rw [quoteAnswer]
    cases showInt sut.config.price with
    | error error => rfl
    | ok amount =>
      cases showInt sut.config.chainId with
      | error error => rfl
      | ok chainId => rfl
  simp only [← answers]
  rw [quote]
  constructor
  · intro replays
    rcases replays_question_bind_iff.mp replays with ⟨drawn, _, rfl, timed⟩
    rcases replays_question_bind_iff.mp timed with ⟨now, rest, rfl, asked⟩
    exact ⟨drawn, now, rest, rfl, replays_state_bind_iff.mp asked⟩
  · rintro ⟨drawn, now, rest, rfl, asked⟩
    exact replays_question_bind_iff.mpr ⟨drawn, _, rfl,
      replays_question_bind_iff.mpr ⟨now, rest, rfl, replays_state_bind_iff.mpr asked⟩⟩

/-- What a request for a quote can do. -/
theorem quote_replays_iff {result : Except PyError QuoteResponse} :
    sut.quote.Replays state said result finalState ↔ sut.Quotes state said result finalState := by
  rw [quote_replays_iff_drawn]
  constructor
  · rintro ⟨drawn, now, rest, rfl, asked⟩
    rcases stateless_blockNumber.bind_iff.mp asked with
      ⟨createdBlock, first, second, rfl, height, books⟩ | ⟨error, rfl, failed, rfl⟩
    · rcases replays_lift_iff.mp (replays_modify_bind_iff.mp books) with ⟨rfl, rfl, rfl⟩
      rw [List.append_nil]
      exact .quoted height
    · exact .failed failed
  · intro quotes
    cases quotes with
    | failed failed =>
      exact ⟨_, _, _, rfl, stateless_blockNumber.bind_iff.mpr (Or.inr ⟨_, rfl, failed, rfl⟩)⟩
    | @quoted drawn now said createdBlock height =>
      refine ⟨drawn, now, said, rfl, stateless_blockNumber.bind_iff.mpr (Or.inl
        ⟨createdBlock, said, [], (List.append_nil said).symm, height, ?_⟩)⟩
      exact replays_modify_bind_iff.mpr (replays_lift_iff.mpr ⟨rfl, rfl, rfl⟩)

/-! ### Healing -/

/-- The ledger after a recovered order was booked. -/
def bookCredit (orders : Orders) (key : Str) (credit : OnChainCredit) : Orders :=
  orders.setItem (recoveredId key) (recoveredOrder (recoveredId key) credit)

/-- The ledger after a recovered order was booked for each credit. -/
inductive Healed : List OnChainCredit → Orders → Orders → Prop
  | none {orders : Orders} : Healed [] orders orders
  | booked {credit : OnChainCredit} {credits : List OnChainCredit} {key : Str}
      {orders later : Orders} (keyed : identityKey credit.identity = .ok key)
      (rest : Healed credits (bookCredit orders key credit) later) :
      Healed (credit :: credits) orders later

theorem healed_of_replays {credits : List OnChainCredit} {result : Except PyError Unit}
    (replays : (heal credits).Replays state said result finalState) :
    said = [] ∧ ∃ front back, credits = front ++ back ∧
      Healed front state.orders finalState.orders ∧ finalState.fairPrice = state.fairPrice ∧
      (result = .ok () → back = []) := by
  induction credits generalizing state with
  | nil =>
    rcases replays with ⟨rfl, rfl, rfl⟩
    exact ⟨rfl, [], [], rfl, .none, rfl, fun _ => rfl⟩
  | cons credit credits ih =>
    rw [heal] at replays
    rcases replays_lift_bind_iff.mp replays with
      ⟨key, keyed, books⟩ | ⟨error, _, rfl, rfl, rfl⟩
    · rcases ih (replays_modify_bind_iff.mp books) with
        ⟨rfl, front, back, rfl, healed, sameFair, all⟩
      exact ⟨rfl, credit :: front, back, rfl, .booked keyed healed, sameFair, all⟩
    · refine ⟨rfl, [], credit :: credits, rfl, .none, rfl, ?_⟩
      intro impossible
      cases impossible

theorem replays_of_healed {credits : List OnChainCredit} {orders later : Orders} {fairPrice : ℤ}
    (healed : Healed credits orders later) :
    (heal credits).Replays ⟨orders, fairPrice⟩ [] (.ok ()) ⟨later, fairPrice⟩ := by
  induction healed with
  | none => exact ⟨rfl, rfl, rfl⟩
  | booked keyed _ ih =>
    rw [heal]
    exact replays_lift_bind_iff.mpr (Or.inl ⟨_, keyed, replays_modify_bind_iff.mpr ih⟩)

/-- The logs that a reconciliation looks at. -/
def Fetched (sut : ReferenceSut) (fromBlock : ℤ) (said : Conversation) (logs : List Fields) :
    Prop :=
  ∃ merchant, topicAddr (.str sut.config.merchantAddress) = .ok merchant ∧
    Tells (getLogs sut.config.tokenAddress [some topicTransfer, none, some merchant]
      (.number fromBlock) (.tag "latest") : Proc SutState (List Fields)) said (.ok logs)

variable (sut) in
/-- The credits among the logs that the ledger does not know. -/
def unreconciled (orders : Orders) (logs : List Fields) : Except PyError (List OnChainCredit) :=
  findUnreconciled logs (knownEntries orders) sut.config.chainId (some sut.config.tokenAddress)
    (some sut.config.merchantAddress)

/-- A reconciliation: what was asked, what is answered and the state after it. -/
inductive Reconciles (sut : ReferenceSut) (state : SutState) (fromBlock : ℤ) :
    Conversation → Except PyError (List OnChainCredit) → SutState → Prop
  | failed {said : Conversation} {error : PyError} :
      Reconciles sut state fromBlock said (.error error) state
  | reported {said : Conversation} {logs : List Fields} {credits : List OnChainCredit}
      (fetched : sut.Fetched fromBlock said logs)
      (found : sut.unreconciled state.orders logs = .ok credits)
      (disabled : sut.config.reconciliationEnabled = false) :
      Reconciles sut state fromBlock said (.ok credits) state
  | healed {said : Conversation} {logs : List Fields} {front back : List OnChainCredit}
      {orders : Orders} {result : Except PyError (List OnChainCredit)}
      (fetched : sut.Fetched fromBlock said logs)
      (found : sut.unreconciled state.orders logs = .ok (front ++ back))
      (enabled : sut.config.reconciliationEnabled = true)
      (healed : Healed front state.orders orders)
      (whole : ∀ credits, result = .ok credits → back = [] ∧ credits = front) :
      Reconciles sut state fromBlock said result { state with orders := orders }

/-- What a reconciliation can do. -/
theorem reconciles_of_replays {fromBlock : ℤ} {result : Except PyError (List OnChainCredit)}
    (replays : (sut.reconcile fromBlock).Replays state said result finalState) :
    sut.Reconciles state fromBlock said result finalState := by
  rw [reconcile] at replays
  rcases replays_lift_bind_iff.mp replays with
    ⟨merchant, isMerchant, asked⟩ | ⟨_, _, rfl, rfl, rfl⟩
  · rcases stateless_getLogs.bind_iff.mp asked with
      ⟨logs, first, second, rfl, told, compared⟩ | ⟨error, rfl, failed, rfl⟩
    · have fetched : sut.Fetched fromBlock first logs := ⟨merchant, isMerchant, told⟩
      have looked := replays_state_bind_iff.mp compared
      rcases replays_lift_bind_iff.mp looked with
        ⟨credits, found, heals⟩ | ⟨_, _, rfl, rfl, rfl⟩
      · split_ifs at heals with enabled
        · rcases replays_bind_iff.mp heals with
            ⟨_, middle, before, after, rfl, healing, rfl, rfl, unchanged⟩ |
            ⟨error, rfl, healing⟩
          · rw [unchanged]
            rcases healed_of_replays healing with
              ⟨rfl, front, back, rfl, healed, sameFair, whole⟩
            rcases whole rfl with rfl
            rcases middle with ⟨orders, fairPrice⟩
            cases sameFair
            rw [List.append_nil, List.append_nil]
            refine .healed fetched found enabled healed ?_
            intro credits same
            cases same
            exact ⟨rfl, List.append_nil front⟩
          · rcases healed_of_replays healing with
              ⟨rfl, front, back, rfl, healed, sameFair, _⟩
            rcases finalState with ⟨orders, fairPrice⟩
            cases sameFair
            rw [List.append_nil]
            refine .healed fetched found enabled healed ?_
            intro credits impossible
            cases impossible
        · rcases heals with ⟨rfl, rfl, rfl⟩
          rw [List.append_nil]
          exact .reported fetched found (by simpa using enabled)
      · exact .failed
    · exact .failed
  · exact .failed

/-- A reconciliation that books every credit it finds. -/
theorem replays_of_reconciled {fromBlock : ℤ} {logs : List Fields} {credits : List OnChainCredit}
    {orders : Orders} (fetched : sut.Fetched fromBlock said logs)
    (found : sut.unreconciled state.orders logs = .ok credits)
    (enabled : sut.config.reconciliationEnabled = true)
    (healed : Healed credits state.orders orders) :
    (sut.reconcile fromBlock).Replays state said (.ok credits)
      { state with orders := orders } := by
  rcases fetched with ⟨merchant, isMerchant, told⟩
  rw [reconcile]
  refine replays_lift_bind_iff.mpr (Or.inl ⟨merchant, isMerchant, stateless_getLogs.bind_iff.mpr
    (Or.inl ⟨logs, said, [], (List.append_nil said).symm, told, ?_⟩)⟩)
  refine replays_state_bind_iff.mpr (replays_lift_bind_iff.mpr (Or.inl ⟨credits, found, ?_⟩))
  rw [if_pos enabled]
  exact replays_bind_ok_iff.mpr ⟨(), { state with orders := orders }, [], [], rfl,
    replays_of_healed healed, replays_pure_iff.mpr ⟨rfl, rfl, rfl⟩⟩

/-! ### What is broadcast -/

omit [Interpreter] in
/-- A program that asks only silent questions. -/
theorem silent_of_tells {α : Type} {program : Proc SutState α} {result : Except PyError α}
    (tells : program.Tells said result) (asks : program.Asks Silent) :
    ∀ entry ∈ said, Silent entry.1 := by
  rcases tells with ⟨_, replays⟩
  exact asks.of_mem replays

theorem silent_confirmer {settlement : Settlement} {receipt : Option Fields} :
    (confirmer.settlementLogIndex settlement receipt : Proc SutState (Option ℤ)).Asks Silent := by
  rw [EventWatchingConfirmer.settlementLogIndex.eq_def]
  cases receipt with
  | none => trivial
  | some fields =>
    dsimp only
    cases minedIn settlement fields with
    | none => trivial
    | some blockNumber =>
      exact Asks.bind ((asks_lift _).bind fun _ => (silent_call (by decide)).bind fun _ =>
        asks_lift _) fun _ => trivial

theorem silent_pollReceipt {tries : ℤ} (left : ℕ) :
    (pollReceipt txHash tries left : Proc SutState Fields).Asks Silent := by
  induction left with
  | zero => trivial
  | succ left ih =>
    rw [pollReceipt]
    apply (silent_call (by decide)).bind
    intro receipt
    cases receipt with
    | null => exact ih
    | _ => exact asks_lift _

theorem silent_waitForReceipt {tries : ℤ} :
    (waitForReceipt txHash tries : Proc SutState Fields).Asks Silent :=
  (asks_lift _).bind fun _ => (asks_lift _).bind fun _ => silent_pollReceipt _

theorem Judged.silent {receipt : Option Fields} {change : Order → Order}
    (judged : sut.Judged order authorization txHash receipt said result change) :
    ∀ entry ∈ said, Silent entry.1 := by
  cases judged with
  | unread => exact List.forall_mem_nil _
  | failed _ watched => exact silent_of_tells watched silent_confirmer
  | unsettled _ watched => exact silent_of_tells watched silent_confirmer
  | unidentified _ watched => exact silent_of_tells watched silent_confirmer
  | settled _ watched => exact silent_of_tells watched silent_confirmer

/-- A confirmation broadcasts nothing. -/
theorem Confirmed.silent {change : Order → Order}
    (confirmed : sut.Confirmed order authorization txHash said result change) :
    ∀ entry ∈ said, Silent entry.1 := by
  cases confirmed with
  | unwatched _ judged => exact judged.silent
  | mined _ obtained judged =>
    intro entry mem
    rcases List.mem_append.mp mem with mem | mem
    · exact silent_of_tells obtained silent_waitForReceipt entry mem
    · exact judged.silent entry mem
  | pending _ failed => exact silent_of_tells failed silent_waitForReceipt
  | escaped _ failed => exact silent_of_tells failed silent_waitForReceipt

theorem Refused.silent {orderId : Str}
    (refused : sut.Refused state orderId authorization said result) :
    ∀ entry ∈ said, Silent entry.1 := by
  have clock : ∀ now : Ask.Answer .clock, ∀ entry ∈ ([⟨Ask.clock, now⟩] : Conversation),
      Silent entry.1 := by
    intro now entry mem
    rw [List.mem_singleton.mp mem]
    trivial
  cases refused with
  | unknown => exact List.forall_mem_nil _
  | alreadySettled => exact List.forall_mem_nil _
  | expired => exact clock _
  | unpriced => exact clock _
  | stale => exact clock _
  | unnumbered => exact clock _

end Paying

end ReferenceSut

end Psv
