import Psv.Sut.Release

/-!
# What an idempotent service broadcasts

An idempotent service that waits for receipts keeps the transaction that it has
broadcast until the confirmer has judged it: what is open after a payment is
pending, with an authorization that the service had encoded itself.  This is so as
long as the service polls for receipts at all and the node has logs for the
confirmer: what is pending is forgotten before the confirmer is asked.
-/

namespace Psv

open Python Interaction Program Chain RpcClient Reconciliation Safety Confirmer

namespace ReferenceSut

variable [Interpreter] (sut : ReferenceSut)

/-! ### Payments of one order -/

/-- A payment with what it asked and answered. -/
structure PayCall where
  authorization : Fields
  said : Conversation
  result : Except PyError PayResponse

/-- The payment of the order that an operation is. -/
def paymentOf (orderId : Str) : Event → Option PayCall
  | .pay other authorization said result =>
      if other = orderId then some ⟨authorization, said, result⟩ else none
  | _ => none

/-- The payments of the order among the operations on the service. -/
def paymentsOf (orderId : Str) (events : List Event) : List PayCall :=
  events.filterMap (paymentOf orderId)

/-- An operation after which the order is still known: no backup of the ledger is restored, and no
quote draws the id of the order again. -/
def Spares (orderId : Str) : Event → Prop
  | .quote said _ => ∀ drawn : Ask.Answer (.tokenHex 8), ⟨Ask.tokenHex 8, drawn⟩ ∈ said →
      "ord_".toList ++ String.toList drawn ≠ orderId
  | .restore _ => False
  | _ => True

/-- The payment broadcast a transaction and the node answered with its hash. -/
def PayCall.Sends (call : PayCall) (txHash : Str) : Prop :=
  isExactHex 64 txHash = true ∧
    ∃ raw, exchange "eth_sendRawTransaction" [.str raw] (.ok (.str txHash)) ∈ call.said

/-- The payment obtained the receipt of a transaction and judged that it does not settle the
order. -/
def PayCall.Rejects (call : PayCall) (orderId txHash : Str) : Prop :=
  call.result = .ok (.judged orderId txHash false) ∧
    ∃ receipt, polled txHash (.ok (.dict receipt)) ∈ call.said

variable {sut} {orderId txHash : Str} {authorization : Fields} {order : Order}
  {state final : SutState} {said : Conversation} {result : Except PyError PayResponse}
  {change : Order → Order} {later : List PayCall} {call : PayCall} {service after : Service}
  {event : Event} {events before : List Event}

omit [Interpreter] in
theorem paymentOf_eq_some_iff : paymentOf orderId event = some call ↔
    event = .pay orderId call.authorization call.said call.result := by
  cases event with
  | pay other authorization said result =>
    rw [paymentOf]
    split_ifs with same
    · rw [same, Option.some.injEq, Event.pay.injEq]
      constructor
      · rintro rfl
        exact ⟨rfl, rfl, rfl, rfl⟩
      · rintro ⟨_, rfl, rfl, rfl⟩
        rfl
    · simp [same]
  | _ => simp [paymentOf]

/-- A payment of the order among the operations has been made. -/
theorem Steps.pays (steps : sut.Steps service events after)
    (mem : call ∈ paymentsOf orderId events) :
    ∃ state final, sut.Pays state orderId call.authorization call.said call.result final := by
  induction steps with
  | none => cases mem
  | @step service _ _ event events step _ ih =>
    rcases List.mem_filterMap.mp mem with ⟨other, isOther, payment⟩
    rcases List.mem_cons.mp isOther with rfl | later
    · rw [paymentOf_eq_some_iff.mp payment] at step
      cases step with
      | pay replays => exact ⟨_, _, pay_replays_iff.mp replays⟩
    · exact ih (List.mem_filterMap.mpr ⟨other, later, payment⟩)

omit [Interpreter] in
theorem PayCall.Sends.issued (sends : call.Sends txHash) : broadcasts call.said ≠ [] := by
  rcases sends with ⟨_, raw, sent⟩
  have issued : [Value.str raw] ∈ broadcasts call.said := List.mem_filterMap.mpr ⟨_, sent, rfl⟩
  exact List.ne_nil_of_mem issued

/-! ### One payment -/

/-- What the node answered to broadcasts. -/
def acknowledgements (said : Conversation) : List (Except String Value) :=
  said.filterMap fun
    | ⟨.rpc method _, answer⟩ =>
        if method = "eth_sendRawTransaction" then some answer else none
    | _ => none

omit [Interpreter] in
theorem mem_acknowledgements {raw : Str} {answer : Except String Value}
    (mem : exchange "eth_sendRawTransaction" [.str raw] answer ∈ said) :
    answer ∈ acknowledgements said :=
  List.mem_filterMap.mpr ⟨_, mem, rfl⟩

/-- A submission whose broadcast is answered with a hash succeeds with it. -/
theorem tells_of_acknowledged {result : Except PyError Str} {raw : Str}
    (told : Tells (sut.submitSettlement authorization : Proc SutState Str) said result)
    (shape : isExactHex 64 txHash = true)
    (sent : exchange "eth_sendRawTransaction" [.str raw] (.ok (.str txHash)) ∈ said) :
    result = .ok txHash := by
  have issued : [Value.str raw] ∈ broadcasts said := List.mem_filterMap.mpr ⟨_, sent, rfl⟩
  rcases (broadcasts_iff told).mp (List.ne_nil_of_mem issued) with
    ⟨chain, code, count, price, transaction, data, answer, prepared, isBytes, rfl⟩
  have same : Except.ok (.str txHash) = answer := List.mem_singleton.mp (mem_acknowledgements sent)
  rw [← same] at told
  have succeeds := submitSettlement_tells_iff.mpr
    ⟨chain, code, count, price, transaction, data, prepared, isBytes, shape, rfl⟩
  exact stateless_submitSettlement.unique succeeds told

/-- A payment of an order that is paid does nothing. -/
theorem Pays.of_paid (pays : sut.Pays state orderId authorization said result final)
    (idempotent : sut.config.idempotentPay = true)
    (found : state.orders.lookup orderId = some order) (paid : order.paid = true) :
    broadcasts said = [] ∧ final = state := by
  have settled : ∀ {other : Order}, ¬sut.Unsettled state orderId other := by
    intro other open_
    have same := open_.found
    rw [found, Option.some.injEq] at same
    rw [← same] at open_
    exact open_.unsettled ⟨paid, idempotent⟩
  cases pays with
  | refused refused => exact ⟨broadcasts_silent refused.silent, rfl⟩
  | changed changes => exact absurd changes.open_ settled

/-- A patient confirmation of an accepted transaction judges it, books it or waits for it. -/
theorem Confirmed.outcome (confirmed : sut.Confirmed order authorization txHash said result change)
    (accepted : sut.Accepted authorization txHash)
    (patient : sut.config.confirmWithoutWaiting = false) (answered : LogsAnswered said) :
    (result = .ok (.judged order.orderId txHash false) ∧
        ∃ receipt, polled txHash (.ok (.dict receipt)) ∈ said) ∨
      (∀ given, (change given).paid = true) ∨ change = Order.waiting txHash authorization ∨
        (change = id ∧ sut.config.receiptTries ≤ 0) := by
  cases confirmed with
  | unwatched hasty =>
    rw [patient] at hasty
    cases hasty
  | @mined receipt _ _ _ _ _ obtained judged =>
    rcases waitForReceipt_tells_iff.mp obtained with ⟨_, ⟨early, _, rfl⟩, shape⟩
    have logs : LogsAnswered _ := fun params answer mem =>
      answered params answer (List.mem_append_right _ mem)
    rcases judged.of_answered accepted shape logs with ⟨rejected, _⟩ | paid
    · refine Or.inl ⟨rejected, receipt, List.mem_append_left _ ?_⟩
      exact List.mem_append_right _ (List.mem_singleton.mpr rfl)
    · exact Or.inr (Or.inl paid)
  | pending => exact Or.inr (Or.inr (Or.inl rfl))
  | @escaped _ error _ failed uncaught =>
    refine Or.inr (Or.inr (Or.inr ⟨rfl, ?_⟩))
    by_contra positive
    have byClient := byClient_of_waitForReceipt accepted.shape (not_le.mp positive) failed
    rw [Anvil.ByClient, uncaught] at byClient
    cases byClient

/-! ### What is open -/

variable (sut) in
/-- The order is paid, or the transaction is pending with the authorization in it. -/
def Held (orderId txHash : Str) (state : SutState) : Prop :=
  ∃ order, state.orders.lookup orderId = some order ∧ order.orderId = orderId ∧
    (order.paid = true ∨ (order.pendingTx = some txHash ∧ ∃ authorization,
      order.pendingAuthorization = some authorization ∧ sut.Accepted authorization txHash))

/-- What is held after an order was changed. -/
theorem Held.of_change (found : state.orders.lookup orderId = some order)
    (keyed : (change order).orderId = orderId)
    (held : (change order).paid = true ∨ ((change order).pendingTx = some txHash ∧
      ∃ authorization, (change order).pendingAuthorization = some authorization ∧
        sut.Accepted authorization txHash)) :
    sut.Held orderId txHash (alterOrder state orderId change) := by
  refine ⟨change order, ?_, keyed, held⟩
  rw [alterOrder, Dict.lookup_alter_self, found]
  rfl

/-- While a transaction is held nothing is broadcast, and it is held until it is rejected. -/
theorem Held.pays (held : sut.Held orderId txHash state)
    (idempotent : sut.config.idempotentPay = true)
    (patient : sut.config.confirmWithoutWaiting = false)
    (pays : sut.Pays state orderId authorization said result final) :
    broadcasts said = [] ∧ (LogsAnswered said →
      (PayCall.mk authorization said result).Rejects orderId txHash ∨
        sut.Held orderId txHash final) := by
  rcases held with ⟨order, found, keyed, paid | ⟨isTx, original, isAuthorization, accepted⟩⟩
  · rcases pays.of_paid idempotent found paid with ⟨quiet, rfl⟩
    exact ⟨quiet, fun _ => Or.inr ⟨order, found, keyed, Or.inl paid⟩⟩
  · have inFlight : sut.inFlight order = some (original, txHash) :=
      inFlight_eq_some_iff.mpr ⟨isTx, isAuthorization, idempotent⟩
    have waited : ∀ {other : Order}, sut.Unsettled state orderId other → order = other := by
      intro other open_
      have same := open_.found
      rw [found, Option.some.injEq] at same
      exact same
    cases pays with
    | refused refused =>
      exact ⟨broadcasts_silent refused.silent, fun _ => Or.inr
        ⟨order, found, keyed, Or.inr ⟨isTx, original, isAuthorization, accepted⟩⟩⟩
    | changed changes =>
      rcases waited changes.open_ with rfl
      cases changes with
      | unsubmitted admitted =>
        have free := admitted.free
        rw [inFlight] at free
        cases free
      | submitted admitted =>
        have free := admitted.free
        rw [inFlight] at free
        cases free
      | retried open_ isInFlight confirmed =>
        rw [inFlight, Option.some.injEq, Prod.mk.injEq] at isInFlight
        rcases isInFlight with ⟨rfl, rfl⟩
        refine ⟨broadcasts_silent confirmed.silent, ?_⟩
        intro answered
        have key := (confirmed.same order).orderId.trans keyed
        rw [keyed]
        rcases confirmed.outcome accepted patient answered with ⟨rejected, receipt, got⟩ | paid |
          rfl | ⟨rfl, _⟩
        · rw [keyed] at rejected
          exact Or.inl ⟨rejected, receipt, got⟩
        · exact Or.inr (.of_change found key (Or.inl (paid order)))
        · exact Or.inr (.of_change found key (Or.inr ⟨rfl, original, rfl, accepted⟩))
        · exact Or.inr (.of_change found key (Or.inr ⟨isTx, original, isAuthorization, accepted⟩))

/-- What a payment broadcasts is held after it unless the payment rejects it. -/
theorem Pays.holds (pays : sut.Pays state orderId authorization said result final)
    (keyed : Keyed state.orders) (patient : sut.config.confirmWithoutWaiting = false)
    (sends : (PayCall.mk authorization said result).Sends txHash)
    (positive : 0 < sut.config.receiptTries) (answered : LogsAnswered said) :
    (PayCall.mk authorization said result).Rejects orderId txHash ∨
      sut.Held orderId txHash final := by
  have loud : broadcasts said ≠ [] := sends.issued
  rcases sends with ⟨shape, raw, sent⟩
  cases pays with
  | refused refused => exact absurd (broadcasts_silent refused.silent) loud
  | @changed order _ _ _ changes =>
    have found := changes.open_.found
    have key := keyed orderId order found
    cases changes with
    | retried _ _ confirmed => exact absurd (broadcasts_silent confirmed.silent) loud
    | unsubmitted _ failed =>
      rcases List.mem_cons.mp sent with impossible | own
      · cases impossible
      · cases tells_of_acknowledged failed shape own
    | @submitted now nonce other asked later _ change _ broadcast confirmed =>
      rcases List.mem_cons.mp sent with impossible | mem
      · cases impossible
      · rcases List.mem_append.mp mem with own | foreign
        · cases tells_of_acknowledged broadcast shape own
          have accepted := (accepted_of_submitted broadcast).1
          have logs : LogsAnswered later := fun params answer mem =>
            answered params answer (List.mem_cons_of_mem _ (List.mem_append_right _ mem))
          have same := (confirmed.same ((order.attempted nonce).submitted txHash)).orderId
          rw [key]
          rcases confirmed.outcome accepted patient logs with ⟨rejected, receipt, got⟩ | paid |
            rfl | ⟨_, hasty⟩
          · rw [key] at rejected
            exact Or.inl ⟨rejected, receipt,
              List.mem_cons_of_mem _ (List.mem_append_right _ got)⟩
          · exact Or.inr (.of_change found (same.trans key) (Or.inl (paid _)))
          · exact Or.inr (.of_change found (same.trans key)
              (Or.inr ⟨rfl, authorization, rfl, accepted⟩))
          · exact absurd positive (not_lt.mpr hasty)
        · exact absurd rfl (confirmed.silent _ foreign)

/-! ### Other operations -/

/-- A ledger in which the order is known: as it was, or as a payment that was recovered. -/
def StillKnown (orderId : Str) (order : Order) (orders : Orders) : Prop :=
  ∃ kept, orders.lookup orderId = some kept ∧
    (kept = order ∨ kept.orderId = orderId ∧ kept.paid = true)

theorem Healed.stillKnown {credits : List OnChainCredit} {orders later : Orders}
    (healed : Healed credits orders later) (known : StillKnown orderId order orders) :
    StillKnown orderId order later := by
  induction healed with
  | none => exact known
  | @booked credit credits key orders later keyed _ ih =>
    apply ih
    by_cases same : orderId = recoveredId key
    · subst same
      refine ⟨recoveredOrder (recoveredId key) credit, ?_, Or.inr ⟨rfl, rfl⟩⟩
      rw [bookCredit, Dict.lookup_setItem, if_pos rfl]
    · rcases known with ⟨kept, found, isKept⟩
      refine ⟨kept, ?_, isKept⟩
      rw [bookCredit, Dict.lookup_setItem, if_neg same]
      exact found

/-- Only its own payments change an order that is spared; a recovered payment takes its place. -/
theorem Step.stillKnown (step : sut.Step service event after) (spares : Spares orderId event)
    (elsewhere : paymentOf orderId event = none) (keyed : Keyed service.state.orders)
    (found : service.state.orders.lookup orderId = some order) :
    StillKnown orderId order after.state.orders := by
  have unchanged : StillKnown orderId order service.state.orders := ⟨order, found, Or.inl rfl⟩
  cases step with
  | quote replays =>
    rcases quote_replays_iff.mp replays with _ | _
    · exact unchanged
    · rename_i drawn now said createdBlock height
      have different := spares drawn List.mem_cons_self
      refine ⟨order, ?_, Or.inl rfl⟩
      rw [Dict.lookup_setItem, if_neg different.symm]
      exact found
  | @pay other _ _ _ _ replays =>
    have different : orderId ≠ other := by
      rintro rfl
      rw [paymentOf, if_pos rfl] at elsewhere
      cases elsewhere
    cases pay_replays_iff.mp replays with
    | refused => exact unchanged
    | @changed paid _ _ _ changes =>
      refine ⟨order, ?_, Or.inl rfl⟩
      rw [alterOrder, keyed other paid changes.open_.found, Dict.lookup_alter_ne different]
      exact found
  | status replays =>
    rcases replays with ⟨_, _, rfl⟩
    exact unchanged
  | resource replays =>
    rcases replays with ⟨_, _, rfl⟩
    exact unchanged
  | backup replays =>
    rcases replays with ⟨_, _, rfl⟩
    exact unchanged
  | restore => cases spares
  | reconcile replays =>
    cases reconciles_of_replays replays with
    | failed => exact unchanged
    | reported => exact unchanged
    | healed _ _ _ healed => exact healed.stillKnown unchanged
  | moveFairPrice => exact unchanged

/-- What is held stays held over an operation that is no payment of the order. -/
theorem Held.step (held : sut.Held orderId txHash service.state)
    (step : sut.Step service event after) (spares : Spares orderId event)
    (elsewhere : paymentOf orderId event = none) (keyed : Keyed service.state.orders) :
    sut.Held orderId txHash after.state := by
  rcases held with ⟨order, found, isKey, how⟩
  rcases step.stillKnown spares elsewhere keyed found with ⟨kept, foundLater, rfl | ⟨own, paid⟩⟩
  · exact ⟨kept, foundLater, isKey, how⟩
  · exact ⟨kept, foundLater, own, Or.inl paid⟩

/-! ### Runs -/

/-- Nothing is broadcast for an order that is paid. -/
theorem Steps.of_paid (steps : sut.Steps service events after)
    (idempotent : sut.config.idempotentPay = true)
    (reached : sut.Run (fun _ _ _ => True) before service)
    (spares : ∀ event ∈ events, Spares orderId event)
    (found : service.state.orders.lookup orderId = some order) (paid : order.paid = true) :
    ∀ call ∈ paymentsOf orderId events, broadcasts call.said = [] := by
  induction steps generalizing before order with
  | none => exact List.forall_mem_nil _
  | @step service middle _ event events step _ ih =>
    rw [List.forall_mem_cons] at spares
    have there := reached.step trivial step
    cases payment : paymentOf orderId event with
    | none =>
      rw [paymentsOf, List.filterMap_cons_none payment]
      rcases step.stillKnown spares.1 payment reached.keyed found with
        ⟨kept, foundLater, rfl | ⟨_, isPaid⟩⟩
      · exact ih there spares.2 foundLater paid
      · exact ih there spares.2 foundLater isPaid
    | some call =>
      rw [paymentsOf, List.filterMap_cons_some payment]
      rw [paymentOf_eq_some_iff.mp payment] at step there
      cases step with
      | pay replays =>
        rcases (pay_replays_iff.mp replays).of_paid idempotent found paid with ⟨quiet, rfl⟩
        exact List.forall_mem_cons.mpr ⟨quiet, ih there spares.2 found paid⟩

/-- What is held is rejected before the next broadcast. -/
theorem Held.steps {between : List PayCall} {next : PayCall}
    (held : sut.Held orderId txHash service.state) (idempotent : sut.config.idempotentPay = true)
    (patient : sut.config.confirmWithoutWaiting = false)
    (reached : sut.Run (fun _ _ _ => True) before service)
    (steps : sut.Steps service events after) (spares : ∀ event ∈ events, Spares orderId event)
    (payments : paymentsOf orderId events = between ++ next :: later)
    (answered : ∀ call ∈ between, LogsAnswered call.said) (issued : broadcasts next.said ≠ []) :
    ∃ judging ∈ between, judging.Rejects orderId txHash := by
  induction steps generalizing before between with
  | none => cases List.append_ne_nil_of_right_ne_nil _ (List.cons_ne_nil _ _) payments.symm
  | @step service middle _ event events step _ ih =>
    rw [List.forall_mem_cons] at spares
    have there := reached.step trivial step
    cases payment : paymentOf orderId event with
    | none =>
      rw [paymentsOf, List.filterMap_cons_none payment] at payments
      exact ih (held.step step spares.1 payment reached.keyed) there spares.2 payments answered
    | some call =>
      rw [paymentsOf, List.filterMap_cons_some payment] at payments
      rw [paymentOf_eq_some_iff.mp payment] at step there
      cases step with
      | pay replays =>
        have once := held.pays idempotent patient (pay_replays_iff.mp replays)
        cases between with
        | nil =>
          rw [List.nil_append, List.cons.injEq] at payments
          rw [payments.1] at once
          exact absurd once.1 issued
        | cons first between =>
          rw [List.cons_append, List.cons.injEq] at payments
          rw [List.forall_mem_cons] at answered
          rw [payments.1] at once
          rcases once.2 answered.1 with rejects | still
          · exact ⟨first, List.mem_cons_self, rejects⟩
          · rcases ih still there spares.2 payments.2 answered.2 with ⟨judging, mem, rejects⟩
            exact ⟨judging, List.mem_cons_of_mem _ mem, rejects⟩

section Sample

end Sample

end ReferenceSut

end Psv
