import Psv.Sut.Broadcast
import Psv.Sut.Service

/-!
# The release of a resource

A resource is released for a transaction that a payment of the order broadcast and
whose receipt a payment of the order obtained.  These need not be one payment: a
payment that broadcasts and does not get to the receipt leaves the transaction
pending with its authorization, and a later one confirms it with what was stored.
The invariant therefore speaks about what is pending as well as about what is paid.
-/

namespace Psv

open Python Interaction Program Chain RpcClient Reconciliation Safety Confirmer

namespace ReferenceSut

variable [Interpreter] (sut : ReferenceSut)

/-! ### Evidence in the events -/

/-- An earlier payment of the order broadcast the transaction with the authorization. -/
structure Broadcast (events : List Event) (orderId : Str) (authorization : Fields)
    (txHash : Str) : Prop extends sut.Accepted authorization txHash where
  sent : ∃ said result raw, Event.pay orderId authorization said result ∈ events ∧
    exchange "eth_sendRawTransaction" [.str raw] (.ok (.str txHash)) ∈ said

/-- An earlier payment of the order obtained the receipt. -/
def Obtained (events : List Event) (orderId txHash : Str) (receipt : Fields) : Prop :=
  ∃ authorization said result, Event.pay orderId authorization said result ∈ events ∧
    polled txHash (.ok (.dict receipt)) ∈ said

/-- A receipt that settles a payment with the transfer of an index. -/
structure SettledBy (settlement : Settlement) (receipt : Fields) (index : ℤ) : Prop where
  status : Confirmer.quantity (getField receipt "status") = some 1
  transactionHash : sameHex (getField receipt "transactionHash") settlement.submittedTx = true
  token : sameHex (getField receipt "to") settlement.token = true
  logs : ∃ blockNumber logs,
    Confirmer.quantity (getField receipt "blockNumber") = some blockNumber ∧
    settlement.fromBlock ≤ blockNumber ∧ LogsAre receipt logs ∧
    (∃ fetchedLogs, ∃ log ∈ logs, TransferLog settlement blockNumber fetchedLogs log index) ∧
    ∃ log ∈ logs, ∃ other, AuthorizationLog settlement blockNumber log other ∧ index ≠ other

/-- An order with a resource and the identity of a settlement that its payments have made. -/
structure Released (events : List Event) (order : Order) : Prop where
  resource : ∃ content, order.resource = some content
  identity : ∃ authorization txHash settlement receipt index,
    order.settlementIdentity =
      some ⟨sut.config.chainId, lower sut.config.tokenAddress, lower txHash, index⟩ ∧
    sut.Broadcast events order.orderId authorization txHash ∧
    Obtained events order.orderId txHash receipt ∧
    sut.settlementFor order authorization txHash = .ok settlement ∧
    SettledBy settlement receipt index

/-- What is pending was broadcast by a service that waits. -/
def PendingKnown (events : List Event) (key : Str) (order : Order) : Prop :=
  ∀ txHash authorization, order.pendingTx = some txHash →
    order.pendingAuthorization = some authorization →
    sut.config.confirmWithoutWaiting = false ∧ sut.Broadcast events key authorization txHash

/-- The receipts that a payment obtains are within `uint256`. -/
def QuantitiesBounded (event : Event) : Prop :=
  ∀ orderId authorization said result, event = .pay orderId authorization said result →
    ∀ txHash receipt, polled txHash (.ok (.dict receipt)) ∈ said → Uint256Quantities receipt

omit [Interpreter] in
theorem quantitiesBounded_quote (said : Conversation) (result : Except PyError QuoteResponse) :
    QuantitiesBounded (.quote said result) := by
  intro _ _ _ _ impossible
  cases impossible

omit [Interpreter] in
theorem quantitiesBounded_pay {orderId : Str} {authorization : Fields} {said : Conversation}
    {result : Except PyError PayResponse}
    (limit : ∀ txHash receipt, polled txHash (.ok (.dict receipt)) ∈ said →
      Uint256Quantities receipt) : QuantitiesBounded (.pay orderId authorization said result) := by
  intro _ _ _ _ same
  cases same
  exact limit

variable {sut} {events : List Event} {orderId txHash : Str} {authorization : Fields}
  {order : Order} {said : Conversation} {result : Except PyError PayResponse}
  {change : Order → Order}

theorem Broadcast.mono (broadcast : sut.Broadcast events orderId authorization txHash)
    (event : Event) : sut.Broadcast (events ++ [event]) orderId authorization txHash := by
  rcases broadcast.sent with ⟨said, result, raw, mem, sent⟩
  exact ⟨broadcast.toAccepted, said, result, raw, List.mem_append_left _ mem, sent⟩

omit [Interpreter] in
theorem Obtained.mono {receipt : Fields} (obtained : Obtained events orderId txHash receipt)
    (event : Event) : Obtained (events ++ [event]) orderId txHash receipt := by
  rcases obtained with ⟨authorization, said, result, mem, got⟩
  exact ⟨authorization, said, result, List.mem_append_left _ mem, got⟩

theorem Released.mono (released : sut.Released events order) (event : Event) :
    sut.Released (events ++ [event]) order := by
  rcases released.identity with
    ⟨authorization, txHash, settlement, receipt, index, identity, broadcast, obtained, proved⟩
  exact ⟨released.resource, authorization, txHash, settlement, receipt, index, identity,
    broadcast.mono event, obtained.mono event, proved⟩

/-- The evidence does not depend on what payments change. -/
theorem Released.congr {changed : Order} (released : sut.Released events order)
    (same : order.SameQuote changed) (sameResource : changed.resource = order.resource)
    (sameIdentity : changed.settlementIdentity = order.settlementIdentity) :
    sut.Released events changed := by
  rcases released.identity with
    ⟨authorization, txHash, settlement, receipt, index, identity, broadcast, obtained, read,
      settled⟩
  refine ⟨sameResource ▸ released.resource, authorization, txHash, settlement, receipt, index,
    sameIdentity.trans identity, ?_, ?_, ?_, settled⟩
  · rw [same.orderId]
    exact broadcast
  · rw [same.orderId]
    exact obtained
  · rw [settlementFor, same.amount, same.createdBlock]
    exact read

theorem pendingKnown_of_none (none : order.pendingTx = none) :
    sut.PendingKnown events orderId order := by
  intro txHash authorization isTx
  rw [none] at isTx
  cases isTx

theorem PendingKnown.mono {changed : Order} (known : sut.PendingKnown events orderId order)
    (event : Event) (sameTx : changed.pendingTx = order.pendingTx)
    (sameAuthorization : changed.pendingAuthorization = order.pendingAuthorization) :
    sut.PendingKnown (events ++ [event]) orderId changed := by
  intro txHash authorization isTx isAuthorization
  rcases known txHash authorization (sameTx ▸ isTx) (sameAuthorization ▸ isAuthorization) with
    ⟨patient, broadcast⟩
  exact ⟨patient, broadcast.mono event⟩

/-! ### What a confirmation does to the evidence -/

/-- The confirmer finds a settlement only in a receipt that proves it. -/
theorem settledBy_of_watched {settlement : Settlement} {receipt : Fields} {index : ℤ}
    (watched : Watched settlement (some receipt) said (.ok (some index))) :
    SettledBy settlement receipt index := by
  cases mined : minedIn settlement receipt with
  | none => cases ((watched_unmined_iff mined).mp watched).2
  | some blockNumber =>
    rcases (watched_iff mined).mp watched with ⟨fetched, _, isFetched⟩
    cases fetched with
    | error error => cases isFetched
    | ok fetchedLogs =>
      have found := (Except.ok.inj isFetched).symm
      rcases transferIndex_eq_some_iff.mp found with
        ⟨logs, authorization, isLogs, isTransfer, isUse, different⟩
      rcases minedIn_eq_some_iff.mp mined with ⟨status, same, token, isNumber, late⟩
      rcases List.mem_filterMap.mp (List.mem_of_getLast? isTransfer) with ⟨log, mem, selected⟩
      rcases List.mem_filterMap.mp (List.mem_of_getLast? isUse) with ⟨use, useMem, useSelected⟩
      exact ⟨status, same, token, blockNumber, logs, isNumber, late, isLogs,
        ⟨fetchedLogs, log, mem, transferOf_eq_some_iff.mp selected⟩, use, useMem, authorization,
        authorizationOf_eq_some_iff.mp useSelected, different⟩

/-- The index of a settlement in a receipt within `uint256` is one. -/
theorem SettledBy.bounded {settlement : Settlement} {receipt : Fields} {index : ℤ}
    (settled : SettledBy settlement receipt index) (valid : Anvil.ReceiptShape receipt)
    (limit : Uint256Quantities receipt) : 0 ≤ index ∧ index ≤ uint256Max := by
  rcases settled.logs with ⟨_, logs, _, _, isLogs, ⟨_, log, mem, transfer⟩, _⟩
  rcases (shape_of_mem valid isLogs mem).logIndex with ⟨text, isText, shape⟩
  have isIndex := transfer.logIndex
  rw [isText] at isIndex
  rw [int16_of_isQuantity shape isIndex]
  exact ⟨Int.natCast_nonneg _,
    Int.ofNat_le.mpr (limit logs isLogs log mem "logIndex" (by simp) text isText)⟩

variable (sut) in
/-- A settlement that a confirmation has found and booked. -/
structure Books (order : Order) (authorization : Fields) (txHash : Str) (receipt : Fields)
    (change : Order → Order) : Prop where
  settled : ∃ settlement index, sut.settlementFor order authorization txHash = .ok settlement ∧
    SettledBy settlement receipt index ∧
    change = Order.booked ⟨sut.config.chainId, lower sut.config.tokenAddress, lower txHash, index⟩

theorem Judged.books {receipt : Option Fields}
    (judged : sut.Judged order authorization txHash receipt said result change)
    (accepted : sut.Accepted authorization txHash)
    (valid : ∀ fields, receipt = some fields →
      Anvil.ReceiptShape fields ∧ Uint256Quantities fields) :
    change = Order.resolved ∨
      ∃ fields, receipt = some fields ∧ sut.Books order authorization txHash fields change := by
  have found : ∀ {settlement : Settlement} {index : ℤ},
      Watched settlement receipt said (.ok (some index)) → ∃ fields, receipt = some fields ∧
        SettledBy settlement fields index ∧ 0 ≤ index ∧ index ≤ uint256Max := by
    intro settlement index watched
    cases receipt with
    | none => cases (watched_none_iff.mp watched).2
    | some fields =>
      have settled := settledBy_of_watched watched
      rcases valid fields rfl with ⟨shape, limit⟩
      exact ⟨fields, rfl, settled, settled.bounded shape limit⟩
  have positive : 0 < sut.config.chainId := by
    have listed := accepted.allowed
    simp only [allowedSettlementChainIds, List.mem_cons, List.not_mem_nil, or_false] at listed
    omega
  cases judged with
  | unread => exact Or.inl rfl
  | failed => exact Or.inl rfl
  | unsettled => exact Or.inl rfl
  | unidentified read watched refused =>
    rcases found watched with ⟨_, _, _, nonnegative, small⟩
    rw [(settlementIdentity_eq_ok_iff sut.exact accepted.shape).mpr
      ⟨positive, nonnegative, small, rfl⟩] at refused
    cases refused
  | settled read watched identified =>
    rcases found watched with ⟨fields, isReceipt, settled, _⟩
    rcases (settlementIdentity_eq_ok_iff sut.exact accepted.shape).mp identified with
      ⟨_, _, _, rfl⟩
    exact Or.inr ⟨fields, isReceipt, _, _, read, settled, rfl⟩

/-- A confirmation leaves the settlement alone, waits for it or books it. -/
theorem Confirmed.books (confirmed : sut.Confirmed order authorization txHash said result change)
    (accepted : sut.Accepted authorization txHash)
    (limit : ∀ receipt, polled txHash (.ok (.dict receipt)) ∈ said → Uint256Quantities receipt) :
    change = Order.resolved ∨ change = id ∨
      (change = Order.waiting txHash authorization ∧ sut.config.confirmWithoutWaiting = false) ∨
      ∃ receipt, polled txHash (.ok (.dict receipt)) ∈ said ∧
        sut.Books order authorization txHash receipt change := by
  cases confirmed with
  | unwatched _ judged =>
    have valid : ∀ fields, none = some fields →
        Anvil.ReceiptShape fields ∧ Uint256Quantities fields := by
      intro fields impossible
      cases impossible
    rcases judged.books accepted valid with resolved | ⟨fields, impossible, _⟩
    · exact Or.inl resolved
    · cases impossible
  | @mined receipt waited _ _ _ _ obtained judged =>
    rcases waitForReceipt_tells_iff.mp obtained with ⟨_, ⟨early, _, rfl⟩, shape⟩
    have got : polled txHash (.ok (.dict receipt)) ∈ polling txHash early receipt :=
      List.mem_append_right _ (List.mem_singleton.mpr rfl)
    have valid : ∀ fields, some receipt = some fields →
        Anvil.ReceiptShape fields ∧ Uint256Quantities fields := by
      intro fields same
      cases same
      exact ⟨shape, limit receipt (List.mem_append_left _ got)⟩
    rcases judged.books accepted valid with resolved | ⟨fields, same, books⟩
    · exact Or.inl resolved
    · cases same
      exact Or.inr (Or.inr (Or.inr ⟨receipt, List.mem_append_left _ got, books⟩))
  | pending patient => exact Or.inr (Or.inr (Or.inl ⟨rfl, patient⟩))
  | escaped => exact Or.inr (Or.inl rfl)

/-- What a confirmation does to what is pending. -/
theorem Confirmed.pending_cases
    (confirmed : sut.Confirmed order authorization txHash said result change) (given : Order) :
    (change given).pendingTx = none ∨
      ((change given).pendingTx = given.pendingTx ∧
        (change given).pendingAuthorization = given.pendingAuthorization) ∨
      ((change given).pendingTx = some txHash ∧
        (change given).pendingAuthorization = some authorization ∧
        sut.config.confirmWithoutWaiting = false) := by
  have judged : ∀ {receipt said result change},
      sut.Judged order authorization txHash receipt said result change →
        (change given).pendingTx = none := by
    intro receipt said result change judged
    cases judged with
    | unread => rfl
    | failed => rfl
    | unsettled => rfl
    | unidentified => rfl
    | settled => rfl
  cases confirmed with
  | unwatched _ isJudged => exact Or.inl (judged isJudged)
  | mined _ _ isJudged => exact Or.inl (judged isJudged)
  | pending patient => exact Or.inr (Or.inr ⟨rfl, rfl, patient⟩)
  | escaped => exact Or.inr (Or.inl ⟨rfl, rfl⟩)

/-- A payment that broadcasts is an event that says so. -/
theorem broadcast_of_submitted {sent later : Conversation} {now : Ask.Answer .clock}
    (told : Tells (sut.submitSettlement authorization : Proc SutState Str) sent (.ok txHash)) :
    sut.Broadcast (events ++ [.pay orderId authorization (⟨Ask.clock, now⟩ :: (sent ++ later))
      result]) orderId authorization txHash := by
  rcases accepted_of_submitted told with ⟨accepted, raw, mem⟩
  exact ⟨accepted, _, result, raw, List.mem_append_right _ (List.mem_singleton.mpr rfl),
    List.mem_cons_of_mem _ (List.mem_append_left _ mem)⟩

theorem PendingKnown.confirmed {given : Order} {later : List Event}
    (known : sut.PendingKnown later orderId given)
    (broadcast : sut.Broadcast later orderId authorization txHash)
    (confirmed : sut.Confirmed order authorization txHash said result change) :
    sut.PendingKnown later orderId (change given) := by
  intro otherTx original isTx isAuthorization
  rcases confirmed.pending_cases given with none | ⟨sameTx, sameAuthorization⟩ |
    ⟨waitsTx, waitsAuthorization, patient⟩
  · rw [none] at isTx
    cases isTx
  · exact known otherTx original (sameTx ▸ isTx) (sameAuthorization ▸ isAuthorization)
  · rw [waitsTx, Option.some.injEq] at isTx
    rw [waitsAuthorization, Option.some.injEq] at isAuthorization
    rw [← isTx, ← isAuthorization]
    exact ⟨patient, broadcast⟩

omit [Interpreter] in
theorem inFlight_eq_some_iff {original : Fields} :
    sut.inFlight order = some (original, txHash) ↔
      order.pendingTx = some txHash ∧ order.pendingAuthorization = some original ∧
        sut.config.idempotentPay = true := by
  rw [inFlight]
  cases order.pendingTx with
  | none => simp
  | some pendingTx =>
    cases order.pendingAuthorization with
    | none => simp
    | some pendingAuthorization =>
      cases sut.config.idempotentPay with
      | false => simp
      | true =>
        simp only [if_true, Option.some.injEq, Prod.mk.injEq, and_true]
        exact and_comm

/-- A payment keeps what is known about what is pending. -/
theorem PendingKnown.paid {state : SutState} (known : sut.PendingKnown events orderId order)
    (changes : sut.Changes state orderId authorization order said result change) :
    sut.PendingKnown (events ++ [.pay orderId authorization said result]) orderId
      (change order) := by
  cases changes with
  | retried _ inFlight confirmed =>
    rcases inFlight_eq_some_iff.mp inFlight with ⟨isTx, isAuthorization, _⟩
    have broadcast := (known _ _ isTx isAuthorization).2
    exact (known.mono _ rfl rfl).confirmed (broadcast.mono _) confirmed
  | unsubmitted => exact known.mono _ rfl rfl
  | @submitted now nonce txHash _ _ _ _ _ broadcast confirmed =>
    have kept : ∀ event, sut.PendingKnown (events ++ [event]) orderId
        ((order.attempted nonce).submitted txHash) := fun event => known.mono event rfl rfl
    exact (kept _).confirmed (broadcast_of_submitted broadcast) confirmed

variable (sut) in
/-- What is pending was broadcast, in every run. -/
theorem pendingKnown_invariant (allowed : List Event → Service → Event → Prop) :
    sut.OrderInvariant allowed sut.PendingKnown where
  mono event known := known.mono event rfl rfl
  quote _ := pendingKnown_of_none rfl
  change known _ _ changes := known.paid changes
  book _ _ _ _ _ := pendingKnown_of_none rfl

/-! ### What is released -/

variable (sut) in
/-- A paid order that was not recovered is released for a settlement of its own. -/
def ReleaseKnown (events : List Event) (order : Order) : Prop :=
  order.paid = true → order.recovered = false → sut.Released events order

theorem ReleaseKnown.confirmed {given : Order} {later : List Event}
    (known : sut.ReleaseKnown later given) (same : order.SameQuote given)
    (keyed : order.orderId = orderId)
    (broadcast : sut.Broadcast later orderId authorization txHash)
    (obtained : ∀ receipt, polled txHash (.ok (.dict receipt)) ∈ said →
      Obtained later orderId txHash receipt)
    (limit : ∀ receipt, polled txHash (.ok (.dict receipt)) ∈ said → Uint256Quantities receipt)
    (confirmed : sut.Confirmed order authorization txHash said result change) :
    sut.ReleaseKnown later (change given) := by
  have sameQuote := confirmed.same given
  rcases confirmed.books broadcast.toAccepted limit with rfl | rfl | ⟨rfl, _⟩ |
    ⟨receipt, got, settlement, index, read, settled, rfl⟩
  · exact fun paid quoted => (known paid quoted).congr sameQuote rfl rfl
  · exact known
  · exact fun paid quoted => (known paid quoted).congr sameQuote rfl rfl
  · intro _ _
    refine ⟨⟨_, rfl⟩, authorization, txHash, settlement, receipt, index, rfl, ?_, ?_, ?_, settled⟩
    · rw [sameQuote.orderId, same.orderId, keyed]
      exact broadcast
    · rw [sameQuote.orderId, same.orderId, keyed]
      exact obtained receipt got
    · rw [settlementFor, sameQuote.amount, same.amount, sameQuote.createdBlock, same.createdBlock]
      exact read

theorem ReleaseKnown.paid {state : SutState} (known : sut.ReleaseKnown events order)
    (pending : sut.PendingKnown events orderId order) (keyed : order.orderId = orderId)
    (bounded : QuantitiesBounded (.pay orderId authorization said result))
    (changes : sut.Changes state orderId authorization order said result change) :
    sut.ReleaseKnown (events ++ [.pay orderId authorization said result]) (change order) := by
  have limits := bounded orderId authorization said result rfl
  have kept : sut.ReleaseKnown (events ++ [.pay orderId authorization said result]) order :=
    fun paid quoted => (known paid quoted).mono _
  have said_ : ∀ txHash receipt, polled txHash (.ok (.dict receipt)) ∈ said →
      Obtained (events ++ [.pay orderId authorization said result]) orderId txHash receipt :=
    fun txHash receipt mem => ⟨authorization, said, result,
      List.mem_append_right _ (List.mem_singleton.mpr rfl), mem⟩
  cases changes with
  | retried _ inFlight confirmed =>
    rcases inFlight_eq_some_iff.mp inFlight with ⟨isTx, isAuthorization, _⟩
    have broadcast := (pending _ _ isTx isAuthorization).2
    exact kept.confirmed ⟨rfl, rfl, rfl, rfl, rfl, rfl⟩ keyed (broadcast.mono _) (said_ _)
      (limits _) confirmed
  | unsubmitted =>
    exact fun paid quoted => (kept paid quoted).congr ⟨rfl, rfl, rfl, rfl, rfl, rfl⟩ rfl rfl
  | @submitted now nonce txHash sent _ _ _ _ broadcast confirmed =>
    have attempted : sut.ReleaseKnown _ ((order.attempted nonce).submitted txHash) :=
      fun paid quoted => (kept paid quoted).congr ⟨rfl, rfl, rfl, rfl, rfl, rfl⟩ rfl rfl
    have same : order.SameQuote ((order.attempted nonce).submitted txHash) :=
      ⟨rfl, rfl, rfl, rfl, rfl, rfl⟩
    refine attempted.confirmed same keyed (broadcast_of_submitted broadcast) ?_ ?_ confirmed
    · exact fun receipt mem =>
        said_ txHash receipt (List.mem_cons_of_mem _ (List.mem_append_right _ mem))
    · exact fun receipt mem =>
        limits txHash receipt (List.mem_cons_of_mem _ (List.mem_append_right _ mem))

variable (sut) in
theorem releaseKnown_invariant :
    sut.OrderInvariant (fun _ _ event => QuantitiesBounded event) fun events key order =>
      sut.PendingKnown events key order ∧ sut.ReleaseKnown events order where
  mono event known :=
    ⟨known.1.mono event rfl rfl, fun paid quoted => (known.2 paid quoted).mono event⟩
  quote _ := by
    refine ⟨pendingKnown_of_none rfl, ?_⟩
    intro paid
    cases paid
  change known keyed permitted changes :=
    ⟨known.1.paid changes, known.2.paid known.1 keyed permitted changes⟩
  book _ _ _ _ _ := by
    refine ⟨pendingKnown_of_none rfl, ?_⟩
    intro _ quoted
    cases quoted

/-- In every run, what is paid and not recovered was settled by payments of the order, and only
what is paid is delivered. -/
theorem release_evidence (sut : ReferenceSut) {events : List Event} {service : Service}
    (run : sut.Run (fun _ _ event => QuantitiesBounded event) events service) :
    (∀ key order, service.state.orders.lookup key = some order → order.paid = true →
        order.recovered = false → order.orderId = key ∧ sut.Released events order) ∧
      ∀ orderId content state,
        (resource orderId).Replays service.state [] (.ok (200, content)) state →
        ∃ order, service.state.orders.lookup orderId = some order ∧ order.paid = true := by
  refine ⟨?_, ?_⟩
  · intro key order found paid quoted
    rcases (sut.releaseKnown_invariant.of_run run) key order found with ⟨keyed, _, released⟩
    exact ⟨keyed, released paid quoted⟩
  · intro orderId content state replays
    rw [resource, status] at replays
    rcases replays with ⟨_, answered, _⟩
    rw [Except.ok.injEq] at answered
    split_ifs at answered with paid
    · rw [statusOf] at paid
      cases found : service.state.orders.lookup orderId with
      | none =>
        rw [found] at paid
        cases paid
      | some order =>
        rw [found] at paid
        exact ⟨order, rfl, paid⟩
    · cases congrArg Prod.fst answered

/-! ### A sample run -/

section Sample

def sampleOrderId : Str := "ord_01".toList

def sampleOrder : Order := sampleSut.quotedOrder sampleOrderId 1000 100 0

def sampleClock : Ask.Answer .clock := (⟨1000, by norm_num⟩ : { seconds : ℤ // 0 < seconds })

/-- What is said when the sample order is quoted. -/
def sampleQuoting : Conversation :=
  [⟨Ask.tokenHex 8, ("01" : String)⟩, ⟨Ask.clock, sampleClock⟩,
    exchange "eth_blockNumber" [] (.ok (.str "0x0".toList))]

/-- The ledger with the sample order. -/
def sampleState : SutState := ⟨Dict.setItem ∅ sampleOrderId sampleOrder, 100⟩

omit [Interpreter] in
theorem sample_quotes : letI := asciiInterpreter []
    sampleSut.Quotes ⟨∅, 100⟩ sampleQuoting (sampleSut.quoteAnswer sampleOrderId 1000)
      sampleState := by
  let := asciiInterpreter []
  have height : Tells (blockNumber : Proc SutState ℕ)
      [exchange "eth_blockNumber" [] (.ok (.str "0x0".toList))] (.ok 0) :=
    ⟨⟨∅, 0⟩, replays_checked_iff.mpr ⟨.ok (.str "0x0".toList), rfl, by decide +kernel, rfl⟩⟩
  exact .quoted height

omit [Interpreter] in
theorem sample_lookup : sampleState.orders.lookup sampleOrderId = some sampleOrder := by
  rw [sampleState, Dict.lookup_setItem, if_pos rfl]

omit [Interpreter] in
theorem sample_admitted : letI := asciiInterpreter []
    sampleSut.Admitted sampleState sampleOrderId sampleAuthorization sampleOrder sampleClock.1
      (hexWord 0x77) := by
  let := asciiInterpreter []
  refine ⟨⟨sample_lookup, ?_⟩, rfl, ?_, rfl, rfl⟩
  · rintro ⟨paid, _⟩
    cases paid
  · change (1000 : ℤ) ≤ 1000 + 300
    norm_num

omit [Interpreter] in
theorem sample_settlement {order : Order} (amount : order.amount = 100)
    (createdBlock : order.createdBlock = 0) : letI := asciiInterpreter []
    sampleSut.settlementFor order sampleAuthorization (hexWord 0x1001) =
      .ok sampleSettlement := by
  let := asciiInterpreter []
  rw [settlementFor, amount, createdBlock]
  rfl

/-- The sample order while its settlement is pending. -/
def samplePending : Order :=
  ((sampleOrder.attempted (hexWord 0x77)).submitted (hexWord 0x1001)).waiting (hexWord 0x1001)
    sampleAuthorization

/-- The ledger while the settlement of the sample order is pending. -/
def pendingState : SutState :=
  alterOrder sampleState sampleOrderId fun order =>
    ((order.attempted (hexWord 0x77)).submitted (hexWord 0x1001)).waiting (hexWord 0x1001)
      sampleAuthorization

omit [Interpreter] in
theorem pending_lookup : pendingState.orders.lookup sampleOrderId = some samplePending := by
  rw [pendingState, alterOrder, Dict.lookup_alter_self, sample_lookup]
  rfl

omit [Interpreter] in
/-- The sample payment broadcasts, and the poll for the receipt fails. -/
def samplePaying (transaction : Transaction) : Conversation :=
  ⟨Ask.clock, sampleClock⟩ ::
    (sampleSent transaction ++ [polled (hexWord 0x1001) (.error "timeout")])

omit [Interpreter] in
theorem exists_samplePaying : letI := asciiInterpreter []
    ∃ transaction, sampleSut.Pays sampleState sampleOrderId sampleAuthorization
      (samplePaying transaction) (.ok (.settlementPending sampleOrderId (hexWord 0x1001)))
      pendingState := by
  let := asciiInterpreter []
  rcases exists_sampleSubmission with ⟨transaction, told⟩
  have confirmed : sampleSut.Confirmed sampleOrder sampleAuthorization (hexWord 0x1001)
      [polled (hexWord 0x1001) (.error "timeout")]
      (.ok (.settlementPending sampleOrderId (hexWord 0x1001)))
      (Order.waiting (hexWord 0x1001) sampleAuthorization) :=
    .pending rfl (waitForReceipt_tells_failed (isExactHex_hexPad 64 _) (by decide)) rfl
  exact ⟨transaction, .changed (.submitted sample_admitted told confirmed)⟩

/-- The identity of the sample settlement. -/
def sampleIdentity : SettlementIdentity := ⟨31337, hexAddress 0x70, hexWord 0x1001, 1⟩

/-- The ledger after the settlement of the sample order was booked. -/
def bookedState : SutState :=
  alterOrder pendingState sampleOrderId (Order.booked sampleIdentity)

/-- A retry of the sample payment obtains the receipt and the logs. -/
def sampleRetrying (filter : Value) : Conversation :=
  polling (hexWord 0x1001) 0 (sampleReceipt (hexWord 100)) ++ sampleFetched filter

omit [Interpreter] in
theorem exists_sampleRetry : letI := asciiInterpreter []
    ∃ filter, sampleSut.Pays pendingState sampleOrderId sampleAuthorization
      (sampleRetrying filter)
      (.ok (.judged sampleOrderId (hexWord 0x1001) true))
      bookedState := by
  let := asciiInterpreter []
  rcases exists_sampleWatch with ⟨filter, watched⟩
  have open_ : sampleSut.Unsettled pendingState sampleOrderId samplePending := by
    refine ⟨pending_lookup, ?_⟩
    rintro ⟨paid, _⟩
    cases paid
  have obtained : Tells (waitForReceipt (hexWord 0x1001) 3 : Proc SutState Fields)
      (polling (hexWord 0x1001) 0 (sampleReceipt (hexWord 100)))
      (.ok (sampleReceipt (hexWord 100))) :=
    waitForReceipt_tells_iff.mpr ⟨isExactHex_hexPad 64 _, ⟨0, by decide, rfl⟩,
      sampleReceipt_shape (by decide)⟩
  have identified : settlementIdentity 31337 (hexAddress 0x70) (hexWord 0x1001) 1 =
      .ok sampleIdentity := by
    decide +kernel
  have confirmed : sampleSut.Confirmed samplePending sampleAuthorization (hexWord 0x1001)
      (sampleRetrying filter) (.ok (.judged sampleOrderId (hexWord 0x1001) true))
      (Order.booked sampleIdentity) :=
    .mined rfl obtained (.settled (sample_settlement rfl rfl) watched identified)
  exact ⟨filter, .changed (.retried open_ rfl confirmed)⟩

/-- One payment of the order broadcast the settled transaction and obtained its receipt. -/
def ReleasedAtOnce (events : List Event) (order : Order) : Prop :=
  ∃ identity authorization said result raw txHash receipt,
    order.settlementIdentity = some identity ∧ lower txHash = identity.txHash ∧
    Event.pay order.orderId authorization said result ∈ events ∧
    exchange "eth_sendRawTransaction" [.str raw] (.ok (.str txHash)) ∈ said ∧
    polled txHash (.ok (.dict receipt)) ∈ said

theorem notMem_samplePaying {transaction : Transaction} {txHash : Str} {receipt : Fields} :
    polled txHash (.ok (.dict receipt)) ∉ samplePaying transaction :=
  fun mem => List.not_mem_nil (mem_receipts mem)

omit [Interpreter] in
theorem mem_sampleRetrying {filter : Value} {txHash : Str} {receipt : Fields}
    (mem : polled txHash (.ok (.dict receipt)) ∈ sampleRetrying filter) :
    receipt = sampleReceipt (hexWord 100) :=
  List.mem_singleton.mp (mem_receipts mem)

omit [Interpreter] in
/-- The sample order is settled in two payments. -/
theorem exists_sampleRun : letI := asciiInterpreter []
    ∃ quoted transaction filter, sampleSut.Run (fun _ _ event => QuantitiesBounded event)
      [.quote sampleQuoting quoted,
        .pay sampleOrderId sampleAuthorization (samplePaying transaction)
          (.ok (.settlementPending sampleOrderId (hexWord 0x1001))),
        .pay sampleOrderId sampleAuthorization (sampleRetrying filter)
          (.ok (.judged sampleOrderId (hexWord 0x1001) true))]
      ⟨bookedState, []⟩ := by
  let := asciiInterpreter []
  rcases exists_samplePaying with ⟨transaction, paying⟩
  rcases exists_sampleRetry with ⟨filter, retrying⟩
  refine ⟨sampleSut.quoteAnswer sampleOrderId 1000, transaction, filter, ?_⟩
  have new : sampleSut.Run (fun _ _ event => QuantitiesBounded event) [] ⟨⟨∅, 100⟩, []⟩ := .start
  have quoted := new.step (quantitiesBounded_quote _ _)
    (.quote (quote_replays_iff.mpr sample_quotes))
  have paid := quoted.step (quantitiesBounded_pay fun _ _ mem => absurd mem notMem_samplePaying)
    (.pay (pay_replays_iff.mpr paying))
  refine paid.step (quantitiesBounded_pay ?_) (.pay (pay_replays_iff.mpr retrying))
  intro txHash receipt mem
  rw [mem_sampleRetrying mem]
  exact sampleReceipt_bounded _

omit [Interpreter] in
theorem booked_lookup :
    bookedState.orders.lookup sampleOrderId = some (samplePending.booked sampleIdentity) := by
  rw [bookedState, alterOrder, Dict.lookup_alter_self, pending_lookup]
  rfl

omit [Interpreter] in
/-- The sample order is released for a settlement of its payments. -/
theorem release_evidence_sample : letI := asciiInterpreter []
    ∃ events, ∃ service : Service, ∃ order, service.state.orders.lookup sampleOrderId = some order ∧
      order.paid = true ∧ order.orderId = sampleOrderId ∧ sampleSut.Released events order := by
  let := asciiInterpreter []
  rcases exists_sampleRun with ⟨_, _, _, run⟩
  exact ⟨_, ⟨bookedState, []⟩, _, booked_lookup, rfl,
    (release_evidence sampleSut run).1 _ _ booked_lookup rfl rfl⟩

omit [Interpreter] in
/-- No payment of the sample order has both broadcast and obtained the receipt. -/
theorem released_in_two_payments : letI := asciiInterpreter []
    ∃ events, ∃ service : Service, ∃ order, sampleSut.Run (fun _ _ event => QuantitiesBounded event) events
        service ∧ service.state.orders.lookup sampleOrderId = some order ∧ order.paid = true ∧
      order.recovered = false ∧ ¬ReleasedAtOnce events order := by
  let := asciiInterpreter []
  rcases exists_sampleRun with ⟨quoted, transaction, filter, run⟩
  refine ⟨_, ⟨bookedState, []⟩, _, run, booked_lookup, rfl, rfl, ?_⟩
  rintro ⟨_, authorization, said, result, raw, txHash, receipt, _, _, mem, sent, got⟩
  simp only [List.mem_cons, List.not_mem_nil, or_false, reduceCtorEq, false_or,
    Event.pay.injEq] at mem
  rcases mem with ⟨_, _, rfl, _⟩ | ⟨_, _, rfl, _⟩
  · exact notMem_samplePaying got
  · have broadcast : [Value.str raw] ∈ broadcasts (sampleRetrying filter) :=
      List.mem_filterMap.mpr ⟨_, sent, rfl⟩
    exact List.not_mem_nil broadcast

end Sample

end ReferenceSut

end Psv
