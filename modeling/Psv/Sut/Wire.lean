import Psv.Quirks.Rendering
import Psv.Sut.Adapter
import Psv.Sut.Healing

/-!
# What the service answers and what the adapter reads

The bodies that `create_app` returns are those of `quote`, `pay` and `status`.  In
every run the adapter's parsers accept them and read what the service meant; a
payment that the adapter reads as settled is paid in the ledger, one that it reads
as pending names the transaction that the ledger waits for, and a status names
the transaction of the last payment.
-/

namespace Psv

open Python Python.Decimal Interaction Program Chain RpcClient Reconciliation SutAdapter

/-! ### Outcomes -/

namespace SutAdapter

/-- What a pay answer means for the order, before chain truth is consulted. -/
inductive PayOutcome where
  | settled
  | pending
  | unsettled
  deriving DecidableEq

/-- Map the answer to settled, pending (`settlement_pending` and a transaction) or unsettled. -/
def PayResult.outcome (result : PayResult) : PayOutcome :=
  if result.settled then .settled
  else if result.reason = some settlementPending ∧ result.submittedTx ≠ none then .pending
  else .unsettled

/-- The positive chain identifier of the network. -/
def Quote.chainId [Interpreter] (quote : Quote) : Except PyError ℤ := do
  let digits ← orRaise (networkDigits quote.network)
    (.sutAdapterError s!"invalid CAIP-2 EVM network: {Interpreter.repr (.str quote.network)}")
  intOfDigits digits

end SutAdapter

/-! ### Bodies -/

/-- A text, or null. -/
def orNull : Option Str → Value
  | none => .null
  | some text => .str text

def QuoteResponse.toValue (response : QuoteResponse) : Value :=
  .dict [(.str "order_id", .str response.orderId), (.str "amount", .str response.amount),
    (.str "payTo", .str response.payTo), (.str "asset", .str response.asset),
    (.str "network", .str response.network),
    (.str "extra", .dict [(.str "name", .str response.name),
      (.str "version", .str response.version)]),
    (.str "expires_at", .int response.expiresAt)]

def PayResponse.toValue : PayResponse → Value
  | .refused orderId reason =>
      .dict [(.str "order_id", .str orderId), (.str "settled", .bool false),
        (.str "reason", .str reason.toList)]
  | .alreadySettled orderId submittedTx =>
      .dict [(.str "order_id", .str orderId), (.str "settled", .bool true),
        (.str "submitted_tx", orNull submittedTx), (.str "idempotent", .bool true)]
  | .settlementPending orderId submittedTx =>
      .dict [(.str "order_id", .str orderId), (.str "submitted_tx", .str submittedTx),
        (.str "settled", .bool false), (.str "reason", .str SutAdapter.settlementPending)]
  | .judged orderId submittedTx settled =>
      .dict [(.str "order_id", .str orderId), (.str "submitted_tx", .str submittedTx),
        (.str "settled", .bool settled)]

def StatusResponse.toValue (response : StatusResponse) : Value :=
  .dict [(.str "order_id", .str response.orderId), (.str "paid", .bool response.paid),
    (.str "resource", orNull response.resource),
    (.str "submitted_tx", orNull response.submittedTx), (.str "known", .bool response.known)]

/-- What the adapter is to read of an answer to a payment. -/
def PayResponse.result : PayResponse → PayResult
  | .refused orderId reason => ⟨orderId, none, false, some reason.toList⟩
  | .alreadySettled orderId submittedTx => ⟨orderId, submittedTx, true, none⟩
  | .settlementPending orderId submittedTx =>
      ⟨orderId, some submittedTx, false, some SutAdapter.settlementPending⟩
  | .judged orderId submittedTx settled => ⟨orderId, some submittedTx, settled, none⟩

/-! ### Numerals -/

theorem isNumeral_toDigits {n : ℕ} (positive : 0 < n) :
    isPositiveNumeral (Nat.toDigits 10 n) = true := by
  have head := head_toDigits positive
  have digits : ∀ c ∈ Nat.toDigits 10 n, c.isDigit = true :=
    fun c mem => Nat.isDigit_of_mem_toDigits (by decide) (by decide) mem
  cases text : Nat.toDigits 10 n with
  | nil => exact absurd text Nat.toDigits_ne_nil
  | cons first rest =>
    rw [text] at head digits
    have nonzero : first ≠ '0' := by
      rintro rfl
      exact head rfl
    have all : (first :: rest).all Char.isDigit = true := List.all_eq_true.mpr digits
    rw [isPositiveNumeral, Bool.and_eq_true]
    constructor
    · rw [isNumeral.eq_def]
      split
      · rename_i same
        cases same
      · rename_i same
        cases same
        exact absurd rfl nonzero
      · exact all
    · simp [nonzero]

/-- A positive number is written with its digits. -/
theorem showInt_digits {n : ℤ} {text : String} (positive : 0 < n) (shown : showInt n = .ok text) :
    text.toList = Nat.toDigits 10 n.toNat := by
  rw [showInt, intStr] at shown
  split_ifs at shown
  · cases shown
    have sign : ¬n < 0 := not_lt.mpr positive.le
    have same : n.natAbs = n.toNat := by omega
    rw [decDigits, if_neg sign, same]
    exact String.toList_ofList
  · cases shown

section Parsing

variable [Interpreter] {n : ℤ} {text : String}

omit [Interpreter] in
theorem isAmount_showInt (positive : 1 ≤ n) (bounded : n ≤ SutAdapter.uint256Max)
    (shown : showInt n = .ok text) : IsAmount text.toList n := by
  rw [showInt_digits positive shown]
  have numeral := isNumeral_toDigits (show 0 < n.toNat by omega)
  rw [isPositiveNumeral, Bool.and_eq_true] at numeral
  refine ⟨numeral.1, ?_, positive, bounded⟩
  rw [digitsVal_toDigits]
  omega

omit [Interpreter] in
theorem networkDigits_showInt (positive : 1 ≤ n) (shown : showInt n = .ok text) :
    networkDigits ("eip155:".toList ++ text.toList) = some (Nat.toDigits 10 n.toNat) := by
  rw [showInt_digits positive shown]
  exact if_pos (isNumeral_toDigits (by omega))

omit [Interpreter] in
theorem isNetwork_showInt (positive : 1 ≤ n) (bounded : n ≤ SutAdapter.uint256Max)
    (shown : showInt n = .ok text) : IsNetwork ("eip155:".toList ++ text.toList) := by
  refine ⟨_, networkDigits_showInt positive shown, ?_⟩
  rw [digitsVal_toDigits]
  omega

theorem chainId_showInt {quote : Quote} (positive : 1 ≤ n) (bounded : n ≤ SutAdapter.uint256Max)
    (shown : showInt n = .ok text) (network : quote.network = "eip155:".toList ++ text.toList) :
    quote.chainId = .ok n := by
  have numeral := isNumeral_toDigits (show 0 < n.toNat by omega)
  rw [isPositiveNumeral, Bool.and_eq_true] at numeral
  have short := not_isLong numeral.1 (by rw [digitsVal_toDigits]; omega)
  rw [Quote.chainId, network, orRaise_eq_ok_iff.mpr (networkDigits_showInt positive shown),
    Checks.ok_bind, intOfDigits_short numeral.1 short, digitsVal_toDigits,
    Int.toNat_of_nonneg (by omega)]

variable {fields : Fields} {orderId : Str} {reason submittedTx : Option Str} {settled : Bool}

theorem matchingOrderId_of {what : String} (has : HasText fields "order_id" orderId)
    (accepted : AcceptedId orderId) :
    matchingOrderId fields what (some orderId) = .ok orderId := by
  have read : SutAdapter.orderId (.str orderId) = .ok orderId :=
    orderId_eq_ok_iff.mpr ⟨rfl, accepted⟩
  rw [matchingOrderId, required_eq_ok_iff.mpr has, Checks.ok_bind, read, Checks.ok_bind]
  exact Checks.bind_eq_ok_iff.mpr ⟨(), refuse_eq_ok_iff.mpr (not_not.mpr rfl), rfl⟩

omit [Interpreter] in
theorem nullableString_orNull {text : Option Str} {field : String}
    (bounded : ∀ given ∈ text, BoundedText given) :
    nullableString (orNull text) field = .ok text := by
  cases text with
  | none => rfl
  | some given =>
    exact Checks.bind_eq_ok_iff.mpr ⟨given, wireString_eq_ok_iff.mpr ⟨rfl, bounded given rfl⟩, rfl⟩

omit [Interpreter] in
theorem transactionHash_orNull {text : Option Str} {field : String}
    (exact_ : ∀ given ∈ text, isExactHex 64 given = true) :
    transactionHash (orNull text) field = .ok text := by
  cases text with
  | none => rfl
  | some given =>
    have shape : ¬isExactHex 64 given = false := by simp [exact_ given rfl]
    exact Checks.bind_eq_ok_iff.mpr ⟨(), refuse_eq_ok_iff.mpr shape, rfl⟩

/-- A pay response is read field by field. -/
theorem parsePay_of (keys : StringKeys fields)
    (isSettled : fields.lookup (Key.str "settled") = some (.bool settled))
    (isReason : getField fields "reason" = orNull reason)
    (bounded : ∀ given ∈ reason, BoundedText given)
    (consistent : ¬(settled = true ∧ reason = some settlementPending))
    (has : HasText fields "order_id" orderId) (accepted : AcceptedId orderId)
    (isTx : getField fields "submitted_tx" = orNull submittedTx)
    (exact_ : ∀ given ∈ submittedTx, isExactHex 64 given = true) :
    parsePay (.dict fields) (some orderId) = .ok ⟨orderId, submittedTx, settled, reason⟩ := by
  have readSettled : boolean (.bool settled) "settled" = .ok settled := rfl
  rw [parsePay, bodyObject_eq_ok_iff.mpr ⟨rfl, keys⟩, Checks.ok_bind,
    required_eq_ok_iff.mpr isSettled, Checks.ok_bind, readSettled, Checks.ok_bind, isReason,
    nullableString_orNull bounded, Checks.ok_bind]
  refine Checks.bind_eq_ok_iff.mpr ⟨(), refuse_eq_ok_iff.mpr consistent, ?_⟩
  rw [matchingOrderId_of has accepted, Checks.ok_bind, isTx, transactionHash_orNull exact_]
  rfl

/-- A status response is read field by field. -/
theorem parseStatus_of {paid : Bool} {resource : Option Str} (keys : StringKeys fields)
    (isResource : fields.lookup (Key.str "resource") = some (orNull resource))
    (bounded : ∀ given ∈ resource, BoundedText given)
    (has : HasText fields "order_id" orderId) (accepted : AcceptedId orderId)
    (isPaid : fields.lookup (Key.str "paid") = some (.bool paid))
    (isTx : fields.lookup (Key.str "submitted_tx") = some (orNull submittedTx))
    (exact_ : ∀ given ∈ submittedTx, isExactHex 64 given = true) :
    parseStatus (.dict fields) (some orderId) = .ok ⟨orderId, paid, resource, submittedTx⟩ := by
  have readPaid : boolean (.bool paid) "paid" = .ok paid := rfl
  rw [parseStatus, bodyObject_eq_ok_iff.mpr ⟨rfl, keys⟩, Checks.ok_bind,
    required_eq_ok_iff.mpr isResource, Checks.ok_bind, nullableString_orNull bounded,
    Checks.ok_bind, matchingOrderId_of has accepted, Checks.ok_bind, required_eq_ok_iff.mpr isPaid,
    Checks.ok_bind, readPaid, Checks.ok_bind, required_eq_ok_iff.mpr isTx, Checks.ok_bind,
    transactionHash_orNull exact_]
  rfl

/-! ### Bodies are read as they were meant -/

theorem parseStatus_toValue {response : StatusResponse} (accepted : AcceptedId response.orderId)
    (bounded : ∀ given ∈ response.resource, BoundedText given)
    (exact_ : ∀ given ∈ response.submittedTx, isExactHex 64 given = true) :
    parseStatus response.toValue (some response.orderId) =
      .ok ⟨response.orderId, response.paid, response.resource, response.submittedTx⟩ :=
  parseStatus_of (by simp [StringKeys]) rfl bounded rfl accepted rfl rfl exact_

theorem parsePay_toValue {response : PayResponse} (accepted : AcceptedId response.result.orderId)
    (bounded : ∀ given ∈ response.result.reason, BoundedText given)
    (exact_ : ∀ given ∈ response.result.submittedTx, isExactHex 64 given = true) :
    parsePay response.toValue (some response.result.orderId) = .ok response.result := by
  cases response with
  | refused orderId reason =>
    exact parsePay_of (by simp [StringKeys]) rfl rfl bounded (by simp) rfl accepted rfl exact_
  | alreadySettled orderId submittedTx =>
    exact parsePay_of (by simp [StringKeys]) rfl rfl bounded (by simp) rfl accepted rfl exact_
  | settlementPending orderId submittedTx =>
    exact parsePay_of (by simp [StringKeys]) rfl rfl bounded (by simp) rfl accepted rfl exact_
  | judged orderId submittedTx settled =>
    exact parsePay_of (by simp [StringKeys]) rfl rfl bounded (by simp) rfl accepted rfl exact_

end Parsing

namespace ReferenceSut

variable [Interpreter] (sut : ReferenceSut)

/-! ### The orders that are shown -/

/-- What the adapter can be told of an order. -/
structure Presented (key : Str) (order : Order) : Prop where
  submitted : ∀ txHash ∈ order.submittedTx, isExactHex 64 txHash = true
  inFlight : ∀ original txHash, sut.inFlight order = some (original, txHash) →
    order.submittedTx = some txHash
  resource : (order.paid = false ∧ order.resource = none) ∨ (order.paid = true ∧
    (order.resource = some ("premium-content::".toList ++ key) ∨
      ∃ txHash, isExactHex 64 txHash = true ∧
        order.resource = some ("recovered::".toList ++ txHash)))

variable {sut} {key txHash : Str} {order : Order} {authorization : Fields}
  {said : Conversation} {result : Except PyError PayResponse} {change : Order → Order}

omit [Interpreter] in
theorem inFlight_of_none (nothing : order.pendingTx = none) : sut.inFlight order = none := by
  rw [inFlight, nothing]

omit [Interpreter] in
theorem inFlight_waiting {original other : Fields} {hash : Str}
    (waits : sut.inFlight (order.waiting txHash original) = some (other, hash)) :
    hash = txHash := by
  change (if sut.config.idempotentPay then some (original, txHash) else none) = _ at waits
  split_ifs at waits
  cases waits
  rfl

/-- A confirmation of the submitted transaction keeps what is shown. -/
theorem Presented.confirmed {given : Order} (presented : sut.Presented key given)
    (keyed : given.orderId = key) (isTx : given.submittedTx = some txHash)
    (confirmed : sut.Confirmed order authorization txHash said result change) :
    sut.Presented key (change given) := by
  have judgedOrder : ∀ {receipt said result change},
      sut.Judged order authorization txHash receipt said result change →
        sut.Presented key (change given) := by
    intro receipt said result change judged
    have released : given.released.resource = some ("premium-content::".toList ++ key) := by
      rw [← keyed]
      rfl
    have free : ∀ {other : Order}, other.pendingTx = none → ∀ original txHash,
        sut.inFlight other = some (original, txHash) → other.submittedTx = some txHash := by
      intro other nothing original txHash waits
      rw [inFlight_of_none nothing] at waits
      cases waits
    cases judged with
    | unread => exact ⟨presented.submitted, free rfl, presented.resource⟩
    | failed => exact ⟨presented.submitted, free rfl, presented.resource⟩
    | unsettled => exact ⟨presented.submitted, free rfl, presented.resource⟩
    | unidentified =>
      exact ⟨presented.submitted, free rfl, Or.inr ⟨rfl, Or.inl released⟩⟩
    | settled => exact ⟨presented.submitted, free rfl, Or.inr ⟨rfl, Or.inl released⟩⟩
  cases confirmed with
  | unwatched _ judged => exact judgedOrder judged
  | mined _ _ judged => exact judgedOrder judged
  | escaped => exact presented
  | pending =>
    refine ⟨presented.submitted, ?_, presented.resource⟩
    intro original hash waits
    rw [inFlight_waiting waits]
    exact isTx

/-- A credit of a log that the client accepts names an exact transaction. -/
theorem exactHash_of_decode {log : Fields} {chainId : ℤ} {credit : OnChainCredit}
    (shape : Anvil.LogShape log) (decoded : decodeTransferLog log chainId = .ok credit) :
    isExactHex 64 credit.identity.txHash = true := by
  rcases ((decodeTransferLog_eq_ok_iff shape).mp decoded).txHash with ⟨text, isText, same⟩
  rcases shape.transactionHash with ⟨hash, isHash, exact_⟩
  rw [isHash, Value.str.injEq] at isText
  rw [same, ← isText, lower_eq_hexPad exact_]
  exact isExactHex_hexPad 64 _

variable (sut) in
theorem presented_invariant (allowed : List Event → Service → Event → Prop) :
    sut.OrderInvariant allowed fun _ => sut.Presented where
  mono _ known := known
  quote _ := by
    refine ⟨by rintro _ ⟨⟩, ?_, Or.inl ⟨rfl, rfl⟩⟩
    intro original txHash waits
    cases waits
  change := by
    intro events service orderId authorization said result order change known keyed _ changes
    cases changes with
    | retried _ inFlight confirmed =>
      exact known.confirmed keyed (known.inFlight _ _ inFlight) confirmed
    | unsubmitted => exact ⟨known.submitted, known.inFlight, known.resource⟩
    | @submitted now nonce txHash _ _ _ _ admitted broadcast confirmed =>
      rcases submitSettlement_tells_iff.mp broadcast with ⟨_, _, _, _, _, _, _, _, exact_, _⟩
      have given : sut.Presented orderId ((order.attempted nonce).submitted txHash) := by
        refine ⟨?_, ?_, known.resource⟩
        · rintro _ ⟨⟩
          exact exact_
        · intro original hash waits
          have free : sut.inFlight order = some (original, hash) := waits
          rw [admitted.free] at free
          cases free
      exact given.confirmed keyed rfl confirmed
  book := by
    intro events service fromBlock said result logs credits credit key permitted fetched found mem
      keyed
    have shapes := (merchant_of_fetched fetched).2
    rcases (((finds_of_unreconciled fetched found).complement.members credit).mp mem).1 with
      ⟨log, listed, decoded⟩
    have exact_ := exactHash_of_decode (shapes log listed) decoded
    refine ⟨?_, ?_, Or.inr ⟨rfl, Or.inr ⟨_, exact_, rfl⟩⟩⟩
    · rintro _ ⟨⟩
      exact exact_
    · intro original txHash waits
      cases waits

omit [Interpreter] in
/-- The resource of an order with an id of the wire fits into an answer. -/
theorem Presented.bounded (presented : sut.Presented key order) (accepted : AcceptedId key)
    {resource : Str} (isResource : resource ∈ order.resource) : BoundedText resource := by
  have short := accepted.bounded
  rw [maxOrderIdChars] at short
  rcases presented.resource with ⟨_, nothing⟩ | ⟨_, content | ⟨txHash, exact_, content⟩⟩
  · rw [nothing] at isResource
    cases isResource
  · rw [content] at isResource
    cases isResource
    refine ⟨List.cons_ne_nil _ _, ?_⟩
    rw [List.length_append, maxTextChars]
    have front : "premium-content::".toList.length = 17 := by decide
    omega
  · rw [content] at isResource
    cases isResource
    refine ⟨List.cons_ne_nil _ _, ?_⟩
    rcases isExactHex_iff.mp exact_ with ⟨rest, rfl, length, _⟩
    rw [List.length_append, List.length_cons, List.length_cons, length, maxTextChars]
    have front : "recovered::".toList.length = 11 := by decide
    omega

/-! ### Answers -/

variable (sut) in
/-- The configured values are those of a quote that the adapter accepts. -/
structure Presentable : Prop where
  merchant : isExactHex 40 sut.config.merchantAddress = true
  price : 1 ≤ sut.config.price ∧ sut.config.price ≤ SutAdapter.uint256Max
  chain : 1 ≤ sut.config.chainId ∧ sut.config.chainId ≤ SutAdapter.uint256Max
  name : BoundedText sut.config.tokenName
  version : BoundedText sut.config.tokenVersion

/-- The ids that are drawn are digits, and the ids that are sent are those that the adapter
sends. -/
def OnWire : Event → Prop
  | .quote said _ => ∀ drawn : String, ⟨Ask.tokenHex 8, drawn⟩ ∈ said →
      drawn.toList.length = 16 ∧ drawn.toList.all isHexDigit = true
  | .pay orderId _ _ _ => AcceptedId orderId
  | .status orderId _ => AcceptedId orderId
  | _ => True

variable (sut) in
/-- A quote that the adapter reads is that of an order of the ledger. -/
structure QuoteAgrees (ledger : Orders) (quote : Quote) : Prop where
  order : ∃ order, ledger.lookup quote.orderId = some order ∧ order.amount = quote.amount
  payTo : quote.payTo = sut.config.merchantAddress
  asset : quote.asset = sut.config.tokenAddress
  chainId : quote.chainId = .ok sut.config.chainId
  name : quote.tokenName = sut.config.tokenName
  version : quote.tokenVersion = sut.config.tokenVersion

/-- What the adapter reads of a payment stands in the ledger. -/
structure PayAgrees (ledger : Orders) (orderId : Str) (result : PayResult) : Prop where
  named : result.orderId = orderId
  submitted : ∀ txHash ∈ result.submittedTx, ∃ order, ledger.lookup orderId = some order ∧
    order.submittedTx = some txHash
  settled : result.outcome = .settled → ∃ order, ledger.lookup orderId = some order ∧
    order.paid = true
  pending : result.outcome = .pending → ∃ order, ledger.lookup orderId = some order ∧
    order.pendingTx = result.submittedTx

/-- What the adapter reads of a status stands in the ledger. -/
structure StatusAgrees (ledger : Orders) (orderId : Str) (status : Status) : Prop where
  named : status.orderId = orderId
  submitted : ∀ order, ledger.lookup orderId = some order → order.submittedTx = status.submittedTx
  paid : status.paid = true ↔ ∃ order, ledger.lookup orderId = some order ∧ order.paid = true
  resource : status.paid = true ↔ status.resource ≠ none

variable (sut) in
/-- The adapter accepts an answer, and what it reads agrees with the ledger. -/
def Agrees (ledger : Orders) : Event → Prop
  | .quote _ (.ok response) =>
      ∃ quote, parseQuote response.toValue = .ok quote ∧ sut.QuoteAgrees ledger quote
  | .pay orderId _ _ (.ok response) =>
      ∃ result, parsePay response.toValue (some orderId) = .ok result ∧
        PayAgrees ledger orderId result
  | .status orderId answer =>
      ∃ status, parseStatus answer.toValue (some orderId) = .ok status ∧
        StatusAgrees ledger orderId status
  | _ => True

omit [Interpreter] in
/-- An id that is drawn is one that the adapter accepts. -/
theorem acceptedId_drawn {drawn : Str} (length : drawn.length = 16)
    (digits : drawn.all isHexDigit = true) : AcceptedId ("ord_".toList ++ drawn) := by
  refine ⟨List.cons_ne_nil _ _, ?_, ?_⟩
  · rw [List.length_append, length]
    decide
  · intro c mem
    have hex : ∀ d ∈ hexDigits, 0x20 ≤ d.toNat := by
      decide
    have front : ∀ d ∈ "ord_".toList, 0x20 ≤ d.toNat := by
      decide
    rcases List.mem_append.mp mem with mem | mem
    · exact front c mem
    · exact hex c (isHexDigit_iff.mp (List.all_eq_true.mp digits c mem))

theorem quote_agrees {state final : SutState} {result : Except PyError QuoteResponse}
    (presentable : sut.Presentable) (quotes : sut.Quotes state said result final)
    (onWire : OnWire (.quote said result)) : sut.Agrees final.orders (.quote said result) := by
  cases quotes with
  | failed => trivial
  | @quoted drawn now said createdBlock height =>
    cases answer : sut.quoteAnswer ("ord_".toList ++ String.toList drawn) now.1 with
    | error error => trivial
    | ok response =>
      rcases onWire drawn List.mem_cons_self with ⟨length, digits⟩
      simp only [quoteAnswer, Checks.bind_eq_ok_iff, pure, Except.pure, Except.ok.injEq] at answer
      rcases answer with ⟨amount, shownAmount, chainId, shownChain, rfl⟩
      have isAmount := isAmount_showInt presentable.price.1 presentable.price.2 shownAmount
      have isNetwork := isNetwork_showInt presentable.chain.1 presentable.chain.2 shownChain
      refine ⟨⟨"ord_".toList ++ String.toList drawn, sut.config.price, sut.config.merchantAddress,
        sut.config.tokenAddress, "eip155:".toList ++ chainId.toList, sut.config.tokenName,
        sut.config.tokenVersion⟩, parseQuote_eq_ok_iff.mpr ⟨_, ⟨rfl, by simp [StringKeys], ?_, rfl,
          acceptedId_drawn length digits⟩, ⟨⟨_, rfl, isAmount⟩, ⟨rfl, presentable.merchant⟩, rfl,
          sut.exact⟩, rfl, isNetwork⟩, ?_⟩
      · exact ⟨_, rfl, by simp [StringKeys], ⟨rfl, presentable.name⟩, rfl, presentable.version⟩
      · exact ⟨⟨_, (Dict.lookup_setItem ..).trans (if_pos rfl), rfl⟩, rfl, rfl,
          chainId_showInt presentable.chain.1 presentable.chain.2 shownChain rfl, rfl, rfl⟩

variable {orderId : Str} {ledger : Orders}

/-- An answer with texts of the wire is read as it was meant. -/
theorem pay_agrees_of {response : PayResponse} (accepted : AcceptedId orderId)
    (bounded : ∀ reason ∈ response.result.reason, BoundedText reason)
    (exact_ : ∀ txHash ∈ response.result.submittedTx, isExactHex 64 txHash = true)
    (agrees : PayAgrees ledger orderId response.result) :
    sut.Agrees ledger (.pay orderId authorization said (.ok response)) := by
  have named := agrees.named
  refine ⟨response.result, ?_, agrees⟩
  rw [← named]
  exact parsePay_toValue (named ▸ accepted) bounded exact_

/-- A refused payment names no transaction. -/
theorem refused_agrees {reason : String} (accepted : AcceptedId orderId)
    (bounded : BoundedText reason.toList) :
    sut.Agrees ledger (.pay orderId authorization said (.ok (.refused orderId reason))) := by
  refine pay_agrees_of accepted ?_ ?_ ⟨rfl, ?_, ?_, ?_⟩
  · rintro _ ⟨⟩
    exact bounded
  · rintro _ ⟨⟩
  · rintro _ ⟨⟩
  · intro outcome
    simp [PayResult.outcome, PayResponse.result] at outcome
  · intro outcome
    simp [PayResult.outcome, PayResponse.result] at outcome

/-- A confirmation answers what it has written. -/
theorem confirmed_agrees {given : Order} {original : Fields} {whole : Conversation}
    (accepted : AcceptedId orderId) (keyed : order.orderId = orderId)
    (exact_ : isExactHex 64 txHash = true) (isTx : given.submittedTx = some txHash)
    (confirmed : sut.Confirmed order original txHash said result change)
    (found : ledger.lookup orderId = some (change given)) :
    sut.Agrees ledger (.pay orderId authorization whole result) := by
  subst keyed
  have exactTx : ∀ hash ∈ some txHash, isExactHex 64 hash = true := by
    rintro _ ⟨⟩
    exact exact_
  have judgedOrder : ∀ {receipt said result},
      sut.Judged order original txHash receipt said result change →
        sut.Agrees ledger (.pay order.orderId authorization whole result) := by
    intro receipt said result judged
    cases judged with
    | unread => trivial
    | failed => trivial
    | unidentified => trivial
    | unsettled =>
      refine pay_agrees_of accepted (by rintro _ ⟨⟩) exactTx ⟨rfl, ?_, ?_, ?_⟩
      · rintro _ ⟨⟩
        exact ⟨_, found, isTx⟩
      · intro outcome
        simp [PayResult.outcome, PayResponse.result] at outcome
      · intro outcome
        simp [PayResult.outcome, PayResponse.result] at outcome
    | settled =>
      refine pay_agrees_of accepted (by rintro _ ⟨⟩) exactTx ⟨rfl, ?_, ?_, ?_⟩
      · rintro _ ⟨⟩
        exact ⟨_, found, isTx⟩
      · exact fun _ => ⟨_, found, rfl⟩
      · intro outcome
        simp [PayResult.outcome, PayResponse.result] at outcome
  cases confirmed with
  | unwatched _ judged => exact judgedOrder judged
  | mined _ _ judged => exact judgedOrder judged
  | escaped => trivial
  | pending =>
    have bounded : BoundedText SutAdapter.settlementPending := ⟨List.cons_ne_nil _ _, by decide⟩
    refine pay_agrees_of accepted ?_ exactTx ⟨rfl, ?_, ?_, ?_⟩
    · rintro _ ⟨⟩
      exact bounded
    · rintro _ ⟨⟩
      exact ⟨_, found, isTx⟩
    · intro outcome
      simp [PayResult.outcome, PayResponse.result] at outcome
    · exact fun _ => ⟨_, found, rfl⟩

theorem pay_agrees {state final : SutState}
    (presented : Everywhere sut.Presented state.orders)
    (pays : sut.Pays state orderId authorization said result final)
    (accepted : AcceptedId orderId) :
    sut.Agrees final.orders (.pay orderId authorization said result) := by
  cases pays with
  | refused refused =>
    cases refused with
    | unknown => exact refused_agrees accepted ⟨List.cons_ne_nil _ _, by decide⟩
    | unpriced => trivial
    | unnumbered => trivial
    | expired open_ =>
      rw [(presented _ _ open_.found).1]
      exact refused_agrees accepted ⟨List.cons_ne_nil _ _, by decide⟩
    | stale open_ =>
      rw [(presented _ _ open_.found).1]
      exact refused_agrees accepted ⟨List.cons_ne_nil _ _, by decide⟩
    | @alreadySettled order found paid =>
      rcases presented _ _ found with ⟨keyed, shown⟩
      refine pay_agrees_of accepted (by rintro _ ⟨⟩) shown.submitted ⟨keyed, ?_, ?_, ?_⟩
      · exact fun txHash isTx => ⟨order, found, isTx⟩
      · exact fun _ => ⟨order, found, paid⟩
      · intro outcome
        simp [PayResult.outcome, PayResponse.result] at outcome
  | @changed order said result change changes =>
    have found := changes.open_.found
    rcases presented _ _ found with ⟨keyed, shown⟩
    have changed : (alterOrder state order.orderId change).orders.lookup orderId =
        some (change order) := by
      rw [alterOrder, keyed, Dict.lookup_alter_self, found]
      rfl
    cases changes with
    | unsubmitted => trivial
    | retried _ inFlight confirmed =>
      have isTx := shown.inFlight _ _ inFlight
      exact confirmed_agrees accepted keyed (shown.submitted _ isTx) isTx confirmed changed
    | @submitted now nonce txHash _ _ _ change _ broadcast confirmed =>
      rcases submitSettlement_tells_iff.mp broadcast with ⟨_, _, _, _, _, _, _, _, exact_, _⟩
      have given : ((order.attempted nonce).submitted txHash).submittedTx = some txHash := rfl
      exact confirmed_agrees accepted keyed exact_ given confirmed changed

theorem status_agrees (presented : Everywhere sut.Presented ledger)
    (accepted : AcceptedId orderId) :
    sut.Agrees ledger (.status orderId (statusOf ledger orderId)) := by
  rw [statusOf]
  cases found : ledger.lookup orderId with
  | none =>
    refine ⟨⟨orderId, false, none, none⟩, parseStatus_toValue accepted (by rintro _ ⟨⟩)
      (by rintro _ ⟨⟩), rfl, ?_, ?_, ?_⟩
    · intro order isOrder
      rw [found] at isOrder
      cases isOrder
    · simp [found]
    · simp
  | some order =>
    rcases presented _ _ found with ⟨keyed, shown⟩
    have bounded : ∀ resource ∈ order.resource, BoundedText resource := by
      intro resource isResource
      exact shown.bounded accepted isResource
    refine ⟨⟨orderId, order.paid, order.resource, order.submittedTx⟩,
      parseStatus_toValue accepted bounded shown.submitted, rfl, ?_, ?_, ?_⟩
    · intro other isOrder
      rw [found] at isOrder
      cases isOrder
      rfl
    · simp [found]
    · rcases shown.resource with ⟨unpaid, nothing⟩ | ⟨paid, some_⟩
      · simp [unpaid, nothing]
      · rcases some_ with isResource | ⟨_, _, isResource⟩
        · simp [paid, isResource]
        · simp [paid, isResource]

/-- Everything that the service answers in a run is accepted by the adapter, and what the adapter
reads agrees with the ledger. -/
theorem answers_agree (presentable : sut.Presentable) {events : List Event}
    {service after : Service} {event : Event} (run : sut.Run (fun _ _ _ => True) events service)
    (step : sut.Step service event after) (onWire : OnWire event) :
    sut.Agrees after.state.orders event := by
  have presented := (sut.presented_invariant _).of_run run
  cases step with
  | quote replays => exact quote_agrees presentable (quote_replays_iff.mp replays) onWire
  | pay replays => exact pay_agrees presented (pay_replays_iff.mp replays) onWire
  | status replays =>
    rcases replays with ⟨_, same, rfl⟩
    cases same
    exact status_agrees presented onWire
  | resource => trivial
  | backup => trivial
  | restore => trivial
  | reconcile => trivial
  | moveFairPrice => trivial

omit [Interpreter] in
theorem sampleSut_presentable : sampleSut.Presentable where
  merchant := isExactHex_hexPad 40 _
  price := by decide
  chain := by decide
  name := ⟨List.cons_ne_nil _ _, by decide⟩
  version := ⟨List.cons_ne_nil _ _, by decide⟩

omit [Interpreter] in
/-- The adapter reads the pending answer and then the settled one of the sample order. -/
theorem answers_agree_sample : letI := asciiInterpreter []
    (∃ result, parsePay (PayResponse.settlementPending sampleOrderId (hexWord 0x1001)).toValue
        (some sampleOrderId) = .ok result ∧ PayAgrees pendingState.orders sampleOrderId result) ∧
      ∃ result, parsePay (PayResponse.judged sampleOrderId (hexWord 0x1001) true).toValue
        (some sampleOrderId) = .ok result ∧ PayAgrees bookedState.orders sampleOrderId result := by
  let := asciiInterpreter []
  rcases exists_samplePaying with ⟨transaction, paying⟩
  rcases exists_sampleRetry with ⟨filter, retrying⟩
  have new : sampleSut.Run (fun _ _ _ => True) [] ⟨⟨∅, 100⟩, []⟩ := .start
  have quoted := new.step trivial (.quote (quote_replays_iff.mpr sample_quotes))
  have first : sampleSut.Step ⟨sampleState, []⟩
      (.pay sampleOrderId sampleAuthorization (samplePaying transaction)
        (.ok (.settlementPending sampleOrderId (hexWord 0x1001)))) ⟨pendingState, []⟩ :=
    .pay (pay_replays_iff.mpr paying)
  have accepted : AcceptedId sampleOrderId := ⟨List.cons_ne_nil _ _, by decide, by decide⟩
  exact ⟨answers_agree sampleSut_presentable quoted first accepted,
    answers_agree sampleSut_presentable (quoted.step trivial first)
      (.pay (pay_replays_iff.mpr retrying)) accepted⟩

end ReferenceSut

end Psv
