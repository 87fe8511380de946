import Psv.Document.Encoding
import Psv.Python.Dict
import Psv.Reconciliation
import Psv.Safety
import Psv.Sut.Confirmer

/-!
# The reference system under test

`reference_sut/server.py`: quote, pay, confirm, resource, and the backup,
restore and reconciliation of the ledger.  An order is an object that `pay` and
`_confirm` change in place between their questions; here each change is a
`modify` of the ledger at the point where the source makes it, so that what is
written before a failure stays written.
-/

namespace Psv

open Python Interaction Program Chain RpcClient Reconciliation

/-! ### Quotes as options -/

namespace QuoteOption

variable [Interpreter]

/-- Validate an exact atomic amount within the uint256 domain. -/
def amount (value : ℤ) (what : String) : Except PyError ℤ :=
  if 0 ≤ value ∧ value ≤ uint256Max then .ok value
  else .error (.valueError s!"{what} must be a uint256")

/-- Normalize a finite fractional tolerance; nothing stands for a decimal that is not finite. -/
def tolerance (value : Option ℚ) : Except PyError ℚ :=
  match value with
  | some parsed =>
      if 0 ≤ parsed ∧ parsed ≤ 1 then .ok parsed
      else .error (.valueError "tolerance must be finite and within [0, 1]")
  | none => .error (.valueError "tolerance must be finite and within [0, 1]")

/-- Return whether fair value exceeds the exact tolerated quote price. -/
def quoteIsStale (lockedPrice fairValueNow : ℤ) (slack : Option ℚ) : Except PyError Bool := do
  let locked ← amount lockedPrice "locked_price"
  let fair ← amount fairValueNow "fair_value_now"
  let slack ← tolerance slack
  return if locked = 0 then decide (0 < fair)
    else decide (locked * (slack.den + slack.num) < fair * slack.den)

end QuoteOption

/-! ### The data -/

/-- The configuration of the service. -/
structure SutConfig where
  tokenAddress : Str
  merchantAddress : Str
  chainId : ℤ
  tokenName : Str
  tokenVersion : Str
  price : ℤ
  gas : ℤ
  reconciliationEnabled : Bool
  quoteTtl : ℤ
  repriceOnPay : Bool
  /-- `Decimal(str(reprice_tolerance))`, unless it is not finite. -/
  repriceTolerance : Option ℚ
  idempotentPay : Bool
  confirmWithoutWaiting : Bool
  receiptTries : ℤ

/-- An order of the ledger. -/
structure Order where
  orderId : Str
  amount : ℤ
  expiresAt : ℤ
  quotedFairPrice : ℤ
  nonceSeen : Option Str := none
  paid : Bool := false
  submittedTx : Option Str := none
  resource : Option Str := none
  createdBlock : ℤ := 0
  recovered : Bool := false
  settleAttempts : ℕ := 0
  pendingTx : Option Str := none
  pendingAuthorization : Option Fields := none
  settlementIdentity : Option SettlementIdentity := none

/-- The orders by their ids. -/
abbrev Orders : Type := Dict Str Order

/-- What the service keeps between requests: its ledger and the movable fair-value oracle. -/
structure SutState where
  orders : Orders
  fairPrice : ℤ

/-- A running service; the token handle has checked the configured address. -/
structure ReferenceSut where
  config : SutConfig
  accountAddress : Str
  exact : isExactHex 40 config.tokenAddress = true

/-- The answer to a request for a quote. -/
structure QuoteResponse where
  orderId : Str
  amount : Str
  payTo : Str
  asset : Str
  network : Str
  name : Str
  version : Str
  expiresAt : ℤ

/-- The answer to a payment. -/
inductive PayResponse where
  | refused (orderId : Str) (reason : String)
  | alreadySettled (orderId : Str) (submittedTx : Option Str)
  | settlementPending (orderId submittedTx : Str)
  | judged (orderId submittedTx : Str) (settled : Bool)

/-- The answer to a question about an order. -/
structure StatusResponse where
  orderId : Str
  paid : Bool
  resource : Option Str
  submittedTx : Option Str
  known : Bool

namespace ReferenceSut

variable [Interpreter]

/-! ### Python conversions -/

/-- `fields[name]` -/
def item (fields : Fields) (name : String) : Except PyError Value :=
  if hasField fields name then .ok (getField fields name) else .error (.keyError name)

/-- `str(value)` -/
def textOf (value : Value) : Except PyError Str :=
  orRaise (pyStr value) (.valueError "Exceeds the limit (4300 digits) for integer string conversion")

/-- `str(fields[name])` -/
def textItem (fields : Fields) (name : String) : Except PyError Str := do
  let value ← item fields name
  textOf value

/-- `int(value)` -/
def intOf (value : Value) : Except PyError ℤ :=
  match value with
  | .int n => .ok n
  | .bool flag => .ok (if flag then 1 else 0)
  | .float (.finite mantissa exponent) =>
      .ok (if 0 ≤ exponent then mantissa * 2 ^ exponent.toNat
        else mantissa.tdiv (2 ^ (-exponent).toNat))
  | .float (.inf _) => .error (.overflowError "cannot convert float infinity to integer")
  | .float .nan => .error (.valueError "cannot convert float NaN to integer")
  | .str text => orRaise (int10 text)
      (.valueError s!"invalid literal for int() with base 10: {Interpreter.repr value}")
  | _ => .error (.typeError ("int() argument must be a string, a bytes-like object or a real " ++
      s!"number, not '{value.typeName}'"))

/-- `int(fields[name])` -/
def intItem (fields : Fields) (name : String) : Except PyError ℤ := do
  let value ← item fields name
  intOf value

/-- `int(value, 16)` -/
def hexOf (value : Value) : Except PyError ℤ :=
  match value with
  | .str text => orRaise (int16 text)
      (.valueError s!"invalid literal for int() with base 16: {Interpreter.repr value}")
  | _ => .error (.typeError "int() can't convert non-string with explicit base")

/-! ### On-chain facilitator submission -/

variable (sut : ReferenceSut) {σ : Type}

/-- The strictly validated handle to the token. -/
def token : TokenView := ⟨sut.config.tokenAddress, sut.exact⟩

/-- The arguments of the safety policy, which runs before anything is built. -/
def requireSafe (authorization : Fields) : Proc σ Unit := do
  let payer ← lift (textItem authorization "from")
  let authorizationTo ← lift (textItem authorization "to")
  let value ← lift (item authorization "value")
  Safety.requireSafeSubmission sut.config.chainId sut.config.tokenAddress payer
    sut.config.merchantAddress authorizationTo value sut.config.price

/-- The calldata of an authorization. -/
def calldataOf (authorization : Fields) : Except PyError Str := do
  let fromAddr ← textItem authorization "from"
  let toAddr ← textItem authorization "to"
  let value ← intItem authorization "value"
  let validAfter ← intItem authorization "validAfter"
  let validBefore ← intItem authorization "validBefore"
  let nonce ← textItem authorization "nonce"
  let signature ← textItem authorization "signature"
  TokenView.settleCalldata ⟨.str fromAddr, .str toAddr, .int value, .int validAfter,
    .int validBefore, .str nonce, .str signature⟩

/-- The gas price, with a fixed one where the node has none. -/
def gasPrice : Proc σ ℤ :=
  handle (do let raw ← call "eth_gasPrice" []; lift (hexOf raw)) fun error =>
    match error with
    | .rpcError _ | .chainEvidenceError _ | .typeError _ | .valueError _ => .ret 1000000000
    | _ => .raise error

/-- The signed transaction of an authorization that is safe to submit. -/
def signSettlement (authorization : Fields) : Proc σ Str := do
  sut.requireSafe authorization
  let calldata ← lift (calldataOf authorization)
  let count ← call "eth_getTransactionCount" [.str sut.accountAddress, .str "pending".toList]
  let nonce ← lift (hexOf count)
  let price ← gasPrice
  let signed ← question (S := interface) (Ask.sign
    ⟨sut.config.tokenAddress, calldata, 0, sut.config.gas, price, nonce, sut.config.chainId⟩)
  lift signed

/-- Safety-check, sign, and submit one local/testnet settlement transaction. -/
def submitSettlement (authorization : Fields) : Proc σ Str := do
  let raw ← sut.signSettlement authorization
  sendRawTransaction raw

/-! ### Domain operations -/

/-- Change an order of the ledger in place. -/
def changeOrder (orderId : Str) (change : Order → Order) : Proc SutState Unit :=
  modify fun state => { state with orders := state.orders.alter orderId change }

/-- The brittle confirmer, wired to real `eth_getLogs` with the legacy `Transfer` topic. -/
def confirmer : EventWatchingConfirmer (Proc σ) where
  fetchLogs address topics fromBlock := getLogs address topics (.number fromBlock) (.tag "latest")

/-- Confirm by watching the legacy `Transfer` event, and book the settlement. -/
def judge (order : Order) (authorization : Fields) (txHash : Str) (receipt : Option Fields) :
    Proc SutState PayResponse := do
  changeOrder order.orderId fun order =>
    { order with pendingTx := none, pendingAuthorization := none }
  let payer ← lift (textItem authorization "from")
  let nonce ← lift (textItem authorization "nonce")
  let logIndex ← confirmer.settlementLogIndex ⟨sut.config.tokenAddress, payer,
    sut.config.merchantAddress, order.amount, nonce, txHash, order.createdBlock⟩ receipt
  match logIndex with
  | none => return .judged order.orderId txHash false
  | some logIndex => do
      changeOrder order.orderId fun order =>
        { order with
          paid := true
          resource := some ("premium-content::".toList ++ order.orderId) }
      let identity ← lift (settlementIdentity sut.config.chainId sut.config.tokenAddress txHash
        logIndex)
      changeOrder order.orderId fun order => { order with settlementIdentity := some identity }
      return .judged order.orderId txHash true

/-- Confirm one broadcast settlement, or answer `settlement_pending` with its hash. -/
def confirm (order : Order) (authorization : Fields) (txHash : Str) :
    Proc SutState PayResponse :=
  if sut.config.confirmWithoutWaiting then sut.judge order authorization txHash none
  else do
    let waited ← (waitForReceipt txHash sut.config.receiptTries).attempt
    match waited with
    | .ok receipt => sut.judge order authorization txHash (some receipt)
    | .error error =>
        if error.isRpcError then do
          changeOrder order.orderId fun order =>
            { order with pendingTx := some txHash, pendingAuthorization := some authorization }
          return .settlementPending order.orderId txHash
        else .raise error

/-- The guard against an under-priced quote. -/
def isStale (order : Order) (fairPrice : ℤ) : Except PyError Bool :=
  if sut.config.repriceOnPay then
    QuoteOption.quoteIsStale order.amount fairPrice sut.config.repriceTolerance
  else .ok false

/-- Settle an order on chain: the guards, the submission and the confirmation. -/
def settle (order : Order) (authorization : Fields) : Proc SutState PayResponse := do
  let now ← question (S := interface) Ask.clock
  if order.expiresAt < now.1 then return .refused order.orderId "quote_expired"
  else do
    let state ← Program.state
    let stale ← lift (sut.isStale order state.fairPrice)
    if stale then return .refused order.orderId "stale_quote"
    else do
      let nonce ← lift (textItem authorization "nonce")
      changeOrder order.orderId fun order =>
        { order with nonceSeen := some nonce, settleAttempts := order.settleAttempts + 1 }
      let txHash ← sut.submitSettlement authorization
      changeOrder order.orderId fun order => { order with submittedTx := some txHash }
      sut.confirm order authorization txHash

/-- The settlement that an idempotent service still waits for. -/
def inFlight (order : Order) : Option (Fields × Str) :=
  match order.pendingTx, order.pendingAuthorization with
  | some txHash, some authorization =>
      if sut.config.idempotentPay then some (authorization, txHash) else none
  | _, _ => none

/-- Validate order state, submit its authorization, and confirm settlement. -/
def pay (orderId : Str) (authorization : Fields) : Proc SutState PayResponse := do
  let state ← Program.state
  match state.orders.lookup orderId with
  | none => return .refused orderId "unknown_order"
  | some order =>
      if order.paid && sut.config.idempotentPay then
        return .alreadySettled order.orderId order.submittedTx
      else match sut.inFlight order with
        | some (original, txHash) => sut.confirm order original txHash
        | none => sut.settle order authorization

/-- Create and persist a priced order with a bounded validity window. -/
def quote : Proc SutState QuoteResponse := do
  let drawn ← question (S := interface) (Ask.tokenHex 8)
  let orderId := "ord_".toList ++ drawn.toList
  let now ← question (S := interface) Ask.clock
  let state ← Program.state
  let createdBlock ← blockNumber
  let expiresAt := now.1 + sut.config.quoteTtl
  modify fun current => { current with
    orders := current.orders.setItem orderId
      { orderId := orderId, amount := sut.config.price, expiresAt := expiresAt,
        quotedFairPrice := state.fairPrice, createdBlock := createdBlock } }
  let amount ← lift (showInt sut.config.price)
  let chainId ← lift (showInt sut.config.chainId)
  return ⟨orderId, amount.toList, sut.config.merchantAddress, sut.config.tokenAddress,
    "eip155:".toList ++ chainId.toList, sut.config.tokenName, sut.config.tokenVersion, expiresAt⟩

/-- Payment and resource state, without changing the order. -/
def statusOf (orders : Orders) (orderId : Str) : StatusResponse :=
  match orders.lookup orderId with
  | none => ⟨orderId, false, none, none, false⟩
  | some order => ⟨orderId, order.paid, order.resource, order.submittedTx, true⟩

/-- Return current payment and resource state. -/
def status (orderId : Str) : Proc SutState StatusResponse := do
  let state ← Program.state
  return statusOf state.orders orderId

/-- The content behind `GET /resource`: status code and resource. -/
def resource (orderId : Str) : Proc SutState (ℕ × Option Str) := do
  let found ← status orderId
  return if found.paid then (200, found.resource) else (402, none)

/-! ### Ledger backup, restore and reconciliation -/

/-- A point-in-time copy of the ledger. -/
def backupLedger : Proc SutState Orders := do
  let state ← Program.state
  return state.orders

/-- Roll the ledger back to a backup. -/
def restoreLedger (backup : Orders) : Proc SutState Unit :=
  modify fun state => { state with orders := backup }

/-- The settlements that the ledger knows. -/
def knownEntries (orders : Orders) : List LedgerEntry :=
  orders.values.filterMap fun order =>
    if order.paid then order.settlementIdentity.map .settled else none

/-- The text that names a settlement. -/
def identityKey (identity : SettlementIdentity) : Except PyError Str := do
  let chainId ← showInt identity.chainId
  let logIndex ← showInt identity.logIndex
  return chainId.toList ++ ':' :: identity.asset ++ ':' :: identity.txHash ++
    ':' :: logIndex.toList

/-- The id of the order that stands for a recovered settlement. -/
def recoveredId (key : Str) : Str := "rec_".toList ++ Interpreter.sha256 (utf8 key)

/-- The order that stands for a recovered settlement. -/
def recoveredOrder (orderId : Str) (credit : OnChainCredit) : Order where
  orderId := orderId
  amount := credit.value
  expiresAt := 0
  quotedFairPrice := credit.value
  paid := true
  submittedTx := some credit.identity.txHash
  resource := some ("recovered::".toList ++ credit.identity.txHash)
  recovered := true
  settlementIdentity := some credit.identity

/-- Book a recovered, paid order for each credit. -/
def heal : List OnChainCredit → Proc SutState Unit
  | [] => .ret ()
  | credit :: credits => do
      let key ← lift (identityKey credit.identity)
      modify fun state => { state with
        orders := state.orders.setItem (recoveredId key)
          (recoveredOrder (recoveredId key) credit) }
      heal credits

/-- Find on-chain settlements to the merchant absent from the ledger. -/
def reconcile (fromBlock : ℤ) : Proc SutState (List OnChainCredit) := do
  let merchant ← lift (topicAddr (.str sut.config.merchantAddress))
  let logs ← getLogs sut.config.tokenAddress [some topicTransfer, none, some merchant]
    (.number fromBlock) (.tag "latest")
  let state ← Program.state
  let unreconciled ← lift (findUnreconciled logs (knownEntries state.orders) sut.config.chainId
    (some sut.config.tokenAddress) (some sut.config.merchantAddress))
  if sut.config.reconciliationEnabled then do
    heal unreconciled
    return unreconciled
  else return unreconciled

end ReferenceSut

end Psv
