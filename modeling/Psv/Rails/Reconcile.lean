import Psv.Rails.Evidence

/-!
# Read-only reconciliation of one settlement

`reconcile_live` and `check_rail_drift` of `rails.py`.  The program is cut where
the source pauses: argument checks, the canonical snapshot, the two branches on
the receipt status, and the final recheck.  Text and integer arguments have the
types the source declares for them.
-/

namespace Psv

open Python Interaction Program RpcClient Chain

/-- Reproducible provenance for a chain-derived payment verdict. -/
structure ChainEvidence where
  chainId : ℤ
  finalityBlockNumber : ℤ
  finalityBlockHash : Str
  finalityBlockTag : FinalityTag
  confirmations : ℤ
  settlementBlockNumber : ℤ
  settlementBlockHash : Str
  transactionHash : Str
  receiptStatus : ℤ
  logIndex : Option ℤ
  authorizationLogIndex : Option ℤ
  tokenAddress : Str
  tokenCodeSha256 : Str
  implementationAddress : Option Str
  implementationCodeSha256 : Option Str
  railAttestationVersion : String
  payer : Str
  payee : Str
  nonce : Str
  eventValue : Option ℤ
  requiredAmount : ℤ
  receivedAmount : ℤ
  payerBalanceBefore : ℤ
  payerBalanceAfter : ℤ
  payeeBalanceBefore : ℤ
  payeeBalanceAfter : ℤ
  nonceConsumed : Bool
  removed : Bool
  deriving DecidableEq

/-- A divergence plus the immutable evidence used to derive it. -/
structure LiveReconciliation where
  divergence : Divergence
  evidence : ChainEvidence
  deriving DecidableEq

/-- The arguments of `reconcile_live` that describe one payment. -/
structure Payment where
  payer : Str
  payee : Str
  nonce : Str
  transactionHash : Str
  logIndex : ℤ
  requiredAmount : ℤ
  payerBefore : ℤ
  payeeBefore : ℤ

/-- Machine-readable result of one read-only runtime metadata observation. -/
structure RailDriftCheck where
  railKey : String
  chainId : ℤ
  blockNumber : ℤ
  blockHash : Str
  codeSha256 : Str
  expectedCodeSha256 : Option Str
  implementationAddress : Option Str
  implementationCodeSha256 : Option Str
  attestationVersion : String
  calibrated : Bool
  isMatch : Bool
  reason : String
  deriving DecidableEq

namespace Rails

variable [Interpreter] {σ : Type}

omit [Interpreter] in
/-- One bounded integer argument. -/
def checkAmount (value minimum : ℤ) (name kind : String) : Except PyError Unit :=
  refuse (¬(minimum ≤ value ∧ value ≤ uint256Max))
    (.valueError s!"{name} must be a {kind}uint256")

/-- The checks made before the first question; the normalized transaction hash. -/
def checkArguments (token : TokenView) (rail : RailConfig) (payment : Payment) :
    Except PyError Str := do
  refuse (lower token.address ≠ lower rail.tokenAddress)
    (.chainEvidenceError "token handle does not match the selected rail")
  let txHash ← exactHash (.str payment.transactionHash) "transaction hash"
  refuse (isExactHex 64 payment.nonce = false)
    (.valueError "nonce must be exactly 32 bytes of 0x-prefixed hex")
  refuse (¬(0 ≤ payment.logIndex ∧ payment.logIndex ≤ uint256Max))
    (.valueError "log_index must be a uint256")
  checkAmount payment.requiredAmount 1 "required_amount" "positive "
  checkAmount payment.payerBefore 0 "payer_before" ""
  checkAmount payment.payeeBefore 0 "payee_before" ""
  return txHash

omit [Interpreter] in
/-- The node is on the rail's chain. -/
def checkChain (rail : RailConfig) (liveChain : ℕ) : Except PyError Unit :=
  refuse ((liveChain : ℤ) ≠ rail.chainId) (.chainEvidenceError
    s!"RPC chain mismatch: rail requires {rail.chainId}, node reports {liveChain}")

omit [Interpreter] in
/-- A mainnet rail has been calibrated. -/
def checkCalibration (rail : RailConfig) : Except PyError Unit :=
  refuse (rail.attestation.networkClass = .mainnet ∧ rail.attestation.calibrated = false)
    (.chainEvidenceError
      "live rail is uncalibrated: reviewed block/code/proxy identity is not pinned")

/-- The place a receipt claims in the chain. -/
structure SettlementPoint where
  number : ℕ
  hash : Str
  status : ℕ
  confirmations : ℤ

/-- The receipt belongs to the transaction and lies deep enough. -/
def settlementPoint (rail : RailConfig) (finalityNumber : ℕ) (txHash : Str) (receipt : Fields) :
    Except PyError SettlementPoint := do
  let receiptTx ← exactHash (getField receipt "transactionHash") "receipt transaction hash"
  refuse (receiptTx ≠ txHash) (.chainEvidenceError
    "receipt transaction hash does not match the requested settlement")
  let number ← quantity (getField receipt "blockNumber") "receipt block number"
  let hash ← exactHash (getField receipt "blockHash") "receipt block hash"
  let status ← quantity (getField receipt "status") "receipt status"
  let confirmations : ℤ := finalityNumber - number + 1
  refuse (confirmations < rail.finality.minimumConfirmations) (.chainEvidenceError
    s!"settlement has {confirmations} confirmations; {rail.finality.minimumConfirmations} required")
  return ⟨number, hash, status, confirmations⟩

/-- The receipt's block is the canonical one. -/
def checkCanonical (point : SettlementPoint) (canonical : Fields) : Except PyError Unit := do
  let identity ← blockIdentity canonical "settlement block"
  refuse (identity.1 ≠ point.number ∨ identity.2 ≠ point.hash)
    (.chainEvidenceError "receipt block is no longer canonical")

/-- The token's code is the attested one, when the attestation pins it. -/
def checkTokenCode (rail : RailConfig) (code : Str) : Except PyError Str := do
  let tokenCode ← codeFingerprint code
  refuse (∃ expected ∈ rail.attestation.expectedCodeSha256, tokenCode ≠ expected)
    (.chainEvidenceError "rail token runtime code does not match its attestation")
  return tokenCode

/-- The balances of both parties around the settlement block, and the nonce state in it. -/
structure Snapshot where
  payerParent : ℕ
  payeeParent : ℕ
  payerAfter : ℕ
  payeeAfter : ℕ
  nonceConsumed : Bool
deriving DecidableEq

/-- The block-pinned reads of balances and nonce. -/
def readSnapshot (token : TokenView) (payment : Payment) (number : ℕ) : Proc σ Snapshot := do
  let parentBlock : ℤ := number - 1
  lift (refuse (parentBlock < 0)
    (.chainEvidenceError "genesis-block settlements cannot be attributed safely"))
  let payerParent ← token.balanceOf (.str payment.payer) (.number parentBlock)
  let payeeParent ← token.balanceOf (.str payment.payee) (.number parentBlock)
  let payerAfter ← token.balanceOf (.str payment.payer) (.number number)
  let payeeAfter ← token.balanceOf (.str payment.payee) (.number number)
  let nonceConsumed ← token.authorizationUsed (.str payment.payer) (.str payment.nonce)
    (.number number)
  lift (refuse (payment.payerBefore ≠ payerParent ∨ payment.payeeBefore ≠ payeeParent)
    (.chainEvidenceError "caller before-balances do not match the pinned parent block"))
  return ⟨payerParent, payeeParent, payerAfter, payeeAfter, nonceConsumed⟩

/-- What the receipt contributes to the verdict. -/
structure Attribution where
  selectedLog : Option OnChainCredit
  authLogIndex : Option ℕ
  eventValue : Option ℤ
  receivedAmount : ℤ
  truth : SettlementTruth

/-- The Transfer and the AuthorizationUsed log of a successful receipt. -/
def selectEvidence (token : TokenView) (payment : Payment) (liveChain : ℕ) (txHash : Str)
    (point : SettlementPoint) (receipt : Fields) (snapshot : Snapshot) :
    Except PyError (OnChainCredit × ℕ) := do
  let selected ← selectedTransfer receipt liveChain payment.logIndex token.address
  refuse (selected.removed = true)
    (.chainEvidenceError "selected Transfer was removed by a reorg")
  refuse (selected.identity.txHash ≠ txHash ∨ selected.blockHash ≠ point.hash ∨
      selected.blockNumber ≠ point.number ∨ selected.payer ≠ lower payment.payer ∨
      selected.payee ≠ lower payment.payee)
    (.chainEvidenceError "selected Transfer does not match the requested payment")
  let authIndex ← authorizationLogIndex receipt token.address payment.payer payment.nonce
  refuse (snapshot.nonceConsumed = false) (.chainEvidenceError
    "receipt emitted AuthorizationUsed but pinned nonce state is false")
  return (selected, authIndex)

omit [Interpreter] in
/-- The balance changes belong to the selected transfer. -/
def attributeBalances (selected : OnChainCredit) (authIndex : ℕ) (snapshot : Snapshot) :
    Except PyError Attribution := do
  let payerDelta : ℤ := snapshot.payerAfter - snapshot.payerParent
  let receivedAmount : ℤ := snapshot.payeeAfter - snapshot.payeeParent
  refuse (payerDelta ≠ -selected.value ∨
      ¬(0 < receivedAmount ∧ receivedAmount ≤ selected.value))
    (.chainEvidenceError
      "pinned balance changes cannot be attributed uniquely to the selected Transfer")
  return ⟨some selected, some authIndex, some selected.value, receivedAmount,
    ⟨true, snapshot.payerAfter, snapshot.payeeAfter, payerDelta, receivedAmount⟩⟩

/-- The branch on a successful receipt. -/
def attributeSuccess (token : TokenView) (payment : Payment) (liveChain : ℕ) (txHash : Str)
    (point : SettlementPoint) (receipt : Fields) (snapshot : Snapshot) :
    Proc σ Attribution := do
  let (selected, authIndex) ←
    lift (selectEvidence token payment liveChain txHash point receipt snapshot)
  ensureNoSameBlockRace token selected payment.payer payment.payee
  lift (attributeBalances selected authIndex snapshot)

omit [Interpreter] in
/-- The branch on a reverted receipt: it cannot have moved this token. -/
def attributeReverted (snapshot : Snapshot) : Except PyError Attribution := do
  refuse (snapshot.nonceConsumed = true) (.chainEvidenceError
    "reverted receipt but nonce is consumed by another settlement; attribution is inconclusive")
  return ⟨none, none, none, 0, ⟨false, snapshot.payerAfter, snapshot.payeeAfter, 0, 0⟩⟩

/-- What the receipt contributes, by its status. -/
def attributeReceipt (token : TokenView) (payment : Payment) (liveChain : ℕ) (txHash : Str)
    (point : SettlementPoint) (receipt : Fields) (snapshot : Snapshot) : Proc σ Attribution :=
  if point.status = 1 then
    attributeSuccess token payment liveChain txHash point receipt snapshot
  else lift (attributeReverted snapshot)

/-- The settlement is still where it was when the reads began. -/
def checkUnchanged (point : SettlementPoint) (receiptAfter canonicalAfter : Fields) :
    Except PyError Unit := do
  let identity ← blockIdentity canonicalAfter "rechecked settlement block"
  let hash ← exactHash (getField receiptAfter "blockHash") "rechecked receipt block hash"
  refuse (hash ≠ point.hash ∨ identity.2 ≠ point.hash)
    (.chainEvidenceError "settlement was reorged or replaced during observation")

/-- Assemble the evidence of a verdict. -/
def chainEvidence (token : TokenView) (rail : RailConfig) (payment : Payment) (txHash : Str)
    (liveChain finalityNumber : ℕ) (finalityHash : Str) (point : SettlementPoint)
    (tokenCode : Str) (implementation : Option Str × Option Str) (snapshot : Snapshot)
    (attribution : Attribution) : ChainEvidence where
  chainId := liveChain
  finalityBlockNumber := finalityNumber
  finalityBlockHash := finalityHash
  finalityBlockTag := rail.finality.blockTag
  confirmations := point.confirmations
  settlementBlockNumber := point.number
  settlementBlockHash := point.hash
  transactionHash := txHash
  receiptStatus := point.status
  logIndex := attribution.selectedLog.map fun log => log.identity.logIndex
  authorizationLogIndex := attribution.authLogIndex.map fun index : ℕ => (index : ℤ)
  tokenAddress := lower token.address
  tokenCodeSha256 := tokenCode
  implementationAddress := implementation.1
  implementationCodeSha256 := implementation.2
  railAttestationVersion := rail.attestation.version
  payer := lower payment.payer
  payee := lower payment.payee
  nonce := lower payment.nonce
  eventValue := attribution.eventValue
  requiredAmount := payment.requiredAmount
  receivedAmount := attribution.receivedAmount
  payerBalanceBefore := snapshot.payerParent
  payerBalanceAfter := snapshot.payerAfter
  payeeBalanceBefore := snapshot.payeeParent
  payeeBalanceAfter := snapshot.payeeAfter
  nonceConsumed := snapshot.nonceConsumed
  removed := attribution.selectedLog.elim false fun log => log.removed

/-- The part of `reconcile_live` up to the grading: one canonical pinned snapshot. -/
def observe (token : TokenView) (rail : RailConfig) (payment : Payment) :
    Proc σ (SettlementTruth × ChainEvidence) := do
  let txHash ← lift (checkArguments token rail payment)
  let liveChain ← chainId
  lift (checkChain rail liveChain)
  lift (checkCalibration rail)
  verifyReviewAnchor rail
  let finalityBlock ← getBlock (.tag rail.finality.blockTag.text)
  let (finalityNumber, finalityHash) ← lift (blockIdentity finalityBlock "finality block")
  let receipt ← getTransactionReceipt txHash
  let point ← lift (settlementPoint rail finalityNumber txHash receipt)
  let canonical ← getBlock (.number point.number)
  lift (checkCanonical point canonical)
  let code ← getCode token.address (.number point.number)
  let tokenCode ← lift (checkTokenCode rail code)
  let implementation ← implementationIdentity rail point.number
  let snapshot ← readSnapshot token payment point.number
  let attribution ← attributeReceipt token payment liveChain txHash point receipt snapshot
  let receiptAfter ← getTransactionReceipt txHash
  let canonicalAfter ← getBlock (.number point.number)
  lift (checkUnchanged point receiptAfter canonicalAfter)
  return (attribution.truth, chainEvidence token rail payment txHash liveChain finalityNumber
    finalityHash point tokenCode implementation snapshot attribution)

/-- Prove and grade one exact settlement from a canonical pinned snapshot. -/
def reconcileLive (token : TokenView) (rail : RailConfig) (payment : Payment)
    (sutBelievesPaid : Bool) : Proc σ LiveReconciliation := do
  let (truth, evidence) ← observe token rail payment
  let divergence ← lift (detectPaymentDivergence truth sutBelievesPaid
    (some payment.requiredAmount))
  return ⟨divergence, evidence⟩

omit [Interpreter] in
/-- Whether the observed code meets the attestation, and why. -/
def driftVerdict (rail : RailConfig) (codeSha : Str) : Bool × String :=
  let expected := rail.attestation.expectedCodeSha256
  if rail.attestation.networkClass = .localNet ∧ rail.attestation.calibrated = true then
    (true, "ephemeral local deployment exposes the required pinned interface")
  else if rail.attestation.calibrated = false ∨ expected = none then
    (false, "rail is uncalibrated: reviewed code/proxy identity is not pinned")
  else if some codeSha ≠ expected then
    (false, "runtime code hash differs from the reviewed attestation")
  else (true, "runtime interface and code identity match the reviewed attestation")

omit [Interpreter] in
/-- The view through which a rail's token is read. -/
def tokenForRail (rail : RailConfig) : TokenView := ⟨rail.tokenAddress, rail.tokenAddress_exact⟩

/-- Observe one rail at its safe block without signing or changing chain state. -/
def checkRailDrift (rail : RailConfig) : Proc σ RailDriftCheck := do
  let liveChain ← chainId
  lift (checkChain rail liveChain)
  verifyReviewAnchor rail
  let block ← getBlock (.tag rail.finality.blockTag.text)
  let (number, blockHash) ← lift (blockIdentity block "drift-check block")
  let code ← getCode rail.tokenAddress (.number number)
  let codeSha ← lift (codeFingerprint code)
  let implementation ← implementationIdentity rail number
  let view := tokenForRail rail
  let _ ← view.balanceOf (.str (hexAddress 0)) (.number number)
  let _ ← view.authorizationUsed (.str (hexAddress 0)) (.str (hexWord 0)) (.number number)
  let verdict := driftVerdict rail codeSha
  return { railKey := rail.key, chainId := liveChain, blockNumber := number, blockHash := blockHash,
           codeSha256 := codeSha,
           expectedCodeSha256 := rail.attestation.expectedCodeSha256,
           implementationAddress := implementation.1,
           implementationCodeSha256 := implementation.2,
           attestationVersion := rail.attestation.version,
           calibrated := rail.attestation.calibrated,
           isMatch := verdict.1, reason := verdict.2 }

end Rails

end Psv
