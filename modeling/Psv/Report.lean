import Psv.Python.Json
import Psv.Rails.Window

/-!
# Reconciliation reports

`report.py` and `run_reconcile` of `cli.py`: the versioned report over the
evidence of one reconciliation, its validation, and its two renderings.  A
report prints every number of its evidence in decimal, and this is the only
thing that can fail when it is rendered (`toJson_isOk_iff`,
`toMarkdown_isOk_iff`).
-/

namespace Psv

open Python Interaction Program RpcClient Anvil Chain Rails

def reportVersion : String := "2.0"

def reportSchemaId : String :=
  "https://github.com/moped2110/psv/schemas/reconciliation-report-v2.json"

def privacyPolicy : String :=
  "Contains public on-chain identifiers and caller-supplied payment metadata; " ++
  "RPC URLs, credentials, signatures, and private keys are never included."

/-- The stable code of a verdict, by its wire spelling. -/
def reasonCodes : List (String × String) :=
  [("consistent_paid", "PSV-RECON-CONSISTENT-PAID"),
    ("consistent_unpaid", "PSV-RECON-CONSISTENT-UNPAID"),
    ("silent_loss", "PSV-RECON-SILENT-LOSS"),
    ("phantom_credit", "PSV-RECON-PHANTOM-CREDIT"),
    ("underpaid_credit", "PSV-RECON-UNDERPAID-CREDIT")]

/-- One immutable v2 report including every input used for its verdict. -/
structure ReconReport where
  generatedAt : Str
  railKey : String
  railLabel : String
  chainId : ℤ
  tokenAddress : Str
  payer : Str
  payee : Str
  nonce : Str
  sutBelievesPaid : Bool
  kind : String
  severity : String
  reasonCode : String
  message : String
  isFailure : Bool
  evidence : ChainEvidence
  deriving DecidableEq

namespace ReconReport

section Build

variable [Interpreter]

/-- Build a report for a moment. -/
def build (rail : RailConfig) (payment : Payment) (sutBelievesPaid : Bool)
    (divergence : Divergence) (evidence : ChainEvidence) (generatedAt : DateTime) :
    Except PyError ReconReport := do
  refuse (generatedAt.aware = false) (.valueError "generated_at must be timezone-aware")
  refuse (evidence.chainId ≠ rail.chainId ∨ evidence.tokenAddress ≠ lower rail.tokenAddress)
    (.valueError "evidence does not match the selected rail")
  let text ← generatedAt.utcText
  let reasonCode ← orRaise (reasonCodes.lookup divergence.kind.value)
    (.keyError divergence.kind.value)
  return {
    generatedAt := text
    railKey := rail.key
    railLabel := rail.label
    chainId := rail.chainId
    tokenAddress := lower rail.tokenAddress
    payer := lower payment.payer
    payee := lower payment.payee
    nonce := lower payment.nonce
    sutBelievesPaid := sutBelievesPaid
    kind := divergence.kind.value
    severity := divergence.severity.value
    reasonCode := reasonCode
    message := divergence.message
    isFailure := divergence.isFailure
    evidence := evidence }

end Build

/-! ### Documents -/

def optionalText : Option Str → Json
  | none => .null
  | some text => .str text

def optionalInt : Option ℤ → Json
  | none => .null
  | some n => .int n

/-- The evidence part of the wire document. -/
def evidenceDict (evidence : ChainEvidence) : Json :=
  .object [
    ("chainId", .int evidence.chainId),
    ("finalityBlock", .object [
      ("number", .int evidence.finalityBlockNumber),
      ("hash", .str evidence.finalityBlockHash),
      ("tag", .str evidence.finalityBlockTag.text.toList),
      ("confirmations", .int evidence.confirmations)]),
    ("settlementBlock", .object [
      ("number", .int evidence.settlementBlockNumber),
      ("hash", .str evidence.settlementBlockHash)]),
    ("transaction", .object [
      ("hash", .str evidence.transactionHash),
      ("receiptStatus", .int evidence.receiptStatus),
      ("logIndex", optionalInt evidence.logIndex),
      ("authorizationLogIndex", optionalInt evidence.authorizationLogIndex),
      ("removed", .bool evidence.removed)]),
    ("token", .object [
      ("address", .str evidence.tokenAddress),
      ("codeSha256", .str evidence.tokenCodeSha256),
      ("implementationAddress", optionalText evidence.implementationAddress),
      ("implementationCodeSha256", optionalText evidence.implementationCodeSha256),
      ("railAttestationVersion", .str evidence.railAttestationVersion.toList)]),
    ("authorization", .object [
      ("payer", .str evidence.payer),
      ("payee", .str evidence.payee),
      ("nonce", .str evidence.nonce),
      ("nonceConsumed", .bool evidence.nonceConsumed),
      ("eventValue", optionalInt evidence.eventValue)]),
    ("balances", .object [
      ("payerBefore", .int evidence.payerBalanceBefore),
      ("payerAfter", .int evidence.payerBalanceAfter),
      ("payeeBefore", .int evidence.payeeBalanceBefore),
      ("payeeAfter", .int evidence.payeeBalanceAfter),
      ("requiredAmount", .int evidence.requiredAmount),
      ("receivedAmount", .int evidence.receivedAmount)])]

/-- The members of the stable v2 document. -/
def toDict (report : ReconReport) : List (String × Json) := [
  ("$schema", .str reportSchemaId.toList),
  ("reportVersion", .str reportVersion.toList),
  ("tool", .object [("name", .str "psv".toList), ("mode", .str "reconcile".toList),
    ("readOnly", .bool true)]),
  ("generatedAt", .str report.generatedAt),
  ("privacy", .object [("policy", .str privacyPolicy.toList)]),
  ("rail", .object [
    ("key", .str report.railKey.toList),
    ("label", .str report.railLabel.toList),
    ("chainId", .int report.chainId),
    ("token", .str report.tokenAddress)]),
  ("payment", .object [
    ("payer", .str report.payer),
    ("payee", .str report.payee),
    ("nonce", .str report.nonce),
    ("sutBelievesPaid", .bool report.sutBelievesPaid),
    ("requiredAmount", .int report.evidence.requiredAmount),
    ("receivedAmount", .int report.evidence.receivedAmount)]),
  ("evidence", evidenceDict report.evidence),
  ("divergence", .object [
    ("kind", .str report.kind.toList),
    ("severity", .str report.severity.toList),
    ("reasonCode", .str report.reasonCode.toList),
    ("message", .str report.message.toList),
    ("isFailure", .bool report.isFailure)])]

def requiredMembers : List String :=
  ["$schema", "reportVersion", "tool", "generatedAt", "privacy", "rail", "payment", "evidence",
    "divergence"]

/-- `doc["reportVersion"] != REPORT_VERSION` -/
def isVersion : Option Json → Bool
  | some (.str text) => decide (text = reportVersion.toList)
  | _ => false

/-- Dependency-free structural validation. -/
def validate (report : ReconReport) : Except PyError Unit := do
  let doc := report.toDict
  refuse ((doc.map Prod.fst).toFinset ≠ requiredMembers.toFinset ∨
      isVersion (doc.lookup "reportVersion") = false)
    (.valueError "invalid reconciliation report envelope")
  refuse (some report.reasonCode ≠ reasonCodes.lookup report.kind)
    (.valueError "invalid divergence reason code")
  refuse (report.evidence.requiredAmount ≤ 0 ∨ report.evidence.receivedAmount < 0)
    (.valueError "invalid report amount evidence")
  refuse (report.evidence.chainId ≠ report.chainId)
    (.valueError "report and evidence chain IDs differ")

/-- Validate and render deterministic, human-readable JSON. -/
def toJson (report : ReconReport) : Except PyError Str := do
  report.validate
  orRaise (Json.dumps 0 (.object report.toDict))
    (.valueError "Exceeds the limit (4300 digits) for integer string conversion")

/-- A number, or `None`. -/
def showOptional : Option ℤ → Except PyError String
  | none => .ok "None"
  | some n => showInt n

/-- Validate and render a concise human-readable evidence report. -/
def toMarkdown (report : ReconReport) : Except PyError String := do
  report.validate
  let e := report.evidence
  let verdict := if report.isFailure then "DIVERGENCE" else "CONSISTENT"
  let chainId ← showInt report.chainId
  let status ← showInt e.receiptStatus
  let logIndex ← showOptional e.logIndex
  let authorizationLogIndex ← showOptional e.authorizationLogIndex
  let settlementNumber ← showInt e.settlementBlockNumber
  let finalityNumber ← showInt e.finalityBlockNumber
  let confirmations ← showInt e.confirmations
  let required ← showInt e.requiredAmount
  let received ← showInt e.receivedAmount
  let eventValue ← showOptional e.eventValue
  let payerBefore ← showInt e.payerBalanceBefore
  let payerAfter ← showInt e.payerBalanceAfter
  let payeeBefore ← showInt e.payeeBalanceBefore
  let payeeAfter ← showInt e.payeeBalanceAfter
  return "\n".intercalate [
    "# psv reconciliation report",
    "",
    "_Read-only: psv read the chain and compared it to the system's belief. " ++
      "No funds moved._",
    "",
    s!"**Verdict:** {verdict} - `{report.kind}` ({report.severity})",
    s!"**Reason code:** `{report.reasonCode}`",
    s!"**Rail:** {report.railLabel} (`{report.railKey}`, chainId {chainId})",
    s!"**Token:** `{String.ofList report.tokenAddress}`",
    s!"**Payer:** `{String.ofList report.payer}` -> **Payee:** `{String.ofList report.payee}`",
    s!"**Nonce:** `{String.ofList report.nonce}`",
    s!"**Transaction:** `{String.ofList e.transactionHash}` (receipt status {status})",
    s!"**Log:** `{logIndex}`; authorization log `{authorizationLogIndex}`",
    s!"**Settlement block:** {settlementNumber} `{String.ofList e.settlementBlockHash}`",
    s!"**Finality:** {e.finalityBlockTag.text} block {finalityNumber}, " ++
      s!"{confirmations} confirmations",
    s!"**Amount:** required {required}; received {received}; " ++
      s!"event {eventValue}",
    s!"**Balances:** payer {payerBefore} -> {payerAfter}; " ++
      s!"payee {payeeBefore} -> {payeeAfter}",
    s!"**System believed paid:** {showBool report.sutBelievesPaid}",
    "",
    s!"> {report.message}",
    "",
    s!"Privacy: {privacyPolicy}",
    ""]

/-- 1 for every critical divergence, otherwise 0. -/
def exitCode (report : ReconReport) : ℕ := if report.isFailure then 1 else 0

/-! ### What is printed -/

/-- The numbers of a report. -/
def numbers (report : ReconReport) : List ℤ :=
  let e := report.evidence
  [report.chainId, e.receiptStatus, e.settlementBlockNumber, e.finalityBlockNumber,
    e.confirmations, e.requiredAmount, e.receivedAmount, e.payerBalanceBefore,
    e.payerBalanceAfter, e.payeeBalanceBefore, e.payeeBalanceAfter] ++
    (e.logIndex.toList ++ (e.authorizationLogIndex.toList ++ e.eventValue.toList))

theorem showInt_isOk_iff {n : ℤ} :
    (∃ text, showInt n = .ok text) ↔ n.natAbs < 10 ^ maxStrDigits := by
  constructor
  · rintro ⟨text, shown⟩
    by_contra long
    simp [showInt, intStr, long, orRaise, Except.map] at shown
  · exact showInt_isOk

theorem showOptional_isOk_iff {n : Option ℤ} :
    (∃ text, showOptional n = .ok text) ↔ ∀ value ∈ n.toList, value.natAbs < 10 ^ maxStrDigits := by
  cases n with
  | none => simp [showOptional]
  | some value => simp [showOptional, showInt_isOk_iff]

theorem ints_optionalInt (n : Option ℤ) : (optionalInt n).ints = n.toList := by
  cases n <;> rfl

theorem ints_optionalText (text : Option Str) : (optionalText text).ints = [] := by
  cases text <;> rfl

/-- The document holds the numbers of the report. -/
theorem mem_ints_toDict_iff {report : ReconReport} {n : ℤ}
    (sameChain : report.evidence.chainId = report.chainId) :
    n ∈ (Json.object report.toDict).ints ↔ n ∈ report.numbers := by
  simp only [toDict, evidenceDict, Json.ints, Json.intsMembers, ints_optionalInt,
    ints_optionalText, numbers, sameChain, List.mem_append, List.mem_cons, List.not_mem_nil,
    or_false, false_or]
  tauto

theorem chainId_of_validate {report : ReconReport} (valid : report.validate = .ok ()) :
    report.evidence.chainId = report.chainId := by
  simp only [validate, Checks.bind_eq_ok_iff, refuse_eq_ok_iff, exists_const] at valid
  simpa using valid.2.2.2

/-- A valid report has a JSON text exactly when its numbers can be converted. -/
theorem toJson_isOk_iff {report : ReconReport} (valid : report.validate = .ok ()) :
    (∃ text, report.toJson = .ok text) ↔
      ∀ n ∈ report.numbers, n.natAbs < 10 ^ maxStrDigits := by
  have dumped := Json.isSome_dumps_iff 0 (.object report.toDict)
  simp only [mem_ints_toDict_iff (chainId_of_validate valid)] at dumped
  rw [← dumped]
  simp only [toJson, valid, Checks.bind_eq_ok_iff, orRaise_eq_ok_iff, Option.isSome_iff_exists]
  simp

/-- A valid report has a Markdown text exactly when its numbers can be converted. -/
theorem toMarkdown_isOk_iff {report : ReconReport} (valid : report.validate = .ok ()) :
    (∃ text, report.toMarkdown = .ok text) ↔
      ∀ n ∈ report.numbers, n.natAbs < 10 ^ maxStrDigits := by
  unfold toMarkdown
  rw [Checks.isOk_bind_iff fun _ => Checks.isOk_bind_iff fun _ => Checks.isOk_bind_iff fun _ =>
    Checks.isOk_bind_iff fun _ => Checks.isOk_bind_iff fun _ => Checks.isOk_bind_iff fun _ =>
    Checks.isOk_bind_iff fun _ => Checks.isOk_bind_iff fun _ => Checks.isOk_bind_iff fun _ =>
    Checks.isOk_bind_iff fun _ => Checks.isOk_bind_iff fun _ => Checks.isOk_bind_iff fun _ =>
    Checks.isOk_bind_iff fun _ => Checks.isOk_bind_iff fun _ => Checks.isOk_bind_iff fun _ =>
    iff_true_intro ⟨_, rfl⟩]
  simp only [valid, showInt_isOk_iff, showOptional_isOk_iff]
  generalize 10 ^ maxStrDigits = bound
  simp only [numbers, List.cons_append, List.nil_append, List.mem_cons, List.mem_append, or_imp,
    forall_and, forall_eq]
  constructor
  · rintro ⟨_, chain, status, logIndex, authorization, settlement, finality, confirmations,
      required, received, event, payerBefore, payerAfter, payeeBefore, payeeAfter, _⟩
    exact ⟨chain, status, settlement, finality, confirmations, required, received, payerBefore,
      payerAfter, payeeBefore, payeeAfter, logIndex, authorization, event⟩
  · rintro ⟨chain, status, settlement, finality, confirmations, required, received, payerBefore,
      payerAfter, payeeBefore, payeeAfter, logIndex, authorization, event⟩
    exact ⟨⟨(), trivial⟩, chain, status, logIndex, authorization, settlement, finality, confirmations,
      required, received, event, payerBefore, payerAfter, payeeBefore, payeeAfter, trivial⟩

end ReconReport

/-- `datetime.now(UTC)` -/
def now {σ : Type} : Proc σ DateTime := question (S := interface) Ask.now

/-- `generated_at or datetime.now(UTC)` -/
def orNow {σ : Type} : Option DateTime → Proc σ DateTime
  | some moment => pure moment
  | none => now

/-- Run exact chain reconciliation and build a versioned evidence report. -/
def runReconcile [Interpreter] {σ : Type} (token : TokenView) (rail : RailConfig)
    (payment : Payment) (sutBelievesPaid : Bool) (generatedAt : Option DateTime) :
    Proc σ ReconReport := do
  let result ← reconcileLive token rail payment sutBelievesPaid
  let moment ← orNow generatedAt
  lift (ReconReport.build rail payment sutBelievesPaid result.divergence result.evidence moment)

end Psv
