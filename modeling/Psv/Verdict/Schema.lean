import Psv.Rails.Known
import Psv.Python.Schema
import Psv.Python.Lenient
import Psv.Verdict.Report

/-!
# Reports and their schema

The published schema of a report, and which reports conform to it.  Every member
is bounded by some decoder on the way to the report, except the number of the
finality block: a canonical quantity may be any natural number, and the schema
asks for a uint256.  The settlement block lies below the finality block, so one
bound decides (`conforms_iff`).
-/

namespace Psv

open Python Interaction Program RpcClient Anvil Chain Rails Verdict

namespace ReportSchema

/-! ### The schema -/

/-- `^0x[0-9a-f]{40}$`, and the same for other lengths. -/
def isLowerHex (digits : ℕ) (text : Str) : Bool :=
  isExactHex digits text && text.all fun c => c.toLower == c

/-- `^PSV-RECON-[A-Z-]+$` -/
def isReasonCode (text : Str) : Bool :=
  text.take 10 == "PSV-RECON-".toList && !(text.drop 10).isEmpty &&
    (text.drop 10).all fun c => c.isUpper || c == '-'

def address : Schema := .typed .string [.pattern (isLowerHex 40)]

def hash : Schema := .typed .string [.pattern (isLowerHex 64)]

def uint256 : Schema := .typed .integer [.minimum 0, .maximum uint256Max]

def positiveUint256 : Schema := .typed .integer [.minimum 1, .maximum uint256Max]

def boolean : Schema := .typed .boolean []

/-- A text that is not empty. -/
def text : Schema := .typed .string [.minLength 1]

def positive : Schema := .typed .integer [.minimum 1]

/-- A natural number, or `null`. -/
def optionalIndex : Schema := .all [.kinds [.integer, .null], .minimum 0]

def sha256 : Schema := .typed .string [.pattern isSha256]

def optionalSha256 : Schema := .all [.kinds [.string, .null], .pattern isSha256]

def optionalAddress : Schema := .any [address, .kinds [.null]]

/-- One of some texts. -/
def oneOf (texts : List String) : Schema := .enum (texts.map fun text => .str text.toList)

def receiptStatus : Schema := .enum [.int 0, .int 1]

def block : Schema := .closed ["number", "hash"] [("number", uint256), ("hash", hash)]

def finalityBlock : Schema :=
  .closed ["number", "hash", "tag", "confirmations"]
    [("number", uint256), ("hash", hash), ("tag", oneOf ["latest", "safe", "finalized"]),
      ("confirmations", positive)]

def transaction : Schema :=
  .closed ["hash", "receiptStatus", "logIndex", "authorizationLogIndex", "removed"]
    [("hash", hash), ("receiptStatus", receiptStatus), ("logIndex", optionalIndex),
      ("authorizationLogIndex", optionalIndex), ("removed", boolean)]

def token : Schema :=
  .closed ["address", "codeSha256", "implementationAddress", "implementationCodeSha256",
      "railAttestationVersion"]
    [("address", address), ("codeSha256", sha256), ("implementationAddress", optionalAddress),
      ("implementationCodeSha256", optionalSha256), ("railAttestationVersion", text)]

def authorization : Schema :=
  .closed ["payer", "payee", "nonce", "nonceConsumed", "eventValue"]
    [("payer", address), ("payee", address), ("nonce", hash), ("nonceConsumed", boolean),
      ("eventValue", optionalIndex)]

def balances : Schema :=
  .closed ["payerBefore", "payerAfter", "payeeBefore", "payeeAfter", "requiredAmount",
      "receivedAmount"]
    [("payerBefore", uint256), ("payerAfter", uint256), ("payeeBefore", uint256),
      ("payeeAfter", uint256), ("requiredAmount", positiveUint256), ("receivedAmount", uint256)]

def tool : Schema :=
  .closed ["name", "mode", "readOnly"]
    [("name", oneOf ["psv"]), ("mode", oneOf ["reconcile"]), ("readOnly", .enum [.bool true])]

def privacy : Schema := .closed ["policy"] [("policy", text)]

def rail : Schema :=
  .closed ["key", "label", "chainId", "token"]
    [("key", text), ("label", text), ("chainId", positive), ("token", address)]

def payment : Schema :=
  .closed ["payer", "payee", "nonce", "sutBelievesPaid", "requiredAmount", "receivedAmount"]
    [("payer", address), ("payee", address), ("nonce", hash), ("sutBelievesPaid", boolean),
      ("requiredAmount", positiveUint256), ("receivedAmount", uint256)]

def evidence : Schema :=
  .closed ["chainId", "finalityBlock", "settlementBlock", "transaction", "token", "authorization",
      "balances"]
    [("chainId", positive), ("finalityBlock", finalityBlock), ("settlementBlock", block),
      ("transaction", transaction), ("token", token), ("authorization", authorization),
      ("balances", balances)]

def divergence : Schema :=
  .closed ["kind", "severity", "reasonCode", "message", "isFailure"]
    [("kind", oneOf ["consistent_paid", "consistent_unpaid", "silent_loss", "phantom_credit",
        "underpaid_credit"]),
      ("severity", oneOf ["ok", "critical"]),
      ("reasonCode", .typed .string [.pattern isReasonCode]), ("message", text),
      ("isFailure", boolean)]

/-- `reconciliation-report-v2.schema.json`.  The format of `generatedAt` is an annotation. -/
def report : Schema :=
  .closed ["$schema", "reportVersion", "tool", "generatedAt", "privacy", "rail", "payment",
      "evidence", "divergence"]
    [("$schema", oneOf [reportSchemaId]), ("reportVersion", oneOf [reportVersion]),
      ("generatedAt", .typed .string []), ("tool", tool), ("privacy", privacy), ("rail", rail),
      ("payment", payment), ("evidence", evidence), ("divergence", divergence)]

/-! ### Leaves -/

section Leaves

open Schema

variable {text_ : Str} {n : ℤ} {flag : Bool}

attribute [local simp] typed accepts acceptsAll Json.hasKind

@[simp]
theorem accepts_address : address.accepts (.str text_) = isLowerHex 40 text_ := by
  simp [address]

@[simp]
theorem accepts_hash : hash.accepts (.str text_) = isLowerHex 64 text_ := by
  simp [hash]

@[simp]
theorem accepts_uint256 : uint256.accepts (.int n) = decide (0 ≤ n ∧ n ≤ uint256Max) := by
  simp [uint256]

@[simp]
theorem accepts_positiveUint256 :
    positiveUint256.accepts (.int n) = decide (1 ≤ n ∧ n ≤ uint256Max) := by
  simp [positiveUint256]

@[simp]
theorem accepts_boolean : boolean.accepts (.bool flag) = true := by
  simp [boolean]

@[simp]
theorem accepts_text : text.accepts (.str text_) = decide (1 ≤ text_.length) := by
  simp [text]

@[simp]
theorem accepts_positive : positive.accepts (.int n) = decide (1 ≤ n) := by
  simp [positive]

@[simp]
theorem accepts_optionalIndex {index : Option ℤ} :
    optionalIndex.accepts (ReconReport.optionalInt index) = true ↔ ∀ n ∈ index, 0 ≤ n := by
  cases index <;>
    simp [optionalIndex, ReconReport.optionalInt]

@[simp]
theorem accepts_sha256 : sha256.accepts (.str text_) = isSha256 text_ := by
  simp [sha256]

@[simp]
theorem accepts_oneOf {texts : List String} {one : String} :
    (oneOf texts).accepts (.str one.toList) = texts.contains one := by
  rw [oneOf, accepts, List.any_map, List.contains_eq_any_beq]
  congr 1
  funext other
  change (one.toList == other.toList) = (one == other)
  rw [Bool.eq_iff_iff, beq_iff_eq, beq_iff_eq, String.toList_inj]

end Leaves

/-! ### The members of a report -/

section Members

variable [Interpreter] {token : TokenView} {rail : RailConfig} {payment : Payment}
  {window : Window}

/-- Exact text in normal form fits its pattern. -/
theorem isLowerHex_lower {digits : ℕ} {given : Str} (shape : isExactHex digits given = true) :
    isLowerHex digits (lower given) = true := by
  rw [isLowerHex, isExactHex_lower shape, Bool.true_and, List.all_eq_true, lower_exactHex shape]
  intro c mem
  rcases List.mem_map.mp mem with ⟨d, inside, rfl⟩
  rcases isExactHex_iff.mp shape with ⟨rest, rfl, _, all⟩
  rw [beq_iff_eq]
  rcases List.mem_cons.mp inside with rfl | inside
  · decide
  · rcases List.mem_cons.mp inside with rfl | inside
    · decide
    · exact toLower_toLower_hex (isHexDigit_toLower (List.all_eq_true.mp all d inside))

theorem isLowerHex_hash {fields : Fields} {name : String} {given : Str}
    (isHash : HashAt fields name given) : isLowerHex 64 given = true := by
  rcases isHash with ⟨text, _, shape, rfl⟩
  exact isLowerHex_lower shape

theorem isSha256_of_code {code sha : Str} (ok : CodeOk code sha) : isSha256 sha = true := by
  rcases ok with ⟨_, raw, _, _, rfl⟩
  rw [isSha256, Interpreter.sha256_length, Bool.and_eq_true, List.all_eq_true]
  refine ⟨rfl, ?_⟩
  intro c mem
  rcases Interpreter.sha256_lower raw c mem with ⟨digit, same⟩
  rw [digit, same, beq_self_eq_true]
  rfl

/-- The attributed amounts are those of a uint256, and the indices are natural numbers. -/
structure Bounded (window : Window) : Prop where
  received : 0 ≤ window.attribution.receivedAmount ∧ window.attribution.receivedAmount ≤ uint256Max
  logIndex : ∀ credit ∈ window.attribution.selectedLog, 0 ≤ credit.identity.logIndex
  eventValue : ∀ value ∈ window.attribution.eventValue, 0 ≤ value

theorem bounded_of_accepted (accepted : window.Accepted token rail payment) : Bounded window := by
  have payeeParent := accepted.snapshot.payeeParent.lt
  have payeeAfter := accepted.snapshot.payeeAfter.lt
  have attribution := accepted.attribution
  rcases raced : window.race with _ | ⟨inbound, outbound⟩
  · rw [raced] at attribution
    constructor
    · simp [attribution.2.2, revertedAttribution]
    · simp [attribution.2.2, revertedAttribution]
    · simp [attribution.2.2, revertedAttribution]
  · rw [raced] at attribution
    rcases attribution with ⟨_, credit, authIndex, ok, attributed⟩
    rcases ok.logs with ⟨_, _, ⟨_, _, decodes⟩, _⟩
    rcases decodes.logIndex with ⟨_, _, index, _⟩
    rcases decodes.data with ⟨_, _, _, value⟩
    have received := ok.received.1
    constructor
    · simp only [attributed, successAttribution, uint256Max]
      omega
    · simp [attributed, successAttribution, index]
    · simp [attributed, successAttribution, value]

theorem accepts_identity {code : Option (Str × Str)} {identity : Option Str × Option Str}
    (ok : ImplementationOk rail code identity) :
    optionalAddress.accepts (ReconReport.optionalText identity.1) = true ∧
      optionalSha256.accepts (ReconReport.optionalText identity.2) = true := by
  rcases code with _ | ⟨word, code⟩
  · rw [ok.2]
    decide
  · rcases ok with ⟨_, _, given, sha, _, implementation, _, _, _, _, codeOk, rfl⟩
    have shape := isLowerHex_lower (rail.attestation.valid.implementation given implementation)
    simp [optionalAddress, optionalSha256, ReconReport.optionalText, Schema.accepts,
      Schema.acceptsAny, Schema.acceptsAll, Json.hasKind, shape, isSha256_of_code codeOk]

omit [Interpreter] in
theorem length_of_ne_empty {given : String} (named : given ≠ "") : 1 ≤ given.toList.length := by
  apply List.length_pos_iff.mpr
  intro empty
  exact named (String.toList_eq_nil_iff.mp empty)

omit [Interpreter] in
theorem text_of_tag (tag : FinalityTag) :
    tag.text = "latest" ∨ tag.text = "safe" ∨ tag.text = "finalized" := by
  cases tag <;> simp [FinalityTag.text]

/-- The evidence conforms exactly when the number of the finality block is a uint256. -/
theorem accepts_evidence_iff (accepted : window.Accepted token rail payment) :
    evidence.accepts (ReconReport.evidenceDict (window.evidence token rail payment)) = true ↔
      window.finalityNumber ≤ uint256Max := by
  have finalityHash := isLowerHex_hash accepted.finality.hash
  have pointHash := isLowerHex_hash accepted.point.hash
  have transactionHash := isLowerHex_lower accepted.arguments.txShape
  have payer := isLowerHex_lower accepted.snapshot.payerShape
  have payee := isLowerHex_lower accepted.snapshot.payeeShape
  have nonce := isLowerHex_lower accepted.arguments.nonceShape
  have tokenAddress := isLowerHex_lower rail.tokenAddress_exact
  have code := isSha256_of_code accepted.code
  have identity := accepts_identity accepted.implementation
  have bounded := bounded_of_accepted accepted
  have chain : 1 ≤ window.liveChain := by
    have positive := rail.chainId_pos
    have same := accepted.chain_eq
    omega
  have confirmations : 1 ≤ window.point.confirmations :=
    rail.finality.positive.trans accepted.point.deep
  have below : window.point.number ≤ window.finalityNumber := by
    have distance := accepted.point.confirmations
    omega
  have status : receiptStatus.accepts (.int window.point.status) = true := by
    rcases accepted.point.status_cases with zero | one
    · rw [zero]
      decide
    · rw [one]
      decide
  have version := length_of_ne_empty rail.attestation.valid.versioned
  have payerParent := accepted.snapshot.payerParent.lt
  have payeeParent := accepted.snapshot.payeeParent.lt
  have payerAfter := accepted.snapshot.payerAfter.lt
  have payeeAfter := accepted.snapshot.payeeAfter.lt
  have required := accepted.arguments.requiredAmount
  simp [evidence, ReconReport.evidenceDict, Window.evidence, chainEvidence, Schema.accepts,
    Schema.acceptsMembers, List.lookup_cons, finalityBlock, block, transaction, ReportSchema.token,
    authorization, balances, finalityHash, pointHash, transactionHash, payer, payee, nonce,
    accepted.arguments.sameToken, tokenAddress, code, identity, status]
  constructor
  · intro conforms
    exact conforms.2.1.1
  · intro small
    refine ⟨chain, ⟨small, text_of_tag _, confirmations⟩, below.trans small, bounded.logIndex,
      version, bounded.eventValue, ?_⟩
    simp only [uint256Max] at required ⊢
    exact ⟨by omega, by omega, by omega, by omega, required, bounded.received⟩

/-! ### Whole reports -/

omit [Interpreter] in
/-- Every verdict comes with a message. -/
theorem message_of_detected {truth : SettlementTruth} {believes : Bool} {required : ℤ}
    {given : Divergence}
    (detected : detectPaymentDivergence truth believes (some required) = .ok given) :
    given.message ≠ "" := by
  rcases moved : truth.fundsMoved with _ | _ <;> rcases believes with _ | _ <;>
    simp only [detectPaymentDivergence, moved, Bool.and_true, Bool.and_false, Bool.false_eq_true,
      Bool.not_false, Bool.not_true, if_false, if_true] at detected
  · cases detected
    decide
  · rcases Checks.bind_eq_ok_iff.mp detected with ⟨payee, _, returned⟩
    cases returned
    simp
  · rcases Checks.bind_eq_ok_iff.mp detected with ⟨payer, _, rest⟩
    rcases Checks.bind_eq_ok_iff.mp rest with ⟨payee, _, returned⟩
    cases returned
    simp
  · split_ifs at detected
    · rcases Checks.bind_eq_ok_iff.mp detected with ⟨received, _, rest⟩
      rcases Checks.bind_eq_ok_iff.mp rest with ⟨invoiced, _, last⟩
      rcases Checks.bind_eq_ok_iff.mp last with ⟨short, _, returned⟩
      cases returned
      simp
    · rcases Checks.bind_eq_ok_iff.mp detected with ⟨received, _, rest⟩
      rcases Checks.bind_eq_ok_iff.mp rest with ⟨invoiced, _, returned⟩
      cases returned
      simp

omit [Interpreter] in
/-- Every kind with a reason code conforms, with its severity and its code. -/
theorem accepts_kind {kind : DivergenceKind} {code : String}
    (coded : reasonCodes.lookup kind.value = some code) :
    (oneOf ["consistent_paid", "consistent_unpaid", "silent_loss", "phantom_credit",
        "underpaid_credit"]).accepts (.str kind.value.toList) = true ∧
      (oneOf ["ok", "critical"]).accepts (.str kind.severity.value.toList) = true ∧
      isReasonCode code.toList = true := by
  cases kind <;> cases coded <;> decide

omit [Interpreter] in
/-- The verdict of the detector conforms. -/
theorem accepts_divergence {truth : SettlementTruth} {believes : Bool} {required : ℤ}
    {given : Divergence} {code : String}
    (detected : detectPaymentDivergence truth believes (some required) = .ok given)
    (coded : reasonCodes.lookup given.kind.value = some code) :
    divergence.accepts (.object [
      ("kind", .str given.kind.value.toList),
      ("severity", .str given.severity.value.toList),
      ("reasonCode", .str code.toList),
      ("message", .str given.message.toList),
      ("isFailure", .bool given.isFailure)]) = true := by
  have message := length_of_ne_empty (message_of_detected detected)
  rcases accepts_kind coded with ⟨kind, severity, isCode⟩
  rw [← (detectPaymentDivergence_grade detected).2] at severity
  simp [divergence, Schema.accepts, Schema.acceptsMembers, List.lookup_cons, Schema.typed,
    Schema.acceptsAll, Json.hasKind, message, isCode] at kind severity ⊢
  exact ⟨kind, severity⟩

/-- A report of an accepted window conforms exactly when the number of the finality block is a
uint256. -/
theorem accepts_toDict_iff {given : ReconReport} {believes : Bool} {moment : DateTime}
    {verdict : Divergence} (named : rail.key ≠ "" ∧ rail.label ≠ "")
    (accepted : window.Accepted token rail payment)
    (detected : detectPaymentDivergence window.attribution.truth believes
      (some payment.requiredAmount) = .ok verdict)
    (built : ReconReport.build rail payment believes verdict (window.evidence token rail payment)
      moment = .ok given) :
    report.accepts (.object given.toDict) = true ↔ window.finalityNumber ≤ uint256Max := by
  rcases (build_eq_ok_iff accepted).mp built with ⟨_, text, code, _, coded, rfl⟩
  have conforms := accepts_evidence_iff accepted
  have verdictConforms := accepts_divergence detected coded
  have payer := isLowerHex_lower accepted.snapshot.payerShape
  have payee := isLowerHex_lower accepted.snapshot.payeeShape
  have nonce := isLowerHex_lower accepted.arguments.nonceShape
  have tokenAddress := isLowerHex_lower rail.tokenAddress_exact
  have chain := rail.chainId_pos
  have required := accepted.arguments.requiredAmount
  have received := (bounded_of_accepted accepted).received
  simp [report, ReconReport.toDict, Schema.accepts, Schema.acceptsMembers, List.lookup_cons, tool,
    privacy, ReportSchema.rail, ReportSchema.payment, payer, payee, nonce, tokenAddress, conforms,
    verdictConforms]
  constructor
  · intro all
    exact all.2.2.2.2.2
  · intro small
    refine ⟨rfl, ⟨by decide, by decide, rfl⟩, by decide +kernel, ⟨?_, ?_, chain⟩,
      ⟨required, received⟩, small⟩
    · exact length_of_ne_empty named.1
    · exact length_of_ne_empty named.2

omit [Interpreter] in
/-- The node answers with a finality block whose number is a uint256. -/
def FinalityFits (rail : RailConfig) (said : Conversation) : Prop :=
  ∀ block n, firstObject (asksTag rail.finality.blockTag) said = some block →
    QuantityAt block "number" n → n ≤ uint256Max

theorem finalityFits_iff (accepted : window.Accepted token rail payment) (tail : Conversation) :
    FinalityFits rail (window.transcript token rail payment ++ tail) ↔
      window.finalityNumber ≤ uint256Max := by
  constructor
  · intro fits
    exact fits _ _ (finality_transcript tail) accepted.finality.number
  · intro small block n found isNumber
    cases (finality_transcript tail).symm.trans found
    rw [isNumber.unique accepted.finality.number]
    exact small

variable {σ : Type} {world : World} {state finalState : σ} {history said : Conversation}
  {believes : Bool} {generatedAt : Option DateTime} {given : ReconReport}

/-- A report that is returned for a rail with a name. -/
theorem accepts_returned_iff (named : rail.key ≠ "" ∧ rail.label ≠ "")
    (returned : Returns world (runReconcile token rail payment believes generatedAt) state history
      given finalState (history ++ said)) :
    report.accepts (.object given.toDict) = true ↔ FinalityFits rail said := by
  rcases returns_iff.mp returned with ⟨_, extended, _, replays⟩
  cases List.append_cancel_left extended
  rcases window_of_runReconcile replays with
    ⟨window, verdict, moment, tail, accepted, rfl, detected, built⟩
  rw [accepts_toDict_iff named accepted detected built, finalityFits_iff accepted tail]

/-- A report that is returned for a registered rail conforms to the schema exactly when the node
answered with a finality block whose number is a uint256. -/
theorem conforms_iff (known : rail ∈ knownRails)
    (returned : Returns world (runReconcile token rail payment believes generatedAt) state history
      given finalState (history ++ said)) :
    report.accepts (.object given.toDict) = true ↔ FinalityFits rail said :=
  accepts_returned_iff (named_knownRails rail known) returned

end Members

/-! ### Sample reports -/

section Samples

open Node Node.Sample

/-- The report on the sample payment conforms. -/
theorem conforms_paid : letI := interpreter
    ∃ said given, Returns (served (paidOn 84532))
        (runReconcile Sample.token mockAnvil (paymentTo payee) true (some sampleMoment)) () [] given
        () said ∧
      report.accepts (.object given.toDict) = true := by
  let := interpreter
  rcases returns_paidWindow suited_mockAnvil rfl () [] true with ⟨_, reconciled⟩
  have written : sampleMoment.utcText = .ok "2026-01-01T00:00:00+00:00".toList := rfl
  rcases returns_runReconcile reconciled rfl written with ⟨given, _, returned⟩
  refine ⟨_, given, returned, (conforms_iff (by simp [knownRails]) returned).mpr ?_⟩
  have fits := finalityFits_iff (accepted_paidWindow suited_mockAnvil rfl) []
  rw [List.append_nil] at fits
  have finality : (paidWindow mockAnvil 84532).finalityNumber = 1 := rfl
  rw [finality] at fits
  exact fits.mpr (by norm_num [uint256Max])

/-- The place of the sample settlement under a finality block far above it. -/
def deepPoint : SettlementPoint :=
  { (paidWindow mockAnvil 84532).point with confirmations := 2 ^ 256 }

/-- The sample window with a finality block whose number is no uint256. -/
def deepWindow : Window := { paidWindow mockAnvil 84532 with
  finality := blockJson (2 ^ 256) 0 (settlement payee [] paid)
  finalityNumber := 2 ^ 256
  point := deepPoint }

/-- What the receipt contributes does not depend on its confirmations. -/
theorem attributionOk_of_confirmations [Interpreter] {token : TokenView} {payment : Payment}
    {liveChain : ℕ} {txHash : Str} {point : SettlementPoint} {receipt : Fields}
    {snapshot : Snapshot} {race : Option (List Fields × List Fields)} {attribution : Attribution}
    (confirmations : ℤ)
    (ok : AttributionOk token payment liveChain txHash point receipt snapshot race attribution) :
    AttributionOk token payment liveChain txHash { point with confirmations := confirmations }
      receipt snapshot race attribution := by
  rcases race with _ | ⟨inbound, outbound⟩
  · exact ok
  · rcases ok with ⟨success, credit, authIndex, transfer, attributed⟩
    exact ⟨success, credit, authIndex, ⟨transfer.logs, transfer.asset, transfer.standing,
      transfer.txHash, transfer.blockHash, transfer.blockNumber, transfer.payer, transfer.payee,
      transfer.consumed, transfer.race, transfer.debited, transfer.received⟩, attributed⟩

theorem accepted_deepWindow : letI := interpreter
    deepWindow.Accepted Sample.token mockAnvil (paymentTo payee) := by
  let := interpreter
  have accepted := accepted_paidWindow suited_mockAnvil rfl
  exact { accepted with
    finality := blockOk_blockJson (2 ^ 256) 0 (settlement payee [] paid) (by decide)
    point := {
      shape := accepted.point.shape
      transaction := accepted.point.transaction
      number := accepted.point.number
      hash := accepted.point.hash
      status := accepted.point.status
      confirmations := by decide +kernel
      deep := by decide +kernel }
    attribution := attributionOk_of_confirmations (2 ^ 256) accepted.attribution
    recheck := by
      rcases accepted.recheck with ⟨shape, hash, number, block⟩
      exact ⟨shape, hash, number, block⟩ }

/-- Behind this window a report is returned that does not conform. -/
theorem deepWindow_unconforming : letI := interpreter
    ¬∀ rail ∈ knownRails, ∀ (token : TokenView) (payment : Payment) (believes : Bool)
      (generatedAt : Option DateTime) (world : World) (given : ReconReport) (said : Conversation),
      Returns world (runReconcile token rail payment believes generatedAt) () [] given () said →
        report.accepts (.object given.toDict) = true := by
  let := interpreter
  intro every
  rcases accepted_deepWindow.returns true (served (paidOn 84532)) () with ⟨_, _, reconciled⟩
  have written : sampleMoment.utcText = .ok "2026-01-01T00:00:00+00:00".toList := rfl
  rcases returns_runReconcile reconciled rfl written with ⟨given, _, returned⟩
  have conforms := every mockAnvil (by simp [knownRails]) _ _ _ _ _ given _ returned
  have fits : FinalityFits mockAnvil
      (deepWindow.transcript Sample.token mockAnvil (paymentTo payee)) :=
    (accepts_returned_iff ⟨by decide, by decide⟩ returned).mp conforms
  rw [← List.append_nil (deepWindow.transcript Sample.token mockAnvil (paymentTo payee)),
    finalityFits_iff accepted_deepWindow] at fits
  have finality : deepWindow.finalityNumber = 2 ^ 256 := rfl
  rw [finality, uint256Max] at fits
  omega

end Samples

end ReportSchema

end Psv
