import Psv.Report
import Psv.Node.Transfer

/-!
# Verdicts and reports

The verdict is a function of the evidence and the belief, and the belief has no
influence on the evidence: it enters only after the observation is over
(`belief_independent`).  A report on the verdict is always built and valid.
Rendering it fails when a number is too long for a decimal conversion.  Amounts
are bounded, but the chain id, the number of the finality block and the index of
the authorization log are taken as they come, so rendering succeeds exactly when
these three are short (`report_iff`).
-/

namespace Psv

open Python Interaction Program RpcClient Anvil Chain Rails

namespace Verdict

section Report

variable [Interpreter] {σ : Type} {world : World} {state finalState : σ}
  {history finalHistory said : Conversation} {token : TokenView} {rail : RailConfig}
  {payment : Payment} {believes : Bool} {generatedAt : Option DateTime} {window : Window}

/-! ### Building a report -/

omit [Interpreter] in
/-- Every kind that the table can give has a reason code. -/
theorem lookup_reasonCodes (moved believes short : Bool) :
    ∃ code, reasonCodes.lookup (grade moved believes short).value = some code := by
  cases moved <;> cases believes <;> cases short <;> exact ⟨_, rfl⟩

/-- A report is built of every accepted window whose moment has a text. -/
theorem build_eq_ok_iff {divergence : Divergence} {moment : DateTime} {report : ReconReport}
    (accepted : window.Accepted token rail payment) :
    ReconReport.build rail payment believes divergence (window.evidence token rail payment) moment =
        .ok report ↔
      moment.aware = true ∧ ∃ text code, moment.utcText = .ok text ∧
        reasonCodes.lookup divergence.kind.value = some code ∧
        report = ⟨text, rail.key, rail.label, rail.chainId, lower rail.tokenAddress,
          lower payment.payer, lower payment.payee, lower payment.nonce, believes,
          divergence.kind.value, divergence.severity.value, code, divergence.message,
          divergence.isFailure, window.evidence token rail payment⟩ := by
  have sameRail : ¬((window.evidence token rail payment).chainId ≠ rail.chainId ∨
      (window.evidence token rail payment).tokenAddress ≠ lower rail.tokenAddress) := by
    rw [not_or, not_not, not_not]
    exact ⟨accepted.chain_eq, accepted.arguments.sameToken⟩
  simp only [ReconReport.build, Checks.bind_eq_ok_iff, refuse_eq_ok_iff, exists_const, sameRail,
    not_false_eq_true, true_and, orRaise_eq_ok_iff, pure, Except.pure, Except.ok.injEq,
    Bool.not_eq_false]
  constructor
  · rintro ⟨aware, text, written, code, coded, rfl⟩
    exact ⟨aware, text, code, written, coded, rfl⟩
  · rintro ⟨aware, text, code, written, coded, rfl⟩
    exact ⟨aware, text, written, code, coded, rfl⟩

/-! ### Independence of the belief -/

/-- Two runs for the two beliefs end alike: in the same error, or with the same evidence. -/
def SameButBelief (paid unpaid : Except PyError ReconReport) : Prop :=
  (∃ error, paid = .error error ∧ unpaid = .error error) ∨
    ∃ left right, paid = .ok left ∧ unpaid = .ok right ∧ left.evidence = right.evidence

omit [Interpreter] in
theorem SameButBelief.bind {α : Type} {computation : Except PyError α}
    {paid unpaid : α → Except PyError ReconReport}
    (rest : ∀ value, SameButBelief (paid value) (unpaid value)) :
    SameButBelief (computation >>= paid) (computation >>= unpaid) := by
  rcases computation with error | value
  · exact Or.inl ⟨error, rfl, rfl⟩
  · exact rest value

theorem sameButBelief_build {paid unpaid : Divergence} {evidence : ChainEvidence}
    {moment : DateTime} (paidCode : ∃ code, reasonCodes.lookup paid.kind.value = some code)
    (unpaidCode : ∃ code, reasonCodes.lookup unpaid.kind.value = some code) :
    SameButBelief (ReconReport.build rail payment true paid evidence moment)
      (ReconReport.build rail payment false unpaid evidence moment) := by
  rcases paidCode with ⟨paidCode, paidCoded⟩
  rcases unpaidCode with ⟨unpaidCode, unpaidCoded⟩
  unfold ReconReport.build
  rw [paidCoded, unpaidCoded]
  apply SameButBelief.bind
  intro _
  apply SameButBelief.bind
  intro _
  apply SameButBelief.bind
  intro text
  exact Or.inr ⟨_, _, rfl, rfl, rfl⟩

/-- The moment of a report, and the conversation after it was found. -/
def momentOf (generatedAt : Option DateTime) (world : World) (history : Conversation) :
    DateTime × Conversation :=
  match generatedAt with
  | some moment => (moment, history)
  | none => (world history Ask.now, history ++ [⟨Ask.now, world history Ask.now⟩])

/-- A report is built of what was observed and of the verdict on it. -/
theorem run_runReconcile {truth : SettlementTruth} {evidence : ChainEvidence} {later : σ}
    {laterHistory : Conversation} {divergence : Divergence}
    (seen : (observe token rail payment).run world state history =
      ⟨.ok (truth, evidence), later, laterHistory⟩)
    (detected : detectPaymentDivergence truth believes (some payment.requiredAmount) =
      .ok divergence) :
    (runReconcile token rail payment believes generatedAt).run world state history =
      ⟨ReconReport.build rail payment believes divergence evidence
        (momentOf generatedAt world laterHistory).1, later,
        (momentOf generatedAt world laterHistory).2⟩ := by
  have reconciled : (reconcileLive token rail payment believes).run world state history =
      ⟨.ok ⟨divergence, evidence⟩, later, laterHistory⟩ := by
    simp only [reconcileLive, run_bind, seen, detected, run_lift]
    rfl
  unfold runReconcile
  rw [run_bind, reconciled]
  cases generatedAt with
  | some moment => exact run_lift _ _ _
  | none => exact run_lift _ _ _

/-- Whatever the world answers, the belief decides neither on an error nor on the evidence. -/
theorem belief_independent :
    SameButBelief
      ((runReconcile token rail payment true generatedAt).run world state history).result
      ((runReconcile token rail payment false generatedAt).run world state history).result := by
  rcases seen : (observe token rail payment).run world state history with
    ⟨error | ⟨truth, evidence⟩, later, laterHistory⟩
  · have failed : ∀ believes, ((runReconcile token rail payment believes generatedAt).run world
        state history).result = .error error := by
      intro believes
      simp only [runReconcile, reconcileLive, run_bind, seen]
    exact Or.inl ⟨error, failed true, failed false⟩
  · rcases (run_eq_iff _).mp seen with ⟨_, _, _, replays⟩
    rcases ((reads_observe token rail payment _ _ _ _).mp replays).1 with
      ⟨window, accepted, _, observed⟩
    cases observed
    rcases accepted.detects true with ⟨paid, paidDetected⟩
    rcases accepted.detects false with ⟨unpaid, unpaidDetected⟩
    rw [run_runReconcile seen paidDetected, run_runReconcile seen unpaidDetected]
    apply sameButBelief_build
    · rw [(accepted.graded paidDetected).1]
      exact lookup_reasonCodes _ _ _
    · rw [(accepted.graded unpaidDetected).1]
      exact lookup_reasonCodes _ _ _

/-! ### The verdict -/

/-- What the report says about belief and evidence. -/
structure Graded (report : ReconReport) (believes : Bool) : Prop where
  consistentPaid : report.kind = DivergenceKind.consistentPaid.value ↔
    report.evidence.receiptStatus = 1 ∧ believes = true ∧
      report.evidence.requiredAmount ≤ report.evidence.receivedAmount
  underpaidCredit : report.kind = DivergenceKind.underpaidCredit.value ↔
    report.evidence.receiptStatus = 1 ∧ believes = true ∧
      report.evidence.receivedAmount < report.evidence.requiredAmount
  silentLoss : report.kind = DivergenceKind.silentLoss.value ↔
    report.evidence.receiptStatus = 1 ∧ believes = false
  phantomCredit : report.kind = DivergenceKind.phantomCredit.value ↔
    report.evidence.receiptStatus = 0 ∧ believes = true
  consistentUnpaid : report.kind = DivergenceKind.consistentUnpaid.value ↔
    report.evidence.receiptStatus = 0 ∧ believes = false
  notOverAuthorized : report.kind ≠ DivergenceKind.overAuthorizedSettlement.value
  exitCode : report.exitCode = 1 ↔
    report.kind ∈ [DivergenceKind.underpaidCredit.value, DivergenceKind.silentLoss.value,
      DivergenceKind.phantomCredit.value]

/-- The report is valid and has both renderings. -/
structure Rendered (report : ReconReport) : Prop where
  valid : report.validate = .ok ()
  json : ∃ text, report.toJson = .ok text
  markdown : ∃ text, report.toMarkdown = .ok text

omit [Interpreter] in
/-- The table decides every kind by status, belief and amount. -/
theorem graded_of_grade {report : ReconReport} {divergence : Divergence} {status : ℕ}
    (binary : status = 0 ∨ status = 1) (isStatus : report.evidence.receiptStatus = status)
    (kind : report.kind = divergence.kind.value)
    (failure : report.isFailure = divergence.isFailure)
    (graded : divergence.kind = grade (decide (status = 1)) believes
      (decide (report.evidence.receivedAmount < report.evidence.requiredAmount)))
    (severity : divergence.severity = divergence.kind.severity) : Graded report believes := by
  have exit : report.exitCode = if decide (divergence.kind.severity = .critical) then 1 else 0 := by
    rw [ReconReport.exitCode, failure, Divergence.isFailure, severity]
  by_cases short : report.evidence.receivedAmount < report.evidence.requiredAmount
  · have notEnough : ¬report.evidence.requiredAmount ≤ report.evidence.receivedAmount := by omega
    rcases binary with rfl | rfl <;> cases believes <;> rw [graded] at kind exit <;>
      constructor <;> simp [kind, exit, isStatus, short, notEnough, grade, DivergenceKind.value,
        DivergenceKind.severity]
  · have enough : report.evidence.requiredAmount ≤ report.evidence.receivedAmount := by omega
    rcases binary with rfl | rfl <;> cases believes <;> rw [graded] at kind exit <;>
      constructor <;> simp [kind, exit, isStatus, short, enough, grade, DivergenceKind.value,
        DivergenceKind.severity]

/-! ### The numbers of a report -/

/-- The attributed amounts and the chosen log index are 256-bit numbers. -/
theorem attribution_bounds (accepted : window.Accepted token rail payment) :
    window.attribution.receivedAmount.natAbs < 2 ^ 256 ∧
      (∀ credit ∈ window.attribution.selectedLog, credit.identity.logIndex.natAbs < 2 ^ 256) ∧
      ∀ value ∈ window.attribution.eventValue, value.natAbs < 2 ^ 256 := by
  have payeeParent := accepted.snapshot.payeeParent.lt
  have payeeAfter := accepted.snapshot.payeeAfter.lt
  have attribution := accepted.attribution
  rcases raced : window.race with _ | ⟨inbound, outbound⟩
  · rw [raced] at attribution
    rw [attribution.2.2]
    refine ⟨by norm_num [revertedAttribution], ?_, ?_⟩
    · rintro _ ⟨⟩
    · rintro _ ⟨⟩
  · rw [raced] at attribution
    rcases attribution with ⟨_, credit, authIndex, ok, attributed⟩
    rcases ok.logs with ⟨_, _, ⟨_, _, decodes⟩, _⟩
    rcases decodes.logIndex with ⟨_, _, index, indexBound⟩
    rcases decodes.data with ⟨text, _, shape, value⟩
    have small : hexVal (text.drop 2) < 2 ^ 256 := WordIs.lt ⟨shape, rfl⟩
    rw [uint256Max] at indexBound
    rw [attributed]
    simp only [successAttribution, Option.mem_some_iff, forall_eq']
    rw [index, value]
    refine ⟨?_, ?_, ?_⟩
    · omega
    · omega
    · omega

/-- Amounts, balances and the chosen log index are bounded; what is left can be long. -/
theorem numbers_short_iff {report : ReconReport} (accepted : window.Accepted token rail payment)
    (evidence : report.evidence = window.evidence token rail payment)
    (chain : report.chainId = rail.chainId) :
    (∀ n ∈ report.numbers, n.natAbs < 10 ^ maxStrDigits) ↔
      rail.chainId.natAbs < 10 ^ maxStrDigits ∧ window.finalityNumber < 10 ^ maxStrDigits ∧
        ∀ index ∈ window.attribution.authLogIndex, index < 10 ^ maxStrDigits := by
  have fits : 2 ^ 256 < 10 ^ maxStrDigits := by
    calc 2 ^ 256 < 10 ^ 78 := by norm_num
      _ ≤ 10 ^ maxStrDigits := Nat.pow_le_pow_right (by norm_num) (by norm_num [maxStrDigits])
  generalize 10 ^ maxStrDigits = bound at fits ⊢
  have required := accepted.arguments.requiredAmount
  simp only [uint256Max] at required
  have payerParent := accepted.snapshot.payerParent.lt
  have payeeParent := accepted.snapshot.payeeParent.lt
  have payerAfter := accepted.snapshot.payerAfter.lt
  have payeeAfter := accepted.snapshot.payeeAfter.lt
  have status := accepted.point.status_cases
  have confirmations := accepted.point.confirmations
  have deep := accepted.point.deep
  have positive := rail.finality.positive
  have afterGenesis := accepted.snapshot.afterGenesis
  rcases attribution_bounds accepted with ⟨received, logIndex, event⟩
  simp only [ReconReport.numbers, evidence, chain, Window.evidence, chainEvidence,
    List.cons_append, List.nil_append, List.mem_cons, List.mem_append, or_imp, forall_and,
    forall_eq, Option.mem_toList, Option.map_eq_some_iff, forall_exists_index, and_imp,
    Int.natAbs_natCast]
  constructor
  · rintro ⟨chainShort, _, _, finalityShort, _, _, _, _, _, _, _, _, authShort, _⟩
    exact ⟨chainShort, finalityShort, fun index placed => authShort _ index placed rfl⟩
  · rintro ⟨chainShort, finalityShort, authShort⟩
    refine ⟨chainShort, ?_, ?_, finalityShort, ?_, ?_, ?_, ?_, ?_, ?_, ?_, ?_, ?_, ?_⟩
    · omega
    · omega
    · omega
    · omega
    · omega
    · omega
    · omega
    · omega
    · omega
    · rintro _ credit selected rfl
      exact (logIndex credit selected).trans fits
    · rintro _ index placed rfl
      exact authShort index placed
    · intro value valued
      exact (event value valued).trans fits

/-! ### The answers that decide -/

omit [Interpreter] in
/-- The first object that was answered to a wanted question. -/
def firstObject (wanted : String → List Value → Bool) (said : Conversation) : Option Fields :=
  said.findSome? fun entry =>
    match entry with
    | ⟨.rpc method params, answer⟩ =>
        if wanted method params then
          match (answer : Except String Value) with
          | .ok (.dict fields) => some fields
          | _ => none
        else none
    | _ => none

omit [Interpreter] in
def asksReceipt (method : String) (_params : List Value) : Bool :=
  method == "eth_getTransactionReceipt"

omit [Interpreter] in
def asksTag (tag : FinalityTag) (method : String) (params : List Value) : Bool :=
  method == "eth_getBlockByNumber" &&
    match params with
    | [.str selector, _] => selector == tag.text.toList
    | _ => false

/-- The chain id of the rail, the number of the finality block and, for a success, the index of
the authorization log have few enough decimal digits. -/
structure Printable (token : TokenView) (rail : RailConfig) (payment : Payment)
    (said : Conversation) : Prop where
  chain : rail.chainId.natAbs < 10 ^ maxStrDigits
  finality : ∀ block n, firstObject (asksTag rail.finality.blockTag) said = some block →
    QuantityAt block "number" n → n < 10 ^ maxStrDigits
  authorization : ∀ receipt (logs : List Fields), firstObject asksReceipt said = some receipt →
    QuantityAt receipt "status" 1 → getField receipt "logs" = .list (logs.map .dict) →
      ∀ log ∈ logs, isTokenLog token.address (authorizationTopics payment) log = true →
        ∀ n, QuantityAt log "logIndex" n → n < 10 ^ maxStrDigits

omit [Interpreter] in
theorem firstObject_append {wanted : String → List Value → Bool} (first second : Conversation) :
    firstObject wanted (first ++ second) =
      (firstObject wanted first).or (firstObject wanted second) :=
  List.findSome?_append

omit [Interpreter] in
theorem asksTag_pyHex (tag : FinalityTag) (number : ℕ) :
    asksTag tag "eth_getBlockByNumber" [.str (pyHex number), .bool false] = false := by
  cases tag <;> simp [asksTag, FinalityTag.text, pyHex]

omit [Interpreter] in
theorem firstObject_anchorSaid {wanted : String → List Value → Bool} {reviewed : Option Fields}
    (other : ∀ number, wanted "eth_getBlockByNumber" [.str (pyHex number), .bool false] = false) :
    firstObject wanted (anchorSaid rail reviewed) = none := by
  unfold anchorSaid
  split
  · simp [firstObject, blockSaid, exchange, other]
  · rfl

theorem firstReceipt_transcript (tail : Conversation) :
    firstObject asksReceipt (window.transcript token rail payment ++ tail) =
      some window.receipt := by
  have anchor : firstObject asksReceipt (anchorSaid rail window.reviewed) = none :=
    firstObject_anchorSaid fun _ => rfl
  rw [Window.transcript, Window.opening, List.append_assoc, firstObject_append, firstObject_append,
    firstObject_append, anchor]
  rfl

theorem finality_transcript (tail : Conversation) :
    firstObject (asksTag rail.finality.blockTag) (window.transcript token rail payment ++ tail) =
      some window.finality := by
  have anchor : firstObject (asksTag rail.finality.blockTag) (anchorSaid rail window.reviewed) =
      none :=
    firstObject_anchorSaid fun number => asksTag_pyHex _ number
  have found : firstObject (asksTag rail.finality.blockTag)
      [blockSaid rail.finality.blockTag.text.toList window.finality] = some window.finality := by
    simp [firstObject, blockSaid, exchange, asksTag]
  rw [Window.transcript, Window.opening, List.append_assoc, firstObject_append, firstObject_append,
    firstObject_append, anchor, found]
  rfl

/-- The three numbers are those of the window. -/
theorem printable_transcript_iff (accepted : window.Accepted token rail payment)
    (tail : Conversation) :
    Printable token rail payment (window.transcript token rail payment ++ tail) ↔
      rail.chainId.natAbs < 10 ^ maxStrDigits ∧ window.finalityNumber < 10 ^ maxStrDigits ∧
        ∀ index ∈ window.attribution.authLogIndex, index < 10 ^ maxStrDigits := by
  have attribution := accepted.attribution
  constructor
  · intro printable
    refine ⟨printable.chain, printable.finality _ _ (finality_transcript tail)
      accepted.finality.number, ?_⟩
    intro index placed
    rcases raced : window.race with _ | ⟨inbound, outbound⟩
    · rw [raced] at attribution
      rw [attribution.2.2] at placed
      cases placed
    · rw [raced] at attribution
      rcases attribution with ⟨success, credit, authIndex, ok, attributed⟩
      rw [attributed] at placed
      cases placed
      rcases ok.logs with ⟨logs, logged, _, log, single, _, isIndex⟩
      have mem : log ∈ logs.filter (isTokenLog token.address (authorizationTopics payment)) := by
        simp [single]
      rcases List.mem_filter.mp mem with ⟨listed, isAuthorization⟩
      exact printable.authorization _ logs (firstReceipt_transcript tail)
        (success ▸ accepted.point.status) logged log listed isAuthorization _ isIndex
  · rintro ⟨chainShort, finalityShort, authShort⟩
    constructor
    · exact chainShort
    · intro block n found isNumber
      cases (finality_transcript tail).symm.trans found
      rw [isNumber.unique accepted.finality.number]
      exact finalityShort
    · intro receipt logs found isSuccess logged log listed isAuthorization n isIndex
      cases (firstReceipt_transcript tail).symm.trans found
      have success : window.point.status = 1 := accepted.point.status.unique isSuccess
      rcases raced : window.race with _ | ⟨inbound, outbound⟩
      · rw [raced] at attribution
        exact absurd success attribution.1
      · rw [raced] at attribution
        rcases attribution with ⟨_, credit, authIndex, ok, attributed⟩
        rcases ok.logs with ⟨logs', logged', _, other, single, _, isOther⟩
        obtain rfl : logs = logs' := by
          rw [logged, Value.list.injEq] at logged'
          exact List.map_injective_iff.mpr (fun _ _ same => by simpa using same) logged'
        have mem := List.mem_filter.mpr ⟨listed, isAuthorization⟩
        rw [single, List.mem_singleton] at mem
        rw [isIndex.unique (mem ▸ isOther)]
        exact authShort authIndex (by simp [attributed, successAttribution])

/-! ### Reports of whole runs -/

/-- A run that returns a report has observed an accepted window. -/
theorem window_of_runReconcile {report : ReconReport}
    (replays : Replays (runReconcile token rail payment believes generatedAt : Proc σ _) state said
      (.ok report) finalState) :
    ∃ (window : Window) (divergence : Divergence) (moment : DateTime) (tail : Conversation),
      window.Accepted token rail payment ∧
      said = window.transcript token rail payment ++ tail ∧
      detectPaymentDivergence window.attribution.truth believes (some payment.requiredAmount) =
        .ok divergence ∧
      ReconReport.build rail payment believes divergence (window.evidence token rail payment)
        moment = .ok report := by
  unfold runReconcile at replays
  rcases replays_bind_ok_iff.mp replays with ⟨result, _, _, _, rfl, reconciled, rest⟩
  rcases replays_reconcileLive_ok_iff.mp reconciled with
    ⟨_, window, accepted, rfl, evidence, detected⟩
  rcases replays_bind_ok_iff.mp rest with ⟨moment, _, _, _, rfl, _, built⟩
  rcases replays_lift_iff.mp built with ⟨_, isReport, _⟩
  exact ⟨window, result.divergence, moment, _, accepted, rfl, detected, evidence ▸ isReport.symm⟩

/-- A report of an accepted window is valid. -/
theorem validate_of_accepted {report : ReconReport}
    (accepted : window.Accepted token rail payment)
    (evidence : report.evidence = window.evidence token rail payment)
    (chain : report.chainId = rail.chainId)
    (coded : reasonCodes.lookup report.kind = some report.reasonCode) :
    report.validate = .ok () := by
  have envelope : (report.toDict.map Prod.fst).toFinset = ReconReport.requiredMembers.toFinset :=
    rfl
  have version : ReconReport.isVersion (report.toDict.lookup "reportVersion") = true := rfl
  have required : ¬report.evidence.requiredAmount ≤ 0 := by
    have := accepted.arguments.requiredAmount
    rw [evidence]
    change ¬payment.requiredAmount ≤ 0
    omega
  have received : ¬report.evidence.receivedAmount < 0 := by
    rw [evidence]
    change ¬window.attribution.receivedAmount < 0
    have attribution := accepted.attribution
    rcases raced : window.race with _ | ⟨inbound, outbound⟩
    · rw [raced] at attribution
      rw [attribution.2.2]
      simp [revertedAttribution]
    · rw [raced] at attribution
      rcases attribution with ⟨_, credit, authIndex, ok, attributed⟩
      have positive := ok.received.1
      rw [attributed]
      simp only [successAttribution]
      omega
  have sameChain : report.evidence.chainId = report.chainId := by
    rw [evidence, chain]
    exact accepted.chain_eq
  simp [ReconReport.validate, Checks.bind_eq_ok_iff, refuse_eq_ok_iff, envelope, version, coded,
    required, received, sameChain]

/-- The belief never influences the evidence, and a report that is returned grades the evidence,
is valid and has both renderings exactly when its three unbounded numbers are short. -/
theorem report_iff :
    SameButBelief
        ((runReconcile token rail payment true generatedAt).run world state history).result
        ((runReconcile token rail payment false generatedAt).run world state history).result ∧
      ∀ report, Returns world (runReconcile token rail payment believes generatedAt) state history
          report finalState (history ++ said) →
        ((Graded report believes ∧ Rendered report) ↔ Printable token rail payment said) := by
  refine ⟨belief_independent, ?_⟩
  intro report returned
  rcases returns_iff.mp returned with ⟨_, extended, _, replays⟩
  cases List.append_cancel_left extended
  rcases window_of_runReconcile replays with
    ⟨window, divergence, moment, tail, accepted, rfl, detected, built⟩
  rcases (build_eq_ok_iff accepted).mp built with ⟨_, text, code, _, coded, isReport⟩
  have evidence : report.evidence = window.evidence token rail payment := by rw [isReport]
  have chain : report.chainId = rail.chainId := by rw [isReport]
  have kind : report.kind = divergence.kind.value := by rw [isReport]
  have reason : reasonCodes.lookup report.kind = some report.reasonCode := by
    rw [isReport]
    exact coded
  have valid := validate_of_accepted accepted evidence chain reason
  rcases accepted.graded detected with ⟨graded, severity⟩
  have verdict : Graded report believes := by
    refine graded_of_grade accepted.point.status_cases ?_ kind (by rw [isReport]) ?_ severity
    · rw [evidence]
      rfl
    · rw [evidence]
      exact graded
  rw [printable_transcript_iff accepted, ← numbers_short_iff accepted evidence chain]
  constructor
  · rintro ⟨_, rendered⟩
    exact (ReconReport.toJson_isOk_iff valid).mp rendered.json
  · intro short
    exact ⟨verdict, valid, (ReconReport.toJson_isOk_iff valid).mpr short,
      (ReconReport.toMarkdown_isOk_iff valid).mpr short⟩

/-- A run for a given moment ends in a report. -/
theorem returns_runReconcile {moment : DateTime} {text : Str} {result : LiveReconciliation}
    (reconciled : Returns world (reconcileLive token rail payment believes) state history result
      finalState finalHistory)
    (aware : moment.aware = true) (written : moment.utcText = .ok text) :
    ∃ report, report.chainId = rail.chainId ∧ Returns world
      (runReconcile token rail payment believes (some moment)) state history report finalState
      finalHistory := by
  rcases returns_iff.mp reconciled with ⟨said, rfl, follows, replays⟩
  rcases replays_reconcileLive_ok_iff.mp replays with
    ⟨_, window, accepted, _, evidence, detected⟩
  rcases lookup_reasonCodes (decide (window.point.status = 1)) believes
    (decide (window.attribution.receivedAmount < payment.requiredAmount)) with ⟨code, coded⟩
  rw [← (accepted.graded detected).1] at coded
  have built : ∃ report, report.chainId = rail.chainId ∧ ReconReport.build rail payment believes
      result.divergence (window.evidence token rail payment) moment = .ok report :=
    ⟨_, rfl, (build_eq_ok_iff accepted).mpr ⟨aware, text, code, written, coded, rfl⟩⟩
  rcases built with ⟨report, chain, built⟩
  refine ⟨report, chain, ?_⟩
  unfold Returns at reconciled ⊢
  unfold runReconcile
  rw [run_bind, reconciled]
  change (lift _ : Proc σ ReconReport).run world finalState _ = _
  rw [run_lift, evidence, built]

end Report

/-! ### Sample reports -/

section Samples

open Node Node.Sample

/-- The sample rail, on a chain whose id has 4301 decimal digits. -/
def longRail : RailConfig := { mockAnvil with
  chainId := 10 ^ 4300
  accepted := by decide +kernel }

theorem suited_longRail : Suited longRail :=
  suited_of_free rfl rfl rfl (by decide) rfl rfl

/-- A moment with a time zone. -/
def sampleMoment : DateTime := ⟨true, .ok "2026-01-01T00:00:00+00:00".toList⟩

/-- On that chain a report is returned that cannot be rendered. -/
theorem longChain_unrendered : letI := interpreter
    ∃ said report, Returns (served (paidOn (10 ^ 4300)))
        (runReconcile token longRail (paymentTo payee) true (some sampleMoment)) () [] report ()
        said ∧
      ¬Rendered report := by
  let := interpreter
  rcases returns_paidWindow suited_longRail rfl () [] true with ⟨_, reconciled⟩
  have written : sampleMoment.utcText = .ok "2026-01-01T00:00:00+00:00".toList := rfl
  rcases returns_runReconcile reconciled rfl written with ⟨report, chain, returned⟩
  refine ⟨_, report, returned, ?_⟩
  intro rendered
  have short := (ReconReport.toJson_isOk_iff rendered.valid).mp rendered.json report.chainId
    (by simp [ReconReport.numbers])
  rw [chain] at short
  exact lt_irrefl _ short

/-- The report on the sample payment is graded and rendered. -/
theorem paid_rendered : letI := interpreter
    ∃ said report, Returns (served (paidOn 84532))
        (runReconcile token mockAnvil (paymentTo payee) true (some sampleMoment)) () [] report ()
        said ∧
      Graded report true ∧ Rendered report := by
  let := interpreter
  rcases returns_paidWindow suited_mockAnvil rfl () [] true with ⟨_, reconciled⟩
  have written : sampleMoment.utcText = .ok "2026-01-01T00:00:00+00:00".toList := rfl
  rcases returns_runReconcile reconciled rfl written with ⟨report, _, returned⟩
  refine ⟨_, report, returned, ?_⟩
  rw [← List.append_nil ((paidWindow mockAnvil 84532).transcript token mockAnvil (paymentTo payee))]
    at returned
  apply ((report_iff).2 report returned).mpr
  rw [printable_transcript_iff (accepted_paidWindow suited_mockAnvil rfl)]
  have fits : 10 ^ 5 ≤ 10 ^ maxStrDigits :=
    Nat.pow_le_pow_right (by norm_num) (by norm_num [maxStrDigits])
  generalize 10 ^ maxStrDigits = bound at fits ⊢
  have chain : mockAnvil.chainId = 84532 := rfl
  have finality : (paidWindow mockAnvil 84532).finalityNumber = 1 := rfl
  have placed : (paidWindow mockAnvil 84532).attribution.authLogIndex = some 0 := rfl
  rw [chain, finality, placed]
  simp only [Option.mem_some_iff, forall_eq']
  omega

end Samples

end Verdict

end Psv
