import Psv.Chain

/-!
# The divergence detector

`divergence.py`: chain truth against the belief of the system under test.  The
texts of the verdicts are part of the model.  Rendering a number in decimal can
itself fail, so the detector is a computation in `Except`; on token amounts it
never does.
-/

namespace Psv

open Python Interaction

/-- The ways chain truth and belief can line up. -/
inductive DivergenceKind where
  | consistentPaid
  | consistentUnpaid
  | silentLoss
  | phantomCredit
  | underpaidCredit
  | overAuthorizedSettlement
  deriving DecidableEq

/-- The wire spelling of a kind. -/
def DivergenceKind.value : DivergenceKind → String
  | .consistentPaid => "consistent_paid"
  | .consistentUnpaid => "consistent_unpaid"
  | .silentLoss => "silent_loss"
  | .phantomCredit => "phantom_credit"
  | .underpaidCredit => "underpaid_credit"
  | .overAuthorizedSettlement => "over_authorized_settlement"

inductive Severity where
  | ok
  | critical
  deriving DecidableEq

def Severity.value : Severity → String
  | .ok => "ok"
  | .critical => "critical"

/-- The graded verdict for one payment. -/
structure Divergence where
  kind : DivergenceKind
  severity : Severity
  message : String
  deriving DecidableEq

/-- Whether a verdict represents a critical mismatch. -/
def Divergence.isFailure (divergence : Divergence) : Bool :=
  decide (divergence.severity = .critical)

/-- `str(n)`, with the error of an integer that is too long. -/
def showInt (n : ℤ) : Except PyError String :=
  (orRaise (intStr n) (.valueError
    "Exceeds the limit (4300 digits) for integer string conversion")).map String.ofList

/-- `f"{n:+d}"` -/
def showSigned (n : ℤ) : Except PyError String :=
  (showInt n).map fun text => if n < 0 then text else "+" ++ text

/-- `str(flag)` -/
def showBool (flag : Bool) : String := if flag then "True" else "False"

/-- Compare on-chain ground truth against the belief about one payment. -/
def detectPaymentDivergence (chain : SettlementTruth) (sutBelievesPaid : Bool)
    (requiredAmount : Option ℤ) : Except PyError Divergence :=
  let moved := chain.fundsMoved
  if moved && sutBelievesPaid then
    match requiredAmount with
    | some required =>
        if chain.payeeDelta < required then do
          let received ← showInt chain.payeeDelta
          let invoiced ← showInt required
          let short ← showInt (required - chain.payeeDelta)
          return ⟨.underpaidCredit, .critical,
            "UNDERPAID CREDIT: the SUT credited the order as paid, but the merchant " ++
            s!"received {received} on-chain against a required " ++
            s!"{invoiced} — short by {short}. The order is handed out for " ++
            "less than its price: a partial payment, or a fee-on-transfer / rebasing " ++
            "token skimming the difference, waved through as full settlement."⟩
        else do
          let received ← showInt chain.payeeDelta
          let invoiced ← showInt required
          return ⟨.consistentPaid, .ok,
            "Funds moved on-chain and the SUT correctly registered the payment." ++
            s!" Received {received} >= required {invoiced}."⟩
    | none =>
        return ⟨.consistentPaid, .ok,
          "Funds moved on-chain and the SUT correctly registered the payment."⟩
  else if !moved && !sutBelievesPaid then
    return ⟨.consistentUnpaid, .ok,
      "No funds moved and the SUT correctly treats the order as unpaid."⟩
  else if moved && !sutBelievesPaid then do
    let payer ← showSigned chain.payerDelta
    let payee ← showSigned chain.payeeDelta
    return ⟨.silentLoss, .critical,
      "SILENT LOSS: the payer was debited and the merchant credited on-chain " ++
      s!"(payer {payer}, payee {payee}, nonce " ++
      s!"consumed={showBool chain.nonceConsumed}), but the SUT believes the order is " ++
      "unpaid. The customer paid and gets nothing — the classic SC1 symptom of " ++
      "a settlement event the system stopped recognizing."⟩
  else do
    let payee ← showSigned chain.payeeDelta
    return ⟨.phantomCredit, .critical,
      "PHANTOM CREDIT: the SUT believes the order is paid, but no funds moved " ++
      s!"on-chain (nonce consumed={showBool chain.nonceConsumed}, payee delta " ++
      s!"{payee}). The resource is handed out for free."⟩

/-! ### The grade as a table -/

/-- The kind of a verdict, from what moved, the belief and whether the amount is short. -/
def grade (moved believes short : Bool) : DivergenceKind :=
  match moved, believes, short with
  | true, true, true => .underpaidCredit
  | true, true, false => .consistentPaid
  | true, false, _ => .silentLoss
  | false, true, _ => .phantomCredit
  | false, false, _ => .consistentUnpaid

/-- The severity every verdict of a kind has. -/
def DivergenceKind.severity : DivergenceKind → Severity
  | .consistentPaid | .consistentUnpaid => .ok
  | _ => .critical

theorem showInt_isOk {n : ℤ} (short : n.natAbs < 10 ^ maxStrDigits) :
    ∃ text, showInt n = .ok text := by
  simp [showInt, intStr, short, orRaise, Except.map]

theorem showSigned_isOk {n : ℤ} (short : n.natAbs < 10 ^ maxStrDigits) :
    ∃ text, showSigned n = .ok text := by
  obtain ⟨text, shown⟩ := showInt_isOk short
  simp [showSigned, shown, Except.map]

/-- Whenever the detector answers, kind and severity are those of the table. -/
theorem detectPaymentDivergence_grade {chain : SettlementTruth} {believes : Bool} {required : ℤ}
    {divergence : Divergence}
    (detected : detectPaymentDivergence chain believes (some required) = .ok divergence) :
    divergence.kind =
        grade chain.fundsMoved believes (decide (chain.payeeDelta < required)) ∧
      divergence.severity = divergence.kind.severity := by
  rcases moved : chain.fundsMoved with _ | _ <;> rcases believes with _ | _ <;>
    simp only [detectPaymentDivergence, moved] at detected
  · cases detected
    exact ⟨rfl, rfl⟩
  · simp only [Bool.and_true, Bool.false_eq_true, if_false, Bool.not_false, Bool.not_true,
      Bool.and_false, Checks.bind_eq_ok_iff, pure, Except.pure,
      Except.ok.injEq] at detected
    obtain ⟨_, _, rfl⟩ := detected
    exact ⟨rfl, rfl⟩
  · simp only [Bool.and_true, Bool.false_eq_true, if_false, Bool.not_false, Bool.not_true,
      Bool.and_false, if_true, Checks.bind_eq_ok_iff, pure, Except.pure,
      Except.ok.injEq] at detected
    obtain ⟨_, _, _, _, rfl⟩ := detected
    exact ⟨rfl, rfl⟩
  · by_cases short : chain.payeeDelta < required
    · simp only [Bool.and_true, if_true, short, Checks.bind_eq_ok_iff, pure, Except.pure,
        Except.ok.injEq] at detected
      obtain ⟨_, _, _, _, _, _, rfl⟩ := detected
      exact ⟨by simp [grade, short], rfl⟩
    · simp only [Bool.and_true, if_true, if_false, short, Checks.bind_eq_ok_iff, pure,
        Except.pure, Except.ok.injEq] at detected
      obtain ⟨_, _, _, _, rfl⟩ := detected
      exact ⟨by simp [grade, short], rfl⟩

/-- On token amounts every number prints, so the detector always answers. -/
theorem detectPaymentDivergence_isOk {chain : SettlementTruth} {required : ℤ}
    (payer : chain.payerDelta.natAbs < 2 ^ 256) (payee : chain.payeeDelta.natAbs < 2 ^ 256)
    (amount : required.natAbs < 2 ^ 256) (believes : Bool) :
    ∃ divergence, detectPaymentDivergence chain believes (some required) = .ok divergence := by
  have fits : 2 * 2 ^ 256 < 10 ^ maxStrDigits := by
    calc 2 * 2 ^ 256 < 10 ^ 78 := by norm_num
      _ ≤ 10 ^ maxStrDigits := Nat.pow_le_pow_right (by norm_num) (by norm_num [maxStrDigits])
  obtain ⟨payerText, payerOk⟩ := showSigned_isOk (show chain.payerDelta.natAbs < _ by omega)
  obtain ⟨payeeText, payeeOk⟩ := showSigned_isOk (show chain.payeeDelta.natAbs < _ by omega)
  obtain ⟨receivedText, receivedOk⟩ := showInt_isOk (show chain.payeeDelta.natAbs < _ by omega)
  obtain ⟨requiredText, requiredOk⟩ := showInt_isOk (show required.natAbs < _ by omega)
  obtain ⟨shortText, shortOk⟩ :=
    showInt_isOk (show (required - chain.payeeDelta).natAbs < _ by omega)
  rcases moved : chain.fundsMoved with _ | _ <;> rcases believes with _ | _ <;>
    simp only [detectPaymentDivergence, moved]
  · exact ⟨_, rfl⟩
  · rw [payeeOk]
    exact ⟨_, rfl⟩
  · rw [payerOk, payeeOk]
    exact ⟨_, rfl⟩
  · by_cases short : chain.payeeDelta < required
    · simp only [Bool.and_true, if_true, short]
      rw [receivedOk, requiredOk, shortOk]
      exact ⟨_, rfl⟩
    · simp only [Bool.and_true, if_true, if_false, short]
      rw [receivedOk, requiredOk]
      exact ⟨_, rfl⟩

/-! ### Metered payments -/

/-- Assemble the ground truth from balances before and after. -/
def settlementTruthFromBalances (nonceConsumed : Bool)
    (payerBefore payerAfter payeeBefore payeeAfter : ℤ) : SettlementTruth where
  nonceConsumed := nonceConsumed
  payerBalanceAfter := payerAfter
  payeeBalanceAfter := payeeAfter
  payerDelta := payerAfter - payerBefore
  payeeDelta := payeeAfter - payeeBefore

/-- Compare on-chain truth against the belief for an `upto` (metered) payment. -/
def detectMeteredDivergence (chain : SettlementTruth) (sutBelievesPaid : Bool)
    (authorizedMax : ℤ) : Except PyError Divergence := do
  refuse (authorizedMax < 0)
    (.valueError "authorized_max must be a non-negative integer (token base units)")
  let moved := chain.fundsMoved
  if moved && sutBelievesPaid then
    if authorizedMax < chain.payeeDelta then
      let received ← showInt chain.payeeDelta
      let maximum ← showInt authorizedMax
      let overage ← showInt (chain.payeeDelta - authorizedMax)
      return ⟨.overAuthorizedSettlement, .critical,
        "OVER-AUTHORIZED SETTLEMENT: the SUT credited an upto (metered) order, but " ++
        s!"the merchant received {received} on-chain against an authorized " ++
        s!"maximum of {maximum} — over by {overage}. The facilitator settled " ++
        "beyond the client's cap; an upto authorization MUST settle at most the " ++
        "authorized maximum."⟩
    else
      let received ← showInt chain.payeeDelta
      let maximum ← showInt authorizedMax
      return ⟨.consistentPaid, .ok,
        s!"Funds moved on-chain ({received}) within the authorized maximum " ++
        s!"{maximum}, and the SUT correctly registered the metered payment."⟩
  else if !moved && !sutBelievesPaid then
    return ⟨.consistentUnpaid, .ok,
      "No funds moved and the SUT correctly treats the metered order as unpaid."⟩
  else if moved && !sutBelievesPaid then
    let payer ← showSigned chain.payerDelta
    let payee ← showSigned chain.payeeDelta
    return ⟨.silentLoss, .critical,
      "SILENT LOSS: the payer was debited and the merchant credited on-chain " ++
      s!"(payer {payer}, payee {payee}, nonce " ++
      s!"consumed={showBool chain.nonceConsumed}), but the SUT believes the metered order is " ++
      "unpaid. The customer paid and gets nothing."⟩
  else
    let payee ← showSigned chain.payeeDelta
    return ⟨.phantomCredit, .critical,
      "PHANTOM CREDIT: the SUT believes the metered order is paid, but no funds moved " ++
      s!"on-chain (nonce consumed={showBool chain.nonceConsumed}, payee delta " ++
      s!"{payee}). Either nothing settled, or a consumed upto " ++
      "authorization was replayed and credited again. The resource is handed out free."⟩

/-- The kind of a metered verdict, from what moved, the belief and whether the cap was passed. -/
def meteredGrade (moved believes overage : Bool) : DivergenceKind :=
  match moved, believes, overage with
  | true, true, true => .overAuthorizedSettlement
  | true, true, false => .consistentPaid
  | true, false, _ => .silentLoss
  | false, true, _ => .phantomCredit
  | false, false, _ => .consistentUnpaid

/-- Whenever the detector answers, kind and severity are those of the table. -/
theorem detectMeteredDivergence_grade {chain : SettlementTruth} {believes : Bool} {cap : ℤ}
    {divergence : Divergence}
    (detected : detectMeteredDivergence chain believes cap = .ok divergence) :
    divergence.kind = meteredGrade chain.fundsMoved believes (decide (cap < chain.payeeDelta)) ∧
      divergence.severity = divergence.kind.severity := by
  rw [detectMeteredDivergence, Checks.bind_eq_ok_iff] at detected
  rcases detected with ⟨_, _, detected⟩
  rcases moved : chain.fundsMoved with _ | _ <;> rcases believes with _ | _ <;>
    simp only [moved] at detected
  · cases detected
    exact ⟨rfl, rfl⟩
  · simp only [Bool.and_true, Bool.false_eq_true, if_false, Bool.not_false, Bool.not_true,
      Bool.and_false, Checks.bind_eq_ok_iff, pure, Except.pure, Except.ok.injEq] at detected
    rcases detected with ⟨_, _, rfl⟩
    exact ⟨rfl, rfl⟩
  · simp only [Bool.and_true, Bool.false_eq_true, if_false, Bool.not_false, Bool.not_true,
      Bool.and_false, if_true, Checks.bind_eq_ok_iff, pure, Except.pure,
      Except.ok.injEq] at detected
    rcases detected with ⟨_, _, _, _, rfl⟩
    exact ⟨rfl, rfl⟩
  · by_cases overage : cap < chain.payeeDelta
    · simp only [Bool.and_true, if_true, overage, Checks.bind_eq_ok_iff, pure, Except.pure,
        Except.ok.injEq] at detected
      rcases detected with ⟨_, _, _, _, _, _, rfl⟩
      exact ⟨by simp [meteredGrade, overage], rfl⟩
    · simp only [Bool.and_true, if_true, if_false, overage, Checks.bind_eq_ok_iff, pure,
        Except.pure, Except.ok.injEq] at detected
      rcases detected with ⟨_, _, _, _, rfl⟩
      exact ⟨by simp [meteredGrade, overage], rfl⟩

theorem showInt_eq_ok_iff {n : ℤ} :
    (∃ text, showInt n = .ok text) ↔ n.natAbs < 10 ^ maxStrDigits := by
  constructor
  · intro shown
    by_contra long
    rcases shown with ⟨text, shown⟩
    rw [showInt, intStr, if_neg long] at shown
    cases shown
  · exact showInt_isOk

/-- Over the cap of a credited payment the detector says so, if the numbers can be printed. -/
theorem detectMeteredDivergence_over_iff {chain : SettlementTruth} {cap : ℤ} (natural : 0 ≤ cap)
    (moved : chain.fundsMoved = true) :
    (∃ divergence, detectMeteredDivergence chain true cap = .ok divergence ∧
        divergence.kind = .overAuthorizedSettlement) ↔
      cap < chain.payeeDelta ∧ chain.payeeDelta < 10 ^ maxStrDigits := by
  have bound : ((10 ^ maxStrDigits : ℕ) : ℤ) = 10 ^ maxStrDigits := Nat.cast_pow 10 maxStrDigits
  constructor
  · rintro ⟨divergence, detected, isKind⟩
    have isGrade := (detectMeteredDivergence_grade detected).1
    rw [isKind, moved] at isGrade
    have overage : cap < chain.payeeDelta := by
      by_contra within
      rw [decide_eq_false within] at isGrade
      cases isGrade
    refine ⟨overage, ?_⟩
    rw [detectMeteredDivergence, refuse_of_fails (not_lt.mpr natural)] at detected
    simp only [moved, overage, Bool.and_true, if_true, Checks.bind_eq_ok_iff] at detected
    rcases detected with ⟨_, _, text, shown, _⟩
    have short := showInt_eq_ok_iff.mp ⟨text, shown⟩
    omega
  · rintro ⟨overage, short⟩
    rcases showInt_isOk (show chain.payeeDelta.natAbs < _ by omega) with ⟨received, isReceived⟩
    rcases showInt_isOk (show cap.natAbs < _ by omega) with ⟨maximum, isMaximum⟩
    rcases showInt_isOk (show (chain.payeeDelta - cap).natAbs < _ by omega) with ⟨excess, isExcess⟩
    rw [detectMeteredDivergence, refuse_of_fails (not_lt.mpr natural)]
    simp only [moved, overage, Bool.and_true, if_true, isReceived, isMaximum, isExcess]
    exact ⟨_, rfl, rfl⟩

/-- The verdict protects the payer: a healthy one means that at most the cap left the payer, and
more than the cap leaving the payer is reported. -/
def MeteredProtects (nonceConsumed : Bool)
    (payerBefore payerAfter payeeBefore payeeAfter cap : ℤ) : Prop :=
  let truth := settlementTruthFromBalances nonceConsumed payerBefore payerAfter payeeBefore payeeAfter
  (∀ divergence, detectMeteredDivergence truth true cap = .ok divergence →
      divergence.kind = .consistentPaid → payerBefore - payerAfter ≤ cap) ∧
    (truth.fundsMoved = true → cap < payerBefore - payerAfter →
      ∃ divergence, detectMeteredDivergence truth true cap = .ok divergence ∧
        divergence.kind = .overAuthorizedSettlement)

/-- The detector compares the cap with what the payee received, so the payer is protected when
funds did not move, when the debit is within the cap, or when the payee received more than it. -/
theorem meteredProtects_iff (nonceConsumed : Bool)
    (payerBefore payerAfter payeeBefore payeeAfter cap : ℤ) (natural : 0 ≤ cap) :
    MeteredProtects nonceConsumed payerBefore payerAfter payeeBefore payeeAfter cap ↔
      ((settlementTruthFromBalances nonceConsumed payerBefore payerAfter payeeBefore
          payeeAfter).fundsMoved = true → cap < payerBefore - payerAfter →
        cap < payeeAfter - payeeBefore ∧ payeeAfter - payeeBefore < 10 ^ maxStrDigits) := by
  constructor
  · rintro ⟨_, reported⟩ moved debited
    exact (detectMeteredDivergence_over_iff natural moved).mp (reported moved debited)
  · intro seen
    refine ⟨?_, fun moved debited =>
      (detectMeteredDivergence_over_iff natural moved).mpr (seen moved debited)⟩
    intro divergence detected isKind
    have isGrade := (detectMeteredDivergence_grade detected).1
    rw [isKind] at isGrade
    by_contra debited
    rcases moved : (settlementTruthFromBalances nonceConsumed payerBefore payerAfter payeeBefore
      payeeAfter).fundsMoved with _ | _
    · rw [moved] at isGrade
      cases isGrade
    · have overage : cap < payeeAfter - payeeBefore := (seen moved (not_le.mp debited)).1
      rw [moved, decide_eq_true (show cap < SettlementTruth.payeeDelta _ from overage)] at isGrade
      cases isGrade

/-- A payment of 900 within a cap of 1000. -/
theorem meteredProtects_within : MeteredProtects true 1000 100 0 900 1000 :=
  (meteredProtects_iff true 1000 100 0 900 1000 (by decide)).mpr fun _ overage =>
    absurd overage (by decide)

/-- The token takes a fee of 100 from the payer besides the 1000 that reach the payee. -/
theorem meteredProtects_fee : ¬MeteredProtects true 1100 0 0 1000 1000 := by
  rintro ⟨_, reported⟩
  have moved : (settlementTruthFromBalances true 1100 0 0 1000).fundsMoved = true := by decide
  have seen := (detectMeteredDivergence_over_iff (by decide) moved).mp (reported moved (by decide))
  exact absurd seen.1 (by decide)

end Psv
