import Psv.Rails.Config
import Psv.Reconciliation
import Psv.Divergence
import Mathlib.Data.Finset.Dedup
import Mathlib.Data.Finset.Insert

/-!
# Pieces of chain evidence

The private helpers of `rails.py` that decode blocks, receipts, code and logs,
and for each of them the rule that says exactly what it accepts.  The two log
searches are characterised by a filter: exactly one log of the receipt passes.
-/

namespace Psv

open Python Interaction Program RpcClient Anvil Chain

namespace Rails

variable [Interpreter] {σ : Type}

/-- Decode a canonical JSON-RPC quantity used as chain evidence. -/
def quantity (value : Value) (what : String) : Except PyError ℕ :=
  match value with
  | .str text =>
      if isQuantity text then .ok (hexVal (text.drop 2))
      else .error (.chainEvidenceError s!"{what} is not a canonical hex quantity")
  | _ => .error (.chainEvidenceError s!"{what} is not a canonical hex quantity")

/-- Validate and normalize an exact 32-byte evidence hash. -/
def exactHash (value : Value) (what : String) : Except PyError Str :=
  match value with
  | .str text =>
      if isExactHex 64 text then .ok (lower text)
      else .error (.chainEvidenceError s!"{what} is not an exact 32-byte hash")
  | _ => .error (.chainEvidenceError s!"{what} is not an exact 32-byte hash")

/-- Extract an exact block number and hash pair from an RPC block. -/
def blockIdentity (block : Fields) (what : String) : Except PyError (ℕ × Str) := do
  let number ← quantity (getField block "number") s!"{what} number"
  let hash ← exactHash (getField block "hash") s!"{what} hash"
  return (number, hash)

/-- Hash non-empty EVM runtime bytecode with SHA-256. -/
def codeFingerprint (code : Str) : Except PyError Str := do
  refuse (code.take 2 ≠ ['0', 'x'] ∨ code = ['0', 'x'])
    (.chainEvidenceError "rail token has no deployed runtime bytecode")
  let raw ← orRaise (fromHex (code.drop 2))
    (.chainEvidenceError "rail token returned malformed runtime bytecode")
  refuse (raw = []) (.chainEvidenceError "rail token has no deployed runtime bytecode")
  return Interpreter.sha256 raw

/-- The address in a proxy's implementation slot, as far as it is the expected one. -/
def observedImplementation (word : Value) (expectedAddress : Str) : Except PyError Str :=
  match word with
  | .str text => do
      refuse (isExactHex 64 text = false)
        (.chainEvidenceError "proxy implementation slot returned a malformed word")
      refuse ((text.drop 2).take 24 ≠ List.replicate 24 '0')
        (.chainEvidenceError "proxy implementation slot is not an address word")
      let observed := '0' :: 'x' :: lower (text.drop (text.length - 40))
      refuse (observed ≠ lower expectedAddress) (.chainEvidenceError
        s!"proxy implementation drift: expected {String.ofList (lower expectedAddress)}, observed {
          String.ofList observed}")
      return observed
  | _ => .error (.chainEvidenceError "proxy implementation slot returned a malformed word")

/-- Verify a proxy implementation slot, address, and runtime-code hash. -/
def implementationIdentity (rail : RailConfig) (blockNumber : ℕ) :
    Proc σ (Option Str × Option Str) :=
  match rail.attestation.proxyKind with
  | .none => return (none, none)
  | _ =>
      match rail.attestation.proxyImplementationSlot, rail.attestation.implementationAddress,
        rail.attestation.implementationCodeSha256 with
      | some slot, some expectedAddress, some expectedHash => do
          let word ← call "eth_getStorageAt"
            [.str rail.tokenAddress, .str slot, .str (pyHex blockNumber)]
          let observed ← lift (observedImplementation word expectedAddress)
          let code ← getCode observed (.number blockNumber)
          let implementationHash ← lift (codeFingerprint code)
          lift (refuse (implementationHash ≠ expectedHash) (.chainEvidenceError
            "proxy implementation runtime code differs from attestation"))
          return (some observed, some implementationHash)
      | _, _, _ =>
          .raise (.chainEvidenceError "proxy implementation identity is not calibrated")

/-- The reviewed block an attestation is anchored to, if it has to be checked. -/
def reviewAnchor (rail : RailConfig) : Option ℤ :=
  if rail.attestation.calibrated then rail.attestation.reviewedBlockNumber else none

/-- Ensure the attestation's reviewed block remains canonical. -/
def verifyReviewAnchor (rail : RailConfig) : Proc σ Unit :=
  match reviewAnchor rail with
  | none => return ()
  | some reviewedNumber => do
      let reviewed ← getBlock (.number reviewedNumber)
      let identity ← lift (blockIdentity reviewed "reviewed attestation block")
      lift (refuse ((identity.1 : ℤ) ≠ reviewedNumber ∨
          some identity.2 ≠ rail.attestation.reviewedBlockHash)
        (.chainEvidenceError "reviewed rail-attestation block is not canonical"))

/-- The logs of a receipt. -/
def receiptLogs (receipt : Fields) : Except PyError (List Value) :=
  match getField receipt "logs" with
  | .list logs => .ok logs
  | _ => .error (.chainEvidenceError "receipt logs are missing")

/-- `str(fields.get(name, ""))` -/
def textOf (fields : Fields) (name : String) : Except PyError Str :=
  if hasField fields name then
    orRaise (pyStr (getField fields name))
      (.valueError "Exceeds the limit (4300 digits) for integer string conversion")
  else .ok []

omit [Interpreter] in
/-- `value is False` -/
def isFalse : Value → Bool
  | .bool false => true
  | _ => false

/-- The log indices of the authorization logs of a token. -/
def authorizationMatches (token : Str) (expectedTopics : List Str) :
    List Value → Except PyError (List ℕ)
  | [] => .ok []
  | .dict raw :: rest => do
      let address ← textOf raw "address"
      if lower address ≠ lower token then
        authorizationMatches token expectedTopics rest
      else if (getField raw "topics").isTexts expectedTopics then do
        refuse (isFalse (getField raw "removed") = false)
          (.chainEvidenceError "authorization evidence was removed by a reorg")
        let index ← quantity (getField raw "logIndex") "authorization log index"
        let indices ← authorizationMatches token expectedTopics rest
        return index :: indices
      else authorizationMatches token expectedTopics rest
  | _ :: _ => .error (.chainEvidenceError "receipt contains a malformed log")

/-- Locate the unique non-removed authorization log for payer and nonce. -/
def authorizationLogIndex (receipt : Fields) (token payer nonce : Str) : Except PyError ℕ := do
  let payerTopic ← Reconciliation.topicAddr (.str payer)
  let logs ← receiptLogs receipt
  let indices ← authorizationMatches token [topicAuthorizationUsed, payerTopic, lower nonce] logs
  match indices with
  | [index] => return index
  | _ => .error (.chainEvidenceError
      s!"expected one exact AuthorizationUsed log, found {indices.length}")

/-- The receipt logs with a given log index. -/
def logsWithIndex (logIndex : ℤ) : List Value → Except PyError (List Fields)
  | [] => .ok []
  | .dict raw :: rest => do
      let index ← quantity (getField raw "logIndex") "receipt log index"
      let selected ← logsWithIndex logIndex rest
      return if (index : ℤ) = logIndex then raw :: selected else selected
  | _ :: _ => .error (.chainEvidenceError "receipt contains a malformed log")

omit [Interpreter] in
/-- Turn a decoder's refusal into missing evidence; other exceptions pass through. -/
def asChainEvidence (context : String) : PyError → PyError
  | .reconciliationError message => .chainEvidenceError s!"{context}: {message}"
  | other => other

/-- Decode the unique receipt log identified by the caller's log index. -/
def selectedTransfer (receipt : Fields) (chainId logIndex : ℤ) (token : Str) :
    Except PyError OnChainCredit := do
  let logs ← receiptLogs receipt
  let selected ← logsWithIndex logIndex logs
  match selected with
  | [raw] => do
      let credit ← (Reconciliation.decodeTransferLog raw chainId).mapError
        (asChainEvidence "selected receipt log is not an exact Transfer")
      refuse (credit.identity.asset ≠ lower token)
        (.chainEvidenceError "selected Transfer was emitted by a different token")
      return credit
  | _ => .error (.chainEvidenceError s!"receipt has no unique logIndex {logIndex}")

/-- The transaction and log index of every same-block transfer. -/
def raceIdentities (chainId : ℤ) : List Fields → Except PyError (List (Str × ℤ))
  | [] => .ok []
  | raw :: rest => do
      let observed ← (Reconciliation.decodeTransferLog raw chainId).mapError
        (asChainEvidence "malformed same-block Transfer evidence")
      refuse (observed.removed = true)
        (.chainEvidenceError "same-block Transfer evidence includes a removed log")
      let identities ← raceIdentities chainId rest
      return (observed.identity.txHash, observed.identity.logIndex) :: identities

/-- The same-block logs name the selected credit and nothing else. -/
def checkRace (credit : OnChainCredit) (observed : List Fields) : Except PyError Unit := do
  let identities ← raceIdentities credit.identity.chainId observed
  refuse (identities.toFinset ≠ {(credit.identity.txHash, credit.identity.logIndex)})
    (.chainEvidenceError "same-block payer/payee transfer race makes attribution inconclusive")

/-- Reject same-block transfers that make balance attribution ambiguous. -/
def ensureNoSameBlockRace (token : TokenView) (credit : OnChainCredit) (payer payee : Str) :
    Proc σ Unit := do
  let payeeTopic ← lift (Reconciliation.topicAddr (.str payee))
  let inbound ← getLogs token.address [some topicTransfer, none, some payeeTopic]
    (.number credit.blockNumber) (.number credit.blockNumber)
  let payerTopic ← lift (Reconciliation.topicAddr (.str payer))
  let outbound ← getLogs token.address [some topicTransfer, some payerTopic, none]
    (.number credit.blockNumber) (.number credit.blockNumber)
  lift (checkRace credit (inbound ++ outbound))

/-! ### Scalars -/

/-- A field holds this number as a canonical quantity. -/
def QuantityAt (fields : Fields) (name : String) (n : ℕ) : Prop :=
  ∃ text, getField fields name = .str text ∧ isQuantity text = true ∧ n = hexVal (text.drop 2)

/-- A field holds this 32-byte hash, up to letter case. -/
def HashAt (fields : Fields) (name : String) (hash : Str) : Prop :=
  ∃ text, getField fields name = .str text ∧ isExactHex 64 text = true ∧ hash = lower text

omit [Interpreter] in
theorem quantity_eq_ok_iff {fields : Fields} {name what : String} {n : ℕ} :
    quantity (getField fields name) what = .ok n ↔ QuantityAt fields name n := by
  unfold QuantityAt
  rcases getField fields name with _ | _ | _ | _ | text | _ | _ | _ <;> simp only [quantity] <;>
    try simp
  by_cases shape : isQuantity text = true
  · simp [shape, eq_comm]
  · simp [shape]

theorem exactHash_eq_ok_iff {fields : Fields} {name what : String} {hash : Str} :
    exactHash (getField fields name) what = .ok hash ↔ HashAt fields name hash := by
  unfold HashAt
  rcases getField fields name with _ | _ | _ | _ | text | _ | _ | _ <;> simp only [exactHash] <;>
    try simp
  by_cases shape : isExactHex 64 text = true
  · simp [shape, eq_comm]
  · simp [shape]

omit [Interpreter] in
theorem QuantityAt.unique {fields : Fields} {name : String} {m n : ℕ}
    (left : QuantityAt fields name m) (right : QuantityAt fields name n) : m = n := by
  obtain ⟨text, is, _, rfl⟩ := left
  obtain ⟨other, isOther, _, rfl⟩ := right
  rw [is] at isOther
  cases isOther
  rfl

theorem HashAt.unique {fields : Fields} {name : String} {left right : Str}
    (one : HashAt fields name left) (two : HashAt fields name right) : left = right := by
  obtain ⟨text, is, _, rfl⟩ := one
  obtain ⟨other, isOther, _, rfl⟩ := two
  rw [is] at isOther
  cases isOther
  rfl

theorem blockIdentity_eq_ok_iff {block : Fields} {what : String} {number : ℕ} {hash : Str} :
    blockIdentity block what = .ok (number, hash) ↔
      QuantityAt block "number" number ∧ HashAt block "hash" hash := by
  simp only [blockIdentity, Checks.bind_eq_ok_iff, quantity_eq_ok_iff, exactHash_eq_ok_iff, pure,
    Except.pure, Except.ok.injEq, Prod.mk.injEq]
  constructor
  · rintro ⟨_, numbered, _, hashed, rfl, rfl⟩
    exact ⟨numbered, hashed⟩
  · rintro ⟨numbered, hashed⟩
    exact ⟨_, numbered, _, hashed, rfl, rfl⟩

/-- On data the client has validated only missing code is refused. -/
theorem codeFingerprint_eq_ok_iff {code sha : Str} (shape : isData code = true) :
    codeFingerprint code = .ok sha ↔
      ∃ raw, fromHex (code.drop 2) = some raw ∧ raw ≠ [] ∧ sha = Interpreter.sha256 raw := by
  obtain ⟨rest, rfl, _, _⟩ := isData_iff.mp shape
  simp only [codeFingerprint, Checks.bind_eq_ok_iff, refuse_eq_ok_iff, orRaise_eq_ok_iff,
    exists_const, pure, Except.pure, Except.ok.injEq, List.take_succ_cons, List.take_zero,
    not_true_eq_false, false_or, List.drop_succ_cons, List.drop_zero, ne_eq]
  constructor
  · rintro ⟨_, raw, read, nonempty, rfl⟩
    exact ⟨raw, read, nonempty, rfl⟩
  · rintro ⟨raw, read, nonempty, rfl⟩
    refine ⟨?_, raw, read, nonempty, rfl⟩
    intro empty
    obtain rfl : rest = [] := by simpa using empty
    cases read
    exact nonempty rfl

/-! ### Logs of a validated receipt -/

/-- A log of the token with exactly these topic strings. -/
def isTokenLog (token : Str) (topics : List Str) (log : Fields) : Bool :=
  match getField log "address" with
  | .str address => decide (lower address = lower token) && (getField log "topics").isTexts topics
  | _ => false

omit [Interpreter] in
/-- A log whose index, read as a quantity, is this number. -/
def hasLogIndex (logIndex : ℤ) (log : Fields) : Bool :=
  match getField log "logIndex" with
  | .str text => isQuantity text && decide ((hexVal (text.drop 2) : ℤ) = logIndex)
  | _ => false

/-- A log that no reorg has removed, at this index. -/
def StandsAt (log : Fields) (index : ℕ) : Prop :=
  getField log "removed" = .bool false ∧ QuantityAt log "logIndex" index

omit [Interpreter] in
theorem isFalse_iff {value : Value} : isFalse value = true ↔ value = .bool false := by
  constructor
  · intro holds
    unfold isFalse at holds
    split at holds
    · rfl
    · cases holds
  · rintro rfl
    rfl

theorem textOf_address {log : Fields} (shape : LogShape log) :
    ∃ text, getField log "address" = .str text ∧ textOf log "address" = .ok text := by
  obtain ⟨text, is, _⟩ := shape.address
  have present := shape.complete "address" (by decide)
  exact ⟨text, is, by simp [textOf, present, is, pyStr, orRaise]⟩

theorem authorizationMatches_eq_ok_iff {token : Str} {topics : List Str} {logs : List Fields}
    {indices : List ℕ} (shapes : ∀ log ∈ logs, LogShape log) :
    authorizationMatches token topics (logs.map .dict) = .ok indices ↔
      List.Forall₂ StandsAt (logs.filter (isTokenLog token topics)) indices := by
  induction logs generalizing indices with
  | nil => simp [authorizationMatches, eq_comm]
  | cons log logs ih =>
      simp only [List.mem_cons, forall_eq_or_imp] at shapes
      obtain ⟨text, is, read⟩ := textOf_address shapes.1
      have rest := fun indices => @ih indices shapes.2
      simp only [List.map_cons, authorizationMatches, read, Checks.bind_eq_ok_iff,
        Except.ok.injEq, exists_eq_left']
      by_cases mine : lower text = lower token
      · by_cases listed : (getField log "topics").isTexts topics = true
        · have selected : isTokenLog token topics log = true := by
            simp [isTokenLog, is, mine, listed]
          rw [List.filter_cons_of_pos selected]
          simp only [mine, ne_eq, not_true_eq_false, if_false, listed, if_true,
            Checks.bind_eq_ok_iff, refuse_eq_ok_iff, exists_const, Bool.not_eq_false, isFalse_iff,
            quantity_eq_ok_iff, rest, pure, Except.pure, Except.ok.injEq]
          constructor
          · rintro ⟨kept, index, placed, others, related, rfl⟩
            exact .cons ⟨kept, placed⟩ related
          · intro related
            cases related with
            | cons first others => exact ⟨first.1, _, first.2, _, others, rfl⟩
        · have skipped : isTokenLog token topics log = false := by
            simp [isTokenLog, is, listed]
          rw [List.filter_cons_of_neg (by simp [skipped])]
          simpa [mine, listed] using rest indices
      · have skipped : isTokenLog token topics log = false := by
          simp [isTokenLog, is, mine]
        rw [List.filter_cons_of_neg (by simp [skipped])]
        simpa [mine] using rest indices

/-- The authorization log is the only one of its kind in the receipt. -/
theorem authorizationLogIndex_eq_ok_iff {receipt : Fields} {logs : List Fields}
    {token payer nonce : Str} {index : ℕ} (payerShape : isExactHex 40 payer = true)
    (logged : getField receipt "logs" = .list (logs.map .dict))
    (shapes : ∀ log ∈ logs, LogShape log) :
    authorizationLogIndex receipt token payer nonce = .ok index ↔
      ∃ log, logs.filter (isTokenLog token
          [topicAuthorizationUsed, hexWord (hexVal (payer.drop 2)), lower nonce]) = [log] ∧
        StandsAt log index := by
  simp only [authorizationLogIndex, Reconciliation.topicAddr_exact payerShape, receiptLogs, logged,
    Checks.bind_eq_ok_iff, Except.ok.injEq, exists_eq_left', authorizationMatches_eq_ok_iff shapes]
  constructor
  · rintro ⟨indices, related, single⟩
    split at single
    · cases single
      obtain ⟨log, rest, stands, noneLeft, filtered⟩ := List.forall₂_cons_right_iff.mp related
      obtain rfl := List.forall₂_nil_right_iff.mp noneLeft
      exact ⟨log, filtered, stands⟩
    · cases single
  · rintro ⟨log, filtered, stands⟩
    rw [filtered]
    exact ⟨[index], .cons stands .nil, rfl⟩

omit [Interpreter] in
theorem logsWithIndex_eq_ok_iff {logIndex : ℤ} {logs selected : List Fields}
    (shapes : ∀ log ∈ logs, LogShape log) :
    logsWithIndex logIndex (logs.map .dict) = .ok selected ↔
      selected = logs.filter (hasLogIndex logIndex) := by
  induction logs generalizing selected with
  | nil => simp [logsWithIndex, eq_comm]
  | cons log logs ih =>
      simp only [List.mem_cons, forall_eq_or_imp] at shapes
      have rest := fun selected => @ih selected shapes.2
      obtain ⟨text, is, shape⟩ := shapes.1.logIndex
      have placed : QuantityAt log "logIndex" (hexVal (text.drop 2)) := ⟨text, is, shape, rfl⟩
      have read : quantity (getField log "logIndex") "receipt log index" = .ok _ :=
        quantity_eq_ok_iff.mpr placed
      simp only [List.map_cons, logsWithIndex, read, Checks.bind_eq_ok_iff, Except.ok.injEq,
        exists_eq_left', rest, pure, Except.pure]
      by_cases equal : (hexVal (text.drop 2) : ℤ) = logIndex
      · have chosen : hasLogIndex logIndex log = true := by simp [hasLogIndex, is, shape, equal]
        simp [chosen, equal, eq_comm]
      · have skipped : hasLogIndex logIndex log = false := by simp [hasLogIndex, is, equal]
        simp [skipped, equal, eq_comm]

/-- The selected transfer is the only log of the receipt at its index. -/
theorem selectedTransfer_eq_ok_iff {receipt : Fields} {logs : List Fields} {chainId logIndex : ℤ}
    {token : Str} {credit : OnChainCredit}
    (logged : getField receipt "logs" = .list (logs.map .dict))
    (shapes : ∀ log ∈ logs, LogShape log) :
    selectedTransfer receipt chainId logIndex token = .ok credit ↔
      ∃ log, logs.filter (hasLogIndex logIndex) = [log] ∧
        Reconciliation.DecodesTo log chainId credit ∧ credit.identity.asset = lower token := by
  simp only [selectedTransfer, receiptLogs, logged, Checks.bind_eq_ok_iff, Except.ok.injEq,
    exists_eq_left', logsWithIndex_eq_ok_iff shapes, exists_eq_left]
  have listed : ∀ log, logs.filter (hasLogIndex logIndex) = [log] → LogShape log := by
    intro log single
    have mem : log ∈ logs.filter (hasLogIndex logIndex) := by simp [single]
    exact shapes log (List.mem_filter.mp mem).1
  split
  · rename_i raw single
    rw [single]
    simp only [Checks.bind_eq_ok_iff, mapError_eq_ok_iff,
      Reconciliation.decodeTransferLog_eq_ok_iff (listed raw single), refuse_eq_ok_iff,
      exists_const, ne_eq, not_not, pure, Except.pure, Except.ok.injEq, List.cons.injEq, and_true,
      exists_eq_left']
    constructor
    · rintro ⟨found, decodes, asset, rfl⟩
      exact ⟨decodes, asset⟩
    · rintro ⟨decodes, asset⟩
      exact ⟨credit, decodes, asset, rfl⟩
  · rename_i several
    simp only [reduceCtorEq, false_iff, not_exists, not_and]
    intro log single
    exact absurd single (several log)

/-- A standing transfer log with this transaction and index. -/
def TransferIdentity (chainId : ℤ) (log : Fields) (identity : Str × ℤ) : Prop :=
  ∃ credit, Reconciliation.DecodesTo log chainId credit ∧ credit.removed = false ∧
    identity = (credit.identity.txHash, credit.identity.logIndex)

theorem raceIdentities_eq_ok_iff {chainId : ℤ} {logs : List Fields}
    {identities : List (Str × ℤ)} (shapes : ∀ log ∈ logs, LogShape log) :
    raceIdentities chainId logs = .ok identities ↔
      List.Forall₂ (TransferIdentity chainId) logs identities := by
  induction logs generalizing identities with
  | nil => simp [raceIdentities, eq_comm]
  | cons log logs ih =>
      simp only [List.mem_cons, forall_eq_or_imp] at shapes
      have rest := fun identities => @ih identities shapes.2
      simp only [raceIdentities, Checks.bind_eq_ok_iff, mapError_eq_ok_iff,
        Reconciliation.decodeTransferLog_eq_ok_iff shapes.1, refuse_eq_ok_iff, exists_const,
        Bool.not_eq_true, rest, pure, Except.pure, Except.ok.injEq]
      constructor
      · rintro ⟨credit, decodes, kept, others, related, rfl⟩
        exact .cons ⟨credit, decodes, kept, rfl⟩ related
      · intro related
        cases related with
        | cons first others =>
            obtain ⟨credit, decodes, kept, rfl⟩ := first
            exact ⟨credit, decodes, kept, _, others, rfl⟩

omit [Interpreter] in
theorem forall₂_unique_right {α β : Type} {R : α → β → Prop} {items : List α} {value : β}
    (each : ∀ item ∈ items, R item value) : ∃ values, List.Forall₂ R items values ∧
      ∀ found ∈ values, found = value := by
  induction items with
  | nil => exact ⟨[], .nil, by simp⟩
  | cons item items ih =>
      simp only [List.mem_cons, forall_eq_or_imp] at each
      obtain ⟨values, related, same⟩ := ih each.2
      exact ⟨value :: values, .cons each.1 related, by simpa using same⟩

/-- The race check passes when the same-block logs exist and all are the credit itself. -/
theorem checkRace_eq_ok_iff {credit : OnChainCredit} {logs : List Fields} {result : Unit}
    (shapes : ∀ log ∈ logs, LogShape log) :
    checkRace credit logs = .ok result ↔
      logs ≠ [] ∧ ∀ log ∈ logs, TransferIdentity credit.identity.chainId log
        (credit.identity.txHash, credit.identity.logIndex) := by
  simp only [checkRace, Checks.bind_eq_ok_iff, raceIdentities_eq_ok_iff shapes, refuse_eq_ok_iff,
    ne_eq, not_not]
  constructor
  · rintro ⟨identities, related, single⟩
    have only : ∀ identity ∈ identities,
        identity = (credit.identity.txHash, credit.identity.logIndex) := by
      intro identity mem
      have inSet : identity ∈ identities.toFinset := List.mem_toFinset.mpr mem
      rw [single] at inSet
      simpa using inSet
    constructor
    · rintro rfl
      cases related
      simp at single
    · intro log mem
      obtain ⟨place, inside, rfl⟩ := List.getElem_of_mem mem
      have sameLength := related.length_eq
      have here := related.get inside (by omega)
      have same := only _ (List.get_mem identities ⟨place, by omega⟩)
      rw [same] at here
      exact here
  · rintro ⟨nonempty, each⟩
    obtain ⟨identities, related, same⟩ := forall₂_unique_right each
    refine ⟨identities, related, ?_⟩
    ext identity
    rw [List.mem_toFinset, Finset.mem_singleton]
    constructor
    · exact same identity
    · rintro rfl
      rcases identities with _ | ⟨first, others⟩
      · exact absurd (List.forall₂_nil_right_iff.mp related) nonempty
      · rw [same first (by simp)]
        simp

end Rails

end Psv
