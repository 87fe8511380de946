import Psv.Anvil
import Psv.Divergence

/-!
# Finality by confirmations

`reorg.py`: a settlement is final when it is deep enough and its block is still the
canonical one at its height.
-/

namespace Psv

open Python Interaction

namespace Reorg

def uint256Max : ℤ := 2 ^ 256 - 1

/-- `_block`: validate an exact block number within the uint256 domain. -/
def block (value : ℤ) (what : String) : Except PyError ℤ :=
  if 0 ≤ value ∧ value ≤ uint256Max then .ok value
  else .error (.valueError s!"{what} must be a uint256")

/-- Blocks confirming a transaction, inclusive of its own block; 0 if not yet mined. -/
def confirmations (currentBlock txBlock : ℤ) : Except PyError ℤ := do
  let current ← block currentBlock "current_block"
  let transaction ← block txBlock "tx_block"
  return if transaction = 0 ∨ current < transaction then 0 else current - transaction + 1

/-- Whether a settlement is deep enough to be treated as final. -/
def isFinal (currentBlock txBlock requiredConfirmations : ℤ) : Except PyError Bool := do
  refuse (requiredConfirmations ≤ 0)
    (.valueError "required_confirmations must be a positive integer")
  let depth ← confirmations currentBlock txBlock
  return decide (requiredConfirmations ≤ depth)

/-- A reorg-aware finality verdict for one settlement. -/
structure SettlementFinality where
  final : Bool
  confirmations : ℤ
  reorged : Bool
  reason : String
  deriving DecidableEq

variable [Interpreter]

/-- `_hash`: validate and normalize an exact 32-byte block hash. -/
def hash (value : Str) (what : String) : Except PyError Str := do
  refuse (isExactHex 64 value = false) (.valueError s!"{what} must be an exact 32-byte hash")
  return lower value

/-- The verdict on a settlement whose block was not replaced. -/
def assessDepth (depth : ℤ) (available : Bool) (requiredConfirmations : ℤ) :
    Except PyError SettlementFinality :=
  if depth = 0 then .ok ⟨false, 0, false, "settlement not yet mined"⟩
  else if available = false then
    .ok ⟨false, depth, false,
      "canonical block hash unavailable at settlement height; cannot confirm canonicality"⟩
  else if depth < requiredConfirmations then do
    let shown ← showInt depth
    let required ← showInt requiredConfirmations
    return ⟨false, depth, false, s!"insufficient confirmations ({shown} < {required})"⟩
  else .ok ⟨true, depth, false, "final: deep and canonical"⟩

/-- Judge whether a matched settlement is final under reorg-aware finality. -/
def assessFinality (settlementBlockNumber : ℤ) (settlementBlockHash : Str) (currentBlock : ℤ)
    (canonicalBlockHash : Option Str) (requiredConfirmations : ℤ) :
    Except PyError SettlementFinality := do
  refuse (requiredConfirmations ≤ 0)
    (.valueError "required_confirmations must be a positive integer")
  let settlementHash ← hash settlementBlockHash "settlement_block_hash"
  let depth ← confirmations currentBlock settlementBlockNumber
  match canonicalBlockHash with
  | none => assessDepth depth false requiredConfirmations
  | some text => do
      let canonical ← hash text "canonical_block_hash"
      if canonical ≠ settlementHash then
        return ⟨false, depth, true,
          "settlement block was reorged out (canonical hash differs); re-confirm inclusion"⟩
      else assessDepth depth true requiredConfirmations

/-! ### What is final -/

omit [Interpreter] in
theorem block_eq_ok_iff {value result : ℤ} {what : String} :
    block value what = .ok result ↔ (0 ≤ value ∧ value ≤ uint256Max) ∧ result = value := by
  rw [block]
  split_ifs with within
  · rw [Except.ok.injEq, eq_comm]
    exact ⟨fun same => ⟨within, same⟩, fun accepted => accepted.2⟩
  · constructor
    · intro impossible
      cases impossible
    · exact fun accepted => absurd accepted.1 within

omit [Interpreter] in
theorem confirmations_eq_ok_iff {current transaction depth : ℤ} :
    confirmations current transaction = .ok depth ↔ (0 ≤ current ∧ current ≤ uint256Max) ∧
      (0 ≤ transaction ∧ transaction ≤ uint256Max) ∧
      depth = if transaction = 0 ∨ current < transaction then 0
        else current - transaction + 1 := by
  simp only [confirmations, Checks.bind_eq_ok_iff, block_eq_ok_iff, pure, Except.pure,
    Except.ok.injEq]
  constructor
  · rintro ⟨_, ⟨currentOk, rfl⟩, _, ⟨transactionOk, rfl⟩, rfl⟩
    exact ⟨currentOk, transactionOk, rfl⟩
  · rintro ⟨currentOk, transactionOk, rfl⟩
    exact ⟨_, ⟨currentOk, rfl⟩, _, ⟨transactionOk, rfl⟩, rfl⟩

theorem hash_eq_ok_iff {value result : Str} {what : String} :
    hash value what = .ok result ↔ isExactHex 64 value = true ∧ result = lower value := by
  simp only [hash, Checks.bind_eq_ok_iff, refuse_eq_ok_iff, Bool.not_eq_false, exists_const, pure,
    Except.pure, Except.ok.injEq]
  rw [eq_comm (a := result)]

omit [Interpreter] in
theorem assessDepth_final_iff {depth required : ℤ} {available : Bool}
    {verdict : SettlementFinality} (assessed : assessDepth depth available required = .ok verdict) :
    verdict.final = true ↔ depth ≠ 0 ∧ available = true ∧ required ≤ depth := by
  rw [assessDepth] at assessed
  split_ifs at assessed with unmined unavailable shallow
  · cases assessed
    simp [unmined]
  · cases assessed
    simp [unavailable]
  · simp only [Checks.bind_eq_ok_iff, pure, Except.pure, Except.ok.injEq] at assessed
    rcases assessed with ⟨_, _, _, _, rfl⟩
    simp [shallow]
  · cases assessed
    exact ⟨fun _ => ⟨unmined, by simpa using unavailable, not_lt.mp shallow⟩, fun _ => rfl⟩

/-- The settlement was judged to be final. -/
def Final (number : ℤ) (ofBlock : Str) (current : ℤ) (canonical : Option Str) (required : ℤ) :
    Prop :=
  ∃ verdict, assessFinality number ofBlock current canonical required = .ok verdict ∧
    verdict.final = true

/-- A settlement is final exactly when its block is the canonical one and deep enough. -/
theorem final_iff {number current required : ℤ} {ofBlock : Str} {canonical : Option Str} :
    Final number ofBlock current canonical required ↔
      0 < required ∧ isExactHex 64 ofBlock = true ∧ 0 < number ∧ current ≤ uint256Max ∧
        number + required ≤ current + 1 ∧
        ∃ text, canonical = some text ∧ isExactHex 64 text = true ∧ lower text = lower ofBlock := by
  simp only [Final, assessFinality, Checks.bind_eq_ok_iff, refuse_eq_ok_iff, exists_const, not_le,
    hash_eq_ok_iff, confirmations_eq_ok_iff]
  constructor
  · rintro ⟨verdict, ⟨positive, _, ⟨exact_, rfl⟩, depth, ⟨currentOk, numberOk, isDepth⟩, judged⟩,
      final⟩
    cases canonical with
    | none => exact absurd ((assessDepth_final_iff judged).mp final).2.1 Bool.false_ne_true
    | some text =>
      simp only [Checks.bind_eq_ok_iff, hash_eq_ok_iff] at judged
      rcases judged with ⟨_, ⟨exactText, rfl⟩, judged⟩
      split_ifs at judged with replaced
      · cases judged
        cases final
      · rcases (assessDepth_final_iff judged).mp final with ⟨mined, _, deep⟩
        split_ifs at isDepth with absent
        · exact absurd isDepth mined
        · refine ⟨positive, exact_, by omega, currentOk.2, by omega, text, rfl, exactText, ?_⟩
          exact not_not.mp replaced
  · rintro ⟨positive, exact_, mined, currentOk, deep, text, rfl, exactText, same⟩
    have depth : ¬(number = 0 ∨ current < number) := by omega
    refine ⟨⟨true, current - number + 1, false, "final: deep and canonical"⟩, ⟨positive, _,
      ⟨exact_, rfl⟩, current - number + 1, ⟨⟨by omega, currentOk⟩, ⟨by omega, by omega⟩, ?_⟩, ?_⟩,
      rfl⟩
    · rw [if_neg depth]
    · refine Checks.bind_eq_ok_iff.mpr ⟨lower text, hash_eq_ok_iff.mpr ⟨exactText, rfl⟩, ?_⟩
      rw [if_neg (not_not.mpr same), assessDepth, if_neg (by omega), if_neg Bool.noConfusion,
        if_neg (by omega)]

/-- What is final is deep enough for `is_final`, which does not look at hashes. -/
theorem isFinal_of_final {number current required : ℤ} {ofBlock : Str} {canonical : Option Str}
    (final : Final number ofBlock current canonical required) :
    isFinal current number required = .ok true := by
  rcases final_iff.mp final with ⟨positive, _, mined, currentOk, deep, _⟩
  have depth : confirmations current number = .ok (current - number + 1) :=
    confirmations_eq_ok_iff.mpr ⟨⟨by omega, currentOk⟩, ⟨by omega, by omega⟩,
      (if_neg (by omega)).symm⟩
  have enough : required ≤ current - number + 1 := by omega
  refine Checks.bind_eq_ok_iff.mpr ⟨(), refuse_eq_ok_iff.mpr (not_le.mpr positive), ?_⟩
  rw [depth]
  exact congrArg Except.ok (decide_eq_true enough)

/-- A settlement whose block was replaced is reported so, however deep it is. -/
theorem reorged_of_replaced {number current required : ℤ} {ofBlock text : Str}
    {verdict : SettlementFinality} (replaced : lower text ≠ lower ofBlock)
    (assessed : assessFinality number ofBlock current (some text) required = .ok verdict) :
    verdict.reorged = true ∧ verdict.final = false := by
  simp only [assessFinality, Checks.bind_eq_ok_iff, refuse_eq_ok_iff, exists_const,
    hash_eq_ok_iff] at assessed
  rcases assessed with ⟨_, _, ⟨_, rfl⟩, _, _, _, ⟨_, rfl⟩, judged⟩
  rw [if_pos replaced] at judged
  cases judged
  exact ⟨rfl, rfl⟩

end Reorg

end Psv
