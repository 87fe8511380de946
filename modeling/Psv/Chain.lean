import Psv.Anvil

/-!
# Chain-truth reads

The exact ABI helpers of `chain.py`, the block-pinned reads of a token, the
calldata of a settlement, and the ground truth about one payment.
-/

namespace Psv

open Python Interaction Program RpcClient

namespace Chain

def selBalanceOf : Str := "70a08231".toList
def selAuthorizationState : Str := "e94a0102".toList
def selTransferWithAuthorization : Str := "cf092995".toList

def topicTransfer : Str :=
  hexWord 0xddf252ad1be2c89b69c2b068fc378daa952ba7f163c4a11628f55a4df523b3ef

def topicTransferV2 : Str :=
  hexWord 0x58f9acac7a1c69c84dff9a713e28686566926c704ffaaa5562e8225bdf50911b

def topicAuthorizationUsed : Str :=
  hexWord 0x98de503528ee59b575ef0c0a2576a82497bfc029a5685b209e9ec333479b10a5

def uint256Max : ℕ := 2 ^ 256 - 1

section

variable [Interpreter]

/-- Decode one exact ABI word returned by `eth_call`. -/
def wordToInt (result : Str) (what : String) : Except PyError ℕ :=
  if isExactHex 64 result then .ok (hexVal (result.drop 2))
  else .error (.rpcError s!"{what}: malformed 32-byte ABI result {Interpreter.repr (.str result)}")

/-- Left-pad one exact 20-byte EVM address to an ABI word. -/
def slotAddr (addr : Value) : Except PyError Str :=
  match addr with
  | .str text =>
      if isExactHex 40 text then .ok (rjustZero 64 (lower (text.drop 2)))
      else .error (.valueError s!"not a 20-byte address: {Interpreter.repr addr}")
  | _ => .error (.valueError s!"not a 20-byte address: {Interpreter.repr addr}")

omit [Interpreter] in
/-- Encode one exact uint256 ABI word. -/
def slotUint (value : ℤ) : Except PyError Str :=
  if 0 ≤ value ∧ value ≤ uint256Max then .ok (hexPad 64 value.toNat)
  else .error (.valueError s!"uint256 out of range: {value}")

/-- Encode one exact 32-byte value as an ABI word. -/
def slotBytes32 (value : Value) : Except PyError Str :=
  match value with
  | .str text =>
      if isExactHex 64 text then .ok (lower (text.drop 2))
      else .error (.valueError s!"not a bytes32 value: {Interpreter.repr value}")
  | _ => .error (.valueError s!"not a bytes32 value: {Interpreter.repr value}")

theorem slotAddr_eq_ok_iff {addr : Value} {slot : Str} :
    slotAddr addr = .ok slot ↔
      ∃ text, addr = .str text ∧ isExactHex 40 text = true ∧
        slot = rjustZero 64 (lower (text.drop 2)) := by
  constructor
  · intro accepted
    unfold slotAddr at accepted
    split at accepted
    · split at accepted
      · rename_i text shape
        exact ⟨text, rfl, shape, by simpa using accepted.symm⟩
      · cases accepted
    · cases accepted
  · rintro ⟨text, rfl, shape, rfl⟩
    simp [slotAddr, shape]

theorem slotBytes32_eq_ok_iff {value : Value} {slot : Str} :
    slotBytes32 value = .ok slot ↔
      ∃ text, value = .str text ∧ isExactHex 64 text = true ∧ slot = lower (text.drop 2) := by
  constructor
  · intro accepted
    unfold slotBytes32 at accepted
    split at accepted
    · split at accepted
      · rename_i text shape
        exact ⟨text, rfl, shape, by simpa using accepted.symm⟩
      · cases accepted
    · cases accepted
  · rintro ⟨text, rfl, shape, rfl⟩
    simp [slotBytes32, shape]

theorem wordToInt_eq_ok_iff {result : Str} {what : String} {n : ℕ} :
    wordToInt result what = .ok n ↔ isExactHex 64 result = true ∧ n = hexVal (result.drop 2) := by
  by_cases shape : isExactHex 64 result = true
  · simp [wordToInt, shape, eq_comm]
  · simp [wordToInt, shape]

end

end Chain

open Chain

/-- A strictly validated handle to a deployed EVM token. -/
structure TokenView where
  address : Str
  exact : isExactHex 40 address = true

namespace TokenView

variable [Interpreter] {σ : Type}

/-- The calldata of `balanceOf(who)`. -/
def balanceData (who : Value) : Except PyError Str := do
  let slot ← slotAddr who
  return '0' :: 'x' :: (selBalanceOf ++ slot)

/-- Read an account balance from the token at a pinned block. -/
def balanceOf (token : TokenView) (who : Value) (block : BlockId) : Proc σ ℕ := do
  let payload ← lift (balanceData who)
  let result ← ethCall token.address payload block
  lift (wordToInt result "balanceOf")

/-- The calldata of `authorizationState(authorizer, nonce)`. -/
def authorizationData (authorizer nonce : Value) : Except PyError Str := do
  let authorizerSlot ← slotAddr authorizer
  let nonceSlot ← slotBytes32 nonce
  return '0' :: 'x' :: (selAuthorizationState ++ authorizerSlot ++ nonceSlot)

/-- The ABI boolean in the result of `authorizationState`. -/
def checkAuthorizationState (result : Str) : Except PyError Bool := do
  let word ← wordToInt result "authorizationState"
  refuse (word ≠ 0 ∧ word ≠ 1)
    (.rpcError s!"authorizationState: expected ABI boolean, got {word}")
  return decide (word = 1)

/-- Read and strictly decode EIP-3009 authorization consumption state. -/
def authorizationUsed (token : TokenView) (authorizer nonce : Value) (block : BlockId) :
    Proc σ Bool := do
  let payload ← lift (authorizationData authorizer nonce)
  let result ← ethCall token.address payload block
  lift (checkAuthorizationState result)

/-- The calldata of `balanceOf` for an account given by its number. -/
def balancePayload (account : ℕ) : Str := '0' :: 'x' :: (selBalanceOf ++ hexPad 64 account)

/-- The calldata of `authorizationState` for an account and nonce given as numbers. -/
def authorizationPayload (account nonce : ℕ) : Str :=
  '0' :: 'x' :: (selAuthorizationState ++ hexPad 64 account ++ hexPad 64 nonce)

/-- The keyword arguments of `settle_calldata`. -/
structure SettleArguments where
  fromAddr : Value
  toAddr : Value
  value : Value
  validAfter : Value
  validBefore : Value
  nonce : Value
  signature : Value

/-- The number of an `int` between a lower bound and the largest `uint256`. -/
def checkUint (low : ℤ) (message : String) : Value → Except PyError ℤ
  | .int number =>
      if low ≤ number ∧ number ≤ uint256Max then .ok number else .error (.valueError message)
  | _ => .error (.valueError message)

/-- The digits of prefixed text. -/
def digitsOf : Value → Str
  | .str text => text.drop 2
  | _ => []

/-- `isinstance(signature, str) and _SIGNATURE_RE.fullmatch(signature) is not None` -/
def isSignature : Value → Bool
  | .str text => isExactHex 130 text
  | _ => false

/-- Encode EIP-3009 calldata only after validating every wire value. -/
def settleCalldata (arguments : SettleArguments) : Except PyError Str := do
  let fromSlot ← slotAddr arguments.fromAddr
  let toSlot ← slotAddr arguments.toAddr
  refuse (hexVal (digitsOf arguments.fromAddr) = 0 ∨ hexVal (digitsOf arguments.toAddr) = 0)
    (.valueError "from_addr and to must be non-zero addresses")
  let value ← checkUint 1 "value must be a positive uint256" arguments.value
  let validAfter ← checkUint 0 "valid_after must be a uint256" arguments.validAfter
  let validBefore ← checkUint 1 "valid_before must be a positive uint256" arguments.validBefore
  refuse (validBefore ≤ validAfter) (.valueError "valid_after must be less than valid_before")
  let nonceSlot ← slotBytes32 arguments.nonce
  refuse (isSignature arguments.signature = false)
    (.valueError "signature must be exactly 65 bytes of 0x-prefixed hex")
  let sigHex := lower (digitsOf arguments.signature)
  let valueSlot ← slotUint value
  let afterSlot ← slotUint validAfter
  let beforeSlot ← slotUint validBefore
  let offsetSlot ← slotUint (7 * 32)
  let head := selTransferWithAuthorization ++ fromSlot ++ toSlot ++ valueSlot ++ afterSlot ++
    beforeSlot ++ nonceSlot ++ offsetSlot
  let lengthSlot ← slotUint 65
  let tail := lengthSlot ++ ljustZero (3 * 64) sigHex
  return '0' :: 'x' :: (head ++ tail)

/-! ### What the reads ask and return -/

theorem rjustZero_address {text : Str} (shape : isExactHex 40 text = true) :
    rjustZero 64 (lower (text.drop 2)) = hexPad 64 (hexVal (text.drop 2)) := by
  rw [lower_drop_eq_hexPad shape, rjustZero, length_hexPad]
  exact replicate_zero_append_hexPad 24 40 _ (hexVal_exact_lt shape)

theorem balanceData_eq_ok_iff {who payload : Str} :
    balanceData (.str who) = .ok payload ↔
      isExactHex 40 who = true ∧ payload = balancePayload (hexVal (who.drop 2)) := by
  simp only [balanceData, Checks.bind_eq_ok_iff, slotAddr_eq_ok_iff, pure, Except.pure,
    Except.ok.injEq, Value.str.injEq]
  constructor
  · rintro ⟨_, ⟨_, rfl, shape, rfl⟩, rfl⟩
    exact ⟨shape, by rw [rjustZero_address shape]; rfl⟩
  · rintro ⟨shape, rfl⟩
    exact ⟨_, ⟨who, rfl, shape, rfl⟩, by rw [rjustZero_address shape]; rfl⟩

theorem authorizationData_eq_ok_iff {who nonce payload : Str} :
    authorizationData (.str who) (.str nonce) = .ok payload ↔
      isExactHex 40 who = true ∧ isExactHex 64 nonce = true ∧
        payload = authorizationPayload (hexVal (who.drop 2)) (hexVal (nonce.drop 2)) := by
  simp only [authorizationData, Checks.bind_eq_ok_iff, slotAddr_eq_ok_iff,
    slotBytes32_eq_ok_iff, pure, Except.pure, Except.ok.injEq, Value.str.injEq]
  constructor
  · rintro ⟨_, ⟨_, rfl, shape, rfl⟩, _, ⟨_, rfl, nonceShape, rfl⟩, rfl⟩
    refine ⟨shape, nonceShape, ?_⟩
    rw [rjustZero_address shape, lower_drop_eq_hexPad nonceShape]
    rfl
  · rintro ⟨shape, nonceShape, rfl⟩
    refine ⟨_, ⟨who, rfl, shape, rfl⟩, _, ⟨nonce, rfl, nonceShape, rfl⟩, ?_⟩
    rw [rjustZero_address shape, lower_drop_eq_hexPad nonceShape]
    rfl

theorem checkAuthorizationState_eq_ok_iff {result : Str} {used : Bool} :
    checkAuthorizationState result = .ok used ↔
      isExactHex 64 result = true ∧ hexVal (result.drop 2) = if used then 1 else 0 := by
  simp only [checkAuthorizationState, Checks.bind_eq_ok_iff, wordToInt_eq_ok_iff,
    refuse_eq_ok_iff, exists_const, pure, Except.pure, Except.ok.injEq]
  constructor
  · rintro ⟨word, ⟨shape, rfl⟩, binary, rfl⟩
    refine ⟨shape, ?_⟩
    by_cases one : hexVal (result.drop 2) = 1
    · simp [one]
    · simp only [one, decide_false, Bool.false_eq_true, if_false]
      omega
  · rintro ⟨shape, value⟩
    refine ⟨_, ⟨shape, rfl⟩, ?_⟩
    rcases used with _ | _ <;> simp_all

omit [Interpreter] in
theorem isData_balancePayload (account : ℕ) : isData (balancePayload account) = true := by
  refine isData_iff.mpr ⟨_, rfl, ?_, ?_⟩
  · rw [List.length_append, length_hexPad]
    decide
  · rw [List.all_append, all_hexPad, Bool.and_true]
    decide

omit [Interpreter] in
theorem isData_authorizationPayload (account nonce : ℕ) :
    isData (authorizationPayload account nonce) = true := by
  refine isData_iff.mpr ⟨_, rfl, ?_, ?_⟩
  · rw [List.length_append, List.length_append, length_hexPad, length_hexPad]
    decide
  · rw [List.all_append, List.all_append, all_hexPad, all_hexPad, Bool.and_true, Bool.and_true]
    decide

section Reads

variable (token : TokenView) (who nonce : Str) (number : ℕ)

theorem reads_balanceOf :
    Reads (token.balanceOf (.str who) (.number number) : Proc σ ℕ) fun balance said =>
      ∃ text, isExactHex 40 who = true ∧
        said = [exchange "eth_call"
          (callAt token.address (balancePayload (hexVal (who.drop 2))) number)
          (.ok (.str text))] ∧
        isExactHex 64 text = true ∧ balance = hexVal (text.drop 2) := by
  intro state said balance finalState
  unfold balanceOf
  simp only [replays_lift_bind_ok_iff, balanceData_eq_ok_iff]
  simp only [(reads_ethCall _ _ number).bind_ok_iff, replays_lift_iff]
  constructor
  · rintro ⟨_, ⟨shape, rfl⟩, text, _, _, ⟨_, _, rfl, _⟩, rfl, rfl, decoded, rfl⟩
    obtain ⟨word, rfl⟩ := wordToInt_eq_ok_iff.mp decoded.symm
    exact ⟨⟨text, shape, rfl, word, rfl⟩, rfl⟩
  · rintro ⟨⟨text, shape, rfl, word, rfl⟩, rfl⟩
    exact ⟨_, ⟨shape, rfl⟩, text, _, [],
      ⟨token.exact, isData_balancePayload _, rfl, isData_of_isExactHex word rfl⟩, rfl, rfl,
      (wordToInt_eq_ok_iff.mpr ⟨word, rfl⟩).symm, rfl⟩

theorem reads_authorizationUsed :
    Reads (token.authorizationUsed (.str who) (.str nonce) (.number number) : Proc σ Bool)
      fun used said => ∃ text, isExactHex 40 who = true ∧ isExactHex 64 nonce = true ∧
        said = [exchange "eth_call"
          (callAt token.address
            (authorizationPayload (hexVal (who.drop 2)) (hexVal (nonce.drop 2))) number)
          (.ok (.str text))] ∧
        isExactHex 64 text = true ∧ hexVal (text.drop 2) = (if used then 1 else 0) := by
  intro state said used finalState
  unfold authorizationUsed
  simp only [replays_lift_bind_ok_iff, authorizationData_eq_ok_iff]
  simp only [(reads_ethCall _ _ number).bind_ok_iff, replays_lift_iff]
  constructor
  · rintro ⟨_, ⟨shape, nonceShape, rfl⟩, text, _, _, ⟨_, _, rfl, _⟩, rfl, rfl, decoded, rfl⟩
    obtain ⟨word, value⟩ := checkAuthorizationState_eq_ok_iff.mp decoded.symm
    exact ⟨⟨text, shape, nonceShape, rfl, word, value⟩, rfl⟩
  · rintro ⟨⟨text, shape, nonceShape, rfl, word, value⟩, rfl⟩
    exact ⟨_, ⟨shape, nonceShape, rfl⟩, text, _, [],
      ⟨token.exact, isData_authorizationPayload _ _, rfl, isData_of_isExactHex word rfl⟩, rfl, rfl,
      (checkAuthorizationState_eq_ok_iff.mpr ⟨word, value⟩).symm, rfl⟩

end Reads

end TokenView

/-- The on-chain ground truth about one attempted payment. -/
structure SettlementTruth where
  nonceConsumed : Bool
  payerBalanceAfter : ℤ
  payeeBalanceAfter : ℤ
  payerDelta : ℤ
  payeeDelta : ℤ
  deriving DecidableEq

/-- The payment really happened on-chain (nonce burned and funds shifted). -/
def SettlementTruth.fundsMoved (truth : SettlementTruth) : Bool :=
  truth.nonceConsumed && decide (0 < truth.payeeDelta) && decide (truth.payerDelta < 0)

end Psv
