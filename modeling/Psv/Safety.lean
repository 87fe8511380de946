import Psv.Anvil
import Psv.Divergence

/-!
# The settlement safety policy

`safety.py`: what is checked in front of every transaction that the reference
service signs.  The address and quantity checks go through `int(text, 16)` and
are lenient; the encoder of the calldata behind them is not.
-/

namespace Psv

open Python Interaction Program RpcClient

namespace Safety

/-- Local developer chains and the two supported public testnets. -/
def allowedSettlementChainIds : List ℤ := [1337, 31337, 84532, 11155111]

section Checks

variable [Interpreter]

/-- Validate, normalize, and reject the zero EVM address. -/
def requireAddress (value : Str) (field : String) : Except PyError Str := do
  let hexValue := removePrefix0x value
  refuse (hexValue.length ≠ 40)
    (.settlementSafetyError s!"{field} must be an exact 20-byte EVM address")
  let numeric ← orRaise (int16 hexValue)
    (.settlementSafetyError s!"{field} must be a hexadecimal EVM address")
  refuse (numeric = 0) (.settlementSafetyError s!"{field} must not be the zero address")
  return '0' :: 'x' :: lower hexValue

/-- Strictly decode a positive chain identifier from JSON-RPC. -/
def parseChainId (raw : Value) : Except PyError ℤ :=
  match raw with
  | .str text => do
      refuse (text.take 2 ≠ ['0', 'x'])
        (.settlementSafetyError "eth_chainId returned a malformed result")
      let chainId ← orRaise (int16 text)
        (.settlementSafetyError "eth_chainId returned a malformed result")
      refuse (chainId ≤ 0) (.settlementSafetyError "eth_chainId returned an invalid chain id")
      return chainId
  | _ => .error (.settlementSafetyError "eth_chainId returned a malformed result")

/-- Require well-formed, non-zero deployed contract bytecode. -/
def requireDeployedCode (code : Str) : Except PyError Unit := do
  refuse (code.take 2 ≠ ['0', 'x'])
    (.settlementSafetyError "eth_getCode returned a malformed result")
  refuse (code.drop 2 = [])
    (.settlementSafetyError "configured token address has no deployed contract code")
  let numeric ← orRaise (int16 (code.drop 2))
    (.settlementSafetyError "eth_getCode returned a malformed result")
  refuse (numeric = 0)
    (.settlementSafetyError "configured token address has no deployed contract code")
  refuse ((code.drop 2).length % 2 ≠ 0)
    (.settlementSafetyError "eth_getCode returned a malformed result")

/-- `text and text.isascii() and text.isdecimal()` -/
def isDecimal (text : Str) : Bool := !text.isEmpty && text.all Char.isDigit

/-- The integer that an authorization amount stands for. -/
def amountOf (raw : Value) : Except PyError ℤ :=
  match raw with
  | .int n => .ok n
  | .str text => do
      refuse (isDecimal text = false)
        (.settlementSafetyError "authorization amount must be an integer")
      orRaise (int10 text)
        (.valueError "Exceeds the limit (4300 digits) for integer string conversion")
  | _ => .error (.settlementSafetyError "authorization amount must be an integer")

/-- Require an integer authorization amount equal to the quoted amount. -/
def requireExactAmount (raw : Value) (expected : ℤ) : Except PyError Unit := do
  let amount ← amountOf raw
  refuse (expected ≤ 0 ∨ 2 ^ 256 ≤ expected)
    (.settlementSafetyError "configured order amount is outside uint256 payment bounds")
  refuse (amount ≠ expected)
    (.settlementSafetyError "authorization amount does not match the quoted order amount")

/-- Refuse every chain that is not on the list. -/
def requireAllowedChain (configuredChainId : ℤ) : Except PyError Unit :=
  if configuredChainId ∈ allowedSettlementChainIds then .ok ()
  else do
    let shown ← showInt configuredChainId
    .error (.settlementSafetyError s!"chain eip155:{shown} is not in the local/testnet allowlist")

/-- Refuse a node of another chain. -/
def requireSameChain (configuredChainId actualChainId : ℤ) : Except PyError Unit :=
  if actualChainId = configuredChainId then .ok ()
  else do
    let configured ← showInt configuredChainId
    let actual ← showInt actualChainId
    .error (.settlementSafetyError (s!"RPC chain mismatch: configured eip155:{configured}, " ++
      s!"RPC returned eip155:{actual}"))

/-- The checks between the two questions; the normalized token address. -/
def requireParties (configuredChainId : ℤ) (rawChainId : Value)
    (tokenAddress payerAddress payeeAddress authorizationTo : Str) (authorizationAmount : Value)
    (expectedAmount : ℤ) : Except PyError Str := do
  let actualChainId ← parseChainId rawChainId
  requireSameChain configuredChainId actualChainId
  let token ← requireAddress tokenAddress "token address"
  let _ ← requireAddress payerAddress "payer address"
  let payee ← requireAddress payeeAddress "payee address"
  let authorizedPayee ← requireAddress authorizationTo "authorization payee"
  refuse (authorizedPayee ≠ payee)
    (.settlementSafetyError "authorization payee does not match the configured merchant")
  requireExactAmount authorizationAmount expectedAmount
  return token

/-- Fail closed unless chain, token, parties, and amount are safe to submit. -/
def requireSafeSubmission {σ : Type} (configuredChainId : ℤ)
    (tokenAddress payerAddress payeeAddress authorizationTo : Str) (authorizationAmount : Value)
    (expectedAmount : ℤ) : Proc σ Unit := do
  lift (requireAllowedChain configuredChainId)
  let rawChainId ← call "eth_chainId" []
  let token ← lift (requireParties configuredChainId rawChainId tokenAddress payerAddress
    payeeAddress authorizationTo authorizationAmount expectedAmount)
  let code ← getCode token (.tag "latest")
  lift (requireDeployedCode code)

end Checks

end Safety

end Psv
