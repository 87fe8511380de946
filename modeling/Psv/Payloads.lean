import Psv.Node.Chain
import Psv.Sut.Server

/-!
# Signed authorizations

`payloads.py` signs an EIP-3009 authorization, and `security_checks.py` recovers who has
signed one.  Both put the typed data together in the same way; what hashes, signs and
recovers is the library `eth_account`, a parameter here.
-/

namespace Psv

open Python Interaction Program Node

namespace Payloads

/-- The EIP-712 domain of a specific token deployment. -/
structure TypedDomain where
  name : Str
  version : Str
  chainId : ℤ
  verifyingContract : Str

/-- The message of an authorization, with the values that are encoded. -/
structure TypedMessage where
  fromAddr : Value
  toAddr : Value
  value : ℤ
  validAfter : ℤ
  validBefore : ℤ
  nonce : List UInt8

/-- What is used of `eth_account`; which exception it raises makes no difference here. -/
class EthAccount where
  LocalAccount : Type
  /-- `account.address` -/
  address : LocalAccount → Str
  /-- `_hash_eip191_message(encode_typed_data(domain, types, message))` -/
  typedHash : TypedDomain → TypedMessage → Except PyError Word
  /-- The signature of `account.sign_message` for a message of this hash. -/
  sign : LocalAccount → Word → List UInt8
  /-- `Account.recover_message` for a message of this hash. -/
  recoverMessage : Word → Value → Except PyError Str

variable [Interpreter]

/-- Normalize authorization wire values for EIP-712 encoding. -/
def message (authorization : Fields) : Except PyError TypedMessage := do
  let fromAddr ← ReferenceSut.item authorization "from"
  let toAddr ← ReferenceSut.item authorization "to"
  let value ← ReferenceSut.intItem authorization "value"
  let validAfter ← ReferenceSut.intItem authorization "validAfter"
  let validBefore ← ReferenceSut.intItem authorization "validBefore"
  let nonce ← ReferenceSut.textItem authorization "nonce"
  let data ← orRaise (fromHex (removePrefix0x nonce))
    (.valueError "non-hexadecimal number found in fromhex() arg")
  return ⟨fromAddr, toAddr, value, validAfter, validBefore, data⟩

/-- A signed EIP-3009 transfer authorization, ready to settle on-chain. -/
structure Authorization where
  fromAddr : Str
  toAddr : Str
  value : ℤ
  validAfter : ℤ
  validBefore : ℤ
  nonce : Str
  signature : Str

/-- Serialize the signed authorization to x402-compatible wire fields. -/
def Authorization.asDict (signed : Authorization) : Except PyError Fields := do
  let value ← ReferenceSut.textOf (.int signed.value)
  let validAfter ← ReferenceSut.textOf (.int signed.validAfter)
  let validBefore ← ReferenceSut.textOf (.int signed.validBefore)
  return [(.str "from", .str signed.fromAddr), (.str "to", .str signed.toAddr),
    (.str "value", .str value), (.str "validAfter", .str validAfter),
    (.str "validBefore", .str validBefore), (.str "nonce", .str signed.nonce),
    (.str "signature", .str signed.signature)]

/-- The arguments of `sign_authorization` beside the signer, with their defaults. -/
structure Terms where
  toAddr : Str
  value : ℤ
  chainId : ℤ
  tokenAddress : Str
  tokenName : Str
  tokenVersion : Str
  validAfter : ℤ := 0
  validBefore : ℤ := 2 ^ 48
  nonce : Option Str := none

def Terms.domain (terms : Terms) : TypedDomain :=
  ⟨terms.tokenName, terms.tokenVersion, terms.chainId, terms.tokenAddress⟩

/-- The nonce that is given, or a random one. -/
def nonceOr {σ : Type} (given : Option Str) : Proc σ Str :=
  match given with
  | some nonce => return nonce
  | none => do
      let digits ← question (S := interface) (Ask.tokenHex 32)
      return '0' :: 'x' :: digits.toList

variable [EthAccount]

/-- The EIP-712 digest signed for an EIP-3009 authorization. -/
def eip712Digest (authorization : Fields) (domain : TypedDomain) : Except PyError Word := do
  let typed ← message authorization
  EthAccount.typedHash domain typed

/-- Sign a valid EIP-3009 authorization. -/
def signAuthorization {σ : Type} (signer : EthAccount.LocalAccount) (terms : Terms) :
    Proc σ Authorization := do
  let nonce ← nonceOr terms.nonce
  let value ← lift (ReferenceSut.textOf (.int terms.value))
  let validAfter ← lift (ReferenceSut.textOf (.int terms.validAfter))
  let validBefore ← lift (ReferenceSut.textOf (.int terms.validBefore))
  let typed ← lift (message [(.str "from", .str (EthAccount.address signer)),
    (.str "to", .str terms.toAddr), (.str "value", .str value),
    (.str "validAfter", .str validAfter), (.str "validBefore", .str validBefore),
    (.str "nonce", .str nonce)])
  let digest ← lift (EthAccount.typedHash terms.domain typed)
  return ⟨EthAccount.address signer, terms.toAddr, terms.value, terms.validAfter,
    terms.validBefore, nonce, hexData (EthAccount.sign signer digest)⟩

/-! ### Recovery -/

/-- Recover the address that signed the authorization under the given EIP-712 domain. -/
def recoveredSigner (authorization : Fields) (domain : TypedDomain) : Except PyError Str := do
  let typed ← message authorization
  let digest ← EthAccount.typedHash domain typed
  let signature ← ReferenceSut.item authorization "signature"
  EthAccount.recoverMessage digest signature

/-- True iff the authorization recovers to its claimed payer under the expected chain. -/
def authorizationBindsToChain (authorization : Fields) (expected : TypedDomain) :
    Except PyError Bool :=
  match recoveredSigner authorization expected with
  | .error _ => .ok false
  | .ok recovered => do
      let claimed ← ReferenceSut.textItem authorization "from"
      return decide (lower recovered = lower claimed)

end Payloads

end Psv
