import Psv.Onchain.Balances
import Psv.Node.Transfer
import Mathlib.Data.FinEnum

/-!
# The mock token

`UpgradeableMockUSDC.sol`: an EIP-3009 token with two switches, the signature of
its transfer event and a fee on transfers.  A function either reverts, and then
nothing happens, or yields the next state and the events; checked arithmetic
reverts like a failed requirement.
-/

namespace Psv

open Python Interaction Node

namespace Onchain

/-! ### Primitives -/

/-- The two primitives of the machine the contract computes signers with. -/
class Cryptography where
  keccak256 : List UInt8 → Word
  /-- The zero address for an invalid signature. -/
  ecrecover : Word → UInt8 → Word → Word → Address

/-- The operation whose overflow caused a panic. -/
inductive Arithmetic where
  | add
  | sub
  | mul
  deriving DecidableEq

/-- Why a call reverts. -/
inductive Revert where
  | require (reason : String)
  | overflow (operation : Arithmetic)
  deriving DecidableEq

/-- `require(condition, reason)` -/
def require (condition : Prop) [Decidable condition] (reason : String) : Except Revert Unit :=
  refuse (¬condition) (.require reason)

/-- `a + b` -/
def checkedAdd (a b : Word) : Except Revert Word :=
  if a.toNat + b.toNat < 2 ^ 256 then .ok (a + b) else .error (.overflow .add)

/-- `a - b` -/
def checkedSub (a b : Word) : Except Revert Word :=
  if b.toNat ≤ a.toNat then .ok (a - b) else .error (.overflow .sub)

/-- `a * b` -/
def checkedMul (a b : Word) : Except Revert Word :=
  if a.toNat * b.toNat < 2 ^ 256 then .ok (a * b) else .error (.overflow .mul)

/-! ### State -/

structure State where
  totalSupply : Word
  balanceOf : Address → Word
  authorizationState : Address → Word → Bool
  eventMode : BitVec 8
  feeBps : BitVec 16
  admin : Address

/-- What the machine tells a call. -/
structure Message where
  sender : Address
  timestamp : Word
  chainId : Word
  contract : Address

inductive Event where
  | transfer (fromAddr toAddr : Address) (value : Word)
  | transferV2 (fromAddr toAddr : Address) (value ref : Word)
  | authorizationUsed (authorizer : Address) (nonce : Word)
  | eventModeChanged (previousMode newMode : BitVec 8)
  | feeBpsChanged (previousBps newBps : BitVec 16)
  deriving DecidableEq

/-- The constructor. -/
def deployed (deployer : Address) : State where
  totalSupply := 0
  balanceOf _ := 0
  authorizationState _ _ := false
  eventMode := 0
  feeBps := 0
  admin := deployer

def State.setBalance (state : State) (who : Address) (balance : Word) : State :=
  { state with balanceOf := Function.update state.balanceOf who balance }

def State.markUsed (state : State) (who : Address) (nonce : Word) : State :=
  { state with
    authorizationState := Function.update state.authorizationState who
      (Function.update (state.authorizationState who) nonce true) }

/-- `balanceOf[who] += amount` -/
def State.add (state : State) (who : Address) (amount : Word) : Except Revert State := do
  let balance ← checkedAdd (state.balanceOf who) amount
  return state.setBalance who balance

/-- `balanceOf[who] -= amount` -/
def State.sub (state : State) (who : Address) (amount : Word) : Except Revert State := do
  let balance ← checkedSub (state.balanceOf who) amount
  return state.setBalance who balance

/-! ### Functions -/

/-- Flip the signature of the settlement event. -/
def setEventMode (message : Message) (state : State) (mode : BitVec 8) :
    Except Revert (State × List Event) := do
  require (message.sender = state.admin) "only admin"
  require (mode ≤ 1) "unknown mode"
  return ({ state with eventMode := mode }, [.eventModeChanged state.eventMode mode])

/-- Set the fee on transfers, in basis points. -/
def setFeeBps (message : Message) (state : State) (bps : BitVec 16) :
    Except Revert (State × List Event) := do
  require (message.sender = state.admin) "only admin"
  require (bps ≤ 1000) "fee too high"
  return ({ state with feeBps := bps }, [.feeBpsChanged state.feeBps bps])

/-- Open mint for testing. -/
def mint (state : State) (toAddr : Address) (amount : Word) :
    Except Revert (State × List Event) := do
  let state ← state.add toAddr amount
  let totalSupply ← checkedAdd state.totalSupply amount
  return ({ state with totalSupply := totalSupply }, [.transfer 0 toAddr amount])

/-- The arguments of `transferWithAuthorization`. -/
structure Authorization where
  fromAddr : Address
  toAddr : Address
  value : Word
  validAfter : Word
  validBefore : Word
  nonce : Word
  signature : List UInt8

def secp256k1nDiv2 : Word := 0x7FFFFFFFFFFFFFFFFFFFFFFFFFFFFFFF5D576E7357A4501DDFE92F46681B20A0

def transferTypeText : String :=
  "TransferWithAuthorization(address from,address to,uint256 value,uint256 validAfter," ++
    "uint256 validBefore,bytes32 nonce)"

def domainTypeText : String :=
  "EIP712Domain(string name,string version,uint256 chainId,address verifyingContract)"

/-- The bytes of an ASCII text. -/
def asciiBytes (text : String) : List UInt8 := text.toList.map Char.toUInt8

/-- `abi.encode` of static values, one word each. -/
def abiEncode (words : List Word) : List UInt8 := words.flatMap wordData

/-- The word that begins somewhere in the data; zeros follow it. -/
def calldataload (data : List UInt8) (offset : ℕ) : Word :=
  BitVec.ofNat 256 ((List.range 32).foldl
    (fun n position => 256 * n + (data.getD (offset + position) 0).toNat) 0)

section Signatures

variable [Cryptography]

/-- The chain- and deployment-bound EIP-712 domain separator. -/
def domainSeparator (message : Message) : Word :=
  Cryptography.keccak256 (abiEncode [Cryptography.keccak256 (asciiBytes domainTypeText),
    Cryptography.keccak256 (asciiBytes "USDC"), Cryptography.keccak256 (asciiBytes "2"),
    message.chainId, message.contract.setWidth 256])

/-- Recover a canonical low-s signer from a 65-byte signature. -/
def recover (digest : Word) (sig : List UInt8) : Except Revert Address := do
  require (sig.length = 65) "bad sig length"
  let r := calldataload sig 0
  let s := calldataload sig 32
  let v := sig.getD 64 0
  require (v = 27 ∨ v = 28) "bad sig v"
  require (s ≤ secp256k1nDiv2) "bad sig s"
  return Cryptography.ecrecover digest v r s

/-- The digest an authorization signs. -/
def authorizationDigest (message : Message) (authorization : Authorization) : Word :=
  let structHash := Cryptography.keccak256 (abiEncode
    [Cryptography.keccak256 (asciiBytes transferTypeText), authorization.fromAddr.setWidth 256,
      authorization.toAddr.setWidth 256, authorization.value, authorization.validAfter,
      authorization.validBefore, authorization.nonce])
  Cryptography.keccak256 ([0x19, 0x01] ++ abiEncode [domainSeparator message, structHash])

/-- The requirements up to the signature. -/
def checkAuthorization (message : Message) (state : State) (authorization : Authorization) :
    Except Revert Unit := do
  require (authorization.fromAddr ≠ 0) "auth: zero from"
  require (authorization.toAddr ≠ 0) "auth: zero to"
  require (authorization.validAfter < message.timestamp) "auth: not yet valid"
  require (message.timestamp < authorization.validBefore) "auth: expired"
  require (state.authorizationState authorization.fromAddr authorization.nonce = false)
    "auth: nonce already used"
  let recovered ← recover (authorizationDigest message authorization) authorization.signature
  require (recovered ≠ 0) "auth: zero signer"
  require (recovered = authorization.fromAddr) "auth: invalid signature"

/-- `(value * feeBps) / 10000` -/
def feeOf (state : State) (value : Word) : Except Revert Word := do
  let product ← checkedMul value (state.feeBps.setWidth 256)
  return product / 10000

/-- The payer is debited the gross value, the receiver nets it without the fee, which is parked
with the administrator. -/
def moveFunds (state : State) (authorization : Authorization) : Except Revert State := do
  let fee ← feeOf state authorization.value
  let state ← state.sub authorization.fromAddr authorization.value
  let net ← checkedSub authorization.value fee
  let state ← state.add authorization.toAddr net
  if 0 < fee then state.add state.admin fee else return state

/-- The events of a transfer, which depend on the mode. -/
def transferEvents (state : State) (authorization : Authorization) : List Event :=
  [.authorizationUsed authorization.fromAddr authorization.nonce,
    if state.eventMode = 0 then
      .transfer authorization.fromAddr authorization.toAddr authorization.value
    else .transferV2 authorization.fromAddr authorization.toAddr authorization.value
      authorization.nonce]

/-- Verify and consume one EIP-3009 authorization, then transfer the value. -/
def transferWithAuthorization (message : Message) (state : State)
    (authorization : Authorization) : Except Revert (State × List Event) := do
  checkAuthorization message state authorization
  -- marked before the transfer
  let state := state.markUsed authorization.fromAddr authorization.nonce
  require (authorization.value ≤ state.balanceOf authorization.fromAddr) "insufficient balance"
  let state ← moveFunds state authorization
  return (state, transferEvents state authorization)

/-! ### Runs -/

inductive Call where
  | setEventMode (mode : BitVec 8)
  | setFeeBps (bps : BitVec 16)
  | mint (toAddr : Address) (amount : Word)
  | transferWithAuthorization (authorization : Authorization)

def execute (message : Message) (state : State) : Call → Except Revert (State × List Event)
  | .setEventMode mode => setEventMode message state mode
  | .setFeeBps bps => setFeeBps message state bps
  | .mint toAddr amount => mint state toAddr amount
  | .transferWithAuthorization authorization =>
      transferWithAuthorization message state authorization

/-- The state after a call; a reverting call changes nothing. -/
def apply (state : State) (call : Message × Call) : State :=
  match execute call.1 state call.2 with
  | .ok (next, _) => next
  | .error _ => state

def run (state : State) (calls : List (Message × Call)) : State := calls.foldl apply state

/-- The authorizations that were settled during a run, in order. -/
def settled : State → List (Message × Call) → List (Address × Word)
  | _, [] => []
  | state, (message, call) :: calls =>
      let rest := settled (apply state (message, call)) calls
      match call, execute message state call with
      | .transferWithAuthorization authorization, .ok _ =>
          (authorization.fromAddr, authorization.nonce) :: rest
      | _, _ => rest

end Signatures

end Onchain

end Psv
