import Psv.Chain

/-!
# Attested rails

The configuration records of `rails.py`.  The constructors refuse inconsistent
metadata; here each record is the structure of its fields together with the
proof that its constructor accepted them, so only accepted rails exist.  The
closed string domains of the source (finality tags, network classes, proxy
kinds) are enumerations.
-/

namespace Psv

open Python Interaction

/-- The block tag a rail takes as final. -/
inductive FinalityTag where
  | latest
  | safe
  | finalized
  deriving DecidableEq

def FinalityTag.text : FinalityTag → String
  | .latest => "latest"
  | .safe => "safe"
  | .finalized => "finalized"

inductive NetworkClass where
  | localNet
  | testnet
  | mainnet
  deriving DecidableEq

/-- How a rail's token is deployed. -/
inductive ProxyKind where
  | none
  | fiatTokenProxy
  | vendorProxy
  | erc1967Proxy
  | unknown
  deriving DecidableEq

/-- The block selection and depth required for a rail verdict. -/
structure FinalityPolicy where
  blockTag : FinalityTag
  minimumConfirmations : ℤ
  positive : 1 ≤ minimumConfirmations

/-- `[0-9a-f]{64}` -/
def isSha256 (text : Str) : Bool :=
  text.length == 64 && text.all fun c => isHexDigit c && c.toLower == c

/-- The reviewed metadata of a rail. -/
structure AttestationFields where
  version : String
  authoritativeSources : List String
  networkClass : NetworkClass
  proxyKind : ProxyKind
  expectedDecimals : ℤ
  domainName : Option String
  domainVersion : Option String
  reviewedBlockNumber : Option ℤ := .none
  reviewedBlockHash : Option Str := .none
  implementationAddress : Option Str := .none
  expectedCodeSha256 : Option Str := .none
  proxyImplementationSlot : Option Str := .none
  implementationCodeSha256 : Option Str := .none
  calibrated : Bool := false

namespace AttestationFields

/-- Everything a calibrated mainnet rail has to pin. -/
def pinned (fields : AttestationFields) : Bool :=
  fields.reviewedBlockNumber.isSome && fields.expectedCodeSha256.isSome &&
    (decide (fields.proxyKind = .none) ||
      (fields.implementationAddress.isSome && fields.proxyImplementationSlot.isSome &&
        fields.implementationCodeSha256.isSome))

/-- The constructor's checks. -/
def postInit (fields : AttestationFields) : Except PyError Unit := do
  refuse (fields.version = "" ∨ fields.authoritativeSources = [])
    (.valueError "rail attestation needs a version and authoritative source")
  refuse (¬(0 ≤ fields.expectedDecimals ∧ fields.expectedDecimals ≤ 36))
    (.valueError "attested decimals must be within [0, 36]")
  refuse (fields.reviewedBlockNumber.isSome ≠ fields.reviewedBlockHash.isSome)
    (.valueError "reviewed block number/hash must be set together")
  refuse (∃ number ∈ fields.reviewedBlockNumber, number < 0)
    (.valueError "reviewed block number cannot be negative")
  refuse (∃ hash ∈ fields.reviewedBlockHash, isExactHex 64 hash = false)
    (.valueError "reviewed_block_hash must be an exact hash")
  refuse (∃ sha ∈ fields.expectedCodeSha256, isSha256 sha = false)
    (.valueError "expected_code_sha256 must be lowercase SHA-256 hex")
  refuse (∃ address ∈ fields.implementationAddress, isExactHex 40 address = false)
    (.valueError "implementation_address must be an exact EVM address")
  refuse (∃ slot ∈ fields.proxyImplementationSlot, isExactHex 64 slot = false)
    (.valueError "proxy_implementation_slot must be an exact bytes32 slot")
  refuse (∃ sha ∈ fields.implementationCodeSha256, isSha256 sha = false)
    (.valueError "implementation_code_sha256 must be lowercase SHA-256 hex")
  refuse (fields.networkClass = .mainnet ∧ fields.calibrated = true ∧ fields.pinned = false)
    (.valueError "calibrated mainnet rails require pinned code/proxy identity")

end AttestationFields

/-- Reviewed metadata used to fail closed when a live rail drifts. -/
structure RailAttestation extends AttestationFields where
  accepted : toAttestationFields.postInit = .ok ()

/-- The identity and policy of one rail. -/
structure RailFields where
  key : String
  label : String
  chainId : ℤ
  tokenAddress : Str
  decimals : ℤ
  tokenName : Option String
  tokenVersion : Option String
  finality : FinalityPolicy
  attestation : RailAttestation
  signingEnabled : Bool := false

/-- The constructor's checks. -/
def RailFields.postInit (fields : RailFields) : Except PyError Unit := do
  refuse (fields.chainId ≤ 0) (.valueError "rail chain_id must be positive")
  refuse (isExactHex 40 fields.tokenAddress = false)
    (.valueError "rail token_address must be an exact EVM address")
  refuse (¬(0 ≤ fields.decimals ∧ fields.decimals ≤ 36))
    (.valueError "rail decimals must be within [0, 36]")
  refuse (fields.signingEnabled = true)
    (.valueError "signing is disabled for every reconciliation rail")
  refuse (fields.attestation.expectedDecimals ≠ fields.decimals)
    (.valueError "rail decimals differ from the reviewed attestation")
  refuse (fields.attestation.domainName ≠ fields.tokenName ∨
      fields.attestation.domainVersion ≠ fields.tokenVersion)
    (.valueError "rail domain differs from the reviewed attestation")

/-- A versioned token identity with interface and finality metadata. -/
structure RailConfig extends RailFields where
  accepted : toRailFields.postInit = .ok ()

/-! ### What the constructors guarantee -/

namespace RailAttestation

/-- The guarantees about a reviewed attestation. -/
structure Valid (fields : AttestationFields) : Prop where
  versioned : fields.version ≠ ""
  reviewedNumber : ∀ number ∈ fields.reviewedBlockNumber, 0 ≤ number
  reviewedTogether : fields.reviewedBlockNumber.isSome = fields.reviewedBlockHash.isSome
  expectedCode : ∀ sha ∈ fields.expectedCodeSha256, isSha256 sha = true
  implementation : ∀ address ∈ fields.implementationAddress, isExactHex 40 address = true
  slot : ∀ slot ∈ fields.proxyImplementationSlot, isExactHex 64 slot = true
  implementationCode : ∀ sha ∈ fields.implementationCodeSha256, isSha256 sha = true
  mainnetPinned : fields.networkClass = .mainnet → fields.calibrated = true →
    fields.pinned = true

theorem valid (attestation : RailAttestation) : Valid attestation.toAttestationFields := by
  have accepted := attestation.accepted
  simp only [AttestationFields.postInit, Checks.bind_eq_ok_iff, refuse_eq_ok_iff, exists_const,
    not_or, not_exists, not_and, not_lt, Bool.not_eq_false, ne_eq, not_not] at accepted
  obtain ⟨⟨versioned, _⟩, _, together, number, _, code, implementation, slot, implementationCode,
    mainnet⟩ := accepted
  exact ⟨versioned, number, together, code, implementation, slot, implementationCode, mainnet⟩

end RailAttestation

namespace RailConfig

theorem chainId_pos (rail : RailConfig) : 0 < rail.chainId := by
  have accepted := rail.accepted
  simp only [RailFields.postInit, Checks.bind_eq_ok_iff, refuse_eq_ok_iff, exists_const,
    not_le] at accepted
  exact accepted.1

theorem tokenAddress_exact (rail : RailConfig) : isExactHex 40 rail.tokenAddress = true := by
  have accepted := rail.accepted
  simp only [RailFields.postInit, Checks.bind_eq_ok_iff, refuse_eq_ok_iff, exists_const,
    Bool.not_eq_false] at accepted
  exact accepted.2.1

end RailConfig

/-! ### The local mock rail -/

namespace Rails

def eip3009 : String := "https://eips.ethereum.org/EIPS/eip-3009"

def mockAttestation : RailAttestation where
  version := "2026-07-18.2"
  authoritativeSources := [eip3009]
  networkClass := .localNet
  proxyKind := .none
  expectedDecimals := 6
  domainName := some "USDC"
  domainVersion := some "2"
  calibrated := true
  accepted := by decide

/-- The registered rail `mock-anvil`. -/
def mockAnvil : RailConfig where
  key := "mock-anvil"
  label := "Local MockUSDC (Anvil)"
  chainId := 84532
  tokenAddress := "0x5FbDB2315678afecb367f032d93F642f64180aa3".toList
  decimals := 6
  tokenName := some "USDC"
  tokenVersion := some "2"
  finality := ⟨.latest, 1, by decide⟩
  attestation := mockAttestation
  accepted := by decide +kernel

end Rails

end Psv
