import Psv.Interaction.Embedding
import Psv.Onchain.Calldata
import Psv.Document.Encoding

/-!
# Capturing a rail

`capture_rail_attestation.py` reads what a token is at one block: its code, the
implementation behind a proxy, its names, and the EIP-712 domain that reproduces its
separator.  What it prints are fields of an attestation, ready to calibrate a rail with
(`Capture.attestation`).
-/

namespace Psv

open Python Interaction Program RpcClient Node Onchain

/-- What stops a capture: a read that is no evidence, or an exception of the client. -/
inductive CaptureError where
  | captureError (message : String)
  | raised (error : PyError)
  deriving DecidableEq

/-- Everything read from one token at one block. -/
structure Capture where
  chainId : ℕ
  blockNumber : ℕ
  blockHash : Str
  tokenAddress : Str
  codeSha256 : Str
  reportedName : Option Str
  reportedVersion : Option Str
  decimals : ℕ
  domainSeparator : Option Str
  domainSolution : Option (Str × Str)
  eip3009StateReadable : Bool
  implementationAddress : Option Str
  implementationCodeSha256 : Option Str
  notes : List String
  deriving DecidableEq

namespace Capture

/-- A computation that reads the chain for a capture. -/
abbrev Reading (σ α : Type) : Type := Program interface σ CaptureError α

/-- Ask through the client. -/
def asking {σ α : Type} (program : Proc σ α) : Reading σ α :=
  program.embed ⟨id, fun _ => .refl _⟩ .raised

def nameCandidates : List Str :=
  ["USD Coin".toList, "USDC".toList, "USD Coin (PoS)".toList, "USDC.e".toList]

def versionCandidates : List Str := ["1".toList, "2".toList]

variable [Interpreter] [Cryptography] {σ : Type}

omit [Interpreter] in
/-- `keccak(text=signature)[:4].hex()` -/
def selector (signature : String) : Str :=
  (hexPad 64 (Cryptography.keccak256 (utf8 signature.toList)).toNat).take 8

omit [Cryptography] in
/-- Validate a 32-byte hash and normalise it to lowercase. -/
def exactHash (value : Value) (what : String) : Except CaptureError Str :=
  match value with
  | .str text =>
      if isExactHex 64 text then .ok (lower text)
      else .error (.captureError s!"{what} is not an exact 32-byte hash")
  | _ => .error (.captureError s!"{what} is not an exact 32-byte hash")

omit [Interpreter] [Cryptography] in
/-- Decode a hex quantity; leading zeros are allowed. -/
def quantity (value : Value) (what : String) : Except CaptureError ℕ :=
  match value with
  | .str text =>
      if text.take 2 = ['0', 'x'] ∧ text.drop 2 ≠ [] ∧ (text.drop 2).all isHexDigit then
        .ok (hexVal (text.drop 2))
      else .error (.captureError s!"{what} is not a hex quantity")
  | _ => .error (.captureError s!"{what} is not a hex quantity")

omit [Cryptography] in
/-- Hash deployed runtime bytecode, refusing an empty account. -/
def codeSha256Of (code : Str) (what : String) : Except CaptureError Str := do
  refuse (code.take 2 ≠ ['0', 'x'] ∨ code = ['0', 'x'])
    (.captureError s!"{what} has no deployed runtime bytecode")
  let raw ← orRaise (fromHex (code.drop 2))
    (.captureError s!"{what} returned malformed runtime bytecode")
  refuse (raw = []) (.captureError s!"{what} has no deployed runtime bytecode")
  return Interpreter.sha256 raw

omit [Interpreter] [Cryptography] in
/-- Decode an ABI-encoded dynamic string, if it is one. -/
def decodeString (result : Str) : Option Str := do
  let raw ← fromHex (if result.take 2 = ['0', 'x'] then result.drop 2 else result)
  let offset := bytesVal (raw.take 32)
  let length := bytesVal ((raw.drop offset).take 32)
  if raw.length < 64 ∨ raw.length < offset + 32 ∨ raw.length - (offset + 32) < length then none
  else decodeUtf8 ((raw.drop (offset + 32)).take length)

omit [Cryptography] in
/-- Call a view function; a missing method is information, not a failure. -/
def tryCall (address payload : Str) (block : ℕ) : Reading σ (Option Str) :=
  asking do
    let answered ← (ethCall address ('0' :: 'x' :: payload) (.number block)).attempt
    return answered.toOption

omit [Interpreter] in
/-- The EIP-712 domain separator for one candidate name/version pair. -/
def domainSeparatorFor (name version : Str) (chainId : ℕ) (verifying : Str) :
    Except CaptureError Str := do
  refuse (2 ^ 256 ≤ chainId) (.raised (.overflowError "int too big to convert"))
  let contract ← orRaise (fromHex (verifying.drop 2))
    (.raised (.valueError "non-hexadecimal number found in fromhex() arg"))
  let encoded := wordData (Cryptography.keccak256 (utf8 domainTypeText.toList)) ++
    wordData (Cryptography.keccak256 (utf8 name)) ++
    wordData (Cryptography.keccak256 (utf8 version)) ++ bytesOf 32 chainId ++
    List.replicate 12 0 ++ contract
  return hexWord (Cryptography.keccak256 encoded).toNat

/-- The first candidate whose separator is the observed one. -/
def findDomain (observed : Str) (chainId : ℕ) (verifying : Str) :
    List (Str × Str) → Except CaptureError (Option (Str × Str))
  | [] => .ok none
  | candidate :: rest => do
      let separator ← domainSeparatorFor candidate.1 candidate.2 chainId verifying
      if separator = lower observed then return some candidate
      else findDomain observed chainId verifying rest

omit [Interpreter] [Cryptography] in
/-- The names to try: the one that the contract reports comes first. -/
def names (reportedName : Option Str) : List Str :=
  match reportedName with
  | some name =>
      if name ≠ [] ∧ nameCandidates.all fun candidate => candidate ≠ name then
        name :: nameCandidates
      else nameCandidates
  | none => nameCandidates

/-- Find the name/version pair whose domain separator matches the observed one. -/
def solveDomain (observed : Str) (chainId : ℕ) (verifying : Str) (reportedName : Option Str) :
    Except CaptureError (Option (Str × Str)) :=
  findDomain observed chainId verifying ((names reportedName).flatMap fun name =>
    versionCandidates.map fun version => (name, version))

/-- A solution is one of the candidates, and it does reproduce what was observed. -/
theorem findDomain_found {observed verifying : Str} {chainId : ℕ} {candidates : List (Str × Str)}
    {solution : Str × Str}
    (solved : findDomain observed chainId verifying candidates = .ok (some solution)) :
    solution ∈ candidates ∧
      domainSeparatorFor solution.1 solution.2 chainId verifying = .ok (lower observed) := by
  induction candidates with
  | nil => cases solved
  | cons candidate rest ih =>
      rw [findDomain] at solved
      rcases Checks.bind_eq_ok_iff.mp solved with ⟨separator, computed, next⟩
      split_ifs at next with same
      · cases next
        exact ⟨List.mem_cons_self, same ▸ computed⟩
      · rcases ih next with ⟨mem, reproduced⟩
        exact ⟨List.mem_cons_of_mem _ mem, reproduced⟩

omit [Cryptography] in
/-- The address in a proxy's implementation slot. -/
def implementationIn (word : Value) : Except CaptureError Str :=
  match word with
  | .str text => do
      refuse (isExactHex 64 text = false)
        (.captureError "proxy implementation slot returned a malformed word")
      refuse ((text.drop 2).take 24 ≠ List.replicate 24 '0')
        (.captureError "proxy implementation slot does not hold an address word")
      let address := '0' :: 'x' :: lower (text.drop (text.length - 40))
      refuse (address = '0' :: 'x' :: List.replicate 40 '0')
        (.captureError "proxy implementation slot is empty — wrong slot?")
      return address
  | _ => .error (.captureError "proxy implementation slot returned a malformed word")

omit [Cryptography] in
/-- Read a proxy implementation address from a storage slot and hash its code. -/
def readProxy (token slot : Str) (block : ℕ) : Reading σ (Option Str × Option Str) := do
  let word ← asking (call "eth_getStorageAt" [.str token, .str slot, .str (pyHex block)])
  let address ← lift (implementationIn word)
  let code ← asking (getCode address (.number block))
  let sha ← lift (codeSha256Of code "proxy implementation")
  return (some address, some sha)

omit [Cryptography] in
/-- The implementation, of a token that is behind a proxy. -/
def implementationOf (token : Str) (proxySlot : Option Str) (block : ℕ) :
    Reading σ (Option Str × Option Str) :=
  match proxySlot with
  | some slot => readProxy token slot block
  | none => return (none, none)

omit [Cryptography] in
/-- What to read before calibrating, as far as the domain is concerned. -/
def domainNotes (separator : Option Str) (solution : Option (Str × Str)) (name : Option Str) :
    List String :=
  match separator, solution, name with
  | none, _, _ => ["DOMAIN_SEPARATOR() is not exposed. The EIP-712 domain cannot be confirmed " ++
      "from the chain; do not calibrate this rail from a block explorer instead."]
  | some _, none, _ => ["No candidate name/version reproduces the observed DOMAIN_SEPARATOR. " ++
      "The domain is something else — extend the candidate list rather than " ++
      "attesting to name()/version(), which would be a domain the contract " ++
      "does not use."]
  | some _, some solved, some label =>
      let domain := Interpreter.repr (.str solved.1)
      let reported := Interpreter.repr (.str label)
      if solved.1 ≠ label then
        [s!"The EIP-712 domain name ({domain}) differs from name() ({reported}). " ++
          "This is the case the tool exists for: attest to the domain, not the label."]
      else []
  | some _, some _, none => []

omit [Interpreter] [Cryptography] in
/-- The chain is the one that was requested. -/
def checkChainId (chainId : ℕ) (expectChainId : ℤ) : Except CaptureError Unit :=
  if (chainId : ℤ) = expectChainId then .ok ()
  else do
    let expected ← (showInt expectChainId).mapError .raised
    let reported ← (showInt chainId).mapError .raised
    .error (.captureError (s!"chain mismatch: expected {expected}, node reports {reported}. " ++
      "Refusing to attest to a chain that was not requested."))

/-- Read one token's reviewable identity at a single pinned block. -/
def capture (token : Str) (expectChainId : ℤ) (blockTag : String) (proxySlot : Option Str) :
    Reading σ Capture := do
  let chainId ← asking RpcClient.chainId
  lift (checkChainId chainId expectChainId)
  let block ← asking (getBlock (.tag blockTag))
  let number ← lift (quantity (getField block "number") "block number")
  let blockHash ← lift (exactHash (getField block "hash") "block hash")
  let code ← asking (getCode token (.number number))
  let codeSha ← lift (codeSha256Of code "token")
  let nameRaw ← tryCall token (selector "name()") number
  let versionRaw ← tryCall token (selector "version()") number
  let decimalsRaw ← tryCall token (selector "decimals()") number
  let decimalsText ← lift (orRaise decimalsRaw (.captureError
    "token does not expose decimals() — not an ERC-20 at this address"))
  let decimals ← lift (quantity (.str decimalsText) "decimals")
  let separatorRaw ← tryCall token (selector "DOMAIN_SEPARATOR()") number
  let name := decodeString (nameRaw.getD [])
  let separator := (separatorRaw.filter (isExactHex 64)).map lower
  let solution ← lift (match separator with
    | some observed => solveDomain observed chainId token name
    | none => .ok none)
  let probe ← tryCall token (selector "authorizationState(address,bytes32)" ++
    List.replicate 128 '0') number
  let eip3009 := probe.elim false fun text => text ≠ ['0', 'x'] ∧ text ≠ []
  let implementation ← implementationOf token proxySlot number
  return {
    chainId := chainId
    blockNumber := number
    blockHash := blockHash
    tokenAddress := token
    codeSha256 := codeSha
    reportedName := name
    reportedVersion := decodeString (versionRaw.getD [])
    decimals := decimals
    domainSeparator := separator
    domainSolution := solution
    eip3009StateReadable := eip3009
    implementationAddress := implementation.1
    implementationCodeSha256 := implementation.2
    notes := domainNotes separator solution name ++ if eip3009 then [] else
      ["authorizationState(address,bytes32) did not answer. This token may not " ++
        "implement EIP-3009; psv rails attest to that interface explicitly."] }

omit [Interpreter] [Cryptography] in
/-- The attestation fields that are printed, put into an attestation of this kind. -/
def attestation (capture : Capture) (base : AttestationFields) (proxySlot : Option Str) :
    AttestationFields :=
  { base with
    expectedDecimals := capture.decimals
    domainName := capture.domainSolution.map fun domain => String.ofList domain.1
    domainVersion := capture.domainSolution.map fun domain => String.ofList domain.2
    reviewedBlockNumber := some (capture.blockNumber : ℤ)
    reviewedBlockHash := some capture.blockHash
    implementationAddress := capture.implementationAddress
    expectedCodeSha256 := some capture.codeSha256
    proxyImplementationSlot := proxySlot
    implementationCodeSha256 := capture.implementationCodeSha256
    calibrated := true }

end Capture

end Psv
