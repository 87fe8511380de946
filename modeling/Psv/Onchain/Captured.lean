import Psv.Onchain.Signed
import Psv.Verdict.Calibrated

/-!
# Signing for a captured token

A capture tries names and versions until the domain that they make has the separator that the
token reports.  What is signed under that domain is hashed under the reported separator
(`digest_of_captured`), so the token recovers the signer from the very terms that were signed.
-/

namespace Psv

open Python Interaction Program RpcClient Rails Node TokenView

namespace Onchain

/-! ### Addresses in a word -/

section Encodings

theorem bytesOf_zero (count : ℕ) : bytesOf count 0 = List.replicate count 0 := by
  induction count with
  | zero => rfl
  | succ count ih =>
      have split : bytesOf (count + 1) 0 = bytesOf count 0 ++ [0] := rfl
      rw [split, ih, List.replicate_succ']

/-- More bytes than a number needs begin with zeros. -/
theorem bytesOf_add (extra count : ℕ) {n : ℕ} (small : n < 256 ^ count) :
    bytesOf (extra + count) n = List.replicate extra 0 ++ bytesOf count n := by
  induction count generalizing n with
  | zero =>
      have zero : n = 0 := Nat.lt_one_iff.mp small
      subst zero
      exact (bytesOf_zero extra).trans (List.append_nil _).symm
  | succ count ih =>
      have high : n / 256 < 256 ^ count := by
        apply Nat.div_lt_of_lt_mul
        rwa [pow_succ'] at small
      have split : bytesOf (extra + (count + 1)) n =
          bytesOf (extra + count) (n / 256) ++ [UInt8.ofNat (n % 256)] := rfl
      rw [split, ih high, bytesOf, List.append_assoc]

theorem fromHex_address {text : Str} (shape : isExactHex 40 text = true) :
    fromHex (text.drop 2) = some (bytesOf 20 (hexVal (text.drop 2))) := by
  rcases isExactHex_iff.mp shape with ⟨digits, rfl, long, all⟩
  apply fromHex_of_map_toLower_eq all
  rw [map_toLower_eq_hexPad all, long, bytesHex_bytesOf]
  rfl

theorem wordData_address {text : Str} (shape : isExactHex 40 text = true) :
    wordData ((readAddress text).setWidth 256) =
      List.replicate 12 0 ++ bytesOf 20 (hexVal (text.drop 2)) := by
  rw [wordData, BitVec.toNat_setWidth_of_le (by decide), toNat_readAddress shape]
  exact bytesOf_add 12 20 (lt_of_lt_of_eq (hexVal_exact_lt shape) (by norm_num))

theorem wordData_ofNat {n : ℕ} (small : n < 2 ^ 256) :
    wordData (BitVec.ofNat 256 n) = bytesOf 32 n := by
  rw [wordData, BitVec.toNat_ofNat, Nat.mod_eq_of_lt small]

theorem utf8_eq_asciiBytes {text : String} (ascii : ∀ c ∈ text.toList, c.toNat < 128) :
    utf8 text.toList = asciiBytes text :=
  utf8_ascii ascii

end Encodings

/-! ### Separators -/

section Separators

variable [Cryptography]

/-- The separator of a domain of this name and version. -/
def separator (name version : String) (chainId : Word) (contract : Address) : Word :=
  Cryptography.keccak256 (abiEncode [Cryptography.keccak256 (asciiBytes domainTypeText),
    Cryptography.keccak256 (asciiBytes name), Cryptography.keccak256 (asciiBytes version),
    chainId, contract.setWidth 256])

/-- The digest of an authorization at a token with this separator. -/
def digestUnder (separator : Word) (authorization : Authorization) : Word :=
  Cryptography.keccak256 ([0x19, 0x01] ++ abiEncode [separator,
    Cryptography.keccak256 (abiEncode [Cryptography.keccak256 (asciiBytes transferTypeText),
      authorization.fromAddr.setWidth 256, authorization.toAddr.setWidth 256, authorization.value,
      authorization.validAfter, authorization.validBefore, authorization.nonce])])

theorem eip712_eq (name version : String) (chainId : Word) (contract : Address)
    (authorization : Authorization) :
    eip712 name version chainId contract authorization =
      digestUnder (separator name version chainId contract) authorization :=
  rfl

/-- The mock token is one of those. -/
theorem authorizationDigest_eq (message : Message) (authorization : Authorization) :
    authorizationDigest message authorization =
      digestUnder (domainSeparator message) authorization :=
  rfl

/-- What the tool computes for a candidate is the separator of that domain. -/
theorem separator_of_domain {name version : String} {token text : Str} {chainId : ℕ}
    (computed : Capture.domainSeparatorFor name.toList version.toList chainId token = .ok text)
    (shape : isExactHex 40 token = true)
    (ascii : ∀ c ∈ name.toList ++ version.toList, c.toNat < 128) :
    text =
      hexWord (separator name version (BitVec.ofNat 256 chainId) (readAddress token)).toNat := by
  simp only [Capture.domainSeparatorFor, Checks.bind_eq_ok_iff, refuse_eq_ok_iff,
    orRaise_eq_ok_iff, exists_const, not_le] at computed
  rcases computed with ⟨small, contract, read, same⟩
  have bytes : contract = bytesOf 20 (hexVal (token.drop 2)) :=
    Option.some.inj (read.symm.trans (fromHex_address shape))
  have typed : utf8 domainTypeText.toList = asciiBytes domainTypeText :=
    utf8_eq_asciiBytes (by decide +kernel)
  have named := utf8_eq_asciiBytes fun c mem => ascii c (List.mem_append_left _ mem)
  have versioned := utf8_eq_asciiBytes fun c mem => ascii c (List.mem_append_right _ mem)
  have encoded : abiEncode [Cryptography.keccak256 (asciiBytes domainTypeText),
      Cryptography.keccak256 (asciiBytes name), Cryptography.keccak256 (asciiBytes version),
      BitVec.ofNat 256 chainId, (readAddress token).setWidth 256] =
      wordData (Cryptography.keccak256 (utf8 domainTypeText.toList)) ++
        wordData (Cryptography.keccak256 (utf8 name.toList)) ++
        wordData (Cryptography.keccak256 (utf8 version.toList)) ++ bytesOf 32 chainId ++
        List.replicate 12 0 ++ bytesOf 20 (hexVal (token.drop 2)) := by
    rw [typed, named, versioned]
    simp only [abiEncode, List.flatMap_cons, List.flatMap_nil, List.append_nil,
      wordData_ofNat small, wordData_address shape, List.append_assoc]
  rw [separator, encoded, ← bytes]
  exact (Except.ok.inj same).symm

variable [Interpreter] {σ : Type} {world : World} {token : Str} {expected : ℤ} {tag : FinalityTag}
  {slot : Option Str} {capture : Capture} {before after : σ} {history said : Conversation}

/-- What is signed for the domain that a capture has found is hashed as the token hashes it, by
the separator that it reported at the captured block; for the mock token that is the digest of
`transferWithAuthorization`. -/
theorem digest_of_captured {name version : String}
    (captured : Returns world (Capture.capture token expected tag.text slot) before history capture
      after (history ++ said))
    (solved : capture.domainSolution = some (name.toList, version.toList))
    (ascii : ∀ c ∈ name.toList ++ version.toList, c.toNat < 128) :
    ∃ text, isExactHex 64 text = true ∧
      callSaid token ('0' :: 'x' :: Capture.selector "DOMAIN_SEPARATOR()") capture.blockNumber
        text ∈ said ∧
      ∀ authorization,
        eip712 name version (BitVec.ofNat 256 capture.chainId) (readAddress token) authorization =
          digestUnder (readWord text) authorization ∧
        ∀ message, domainSeparator message = readWord text →
          eip712 name version (BitVec.ofNat 256 capture.chainId) (readAddress token)
            authorization = authorizationDigest message authorization := by
  rcases returns_iff.mp captured with ⟨other, same, _, replays⟩
  cases List.append_cancel_left same
  have read := Capture.capturedFrom_of_replays replays
  have solution := read.domain.solved
  rcases isSeparator : capture.domainSeparator with _ | observed
  · rw [isSeparator, solved] at solution
    cases solution
  · rw [isSeparator, solved] at solution
    rcases read.domain.said observed isSeparator with ⟨text, shape, lowered, asked⟩
    have reproduced := (Capture.findDomain_found solution).2
    rw [lowered, lower_lower_exactHex shape] at reproduced
    have spelled : Spells text (hexWord (separator name version
        (BitVec.ofNat 256 capture.chainId) (readAddress token)).toNat) :=
      (lower_exactHex shape).symm.trans (separator_of_domain reproduced read.shape ascii)
    have word : readWord text =
        separator name version (BitVec.ofNat 256 capture.chainId) (readAddress token) := by
      rw [readWord, spelled.word_eq shape, BitVec.ofNat_toNat, BitVec.setWidth_eq]
    refine ⟨text, shape, asked, ?_⟩
    intro authorization
    rw [eip712_eq, word]
    refine ⟨rfl, ?_⟩
    intro message reported
    rw [authorizationDigest_eq, reported]

end Separators

/-! ### The mock token

It is captured on a chain of one block, with a node that knows its decimals and its separator. -/

namespace Deployed

/-- What is hashed into a separator. -/
def domainData (name version : Word) : List UInt8 :=
  abiEncode [0x8b73c3c69bb8fe3d512ecc4cf759cc79239f7b179b0ffacaa9a75d522b39400f, name, version,
    31337, 0xc0]

/-- The hashes of the selectors and of the domains that are tried. -/
def hashes : List (List UInt8 × Word) :=
  Recaptured.hashes ++
    [(asciiBytes domainTypeText,
        0x8b73c3c69bb8fe3d512ecc4cf759cc79239f7b179b0ffacaa9a75d522b39400f),
      (asciiBytes "USD Coin", 0x52878b207aaddbfc15ea7bebcda681eb8ccd306e2227b61cef68505c8c056341),
      (asciiBytes "USDC", 0xd6aca1be9729c13d677335161321649cccae6a591554772516700f986f942eaa),
      (asciiBytes "1", 0xc89efdaa54c0f20c7adf612882df0950f5a951637e0307cdcb4c672f298b8bc6),
      (asciiBytes "2", 0xad7c5bef027816a800da1736444fb58a807ef4c9603b7848673f7e3a68eb14a5),
      (domainData 0x52878b207aaddbfc15ea7bebcda681eb8ccd306e2227b61cef68505c8c056341
          0xc89efdaa54c0f20c7adf612882df0950f5a951637e0307cdcb4c672f298b8bc6,
        0xc947d9311a3c0da78d9b4590aac2ec8314b8527a10e9bb69addc0b3c2ea8a4d1),
      (domainData 0x52878b207aaddbfc15ea7bebcda681eb8ccd306e2227b61cef68505c8c056341
          0xad7c5bef027816a800da1736444fb58a807ef4c9603b7848673f7e3a68eb14a5,
        0x8cd54ce2642b72373b5ab35906a31a446c36ea395309bda822b67b820829ad3e),
      (domainData 0xd6aca1be9729c13d677335161321649cccae6a591554772516700f986f942eaa
          0xc89efdaa54c0f20c7adf612882df0950f5a951637e0307cdcb4c672f298b8bc6,
        0xbf1dae826cb1cb0f51534efae250f972a1e27460389247f39d5a461a5a5ccc2d),
      (domainData 0xd6aca1be9729c13d677335161321649cccae6a591554772516700f986f942eaa
          0xad7c5bef027816a800da1736444fb58a807ef4c9603b7848673f7e3a68eb14a5,
        0xfe2318cd25e352802f481dd3a9d7261752fcd848febabba7295b4d06be330455)]

@[reducible]
def cryptography : Cryptography := ⟨fun data => (hashes.lookup data).getD 0, fun _ _ _ _ => 0⟩

def chain : Node.Chain where
  chainId := 31337
  blocks := [⟨0x10, 5, [], Recaptured.state [0x60, 0x00]⟩]
  transactions_nodup := by decide
  positions_nodup := by decide

/-- What the token answers by itself: `decimals()` and `DOMAIN_SEPARATOR()`. -/
def views : List (Str × Word) :=
  [("0x313ce567".toList, 6),
    ("0x3644e515".toList, 0xfe2318cd25e352802f481dd3a9d7261752fcd848febabba7295b4d06be330455)]

def view (method : String) (params : List Value) : Option Word :=
  if method = "eth_call" then views.lookup (Recaptured.payloadOf params) else none

def answering : World := fun said question =>
  match question with
  | .rpc method params =>
      match view method params with
      | some word => (.ok (.str (hexWord word.toNat)) : Except String Value)
      | none => (serve chain method params : Except String Value)
  | .sign transaction => served chain said (.sign transaction)
  | .clock => served chain said .clock
  | .now => served chain said .now
  | .tokenHex bytes => served chain said (.tokenHex bytes)

def captured : Capture where
  chainId := 31337
  blockNumber := 0
  blockHash := hexWord 0x10
  tokenAddress := hexAddress 0xc0
  codeSha256 := Recaptured.sha
  reportedName := none
  reportedVersion := none
  decimals := 6
  domainSeparator := some (hexWord
    0xfe2318cd25e352802f481dd3a9d7261752fcd848febabba7295b4d06be330455)
  domainSolution := some ("USDC".toList, "2".toList)
  eip3009StateReadable := true
  implementationAddress := none
  implementationCodeSha256 := none
  notes := []

theorem returns_capture : letI := Recaptured.interpreter; letI := cryptography
    ∃ said, Returns answering (Capture.capture (hexAddress 0xc0) 31337 FinalityTag.latest.text
      none) () [] captured () said := by
  let := Recaptured.interpreter
  let := cryptography
  apply Recaptured.returns_of_result
  decide +kernel

theorem digest_of_captured_mock : letI := Recaptured.interpreter; letI := cryptography
    ∃ said text, Returns answering (Capture.capture (hexAddress 0xc0) 31337
        FinalityTag.latest.text none) () [] captured () said ∧
      callSaid (hexAddress 0xc0) "0x3644e515".toList 0 text ∈ said ∧
      ∀ authorization,
        eip712 "USDC" "2" 31337 0xc0 authorization = digestUnder (readWord text) authorization ∧
        ∀ message, domainSeparator message = readWord text →
          eip712 "USDC" "2" 31337 0xc0 authorization =
            authorizationDigest message authorization := by
  let := Recaptured.interpreter
  let := cryptography
  rcases returns_capture with ⟨said, returned⟩
  have whole : Returns answering (Capture.capture (hexAddress 0xc0) 31337
      FinalityTag.latest.text none) () [] captured () ([] ++ said) := returned
  have selected : '0' :: 'x' :: Capture.selector "DOMAIN_SEPARATOR()" = "0x3644e515".toList := by
    decide +kernel
  have contract : readAddress (hexAddress 0xc0) = 0xc0 := by
    decide +kernel
  rcases digest_of_captured whole rfl (by decide) with ⟨text, _, asked, digest⟩
  rw [selected] at asked
  rw [contract] at digest
  exact ⟨said, text, returned, asked, digest⟩

end Deployed

end Onchain

end Psv
