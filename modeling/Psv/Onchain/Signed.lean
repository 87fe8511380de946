import Psv.Onchain.Invariant
import Psv.Payloads
import Psv.Sut.Submission
import Psv.Sut.Wire

/-!
# From a signature to a settlement

An authorization is hashed three times, by three programs: by its signer, by whoever
recovers the signer before anything is sent, and by the token.  Where `eth_account`
keeps to its documentation (`Conforms`) the three agree.  What the reference service
encodes of the wire fields then executes exactly when the token has the funds, the
window is open, the nonce is unused, and the check before sending would have passed
(`executes_iff_binds`); and what `sign_authorization` signs passes that check
(`signed_settles`).
-/

namespace Psv

open Python Interaction Program Node TokenView Payloads

namespace Onchain

section

variable [Cryptography]

/-- The EIP-712 hash of an authorization under a domain of this name and version. -/
def eip712 (name version : String) (chainId : Word) (contract : Address)
    (authorization : Authorization) : Word :=
  Cryptography.keccak256 ([0x19, 0x01] ++ abiEncode
    [Cryptography.keccak256 (abiEncode [Cryptography.keccak256 (asciiBytes domainTypeText),
      Cryptography.keccak256 (asciiBytes name), Cryptography.keccak256 (asciiBytes version),
      chainId, contract.setWidth 256]),
    Cryptography.keccak256 (abiEncode [Cryptography.keccak256 (asciiBytes transferTypeText),
      authorization.fromAddr.setWidth 256, authorization.toAddr.setWidth 256, authorization.value,
      authorization.validAfter, authorization.validBefore, authorization.nonce])])

theorem eip712_mock (message : Message) (authorization : Authorization) :
    eip712 "USDC" "2" message.chainId message.contract authorization =
      authorizationDigest message authorization :=
  rfl

/-- A signature of the only form that the token accepts. -/
structure Canonical (signature : List UInt8) : Prop where
  length : signature.length = 65
  v : signature.getD 64 0 = 27 ∨ signature.getD 64 0 = 28
  s : calldataload signature 32 ≤ secp256k1nDiv2

/-- The address that a signature of this form leads back to. -/
def signerOf (digest : Word) (signature : List UInt8) : Address :=
  Cryptography.ecrecover digest (signature.getD 64 0) (calldataload signature 0)
    (calldataload signature 32)

theorem recover_eq_ok_iff {digest : Word} {signature : List UInt8} {signer : Address} :
    recover digest signature = .ok signer ↔
      Canonical signature ∧ signer = signerOf digest signature := by
  simp only [recover, Checks.bind_eq_ok_iff, require_eq_ok_iff, exists_const]
  constructor
  · rintro ⟨length, v, s, same⟩
    cases same
    exact ⟨⟨length, v, s⟩, rfl⟩
  · rintro ⟨canonical, rfl⟩
    exact ⟨canonical.length, canonical.v, canonical.s, rfl⟩

theorem checkAuthorization_eq_ok_iff {message : Message} {state : State}
    {authorization : Authorization} :
    checkAuthorization message state authorization = .ok () ↔
      authorization.fromAddr ≠ 0 ∧ authorization.toAddr ≠ 0 ∧
        authorization.validAfter < message.timestamp ∧
        message.timestamp < authorization.validBefore ∧
        state.authorizationState authorization.fromAddr authorization.nonce = false ∧
        Canonical authorization.signature ∧
        signerOf (authorizationDigest message authorization) authorization.signature =
          authorization.fromAddr := by
  simp only [checkAuthorization, Checks.bind_eq_ok_iff, require_eq_ok_iff, exists_const,
    recover_eq_ok_iff]
  constructor
  · rintro ⟨payer, payee, after, before, unused, signer, ⟨canonical, rfl⟩, nonzero, same⟩
    exact ⟨payer, payee, after, before, unused, canonical, same⟩
  · rintro ⟨payer, payee, after, before, unused, canonical, same⟩
    exact ⟨payer, payee, after, before, unused, _, ⟨canonical, rfl⟩, same ▸ payer, same⟩

end

/-! ### Transfers that go through -/

section Transfers

variable {state : State} {authorization : Authorization}

/-- What a transfer asks of the state: funds, and a fee that can be computed. -/
structure Covered (state : State) (authorization : Authorization) : Prop where
  funds : authorization.value ≤ state.balanceOf authorization.fromAddr
  product : authorization.value.toNat * state.feeBps.toNat < 2 ^ 256

theorem feeOf_eq_ok_iff {value : Word} :
    (∃ fee, feeOf state value = .ok fee) ↔ value.toNat * state.feeBps.toNat < 2 ^ 256 := by
  have width : (state.feeBps.setWidth 256).toNat = state.feeBps.toNat :=
    BitVec.toNat_setWidth_of_le (by decide)
  rw [feeOf, checkedMul, width]
  split_ifs with fits
  · exact iff_of_true ⟨_, rfl⟩ fits
  · refine iff_of_false ?_ fits
    rintro ⟨_, impossible⟩
    cases impossible

theorem exists_add {who : Address} {amount : Word}
    (small : state.balances who + amount.toNat < 2 ^ 256) :
    ∃ after, state.add who amount = .ok after := by
  have fits : (state.balanceOf who).toNat + amount.toNat < 2 ^ 256 := small
  rw [State.add, checkedAdd, if_pos fits]
  exact ⟨_, rfl⟩

theorem exists_sub {who : Address} {amount : Word} (funds : amount ≤ state.balanceOf who) :
    ∃ after, state.sub who amount = .ok after := by
  rw [State.sub, checkedSub, if_pos (BitVec.le_def.mp funds)]
  exact ⟨_, rfl⟩

/-- Funds that are there can be moved. -/
theorem exists_moveFunds (sound : Sound state) (covered : Covered state authorization) :
    ∃ after, moveFunds state authorization = .ok after := by
  have small := sound.small
  rcases feeOf_eq_ok_iff.mpr covered.product with ⟨fee, isFee⟩
  rcases exists_sub covered.funds with ⟨debited, isDebited⟩
  have paid := (sub_ok isDebited).1.total_eq
  have capped := feeAmount_le sound.fee authorization.value
  have feeEq := feeOf_ok isFee
  have net : checkedSub authorization.value fee = .ok (authorization.value - fee) := by
    rw [checkedSub, if_pos (by omega)]
  have netEq := checkedSub_eq_ok_iff.mp net
  have share := Balances.le_total debited.balances authorization.toAddr
  have room : debited.balances authorization.toAddr + (authorization.value - fee).toNat <
      2 ^ 256 := by
    omega
  rcases exists_add room with ⟨credited, isCredited⟩
  have received := (add_ok isCredited).1.total_eq
  simp only [moveFunds, isFee, isDebited, net, isCredited, Checks.ok_bind]
  split_ifs with positive
  · have rest := Balances.le_total credited.balances credited.admin
    exact exists_add (by omega)
  · exact ⟨_, rfl⟩

variable [Cryptography] {message : Message}

/-- A transfer goes through when it is authorized and covered. -/
theorem transfer_iff (sound : Sound state) :
    (∃ after events, execute message state (.transferWithAuthorization authorization) =
        .ok (after, events)) ↔
      checkAuthorization message state authorization = .ok () ∧ Covered state authorization := by
  constructor
  · rintro ⟨after, events, done⟩
    rcases transfer_ok done with ⟨checked, _, _, funds, moved, _⟩
    rcases moveFunds_steps moved with ⟨_, _, fee, _, isFee, _⟩
    exact ⟨checked, funds, feeOf_eq_ok_iff.mp ⟨fee, isFee⟩⟩
  · rintro ⟨checked, covered⟩
    have marked : Sound (state.markUsed authorization.fromAddr authorization.nonce) :=
      ⟨sound.sum, sound.fee, sound.mode⟩
    rcases exists_moveFunds marked ⟨covered.funds, covered.product⟩ with ⟨after, moved⟩
    refine ⟨after, transferEvents after authorization, ?_⟩
    have funds : require (authorization.value ≤ (state.markUsed authorization.fromAddr
        authorization.nonce).balanceOf authorization.fromAddr) "insufficient balance" = .ok () :=
      require_eq_ok_iff.mpr covered.funds
    simp only [execute, transferWithAuthorization, checked, funds, moved, Checks.ok_bind]
    rfl

/-- What is settled is never settled again, whoever signs. -/
theorem reverts_later {authorization again : Authorization} {after : State} {events : List Event}
    (done : execute message state (.transferWithAuthorization authorization) = .ok (after, events))
    (samePayer : again.fromAddr = authorization.fromAddr)
    (sameNonce : again.nonce = authorization.nonce) (calls : List (Message × Call))
    (around : Message) :
    ∃ reason, execute around (run after calls) (.transferWithAuthorization again) =
      .error reason := by
  have used : after.authorizationState authorization.fromAddr authorization.nonce = true := by
    rw [(transfer_ok done).2.2.1]
    exact markUsed_used _ _ _
  have still := run_used after calls used
  cases result : execute around (run after calls) (.transferWithAuthorization again) with
  | error reason => exact ⟨reason, rfl⟩
  | ok pair =>
    have unused := (transfer_ok result).2.1
    rw [samePayer, sameNonce, still] at unused
    cases unused

end Transfers

/-! ### The library -/

/-- The typed data of an authorization. -/
structure Denotes (typed : TypedMessage) (authorization : Authorization) : Prop where
  fromAddr : IsHexText typed.fromAddr 40 authorization.fromAddr.toNat
  toAddr : IsHexText typed.toAddr 40 authorization.toAddr.toNat
  value : typed.value = authorization.value.toNat
  validAfter : typed.validAfter = authorization.validAfter.toNat
  validBefore : typed.validBefore = authorization.validBefore.toNat
  nonce : typed.nonce = wordData authorization.nonce

/-- The domain of a deployment. -/
structure IsDomain (domain : TypedDomain) (name version : String) (chainId : Word)
    (contract : Address) : Prop where
  name : domain.name = name.toList
  version : domain.version = version.toList
  chainId : domain.chainId = chainId.toNat
  contract : IsHexText (.str domain.verifyingContract) 40 contract.toNat

/-- The addresses are texts that the encoder takes. -/
structure Spelled (isAddress : Str → Bool) (domain : TypedDomain) (fromAddr toAddr : Value) :
    Prop where
  contract : isAddress domain.verifyingContract = true
  fromAddr : ∃ text, fromAddr = .str text ∧ isAddress text = true
  toAddr : ∃ text, toAddr = .str text ∧ isAddress text = true

/-- `eth_account` as it is documented: it encodes typed data by EIP-712 when `is_address` accepts
the addresses, signs in canonical form, and recovers what the machine recovers. -/
structure Conforms [Cryptography] [EthAccount] (isAddress : Str → Bool)
    (accountOf : EthAccount.LocalAccount → Address) : Prop where
  address : ∀ signer, IsHexText (.str (EthAccount.address signer)) 40 (accountOf signer).toNat ∧
    isAddress (EthAccount.address signer) = true
  nonzero : ∀ signer, accountOf signer ≠ 0
  typedHash : ∀ {domain typed authorization chainId contract} (name version : String),
    (∀ c ∈ name.toList ++ version.toList, c.toNat < 128) →
    IsDomain domain name version chainId contract → Denotes typed authorization →
    Spelled isAddress domain typed.fromAddr typed.toAddr →
    EthAccount.typedHash domain typed = .ok (eip712 name version chainId contract authorization)
  canonical : ∀ signer digest, Canonical (EthAccount.sign signer digest)
  signs : ∀ signer digest, signerOf digest (EthAccount.sign signer digest) = accountOf signer
  recovers : ∀ {digest signature text}, Canonical signature →
    IsHexText (.str text) 130 (bytesVal signature) → signerOf digest signature ≠ 0 →
    ∃ address, EthAccount.recoverMessage digest (.str text) = .ok address ∧
      IsHexText (.str address) 40 (signerOf digest signature).toNat
  refuses : ∀ {digest signature text}, Canonical signature →
    IsHexText (.str text) 130 (bytesVal signature) → signerOf digest signature = 0 →
    ∃ error, EthAccount.recoverMessage digest (.str text) = .error error

/-! ### Wire fields -/

section Fields

variable [Interpreter] {fields : Fields} {calldata : Str} {isAddress : Str → Bool}

/-- The addresses and the signature are texts, the addresses such as the encoder takes. -/
structure WireTexts (isAddress : Str → Bool) (fields : Fields) : Prop where
  fromAddr : ∃ text, ReferenceSut.item fields "from" = .ok (.str text) ∧ isAddress text = true
  toAddr : ∃ text, ReferenceSut.item fields "to" = .ok (.str text) ∧ isAddress text = true
  signature : ∃ text, ReferenceSut.item fields "signature" = .ok (.str text)

/-- The service and the signer read the same authorization in the fields. -/
structure ReadAlike (fields : Fields) (typed : TypedMessage) (encoded : Authorization) : Prop where
  isMessage : message fields = .ok typed
  denotes : Denotes typed encoded
  claimed : ∃ text, ReferenceSut.textItem fields "from" = .ok text ∧ typed.fromAddr = .str text
  signature : ∃ text, ReferenceSut.item fields "signature" = .ok (.str text) ∧
    IsHexText (.str text) 130 (bytesVal encoded.signature)
  payable : Payable encoded

theorem textItem_of_item {name : String} {text : Str}
    (is : ReferenceSut.item fields name = .ok (.str text)) :
    ReferenceSut.textItem fields name = .ok text := by
  rw [ReferenceSut.textItem, is]
  rfl

omit [Interpreter] in
theorem fromHex_word {text : Str} {word : Word} (denotes : IsHexText (.str text) 64 word.toNat) :
    fromHex (removePrefix0x text) = some (wordData word) := by
  rcases denotes with ⟨_, ⟨⟩, shape, value⟩
  rw [ReferenceSut.removePrefix0x_exact shape]
  rcases isExactHex_iff.mp shape with ⟨digits, rfl, long, all⟩
  apply fromHex_of_map_toLower_eq all
  rw [map_toLower_eq_hexPad all, long, wordData, bytesHex_bytesOf]
  exact congrArg (hexPad 64) value

theorem message_of_items {payer payee nonceText : Str} {value validAfter validBefore : ℤ}
    {nonce : Word} (isFrom : ReferenceSut.item fields "from" = .ok (.str payer))
    (isTo : ReferenceSut.item fields "to" = .ok (.str payee))
    (isValue : ReferenceSut.intItem fields "value" = .ok value)
    (isAfter : ReferenceSut.intItem fields "validAfter" = .ok validAfter)
    (isBefore : ReferenceSut.intItem fields "validBefore" = .ok validBefore)
    (isNonce : ReferenceSut.textItem fields "nonce" = .ok nonceText)
    (denotes : IsHexText (.str nonceText) 64 nonce.toNat) :
    message fields =
      .ok ⟨.str payer, .str payee, value, validAfter, validBefore, wordData nonce⟩ := by
  simp only [message, isFrom, isTo, isValue, isAfter, isBefore, isNonce, fromHex_word denotes,
    Checks.ok_bind]
  rfl

/-- What the service encodes is what a signer hashes. -/
theorem readAlike_of_calldataOf (texts : WireTexts isAddress fields)
    (built : ReferenceSut.calldataOf fields = .ok calldata) :
    ∃ typed encoded, calldata = hexData (encodeCalldata encoded) ∧
      decodeCalldata (encodeCalldata encoded) = some encoded ∧ ReadAlike fields typed encoded ∧
      (∃ text, typed.fromAddr = .str text ∧ isAddress text = true) ∧
      ∃ text, typed.toAddr = .str text ∧ isAddress text = true := by
  simp only [ReferenceSut.calldataOf, Checks.bind_eq_ok_iff] at built
  rcases built with ⟨fromText, isFrom, toText, isTo, value, isValue, validAfter, isAfter,
    validBefore, isBefore, nonce, isNonce, signature, isSignature, settles⟩
  rcases (acceptable_of_settleCalldata settles).denotes with ⟨encoded, denotes, payable⟩
  rw [settleCalldata_of_denotes denotes payable] at settles
  rcases texts.fromAddr with ⟨payer, payerItem, isPayer⟩
  rcases texts.toAddr with ⟨payee, payeeItem, isPayee⟩
  rcases texts.signature with ⟨signatureText, signatureItem⟩
  cases isFrom.symm.trans (textItem_of_item payerItem)
  cases isTo.symm.trans (textItem_of_item payeeItem)
  cases isSignature.symm.trans (textItem_of_item signatureItem)
  refine ⟨⟨.str fromText, .str toText, value, validAfter, validBefore, wordData encoded.nonce⟩,
    encoded, (Except.ok.inj settles).symm, decode_encodeCalldata encoded denotes.long, ?_,
    ⟨_, rfl, isPayer⟩, ⟨_, rfl, isPayee⟩⟩
  constructor
  · exact message_of_items payerItem payeeItem isValue isAfter isBefore isNonce denotes.nonce
  · exact ⟨denotes.fromAddr, denotes.toAddr, Value.int.inj denotes.value,
      Value.int.inj denotes.validAfter, Value.int.inj denotes.validBefore, rfl⟩
  · exact ⟨_, isFrom, rfl⟩
  · exact ⟨_, signatureItem, denotes.signature⟩
  · exact payable

theorem lower_address {text : Str} {address : Address}
    (denotes : IsHexText (.str text) 40 address.toNat) :
    lower text = '0' :: 'x' :: hexPad 40 address.toNat := by
  rcases denotes with ⟨_, ⟨⟩, shape, value⟩
  rw [lower_eq_hexPad shape, value]

omit [Interpreter] in
theorem hexPad_address_inj {left right : Address}
    (same : hexPad 40 left.toNat = hexPad 40 right.toNat) : left = right := by
  have small : ∀ address : Address, address.toNat < 16 ^ 40 :=
    fun address => lt_of_lt_of_eq address.isLt (by norm_num)
  exact BitVec.eq_of_toNat_eq (hexPad_injOn (small left) (small right) same)

variable [Cryptography] [EthAccount] {accountOf : EthAccount.LocalAccount → Address}
  {typed : TypedMessage} {encoded : Authorization} {domain : TypedDomain} {chainId : Word}
  {contract : Address}

omit [Interpreter] in
/-- The hash before sending is the hash on the chain. -/
theorem Conforms.digest (conforms : Conforms isAddress accountOf)
    (isDomain : IsDomain domain "USDC" "2" chainId contract) (denotes : Denotes typed encoded)
    (spelled : Spelled isAddress domain typed.fromAddr typed.toAddr) :
    EthAccount.typedHash domain typed = .ok (eip712 "USDC" "2" chainId contract encoded) :=
  conforms.typedHash _ _ (by decide) isDomain denotes spelled

/-- An authorization in canonical form binds to a domain when the hash leads back to its payer. -/
theorem Conforms.binds_iff (conforms : Conforms isAddress accountOf)
    (isDomain : IsDomain domain "USDC" "2" chainId contract)
    (spelled : Spelled isAddress domain typed.fromAddr typed.toAddr)
    (alike : ReadAlike fields typed encoded) (canonical : Canonical encoded.signature) :
    authorizationBindsToChain fields domain = .ok true ↔
      signerOf (eip712 "USDC" "2" chainId contract encoded) encoded.signature =
        encoded.fromAddr := by
  rcases alike.signature with ⟨signature, signatureItem, isSignature⟩
  rcases alike.claimed with ⟨claimed, claimedItem, isClaimed⟩
  have isPayer : IsHexText (.str claimed) 40 encoded.fromAddr.toNat :=
    isClaimed ▸ alike.denotes.fromAddr
  have nonzero : encoded.fromAddr ≠ 0 := by
    intro zero
    exact alike.payable.fromAddr (by rw [zero]; rfl)
  have recovering : recoveredSigner fields domain = EthAccount.recoverMessage
      (eip712 "USDC" "2" chainId contract encoded) (.str signature) := by
    simp only [recoveredSigner, alike.isMessage, conforms.digest isDomain alike.denotes spelled,
      signatureItem, Checks.ok_bind]
  rw [authorizationBindsToChain, recovering]
  by_cases noSigner : signerOf (eip712 "USDC" "2" chainId contract encoded) encoded.signature = 0
  · rcases conforms.refuses canonical isSignature noSigner with ⟨error, refused⟩
    rw [refused, noSigner]
    constructor
    · intro impossible
      cases impossible
    · intro zero
      exact absurd zero.symm nonzero
  · rcases conforms.recovers canonical isSignature noSigner with ⟨recovered, isOk, isSigner⟩
    rw [isOk]
    dsimp only
    rw [claimedItem, Checks.ok_bind, lower_address isSigner, lower_address isPayer]
    constructor
    · intro same
      have texts := of_decide_eq_true (Except.ok.inj same)
      simp only [List.cons.injEq, true_and] at texts
      exact hexPad_address_inj texts
    · intro same
      rw [same]
      exact congrArg Except.ok (decide_eq_true rfl)

end Fields

/-! ### Settlement -/

section Settlement

variable [Interpreter] [Cryptography] [EthAccount] {isAddress : Str → Bool}
  {accountOf : EthAccount.LocalAccount → Address} {fields : Fields} {calldata : Str}
  {typed : TypedMessage} {encoded : Authorization} {domain : TypedDomain} {chainId : Word}
  {contract : Address}

/-- The window of an authorization is open, and it was not used. -/
structure Timely (state : State) (timestamp : Word) (authorization : Authorization) : Prop where
  after : authorization.validAfter < timestamp
  before : timestamp < authorization.validBefore
  unused : state.authorizationState authorization.fromAddr authorization.nonce = false

theorem executes_of_alike (conforms : Conforms isAddress accountOf)
    (isDomain : IsDomain domain "USDC" "2" chainId contract)
    (spelled : Spelled isAddress domain typed.fromAddr typed.toAddr)
    (alike : ReadAlike fields typed encoded) {state : State} (sound : Sound state)
    (sender : Address) (timestamp : Word) :
    (∃ after events, execute ⟨sender, timestamp, chainId, contract⟩ state
        (.transferWithAuthorization encoded) = .ok (after, events)) ↔
      Timely state timestamp encoded ∧ Covered state encoded ∧ Canonical encoded.signature ∧
        authorizationBindsToChain fields domain = .ok true := by
  have payer : encoded.fromAddr ≠ 0 := by
    intro zero
    exact alike.payable.fromAddr (by rw [zero]; rfl)
  have payee : encoded.toAddr ≠ 0 := by
    intro zero
    exact alike.payable.toAddr (by rw [zero]; rfl)
  rw [transfer_iff sound, checkAuthorization_eq_ok_iff, ← eip712_mock]
  constructor
  · rintro ⟨⟨_, _, after, before, unused, canonical, signer⟩, covered⟩
    exact ⟨⟨after, before, unused⟩, covered, canonical,
      (conforms.binds_iff isDomain spelled alike canonical).mpr signer⟩
  · rintro ⟨timely, covered, canonical, binds⟩
    exact ⟨⟨payer, payee, timely.after, timely.before, timely.unused, canonical,
      (conforms.binds_iff isDomain spelled alike canonical).mp binds⟩, covered⟩

/-- What the service encodes of the fields that it got executes on the token of the domain, in any
state that was ever reached, exactly when it is timely, covered and signed in canonical form, and
the check before sending passes. -/
theorem executes_iff_binds (conforms : Conforms isAddress accountOf)
    (isDomain : IsDomain domain "USDC" "2" chainId contract)
    (isContract : isAddress domain.verifyingContract = true)
    (texts : WireTexts isAddress fields)
    (built : ReferenceSut.calldataOf fields = .ok calldata) :
    ∃ encoded, calldata = hexData (encodeCalldata encoded) ∧
      decodeCalldata (encodeCalldata encoded) = some encoded ∧
      eip712Digest fields domain = .ok (eip712 "USDC" "2" chainId contract encoded) ∧
      ∀ (deployer : Address) (calls : List (Message × Call)) (sender : Address)
        (timestamp : Word), (∃ after events, execute ⟨sender, timestamp, chainId, contract⟩
            (run (deployed deployer) calls) (.transferWithAuthorization encoded) =
              .ok (after, events)) ↔
          Timely (run (deployed deployer) calls) timestamp encoded ∧
            Covered (run (deployed deployer) calls) encoded ∧ Canonical encoded.signature ∧
            authorizationBindsToChain fields domain = .ok true := by
  rcases readAlike_of_calldataOf texts built with
    ⟨typed, encoded, isCalldata, decoded, alike, isPayer, isPayee⟩
  have spelled : Spelled isAddress domain typed.fromAddr typed.toAddr :=
    ⟨isContract, isPayer, isPayee⟩
  refine ⟨encoded, isCalldata, decoded, ?_, ?_⟩
  · rw [eip712Digest, alike.isMessage, Checks.ok_bind]
    exact conforms.digest isDomain alike.denotes spelled
  · intro deployer calls sender timestamp
    exact executes_of_alike conforms isDomain spelled alike (run_sound deployer calls) sender
      timestamp

end Settlement

/-! ### What is signed -/

section Numerals

variable [Interpreter]

theorem textOf_word (word : Word) :
    ReferenceSut.textOf (.int word.toNat) = .ok (Nat.toDigits 10 word.toNat) := by
  have small : word.toNat < 10 ^ maxStrDigits := by
    calc word.toNat < 2 ^ 256 := word.isLt
      _ < 10 ^ 78 := by norm_num
      _ ≤ 10 ^ maxStrDigits := Nat.pow_le_pow_right (by norm_num) (by decide)
  have written : pyStr (.int word.toNat) = some (Nat.toDigits 10 word.toNat) := by
    rw [pyStr, intStr, Int.natAbs_natCast, if_pos small, decDigits, Int.natAbs_natCast,
      if_neg (by omega)]
  rw [ReferenceSut.textOf, written]
  rfl

theorem intOf_word (word : Word) :
    ReferenceSut.intOf (.str (Nat.toDigits 10 word.toNat)) = .ok (word.toNat : ℤ) := by
  have numeral : isNumeral (Nat.toDigits 10 word.toNat) = true := by
    rcases Nat.eq_zero_or_pos word.toNat with zero | positive
    · rw [zero]
      rfl
    · have canonical := isNumeral_toDigits positive
      rw [isPositiveNumeral, Bool.and_eq_true] at canonical
      exact canonical.1
  have value : Decimal.digitsVal (Nat.toDigits 10 word.toNat) = word.toNat :=
    Decimal.digitsVal_toDigits _
  have short := length_of_digitsVal_lt numeral (by rw [value]; exact word.isLt)
  rcases digits_of_isNumeral numeral with ⟨nonempty, all⟩
  rw [ReferenceSut.intOf, int10_digits nonempty all, if_pos short, value]
  rfl

theorem intItem_word {fields : Fields} {name : String} {word : Word}
    (is : ReferenceSut.item fields name = .ok (.str (Nat.toDigits 10 word.toNat))) :
    ReferenceSut.intItem fields name = .ok (word.toNat : ℤ) := by
  rw [ReferenceSut.intItem, is]
  exact intOf_word word

end Numerals

section Signing

variable [Interpreter] [Cryptography] [EthAccount] {isAddress : Str → Bool}
  {accountOf : EthAccount.LocalAccount → Address} {terms : Terms} {chainId : Word}
  {contract payee : Address} {value validAfter validBefore : Word} {σ : Type}

/-- The terms of a payment on the token of a domain. -/
structure Signable (isAddress : Str → Bool) (terms : Terms) (chainId : Word)
    (contract payee : Address) (value validAfter validBefore : Word) : Prop where
  domain : IsDomain terms.domain "USDC" "2" chainId contract
  isContract : isAddress terms.tokenAddress = true
  toAddr : IsHexText (.str terms.toAddr) 40 payee.toNat
  isPayee : isAddress terms.toAddr = true
  amount : terms.value = value.toNat
  opens : terms.validAfter = validAfter.toNat
  closes : terms.validBefore = validBefore.toNat
  nonce : ∀ given ∈ terms.nonce, isExactHex 64 given = true
  payee_ne_zero : payee ≠ 0
  value_ne_zero : value ≠ 0
  ordered : validAfter < validBefore

omit [Interpreter] [Cryptography] [EthAccount] in
theorem exists_nonce (given : Option Str) (shape : ∀ nonce ∈ given, isExactHex 64 nonce = true)
    {world : World} (drawn : ∀ said : Conversation, isExactHex 64
      ('0' :: 'x' :: (show String from world said (.tokenHex 32)).toList) = true)
    (state : σ) (history : Conversation) :
    ∃ nonce said, Follows world history said ∧
      (nonceOr given).Replays state said (.ok nonce) state ∧ isExactHex 64 nonce = true ∧
      ∀ asked ∈ given, nonce = asked := by
  cases given with
  | some nonce =>
    refine ⟨nonce, [], trivial, ⟨rfl, rfl, rfl⟩, shape nonce rfl, ?_⟩
    rintro _ ⟨⟩
    rfl
  | none =>
    refine ⟨_, [⟨Ask.tokenHex 32, world history (.tokenHex 32)⟩], ⟨rfl, trivial⟩,
      replays_question_bind_iff.mpr ⟨_, [], rfl, rfl, rfl, rfl⟩, drawn history, ?_⟩
    rintro _ ⟨⟩

omit [Cryptography] [EthAccount] in
/-- The wire fields of a signed authorization. -/
theorem asDict_word (fromAddr toAddr nonce signature : Str) (value validAfter validBefore : Word) :
    Payloads.Authorization.asDict ⟨fromAddr, toAddr, value.toNat, validAfter.toNat,
      validBefore.toNat, nonce, signature⟩ =
      .ok [(.str "from", .str fromAddr), (.str "to", .str toAddr),
        (.str "value", .str (Nat.toDigits 10 value.toNat)),
        (.str "validAfter", .str (Nat.toDigits 10 validAfter.toNat)),
        (.str "validBefore", .str (Nat.toDigits 10 validBefore.toNat)),
        (.str "nonce", .str nonce), (.str "signature", .str signature)] := by
  simp only [Payloads.Authorization.asDict, textOf_word, Checks.ok_bind]
  rfl

omit [Interpreter] [Cryptography] [EthAccount] in
theorem toNat_ne_zero {width : ℕ} {number : BitVec width} (nonzero : number ≠ 0) :
    number.toNat ≠ 0 := by
  intro zero
  apply nonzero
  apply BitVec.eq_of_toNat_eq
  simpa using zero

omit [Interpreter] [Cryptography] [EthAccount] in
theorem isHexText_hexData {data : List UInt8} (long : data.length = 65) :
    IsHexText (.str (hexData data)) 130 (bytesVal data) := by
  have width : bytesHex data = hexPad 130 (bytesVal data) := by
    rw [bytesHex_eq_hexPad, long]
  have small : bytesVal data < 16 ^ 130 := by
    have bound : bytesVal (bytesOf 65 (bytesVal data)) = bytesVal data := by
      rw [← long, bytesOf_bytesVal]
    rw [bytesVal_bytesOf] at bound
    have least := Nat.mod_lt (bytesVal data) (show 0 < 256 ^ 65 by norm_num)
    calc bytesVal data = bytesVal data % 256 ^ 65 := bound.symm
      _ < 256 ^ 65 := least
      _ = 16 ^ 130 := by norm_num
  refine ⟨_, rfl, ?_, ?_⟩
  · rw [hexData, width]
    exact isExactHex_hexPad 130 _
  · change hexVal (bytesHex data) = bytesVal data
    rw [width, hexVal_hexPad_of_lt small]

/-- Signing succeeds, whatever the world is like, with a signature of the hash that the token
computes. -/
theorem signAuthorization_replays (conforms : Conforms isAddress accountOf)
    (signable : Signable isAddress terms chainId contract payee value validAfter validBefore)
    (signer : EthAccount.LocalAccount) {nonceText : Str} {nonce : Word}
    (isNonce : IsHexText (.str nonceText) 64 nonce.toNat) {state : σ} {said : Conversation}
    (drawing : (nonceOr terms.nonce).Replays state said (.ok nonceText) state) :
    (signAuthorization signer terms).Replays state said (.ok ⟨EthAccount.address signer,
      terms.toAddr, value.toNat, validAfter.toNat, validBefore.toNat, nonceText,
      hexData (EthAccount.sign signer (eip712 "USDC" "2" chainId contract
        ⟨accountOf signer, payee, value, validAfter, validBefore, nonce, []⟩))⟩) state := by
  have hashed : ∀ typed, Denotes typed
      ⟨accountOf signer, payee, value, validAfter, validBefore, nonce, []⟩ →
      typed.fromAddr = .str (EthAccount.address signer) → typed.toAddr = .str terms.toAddr →
      EthAccount.typedHash terms.domain typed = .ok (eip712 "USDC" "2" chainId contract
        ⟨accountOf signer, payee, value, validAfter, validBefore, nonce, []⟩) :=
    fun typed denotes payer receiver => conforms.digest signable.domain denotes
      ⟨signable.isContract, ⟨_, payer, (conforms.address signer).2⟩,
        ⟨_, receiver, signable.isPayee⟩⟩
  rw [signAuthorization, signable.amount, signable.opens, signable.closes]
  refine replays_bind_ok_iff.mpr ⟨nonceText, state, said, [], (List.append_nil _).symm, drawing, ?_⟩
  simp only [textOf_word, lift_ok_bind]
  refine replays_lift_bind_ok_iff.mpr ⟨_, message_of_items rfl rfl
    (intItem_word rfl) (intItem_word rfl) (intItem_word rfl) (textItem_of_item rfl) isNonce, ?_⟩
  refine replays_lift_bind_ok_iff.mpr ⟨_, hashed _ ⟨(conforms.address signer).1, signable.toAddr,
    rfl, rfl, rfl, rfl⟩ rfl rfl, ?_⟩
  exact ⟨rfl, rfl, rfl⟩

omit [Cryptography] [EthAccount] in
/-- The wire fields are read as what was signed. -/
theorem readAlike_signed {fromText toText nonceText signatureText : Str}
    {encoded : Authorization} (payable : Payable encoded) (long : encoded.signature.length = 65)
    (isFrom : IsHexText (.str fromText) 40 encoded.fromAddr.toNat)
    (isTo : IsHexText (.str toText) 40 encoded.toAddr.toNat)
    (isNonce : IsHexText (.str nonceText) 64 encoded.nonce.toNat)
    (isSignature : IsHexText (.str signatureText) 130 (bytesVal encoded.signature))
    {fields : Fields} (isDict : Payloads.Authorization.asDict ⟨fromText, toText,
      encoded.value.toNat, encoded.validAfter.toNat, encoded.validBefore.toNat, nonceText,
      signatureText⟩ = .ok fields) :
    ReferenceSut.calldataOf fields = .ok (hexData (encodeCalldata encoded)) ∧
      ReadAlike fields ⟨.str fromText, .str toText, encoded.value.toNat, encoded.validAfter.toNat,
        encoded.validBefore.toNat, wordData encoded.nonce⟩ encoded := by
  rw [asDict_word] at isDict
  cases isDict
  constructor
  · rw [ReferenceSut.calldataOf, textItem_of_item rfl, textItem_of_item rfl, intItem_word rfl,
      intItem_word rfl, intItem_word rfl, textItem_of_item rfl, textItem_of_item rfl]
    exact settleCalldata_of_denotes ⟨isFrom, isTo, rfl, rfl, rfl, isNonce, isSignature, long⟩ payable
  · constructor
    · exact message_of_items rfl rfl (intItem_word rfl) (intItem_word rfl) (intItem_word rfl)
        (textItem_of_item rfl) isNonce
    · exact ⟨isFrom, isTo, rfl, rfl, rfl, rfl⟩
    · exact ⟨fromText, textItem_of_item rfl, rfl⟩
    · exact ⟨signatureText, rfl, isSignature⟩
    · exact payable

/-- What `sign_authorization` signs for a deployment passes the check before sending, is encoded by
the service, and executes in any state ever reached exactly when it is timely and covered; then the
funds move, and never again for this payer and nonce. -/
theorem signed_settles (conforms : Conforms isAddress accountOf)
    (signable : Signable isAddress terms chainId contract payee value validAfter validBefore)
    (signer : EthAccount.LocalAccount) {world : World} (drawn : ∀ said : Conversation, isExactHex 64
      ('0' :: 'x' :: (show String from world said (.tokenHex 32)).toList) = true)
    (state : σ) (history : Conversation) :
    ∃ (signed : Payloads.Authorization) (said : Conversation) (fields : Fields)
      (encoded : Authorization),
      Returns world (signAuthorization signer terms) state history signed state
        (history ++ said) ∧
      signed.asDict = .ok fields ∧ (∀ given ∈ terms.nonce, signed.nonce = given) ∧
      IsHexText (.str signed.nonce) 64 encoded.nonce.toNat ∧
      encoded = ⟨accountOf signer, payee, value, validAfter, validBefore, encoded.nonce,
        encoded.signature⟩ ∧
      ReferenceSut.calldataOf fields = .ok (hexData (encodeCalldata encoded)) ∧
      decodeCalldata (encodeCalldata encoded) = some encoded ∧
      authorizationBindsToChain fields terms.domain = .ok true ∧
      ∀ (deployer : Address) (calls : List (Message × Call)) (sender : Address)
        (timestamp : Word),
        ((∃ after events, execute ⟨sender, timestamp, chainId, contract⟩
            (run (deployed deployer) calls) (.transferWithAuthorization encoded) =
              .ok (after, events)) ↔
          Timely (run (deployed deployer) calls) timestamp encoded ∧
            Covered (run (deployed deployer) calls) encoded) ∧
        ∀ after events, execute ⟨sender, timestamp, chainId, contract⟩
            (run (deployed deployer) calls) (.transferWithAuthorization encoded) =
              .ok (after, events) →
          Moves (run (deployed deployer) calls) after encoded ∧
          ∀ again : Authorization, again.fromAddr = encoded.fromAddr →
            again.nonce = encoded.nonce → ∀ (later : List (Message × Call)) (around : Message),
            ∃ reason, execute around (run after later) (.transferWithAuthorization again) =
              .error reason := by
  rcases exists_nonce terms.nonce signable.nonce drawn state history with
    ⟨nonceText, said, follows, drawing, shape, asked⟩
  have small := hexVal_exact_lt shape
  have isNonce : IsHexText (.str nonceText) 64
      (BitVec.ofNat 256 (hexVal (nonceText.drop 2))).toNat := by
    refine ⟨nonceText, rfl, shape, ?_⟩
    rw [BitVec.toNat_ofNat, Nat.mod_eq_of_lt (lt_of_lt_of_eq small (by norm_num))]
  generalize BitVec.ofNat 256 (hexVal (nonceText.drop 2)) = nonce at isNonce
  have replays := signAuthorization_replays conforms signable signer isNonce drawing
  have unsigned : ∀ signature, eip712 "USDC" "2" chainId contract
      ⟨accountOf signer, payee, value, validAfter, validBefore, nonce, signature⟩ =
        eip712 "USDC" "2" chainId contract
          ⟨accountOf signer, payee, value, validAfter, validBefore, nonce, []⟩ :=
    fun _ => rfl
  generalize isDigest : eip712 "USDC" "2" chainId contract
    ⟨accountOf signer, payee, value, validAfter, validBefore, nonce, []⟩ = digest at replays unsigned
  have canonical := conforms.canonical signer digest
  have signs := conforms.signs signer digest
  generalize EthAccount.sign signer digest = signature at replays canonical signs
  have payable : Payable ⟨accountOf signer, payee, value, validAfter, validBefore, nonce,
      signature⟩ :=
    ⟨toNat_ne_zero (conforms.nonzero signer), toNat_ne_zero signable.payee_ne_zero,
      toNat_ne_zero signable.value_ne_zero, BitVec.lt_def.mp signable.ordered⟩
  rcases readAlike_signed payable canonical.length (conforms.address signer).1 signable.toAddr
    isNonce (isHexText_hexData canonical.length) (asDict_word _ _ _ _ _ _ _) with ⟨encodes, alike⟩
  have spelled : Spelled isAddress terms.domain (.str (EthAccount.address signer))
      (.str terms.toAddr) :=
    ⟨signable.isContract, ⟨_, rfl, (conforms.address signer).2⟩, ⟨_, rfl, signable.isPayee⟩⟩
  have binds := (conforms.binds_iff signable.domain spelled alike canonical).mpr
    ((congrArg (signerOf · signature) (unsigned signature)).trans signs)
  refine ⟨_, said, _, _, returns_iff.mpr ⟨said, rfl, follows, replays⟩, asDict_word _ _ _ _ _ _ _,
    asked, isNonce, rfl, encodes, decode_encodeCalldata _ canonical.length, binds, ?_⟩
  intro deployer calls sender timestamp
  have sound := run_sound deployer calls
  refine ⟨?_, ?_⟩
  · rw [executes_of_alike conforms signable.domain spelled alike sound sender timestamp]
    exact ⟨fun all => ⟨all.1, all.2.1⟩, fun both => ⟨both.1, both.2, canonical, binds⟩⟩
  · intro after events done
    exact ⟨transfer_moves done, fun again samePayer sameNonce later around =>
      reverts_later done samePayer sameNonce later around⟩

end Signing

/-! ### A throwaway key

The key 1 signs a payment of 100 on the chain 31337. -/

namespace Throwaway

def account : Address := 0x7e5f4552091a69125d5dfcb7b8c2659029395bdf

def payee : Address := 0xb2

def contract : Address := 0xc0

/-- The hash of the payment. -/
def digest : Word := 0x23385ea365fffbd2c7a69edbe557a75081beeef306f958e164239310b95f3eba

def r : Word := 0xfa091a67d35dcc3fe541fefc22474cf942470a46cfb37543a22766344105de09

def s : Word := 0x30420bff0016c856f4de39e15148d274a5fe123d901ac6f9989aa2a8e55c6d67

def signature : List UInt8 := wordData r ++ wordData s ++ [28]

/-- What stands for all other signatures. -/
def blank : List UInt8 := List.replicate 64 0 ++ [27]

/-- The hashes that the payment needs. -/
def hashes : List (List UInt8 × Word) :=
  [(asciiBytes domainTypeText, 0x8b73c3c69bb8fe3d512ecc4cf759cc79239f7b179b0ffacaa9a75d522b39400f),
    (asciiBytes transferTypeText,
      0x7c7c6cdb67a18743f49ec6fa9b35f50d52ed05cbed4cc592e13b44501c1a2267),
    (asciiBytes "USDC", 0xd6aca1be9729c13d677335161321649cccae6a591554772516700f986f942eaa),
    (asciiBytes "2", 0xad7c5bef027816a800da1736444fb58a807ef4c9603b7848673f7e3a68eb14a5),
    (abiEncode [0x8b73c3c69bb8fe3d512ecc4cf759cc79239f7b179b0ffacaa9a75d522b39400f,
        0xd6aca1be9729c13d677335161321649cccae6a591554772516700f986f942eaa,
        0xad7c5bef027816a800da1736444fb58a807ef4c9603b7848673f7e3a68eb14a5, 31337, 0xc0],
      0xfe2318cd25e352802f481dd3a9d7261752fcd848febabba7295b4d06be330455),
    (abiEncode [0x7c7c6cdb67a18743f49ec6fa9b35f50d52ed05cbed4cc592e13b44501c1a2267,
        account.setWidth 256, 0xb2, 100, 0, 0x1000000000000, 0x77],
      0xcb33a70b4ab495849694c0d12e3c6a7b9ea5a69979cf79c05dbd03bb83c7f1d4),
    ([0x19, 0x01] ++ abiEncode
      [0xfe2318cd25e352802f481dd3a9d7261752fcd848febabba7295b4d06be330455,
        0xcb33a70b4ab495849694c0d12e3c6a7b9ea5a69979cf79c05dbd03bb83c7f1d4], digest)]

/-- The payment's own hashes and signature, and nothing of others. -/
@[reducible]
def cryptography : Cryptography where
  keccak256 data := (hashes.lookup data).getD 0
  ecrecover asked v first second :=
    if asked = digest then if v = 28 ∧ first = r ∧ second = s then account else 0
    else if first = 0 then account else 0

/-- An address as it is displayed. -/
def display (address : Address) : Str :=
  if address = account then "0x7E5F4552091A69125d5DfCb7b8C2659029395Bdf".toList
  else hexAddress address.toNat

def addressIn : Value → Address
  | .str text => readAddress text
  | _ => 0

section

attribute [local instance] cryptography

/-- The account of the key. -/
@[reducible]
def ethAccount : EthAccount where
  LocalAccount := Unit
  address _ := display account
  typedHash domain typed := .ok (eip712 (String.ofList domain.name) (String.ofList domain.version)
    (BitVec.ofInt 256 domain.chainId) (readAddress domain.verifyingContract)
    ⟨addressIn typed.fromAddr, addressIn typed.toAddr, BitVec.ofInt 256 typed.value,
      BitVec.ofInt 256 typed.validAfter, BitVec.ofInt 256 typed.validBefore,
      BitVec.ofNat 256 (bytesVal typed.nonce), []⟩)
  sign _ asked := if asked = digest then signature else blank
  recoverMessage asked value :=
    match value with
    | .str text =>
        let signer := signerOf asked (bytesOf 65 (hexVal (text.drop 2)))
        if signer = 0 then .error (.valueError "bad signature") else .ok (display signer)
    | _ => .error (.typeError "signature")

attribute [local instance] ethAccount

theorem isHexText_display (address : Address) :
    IsHexText (.str (display address)) 40 address.toNat := by
  rw [display]
  split_ifs with same
  · rw [same]
    exact ⟨_, rfl, by decide, by decide +kernel⟩
  · refine ⟨_, rfl, isExactHex_hexPad 40 _, ?_⟩
    exact hexVal_hexPad_of_lt (lt_of_lt_of_eq address.isLt (by norm_num))

theorem addressIn_eq {value : Value} {address : Address}
    (denotes : IsHexText value 40 address.toNat) : addressIn value = address := by
  rcases denotes with ⟨text, rfl, _, same⟩
  rw [addressIn, readAddress, same, BitVec.ofNat_toNat, BitVec.setWidth_eq]

theorem ofInt_word (word : Word) : BitVec.ofInt 256 (word.toNat : ℤ) = word := by
  rw [BitVec.ofInt_natCast, BitVec.ofNat_toNat, BitVec.setWidth_eq]

theorem recoverMessage_eq {asked : Word} {signature : List UInt8} {text : Str}
    (long : signature.length = 65) (denotes : IsHexText (.str text) 130 (bytesVal signature)) :
    EthAccount.recoverMessage asked (.str text) =
      if signerOf asked signature = 0 then .error (.valueError "bad signature")
      else .ok (display (signerOf asked signature)) := by
  rcases denotes with ⟨_, ⟨⟩, _, same⟩
  have bytes : bytesOf 65 (hexVal (text.drop 2)) = signature := by
    rw [same, ← long, bytesOf_bytesVal]
  change (if signerOf asked (bytesOf 65 (hexVal (text.drop 2))) = 0 then _ else _) = _
  rw [bytes]

theorem conforms : Conforms (isExactHex 40) fun _ => account where
  address _ := ⟨isHexText_display account, (by decide : isExactHex 40 (display account) = true)⟩
  nonzero _ := by decide
  typedHash := by
    intro domain typed authorization chainId contract name version _ isDomain denotes _
    have nonce : BitVec.ofNat 256 (bytesVal typed.nonce) = authorization.nonce := by
      rw [denotes.nonce, wordData, bytesVal_bytesOf, Nat.mod_eq_of_lt
        (lt_of_lt_of_eq authorization.nonce.isLt (by norm_num)), BitVec.ofNat_toNat,
        BitVec.setWidth_eq]
    change Except.ok _ = _
    rw [isDomain.name, isDomain.version, isDomain.chainId, denotes.value, denotes.validAfter,
      denotes.validBefore, nonce, addressIn_eq denotes.fromAddr, addressIn_eq denotes.toAddr,
      ofInt_word, ofInt_word, ofInt_word, ofInt_word, String.ofList_toList, String.ofList_toList,
      show readAddress domain.verifyingContract = contract from addressIn_eq isDomain.contract]
    rfl
  canonical _ asked := by
    change Canonical (if asked = digest then signature else blank)
    split_ifs
    · exact ⟨by decide, by decide, by decide +kernel⟩
    · exact ⟨by decide, by decide, by decide +kernel⟩
  signs _ asked := by
    change signerOf asked (if asked = digest then signature else blank) = account
    split_ifs with same
    · rw [same]
      decide +kernel
    · change (if asked = digest then _ else _) = account
      rw [if_neg same]
      decide +kernel
  recovers := by
    intro asked signature text canonical denotes nonzero
    refine ⟨display (signerOf asked signature), ?_, isHexText_display _⟩
    rw [recoverMessage_eq canonical.length denotes, if_neg nonzero]
  refuses := by
    intro asked signature text canonical denotes zero
    refine ⟨.valueError "bad signature", ?_⟩
    rw [recoverMessage_eq canonical.length denotes, if_pos zero]

def terms : Terms where
  toAddr := hexAddress 0xb2
  value := 100
  chainId := 31337
  tokenAddress := hexAddress 0xc0
  tokenName := "USDC".toList
  tokenVersion := "2".toList
  nonce := some (hexWord 0x77)

theorem isDomain_terms : IsDomain terms.domain "USDC" "2" 31337 contract :=
  ⟨rfl, rfl, rfl, ⟨_, rfl, isExactHex_hexPad 40 _, by decide +kernel⟩⟩

theorem signable_terms :
    Signable (isExactHex 40) terms 31337 contract payee 100 0 0x1000000000000 where
  domain := isDomain_terms
  isContract := isExactHex_hexPad 40 _
  toAddr := ⟨_, rfl, isExactHex_hexPad 40 _, by decide +kernel⟩
  isPayee := isExactHex_hexPad 40 _
  amount := rfl
  opens := rfl
  closes := rfl
  nonce := by
    rintro _ ⟨⟩
    exact isExactHex_hexPad 64 _
  payee_ne_zero := by decide
  value_ne_zero := by decide
  ordered := by decide

/-- Nobody is asked. -/
def nobody : World
  | _, .rpc _ _ => .error "nobody"
  | _, .sign _ => .ok []
  | _, .clock => ⟨1, Int.zero_lt_one⟩
  | _, .now => ⟨true, .ok []⟩
  | _, .tokenHex _ => String.ofList (List.replicate 64 '0')

def around : Message := ⟨0xf1, 5, 31337, contract⟩

/-- The payer is minted 1000. -/
def minted : State := run (deployed 0xd4) [(around, .mint account 1000)]

/-- The payment goes through. -/
theorem signed_settles_throwaway : letI := asciiInterpreter []
    ∃ (signed : Payloads.Authorization) (said : Conversation) (fields : Fields)
      (encoded : Authorization) (after : State) (events : List Event),
      Returns nobody (signAuthorization () terms) () [] signed () said ∧
      signed.asDict = .ok fields ∧
      ReferenceSut.calldataOf fields = .ok (hexData (encodeCalldata encoded)) ∧
      execute around minted (.transferWithAuthorization encoded) = .ok (after, events) ∧
      Moves minted after encoded := by
  let := asciiInterpreter []
  have drawn : ∀ said : Conversation, isExactHex 64
      ('0' :: 'x' :: (show String from nobody said (.tokenHex 32)).toList) = true := by
    intro said
    change isExactHex 64 ('0' :: 'x' :: (String.ofList (List.replicate 64 '0')).toList) = true
    decide +kernel
  rcases signed_settles conforms signable_terms () drawn () [] with
    ⟨signed, said, fields, encoded, returned, isDict, _, _, isEncoded, built, _, _, settles⟩
  have timely : Timely minted 5 encoded := by
    rw [isEncoded]
    exact ⟨(by decide : (0 : Word) < 5), (by decide : (5 : Word) < 0x1000000000000), rfl⟩
  have funds : (100 : Word) ≤ minted.balanceOf account := by
    decide +kernel
  have product : (100 : Word).toNat * minted.feeBps.toNat < 2 ^ 256 := by
    decide +kernel
  have covered : Covered minted encoded := by
    rw [isEncoded]
    exact ⟨funds, product⟩
  rcases settles 0xd4 [(around, .mint account 1000)] 0xf1 5 with ⟨goes, moves⟩
  rcases goes.mpr ⟨timely, covered⟩ with ⟨after, events, done⟩
  exact ⟨signed, said, fields, encoded, after, events, returned, isDict, built, done,
    (moves after events done).1⟩

/-- The payment as it is sent. -/
def sent : Fields :=
  [(.str "from", .str (display account)), (.str "to", .str (hexAddress 0xb2)),
    (.str "value", .str "100".toList), (.str "validAfter", .str "0".toList),
    (.str "validBefore", .str "281474976710656".toList), (.str "nonce", .str (hexWord 0x77)),
    (.str "signature", .str (hexData signature))]

theorem wireTexts_sent : letI := asciiInterpreter []
    WireTexts (isExactHex 40) sent :=
  ⟨⟨_, rfl, by decide⟩, ⟨_, rfl, isExactHex_hexPad 40 _⟩, ⟨_, rfl⟩⟩

/-- The check before sending passes, and it is all that the signature is asked for. -/
theorem executes_iff_binds_throwaway : letI := asciiInterpreter []
    ∃ (calldata : Str) (encoded : Authorization),
      ReferenceSut.calldataOf sent = .ok calldata ∧
      eip712Digest sent terms.domain = .ok (eip712 "USDC" "2" 31337 contract encoded) ∧
      authorizationBindsToChain sent terms.domain = .ok true ∧
      ((∃ after events, execute around minted (.transferWithAuthorization encoded) =
          .ok (after, events)) ↔
        Timely minted 5 encoded ∧ Covered minted encoded ∧ Canonical encoded.signature) := by
  let := asciiInterpreter []
  have built : ∃ calldata, ReferenceSut.calldataOf sent = .ok calldata := by
    apply ReferenceSut.exists_ok_of_isSome
    decide +kernel
  have binds : authorizationBindsToChain sent terms.domain = .ok true := by
    decide +kernel
  rcases built with ⟨calldata, built⟩
  rcases executes_iff_binds conforms isDomain_terms (isExactHex_hexPad 40 _) wireTexts_sent built
    with ⟨encoded, _, _, hashed, settles⟩
  refine ⟨calldata, encoded, built, hashed, binds, ?_⟩
  have goes := settles 0xd4 [(around, .mint account 1000)] 0xf1 5
  rw [binds] at goes
  simp only [and_true] at goes
  exact goes

end

end Throwaway

end Onchain

end Psv
