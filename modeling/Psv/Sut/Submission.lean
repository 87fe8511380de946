import Psv.Onchain.Calldata
import Psv.Sut.Server

/-!
# What is signed and submitted

`_submit_settlement` is the only place where the reference service signs and
broadcasts.  The safety policy in front of it reads addresses with
`int(text, 16)` and amounts as numbers or numerals; the encoder behind it takes
exact hexadecimal text and `int(value)`.  What passes both means the same to
both: an address that the encoder accepts is what the policy compared, and the
number that the encoder writes is the amount that the policy compared with the
price.
-/

namespace Psv

open Python Interaction Program RpcClient Safety Onchain Node TokenView

namespace ReferenceSut

/-- The transactions that were handed to the signer, with its answers. -/
def signatures (said : Conversation) : List (Transaction × Except PyError Str) :=
  said.filterMap fun
    | ⟨.sign transaction, answer⟩ => some (transaction, answer)
    | _ => none

/-- The parameters of the broadcasts. -/
def broadcasts (said : Conversation) : List (List Value) :=
  said.filterMap fun
    | ⟨.rpc method params, _⟩ =>
        if method = "eth_sendRawTransaction" then some params else none
    | _ => none

/-- A question that neither signs nor broadcasts. -/
def Silent : Ask → Prop
  | .sign _ => False
  | .rpc method _ => method ≠ "eth_sendRawTransaction"
  | _ => True

theorem signatures_append (said later : Conversation) :
    signatures (said ++ later) = signatures said ++ signatures later :=
  List.filterMap_append

theorem broadcasts_append (said later : Conversation) :
    broadcasts (said ++ later) = broadcasts said ++ broadcasts later :=
  List.filterMap_append

theorem signatures_silent {said : Conversation} (silent : ∀ entry ∈ said, Silent entry.1) :
    signatures said = [] := by
  apply List.filterMap_eq_nil_iff.mpr
  rintro ⟨asked, answer⟩ mem
  have quiet := silent _ mem
  cases asked with
  | sign transaction => cases quiet
  | _ => rfl

theorem broadcasts_silent {said : Conversation} (silent : ∀ entry ∈ said, Silent entry.1) :
    broadcasts said = [] := by
  apply List.filterMap_eq_nil_iff.mpr
  rintro ⟨asked, answer⟩ mem
  have quiet := silent _ mem
  cases asked with
  | rpc method params => exact if_neg quiet
  | _ => rfl

section Submission

variable [Interpreter] {σ : Type} (sut : ReferenceSut) (authorization : Fields)

/-! ### What has to hold before a transaction is signed -/

/-- The authorization that the calldata encodes. -/
structure Encodes (encoded : Authorization) : Prop where
  fromAddr : ∃ text, textItem authorization "from" = .ok text ∧
    IsHexText (.str text) 40 encoded.fromAddr.toNat
  toAddr : lower (removePrefix0x sut.config.merchantAddress) = hexPad 40 encoded.toAddr.toNat
  value : sut.config.price = encoded.value.toNat
  validAfter : intItem authorization "validAfter" = .ok encoded.validAfter.toNat
  validBefore : intItem authorization "validBefore" = .ok encoded.validBefore.toNat
  nonce : ∃ text, textItem authorization "nonce" = .ok text ∧
    IsHexText (.str text) 64 encoded.nonce.toNat
  signature : ∃ text, textItem authorization "signature" = .ok text ∧
    IsHexText (.str text) 130 (bytesVal encoded.signature)
  payable : Payable encoded

/-- A transaction on an allowed chain, to the deployed token, that pays the merchant the price. -/
structure SafeTransaction (said : Conversation) (transaction : Transaction) : Prop where
  allowed : sut.config.chainId ∈ allowedSettlementChainIds
  sameChain : ∃ text, exchange "eth_chainId" [] (.ok (.str text)) ∈ said ∧
    int16 text = some sut.config.chainId
  deployed : ∃ code, exchange "eth_getCode"
      [.str (lower sut.config.tokenAddress), .str "latest".toList] (.ok (.str code)) ∈ said ∧
    isData code = true ∧ hexVal (code.drop 2) ≠ 0
  chainId : transaction.chainId = sut.config.chainId
  toAddress : transaction.toAddress = sut.config.tokenAddress
  value : transaction.value = 0
  data : ∃ encoded, sut.Encodes authorization encoded ∧
    transaction.data = hexData (encodeCalldata encoded)

variable {sut authorization} in
theorem SafeTransaction.append {said : Conversation} {transaction : Transaction}
    (safe : sut.SafeTransaction authorization said transaction) (later : Conversation) :
    sut.SafeTransaction authorization (said ++ later) transaction := by
  rcases safe.sameChain with ⟨text, asked, read⟩
  rcases safe.deployed with ⟨code, found, nonzero⟩
  exact { safe with
    sameChain := ⟨text, List.mem_append_left _ asked, read⟩
    deployed := ⟨code, List.mem_append_left _ found, nonzero⟩ }

/-- The transaction that is signed. -/
def prepareSettlement : Proc σ Transaction := do
  sut.requireSafe authorization
  let calldata ← lift (calldataOf authorization)
  let count ← call "eth_getTransactionCount" [.str sut.accountAddress, .str "pending".toList]
  let nonce ← lift (hexOf count)
  let price ← gasPrice
  return ⟨sut.config.tokenAddress, calldata, 0, sut.config.gas, price, nonce, sut.config.chainId⟩

theorem signSettlement_eq :
    (sut.signSettlement authorization : Proc σ Str) =
      (do
        let transaction ← sut.prepareSettlement authorization
        let signed ← question (S := interface) (Ask.sign transaction)
        lift signed) := by
  simp only [signSettlement, prepareSettlement, bind_assoc]
  rfl

/-! ### The policy -/

variable {sut authorization}

theorem requireAddress_eq_ok_iff {value address : Str} {field : String} :
    requireAddress value field = .ok address ↔
      (removePrefix0x value).length = 40 ∧
        (∃ number, int16 (removePrefix0x value) = some number ∧ number ≠ 0) ∧
        address = '0' :: 'x' :: lower (removePrefix0x value) := by
  simp only [requireAddress, Checks.bind_eq_ok_iff, refuse_eq_ok_iff, orRaise_eq_ok_iff, not_not,
    exists_const, pure, Except.pure, Except.ok.injEq]
  constructor
  · intro accepted
    rcases accepted with ⟨long, number, read, nonzero, rfl⟩
    exact ⟨long, ⟨number, read, nonzero⟩, rfl⟩
  · intro accepted
    rcases accepted with ⟨long, ⟨number, read, nonzero⟩, rfl⟩
    exact ⟨long, number, read, nonzero, rfl⟩

theorem parseChainId_eq_ok {raw : Value} {chainId : ℤ} (parsed : parseChainId raw = .ok chainId) :
    ∃ text, raw = .str text ∧ int16 text = some chainId := by
  cases raw with
  | str text =>
    simp only [parseChainId, Checks.bind_eq_ok_iff, refuse_eq_ok_iff, orRaise_eq_ok_iff,
      exists_const, pure, Except.pure, Except.ok.injEq] at parsed
    rcases parsed with ⟨_, _, read, _, rfl⟩
    exact ⟨text, rfl, read⟩
  | _ => cases parsed

omit [Interpreter] in
theorem requireSameChain_eq_ok {configured actual : ℤ}
    (same : requireSameChain configured actual = .ok ()) : actual = configured := by
  rw [requireSameChain] at same
  split_ifs at same with equal
  · exact equal
  · simp only [Checks.bind_eq_ok_iff] at same
    rcases same with ⟨_, _, _, _, impossible⟩
    cases impossible

omit [Interpreter] in
theorem requireAllowedChain_eq_ok {chainId : ℤ} (allowed : requireAllowedChain chainId = .ok ()) :
    chainId ∈ allowedSettlementChainIds := by
  rw [requireAllowedChain] at allowed
  split_ifs at allowed with listed
  · exact listed
  · simp only [Checks.bind_eq_ok_iff] at allowed
    rcases allowed with ⟨_, _, impossible⟩
    cases impossible

/-- The policy and the encoder read one amount. -/
theorem intOf_of_amountOf {raw : Value} {amount : ℤ} (read : amountOf raw = .ok amount) :
    intOf raw = .ok amount := by
  cases raw with
  | int n => exact read
  | str text =>
    simp only [amountOf, Checks.bind_eq_ok_iff, refuse_eq_ok_iff, orRaise_eq_ok_iff,
      exists_const] at read
    exact orRaise_eq_ok_iff.mpr read.2
  | _ => cases read

theorem requireDeployedCode_eq_ok {code : Str} (shape : isData code = true)
    (deployed : requireDeployedCode code = .ok ()) : hexVal (code.drop 2) ≠ 0 := by
  simp only [requireDeployedCode, Checks.bind_eq_ok_iff, refuse_eq_ok_iff, orRaise_eq_ok_iff,
    exists_const] at deployed
  rcases deployed with ⟨_, nonempty, number, read, nonzero, _⟩
  rcases isData_iff.mp shape with ⟨digits, rfl, _, all⟩
  change digits ≠ [] at nonempty
  change int16 digits = some number at read
  rw [(int16_digits nonempty all).1] at read
  cases read
  exact_mod_cast nonzero

/-- What the checks between the questions establish. -/
structure Approved (configuredChainId : ℤ) (rawChainId : Value)
    (tokenAddress payeeAddress authorizationTo : Str) (authorizationAmount : Value)
    (expectedAmount : ℤ) (token : Str) : Prop where
  chain : ∃ text, rawChainId = .str text ∧ int16 text = some configuredChainId
  token : token = '0' :: 'x' :: lower (removePrefix0x tokenAddress)
  payee : lower (removePrefix0x authorizationTo) = lower (removePrefix0x payeeAddress)
  amount : intOf authorizationAmount = .ok expectedAmount

theorem approved_of_requireParties {configuredChainId expectedAmount : ℤ} {rawChainId : Value}
    {tokenAddress payerAddress payeeAddress authorizationTo token : Str}
    {authorizationAmount : Value}
    (approved : requireParties configuredChainId rawChainId tokenAddress payerAddress payeeAddress
      authorizationTo authorizationAmount expectedAmount = .ok token) :
    Approved configuredChainId rawChainId tokenAddress payeeAddress authorizationTo
      authorizationAmount expectedAmount token := by
  simp only [requireParties, Checks.bind_eq_ok_iff, requireAddress_eq_ok_iff, refuse_eq_ok_iff,
    exists_const, pure, Except.pure, Except.ok.injEq, not_not, requireExactAmount] at approved
  rcases approved with ⟨actual, parsed, _, sameChain, _, ⟨_, _, rfl⟩, _, _, _, ⟨_, _, rfl⟩, _,
    ⟨_, _, rfl⟩, samePayee, ⟨amount, read, _, equal⟩, rfl⟩
  rw [requireSameChain_eq_ok sameChain] at parsed
  simp only [List.cons.injEq, true_and] at samePayee
  exact ⟨parseChainId_eq_ok parsed, rfl, samePayee, intOf_of_amountOf (equal ▸ read)⟩

/-! ### The questions -/

theorem replays_getCode_latest {target code : Str} {state finalState : σ} {said : Conversation}
    (replays : Replays (getCode target (.tag "latest") : Proc σ Str) state said (.ok code)
      finalState) :
    said = [exchange "eth_getCode" [.str target, .str "latest".toList] (.ok (.str code))] ∧
      isData code = true := by
  have selected : ∀ params, codeParams target (.tag "latest") = .ok params →
      params = [.str target, .str "latest".toList] := by
    intro params accepted
    simp only [codeParams, Checks.bind_eq_ok_iff, Anvil.blockParam, pure, Except.pure,
      Except.ok.injEq] at accepted
    rcases accepted with ⟨_, _, _, same, rfl⟩
    cases same
    rfl
  unfold getCode at replays
  rw [replays_lift_bind_ok_iff] at replays
  rcases replays with ⟨params, accepted, asked⟩
  rw [selected params accepted] at asked
  rcases (reads_checked _ _ (fun value => Anvil.data value "eth_getCode result") _ _ _ _).mp asked
    with ⟨⟨value, rfl, checked⟩, _⟩
  rcases Anvil.data_eq_ok_iff.mp checked with ⟨rfl, shape⟩
  exact ⟨rfl, shape⟩

variable (sut authorization) in
/-- What was said and checked when the policy lets a submission through. -/
structure Permitted (said : Conversation) (payer payee : Str) (value : Value) : Prop where
  isPayer : textItem authorization "from" = .ok payer
  isPayee : textItem authorization "to" = .ok payee
  isValue : item authorization "value" = .ok value
  allowed : sut.config.chainId ∈ allowedSettlementChainIds
  conversation : ∃ text token code,
    said = [exchange "eth_chainId" [] (.ok (.str text)),
      exchange "eth_getCode" [.str token, .str "latest".toList] (.ok (.str code))] ∧
    isData code = true ∧ hexVal (code.drop 2) ≠ 0 ∧
    Approved sut.config.chainId (.str text) sut.config.tokenAddress sut.config.merchantAddress
      payee value sut.config.price token

theorem permitted_of_requireSafe {state finalState : σ} {said : Conversation}
    (replays : Replays (sut.requireSafe authorization : Proc σ Unit) state said (.ok ())
      finalState) :
    ∃ payer authorizationTo value, sut.Permitted authorization said payer authorizationTo value := by
  simp only [requireSafe, requireSafeSubmission, replays_lift_bind_ok_iff,
    (reads_call "eth_chainId" []).bind_ok_iff] at replays
  rcases replays with ⟨payer, isPayer, authorizationTo, isTo, value, isValue, _, allowed, raw, _,
    later, rfl, rfl, token, parties, rest⟩
  rcases replays_bind_ok_iff.mp rest with ⟨code, middle, asked, checked, rfl, getsCode, checks⟩
  rcases replays_getCode_latest getsCode with ⟨rfl, shape⟩
  rcases replays_lift_iff.mp checks with ⟨rfl, deployed, _⟩
  have approved := approved_of_requireParties parties
  rcases approved.chain with ⟨text, rfl, _⟩
  exact ⟨payer, authorizationTo, value, isPayer, isTo, isValue, requireAllowedChain_eq_ok allowed,
    text, token, code, rfl, shape, requireDeployedCode_eq_ok shape deployed.symm, approved⟩

/-! ### The calldata -/

omit [Interpreter] in
theorem removePrefix0x_exact {digits : ℕ} {text : Str} (shape : isExactHex digits text = true) :
    removePrefix0x text = text.drop 2 := by
  rcases isExactHex_iff.mp shape with ⟨rest, rfl, _, _⟩
  rfl

/-- What the encoder accepts is what the policy has compared. -/
theorem encodes_of_calldataOf {said : Conversation} {payer authorizationTo calldata : Str}
    {value : Value} (permitted : sut.Permitted authorization said payer authorizationTo value)
    (built : calldataOf authorization = .ok calldata) :
    ∃ encoded, sut.Encodes authorization encoded ∧
      calldata = hexData (encodeCalldata encoded) := by
  simp only [calldataOf, Checks.bind_eq_ok_iff] at built
  rcases built with ⟨fromAddr, isFrom, toAddr, isTo, amount, isAmount, validAfter, isAfter,
    validBefore, isBefore, nonce, isNonce, signature, isSignature, encoded⟩
  rcases (acceptable_of_settleCalldata encoded).denotes with ⟨denoted, denotes, payable⟩
  rw [settleCalldata_of_denotes denotes payable] at encoded
  rcases permitted.conversation with ⟨_, _, _, _, _, _, approved⟩
  refine ⟨denoted, ⟨⟨fromAddr, isFrom, denotes.fromAddr⟩, ?_, ?_, ?_, ?_,
    ⟨nonce, isNonce, denotes.nonce⟩, ⟨signature, isSignature, denotes.signature⟩, payable⟩,
    (Except.ok.inj encoded).symm⟩
  · have sameTo : toAddr = authorizationTo :=
      Except.ok.inj (isTo.symm.trans permitted.isPayee)
    rcases denotes.toAddr with ⟨text, same, shape, _⟩
    have spelled := denotes.toAddr.lower_digitsOf
    rw [← approved.payee, ← sameTo]
    cases same
    rw [removePrefix0x_exact shape]
    exact spelled
  · rw [intItem, permitted.isValue, Checks.ok_bind, approved.amount] at isAmount
    rw [Except.ok.inj isAmount]
    exact Value.int.inj denotes.value
  · rw [isAfter]
    exact congrArg Except.ok (Value.int.inj denotes.validAfter)
  · rw [isBefore]
    exact congrArg Except.ok (Value.int.inj denotes.validBefore)

theorem lower_tokenAddress (sut : ReferenceSut) :
    '0' :: 'x' :: lower (removePrefix0x sut.config.tokenAddress) =
      lower sut.config.tokenAddress := by
  rw [removePrefix0x_exact sut.exact, lower_drop_eq_hexPad sut.exact, lower_eq_hexPad sut.exact]

/-- A transaction that reaches the signer is safe. -/
theorem safe_of_prepareSettlement {state finalState : σ} {said : Conversation}
    {transaction : Transaction}
    (replays : Replays (sut.prepareSettlement authorization : Proc σ Transaction) state said
      (.ok transaction) finalState) :
    sut.SafeTransaction authorization said transaction := by
  unfold prepareSettlement at replays
  rcases replays_bind_ok_iff.mp replays with ⟨_, _, checked, later, rfl, policy, rest⟩
  rcases permitted_of_requireSafe policy with ⟨payer, authorizationTo, value, permitted⟩
  rcases replays_lift_bind_ok_iff.mp rest with ⟨calldata, built, rest⟩
  rcases replays_bind_ok_iff.mp rest with ⟨count, _, _, _, rfl, _, rest⟩
  rcases replays_lift_bind_ok_iff.mp rest with ⟨nonce, _, rest⟩
  rcases replays_bind_ok_iff.mp rest with ⟨price, _, _, _, rfl, _, rest⟩
  rcases replays_pure_iff.mp rest with ⟨_, same, _⟩
  cases same
  rcases permitted.conversation with ⟨text, token, code, rfl, shape, nonzero, approved⟩
  rcases approved.chain with ⟨_, isText, read⟩
  cases isText
  have isToken := approved.token
  rw [lower_tokenAddress] at isToken
  refine ⟨permitted.allowed, ⟨text, by simp, read⟩, ⟨code, ?_, shape, nonzero⟩, rfl, rfl, rfl,
    encodes_of_calldataOf permitted built⟩
  rw [← isToken]
  simp

/-! ### The run -/

omit [Interpreter] in
theorem silent_call {method : String} {params : List Value}
    (silent : method ≠ "eth_sendRawTransaction") :
    (call method params : Proc σ Value).Asks Silent :=
  (asks_question silent).bind fun _ => asks_lift _

theorem silent_prepareSettlement :
    (sut.prepareSettlement authorization : Proc σ Transaction).Asks Silent := by
  have policy : (sut.requireSafe authorization : Proc σ Unit).Asks Silent := by
    unfold requireSafe requireSafeSubmission getCode
    refine (asks_lift _).bind fun _ => (asks_lift _).bind fun _ => (asks_lift _).bind fun _ =>
      (asks_lift _).bind fun _ => (silent_call (by decide)).bind fun _ =>
      (asks_lift _).bind fun _ => Asks.bind ?_ fun _ => asks_lift _
    exact (asks_lift _).bind fun _ => (silent_call (by decide)).bind fun _ => asks_lift _
  have price : (gasPrice : Proc σ ℤ).Asks Silent := by
    apply Asks.handle
    · exact (silent_call (by decide)).bind fun _ => asks_lift _
    · intro error
      cases error <;> trivial
  unfold prepareSettlement
  exact policy.bind fun _ => (asks_lift _).bind fun _ => (silent_call (by decide)).bind fun _ =>
    (asks_lift _).bind fun _ => price.bind fun _ => trivial

omit [Interpreter] in
/-- One call is one exchange, whatever is answered and done with it. -/
theorem said_of_checked {α : Type} {method : String} {params : List Value}
    {check : Value → Except PyError α} {state finalState : σ} {said : Conversation}
    {result : Except PyError α}
    (replays : Replays (do let value ← call method params; lift (check value) : Proc σ α) state
      said result finalState) :
    ∃ answer, said = [exchange method params answer] := by
  unfold call at replays
  rw [bind_assoc] at replays
  rcases replays_bind_iff.mp replays with ⟨answer, _, _, _, rfl, asked, rest⟩ | ⟨_, _, asked⟩
  · rcases replays_question_iff.mp asked with ⟨_, rfl, _, _⟩
    rcases replays_lift_bind_iff.mp rest with ⟨_, _, checked⟩ | ⟨_, _, rfl, _⟩
    · rcases replays_lift_iff.mp checked with ⟨rfl, _⟩
      exact ⟨_, rfl⟩
    · exact ⟨_, rfl⟩
  · rcases replays_question_iff.mp asked with ⟨_, _, impossible, _⟩
    cases impossible

/-- What is broadcast of a signed text. -/
theorem broadcasts_send {raw : Str} {state finalState : σ} {said : Conversation}
    {result : Except PyError Str}
    (replays : Replays (sendRawTransaction raw : Proc σ Str) state said result finalState) :
    signatures said = [] ∧ broadcasts said = if isData raw then [[.str raw]] else [] := by
  unfold sendRawTransaction at replays
  rcases replays_lift_bind_iff.mp replays with ⟨_, accepted, asked⟩ | ⟨_, refused, rfl, _⟩
  · rcases said_of_checked asked with ⟨answer, rfl⟩
    rcases Anvil.data_eq_ok_iff.mp accepted with ⟨same, shape⟩
    cases same
    rw [if_pos shape]
    exact ⟨rfl, rfl⟩
  · have malformed : ¬isData raw = true := by
      intro shape
      rw [Anvil.data_eq_ok_iff.mpr ⟨rfl, shape⟩] at refused
      cases refused
    rw [if_neg malformed]
    exact ⟨rfl, rfl⟩

/-- Only safe transactions are signed, and only what was signed is broadcast. -/
theorem submission_safe (sut : ReferenceSut) (authorization : Fields) (world : World) (state : σ)
    (history : Conversation) :
    ∃ said, ((sut.submitSettlement authorization).run world state history).history =
        history ++ said ∧
      ((signatures said = [] ∧ broadcasts said = []) ∨
        ∃ transaction answer, sut.SafeTransaction authorization said transaction ∧
          signatures said = [(transaction, answer)] ∧
          broadcasts said = match answer with
            | .ok raw => if isData raw then [[.str raw]] else []
            | .error _ => []) := by
  rcases ran : (sut.submitSettlement authorization).run world state history with
    ⟨result, finalState, finalHistory⟩
  rcases (run_eq_iff _).mp ran with ⟨said, rfl, _, replays⟩
  refine ⟨said, rfl, ?_⟩
  rw [submitSettlement, signSettlement_eq, bind_assoc] at replays
  rcases replays_bind_iff.mp replays with ⟨transaction, _, before, after, rfl, prepared, rest⟩ |
    ⟨_, _, prepared⟩
  · have silent := silent_prepareSettlement.of_mem prepared
    rw [bind_assoc] at rest
    rcases replays_bind_iff.mp rest with ⟨answer, _, first, later, rfl, asked, ends⟩ | ⟨_, _, asked⟩
    · rcases replays_question_iff.mp asked with ⟨_, rfl, same, _⟩
      cases same
      have safe := (safe_of_prepareSettlement prepared).append
        ([⟨Ask.sign transaction, answer⟩] ++ later)
      refine .inr ⟨transaction, answer, safe, ?_⟩
      rw [signatures_append, signatures_append, signatures_silent silent, broadcasts_append,
        broadcasts_append, broadcasts_silent silent]
      rcases replays_lift_bind_iff.mp ends with ⟨raw, signed, sent⟩ | ⟨error, refused, rfl, _⟩
      · rcases broadcasts_send sent with ⟨unsigned, sends⟩
        rw [unsigned, sends, signed]
        exact ⟨rfl, rfl⟩
      · rw [refused]
        exact ⟨rfl, rfl⟩
    · rcases replays_question_iff.mp asked with ⟨_, _, impossible, _⟩
      cases impossible
  · have silent := silent_prepareSettlement.of_mem prepared
    exact .inl ⟨signatures_silent silent, broadcasts_silent silent⟩

end Submission

end ReferenceSut

end Psv
