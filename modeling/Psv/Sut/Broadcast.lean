import Psv.Sut.Ledger
import Psv.Sut.Readable

/-!
# What the parts of a payment say

A submission asks for the chain, the code of the token, the transaction count and
the gas price, has the transaction signed and broadcasts it.  A confirmation polls
for the receipt and fetches logs.  Here the conversations of these parts are
written out: they are what the node and the signer have to answer for a part to
succeed.
-/

namespace Psv

open Python Interaction Program Chain RpcClient Safety Confirmer Onchain

namespace ReferenceSut

variable [Interpreter] (sut : ReferenceSut) (authorization : Fields)

/-! ### A submission -/

/-- The gas price that an answer of the node stands for. -/
def gasPriceOf (answer : Except String Value) : ℤ :=
  match answer with
  | .ok raw => (hexOf raw).toOption.getD 1000000000
  | .error _ => 1000000000

/-- An authorization that the policy lets through and the encoder accepts, in view of what the
node answers. -/
structure Prepared (chain code count : Value) (transactionGasPrice : ℤ)
    (transaction : Transaction) : Prop where
  allowed : requireAllowedChain sut.config.chainId = .ok ()
  parties : ∃ payer authorizationTo value, textItem authorization "from" = .ok payer ∧
    textItem authorization "to" = .ok authorizationTo ∧ item authorization "value" = .ok value ∧
    requireParties sut.config.chainId chain sut.config.tokenAddress payer
      sut.config.merchantAddress authorizationTo value sut.config.price =
        .ok (lower sut.config.tokenAddress)
  deployed : ∃ text, code = .str text ∧ isData text = true ∧ requireDeployedCode text = .ok ()
  transaction : ∃ calldata nonce, calldataOf authorization = .ok calldata ∧
    hexOf count = .ok nonce ∧ transaction = ⟨sut.config.tokenAddress, calldata, 0, sut.config.gas,
      transactionGasPrice, nonce, sut.config.chainId⟩

/-- The questions in front of the signature, with their answers. -/
def preparing (chain code count : Value) (gasPrice : Except String Value) : Conversation :=
  [exchange "eth_chainId" [] (.ok chain),
    exchange "eth_getCode" [.str (lower sut.config.tokenAddress), .str "latest".toList] (.ok code),
    exchange "eth_getTransactionCount" [.str sut.accountAddress, .str "pending".toList]
      (.ok count),
    exchange "eth_gasPrice" [] gasPrice]

variable {sut authorization} {said : Conversation}

omit [Interpreter] in
/-- A call whose answer is checked is one exchange, whatever the answer. -/
theorem replays_checked_iff {α : Type} {method : String} {params : List Value}
    {check : Value → Except PyError α} {state finalState : SutState} {result : Except PyError α} :
    (do let value ← call method params; lift (check value) : Proc SutState α).Replays state said
        result finalState ↔
      ∃ answer : Except String Value, said = [exchange method params answer] ∧
        result = (answer.mapError PyError.rpcError).bind check ∧ finalState = state := by
  unfold call
  rw [bind_assoc]
  refine replays_question_bind_iff.trans ?_
  constructor
  · rintro ⟨answer, rest, rfl, checked⟩
    cases answer with
    | error message =>
      rcases checked with ⟨rfl, rfl, rfl⟩
      exact ⟨_, rfl, rfl, rfl⟩
    | ok value =>
      rcases replays_lift_iff.mp checked with ⟨rfl, rfl, rfl⟩
      exact ⟨_, rfl, rfl, rfl⟩
  · rintro ⟨answer, rfl, rfl, rfl⟩
    refine ⟨answer, [], rfl, ?_⟩
    cases answer with
    | error message => exact ⟨rfl, rfl, rfl⟩
    | ok value => exact replays_lift_iff.mpr ⟨rfl, rfl, rfl⟩

theorem hexOf_error {raw : Value} {error : PyError} (refused : hexOf raw = .error error) :
    (∃ message, error = .valueError message) ∨ ∃ message, error = .typeError message := by
  cases raw with
  | str text =>
    rw [hexOf] at refused
    cases number : int16 text with
    | none =>
      rw [number] at refused
      exact Or.inl ⟨_, (Except.error.inj refused).symm⟩
    | some n =>
      rw [number] at refused
      cases refused
  | _ => exact Or.inr ⟨_, (Except.error.inj refused).symm⟩

/-- A gas price is always found. -/
theorem replays_gasPrice_iff {state finalState : SutState} {result : Except PyError ℤ} :
    (gasPrice : Proc SutState ℤ).Replays state said result finalState ↔
      ∃ answer, said = [exchange "eth_gasPrice" [] answer] ∧ result = .ok (gasPriceOf answer) ∧
        finalState = state := by
  unfold gasPrice
  simp only [replays_handle_iff, replays_checked_iff]
  constructor
  · rintro (⟨price, rfl, answer, rfl, outcome, rfl⟩ |
      ⟨error, middle, first, second, rfl, ⟨answer, rfl, outcome, rfl⟩, handled⟩)
    · refine ⟨answer, rfl, ?_, rfl⟩
      cases answer with
      | error message => cases outcome
      | ok raw =>
        change Except.ok price = hexOf raw at outcome
        rw [gasPriceOf, ← outcome]
        rfl
    · refine ⟨answer, ?_⟩
      cases answer with
      | error message =>
        cases outcome
        rcases handled with ⟨rfl, rfl, rfl⟩
        exact ⟨rfl, rfl, rfl⟩
      | ok raw =>
        change Except.error error = hexOf raw at outcome
        rw [gasPriceOf, ← outcome]
        rcases hexOf_error outcome.symm with ⟨message, rfl⟩ | ⟨message, rfl⟩
        · rcases handled with ⟨rfl, rfl, rfl⟩
          exact ⟨rfl, rfl, rfl⟩
        · rcases handled with ⟨rfl, rfl, rfl⟩
          exact ⟨rfl, rfl, rfl⟩
  · rintro ⟨answer, rfl, rfl, rfl⟩
    cases answer with
    | error message =>
      exact Or.inr ⟨.rpcError message, finalState, _, [], rfl, ⟨_, rfl, rfl, rfl⟩, rfl, rfl, rfl⟩
    | ok raw =>
      cases read : hexOf raw with
      | ok price =>
        refine Or.inl ⟨price, ?_, .ok raw, rfl, read.symm, rfl⟩
        rw [gasPriceOf, read]
        rfl
      | error error =>
        refine Or.inr ⟨error, finalState, _, [], rfl, ⟨.ok raw, rfl, read.symm, rfl⟩, ?_⟩
        rw [gasPriceOf, read]
        rcases hexOf_error read with ⟨message, rfl⟩ | ⟨message, rfl⟩
        · exact ⟨rfl, rfl, rfl⟩
        · exact ⟨rfl, rfl, rfl⟩

theorem replays_getCode_latest_iff {state finalState : SutState} {target code : Str}
    (shape : isExactHex 40 target = true) :
    (getCode target (.tag "latest") : Proc SutState Str).Replays state said (.ok code) finalState ↔
      said = [exchange "eth_getCode" [.str target, .str "latest".toList] (.ok (.str code))] ∧
        isData code = true ∧ finalState = state := by
  have params : codeParams target (.tag "latest") = .ok [.str target, .str "latest".toList] := by
    rw [codeParams, Anvil.address_eq_ok_iff.mpr ⟨rfl, shape⟩]
    rfl
  unfold getCode
  rw [params, lift_ok_bind,
    (reads_checked _ _ (fun value => Anvil.data value "eth_getCode result")) _ _ _ _]
  simp only [Anvil.data_eq_ok_iff]
  constructor
  · rintro ⟨⟨_, rfl, rfl, isCode⟩, rfl⟩
    exact ⟨rfl, isCode, rfl⟩
  · rintro ⟨rfl, isCode, rfl⟩
    exact ⟨⟨_, rfl, rfl, isCode⟩, rfl⟩

theorem replays_requireSafe_iff {state finalState : SutState} :
    (sut.requireSafe authorization : Proc SutState Unit).Replays state said (.ok ()) finalState ↔
      requireAllowedChain sut.config.chainId = .ok () ∧
        ∃ chain code, said = [exchange "eth_chainId" [] (.ok chain),
            exchange "eth_getCode" [.str (lower sut.config.tokenAddress), .str "latest".toList]
              (.ok (.str code))] ∧
          (∃ payer authorizationTo value, textItem authorization "from" = .ok payer ∧
            textItem authorization "to" = .ok authorizationTo ∧
            item authorization "value" = .ok value ∧
            requireParties sut.config.chainId chain sut.config.tokenAddress payer
              sut.config.merchantAddress authorizationTo value sut.config.price =
                .ok (lower sut.config.tokenAddress)) ∧
          isData code = true ∧ requireDeployedCode code = .ok () ∧ finalState = state := by
  simp only [requireSafe, requireSafeSubmission, replays_lift_bind_ok_iff,
    (reads_call "eth_chainId" []).bind_ok_iff]
  constructor
  · rintro ⟨payer, isPayer, authorizationTo, isTo, value, isValue, _, allowed, chain, _, later, rfl,
      rfl, token, parties, rest⟩
    have isToken : token = lower sut.config.tokenAddress :=
      (approved_of_requireParties parties).token.trans (lower_tokenAddress sut)
    rw [isToken] at parties rest
    rcases replays_bind_ok_iff.mp rest with ⟨code, middle, asked, checked, rfl, getsCode, checks⟩
    rcases (replays_getCode_latest_iff (isExactHex_lower sut.exact)).mp getsCode with
      ⟨rfl, shape, rfl⟩
    rcases replays_lift_iff.mp checks with ⟨rfl, deployed, rfl⟩
    exact ⟨allowed, chain, code, rfl, ⟨payer, authorizationTo, value, isPayer, isTo, isValue,
      parties⟩, shape, deployed.symm, rfl⟩
  · rintro ⟨allowed, chain, code, rfl, ⟨payer, authorizationTo, value, isPayer, isTo, isValue,
      parties⟩, shape, deployed, rfl⟩
    refine ⟨payer, isPayer, authorizationTo, isTo, value, isValue, (), allowed, chain, _, _, rfl,
      rfl, _, parties, replays_bind_ok_iff.mpr ⟨code, finalState, _, [], rfl,
        (replays_getCode_latest_iff (isExactHex_lower sut.exact)).mpr ⟨rfl, shape, rfl⟩, ?_⟩⟩
    exact replays_lift_iff.mpr ⟨rfl, deployed.symm, rfl⟩

/-- A transaction is prepared exactly after the four questions have been answered well. -/
theorem replays_prepareSettlement_iff {state finalState : SutState} {transaction : Transaction} :
    (sut.prepareSettlement authorization : Proc SutState Transaction).Replays state said
        (.ok transaction) finalState ↔
      ∃ chain code count price, said = sut.preparing chain code count price ∧
        sut.Prepared authorization chain code count (gasPriceOf price) transaction ∧
        finalState = state := by
  unfold prepareSettlement
  constructor
  · intro replays
    rcases replays_bind_ok_iff.mp replays with ⟨_, _, _, _, rfl, policy, rest⟩
    rcases replays_requireSafe_iff.mp policy with
      ⟨allowed, chain, code, rfl, parties, shape, deployed, rfl⟩
    rcases replays_lift_bind_ok_iff.mp rest with ⟨calldata, built, counts⟩
    rcases ((reads_call _ _).bind_ok_iff).mp counts with ⟨count, _, _, rfl, rfl, reads⟩
    rcases replays_lift_bind_ok_iff.mp reads with ⟨nonce, isNonce, prices⟩
    rcases replays_bind_ok_iff.mp prices with ⟨_, _, _, _, rfl, priced, ends⟩
    rcases replays_gasPrice_iff.mp priced with ⟨price, rfl, same, rfl⟩
    rcases replays_pure_iff.mp ends with ⟨rfl, isTransaction, rfl⟩
    cases same
    cases isTransaction
    exact ⟨chain, .str code, count, price, rfl, ⟨allowed, parties, ⟨code, rfl, shape, deployed⟩,
      calldata, nonce, built, isNonce, rfl⟩, rfl⟩
  · rintro ⟨chain, _, count, price, rfl, ⟨allowed, parties, ⟨code, rfl, shape, deployed⟩, calldata,
      nonce, built, isNonce, rfl⟩, rfl⟩
    refine replays_bind_ok_iff.mpr ⟨(), finalState, [_, _], [_, _], rfl,
      replays_requireSafe_iff.mpr ⟨allowed, chain, code, rfl, parties, shape, deployed, rfl⟩, ?_⟩
    refine replays_lift_bind_ok_iff.mpr ⟨calldata, built,
      ((reads_call _ _).bind_ok_iff).mpr ⟨count, [_], [_], rfl, rfl,
        replays_lift_bind_ok_iff.mpr ⟨nonce, isNonce, ?_⟩⟩⟩
    exact replays_bind_ok_iff.mpr ⟨_, finalState, [_], [], rfl,
      replays_gasPrice_iff.mpr ⟨price, rfl, rfl, rfl⟩, replays_pure_iff.mpr ⟨rfl, rfl, rfl⟩⟩

/-- The signature and the broadcast. -/
def broadcasting (transaction : Transaction) (raw : Str) (answer : Except String Value) :
    Conversation :=
  [⟨Ask.sign transaction, (.ok raw : Except PyError Str)⟩,
    exchange "eth_sendRawTransaction" [.str raw] answer]

theorem replays_sendRawTransaction_iff {state finalState : SutState} {raw : Str}
    {result : Except PyError Str} (shape : isData raw = true) :
    (sendRawTransaction raw : Proc SutState Str).Replays state said result finalState ↔
      ∃ answer : Except String Value, said = [exchange "eth_sendRawTransaction" [.str raw] answer] ∧
        result = (answer.mapError PyError.rpcError).bind
          (fun value => Anvil.hash value "eth_sendRawTransaction result") ∧ finalState = state := by
  unfold sendRawTransaction
  rw [Anvil.data_eq_ok_iff.mpr ⟨rfl, shape⟩, lift_ok_bind]
  exact replays_checked_iff

/-- A prepared transaction that is signed is broadcast. -/
theorem replays_submitSettlement_of_prepared {state : SutState} {chain code count : Value}
    {price answer : Except String Value} {transaction : Transaction} {raw : Str}
    (prepared : sut.Prepared authorization chain code count (gasPriceOf price) transaction)
    (shape : isData raw = true) :
    (sut.submitSettlement authorization : Proc SutState Str).Replays state
      (sut.preparing chain code count price ++ broadcasting transaction raw answer)
      ((answer.mapError PyError.rpcError).bind
        fun value => Anvil.hash value "eth_sendRawTransaction result") state := by
  rw [submitSettlement, signSettlement_eq, bind_assoc]
  refine replays_bind_iff.mpr (Or.inl ⟨transaction, state, _, _, rfl,
    replays_prepareSettlement_iff.mpr ⟨_, _, _, _, rfl, prepared, rfl⟩, ?_⟩)
  rw [bind_assoc]
  exact replays_question_bind_iff.mpr ⟨.ok raw, _, rfl,
    (replays_sendRawTransaction_iff shape).mpr ⟨answer, rfl, rfl, rfl⟩⟩

/-- A submission broadcasts exactly when the authorization is prepared and the signer answers with
data. -/
theorem broadcasts_iff {result : Except PyError Str}
    (told : Tells (sut.submitSettlement authorization : Proc SutState Str) said result) :
    broadcasts said ≠ [] ↔ ∃ chain code count price transaction raw answer,
      sut.Prepared authorization chain code count (gasPriceOf price) transaction ∧
        isData raw = true ∧
        said = sut.preparing chain code count price ++ broadcasting transaction raw answer := by
  rcases told with ⟨state, replays⟩
  rw [submitSettlement, signSettlement_eq, bind_assoc] at replays
  constructor
  · intro issued
    rcases replays_bind_iff.mp replays with
      ⟨transaction, _, first, second, rfl, prepares, signs⟩ | ⟨_, _, prepares⟩
    · rcases replays_prepareSettlement_iff.mp prepares with
        ⟨chain, code, count, price, rfl, prepared, rfl⟩
      rw [bind_assoc] at signs
      rcases replays_question_bind_iff.mp signs with ⟨signed, rest, rfl, sends⟩
      cases signed with
      | error error =>
        rcases sends with ⟨rfl, _, _⟩
        exact absurd rfl issued
      | ok raw =>
        by_cases shape : isData raw = true
        · rcases (replays_sendRawTransaction_iff shape).mp sends with ⟨answer, rfl, _, _⟩
          exact ⟨chain, code, count, price, transaction, raw, answer, prepared, shape, rfl⟩
        · have unsent := (broadcasts_send sends).2
          rw [if_neg shape] at unsent
          rw [broadcasts_append, broadcasts_silent (silent_prepareSettlement.of_mem prepares)]
            at issued
          exact absurd unsent issued
    · exact absurd (broadcasts_silent (silent_prepareSettlement.of_mem prepares)) issued
  · rintro ⟨chain, code, count, price, transaction, raw, answer, _, _, rfl⟩
    exact List.cons_ne_nil _ _

/-- A submission succeeds exactly when the broadcast is answered with a hash. -/
theorem submitSettlement_tells_iff {txHash : Str} :
    Tells (sut.submitSettlement authorization : Proc SutState Str) said (.ok txHash) ↔
      ∃ chain code count price transaction raw,
        sut.Prepared authorization chain code count (gasPriceOf price) transaction ∧
          isData raw = true ∧ isExactHex 64 txHash = true ∧
          said = sut.preparing chain code count price ++
            broadcasting transaction raw (.ok (.str txHash)) := by
  constructor
  · rintro ⟨state, replays⟩
    rw [submitSettlement, signSettlement_eq, bind_assoc] at replays
    rcases replays_bind_ok_iff.mp replays with
      ⟨transaction, _, first, second, rfl, prepares, signs⟩
    rcases replays_prepareSettlement_iff.mp prepares with
      ⟨chain, code, count, price, rfl, prepared, rfl⟩
    rw [bind_assoc] at signs
    rcases replays_question_bind_iff.mp signs with ⟨signed, rest, rfl, sends⟩
    rcases replays_lift_bind_ok_iff.mp sends with ⟨raw, rfl, sent⟩
    have shape : isData raw = true := by
      unfold sendRawTransaction at sent
      rcases replays_lift_bind_ok_iff.mp sent with ⟨_, accepted, _⟩
      rcases Anvil.data_eq_ok_iff.mp accepted with ⟨same, isData⟩
      cases same
      exact isData
    rcases (replays_sendRawTransaction_iff shape).mp sent with ⟨answer, rfl, hashed, _⟩
    cases answer with
    | error message => cases hashed
    | ok value =>
      rcases Anvil.hash_eq_ok_iff.mp hashed.symm with ⟨rfl, exact_⟩
      exact ⟨chain, code, count, price, transaction, raw, prepared, shape, exact_, rfl⟩
  · rintro ⟨chain, code, count, price, transaction, raw, prepared, shape, exact_, rfl⟩
    have hashed : (Except.ok txHash : Except PyError Str) =
        ((Except.ok (.str txHash) : Except String Value).mapError PyError.rpcError).bind
          fun value => Anvil.hash value "eth_sendRawTransaction result" :=
      (Anvil.hash_eq_ok_iff.mpr ⟨rfl, exact_⟩).symm
    rw [hashed]
    exact ⟨⟨∅, 0⟩, replays_submitSettlement_of_prepared prepared shape⟩

/-! ### A confirmation -/

/-- One poll for a receipt. -/
def polled (txHash : Str) (answer : Except String Value) :
    Σ question : interface.Ask, interface.Answer question :=
  exchange "eth_getTransactionReceipt" [.str txHash] answer

/-- The polls until a receipt is there. -/
def polling (txHash : Str) (early : ℕ) (receipt : Fields) : Conversation :=
  List.replicate early (polled txHash (.ok .null)) ++ [polled txHash (.ok (.dict receipt))]

/-- The receipts among the answers. -/
def receipts (said : Conversation) : List Fields :=
  said.filterMap fun
    | ⟨.rpc method _, .ok (.dict receipt)⟩ =>
        if method = "eth_getTransactionReceipt" then some receipt else none
    | _ => none

omit [Interpreter] in
theorem mem_receipts {txHash : Str} {receipt : Fields}
    (mem : polled txHash (.ok (.dict receipt)) ∈ said) : receipt ∈ receipts said :=
  List.mem_filterMap.mpr ⟨_, mem, rfl⟩

theorem replays_pollReceipt_iff {txHash : Str} {tries : ℤ} {left : ℕ}
    {state finalState : SutState} {receipt : Fields} :
    (pollReceipt txHash tries left : Proc SutState Fields).Replays state said (.ok receipt)
        finalState ↔
      (∃ early < left, said = polling txHash early receipt) ∧ Anvil.ReceiptShape receipt ∧
        finalState = state := by
  induction left generalizing said with
  | zero =>
    constructor
    · rintro ⟨_, impossible, _⟩
      cases impossible
    · rintro ⟨⟨_, impossible, _⟩, _⟩
      exact absurd impossible (Nat.not_lt_zero _)
  | succ left ih =>
    rw [pollReceipt]
    rw [(reads_call _ _).bind_ok_iff]
    constructor
    · rintro ⟨answer, _, rest, rfl, rfl, checked⟩
      cases answer with
      | null =>
        rcases ih.mp checked with ⟨⟨early, few, rfl⟩, shape⟩
        exact ⟨⟨early + 1, Nat.succ_lt_succ few, rfl⟩, shape⟩
      | dict fields =>
        rcases replays_lift_iff.mp checked with ⟨rfl, accepted, same⟩
        rcases Anvil.validateReceipt_eq_ok_iff.mp accepted.symm with ⟨isDict, shape⟩
        cases isDict
        exact ⟨⟨0, Nat.succ_pos _, rfl⟩, shape, same⟩
      | _ =>
        rcases replays_lift_iff.mp checked with ⟨_, accepted, _⟩
        cases (Anvil.validateReceipt_eq_ok_iff.mp accepted.symm).1
    · rintro ⟨⟨early, few, rfl⟩, shape, same⟩
      cases early with
      | zero =>
        exact ⟨.dict receipt, [_], [], rfl, rfl, replays_lift_iff.mpr
          ⟨rfl, (Anvil.validateReceipt_eq_ok_iff.mpr ⟨rfl, shape⟩).symm, same⟩⟩
      | succ early =>
        exact ⟨.null, [_], polling txHash early receipt, rfl, rfl,
          ih.mpr ⟨⟨early, Nat.lt_of_succ_lt_succ few, rfl⟩, shape, same⟩⟩

/-- A receipt is obtained after polls that are answered with null. -/
theorem waitForReceipt_tells_iff {txHash : Str} {tries : ℤ} {receipt : Fields} :
    Tells (waitForReceipt txHash tries : Proc SutState Fields) said (.ok receipt) ↔
      isExactHex 64 txHash = true ∧ (∃ early < tries.toNat, said = polling txHash early receipt) ∧
        Anvil.ReceiptShape receipt := by
  simp only [Tells, waitForReceipt, replays_lift_bind_ok_iff, replays_pollReceipt_iff,
    Anvil.hash_eq_ok_iff, refuse_eq_ok_iff]
  constructor
  · rintro ⟨_, _, ⟨same, exact_⟩, _, _, polls, shape, _⟩
    cases same
    exact ⟨exact_, polls, shape⟩
  · rintro ⟨exact_, ⟨early, few, polls⟩, shape⟩
    exact ⟨⟨∅, 0⟩, _, ⟨rfl, exact_⟩, (), by omega, ⟨early, few, polls⟩, shape, trivial⟩

theorem raises_pollReceipt {txHash : Str} {tries : ℤ} (left : ℕ) :
    (pollReceipt txHash tries left : Proc SutState Fields).Raises Anvil.ByClient := by
  induction left with
  | zero => exact rfl
  | succ left ih =>
    rw [pollReceipt]
    apply Raises.bind
    · apply (raises_question _).bind
      intro answer
      cases answer with
      | error message => exact rfl
      | ok value => trivial
    · intro receipt
      cases receipt with
      | null => exact ih
      | _ => exact raises_lift Anvil.failsOnly_validateReceipt

/-- A service that polls at all waits in vain only with an error of the client. -/
theorem byClient_of_waitForReceipt {txHash : Str} {tries : ℤ} {error : PyError}
    (shape : isExactHex 64 txHash = true) (positive : 0 < tries)
    (failed : Tells (waitForReceipt txHash tries : Proc SutState Fields) said (.error error)) :
    Anvil.ByClient error := by
  rcases failed with ⟨state, replays⟩
  rw [waitForReceipt, Anvil.hash_eq_ok_iff.mpr ⟨rfl, shape⟩, lift_ok_bind,
    refuse_of_fails (not_le.mpr positive), lift_ok_bind] at replays
  exact (raises_pollReceipt _).of_replays replays

theorem getLogs_tells_iff {token : Str} {topics : List (Option Str)} {fromBlock toBlock : BlockId}
    {filter : Value} {result : Except PyError (List Fields)}
    (filtered : logFilter token topics fromBlock toBlock = .ok filter) :
    Tells (getLogs token topics fromBlock toBlock : Proc SutState (List Fields)) said result ↔
      ∃ answer : Except String Value, said = [exchange "eth_getLogs" [filter] answer] ∧
        result = (answer.mapError PyError.rpcError).bind checkLogs := by
  simp only [Tells, getLogs, filtered, lift_ok_bind, replays_checked_iff]
  constructor
  · rintro ⟨_, answer, rfl, rfl, _⟩
    exact ⟨answer, rfl, rfl⟩
  · rintro ⟨answer, rfl, rfl⟩
    exact ⟨⟨∅, 0⟩, answer, rfl, rfl, trivial⟩

/-- The confirmer looks at the logs of the block of a mined receipt. -/
theorem watched_iff {settlement : Settlement} {receipt : Fields} {result : Except PyError (Option ℤ)}
    {blockNumber : ℤ} (mined : minedIn settlement receipt = some blockNumber) :
    Watched settlement (some receipt) said result ↔
      ∃ fetched, Tells (getLogs settlement.token [some topicTransfer,
          some (topicAddr settlement.payer), some (topicAddr settlement.payee)]
          (.number blockNumber) (.tag "latest") : Proc SutState (List Fields)) said fetched ∧
        result = fetched.map (transferIndex topicTransfer settlement receipt blockNumber) := by
  rw [Watched, EventWatchingConfirmer.settlementLogIndex.eq_def]
  dsimp only
  rw [mined]
  constructor
  · rintro ⟨state, replays⟩
    rcases stateless_getLogs.bind_iff.mp replays with
      ⟨logs, first, _, rfl, told, rfl, rfl, _⟩ | ⟨error, rfl, failed, _⟩
    · rw [List.append_nil]
      exact ⟨.ok logs, told, rfl⟩
    · exact ⟨.error error, failed, rfl⟩
  · rintro ⟨fetched, told, rfl⟩
    refine ⟨⟨∅, 0⟩, stateless_getLogs.bind_iff.mpr ?_⟩
    cases fetched with
    | error error => exact Or.inr ⟨error, rfl, told, rfl⟩
    | ok logs => exact Or.inl ⟨logs, said, [], (List.append_nil said).symm, told, rfl, rfl, rfl⟩

omit [Interpreter] in
theorem tells_pure_iff {α : Type} {value : α} {result : Except PyError α} :
    Tells (pure value : Proc SutState α) said result ↔ said = [] ∧ result = .ok value := by
  constructor
  · rintro ⟨_, silent, same, _⟩
    exact ⟨silent, same⟩
  · rintro ⟨silent, same⟩
    exact ⟨⟨∅, 0⟩, silent, same, rfl⟩

/-- Nothing is asked about a receipt that does not fit. -/
theorem watched_unmined_iff {settlement : Settlement} {receipt : Fields}
    {result : Except PyError (Option ℤ)} (unmined : minedIn settlement receipt = none) :
    Watched settlement (some receipt) said result ↔ said = [] ∧ result = .ok none := by
  rw [Watched, EventWatchingConfirmer.settlementLogIndex.eq_def]
  dsimp only
  rw [unmined]
  exact tells_pure_iff

/-- Nothing is asked without a receipt. -/
theorem watched_none_iff {settlement : Settlement} {result : Except PyError (Option ℤ)} :
    Watched settlement none said result ↔ said = [] ∧ result = .ok none :=
  tells_pure_iff

/-! ### What a submission guarantees to its confirmation -/

omit [Interpreter] in
theorem removePrefix0x_of_all {text : Str} (all : text.all isHexDigit = true) :
    removePrefix0x text = text := by
  unfold removePrefix0x
  split
  · rename_i rest
    have digit := List.all_eq_true.mp all 'x' (by simp)
    cases digit
  · rfl

theorem removePrefix0x_lower {text : Str} {number : ℕ}
    (spelled : lower (removePrefix0x text) = hexPad 40 number) :
    removePrefix0x (lower text) = hexPad 40 number := by
  unfold removePrefix0x at spelled
  split at spelled
  · exact spelled
  · rw [spelled]
    exact removePrefix0x_of_all (all_hexPad 40 number)

theorem topicAddr_shape {addr : Str} {number : ℕ}
    (spelled : lower (removePrefix0x addr) = hexPad 40 number) :
    isExactHex 64 (topicAddr addr) = true := by
  rw [topicAddr, removePrefix0x_lower spelled]
  apply isExactHex_iff.mpr
  refine ⟨_, rfl, ?_, ?_⟩
  · simp [rjustZero]
  · rw [rjustZero, List.all_append, all_hexPad, Bool.and_true]
    exact List.all_eq_true.mpr fun c mem => by rw [List.eq_of_mem_replicate mem]; decide

theorem Encodes.filtered {encoded : Authorization} {payer : Str} {blockNumber : ℤ}
    (encodes : sut.Encodes authorization encoded)
    (isPayer : textItem authorization "from" = .ok payer) (nonnegative : 0 ≤ blockNumber) :
    ∃ filter, logFilter sut.config.tokenAddress [some topicTransfer, some (topicAddr payer),
      some (topicAddr sut.config.merchantAddress)] (.number blockNumber) (.tag "latest") =
        .ok filter := by
  rcases encodes.fromAddr with ⟨text, isText, spelled⟩
  rw [isPayer] at isText
  cases isText
  have payerTopic : isExactHex 64 (topicAddr payer) = true := by
    rcases spelled with ⟨_, same, shape, number⟩
    cases same
    apply topicAddr_shape
    rw [removePrefix0x_exact shape]
    exact lower_drop_eq_hexPad shape
  have topics : ∀ topic ∈ [topicTransfer, topicAddr payer, topicAddr sut.config.merchantAddress],
      isExactHex 64 topic = true := by
    simp only [List.mem_cons, List.not_mem_nil, or_false, forall_eq_or_imp, forall_eq]
    exact ⟨isExactHex_hexPad 64 _, payerTopic, topicAddr_shape encodes.toAddr⟩
  have addressed : Anvil.address (.str sut.config.tokenAddress) "eth_getLogs address" =
      .ok sut.config.tokenAddress := Anvil.address_eq_ok_iff.mpr ⟨rfl, sut.exact⟩
  have few : ¬16 < ([some topicTransfer, some (topicAddr payer),
      some (topicAddr sut.config.merchantAddress)] : List (Option Str)).length := by simp
  have listed : ([some topicTransfer, some (topicAddr payer),
      some (topicAddr sut.config.merchantAddress)] : List (Option Str)).filterMap id =
        [topicTransfer, topicAddr payer, topicAddr sut.config.merchantAddress] := rfl
  rw [logFilter, addressed, Checks.ok_bind, refuse_of_fails few, Checks.ok_bind, listed,
    Anvil.decodeAll_topics topics, Checks.ok_bind, Anvil.blockParam_number nonnegative]
  exact ⟨_, rfl⟩

theorem Encodes.settlementFor {encoded : Authorization} {order : Order} {txHash : Str}
    (encodes : sut.Encodes authorization encoded) :
    ∃ payer nonce, textItem authorization "from" = .ok payer ∧
      textItem authorization "nonce" = .ok nonce ∧
      sut.settlementFor order authorization txHash = .ok ⟨sut.config.tokenAddress, payer,
        sut.config.merchantAddress, order.amount, nonce, txHash, order.createdBlock⟩ := by
  rcases encodes.fromAddr with ⟨payer, isPayer, _⟩
  rcases encodes.nonce with ⟨nonce, isNonce, _⟩
  refine ⟨payer, nonce, isPayer, isNonce, ?_⟩
  rw [ReferenceSut.settlementFor, isPayer, Checks.ok_bind, isNonce, Checks.ok_bind]
  rfl

variable (sut authorization) in
/-- A transaction that the node has accepted, with the authorization in it. -/
structure Accepted (txHash : Str) : Prop where
  shape : isExactHex 64 txHash = true
  allowed : sut.config.chainId ∈ allowedSettlementChainIds
  encodes : ∃ encoded, sut.Encodes authorization encoded

theorem accepted_of_submitted {txHash : Str}
    (told : Tells (sut.submitSettlement authorization : Proc SutState Str) said (.ok txHash)) :
    sut.Accepted authorization txHash ∧
      ∃ raw, exchange "eth_sendRawTransaction" [.str raw] (.ok (.str txHash)) ∈ said := by
  rcases submitSettlement_tells_iff.mp told with
    ⟨chain, code, count, price, transaction, raw, prepared, _, shape, rfl⟩
  have safe := safe_of_prepareSettlement (replays_prepareSettlement_iff.mpr
    ⟨chain, code, count, price, rfl, prepared, (rfl : (⟨∅, 0⟩ : SutState) = ⟨∅, 0⟩)⟩)
  rcases safe.data with ⟨encoded, encodes, _⟩
  exact ⟨⟨shape, safe.allowed, encoded, encodes⟩, raw,
    List.mem_append_right _ (List.mem_cons_of_mem _ List.mem_cons_self)⟩

/-- Every question about logs is answered with logs. -/
def LogsAnswered (said : Conversation) : Prop :=
  ∀ params answer, exchange "eth_getLogs" params answer ∈ said →
    ∃ value logs, answer = .ok value ∧ checkLogs value = .ok logs

theorem nonnegative_of_mined {settlement : Settlement} {receipt : Fields} {blockNumber : ℤ}
    (valid : Anvil.ReceiptShape receipt) (mined : minedIn settlement receipt = some blockNumber) :
    0 ≤ blockNumber := by
  rcases valid.blockNumber with ⟨text, isText, shape⟩
  have isNumber := (minedIn_eq_some_iff.mp mined).2.2.2.1
  rw [isText] at isNumber
  rw [int16_of_isQuantity shape isNumber]
  exact Int.natCast_nonneg _

/-- The confirmer has an answer about every accepted transaction when the node has logs. -/
theorem Judged.of_answered {order : Order} {txHash : Str} {receipt : Fields}
    {result : Except PyError PayResponse} {change : Order → Order}
    (judged : sut.Judged order authorization txHash (some receipt) said result change)
    (accepted : sut.Accepted authorization txHash) (valid : Anvil.ReceiptShape receipt)
    (answered : LogsAnswered said) :
    (result = .ok (.judged order.orderId txHash false) ∧ change = Order.resolved) ∨
      ∀ given, (change given).paid = true := by
  rcases accepted.encodes with ⟨encoded, encodes⟩
  rcases @Encodes.settlementFor _ sut authorization encoded order txHash encodes with
    ⟨payer, nonce, isPayer, _, isSettlement⟩
  cases judged with
  | unread unread =>
    rw [isSettlement] at unread
    cases unread
  | @failed settlement _ error read watched =>
    rw [isSettlement] at read
    cases read
    cases mined : minedIn ⟨sut.config.tokenAddress, payer, sut.config.merchantAddress, order.amount,
      nonce, txHash, order.createdBlock⟩ receipt with
    | none =>
      cases ((watched_unmined_iff mined).mp watched).2
    | some blockNumber =>
      rcases (watched_iff mined).mp watched with ⟨fetched, told, isFetched⟩
      rcases encodes.filtered isPayer (nonnegative_of_mined valid mined) with ⟨filter, filtered⟩
      rcases (getLogs_tells_iff filtered).mp told with ⟨answer, rfl, rfl⟩
      rcases answered _ _ (List.mem_singleton.mpr rfl) with ⟨value, logs, rfl, checked⟩
      rw [Except.mapError, Except.bind, checked] at isFetched
      cases isFetched
  | unsettled => exact Or.inl ⟨rfl, rfl⟩
  | unidentified => exact Or.inr fun _ => rfl
  | settled => exact Or.inr fun _ => rfl

/-! ### A sample payment -/

omit [Interpreter] in
/-- A hardened service of the merchant `0xb2` for the token `0x70`. -/
def sampleSut : ReferenceSut where
  config :=
    { tokenAddress := hexAddress 0x70, merchantAddress := hexAddress 0xb2, chainId := 31337,
      tokenName := "USDC".toList, tokenVersion := "2".toList, price := 100, gas := 300000,
      reconciliationEnabled := true, quoteTtl := 300, repriceOnPay := false,
      repriceTolerance := some 0, idempotentPay := true, confirmWithoutWaiting := false,
      receiptTries := 3 }
  accountAddress := hexAddress 0xac
  exact := isExactHex_hexPad 40 _

omit [Interpreter] in
/-- An authorization of the payer `0xa1`. -/
def sampleAuthorization : Fields :=
  [(.str "from", .str (hexAddress 0xa1)), (.str "to", .str (hexAddress 0xb2)),
    (.str "value", .int 100), (.str "validAfter", .int 0), (.str "validBefore", .int 1000),
    (.str "nonce", .str (hexWord 0x77)), (.str "signature", .str ('0' :: 'x' :: hexPad 130 0x1b))]

omit [Interpreter] in
theorem exists_ok_of_isSome {α : Type} {computation : Except PyError α}
    (isSome : computation.toOption.isSome = true) : ∃ value, computation = .ok value := by
  cases computation with
  | error error => cases isSome
  | ok value => exact ⟨value, rfl⟩

omit [Interpreter] in
theorem exists_sampleTransaction : letI := asciiInterpreter []
    ∃ transaction, sampleSut.Prepared sampleAuthorization (.str "0x7a69".toList)
      (.str "0x01".toList) (.str "0x0".toList) (gasPriceOf (.ok (.str "0x1".toList)))
      transaction := by
  let := asciiInterpreter []
  have encoded : ∃ calldata, calldataOf sampleAuthorization = .ok calldata := by
    apply exists_ok_of_isSome
    decide +kernel
  rcases encoded with ⟨calldata, built⟩
  refine ⟨_, ⟨by decide, ⟨hexAddress 0xa1, hexAddress 0xb2, .int 100, ?_, ?_, ?_, ?_⟩,
    ⟨_, rfl, by decide, by decide +kernel⟩, calldata, 0, built, ?_, rfl⟩⟩
  · rfl
  · rfl
  · rfl
  · decide +kernel
  · decide +kernel

omit [Interpreter] in
/-- What is said when the sample authorization is submitted and the node accepts it. -/
def sampleSent (transaction : Transaction) : Conversation :=
  sampleSut.preparing (.str "0x7a69".toList) (.str "0x01".toList) (.str "0x0".toList)
      (.ok (.str "0x1".toList)) ++
    broadcasting transaction "0x01".toList (.ok (.str (hexWord 0x1001)))

omit [Interpreter] in
theorem exists_sampleSubmission : letI := asciiInterpreter []
    ∃ transaction, Tells (sampleSut.submitSettlement sampleAuthorization : Proc SutState Str)
      (sampleSent transaction) (.ok (hexWord 0x1001)) := by
  let := asciiInterpreter []
  rcases exists_sampleTransaction with ⟨transaction, prepared⟩
  exact ⟨transaction, submitSettlement_tells_iff.mpr ⟨_, _, _, _, transaction, _, prepared,
    by decide, isExactHex_hexPad 64 _, rfl⟩⟩

/-- A poll that fails. -/
theorem waitForReceipt_tells_failed {txHash : Str} {tries : ℤ} {message : String}
    (shape : isExactHex 64 txHash = true) (positive : 0 < tries) :
    Tells (waitForReceipt txHash tries : Proc SutState Fields) [polled txHash (.error message)]
      (.error (.rpcError message)) := by
  refine ⟨⟨∅, 0⟩, ?_⟩
  rcases Int.eq_succ_of_zero_lt positive with ⟨left, rfl⟩
  rw [waitForReceipt, Anvil.hash_eq_ok_iff.mpr ⟨rfl, shape⟩, lift_ok_bind,
    refuse_of_fails (not_le.mpr positive), lift_ok_bind]
  exact ⟨_, [], rfl, rfl, rfl, rfl⟩

omit [Interpreter] in
theorem sample_mined : letI := asciiInterpreter []
    minedIn sampleSettlement (sampleReceipt (hexWord 100)) = some 1 := by
  decide +kernel

omit [Interpreter] in
/-- What is said when the logs of the sample settlement are fetched. -/
def sampleFetched (filter : Value) : Conversation :=
  [exchange "eth_getLogs" [filter] (.ok (.list [.dict (sampleTransfer (hexWord 100))]))]

omit [Interpreter] in
/-- The confirmer finds the transfer in the sample receipt. -/
theorem exists_sampleWatch : letI := asciiInterpreter []
    ∃ filter, Watched sampleSettlement (some (sampleReceipt (hexWord 100))) (sampleFetched filter)
      (.ok (some 1)) := by
  let := asciiInterpreter []
  have found : transferIndex topicTransfer sampleSettlement (sampleReceipt (hexWord 100)) 1
      [sampleTransfer (hexWord 100)] = some 1 := by
    decide +kernel
  have filtered : ∃ filter, logFilter sampleSettlement.token [some topicTransfer,
      some (topicAddr sampleSettlement.payer), some (topicAddr sampleSettlement.payee)] (.number 1)
      (.tag "latest") = .ok filter := by
    apply exists_ok_of_isSome
    decide +kernel
  rcases filtered with ⟨filter, filtered⟩
  refine ⟨filter, (watched_iff sample_mined).mpr ⟨.ok [sampleTransfer (hexWord 100)],
    (getLogs_tells_iff filtered).mpr ⟨.ok (.list [.dict (sampleTransfer (hexWord 100))]), rfl,
      ?_⟩, ?_⟩⟩
  · have shape : ∀ log ∈ [sampleTransfer (hexWord 100)], Anvil.LogShape log := by
      intro log mem
      rw [List.mem_singleton.mp mem]
      exact sampleLog_shape (by decide) (by decide) (by decide)
    exact (checkLogs_eq_ok_iff.mpr ⟨rfl, by decide, shape⟩).symm
  · rw [← found]
    rfl

end ReferenceSut

end Psv
