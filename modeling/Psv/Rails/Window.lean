import Psv.Rails.Reconcile

/-!
# The observation window

A run of `reconcileLive` that returns has read a `Window`: the answers, in the
order of its questions, together with what was decoded from them.  The window
is `Accepted` when it passes every check of the program.  The main result,
`replays_reconcileLive_ok_iff`, says that the program returns exactly on the
transcripts of accepted windows; everything that is proved about verdicts is
proved about accepted windows.
-/

namespace Psv

open Python Interaction Program RpcClient Anvil Chain

namespace Rails

variable [Interpreter] {σ : Type} {state finalState : σ} {said : Conversation}

/-! ### The exchanges of a window -/

section Exchanges

omit [Interpreter]

def blockSaid (selector : Str) (block : Fields) :
    Σ question : interface.Ask, interface.Answer question :=
  exchange "eth_getBlockByNumber" [.str selector, .bool false] (.ok (.dict block))

def receiptSaid (txHash : Str) (receipt : Fields) :
    Σ question : interface.Ask, interface.Answer question :=
  exchange "eth_getTransactionReceipt" [.str txHash] (.ok (.dict receipt))

def codeSaid (target : Str) (number : ℕ) (code : Str) :
    Σ question : interface.Ask, interface.Answer question :=
  exchange "eth_getCode" [.str target, .str (pyHex number)] (.ok (.str code))

def callSaid (target payload : Str) (number : ℕ) (word : Str) :
    Σ question : interface.Ask, interface.Answer question :=
  exchange "eth_call" (callAt target payload number) (.ok (.str word))

def slotSaid (target slot : Str) (number : ℕ) (word : Str) :
    Σ question : interface.Ask, interface.Answer question :=
  exchange "eth_getStorageAt" [.str target, .str slot, .str (pyHex number)] (.ok (.str word))

/-- The members of a filter for the logs of one block. -/
def filterFields (target : Str) (topics : List (Option Str)) (number : ℕ) : Fields :=
  [(.str "address", .str target), (.str "topics", .list (topics.map topicValue)),
    (.str "fromBlock", .str (pyHex number)), (.str "toBlock", .str (pyHex number))]

/-- The filter for the transfers of one block. -/
def transferFilter (target : Str) (topics : List (Option Str)) (number : ℕ) : Value :=
  .dict (filterFields target topics number)

def logsSaid (target : Str) (topics : List (Option Str)) (number : ℕ) (logs : List Fields) :
    Σ question : interface.Ask, interface.Answer question :=
  exchange "eth_getLogs" [transferFilter target topics number] (.ok (.list (logs.map .dict)))

end Exchanges

/-! ### Arguments -/

/-- What the argument checks guarantee. -/
structure ArgumentsOk (token : TokenView) (rail : RailConfig) (payment : Payment) : Prop where
  sameToken : lower token.address = lower rail.tokenAddress
  txShape : isExactHex 64 payment.transactionHash = true
  nonceShape : isExactHex 64 payment.nonce = true
  logIndex : 0 ≤ payment.logIndex ∧ payment.logIndex ≤ uint256Max
  requiredAmount : 1 ≤ payment.requiredAmount ∧ payment.requiredAmount ≤ uint256Max
  payerBefore : 0 ≤ payment.payerBefore ∧ payment.payerBefore ≤ uint256Max
  payeeBefore : 0 ≤ payment.payeeBefore ∧ payment.payeeBefore ≤ uint256Max

theorem exactHash_str_eq_ok_iff {text hash : Str} {what : String} :
    exactHash (.str text) what = .ok hash ↔ isExactHex 64 text = true ∧ hash = lower text := by
  by_cases shape : isExactHex 64 text = true <;> simp [exactHash, shape, eq_comm]

theorem checkArguments_eq_ok_iff {token : TokenView} {rail : RailConfig} {payment : Payment}
    {txHash : Str} :
    checkArguments token rail payment = .ok txHash ↔
      ArgumentsOk token rail payment ∧ txHash = lower payment.transactionHash := by
  simp only [checkArguments, checkAmount, Checks.bind_eq_ok_iff, refuse_eq_ok_iff, exists_const,
    exactHash_str_eq_ok_iff, ne_eq, not_not, Bool.not_eq_false, pure, Except.pure,
    Except.ok.injEq]
  constructor
  · rintro ⟨sameToken, _, ⟨txShape, rfl⟩, nonceShape, logIndex, required, payer, payee, rfl⟩
    exact ⟨⟨sameToken, txShape, nonceShape, logIndex, required, payer, payee⟩, rfl⟩
  · rintro ⟨ok, rfl⟩
    exact ⟨ok.sameToken, _, ⟨ok.txShape, rfl⟩, ok.nonceShape, ok.logIndex, ok.requiredAmount,
      ok.payerBefore, ok.payeeBefore, rfl⟩

/-! ### Blocks -/

/-- A validated block with this number and hash. -/
structure BlockOk (block : Fields) (number : ℕ) (hash : Str) : Prop where
  shape : BlockShape block
  number : QuantityAt block "number" number
  hash : HashAt block "hash" hash

/-- The reviewed block, when the attestation has one to be checked. -/
def AnchorOk (rail : RailConfig) (reviewed : Option Fields) : Prop :=
  match reviewAnchor rail, reviewed with
  | none, none => True
  | some number, some block => ∃ hash, BlockOk block number.toNat hash ∧
      rail.attestation.reviewedBlockHash = some hash
  | _, _ => False

omit [Interpreter] in
def anchorSaid (rail : RailConfig) (reviewed : Option Fields) : Conversation :=
  match reviewAnchor rail, reviewed with
  | some number, some block => [blockSaid (pyHex number.toNat) block]
  | _, _ => []

omit [Interpreter] in
theorem reviewAnchor_nonneg {rail : RailConfig} {number : ℤ}
    (anchored : reviewAnchor rail = some number) : 0 ≤ number := by
  unfold reviewAnchor at anchored
  split at anchored
  · exact rail.attestation.valid.reviewedNumber number anchored
  · cases anchored

theorem reads_verifyReviewAnchor (rail : RailConfig) :
    Reads (verifyReviewAnchor rail : Proc σ Unit) fun _ said =>
      ∃ reviewed, AnchorOk rail reviewed ∧ said = anchorSaid rail reviewed := by
  intro state said result finalState
  unfold verifyReviewAnchor
  rcases anchored : reviewAnchor rail with _ | number
  · simp only [replays_pure_iff, true_and, AnchorOk, anchorSaid, anchored]
    constructor
    · rintro ⟨rfl, rfl⟩
      exact ⟨⟨none, trivial, rfl⟩, rfl⟩
    · rintro ⟨⟨_, _, rfl⟩, rfl⟩
      exact ⟨rfl, rfl⟩
  · have nonnegative := reviewAnchor_nonneg anchored
    have cast : ((number.toNat : ℕ) : ℤ) = number := Int.toNat_of_nonneg nonnegative
    simp only [(reads_getBlock _).bind_ok_iff, replays_lift_bind_ok_iff,
      blockParam_number nonnegative, Except.ok.injEq, exists_eq_left', replays_lift_iff, AnchorOk,
      anchorSaid, anchored]
    constructor
    · rintro ⟨block, _, _, ⟨rfl, shape⟩, rfl, ⟨found, hash⟩, identified, rfl, checked, rfl⟩
      obtain ⟨numbered, hashed⟩ := blockIdentity_eq_ok_iff.mp identified
      have matched := refuse_eq_ok_iff.mp checked.symm
      simp only [ne_eq, not_or, not_not] at matched
      obtain rfl : found = number.toNat := by omega
      exact ⟨⟨some block, ⟨hash, ⟨shape, numbered, hashed⟩, matched.2.symm⟩, rfl⟩, rfl⟩
    · rintro ⟨⟨reviewed, ok, rfl⟩, rfl⟩
      rcases reviewed with _ | block
      · exact ok.elim
      · obtain ⟨hash, blockOk, pinned⟩ := ok
        refine ⟨block, _, [], ⟨rfl, blockOk.shape⟩, rfl, (number.toNat, hash),
          blockIdentity_eq_ok_iff.mpr ⟨blockOk.number, blockOk.hash⟩, rfl, ?_, rfl⟩
        rw [eq_comm, refuse_eq_ok_iff]
        simp [cast, pinned]

/-- The receipt belongs to the transaction, and its place is deep enough. -/
structure PointOk (rail : RailConfig) (finalityNumber : ℕ) (txHash : Str) (receipt : Fields)
    (point : SettlementPoint) : Prop where
  shape : ReceiptShape receipt
  transaction : HashAt receipt "transactionHash" txHash
  number : QuantityAt receipt "blockNumber" point.number
  hash : HashAt receipt "blockHash" point.hash
  status : QuantityAt receipt "status" point.status
  confirmations : point.confirmations = finalityNumber - point.number + 1
  deep : rail.finality.minimumConfirmations ≤ point.confirmations

theorem settlementPoint_eq_ok_iff {rail : RailConfig} {finalityNumber : ℕ} {txHash : Str}
    {receipt : Fields} {point : SettlementPoint} (shape : ReceiptShape receipt) :
    settlementPoint rail finalityNumber txHash receipt = .ok point ↔
      PointOk rail finalityNumber txHash receipt point := by
  simp only [settlementPoint, Checks.bind_eq_ok_iff, exactHash_eq_ok_iff, quantity_eq_ok_iff,
    refuse_eq_ok_iff, exists_const, ne_eq, not_not, not_lt, pure, Except.pure, Except.ok.injEq]
  constructor
  · rintro ⟨_, transaction, rfl, number, numbered, hash, hashed, status, graded, deep, rfl⟩
    exact ⟨shape, transaction, numbered, hashed, graded, rfl, deep⟩
  · intro ok
    refine ⟨txHash, ok.transaction, rfl, _, ok.number, _, ok.hash, _, ok.status, ?_, ?_⟩
    · rw [← ok.confirmations]
      exact ok.deep
    · rw [← ok.confirmations]

omit [Interpreter] in
/-- A validated receipt is either successful or reverted. -/
theorem PointOk.status_cases [Interpreter] {rail : RailConfig} {finalityNumber : ℕ} {txHash : Str}
    {receipt : Fields} {point : SettlementPoint}
    (ok : PointOk rail finalityNumber txHash receipt point) :
    point.status = 0 ∨ point.status = 1 := by
  obtain ⟨text, is, shape, binary⟩ := ok.shape.status
  have equal := ok.status.unique ⟨text, is, shape, rfl⟩
  omega

theorem checkCanonical_eq_ok_iff {point : SettlementPoint} {canonical : Fields} {result : Unit}
    (shape : BlockShape canonical) :
    checkCanonical point canonical = .ok result ↔
      BlockOk canonical point.number point.hash := by
  simp only [checkCanonical, Checks.bind_eq_ok_iff, Prod.exists, blockIdentity_eq_ok_iff,
    refuse_eq_ok_iff, ne_eq, not_or, not_not]
  constructor
  · rintro ⟨_, _, ⟨numbered, hashed⟩, rfl, rfl⟩
    exact ⟨shape, numbered, hashed⟩
  · intro ok
    exact ⟨_, _, ⟨ok.number, ok.hash⟩, rfl, rfl⟩

/-! ### Code -/

/-- Deployed code with this fingerprint. -/
def CodeOk (code sha : Str) : Prop :=
  isData code = true ∧ ∃ raw, fromHex (code.drop 2) = some raw ∧ raw ≠ [] ∧
    sha = Interpreter.sha256 raw

theorem checkTokenCode_eq_ok_iff {rail : RailConfig} {code sha : Str}
    (shape : isData code = true) :
    checkTokenCode rail code = .ok sha ↔
      CodeOk code sha ∧ ∀ expected ∈ rail.attestation.expectedCodeSha256, sha = expected := by
  simp only [checkTokenCode, Checks.bind_eq_ok_iff, codeFingerprint_eq_ok_iff shape,
    refuse_eq_ok_iff, exists_const, not_exists, not_and, ne_eq, not_not, pure, Except.pure,
    Except.ok.injEq, CodeOk, shape, true_and]
  constructor
  · rintro ⟨_, hashed, expected, rfl⟩
    exact ⟨hashed, expected⟩
  · rintro ⟨hashed, expected⟩
    exact ⟨sha, hashed, expected, rfl⟩

/-- The slot word and the code behind it are the attested ones. -/
def ImplementationOk (rail : RailConfig) (read : Option (Str × Str))
    (identity : Option Str × Option Str) : Prop :=
  match read with
  | none => rail.attestation.proxyKind = .none ∧ identity = (none, none)
  | some (word, code) =>
      rail.attestation.proxyKind ≠ .none ∧
        ∃ slot address sha, rail.attestation.proxyImplementationSlot = some slot ∧
          rail.attestation.implementationAddress = some address ∧
          rail.attestation.implementationCodeSha256 = some sha ∧
          isExactHex 64 word = true ∧ (word.drop 2).take 24 = List.replicate 24 '0' ∧
          '0' :: 'x' :: lower (word.drop (word.length - 40)) = lower address ∧
          CodeOk code sha ∧ identity = (some (lower address), some sha)

def implementationSaid (rail : RailConfig) (number : ℕ) (read : Option (Str × Str)) :
    Conversation :=
  match read with
  | none => []
  | some (word, code) =>
      [slotSaid rail.tokenAddress (rail.attestation.proxyImplementationSlot.getD []) number word,
        codeSaid (lower (rail.attestation.implementationAddress.getD [])) number code]

theorem observedImplementation_eq_ok_iff {word : Value} {expected observed : Str} :
    observedImplementation word expected = .ok observed ↔
      ∃ text, word = .str text ∧ isExactHex 64 text = true ∧
        (text.drop 2).take 24 = List.replicate 24 '0' ∧
        '0' :: 'x' :: lower (text.drop (text.length - 40)) = lower expected ∧
        observed = lower expected := by
  cases word with
  | str text =>
      simp only [observedImplementation, Checks.bind_eq_ok_iff, refuse_eq_ok_iff, exists_const,
        ne_eq, not_not, Bool.not_eq_false, pure, Except.pure, Except.ok.injEq, Value.str.injEq]
      constructor
      · rintro ⟨shape, padded, equal, rfl⟩
        exact ⟨text, rfl, shape, padded, equal, equal⟩
      · rintro ⟨_, rfl, shape, padded, equal, rfl⟩
        exact ⟨shape, padded, equal, equal⟩
  | _ => simp [observedImplementation]

theorem reads_implementationIdentity (rail : RailConfig) (number : ℕ) :
    Reads (implementationIdentity rail number : Proc σ (Option Str × Option Str))
      fun identity said => ∃ read, ImplementationOk rail read identity ∧
        said = implementationSaid rail number read := by
  intro state said identity finalState
  unfold implementationIdentity
  split
  · rename_i plain
    simp only [replays_pure_iff, Except.ok.injEq]
    constructor
    · rintro ⟨rfl, rfl, rfl⟩
      exact ⟨⟨none, ⟨plain, rfl⟩, rfl⟩, rfl⟩
    · rintro ⟨⟨read, ok, rfl⟩, rfl⟩
      rcases read with _ | ⟨word, code⟩
      · exact ⟨rfl, ok.2, rfl⟩
      · exact absurd plain ok.1
  · rename_i proxied
    have proxy : rail.attestation.proxyKind ≠ .none := fun plain => proxied plain
    split
    · rename_i slot address sha slotEq addressEq shaEq
      have addressShape := rail.attestation.valid.implementation address addressEq
      simp only [(reads_call _ _).bind_ok_iff, replays_lift_bind_ok_iff,
        (reads_getCode _ number).bind_ok_iff, refuse_eq_ok_iff, exists_const, ne_eq, not_not,
        replays_pure_iff, Except.ok.injEq]
      constructor
      · rintro ⟨word, _, _, rfl, rfl, observed, seen, code, _, _, ⟨_, rfl, codeShape⟩, rfl, found,
          hashed, rfl, rfl, rfl, rfl⟩
        obtain ⟨text, rfl, shape, padded, same, rfl⟩ := observedImplementation_eq_ok_iff.mp seen
        have fingerprint := (codeFingerprint_eq_ok_iff codeShape).mp hashed
        refine ⟨⟨some (text, code), ⟨proxy, slot, address, found, slotEq, addressEq, shaEq,
          shape, padded, same, ⟨codeShape, fingerprint⟩, rfl⟩, ?_⟩, rfl⟩
        simp [implementationSaid, slotEq, addressEq, slotSaid, codeSaid]
      · rintro ⟨⟨read, ok, rfl⟩, rfl⟩
        rcases read with _ | ⟨word, code⟩
        · exact absurd ok.1 proxy
        · obtain ⟨_, slot', address', sha', slotEq', addressEq', shaEq', shape, padded, same,
            codeOk, rfl⟩ := ok
          obtain rfl : slot = slot' := by simpa [slotEq] using slotEq'
          obtain rfl : address = address' := by simpa [addressEq] using addressEq'
          obtain rfl : sha = sha' := by simpa [shaEq] using shaEq'
          refine ⟨.str word, _, _, rfl, ?_, lower address,
            observedImplementation_eq_ok_iff.mpr ⟨word, rfl, shape, padded, same, rfl⟩, code, _,
            [], ⟨isExactHex_lower addressShape, rfl, codeOk.1⟩, rfl, sha,
            (codeFingerprint_eq_ok_iff codeOk.1).mpr codeOk.2, rfl, rfl, rfl, rfl⟩
          simp [implementationSaid, slotEq, addressEq, slotSaid, codeSaid]
    · rename_i incomplete
      simp only [replays_raise_iff, reduceCtorEq, false_and, and_false, false_iff, not_and]
      rintro ⟨read, ok, _⟩
      rcases read with _ | ⟨word, code⟩
      · exact absurd ok.1 proxy
      · obtain ⟨_, slot, address, sha, slotEq, addressEq, shaEq, _⟩ := ok
        exact absurd shaEq (incomplete slot address sha slotEq addressEq)

/-! ### Balances and nonce -/

/-- The raw words of a snapshot. -/
structure SnapshotWords where
  payerParent : Str
  payeeParent : Str
  payerAfter : Str
  payeeAfter : Str
  nonce : Str

/-- A 32-byte word with this value. -/
def WordIs (word : Str) (n : ℕ) : Prop := isExactHex 64 word = true ∧ n = hexVal (word.drop 2)

/-- The words decode to the snapshot, and the caller knew the balances before. -/
structure SnapshotOk (payment : Payment) (number : ℕ) (words : SnapshotWords)
    (snapshot : Snapshot) : Prop where
  afterGenesis : 0 < number
  payerShape : isExactHex 40 payment.payer = true
  payeeShape : isExactHex 40 payment.payee = true
  nonceShape : isExactHex 64 payment.nonce = true
  payerParent : WordIs words.payerParent snapshot.payerParent
  payeeParent : WordIs words.payeeParent snapshot.payeeParent
  payerAfter : WordIs words.payerAfter snapshot.payerAfter
  payeeAfter : WordIs words.payeeAfter snapshot.payeeAfter
  nonce : WordIs words.nonce (if snapshot.nonceConsumed then 1 else 0)
  payerBefore : payment.payerBefore = snapshot.payerParent
  payeeBefore : payment.payeeBefore = snapshot.payeeParent

omit [Interpreter] in
def snapshotSaid (token : TokenView) (payment : Payment) (number : ℕ) (words : SnapshotWords) :
    Conversation :=
  let payer := hexVal (payment.payer.drop 2)
  let payee := hexVal (payment.payee.drop 2)
  let nonce := hexVal (payment.nonce.drop 2)
  [callSaid token.address (TokenView.balancePayload payer) (number - 1) words.payerParent,
    callSaid token.address (TokenView.balancePayload payee) (number - 1) words.payeeParent,
    callSaid token.address (TokenView.balancePayload payer) number words.payerAfter,
    callSaid token.address (TokenView.balancePayload payee) number words.payeeAfter,
    callSaid token.address (TokenView.authorizationPayload payer nonce) number words.nonce]

theorem reads_readSnapshot (token : TokenView) (payment : Payment) (number : ℕ) :
    Reads (readSnapshot token payment number : Proc σ Snapshot) fun snapshot said =>
      ∃ words, SnapshotOk payment number words snapshot ∧
        said = snapshotSaid token payment number words := by
  intro state said snapshot finalState
  unfold readSnapshot
  simp only [replays_lift_bind_ok_iff, refuse_eq_ok_iff, exists_const, not_lt]
  constructor
  · rintro ⟨afterGenesis, replays⟩
    have parent : ((number : ℤ) - 1) = ((number - 1 : ℕ) : ℤ) := by omega
    rw [parent] at replays
    obtain ⟨_, _, _, ⟨payerParent, payerShape, rfl, word₁, rfl⟩, rfl, next₁⟩ :=
      (TokenView.reads_balanceOf _ _ _).bind_ok_iff.mp replays
    obtain ⟨_, _, _, ⟨payeeParent, payeeShape, rfl, word₂, rfl⟩, rfl, next₂⟩ :=
      (TokenView.reads_balanceOf _ _ _).bind_ok_iff.mp next₁
    obtain ⟨_, _, _, ⟨payerAfter, _, rfl, word₃, rfl⟩, rfl, next₃⟩ :=
      (TokenView.reads_balanceOf _ _ _).bind_ok_iff.mp next₂
    obtain ⟨_, _, _, ⟨payeeAfter, _, rfl, word₄, rfl⟩, rfl, next₄⟩ :=
      (TokenView.reads_balanceOf _ _ _).bind_ok_iff.mp next₃
    obtain ⟨consumed, _, _, ⟨nonce, _, nonceShape, rfl, word₅, value⟩, rfl, next₅⟩ :=
      (TokenView.reads_authorizationUsed _ _ _ _).bind_ok_iff.mp next₄
    obtain ⟨_, before, rfl, equal, rfl⟩ := replays_lift_bind_ok_iff.mp next₅
    have matched := refuse_eq_ok_iff.mp before
    simp only [ne_eq, not_or, not_not] at matched
    cases equal
    refine ⟨⟨⟨payerParent, payeeParent, payerAfter, payeeAfter, nonce⟩, ?_, rfl⟩, rfl⟩
    exact ⟨by omega, payerShape, payeeShape, nonceShape, ⟨word₁, rfl⟩, ⟨word₂, rfl⟩, ⟨word₃, rfl⟩,
      ⟨word₄, rfl⟩, ⟨word₅, value.symm⟩, matched.1, matched.2⟩
  · rintro ⟨⟨words, ok, rfl⟩, rfl⟩
    have afterGenesis := ok.afterGenesis
    have parent : ((number : ℤ) - 1) = ((number - 1 : ℕ) : ℤ) := by omega
    refine ⟨by omega, ?_⟩
    rw [parent]
    refine (TokenView.reads_balanceOf _ _ _).bind_ok_iff.mpr ⟨snapshot.payerParent, _, _,
      ⟨words.payerParent, ok.payerShape, rfl, ok.payerParent⟩, rfl, ?_⟩
    refine (TokenView.reads_balanceOf _ _ _).bind_ok_iff.mpr ⟨snapshot.payeeParent, _, _,
      ⟨words.payeeParent, ok.payeeShape, rfl, ok.payeeParent⟩, rfl, ?_⟩
    refine (TokenView.reads_balanceOf _ _ _).bind_ok_iff.mpr ⟨snapshot.payerAfter, _, _,
      ⟨words.payerAfter, ok.payerShape, rfl, ok.payerAfter⟩, rfl, ?_⟩
    refine (TokenView.reads_balanceOf _ _ _).bind_ok_iff.mpr ⟨snapshot.payeeAfter, _, _,
      ⟨words.payeeAfter, ok.payeeShape, rfl, ok.payeeAfter⟩, rfl, ?_⟩
    refine (TokenView.reads_authorizationUsed _ _ _ _).bind_ok_iff.mpr
      ⟨snapshot.nonceConsumed, _, _,
        ⟨words.nonce, ok.payerShape, ok.nonceShape, rfl, ok.nonce.1, ok.nonce.2.symm⟩, rfl, ?_⟩
    refine replays_lift_bind_ok_iff.mpr ⟨(), ?_, rfl, rfl, rfl⟩
    rw [refuse_eq_ok_iff]
    simp [ok.payerBefore, ok.payeeBefore]

/-! ### Attribution -/

omit [Interpreter] in
/-- What a successful receipt contributes. -/
def successAttribution (credit : OnChainCredit) (authIndex : ℕ) (snapshot : Snapshot) :
    Attribution :=
  ⟨some credit, some authIndex, some credit.value, snapshot.payeeAfter - snapshot.payeeParent,
    ⟨true, snapshot.payerAfter, snapshot.payeeAfter,
      snapshot.payerAfter - snapshot.payerParent, snapshot.payeeAfter - snapshot.payeeParent⟩⟩

omit [Interpreter] in
/-- What a reverted receipt contributes. -/
def revertedAttribution (snapshot : Snapshot) : Attribution :=
  ⟨none, none, none, 0, ⟨false, snapshot.payerAfter, snapshot.payeeAfter, 0, 0⟩⟩

/-- The topics of the authorization log of a payment. -/
def authorizationTopics (payment : Payment) : List Str :=
  [topicAuthorizationUsed, hexWord (hexVal (payment.payer.drop 2)), lower payment.nonce]

/-- The same-block logs exist and all are the credit itself. -/
structure RaceOk (credit : OnChainCredit) (inbound outbound : List Fields) : Prop where
  inbound_le : inbound.length ≤ maxRpcListItems
  outbound_le : outbound.length ≤ maxRpcListItems
  shapes : ∀ log ∈ inbound ++ outbound, LogShape log
  seen : inbound ++ outbound ≠ []
  alone : ∀ log ∈ inbound ++ outbound, TransferIdentity credit.identity.chainId log
    (credit.identity.txHash, credit.identity.logIndex)

/-- The logs of a successful receipt and of its block single out one credit that explains the
balance changes. -/
structure TransferOk (token : TokenView) (payment : Payment) (liveChain : ℕ) (txHash : Str)
    (point : SettlementPoint) (receipt : Fields) (snapshot : Snapshot) (credit : OnChainCredit)
    (authIndex : ℕ) (inbound outbound : List Fields) : Prop where
  logs : ∃ logs : List Fields, getField receipt "logs" = .list (logs.map .dict) ∧
    (∃ log, logs.filter (hasLogIndex payment.logIndex) = [log] ∧
      Reconciliation.DecodesTo log liveChain credit) ∧
    ∃ log, logs.filter (isTokenLog token.address (authorizationTopics payment)) = [log] ∧
      StandsAt log authIndex
  asset : credit.identity.asset = lower token.address
  standing : credit.removed = false
  txHash : credit.identity.txHash = txHash
  blockHash : credit.blockHash = point.hash
  blockNumber : credit.blockNumber = point.number
  payer : credit.payer = lower payment.payer
  payee : credit.payee = lower payment.payee
  consumed : snapshot.nonceConsumed = true
  race : RaceOk credit inbound outbound
  debited : (snapshot.payerAfter : ℤ) - snapshot.payerParent = -credit.value
  received : 0 < (snapshot.payeeAfter : ℤ) - snapshot.payeeParent ∧
    (snapshot.payeeAfter : ℤ) - snapshot.payeeParent ≤ credit.value

omit [Interpreter] in
def inboundTopics (payment : Payment) : List (Option Str) :=
  [some topicTransfer, none, some (hexWord (hexVal (payment.payee.drop 2)))]

omit [Interpreter] in
def outboundTopics (payment : Payment) : List (Option Str) :=
  [some topicTransfer, some (hexWord (hexVal (payment.payer.drop 2))), none]

omit [Interpreter] in
def raceSaid (token : TokenView) (payment : Payment) (number : ℕ)
    (race : Option (List Fields × List Fields)) : Conversation :=
  match race with
  | none => []
  | some (inbound, outbound) =>
      [logsSaid token.address (inboundTopics payment) number inbound,
        logsSaid token.address (outboundTopics payment) number outbound]

theorem logFilter_number {target : Str} {topics : List (Option Str)} {number : ℕ}
    (exact : isExactHex 40 target = true) (bounded : topics.length ≤ 16)
    (shapes : ∀ topic ∈ topics.filterMap id, isExactHex 64 topic = true) :
    logFilter target topics (.number number) (.number number) =
      .ok (transferFilter target topics number) := by
  have addressed : Anvil.address (.str target) "eth_getLogs address" = .ok target :=
    address_eq_ok_iff.mpr ⟨rfl, exact⟩
  have few : ¬16 < topics.length := by omega
  simp only [logFilter, addressed, decodeAll_topics shapes, refuse, few, if_false,
    blockParam_number (Int.natCast_nonneg number), Int.toNat_natCast]
  rfl

theorem selectEvidence_eq_ok_iff {token : TokenView} {payment : Payment} {liveChain : ℕ}
    {txHash : Str} {point : SettlementPoint} {receipt : Fields} {snapshot : Snapshot}
    {credit : OnChainCredit} {authIndex : ℕ} {logs : List Fields}
    (payerShape : isExactHex 40 payment.payer = true)
    (logged : getField receipt "logs" = .list (logs.map .dict))
    (shapes : ∀ log ∈ logs, LogShape log) :
    selectEvidence token payment liveChain txHash point receipt snapshot =
        .ok (credit, authIndex) ↔
      (∃ log, logs.filter (hasLogIndex payment.logIndex) = [log] ∧
        Reconciliation.DecodesTo log liveChain credit ∧
        credit.identity.asset = lower token.address) ∧
      credit.removed = false ∧
      (credit.identity.txHash = txHash ∧ credit.blockHash = point.hash ∧
        credit.blockNumber = point.number ∧ credit.payer = lower payment.payer ∧
        credit.payee = lower payment.payee) ∧
      (∃ log, logs.filter (isTokenLog token.address (authorizationTopics payment)) = [log] ∧
        StandsAt log authIndex) ∧
      snapshot.nonceConsumed = true := by
  simp only [selectEvidence, Checks.bind_eq_ok_iff, selectedTransfer_eq_ok_iff logged shapes,
    authorizationLogIndex_eq_ok_iff payerShape logged shapes, refuse_eq_ok_iff, exists_const,
    Bool.not_eq_true, Bool.not_eq_false, ne_eq, not_or, not_not, pure, Except.pure,
    Except.ok.injEq, Prod.mk.injEq, authorizationTopics]
  constructor
  · rintro ⟨_, selected, standing, same, _, authorized, consumed, rfl, rfl⟩
    exact ⟨selected, standing, same, authorized, consumed⟩
  · rintro ⟨selected, standing, same, authorized, consumed⟩
    exact ⟨_, selected, standing, same, _, authorized, consumed, rfl, rfl⟩

omit [Interpreter] in
theorem attributeBalances_eq_ok_iff {credit : OnChainCredit} {authIndex : ℕ}
    {snapshot : Snapshot} {attribution : Attribution} :
    attributeBalances credit authIndex snapshot = .ok attribution ↔
      (snapshot.payerAfter : ℤ) - snapshot.payerParent = -credit.value ∧
      (0 < (snapshot.payeeAfter : ℤ) - snapshot.payeeParent ∧
        (snapshot.payeeAfter : ℤ) - snapshot.payeeParent ≤ credit.value) ∧
      attribution = successAttribution credit authIndex snapshot := by
  simp only [attributeBalances, Checks.bind_eq_ok_iff, refuse_eq_ok_iff, exists_const, ne_eq,
    not_or, not_not, pure, Except.pure, Except.ok.injEq, successAttribution, and_assoc]
  constructor
  · rintro ⟨debited, positive, bounded, rfl⟩
    exact ⟨debited, positive, bounded, rfl⟩
  · rintro ⟨debited, positive, bounded, rfl⟩
    exact ⟨debited, positive, bounded, rfl⟩

theorem reads_ensureNoSameBlockRace {token : TokenView} {payment : Payment}
    {credit : OnChainCredit} {number : ℕ} (payerShape : isExactHex 40 payment.payer = true)
    (payeeShape : isExactHex 40 payment.payee = true)
    (numbered : credit.blockNumber = number) :
    Reads (ensureNoSameBlockRace token credit payment.payer payment.payee : Proc σ Unit)
      fun _ said => ∃ inbound outbound : List Fields, RaceOk credit inbound outbound ∧
        said = raceSaid token payment number (some (inbound, outbound)) := by
  intro state said result finalState
  have topicShape : isExactHex 64 topicTransfer = true := isExactHex_hexPad _ _
  have inFilter : logFilter token.address (inboundTopics payment) (.number number)
      (.number number) = .ok _ := logFilter_number token.exact (by simp [inboundTopics]) (by
    simp [inboundTopics, topicShape, hexWord, isExactHex_hexPad])
  have outFilter : logFilter token.address (outboundTopics payment) (.number number)
      (.number number) = .ok _ := logFilter_number token.exact (by simp [outboundTopics]) (by
    simp [outboundTopics, topicShape, hexWord, isExactHex_hexPad])
  unfold ensureNoSameBlockRace
  simp only [Reconciliation.topicAddr_exact payeeShape, Reconciliation.topicAddr_exact payerShape,
    replays_lift_bind_ok_iff, Except.ok.injEq, exists_eq_left', numbered]
  constructor
  · intro replays
    obtain ⟨inbound, _, _, ⟨_, filtered, rfl, inBound, inShapes⟩, rfl, next₁⟩ :=
      (reads_getLogs _ _ _ _).bind_ok_iff.mp replays
    cases inFilter.symm.trans filtered
    obtain ⟨_, same, next₂⟩ := replays_lift_bind_ok_iff.mp next₁
    cases same
    obtain ⟨outbound, _, _, ⟨_, filtered, rfl, outBound, outShapes⟩, rfl, next₃⟩ :=
      (reads_getLogs _ _ _ _).bind_ok_iff.mp next₂
    cases outFilter.symm.trans filtered
    obtain ⟨rfl, checked, rfl⟩ := replays_lift_iff.mp next₃
    have shapes : ∀ log ∈ inbound ++ outbound, LogShape log := by
      intro log mem
      exact (List.mem_append.mp mem).elim (inShapes log) (outShapes log)
    obtain ⟨seen, alone⟩ := (checkRace_eq_ok_iff shapes).mp checked.symm
    exact ⟨⟨inbound, outbound, ⟨inBound, outBound, shapes, seen, alone⟩, rfl⟩, rfl⟩
  · rintro ⟨⟨inbound, outbound, ok, rfl⟩, rfl⟩
    refine (reads_getLogs _ _ _ _).bind_ok_iff.mpr ⟨inbound, _, _, ⟨_, inFilter, rfl,
      ok.inbound_le, fun log mem => ok.shapes log (List.mem_append_left _ mem)⟩, rfl, ?_⟩
    refine replays_lift_bind_ok_iff.mpr ⟨_, rfl, ?_⟩
    refine (reads_getLogs _ _ _ _).bind_ok_iff.mpr ⟨outbound, _, _, ⟨_, outFilter, rfl,
      ok.outbound_le, fun log mem => ok.shapes log (List.mem_append_right _ mem)⟩, rfl, ?_⟩
    exact replays_lift_iff.mpr
      ⟨rfl, ((checkRace_eq_ok_iff ok.shapes).mpr ⟨ok.seen, ok.alone⟩).symm, rfl⟩

/-- The branch on the receipt status: the same-block logs are read only for a success. -/
def AttributionOk (token : TokenView) (payment : Payment) (liveChain : ℕ) (txHash : Str)
    (point : SettlementPoint) (receipt : Fields) (snapshot : Snapshot)
    (race : Option (List Fields × List Fields)) (attribution : Attribution) : Prop :=
  match race with
  | some (inbound, outbound) => point.status = 1 ∧ ∃ credit authIndex,
      TransferOk token payment liveChain txHash point receipt snapshot credit authIndex inbound
        outbound ∧
      attribution = successAttribution credit authIndex snapshot
  | none => point.status ≠ 1 ∧ snapshot.nonceConsumed = false ∧
      attribution = revertedAttribution snapshot

theorem reads_attributeSuccess {token : TokenView} {payment : Payment} {liveChain : ℕ}
    {txHash : Str} {point : SettlementPoint} {receipt : Fields} {snapshot : Snapshot}
    (payerShape : isExactHex 40 payment.payer = true)
    (payeeShape : isExactHex 40 payment.payee = true) (receiptShape : ReceiptShape receipt) :
    Reads (attributeSuccess token payment liveChain txHash point receipt snapshot :
        Proc σ Attribution)
      fun attribution said => ∃ credit authIndex inbound outbound,
        TransferOk token payment liveChain txHash point receipt snapshot credit authIndex inbound
          outbound ∧
        attribution = successAttribution credit authIndex snapshot ∧
        said = raceSaid token payment point.number (some (inbound, outbound)) := by
  intro state said attribution finalState
  obtain ⟨logs, logged, _, shapes⟩ := receiptShape.logs
  unfold attributeSuccess
  rw [replays_lift_bind_ok_iff]
  constructor
  · rintro ⟨⟨credit, authIndex⟩, selected, next₁⟩
    obtain ⟨⟨log, single, decodes, asset⟩, standing, ⟨tx, hash, number, payer, payee⟩, authorized,
      consumed⟩ := (selectEvidence_eq_ok_iff payerShape logged shapes).mp selected
    obtain ⟨_, _, _, ⟨inbound, outbound, race, rfl⟩, rfl, next₂⟩ :=
      (reads_ensureNoSameBlockRace payerShape payeeShape number).bind_ok_iff.mp next₁
    obtain ⟨rfl, computed, rfl⟩ := replays_lift_iff.mp next₂
    obtain ⟨debited, received, rfl⟩ := attributeBalances_eq_ok_iff.mp computed.symm
    exact ⟨⟨credit, authIndex, inbound, outbound,
      ⟨⟨logs, logged, ⟨log, single, decodes⟩, authorized⟩, asset, standing, tx, hash, number, payer,
        payee, consumed, race, debited, received⟩, rfl, by simp⟩, rfl⟩
  · rintro ⟨⟨credit, authIndex, inbound, outbound, ok, rfl, rfl⟩, rfl⟩
    obtain ⟨found, foundLogged, ⟨log, single, decodes⟩, authorized⟩ := ok.logs
    obtain rfl : logs = found := by
      rw [logged, Value.list.injEq] at foundLogged
      exact List.map_injective_iff.mpr (fun _ _ same => by simpa using same) foundLogged
    refine ⟨(credit, authIndex), (selectEvidence_eq_ok_iff payerShape logged shapes).mpr
      ⟨⟨log, single, decodes, ok.asset⟩, ok.standing, ⟨ok.txHash, ok.blockHash, ok.blockNumber,
        ok.payer, ok.payee⟩, authorized, ok.consumed⟩, ?_⟩
    refine (reads_ensureNoSameBlockRace payerShape payeeShape ok.blockNumber).bind_ok_iff.mpr
      ⟨(), _, [], ⟨inbound, outbound, ok.race, rfl⟩, by simp, ?_⟩
    exact replays_lift_iff.mpr
      ⟨rfl, (attributeBalances_eq_ok_iff.mpr ⟨ok.debited, ok.received, rfl⟩).symm, rfl⟩

omit [Interpreter] in
theorem attributeReverted_eq_ok_iff {snapshot : Snapshot} {attribution : Attribution} :
    attributeReverted snapshot = .ok attribution ↔
      snapshot.nonceConsumed = false ∧ attribution = revertedAttribution snapshot := by
  simp only [attributeReverted, Checks.bind_eq_ok_iff, refuse_eq_ok_iff, exists_const,
    Bool.not_eq_true, pure, Except.pure, Except.ok.injEq, revertedAttribution]
  exact and_congr_right' eq_comm

theorem reads_attributeReceipt {token : TokenView} {payment : Payment} {liveChain : ℕ}
    {txHash : Str} {point : SettlementPoint} {receipt : Fields} {snapshot : Snapshot}
    (payerShape : isExactHex 40 payment.payer = true)
    (payeeShape : isExactHex 40 payment.payee = true) (receiptShape : ReceiptShape receipt) :
    Reads (attributeReceipt token payment liveChain txHash point receipt snapshot :
        Proc σ Attribution)
      fun attribution said => ∃ race,
        AttributionOk token payment liveChain txHash point receipt snapshot race attribution ∧
        said = raceSaid token payment point.number race := by
  intro state said attribution finalState
  unfold attributeReceipt
  by_cases success : point.status = 1
  · rw [if_pos success, reads_attributeSuccess payerShape payeeShape receiptShape]
    constructor
    · rintro ⟨⟨credit, authIndex, inbound, outbound, ok, rfl, rfl⟩, rfl⟩
      exact ⟨⟨some (inbound, outbound), ⟨success, credit, authIndex, ok, rfl⟩, rfl⟩, rfl⟩
    · rintro ⟨⟨race, ok, rfl⟩, rfl⟩
      rcases race with _ | ⟨inbound, outbound⟩
      · exact absurd success ok.1
      · obtain ⟨_, credit, authIndex, ok, rfl⟩ := ok
        exact ⟨⟨credit, authIndex, inbound, outbound, ok, rfl, rfl⟩, rfl⟩
  · rw [if_neg success]
    refine (reads_lift _ _ _ _ _).trans ?_
    simp only [attributeReverted_eq_ok_iff]
    constructor
    · rintro ⟨⟨⟨unused, rfl⟩, rfl⟩, rfl⟩
      exact ⟨⟨none, ⟨success, unused, rfl⟩, rfl⟩, rfl⟩
    · rintro ⟨⟨race, ok, rfl⟩, rfl⟩
      rcases race with _ | ⟨inbound, outbound⟩
      · exact ⟨⟨ok.2, rfl⟩, rfl⟩
      · exact absurd ok.1 success

/-! ### The recheck -/

/-- Receipt and block still name the settlement block. -/
structure RecheckOk (point : SettlementPoint) (receiptAfter canonicalAfter : Fields) : Prop where
  receiptShape : ReceiptShape receiptAfter
  receiptHash : HashAt receiptAfter "blockHash" point.hash
  canonical : ∃ number, BlockOk canonicalAfter number point.hash

theorem checkUnchanged_eq_ok_iff {point : SettlementPoint} {receiptAfter canonicalAfter : Fields}
    {result : Unit} (receiptShape : ReceiptShape receiptAfter)
    (blockShape : BlockShape canonicalAfter) :
    checkUnchanged point receiptAfter canonicalAfter = .ok result ↔
      RecheckOk point receiptAfter canonicalAfter := by
  simp only [checkUnchanged, Checks.bind_eq_ok_iff, Prod.exists, blockIdentity_eq_ok_iff,
    exactHash_eq_ok_iff, refuse_eq_ok_iff, ne_eq, not_or, not_not]
  constructor
  · rintro ⟨number, _, ⟨numbered, hashed⟩, _, receiptHash, rfl, rfl⟩
    exact ⟨receiptShape, receiptHash, number, blockShape, numbered, hashed⟩
  · rintro ⟨_, receiptHash, number, ok⟩
    exact ⟨number, _, ⟨ok.number, ok.hash⟩, _, receiptHash, rfl, rfl⟩

/-! ### The whole window -/

/-- Everything a run reads, with what it decodes from it. -/
structure Window where
  chainText : Str
  reviewed : Option Fields
  finality : Fields
  receipt : Fields
  canonical : Fields
  code : Str
  implementation : Option (Str × Str)
  words : SnapshotWords
  race : Option (List Fields × List Fields)
  receiptAfter : Fields
  canonicalAfter : Fields
  liveChain : ℕ
  finalityNumber : ℕ
  finalityHash : Str
  point : SettlementPoint
  tokenCode : Str
  identity : Option Str × Option Str
  snapshot : Snapshot
  attribution : Attribution

namespace Window

variable (token : TokenView) (rail : RailConfig) (payment : Payment) (window : Window)

/-- The questions up to the first receipt. -/
def opening : Conversation :=
  [exchange "eth_chainId" [] (.ok (.str window.chainText))] ++
    (anchorSaid rail window.reviewed ++
      [blockSaid rail.finality.blockTag.text.toList window.finality])

/-- The block-pinned reads between the two sightings of the settlement block. -/
def pinned : Conversation :=
  codeSaid token.address window.point.number window.code ::
    (implementationSaid rail window.point.number window.implementation ++
      (snapshotSaid token payment window.point.number window.words ++
        raceSaid token payment window.point.number window.race))

/-- The transcript of a window. -/
def transcript : Conversation :=
  window.opening rail ++
    (receiptSaid (lower payment.transactionHash) window.receipt ::
      blockSaid (pyHex window.point.number) window.canonical ::
      (window.pinned token rail payment ++
        [receiptSaid (lower payment.transactionHash) window.receiptAfter,
          blockSaid (pyHex window.point.number) window.canonicalAfter]))

/-- The evidence assembled from a window. -/
def evidence : ChainEvidence :=
  chainEvidence token rail payment (lower payment.transactionHash) window.liveChain
    window.finalityNumber window.finalityHash window.point window.tokenCode window.identity
    window.snapshot window.attribution

/-- The window passes every check. -/
structure Accepted : Prop where
  arguments : ArgumentsOk token rail payment
  chainShape : isQuantity window.chainText = true
  liveChain : window.liveChain = hexVal (window.chainText.drop 2)
  chain_eq : (window.liveChain : ℤ) = rail.chainId
  calibrated : rail.attestation.networkClass = .mainnet → rail.attestation.calibrated = true
  anchor : AnchorOk rail window.reviewed
  finality : BlockOk window.finality window.finalityNumber window.finalityHash
  point : PointOk rail window.finalityNumber (lower payment.transactionHash) window.receipt
    window.point
  canonical : BlockOk window.canonical window.point.number window.point.hash
  code : CodeOk window.code window.tokenCode
  expectedCode : ∀ expected ∈ rail.attestation.expectedCodeSha256, window.tokenCode = expected
  implementation : ImplementationOk rail window.implementation window.identity
  snapshot : SnapshotOk payment window.point.number window.words window.snapshot
  attribution : AttributionOk token payment window.liveChain (lower payment.transactionHash)
    window.point window.receipt window.snapshot window.race window.attribution
  recheck : RecheckOk window.point window.receiptAfter window.canonicalAfter

/-- The transcript question by question, as the program asks. -/
theorem transcript_eq :
    window.transcript token rail payment =
      [exchange "eth_chainId" [] (.ok (.str window.chainText))] ++
      (anchorSaid rail window.reviewed ++
      ([blockSaid rail.finality.blockTag.text.toList window.finality] ++
      ([receiptSaid (lower payment.transactionHash) window.receipt] ++
      ([blockSaid (pyHex window.point.number) window.canonical] ++
      ([codeSaid token.address window.point.number window.code] ++
      (implementationSaid rail window.point.number window.implementation ++
      (snapshotSaid token payment window.point.number window.words ++
      (raceSaid token payment window.point.number window.race ++
      ([receiptSaid (lower payment.transactionHash) window.receiptAfter] ++
      ([blockSaid (pyHex window.point.number) window.canonicalAfter] ++ [])))))))))) := by
  simp [transcript, opening, pinned]

end Window

theorem blockParam_tag (tag : FinalityTag) :
    blockParam (.tag tag.text) = .ok tag.text.toList := by
  cases tag <;> simp [blockParam, blockTags, FinalityTag.text]

/-! ### The stages of an observation

What stands in front of the rest of the program, and what the rest is given. -/

section Stages

variable {β : Type} {token : TokenView} {rail : RailConfig} {payment : Payment} {state finalState : σ}
  {said : Conversation} {value : β}

/-- The arguments, the chain and the reviewed block. -/
theorem replays_opening_ok_iff {next : Str → ℕ → Proc σ β} :
    Replays (do
        let txHash ← lift (checkArguments token rail payment)
        let liveChain ← chainId
        lift (checkChain rail liveChain)
        lift (checkCalibration rail)
        verifyReviewAnchor rail
        next txHash liveChain) state said (.ok value) finalState ↔
      ∃ chainText liveChain reviewed after, ArgumentsOk token rail payment ∧
        isQuantity chainText = true ∧ liveChain = hexVal (chainText.drop 2) ∧
        (liveChain : ℤ) = rail.chainId ∧
        (rail.attestation.networkClass = .mainnet → rail.attestation.calibrated = true) ∧
        AnchorOk rail reviewed ∧
        said = [exchange "eth_chainId" [] (.ok (.str chainText))] ++
          (anchorSaid rail reviewed ++ after) ∧
        (next (lower payment.transactionHash) liveChain).Replays state after (.ok value)
          finalState := by
  constructor
  · intro replays
    rcases replays_lift_bind_ok_iff.mp replays with ⟨_, checked, next₁⟩
    rcases checkArguments_eq_ok_iff.mp checked with ⟨arguments, rfl⟩
    rcases reads_chainId.bind_ok_iff.mp next₁ with
      ⟨liveChain, _, _, ⟨chainText, rfl, chainShape, chainEq, _⟩, rfl, next₂⟩
    rcases replays_lift_bind_ok_iff.mp next₂ with ⟨_, sameChain, next₃⟩
    rcases replays_lift_bind_ok_iff.mp next₃ with ⟨_, calibration, next₄⟩
    rcases (reads_verifyReviewAnchor rail).bind_ok_iff.mp next₄ with
      ⟨_, _, after, ⟨reviewed, anchor, rfl⟩, rfl, next₅⟩
    refine ⟨chainText, liveChain, reviewed, after, arguments, chainShape, chainEq, ?_, ?_, anchor,
      rfl, next₅⟩
    · simpa [checkChain] using sameChain
    · simpa [checkCalibration] using calibration
  · rintro ⟨chainText, liveChain, reviewed, after, arguments, chainShape, chainEq, sameChain,
      calibrated, anchor, rfl, continues⟩
    have positive : 0 < liveChain := by
      have := rail.chainId_pos
      omega
    have isChain : checkChain rail liveChain = .ok () := by
      simp [checkChain, sameChain]
    have calibration : checkCalibration rail = .ok () := by
      simpa [checkCalibration] using calibrated
    refine replays_lift_bind_ok_iff.mpr
      ⟨_, checkArguments_eq_ok_iff.mpr ⟨arguments, rfl⟩, ?_⟩
    refine reads_chainId.bind_ok_iff.mpr
      ⟨liveChain, _, _, ⟨chainText, rfl, chainShape, chainEq, positive⟩, rfl, ?_⟩
    refine replays_lift_bind_ok_iff.mpr ⟨(), isChain, ?_⟩
    refine replays_lift_bind_ok_iff.mpr ⟨(), calibration, ?_⟩
    exact (reads_verifyReviewAnchor rail).bind_ok_iff.mpr
      ⟨(), _, _, ⟨reviewed, anchor, rfl⟩, rfl, continues⟩

/-- The head, the receipt and the block that the receipt names. -/
theorem replays_placing_ok_iff {txHash : Str} (txShape : isExactHex 64 txHash = true)
    {next : ℕ × Str → Fields → SettlementPoint → Proc σ β} :
    Replays (do
        let finalityBlock ← getBlock (.tag rail.finality.blockTag.text)
        let head ← lift (blockIdentity finalityBlock "finality block")
        let receipt ← getTransactionReceipt txHash
        let point ← lift (settlementPoint rail head.1 txHash receipt)
        let canonical ← getBlock (.number point.number)
        lift (checkCanonical point canonical)
        next head receipt point) state said (.ok value) finalState ↔
      ∃ finality head receipt point canonical after, BlockOk finality head.1 head.2 ∧
        PointOk rail head.1 txHash receipt point ∧ BlockOk canonical point.number point.hash ∧
        said = [blockSaid rail.finality.blockTag.text.toList finality] ++
          ([receiptSaid txHash receipt] ++ ([blockSaid (pyHex point.number) canonical] ++ after)) ∧
        (next head receipt point).Replays state after (.ok value) finalState := by
  constructor
  · intro replays
    rcases (reads_getBlock _).bind_ok_iff.mp replays with
      ⟨finality, _, _, ⟨_, tagged, rfl, finalityShape⟩, rfl, next₁⟩
    cases (blockParam_tag _).symm.trans tagged
    rcases replays_lift_bind_ok_iff.mp next₁ with ⟨head, identified, next₂⟩
    rcases blockIdentity_eq_ok_iff.mp identified with ⟨finalityIs, finalityHashed⟩
    rcases (reads_getTransactionReceipt _).bind_ok_iff.mp next₂ with
      ⟨receipt, _, _, ⟨_, rfl, receiptShape⟩, rfl, next₃⟩
    rcases replays_lift_bind_ok_iff.mp next₃ with ⟨point, placed, next₄⟩
    rcases (reads_getBlock _).bind_ok_iff.mp next₄ with
      ⟨canonical, _, after, ⟨_, numbered, rfl, canonicalShape⟩, rfl, next₅⟩
    cases (blockParam_number (Int.natCast_nonneg _)).symm.trans numbered
    rcases replays_lift_bind_ok_iff.mp next₅ with ⟨_, canonicalOk, next₆⟩
    exact ⟨finality, head, receipt, point, canonical, after,
      ⟨finalityShape, finalityIs, finalityHashed⟩, (settlementPoint_eq_ok_iff receiptShape).mp placed,
      (checkCanonical_eq_ok_iff canonicalShape).mp canonicalOk, rfl, next₆⟩
  · rintro ⟨finality, head, receipt, point, canonical, after, finalityOk, pointOk, canonicalOk, rfl,
      continues⟩
    refine (reads_getBlock _).bind_ok_iff.mpr
      ⟨finality, _, _, ⟨_, blockParam_tag _, rfl, finalityOk.shape⟩, rfl, ?_⟩
    refine replays_lift_bind_ok_iff.mpr
      ⟨head, blockIdentity_eq_ok_iff.mpr ⟨finalityOk.number, finalityOk.hash⟩, ?_⟩
    refine (reads_getTransactionReceipt _).bind_ok_iff.mpr
      ⟨receipt, _, _, ⟨txShape, rfl, pointOk.shape⟩, rfl, ?_⟩
    refine replays_lift_bind_ok_iff.mpr
      ⟨point, (settlementPoint_eq_ok_iff pointOk.shape).mpr pointOk, ?_⟩
    refine (reads_getBlock _).bind_ok_iff.mpr
      ⟨canonical, _, _, ⟨_, blockParam_number (Int.natCast_nonneg _), rfl, canonicalOk.shape⟩, rfl,
        ?_⟩
    exact replays_lift_bind_ok_iff.mpr
      ⟨(), (checkCanonical_eq_ok_iff canonicalOk.shape).mpr canonicalOk, continues⟩

/-- The reads that are pinned to the block, and the attribution. -/
theorem replays_pinned_ok_iff {liveChain : ℕ} {txHash : Str} {point : SettlementPoint}
    {receipt : Fields} (receiptShape : ReceiptShape receipt)
    {next : Str → Option Str × Option Str → Snapshot → Attribution → Proc σ β} :
    Replays (do
        let code ← getCode token.address (.number point.number)
        let tokenCode ← lift (checkTokenCode rail code)
        let implementation ← implementationIdentity rail point.number
        let snapshot ← readSnapshot token payment point.number
        let attribution ← attributeReceipt token payment liveChain txHash point receipt snapshot
        next tokenCode implementation snapshot attribution) state said (.ok value) finalState ↔
      ∃ code tokenCode implementation identity words snapshot race attribution after,
        CodeOk code tokenCode ∧
        (∀ expected ∈ rail.attestation.expectedCodeSha256, tokenCode = expected) ∧
        ImplementationOk rail implementation identity ∧
        SnapshotOk payment point.number words snapshot ∧
        AttributionOk token payment liveChain txHash point receipt snapshot race attribution ∧
        said = [codeSaid token.address point.number code] ++
          (implementationSaid rail point.number implementation ++
            (snapshotSaid token payment point.number words ++
              (raceSaid token payment point.number race ++ after))) ∧
        (next tokenCode identity snapshot attribution).Replays state after (.ok value)
          finalState := by
  constructor
  · intro replays
    rcases (reads_getCode _ _).bind_ok_iff.mp replays with
      ⟨code, _, _, ⟨_, rfl, codeShape⟩, rfl, next₁⟩
    rcases replays_lift_bind_ok_iff.mp next₁ with ⟨tokenCode, codeChecked, next₂⟩
    rcases (checkTokenCode_eq_ok_iff codeShape).mp codeChecked with ⟨codeOk, expectedCode⟩
    rcases (reads_implementationIdentity _ _).bind_ok_iff.mp next₂ with
      ⟨identity, _, _, ⟨implementation, implementationOk, rfl⟩, rfl, next₃⟩
    rcases (reads_readSnapshot _ _ _).bind_ok_iff.mp next₃ with
      ⟨snapshot, _, _, ⟨words, snapshotOk, rfl⟩, rfl, next₄⟩
    rcases (reads_attributeReceipt snapshotOk.payerShape snapshotOk.payeeShape
      receiptShape).bind_ok_iff.mp next₄ with
      ⟨attribution, _, after, ⟨race, attributionOk, rfl⟩, rfl, next₅⟩
    exact ⟨code, tokenCode, implementation, identity, words, snapshot, race, attribution, after,
      codeOk, expectedCode, implementationOk, snapshotOk, attributionOk, rfl, next₅⟩
  · rintro ⟨code, tokenCode, implementation, identity, words, snapshot, race, attribution, after,
      codeOk, expectedCode, implementationOk, snapshotOk, attributionOk, rfl, continues⟩
    refine (reads_getCode _ _).bind_ok_iff.mpr
      ⟨code, _, _, ⟨token.exact, rfl, codeOk.1⟩, rfl, ?_⟩
    refine replays_lift_bind_ok_iff.mpr
      ⟨tokenCode, (checkTokenCode_eq_ok_iff codeOk.1).mpr ⟨codeOk, expectedCode⟩, ?_⟩
    refine (reads_implementationIdentity _ _).bind_ok_iff.mpr
      ⟨identity, _, _, ⟨implementation, implementationOk, rfl⟩, rfl, ?_⟩
    refine (reads_readSnapshot _ _ _).bind_ok_iff.mpr
      ⟨snapshot, _, _, ⟨words, snapshotOk, rfl⟩, rfl, ?_⟩
    exact (reads_attributeReceipt snapshotOk.payerShape snapshotOk.payeeShape
      receiptShape).bind_ok_iff.mpr
        ⟨attribution, _, _, ⟨race, attributionOk, rfl⟩, rfl, continues⟩

/-- The second sighting of the block. -/
theorem replays_recheck_ok_iff {txHash : Str} (txShape : isExactHex 64 txHash = true)
    {point : SettlementPoint} {next : Proc σ β} :
    Replays (do
        let receiptAfter ← getTransactionReceipt txHash
        let canonicalAfter ← getBlock (.number point.number)
        lift (checkUnchanged point receiptAfter canonicalAfter)
        next) state said (.ok value) finalState ↔
      ∃ receiptAfter canonicalAfter after, RecheckOk point receiptAfter canonicalAfter ∧
        said = [receiptSaid txHash receiptAfter] ++
          ([blockSaid (pyHex point.number) canonicalAfter] ++ after) ∧
        next.Replays state after (.ok value) finalState := by
  constructor
  · intro replays
    rcases (reads_getTransactionReceipt _).bind_ok_iff.mp replays with
      ⟨receiptAfter, _, _, ⟨_, rfl, receiptShape⟩, rfl, next₁⟩
    rcases (reads_getBlock _).bind_ok_iff.mp next₁ with
      ⟨canonicalAfter, _, after, ⟨_, numbered, rfl, canonicalShape⟩, rfl, next₂⟩
    cases (blockParam_number (Int.natCast_nonneg _)).symm.trans numbered
    rcases replays_lift_bind_ok_iff.mp next₂ with ⟨_, unchanged, next₃⟩
    exact ⟨receiptAfter, canonicalAfter, after,
      (checkUnchanged_eq_ok_iff receiptShape canonicalShape).mp unchanged, rfl, next₃⟩
  · rintro ⟨receiptAfter, canonicalAfter, after, recheck, rfl, continues⟩
    rcases recheck.canonical with ⟨number, canonicalOk⟩
    refine (reads_getTransactionReceipt _).bind_ok_iff.mpr
      ⟨receiptAfter, _, _, ⟨txShape, rfl, recheck.receiptShape⟩, rfl, ?_⟩
    refine (reads_getBlock _).bind_ok_iff.mpr ⟨canonicalAfter, _, _,
      ⟨_, blockParam_number (Int.natCast_nonneg _), rfl, canonicalOk.shape⟩, rfl, ?_⟩
    exact replays_lift_bind_ok_iff.mpr
      ⟨(), (checkUnchanged_eq_ok_iff recheck.receiptShape canonicalOk.shape).mpr recheck, continues⟩

end Stages

/-- Observation succeeds exactly on the transcripts of accepted windows. -/
theorem reads_observe (token : TokenView) (rail : RailConfig) (payment : Payment) :
    Reads (observe token rail payment : Proc σ (SettlementTruth × ChainEvidence))
      fun observed said => ∃ window : Window, window.Accepted token rail payment ∧
        said = window.transcript token rail payment ∧
        observed = (window.attribution.truth, window.evidence token rail payment) := by
  intro state said observed finalState
  unfold observe
  rw [replays_opening_ok_iff]
  constructor
  · rintro ⟨chainText, liveChain, reviewed, _, arguments, chainShape, chainEq, sameChain, calibrated,
      anchor, rfl, next₁⟩
    have txShape := isExactHex_lower arguments.txShape
    rcases (replays_placing_ok_iff txShape).mp next₁ with
      ⟨finality, ⟨finalityNumber, finalityHash⟩, receipt, point, canonical, _, finalityOk, pointOk,
        canonicalOk, rfl, next₂⟩
    rcases (replays_pinned_ok_iff pointOk.shape).mp next₂ with
      ⟨code, tokenCode, implementation, identity, words, snapshot, race, attribution, _, codeOk,
        expectedCode, implementationOk, snapshotOk, attributionOk, rfl, next₃⟩
    rcases (replays_recheck_ok_iff txShape).mp next₃ with
      ⟨receiptAfter, canonicalAfter, _, recheck, rfl, rfl, equal, rfl⟩
    cases equal
    refine ⟨⟨⟨chainText, reviewed, finality, receipt, canonical, code, implementation, words, race,
      receiptAfter, canonicalAfter, liveChain, finalityNumber, finalityHash, point, tokenCode,
      identity, snapshot, attribution⟩, ?_, ?_, rfl⟩, rfl⟩
    · exact ⟨arguments, chainShape, chainEq, sameChain, calibrated, anchor, finalityOk, pointOk,
        canonicalOk, codeOk, expectedCode, implementationOk, snapshotOk, attributionOk, recheck⟩
    · rw [Window.transcript_eq]
  · rintro ⟨⟨window, accepted, rfl, rfl⟩, rfl⟩
    have txShape := isExactHex_lower accepted.arguments.txShape
    refine ⟨window.chainText, window.liveChain, window.reviewed, _, accepted.arguments,
      accepted.chainShape, accepted.liveChain, accepted.chain_eq, accepted.calibrated,
      accepted.anchor, window.transcript_eq token rail payment, ?_⟩
    refine (replays_placing_ok_iff txShape).mpr
      ⟨window.finality, (window.finalityNumber, window.finalityHash), window.receipt, window.point,
        window.canonical, _, accepted.finality, accepted.point, accepted.canonical, rfl, ?_⟩
    refine (replays_pinned_ok_iff accepted.point.shape).mpr
      ⟨window.code, window.tokenCode, window.implementation, window.identity, window.words,
        window.snapshot, window.race, window.attribution, _, accepted.code, accepted.expectedCode,
        accepted.implementation, accepted.snapshot, accepted.attribution, rfl, ?_⟩
    exact (replays_recheck_ok_iff txShape).mpr
      ⟨window.receiptAfter, window.canonicalAfter, [], accepted.recheck, rfl, rfl, rfl, rfl⟩

/-- A run returns exactly on the transcripts of accepted windows. -/
theorem replays_reconcileLive_ok_iff {token : TokenView} {rail : RailConfig} {payment : Payment}
    {believes : Bool} {result : LiveReconciliation} :
    Replays (reconcileLive token rail payment believes : Proc σ LiveReconciliation) state said
        (.ok result) finalState ↔
      finalState = state ∧ ∃ window : Window, window.Accepted token rail payment ∧
        said = window.transcript token rail payment ∧
        result.evidence = window.evidence token rail payment ∧
        detectPaymentDivergence window.attribution.truth believes (some payment.requiredAmount) =
          .ok result.divergence := by
  unfold reconcileLive
  rw [(reads_observe token rail payment).bind_ok_iff]
  constructor
  · rintro ⟨_, _, _, ⟨window, accepted, rfl, rfl⟩, rfl, replays⟩
    obtain ⟨divergence, detected, rfl, equal, rfl⟩ := replays_lift_bind_ok_iff.mp replays
    cases equal
    exact ⟨rfl, window, accepted, by simp, rfl, detected⟩
  · rintro ⟨rfl, window, accepted, rfl, evidence, detected⟩
    refine ⟨_, _, [], ⟨window, accepted, rfl, rfl⟩, by simp, ?_⟩
    refine replays_lift_bind_ok_iff.mpr ⟨result.divergence, detected, rfl, ?_, rfl⟩
    rw [← evidence]

omit [Interpreter] in
theorem WordIs.lt {word : Str} {n : ℕ} (is : WordIs word n) : n < 2 ^ 256 := by
  rw [is.2]
  exact lt_of_lt_of_eq (hexVal_exact_lt is.1) (by norm_num)

namespace Window.Accepted

variable {window : Window} {token : TokenView} {rail : RailConfig} {payment : Payment}

/-- The verdict on an accepted window is always found. -/
theorem detects (accepted : window.Accepted token rail payment) (believes : Bool) :
    ∃ divergence, detectPaymentDivergence window.attribution.truth believes
      (some payment.requiredAmount) = .ok divergence := by
  have required := accepted.arguments.requiredAmount
  simp only [uint256Max] at required
  have snapshotOk := accepted.snapshot
  have payerParent := snapshotOk.payerParent.lt
  have payeeParent := snapshotOk.payeeParent.lt
  have payerAfter := snapshotOk.payerAfter.lt
  have payeeAfter := snapshotOk.payeeAfter.lt
  have attribution := accepted.attribution
  rcases raced : window.race with _ | ⟨inbound, outbound⟩
  · rw [raced] at attribution
    rw [attribution.2.2]
    exact detectPaymentDivergence_isOk (by norm_num [revertedAttribution])
      (by norm_num [revertedAttribution]) (by omega) believes
  · rw [raced] at attribution
    obtain ⟨_, credit, authIndex, _, attributed⟩ := attribution
    rw [attributed]
    refine detectPaymentDivergence_isOk ?_ ?_ (by omega) believes
    · simp only [successAttribution]
      omega
    · simp only [successAttribution]
      omega

/-- The verdict is graded from what the evidence reports. -/
theorem graded {believes : Bool} {divergence : Divergence}
    (accepted : window.Accepted token rail payment)
    (detected : detectPaymentDivergence window.attribution.truth believes
      (some payment.requiredAmount) = .ok divergence) :
    divergence.kind = grade (decide (window.point.status = 1)) believes
        (decide (window.attribution.receivedAmount < payment.requiredAmount)) ∧
      divergence.severity = divergence.kind.severity := by
  obtain ⟨kind, severity⟩ := detectPaymentDivergence_grade detected
  refine ⟨?_, severity⟩
  have attribution := accepted.attribution
  rw [kind]
  rcases raced : window.race with _ | ⟨inbound, outbound⟩
  · rw [raced] at attribution
    obtain ⟨failed, _, attributed⟩ := attribution
    cases believes <;>
      simp [attributed, revertedAttribution, SettlementTruth.fundsMoved, failed, grade]
  · rw [raced] at attribution
    obtain ⟨success, credit, authIndex, ok, attributed⟩ := attribution
    have received := ok.received
    have debited := ok.debited
    have moved : window.attribution.truth.fundsMoved = true := by
      simp only [attributed, successAttribution, SettlementTruth.fundsMoved, Bool.true_and,
        Bool.and_eq_true, decide_eq_true_eq]
      omega
    rw [moved, success, attributed]
    rfl

/-- Every accepted window is read from some node. -/
theorem returns (accepted : window.Accepted token rail payment) (believes : Bool)
    (fallback : World) (state : σ) :
    ∃ divergence, detectPaymentDivergence window.attribution.truth believes
        (some payment.requiredAmount) = .ok divergence ∧
      Returns (scripted (window.transcript token rail payment) fallback)
        (reconcileLive token rail payment believes) state []
        ⟨divergence, window.evidence token rail payment⟩ state
        (window.transcript token rail payment) := by
  obtain ⟨divergence, detected⟩ := accepted.detects believes
  refine ⟨divergence, detected, returns_iff.mpr ⟨_, rfl, follows_scripted _ _, ?_⟩⟩
  exact replays_reconcileLive_ok_iff.mpr ⟨rfl, window, accepted, rfl, rfl, detected⟩

end Window.Accepted

end Rails

end Psv
