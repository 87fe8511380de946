import Psv.Verdict.Binding

/-!
# Uncalibrated and drifted rails

`reconcile_live` and `check_rail_drift` each decide whether a rail is what its
attestation says.  Both read the same code and slot, but only the drift check
asks every public rail for a calibrated attestation with a pinned code hash;
`reconcile_live` asks mainnet rails alone.  On public rails a verdict is
therefore backed by a calibrated identity exactly when the rail is a mainnet
rail or was given such an attestation (`failsClosed_iff`).
-/

namespace Psv

open Python Interaction Program RpcClient Anvil Chain Rails

namespace Verdict

section Drift

variable [Interpreter] {σ : Type}

/-! ### What the drift check reads -/

/-- Everything a drift check reads, with what it decodes from it. -/
structure DriftWindow where
  chainText : Str
  reviewed : Option Fields
  block : Fields
  code : Str
  implementation : Option (Str × Str)
  balanceWord : Str
  nonceWord : Str
  liveChain : ℕ
  number : ℕ
  hash : Str
  codeSha : Str
  identity : Option Str × Option Str
  balance : ℕ
  used : Bool

namespace DriftWindow

variable (rail : RailConfig) (window : DriftWindow)

/-- The account that is asked about. -/
def probes : Conversation :=
  [callSaid rail.tokenAddress (TokenView.balancePayload 0) window.number window.balanceWord,
    callSaid rail.tokenAddress (TokenView.authorizationPayload 0 0) window.number window.nonceWord]

def transcript : Conversation :=
  [exchange "eth_chainId" [] (.ok (.str window.chainText))] ++
    (anchorSaid rail window.reviewed ++
    ([blockSaid rail.finality.blockTag.text.toList window.block] ++
    ([codeSaid rail.tokenAddress window.number window.code] ++
    (implementationSaid rail window.number window.implementation ++ window.probes rail))))

def check : RailDriftCheck where
  railKey := rail.key
  chainId := window.liveChain
  blockNumber := window.number
  blockHash := window.hash
  codeSha256 := window.codeSha
  expectedCodeSha256 := rail.attestation.expectedCodeSha256
  implementationAddress := window.identity.1
  implementationCodeSha256 := window.identity.2
  attestationVersion := rail.attestation.version
  calibrated := rail.attestation.calibrated
  isMatch := (driftVerdict rail window.codeSha).1
  reason := (driftVerdict rail window.codeSha).2

structure Accepted : Prop where
  chainShape : isQuantity window.chainText = true
  liveChain : window.liveChain = hexVal (window.chainText.drop 2)
  chain_eq : (window.liveChain : ℤ) = rail.chainId
  anchor : AnchorOk rail window.reviewed
  block : BlockOk window.block window.number window.hash
  code : CodeOk window.code window.codeSha
  implementation : ImplementationOk rail window.implementation window.identity
  balance : WordIs window.balanceWord window.balance
  used : WordIs window.nonceWord (if window.used then 1 else 0)

end DriftWindow

omit [Interpreter] in
theorem hexVal_zeros (digits : ℕ) : hexVal (hexPad digits 0) = 0 := by
  rw [hexVal_hexPad]
  exact Nat.zero_mod _

/-- A drift check succeeds exactly on the transcripts of accepted windows. -/
theorem reads_checkRailDrift (rail : RailConfig) :
    Reads (checkRailDrift rail : Proc σ RailDriftCheck) fun check said =>
      ∃ window : DriftWindow, window.Accepted rail ∧ said = window.transcript rail ∧
        check = window.check rail := by
  have account : hexVal ((hexAddress 0).drop 2) = 0 := hexVal_zeros 40
  have nonce : hexVal ((hexWord 0).drop 2) = 0 := hexVal_zeros 64
  intro state said check finalState
  unfold checkRailDrift
  constructor
  · intro replays
    rcases reads_chainId.bind_ok_iff.mp replays with
      ⟨liveChain, _, _, ⟨chainText, rfl, chainShape, chainEq, _⟩, rfl, next₁⟩
    rcases replays_lift_bind_ok_iff.mp next₁ with ⟨_, sameChain, next₂⟩
    rcases (reads_verifyReviewAnchor rail).bind_ok_iff.mp next₂ with
      ⟨_, _, _, ⟨reviewed, anchor, rfl⟩, rfl, next₃⟩
    rcases (reads_getBlock _).bind_ok_iff.mp next₃ with
      ⟨block, _, _, ⟨_, tagged, rfl, blockShape⟩, rfl, next₄⟩
    cases (blockParam_tag _).symm.trans tagged
    rcases replays_lift_bind_ok_iff.mp next₄ with ⟨⟨number, hash⟩, identified, next₅⟩
    rcases blockIdentity_eq_ok_iff.mp identified with ⟨numbered, hashed⟩
    rcases (reads_getCode _ _).bind_ok_iff.mp next₅ with
      ⟨code, _, _, ⟨_, rfl, codeShape⟩, rfl, next₆⟩
    rcases replays_lift_bind_ok_iff.mp next₆ with ⟨codeSha, fingerprint, next₇⟩
    rcases (reads_implementationIdentity _ _).bind_ok_iff.mp next₇ with
      ⟨identity, _, _, ⟨implementation, implementationOk, rfl⟩, rfl, next₈⟩
    rcases (TokenView.reads_balanceOf _ _ _).bind_ok_iff.mp next₈ with
      ⟨balance, _, _, ⟨balanceWord, _, rfl, balanceShape, balanceEq⟩, rfl, next₉⟩
    rcases (TokenView.reads_authorizationUsed _ _ _ _).bind_ok_iff.mp next₉ with
      ⟨used, _, _, ⟨nonceWord, _, _, rfl, nonceShape, usedEq⟩, rfl, next₁₀⟩
    rcases next₁₀ with ⟨rfl, equal, rfl⟩
    cases equal
    refine ⟨⟨⟨chainText, reviewed, block, code, implementation, balanceWord, nonceWord, liveChain,
      number, hash, codeSha, identity, balance, used⟩, ?_, ?_, rfl⟩, rfl⟩
    · constructor
      · exact chainShape
      · exact chainEq
      · simpa [checkChain] using sameChain
      · exact anchor
      · exact ⟨blockShape, numbered, hashed⟩
      · exact ⟨codeShape, (codeFingerprint_eq_ok_iff codeShape).mp fingerprint⟩
      · exact implementationOk
      · exact ⟨balanceShape, balanceEq⟩
      · exact ⟨nonceShape, usedEq.symm⟩
    · rw [account, nonce]
      rfl
  · rintro ⟨⟨window, accepted, rfl, rfl⟩, rfl⟩
    have positive : 0 < window.liveChain := by
      have equal := accepted.chain_eq
      have bound := rail.chainId_pos
      omega
    have sameChain : checkChain rail window.liveChain = .ok () := by
      simp [checkChain, accepted.chain_eq]
    refine reads_chainId.bind_ok_iff.mpr ⟨window.liveChain, _, _,
      ⟨window.chainText, rfl, accepted.chainShape, accepted.liveChain, positive⟩, rfl, ?_⟩
    refine replays_lift_bind_ok_iff.mpr ⟨(), sameChain, ?_⟩
    refine (reads_verifyReviewAnchor rail).bind_ok_iff.mpr
      ⟨(), _, _, ⟨window.reviewed, accepted.anchor, rfl⟩, rfl, ?_⟩
    refine (reads_getBlock _).bind_ok_iff.mpr ⟨window.block, _, _,
      ⟨_, blockParam_tag _, rfl, accepted.block.shape⟩, rfl, ?_⟩
    refine replays_lift_bind_ok_iff.mpr ⟨(window.number, window.hash),
      blockIdentity_eq_ok_iff.mpr ⟨accepted.block.number, accepted.block.hash⟩, ?_⟩
    refine (reads_getCode _ _).bind_ok_iff.mpr ⟨window.code, _, _,
      ⟨rail.tokenAddress_exact, rfl, accepted.code.1⟩, rfl, ?_⟩
    refine replays_lift_bind_ok_iff.mpr ⟨window.codeSha,
      (codeFingerprint_eq_ok_iff accepted.code.1).mpr accepted.code.2, ?_⟩
    refine (reads_implementationIdentity _ _).bind_ok_iff.mpr ⟨window.identity, _, _,
      ⟨window.implementation, accepted.implementation, rfl⟩, rfl, ?_⟩
    refine (TokenView.reads_balanceOf _ _ _).bind_ok_iff.mpr ⟨window.balance, _,
      [callSaid rail.tokenAddress (TokenView.authorizationPayload 0 0) window.number
        window.nonceWord], ⟨window.balanceWord, isExactHex_hexPad _ _, rfl, accepted.balance.1,
        accepted.balance.2⟩, ?_, ?_⟩
    · rw [account]
      rfl
    · refine (TokenView.reads_authorizationUsed _ _ _ _).bind_ok_iff.mpr ⟨window.used, _, [],
        ⟨window.nonceWord, isExactHex_hexPad _ _, isExactHex_hexPad _ _, rfl, accepted.used.1,
          accepted.used.2.symm⟩, ?_, rfl, rfl, rfl⟩
      rw [account, nonce]
      rfl

/-! ### The same observations -/

omit [Interpreter] in
/-- The answers to the wanted questions, in order. -/
def answersTo (wanted : String → List Value → Bool) (said : Conversation) :
    List (Except String Value) :=
  said.filterMap fun entry =>
    match entry with
    | ⟨.rpc method params, answer⟩ => if wanted method params then some answer else none
    | _ => none

omit [Interpreter] in
def asks (name method : String) (_params : List Value) : Bool := method == name

omit [Interpreter] in
def asksBlock (number : ℤ) (method : String) (params : List Value) : Bool :=
  method == "eth_getBlockByNumber" &&
    match params with
    | [.str selector, _] => selector == pyHex number.toNat
    | _ => false

/-- What a node is asked about chain, code and slots. -/
def watched : List String := ["eth_chainId", "eth_getCode", "eth_getStorageAt"]

omit [Interpreter] in
/-- Chain id, code, slots and the reviewed block were answered alike. -/
structure SameObservations (rail : RailConfig) (said other : Conversation) : Prop where
  answers : ∀ name ∈ watched, answersTo (asks name) said = answersTo (asks name) other
  reviewed : ∀ number, reviewAnchor rail = some number →
    (answersTo (asksBlock number) said).head? = (answersTo (asksBlock number) other).head?

omit [Interpreter] in
theorem answersTo_append {wanted : String → List Value → Bool} (first second : Conversation) :
    answersTo wanted (first ++ second) = answersTo wanted first ++ answersTo wanted second :=
  List.filterMap_append

omit [Interpreter] in
theorem answersTo_exchange {wanted : String → List Value → Bool} (method : String)
    (params : List Value) (answer : Except String Value) (said : Conversation) :
    answersTo wanted (exchange method params answer :: said) =
      if wanted method params then answer :: answersTo wanted said else answersTo wanted said := by
  rw [answersTo, List.filterMap_cons]
  simp only [exchange]
  split_ifs <;> rfl

omit [Interpreter] in
theorem answersTo_nil {wanted : String → List Value → Bool} : answersTo wanted [] = [] := rfl

omit [Interpreter] in
theorem answersTo_asks {name method : String} (params : List Value)
    (answer : Except String Value) (said : Conversation) :
    answersTo (asks name) (exchange method params answer :: said) =
      if name = method then answer :: answersTo (asks name) said
      else answersTo (asks name) said := by
  rw [answersTo_exchange, asks]
  by_cases same : name = method
  · rw [if_pos same, if_pos (beq_iff_eq.mpr same.symm)]
  · rw [if_neg same, if_neg (by rw [beq_iff_eq]; exact Ne.symm same)]

omit [Interpreter] in
/-- Other questions are passed over. -/
theorem answersTo_skip {name method : String} (different : name ≠ method) (params : List Value)
    (answer : Except String Value) (said : Conversation) :
    answersTo (asks name) (exchange method params answer :: said) =
      answersTo (asks name) said := by
  rw [answersTo_asks, if_neg different]

section Answers

variable {token : TokenView} {rail : RailConfig} {payment : Payment}

/-- The questions that are not watched. -/
structure Unwatched (name : String) : Prop where
  block : name ≠ "eth_getBlockByNumber"
  receipt : name ≠ "eth_getTransactionReceipt"
  call : name ≠ "eth_call"
  logs : name ≠ "eth_getLogs"

omit [Interpreter] in
theorem unwatched {name : String} (isWatched : name ∈ watched) : Unwatched name := by
  simp only [watched, List.mem_cons, List.not_mem_nil, or_false] at isWatched
  rcases isWatched with rfl | rfl | rfl
  all_goals constructor <;> decide

/-- The watched answers about an implementation. -/
def implementationAnswers (name : String) : Option (Str × Str) → List (Except String Value)
  | none => []
  | some (word, code) =>
      (if name = "eth_getStorageAt" then [.ok (.str word)] else []) ++
        (if name = "eth_getCode" then [.ok (.str code)] else [])

/-- The watched answers about a rail that is read once. -/
def watchedAnswers (name : String) (chainText code : Str) (implementation : Option (Str × Str)) :
    List (Except String Value) :=
  (if name = "eth_chainId" then [.ok (.str chainText)] else []) ++
    ((if name = "eth_getCode" then [.ok (.str code)] else []) ++
      implementationAnswers name implementation)

omit [Interpreter] in
theorem answersTo_singleton {name method : String} (params : List Value)
    (answer : Except String Value) :
    answersTo (asks name) [exchange method params answer] =
      if name = method then [answer] else [] := by
  rw [answersTo_asks, answersTo_nil]

omit [Interpreter] in
theorem answersTo_anchorSaid {name : String} (different : name ≠ "eth_getBlockByNumber")
    (reviewed : Option Fields) : answersTo (asks name) (anchorSaid rail reviewed) = [] := by
  unfold anchorSaid
  split
  · exact answersTo_skip different _ _ _
  · rfl

theorem answersTo_implementationSaid (number : ℕ) (read : Option (Str × Str)) (name : String) :
    answersTo (asks name) (implementationSaid rail number read) =
      implementationAnswers name read := by
  rcases read with _ | ⟨word, code⟩
  · rfl
  · have split : implementationSaid rail number (some (word, code)) =
        [slotSaid rail.tokenAddress (rail.attestation.proxyImplementationSlot.getD []) number word]
          ++ [codeSaid (lower (rail.attestation.implementationAddress.getD [])) number code] := rfl
    rw [split, answersTo_append, slotSaid, codeSaid, answersTo_singleton, answersTo_singleton]
    rfl

theorem answersTo_window {window : Window} {name : String} (isWatched : name ∈ watched) :
    answersTo (asks name) (window.transcript token rail payment) =
      watchedAnswers name window.chainText window.code window.implementation := by
  have other := unwatched isWatched
  have block : ∀ selector fields, answersTo (asks name) [blockSaid selector fields] = [] :=
    fun _ _ => answersTo_skip other.block _ _ _
  have receipt : ∀ tx fields, answersTo (asks name) [receiptSaid tx fields] = [] :=
    fun _ _ => answersTo_skip other.receipt _ _ _
  have snapshot : answersTo (asks name)
      (snapshotSaid token payment window.point.number window.words) = [] := by
    simp only [snapshotSaid, callSaid, answersTo_skip other.call, answersTo_nil]
  have race : answersTo (asks name)
      (raceSaid token payment window.point.number window.race) = [] := by
    unfold raceSaid
    split
    · rfl
    · simp only [logsSaid, answersTo_skip other.logs, answersTo_nil]
  rw [Window.transcript_eq, answersTo_append, answersTo_append, answersTo_append, answersTo_append,
    answersTo_append, answersTo_append, answersTo_append, answersTo_append, answersTo_append,
    answersTo_append, answersTo_append, answersTo_nil, answersTo_singleton, codeSaid,
    answersTo_singleton, block, block, block, receipt, receipt, snapshot, race,
    answersTo_anchorSaid other.block, answersTo_implementationSaid, watchedAnswers]
  simp only [List.nil_append, List.append_nil]

theorem answersTo_drift {window : DriftWindow} {name : String} (isWatched : name ∈ watched) :
    answersTo (asks name) (window.transcript rail) =
      watchedAnswers name window.chainText window.code window.implementation := by
  have other := unwatched isWatched
  have block : answersTo (asks name)
      [blockSaid rail.finality.blockTag.text.toList window.block] = [] :=
    answersTo_skip other.block _ _ _
  have probes : answersTo (asks name) (window.probes rail) = [] := by
    simp only [DriftWindow.probes, callSaid, answersTo_skip other.call, answersTo_nil]
  rw [DriftWindow.transcript, answersTo_append, answersTo_append, answersTo_append,
    answersTo_append, answersTo_append, answersTo_singleton, codeSaid, answersTo_singleton, block,
    probes, answersTo_anchorSaid other.block, answersTo_implementationSaid, watchedAnswers]
  simp only [List.nil_append, List.append_nil]

/-- The reviewed block is what is answered first about its number. -/
theorem head_reviewed {number : ℤ} (anchored : reviewAnchor rail = some number)
    {reviewed : Option Fields} (anchor : AnchorOk rail reviewed) (chainText : Str)
    (later : Conversation) :
    ∃ block, reviewed = some block ∧
      (answersTo (asksBlock number) ([exchange "eth_chainId" [] (.ok (.str chainText))] ++
        (anchorSaid rail reviewed ++ later))).head? = some (.ok (.dict block)) := by
  rcases reviewed with _ | block
  · simp only [AnchorOk, anchored] at anchor
  · refine ⟨block, rfl, ?_⟩
    have isAnchor : anchorSaid rail (some block) = [blockSaid (pyHex number.toNat) block] := by
      simp only [anchorSaid, anchored]
    have asked : asksBlock number "eth_getBlockByNumber"
        [.str (pyHex number.toNat), .bool false] = true := by
      simp [asksBlock]
    rw [isAnchor, List.singleton_append, answersTo_exchange, if_neg (by simp [asksBlock]),
      List.singleton_append, blockSaid, answersTo_exchange, if_pos asked]
    rfl

/-! ### Closed rails -/

/-- A verdict is backed by a calibrated attestation whose code and proxy identity was observed,
and the drift check agrees when it is answered alike. -/
structure FailsClosed (rail : RailConfig) (said : Conversation) (evidence : ChainEvidence) :
    Prop where
  calibrated : rail.attestation.calibrated = true
  code : rail.attestation.expectedCodeSha256 = some evidence.tokenCodeSha256
  implementation : rail.attestation.proxyKind ≠ .none → ∃ slot address sha word number,
    rail.attestation.proxyImplementationSlot = some slot ∧
    rail.attestation.implementationAddress = some address ∧
    rail.attestation.implementationCodeSha256 = some sha ∧
    slotSaid rail.tokenAddress slot number word ∈ said ∧
    '0' :: 'x' :: lower (word.drop (word.length - 40)) = lower address ∧
    evidence.implementationAddress = some (lower address) ∧
    evidence.implementationCodeSha256 = some sha
  comparable : ∃ (world : World) (check : RailDriftCheck) (other : Conversation),
    Returns world (checkRailDrift rail) () [] check () other ∧ SameObservations rail said other
  undrifted : ∀ (world : World) (history other : Conversation) (check : RailDriftCheck),
    Returns world (checkRailDrift rail) () history check () (history ++ other) →
      SameObservations rail said other → check.isMatch = true

/-- The drift check that is answered like a verdict, with a token that answers the probes. -/
def driftOf (window : Window) : DriftWindow where
  chainText := window.chainText
  reviewed := window.reviewed
  block := window.finality
  code := window.code
  implementation := window.implementation
  balanceWord := hexWord 0
  nonceWord := hexWord 0
  liveChain := window.liveChain
  number := window.finalityNumber
  hash := window.finalityHash
  codeSha := window.tokenCode
  identity := window.identity
  balance := 0
  used := false

theorem accepted_driftOf {window : Window} (accepted : window.Accepted token rail payment) :
    (driftOf window).Accepted rail := by
  have zero : WordIs (hexWord 0) 0 := ⟨isExactHex_hexPad _ _, (hexVal_zeros 64).symm⟩
  exact ⟨accepted.chainShape, accepted.liveChain, accepted.chain_eq, accepted.anchor,
    accepted.finality, accepted.code, accepted.implementation, zero, zero⟩

theorem sameObservations_driftOf {window : Window} (accepted : window.Accepted token rail payment) :
    SameObservations rail (window.transcript token rail payment)
      ((driftOf window).transcript rail) := by
  constructor
  · intro name isWatched
    rw [answersTo_window isWatched, answersTo_drift isWatched]
    rfl
  · intro number anchored
    rcases head_reviewed anchored accepted.anchor window.chainText
      ([blockSaid rail.finality.blockTag.text.toList window.finality] ++
        (receiptSaid (lower payment.transactionHash) window.receipt ::
          blockSaid (pyHex window.point.number) window.canonical ::
          (window.pinned token rail payment ++
            [receiptSaid (lower payment.transactionHash) window.receiptAfter,
              blockSaid (pyHex window.point.number) window.canonicalAfter]))) with ⟨block, is, first⟩
    rcases head_reviewed anchored (accepted_driftOf accepted).anchor window.chainText
      ([blockSaid rail.finality.blockTag.text.toList (driftOf window).block] ++
        ([codeSaid rail.tokenAddress (driftOf window).number (driftOf window).code] ++
        (implementationSaid rail (driftOf window).number (driftOf window).implementation ++
          (driftOf window).probes rail))) with ⟨other, isOther, second⟩
    have same : block = other := Option.some.inj (is.symm.trans isOther)
    rw [same] at first
    rw [Window.transcript, Window.opening, List.append_assoc, List.append_assoc]
    exact first.trans second.symm

/-- Equal answers about the code of the token come from equal code. -/
theorem code_eq_of_same {window : Window} {drift : DriftWindow}
    (same : SameObservations rail (window.transcript token rail payment) (drift.transcript rail)) :
    window.code = drift.code := by
  have isWatched : "eth_getCode" ∈ watched := by decide
  have answers := same.answers "eth_getCode" isWatched
  rw [answersTo_window isWatched, answersTo_drift isWatched] at answers
  have first := (List.cons.inj answers).1
  simpa using first

omit [Interpreter] in
/-- A calibrated attestation with a pinned code hash is met by the code that was read. -/
theorem driftVerdict_eq_true {codeSha : Str} (calibrated : rail.attestation.calibrated = true)
    (expected : rail.attestation.expectedCodeSha256 = some codeSha) :
    (driftVerdict rail codeSha).1 = true := by
  rw [driftVerdict]
  split_ifs with isLocal missing differs
  · rfl
  · rw [calibrated, expected] at missing
    simp at missing
  · exact absurd expected.symm differs
  · rfl

theorem failsClosed_of_accepted {window : Window} (accepted : window.Accepted token rail payment)
    (calibrated : rail.attestation.calibrated = true)
    (pinned : rail.attestation.expectedCodeSha256.isSome = true) :
    FailsClosed rail (window.transcript token rail payment)
      (window.evidence token rail payment) := by
  rcases Option.isSome_iff_exists.mp pinned with ⟨sha, isSha⟩
  have observed : window.tokenCode = sha := accepted.expectedCode sha isSha
  constructor
  · exact calibrated
  · rw [isSha, ← observed]
    rfl
  · intro proxied
    have implementation := accepted.implementation
    rcases read : window.implementation with _ | ⟨word, code⟩
    · rw [read] at implementation
      exact absurd implementation.1 proxied
    · rw [read] at implementation
      rcases implementation with ⟨_, slot, address, codeSha, isSlot, isAddress, isCode, _, _, same,
        _, identity⟩
      refine ⟨slot, address, codeSha, word, window.point.number, isSlot, isAddress, isCode, ?_,
        same, ?_, ?_⟩
      · have asked : slotSaid rail.tokenAddress slot window.point.number word ∈
            implementationSaid rail window.point.number window.implementation := by
          rw [read, implementationSaid, isSlot]
          exact List.mem_cons_self
        rw [Window.transcript_eq]
        simp only [List.mem_append]
        exact Or.inr (Or.inr (Or.inr (Or.inr (Or.inr (Or.inr (Or.inl asked))))))
      · exact congrArg Prod.fst identity
      · exact congrArg Prod.snd identity
  · have replays := (reads_checkRailDrift rail () _ _ ()).mpr
      ⟨⟨driftOf window, accepted_driftOf accepted, rfl, rfl⟩, rfl⟩
    refine ⟨scripted ((driftOf window).transcript rail) (Node.served ⟨0, [], by simp, by simp⟩), _,
      _, returns_iff.mpr ⟨_, (List.nil_append _).symm, follows_scripted _ _, replays⟩, ?_⟩
    exact sameObservations_driftOf accepted
  · intro world history other check returned same
    rcases returns_iff.mp returned with ⟨said, extended, _, replays⟩
    have isSaid : other = said := List.append_cancel_left extended
    subst isSaid
    rcases (reads_checkRailDrift rail _ _ _ _).mp replays with ⟨⟨drift, driftAccepted, rfl, rfl⟩, _⟩
    have sameCode := code_eq_of_same same
    rcases accepted.code with ⟨_, raw, isRaw, _, isHash⟩
    rcases driftAccepted.code with ⟨_, other, isOther, _, otherHash⟩
    rw [sameCode, isOther] at isRaw
    cases isRaw
    have sameSha : drift.codeSha = sha := by rw [otherHash, ← isHash, observed]
    apply driftVerdict_eq_true calibrated
    rw [sameSha, isSha]

end Answers

/-- A verdict is backed by a calibrated identity exactly when the rail is a
mainnet rail, or was given a calibrated attestation with a pinned code hash. -/
theorem failsClosed_iff {world : World} {token : TokenView} {rail : RailConfig}
    {payment : Payment} {believes : Bool} {state finalState : σ}
    {history finalHistory : Conversation} {result : LiveReconciliation}
    (returned : Returns world (reconcileLive token rail payment believes) state history result
      finalState finalHistory) :
    ∃ said, finalHistory = history ++ said ∧
      (FailsClosed rail said result.evidence ↔
        rail.attestation.networkClass = .mainnet ∨
          (rail.attestation.calibrated = true ∧
            rail.attestation.expectedCodeSha256.isSome = true)) := by
  rcases returns_iff.mp returned with ⟨said, extended, _, replays⟩
  rcases replays_reconcileLive_ok_iff.mp replays with ⟨_, window, accepted, rfl, evidence, _⟩
  refine ⟨_, extended, ?_⟩
  rw [evidence]
  constructor
  · intro closed
    apply Or.inr
    refine ⟨closed.calibrated, ?_⟩
    rw [closed.code]
    rfl
  · intro condition
    rcases condition with mainnet | ⟨calibrated, pinned⟩
    · have calibrated := accepted.calibrated mainnet
      have pinned := rail.attestation.valid.mainnetPinned mainnet calibrated
      rw [AttestationFields.pinned, Bool.and_eq_true, Bool.and_eq_true] at pinned
      exact failsClosed_of_accepted accepted calibrated pinned.1.2
    · exact failsClosed_of_accepted accepted calibrated pinned

end Drift

/-! ### An uncalibrated rail -/

/-- A testnet rail that nobody has reviewed. -/
def uncalibratedRail : RailConfig := { mockAnvil with
  attestation := { mockAttestation with
    networkClass := .testnet
    calibrated := false
    accepted := by decide }
  accepted := by decide +kernel }

theorem suited_uncalibratedRail : Node.Sample.Suited uncalibratedRail :=
  Node.Sample.suited_of_free rfl rfl rfl (by decide) rfl rfl

open Node Node.Sample in
/-- The honest payment of 100, read through such a rail and through a calibrated one. -/
theorem failsClosed_sample : letI := interpreter
    (∃ said result, Returns (served (paidOn 84532))
        (reconcileLive token uncalibratedRail (paymentTo payee) true) () [] result () said ∧
      ¬FailsClosed uncalibratedRail said result.evidence) ∧
    ∃ said result, Returns (served (paidOn 84532))
        (reconcileLive token calibratedRail (paymentTo payee) true) () [] result () said ∧
      FailsClosed calibratedRail said result.evidence := by
  let := interpreter
  constructor
  · rcases @returns_paidOn Unit uncalibratedRail 84532 suited_uncalibratedRail rfl () true with
      ⟨_, result, returned, _⟩
    rcases failsClosed_iff returned with ⟨said, rfl, closed⟩
    refine ⟨_, result, returned, ?_⟩
    rw [closed]
    decide
  · rcases @returns_paidOn Unit calibratedRail 84532 suited_calibratedRail rfl () true with
      ⟨_, result, returned, _⟩
    rcases failsClosed_iff returned with ⟨said, rfl, closed⟩
    exact ⟨_, result, returned, closed.mpr (Or.inr ⟨rfl, rfl⟩)⟩

open Node Node.Sample in
/-- An uncalibrated testnet rail gets a verdict. -/
theorem uncalibrated_verdict : letI := interpreter
    ∃ (rail : RailConfig) (world : World) (said : Conversation) (result : LiveReconciliation),
      rail.attestation.networkClass = .testnet ∧
      Returns world (reconcileLive token rail (paymentTo payee) true) () [] result () said ∧
      ¬FailsClosed rail said result.evidence := by
  let := interpreter
  rcases @returns_paidOn Unit uncalibratedRail 84532 suited_uncalibratedRail rfl () true with
    ⟨said, result, returned, _⟩
  refine ⟨uncalibratedRail, _, said, result, rfl, returned, ?_⟩
  intro closed
  exact absurd closed.calibrated (by decide)

end Verdict

end Psv
