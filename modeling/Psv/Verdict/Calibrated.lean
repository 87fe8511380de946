import Psv.Capture
import Psv.Verdict.Drift
import Psv.Node.Observe

/-!
# Rails calibrated from a capture

What a capture returns it has read (`CapturedFrom`).  So a drift check of a rail that
carries the captured fields compares the chain with itself at two blocks: where it
returns, it matches exactly when the code is the captured one (`drift_of_captured`), and
it does return at a node that serves the chain while nothing else has changed
(`drift_answers`).
-/

namespace Psv

open Python Interaction Program RpcClient Anvil Chain Rails Node Onchain Verdict

namespace Capture

section Reading

variable {σ α β : Type} {state finalState : σ} {said : Conversation}

theorem replays_asking_bind_ok_iff {program : Proc σ α} {next : α → Reading σ β} {value : β} :
    (asking program >>= next).Replays state said (.ok value) finalState ↔
      ∃ first middle before after, said = before ++ after ∧
        program.Replays state before (.ok first) middle ∧
        (next first).Replays middle after (.ok value) finalState := by
  have entry : ∀ inner : Conversation,
      inner.map (Embedding.entry ⟨id, fun _ => .refl _⟩) = inner := fun inner => List.map_id inner
  rw [replays_bind_ok_iff]
  constructor
  · rintro ⟨first, middle, before, after, rfl, asked, rest⟩
    rcases replays_embed_iff.mp asked with ⟨inner, outcome, rfl, replays, same⟩
    rcases outcome with error | value
    · cases same
    · cases same
      exact ⟨_, middle, inner, after, by rw [entry], replays, rest⟩
  · rintro ⟨first, middle, before, after, rfl, replays, rest⟩
    refine ⟨first, middle, before, after, rfl, ?_, rest⟩
    exact replays_embed_iff.mpr ⟨before, .ok first, (entry before).symm, replays, rfl⟩

variable [Interpreter] [Cryptography]

omit [Cryptography] in
/-- A call that answered was asked, with this answer. -/
theorem replays_tryCall_bind_ok {address payload : Str} {block : ℕ}
    {next : Option Str → Reading σ β} {value : β}
    (replays : (tryCall address payload block >>= next).Replays state said (.ok value)
      finalState) :
    ∃ answer middle before after, said = before ++ after ∧
      (∀ text ∈ answer, before = [callSaid address ('0' :: 'x' :: payload) block text]) ∧
      (next answer).Replays middle after (.ok value) finalState := by
  rcases replays_asking_bind_ok_iff.mp replays with
    ⟨answer, middle, before, after, rfl, tried, rest⟩
  refine ⟨answer, middle, before, after, rfl, ?_, rest⟩
  rcases replays_attempt_bind_iff.mp tried with
    ⟨outcome, _, first, second, rfl, called, rfl, same, _⟩
  rcases outcome with error | text
  · cases same
    rintro _ ⟨⟩
  · cases same
    rintro _ ⟨⟩
    rcases (reads_ethCall _ _ _ _ _ _ _).mp called with ⟨⟨_, _, rfl, _⟩, _⟩
    rw [List.append_nil]
    rfl

omit [Cryptography] in
theorem codeOk_of_codeSha256Of {code sha : Str} {what : String} (shape : isData code = true)
    (hashed : codeSha256Of code what = .ok sha) : CodeOk code sha := by
  simp only [codeSha256Of, Checks.bind_eq_ok_iff, refuse_eq_ok_iff, orRaise_eq_ok_iff,
    exists_const] at hashed
  rcases hashed with ⟨_, raw, read, deployed, same⟩
  exact ⟨shape, raw, read, deployed, (Except.ok.inj same).symm⟩

omit [Cryptography] in
/-- A validated block is read as the client reads it. -/
theorem blockOk_of_read {block : Fields} {number : ℕ} {hash : Str} {what what' : String}
    (shape : BlockShape block) (numbered : quantity (getField block "number") what = .ok number)
    (hashed : exactHash (getField block "hash") what' = .ok hash) : BlockOk block number hash := by
  rcases shape.number with ⟨text, isText, isNumber⟩
  rcases shape.hash with ⟨digits, isDigits, isHash⟩
  refine ⟨shape, ⟨text, isText, isNumber, ?_⟩, ⟨digits, isDigits, isHash, ?_⟩⟩
  · rw [isText, quantity] at numbered
    split_ifs at numbered
    exact (Except.ok.inj numbered).symm
  · rw [isDigits, exactHash, if_pos isHash] at hashed
    exact (Except.ok.inj hashed).symm

/-! ### What was read -/

/-- The implementation behind the proxy slot, as it was read. -/
structure ImplementationRead (token slot : Str) (number : ℕ) (said : Conversation)
    (address sha word code : Str) : Prop where
  slotSaid : slotSaid token slot number word ∈ said
  codeSaid : codeSaid address number code ∈ said
  shape : isExactHex 64 word = true
  padded : (word.drop 2).take 24 = List.replicate 24 '0'
  address : address = '0' :: 'x' :: lower (word.drop (word.length - 40))
  code : CodeOk code sha

/-- The separator, and what was found to reproduce it. -/
structure DomainRead (token : Str) (number : ℕ) (said : Conversation) (capture : Capture) :
    Prop where
  said : ∀ separator ∈ capture.domainSeparator, ∃ text, isExactHex 64 text = true ∧
    separator = lower text ∧
    callSaid token ('0' :: 'x' :: selector "DOMAIN_SEPARATOR()") number text ∈ said
  solved : (match capture.domainSeparator with
    | some observed => solveDomain observed capture.chainId token capture.reportedName
    | none => .ok none) = .ok capture.domainSolution

/-- Everything that a capture returns was read in the conversation. -/
structure CapturedFrom (token : Str) (tag : FinalityTag) (slot : Option Str) (said : Conversation)
    (capture : Capture) : Prop where
  shape : isExactHex 40 token = true
  tokenAddress : capture.tokenAddress = token
  chainId : ∃ text, exchange "eth_chainId" [] (.ok (.str text)) ∈ said ∧ isQuantity text = true ∧
    capture.chainId = hexVal (text.drop 2)
  block : ∃ fields, blockSaid tag.text.toList fields ∈ said ∧
    BlockOk fields capture.blockNumber capture.blockHash
  code : ∃ code, codeSaid token capture.blockNumber code ∈ said ∧ CodeOk code capture.codeSha256
  domain : DomainRead token capture.blockNumber said capture
  noProxy : slot = none →
    capture.implementationAddress = none ∧ capture.implementationCodeSha256 = none
  proxy : ∀ place ∈ slot, ∃ address sha word code, capture.implementationAddress = some address ∧
    capture.implementationCodeSha256 = some sha ∧
    ImplementationRead token place capture.blockNumber said address sha word code

omit [Cryptography] in
theorem implementationRead_of_readProxy {token slot : Str} {number : ℕ}
    {implementation : Option Str × Option Str}
    (replays : (readProxy token slot number : Reading σ _).Replays state said (.ok implementation)
      finalState) :
    ∃ address sha word code, implementation = (some address, some sha) ∧
      ImplementationRead token slot number said address sha word code := by
  rw [readProxy] at replays
  rcases replays_asking_bind_ok_iff.mp replays with ⟨word, _, _, _, rfl, asked, next₁⟩
  rcases (reads_call _ _ _ _ _ _).mp asked with ⟨rfl, rfl⟩
  rcases replays_lift_bind_ok_iff.mp next₁ with ⟨address, isAddress, next₂⟩
  rcases replays_asking_bind_ok_iff.mp next₂ with ⟨code, _, _, _, rfl, asked, next₃⟩
  rcases (reads_getCode _ _ _ _ _ _).mp asked with ⟨⟨_, rfl, codeShape⟩, rfl⟩
  rcases replays_lift_bind_ok_iff.mp next₃ with ⟨sha, hashed, rfl, same, _⟩
  cases same
  cases word with
  | str text =>
    simp only [implementationIn, Checks.bind_eq_ok_iff, refuse_eq_ok_iff, exists_const,
      Bool.not_eq_false, ne_eq, not_not] at isAddress
    rcases isAddress with ⟨shape, padded, _, same⟩
    refine ⟨address, sha, text, code, rfl, ?_, ?_, shape, padded, (Except.ok.inj same).symm,
      codeOk_of_codeSha256Of codeShape hashed⟩
    · exact List.mem_cons_self
    · exact List.mem_cons_of_mem _ List.mem_cons_self
  | _ => cases isAddress

/-- A capture that returned has read what it says. -/
theorem capturedFrom_of_replays {token : Str} {expected : ℤ} {tag : FinalityTag} {slot : Option Str}
    {captured : Capture}
    (replays : (capture token expected tag.text slot : Reading σ Capture).Replays state said
      (.ok captured) finalState) :
    CapturedFrom token tag slot said captured := by
  rw [capture] at replays
  rcases replays_asking_bind_ok_iff.mp replays with ⟨chainId, _, _, _, rfl, asked, next₁⟩
  rcases (reads_chainId _ _ _ _).mp asked with ⟨⟨chainText, rfl, chainShape, isChain, _⟩, rfl⟩
  rcases replays_lift_bind_ok_iff.mp next₁ with ⟨_, _, next₂⟩
  rcases replays_asking_bind_ok_iff.mp next₂ with ⟨block, _, _, _, rfl, asked, next₃⟩
  rcases (reads_getBlock _ _ _ _ _).mp asked with ⟨⟨selector, selected, rfl, blockShape⟩, rfl⟩
  rcases replays_lift_bind_ok_iff.mp next₃ with ⟨number, numbered, next₄⟩
  rcases replays_lift_bind_ok_iff.mp next₄ with ⟨hash, hashed, next₅⟩
  rcases replays_asking_bind_ok_iff.mp next₅ with ⟨code, _, _, _, rfl, asked, next₆⟩
  rcases (reads_getCode _ _ _ _ _ _).mp asked with ⟨⟨tokenShape, rfl, codeShape⟩, rfl⟩
  rcases replays_lift_bind_ok_iff.mp next₆ with ⟨sha, codeHashed, next₇⟩
  rcases replays_tryCall_bind_ok next₇ with ⟨nameRaw, _, _, _, rfl, _, next₈⟩
  rcases replays_tryCall_bind_ok next₈ with ⟨versionRaw, _, _, _, rfl, _, next₉⟩
  rcases replays_tryCall_bind_ok next₉ with ⟨decimalsRaw, _, _, _, rfl, _, next₁₀⟩
  rcases replays_lift_bind_ok_iff.mp next₁₀ with ⟨decimalsText, _, next₁₁⟩
  rcases replays_lift_bind_ok_iff.mp next₁₁ with ⟨decimals, _, next₁₂⟩
  rcases replays_tryCall_bind_ok next₁₂ with ⟨separatorRaw, _, _, _, rfl, separated, next₁₃⟩
  rcases replays_lift_bind_ok_iff.mp next₁₃ with ⟨solution, solved, next₁₄⟩
  rcases replays_tryCall_bind_ok next₁₄ with ⟨probe, _, _, _, rfl, _, next₁₅⟩
  rcases replays_bind_ok_iff.mp next₁₅ with ⟨implementation, _, _, _, rfl, read, rfl, same, _⟩
  cases same
  cases (blockParam_tag tag).symm.trans selected
  refine ⟨tokenShape, rfl, ⟨chainText, by simp, chainShape, isChain⟩, ⟨block, by simp [blockSaid],
    blockOk_of_read blockShape numbered hashed⟩, ⟨code, by simp [codeSaid],
    codeOk_of_codeSha256Of codeShape codeHashed⟩, ⟨?_, solved⟩, ?_, ?_⟩
  · intro separator isSeparator
    rcases Option.map_eq_some_iff.mp isSeparator with ⟨text, isText, rfl⟩
    rcases Option.filter_eq_some_iff.mp isText with ⟨answered, shape⟩
    exact ⟨text, shape, rfl, by simp [separated text answered]⟩
  · rintro rfl
    rcases read with ⟨rfl, same, _⟩
    cases same
    exact ⟨rfl, rfl⟩
  · rintro place rfl
    rcases implementationRead_of_readProxy read with ⟨address, sha, word, proxyCode, rfl, ok⟩
    refine ⟨address, sha, word, proxyCode, rfl, rfl, { ok with
      slotSaid := ?_
      codeSaid := ?_ }⟩
    · simp [ok.slotSaid]
    · simp [ok.codeSaid]

end Reading

end Capture

/-! ### The chain behind a capture -/

section Chains

variable [Interpreter] [Cryptography]

/-- The slot holds the same address, and the code there has the same hash. -/
structure SameImplementation (token : Address) (slot : Word) (before after : Node.State) :
    Prop where
  stored : after.storage token slot = before.storage token slot
  code : Interpreter.sha256 (after.code ((before.storage token slot).setWidth 160)) =
    Interpreter.sha256 (before.code ((before.storage token slot).setWidth 160))

/-- What a capture says is true of a block of the chain. -/
structure Capture.TrueOf (capture : Capture) (token : Str) (slot : Option Str) (reviewed : Block) :
    Prop where
  hash : capture.blockHash = hexWord reviewed.hash.toNat
  code : capture.codeSha256 = Interpreter.sha256 (reviewed.post.code (readAddress token))
  implementation : ∀ place ∈ slot, ∃ address sha, capture.implementationAddress = some address ∧
    capture.implementationCodeSha256 = some sha ∧ lower address = address ∧
    reviewed.post.storage (readAddress token) (readWord place) =
      (readAddress address).setWidth 256 ∧
    sha = Interpreter.sha256 (reviewed.post.code (readAddress address))

omit [Cryptography] in
theorem implementationRead_true {chain : Node.Chain} {token slot : Str} {number : ℕ}
    {said : Conversation} {address sha word code : Str} {block : Block}
    (read : Capture.ImplementationRead token slot number said address sha word code)
    (tokenShape : isExactHex 40 token = true) (slotShape : isExactHex 64 slot = true)
    (honest : ∀ entry ∈ said, HonestEntry chain entry)
    (found : chain.blocks[number]? = some block) :
    lower address = address ∧
      block.post.storage (readAddress token) (readWord slot) = (readAddress address).setWidth 256 ∧
      sha = Interpreter.sha256 (block.post.code (readAddress address)) := by
  have lowered : lower ('0' :: 'x' :: word.drop (word.length - 40)) = address := read.address.symm
  have shape : isExactHex 40 ('0' :: 'x' :: word.drop (word.length - 40)) = true := by
    rcases isExactHex_iff.mp read.shape with ⟨rest, rfl, long, all⟩
    have behind : ('0' :: 'x' :: rest).drop (('0' :: 'x' :: rest).length - 40) = rest.drop 24 := by
      rw [List.length_cons, List.length_cons, long]
      rfl
    rw [behind]
    refine isExactHex_iff.mpr ⟨_, rfl, by rw [List.length_drop, long], ?_⟩
    rw [List.all_eq_true] at all ⊢
    exact fun c mem => all c (List.mem_of_mem_drop mem)
  have addressShape : isExactHex 40 address = true := lowered ▸ isExactHex_lower shape
  have isLower : lower address = address := by
    rw [← lowered, lower_lower_exactHex shape]
  rcases read_slot tokenShape slotShape read.shape (honest _ read.slotSaid) with
    ⟨slotBlock, slotFound, stored⟩
  rcases read_code addressShape (honest _ read.codeSaid) read.code with
    ⟨codeBlock, codeFound, hashed⟩
  cases found.symm.trans slotFound
  cases found.symm.trans codeFound
  refine ⟨isLower, ?_, hashed⟩
  rw [← stored, readWord_eq_setWidth read.shape read.padded (read.address.symm.trans isLower.symm),
    isLower]

theorem capture_true {chain : Node.Chain} {token : Str} {tag : FinalityTag} {slot : Option Str}
    {said : Conversation} {capture : Capture}
    (from_ : Capture.CapturedFrom token tag slot said capture)
    (slotShape : ∀ place ∈ slot, isExactHex 64 place = true)
    (honest : ∀ entry ∈ said, HonestEntry chain entry) :
    ∃ reviewed, chain.blocks[capture.blockNumber]? = some reviewed ∧
      capture.TrueOf token slot reviewed := by
  rcases from_.block with ⟨fields, asked, blockOk⟩
  rcases read_tag (honest _ asked) blockOk with ⟨reviewed, found, hash⟩
  rcases from_.code with ⟨code, codeAsked, codeOk⟩
  rcases read_code from_.shape (honest _ codeAsked) codeOk with ⟨block, again, isSha⟩
  cases found.symm.trans again
  refine ⟨reviewed, found, hash, isSha, ?_⟩
  intro place isPlace
  rcases from_.proxy place isPlace with ⟨address, sha, word, code, isAddress, isCode, read⟩
  exact ⟨address, sha, isAddress, isCode,
    implementationRead_true read from_.shape (slotShape place isPlace) honest found⟩

/-! ### The drift check -/

/-- The rail carries the fields that the capture printed, and it is not a local one. -/
structure Calibrated (rail : RailConfig) (base : AttestationFields) (slot : Option Str)
    (capture : Capture) : Prop where
  attestation : rail.attestation.toAttestationFields = capture.attestation base slot
  isPublic : base.networkClass ≠ .localNet
  proxied : base.proxyKind = .none ↔ slot = none
  chainId : rail.chainId = capture.chainId
  tokenAddress : rail.tokenAddress = capture.tokenAddress

namespace Calibrated

variable {rail : RailConfig} {base : AttestationFields} {slot : Option Str} {capture : Capture}

omit [Interpreter] [Cryptography]

theorem reviewAnchor (calibrated : Calibrated rail base slot capture) :
    Rails.reviewAnchor rail = some (capture.blockNumber : ℤ) := by
  rw [Rails.reviewAnchor, calibrated.attestation]
  rfl

theorem proxyKind_eq (calibrated : Calibrated rail base slot capture) :
    rail.attestation.proxyKind = base.proxyKind := by
  rw [calibrated.attestation]
  rfl

theorem proxySlot_eq (calibrated : Calibrated rail base slot capture) :
    rail.attestation.proxyImplementationSlot = slot := by
  rw [calibrated.attestation]
  rfl

theorem implementationAddress_eq (calibrated : Calibrated rail base slot capture) :
    rail.attestation.implementationAddress = capture.implementationAddress := by
  rw [calibrated.attestation]
  rfl

theorem implementationCode_eq (calibrated : Calibrated rail base slot capture) :
    rail.attestation.implementationCodeSha256 = capture.implementationCodeSha256 := by
  rw [calibrated.attestation]
  rfl

theorem driftVerdict_iff (calibrated : Calibrated rail base slot capture) (codeSha : Str) :
    (driftVerdict rail codeSha).1 = true ↔ codeSha = capture.codeSha256 := by
  have local_ : rail.attestation.networkClass ≠ .localNet := by
    rw [calibrated.attestation]
    exact calibrated.isPublic
  have isCalibrated : rail.attestation.calibrated = true := by
    rw [calibrated.attestation]
    rfl
  have expected : rail.attestation.expectedCodeSha256 = some capture.codeSha256 := by
    rw [calibrated.attestation]
    rfl
  have pinned : ¬(rail.attestation.calibrated = false ∨
      rail.attestation.expectedCodeSha256 = none) := by
    rw [isCalibrated, expected]
    rintro (impossible | impossible)
    · cases impossible
    · cases impossible
  rw [driftVerdict, if_neg fun both => local_ both.1, if_neg pinned, expected]
  by_cases same : codeSha = capture.codeSha256
  · rw [if_neg (not_not_intro (congrArg some same))]
    exact iff_of_true rfl same
  · rw [if_pos fun equal => same (Option.some.inj equal)]
    refine iff_of_false ?_ same
    rintro ⟨⟩

theorem slotShape (calibrated : Calibrated rail base slot capture) :
    ∀ place ∈ slot, isExactHex 64 place = true := by
  have shapes := rail.attestation.valid.slot
  rw [calibrated.attestation] at shapes
  exact shapes

end Calibrated

omit [Cryptography] in
/-- The reviewed block that is read is the captured one. -/
theorem reviewed_of_anchor {rail : RailConfig} {base : AttestationFields} {slot : Option Str}
    {capture : Capture} {reviewed : Option Fields} (calibrated : Calibrated rail base slot capture)
    (ok : AnchorOk rail reviewed) :
    ∃ fields, reviewed = some fields ∧ BlockOk fields capture.blockNumber capture.blockHash := by
  rcases reviewed with _ | fields
  · simp only [AnchorOk, calibrated.reviewAnchor] at ok
  · simp only [AnchorOk, calibrated.reviewAnchor, Int.toNat_natCast] at ok
    rcases ok with ⟨hash, blockOk, pinned⟩
    rw [calibrated.attestation] at pinned
    cases pinned
    exact ⟨fields, rfl, blockOk⟩

omit [Interpreter] [Cryptography] in
theorem anchorSaid_eq {rail : RailConfig} {base : AttestationFields} {slot : Option Str}
    {capture : Capture} {reviewed : Option Fields} {fields : Fields}
    (calibrated : Calibrated rail base slot capture) (is : reviewed = some fields) :
    anchorSaid rail reviewed = [blockSaid (pyHex capture.blockNumber) fields] := by
  simp only [anchorSaid, calibrated.reviewAnchor, is, Int.toNat_natCast]

omit [Interpreter] [Cryptography] in
/-- A word keeps the address that it was made from. -/
theorem setWidth_address (address : Address) : (address.setWidth 256).setWidth 160 = address := by
  rw [BitVec.setWidth_setWidth_of_le _ (by decide), BitVec.setWidth_eq]

omit [Cryptography] in
/-- What the drift check reads of a proxy is the captured implementation. -/
theorem sameImplementation_of_ok {rail : RailConfig} {base : AttestationFields} {slot : Option Str}
    {capture : Capture} {token : Str} {reviewed now : Block} {later : Node.Chain} {number : ℕ}
    {read : Option (Str × Str)} {identity : Option Str × Option Str}
    (calibrated : Calibrated rail base slot capture) (isTrue : capture.TrueOf token slot reviewed)
    (isToken : rail.tokenAddress = token) (ok : ImplementationOk rail read identity)
    (honest : ∀ entry ∈ implementationSaid rail number read, HonestEntry later entry)
    (found : later.blocks[number]? = some now) :
    ∀ place ∈ slot,
      SameImplementation (readAddress token) (readWord place) reviewed.post now.post := by
  rintro place rfl
  rcases isTrue.implementation place rfl with
    ⟨address, sha, isAddress, isCode, isLower, stored, hashed⟩
  have held := setWidth_address (readAddress address)
  have slots := calibrated.proxySlot_eq
  have addresses := calibrated.implementationAddress_eq.trans isAddress
  have hashes := calibrated.implementationCode_eq.trans isCode
  rcases read with _ | ⟨word, code⟩
  · have unproxied : base.proxyKind = .none := calibrated.proxyKind_eq.symm.trans ok.1
    cases calibrated.proxied.mp unproxied
  · rcases ok with ⟨_, slot', address', sha', isSlot, isAddress', isSha, shape, padded, same,
      codeOk, _⟩
    cases slots.symm.trans isSlot
    cases addresses.symm.trans isAddress'
    cases hashes.symm.trans isSha
    rw [implementationSaid, slots, addresses, isToken] at honest
    simp only [Option.getD_some, List.mem_cons, List.not_mem_nil, or_false, forall_eq_or_imp,
      forall_eq, isLower] at honest
    have tokenShape := rail.tokenAddress_exact
    have addressShape := rail.attestation.valid.implementation address addresses
    rw [isToken] at tokenShape
    rcases read_slot tokenShape (calibrated.slotShape place rfl) shape honest.1 with
      ⟨slotBlock, slotFound, slotWord⟩
    rcases read_code addressShape honest.2 codeOk with ⟨codeBlock, codeFound, codeHash⟩
    cases found.symm.trans slotFound
    cases found.symm.trans codeFound
    constructor
    · rw [← slotWord, stored, readWord_eq_setWidth shape padded same, isLower]
    · rw [stored, held, ← codeHash, hashed]

variable {σ τ : Type} {chain later : Node.Chain} {world next : World} {token : Str} {expected : ℤ}
  {tag : FinalityTag} {slot : Option Str} {capture : Capture} {base : AttestationFields}
  {rail : RailConfig} {check : RailDriftCheck} {before after : σ} {first last : τ}
  {history finalHistory conversation finalConversation : Conversation}

/-- A drift check of a rail that was calibrated from a capture compares two blocks, whatever nodes
were asked, if they only tell the truth: the captured block is still on the chain, the
implementation is the captured one, and it matches exactly when the code is. -/
theorem drift_of_captured (honest : HonestWorld chain world)
    (captured : Returns world (Capture.capture token expected tag.text slot) before history capture
      after finalHistory)
    (calibrated : Calibrated rail base slot capture) (honestLater : HonestWorld later next)
    (checked : Returns next (checkRailDrift rail) first conversation check last
      finalConversation) :
    ∃ reviewed kept number now, chain.blocks[capture.blockNumber]? = some reviewed ∧
      later.blocks[capture.blockNumber]? = some kept ∧ kept.hash = reviewed.hash ∧
      check.blockNumber = (number : ℕ) ∧ later.blocks[number]? = some now ∧
      (∀ place ∈ slot,
        SameImplementation (readAddress token) (readWord place) reviewed.post now.post) ∧
      (check.isMatch = true ↔ Interpreter.sha256 (now.post.code (readAddress token)) =
        Interpreter.sha256 (reviewed.post.code (readAddress token))) := by
  rcases returns_iff.mp captured with ⟨said, _, follows, replays⟩
  have read := Capture.capturedFrom_of_replays replays
  rcases capture_true read calibrated.slotShape (honest.entry follows) with
    ⟨reviewed, reviewedFound, isTrue⟩
  have isToken : rail.tokenAddress = token := calibrated.tokenAddress.trans read.tokenAddress
  rcases returns_iff.mp checked with ⟨other, _, otherFollows, checking⟩
  rcases (Verdict.reads_checkRailDrift rail _ _ _ _).mp checking with
    ⟨⟨window, accepted, rfl, rfl⟩, _⟩
  have entries := honestLater.entry otherFollows
  simp only [DriftWindow.transcript, List.forall_mem_append, List.forall_mem_singleton] at entries
  rcases entries with ⟨_, anchorEntries, blockEntry, codeEntry, proxyEntries, _⟩
  rcases read_tag blockEntry accepted.block with ⟨now, nowFound, _⟩
  rcases read_code rail.tokenAddress_exact codeEntry accepted.code with ⟨_, again, codeHash⟩
  cases nowFound.symm.trans again
  rcases reviewed_of_anchor calibrated accepted.anchor with ⟨fields, isFields, anchorOk⟩
  rw [anchorSaid_eq calibrated isFields] at anchorEntries
  rcases read_block (anchorEntries _ List.mem_cons_self) anchorOk with
    ⟨kept, keptFound, _, keptHash⟩
  refine ⟨reviewed, kept, window.number, now, reviewedFound, keptFound, ?_, rfl, nowFound,
    sameImplementation_of_ok calibrated isTrue isToken accepted.implementation proxyEntries
      nowFound, ?_⟩
  · exact hexWord_injective (keptHash.symm.trans isTrue.hash)
  · rw [← isToken, ← codeHash]
    have verdict := calibrated.driftVerdict_iff window.codeSha
    rw [isTrue.code, ← isToken] at verdict
    exact verdict

end Chains

/-! ### A node that serves the chain -/

section Served

variable [Interpreter] {chain later : Node.Chain} {token : Str} {slot : Option Str}
  {capture : Capture} {base : AttestationFields} {rail : RailConfig} {reviewed kept now : Block}

/-- All that a drift check insists on, but for the code of the token, is as it was captured. -/
structure Unmoved (chain later : Node.Chain) (capture : Capture) (token : Str)
    (slot : Option Str) (reviewed kept now : Block) : Prop where
  chainId : later.chainId = chain.chainId
  onChain : later.blocks[capture.blockNumber]? = some kept
  sameBlock : kept.hash = reviewed.hash
  head : later.blocks[later.blocks.length - 1]? = some now
  deployed : now.post.code (readAddress token) ≠ []
  implementation : ∀ place ∈ slot,
    SameImplementation (readAddress token) (readWord place) reviewed.post now.post ∧
      now.post.code ((reviewed.post.storage (readAddress token) (readWord place)).setWidth 160) ≠ []

/-- What such a node shows a drift check. -/
def servedDrift (later : Node.Chain) (capture : Capture) (token : Str)
    (slot : Option Str) (kept now : Block) : DriftWindow where
  chainText := pyHex later.chainId
  reviewed := some (blockJson capture.blockNumber (later.parentHash capture.blockNumber) kept)
  block := blockJson (later.blocks.length - 1) (later.parentHash (later.blocks.length - 1)) now
  code := hexData (now.post.code (readAddress token))
  implementation := slot.map fun place =>
    (hexWord (now.post.storage (readAddress token) (readWord place)).toNat,
      hexData (now.post.code (readAddress (capture.implementationAddress.getD []))))
  balanceWord := hexWord (now.post.balance (readAddress token) 0).toNat
  nonceWord := hexWord (if now.post.used (readAddress token) 0 0 then 1 else 0)
  liveChain := later.chainId
  number := later.blocks.length - 1
  hash := hexWord now.hash.toNat
  codeSha := Interpreter.sha256 (now.post.code (readAddress token))
  identity := (capture.implementationAddress, capture.implementationCodeSha256)
  balance := (now.post.balance (readAddress token) 0).toNat
  used := now.post.used (readAddress token) 0 0

theorem implementationOk_served (calibrated : Calibrated rail base slot capture)
    (isTrue : capture.TrueOf token slot reviewed)
    (noProxy : slot = none →
      capture.implementationAddress = none ∧ capture.implementationCodeSha256 = none)
    (unmoved : Unmoved chain later capture token slot reviewed kept now) :
    ImplementationOk rail (servedDrift later capture token slot kept now).implementation
      (capture.implementationAddress, capture.implementationCodeSha256) := by
  have kind := calibrated.proxyKind_eq
  rcases slot with _ | place
  · rcases noProxy rfl with ⟨isAddress, isCode⟩
    exact ⟨kind.trans (calibrated.proxied.mpr rfl), by rw [isAddress, isCode]⟩
  · rcases isTrue.implementation place rfl with
      ⟨address, sha, isAddress, isCode, isLower, stored, hashed⟩
    rcases unmoved.implementation place rfl with ⟨same, deployed⟩
    have held := setWidth_address (readAddress address)
    have code := same.code
    have addresses := calibrated.implementationAddress_eq.trans isAddress
    have hashes := calibrated.implementationCode_eq.trans isCode
    rw [stored, held] at code deployed
    have ok : ImplementationOk rail
        (some (hexWord (now.post.storage (readAddress token) (readWord place)).toNat,
          hexData (now.post.code (readAddress address))))
        (some (lower address), rail.attestation.implementationCodeSha256) :=
      implementationOk_of_stored
        (fun plain => absurd (calibrated.proxied.mp (kind.symm.trans plain)) (by simp))
        calibrated.proxySlot_eq addresses (same.stored.trans stored) deployed
        (by rw [hashes, hashed, code])
    rw [isLower, hashes] at ok
    simp only [servedDrift, Option.map_some, isAddress, isCode, Option.getD_some]
    exact ok

theorem accepted_servedDrift (calibrated : Calibrated rail base slot capture)
    (isTrue : capture.TrueOf token slot reviewed)
    (isChain : capture.chainId = chain.chainId)
    (noProxy : slot = none →
      capture.implementationAddress = none ∧ capture.implementationCodeSha256 = none)
    (unmoved : Unmoved chain later capture token slot reviewed kept now)
    (bounded : ∀ block ∈ later.blocks, block.receipts.length ≤ maxRpcListItems) :
    (servedDrift later capture token slot kept now).Accepted rail := by
  constructor
  · exact isQuantity_pyHex _
  · exact ((spells_pyHex _).quantity_eq (isQuantity_pyHex _)).symm
  · rw [calibrated.chainId, isChain, ← unmoved.chainId]
    rfl
  · simp only [AnchorOk, calibrated.reviewAnchor, servedDrift, Int.toNat_natCast]
    refine ⟨_, blockOk_blockJson _ _ _ (bounded kept (List.mem_of_getElem? unmoved.onChain)), ?_⟩
    rw [calibrated.attestation, unmoved.sameBlock, ← isTrue.hash]
    rfl
  · exact blockOk_blockJson _ _ _ (bounded now (List.mem_of_getElem? unmoved.head))
  · exact codeOk_hexData unmoved.deployed
  · exact implementationOk_served calibrated isTrue noProxy unmoved
  · exact wordIs_hexWord (BitVec.isLt _)
  · refine wordIs_hexWord ?_
    split <;> norm_num

/-- The node answers every question of the drift check in this way. -/
theorem served_servedDrift (isToken : rail.tokenAddress = token)
    (calibrated : Calibrated rail base slot capture)
    (isTrue : capture.TrueOf token slot reviewed)
    (unmoved : Unmoved chain later capture token slot reviewed kept now) :
    ∀ entry ∈ (servedDrift later capture token slot kept now).transcript rail, ∀ earlier,
      entry.2 = served later earlier entry.1 := by
  subst isToken
  have anchor := anchorSaid_eq calibrated
    (rfl : (servedDrift later capture rail.tokenAddress slot kept now).reviewed = some _)
  rw [DriftWindow.transcript, anchor]
  intro entry mem earlier
  simp only [List.mem_append, List.mem_singleton] at mem
  rcases mem with rfl | rfl | rfl | rfl | proxy | probe
  · rfl
  · exact (serve_block unmoved.onChain).symm
  · exact (serve_tag _ unmoved.head).symm
  · exact (serve_code _ unmoved.head).symm
  · rcases slot with _ | place
    · cases proxy
    · rcases isTrue.implementation place rfl with ⟨address, sha, isAddress, _, isLower, _⟩
      have addresses := calibrated.implementationAddress_eq.trans isAddress
      have slots := calibrated.proxySlot_eq
      simp only [servedDrift, Option.map_some, implementationSaid, slots, addresses, isAddress,
        Option.getD_some, isLower, List.mem_cons, List.not_mem_nil, or_false] at proxy
      rcases proxy with rfl | rfl
      · exact (serve_slot _ _ unmoved.head).symm
      · exact (serve_code _ unmoved.head).symm
  · simp only [DriftWindow.probes, List.mem_cons, List.not_mem_nil, or_false] at probe
    rcases probe with rfl | rfl
    · exact (serve_balance _ 0 unmoved.head unmoved.deployed).symm
    · exact (serve_used _ 0 0 unmoved.head unmoved.deployed).symm

end Served

section Answers

variable [Interpreter] [Cryptography] {σ τ : Type} {chain later : Node.Chain} {world : World}
  {token : Str} {expected : ℤ} {tag : FinalityTag} {slot : Option Str} {capture : Capture}
  {base : AttestationFields} {rail : RailConfig} {before after : σ}
  {history finalHistory said : Conversation}

theorem chainId_true (from_ : Capture.CapturedFrom token tag slot said capture)
    (honest : ∀ entry ∈ said, HonestEntry chain entry) : capture.chainId = chain.chainId := by
  rcases from_.chainId with ⟨text, asked, shape, same⟩
  have spells := (honest _ asked _ _ _ rfl).chainId rfl text rfl
  exact same.trans (spells.quantity_eq shape)

/-- The drift check of a rail that was calibrated from a capture has an answer from a node that
serves a later chain whenever nothing but the code of the token was changed. -/
theorem returns_unmoved (honest : HonestWorld chain world)
    (captured : Returns world (Capture.capture token expected tag.text slot) before history capture
      after finalHistory)
    (calibrated : Calibrated rail base slot capture)
    (bounded : ∀ block ∈ later.blocks, block.receipts.length ≤ maxRpcListItems) (state : τ)
    (conversation : Conversation) {reviewed kept now : Block}
    (found : chain.blocks[capture.blockNumber]? = some reviewed)
    (unmoved : Unmoved chain later capture token slot reviewed kept now) :
    Returns (served later) (checkRailDrift rail) state conversation
      ((servedDrift later capture token slot kept now).check rail) state
      (conversation ++ (servedDrift later capture token slot kept now).transcript rail) := by
  rcases returns_iff.mp captured with ⟨said, _, follows, replays⟩
  have read := Capture.capturedFrom_of_replays replays
  have entries := honest.entry follows
  rcases capture_true read calibrated.slotShape entries with ⟨block, again, isTrue⟩
  cases found.symm.trans again
  have isToken : rail.tokenAddress = token := calibrated.tokenAddress.trans read.tokenAddress
  have accepted := accepted_servedDrift calibrated isTrue (chainId_true read entries) read.noProxy
    unmoved bounded
  have answered := served_servedDrift isToken calibrated isTrue unmoved
  refine returns_iff.mpr ⟨_, rfl, follows_of_forall fun entry mem earlier _ =>
    answered entry mem earlier, ?_⟩
  exact (reads_checkRailDrift rail _ _ _ _).mpr ⟨⟨_, accepted, rfl, rfl⟩, rfl⟩

/-- A new code of the token does not stop the check: where the chain, the reviewed block and the
implementation are those that were captured, it returns, at the head of the chain, and says
whether the code is the captured one. -/
theorem drift_answers (honest : HonestWorld chain world)
    (captured : Returns world (Capture.capture token expected tag.text slot) before history capture
      after finalHistory)
    (calibrated : Calibrated rail base slot capture)
    (bounded : ∀ block ∈ later.blocks, block.receipts.length ≤ maxRpcListItems) (state : τ)
    (conversation : Conversation) :
    ∃ reviewed, chain.blocks[capture.blockNumber]? = some reviewed ∧
      ∀ kept now, Unmoved chain later capture token slot reviewed kept now →
        ∃ check said, Returns (served later) (checkRailDrift rail) state conversation check state
            (conversation ++ said) ∧
          check.blockNumber = ((later.blocks.length - 1 : ℕ) : ℤ) ∧
          (check.isMatch = true ↔ Interpreter.sha256 (now.post.code (readAddress token)) =
            Interpreter.sha256 (reviewed.post.code (readAddress token))) := by
  rcases returns_iff.mp captured with ⟨said, _, follows, replays⟩
  have read := Capture.capturedFrom_of_replays replays
  rcases capture_true read calibrated.slotShape (honest.entry follows) with
    ⟨reviewed, found, isTrue⟩
  refine ⟨reviewed, found, ?_⟩
  intro kept now unmoved
  refine ⟨_, _, returns_unmoved honest captured calibrated bounded state conversation found unmoved,
    rfl, ?_⟩
  have verdict := calibrated.driftVerdict_iff
    (Interpreter.sha256 (now.post.code (readAddress token)))
  rw [isTrue.code] at verdict
  exact verdict

end Answers

/-! ### A token behind a proxy

It is captured at block 1, and its own code is replaced in block 2. -/

namespace Recaptured

open Node.Sample

/-- The digests of both codes. -/
@[reducible]
def interpreter : Interpreter :=
  asciiInterpreter
    [([0x60, 0x00], 0xf3df0a62b10f205b0f29768aa3d69e777154caaa179f64aabb0a4899c666b017),
      ([0x60, 0x01], 0x9e67b12fd8c58953460459cad7a6d4dd7d6d57594affce8206d1397c9c4db543)]

/-- The hashes of the signatures of the methods that are called. -/
def hashes : List (List UInt8 × Word) :=
  [(utf8 "name()".toList, 0x06fdde0383f15d582d1a74511486c9ddf862a882fb7904b3d9fe9b8b8e58a796),
    (utf8 "version()".toList, 0x54fd4d50fce680dbc2593d9e893064bfa880e5642d0036394e1a1849f7fc0749),
    (utf8 "decimals()".toList, 0x313ce567add4d438edf58b94ff345d7d38c45b17dfc0f947988d7819dca364f9),
    (utf8 "DOMAIN_SEPARATOR()".toList,
      0x3644e5157256d68e3eeedd2ead302507a9c4ffaff665547d2c3623a1e9e7edf4),
    (utf8 "authorizationState(address,bytes32)".toList,
      0xe94a01021b10fecb63ece0bf4b7b317de9b2ed3f95ec63d5cf2ec09837349b6a)]

@[reducible]
def cryptography : Cryptography := ⟨fun data => (hashes.lookup data).getD 0, fun _ _ _ _ => 0⟩

def state (code : List UInt8) : Node.State :=
  ⟨fun who => if who = target then code else [0x60, 0x00], fun _ _ => 0xee, fun _ _ => 0,
    fun _ _ _ => false⟩

def reviewed : Block := ⟨0x11, 6, [], state [0x60, 0x00]⟩

def upgraded : Block := ⟨0x12, 7, [], state [0x60, 0x01]⟩

def early : Node.Chain where
  chainId := 84532
  blocks := [⟨0x10, 5, [], state [0x60, 0x00]⟩, reviewed]
  transactions_nodup := by decide
  positions_nodup := by decide

def late : Node.Chain where
  chainId := 84532
  blocks := [⟨0x10, 5, [], state [0x60, 0x00]⟩, reviewed, upgraded]
  transactions_nodup := by decide
  positions_nodup := by decide

/-- The data of a call. -/
def payloadOf : List Value → Str
  | .dict fields :: _ => fieldText fields "data"
  | _ => []

/-- The node of the early chain, with a token that has six decimals. -/
def answering : World := fun said question =>
  match question with
  | .rpc method params =>
      if method = "eth_call" ∧ payloadOf params = "0x313ce567".toList then
        (.ok (.str (hexWord 6)) : Except String Value)
      else (serve early method params : Except String Value)
  | .sign transaction => served early said (.sign transaction)
  | .clock => served early said .clock
  | .now => served early said .now
  | .tokenHex bytes => served early said (.tokenHex bytes)

def slot : Str := hexWord 1

def sha : Str := hexPad 64 0xf3df0a62b10f205b0f29768aa3d69e777154caaa179f64aabb0a4899c666b017

def captured : Capture where
  chainId := 84532
  blockNumber := 1
  blockHash := hexWord 0x11
  tokenAddress := token.address
  codeSha256 := sha
  reportedName := none
  reportedVersion := none
  decimals := 6
  domainSeparator := none
  domainSolution := none
  eip3009StateReadable := true
  implementationAddress := some (hexAddress 0xee)
  implementationCodeSha256 := some sha
  notes := letI := interpreter; Capture.domainNotes none none none

def base : AttestationFields where
  version := "2026-10-07.1"
  authoritativeSources := [eip3009]
  networkClass := .testnet
  proxyKind := .erc1967Proxy
  expectedDecimals := 6
  domainName := none
  domainVersion := none

def rail : RailConfig where
  key := "usdc-captured"
  label := "Captured USDC"
  chainId := 84532
  tokenAddress := token.address
  decimals := 6
  tokenName := none
  tokenVersion := none
  finality := mockAnvil.finality
  attestation := ⟨captured.attestation base (some slot), by decide +kernel⟩
  accepted := by decide +kernel

theorem payloadOf_callAt (target data : Str) (number : ℕ) :
    payloadOf (callAt target data number) = data := by
  rfl

/-- A call without arguments asks for no balance and for no authorization. -/
theorem honest_of_bare {params : List Value} (value : Value)
    (bare : (payloadOf params).length = 10) : Honest early "eth_call" params value where
  chainId other := absurd other (by decide)
  block _ _ other := absurd other (by decide)
  tag _ _ other := absurd other (by decide)
  receipt _ _ other := absurd other (by decide)
  code _ _ _ other := absurd other (by decide)
  storage _ _ _ _ other := absurd other (by decide)
  logs _ _ _ _ _ other := absurd other (by decide)
  balance target who number text _ same := by
    rw [same, payloadOf_callAt, TokenView.balancePayload, List.length_cons, List.length_cons,
      List.length_append, length_hexPad] at bare
    omega
  used target who nonce number text _ same := by
    rw [same, payloadOf_callAt, TokenView.authorizationPayload, List.length_cons,
      List.length_cons, List.length_append, length_hexPad] at bare
    omega

theorem honest_answering : HonestWorld early answering := by
  intro said method params value answered
  by_cases asked : method = "eth_call" ∧ payloadOf params = "0x313ce567".toList
  · rcases asked with ⟨rfl, payload⟩
    exact honest_of_bare value (by rw [payload]; rfl)
  · apply honestWorld_served early said
    rw [← answered]
    exact (if_neg asked).symm

theorem returns_of_result {S : Signature} {ε α : Type} {environment : Environment S}
    {program : Program S Unit ε α} {history : History S} {value : α}
    (ends : (program.run environment () history).result.toOption = some value) :
    ∃ finalHistory, Returns environment program () history value () finalHistory := by
  rcases run : program.run environment () history with ⟨result, _, finalHistory⟩
  rw [run] at ends
  rcases result with error | value
  · cases ends
  · cases ends
    exact ⟨finalHistory, run⟩

theorem returns_capture : letI := interpreter; letI := cryptography
    ∃ said, Returns answering (Capture.capture token.address 84532 FinalityTag.latest.text
      (some slot)) () [] captured () said := by
  let := interpreter
  let := cryptography
  apply returns_of_result
  decide +kernel

theorem calibrated_rail : Calibrated rail base (some slot) captured := by
  exact ⟨rfl, by decide, by decide, rfl, rfl⟩

theorem bounded_blocks (later : Node.Chain) (short : ∀ block ∈ later.blocks, block.receipts = []) :
    ∀ block ∈ later.blocks, block.receipts.length ≤ maxRpcListItems := by
  intro block mem
  rw [short block mem]
  exact Nat.zero_le _

theorem code_state (code : List UInt8) (deployed : code ≠ []) (who : Address) :
    (state code).code who ≠ [] := by
  change (if who = target then code else [0x60, 0x00]) ≠ []
  split_ifs
  · exact deployed
  · exact List.cons_ne_nil _ _

theorem code_other (code : List UInt8) :
    (state code).code ((0xee : Word).setWidth 160) = [0x60, 0x00] := by
  change (if (0xee : Word).setWidth 160 = target then code else [0x60, 0x00]) = [0x60, 0x00]
  exact if_neg (by decide)

/-- Only the code of the token changes from one state to another. -/
theorem unmoved_of_head {later : Node.Chain} {now : Block} {code : List UInt8}
    (chainId : later.chainId = 84532) (onChain : later.blocks[1]? = some reviewed)
    (head : later.blocks[later.blocks.length - 1]? = some now) (post : now.post = state code)
    (deployed : code ≠ []) : letI := interpreter
    Unmoved early later captured token.address (some slot) reviewed reviewed now := by
  let := interpreter
  refine ⟨chainId, onChain, rfl, head, ?_, ?_⟩
  · rw [post]
    exact code_state code deployed _
  · rintro place -
    rw [post]
    exact ⟨⟨rfl, congrArg _ ((code_other code).trans (code_other _).symm)⟩,
      code_state code deployed _⟩

theorem drift_of_captured_upgraded : letI := interpreter; letI := cryptography
    ∃ check said, Returns (served late) (checkRailDrift rail) () [] check () said ∧
      check.isMatch = false := by
  let := interpreter
  let := cryptography
  rcases returns_capture with ⟨_, captured⟩
  have checked := returns_unmoved honest_answering captured calibrated_rail
    (bounded_blocks late (by decide)) () [] rfl
    (unmoved_of_head rfl rfl rfl (rfl : upgraded.post = state _) (List.cons_ne_nil _ _))
  rcases drift_of_captured honest_answering captured calibrated_rail (honestWorld_served late)
    checked with ⟨before, _, number, now, found, _, _, isNumber, head, _, verdict⟩
  cases found
  cases Int.ofNat.inj isNumber
  cases head
  refine ⟨_, _, checked, ?_⟩
  rw [Bool.eq_false_iff, ne_eq, verdict]
  decide +kernel

/-- The early chain has the captured code at its head, the late chain another one; the check
answers on both. -/
theorem drift_answers_upgraded : letI := interpreter; letI := cryptography
    (∃ check said, Returns (served early) (checkRailDrift rail) () [] check () said ∧
      check.blockNumber = 1 ∧ check.isMatch = true) ∧
    ∃ check said, Returns (served late) (checkRailDrift rail) () [] check () said ∧
      check.blockNumber = 2 ∧ check.isMatch = false := by
  let := interpreter
  let := cryptography
  rcases returns_capture with ⟨_, captured⟩
  constructor
  · rcases drift_answers honest_answering captured calibrated_rail
      (bounded_blocks early (by decide)) () [] with ⟨before, found, answers⟩
    cases found
    rcases answers reviewed reviewed
      (unmoved_of_head rfl rfl rfl (rfl : reviewed.post = state _) (List.cons_ne_nil _ _)) with
      ⟨check, said, checked, isNumber, verdict⟩
    exact ⟨check, _, checked, isNumber, verdict.mpr rfl⟩
  · rcases drift_answers honest_answering captured calibrated_rail
      (bounded_blocks late (by decide)) () [] with ⟨before, found, answers⟩
    cases found
    rcases answers reviewed upgraded
      (unmoved_of_head rfl rfl rfl (rfl : upgraded.post = state _) (List.cons_ne_nil _ _)) with
      ⟨check, said, checked, isNumber, verdict⟩
    refine ⟨check, _, checked, isNumber, ?_⟩
    rw [Bool.eq_false_iff, ne_eq, verdict]
    decide +kernel

end Recaptured

end Psv
