import Psv.Node.Transfer

/-!
# Reading honest answers

An answer that is honest about a chain, decoded the way the checks of a run
decode it, states a fact about the chain.  There is one lemma for each kind of
read; `reading_of_honest` puts them together for a window whose answers are all
honest about the same chain.
-/

namespace Psv

open Python Interaction Program RpcClient Anvil Chain Rails

namespace Node

variable [Interpreter]

/-- The exchange is honest about the chain. -/
def HonestEntry (chain : Chain) (entry : Σ question : interface.Ask, interface.Answer question) :
    Prop :=
  ∀ method params value, entry = exchange method params (.ok value) →
    Honest chain method params value

omit [Interpreter] in
theorem HonestWorld.entry {chain : Chain} {world : World} {history said : Conversation}
    (honest : HonestWorld chain world) (follows : Follows world history said) :
    ∀ entry ∈ said, HonestEntry chain entry := by
  rintro entry mem method params value rfl
  obtain ⟨earlier, _, answered⟩ := follows.mem mem
  exact honest earlier method params value answered.symm

/-! ### Fields -/

section Fields

variable {fields : Fields} {name : String}

omit [Interpreter] in
theorem quantityAt_spells {n m : ℕ} (quantity : QuantityAt fields name n)
    (spells : SpellsAt fields name (pyHex m)) : n = m := by
  obtain ⟨text, is, shape, rfl⟩ := quantity
  obtain ⟨_, is', spelled⟩ := spells
  cases is.symm.trans is'
  exact spelled.quantity_eq shape

theorem hashAt_spells {hash : Str} {word : Word} (hashed : HashAt fields name hash)
    (spells : SpellsAt fields name (hexWord word.toNat)) : hash = hexWord word.toNat := by
  obtain ⟨text, is, shape, rfl⟩ := hashed
  obtain ⟨_, is', spelled⟩ := spells
  cases is.symm.trans is'
  exact spelled.lower_eq shape

end Fields

omit [Interpreter] in
theorem forall₂_origin {α β : Type} {R : α → β → Prop} {left : List α} {right : List β}
    (related : List.Forall₂ R left right) {item : β} (mem : item ∈ right) :
    ∃ origin ∈ left, R origin item := by
  induction related with
  | nil => simp at mem
  | cons first rest ih =>
      rcases List.mem_cons.mp mem with rfl | later
      · exact ⟨_, List.mem_cons_self .., first⟩
      · obtain ⟨origin, listed, is⟩ := ih later
        exact ⟨origin, List.mem_cons_of_mem _ listed, is⟩

/-! ### One read -/

section Reads

variable {chain : Chain}

theorem read_block {number n : ℕ} {fields : Fields} {hash : Str}
    (honest : HonestEntry chain (blockSaid (pyHex number) fields)) (ok : BlockOk fields n hash) :
    ∃ block, chain.blocks[number]? = some block ∧ n = number ∧
      hash = hexWord block.hash.toNat := by
  obtain ⟨block, found, renders⟩ := (honest _ _ _ rfl).block number fields rfl rfl rfl
  exact ⟨block, found, quantityAt_spells ok.number renders.number,
    hashAt_spells ok.hash renders.hash⟩

theorem read_tag {tag : FinalityTag} {n : ℕ} {fields : Fields} {hash : Str}
    (honest : HonestEntry chain (blockSaid tag.text.toList fields)) (ok : BlockOk fields n hash) :
    ∃ block, chain.blocks[n]? = some block ∧ hash = hexWord block.hash.toNat := by
  obtain ⟨number, block, found, renders⟩ := (honest _ _ _ rfl).tag tag fields rfl rfl rfl
  obtain rfl := quantityAt_spells ok.number renders.number
  exact ⟨block, found, hashAt_spells ok.hash renders.hash⟩

theorem read_receipt {text : Str} {fields : Fields} (shape : isExactHex 64 text = true)
    (honest : HonestEntry chain (receiptSaid (lower text) fields)) :
    ∃ number block position receipt, chain.Mined number block position receipt ∧
      receipt.txHash = readWord text ∧ RendersReceipt number block.hash receipt fields := by
  refine (honest _ _ _ rfl).receipt (readWord text) fields rfl ?_ rfl
  rw [lower_word shape]

omit [Interpreter] in
theorem bytesHex_injective {left right : List UInt8} (same : bytesHex left = bytesHex right) :
    left = right := by
  have read : ∀ data : List UInt8, fromHex (bytesHex data) = some data := fun data =>
    fromHex_of_map_toLower_eq (all_bytesHex data) (by
      have spells := spells_hexData data
      simpa [Spells, hexData] using spells)
  have equal := (read left).symm.trans (same ▸ read right)
  exact Option.some.inj equal

theorem read_code {target code sha : Str} {number : ℕ} (exact : isExactHex 40 target = true)
    (honest : HonestEntry chain (codeSaid target number code)) (ok : CodeOk code sha) :
    ∃ block, chain.blocks[number]? = some block ∧
      sha = Interpreter.sha256 (block.post.code (readAddress target)) := by
  obtain ⟨block, found, spells⟩ := (honest _ _ _ rfl).code target number code rfl rfl exact rfl
  obtain ⟨shape, raw, read, _, rfl⟩ := ok
  obtain ⟨digits, rfl, _, all⟩ := isData_iff.mp shape
  have spelled : digits.map Char.toLower = bytesHex (block.post.code (readAddress target)) := by
    simpa [Spells, hexData] using spells
  have same := fromHex_of_map_toLower_eq all spelled
  cases same.symm.trans read
  exact ⟨block, found, rfl⟩

omit [Interpreter] in
theorem read_slot {target slot word : Str} {number : ℕ} (exact : isExactHex 40 target = true)
    (slotShape : isExactHex 64 slot = true) (shape : isExactHex 64 word = true)
    (honest : HonestEntry chain (slotSaid target slot number word)) :
    ∃ block, chain.blocks[number]? = some block ∧
      readWord word = block.post.storage (readAddress target) (readWord slot) := by
  obtain ⟨block, found, spells⟩ :=
    (honest _ _ _ rfl).storage target slot number word rfl rfl exact slotShape rfl shape
  refine ⟨block, found, BitVec.eq_of_toNat_eq ?_⟩
  rw [toNat_readWord shape]
  exact spells.word_eq shape

omit [Interpreter] in
theorem read_balance {target who word : Str} {number n : ℕ} (exact : isExactHex 40 target = true)
    (whoShape : isExactHex 40 who = true)
    (honest : HonestEntry chain
      (callSaid target (TokenView.balancePayload (hexVal (who.drop 2))) number word))
    (is : WordIs word n) :
    ∃ block, chain.blocks[number]? = some block ∧
      n = (block.post.balance (readAddress target) (readAddress who)).toNat := by
  rw [← toNat_readAddress whoShape] at honest
  obtain ⟨block, found, spells⟩ := (honest _ _ _ rfl).balance target (readAddress who) number word
    rfl rfl exact rfl is.1
  exact ⟨block, found, is.2.trans (spells.word_eq is.1)⟩

omit [Interpreter] in
theorem read_used {target who nonce word : Str} {number : ℕ} {used : Bool}
    (exact : isExactHex 40 target = true) (whoShape : isExactHex 40 who = true)
    (nonceShape : isExactHex 64 nonce = true)
    (honest : HonestEntry chain (callSaid target (TokenView.authorizationPayload
      (hexVal (who.drop 2)) (hexVal (nonce.drop 2))) number word))
    (is : WordIs word (if used then 1 else 0)) :
    ∃ block, chain.blocks[number]? = some block ∧
      used = block.post.used (readAddress target) (readAddress who) (readWord nonce) := by
  rw [← toNat_readAddress whoShape, ← toNat_readWord nonceShape] at honest
  obtain ⟨block, found, spells⟩ := (honest _ _ _ rfl).used target (readAddress who)
    (readWord nonce) number word rfl rfl exact rfl is.1
  refine ⟨block, found, ?_⟩
  have small : (if block.post.used (readAddress target) (readAddress who) (readWord nonce)
      then 1 else 0) < 16 ^ 64 := by
    split <;> norm_num
  have value := is.2.trans (spells.hexVal_eq is.1 small)
  by_contra different
  rcases used with _ | _
  · rw [if_neg Bool.false_ne_true, if_pos (Bool.not_eq_false _ ▸ Ne.symm different)] at value
    cases value
  · rw [if_pos rfl, if_neg fun same => different same.symm] at value
    cases value

omit [Interpreter] in
/-- The same-block logs of an account, as an honest node lists them. -/
theorem read_race {token : TokenView} {payment : Payment} {number : ℕ} {block : Block}
    {inbound outbound : List Fields} (payerShape : isExactHex 40 payment.payer = true)
    (payeeShape : isExactHex 40 payment.payee = true)
    (found : chain.blocks[number]? = some block)
    (honest : ∀ entry ∈ raceSaid token payment number (some (inbound, outbound)),
      HonestEntry chain entry) :
    List.Forall₂ (fun entry fields => RendersLog number block.hash entry.1 entry.2 fields)
        (block.select (readAddress token.address) [some (readWord topicTransfer), none,
          some ((readAddress payment.payee).setWidth 256)]) inbound ∧
      List.Forall₂ (fun entry fields => RendersLog number block.hash entry.1 entry.2 fields)
        (block.select (readAddress token.address) [some (readWord topicTransfer),
          some ((readAddress payment.payer).setWidth 256), none]) outbound := by
  constructor
  · refine (honest _ (List.mem_cons_self ..) _ _ _ rfl).logs token.address _ number inbound block
      rfl ?_ token.exact rfl found
    rw [← inboundTopics_eq payeeShape]
  · refine (honest _ (List.mem_cons_of_mem _ (List.mem_singleton_self _)) _ _ _ rfl).logs
      token.address _ number outbound block rfl ?_ token.exact rfl found
    rw [← outboundTopics_eq payerShape]

end Reads

/-! ### Logs -/

omit [Interpreter] in
/-- A word with twelve leading zero bytes holds an address. -/
theorem address_of_zeros {word : Word}
    (zeros : ((hexWord word.toNat).drop 2).take 24 = List.replicate 24 '0') :
    ∃ address : Address, word = address.setWidth 256 ∧
      '0' :: 'x' :: (hexWord word.toNat).drop 26 = hexAddress address.toNat := by
  have digits : (hexWord word.toNat).drop 2 = hexPad 64 word.toNat := rfl
  have tail : (hexWord word.toNat).drop 26 = (hexPad 64 word.toNat).drop 24 := by
    rw [← digits, List.drop_drop]
  rw [digits] at zeros
  obtain ⟨rest, rest_eq⟩ : ∃ rest, (hexPad 64 word.toNat).drop 24 = rest := ⟨_, rfl⟩
  have inside : ∀ c ∈ rest, c ∈ hexPad 64 word.toNat := fun c mem =>
    List.mem_of_mem_drop (rest_eq ▸ mem)
  have all : rest.all isHexDigit = true :=
    List.all_eq_true.mpr fun c mem => isHexDigit_of_mem_hexPad (inside c mem)
  have lowered : rest.map Char.toLower = rest :=
    (List.map_congr_left fun c mem => toLower_of_mem_hexPad (inside c mem)).trans (by simp)
  have length : rest.length = 40 := by
    rw [← rest_eq, List.length_drop, length_hexPad]
  have small := hexVal_lt all
  rw [length] at small
  have rest_hexPad : rest = hexPad 40 (hexVal rest) := by
    rw [← length, ← map_toLower_eq_hexPad all, lowered]
  have whole : hexPad 64 word.toNat = hexPad 64 (hexVal rest) := by
    calc hexPad 64 word.toNat = List.replicate 24 '0' ++ rest := by
          rw [← zeros, ← rest_eq, List.take_append_drop]
      _ = List.replicate 24 '0' ++ hexPad 40 (hexVal rest) := by rw [← rest_hexPad]
      _ = hexPad 64 (hexVal rest) := replicate_zero_append_hexPad 24 40 _ small
  have value : word.toNat = hexVal rest :=
    hexPad_injOn (lt_of_lt_of_eq word.isLt (by norm_num)) (small.trans (by norm_num)) whole
  have toNat : (BitVec.ofNat 160 (hexVal rest)).toNat = hexVal rest := by
    rw [BitVec.toNat_ofNat]
    exact Nat.mod_eq_of_lt (lt_of_lt_of_eq small (by norm_num))
  refine ⟨BitVec.ofNat 160 (hexVal rest), BitVec.eq_of_toNat_eq ?_, ?_⟩
  · rw [toNat_setWidth, toNat, value]
  · rw [tail, rest_eq, toNat, hexAddress, ← rest_hexPad]

/-- A word with twelve leading zero bytes and this address behind them. -/
theorem readWord_eq_setWidth {word address : Str} (shape : isExactHex 64 word = true)
    (padded : (word.drop 2).take 24 = List.replicate 24 '0')
    (same : '0' :: 'x' :: lower (word.drop (word.length - 40)) = lower address) :
    readWord word = (readAddress (lower address)).setWidth 256 := by
  obtain ⟨digits, rfl, length, all⟩ := isExactHex_iff.mp shape
  have lowered : digits.map Char.toLower = hexPad 64 (readWord ('0' :: 'x' :: digits)).toNat := by
    have spelled := spells_readWord shape
    simpa [Spells, hexWord] using spelled
  have zeros : ((hexWord (readWord ('0' :: 'x' :: digits)).toNat).drop 2).take 24 =
      List.replicate 24 '0' := by
    change (hexPad 64 (readWord ('0' :: 'x' :: digits)).toNat).take 24 = _
    rw [← lowered, ← List.map_take]
    change (digits.take 24) = _ at padded
    rw [padded]
    decide
  have ascii : ∀ c ∈ digits.drop 24, c.toNat < 128 := fun c mem =>
    isAscii_of_isHexDigit (List.all_eq_true.mp all c (List.mem_of_mem_drop mem))
  have tail : lower (('0' :: 'x' :: digits).drop (('0' :: 'x' :: digits).length - 40)) =
      (hexWord (readWord ('0' :: 'x' :: digits)).toNat).drop 26 := by
    have place : ('0' :: 'x' :: digits).length - 40 = 26 := by simp [length]
    rw [place, hexWord, ← lowered, List.drop_succ_cons, List.drop_succ_cons, List.drop_succ_cons,
      List.drop_succ_cons, lower_eq_map ascii, List.map_drop]
  obtain ⟨holder, is, spelled⟩ := address_of_zeros zeros
  rw [tail, spelled] at same
  rw [is, ← same, readAddress_hexAddress]

/-- A rendered log that decodes to a credit is the transfer of that credit. -/
theorem transfer_of_decodesTo {number : ℕ} {ofBlock txHash : Word} {log : Log} {fields : Fields}
    {chainId : ℤ} {credit : OnChainCredit}
    (renders : RendersLog number ofBlock txHash log fields) (shape : LogShape fields)
    (decodes : Reconciliation.DecodesTo fields chainId credit) :
    ∃ payer payee : Address, ∃ value : Word, log.topics = transferTopics payer payee ∧
      log.data = wordData value ∧ credit.payer = hexAddress payer.toNat ∧
      credit.payee = hexAddress payee.toNat ∧ credit.value = value.toNat ∧
      credit.identity.asset = hexAddress log.emitter.toNat ∧
      credit.identity.txHash = hexWord txHash.toNat ∧ credit.identity.logIndex = log.index := by
  obtain ⟨signature, payerTopic, payeeTopic, listed, isTransfer, payerZeros, payerIs, payeeZeros,
    payeeIs⟩ := decodes.topics
  have spelled : ∃ t₀ t₁ t₂ : Word, log.topics = [t₀, t₁, t₂] ∧
      lower signature = hexWord t₀.toNat ∧ lower payerTopic = hexWord t₁.toNat ∧
      lower payeeTopic = hexWord t₂.toNat := by
    obtain ⟨texts, textsEq, _, shapes⟩ := shape.topics
    obtain ⟨texts', textsEq', spells⟩ := renders.topics
    have injective : Function.Injective (Value.str) := fun _ _ same => by simpa using same
    obtain rfl : texts = [signature, payerTopic, payeeTopic] := by
      rw [textsEq, Value.list.injEq] at listed
      exact List.map_injective_iff.mpr injective listed
    obtain rfl : texts' = [signature, payerTopic, payeeTopic] := by
      rw [textsEq', Value.list.injEq] at listed
      exact List.map_injective_iff.mpr injective listed
    obtain ⟨t₀, _, spell₀, spells₁, topics₀⟩ := List.forall₂_cons_left_iff.mp spells
    obtain ⟨t₁, _, spell₁, spells₂, rfl⟩ := List.forall₂_cons_left_iff.mp spells₁
    obtain ⟨t₂, _, spell₂, spells₃, rfl⟩ := List.forall₂_cons_left_iff.mp spells₂
    obtain rfl := List.forall₂_nil_left_iff.mp spells₃
    exact ⟨t₀, t₁, t₂, topics₀, spell₀.lower_eq (shapes _ (by simp)),
      spell₁.lower_eq (shapes _ (by simp)), spell₂.lower_eq (shapes _ (by simp))⟩
  obtain ⟨t₀, t₁, t₂, topics, is₀, is₁, is₂⟩ := spelled
  rw [is₁] at payerZeros payerIs
  rw [is₂] at payeeZeros payeeIs
  obtain ⟨payer, rfl, payerEq⟩ := address_of_zeros payerZeros
  obtain ⟨payee, rfl, payeeEq⟩ := address_of_zeros payeeZeros
  obtain rfl : t₀ = readWord topicTransfer := by
    apply hexWord_injective
    rw [← is₀, isTransfer, topicTransfer_eq]
  obtain ⟨dataText, dataEq, dataShape, dataIs⟩ := decodes.data
  obtain ⟨_, dataEq', dataSpells⟩ := renders.data
  cases dataEq.symm.trans dataEq'
  have data : log.data = wordData (readWord dataText) := by
    have same : hexData log.data = hexData (wordData (readWord dataText)) := by
      rw [hexData_wordData, ← lower_word dataShape, dataSpells.lower_eq dataShape]
    simp only [hexData, List.cons.injEq, true_and] at same
    exact bytesHex_injective same
  obtain ⟨assetText, assetEq, assetIs⟩ := decodes.asset
  obtain ⟨_, assetEq', assetSpells⟩ := renders.address
  obtain ⟨_, assetEq'', assetShape⟩ := shape.address
  cases assetEq.symm.trans assetEq'
  cases assetEq.symm.trans assetEq''
  obtain ⟨txText, txEq, txIs⟩ := decodes.txHash
  obtain ⟨_, txEq', txSpells⟩ := renders.transactionHash
  obtain ⟨_, txEq'', txShape⟩ := shape.transactionHash
  cases txEq.symm.trans txEq'
  cases txEq.symm.trans txEq''
  obtain ⟨indexText, indexEq, indexIs, _⟩ := decodes.logIndex
  obtain ⟨_, indexEq', indexSpells⟩ := renders.logIndex
  obtain ⟨_, indexEq'', indexShape⟩ := shape.logIndex
  cases indexEq.symm.trans indexEq'
  cases indexEq.symm.trans indexEq''
  refine ⟨payer, payee, readWord dataText, topics, data, payerIs.trans payerEq,
    payeeIs.trans payeeEq, ?_, ?_, ?_, ?_⟩
  · rw [dataIs, toNat_readWord dataShape]
  · rw [assetIs, assetSpells.lower_eq assetShape]
  · rw [txIs, txSpells.lower_eq txShape]
  · rw [indexIs, indexSpells.quantity_eq indexShape]

/-- A rendered log with the authorization topics uses up the authorization. -/
theorem authorization_of_isTokenLog {number : ℕ} {ofBlock txHash : Word} {log : Log}
    {fields : Fields} {token : TokenView} {payment : Payment}
    (renders : RendersLog number ofBlock txHash log fields) (shape : LogShape fields)
    (payerShape : isExactHex 40 payment.payer = true)
    (nonceShape : isExactHex 64 payment.nonce = true)
    (is : isTokenLog token.address (authorizationTopics payment) fields = true) :
    log.emitter = readAddress token.address ∧
      log.topics = usedTopics (readAddress payment.payer) (readWord payment.nonce) := by
  obtain ⟨address, addressEq, addressSpells⟩ := renders.address
  obtain ⟨_, addressEq', addressShape⟩ := shape.address
  cases addressEq.symm.trans addressEq'
  simp only [isTokenLog, addressEq, Bool.and_eq_true, decide_eq_true_eq, Value.isTexts_iff] at is
  obtain ⟨texts, textsEq, spells⟩ := renders.topics
  have exactly : texts = authorizationTopics payment := by
    have same := textsEq.symm.trans is.2
    rw [Value.list.injEq] at same
    exact List.map_injective_iff.mpr (fun _ _ equal => by simpa using equal) same
  constructor
  · apply hexAddress_injective
    rw [← addressSpells.lower_eq addressShape, is.1]
    exact lower_address token.exact
  · rw [exactly, authorizationTopics, lower_word nonceShape,
      ← toNat_readAddress payerShape, ← toNat_setWidth] at spells
    obtain ⟨t₀, _, spell₀, spells₁, topics₀⟩ := List.forall₂_cons_left_iff.mp spells
    obtain ⟨t₁, _, spell₁, spells₂, rfl⟩ := List.forall₂_cons_left_iff.mp spells₁
    obtain ⟨t₂, _, spell₂, spells₃, rfl⟩ := List.forall₂_cons_left_iff.mp spells₂
    obtain rfl := List.forall₂_nil_left_iff.mp spells₃
    have signature : t₀ = readWord topicAuthorizationUsed := by
      apply hexWord_injective
      rw [topicAuthorizationUsed, hexWord_readWord]
      exact spell₀.symm.trans (spells_hexWord _)
    have who : t₁ = (readAddress payment.payer).setWidth 256 :=
      hexWord_injective (spell₁.symm.trans (spells_hexWord _))
    have used : t₂ = readWord payment.nonce :=
      hexWord_injective (spell₂.symm.trans (spells_hexWord _))
    rw [topics₀, signature, who, used]
    rfl

/-! ### Evidence and blocks -/

/-- The chain holds these blocks one after the other, as far as receipts and states go. -/
structure Chain.Carries (chain : Chain) (number : ℕ) (parent block : Block) : Prop where
  here : ∃ found, chain.blocks[number]? = some found ∧ found.hash = block.hash ∧
    found.receipts = block.receipts ∧ found.post = block.post
  before : ∃ found, chain.blocks[number - 1]? = some found ∧ found.post = parent.post

/-- The transfer and the authorization that evidence of a success reports. -/
structure EventOf (token : TokenView) (payment : Payment) (evidence : ChainEvidence)
    (receipt : Receipt) (transfer authorization : Log) (value : Word) : Prop where
  listed : transfer ∈ receipt.logs
  emitter : transfer.emitter = readAddress token.address
  topics : transfer.topics =
    transferTopics (readAddress payment.payer) (readAddress payment.payee)
  data : transfer.data = wordData value
  index : (transfer.index : ℤ) = payment.logIndex
  logIndex : evidence.logIndex = some (transfer.index : ℤ)
  eventValue : evidence.eventValue = some (value.toNat : ℤ)
  authorized : authorization ∈ receipt.logs
  byToken : authorization.emitter = readAddress token.address
  used : authorization.topics = usedTopics (readAddress payment.payer) (readWord payment.nonce)
  authorizationLogIndex : evidence.authorizationLogIndex = some (authorization.index : ℤ)

/-- The block-pinned part of the evidence is read off a block and its parent. -/
structure EvidenceOf (token : TokenView) (rail : RailConfig) (payment : Payment)
    (evidence : ChainEvidence) (number : ℕ) (parent block : Block) (receipt : Receipt) :
    Prop where
  number : evidence.settlementBlockNumber = number
  hash : evidence.settlementBlockHash = hexWord block.hash.toNat
  mined : receipt ∈ block.receipts
  transaction : receipt.txHash = readWord payment.transactionHash
  status : evidence.receiptStatus = if receipt.success then 1 else 0
  code : evidence.tokenCodeSha256 =
    Interpreter.sha256 (block.post.code (readAddress token.address))
  implementation : ∀ address ∈ evidence.implementationAddress,
    ∃ slot ∈ rail.attestation.proxyImplementationSlot,
      block.post.storage (readAddress rail.tokenAddress) (readWord slot) =
        (readAddress address).setWidth 256
  implementationCode : ∀ sha ∈ evidence.implementationCodeSha256,
    ∃ address ∈ evidence.implementationAddress,
      sha = Interpreter.sha256 (block.post.code (readAddress address))
  payerBefore : evidence.payerBalanceBefore =
    (parent.post.balance (readAddress token.address) (readAddress payment.payer)).toNat
  payeeBefore : evidence.payeeBalanceBefore =
    (parent.post.balance (readAddress token.address) (readAddress payment.payee)).toNat
  payerAfter : evidence.payerBalanceAfter =
    (block.post.balance (readAddress token.address) (readAddress payment.payer)).toNat
  payeeAfter : evidence.payeeBalanceAfter =
    (block.post.balance (readAddress token.address) (readAddress payment.payee)).toNat
  nonce : evidence.nonceConsumed =
    block.post.used (readAddress token.address) (readAddress payment.payer)
      (readWord payment.nonce)
  event : receipt.success = true → ∃ transfer authorization value,
    EventOf token payment evidence receipt transfer authorization value
  noEvent : receipt.success = false → evidence.logIndex = none ∧ evidence.eventValue = none ∧
    evidence.authorizationLogIndex = none

section Evidence

variable {token : TokenView} {rail : RailConfig} {payment : Payment} {window : Window}
  {parent block : Block} {receipt : Receipt}

theorem eventOf_success {authIndex : ℕ} {credit : OnChainCredit}
    {inbound outbound : List Fields} (accepted : window.Accepted token rail payment)
    (renders : RendersReceipt window.point.number block.hash receipt window.receipt)
    (ok : TransferOk token payment window.liveChain (lower payment.transactionHash) window.point
      window.receipt window.snapshot credit authIndex inbound outbound)
    (attributed : window.attribution = successAttribution credit authIndex window.snapshot) :
    ∃ transfer authorization value, EventOf token payment (window.evidence token rail payment)
      receipt transfer authorization value := by
  obtain ⟨logs, logged, ⟨fields, single, decodes⟩, authFields, authSingle, _, authPlaced⟩ :=
    ok.logs
  have injective : Function.Injective (Value.dict) := fun _ _ same => by simpa using same
  have shapes : ∀ fields ∈ logs, LogShape fields := by
    obtain ⟨found, foundLogged, _, shapes⟩ := accepted.point.shape.logs
    obtain rfl : logs = found := by
      rw [logged, Value.list.injEq] at foundLogged
      exact List.map_injective_iff.mpr injective foundLogged
    exact shapes
  have rendered : List.Forall₂ (RendersLog window.point.number block.hash receipt.txHash)
      receipt.logs logs := by
    obtain ⟨found, foundLogged, rendered⟩ := renders.logs
    obtain rfl : logs = found := by
      rw [logged, Value.list.injEq] at foundLogged
      exact List.map_injective_iff.mpr injective foundLogged
    exact rendered
  have fieldsMem := List.mem_filter.mp (single ▸ List.mem_singleton_self fields :
    fields ∈ logs.filter (hasLogIndex payment.logIndex))
  have authMem := List.mem_filter.mp (authSingle ▸ List.mem_singleton_self authFields :
    authFields ∈ logs.filter (isTokenLog token.address (authorizationTopics payment)))
  obtain ⟨transfer, listed, transferRenders⟩ := forall₂_origin rendered fieldsMem.1
  obtain ⟨authorization, authorized, authRenders⟩ := forall₂_origin rendered authMem.1
  obtain ⟨payer, payee, value, topics, data, payerIs, payeeIs, valueIs, assetIs, _, indexIs⟩ :=
    transfer_of_decodesTo transferRenders (shapes fields fieldsMem.1) decodes
  have payerShape := accepted.snapshot.payerShape
  have payeeShape := accepted.snapshot.payeeShape
  obtain rfl : payer = readAddress payment.payer := by
    apply hexAddress_injective
    rw [← payerIs, ok.payer, lower_address payerShape]
  obtain rfl : payee = readAddress payment.payee := by
    apply hexAddress_injective
    rw [← payeeIs, ok.payee, lower_address payeeShape]
  obtain ⟨byToken, used⟩ := authorization_of_isTokenLog authRenders (shapes authFields authMem.1)
    payerShape accepted.arguments.nonceShape authMem.2
  refine ⟨transfer, authorization, value, listed, ?_, topics, data, ?_, ?_, ?_, authorized,
    byToken, used, ?_⟩
  · apply hexAddress_injective
    rw [← assetIs, ok.asset, lower_address token.exact]
  · obtain ⟨text, is, spells⟩ := transferRenders.logIndex
    have chosen := fieldsMem.2
    simp only [hasLogIndex, is, Bool.and_eq_true, decide_eq_true_eq] at chosen
    rw [← chosen.2, spells.quantity_eq chosen.1]
  · simp [Window.evidence, chainEvidence, attributed, successAttribution, indexIs]
  · simp [Window.evidence, chainEvidence, attributed, successAttribution, valueIs]
  · have index := quantityAt_spells authPlaced authRenders.logIndex
    simp [Window.evidence, chainEvidence, attributed, successAttribution, index]

/-- The slot word and the implementation code of a window are those of the block. -/
theorem implementation_of_honest (accepted : window.Accepted token rail payment)
    (honest : ∀ entry ∈ implementationSaid rail window.point.number window.implementation,
      ∃ chain, HonestEntry chain entry ∧ chain.Carries window.point.number parent block) :
    (∀ address ∈ window.identity.1, ∃ slot ∈ rail.attestation.proxyImplementationSlot,
      block.post.storage (readAddress rail.tokenAddress) (readWord slot) =
        (readAddress address).setWidth 256) ∧
    ∀ sha ∈ window.identity.2, ∃ address ∈ window.identity.1,
      sha = Interpreter.sha256 (block.post.code (readAddress address)) := by
  have ok := accepted.implementation
  rcases read : window.implementation with _ | ⟨word, code⟩
  · rw [read] at ok
    simp [ok.2]
  · rw [read] at ok honest
    obtain ⟨_, slot, address, sha, slotEq, addressEq, shaEq, shape, padded, same, codeOk,
      identity⟩ := ok
    have slotShape := rail.attestation.valid.slot slot slotEq
    have addressShape := isExactHex_lower (rail.attestation.valid.implementation address addressEq)
    simp only [implementationSaid, slotEq, addressEq, Option.getD_some, List.mem_cons,
      List.not_mem_nil, or_false, forall_eq_or_imp, forall_eq] at honest
    obtain ⟨⟨slotChain, slotHonest, slotCarries⟩, codeChain, codeHonest, codeCarries⟩ := honest
    obtain ⟨slotBlock, slotFound, stored⟩ := read_slot rail.tokenAddress_exact slotShape shape
      slotHonest
    obtain ⟨codeBlock, codeFound, hashed⟩ := read_code addressShape codeHonest codeOk
    obtain ⟨_, found, _, _, slotPost⟩ := slotCarries.here
    cases slotFound.symm.trans found
    obtain ⟨_, found, _, _, codePost⟩ := codeCarries.here
    cases codeFound.symm.trans found
    rw [identity]
    constructor
    · rintro _ ⟨⟩
      refine ⟨slot, slotEq, ?_⟩
      rw [← slotPost, ← stored]
      exact readWord_eq_setWidth shape padded same
    · rintro _ ⟨⟩
      exact ⟨_, rfl, by rw [hashed, codePost]⟩

/-- A window whose receipt and block-pinned reads are honest about the block holds the
evidence of that block. -/
theorem evidenceOf_honest (accepted : window.Accepted token rail payment)
    (hash : window.point.hash = hexWord block.hash.toNat)
    (seen : ∃ chain, HonestEntry chain
      (receiptSaid (lower payment.transactionHash) window.receipt) ∧
        chain.Carries window.point.number parent block)
    (pinned : ∀ entry ∈ window.pinned token rail payment, ∃ chain, HonestEntry chain entry ∧
      chain.Carries window.point.number parent block) :
    ∃ receipt, EvidenceOf token rail payment (window.evidence token rail payment)
      window.point.number parent block receipt := by
  obtain ⟨chain, honest, carries⟩ := seen
  obtain ⟨number, found, position, receipt, mined, transaction, renders⟩ :=
    read_receipt accepted.arguments.txShape honest
  obtain rfl := quantityAt_spells accepted.point.number renders.blockNumber
  obtain ⟨here, atHere, sameHash, sameReceipts, samePost⟩ := carries.here
  cases mined.inChain.symm.trans atHere
  rw [sameHash] at renders
  have state : ∀ {chain : Chain}, chain.Carries window.point.number parent block →
      ∀ {found}, chain.blocks[window.point.number]? = some found → found.post = block.post := by
    intro chain carries found atFound
    obtain ⟨_, atHere, _, _, samePost⟩ := carries.here
    cases atFound.symm.trans atHere
    exact samePost
  have stateBefore : ∀ {chain : Chain}, chain.Carries window.point.number parent block →
      ∀ {found}, chain.blocks[window.point.number - 1]? = some found →
        found.post = parent.post := by
    intro chain carries found atFound
    obtain ⟨_, atHere, samePost⟩ := carries.before
    cases atFound.symm.trans atHere
    exact samePost
  have snapshotOk := accepted.snapshot
  have success : window.point.status = if receipt.success then 1 else 0 :=
    quantityAt_spells accepted.point.status renders.status
  have identity := implementation_of_honest accepted fun entry mem => pinned entry (by
    simp [Window.pinned, mem])
  have snapshotHonest := fun entry (mem : entry ∈ snapshotSaid token payment window.point.number
    window.words) => pinned entry (by simp [Window.pinned, mem])
  simp only [snapshotSaid, List.mem_cons, List.not_mem_nil, or_false, forall_eq_or_imp,
    forall_eq] at snapshotHonest
  obtain ⟨⟨_, honest₁, carries₁⟩, ⟨_, honest₂, carries₂⟩, ⟨_, honest₃, carries₃⟩,
    ⟨_, honest₄, carries₄⟩, _, honest₅, carries₅⟩ := snapshotHonest
  refine ⟨receipt, rfl, hash, ?_, transaction, ?_, ?_, identity.1, identity.2, ?_, ?_, ?_, ?_, ?_,
    ?_, ?_⟩
  · rw [← sameReceipts]
    exact List.mem_of_getElem? mined.inBlock
  · change (window.point.status : ℤ) = _
    rw [success]
    split <;> rfl
  · obtain ⟨_, codeHonest, codeCarries⟩ := pinned _ (List.mem_cons_self ..)
    obtain ⟨_, atCode, hashed⟩ := read_code token.exact codeHonest accepted.code
    rw [← state codeCarries atCode]
    exact hashed
  · obtain ⟨_, atRead, value⟩ :=
      read_balance token.exact snapshotOk.payerShape honest₁ snapshotOk.payerParent
    rw [← stateBefore carries₁ atRead]
    exact congrArg Nat.cast value
  · obtain ⟨_, atRead, value⟩ :=
      read_balance token.exact snapshotOk.payeeShape honest₂ snapshotOk.payeeParent
    rw [← stateBefore carries₂ atRead]
    exact congrArg Nat.cast value
  · obtain ⟨_, atRead, value⟩ :=
      read_balance token.exact snapshotOk.payerShape honest₃ snapshotOk.payerAfter
    rw [← state carries₃ atRead]
    exact congrArg Nat.cast value
  · obtain ⟨_, atRead, value⟩ :=
      read_balance token.exact snapshotOk.payeeShape honest₄ snapshotOk.payeeAfter
    rw [← state carries₄ atRead]
    exact congrArg Nat.cast value
  · obtain ⟨_, atRead, value⟩ := read_used token.exact snapshotOk.payerShape
      snapshotOk.nonceShape honest₅ snapshotOk.nonce
    rw [← state carries₅ atRead]
    exact value
  · intro succeeded
    have attribution := accepted.attribution
    rcases raced : window.race with _ | ⟨inbound, outbound⟩
    · rw [raced] at attribution
      exact absurd (by simp [success, succeeded]) attribution.1
    · rw [raced] at attribution
      obtain ⟨_, credit, authIndex, ok, attributed⟩ := attribution
      exact eventOf_success accepted renders ok attributed
  · intro reverted
    have attribution := accepted.attribution
    rcases raced : window.race with _ | ⟨inbound, outbound⟩
    · rw [raced] at attribution
      simp [Window.evidence, chainEvidence, attribution.2.2, revertedAttribution]
    · rw [raced] at attribution
      exact absurd attribution.1 (by simp [success, reverted])

/-- Against a node that is honest about one chain, the evidence is that of the block which the
chain holds at the settlement height. -/
theorem evidenceOf_chain {chain : Chain} (accepted : window.Accepted token rail payment)
    (honest : ∀ entry ∈ window.transcript token rail payment, HonestEntry chain entry) :
    ∃ parent block position receipt, chain.Mined window.point.number block position receipt ∧
      chain.blocks[window.point.number - 1]? = some parent ∧
      EvidenceOf token rail payment (window.evidence token rail payment) window.point.number
        parent block receipt := by
  obtain ⟨block, found, _, hash⟩ := read_block
    (honest (blockSaid (pyHex window.point.number) window.canonical) (by simp [Window.transcript]))
    accepted.canonical
  have inside := (List.getElem?_eq_some_iff.mp found).1
  have before : window.point.number - 1 < chain.blocks.length := by omega
  have carries : chain.Carries window.point.number chain.blocks[window.point.number - 1] block :=
    ⟨⟨block, found, rfl, rfl, rfl⟩, _, List.getElem?_eq_getElem before, rfl⟩
  obtain ⟨receipt, evidence⟩ := evidenceOf_honest accepted hash
    ⟨chain, honest _ (by simp [Window.transcript]), carries⟩
    fun entry mem => ⟨chain, honest entry (by simp [Window.transcript, mem]), carries⟩
  obtain ⟨position, inBlock, at_⟩ := List.getElem_of_mem evidence.mined
  exact ⟨_, block, position, receipt, ⟨found, List.getElem?_eq_some_iff.mpr ⟨inBlock, at_⟩⟩,
    List.getElem?_eq_getElem before, evidence⟩

end Evidence

end Node

end Psv
