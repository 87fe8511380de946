import Psv.Node.Pinned

/-!
# What a reader of a served chain observes

For a transaction of a chain the window of a run is written down (`observed`)
and shown to pass the checks that concern blocks, receipt and code.  Balances
and attribution are left open: a node may lie about them.  When the balances
are served too, the run returns (`returns_served`).
-/

namespace Psv

open Python Interaction Program RpcClient Anvil Chain Rails

namespace Node

variable [Interpreter] {σ : Type}

/-- The transaction can be read on the rail: all that does not concern balances. -/
structure Readable (chain : Chain) (token : TokenView) (rail : RailConfig) (payment : Payment)
    (number position : ℕ) (block head : Block) (receipt : Receipt) : Prop where
  arguments : ArgumentsOk token rail payment
  chain_eq : (chain.chainId : ℤ) = rail.chainId
  calibrated : rail.attestation.networkClass = .mainnet → rail.attestation.calibrated = true
  pinned : Pinned chain rail block
  mined : chain.Mined number block position receipt
  tx : readWord payment.transactionHash = receipt.txHash
  onHead : chain.blocks[chain.blocks.length - 1]? = some head
  deep : rail.finality.minimumConfirmations ≤ ((chain.blocks.length - 1 : ℕ) : ℤ) - number + 1
  receipts_le : block.receipts.length ≤ maxRpcListItems
  headReceipts_le : head.receipts.length ≤ maxRpcListItems
  logs_le : receipt.logs.length ≤ maxRpcListItems
  topics_le : ∀ log ∈ receipt.logs, log.topics.length ≤ 16
  deployed : block.post.code (readAddress token.address) ≠ []
  expectedCode : ∀ expected ∈ rail.attestation.expectedCodeSha256,
    Interpreter.sha256 (block.post.code (readAddress token.address)) = expected

/-- The place of a receipt in the chain. -/
def pointOf (chain : Chain) (number : ℕ) (block : Block) (receipt : Receipt) : SettlementPoint :=
  ⟨number, hexWord block.hash.toNat, if receipt.success then 1 else 0,
    ((chain.blocks.length - 1 : ℕ) : ℤ) - number + 1⟩

/-- The window of a run against a node that serves the chain. -/
def observed (chain : Chain) (token : TokenView) (rail : RailConfig) (number position : ℕ)
    (block head : Block) (receipt : Receipt) (words : SnapshotWords) (snapshot : Snapshot)
    (race : Option (List Fields × List Fields)) (attribution : Attribution) : Window where
  chainText := pyHex chain.chainId
  reviewed := reviewedOf chain rail
  finality := blockJson (chain.blocks.length - 1) (chain.parentHash (chain.blocks.length - 1)) head
  receipt := receiptJson number block.hash position receipt
  canonical := blockJson number (chain.parentHash number) block
  code := hexData (block.post.code (readAddress token.address))
  implementation := implementationOf rail block.post
  words := words
  race := race
  receiptAfter := receiptJson number block.hash position receipt
  canonicalAfter := blockJson number (chain.parentHash number) block
  liveChain := chain.chainId
  finalityNumber := chain.blocks.length - 1
  finalityHash := hexWord head.hash.toNat
  point := pointOf chain number block receipt
  tokenCode := Interpreter.sha256 (block.post.code (readAddress token.address))
  identity := identityOf rail
  snapshot := snapshot
  attribution := attribution

/-! ### The window is accepted -/

section Observed

variable {chain : Chain} {token : TokenView} {rail : RailConfig} {payment : Payment}
  {number position : ℕ} {block head : Block} {receipt : Receipt} {words : SnapshotWords}
  {snapshot : Snapshot} {race : Option (List Fields × List Fields)} {attribution : Attribution}

theorem Readable.txHash_eq
    (readable : Readable chain token rail payment number position block head receipt) :
    lower payment.transactionHash = hexWord receipt.txHash.toNat := by
  have shape := readable.arguments.txShape
  rw [← readable.tx, toNat_readWord shape, lower_eq_hexPad shape]
  rfl

theorem pointOk_receiptJson
    (readable : Readable chain token rail payment number position block head receipt) :
    PointOk rail (chain.blocks.length - 1) (lower payment.transactionHash)
      (receiptJson number block.hash position receipt) (pointOf chain number block receipt) where
  shape := receiptShape_receiptJson number position block.hash receipt readable.logs_le
    readable.topics_le
  transaction := by
    rw [readable.txHash_eq]
    exact hashAt_hexWord rfl
  number := quantityAt_pyHex rfl
  hash := hashAt_hexWord rfl
  status := quantityAt_pyHex rfl
  confirmations := rfl
  deep := readable.deep

theorem accepted_observed
    (readable : Readable chain token rail payment number position block head receipt)
    (snapshotOk : SnapshotOk payment number words snapshot)
    (attributionOk : AttributionOk token payment chain.chainId (lower payment.transactionHash)
      (pointOf chain number block receipt) (receiptJson number block.hash position receipt)
      snapshot race attribution) :
    (observed chain token rail number position block head receipt words snapshot race
      attribution).Accepted token rail payment := by
  have pointOk := pointOk_receiptJson readable
  have blockOk := blockOk_blockJson number (chain.parentHash number) block readable.receipts_le
  constructor
  · exact readable.arguments
  · exact isQuantity_pyHex _
  · exact ((spells_pyHex _).quantity_eq (isQuantity_pyHex _)).symm
  · exact readable.chain_eq
  · exact readable.calibrated
  · exact readable.pinned.anchorOk
  · exact blockOk_blockJson _ _ head readable.headReceipts_le
  · exact pointOk
  · exact blockOk
  · exact codeOk_hexData readable.deployed
  · exact readable.expectedCode
  · exact readable.pinned.implementationOk
  · exact snapshotOk
  · exact attributionOk
  · exact ⟨pointOk.shape, pointOk.hash, number, blockOk⟩

/-- The true balances and nonce state around a block. -/
def snapshotOf (token : TokenView) (payment : Payment) (parent block : Block) : Snapshot :=
  let target := readAddress token.address
  ⟨(parent.post.balance target (readAddress payment.payer)).toNat,
    (parent.post.balance target (readAddress payment.payee)).toNat,
    (block.post.balance target (readAddress payment.payer)).toNat,
    (block.post.balance target (readAddress payment.payee)).toNat,
    block.post.used target (readAddress payment.payer) (readWord payment.nonce)⟩

/-- The words of a snapshot as a node writes them. -/
def wordsOf (snapshot : Snapshot) : SnapshotWords :=
  ⟨hexWord snapshot.payerParent, hexWord snapshot.payeeParent, hexWord snapshot.payerAfter,
    hexWord snapshot.payeeAfter, hexWord (if snapshot.nonceConsumed then 1 else 0)⟩

omit [Interpreter] in
theorem wordIs_hexWord {n : ℕ} (small : n < 2 ^ 256) : WordIs (hexWord n) n :=
  ⟨isExactHex_hexWord n,
    ((spells_hexWord n).hexVal_eq (isExactHex_hexWord n) (lt_of_lt_of_eq small (by norm_num))).symm⟩

omit [Interpreter] in
/-- Written words decode to the snapshot. -/
theorem snapshotOk_words {payment : Payment} {number : ℕ} {snapshot : Snapshot}
    (afterGenesis : 0 < number) (payerShape : isExactHex 40 payment.payer = true)
    (payeeShape : isExactHex 40 payment.payee = true)
    (nonceShape : isExactHex 64 payment.nonce = true)
    (payerParent : snapshot.payerParent < 2 ^ 256) (payeeParent : snapshot.payeeParent < 2 ^ 256)
    (payerAfter : snapshot.payerAfter < 2 ^ 256) (payeeAfter : snapshot.payeeAfter < 2 ^ 256)
    (payerBefore : payment.payerBefore = snapshot.payerParent)
    (payeeBefore : payment.payeeBefore = snapshot.payeeParent) :
    SnapshotOk payment number (wordsOf snapshot) snapshot where
  afterGenesis := afterGenesis
  payerShape := payerShape
  payeeShape := payeeShape
  nonceShape := nonceShape
  payerParent := wordIs_hexWord payerParent
  payeeParent := wordIs_hexWord payeeParent
  payerAfter := wordIs_hexWord payerAfter
  payeeAfter := wordIs_hexWord payeeAfter
  nonce := wordIs_hexWord (by rcases snapshot.nonceConsumed with _ | _ <;> norm_num)
  payerBefore := payerBefore
  payeeBefore := payeeBefore

/-- The two lists of same-block transfers as a node serves them. -/
def servedRace (token : TokenView) (payment : Payment) (number : ℕ) (block : Block) :
    List Fields × List Fields :=
  let target := readAddress token.address
  (block.selectJson number target [some (readWord topicTransfer), none,
      some ((readAddress payment.payee).setWidth 256)],
    block.selectJson number target [some (readWord topicTransfer),
      some ((readAddress payment.payer).setWidth 256), none])

omit [Interpreter] in
theorem hexWord_readWord (n : ℕ) : hexWord (readWord (hexWord n)).toNat = hexWord n := by
  rw [toNat_readWord (isExactHex_hexWord n)]
  exact (spells_of_isExactHex (isExactHex_hexWord n)).symm.trans (spells_hexWord n)

omit [Interpreter] in
theorem topicTransfer_eq : hexWord (readWord topicTransfer).toNat = topicTransfer :=
  hexWord_readWord _

omit [Interpreter] in
theorem toNat_setWidth (address : Address) : (address.setWidth 256).toNat = address.toNat := by
  rw [BitVec.toNat_setWidth]
  exact Nat.mod_eq_of_lt (lt_of_lt_of_le address.isLt (by norm_num))

omit [Interpreter] in
theorem inboundTopics_eq (payeeShape : isExactHex 40 payment.payee = true) :
    inboundTopics payment = [some (readWord topicTransfer), none,
      some ((readAddress payment.payee).setWidth 256)].map
        (Option.map fun word : Word => hexWord word.toNat) := by
  simp [inboundTopics, topicTransfer_eq, toNat_readAddress payeeShape, -BitVec.toNat_setWidth,
    toNat_setWidth]

omit [Interpreter] in
theorem outboundTopics_eq (payerShape : isExactHex 40 payment.payer = true) :
    outboundTopics payment = [some (readWord topicTransfer),
      some ((readAddress payment.payer).setWidth 256), none].map
        (Option.map fun word : Word => hexWord word.toNat) := by
  simp [outboundTopics, topicTransfer_eq, toNat_readAddress payerShape, -BitVec.toNat_setWidth,
    toNat_setWidth]

/-- The node serves the whole transcript. -/
theorem served_observed {parent : Block}
    (readable : Readable chain token rail payment number position block head receipt)
    (payerShape : isExactHex 40 payment.payer = true)
    (payeeShape : isExactHex 40 payment.payee = true)
    (parentFound : chain.blocks[number - 1]? = some parent)
    (parentDeployed : parent.post.code (readAddress token.address) ≠ [])
    (raceServed : ∀ lists ∈ race, lists = servedRace token payment number block) :
    ∀ entry ∈ (observed chain token rail number position block head receipt
      (wordsOf (snapshotOf token payment parent block)) snapshot race attribution).transcript token
        rail payment, ∀ earlier, entry.2 = served chain earlier entry.1 := by
  have found := readable.mined.inChain
  have txHash := readable.txHash_eq
  have payer := toNat_readAddress payerShape
  have payee := toNat_readAddress payeeShape
  have nonce := toNat_readWord readable.arguments.nonceShape
  intro entry mem earlier
  rw [Window.transcript_eq] at mem
  simp only [List.mem_append, List.mem_singleton, List.not_mem_nil, or_false] at mem
  rcases mem with rfl | anchor | rfl | rfl | rfl | rfl | proxy | snap | raced | rfl | rfl
  · rfl
  · exact readable.pinned.served_anchor entry anchor
  · exact (serve_tag _ readable.onHead).symm
  · rw [txHash]
    exact (serve_receipt readable.mined).symm
  · exact (serve_block found).symm
  · exact (serve_code _ found).symm
  · exact readable.pinned.served_implementation found entry proxy
  · simp only [observed, snapshotSaid, ← payer, ← payee, ← nonce, List.mem_cons, List.not_mem_nil,
      or_false] at snap
    rcases snap with rfl | rfl | rfl | rfl | rfl
    · exact (serve_balance _ _ parentFound parentDeployed).symm
    · exact (serve_balance _ _ parentFound parentDeployed).symm
    · exact (serve_balance _ _ found readable.deployed).symm
    · exact (serve_balance _ _ found readable.deployed).symm
    · exact (serve_used _ _ _ found readable.deployed).symm
  · rcases race with _ | lists
    · cases raced
    · obtain rfl := raceServed lists rfl
      simp only [observed, raceSaid, servedRace, List.mem_cons, List.not_mem_nil, or_false] at raced
      rcases raced with rfl | rfl
      · rw [inboundTopics_eq payeeShape]
        exact (serve_logs _ _ found).symm
      · rw [outboundTopics_eq payerShape]
        exact (serve_logs _ _ found).symm
  · rw [txHash]
    exact (serve_receipt readable.mined).symm
  · exact (serve_block found).symm

/-- The balances the caller knows, and contracts to ask. -/
structure Balanced (chain : Chain) (token : TokenView) (payment : Payment) (number : ℕ)
    (parent : Block) : Prop where
  afterGenesis : 0 < number
  payerShape : isExactHex 40 payment.payer = true
  payeeShape : isExactHex 40 payment.payee = true
  parentFound : chain.blocks[number - 1]? = some parent
  parentDeployed : parent.post.code (readAddress token.address) ≠ []
  payerBefore : payment.payerBefore =
    (parent.post.balance (readAddress token.address) (readAddress payment.payer)).toNat
  payeeBefore : payment.payeeBefore =
    (parent.post.balance (readAddress token.address) (readAddress payment.payee)).toNat

/-- The window of a served chain is accepted when the receipt can be attributed. -/
theorem accepted_served {parent : Block}
    (readable : Readable chain token rail payment number position block head receipt)
    (balanced : Balanced chain token payment number parent)
    (attributionOk : AttributionOk token payment chain.chainId (lower payment.transactionHash)
      (pointOf chain number block receipt) (receiptJson number block.hash position receipt)
      (snapshotOf token payment parent block) race attribution) :
    (observed chain token rail number position block head receipt
      (wordsOf (snapshotOf token payment parent block)) (snapshotOf token payment parent block)
      race attribution).Accepted token rail payment :=
  accepted_observed readable
    (snapshotOk_words balanced.afterGenesis balanced.payerShape balanced.payeeShape
      readable.arguments.nonceShape (BitVec.isLt _) (BitVec.isLt _) (BitVec.isLt _)
      (BitVec.isLt _) balanced.payerBefore balanced.payeeBefore) attributionOk

/-- A run against a served chain returns when the receipt can be attributed. -/
theorem returns_served {parent : Block} {state : σ} {history : Conversation} (believes : Bool)
    (readable : Readable chain token rail payment number position block head receipt)
    (balanced : Balanced chain token payment number parent)
    (raceServed : ∀ lists ∈ race, lists = servedRace token payment number block)
    (attributionOk : AttributionOk token payment chain.chainId (lower payment.transactionHash)
      (pointOf chain number block receipt) (receiptJson number block.hash position receipt)
      (snapshotOf token payment parent block) race attribution) :
    let window := observed chain token rail number position block head receipt
      (wordsOf (snapshotOf token payment parent block)) (snapshotOf token payment parent block)
      race attribution
    ∃ divergence, detectPaymentDivergence attribution.truth believes
        (some payment.requiredAmount) = .ok divergence ∧
      Returns (served chain) (reconcileLive token rail payment believes) state history
        ⟨divergence, window.evidence token rail payment⟩ state
        (history ++ window.transcript token rail payment) := by
  intro window
  have accepted : window.Accepted token rail payment :=
    accepted_served readable balanced attributionOk
  obtain ⟨divergence, detected⟩ := accepted.detects believes
  have answered : ∀ entry ∈ window.transcript token rail payment, ∀ earlier,
      entry.2 = served chain earlier entry.1 :=
    served_observed readable balanced.payerShape balanced.payeeShape balanced.parentFound
      balanced.parentDeployed raceServed
  refine ⟨divergence, detected, returns_iff.mpr ⟨_, rfl, follows_of_forall
    fun entry mem earlier _ => answered entry mem earlier, ?_⟩⟩
  exact replays_reconcileLive_ok_iff.mpr ⟨rfl, window, accepted, rfl, rfl, detected⟩

end Observed

end Node

end Psv
