import Psv.Onchain.Mined
import Psv.Quirks.Fees

/-!
# The verifier on chains of the mock token

A settlement of the mock token in its legacy form, in a block that nothing else
interferes with, is one that a run can attribute (`transferred_of_settled`).  So a
run against a node of such a chain returns, and it is graded by what the token
paid out: the gross value without the fee.
-/

namespace Psv

open Python Interaction Program RpcClient Anvil Chain Rails Node

namespace Onchain

section

variable [Cryptography] {chain : Node.Chain} {contract deployer : Address} {start : ℕ}
  {states : ℕ → State} {transactions : ℕ → List Transaction}

/-! ### Along the blocks -/

/-- The blocks from the deployment on show the states of the token. -/
theorem Deployment.shows (past : Deployment chain contract deployer start states transactions)
    {number : ℕ} {block : Block} (found : chain.blocks[number]? = some block)
    (reached : start ≤ number) : Shows contract (states number) block.post := by
  rcases reached.eq_or_lt with rfl | later
  · exact past.first block found
  · rcases past.next number block later found with ⟨executes, same⟩
    rw [same]
    exact executes.shows

/-- Every state from there on is sound. -/
theorem Deployment.sound (past : Deployment chain contract deployer start states transactions)
    {number : ℕ} {block : Block} (found : chain.blocks[number]? = some block)
    (reached : start ≤ number) : Sound (states number) := by
  induction number, reached using Nat.le_induction generalizing block with
  | base =>
    rw [past.deployed]
    exact deployed_sound deployer
  | succ number reached ih =>
    have inside : number < chain.blocks.length := by
      have := (List.getElem?_eq_some_iff.mp found).1
      omega
    rw [(past.next (number + 1) block (by omega) found).2, Nat.add_sub_cancel]
    exact afterAll_sound (ih (List.getElem?_eq_getElem inside))

/-! ### A settlement in a block -/

/-- The arguments of a run name the authorization, and the position of its transfer. -/
structure Names (token : TokenView) (payment : Payment) (contract : Address)
    (authorization : Authorization) (position : ℕ) : Prop where
  token : readAddress token.address = contract
  payer : readAddress payment.payer = authorization.fromAddr
  payee : readAddress payment.payee = authorization.toAddr
  nonce : readWord payment.nonce = authorization.nonce
  logIndex : payment.logIndex = ((position + 1 : ℕ) : ℤ)

variable {surroundings : Surroundings} {before after : State} {front back : List Transaction}
  {transaction : Transaction} {authorization : Authorization} {token : TokenView}
  {payment : Payment} {block parent : Block} {number : ℕ}

/-- The block selects the transfer only. -/
theorem Settled.select {wanted : List (Option Word)}
    (settled : Settled surroundings before front transaction back authorization after)
    (executes : Executes surroundings before (front ++ transaction :: back) block)
    (isWanted : wanted = inbound authorization.toAddr ∨ wanted = outbound authorization.fromAddr) :
    ∀ entry ∈ block.select surroundings.contract wanted, entry = (transaction.hash,
      transferLog surroundings.contract authorization (emitted surroundings before front)) := by
  have foreign := executes.foreign
  rw [List.forall_mem_append, List.forall_mem_cons] at foreign
  have quiet : ∀ {state first others}, Quiet surroundings authorization.fromAddr
      authorization.toAddr state others → (∀ transaction ∈ others,
        transaction.action.Foreign surroundings.contract) →
      ∀ receipt ∈ receipts surroundings state first others, ∀ log ∈ receipt.logs,
        log.emitter = surroundings.contract → topicsMatch wanted log.topics = false := by
    intro state first others quiet foreign receipt listed log mem own
    have unselected := quiet.unselected foreign receipt listed log mem own
    rcases isWanted with rfl | rfl
    · exact unselected.1
    · exact unselected.2
  intro entry mem
  simp only [Block.select, executes.receipts, settled.receipts_eq, List.mem_flatMap, List.mem_map,
    List.mem_filter, Bool.and_eq_true, decide_eq_true_eq, List.mem_append, List.mem_cons] at mem
  rcases mem with ⟨receipt, listed, log, ⟨mem, own, matched⟩, rfl⟩
  rcases listed with early | rfl | late
  · rw [quiet settled.quietBefore foreign.1 receipt early log mem own] at matched
    cases matched
  · simp only [settlementReceipt, List.mem_cons, List.not_mem_nil, or_false] at mem
    rcases mem with rfl | rfl
    · exfalso
      rcases isWanted with rfl | rfl <;>
        simp [useLog, usedTopics, inbound, outbound, topicsMatch, topicTransfer_ne.2.symm]
          at matched
    · rfl
  · rw [quiet settled.quietAfter foreign.2.2 receipt late log mem own] at matched
    cases matched

/-- The balances around the block moved by the gross value and by the gain. -/
theorem snapshot_of_settled
    (settled : Settled surroundings before front transaction back authorization after)
    (shown : Shows surroundings.contract before parent.post)
    (shows : Shows surroundings.contract (afterAll surroundings after back) block.post)
    (names : Names token payment surroundings.contract authorization
      (emitted surroundings before front)) :
    (snapshotOf token payment parent block).payerAfter + authorization.value.toNat =
        (snapshotOf token payment parent block).payerParent ∧
      (snapshotOf token payment parent block).payeeAfter =
        (snapshotOf token payment parent block).payeeParent +
          gain (afterAll surroundings before front) authorization := by
  simp only [snapshotOf, names.token, names.payer, names.payee, shown.balance, shows.balance]
  exact settled.balances

/-- A run can attribute the settlement. -/
theorem transferred_of_settled
    (settled : Settled surroundings before front transaction back authorization after)
    (executes : Executes surroundings before (front ++ transaction :: back) block)
    (shown : Shows surroundings.contract before parent.post) (sound : Sound before)
    (names : Names token payment surroundings.contract authorization
      (emitted surroundings before front)) (small : number < 2 ^ 256) :
    Transferred token payment number (snapshotOf token payment parent block) block
      (settlementReceipt surroundings.contract transaction.hash authorization
        (emitted surroundings before front))
      (transferLog surroundings.contract authorization (emitted surroundings before front))
      (useLog surroundings.contract authorization (emitted surroundings before front))
      authorization.value := by
  have shows := executes.shows
  rw [settled.afterAll_eq] at shows
  have soundFront : Sound (afterAll surroundings before front) := afterAll_sound sound
  have moved := gain_bounds soundFront settled.positive
  rcases snapshot_of_settled settled shown shows names with ⟨debited, received⟩
  constructor
  · rfl
  · exact small
  · exact names.logIndex.symm
  · simp [settlementReceipt]
  · exact names.token.symm
  · rw [names.payer, names.payee]
    rfl
  · rfl
  · rw [names.token, names.payer, names.nonce]
    simp [settlementReceipt, useLog, transferLog, usedTopics, transferTopics,
      topicTransfer_ne.2.symm]
  · rw [names.token, names.payee]
    exact settled.select executes (Or.inl rfl)
  · rw [names.token, names.payer]
    exact settled.select executes (Or.inr rfl)
  · simp only [snapshotOf, names.token, names.payer, names.nonce, shows.used]
    exact settled.used
  · omega
  · omega

end

/-! ### The run -/

section

variable [Interpreter] [Cryptography] {σ : Type} {chain : Node.Chain} {contract deployer : Address}
  {start : ℕ} {states : ℕ → State} {transactions : ℕ → List Transaction} {token : TokenView}
  {rail : RailConfig} {payment : Payment} {number position : ℕ} {parent block head : Block}
  {front back : List Transaction} {transaction : Transaction} {authorization : Authorization}
  {after : State}

omit [Cryptography] in
/-- A run on a standing transfer returns; it reports and grades what the receiver got. -/
theorem transferred_graded {receipt : Receipt} {transfer used : Log} {value : Word} (state : σ)
    (conversation : Conversation) (believes : Bool)
    (readable : Readable chain token rail payment number position block head receipt)
    (balanced : Balanced chain token payment number parent)
    (moved : Transferred token payment number (snapshotOf token payment parent block) block
      receipt transfer used value) :
    ∃ result said, Returns (served chain) (reconcileLive token rail payment believes) state
        conversation result state (conversation ++ said) ∧
      result.evidence.eventValue = some (value.toNat : ℤ) ∧
      result.evidence.receivedAmount = ((snapshotOf token payment parent block).payeeAfter : ℤ) -
        (snapshotOf token payment parent block).payeeParent ∧
      result.divergence.kind = grade true believes
        (decide (result.evidence.receivedAmount < payment.requiredAmount)) := by
  obtain ⟨divergence, detected, returned⟩ := @returns_transferred _ σ chain token rail payment
    number position parent block head receipt transfer used value state conversation believes
    readable balanced moved
  refine ⟨_, _, returned, rfl, rfl, ?_⟩
  have graded := (accepted_served readable balanced
    (attributionOk_served readable balanced.payerShape balanced.payeeShape moved)).graded detected
  have success : (pointOf chain number block receipt).status = 1 := by
    rw [pointOf, moved.success]
    rfl
  rw [graded.1]
  exact congrArg (fun moved => grade moved believes _) (decide_eq_true success)

end

/-! ### A token with a fee

The payer is minted 1000, and a fee of one percent is set; then 100 are paid. -/

namespace Sample

open Node.Sample

/-- Every signature is the payer's. -/
@[reducible]
def cryptography : Cryptography := ⟨fun _ => 0, fun _ _ _ _ => payer⟩

def deployer : Address := 0xd4

def around : Surroundings := ⟨target, 5, 84532⟩

def signed : Authorization :=
  ⟨payer, payee, 100, 0, 10, nonce, List.replicate 64 0 ++ [27]⟩

def minting : List Transaction :=
  [⟨0x2001, .token deployer (.mint payer 1000)⟩, ⟨0x2002, .token deployer (.setFeeBps 100)⟩]

def paying : Transaction := ⟨txHash, .token third (.transferWithAuthorization signed)⟩

section

attribute [local instance] cryptography

def minted : State := afterAll around (deployed deployer) minting

def paid : State := afterAll around minted [paying]

/-- A state of the chain with this state of the token. -/
def display (state : State) : Node.State :=
  ⟨fun _ => [0x60, 0x00], fun _ _ => 0, fun _ => state.balanceOf, fun _ => state.authorizationState⟩

def mintingBlock : Block :=
  ⟨0x11, 5, receipts around (deployed deployer) 0 minting, display minted⟩

def payingBlock : Block := ⟨0x12, 5, receipts around minted 0 [paying], display paid⟩

def chain : Node.Chain where
  chainId := 84532
  blocks := [⟨0x10, 5, [], display (deployed deployer)⟩, mintingBlock, payingBlock]
  transactions_nodup := by decide +kernel
  positions_nodup := by decide +kernel

def states : ℕ → State
  | 0 => deployed deployer
  | 1 => minted
  | _ => paid

def transactions : ℕ → List Transaction
  | 1 => minting
  | _ => [paying]

theorem shows_display (state : State) : Shows target state (display state) := by
  refine ⟨?_, rfl, rfl⟩
  intro empty
  cases empty

theorem deployment : Deployment chain target deployer 0 states transactions := by
  refine ⟨rfl, ?_, ?_⟩
  · rintro block ⟨⟩
    exact shows_display _
  · rintro (_ | _ | _ | number) block later found
    · cases later
    · cases found
      refine ⟨⟨?_, rfl, shows_display _⟩, rfl⟩
      intro transaction listed
      simp only [transactions, minting, List.mem_cons, List.not_mem_nil, or_false] at listed
      rcases listed with rfl | rfl <;> trivial
    · cases found
      refine ⟨⟨?_, rfl, shows_display _⟩, rfl⟩
      intro transaction listed
      obtain rfl := List.mem_singleton.mp listed
      trivial
    · cases found

theorem settled_paying : ∃ after, Settled around minted [] paying [] signed after := by
  have accepted : (transferWithAuthorization (around.message third) minted signed).toBool =
      true := by
    decide +kernel
  cases done : transferWithAuthorization (around.message third) minted signed with
  | error _ =>
    rw [done] at accepted
    cases accepted
  | ok result =>
    refine ⟨result.1, ⟨third, result.2, rfl, done⟩, by decide, ?_, by decide, ?_, trivial,
      trivial⟩
    · decide +kernel
    · decide +kernel

variable {after : State}

theorem mined_paying (settled : Settled around minted [] paying [] signed after) :
    chain.Mined 2 payingBlock 0
      (settlementReceipt target txHash signed (emitted around minted [])) := by
  refine ⟨rfl, ?_⟩
  rw [payingBlock, show [paying] = [] ++ paying :: [] from rfl, settled.receipts_eq]
  rfl

theorem readable_paying (settled : Settled around minted [] paying [] signed after) :
    letI := interpreter
    Readable chain token mockAnvil (paymentTo payee) 2 0 payingBlock payingBlock
      (settlementReceipt target txHash signed (emitted around minted [])) :=
  Node.Sample.readable rfl (mined_paying settled) rfl rfl (by decide +kernel) (by decide +kernel)
    rfl

theorem balanced_paying : letI := interpreter
    Balanced chain token (paymentTo payee) 2 mintingBlock :=
  ⟨by decide, isExactHex_hexAddress _, isExactHex_hexAddress _, rfl, by decide, by decide +kernel,
    by decide +kernel⟩

theorem names_paying : Names token (paymentTo payee) target signed (emitted around minted []) :=
  ⟨rfl, readAddress_hexAddress _, readAddress_hexAddress _, readWord_hexWord _, rfl⟩

/-- The run on this block returns, and funds have moved. -/
theorem returns_paying : letI := interpreter
    ∃ result said, Returns (served chain)
        (reconcileLive token mockAnvil (paymentTo payee) true) () [] result () said ∧
      ∃ short, result.divergence.kind = grade true true short := by
  let := interpreter
  rcases settled_paying with ⟨after, settled⟩
  have inBlock : Settled (surroundingsOf chain target payingBlock) minted [] paying [] signed
      after := settled
  have shown : Shows target minted mintingBlock.post := shows_display minted
  have sound : Sound minted := afterAll_sound (deployed_sound deployer)
  have executes := (deployment.next 2 payingBlock (by decide) rfl).1
  have moved := transferred_of_settled inBlock executes shown sound names_paying
    (show 2 < 2 ^ 256 by decide)
  obtain ⟨result, said, returned, _, _, kind⟩ := transferred_graded () [] true
    (readable_paying settled) balanced_paying moved
  exact ⟨result, said, returned, _, kind⟩

end

end Sample

end Onchain

end Psv
