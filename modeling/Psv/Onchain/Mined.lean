import Psv.Onchain.Invariant
import Psv.Node.Transfer

/-!
# Blocks with the mock token

A transaction calls the token or does something else.  The blocks of a chain are
the transactions executed one after the other: the state after a block is the
state of the token, and the events of the token are the logs of its receipts, in
order and between the logs of other contracts.
-/

namespace Psv

open Python Interaction Chain Node Balances

namespace Onchain

/-! ### Logs -/

/-- The digest of `EventModeChanged(uint8,uint8)`. -/
def topicEventModeChanged : Str :=
  hexWord 0xeec6f647bb466fb6c5562de9ebde18c58f170b2b33dcf98d01654101508baffc

/-- The digest of `FeeBpsChanged(uint16,uint16)`. -/
def topicFeeBpsChanged : Str :=
  hexWord 0x876f5ff5c5f660d3f54bcc10d8f1f392b2b108ecfae7f29571af1e09796b09f8

/-- The indexed part of an event. -/
def Event.topics : Event → List Word
  | .transfer fromAddr toAddr _ => transferTopics fromAddr toAddr
  | .transferV2 fromAddr toAddr _ _ =>
      [readWord topicTransferV2, fromAddr.setWidth 256, toAddr.setWidth 256]
  | .authorizationUsed authorizer nonce => usedTopics authorizer nonce
  | .eventModeChanged _ _ => [readWord topicEventModeChanged]
  | .feeBpsChanged _ _ => [readWord topicFeeBpsChanged]

/-- The rest of an event. -/
def Event.data : Event → List UInt8
  | .transfer _ _ value => wordData value
  | .transferV2 _ _ value ref => abiEncode [value, ref]
  | .authorizationUsed _ _ => []
  | .eventModeChanged previousMode newMode =>
      abiEncode [previousMode.setWidth 256, newMode.setWidth 256]
  | .feeBpsChanged previousBps newBps =>
      abiEncode [previousBps.setWidth 256, newBps.setWidth 256]

/-- What a contract emits, before it has a position. -/
structure Emission where
  emitter : Address
  topics : List Word
  data : List UInt8

/-- The logs of emissions, numbered from a position on. -/
def number (first : ℕ) : List Emission → List Log
  | [] => []
  | emission :: emissions =>
      ⟨emission.emitter, emission.topics, emission.data, first⟩ :: number (first + 1) emissions

/-! ### Transactions -/

/-- What a transaction does: an account calls the token, or something else happens. -/
inductive Action where
  | token (sender : Address) (call : Call)
  | other (success : Bool) (emissions : List Emission)

structure Transaction where
  hash : Word
  action : Action

/-- What is the same for all transactions of a block. -/
structure Surroundings where
  contract : Address
  timestamp : Word
  chainId : Word

/-- What a call of an account is told. -/
def Surroundings.message (surroundings : Surroundings) (sender : Address) : Message :=
  ⟨sender, surroundings.timestamp, surroundings.chainId, surroundings.contract⟩

/-- What an event of the token emits. -/
def Surroundings.emission (surroundings : Surroundings) (event : Event) : Emission :=
  ⟨surroundings.contract, event.topics, event.data⟩

/-- The state after a transaction, whether it succeeded, and what it emitted. -/
structure Outcome where
  state : State
  success : Bool
  emissions : List Emission

section Execution

variable [Cryptography] (surroundings : Surroundings)

/-- Execute a transaction; a reverting one changes and emits nothing. -/
def Transaction.execute (state : State) (transaction : Transaction) : Outcome :=
  match transaction.action with
  | .token sender call =>
      match Onchain.execute (surroundings.message sender) state call with
      | .ok (next, events) => ⟨next, true, events.map surroundings.emission⟩
      | .error _ => ⟨state, false, []⟩
  | .other success emissions => ⟨state, success, if success then emissions else []⟩

/-- The state after transactions, one after the other. -/
def afterAll (state : State) (transactions : List Transaction) : State :=
  transactions.foldl (fun state transaction => (transaction.execute surroundings state).state) state

/-- The receipts of transactions; the logs are numbered from a position on. -/
def receipts (state : State) (first : ℕ) : List Transaction → List Receipt
  | [] => []
  | transaction :: transactions =>
      let outcome := transaction.execute surroundings state
      ⟨transaction.hash, outcome.success, number first outcome.emissions⟩ ::
        receipts outcome.state (first + outcome.emissions.length) transactions

/-- How many logs transactions emit. -/
def emitted (state : State) : List Transaction → ℕ
  | [] => 0
  | transaction :: transactions =>
      let outcome := transaction.execute surroundings state
      outcome.emissions.length + emitted outcome.state transactions

end Execution

/-! ### Blocks -/

/-- A state of the chain that shows a state of the token. -/
structure Shows (contract : Address) (state : State) (post : Node.State) : Prop where
  deployed : post.code contract ≠ []
  balance : post.balance contract = state.balanceOf
  used : post.used contract = state.authorizationState

/-- No other contract emits logs under the address of the token. -/
def Action.Foreign (contract : Address) : Action → Prop
  | .token _ _ => True
  | .other _ emissions => ∀ emission ∈ emissions, emission.emitter ≠ contract

/-- A block that executes transactions on a state of the token. -/
structure Executes [Cryptography] (surroundings : Surroundings) (before : State)
    (transactions : List Transaction) (block : Block) : Prop where
  foreign : ∀ transaction ∈ transactions, transaction.action.Foreign surroundings.contract
  receipts : block.receipts = receipts surroundings before 0 transactions
  shows : Shows surroundings.contract (afterAll surroundings before transactions) block.post

/-- What the transactions of a block are told. -/
def surroundingsOf (chain : Node.Chain) (contract : Address) (block : Block) : Surroundings :=
  ⟨contract, BitVec.ofNat 256 block.timestamp, BitVec.ofNat 256 chain.chainId⟩

/-- A chain on which the token was deployed, with the states of the token from there on and the
transactions that lead from one to the next. -/
structure Deployment [Cryptography] (chain : Node.Chain) (contract deployer : Address) (start : ℕ)
    (states : ℕ → State) (transactions : ℕ → List Transaction) : Prop where
  deployed : states start = Onchain.deployed deployer
  first : ∀ block, chain.blocks[start]? = some block → Shows contract (states start) block.post
  next : ∀ number block, start < number → chain.blocks[number]? = some block →
    Executes (surroundingsOf chain contract block) (states (number - 1)) (transactions number)
      block ∧
    states number = afterAll (surroundingsOf chain contract block) (states (number - 1))
      (transactions number)

section Execution

variable [Cryptography] {surroundings : Surroundings} {state after : State}
  {transactions front back : List Transaction}

/-! ### Executing one after the other -/

theorem afterAll_append : afterAll surroundings state (front ++ back) =
    afterAll surroundings (afterAll surroundings state front) back :=
  List.foldl_append

theorem receipts_append {first : ℕ} : receipts surroundings state first (front ++ back) =
    receipts surroundings state first front ++
      receipts surroundings (afterAll surroundings state front)
        (first + emitted surroundings state front) back := by
  induction front generalizing state first with
  | nil => rfl
  | cons transaction front ih =>
    rw [List.cons_append, receipts, receipts, ih, emitted, Nat.add_assoc]
    rfl

/-- A transaction leaves the token as it is, or one call of it was executed. -/
theorem execute_cases (surroundings : Surroundings) (state : State) (transaction : Transaction) :
    (transaction.execute surroundings state).state = state ∨
      ∃ message call events, Onchain.execute message state call =
        .ok ((transaction.execute surroundings state).state, events) := by
  rcases transaction with ⟨hash, action⟩
  cases action with
  | other success emissions => exact Or.inl rfl
  | token sender call =>
    rw [Transaction.execute]
    dsimp only
    cases done : Onchain.execute (surroundings.message sender) state call with
    | error _ => exact Or.inl rfl
    | ok result => exact Or.inr ⟨_, _, result.2, done⟩

/-- What every executed call keeps, transactions keep. -/
theorem afterAll_keeps {P : State → Prop}
    (step : ∀ {message state call after events}, P state →
      Onchain.execute message state call = .ok (after, events) → P after)
    (initially : P state) : P (afterAll surroundings state transactions) := by
  induction transactions generalizing state with
  | nil => exact initially
  | cons transaction transactions ih =>
    apply ih
    rcases execute_cases surroundings state transaction with same | ⟨_, _, _, done⟩
    · change P (transaction.execute surroundings state).state
      rw [same]
      exact initially
    · exact step initially done

theorem afterAll_sound (sound : Sound state) : Sound (afterAll surroundings state transactions) :=
  afterAll_keeps (fun sound done => execute_sound sound done) sound

/-- What is executed is used. -/
theorem transfer_used {message : Message} {authorization : Authorization} {events : List Event}
    (done : transferWithAuthorization message state authorization = .ok (after, events)) :
    after.authorizationState authorization.fromAddr authorization.nonce = true := by
  rw [(transfer_ok done).2.2.1]
  exact markUsed_used _ _ _

/-- A used authorization stays used. -/
theorem afterAll_used {who : Address} {nonce : Word}
    (used : state.authorizationState who nonce = true) :
    (afterAll surroundings state transactions).authorizationState who nonce = true :=
  afterAll_keeps (P := fun state => state.authorizationState who nonce = true)
    (fun used done => execute_keeps done used) used

/-! ### Transactions that do not concern a payment -/

/-- The events of the token that a transaction emits. -/
def Transaction.events (surroundings : Surroundings) (state : State) (transaction : Transaction) :
    List Event :=
  match transaction.action with
  | .token sender call =>
      match Onchain.execute (surroundings.message sender) state call with
      | .ok (_, events) => events
      | .error _ => []
  | .other _ _ => []

/-- Neither account gains or loses, and no transfer is reported from the one or to the other. -/
structure Transaction.Quiet (surroundings : Surroundings) (payer payee : Address) (state : State)
    (transaction : Transaction) : Prop where
  ofPayer : (transaction.execute surroundings state).state.balanceOf payer = state.balanceOf payer
  ofPayee : (transaction.execute surroundings state).state.balanceOf payee = state.balanceOf payee
  events : ∀ fromAddr toAddr value,
    .transfer fromAddr toAddr value ∈ transaction.events surroundings state →
      fromAddr ≠ payer ∧ toAddr ≠ payee

/-- Every transaction is quiet where it is executed. -/
def Quiet (surroundings : Surroundings) (payer payee : Address) (state : State) :
    List Transaction → Prop
  | [] => True
  | transaction :: transactions =>
      transaction.Quiet surroundings payer payee state ∧
        Quiet surroundings payer payee (transaction.execute surroundings state).state transactions

variable {payer payee : Address}

theorem Quiet.balances (quiet : Quiet surroundings payer payee state transactions) :
    (afterAll surroundings state transactions).balanceOf payer = state.balanceOf payer ∧
      (afterAll surroundings state transactions).balanceOf payee = state.balanceOf payee := by
  induction transactions generalizing state with
  | nil => exact ⟨rfl, rfl⟩
  | cons transaction transactions ih =>
    rcases ih quiet.2 with ⟨ofPayer, ofPayee⟩
    exact ⟨ofPayer.trans quiet.1.ofPayer, ofPayee.trans quiet.1.ofPayee⟩

/-! ### What a filter selects -/

/-- The topics of the transfers to an account, and of those from one. -/
def inbound (payee : Address) : List (Option Word) :=
  [some (readWord topicTransfer), none, some (payee.setWidth 256)]

def outbound (payer : Address) : List (Option Word) :=
  [some (readWord topicTransfer), some (payer.setWidth 256), none]

omit [Cryptography] in
theorem topicTransfer_ne : readWord topicTransferV2 ≠ readWord topicTransfer ∧
    readWord topicAuthorizationUsed ≠ readWord topicTransfer := by
  decide +kernel

omit [Cryptography] in
/-- Widening an address loses nothing. -/
theorem setWidth_injective {left right : Address}
    (same : left.setWidth 256 = right.setWidth 256) : left = right := by
  apply BitVec.eq_of_toNat_eq
  rw [← toNat_setWidth left, same, toNat_setWidth right]

omit [Cryptography] in
/-- Only transfers are selected, by their receiver. -/
theorem transfer_of_inbound {event : Event}
    (matched : topicsMatch (inbound payee) event.topics = true) :
    ∃ fromAddr value, event = .transfer fromAddr payee value := by
  cases event with
  | transfer fromAddr toAddr value =>
    simp only [Event.topics, transferTopics, inbound, topicsMatch, Bool.and_eq_true,
      decide_eq_true_eq, and_true, true_and] at matched
    exact ⟨fromAddr, value, by rw [setWidth_injective matched]⟩
  | transferV2 =>
    simp [Event.topics, inbound, topicsMatch, topicTransfer_ne.1.symm] at matched
  | authorizationUsed =>
    simp [Event.topics, usedTopics, inbound, topicsMatch, topicTransfer_ne.2.symm] at matched
  | eventModeChanged => simp [Event.topics, inbound, topicsMatch] at matched
  | feeBpsChanged => simp [Event.topics, inbound, topicsMatch] at matched

omit [Cryptography] in
/-- Only transfers are selected, by their sender. -/
theorem transfer_of_outbound {event : Event}
    (matched : topicsMatch (outbound payer) event.topics = true) :
    ∃ toAddr value, event = .transfer payer toAddr value := by
  cases event with
  | transfer fromAddr toAddr value =>
    simp only [Event.topics, transferTopics, outbound, topicsMatch, Bool.and_eq_true,
      decide_eq_true_eq, and_true, true_and] at matched
    exact ⟨toAddr, value, by rw [setWidth_injective matched]⟩
  | transferV2 =>
    simp [Event.topics, outbound, topicsMatch, topicTransfer_ne.1.symm] at matched
  | authorizationUsed =>
    simp [Event.topics, usedTopics, outbound, topicsMatch, topicTransfer_ne.2.symm] at matched
  | eventModeChanged => simp [Event.topics, outbound, topicsMatch] at matched
  | feeBpsChanged => simp [Event.topics, outbound, topicsMatch] at matched

omit [Cryptography] in
theorem mem_number {first : ℕ} {emissions : List Emission} {log : Log}
    (mem : log ∈ number first emissions) :
    ⟨log.emitter, log.topics, log.data⟩ ∈ emissions := by
  induction emissions generalizing first with
  | nil => cases mem
  | cons emission emissions ih =>
    rcases List.mem_cons.mp mem with rfl | later
    · exact List.mem_cons_self
    · exact List.mem_cons_of_mem _ (ih later)

/-- What a transaction emits under the address of the token are events of the token. -/
theorem event_of_emission {transaction : Transaction} {emission : Emission}
    (foreign : transaction.action.Foreign surroundings.contract)
    (mem : emission ∈ (transaction.execute surroundings state).emissions)
    (own : emission.emitter = surroundings.contract) :
    ∃ event ∈ transaction.events surroundings state, emission.topics = event.topics := by
  rcases transaction with ⟨hash, action⟩
  cases action with
  | other success emissions =>
    rw [Transaction.execute] at mem
    dsimp only at mem
    split_ifs at mem
    · exact absurd own (foreign emission mem)
    · cases mem
  | token sender call =>
    rw [Transaction.execute] at mem
    rw [Transaction.events]
    dsimp only at mem ⊢
    cases done : Onchain.execute (surroundings.message sender) state call with
    | error _ =>
      rw [done] at mem
      cases mem
    | ok result =>
      rw [done] at mem
      rcases List.mem_map.mp mem with ⟨event, listed, rfl⟩
      exact ⟨event, listed, rfl⟩

/-- Quiet transactions emit nothing that is selected. -/
theorem Quiet.unselected {first : ℕ}
    (quiet : Quiet surroundings payer payee state transactions)
    (foreign : ∀ transaction ∈ transactions, transaction.action.Foreign surroundings.contract) :
    ∀ receipt ∈ receipts surroundings state first transactions, ∀ log ∈ receipt.logs,
      log.emitter = surroundings.contract →
        topicsMatch (inbound payee) log.topics = false ∧
          topicsMatch (outbound payer) log.topics = false := by
  induction transactions generalizing state first with
  | nil => exact List.forall_mem_nil _
  | cons transaction transactions ih =>
    rw [List.forall_mem_cons] at foreign
    refine List.forall_mem_cons.mpr ⟨?_, ih quiet.2 foreign.2⟩
    intro log mem own
    rcases event_of_emission foreign.1 (mem_number mem) own with ⟨event, listed, topics⟩
    change log.topics = event.topics at topics
    rw [topics]
    constructor
    · by_contra matched
      rcases transfer_of_inbound (by simpa using matched) with ⟨fromAddr, value, rfl⟩
      exact (quiet.1.events _ _ _ listed).2 rfl
    · by_contra matched
      rcases transfer_of_outbound (by simpa using matched) with ⟨toAddr, value, rfl⟩
      exact (quiet.1.events _ _ _ listed).1 rfl

/-! ### A settlement -/

/-- What the receiver of a transfer gains. -/
def gain (state : State) (authorization : Authorization) : ℕ :=
  authorization.value.toNat - feeAmount state authorization.value +
    if authorization.toAddr = state.admin then feeAmount state authorization.value else 0

/-- A transaction among others that settles an authorization while transfers are reported in the
legacy form, and that nothing else in the block interferes with. -/
structure Settled (surroundings : Surroundings) (before : State) (front : List Transaction)
    (transaction : Transaction) (back : List Transaction) (authorization : Authorization)
    (after : State) : Prop where
  call : ∃ sender events,
    transaction.action = .token sender (.transferWithAuthorization authorization) ∧
      transferWithAuthorization (surroundings.message sender)
        (afterAll surroundings before front) authorization = .ok (after, events)
  positive : 0 < authorization.value.toNat
  legacy : (afterAll surroundings before front).eventMode = 0
  apart : authorization.fromAddr ≠ authorization.toAddr
  notAdmin : authorization.fromAddr ≠ (afterAll surroundings before front).admin
  quietBefore : Quiet surroundings authorization.fromAddr authorization.toAddr before front
  quietAfter : Quiet surroundings authorization.fromAddr authorization.toAddr after back

/-- The two logs of a settlement, from a position on. -/
def useLog (contract : Address) (authorization : Authorization) (position : ℕ) : Log :=
  ⟨contract, usedTopics authorization.fromAddr authorization.nonce, [], position⟩

def transferLog (contract : Address) (authorization : Authorization) (position : ℕ) : Log :=
  ⟨contract, transferTopics authorization.fromAddr authorization.toAddr,
    wordData authorization.value, position + 1⟩

/-- The receipt of a settlement. -/
def settlementReceipt (contract : Address) (hash : Word) (authorization : Authorization)
    (position : ℕ) : Receipt :=
  ⟨hash, true,
    [useLog contract authorization position, transferLog contract authorization position]⟩

variable {before : State} {transaction : Transaction} {authorization : Authorization}

theorem Settled.execute
    (settled : Settled surroundings before front transaction back authorization after) :
    transaction.execute surroundings (afterAll surroundings before front) =
      ⟨after, true,
        [surroundings.emission (.authorizationUsed authorization.fromAddr authorization.nonce),
          surroundings.emission (.transfer authorization.fromAddr authorization.toAddr
            authorization.value)]⟩ := by
  rcases settled.call with ⟨sender, events, isCall, done⟩
  rcases transfer_ok done with ⟨_, _, _, _, moved, rfl⟩
  have mode : after.eventMode = 0 := (moveFunds_ok moved).2.eventMode.trans settled.legacy
  rw [Transaction.execute, isCall]
  dsimp only
  rw [Onchain.execute, done, transferEvents, if_pos mode]
  rfl

theorem Settled.receipts_eq
    (settled : Settled surroundings before front transaction back authorization after) :
    receipts surroundings before 0 (front ++ transaction :: back) =
      receipts surroundings before 0 front ++
        settlementReceipt surroundings.contract transaction.hash authorization
            (emitted surroundings before front) ::
          receipts surroundings after (emitted surroundings before front + 2) back := by
  rw [receipts_append, receipts, settled.execute, Nat.zero_add]
  rfl

theorem Settled.afterAll_eq
    (settled : Settled surroundings before front transaction back authorization after) :
    afterAll surroundings before (front ++ transaction :: back) =
      afterAll surroundings after back := by
  rw [afterAll_append]
  change afterAll surroundings
    (transaction.execute surroundings (afterAll surroundings before front)).state back = _
  rw [settled.execute]

/-- The payer pays the value, and the receiver gains. -/
theorem Settled.balances
    (settled : Settled surroundings before front transaction back authorization after) :
    (afterAll surroundings after back).balances authorization.fromAddr +
        authorization.value.toNat = before.balances authorization.fromAddr ∧
      (afterAll surroundings after back).balances authorization.toAddr =
        before.balances authorization.toAddr +
          gain (afterAll surroundings before front) authorization := by
  rcases settled.call with ⟨_, _, _, done⟩
  have moved := transfer_moves done
  have ofPayer := moved authorization.fromAddr
  have ofPayee := moved authorization.toAddr
  rw [if_pos rfl, if_neg settled.apart, if_neg settled.notAdmin] at ofPayer
  rw [if_neg settled.apart.symm, if_pos rfl] at ofPayee
  have first := settled.quietBefore.balances
  have last := settled.quietAfter.balances
  have same : ∀ {left right : State} {who : Address}, left.balanceOf who = right.balanceOf who →
      left.balances who = right.balances who := fun equal => congrArg BitVec.toNat equal
  rw [same first.1] at ofPayer
  rw [same first.2] at ofPayee
  rw [same last.1, same last.2, gain]
  exact ⟨ofPayer, by omega⟩

/-- The authorization is used at the end of the block. -/
theorem Settled.used
    (settled : Settled surroundings before front transaction back authorization after) :
    (afterAll surroundings after back).authorizationState authorization.fromAddr
      authorization.nonce = true := by
  rcases settled.call with ⟨_, _, _, done⟩
  exact afterAll_used (transfer_used done)

omit [Cryptography] in
/-- Something arrives, and no more than was paid. -/
theorem gain_bounds {state : State} (sound : Sound state)
    (positive : 0 < authorization.value.toNat) :
    0 < gain state authorization ∧ gain state authorization ≤ authorization.value.toNat := by
  have fee : feeAmount state authorization.value ≤ authorization.value.toNat / 10 := by
    have capped := Nat.mul_le_mul_left authorization.value.toNat sound.fee
    rw [feeAmount]
    omega
  rw [gain]
  split_ifs <;> omega

end Execution

end Onchain

end Psv
