import Psv.Verdict.Authorized
import Psv.Node.History

/-!
# What an account receives and spends

Every call of the token changes the balance of an account by what its events report
to the account, except that a transfer can be reported in the second form, that a
fee stays with the administrator, and that nothing is reported of what is spent to
the account that spends it.  `Flows` keeps these parts apart; they add up along
transactions and blocks (`Deployment.accounts`), and the reported part is the sum of
the transfer logs to the account (`Deployment.reported_eq`).
-/

namespace Psv

open Python Interaction Chain Node Balances

namespace Onchain

/-! ### Flows -/

/-- What changes the balance of an account, in parts: what transfer events report to it, what the
second form of transfer events reports to it, fees that are parked with it, what it spends, and
fees on what is reported to it. -/
structure Flows where
  reported : ℕ
  hidden : ℕ
  parked : ℕ
  spent : ℕ
  withheld : ℕ
  deriving DecidableEq

namespace Flows

def none : Flows := ⟨0, 0, 0, 0, 0⟩

/-- One after the other. -/
def and (first second : Flows) : Flows where
  reported := first.reported + second.reported
  hidden := first.hidden + second.hidden
  parked := first.parked + second.parked
  spent := first.spent + second.spent
  withheld := first.withheld + second.withheld

/-- The flows lead from one balance to the other. -/
def Lead (flows : Flows) (before after : ℕ) : Prop :=
  after + flows.spent + flows.withheld = before + flows.reported + flows.hidden + flows.parked

theorem lead_none (balance : ℕ) : none.Lead balance balance := rfl

theorem Lead.and {first second : Flows} {before middle after : ℕ} (left : first.Lead before middle)
    (right : second.Lead middle after) : (first.and second).Lead before after := by
  simp only [Lead, Flows.and] at left right ⊢
  omega

end Flows

/-- What an event reports to an account as a transfer. -/
def Event.reports (who : Address) : Event → ℕ
  | .transfer _ toAddr value => if who = toAddr then value.toNat else 0
  | _ => 0

/-- What an event reports to an account in the second form. -/
def Event.hides (who : Address) : Event → ℕ
  | .transferV2 _ toAddr value _ => if who = toAddr then value.toNat else 0
  | _ => 0

/-- The flows of an executed call. -/
def callFlows (who : Address) (state : State) (call : Call) (events : List Event) : Flows :=
  let reported := (events.map (Event.reports who)).sum
  let hidden := (events.map (Event.hides who)).sum
  match call with
  | .transferWithAuthorization authorization =>
      { reported, hidden
        parked := if who = state.admin then feeAmount state authorization.value else 0
        spent := if who = authorization.fromAddr then authorization.value.toNat else 0
        withheld := if who = authorization.toAddr then feeAmount state authorization.value else 0 }
  | _ => { reported, hidden, parked := 0, spent := 0, withheld := 0 }

section Execution

variable [Cryptography] (surroundings : Surroundings) (who : Address)

/-- The flows of a transaction. -/
def Transaction.flows (state : State) (transaction : Transaction) : Flows :=
  match transaction.action with
  | .token sender call =>
      match Onchain.execute (surroundings.message sender) state call with
      | .ok (_, events) => callFlows who state call events
      | .error _ => Flows.none
  | .other _ _ => Flows.none

/-- The flows of transactions, one after the other. -/
def flowsOf (state : State) : List Transaction → Flows
  | [] => Flows.none
  | transaction :: transactions =>
      (transaction.flows surroundings who state).and
        (flowsOf (transaction.execute surroundings state).state transactions)

end Execution

/-- The flows of blocks that begin with a number. -/
def flowsFrom [Cryptography] (chain : Node.Chain) (contract who : Address) (states : ℕ → State)
    (transactions : ℕ → List Transaction) : ℕ → List Block → Flows
  | _, [] => Flows.none
  | number, block :: blocks =>
      (flowsOf (surroundingsOf chain contract block) who (states (number - 1))
          (transactions number)).and
        (flowsFrom chain contract who states transactions (number + 1) blocks)

section Execution

variable [Cryptography] {surroundings : Surroundings} {who : Address} {state after : State}
  {message : Message} {call : Call} {events : List Event} {transactions : List Transaction}

/-! ### Balances -/

/-- A call changes a balance by its flows. -/
theorem lead_call (sound : Sound state) (done : execute message state call = .ok (after, events)) :
    (callFlows who state call events).Lead (state.balances who) (after.balances who) := by
  cases call with
  | setEventMode mode =>
    simp only [execute, setEventMode, Checks.bind_eq_ok_iff] at done
    rcases done with ⟨_, _, _, _, same⟩
    cases same
    exact Flows.lead_none _
  | setFeeBps bps =>
    simp only [execute, setFeeBps, Checks.bind_eq_ok_iff] at done
    rcases done with ⟨_, _, _, _, same⟩
    cases same
    exact Flows.lead_none _
  | mint receiver amount =>
    rw [execute] at done
    have credited := (mint_ok done).1 who
    simp only [mint, Checks.bind_eq_ok_iff] at done
    rcases done with ⟨_, _, _, _, same⟩
    cases same
    simp only [Flows.Lead, callFlows, List.map_cons, List.map_nil, List.sum_cons, List.sum_nil,
      Event.reports, Event.hides]
    omega
  | transferWithAuthorization authorization =>
    rw [execute] at done
    have moved := transfer_moves done who
    have bound := feeAmount_le sound.fee authorization.value
    rw [(transfer_ok done).2.2.2.2.2, transferEvents]
    by_cases legacy : after.eventMode = 0
    · simp only [if_pos legacy, Flows.Lead, callFlows, List.map_cons, List.map_nil, List.sum_cons,
        List.sum_nil, Event.reports, Event.hides]
      split_ifs at moved ⊢ <;> omega
    · simp only [if_neg legacy, Flows.Lead, callFlows, List.map_cons, List.map_nil, List.sum_cons,
        List.sum_nil, Event.reports, Event.hides]
      split_ifs at moved ⊢ <;> omega

theorem lead_transaction (sound : Sound state) (transaction : Transaction) :
    (transaction.flows surroundings who state).Lead (state.balances who)
      ((transaction.execute surroundings state).state.balances who) := by
  rcases transaction with ⟨hash, action⟩
  cases action with
  | other success emissions => exact Flows.lead_none _
  | token sender call =>
    rw [Transaction.flows, Transaction.execute]
    dsimp only
    cases done : execute (surroundings.message sender) state call with
    | error _ => exact Flows.lead_none _
    | ok result => exact lead_call sound done

theorem lead_afterAll (sound : Sound state) :
    (flowsOf surroundings who state transactions).Lead (state.balances who)
      ((afterAll surroundings state transactions).balances who) := by
  induction transactions generalizing state with
  | nil => exact Flows.lead_none _
  | cons transaction transactions ih =>
    have next : Sound (transaction.execute surroundings state).state :=
      @afterAll_sound _ surroundings state [transaction] sound
    exact (lead_transaction sound transaction).and (ih next)

/-! ### Logs -/

/-- The sum of the transfers to an account among logs. -/
def loggedTo (contract who : Address) (logs : List Log) : ℕ :=
  ((logs.filter fun log => decide (log.emitter = contract) &&
    topicsMatch (inbound who) log.topics).map Log.value).sum

omit [Cryptography] in
theorem loggedTo_append {contract : Address} (front back : List Log) :
    loggedTo contract who (front ++ back) =
      loggedTo contract who front + loggedTo contract who back := by
  rw [loggedTo, List.filter_append, List.map_append, List.sum_append]
  rfl

omit [Cryptography] in
/-- The log of an event counts when it reports a transfer to the account. -/
theorem loggedTo_event (event : Event) (position : ℕ) :
    loggedTo surroundings.contract who
        [⟨surroundings.contract, event.topics, event.data, position⟩] =
      event.reports who := by
  by_cases matched : topicsMatch (inbound who) event.topics = true
  · rcases transfer_of_inbound matched with ⟨fromAddr, value, rfl⟩
    rw [loggedTo, List.filter_cons_of_pos (by simpa using matched), List.filter_nil,
      List.map_singleton, List.sum_singleton, Event.reports, if_pos rfl]
    exact value_of_wordData rfl
  · rw [loggedTo, List.filter_cons_of_neg (by simpa using matched), List.filter_nil]
    cases event with
    | transfer fromAddr toAddr value =>
      have other : who ≠ toAddr := by
        rintro rfl
        exact matched (by simp [Event.topics, transferTopics, inbound, topicsMatch])
      rw [Event.reports, if_neg other]
      rfl
    | _ => rfl

omit [Cryptography] in
/-- The transfers to an account among the logs of events. -/
theorem loggedTo_events (first : ℕ) :
    loggedTo surroundings.contract who (number first (events.map surroundings.emission)) =
      (events.map (Event.reports who)).sum := by
  induction events generalizing first with
  | nil => rfl
  | cons event events ih =>
    rw [List.map_cons, number, ← List.singleton_append, loggedTo_append, ih, List.map_cons,
      List.sum_cons]
    exact congrArg (· + _) (loggedTo_event event first)

omit [Cryptography] in
/-- Logs of other contracts do not count. -/
theorem loggedTo_foreign {contract : Address} {logs : List Log}
    (foreign : ∀ log ∈ logs, log.emitter ≠ contract) : loggedTo contract who logs = 0 := by
  rw [loggedTo, List.filter_eq_nil_iff.mpr]
  · rfl
  · intro log mem
    simp [foreign log mem]

/-- The logs of a transaction report what flows to the account. -/
theorem loggedTo_transaction {transaction : Transaction}
    (foreign : transaction.action.Foreign surroundings.contract) (first : ℕ) :
    loggedTo surroundings.contract who
        (number first (transaction.execute surroundings state).emissions) =
      (transaction.flows surroundings who state).reported := by
  rcases transaction with ⟨hash, action⟩
  cases action with
  | other success emissions =>
    rw [Transaction.execute, Transaction.flows]
    refine loggedTo_foreign fun log mem => ?_
    have listed := mem_number mem
    dsimp only at listed
    split_ifs at listed
    · exact foreign _ listed
    · cases listed
  | token sender call =>
    rw [Transaction.execute, Transaction.flows]
    dsimp only
    cases done : execute (surroundings.message sender) state call with
    | error _ => rfl
    | ok result =>
      dsimp only
      rw [loggedTo_events]
      cases call <;> rfl

/-- The receipts of transactions report what flows to the account. -/
theorem loggedTo_receipts (foreign : ∀ transaction ∈ transactions,
      transaction.action.Foreign surroundings.contract) (first : ℕ) :
    loggedTo surroundings.contract who
        ((receipts surroundings state first transactions).flatMap Receipt.logs) =
      (flowsOf surroundings who state transactions).reported := by
  induction transactions generalizing state first with
  | nil => rfl
  | cons transaction transactions ih =>
    rcases List.forall_mem_cons.mp foreign with ⟨here, later⟩
    rw [receipts, List.flatMap_cons, loggedTo_append, ih later]
    exact congrArg (· + _) (loggedTo_transaction here first)

end Execution

/-! ### Blocks -/

section Blocks

variable {contract who : Address} {blocks : List Block} {number : ℕ}

/-- The sum of the transfers to an account among entries. -/
def entryTotal (entries : List Entry) : ℕ := (entries.map fun entry => entry.log.value).sum

theorem entryTotal_cons (block : Block) :
    entryTotal (entriesFrom contract (inbound who) number (block :: blocks)) =
      loggedTo contract who block.logs +
        entryTotal (entriesFrom contract (inbound who) (number + 1) blocks) := by
  rw [entryTotal, entriesFrom, List.map_append, List.sum_append, List.map_map, loggedTo,
    ← map_snd_select, List.map_map]
  rfl

variable [Cryptography] {chain : Node.Chain} {deployer : Address} {start : ℕ}
  {states : ℕ → State} {transactions : ℕ → List Transaction}

omit [Cryptography] in
theorem drop_succ_of_drop {block : Block} (rest : chain.blocks.drop number = block :: blocks) :
    chain.blocks[number]? = some block ∧ chain.blocks.drop (number + 1) = blocks := by
  constructor
  · have head := congrArg List.head? rest
    rwa [List.head?_drop] at head
  · rw [← List.drop_drop, rest]
    rfl

/-- From a block behind the deployment on, the transfers that the chain reports to an account are
those of its flows. -/
theorem Deployment.reported_from
    (past : Deployment chain contract deployer start states transactions) (later : start < number)
    (rest : chain.blocks.drop number = blocks) :
    entryTotal (entriesFrom contract (inbound who) number blocks) =
      (flowsFrom chain contract who states transactions number blocks).reported := by
  induction blocks generalizing number with
  | nil => rfl
  | cons block blocks ih =>
    rcases drop_succ_of_drop rest with ⟨found, restNext⟩
    have executes := (past.next number block later found).1
    rw [entryTotal_cons, ih (by omega) restNext, Block.logs, executes.receipts]
    exact congrArg (· + _) (loggedTo_receipts executes.foreign 0)

/-- The flows from a block behind the deployment on lead to the balance at the head. -/
theorem Deployment.lead_from
    (past : Deployment chain contract deployer start states transactions) (later : start < number)
    (inside : number ≤ chain.blocks.length) (rest : chain.blocks.drop number = blocks) :
    (flowsFrom chain contract who states transactions number blocks).Lead
      ((states (number - 1)).balances who) ((states (chain.blocks.length - 1)).balances who) := by
  induction blocks generalizing number with
  | nil =>
    have ended : number = chain.blocks.length :=
      le_antisymm inside (List.drop_eq_nil_iff.mp rest)
    rw [ended]
    exact Flows.lead_none _
  | cons block blocks ih =>
    rcases drop_succ_of_drop rest with ⟨found, restNext⟩
    have executes := past.next number block later found
    have before : number - 1 < chain.blocks.length := by
      have := (List.getElem?_eq_some_iff.mp found).1
      omega
    have sound := past.sound (List.getElem?_eq_getElem before) (by omega)
    have next := ih (by omega) (by
      have := (List.getElem?_eq_some_iff.mp found).1
      omega) restNext
    rw [Nat.add_sub_cancel, executes.2] at next
    exact (lead_afterAll sound).and next

omit [Cryptography] in
/-- The chain reports no transfer before the token was deployed. -/
theorem Unlogged.entries_eq (unlogged : Unlogged chain contract start) (early : number ≤ start)
    (rest : chain.blocks.drop number = blocks) (wanted : List (Option Word)) :
    entriesFrom contract wanted number blocks = chain.entries contract wanted (start + 1) := by
  induction blocks generalizing number with
  | nil =>
    have ended := List.drop_eq_nil_iff.mp rest
    rw [Chain.entries, List.drop_eq_nil_iff.mpr (by omega)]
    rfl
  | cons block blocks ih =>
    rcases drop_succ_of_drop rest with ⟨found, restNext⟩
    have quiet : block.select contract wanted = [] := by
      rw [Block.select, List.flatMap_eq_nil_iff]
      intro receipt listed
      rw [List.map_eq_nil_iff, List.filter_eq_nil_iff]
      intro log isLog
      simp [unlogged number early block found receipt listed log isLog]
    rw [entriesFrom, quiet, List.map_nil, List.nil_append]
    rcases early.eq_or_lt with rfl | before
    · rw [Chain.entries, restNext]
    · exact ih before restNext

/-- The flows of an account since the deployment. -/
def accountFlows (chain : Node.Chain) (contract who : Address) (start : ℕ) (states : ℕ → State)
    (transactions : ℕ → List Transaction) : Flows :=
  flowsFrom chain contract who states transactions (start + 1) (chain.blocks.drop (start + 1))

/-- The transfers that the chain reports to an account are the reported part of what has flown,
and all parts together are the balance at the head. -/
theorem Deployment.accounts
    (past : Deployment chain contract deployer start states transactions)
    (mined : start < chain.blocks.length) :
    entryTotal (chain.entries contract (inbound who) (start + 1)) =
        (accountFlows chain contract who start states transactions).reported ∧
      (accountFlows chain contract who start states transactions).Lead 0
        ((states (chain.blocks.length - 1)).balances who) := by
  refine ⟨past.reported_from (Nat.lt_succ_self start) rfl, ?_⟩
  have lead : (accountFlows chain contract who start states transactions).Lead _ _ :=
    past.lead_from (Nat.lt_succ_self start) mined rfl
  rw [Nat.succ_sub_one, past.deployed] at lead
  exact lead

end Blocks

end Onchain

end Psv
