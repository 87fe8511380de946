import Psv.Sut.Ledger

/-!
# Runs of the reference service

A service is asked for quotes, payments and statuses, and its ledger is backed
up, restored and reconciled, in any order and with any answers of the node.  The
events of a run keep what every operation asked and answered.  What holds of the
ledger is shown of the backups too, since every one of them can come back.
-/

namespace Psv

open Python Interaction Program RpcClient Reconciliation

/-- The service and the backups that were taken of its ledger. -/
structure Service where
  state : SutState
  backups : List Orders

/-- An operation on the service, with what it asked and answered. -/
inductive Event where
  | quote (said : Conversation) (result : Except PyError QuoteResponse)
  | pay (orderId : Str) (authorization : Fields) (said : Conversation)
      (result : Except PyError PayResponse)
  | status (orderId : Str) (answer : StatusResponse)
  | resource (orderId : Str) (answer : ℕ × Option Str)
  | backup
  | restore (backup : Orders)
  | reconcile (fromBlock : ℤ) (said : Conversation)
      (result : Except PyError (List OnChainCredit))
  | moveFairPrice (price : ℤ)

namespace ReferenceSut

variable [Interpreter]

/-- One operation on the service. -/
inductive Step (sut : ReferenceSut) : Service → Event → Service → Prop
  | quote {service : Service} {said : Conversation} {result : Except PyError QuoteResponse}
      {state : SutState} (replays : sut.quote.Replays service.state said result state) :
      Step sut service (.quote said result) { service with state := state }
  | pay {service : Service} {orderId : Str} {authorization : Fields} {said : Conversation}
      {result : Except PyError PayResponse} {state : SutState}
      (replays : (sut.pay orderId authorization).Replays service.state said result state) :
      Step sut service (.pay orderId authorization said result) { service with state := state }
  | status {service : Service} {orderId : Str} {answer : StatusResponse} {state : SutState}
      (replays : (status orderId).Replays service.state [] (.ok answer) state) :
      Step sut service (.status orderId answer) { service with state := state }
  | resource {service : Service} {orderId : Str} {answer : ℕ × Option Str} {state : SutState}
      (replays : (resource orderId).Replays service.state [] (.ok answer) state) :
      Step sut service (.resource orderId answer) { service with state := state }
  | backup {service : Service} {orders : Orders} {state : SutState}
      (replays : backupLedger.Replays service.state [] (.ok orders) state) :
      Step sut service .backup ⟨state, orders :: service.backups⟩
  | restore {service : Service} {backup : Orders} {state : SutState}
      (taken : backup ∈ service.backups)
      (replays : (restoreLedger backup).Replays service.state [] (.ok ()) state) :
      Step sut service (.restore backup) { service with state := state }
  | reconcile {service : Service} {fromBlock : ℤ} {said : Conversation}
      {result : Except PyError (List OnChainCredit)} {state : SutState}
      (replays : (sut.reconcile fromBlock).Replays service.state said result state) :
      Step sut service (.reconcile fromBlock said result) { service with state := state }
  | moveFairPrice {service : Service} {price : ℤ} :
      Step sut service (.moveFairPrice price)
        { service with state := { service.state with fairPrice := price } }

/-- A run of a new service; every operation is allowed in view of the earlier ones. -/
inductive Run (sut : ReferenceSut) (allowed : List Event → Service → Event → Prop) :
    List Event → Service → Prop
  | start : Run sut allowed [] ⟨⟨∅, sut.config.price⟩, []⟩
  | step {events : List Event} {service after : Service} {event : Event}
      (run : Run sut allowed events service) (permitted : allowed events service event)
      (step : Step sut service event after) : Run sut allowed (events ++ [event]) after

/-- Operations one after another, from a service on. -/
inductive Steps (sut : ReferenceSut) : Service → List Event → Service → Prop
  | none {service : Service} : Steps sut service [] service
  | step {service middle final : Service} {event : Event} {events : List Event}
      (step : Step sut service event middle) (rest : Steps sut middle events final) :
      Steps sut service (event :: events) final

section Steps

variable {sut : ReferenceSut} {service final : Service} {earlier later : List Event}

/-- What is reached from a service that a run reaches is reached by a run. -/
theorem Run.steps (run : sut.Run (fun _ _ _ => True) earlier service)
    (steps : sut.Steps service later final) :
    sut.Run (fun _ _ _ => True) (earlier ++ later) final := by
  induction steps generalizing earlier with
  | none =>
    rw [List.append_nil]
    exact run
  | @step _ _ _ event events step _ ih =>
    rw [← List.singleton_append, ← List.append_assoc]
    exact ih (run.step trivial step)

end Steps

/-! ### Invariants of the ledger -/

section Invariants

variable (sut : ReferenceSut) (allowed : List Event → Service → Event → Prop)

/-- What holds of a new ledger and is kept by everything that books orders. -/
structure LedgerInvariant (good : List Event → Orders → Prop) : Prop where
  start : good [] ∅
  mono {events : List Event} {orders : Orders} (event : Event) (holds : good events orders) :
    good (events ++ [event]) orders
  quote {events : List Event} {service : Service} {said : Conversation}
    {result : Except PyError QuoteResponse} {state : SutState}
    (holds : good events service.state.orders)
    (permitted : allowed events service (.quote said result))
    (quotes : sut.Quotes service.state said result state) :
    good (events ++ [.quote said result]) state.orders
  pay {events : List Event} {service : Service} {orderId : Str} {authorization : Fields}
    {said : Conversation} {result : Except PyError PayResponse} {state : SutState}
    (holds : good events service.state.orders)
    (permitted : allowed events service (.pay orderId authorization said result))
    (pays : sut.Pays service.state orderId authorization said result state) :
    good (events ++ [.pay orderId authorization said result]) state.orders
  reconcile {events : List Event} {service : Service} {fromBlock : ℤ} {said : Conversation}
    {result : Except PyError (List OnChainCredit)} {state : SutState}
    (holds : good events service.state.orders)
    (permitted : allowed events service (.reconcile fromBlock said result))
    (reconciles : sut.Reconciles service.state fromBlock said result state) :
    good (events ++ [.reconcile fromBlock said result]) state.orders

variable {sut allowed}

/-- An invariant holds of every ledger that is reached, and of every backup. -/
theorem LedgerInvariant.of_run {good : List Event → Orders → Prop}
    (invariant : sut.LedgerInvariant allowed good) {events : List Event} {service : Service}
    (run : sut.Run allowed events service) :
    good events service.state.orders ∧ ∀ backup ∈ service.backups, good events backup := by
  induction run with
  | start => exact ⟨invariant.start, List.forall_mem_nil _⟩
  | @step events service after event _ permitted step ih =>
    rcases ih with ⟨ledger, backups⟩
    have kept : ∀ backup ∈ service.backups, good (events ++ [event]) backup :=
      fun backup mem => invariant.mono event (backups backup mem)
    cases step with
    | quote replays => exact ⟨invariant.quote ledger permitted (quote_replays_iff.mp replays), kept⟩
    | pay replays => exact ⟨invariant.pay ledger permitted (pay_replays_iff.mp replays), kept⟩
    | status replays =>
      rcases replays with ⟨_, _, rfl⟩
      exact ⟨invariant.mono _ ledger, kept⟩
    | resource replays =>
      rcases replays with ⟨_, _, rfl⟩
      exact ⟨invariant.mono _ ledger, kept⟩
    | backup replays =>
      rcases replays with ⟨_, same, rfl⟩
      cases same
      refine ⟨invariant.mono _ ledger, ?_⟩
      intro backup mem
      rcases List.mem_cons.mp mem with rfl | mem
      · exact invariant.mono _ ledger
      · exact kept backup mem
    | restore taken replays =>
      rcases replays with ⟨_, _, rfl⟩
      exact ⟨kept _ taken, kept⟩
    | reconcile replays =>
      exact ⟨invariant.reconcile ledger permitted (reconciles_of_replays replays), kept⟩
    | moveFairPrice => exact ⟨invariant.mono _ ledger, kept⟩

variable (sut allowed) in
/-- What holds of every new order and is kept by every payment. -/
structure OrderInvariant (holds : List Event → Str → Order → Prop) : Prop where
  mono {events : List Event} {key : Str} {order : Order} (event : Event)
    (known : holds events key order) : holds (events ++ [event]) key order
  quote {events : List Event} {service : Service} {said : Conversation}
    {result : Except PyError QuoteResponse} {drawn : Str} {now fairPrice createdBlock : ℤ}
    (permitted : allowed events service (.quote said result)) :
    holds (events ++ [.quote said result]) ("ord_".toList ++ drawn)
      (sut.quotedOrder ("ord_".toList ++ drawn) now fairPrice createdBlock)
  change {events : List Event} {service : Service} {orderId : Str} {authorization : Fields}
    {said : Conversation} {result : Except PyError PayResponse} {order : Order}
    {change : Order → Order} (known : holds events orderId order) (keyed : order.orderId = orderId)
    (permitted : allowed events service (.pay orderId authorization said result))
    (changes : sut.Changes service.state orderId authorization order said result change) :
    holds (events ++ [.pay orderId authorization said result]) orderId (change order)
  book {events : List Event} {service : Service} {fromBlock : ℤ} {said : Conversation}
    {result : Except PyError (List OnChainCredit)} {logs : List Fields}
    {credits : List OnChainCredit} {credit : OnChainCredit} {key : Str}
    (permitted : allowed events service (.reconcile fromBlock said result))
    (fetched : sut.Fetched fromBlock said logs)
    (found : sut.unreconciled service.state.orders logs = .ok credits) (mem : credit ∈ credits)
    (keyed : identityKey credit.identity = .ok key) :
    holds (events ++ [.reconcile fromBlock said result]) (recoveredId key)
      (recoveredOrder (recoveredId key) credit)

/-- Every order is kept under its own id. -/
def Keyed (orders : Orders) : Prop :=
  ∀ key order, orders.lookup key = some order → order.orderId = key

/-- Every order of a ledger is kept under its own id and has a property. -/
def Everywhere (holds : Str → Order → Prop) (orders : Orders) : Prop :=
  ∀ key order, orders.lookup key = some order → order.orderId = key ∧ holds key order

omit [Interpreter] in
theorem Everywhere.keyed {holds : Str → Order → Prop} {orders : Orders}
    (everywhere : Everywhere holds orders) : Keyed orders :=
  fun key order found => (everywhere key order found).1

omit [Interpreter] in
theorem Everywhere.imp {holds weaker : Str → Order → Prop} {orders : Orders}
    (everywhere : Everywhere holds orders) (weakens : ∀ key order, holds key order → weaker key order) :
    Everywhere weaker orders :=
  fun key order found => (everywhere key order found).imp_right (weakens key order)

omit [Interpreter] in
theorem Everywhere.setItem {holds : Str → Order → Prop} {orders : Orders} {key : Str}
    {order : Order} (everywhere : Everywhere holds orders) (keyed : order.orderId = key)
    (known : holds key order) : Everywhere holds (orders.setItem key order) := by
  intro other found lookup
  rw [Dict.lookup_setItem] at lookup
  split_ifs at lookup with same
  · cases lookup
    rw [same]
    exact ⟨keyed, known⟩
  · exact everywhere other found lookup

omit [Interpreter] in
theorem Everywhere.alter {holds : Str → Order → Prop} {orders : Orders} {key : Str}
    {order : Order} {change : Order → Order} (everywhere : Everywhere holds orders)
    (found : orders.lookup key = some order) (keyed : (change order).orderId = key)
    (known : holds key (change order)) : Everywhere holds (orders.alter key change) := by
  intro other changed lookup
  rw [Dict.lookup_alter] at lookup
  split_ifs at lookup with same
  · rw [found, Option.map_some, Option.some.injEq] at lookup
    rw [same, ← lookup]
    exact ⟨keyed, known⟩
  · exact everywhere other changed lookup

/-- A healed ledger consists of former and of recovered orders. -/
theorem Healed.everywhere {holds : Str → Order → Prop} {credits : List OnChainCredit}
    {orders later : Orders} (healed : Healed credits orders later)
    (everywhere : Everywhere holds orders)
    (booked : ∀ credit ∈ credits, ∀ key, identityKey credit.identity = .ok key →
      holds (recoveredId key) (recoveredOrder (recoveredId key) credit)) :
    Everywhere holds later := by
  induction healed with
  | none => exact everywhere
  | booked keyed _ ih =>
    simp only [List.mem_cons, forall_eq_or_imp] at booked
    exact ih (everywhere.setItem rfl (booked.1 _ keyed)) booked.2

theorem OrderInvariant.kept {holds : List Event → Str → Order → Prop}
    (invariant : sut.OrderInvariant allowed holds) {events : List Event} {orders : Orders}
    (event : Event) (everywhere : Everywhere (holds events) orders) :
    Everywhere (holds (events ++ [event])) orders :=
  everywhere.imp fun _ _ known => invariant.mono event known

/-- A property of the orders is an invariant of the ledger. -/
theorem OrderInvariant.ledger {holds : List Event → Str → Order → Prop}
    (invariant : sut.OrderInvariant allowed holds) :
    sut.LedgerInvariant allowed fun events orders => Everywhere (holds events) orders where
  start := by
    intro key order found
    rw [AList.lookup_empty] at found
    cases found
  mono event everywhere := invariant.kept event everywhere
  quote everywhere permitted quotes := by
    cases quotes with
    | failed => exact invariant.kept _ everywhere
    | quoted => exact (invariant.kept _ everywhere).setItem rfl (invariant.quote permitted)
  pay everywhere permitted pays := by
    cases pays with
    | refused => exact invariant.kept _ everywhere
    | changed changes =>
      have found := changes.open_.found
      rcases everywhere _ _ found with ⟨keyed, known⟩
      rw [alterOrder, keyed]
      exact (invariant.kept _ everywhere).alter found (changes.same.orderId.trans keyed)
        (invariant.change known keyed permitted changes)
  reconcile everywhere permitted reconciles := by
    cases reconciles with
    | failed => exact invariant.kept _ everywhere
    | reported => exact invariant.kept _ everywhere
    | healed fetched found _ healed _ =>
      exact healed.everywhere (invariant.kept _ everywhere) fun credit mem key keyed =>
        invariant.book permitted fetched found (List.mem_append_left _ mem) keyed

theorem OrderInvariant.of_run {holds : List Event → Str → Order → Prop}
    (invariant : sut.OrderInvariant allowed holds) {events : List Event} {service : Service}
    (run : sut.Run allowed events service) : Everywhere (holds events) service.state.orders :=
  (invariant.ledger.of_run run).1

/-- The orders of every ledger that is reached are kept under their ids. -/
theorem Run.keyed {events : List Event} {service : Service} (run : sut.Run allowed events service) :
    Keyed service.state.orders := by
  have invariant : sut.OrderInvariant allowed fun _ _ _ => True :=
    ⟨fun _ _ => trivial, fun _ => trivial, fun _ _ _ _ => trivial, fun _ _ _ _ _ => trivial⟩
  exact (invariant.of_run run).keyed

end Invariants

end ReferenceSut

end Psv
