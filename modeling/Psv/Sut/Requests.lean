import Psv.Interaction.Shared
import Psv.Sut.Release

/-!
# Requests side by side

The endpoints of the service are plain functions, so requests that come at the same time
run in threads over one ledger, and between two questions of one request to the node any
number of others can be served.  The guards of a payment are therefore about a ledger that
may have changed when its answer comes.  What survives every interleaving is what is
proved of single requests here: a quote is never changed, what is paid stays paid, and a
resource is only delivered for a settlement that payments of its order broadcast and saw
mined (`release_in_every_order`).
-/

namespace Psv

open Python Interaction Program Chain RpcClient Reconciliation Confirmer Discipline

namespace Order

/-- The resource is released, and nothing is booked yet. -/
def unlocked (order : Order) : Order :=
  { order with
    paid := true
    resource := some ("premium-content::".toList ++ order.orderId) }

/-- The identity of the settlement is booked. -/
def identified (identity : SettlementIdentity) (order : Order) : Order :=
  { order with settlementIdentity := some identity }

end Order

namespace ReferenceSut

variable [Interpreter]

/-! ### The endpoints -/

/-- A request to the service. -/
inductive Request where
  | quote
  | pay (orderId : Str) (authorization : Fields)
  | status (orderId : Str)
  | resource (orderId : Str)

/-- What the service replies. -/
inductive Reply where
  | quoted (response : QuoteResponse)
  | paid (response : PayResponse)
  | status (response : StatusResponse)
  | resource (code : ℕ) (content : Option Str)

/-- `create_app`: the endpoint of a request. -/
def serve (sut : ReferenceSut) : Request → Proc SutState Reply
  | .quote => do
      let response ← sut.quote
      return .quoted response
  | .pay orderId authorization => do
      let response ← sut.pay orderId authorization
      return .paid response
  | .status orderId => do
      let response ← status orderId
      return .status response
  | .resource orderId => do
      let response ← resource orderId
      return .resource response.1 response.2

/-! ### Evidence on record -/

section Evidence

variable {ι : Type} (sut : ReferenceSut) (requests : ι → Request)

/-- A payment of the order broadcast the transaction with the authorization. -/
structure Sent (record : Record interface ι) (orderId : Str) (authorization : Fields)
    (txHash : Str) : Prop extends sut.Accepted authorization txHash where
  sent : ∃ i raw, requests i = .pay orderId authorization ∧
    (i, exchange "eth_sendRawTransaction" [.str raw] (.ok (.str txHash))) ∈ record

/-- A payment of the order obtained the receipt, and the client accepted it. -/
structure Seen (record : Record interface ι) (orderId txHash : Str) (receipt : Fields) : Prop where
  shape : Anvil.ReceiptShape receipt
  seen : ∃ i authorization, requests i = .pay orderId authorization ∧
    (i, polled txHash (.ok (.dict receipt))) ∈ record

/-- Payments of the order broadcast the transaction and saw a receipt of it that settles the
order with the transfer of an index. -/
def Settles (record : Record interface ι) (order : Order) (txHash : Str) (index : ℤ) : Prop :=
  ∃ authorization settlement receipt, sut.Sent requests record order.orderId authorization txHash ∧
    Seen requests record order.orderId txHash receipt ∧
    sut.settlementFor order authorization txHash = .ok settlement ∧
    SettledBy settlement receipt index

/-- The id was drawn for a quote. -/
def Drawn (record : Record interface ι) (i : ι) (orderId : Str) : Prop :=
  ∃ drawn : Ask.Answer (.tokenHex 8), (i, ⟨Ask.tokenHex 8, drawn⟩) ∈ record ∧
    orderId = "ord_".toList ++ String.toList drawn

/-- What the ledger says about an order is on record. -/
structure Backed (record : Record interface ι) (key : Str) (order : Order) : Prop where
  keyed : order.orderId = key
  drawn : ∃ i, Drawn record i key
  pending : ∀ txHash authorization, order.pendingTx = some txHash →
    order.pendingAuthorization = some authorization →
      sut.Sent requests record key authorization txHash
  paid : order.paid = true → order.resource = some ("premium-content::".toList ++ key) ∧
    ∃ txHash index, sut.Settles requests record order txHash index
  unpaid : order.paid = false → order.resource = none
  identity : ∀ identity, order.settlementIdentity = some identity → ∃ txHash index,
    sut.Settles requests record order txHash index ∧
      identity = ⟨sut.config.chainId, lower sut.config.tokenAddress, lower txHash, index⟩

variable {sut requests} {record later : Record interface ι} {orderId txHash : Str}
  {authorization : Fields} {order changed : Order} {index : ℤ}

theorem Sent.mono (sent : sut.Sent requests record orderId authorization txHash)
    (kept : record ⊆ later) : sut.Sent requests later orderId authorization txHash := by
  rcases sent.sent with ⟨i, raw, asked, mem⟩
  exact ⟨sent.toAccepted, i, raw, asked, kept mem⟩

theorem Settles.mono (settles : sut.Settles requests record order txHash index)
    (kept : record ⊆ later) : sut.Settles requests later order txHash index := by
  rcases settles with
    ⟨authorization, settlement, receipt, sent, ⟨shape, i, other, asked, mem⟩, settled⟩
  exact ⟨authorization, settlement, receipt, sent.mono kept,
    ⟨shape, i, other, asked, kept mem⟩, settled⟩

/-- The evidence is about the quote of the order. -/
theorem Settles.congr (settles : sut.Settles requests record order txHash index)
    (same : order.SameQuote changed) : sut.Settles requests record changed txHash index := by
  rcases settles with ⟨authorization, settlement, receipt, sent, seen, read, settled⟩
  refine ⟨authorization, settlement, receipt, ?_, ?_, ?_, settled⟩
  · rw [same.orderId]
    exact sent
  · rw [same.orderId]
    exact seen
  · rw [settlementFor, same.amount, same.createdBlock]
    exact read

theorem Backed.mono (backed : sut.Backed requests record orderId order) (kept : record ⊆ later) :
    sut.Backed requests later orderId order where
  keyed := backed.keyed
  drawn := by
    rcases backed.drawn with ⟨i, drawn, mem, same⟩
    exact ⟨i, drawn, kept mem, same⟩
  pending txHash authorization isTx isAuthorization :=
    (backed.pending txHash authorization isTx isAuthorization).mono kept
  paid paid := by
    rcases backed.paid paid with ⟨content, txHash, index, settles⟩
    exact ⟨content, txHash, index, settles.mono kept⟩
  unpaid := backed.unpaid
  identity identity isIdentity := by
    rcases backed.identity identity isIdentity with ⟨txHash, index, settles, same⟩
    exact ⟨txHash, index, settles.mono kept, same⟩

end Evidence

/-! ### What requests do to the ledger -/

/-- An order goes on: its quote stays, and what is paid stays paid. -/
structure Advances (order changed : Order) : Prop extends order.SameQuote changed where
  paid : order.paid = true → changed.paid = true
  attempts : order.settleAttempts ≤ changed.settleAttempts

/-- Every order of the ledger goes on. -/
def Proceeds (state later : SutState) : Prop :=
  ∀ key order, state.orders.lookup key = some order →
    ∃ changed, later.orders.lookup key = some changed ∧ Advances order changed

omit [Interpreter] in
theorem Advances.refl (order : Order) : Advances order order :=
  ⟨⟨rfl, rfl, rfl, rfl, rfl, rfl⟩, id, le_refl _⟩

omit [Interpreter] in
theorem Advances.trans {first second third : Order} (left : Advances first second)
    (right : Advances second third) : Advances first third where
  orderId := right.orderId.trans left.orderId
  amount := right.amount.trans left.amount
  expiresAt := right.expiresAt.trans left.expiresAt
  quotedFairPrice := right.quotedFairPrice.trans left.quotedFairPrice
  createdBlock := right.createdBlock.trans left.createdBlock
  recovered := right.recovered.trans left.recovered
  paid := right.paid ∘ left.paid
  attempts := left.attempts.trans right.attempts

omit [Interpreter] in
theorem Proceeds.refl (state : SutState) : Proceeds state state :=
  fun _ order found => ⟨order, found, Advances.refl order⟩

omit [Interpreter] in
theorem Proceeds.trans {first second third : SutState} (left : Proceeds first second)
    (right : Proceeds second third) : Proceeds first third := by
  intro key order found
  rcases left key order found with ⟨changed, foundNext, advances⟩
  rcases right key changed foundNext with ⟨final, foundLast, more⟩
  exact ⟨final, foundLast, advances.trans more⟩

section Discipline

variable {ι : Type} (sut : ReferenceSut) (requests : ι → Request)

/-- Every order is backed by the record, and no id was drawn twice. -/
structure Sound (scene : Scene interface SutState ι) : Prop where
  backed : ∀ key order, scene.1.orders.lookup key = some order →
    sut.Backed requests scene.2 key order
  drawn : ∀ i j key, Drawn scene.2 i key → Drawn scene.2 j key → i = j

/-- The record grows, every order goes on, and orders are new under ids that certain threads have
drawn. -/
structure Stretch (who : ι → Prop) (before after : Scene interface SutState ι) : Prop where
  record : before.2 ⊆ after.2
  proceeds : Proceeds before.1 after.1
  quoted : ∀ key, before.1.orders.lookup key = none → after.1.orders.lookup key ≠ none →
    ∃ i, who i ∧ Drawn after.2 i key

variable {sut requests} {i : ι} {before middle after : Scene interface SutState ι}

omit [Interpreter] in
theorem Drawn.mono {record later : Record interface ι} {key : Str} (drawn : Drawn record i key)
    (kept : record ⊆ later) : Drawn later i key := by
  rcases drawn with ⟨digits, mem, same⟩
  exact ⟨digits, kept mem, same⟩

omit [Interpreter] in
theorem Stretch.trans {who : ι → Prop} (left : Stretch who before middle)
    (right : Stretch who middle after) : Stretch who before after where
  record := List.Subset.trans left.record right.record
  proceeds := left.proceeds.trans right.proceeds
  quoted key absent present := by
    by_cases there : middle.1.orders.lookup key = none
    · exact right.quoted key there present
    · rcases left.quoted key absent there with ⟨i, isWho, drawn⟩
      exact ⟨i, isWho, drawn.mono right.record⟩

omit [Interpreter] in
theorem Stretch.weaken {who others : ι → Prop} (stretch : Stretch who before after)
    (implies : ∀ i, who i → others i) : Stretch others before after where
  record := stretch.record
  proceeds := stretch.proceeds
  quoted key absent present := by
    rcases stretch.quoted key absent present with ⟨i, isWho, drawn⟩
    exact ⟨i, implies i isWho, drawn⟩

omit [Interpreter] in
theorem stretch_answered (who : ι → Prop) (scene : Scene interface SutState ι) (i : ι)
    (question : interface.Ask) (given : interface.Answer question) :
    Stretch who scene (scene.answered i question given) where
  record := List.subset_append_left _ _
  proceeds := Proceeds.refl _
  quoted _ absent present := absurd absent present

/-- Tokens are not drawn twice. -/
def Fresh (record : Record interface ι) (question : interface.Ask)
    (given : interface.Answer question) : Prop :=
  ∀ drawn : Ask.Answer (.tokenHex 8), (⟨question, given⟩ : Σ asked, interface.Answer asked) =
    ⟨Ask.tokenHex 8, drawn⟩ → ∀ i, (i, ⟨Ask.tokenHex 8, drawn⟩) ∉ record

theorem Sound.answered (sound : sut.Sound requests before) {question : interface.Ask}
    {given : interface.Answer question} (fresh : Fresh before.2 question given) :
    sut.Sound requests (before.answered i question given) where
  backed key order found := (sound.backed key order found).mono (List.subset_append_left _ _)
  drawn := by
    have earlier : ∀ {j key} {drawn : Ask.Answer (.tokenHex 8)},
        (j, ⟨Ask.tokenHex 8, drawn⟩) ∈ (before.answered i question given).2 →
        key = "ord_".toList ++ String.toList drawn → Drawn before.2 j key ∨
          (j = i ∧ (⟨question, given⟩ : Σ asked, interface.Answer asked) =
            ⟨Ask.tokenHex 8, drawn⟩) := by
      intro j key drawn mem same
      rcases List.mem_append.mp mem with old | new
      · exact Or.inl ⟨drawn, old, same⟩
      · rcases Prod.mk.inj (List.mem_singleton.mp new) with ⟨isThread, isEntry⟩
        exact Or.inr ⟨isThread, isEntry.symm⟩
    rintro j k key ⟨drawn, mem, same⟩ ⟨drawn', mem', same'⟩
    have digits : drawn = drawn' := by
      have equal := List.append_cancel_left (same.symm.trans same')
      exact String.toList_injective equal
    rcases earlier mem same with old | ⟨rfl, isEntry⟩
    · rcases earlier mem' same' with old' | ⟨rfl, isEntry'⟩
      · exact sound.drawn _ _ _ old old'
      · rcases old with ⟨other, otherMem, otherSame⟩
        have equal : other = drawn' := String.toList_injective
          (List.append_cancel_left (otherSame.symm.trans same'))
        exact absurd (equal ▸ otherMem) (fresh drawn' isEntry' j)
    · rcases earlier mem' same' with ⟨other, otherMem, otherSame⟩ | ⟨rfl, _⟩
      · have equal : other = drawn := String.toList_injective
          (List.append_cancel_left (otherSame.symm.trans same))
        exact absurd (equal ▸ otherMem) (fresh drawn isEntry k)
      · rfl

variable (sut requests) in
/-- The discipline of the service: a request only books orders under ids that it has drawn. -/
def discipline : Discipline interface SutState ι where
  allowed := Fresh
  inv := sut.Sound requests
  rely i := Stretch (· ≠ i)
  guar i before after := Stretch (· = i) before after ∧
    (sut.Sound requests before → sut.Sound requests after)
  rely_refl _ _ :=
    ⟨List.Subset.refl _, Proceeds.refl _, fun _ absent present => absurd absent present⟩
  rely_trans := Stretch.trans
  rely_answer i scene question given _ := stretch_answered _ scene i question given
  guar_answer i scene question given fresh :=
    ⟨stretch_answered _ scene i question given, fun sound => sound.answered fresh⟩
  compatible different guar := guar.1.weaken fun _ same => same ▸ Ne.symm different
  remembers := Stretch.record
  keeps guar sound := guar.2 sound

/-! ### A payment among others -/

variable (sut requests) in
/-- The thread has kept to the discipline since its last answer. -/
structure Kept (i : ι) (since now : Scene interface SutState ι) : Prop where
  stretch : Stretch (· = i) since now
  sound : sut.Sound requests now

/-- The ledger lists the order with the quote that a request has read. -/
def Listed (state : SutState) (order : Order) : Prop :=
  ∃ current, state.orders.lookup order.orderId = some current ∧ order.SameQuote current

/-- The ledger lists the order as paid. -/
def Paid (state : SutState) (orderId : Str) : Prop :=
  ∃ order, state.orders.lookup orderId = some order ∧ order.paid = true

variable {since now since' now' : Scene interface SutState ι} {said : Conversation}
  {order : Order} {authorization : Fields} {txHash key : Str} {state later : SutState}

theorem Kept.guar (kept : sut.Kept requests i since now) :
    (sut.discipline requests).guar i since now :=
  ⟨kept.stretch, fun _ => kept.sound⟩

theorem kept_self {scene : Scene interface SutState ι} (sound : sut.Sound requests scene) :
    sut.Kept requests i scene scene :=
  ⟨⟨List.Subset.refl _, Proceeds.refl _, fun _ absent present => absurd absent present⟩, sound⟩

/-- After further questions the thread still keeps to the discipline. -/
theorem Kept.passes (kept : sut.Kept requests i since now)
    (passes : (sut.discipline requests).Passes i since now said since' now') :
    sut.Kept requests i since' now' :=
  ⟨(passes.guar kept.guar).1, passes.inv kept.sound⟩

omit [Interpreter] in
theorem Listed.proceeds (listed : Listed state order) (proceeds : Proceeds state later) :
    Listed later order := by
  rcases listed with ⟨current, found, same⟩
  rcases proceeds _ current found with ⟨changed, foundLater, advances⟩
  exact ⟨changed, foundLater, advances.orderId.trans same.orderId,
    advances.amount.trans same.amount, advances.expiresAt.trans same.expiresAt,
    advances.quotedFairPrice.trans same.quotedFairPrice,
    advances.createdBlock.trans same.createdBlock, advances.recovered.trans same.recovered⟩

omit [Interpreter] in
theorem Paid.proceeds {orderId : Str} (paid : Paid state orderId)
    (proceeds : Proceeds state later) : Paid later orderId := by
  rcases paid with ⟨order, found, isPaid⟩
  rcases proceeds _ order found with ⟨changed, foundLater, advances⟩
  exact ⟨changed, foundLater, advances.paid isPaid⟩

omit [Interpreter] in
theorem proceeds_alterOrder {update : Order → Order}
    (advances : ∀ current, state.orders.lookup key = some current →
      Advances current (update current)) : Proceeds state (alterOrder state key update) := by
  intro other order found
  rw [alterOrder, Dict.lookup_alter]
  split_ifs with same
  · subst same
    rw [found]
    exact ⟨_, rfl, advances order found⟩
  · exact ⟨order, found, Advances.refl order⟩

/-- A change of one order that the record backs. -/
theorem Kept.alter (kept : sut.Kept requests i since now) {update : Order → Order}
    (backs : ∀ current, now.1.orders.lookup key = some current →
      sut.Backed requests now.2 key current →
        Advances current (update current) ∧ sut.Backed requests now.2 key (update current)) :
    sut.Kept requests i since (alterOrder now.1 key update, now.2) := by
  have advances : ∀ current, now.1.orders.lookup key = some current →
      Advances current (update current) := fun current found =>
    (backs current found (kept.sound.backed key current found)).1
  refine ⟨kept.stretch.trans ⟨List.Subset.refl _, proceeds_alterOrder advances, ?_⟩, ?_,
    kept.sound.drawn⟩
  · intro other absent present
    dsimp only at present
    rw [alterOrder, Dict.lookup_alter] at present
    split_ifs at present with same
    · rw [← same, absent] at present
      exact absurd rfl present
    · exact absurd absent present
  · intro other order found
    dsimp only at found
    rw [alterOrder, Dict.lookup_alter] at found
    split_ifs at found with same
    · subst same
      rcases Option.map_eq_some_iff.mp found with ⟨current, isCurrent, rfl⟩
      exact (backs current isCurrent (kept.sound.backed _ current isCurrent)).2
    · exact kept.sound.backed other order found

/-- What a payment answers is so. -/
def Confirms (state : SutState) : PayResponse → Prop
  | .alreadySettled orderId _ => Paid state orderId
  | .judged orderId _ settled => settled = true → Paid state orderId
  | _ => True

variable (sut requests) in
/-- How a payment ends. -/
def PayEnds (i : ι) (result : Except PyError PayResponse)
    (since now : Scene interface SutState ι) : Prop :=
  sut.Kept requests i since now ∧ ∀ response, result = .ok response → Confirms now.1 response

theorem payEnds_error (kept : sut.Kept requests i since now) (error : PyError) :
    sut.PayEnds requests i (.error error) since now := by
  refine ⟨kept, ?_⟩
  rintro _ ⟨⟩

theorem payEnds_ok (kept : sut.Kept requests i since now) {response : PayResponse}
    (confirms : Confirms now.1 response) : sut.PayEnds requests i (.ok response) since now := by
  refine ⟨kept, ?_⟩
  rintro _ ⟨⟩
  exact confirms

omit [Interpreter] in
theorem advances_resolved (current : Order) : Advances current current.resolved :=
  ⟨⟨rfl, rfl, rfl, rfl, rfl, rfl⟩, id, le_refl _⟩

omit [Interpreter] in
theorem advances_unlocked (current : Order) : Advances current current.unlocked :=
  ⟨⟨rfl, rfl, rfl, rfl, rfl, rfl⟩, fun _ => rfl, le_refl _⟩

omit [Interpreter] in
theorem advances_identified (identity : SettlementIdentity) (current : Order) :
    Advances current (current.identified identity) :=
  ⟨⟨rfl, rfl, rfl, rfl, rfl, rfl⟩, id, le_refl _⟩

/-- What is backed stays so when the order changes in nothing but what it waits for and what was
attempted. -/
theorem Backed.congr {record : Record interface ι} {current changed : Order}
    (backed : sut.Backed requests record key current) (same : current.SameQuote changed)
    (samePaid : changed.paid = current.paid) (sameResource : changed.resource = current.resource)
    (sameIdentity : changed.settlementIdentity = current.settlementIdentity)
    (pending : ∀ txHash authorization, changed.pendingTx = some txHash →
      changed.pendingAuthorization = some authorization →
        sut.Sent requests record key authorization txHash) :
    sut.Backed requests record key changed where
  keyed := same.orderId.trans backed.keyed
  drawn := backed.drawn
  pending := pending
  paid paid := by
    rcases backed.paid (samePaid ▸ paid) with ⟨content, txHash, index, settles⟩
    exact ⟨sameResource.trans content, txHash, index, settles.congr same⟩
  unpaid unpaid := sameResource.trans (backed.unpaid (samePaid ▸ unpaid))
  identity identity isIdentity := by
    rcases backed.identity identity (sameIdentity ▸ isIdentity) with
      ⟨txHash, index, settles, isSame⟩
    exact ⟨txHash, index, settles.congr same, isSame⟩

theorem Backed.resolved {record : Record interface ι} {current : Order}
    (backed : sut.Backed requests record key current) :
    sut.Backed requests record key current.resolved := by
  refine backed.congr (advances_resolved current).toSameQuote rfl rfl rfl ?_
  rintro _ _ ⟨⟩

/-- An order can be released when payments have settled it. -/
theorem Backed.unlocked {record : Record interface ι} {current : Order} {index : ℤ}
    (backed : sut.Backed requests record key current)
    (settles : sut.Settles requests record current txHash index) :
    sut.Backed requests record key current.unlocked where
  keyed := backed.keyed
  drawn := backed.drawn
  pending := backed.pending
  paid _ := by
    refine ⟨?_, txHash, index, settles.congr (advances_unlocked current).toSameQuote⟩
    rw [Order.unlocked, backed.keyed]
  unpaid := by
    rintro ⟨⟩
  identity identity isIdentity := by
    rcases backed.identity identity isIdentity with ⟨txHash, index, settles, same⟩
    exact ⟨txHash, index, settles.congr (advances_unlocked current).toSameQuote, same⟩

/-- The settlement of an order can be booked when payments have settled it. -/
theorem Backed.identified {record : Record interface ι} {current : Order} {index : ℤ}
    (backed : sut.Backed requests record key current)
    (settles : sut.Settles requests record current txHash index) :
    sut.Backed requests record key (current.identified
      ⟨sut.config.chainId, lower sut.config.tokenAddress, lower txHash, index⟩) where
  keyed := backed.keyed
  drawn := backed.drawn
  pending := backed.pending
  paid paid := by
    rcases backed.paid paid with ⟨content, txHash, index, settles⟩
    exact ⟨content, txHash, index, settles.congr (advances_identified _ current).toSameQuote⟩
  unpaid := backed.unpaid
  identity := by
    rintro _ ⟨⟩
    exact ⟨txHash, index, settles.congr (advances_identified _ current).toSameQuote, rfl⟩

/-- The confirmer only finds what a receipt proves. -/
theorem settledBy_of_found {settlement : Settlement} {receipt : Option Fields} {index : ℤ}
    (watched : Watched settlement receipt said (.ok (some index))) :
    ∃ fields, receipt = some fields ∧ SettledBy settlement fields index := by
  cases receipt with
  | none => cases (watched_none_iff.mp watched).2
  | some fields => exact ⟨fields, rfl, settledBy_of_watched watched⟩

theorem Listed.settles {record : Record interface ι} {index : ℤ} (listed : Listed state order)
    (settles : sut.Settles requests record order txHash index) {other : Order}
    (found : state.orders.lookup order.orderId = some other) :
    sut.Settles requests record other txHash index := by
  rcases listed with ⟨current, isCurrent, same⟩
  cases isCurrent.symm.trans found
  exact settles.congr same

/-- The settlement that was found is released and booked. -/
theorem goes_book {index : ℤ} (kept : sut.Kept requests i since now) (listed : Listed now.1 order)
    (shape : isExactHex 64 txHash = true)
    (settles : sut.Settles requests now.2 order txHash index) :
    (sut.discipline requests).Goes i (sut.PayEnds requests i) (do
      changeOrder order.orderId fun order =>
        { order with
          paid := true
          resource := some ("premium-content::".toList ++ order.orderId) }
      let identity ← lift (settlementIdentity sut.config.chainId sut.config.tokenAddress txHash
        index)
      changeOrder order.orderId fun order => { order with settlementIdentity := some identity }
      return .judged order.orderId txHash true) since now := by
  have released : sut.Kept requests i since
      (alterOrder now.1 order.orderId Order.unlocked, now.2) :=
    kept.alter fun current found backed =>
      ⟨advances_unlocked current, backed.unlocked (listed.settles settles found)⟩
  have listedReleased : Listed (alterOrder now.1 order.orderId Order.unlocked) order :=
    listed.proceeds (proceeds_alterOrder fun current _ => advances_unlocked current)
  refine goes_modify_bind (goes_lift_bind ?_ fun error _ => payEnds_error released error)
  intro identity identified
  rcases (settlementIdentity_eq_ok_iff sut.exact shape).mp identified with ⟨_, _, _, rfl⟩
  have booked : sut.Kept requests i since (alterOrder
      (alterOrder now.1 order.orderId Order.unlocked) order.orderId (Order.identified
        ⟨sut.config.chainId, lower sut.config.tokenAddress, lower txHash, index⟩), now.2) :=
    released.alter fun current found backed =>
      ⟨advances_identified _ current, backed.identified (listedReleased.settles settles found)⟩
  refine goes_modify_bind (payEnds_ok booked fun _ => ?_)
  rcases listed with ⟨current, found, _⟩
  have paid : Paid (alterOrder now.1 order.orderId Order.unlocked) order.orderId := by
    refine ⟨current.unlocked, ?_, rfl⟩
    rw [alterOrder, Dict.lookup_alter_self, found]
    rfl
  exact paid.proceeds (proceeds_alterOrder fun other _ => advances_identified _ other)

/-- A judgment among other requests. -/
theorem goes_judge {receipt : Option Fields} (kept : sut.Kept requests i since now)
    (listed : Listed now.1 order)
    (sent : sut.Sent requests now.2 order.orderId authorization txHash)
    (seen : ∀ fields, receipt = some fields → Seen requests now.2 order.orderId txHash fields) :
    (sut.discipline requests).Goes i (sut.PayEnds requests i)
      (sut.judge order authorization txHash receipt) since now := by
  rw [judge_eq]
  have resolved : sut.Kept requests i since
      (alterOrder now.1 order.orderId Order.resolved, now.2) :=
    kept.alter fun current _ backed => ⟨advances_resolved current, backed.resolved⟩
  have listedResolved : Listed (alterOrder now.1 order.orderId Order.resolved) order :=
    listed.proceeds (proceeds_alterOrder fun current _ => advances_resolved current)
  refine goes_modify_bind (goes_lift_bind ?_ fun error _ => payEnds_error resolved error)
  intro settlement read
  refine Goes.stateless_bind stateless_confirmer resolved.guar ?_ ?_
  · intro found said since' now' watched passes
    have kept' := resolved.passes passes
    cases found with
    | none => exact payEnds_ok kept' (fun impossible => absurd impossible Bool.false_ne_true)
    | some index =>
      rcases settledBy_of_found watched with ⟨fields, isReceipt, settled⟩
      have record := passes.rely.record
      have listed' := listedResolved.proceeds passes.rely.proceeds
      refine goes_book kept' listed' sent.shape
        ⟨authorization, settlement, fields, sent.mono record, ?_, read, settled⟩
      rcases seen fields isReceipt with ⟨shape, j, other, asked, mem⟩
      exact ⟨shape, j, other, asked, record mem⟩
  · intro error said since' now' _ passes
    exact payEnds_error (resolved.passes passes) error

omit [Interpreter] in
theorem advances_waiting (txHash : Str) (authorization : Fields) (current : Order) :
    Advances current (current.waiting txHash authorization) :=
  ⟨⟨rfl, rfl, rfl, rfl, rfl, rfl⟩, id, le_refl _⟩

/-- An order can wait for what a payment of it has broadcast. -/
theorem Backed.waiting {record : Record interface ι} {current : Order}
    (backed : sut.Backed requests record key current)
    (sent : sut.Sent requests record key authorization txHash) :
    sut.Backed requests record key (current.waiting txHash authorization) := by
  refine backed.congr (advances_waiting _ _ current).toSameQuote rfl rfl rfl ?_
  rintro _ _ ⟨⟩ ⟨⟩
  exact sent

/-- A confirmation among other requests. -/
theorem goes_confirm {paying : Fields} (kept : sut.Kept requests i since now)
    (listed : Listed now.1 order) (asked : requests i = .pay order.orderId paying)
    (sent : sut.Sent requests now.2 order.orderId authorization txHash) :
    (sut.discipline requests).Goes i (sut.PayEnds requests i)
      (sut.confirm order authorization txHash) since now := by
  rw [confirm]
  split_ifs with hasty
  · refine goes_judge kept listed sent ?_
    rintro _ ⟨⟩
  · refine Goes.attempt_bind stateless_waitForReceipt kept.guar ?_
    intro outcome said since' now' told passes
    have kept' := kept.passes passes
    have listed' := listed.proceeds passes.rely.proceeds
    have sent' := sent.mono passes.rely.record
    cases outcome with
    | ok receipt =>
      refine goes_judge kept' listed' sent' ?_
      rintro _ ⟨⟩
      rcases waitForReceipt_tells_iff.mp told with ⟨_, ⟨early, _, rfl⟩, shape⟩
      exact ⟨shape, i, paying, asked, passes.recorded _
        (List.mem_append_right _ (List.mem_singleton.mpr rfl))⟩
    | error error =>
      dsimp only
      split_ifs with caught
      · have waits : sut.Kept requests i since'
            (alterOrder now'.1 order.orderId (Order.waiting txHash authorization), now'.2) :=
          kept'.alter fun current _ backed =>
            ⟨advances_waiting _ _ current, backed.waiting sent'⟩
        exact goes_modify_bind (payEnds_ok waits trivial)
      · exact payEnds_error kept' error

omit [Interpreter] in
theorem advances_attempted (nonce : Str) (current : Order) :
    Advances current (current.attempted nonce) :=
  ⟨⟨rfl, rfl, rfl, rfl, rfl, rfl⟩, id, Nat.le_succ _⟩

omit [Interpreter] in
theorem advances_submitted (txHash : Str) (current : Order) :
    Advances current (current.submitted txHash) :=
  ⟨⟨rfl, rfl, rfl, rfl, rfl, rfl⟩, id, le_refl _⟩

/-- A settlement among other requests. -/
theorem goes_settle (kept : sut.Kept requests i since now) (listed : Listed now.1 order)
    (asked : requests i = .pay order.orderId authorization) :
    (sut.discipline requests).Goes i (sut.PayEnds requests i) (sut.settle order authorization)
      since now := by
  rw [settle]
  refine Goes.stateless_bind (stateless_question _) kept.guar ?_
    fun error _ _ _ _ passes => payEnds_error (kept.passes passes) error
  intro clock _ since' now' _ passes
  have kept' := kept.passes passes
  have listed' := listed.proceeds passes.rely.proceeds
  split_ifs with late
  · exact payEnds_ok kept' trivial
  · refine goes_state_bind (goes_lift_bind ?_ fun error _ => payEnds_error kept' error)
    intro stale _
    split_ifs with isStale
    · exact payEnds_ok kept' trivial
    · refine goes_lift_bind ?_ fun error _ => payEnds_error kept' error
      intro nonce _
      have attempted : sut.Kept requests i since'
          (alterOrder now'.1 order.orderId (Order.attempted nonce), now'.2) :=
        kept'.alter fun current _ backed => ⟨advances_attempted nonce current,
          backed.congr (advances_attempted nonce current).toSameQuote rfl rfl rfl backed.pending⟩
      have listedAttempted : Listed (alterOrder now'.1 order.orderId (Order.attempted nonce))
          order := listed'.proceeds (proceeds_alterOrder fun current _ =>
        advances_attempted nonce current)
      refine goes_modify_bind (Goes.stateless_bind stateless_submitSettlement attempted.guar ?_
        fun error _ _ _ _ passes => payEnds_error (attempted.passes passes) error)
      intro txHash sent since'' now'' told passes
      have kept'' := attempted.passes passes
      have submitted : sut.Kept requests i since''
          (alterOrder now''.1 order.orderId (Order.submitted txHash), now''.2) :=
        kept''.alter fun current _ backed => ⟨advances_submitted txHash current,
          backed.congr (advances_submitted txHash current).toSameQuote rfl rfl rfl backed.pending⟩
      have listedSubmitted : Listed (alterOrder now''.1 order.orderId (Order.submitted txHash))
          order := (listedAttempted.proceeds passes.rely.proceeds).proceeds
        (proceeds_alterOrder fun current _ => advances_submitted txHash current)
      refine goes_modify_bind (goes_confirm submitted listedSubmitted asked ?_)
      rcases accepted_of_submitted told with ⟨accepted, raw, mem⟩
      exact ⟨accepted, i, raw, asked, passes.recorded _ mem⟩

/-- A payment among other requests. -/
theorem goes_pay {orderId : Str} (kept : sut.Kept requests i since now)
    (asked : requests i = .pay orderId authorization) :
    (sut.discipline requests).Goes i (sut.PayEnds requests i) (sut.pay orderId authorization)
      since now := by
  rw [pay]
  refine goes_state_bind ?_
  cases found : now.1.orders.lookup orderId with
  | none => exact payEnds_ok kept trivial
  | some order =>
    have backed := kept.sound.backed orderId order found
    have keyed := backed.keyed
    have listed : Listed now.1 order :=
      ⟨order, keyed.symm ▸ found, rfl, rfl, rfl, rfl, rfl, rfl⟩
    dsimp only
    split_ifs with settled
    · rw [Bool.and_eq_true] at settled
      exact payEnds_ok kept ⟨order, keyed.symm ▸ found, settled.1⟩
    · cases inFlight : sut.inFlight order with
      | none => exact goes_settle kept listed (keyed.symm ▸ asked)
      | some waiting =>
        rcases waiting with ⟨original, txHash⟩
        rcases inFlight_eq_some_iff.mp inFlight with ⟨isTx, isAuthorization, _⟩
        refine goes_confirm kept listed (keyed.symm ▸ asked) ?_
        rw [keyed]
        exact backed.pending _ _ isTx isAuthorization

/-! ### A quote among others -/

-- the bound on the digits of an integer is not to be evaluated
attribute [local irreducible] showInt

/-- Nobody else books an order under an id that a request has drawn. -/
theorem unbooked_of_drawn (sound : sut.Sound requests after) (drawn : Drawn before.2 i key)
    (absent : before.1.orders.lookup key = none) (rely : Stretch (· ≠ i) before after) :
    after.1.orders.lookup key = none := by
  by_contra present
  rcases rely.quoted key absent present with ⟨j, other, byOther⟩
  exact other (sound.drawn _ _ _ byOther (drawn.mono rely.record))

/-- An id that has just been drawn is new. -/
theorem unbooked_of_fresh (sound : sut.Sound requests before) {drawn : Ask.Answer (.tokenHex 8)}
    (fresh : Fresh before.2 (Ask.tokenHex 8) drawn) :
    before.1.orders.lookup ("ord_".toList ++ String.toList drawn) = none := by
  by_contra present
  rcases Option.ne_none_iff_exists'.mp present with ⟨order, found⟩
  rcases (sound.backed _ order found).drawn with ⟨j, other, mem, same⟩
  have equal : drawn = other := String.toList_injective (List.append_cancel_left same)
  exact fresh drawn rfl j (equal ▸ mem)

/-- A new order under an id that the request has drawn. -/
theorem Kept.book (kept : sut.Kept requests i since now) (drawn : Drawn now.2 i key)
    (absent : now.1.orders.lookup key = none)
    (backed : sut.Backed requests now.2 key order) :
    sut.Kept requests i since
      ({ now.1 with orders := now.1.orders.setItem key order }, now.2) := by
  refine ⟨kept.stretch.trans ⟨List.Subset.refl _, ?_, ?_⟩, ?_, kept.sound.drawn⟩
  · intro other current found
    have different : other ≠ key := by
      rintro rfl
      cases absent.symm.trans found
    refine ⟨current, ?_, Advances.refl current⟩
    rw [Dict.lookup_setItem, if_neg different]
    exact found
  · intro other absent' present
    dsimp only at present
    rw [Dict.lookup_setItem] at present
    split_ifs at present with same
    · exact ⟨i, rfl, same ▸ drawn⟩
    · exact absurd absent' present
  · intro other current found
    dsimp only at found
    rw [Dict.lookup_setItem] at found
    split_ifs at found with same
    · cases found
      exact same ▸ backed
    · exact kept.sound.backed other current found

variable (sut requests) in
/-- How a request ends that answers nothing about payments. -/
def QuoteEnds (i : ι) (_ : Except PyError QuoteResponse)
    (since now : Scene interface SutState ι) : Prop :=
  sut.Kept requests i since now

/-- A request for a quote among others. -/
theorem goes_quote (kept : sut.Kept requests i since now) :
    (sut.discipline requests).Goes i (sut.QuoteEnds requests i) sut.quote since now := by
  rw [quote]
  refine goes_question_bind kept.guar fun before sound _ drawn fresh => ?_
  have answered : sut.Kept requests i before (before.answered i (Ask.tokenHex 8) drawn) :=
    ⟨stretch_answered _ before i _ drawn, sound.answered fresh⟩
  have isDrawn : Drawn (before.answered i (Ask.tokenHex 8) drawn).2 i
      ("ord_".toList ++ String.toList drawn) :=
    ⟨drawn, List.mem_append_right _ (List.mem_singleton.mpr rfl), rfl⟩
  refine Goes.stateless_bind (stateless_question _) answered.guar ?_
    fun _ _ _ _ _ passes => answered.passes passes
  intro clock _ since' now' _ passes
  have kept' := answered.passes passes
  have absent' := unbooked_of_drawn kept'.sound isDrawn (unbooked_of_fresh sound fresh) passes.rely
  have isDrawn' := isDrawn.mono passes.rely.record
  refine goes_state_bind (Goes.stateless_bind stateless_blockNumber kept'.guar ?_
    fun _ _ _ _ _ passes => kept'.passes passes)
  intro createdBlock _ since'' now'' _ passes'
  have kept'' := kept'.passes passes'
  have absent'' := unbooked_of_drawn kept''.sound isDrawn' absent' passes'.rely
  have isDrawn'' := isDrawn'.mono passes'.rely.record
  have booked : sut.Kept requests i since'' ({ now''.1 with
      orders := now''.1.orders.setItem ("ord_".toList ++ String.toList drawn)
        { orderId := "ord_".toList ++ String.toList drawn, amount := sut.config.price,
          expiresAt := clock.1 + sut.config.quoteTtl, quotedFairPrice := now'.1.fairPrice,
          createdBlock := createdBlock } }, now''.2) := by
    refine kept''.book isDrawn'' absent'' ⟨rfl, ⟨i, isDrawn''⟩, ?_, ?_, fun _ => rfl, ?_⟩
    · rintro _ _ ⟨⟩
    · rintro ⟨⟩
    · rintro _ ⟨⟩
  refine goes_modify_bind (goes_lift_bind (fun amount _ => ?_) fun _ _ => booked)
  exact goes_lift_bind (fun chainId _ => booked) fun _ _ => booked

/-! ### Every interleaving -/

/-- What a request was told is so. -/
def Told (state : SutState) : Request → Reply → Prop
  | .pay _ _, .paid response => Confirms state response
  | .status orderId, .status response => response.paid = true → Paid state orderId
  | .resource orderId, .resource code content => code = 200 →
      Paid state orderId ∧ content = some ("premium-content::".toList ++ orderId)
  | _, _ => True

omit [Interpreter] in
theorem Confirms.proceeds {response : PayResponse} (confirms : Confirms state response)
    (proceeds : Proceeds state later) : Confirms later response := by
  cases response with
  | alreadySettled => exact Paid.proceeds confirms proceeds
  | judged => exact fun settled => (confirms settled).proceeds proceeds
  | _ => trivial

omit [Interpreter] in
theorem Told.proceeds {request : Request} {reply : Reply} (told : Told state request reply)
    (proceeds : Proceeds state later) : Told later request reply := by
  cases request with
  | quote => trivial
  | pay =>
    cases reply with
    | paid => exact Confirms.proceeds told proceeds
    | _ => trivial
  | status =>
    cases reply with
    | status => exact fun paid => (told paid).proceeds proceeds
    | _ => trivial
  | resource =>
    cases reply with
    | resource => exact fun isOk => ⟨(told isOk).1.proceeds proceeds, (told isOk).2⟩
    | _ => trivial

/-- What a request has ended with. -/
def Served (requests : ι → Request) (i : ι) (result : Except PyError Reply)
    (scene : Scene interface SutState ι) : Prop :=
  ∀ reply, result = .ok reply → Told scene.1 (requests i) reply

theorem ends_served {result : Except PyError Reply} (kept : sut.Kept requests i since now)
    (told : ∀ reply, result = .ok reply → Told now.1 (requests i) reply) :
    (sut.discipline requests).Ends (Served requests) i result since now :=
  ⟨kept.guar, fun _ _ rely reply same => (told reply same).proceeds rely.proceeds⟩

omit [Interpreter] in
theorem paid_of_statusOf {orderId : Str} (paid : (statusOf state.orders orderId).paid = true) :
    Paid state orderId := by
  rw [statusOf] at paid
  cases found : state.orders.lookup orderId with
  | none =>
    rw [found] at paid
    cases paid
  | some order =>
    rw [found] at paid
    exact ⟨order, found, paid⟩

/-- A resource is delivered of a paid order, and it is the resource of the order. -/
theorem released_of_statusOf {orderId : Str} (kept : sut.Kept requests i since now)
    (isOk : (if (statusOf now.1.orders orderId).paid then
      (200, (statusOf now.1.orders orderId).resource) else (402, none)).1 = 200) :
    Paid now.1 orderId ∧ (if (statusOf now.1.orders orderId).paid then
      (200, (statusOf now.1.orders orderId).resource) else (402, none)).2 =
        some ("premium-content::".toList ++ orderId) := by
  split_ifs at isOk ⊢ with paid
  · rcases paid_of_statusOf paid with ⟨order, found, isPaid⟩
    refine ⟨⟨order, found, isPaid⟩, ?_⟩
    rw [statusOf, found]
    exact ((kept.sound.backed orderId order found).paid isPaid).1
  · cases isOk

/-- Every request keeps to the discipline. -/
theorem goes_serve (kept : sut.Kept requests i since now) :
    (sut.discipline requests).Goes i ((sut.discipline requests).Ends (Served requests) i)
      (sut.serve (requests i)) since now := by
  cases asked : requests i with
  | quote =>
    refine Goes.bind (goes_quote kept) (fun response _ _ kept => ends_served kept ?_)
      fun error _ _ kept => ends_served kept ?_
    · rintro _ ⟨⟩
      rw [asked]
      trivial
    · rintro _ ⟨⟩
  | pay orderId authorization =>
    refine Goes.bind (goes_pay kept asked) (fun response _ _ ended => ends_served ended.1 ?_)
      fun error _ _ ended => ends_served ended.1 ?_
    · rintro _ ⟨⟩
      rw [asked]
      exact ended.2 response rfl
    · rintro _ ⟨⟩
  | status orderId =>
    refine ends_served kept ?_
    rintro _ ⟨⟩
    rw [asked]
    exact paid_of_statusOf
  | resource orderId =>
    refine ends_served kept ?_
    rintro _ ⟨⟩
    rw [asked]
    exact released_of_statusOf kept

/-- The service before any request has started. -/
def opened (sut : ReferenceSut) (requests : ι → Request) (fairPrice : ℤ) :
    Pool interface SutState PyError Reply (Record interface ι) ι where
  threads i := ⟨sut.serve (requests i), false, []⟩
  shared := ⟨∅, fairPrice⟩
  world := []

/-- Any answers, except that no token is drawn twice; everything that is said is recorded. -/
def anyAnswers : Answers interface (Record interface ι) ι := fun i record question given later =>
  Fresh record question given ∧ later = record ++ [(i, ⟨question, given⟩)]

theorem safe_opened (sut : ReferenceSut) (requests : ι → Request) (fairPrice : ℤ) :
    (sut.discipline requests).Safe (Served requests) (sut.opened requests fairPrice) := by
  refine safe_of_fresh ⟨?_, ?_⟩ (fun _ => rfl) fun i scene sound => goes_serve (kept_self sound)
  · intro key order found
    cases found
  · rintro i j key ⟨drawn, mem, _⟩
    cases mem

/-- What the stretches of the threads do to the ledger, taken together. -/
theorem proceeds_of_stretches
    (steps : Relation.ReflTransGen (fun before after => ∃ i, (sut.discipline requests).guar i before
      after) before after) : Proceeds before.1 after.1 := by
  induction steps with
  | refl => exact Proceeds.refl _
  | tail _ step ih =>
    rcases step with ⟨i, guar⟩
    exact ih.trans guar.1.proceeds

variable [DecidableEq ι] {fairPrice : ℤ}
  {pool final : Pool interface SutState PyError Reply (Record interface ι) ι}

/-- In every interleaving of any number of requests: what the ledger calls paid was broadcast by
a payment of the order and seen to be settled by one, the settlement it names is such a one, and
a resource is only delivered of an order that was settled so. -/
theorem release_in_every_order
    (reaches : Reaches anyAnswers (sut.opened requests fairPrice) pool) :
    (∀ key order, pool.shared.orders.lookup key = some order → order.orderId = key ∧
      (order.paid = true → ∃ txHash index, sut.Settles requests pool.world order txHash index) ∧
      ∀ identity, order.settlementIdentity = some identity → ∃ txHash index,
        sut.Settles requests pool.world order txHash index ∧
          identity = ⟨sut.config.chainId, lower sut.config.tokenAddress, lower txHash, index⟩) ∧
    ∀ i orderId content, requests i = .resource orderId → (pool.threads i).started = true →
      (pool.threads i).program = .ret (.resource 200 content) →
        content = some ("premium-content::".toList ++ orderId) ∧
        ∃ order txHash index, pool.shared.orders.lookup orderId = some order ∧
          sut.Settles requests pool.world order txHash index := by
  have safe := ((safe_opened sut requests fairPrice).reaches reaches).2
  have backed := safe.inv.backed
  refine ⟨fun key order found => ?_, fun i orderId content asked running ended => ?_⟩
  · have isBacked := backed key order found
    exact ⟨isBacked.keyed, fun paid => (isBacked.paid paid).2, isBacked.identity⟩
  · have told := safe.ended running ended _ rfl
    rw [asked] at told
    rcases told rfl with ⟨⟨order, found, paid⟩, isContent⟩
    rcases ((backed orderId order found).paid paid).2 with ⟨txHash, index, settles⟩
    exact ⟨isContent, order, txHash, index, found, settles⟩

/-- From any moment to any later one: orders stay in the ledger with the quote that they were
booked with, what is paid stays paid, and what a request was told about payments stays so. -/
theorem orders_proceed (reaches : Reaches anyAnswers (sut.opened requests fairPrice) pool)
    (more : Reaches anyAnswers pool final) :
    Proceeds pool.shared final.shared ∧
      ∀ i reply, (pool.threads i).started = true → (pool.threads i).program = .ret reply →
        Told final.shared (requests i) reply := by
  have safe := ((safe_opened sut requests fairPrice).reaches reaches).2
  have proceeds := proceeds_of_stretches (safe.reaches more).1
  exact ⟨proceeds, fun i reply running ended =>
    (safe.ended running ended reply rfl).proceeds proceeds⟩

end Discipline

/-! ### A sample of a quote, two payments, a status request amid the second one and a delivery -/

section Sample

/-- A request to the sample service. -/
def sampleRequests : ℕ → Request
  | 0 => .quote
  | 3 => .resource sampleOrderId
  | 4 => .status sampleOrderId
  | _ => .pay sampleOrderId sampleAuthorization

/-- The question draws a token. -/
def drawsToken : interface.Ask → Bool
  | .tokenHex _ => true
  | _ => false

omit [Interpreter] in
/-- What is said without a token being drawn may be said. -/
theorem through_anyAnswers {ι : Type} {i : ι} {record : Record interface ι} {said : Conversation}
    (undrawn : ∀ entry ∈ said, drawsToken entry.1 = false) :
    Through (anyAnswers i) record said (record ++ said.map (i, ·)) := by
  induction said generalizing record with
  | nil => exact List.append_nil record
  | cons entry rest ih =>
    rcases List.forall_mem_cons.mp undrawn with ⟨here, later⟩
    refine ⟨record ++ [(i, entry)], ⟨?_, rfl⟩, ?_⟩
    · rintro drawn same
      rw [congrArg Sigma.fst same] at here
      cases here
    · have goesOn := @ih (record ++ [(i, entry)]) later
      rw [List.append_assoc] at goesOn
      exact goesOn

omit [Interpreter] in
/-- What is said when the sample order is quoted may be said at first. -/
theorem through_sampleQuoting :
    Through (anyAnswers 0) ([] : Record interface ℕ) sampleQuoting (sampleQuoting.map (0, ·)) := by
  refine ⟨[(0, ⟨Ask.tokenHex 8, ("01" : String)⟩)], ⟨?_, rfl⟩, through_anyAnswers ?_⟩
  · rintro drawn same i ⟨⟩
  · intro entry mem
    rcases List.mem_cons.mp mem with rfl | last
    · rfl
    · rw [List.mem_singleton.mp last]
      rfl

theorem undrawn_samplePaying (transaction : Transaction) :
    ∀ entry ∈ samplePaying transaction, drawsToken entry.1 = false := by
  simp [samplePaying, sampleSent, preparing, broadcasting, exchange, polled, drawsToken]

omit [Interpreter] in
theorem undrawn_sampleRetrying (filter : Value) :
    ∀ entry ∈ sampleRetrying filter, drawsToken entry.1 = false := by
  simp [sampleRetrying, sampleFetched, polling, exchange, polled, drawsToken]

omit [Interpreter] in
/-- The sample receipt is all that the sample record says about receipts. -/
def OnlySampleReceipt (record : Record interface ℕ) : Prop :=
  ∀ i txHash receipt, (i, polled txHash (.ok (.dict receipt))) ∈ record →
    txHash = hexWord 0x1001 ∧ receipt = sampleReceipt (hexWord 100)

theorem onlySampleReceipt (transaction : Transaction) (filter : Value) :
    OnlySampleReceipt (sampleQuoting.map (0, ·) ++ (samplePaying transaction).map (1, ·) ++
      (sampleRetrying filter).map (2, ·)) := by
  intro i txHash receipt mem
  simp only [List.mem_append, List.mem_map, Prod.mk.injEq, exists_eq_right_right] at mem
  rcases mem with (⟨quoted, _⟩ | ⟨paid, _⟩) | ⟨retried, _⟩
  · exact absurd (mem_receipts quoted) List.not_mem_nil
  · exact absurd paid notMem_samplePaying
  · refine ⟨?_, mem_sampleRetrying retried⟩
    simp only [sampleRetrying, polling, sampleFetched, List.replicate_zero, List.nil_append,
      List.singleton_append, List.mem_cons, List.not_mem_nil, or_false] at retried
    rcases retried with same | impossible
    · exact Value.str.inj (List.singleton_injective (Ask.rpc.inj (congrArg Sigma.fst same)).2)
    · exact absurd (Ask.rpc.inj (congrArg Sigma.fst impossible)).1 (by decide)

omit [Interpreter] in
/-- A status request can be answered in every state, and changes nothing. -/
theorem status_replays (sut : ReferenceSut) (state : SutState) (orderId : Str) :
    letI := asciiInterpreter []
    (sut.serve (.status orderId)).Replays state []
      (.ok (.status (statusOf state.orders orderId))) state :=
  ⟨rfl, rfl, rfl⟩

omit [Interpreter] in
/-- A service whose sample order was quoted, paid in two requests and then delivered.  While the
second of them waits for the logs, the status of the order is asked for. -/
theorem exists_sampleRequests : letI := asciiInterpreter []
    ∃ amid settled final : Pool interface SutState PyError Reply (Record interface ℕ) ℕ,
      Reaches anyAnswers (sampleSut.opened sampleRequests 100) amid ∧
        (∃ asked next, (amid.threads 2).program = .ask asked next) ∧
        (∃ status, (amid.threads 4).program = .ret (.status status)) ∧
        Reaches anyAnswers amid settled ∧
        settled.shared = bookedState ∧ OnlySampleReceipt settled.world ∧
        settled.threads 2 = ⟨.ret (.paid (.judged sampleOrderId (hexWord 0x1001) true)), true,
          (settled.threads 2).said⟩ ∧
        Reaches anyAnswers settled final ∧
        final.threads 3 = ⟨.ret (.resource 200
          (some ("premium-content::".toList ++ sampleOrderId))), true, []⟩ := by
  let := asciiInterpreter []
  rcases exists_samplePaying with ⟨transaction, paying⟩
  rcases exists_sampleRetry with ⟨filter, retrying⟩
  have quoting : (sampleSut.serve .quote).Replays ⟨∅, 100⟩ sampleQuoting
      ((sampleSut.quoteAnswer sampleOrderId 1000).map .quoted) sampleState :=
    (quote_replays_iff.mpr sample_quotes).map _
  have first : (sampleSut.serve (.pay sampleOrderId sampleAuthorization)).Replays sampleState
      (samplePaying transaction) (.ok (.paid (.settlementPending sampleOrderId (hexWord 0x1001))))
      pendingState :=
    (pay_replays_iff.mpr paying).map _
  have second : (sampleSut.serve (.pay sampleOrderId sampleAuthorization)).Replays pendingState
      (sampleRetrying filter) (.ok (.paid (.judged sampleOrderId (hexWord 0x1001) true)))
      bookedState :=
    (pay_replays_iff.mpr retrying).map _
  have third : (sampleSut.serve (.resource sampleOrderId)).Replays bookedState []
      (.ok (.resource 200 (some ("premium-content::".toList ++ sampleOrderId)))) bookedState := by
    refine ⟨rfl, ?_, rfl⟩
    rw [statusOf, booked_lookup]
    rfl
  have start : (sampleSut.opened sampleRequests 100).threads 0 =
      ⟨sampleSut.serve .quote, false, []⟩ := rfl
  rcases reaches_alone start quoting through_sampleQuoting with
    ⟨one, toOne, isOne, saidOne, _, others⟩
  rw [← isOne] at first
  rcases reaches_alone (others 1 (by decide)) first
    (through_anyAnswers (undrawn_samplePaying transaction)) with
    ⟨two, toTwo, isTwo, saidTwo, _, others'⟩
  rw [← isTwo] at second
  have untouched : ∀ i, i ≠ 0 → i ≠ 1 → two.threads i = ⟨sampleSut.serve (sampleRequests i),
      false, []⟩ :=
    fun i notQuote notPay => (others' i notPay).trans (others i notQuote)
  have undrawn := List.forall_mem_append.mp (undrawn_sampleRetrying filter)
  -- the second payment has its receipt and waits for the logs
  rcases reaches_until (untouched 2 (by decide) (by decide)) second
    (through_anyAnswers undrawn.1) with ⟨fetching, toFetching, saidFetching, before, others''⟩
  rcases reaches_alone ((others'' 4 (by decide)).trans (untouched 4 (by decide) (by decide)))
    (status_replays sampleSut fetching.shared sampleOrderId) rfl with
    ⟨amid, toAmid, isAmid, saidAmid, answered, others₃⟩
  have still := before.moved (others₃ 2 (by decide)) isAmid
  rcases still.waits with ⟨next, waits⟩
  rcases reaches_end still (through_anyAnswers undrawn.2) with
    ⟨three, toThree, isThree, saidThree, paid, others₄⟩
  rw [← isThree] at third
  have waiting : three.threads 3 = ⟨sampleSut.serve (.resource sampleOrderId), false, []⟩ :=
    (others₄ 3 (by decide)).trans ((others₃ 3 (by decide)).trans
      ((others'' 3 (by decide)).trans (untouched 3 (by decide) (by decide))))
  rcases reaches_alone waiting third rfl with ⟨four, toFour, _, _, delivered, _⟩
  refine ⟨amid, three, four, ((toOne.trans toTwo).trans toFetching).trans toAmid,
    ⟨_, next, congrArg Thread.program waits⟩, ⟨_, congrArg Thread.program answered⟩, toThree,
    isThree, ?_, ?_, toFour, delivered⟩
  · rw [saidThree, saidAmid, saidFetching, saidTwo, saidOne, List.append_assoc, ← List.map_append]
    exact onlySampleReceipt transaction filter
  · rw [paid]
    rfl

omit [Interpreter] in
/-- The resource of the sample order is delivered for what its payments broadcast and saw, after
a request for its status overtook the second of them. -/
theorem release_in_every_order_sample : letI := asciiInterpreter []
    ∃ amid pool : Pool interface SutState PyError Reply (Record interface ℕ) ℕ,
      Reaches anyAnswers (sampleSut.opened sampleRequests 100) amid ∧
      (∃ asked next, (amid.threads 2).program = .ask asked next) ∧
      (∃ status, (amid.threads 4).program = .ret (.status status)) ∧
      Reaches anyAnswers amid pool ∧
      (pool.threads 3).program = .ret (.resource 200
        (some ("premium-content::".toList ++ sampleOrderId))) ∧
      ∃ order txHash index, pool.shared.orders.lookup sampleOrderId = some order ∧
        sampleSut.Settles sampleRequests pool.world order txHash index := by
  let := asciiInterpreter []
  rcases exists_sampleRequests with
    ⟨amid, settled, final, reaches, waits, answered, goesOn, _, _, _, more, delivered⟩
  have released := (release_in_every_order ((reaches.trans goesOn).trans more)).2 3 sampleOrderId
    _ rfl (congrArg Thread.started delivered) (congrArg Thread.program delivered)
  exact ⟨amid, final, reaches, waits, answered, goesOn.trans more,
    congrArg Thread.program delivered, released.2⟩

omit [Interpreter] in
/-- What the second payment of the sample order was told is so after the delivery. -/
theorem orders_proceed_sample : letI := asciiInterpreter []
    ∃ settled final : Pool interface SutState PyError Reply (Record interface ℕ) ℕ,
      Reaches anyAnswers (sampleSut.opened sampleRequests 100) settled ∧
        Reaches anyAnswers settled final ∧ Proceeds settled.shared final.shared ∧
        Paid final.shared sampleOrderId := by
  let := asciiInterpreter []
  rcases exists_sampleRequests with
    ⟨_, settled, final, reaches, _, _, goesOn, _, _, paid, more, _⟩
  have proceeds := orders_proceed (reaches.trans goesOn) more
  exact ⟨settled, final, reaches.trans goesOn, more, proceeds.1, proceeds.2 2 _
    (congrArg Thread.started paid) (congrArg Thread.program paid) rfl⟩

end Sample

end ReferenceSut

end Psv
