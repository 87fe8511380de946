import Psv.Ledger.Complement
import Psv.Sut.Release

/-!
# Healing a ledger

With reconciliation enabled a lost settlement comes back as a recovered order.
Its id is a digest of the identity of the settlement, in a part of the ledger of
its own: quoted orders have other ids, and nothing changes a recovered order,
since it is paid and has expired from the start.  So no order is overwritten
unless two identities have one digest.
-/

namespace Psv

open Python Interaction Program Chain RpcClient Reconciliation Ledger

namespace ReferenceSut

/-! ### The text of an identity -/

section Keys

/-- What stands in front of the first colon. -/
theorem split_colon {first second rest others : Str} (plain : ':' ∉ first) (bare : ':' ∉ second)
    (same : first ++ ':' :: rest = second ++ ':' :: others) : first = second ∧ rest = others := by
  induction first generalizing second with
  | nil =>
    cases second with
    | nil => exact ⟨rfl, (List.cons.inj same).2⟩
    | cons c second =>
      rcases List.cons.inj same with ⟨rfl, _⟩
      exact absurd List.mem_cons_self bare
  | cons c first ih =>
    cases second with
    | nil =>
      rcases List.cons.inj same with ⟨rfl, _⟩
      exact absurd List.mem_cons_self plain
    | cons d second =>
      rcases List.cons.inj same with ⟨rfl, later⟩
      rw [List.mem_cons, not_or] at plain bare
      rcases ih plain.2 bare.2 later with ⟨rfl, sameRest⟩
      exact ⟨rfl, sameRest⟩

theorem notMem_toDigits {c : Char} (noDigit : c.isDigit = false) (n : ℕ) :
    c ∉ Nat.toDigits 10 n := by
  intro mem
  have digit := Nat.isDigit_of_mem_toDigits (by decide) (by decide) mem
  rw [noDigit] at digit
  cases digit

theorem colon_notMem_decDigits (n : ℤ) : ':' ∉ decDigits n := by
  rw [decDigits]
  split_ifs
  · rw [List.mem_cons, not_or]
    exact ⟨by decide, notMem_toDigits rfl _⟩
  · exact notMem_toDigits rfl _

theorem decDigits_injective {m n : ℤ} (same : decDigits m = decDigits n) : m = n := by
  have magnitudes : ∀ {k l : ℕ}, Nat.toDigits 10 k = Nat.toDigits 10 l → k = l := by
    intro k l digits
    have numbers := congrArg (Nat.ofDigitChars 10 · 0) digits
    simpa using numbers
  have signed : ∀ {k l : ℕ}, '-' :: Nat.toDigits 10 k ≠ Nat.toDigits 10 l := by
    intro k l digits
    exact notMem_toDigits (rfl : '-'.isDigit = false) l (digits ▸ List.mem_cons_self)
  rw [decDigits, decDigits] at same
  split_ifs at same with first second second
  · have magnitude := magnitudes (List.cons.inj same).2
    omega
  · exact absurd same signed
  · exact absurd same.symm signed
  · have magnitude := magnitudes same
    omega

theorem showInt_eq_ok {n : ℤ} {text : String} (shown : showInt n = .ok text) :
    text.toList = decDigits n := by
  rw [showInt, intStr] at shown
  split_ifs at shown with short
  · cases shown
    exact String.toList_ofList
  · cases shown

theorem identityKey_eq_ok {identity : SettlementIdentity} {key : Str}
    (keyed : identityKey identity = .ok key) :
    key = decDigits identity.chainId ++ ':' :: (identity.asset ++ ':' :: (identity.txHash ++
      ':' :: decDigits identity.logIndex)) := by
  rw [identityKey, Checks.bind_eq_ok_iff] at keyed
  rcases keyed with ⟨chainId, isChain, keyed⟩
  rcases Checks.bind_eq_ok_iff.mp keyed with ⟨logIndex, isIndex, same⟩
  cases same
  rw [showInt_eq_ok isChain, showInt_eq_ok isIndex]
  simp only [List.append_assoc, List.cons_append]

/-- An identity whose texts have no colon. -/
structure PlainIdentity (identity : SettlementIdentity) : Prop where
  asset : ':' ∉ identity.asset
  txHash : ':' ∉ identity.txHash

/-- The text of an identity belongs to no other one. -/
theorem identityKey_injective {first second : SettlementIdentity} {key : Str}
    (plain : PlainIdentity first) (bare : PlainIdentity second)
    (isFirst : identityKey first = .ok key) (isSecond : identityKey second = .ok key) :
    first = second := by
  have same := (identityKey_eq_ok isFirst).symm.trans (identityKey_eq_ok isSecond)
  rcases split_colon (colon_notMem_decDigits _) (colon_notMem_decDigits _) same with
    ⟨sameChain, rest⟩
  rcases split_colon plain.asset bare.asset rest with ⟨sameAsset, rest⟩
  rcases split_colon plain.txHash bare.txHash rest with ⟨sameHash, sameIndex⟩
  cases first
  cases second
  simp only [SettlementIdentity.mk.injEq]
  exact ⟨decDigits_injective sameChain, sameAsset, sameHash, decDigits_injective sameIndex⟩

end Keys

variable [Interpreter] {sut : ReferenceSut} {orders later : Orders} {logs : List Fields}
  {credits : List OnChainCredit} {said : Conversation} {fromBlock : ℤ}

/-! ### The logs of a reconciliation -/

/-- A topic that the client accepts was made of an address without white space. -/
theorem exact_of_topicAddr {text topic : Str}
    (isTopic : Reconciliation.topicAddr (.str text) = .ok topic)
    (shape : isExactHex 64 topic = true) : isExactHex 40 text = true := by
  rcases exactHex_cases (.str text) 20 "address" with
    ⟨given, same, loose, read⟩ | ⟨message, refused⟩
  · cases same
    rw [Reconciliation.topicAddr, address, read] at isTopic
    cases isTopic
    rcases isExactHex_iff.mp shape with ⟨digits, sameDigits, _, all⟩
    rcases isLooseHex_iff.mp loose with ⟨rest, rfl, length, readable⟩
    rw [lower_loose readable] at sameDigits
    apply isExactHex_of_loose loose
    apply List.all_eq_true.mpr
    intro c mem
    rcases chars_of_isSome_fromHex readable c mem with digit | space
    · exact digit
    · have listed : c ∈ digits := by
        rw [← (List.cons.inj (List.cons.inj sameDigits).2).2]
        apply List.mem_append_right
        exact List.mem_map.mpr ⟨c, mem, toLower_of_isAsciiSpace space⟩
      exact List.all_eq_true.mp all c listed
  · rw [Reconciliation.topicAddr, address, refused] at isTopic
    cases isTopic

theorem merchant_of_fetched (fetched : sut.Fetched fromBlock said logs) :
    isExactHex 40 sut.config.merchantAddress = true ∧ ∀ log ∈ logs, Anvil.LogShape log := by
  rcases fetched with ⟨merchant, isMerchant, state, replays⟩
  rcases (reads_getLogs _ _ _ _ _ _ _ _).mp replays with ⟨⟨filter, filtered, _, _, shapes⟩, _⟩
  refine ⟨exact_of_topicAddr isMerchant ?_, shapes⟩
  simp only [logFilter, Checks.bind_eq_ok_iff, List.filterMap_cons, List.filterMap_nil, id,
    decodeAll, Anvil.hash_eq_ok_iff] at filtered
  rcases filtered with ⟨_, _, _, _, _, ⟨_, _, _, ⟨last, ⟨same, shape⟩, _⟩, _⟩, _⟩
  cases same
  exact shape

omit [Interpreter] in
theorem wellFormed_of_exact {text : Str} (shape : isExactHex 40 text = true) :
    WellFormed (some text) := by
  intro given same _
  cases same
  exact shape

omit [Interpreter] in
theorem colon_notMem_exact {digits : ℕ} {text : Str} (shape : isExactHex digits text = true) :
    ':' ∉ text.map Char.toLower := by
  rcases isExactHex_iff.mp shape with ⟨rest, rfl, _, all⟩
  rw [List.map_cons, List.map_cons, List.mem_cons, List.mem_cons, not_or, not_or]
  refine ⟨by decide, by decide, ?_⟩
  intro mem
  rcases List.mem_map.mp mem with ⟨c, member, same⟩
  have digit := isHexDigit_toLower (List.all_eq_true.mp all c member)
  rw [same] at digit
  cases digit

/-- A credit of a log that the client accepts has a plain identity. -/
theorem plain_of_decode {log : Fields} {chainId : ℤ} {credit : OnChainCredit}
    (shape : Anvil.LogShape log) (decoded : decodeTransferLog log chainId = .ok credit) :
    PlainIdentity credit.identity := by
  have decodes := (decodeTransferLog_eq_ok_iff shape).mp decoded
  rcases decodes.asset with ⟨asset, isAsset, sameAsset⟩
  rcases decodes.txHash with ⟨txHash, isHash, sameHash⟩
  rcases shape.address with ⟨text, isText, exactAsset⟩
  rcases shape.transactionHash with ⟨hash, isText', exactHash⟩
  rw [isAsset, Value.str.injEq] at isText
  rw [isHash, Value.str.injEq] at isText'
  constructor
  · rw [sameAsset, isText, lower_exactHex exactAsset]
    exact colon_notMem_exact exactAsset
  · rw [sameHash, isText', lower_exactHex exactHash]
    exact colon_notMem_exact exactHash

/-- What a reconciliation finds in the logs. -/
structure Finds (sut : ReferenceSut) (orders : Orders) (logs : List Fields)
    (credits : List OnChainCredit) : Prop where
  complement : IsComplement credits logs (knownEntries orders) sut.config.chainId
  identified : ∀ first ∈ credits, ∀ second ∈ credits, first.identity = second.identity →
    first = second
  plain : ∀ credit ∈ credits, PlainIdentity credit.identity

theorem finds_of_unreconciled (fetched : sut.Fetched fromBlock said logs)
    (found : sut.unreconciled orders logs = .ok credits) : sut.Finds orders logs credits := by
  rcases merchant_of_fetched fetched with ⟨merchant, shapes⟩
  have asset := wellFormed_of_exact sut.exact
  have payee := wellFormed_of_exact merchant
  have complement := isComplement_of_ok asset payee found
  have accepted := not_refused_of_ok asset payee found
  refine ⟨complement, ?_, ?_⟩
  · intro first firstMem second secondMem same
    rcases ((complement.members first).mp firstMem).1 with ⟨left, leftMem, leftDecodes⟩
    rcases ((complement.members second).mp secondMem).1 with ⟨right, rightMem, rightDecodes⟩
    by_contra different
    exact accepted (Or.inr (Or.inr ⟨left, leftMem, right, rightMem, first, second, leftDecodes,
      rightDecodes, same, different⟩))
  · intro credit mem
    rcases ((complement.members credit).mp mem).1 with ⟨log, logMem, decoded⟩
    exact plain_of_decode (shapes log logMem) decoded

/-! ### The parts of a ledger -/

/-- Quoted orders and recovered orders have ids of their own, and recovered ones are as they were
booked. -/
def Parted (key : Str) (order : Order) : Prop :=
  (∃ drawn, key = "ord_".toList ++ drawn) ∨
    ∃ credit text, identityKey credit.identity = .ok text ∧ key = recoveredId text ∧
      order = recoveredOrder key credit ∧ PlainIdentity credit.identity

variable (sut) in
theorem parted_invariant (allowed : List Event → Service → Event → Prop) :
    sut.OrderInvariant allowed fun _ => Parted where
  mono _ known := known
  quote _ := Or.inl ⟨_, rfl⟩
  change := by
    intro events service orderId authorization said result order change known keyed _ changes
    rcases known with quoted | ⟨credit, text, _, _, rfl, _⟩
    · exact Or.inl quoted
    · -- a recovered order is paid, nothing of it is pending, and it has expired
      cases changes with
      | retried _ inFlight => cases inFlight
      | @unsubmitted now _ _ _ admitted =>
        exact absurd admitted.inTime (not_le.mpr now.2)
      | @submitted now _ _ _ _ _ _ admitted =>
        exact absurd admitted.inTime (not_le.mpr now.2)
  book permitted fetched found mem keyed :=
    Or.inr ⟨_, _, keyed, rfl, rfl, (finds_of_unreconciled fetched found).plain _ mem⟩

/-- The credit is booked under this id. -/
def BookedAt (credit : OnChainCredit) (key : Str) : Prop :=
  ∃ text, identityKey credit.identity = .ok text ∧ key = recoveredId text

theorem BookedAt.unique {credit : OnChainCredit} {key other : Str} (first : BookedAt credit key)
    (second : BookedAt credit other) : key = other := by
  rcases first with ⟨text, isText, rfl⟩
  rcases second with ⟨same, isSame, rfl⟩
  rw [isText, Except.ok.injEq] at isSame
  rw [isSame]

/-- Other ids are not touched. -/
theorem Healed.lookup_other (healed : Healed credits orders later) {key : Str}
    (other : ∀ credit ∈ credits, ¬BookedAt credit key) : later.lookup key = orders.lookup key := by
  induction healed with
  | none => rfl
  | @booked credit credits text orders later keyed _ ih =>
    simp only [List.mem_cons, forall_eq_or_imp] at other
    rw [ih other.2, bookCredit, Dict.lookup_setItem, if_neg]
    intro same
    exact other.1 ⟨text, keyed, same⟩

/-- Every credit is booked when no two have one id. -/
theorem Healed.lookup_booked (healed : Healed credits orders later)
    (distinct : credits.Pairwise fun first second => ∀ key, BookedAt first key →
      ¬BookedAt second key) {credit : OnChainCredit} (mem : credit ∈ credits) :
    ∃ key, BookedAt credit key ∧ later.lookup key = some (recoveredOrder key credit) := by
  induction healed with
  | none => cases mem
  | @booked head credits text orders later keyed healed ih =>
    rw [List.pairwise_cons] at distinct
    rcases List.mem_cons.mp mem with rfl | mem
    · refine ⟨_, ⟨text, keyed, rfl⟩, ?_⟩
      rw [healed.lookup_other fun other otherMem => distinct.1 other otherMem _ ⟨text, keyed, rfl⟩,
        bookCredit, Dict.lookup_setItem, if_pos rfl]
    · exact ih distinct.2 mem

/-- What is in the ledger was there or is a credit. -/
theorem Healed.lookup_cases (healed : Healed credits orders later) {key : Str} {order : Order}
    (found : later.lookup key = some order) :
    orders.lookup key = some order ∨
      ∃ credit ∈ credits, BookedAt credit key ∧ order = recoveredOrder key credit := by
  induction healed with
  | none => exact Or.inl found
  | @booked credit credits text orders later keyed _ ih =>
    rcases ih found with former | ⟨other, mem, bookedAt, same⟩
    · rw [bookCredit, Dict.lookup_setItem] at former
      split_ifs at former with same
      · cases former
        exact Or.inr ⟨credit, List.mem_cons_self, ⟨text, keyed, same⟩, by rw [same]⟩
      · exact Or.inl former
    · exact Or.inr ⟨other, List.mem_cons_of_mem _ mem, bookedAt, same⟩

/-! ### Healing -/

/-- The identities of the orders and of the credits. -/
def Occurs (orders : Orders) (credits : List OnChainCredit) (identity : SettlementIdentity) :
    Prop :=
  (∃ key order, orders.lookup key = some order ∧ order.settlementIdentity = some identity) ∨
    ∃ credit ∈ credits, credit.identity = identity

/-- The digests of the texts of these identities are distinct. -/
def CollisionFree (identities : SettlementIdentity → Prop) : Prop :=
  ∀ first second text other, identities first → identities second →
    identityKey first = .ok text → identityKey second = .ok other →
    Interpreter.sha256 (utf8 text) = Interpreter.sha256 (utf8 other) → text = other

/-- A ledger with a recovered order for every credit, and otherwise as before. -/
structure Heals (sut : ReferenceSut) (orders later : Orders) (logs : List Fields)
    (credits : List OnChainCredit) : Prop where
  kept : ∀ key order, orders.lookup key = some order → later.lookup key = some order
  booked : ∀ credit ∈ credits, ∃ key order, orders.lookup key = none ∧
    later.lookup key = some order ∧ order.paid = true ∧ order.recovered = true ∧
    order.amount = credit.value ∧ order.settlementIdentity = some credit.identity ∧
    ∀ other found, orders.lookup other = none → later.lookup other = some found →
      found.settlementIdentity = some credit.identity → other = key
  new : ∀ key order, orders.lookup key = none → later.lookup key = some order →
    ∃ credit ∈ credits, order.settlementIdentity = some credit.identity
  covered : ∀ log ∈ logs, ∀ credit, decodeTransferLog log sut.config.chainId = .ok credit →
    credit.removed = false → ∃ key order, later.lookup key = some order ∧ order.paid = true ∧
      order.settlementIdentity = some credit.identity

omit [Interpreter] in
theorem mem_knownEntries {identity : SettlementIdentity} :
    (∃ entry ∈ knownEntries orders, entry.settlement = identity) ↔
      ∃ key order, orders.lookup key = some order ∧ order.paid = true ∧
        order.settlementIdentity = some identity := by
  constructor
  · rintro ⟨entry, mem, same⟩
    rcases List.mem_filterMap.mp mem with ⟨order, isValue, known⟩
    rcases Dict.mem_values_iff.mp isValue with ⟨key, found⟩
    split_ifs at known with paid
    rcases Option.map_eq_some_iff.mp known with ⟨other, isIdentity, rfl⟩
    exact ⟨key, order, found, paid, isIdentity.trans (congrArg some same)⟩
  · rintro ⟨key, order, found, paid, isIdentity⟩
    refine ⟨.settled identity, List.mem_filterMap.mpr ⟨order, Dict.mem_values_iff.mpr ⟨key, found⟩,
      ?_⟩, rfl⟩
    rw [if_pos paid, isIdentity]
    rfl

/-- Credits of one reconciliation are booked apart. -/
theorem Finds.apart (finds : sut.Finds orders logs credits)
    (free : CollisionFree (Occurs orders credits)) {first second : OnChainCredit} {key : Str}
    (firstMem : first ∈ credits) (secondMem : second ∈ credits) (isFirst : BookedAt first key)
    (isSecond : BookedAt second key) : first = second := by
  rcases isFirst with ⟨text, isText, rfl⟩
  rcases isSecond with ⟨other, isOther, same⟩
  have texts := free _ _ _ _ (Or.inr ⟨first, firstMem, rfl⟩) (Or.inr ⟨second, secondMem, rfl⟩)
    isText isOther (List.append_cancel_left same)
  exact finds.identified first firstMem second secondMem (identityKey_injective
    (finds.plain first firstMem) (finds.plain second secondMem) isText (texts ▸ isOther))

/-- A credit is booked where nothing is. -/
theorem Finds.free (finds : sut.Finds orders logs credits)
    (free : CollisionFree (Occurs orders credits)) (parted : Everywhere Parted orders)
    {credit : OnChainCredit} {key : Str} (mem : credit ∈ credits) (bookedAt : BookedAt credit key) :
    orders.lookup key = none := by
  by_contra present
  rcases Option.ne_none_iff_exists'.mp present with ⟨order, found⟩
  rcases bookedAt with ⟨text, isText, rfl⟩
  rcases (parted _ _ found).2 with ⟨drawn, impossible⟩ | ⟨former, other, isOther, same, rfl, plain⟩
  · cases impossible
  · have known : Occurs orders credits former.identity := Or.inl ⟨_, _, found, rfl⟩
    have texts := free _ _ _ _ (Or.inr ⟨credit, mem, rfl⟩) known isText isOther
      (List.append_cancel_left same)
    have identical := identityKey_injective (finds.plain credit mem) plain isText (texts ▸ isOther)
    rcases mem_knownEntries.mpr ⟨_, _, found, rfl, congrArg some identical.symm⟩ with
      ⟨entry, isEntry, settles⟩
    exact ((finds.complement.members credit).mp mem).2.2 entry isEntry settles

/-- Booking what a reconciliation finds heals the ledger. -/
theorem Finds.heals (finds : sut.Finds orders logs credits)
    (free : CollisionFree (Occurs orders credits)) (parted : Everywhere Parted orders)
    (healed : Healed credits orders later) : sut.Heals orders later logs credits := by
  have kept : ∀ key order, orders.lookup key = some order → later.lookup key = some order := by
    intro key order found
    rw [healed.lookup_other, found]
    intro credit mem bookedAt
    rw [finds.free free parted mem bookedAt] at found
    cases found
  have distinct : credits.Pairwise fun first second => ∀ key, BookedAt first key →
      ¬BookedAt second key := by
    refine finds.complement.distinct.imp_of_mem ?_
    intro first second firstMem secondMem different key isFirst isSecond
    exact different (finds.apart free firstMem secondMem isFirst isSecond)
  have booked : ∀ credit ∈ credits, ∃ key, BookedAt credit key ∧
      later.lookup key = some (recoveredOrder key credit) :=
    fun credit mem => healed.lookup_booked distinct mem
  refine ⟨kept, ?_, ?_, ?_⟩
  · intro credit mem
    rcases booked credit mem with ⟨key, bookedAt, found⟩
    refine ⟨key, _, finds.free free parted mem bookedAt, found, rfl, rfl, rfl, rfl, ?_⟩
    intro other order new foundOther isIdentity
    rcases healed.lookup_cases foundOther with former | ⟨source, sourceMem, sourceAt, rfl⟩
    · rw [new] at former
      cases former
    · have same := finds.identified source sourceMem credit mem (Option.some.inj isIdentity)
      rw [same] at sourceAt
      exact sourceAt.unique bookedAt
  · intro key order new found
    rcases healed.lookup_cases found with former | ⟨credit, mem, _, rfl⟩
    · rw [new] at former
      cases former
    · exact ⟨credit, mem, rfl⟩
  · intro log logMem credit decoded standing
    by_cases mem : credit ∈ credits
    · rcases booked credit mem with ⟨key, _, found⟩
      exact ⟨key, _, found, rfl, rfl⟩
    · have known : ∃ entry ∈ knownEntries orders, entry.settlement = credit.identity := by
        by_contra unknown
        simp only [not_exists, not_and] at unknown
        exact mem ((finds.complement.members credit).mpr ⟨⟨log, logMem, decoded⟩, standing,
          unknown⟩)
      rcases mem_knownEntries.mp known with ⟨key, order, found, paid, isIdentity⟩
      exact ⟨key, order, kept key order found, paid, isIdentity⟩

/-- Nothing is left to find in a healed ledger. -/
theorem Heals.nothing_left (heals : sut.Heals orders later logs credits)
    (fetched : sut.Fetched fromBlock said logs)
    (found : sut.unreconciled orders logs = .ok credits) :
    sut.unreconciled later logs = .ok [] := by
  rcases merchant_of_fetched fetched with ⟨merchant, _⟩
  have asset := wellFormed_of_exact sut.exact
  have payee := wellFormed_of_exact merchant
  cases again : sut.unreconciled later logs with
  | error error =>
    exact absurd ((error_iff asset payee).mp ⟨error, again⟩) (not_refused_of_ok asset payee found)
  | ok others =>
    have complement := isComplement_of_ok asset payee again
    have none : ∀ credit, credit ∉ others := by
      intro credit mem
      rcases (complement.members credit).mp mem with ⟨⟨log, logMem, decoded⟩, standing, unknown⟩
      rcases mem_knownEntries.mpr (heals.covered log logMem credit decoded standing) with
        ⟨entry, isEntry, settles⟩
      exact unknown entry isEntry settles
    rw [List.eq_nil_iff_forall_not_mem.mpr none]

/-- Healing is complete, exact and idempotent in every ledger that is reached. -/
theorem healing_exact (sut : ReferenceSut) (enabled : sut.config.reconciliationEnabled = true)
    {events : List Event} {service : Service} (run : sut.Run (fun _ _ _ => True) events service)
    {fromBlock : ℤ} {said : Conversation} {credits : List OnChainCredit} {state : SutState}
    (replays : (sut.reconcile fromBlock).Replays service.state said (.ok credits) state)
    (free : CollisionFree (Occurs service.state.orders credits)) :
    ∃ logs, sut.Fetched fromBlock said logs ∧
      sut.Heals service.state.orders state.orders logs credits ∧
      ∀ again others, sut.Fetched again others logs → ∀ result final,
        (sut.reconcile again).Replays state others result final ↔
          result = .ok [] ∧ final = state := by
  have parted := (sut.parted_invariant fun _ _ _ => True).of_run run
  cases reconciles_of_replays replays with
  | reported _ _ disabled =>
    rw [enabled] at disabled
    cases disabled
  | @healed logs front back orders _ fetched found _ healed whole =>
    rcases whole credits rfl with ⟨rfl, rfl⟩
    rw [List.append_nil] at found
    have heals := (finds_of_unreconciled fetched found).heals free parted healed
    refine ⟨logs, fetched, heals, ?_⟩
    intro again others refetched result final
    have quiet : (sut.reconcile again).Replays { service.state with orders := orders } others
        (.ok []) { service.state with orders := orders } :=
      replays_of_reconciled refetched (heals.nothing_left fetched found) enabled .none
    constructor
    · exact fun replays => quiet.unique replays
    · rintro ⟨rfl, rfl⟩
      exact quiet

/-! ### A sample reconciliation -/

section Sample

/-- The credit of the sample transfer. -/
def sampleCredit : OnChainCredit :=
  ⟨sampleIdentity, hexWord 0x11, 1, hexAddress 0xa1, hexAddress 0xb2, 100, false⟩

/-- The text of the identity of the sample settlement. -/
def sampleKey : Str :=
  "31337:".toList ++ hexAddress 0x70 ++ ':' :: hexWord 0x1001 ++ ":1".toList

/-- The SHA-256 digest of this text. -/
def sampleDigests : List (List UInt8 × ℕ) :=
  [(utf8 sampleKey, 0x4784b7229ac5b11e3d99f84e206ba3109b4037e0104c3cca2eac4f4a15be05dd)]

omit [Interpreter] in
/-- A lost settlement is healed in an empty ledger. -/
theorem healing_exact_sample : letI := asciiInterpreter sampleDigests
    ∃ later logs, sampleSut.Heals ∅ later logs [sampleCredit] := by
  let := asciiInterpreter sampleDigests
  have found : sampleSut.unreconciled ∅ [Confirmer.sampleTransfer (hexWord 100)] =
      .ok [sampleCredit] := by
    decide +kernel
  have keyed : identityKey sampleCredit.identity = .ok sampleKey := by
    decide +kernel
  have filtered : ∃ filter, logFilter sampleSut.config.tokenAddress
      [some topicTransfer, none, some (hexWord 0xb2)] (.number 0) (.tag "latest") =
        .ok filter := by
    apply exists_ok_of_isSome
    decide +kernel
  rcases filtered with ⟨filter, filtered⟩
  have shape : ∀ log ∈ [Confirmer.sampleTransfer (hexWord 100)], Anvil.LogShape log := by
    intro log mem
    rw [List.mem_singleton.mp mem]
    exact Confirmer.sampleLog_shape (by decide) (by decide) (by decide)
  have fetched : sampleSut.Fetched 0 (sampleFetched filter)
      [Confirmer.sampleTransfer (hexWord 100)] :=
    ⟨hexWord 0xb2, by decide +kernel, (getLogs_tells_iff filtered).mpr
      ⟨.ok (.list [.dict (Confirmer.sampleTransfer (hexWord 100))]), rfl,
        (checkLogs_eq_ok_iff.mpr ⟨rfl, by decide, shape⟩).symm⟩⟩
  have new : sampleSut.Run (fun _ _ _ => True) [] ⟨⟨∅, 100⟩, []⟩ := .start
  have replays : (sampleSut.reconcile 0).Replays ⟨∅, 100⟩ (sampleFetched filter)
      (.ok [sampleCredit]) ⟨bookCredit ∅ sampleKey sampleCredit, 100⟩ :=
    replays_of_reconciled fetched found rfl (.booked keyed .none)
  have free : CollisionFree (Occurs ∅ [sampleCredit]) := by
    have only : ∀ identity, Occurs ∅ [sampleCredit] identity → identity = sampleIdentity := by
      rintro identity (⟨key, order, impossible, _⟩ | ⟨credit, mem, rfl⟩)
      · rw [AList.lookup_empty] at impossible
        cases impossible
      · rw [List.mem_singleton.mp mem]
        rfl
    intro first second text other isFirst isSecond isText isOther _
    rw [only first isFirst] at isText
    rw [only second isSecond, isText] at isOther
    exact Except.ok.inj isOther
  rcases healing_exact sampleSut rfl new replays free with ⟨logs, _, heals, _⟩
  exact ⟨_, logs, heals⟩

end Sample

end ReferenceSut

end Psv
