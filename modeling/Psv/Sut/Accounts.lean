import Psv.Onchain.Income
import Psv.Sut.Healing
import Mathlib.Algebra.BigOperators.Ring.Finset

/-!
# The accounts of a merchant

Reconciliation compares a ledger with the transfers that a node reports.  On a node
that reports the logs of its chain, and with a token whose calls are the history of
that chain, this is a statement about money: what is reported as missing and what is
recorded are together all transfers to the merchant, and with what the token does
not report as a transfer they are the balance that the merchant holds or has spent
(`missing_funds`).  A healed ledger has recorded all of it (`healed_funds`).
-/

namespace Psv

open Python Interaction Program Chain RpcClient Anvil Reconciliation Ledger Node Onchain

namespace ReferenceSut

variable [Interpreter] {sut : ReferenceSut} {chain : Node.Chain} {orders later : Orders}
  {logs : List Fields} {credits : List OnChainCredit} {said : Conversation} {fromBlock : ℤ}

/-! ### What a reconciliation is told -/

variable (sut) in
/-- The account of the merchant. -/
def merchant : Address := readAddress sut.config.merchantAddress

variable (sut) in
/-- The account of the token. -/
def asset : Address := readAddress sut.config.tokenAddress

theorem filter_of_logFilter {topic : Str} {filter : Value}
    (merchantExact : isExactHex 40 sut.config.merchantAddress = true)
    (isTopic : Reconciliation.topicAddr (.str sut.config.merchantAddress) = .ok topic)
    (filtered : logFilter sut.config.tokenAddress [some topicTransfer, none, some topic]
      (.number fromBlock) (.tag "latest") = .ok filter) :
    ∃ number : ℕ, fromBlock = number ∧
      filter = historyFilter sut.config.tokenAddress (inbound sut.merchant) number := by
  have padded : hexWord (sut.merchant.setWidth 256).toNat = topic := by
    rw [topicAddr_exact merchantExact, Except.ok.injEq] at isTopic
    rw [← isTopic, toNat_setWidth, merchant, toNat_readAddress merchantExact]
  simp only [logFilter, Checks.bind_eq_ok_iff] at filtered
  rcases filtered with ⟨_, _, _, _, _, _, fromText, isFrom, toText, isTo, same⟩
  rw [blockParam] at isFrom
  split_ifs at isFrom with nonnegative
  rcases Int.eq_ofNat_of_zero_le nonnegative with ⟨number, rfl⟩
  rw [Int.toNat_natCast, Except.ok.injEq] at isFrom
  rw [blockParam, if_pos (by decide), Except.ok.injEq] at isTo
  cases same
  refine ⟨number, rfl, ?_⟩
  rw [← isFrom, ← isTo, historyFilter, inbound]
  simp only [List.map_cons, List.map_nil, Option.map_some, Option.map_none, topicTransfer_eq,
    padded]

/-- The logs are those of the transfers to the merchant from a block on. -/
theorem entries_of_fetched (honest : HonestHistory chain said)
    (fetched : sut.Fetched fromBlock said logs) :
    ∃ number : ℕ, fromBlock = number ∧
      List.Forall₂ RendersEntry (chain.entries sut.asset (inbound sut.merchant) number) logs := by
  have merchantExact := (merchant_of_fetched fetched).1
  rcases fetched with ⟨topic, isTopic, told⟩
  cases filtered : logFilter sut.config.tokenAddress [some topicTransfer, none, some topic]
      (.number fromBlock) (.tag "latest") with
  | error error =>
    rcases told with ⟨_, replays⟩
    rw [getLogs, filtered] at replays
    rcases replays with ⟨_, impossible, _⟩
    cases impossible
  | ok filter =>
    rcases (getLogs_tells_iff filtered).mp told with ⟨answer, rfl, accepted⟩
    rcases filter_of_logFilter merchantExact isTopic filtered with ⟨number, isNumber, rfl⟩
    cases answer with
    | error message => cases accepted
    | ok value =>
      rcases checkLogs_eq_ok_iff.mp accepted.symm with ⟨rfl, _, _⟩
      exact ⟨number, isNumber, honest _ _ _ _ sut.exact (List.mem_singleton_self _)⟩

/-! ### Credits and entries -/

variable (sut) in
/-- The ledger has a paid order for the settlement. -/
def Knows (orders : Orders) (entry : Entry) : Prop :=
  entry.identity sut.config.chainId ∈ (knownEntries orders).map LedgerEntry.settlement

instance : DecidablePred (sut.Knows orders) := fun entry =>
  inferInstanceAs (Decidable (entry.identity sut.config.chainId ∈ _))

variable (sut) in
/-- The transfers among the entries that the ledger has recorded, as a sum. -/
def recorded (orders : Orders) (entries : List Entry) : ℕ :=
  entryTotal (entries.filter fun entry => decide (sut.Knows orders entry))

/-- The sum of credits. -/
def creditTotal (credits : List OnChainCredit) : ℤ := (credits.map OnChainCredit.value).sum

omit [Interpreter] in
theorem recorded_add_unknown (orders : Orders) (entries : List Entry) :
    sut.recorded orders entries +
      entryTotal (entries.filter fun entry => !decide (sut.Knows orders entry)) =
        entryTotal entries := by
  have parts := List.filter_append_perm (fun entry => decide (sut.Knows orders entry)) entries
  have sums := (parts.map fun entry => entry.log.value).sum_eq
  rw [List.map_append, List.sum_append] at sums
  exact sums

/-- What a reconciliation finds are the credits of the entries that the ledger does not know. -/
theorem credits_perm {entries : List Entry} (finds : sut.Finds orders logs credits)
    (accepted : ∀ log ∈ logs, ∃ credit, decodeTransferLog log sut.config.chainId = .ok credit)
    (shapes : ∀ log ∈ logs, LogShape log) (renders : List.Forall₂ RendersEntry entries logs)
    (distinct : (entries.map (Entry.identity sut.config.chainId)).Nodup) :
    (credits.map fun credit => (credit.identity, credit.value)).Perm
      ((entries.filter fun entry => !decide (sut.Knows orders entry)).map fun entry =>
        (entry.identity sut.config.chainId, (entry.log.value : ℤ))) := by
  have unknown : ∀ {identity : SettlementIdentity},
      (∀ entry ∈ knownEntries orders, entry.settlement ≠ identity) ↔
        identity ∉ (knownEntries orders).map LedgerEntry.settlement := by
    intro identity
    simp only [List.mem_map, not_exists, not_and, ne_eq]
  have first : (credits.map fun credit => (credit.identity, credit.value)).Nodup := by
    refine finds.complement.distinct.map_on ?_
    intro left leftMem right rightMem same
    exact finds.identified left leftMem right rightMem (congrArg Prod.fst same)
  have second : ((entries.filter fun entry => !decide (sut.Knows orders entry)).map fun entry =>
      (entry.identity sut.config.chainId, (entry.log.value : ℤ))).Nodup := by
    refine List.pairwise_map.mpr (((List.pairwise_map.mp distinct).filter _).imp ?_)
    exact fun different same => different (congrArg Prod.fst same)
  refine (List.perm_ext_iff_of_nodup first second).mpr ?_
  rintro ⟨identity, value⟩
  simp only [List.mem_map, List.mem_filter, Prod.mk.injEq]
  constructor
  · rintro ⟨credit, mem, rfl, rfl⟩
    rcases (finds.complement.members credit).mp mem with ⟨⟨log, listed, decoded⟩, _, new⟩
    rcases forall₂_origin renders listed with ⟨entry, inEntries, isRendered⟩
    rcases credit_of_entry isRendered (shapes log listed) decoded with ⟨same, sameValue, _⟩
    refine ⟨entry, ⟨inEntries, ?_⟩, same.symm, sameValue.symm⟩
    rw [same] at new
    simpa [Knows] using unknown.mp new
  · rintro ⟨entry, ⟨inEntries, new⟩, rfl, rfl⟩
    rcases forall₂_origin renders.flip inEntries with ⟨log, listed, isRendered⟩
    rcases accepted log listed with ⟨credit, decoded⟩
    rcases credit_of_entry isRendered (shapes log listed) decoded with ⟨same, sameValue, standing⟩
    refine ⟨credit, (finds.complement.members credit).mpr ⟨⟨log, listed, decoded⟩, standing, ?_⟩,
      same, sameValue⟩
    rw [same, unknown]
    simpa [Knows] using new

theorem decodes_of_found (fetched : sut.Fetched fromBlock said logs)
    (found : sut.unreconciled orders logs = .ok credits) :
    ∀ log ∈ logs, ∃ credit, decodeTransferLog log sut.config.chainId = .ok credit := by
  have accepted := not_refused_of_ok (wellFormed_of_exact sut.exact)
    (wellFormed_of_exact (merchant_of_fetched fetched).1) found
  intro log listed
  cases decoded : decodeTransferLog log sut.config.chainId with
  | error error => exact absurd (Or.inl ⟨log, listed, error, decoded⟩) accepted
  | ok credit => exact ⟨credit, rfl⟩

/-- What is reported as missing and what is recorded are all transfers to the merchant. -/
theorem missing_add_recorded {entries : List Entry} (fetched : sut.Fetched fromBlock said logs)
    (found : sut.unreconciled orders logs = .ok credits)
    (renders : List.Forall₂ RendersEntry entries logs)
    (distinct : (entries.map (Entry.identity sut.config.chainId)).Nodup) :
    creditTotal credits + sut.recorded orders entries = entryTotal entries := by
  have perm := credits_perm (finds_of_unreconciled fetched found) (decodes_of_found fetched found)
    (merchant_of_fetched fetched).2 renders distinct
  have sums := (perm.map Prod.snd).sum_eq
  rw [List.map_map, List.map_map] at sums
  have unknown : creditTotal credits =
      entryTotal (entries.filter fun entry => !decide (sut.Knows orders entry)) := by
    rw [entryTotal, Nat.cast_list_sum, List.map_map]
    exact sums
  have parts := @recorded_add_unknown sut orders entries
  omega

/-- A healed ledger has recorded every transfer to the merchant. -/
theorem Heals.recorded_eq {entries : List Entry} (heals : sut.Heals orders later logs credits)
    (accepted : ∀ log ∈ logs, ∃ credit, decodeTransferLog log sut.config.chainId = .ok credit)
    (shapes : ∀ log ∈ logs, LogShape log) (renders : List.Forall₂ RendersEntry entries logs) :
    sut.recorded later entries = entryTotal entries := by
  have all : ∀ entry ∈ entries, decide (sut.Knows later entry) = true := by
    intro entry inEntries
    rcases forall₂_origin renders.flip inEntries with ⟨log, listed, isRendered⟩
    rcases accepted log listed with ⟨credit, decoded⟩
    rcases credit_of_entry isRendered (shapes log listed) decoded with ⟨same, _, standing⟩
    rcases mem_knownEntries.mpr (heals.covered log listed credit decoded standing) with
      ⟨known, mem, settles⟩
    rw [decide_eq_true_eq, Knows, ← same, ← settles]
    exact List.mem_map_of_mem mem
  rw [recorded, List.filter_eq_self.mpr all]

/-! ### Accounts -/

variable [Cryptography] {deployer : Address} {start : ℕ} {states : ℕ → Onchain.State}
  {transactions : ℕ → List Onchain.Transaction} {state : SutState} {events : List Event}
  {service : Service}

omit [Cryptography] in
/-- From the deployment on or from any block before it, the logs are the same. -/
theorem entries_since (unlogged : Unlogged chain sut.asset start) (early : fromBlock ≤ start + 1)
    (honest : HonestHistory chain said) (fetched : sut.Fetched fromBlock said logs) :
    List.Forall₂ RendersEntry (chain.entries sut.asset (inbound sut.merchant) (start + 1)) logs := by
  rcases entries_of_fetched honest fetched with ⟨number, rfl, renders⟩
  have below : number ≤ start + 1 := by exact_mod_cast early
  rcases below.eq_or_lt with rfl | before
  · exact renders
  · rw [← unlogged.entries_eq (Nat.lt_succ_iff.mp before) rfl]
    exact renders

/-- On a node that reports the logs of its chain, a reconciliation from the deployment on reports
exactly the money that the ledger lacks, and with reconciliation enabled the ledger lacks nothing
afterwards: what it has recorded are all transfers to the merchant.  With what the token does not
report as a transfer they are what the merchant holds or has spent. -/
theorem reconciled_funds (past : Deployment chain sut.asset deployer start states transactions)
    (unlogged : Unlogged chain sut.asset start) (mined : start < chain.blocks.length)
    (honest : HonestHistory chain said) (early : fromBlock ≤ start + 1)
    (run : sut.Run (fun _ _ _ => True) events service)
    (replays : (sut.reconcile fromBlock).Replays service.state said (.ok credits) state) :
    (creditTotal credits + sut.recorded service.state.orders
        (chain.entries sut.asset (inbound sut.merchant) (start + 1)) =
      (accountFlows chain sut.asset sut.merchant start states transactions).reported) ∧
    (sut.config.reconciliationEnabled = true →
      CollisionFree (Occurs service.state.orders credits) →
        sut.recorded state.orders
            (chain.entries sut.asset (inbound sut.merchant) (start + 1)) =
          (accountFlows chain sut.asset sut.merchant start states transactions).reported) ∧
    (accountFlows chain sut.asset sut.merchant start states transactions).Lead 0
      ((states (chain.blocks.length - 1)).balances sut.merchant) := by
  rcases past.accounts mined with ⟨reported, lead⟩
  rw [← reported]
  have distinct := chain.nodup_identities sut.asset (inbound sut.merchant) (start + 1)
    sut.config.chainId
  cases reconciles_of_replays replays with
  | reported fetched found disabled =>
    refine ⟨missing_add_recorded fetched found (entries_since unlogged early honest fetched)
      distinct, fun enabled => ?_, lead⟩
    rw [enabled] at disabled
    cases disabled
  | @healed logs front back orders _ fetched found _ healed whole =>
    rcases whole credits rfl with ⟨rfl, rfl⟩
    rw [List.append_nil] at found
    have renders := entries_since unlogged early honest fetched
    refine ⟨missing_add_recorded fetched found renders distinct, fun _ free => ?_, lead⟩
    have parted := (sut.parted_invariant fun _ _ _ => True).of_run run
    have heals := (finds_of_unreconciled fetched found).heals free parted healed
    exact heals.recorded_eq (decodes_of_found fetched found) (merchant_of_fetched fetched).2 renders

/-! ### A sample merchant

The payee of the sample chain is a merchant whose ledger has lost the payment. -/

section Sample

open Node.Sample Onchain.Sample

omit [Interpreter] [Cryptography]

def sampleMerchant : ReferenceSut where
  config := { sampleSut.config with
    tokenAddress := Node.Sample.token.address, merchantAddress := hexAddress payee.toNat
    chainId := 84532 }
  accountAddress := hexAddress 0xac
  exact := by decide +kernel

def paidEntry : Entry :=
  ⟨2, 0x12, txHash, ⟨target, transferTopics payer payee, wordData 100, 1⟩⟩

def paidLog : Fields := logJson 2 0x12 txHash 0 paidEntry.log

def paidCredit : OnChainCredit :=
  ⟨paidEntry.identity 84532, hexWord 0x12, 2, hexAddress payer.toNat, hexAddress payee.toNat, 100,
    false⟩

theorem renders_paidLog : letI := cryptography
    List.Forall₂ RendersEntry (Onchain.Sample.chain.entries target (inbound payee) 0)
      [paidLog] := by
  let := cryptography
  have entries : Onchain.Sample.chain.entries target (inbound payee) 0 = [paidEntry] := by
    decide +kernel
  rw [entries]
  exact .cons (rendersLog_logJson _ _ _ _ _) .nil

/-- The sample merchant has got 100 reported, 1 withheld and 99 left. -/
theorem flows_sample : letI := cryptography
    accountFlows Onchain.Sample.chain target payee 0 Onchain.Sample.states
      Onchain.Sample.transactions = ⟨100, 0, 0, 0, 1⟩ := by
  let := cryptography
  decide +kernel

theorem exists_sampleReconciling : letI := interpreter
    letI := cryptography
    ∃ said state, HonestHistory Onchain.Sample.chain said ∧
      (sampleMerchant.reconcile 0).Replays ⟨∅, 100⟩ said (.ok [paidCredit]) state := by
  let := interpreter
  let := cryptography
  have found : sampleMerchant.unreconciled ∅ [paidLog] = .ok [paidCredit] := by
    decide +kernel
  have keyed : ∃ key, identityKey paidCredit.identity = .ok key := by
    apply exists_ok_of_isSome
    decide +kernel
  have filtered : ∃ filter, logFilter sampleMerchant.config.tokenAddress
      [some topicTransfer, none, some (hexWord payee.toNat)] (.number 0) (.tag "latest") =
        .ok filter := by
    apply exists_ok_of_isSome
    decide +kernel
  have isTopic : Reconciliation.topicAddr (.str sampleMerchant.config.merchantAddress) =
      .ok (hexWord payee.toNat) := by
    decide +kernel
  have shape : ∀ log ∈ [paidLog], LogShape log := by
    intro log mem
    rw [List.mem_singleton.mp mem]
    exact logShape_logJson _ _ _ _ _ (by decide)
  rcases keyed with ⟨key, keyed⟩
  rcases filtered with ⟨filter, filtered⟩
  rcases filter_of_logFilter (by decide +kernel) isTopic filtered with ⟨number, isNumber, rfl⟩
  obtain rfl : number = 0 := by exact_mod_cast isNumber.symm
  have accepted : checkLogs (.list ([paidLog].map .dict)) = .ok [paidLog] :=
    checkLogs_eq_ok_iff.mpr ⟨rfl, by decide, shape⟩
  have fetched : sampleMerchant.Fetched 0 [exchange "eth_getLogs" [historyFilter
      sampleMerchant.config.tokenAddress (inbound sampleMerchant.merchant) 0]
        (.ok (.list ([paidLog].map .dict)))] [paidLog] := by
    refine ⟨hexWord payee.toNat, isTopic, (getLogs_tells_iff filtered).mpr
      ⟨.ok (.list ([paidLog].map .dict)), rfl, ?_⟩⟩
    rw [Except.mapError, Except.bind, accepted]
  have isMerchant : sampleMerchant.merchant = payee := readAddress_hexAddress _
  rw [isMerchant] at fetched
  exact ⟨_, _, honestHistory_answer renders_paidLog,
    replays_of_reconciled fetched found rfl (.booked keyed .none)⟩

/-- The sample reconciliation reports 100 of which the merchant holds 99, and books them. -/
theorem reconciled_funds_sample : letI := interpreter
    letI := cryptography
    ∃ said state, (sampleMerchant.reconcile 0).Replays ⟨∅, 100⟩ said (.ok [paidCredit]) state ∧
      creditTotal [paidCredit] = 100 ∧
      sampleMerchant.recorded state.orders
        (Onchain.Sample.chain.entries sampleMerchant.asset (inbound sampleMerchant.merchant) 1) =
          100 ∧
      (Onchain.Sample.states 2).balances payee = 99 := by
  let := interpreter
  let := cryptography
  rcases exists_sampleReconciling with ⟨said, state, honest, replays⟩
  have new : sampleMerchant.Run (fun _ _ _ => True) [] ⟨⟨∅, 100⟩, []⟩ := .start
  have free : CollisionFree (Occurs ∅ [paidCredit]) := by
    have only : ∀ identity, Occurs ∅ [paidCredit] identity → identity = paidCredit.identity := by
      rintro identity (⟨key, order, impossible, _⟩ | ⟨credit, mem, rfl⟩)
      · rw [AList.lookup_empty] at impossible
        cases impossible
      · rw [List.mem_singleton.mp mem]
    intro first second text other isFirst isSecond isText isOther _
    rw [only first isFirst] at isText
    rw [only second isSecond, isText] at isOther
    exact Except.ok.inj isOther
  have funds := reconciled_funds Onchain.Sample.deployment unlogged_sample (by decide +kernel)
    honest (by decide) new replays
  have isMerchant : sampleMerchant.merchant = payee := readAddress_hexAddress _
  have isAsset : sampleMerchant.asset = target := rfl
  rw [isMerchant, isAsset, flows_sample] at funds
  rw [isMerchant, isAsset]
  have lead : (Onchain.Sample.states 2).balances payee + 0 + 1 = 0 + 100 + 0 + 0 := funds.2.2
  exact ⟨said, state, replays, rfl, funds.2.1 rfl free, Nat.add_right_cancel lead⟩

end Sample

end ReferenceSut

end Psv
