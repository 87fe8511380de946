import Psv.Node.Reading

/-!
# Reverted transactions and unspent authorizations

When the transaction of a payment has reverted, the verdict depends on the state
of the authorization at the settlement block.  A verdict without funds therefore
says that nothing settled the authorization up to that block
(`unspent_at_settlement`).  It says nothing about the blocks between settlement
and finality, where the same authorization may still be settled
(`respent_before_finality`).
-/

namespace Psv

open Python Interaction Program RpcClient Anvil Chain Rails

namespace Node

/-! ### Tokens with authorizations -/

/-- The transaction settles the authorization. -/
def Receipt.Settles (receipt : Receipt) (token who : Address) (nonce : Word) : Prop :=
  receipt.success = true ∧
    ∃ log ∈ receipt.logs, log.emitter = token ∧ log.topics = usedTopics who nonce

/-- An authorization that is settled is used, and stays so. -/
structure Chain.Eip3009 (chain : Chain) (token : Address) : Prop where
  settles : ∀ (number : ℕ) block, chain.blocks[number]? = some block →
    ∀ receipt ∈ block.receipts, ∀ who nonce, receipt.Settles token who nonce →
      block.post.used token who nonce = true
  keeps : ∀ (number : ℕ) block next, chain.blocks[number]? = some block →
    chain.blocks[number + 1]? = some next → ∀ who nonce,
      block.post.used token who nonce = true → next.post.used token who nonce = true

/-- What is used stays used along the chain. -/
theorem Chain.Eip3009.used_mono {chain : Chain} {token who : Address} {nonce : Word}
    {earlier later : ℕ} {block last : Block} (eip3009 : chain.Eip3009 token)
    (order : earlier ≤ later) (found : chain.blocks[earlier]? = some block)
    (foundLast : chain.blocks[later]? = some last)
    (used : block.post.used token who nonce = true) : last.post.used token who nonce = true := by
  induction later, order using Nat.le_induction generalizing last with
  | base =>
      cases found.symm.trans foundLast
      exact used
  | succ later order ih =>
      have inside : later < chain.blocks.length := by
        have := (List.getElem?_eq_some_iff.mp foundLast).1
        omega
      have previous := List.getElem?_eq_getElem inside
      exact eip3009.keeps later _ last previous foundLast who nonce (ih previous)

end Node

namespace Verdict

open Node

/-- A verdict without funds on an honest chain says that no transaction up to the settlement
block has settled the authorization. -/
theorem unspent_at_settlement [Interpreter] {σ : Type} {chain : Chain} {world : World}
    {token : TokenView} {rail : RailConfig} {payment : Payment} {believes : Bool}
    {state finalState : σ} {history finalHistory : Conversation} {result : LiveReconciliation}
    (honest : HonestWorld chain world) (eip3009 : chain.Eip3009 (readAddress token.address))
    (returned : Returns world (reconcileLive token rail payment believes) state history result
      finalState finalHistory)
    (unpaid : result.divergence.kind = .phantomCredit ∨
      result.divergence.kind = .consistentUnpaid) :
    ∃ (number : ℕ) (block : Block), result.evidence.settlementBlockNumber = number ∧
      result.evidence.settlementBlockHash = hexWord block.hash.toNat ∧
      chain.blocks[number]? = some block ∧
      block.post.used (readAddress token.address) (readAddress payment.payer)
        (readWord payment.nonce) = false ∧
      ∀ earlier ≤ number, ∀ found, chain.blocks[earlier]? = some found →
        ∀ receipt ∈ found.receipts, ¬receipt.Settles (readAddress token.address)
          (readAddress payment.payer) (readWord payment.nonce) := by
  obtain ⟨said, _, follows, replays⟩ := returns_iff.mp returned
  obtain ⟨_, window, accepted, rfl, evidence, detected⟩ := replays_reconcileLive_ok_iff.mp replays
  obtain ⟨_, block, _, _, mined, _, evidenceOf⟩ :=
    evidenceOf_chain accepted (honest.entry follows)
  have failed : window.point.status ≠ 1 := by
    intro success
    have kind := (accepted.graded detected).1
    rw [success] at kind
    rcases unpaid with is | is <;> rw [is] at kind <;> cases believes <;>
      by_cases short : window.attribution.receivedAmount < payment.requiredAmount <;>
        simp [grade, short] at kind
  have attribution := accepted.attribution
  rcases raced : window.race with _ | ⟨inbound, outbound⟩
  · rw [raced] at attribution
    have unused : block.post.used (readAddress token.address) (readAddress payment.payer)
        (readWord payment.nonce) = false := by
      rw [← evidenceOf.nonce]
      exact attribution.2.1
    refine ⟨window.point.number, block, ?_, ?_, mined.inChain, unused, ?_⟩
    · rw [evidence]
      exact evidenceOf.number
    · rw [evidence]
      exact evidenceOf.hash
    · intro earlier order found foundAt receipt listed settles
      have used := eip3009.used_mono order foundAt mined.inChain
        (eip3009.settles earlier found foundAt receipt listed _ _ settles)
      rw [unused] at used
      cases used
  · rw [raced] at attribution
    exact absurd attribution.1 failed

/-! ### An authorization that is settled later -/

namespace Respent

open Node.Sample

/-- The first attempt reverts; the second settles the same authorization. -/
def reverted : Receipt := ⟨txHash, false, []⟩

def again : Receipt := ⟨0x1002, true, [authorization, transfer payer payee 100 1]⟩

def first : Block := ⟨0x11, 1, [reverted], post 1000 0 0 false⟩

def second : Block := ⟨0x12, 2, [again], paid⟩

def chain : Node.Chain where
  chainId := 84532
  blocks := [genesis, first, second]
  transactions_nodup := by decide
  positions_nodup := by simp [genesis, first, second, Block.logs, reverted, again, authorization,
    transfer]

theorem eip3009 : chain.Eip3009 (readAddress token.address) := by
  constructor
  · rintro (_ | _ | _ | number) block found receipt listed who nonce settles
    · cases found
      cases listed
    · cases found
      obtain rfl := List.mem_singleton.mp listed
      cases settles.1
    · cases found
      rfl
    · cases found
  · rintro (_ | _ | number) block next found foundNext who nonce used
    · cases found
      cases used
    · cases foundNext
      rfl
    · cases foundNext

theorem returned (believes : Bool) : letI := interpreter
    ∃ said result, Returns (served chain)
        (reconcileLive token mockAnvil (paymentTo payee) believes) () [] result () said ∧
      result.divergence.kind = grade false believes false ∧
      result.evidence.settlementBlockNumber = 1 ∧ result.evidence.finalityBlockNumber = 2 := by
  let := interpreter
  have readable : Readable chain token mockAnvil (paymentTo payee) 1 0 first second reverted :=
    Node.Sample.readable rfl ⟨rfl, rfl⟩ rfl rfl (by decide) (by simp [reverted]) rfl
  obtain ⟨divergence, detected, returned⟩ := returns_reverted believes readable
    (balanced rfl (by decide) rfl) rfl rfl
  refine ⟨_, _, returned, ?_, rfl, rfl⟩
  rw [(detectPaymentDivergence_grade detected).1]
  cases believes <;> rfl

end Respent

open Node.Sample in
/-- The sample payment whose first transaction reverted. -/
theorem unspent_at_settlement_sample : letI := interpreter
    ∃ (number : ℕ) (block : Block), Respent.chain.blocks[number]? = some block ∧
      block.post.used (readAddress token.address) (readAddress (paymentTo payee).payer)
        (readWord (paymentTo payee).nonce) = false := by
  let := interpreter
  obtain ⟨_, result, returned, kind, _⟩ := Respent.returned false
  obtain ⟨number, block, _, _, found, unused, _⟩ :=
    unspent_at_settlement (honestWorld_served _) Respent.eip3009 returned (Or.inr kind)
  exact ⟨number, block, found, unused⟩

open Node.Sample in
/-- The authorization of a phantom credit is settled at the finality block of the evidence. -/
theorem respent_before_finality : letI := interpreter
    HonestWorld Respent.chain (served Respent.chain) ∧
      Respent.chain.Eip3009 (readAddress token.address) ∧
      ∃ said result, Returns (served Respent.chain)
          (reconcileLive token mockAnvil (paymentTo payee) true) () [] result () said ∧
        result.divergence.kind = .phantomCredit ∧
        result.evidence.finalityBlockNumber = 2 ∧
        Respent.chain.blocks[2]? = some Respent.second ∧
        Respent.second.post.used (readAddress token.address)
          (readAddress (paymentTo payee).payer) (readWord (paymentTo payee).nonce) = true := by
  let := interpreter
  obtain ⟨said, result, returned, kind, _, finality⟩ := Respent.returned true
  exact ⟨honestWorld_served _, Respent.eip3009, said, result, returned, kind, finality, rfl, rfl⟩

end Verdict

end Psv
