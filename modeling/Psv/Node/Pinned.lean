import Psv.Node.Serve

/-!
# What an attestation pins

A calibrated rail names a reviewed block by its number and hash, and the
implementation behind a proxy by the slot, the address and the digest of its code.
On a chain where all this is as it was pinned (`Pinned`) a node that serves the chain
answers for it, and the answers pass the checks.
-/

namespace Psv

open Python Interaction Program RpcClient Anvil Chain Rails

namespace Node

variable [Interpreter] {chain : Chain} {rail : RailConfig} {block : Block}

/-! ### Fields of the objects -/

section Fields

variable (number position : ℕ) (ofBlock parentHash : Word) (receipt : Receipt) (block : Block)

theorem lower_hexPad (digits n : ℕ) :
    lower ('0' :: 'x' :: hexPad digits n) = '0' :: 'x' :: hexPad digits n := by
  rw [lower_prefixed (all_hexPad digits n), map_toLower_hexPad]

theorem lower_hexWord (n : ℕ) : lower (hexWord n) = hexWord n := lower_hexPad _ _

omit [Interpreter] in
theorem quantityAt_pyHex {fields : Fields} {name : String} {n : ℕ}
    (is : getField fields name = .str (pyHex n)) : QuantityAt fields name n :=
  ⟨_, is, isQuantity_pyHex n, ((spells_pyHex n).quantity_eq (isQuantity_pyHex n)).symm⟩

theorem hashAt_hexWord {fields : Fields} {name : String} {n : ℕ}
    (is : getField fields name = .str (hexWord n)) : HashAt fields name (hexWord n) :=
  ⟨_, is, isExactHex_hexWord n, (lower_hexWord n).symm⟩

theorem blockOk_blockJson (bounded : block.receipts.length ≤ maxRpcListItems) :
    BlockOk (blockJson number parentHash block) number (hexWord block.hash.toNat) :=
  ⟨blockShape_blockJson number parentHash block bounded, quantityAt_pyHex rfl, hashAt_hexWord rfl⟩

theorem codeOk_hexData {data : List UInt8} (deployed : data ≠ []) :
    CodeOk (hexData data) (Interpreter.sha256 data) := by
  have same : (bytesHex data).map Char.toLower = bytesHex data := by
    have spells := spells_hexData data
    simpa [Spells, hexData] using spells
  exact ⟨isData_hexData data, data, fromHex_of_map_toLower_eq (all_bytesHex data) same, deployed,
    rfl⟩

end Fields

/-! ### Words that hold an address -/

section Addresses

theorem lower_address {text : Str} (shape : isExactHex 40 text = true) :
    lower text = hexAddress (readAddress text).toNat :=
  (spells_readAddress shape).lower_eq shape

theorem lower_word {text : Str} (shape : isExactHex 64 text = true) :
    lower text = hexWord (readWord text).toNat :=
  (spells_readWord shape).lower_eq shape

omit [Interpreter] in
/-- A word that holds an address starts with zeros. -/
theorem hexWord_address (address : Address) :
    hexWord address.toNat = '0' :: 'x' :: (List.replicate 24 '0' ++ hexPad 40 address.toNat) := by
  have small : address.toNat < 16 ^ 40 := lt_of_lt_of_eq address.isLt (by norm_num)
  rw [replicate_zero_append_hexPad 24 40 _ small]
  rfl

omit [Interpreter] in
theorem hexWord_setWidth (address : Address) :
    hexWord (address.setWidth 256).toNat =
      '0' :: 'x' :: (List.replicate 24 '0' ++ hexPad 40 address.toNat) := by
  rw [BitVec.toNat_setWidth_of_le (by decide), hexWord_address]

/-- Its last twenty bytes are the address. -/
theorem lower_tail {address : Str} (shape : isExactHex 40 address = true) :
    '0' :: 'x' :: lower ((hexWord ((readAddress address).setWidth 256).toNat).drop
      ((hexWord ((readAddress address).setWidth 256).toNat).length - 40)) = lower address := by
  have behind : (hexWord ((readAddress address).setWidth 256).toNat).drop
      ((hexWord ((readAddress address).setWidth 256).toNat).length - 40) =
      hexPad 40 (readAddress address).toNat := by
    rw [hexWord_setWidth]
    simp only [List.length_cons, List.length_append, List.length_replicate, length_hexPad]
    exact List.drop_left' (List.length_replicate ..)
  have ascii : ∀ c ∈ hexPad 40 (readAddress address).toNat, c.toNat < 128 := fun c mem =>
    isAscii_of_isHexDigit (List.all_eq_true.mp (all_hexPad 40 _) c mem)
  rw [behind, lower_eq_map ascii, map_toLower_hexPad, lower_address shape, hexAddress]

/-- The spelling of an address does not matter. -/
theorem readAddress_lower {address : Str} (shape : isExactHex 40 address = true) :
    readAddress (lower address) = readAddress address := by
  rw [lower_address shape, readAddress_hexAddress]

end Addresses

/-! ### The reviewed block and the implementation -/

/-- The chain has the reviewed block, and the token's slot the implementation, as they are pinned. -/
structure Pinned (chain : Chain) (rail : RailConfig) (block : Block) : Prop where
  reviewed : ∀ number, reviewAnchor rail = some number → ∃ anchor,
    chain.blocks[number.toNat]? = some anchor ∧ anchor.receipts.length ≤ maxRpcListItems ∧
      rail.attestation.reviewedBlockHash = some (hexWord anchor.hash.toNat)
  implementation : rail.attestation.proxyKind ≠ .none → ∃ slot address,
    rail.attestation.proxyImplementationSlot = some slot ∧
    rail.attestation.implementationAddress = some address ∧
    block.post.storage (readAddress rail.tokenAddress) (readWord slot) =
      (readAddress address).setWidth 256 ∧
    block.post.code (readAddress address) ≠ [] ∧
    rail.attestation.implementationCodeSha256 =
      some (Interpreter.sha256 (block.post.code (readAddress address)))

/-- A rail that pins neither is met by every chain. -/
theorem pinned_of_free (noAnchor : reviewAnchor rail = none)
    (noProxy : rail.attestation.proxyKind = .none) : Pinned chain rail block := by
  constructor
  · intro number anchored
    rw [noAnchor] at anchored
    cases anchored
  · exact fun proxied => absurd noProxy proxied

omit [Interpreter] in
/-- The reviewed block as the node writes it. -/
def reviewedOf (chain : Chain) (rail : RailConfig) : Option Fields :=
  match reviewAnchor rail with
  | none => none
  | some number => (chain.blocks[number.toNat]?).map fun anchor =>
      blockJson number.toNat (chain.parentHash number.toNat) anchor

omit [Interpreter] in
/-- The slot and the code of the implementation as the node writes them. -/
def implementationOf (rail : RailConfig) (state : State) : Option (Str × Str) :=
  if rail.attestation.proxyKind = .none then none
  else some (hexWord (state.storage (readAddress rail.tokenAddress)
      (readWord (rail.attestation.proxyImplementationSlot.getD []))).toNat,
    hexData (state.code (readAddress (rail.attestation.implementationAddress.getD []))))

/-- The identity that a verdict reports for the implementation. -/
def identityOf (rail : RailConfig) : Option Str × Option Str :=
  if rail.attestation.proxyKind = .none then (none, none)
  else (rail.attestation.implementationAddress.map lower, rail.attestation.implementationCodeSha256)

theorem Pinned.anchorOk (pinned : Pinned chain rail block) :
    AnchorOk rail (reviewedOf chain rail) := by
  rcases anchored : reviewAnchor rail with _ | number
  · simp only [AnchorOk, reviewedOf, anchored]
  · rcases pinned.reviewed number anchored with ⟨anchor, found, bounded, isHash⟩
    simp only [AnchorOk, reviewedOf, anchored, found, Option.map_some]
    exact ⟨_, blockOk_blockJson _ _ _ bounded, isHash⟩

/-- A slot that holds the pinned address, with the pinned code behind it, passes the check. -/
theorem implementationOk_of_stored {state : State} {target : Address} {slot address : Str}
    (proxied : rail.attestation.proxyKind ≠ .none)
    (isSlot : rail.attestation.proxyImplementationSlot = some slot)
    (isAddress : rail.attestation.implementationAddress = some address)
    (stored : state.storage target (readWord slot) = (readAddress address).setWidth 256)
    (deployed : state.code (readAddress address) ≠ [])
    (isCode : rail.attestation.implementationCodeSha256 =
      some (Interpreter.sha256 (state.code (readAddress address)))) :
    ImplementationOk rail (some (hexWord (state.storage target (readWord slot)).toNat,
        hexData (state.code (readAddress address))))
      (some (lower address), rail.attestation.implementationCodeSha256) := by
  have shape := rail.attestation.valid.implementation address isAddress
  refine ⟨proxied, slot, address, _, isSlot, isAddress, isCode, isExactHex_hexWord _, ?_, ?_,
    codeOk_hexData deployed, by rw [isCode]⟩
  · rw [stored, hexWord_setWidth]
    exact List.take_left' (List.length_replicate ..)
  · rw [stored]
    exact lower_tail shape

theorem Pinned.implementationOk (pinned : Pinned chain rail block) :
    ImplementationOk rail (implementationOf rail block.post) (identityOf rail) := by
  by_cases plain : rail.attestation.proxyKind = .none
  · rw [implementationOf, identityOf, if_pos plain, if_pos plain]
    exact ⟨plain, rfl⟩
  · rcases pinned.implementation plain with
      ⟨slot, address, isSlot, isAddress, stored, deployed, isCode⟩
    rw [implementationOf, identityOf, if_neg plain, if_neg plain, isSlot, isAddress]
    exact implementationOk_of_stored plain isSlot isAddress stored deployed isCode

/-! ### A node that serves the chain -/

omit [Interpreter] in
theorem serve_slot {number : ℕ} {block : Block} (target slot : Str)
    (found : chain.blocks[number]? = some block) :
    serve chain "eth_getStorageAt" [.str target, .str slot, .str (pyHex number)] =
      .ok (.str (hexWord (block.post.storage (readAddress target) (readWord slot)).toNat)) := by
  simp [serve, atBlock_of_found found]

theorem Pinned.served_anchor (pinned : Pinned chain rail block) {earlier : Conversation} :
    ∀ entry ∈ anchorSaid rail (reviewedOf chain rail), entry.2 = served chain earlier entry.1 := by
  rcases anchored : reviewAnchor rail with _ | number
  · simp [anchorSaid, anchored]
  · rcases pinned.reviewed number anchored with ⟨anchor, found, _, _⟩
    simp only [anchorSaid, reviewedOf, anchored, found, Option.map_some, List.mem_singleton]
    rintro _ rfl
    exact (serve_block found).symm

theorem Pinned.served_implementation (pinned : Pinned chain rail block) {number : ℕ}
    {earlier : Conversation} (found : chain.blocks[number]? = some block) :
    ∀ entry ∈ implementationSaid rail number (implementationOf rail block.post),
      entry.2 = served chain earlier entry.1 := by
  by_cases plain : rail.attestation.proxyKind = .none
  · rw [implementationOf, if_pos plain]
    exact List.forall_mem_nil _
  · rcases pinned.implementation plain with ⟨slot, address, isSlot, isAddress, _⟩
    have shape := rail.attestation.valid.implementation address isAddress
    rw [implementationOf, if_neg plain, isSlot, isAddress]
    simp only [implementationSaid, isSlot, isAddress, Option.getD_some, List.mem_cons,
      List.not_mem_nil, or_false]
    rintro _ (rfl | rfl)
    · exact (serve_slot _ _ found).symm
    · rw [← readAddress_lower shape]
      exact (serve_code _ found).symm

end Node

end Psv
