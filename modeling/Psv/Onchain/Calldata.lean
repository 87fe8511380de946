import Psv.Onchain.Token
import Psv.Verdict.Attribution

/-!
# The calldata of a settlement

The token reads the arguments of a transfer from calldata as the ABI lays them
out: seven words, the last of which says where the length and the bytes of the
signature are.  What `settle_calldata` writes by hand is the same bytes in
hexadecimal, for every payment it accepts; so the token decodes exactly the
arguments that were given, and different arguments have different calldata.
-/

namespace Psv

open Python Interaction Node Chain TokenView

namespace Onchain

/-! ### Decoding -/

/-- The selector of `transferWithAuthorization` with a signature in bytes. -/
def selector : List UInt8 := [0xcf, 0x09, 0x29, 0x95]

/-- A word whose first twelve bytes are zero, as an address. -/
def decodeAddress (word : Word) : Option Address :=
  if (word.setWidth 160).setWidth 256 = word then some (word.setWidth 160) else none

/-- The bytes behind a length, at an offset into the arguments. -/
def decodeBytes (arguments : List UInt8) (offset : Word) : Option (List UInt8) :=
  let length := (calldataload arguments offset.toNat).toNat
  if offset.toNat < 2 ^ 64 ∧ offset.toNat + 32 ≤ arguments.length ∧ length < 2 ^ 64 ∧
      offset.toNat + 32 + length ≤ arguments.length then
    some ((arguments.drop (offset.toNat + 32)).take length)
  else none

/-- The arguments of a transfer, or nothing when the call reverts before its body runs. -/
def decodeCalldata (calldata : List UInt8) : Option Authorization :=
  let arguments := calldata.drop 4
  if calldata.take 4 = selector ∧ 7 * 32 ≤ arguments.length then do
    let fromAddr ← decodeAddress (calldataload arguments 0)
    let toAddr ← decodeAddress (calldataload arguments 32)
    let signature ← decodeBytes arguments (calldataload arguments 192)
    return ⟨fromAddr, toAddr, calldataload arguments 64, calldataload arguments 96,
      calldataload arguments 128, calldataload arguments 160, signature⟩
  else none

/-- The words of a transfer before the bytes of its signature. -/
def headWords (authorization : Authorization) : List Word :=
  [authorization.fromAddr.setWidth 256, authorization.toAddr.setWidth 256, authorization.value,
    authorization.validAfter, authorization.validBefore, authorization.nonce, 224, 65]

/-- The calldata of a transfer whose signature has 65 bytes. -/
def encodeCalldata (authorization : Authorization) : List UInt8 :=
  selector ++ (abiEncode (headWords authorization) ++
    (authorization.signature ++ List.replicate 31 0))

theorem length_wordData (word : Word) : (wordData word).length = 32 := length_bytesOf 32 _

theorem length_abiEncode (words : List Word) : (abiEncode words).length = 32 * words.length := by
  induction words with
  | nil => rfl
  | cons word words ih =>
    have split : abiEncode (word :: words) = wordData word ++ abiEncode words := rfl
    rw [split, List.length_append, length_wordData, ih, List.length_cons]
    omega

/-- What is loaded in the middle of data is what stands there. -/
theorem calldataload_append (before rest : List UInt8) (word : Word) :
    calldataload (before ++ (wordData word ++ rest)) before.length = word := by
  have stands : (List.range 32).map
      (fun position => (before ++ (wordData word ++ rest)).getD (before.length + position) 0) =
        wordData word := by
    apply List.ext_getElem
    · rw [List.length_map, List.length_range, length_wordData]
    · intro position _ inside
      rw [List.getElem_map, List.getElem_range, List.getD_eq_getElem?_getD,
        List.getElem?_append_right (Nat.le_add_right _ _), Nat.add_sub_cancel_left,
        List.getElem?_append_left inside, List.getElem?_eq_getElem inside, Option.getD_some]
  have value : bytesVal (wordData word) = word.toNat := by
    rw [wordData, bytesVal_bytesOf]
    exact Nat.mod_eq_of_lt (lt_of_lt_of_eq word.isLt (by norm_num))
  have folded : (List.range 32).foldl (fun n position => 256 * n +
      ((before ++ (wordData word ++ rest)).getD (before.length + position) 0).toNat) 0 =
        bytesVal (wordData word) := by
    rw [← List.foldl_map (f := fun position =>
      (before ++ (wordData word ++ rest)).getD (before.length + position) 0)
      (g := fun n byte => 256 * n + UInt8.toNat byte), stands, bytesVal]
  rw [calldataload, folded, value]
  exact BitVec.eq_of_toNat_eq (Nat.mod_eq_of_lt word.isLt)

theorem calldataload_abiEncode (words : List Word) (rest : List UInt8) (i : ℕ)
    (inside : i < words.length) : calldataload (abiEncode words ++ rest) (32 * i) = words[i] := by
  have split : abiEncode words ++ rest = abiEncode (words.take i) ++
      (wordData words[i] ++ (abiEncode (words.drop (i + 1)) ++ rest)) := by
    conv_lhs => rw [← List.take_append_drop i words, List.drop_eq_getElem_cons inside]
    simp only [abiEncode, List.flatMap_append, List.flatMap_cons, List.append_assoc]
  have offset : 32 * i = (abiEncode (words.take i)).length := by
    rw [length_abiEncode, List.length_take, Nat.min_eq_left inside.le]
  rw [split, offset]
  exact calldataload_append _ _ _

theorem decodeAddress_setWidth (address : Address) :
    decodeAddress (address.setWidth 256) = some address := by
  have back : (address.setWidth 256).setWidth 160 = address := by
    apply BitVec.eq_of_toNat_eq
    rw [BitVec.toNat_setWidth, BitVec.toNat_setWidth]
    have small := address.isLt
    omega
  rw [decodeAddress, back, if_pos rfl]

/-- The signature stands behind its length. -/
theorem decodeBytes_signature (authorization : Authorization)
    (long : authorization.signature.length = 65) (rest : List UInt8) :
    decodeBytes (abiEncode (headWords authorization) ++ (authorization.signature ++ rest)) 224 =
      some authorization.signature := by
  have headLength : (abiEncode (headWords authorization)).length = 256 := length_abiEncode _
  have lengthWord : calldataload (abiEncode (headWords authorization) ++
      (authorization.signature ++ rest)) 224 = 65 :=
    calldataload_abiEncode (headWords authorization) _ 7 (by simp [headWords])
  have offset : (224 : Word).toNat = 224 := rfl
  have size : (65 : Word).toNat = 65 := rfl
  rw [decodeBytes, offset, lengthWord, size, if_pos]
  · rw [show 224 + 32 = (abiEncode (headWords authorization)).length from headLength.symm,
      List.drop_left, ← long, List.take_left]
  · rw [List.length_append, List.length_append, headLength, long]
    omega

/-- What is encoded is decoded. -/
theorem decode_encodeCalldata (authorization : Authorization)
    (long : authorization.signature.length = 65) :
    decodeCalldata (encodeCalldata authorization) = some authorization := by
  have selected : (encodeCalldata authorization).take 4 = selector := List.take_left' rfl
  have dropped : (encodeCalldata authorization).drop 4 = abiEncode (headWords authorization) ++
    (authorization.signature ++ List.replicate 31 0) := List.drop_left' rfl
  have count : (headWords authorization).length = 8 := rfl
  have wide : 7 * 32 ≤ (abiEncode (headWords authorization) ++
      (authorization.signature ++ List.replicate 31 0)).length := by
    rw [List.length_append, length_abiEncode, count]
    omega
  have signature := decodeBytes_signature authorization long (List.replicate 31 0)
  have word := calldataload_abiEncode (headWords authorization)
    (authorization.signature ++ List.replicate 31 0)
  generalize abiEncode (headWords authorization) ++
    (authorization.signature ++ List.replicate 31 0) = arguments at *
  have fromAddr : calldataload arguments 0 = authorization.fromAddr.setWidth 256 :=
    word 0 (by rw [count]; omega)
  have toAddr : calldataload arguments 32 = authorization.toAddr.setWidth 256 :=
    word 1 (by rw [count]; omega)
  have value : calldataload arguments 64 = authorization.value := word 2 (by rw [count]; omega)
  have validAfter : calldataload arguments 96 = authorization.validAfter :=
    word 3 (by rw [count]; omega)
  have validBefore : calldataload arguments 128 = authorization.validBefore :=
    word 4 (by rw [count]; omega)
  have nonce : calldataload arguments 160 = authorization.nonce := word 5 (by rw [count]; omega)
  have offset : calldataload arguments 192 = 224 := word 6 (by rw [count]; omega)
  simp only [decodeCalldata, dropped, selected, true_and, if_pos wide, fromAddr, toAddr, value,
    validAfter, validBefore, nonce, offset, decodeAddress_setWidth, signature]
  rfl

theorem length_encodeCalldata (authorization : Authorization)
    (long : authorization.signature.length = 65) :
    (encodeCalldata authorization).length = 356 := by
  have count : (headWords authorization).length = 8 := rfl
  have four : selector.length = 4 := rfl
  rw [encodeCalldata, List.length_append, List.length_append, List.length_append,
    length_abiEncode, List.length_replicate, long, count, four]

/-- Behind the signature there are zeros. -/
theorem drop_encodeCalldata (authorization : Authorization)
    (long : authorization.signature.length = 65) :
    (encodeCalldata authorization).drop 325 = List.replicate 31 0 := by
  have count : (headWords authorization).length = 8 := rfl
  have four : selector.length = 4 := rfl
  have regrouped : encodeCalldata authorization = selector ++ abiEncode (headWords authorization) ++
      authorization.signature ++ List.replicate 31 0 := by
    rw [encodeCalldata, List.append_assoc, List.append_assoc]
  rw [regrouped]
  apply List.drop_left'
  rw [List.length_append, List.length_append, length_abiEncode, long, count, four]

end Onchain

open Onchain

/-! ### Encoding -/

namespace TokenView

/-- A text of exactly so many hexadecimal digits after `0x`, which denote a number. -/
def IsHexText (value : Value) (digits number : ℕ) : Prop :=
  ∃ text, value = .str text ∧ isExactHex digits text = true ∧ hexVal (text.drop 2) = number

/-- The arguments are the values of an authorization, in any letter case. -/
structure SettleArguments.Denotes (arguments : SettleArguments) (authorization : Authorization) :
    Prop where
  fromAddr : IsHexText arguments.fromAddr 40 authorization.fromAddr.toNat
  toAddr : IsHexText arguments.toAddr 40 authorization.toAddr.toNat
  value : arguments.value = .int authorization.value.toNat
  validAfter : arguments.validAfter = .int authorization.validAfter.toNat
  validBefore : arguments.validBefore = .int authorization.validBefore.toNat
  nonce : IsHexText arguments.nonce 64 authorization.nonce.toNat
  signature : IsHexText arguments.signature 130 (bytesVal authorization.signature)
  long : authorization.signature.length = 65

/-- What `settle_calldata` asks of an authorization. -/
structure Payable (authorization : Authorization) : Prop where
  fromAddr : authorization.fromAddr.toNat ≠ 0
  toAddr : authorization.toAddr.toNat ≠ 0
  value : authorization.value.toNat ≠ 0
  window : authorization.validAfter.toNat < authorization.validBefore.toNat

/-- The arguments have their shapes and ranges. -/
structure SettleArguments.Acceptable (arguments : SettleArguments) : Prop where
  fromAddr : ∃ number, IsHexText arguments.fromAddr 40 number ∧ number ≠ 0
  toAddr : ∃ number, IsHexText arguments.toAddr 40 number ∧ number ≠ 0
  value : ∃ number : ℤ, arguments.value = .int number ∧ 1 ≤ number ∧ number < 2 ^ 256
  window : ∃ after before : ℤ, arguments.validAfter = .int after ∧
    arguments.validBefore = .int before ∧ 0 ≤ after ∧ after < before ∧ before < 2 ^ 256
  nonce : ∃ number, IsHexText arguments.nonce 64 number
  signature : ∃ number, IsHexText arguments.signature 130 number

section Texts

theorem IsHexText.lt {value : Value} {digits number : ℕ} (denotes : IsHexText value digits number) :
    number < 16 ^ digits := by
  rcases denotes with ⟨text, _, shape, same⟩
  exact same ▸ hexVal_exact_lt shape

theorem IsHexText.digitsOf_eq {value : Value} {digits number : ℕ}
    (denotes : IsHexText value digits number) : hexVal (digitsOf value) = number := by
  rcases denotes with ⟨text, isText, _, same⟩
  rw [isText]
  exact same

theorem isSignature_iff {value : Value} :
    isSignature value = true ↔ ∃ number, IsHexText value 130 number := by
  constructor
  · intro shape
    cases value with
    | str text => exact ⟨_, text, rfl, shape, rfl⟩
    | _ => cases shape
  · intro denotes
    rcases denotes with ⟨_, text, isText, shape, _⟩
    rw [isText]
    exact shape

theorem checkUint_eq_ok_iff {low : ℤ} {message : String} {value : Value} {number : ℤ} :
    checkUint low message value = .ok number ↔
      value = .int number ∧ low ≤ number ∧ number < 2 ^ 256 := by
  have largest : (uint256Max : ℤ) = 2 ^ 256 - 1 := rfl
  constructor
  · intro accepted
    cases value with
    | int given =>
      rw [checkUint] at accepted
      split_ifs at accepted with inside
      cases accepted
      exact ⟨rfl, inside.1, by omega⟩
    | _ => cases accepted
  · intro accepted
    rcases accepted with ⟨isInt, above, below⟩
    rw [isInt, checkUint, if_pos ⟨above, by omega⟩]

theorem slotUint_natCast {number : ℕ} (small : number < 2 ^ 256) :
    slotUint number = .ok (hexPad 64 number) := by
  have largest : (uint256Max : ℤ) = 2 ^ 256 - 1 := rfl
  rw [slotUint, if_pos ⟨by omega, by omega⟩, Int.toNat_natCast]

variable [Interpreter]

theorem IsHexText.lower_digitsOf {value : Value} {digits number : ℕ}
    (denotes : IsHexText value digits number) :
    lower (digitsOf value) = hexPad digits number := by
  rcases denotes with ⟨text, isText, shape, same⟩
  rw [isText, ← same]
  exact lower_drop_eq_hexPad shape

theorem slotAddr_accepts_iff {value : Value} {slot : Str} :
    slotAddr value = .ok slot ↔ ∃ number, IsHexText value 40 number ∧ slot = hexPad 64 number := by
  rw [slotAddr_eq_ok_iff]
  constructor
  · intro accepted
    rcases accepted with ⟨text, isText, shape, same⟩
    exact ⟨_, ⟨text, isText, shape, rfl⟩, same.trans (rjustZero_address shape)⟩
  · intro accepted
    rcases accepted with ⟨number, ⟨text, isText, shape, same⟩, isSlot⟩
    refine ⟨text, isText, shape, ?_⟩
    rw [isSlot, rjustZero_address shape, same]

theorem slotBytes32_accepts_iff {value : Value} {slot : Str} :
    slotBytes32 value = .ok slot ↔
      ∃ number, IsHexText value 64 number ∧ slot = hexPad 64 number := by
  rw [slotBytes32_eq_ok_iff]
  constructor
  · intro accepted
    rcases accepted with ⟨text, isText, shape, same⟩
    exact ⟨_, ⟨text, isText, shape, rfl⟩, same.trans (lower_drop_eq_hexPad shape)⟩
  · intro accepted
    rcases accepted with ⟨number, ⟨text, isText, shape, same⟩, isSlot⟩
    refine ⟨text, isText, shape, ?_⟩
    rw [isSlot, lower_drop_eq_hexPad shape, same]

end Texts

/-! ### The calldata -/

theorem bytesHex_eq_hexPad (data : List UInt8) :
    bytesHex data = hexPad (2 * data.length) (bytesVal data) := by
  induction data using List.reverseRecOn with
  | nil => rfl
  | append_singleton data byte ih =>
    have small := byte.toNat_lt
    have last : bytesHex [byte] = hexPad 2 byte.toNat := List.append_nil _
    have width : 2 * (data ++ [byte]).length = 2 * data.length + 1 + 1 := by
      rw [List.length_append, List.length_singleton]
      omega
    have whole : (256 * bytesVal data + byte.toNat) / (16 * 16) = bytesVal data := by omega
    have high : (256 * bytesVal data + byte.toNat) / 16 % 16 = byte.toNat / 16 % 16 := by omega
    have low : (256 * bytesVal data + byte.toNat) % 16 = byte.toNat % 16 := by omega
    rw [bytesHex_append, ih, last, width, bytesVal_append]
    simp only [hexPad, List.append_assoc, List.nil_append, List.singleton_append,
      Nat.div_div_eq_div_mul, whole, high, low]

/-- Bytes are determined by their number and how many they are. -/
theorem bytesOf_bytesVal (data : List UInt8) : bytesOf data.length (bytesVal data) = data := by
  induction data using List.reverseRecOn with
  | nil => rfl
  | append_singleton data byte ih =>
    have small := byte.toNat_lt
    have whole : (256 * bytesVal data + byte.toNat) / 256 = bytesVal data := by omega
    have low : (256 * bytesVal data + byte.toNat) % 256 = byte.toNat := by omega
    rw [List.length_append, List.length_singleton, bytesOf, bytesVal_append, whole, low, ih,
      UInt8.ofNat_toNat]

theorem hexData_injective {left right : List UInt8} (same : hexData left = hexData right) :
    left = right := by
  have digits : bytesHex left = bytesHex right := by
    simp only [hexData, List.cons.injEq, true_and] at same
    exact same
  have read : ∀ data, fromHex (bytesHex data) = some data := by
    intro data
    rw [bytesHex_eq_hexPad]
    apply fromHex_of_map_toLower_eq (all_hexPad _ _)
    rw [map_toLower_hexPad, ← bytesHex_eq_hexPad]
  have decoded := read left
  rw [digits, read right] at decoded
  exact (Option.some.inj decoded).symm

theorem bytesHex_abiEncode (words : List Word) :
    bytesHex (abiEncode words) = words.flatMap fun word => hexPad 64 word.toNat := by
  induction words with
  | nil => rfl
  | cons word words ih =>
    have split : abiEncode (word :: words) = wordData word ++ abiEncode words := rfl
    rw [split, bytesHex_append, ih, wordData, bytesHex_bytesOf, List.flatMap_cons]

theorem hexData_encodeCalldata (authorization : Authorization)
    (long : authorization.signature.length = 65) :
    hexData (encodeCalldata authorization) = '0' :: 'x' :: (selTransferWithAuthorization ++
      hexPad 64 authorization.fromAddr.toNat ++ hexPad 64 authorization.toAddr.toNat ++
      hexPad 64 authorization.value.toNat ++ hexPad 64 authorization.validAfter.toNat ++
      hexPad 64 authorization.validBefore.toNat ++ hexPad 64 authorization.nonce.toNat ++
      hexPad 64 224 ++
      (hexPad 64 65 ++ ljustZero (3 * 64) (hexPad 130 (bytesVal authorization.signature)))) := by
  have selected : bytesHex selector = selTransferWithAuthorization := by decide
  have zeros : bytesHex (List.replicate 31 0) = List.replicate 62 '0' := by decide
  have wide : ∀ address : Address, (address.setWidth 256).toNat = address.toNat :=
    fun address => BitVec.toNat_setWidth_of_le (by decide)
  have signature : bytesHex authorization.signature =
      hexPad 130 (bytesVal authorization.signature) := by
    rw [bytesHex_eq_hexPad, long]
  have offset : (224 : Word).toNat = 224 := rfl
  have size : (65 : Word).toNat = 65 := rfl
  rw [hexData, encodeCalldata, bytesHex_append, bytesHex_append, bytesHex_append, selected, zeros,
    signature, bytesHex_abiEncode, headWords, ljustZero, length_hexPad]
  simp only [List.flatMap_cons, List.flatMap_nil, wide, offset, size, List.append_assoc,
    List.nil_append]

theorem SettleArguments.Denotes.acceptable {arguments : SettleArguments}
    {authorization : Authorization} (denotes : arguments.Denotes authorization)
    (payable : Payable authorization) : arguments.Acceptable where
  fromAddr := ⟨_, denotes.fromAddr, payable.fromAddr⟩
  toAddr := ⟨_, denotes.toAddr, payable.toAddr⟩
  value := by
    refine ⟨_, denotes.value, ?_, ?_⟩
    · have positive := payable.value
      omega
    · exact_mod_cast authorization.value.isLt
  window := by
    refine ⟨_, _, denotes.validAfter, denotes.validBefore, Int.natCast_nonneg _, ?_, ?_⟩
    · exact_mod_cast payable.window
    · exact_mod_cast authorization.validBefore.isLt
  nonce := ⟨_, denotes.nonce⟩
  signature := ⟨_, denotes.signature⟩

/-- Acceptable arguments denote one authorization. -/
theorem SettleArguments.Acceptable.denotes {arguments : SettleArguments}
    (acceptable : arguments.Acceptable) :
    ∃ authorization, arguments.Denotes authorization ∧ Payable authorization := by
  rcases acceptable.fromAddr with ⟨payer, isPayer, payerNonzero⟩
  rcases acceptable.toAddr with ⟨payee, isPayee, payeeNonzero⟩
  rcases acceptable.value with ⟨value, isValue, positive, small⟩
  rcases acceptable.window with ⟨after, before, isAfter, isBefore, nonneg, ordered, bounded⟩
  rcases acceptable.nonce with ⟨nonce, isNonce⟩
  rcases acceptable.signature with ⟨signature, isSignature⟩
  lift value to ℕ using by omega
  lift after to ℕ using nonneg
  lift before to ℕ using by omega
  have address : ∀ {number}, number < 16 ^ 40 → (BitVec.ofNat 160 number).toNat = number := by
    intro number bound
    exact Nat.mod_eq_of_lt (lt_of_lt_of_eq bound (by norm_num))
  have word : ∀ {number}, number < 2 ^ 256 → (BitVec.ofNat 256 number).toNat = number :=
    fun bound => Nat.mod_eq_of_lt bound
  have payerEq := address isPayer.lt
  have payeeEq := address isPayee.lt
  have valueEq : (BitVec.ofNat 256 value).toNat = value := word (by omega)
  have afterEq : (BitVec.ofNat 256 after).toNat = after := word (by omega)
  have beforeEq : (BitVec.ofNat 256 before).toNat = before := word (by omega)
  have nonceEq : (BitVec.ofNat 256 nonce).toNat = nonce :=
    word (lt_of_lt_of_eq isNonce.lt (by norm_num))
  have signatureEq : bytesVal (bytesOf 65 signature) = signature := by
    rw [bytesVal_bytesOf]
    exact Nat.mod_eq_of_lt (lt_of_lt_of_eq isSignature.lt (by norm_num))
  refine ⟨⟨BitVec.ofNat 160 payer, BitVec.ofNat 160 payee, BitVec.ofNat 256 value,
    BitVec.ofNat 256 after, BitVec.ofNat 256 before, BitVec.ofNat 256 nonce,
    bytesOf 65 signature⟩, ⟨?_, ?_, ?_, ?_, ?_, ?_, ?_, ?_⟩, ⟨?_, ?_, ?_, ?_⟩⟩
  · rw [payerEq]
    exact isPayer
  · rw [payeeEq]
    exact isPayee
  · rw [valueEq]
    exact isValue
  · rw [afterEq]
    exact isAfter
  · rw [beforeEq]
    exact isBefore
  · rw [nonceEq]
    exact isNonce
  · rw [signatureEq]
    exact isSignature
  · exact length_bytesOf 65 _
  · rw [payerEq]
    exact payerNonzero
  · rw [payeeEq]
    exact payeeNonzero
  · rw [valueEq]
    omega
  · rw [afterEq, beforeEq]
    omega

section Accepted

variable [Interpreter]

/-- Arguments that denote a payable authorization are encoded as its calldata. -/
theorem settleCalldata_of_denotes {arguments : SettleArguments} {authorization : Authorization}
    (denotes : arguments.Denotes authorization) (payable : Payable authorization) :
    settleCalldata arguments = .ok (hexData (encodeCalldata authorization)) := by
  have positive := payable.value
  have ordered := payable.window
  have fromSlot := slotAddr_accepts_iff.mpr ⟨_, denotes.fromAddr, rfl⟩
  have toSlot := slotAddr_accepts_iff.mpr ⟨_, denotes.toAddr, rfl⟩
  have nonceSlot := slotBytes32_accepts_iff.mpr ⟨_, denotes.nonce, rfl⟩
  have small : ∀ word : Word, (word.toNat : ℤ) < 2 ^ 256 := fun word => by
    exact_mod_cast word.isLt
  have value : ∀ message, checkUint 1 message arguments.value =
      .ok (authorization.value.toNat : ℤ) :=
    fun message => checkUint_eq_ok_iff.mpr ⟨denotes.value, by omega, small _⟩
  have validAfter : ∀ message, checkUint 0 message arguments.validAfter =
      .ok (authorization.validAfter.toNat : ℤ) :=
    fun message => checkUint_eq_ok_iff.mpr ⟨denotes.validAfter, by omega, small _⟩
  have validBefore : ∀ message, checkUint 1 message arguments.validBefore =
      .ok (authorization.validBefore.toNat : ℤ) :=
    fun message => checkUint_eq_ok_iff.mpr ⟨denotes.validBefore, by omega, small _⟩
  have inOrder : ¬(authorization.validBefore.toNat : ℤ) ≤ authorization.validAfter.toNat := by
    omega
  have signature := isSignature_iff.mpr ⟨_, denotes.signature⟩
  have slot : ∀ word : Word, slotUint word.toNat = .ok (hexPad 64 word.toNat) :=
    fun word => slotUint_natCast word.isLt
  have offsetSlot : slotUint (7 * 32) = .ok (hexPad 64 224) :=
    @slotUint_natCast 224 (by norm_num)
  have lengthSlot : slotUint 65 = .ok (hexPad 64 65) :=
    @slotUint_natCast 65 (by norm_num)
  rw [hexData_encodeCalldata authorization denotes.long, ← denotes.signature.lower_digitsOf]
  simp only [settleCalldata, fromSlot, toSlot, denotes.fromAddr.digitsOf_eq,
    denotes.toAddr.digitsOf_eq, payable.fromAddr, payable.toAddr, or_self, not_false_eq_true,
    refuse_of_fails, value, validAfter, validBefore, inOrder, nonceSlot, signature,
    Bool.true_eq_false, slot, offsetSlot, lengthSlot, Checks.ok_bind]
  rfl

/-- What `settle_calldata` accepts is acceptable. -/
theorem acceptable_of_settleCalldata {arguments : SettleArguments} {data : Str}
    (accepted : settleCalldata arguments = .ok data) : arguments.Acceptable := by
  simp only [settleCalldata, Checks.bind_eq_ok_iff, slotAddr_accepts_iff, checkUint_eq_ok_iff,
    refuse_eq_ok_iff, slotBytes32_accepts_iff, exists_const, not_or, not_le,
    Bool.not_eq_false, isSignature_iff] at accepted
  rcases accepted with ⟨_, ⟨payer, isPayer, _⟩, _, ⟨payee, isPayee, _⟩, nonzero, value,
    ⟨isValue, positive, small⟩, after, ⟨isAfter, nonneg, _⟩, before, ⟨isBefore, _, bounded⟩,
    ordered, _, ⟨nonce, isNonce, _⟩, signature, _⟩
  refine ⟨⟨payer, isPayer, ?_⟩, ⟨payee, isPayee, ?_⟩, ⟨value, isValue, positive, small⟩,
    ⟨after, before, isAfter, isBefore, nonneg, ordered, bounded⟩, ⟨nonce, isNonce⟩, signature⟩
  · rw [← isPayer.digitsOf_eq]
    exact nonzero.1
  · rw [← isPayee.digitsOf_eq]
    exact nonzero.2

theorem failsOnly_slotAddr (value : Value) : FailsOnly PyError.IsValueError (slotAddr value) := by
  cases value with
  | str text =>
    rw [slotAddr]
    split_ifs
    · exact failsOnly_ok _
    · exact failsOnly_error ⟨_, rfl⟩
  | _ => exact failsOnly_error ⟨_, rfl⟩

theorem failsOnly_slotBytes32 (value : Value) : FailsOnly PyError.IsValueError (slotBytes32 value) := by
  cases value with
  | str text =>
    rw [slotBytes32]
    split_ifs
    · exact failsOnly_ok _
    · exact failsOnly_error ⟨_, rfl⟩
  | _ => exact failsOnly_error ⟨_, rfl⟩

omit [Interpreter] in
theorem failsOnly_checkUint (low : ℤ) (message : String) (value : Value) :
    FailsOnly PyError.IsValueError (checkUint low message value) := by
  cases value with
  | int number =>
    rw [checkUint]
    split_ifs
    · exact failsOnly_ok _
    · exact failsOnly_error ⟨_, rfl⟩
  | _ => exact failsOnly_error ⟨_, rfl⟩

omit [Interpreter] in
theorem failsOnly_slotUint (number : ℤ) : FailsOnly PyError.IsValueError (slotUint number) := by
  rw [slotUint]
  split_ifs
  · exact failsOnly_ok _
  · exact failsOnly_error ⟨_, rfl⟩

theorem settleCalldata_failsOnly (arguments : SettleArguments) :
    FailsOnly PyError.IsValueError (settleCalldata arguments) := by
  have refusal : ∀ {condition : Prop} [Decidable condition] {message : String},
      FailsOnly PyError.IsValueError (refuse condition (.valueError message)) :=
    fun {_ _ _} => failsOnly_refuse ⟨_, rfl⟩
  rw [settleCalldata]
  apply FailsOnly.bind (failsOnly_slotAddr _)
  intro _ _
  apply FailsOnly.bind (failsOnly_slotAddr _)
  intro _ _
  apply FailsOnly.bind refusal
  intro _ _
  apply FailsOnly.bind (failsOnly_checkUint _ _ _)
  intro _ _
  apply FailsOnly.bind (failsOnly_checkUint _ _ _)
  intro _ _
  apply FailsOnly.bind (failsOnly_checkUint _ _ _)
  intro _ _
  apply FailsOnly.bind refusal
  intro _ _
  apply FailsOnly.bind (failsOnly_slotBytes32 _)
  intro _ _
  apply FailsOnly.bind refusal
  intro _ _
  apply FailsOnly.bind (failsOnly_slotUint _)
  intro _ _
  apply FailsOnly.bind (failsOnly_slotUint _)
  intro _ _
  apply FailsOnly.bind (failsOnly_slotUint _)
  intro _ _
  apply FailsOnly.bind (failsOnly_slotUint _)
  intro _ _
  apply FailsOnly.bind (failsOnly_slotUint _)
  intro _ _
  exact failsOnly_ok _

/-! ### Letter case -/

/-- Values that differ in nothing but the case of letters. -/
def EqualUpToCase : Value → Value → Prop
  | .str left, .str right => left.map Char.toLower = right.map Char.toLower
  | left, right => left = right

/-- The arguments of two settlements differ in nothing but the case of letters. -/
structure SettleArguments.EqualUpToCase (left right : SettleArguments) : Prop where
  fromAddr : TokenView.EqualUpToCase left.fromAddr right.fromAddr
  toAddr : TokenView.EqualUpToCase left.toAddr right.toAddr
  value : TokenView.EqualUpToCase left.value right.value
  validAfter : TokenView.EqualUpToCase left.validAfter right.validAfter
  validBefore : TokenView.EqualUpToCase left.validBefore right.validBefore
  nonce : TokenView.EqualUpToCase left.nonce right.nonce
  signature : TokenView.EqualUpToCase left.signature right.signature

omit [Interpreter] in
theorem IsHexText.equalUpToCase_iff {left right : Value} {digits first second : ℕ}
    (isFirst : IsHexText left digits first) (isSecond : IsHexText right digits second) :
    TokenView.EqualUpToCase left right ↔ first = second := by
  have firstSmall := isFirst.lt
  have secondSmall := isSecond.lt
  rcases isFirst with ⟨text, isText, shape, value⟩
  rcases isSecond with ⟨other, isOther, otherShape, otherValue⟩
  have spelled : text.map Char.toLower = '0' :: 'x' :: hexPad digits first := by
    rw [← value]
    exact spells_of_isExactHex shape
  have otherSpelled : other.map Char.toLower = '0' :: 'x' :: hexPad digits second := by
    rw [← otherValue]
    exact spells_of_isExactHex otherShape
  rw [isText, isOther, TokenView.EqualUpToCase, spelled, otherSpelled]
  constructor
  · intro same
    simp only [List.cons.injEq, true_and] at same
    exact hexPad_injOn firstSmall secondSmall same
  · intro same
    rw [same]

omit [Interpreter] in
theorem equalUpToCase_int {left right : Value} {first second : ℕ} (isFirst : left = .int first)
    (isSecond : right = .int second) : TokenView.EqualUpToCase left right ↔ first = second := by
  rw [isFirst, isSecond, TokenView.EqualUpToCase, Value.int.injEq, Nat.cast_inj]
  intro left right impossible
  cases impossible

omit [Interpreter] in
theorem SettleArguments.Denotes.equalUpToCase_iff {left right : SettleArguments}
    {first second : Authorization} (isFirst : left.Denotes first)
    (isSecond : right.Denotes second) : left.EqualUpToCase right ↔ first = second := by
  have fromAddr := isFirst.fromAddr.equalUpToCase_iff isSecond.fromAddr
  have toAddr := isFirst.toAddr.equalUpToCase_iff isSecond.toAddr
  have value := equalUpToCase_int isFirst.value isSecond.value
  have validAfter := equalUpToCase_int isFirst.validAfter isSecond.validAfter
  have validBefore := equalUpToCase_int isFirst.validBefore isSecond.validBefore
  have nonce := isFirst.nonce.equalUpToCase_iff isSecond.nonce
  have signature := isFirst.signature.equalUpToCase_iff isSecond.signature
  constructor
  · intro equal
    have bytes : first.signature = second.signature := by
      rw [← bytesOf_bytesVal first.signature, ← bytesOf_bytesVal second.signature, isFirst.long,
        isSecond.long, signature.mp equal.signature]
    cases first
    cases second
    simp only [Authorization.mk.injEq]
    exact ⟨BitVec.eq_of_toNat_eq (fromAddr.mp equal.fromAddr),
      BitVec.eq_of_toNat_eq (toAddr.mp equal.toAddr), BitVec.eq_of_toNat_eq (value.mp equal.value),
      BitVec.eq_of_toNat_eq (validAfter.mp equal.validAfter),
      BitVec.eq_of_toNat_eq (validBefore.mp equal.validBefore),
      BitVec.eq_of_toNat_eq (nonce.mp equal.nonce), bytes⟩
  · intro same
    rw [same] at fromAddr toAddr value validAfter validBefore nonce signature
    exact ⟨fromAddr.mpr rfl, toAddr.mpr rfl, value.mpr rfl, validAfter.mpr rfl,
      validBefore.mpr rfl, nonce.mpr rfl, signature.mpr rfl⟩

/-- Accepted arguments denote a payable authorization, whose calldata is the result. -/
theorem settleCalldata_eq_ok {arguments : SettleArguments} {data : Str}
    (accepted : settleCalldata arguments = .ok data) :
    ∃ authorization, arguments.Denotes authorization ∧
      data = hexData (encodeCalldata authorization) := by
  rcases (acceptable_of_settleCalldata accepted).denotes with ⟨authorization, denotes, payable⟩
  refine ⟨authorization, denotes, ?_⟩
  rw [settleCalldata_of_denotes denotes payable] at accepted
  exact (Except.ok.inj accepted).symm

/-- The calldata of a settlement is a faithful encoding of its arguments. -/
theorem settleCalldata_faithful :
    (∀ arguments data, settleCalldata arguments = .ok data →
      ∃ authorization calldata, arguments.Denotes authorization ∧ data = hexData calldata ∧
        calldata.take 4 = selector ∧ calldata.length = 356 ∧
        decodeCalldata calldata = some authorization ∧
        calldata.drop 325 = List.replicate 31 0) ∧
      (∀ left right data other, settleCalldata left = .ok data →
        settleCalldata right = .ok other → (data = other ↔ left.EqualUpToCase right)) ∧
      (∀ arguments, arguments.Acceptable → ∃ data, settleCalldata arguments = .ok data) ∧
      ∀ arguments, ¬arguments.Acceptable →
        ∃ message, settleCalldata arguments = .error (.valueError message) := by
  refine ⟨?_, ?_, ?_, ?_⟩
  · intro arguments data accepted
    rcases settleCalldata_eq_ok accepted with ⟨authorization, denotes, same⟩
    exact ⟨authorization, encodeCalldata authorization, denotes, same, List.take_left' rfl,
      length_encodeCalldata _ denotes.long, decode_encodeCalldata _ denotes.long,
      drop_encodeCalldata _ denotes.long⟩
  · intro left right data other accepted otherAccepted
    rcases settleCalldata_eq_ok accepted with ⟨first, isFirst, same⟩
    rcases settleCalldata_eq_ok otherAccepted with ⟨second, isSecond, otherSame⟩
    rw [isFirst.equalUpToCase_iff isSecond, same, otherSame]
    constructor
    · intro equal
      have calldata := hexData_injective equal
      have decoded := decode_encodeCalldata first isFirst.long
      rw [calldata, decode_encodeCalldata second isSecond.long] at decoded
      exact (Option.some.inj decoded).symm
    · intro equal
      rw [equal]
  · intro arguments acceptable
    rcases acceptable.denotes with ⟨authorization, denotes, payable⟩
    exact ⟨_, settleCalldata_of_denotes denotes payable⟩
  · intro arguments refused
    cases result : settleCalldata arguments with
    | ok data => exact absurd (acceptable_of_settleCalldata result) refused
    | error error =>
      rcases settleCalldata_failsOnly arguments error result with ⟨message, isValueError⟩
      exact ⟨message, congrArg Except.error isValueError⟩

end Accepted

end TokenView

end Psv
