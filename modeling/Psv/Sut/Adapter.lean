import Psv.Python.Numeral
import Psv.World

/-!
# Parsing what a system under test answers

The parsers of `sut.py`.  A response body is an arbitrary value; every field is
checked before it is used, and the one conversion behind the checks is `int` on
a text of decimal digits.  The checks bound the value of the digits and not
their number, so `int` can refuse a text that the pattern has let through, with
an error that is not the adapter's.
-/

namespace Psv

open Python Python.Decimal Interaction

namespace SutAdapter

variable [Interpreter]

/-- The largest value of a uint256. -/
def uint256Max : ℕ := 2 ^ 256 - 1

def maxOrderIdChars : ℕ := 256

def maxTextChars : ℕ := 16384

def settlementPending : Str := "settlement_pending".toList

/-- A normalized, validated x402 `accepts` entry. -/
structure Quote where
  orderId : Str
  amount : ℤ
  payTo : Str
  asset : Str
  network : Str
  tokenName : Str
  tokenVersion : Str
  deriving DecidableEq

/-- Normalized result of submitting an authorization for an order. -/
structure PayResult where
  orderId : Str
  submittedTx : Option Str
  settled : Bool
  reason : Option Str
  deriving DecidableEq

/-- Normalized read-only payment and resource state for an order. -/
structure Status where
  orderId : Str
  paid : Bool
  resource : Option Str
  submittedTx : Option Str
  deriving DecidableEq

/-! ### Fields -/

/-- Every member name is a string. -/
def StringKeys (fields : Fields) : Prop := ∀ field ∈ fields, ∃ name, field.1 = Key.str name

/-- `isinstance(key, str)` -/
def isText : Key → Bool
  | .str _ => true
  | .other _ => false

/-- Require a JSON object whose member names are all strings. -/
def bodyObject (body : Value) (what : String) : Except PyError Fields :=
  match body with
  | .dict fields =>
      if fields.all fun field => isText field.1 then .ok fields
      else .error (.sutAdapterError s!"{what}: response must be a JSON object with string keys")
  | _ => .error (.sutAdapterError s!"{what}: response must be a JSON object with string keys")

/-- Return a required wire field or raise a contract error. -/
def required (body : Fields) (field what : String) : Except PyError Value :=
  orRaise (body.lookup (Key.str field))
    (.sutAdapterError s!"{what}: missing required field '{field}'")

/-- Validate a bounded non-empty wire string. -/
def wireString (value : Value) (field : String) (orNull : String := "") : Except PyError Str :=
  match value with
  | .str text => do
      refuse (text = [] ∨ maxTextChars < text.length)
        (.sutAdapterError s!"{field}: string is empty or exceeds the size limit")
      return text
  | _ => .error (.sutAdapterError s!"{field}: expected string{orNull}")

/-- Validate a bounded non-empty wire string, allowing null. -/
def nullableString (value : Value) (field : String) : Except PyError (Option Str) :=
  match value with
  | .null => .ok none
  | value => do return some (← wireString value field " or null")

/-- Validate an order identifier safe for matching and URL encoding. -/
def orderId (value : Value) (field : String := "order_id") : Except PyError Str := do
  let orderId ← wireString value field
  refuse (maxOrderIdChars < orderId.length ∨ orderId.any (fun c => decide (c.toNat < 0x20)) = true)
    (.sutAdapterError s!"{field}: invalid order id")
  return orderId

/-- Require an exact 20-byte EVM address wire value. -/
def address (value : Value) (field : String) : Except PyError Str :=
  match value with
  | .str text => do
      refuse (isExactHex 40 text = false)
        (.sutAdapterError s!"{field}: expected exact 20-byte EVM address")
      return text
  | _ => .error (.sutAdapterError s!"{field}: expected exact 20-byte EVM address")

/-- Require an exact transaction hash or null wire value. -/
def transactionHash (value : Value) (field : String) : Except PyError (Option Str) :=
  match value with
  | .null => .ok none
  | .str text => do
      refuse (isExactHex 64 text = false)
        (.sutAdapterError s!"{field}: expected exact 32-byte transaction hash or null")
      return some text
  | _ => .error (.sutAdapterError s!"{field}: expected exact 32-byte transaction hash or null")

/-- Require a literal JSON boolean without truthy coercion. -/
def boolean (value : Value) (field : String) : Except PyError Bool :=
  match value with
  | .bool flag => .ok flag
  | _ => .error (.sutAdapterError s!"{field}: expected boolean")

/-- `int(text)` on decimal digits. -/
def intOfDigits (digits : Str) : Except PyError ℤ :=
  orRaise (int10 digits)
    (.valueError "Exceeds the limit (4300 digits) for integer string conversion")

/-- Decode a canonical positive decimal-string uint256. -/
def positiveUint256 (value : Value) (field : String) : Except PyError ℤ :=
  match value with
  | .str text => do
      refuse (isNumeral text = false)
        (.sutAdapterError s!"{field}: expected canonical decimal uint256 string")
      let parsed ← intOfDigits text
      refuse (¬(1 ≤ parsed ∧ parsed ≤ uint256Max))
        (.sutAdapterError s!"{field}: expected positive uint256")
      return parsed
  | _ => .error (.sutAdapterError s!"{field}: expected canonical decimal uint256 string")

/-- `eip155:([1-9][0-9]*)`, and the digits of the chain id. -/
def networkDigits (text : Str) : Option Str :=
  match text with
  | 'e' :: 'i' :: 'p' :: '1' :: '5' :: '5' :: ':' :: digits =>
      if isPositiveNumeral digits then some digits else none
  | _ => none

/-- Validate a canonical positive EVM CAIP-2 network identifier. -/
def network (value : Value) : Except PyError Str :=
  match value with
  | .str text => do
      let digits ← orRaise (networkDigits text)
        (.sutAdapterError "network: expected canonical eip155:<positive uint256>")
      let chainId ← intOfDigits digits
      refuse (uint256Max < chainId)
        (.sutAdapterError "network: expected canonical eip155:<positive uint256>")
      return text
  | _ => .error (.sutAdapterError "network: expected CAIP-2 string")

/-- Parse a response order id and bind it to the request when provided. -/
def matchingOrderId (body : Fields) (what : String) (expectedOrderId : Option Str) :
    Except PyError Str := do
  let result ← orderId (← required body "order_id" what)
  match expectedOrderId with
  | none => return result
  | some expected =>
      refuse (result ≠ expected) (.sutAdapterError s!"{what}: response order_id {
        Interpreter.repr (.str result)} does not match request {
        Interpreter.repr (.str expected)}")
      return result

/-! ### Responses -/

/-- Strictly parse a quote response into its normalized domain model. -/
def parseQuote (body : Value) : Except PyError Quote := do
  let parsed ← bodyObject body "quote"
  let extra ← bodyObject (← required parsed "extra" "quote") "quote.extra"
  let name ← wireString (← required extra "name" "quote.extra") "extra.name"
  let version ← wireString (← required extra "version" "quote.extra") "extra.version"
  let orderId ← matchingOrderId parsed "quote" none
  let amount ← positiveUint256 (← required parsed "amount" "quote") "amount"
  let payTo ← address (← required parsed "payTo" "quote") "payTo"
  let asset ← address (← required parsed "asset" "quote") "asset"
  let network ← network (← required parsed "network" "quote")
  return { orderId := orderId, amount := amount, payTo := payTo, asset := asset,
           network := network, tokenName := name, tokenVersion := version }

/-- Strictly parse a pay response and optionally bind its order id. -/
def parsePay (body : Value) (expectedOrderId : Option Str) : Except PyError PayResult := do
  let parsed ← bodyObject body "pay"
  let settled ← boolean (← required parsed "settled" "pay") "settled"
  let reason ← nullableString (getField parsed "reason") "reason"
  -- A settled answer that carries a failure code contradicts itself.
  refuse (settled = true ∧ reason = some settlementPending)
    (.sutAdapterError "pay: settled answer carries reason settlement_pending")
  let orderId ← matchingOrderId parsed "pay" expectedOrderId
  let submittedTx ← transactionHash (getField parsed "submitted_tx") "submitted_tx"
  return { orderId := orderId, submittedTx := submittedTx, settled := settled, reason := reason }

/-- Strictly parse a status response and optionally bind its order id. -/
def parseStatus (body : Value) (expectedOrderId : Option Str) : Except PyError Status := do
  let parsed ← bodyObject body "status"
  let resource ← nullableString (← required parsed "resource" "status") "resource"
  let orderId ← matchingOrderId parsed "status" expectedOrderId
  let paid ← boolean (← required parsed "paid" "status") "paid"
  let submittedTx ← transactionHash (← required parsed "submitted_tx" "status") "submitted_tx"
  return { orderId := orderId, paid := paid, resource := resource, submittedTx := submittedTx }

/-! ### What the checks accept -/

/-- An error of the adapter's own class. -/
def IsAdapterError (error : PyError) : Prop := ∃ message, error = .sutAdapterError message

/-- A text of the wire contract. -/
structure BoundedText (text : Str) : Prop where
  nonempty : text ≠ []
  bounded : text.length ≤ maxTextChars

/-- What is accepted as an order id. -/
structure AcceptedId (text : Str) : Prop where
  nonempty : text ≠ []
  bounded : text.length ≤ maxOrderIdChars
  printable : ∀ c ∈ text, 0x20 ≤ c.toNat

/-- The amount is a canonical numeral of a positive uint256. -/
structure IsAmount (text : Str) (amount : ℤ) : Prop where
  numeral : isNumeral text = true
  value : amount = digitsVal text
  positive : 1 ≤ amount
  bounded : amount ≤ uint256Max

/-- The network is `eip155:` and a canonical numeral of a positive uint256. -/
def IsNetwork (text : Str) : Prop :=
  ∃ digits, networkDigits text = some digits ∧ digitsVal digits ≤ uint256Max

/-- The field is there and holds the text. -/
def HasText (fields : Fields) (field : String) (text : Str) : Prop :=
  fields.lookup (Key.str field) = some (.str text)

omit [Interpreter] in
/-- A check whose refusal is the adapter's, in front of a result. -/
theorem failsOnly_checked {α : Type} {condition : Prop} [Decidable condition] {message : String}
    {result : α} :
    FailsOnly IsAdapterError (do refuse condition (.sutAdapterError message); return result) := by
  refine FailsOnly.bind (failsOnly_refuse ⟨_, rfl⟩) ?_
  intro _ _
  exact failsOnly_ok _

section Fields

variable {value : Value} {field what orNull : String} {fields body : Fields} {text : Str}

omit [Interpreter] in
theorem bodyObject_eq_ok_iff :
    bodyObject value what = .ok fields ↔ value = .dict fields ∧ StringKeys fields := by
  have keys : ∀ given : Fields,
      (given.all fun field => isText field.1) = true ↔ StringKeys given := by
    intro given
    rw [List.all_eq_true]
    apply forall₂_congr
    intro field _
    cases field.1 <;> simp [isText]
  cases value with
  | dict given =>
      simp only [bodyObject, Value.dict.injEq, ← keys fields]
      by_cases strings : (given.all fun field => isText field.1) = true
      · rw [if_pos strings, Except.ok.injEq]
        constructor
        · intro same
          exact ⟨same, same ▸ strings⟩
        · intro accepted
          exact accepted.1
      · rw [if_neg strings]
        simp only [reduceCtorEq, false_iff, not_and]
        intro same strings'
        exact strings (same ▸ strings')
  | _ => simp [bodyObject]

omit [Interpreter] in
theorem failsOnly_bodyObject : FailsOnly IsAdapterError (bodyObject value what) := by
  unfold bodyObject
  split
  · split_ifs
    · exact failsOnly_ok _
    · exact failsOnly_error ⟨_, rfl⟩
  · exact failsOnly_error ⟨_, rfl⟩

omit [Interpreter] in
theorem required_eq_ok_iff :
    required body field what = .ok value ↔ body.lookup (Key.str field) = some value :=
  orRaise_eq_ok_iff

omit [Interpreter] in
theorem failsOnly_required : FailsOnly IsAdapterError (required body field what) := by
  rw [required]
  cases body.lookup (Key.str field) with
  | none => exact failsOnly_error ⟨_, rfl⟩
  | some value => exact failsOnly_ok value

omit [Interpreter] in
theorem wireString_eq_ok_iff :
    wireString value field orNull = .ok text ↔ value = .str text ∧ BoundedText text := by
  cases value with
  | str given =>
      simp only [wireString, Checks.bind_eq_ok_iff, refuse_eq_ok_iff, not_or, not_lt, pure,
        Except.pure, Except.ok.injEq, Value.str.injEq]
      constructor
      · intro accepted
        rcases accepted with ⟨_, ⟨nonempty, bounded⟩, same⟩
        exact ⟨same, same ▸ ⟨nonempty, bounded⟩⟩
      · intro accepted
        rcases accepted with ⟨rfl, ⟨nonempty, bounded⟩⟩
        exact ⟨(), ⟨nonempty, bounded⟩, rfl⟩
  | _ => simp [wireString]

omit [Interpreter] in
theorem failsOnly_wireString : FailsOnly IsAdapterError (wireString value field orNull) := by
  unfold wireString
  split
  · exact failsOnly_checked
  · exact failsOnly_error ⟨_, rfl⟩

omit [Interpreter] in
theorem failsOnly_nullableString : FailsOnly IsAdapterError (nullableString value field) := by
  unfold nullableString
  split
  · exact failsOnly_ok _
  · refine FailsOnly.bind failsOnly_wireString ?_
    intro _ _
    exact failsOnly_ok _

omit [Interpreter] in
theorem orderId_eq_ok_iff :
    orderId value field = .ok text ↔ value = .str text ∧ AcceptedId text := by
  simp only [orderId, Checks.bind_eq_ok_iff, wireString_eq_ok_iff, refuse_eq_ok_iff, not_or,
    not_lt, List.any_eq_true, decide_eq_true_eq, not_exists, not_and, pure, Except.pure,
    Except.ok.injEq]
  constructor
  · intro accepted
    rcases accepted with ⟨_, ⟨isText, bounds⟩, _, ⟨bounded, printable⟩, rfl⟩
    exact ⟨isText, bounds.nonempty, bounded, printable⟩
  · intro accepted
    rcases accepted with ⟨isText, nonempty, bounded, printable⟩
    have short : text.length ≤ maxTextChars := by
      rw [maxOrderIdChars] at bounded
      rw [maxTextChars]
      omega
    exact ⟨text, ⟨isText, nonempty, short⟩, (), ⟨bounded, printable⟩, rfl⟩

omit [Interpreter] in
theorem failsOnly_orderId : FailsOnly IsAdapterError (orderId value field) := by
  refine FailsOnly.bind failsOnly_wireString ?_
  intro _ _
  exact failsOnly_checked

omit [Interpreter] in
theorem address_eq_ok_iff :
    address value field = .ok text ↔ value = .str text ∧ isExactHex 40 text = true := by
  cases value with
  | str given =>
      simp only [address, Checks.bind_eq_ok_iff, refuse_eq_ok_iff, Bool.not_eq_false, pure,
        Except.pure, Except.ok.injEq, Value.str.injEq]
      constructor
      · intro accepted
        rcases accepted with ⟨_, shape, same⟩
        exact ⟨same, same ▸ shape⟩
      · intro accepted
        rcases accepted with ⟨rfl, shape⟩
        exact ⟨(), shape, rfl⟩
  | _ => simp [address]

omit [Interpreter] in
theorem failsOnly_address : FailsOnly IsAdapterError (address value field) := by
  unfold address
  split
  · exact failsOnly_checked
  · exact failsOnly_error ⟨_, rfl⟩

omit [Interpreter] in
theorem failsOnly_transactionHash : FailsOnly IsAdapterError (transactionHash value field) := by
  unfold transactionHash
  split
  · exact failsOnly_ok _
  · exact failsOnly_checked
  · exact failsOnly_error ⟨_, rfl⟩

omit [Interpreter] in
theorem failsOnly_boolean : FailsOnly IsAdapterError (boolean value field) := by
  unfold boolean
  split
  · exact failsOnly_ok _
  · exact failsOnly_error ⟨_, rfl⟩

theorem failsOnly_matchingOrderId {expected : Option Str} :
    FailsOnly IsAdapterError (matchingOrderId body what expected) := by
  refine FailsOnly.bind failsOnly_required ?_
  intro _ _
  refine FailsOnly.bind failsOnly_orderId ?_
  intro _ _
  cases expected with
  | none => exact failsOnly_ok _
  | some expected =>
      exact failsOnly_checked

theorem matchingOrderId_none_eq_ok_iff :
    matchingOrderId body what none = .ok text ↔ HasText body "order_id" text ∧ AcceptedId text := by
  simp only [matchingOrderId, Checks.bind_eq_ok_iff, required_eq_ok_iff, orderId_eq_ok_iff, pure,
    Except.pure, Except.ok.injEq]
  constructor
  · intro accepted
    rcases accepted with ⟨_, found, _, ⟨rfl, accepted⟩, rfl⟩
    exact ⟨found, accepted⟩
  · intro accepted
    exact ⟨_, accepted.1, _, ⟨rfl, accepted.2⟩, rfl⟩

end Fields

/-! ### Numbers -/

/-- A canonical numeral with more digits than `int` converts. -/
def IsLong (text : Str) : Prop := isNumeral text = true ∧ maxStrDigits < text.length

/-- A value the amount check hands to `int` although it is too long. -/
def LongAmount (value : Value) : Prop := ∃ text, value = .str text ∧ IsLong text

/-- A value the network check hands to `int` although its chain id is too long. -/
def LongNetwork (value : Value) : Prop :=
  ∃ text digits, value = .str text ∧ networkDigits text = some digits ∧ IsLong digits

section Numbers

variable {value : Value} {field : String} {text digits : Str} {number : ℤ}

theorem intOfDigits_short (numeral : isNumeral digits = true) (short : ¬IsLong digits) :
    intOfDigits digits = .ok (digitsVal digits : ℤ) := by
  rcases digits_of_isNumeral numeral with ⟨nonempty, all⟩
  have few : digits.length ≤ maxStrDigits := not_lt.mp fun long => short ⟨numeral, long⟩
  rw [intOfDigits, int10_digits nonempty all, if_pos few]
  rfl

theorem intOfDigits_long (long : IsLong digits) : ∃ message,
    intOfDigits digits = .error (.valueError message) := by
  rcases digits_of_isNumeral long.1 with ⟨nonempty, all⟩
  rw [intOfDigits, int10_digits nonempty all, if_neg (not_le.mpr long.2)]
  exact ⟨_, rfl⟩

omit [Interpreter] in
theorem not_isLong (numeral : isNumeral digits = true) (small : digitsVal digits ≤ uint256Max) :
    ¬IsLong digits := by
  intro long
  rw [uint256Max] at small
  have short := length_of_digitsVal_lt numeral (by omega)
  exact absurd long.2 (not_lt.mpr short)

omit [Interpreter] in
theorem isNumeral_networkDigits (found : networkDigits text = some digits) :
    isNumeral digits = true ∧ text = "eip155:".toList ++ digits := by
  unfold networkDigits at found
  split at found
  · split_ifs at found with positive
    cases found
    simp only [isPositiveNumeral, Bool.and_eq_true] at positive
    exact ⟨positive.1, rfl⟩
  · cases found

theorem positiveUint256_eq_ok_iff :
    positiveUint256 value field = .ok number ↔
      ∃ text, value = .str text ∧ IsAmount text number := by
  cases value with
  | str given =>
      simp only [positiveUint256, Checks.bind_eq_ok_iff, refuse_eq_ok_iff, Bool.not_eq_false,
        not_not, pure, Except.pure, Except.ok.injEq, Value.str.injEq, exists_eq_left']
      constructor
      · intro accepted
        rcases accepted with ⟨_, numeral, parsed, read, _, ⟨positive, bounded⟩, rfl⟩
        by_cases long : IsLong given
        · rcases intOfDigits_long long with ⟨_, failed⟩
          rw [failed] at read
          cases read
        · rw [intOfDigits_short numeral long, Except.ok.injEq] at read
          exact ⟨numeral, read.symm, positive, bounded⟩
      · intro accepted
        rcases accepted with ⟨numeral, rfl, positive, bounded⟩
        have short := not_isLong numeral (by exact_mod_cast bounded)
        exact ⟨(), numeral, _, intOfDigits_short numeral short, (), ⟨positive, bounded⟩, rfl⟩
  | _ => simp [positiveUint256]

theorem failsOnly_positiveUint256 (short : ¬LongAmount value) :
    FailsOnly IsAdapterError (positiveUint256 value field) := by
  unfold positiveUint256
  split
  · rename_i text
    refine FailsOnly.bind (failsOnly_refuse ⟨_, rfl⟩) ?_
    intro _ checked
    have numeral : isNumeral text = true := by
      simpa only [refuse_eq_ok_iff, Bool.not_eq_false] using checked
    rw [intOfDigits_short numeral fun long => short ⟨text, rfl, long⟩]
    exact failsOnly_checked
  · exact failsOnly_error ⟨_, rfl⟩

theorem positiveUint256_long (field : String) (long : LongAmount value) : ∃ message,
    positiveUint256 value field = .error (.valueError message) := by
  rcases long with ⟨text, rfl, long⟩
  rcases intOfDigits_long long with ⟨message, failed⟩
  refine ⟨message, ?_⟩
  simp only [positiveUint256, failed, refuse, long.1, Bool.true_eq_false, if_false]
  rfl

theorem network_eq_ok_iff : network value = .ok text ↔ value = .str text ∧ IsNetwork text := by
  cases value with
  | str given =>
      simp only [network, Checks.bind_eq_ok_iff, orRaise_eq_ok_iff, refuse_eq_ok_iff, not_lt, pure,
        Except.pure, Except.ok.injEq, Value.str.injEq]
      constructor
      · intro accepted
        rcases accepted with ⟨digits, found, chainId, read, _, bounded, rfl⟩
        have numeral := (isNumeral_networkDigits found).1
        by_cases long : IsLong digits
        · rcases intOfDigits_long long with ⟨_, failed⟩
          rw [failed] at read
          cases read
        · rw [intOfDigits_short numeral long, Except.ok.injEq] at read
          rw [← read] at bounded
          exact ⟨rfl, digits, found, by exact_mod_cast bounded⟩
      · intro accepted
        rcases accepted with ⟨rfl, digits, found, bounded⟩
        have numeral := (isNumeral_networkDigits found).1
        have read := intOfDigits_short numeral (not_isLong numeral bounded)
        exact ⟨digits, found, _, read, (), by exact_mod_cast bounded, rfl⟩
  | _ => simp [network]

theorem failsOnly_network (short : ¬LongNetwork value) :
    FailsOnly IsAdapterError (network value) := by
  unfold network
  split
  · rename_i text
    cases found : networkDigits text with
    | none => exact failsOnly_error ⟨_, rfl⟩
    | some digits =>
        have notLong : ¬IsLong digits := fun long => short ⟨text, digits, rfl, found, long⟩
        have read := intOfDigits_short (isNumeral_networkDigits found).1 notLong
        simp only [orRaise, Checks.ok_bind, read]
        exact failsOnly_checked
  · exact failsOnly_error ⟨_, rfl⟩

theorem network_long (long : LongNetwork value) : ∃ message,
    network value = .error (.valueError message) := by
  rcases long with ⟨text, digits, rfl, found, long⟩
  rcases intOfDigits_long long with ⟨message, failed⟩
  refine ⟨message, ?_⟩
  simp only [network, found, orRaise, Checks.ok_bind, failed]
  rfl

end Numbers

/-! ### The contract -/

/-- What is checked of a quote response before its amount. -/
structure QuoteHead (body : Value) (fields : Fields) (orderId name version : Str) : Prop where
  isObject : body = .dict fields
  stringKeys : StringKeys fields
  extra : ∃ extra, fields.lookup (Key.str "extra") = some (.dict extra) ∧ StringKeys extra ∧
    (HasText extra "name" name ∧ BoundedText name) ∧
    HasText extra "version" version ∧ BoundedText version
  orderId : HasText fields "order_id" orderId ∧ AcceptedId orderId

/-- The amount and the two addresses of a quote response. -/
structure QuotePayment (fields : Fields) (amount : ℤ) (payTo asset : Str) : Prop where
  amount : ∃ text, HasText fields "amount" text ∧ IsAmount text amount
  payTo : HasText fields "payTo" payTo ∧ isExactHex 40 payTo = true
  asset : HasText fields "asset" asset ∧ isExactHex 40 asset = true

/-- All required fields are there, with the amount a canonical numeral of a positive uint256, exact
addresses, a network with a positive uint256, and bounded texts. -/
def WellFormedQuote (body : Value) : Prop :=
  ∃ fields orderId name version amount payTo asset network,
    QuoteHead body fields orderId name version ∧ QuotePayment fields amount payTo asset ∧
      HasText fields "network" network ∧ IsNetwork network

/-- Everything in front of a conversion is accepted, and the text to be converted is too long. -/
def LongNumber (body : Value) : Prop :=
  ∃ fields orderId name version, QuoteHead body fields orderId name version ∧
    ((∃ value, fields.lookup (Key.str "amount") = some value ∧ LongAmount value) ∨
      ∃ amount payTo asset value, QuotePayment fields amount payTo asset ∧
        fields.lookup (Key.str "network") = some value ∧ LongNetwork value)

/-- The three parsers raise nothing but the adapter's error, and a quote is returned for exactly the
well-formed responses. -/
structure WithinContract (body : Value) (expectedOrderId : Option Str) : Prop where
  quote : FailsOnly IsAdapterError (parseQuote body)
  pay : FailsOnly IsAdapterError (parsePay body expectedOrderId)
  status : FailsOnly IsAdapterError (parseStatus body expectedOrderId)
  accepted : (∃ quote, parseQuote body = .ok quote) ↔ WellFormedQuote body

section Contract

variable {body : Value} {expectedOrderId : Option Str}

/-- The checks before the amount. -/
def quoteHead (body : Value) : Except PyError (Fields × Str × Str × Str) := do
  let parsed ← bodyObject body "quote"
  let extra ← bodyObject (← required parsed "extra" "quote") "quote.extra"
  let name ← wireString (← required extra "name" "quote.extra") "extra.name"
  let version ← wireString (← required extra "version" "quote.extra") "extra.version"
  let orderId ← matchingOrderId parsed "quote" none
  return (parsed, orderId, name, version)

/-- The checks from the amount on. -/
def quoteTail (parsed : Fields) (orderId name version : Str) : Except PyError Quote := do
  let amount ← positiveUint256 (← required parsed "amount" "quote") "amount"
  let payTo ← address (← required parsed "payTo" "quote") "payTo"
  let asset ← address (← required parsed "asset" "quote") "asset"
  let network ← network (← required parsed "network" "quote")
  return { orderId := orderId, amount := amount, payTo := payTo, asset := asset,
           network := network, tokenName := name, tokenVersion := version }

theorem parseQuote_eq (body : Value) : parseQuote body =
    quoteHead body >>= fun head => quoteTail head.1 head.2.1 head.2.2.1 head.2.2.2 := by
  simp only [parseQuote, quoteHead, quoteTail, bind_assoc, pure_bind]

theorem quoteHead_eq_ok_iff {fields : Fields} {orderId name version : Str} :
    quoteHead body = .ok (fields, orderId, name, version) ↔
      QuoteHead body fields orderId name version := by
  simp only [quoteHead, Checks.bind_eq_ok_iff, bodyObject_eq_ok_iff, required_eq_ok_iff,
    wireString_eq_ok_iff, matchingOrderId_none_eq_ok_iff, pure, Except.pure, Except.ok.injEq,
    Prod.mk.injEq]
  constructor
  · intro accepted
    rcases accepted with ⟨_, ⟨isObject, stringKeys⟩, _, hasExtra, extra, ⟨rfl, extraKeys⟩, _,
      hasName, _, ⟨rfl, name⟩, _, hasVersion, _, ⟨rfl, version⟩, _, orderId, rfl, rfl, rfl, rfl⟩
    exact ⟨isObject, stringKeys,
      ⟨extra, hasExtra, extraKeys, ⟨hasName, name⟩, hasVersion, version⟩, orderId⟩
  · intro head
    rcases head with ⟨isObject, stringKeys, ⟨extra, hasExtra, extraKeys, name, version⟩, orderId⟩
    exact ⟨_, ⟨isObject, stringKeys⟩, _, hasExtra, extra, ⟨rfl, extraKeys⟩, _, name.1, _,
      ⟨rfl, name.2⟩, _, version.1, _, ⟨rfl, version.2⟩, _, orderId, rfl, rfl, rfl, rfl⟩

theorem failsOnly_quoteHead : FailsOnly IsAdapterError (quoteHead body) := by
  refine FailsOnly.bind failsOnly_bodyObject fun parsed _ => ?_
  refine FailsOnly.bind failsOnly_required fun extra _ => ?_
  refine FailsOnly.bind failsOnly_bodyObject fun extra _ => ?_
  refine FailsOnly.bind failsOnly_required fun name _ => ?_
  refine FailsOnly.bind failsOnly_wireString fun name _ => ?_
  refine FailsOnly.bind failsOnly_required fun version _ => ?_
  refine FailsOnly.bind failsOnly_wireString fun version _ => ?_
  refine FailsOnly.bind failsOnly_matchingOrderId fun orderId _ => ?_
  exact failsOnly_ok _

theorem quoteTail_eq_ok_iff {fields : Fields} {orderId name version : Str} {quote : Quote} :
    quoteTail fields orderId name version = .ok quote ↔
      QuotePayment fields quote.amount quote.payTo quote.asset ∧
        (HasText fields "network" quote.network ∧ IsNetwork quote.network) ∧
        quote.orderId = orderId ∧ quote.tokenName = name ∧ quote.tokenVersion = version := by
  simp only [quoteTail, Checks.bind_eq_ok_iff, required_eq_ok_iff, positiveUint256_eq_ok_iff,
    address_eq_ok_iff, network_eq_ok_iff, pure, Except.pure, Except.ok.injEq]
  constructor
  · intro accepted
    rcases accepted with ⟨_, hasAmount, _, ⟨text, rfl, amount⟩, _, hasPayTo, _, ⟨rfl, payTo⟩, _,
      hasAsset, _, ⟨rfl, asset⟩, _, hasNetwork, _, ⟨rfl, network⟩, rfl⟩
    exact ⟨⟨⟨text, hasAmount, amount⟩, ⟨hasPayTo, payTo⟩, hasAsset, asset⟩,
      ⟨hasNetwork, network⟩, rfl, rfl, rfl⟩
  · intro accepted
    rcases accepted with ⟨⟨⟨text, hasAmount, amount⟩, payTo, asset⟩, network, rfl, rfl, rfl⟩
    exact ⟨_, hasAmount, _, ⟨text, rfl, amount⟩, _, payTo.1, _, ⟨rfl, payTo.2⟩, _, asset.1, _,
      ⟨rfl, asset.2⟩, _, network.1, _, ⟨rfl, network.2⟩, rfl⟩

/-- The quote that is read off a response. -/
theorem parseQuote_eq_ok_iff {quote : Quote} :
    parseQuote body = .ok quote ↔ ∃ fields,
      QuoteHead body fields quote.orderId quote.tokenName quote.tokenVersion ∧
      QuotePayment fields quote.amount quote.payTo quote.asset ∧
      HasText fields "network" quote.network ∧ IsNetwork quote.network := by
  simp only [parseQuote_eq, Checks.bind_eq_ok_iff, Prod.exists, quoteHead_eq_ok_iff,
    quoteTail_eq_ok_iff]
  constructor
  · intro accepted
    rcases accepted with ⟨fields, _, _, _, head, payment, network, rfl, rfl, rfl⟩
    exact ⟨fields, head, payment, network⟩
  · intro accepted
    rcases accepted with ⟨fields, head, payment, network⟩
    exact ⟨fields, _, _, _, head, payment, network, rfl, rfl, rfl⟩

theorem exists_parseQuote_iff :
    (∃ quote, parseQuote body = .ok quote) ↔ WellFormedQuote body := by
  simp only [parseQuote_eq_ok_iff]
  constructor
  · intro accepted
    rcases accepted with ⟨quote, fields, head, payment, network⟩
    exact ⟨fields, _, _, _, _, _, _, _, head, payment, network⟩
  · intro wellFormed
    rcases wellFormed with
      ⟨fields, orderId, name, version, amount, payTo, asset, network, head, payment, isNetwork⟩
    exact ⟨⟨orderId, amount, payTo, asset, network, name, version⟩, fields, head, payment,
      isNetwork⟩

/-- A quote response without an overlong number is refused by the adapter's error alone. -/
theorem failsOnly_parseQuote (short : ¬LongNumber body) :
    FailsOnly IsAdapterError (parseQuote body) := by
  rw [parseQuote_eq]
  refine FailsOnly.bind failsOnly_quoteHead fun read isRead => ?_
  rcases read with ⟨fields, orderId, name, version⟩
  have head := quoteHead_eq_ok_iff.mp isRead
  refine FailsOnly.bind failsOnly_required fun value hasAmount => ?_
  rw [required_eq_ok_iff] at hasAmount
  have shortAmount : ¬LongAmount value := by
    intro long
    exact short ⟨fields, orderId, name, version, head, .inl ⟨value, hasAmount, long⟩⟩
  refine FailsOnly.bind (failsOnly_positiveUint256 shortAmount) fun amount converted => ?_
  rcases positiveUint256_eq_ok_iff.mp converted with ⟨text, rfl, isAmount⟩
  refine FailsOnly.bind failsOnly_required fun payTo hasPayTo => ?_
  rw [required_eq_ok_iff] at hasPayTo
  refine FailsOnly.bind failsOnly_address fun payTo checked => ?_
  rcases address_eq_ok_iff.mp checked with ⟨rfl, isPayTo⟩
  refine FailsOnly.bind failsOnly_required fun asset hasAsset => ?_
  rw [required_eq_ok_iff] at hasAsset
  refine FailsOnly.bind failsOnly_address fun asset checked => ?_
  rcases address_eq_ok_iff.mp checked with ⟨rfl, isAsset⟩
  refine FailsOnly.bind failsOnly_required fun value hasNetwork => ?_
  rw [required_eq_ok_iff] at hasNetwork
  have payment : QuotePayment fields amount payTo asset :=
    ⟨⟨text, hasAmount, isAmount⟩, ⟨hasPayTo, isPayTo⟩, hasAsset, isAsset⟩
  have shortNetwork : ¬LongNetwork value := by
    intro long
    exact short ⟨fields, orderId, name, version, head,
      .inr ⟨amount, payTo, asset, value, payment, hasNetwork, long⟩⟩
  refine FailsOnly.bind (failsOnly_network shortNetwork) fun network _ => ?_
  exact failsOnly_ok _

/-- An overlong number ends in the error of `int`. -/
theorem parseQuote_long (long : LongNumber body) : ∃ message,
    parseQuote body = .error (.valueError message) := by
  rcases long with ⟨fields, orderId, name, version, head, long⟩
  rw [parseQuote_eq, quoteHead_eq_ok_iff.mpr head, Checks.ok_bind]
  rcases long with ⟨value, hasAmount, long⟩ |
    ⟨amount, payTo, asset, value, payment, hasNetwork, long⟩
  · rcases positiveUint256_long "amount" long with ⟨message, failed⟩
    refine ⟨message, ?_⟩
    simp only [quoteTail, required_eq_ok_iff.mpr hasAmount, Checks.ok_bind, failed]
    rfl
  · rcases network_long long with ⟨message, failed⟩
    rcases payment with ⟨⟨text, hasAmount, isAmount⟩, ⟨hasPayTo, isPayTo⟩, hasAsset, isAsset⟩
    refine ⟨message, ?_⟩
    simp only [quoteTail, required_eq_ok_iff.mpr hasAmount, required_eq_ok_iff.mpr hasPayTo,
      required_eq_ok_iff.mpr hasAsset, required_eq_ok_iff.mpr hasNetwork, Checks.ok_bind,
      positiveUint256_eq_ok_iff.mpr ⟨text, rfl, isAmount⟩, address_eq_ok_iff.mpr ⟨rfl, isPayTo⟩,
      address_eq_ok_iff.mpr ⟨rfl, isAsset⟩, failed]
    rfl

theorem failsOnly_parsePay : FailsOnly IsAdapterError (parsePay body expectedOrderId) := by
  refine FailsOnly.bind failsOnly_bodyObject fun parsed _ => ?_
  refine FailsOnly.bind failsOnly_required fun settled _ => ?_
  refine FailsOnly.bind failsOnly_boolean fun settled _ => ?_
  refine FailsOnly.bind failsOnly_nullableString fun reason _ => ?_
  refine FailsOnly.bind (failsOnly_refuse ⟨_, rfl⟩) fun _ _ => ?_
  refine FailsOnly.bind failsOnly_matchingOrderId fun orderId _ => ?_
  refine FailsOnly.bind failsOnly_transactionHash fun submittedTx _ => ?_
  exact failsOnly_ok _

theorem failsOnly_parseStatus : FailsOnly IsAdapterError (parseStatus body expectedOrderId) := by
  refine FailsOnly.bind failsOnly_bodyObject fun parsed _ => ?_
  refine FailsOnly.bind failsOnly_required fun resource _ => ?_
  refine FailsOnly.bind failsOnly_nullableString fun resource _ => ?_
  refine FailsOnly.bind failsOnly_matchingOrderId fun orderId _ => ?_
  refine FailsOnly.bind failsOnly_required fun paid _ => ?_
  refine FailsOnly.bind failsOnly_boolean fun paid _ => ?_
  refine FailsOnly.bind failsOnly_required fun submittedTx _ => ?_
  refine FailsOnly.bind failsOnly_transactionHash fun submittedTx _ => ?_
  exact failsOnly_ok _

/-- Responses are parsed within the contract exactly when no quote hands an overlong number to
`int`. -/
theorem withinContract_iff (body : Value) (expectedOrderId : Option Str) :
    WithinContract body expectedOrderId ↔ ¬LongNumber body := by
  constructor
  · intro kept long
    rcases parseQuote_long long with ⟨message, failed⟩
    rcases kept.quote _ failed with ⟨_, impossible⟩
    cases impossible
  · intro short
    exact ⟨failsOnly_parseQuote short, failsOnly_parsePay, failsOnly_parseStatus,
      exists_parseQuote_iff⟩

end Contract

/-- The fields of a quote response up to its amount. -/
def quoteFields (amount : Str) : Fields :=
  [(.str "extra", .dict [(.str "name", .str ['T']), (.str "version", .str ['1'])]),
    (.str "order_id", .str ['o']), (.str "amount", .str amount)]

omit [Interpreter] in
theorem quoteHead_quoteFields (amount : Str) :
    QuoteHead (.dict (quoteFields amount)) (quoteFields amount) ['o'] ['T'] ['1'] where
  isObject := rfl
  stringKeys := by simp [StringKeys, quoteFields]
  extra := by
    refine ⟨_, rfl, by simp [StringKeys], ⟨rfl, ?_⟩, rfl, ?_⟩
    · exact ⟨by decide, by decide⟩
    · exact ⟨by decide, by decide⟩
  orderId := ⟨rfl, by decide, by decide, by decide⟩

omit [Interpreter] in
/-- The numeral of `10 ^ 4300` passes the pattern of the amount, and `int` refuses it. -/
theorem quoteFields_escapes :
    letI := asciiInterpreter []
    ¬∀ (body : Value) (expectedOrderId : Option Str), WithinContract body expectedOrderId := by
  let := asciiInterpreter []
  intro every
  have numeral : ∀ zeros, isNumeral ('1' :: List.replicate zeros '0') = true := by
    intro zeros
    simp [isNumeral]
  have long : IsLong ('1' :: List.replicate 4300 '0') := by
    refine ⟨numeral 4300, ?_⟩
    rw [List.length_cons, List.length_replicate]
    decide
  rcases parseQuote_long ⟨_, _, _, _, quoteHead_quoteFields _, .inl ⟨_, rfl, _, rfl, long⟩⟩ with
    ⟨message, failed⟩
  rcases (every _ none).quote _ failed with ⟨_, impossible⟩
  cases impossible

end SutAdapter

end Psv
