import Psv.Divergence
import Psv.Python.Numeral

/-!
# Settlement truth from a Solana transaction

The balances that a transaction's metadata records before and after it, as
`svm_chain.py` reads them.  An amount is checked with `str.isdigit` and then
converted with `int`.  The two disagree: `isdigit` holds of characters that are
no decimal digits, of decimal digits of every script, and of texts of any
length.
-/

namespace Psv

open Python Python.Decimal Interaction

/-- The digits of the Unicode database beyond ASCII, decimal or not. -/
class DigitTable [Interpreter] where
  isDigit : Char → Bool
  isDigit_of_decimal : ∀ c d, Interpreter.decimal c = some d → isDigit c = true

namespace SvmChain

/-- The largest value of a uint64. -/
def u64Max : ℕ := 2 ^ 64 - 1

/-- A character of the base58 alphabet. -/
def isBase58 (c : Char) : Bool := c.isAlphanum && !(['0', 'I', 'O', 'l'].contains c)

/-- Validate and return a base58 Solana address. -/
def b58 (value : Str) (what : String) : Except PyError Str := do
  refuse (¬(32 ≤ value.length ∧ value.length ≤ 44 ∧ value.all isBase58 = true))
    (.svmEvidenceError s!"{what} must be a base58 Solana address")
  return value

/-- `value == text` -/
def isText (value : Value) (text : Str) : Bool :=
  match value with
  | .str given => given == text
  | _ => false

/-- Whether an entry belongs to a token account. -/
def isFor (owner mint : Str) (entry : Fields) : Bool :=
  isText (getField entry "owner") owner && isText (getField entry "mint") mint

section Amounts

variable [Interpreter] [DigitTable]

/-- `text.isdigit()` -/
def isdigit (text : Str) : Bool :=
  !text.isEmpty && text.all fun c => c.isDigit || (decide (128 ≤ c.toNat) && DigitTable.isDigit c)

/-- Decode an SPL `uiTokenAmount.amount` (a decimal uint64 string) to an integer. -/
def amount (value : Value) (what : String) : Except PyError ℤ :=
  match value with
  | .str text => do
      refuse (isdigit text = false)
        (.svmEvidenceError s!"{what} must be a decimal uint64 string")
      let result ← orRaise (int10 text)
        (.valueError s!"invalid literal for int() with base 10: {Interpreter.repr (.str text)}")
      refuse (¬(0 ≤ result ∧ result ≤ u64Max)) (.svmEvidenceError s!"{what} is outside uint64")
      return result
  | _ => .error (.svmEvidenceError s!"{what} must be a decimal uint64 string")

/-- The amount of an entry. -/
def entryAmount (entry : Fields) (what : String) : Except PyError ℤ :=
  match getField entry "uiTokenAmount" with
  | .dict ui => amount (getField ui "amount") s!"{what} amount"
  | _ => .error (.svmEvidenceError s!"{what} uiTokenAmount must be an object")

/-- The amounts of the entries of one token account. -/
def amountsFor (owner mint : Str) (what : String) : List Value → Except PyError (List ℤ)
  | [] => .ok []
  | .dict entry :: rest =>
      if isFor owner mint entry then do
        let first ← entryAmount entry what
        let others ← amountsFor owner mint what rest
        return first :: others
      else amountsFor owner mint what rest
  | _ :: _ => .error (.svmEvidenceError s!"{what} entry must be an object")

/-- Return the balance of a token account, or zero if that account is absent. -/
def balanceFor (balances : List Value) (owner mint : Str) (what : String) : Except PyError ℤ := do
  let found ← amountsFor owner mint what balances
  refuse (1 < found.length)
    (.svmEvidenceError s!"{what}: more than one token account for owner+mint")
  return found.headD 0

/-- Derive the ground truth from the `meta` object of a `getTransaction` answer. -/
def settlementTruthFromSvmMeta (given : Value) (mint payerOwner payeeOwner : Str) :
    Except PyError SettlementTruth :=
  match given with
  | .dict fields => do
      let mint ← b58 mint "mint"
      let payerOwner ← b58 payerOwner "payer_owner"
      let payeeOwner ← b58 payeeOwner "payee_owner"
      refuse (payerOwner = payeeOwner) (.svmEvidenceError "payer and payee owners must differ")
      let err ← orRaise (fields.lookup (Key.str "err"))
        (.svmEvidenceError "meta must carry an err field")
      match getField fields "preTokenBalances", getField fields "postTokenBalances" with
      | .list pre, .list post => do
          let succeeded := err matches .null
          let payerBefore ← balanceFor pre payerOwner mint "pre payer"
          let payerAfter ← balanceFor post payerOwner mint "post payer"
          let payeeBefore ← balanceFor pre payeeOwner mint "pre payee"
          let payeeAfter ← balanceFor post payeeOwner mint "post payee"
          return settlementTruthFromBalances succeeded payerBefore payerAfter payeeBefore payeeAfter
      | _, _ => .error (.svmEvidenceError "meta must carry pre/postTokenBalances lists")
  | _ => .error (.svmEvidenceError "meta must be an object")

end Amounts

/-! ### What the scans accept -/

/-- An error of the module's own class. -/
def IsEvidenceError (error : PyError) : Prop := ∃ message, error = .svmEvidenceError message

/-- The amount text of an entry. -/
def amountText (entry : Fields) : Option Str :=
  match getField entry "uiTokenAmount" with
  | .dict ui =>
      match getField ui "amount" with
      | .str text => some text
      | _ => none
  | _ => none

/-- The entries of one token account. -/
def accountsOf (owner mint : Str) (balances : List Value) : List Fields :=
  balances.filterMap fun value =>
    match value with
    | .dict entry => if isFor owner mint entry then some entry else none
    | _ => none

/-- ASCII decimal digits that denote a uint64. -/
structure IsUint64 (text : Str) : Prop where
  nonempty : text ≠ []
  digits : ∀ c ∈ text, c.isDigit = true
  bounded : digitsVal text ≤ u64Max

/-- The balance of a token account with at most one entry, of which the amount is a uint64. -/
def IsBalance (balances : List Value) (owner mint : Str) (amount : ℤ) : Prop :=
  (accountsOf owner mint balances = [] ∧ amount = 0) ∨
    ∃ entry text, accountsOf owner mint balances = [entry] ∧ amountText entry = some text ∧
      IsUint64 text ∧ amount = digitsVal text

section Texts

variable [Interpreter] [DigitTable]

/-- The text is taken for digits and converted to a uint64. -/
def Converts (text : Str) (amount : ℤ) : Prop :=
  isdigit text = true ∧ int10 text = some amount ∧ 0 ≤ amount ∧ amount ≤ u64Max

/-- The text is taken for digits and cannot be converted. -/
def Crashes (text : Str) : Prop := isdigit text = true ∧ int10 text = none

/-- An entry the scan for an account gets past. -/
def Passes (owner mint : Str) (value : Value) : Prop :=
  ∃ entry, value = .dict entry ∧ (isFor owner mint entry = true →
    ∃ text amount, amountText entry = some text ∧ Converts text amount)

/-- The scan for an account succeeds. -/
structure ScanPasses (mint : Str) (scan : List Value × Str) : Prop where
  entries : ∀ value ∈ scan.1, Passes scan.2 mint value
  unique : (accountsOf scan.2 mint scan.1).length ≤ 1

/-- The scan for an account gets to a text that cannot be converted. -/
def ScanCrashes (mint : Str) (scan : List Value × Str) : Prop :=
  ∃ front entry rest text, scan.1 = front ++ .dict entry :: rest ∧
    (∀ value ∈ front, Passes scan.2 mint value) ∧ isFor scan.2 mint entry = true ∧
    amountText entry = some text ∧ Crashes text

/-- One of the scans crashes, all before it having succeeded. -/
def SomeCrashes (mint : Str) : List (List Value × Str) → Prop
  | [] => False
  | scan :: scans => ScanCrashes mint scan ∨ ScanPasses mint scan ∧ SomeCrashes mint scans

/-- An amount in use is not written in ASCII. -/
def UsesForeign (mint : Str) (scan : List Value × Str) : Prop :=
  ∃ entry ∈ accountsOf scan.2 mint scan.1, ∃ text, amountText entry = some text ∧
    ∃ c ∈ text, 128 ≤ c.toNat

variable {value : Value} {what : String} {text owner mint : Str} {number : ℤ}
  {balances : List Value}

theorem amount_eq_ok_iff :
    amount value what = .ok number ↔ ∃ text, value = .str text ∧ Converts text number := by
  cases value with
  | str text =>
      simp only [amount, Checks.bind_eq_ok_iff, refuse_eq_ok_iff, Bool.not_eq_false,
        orRaise_eq_ok_iff, not_not, pure, Except.pure, Except.ok.injEq, Value.str.injEq,
        exists_eq_left']
      constructor
      · intro accepted
        rcases accepted with ⟨_, digits, _, read, _, bounds, rfl⟩
        exact ⟨digits, read, bounds⟩
      · intro converts
        rcases converts with ⟨digits, read, bounds⟩
        exact ⟨(), digits, _, read, (), bounds, rfl⟩
  | _ => simp [amount]

theorem failsOnly_amount (converts : ∀ text, value = .str text → ¬Crashes text) :
    FailsOnly IsEvidenceError (amount value what) := by
  unfold amount
  split
  · rename_i text
    refine FailsOnly.bind (failsOnly_refuse ⟨_, rfl⟩) fun _ checked => ?_
    have digits : isdigit text = true := by
      simpa only [refuse_eq_ok_iff, Bool.not_eq_false] using checked
    cases read : int10 text with
    | none => exact absurd ⟨digits, read⟩ (converts text rfl)
    | some result =>
        refine FailsOnly.bind (failsOnly_ok result) fun _ _ => ?_
        exact FailsOnly.bind (failsOnly_refuse ⟨_, rfl⟩) fun _ _ => failsOnly_ok _
  · exact failsOnly_error ⟨_, rfl⟩

theorem amount_crashes (what : String) (crashes : Crashes text) : ∃ message,
    amount (.str text) what = .error (.valueError message) := by
  rcases crashes with ⟨digits, unread⟩
  refine ⟨s!"invalid literal for int() with base 10: {Interpreter.repr (.str text)}", ?_⟩
  simp only [amount, digits, refuse, Bool.true_eq_false, if_false, Checks.ok_bind, unread, orRaise,
    Checks.error_bind]

omit [Interpreter] [DigitTable] in
theorem accountsOf_cons_dict (entry : Fields) (rest : List Value) :
    accountsOf owner mint (.dict entry :: rest) =
      if isFor owner mint entry = true then entry :: accountsOf owner mint rest
      else accountsOf owner mint rest := by
  rw [accountsOf, List.filterMap_cons]
  split_ifs <;> simp_all [accountsOf]

theorem entryAmount_eq_ok_iff {entry : Fields} : entryAmount entry what = .ok number ↔
    ∃ text, amountText entry = some text ∧ Converts text number := by
  unfold entryAmount amountText
  split
  · rename_i ui _
    rw [amount_eq_ok_iff]
    cases getField ui "amount" <;> simp
  · simp

theorem failsOnly_entryAmount {entry : Fields}
    (converts : ∀ text, amountText entry = some text → ¬Crashes text) :
    FailsOnly IsEvidenceError (entryAmount entry what) := by
  unfold entryAmount
  split
  · rename_i ui isObject
    apply failsOnly_amount
    intro text isText
    apply converts
    simp only [amountText, isObject, isText]
  · exact failsOnly_error ⟨_, rfl⟩

theorem entryAmount_crashes {entry : Fields} (what : String) (isText : amountText entry = some text)
    (crashes : Crashes text) :
    ∃ message, entryAmount entry what = .error (.valueError message) := by
  unfold amountText at isText
  split at isText
  · rename_i ui isObject
    split at isText
    · rename_i given isGiven
      cases isText
      rcases amount_crashes s!"{what} amount" crashes with ⟨message, failed⟩
      refine ⟨message, ?_⟩
      simp only [entryAmount, isObject, isGiven, failed]
    · cases isText
  · cases isText

omit [DigitTable] in
theorem Passes.of_other [DigitTable] {entry : Fields} (other : isFor owner mint entry = false) :
    Passes owner mint (.dict entry) := by
  refine ⟨entry, rfl, ?_⟩
  intro isFor
  rw [other] at isFor
  cases isFor

/-- The amounts are those of the entries of the account, in their order. -/
theorem amountsFor_eq_ok_iff {amounts : List ℤ} :
    amountsFor owner mint what balances = .ok amounts ↔
      (∀ value ∈ balances, Passes owner mint value) ∧
        List.Forall₂ (fun entry number => ∃ text, amountText entry = some text ∧
          Converts text number) (accountsOf owner mint balances) amounts := by
  fun_induction amountsFor owner mint what balances generalizing amounts with
  | case1 =>
      have none : accountsOf owner mint [] = [] := rfl
      rw [none, List.forall₂_nil_left_iff, Except.ok.injEq]
      simp [eq_comm]
  | case2 entry rest isEntry ih =>
      rw [accountsOf_cons_dict, if_pos isEntry]
      simp only [Checks.bind_eq_ok_iff, entryAmount_eq_ok_iff, ih, pure, Except.pure,
        Except.ok.injEq, List.forall_mem_cons]
      constructor
      · intro read
        rcases read with ⟨first, isFirst, others, ⟨passes, related⟩, rfl⟩
        rcases isFirst with ⟨text, isText, converts⟩
        refine ⟨⟨⟨entry, rfl, fun _ => ⟨text, first, isText, converts⟩⟩, passes⟩, ?_⟩
        exact .cons ⟨text, isText, converts⟩ related
      · intro read
        rcases read with ⟨⟨_, passes⟩, related⟩
        cases related with
        | cons isFirst related => exact ⟨_, isFirst, _, ⟨passes, related⟩, rfl⟩
  | case3 entry rest notFor ih =>
      rw [accountsOf_cons_dict, if_neg notFor, ih, List.forall_mem_cons]
      have passes : Passes owner mint (.dict entry) := .of_other (by simpa using notFor)
      simp only [passes, true_and]
  | case4 value rest notDict =>
      simp only [reduceCtorEq, false_iff, not_and]
      intro passes
      rcases passes value List.mem_cons_self with ⟨entry, isDict, _⟩
      exact absurd isDict (notDict entry)

/-- An entry at which the scan for an account crashes. -/
def Stops (owner mint : Str) (value : Value) : Prop :=
  ∃ entry text, value = .dict entry ∧ isFor owner mint entry = true ∧
    amountText entry = some text ∧ Crashes text

theorem scanCrashes_cons {rest : List Value} : ScanCrashes mint (value :: rest, owner) ↔
    Stops owner mint value ∨ Passes owner mint value ∧ ScanCrashes mint (rest, owner) := by
  constructor
  · intro crashes
    rcases crashes with ⟨front, entry, back, text, split, passes, isEntry, isText, crashes⟩
    rcases front with _ | ⟨first, front⟩
    · rcases List.cons.inj split with ⟨rfl, _⟩
      exact .inl ⟨entry, text, rfl, isEntry, isText, crashes⟩
    · rcases List.cons.inj split with ⟨rfl, later⟩
      refine .inr ⟨passes _ List.mem_cons_self, front, entry, back, text, later, ?_, isEntry,
        isText, crashes⟩
      intro other mem
      exact passes other (List.mem_cons_of_mem _ mem)
  · intro crashes
    rcases crashes with ⟨entry, text, rfl, isEntry, isText, crashes⟩ | ⟨passes, crashes⟩
    · exact ⟨[], entry, rest, text, rfl, by simp, isEntry, isText, crashes⟩
    · rcases crashes with ⟨front, entry, back, text, split, others, crashes⟩
      refine ⟨value :: front, entry, back, text, by rw [List.cons_append, ← split], ?_, crashes⟩
      exact List.forall_mem_cons.mpr ⟨passes, others⟩

theorem not_scanCrashes_nil : ¬ScanCrashes mint ([], owner) := by
  intro crashes
  rcases crashes with ⟨front, entry, rest, _, same, _⟩
  simp at same

/-- A scan raises something else exactly when it gets to a text that cannot be converted. -/
theorem failsOnly_amountsFor_iff :
    FailsOnly IsEvidenceError (amountsFor owner mint what balances) ↔
      ¬ScanCrashes mint (balances, owner) := by
  fun_induction amountsFor owner mint what balances with
  | case1 => simp [failsOnly_ok, not_scanCrashes_nil]
  | case2 entry rest isEntry ih =>
      rw [scanCrashes_cons, not_or, not_and, ← ih, failsOnly_bind_iff]
      simp only [failsOnly_bind_iff, entryAmount_eq_ok_iff]
      constructor
      · intro only
        rcases only with ⟨first, later⟩
        constructor
        · intro stops
          rcases stops with ⟨_, text, same, _, isText, crashes⟩
          cases same
          rcases entryAmount_crashes what isText crashes with ⟨message, failed⟩
          rcases first _ failed with ⟨_, impossible⟩
          cases impossible
        · intro passes
          rcases passes with ⟨_, same, amounts⟩
          cases same
          rcases amounts isEntry with ⟨text, number, reads⟩
          exact (later number ⟨text, reads⟩).1
      · intro only
        rcases only with ⟨runs, rest⟩
        refine ⟨failsOnly_entryAmount ?_, ?_⟩
        · intro text isText crashes
          exact runs ⟨entry, text, rfl, isEntry, isText, crashes⟩
        · intro number isNumber
          rcases isNumber with ⟨text, reads⟩
          exact ⟨rest ⟨entry, rfl, fun _ => ⟨text, number, reads⟩⟩, fun _ _ => failsOnly_ok _⟩
  | case3 entry rest notFor ih =>
      have passes : Passes owner mint (.dict entry) := .of_other (by simpa using notFor)
      have runs : ¬Stops owner mint (.dict entry) := by
        intro stops
        rcases stops with ⟨_, _, same, isEntry, _⟩
        cases same
        exact notFor isEntry
      simp only [scanCrashes_cons, runs, passes, false_or, true_and, ih]
  | case4 value rest notDict =>
      constructor
      · intro _
        rw [scanCrashes_cons]
        intro crashes
        rcases crashes with ⟨entry, _, isDict, _⟩ | ⟨⟨entry, isDict, _⟩, _⟩
        · exact notDict entry isDict
        · exact notDict entry isDict
      · intro _
        exact failsOnly_error ⟨_, rfl⟩

theorem failsOnly_balanceFor_iff :
    FailsOnly IsEvidenceError (balanceFor balances owner mint what) ↔
      ¬ScanCrashes mint (balances, owner) := by
  rw [balanceFor, failsOnly_bind_iff, failsOnly_amountsFor_iff, and_iff_left_iff_imp]
  intro _ _ _
  exact FailsOnly.bind (failsOnly_refuse ⟨_, rfl⟩) fun _ _ => failsOnly_ok _

/-- What a scan returns: zero, or the amount of the only entry. -/
def Returns (mint : Str) (scan : List Value × Str) (number : ℤ) : Prop :=
  (accountsOf scan.2 mint scan.1 = [] ∧ number = 0) ∨
    ∃ entry text, accountsOf scan.2 mint scan.1 = [entry] ∧ amountText entry = some text ∧
      Converts text number

theorem balanceFor_eq_ok_iff : balanceFor balances owner mint what = .ok number ↔
    ScanPasses mint (balances, owner) ∧ Returns mint (balances, owner) number := by
  simp only [balanceFor, Checks.bind_eq_ok_iff, amountsFor_eq_ok_iff, refuse_eq_ok_iff, pure,
    Except.pure, Except.ok.injEq, not_lt]
  constructor
  · intro read
    rcases read with ⟨amounts, ⟨passes, related⟩, _, few, rfl⟩
    refine ⟨⟨passes, related.length_eq ▸ few⟩, ?_⟩
    generalize found : accountsOf owner mint balances = accounts at related
    cases related with
    | nil => exact .inl ⟨found, rfl⟩
    | cons isFirst others =>
        rcases isFirst with ⟨text, isText, converts⟩
        cases others with
        | nil => exact .inr ⟨_, text, found, isText, converts⟩
        | cons _ _ => simp at few
  · intro read
    rcases read with ⟨⟨passes, _⟩, ⟨none, rfl⟩ | ⟨entry, text, one, isText, converts⟩⟩
    · exact ⟨[], ⟨passes, none ▸ .nil⟩, (), by simp, rfl⟩
    · exact ⟨[number], ⟨passes, one ▸ .cons ⟨text, isText, converts⟩ .nil⟩, (), by simp, rfl⟩

/-- A scan that succeeds returns something. -/
theorem exists_returns {scan : List Value × Str} (passes : ScanPasses mint scan) :
    ∃ number, Returns mint scan number := by
  generalize found : accountsOf scan.2 mint scan.1 = accounts
  rcases accounts with _ | ⟨entry, _ | ⟨other, accounts⟩⟩
  · exact ⟨0, .inl ⟨found, rfl⟩⟩
  · have mem : entry ∈ accountsOf scan.2 mint scan.1 := by
      rw [found]
      exact List.mem_cons_self
    rw [accountsOf, List.mem_filterMap] at mem
    rcases mem with ⟨value, mem, selected⟩
    rcases passes.entries value mem with ⟨given, rfl, amounts⟩
    simp only [Option.ite_none_right_eq_some, Option.some.injEq] at selected
    rcases selected with ⟨isEntry, rfl⟩
    rcases amounts isEntry with ⟨text, number, isText, converts⟩
    exact ⟨number, .inr ⟨given, text, found, isText, converts⟩⟩
  · have few := passes.unique
    rw [found] at few
    simp at few

/-- ASCII digits that convert denote their decimal value. -/
theorem Converts.isUint64 (converts : Converts text number) (ascii : ∀ c ∈ text, c.toNat < 128) :
    IsUint64 text ∧ number = digitsVal text := by
  rcases converts with ⟨digits, read, _, bounded⟩
  simp only [isdigit, Bool.and_eq_true, Bool.not_eq_true', List.isEmpty_eq_false_iff,
    List.all_eq_true, Bool.or_eq_true, decide_eq_true_eq] at digits
  have decimal : ∀ c ∈ text, c.isDigit = true := by
    intro c mem
    have small := ascii c mem
    rcases digits.2 c mem with digit | foreign
    · exact digit
    · omega
  rw [int10_digits digits.1 decimal] at read
  split_ifs at read
  cases read
  exact ⟨⟨digits.1, decimal, by exact_mod_cast bounded⟩, rfl⟩

theorem Returns.isBalance {scan : List Value × Str} (returns : Returns mint scan number)
    (ascii : ¬UsesForeign mint scan) : IsBalance scan.1 scan.2 mint number := by
  rcases returns with none | ⟨entry, text, one, isText, converts⟩
  · exact .inl none
  · have plain : ∀ c ∈ text, c.toNat < 128 := by
      intro c mem
      apply not_le.mp
      intro foreign
      refine ascii ⟨entry, ?_, text, isText, c, mem, foreign⟩
      rw [one]
      exact List.mem_cons_self
    exact .inr ⟨entry, text, one, isText, converts.isUint64 plain⟩

omit [Interpreter] [DigitTable] in
theorem IsBalance.not_usesForeign (balance : IsBalance balances owner mint number) :
    ¬UsesForeign mint (balances, owner) := by
  intro foreign
  rcases foreign with ⟨entry, mem, text, isText, c, inText, foreign⟩
  rcases balance with ⟨none, _⟩ | ⟨only, digits, one, isDigits, uint64, _⟩
  · rw [none] at mem
    cases mem
  · rw [one, List.mem_singleton] at mem
    rw [mem, isDigits, Option.some.injEq] at isText
    rw [← isText] at inText
    have small := (hexDigitVal_of_isDigit (uint64.digits c inText)).1
    have ascii := isAscii_of_isHexDigit small
    omega

end Texts

/-! ### The whole evidence -/

section Evidence

variable [Interpreter] [DigitTable]

/-- A base58 address. -/
def IsAddress (text : Str) : Prop := 32 ≤ text.length ∧ text.length ≤ 44 ∧ text.all isBase58 = true

/-- The checks in front of the scans succeed, and these are the two lists of balances. -/
structure Admitted (fields : Fields) (mint payerOwner payeeOwner : Str) (pre post : List Value) :
    Prop where
  isMint : IsAddress mint
  isPayer : IsAddress payerOwner
  isPayee : IsAddress payeeOwner
  differ : payerOwner ≠ payeeOwner
  hasErr : hasField fields "err" = true
  isPre : getField fields "preTokenBalances" = .list pre
  isPost : getField fields "postTokenBalances" = .list post

/-- The lists of balances and the owners they are scanned for, in their order. -/
def scans (payerOwner payeeOwner : Str) (pre post : List Value) : List (List Value × Str) :=
  [(pre, payerOwner), (post, payerOwner), (pre, payeeOwner), (post, payeeOwner)]

/-- The ground truth is what the four balances say. -/
def Derived (given : Value) (mint payerOwner payeeOwner : Str) (truth : SettlementTruth) : Prop :=
  ∃ fields pre post payerBefore payerAfter payeeBefore payeeAfter,
    given = .dict fields ∧ Admitted fields mint payerOwner payeeOwner pre post ∧
    IsBalance pre payerOwner mint payerBefore ∧ IsBalance post payerOwner mint payerAfter ∧
    IsBalance pre payeeOwner mint payeeBefore ∧ IsBalance post payeeOwner mint payeeAfter ∧
    truth.payerDelta = payerAfter - payerBefore ∧ truth.payeeDelta = payeeAfter - payeeBefore ∧
    (truth.fundsMoved = true → getField fields "err" = .null)

/-- The function returns only what the balances say, and raises nothing but its own error. -/
structure FailsClosed (given : Value) (mint payerOwner payeeOwner : Str) : Prop where
  errors : FailsOnly IsEvidenceError
    (settlementTruthFromSvmMeta given mint payerOwner payeeOwner)
  truth : ∀ truth, settlementTruthFromSvmMeta given mint payerOwner payeeOwner = .ok truth →
    Derived given mint payerOwner payeeOwner truth

/-- Texts that `isdigit` lets through decide the run: a scan gets to one that cannot be converted,
or all four succeed and an amount in use is not written in ASCII. -/
def Misread (given : Value) (mint payerOwner payeeOwner : Str) : Prop :=
  ∃ fields pre post, given = .dict fields ∧ Admitted fields mint payerOwner payeeOwner pre post ∧
    (SomeCrashes mint (scans payerOwner payeeOwner pre post) ∨
      (∀ scan ∈ scans payerOwner payeeOwner pre post, ScanPasses mint scan) ∧
        ∃ scan ∈ scans payerOwner payeeOwner pre post, UsesForeign mint scan)

/-- The four scans, and what is made of them. -/
def scanAll (succeeded : Bool) (mint payerOwner payeeOwner : Str) (pre post : List Value) :
    Except PyError SettlementTruth := do
  let payerBefore ← balanceFor pre payerOwner mint "pre payer"
  let payerAfter ← balanceFor post payerOwner mint "post payer"
  let payeeBefore ← balanceFor pre payeeOwner mint "pre payee"
  let payeeAfter ← balanceFor post payeeOwner mint "post payee"
  return settlementTruthFromBalances succeeded payerBefore payerAfter payeeBefore payeeAfter

variable {mint payerOwner payeeOwner : Str} {pre post : List Value} {fields : Fields}

omit [Interpreter] [DigitTable] in
theorem b58_eq_ok_iff {value result : Str} {what : String} :
    b58 value what = .ok result ↔ IsAddress value ∧ value = result := by
  simp only [b58, Checks.bind_eq_ok_iff, refuse_eq_ok_iff, not_not, pure, Except.pure,
    Except.ok.injEq, IsAddress]
  constructor
  · intro accepted
    rcases accepted with ⟨_, isAddress, rfl⟩
    exact ⟨isAddress, rfl⟩
  · intro accepted
    exact ⟨(), accepted⟩

omit [Interpreter] [DigitTable] in
theorem failsOnly_b58 {value : Str} {what : String} : FailsOnly IsEvidenceError (b58 value what) :=
  FailsOnly.bind (failsOnly_refuse ⟨_, rfl⟩) fun _ _ => failsOnly_ok _

/-- Behind the checks the function is the four scans. -/
theorem settlementTruthFromSvmMeta_admitted
    (admitted : Admitted fields mint payerOwner payeeOwner pre post) :
    settlementTruthFromSvmMeta (.dict fields) mint payerOwner payeeOwner =
      scanAll (getField fields "err" matches .null) mint payerOwner payeeOwner pre post := by
  rcases Option.isSome_iff_exists.mp admitted.hasErr with ⟨err, isErr⟩
  have errField : getField fields "err" = err := by rw [getField, isErr, Option.getD_some]
  simp only [settlementTruthFromSvmMeta, b58_eq_ok_iff.mpr ⟨admitted.isMint, rfl⟩,
    b58_eq_ok_iff.mpr ⟨admitted.isPayer, rfl⟩, b58_eq_ok_iff.mpr ⟨admitted.isPayee, rfl⟩,
    refuse_of_fails admitted.differ, isErr, orRaise, Checks.ok_bind, admitted.isPre,
    admitted.isPost, errField]
  rfl

/-- One scan in front of others. -/
theorem failsOnly_scan_iff {α : Type} {next : ℤ → Except PyError α} {Rest : Prop}
    {balances : List Value} {owner : Str} {what : String}
    (rest : ∀ number, FailsOnly IsEvidenceError (next number) ↔ ¬Rest) :
    FailsOnly IsEvidenceError (balanceFor balances owner mint what >>= next) ↔
      ¬(ScanCrashes mint (balances, owner) ∨ ScanPasses mint (balances, owner) ∧ Rest) := by
  rw [failsOnly_bind_iff, failsOnly_balanceFor_iff]
  simp only [balanceFor_eq_ok_iff, rest, not_or, not_and]
  apply and_congr_right
  intro _
  constructor
  · intro later passes
    rcases exists_returns passes with ⟨number, returns⟩
    exact later number ⟨passes, returns⟩
  · intro later _ read
    exact later read.1

theorem failsOnly_scanAll_iff {succeeded : Bool} :
    FailsOnly IsEvidenceError (scanAll succeeded mint payerOwner payeeOwner pre post) ↔
      ¬SomeCrashes mint (scans payerOwner payeeOwner pre post) := by
  apply failsOnly_scan_iff
  intro payerBefore
  apply failsOnly_scan_iff
  intro payerAfter
  apply failsOnly_scan_iff
  intro payeeBefore
  apply failsOnly_scan_iff
  intro payeeAfter
  simp [SomeCrashes, failsOnly_ok, pure, Except.pure]

theorem scanAll_eq_ok_iff {succeeded : Bool} {truth : SettlementTruth} :
    scanAll succeeded mint payerOwner payeeOwner pre post = .ok truth ↔
      (∀ scan ∈ scans payerOwner payeeOwner pre post, ScanPasses mint scan) ∧
      ∃ payerBefore payerAfter payeeBefore payeeAfter,
        Returns mint (pre, payerOwner) payerBefore ∧ Returns mint (post, payerOwner) payerAfter ∧
        Returns mint (pre, payeeOwner) payeeBefore ∧ Returns mint (post, payeeOwner) payeeAfter ∧
        truth = settlementTruthFromBalances succeeded payerBefore payerAfter payeeBefore
          payeeAfter := by
  simp only [scanAll, Checks.bind_eq_ok_iff, balanceFor_eq_ok_iff, scans, List.forall_mem_cons,
    List.not_mem_nil, false_implies, implies_true, and_true, pure, Except.pure, Except.ok.injEq]
  constructor
  · intro read
    rcases read with ⟨_, ⟨first, payerBefore⟩, _, ⟨second, payerAfter⟩, _, ⟨third, payeeBefore⟩, _,
      ⟨fourth, payeeAfter⟩, rfl⟩
    exact ⟨⟨first, second, third, fourth⟩, _, _, _, _, payerBefore, payerAfter, payeeBefore,
      payeeAfter, rfl⟩
  · intro read
    rcases read with ⟨⟨first, second, third, fourth⟩, _, _, _, _, payerBefore, payerAfter,
      payeeBefore, payeeAfter, rfl⟩
    exact ⟨_, ⟨first, payerBefore⟩, _, ⟨second, payerAfter⟩, _, ⟨third, payeeBefore⟩, _,
      ⟨fourth, payeeAfter⟩, rfl⟩

/-- A run that returns has passed the checks and the four scans. -/
theorem admitted_of_ok {given : Value} {truth : SettlementTruth}
    (returned : settlementTruthFromSvmMeta given mint payerOwner payeeOwner = .ok truth) :
    ∃ fields pre post, given = .dict fields ∧
      Admitted fields mint payerOwner payeeOwner pre post ∧
      scanAll (getField fields "err" matches .null) mint payerOwner payeeOwner pre post =
        .ok truth := by
  cases given with
  | dict fields =>
      have run := returned
      simp only [settlementTruthFromSvmMeta, Checks.bind_eq_ok_iff, b58_eq_ok_iff,
        refuse_eq_ok_iff, orRaise_eq_ok_iff] at run
      rcases run with ⟨_, ⟨isMint, rfl⟩, _, ⟨isPayer, rfl⟩, _, ⟨isPayee, rfl⟩, _, differ, err,
        isErr, run⟩
      split at run
      · rename_i pre post isPre isPost
        have admitted : Admitted fields mint payerOwner payeeOwner pre post :=
          ⟨isMint, isPayer, isPayee, differ, by rw [hasField, isErr]; rfl, isPre, isPost⟩
        rw [settlementTruthFromSvmMeta_admitted admitted] at returned
        exact ⟨fields, pre, post, rfl, admitted, returned⟩
      · cases run
  | _ => cases returned

/-- Whatever the checks refuse ends in the module's own error. -/
theorem failsOnly_of_scans (given : Value)
    (scanned : ∀ fields pre post, given = .dict fields →
      Admitted fields mint payerOwner payeeOwner pre post →
      ¬SomeCrashes mint (scans payerOwner payeeOwner pre post)) :
    FailsOnly IsEvidenceError (settlementTruthFromSvmMeta given mint payerOwner payeeOwner) := by
  cases given with
  | dict fields =>
      refine FailsOnly.bind failsOnly_b58 fun _ checkedMint => ?_
      rcases b58_eq_ok_iff.mp checkedMint with ⟨isMint, rfl⟩
      refine FailsOnly.bind failsOnly_b58 fun _ checkedPayer => ?_
      rcases b58_eq_ok_iff.mp checkedPayer with ⟨isPayer, rfl⟩
      refine FailsOnly.bind failsOnly_b58 fun _ checkedPayee => ?_
      rcases b58_eq_ok_iff.mp checkedPayee with ⟨isPayee, rfl⟩
      refine FailsOnly.bind (failsOnly_refuse ⟨_, rfl⟩) fun _ differ => ?_
      rw [refuse_eq_ok_iff] at differ
      cases isErr : fields.lookup (Key.str "err") with
      | none => exact failsOnly_error ⟨_, rfl⟩
      | some err =>
          refine FailsOnly.bind (failsOnly_ok err) fun err _ => ?_
          split
          · rename_i pre post isPre isPost
            have admitted : Admitted fields mint payerOwner payeeOwner pre post :=
              ⟨isMint, isPayer, isPayee, differ, by rw [hasField, isErr]; rfl, isPre, isPost⟩
            exact failsOnly_scanAll_iff.mpr (scanned fields pre post rfl admitted)
          · exact failsOnly_error ⟨_, rfl⟩
  | _ => exact failsOnly_error ⟨_, rfl⟩

/-- The evidence fails closed exactly when no text that `isdigit` lets through is misread. -/
theorem settlementTruth_closed_iff (given : Value) (mint payerOwner payeeOwner : Str) :
    FailsClosed given mint payerOwner payeeOwner ↔ ¬Misread given mint payerOwner payeeOwner := by
  constructor
  · intro closed misread
    rcases misread with ⟨fields, pre, post, rfl, admitted, crashes | ⟨passes, foreign⟩⟩
    · have only := closed.errors
      rw [settlementTruthFromSvmMeta_admitted admitted, failsOnly_scanAll_iff] at only
      exact only crashes
    · have all := passes
      simp only [scans, List.forall_mem_cons, List.not_mem_nil, false_implies, implies_true,
        and_true] at all
      rcases all with ⟨first, second, third, fourth⟩
      rcases exists_returns first with ⟨payerBefore, isPayerBefore⟩
      rcases exists_returns second with ⟨payerAfter, isPayerAfter⟩
      rcases exists_returns third with ⟨payeeBefore, isPayeeBefore⟩
      rcases exists_returns fourth with ⟨payeeAfter, isPayeeAfter⟩
      have returned : scanAll (getField fields "err" matches .null) mint payerOwner payeeOwner
          pre post = .ok _ :=
        scanAll_eq_ok_iff.mpr ⟨passes, payerBefore, payerAfter, payeeBefore, payeeAfter,
          isPayerBefore, isPayerAfter, isPayeeBefore, isPayeeAfter, rfl⟩
      rw [← settlementTruthFromSvmMeta_admitted admitted] at returned
      rcases closed.truth _ returned with ⟨_, pre', post', _, _, _, _, same, admitted', balance⟩
      cases same
      have samePre := admitted.isPre.symm.trans admitted'.isPre
      have samePost := admitted.isPost.symm.trans admitted'.isPost
      cases samePre
      cases samePost
      rcases balance with ⟨payerPre, payerPost, payeePre, payeePost, _⟩
      simp only [scans, List.mem_cons, List.not_mem_nil, or_false, exists_eq_or_imp,
        exists_eq_left] at foreign
      rcases foreign with foreign | foreign | foreign | foreign
      · exact payerPre.not_usesForeign foreign
      · exact payerPost.not_usesForeign foreign
      · exact payeePre.not_usesForeign foreign
      · exact payeePost.not_usesForeign foreign
  · intro exact_
    constructor
    · apply failsOnly_of_scans
      intro fields pre post isDict admitted crashes
      exact exact_ ⟨fields, pre, post, isDict, admitted, .inl crashes⟩
    · intro truth returned
      rcases admitted_of_ok returned with ⟨fields, pre, post, rfl, admitted, run⟩
      rcases scanAll_eq_ok_iff.mp run with ⟨passes, payerBefore, payerAfter, payeeBefore,
        payeeAfter, isPayerBefore, isPayerAfter, isPayeeBefore, isPayeeAfter, rfl⟩
      have ascii : ∀ scan ∈ scans payerOwner payeeOwner pre post, ¬UsesForeign mint scan := by
        intro scan mem foreign
        exact exact_ ⟨fields, pre, post, rfl, admitted, .inr ⟨passes, scan, mem, foreign⟩⟩
      refine ⟨fields, pre, post, payerBefore, payerAfter, payeeBefore, payeeAfter, rfl, admitted,
        isPayerBefore.isBalance (ascii _ (by simp [scans])),
        isPayerAfter.isBalance (ascii _ (by simp [scans])),
        isPayeeBefore.isBalance (ascii _ (by simp [scans])),
        isPayeeAfter.isBalance (ascii _ (by simp [scans])), rfl, rfl, ?_⟩
      intro moved
      simp only [SettlementTruth.fundsMoved, settlementTruthFromBalances, Bool.and_eq_true] at moved
      rcases shape : getField fields "err" <;> simp_all

end Evidence

/-- A table with the superscript two, which is a digit and no decimal digit. -/
@[reducible]
def superscriptTwo : @DigitTable (asciiInterpreter []) :=
  letI := asciiInterpreter []
  { isDigit := fun c => c == Char.ofNat 178
    isDigit_of_decimal := by
      intro c d impossible
      cases impossible }

/-- The evidence of one transaction, with the payer's balance before it. -/
def evidence (amount : Str) : Fields :=
  [(.str "err", .null),
    (.str "preTokenBalances", .list [.dict [(.str "owner", .str (List.replicate 32 '1')),
      (.str "mint", .str (List.replicate 32 '3')),
      (.str "uiTokenAmount", .dict [(.str "amount", .str amount)])]]),
    (.str "postTokenBalances", .list [])]

/-- The superscript two passes `isdigit`, and `int` refuses it. -/
theorem superscript_escapes :
    letI := asciiInterpreter []
    letI := superscriptTwo
    ¬∀ given mint payerOwner payeeOwner, FailsClosed given mint payerOwner payeeOwner := by
  let := asciiInterpreter []
  let := superscriptTwo
  intro every
  have admitted : Admitted (evidence [Char.ofNat 178]) (List.replicate 32 '3') (List.replicate 32 '1')
      (List.replicate 32 '2') _ _ :=
    ⟨⟨by decide, by decide, by decide⟩, ⟨by decide, by decide, by decide⟩,
      ⟨by decide, by decide, by decide⟩, by decide, rfl, rfl, rfl⟩
  have only := (every (.dict (evidence [Char.ofNat 178])) (List.replicate 32 '3')
    (List.replicate 32 '1') (List.replicate 32 '2')).errors
  rw [settlementTruthFromSvmMeta_admitted admitted, failsOnly_scanAll_iff] at only
  apply only
  apply Or.inl
  refine ⟨[], _, [], [Char.ofNat 178], rfl, by simp, by decide, rfl, ?_⟩
  constructor
  · decide
  · decide

end SvmChain

end Psv
