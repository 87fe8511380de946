import Psv.World
import Psv.Python.Decimal
import Mathlib.Tactic.Linarith

/-!
# Token decimals

`to_atomic` of `token_quirks.py` turns a human amount into atomic units.  The
sign of the scaled exponent decides whether the coefficient is multiplied or
divided; on both sides a count of digits refuses early what the exact computation
would refuse.  So the result is exact, or there is none within a `uint256`.
-/

namespace Psv

open Python Interaction

namespace Quirks

def uint256Max : ℤ := 2 ^ 256 - 1

section

variable [Interpreter]

/-- `_decimals`: validate a conventional ERC-20 uint8 decimal count. -/
def decimalPlaces : Value → Except PyError ℤ
  | .int value =>
      if 0 ≤ value ∧ value ≤ 255 then .ok value
      else .error (.valueError "decimals must be an integer within [0, 255]")
  | _ => .error (.valueError "decimals must be an integer within [0, 255]")

/-- `_uint256`: validate an exact non-negative integer in the uint256 domain. -/
def uint256 (value : ℤ) (what : String) : Except PyError ℤ :=
  if 0 ≤ value ∧ value ≤ uint256Max then .ok value
  else .error (.valueError s!"{what} must be a uint256")

/-- `int(digits)` for a text of decimal digits. -/
def intOfDigits (digits : Str) : Except PyError ℕ :=
  if digits.length ≤ maxStrDigits then .ok (Decimal.digitsVal digits)
  else .error (.valueError "Exceeds the limit (4300 digits) for integer string conversion")

/-- The refusal of an amount that has too many places. -/
def unrepresentable (human : Value) (places : ℤ) : PyError :=
  .valueError s!"{Interpreter.repr human} is not representable in {places} decimals"

/-- The atomic amount of a coefficient with an exponent, before its sign. -/
def scaled (human : Value) (places : ℤ) (coefficient : ℕ) (exponent : ℤ) : Except PyError ℕ := do
  let scaledExponent := exponent + places
  if 0 ≤ scaledExponent then
    refuse (coefficient ≠ 0 ∧ 78 < (Nat.toDigits 10 coefficient).length + scaledExponent)
      (.valueError "atomic amount must be a uint256")
    return coefficient * 10 ^ scaledExponent.toNat
  else
    let divisorPlaces := -scaledExponent
    refuse (coefficient ≠ 0 ∧ (Nat.toDigits 10 coefficient).length < divisorPlaces)
      (unrepresentable human places)
    let divisor := 10 ^ divisorPlaces.toNat
    refuse (coefficient % divisor ≠ 0) (unrepresentable human places)
    return coefficient / divisor

/-- The atomic amount of what `Decimal` has read. -/
def atomicOf (human : Value) (places : ℤ) : Decimal → Except PyError ℤ
  | .finite negative digits exponent => do
      refuse (negative = true ∧ Decimal.digitsVal digits ≠ 0)
        (.valueError "human amount must be finite and non-negative")
      let coefficient ← intOfDigits digits
      let magnitude ← scaled human places coefficient exponent
      let atomic : ℤ := if negative then -magnitude else magnitude
      refuse (atomic < 0) (.valueError "human amount must be non-negative")
      uint256 atomic "atomic amount"
  | _ => .error (.valueError "human amount must be finite and non-negative")

/-- `isinstance(human, (str, int))`, without `bool` -/
def isTextOrInt : Value → Bool
  | .str _ | .int _ => true
  | _ => false

/-- `isinstance(human, str) and len(human) > 1024` -/
def isTooLong : Value → Bool
  | .str text => decide (1024 < text.length)
  | _ => false

/-- Convert a finite, non-negative human amount to atomic units exactly. -/
def toAtomic (human decimals : Value) : Except PyError ℤ := do
  let places ← decimalPlaces decimals
  refuse (isTextOrInt human = false)
    (.valueError "human amount must be a decimal string or integer")
  refuse (isTooLong human = true) (.valueError "human amount exceeds the input size limit")
  let text ← orRaise (pyStr human)
    (.valueError "Exceeds the limit (4300 digits) for integer string conversion")
  let amount ← orRaise (Decimal.ofText text)
    (.valueError s!"invalid human amount: {Interpreter.repr human}")
  atomicOf human places amount

end

/-! ### Scaling -/

/-- The number of decimal digits. -/
def digitCount (n : ℕ) : ℕ := (Nat.toDigits 10 n).length

theorem digitCount_pos (n : ℕ) : 0 < digitCount n := List.length_pos_iff.mpr Nat.toDigits_ne_nil

theorem lt_pow_digitCount (n : ℕ) : n < 10 ^ digitCount n :=
  (Nat.length_toDigits_le_iff (by decide) (digitCount_pos n)).mp le_rfl

theorem pow_digitCount_le {n : ℕ} (nonzero : n ≠ 0) : 10 ^ (digitCount n - 1) ≤ n := by
  have positive := digitCount_pos n
  by_cases single : digitCount n = 1
  · rw [single]
    exact Nat.one_le_iff_ne_zero.mpr nonzero
  · by_contra small
    have short := (Nat.length_toDigits_le_iff (b := 10) (n := n) (k := digitCount n - 1) (by decide)
      (by omega)).mpr (not_le.mp small)
    have same : (Nat.toDigits 10 n).length = digitCount n := rfl
    omega

/-- A multiple of a power of ten with too many digits is beyond `uint256`. -/
theorem mul_pow_gt {coefficient scale : ℕ} (nonzero : coefficient ≠ 0)
    (long : 78 < digitCount coefficient + scale) : 2 ^ 256 ≤ coefficient * 10 ^ scale := by
  have positive := digitCount_pos coefficient
  calc 2 ^ 256 ≤ 10 ^ 78 := by norm_num
    _ ≤ 10 ^ (digitCount coefficient - 1 + scale) := Nat.pow_le_pow_right (by decide) (by omega)
    _ = 10 ^ (digitCount coefficient - 1) * 10 ^ scale := Nat.pow_add _ _ _
    _ ≤ coefficient * 10 ^ scale := Nat.mul_le_mul_right _ (pow_digitCount_le nonzero)

/-- A coefficient with too few digits is no multiple of a power of ten. -/
theorem mod_pow_ne_zero {coefficient places : ℕ} (nonzero : coefficient ≠ 0)
    (short : digitCount coefficient < places) : coefficient % 10 ^ places ≠ 0 := by
  have small : coefficient < 10 ^ places :=
    (lt_pow_digitCount coefficient).trans_le (Nat.pow_le_pow_right (by decide) short.le)
  rw [Nat.mod_eq_of_lt small]
  exact nonzero

/-- Dividing by a power of ten yields an integer when there is no remainder. -/
theorem mul_zpow_neg_eq_iff {coefficient places : ℕ} {n : ℤ} :
    (coefficient : ℚ) * 10 ^ (-(places : ℤ)) = n ↔ (coefficient : ℤ) = n * 10 ^ places := by
  have nonzero : (10 : ℚ) ^ places ≠ 0 := pow_ne_zero _ (by norm_num)
  rw [zpow_neg, zpow_natCast, ← div_eq_mul_inv, div_eq_iff nonzero]
  exact_mod_cast Iff.rfl

section

variable [Interpreter] {human : Value} {places : ℤ} {coefficient : ℕ} {exponent : ℤ}

theorem scaled_cases_mul (enlarged : 0 ≤ exponent + places) :
    (∃ n : ℕ, scaled human places coefficient exponent = .ok n ∧
      (coefficient : ℚ) * 10 ^ (exponent + places) = n) ∨
    (∃ message, scaled human places coefficient exponent = .error (.valueError message)) ∧
      ∀ n : ℤ, n ≤ 2 ^ 256 - 1 → (coefficient : ℚ) * 10 ^ (exponent + places) ≠ n := by
  rw [scaled, if_pos enlarged]
  generalize exponent + places = scale at *
  lift scale to ℕ using enlarged
  have value : (coefficient : ℚ) * 10 ^ (scale : ℤ) = ((coefficient * 10 ^ scale : ℕ) : ℚ) := by
    rw [zpow_natCast]
    push_cast
    rfl
  by_cases long : coefficient ≠ 0 ∧ 78 < ((Nat.toDigits 10 coefficient).length : ℤ) + scale
  · right
    rw [refuse_of_holds long]
    refine ⟨⟨_, rfl⟩, ?_⟩
    intro n small same
    have large := mul_pow_gt long.1 (by exact_mod_cast long.2)
    rw [value] at same
    have integer : ((coefficient * 10 ^ scale : ℕ) : ℤ) = n := by exact_mod_cast same
    omega
  · left
    rw [refuse_of_fails long]
    exact ⟨_, rfl, value⟩

theorem scaled_cases_div (reduced : ¬0 ≤ exponent + places) :
    (∃ n : ℕ, scaled human places coefficient exponent = .ok n ∧
      (coefficient : ℚ) * 10 ^ (exponent + places) = n) ∨
    (∃ message, scaled human places coefficient exponent = .error (.valueError message)) ∧
      ∀ n : ℤ, n ≤ 2 ^ 256 - 1 → (coefficient : ℚ) * 10 ^ (exponent + places) ≠ n := by
  rw [scaled, if_neg reduced]
  obtain ⟨divisorPlaces, same⟩ : ∃ n : ℕ, exponent + places = -(n : ℤ) :=
    ⟨(-(exponent + places)).toNat, by omega⟩
  rw [same]
  simp only [neg_neg, Int.toNat_natCast]
  -- no integer is the quotient when there is a remainder
  have indivisible : coefficient % 10 ^ divisorPlaces ≠ 0 →
      ∀ n : ℤ, n ≤ 2 ^ 256 - 1 → (coefficient : ℚ) * 10 ^ (-(divisorPlaces : ℤ)) ≠ n := by
    intro remainder n _ quotient
    apply remainder
    apply Nat.mod_eq_zero_of_dvd
    have divides : (10 ^ divisorPlaces : ℤ) ∣ coefficient :=
      ⟨n, by rw [mul_zpow_neg_eq_iff.mp quotient, mul_comm]⟩
    exact_mod_cast divides
  by_cases short : coefficient ≠ 0 ∧ ((Nat.toDigits 10 coefficient).length : ℤ) < divisorPlaces
  · right
    rw [refuse_of_holds short]
    exact ⟨⟨_, rfl⟩, indivisible (mod_pow_ne_zero short.1 (by exact_mod_cast short.2))⟩
  · rw [refuse_of_fails short, Checks.ok_bind]
    by_cases remainder : coefficient % 10 ^ divisorPlaces ≠ 0
    · right
      rw [refuse_of_holds remainder]
      exact ⟨⟨_, rfl⟩, indivisible remainder⟩
    · left
      rw [refuse_of_fails remainder]
      refine ⟨_, rfl, ?_⟩
      have whole : coefficient = coefficient / 10 ^ divisorPlaces * 10 ^ divisorPlaces :=
        (Nat.div_mul_cancel (Nat.dvd_of_mod_eq_zero (not_ne_iff.mp remainder))).symm
      have quotient := @mul_zpow_neg_eq_iff coefficient divisorPlaces
        (coefficient / 10 ^ divisorPlaces : ℕ)
      rw [Int.cast_natCast] at quotient
      exact quotient.mpr (by exact_mod_cast whole)

/-- A coefficient is scaled exactly, or refused when no `uint256` is the exact result. -/
theorem scaled_cases :
    (∃ n : ℕ, scaled human places coefficient exponent = .ok n ∧
      (coefficient : ℚ) * 10 ^ (exponent + places) = n) ∨
    (∃ message, scaled human places coefficient exponent = .error (.valueError message)) ∧
      ∀ n : ℤ, n ≤ 2 ^ 256 - 1 → (coefficient : ℚ) * 10 ^ (exponent + places) ≠ n := by
  by_cases enlarged : 0 ≤ exponent + places
  · exact scaled_cases_mul enlarged
  · exact scaled_cases_div enlarged

/-! ### Amounts -/

/-- A natural number of atomic units within `uint256` that is an exact amount. -/
def Represents (value : ℚ) (decimals : ℕ) (n : ℤ) : Prop :=
  0 ≤ value ∧ value * 10 ^ decimals = n ∧ n ≤ 2 ^ 256 - 1

/-- The result is the exact amount, and a `ValueError` when there is none. -/
structure IsExact (result : Except PyError ℤ) (value : ℚ) (decimals : ℕ) : Prop where
  ok_iff : ∀ n, result = .ok n ↔ Represents value decimals n
  refused : (¬∃ n, Represents value decimals n) → ∃ message, result = .error (.valueError message)

omit [Interpreter] in
theorem isExact_of_error {error : PyError} {value : ℚ} {decimals : ℕ}
    (isValueError : error.IsValueError) (none : ¬∃ n, Represents value decimals n) :
    IsExact (.error error) value decimals := by
  rcases isValueError with ⟨message, same⟩
  refine ⟨?_, fun _ => ⟨message, congrArg _ same⟩⟩
  intro n
  constructor
  · intro impossible
    cases impossible
  · intro represents
    exact absurd ⟨n, represents⟩ none

omit [Interpreter] in
theorem isExact_uint256 {value : ℚ} {decimals n : ℕ} {what : String}
    (amount : value * 10 ^ decimals = n) : IsExact (uint256 n what) value decimals := by
  have positive : (0 : ℚ) < 10 ^ decimals := by positivity
  have nonneg : 0 ≤ value := by
    have product : 0 ≤ value * 10 ^ decimals := by
      rw [amount]
      exact Nat.cast_nonneg n
    exact nonneg_of_mul_nonneg_left product positive
  have unique : ∀ m : ℤ, Represents value decimals m ↔ m = n ∧ (n : ℤ) ≤ 2 ^ 256 - 1 := by
    intro m
    constructor
    · intro represents
      have same : m = n := by
        have casts : (m : ℚ) = n := represents.2.1.symm.trans amount
        exact_mod_cast casts
      exact ⟨same, same ▸ represents.2.2⟩
    · intro isSame
      rcases isSame with ⟨rfl, small⟩
      refine ⟨nonneg, ?_, small⟩
      rw [amount, Int.cast_natCast]
  by_cases small : (n : ℤ) ≤ 2 ^ 256 - 1
  · rw [uint256, if_pos ⟨Int.natCast_nonneg n, small⟩]
    refine ⟨?_, ?_⟩
    · intro m
      rw [unique, Except.ok.injEq, eq_comm]
      exact ⟨fun same => ⟨same, small⟩, And.left⟩
    · intro none
      exact absurd ⟨_, (unique n).mpr ⟨rfl, small⟩⟩ none
  · rw [uint256, if_neg fun both => small both.2]
    apply isExact_of_error ⟨_, rfl⟩
    intro some
    rcases some with ⟨m, represents⟩
    exact small ((unique m).mp represents).2

/-- What `Decimal` has read is turned into atomic units exactly. -/
theorem isExact_atomicOf {negative : Bool} {digits : Str} {decimals : ℕ} {value : ℚ}
    (short : digits.length ≤ maxStrDigits)
    (isValue : value =
      (if negative then -1 else 1) * Decimal.digitsVal digits * 10 ^ exponent) :
    IsExact (atomicOf human decimals (.finite negative digits exponent)) value decimals := by
  have scale : (10 : ℚ) ^ exponent * 10 ^ decimals = 10 ^ (exponent + decimals) := by
    rw [zpow_add₀ (by norm_num), zpow_natCast]
  rw [atomicOf]
  by_cases signed : negative = true ∧ Decimal.digitsVal digits ≠ 0
  · rw [refuse_of_holds signed, Checks.error_bind]
    apply isExact_of_error ⟨_, rfl⟩
    intro some
    rcases some with ⟨_, nonneg, _⟩
    have nonzero : (0 : ℚ) < Decimal.digitsVal digits := by
      exact_mod_cast Nat.pos_of_ne_zero signed.2
    have positive := mul_pos nonzero (zpow_pos (show (0 : ℚ) < 10 by norm_num) exponent)
    rw [isValue, signed.1, if_pos rfl] at nonneg
    linarith
  · -- a negative zero counts as zero
    have unsigned : value * 10 ^ decimals =
        Decimal.digitsVal digits * 10 ^ (exponent + decimals) := by
      rw [isValue, mul_assoc, scale]
      cases negative with
      | false => rw [if_neg (by decide), one_mul]
      | true =>
        have zero : Decimal.digitsVal digits = 0 := not_not.mp fun nonzero => signed ⟨rfl, nonzero⟩
        rw [zero, Nat.cast_zero, mul_zero, zero_mul]
    rw [refuse_of_fails signed, Checks.ok_bind, intOfDigits, if_pos short, Checks.ok_bind]
    rcases @scaled_cases _ human decimals (Decimal.digitsVal digits) exponent with
      ⟨magnitude, isScaled, exact_⟩ | ⟨⟨message, failed⟩, none⟩
    · rw [isScaled, Checks.ok_bind]
      have sign : (if negative then -(magnitude : ℤ) else magnitude) = magnitude := by
        cases negative with
        | false => rfl
        | true =>
          have zero : Decimal.digitsVal digits = 0 :=
            not_not.mp fun nonzero => signed ⟨rfl, nonzero⟩
          rw [zero, Nat.cast_zero, zero_mul] at exact_
          have nothing : magnitude = 0 := by exact_mod_cast exact_.symm
          rw [nothing]
          rfl
      simp only [sign]
      rw [refuse_of_fails (not_lt.mpr (Int.natCast_nonneg magnitude)), Checks.ok_bind]
      exact isExact_uint256 (unsigned.trans exact_)
    · rw [failed, Checks.error_bind]
      apply isExact_of_error ⟨_, rfl⟩
      intro some
      rcases some with ⟨n, _, amount, small⟩
      exact none n small (unsigned.symm.trans amount)

/-! ### Literals and integers -/

omit [Interpreter] in
theorem length_digits_le_text (literal : Literal) :
    literal.digits.length ≤ literal.text.length := by
  rw [Literal.digits, Literal.text]
  cases literal.fraction with
  | none =>
    simp only [Option.getD_none, List.length_append, List.length_nil]
    omega
  | some digits =>
    simp only [Option.getD_some, Option.elim_some, List.length_append, List.length_cons]
    omega

theorem toAtomic_of_literal {literal : Literal} {decimals : ℕ} (small : decimals ≤ 255)
    (accepted : isTextOrInt human = true) (sized : isTooLong human = false)
    (shown : pyStr human = some literal.text) (inRange : literal.InRange)
    (short : literal.digits.length ≤ maxStrDigits) :
    IsExact (toAtomic human (.int decimals)) literal.value decimals := by
  have places : decimalPlaces (.int decimals) = .ok (decimals : ℤ) :=
    if_pos ⟨Int.natCast_nonneg _, by exact_mod_cast small⟩
  have read := literal.ofText_text inRange
  have value : literal.value = (if isMinus literal.sign then -1 else 1) *
      Decimal.digitsVal (Decimal.significant literal.digits) * 10 ^ literal.scale := by
    rw [Decimal.digitsVal_significant, Literal.value]
  have few : (Decimal.significant literal.digits).length ≤ maxStrDigits :=
    (Decimal.length_significant_le literal.digits).trans (max_le (by decide) short)
  rw [toAtomic, places, Checks.ok_bind, accepted, sized, shown, orRaise]
  simp only [Bool.true_eq_false, Bool.false_eq_true, not_false_eq_true, refuse_of_fails,
    Checks.ok_bind, read, orRaise]
  exact isExact_atomicOf few value

/-- `to_atomic` is exact or refuses, for every literal within the size limit and every integer
that can be shown. -/
theorem toAtomic_exact (decimals : ℕ) (small : decimals ≤ 255) :
    (∀ literal : Literal, literal.text.length ≤ 1024 → literal.InRange →
      IsExact (toAtomic (.str literal.text) (.int decimals)) literal.value decimals) ∧
      ∀ n : ℤ, n.natAbs < 10 ^ maxStrDigits →
        IsExact (toAtomic (.int n) (.int decimals)) n decimals := by
  constructor
  · intro literal sized inRange
    have short : literal.digits.length ≤ maxStrDigits :=
      (length_digits_le_text literal).trans (sized.trans (by decide))
    have notTooLong : isTooLong (.str literal.text) = false := decide_eq_false (not_lt.mpr sized)
    exact toAtomic_of_literal small rfl notTooLong rfl inRange short
  · intro n short
    have digits : (Literal.ofInt n).digits.length ≤ maxStrDigits := by
      rw [Literal.digits, Literal.ofInt, Option.getD_none, List.append_nil]
      exact (Nat.length_toDigits_le_iff (by decide) (by decide)).mpr short
    have inRange : (Literal.ofInt n).InRange := by
      have few := Decimal.length_significant_le (Literal.ofInt n).digits
      have limit : maxStrDigits = 4300 := rfl
      have scale : (Literal.ofInt n).scale = 0 := rfl
      rw [Literal.InRange, Decimal.Supported, scale, Decimal.maxEmax, Decimal.minEtiny]
      omega
    have shown : pyStr (.int n) = some (Literal.ofInt n).text := by
      rw [Literal.text_ofInt, pyStr, intStr, if_pos short]
    have exact_ := toAtomic_of_literal small rfl rfl shown inRange digits
    rw [Literal.value_ofInt] at exact_
    exact exact_

end

/-- `0.01` -/
def cents : Literal where
  sign := none
  whole := ['0']
  fraction := some ['0', '1']
  exponent := none
  wholeDigits := by decide
  fractionDigits := by decide
  nonempty := by decide

/-- A cent has ten thousand atomic units in a token with six decimals. -/
theorem toAtomic_cents :
    letI := asciiInterpreter []
    toAtomic (.str "0.01".toList) (.int 6) = .ok 10000 := by
  let := asciiInterpreter []
  have inRange : cents.InRange := by
    constructor
    · decide
    · decide
  have value : cents.value = 1 / 100 := by
    have digits : Decimal.digitsVal cents.digits = 1 := by decide
    have scale : cents.scale = -2 := rfl
    have unsigned : isMinus cents.sign = false := rfl
    rw [Literal.value, digits, scale, unsigned, if_neg (by decide)]
    norm_num
  have exact_ := (toAtomic_exact 6 (by decide)).1 cents (by decide) inRange
  apply (exact_.ok_iff 10000).mpr
  rw [Represents, value]
  norm_num

end Quirks

end Psv
