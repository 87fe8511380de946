import Psv.Quirks
import Mathlib.Data.List.TakeWhile

/-!
# The powers of ten in a conversion

`to_atomic` refuses a coefficient that is too long for its exponent before it
evaluates a power of ten.  `toAtomicNoting` is the same computation with a note of
every power.  The refusal is skipped when the coefficient is zero, so the powers
are bounded exactly when no zero carries an exponent far from zero.
-/

namespace Psv

open Python Python.Decimal Interaction

namespace Quirks

/-! ### Computations that note their powers -/

/-- A computation with the exponents of the powers of ten it has evaluated. -/
structure Noted (α : Type) where
  powers : List ℕ
  result : Except PyError α

namespace Noted

variable {α β : Type}

/-- A computation that evaluates no power. -/
def plain (computation : Except PyError α) : Noted α := ⟨[], computation⟩

/-- `10 ** exponent` -/
def powerOfTen (exponent : ℕ) : Noted ℕ := ⟨[exponent], .ok (10 ^ exponent)⟩

/-- Sequential composition; an error ends the computation. -/
def andThen (first : Noted α) (next : α → Noted β) : Noted β :=
  match first.result with
  | .ok value => ⟨first.powers ++ (next value).powers, (next value).result⟩
  | .error error => ⟨first.powers, .error error⟩

instance : Monad Noted where
  pure value := ⟨[], .ok value⟩
  bind := andThen

theorem result_bind (first : Noted α) (next : α → Noted β) :
    (first >>= next).result = first.result >>= fun value => (next value).result := by
  change (andThen first next).result = _
  rw [andThen]
  rcases first.result with error | value
  · rfl
  · rfl

theorem powers_plain_bind (computation : Except PyError α) (next : α → Noted β) (exponent : ℕ) :
    exponent ∈ (plain computation >>= next).powers ↔
      ∃ value, computation = .ok value ∧ exponent ∈ (next value).powers := by
  change exponent ∈ (andThen (plain computation) next).powers ↔ _
  rcases computation with error | value
  · simp [andThen, plain]
  · simp [andThen, plain]

theorem powers_powerOfTen_bind (noted : ℕ) (next : ℕ → Noted β) :
    (powerOfTen noted >>= next).powers = noted :: (next (10 ^ noted)).powers :=
  rfl

end Noted

open Noted

section

variable [Interpreter]

/-- `scaled`, with a note of the power that scales. -/
def scaledNoting (human : Value) (places : ℤ) (coefficient : ℕ) (exponent : ℤ) : Noted ℕ := do
  let scaledExponent := exponent + places
  if 0 ≤ scaledExponent then
    plain (refuse (coefficient ≠ 0 ∧ 78 < (Nat.toDigits 10 coefficient).length + scaledExponent)
      (.valueError "atomic amount must be a uint256"))
    let power ← powerOfTen scaledExponent.toNat
    return coefficient * power
  else
    let divisorPlaces := -scaledExponent
    plain (refuse (coefficient ≠ 0 ∧ (Nat.toDigits 10 coefficient).length < divisorPlaces)
      (unrepresentable human places))
    let divisor ← powerOfTen divisorPlaces.toNat
    plain (refuse (coefficient % divisor ≠ 0) (unrepresentable human places))
    return coefficient / divisor

/-- `atomicOf`, with a note of the powers. -/
def atomicNoting (human : Value) (places : ℤ) : Decimal → Noted ℤ
  | .finite negative digits exponent => do
      plain (refuse (negative = true ∧ digitsVal digits ≠ 0)
        (.valueError "human amount must be finite and non-negative"))
      let coefficient ← plain (intOfDigits digits)
      let magnitude ← scaledNoting human places coefficient exponent
      let atomic : ℤ := if negative then -magnitude else magnitude
      plain (refuse (atomic < 0) (.valueError "human amount must be non-negative"))
      plain (uint256 atomic "atomic amount")
  | _ => plain (.error (.valueError "human amount must be finite and non-negative"))

/-- `to_atomic`, with a note of every power of ten that it evaluates. -/
def toAtomicNoting (human decimals : Value) : Noted ℤ := do
  let places ← plain (decimalPlaces decimals)
  plain (refuse (isTextOrInt human = false)
    (.valueError "human amount must be a decimal string or integer"))
  plain (refuse (isTooLong human = true) (.valueError "human amount exceeds the input size limit"))
  let text ← plain (orRaise (pyStr human)
    (.valueError "Exceeds the limit (4300 digits) for integer string conversion"))
  let amount ← plain (orRaise (ofText text)
    (.valueError s!"invalid human amount: {Interpreter.repr human}"))
  atomicNoting human places amount

/-! ### The notes change nothing -/

theorem result_scaledNoting (human : Value) (places : ℤ) (coefficient : ℕ) (exponent : ℤ) :
    (scaledNoting human places coefficient exponent).result =
      scaled human places coefficient exponent := by
  rw [scaledNoting, scaled]
  split_ifs
  · simp only [result_bind]
    rfl
  · simp only [result_bind]
    rfl

/-- The computation with notes is `to_atomic`. -/
theorem result_toAtomicNoting (human decimals : Value) :
    (toAtomicNoting human decimals).result = toAtomic human decimals := by
  have atomic : ∀ places amount,
      (atomicNoting human places amount).result = atomicOf human places amount := by
    intro places amount
    cases amount with
    | finite negative digits exponent =>
      rw [atomicNoting, atomicOf]
      simp only [result_bind, result_scaledNoting]
      rfl
    | infinite => rfl
    | nan => rfl
  rw [toAtomicNoting, toAtomic]
  simp only [result_bind, atomic]
  rfl

/-! ### Which powers are noted -/

/-- The power that scales a coefficient is evaluated unless the coefficient is refused. -/
theorem mem_powers_scaledNoting {human : Value} {places : ℤ} {coefficient : ℕ} {exponent : ℤ}
    {power : ℕ} :
    power ∈ (scaledNoting human places coefficient exponent).powers ↔
      power = (exponent + places).natAbs ∧
        (coefficient ≠ 0 → 0 ≤ exponent + places →
          digitCount coefficient + (exponent + places) ≤ 78) ∧
        (coefficient ≠ 0 → exponent + places < 0 →
          -(exponent + places) ≤ digitCount coefficient) := by
  have count : digitCount coefficient = (Nat.toDigits 10 coefficient).length := rfl
  rw [scaledNoting, count]
  generalize exponent + places = scale
  by_cases enlarged : 0 ≤ scale
  · rw [if_pos enlarged]
    simp only [powers_plain_bind, refuse_eq_ok_iff, exists_const, powers_powerOfTen_bind]
    constructor
    · intro noted
      rcases noted with ⟨kept, mem⟩
      have isPower : power = scale.toNat := by simpa [pure] using mem
      refine ⟨by omega, ?_, ?_⟩
      · intro nonzero _
        by_contra long
        exact kept ⟨nonzero, by omega⟩
      · omega
    · intro noted
      rcases noted with ⟨isPower, short, _⟩
      refine ⟨?_, ?_⟩
      · intro long
        have := short long.1 enlarged
        omega
      · have isNat : power = scale.toNat := by omega
        rw [isNat]
        exact List.mem_cons_self
  · rw [if_neg enlarged]
    simp only [powers_plain_bind, refuse_eq_ok_iff, exists_const, powers_powerOfTen_bind]
    constructor
    · intro noted
      rcases noted with ⟨kept, mem⟩
      have isPower : power = (-scale).toNat := by
        rcases List.mem_cons.mp mem with same | later
        · exact same
        · rcases (powers_plain_bind _ _ _).mp later with ⟨_, _, impossible⟩
          cases impossible
      refine ⟨by omega, by omega, ?_⟩
      intro nonzero _
      by_contra short
      exact kept ⟨nonzero, by omega⟩
    · intro noted
      rcases noted with ⟨isPower, _, long⟩
      refine ⟨?_, ?_⟩
      · intro short
        have := long short.1 (by omega)
        omega
      · have isNat : power = (-scale).toNat := by omega
        rw [isNat]
        exact List.mem_cons_self

end

/-! ### Digits of a coefficient that was read -/

theorem digitsVal_pos {c : Char} {rest : Str} (digit : c.isDigit = true) (nonzero : c ≠ '0') :
    0 < digitsVal (c :: rest) := by
  have first : 0 < c.toNat - '0'.toNat := by
    have all : ∀ d ∈ ['0', '1', '2', '3', '4', '5', '6', '7', '8', '9'],
        d ≠ '0' → 0 < d.toNat - '0'.toNat := by
      decide
    exact all c (mem_of_isDigit digit) nonzero
  rw [digitsVal, Nat.ofDigitChars_cons, Nat.ofDigitChars_eq_ofDigitChars_zero, mul_zero, zero_add]
  have power : 0 < 10 ^ rest.length := by positivity
  have product := Nat.mul_pos power first
  omega

/-- The coefficient zero has the single digit zero. -/
theorem significant_of_zero {digits : Str} (all : ∀ c ∈ digits, c.isDigit = true)
    (zero : digitsVal (significant digits) = 0) : significant digits = ['0'] := by
  rw [significant] at zero ⊢
  split
  · rfl
  · rename_i rest nonempty
    rcases shape : digits.dropWhile (· == '0') with _ | ⟨c, rest⟩
    · exact absurd shape nonempty
    · have kept := List.head?_dropWhile_not (· == '0') digits
      rw [shape] at kept zero
      have positive : 0 < digitsVal (c :: rest) :=
        digitsVal_pos (all c (List.dropWhile_subset _ (shape ▸ List.mem_cons_self)))
          (by simpa using kept)
      exact absurd zero positive.ne'

theorem isDigit_fractionOf {text : Str} {c : Char} (mem : c ∈ (fractionOf text).1) :
    c.isDigit = true := by
  unfold fractionOf at mem
  split at mem
  · exact List.mem_takeWhile_imp mem
  · cases mem

theorem specialOf_ne_finite {text digits : Str} {negative : Bool} {exponent : ℤ} :
    specialOf text ≠ some (.finite negative digits exponent) := by
  intro special
  simp only [specialOf] at special
  split_ifs at special <;> cases special

/-- What `Decimal` reads has a coefficient without leading zeros. -/
theorem digits_of_ofText [Interpreter] {text digits : Str} {negative : Bool} {exponent : ℤ}
    (read : ofText text = some (.finite negative digits exponent)) (zero : digitsVal digits = 0) :
    digits = ['0'] := by
  rw [ofText] at read
  rcases Option.or_eq_some_iff.mp read with special | ⟨_, number⟩
  · exact absurd special specialOf_ne_finite
  · simp only [numberOf] at number
    split_ifs at number with empty
    rcases Option.bind_eq_some_iff.mp number with ⟨_, _, supported⟩
    split_ifs at supported
    cases supported
    apply significant_of_zero _ zero
    intro c mem
    rcases List.mem_append.mp mem with whole | fraction
    · exact List.mem_takeWhile_imp whole
    · exact isDigit_fractionOf fraction

/-! ### The bound -/

section

variable [Interpreter]

/-- Every power of ten that is evaluated is bounded by the digits of the coefficient, or by the
78 digits of a `uint256`. -/
def PowersBounded (human : Value) (places : ℕ) : Prop :=
  ∀ power ∈ (toAtomicNoting human (.int places)).powers, ∀ text negative digits exponent,
    pyStr human = some text → ofText text = some (.finite negative digits exponent) →
      power ≤ max 78 (digitCount (digitsVal digits))

/-- A human amount of zero whose exponent is far from zero, also after scaling. -/
def ZeroFarOff (human : Value) (places : ℕ) : Prop :=
  isTextOrInt human = true ∧ isTooLong human = false ∧ ∃ text negative digits exponent,
    pyStr human = some text ∧ ofText text = some (.finite negative digits exponent) ∧
      digitsVal digits = 0 ∧ 78 < (exponent + places).natAbs

/-- The powers that `to_atomic` evaluates for the literal that was read. -/
theorem mem_powers_iff {human : Value} {places power : ℕ} {text digits : Str} {negative : Bool}
    {exponent : ℤ} (bounded : places ≤ 255) (shown : pyStr human = some text)
    (read : ofText text = some (.finite negative digits exponent)) :
    power ∈ (toAtomicNoting human (.int places)).powers ↔
      isTextOrInt human = true ∧ isTooLong human = false ∧
        ¬(negative = true ∧ digitsVal digits ≠ 0) ∧ digits.length ≤ maxStrDigits ∧
          power ∈ (scaledNoting human places (digitsVal digits) exponent).powers := by
  have count : decimalPlaces (.int places) = .ok (places : ℤ) :=
    if_pos ⟨Int.natCast_nonneg places, by exact_mod_cast bounded⟩
  have last : ∀ magnitude : ℕ, (do
      let atomic : ℤ := if negative then -(magnitude : ℤ) else magnitude
      plain (refuse (atomic < 0) (PyError.valueError "human amount must be non-negative"))
      plain (uint256 atomic "atomic amount") : Noted ℤ).powers = [] := by
    intro magnitude
    apply List.eq_nil_iff_forall_not_mem.mpr
    intro other mem
    rcases (powers_plain_bind _ _ _).mp mem with ⟨_, _, impossible⟩
    cases impossible
  have scaling : power ∈ (scaledNoting human places (digitsVal digits) exponent >>= fun magnitude =>
      (do
        let atomic : ℤ := if negative then -(magnitude : ℤ) else magnitude
        plain (refuse (atomic < 0) (PyError.valueError "human amount must be non-negative"))
        plain (uint256 atomic "atomic amount") : Noted ℤ)).powers ↔
      power ∈ (scaledNoting human places (digitsVal digits) exponent).powers := by
    change power ∈ (andThen _ _).powers ↔ _
    rw [andThen]
    split
    · rw [last, List.append_nil]
    · exact Iff.rfl
  have short : (∃ coefficient, intOfDigits digits = .ok coefficient ∧
      power ∈ (scaledNoting human places coefficient exponent >>= fun magnitude => (do
        let atomic : ℤ := if negative then -(magnitude : ℤ) else magnitude
        plain (refuse (atomic < 0) (PyError.valueError "human amount must be non-negative"))
        plain (uint256 atomic "atomic amount") : Noted ℤ)).powers) ↔
      digits.length ≤ maxStrDigits ∧
        power ∈ (scaledNoting human places (digitsVal digits) exponent).powers := by
    rw [← scaling]
    by_cases few : digits.length ≤ maxStrDigits
    · simp [intOfDigits, few]
    · simp [intOfDigits, few]
  rw [toAtomicNoting]
  simp only [powers_plain_bind, count, Except.ok.injEq, exists_eq_left', refuse_eq_ok_iff,
    exists_const, shown, read, orRaise, Bool.not_eq_false, Bool.not_eq_true, atomicNoting]
  rw [short]

/-- The powers are bounded exactly when the amount is no zero far off. -/
theorem powersBounded_iff (human : Value) (places : ℕ) (bounded : places ≤ 255) :
    PowersBounded human places ↔ ¬ZeroFarOff human places := by
  constructor
  · intro all zero
    rcases zero with ⟨accepted, sized, text, negative, digits, exponent, shown, read, zero, far⟩
    have single := digits_of_ofText read zero
    have noted : (exponent + places).natAbs ∈ (toAtomicNoting human (.int places)).powers := by
      rw [mem_powers_iff bounded shown read, mem_powers_scaledNoting]
      refine ⟨accepted, sized, fun signed => signed.2 zero, ?_, rfl, ?_, ?_⟩
      · rw [single]
        decide
      · exact fun nonzero => absurd zero nonzero
      · exact fun nonzero => absurd zero nonzero
    have small := all _ noted text negative digits exponent shown read
    have one : digitCount (digitsVal digits) = 1 := by
      rw [zero]
      rfl
    omega
  · intro near power mem text negative digits exponent shown read
    rw [mem_powers_iff bounded shown read, mem_powers_scaledNoting] at mem
    rcases mem with ⟨accepted, sized, _, _, isPower, enlarged, reduced⟩
    by_cases zero : digitsVal digits = 0
    · have small : ¬78 < (exponent + places).natAbs := by
        intro far
        exact near ⟨accepted, sized, text, negative, digits, exponent, shown, read, zero, far⟩
      omega
    · by_cases positive : 0 ≤ exponent + places
      · have := enlarged zero positive
        omega
      · have := reduced zero (by omega)
        omega

end

/-- A cent is converted with the single power `10 ** 4`. -/
theorem powersBounded_cents :
    letI := asciiInterpreter []
    PowersBounded (.str "0.01".toList) 6 := by
  let := asciiInterpreter []
  apply (powersBounded_iff _ 6 (by decide)).mpr
  intro zero
  rcases zero with ⟨_, _, text, negative, digits, exponent, shown, read, zero, _⟩
  cases shown
  have single := digits_of_ofText read zero
  have isCent : ofText "0.01".toList = some (.finite false ['1'] (-2)) := by decide +kernel
  rw [isCent, single] at read
  cases read

/-- A zero with the largest exponent makes `to_atomic` evaluate a power of ten with as many
digits. -/
theorem zero_scales_far :
    letI := asciiInterpreter []
    ¬PowersBounded (.str "0e999999999999999999".toList) 6 := by
  let := asciiInterpreter []
  intro all
  have read : ofText "0e999999999999999999".toList =
      some (.finite false ['0'] 999999999999999999) := by
    decide +kernel
  have noted : 1000000000000000005 ∈
      (toAtomicNoting (.str "0e999999999999999999".toList) (.int 6)).powers := by
    decide +kernel
  have small := all _ noted _ _ _ _ rfl read
  revert small
  decide

end Quirks

end Psv
