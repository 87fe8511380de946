import Psv.Quirks
import Mathlib.Data.List.TakeWhile

/-!
# Rendering atomic amounts

`from_atomic` pads the digits of an amount, cuts them at the decimal point and
strips the zeros at the end.  What it writes is a canonical literal of the exact
amount, so `to_atomic` reads it back, and it denotes whatever `to_atomic` had read.
-/

namespace Python

namespace Decimal

/-- `text.rstrip("0")` -/
def rstripZeros (text : Str) : Str := (text.reverse.dropWhile (· == '0')).reverse

theorem rstripZeros_append (text : Str) :
    ∃ count, text = rstripZeros text ++ List.replicate count '0' := by
  refine ⟨(text.reverse.takeWhile (· == '0')).length, ?_⟩
  have zeros : text.reverse.takeWhile (· == '0') =
      List.replicate (text.reverse.takeWhile (· == '0')).length '0' := by
    apply List.eq_replicate_iff.mpr
    refine ⟨rfl, ?_⟩
    intro c mem
    have isZero := List.mem_takeWhile_imp mem
    exact beq_iff_eq.mp isZero
  have split := congrArg List.reverse
    (List.takeWhile_append_dropWhile (p := (· == '0')) (l := text.reverse))
  rw [List.reverse_append, List.reverse_reverse, zeros, List.reverse_replicate] at split
  exact split.symm

theorem getLast_rstripZeros (text : Str) : (rstripZeros text).getLast? ≠ some '0' := by
  rw [rstripZeros, List.getLast?_reverse]
  intro last
  have kept := List.head?_dropWhile_not (· == '0') text.reverse
  rw [last] at kept
  simp at kept

theorem digitsVal_append (front back : Str) :
    digitsVal (front ++ back) = 10 ^ back.length * digitsVal front + digitsVal back := by
  rw [digitsVal, Nat.ofDigitChars_append, Nat.ofDigitChars_eq_ofDigitChars_zero]
  rfl

theorem digitsVal_zeros (count : ℕ) : digitsVal (List.replicate count '0') = 0 := by
  rw [digitsVal, Nat.ofDigitChars_replicate_zero, mul_zero]

theorem digitsVal_toDigits (n : ℕ) : digitsVal (Nat.toDigits 10 n) = n :=
  Nat.ofDigitChars_ten_toDigits

/-- Only the number zero is written with a leading zero. -/
theorem head_toDigits {n : ℕ} (positive : 0 < n) : (Nat.toDigits 10 n).head? ≠ some '0' := by
  induction n using Nat.strong_induction_on with
  | _ n ih =>
    by_cases small : n < 10
    · rw [Nat.toDigits_of_lt_base small]
      interval_cases n <;> decide
    · have large : 10 ≤ n := by omega
      have shorter := ih (n / 10) (by omega) (by omega)
      rw [Nat.toDigits_of_base_le (by decide) large, List.head?_append]
      rcases head : (Nat.toDigits 10 (n / 10)).head? with _ | c
      · exact absurd (List.head?_eq_none_iff.mp head) Nat.toDigits_ne_nil
      · rw [head] at shorter
        simpa using shorter

end Decimal

/-- The shortest form of an unsigned number: no superfluous zeros, and no point without digits
behind it. -/
structure Literal.Canonical (literal : Literal) : Prop where
  unsigned : literal.sign = none
  plain : literal.exponent = none
  whole : literal.whole = ['0'] ∨ (literal.whole ≠ [] ∧ literal.whole.head? ≠ some '0')
  fraction : ∀ digits ∈ literal.fraction, digits ≠ [] ∧ digits.getLast? ≠ some '0'

end Python

namespace Psv

open Python Python.Decimal Interaction

namespace Quirks

section

variable [Interpreter]

/-- `_uint256` on an argument of any type. -/
def uint256Of (value : Value) (what : String) : Except PyError ℤ :=
  match value with
  | .int number => uint256 number what
  | _ => .error (.valueError s!"{what} must be a uint256")

/-- Convert a uint256 atomic amount to a human decimal string exactly. -/
def fromAtomic (atomic decimals : Value) : Except PyError Str := do
  let value ← uint256Of atomic "atomic amount"
  let places ← decimalPlaces decimals
  if places = 0 then return decDigits value
  else
    let digits := rjustZero (places.toNat + 1) (decDigits value)
    let whole := digits.take (digits.length - places.toNat)
    let fraction := rstripZeros (digits.drop (digits.length - places.toNat))
    return if fraction = [] then whole else whole ++ '.' :: fraction

end

/-! ### The literal that is written -/

/-- The digits of an amount, with at least one in front of the point. -/
def padded (n places : ℕ) : Str := rjustZero (places + 1) (Nat.toDigits 10 n)

/-- The digits in front of the point. -/
def wholePart (n places : ℕ) : Str := (padded n places).take ((padded n places).length - places)

/-- The digits behind the point, without the zeros at the end. -/
def fractionPart (n places : ℕ) : Str :=
  rstripZeros ((padded n places).drop ((padded n places).length - places))

theorem length_padded (n places : ℕ) :
    (padded n places).length = max (places + 1) (Nat.toDigits 10 n).length := by
  rw [padded, rjustZero, List.length_append, List.length_replicate]
  omega

theorem isDigit_padded {n places : ℕ} {c : Char} (mem : c ∈ padded n places) :
    c.isDigit = true := by
  rw [padded, rjustZero, List.mem_append] at mem
  rcases mem with zero | digit
  · rw [List.eq_of_mem_replicate zero]
    rfl
  · exact Nat.isDigit_of_mem_toDigits (by decide) (by decide) digit

theorem digitsVal_padded (n places : ℕ) : digitsVal (padded n places) = n := by
  rw [padded, rjustZero, digitsVal_append, digitsVal_zeros, digitsVal_toDigits]
  simp

theorem length_wholePart (n places : ℕ) :
    (wholePart n places).length = (padded n places).length - places := by
  rw [wholePart, List.length_take]
  omega

/-- The parts make up the digits again, with the zeros that were stripped. -/
theorem parts_padded (n places : ℕ) :
    ∃ count, padded n places =
        wholePart n places ++ fractionPart n places ++ List.replicate count '0' ∧
      (fractionPart n places).length + count = places := by
  have enough := length_padded n places
  rcases rstripZeros_append ((padded n places).drop ((padded n places).length - places)) with
    ⟨count, stripped⟩
  refine ⟨count, ?_, ?_⟩
  · rw [List.append_assoc, fractionPart, ← stripped, wholePart, List.take_append_drop]
  · have lengths := congrArg List.length stripped
    rw [List.length_drop, List.length_append, List.length_replicate] at lengths
    rw [fractionPart]
    omega

/-- The literal that stands for an amount. -/
def rendered (n places : ℕ) : Literal where
  sign := none
  whole := wholePart n places
  fraction := if fractionPart n places = [] then none else some (fractionPart n places)
  exponent := none
  wholeDigits _ mem := isDigit_padded (List.mem_of_mem_take mem)
  fractionDigits digits mem c inside := by
    split_ifs at mem with empty
    · cases mem
    · cases mem
      rcases parts_padded n places with ⟨count, same, _⟩
      apply isDigit_padded
      rw [same]
      simp [inside]
  nonempty := by
    left
    intro empty
    have length := length_wholePart n places
    have enough := length_padded n places
    rw [empty, List.length_nil] at length
    omega

theorem getD_fraction (n places : ℕ) :
    (rendered n places).fraction.getD [] = fractionPart n places := by
  rw [rendered]
  split_ifs with empty
  · rw [Option.getD_none, empty]
  · rfl

theorem rendered_canonical (n places : ℕ) : (rendered n places).Canonical := by
  have enough := length_padded n places
  refine ⟨rfl, rfl, ?_, ?_⟩
  · change wholePart n places = ['0'] ∨ _
    by_cases short : (Nat.toDigits 10 n).length ≤ places
    · -- the first digit is a zero of the padding
      left
      have first : padded n places =
          '0' :: (List.replicate (places - (Nat.toDigits 10 n).length) '0' ++
            Nat.toDigits 10 n) := by
        have pad : places + 1 - (Nat.toDigits 10 n).length =
            places - (Nat.toDigits 10 n).length + 1 := by omega
        rw [padded, rjustZero, pad, List.replicate_succ, List.cons_append]
      have single : (padded n places).length - places = 1 := by omega
      rw [wholePart, single, first]
      rfl
    · have unpadded : padded n places = Nat.toDigits 10 n := by
        have pad : places + 1 - (Nat.toDigits 10 n).length = 0 := by omega
        rw [padded, rjustZero, pad, List.replicate_zero, List.nil_append]
      by_cases zero : n = 0
      · left
        rw [zero, Nat.toDigits_zero] at unpadded short
        have noPlaces : places = 0 := by
          simp at short
          exact short
        rw [wholePart, zero, unpadded, noPlaces]
        rfl
      · right
        refine ⟨?_, ?_⟩
        · intro empty
          have length := length_wholePart n places
          rw [show wholePart n places = [] from empty, List.length_nil] at length
          omega
        · have head := head_toDigits (Nat.pos_of_ne_zero zero)
          change (wholePart n places).head? ≠ some '0'
          rw [wholePart, List.head?_take, unpadded]
          rw [unpadded] at enough
          split_ifs
          · simp
          · exact head
  · intro digits mem
    change digits ∈ (if fractionPart n places = [] then none else some (fractionPart n places)) at mem
    split_ifs at mem with empty
    · cases mem
    · cases mem
      exact ⟨empty, getLast_rstripZeros _⟩

theorem value_rendered (n places : ℕ) : (rendered n places).value * 10 ^ places = n := by
  rcases parts_padded n places with ⟨count, same, lengths⟩
  have digits : (rendered n places).digits = wholePart n places ++ fractionPart n places := by
    rw [Literal.digits, getD_fraction]
    rfl
  have scale : (rendered n places).scale = -((fractionPart n places).length : ℤ) := by
    rw [Literal.scale, getD_fraction]
    exact zero_sub _
  have number : n = digitsVal (wholePart n places ++ fractionPart n places) * 10 ^ count := by
    have value := digitsVal_padded n places
    rw [same, digitsVal_append, digitsVal_zeros, List.length_replicate] at value
    rw [mul_comm]
    exact value.symm
  have power : (10 : ℚ) ^ (-((fractionPart n places).length : ℤ)) * 10 ^ places = 10 ^ count := by
    generalize (fractionPart n places).length = kept at lengths
    rw [← lengths, pow_add, ← mul_assoc, zpow_neg, zpow_natCast,
      inv_mul_cancel₀ (pow_ne_zero _ (by norm_num)), one_mul]
  have unsigned : isMinus (rendered n places).sign = false := rfl
  rw [Literal.value, digits, scale, unsigned, if_neg (by decide), one_mul, mul_assoc, power]
  exact_mod_cast number.symm

/-! ### There and back -/

theorem length_digits_uint256 {n : ℕ} (small : n < 2 ^ 256) : (Nat.toDigits 10 n).length ≤ 78 := by
  apply (Nat.length_toDigits_le_iff (by decide) (by decide)).mpr
  exact small.trans (by norm_num)

theorem length_rendered {n places : ℕ} (small : n < 2 ^ 256) (bounded : places ≤ 255) :
    (rendered n places).digits.length ≤ 256 ∧ (rendered n places).text.length ≤ 1024 := by
  rcases parts_padded n places with ⟨count, same, lengths⟩
  have whole := length_wholePart n places
  have total := length_padded n places
  have few := length_digits_uint256 small
  constructor
  · rw [Literal.digits, getD_fraction]
    change (wholePart n places ++ _).length ≤ 256
    rw [List.length_append]
    omega
  · have fraction : ((rendered n places).fraction.elim [] fun digits => '.' :: digits).length ≤
        (fractionPart n places).length + 1 := by
      rw [rendered]
      split_ifs with empty
      · exact Nat.zero_le _
      · exact le_rfl
    rw [Literal.text]
    change ([] ++ (wholePart n places ++ (_ ++ []))).length ≤ 1024
    rw [List.nil_append, List.append_nil, List.length_append]
    omega

theorem inRange_rendered {n places : ℕ} (small : n < 2 ^ 256) (bounded : places ≤ 255) :
    (rendered n places).InRange := by
  rcases parts_padded n places with ⟨count, _, lengths⟩
  have few := (length_rendered small bounded).1
  have digits := length_significant_le (rendered n places).digits
  have scale : (rendered n places).scale = -((fractionPart n places).length : ℤ) := by
    rw [Literal.scale, getD_fraction]
    exact zero_sub _
  rw [Literal.InRange, Supported, scale, maxEmax, minEtiny]
  omega

section

variable [Interpreter]

omit [Interpreter] in
/-- What is written is the text of the literal. -/
theorem fromAtomic_eq {n places : ℕ} (small : n < 2 ^ 256) (bounded : places ≤ 255) :
    fromAtomic (.int n) (.int places) = .ok (rendered n places).text := by
  have value : uint256Of (.int n) "atomic amount" = .ok (n : ℤ) := by
    have largest : uint256Max = 2 ^ 256 - 1 := rfl
    exact if_pos ⟨Int.natCast_nonneg n, by omega⟩
  have count : decimalPlaces (.int places) = .ok (places : ℤ) :=
    if_pos ⟨Int.natCast_nonneg places, by exact_mod_cast bounded⟩
  have digits : decDigits n = Nat.toDigits 10 n := by
    rw [decDigits, if_neg (not_lt.mpr (Int.natCast_nonneg n)), Int.natAbs_natCast]
  have text : (rendered n places).text = wholePart n places ++
      (rendered n places).fraction.elim [] fun digits => '.' :: digits := by
    rw [Literal.text]
    change [] ++ (wholePart n places ++ (_ ++ [])) = _
    rw [List.nil_append, List.append_nil]
  rw [fromAtomic, value, Checks.ok_bind, count, Checks.ok_bind, digits, text]
  by_cases none : places = 0
  · have unpadded : padded n 0 = Nat.toDigits 10 n := by
      have enough : 0 < (Nat.toDigits 10 n).length := List.length_pos_iff.mpr Nat.toDigits_ne_nil
      have pad : 0 + 1 - (Nat.toDigits 10 n).length = 0 := by omega
      rw [padded, rjustZero, pad, List.replicate_zero, List.nil_append]
    have noFraction : fractionPart n 0 = [] := by
      rw [fractionPart, Nat.sub_zero, List.drop_length]
      rfl
    have whole : wholePart n 0 = Nat.toDigits 10 n := by
      rw [wholePart, Nat.sub_zero, List.take_length, unpadded]
    rw [none, rendered]
    simp [noFraction, whole, pure, Except.pure]
  · rw [if_neg (by exact_mod_cast none), rendered]
    change Except.ok (if fractionPart n places = [] then wholePart n places
      else wholePart n places ++ '.' :: fractionPart n places) = _
    split_ifs with empty
    · simp
    · simp

/-- The number that `Decimal` reads in a human amount. -/
def Denotes (human : Value) (value : ℚ) : Prop :=
  ∃ text negative digits exponent, pyStr human = some text ∧
    ofText text = some (.finite negative digits exponent) ∧
    value = (if negative then -1 else 1) * digitsVal digits * 10 ^ exponent

/-- What is read in a literal is what the literal denotes. -/
theorem denotes_literal {literal : Literal} (inRange : literal.InRange) :
    Denotes (.str literal.text) literal.value := by
  refine ⟨literal.text, isMinus literal.sign, significant literal.digits, literal.scale, rfl,
    literal.ofText_text inRange, ?_⟩
  rw [digitsVal_significant, Literal.value]

theorem denotes_unique {human : Value} {first second : ℚ} (isFirst : Denotes human first)
    (isSecond : Denotes human second) : first = second := by
  rcases isFirst with ⟨text, negative, digits, exponent, shown, read, rfl⟩
  rcases isSecond with ⟨other, _, _, _, otherShown, otherRead, rfl⟩
  cases shown.symm.trans otherShown
  cases read.symm.trans otherRead
  rfl

/-- An accepted amount denotes the number of its atomic units. -/
theorem denotes_of_toAtomic {human : Value} {places : ℕ} {n : ℤ} (bounded : places ≤ 255)
    (accepted : toAtomic human (.int places) = .ok n) :
    ∃ value, Denotes human value ∧ Represents value places n := by
  have count : decimalPlaces (.int places) = .ok (places : ℤ) :=
    if_pos ⟨Int.natCast_nonneg places, by exact_mod_cast bounded⟩
  simp only [toAtomic, count, Checks.ok_bind, Checks.bind_eq_ok_iff, refuse_eq_ok_iff,
    exists_const, orRaise_eq_ok_iff] at accepted
  rcases accepted with ⟨_, _, text, shown, amount, read, atomic⟩
  cases amount with
  | finite negative digits exponent =>
    refine ⟨_, ⟨text, negative, digits, exponent, shown, read, rfl⟩, ?_⟩
    have short : digits.length ≤ maxStrDigits := by
      by_contra long
      simp only [atomicOf, Checks.bind_eq_ok_iff, intOfDigits, if_neg long] at atomic
      rcases atomic with ⟨_, _, _, impossible, _⟩
      cases impossible
    exact ((isExact_atomicOf short rfl).ok_iff n).mp atomic
  | infinite => cases atomic
  | nan => cases atomic

/-- Rendering and reading undo each other, what is rendered is canonical and determines the
amount, and it denotes the same number as the text that was read. -/
theorem fromAtomic_round_trip (places : ℕ) (bounded : places ≤ 255) :
    (∀ n : ℕ, n < 2 ^ 256 → ∃ literal : Literal, literal.Canonical ∧
        fromAtomic (.int n) (.int places) = .ok literal.text ∧
        toAtomic (.str literal.text) (.int places) = .ok n) ∧
      (∀ m n : ℕ, m < 2 ^ 256 → n < 2 ^ 256 →
        fromAtomic (.int m) (.int places) = fromAtomic (.int n) (.int places) → m = n) ∧
      ∀ human n, toAtomic human (.int places) = .ok n →
        ∃ literal : Literal, fromAtomic (.int n) (.int places) = .ok literal.text ∧
          Denotes (.str literal.text) literal.value ∧ Denotes human literal.value := by
  have back : ∀ n : ℕ, n < 2 ^ 256 →
      toAtomic (.str (rendered n places).text) (.int places) = .ok n := by
    intro n small
    have exact_ := (toAtomic_exact places bounded).1 (rendered n places)
      (length_rendered small bounded).2 (inRange_rendered small bounded)
    apply (exact_.ok_iff n).mpr
    have value := value_rendered n places
    have positive : (0 : ℚ) < 10 ^ places := by positivity
    refine ⟨?_, ?_, by omega⟩
    · apply nonneg_of_mul_nonneg_left _ positive
      rw [value]
      exact Nat.cast_nonneg n
    · rw [value, Int.cast_natCast]
  refine ⟨?_, ?_, ?_⟩
  · intro n small
    exact ⟨rendered n places, rendered_canonical n places, fromAtomic_eq small bounded,
      back n small⟩
  · intro m n smallLeft smallRight same
    rw [fromAtomic_eq smallLeft bounded, fromAtomic_eq smallRight bounded,
      Except.ok.injEq] at same
    have left := back m smallLeft
    rw [same, back n smallRight, Except.ok.injEq] at left
    exact_mod_cast left.symm
  · intro human n accepted
    rcases denotes_of_toAtomic bounded accepted with ⟨value, denotes, nonneg, amount, small⟩
    have positive : (0 : ℚ) < 10 ^ places := by positivity
    have natural : 0 ≤ n := by
      have product : (0 : ℚ) ≤ n := by
        rw [← amount]
        exact mul_nonneg nonneg positive.le
      exact_mod_cast product
    lift n to ℕ using natural
    have isSmall : n < 2 ^ 256 := by omega
    have same : value = (rendered n places).value := by
      apply mul_right_cancel₀ positive.ne'
      rw [amount, value_rendered n places, Int.cast_natCast]
    exact ⟨rendered n places, fromAtomic_eq isSmall bounded,
      denotes_literal (inRange_rendered isSmall bounded), same ▸ denotes⟩

end

/-- Ten thousand atomic units of a token with six decimals are written canonically and read back. -/
theorem fromAtomic_cents :
    letI := asciiInterpreter []
    ∃ literal : Literal, literal.Canonical ∧
      fromAtomic (.int 10000) (.int 6) = .ok literal.text ∧
      toAtomic (.str literal.text) (.int 6) = .ok 10000 := by
  let := asciiInterpreter []
  exact (fromAtomic_round_trip 6 (by decide)).1 10000 (by norm_num)

example : fromAtomic (.int 10000) (.int 6) = .ok "0.01".toList := by decide

end Quirks

end Psv
