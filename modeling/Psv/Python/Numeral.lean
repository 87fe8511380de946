import Psv.Python.Decimal

/-!
# Decimal numerals

`int` on a text of decimal digits alone: it is the number they denote, unless
there are more digits than the interpreter converts.  A numeral is canonical
when it has no leading zero; then its length bounds the number from below.
-/

namespace Python

open Decimal

/-- `0|[1-9][0-9]*` -/
def isNumeral : Str → Bool
  | [] => false
  | '0' :: rest => rest.isEmpty
  | text => text.all Char.isDigit

/-- `[1-9][0-9]*` -/
def isPositiveNumeral (text : Str) : Bool := isNumeral text && text != ['0']

variable {text digits : Str}

theorem hexDigitVal_of_isDigit {c : Char} (digit : c.isDigit = true) :
    isHexDigit c = true ∧ hexDigitVal c = c.toNat - '0'.toNat ∧ hexDigitVal c < 10 := by
  have all : ∀ d ∈ ['0', '1', '2', '3', '4', '5', '6', '7', '8', '9'],
      isHexDigit d = true ∧ hexDigitVal d = d.toNat - '0'.toNat ∧ hexDigitVal d < 10 := by
    decide
  exact all c (mem_of_isDigit digit)

theorem readDigits_decimal {value : ℕ} {due : Bool} (nonempty : due = true → digits ≠ [])
    (all : ∀ c ∈ digits, c.isDigit = true) :
    readDigits 10 value due digits = some (Nat.ofDigitChars 10 digits value) := by
  induction digits generalizing value due with
  | nil =>
      cases due with
      | false => rfl
      | true => exact absurd rfl (nonempty rfl)
  | cons c rest ih =>
      have digit := all c (by simp)
      have reads := hexDigitVal_of_isDigit digit
      have notUnderscore : c ≠ '_' := by
        intro same
        rw [same] at digit
        cases digit
      rw [readDigits]
      · rw [reads.1, reads.2.1, Nat.ofDigitChars_cons, mul_comm value]
        have small : c.toNat - '0'.toNat < 10 := reads.2.1 ▸ reads.2.2
        simp only [small, decide_true, Bool.and_self, if_true]
        apply ih
        · intro impossible
          cases impossible
        · intro d mem
          exact all d (List.mem_cons_of_mem _ mem)
      · exact notUnderscore

variable [Interpreter]

/-- `int` reads a text of digits unless it is too long. -/
theorem int10_digits (nonempty : digits ≠ []) (all : ∀ c ∈ digits, c.isDigit = true) :
    int10 digits =
      if digits.length ≤ maxStrDigits then some (digitsVal digits : ℤ) else none := by
  have isHex : ∀ c ∈ digits, isHexDigit c = true := by
    intro c mem
    exact (hexDigitVal_of_isDigit (all c mem)).1
  have ascii : ∀ c ∈ digits, c.toNat < 128 := by
    intro c mem
    exact isAscii_of_isHexDigit (isHex c mem)
  have noSpace : ∀ c ∈ digits, isAsciiSpace c = false := by
    have all : ∀ c ∈ hexDigits, isAsciiSpace c = false := by decide
    intro c mem
    exact all c (isHexDigit_iff.mp (isHex c mem))
  have noUnderscore : digits.filter (· ≠ '_') = digits := by
    apply List.filter_eq_self.mpr
    intro c mem
    have digit := all c mem
    simp only [ne_eq, decide_not, Bool.not_eq_eq_eq_not, Bool.not_true, decide_eq_false_iff_not]
    intro same
    rw [same] at digit
    cases digit
  have noSign : splitSign digits = (false, digits) := by
    unfold splitSign
    split
    · cases all '-' (by simp)
    · cases all '+' (by simp)
    · rfl
  have read : readDigits 10 0 true digits = some (digitsVal digits) :=
    readDigits_decimal (fun _ => nonempty) all
  rw [int10, map_numeralChar ascii, strip_of_noSpace noSpace, noSign]
  simp only [noUnderscore, read]
  rfl

omit [Interpreter] in
theorem digits_of_isNumeral (numeral : isNumeral text = true) :
    text ≠ [] ∧ ∀ c ∈ text, c.isDigit = true := by
  unfold isNumeral at numeral
  split at numeral
  · cases numeral
  · rw [List.isEmpty_iff.mp numeral]
    decide
  · rename_i nonempty _
    exact ⟨nonempty, List.all_eq_true.mp numeral⟩

omit [Interpreter] in
/-- A canonical numeral with many digits denotes a large number. -/
theorem pow_le_digitsVal (numeral : isNumeral text = true) (nonzero : text ≠ ['0']) :
    10 ^ (text.length - 1) ≤ digitsVal text := by
  rcases text with _ | ⟨c, rest⟩
  · cases numeral
  · have digit := (digits_of_isNumeral numeral).2 c (by simp)
    have notZero : c ≠ '0' := by
      intro same
      rw [same] at numeral nonzero
      rw [isNumeral, List.isEmpty_iff] at numeral
      exact nonzero (by rw [numeral])
    have first : 1 ≤ c.toNat - '0'.toNat := by
      have all : ∀ d ∈ ['0', '1', '2', '3', '4', '5', '6', '7', '8', '9'],
          d ≠ '0' → 1 ≤ d.toNat - '0'.toNat := by
        decide
      exact all c (mem_of_isDigit digit) notZero
    rw [digitsVal, Nat.ofDigitChars_cons, Nat.ofDigitChars_eq_ofDigitChars_zero, mul_zero, zero_add]
    calc 10 ^ ((c :: rest).length - 1) = 10 ^ rest.length * 1 := by simp
      _ ≤ 10 ^ rest.length * (c.toNat - '0'.toNat) := Nat.mul_le_mul_left _ first
      _ ≤ _ := Nat.le_add_right _ _

omit [Interpreter] in
/-- Every canonical numeral of a number below `2 ^ 256` is short. -/
theorem length_of_digitsVal_lt (numeral : isNumeral text = true)
    (small : digitsVal text < 2 ^ 256) : text.length ≤ maxStrDigits := by
  by_cases zero : text = ['0']
  · rw [zero]
    decide
  · have large := pow_le_digitsVal numeral zero
    have power : 10 ^ (text.length - 1) < 10 ^ 78 := by
      calc 10 ^ (text.length - 1) ≤ digitsVal text := large
        _ < 2 ^ 256 := small
        _ < 10 ^ 78 := by norm_num
    have short := (Nat.pow_lt_pow_iff_right (by norm_num)).mp power
    rw [maxStrDigits]
    omega

end Python
