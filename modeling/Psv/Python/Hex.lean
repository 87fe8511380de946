import Mathlib.Data.Nat.Log
import Mathlib.Tactic.Ring
import Mathlib.Tactic.IntervalCases
import Mathlib.Data.List.Induction

/-!
# Hexadecimal text

Text is a list of characters.  A number is written with a fixed number of
lower-case digits (`hexPad`) or without leading zeros (`hexDigitsOf`), and read
back by `hexVal`, which ignores the case of the letters.  `isExactHex`,
`isQuantity` and `isData` are the three shapes of `0x`-prefixed text in use:
a fixed number of digits, a canonical number, and whole bytes.
-/

namespace Python

/-- A text without surrogates. -/
abbrev Str : Type := List Char

/-- What holds of every character of a text is decided along the text, not along all characters. -/
instance (priority := 1100) decidableForallChars {P : Char → Prop} [DecidablePred P] (text : Str) :
    Decidable (∀ c ∈ text, P c) :=
  List.decidableBAll P text

/-- The characters of a hexadecimal literal. -/
def hexDigits : List Char :=
  ['0', '1', '2', '3', '4', '5', '6', '7', '8', '9', 'a', 'b', 'c', 'd', 'e', 'f',
    'A', 'B', 'C', 'D', 'E', 'F']

def isHexDigit (c : Char) : Bool := hexDigits.contains c

/-- The value of a hexadecimal digit; other characters count as zero. -/
def hexDigitVal : Char → ℕ
  | '0' => 0
  | '1' => 1
  | '2' => 2
  | '3' => 3
  | '4' => 4
  | '5' => 5
  | '6' => 6
  | '7' => 7
  | '8' => 8
  | '9' => 9
  | 'a' | 'A' => 10
  | 'b' | 'B' => 11
  | 'c' | 'C' => 12
  | 'd' | 'D' => 13
  | 'e' | 'E' => 14
  | 'f' | 'F' => 15
  | _ => 0

/-- The lower-case digit of a value below sixteen. -/
def hexDigit : ℕ → Char
  | 0 => '0'
  | 1 => '1'
  | 2 => '2'
  | 3 => '3'
  | 4 => '4'
  | 5 => '5'
  | 6 => '6'
  | 7 => '7'
  | 8 => '8'
  | 9 => '9'
  | 10 => 'a'
  | 11 => 'b'
  | 12 => 'c'
  | 13 => 'd'
  | 14 => 'e'
  | _ => 'f'

/-- The number a digit sequence denotes. -/
def hexVal (digits : Str) : ℕ := digits.foldl (fun value c => value * 16 + hexDigitVal c) 0

/-- The last `width` lower-case digits of a number, padded with zeros. -/
def hexPad : ℕ → ℕ → Str
  | 0, _ => []
  | width + 1, n => hexPad width (n / 16) ++ [hexDigit (n % 16)]

/-- The lower-case digits of a number without leading zeros. -/
def hexDigitsOf (n : ℕ) : Str := hexPad (Nat.log2 n / 4 + 1) n

/-- Python's `hex` on a natural number. -/
def pyHex (n : ℕ) : Str := '0' :: 'x' :: hexDigitsOf n

/-- A 32-byte word as prefixed text. -/
def hexWord (n : ℕ) : Str := '0' :: 'x' :: hexPad 64 n

/-- A 20-byte address as prefixed text. -/
def hexAddress (n : ℕ) : Str := '0' :: 'x' :: hexPad 40 n

/-- `text.rjust(width, "0")` -/
def rjustZero (width : ℕ) (text : Str) : Str := List.replicate (width - text.length) '0' ++ text

/-- `text.ljust(width, "0")` -/
def ljustZero (width : ℕ) (text : Str) : Str := text ++ List.replicate (width - text.length) '0'

/-- `0x` and exactly `digits` hexadecimal digits. -/
def isExactHex (digits : ℕ) : Str → Bool
  | '0' :: 'x' :: rest => rest.length == digits && rest.all isHexDigit
  | _ => false

/-- `0x(0|[1-9a-fA-F][0-9a-fA-F]*)` -/
def isQuantity : Str → Bool
  | '0' :: 'x' :: [c] => isHexDigit c
  | '0' :: 'x' :: c :: rest => c != '0' && isHexDigit c && rest.all isHexDigit
  | _ => false

/-- `0x([0-9a-fA-F]{2})*` -/
def isData : Str → Bool
  | '0' :: 'x' :: rest => rest.length % 2 == 0 && rest.all isHexDigit
  | _ => false

/-! ### Single digits -/

theorem isHexDigit_iff {c : Char} : isHexDigit c = true ↔ c ∈ hexDigits := by
  simp [isHexDigit]

theorem hexDigitVal_lt {c : Char} (digit : isHexDigit c = true) : hexDigitVal c < 16 := by
  have all : ∀ d ∈ hexDigits, hexDigitVal d < 16 := by decide
  exact all c (isHexDigit_iff.mp digit)

theorem isHexDigit_toLower {c : Char} (digit : isHexDigit c = true) :
    isHexDigit c.toLower = true := by
  have all : ∀ d ∈ hexDigits, isHexDigit d.toLower = true := by decide
  exact all c (isHexDigit_iff.mp digit)

theorem hexDigitVal_toLower {c : Char} (digit : isHexDigit c = true) :
    hexDigitVal c.toLower = hexDigitVal c := by
  have all : ∀ d ∈ hexDigits, hexDigitVal d.toLower = hexDigitVal d := by decide
  exact all c (isHexDigit_iff.mp digit)

theorem toLower_eq_hexDigit {c : Char} (digit : isHexDigit c = true) :
    c.toLower = hexDigit (hexDigitVal c) := by
  have all : ∀ d ∈ hexDigits, d.toLower = hexDigit (hexDigitVal d) := by decide
  exact all c (isHexDigit_iff.mp digit)

theorem toLower_eq_zero {c : Char} (digit : isHexDigit c = true) (zero : c.toLower = '0') :
    c = '0' := by
  have all : ∀ d ∈ hexDigits, d.toLower = '0' → d = '0' := by decide
  exact all c (isHexDigit_iff.mp digit) zero

theorem isAscii_of_isHexDigit {c : Char} (digit : isHexDigit c = true) : c.toNat < 128 := by
  have all : ∀ d ∈ hexDigits, d.toNat < 128 := by decide
  exact all c (isHexDigit_iff.mp digit)

theorem isHexDigit_hexDigit {n : ℕ} (small : n < 16) : isHexDigit (hexDigit n) = true := by
  have all : ∀ m < 16, isHexDigit (hexDigit m) = true := by decide
  exact all n small

theorem hexDigitVal_hexDigit {n : ℕ} (small : n < 16) : hexDigitVal (hexDigit n) = n := by
  have all : ∀ m < 16, hexDigitVal (hexDigit m) = m := by decide
  exact all n small

theorem toLower_hexDigit {n : ℕ} (small : n < 16) : (hexDigit n).toLower = hexDigit n := by
  have all : ∀ m < 16, (hexDigit m).toLower = hexDigit m := by decide
  exact all n small

theorem hexDigit_eq_zero_iff {n : ℕ} (small : n < 16) : hexDigit n = '0' ↔ n = 0 := by
  have all : ∀ m < 16, hexDigit m = '0' ↔ m = 0 := by decide
  exact all n small

/-! ### Digit sequences -/

@[simp]
theorem hexVal_nil : hexVal [] = 0 := rfl

theorem hexVal_concat (digits : Str) (c : Char) :
    hexVal (digits ++ [c]) = hexVal digits * 16 + hexDigitVal c := by
  simp [hexVal]

@[simp]
theorem length_hexPad (width n : ℕ) : (hexPad width n).length = width := by
  induction width generalizing n with
  | zero => rfl
  | succ width ih => simp [hexPad, ih]

theorem isHexDigit_of_mem_hexPad {width n : ℕ} {c : Char} (mem : c ∈ hexPad width n) :
    isHexDigit c = true := by
  induction width generalizing n with
  | zero => simp [hexPad] at mem
  | succ width ih =>
      simp only [hexPad, List.mem_append, List.mem_singleton] at mem
      rcases mem with mem | rfl
      · exact ih mem
      · exact isHexDigit_hexDigit (Nat.mod_lt _ (by norm_num))

theorem toLower_of_mem_hexPad {width n : ℕ} {c : Char} (mem : c ∈ hexPad width n) :
    c.toLower = c := by
  induction width generalizing n with
  | zero => simp [hexPad] at mem
  | succ width ih =>
      simp only [hexPad, List.mem_append, List.mem_singleton] at mem
      rcases mem with mem | rfl
      · exact ih mem
      · exact toLower_hexDigit (Nat.mod_lt _ (by norm_num))

@[simp]
theorem all_hexPad (width n : ℕ) : (hexPad width n).all isHexDigit = true :=
  List.all_eq_true.mpr fun _ mem => isHexDigit_of_mem_hexPad mem

@[simp]
theorem map_toLower_hexPad (width n : ℕ) :
    (hexPad width n).map Char.toLower = hexPad width n := by
  conv_rhs => rw [← List.map_id (hexPad width n)]
  exact List.map_congr_left fun _ mem => toLower_of_mem_hexPad mem

theorem hexVal_hexPad (width n : ℕ) : hexVal (hexPad width n) = n % 16 ^ width := by
  induction width generalizing n with
  | zero => simp [hexPad, Nat.mod_one]
  | succ width ih =>
      rw [hexPad, hexVal_concat, ih, hexDigitVal_hexDigit (Nat.mod_lt n (by norm_num))]
      have split : n % 16 ^ (width + 1) = n % 16 + 16 * (n / 16 % 16 ^ width) := by
        rw [pow_succ', Nat.mod_mul]
      omega

theorem hexVal_hexPad_of_lt {width n : ℕ} (small : n < 16 ^ width) :
    hexVal (hexPad width n) = n := by
  rw [hexVal_hexPad, Nat.mod_eq_of_lt small]

theorem hexPad_injOn {width m n : ℕ} (smallLeft : m < 16 ^ width) (smallRight : n < 16 ^ width)
    (equal : hexPad width m = hexPad width n) : m = n := by
  rw [← hexVal_hexPad_of_lt smallLeft, equal, hexVal_hexPad_of_lt smallRight]

theorem hexVal_lt {digits : Str} (all : digits.all isHexDigit = true) :
    hexVal digits < 16 ^ digits.length := by
  induction digits using List.reverseRecOn with
  | nil => simp
  | append_singleton init last ih =>
      simp only [List.all_append, List.all_cons, List.all_nil, Bool.and_true,
        Bool.and_eq_true] at all
      have head := ih all.1
      have tail := hexDigitVal_lt all.2
      rw [hexVal_concat, List.length_append, List.length_singleton, pow_succ]
      omega

theorem hexVal_map_toLower {digits : Str} (all : digits.all isHexDigit = true) :
    hexVal (digits.map Char.toLower) = hexVal digits := by
  induction digits using List.reverseRecOn with
  | nil => rfl
  | append_singleton init last ih =>
      simp only [List.all_append, List.all_cons, List.all_nil, Bool.and_true,
        Bool.and_eq_true] at all
      rw [List.map_append, List.map_singleton, hexVal_concat, hexVal_concat, ih all.1,
        hexDigitVal_toLower all.2]

/-- Lower-casing digits gives the padded form of the number they denote. -/
theorem map_toLower_eq_hexPad {digits : Str} (all : digits.all isHexDigit = true) :
    digits.map Char.toLower = hexPad digits.length (hexVal digits) := by
  induction digits using List.reverseRecOn with
  | nil => rfl
  | append_singleton init last ih =>
      simp only [List.all_append, List.all_cons, List.all_nil, Bool.and_true,
        Bool.and_eq_true] at all
      have small := hexDigitVal_lt all.2
      rw [List.map_append, List.map_singleton, List.length_append, List.length_singleton,
        hexPad, hexVal_concat, ih all.1, toLower_eq_hexDigit all.2]
      congr 3
      · omega
      · omega

/-- Padding on the left with zeros changes the width only. -/
theorem replicate_zero_append_hexPad (extra width n : ℕ) (small : n < 16 ^ width) :
    List.replicate extra '0' ++ hexPad width n = hexPad (extra + width) n := by
  induction width generalizing n with
  | zero =>
      obtain rfl : n = 0 := by simpa using small
      induction extra with
      | zero => rfl
      | succ extra ih =>
          have split : hexPad (extra + 1 + 0) 0 = hexPad (extra + 0) 0 ++ ['0'] := rfl
          rw [split, ← ih]
          simp [hexPad, List.replicate_succ']
  | succ width ih =>
      rw [hexPad, ← List.append_assoc, ih (n / 16) (by rw [pow_succ] at small; omega)]
      rfl

/-! ### Numbers without leading zeros -/

theorem lt_pow_log2 (n : ℕ) : n < 16 ^ (Nat.log2 n / 4 + 1) := by
  have bound : n < 2 ^ (Nat.log2 n + 1) := Nat.lt_log2_self
  have wide : 2 ^ (Nat.log2 n + 1) ≤ 16 ^ (Nat.log2 n / 4 + 1) := by
    rw [show (16 : ℕ) = 2 ^ 4 by norm_num, ← pow_mul]
    exact Nat.pow_le_pow_right (by norm_num) (by omega)
  omega

@[simp]
theorem hexVal_hexDigitsOf (n : ℕ) : hexVal (hexDigitsOf n) = n :=
  hexVal_hexPad_of_lt (lt_pow_log2 n)

theorem hexPad_succ_eq_cons (width n : ℕ) :
    hexPad (width + 1) n = hexDigit (n / 16 ^ width % 16) :: hexPad width n := by
  induction width generalizing n with
  | zero => simp [hexPad]
  | succ width ih =>
      rw [hexPad, ih, hexPad, List.cons_append, Nat.div_div_eq_div_mul, pow_succ, mul_comm 16]

/-- A positive number does not start with a zero digit. -/
theorem head_hexDigitsOf {n : ℕ} (positive : 0 < n) :
    ∃ c rest, hexDigitsOf n = c :: rest ∧ c ≠ '0' ∧ isHexDigit c = true ∧
      rest.all isHexDigit = true := by
  refine ⟨_, _, hexPad_succ_eq_cons _ _, ?_, ?_, all_hexPad _ _⟩
  · have below : 16 ^ (Nat.log2 n / 4) ≤ n := by
      calc 16 ^ (Nat.log2 n / 4) = 2 ^ (4 * (Nat.log2 n / 4)) := by
            rw [show (16 : ℕ) = 2 ^ 4 by norm_num, ← pow_mul]
        _ ≤ 2 ^ Nat.log2 n := Nat.pow_le_pow_right (by norm_num) (by omega)
        _ ≤ n := Nat.log2_self_le (by omega)
    have lead : 0 < n / 16 ^ (Nat.log2 n / 4) := Nat.div_pos below (by positivity)
    have top : n / 16 ^ (Nat.log2 n / 4) < 16 := by
      have bound := lt_pow_log2 n
      rw [pow_succ] at bound
      exact Nat.div_lt_of_lt_mul bound
    rw [Nat.mod_eq_of_lt top, Ne, hexDigit_eq_zero_iff top]
    omega
  · exact isHexDigit_hexDigit (Nat.mod_lt _ (by norm_num))

theorem isQuantity_pyHex (n : ℕ) : isQuantity (pyHex n) = true := by
  rcases Nat.eq_zero_or_pos n with rfl | positive
  · decide
  · obtain ⟨c, rest, equal, nonzero, digit, all⟩ := head_hexDigitsOf positive
    rw [pyHex, equal]
    rcases rest with _ | ⟨d, rest⟩
    · exact digit
    · simp [isQuantity, nonzero, digit, all]

/-! ### Shapes of prefixed text -/

theorem isExactHex_iff {digits : ℕ} {text : Str} :
    isExactHex digits text = true ↔
      ∃ rest, text = '0' :: 'x' :: rest ∧ rest.length = digits ∧
        rest.all isHexDigit = true := by
  constructor
  · intro shape
    unfold isExactHex at shape
    split at shape
    · simp only [Bool.and_eq_true, beq_iff_eq] at shape
      exact ⟨_, rfl, shape⟩
    · exact absurd shape (by simp)
  · rintro ⟨rest, rfl, length, all⟩
    simp [isExactHex, length, all]

theorem isQuantity_imp {text : Str} (shape : isQuantity text = true) :
    ∃ rest, text = '0' :: 'x' :: rest ∧ rest ≠ [] ∧ rest.all isHexDigit = true := by
  unfold isQuantity at shape
  split at shape
  · exact ⟨_, rfl, by simp, by simpa using shape⟩
  · simp only [Bool.and_eq_true] at shape
    exact ⟨_, rfl, by simp, by simp [shape]⟩
  · exact absurd shape (by simp)

theorem isData_iff {text : Str} :
    isData text = true ↔
      ∃ rest, text = '0' :: 'x' :: rest ∧ rest.length % 2 = 0 ∧
        rest.all isHexDigit = true := by
  constructor
  · intro shape
    unfold isData at shape
    split at shape
    · simp only [Bool.and_eq_true, beq_iff_eq] at shape
      exact ⟨_, rfl, shape⟩
    · exact absurd shape (by simp)
  · rintro ⟨rest, rfl, even, all⟩
    simp [isData, even, all]

theorem isData_of_isExactHex {digits : ℕ} {text : Str} (shape : isExactHex digits text = true)
    (even : digits % 2 = 0) : isData text = true := by
  obtain ⟨rest, rfl, rfl, all⟩ := isExactHex_iff.mp shape
  exact isData_iff.mpr ⟨rest, rfl, even, all⟩

theorem hexVal_exact_lt {digits : ℕ} {text : Str} (shape : isExactHex digits text = true) :
    hexVal (text.drop 2) < 16 ^ digits := by
  obtain ⟨rest, rfl, rfl, all⟩ := isExactHex_iff.mp shape
  exact hexVal_lt all

theorem isExactHex_hexPad (digits n : ℕ) :
    isExactHex digits ('0' :: 'x' :: hexPad digits n) = true := by
  simp [isExactHex]

/-- Canonical numbers that agree up to letter case denote the same number. -/
theorem hexVal_of_map_toLower_eq_pyHex {text : Str} {n : ℕ} (shape : isQuantity text = true)
    (spelled : text.map Char.toLower = pyHex n) : hexVal (text.drop 2) = n := by
  obtain ⟨rest, rfl, _, all⟩ := isQuantity_imp shape
  have digits : rest.map Char.toLower = hexDigitsOf n := by
    simpa [pyHex] using spelled
  rw [List.drop_succ_cons, List.drop_succ_cons, List.drop_zero, ← hexVal_map_toLower all, digits,
    hexVal_hexDigitsOf]

end Python
