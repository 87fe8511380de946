import Psv.Python.Value

/-!
# What the lenient text operations accept

`bytes.fromhex` accepts white space between bytes, and `int` accepts it around
a number.  Text of a fixed size that passes through both still has a normal
form of the same size, and denotes a number of that size.
-/

namespace Python

/-- `0x` and a text of the size of `size` bytes that `bytes.fromhex` can read. -/
def isLooseHex (size : ℕ) (text : Str) : Bool :=
  decide (text.take 2 = ['0', 'x']) && decide (text.length = 2 + size * 2) &&
    (fromHex (text.drop 2)).isSome

theorem isLooseHex_iff {size : ℕ} {text : Str} :
    isLooseHex size text = true ↔
      ∃ rest, text = '0' :: 'x' :: rest ∧ rest.length = size * 2 ∧ (fromHex rest).isSome := by
  constructor
  · intro loose
    simp only [isLooseHex, Bool.and_eq_true, decide_eq_true_eq] at loose
    rcases loose with ⟨⟨start, length⟩, readable⟩
    rcases text with _ | ⟨c, _ | ⟨d, rest⟩⟩
    · simp at start
    · simp at start
    · simp only [List.take_succ_cons, List.take_zero, List.cons.injEq, and_true] at start
      rcases start with ⟨rfl, rfl⟩
      refine ⟨rest, rfl, ?_, readable⟩
      simp only [List.length_cons] at length
      omega
  · rintro ⟨rest, rfl, length, readable⟩
    simp [isLooseHex, length, readable]
    omega

theorem toLower_not_upper (c : Char) : ¬(65 ≤ c.toLower.toNat ∧ c.toLower.toNat ≤ 90) := by
  intro upper
  by_cases isUpper : c.val ≥ 'A'.val ∧ c.val ≤ 'Z'.val
  · have lowered : c.toLower = _ := dif_pos isUpper
    rw [lowered] at upper
    have low : 65 ≤ c.val.toNat := isUpper.1
    have high : c.val.toNat ≤ 90 := isUpper.2
    have shifted : (c.val + ('a'.val - 'A'.val)).toNat = c.val.toNat + 32 := by
      rw [UInt32.toNat_add]
      exact Nat.mod_eq_of_lt (by change c.val.toNat + 32 < 2 ^ 32; omega)
    have bound : (c.val + ('a'.val - 'A'.val)).toNat ≤ 90 := upper.2
    omega
  · have lowered : c.toLower = c := dif_neg isUpper
    rw [lowered] at upper
    exact isUpper upper

theorem toLower_toLower_hex {c : Char} (digit : isHexDigit c.toLower = true) :
    c.toLower.toLower = c.toLower := by
  have all : ∀ d ∈ hexDigits, ¬(65 ≤ d.toNat ∧ d.toNat ≤ 90) → d.toLower = d := by decide
  exact all _ (isHexDigit_iff.mp digit) (toLower_not_upper c)

/-- White space is not changed by lower-casing. -/
theorem toLower_of_isAsciiSpace {c : Char} (space : isAsciiSpace c = true) : c.toLower = c := by
  have all : ∀ d ∈ [' ', '\t', '\n', '\r', Char.ofNat 11, Char.ofNat 12], d.toLower = d := by decide
  exact all c (by simpa [isAsciiSpace] using space)

theorem isAscii_of_isAsciiSpace {c : Char} (space : isAsciiSpace c = true) : c.toNat < 128 := by
  have all : ∀ d ∈ [' ', '\t', '\n', '\r', Char.ofNat 11, Char.ofNat 12], d.toNat < 128 := by decide
  exact all c (by simpa [isAsciiSpace] using space)

theorem isAsciiSpace_of_isHexDigit {c : Char} (digit : isHexDigit c = true) :
    isAsciiSpace c = false := by
  have all : ∀ d ∈ hexDigits, isAsciiSpace d = false := by decide
  exact all c (isHexDigit_iff.mp digit)

/-- `bytes.fromhex` reads nothing but digits and white space. -/
theorem chars_of_isSome_fromHex {text : Str} (readable : (fromHex text).isSome = true) :
    ∀ c ∈ text, isHexDigit c = true ∨ isAsciiSpace c = true := by
  fun_induction fromHex text with
  | case1 => simp
  | case2 c space => simp [space]
  | case3 c notSpace => simp at readable
  | case4 c d rest space ih =>
      intro e mem
      rcases List.mem_cons.mp mem with rfl | later
      · exact Or.inr space
      · exact ih readable e later
  | case5 c d rest notSpace digits ih =>
      simp only [Bool.and_eq_true] at digits
      rw [Option.isSome_map] at readable
      intro e mem
      simp only [List.mem_cons] at mem
      rcases mem with rfl | rfl | later
      · exact Or.inl digits.1
      · exact Or.inl digits.2
      · exact ih readable e later
  | case6 c d rest notSpace notDigits => simp at readable

theorem isSome_fromHex_toLower {text : Str} (readable : (fromHex text).isSome = true) :
    (fromHex (text.map Char.toLower)).isSome = true := by
  fun_induction fromHex text with
  | case1 => rfl
  | case2 c space => simp [fromHex, toLower_of_isAsciiSpace space, space]
  | case3 c notSpace => simp at readable
  | case4 c d rest space ih =>
      have later := ih readable
      simpa [fromHex, toLower_of_isAsciiSpace space, space] using later
  | case5 c d rest notSpace digits ih =>
      simp only [Bool.and_eq_true] at digits
      rw [Option.isSome_map] at readable
      have first := isHexDigit_toLower digits.1
      have second := isHexDigit_toLower digits.2
      simp [fromHex, isAsciiSpace_of_isHexDigit first, first, second, ih readable]
  | case6 c d rest notSpace notDigits => simp at readable

/-- Behind whole bytes of digits, `bytes.fromhex` goes on as if it started there. -/
theorem isSome_fromHex_append {digits rest : Str} (all : digits.all isHexDigit = true)
    (even : digits.length % 2 = 0) (readable : (fromHex (digits ++ rest)).isSome = true) :
    (fromHex rest).isSome = true := by
  induction digits using List.twoStepInduction with
  | nil => exact readable
  | singleton c => simp at even
  | cons_cons c d digits ih _ =>
      simp only [List.all_cons, Bool.and_eq_true] at all
      apply ih all.2.2
      · simp only [List.length_cons] at even
        omega
      · simpa [fromHex, isAsciiSpace_of_isHexDigit all.1, all.1, all.2.1] using readable

section Loose

variable [Interpreter] {size : ℕ} {text : Str}

theorem lower_loose {rest : Str} (readable : (fromHex rest).isSome = true) :
    lower ('0' :: 'x' :: rest) = '0' :: 'x' :: rest.map Char.toLower := by
  rw [lower_eq_map]
  · rfl
  · intro c mem
    simp only [List.mem_cons] at mem
    rcases mem with rfl | rfl | mem
    · decide
    · decide
    · rcases chars_of_isSome_fromHex readable c mem with digit | space
      · exact isAscii_of_isHexDigit digit
      · exact isAscii_of_isAsciiSpace space

theorem isLooseHex_lower (loose : isLooseHex size text = true) :
    isLooseHex size (lower text) = true := by
  rcases isLooseHex_iff.mp loose with ⟨rest, rfl, length, readable⟩
  rw [lower_loose readable]
  exact isLooseHex_iff.mpr ⟨_, rfl, by simpa using length, isSome_fromHex_toLower readable⟩

theorem lower_lower_loose (loose : isLooseHex size text = true) :
    lower (lower text) = lower text := by
  rcases isLooseHex_iff.mp loose with ⟨rest, rfl, _, readable⟩
  have again : (rest.map Char.toLower).map Char.toLower = rest.map Char.toLower := by
    rw [List.map_map]
    apply List.map_congr_left
    intro c mem
    rcases chars_of_isSome_fromHex readable c mem with digit | space
    · rw [Function.comp_apply, toLower_eq_hexDigit digit, toLower_hexDigit (hexDigitVal_lt digit)]
    · rw [Function.comp_apply, toLower_of_isAsciiSpace space, toLower_of_isAsciiSpace space]
  rw [lower_loose readable, lower_loose (isSome_fromHex_toLower readable), again]

omit [Interpreter] in
/-- Loose text without white space is exact. -/
theorem isExactHex_of_loose (loose : isLooseHex size text = true)
    (plain : (text.drop 2).all isHexDigit = true) : isExactHex (size * 2) text = true := by
  rcases isLooseHex_iff.mp loose with ⟨rest, rfl, length, _⟩
  exact isExactHex_iff.mpr ⟨rest, rfl, length, plain⟩

omit [Interpreter] in
theorem isLooseHex_of_exact (size : ℕ) (exact : isExactHex (size * 2) text = true) :
    isLooseHex size text = true ∧ (text.drop 2).all isHexDigit = true := by
  rcases isExactHex_iff.mp exact with ⟨rest, rfl, length, all⟩
  exact ⟨isLooseHex_iff.mpr ⟨rest, rfl, length, isSome_fromHex all (by omega)⟩, all⟩

/-! ### Numbers -/

omit [Interpreter] in
theorem readDigits_lt {base value n : ℕ} {due : Bool} {digits : Str} (positive : 0 < base)
    (read : readDigits base value due digits = some n) :
    n < (value + 1) * base ^ digits.length := by
  fun_induction readDigits base value due digits with
  | case1 => simp at read
  | case2 value => simp_all
  | case3 => simp at read
  | case4 value due rest notDue ih =>
      have bound := ih read
      have grows : base ^ rest.length ≤ base ^ (rest.length + 1) :=
        Nat.pow_le_pow_right positive (Nat.le_succ _)
      calc n < (value + 1) * base ^ rest.length := bound
        _ ≤ (value + 1) * base ^ (rest.length + 1) := Nat.mul_le_mul_left _ grows
  | case5 value due c rest notUnderscore digit ih =>
      simp only [Bool.and_eq_true, decide_eq_true_eq] at digit
      have bound := ih read
      have step : value * base + hexDigitVal c + 1 ≤ (value + 1) * base := by
        rw [Nat.add_one_mul]
        omega
      calc n < (value * base + hexDigitVal c + 1) * base ^ rest.length := bound
        _ ≤ (value + 1) * base * base ^ rest.length := Nat.mul_le_mul_right _ step
        _ = (value + 1) * base ^ (rest.length + 1) := by ring
  | case6 => simp at read

omit [Interpreter] in
theorem length_dropBasePrefix {rest : Str} :
    (dropBasePrefix ('0' :: 'x' :: rest)).length ≤ rest.length := by
  unfold dropBasePrefix
  split <;> simp_all

omit [Interpreter] in
theorem strip_prefixed (rest : Str) :
    ∃ kept, strip ('0' :: 'x' :: rest) = '0' :: 'x' :: kept ∧ kept.length ≤ rest.length := by
  have start : ('0' :: 'x' :: rest).dropWhile isAsciiSpace = '0' :: 'x' :: rest := rfl
  have reversed : ('0' :: 'x' :: rest).reverse = rest.reverse ++ ['x', '0'] := by simp
  have short : (rest.reverse.dropWhile isAsciiSpace).length ≤ rest.length := by
    calc (rest.reverse.dropWhile isAsciiSpace).length ≤ rest.reverse.length :=
          (List.dropWhile_suffix _).length_le
      _ = rest.length := List.length_reverse
  refine ⟨(rest.reverse.dropWhile isAsciiSpace).reverse, ?_, by simpa using short⟩
  rw [strip, start, reversed, List.dropWhile_append]
  split
  · rename_i empty
    rw [List.isEmpty_iff.mp empty]
    rfl
  · simp

/-- Loose text of a fixed size denotes a number of that size, if it denotes one. -/
theorem int16_loose {n : ℤ} (loose : isLooseHex size text = true)
    (read : int16 (lower text) = some n) : 0 ≤ n ∧ n < 16 ^ (size * 2) := by
  rcases isLooseHex_iff.mp loose with ⟨rest, rfl, length, readable⟩
  rw [lower_loose readable] at read
  have ascii : ∀ c ∈ '0' :: 'x' :: rest.map Char.toLower, c.toNat < 128 := by
    intro c mem
    simp only [List.mem_cons] at mem
    rcases mem with rfl | rfl | mem
    · decide
    · decide
    · rcases chars_of_isSome_fromHex (isSome_fromHex_toLower readable) c mem with digit | space
      · exact isAscii_of_isHexDigit digit
      · exact isAscii_of_isAsciiSpace space
  rcases strip_prefixed (rest.map Char.toLower) with ⟨kept, stripped, short⟩
  have unsigned : splitSign ('0' :: 'x' :: kept) = (false, '0' :: 'x' :: kept) := rfl
  rw [int16, map_numeralChar ascii, stripped, unsigned] at read
  rcases digits : readDigits 16 0 true (dropBasePrefix ('0' :: 'x' :: kept)) with _ | value
  · simp [digits] at read
  have valued : (value : ℤ) = n := by simpa [digits] using read
  subst valued
  have bound := readDigits_lt (by norm_num) digits
  have width : (dropBasePrefix ('0' :: 'x' :: kept)).length ≤ size * 2 := by
    have dropped : (dropBasePrefix ('0' :: 'x' :: kept)).length ≤ kept.length :=
      length_dropBasePrefix
    rw [List.length_map] at short
    omega
  have wide : 16 ^ (dropBasePrefix ('0' :: 'x' :: kept)).length ≤ 16 ^ (size * 2) :=
    Nat.pow_le_pow_right (by norm_num) width
  constructor
  · positivity
  · have small : value < 16 ^ (size * 2) := by omega
    exact_mod_cast small

end Loose

end Python
