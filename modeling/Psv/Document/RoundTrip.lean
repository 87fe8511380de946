import Psv.Document.Reading
import Mathlib.Data.List.TakeDrop
import Mathlib.Data.List.TakeWhile

/-!
# Reading back what was written

Every document whose integers can be converted is read back from its text, in
each style, and the text may be followed by anything that does not continue a
numeral.  The proof follows the writer: characters, quoted texts, numerals, and
then the brackets by induction over the document.
-/

namespace Python

open Interaction

namespace Document

/-! ### Characters -/

theorem codeUnit_hexPad {n : ℕ} (small : n < 16 ^ 4) (rest : Str) :
    codeUnit (hexPad 4 n ++ rest) = some (n, rest) := by
  have front : (hexPad 4 n ++ rest).take 4 = hexPad 4 n := by
    rw [List.take_append_of_le_length (by simp), List.take_of_length_le (by simp)]
  have back : (hexPad 4 n ++ rest).drop 4 = rest := by
    rw [List.drop_append_of_le_length (by simp), List.drop_of_length_le (by simp), List.nil_append]
  rw [codeUnit, front, back, if_pos ⟨length_hexPad 4 n, all_hexPad 4 n⟩,
    hexVal_hexPad_of_lt small]

theorem readChar_unit {n : ℕ} (small : n < 16 ^ 4) (rest : Str) :
    readChar ('\\' :: 'u' :: (hexPad 4 n ++ rest)) = some (.ofUnit n, rest) := by
  rw [readChar, codeUnit_hexPad small, Option.map_some]

theorem ofUnit_char {c : Char} : Point.ofUnit c.toNat = .char c := by
  have valid : c.toNat < 0xd800 ∨ 0xdfff < c.toNat := by
    rcases c.valid with low | ⟨high, _⟩
    · exact Or.inl low
    · exact Or.inr high
  rw [Point.ofUnit, if_neg (by omega), if_neg (by omega), Char.ofNat_toNat]

theorem ofUnit_high (bits : Fin 1024) : Point.ofUnit (0xd800 + bits) = .high bits := by
  have bound := bits.isLt
  rw [Point.ofUnit, if_pos (by omega), Nat.add_sub_cancel_left]
  exact congrArg Point.high (Fin.ofNat_val_eq_self bits)

theorem ofUnit_low (bits : Fin 1024) : Point.ofUnit (0xdc00 + bits) = .low bits := by
  have bound := bits.isLt
  rw [Point.ofUnit, if_neg (by omega), if_pos (by omega), Nat.add_sub_cancel_left]
  exact congrArg Point.low (Fin.ofNat_val_eq_self bits)

/-- A character that is not written as a pair of halves is read in one step. -/
theorem readChar_escape (ensureAscii : Bool) {c : Char} (rest : Str)
    (single : c.toNat < 0x10000 ∨ ensureAscii = false) :
    readChar (escapeChar ensureAscii c ++ rest) = some (.char c, rest) := by
  have named : ∀ n, c.toNat = n → Char.ofNat n = c := by
    rintro _ rfl
    exact Char.ofNat_toNat c
  unfold escapeChar
  split_ifs with isQuote isBackslash isNewline isReturn isTab isFeed isBack plain small
  · subst isQuote
    rfl
  · subst isBackslash
    rfl
  · subst isNewline
    rfl
  · subst isReturn
    rfl
  · subst isTab
    rfl
  · rw [← named 12 isFeed]
    rfl
  · rw [← named 8 isBack]
    rfl
  · have printable : ¬(c = '\\' ∨ c.toNat < 32) := by
      rintro (same | control)
      · exact isBackslash same
      · omega
    rw [List.singleton_append]
    unfold readChar
    split
    · rename_i nil
      cases nil
    · rename_i same
      cases same
      exact absurd rfl isBackslash
    · rename_i same
      cases same
      exact absurd rfl isBackslash
    · rename_i same
      cases same
      exact if_neg printable
  · exact (readChar_unit small rest).trans (by rw [ofUnit_char])
  · rcases single with single | unescaped
    · exact absurd single small
    · exact absurd ⟨by omega, Or.inr unescaped⟩ plain

theorem head_escape (ensureAscii : Bool) (point : Point) (rest : Str) :
    (escape ensureAscii point ++ rest).head? ≠ some '"' := by
  cases point with
  | char c =>
      rw [escape, escapeChar]
      split_ifs with isQuote
      all_goals simp
      exact isQuote
  | high bits => simp [escape]
  | low bits => simp [escape]

theorem readQuoted_succ {fuel : ℕ} {text rest more : Str} {point : Point} {quoted : Text}
    (opens : text.head? ≠ some '"') (isPoint : readChar text = some (point, more))
    (others : readQuoted fuel more = .ok (quoted, rest)) :
    readQuoted (fuel + 1) text = .ok (.cons point quoted, rest) := by
  rw [readQuoted, if_neg opens, isPoint]
  dsimp only
  rw [others]
  rfl

/-- A character outside the first plane is written as two halves, which are joined again. -/
theorem readQuoted_pair {c : Char} {fuel : ℕ} {more rest : Str} {quoted : Text}
    (large : 0x10000 ≤ c.toNat) (others : readQuoted fuel more = .ok (quoted, rest)) :
    readQuoted (fuel + 2) ('\\' :: 'u' :: (hexPad 4 (0xd800 + (c.toNat - 0x10000) / 1024) ++
      '\\' :: 'u' :: (hexPad 4 (0xdc00 + (c.toNat - 0x10000) % 1024) ++ more))) =
      .ok (.cons (.char c) quoted, rest) := by
  have bound : c.toNat < 0x110000 := by
    rcases c.valid with low | ⟨_, high⟩
    · have : c.toNat < 0xd800 := low
      omega
    · exact high
  let upper : Fin 1024 := ⟨(c.toNat - 0x10000) / 1024, by omega⟩
  let lower : Fin 1024 := ⟨(c.toNat - 0x10000) % 1024, by omega⟩
  have isHigh : Point.ofUnit (0xd800 + (c.toNat - 0x10000) / 1024) = .high upper :=
    ofUnit_high upper
  have isLow : Point.ofUnit (0xdc00 + (c.toNat - 0x10000) % 1024) = .low lower := ofUnit_low lower
  have code : 0x10000 + (c.toNat - 0x10000) / 1024 * 1024 + (c.toNat - 0x10000) % 1024 =
      c.toNat := by omega
  have joined : Text.cons (.high upper) (.cons (.low lower) quoted) = .cons (.char c) quoted := by
    apply Text.ext
    change Point.char (Char.ofNat (0x10000 + (c.toNat - 0x10000) / 1024 * 1024 +
      (c.toNat - 0x10000) % 1024)) :: quoted.points = Point.char c :: quoted.points
    rw [code, Char.ofNat_toNat]
  have lowSmall : 0xdc00 + (c.toNat - 0x10000) % 1024 < 16 ^ 4 := by omega
  have highSmall : 0xd800 + (c.toNat - 0x10000) / 1024 < 16 ^ 4 := by omega
  have second := readQuoted_succ (by simp) (readChar_unit lowSmall more) others
  have first := readQuoted_succ (by simp) (readChar_unit highSmall _) second
  rw [isHigh, isLow, joined] at first
  exact first

/-- A code point is read back in front of what can be read. -/
theorem readQuoted_point (ensureAscii : Bool) (point : Point) {fuel needed : ℕ} {more rest : Str}
    {quoted : Text} (others : ∀ less, needed < less → readQuoted less more = .ok (quoted, rest))
    (enough : (escape ensureAscii point).length + needed < fuel) :
    readQuoted fuel (escape ensureAscii point ++ more) = .ok (.cons point quoted, rest) := by
  have opens := head_escape ensureAscii point more
  have unit : ∀ n, n < 16 ^ 4 → Point.ofUnit n = point →
      escape ensureAscii point = '\\' :: 'u' :: hexPad 4 n →
      readQuoted fuel (escape ensureAscii point ++ more) = .ok (.cons point quoted, rest) := by
    intro n small isPoint isEscape
    have long : (escape ensureAscii point).length = 6 := by simp [isEscape]
    obtain ⟨less, rfl⟩ : ∃ less, fuel = less + 1 := ⟨fuel - 1, by omega⟩
    apply readQuoted_succ opens _ (others less (by omega))
    rw [isEscape, ← isPoint]
    exact readChar_unit small more
  cases point with
  | high bits =>
      have bound := bits.isLt
      exact unit (0xd800 + bits) (by omega) (ofUnit_high bits) rfl
  | low bits =>
      have bound := bits.isLt
      exact unit (0xdc00 + bits) (by omega) (ofUnit_low bits) rfl
  | char c =>
      rw [escape] at opens enough ⊢
      by_cases single : c.toNat < 0x10000 ∨ ensureAscii = false
      · have some_ : 0 < (escapeChar ensureAscii c).length := by
          unfold escapeChar
          split_ifs <;> simp
        obtain ⟨less, rfl⟩ : ∃ less, fuel = less + 1 := ⟨fuel - 1, by omega⟩
        exact readQuoted_succ opens (readChar_escape ensureAscii more single)
          (others less (by omega))
      · rw [not_or, Bool.not_eq_false, not_lt] at single
        have other : ∀ d : Char, d.toNat < 0x10000 → c ≠ d := by
          rintro d small rfl
          omega
        have isPair : escapeChar ensureAscii c =
            '\\' :: 'u' :: hexPad 4 (0xd800 + (c.toNat - 0x10000) / 1024) ++
              '\\' :: 'u' :: hexPad 4 (0xdc00 + (c.toNat - 0x10000) % 1024) := by
          rw [escapeChar, if_neg (other _ (by decide)), if_neg (other _ (by decide)),
            if_neg (other _ (by decide)), if_neg (other _ (by decide)),
            if_neg (other _ (by decide)), if_neg (by omega), if_neg (by omega),
            if_neg (by rw [single.2]; simp; omega), if_neg (by omega)]
        have long : (escapeChar ensureAscii c).length = 12 := by simp [isPair]
        obtain ⟨less, rfl⟩ : ∃ less, fuel = less + 2 := ⟨fuel - 2, by omega⟩
        rw [isPair]
        simpa using readQuoted_pair single.1 (others less (by omega))

/-- The code points of a text are read back, by induction on them. -/
theorem readQuoted_escape (ensureAscii : Bool) (rest : Str) {points : Points}
    (joined : points.IsChain fun first second => ¬first.Pair second) {fuel : ℕ}
    (enough : (points.flatMap (escape ensureAscii)).length < fuel) :
    readQuoted fuel (points.flatMap (escape ensureAscii) ++ '"' :: rest) =
      .ok (⟨points, joined⟩, rest) := by
  induction points generalizing fuel with
  | nil =>
      cases fuel with
      | zero => exact absurd enough (Nat.not_lt_zero _)
      | succ fuel => rfl
  | cons point points ih =>
      rw [List.flatMap_cons, List.length_append] at enough
      rw [List.flatMap_cons, List.append_assoc, ← Text.cons_of_chain joined]
      exact readQuoted_point ensureAscii point (fun less more => ih joined.of_cons more) enough

theorem quote_eq_some_iff {ensureAscii : Bool} {text : Text} {quoted : Str} :
    quote ensureAscii text = some quoted ↔
      (ensureAscii = true ∨ ∀ point ∈ text.points, point.isChar = true) ∧
        quoted = '"' :: text.points.flatMap (escape ensureAscii) ++ ['"'] := by
  unfold quote
  split_ifs with encodable
  · rw [Option.some.injEq, and_iff_right encodable]
    exact eq_comm
  · exact iff_of_false nofun fun written => encodable written.1

theorem quote_eq_cons {ensureAscii : Bool} {text : Text} {quoted : Str}
    (isQuoted : quote ensureAscii text = some quoted) : ∃ more, quoted = '"' :: more :=
  ⟨_, (quote_eq_some_iff.mp isQuoted).2⟩

theorem quote_toText (ensureAscii : Bool) (literal : String) :
    quote ensureAscii literal.toText =
      some ('"' :: literal.toPoints.flatMap (escape ensureAscii) ++ ['"']) := by
  apply quote_eq_some_iff.mpr ⟨Or.inr _, rfl⟩
  intro point mem
  rcases List.mem_map.mp mem with ⟨c, _, rfl⟩
  rfl

/-- A quoted text is read back. -/
theorem readQuoted_quote {ensureAscii : Bool} {text : Text} {quoted : Str}
    (isQuoted : quote ensureAscii text = some quoted) (rest : Str) :
    (quoted ++ rest).head? = some '"' ∧
      readQuoted (quoted ++ rest).length (quoted ++ rest).tail = .ok (text, rest) := by
  have shape : quoted ++ rest =
      '"' :: (text.points.flatMap (escape ensureAscii) ++ '"' :: rest) := by
    simp [(quote_eq_some_iff.mp isQuoted).2]
  rw [shape]
  refine ⟨rfl, readQuoted_escape ensureAscii rest text.joined ?_⟩
  simp only [List.length_cons, List.length_append]
  omega

/-! ### Numerals -/

/-- Nothing at the front that could continue a numeral. -/
def Stops (rest : Str) : Prop :=
  ∀ c, rest.head? = some c → c.isDigit = false ∧ c ≠ '.' ∧ c ≠ 'e' ∧ c ≠ 'E'

theorem spanDigits_eq (text : Str) :
    spanDigits text = (text.takeWhile Char.isDigit, text.dropWhile Char.isDigit) :=
  List.span_eq_takeWhile_dropWhile _ text

theorem spanDigits_append (text : Str) {rest : Str} (stops : Stops rest) :
    spanDigits (text ++ rest) = ((spanDigits text).1, (spanDigits text).2 ++ rest) := by
  simp only [spanDigits_eq]
  induction text with
  | nil =>
      rcases rest with _ | ⟨c, rest⟩
      · rfl
      · have stop := (stops c rfl).1
        rw [List.nil_append, List.takeWhile_cons_of_neg (by simp [stop]),
          List.dropWhile_cons_of_neg (by simp [stop])]
        rfl
  | cons c text ih =>
      rw [Prod.mk.injEq] at ih
      by_cases digit : c.isDigit = true
      · rw [List.cons_append, List.takeWhile_cons_of_pos digit, List.dropWhile_cons_of_pos digit,
          List.takeWhile_cons_of_pos digit, List.dropWhile_cons_of_pos digit, ih.1, ih.2]
      · rw [List.cons_append, List.takeWhile_cons_of_neg digit, List.dropWhile_cons_of_neg digit,
          List.takeWhile_cons_of_neg digit, List.dropWhile_cons_of_neg digit]
        rfl

theorem integerPart_append {text rest integer left : Str}
    (isInteger : integerPart text = some (integer, left)) (stops : Stops rest) :
    integerPart (text ++ rest) = some (integer, left ++ rest) := by
  rcases text with _ | ⟨c, text⟩
  · cases isInteger
  · rw [List.cons_append]
    simp only [integerPart, spanDigits_append text stops] at isInteger ⊢
    split_ifs at isInteger ⊢ with zero digit
    · cases isInteger
      rfl
    · cases isInteger
      rfl

theorem fractionPart_append {text rest fraction left : Str}
    (isFraction : fractionPart text = (fraction, left)) (stops : Stops rest) :
    fractionPart (text ++ rest) = (fraction, left ++ rest) := by
  have other : ∀ text : Str, (∀ c, text.head? = some c → c ≠ '.') →
      fractionPart text = ([], text) := by
    intro text noPoint
    unfold fractionPart
    split
    · exact absurd rfl (noPoint _ rfl)
    · rfl
  rcases text with _ | ⟨c, text⟩
  · cases isFraction
    exact other rest fun c isHead => (stops c isHead).2.1
  · by_cases point : c = '.'
    · subst point
      simp only [List.cons_append, fractionPart, spanDigits_append text stops] at isFraction ⊢
      split_ifs at isFraction ⊢ with empty
      · cases isFraction
        rfl
      · cases isFraction
        rfl
    · have noPoint : ∀ d, (c :: text).head? = some d → d ≠ '.' := by
        rintro d isHead rfl
        exact point (Option.some.inj isHead)
      rw [other _ noPoint] at isFraction
      cases isFraction
      exact other _ noPoint

theorem exponentSign_append {text : Str} (nonempty : text ≠ []) (rest : Str) :
    exponentSign (text ++ rest) = ((exponentSign text).1, (exponentSign text).2 ++ rest) := by
  rcases text with _ | ⟨c, text⟩
  · exact absurd rfl nonempty
  · rw [List.cons_append]
    by_cases plus : c = '+'
    · subst plus
      rfl
    · by_cases minus : c = '-'
      · subst minus
        rfl
      · have plain : ∀ text : Str, exponentSign (c :: text) = ([], c :: text) := by
          intro text
          unfold exponentSign
          split
          · rename_i same
            exact absurd (List.cons.inj same).1 plus
          · rename_i same
            exact absurd (List.cons.inj same).1 minus
          · rfl
        rw [plain, plain]
        rfl

theorem exponentPart_append {text rest exponent : Str}
    (isExponent : exponentPart text = (exponent, [])) (stops : Stops rest) :
    exponentPart (text ++ rest) = (exponent, rest) := by
  rcases text with _ | ⟨c, text⟩
  · cases isExponent
    rcases rest with _ | ⟨c, rest⟩
    · rfl
    · rcases stops c rfl with ⟨_, _, notLower, notUpper⟩
      rw [List.nil_append, exponentPart, if_neg]
      rintro ⟨lower | upper, _⟩
      · exact notLower lower
      · exact notUpper upper
  · rw [exponentPart] at isExponent
    split_ifs at isExponent with holds
    · have nonempty : text ≠ [] := by
        rintro rfl
        exact holds.2 rfl
      rw [Prod.mk.injEq] at isExponent
      rcases isExponent with ⟨rfl, done⟩
      have spanned := spanDigits_append (exponentSign text).2 stops
      have signed := exponentSign_append nonempty rest
      rw [done] at spanned
      rw [List.cons_append, exponentPart, signed]
      simp only [spanned]
      rw [if_pos holds]
      rfl
    · cases isExponent

theorem signPart_append {text : Str} (nonempty : text ≠ []) (rest : Str) :
    signPart (text ++ rest) = ((signPart text).1, (signPart text).2 ++ rest) := by
  rcases text with _ | ⟨c, text⟩
  · exact absurd rfl nonempty
  · rw [List.cons_append]
    by_cases minus : c = '-'
    · subst minus
      rfl
    · have plain : ∀ text : Str, signPart (c :: text) = ([], c :: text) := by
        intro text
        unfold signPart
        split
        · rename_i same
          exact absurd (List.cons.inj same).1 minus
        · rfl
      rw [plain, plain]
      rfl

/-- A numeral is read as far as it goes. -/
theorem numeral_append {text rest sign integer tail : Str}
    (isNumeral : numeral text = some (sign, integer, tail, [])) (stops : Stops rest) :
    numeral (text ++ rest) = some (sign, integer, tail, rest) := by
  have nonempty : text ≠ [] := by
    rintro rfl
    cases isNumeral
  unfold numeral at isNumeral ⊢
  rw [signPart_append nonempty]
  rcases Option.map_eq_some_iff.mp isNumeral with ⟨⟨digits, left⟩, isInteger, parts⟩
  simp only [Prod.mk.injEq] at parts
  rcases parts with ⟨isSign, rfl, isTail, done⟩
  have fraction := fractionPart_append (Prod.ext rfl rfl : fractionPart left =
    ((fractionPart left).1, (fractionPart left).2)) stops
  have exponent := exponentPart_append (Prod.ext rfl done :
    exponentPart (fractionPart left).2 = ((exponentPart (fractionPart left).2).1, [])) stops
  simp only [integerPart_append isInteger stops, Option.map_some, fraction, exponent, isSign, isTail]

/-- A numeral begins with a digit, or with a sign and a digit. -/
theorem numeral_head {text : Str} {parts : Str × Str × Str × Str} (isNumeral : numeral text = some parts) :
    ∃ c rest, c.isDigit = true ∧ (text = c :: rest ∨ text = '-' :: c :: rest) := by
  rcases Option.map_eq_some_iff.mp isNumeral with ⟨⟨digits, left⟩, isInteger, _⟩
  have digitFirst : ∀ unsigned : Str, integerPart unsigned = some (digits, left) →
      ∃ c rest, c.isDigit = true ∧ unsigned = c :: rest := by
    intro unsigned found
    rcases unsigned with _ | ⟨c, rest⟩
    · cases found
    · rw [integerPart] at found
      split_ifs at found with zero digit
      · exact ⟨c, rest, by rw [zero]; rfl, rfl⟩
      · exact ⟨c, rest, digit, rfl⟩
  rcases digitFirst _ isInteger with ⟨c, rest, digit, same⟩
  refine ⟨c, rest, digit, ?_⟩
  unfold signPart at same
  split at same
  · right
    rw [← same]
  · left
    exact same

section Scalars

variable {φ : Type} [FloatText φ]

theorem readScalar_numeral {text : Str} {parts : Str × Str × Str × Str}
    (isNumeral : numeral text = some parts) :
    (readScalar text : Except ReadError (Document φ × Str)) = readNumeral text := by
  have noWord : (words φ).find? (fun word => word.1.isPrefixOf text) = none := by
    rcases numeral_head isNumeral with ⟨c, rest, digit, rfl | rfl⟩
    · have other : ∀ d : Char, d.isDigit = false → (d == c) = false := by
        intro d noDigit
        rw [beq_eq_false_iff_ne]
        rintro rfl
        rw [digit] at noDigit
        cases noDigit
      simp [words, List.isPrefixOf, other 'n' rfl, other 't' rfl, other 'f' rfl, other 'N' rfl,
        other 'I' rfl, other '-' rfl]
    · have other : ('I' == c) = false := by
        rw [beq_eq_false_iff_ne]
        rintro rfl
        cases digit
      simp [words, List.isPrefixOf, other]
  rw [readScalar, noWord]

theorem integerPart_toDigits (n : ℕ) :
    integerPart (Nat.toDigits 10 n) = some (Nat.toDigits 10 n, []) := by
  have digits : ∀ c ∈ Nat.toDigits 10 n, c.isDigit = true :=
    fun c mem => Nat.isDigit_of_mem_toDigits (by decide) (by decide) mem
  have leading : n ≠ 0 → (Nat.toDigits 10 n).head? ≠ some '0' := by
    induction n using Nat.strong_induction_on with
    | _ n ih =>
        intro nonzero
        by_cases single : n < 10
        · rw [Nat.toDigits_of_lt_base single]
          interval_cases n <;> first | exact absurd rfl nonzero | decide
        · have shorter := ih (n / 10) (by omega)
            (fun c mem => Nat.isDigit_of_mem_toDigits (by decide) (by decide) mem) (by omega)
          rw [Nat.toDigits_of_base_le (by decide) (by omega)]
          rcases shape : Nat.toDigits 10 (n / 10) with _ | ⟨c, rest⟩
          · exact absurd shape Nat.toDigits_ne_nil
          · rw [shape] at shorter
            exact shorter
  by_cases zero : n = 0
  · subst zero
    rfl
  · rcases shape : Nat.toDigits 10 n with _ | ⟨c, rest⟩
    · exact absurd shape Nat.toDigits_ne_nil
    · rw [shape] at digits
      have notZero : ¬c = '0' := by
        rintro rfl
        exact leading zero (by rw [shape]; rfl)
      have all : ∀ d ∈ rest, d.isDigit = true := fun d mem => digits d (List.mem_cons_of_mem _ mem)
      have taken : rest.takeWhile Char.isDigit = rest := List.takeWhile_eq_self_iff.mpr all
      have dropped : rest.dropWhile Char.isDigit = [] := List.dropWhile_eq_nil_iff.mpr all
      rw [integerPart, if_neg notZero, if_pos (digits c List.mem_cons_self), spanDigits_eq, taken,
        dropped]

theorem numeral_decDigits (n : ℤ) :
    numeral (decDigits n) =
      some (if n < 0 then ['-'] else [], Nat.toDigits 10 n.natAbs, [], []) := by
  have parts := integerPart_toDigits n.natAbs
  by_cases negative : n < 0
  · simp only [decDigits, if_pos negative, numeral, signPart, parts, Option.map_some]
    rfl
  · have plain : signPart (Nat.toDigits 10 n.natAbs) = ([], Nat.toDigits 10 n.natAbs) := by
      unfold signPart
      split
      · rename_i rest same
        have digit := Nat.isDigit_of_mem_toDigits (b := 10) (n := n.natAbs) (by decide) (by decide)
          (by rw [same]; exact List.mem_cons_self)
        cases digit
      · rfl
    simp only [decDigits, if_neg negative, numeral, plain, parts, Option.map_some]
    rfl

theorem readScalar_int {n : ℤ} {text rest : Str} (written : intStr n = some text)
    (stops : Stops rest) : readScalar (text ++ rest) = .ok ((.int n : Document φ), rest) := by
  unfold intStr at written
  split_ifs at written with short
  cases written
  have isNumeral := numeral_append (numeral_decDigits n) stops
  have length : ¬maxStrDigits < (Nat.toDigits 10 n.natAbs).length :=
    not_lt.mpr ((Nat.length_toDigits_le_iff (by decide) (by decide)).mpr short)
  rw [readScalar_numeral isNumeral, readNumeral, isNumeral]
  simp only [orRaise, Checks.ok_bind, if_pos, refuse_of_fails length, Nat.ofDigitChars_ten_toDigits]
  by_cases negative : n < 0
  · have magnitude : -((n.natAbs : ℕ) : ℤ) = n := by omega
    simp only [if_pos negative, List.cons_ne_nil, if_false, magnitude]
    rfl
  · have magnitude : ((n.natAbs : ℕ) : ℤ) = n := by omega
    simp only [if_neg negative, if_true, magnitude]
    rfl

theorem readNumeral_float {text sign integer tail rest : Str}
    (isNumeral : numeral text = some (sign, integer, tail, rest)) (isFloat : tail ≠ []) :
    readNumeral text =
      .ok ((.float (FloatText.read (sign ++ integer ++ tail)) : Document φ), rest) := by
  rw [readNumeral, isNumeral]
  simp only [orRaise, Checks.ok_bind, if_neg isFloat]
  rfl

theorem readScalar_finite (value : φ) {rest : Str} (stops : Stops rest) :
    readScalar (FloatText.repr value ++ rest) =
      .ok ((.float (.finite value) : Document φ), rest) := by
  rcases FloatText.repr_numeral value with ⟨sign, integer, tail, shape, isFloat, found⟩
  have isNumeral := numeral_append found stops
  rw [readScalar_numeral isNumeral, readNumeral_float isNumeral isFloat, ← shape,
    FloatText.read_repr]

theorem readScalar_number (value : Number φ) {rest : Str} (stops : Stops rest) :
    readScalar (writeNumber value ++ rest) = .ok ((.float value : Document φ), rest) := by
  cases value with
  | finite value => exact readScalar_finite value stops
  | infinity negative =>
      cases negative with
      | false => rfl
      | true => rfl
  | nan => rfl

end Scalars

/-! ### Blanks and heads -/

theorem skipBlanks_blanks {blanks : Str} (all : ∀ c ∈ blanks, isBlank c = true) (text : Str) :
    skipBlanks (blanks ++ text) = skipBlanks text :=
  List.dropWhile_append_of_pos all

theorem skipBlanks_gap (style : Style) (level : ℕ) (text : Str) :
    skipBlanks (gap style level ++ text) = skipBlanks text := by
  apply skipBlanks_blanks
  intro c mem
  unfold gap at mem
  split at mem
  · cases mem
  · rcases List.mem_cons.mp mem with rfl | blank
    · rfl
    · rw [List.eq_of_mem_replicate blank]
      rfl

theorem skipBlanks_replicate (count : ℕ) (text : Str) :
    skipBlanks (List.replicate count ' ' ++ text) = skipBlanks text := by
  apply skipBlanks_blanks
  intro c mem
  rw [List.eq_of_mem_replicate mem]
  rfl

theorem skipBlanks_cons {c : Char} (visible : isBlank c = false) (text : Str) :
    skipBlanks (c :: text) = c :: text :=
  List.dropWhile_cons_of_neg (by simp [visible])

/-- The text of a value begins with something that is neither blank nor a closing bracket. -/
structure Leads (text : Str) : Prop where
  nonempty : text ≠ []
  visible : ∀ c, text.head? = some c → isBlank c = false
  inside : text.head? ≠ some ']'

/-- The head of a value that is neither quoted nor in brackets. -/
structure LeadsScalar (text : Str) : Prop extends Leads text where
  unquoted : text.head? ≠ some '"'
  noObject : text.head? ≠ some (Char.ofNat 123)
  noList : text.head? ≠ some '['

theorem Leads.skipBlanks_append {text : Str} (leads : Leads text) (rest : Str) :
    skipBlanks (text ++ rest) = text ++ rest := by
  rcases text with _ | ⟨c, text⟩
  · exact absurd rfl leads.nonempty
  · exact skipBlanks_cons (leads.visible c rfl) _

theorem Leads.head_append {text : Str} (leads : Leads text) (rest : Str) :
    (text ++ rest).head? = text.head? := by
  rcases text with _ | ⟨c, text⟩
  · exact absurd rfl leads.nonempty
  · rfl

theorem leadsScalar_cons {c : Char} {text : Str} (visible : isBlank c = false) (inside : c ≠ ']')
    (unquoted : c ≠ '"') (noObject : c ≠ Char.ofNat 123) (noList : c ≠ '[') :
    LeadsScalar (c :: text) where
  nonempty := List.cons_ne_nil _ _
  visible := by
    intro d isHead
    rw [← Option.some.inj isHead]
    exact visible
  inside isHead := inside (Option.some.inj isHead)
  unquoted isHead := unquoted (Option.some.inj isHead)
  noObject isHead := noObject (Option.some.inj isHead)
  noList isHead := noList (Option.some.inj isHead)

theorem leadsScalar_numeral {text : Str} {parts : Str × Str × Str × Str}
    (isNumeral : numeral text = some parts) : LeadsScalar text := by
  rcases numeral_head isNumeral with ⟨c, rest, digit, rfl | rfl⟩
  · have other : ∀ d : Char, d.isDigit = false → c ≠ d := by
      rintro d noDigit rfl
      rw [digit] at noDigit
      cases noDigit
    refine leadsScalar_cons ?_ (other _ rfl) (other _ rfl) (other _ rfl) (other _ rfl)
    simp [isBlank, other ' ' rfl, other '\t' rfl, other '\n' rfl, other '\r' rfl]
  · exact leadsScalar_cons rfl (by decide) (by decide) (by decide) (by decide)

/-! ### Documents -/

section Documents

variable {φ : Type} [FloatText φ] {style : Style}

theorem leadsScalar_number (value : Number φ) : LeadsScalar (writeNumber value) := by
  cases value with
  | finite value =>
      rcases FloatText.repr_numeral value with ⟨_, _, _, _, _, found⟩
      exact leadsScalar_numeral found
  | infinity negative =>
      cases negative with
      | false => exact leadsScalar_cons rfl (by decide) (by decide) (by decide) (by decide)
      | true => exact leadsScalar_cons rfl (by decide) (by decide) (by decide) (by decide)
  | nan => exact leadsScalar_cons rfl (by decide) (by decide) (by decide) (by decide)

theorem leads_cons {c : Char} {text : Str} (visible : isBlank c = false) (inside : c ≠ ']') :
    Leads (c :: text) where
  nonempty := List.cons_ne_nil _ _
  visible := by
    intro d isHead
    rw [← Option.some.inj isHead]
    exact visible
  inside isHead := inside (Option.some.inj isHead)

theorem leads_write {level : ℕ} {document : Document φ} {text : Str}
    (written : write style level document = some text) : Leads text := by
  rcases document with _ | value | n | value | quoted | items | members
  · cases written
    exact leads_cons rfl (by decide)
  · cases value with
    | false =>
        cases written
        exact leads_cons rfl (by decide)
    | true =>
        cases written
        exact leads_cons rfl (by decide)
  · rw [write, intStr] at written
    split_ifs at written
    cases written
    exact (leadsScalar_numeral (numeral_decDigits n)).toLeads
  · cases written
    exact (leadsScalar_number value).toLeads
  · rcases quote_eq_cons written with ⟨more, rfl⟩
    exact leads_cons rfl (by decide)
  · rcases items with _ | ⟨item, items⟩
    · cases written
      exact leads_cons rfl (by decide)
    · simp only [write, Option.bind_eq_bind, Option.bind_eq_some_iff] at written
      rcases written with ⟨first, _, others, _, same⟩
      cases same
      exact leads_cons rfl (by decide)
  · rcases members with _ | ⟨⟨key, value⟩, members⟩
    · cases written
      exact leads_cons rfl (by decide)
    · simp only [write, Option.bind_eq_bind, Option.bind_eq_some_iff] at written
      rcases written with ⟨name, _, first, _, others, _, same⟩
      cases same
      exact leads_cons rfl (by decide)

theorem readValue_scalar {text : Str} (leads : LeadsScalar text) (rest : Str) (fuel levels : ℕ) :
    readValue (fuel + 1) levels (text ++ rest) =
      (readScalar (text ++ rest) : Except ReadError (Document φ × Str)) := by
  rw [readValue, leads.head_append, if_neg leads.unquoted, if_neg leads.noObject,
    if_neg leads.noList]

/-- A document is read back wherever it stands, with brackets enough left to open. -/
def Reads (document : Document φ) : Prop :=
  ∀ style level text rest fuel levels, write style level document = some text → Stops rest →
    text.length < fuel → document.depth ≤ levels →
    readValue fuel levels (text ++ rest) = .ok (document, rest)

theorem stops_cons {c : Char} {rest : Str} (noDigit : c.isDigit = false) (noPoint : c ≠ '.')
    (notLower : c ≠ 'e') (notUpper : c ≠ 'E') : Stops (c :: rest) := by
  intro d isHead
  rw [← Option.some.inj isHead]
  exact ⟨noDigit, noPoint, notLower, notUpper⟩

theorem stops_gap {level : ℕ} {c : Char} {rest : Str} (stops : Stops (c :: rest)) :
    Stops (gap style level ++ c :: rest) := by
  unfold gap
  split
  · exact stops
  · exact stops_cons rfl (by decide) (by decide) (by decide)

theorem readItems_write {level levels : ℕ} {items : List (Document φ)} :
    ∀ {item : Document φ} {first others rest : Str} {fuel : ℕ},
      (∀ document ∈ item :: items, Reads document ∧ document.depth ≤ levels) →
      write style (level + 1) item = some first → writeItems style (level + 1) items = some others →
      (first ++ others).length + 1 < fuel →
      readItems fuel levels (first ++ (others ++ (gap style level ++ ']' :: rest))) =
        .ok (item :: items, rest) := by
  induction items with
  | nil =>
      intro item first others rest fuel reads isFirst isOthers enough
      cases isOthers
      cases fuel with
      | zero => exact absurd enough (Nat.not_lt_zero _)
      | succ fuel =>
          have stops : Stops (gap style level ++ ']' :: rest) :=
            stops_gap (stops_cons rfl (by decide) (by decide) (by decide))
          have short : first.length < fuel := by
            rw [List.append_nil] at enough
            omega
          rcases reads item List.mem_cons_self with ⟨read, shallow⟩
          have isItem := read style (level + 1) first (gap style level ++ ']' :: rest) fuel levels
            isFirst stops short shallow
          rw [List.nil_append, readItems, isItem, Checks.ok_bind]
          simp only [skipBlanks_gap, skipBlanks_cons (rfl : isBlank ']' = false)]
          rfl
  | cons next items ih =>
      intro item first others rest fuel reads isFirst isOthers enough
      simp only [writeItems, Option.bind_eq_bind, Option.bind_eq_some_iff] at isOthers
      rcases isOthers with ⟨second, isSecond, remaining, isRemaining, same⟩
      cases same
      cases fuel with
      | zero => exact absurd enough (Nat.not_lt_zero _)
      | succ fuel =>
          simp only [comma, List.length_append, List.length_cons, List.append_assoc,
            List.cons_append] at enough ⊢
          have short : first.length < fuel := by omega
          rcases reads item List.mem_cons_self with ⟨read, shallow⟩
          have isItem := read style (level + 1) first
            (',' :: (List.replicate style.itemSpace ' ' ++ (gap style (level + 1) ++ (second ++
              (remaining ++ (gap style level ++ ']' :: rest)))))) fuel levels isFirst
            (stops_cons rfl (by decide) (by decide) (by decide)) short shallow
          have others := @ih next second remaining rest fuel
            (fun document mem => reads document (List.mem_cons_of_mem _ mem)) isSecond isRemaining
            (by rw [List.length_append]; omega)
          rw [readItems, isItem, Checks.ok_bind]
          simp only [skipBlanks_cons (rfl : isBlank ',' = false), List.head?_cons, List.tail_cons,
            skipBlanks_replicate, skipBlanks_gap, (leads_write isSecond).skipBlanks_append, others]
          rfl

theorem readMembers_write {level levels : ℕ} {members : Members φ} :
    ∀ {key : Text} {value : Document φ} {name first others rest : Str} {fuel : ℕ},
      (∀ member ∈ (key, value) :: members, Reads member.2 ∧ member.2.depth ≤ levels) →
      quote style.ensureAscii key = some name → write style (level + 1) value = some first →
      writeMembers style (level + 1) members = some others →
      (first ++ others).length + 1 < fuel →
      readMembers fuel levels (name ++ (colon style ++ (first ++ (others ++
        (gap style level ++ Char.ofNat 125 :: rest))))) = .ok ((key, value) :: members, rest) := by
  induction members with
  | nil =>
      intro key value name first others rest fuel reads isName isFirst isOthers enough
      cases isOthers
      cases fuel with
      | zero => exact absurd enough (Nat.not_lt_zero _)
      | succ fuel =>
          have stops : Stops (gap style level ++ Char.ofNat 125 :: rest) :=
            stops_gap (stops_cons rfl (by decide) (by decide) (by decide))
          have short : first.length < fuel := by
            rw [List.append_nil] at enough
            omega
          rcases reads _ List.mem_cons_self with ⟨read, shallow⟩
          have isValue := read style (level + 1) first (gap style level ++ Char.ofNat 125 :: rest)
            fuel levels isFirst stops short shallow
          rcases readQuoted_quote isName (colon style ++ (first ++
            (gap style level ++ Char.ofNat 125 :: rest))) with ⟨opened, isKey⟩
          rw [List.nil_append, readMembers, refuse_of_fails (not_not.mpr opened), Checks.ok_bind,
            isKey, Checks.ok_bind]
          simp only [colon, List.cons_append, skipBlanks_cons (rfl : isBlank ':' = false),
            List.head?_cons, List.tail_cons, skipBlanks_replicate,
            (leads_write isFirst).skipBlanks_append, isValue, Checks.ok_bind, skipBlanks_gap,
            skipBlanks_cons (rfl : isBlank (Char.ofNat 125) = false)]
          rfl
  | cons next members ih =>
      intro key value name first others rest fuel reads isName isFirst isOthers enough
      rcases next with ⟨nextKey, nextValue⟩
      simp only [writeMembers, Option.bind_eq_bind, Option.bind_eq_some_iff] at isOthers
      rcases isOthers with ⟨nextName, isNext, second, isSecond, remaining, isRemaining, same⟩
      cases same
      cases fuel with
      | zero => exact absurd enough (Nat.not_lt_zero _)
      | succ fuel =>
          simp only [comma, List.length_append, List.length_cons, List.append_assoc,
            List.cons_append] at enough ⊢
          have short : first.length < fuel := by omega
          rcases reads _ List.mem_cons_self with ⟨read, shallow⟩
          have isValue := read style (level + 1) first
            (',' :: (List.replicate style.itemSpace ' ' ++ (gap style (level + 1) ++
              (nextName ++ (colon style ++ (second ++
                (remaining ++ (gap style level ++ Char.ofNat 125 :: rest)))))))) fuel levels isFirst
            (stops_cons rfl (by decide) (by decide) (by decide)) short shallow
          have others := @ih nextKey nextValue nextName second remaining rest fuel
            (fun member mem => reads member (List.mem_cons_of_mem _ mem)) isNext isSecond isRemaining
            (by rw [List.length_append]; omega)
          have quoted : Leads nextName := by
            rcases quote_eq_cons isNext with ⟨more, rfl⟩
            exact leads_cons rfl (by decide)
          rcases readQuoted_quote isName (colon style ++ (first ++
            (',' :: (List.replicate style.itemSpace ' ' ++ (gap style (level + 1) ++
              (nextName ++ (colon style ++ (second ++
                (remaining ++ (gap style level ++ Char.ofNat 125 :: rest)))))))))) with
            ⟨opened, isKey⟩
          rw [readMembers, refuse_of_fails (not_not.mpr opened), Checks.ok_bind, isKey,
            Checks.ok_bind]
          simp only [colon, List.cons_append, skipBlanks_cons (rfl : isBlank ':' = false),
            List.head?_cons, List.tail_cons, skipBlanks_replicate,
            (leads_write isFirst).skipBlanks_append, ne_eq, not_true_eq_false] at isValue others ⊢
          rw [refuse_of_fails not_false, Checks.ok_bind, isValue, Checks.ok_bind]
          simp only [skipBlanks_cons (rfl : isBlank ',' = false), List.head?_cons, List.tail_cons,
            skipBlanks_replicate, skipBlanks_gap, quoted.skipBlanks_append, others]
          rfl

theorem readValue_list {text inner rest : Str} {items : List (Document φ)} {fuel levels : ℕ}
    (leads : Leads text) (read : readItems fuel levels (text ++ inner) = .ok (items, rest))
    (style : Style) (level : ℕ) :
    readValue (fuel + 1) (levels + 1) ('[' :: (gap style level ++ (text ++ inner))) =
      .ok (.list items, rest) := by
  have notClosed : (skipBlanks (gap style level ++ (text ++ inner))).head? ≠ some ']' := by
    rw [skipBlanks_gap, leads.skipBlanks_append, leads.head_append]
    exact leads.inside
  rw [readValue, List.head?_cons, if_neg (by decide), if_neg (by decide), if_pos rfl, List.tail_cons,
    refuse_of_fails (Nat.succ_ne_zero levels), Checks.ok_bind, if_neg notClosed, skipBlanks_gap,
    leads.skipBlanks_append, Nat.add_sub_cancel, read]
  rfl

theorem readValue_object {text inner rest : Str} {members : Members φ} {fuel levels : ℕ}
    (quoted : text.head? = some '"')
    (read : readMembers fuel levels (text ++ inner) = .ok (members, rest)) (style : Style)
    (level : ℕ) :
    readValue (fuel + 1) (levels + 1) (Char.ofNat 123 :: (gap style level ++ (text ++ inner))) =
      .ok (.object members, rest) := by
  rcases text with _ | ⟨c, text⟩
  · cases quoted
  · cases quoted
    rw [List.cons_append] at read ⊢
    have notClosed :
        (skipBlanks (gap style level ++ '"' :: (text ++ inner))).head? ≠ some (Char.ofNat 125) := by
      rw [skipBlanks_gap, skipBlanks_cons rfl, List.head?_cons]
      decide
    rw [readValue, List.head?_cons, if_neg (by decide), if_pos rfl, List.tail_cons,
      refuse_of_fails (Nat.succ_ne_zero levels), Checks.ok_bind, if_neg notClosed, skipBlanks_gap,
      skipBlanks_cons rfl, Nat.add_sub_cancel, read]
    rfl

/-- Every document is read back. -/
theorem reads_all (document : Document φ) : Reads document := by
  induction document with
  | null =>
      intro style level text rest fuel levels written stops enough shallow
      cases written
      cases fuel with
      | zero => exact absurd enough (Nat.not_lt_zero _)
      | succ fuel => rfl
  | bool value =>
      intro style level text rest fuel levels written stops enough shallow
      cases fuel with
      | zero => exact absurd enough (Nat.not_lt_zero _)
      | succ fuel =>
          cases value with
          | false =>
              cases written
              rfl
          | true =>
              cases written
              rfl
  | int n =>
      intro style level text rest fuel levels written stops enough shallow
      rw [write] at written
      cases fuel with
      | zero => exact absurd enough (Nat.not_lt_zero _)
      | succ fuel =>
          have leads : LeadsScalar text := by
            unfold intStr at written
            split_ifs at written
            cases written
            exact leadsScalar_numeral (numeral_decDigits n)
          rw [readValue_scalar leads, readScalar_int written stops]
  | float value =>
      intro style level text rest fuel levels written stops enough shallow
      cases written
      cases fuel with
      | zero => exact absurd enough (Nat.not_lt_zero _)
      | succ fuel => rw [readValue_scalar (leadsScalar_number value), readScalar_number value stops]
  | str quoted =>
      intro style level text rest fuel levels written stops enough shallow
      cases fuel with
      | zero => exact absurd enough (Nat.not_lt_zero _)
      | succ fuel =>
          rcases readQuoted_quote written rest with ⟨opened, read⟩
          rw [readValue, if_pos opened, read]
          rfl
  | list items ih =>
      intro style level text rest fuel levels written stops enough shallow
      cases fuel with
      | zero => exact absurd enough (Nat.not_lt_zero _)
      | succ fuel =>
          obtain ⟨levels, rfl⟩ : ∃ less, levels = less + 1 :=
            ⟨levels - 1, by rw [depth] at shallow; omega⟩
          rw [depth_list_le_iff] at shallow
          rcases items with _ | ⟨item, items⟩
          · cases written
            rfl
          · simp only [write, Option.bind_eq_bind, Option.bind_eq_some_iff] at written
            rcases written with ⟨first, isFirst, others, isOthers, same⟩
            cases same
            have read := @readItems_write φ _ style level levels items item first others rest fuel
              (fun document mem => ⟨ih document mem, shallow document mem⟩) isFirst isOthers (by
                simp only [List.length_append, List.length_cons] at enough ⊢
                omega)
            have outer := readValue_list (leads_write isFirst) read style (level + 1)
            simpa only [List.append_assoc, List.cons_append, List.nil_append] using outer
  | object members ih =>
      intro style level text rest fuel levels written stops enough shallow
      cases fuel with
      | zero => exact absurd enough (Nat.not_lt_zero _)
      | succ fuel =>
          obtain ⟨levels, rfl⟩ : ∃ less, levels = less + 1 :=
            ⟨levels - 1, by rw [depth] at shallow; omega⟩
          rw [depth_object_le_iff] at shallow
          rcases members with _ | ⟨⟨key, value⟩, members⟩
          · cases written
            rfl
          · simp only [write, Option.bind_eq_bind, Option.bind_eq_some_iff] at written
            rcases written with ⟨name, isName, first, isFirst, others, isOthers, same⟩
            cases same
            have read := @readMembers_write φ _ style level levels members key value name first
              others rest fuel (fun member mem => ⟨ih member mem, shallow member mem⟩) isName
              isFirst isOthers (by
                simp only [List.length_append, List.length_cons] at enough ⊢
                omega)
            have opened : name.head? = some '"' := by
              rcases quote_eq_cons isName with ⟨more, rfl⟩
              rfl
            have outer := readValue_object opened read style (level + 1)
            simpa only [List.append_assoc, List.cons_append, List.nil_append] using outer

/-- A text followed by blanks is read back, when the stack lasts. -/
theorem parse_dumps {document : Document φ} {text blanks : Str} {levels : ℕ}
    (written : dumps style document = some text) (shallow : document.depth ≤ levels)
    (all : ∀ c ∈ blanks, isBlank c = true) : parse levels (text ++ blanks) = .ok document := by
  have stops : Stops blanks := by
    intro c isHead
    have blank := all c (List.mem_of_mem_head? isHead)
    simp only [isBlank, Bool.or_eq_true, decide_eq_true_eq] at blank
    rcases blank with ((rfl | rfl) | rfl) | rfl <;> decide
  have leads := leads_write written
  have enough : text.length < 2 * (text ++ blanks).length + 1 := by
    rw [List.length_append]
    omega
  rw [parse, leads.skipBlanks_append,
    reads_all document style 0 text blanks _ levels written stops enough shallow, Checks.ok_bind]
  have done : skipBlanks blanks = [] := by
    rw [← List.append_nil blanks, skipBlanks_blanks all]
    rfl
  simp only [done]
  rfl

end Documents

end Document

end Python
