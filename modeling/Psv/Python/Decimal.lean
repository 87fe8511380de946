import Psv.Python.Value
import Mathlib.Algebra.Ring.Int.Parity
import Mathlib.Algebra.Order.Field.Rat
import Mathlib.Tactic.FieldSimp

/-!
# Decimal numbers from text

`Decimal(text)` for a text: the sign, the digits of the coefficient and the
exponent are taken over exactly, or the text is refused.  A literal is given by
its parts and denotes a rational number; every literal whose exponent is in the
supported range is read as the number it denotes.
-/

namespace Python

/-- What `Decimal` makes of a text: the parts that `as_tuple` shows, or a special value. -/
inductive Decimal where
  | finite (negative : Bool) (digits : Str) (exponent : ℤ)
  | infinite
  | nan
  deriving DecidableEq

namespace Decimal

/-- The largest adjusted exponent. -/
def maxEmax : ℤ := 999999999999999999

/-- The smallest exponent of a subnormal number. -/
def minEtiny : ℤ := -1999999999999999997

/-- The number that decimal digits denote. -/
def digitsVal (digits : Str) : ℕ := Nat.ofDigitChars 10 digits 0

/-- The digits of a coefficient, which has no leading zeros. -/
def significant (digits : Str) : Str :=
  match digits.dropWhile (· == '0') with
  | [] => ['0']
  | rest => rest

/-- The number with given digits and exponent can be taken over exactly. -/
def Supported (digits : Str) (exponent : ℤ) : Prop :=
  exponent + digits.length - 1 ≤ maxEmax ∧ minEtiny ≤ exponent

instance (digits : Str) (exponent : ℤ) : Decidable (Supported digits exponent) :=
  inferInstanceAs (Decidable (_ ∧ _))

/-- `E[-+]?\d+`, or nothing at all. -/
def exponentOf : Str → Option ℤ
  | [] => some 0
  | c :: rest =>
      let (negative, digits) := splitSign rest
      if (c = 'e' ∨ c = 'E') ∧ digits ≠ [] ∧ digits.all Char.isDigit = true then
        some (if negative then -digitsVal digits else digitsVal digits)
      else none

/-- The digits after a point, and what follows them. -/
def fractionOf : Str → Str × Str
  | '.' :: rest => (rest.takeWhile Char.isDigit, rest.dropWhile Char.isDigit)
  | rest => ([], rest)

/-- `(\d+(\.\d*)?|\.\d+)(E[-+]?\d+)?` -/
def numberOf (negative : Bool) (text : Str) : Option Decimal :=
  let whole := text.takeWhile Char.isDigit
  let (fraction, rest) := fractionOf (text.dropWhile Char.isDigit)
  if whole = [] ∧ fraction = [] then none
  else (exponentOf rest).bind fun exponent =>
    if Supported (significant (whole ++ fraction)) (exponent - fraction.length) then
      some (.finite negative (significant (whole ++ fraction)) (exponent - fraction.length))
    else none

/-- `Inf(inity)?|s?NaN\d*` -/
def specialOf (text : Str) : Option Decimal :=
  let letters := text.map Char.toLower
  if letters = "inf".toList ∨ letters = "infinity".toList then some .infinite
  else
    let payload := if letters.head? = some 's' then letters.tail else letters
    if payload.take 3 = "nan".toList ∧ (payload.drop 3).all Char.isDigit = true then some .nan
    else none

variable [Interpreter]

/-- The text without surrounding white space and underscores, in ASCII. -/
def asciiText (text : Str) : Str := ((stripText text).filter (· ≠ '_')).map numeralChar

/-- `Decimal(text)`, or nothing when it raises `InvalidOperation`. -/
def ofText (text : Str) : Option Decimal :=
  let (negative, body) := splitSign (asciiText text)
  (specialOf body).or (numberOf negative body)

end Decimal

/-! ### Literals -/

/-- A sign that is written out. -/
inductive Sign where
  | plus
  | minus

def Sign.char : Sign → Char
  | plus => '+'
  | minus => '-'

/-- Whether a number with an optional sign is a negative one. -/
def isMinus : Option Sign → Bool
  | some .minus => true
  | _ => false

def signText (sign : Option Sign) : Str := (sign.map Sign.char).toList

/-- The exponent of a literal. -/
structure ExponentPart where
  capital : Bool
  sign : Option Sign
  digits : Str
  nonempty : digits ≠ []
  isDigit : ∀ c ∈ digits, c.isDigit = true

/-- A decimal literal, given by its parts. -/
structure Literal where
  sign : Option Sign
  whole : Str
  fraction : Option Str
  exponent : Option ExponentPart
  wholeDigits : ∀ c ∈ whole, c.isDigit = true
  fractionDigits : ∀ digits ∈ fraction, ∀ c ∈ digits, c.isDigit = true
  nonempty : whole ≠ [] ∨ fraction.getD [] ≠ []

namespace ExponentPart

def text (part : ExponentPart) : Str :=
  (if part.capital then 'E' else 'e') :: (signText part.sign ++ part.digits)

def value (part : ExponentPart) : ℤ :=
  if isMinus part.sign then -Decimal.digitsVal part.digits else Decimal.digitsVal part.digits

end ExponentPart

namespace Literal

open Decimal

/-- The literal as it is written. -/
def text (literal : Literal) : Str :=
  signText literal.sign ++ (literal.whole ++
    ((literal.fraction.elim [] fun digits => '.' :: digits) ++
      literal.exponent.elim [] ExponentPart.text))

/-- The digits on both sides of the point. -/
def digits (literal : Literal) : Str := literal.whole ++ literal.fraction.getD []

/-- The exponent of the last digit. -/
def scale (literal : Literal) : ℤ :=
  literal.exponent.elim 0 ExponentPart.value - (literal.fraction.getD []).length

/-- The rational number that the literal denotes. -/
def value (literal : Literal) : ℚ :=
  (if isMinus literal.sign then -1 else 1) * digitsVal literal.digits * 10 ^ literal.scale

/-- The exponent is in the range that `Decimal` supports. -/
def InRange (literal : Literal) : Prop := Supported (significant literal.digits) literal.scale

end Literal

/-! ### Characters of a literal -/

/-- A character of a decimal literal. -/
def IsLiteralChar (c : Char) : Prop := c.isDigit = true ∨ c ∈ ['+', '-', '.', 'e', 'E']

theorem mem_of_isDigit {c : Char} (digit : c.isDigit = true) :
    c ∈ ['0', '1', '2', '3', '4', '5', '6', '7', '8', '9'] := by
  have bounds : 48 ≤ c.toNat ∧ c.toNat ≤ 57 := by
    simp only [Char.isDigit, ge_iff_le, Bool.and_eq_true, decide_eq_true_eq] at digit
    exact digit
  rw [← Char.ofNat_toNat c]
  generalize c.toNat = code at bounds
  rcases bounds with ⟨low, high⟩
  interval_cases code <;> decide

section Characters

variable [Interpreter]

theorem literalChar_plain {c : Char} (isChar : IsLiteralChar c) :
    isSpace c = false ∧ c ≠ '_' ∧ numeralChar c = c := by
  have all : ∀ d ∈ ['0', '1', '2', '3', '4', '5', '6', '7', '8', '9', '+', '-', '.', 'e', 'E'],
      isAsciiSpace d = false ∧ ¬(28 ≤ d.toNat ∧ d.toNat ≤ 31) ∧ d.toNat < 128 ∧ d ≠ '_' := by
    decide
  have member : c ∈ ['0', '1', '2', '3', '4', '5', '6', '7', '8', '9', '+', '-', '.', 'e', 'E'] := by
    rcases isChar with digit | mark
    · exact List.mem_append_left _ (mem_of_isDigit digit)
    · exact List.mem_append_right ['0', '1', '2', '3', '4', '5', '6', '7', '8', '9'] mark
  rcases all c member with ⟨noSpace, noSeparator, ascii, noUnderscore⟩
  refine ⟨?_, noUnderscore, if_pos ascii⟩
  rw [isSpace, noSpace]
  simp only [Bool.false_or, Bool.or_eq_false_iff, Bool.and_eq_false_iff, decide_eq_false_iff_not]
  omega

theorem stripText_eq {text : Str} (free : ∀ c ∈ text, isSpace c = false) :
    stripText text = text := by
  have kept : ∀ t : Str, (∀ c ∈ t, isSpace c = false) → t.dropWhile isSpace = t := by
    intro t none
    cases t with
    | nil => rfl
    | cons c t => rw [List.dropWhile, none c List.mem_cons_self]
  have reversed : ∀ c ∈ text.reverse, isSpace c = false :=
    fun c mem => free c (List.mem_reverse.mp mem)
  rw [stripText, kept text free, kept _ reversed, List.reverse_reverse]

theorem asciiText_eq {text : Str} (plain : ∀ c ∈ text, IsLiteralChar c) :
    Decimal.asciiText text = text := by
  have kept : text.filter (· ≠ '_') = text := by
    apply List.filter_eq_self.mpr
    intro c mem
    exact decide_eq_true (literalChar_plain (plain c mem)).2.1
  have mapped : text.map numeralChar = text := by
    conv_rhs => rw [← List.map_id text]
    exact List.map_congr_left fun c mem => (literalChar_plain (plain c mem)).2.2
  rw [Decimal.asciiText, stripText_eq fun c mem => (literalChar_plain (plain c mem)).1, kept,
    mapped]

end Characters

/-! ### Reading a literal -/

theorem splitSign_signText (sign : Option Sign) {c : Char} (rest : Str)
    (noPlus : c ≠ '+') (noMinus : c ≠ '-') :
    splitSign (signText sign ++ c :: rest) = (isMinus sign, c :: rest) := by
  cases sign with
  | none =>
    have unsigned : splitSign (c :: rest) = (false, c :: rest) := by
      unfold splitSign
      split
      · rename_i same
        exact absurd (List.cons.inj same).1 noMinus
      · rename_i same
        exact absurd (List.cons.inj same).1 noPlus
      · rfl
    exact unsigned
  | some sign =>
    cases sign with
    | plus => rfl
    | minus => rfl

theorem isDigit_ne {c d : Char} (digit : c.isDigit = true) (noDigit : d.isDigit = false) :
    c ≠ d := by
  intro same
  rw [same, noDigit] at digit
  cases digit

namespace ExponentPart

theorem read (part : ExponentPart) : Decimal.exponentOf part.text = some part.value := by
  have nonempty := part.nonempty
  have digits := part.isDigit
  have all : part.digits.all Char.isDigit = true := List.all_eq_true.mpr digits
  have split : splitSign (signText part.sign ++ part.digits) = (isMinus part.sign, part.digits) := by
    cases shape : part.digits with
    | nil => exact absurd shape nonempty
    | cons c rest =>
      have first : c.isDigit = true := digits c (shape ▸ List.mem_cons_self)
      exact splitSign_signText _ _ (isDigit_ne first rfl) (isDigit_ne first rfl)
  have letter : ∀ capital : Bool, (if capital then 'E' else 'e') = 'e' ∨
      (if capital then 'E' else 'e') = 'E' := by
    decide
  rw [text, Decimal.exponentOf, split]
  exact if_pos ⟨letter part.capital, nonempty, all⟩

end ExponentPart

namespace Literal

open Decimal

/-- The literal without its sign. -/
def body (literal : Literal) : Str :=
  literal.whole ++ ((literal.fraction.elim [] fun digits => '.' :: digits) ++
    literal.exponent.elim [] ExponentPart.text)

theorem body_head (literal : Literal) :
    ∃ c rest, literal.body = c :: rest ∧ (c.isDigit = true ∨ c = '.') := by
  cases whole : literal.whole with
  | cons c rest =>
    rw [body, whole]
    exact ⟨c, _, rfl, .inl (literal.wholeDigits c (whole ▸ List.mem_cons_self))⟩
  | nil =>
    cases fraction : literal.fraction with
    | none =>
      have nonempty := literal.nonempty
      rw [whole, fraction] at nonempty
      simp at nonempty
    | some digits =>
      rw [body, whole, fraction]
      exact ⟨'.', _, rfl, .inr rfl⟩

/-- What follows the digits of a literal does not go on with a digit. -/
def Stops (text : Str) : Prop := ∀ c ∈ text.head?, c.isDigit = false

theorem span_append {digits rest : Str} (all : ∀ c ∈ digits, c.isDigit = true)
    (stops : Stops rest) :
    (digits ++ rest).takeWhile Char.isDigit = digits ∧
      (digits ++ rest).dropWhile Char.isDigit = rest := by
  have first : rest.takeWhile Char.isDigit = [] ∧ rest.dropWhile Char.isDigit = rest := by
    cases rest with
    | nil => exact ⟨rfl, rfl⟩
    | cons c rest =>
      have noDigit : c.isDigit = false := stops c rfl
      rw [List.takeWhile, List.dropWhile, noDigit]
      exact ⟨rfl, rfl⟩
  rw [List.takeWhile_append_of_pos all, List.dropWhile_append_of_pos all, first.1, first.2,
    List.append_nil]
  exact ⟨rfl, rfl⟩

/-- The exponent as it is written. -/
def exponentText (literal : Literal) : Str := literal.exponent.elim [] ExponentPart.text

theorem exponentText_head (literal : Literal) :
    ∀ c ∈ literal.exponentText.head?, c = 'e' ∨ c = 'E' := by
  intro c mem
  rw [exponentText] at mem
  cases shape : literal.exponent with
  | none =>
    rw [shape] at mem
    cases mem
  | some part =>
    rw [shape] at mem
    cases mem
    cases part.capital with
    | false => exact .inl rfl
    | true => exact .inr rfl

theorem stops_exponentText (literal : Literal) : Stops literal.exponentText := by
  intro c mem
  rcases literal.exponentText_head c mem with rfl | rfl
  · rfl
  · rfl

theorem exponentOf_exponentText (literal : Literal) :
    exponentOf literal.exponentText = some (literal.exponent.elim 0 ExponentPart.value) := by
  rw [exponentText]
  cases literal.exponent with
  | none => rfl
  | some part => exact part.read

/-- The part after the whole digits is read as the fraction and the exponent. -/
theorem fractionOf_tail (literal : Literal) :
    fractionOf ((literal.fraction.elim [] fun digits => '.' :: digits) ++ literal.exponentText) =
      (literal.fraction.getD [], literal.exponentText) := by
  cases shape : literal.fraction with
  | none =>
    have noPoint : ∀ rest, literal.exponentText ≠ '.' :: rest := by
      intro rest same
      have head := literal.exponentText_head '.'
      rw [same] at head
      rcases head rfl with impossible | impossible
      · cases impossible
      · cases impossible
    change fractionOf literal.exponentText = ([], literal.exponentText)
    unfold fractionOf
    split
    · rename_i rest same
      exact absurd same (noPoint rest)
    · rfl
  | some digits =>
    rcases span_append (literal.fractionDigits digits shape) literal.stops_exponentText with
      ⟨taken, dropped⟩
    exact Prod.ext taken dropped

theorem stops_tail (literal : Literal) :
    Stops ((literal.fraction.elim [] fun digits => '.' :: digits) ++ literal.exponentText) := by
  cases literal.fraction with
  | none => exact literal.stops_exponentText
  | some digits =>
    intro c mem
    cases mem
    rfl

theorem numberOf_body (literal : Literal) (inRange : literal.InRange) (negative : Bool) :
    numberOf negative literal.body =
      some (.finite negative (significant literal.digits) literal.scale) := by
  rcases span_append literal.wholeDigits literal.stops_tail with ⟨taken, dropped⟩
  have nonempty : ¬(literal.whole = [] ∧ literal.fraction.getD [] = []) := by
    rcases literal.nonempty with whole | fraction
    · exact fun both => whole both.1
    · exact fun both => fraction both.2
  change numberOf negative (literal.whole ++ (_ ++ literal.exponentText)) = _
  simp only [numberOf, taken, dropped, fractionOf_tail, if_neg nonempty, exponentOf_exponentText,
    Option.bind_some]
  exact if_pos inRange

theorem specialOf_body (literal : Literal) : specialOf literal.body = none := by
  rcases literal.body_head with ⟨c, rest, same, head⟩
  have lower : c.toLower ∉ ['i', 's', 'n'] := by
    rcases head with digit | point
    · have all : ∀ d ∈ ['0', '1', '2', '3', '4', '5', '6', '7', '8', '9'],
          d.toLower ∉ ['i', 's', 'n'] := by
        decide
      exact all c (mem_of_isDigit digit)
    · rw [point]
      decide
  simp only [List.mem_cons, List.not_mem_nil, or_false, not_or] at lower
  rcases lower with ⟨notI, notS, notN⟩
  rw [same, specialOf]
  simp [notI, notS, notN]

theorem literalChar_text (literal : Literal) : ∀ c ∈ literal.text, IsLiteralChar c := by
  have signs : ∀ sign, ∀ c ∈ signText sign, IsLiteralChar c := by
    intro sign c mem
    right
    cases sign with
    | none => cases mem
    | some sign =>
      cases sign with
      | plus =>
        rcases List.mem_singleton.mp mem with rfl
        decide
      | minus =>
        rcases List.mem_singleton.mp mem with rfl
        decide
  intro c mem
  rw [text, List.mem_append, List.mem_append, List.mem_append] at mem
  rcases mem with sign | whole | fraction | exponent
  · exact signs _ c sign
  · exact .inl (literal.wholeDigits c whole)
  · cases shape : literal.fraction with
    | none =>
      rw [shape] at fraction
      cases fraction
    | some digits =>
      rw [shape] at fraction
      rcases List.mem_cons.mp fraction with rfl | inside
      · right
        decide
      · exact .inl (literal.fractionDigits digits shape c inside)
  · cases shape : literal.exponent with
    | none =>
      rw [shape] at exponent
      cases exponent
    | some part =>
      rw [shape] at exponent
      rcases List.mem_cons.mp exponent with rfl | inside
      · right
        cases part.capital with
        | false => decide
        | true => decide
      · rcases List.mem_append.mp inside with sign | digits
        · exact signs _ c sign
        · exact .inl (part.isDigit c digits)

/-- A literal is read as the number it denotes. -/
theorem ofText_text [Interpreter] (literal : Literal) (inRange : literal.InRange) :
    ofText literal.text =
      some (.finite (isMinus literal.sign) (significant literal.digits) literal.scale) := by
  have split : splitSign literal.text = (isMinus literal.sign, literal.body) := by
    rcases literal.body_head with ⟨c, rest, same, head⟩
    change splitSign (signText literal.sign ++ literal.body) = _
    rw [same]
    rcases head with digit | point
    · exact splitSign_signText _ _ (isDigit_ne digit rfl) (isDigit_ne digit rfl)
    · rw [point]
      exact splitSign_signText _ _ (by decide) (by decide)
  rw [ofText, asciiText_eq literal.literalChar_text, split]
  change (specialOf literal.body).or (numberOf (isMinus literal.sign) literal.body) = _
  rw [specialOf_body, numberOf_body literal inRange, Option.none_or]

/-- The literal that an integer is shown as. -/
def ofInt (n : ℤ) : Literal where
  sign := if n < 0 then some .minus else none
  whole := Nat.toDigits 10 n.natAbs
  fraction := none
  exponent := none
  wholeDigits _ mem := Nat.isDigit_of_mem_toDigits (by decide) (by decide) mem
  fractionDigits _ mem := by cases mem
  nonempty := .inl Nat.toDigits_ne_nil

theorem text_ofInt (n : ℤ) : (ofInt n).text = decDigits n := by
  rw [text, ofInt, decDigits]
  split_ifs
  · exact congrArg ('-' :: ·) (List.append_nil _)
  · exact List.append_nil _

theorem value_ofInt (n : ℤ) : (ofInt n).value = n := by
  have digits : digitsVal (ofInt n).digits = n.natAbs := by
    rw [Literal.digits, ofInt]
    exact (congrArg digitsVal (List.append_nil _)).trans Nat.ofDigitChars_ten_toDigits
  have scale : (ofInt n).scale = 0 := rfl
  rw [value, digits, scale, zpow_zero, mul_one, ofInt]
  by_cases negative : n < 0
  · have magnitude : (n : ℚ) = -(n.natAbs : ℚ) := by
      have integer : n = -(n.natAbs : ℤ) := by omega
      exact_mod_cast integer
    rw [if_pos negative, magnitude]
    exact neg_one_mul _
  · have magnitude : (n : ℚ) = (n.natAbs : ℚ) := by
      have integer : n = (n.natAbs : ℤ) := by omega
      exact (congrArg Int.cast integer).trans (Int.cast_natCast _)
    rw [if_neg negative, magnitude]
    exact one_mul _

end Literal

/-! ### Significant digits -/

namespace Decimal

theorem digitsVal_dropZeros (digits : Str) :
    digitsVal (digits.dropWhile (· == '0')) = digitsVal digits := by
  induction digits with
  | nil => rfl
  | cons c rest ih =>
    by_cases zero : c = '0'
    · rw [zero]
      exact ih
    · rw [List.dropWhile_cons_of_neg (by rw [beq_iff_eq]; exact zero)]

theorem digitsVal_significant (digits : Str) :
    digitsVal (significant digits) = digitsVal digits := by
  rw [← digitsVal_dropZeros digits, significant]
  split
  · rename_i same
    rw [same]
    rfl
  · rfl

theorem length_significant_le (digits : Str) :
    (significant digits).length ≤ max 1 digits.length := by
  have shorter := (List.dropWhile_suffix (l := digits) (· == '0')).length_le
  rw [significant]
  split
  · exact le_max_left _ _
  · exact le_max_of_le_right shorter

end Decimal

end Python
