import Psv.Python.Text

/-!
# Python values and text operations

The values a JSON document or an argument can hold, and the built-in text
operations that decode them.  The operations follow CPython also where it is
lenient: `int` strips white space and accepts a sign, a prefix, underscores
and decimal digits of every script; `bytes.fromhex` skips ASCII white space
between bytes.

What depends on tables or algorithms outside this development is gathered in
the class `Interpreter`: the Unicode database beyond ASCII, `repr`, SHA-256 and the
depth of the stack.  Its proof fields state the documented facts that are used.
-/

namespace Python

/-- A finite float is a dyadic rational; the rest are the special values. -/
inductive Float64 where
  | finite (mantissa exponent : ℤ)
  | inf (negative : Bool)
  | nan
  deriving DecidableEq

/-- A dictionary key: a string, or a key of some other type. -/
inductive Key where
  | str (name : String)
  | other (typeName : String)
  deriving DecidableEq

/-- A Python value as far as JSON documents and arguments reach; `other` stands
for an object of any further type. -/
inductive Value where
  | null
  | bool (value : Bool)
  | int (value : ℤ)
  | float (value : Float64)
  | str (value : Str)
  | list (items : List Value)
  | dict (fields : List (Key × Value))
  | other (typeName : String)

/-- The items of a dictionary, keys being unique; lookups see the first one. -/
abbrev Fields : Type := List (Key × Value)

/-- `fields.get(name)` -/
def getField (fields : Fields) (name : String) : Value :=
  (fields.lookup (Key.str name)).getD .null

/-- `name in fields` -/
def hasField (fields : Fields) (name : String) : Bool :=
  (fields.lookup (Key.str name)).isSome

namespace Value

/-- `type(value).__name__` -/
def typeName : Value → String
  | .null => "NoneType"
  | .bool _ => "bool"
  | .int _ => "int"
  | .float _ => "float"
  | .str _ => "str"
  | .list _ => "list"
  | .dict _ => "dict"
  | .other name => name

/-- `value == texts` for a list of strings. -/
def isTexts (value : Value) (texts : List Str) : Bool :=
  match value with
  | .list items => go items texts
  | _ => false
where
  go : List Value → List Str → Bool
    | [], [] => true
    | .str item :: items, text :: texts => item == text && go items texts
    | _, _ => false

theorem isTexts_iff {value : Value} {texts : List Str} :
    value.isTexts texts = true ↔ value = .list (texts.map .str) := by
  have items : ∀ (items : List Value) (texts : List Str),
      isTexts.go items texts = true ↔ items = texts.map .str := by
    intro items texts
    fun_induction isTexts.go items texts with
    | case1 => simp
    | case2 item items text texts ih => simp [ih]
    | case3 items texts notNil notCons =>
        simp only [Bool.false_eq_true, false_iff]
        intro equal
        rcases texts with _ | ⟨text, texts⟩
        · exact notNil (by simpa using equal) rfl
        · exact notCons _ _ _ _ (by simpa using equal) rfl
  cases value <;> simp [isTexts, items]

end Value

/-- ASCII white space as C's `isspace` sees it. -/
def isAsciiSpace (c : Char) : Bool :=
  [' ', '\t', '\n', '\r', Char.ofNat 11, Char.ofNat 12].contains c

/-- The interpreter's tables and algorithms that are not written out here. -/
class Interpreter where
  /-- `repr(value)` -/
  repr : Value → String
  /-- `repr(text)` -/
  reprText : Text → Str
  /-- The lower-case mapping of a character outside ASCII. -/
  lowerChar : Char → Str
  /-- The value of a decimal digit outside ASCII. -/
  decimal : Char → Option ℕ
  /-- White space outside ASCII. -/
  isSpace : Char → Bool
  /-- `hashlib.sha256(data).hexdigest()` -/
  sha256 : List UInt8 → Str
  /-- The number of brackets inside each other that `json.loads` can open; one more is a
  `RecursionError`. -/
  readLevels : ℕ
  /-- The same for the `json.dumps` of a checksum, which is called from deeper in the program. -/
  hashLevels : ℕ
  /-- The same for `json.dumps` with an indentation. -/
  indentLevels : ℕ
  repr_list : ∀ items, ∃ rest, (repr (.list items)).toList = '[' :: rest
  repr_dict : ∀ fields, ∃ rest, (repr (.dict fields)).toList = Char.ofNat 123 :: rest
  repr_float : ∀ x, 'x' ∉ (repr (.float x)).toList
  /-- No character outside ASCII has a lower-case form that is empty or holds a
  hexadecimal digit or an `x` (only `i` and `k` arise, from U+0130 and U+212A). -/
  lowerChar_ne_nil : ∀ c, lowerChar c ≠ []
  lowerChar_notHex : ∀ c, 128 ≤ c.toNat → ∀ d ∈ lowerChar c, isHexDigit d = false ∧ d ≠ 'x'
  decimal_lt : ∀ c d, decimal c = some d → d < 10
  sha256_length : ∀ data, (sha256 data).length = 64
  sha256_lower : ∀ data, ∀ c ∈ sha256 data, isHexDigit c = true ∧ c.toLower = c
  hashLevels_le : hashLevels ≤ readLevels
  /-- The stack is not used up from the start. -/
  le_hashLevels : 8 ≤ hashLevels
  le_indentLevels : 8 ≤ indentLevels

theorem isHexDigit_eq_false {c : Char} (foreign : 128 ≤ c.toNat) : isHexDigit c = false := by
  by_contra digit
  have small := isAscii_of_isHexDigit (by simpa using digit : isHexDigit c = true)
  omega

/-- An interpreter whose tables end with ASCII and whose digests are listed; the
assumptions about `Interpreter` are consistent. -/
@[reducible]
def asciiInterpreter (digests : List (List UInt8 × ℕ)) : Interpreter where
  repr
    | .list _ => "[...]"
    | .dict _ => String.ofList [Char.ofNat 123, Char.ofNat 125]
    | _ => "..."
  reprText _ := "...".toList
  lowerChar c := [c]
  decimal _ := none
  isSpace _ := false
  sha256 data := hexPad 64 ((digests.lookup data).getD 0)
  readLevels := 900
  hashLevels := 900
  indentLevels := 900
  repr_list _ := ⟨"...]".toList, show "[...]".toList = _ by decide⟩
  repr_dict _ := ⟨[Char.ofNat 125],
    show (String.ofList [Char.ofNat 123, Char.ofNat 125]).toList = _ by decide⟩
  repr_float _ := show 'x' ∉ "...".toList by decide
  lowerChar_ne_nil _ := by simp
  lowerChar_notHex := by
    intro c foreign d mem
    obtain rfl := List.mem_singleton.mp mem
    refine ⟨isHexDigit_eq_false foreign, ?_⟩
    rintro rfl
    exact absurd foreign (by decide)
  decimal_lt := by simp
  sha256_length _ := length_hexPad _ _
  sha256_lower := by
    intro data c mem
    exact ⟨isHexDigit_of_mem_hexPad mem, toLower_of_mem_hexPad mem⟩
  hashLevels_le := le_refl _
  le_hashLevels := by decide
  le_indentLevels := by decide

/-- `bytes.fromhex(text)`, or nothing when it raises `ValueError`. -/
def fromHex : Str → Option (List UInt8)
  | [] => some []
  | [c] => if isAsciiSpace c then some [] else none
  | c :: d :: rest =>
      if isAsciiSpace c then fromHex (d :: rest)
      else if isHexDigit c && isHexDigit d then
        (fromHex rest).map (UInt8.ofNat (16 * hexDigitVal c + hexDigitVal d) :: ·)
      else none

/-- The two digits of every byte. -/
def bytesHex (data : List UInt8) : Str := data.flatMap fun byte => hexPad 2 byte.toNat

/-- The longest integer, in decimal digits, that converts to or from text. -/
def maxStrDigits : ℕ := 4300

/-- The decimal text of a number. -/
def decDigits (n : ℤ) : Str :=
  if n < 0 then '-' :: Nat.toDigits 10 n.natAbs else Nat.toDigits 10 n.natAbs

/-- `str(n)`, or nothing when the number has too many digits to be converted. -/
def intStr (n : ℤ) : Option Str :=
  if n.natAbs < 10 ^ maxStrDigits then some (decDigits n) else none

section Text

variable [Interpreter]

/-- `text.lower()` -/
def lower (text : Str) : Str :=
  text.flatMap fun c => if c.toNat < 128 then [c.toLower] else Interpreter.lowerChar c

/-- White space for `str.strip`. -/
def isSpace (c : Char) : Bool :=
  isAsciiSpace c || (28 ≤ c.toNat && c.toNat ≤ 31) || (128 ≤ c.toNat && Interpreter.isSpace c)

/-- `text.strip()` -/
def stripText (text : Str) : Str := ((text.dropWhile isSpace).reverse.dropWhile isSpace).reverse

/-- How `int` reads a character: foreign digits and spaces become ASCII ones. -/
def numeralChar (c : Char) : Char :=
  if c.toNat < 128 then c
  else if Interpreter.isSpace c then ' '
  else match Interpreter.decimal c with
    | some d => hexDigit d
    | none => '?'

/-- `text.removeprefix("0x")` -/
def removePrefix0x : Str → Str
  | '0' :: 'x' :: rest => rest
  | text => text

/-- Digits of a base with single underscores between them.  The flag says that a
digit must come next. -/
def readDigits (base : ℕ) (value : ℕ) (digitDue : Bool) : Str → Option ℕ
  | [] => if digitDue then none else some value
  | '_' :: rest => if digitDue then none else readDigits base value true rest
  | c :: rest =>
      if isHexDigit c && decide (hexDigitVal c < base) then
        readDigits base (value * base + hexDigitVal c) false rest
      else none

/-- White space removed at both ends. -/
def strip (text : Str) : Str :=
  ((text.dropWhile isAsciiSpace).reverse.dropWhile isAsciiSpace).reverse

/-- The sign of a numeral and what follows it. -/
def splitSign : Str → Bool × Str
  | '-' :: rest => (true, rest)
  | '+' :: rest => (false, rest)
  | text => (false, text)

/-- The digits of a base-16 numeral behind an optional prefix. -/
def dropBasePrefix : Str → Str
  | '0' :: 'x' :: '_' :: rest => rest
  | '0' :: 'X' :: '_' :: rest => rest
  | '0' :: 'x' :: rest => rest
  | '0' :: 'X' :: rest => rest
  | text => text

/-- `int(text, 16)`, or nothing when it raises `ValueError`. -/
def int16 (text : Str) : Option ℤ :=
  let (negative, digits) := splitSign (strip (text.map numeralChar))
  (readDigits 16 0 true (dropBasePrefix digits)).map fun n => if negative then -n else n

/-- `int(text)`, or nothing when it raises `ValueError`. -/
def int10 (text : Str) : Option ℤ :=
  let (negative, digits) := splitSign (strip (text.map numeralChar))
  if (digits.filter (· ≠ '_')).length ≤ maxStrDigits then
    (readDigits 10 0 true digits).map fun n => if negative then -n else n
  else none

/-- `str(value)`, or nothing when a number is too long to be converted. -/
def pyStr : Value → Option Str
  | .null => some "None".toList
  | .bool true => some "True".toList
  | .bool false => some "False".toList
  | .int n => intStr n
  | .str text => some text
  | value => some (Interpreter.repr value).toList

end Text

/-! ### Strict text among what the lenient operations accept -/

theorem lower_eq_map [Interpreter] {text : Str} (ascii : ∀ c ∈ text, c.toNat < 128) :
    lower text = text.map Char.toLower := by
  induction text with
  | nil => rfl
  | cons c rest ih =>
      have head : c.toNat < 128 := ascii c (by simp)
      have tail := ih fun d mem => ascii d (by simp [mem])
      simp only [lower] at tail
      simp [lower, head, tail]

theorem lower_prefixed [Interpreter] {rest : Str} (all : rest.all isHexDigit = true) :
    lower ('0' :: 'x' :: rest) = '0' :: 'x' :: rest.map Char.toLower := by
  rw [lower_eq_map]
  · rfl
  · intro c mem
    simp only [List.mem_cons] at mem
    rcases mem with rfl | rfl | mem
    · decide
    · decide
    · exact isAscii_of_isHexDigit (List.all_eq_true.mp all c mem)

theorem lower_exactHex [Interpreter] {digits : ℕ} {text : Str}
    (shape : isExactHex digits text = true) : lower text = text.map Char.toLower := by
  obtain ⟨rest, rfl, _, all⟩ := isExactHex_iff.mp shape
  rw [lower_prefixed all]
  rfl

theorem isExactHex_lower [Interpreter] {digits : ℕ} {text : Str}
    (shape : isExactHex digits text = true) : isExactHex digits (lower text) = true := by
  obtain ⟨rest, rfl, length, all⟩ := isExactHex_iff.mp shape
  rw [lower_prefixed all]
  refine isExactHex_iff.mpr ⟨_, rfl, by simpa using length, ?_⟩
  simp only [List.all_map, List.all_eq_true] at all ⊢
  exact fun c mem => isHexDigit_toLower (all c mem)

theorem lower_lower_exactHex [Interpreter] {digits : ℕ} {text : Str}
    (shape : isExactHex digits text = true) : lower (lower text) = lower text := by
  obtain ⟨rest, rfl, _, all⟩ := isExactHex_iff.mp shape
  have allLower : (rest.map Char.toLower).all isHexDigit = true := by
    simp only [List.all_map, List.all_eq_true] at all ⊢
    exact fun c mem => isHexDigit_toLower (all c mem)
  have again : (rest.map Char.toLower).map Char.toLower = rest.map Char.toLower := by
    rw [map_toLower_eq_hexPad all, map_toLower_hexPad]
  rw [lower_prefixed all, lower_prefixed allLower, again]

/-- The normal form of fixed-size text is determined by the number it denotes. -/
theorem lower_eq_hexPad [Interpreter] {digits : ℕ} {text : Str}
    (shape : isExactHex digits text = true) :
    lower text = '0' :: 'x' :: hexPad digits (hexVal (text.drop 2)) := by
  obtain ⟨rest, rfl, rfl, all⟩ := isExactHex_iff.mp shape
  rw [lower_prefixed all, map_toLower_eq_hexPad all]
  rfl

theorem lower_drop_eq_hexPad [Interpreter] {digits : ℕ} {text : Str}
    (shape : isExactHex digits text = true) :
    lower (text.drop 2) = hexPad digits (hexVal (text.drop 2)) := by
  obtain ⟨rest, rfl, rfl, all⟩ := isExactHex_iff.mp shape
  have ascii : ∀ c ∈ rest, c.toNat < 128 :=
    fun c mem => isAscii_of_isHexDigit (List.all_eq_true.mp all c mem)
  simp only [List.drop_succ_cons, List.drop_zero]
  rw [lower_eq_map ascii, map_toLower_eq_hexPad all]

/-- Digit pairs without white space are read byte by byte, in any letter case. -/
theorem fromHex_of_map_toLower_eq {text : Str} {data : List UInt8}
    (all : text.all isHexDigit = true) (spelled : text.map Char.toLower = bytesHex data) :
    fromHex text = some data := by
  induction data generalizing text with
  | nil =>
      obtain rfl : text = [] := by simpa [bytesHex] using spelled
      rfl
  | cons byte data ih =>
      have shape : bytesHex (byte :: data) =
          hexDigit (byte.toNat / 16) :: hexDigit (byte.toNat % 16) :: bytesHex data := by
        have small : byte.toNat / 16 < 16 := by have := byte.toNat_lt; omega
        simp [bytesHex, hexPad, Nat.mod_eq_of_lt small]
      rw [shape] at spelled
      rcases text with _ | ⟨c, _ | ⟨d, text⟩⟩
      · simp at spelled
      · simp at spelled
      · simp only [List.all_cons, Bool.and_eq_true] at all
        simp only [List.map_cons, List.cons.injEq] at spelled
        obtain ⟨high, low, rest⟩ := spelled
        have highVal : hexDigitVal c = byte.toNat / 16 := by
          rw [← hexDigitVal_toLower all.1, high,
            hexDigitVal_hexDigit (by have := byte.toNat_lt; omega)]
        have lowVal : hexDigitVal d = byte.toNat % 16 := by
          rw [← hexDigitVal_toLower all.2.1, low, hexDigitVal_hexDigit (Nat.mod_lt _ (by norm_num))]
        have notSpace : isAsciiSpace c = false := by
          have digits : ∀ e ∈ hexDigits, isAsciiSpace e = false := by decide
          exact digits c (isHexDigit_iff.mp all.1)
        have whole : 16 * (byte.toNat / 16) + byte.toNat % 16 = byte.toNat := by omega
        rw [fromHex, notSpace, all.1, all.2.1, ih all.2.2 rest, highVal, lowVal, whole]
        simp

theorem isSome_fromHex {text : Str} (all : text.all isHexDigit = true)
    (even : text.length % 2 = 0) : (fromHex text).isSome = true := by
  fun_induction fromHex text with
  | case1 => rfl
  | case2 c => simp at even
  | case3 c notSpace => simp at even
  | case4 c d rest space ih =>
      have digits : ∀ e ∈ hexDigits, isAsciiSpace e = false := by decide
      simp only [List.all_cons, Bool.and_eq_true] at all
      rw [digits c (isHexDigit_iff.mp all.1)] at space
      exact absurd space (by simp)
  | case5 c d rest notSpace digits ih =>
      simp only [List.all_cons, Bool.and_eq_true] at all
      simpa using ih all.2.2 (by simp only [List.length_cons] at even; omega)
  | case6 c d rest notSpace notDigits =>
      simp only [List.all_cons, Bool.and_eq_true] at all
      exact absurd (by simp [all]) notDigits

theorem readDigits_hex {digits : Str} (value : ℕ) (all : digits.all isHexDigit = true) :
    readDigits 16 value false digits = some (digits.foldl (fun v c => v * 16 + hexDigitVal c) value)
      := by
  induction digits generalizing value with
  | nil => rfl
  | cons c rest ih =>
      simp only [List.all_cons, Bool.and_eq_true] at all
      have small := hexDigitVal_lt all.1
      have notUnderscore : c ≠ '_' := by
        rintro rfl
        exact absurd all.1 (by decide)
      rw [readDigits]
      · simp [all.1, small, ih _ all.2]
      · exact notUnderscore

theorem strip_of_noSpace {text : Str} (noSpace : ∀ c ∈ text, isAsciiSpace c = false) :
    strip text = text := by
  have kept : ∀ t : Str, (∀ c ∈ t, isAsciiSpace c = false) → t.dropWhile isAsciiSpace = t := by
    intro t free
    rcases t with _ | ⟨c, t⟩
    · rfl
    · simp [List.dropWhile, free c (by simp)]
  rw [strip, kept text noSpace, kept text.reverse (by simpa using noSpace), List.reverse_reverse]

section Numerals

variable [Interpreter]

theorem map_numeralChar {digits : Str} (ascii : ∀ c ∈ digits, c.toNat < 128) :
    digits.map numeralChar = digits := by
  have same : digits.map numeralChar = digits.map id :=
    List.map_congr_left fun c mem => by simp [numeralChar, ascii c mem]
  simpa using same

/-- `int(text, 16)` on plain digits, with or without the prefix, is their value. -/
theorem int16_digits {digits : Str} (nonempty : digits ≠ []) (all : digits.all isHexDigit = true) :
    int16 digits = some (hexVal digits : ℤ) ∧
      int16 ('0' :: 'x' :: digits) = some (hexVal digits : ℤ) := by
  have isDigit : ∀ c ∈ digits, isHexDigit c = true := List.all_eq_true.mp all
  have noSpace : ∀ c ∈ hexDigits, isAsciiSpace c = false := by decide
  have read : readDigits 16 0 true digits = some (hexVal digits) := by
    rcases digits with _ | ⟨c, rest⟩
    · exact absurd rfl nonempty
    · simp only [List.all_cons, Bool.and_eq_true] at all
      have small := hexDigitVal_lt all.1
      have notUnderscore : c ≠ '_' := by
        rintro rfl
        exact absurd all.1 (by decide)
      rw [readDigits]
      · simp [all.1, small, readDigits_hex _ all.2, hexVal]
      · exact notUnderscore
  have noSign : ∀ rest : Str, rest ≠ [] → (∀ c ∈ rest, isHexDigit c = true) →
      splitSign rest = (false, rest) := by
    intro rest _ digit
    unfold splitSign
    split
    · exact absurd (digit '-' (by simp)) (by decide)
    · exact absurd (digit '+' (by simp)) (by decide)
    · rfl
  have noPrefix : dropBasePrefix digits = digits := by
    unfold dropBasePrefix
    split
    · exact absurd (isDigit 'x' (by simp)) (by decide)
    · exact absurd (isDigit 'X' (by simp)) (by decide)
    · exact absurd (isDigit 'x' (by simp)) (by decide)
    · exact absurd (isDigit 'X' (by simp)) (by decide)
    · rfl
  have withPrefix : dropBasePrefix ('0' :: 'x' :: digits) = digits := by
    rcases digits with _ | ⟨c, rest⟩
    · exact absurd rfl nonempty
    · have notUnderscore : c ≠ '_' := by
        rintro rfl
        exact absurd (isDigit '_' (by simp)) (by decide)
      unfold dropBasePrefix
      split
      · simp_all
      · simp_all
      · simp_all
      · simp_all
      · simp_all
  have plainSpace : ∀ c ∈ digits, isAsciiSpace c = false :=
    fun c mem => noSpace c (isHexDigit_iff.mp (isDigit c mem))
  constructor
  · rw [int16, map_numeralChar fun c mem => isAscii_of_isHexDigit (isDigit c mem),
      strip_of_noSpace plainSpace, noSign digits nonempty isDigit]
    simp [noPrefix, read]
  · have prefixedAscii : ∀ c ∈ '0' :: 'x' :: digits, c.toNat < 128 := by
      intro c mem
      simp only [List.mem_cons] at mem
      rcases mem with rfl | rfl | mem
      · decide
      · decide
      · exact isAscii_of_isHexDigit (isDigit c mem)
    have prefixedSpace : ∀ c ∈ '0' :: 'x' :: digits, isAsciiSpace c = false := by
      intro c mem
      simp only [List.mem_cons] at mem
      rcases mem with rfl | rfl | mem
      · decide
      · decide
      · exact plainSpace c mem
    rw [int16, map_numeralChar prefixedAscii, strip_of_noSpace prefixedSpace]
    simp [splitSign, withPrefix, read]

end Numerals

end Python
