import Psv.Document.Basic
import Psv.Interaction.Checks

/-!
# Reading JSON texts

`json.loads`: the scanner walks the text from the left and returns the document
together with what follows it.  Numerals, quoted texts and the brackets are read
as the standard library reads them, which also knows `NaN` and `Infinity`.  Two
escapes that name the halves of a surrogate pair are one character.  Brackets can
be opened inside each other as long as the stack lasts.

The pairs of an object are first collected as they stand and then handed to a
hook: the ordinary one keeps the last value of a key that occurs twice.
-/

namespace Python

open Interaction

namespace Document

/-- Why a text is not read: `JSONDecodeError`, the `ValueError` of an integer with too many digits,
`RecursionError`, or the refusal of a hook. -/
inductive ReadError where
  | malformed
  | longInteger
  | tooDeep
  | refused (key : Text)
  deriving DecidableEq

/-- The white space of JSON. -/
def isBlank (c : Char) : Bool := c = ' ' || c = '\t' || c = '\n' || c = '\r'

def skipBlanks (text : Str) : Str := text.dropWhile isBlank

/-! ### Quoted texts -/

/-- The character behind a backslash that is not followed by `u`. -/
def unescape (c : Char) : Option Char :=
  if c = '"' then some '"'
  else if c = '\\' then some '\\'
  else if c = '/' then some '/'
  else if c = 'b' then some (Char.ofNat 8)
  else if c = 'f' then some (Char.ofNat 12)
  else if c = 'n' then some '\n'
  else if c = 'r' then some '\r'
  else if c = 't' then some '\t'
  else none

/-- Four hexadecimal digits. -/
def codeUnit (text : Str) : Option (ℕ × Str) :=
  if (text.take 4).length = 4 ∧ (text.take 4).all isHexDigit then
    some (hexVal (text.take 4), text.drop 4)
  else none

/-- One code point inside a quoted text; the halves of a pair come one by one. -/
def readChar : Str → Option (Point × Str)
  | [] => none
  | '\\' :: 'u' :: rest => (codeUnit rest).map fun (unit, rest) => (.ofUnit unit, rest)
  | '\\' :: c :: rest => (unescape c).map fun c => (.char c, rest)
  | c :: rest => if c = '\\' ∨ c.toNat < 32 then none else some (.char c, rest)

/-- A quoted text up to its closing quote. -/
def readQuoted : ℕ → Str → Except ReadError (Text × Str)
  | 0, _ => .error .malformed
  | fuel + 1, text =>
      if text.head? = some '"' then .ok (.empty, text.tail)
      else
        match readChar text with
        | none => .error .malformed
        | some (point, rest) => do
            let (others, rest) ← readQuoted fuel rest
            return (.cons point others, rest)

/-! ### Values -/

section Values

variable {φ : Type} [FloatText φ]

/-- A numeral: an integer, or a float when it has a fraction or an exponent. -/
def readNumeral (text : Str) : Except ReadError (Document φ × Str) := do
  let (sign, integer, tail, rest) ← orRaise (numeral text) .malformed
  if tail = [] then do
    refuse (maxStrDigits < integer.length) .longInteger
    let magnitude : ℕ := Nat.ofDigitChars 10 integer 0
    return (.int (if sign = [] then magnitude else -magnitude), rest)
  else
    return (.float (FloatText.read (sign ++ integer ++ tail)), rest)

/-- The words that are values. -/
def words (φ : Type) : List (Str × Document φ) :=
  [("null".toList, .null), ("true".toList, .bool true), ("false".toList, .bool false),
    ("NaN".toList, .float .nan), ("Infinity".toList, .float (.infinity false)),
    ("-Infinity".toList, .float (.infinity true))]

/-- A word or a numeral. -/
def readScalar (text : Str) : Except ReadError (Document φ × Str) :=
  match (words φ).find? fun word => word.1.isPrefixOf text with
  | some (word, value) => .ok (value, text.drop word.length)
  | none => readNumeral text

mutual

/-- The value at the front of a text, and what follows it; `levels` brackets can still be opened. -/
def readValue : ℕ → ℕ → Str → Except ReadError (Document φ × Str)
  | 0, _, _ => .error .malformed
  | fuel + 1, levels, text =>
      if text.head? = some '"' then do
        let (quoted, rest) ← readQuoted text.length text.tail
        return (.str quoted, rest)
      else if text.head? = some (Char.ofNat 123) then do
        refuse (levels = 0) .tooDeep
        if (skipBlanks text.tail).head? = some (Char.ofNat 125) then
          .ok (.object [], (skipBlanks text.tail).tail)
        else do
          let (members, rest) ← readMembers fuel (levels - 1) (skipBlanks text.tail)
          return (.object members, rest)
      else if text.head? = some '[' then do
        refuse (levels = 0) .tooDeep
        if (skipBlanks text.tail).head? = some ']' then
          .ok (.list [], (skipBlanks text.tail).tail)
        else do
          let (items, rest) ← readItems fuel (levels - 1) (skipBlanks text.tail)
          return (.list items, rest)
      else readScalar text

/-- The items of a list from the first one on, and what follows the closing bracket. -/
def readItems : ℕ → ℕ → Str → Except ReadError (List (Document φ) × Str)
  | 0, _, _ => .error .malformed
  | fuel + 1, levels, text => do
      let (item, rest) ← readValue fuel levels text
      if (skipBlanks rest).head? = some ']' then .ok ([item], (skipBlanks rest).tail)
      else if (skipBlanks rest).head? = some ',' then do
        let (items, rest) ← readItems fuel levels (skipBlanks (skipBlanks rest).tail)
        return (item :: items, rest)
      else .error .malformed

/-- The members of an object from the first one on, and what follows the closing brace. -/
def readMembers : ℕ → ℕ → Str → Except ReadError (Members φ × Str)
  | 0, _, _ => .error .malformed
  | fuel + 1, levels, text => do
      refuse (text.head? ≠ some '"') .malformed
      let (key, afterKey) ← readQuoted text.length text.tail
      refuse ((skipBlanks afterKey).head? ≠ some ':') .malformed
      let (value, rest) ← readValue fuel levels (skipBlanks (skipBlanks afterKey).tail)
      if (skipBlanks rest).head? = some (Char.ofNat 125) then
        .ok ([(key, value)], (skipBlanks rest).tail)
      else if (skipBlanks rest).head? = some ',' then do
        let (members, rest) ← readMembers fuel levels (skipBlanks (skipBlanks rest).tail)
        return ((key, value) :: members, rest)
      else .error .malformed

end

/-- The document a text holds, the pairs of its objects as they stand.  A bracket takes two steps of
the fuel, and every step of the reader a character. -/
def parse (levels : ℕ) (text : Str) : Except ReadError (Document φ) := do
  let (document, rest) ← readValue (2 * text.length + 1) levels (skipBlanks text)
  refuse (skipBlanks rest ≠ []) .malformed
  return document

end Values

/-! ### Hooks -/

section Hooks

variable {φ : Type}

/-- What is made of the pairs of an object. -/
abbrev Hook (φ : Type) : Type := Members φ → Except ReadError (Members φ)

/-- `result[key] = value` -/
def setMember (members : Members φ) (key : Text) (value : Document φ) : Members φ :=
  if key ∈ members.map Prod.fst then
    members.map fun member => if member.1 = key then (key, value) else member
  else members ++ [(key, value)]

/-- `dict(pairs)` -/
def dictOf : Hook φ :=
  fun pairs => .ok (pairs.foldl (fun members pair => setMember members pair.1 pair.2) [])

variable (hook : Hook φ)

mutual

/-- The hook on every object of a document, the inner ones first. -/
def rebuild : Document φ → Except ReadError (Document φ)
  | .list items => (rebuildItems items).map .list
  | .object members => do
      let inner ← rebuildMembers members
      (hook inner).map .object
  | .null => .ok .null
  | .bool value => .ok (.bool value)
  | .int value => .ok (.int value)
  | .float value => .ok (.float value)
  | .str text => .ok (.str text)

def rebuildItems : List (Document φ) → Except ReadError (List (Document φ))
  | [] => .ok []
  | item :: items => do
      let first ← rebuild item
      let others ← rebuildItems items
      return first :: others

def rebuildMembers : List (Text × Document φ) → Except ReadError (Members φ)
  | [] => .ok []
  | (key, value) :: members => do
      let first ← rebuild value
      let others ← rebuildMembers members
      return (key, first) :: others

end

variable [FloatText φ]

/-- `json.loads(text, object_pairs_hook=hook)` -/
def loadsWith (levels : ℕ) (text : Str) : Except ReadError (Document φ) := do
  let document ← parse levels text
  rebuild hook document

/-- `json.loads(text)` -/
def loads (levels : ℕ) (text : Str) : Except ReadError (Document φ) := loadsWith dictOf levels text

end Hooks

end Document

end Python
