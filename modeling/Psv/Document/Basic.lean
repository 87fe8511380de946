import Psv.Python.Value
import Mathlib.Data.List.Sort
import Mathlib.Data.List.Nodup
import Mathlib.Data.String.Basic

/-!
# JSON documents and how they are written

A `Document` is what `json.dumps` writes: nested objects and lists over strings,
integers, floats, booleans and `None`.  Floats are kept abstract; the class
`FloatText` says how they are written.  A `Style` collects the options of
`json.dumps` that are in use, except `sort_keys`, which is an operation on the
document.  How deep a document is nested is its `depth`; callers compare it with
what the stack allows for.

An object is a list of members in the order of insertion.  `Keyed` documents,
the ones a dictionary can hold, have no key twice; they are equal as maps when
they agree at every path.
-/

namespace Python

/-- A float that a numeral can denote. -/
inductive Number (φ : Type) where
  | finite (value : φ)
  | infinity (negative : Bool)
  | nan
  deriving DecidableEq

/-- A JSON document over floats `φ`. -/
inductive Document (φ : Type) where
  | null
  | bool (value : Bool)
  | int (value : ℤ)
  | float (value : Number φ)
  | str (text : Text)
  | list (items : List (Document φ))
  | object (members : List (Text × Document φ))

/-- Induction over a document; the parts of a list or an object are known by membership. -/
@[elab_as_elim, induction_eliminator]
theorem Document.induction {φ : Type} {motive : Document φ → Prop} (null : motive .null)
    (bool : ∀ value, motive (.bool value)) (int : ∀ value, motive (.int value))
    (float : ∀ value, motive (.float value)) (str : ∀ text, motive (.str text))
    (list : ∀ items, (∀ item ∈ items, motive item) → motive (.list items))
    (object : ∀ members, (∀ member ∈ members, motive member.2) → motive (.object members)) :
    ∀ document, motive document
  | .null => null
  | .bool value => bool value
  | .int value => int value
  | .float value => float value
  | .str text => str text
  | .list items => list items fun item mem =>
      have : sizeOf item < sizeOf items := List.sizeOf_lt_of_mem mem
      Document.induction null bool int float str list object item
  | .object members => object members fun member mem =>
      have : sizeOf member < sizeOf members := List.sizeOf_lt_of_mem mem
      have : sizeOf member.2 < sizeOf member := by
        rcases member with ⟨key, value⟩
        simp only [Prod.mk.sizeOf_spec]
        omega
      Document.induction null bool int float str list object member.2
termination_by document => sizeOf document
decreasing_by
  all_goals simp only [Document.list.sizeOf_spec, Document.object.sizeOf_spec]
  all_goals omega

/-- The members of an object. -/
abbrev Members (φ : Type) : Type := List (Text × Document φ)

/-- An option of `json.dumps` each: whether everything outside ASCII is escaped, the width of the
indentation, and the blanks behind a comma and a colon. -/
structure Style where
  ensureAscii : Bool
  indent : Option ℕ
  itemSpace : ℕ
  keySpace : ℕ

/-- `json.dumps(value)` -/
def Style.plain : Style := ⟨true, none, 1, 1⟩

/-- `json.dumps(value, separators=(",", ":"))` -/
def Style.compact : Style := ⟨true, none, 0, 0⟩

/-- `json.dumps(value, ensure_ascii=False, separators=(",", ":"))` -/
def Style.unicode : Style := ⟨false, none, 0, 0⟩

/-- `json.dumps(value, indent=2)` -/
def Style.indented : Style := ⟨true, some 2, 0, 1⟩

/-! ### Numerals -/

/-- The longest front of decimal digits, and what follows it. -/
def spanDigits (text : Str) : Str × Str := text.span Char.isDigit

/-- The integer part of a numeral without its sign. -/
def integerPart : Str → Option (Str × Str)
  | [] => none
  | c :: rest =>
      if c = '0' then some (['0'], rest)
      else if c.isDigit then some (c :: (spanDigits rest).1, (spanDigits rest).2)
      else none

/-- A point with digits behind it, if there is one. -/
def fractionPart : Str → Str × Str
  | '.' :: rest =>
      if (spanDigits rest).1 = [] then ([], '.' :: rest)
      else ('.' :: (spanDigits rest).1, (spanDigits rest).2)
  | text => ([], text)

/-- The sign of an exponent. -/
def exponentSign : Str → Str × Str
  | '+' :: rest => (['+'], rest)
  | '-' :: rest => (['-'], rest)
  | text => ([], text)

/-- An exponent, if there is one. -/
def exponentPart : Str → Str × Str
  | [] => ([], [])
  | c :: rest =>
      if (c = 'e' ∨ c = 'E') ∧ (spanDigits (exponentSign rest).2).1 ≠ [] then
        (c :: (exponentSign rest).1 ++ (spanDigits (exponentSign rest).2).1,
          (spanDigits (exponentSign rest).2).2)
      else ([], c :: rest)

/-- The sign of a numeral. -/
def signPart : Str → Str × Str
  | '-' :: rest => (['-'], rest)
  | text => ([], text)

/-- `-?(0|[1-9][0-9]*)(\.[0-9]+)?([eE][+-]?[0-9]+)?` at the front of a text: the sign, the integer
part, the rest of the numeral, and what follows. -/
def numeral (text : Str) : Option (Str × Str × Str × Str) :=
  (integerPart (signPart text).2).map fun (integer, afterInteger) =>
    ((signPart text).1, integer,
      (fractionPart afterInteger).1 ++ (exponentPart (fractionPart afterInteger).2).1,
      (exponentPart (fractionPart afterInteger).2).2)

/-- How finite floats are written and read. -/
class FloatText (φ : Type) where
  /-- `float.__repr__(value)` -/
  repr : φ → Str
  /-- `float(text)` for the text of a numeral -/
  read : Str → Number φ
  /-- `value == n` -/
  equalsInt : φ → ℤ → Bool
  repr_numeral : ∀ value, ∃ sign integer tail, repr value = sign ++ integer ++ tail ∧
    tail ≠ [] ∧ numeral (repr value) = some (sign, integer, tail, [])
  read_repr : ∀ value, read (repr value) = .finite value

/-- A single float; the assumptions about `FloatText` are consistent. -/
@[reducible]
def zeroText : FloatText Unit where
  repr _ := "0.0".toList
  read _ := .finite ()
  equalsInt _ n := n == 0
  repr_numeral _ := ⟨[], ['0'], ['.', '0'], rfl, by decide, by decide⟩
  read_repr _ := rfl

namespace Document

/-! ### Writing -/

/-- A character inside a quoted text. -/
def escapeChar (ensureAscii : Bool) (c : Char) : Str :=
  if c = '"' then ['\\', '"']
  else if c = '\\' then ['\\', '\\']
  else if c = '\n' then ['\\', 'n']
  else if c = '\r' then ['\\', 'r']
  else if c = '\t' then ['\\', 't']
  else if c.toNat = 12 then ['\\', 'f']
  else if c.toNat = 8 then ['\\', 'b']
  else if 32 ≤ c.toNat ∧ (c.toNat < 127 ∨ ensureAscii = false) then [c]
  else if c.toNat < 0x10000 then '\\' :: 'u' :: hexPad 4 c.toNat
  else
    -- a surrogate pair
    '\\' :: 'u' :: hexPad 4 (0xd800 + (c.toNat - 0x10000) / 1024) ++
      '\\' :: 'u' :: hexPad 4 (0xdc00 + (c.toNat - 0x10000) % 1024)

/-- A code point inside a quoted text. -/
def escape (ensureAscii : Bool) : Point → Str
  | .char c => escapeChar ensureAscii c
  | .high bits => '\\' :: 'u' :: hexPad 4 (0xd800 + bits)
  | .low bits => '\\' :: 'u' :: hexPad 4 (0xdc00 + bits)

/-- A quoted text.  Without `ensure_ascii` a half stays as it is, and what is written cannot be
encoded; here there is no such text. -/
def quote (ensureAscii : Bool) (text : Text) : Option Str :=
  if ensureAscii = true ∨ ∀ point ∈ text.points, point.isChar = true then
    some ('"' :: text.points.flatMap (escape ensureAscii) ++ ['"'])
  else none

/-- What stands between a bracket and the first item at some level of nesting. -/
def gap (style : Style) (level : ℕ) : Str :=
  match style.indent with
  | none => []
  | some width => '\n' :: List.replicate (width * level) ' '

/-- What stands between two items. -/
def comma (style : Style) (level : ℕ) : Str :=
  ',' :: List.replicate style.itemSpace ' ' ++ gap style level

/-- What stands between a key and its value. -/
def colon (style : Style) : Str := ':' :: List.replicate style.keySpace ' '

/-- The text of a float. -/
def writeNumber {φ : Type} [FloatText φ] : Number φ → Str
  | .finite value => FloatText.repr value
  | .infinity false => "Infinity".toList
  | .infinity true => "-Infinity".toList
  | .nan => "NaN".toList

section Writing

variable {φ : Type} [FloatText φ]

mutual

/-- The text of a document at some level of nesting, unless an integer is too long or a string has
none. -/
def write (style : Style) (level : ℕ) : Document φ → Option Str
  | .null => some "null".toList
  | .bool true => some "true".toList
  | .bool false => some "false".toList
  | .int value => intStr value
  | .float value => some (writeNumber value)
  | .str text => quote style.ensureAscii text
  | .list [] => some ['[', ']']
  | .list (item :: items) => do
      let first ← write style (level + 1) item
      let others ← writeItems style (level + 1) items
      return '[' :: gap style (level + 1) ++ first ++ others ++ gap style level ++ [']']
  | .object [] => some [Char.ofNat 123, Char.ofNat 125]
  | .object ((key, value) :: members) => do
      let name ← quote style.ensureAscii key
      let first ← write style (level + 1) value
      let others ← writeMembers style (level + 1) members
      return Char.ofNat 123 :: gap style (level + 1) ++ name ++ colon style ++ first ++ others ++
        gap style level ++ [Char.ofNat 125]

/-- The items behind the first one, each with a comma in front. -/
def writeItems (style : Style) (level : ℕ) : List (Document φ) → Option Str
  | [] => some []
  | item :: items => do
      let first ← write style level item
      let others ← writeItems style level items
      return comma style level ++ first ++ others

/-- The members behind the first one, each with a comma in front. -/
def writeMembers (style : Style) (level : ℕ) : List (Text × Document φ) → Option Str
  | [] => some []
  | (key, value) :: members => do
      let name ← quote style.ensureAscii key
      let first ← write style level value
      let others ← writeMembers style level members
      return comma style level ++ name ++ colon style ++ first ++ others

end

/-- `json.dumps(document, …)` -/
def dumps (style : Style) (document : Document φ) : Option Str := write style 0 document

end Writing

/-! ### Keys -/

section Keys

variable {φ : Type}

mutual

/-- No object of the document has a key twice. -/
def Keyed : Document φ → Prop
  | .list items => KeyedItems items
  | .object members => (members.map Prod.fst).Nodup ∧ KeyedMembers members
  | _ => True

def KeyedItems : List (Document φ) → Prop
  | [] => True
  | item :: items => Keyed item ∧ KeyedItems items

def KeyedMembers : List (Text × Document φ) → Prop
  | [] => True
  | (_, value) :: members => Keyed value ∧ KeyedMembers members

end

/-- The members of an object in the order of their keys. -/
def orderMembers (members : Members φ) : Members φ :=
  members.mergeSort fun left right => decide (left.1 ≤ right.1)

mutual

/-- What `sort_keys=True` writes in place of a document. -/
def sortKeys : Document φ → Document φ
  | .list items => .list (sortItems items)
  | .object members => .object (orderMembers (sortMembers members))
  | .null => .null
  | .bool value => .bool value
  | .int value => .int value
  | .float value => .float value
  | .str text => .str text

def sortItems : List (Document φ) → List (Document φ)
  | [] => []
  | item :: items => sortKeys item :: sortItems items

def sortMembers : List (Text × Document φ) → Members φ
  | [] => []
  | (key, value) :: members => (key, sortKeys value) :: sortMembers members

end

/-- One step into a document. -/
inductive Step where
  | key (name : Text)
  | index (position : ℕ)
  deriving DecidableEq

/-- What a document is apart from its parts. -/
inductive Shape (φ : Type) where
  | null
  | bool (value : Bool)
  | int (value : ℤ)
  | float (value : Number φ)
  | str (text : Text)
  | list
  | object

def shape : Document φ → Shape φ
  | .null => .null
  | .bool value => .bool value
  | .int value => .int value
  | .float value => .float value
  | .str text => .str text
  | .list _ => .list
  | .object _ => .object

/-- The part one step away. -/
def part : Document φ → Step → Option (Document φ)
  | .list items, .index position => items[position]?
  | .object members, .key name => members.lookup name
  | _, _ => none

/-- What stands at a path. -/
def shapeAt : Document φ → List Step → Option (Shape φ)
  | document, [] => some document.shape
  | document, step :: path => (document.part step).bind fun inner => inner.shapeAt path

/-! ### Depth -/

mutual

/-- How many lists and objects are inside each other. -/
def depth : Document φ → ℕ
  | .list items => depthItems items + 1
  | .object members => depthMembers members + 1
  | _ => 0

def depthItems : List (Document φ) → ℕ
  | [] => 0
  | item :: items => max (depth item) (depthItems items)

def depthMembers : List (Text × Document φ) → ℕ
  | [] => 0
  | (_, value) :: members => max (depth value) (depthMembers members)

end

theorem depthItems_le_iff {items : List (Document φ)} {levels : ℕ} :
    depthItems items ≤ levels ↔ ∀ item ∈ items, item.depth ≤ levels := by
  induction items with
  | nil => simp [depthItems]
  | cons item items ih => simp [depthItems, ih]

theorem depthMembers_le_iff {members : Members φ} {levels : ℕ} :
    depthMembers members ≤ levels ↔ ∀ member ∈ members, member.2.depth ≤ levels := by
  induction members with
  | nil => simp [depthMembers]
  | cons member members ih =>
      rcases member with ⟨key, value⟩
      simp [depthMembers, ih]

theorem depth_list_le_iff {items : List (Document φ)} {levels : ℕ} :
    (Document.list items).depth ≤ levels + 1 ↔ ∀ item ∈ items, item.depth ≤ levels := by
  rw [depth, Nat.add_le_add_iff_right, depthItems_le_iff]

theorem depth_object_le_iff {members : Members φ} {levels : ℕ} :
    (Document.object members).depth ≤ levels + 1 ↔
      ∀ member ∈ members, member.2.depth ≤ levels := by
  rw [depth, Nat.add_le_add_iff_right, depthMembers_le_iff]

end Keys

end Document

end Python
