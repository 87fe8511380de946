import Psv.Python.Value

/-!
# Writing JSON documents

`json.dumps(document, indent=2, sort_keys=True)` for documents of nested objects
over strings, integers, booleans and `None`.  Such a document always has a text,
except that an integer with too many decimal digits cannot be converted
(`isSome_dumps_iff`).
-/

namespace Python

/-- A document without lists and floats. -/
inductive Json where
  | null
  | bool (value : Bool)
  | int (value : ℤ)
  | str (value : Str)
  | object (members : List (String × Json))

namespace Json

/-- A character inside a quoted text; everything outside printable ASCII is escaped. -/
def escapeChar (c : Char) : Str :=
  if c = '"' then ['\\', '"']
  else if c = '\\' then ['\\', '\\']
  else if c = '\n' then ['\\', 'n']
  else if c = '\r' then ['\\', 'r']
  else if c = '\t' then ['\\', 't']
  else if c.toNat = 12 then ['\\', 'f']
  else if c.toNat = 8 then ['\\', 'b']
  else if 32 ≤ c.toNat ∧ c.toNat < 127 then [c]
  else if c.toNat < 0x10000 then '\\' :: 'u' :: hexPad 4 c.toNat
  else
    -- a surrogate pair
    let rest := c.toNat - 0x10000
    '\\' :: 'u' :: hexPad 4 (0xd800 + rest / 1024) ++
      '\\' :: 'u' :: hexPad 4 (0xdc00 + rest % 1024)

def quoted (text : Str) : Str := '"' :: text.flatMap escapeChar ++ ['"']

/-- A line break and the indentation of a level. -/
def newline (level : ℕ) : Str := '\n' :: List.replicate (2 * level) ' '

/-- The members of an object, in the order of their keys. -/
def joinMembers (level : ℕ) (members : List (String × Str)) : Str :=
  let sorted := members.mergeSort fun left right => decide (left.1 ≤ right.1)
  let lines := sorted.map fun member => quoted member.1.toList ++ [':', ' '] ++ member.2
  '{' :: newline (level + 1) ++ List.intercalate (',' :: newline (level + 1)) lines ++
    newline level ++ ['}']

mutual

/-- The text of a document at some level of nesting, unless an integer is too long. -/
def dumps (level : ℕ) : Json → Option Str
  | .null => some "null".toList
  | .bool value => some (if value then "true".toList else "false".toList)
  | .int value => intStr value
  | .str value => some (quoted value)
  | .object [] => some ['{', '}']
  | .object (member :: members) =>
      (dumpsMembers (level + 1) (member :: members)).map (joinMembers level)

def dumpsMembers (level : ℕ) : List (String × Json) → Option (List (String × Str))
  | [] => some []
  | (key, value) :: members =>
      (dumps level value).bind fun text =>
        (dumpsMembers level members).map fun others => (key, text) :: others

end

mutual

/-- The integers of a document. -/
def ints : Json → List ℤ
  | .int value => [value]
  | .object members => intsMembers members
  | _ => []

def intsMembers : List (String × Json) → List ℤ
  | [] => []
  | (_, value) :: members => ints value ++ intsMembers members

end

mutual

/-- A document has a text exactly when each of its integers can be converted. -/
theorem isSome_dumps_iff (level : ℕ) :
    ∀ document : Json, (dumps level document).isSome ↔
      ∀ n ∈ ints document, n.natAbs < 10 ^ maxStrDigits
  | .null => by simp [dumps, ints]
  | .bool value => by simp [dumps, ints]
  | .int value => by
      by_cases short : value.natAbs < 10 ^ maxStrDigits <;> simp [dumps, ints, intStr, short]
  | .str value => by simp [dumps, ints]
  | .object [] => by simp [dumps, ints, intsMembers]
  | .object (member :: members) => by
      rw [dumps, ints, Option.isSome_map]
      exact isSome_dumpsMembers_iff (level + 1) (member :: members)

theorem isSome_dumpsMembers_iff (level : ℕ) :
    ∀ members : List (String × Json), (dumpsMembers level members).isSome ↔
      ∀ n ∈ intsMembers members, n.natAbs < 10 ^ maxStrDigits
  | [] => by simp [dumpsMembers, intsMembers]
  | (key, value) :: members => by
      have first := isSome_dumps_iff level value
      have rest := isSome_dumpsMembers_iff level members
      rw [dumpsMembers, intsMembers]
      simp only [List.mem_append, or_imp, forall_and, ← first, ← rest]
      rcases dumps level value with _ | text <;> rcases dumpsMembers level members with _ | others
      all_goals simp

end

end Json

end Python
