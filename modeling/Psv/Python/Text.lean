import Psv.Python.Hex
import Mathlib.Data.List.Chain

/-!
# Strings with surrogates

A Python string is a sequence of code points, and a surrogate is one as well: an
escape of a JSON text can name one by itself, and a file name can hold one.
`Points` are all such sequences.  A `Text` has no high half right in front of a
low half; these are the strings that JSON can carry, since two such escapes in a
row are read as the one character they stand for.
-/

namespace Python

/-- A code point: a character, or one half of a surrogate pair. -/
inductive Point where
  | char (c : Char)
  | high (bits : Fin 1024)
  | low (bits : Fin 1024)
  deriving DecidableEq

/-- Any string of Python. -/
abbrev Points : Type := List Point

namespace Point

instance : Coe Char Point := ⟨char⟩

/-- `ord(point)` -/
def toNat : Point → ℕ
  | char c => c.toNat
  | high bits => 0xd800 + bits
  | low bits => 0xdc00 + bits

def isChar : Point → Bool
  | char _ => true
  | _ => false

def toChar? : Point → Option Char
  | char c => some c
  | _ => none

/-- The code point that four hexadecimal digits name. -/
def ofUnit (unit : ℕ) : Point :=
  if 0xd800 ≤ unit ∧ unit < 0xdc00 then high (Fin.ofNat 1024 (unit - 0xd800))
  else if 0xdc00 ≤ unit ∧ unit < 0xe000 then low (Fin.ofNat 1024 (unit - 0xdc00))
  else char (Char.ofNat unit)

/-- A high half and a low half: together they are a character. -/
def Pair : Point → Point → Prop
  | high _, low _ => True
  | _, _ => False

instance : DecidableRel Pair := fun first second =>
  match first, second with
  | high _, low _ => inferInstanceAs (Decidable True)
  | char _, _ | low _, _ | high _, char _ | high _, high _ => inferInstanceAs (Decidable False)

/-- A code point in front of others, to which it may be joined. -/
def joinTo (point : Point) (points : Points) : Points :=
  match point, points with
  | high upper, low lower :: rest =>
      char (Char.ofNat (0x10000 + upper * 1024 + lower)) :: rest
  | point, points => point :: points

variable {point : Point} {points : Points}

theorem joinTo_of_apart (apart : ∀ next ∈ points.head?, ¬point.Pair next) :
    point.joinTo points = point :: points := by
  unfold joinTo
  split
  · exact absurd trivial (apart _ rfl)
  · rfl

theorem isChain_joinTo (chain : points.IsChain fun first second => ¬first.Pair second) :
    (point.joinTo points).IsChain fun first second => ¬first.Pair second := by
  unfold joinTo
  split
  · exact List.isChain_cons.mpr ⟨fun _ _ => not_false, chain.of_cons⟩
  · rename_i alone
    refine List.isChain_cons.mpr ⟨?_, chain⟩
    intro next isNext pair
    rcases points with _ | ⟨head, rest⟩
    · cases isNext
    · cases isNext
      cases point with
      | high upper =>
          cases next with
          | low lower => exact alone upper lower rest rfl rfl
          | char c => exact pair
          | high bits => exact pair
      | char c => exact pair
      | low bits => exact pair

end Point

/-- The characters of a string without halves. -/
def charsOf (points : Points) : Option Str := points.mapM Point.toChar?

@[simp]
theorem charsOf_map (text : Str) : charsOf (text.map .char) = some text := by
  induction text with
  | nil => rfl
  | cons c text ih =>
      rw [charsOf] at ih
      rw [List.map_cons, charsOf, List.mapM_cons, ih]
      rfl

/-- A string whose halves stand alone. -/
structure Text where
  points : Points
  joined : points.IsChain fun first second => ¬first.Pair second
  deriving DecidableEq

namespace Text

@[ext]
theorem ext {text other : Text} (same : text.points = other.points) : text = other := by
  cases text
  cases other
  cases same
  rfl

def empty : Text := ⟨[], .nil⟩

/-- A code point in front of a text. -/
def cons (point : Point) (text : Text) : Text :=
  ⟨point.joinTo text.points, Point.isChain_joinTo text.joined⟩

/-- The text that code points make. -/
def ofPoints (points : Points) : Text := points.foldr cons empty

instance : Append Text := ⟨fun text other => text.points.foldr cons other⟩

/-- A text without halves. -/
def ofStr (text : Str) : Text where
  points := text.map .char
  joined := by
    induction text with
    | nil => exact .nil
    | cons c text ih => exact List.isChain_cons.mpr ⟨fun _ _ => not_false, ih⟩

/-- The order of Python's strings, which `sort_keys` follows. -/
instance : LE Text := ⟨fun text other => text.points.map Point.toNat ≤ other.points.map Point.toNat⟩

instance : DecidableLE Text := fun text other =>
  inferInstanceAs (Decidable (text.points.map Point.toNat ≤ other.points.map Point.toNat))

@[simp]
theorem points_ofStr (text : Str) : (ofStr text).points = text.map .char := rfl

theorem ofStr_injective : Function.Injective ofStr := by
  intro text other same
  have points : text.map Point.char = other.map Point.char := congrArg Text.points same
  exact List.map_injective_iff.mpr (fun _ _ => Point.char.inj) points

/-- A code point that is not joined to what follows. -/
theorem cons_of_chain {point : Point} {points : Points}
    (chain : (point :: points).IsChain fun first second => ¬first.Pair second) :
    cons point ⟨points, chain.of_cons⟩ = ⟨point :: points, chain⟩ :=
  ext (Point.joinTo_of_apart (List.isChain_cons.mp chain).1)

theorem ofPoints_of_chain {points : Points}
    (chain : points.IsChain fun first second => ¬first.Pair second) :
    ofPoints points = ⟨points, chain⟩ := by
  induction points with
  | nil => rfl
  | cons point points ih =>
      exact (congrArg (cons point) (ih chain.of_cons)).trans (cons_of_chain chain)

theorem ofPoints_map (text : Str) : ofPoints (text.map .char) = ofStr text :=
  ofPoints_of_chain (ofStr text).joined

end Text

end Python

/-- The code points of a literal. -/
def String.toPoints (literal : String) : Python.Points := literal.toList.map .char

/-- A literal as a text. -/
def String.toText (literal : String) : Python.Text := .ofStr literal.toList
