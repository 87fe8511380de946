import Psv.Document.Reading

/-!
# Texts as bytes

`text.encode()`, `bytes.decode` in the encodings that `json.loads` detects by
itself, and the two operations on whole files of text that are in use:
translating line ends and splitting into lines.
-/

namespace Python

/-- A byte string. -/
abbrev Bytes : Type := List UInt8

/-- `text.encode("utf-8")` -/
def utf8 (text : Str) : Bytes := text.flatMap String.utf8EncodeChar

/-- `data.decode("utf-8")`, unless the bytes are no text. -/
def decodeUtf8 (data : Bytes) : Option Str := data.toByteArray.utf8Decode?.map Array.toList

/-- Code units of two bytes. -/
def pairs (bigEndian : Bool) : Bytes → Option (List ℕ)
  | [] => some []
  | a :: b :: rest =>
      (pairs bigEndian rest).map fun others =>
        (if bigEndian then a.toNat * 256 + b.toNat else b.toNat * 256 + a.toNat) :: others
  | _ => none

/-- Characters from code units of two bytes. -/
def fromUtf16 : List ℕ → Option Str
  | [] => some []
  | high :: rest =>
      if 0xd800 ≤ high ∧ high < 0xdc00 then
        match rest with
        | [] => none
        | low :: rest =>
            if 0xdc00 ≤ low ∧ low < 0xe000 then
              (fromUtf16 rest).map
                (Char.ofNat (0x10000 + (high - 0xd800) * 1024 + (low - 0xdc00)) :: ·)
            else none
      else if 0xdc00 ≤ high ∧ high < 0xe000 then none
      else (fromUtf16 rest).map (Char.ofNat high :: ·)

/-- Characters from pairs of code units that make four bytes. -/
def fromUtf32 (bigEndian : Bool) : List ℕ → Option Str
  | [] => some []
  | a :: b :: rest =>
      let code := if bigEndian then a * 0x10000 + b else b * 0x10000 + a
      if code.isValidChar then (fromUtf32 bigEndian rest).map (Char.ofNat code :: ·) else none
  | _ => none

/-- The encodings a JSON text can have. -/
inductive Encoding where
  | utf8
  | utf8Signed
  | utf16 (bigEndian signed : Bool)
  | utf32 (bigEndian signed : Bool)
  deriving DecidableEq

/-- `json.detect_encoding`: by the byte order mark, else by the zeros among the first bytes. -/
def detectEncoding (data : Bytes) : Encoding :=
  match data with
  | 0x00 :: 0x00 :: 0xfe :: 0xff :: _ => .utf32 true true
  | 0xff :: 0xfe :: 0x00 :: 0x00 :: _ => .utf32 false true
  | 0xfe :: 0xff :: _ => .utf16 true true
  | 0xff :: 0xfe :: _ => .utf16 false true
  | 0xef :: 0xbb :: 0xbf :: _ => .utf8Signed
  | a :: b :: c :: d :: _ =>
      if a = 0 then (if b ≠ 0 then .utf16 true false else .utf32 true false)
      else if b = 0 then (if c ≠ 0 ∨ d ≠ 0 then .utf16 false false else .utf32 false false)
      else .utf8
  | [a, b] => if a = 0 then .utf16 true false else if b = 0 then .utf16 false false else .utf8
  | _ => .utf8

/-- `data.decode(json.detect_encoding(data))` -/
def decodeJsonBytes (data : Bytes) : Option Str :=
  match detectEncoding data with
  | .utf8 => decodeUtf8 data
  | .utf8Signed => decodeUtf8 (data.drop 3)
  | .utf16 bigEndian signed =>
      (pairs bigEndian (data.drop (if signed then 2 else 0))).bind fromUtf16
  | .utf32 bigEndian signed =>
      (pairs bigEndian (data.drop (if signed then 4 else 0))).bind (fromUtf32 bigEndian)

/-- What reading a file in text mode makes of its line ends. -/
def universalNewlines : Str → Str
  | '\r' :: '\n' :: rest => '\n' :: universalNewlines rest
  | '\r' :: rest => '\n' :: universalNewlines rest
  | c :: rest => c :: universalNewlines rest
  | [] => []

/-- The characters `str.splitlines` breaks at. -/
def isLineBreak (c : Char) : Bool :=
  [0x0a, 0x0b, 0x0c, 0x0d, 0x1c, 0x1d, 0x1e, 0x85, 0x2028, 0x2029].contains c.toNat

/-- `text.splitlines()`; a carriage return and a line feed together are one break. -/
def splitLines (text : Str) : List Str :=
  go [] text
where
  go (line : Str) : Str → List Str
    | [] => if line = [] then [] else [line.reverse]
    | '\r' :: '\n' :: rest => line.reverse :: go [] rest
    | c :: rest => if isLineBreak c then line.reverse :: go [] rest else go (c :: line) rest

/-! ### UTF-8 -/

theorem decodeUtf8_utf8 (text : Str) : decodeUtf8 (utf8 text) = some text := by
  have bytes : (utf8 text).toByteArray = text.utf8Encode := rfl
  rw [decodeUtf8, bytes, List.utf8Decode?_utf8Encode]
  simp

theorem utf8_injective : Function.Injective utf8 := by
  intro text other same
  have decoded := decodeUtf8_utf8 text
  rw [same, decodeUtf8_utf8] at decoded
  exact (Option.some.inj decoded).symm

theorem utf8_append (text other : Str) : utf8 (text ++ other) = utf8 text ++ utf8 other :=
  List.flatMap_append

/-- An ASCII character is one byte. -/
theorem utf8_ascii {text : Str} (ascii : ∀ c ∈ text, c.toNat < 128) :
    utf8 text = text.map fun c => c.toUInt8 := by
  induction text with
  | nil => rfl
  | cons c text ih =>
      have small : c.utf8Size = 1 := by
        have bound := ascii c List.mem_cons_self
        rw [Char.utf8Size_eq_one_iff, UInt32.le_iff_toNat_le]
        exact Nat.le_of_lt_succ bound
      have head : utf8 [c] = [c.toUInt8] := by
        rw [utf8, List.flatMap_singleton, String.utf8EncodeChar_eq_singleton small]
        rfl
      have whole : utf8 (c :: text) = utf8 [c] ++ utf8 text := utf8_append [c] text
      rw [whole, head, ih fun other mem => ascii other (List.mem_cons_of_mem _ mem)]
      rfl

theorem utf8_take {text : Str} (ascii : ∀ c ∈ text, c.toNat < 128) (count : ℕ) :
    (utf8 text).take count = utf8 (text.take count) := by
  rw [utf8_ascii ascii, utf8_ascii fun c mem => ascii c (List.mem_of_mem_take mem), List.map_take]

theorem length_utf8 {text : Str} (ascii : ∀ c ∈ text, c.toNat < 128) :
    (utf8 text).length = text.length := by
  rw [utf8_ascii ascii, List.length_map]

/-! ### Lines -/

theorem universalNewlines_eq {text : Str} (noReturn : '\r' ∉ text) : universalNewlines text = text := by
  induction text with
  | nil => rfl
  | cons c text ih =>
      have other : c ≠ '\r' := by
        rintro rfl
        exact noReturn List.mem_cons_self
      rw [universalNewlines, ih fun mem => noReturn (List.mem_cons_of_mem _ mem)]
      · rintro _ rfl
        exact absurd rfl other
      · rintro rfl
        exact absurd rfl other

theorem splitLines_go {line : Str} (whole : ∀ c ∈ line, isLineBreak c = false) (front rest : Str) :
    splitLines.go front (line ++ rest) = splitLines.go (line.reverse ++ front) rest := by
  induction line generalizing front with
  | nil => rfl
  | cons c line ih =>
      have inside := whole c List.mem_cons_self
      have other : c ≠ '\r' := by
        rintro rfl
        exact absurd inside (by decide)
      rw [List.cons_append, splitLines.go, if_neg (by rw [inside]; exact Bool.false_ne_true),
        ih fun next mem => whole next (List.mem_cons_of_mem _ mem)]
      · rw [List.reverse_cons, List.append_assoc, List.singleton_append]
      · rintro _ rfl
        exact absurd rfl other

/-- A line with its line feed in front. -/
theorem splitLines_line {line : Str} (whole : ∀ c ∈ line, isLineBreak c = false) (rest : Str) :
    splitLines (line ++ '\n' :: rest) = line :: splitLines rest := by
  rw [splitLines, splitLines_go whole, List.append_nil]
  change line.reverse.reverse :: splitLines.go [] rest = _
  rw [List.reverse_reverse]
  rfl

/-- A line at the end of the text. -/
theorem splitLines_last {line : Str} (whole : ∀ c ∈ line, isLineBreak c = false)
    (some_ : line ≠ []) : splitLines line = [line] := by
  have run := splitLines_go whole [] []
  rw [List.append_nil, List.append_nil] at run
  rw [splitLines, run, splitLines.go, if_neg (by simpa using some_), List.reverse_reverse]

end Python
