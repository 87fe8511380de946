import Psv.Sut.Adapter
import Psv.Document.Encoding

/-!
# The path of a status request

The order id, which the system under test has chosen, becomes one segment of a
path.  Percent-encoding leaves nothing that ends a segment, and it is
injective; but the full stop is unreserved, so the segments `.` and `..` reach
the client unchanged and mean something else there.
-/

namespace Psv

open Python Interaction

namespace SutAdapter

/-! ### Percent-encoding -/

/-- What `quote` never encodes: `[A-Za-z0-9_.~-]`. -/
def isUnreserved (c : Char) : Bool := c.isAlphanum || ['_', '.', '-', '~'].contains c

/-- An upper-case hexadecimal digit. -/
def upperHexDigit (n : ℕ) : Char := (hexDigit n).toUpper

/-- One byte of `quote_from_bytes`. -/
def quoteByte (byte : UInt8) : Str :=
  if isUnreserved (Char.ofNat byte.toNat) then [Char.ofNat byte.toNat]
  else ['%', upperHexDigit (byte.toNat / 16), upperHexDigit (byte.toNat % 16)]

/-- `urllib.parse.quote(text, safe="")` -/
def quotePathSegment (text : Str) : Str := (utf8 text).flatMap quoteByte

/-- The path of a status request for a given order id. -/
def statusPath (given : Value) : Except PyError Str := do
  let requested ← orderId given "requested order_id"
  return "/status/".toList ++ quotePathSegment requested

/-! ### Dot segments -/

/-- The path without its last segment and the slash in front of it. -/
def dropLastSegment (path : Str) : Str := ((path.reverse.dropWhile (· != '/')).drop 1).reverse

/-- `remove_dot_segments` of RFC 3986: an input buffer is moved to an output buffer. -/
def removeDotSegments (output : Str) : Str → Str
  | [] => output
  | '.' :: '.' :: '/' :: rest => removeDotSegments output rest
  | '.' :: '/' :: rest => removeDotSegments output rest
  | '/' :: '.' :: '/' :: rest => removeDotSegments output ('/' :: rest)
  | ['/', '.'] => removeDotSegments output ['/']
  | '/' :: '.' :: '.' :: '/' :: rest => removeDotSegments (dropLastSegment output) ('/' :: rest)
  | ['/', '.', '.'] => removeDotSegments (dropLastSegment output) ['/']
  | ['.'] => output
  | ['.', '.'] => output
  | c :: rest =>
      removeDotSegments (output ++ c :: rest.takeWhile (· != '/')) (rest.dropWhile (· != '/'))
  termination_by input => input.length
  decreasing_by
    all_goals simp only [List.length_cons, List.length_nil]
    all_goals first
      | omega
      | exact Nat.lt_succ_of_le (List.dropWhile_suffix _).length_le

/-! ### Confinement -/

/-- `/status/` followed by exactly one segment, which is not empty. -/
def OneSegment (path : Str) : Prop :=
  ∃ segment, path = "/status/".toList ++ segment ∧ segment ≠ [] ∧
    ∀ c ∈ segment, c ∉ ['/', '?', '#']

/-- The request stays under `/status/`, also behind the client, and no other order id shares it. -/
structure Confined (requested path : Str) : Prop where
  oneSegment : OneSegment path
  normalized : OneSegment (removeDotSegments [] path)
  unambiguous : ∀ other otherPath, statusPath (.str other) = .ok otherPath → other ≠ requested →
    otherPath ≠ path ∧ removeDotSegments [] otherPath ≠ removeDotSegments [] path

section Quote

theorem upperHexDigit_injective {m n : ℕ} (smallLeft : m < 16) (smallRight : n < 16)
    (same : upperHexDigit m = upperHexDigit n) : m = n := by
  have all : ∀ m < 16, ∀ n < 16, upperHexDigit m = upperHexDigit n → m = n := by decide
  exact all m smallLeft n smallRight same

theorem ofNat_injective {byte other : UInt8}
    (same : Char.ofNat byte.toNat = Char.ofNat other.toNat) : byte = other := by
  have valid : ∀ b : UInt8, (Char.ofNat b.toNat).toNat = b.toNat := by
    intro b
    have bound := b.toNat_lt
    have isValid : b.toNat.isValidChar := .inl (by omega)
    rw [Char.ofNat, dif_pos isValid]
    rfl
  have equal := valid byte
  rw [same, valid other] at equal
  exact UInt8.toNat_inj.mp equal.symm

/-- The code of a byte ends where the next one begins. -/
theorem quoteByte_cancel {byte other : UInt8} {rest otherRest : Str}
    (same : quoteByte byte ++ rest = quoteByte other ++ otherRest) :
    byte = other ∧ rest = otherRest := by
  have percent : isUnreserved '%' = false := by decide
  unfold quoteByte at same
  split_ifs at same with plain otherPlain otherPlain
  · rcases List.cons.inj same with ⟨first, rest⟩
    exact ⟨ofNat_injective first, rest⟩
  · rw [(List.cons.inj same).1, percent] at plain
    cases plain
  · rw [← (List.cons.inj same).1, percent] at otherPlain
    cases otherPlain
  · simp only [List.cons_append, List.nil_append, List.cons.injEq, true_and] at same
    rcases same with ⟨high, low, rest⟩
    have bound := byte.toNat_lt
    have otherBound := other.toNat_lt
    have highSame := upperHexDigit_injective (by omega) (by omega) high
    have lowSame := upperHexDigit_injective (by omega) (by omega) low
    exact ⟨UInt8.toNat_inj.mp (by omega), rest⟩

theorem quoteByte_ne_nil (byte : UInt8) : quoteByte byte ≠ [] := by
  unfold quoteByte
  split_ifs <;> simp

theorem flatMap_quoteByte_injective :
    Function.Injective fun data : Bytes => data.flatMap quoteByte := by
  intro data
  induction data with
  | nil =>
      intro other same
      rcases other with _ | ⟨byte, other⟩
      · rfl
      · have empty : quoteByte byte ++ other.flatMap quoteByte = [] := same.symm
        exact absurd (List.append_eq_nil_iff.mp empty).1 (quoteByte_ne_nil byte)
  | cons byte data ih =>
      intro other same
      rcases other with _ | ⟨otherByte, other⟩
      · have empty : quoteByte byte ++ data.flatMap quoteByte = [] := same
        exact absurd (List.append_eq_nil_iff.mp empty).1 (quoteByte_ne_nil byte)
      · rcases quoteByte_cancel same with ⟨rfl, rest⟩
        rw [ih rest]

theorem quotePathSegment_injective : Function.Injective quotePathSegment := by
  intro text other same
  exact utf8_injective (flatMap_quoteByte_injective same)

/-- Nothing in a quoted text ends a segment. -/
theorem mem_quotePathSegment {text : Str} {c : Char} (mem : c ∈ quotePathSegment text) :
    c ∉ ['/', '?', '#'] := by
  have unreserved : ∀ c ∈ ['/', '?', '#'], isUnreserved c = false := by decide
  have digits : ∀ n < 16, upperHexDigit n ∉ ['/', '?', '#'] := by decide
  rw [quotePathSegment, List.mem_flatMap] at mem
  rcases mem with ⟨byte, _, mem⟩
  have bound := byte.toNat_lt
  unfold quoteByte at mem
  split_ifs at mem with plain
  · intro separator
    rw [List.mem_singleton.mp mem] at separator
    rw [unreserved _ separator] at plain
    cases plain
  · simp only [List.mem_cons, List.not_mem_nil, or_false] at mem
    rcases mem with rfl | rfl | rfl
    · decide
    · exact digits _ (by omega)
    · exact digits _ (by omega)

end Quote

section Segments

variable {first rest output : Str}

theorem takeWhile_segment (noSlash : '/' ∉ first) (ends : ∀ c ∈ rest.head?, c = '/') :
    (first ++ rest).takeWhile (· != '/') = first ∧ (first ++ rest).dropWhile (· != '/') = rest := by
  have inside : ∀ c ∈ first, (c != '/') = true := by
    intro c mem
    simp only [bne_iff_ne, ne_eq]
    intro same
    exact noSlash (same ▸ mem)
  rw [List.takeWhile_append_of_pos inside, List.dropWhile_append_of_pos inside]
  rcases rest with _ | ⟨c, rest⟩
  · simp
  · have isSlash : c = '/' := ends c rfl
    simp [isSlash]

/-- An ordinary segment is moved to the output. -/
theorem removeDotSegments_segment (noSlash : '/' ∉ first) (ends : ∀ c ∈ rest.head?, c = '/')
    (notDot : first ≠ ['.']) (notDots : first ≠ ['.', '.']) :
    removeDotSegments output ('/' :: (first ++ rest)) =
      removeDotSegments (output ++ '/' :: first) rest := by
  rcases takeWhile_segment noSlash ends with ⟨taken, dropped⟩
  rw [removeDotSegments, taken, dropped]
  -- No earlier case of the algorithm applies: each of them shows a dot segment.
  all_goals intros
  all_goals simp_all

/-- The last segment is moved to the output, whichever it is. -/
theorem removeDotSegments_last {segment : Str} (noSlash : '/' ∉ segment) (notDot : segment ≠ ['.'])
    (notDots : segment ≠ ['.', '.']) :
    removeDotSegments output ('/' :: segment) = output ++ '/' :: segment := by
  have moved : removeDotSegments output ('/' :: (segment ++ [])) = _ :=
    removeDotSegments_segment noSlash (by simp) notDot notDots
  rw [List.append_nil, removeDotSegments] at moved
  exact moved

theorem removeDotSegments_dot : removeDotSegments output ['/', '.'] = output ++ ['/'] := by
  rw [removeDotSegments]
  exact removeDotSegments_last (by simp) (by simp) (by simp)

theorem removeDotSegments_dots :
    removeDotSegments output ['/', '.', '.'] = dropLastSegment output ++ ['/'] := by
  rw [removeDotSegments]
  exact removeDotSegments_last (by simp) (by simp) (by simp)

/-- What becomes of a path under `/status/`. -/
theorem removeDotSegments_status (segment : Str) :
    removeDotSegments [] ("/status/".toList ++ segment) =
      removeDotSegments "/status".toList ('/' :: segment) :=
  @removeDotSegments_segment "status".toList ('/' :: segment) [] (by decide) (by simp) (by decide)
    (by decide)

end Segments

section Status

variable {requested path : Str}

theorem statusPath_eq_ok_iff : statusPath (.str requested) = .ok path ↔
    AcceptedId requested ∧ path = "/status/".toList ++ quotePathSegment requested := by
  simp only [statusPath, Checks.bind_eq_ok_iff, orderId_eq_ok_iff, Value.str.injEq, pure,
    Except.pure, Except.ok.injEq]
  constructor
  · intro built
    rcases built with ⟨_, ⟨rfl, accepted⟩, rfl⟩
    exact ⟨accepted, rfl⟩
  · intro built
    exact ⟨requested, ⟨rfl, built.1⟩, built.2.symm⟩

theorem quotePathSegment_eq_nil {text : Str} (empty : quotePathSegment text = []) : text = [] :=
  quotePathSegment_injective (empty.trans (by rfl : [] = quotePathSegment []))

theorem noSlash_quotePathSegment (text : Str) : '/' ∉ quotePathSegment text := by
  intro mem
  exact mem_quotePathSegment mem List.mem_cons_self

theorem quotePathSegment_dot : quotePathSegment ['.'] = ['.'] := by decide

theorem quotePathSegment_dots : quotePathSegment ['.', '.'] = ['.', '.'] := by decide

/-- The dot segments come from the order ids that are dot segments. -/
theorem quotePathSegment_ne_dot (notDot : requested ≠ ['.']) (notDots : requested ≠ ['.', '.']) :
    quotePathSegment requested ≠ ['.'] ∧ quotePathSegment requested ≠ ['.', '.'] := by
  constructor
  · intro same
    exact notDot (quotePathSegment_injective (same.trans quotePathSegment_dot.symm))
  · intro same
    exact notDots (quotePathSegment_injective (same.trans quotePathSegment_dots.symm))

/-- An order id that is no dot segment is not touched behind the client. -/
theorem removeDotSegments_statusPath (notDot : requested ≠ ['.'])
    (notDots : requested ≠ ['.', '.']) :
    removeDotSegments [] ("/status/".toList ++ quotePathSegment requested) =
      "/status/".toList ++ quotePathSegment requested := by
  rcases quotePathSegment_ne_dot notDot notDots with ⟨notDot, notDots⟩
  rw [removeDotSegments_status,
    removeDotSegments_last (noSlash_quotePathSegment requested) notDot notDots]
  rfl

theorem removeDotSegments_statusPath_dot :
    removeDotSegments [] ("/status/".toList ++ quotePathSegment ['.']) = "/status/".toList := by
  rw [removeDotSegments_status, quotePathSegment_dot, removeDotSegments_dot]
  rfl

theorem removeDotSegments_statusPath_dots :
    removeDotSegments [] ("/status/".toList ++ quotePathSegment ['.', '.']) = ['/'] := by
  rw [removeDotSegments_status, quotePathSegment_dots, removeDotSegments_dots]
  rfl

theorem oneSegment_statusPath (accepted : AcceptedId requested) :
    OneSegment ("/status/".toList ++ quotePathSegment requested) := by
  refine ⟨_, rfl, ?_, ?_⟩
  · intro empty
    exact accepted.nonempty (quotePathSegment_eq_nil empty)
  · intro c mem
    exact mem_quotePathSegment mem

/-- A path with one segment is longer than the prefix. -/
theorem OneSegment.length (one : OneSegment path) : "/status/".length < path.length := by
  rcases one with ⟨segment, rfl, nonempty, _⟩
  have positive := List.length_pos_iff.mpr nonempty
  rw [List.length_append, String.length_toList]
  omega

/-- A status request is confined to its own path exactly when the order id is no dot segment. -/
theorem confined_iff (built : statusPath (.str requested) = .ok path) :
    Confined requested path ↔ requested ≠ ['.'] ∧ requested ≠ ['.', '.'] := by
  rcases statusPath_eq_ok_iff.mp built with ⟨accepted, rfl⟩
  constructor
  · intro confined
    constructor
    · rintro rfl
      have long := confined.normalized.length
      rw [removeDotSegments_statusPath_dot] at long
      exact absurd long (by decide)
    · rintro rfl
      have long := confined.normalized.length
      rw [removeDotSegments_statusPath_dots] at long
      exact absurd long (by decide)
  · intro ordinary
    rcases ordinary with ⟨notDot, notDots⟩
    have unchanged := removeDotSegments_statusPath notDot notDots
    have one := oneSegment_statusPath accepted
    refine ⟨one, unchanged.symm ▸ one, ?_⟩
    intro other otherPath otherBuilt different
    rcases statusPath_eq_ok_iff.mp otherBuilt with ⟨_, rfl⟩
    have paths : "/status/".toList ++ quotePathSegment other ≠
        "/status/".toList ++ quotePathSegment requested := by
      intro same
      exact different (quotePathSegment_injective (List.append_cancel_left same))
    refine ⟨paths, ?_⟩
    rw [unchanged]
    have long := one.length
    by_cases dot : other = ['.']
    · rw [dot, removeDotSegments_statusPath_dot]
      intro same
      rw [← same] at long
      exact absurd long (by decide)
    · by_cases dots : other = ['.', '.']
      · rw [dots, removeDotSegments_statusPath_dots]
        intro same
        rw [← same] at long
        exact absurd long (by decide)
      · rw [removeDotSegments_statusPath dot dots]
        exact paths

/-- `/status/o%2F1` -/
theorem confined_escaped : Confined ['o', '/', '1'] "/status/o%2F1".toList :=
  (confined_iff (statusPath_eq_ok_iff.mpr ⟨⟨by decide, by decide, by decide⟩, by decide⟩)).mpr
    ⟨by decide, by decide⟩

/-- The order id `..` is accepted, and its request leaves `/status/`. -/
theorem dots_leave : ¬∀ requested path, statusPath (.str requested) = .ok path →
    Confined requested path := by
  intro every
  have confined := every ['.', '.'] "/status/..".toList
    (statusPath_eq_ok_iff.mpr ⟨⟨by decide, by decide, by decide⟩, by
      rw [quotePathSegment_dots]
      rfl⟩)
  have long := confined.normalized.length
  have left := removeDotSegments_statusPath_dots
  rw [quotePathSegment_dots] at left
  change removeDotSegments [] "/status/..".toList = ['/'] at left
  rw [left] at long
  exact absurd long (by decide)

end Status

end SutAdapter

end Psv
