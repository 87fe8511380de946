import Psv.Pqc.Receipt

/-!
# The spelling of signatures

A signature is written in base64url without padding: six bits a character, and
the bits that a last character has to spare are zero.  The decoder that
`_decode_signature` delegates to is laxer than that in two ways: it also takes
the two characters of the ordinary alphabet, and it ignores spare bits.  A text
has one spelling exactly when it makes use of neither.
-/

namespace Psv

open Python Interaction Document

namespace Pqc

/-! ### The encoding -/

/-- The character of six bits in the URL-safe alphabet. -/
def sextetChar (n : ℕ) : Char :=
  if n < 26 then Char.ofNat (n + 'A'.toNat)
  else if n < 52 then Char.ofNat (n - 26 + 'a'.toNat)
  else if n < 62 then Char.ofNat (n - 52 + '0'.toNat)
  else if n = 62 then '-' else '_'

/-- Three bytes make four groups of six bits; what is missing at the end counts as zero. -/
def toSextets : Bytes → List ℕ
  | [] => []
  | [x] => [x.toNat / 4, x.toNat % 4 * 16]
  | [x, y] => [x.toNat / 4, x.toNat % 4 * 16 + y.toNat / 16, y.toNat % 16 * 4]
  | x :: y :: z :: rest =>
      x.toNat / 4 :: (x.toNat % 4 * 16 + y.toNat / 16) :: (y.toNat % 16 * 4 + z.toNat / 64) ::
        z.toNat % 64 :: toSextets rest

/-- Base64url without padding. -/
def encodeSignature (data : Bytes) : Text := .ofStr ((toSextets data).map sextetChar)

/-- The bits that are left over at the end are zero. -/
def NoSpareBits : List ℕ → Prop
  | [] => True
  | [_] => True
  | [_, b] => b % 16 = 0
  | [_, _, c] => c % 4 = 0
  | _ :: _ :: _ :: _ :: rest => NoSpareBits rest

/-! ### Sextets and bytes -/

theorem toSextets_lt (data : Bytes) : ∀ n ∈ toSextets data, n < 64 := by
  induction data using toSextets.induct with
  | case1 => simp [toSextets]
  | case2 x =>
    have := x.toNat_lt
    simp only [toSextets, List.mem_cons, List.not_mem_nil, or_false, forall_eq_or_imp, forall_eq]
    omega
  | case3 x y =>
    have := x.toNat_lt
    have := y.toNat_lt
    simp only [toSextets, List.mem_cons, List.not_mem_nil, or_false, forall_eq_or_imp, forall_eq]
    omega
  | case4 x y z rest ih =>
    have := x.toNat_lt
    have := y.toNat_lt
    have := z.toNat_lt
    simp only [toSextets, List.mem_cons, forall_eq_or_imp]
    exact ⟨by omega, by omega, by omega, by omega, ih⟩

theorem noSpareBits_toSextets (data : Bytes) : NoSpareBits (toSextets data) := by
  induction data using toSextets.induct with
  | case1 => trivial
  | case2 x =>
    simp only [toSextets, NoSpareBits]
    omega
  | case3 x y =>
    simp only [toSextets, NoSpareBits]
    omega
  | case4 x y z rest ih => exact ih

theorem ofNat_eq {byte : UInt8} {n : ℕ} (same : n = byte.toNat) : UInt8.ofNat n = byte := by
  rw [same, UInt8.ofNat_toNat]

theorem fromSextets_toSextets (data : Bytes) : fromSextets (toSextets data) = some data := by
  induction data using toSextets.induct with
  | case1 => rfl
  | case2 x =>
    have := x.toNat_lt
    rw [toSextets, fromSextets, @ofNat_eq x _ (by omega)]
  | case3 x y =>
    have := x.toNat_lt
    have := y.toNat_lt
    rw [toSextets, fromSextets, @ofNat_eq x _ (by omega), @ofNat_eq y _ (by omega)]
  | case4 x y z rest ih =>
    have := x.toNat_lt
    have := y.toNat_lt
    have := z.toNat_lt
    rw [toSextets, fromSextets, ih, Option.map_some, @ofNat_eq x _ (by omega),
      @ofNat_eq y _ (by omega), @ofNat_eq z _ (by omega)]

/-- Groups of six bits without spare bits are determined by their bytes. -/
theorem toSextets_of_fromSextets {sextets : List ℕ} {data : Bytes}
    (small : ∀ n ∈ sextets, n < 64) (noSpare : NoSpareBits sextets)
    (decoded : fromSextets sextets = some data) : toSextets data = sextets := by
  induction sextets using fromSextets.induct generalizing data with
  | case1 =>
    cases decoded
    rfl
  | case2 _ => cases decoded
  | case3 a b =>
    cases decoded
    simp only [List.mem_cons, List.not_mem_nil, or_false, forall_eq_or_imp, forall_eq] at small
    simp only [NoSpareBits] at noSpare
    simp only [toSextets, UInt8.toNat_ofNat', List.cons.injEq, and_true]
    omega
  | case4 a b c =>
    cases decoded
    simp only [List.mem_cons, List.not_mem_nil, or_false, forall_eq_or_imp, forall_eq] at small
    simp only [NoSpareBits] at noSpare
    simp only [toSextets, UInt8.toNat_ofNat', List.cons.injEq, and_true]
    omega
  | case5 a b c d rest ih =>
    simp only [List.mem_cons, forall_eq_or_imp] at small
    rw [fromSextets] at decoded
    rcases Option.map_eq_some_iff.mp decoded with ⟨others, isRest, rfl⟩
    have later := ih small.2.2.2.2 noSpare isRest
    simp only [toSextets, UInt8.toNat_ofNat', List.cons.injEq, later, and_true]
    omega

/-! ### Characters -/

theorem sextet_sextetChar {n : ℕ} (small : n < 64) : sextet (sextetChar n) = some n := by
  have all : ∀ m < 64, sextetOf (sextetChar m) = some m := by decide
  exact all n small

theorem sextetChar_plain {n : ℕ} (small : n < 64) :
    sextetChar n ≠ '+' ∧ sextetChar n ≠ '/' ∧ sextetChar n ≠ '=' := by
  have all : ∀ m < 64, sextetChar m ≠ '+' ∧ sextetChar m ≠ '/' ∧ sextetChar m ≠ '=' := by decide
  exact all n small

/-- What the characters of the alphabets stand for. -/
theorem sextet_cases {point : Point} {n : ℕ} (isSextet : sextet point = some n) :
    ∃ c, point = .char c ∧
      ((65 ≤ c.toNat ∧ c.toNat ≤ 90 ∧ n = c.toNat - 65) ∨
        (97 ≤ c.toNat ∧ c.toNat ≤ 122 ∧ n = c.toNat - 97 + 26) ∨
        (48 ≤ c.toNat ∧ c.toNat ≤ 57 ∧ n = c.toNat - 48 + 52) ∨
        ((c = '-' ∨ c = '+') ∧ n = 62) ∨ ((c = '_' ∨ c = '/') ∧ n = 63)) := by
  cases point with
  | char c =>
    refine ⟨c, rfl, ?_⟩
    rw [sextet, sextetOf] at isSextet
    split_ifs at isSextet with upper lower digit minus underscore
    · exact .inl ⟨upper.1, upper.2, (Option.some.inj isSextet).symm⟩
    · exact .inr (.inl ⟨lower.1, lower.2, (Option.some.inj isSextet).symm⟩)
    · exact .inr (.inr (.inl ⟨digit.1, digit.2, (Option.some.inj isSextet).symm⟩))
    · exact .inr (.inr (.inr (.inl ⟨minus, (Option.some.inj isSextet).symm⟩)))
    · exact .inr (.inr (.inr (.inr ⟨underscore, (Option.some.inj isSextet).symm⟩)))
  | high bits => cases isSextet
  | low bits => cases isSextet

theorem sextet_lt {point : Point} {n : ℕ} (isSextet : sextet point = some n) : n < 64 := by
  rcases sextet_cases isSextet with ⟨c, _, cases_⟩
  omega

theorem sextetChar_of_sextet {point : Point} {n : ℕ} (isSextet : sextet point = some n)
    (noPlus : point ≠ .char '+') (noSlash : point ≠ .char '/') : .char (sextetChar n) = point := by
  rcases sextet_cases isSextet with ⟨c, rfl, cases_⟩
  have code : ∀ m, m = c.toNat → Point.char (Char.ofNat m) = .char c := by
    intro m same
    rw [same, Char.ofNat_toNat]
  rcases cases_ with
    ⟨low, high, rfl⟩ | ⟨low, high, rfl⟩ | ⟨low, high, rfl⟩ | ⟨rfl | rfl, rfl⟩ | ⟨rfl | rfl, rfl⟩
  · rw [sextetChar, if_pos (by omega)]
    exact code _ (Nat.sub_add_cancel low)
  · rw [sextetChar, if_neg (by omega), if_pos (by omega), Nat.add_sub_cancel]
    exact code _ (Nat.sub_add_cancel low)
  · rw [sextetChar, if_neg (by omega), if_neg (by omega), if_pos (by omega), Nat.add_sub_cancel]
    exact code _ (Nat.sub_add_cancel low)
  · rfl
  · exact absurd rfl noPlus
  · rfl
  · exact absurd rfl noSlash

/-! ### Texts -/

theorem mapM_sextet_encode (data : Bytes) :
    (encodeSignature data).points.mapM sextet = some (toSextets data) := by
  have all := toSextets_lt data
  rw [encodeSignature, Text.points_ofStr]
  generalize toSextets data = sextets at all ⊢
  induction sextets with
  | nil => rfl
  | cons n rest ih =>
    simp only [List.mem_cons, forall_eq_or_imp] at all
    rw [List.map_cons, List.map_cons, List.mapM_cons, sextet_sextetChar all.1, ih all.2]
    rfl

theorem mapM_sextet_lt {points : Points} {sextets : List ℕ}
    (isSextets : points.mapM sextet = some sextets) : ∀ n ∈ sextets, n < 64 := by
  induction points generalizing sextets with
  | nil =>
    cases isSextets
    simp
  | cons c rest ih =>
    rw [List.mapM_cons, Option.bind_eq_bind, Option.bind_eq_some_iff] at isSextets
    rcases isSextets with ⟨first, isFirst, others⟩
    rcases Option.bind_eq_some_iff.mp others with ⟨later, isLater, same⟩
    cases same
    simp only [List.mem_cons, forall_eq_or_imp]
    exact ⟨sextet_lt isFirst, ih isLater⟩

theorem map_sextetChar {points : Points} {sextets : List ℕ}
    (isSextets : points.mapM sextet = some sextets)
    (urlSafe : .char '+' ∉ points ∧ .char '/' ∉ points) :
    (sextets.map sextetChar).map .char = points := by
  induction points generalizing sextets with
  | nil =>
    cases isSextets
    rfl
  | cons c rest ih =>
    simp only [List.mem_cons, not_or] at urlSafe
    rw [List.mapM_cons, Option.bind_eq_bind, Option.bind_eq_some_iff] at isSextets
    rcases isSextets with ⟨first, isFirst, others⟩
    rcases Option.bind_eq_some_iff.mp others with ⟨later, isLater, same⟩
    cases same
    rw [List.map_cons, List.map_cons, ih isLater ⟨urlSafe.1.2, urlSafe.2.2⟩,
      sextetChar_of_sextet isFirst (Ne.symm urlSafe.1.1) (Ne.symm urlSafe.2.1)]

section

variable {φ : Type}

theorem decodeSignature_eq_ok_iff {text : Text} {data : Bytes} :
    decodeSignature (.str text : Document φ) = .ok data ↔
      text ≠ .empty ∧ .char '=' ∉ text.points ∧
        ∃ sextets, text.points.mapM sextet = some sextets ∧ fromSextets sextets = some data := by
  simp only [decodeSignature, Checks.bind_eq_ok_iff, refuse_eq_ok_iff, exists_const,
    orRaise_eq_ok_iff, Option.bind_eq_some_iff, not_or, and_assoc]

theorem decodeSignature_encode {data : Bytes} (nonempty : data ≠ []) :
    decodeSignature (.str (encodeSignature data) : Document φ) = .ok data := by
  apply decodeSignature_eq_ok_iff.mpr
  refine ⟨?_, ?_, toSextets data, mapM_sextet_encode data, fromSextets_toSextets data⟩
  · intro empty
    have none : toSextets data = [] :=
      List.map_eq_nil_iff.mp (List.map_eq_nil_iff.mp (congrArg Text.points empty))
    have decoded := fromSextets_toSextets data
    rw [none] at decoded
    exact nonempty (Option.some.inj decoded).symm
  · intro mem
    rcases List.mem_map.mp mem with ⟨c, isChar, same⟩
    rcases List.mem_map.mp isChar with ⟨n, isSextet, rfl⟩
    exact (sextetChar_plain (toSextets_lt data n isSextet)).2.2 (Point.char.inj same)

/-- A text is decoded only to bytes whose encoding it is, and always to these. -/
def OneSpelling (φ : Type) (text : Text) : Prop :=
  ∀ data, decodeSignature (.str text : Document φ) = .ok data ↔
    data ≠ [] ∧ text = encodeSignature data

/-- A text of whole bytes that uses the ordinary alphabet, or whose last character has spare bits
that are not zero. -/
def Loose (text : Text) : Prop :=
  text.points.length % 4 ≠ 1 ∧ ∃ sextets, text.points.mapM sextet = some sextets ∧
    (.char '+' ∈ text.points ∨ .char '/' ∈ text.points ∨ ¬NoSpareBits sextets)

end

theorem fromSextets_isSome_iff {sextets : List ℕ} :
    (∃ data, fromSextets sextets = some data) ↔ sextets.length % 4 ≠ 1 := by
  induction sextets using fromSextets.induct with
  | case1 => simp [fromSextets]
  | case2 _ => simp [fromSextets]
  | case3 a b => simp [fromSextets]
  | case4 a b c => simp [fromSextets]
  | case5 a b c d rest ih =>
    have length : (a :: b :: c :: d :: rest).length % 4 = rest.length % 4 := by
      simp only [List.length_cons]
      omega
    rw [length, ← ih]
    simp [fromSextets]

theorem length_of_mapM {points : Points} {sextets : List ℕ}
    (isSextets : points.mapM sextet = some sextets) : sextets.length = points.length := by
  induction points generalizing sextets with
  | nil =>
    cases isSextets
    rfl
  | cons c rest ih =>
    rw [List.mapM_cons, Option.bind_eq_bind, Option.bind_eq_some_iff] at isSextets
    rcases isSextets with ⟨first, _, others⟩
    rcases Option.bind_eq_some_iff.mp others with ⟨later, isLater, same⟩
    cases same
    rw [List.length_cons, List.length_cons, ih isLater]

theorem noEquals_of_mapM {points : Points} {sextets : List ℕ}
    (isSextets : points.mapM sextet = some sextets) : .char '=' ∉ points := by
  induction points generalizing sextets with
  | nil => simp
  | cons c rest ih =>
    rw [List.mapM_cons, Option.bind_eq_bind, Option.bind_eq_some_iff] at isSextets
    rcases isSextets with ⟨first, isFirst, others⟩
    rcases Option.bind_eq_some_iff.mp others with ⟨later, isLater, _⟩
    rw [List.mem_cons, not_or]
    refine ⟨?_, ih isLater⟩
    intro same
    rw [← same] at isFirst
    cases isFirst

theorem fromSextets_eq_nil {sextets : List ℕ} (decoded : fromSextets sextets = some []) :
    sextets = [] := by
  induction sextets using fromSextets.induct with
  | case1 => rfl
  | case2 _ => cases decoded
  | case3 a b => cases decoded
  | case4 a b c => cases decoded
  | case5 a b c d rest ih =>
    rw [fromSextets] at decoded
    rcases Option.map_eq_some_iff.mp decoded with ⟨_, _, impossible⟩
    cases impossible

section

variable {φ : Type}

/-- A signature that is not loose is the encoding of what it is decoded to. -/
theorem oneSpelling_of_not_loose {text : Text} (strict : ¬Loose text) : OneSpelling φ text := by
  intro data
  constructor
  · intro decoded
    rcases decodeSignature_eq_ok_iff.mp decoded with ⟨nonempty, _, sextets, isSextets, isData⟩
    have length := length_of_mapM isSextets
    have whole := fromSextets_isSome_iff.mp ⟨data, isData⟩
    have canonical : ¬(.char '+' ∈ text.points ∨ .char '/' ∈ text.points ∨
        ¬NoSpareBits sextets) := by
      intro loose
      exact strict ⟨length ▸ whole, sextets, isSextets, loose⟩
    simp only [not_or, not_not] at canonical
    rcases canonical with ⟨noPlus, noSlash, noSpare⟩
    refine ⟨?_, ?_⟩
    · rintro rfl
      rw [fromSextets_eq_nil isData, List.length_nil] at length
      exact nonempty (Text.ext (List.length_eq_zero_iff.mp length.symm))
    · rw [encodeSignature, toSextets_of_fromSextets (mapM_sextet_lt isSextets) noSpare isData]
      exact Text.ext (map_sextetChar isSextets ⟨noPlus, noSlash⟩).symm
  · intro encoded
    rcases encoded with ⟨nonempty, rfl⟩
    exact decodeSignature_encode nonempty

/-- A loose signature is accepted, but is not the encoding of its bytes. -/
theorem not_oneSpelling_of_loose {text : Text} (loose : Loose text) : ¬OneSpelling φ text := by
  intro one
  rcases loose with ⟨whole, sextets, isSextets, lax⟩
  have length := length_of_mapM isSextets
  rcases fromSextets_isSome_iff.mpr (length ▸ whole) with ⟨data, isData⟩
  have nonempty : text ≠ .empty := by
    rintro rfl
    cases isSextets
    simp [Text.empty, NoSpareBits] at lax
  have decoded : decodeSignature (.str text : Document φ) = .ok data :=
    decodeSignature_eq_ok_iff.mpr
      ⟨nonempty, noEquals_of_mapM isSextets, sextets, isSextets, isData⟩
  have encoded := ((one data).mp decoded).2
  have urlSafe : ∀ point ∈ text.points, point ≠ .char '+' ∧ point ≠ .char '/' := by
    intro point mem
    rw [encoded] at mem
    rcases List.mem_map.mp mem with ⟨c, isChar, rfl⟩
    rcases List.mem_map.mp isChar with ⟨n, isSextet, rfl⟩
    have plain := sextetChar_plain (toSextets_lt data n isSextet)
    exact ⟨fun same => plain.1 (Point.char.inj same), fun same => plain.2.1 (Point.char.inj same)⟩
  rcases lax with plus | slash | spare
  · exact (urlSafe _ plus).1 rfl
  · exact (urlSafe _ slash).2 rfl
  · apply spare
    have same := mapM_sextet_encode data
    rw [← encoded, isSextets] at same
    rw [Option.some.inj same]
    exact noSpareBits_toSextets data

/-- What is refused is refused with a `ValueError`. -/
theorem decodeSignature_failsOnly (value : Document φ) :
    FailsOnly (fun error => ∃ detail, error = valueError detail) (decodeSignature value) := by
  cases value with
  | str text =>
    apply FailsOnly.bind
    · exact failsOnly_refuse ⟨_, rfl⟩
    · intro _ _ error failed
      unfold orRaise at failed
      split at failed
      · cases failed
      · cases failed
        exact ⟨_, rfl⟩
  | _ => exact failsOnly_error ⟨_, rfl⟩

/-- A text has one spelling exactly when it is not loose; everything else is refused with a
`ValueError`. -/
theorem oneSpelling_iff (φ : Type) (text : Text) :
    (OneSpelling φ text ↔ ¬Loose text) ∧
      ∀ value : Document φ,
        FailsOnly (fun error => ∃ detail, error = valueError detail) (decodeSignature value) := by
  refine ⟨?_, decodeSignature_failsOnly⟩
  constructor
  · intro one loose
    exact not_oneSpelling_of_loose loose one
  · exact oneSpelling_of_not_loose

end

/-- `AA` and `AB` are both decoded to a single zero byte. -/
theorem spareBits_accepted :
    decodeSignature (.str "AA".toText : Document Unit) = .ok [0] ∧
      decodeSignature (.str "AB".toText : Document Unit) = .ok [0] := by
  decide

/-- The second spelling of the zero byte is accepted. -/
theorem second_spelling : ¬OneSpelling Unit "AB".toText := by
  intro one
  have encoded := ((one [0]).mp spareBits_accepted.2).2
  revert encoded
  decide

end Pqc

end Psv
