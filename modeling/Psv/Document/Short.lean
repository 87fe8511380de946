import Psv.Document.Keys
import Psv.Document.Letters

/-!
# What was read can be written again

With `ensure_ascii` the text of a document is missing only when an integer has too
many digits, and `json.loads` makes no such integer: a document that was read is
`Short`, sorting its keys leaves it so, and every short document has a text.
-/

namespace Python

open Interaction

namespace Document

variable {φ : Type}

/-- Every integer of the document can be converted to a text. -/
inductive Short : Document φ → Prop where
  | null : Short .null
  | bool (value : Bool) : Short (.bool value)
  | int {value : ℤ} (short : value.natAbs < 10 ^ maxStrDigits) : Short (.int value)
  | float (value : Number φ) : Short (.float value)
  | str (text : Text) : Short (.str text)
  | list {items : List (Document φ)} (each : ∀ item ∈ items, Short item) : Short (.list items)
  | object {members : Members φ} (each : ∀ member ∈ members, Short member.2) :
      Short (.object members)

theorem Short.members {members : Members φ} (short : Short (.object members)) :
    ∀ member ∈ members, Short member.2 := by
  cases short with
  | object each => exact each

/-! ### Writing -/

section Writing

variable [FloatText φ] (style : Style) (level : ℕ)

theorem exists_quote {ensureAscii : Bool} (ascii : ensureAscii = true) (text : Text) :
    ∃ quoted, quote ensureAscii text = some quoted :=
  ⟨_, quote_eq_some_iff.mpr ⟨Or.inl ascii, rfl⟩⟩

theorem exists_writeItems {items : List (Document φ)}
    (each : ∀ item ∈ items, ∃ text, write style level item = some text) :
    ∃ text, writeItems style level items = some text := by
  induction items with
  | nil => exact ⟨[], rfl⟩
  | cons item items ih =>
      rcases each item List.mem_cons_self with ⟨first, isFirst⟩
      rcases ih fun other mem => each other (List.mem_cons_of_mem _ mem) with ⟨others, isOthers⟩
      simp only [writeItems, isFirst, isOthers, Option.bind_eq_bind, Option.bind_some, Option.pure_def,
        Option.some.injEq, exists_eq']

theorem exists_writeMembers (ascii : style.ensureAscii = true) {members : Members φ}
    (each : ∀ member ∈ members, ∃ text, write style level member.2 = some text) :
    ∃ text, writeMembers style level members = some text := by
  induction members with
  | nil => exact ⟨[], rfl⟩
  | cons member members ih =>
      rcases each member List.mem_cons_self with ⟨first, isFirst⟩
      rcases ih fun other mem => each other (List.mem_cons_of_mem _ mem) with ⟨others, isOthers⟩
      rcases exists_quote ascii member.1 with ⟨name, isName⟩
      simp only [writeMembers, isName, isFirst, isOthers, Option.bind_eq_bind, Option.bind_some,
        Option.pure_def, Option.some.injEq, exists_eq']

/-- A short document has a text. -/
theorem Short.write (ascii : style.ensureAscii = true) {document : Document φ}
    (short : document.Short) :
    ∃ text, write style level document = some text := by
  induction short generalizing level with
  | null => exact ⟨_, rfl⟩
  | bool value =>
      cases value
      · exact ⟨_, rfl⟩
      · exact ⟨_, rfl⟩
  | @int value short =>
      refine ⟨decDigits value, ?_⟩
      rw [Document.write, intStr, if_pos short]
  | float value => exact ⟨_, rfl⟩
  | str text => exact exists_quote ascii text
  | @list items _ ih =>
      rcases items with _ | ⟨item, items⟩
      · exact ⟨_, rfl⟩
      · rcases ih item List.mem_cons_self (level + 1) with ⟨first, isFirst⟩
        rcases exists_writeItems style (level + 1)
          (fun other mem => ih other (List.mem_cons_of_mem _ mem) (level + 1)) with ⟨others, isOthers⟩
        simp only [Document.write, isFirst, isOthers, Option.bind_eq_bind, Option.bind_some,
          Option.pure_def, Option.some.injEq, exists_eq']
  | @object members _ ih =>
      rcases members with _ | ⟨member, members⟩
      · exact ⟨_, rfl⟩
      · rcases ih member List.mem_cons_self (level + 1) with ⟨first, isFirst⟩
        rcases exists_writeMembers style (level + 1) ascii
          (fun other mem => ih other (List.mem_cons_of_mem _ mem) (level + 1)) with ⟨others, isOthers⟩
        rcases exists_quote ascii member.1 with ⟨name, isName⟩
        simp only [Document.write, isName, isFirst, isOthers, Option.bind_eq_bind, Option.bind_some,
          Option.pure_def, Option.some.injEq, exists_eq']

end Writing

/-! ### Sorted keys -/

theorem Short.sortKeys {document : Document φ} (short : document.Short) :
    document.sortKeys.Short := by
  induction short with
  | null => exact .null
  | bool value => exact .bool value
  | int short => exact .int short
  | float value => exact .float value
  | str text => exact .str text
  | list _ ih =>
      rw [Document.sortKeys, sortItems_eq_map]
      apply Short.list
      intro item mem
      rcases List.mem_map.mp mem with ⟨old, oldMem, rfl⟩
      exact ih old oldMem
  | object _ ih =>
      rw [Document.sortKeys, sortMembers_eq_map]
      apply Short.object
      intro member mem
      rcases List.mem_map.mp ((perm_orderMembers _).mem_iff.mp mem) with ⟨old, oldMem, rfl⟩
      exact ih old oldMem

/-! ### Hooks -/

theorem short_setMember {members : Members φ} {key : Text} {value : Document φ}
    (each : ∀ member ∈ members, Short member.2) (short : value.Short) :
    ∀ member ∈ setMember members key value, Short member.2 := by
  intro member mem
  unfold setMember at mem
  split_ifs at mem
  · rcases List.mem_map.mp mem with ⟨old, oldMem, rfl⟩
    split_ifs
    · exact short
    · exact each old oldMem
  · rcases List.mem_append.mp mem with old | new
    · exact each member old
    · rw [List.mem_singleton.mp new]
      exact short

theorem short_dictOf {pairs results : Members φ} (each : ∀ pair ∈ pairs, Short pair.2)
    (made : dictOf pairs = .ok results) : ∀ member ∈ results, Short member.2 := by
  cases made
  suffices every : ∀ members : Members φ, (∀ member ∈ members, Short member.2) →
      ∀ member ∈ pairs.foldl (fun members pair => setMember members pair.1 pair.2) members,
        Short member.2 from every [] fun _ mem => absurd mem List.not_mem_nil
  induction pairs with
  | nil => exact fun _ short => short
  | cons pair pairs ih =>
      intro members short
      apply ih fun other mem => each other (List.mem_cons_of_mem _ mem)
      exact short_setMember short (each pair List.mem_cons_self)

theorem Short.rebuild {document result : Document φ} (short : document.Short)
    (rebuilt : rebuild dictOf document = .ok result) : result.Short := by
  induction short generalizing result with
  | null =>
      cases rebuilt
      exact .null
  | bool value =>
      cases rebuilt
      exact .bool value
  | int short =>
      cases rebuilt
      exact .int short
  | float value =>
      cases rebuilt
      exact .float value
  | str text =>
      cases rebuilt
      exact .str text
  | list _ ih =>
      rw [Document.rebuild] at rebuilt
      rcases parts : rebuildItems dictOf _ with error | results
      · rw [parts] at rebuilt
        cases rebuilt
      · rw [parts] at rebuilt
        cases rebuilt
        have each := rebuildItems_eq_ok_iff.mp parts
        apply Short.list
        intro item mem
        rcases (List.forall₂_iff_get.mp each) with ⟨length, related⟩
        rcases List.mem_iff_getElem.mp mem with ⟨i, bound, rfl⟩
        have earlier : i < _ := length ▸ bound
        exact ih _ (List.getElem_mem earlier) (related i earlier bound)
  | object _ ih =>
      rw [Document.rebuild] at rebuilt
      rcases Checks.bind_eq_ok_iff.mp rebuilt with ⟨inner, parts, hooked⟩
      have each := rebuildMembers_eq_ok_iff.mp parts
      have short : ∀ member ∈ inner, Short member.2 := by
        intro member mem
        rcases (List.forall₂_iff_get.mp each) with ⟨length, related⟩
        rcases List.mem_iff_getElem.mp mem with ⟨i, bound, rfl⟩
        have earlier : i < _ := length ▸ bound
        exact ih _ (List.getElem_mem earlier) (related i earlier bound).2
      rcases made : dictOf inner with error | kept
      · rw [made] at hooked
        cases hooked
      · rw [made] at hooked
        cases hooked
        exact .object (short_dictOf short made)

/-! ### Reading -/

theorem ofDigitChars_lt {digits : Str} (all : ∀ c ∈ digits, c.isDigit = true) :
    Nat.ofDigitChars 10 digits 0 < 10 ^ digits.length := by
  induction digits with
  | nil => simp
  | cons c digits ih =>
      have rest := ih fun d mem => all d (List.mem_cons_of_mem _ mem)
      have first : c.toNat - '0'.toNat ≤ 9 := by
        have range := all c List.mem_cons_self
        simp only [Char.isDigit, Bool.and_eq_true, decide_eq_true_eq] at range
        have high : c.toNat ≤ '9'.toNat := range.2
        have nine : '9'.toNat = 57 := rfl
        have zero : '0'.toNat = 48 := rfl
        omega
      rw [Nat.ofDigitChars_cons, Nat.ofDigitChars_eq_ofDigitChars_zero, mul_zero, zero_add,
        List.length_cons, pow_succ]
      have power : 10 ^ digits.length * (c.toNat - '0'.toNat) ≤ 10 ^ digits.length * 9 :=
        Nat.mul_le_mul_left _ first
      omega

theorem digits_of_integerPart {text integer rest : Str}
    (found : integerPart text = some (integer, rest)) : ∀ c ∈ integer, c.isDigit = true := by
  rcases text with _ | ⟨c, text⟩
  · cases found
  · rw [integerPart] at found
    split_ifs at found with zero digit
    · cases found
      decide
    · cases found
      intro d mem
      rcases List.mem_cons.mp mem with rfl | mem
      · exact digit
      · rw [spanDigits_eq] at mem
        exact List.mem_takeWhile_imp mem

section Reading

variable [FloatText φ] {document : Document φ} {text rest : Str}

theorem short_readNumeral (read : readNumeral text = .ok (document, rest)) : document.Short := by
  simp only [readNumeral, Checks.bind_eq_ok_iff, orRaise_eq_ok_iff] at read
  rcases read with ⟨⟨sign, integer, tail, more⟩, isNumeral, read⟩
  dsimp only at read
  by_cases noTail : tail = []
  · rw [if_pos noTail] at read
    rcases Checks.bind_eq_ok_iff.mp read with ⟨_, few, same⟩
    rw [refuse_eq_ok_iff, not_lt] at few
    rw [numeral, Option.map_eq_some_iff] at isNumeral
    rcases isNumeral with ⟨⟨front, back⟩, isInteger, parts⟩
    cases parts
    have small : Nat.ofDigitChars 10 integer 0 < 10 ^ maxStrDigits :=
      (ofDigitChars_lt (digits_of_integerPart isInteger)).trans_le
        (Nat.pow_le_pow_right (by norm_num) few)
    cases same
    apply Short.int
    split_ifs
    · rw [Int.natAbs_natCast]
      exact small
    · rw [Int.natAbs_neg, Int.natAbs_natCast]
      exact small
  · rw [if_neg noTail] at read
    cases read
    exact .float _

theorem short_readScalar (read : readScalar text = .ok (document, rest)) : document.Short := by
  rw [readScalar] at read
  split at read
  · rename_i word value found
    cases read
    have mem := List.mem_of_find?_eq_some found
    simp only [words, List.mem_cons, Prod.mk.injEq, List.not_mem_nil, or_false] at mem
    rcases mem with ⟨_, rfl⟩ | ⟨_, rfl⟩ | ⟨_, rfl⟩ | ⟨_, rfl⟩ | ⟨_, rfl⟩ | ⟨_, rfl⟩
    · exact .null
    · exact .bool true
    · exact .bool false
    · exact .float _
    · exact .float _
    · exact .float _
  · exact short_readNumeral read

/-- Values, items and members, by induction on the fuel. -/
theorem short_read (fuel levels : ℕ) :
    (∀ (text rest : Str) (document : Document φ),
      readValue fuel levels text = .ok (document, rest) → document.Short) ∧
    (∀ (text rest : Str) (items : List (Document φ)),
      readItems fuel levels text = .ok (items, rest) → ∀ item ∈ items, item.Short) ∧
    ∀ (text rest : Str) (members : Members φ),
      readMembers fuel levels text = .ok (members, rest) → ∀ member ∈ members, member.2.Short := by
  induction fuel generalizing levels with
  | zero =>
      refine ⟨?_, ?_, ?_⟩
      · intro _ _ _ impossible
        cases impossible
      · intro _ _ _ impossible
        cases impossible
      · intro _ _ _ impossible
        cases impossible
  | succ fuel ih =>
      rcases ih levels with ⟨ihValue, ihItems, ihMembers⟩
      rcases ih (levels - 1) with ⟨_, innerItems, innerMembers⟩
      refine ⟨?_, ?_, ?_⟩
      · intro text rest document read
        rw [readValue] at read
        split_ifs at read
        · rcases Checks.bind_eq_ok_iff.mp read with ⟨⟨quoted, more⟩, _, same⟩
          cases same
          exact .str quoted
        · rcases Checks.bind_eq_ok_iff.mp read with ⟨_, _, same⟩
          cases same
          exact .object fun _ mem => absurd mem List.not_mem_nil
        · simp only [Checks.bind_eq_ok_iff] at read
          rcases read with ⟨_, _, ⟨members, more⟩, isMembers, same⟩
          cases same
          exact .object (innerMembers _ _ _ isMembers)
        · rcases Checks.bind_eq_ok_iff.mp read with ⟨_, _, same⟩
          cases same
          exact .list fun _ mem => absurd mem List.not_mem_nil
        · simp only [Checks.bind_eq_ok_iff] at read
          rcases read with ⟨_, _, ⟨items, more⟩, isItems, same⟩
          cases same
          exact .list (innerItems _ _ _ isItems)
        · exact short_readScalar read
      · intro text rest items read
        rw [readItems] at read
        rcases Checks.bind_eq_ok_iff.mp read with ⟨⟨item, more⟩, isItem, read⟩
        have first := ihValue _ _ _ isItem
        dsimp only at read
        split_ifs at read
        · cases read
          intro other mem
          rw [List.mem_singleton.mp mem]
          exact first
        · rcases Checks.bind_eq_ok_iff.mp read with ⟨⟨others, final⟩, isOthers, same⟩
          cases same
          exact List.forall_mem_cons.mpr ⟨first, ihItems _ _ _ isOthers⟩
      · intro text rest members read
        rw [readMembers] at read
        rcases Checks.bind_eq_ok_iff.mp read with ⟨_, _, read⟩
        rcases Checks.bind_eq_ok_iff.mp read with ⟨⟨key, afterKey⟩, _, read⟩
        rcases Checks.bind_eq_ok_iff.mp read with ⟨_, _, read⟩
        rcases Checks.bind_eq_ok_iff.mp read with ⟨⟨value, more⟩, isValue, read⟩
        have first := ihValue _ _ _ isValue
        dsimp only at read
        split_ifs at read
        · cases read
          intro other mem
          rw [List.mem_singleton.mp mem]
          exact first
        · rcases Checks.bind_eq_ok_iff.mp read with ⟨⟨others, final⟩, isOthers, same⟩
          cases same
          exact List.forall_mem_cons.mpr ⟨first, ihMembers _ _ _ isOthers⟩

/-- A document that was read can be written. -/
theorem short_loads {levels : ℕ} (loaded : loads levels text = .ok document) : document.Short := by
  rcases Checks.bind_eq_ok_iff.mp loaded with ⟨pairs, parsed, rebuilt⟩
  rcases Checks.bind_eq_ok_iff.mp parsed with ⟨⟨value, more⟩, isValue, parsed⟩
  rcases Checks.bind_eq_ok_iff.mp parsed with ⟨_, _, same⟩
  cases same
  exact ((short_read _ _).1 _ _ _ isValue).rebuild rebuilt

end Reading

end Document

end Python
