import Psv.Document.Letters

/-!
# The brackets and quotes of a JSON text

A scanner that only follows quotes, escapes and the depth of the brackets, for
texts that begin with a brace.  Every object that is read brings it to its end
(`scan_parse`), so a text on which it gets stuck or stays inside is no object.
In particular objects that were cut off and followed by others are not read.
-/

namespace Python

open Interaction

namespace Document

/-- Where the scanner is; `closed` is the place behind a quote or a bracket, where only a comma, a
colon or another closing bracket can follow. -/
inductive Lex where
  | start
  | outside (depth : ℕ)
  | closed (depth : ℕ)
  | inside (depth : ℕ)
  | escape (depth : ℕ)
  | finished
  | stuck
  deriving DecidableEq

namespace Lex

/-- Behind the closing bracket of some depth. -/
def leave : ℕ → Lex
  | 0 => finished
  | depth + 1 => closed depth

def IsOpening (c : Char) : Prop := c = Char.ofNat 123 ∨ c = '['

def IsClosing (c : Char) : Prop := c = Char.ofNat 125 ∨ c = ']'

instance (c : Char) : Decidable (IsOpening c) := inferInstanceAs (Decidable (_ ∨ _))

instance (c : Char) : Decidable (IsClosing c) := inferInstanceAs (Decidable (_ ∨ _))

def next : Lex → Char → Lex
  | start, c => if isBlank c then start else if c = Char.ofNat 123 then outside 0 else stuck
  | outside depth, c =>
      if c = '"' then inside depth
      else if IsOpening c then outside (depth + 1)
      else if IsClosing c then leave depth
      else outside depth
  | closed depth, c =>
      if c = ',' ∨ c = ':' then outside depth
      else if IsClosing c then leave depth
      else if isBlank c then closed depth
      else stuck
  | inside depth, c =>
      if c = '"' then closed depth else if c = '\\' then escape depth else inside depth
  | escape depth, _ => inside depth
  | finished, c => if isBlank c then finished else stuck
  | stuck, _ => stuck

def scan (state : Lex) (text : Str) : Lex := text.foldl next state

variable {state : Lex} {depth : ℕ} {c : Char} {text rest : Str}

@[simp]
theorem scan_nil (state : Lex) : state.scan [] = state := rfl

@[simp]
theorem scan_cons (state : Lex) (c : Char) (text : Str) :
    state.scan (c :: text) = (state.next c).scan text := rfl

theorem scan_append (state : Lex) (first second : Str) :
    state.scan (first ++ second) = (state.scan first).scan second :=
  List.foldl_append

theorem scan_stuck (text : Str) : stuck.scan text = stuck := by
  induction text with
  | nil => rfl
  | cons c text ih => exact ih

/-! ### Values -/

/-- A character that is neither a quote nor a bracket. -/
def Plain (c : Char) : Prop := c ≠ '"' ∧ ¬IsOpening c ∧ ¬IsClosing c

instance (c : Char) : Decidable (Plain c) := inferInstanceAs (Decidable (_ ∧ _))

theorem next_outside_plain (plain : Plain c) : (outside depth).next c = outside depth := by
  rcases plain with ⟨noQuote, noOpening, noClosing⟩
  rw [next, if_neg noQuote, if_neg noOpening, if_neg noClosing]

theorem scan_outside_plain (plain : ∀ c ∈ text, Plain c) (rest : Str) :
    (outside depth).scan (text ++ rest) = (outside depth).scan rest := by
  induction text with
  | nil => rfl
  | cons c text ih =>
      rw [List.cons_append, scan_cons, next_outside_plain (plain c List.mem_cons_self)]
      exact ih fun other mem => plain other (List.mem_cons_of_mem _ mem)

theorem plain_of_blank (blank : isBlank c = true) : Plain c := by
  simp only [isBlank, Bool.or_eq_true, decide_eq_true_eq] at blank
  rcases blank with ((rfl | rfl) | rfl) | rfl
  all_goals decide

theorem plain_of_digit (digit : c.isDigit = true) : Plain c := by
  refine ⟨?_, ?_, ?_⟩
  · rintro rfl
    exact absurd digit (by decide)
  · rintro (rfl | rfl)
    all_goals exact absurd digit (by decide)
  · rintro (rfl | rfl)
    all_goals exact absurd digit (by decide)

/-- The places where a value can have ended. -/
def AtEnd (depth : ℕ) (state : Lex) : Prop := state = outside depth ∨ state = closed depth

theorem AtEnd.blank (atEnd : AtEnd depth state) (blank : isBlank c = true) :
    state.next c = state := by
  rcases atEnd with rfl | rfl
  · exact next_outside_plain (plain_of_blank blank)
  · have plain := plain_of_blank blank
    have noSeparator : ¬(c = ',' ∨ c = ':') := by
      rintro (rfl | rfl)
      all_goals exact absurd blank (by decide)
    rw [next, if_neg noSeparator, if_neg plain.2.2, if_pos blank]

theorem AtEnd.skipBlanks (atEnd : AtEnd depth state) (text : Str) :
    state.scan (skipBlanks text) = state.scan text := by
  induction text with
  | nil => rfl
  | cons c text ih =>
      by_cases blank : isBlank c = true
      · rw [scan_cons, atEnd.blank blank, ← ih, Document.skipBlanks, Document.skipBlanks,
          List.dropWhile_cons_of_pos blank]
      · rw [Document.skipBlanks, List.dropWhile_cons_of_neg blank]

theorem AtEnd.separator (atEnd : AtEnd depth state) (separates : c = ',' ∨ c = ':') :
    state.next c = outside depth := by
  rcases atEnd with rfl | rfl
  · apply next_outside_plain
    rcases separates with rfl | rfl
    all_goals decide
  · rw [next, if_pos separates]

theorem AtEnd.closing (atEnd : AtEnd depth state) (closes : IsClosing c) :
    state.next c = leave depth := by
  have noQuote : c ≠ '"' := by
    rintro rfl
    exact absurd closes (by decide)
  have noOpening : ¬IsOpening c := by
    rcases closes with rfl | rfl
    all_goals decide
  have noSeparator : ¬(c = ',' ∨ c = ':') := by
    rcases closes with rfl | rfl
    all_goals decide
  rcases atEnd with rfl | rfl
  · rw [next, if_neg noQuote, if_neg noOpening, if_pos closes]
  · rw [next, if_neg noSeparator, if_pos closes]

/-! ### Quoted texts -/

theorem next_inside (noQuote : c ≠ '"') (noEscape : c ≠ '\\') :
    (inside depth).next c = inside depth := by
  rw [next, if_neg noQuote, if_neg noEscape]

theorem scan_inside_hex (digits : ∀ c ∈ text, isHexDigit c = true) (rest : Str) :
    (inside depth).scan (text ++ rest) = (inside depth).scan rest := by
  induction text with
  | nil => rfl
  | cons c text ih =>
      have digit := digits c List.mem_cons_self
      have noQuote : c ≠ '"' := by
        rintro rfl
        exact absurd digit (by decide)
      have noEscape : c ≠ '\\' := by
        rintro rfl
        exact absurd digit (by decide)
      rw [List.cons_append, scan_cons, next_inside noQuote noEscape]
      exact ih fun other mem => digits other (List.mem_cons_of_mem _ mem)

theorem scan_codeUnit {n : ℕ} (found : codeUnit text = some (n, rest)) :
    (inside depth).scan text = (inside depth).scan rest := by
  rw [codeUnit] at found
  split_ifs at found with holds
  cases found
  conv_lhs => rw [← List.take_append_drop 4 text]
  exact scan_inside_hex (List.all_eq_true.mp holds.2) _

theorem scan_readChar {point : Point} (noQuote : text.head? ≠ some '"')
    (found : readChar text = some (point, rest)) :
    (inside depth).scan text = (inside depth).scan rest := by
  rw [readChar.eq_def] at found
  split at found
  · cases found
  · rename_i more
    rw [Option.map_eq_some_iff] at found
    rcases found with ⟨⟨unit, afterUnit⟩, isUnit, same⟩
    cases same
    have steps : (inside depth).scan ('\\' :: 'u' :: more) = (inside depth).scan more := rfl
    rw [steps, scan_codeUnit isUnit]
  · rw [Option.map_eq_some_iff] at found
    rcases found with ⟨_, _, same⟩
    cases same
    rfl
  · split_ifs at found with bad
    cases found
    rw [scan_cons, next_inside _ fun same => bad (Or.inl same)]
    rintro rfl
    exact noQuote rfl

theorem scan_readQuoted {fuel : ℕ} {quoted : Text}
    (found : readQuoted fuel text = .ok (quoted, rest)) :
    (inside depth).scan text = (closed depth).scan rest := by
  induction fuel generalizing text quoted with
  | zero => cases found
  | succ fuel ih =>
      rw [readQuoted] at found
      split_ifs at found with ends
      · cases found
        rcases text with _ | ⟨c, text⟩
        · cases ends
        · cases ends
          rfl
      · split at found
        · cases found
        · rename_i c afterChar isChar
          simp only [Checks.bind_eq_ok_iff] at found
          rcases found with ⟨⟨others, _⟩, isRest, same⟩
          cases same
          rw [scan_readChar ends isChar, ih isRest]

/-! ### Numerals and words -/

theorem plain_of_numeric (numeric : Numeric c) : Plain c := by
  rcases numeric with digit | special
  · exact plain_of_digit digit
  · simp only [List.mem_cons, List.not_mem_nil, or_false] at special
    rcases special with rfl | rfl | rfl | rfl | rfl
    all_goals decide

theorem scan_cuts {front : Str} (cuts : Cuts text front rest) :
    (outside depth).scan text = (outside depth).scan rest := by
  rcases cuts with ⟨rfl, numeric⟩
  exact scan_outside_plain (fun c mem => plain_of_numeric (numeric c mem)) rest

section Values

variable {φ : Type} [FloatText φ]

theorem scan_readScalar {value : Document φ} (found : readScalar text = .ok (value, rest)) :
    (outside depth).scan text = (outside depth).scan rest := by
  rw [readScalar] at found
  split at found
  · rename_i word result isWord
    cases found
    have isFront := List.find?_some isWord
    rcases List.isPrefixOf_iff_prefix.mp isFront with ⟨after, rfl⟩
    rw [List.drop_left]
    apply scan_outside_plain
    have mem := List.mem_of_find?_eq_some isWord
    have plain : ∀ word ∈ ["null".toList, "true".toList, "false".toList, "NaN".toList,
        "Infinity".toList, "-Infinity".toList], ∀ c ∈ word, Plain c := by decide
    exact plain _ (List.mem_map_of_mem (f := Prod.fst) mem)
  · simp only [readNumeral, Checks.bind_eq_ok_iff] at found
    rcases found with ⟨⟨sign, integer, tail, after⟩, isNumeral, found⟩
    rcases cuts_numeral (orRaise_eq_ok_iff.mp isNumeral) with ⟨front, cuts⟩
    rw [scan_cuts cuts]
    dsimp only at found
    by_cases noTail : tail = []
    · rw [if_pos noTail] at found
      simp only [Checks.bind_eq_ok_iff] at found
      rcases found with ⟨_, _, same⟩
      cases same
      rfl
    · rw [if_neg noTail] at found
      cases found
      rfl

/-- The three readers with this fuel take the scanner across what they read. -/
structure Crosses (φ : Type) [FloatText φ] (fuel : ℕ) : Prop where
  value : ∀ (levels : ℕ) (text rest : Str) (value : Document φ) (depth : ℕ),
    readValue fuel levels text = .ok (value, rest) →
      ∃ state, AtEnd depth state ∧ (outside depth).scan text = state.scan rest
  items : ∀ (levels : ℕ) (text rest : Str) (items : List (Document φ)) (depth : ℕ),
    readItems fuel levels text = .ok (items, rest) →
      (outside depth).scan text = (leave depth).scan rest
  members : ∀ (levels : ℕ) (text rest : Str) (members : Members φ) (depth : ℕ),
    readMembers fuel levels text = .ok (members, rest) →
      (outside depth).scan text = (leave depth).scan rest

theorem cons_of_head {text : Str} {c : Char} (isHead : text.head? = some c) :
    text = c :: text.tail := by
  rcases text with _ | ⟨head, tail⟩
  · cases isHead
  · cases isHead
    rfl

theorem outside_atEnd (depth : ℕ) : AtEnd depth (outside depth) := Or.inl rfl

/-- The next visible character after a value, and what stands behind it. -/
theorem AtEnd.onto (atEnd : AtEnd depth state) {text : Str} {c : Char}
    (isHead : (Document.skipBlanks text).head? = some c) :
    state.scan text = (state.next c).scan (Document.skipBlanks text).tail := by
  rw [← atEnd.skipBlanks text]
  conv_lhs => rw [cons_of_head isHead]
  rfl

theorem crosses_items {fuel : ℕ} (crosses : Crosses φ fuel) (levels : ℕ) (text rest : Str)
    (items : List (Document φ)) (depth : ℕ)
    (found : readItems (fuel + 1) levels text = .ok (items, rest)) :
    (outside depth).scan text = (leave depth).scan rest := by
  rw [readItems] at found
  simp only [Checks.bind_eq_ok_iff] at found
  rcases found with ⟨⟨item, afterItem⟩, isItem, found⟩
  rcases crosses.value levels text afterItem item depth isItem with ⟨state, atEnd, crossed⟩
  rw [crossed]
  dsimp only at found
  split_ifs at found with closes separates
  · cases found
    rw [atEnd.onto closes, atEnd.closing (Or.inr rfl)]
  · simp only [Checks.bind_eq_ok_iff] at found
    rcases found with ⟨⟨others, _⟩, isOthers, same⟩
    cases same
    rw [atEnd.onto separates, atEnd.separator (Or.inl rfl), ← (outside_atEnd depth).skipBlanks]
    exact crosses.items _ _ _ others depth isOthers

theorem crosses_members {fuel : ℕ} (crosses : Crosses φ fuel) (levels : ℕ) (text rest : Str)
    (members : Members φ) (depth : ℕ)
    (found : readMembers (fuel + 1) levels text = .ok (members, rest)) :
    (outside depth).scan text = (leave depth).scan rest := by
  rw [readMembers] at found
  simp only [Checks.bind_eq_ok_iff, refuse_eq_ok_iff, not_not] at found
  rcases found with ⟨_, opens, ⟨key, afterKey⟩, isKey, _, colon, ⟨value, afterValue⟩, isValue, found⟩
  have quoted : AtEnd depth (closed depth) := Or.inr rfl
  conv_lhs => rw [cons_of_head opens]
  rw [scan_cons, show (outside depth).next '"' = inside depth from rfl, scan_readQuoted isKey,
    quoted.onto colon, quoted.separator (Or.inr rfl), ← (outside_atEnd depth).skipBlanks]
  rcases crosses.value levels _ afterValue value depth isValue with ⟨state, atEnd, crossed⟩
  rw [crossed]
  split_ifs at found with closes separates
  · cases found
    rw [atEnd.onto closes, atEnd.closing (Or.inl rfl)]
  · simp only [Checks.bind_eq_ok_iff] at found
    rcases found with ⟨⟨others, _⟩, isOthers, same⟩
    cases same
    rw [atEnd.onto separates, atEnd.separator (Or.inl rfl), ← (outside_atEnd depth).skipBlanks]
    exact crosses.members _ _ _ others depth isOthers

theorem crosses_value {fuel : ℕ} (crosses : Crosses φ fuel) (levels : ℕ) (text rest : Str)
    (value : Document φ) (depth : ℕ)
    (found : readValue (fuel + 1) levels text = .ok (value, rest)) :
    ∃ state, AtEnd depth state ∧ (outside depth).scan text = state.scan rest := by
  rw [readValue] at found
  have quoted : AtEnd depth (closed depth) := Or.inr rfl
  have inner := outside_atEnd (depth + 1)
  split_ifs at found with isQuote isBrace isEmpty isBracket isNil
  · simp only [Checks.bind_eq_ok_iff] at found
    rcases found with ⟨⟨text, _⟩, isQuoted, same⟩
    cases same
    refine ⟨_, quoted, ?_⟩
    conv_lhs => rw [cons_of_head isQuote]
    exact scan_readQuoted isQuoted
  · rcases Checks.bind_eq_ok_iff.mp found with ⟨_, _, same⟩
    cases same
    refine ⟨_, quoted, ?_⟩
    conv_lhs => rw [cons_of_head isBrace]
    rw [scan_cons, show (outside depth).next (Char.ofNat 123) = outside (depth + 1) from rfl,
      inner.onto isEmpty, inner.closing (Or.inl rfl)]
    rfl
  · simp only [Checks.bind_eq_ok_iff] at found
    rcases found with ⟨_, _, ⟨members, _⟩, isMembers, same⟩
    cases same
    refine ⟨_, quoted, ?_⟩
    conv_lhs => rw [cons_of_head isBrace]
    rw [scan_cons, show (outside depth).next (Char.ofNat 123) = outside (depth + 1) from rfl,
      ← inner.skipBlanks, crosses.members _ _ _ members (depth + 1) isMembers]
    rfl
  · rcases Checks.bind_eq_ok_iff.mp found with ⟨_, _, same⟩
    cases same
    refine ⟨_, quoted, ?_⟩
    conv_lhs => rw [cons_of_head isBracket]
    rw [scan_cons, show (outside depth).next '[' = outside (depth + 1) from rfl,
      inner.onto isNil, inner.closing (Or.inr rfl)]
    rfl
  · simp only [Checks.bind_eq_ok_iff] at found
    rcases found with ⟨_, _, ⟨items, _⟩, isItems, same⟩
    cases same
    refine ⟨_, quoted, ?_⟩
    conv_lhs => rw [cons_of_head isBracket]
    rw [scan_cons, show (outside depth).next '[' = outside (depth + 1) from rfl,
      ← inner.skipBlanks, crosses.items _ _ _ items (depth + 1) isItems]
    rfl
  · exact ⟨_, outside_atEnd depth, scan_readScalar found⟩

theorem crosses_all (fuel : ℕ) : Crosses φ fuel := by
  induction fuel with
  | zero =>
      constructor
      · intro levels text rest value depth found
        rw [readValue] at found
        cases found
      · intro levels text rest items depth found
        rw [readItems] at found
        cases found
      · intro levels text rest members depth found
        rw [readMembers] at found
        cases found
  | succ fuel ih => exact ⟨crosses_value ih, crosses_items ih, crosses_members ih⟩

omit [FloatText φ] in
theorem scan_blanks (blanks : ∀ c ∈ text, isBlank c = true) : finished.scan text = finished := by
  induction text with
  | nil => rfl
  | cons c text ih =>
      rw [scan_cons, next, if_pos (blanks c List.mem_cons_self)]
      exact ih fun other mem => blanks other (List.mem_cons_of_mem _ mem)

/-- Reading a text that begins with a brace takes the scanner to its end. -/
theorem scan_parse {document : Document φ} {levels : ℕ}
    (opens : text.head? = some (Char.ofNat 123)) (found : parse levels text = .ok document) :
    start.scan text = finished := by
  simp only [parse, Checks.bind_eq_ok_iff, refuse_eq_ok_iff, not_not] at found
  rcases found with ⟨⟨value, rest⟩, isValue, _, atEnd, _⟩
  have visible : Document.skipBlanks text = text := by
    rw [cons_of_head opens]
    exact List.dropWhile_cons_of_neg (by decide)
  have inner := outside_atEnd 0
  have ends := scan_blanks (List.dropWhile_eq_nil_iff.mp atEnd)
  rw [visible, readValue] at isValue
  rw [if_neg (by rw [opens]; decide), if_pos opens] at isValue
  conv_lhs => rw [cons_of_head opens]
  rw [scan_cons, show start.next (Char.ofNat 123) = outside 0 from rfl]
  split_ifs at isValue with isEmpty
  · rcases Checks.bind_eq_ok_iff.mp isValue with ⟨_, _, same⟩
    cases same
    rw [inner.onto isEmpty, inner.closing (Or.inl rfl)]
    exact ends
  · simp only [Checks.bind_eq_ok_iff] at isValue
    rcases isValue with ⟨_, _, ⟨members, _⟩, isMembers, same⟩
    cases same
    rw [← inner.skipBlanks, (crosses_all _).members _ _ _ members 0 isMembers]
    exact ends

end Values

/-! ### Texts that were cut off -/

/-- The same place inside the brackets of another text. -/
def under (depth : ℕ) : Lex → Lex
  | start => outside depth
  | outside inner => outside (inner + (depth + 1))
  | closed inner => closed (inner + (depth + 1))
  | inside inner => inside (inner + (depth + 1))
  | escape inner => escape (inner + (depth + 1))
  | finished => closed depth
  | stuck => stuck

theorem under_leave (depth inner : ℕ) : (leave inner).under depth = leave (inner + (depth + 1)) := by
  rcases inner with _ | inner
  · rw [Nat.zero_add]
    rfl
  · rw [Nat.succ_add]
    rfl

theorem next_under (depth : ℕ) (c : Char) (goes : state.next c ≠ stuck) :
    (state.under depth).next c = (state.next c).under depth := by
  cases state with
  | start =>
      rw [next] at goes ⊢
      split_ifs at goes ⊢ with blank opens
      · exact (outside_atEnd depth).blank blank
      · rw [opens]
        simp only [under, Nat.zero_add]
        rfl
      · exact absurd rfl goes
  | outside inner =>
      simp only [under, next]
      split_ifs
      · rfl
      · rw [Nat.add_right_comm]
      · exact (under_leave depth inner).symm
      · rfl
  | closed inner =>
      rw [next] at goes
      simp only [under, next]
      split_ifs at goes ⊢
      · rfl
      · exact (under_leave depth inner).symm
      · rfl
      · exact absurd rfl goes
  | inside inner =>
      simp only [under, next]
      split_ifs
      · rfl
      · rfl
      · rfl
  | escape inner => rfl
  | finished =>
      rw [next] at goes ⊢
      split_ifs at goes ⊢ with blank
      · have atEnd : AtEnd depth (closed depth) := Or.inr rfl
        exact atEnd.blank blank
      · exact absurd rfl goes
  | stuck => exact absurd rfl goes

theorem scan_under (depth : ℕ) (goes : state.scan text ≠ stuck) :
    (state.under depth).scan text = (state.scan text).under depth := by
  induction text generalizing state with
  | nil => rfl
  | cons c text ih =>
      have goesNext : state.next c ≠ stuck := by
        intro isStuck
        rw [scan_cons, isStuck] at goes
        exact goes (scan_stuck text)
      rw [scan_cons, next_under depth c goesNext]
      exact ih goes

/-- The text has begun and is not over. -/
def Unfinished (state : Lex) : Prop := state ≠ start ∧ state ≠ finished

theorem under_unfinished (depth : ℕ) (state : Lex) : (state.under depth).Unfinished := by
  cases state with
  | start => exact ⟨nofun, nofun⟩
  | outside inner => exact ⟨nofun, nofun⟩
  | closed inner => exact ⟨nofun, nofun⟩
  | inside inner => exact ⟨nofun, nofun⟩
  | escape inner => exact ⟨nofun, nofun⟩
  | finished => exact ⟨nofun, nofun⟩
  | stuck => exact ⟨nofun, nofun⟩

/-- The text of an object whose first key begins with a character that cannot follow a quote. -/
def Opens (line : Str) : Prop :=
  ∃ c more, line = Char.ofNat 123 :: '"' :: c :: more ∧ ∀ depth, (closed depth).next c = stuck

variable {line piece : Str}

theorem scan_ne_stuck (isFront : piece <+: line) (whole : start.scan line = finished) :
    start.scan piece ≠ stuck := by
  rcases isFront with ⟨more, rfl⟩
  intro isStuck
  rw [scan_append, isStuck, scan_stuck] at whole
  cases whole

theorem leave_ne_start (depth : ℕ) : leave depth ≠ start := by
  rcases depth with _ | depth
  · nofun
  · nofun

theorem next_ne_start (begun : state ≠ start) (c : Char) : state.next c ≠ start := by
  cases state with
  | start => exact absurd rfl begun
  | outside depth =>
      rw [next]
      split_ifs
      · nofun
      · nofun
      · exact leave_ne_start depth
      · nofun
  | closed depth =>
      rw [next]
      split_ifs
      · nofun
      · exact leave_ne_start depth
      · nofun
      · nofun
  | inside depth =>
      rw [next]
      split_ifs
      · nofun
      · nofun
      · nofun
  | escape depth => nofun
  | finished =>
      rw [next]
      split_ifs
      · nofun
      · nofun
  | stuck => nofun

theorem scan_ne_start (begun : state ≠ start) (text : Str) : state.scan text ≠ start := by
  induction text generalizing state with
  | nil => exact begun
  | cons c text ih => exact ih (next_ne_start begun c)

/-- Behind an object or a part of it another one leads nowhere. -/
theorem scan_piece (opens : Opens line) (whole : start.scan line = finished)
    (isFront : piece <+: line) (some_ : piece ≠ []) (begun : state ≠ start) :
    (state.scan piece).Unfinished := by
  have stuckStays : ∀ text, (stuck.scan text).Unfinished := by
    intro text
    rw [scan_stuck]
    exact ⟨nofun, nofun⟩
  have fronts : (∃ more, piece = Char.ofNat 123 :: more) ∧ (piece = [Char.ofNat 123] ∨
      piece = [Char.ofNat 123, '"'] ∨ ∃ c more, piece = Char.ofNat 123 :: '"' :: c :: more ∧
        ∀ depth, (closed depth).next c = stuck) := by
    rcases opens with ⟨c, rest, rfl, blocks⟩
    rcases isFront with ⟨more, same⟩
    rcases piece with _ | ⟨first, _ | ⟨second, _ | ⟨third, piece⟩⟩⟩
    · exact absurd rfl some_
    · cases same
      exact ⟨⟨_, rfl⟩, Or.inl rfl⟩
    · cases same
      exact ⟨⟨_, rfl⟩, Or.inr (Or.inl rfl)⟩
    · cases same
      exact ⟨⟨_, rfl⟩, Or.inr (Or.inr ⟨c, piece, rfl, blocks⟩)⟩
  rcases fronts with ⟨⟨more, isBrace⟩, fronts⟩
  have quoted : ∀ depth, ((inside depth).scan piece).Unfinished := by
    intro depth
    rcases fronts with rfl | rfl | ⟨c, rest, rfl, blocks⟩
    · exact ⟨nofun, nofun⟩
    · exact ⟨nofun, nofun⟩
    · rw [scan_cons, scan_cons, scan_cons,
        show ((inside depth).next (Char.ofNat 123)).next '"' = closed depth from rfl, blocks]
      exact stuckStays rest
  cases state with
  | start => exact absurd rfl begun
  | outside depth =>
      change (((start : Lex).under depth).scan piece).Unfinished
      rw [scan_under depth (scan_ne_stuck isFront whole)]
      exact under_unfinished depth _
  | closed depth =>
      rw [isBrace]
      exact stuckStays more
  | inside depth => exact quoted depth
  | escape depth =>
      rw [isBrace]
      have again := quoted depth
      rw [isBrace] at again
      exact again
  | finished =>
      rw [isBrace]
      exact stuckStays more
  | stuck => exact stuckStays piece

/-- Texts of objects and parts of such texts in a row. -/
theorem scan_pieces {pieces : List Str} (begun : state.Unfinished)
    (each : ∀ piece ∈ pieces, piece ≠ [] ∧ ∃ line, Opens line ∧ start.scan line = finished ∧
      piece <+: line) :
    (state.scan pieces.flatten).Unfinished := by
  induction pieces generalizing state with
  | nil => exact begun
  | cons piece pieces ih =>
      rcases each piece List.mem_cons_self with ⟨some_, line, opens, whole, isFront⟩
      rw [List.flatten_cons, scan_append]
      exact ih (scan_piece opens whole isFront some_ begun.1) fun other mem =>
        each other (List.mem_cons_of_mem _ mem)

/-- Two or more of them are no object. -/
theorem scan_two {first second : Str} {pieces : List Str}
    (each : ∀ piece ∈ first :: second :: pieces, piece ≠ [] ∧ ∃ line, Opens line ∧
      start.scan line = finished ∧ piece <+: line) :
    start.scan (first :: second :: pieces).flatten ≠ finished := by
  rcases each first List.mem_cons_self with ⟨some_, line, ⟨c, more, rfl, _⟩, _, isFront⟩
  rcases each second (List.mem_cons_of_mem _ List.mem_cons_self) with
    ⟨someSecond, other, opens, whole, isSecond⟩
  have begun : start.scan first ≠ start := by
    rcases List.exists_cons_of_ne_nil some_ with ⟨head, tail, rfl⟩
    rcases isFront with ⟨back, same⟩
    rw [(List.cons.inj same).1, scan_cons]
    have opened : outside 0 ≠ start := nofun
    exact scan_ne_start opened tail
  rw [List.flatten_cons, List.flatten_cons, scan_append, scan_append]
  apply (scan_pieces (scan_piece opens whole isSecond someSecond begun) _).2
  intro piece mem
  exact each piece (List.mem_cons_of_mem _ (List.mem_cons_of_mem _ mem))

/-- A part of an object's text that is an object itself is the whole text, blanks apart. -/
theorem scan_front (whole : start.scan line = finished) (isFront : piece <+: line)
    (done : start.scan piece = finished) : ∃ blanks, line = piece ++ blanks ∧
      ∀ c ∈ blanks, isBlank c = true := by
  rcases isFront with ⟨more, rfl⟩
  refine ⟨more, rfl, ?_⟩
  rw [scan_append, done] at whole
  clear done
  induction more with
  | nil => exact fun c mem => absurd mem List.not_mem_nil
  | cons c more ih =>
      rw [scan_cons, next] at whole
      split_ifs at whole with blank
      · intro other mem
        rcases List.mem_cons.mp mem with rfl | mem
        · exact blank
        · exact ih whole other mem
      · rw [scan_stuck] at whole
        cases whole

end Lex

end Document

end Python
