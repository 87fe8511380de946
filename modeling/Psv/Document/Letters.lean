import Psv.Document.RoundTrip

/-!
# The characters of a JSON text

With `ensure_ascii` everything that is written is printable ASCII, apart from the
line feeds of an indented text.  So such a text without indentation is one line,
whatever the strings in it hold.
-/

namespace Python

open Interaction

namespace Document

variable {c : Char} {text rest : Str}

/-! ### Numerals -/

/-- A character of a numeral. -/
def Numeric (c : Char) : Prop := c.isDigit = true ∨ c ∈ ['.', 'e', 'E', '+', '-']

instance (c : Char) : Decidable (Numeric c) := inferInstanceAs (Decidable (_ ∨ _))

theorem spanDigits_append_eq (text : Str) : (spanDigits text).1 ++ (spanDigits text).2 = text := by
  rw [spanDigits_eq, List.takeWhile_append_dropWhile]

theorem numeric_spanDigits (text : Str) : ∀ c ∈ (spanDigits text).1, Numeric c := by
  intro c mem
  rw [spanDigits_eq] at mem
  exact Or.inl (List.mem_takeWhile_imp mem)

/-- A front of numeral characters is cut off. -/
def Cuts (text front rest : Str) : Prop := text = front ++ rest ∧ ∀ c ∈ front, Numeric c

theorem Cuts.append {front middle more : Str} (first : Cuts text front middle)
    (second : Cuts middle more rest) : Cuts text (front ++ more) rest := by
  rcases first with ⟨rfl, numeric⟩
  rcases second with ⟨rfl, more⟩
  refine ⟨(List.append_assoc _ _ _).symm, ?_⟩
  intro c mem
  rcases List.mem_append.mp mem with mem | mem
  · exact numeric c mem
  · exact more c mem

theorem cuts_nil (text : Str) : Cuts text [] text := ⟨rfl, fun _ mem => absurd mem List.not_mem_nil⟩

theorem cuts_cons (numeric : Numeric c) (text : Str) : Cuts (c :: text) [c] text := by
  refine ⟨rfl, ?_⟩
  intro other mem
  rw [List.mem_singleton.mp mem]
  exact numeric

theorem cuts_spanDigits (text : Str) : Cuts text (spanDigits text).1 (spanDigits text).2 :=
  ⟨(spanDigits_append_eq text).symm, numeric_spanDigits text⟩

theorem cuts_signPart (text : Str) : Cuts text (signPart text).1 (signPart text).2 := by
  rw [signPart.eq_def]
  split
  · exact cuts_cons (by decide) _
  · exact cuts_nil _

theorem cuts_integerPart {integer : Str} (found : integerPart text = some (integer, rest)) :
    Cuts text integer rest := by
  rcases text with _ | ⟨c, text⟩
  · cases found
  · rw [integerPart] at found
    split_ifs at found with zero digit
    · cases found
      rw [zero]
      exact cuts_cons (by decide) _
    · cases found
      exact (cuts_cons (Or.inl digit) text).append (cuts_spanDigits text)

theorem cuts_fractionPart (text : Str) : Cuts text (fractionPart text).1 (fractionPart text).2 := by
  rw [fractionPart.eq_def]
  split
  · split_ifs
    · exact cuts_nil _
    · exact (cuts_cons (by decide) _).append (cuts_spanDigits _)
  · exact cuts_nil _

theorem cuts_exponentSign (text : Str) : Cuts text (exponentSign text).1 (exponentSign text).2 := by
  rw [exponentSign.eq_def]
  split
  · exact cuts_cons (by decide) _
  · exact cuts_cons (by decide) _
  · exact cuts_nil _

theorem cuts_exponentPart (text : Str) : Cuts text (exponentPart text).1 (exponentPart text).2 := by
  rcases text with _ | ⟨c, text⟩
  · exact cuts_nil _
  · rw [exponentPart]
    split_ifs with holds
    · have numeric : Numeric c := by
        rcases holds.1 with rfl | rfl
        all_goals decide
      exact ((cuts_cons numeric text).append (cuts_exponentSign text)).append (cuts_spanDigits _)
    · exact cuts_nil _

theorem cuts_numeral {sign integer tail : Str}
    (found : numeral text = some (sign, integer, tail, rest)) :
    ∃ front, Cuts text front rest := by
  rw [numeral, Option.map_eq_some_iff] at found
  rcases found with ⟨⟨first, afterInteger⟩, isInteger, same⟩
  cases same
  exact ⟨_, ((cuts_signPart text).append (cuts_integerPart isInteger)).append
    ((cuts_fractionPart afterInteger).append (cuts_exponentPart _))⟩

/-! ### Printable texts -/

/-- Printable ASCII, or a line feed where the style has any. -/
def Printable (style : Style) (c : Char) : Prop :=
  (32 ≤ c.toNat ∧ c.toNat < 127) ∨ (c = '\n' ∧ style.indent ≠ none)

/-- A text of such characters. -/
def AllPrintable (style : Style) (text : Str) : Prop := ∀ c ∈ text, Printable style c

variable {style : Style}

theorem printable_of_range (lower : 32 ≤ c.toNat) (upper : c.toNat < 127) : Printable style c :=
  Or.inl ⟨lower, upper⟩

theorem AllPrintable.append {more : Str} (first : AllPrintable style text)
    (second : AllPrintable style more) : AllPrintable style (text ++ more) := by
  intro c mem
  rcases List.mem_append.mp mem with mem | mem
  · exact first c mem
  · exact second c mem

theorem AllPrintable.cons (head : Printable style c) (tail : AllPrintable style text) :
    AllPrintable style (c :: text) := by
  intro other mem
  rcases List.mem_cons.mp mem with rfl | mem
  · exact head
  · exact tail other mem

theorem allPrintable_nil : AllPrintable style [] := fun _ mem => absurd mem List.not_mem_nil

theorem allPrintable_of_range (range : ∀ c ∈ text, 32 ≤ c.toNat ∧ c.toNat < 127) :
    AllPrintable style text :=
  fun c mem => Or.inl (range c mem)

theorem range_of_isDigit (digit : c.isDigit = true) : 48 ≤ c.toNat ∧ c.toNat ≤ 57 := by
  simp only [Char.isDigit, Bool.and_eq_true, decide_eq_true_eq, UInt32.le_iff_toNat_le] at digit
  exact digit

theorem printable_of_numeric (numeric : Numeric c) : Printable style c := by
  rcases numeric with digit | special
  · have range := range_of_isDigit digit
    exact printable_of_range (by omega) (by omega)
  · simp only [List.mem_cons, List.not_mem_nil, or_false] at special
    rcases special with rfl | rfl | rfl | rfl | rfl
    all_goals exact printable_of_range (by decide) (by decide)

theorem allPrintable_numeral {sign integer tail : Str}
    (isNumeral : numeral text = some (sign, integer, tail, [])) :
    AllPrintable style text := by
  rcases cuts_numeral isNumeral with ⟨front, same, numeric⟩
  rw [List.append_nil] at same
  subst same
  exact fun c mem => printable_of_numeric (numeric c mem)

/-! ### Strings and blanks -/

theorem allPrintable_hexPad (width n : ℕ) : AllPrintable style (hexPad width n) := by
  have all : ∀ d ∈ hexDigits, 32 ≤ d.toNat ∧ d.toNat < 127 := by decide
  exact allPrintable_of_range fun c mem => all c (isHexDigit_iff.mp (isHexDigit_of_mem_hexPad mem))

theorem allPrintable_unit (n : ℕ) : AllPrintable style ('\\' :: 'u' :: hexPad 4 n) := by
  apply AllPrintable.cons (printable_of_range (by decide) (by decide))
  exact AllPrintable.cons (printable_of_range (by decide) (by decide)) (allPrintable_hexPad _ _)

theorem allPrintable_escapeChar (c : Char) : AllPrintable style (escapeChar true c) := by
  rw [escapeChar]
  split_ifs with h1 h2 h3 h4 h5 h6 h7 range small
  · exact allPrintable_of_range (by decide)
  · exact allPrintable_of_range (by decide)
  · exact allPrintable_of_range (by decide)
  · exact allPrintable_of_range (by decide)
  · exact allPrintable_of_range (by decide)
  · exact allPrintable_of_range (by decide)
  · exact allPrintable_of_range (by decide)
  · apply AllPrintable.cons _ allPrintable_nil
    rcases range with ⟨lower, upper | impossible⟩
    · exact printable_of_range lower upper
    · cases impossible
  · exact allPrintable_unit _
  · exact (allPrintable_unit _).append (allPrintable_unit _)

theorem allPrintable_escape (point : Point) : AllPrintable style (escape true point) := by
  cases point with
  | char c => exact allPrintable_escapeChar c
  | high bits => exact allPrintable_unit _
  | low bits => exact allPrintable_unit _

theorem allPrintable_quote {text : Text} {quoted : Str} (isQuoted : quote true text = some quoted) :
    AllPrintable style quoted := by
  rw [(quote_eq_some_iff.mp isQuoted).2]
  apply AllPrintable.append
  · apply AllPrintable.cons (printable_of_range (by decide) (by decide))
    intro c mem
    rcases List.mem_flatMap.mp mem with ⟨other, _, mem⟩
    exact allPrintable_escape other c mem
  · exact allPrintable_of_range (by decide)

theorem allPrintable_spaces (count : ℕ) : AllPrintable style (List.replicate count ' ') := by
  intro c mem
  rw [List.eq_of_mem_replicate mem]
  exact printable_of_range (by decide) (by decide)

theorem allPrintable_gap (level : ℕ) : AllPrintable style (gap style level) := by
  rw [gap]
  split
  · exact allPrintable_nil
  · rename_i width isIndent
    apply AllPrintable.cons _ (allPrintable_spaces _)
    refine Or.inr ⟨rfl, ?_⟩
    rw [isIndent]
    exact Option.some_ne_none _

theorem allPrintable_comma (level : ℕ) : AllPrintable style (comma style level) := by
  apply AllPrintable.append
  · exact AllPrintable.cons (printable_of_range (by decide) (by decide)) (allPrintable_spaces _)
  · exact allPrintable_gap level

theorem allPrintable_colon : AllPrintable style (colon style) :=
  AllPrintable.cons (printable_of_range (by decide) (by decide)) (allPrintable_spaces _)

/-! ### Documents -/

section Writing

variable {φ : Type} [FloatText φ]

theorem allPrintable_number (value : Number φ) : AllPrintable style (writeNumber value) := by
  rcases value with value | negative | _
  · rcases FloatText.repr_numeral value with ⟨sign, integer, tail, _, _, isNumeral⟩
    exact allPrintable_numeral isNumeral
  · cases negative with
    | false =>
        change AllPrintable style "Infinity".toList
        exact allPrintable_of_range (by decide)
    | true =>
        change AllPrintable style "-Infinity".toList
        exact allPrintable_of_range (by decide)
  · change AllPrintable style "NaN".toList
    exact allPrintable_of_range (by decide)

/-- Whatever is written of the document is printable. -/
def Clear (style : Style) (document : Document φ) : Prop :=
  ∀ level text, write style level document = some text → AllPrintable style text

theorem allPrintable_items {level : ℕ} {items : List (Document φ)} {text : Str}
    (clear : ∀ item ∈ items, Clear style item)
    (written : writeItems style level items = some text) : AllPrintable style text := by
  induction items generalizing text with
  | nil =>
      cases written
      exact allPrintable_nil
  | cons item items ih =>
      simp only [writeItems, Option.bind_eq_bind, Option.bind_eq_some_iff] at written
      rcases written with ⟨first, isFirst, others, isOthers, same⟩
      cases same
      apply AllPrintable.append
      · exact (allPrintable_comma level).append (clear item List.mem_cons_self _ _ isFirst)
      · exact ih (fun other mem => clear other (List.mem_cons_of_mem _ mem)) isOthers

theorem allPrintable_members {level : ℕ} {members : Members φ} {text : Str}
    (ascii : style.ensureAscii = true) (clear : ∀ member ∈ members, Clear style member.2)
    (written : writeMembers style level members = some text) : AllPrintable style text := by
  induction members generalizing text with
  | nil =>
      cases written
      exact allPrintable_nil
  | cons member members ih =>
      rcases member with ⟨key, value⟩
      simp only [writeMembers, Option.bind_eq_bind, Option.bind_eq_some_iff, ascii] at written
      rcases written with ⟨name, isName, first, isFirst, others, isOthers, same⟩
      cases same
      apply AllPrintable.append
      · apply AllPrintable.append
        · exact ((allPrintable_comma level).append (allPrintable_quote isName)).append
            allPrintable_colon
        · exact clear (key, value) List.mem_cons_self _ _ isFirst
      · exact ih (fun other mem => clear other (List.mem_cons_of_mem _ mem)) isOthers

/-- With `ensure_ascii` every document is written in printable characters. -/
theorem clear_all (ascii : style.ensureAscii = true) (document : Document φ) :
    Clear style document := by
  have bracket : ∀ c : Char, 32 ≤ c.toNat → c.toNat < 127 → AllPrintable style [c] :=
    fun c lower upper => AllPrintable.cons (printable_of_range lower upper) allPrintable_nil
  induction document with
  | null =>
      intro level text written
      cases written
      exact allPrintable_of_range (by decide)
  | bool value =>
      intro level text written
      cases value with
      | false =>
          cases written
          exact allPrintable_of_range (by decide)
      | true =>
          cases written
          exact allPrintable_of_range (by decide)
  | int n =>
      intro level text written
      rw [write, intStr] at written
      split_ifs at written
      cases written
      exact allPrintable_numeral (numeral_decDigits n)
  | float value =>
      intro level text written
      cases written
      exact allPrintable_number value
  | str quoted =>
      intro level text written
      rw [write, ascii] at written
      exact allPrintable_quote written
  | list items ih =>
      intro level text written
      rcases items with _ | ⟨item, items⟩
      · cases written
        exact allPrintable_of_range (by decide)
      · simp only [write, Option.bind_eq_bind, Option.bind_eq_some_iff] at written
        rcases written with ⟨first, isFirst, others, isOthers, same⟩
        cases same
        have front : AllPrintable style (gap style (level + 1)) := allPrintable_gap _
        have inner := (front.append (ih item List.mem_cons_self _ _ isFirst)).append
          (allPrintable_items (fun other mem => ih other (List.mem_cons_of_mem _ mem)) isOthers)
        exact AllPrintable.cons (printable_of_range (by decide) (by decide))
          ((inner.append (allPrintable_gap level)).append (bracket ']' (by decide) (by decide)))
  | object members ih =>
      intro level text written
      rcases members with _ | ⟨⟨key, value⟩, members⟩
      · cases written
        exact allPrintable_of_range (by decide)
      · simp only [write, Option.bind_eq_bind, Option.bind_eq_some_iff, ascii] at written
        rcases written with ⟨name, isName, first, isFirst, others, isOthers, same⟩
        cases same
        have outer : AllPrintable style (gap style (level + 1)) := allPrintable_gap _
        have front := (outer.append (allPrintable_quote isName)).append allPrintable_colon
        have inner := (front.append (ih (key, value) List.mem_cons_self _ _ isFirst)).append
          (allPrintable_members ascii (fun other mem => ih other (List.mem_cons_of_mem _ mem))
            isOthers)
        exact AllPrintable.cons (printable_of_range (by decide) (by decide))
          ((inner.append (allPrintable_gap level)).append
            (bracket (Char.ofNat 125) (by decide) (by decide)))

theorem allPrintable_dumps {document : Document φ} {text : Str} (ascii : style.ensureAscii = true)
    (written : dumps style document = some text) : AllPrintable style text :=
  clear_all ascii document 0 text written

end Writing

end Document

end Python
