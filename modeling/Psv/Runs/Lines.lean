import Psv.Runs.Sequential
import Psv.Document.Scan

/-!
# The lines of the journal

Each call contributes to the journal its whole line, a part of it that was cut
off, or nothing.  A line of the file is what stands between two line feeds, so a
part that was cut off and everything up to the next line feed is one line
(`groups`).  Such a line is no JSON unless it consists of a single piece, because
every piece begins an object anew.
-/

namespace Psv

open Python Interaction Program Document

namespace Runs

/-! ### Pieces -/

/-- What one call contributed: the record it is about, the text without its line feed, and whether
the line feed was written as well. -/
structure Piece where
  name : Str
  text : Str
  ends : Bool

/-- The text of a line of pieces. -/
def lineText (pieces : List Piece) : Str := (pieces.map Piece.text).flatten

/-- The text of the whole journal. -/
def journalOf (pieces : List Piece) : Str :=
  pieces.flatMap fun piece => piece.text ++ if piece.ends then ['\n'] else []

/-- The lines of the journal as pieces, the current line having begun with `line`. -/
def groups : List Piece → List Piece → List (List Piece)
  | line, [] => if line.isEmpty then [] else [line]
  | line, piece :: pieces =>
      if piece.ends then (line ++ [piece]) :: groups [] pieces else groups (line ++ [piece]) pieces

/-- A piece is a text without line breaks that is not empty. -/
def Piece.Solid (piece : Piece) : Prop :=
  piece.text ≠ [] ∧ ∀ c ∈ piece.text, isLineBreak c = false

variable {line pieces before after : List Piece} {piece : Piece}

theorem lineText_append (line more : List Piece) :
    lineText (line ++ more) = lineText line ++ lineText more := by
  rw [lineText, List.map_append, List.flatten_append]
  rfl

theorem lineText_singleton (piece : Piece) : lineText [piece] = piece.text := by
  simp [lineText]

theorem lineText_solid (solid : ∀ piece ∈ line, piece.Solid) :
    ∀ c ∈ lineText line, isLineBreak c = false := by
  intro c mem
  rcases List.mem_flatten.mp mem with ⟨text, isText, mem⟩
  rcases List.mem_map.mp isText with ⟨piece, isPiece, rfl⟩
  exact (solid piece isPiece).2 c mem

theorem lineText_ne_nil (solid : ∀ piece ∈ line, piece.Solid) (some_ : line ≠ []) :
    lineText line ≠ [] := by
  rcases List.exists_cons_of_ne_nil some_ with ⟨piece, rest, rfl⟩
  rw [lineText, List.map_cons, List.flatten_cons]
  exact List.append_ne_nil_of_left_ne_nil (solid piece List.mem_cons_self).1 _

/-- The lines of the file are the groups of pieces. -/
theorem splitLines_journalOf (lineSolid : ∀ piece ∈ line, piece.Solid)
    (solid : ∀ piece ∈ pieces, piece.Solid) :
    splitLines (lineText line ++ journalOf pieces) = (groups line pieces).map lineText := by
  induction pieces generalizing line with
  | nil =>
      rw [groups, journalOf, List.flatMap_nil, List.append_nil]
      rcases line with _ | ⟨piece, line⟩
      · rfl
      · rw [splitLines_last (lineText_solid lineSolid) (lineText_ne_nil lineSolid (by simp))]
        rfl
  | cons piece pieces ih =>
      have longer : ∀ other ∈ line ++ [piece], other.Solid := by
        intro other mem
        rcases List.mem_append.mp mem with mem | same
        · exact lineSolid other mem
        · rw [List.mem_singleton.mp same]
          exact solid piece List.mem_cons_self
      have rest : ∀ other ∈ pieces, other.Solid :=
        fun other mem => solid other (List.mem_cons_of_mem _ mem)
      have opened : lineText line ++ piece.text = lineText (line ++ [piece]) := by
        rw [lineText_append, lineText_singleton]
      rw [groups, journalOf, List.flatMap_cons, List.append_assoc, ← List.append_assoc, opened]
      by_cases ends : piece.ends = true
      · rw [if_pos ends, if_pos ends, List.singleton_append, List.map_cons,
          splitLines_line (lineText_solid longer)]
        have others := ih (List.forall_mem_nil _) rest
        rw [show lineText [] = [] from rfl, List.nil_append] at others
        rw [← others]
        rfl
      · rw [if_neg ends, if_neg ends, List.nil_append]
        exact ih longer rest

/-- The pieces in front end with a line feed, if there are any. -/
def AtBoundary (pieces : List Piece) : Prop :=
  ∀ piece, pieces.getLast? = some piece → piece.ends = true

theorem atBoundary_nil : AtBoundary [] := by
  intro piece isLast
  cases isLast

theorem AtBoundary.cons (boundary : AtBoundary pieces) (ends : pieces = [] → piece.ends = true) :
    AtBoundary (piece :: pieces) := by
  intro other isLast
  rcases pieces with _ | ⟨second, pieces⟩
  · cases isLast
    exact ends rfl
  · rw [List.getLast?_cons_cons] at isLast
    exact boundary other isLast

/-- A line consists of neighbouring pieces and begins where another one ended. -/
theorem mem_groups {group : List Piece} (mem : group ∈ groups line pieces) :
    ∃ before after, line ++ pieces = before ++ (group ++ after) ∧ AtBoundary before := by
  induction pieces generalizing line with
  | nil =>
      rw [groups] at mem
      split_ifs at mem with isEmpty
      · exact absurd mem List.not_mem_nil
      · rw [List.mem_singleton.mp mem]
        exact ⟨[], [], by simp, atBoundary_nil⟩
  | cons piece pieces ih =>
      rw [groups] at mem
      split_ifs at mem with ends
      · rcases List.mem_cons.mp mem with rfl | mem
        · exact ⟨[], pieces, by simp, atBoundary_nil⟩
        · rcases ih mem with ⟨before, after, same, boundary⟩
          rw [List.nil_append] at same
          refine ⟨line ++ piece :: before, after, by simp [same], ?_⟩
          have here : AtBoundary (piece :: before) := boundary.cons fun _ => ends
          intro other isLast
          rw [List.getLast?_append_of_ne_nil _ (List.cons_ne_nil _ _)] at isLast
          exact here other isLast
      · rcases ih mem with ⟨before, after, same, boundary⟩
        refine ⟨before, after, ?_, boundary⟩
        rw [← same, List.append_assoc, List.singleton_append]

/-- Behind a boundary the lines begin anew. -/
theorem groups_append (boundary : AtBoundary before) (fresh : before = [] → line = [])
    (after : List Piece) : ∃ front, groups line (before ++ after) = front ++ groups [] after := by
  induction before generalizing line with
  | nil =>
      rw [fresh rfl]
      exact ⟨[], rfl⟩
  | cons piece before ih =>
      have rest : AtBoundary before := by
        intro other isLast
        apply boundary
        rcases before with _ | ⟨second, before⟩
        · cases isLast
        · rw [List.getLast?_cons_cons]
          exact isLast
      rw [List.cons_append, groups]
      split_ifs with ends
      · rcases ih rest fun _ => rfl with ⟨front, same⟩
        exact ⟨(line ++ [piece]) :: front, by rw [same, List.cons_append]⟩
      · apply ih rest
        rintro rfl
        exact absurd (boundary piece rfl) ends

/-! ### Entries -/

section Entries

variable {φ : Type} [FloatText φ] [Interpreter] {record entry : Members φ} {name text : Str}

/-- The text of the entry of a record under some name. -/
def EntryText (record : Members φ) (name text : Str) : Prop :=
  ∃ entry, journalEntry record name = .ok entry ∧
    (Document.object entry).depth ≤ Interpreter.hashLevels ∧
    dumps .plain (.object entry) = some text

theorem journalLine_eq_ok_iff {line : Bytes} :
    journalLine record name = .ok line ↔
      ∃ text, EntryText record name text ∧ line = utf8 (text ++ ['\n']) := by
  simp only [journalLine, Checks.bind_eq_ok_iff, lineOf_eq_ok_iff, EntryText]
  constructor
  · rintro ⟨entry, isEntry, shallow, text, written, rfl⟩
    exact ⟨text, ⟨entry, isEntry, shallow, written⟩, rfl⟩
  · rintro ⟨text, ⟨entry, isEntry, shallow, written⟩, rfl⟩
    exact ⟨entry, isEntry, shallow, text, written, rfl⟩

omit [FloatText φ] [Interpreter] in
/-- The members of an entry. -/
theorem journalEntry_eq_ok_iff :
    journalEntry record name = .ok entry ↔ ∃ runId startedAt command consistent exitCode error,
      record.lookup "runId".toText = some runId ∧ record.lookup "startedAt".toText = some startedAt ∧
      record.lookup "command".toText = some command ∧
      record.lookup "consistent".toText = some consistent ∧
      record.lookup "exitCode".toText = some exitCode ∧ record.lookup "error".toText = some error ∧
      entry = [("runId".toText, runId), ("startedAt".toText, startedAt),
        ("command".toText, command), ("consistent".toText, consistent),
        ("exitCode".toText, exitCode), ("error".toText, error),
        ("file".toText, .str (.ofPoints (pathName (name.map .char))))] := by
  simp only [journalEntry, field, Checks.bind_eq_ok_iff, orRaise_eq_ok_iff]
  constructor
  · rintro ⟨runId, isRunId, startedAt, isStart, command, isCommand, consistent, isConsistent,
      exitCode, isExit, error, isError, same⟩
    cases same
    exact ⟨runId, startedAt, command, consistent, exitCode, error, isRunId, isStart, isCommand,
      isConsistent, isExit, isError, rfl⟩
  · rintro ⟨runId, startedAt, command, consistent, exitCode, error, isRunId, isStart, isCommand,
      isConsistent, isExit, isError, rfl⟩
    exact ⟨runId, isRunId, startedAt, isStart, command, isCommand, consistent, isConsistent,
      exitCode, isExit, error, isError, rfl⟩

omit [FloatText φ] [Interpreter] in
/-- An entry of a dictionary is a dictionary. -/
theorem keyed_entry (keyed : (Document.object record).Keyed)
    (isEntry : journalEntry record name = .ok entry) : (Document.object entry).Keyed := by
  rcases journalEntry_eq_ok_iff.mp isEntry with ⟨runId, startedAt, command, consistent, exitCode,
    error, isRunId, isStart, isCommand, isConsistent, isExit, isError, rfl⟩
  have values : ∀ key value, record.lookup key = some value → value.Keyed :=
    fun key value found => (keyed_object_iff.mp keyed).2 _ (mem_of_lookup found)
  apply keyed_object_iff.mpr
  constructor
  · change ["runId".toText, "startedAt".toText, "command".toText, "consistent".toText,
      "exitCode".toText, "error".toText, "file".toText].Nodup
    decide
  · intro member mem
    simp only [List.mem_cons, List.not_mem_nil, or_false] at mem
    rcases mem with rfl | rfl | rfl | rfl | rfl | rfl | rfl
    · exact values _ _ isRunId
    · exact values _ _ isStart
    · exact values _ _ isCommand
    · exact values _ _ isConsistent
    · exact values _ _ isExit
    · exact values _ _ isError
    · trivial

theorem EntryText.printable (isText : EntryText record name text) : AllPrintable .plain text := by
  rcases isText with ⟨entry, _, _, written⟩
  exact allPrintable_dumps rfl written

omit [Interpreter] in
theorem range_of_printable {c : Char} (printable : Printable .plain c) :
    32 ≤ c.toNat ∧ c.toNat < 127 := by
  rcases printable with range | ⟨_, impossible⟩
  · exact range
  · exact absurd rfl impossible

omit [Interpreter] in
theorem noBreak_of_range {c : Char} (range : 32 ≤ c.toNat ∧ c.toNat < 127) :
    isLineBreak c = false := by
  by_contra breaks
  rw [Bool.not_eq_false, isLineBreak, List.contains_iff_mem] at breaks
  simp only [List.mem_cons, List.not_mem_nil, or_false] at breaks
  omega

theorem EntryText.noBreak (isText : EntryText record name text) :
    ∀ c ∈ text, isLineBreak c = false :=
  fun c mem => noBreak_of_range (range_of_printable (isText.printable c mem))

theorem EntryText.ascii (isText : EntryText record name text) :
    ∀ c ∈ text ++ ['\n'], c.toNat < 128 := by
  intro c mem
  rcases List.mem_append.mp mem with mem | same
  · have range := range_of_printable (isText.printable c mem)
    omega
  · rw [List.mem_singleton.mp same]
    decide

theorem EntryText.opens (isText : EntryText record name text) : Lex.Opens text := by
  rcases isText with ⟨entry, isEntry, _, written⟩
  rcases journalEntry_eq_ok_iff.mp isEntry with ⟨runId, startedAt, command, consistent, exitCode,
    error, _, _, _, _, _, _, rfl⟩
  simp only [dumps, write, Option.bind_eq_bind, Option.bind_eq_some_iff] at written
  rcases written with ⟨key, isKey, first, _, others, _, same⟩
  cases (quote_eq_some_iff.mp isKey).2
  cases same
  exact ⟨'r', _, rfl, fun _ => rfl⟩

theorem EntryText.parse (isText : EntryText record name text) :
    ∃ entry, journalEntry record name = .ok entry ∧
      Document.parse (φ := φ) Interpreter.readLevels text = .ok (.object entry) := by
  rcases isText with ⟨entry, isEntry, shallow, written⟩
  have read := parse_dumps written (shallow.trans Interpreter.hashLevels_le) (List.forall_mem_nil _)
  rw [List.append_nil] at read
  exact ⟨entry, isEntry, read⟩

theorem EntryText.scan (isText : EntryText record name text) :
    Lex.start.scan text = .finished := by
  rcases isText.parse with ⟨entry, _, read⟩
  rcases isText.opens with ⟨c, more, rfl, _⟩
  exact Lex.scan_parse rfl read

/-- The text of an entry ends with its brace. -/
theorem EntryText.getLast (isText : EntryText record name text) :
    text.getLast? = some (Char.ofNat 125) := by
  rcases isText with ⟨entry, isEntry, _, written⟩
  rcases journalEntry_eq_ok_iff.mp isEntry with ⟨runId, startedAt, command, consistent, exitCode,
    error, _, _, _, _, _, _, rfl⟩
  simp only [dumps, write, Option.bind_eq_bind, Option.bind_eq_some_iff] at written
  rcases written with ⟨key, _, first, _, others, _, same⟩
  cases same
  rw [List.getLast?_append_of_ne_nil _ (List.cons_ne_nil _ _)]
  rfl

/-- A piece is about a record: it is a front of its entry, and all of it if the line ends. -/
structure Piece.About (piece : Piece) (record : Members φ) (text : Str) : Prop where
  isText : EntryText record piece.name text
  isFront : piece.text <+: text
  some_ : piece.text ≠ []
  whole : piece.ends = true → piece.text = text

theorem Piece.About.solid {piece : Piece} (about : piece.About record text) : piece.Solid := by
  refine ⟨about.some_, ?_⟩
  intro c mem
  exact about.isText.noBreak c (about.isFront.subset mem)

/-- A front of an entry that is read as an object is the whole entry. -/
theorem Piece.About.complete {piece : Piece} (about : piece.About record text) {levels : ℕ}
    {document : Document φ} (read : Document.parse levels piece.text = .ok document) :
    piece.text = text := by
  have opens : piece.text.head? = some (Char.ofNat 123) := by
    rcases about.isText.opens with ⟨c, more, same, _⟩
    rcases List.exists_cons_of_ne_nil about.some_ with ⟨head, tail, isPiece⟩
    have isFront := about.isFront
    rw [isPiece, same] at isFront
    rw [isPiece, (List.cons_prefix_cons.mp isFront).1]
    rfl
  rcases Lex.scan_front about.isText.scan about.isFront (Lex.scan_parse opens read) with
    ⟨blanks, same, blank⟩
  rcases List.eq_nil_or_concat' blanks with rfl | ⟨front, last, rfl⟩
  · rw [same, List.append_nil]
  · have isLast := about.isText.getLast
    rw [same, ← List.append_assoc, List.getLast?_concat] at isLast
    have isBlank := blank last (List.mem_append_right _ (List.mem_singleton_self _))
    rw [Option.some.inj isLast] at isBlank
    exact absurd isBlank (by decide)

/-- A line that is read consists of one piece, which is the whole entry of its record. -/
theorem single_of_parse {group : List Piece} (some_ : group ≠ [])
    (each : ∀ piece ∈ group, ∃ (record : Members φ) (text : Str), piece.About record text)
    {levels : ℕ} {document : Document φ}
    (read : Document.parse levels (lineText group) = .ok document) :
    ∃ piece, group = [piece] ∧
      ∀ (record : Members φ) text, piece.About record text → piece.text = text := by
  rcases group with _ | ⟨first, _ | ⟨second, rest⟩⟩
  · exact absurd rfl some_
  · rw [lineText_singleton] at read
    exact ⟨first, rfl, fun record text about => about.complete read⟩
  · exfalso
    rcases each first List.mem_cons_self with ⟨record, text, about⟩
    have opens : (lineText (first :: second :: rest)).head? = some (Char.ofNat 123) := by
      rcases about.isText.opens with ⟨c, more, same, _⟩
      rcases List.exists_cons_of_ne_nil about.some_ with ⟨head, tail, isPiece⟩
      have isFront := about.isFront
      rw [isPiece, same] at isFront
      rw [lineText, List.map_cons, List.flatten_cons, isPiece,
        (List.cons_prefix_cons.mp isFront).1]
      rfl
    have parts : ∀ text ∈ first.text :: second.text :: rest.map Piece.text, text ≠ [] ∧
        ∃ line, Lex.Opens line ∧ Lex.start.scan line = .finished ∧ text <+: line := by
      intro text mem
      rcases List.mem_map.mp (show text ∈ (first :: second :: rest).map Piece.text from mem) with
        ⟨piece, isPiece, rfl⟩
      rcases each piece isPiece with ⟨record, text, about⟩
      exact ⟨about.some_, text, about.isText.opens, about.isText.scan, about.isFront⟩
    exact Lex.scan_two parts (Lex.scan_parse opens read)

/-! ### Names -/

omit [FloatText φ] [Interpreter] in
theorem pathName_eq {name : Str} (isRecord : IsRecordName name) :
    pathName (name.map .char) = name.map .char := by
  rcases isRecord with ⟨plain, stem, sequence, rfl⟩
  have single : ((recordName ("run-".toList ++ stem) sequence).map Point.char).splitOn (.char '/') =
      [(recordName ("run-".toList ++ stem) sequence).map .char] := by
    rw [List.splitOn_eq_splitOnP]
    apply List.splitOnP_eq_singleton
    intro point mem
    rcases List.mem_map.mp mem with ⟨c, isChar, rfl⟩
    rw [beq_eq_false_iff_ne]
    intro slash
    rw [Point.char.inj slash] at isChar
    exact plain.1 isChar
  rw [pathName, single]
  rfl

end Entries

end Runs

end Psv
