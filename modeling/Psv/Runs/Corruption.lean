import Psv.Runs.Truth

/-!
# A corrupted journal

What `verify_run_journal` does with arbitrary bytes in the place of the journal
and of each record.  A line that does not name a sound record has a finding of its
own whenever the verifier returns; it returns exactly when everything it comes to
is `Legible`.  The handlers know `OSError` and `JSONDecodeError`.  Bytes that are
not UTF-8, an integer with too many digits, brackets that use up the stack and a
name that cannot be opened are neither (`journal_reported_iff`).
-/

namespace Psv

open Python Interaction Program Document

namespace Runs

/-- What there is to read in a directory: whether the journal is a file, and what each name
gives. -/
structure Shelf where
  isFile : Except FileError Bool
  read : Points → Except FileError Bytes

/-- The directory as an environment; the verifier asks nothing else. -/
def Shelf.environment (shelf : Shelf) (others : Environment fileSystem) : Environment fileSystem :=
  fun history question =>
    match question with
    | .isFile _ => shelf.isFile
    | .read name => shelf.read name
    | question => others history question

/-- The verifier ends with findings, one at least for every line that does not name a sound
record. -/
def Reports (φ : Type) [FloatText φ] [Interpreter] (shelf : Shelf)
    (result : Except RunError (List Str)) : Prop :=
  ∃ found, result = .ok found ∧
    ∀ bytes text, shelf.isFile = .ok true → shelf.read (journalName.map .char) = .ok bytes →
      readText bytes = .ok text → ∀ i line, (splitLines text)[i]? = some line →
        ¬LineNames φ shelf.read line → ∃ what, finding (i + 1) what ∈ found

/-- A text that `json.loads` fails on with a `JSONDecodeError` at most: no integer is too long, and
no more brackets are inside each other than the stack allows for. -/
def LegibleText (φ : Type) [FloatText φ] [Interpreter] (text : Str) : Prop :=
  loads (φ := φ) Interpreter.readLevels text ≠ .error .longInteger ∧
    loads (φ := φ) Interpreter.readLevels text ≠ .error .tooDeep

/-- The bytes of a legible text; when they hold a record with an identifier, the stack also lasts
for its checksum. -/
def LegibleRecord (φ : Type) [FloatText φ] [Interpreter] (bytes : Bytes) : Prop :=
  ∃ text, decodeUtf8 bytes = some text ∧ LegibleText φ (universalNewlines text) ∧
    ∀ (record : Members φ) (runId : Text),
      loads Interpreter.readLevels (universalNewlines text) = .ok (.object record) →
        record.lookup "runId".toText = some (.str runId) →
          (hashPayload record).depth ≤ Interpreter.hashLevels

/-- A legible line; a plain name in it can be opened, and what is read there is legible. -/
def LegibleLine (φ : Type) [FloatText φ] [Interpreter] (read : Points → Except FileError Bytes)
    (line : Str) : Prop :=
  LegibleText φ line ∧
    ∀ entry : Members φ, loads Interpreter.readLevels line = .ok (.object entry) →
      ∀ name, entry.lookup "file".toText = some (.str name) → pathName name.points = name.points →
        Openable name.points ∧ ∀ bytes, read name.points = .ok bytes → LegibleRecord φ bytes

/-- The journal is missing, or it is read as UTF-8 and each of its lines is legible. -/
def Legible (φ : Type) [FloatText φ] [Interpreter] (shelf : Shelf) : Prop :=
  shelf.isFile = .ok false ∨
    shelf.isFile = .ok true ∧ ∃ bytes text, shelf.read (journalName.map .char) = .ok bytes ∧
      decodeUtf8 bytes = some text ∧
      ∀ line ∈ splitLines (universalNewlines text), LegibleLine φ shelf.read line

section Verifier

variable {φ : Type} [FloatText φ] [Interpreter] {shelf : Shelf} {others : Environment fileSystem}
  {read : Points → Except FileError Bytes}

/-! ### The verifier as a function of the directory -/

theorem run_checkLine (number : ℕ) (raw : Str) (history : History fileSystem) :
    ∃ later, (checkLine φ number raw).run (shelf.environment others) () history =
      ⟨lineFindings φ shelf.read number raw, (), later⟩ := by
  have settled : ∀ computation : Except RunError (List Str),
      ∃ later, (lift computation : Job (List Str)).run (shelf.environment others) () history =
        ⟨computation, (), later⟩ :=
    fun computation => ⟨history, run_lift computation () history⟩
  rw [checkLine, lineFindings]
  rcases loadJson (φ := φ) raw with error | loaded
  · exact settled (.error error)
  · rcases loaded with _ | document
    · exact settled (.ok _)
    · cases document with
      | object entry =>
          rw [lift_ok_bind]
          simp only [Checks.ok_bind]
          rcases found : entry.lookup "file".toText with _ | value
          · exact settled (.ok _)
          · cases value with
            | str name =>
                dsimp only
                split_ifs
                · exact settled (.ok _)
                · rcases checkName name.points with error | _
                  · exact settled (.error error)
                  · exact ⟨_, run_lift _ () _⟩
            | _ => exact settled (.ok _)
      | _ => exact settled (.ok _)

theorem run_checkLines (number : ℕ) (lines : List Str) (history : History fileSystem) :
    ∃ later, (checkLines φ number lines).run (shelf.environment others) () history =
      ⟨allFindings φ shelf.read number lines, (), later⟩ := by
  induction lines generalizing number history with
  | nil => exact ⟨history, rfl⟩
  | cons raw lines ih =>
      have checked : ∃ middle, (checkLine φ number raw).run (shelf.environment others) () history =
          ⟨lineFindings φ shelf.read number raw, (), middle⟩ := run_checkLine number raw history
      rcases checked with ⟨middle, first⟩
      rw [checkLines, run_bind, first, allFindings]
      rcases lineFindings φ shelf.read number raw with error | found
      · exact ⟨middle, rfl⟩
      · rcases ih (number + 1) middle with ⟨later, rest⟩
        simp only [run_bind, rest, Checks.ok_bind]
        rcases allFindings φ shelf.read (number + 1) lines with error | more
        · exact ⟨later, rfl⟩
        · exact ⟨later, rfl⟩

/-- What the verifier ends with. -/
theorem run_verifyRunJournal :
    ((verifyRunJournal φ).run (shelf.environment others) () []).result =
      (do
        let there ← Except.mapError RunError.file shelf.isFile
        if there = false then .ok ["runs.jsonl is missing".toList]
        else do
          let bytes ← Except.mapError RunError.file (shelf.read (journalName.map .char))
          let text ← readText bytes
          allFindings φ shelf.read 1 (splitLines text)) := by
  have asked : shelf.environment others [] (.isFile journalName) = shelf.isFile := rfl
  have given : ∀ history, shelf.environment others history (.read (journalName.map .char)) =
      shelf.read (journalName.map .char) := fun _ => rfl
  simp only [verifyRunJournal, question, run_bind, run, asked, run_lift]
  rcases shelf.isFile with error | there
  · rfl
  · cases there with
    | false => rfl
    | true =>
        simp only [Except.mapError, Bool.true_eq_false, if_false, Checks.ok_bind, run_bind, run,
          given, run_lift]
        rcases shelf.read (journalName.map .char) with error | bytes
        · rfl
        · rw [Checks.ok_bind]
          dsimp only
          rcases readText bytes with error | text
          · rfl
          · rw [Checks.ok_bind]
            have checked : ∀ history, ∃ later,
                (checkLines φ 1 (splitLines text)).run (shelf.environment others) () history =
                  ⟨allFindings φ shelf.read 1 (splitLines text), (), later⟩ :=
              run_checkLines 1 (splitLines text)
            rcases checked _ with ⟨later, ended⟩
            exact congrArg Outcome.result ended

/-! ### Lines -/

omit [FloatText φ] [Interpreter] in
theorem readText_isOk_iff {bytes : Bytes} {text : Str} :
    readText bytes = .ok text ↔ ∃ raw, decodeUtf8 bytes = some raw ∧ universalNewlines raw = text := by
  simp [readText, Checks.bind_eq_ok_iff, orRaise_eq_ok_iff, pure, Except.pure]

theorem loadJson_isOk_iff {text : Str} :
    (∃ loaded, loadJson (φ := φ) text = .ok loaded) ↔ LegibleText φ text := by
  rw [loadJson, LegibleText]
  rcases loads (φ := φ) Interpreter.readLevels text with error | document
  · cases error <;> simp
  · simp

theorem loadJson_eq_ok_some_iff {text : Str} {document : Document φ} :
    loadJson text = .ok (some document) ↔ loads Interpreter.readLevels text = .ok document := by
  rw [loadJson]
  rcases loads (φ := φ) Interpreter.readLevels text with error | document
  · cases error <;> simp
  · simp

/-- A record that was read can be hashed if the stack lasts; without an identifier it need not be. -/
theorem verifyRunRecord_isOk_iff {text : Str} {record : Members φ}
    (loaded : loads Interpreter.readLevels text = .ok (.object record)) :
    (∃ verified, verifyRunRecord record = .ok verified) ↔
      ∀ runId, record.lookup "runId".toText = some (.str runId) →
        (hashPayload record).depth ≤ Interpreter.hashLevels := by
  have short : (hashPayload record).Short :=
    .object fun member mem => (short_loads loaded).members member (List.mem_of_mem_filter mem)
  rw [verifyRunRecord]
  constructor
  · rintro ⟨verified, isVerified⟩ runId found
    rw [found] at isVerified
    rcases Checks.bind_eq_ok_iff.mp isVerified with ⟨hash, isHash, _⟩
    exact (contentHash_eq_ok_iff.mp isHash).1
  · intro shallow
    split
    · rename_i runId found
      rcases exists_contentHash short (shallow runId found) with ⟨canonical, isHash⟩
      rw [isHash]
      exact ⟨_, rfl⟩
    · exact ⟨false, rfl⟩

/-- What is made of a document in the place of a record, unless its checksum cannot be taken. -/
theorem judgeRecord_object_isOk_iff (number : ℕ) (entry : Members φ) {bytes : Bytes} {text : Str}
    {record : Members φ} (isText : readText bytes = .ok text)
    (loaded : loadJson text = .ok (some (.object record))) :
    (∃ found, judgeRecord φ number entry (.ok bytes) = .ok found) ↔
      ∃ verified, verifyRunRecord record = .ok verified := by
  rw [judgeRecord, isText, Checks.ok_bind, loaded, Checks.ok_bind]
  dsimp only
  rcases verifyRunRecord record with error | verified
  · simp [Checks.error_bind]
  · simp only [Checks.ok_bind, Except.ok.injEq, exists_eq', iff_true]
    split_ifs
    · exact ⟨_, rfl⟩
    · split
      · split_ifs
        · exact ⟨_, rfl⟩
        · exact ⟨_, rfl⟩
      · exact ⟨_, rfl⟩

theorem judgeRecord_isOk_iff (number : ℕ) (entry : Members φ) {data : Except FileError Bytes} :
    (∃ found, judgeRecord φ number entry data = .ok found) ↔
      ∀ bytes, data = .ok bytes → LegibleRecord φ bytes := by
  rcases data with error | bytes
  · simp [judgeRecord]
  · simp only [Except.ok.injEq, forall_eq']
    constructor
    · rintro ⟨found, judged⟩
      rcases Checks.bind_eq_ok_iff.mp judged with ⟨text, isText, rest⟩
      rcases Checks.bind_eq_ok_iff.mp rest with ⟨loaded, isLoaded, _⟩
      rcases readText_isOk_iff.mp isText with ⟨raw, decoded, rfl⟩
      refine ⟨raw, decoded, loadJson_isOk_iff.mp ⟨loaded, isLoaded⟩, ?_⟩
      intro record runId isRecord isRunId
      have verifies := (judgeRecord_object_isOk_iff number entry isText
        (loadJson_eq_ok_some_iff.mpr isRecord)).mp ⟨found, judged⟩
      exact (verifyRunRecord_isOk_iff isRecord).mp verifies runId isRunId
    · rintro ⟨raw, decoded, legible, shallow⟩
      have isText := readText_isOk_iff.mpr ⟨raw, decoded, rfl⟩
      rcases loadJson_isOk_iff.mpr legible with ⟨loaded, isLoaded⟩
      rcases loaded with _ | document
      · rw [judgeRecord, isText, Checks.ok_bind, isLoaded]
        exact ⟨_, rfl⟩
      · cases document with
        | object record =>
            have isRecord := loadJson_eq_ok_some_iff.mp isLoaded
            apply (judgeRecord_object_isOk_iff number entry isText isLoaded).mpr
            exact (verifyRunRecord_isOk_iff isRecord).mpr fun runId => shallow record runId isRecord
        | _ =>
            rw [judgeRecord, isText, Checks.ok_bind, isLoaded]
            exact ⟨_, rfl⟩

theorem lineFindings_isOk_iff (number : ℕ) {line : Str} :
    (∃ found, lineFindings φ read number line = .ok found) ↔ LegibleLine φ read line := by
  rw [LegibleLine, ← loadJson_isOk_iff, lineFindings]
  simp only [← loadJson_eq_ok_some_iff]
  rcases loadJson (φ := φ) line with error | loaded
  · simp [Checks.error_bind]
  · simp only [Checks.ok_bind, Except.ok.injEq, exists_eq', true_and]
    rcases loaded with _ | document
    · simp
    · cases document with
      | object entry =>
          simp only [Option.some.injEq, Document.object.injEq, forall_eq']
          rcases entry.lookup "file".toText with _ | value
          · simp
          · cases value with
            | str name =>
                simp only [Option.some.injEq, Document.str.injEq, forall_eq']
                split_ifs with plain
                · simp [plain]
                · have openable : checkName name.points = .ok () ↔ Openable name.points :=
                    checkName_eq_ok_iff
                  rw [← judgeRecord_isOk_iff number entry, ← openable]
                  rcases checkName name.points with error | _
                  · simp [Checks.error_bind, not_not.mp plain]
                  · simp [Checks.ok_bind, not_not.mp plain]
            | _ => simp
      | _ => simp

theorem allFindings_isOk_iff (start : ℕ) {lines : List Str} :
    (∃ found, allFindings φ read start lines = .ok found) ↔
      ∀ line ∈ lines, LegibleLine φ read line := by
  induction lines generalizing start with
  | nil => simp [allFindings]
  | cons line lines ih =>
      rw [List.forall_mem_cons, ← lineFindings_isOk_iff start, ← ih (start + 1)]
      constructor
      · rintro ⟨found, isFound⟩
        rcases Checks.bind_eq_ok_iff.mp isFound with ⟨first, isFirst, isFound⟩
        rcases Checks.bind_eq_ok_iff.mp isFound with ⟨rest, isRest, _⟩
        exact ⟨⟨first, isFirst⟩, rest, isRest⟩
      · rintro ⟨⟨first, isFirst⟩, rest, isRest⟩
        refine ⟨first ++ rest, ?_⟩
        rw [allFindings, isFirst, Checks.ok_bind, isRest]
        rfl

/-- The findings about a line are among all of them. -/
theorem allFindings_part {start i : ℕ} {lines found : List Str} {line : Str}
    (isFound : allFindings φ read start lines = .ok found) (isLine : lines[i]? = some line) :
    ∃ part, lineFindings φ read (start + i) line = .ok part ∧ part ⊆ found := by
  induction lines generalizing start found i with
  | nil => cases isLine
  | cons raw lines ih =>
      rcases Checks.bind_eq_ok_iff.mp isFound with ⟨first, isFirst, isFound⟩
      rcases Checks.bind_eq_ok_iff.mp isFound with ⟨rest, isRest, same⟩
      cases same
      rcases i with _ | i
      · cases isLine
        exact ⟨first, isFirst, List.subset_append_left _ _⟩
      · rcases ih isRest isLine with ⟨part, isPart, among⟩
        refine ⟨part, ?_, List.Subset.trans among (List.subset_append_right _ _)⟩
        rwa [Nat.add_assoc, Nat.add_comm 1 i] at isPart

/-! ### The journal -/

/-- The verifier reports every line that does not name a sound record exactly when the journal is
missing or everything it reads of it is legible. -/
theorem journal_reported_iff (shelf : Shelf) (others : Environment fileSystem) :
    Reports φ shelf ((verifyRunJournal φ).run (shelf.environment others) () []).result ↔
      Legible φ shelf := by
  rw [run_verifyRunJournal, Legible]
  constructor
  · rintro ⟨found, isFound, _⟩
    rcases Checks.bind_eq_ok_iff.mp isFound with ⟨there, isThere, isFound⟩
    rw [mapError_eq_ok_iff] at isThere
    cases there with
    | false => exact Or.inl isThere
    | true =>
        rw [if_neg (by decide)] at isFound
        rcases Checks.bind_eq_ok_iff.mp isFound with ⟨bytes, isBytes, isFound⟩
        rcases Checks.bind_eq_ok_iff.mp isFound with ⟨text, isText, isFound⟩
        rcases readText_isOk_iff.mp isText with ⟨raw, decoded, rfl⟩
        exact Or.inr ⟨isThere, bytes, raw, mapError_eq_ok_iff.mp isBytes, decoded,
          (allFindings_isOk_iff 1).mp ⟨found, isFound⟩⟩
  · rintro (missing | ⟨isFile, bytes, raw, isBytes, decoded, legible⟩)
    · refine ⟨["runs.jsonl is missing".toList], ?_, ?_⟩
      · rw [missing]
        rfl
      · intro bytes text isFile
        rw [missing] at isFile
        cases isFile
    · have isText := readText_isOk_iff.mpr ⟨raw, decoded, rfl⟩
      rcases (allFindings_isOk_iff 1).mpr legible with ⟨found, isFound⟩
      refine ⟨found, ?_, ?_⟩
      · rw [isFile, isBytes]
        change (readText bytes >>= fun text => allFindings φ shelf.read 1 (splitLines text)) = _
        rw [isText]
        exact isFound
      · intro other text _ isOther isRead i line isLine unsound
        rw [isBytes] at isOther
        cases isOther
        rw [isText] at isRead
        cases isRead
        rcases allFindings_part isFound isLine with ⟨part, isPart, among⟩
        rcases part with _ | ⟨report, part⟩
        · exact absurd (lineFindings_eq_nil_iff.mp isPart) unsound
        · rcases mem_lineFindings isPart report List.mem_cons_self with ⟨what, rfl⟩
          refine ⟨what, ?_⟩
          rw [Nat.add_comm i 1]
          exact among List.mem_cons_self

end Verifier

/-- A journal of a single byte, which begins no character. -/
def brokenShelf : Shelf := ⟨.ok true, fun _ => .ok [255]⟩

/-- The verifier raises a `UnicodeDecodeError` and returns nothing. -/
theorem brokenShelf_unreported : letI := asciiInterpreter []
    letI := zeroText
    ¬∀ (shelf : Shelf) (others : Environment fileSystem),
      Reports Unit shelf ((verifyRunJournal Unit).run (shelf.environment others) () []).result := by
  let := asciiInterpreter []
  let := zeroText
  intro reported
  rcases reported brokenShelf idle with ⟨found, returned, _⟩
  have isBroken : readText [255] = .error .unicodeDecodeError := by decide
  rw [run_verifyRunJournal] at returned
  change (readText [255] >>= fun text =>
    allFindings Unit brokenShelf.read 1 (splitLines text)) = _ at returned
  rw [isBroken] at returned
  cases returned

end Runs

end Psv
