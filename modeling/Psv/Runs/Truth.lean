import Psv.Runs.RoundTrip

/-!
# What a clean journal says

`verify_run_journal` finds nothing exactly when every line of the journal is an
object that names a record whose checksum holds, under the identifier the record
has (`clean_journal_iff`).  The other members of a line are an index that no
check looks at: a line that calls a failed run consistent is as clean as the one
that was written (`relabelled_clean`).
-/

namespace Psv

open Python Interaction Program Document

namespace Runs

section Truth

variable {φ : Type} [FloatText φ] [Interpreter] {ι : Type} {who : ι} {place : ι → ℕ}
  {disk after : Disk ι}

/-- A line names a record of the directory whose checksum holds, and has its identifier; the name
is one that can be opened. -/
def LineSound (φ : Type) [FloatText φ] (disk : Disk ι) (line : Str) : Prop :=
  ∃ (entry record : Members φ) (name runId : Text) (text : Str) (file : ℕ),
    loadJson line = .ok (some (.object entry)) ∧
    entry.lookup "file".toText = some (.str name) ∧ pathName name.points = name.points ∧
    .char (Char.ofNat 0) ∉ name.points ∧ disk.lookup name.points = some file ∧
    readText (disk.content file) = .ok text ∧
    loadJson text = .ok (some (.object record)) ∧ verifyRunRecord record = .ok true ∧
    record.lookup "runId".toText = some (.str runId) ∧
    entry.lookup "runId".toText = some (.str runId)

omit [FloatText φ] [Interpreter] in
theorem isText_iff {value : Option (Document φ)} {text : Text} :
    isText value text = true ↔ value = some (.str text) := by
  unfold isText
  split
  · rw [beq_iff_eq, Option.some.injEq, Document.str.injEq]
  · rename_i other
    constructor
    · intro impossible
      cases impossible
    · intro same
      exact absurd same (other text)

/-- Nothing is found about the record behind a line. -/
theorem judgeRecord_eq_nil_iff {number : ℕ} {entry : Members φ} {data : Except FileError Bytes} :
    judgeRecord φ number entry data = .ok [] ↔
      ∃ (record : Members φ) (bytes : Bytes) (text : Str) (runId : Text),
        data = .ok bytes ∧ readText bytes = .ok text ∧
        loadJson text = .ok (some (.object record)) ∧ verifyRunRecord record = .ok true ∧
        record.lookup "runId".toText = some (.str runId) ∧
        entry.lookup "runId".toText = some (.str runId) := by
  constructor
  · intro clean
    rcases data with error | bytes
    · simp [judgeRecord] at clean
    · rw [judgeRecord, Checks.bind_eq_ok_iff] at clean
      rcases clean with ⟨text, isRead, clean⟩
      rw [Checks.bind_eq_ok_iff] at clean
      rcases clean with ⟨loaded, isLoaded, clean⟩
      split at clean
      · simp at clean
      · rename_i record
        rw [Checks.bind_eq_ok_iff] at clean
        rcases clean with ⟨verified, isVerified, clean⟩
        cases verified with
        | false => simp at clean
        | true =>
            rw [if_neg (by decide)] at clean
            split at clean
            · rename_i runId isRunId
              split_ifs at clean with same
              · exact ⟨record, bytes, text, runId, rfl, isRead, isLoaded, isVerified, isRunId,
                  isText_iff.mp same⟩
              · simp at clean
            · simp at clean
      · simp at clean
  · rintro ⟨record, bytes, text, runId, rfl, isRead, isLoaded, verified, isRunId, same⟩
    rw [judgeRecord, isRead, Checks.ok_bind, isLoaded, Checks.ok_bind]
    dsimp only
    rw [verified, Checks.ok_bind, if_neg (by decide), isRunId]
    exact if_pos (isText_iff.mpr same)

/-- A line names a record whose checksum holds, and has its identifier, where `look` says what
there is to read under a name. -/
def LineNames (φ : Type) [FloatText φ] (look : Points → Except FileError Bytes) (line : Str) :
    Prop :=
  ∃ (entry record : Members φ) (name : Text) (bytes : Bytes) (text : Str) (runId : Text),
    loadJson line = .ok (some (.object entry)) ∧
    entry.lookup "file".toText = some (.str name) ∧ pathName name.points = name.points ∧
    Openable name.points ∧ look name.points = .ok bytes ∧ readText bytes = .ok text ∧
    loadJson text = .ok (some (.object record)) ∧ verifyRunRecord record = .ok true ∧
    record.lookup "runId".toText = some (.str runId) ∧
    entry.lookup "runId".toText = some (.str runId)

theorem lineFindings_eq_nil_iff {look : Points → Except FileError Bytes} {number : ℕ} {line : Str} :
    lineFindings φ look number line = .ok [] ↔ LineNames φ look line := by
  constructor
  · intro clean
    rw [lineFindings, Checks.bind_eq_ok_iff] at clean
    rcases clean with ⟨loaded, isLoaded, clean⟩
    split at clean
    · simp at clean
    · rename_i entry
      split at clean
      · rename_i name isFile
        split_ifs at clean with unsafe_
        · simp at clean
        · rw [Checks.bind_eq_ok_iff] at clean
          rcases clean with ⟨_, openable, clean⟩
          rcases judgeRecord_eq_nil_iff.mp clean with ⟨record, bytes, text, runId, rest⟩
          exact ⟨entry, record, name, bytes, text, runId, isLoaded, isFile, not_not.mp unsafe_,
            checkName_eq_ok_iff.mp openable, rest⟩
      · simp at clean
    · simp at clean
  · rintro ⟨entry, record, name, bytes, text, runId, isLoaded, isFile, safe, openable, rest⟩
    rw [lineFindings, isLoaded, Checks.ok_bind]
    dsimp only
    rw [isFile]
    dsimp only
    rw [if_neg (not_not.mpr safe), checkName_of_openable openable, Checks.ok_bind]
    exact judgeRecord_eq_nil_iff.mpr ⟨record, bytes, text, runId, rest⟩

omit [FloatText φ] [Interpreter] in
theorem lookAt_eq_ok_iff {name : Points} {bytes : Bytes} :
    lookAt disk name = .ok bytes ↔
      ∃ file, disk.lookup name = some file ∧ disk.content file = bytes := by
  rw [lookAt]
  rcases disk.lookup name with _ | file
  · simp
  · simp

omit [FloatText φ] [Interpreter] in
theorem fsEncode_of_lookup {name : Points} {file : ℕ} (found : disk.lookup name = some file) :
    fsEncode name ≠ none := by
  rintro impossible
  rw [Disk.lookup, impossible] at found
  cases found

theorem lineSound_iff {line : Str} : LineSound φ disk line ↔ LineNames φ (lookAt disk) line := by
  constructor
  · rintro ⟨entry, record, name, runId, text, file, isLoaded, isFile, safe, notNull, named, rest⟩
    exact ⟨entry, record, name, disk.content file, text, runId, isLoaded, isFile, safe,
      ⟨fsEncode_of_lookup named, notNull⟩, lookAt_eq_ok_iff.mpr ⟨file, named, rfl⟩, rest⟩
  · rintro ⟨entry, record, name, bytes, text, runId, isLoaded, isFile, safe, openable, found, rest⟩
    rcases lookAt_eq_ok_iff.mp found with ⟨file, named, rfl⟩
    exact ⟨entry, record, name, runId, text, file, isLoaded, isFile, safe, openable.2, named, rest⟩

theorem allFindings_eq_nil_iff {start : ℕ} {lines : List Str} :
    allFindings φ (lookAt disk) start lines = .ok [] ↔ ∀ line ∈ lines, LineSound φ disk line := by
  induction lines generalizing start with
  | nil =>
      constructor
      · intro _ line impossible
        exact absurd impossible List.not_mem_nil
      · intro _
        rfl
  | cons line lines ih =>
      rw [List.forall_mem_cons, allFindings, Checks.bind_eq_ok_iff, lineSound_iff]
      constructor
      · rintro ⟨first, isFirst, clean⟩
        rw [Checks.bind_eq_ok_iff] at clean
        rcases clean with ⟨others, isOthers, same⟩
        rcases List.append_eq_nil_iff.mp (Except.ok.inj same) with ⟨rfl, rfl⟩
        exact ⟨lineFindings_eq_nil_iff.mp isFirst, ih.mp isOthers⟩
      · rintro ⟨first, others⟩
        refine ⟨[], lineFindings_eq_nil_iff.mpr first, ?_⟩
        rw [ih.mpr others]
        rfl

/-- The verifier finds nothing exactly when there is a readable journal and each of its lines names
a record whose checksum holds and has its identifier. -/
theorem clean_journal_iff :
    (∃ said, (verifyRunJournal φ).Replays () said (.ok []) () ∧
        Through (answers place who) disk said after) ↔
      after = disk ∧ (disk.names journalName).isSome = true ∧
        ∃ text, readText (journalBytes disk) = .ok text ∧
          ∀ line ∈ splitLines text, LineSound φ disk line := by
  constructor
  · intro clean
    have readable : (disk.names journalName).isSome = true ∧
        ∃ text, readText (journalBytes disk) = .ok text := by
      rcases clean with ⟨_, ⟨there, rest, rfl, continues⟩, middle, answered, more⟩
      cases answered
      rcases named : disk.names journalName with _ | file
      · rw [named] at continues
        rcases continues with ⟨_, impossible, _⟩
        cases impossible
      · refine ⟨rfl, ?_⟩
        rw [named] at continues
        rcases continues with ⟨data, rest, rfl, continues⟩
        rcases more with ⟨middle, answered, more⟩
        cases answered with
        | readFails message missing =>
            rw [Disk.lookup_text, named] at missing
            cases missing
        | readFile found =>
            rw [Disk.lookup_text, named] at found
            cases found
            change Replays (lift (readText (disk.content file)) >>= fun text =>
              checkLines φ 1 (splitLines text)) _ _ _ _ at continues
            rcases replays_lift_bind_ok_iff.mp continues with ⟨text, isRead, _⟩
            rw [journalBytes_of_names named]
            exact ⟨text, isRead⟩
    rcases readable with ⟨isFile, text, isRead⟩
    rcases (verifyRunJournal_iff isFile isRead).mp clean with ⟨nothing, same⟩
    exact ⟨same, isFile, text, isRead, allFindings_eq_nil_iff.mp nothing.symm⟩
  · rintro ⟨same, isFile, text, isRead, sound⟩
    exact (verifyRunJournal_iff isFile isRead).mpr ⟨(allFindings_eq_nil_iff.mpr sound).symm, same⟩

end Truth

/-! ### A relabelled line -/

/-- A line agrees with the record it names in everything that was copied into it. -/
def TellsTruth (φ : Type) [FloatText φ] [Interpreter] {ι : Type} (disk : Disk ι) (line : Str) :
    Prop :=
  ∀ (entry record : Members φ) (name : Text) (text : Str) (file : ℕ),
    loadJson line = .ok (some (.object entry)) → entry.lookup "file".toText = some (.str name) →
    disk.lookup name.points = some file → readText (disk.content file) = .ok text →
    loadJson text = .ok (some (.object record)) →
    ∀ key ∈ ["runId", "startedAt", "command", "consistent", "exitCode", "error"],
      entry.lookup key.toText = record.lookup key.toText

/-- The entry of a consistent run, with the verdict turned. -/
def relabelled : Members Unit :=
  [("runId".toText, .str (.ofStr ("sha256:".toList ++ List.replicate 64 '0'))),
    ("startedAt".toText, .str "2026".toText), ("command".toText, .str "run".toText),
    ("consistent".toText, .bool false), ("exitCode".toText, .int 0), ("error".toText, .null),
    ("file".toText, .str (.ofStr (zeroName "2026".toList)))]

/-- A directory of a journal and a record. -/
def pairDisk (journal payload : Bytes) (name : Str) : Disk ℕ :=
  (((Disk.empty.create journalName none).extend 0 journal).create name none).extend 1 payload

theorem pairDisk_names (journal payload : Bytes) {name : Str} (ordinary : name ≠ journalName) :
    (pairDisk journal payload name).names journalName = some 0 ∧
      (pairDisk journal payload name).names name = some 1 := by
  have names : (pairDisk journal payload name).names =
      Function.update (Function.update (fun _ => none) journalName (some 0)) name (some 1) := rfl
  rw [names]
  exact ⟨by rw [Function.update_of_ne ordinary.symm, Function.update_self],
    Function.update_self _ _ _⟩

theorem keyed_relabelled : (Document.object relabelled).Keyed := by
  apply keyed_object_iff.mpr
  constructor
  · change ["runId".toText, "startedAt".toText, "command".toText, "consistent".toText,
      "exitCode".toText, "error".toText, "file".toText].Nodup
    decide
  · intro member mem
    simp only [relabelled, List.mem_cons, List.not_mem_nil, or_false] at mem
    rcases mem with rfl | rfl | rfl | rfl | rfl | rfl | rfl
    all_goals trivial

theorem exists_relabelledText : letI := zeroText
    ∃ text, dumps .plain (.object relabelled) = some text := by
  let := zeroText
  apply Short.write .plain 0 rfl
  apply Short.object
  simp only [relabelled, List.forall_mem_cons]
  exact ⟨.str _, .str _, .str _, .bool _, short_zero, .null, .str _, List.forall_mem_nil _⟩

/-- A journal of one entry is read as its one line. -/
theorem read_entry {text : Str} (printable : AllPrintable .plain text) :
    readText (utf8 (text ++ ['\n'])) = .ok (text ++ ['\n']) ∧
      splitLines (text ++ ['\n']) = [text] := by
  have inRange : ∀ c ∈ text, 32 ≤ c.toNat ∧ c.toNat < 127 := by
    intro c mem
    rcases printable c mem with range | ⟨_, impossible⟩
    · exact range
    · exact absurd rfl impossible
  constructor
  · have newline : AllPrintable .indented ['\n'] :=
      AllPrintable.cons (Or.inr ⟨rfl, Option.some_ne_none 2⟩) allPrintable_nil
    exact readText_printable (AllPrintable.append (fun c mem => Or.inl (inRange c mem)) newline)
  · exact splitLines_line (fun c mem => noBreak_of_range (inRange c mem)) []

/-- The verifier finds nothing wrong with a line that calls a consistent run inconsistent. -/
theorem relabelled_clean : letI := asciiInterpreter []
    letI := zeroText
    ¬∀ disk : Disk ℕ, (∃ said, (verifyRunJournal Unit).Replays () said (.ok []) () ∧
        Through (answers (fun _ => 0) 0) disk said disk) →
      ∀ text, readText (journalBytes disk) = .ok text →
        ∀ line ∈ splitLines text, TellsTruth Unit disk line := by
  let := asciiInterpreter []
  let := zeroText
  intro truthful
  rcases exists_relabelledText with ⟨text, written⟩
  rcases zeroRecord_stem "2026".toList with ⟨payload, isStem⟩
  rcases read_record (keyed_zeroRecord _) (zeroRecord_verified _) (stem_run isStem).1 with
    ⟨recordText, isRead, isRecord⟩
  have loaded := loadJson_dumps keyed_relabelled written (show 1 ≤ 900 by decide)
    (List.forall_mem_nil _)
  rw [List.append_nil] at loaded
  let disk := pairDisk (utf8 (text ++ ['\n'])) payload (zeroName "2026".toList)
  rcases pairDisk_names (utf8 (text ++ ['\n'])) payload
    (show zeroName "2026".toList ≠ journalName by decide) with ⟨isFirst, named⟩
  rcases read_entry (allPrintable_dumps rfl written) with ⟨isText, lines⟩
  have isJournal : readText (journalBytes disk) = .ok (text ++ ['\n']) := by
    rw [journalBytes_of_names isFirst]
    exact isText
  have content : readText (disk.content 1) = .ok recordText := isRead
  have found : disk.lookup (Text.ofStr (zeroName "2026".toList)).points = some 1 :=
    (disk.lookup_text _).trans named
  have sound : LineSound Unit disk text := by
    refine ⟨relabelled, zeroRecord "2026".toList, .ofStr (zeroName "2026".toList),
      .ofStr ("sha256:".toList ++ List.replicate 64 '0'), recordText, 1, loaded, rfl, ?_, ?_, found,
      content, isRecord, zeroRecord_verified _, rfl, rfl⟩
    · decide
    · decide
  have nothing : allFindings Unit (lookAt disk) 1 (splitLines (text ++ ['\n'])) = .ok [] := by
    rw [lines]
    apply allFindings_eq_nil_iff.mpr
    intro line mem
    rw [List.mem_singleton.mp mem]
    exact sound
  have isFile : (disk.names journalName).isSome = true := Option.isSome_iff_exists.mpr ⟨0, isFirst⟩
  have clean : ∃ said, (verifyRunJournal Unit).Replays () said (.ok []) () ∧
      Through (answers (fun _ => 0) 0) disk said disk :=
    (verifyRunJournal_iff isFile isJournal).mpr ⟨nothing.symm, rfl⟩
  have truth := truthful disk clean _ isJournal text (by rw [lines]; exact List.mem_singleton_self _)
    relabelled (zeroRecord "2026".toList) _ recordText 1 loaded rfl found content isRecord
    "consistent" (by decide)
  cases truth

end Runs

end Psv
