import Psv.Runs.Lines
import Mathlib.Data.List.ReduceOption

/-!
# Calls in sequence and the journal they leave

A sequence of calls in one directory, each of which may fail anywhere.  What the
journal holds afterwards is determined by how much of its line each call got
through (`Contributes`), and every record that was written is still there.
-/

namespace Psv

open Python Interaction Program Document

namespace Runs

variable {φ : Type} [FloatText φ] [Interpreter] {process : ℕ → ℕ}

/-- One call with the answers it got and what became of it. -/
structure Call (φ : Type) where
  record : Members φ
  said : History fileSystem
  result : Except RunError Str

/-- The calls are made one after another; call number `k` is the first one. -/
def Sequence (process : ℕ → ℕ) : ℕ → Disk ℕ → List (Call φ) → Disk ℕ → Prop
  | _, disk, [], later => later = disk
  | k, disk, call :: calls, later => ∃ middle,
      (writeRunRecord call.record).Replays () call.said call.result () ∧
        Through (answers process k) disk call.said middle ∧
        Sequence process (k + 1) middle calls later

/-- The write of the journal took a part of the line only. -/
def Torn (said : History fileSystem) : Prop :=
  ∃ line count, JournalWrite said line count ∧ 0 < count ∧ count < line.length

/-- The write of the journal took the whole line. -/
def Whole (said : History fileSystem) : Prop := ∃ line, JournalWrite said line line.length

/-- What a call contributed to the journal. -/
inductive Contributes (call : Call φ) : Option Piece → Prop where
  | nothing (fails : ∃ error, call.result = .error error) (notTorn : ¬Torn call.said)
      (notWhole : ¬Whole call.said) : Contributes call none
  | torn {name text front : Str} (about : Piece.About ⟨name, front, false⟩ call.record text)
      (fails : ∃ error, call.result = .error error) (torn : Torn call.said)
      (notWhole : ¬Whole call.said) : Contributes call (some ⟨name, front, false⟩)
  | whole {name text : Str} (about : Piece.About ⟨name, text, true⟩ call.record text)
      (returned : ∀ result, call.result = .ok result → result = name) (notTorn : ¬Torn call.said)
      (whole : Whole call.said) : Contributes call (some ⟨name, text, true⟩)

/-- The record that a contribution is about is in the directory. -/
def Stored (disk : Disk ℕ) (call : Call φ) (piece : Option Piece) : Prop :=
  ∀ found, piece = some found → IsRecordName found.name ∧ found.name ≠ journalName ∧
    verifyRunRecord call.record = .ok true ∧
    lineOf .indented (.object call.record) = .ok (payloadOf call.record) ∧
    ∃ file, disk.names found.name = some file ∧ disk.content file = payloadOf call.record

theorem entryText_ne_nil {record : Members φ} {name text : Str}
    (isText : EntryText record name text) : text ≠ [] := by
  rcases isText.opens with ⟨c, more, rfl, _⟩
  exact List.cons_ne_nil _ _

/-- What a call contributes that came to the journal, by the number of bytes that the journal took of
its line. -/
theorem contributes_of_count {call : Call φ} {name text : Str} {count : ℕ}
    (isText : EntryText call.record name text) (front : count ≤ text.length + 1)
    (written : 0 < count → JournalWrite call.said (utf8 (text ++ ['\n'])) count)
    (only : ∀ line number, JournalWrite call.said line number →
      line.length = text.length + 1 ∧ number = count)
    (whole : ∀ result, call.result = .ok result → result = name ∧ count = text.length + 1) :
    ∃ piece, Contributes call piece ∧ (∀ found, piece = some found → found.name = name) ∧
      journalOf piece.toList = (text ++ ['\n']).take count := by
  have length : (utf8 (text ++ ['\n'])).length = text.length + 1 := by
    rw [length_utf8 isText.ascii, List.length_append, List.length_singleton]
  have errs : count ≠ text.length + 1 → ∃ error, call.result = .error error := by
    intro partly
    rcases ended : call.result with error | result
    · exact ⟨error, rfl⟩
    · exact absurd (whole result ended).2 partly
  have notTorn : count = 0 ∨ text.length < count → ¬Torn call.said := by
    rintro extreme ⟨line, number, write, positive, partly⟩
    have both := only line number write
    omega
  have notWhole : count ≠ text.length + 1 → ¬Whole call.said := by
    rintro partly ⟨line, write⟩
    have both := only line _ write
    omega
  rcases Nat.eq_zero_or_pos count with rfl | positive
  · have partly := (Nat.succ_ne_zero text.length).symm
    refine ⟨none, .nothing (errs partly) (notTorn (Or.inl rfl)) (notWhole partly), ?_, rfl⟩
    intro found impossible
    cases impossible
  · rcases Nat.lt_or_ge text.length count with all | part
    · have exact_ : count = text.length + 1 := Nat.le_antisymm front all
      have about : Piece.About ⟨name, text, true⟩ call.record text :=
        ⟨isText, List.prefix_rfl, entryText_ne_nil isText, fun _ => rfl⟩
      have took : Whole call.said := by
        refine ⟨utf8 (text ++ ['\n']), ?_⟩
        rw [length, ← exact_]
        exact written positive
      refine ⟨some ⟨name, text, true⟩, .whole about (fun result ended => (whole result ended).1)
        (notTorn (Or.inr all)) took, ?_, ?_⟩
      · rintro _ ⟨⟩
        rfl
      · rw [List.take_of_length_le (by rw [List.length_append, exact_]; rfl)]
        simp [journalOf]
    · have partly : count ≠ text.length + 1 := by omega
      have about : Piece.About ⟨name, text.take count, false⟩ call.record text := by
        refine ⟨isText, List.take_prefix _ _, ?_, fun impossible => by cases impossible⟩
        rw [Ne, List.take_eq_nil_iff, not_or]
        exact ⟨Nat.ne_of_gt positive, entryText_ne_nil isText⟩
      have took : Torn call.said := ⟨_, count, written positive, positive, by omega⟩
      refine ⟨some ⟨name, text.take count, false⟩, .torn about (errs partly) took
        (notWhole partly), ?_, ?_⟩
      · rintro _ ⟨⟩
        rfl
      · rw [List.take_append_of_le_length part]
        simp [journalOf]

/-- One call: what it contributes, and what the journal is afterwards. -/
theorem call_contributes {k : ℕ} {disk later : Disk ℕ} {call : Call φ} (sound : Sound disk)
    (fresh : ∀ file, disk.owner file ≠ some k)
    (replays : (writeRunRecord call.record).Replays () call.said call.result ())
    (through : Through (answers process k) disk call.said later) :
    Bypasses k disk later ∧ ∃ piece, Contributes call piece ∧ Stored later call piece ∧
      journalBytes later = journalBytes disk ++ utf8 (journalOf piece.toList) ∧
      ∀ found, piece = some found → disk.names found.name = none := by
  rcases writeRunRecord_effect sound fresh replays through with
    ⟨bypasses, ⟨fails, same, nowhere⟩ |
      ⟨name, line, count, entered, isLine, journal, front, written, only, whole⟩⟩
  · refine ⟨bypasses, none, .nothing fails ?_ ?_, ?_, ?_, ?_⟩
    · rintro ⟨line, count, write, _⟩
      exact nowhere line count write
    · rintro ⟨line, write⟩
      exact nowhere line _ write
    · intro found impossible
      cases impossible
    · rw [same]
      exact (List.append_nil _).symm
    · intro found impossible
      cases impossible
  · rcases journalLine_eq_ok_iff.mp isLine with ⟨text, isText, rfl⟩
    have length : (utf8 (text ++ ['\n'])).length = text.length + 1 := by
      rw [length_utf8 isText.ascii, List.length_append, List.length_singleton]
    rw [length] at front
    rcases contributes_of_count isText front written
      (fun line number write => ⟨(only line number write).1 ▸ length, (only line number write).2⟩)
      (fun result ended => ⟨(whole result ended).1, (whole result ended).2.1.trans length⟩) with
      ⟨piece, contributes, isName, text⟩
    refine ⟨bypasses, piece, contributes, ?_, ?_, ?_⟩
    · intro found isFound
      rcases entered.held with ⟨file, _, named, content⟩
      rw [isName found isFound]
      exact ⟨entered.isRecord, entered.ordinary, entered.verified, entered.isLine, file, named,
        content⟩
    · rw [journal, text, utf8_take isText.ascii]
    · intro found isFound
      rw [isName found isFound]
      exact entered.free

/-! ### The whole sequence -/

/-- What a sequence of calls leaves behind. -/
structure Journaled (disk later : Disk ℕ) (calls : List (Call φ)) (pieces : List (Option Piece)) :
    Prop where
  contributes : List.Forall₂ (fun call piece => Contributes call piece ∧ Stored later call piece)
    calls pieces
  journal : journalBytes later = journalBytes disk ++ utf8 (journalOf pieces.reduceOption)
  nodup : (pieces.reduceOption.map Piece.name).Nodup
  free : ∀ piece ∈ pieces.reduceOption, piece.name ≠ journalName ∧ disk.names piece.name = none
  older : ∀ name file, name ≠ journalName → disk.names name = some file →
    later.names name = some file ∧ later.content file = disk.content file

theorem Sequence.journaled {k : ℕ} {disk later : Disk ℕ} {calls : List (Call φ)}
    (sound : Sound disk) (fresh : ∀ file j, disk.owner file = some j → j < k)
    (sequence : Sequence process k disk calls later) :
    ∃ pieces, Journaled disk later calls pieces := by
  induction calls generalizing k disk with
  | nil =>
      cases sequence
      refine ⟨[], .nil, ?_, List.nodup_nil, fun _ mem => absurd mem List.not_mem_nil, ?_⟩
      · exact (List.append_nil _).symm
      · exact fun _ _ _ named => ⟨named, rfl⟩
  | cons call calls ih =>
      rcases sequence with ⟨middle, replays, through, rest⟩
      have foreign : ∀ file, disk.owner file ≠ some k :=
        fun file owned => lt_irrefl k (fresh file k owned)
      rcases call_contributes sound foreign replays through with
        ⟨bypasses, piece, contributes, stored, journal, isFree⟩
      have freshNext : ∀ file j, middle.owner file = some j → j < k + 1 := by
        intro file j owned
        by_cases own : j = k
        · rw [own]
          exact Nat.lt_succ_self k
        · exact Nat.lt_succ_of_lt (fresh file j ((bypasses.owner file j own).mp owned))
      rcases ih bypasses.sound freshNext rest with ⟨pieces, journaled⟩
      have storedLater : Stored later call piece := by
        intro found same
        rcases stored found same with ⟨isRecord, ordinary, verified, isLine, file, named, content⟩
        rcases journaled.older found.name file ordinary named with ⟨namedLater, contentLater⟩
        exact ⟨isRecord, ordinary, verified, isLine, file, namedLater, contentLater.trans content⟩
      have older : ∀ name file, name ≠ journalName → disk.names name = some file →
          later.names name = some file ∧ later.content file = disk.content file := by
        intro name file ordinary named
        rcases bypasses.older name file ordinary named with ⟨namedMiddle, content⟩
        rcases journaled.older name file ordinary namedMiddle with ⟨namedLater, contentLater⟩
        exact ⟨namedLater, contentLater.trans content⟩
      refine ⟨piece :: pieces, .cons ⟨contributes, storedLater⟩ journaled.contributes, ?_, ?_, ?_,
        older⟩
      · rw [journaled.journal, journal, List.append_assoc, ← utf8_append]
        congr 2
        rcases piece with _ | piece
        · rfl
        · rw [List.reduceOption_cons_of_some]
          simp [journalOf]
      · rcases piece with _ | piece
        · rw [List.reduceOption_cons_of_none]
          exact journaled.nodup
        · rw [List.reduceOption_cons_of_some, List.map_cons, List.nodup_cons]
          refine ⟨?_, journaled.nodup⟩
          intro mem
          rcases List.mem_map.mp mem with ⟨other, isOther, same⟩
          rcases stored piece rfl with ⟨_, _, _, _, file, named, _⟩
          have absent := (journaled.free other isOther).2
          rw [same, named] at absent
          cases absent
      · have later : ∀ other ∈ pieces.reduceOption,
            other.name ≠ journalName ∧ disk.names other.name = none := by
          intro other isOther
          rcases journaled.free other isOther with ⟨ordinary, absent⟩
          refine ⟨ordinary, ?_⟩
          rcases found : disk.names other.name with _ | file
          · rfl
          · rw [(bypasses.older other.name file ordinary found).1] at absent
            cases absent
        rcases piece with _ | piece
        · rw [List.reduceOption_cons_of_none]
          exact later
        · rw [List.reduceOption_cons_of_some]
          intro other mem
          rcases List.mem_cons.mp mem with rfl | mem
          · exact ⟨(stored other rfl).2.1, isFree other rfl⟩
          · exact later other mem

/-! ### Checking a directory that nobody changes -/

/-- The file behind a name, or that there is none. -/
def lookAt {ι : Type} (disk : Disk ι) (name : Points) : Except FileError Bytes :=
  match disk.lookup name with
  | some file => .ok (disk.content file)
  | none => .error (.os [])

/-- The findings about one line, where `look` says what there is to read under a name. -/
def lineFindings (φ : Type) [FloatText φ] (look : Points → Except FileError Bytes) (number : ℕ)
    (raw : Str) : Except RunError (List Str) := do
  let loaded : Option (Document φ) ← loadJson raw
  match loaded with
  | none => .ok [finding number "invalid or truncated JSON"]
  | some (.object entry) =>
      match entry.lookup "file".toText with
      | some (.str name) =>
          if pathName name.points ≠ name.points then
            .ok [finding number "unsafe record filename"]
          else do
            checkName name.points
            judgeRecord φ number entry (look name.points)
      | _ => .ok [finding number "unsafe record filename"]
  | some _ => .ok [finding number "entry must be an object"]

/-- The findings about the lines from some number on. -/
def allFindings (φ : Type) [FloatText φ] (look : Points → Except FileError Bytes) :
    ℕ → List Str → Except RunError (List Str)
  | _, [] => .ok []
  | number, raw :: rest => do
      let first ← lineFindings φ look number raw
      let others ← allFindings φ look (number + 1) rest
      return first ++ others

/-- A name that can be handed to the system. -/
def Openable (name : Points) : Prop := fsEncode name ≠ none ∧ .char (Char.ofNat 0) ∉ name

omit [Interpreter] in
theorem checkName_eq_ok_iff {name : Points} {ended : Unit} :
    checkName name = .ok ended ↔ Openable name := by
  simp only [checkName, Checks.bind_eq_ok_iff, refuse_eq_ok_iff, exists_const, Openable, ne_eq]

omit [Interpreter] in
theorem checkName_of_openable {name : Points} (openable : Openable name) :
    checkName name = .ok () := checkName_eq_ok_iff.mpr openable

omit [Interpreter] in
theorem openable_of_isLocal {name : Str} (plain : Disk.isLocal name) :
    Openable (name.map .char) := by
  constructor
  · rw [fsEncode_text]
    exact Option.some_ne_none _
  · intro mem
    rcases List.mem_map.mp mem with ⟨c, isChar, null⟩
    rw [Point.char.inj null] at isChar
    exact plain.2 isChar

section Checking

variable {ι : Type} {who : ι} {place : ι → ℕ} {disk after : Disk ι} {said : History fileSystem}

theorem read_iff {number : ℕ} {entry : Members φ} {name : Points}
    {result : Except RunError (List Str)} :
    (∃ said, Replays (question (S := fileSystem) (.read name) >>= fun data =>
        (lift (judgeRecord φ number entry data) : Job (List Str))) () said result () ∧
      Through (answers place who) disk said after) ↔
      result = judgeRecord φ number entry (lookAt disk name) ∧ after = disk := by
  constructor
  · rintro ⟨said, ⟨data, rest, rfl, continues⟩, middle, answered, more⟩
    rcases replays_lift_iff.mp continues with ⟨rfl, rfl, _⟩
    cases more
    cases answered with
    | readFile found =>
        rw [lookAt, found]
        exact ⟨rfl, rfl⟩
    | readFails message missing =>
        rw [lookAt, missing]
        exact ⟨rfl, rfl⟩
  · rintro ⟨rfl, rfl⟩
    refine ⟨[⟨FileAsk.read name, lookAt after name⟩], ?_, after, ?_, rfl⟩
    · exact ⟨_, [], rfl, replays_lift_iff.mpr ⟨rfl, rfl, rfl⟩⟩
    · rcases found : after.lookup name with _ | file
      · rw [lookAt, found]
        exact .readFails [] found
      · rw [lookAt, found]
        exact .readFile found

theorem checkLine_iff {number : ℕ} {raw : Str} {result : Except RunError (List Str)} :
    (∃ said, (checkLine φ number raw).Replays () said result () ∧
      Through (answers place who) disk said after) ↔
      result = lineFindings φ (lookAt disk) number raw ∧ after = disk := by
  have settled : ∀ computation : Except RunError (List Str),
      ((∃ said, Replays (lift computation : Job (List Str)) () said result () ∧
        Through (answers place who) disk said after) ↔ result = computation ∧ after = disk) := by
    intro computation
    constructor
    · rintro ⟨said, replays, through⟩
      rcases replays_lift_iff.mp replays with ⟨rfl, rfl, _⟩
      exact ⟨rfl, through⟩
    · rintro ⟨rfl, rfl⟩
      exact ⟨[], replays_lift_iff.mpr ⟨rfl, rfl, rfl⟩, rfl⟩
  rw [checkLine, lineFindings]
  rcases loadJson (φ := φ) raw with error | loaded
  · exact settled (.error error)
  · rcases loaded with _ | document
    · exact settled (.ok _)
    · rcases document with _ | _ | _ | _ | _ | _ | entry
      · exact settled (.ok _)
      · exact settled (.ok _)
      · exact settled (.ok _)
      · exact settled (.ok _)
      · exact settled (.ok _)
      · exact settled (.ok _)
      · simp only [Checks.ok_bind]
        change ((∃ said, Replays (match entry.lookup "file".toText with
          | some (.str name) => _
          | _ => _) () said result () ∧ _) ↔ _)
        rcases entry.lookup "file".toText with _ | value
        · exact settled (.ok _)
        · rcases value with _ | _ | _ | _ | name | _ | _
          · exact settled (.ok _)
          · exact settled (.ok _)
          · exact settled (.ok _)
          · exact settled (.ok _)
          · dsimp only
            split_ifs with unsafe_
            · exact settled (.ok _)
            · rcases checkName name.points with error | _
              · exact settled (.error error)
              · exact read_iff
          · exact settled (.ok _)
          · exact settled (.ok _)

theorem checkLines_iff {number : ℕ} {lines : List Str} {result : Except RunError (List Str)} :
    (∃ said, (checkLines φ number lines).Replays () said result () ∧
      Through (answers place who) disk said after) ↔
      result = allFindings φ (lookAt disk) number lines ∧ after = disk := by
  induction lines generalizing number result after with
  | nil =>
      constructor
      · rintro ⟨_, ⟨rfl, rfl, _⟩, through⟩
        exact ⟨rfl, through⟩
      · rintro ⟨rfl, rfl⟩
        exact ⟨[], ⟨rfl, rfl, rfl⟩, rfl⟩
  | cons raw lines ih =>
      rw [checkLines, allFindings]
      constructor
      · rintro ⟨said, replays, through⟩
        rcases replays_bind_iff.mp replays with
          ⟨first, _, front, back, rfl, begins, continues⟩ | ⟨error, rfl, begins⟩
        · rcases through_append_iff.mp through with ⟨middle, throughFront, throughBack⟩
          rcases checkLine_iff.mp ⟨front, begins, throughFront⟩ with ⟨isFirst, rfl⟩
          rw [← isFirst]
          rcases replays_bind_iff.mp continues with
            ⟨others, _, front, back, rfl, rest, ends⟩ | ⟨error, rfl, rest⟩
          · rcases through_append_iff.mp throughBack with ⟨last, throughRest, throughEnd⟩
            rcases ih.mp ⟨front, rest, throughRest⟩ with ⟨isRest, rfl⟩
            rcases ends with ⟨rfl, rfl, _⟩
            cases throughEnd
            rw [← isRest]
            exact ⟨rfl, rfl⟩
          · rcases ih.mp ⟨back, rest, throughBack⟩ with ⟨isRest, rfl⟩
            rw [← isRest]
            exact ⟨rfl, rfl⟩
        · rcases checkLine_iff.mp ⟨said, begins, through⟩ with ⟨isFirst, rfl⟩
          rw [← isFirst]
          exact ⟨rfl, rfl⟩
      · rintro ⟨rfl, rfl⟩
        rcases (checkLine_iff (φ := φ)).mpr ⟨rfl, rfl⟩ with ⟨front, begins, throughFront⟩
        rcases ih.mpr ⟨rfl, rfl⟩ with ⟨back, rest, throughBack⟩
        rcases isFirst : lineFindings φ (lookAt after) number raw with error | first
        · rw [isFirst] at begins
          exact ⟨front, replays_bind_iff.mpr (Or.inr ⟨error, rfl, begins⟩), throughFront⟩
        · rw [isFirst] at begins
          rcases isRest : allFindings φ (lookAt after) (number + 1) lines with error | others
          · rw [isRest] at rest
            refine ⟨front ++ back, replays_bind_iff.mpr (Or.inl ⟨first, (), front, back, rfl, begins,
              ?_⟩), through_append_iff.mpr ⟨after, throughFront, throughBack⟩⟩
            exact replays_bind_iff.mpr (Or.inr ⟨error, rfl, rest⟩)
          · rw [isRest] at rest
            refine ⟨front ++ back, replays_bind_iff.mpr (Or.inl ⟨first, (), front, back, rfl, begins,
              ?_⟩), through_append_iff.mpr ⟨after, throughFront, throughBack⟩⟩
            exact replays_bind_iff.mpr (Or.inl ⟨others, (), back, [], (List.append_nil _).symm, rest,
              rfl, rfl, rfl⟩)

/-- What the journal verifier answers for a journal with this text. -/
theorem verifyRunJournal_iff {text : Str} (isFile : (disk.names journalName).isSome = true)
    (isText : readText (journalBytes disk) = .ok text) {result : Except RunError (List Str)} :
    (∃ said, (verifyRunJournal φ).Replays () said result () ∧
      Through (answers place who) disk said after) ↔
      result = allFindings φ (lookAt disk) 1 (splitLines text) ∧ after = disk := by
  rcases Option.isSome_iff_exists.mp isFile with ⟨file, named⟩
  rw [journalBytes_of_names named] at isText
  have lines : (∃ said, (checkLines φ 1 (splitLines text)).Replays () said result () ∧
      Through (answers place who) disk said after) ↔ _ := checkLines_iff
  rw [← lines]
  constructor
  · rintro ⟨_, ⟨there, rest, rfl, continues⟩, middle, answered, more⟩
    cases answered
    rw [named] at continues
    rcases continues with ⟨data, rest, rfl, continues⟩
    rcases more with ⟨middle, answered, more⟩
    cases answered with
    | readFails message missing =>
        rw [Disk.lookup_text, named] at missing
        cases missing
    | readFile found =>
        rw [Disk.lookup_text, named] at found
        cases found
        change Replays (lift (readText (disk.content file)) >>= fun text =>
          checkLines φ 1 (splitLines text)) _ _ _ _ at continues
        rw [isText] at continues
        exact ⟨rest, continues, more⟩
  · rintro ⟨said, replays, through⟩
    refine ⟨⟨FileAsk.isFile journalName, .ok (disk.names journalName).isSome⟩ ::
      ⟨FileAsk.read (journalName.map .char), .ok (disk.content file)⟩ :: said, ?_, disk, .isFile,
      disk, .readFile ((disk.lookup_text journalName).trans named), through⟩
    refine ⟨_, _, rfl, ?_⟩
    rw [isFile]
    refine ⟨_, _, rfl, ?_⟩
    change Replays (lift (readText (disk.content file)) >>= fun text =>
      checkLines φ 1 (splitLines text)) _ _ _ _
    rw [isText]
    exact replays

end Checking

/-! ### The line of a call -/

section Represented

variable {record entry : Members φ} {name text : Str} {disk later : Disk ℕ}

omit [FloatText φ] [Interpreter] in
theorem lookup_entry (isEntry : journalEntry record name = .ok entry) :
    entry.lookup "file".toText = some (.str (.ofPoints (pathName (name.map .char)))) ∧
      entry.lookup "runId".toText = record.lookup "runId".toText := by
  rcases journalEntry_eq_ok_iff.mp isEntry with ⟨runId, startedAt, command, consistent, exitCode,
    error, isRunId, _, _, _, _, _, rfl⟩
  rw [isRunId]
  exact ⟨rfl, rfl⟩

omit [Interpreter] in
theorem readText_printable {style : Style} (printable : AllPrintable style text) :
    readText (utf8 text) = .ok text := by
  have noReturn : '\r' ∉ text := by
    intro mem
    rcases printable _ mem with range | ⟨impossible, _⟩
    · exact absurd range.1 (by decide)
    · exact absurd impossible (by decide)
  rw [readText, decodeUtf8_utf8]
  exact congrArg Except.ok (universalNewlines_eq noReturn)

theorem loadJson_dumps {style : Style} {document : Document φ} (keyed : document.Keyed)
    (written : dumps style document = some text) (shallow : document.depth ≤ Interpreter.readLevels)
    {blanks : Str} (all : ∀ c ∈ blanks, isBlank c = true) :
    loadJson (text ++ blanks) = .ok (some document) := by
  rw [loadJson, loads_dumps keyed written shallow all]

/-- A record whose checksum can be taken is not too deep to be read. -/
theorem depth_of_verified (keyed : (Document.object record).Keyed)
    (verified : verifyRunRecord record = .ok true) :
    (Document.object record).depth ≤ Interpreter.readLevels := by
  rcases verifyRunRecord_eq_true_iff.mp verified with ⟨hash, isRunId, isHash⟩
  have shallow := (contentHash_eq_ok_iff.mp isHash).1
  rcases Nat.exists_eq_add_of_lt (Interpreter.le_hashLevels) with ⟨levels, isLevels⟩
  rw [isLevels, hashPayload, depth_object_le_iff] at shallow
  refine le_trans ?_ (isLevels ▸ Interpreter.hashLevels_le)
  apply depth_object_le_iff.mpr
  rintro ⟨key, value⟩ mem
  by_cases same : key = "runId".toText
  · subst same
    rw [(lookup_eq_some_iff_mem (keyed_object_iff.mp keyed).1).mpr mem] at isRunId
    cases isRunId
    exact Nat.zero_le _
  · exact shallow _ (List.mem_filter.mpr ⟨mem, decide_eq_true same⟩)

/-- The file of a record holds the record. -/
theorem read_record (keyed : (Document.object record).Keyed)
    (verified : verifyRunRecord record = .ok true) {payload : Bytes}
    (isLine : lineOf .indented (.object record) = .ok payload) :
    ∃ text, readText payload = .ok text ∧ loadJson text = .ok (some (.object record)) := by
  rcases lineOf_eq_ok_iff.mp isLine with ⟨_, text, written, rfl⟩
  refine ⟨text ++ ['\n'], ?_,
    loadJson_dumps keyed written (depth_of_verified keyed verified) (by decide)⟩
  have newline : AllPrintable .indented ['\n'] :=
    AllPrintable.cons (Or.inr ⟨rfl, Option.some_ne_none 2⟩) allPrintable_nil
  exact readText_printable ((allPrintable_dumps rfl written).append newline)

/-- The line of a record that is in its place is beyond reproach. -/
theorem lineFindings_entry (keyed : (Document.object record).Keyed)
    (isText : EntryText record name text) (isRecord : IsRecordName name)
    (verified : verifyRunRecord record = .ok true) {payload : Bytes}
    (isLine : lineOf .indented (.object record) = .ok payload)
    (found : lookAt disk (name.map .char) = .ok payload) (number : ℕ) :
    lineFindings φ (lookAt disk) number text = .ok [] := by
  rcases isText with ⟨entry, isEntry, shallow, written⟩
  have loaded := loadJson_dumps (keyed_entry keyed isEntry) written
    (shallow.trans Interpreter.hashLevels_le) (List.forall_mem_nil _)
  rw [List.append_nil] at loaded
  rcases lookup_entry isEntry with ⟨isFile, sameRunId⟩
  rcases read_record keyed verified isLine with ⟨text, isRead, isLoaded⟩
  rcases verifyRunRecord_eq_true_iff.mp verified with ⟨runId, isRunId, _⟩
  have plain : pathName (Text.ofStr name).points = (Text.ofStr name).points := pathName_eq isRecord
  rw [pathName_eq isRecord, Text.ofPoints_map] at isFile
  rw [lineFindings, loaded, Checks.ok_bind]
  dsimp only
  rw [isFile]
  dsimp only
  rw [if_neg (not_not.mpr plain), Text.points_ofStr,
    checkName_of_openable (openable_of_isLocal isRecord.1), Checks.ok_bind, found, judgeRecord]
  rw [isRead, Checks.ok_bind, isLoaded, Checks.ok_bind]
  dsimp only
  rw [verified, Checks.ok_bind, if_neg (by decide), isRunId]
  dsimp only
  rw [sameRunId, isRunId, if_pos]
  simp [isText]

end Represented

end Runs

end Psv
