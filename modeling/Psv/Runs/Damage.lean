import Psv.Runs.Journal

/-!
# What a failed append does to the entries behind it

A write of the journal that took a part of its line leaves that part behind, and
the next line continues it.  So a call that returns is represented in the journal
exactly when nothing of that kind was pending when it came to the journal.
-/

namespace Psv

open Python Interaction Program Document

namespace Runs

/-! ### Findings and their lines -/

theorem toList_finding (number : ℕ) (what : String) :
    finding number what = "runs.jsonl:".toList ++ (Nat.toDigits 10 number ++ ':' :: ' ' ::
      what.toList) := by
  have shown : (toString number).toList = Nat.toDigits 10 number := Nat.toList_repr
  have parts : finding number what =
      (("runs.jsonl:" ++ toString number) ++ ": " ++ what).toList := rfl
  rw [parts, String.toList_append, String.toList_append, String.toList_append, shown,
    List.append_assoc, List.append_assoc]
  rfl

theorem takeWhile_toDigits (number : ℕ) (rest : Str) :
    (Nat.toDigits 10 number ++ ':' :: rest).takeWhile Char.isDigit = Nat.toDigits 10 number := by
  have digits : ∀ c ∈ Nat.toDigits 10 number, c.isDigit = true :=
    fun c mem => Nat.isDigit_of_mem_toDigits (Nat.succ_pos 9) (le_refl 10) mem
  rw [List.takeWhile_append_of_pos digits, List.takeWhile_cons_of_neg (by decide), List.append_nil]

/-- A finding is about one line only. -/
theorem finding_injective {number other : ℕ} {what thing : String}
    (same : finding number what = finding other thing) : number = other := by
  rw [toList_finding, toList_finding, List.append_cancel_left_eq] at same
  have digits := congrArg (List.takeWhile Char.isDigit) same
  rw [takeWhile_toDigits, takeWhile_toDigits] at digits
  have values := congrArg (fun digits => Nat.ofDigitChars 10 digits 0) digits
  rwa [Nat.ofDigitChars_toDigits (by decide) (by decide),
    Nat.ofDigitChars_toDigits (by decide) (by decide)] at values

section Findings

variable {φ : Type} [FloatText φ] [Interpreter] {look : Points → Except FileError Bytes}

theorem mem_judgeRecord {number : ℕ} {entry : Members φ} {data : Except FileError Bytes}
    {found : List Str} (isFound : judgeRecord φ number entry data = .ok found) :
    ∀ text ∈ found, ∃ what, text = finding number what := by
  have none_ : ∀ text ∈ ([] : List Str), ∃ what, text = finding number what :=
    fun text mem => absurd mem List.not_mem_nil
  have one : ∀ what, ∀ text ∈ [finding number what], ∃ what, text = finding number what :=
    fun what text mem => ⟨what, List.mem_singleton.mp mem⟩
  rw [judgeRecord.eq_def] at isFound
  split at isFound
  · cases isFound
    exact one _
  · simp only [Checks.bind_eq_ok_iff] at isFound
    rcases isFound with ⟨_, _, loaded, _, isFound⟩
    split at isFound
    · cases isFound
      exact one _
    · simp only [Checks.bind_eq_ok_iff] at isFound
      rcases isFound with ⟨verified, _, isFound⟩
      split_ifs at isFound
      · cases isFound
        exact one _
      · split at isFound
        · split_ifs at isFound
          · cases isFound
            exact none_
          · cases isFound
            exact one _
        · cases isFound
          exact one _
    · cases isFound
      exact one _

theorem mem_lineFindings {number : ℕ} {raw : Str} {found : List Str}
    (isFound : lineFindings φ look number raw = .ok found) :
    ∀ text ∈ found, ∃ what, text = finding number what := by
  have one : ∀ what, ∀ text ∈ [finding number what], ∃ what, text = finding number what :=
    fun what text mem => ⟨what, List.mem_singleton.mp mem⟩
  rw [lineFindings, Checks.bind_eq_ok_iff] at isFound
  rcases isFound with ⟨loaded, _, isFound⟩
  split at isFound
  · cases isFound
    exact one _
  · split at isFound
    · split_ifs at isFound
      · cases isFound
        exact one _
      · rcases Checks.bind_eq_ok_iff.mp isFound with ⟨_, _, isFound⟩
        exact mem_judgeRecord isFound
    · cases isFound
      exact one _
  · cases isFound
    exact one _

/-- Every finding is about some line and stands in the list for its sake. -/
theorem mem_allFindings {start : ℕ} {lines : List Str} {found : List Str}
    (isFound : allFindings φ look start lines = .ok found) {text : Str} (mem : text ∈ found) :
    ∃ offset raw part, lines[offset]? = some raw ∧
      lineFindings φ look (start + offset) raw = .ok part ∧ text ∈ part := by
  induction lines generalizing start found with
  | nil =>
      cases isFound
      exact absurd mem List.not_mem_nil
  | cons raw lines ih =>
      simp only [allFindings, Checks.bind_eq_ok_iff] at isFound
      rcases isFound with ⟨first, isFirst, others, isOthers, same⟩
      cases same
      rcases List.mem_append.mp mem with mem | mem
      · exact ⟨0, raw, first, rfl, isFirst, mem⟩
      · rcases ih isOthers mem with ⟨offset, other, part, isLine, isPart, inPart⟩
        refine ⟨offset + 1, other, part, isLine, ?_, inPart⟩
        rwa [Nat.add_assoc, Nat.add_comm 1 offset] at isPart

/-- A line without findings is in no finding of the whole journal. -/
theorem notMem_allFindings {start offset : ℕ} {lines : List Str} {found : List Str} {raw : Str}
    (isFound : allFindings φ look start lines = .ok found) (isLine : lines[offset]? = some raw)
    (clean : lineFindings φ look (start + offset) raw = .ok []) (what : String) :
    finding (start + offset) what ∉ found := by
  intro mem
  rcases mem_allFindings isFound mem with ⟨place, other, part, isOther, isPart, inPart⟩
  rcases mem_lineFindings isPart _ inPart with ⟨thing, same⟩
  have place_ : place = offset := by
    have equal := finding_injective same
    omega
  subst place_
  rw [isLine] at isOther
  cases isOther
  rw [clean] at isPart
  cases isPart
  exact absurd inPart List.not_mem_nil

end Findings

/-! ### What is pending -/

theorem forall₂_split {α β : Type} {Related : α → β → Prop} {first : List α} {item : α}
    {second : List α} {others : List β}
    (related : List.Forall₂ Related (first ++ item :: second) others) :
    ∃ front other back, others = front ++ other :: back ∧ List.Forall₂ Related first front ∧
      Related item other ∧ List.Forall₂ Related second back := by
  induction first generalizing others with
  | nil =>
      rcases List.forall₂_cons_left_iff.mp related with ⟨other, back, isItem, rest, rfl⟩
      exact ⟨[], other, back, rfl, .nil, isItem, rest⟩
  | cons head first ih =>
      rcases List.forall₂_cons_left_iff.mp related with ⟨other, others, isHead, rest, rfl⟩
      rcases ih rest with ⟨front, other_, back, rfl, before, isItem, after⟩
      exact ⟨other :: front, other_, back, rfl, .cons isHead before, isItem, after⟩

theorem exists_left {α β : Type} {Related : α → β → Prop} {items : List α} {others : List β}
    (related : List.Forall₂ Related items others) {other : β} (mem : other ∈ others) :
    ∃ item ∈ items, Related item other := by
  induction related with
  | nil => exact absurd mem List.not_mem_nil
  | cons isHead rest ih =>
      rcases List.mem_cons.mp mem with rfl | mem
      · exact ⟨_, List.mem_cons_self, isHead⟩
      · rcases ih mem with ⟨item, isItem, isRelated⟩
        exact ⟨item, List.mem_cons_of_mem _ isItem, isRelated⟩

section Pending

variable {φ : Type} {calls earlier : List (Call φ)} {pieces : List (Option Piece)}

/-- A write took a part of its line, and no whole line has been written since. -/
def Pending (calls : List (Call φ)) : Prop :=
  ∃ before torn after, calls = before ++ torn :: after ∧ Torn torn.said ∧
    ∀ call ∈ after, ¬Whole call.said

/-- What is pending is the last piece that does not end its line. -/
theorem pending_iff [FloatText φ] [Interpreter]
    (contributes : List.Forall₂ Contributes calls pieces) :
    Pending calls ↔ ¬AtBoundary pieces.reduceOption := by
  constructor
  · rintro ⟨before, torn, after, rfl, isTorn, noWhole⟩ boundary
    rcases forall₂_split contributes with ⟨front, piece, back, rfl, _, isPiece, rest⟩
    have open_ : ∀ other ∈ back.reduceOption, other.ends = false := by
      intro other mem
      rcases exists_left rest (List.reduceOption_mem_iff.mp mem) with ⟨call, isCall, isOther⟩
      cases isOther with
      | torn => rfl
      | whole _ _ _ whole => exact absurd whole (noWhole call isCall)
    cases isPiece with
    | nothing _ notTorn => exact notTorn isTorn
    | whole _ _ notTorn => exact notTorn isTorn
    | torn about fails isTorn notWhole =>
        rename_i name text front_
        rw [List.reduceOption_append, List.reduceOption_cons_of_some] at boundary
        rcases List.eq_nil_or_concat' back.reduceOption with none_ | ⟨others, last, isLast⟩
        · have ends := boundary ⟨name, front_, false⟩ (by rw [none_, List.getLast?_concat])
          cases ends
        · have ends := boundary last (by
            rw [isLast, ← List.cons_append, ← List.append_assoc, List.getLast?_concat])
          have stays := open_ last (by rw [isLast]; exact List.mem_concat_self)
          rw [stays] at ends
          cases ends
  · intro broken
    induction contributes with
    | nil => exact absurd atBoundary_nil broken
    | cons isPiece rest ih =>
        rename_i call piece calls pieces
        by_cases later : AtBoundary pieces.reduceOption
        · rcases piece with _ | piece
          · rw [List.reduceOption_cons_of_none] at broken
            exact absurd later broken
          · rw [List.reduceOption_cons_of_some] at broken
            have alone : pieces.reduceOption = [] ∧ piece.ends = false := by
              by_contra other
              apply broken
              apply later.cons
              intro none_
              rw [none_] at other
              simpa using other
            cases isPiece with
            | whole => cases alone.2
            | torn _ _ torn =>
                refine ⟨[], call, calls, rfl, torn, ?_⟩
                intro other mem whole
                rcases List.append_of_mem mem with ⟨first, second, rfl⟩
                rcases forall₂_split rest with ⟨front, part, back, rfl, _, isPart, _⟩
                rw [List.reduceOption_append] at alone
                cases isPart with
                | nothing _ _ notWhole => exact notWhole whole
                | torn => simp at alone
                | whole => simp at alone
        · rcases ih later with ⟨before, torn, after, rfl, isTorn, noWhole⟩
          exact ⟨call :: before, torn, after, rfl, isTorn, noWhole⟩

end Pending

/-! ### The calls that are represented -/

section Represented

variable {φ : Type} [FloatText φ] [Interpreter] {process : ℕ → ℕ} {disk later : Disk ℕ}
  {calls : List (Call φ)} {pieces : List (Option Piece)}

/-- A line of the journal is an entry that names the record, and the verifier has nothing to say
about this line. -/
def Represented (process : ℕ → ℕ) (disk : Disk ℕ) (record : Members φ) (name : Str) : Prop :=
  ∃ text offset line entry, readText (journalBytes disk) = .ok text ∧
    (splitLines text)[offset]? = some line ∧
    loadJson (φ := φ) line = .ok (some (.object entry)) ∧
    entry.lookup "file".toText = some (.str (.ofStr name)) ∧
    entry.lookup "runId".toText = record.lookup "runId".toText ∧
    ∀ said found after, (verifyRunJournal φ).Replays () said (.ok found) () →
      Through (answers process 0) disk said after → ∀ what, finding (offset + 1) what ∉ found

theorem Journaled.about (journaled : Journaled disk later calls pieces) {piece : Piece}
    (mem : piece ∈ pieces.reduceOption) :
    ∃ call ∈ calls, ∃ text, piece.About call.record text ∧ Stored later call (some piece) := by
  rcases exists_left journaled.contributes (List.reduceOption_mem_iff.mp mem) with
    ⟨call, isCall, contributes, stored⟩
  cases contributes with
  | torn about => exact ⟨call, isCall, _, about, stored⟩
  | whole about => exact ⟨call, isCall, _, about, stored⟩

theorem Journaled.solid (journaled : Journaled disk later calls pieces) :
    ∀ piece ∈ pieces.reduceOption, piece.Solid := by
  intro piece mem
  rcases journaled.about mem with ⟨call, _, text, about, _⟩
  exact about.solid

/-- The text of the journal and its lines. -/
theorem Journaled.lines (journaled : Journaled disk later calls pieces)
    (empty : journalBytes disk = []) :
    readText (journalBytes later) = .ok (journalOf pieces.reduceOption) ∧
      splitLines (journalOf pieces.reduceOption) =
        (groups [] pieces.reduceOption).map lineText := by
  constructor
  · rw [journaled.journal, empty, List.nil_append]
    have printable : AllPrintable .indented (journalOf pieces.reduceOption) := by
      intro c mem
      rcases List.mem_flatMap.mp mem with ⟨piece, isPiece, mem⟩
      rcases journaled.about isPiece with ⟨call, _, text, about, _⟩
      rcases List.mem_append.mp mem with mem | mem
      · exact Or.inl (range_of_printable (about.isText.printable c (about.isFront.subset mem)))
      · split_ifs at mem
        · rw [List.mem_singleton.mp mem]
          exact Or.inr ⟨rfl, Option.some_ne_none 2⟩
        · exact absurd mem List.not_mem_nil
    exact readText_printable printable
  · have noLine : ∀ piece ∈ ([] : List Piece), piece.Solid := List.forall_mem_nil _
    have whole := splitLines_journalOf noLine journaled.solid
    rwa [show lineText [] = [] from rfl, List.nil_append] at whole

/-- A line that is an entry is the whole contribution of the call whose record it names. -/
theorem Journaled.entry_line (journaled : Journaled disk later calls pieces)
    (keyed : ∀ call ∈ calls, (Document.object call.record).Keyed) {group : List Piece}
    (mem : group ∈ groups [] pieces.reduceOption) {entry : Members φ} {name : Str}
    (loaded : loadJson (lineText group) = .ok (some (.object entry)))
    (isFile : entry.lookup "file".toText = some (.str (.ofStr name))) :
    ∃ piece, group = [piece] ∧ piece.name = name := by
  rcases mem_groups mem with ⟨before, after, same, _⟩
  rw [List.nil_append] at same
  have inside : ∀ piece ∈ group, piece ∈ pieces.reduceOption := by
    intro piece isPiece
    rw [same]
    exact List.mem_append_right _ (List.mem_append_left _ isPiece)
  have read : ∃ document, Document.parse (φ := φ) Interpreter.readLevels (lineText group) =
      .ok document := by
    rw [loadJson, loads, loadsWith] at loaded
    rcases isParsed : Document.parse (φ := φ) Interpreter.readLevels (lineText group) with
      error | document
    · rw [isParsed] at loaded
      cases error
      · cases loaded
      · cases loaded
      · cases loaded
      · cases loaded
    · exact ⟨document, rfl⟩
  rcases read with ⟨document, read⟩
  have some_ : group ≠ [] := by
    rintro rfl
    rw [show lineText [] = [] from rfl] at loaded
    cases loaded
  rcases single_of_parse some_ (fun piece isPiece => by
    rcases journaled.about (inside piece isPiece) with ⟨call, _, text, about, _⟩
    exact ⟨call.record, text, about⟩) read with ⟨piece, rfl, complete⟩
  refine ⟨piece, rfl, ?_⟩
  rcases journaled.about (inside piece List.mem_cons_self) with ⟨call, isCall, text, about, stored⟩
  rcases about.isText with ⟨own, isOwn, shallow, written⟩
  have ownLoaded := loadJson_dumps (keyed_entry (keyed call isCall) isOwn) written
    (shallow.trans Interpreter.hashLevels_le) (List.forall_mem_nil _)
  rw [List.append_nil] at ownLoaded
  rw [lineText_singleton, complete call.record text about, ownLoaded] at loaded
  have same : own = entry := by
    injection loaded with loaded
    injection loaded with loaded
    injection loaded
  rw [← same, (lookup_entry isOwn).1, pathName_eq (stored piece rfl).1, Text.ofPoints_map] at isFile
  injection isFile with isFile
  injection isFile with isFile
  exact Text.ofStr_injective isFile

omit [Interpreter] in
theorem journalBytes_isFile {ι : Type} {disk : Disk ι} (some_ : journalBytes disk ≠ []) :
    (disk.names journalName).isSome = true := by
  rcases found : disk.names journalName with _ | file
  · exact absurd (journalBytes_of_free found) some_
  · rfl

omit [Interpreter] in
/-- A list without repeated names is split by a name in one way. -/
theorem front_unique {whole before after front back : List Piece} {piece other : Piece}
    (nodup : (whole.map Piece.name).Nodup) (first : whole = before ++ piece :: after)
    (second : whole = front ++ other :: back) (sameName : piece.name = other.name) :
    before = front := by
  have isFirst : piece ∈ whole := first ▸ List.mem_append_right _ List.mem_cons_self
  have isSecond : other ∈ whole := second ▸ List.mem_append_right _ List.mem_cons_self
  have same : piece = other := List.inj_on_of_nodup_map nodup isFirst isSecond sameName
  subst same
  have whole_ := List.Nodup.of_map _ nodup
  rw [first] at whole_
  have absent := (List.nodup_cons.mp (List.nodup_middle.mp whole_)).1
  have notBefore : piece ∉ before := fun mem => absent (List.mem_append_left _ mem)
  have notAfter : piece ∉ after := fun mem => absent (List.mem_append_right _ mem)
  exact ((List.append_cons_inj_of_notMem notBefore notAfter).mp (first.symm.trans second)).1

/-- A line that consists of the whole contribution of one call represents this call. -/
theorem Journaled.represents (journaled : Journaled disk later calls pieces)
    (empty : journalBytes disk = []) {call : Call φ}
    (keyed : (Document.object call.record).Keyed) {name text : Str}
    (about : Piece.About ⟨name, text, true⟩ call.record text)
    (stored : Stored later call (some ⟨name, text, true⟩))
    (mem : [⟨name, text, true⟩] ∈ groups [] pieces.reduceOption) :
    Represented process later call.record name := by
  rcases journaled.lines empty with ⟨isText, isLines⟩
  rcases List.getElem?_of_mem mem with ⟨offset, isGroup⟩
  rcases about.isText with ⟨entry, isEntry, shallow, written⟩
  rcases stored _ rfl with ⟨isRecord, _, verified, isLine, file, named, content⟩
  have isOffset : (splitLines (journalOf pieces.reduceOption))[offset]? = some text := by
    rw [isLines, List.getElem?_map, isGroup, Option.map_some, lineText_singleton]
  have loaded := loadJson_dumps (keyed_entry keyed isEntry) written
    (shallow.trans Interpreter.hashLevels_le) (List.forall_mem_nil _)
  rw [List.append_nil] at loaded
  rcases lookup_entry isEntry with ⟨isFile, isRunId⟩
  rw [pathName_eq isRecord, Text.ofPoints_map] at isFile
  refine ⟨_, offset, text, entry, isText, isOffset, loaded, isFile, isRunId, ?_⟩
  intro said found after replays through what
  have some_ : journalBytes later ≠ [] := by
    intro none_
    rw [none_] at isText
    have noText : journalOf pieces.reduceOption = [] := (Except.ok.inj isText).symm
    rw [noText] at isOffset
    cases isOffset
  rcases (verifyRunJournal_iff (journalBytes_isFile some_) isText).mp ⟨said, replays, through⟩ with
    ⟨isFound, _⟩
  have looked : lookAt later (name.map .char) = .ok (payloadOf call.record) := by
    rw [lookAt, Disk.lookup_text, named]
    exact congrArg Except.ok content
  have clean := lineFindings_entry keyed about.isText isRecord verified isLine looked (1 + offset)
  rw [Nat.add_comm offset 1]
  exact notMem_allFindings isFound.symm isOffset clean what

/-- The contribution of a call that returns. -/
theorem Journaled.place (journaled : Journaled disk later calls pieces)
    {earlier rest : List (Call φ)} {call : Call φ} {name : Str}
    (isPlace : calls = earlier ++ call :: rest) (returned : call.result = .ok name) :
    ∃ front back text, pieces.reduceOption = front ++ ⟨name, text, true⟩ :: back ∧
      (Pending earlier ↔ ¬AtBoundary front) ∧
      Piece.About ⟨name, text, true⟩ call.record text ∧
      Stored later call (some ⟨name, text, true⟩) := by
  subst isPlace
  rcases forall₂_split journaled.contributes with
    ⟨front, piece, back, rfl, before, ⟨isPiece, stored⟩, _⟩
  have pending := pending_iff (before.imp fun call piece both => both.1)
  cases isPiece with
  | nothing fails =>
      rcases fails with ⟨error, failed⟩
      rw [returned] at failed
      cases failed
  | torn _ fails =>
      rcases fails with ⟨error, failed⟩
      rw [returned] at failed
      cases failed
  | whole about isName notTorn whole =>
      rename_i own text
      have same := isName name returned
      subst same
      refine ⟨front.reduceOption, back.reduceOption, text, ?_, pending, about, stored⟩
      rw [List.reduceOption_append, List.reduceOption_cons_of_some]

/-- Behind a part of a line a call that returns is not represented. -/
theorem Journaled.not_represented (journaled : Journaled disk later calls pieces)
    (start : journalBytes disk = []) (keyed : ∀ call ∈ calls, (Document.object call.record).Keyed)
    {earlier rest : List (Call φ)} {call : Call φ} {name : Str}
    (isPlace : calls = earlier ++ call :: rest) (returned : call.result = .ok name)
    (pending : Pending earlier) : ¬Represented process later call.record name := by
  rintro ⟨whole, offset, line, entry, isWhole, isLine, loaded, isFile, _, _⟩
  rcases journaled.place isPlace returned with ⟨front, back, text, inPlace, isPending, _, _⟩
  rcases journaled.lines start with ⟨isText, isLines⟩
  rw [isText] at isWhole
  cases isWhole
  rw [isLines, List.getElem?_map, Option.map_eq_some_iff] at isLine
  rcases isLine with ⟨group, isGroup, rfl⟩
  have mem := List.mem_of_getElem? isGroup
  rcases journaled.entry_line keyed mem loaded isFile with ⟨piece, rfl, sameName⟩
  rcases mem_groups mem with ⟨before, after, split, boundary⟩
  rw [List.nil_append, List.singleton_append] at split
  rw [← front_unique journaled.nodup split inPlace sameName] at isPending
  exact isPending.mp pending boundary

omit [FloatText φ] [Interpreter] in
theorem sound_of_unowned (unowned : ∀ file, disk.owner file = none) :
    Sound disk ∧ ∀ file j, disk.owner file = some j → j < 0 := by
  refine ⟨fun file named => ⟨named, unowned file⟩, ?_⟩
  intro file j owned
  rw [unowned] at owned
  cases owned

/-- A call that returns is represented in the journal exactly when no part of a line was pending
when it was made. -/
theorem represented_iff_not_pending (empty : disk.names journalName = none)
    (unowned : ∀ file, disk.owner file = none)
    (keyed : ∀ call ∈ calls, (Document.object call.record).Keyed)
    (sequence : Sequence process 0 disk calls later) :
    (∀ call ∈ calls, ∀ name, call.result = .ok name →
      Represented process later call.record name) ↔
    ∀ earlier call rest, calls = earlier ++ call :: rest → (∃ name, call.result = .ok name) →
      ¬Pending earlier := by
  rcases sound_of_unowned unowned with ⟨sound, fresh⟩
  rcases sequence.journaled sound fresh with ⟨pieces, journaled⟩
  have start := journalBytes_of_free empty
  constructor
  · rintro represented earlier call rest isPlace ⟨name, returned⟩ pending
    have isCall : call ∈ calls := by
      rw [isPlace]
      exact List.mem_append_right _ List.mem_cons_self
    exact journaled.not_represented start keyed isPlace returned pending
      (represented call isCall name returned)
  · intro calm call isCall name returned
    rcases List.append_of_mem isCall with ⟨earlier, rest, isPlace⟩
    rcases journaled.place isPlace returned with
      ⟨front, back, text, inPlace, isPending, about, stored⟩
    have boundary : AtBoundary front := by
      by_contra broken
      exact calm earlier call rest isPlace ⟨name, returned⟩ (isPending.mpr broken)
    have fresh : ([] : List Piece) = [] := rfl
    rcases groups_append boundary (fun _ => fresh) (⟨name, text, true⟩ :: back) with
      ⟨lines, isLines⟩
    apply journaled.represents start (keyed call isCall) about stored
    rw [inPlace, isLines]
    exact List.mem_append_right _ List.mem_cons_self

end Represented

/-! ### Two calls -/

/-- The name of a record with the checksum of zeros. -/
def zeroName (startedAt : Str) : Str :=
  recordName ("run-".toList ++ compactTime startedAt ++ '-' :: List.replicate 12 '0') 0

theorem keyed_zeroRecord (startedAt : Str) : (Document.object (zeroRecord startedAt)).Keyed := by
  apply keyed_object_iff.mpr
  constructor
  · change ["command".toText, "consistent".toText, "error".toText, "exitCode".toText,
      "runId".toText, "startedAt".toText].Nodup
    decide
  · intro member mem
    simp only [zeroRecord, List.mem_cons, List.not_mem_nil, or_false] at mem
    rcases mem with rfl | rfl | rfl | rfl | rfl | rfl
    all_goals trivial

/-- A call with such a record; the journal takes the whole line or its first byte, and flushing it
can fail. -/
theorem exists_zeroCall (disk : Disk ℕ) (k : ℕ) (startedAt : Str)
    (plain : Disk.isLocal (zeroName startedAt)) (free : disk.names (zeroName startedAt) = none)
    (unlocked : disk.lock 0 = none) (whole : Bool) (failure : Option Str) :
    letI := asciiInterpreter []
    letI := zeroText
    ∃ said later result, (writeRunRecord (zeroRecord startedAt)).Replays () said result () ∧
      Through (answers (fun _ => 0) k) disk said later ∧ later.lock 0 = none ∧
      (∀ other, other ≠ zeroName startedAt → other ≠ journalName →
        later.names other = disk.names other) ∧
      (whole = true → Whole said ∧ result =
        (Except.mapError RunError.file (syncAnswer failure)).map fun _ => zeroName startedAt) ∧
      (whole = false → Torn said) := by
  let := asciiInterpreter []
  let := zeroText
  rcases zeroRecord_stem startedAt with ⟨payload, isStem⟩
  rcases zeroRecord_line startedAt (zeroName startedAt) with ⟨line, isLine⟩
  rcases journalLine_eq_ok_iff.mp isLine with ⟨text, isText, same⟩
  have length : line.length = text.length + 1 := by
    rw [same, length_utf8 isText.ascii, List.length_append, List.length_singleton]
  have some_ : 0 < text.length := List.length_pos_of_ne_nil (entryText_ne_nil isText)
  have none_ : ∀ n, n < 0 → disk.names (recordName
      ("run-".toList ++ compactTime startedAt ++ '-' :: List.replicate 12 '0') n) ≠ none :=
    fun n impossible => absurd impossible (Nat.not_lt_zero n)
  cases whole with
  | true =>
      rcases exists_call (fun _ => 0) k (zeroRecord_verified startedAt) isStem (Nat.succ_pos _) none_
        plain free isLine (le_refl _) failure unlocked with
        ⟨said, later, replays, through, unlockedLater, names, _, written⟩
      rw [appendResult, if_pos rfl] at replays
      exact ⟨said, later, _, replays, through, unlockedLater, names, fun _ => ⟨⟨line, written⟩, rfl⟩,
        fun impossible => absurd impossible.symm Bool.false_ne_true⟩
  | false =>
      rcases exists_call (fun _ => 0) k (zeroRecord_verified startedAt) isStem (Nat.succ_pos _) none_
        plain free isLine (show 1 ≤ line.length by omega) failure unlocked with
        ⟨said, later, replays, through, unlockedLater, names, _, written⟩
      exact ⟨said, later, _, replays, through, unlockedLater, names,
        fun impossible => absurd impossible Bool.false_ne_true, fun _ => ⟨line, 1, written, Nat.succ_pos 0, by omega⟩⟩

/-- The journal takes a part of the first line and all of the second one, which cannot be flushed;
the third call returns and is represented. -/
theorem represented_again : letI := asciiInterpreter []
    letI := zeroText
    ∃ (torn unsynced call : Call Unit) (later : Disk ℕ),
      Sequence (fun _ => 0) 0 Disk.empty [torn, unsynced, call] later ∧ Torn torn.said ∧
      Whole unsynced.said ∧ (∃ error, unsynced.result = .error error) ∧
      call.result = .ok (zeroName "2028".toList) ∧
      Represented (fun _ => 0) later call.record (zeroName "2028".toList) := by
  let := asciiInterpreter []
  let := zeroText
  rcases exists_zeroCall Disk.empty 0 "2026".toList (by decide) rfl rfl false none with
    ⟨tornSaid, first, tornResult, tears, throughTorn, unlocked, names, _, isTorn⟩
  have free : first.names (zeroName "2027".toList) = none := names _ (by decide) (by decide)
  rcases exists_zeroCall first 1 "2027".toList (by decide) free unlocked true (some []) with
    ⟨unsyncedSaid, second, unsyncedResult, fails, throughFailing, unlocked, otherNames, isWhole, _⟩
  rcases isWhole rfl with ⟨isWhole, isError⟩
  have free : second.names (zeroName "2028".toList) = none := by
    rw [otherNames _ (by decide) (by decide)]
    exact names _ (by decide) (by decide)
  rcases exists_zeroCall second 2 "2028".toList (by decide) free unlocked true none with
    ⟨said, later, result, replays, through, _, _, isOk, _⟩
  rcases isOk rfl with ⟨_, isOk⟩
  let torn : Call Unit := ⟨zeroRecord "2026".toList, tornSaid, tornResult⟩
  let unsynced : Call Unit := ⟨zeroRecord "2027".toList, unsyncedSaid, unsyncedResult⟩
  let call : Call Unit := ⟨zeroRecord "2028".toList, said, result⟩
  have sequence : Sequence (fun _ => 0) 0 Disk.empty [torn, unsynced, call] later :=
    ⟨first, tears, throughTorn, second, fails, throughFailing, later, replays, through, rfl⟩
  have keyed : ∀ other ∈ [torn, unsynced, call], (Document.object other.record).Keyed := by
    intro other mem
    simp only [List.mem_cons, List.not_mem_nil, or_false] at mem
    rcases mem with rfl | rfl | rfl
    · exact keyed_zeroRecord _
    · exact keyed_zeroRecord _
    · exact keyed_zeroRecord _
  refine ⟨torn, unsynced, call, later, sequence, isTorn rfl, isWhole, ⟨_, isError⟩, isOk, ?_⟩
  have unowned : ∀ file, (Disk.empty : Disk ℕ).owner file = none := fun _ => rfl
  rcases sound_of_unowned unowned with ⟨sound, fresh⟩
  rcases sequence.journaled sound fresh with ⟨pieces, journaled⟩
  have notTorn : ¬Torn unsynced.said := by
    rcases forall₂_split (show List.Forall₂ _ ([torn] ++ unsynced :: [call]) _ from
      journaled.contributes) with ⟨_, piece, _, _, _, ⟨isPiece, _⟩, _⟩
    cases isPiece with
    | nothing _ _ notWhole => exact absurd isWhole notWhole
    | torn _ _ _ notWhole => exact absurd isWhole notWhole
    | whole _ _ notTorn _ => exact notTorn
  apply (represented_iff_not_pending rfl unowned keyed sequence).mpr _ _ (by simp) _ isOk
  rintro earlier other rest isPlace ⟨name, returned⟩ ⟨before, part, after, rfl, isPart, noWhole⟩
  rcases before with _ | ⟨head, _ | ⟨next, before⟩⟩
  · rcases after with _ | ⟨second, after⟩
    · -- the part is the first call, and the second one does not return
      simp only [List.nil_append, List.cons_append, List.cons.injEq] at isPlace
      rcases isPlace with ⟨_, rfl, _⟩
      rw [show unsynced.result = _ from isError] at returned
      cases returned
    · -- the second call has written its whole line since
      simp only [List.nil_append, List.cons_append, List.cons.injEq] at isPlace
      rcases isPlace with ⟨_, rfl, _⟩
      exact noWhole unsynced List.mem_cons_self isWhole
  · simp only [List.nil_append, List.cons_append, List.cons.injEq] at isPlace
    rcases isPlace with ⟨_, rfl, _⟩
    exact notTorn isPart
  · have lengths := congrArg List.length isPlace
    simp only [List.length_append, List.length_cons, List.length_nil] at lengths
    omega

/-- The journal takes one byte of the first line; the second call returns, and its line is lost. -/
theorem torn_line_swallows : letI := asciiInterpreter []
    letI := zeroText
    ¬∀ (calls : List (Call Unit)) (later : Disk ℕ),
      (∀ call ∈ calls, (Document.object call.record).Keyed) →
      Sequence (fun _ => 0) 0 Disk.empty calls later →
        ∀ call ∈ calls, ∀ name, call.result = .ok name →
          Represented (fun _ => 0) later call.record name := by
  let := asciiInterpreter []
  let := zeroText
  intro represented
  rcases exists_zeroCall Disk.empty 0 "2026".toList (by decide) rfl rfl false none with
    ⟨firstSaid, middle, first, begins, throughFirst, unlocked, names, _, isTorn⟩
  have free : middle.names (zeroName "2027".toList) = none := by
    rw [names _ (by decide) (by decide)]
    rfl
  rcases exists_zeroCall middle 1 "2027".toList (by decide) free unlocked true none with
    ⟨secondSaid, later, second, ends, throughSecond, _, _, isOk, _⟩
  rcases isOk rfl with ⟨_, isOk⟩
  have sequence : Sequence (fun _ => 0) 0 Disk.empty [⟨zeroRecord "2026".toList, firstSaid, first⟩,
      ⟨zeroRecord "2027".toList, secondSaid, second⟩] later :=
    ⟨middle, begins, throughFirst, later, ends, throughSecond, rfl⟩
  have keyed : ∀ call ∈ [(⟨zeroRecord "2026".toList, firstSaid, first⟩ : Call Unit),
      ⟨zeroRecord "2027".toList, secondSaid, second⟩], (Document.object call.record).Keyed := by
    intro call isCall
    simp only [List.mem_cons, List.not_mem_nil, or_false] at isCall
    rcases isCall with rfl | rfl
    · exact keyed_zeroRecord _
    · exact keyed_zeroRecord _
  have pending : Pending [(⟨zeroRecord "2026".toList, firstSaid, first⟩ : Call Unit)] :=
    ⟨[], _, [], rfl, isTorn rfl, List.forall_mem_nil _⟩
  have unowned : ∀ file, (Disk.empty : Disk ℕ).owner file = none := fun _ => rfl
  rcases sound_of_unowned unowned with ⟨sound, fresh⟩
  rcases sequence.journaled sound fresh with ⟨pieces, journaled⟩
  apply journaled.not_represented (journalBytes_of_free rfl) keyed rfl isOk pending
  exact represented _ later keyed sequence _ (List.mem_cons_of_mem _ (List.mem_singleton_self _)) _
    isOk

end Runs

end Psv
