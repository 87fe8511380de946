import Psv.Runs.Built
import Psv.Runs.Damage

/-!
# Records and journal are read back

Records that were built by `build_run_record` and written one after another
without failure: each is read from its file as it was written and verifies, the
journal has one line for each, and the verifier finds nothing.
-/

namespace Psv

open Python Interaction Program Document

namespace Runs

/-! ### The lines of calls that return -/

section Lines

variable {φ : Type} [FloatText φ] [Interpreter] {process : ℕ → ℕ} {disk later : Disk ℕ}
  {calls : List (Call φ)} {pieces : List (Option Piece)}

omit [FloatText φ] [Interpreter] in
/-- When every piece ends its line the lines are the pieces. -/
theorem groups_of_ends {pieces : List Piece} (ends : ∀ piece ∈ pieces, piece.ends = true) :
    groups [] pieces = pieces.map fun piece => [piece] := by
  induction pieces with
  | nil => rfl
  | cons piece pieces ih =>
      rw [groups, if_pos (ends piece List.mem_cons_self), List.nil_append, List.map_cons,
        ih fun other mem => ends other (List.mem_cons_of_mem _ mem)]

/-- What the line of a call says. -/
def EntryOf (call : Call φ) (line : Str) : Prop :=
  ∃ name entry, call.result = .ok name ∧
    loadJson (φ := φ) line = .ok (some (.object entry)) ∧
    entry.lookup "file".toText = some (.str (.ofStr name)) ∧
    ∃ runId, entry.lookup "runId".toText = some runId ∧
      call.record.lookup "runId".toText = some runId

/-- The file of a call is read as the record that was written, and it verifies. -/
def RereadAt (disk : Disk ℕ) (call : Call φ) : Prop :=
  ∃ name file text, call.result = .ok name ∧ disk.names name = some file ∧
    readText (disk.content file) = .ok text ∧
    loadJson text = .ok (some (.object call.record)) ∧ verifyRunRecord call.record = .ok true

/-- The contributions of calls that all return: one line each. -/
theorem Journaled.returned (journaled : Journaled disk later calls pieces)
    (returned : ∀ call ∈ calls, ∃ name, call.result = .ok name)
    (keyed : ∀ call ∈ calls, (Document.object call.record).Keyed) :
    (∀ piece ∈ pieces.reduceOption, piece.ends = true) ∧
      List.Forall₂ (fun call piece => EntryOf call piece.text ∧ RereadAt later call ∧
        ∀ number, lineFindings φ (lookAt later) number piece.text = .ok []) calls pieces.reduceOption := by
  have contributes := journaled.contributes
  clear journaled
  induction contributes with
  | nil => exact ⟨fun piece mem => absurd mem List.not_mem_nil, .nil⟩
  | cons isPiece rest ih =>
      rename_i call piece calls pieces
      rcases ih (fun other mem => returned other (List.mem_cons_of_mem _ mem))
        (fun other mem => keyed other (List.mem_cons_of_mem _ mem)) with ⟨ends, entries⟩
      rcases returned call List.mem_cons_self with ⟨name, isName⟩
      rcases isPiece with ⟨contributes, stored⟩
      cases contributes with
      | nothing fails =>
          rcases fails with ⟨error, failed⟩
          rw [isName] at failed
          cases failed
      | torn _ fails =>
          rcases fails with ⟨error, failed⟩
          rw [isName] at failed
          cases failed
      | whole about isOwn notTorn whole =>
          rename_i own text
          have same := isOwn name isName
          subst same
          rw [List.reduceOption_cons_of_some]
          have isKeyed := keyed call List.mem_cons_self
          rcases stored _ rfl with ⟨isRecord, _, verified, isLine, file, named, content⟩
          refine ⟨?_, .cons ⟨?_, ?_, ?_⟩ entries⟩
          · intro other mem
            rcases List.mem_cons.mp mem with rfl | mem
            · rfl
            · exact ends other mem
          · rcases about.isText with ⟨entry, isEntry, shallow, written⟩
            have loaded := loadJson_dumps (keyed_entry isKeyed isEntry) written
              (shallow.trans Interpreter.hashLevels_le) (List.forall_mem_nil _)
            rw [List.append_nil] at loaded
            rcases lookup_entry isEntry with ⟨isFile, sameRunId⟩
            rw [pathName_eq isRecord, Text.ofPoints_map] at isFile
            rcases verifyRunRecord_eq_true_iff.mp verified with ⟨runId, isRunId, _⟩
            exact ⟨name, entry, isName, loaded, isFile, _, sameRunId.trans isRunId, isRunId⟩
          · rcases read_record isKeyed verified isLine with ⟨text, isRead, isLoaded⟩
            rw [← content] at isRead
            exact ⟨name, file, text, isName, named, isRead, isLoaded, verified⟩
          · have looked : lookAt later (name.map .char) = .ok (payloadOf call.record) := by
              rw [lookAt, Disk.lookup_text, named]
              exact congrArg Except.ok content
            exact lineFindings_entry isKeyed about.isText isRecord verified isLine looked

theorem allFindings_nil {lines : List Str}
    (clean : ∀ line ∈ lines, ∀ number, lineFindings φ (lookAt later) number line = .ok []) (start : ℕ) :
    allFindings φ (lookAt later) start lines = .ok [] := by
  induction lines generalizing start with
  | nil => rfl
  | cons line lines ih =>
      rw [allFindings, clean line List.mem_cons_self, Checks.ok_bind,
        ih fun other mem => clean other (List.mem_cons_of_mem _ mem)]
      rfl

/-- Calls that return, with records that are dictionaries. -/
theorem read_back (empty : disk.names journalName = none) (unowned : ∀ file, disk.owner file = none)
    (some_ : calls ≠ []) (keyed : ∀ call ∈ calls, (Document.object call.record).Keyed)
    (returned : ∀ call ∈ calls, ∃ name, call.result = .ok name)
    (sequence : Sequence process 0 disk calls later) :
    (∀ call ∈ calls, RereadAt later call) ∧
      (∃ text, readText (journalBytes later) = .ok text ∧
        List.Forall₂ EntryOf calls (splitLines text)) ∧
      ∀ result after, (∃ said, (verifyRunJournal φ).Replays () said result () ∧
        Through (answers process 0) later said after) ↔ result = .ok [] ∧ after = later := by
  rcases sound_of_unowned unowned with ⟨sound, fresh⟩
  rcases sequence.journaled sound fresh with ⟨pieces, journaled⟩
  rcases journaled.returned returned keyed with ⟨ends, entries⟩
  rcases journaled.lines (journalBytes_of_free empty) with ⟨isText, isLines⟩
  have lines : splitLines (journalOf pieces.reduceOption) =
      pieces.reduceOption.map Piece.text := by
    rw [isLines, groups_of_ends ends, List.map_map]
    exact List.map_congr_left fun piece _ => lineText_singleton piece
  refine ⟨?_, ⟨_, isText, ?_⟩, ?_⟩
  · intro call isCall
    rcases List.append_of_mem isCall with ⟨before, after, rfl⟩
    rcases forall₂_split entries with ⟨_, _, _, _, _, ⟨_, reread, _⟩, _⟩
    exact reread
  · rw [lines, List.forall₂_map_right_iff]
    exact entries.imp fun call piece all => all.1
  · intro result after
    have isFile : (later.names journalName).isSome = true := by
      apply journalBytes_isFile
      rw [journaled.journal, journalBytes_of_free empty, List.nil_append]
      intro isNil
      have noLine : splitLines (journalOf pieces.reduceOption) = [] := by
        rw [utf8_injective (isNil.trans (show [] = utf8 [] from rfl))]
        rfl
      rw [lines, List.map_eq_nil_iff] at noLine
      rw [noLine] at entries
      exact some_ (List.forall₂_nil_right_iff.mp entries)
    have clean : allFindings φ (lookAt later) 1 (pieces.reduceOption.map Piece.text) = .ok [] := by
      apply allFindings_nil
      intro line mem number
      rcases List.mem_map.mp mem with ⟨piece, isPiece, rfl⟩
      rcases exists_left entries isPiece with ⟨call, _, _, _, clean⟩
      exact clean number
    rw [verifyRunJournal_iff isFile isText, lines, clean]

variable [RunEnvironment φ]

/-- The record of a call is what `build_run_record` made of a run whose inputs and report are
dictionaries. -/
def Built (call : Call φ) : Prop :=
  ∃ run : RunArguments φ, (Document.object run.inputs).Keyed ∧
    (∀ members, run.report = some members → (Document.object members).Keyed) ∧
    buildRunRecord run = .ok call.record

/-- Built records that are written without failure into a directory that had no journal: they are
read back as they were written, the journal has their lines, and nothing is found wrong. -/
theorem records_round_trip (empty : disk.names journalName = none)
    (unowned : ∀ file, disk.owner file = none) (some_ : calls ≠ [])
    (built : ∀ call ∈ calls, Built call) (returned : ∀ call ∈ calls, ∃ name, call.result = .ok name)
    (sequence : Sequence process 0 disk calls later) :
    (∀ call ∈ calls, RereadAt later call) ∧
      (∃ text, readText (journalBytes later) = .ok text ∧
        List.Forall₂ EntryOf calls (splitLines text)) ∧
      ∀ result after, (∃ said, (verifyRunJournal φ).Replays () said result () ∧
        Through (answers process 0) later said after) ↔ result = .ok [] ∧ after = later := by
  apply read_back empty unowned some_ _ returned sequence
  intro call isCall
  rcases built call isCall with ⟨run, inputs, report, isBuilt⟩
  exact keyed_buildRunRecord inputs report isBuilt

end Lines

/-! ### Two records with one stem -/

section Example

/-- A process that knows nothing about itself. -/
@[reducible] def zeroEnvironment : RunEnvironment Unit where
  version := []
  python := []
  platform := []
  machine := []
  urlsplit _ := none
  str _ := []
  seconds _ := ()

/-- A run at the beginning of the calendar, with an umlaut in an input and half a character in its
error. -/
def failedRun : RunArguments Unit where
  command := "reconcile".toText
  inputs := [("note".toText, .str "geprüft".toText)]
  report := none
  exitCode := 2
  startedAt := ⟨0, some 0⟩
  finishedAt := ⟨0, some 0⟩
  error := some (.ofPoints [.char 'é', .ofUnit 0xd800])

/-- The name of its record, without a number and the extension. -/
def firstStem : Str := "run-00010101T000000+0000-000000000000".toList

theorem failedRun_short : ShortRun failedRun where
  inputs := by
    intro member mem
    rw [List.mem_singleton.mp mem]
    exact .str _
  report := fun members impossible => nomatch impossible
  exitCode := (show (2 : ℤ).natAbs < 10 ^ 1 by decide).trans_le
    (Nat.pow_le_pow_right (by omega) (by decide))

theorem failedRun_shallow : Shallow failedRun where
  inputs := by
    intro member mem
    rw [List.mem_singleton.mp mem]
    exact Nat.zero_le _
  report := fun members impossible => nomatch impossible

theorem asciiHash {φ : Type} [FloatText φ] {record : Members φ} {hash : Str} :
    letI := asciiInterpreter []
    contentHash record = .ok hash → hash = "sha256:".toList ++ List.replicate 64 '0' := by
  let := asciiInterpreter []
  intro isHash
  rcases contentHash_eq_ok_iff.mp isHash with ⟨_, canonical, _, rfl⟩
  have zeros : hexPad 64 0 = List.replicate 64 '0' := by decide
  exact congrArg ("sha256:".toList ++ ·) zeros

theorem exists_failedRecord : letI := asciiInterpreter []
    letI := zeroEnvironment
    letI := zeroText
    ∃ record payload, buildRunRecord failedRun = .ok record ∧
      stemAndPayload record = .ok (firstStem, payload) := by
  let := asciiInterpreter []
  let := zeroEnvironment
  let := zeroText
  have inCalendar : utcText 0 = .ok (isoformat 0) := if_pos (by decide)
  rcases exists_buildRunRecord failedRun (by decide) (by decide) rfl rfl (by decide) inCalendar
    inCalendar failedRun_short failedRun_shallow with ⟨runId, isRunId, built⟩
  rcases stem_of_built failedRun_shallow failedRun_short built with ⟨payload, isStem⟩
  refine ⟨_, payload, built, ?_⟩
  have isName : "run-".toList ++ compactTime (isoformat 0) ++
      '-' :: shortId ("sha256:".toList ++ List.replicate 64 '0') = firstStem := by decide
  rw [isStem, asciiHash isRunId, isName]

/-- The record of one run is written twice into an empty directory, the second time under a name with
a number. -/
theorem records_round_trip_twice : letI := asciiInterpreter []
    letI := zeroEnvironment
    letI := zeroText
    ∃ (first second : Call Unit) (later : Disk ℕ),
      buildRunRecord failedRun = .ok first.record ∧ second.record = first.record ∧
      first.result = .ok (recordName firstStem 0) ∧ second.result = .ok (recordName firstStem 1) ∧
      Sequence (fun _ => 0) 0 Disk.empty [first, second] later ∧
      (∀ call ∈ [first, second], RereadAt later call) ∧
      (∃ text, readText (journalBytes later) = .ok text ∧
        List.Forall₂ EntryOf [first, second] (splitLines text)) ∧
      ∃ said, (verifyRunJournal Unit).Replays () said (.ok []) () ∧
        Through (answers (fun _ => 0) 0) later said later := by
  let := asciiInterpreter []
  let := zeroEnvironment
  let := zeroText
  rcases exists_failedRecord with ⟨record, payload, built, isStem⟩
  have verified := verified_of_built built
  rcases journalLine_built built failedRun_short.exitCode (recordName firstStem 0) with
    ⟨line, isLine⟩
  rcases journalLine_built built failedRun_short.exitCode (recordName firstStem 1) with
    ⟨nextLine, isNext⟩
  rcases exists_call (fun _ => 0) 0 verified isStem (show 0 < 10000 by decide)
    (fun n impossible => absurd impossible (Nat.not_lt_zero n)) (by decide) rfl isLine (le_refl _)
    none (rfl : (Disk.empty : Disk ℕ).lock 0 = none) with
    ⟨firstSaid, middle, begins, throughFirst, unlocked, names, there, _⟩
  have taken : ∀ n, n < 1 → middle.names (recordName firstStem n) ≠ none := by
    intro n small
    rw [Nat.lt_one_iff.mp small]
    exact there
  have free : middle.names (recordName firstStem 1) = none :=
    names _ (by decide) (by decide)
  rcases exists_call (fun _ => 0) 1 verified isStem (show 1 < 10000 by decide) taken (by decide)
    free isNext (le_refl _) none unlocked with ⟨secondSaid, later, ends, throughSecond, _⟩
  rw [appendResult_whole] at begins ends
  let first : Call Unit := ⟨record, firstSaid, .ok (recordName firstStem 0)⟩
  let second : Call Unit := ⟨record, secondSaid, .ok (recordName firstStem 1)⟩
  have sequence : Sequence (fun _ => 0) 0 Disk.empty [first, second] later :=
    ⟨middle, begins, throughFirst, later, ends, throughSecond, rfl⟩
  have keyedInputs : (Document.object failedRun.inputs).Keyed :=
    keyed_object_iff.mpr ⟨List.nodup_singleton _, by simp [failedRun, Keyed]⟩
  have isBuilt : ∀ call ∈ [first, second], Built call := by
    intro call isCall
    have sameRecord : call.record = record := by
      simp only [List.mem_cons, List.not_mem_nil, or_false] at isCall
      rcases isCall with rfl | rfl
      · rfl
      · rfl
    refine ⟨failedRun, keyedInputs, ?_, sameRecord ▸ built⟩
    intro members isReport
    cases isReport
  have returned : ∀ call ∈ [first, second], ∃ name, call.result = .ok name := by
    intro call isCall
    simp only [List.mem_cons, List.not_mem_nil, or_false] at isCall
    rcases isCall with rfl | rfl
    · exact ⟨_, rfl⟩
    · exact ⟨_, rfl⟩
  rcases records_round_trip rfl (fun _ => rfl) (List.cons_ne_nil _ _) isBuilt returned sequence with
    ⟨reread, journal, verifier⟩
  exact ⟨first, second, later, built, rfl, rfl, rfl, sequence, reread, journal,
    (verifier (.ok []) later).mpr ⟨rfl, rfl⟩⟩

end Example

end Runs

end Psv
