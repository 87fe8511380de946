import Psv.Runs.RoundTrip

/-!
# How a call can fail

What `write_run_record` raises for a record that was built, and what its
conversation with the file system looks like when it fails: a creation that fails
has flushed no file, and one that returns ends with the flush of the record; the
append to the journal fails exactly when one of its steps does.
-/

namespace Psv

open Python Interaction Program Document

namespace Runs

/-- An `OSError` or a `ValueError`. -/
def Handled (error : RunError) : Prop :=
  (∃ message, error = .valueError message) ∨ ∃ failure, error = .file failure

theorem handled_file (failure : FileError) : Handled (.file failure) := Or.inr ⟨failure, rfl⟩

theorem handled_value (message : String) : Handled (.valueError message) := Or.inl ⟨message, rfl⟩

/-! ### What is raised -/

section Raised

theorem raises_answer {α : Type} {answer : Except FileError α} :
    (lift (Except.mapError RunError.file answer) : Job α).Raises Handled := by
  apply raises_lift
  intro error failed
  rcases answer with failure | value
  · cases failed
    exact handled_file failure
  · cases failed

theorem raises_refuse {condition : Prop} [Decidable condition] {error : RunError}
    (handled : Handled error) : (lift (refuse condition error) : Job Unit).Raises Handled := by
  apply raises_lift
  intro other failed
  unfold refuse at failed
  split_ifs at failed
  cases failed
  exact handled

theorem raises_writeAll (fuel file : ℕ) (view : Bytes) : (writeAll fuel file view).Raises Handled := by
  induction fuel generalizing view with
  | zero => trivial
  | succ fuel ih =>
      rw [writeAll]
      split_ifs
      · trivial
      · apply (raises_question _).bind
        intro answer
        apply raises_answer.bind
        intro written
        apply (raises_refuse (handled_file _)).bind
        exact fun _ => ih _

theorem raises_writeDurably (file : ℕ) (payload : Bytes) :
    (writeDurably file payload).Raises Handled := by
  apply (raises_writeAll _ _ _).bind
  intro _
  apply (raises_question _).bind
  exact fun _ => raises_answer

theorem raises_writeExclusive (name : Str) (payload : Bytes) :
    (writeExclusive name payload).Raises Handled := by
  apply (raises_question _).bind
  intro opened
  apply raises_answer.bind
  intro file
  apply (raises_writeDurably file payload).attempt_bind
  · exact fun _ => (raises_question _).bind fun _ => trivial
  · intro error handled
    apply (raises_question _).bind
    exact fun _ => (raises_question _).bind fun _ => handled

theorem raises_tryPaths (stem : Str) (payload : Bytes) (left sequence : ℕ) :
    (tryPaths stem payload left sequence).Raises Handled := by
  induction left generalizing sequence with
  | zero => exact handled_file _
  | succ left ih =>
      have tried : (do
          writeExclusive (recordName stem sequence) payload
          pure (recordName stem sequence) : Job Str).Raises Handled :=
        (raises_writeExclusive _ payload).bind fun _ => trivial
      rw [tryPaths]
      apply tried.handle
      intro error handled
      split
      · exact ih _
      · exact handled

theorem raises_writeLine (file : ℕ) (line : Bytes) : (writeLine file line).Raises Handled := by
  apply (raises_question _).bind
  intro answer
  apply raises_answer.bind
  intro written
  apply (raises_refuse (handled_file _)).bind
  intro _
  apply (raises_question _).bind
  exact fun _ => raises_answer

theorem raises_appendJournal (name : Str) (line : Bytes) :
    (appendJournal name line).Raises Handled := by
  have caught : ∀ {α : Type} {error : RunError}, Handled error →
      (lift (Except.error error) : Job α).Raises Handled := fun handled => handled
  have appended : (appendLine name line).Raises Handled := by
    apply (raises_question _).bind
    intro opened
    apply raises_answer.bind
    intro file
    apply (raises_writeLine file line).attempt_bind
    · exact fun _ => (raises_question _).bind fun _ => trivial
    · exact fun _ handled => (raises_question _).bind fun _ => caught handled
  apply (raises_question _).bind
  intro _
  apply appended.attempt_bind
  · exact fun _ => (raises_question _).bind fun _ => trivial
  · exact fun _ handled => (raises_question _).bind fun _ => caught handled

variable {φ : Type} [FloatText φ] [Interpreter]

theorem lineOf_failsOnly {style : Style} {document : Document φ} {error : RunError}
    (shallow : document.depth ≤ dumpLevels style) (failed : lineOf style document = .error error) :
    Handled error := by
  rw [lineOf, refuse_of_fails (not_lt.mpr shallow)] at failed
  rcases written : dumps style document with _ | text
  · rw [written] at failed
    cases failed
    exact handled_value _
  · rw [written] at failed
    cases failed

theorem contentHash_failsOnly {record : Members φ} {error : RunError}
    (shallow : (hashPayload record).depth ≤ 8) (failed : contentHash record = .error error) :
    Handled error := by
  rw [contentHash, refuse_of_fails (not_lt.mpr (shallow.trans Interpreter.le_hashLevels))] at failed
  rcases written : dumps .compact (hashPayload record).sortKeys with _ | text
  · rw [Checks.ok_bind, written] at failed
    cases failed
    exact handled_value _
  · rw [Checks.ok_bind, written] at failed
    cases failed

omit [FloatText φ] [Interpreter] in
theorem depth_hashPayload {record : Members φ} {levels : ℕ}
    (shallow : (Document.object record).depth ≤ levels + 1) :
    (hashPayload record).depth ≤ levels + 1 := by
  apply depth_object_le_iff.mpr
  exact fun member mem => depth_object_le_iff.mp shallow member (List.mem_of_mem_filter mem)

theorem verifyRunRecord_failsOnly {record : Members φ} {error : RunError}
    (shallow : (Document.object record).depth ≤ 8) (failed : verifyRunRecord record = .error error) :
    Handled error := by
  rw [verifyRunRecord] at failed
  split at failed
  · rcases hashed : contentHash record with other | hash
    · rw [hashed] at failed
      cases failed
      exact contentHash_failsOnly (depth_hashPayload shallow) hashed
    · rw [hashed] at failed
      cases failed
  · cases failed

variable [RunEnvironment φ] {run : RunArguments φ} {record : Members φ}

theorem lookup_built (built : buildRunRecord run = .ok record) :
    record.lookup "exitCode".toText = some (.int run.exitCode) ∧
      record.lookup "consistent".toText =
        some (.bool (run.error.isNone && decide (run.exitCode = 0))) := by
  rcases shape_of_built built with ⟨startedAt, finishedAt, duration, runId, rfl, _⟩
  exact ⟨rfl, rfl⟩

/-- Only the text of the record can be missing before its file is created. -/
theorem stemAndPayload_failsOnly (shallow : Shallow run) (built : buildRunRecord run = .ok record)
    {error : RunError} (failed : stemAndPayload record = .error error) : Handled error := by
  have deep := depth_built shallow built
  rcases shape_of_built built with ⟨startedAt, finishedAt, duration, runId, rfl, _⟩
  have isStart : textField (recordBody run startedAt finishedAt duration ++
      [("runId".toText, .str (.ofStr runId))]) "startedAt" = .ok (.ofStr startedAt) := rfl
  have isRunId : textField (recordBody run startedAt finishedAt duration ++
      [("runId".toText, .str (.ofStr runId))]) "runId" = .ok (.ofStr runId) := rfl
  rw [stemAndPayload, isStart, Checks.ok_bind, isRunId, Checks.ok_bind] at failed
  rcases isLine : lineOf .indented (.object (recordBody run startedAt finishedAt duration ++
      [("runId".toText, .str (.ofStr runId))])) with other | payload
  · rw [isLine] at failed
    cases failed
    exact lineOf_failsOnly (deep.trans (le_dumpLevels _)) isLine
  · rw [isLine] at failed
    simp only [Checks.ok_bind, namePart_ofStr] at failed
    cases failed

theorem journalLine_failsOnly (built : buildRunRecord run = .ok record) {name : Str}
    {error : RunError} (failed : journalLine record name = .error error) : Handled error := by
  rcases entry_of_built built name with ⟨runId, startedAt, isEntry⟩
  rw [journalLine, isEntry] at failed
  exact lineOf_failsOnly ((depth_entry run runId startedAt _).trans (le_dumpLevels _)) failed

/-- Writing a record that was built raises an `OSError` or a `ValueError`, if anything. -/
theorem raises_writeRunRecord (shallow : Shallow run) (built : buildRunRecord run = .ok record) :
    (writeRunRecord record).Raises Handled := by
  apply Raises.bind
  · apply (raises_lift fun _ => verifyRunRecord_failsOnly (depth_built shallow built)).bind
    intro verified
    apply (raises_refuse (handled_value _)).bind
    intro _
    apply (raises_question _).bind
    intro made
    apply raises_answer.bind
    intro _
    apply (raises_lift fun _ => stemAndPayload_failsOnly shallow built).bind
    exact fun _ => raises_tryPaths _ _ _ _
  · intro name
    apply (raises_lift fun _ => journalLine_failsOnly built).bind
    intro text
    exact (raises_appendJournal _ _).bind fun _ => trivial

end Raised

/-! ### What is said -/

section Said

variable {said : History fileSystem}

/-- No file was flushed. -/
def Unsynced (said : History fileSystem) : Prop :=
  ∀ file, (⟨.fsync file, .ok ()⟩ : Entry) ∉ said

/-- How a creation ends: with the flush of a file, the first one of all; or without a flush, and
then writing failed for every file that was created. -/
def CreationEnds {α : Type} (result : Except RunError α) (said : History fileSystem) : Prop :=
  match result with
  | .ok _ => ∃ front file,
      said = front ++ [(⟨.fsync file, .ok ()⟩ : Entry), ⟨.close file, ()⟩] ∧ Unsynced front
  | .error _ => Unsynced said ∧
      ∀ name file, Created said name file → ∃ entry ∈ said, Fails file entry

theorem Unsynced.append {first second : History fileSystem} (unsynced : Unsynced first)
    (more : Unsynced second) : Unsynced (first ++ second) := by
  intro file mem
  rcases List.mem_append.mp mem with mem | mem
  · exact unsynced file mem
  · exact more file mem

theorem CreationEnds.after {α : Type} {result : Except RunError α} {first second : History fileSystem}
    (ends : CreationEnds result second) (unsynced : Unsynced first)
    (failed : ∀ name file, Created first name file → ∃ entry ∈ first, Fails file entry) :
    CreationEnds result (first ++ second) := by
  rcases result with error | value
  · rcases ends with ⟨more, others⟩
    refine ⟨unsynced.append more, ?_⟩
    intro name file created
    rcases List.mem_append.mp created with mem | mem
    · rcases failed name file mem with ⟨entry, isEntry, fails⟩
      exact ⟨entry, List.mem_append_left _ isEntry, fails⟩
    · rcases others name file mem with ⟨entry, isEntry, fails⟩
      exact ⟨entry, List.mem_append_right _ isEntry, fails⟩
  · rcases ends with ⟨front, file, rfl, more⟩
    exact ⟨first ++ front, file, (List.append_assoc _ _ _).symm, unsynced.append more⟩

/-- A stretch about writing: no file is created and none is flushed. -/
def OnlyWrites (question : fileSystem.Ask) : Prop := ∃ file data, question = FileAsk.write file data

theorem asks_onlyWrites (fuel file : ℕ) (view : Bytes) :
    (writeAll fuel file view).Asks OnlyWrites := by
  induction fuel generalizing view with
  | zero => trivial
  | succ fuel ih =>
      rw [writeAll]
      split_ifs
      · trivial
      · apply (asks_question ⟨file, view, rfl⟩).bind
        intro answer
        apply (asks_lift _).bind
        intro written
        apply (asks_lift _).bind
        exact fun _ => ih _

theorem unsynced_of_onlyWrites (only : ∀ entry ∈ said, OnlyWrites entry.1) : Unsynced said := by
  intro file mem
  rcases only _ mem with ⟨_, _, impossible⟩
  cases impossible

theorem notCreated_of_onlyWrites (only : ∀ entry ∈ said, OnlyWrites entry.1) (name : Str)
    (file : ℕ) : ¬Created said name file := by
  intro mem
  rcases only _ mem with ⟨_, _, impossible⟩
  cases impossible

theorem writeAll_fails {fuel file : ℕ} {view : Bytes} {error : RunError}
    (replays : (writeAll fuel file view).Replays () said (.error error) ()) :
    ∃ entry ∈ said, Fails file entry := by
  induction fuel generalizing view said with
  | zero =>
      rcases replays with ⟨_, impossible, _⟩
      cases impossible
  | succ fuel ih =>
      rw [writeAll] at replays
      split_ifs at replays with done
      · rcases replays with ⟨_, impossible, _⟩
        cases impossible
      · rcases replays with ⟨answer, rest, rfl, continues⟩
        rcases answer with failure | count
        · exact ⟨_, List.mem_cons_self, rfl, trivial⟩
        · change Replays (lift (refuse (count = 0) _) >>= fun _ =>
            writeAll fuel file (view.drop count)) _ _ _ _ at continues
          by_cases zero : count = 0
          · exact ⟨_, List.mem_cons_self, rfl, zero, done⟩
          · rw [refuse_of_fails zero] at continues
            rcases ih continues with ⟨entry, mem, fails⟩
            exact ⟨entry, List.mem_cons_of_mem _ mem, fails⟩

/-- Writing a file ends with its flush, or with a failure. -/
theorem writeDurably_ends {file : ℕ} {payload : Bytes} {result : Except RunError Unit}
    (replays : (writeDurably file payload).Replays () said result ()) :
    (∀ name other, ¬Created said name other) ∧
      match result with
      | .ok _ => ∃ front, said = front ++ [(⟨.fsync file, .ok ()⟩ : Entry)] ∧ Unsynced front
      | .error _ => Unsynced said ∧ ∃ entry ∈ said, Fails file entry := by
  rcases replays_bind_iff.mp replays with
    ⟨_, _, first, second, rfl, writes, continues⟩ | ⟨error, rfl, writes⟩
  · have only := (asks_onlyWrites _ _ _).of_mem writes
    rcases continues with ⟨answer, rest, rfl, continues⟩
    rcases replays_lift_iff.mp continues with ⟨rfl, rfl, _⟩
    constructor
    · intro name other created
      rcases List.mem_append.mp created with mem | mem
      · exact notCreated_of_onlyWrites only name other mem
      · cases List.mem_singleton.mp mem
    · rcases answer with failure | _
      · refine ⟨?_, ?_⟩
        · apply (unsynced_of_onlyWrites only).append
          intro other mem
          cases List.mem_singleton.mp mem
        · exact ⟨_, List.mem_append_right _ (List.mem_singleton_self _), rfl, failure, rfl⟩
      · exact ⟨first, rfl, unsynced_of_onlyWrites only⟩
  · have only := (asks_onlyWrites _ _ _).of_mem writes
    exact ⟨notCreated_of_onlyWrites only, unsynced_of_onlyWrites only, writeAll_fails writes⟩

theorem writeExclusive_ends {name : Str} {payload : Bytes} {result : Except RunError Unit}
    (replays : (writeExclusive name payload).Replays () said result ()) :
    CreationEnds result said := by
  rcases replays with ⟨answer, rest, rfl, continues⟩
  rcases answer with failure | file
  · rcases continues with ⟨rfl, rfl, _⟩
    constructor
    · intro other mem
      cases List.mem_singleton.mp mem
    · intro path other created
      cases List.mem_singleton.mp created
  · change Replays ((writeDurably file payload).attempt >>= fun outcome =>
      finishExclusive name file outcome) _ _ _ _ at continues
    rcases replays_attempt_bind_iff.mp continues with
      ⟨outcome, _, first, second, rfl, writes, finishes⟩
    rcases writeDurably_ends writes with ⟨notCreated, ends⟩
    have unsynced : Unsynced [(⟨.createExclusive name, .ok file⟩ : Entry)] := by
      intro other mem
      cases List.mem_singleton.mp mem
    rcases finishes with ⟨_, rest, rfl, finishes⟩
    rcases outcome with error | _
    · rcases finishes with ⟨_, rest, rfl, rfl, rfl, _⟩
      rcases ends with ⟨none_, entry, mem, fails⟩
      have within : entry ∈ (⟨.createExclusive name, .ok file⟩ : Entry) ::
          (first ++ [⟨FileAsk.close file, ()⟩, ⟨FileAsk.unlink name, ()⟩]) :=
        List.mem_cons_of_mem _ (List.mem_append_left _ mem)
      constructor
      · apply unsynced.append (none_.append _)
        intro other mem
        rcases List.mem_cons.mp mem with same | mem
        · cases same
        · cases List.mem_singleton.mp mem
      · intro path other created
        rcases List.mem_cons.mp created with same | created
        · cases same
          exact ⟨entry, within, fails⟩
        · rcases List.mem_append.mp created with created | created
          · exact absurd created (notCreated path other)
          · rcases List.mem_cons.mp created with same | created
            · cases same
            · cases List.mem_singleton.mp created
    · rcases finishes with ⟨rfl, rfl, _⟩
      rcases ends with ⟨front, rfl, none_⟩
      exact ⟨⟨.createExclusive name, .ok file⟩ :: front, file,
        congrArg (List.cons _) (List.append_assoc _ _ _), unsynced.append none_⟩

theorem tryPaths_ends {stem : Str} {payload : Bytes} {left sequence : ℕ}
    {result : Except RunError Str}
    (replays : (tryPaths stem payload left sequence).Replays () said result ()) :
    CreationEnds result said := by
  induction left generalizing sequence said result with
  | zero =>
      rcases replays with ⟨rfl, rfl, _⟩
      exact ⟨fun _ => List.not_mem_nil, fun _ _ created => absurd created List.not_mem_nil⟩
  | succ left ih =>
      rw [tryPaths] at replays
      rcases replays_handle_iff.mp replays with
        ⟨name, rfl, tried⟩ | ⟨error, _, first, second, rfl, tried, handled⟩
      · rcases replays_bind_ok_iff.mp tried with ⟨_, _, front, back, rfl, writes, ends⟩
        rcases ends with ⟨rfl, _, _⟩
        rw [List.append_nil]
        exact writeExclusive_ends writes
      · rcases replays_bind_iff.mp tried with
          ⟨_, _, _, _, _, _, _, impossible, _⟩ | ⟨_, same, writes⟩
        · cases impossible
        · cases same
          rcases writeExclusive_ends writes with ⟨unsynced, failed⟩
          split at handled
          · exact (ih handled).after unsynced failed
          · rcases handled with ⟨rfl, rfl, _⟩
            rw [List.append_nil]
            exact ⟨unsynced, failed⟩

variable {φ : Type} [FloatText φ] [Interpreter] {record : Members φ}

theorem createRecord_ends {result : Except RunError Str}
    (replays : (createRecord record).Replays () said result ()) : CreationEnds result said := by
  have nothing : ∀ error : RunError, CreationEnds (.error error : Except RunError Str) [] := fun _ =>
    ⟨fun _ => List.not_mem_nil, fun _ _ created => absurd created List.not_mem_nil⟩
  have unsynced : ∀ answer : Except FileError Unit, Unsynced [(⟨.mkdir, answer⟩ : Entry)] := by
    intro answer file mem
    cases List.mem_singleton.mp mem
  have notCreated : ∀ (answer : Except FileError Unit) name file,
      Created [(⟨.mkdir, answer⟩ : Entry)] name file →
        ∃ entry ∈ [(⟨.mkdir, answer⟩ : Entry)], Fails file entry := by
    intro answer name file created
    cases List.mem_singleton.mp created
  rw [createRecord] at replays
  rcases isVerified : verifyRunRecord record with error | verified
  · rw [isVerified] at replays
    rcases replays with ⟨rfl, rfl, _⟩
    exact nothing error
  · rw [isVerified] at replays
    change Replays (lift (refuse (verified = false) _) >>= fun _ => _) _ _ _ _ at replays
    by_cases refused : verified = false
    · rw [refuse_of_holds refused] at replays
      rcases replays with ⟨rfl, rfl, _⟩
      exact nothing _
    · rw [refuse_of_fails refused] at replays
      rcases replays with ⟨answer, rest, rfl, continues⟩
      have ends : CreationEnds result rest := by
        rcases answer with failure | _
        · rcases continues with ⟨rfl, rfl, _⟩
          exact nothing _
        · change Replays (lift (stemAndPayload record) >>= fun found =>
            exclusiveRecordPath found.1 found.2) _ _ _ _ at continues
          rcases isStem : stemAndPayload record with error | ⟨stem, payload⟩
          · rw [isStem] at continues
            rcases continues with ⟨rfl, rfl, _⟩
            exact nothing error
          · rw [isStem] at continues
            exact tryPaths_ends continues
      exact ends.after (unsynced answer) (notCreated answer)

/-! ### The journal -/

/-- A step that is answered with an error, or a write that takes a part of its data. -/
def FailedStep : Entry → Prop
  | ⟨.openAppend _, answer⟩ => ∃ failure, (answer : Except FileError ℕ) = .error failure
  | ⟨.write _ data, answer⟩ => (answer : Except FileError ℕ) ≠ .ok data.length
  | ⟨.fsync _, answer⟩ => ∃ failure, (answer : Except FileError Unit) = .error failure
  | _ => False

/-- The append to the journal fails exactly when one of its steps does, and creates no file. -/
structure Appending (result : Except RunError Unit) (said : History fileSystem) : Prop where
  notCreated : ∀ name file, ¬Created said name file
  fails : (∃ error, result = .error error) ↔ ∃ entry ∈ said, FailedStep entry

omit [FloatText φ] [Interpreter] in
theorem Appending.around {result : Except RunError Unit} {before after : Entry}
    (appending : Appending result said) (first : ¬FailedStep before) (last : ¬FailedStep after)
    (quietFirst : ∀ name file, before ≠ ⟨.createExclusive name, .ok file⟩)
    (quietLast : ∀ name file, after ≠ ⟨.createExclusive name, .ok file⟩) :
    Appending result (before :: (said ++ [after])) := by
  constructor
  · intro name file created
    rcases List.mem_cons.mp created with same | created
    · exact quietFirst name file same.symm
    · rcases List.mem_append.mp created with created | created
      · exact appending.notCreated name file created
      · exact quietLast name file (List.mem_singleton.mp created).symm
  · rw [appending.fails]
    constructor
    · rintro ⟨entry, mem, failed⟩
      exact ⟨entry, List.mem_cons_of_mem _ (List.mem_append_left _ mem), failed⟩
    · rintro ⟨entry, mem, failed⟩
      rcases List.mem_cons.mp mem with rfl | mem
      · exact absurd failed first
      · rcases List.mem_append.mp mem with mem | mem
        · exact ⟨entry, mem, failed⟩
        · rw [List.mem_singleton.mp mem] at failed
          exact absurd failed last

omit [FloatText φ] [Interpreter] in
theorem writeLine_appending {file : ℕ} {line : Bytes} {result : Except RunError Unit}
    (replays : (writeLine file line).Replays () said result ()) : Appending result said := by
  rcases replays with ⟨answer, rest, rfl, continues⟩
  by_cases whole : answer = .ok line.length
  · subst whole
    change Replays (lift (refuse (line.length ≠ line.length) _) >>= fun _ => _) _ _ _ _ at continues
    rw [refuse_of_fails (not_not.mpr rfl)] at continues
    rcases continues with ⟨answer, rest, rfl, continues⟩
    rcases replays_lift_iff.mp continues with ⟨rfl, rfl, _⟩
    constructor
    · intro name other created
      rcases List.mem_cons.mp created with same | created
      · cases same
      · cases List.mem_singleton.mp created
    · rcases answer with failure | _
      · constructor
        · exact fun _ => ⟨_, List.mem_cons_of_mem _ (List.mem_singleton_self _), failure, rfl⟩
        · exact fun _ => ⟨_, rfl⟩
      · constructor
        · rintro ⟨_, impossible⟩
          cases impossible
        · rintro ⟨entry, mem, failed⟩
          rcases List.mem_cons.mp mem with rfl | mem
          · exact absurd rfl failed
          · rw [List.mem_singleton.mp mem] at failed
            rcases failed with ⟨_, impossible⟩
            cases impossible
  · have ended : rest = [] ∧ ∃ error, result = .error error := by
      rcases answer with failure | count
      · rcases continues with ⟨rfl, rfl, _⟩
        exact ⟨rfl, _, rfl⟩
      · have partly : count ≠ line.length := fun same => whole (by rw [same])
        change Replays (lift (refuse (count ≠ line.length) _) >>= fun _ => _) _ _ _ _ at continues
        rw [refuse_of_holds partly] at continues
        rcases continues with ⟨rfl, rfl, _⟩
        exact ⟨rfl, _, rfl⟩
    rcases ended with ⟨rfl, error, rfl⟩
    constructor
    · intro name other created
      cases List.mem_singleton.mp created
    · exact ⟨fun _ => ⟨_, List.mem_singleton_self _, whole⟩, fun _ => ⟨_, rfl⟩⟩

omit [FloatText φ] [Interpreter] in
theorem appendJournal_appending {name : Str} {line : Bytes} {result : Except RunError Unit}
    (replays : (appendJournal name line).Replays () said result ()) : Appending result said := by
  rcases replays with ⟨_, rest, rfl, continues⟩
  rcases replays_attempt_bind_iff.mp continues with ⟨outcome, _, first, second, rfl, appends, ends⟩
  rcases ends with ⟨_, rest, rfl, ends⟩
  rcases replays_lift_iff.mp ends with ⟨rfl, rfl, _⟩
  have appending : Appending result first := by
    clear continues
    rcases appends with ⟨answer, rest, rfl, writes⟩
    rcases answer with failure | file
    · rcases writes with ⟨rfl, rfl, _⟩
      constructor
      · intro path other created
        cases List.mem_singleton.mp created
      · exact ⟨fun _ => ⟨_, List.mem_singleton_self _, failure, rfl⟩, fun _ => ⟨_, rfl⟩⟩
    · change Replays ((writeLine file line).attempt >>= fun outcome => _) _ _ _ _ at writes
      rcases replays_attempt_bind_iff.mp writes with ⟨outcome, _, front, back, rfl, writes, ends⟩
      rcases ends with ⟨_, rest, rfl, ends⟩
      rcases replays_lift_iff.mp ends with ⟨rfl, rfl, _⟩
      apply (writeLine_appending writes).around
      · rintro ⟨_, impossible⟩
        cases impossible
      · exact id
      · exact fun _ _ same => by cases same
      · exact fun _ _ same => by cases same
  apply appending.around
  · exact id
  · exact id
  · exact fun _ _ same => by cases same
  · exact fun _ _ same => by cases same

end Said

end Runs

end Psv
