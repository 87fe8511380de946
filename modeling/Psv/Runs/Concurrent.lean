import Psv.Runs.Sequential

/-!
# Calls that write run records side by side

A pool of calls of `write_run_record` over one directory.  Each call is guarded
on its own (`keeps_writeRunRecord`) and what one call changes is what the others
put up with (`Touches.leaves`), so every interleaving keeps every call guarded.
What remains is about files that are older than a call: it owns none of them,
and an ordinary one never becomes the journal.
-/

namespace Psv

open Python Interaction Program Document

namespace Runs

variable {ι : Type} {process : ι → ℕ} {i : ι} {disk before after : Disk ι}

/-! ### Files that are older than a call -/

/-- The file exists and call `i` did not create it. -/
def Foreign (i : ι) (file : ℕ) (disk : Disk ι) : Prop :=
  file < disk.next ∧ disk.owner file ≠ some i

/-- The file exists and is not the journal. -/
def Ordinary (file : ℕ) (disk : Disk ι) : Prop := file < disk.next ∧ ¬IsJournal disk file

theorem Foreign.touched {file : ℕ} {j : ι} (foreign : Foreign i file before)
    (touches : Touches j before after) : Foreign i file after := by
  refine ⟨lt_of_lt_of_le foreign.1 touches.next, ?_⟩
  rw [touches.keepsOwner file foreign.1]
  exact foreign.2

theorem Ordinary.touched {file : ℕ} {j : ι} (ordinary : Ordinary file before)
    (touches : Touches j before after) : Ordinary file after := by
  refine ⟨lt_of_lt_of_le ordinary.1 touches.next, ?_⟩
  rintro ⟨named, unowned⟩
  rw [touches.keepsOwner file ordinary.1] at unowned
  have notMine : before.owner file ≠ some j := by
    rw [unowned]
    exact (Option.some_ne_none j).symm
  exact ordinary.2 ⟨(touches.names file journalName ordinary.1 notMine).mp named, unowned⟩

/-! ### All calls together -/

section Calls

/-- The calls of a directory. -/
abbrev Calls (ι : Type) : Type := Pool fileSystem Unit RunError Str (Disk ι) ι

variable {φ : Type} [FloatText φ] [Interpreter]

/-- Calls that have not started. -/
def waiting (records : ι → Members φ) (disk : Disk ι) : Calls ι :=
  ⟨fun i => ⟨writeRunRecord (records i), false, []⟩, (), disk⟩

variable [DecidableEq ι] {records : ι → Members φ} {pool later : Calls ι}

/-- Every interleaving keeps every call guarded. -/
theorem guarded_calls (unowned : ∀ file, disk.owner file = none)
    (reaches : Reaches (answers process) (waiting records disk) pool) :
    AllGuarded (answers process) Leaves Touches (fun i => Finished i (records i)) pool := by
  apply guarded_of_reaches (fun i j different before after touches => touches.leaves different)
    _ reaches
  intro i
  have sound : Sound disk := fun file named => ⟨named, unowned file⟩
  have fresh : ∀ file, disk.owner file ≠ some i := by
    intro file owned
    rw [unowned] at owned
    cases owned
  exact keeps_writeRunRecord (settled_nil sound fresh _) fun _ _ => List.not_mem_nil

/-- A move touches what its call may touch. -/
theorem touches_move (unowned : ∀ file, disk.owner file = none)
    (reaches : Reaches (answers process) (waiting records disk) pool)
    (move : Move (answers process) pool i later) : Touches i pool.world later.world := by
  rcases (guarded_calls unowned reaches).change move with same | touches
  · rw [same]
    exact Touches.rfl
  · exact touches

/-- What holds of a directory and survives whatever a call may touch holds later on. -/
theorem persists (unowned : ∀ file, disk.owner file = none)
    (reaches : Reaches (answers process) (waiting records disk) pool)
    {motive : Disk ι → Prop}
    (step : ∀ {j before after}, motive before → Touches j before after → motive after)
    (holds : motive pool.world) (continues : Reaches (answers process) pool later) :
    motive later.world := by
  induction continues with
  | refl => exact holds
  | tail more moves ih =>
      rcases moves with ⟨j, move⟩
      exact step ih (touches_move unowned (reaches.trans more) move)

/-- A call that has not started has created nothing. -/
theorem waiting_owner (unowned : ∀ file, disk.owner file = none)
    (reaches : Reaches (answers process) (waiting records disk) pool)
    (idle : (pool.threads i).started = false) (file : ℕ) : pool.world.owner file ≠ some i := by
  induction reaches with
  | refl =>
      rw [show (waiting records disk).world.owner file = none from unowned file]
      exact (Option.some_ne_none i).symm
  | tail reaches moves ih =>
      rcases moves with ⟨j, move⟩
      have different : i ≠ j := by
        rintro rfl
        cases move
        · rw [put_running] at idle
          cases idle
        · rw [put_running] at idle
          cases idle
      have stillIdle := idle
      rw [move.threads_of_ne different] at stillIdle
      rw [Ne, (touches_move unowned reaches move).owner file i different]
      exact ih stillIdle

/-- What a step of a call leaves of a file. -/
structure Spares (file : ℕ) (before after : Disk ι) : Prop where
  names : ∀ name, before.names name = some file → after.names name = some file
  grows : before.content file <+: after.content file

/-- A step of a call spares what existed before the call, and changes no more than the journal. -/
theorem spares_move (unowned : ∀ file, disk.owner file = none)
    (reaches : Reaches (answers process) (waiting records disk) pool)
    (idle : (pool.threads i).started = false) {middle : Calls ι}
    (continues : Reaches (answers process) pool middle)
    (move : Move (answers process) middle i later) {name : Str} {file : ℕ}
    (named : pool.world.names name = some file) :
    Spares file middle.world later.world ∧
      (name ≠ journalName → later.world.content file = middle.world.content file) := by
  have touches := touches_move unowned (reaches.trans continues) move
  have bound := pool.world.names_lt name file named
  have foreign : Foreign i file middle.world :=
    persists unowned reaches (fun foreign touches => Foreign.touched foreign touches)
      ⟨bound, waiting_owner unowned reaches idle file⟩ continues
  refine ⟨⟨?_, touches.grows file foreign.1 foreign.2⟩, ?_⟩
  · intro other isNamed
    exact (touches.names file other foreign.1 foreign.2).mpr isNamed
  · intro different
    have ordinary : Ordinary file middle.world := by
      apply persists unowned reaches (fun ordinary touches => Ordinary.touched ordinary touches)
        _ continues
      refine ⟨bound, ?_⟩
      rintro ⟨isJournal, _⟩
      exact different (pool.world.names_injective name journalName file named isJournal)
    exact touches.content file foreign.1 foreign.2 ordinary.2

/-- A call that has come to its end has ended as it should. -/
theorem finished_of_ending (unowned : ∀ file, disk.owner file = none)
    (reaches : Reaches (answers process) (waiting records disk) pool) {result : Except RunError Str}
    (ended : (pool.threads i).program = ending result) :
    Finished i (records i) result (pool.threads i).said pool.world := by
  have guarded := guarded_calls unowned reaches i
  rw [ended] at guarded
  rcases result with error | name
  · exact guarded pool.world (refl pool.world)
  · exact guarded pool.world (refl pool.world)

/-- Calls side by side, whatever fails and wherever they are interrupted.  A call changes no older
file but the journal, which it only extends, and removes none; no two calls return one path; a
path that is returned leads to the whole payload; a file that could not be written is gone when
its call has ended; and whatever else a call leaves behind is whole. -/
theorem run_records_exclusive (unowned : ∀ file, disk.owner file = none)
    (reaches : Reaches (answers process) (waiting records disk) pool) :
    (∀ i middle later name file, (pool.threads i).started = false →
      Reaches (answers process) pool middle → Move (answers process) middle i later →
      pool.world.names name = some file →
        Spares file middle.world later.world ∧
          (name ≠ journalName → later.world.content file = middle.world.content file)) ∧
    (∀ i j name, (pool.threads i).program = .ret name → (pool.threads j).program = .ret name →
      i = j) ∧
    (∀ i name, (pool.threads i).program = .ret name → ∃ file payload,
      lineOf .indented (.object (records i)) = .ok payload ∧
        pool.world.names name = some file ∧ pool.world.content file = payload) ∧
    (∀ i result file, (pool.threads i).program = ending result →
      WritingFailed (pool.threads i).said file → ∀ name, pool.world.names name ≠ some file) ∧
    (∀ i result path name file, (pool.threads i).program = ending result →
      Created (pool.threads i).said path file → pool.world.names name = some file →
        lineOf .indented (.object (records i)) = .ok (pool.world.content file)) := by
  refine ⟨?_, ?_, ?_, ?_, ?_⟩
  · intro i middle later name file idle continues move named
    exact spares_move unowned reaches idle continues move named
  · intro i j name first second
    have firstEnds : Finished i (records i) (.ok name) _ _ :=
      finished_of_ending unowned reaches first
    have secondEnds : Finished j (records j) (.ok name) _ _ :=
      finished_of_ending unowned reaches second
    rcases firstEnds.ended.2 name rfl with ⟨_, file, owned, named, _⟩
    rcases secondEnds.ended.2 name rfl with ⟨_, other, otherOwned, otherNamed, _⟩
    rw [named] at otherNamed
    rw [← Option.some.inj otherNamed, owned] at otherOwned
    exact Option.some.inj otherOwned
  · intro i name returned
    have finished : Finished i (records i) (.ok name) _ _ :=
      finished_of_ending unowned reaches returned
    rcases finished.ended.2 name rfl with ⟨_, file, _, named, content⟩
    exact ⟨file, _, finished.returned name rfl, named, content⟩
  · intro i result file ended failed name
    have finished := finished_of_ending unowned reaches ended
    exact finished.ended.1.failed file name failed (Option.some_ne_none file).symm
  · intro i result path name file ended created named
    have finished := finished_of_ending unowned reaches ended
    have owned := finished.ended.1.created path file created
    rw [finished.ended.1.whole file name owned (Option.some_ne_none file).symm named]
    exact finished.created path file created

end Calls

/-! ### Two calls with one stem -/

/-- A directory with an empty journal. -/
def journalOnly {ι : Type} : Disk ι := Disk.empty.create journalName none

theorem journalOnly_unowned {ι : Type} (file : ℕ) : (journalOnly : Disk ι).owner file = none := by
  by_cases new : file = 0
  · rw [new]
    rfl
  · exact Function.update_of_ne new _ _

/-- The name under which both calls want their record. -/
def wantedStem : Str := "run-2026-000000000000".toList

section Failing

variable {stem name : Str} {payload : Bytes}

/-- A file is created, and its first write fails. -/
theorem replays_failedWrite (some_ : payload ≠ []) (file : ℕ) (message : Str) :
    (writeExclusive name payload).Replays () [⟨FileAsk.createExclusive name, .ok file⟩,
      ⟨FileAsk.write file payload, .error (.os message)⟩, ⟨FileAsk.close file, ()⟩,
      ⟨FileAsk.unlink name, ()⟩] (.error (.file (.os message))) () := by
  refine ⟨_, _, rfl, ?_⟩
  change Replays ((writeDurably file payload).attempt >>= fun outcome =>
    finishExclusive name file outcome) _ _ _ _
  apply replays_attempt_bind_iff.mpr
  refine ⟨.error (.file (.os message)), (), [⟨FileAsk.write file payload, .error (.os message)⟩],
    [⟨FileAsk.close file, ()⟩, ⟨FileAsk.unlink name, ()⟩], rfl, ?_, ?_⟩
  · apply replays_bind_iff.mpr
    refine Or.inr ⟨_, rfl, ?_⟩
    rcases List.exists_cons_of_ne_nil some_ with ⟨head, rest, rfl⟩
    exact ⟨_, _, rfl, rfl, rfl, rfl⟩
  · exact ⟨_, _, rfl, _, _, rfl, rfl, rfl, rfl⟩

variable {φ : Type} [FloatText φ] [Interpreter] {record : Members φ}

/-- A call whose record cannot be written ends with the error, and has removed the file. -/
theorem replays_failedCall (verified : verifyRunRecord record = .ok true)
    (isStem : stemAndPayload record = .ok (stem, payload)) (file : ℕ) (message : Str) :
    (writeRunRecord record).Replays () ([⟨FileAsk.mkdir, .ok ()⟩,
      ⟨FileAsk.createExclusive (recordName stem 0), .ok file⟩] ++
        [⟨FileAsk.write file payload, .error (.os message)⟩, ⟨FileAsk.close file, ()⟩,
          ⟨FileAsk.unlink (recordName stem 0), ()⟩]) (.error (.file (.os message))) () := by
  have some_ : payload ≠ [] := lineOf_ne_nil (stem_run isStem).1
  apply replays_bind_iff.mpr
  refine Or.inr ⟨_, rfl, ?_⟩
  rw [createRecord, verified, lift_ok_bind, refuse_of_fails (by simp), lift_ok_bind]
  refine ⟨_, _, rfl, ?_⟩
  change Replays (lift (stemAndPayload record) >>= fun found =>
    exclusiveRecordPath found.1 found.2) _ _ _ _
  rw [isStem, lift_ok_bind]
  apply replays_handle_iff.mpr
  refine Or.inr ⟨.file (.os message), (), _, [], (List.append_nil _).symm, ?_, rfl, rfl, rfl⟩
  apply replays_bind_iff.mpr
  exact Or.inr ⟨_, rfl, replays_failedWrite some_ file message⟩

end Failing

/-- A call that nothing disturbs returns, and its line stands in the journal. -/
theorem zeroRecord_returns : letI := asciiInterpreter []
    letI := zeroText
    ∃ later : Calls Unit,
      Reaches (answers fun _ => 0) (waiting (fun _ => zeroRecord "2026".toList) journalOnly) later ∧
        journalBytes later.world ≠ journalBytes (journalOnly : Disk Unit) := by
  let := asciiInterpreter []
  let := zeroText
  rcases zeroRecord_stem "2026".toList with ⟨payload, isStem⟩
  rcases zeroRecord_line "2026".toList (recordName wantedStem 0) with ⟨line, isLine⟩
  have isWanted : "run-".toList ++ compactTime "2026".toList ++ '-' :: List.replicate 12 '0' =
      wantedStem := by decide
  rw [isWanted] at isStem
  rcases exists_call (fun _ => 0) () (zeroRecord_verified "2026".toList) isStem (Nat.succ_pos 9999)
    (fun n impossible => absurd impossible (Nat.not_lt_zero n)) (by decide) (by decide) isLine
    (le_refl _) none (rfl : (journalOnly : Disk Unit).lock 0 = none) with
    ⟨said, after, replays, through, _⟩
  rw [appendResult_whole] at replays
  have fresh : (waiting (fun _ : Unit => zeroRecord "2026".toList) journalOnly).threads () =
      ⟨writeRunRecord (zeroRecord "2026".toList), false, []⟩ := rfl
  rcases reaches_alone fresh replays through with ⟨later, reaches, _, isWorld, _⟩
  refine ⟨later, reaches, ?_⟩
  have sound : Sound (journalOnly : Disk Unit) := fun file named =>
    ⟨named, journalOnly_unowned file⟩
  have unowned : ∀ file, (journalOnly : Disk Unit).owner file ≠ some () := by
    intro file owned
    rw [journalOnly_unowned] at owned
    cases owned
  rw [isWorld]
  rcases writeRunRecord_effect sound unowned replays through with
    ⟨_, ⟨⟨_, impossible⟩, _⟩ | ⟨name, written, count, _, isWritten, journal, _, _, _, whole⟩⟩
  · cases impossible
  · rcases whole _ rfl with ⟨_, all, _⟩
    have isLine : ∃ entry : Members Unit, lineOf .plain (.object entry) = .ok written := by
      simp only [journalLine, Checks.bind_eq_ok_iff] at isWritten
      rcases isWritten with ⟨entry, _, isLine⟩
      exact ⟨entry, isLine⟩
    rcases isLine with ⟨entry, isLine⟩
    rw [journal, all, List.take_length]
    intro same
    exact lineOf_ne_nil isLine (List.append_right_eq_self.mp same)

/-- The first call has created its file when the second one runs, which takes the next name; then
writing the first file fails, and it is removed. -/
theorem run_records_exclusive_interleaved : letI := asciiInterpreter []
    letI := zeroText
    ∃ later : Calls Bool,
      Reaches (answers fun _ => 0) (waiting (fun _ => zeroRecord "2026".toList) journalOnly) later ∧
        (∃ error, (later.threads false).program = .raise error) ∧
        (later.threads true).program = .ret "run-2026-000000000000-1.json".toList ∧
        (∀ name, later.world.names name ≠ some 1) ∧
        ∃ file payload, lineOf .indented (.object (zeroRecord "2026".toList)) = .ok payload ∧
          later.world.names "run-2026-000000000000-1.json".toList = some file ∧
          later.world.content file = payload := by
  let := asciiInterpreter []
  let := zeroText
  rcases zeroRecord_stem "2026".toList with ⟨payload, isStem⟩
  rcases zeroRecord_line "2026".toList (recordName wantedStem 1) with ⟨line, isLine⟩
  have isWanted : "run-".toList ++ compactTime "2026".toList ++ '-' :: List.replicate 12 '0' =
      wantedStem := by decide
  rw [isWanted] at isStem
  have verified := zeroRecord_verified "2026".toList
  have fresh : ∀ i, (waiting (fun _ : Bool => zeroRecord "2026".toList) journalOnly).threads i =
      ⟨writeRunRecord (zeroRecord "2026".toList), false, []⟩ := fun _ => rfl
  have begins : Through (answers (fun _ : Bool => 0) false) journalOnly [⟨FileAsk.mkdir, .ok ()⟩,
      ⟨FileAsk.createExclusive (recordName wantedStem 0), .ok 1⟩]
      (journalOnly.create (recordName wantedStem 0) (some false)) :=
    ⟨_, .mkdir, _, .created (by decide) (by decide), rfl⟩
  rcases reaches_until (fresh false) (replays_failedCall verified isStem 1 "no space".toList) begins
    with ⟨middle, toMiddle, isMiddle, before, others⟩
  have taken : ∀ n, n < 1 → middle.world.names (recordName wantedStem n) ≠ none := by
    intro n small
    rw [Nat.lt_one_iff.mp small, isMiddle]
    rw [Disk.create_names, Function.update_self]
    exact Option.some_ne_none _
  have free : middle.world.names (recordName wantedStem 1) = none := by
    rw [isMiddle]
    decide
  have unlocked : middle.world.lock 0 = none := by
    rw [isMiddle]
    rfl
  rcases exists_call (fun _ : Bool => 0) true verified isStem (show 1 < 10000 by decide) taken
    (by decide) free isLine (le_refl _) none unlocked with ⟨said, _, replays, through, _⟩
  rw [appendResult_whole] at replays
  rcases reaches_alone ((others true (by decide)).trans (fresh true)) replays through with
    ⟨second, toSecond, _, _, returned, others⟩
  have goesOn := before.moved (others false (by decide)) rfl
  have ends : Through (answers (fun _ : Bool => 0) false) second.world
      [⟨FileAsk.write 1 payload, .error (.os "no space".toList)⟩, ⟨FileAsk.close 1, ()⟩,
        ⟨FileAsk.unlink (recordName wantedStem 0), ()⟩]
      (second.world.remove (recordName wantedStem 0)) :=
    ⟨_, .writeFails _, _, .closed, _, .unlinked, rfl⟩
  rcases reaches_end goesOn ends with ⟨later, toLater, _, _, failed, others⟩
  have reaches := (toMiddle.trans toSecond).trans toLater
  have exclusive := run_records_exclusive journalOnly_unowned reaches
  have isReturned : (later.threads true).program =
      .ret "run-2026-000000000000-1.json".toList := by
    rw [others true (by decide), returned]
    rfl
  refine ⟨later, reaches, ⟨_, congrArg Thread.program failed⟩, isReturned, ?_,
    exclusive.2.2.1 true _ isReturned⟩
  apply exclusive.2.2.2.1 false (.error (.file (.os "no space".toList))) 1
    (congrArg Thread.program failed)
  rw [failed]
  exact ⟨⟨_, List.mem_cons_of_mem _ List.mem_cons_self⟩, ⟨FileAsk.write 1 payload,
    .error (.os "no space".toList)⟩, by simp, rfl, trivial⟩

/-- The journal exists before a call and is changed by it. -/
theorem journal_changes : letI := asciiInterpreter []
    letI := zeroText
    ¬∀ later : Calls Unit,
      Reaches (answers fun _ => 0) (waiting (fun _ => zeroRecord "2026".toList) journalOnly) later →
        ∀ name file, (journalOnly : Disk Unit).names name = some file →
          later.world.names name = some file ∧
            later.world.content file = (journalOnly : Disk Unit).content file := by
  let := asciiInterpreter []
  let := zeroText
  intro unchanged
  rcases zeroRecord_returns with ⟨later, reaches, changed⟩
  have named : (journalOnly : Disk Unit).names journalName = some 0 := rfl
  rcases unchanged later reaches journalName 0 named with ⟨namedLater, same⟩
  rw [journalBytes_of_names namedLater, journalBytes_of_names named] at changed
  exact changed same

end Runs

end Psv
