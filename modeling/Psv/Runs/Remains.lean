import Psv.Runs.Failures

/-!
# What a call leaves behind

A call of `write_run_record` among others, from its first step to its last.  Its
record is there in the end exactly when its first half has returned; then it is
whole, whatever became of the journal.
-/

namespace Psv

open Python Interaction Program Document

namespace Runs

variable {ι : Type} {process : ι → ℕ} {i : ι} {disk later : Disk ι} {said : History fileSystem}

/-! ### Who created a file -/

/-- Only an exclusive creation makes a file of this call. -/
theorem owner_of_answers {question : FileAsk} {answer : question.Answer}
    (answered : disk.Answers process i question answer later) {file : ℕ}
    (owned : later.owner file = some i) :
    disk.owner file = some i ∨
      ∃ name, (⟨question, answer⟩ : Entry) = ⟨.createExclusive name, .ok file⟩ := by
  cases answered with
  | created plain free =>
      by_cases new : file = disk.next
      · subst new
        exact Or.inr ⟨_, rfl⟩
      · rw [Disk.create_owner, Function.update_of_ne new] at owned
        exact Or.inl owned
  | openedNew plain free =>
      by_cases new : file = disk.next
      · subst new
        rw [Disk.create_owner, Function.update_self] at owned
        cases owned
      · rw [Disk.create_owner, Function.update_of_ne new] at owned
        exact Or.inl owned
  | _ => exact Or.inl owned

/-- A file of this call was created in its conversation. -/
theorem created_of_owned (through : Through (amid (Leaves i) (answers process i)) disk said later)
    {file : ℕ} (owned : later.owner file = some i) :
    disk.owner file = some i ∨ ∃ name, Created said name file := by
  induction said generalizing disk with
  | nil =>
      cases through
      exact Or.inl owned
  | cons entry said ih =>
      rcases through with ⟨middle, ⟨before, step, answered⟩, more⟩
      rcases ih more with here | ⟨name, created⟩
      · rcases owner_of_answers answered here with here | ⟨name, same⟩
        · exact Or.inl ((step.owner file).mp here)
        · exact Or.inr ⟨name, List.mem_cons.mpr (Or.inl same.symm)⟩
      · exact Or.inr ⟨name, List.mem_cons_of_mem _ created⟩

section Calls

variable {φ : Type} [FloatText φ] [Interpreter] [RunEnvironment φ] {run : RunArguments φ}
  {record : Members φ} {result : Except RunError Str}

/-! ### The two halves of a call -/

/-- The creation of the record fails; or it returns, and the journal decides. -/
theorem writeRunRecord_cases (built : buildRunRecord run = .ok record)
    (short : run.exitCode.natAbs < 10 ^ maxStrDigits)
    (replays : (writeRunRecord record).Replays () said result ()) :
    (∃ error, result = .error error ∧ (createRecord record).Replays () said (.error error) ()) ∨
      ∃ name line first second appended, said = first ++ second ∧
        (createRecord record).Replays () first (.ok name) () ∧
        (appendJournal journalName line).Replays () second appended () ∧
        ((∃ error, result = .error error) ↔ ∃ error, appended = .error error) := by
  rcases replays_bind_iff.mp replays with
    ⟨name, _, first, rest, rfl, creates, continues⟩ | ⟨error, rfl, creates⟩
  · rcases journalLine_built built short name with ⟨line, isLine⟩
    rw [isLine] at continues
    right
    rcases replays_bind_iff.mp (show Replays (appendJournal journalName line >>= fun _ =>
        pure name) _ _ _ _ from continues) with
      ⟨_, _, second, _, rfl, appends, rfl, rfl, _⟩ | ⟨error, rfl, appends⟩
    · refine ⟨name, line, first, second, .ok (), by simp, creates, appends, ?_⟩
      simp
    · exact ⟨name, line, first, rest, .error error, rfl, creates, appends, by simp⟩
  · exact Or.inl ⟨error, rfl, creates⟩

/-! ### What is left -/

omit [RunEnvironment φ] in
/-- After a creation that failed no file of this call is left. -/
theorem nothing_left {error : RunError} (sound : Sound disk)
    (fresh : ∀ file, disk.owner file ≠ some i)
    (creates : (createRecord record).Replays () said (.error error) ())
    (through : Through (amid (Leaves i) (answers process i)) disk said later) {name : Str} {file : ℕ}
    (owned : later.owner file = some i) : later.names name ≠ some file := by
  have kept : KeepsOwn process i (Finished i record) (createRecord record) [] disk :=
    keeps_createRecord (settled_nil sound fresh (payloadOf record)) fun _ _ => List.not_mem_nil
  have finished := kept.amid creates through
  rw [List.nil_append] at finished
  rcases created_of_owned through owned with before | ⟨path, created⟩
  · exact absurd before (fresh file)
  · have fails := (createRecord_ends creates).2 path file created
    exact finished.ended.1.failed file name ⟨⟨path, created⟩, fails⟩ (by simp)

omit [RunEnvironment φ] in
/-- After a creation that returned the record is there, and every file of this call holds it,
whatever became of the journal. -/
theorem record_left {name : Str} {line : Bytes} {first second : History fileSystem}
    {appended : Except RunError Unit} (sound : Sound disk)
    (fresh : ∀ file, disk.owner file ≠ some i)
    (creates : (createRecord record).Replays () first (.ok name) ())
    (appends : (appendJournal journalName line).Replays () second appended ())
    (through : Through (amid (Leaves i) (answers process i)) disk (first ++ second) later) :
    lineOf .indented (.object record) = .ok (payloadOf record) ∧
      (∃ file, later.owner file = some i ∧ later.names name = some file) ∧
      ∀ file path, later.owner file = some i → later.names path = some file →
        later.content file = payloadOf record := by
  rcases through_append_iff.mp through with ⟨middle, throughFirst, throughSecond⟩
  have kept : KeepsOwn process i (Finished i record) (createRecord record) [] disk :=
    keeps_createRecord (settled_nil sound fresh (payloadOf record)) fun _ _ => List.not_mem_nil
  have finished := kept.amid creates throughFirst
  have appending : Keeps process i (fun _ => Ended i (payloadOf record) (.ok name))
      (appendJournal journalName line) ([] ++ first) middle := keeps_appendJournal finished.ended
  have ended := appending.amid appends throughSecond
  rcases ended.2 name rfl with ⟨_, file, owned, named, _⟩
  refine ⟨finished.returned name rfl, ⟨file, owned, named⟩, ?_⟩
  exact fun other path isOwned isNamed => ended.1.whole other path isOwned (by simp) isNamed

end Calls

end Runs

end Psv
