import Psv.Runs.Exclusive
import Psv.Document.Short

/-!
# Calls one after another

What a call of `write_run_record` does to the directory when it is not disturbed.
The first half never opens the journal, so the entries about the journal are those
of `append_journal`, and the journal grows by the part of its line that the one
write took (`Appends`).
-/

namespace Psv

open Python Interaction Program Document

namespace Runs

variable {ι : Type} {process : ι → ℕ} {i : ι} {disk before middle after : Disk ι}

/-! ### The bytes of the journal -/

/-- What the journal holds, if there is one. -/
def journalBytes (disk : Disk ι) : Bytes :=
  match disk.names journalName with
  | some file => disk.content file
  | none => []

theorem journalBytes_of_names {file : ℕ} (named : disk.names journalName = some file) :
    journalBytes disk = disk.content file := by
  rw [journalBytes, named]

theorem journalBytes_of_free (free : disk.names journalName = none) : journalBytes disk = [] := by
  rw [journalBytes, free]

/-- The journal grows by this piece and the records stay as they are. -/
structure Appends (piece : Bytes) (before after : Disk ι) : Prop where
  journal : journalBytes after = journalBytes before ++ piece
  names : ∀ name, name ≠ journalName → after.names name = before.names name
  content : ∀ name file, name ≠ journalName → before.names name = some file →
    after.content file = before.content file
  owner : ∀ file i, after.owner file = some i ↔ before.owner file = some i
  sound : Sound before → Sound after

theorem Appends.trans {piece more : Bytes} (first : Appends piece before middle)
    (second : Appends more middle after) : Appends (piece ++ more) before after := by
  constructor
  · rw [second.journal, first.journal, List.append_assoc]
  · intro name ordinary
    rw [second.names name ordinary, first.names name ordinary]
  · intro name file ordinary named
    have namedLater := (first.names name ordinary).trans named
    rw [second.content name file ordinary namedLater, first.content name file ordinary named]
  · intro file i
    rw [second.owner, first.owner]
  · exact fun sound => second.sound (first.sound sound)

theorem appends_setLock (number : ℕ) (holder : Option ι) :
    Appends [] disk (disk.setLock number holder) := by
  refine ⟨?_, fun _ _ => rfl, fun _ _ _ _ => rfl, fun _ _ => Iff.rfl, id⟩
  rw [List.append_nil]
  rfl

theorem appends_rfl : Appends [] disk disk :=
  ⟨(List.append_nil _).symm, fun _ _ => rfl, fun _ _ _ _ => rfl, fun _ _ => Iff.rfl, id⟩

theorem appends_openNew (free : disk.names journalName = none) :
    Appends [] disk (disk.create journalName none) := by
  have named : (disk.create journalName none).names journalName = some disk.next := by
    rw [Disk.create_names, Function.update_self]
  constructor
  · rw [journalBytes_of_names named, journalBytes_of_free free, Disk.create_content,
      Function.update_self]
    rfl
  · intro name ordinary
    exact Function.update_of_ne ordinary _ _
  · intro name file _ named
    exact Function.update_of_ne (Nat.ne_of_lt (disk.names_lt name file named)) _ _
  · intro file j
    exact (leaves_openNew (i := j) free).owner file
  · intro _ file isNamed
    refine ⟨isNamed, ?_⟩
    rw [named] at isNamed
    rw [← Option.some.inj isNamed, Disk.create_owner, Function.update_self]

theorem appends_extend {file : ℕ} (named : disk.names journalName = some file) (data : Bytes) :
    Appends data disk (disk.extend file data) := by
  constructor
  · have namedLater : (disk.extend file data).names journalName = some file := named
    rw [journalBytes_of_names namedLater, journalBytes_of_names named, Disk.extend_content,
      Function.update_self]
  · exact fun _ _ => rfl
  · intro name other ordinary isNamed
    have different : other ≠ file := by
      rintro rfl
      exact ordinary (disk.names_injective name journalName other isNamed named)
    exact Function.update_of_ne different _ _
  · exact fun _ _ => Iff.rfl
  · exact fun sound => sound

/-! ### What is said about the journal -/

/-- The one write of a call to the journal: what it was given and how much of it it took. -/
def JournalWrite (said : History fileSystem) (line : Bytes) (count : ℕ) : Prop :=
  ∃ file, ([⟨FileAsk.openAppend journalName, .ok file⟩, ⟨FileAsk.write file line, .ok count⟩] :
    History fileSystem) <:+: said

/-- A question that does not open the journal. -/
def Elsewhere (question : fileSystem.Ask) : Prop := ∀ name, question ≠ FileAsk.openAppend name

theorem infix_of_notMem {α : Type} {first second : List α} {a b : α} (absent : a ∉ first)
    (found : [a, b] <:+: first ++ second) : [a, b] <:+: second := by
  rcases found with ⟨front, back, same⟩
  induction first generalizing front with
  | nil => exact ⟨front, back, same⟩
  | cons head first ih =>
      rcases front with _ | ⟨other, front⟩
      · rw [List.nil_append, List.cons_append, List.cons_append] at same
        exact absurd (List.mem_cons.mpr (Or.inl (List.cons.inj same).1)) absent
      · rw [List.cons_append, List.cons_append, List.cons_append] at same
        exact ih (fun mem => absent (List.mem_cons_of_mem _ mem)) front (List.cons.inj same).2

theorem JournalWrite.of_append {first second : History fileSystem} {line : Bytes} {count : ℕ}
    (elsewhere : ∀ entry ∈ first, Elsewhere entry.1)
    (written : JournalWrite (first ++ second) line count) : JournalWrite second line count := by
  rcases written with ⟨file, found⟩
  refine ⟨file, infix_of_notMem ?_ found⟩
  intro mem
  exact elsewhere _ mem journalName rfl

theorem JournalWrite.append {second : History fileSystem} {line : Bytes} {count : ℕ}
    (written : JournalWrite second line count) (first : History fileSystem) :
    JournalWrite (first ++ second) line count := by
  rcases written with ⟨file, found⟩
  exact ⟨file, found.trans (List.suffix_append first second).isInfix⟩

theorem notJournalWrite {said : History fileSystem} (elsewhere : ∀ entry ∈ said, Elsewhere entry.1)
    (line : Bytes) (count : ℕ) : ¬JournalWrite said line count := by
  rintro ⟨file, found⟩
  exact elsewhere _ (found.subset (List.mem_cons_self)) journalName rfl

/-! ### The second half of a call -/

variable {line : Bytes} {said : History fileSystem} {result : Except RunError Unit} {file : ℕ}

/-- How the one write of the journal turned out: what it answered and what that did. -/
structure LineWritten (line : Bytes) (result : Except RunError Unit) (before after : Disk ι)
    (answer : Except FileError ℕ) (count : ℕ) : Prop where
  appends : Appends (line.take count) before after
  bound : count ≤ line.length
  answered : answer = .ok count ∨ count = 0 ∧ ∃ error, answer = .error error
  whole : result = .ok () → answer = .ok line.length

theorem writeLine_effect (named : disk.names journalName = some file)
    (replays : (writeLine file line).Replays () said result ())
    (through : Through (answers process i) disk said after) :
    ∃ answer count rest, said = ⟨FileAsk.write file line, answer⟩ :: rest ∧
      (∀ entry ∈ rest, Elsewhere entry.1) ∧
      LineWritten line result disk after answer count := by
  rcases replays with ⟨answer, rest, rfl, continues⟩
  rcases through with ⟨middle, answered, more⟩
  cases answered with
  | wrote front =>
      rename_i count
      refine ⟨.ok count, count, rest, rfl, ?_⟩
      have appends : Appends (line.take count) disk (disk.extend file (line.take count)) :=
        appends_extend named _
      by_cases partly : count ≠ line.length
      · change Replays (lift (refuse (count ≠ line.length) _) >>= fun _ => _) _ _ _ _ at continues
        rw [refuse_of_holds partly] at continues
        rcases continues with ⟨rfl, rfl, _⟩
        cases more
        refine ⟨by simp, appends, front, Or.inl rfl, ?_⟩
        intro impossible
        cases impossible
      · have all : count = line.length := not_not.mp partly
        change Replays (lift (refuse (count ≠ line.length) _) >>= fun _ => _) _ _ _ _ at continues
        rw [refuse_of_fails partly] at continues
        rcases continues with ⟨synced, rest, rfl, continues⟩
        rcases more with ⟨last, answeredSync, more⟩
        have unchanged : last = disk.extend file (line.take count) := by
          cases answeredSync
          · rfl
          · rfl
        subst unchanged
        have ended : rest = [] := by
          rcases synced with error | value
          · exact continues.1
          · exact continues.1
        subst ended
        cases more
        refine ⟨?_, appends, front, Or.inl rfl, fun _ => by rw [all]⟩
        intro entry mem name same
        rw [List.mem_singleton.mp mem] at same
        cases same
  | writeFails message =>
      refine ⟨.error (.os message), 0, rest, rfl, ?_⟩
      rcases continues with ⟨rfl, rfl, _⟩
      cases more
      refine ⟨by simp, ?_, Nat.zero_le _, Or.inr ⟨rfl, _, rfl⟩, ?_⟩
      · rw [List.take_zero]
        exact appends_rfl
      · intro impossible
        cases impossible

/-- What a call did to the journal: it took `count` bytes of the line, and the conversation shows
no other write. -/
structure JournalEffect (line : Bytes) (said : History fileSystem) (ok : Prop)
    (before after : Disk ι) (count : ℕ) : Prop where
  appends : Appends (line.take count) before after
  bound : count ≤ line.length
  written : 0 < count → JournalWrite said line count
  whole : ok → count = line.length ∧ JournalWrite said line count
  only : ∀ other number, JournalWrite said other number → other = line ∧ number = count

/-- The journal is opened and the line is written right after it. -/
theorem LineWritten.effect {ok : Prop} {answer : Except FileError ℕ} {count : ℕ}
    {rest : History fileSystem} (written : LineWritten line result before after answer count)
    (elsewhere : ∀ entry ∈ rest, Elsewhere entry.1) (succeeds : ok → result = .ok ()) :
    JournalEffect line
      (⟨FileAsk.openAppend journalName, .ok file⟩ :: ⟨FileAsk.write file line, answer⟩ :: rest)
      ok before after count := by
  have shows : answer = .ok count → JournalWrite (⟨FileAsk.openAppend journalName, .ok file⟩ ::
      ⟨FileAsk.write file line, answer⟩ :: rest) line count := by
    rintro rfl
    exact ⟨file, [], rest, rfl⟩
  constructor
  · exact written.appends
  · exact written.bound
  · intro positive
    rcases written.answered with answered | ⟨zero, _⟩
    · exact shows answered
    · exact absurd zero (Nat.ne_of_gt positive)
  · intro holds
    have whole := written.whole (succeeds holds)
    have all : count = line.length := by
      rcases written.answered with answered | ⟨_, error, answered⟩
      · rw [answered] at whole
        exact Except.ok.inj whole
      · rw [answered] at whole
        cases whole
    exact ⟨all, shows (by rw [whole, all])⟩
  · rintro other number ⟨opened, front, back, same⟩
    rcases front with _ | ⟨first, front⟩
    · simp only [List.nil_append, List.cons_append, List.cons.injEq] at same
      have isWrite := same.2.1
      cases isWrite
      refine ⟨rfl, ?_⟩
      rcases written.answered with answered | ⟨_, _, impossible⟩
      · exact Except.ok.inj answered
      · cases impossible
    · rw [List.cons_append, List.cons_append] at same
      have mem : (⟨FileAsk.openAppend journalName, .ok opened⟩ : Entry) ∈
          (⟨FileAsk.write file line, answer⟩ : Entry) :: rest := by
        rw [← (List.cons.inj same).2]
        simp
      rcases List.mem_cons.mp mem with isWrite | mem
      · cases isWrite
      · exact absurd rfl (elsewhere _ mem journalName)

theorem Elsewhere.closing {said : History fileSystem} (elsewhere : ∀ entry ∈ said, Elsewhere entry.1)
    (entry : Entry) (own : Elsewhere entry.1) : ∀ other ∈ said ++ [entry], Elsewhere other.1 := by
  intro other mem
  rcases List.mem_append.mp mem with mem | same
  · exact elsewhere other mem
  · rw [List.mem_singleton.mp same]
    exact own

theorem elsewhere_release : Elsewhere FileAsk.release := fun _ same => by cases same

theorem elsewhere_close (file : ℕ) : Elsewhere (FileAsk.close file) := fun _ same => by cases same

/-- The conversation and the effect of `append_journal` between its lock and its release. -/
theorem appendLine_effect
    (replays : (appendLine journalName line).Replays () said result ())
    (through : Through (answers process i) disk said after) (next : Disk ι)
    (released : after.setLock (process i) none = next) :
    ∃ count, JournalEffect line (said ++ [⟨FileAsk.release, ()⟩]) (result = .ok ()) disk next
      count := by
  have appendsRelease : Appends [] after next := by
    rw [← released]
    exact appends_setLock _ _
  rcases replays with ⟨opened, rest, rfl, continues⟩
  rcases through with ⟨middle, answered, more⟩
  have onward : ∀ file, opened = .ok file → middle.names journalName = some file →
      Appends [] disk middle → ∃ count, JournalEffect line
        ((⟨FileAsk.openAppend journalName, opened⟩ :: rest) ++ [⟨FileAsk.release, ()⟩])
        (result = .ok ()) disk next count := by
    rintro file rfl named before
    change Replays ((writeLine file line).attempt >>= fun _ => _) _ _ _ _ at continues
    rcases replays_attempt_bind_iff.mp continues with
      ⟨outcome, _, first, second, rfl, writes, closes⟩
    rcases through_append_iff.mp more with ⟨written, throughWrite, throughClose⟩
    rcases closes with ⟨_, _, rfl, ends⟩
    rcases replays_lift_iff.mp ends with ⟨rfl, rfl, _⟩
    rcases throughClose with ⟨_, closed, rfl⟩
    cases closed
    rcases writeLine_effect named writes throughWrite with
      ⟨answer, count, rest, rfl, elsewhere, effect⟩
    have whole : LineWritten line result disk next answer count := by
      refine ⟨?_, effect.bound, effect.answered, effect.whole⟩
      have joined := (before.trans effect.appends).trans appendsRelease
      rwa [List.nil_append, List.append_nil] at joined
    have quiet := Elsewhere.closing (Elsewhere.closing elsewhere ⟨FileAsk.close file, ()⟩
      (elsewhere_close file)) ⟨FileAsk.release, ()⟩ elsewhere_release
    exact ⟨count, whole.effect quiet id⟩
  cases answered with
  | openedNew plain free =>
      apply onward _ rfl _ (appends_openNew free)
      rw [Disk.create_names, Function.update_self]
  | opened found => exact onward _ rfl found appends_rfl
  | openFails message =>
      rcases continues with ⟨rfl, rfl, _⟩
      cases more
      refine ⟨0, appendsRelease, Nat.zero_le _, ?_, ?_, ?_⟩
      · exact fun impossible => absurd impossible (lt_irrefl _)
      · intro impossible
        cases impossible
      · rintro other number ⟨file, front, back, same⟩
        rcases front with _ | ⟨first, front⟩
        · simp only [List.nil_append, List.cons_append, List.cons.injEq] at same
          cases same.1
        · have lengths := congrArg List.length same
          simp only [List.length_append, List.length_cons, List.length_nil] at lengths
          omega

theorem appendJournal_effect
    (replays : (appendJournal journalName line).Replays () said result ())
    (through : Through (answers process i) disk said after) :
    ∃ count, JournalEffect line said (result = .ok ()) disk after count := by
  rcases replays with ⟨_, rest, rfl, continues⟩
  rcases through with ⟨locked, answered, more⟩
  cases answered with
  | acquired free =>
      change Replays ((appendLine journalName line).attempt >>= fun _ => _) _ _ _ _ at continues
      rcases replays_attempt_bind_iff.mp continues with
        ⟨outcome, _, first, second, rfl, writes, releases⟩
      rcases through_append_iff.mp more with ⟨written, throughWrite, throughRelease⟩
      rcases releases with ⟨_, _, rfl, ends⟩
      rcases replays_lift_iff.mp ends with ⟨rfl, rfl, _⟩
      rcases throughRelease with ⟨released, unlocked, rfl⟩
      cases unlocked
      rcases appendLine_effect writes throughWrite _ rfl with ⟨count, effect⟩
      have before : Appends [] disk (disk.setLock (process i) (some i)) := appends_setLock _ _
      have elsewhere : ∀ entry ∈ ([⟨FileAsk.acquire, ()⟩] : History fileSystem),
          Elsewhere entry.1 := by
        intro entry mem name same
        rw [List.mem_singleton.mp mem] at same
        cases same
      refine ⟨count, before.trans effect.appends, effect.bound, ?_, ?_, ?_⟩
      · exact fun positive => (effect.written positive).append [⟨FileAsk.acquire, ()⟩]
      · intro holds
        rcases effect.whole holds with ⟨all, written⟩
        exact ⟨all, written.append [⟨FileAsk.acquire, ()⟩]⟩
      · intro other number written
        exact effect.only other number (JournalWrite.of_append elsewhere written)

/-! ### The whole call -/

theorem journalBytes_owned (fresh : ∀ file, before.owner file ≠ some i)
    (owns : Owns i before after) : journalBytes after = journalBytes before := by
  rcases found : before.names journalName with _ | file
  · have foundLater : after.names journalName = none := by rw [owns.journalName, found]
    rw [journalBytes_of_free found, journalBytes_of_free foundLater]
  · have foundLater : after.names journalName = some file := by rw [owns.journalName, found]
    rw [journalBytes_of_names found, journalBytes_of_names foundLater,
      owns.foreign file (before.names_lt _ _ found) (fresh file)]

theorem asks_writeAll (fuel file : ℕ) (view : Bytes) : (writeAll fuel file view).Asks Elsewhere := by
  induction fuel generalizing view with
  | zero => trivial
  | succ fuel ih =>
      rw [writeAll]
      split_ifs
      · trivial
      · apply (asks_question (by intro _ same; cases same)).bind
        intro answer
        apply (asks_lift _).bind
        intro written
        apply (asks_lift _).bind
        exact fun _ => ih _

theorem asks_writeExclusive (name : Str) (payload : Bytes) :
    (writeExclusive name payload).Asks Elsewhere := by
  apply (asks_question (by intro _ same; cases same)).bind
  intro opened
  apply (asks_lift _).bind
  intro file
  have durably : (writeDurably file payload).Asks Elsewhere := by
    apply (asks_writeAll _ _ _).bind
    intro _
    apply (asks_question (by intro _ same; cases same)).bind
    exact fun synced => asks_lift _
  apply durably.attempt.bind
  intro outcome
  apply (asks_question (by intro _ same; cases same)).bind
  intro _
  rcases outcome with error | _
  · apply (asks_question (by intro _ same; cases same)).bind
    exact fun _ => trivial
  · trivial

theorem asks_tryPaths (stem : Str) (payload : Bytes) (left sequence : ℕ) :
    (tryPaths stem payload left sequence).Asks Elsewhere := by
  induction left generalizing sequence with
  | zero => trivial
  | succ left ih =>
      apply Asks.handle
      · exact (asks_writeExclusive _ _).bind fun _ => trivial
      · intro error
        split
        · exact ih _
        · trivial

section Effects

variable {φ : Type} [FloatText φ] [Interpreter] {record : Members φ} {ended : Except RunError Str}

theorem asks_createRecord (record : Members φ) : (createRecord record).Asks Elsewhere := by
  apply (asks_lift _).bind
  intro verified
  apply (asks_lift _).bind
  intro _
  apply (asks_question (by intro _ same; cases same)).bind
  intro made
  apply (asks_lift _).bind
  intro _
  apply (asks_lift _).bind
  exact fun stem => asks_tryPaths _ _ _ _

/-- A new file of a call: its name was free, and it holds the text of the record. -/
structure Entered (i : ι) (record : Members φ) (name : Str) (before after : Disk ι) : Prop where
  isRecord : IsRecordName name
  ordinary : name ≠ journalName
  free : before.names name = none
  held : ∃ file, Holds i name file (payloadOf record) after
  isLine : lineOf .indented (.object record) = .ok (payloadOf record)
  verified : verifyRunRecord record = .ok true

/-- What a call leaves alone. -/
structure Bypasses (i : ι) (before after : Disk ι) : Prop where
  sound : Sound after
  older : ∀ name file, name ≠ journalName → before.names name = some file →
    after.names name = some file ∧ after.content file = before.content file
  owner : ∀ file j, j ≠ i → (after.owner file = some j ↔ before.owner file = some j)

omit [Interpreter] in
theorem Bypasses.appends {piece : Bytes} (bypasses : Bypasses i before middle)
    (appends : Appends piece middle after) : Bypasses i before after := by
  constructor
  · exact appends.sound bypasses.sound
  · intro name file ordinary named
    rcases bypasses.older name file ordinary named with ⟨namedMiddle, content⟩
    exact ⟨(appends.names name ordinary).trans namedMiddle,
      (appends.content name file ordinary namedMiddle).trans content⟩
  · intro file j different
    rw [appends.owner, bypasses.owner file j different]

theorem createRecord_effect (sound : Sound before) (fresh : ∀ file, before.owner file ≠ some i)
    (creates : (createRecord record).Replays () said ended ())
    (through : Through (answers process i) before said after) :
    Bypasses i before after ∧ journalBytes after = journalBytes before ∧
      ∀ name, ended = .ok name → Entered i record name before after := by
  have keeps : KeepsOwn process i (Finished i record) (createRecord record) [] before :=
    keeps_createRecord (settled_nil sound fresh _) fun _ _ => List.not_mem_nil
  rcases keeps.through creates through with ⟨finished, steps⟩
  have owns := owns_of_steps steps
  have older : ∀ name file, before.names name = some file →
      after.names name = some file ∧ after.content file = before.content file := by
    intro name file named
    have old := before.names_lt name file named
    exact ⟨(owns.names file name old (fresh file)).mpr named, owns.foreign file old (fresh file)⟩
  refine ⟨⟨owns.sound sound, fun name file _ => older name file, owns.owner⟩,
    journalBytes_owned fresh owns, ?_⟩
  rintro name rfl
  rcases finished.ended.2 name rfl with ⟨isRecord, file, owned, named, content⟩
  have sounds : name ≠ journalName := by
    rintro rfl
    have unowned := (owns.sound sound file named).2
    rw [owned] at unowned
    cases unowned
  have verified : verifyRunRecord record = .ok true := by
    rcases replays_lift_bind_ok_iff.mp creates with ⟨verified, isVerified, continues⟩
    rcases replays_lift_bind_ok_iff.mp continues with ⟨_, accepted, _⟩
    rw [isVerified]
    exact congrArg Except.ok (Bool.eq_true_of_not_eq_false (refuse_eq_ok_iff.mp accepted))
  refine ⟨isRecord, sounds, ?_, ⟨file, owned, named, content⟩, finished.returned name rfl, verified⟩
  rcases found : before.names name with _ | other
  · rfl
  · have namedLater := (older name other found).1
    rw [named] at namedLater
    cases namedLater
    rw [owns.keepsOwner file (before.names_lt name file found)] at owned
    exact absurd owned (fresh file)

/-- The whole effect of a call: it fails before it comes to the journal, or it has written its
record and the journal has taken some bytes of its line. -/
theorem writeRunRecord_effect (sound : Sound before) (fresh : ∀ file, before.owner file ≠ some i)
    (replays : (writeRunRecord record).Replays () said ended ())
    (through : Through (answers process i) before said after) :
    Bypasses i before after ∧
      (((∃ error, ended = .error error) ∧ journalBytes after = journalBytes before ∧
          ∀ line count, ¬JournalWrite said line count) ∨
        ∃ name line count, Entered i record name before after ∧
          journalLine record name = .ok line ∧
          journalBytes after = journalBytes before ++ line.take count ∧ count ≤ line.length ∧
          (0 < count → JournalWrite said line count) ∧
          (∀ other number, JournalWrite said other number → other = line ∧ number = count) ∧
          ∀ result, ended = .ok result → result = name ∧ count = line.length ∧
            JournalWrite said line count) := by
  have elsewhere : ∀ {said result}, (createRecord record).Replays () said result () →
      ∀ entry ∈ said, Elsewhere entry.1 :=
    fun replays => (asks_createRecord record).of_mem replays
  rcases replays_bind_iff.mp replays with
    ⟨name, _, first, second, rfl, creates, continues⟩ | ⟨error, rfl, creates⟩
  · rcases through_append_iff.mp through with ⟨middle, throughFirst, throughSecond⟩
    rcases createRecord_effect sound fresh creates throughFirst with ⟨bypasses, same, entered⟩
    have here := entered name rfl
    rcases isLine : journalLine record name with error | line
    · rw [isLine] at continues
      rcases continues with ⟨rfl, rfl, _⟩
      cases throughSecond
      rw [List.append_nil]
      exact ⟨bypasses, Or.inl ⟨⟨error, rfl⟩, same, notJournalWrite (elsewhere creates)⟩⟩
    · rw [isLine] at continues
      change Replays (appendJournal journalName line >>= fun _ => pure name) _ _ _ _ at continues
      have appended : ∃ result, (appendJournal journalName line).Replays () second result () ∧
          ended = result.map fun _ => name := by
        rcases replays_bind_iff.mp continues with
          ⟨_, _, front, back, rfl, appends, rfl, rfl, _⟩ | ⟨error, rfl, appends⟩
        · rw [List.append_nil]
          exact ⟨_, appends, rfl⟩
        · exact ⟨_, appends, rfl⟩
      rcases appended with ⟨result, appends, rfl⟩
      rcases appendJournal_effect appends throughSecond with ⟨count, effect⟩
      refine ⟨bypasses.appends effect.appends, Or.inr ⟨name, line, count, ?_, isLine, ?_,
        effect.bound, ?_, ?_, ?_⟩⟩
      · rcases here.held with ⟨file, owned, named, content⟩
        have namedLater : after.names name = some file :=
          (effect.appends.names name here.ordinary).trans named
        have contentLater := effect.appends.content name file here.ordinary named
        exact ⟨here.isRecord, here.ordinary, here.free, ⟨file, (effect.appends.owner file i).mpr owned, namedLater,
          contentLater.trans content⟩, here.isLine, here.verified⟩
      · rw [effect.appends.journal, same]
      · exact fun positive => (effect.written positive).append first
      · exact fun other number written =>
          effect.only other number (written.of_append (elsewhere creates))
      · intro returned isOk
        rcases result with error | _
        · cases isOk
        · rcases effect.whole rfl with ⟨all, written⟩
          cases isOk
          exact ⟨rfl, all, written.append first⟩
  · rcases createRecord_effect sound fresh creates through with ⟨bypasses, same, _⟩
    exact ⟨bypasses, Or.inl ⟨⟨error, rfl⟩, same, notJournalWrite (elsewhere creates)⟩⟩

end Effects

/-! ### Calls without failures -/

variable {payload : Bytes} {stem name : Str}

/-- The directory when a record has been written under a new name. -/
def recorded (i : ι) (disk : Disk ι) (name : Str) (payload : Bytes) : Disk ι :=
  (disk.create name (some i)).extend disk.next payload

theorem exists_writeExclusive (process : ι → ℕ) (i : ι) (some_ : payload ≠ [])
    (plain : Disk.isLocal name) (free : disk.names name = none) :
    ∃ said, (writeExclusive name payload).Replays () said (.ok ()) () ∧
      Through (answers process i) disk said (recorded i disk name payload) := by
  refine ⟨[⟨FileAsk.createExclusive name, .ok disk.next⟩,
    ⟨FileAsk.write disk.next payload, .ok payload.length⟩, ⟨FileAsk.fsync disk.next, .ok ()⟩,
    ⟨FileAsk.close disk.next, ()⟩], ?_, ?_⟩
  · refine ⟨_, _, rfl, ?_⟩
    change Replays ((writeDurably disk.next payload).attempt >>= fun outcome =>
      finishExclusive name disk.next outcome) _ _ _ _
    apply replays_attempt_bind_iff.mpr
    refine ⟨.ok (), (), [⟨FileAsk.write disk.next payload, .ok payload.length⟩,
      ⟨FileAsk.fsync disk.next, .ok ()⟩], [⟨FileAsk.close disk.next, ()⟩], rfl, ?_, ?_⟩
    · apply replays_bind_ok_iff.mpr
      refine ⟨(), (), [⟨FileAsk.write disk.next payload, .ok payload.length⟩],
        [⟨FileAsk.fsync disk.next, .ok ()⟩], rfl, ?_, _, _, rfl, rfl, rfl, rfl⟩
      rcases List.exists_cons_of_ne_nil some_ with ⟨head, rest, rfl⟩
      refine ⟨_, _, rfl, ?_⟩
      change Replays (lift (refuse ((head :: rest).length = 0)
        (RunError.file (.os "failed to write run record".toList))) >>= fun _ =>
          writeAll rest.length disk.next (List.drop (head :: rest).length (head :: rest))) _ _ _ _
      rw [refuse_of_fails (by simp), List.drop_length]
      rcases rest with _ | ⟨second, rest⟩
      · exact ⟨rfl, rfl, rfl⟩
      · exact ⟨rfl, rfl, rfl⟩
    · exact ⟨_, _, rfl, rfl, rfl, rfl⟩
  · refine ⟨_, .created plain free, _, .wrote (le_refl _), _, .synced, _, .closed, ?_⟩
    rw [List.take_length]
    rfl

theorem exists_tryPaths (process : ι → ℕ) (i : ι) (some_ : payload ≠ []) {left sequence offset : ℕ}
    (within : offset < left)
    (taken : ∀ n, n < offset → disk.names (recordName stem (sequence + n)) ≠ none)
    (plain : Disk.isLocal (recordName stem (sequence + offset)))
    (free : disk.names (recordName stem (sequence + offset)) = none) :
    ∃ said, (tryPaths stem payload left sequence).Replays () said
        (.ok (recordName stem (sequence + offset))) () ∧
      Through (answers process i) disk said
        (recorded i disk (recordName stem (sequence + offset)) payload) := by
  induction left generalizing sequence offset with
  | zero => exact absurd within (Nat.not_lt_zero _)
  | succ left ih =>
      rcases offset with _ | offset
      · rcases exists_writeExclusive process i some_ plain free with ⟨said, replays, through⟩
        refine ⟨said, ?_, through⟩
        apply replays_handle_iff.mpr
        refine Or.inl ⟨_, rfl, ?_⟩
        apply replays_bind_ok_iff.mpr
        exact ⟨(), (), said, [], (List.append_nil _).symm, replays, rfl, rfl, rfl⟩
      · have shift : sequence + (offset + 1) = sequence + 1 + offset := by omega
        rw [shift] at plain free ⊢
        have takenLater : ∀ n, n < offset →
            disk.names (recordName stem (sequence + 1 + n)) ≠ none := by
          intro n small
          have later := taken (n + 1) (Nat.succ_lt_succ small)
          rwa [show sequence + (n + 1) = sequence + 1 + n by omega] at later
        rcases ih (Nat.lt_of_succ_lt_succ within) takenLater plain free with
          ⟨said, replays, through⟩
        rcases Option.ne_none_iff_exists'.mp (taken 0 (Nat.succ_pos _)) with ⟨file, found⟩
        refine ⟨⟨FileAsk.createExclusive (recordName stem sequence), .error .exists_⟩ :: said,
          ?_, disk, .taken found, through⟩
        apply replays_handle_iff.mpr
        refine Or.inr ⟨.file .exists_, (), [⟨FileAsk.createExclusive (recordName stem sequence),
          .error .exists_⟩], said, rfl, ?_, replays⟩
        exact ⟨_, _, rfl, rfl, rfl, rfl⟩

/-- What an `fsync` answers, which fails when there is a message. -/
def syncAnswer (failure : Option Str) : Except FileError Unit :=
  match failure with
  | none => .ok ()
  | some message => .error (.os message)

/-- What `append_journal` answers when its write took `count` bytes. -/
def appendResult (line : Bytes) (count : ℕ) (failure : Option Str) : Except RunError Unit :=
  if count = line.length then Except.mapError .file (syncAnswer failure)
  else .error (.file (.os "partial run journal write".toList))

theorem appendResult_whole (line : Bytes) : appendResult line line.length none = .ok () :=
  if_pos rfl

theorem answers_fsync (process : ι → ℕ) (i : ι) (disk : Disk ι) (file : ℕ) (failure : Option Str) :
    answers process i disk (FileAsk.fsync file) (syncAnswer failure) disk := by
  cases failure with
  | none => exact .synced
  | some message => exact .syncFails message

theorem exists_writeLine (process : ι → ℕ) (i : ι) (count : ℕ) (failure : Option Str) :
    ∃ rest, (writeLine file line).Replays () (⟨FileAsk.write file line, .ok count⟩ :: rest)
        (appendResult line count failure) () ∧
      Through (answers process i) (disk.extend file (line.take count)) rest
        (disk.extend file (line.take count)) := by
  by_cases whole : count = line.length
  · refine ⟨[⟨FileAsk.fsync file, syncAnswer failure⟩], ?_, _,
      answers_fsync process i _ file failure, rfl⟩
    refine ⟨_, _, rfl, ?_⟩
    change Replays (lift (refuse (count ≠ line.length)
      (RunError.file (.os "partial run journal write".toList))) >>= fun _ => _) _ _ _ _
    rw [refuse_of_fails (not_not.mpr whole), appendResult, if_pos whole]
    exact ⟨_, _, rfl, replays_lift_iff.mpr ⟨rfl, rfl, rfl⟩⟩
  · refine ⟨[], ?_, rfl⟩
    refine ⟨_, _, rfl, ?_⟩
    change Replays (lift (refuse (count ≠ line.length)
      (RunError.file (.os "partial run journal write".toList))) >>= fun _ => _) _ _ _ _
    rw [refuse_of_holds whole, appendResult, if_neg whole]
    exact ⟨rfl, rfl, rfl⟩

/-- The directory when the journal has been opened. -/
def opened (disk : Disk ι) : Disk ι :=
  match disk.names journalName with
  | some _ => disk
  | none => disk.create journalName none

/-- The file behind the journal when it has been opened. -/
def journalFile (disk : Disk ι) : ℕ := (disk.names journalName).getD disk.next

theorem answers_openAppend (process : ι → ℕ) (i : ι) (disk : Disk ι) :
    answers process i disk (FileAsk.openAppend journalName) (.ok (journalFile disk))
      (opened disk) := by
  rcases found : disk.names journalName with _ | file
  · rw [journalFile, opened, found]
    exact .openedNew (by decide) found
  · rw [journalFile, opened, found]
    exact .opened found

theorem opened_names {other : Str} (ordinary : other ≠ journalName) :
    (opened disk).names other = disk.names other := by
  rw [opened]
  split
  · rfl
  · exact Function.update_of_ne ordinary _ _

theorem exists_appendJournal (process : ι → ℕ) (i : ι) {count : ℕ} (front : count ≤ line.length)
    (failure : Option Str) (unlocked : disk.lock (process i) = none) :
    ∃ said later,
      (appendJournal journalName line).Replays () said (appendResult line count failure) () ∧
      Through (answers process i) disk said later ∧ later.lock (process i) = none ∧
      (∀ other, other ≠ journalName → later.names other = disk.names other) ∧
      JournalWrite said line count := by
  let locked := disk.setLock (process i) (some i)
  let file := journalFile locked
  let written := (opened locked).extend file (line.take count)
  have exists_ : ∃ rest, (writeLine file line).Replays ()
      (⟨FileAsk.write file line, .ok count⟩ :: rest) (appendResult line count failure) () ∧
      Through (answers process i) written rest written := exists_writeLine process i count failure
  rcases exists_ with ⟨rest, writes, through⟩
  refine ⟨[⟨FileAsk.acquire, ()⟩] ++ (⟨FileAsk.openAppend journalName, .ok file⟩ ::
    ((⟨FileAsk.write file line, .ok count⟩ :: rest) ++ [⟨FileAsk.close file, ()⟩])) ++
      [⟨FileAsk.release, ()⟩], written.setLock (process i) none, ?_, ?_, Function.update_self _ _ _,
      fun other ordinary => opened_names ordinary,
      file, [⟨FileAsk.acquire, ()⟩], rest ++ [⟨FileAsk.close file, ()⟩] ++ [⟨FileAsk.release, ()⟩],
      by simp⟩
  · refine ⟨_, _, rfl, ?_⟩
    apply replays_attempt_bind_iff.mpr
    refine ⟨appendResult line count failure, (), _, [⟨FileAsk.release, ()⟩], rfl, ?_, _, _, rfl, ?_⟩
    · refine ⟨_, _, rfl, ?_⟩
      apply replays_attempt_bind_iff.mpr
      refine ⟨appendResult line count failure, (), _, [⟨FileAsk.close file, ()⟩], rfl, writes, _, _,
        rfl, ?_⟩
      exact replays_lift_iff.mpr ⟨rfl, rfl, rfl⟩
    · exact replays_lift_iff.mpr ⟨rfl, rfl, rfl⟩
  · apply through_append_iff.mpr
    refine ⟨written, ?_, _, .released, rfl⟩
    refine ⟨locked, .acquired unlocked, opened locked, answers_openAppend process i locked, ?_⟩
    apply through_append_iff.mpr
    exact ⟨written, ⟨_, .wrote front, through⟩, _, .closed, rfl⟩

section Calls

variable {φ : Type} [FloatText φ] [Interpreter] {record : Members φ}

theorem lineOf_eq_ok_iff {style : Style} {document : Document φ} {line : Bytes} :
    lineOf style document = .ok line ↔ document.depth ≤ dumpLevels style ∧
      ∃ text, dumps style document = some text ∧ utf8 (text ++ ['\n']) = line := by
  simp only [lineOf, Checks.bind_eq_ok_iff, refuse_eq_ok_iff, orRaise_eq_ok_iff, pure, Except.pure,
    Except.ok.injEq, not_lt, exists_const]

omit [FloatText φ] [Interpreter] in
@[simp]
theorem namePart_ofStr (text : Str) : namePart (.ofStr text) = .ok text := by
  rw [namePart, Text.points_ofStr, charsOf_map]
  rfl

theorem lineOf_ne_nil {style : Style} {document : Document φ} {line : Bytes}
    (isLine : lineOf style document = .ok line) : line ≠ [] := by
  rcases lineOf_eq_ok_iff.mp isLine with ⟨_, text, _, rfl⟩
  rw [utf8_append]
  have ending : utf8 ['\n'] ≠ [] := by decide
  exact List.append_ne_nil_of_right_ne_nil _ ending

/-- A short document that is not too deep has a line. -/
theorem exists_lineOf {style : Style} (ascii : style.ensureAscii = true) {document : Document φ}
    (short : document.Short) (shallow : document.depth ≤ dumpLevels style) :
    ∃ line, lineOf style document = .ok line := by
  rcases short.write style 0 ascii with ⟨text, written⟩
  exact ⟨_, lineOf_eq_ok_iff.mpr ⟨shallow, text, written, rfl⟩⟩

theorem contentHash_eq_ok_iff {hash : Str} :
    contentHash record = .ok hash ↔
      (hashPayload record).depth ≤ Interpreter.hashLevels ∧
        ∃ canonical, dumps .compact (hashPayload record).sortKeys = some canonical ∧
          "sha256:".toList ++ Interpreter.sha256 (utf8 canonical) = hash := by
  simp only [contentHash, Checks.bind_eq_ok_iff, refuse_eq_ok_iff, orRaise_eq_ok_iff, pure,
    Except.pure, Except.ok.injEq, not_lt, exists_const]

/-- The checksum of a record holds when it is the one the record has. -/
theorem verifyRunRecord_eq_true_iff :
    verifyRunRecord record = .ok true ↔ ∃ hash,
      record.lookup "runId".toText = some (.str (.ofStr hash)) ∧ contentHash record = .ok hash := by
  rw [verifyRunRecord]
  constructor
  · intro verified
    split at verified
    · rename_i claimed found
      rcases Checks.bind_eq_ok_iff.mp verified with ⟨hash, isHash, same⟩
      cases of_decide_eq_true (Except.ok.inj same)
      exact ⟨hash, found, isHash⟩
    · cases verified
  · rintro ⟨hash, found, isHash⟩
    rw [found]
    dsimp only
    rw [isHash, Checks.ok_bind, decide_eq_true rfl]
    rfl

/-- A short record that is not too deep has a checksum. -/
theorem exists_contentHash (short : (hashPayload record).Short)
    (shallow : (hashPayload record).depth ≤ Interpreter.hashLevels) :
    ∃ canonical, contentHash record =
      .ok ("sha256:".toList ++ Interpreter.sha256 (utf8 canonical)) := by
  rcases short.sortKeys.write .compact 0 rfl with ⟨canonical, written⟩
  exact ⟨canonical, contentHash_eq_ok_iff.mpr ⟨shallow, canonical, written, rfl⟩⟩

/-- A call that finds a free name among its ten thousand creates its record there. -/
theorem exists_createRecord (process : ι → ℕ) (i : ι) {offset : ℕ}
    (verified : verifyRunRecord record = .ok true)
    (isStem : stemAndPayload record = .ok (stem, payload)) (within : offset < 10000)
    (taken : ∀ n, n < offset → disk.names (recordName stem n) ≠ none)
    (plain : Disk.isLocal (recordName stem offset))
    (free : disk.names (recordName stem offset) = none) :
    ∃ said, (createRecord record).Replays () said (.ok (recordName stem offset)) () ∧
      Through (answers process i) disk said
        (recorded i disk (recordName stem offset) payload) := by
  have some_ : payload ≠ [] := lineOf_ne_nil (stem_run isStem).1
  have shift : 0 + offset = offset := Nat.zero_add offset
  rcases exists_tryPaths process i some_ within (by simpa using taken) (shift ▸ plain)
    (shift ▸ free) with ⟨said, creates, through⟩
  rw [shift] at creates through
  refine ⟨⟨FileAsk.mkdir, .ok ()⟩ :: said, ?_, disk, .mkdir, through⟩
  apply replays_lift_bind_ok_iff.mpr
  refine ⟨true, verified, ?_⟩
  apply replays_lift_bind_ok_iff.mpr
  refine ⟨(), refuse_of_fails (by simp), _, _, rfl, ?_⟩
  apply replays_lift_bind_ok_iff.mpr
  refine ⟨(), rfl, ?_⟩
  apply replays_lift_bind_ok_iff.mpr
  exact ⟨(stem, payload), isStem, creates⟩

/-- The two halves of a call. -/
theorem replays_writeRunRecord {name : Str} {line : Bytes} {first second : History fileSystem}
    {appended : Except RunError Unit} (creates : (createRecord record).Replays () first (.ok name) ())
    (isLine : journalLine record name = .ok line)
    (appends : (appendJournal journalName line).Replays () second appended ()) :
    (writeRunRecord record).Replays () (first ++ second) (appended.map fun _ => name) () := by
  apply replays_bind_iff.mpr
  refine Or.inl ⟨_, (), _, second, rfl, creates, ?_⟩
  rw [isLine]
  change Replays (appendJournal journalName line >>= fun _ => pure _) _ _ _ _
  apply replays_bind_iff.mpr
  rcases appended with error | _
  · exact Or.inr ⟨error, rfl, appends⟩
  · exact Or.inl ⟨(), (), second, [], (List.append_nil _).symm, appends, rfl, rfl, rfl⟩

/-- A call that finds a free name among its ten thousand writes the record there, and how it ends
depends on how much of its line the journal takes and on the `fsync` behind it. -/
theorem exists_call (process : ι → ℕ) (i : ι) {offset count : ℕ} {line : Bytes}
    (verified : verifyRunRecord record = .ok true)
    (isStem : stemAndPayload record = .ok (stem, payload)) (within : offset < 10000)
    (taken : ∀ n, n < offset → disk.names (recordName stem n) ≠ none)
    (plain : Disk.isLocal (recordName stem offset))
    (free : disk.names (recordName stem offset) = none)
    (isLine : journalLine record (recordName stem offset) = .ok line) (front : count ≤ line.length)
    (failure : Option Str) (unlocked : disk.lock (process i) = none) :
    ∃ said later, (writeRunRecord record).Replays () said
        ((appendResult line count failure).map fun _ => recordName stem offset) () ∧
      Through (answers process i) disk said later ∧ later.lock (process i) = none ∧
      (∀ other, other ≠ recordName stem offset → other ≠ journalName →
        later.names other = disk.names other) ∧
      later.names (recordName stem offset) ≠ none ∧ JournalWrite said line count := by
  rcases exists_createRecord process i verified isStem within taken plain free with
    ⟨first, creates, throughFirst⟩
  have unlockedLater : (recorded i disk (recordName stem offset) payload).lock (process i) = none :=
    unlocked
  rcases exists_appendJournal process i front failure unlockedLater with
    ⟨second, later, appends, throughSecond, unlockedAfter, names, written⟩
  refine ⟨first ++ second, later, replays_writeRunRecord creates isLine appends,
    through_append_iff.mpr ⟨_, throughFirst, throughSecond⟩, unlockedAfter, ?_, ?_,
    written.append _⟩
  · intro other different ordinary
    rw [names other ordinary]
    exact Function.update_of_ne different _ _
  · have ordinary : recordName stem offset ≠ journalName := by
      rcases (stem_run isStem).2.2 with ⟨rest, rfl⟩
      exact recordName_ne rest offset
    have there : (recorded i disk (recordName stem offset) payload).names (recordName stem offset) =
        some disk.next := Function.update_self _ _ _
    rw [names _ ordinary, there]
    exact Option.some_ne_none _

end Calls

/-! ### An example -/

/-- A record whose checksum is all zeros, for interpreters with such a digest. -/
def zeroRecord (startedAt : Str) : Members Unit :=
  [("command".toText, .str "run".toText), ("consistent".toText, .bool true),
    ("error".toText, .null), ("exitCode".toText, .int 0),
    ("runId".toText, .str (.ofStr ("sha256:".toList ++ List.replicate 64 '0'))),
    ("startedAt".toText, .str (.ofStr startedAt))]

theorem short_zero {φ : Type} : Short (.int 0 : Document φ) := by
  have short : (0 : ℤ).natAbs < 10 ^ maxStrDigits := Nat.pow_pos (Nat.succ_pos 9)
  exact .int short

theorem zeroRecord_short (startedAt : Str) : ∀ member ∈ zeroRecord startedAt, member.2.Short := by
  intro member mem
  simp only [zeroRecord, List.mem_cons, List.not_mem_nil, or_false] at mem
  rcases mem with rfl | rfl | rfl | rfl | rfl | rfl
  · exact .str _
  · exact .bool _
  · exact .null
  · exact short_zero
  · exact .str _
  · exact .str _

theorem zeroRecord_verified (startedAt : Str) : letI := asciiInterpreter []
    letI := zeroText
    verifyRunRecord (zeroRecord startedAt) = .ok true := by
  let := asciiInterpreter []
  let := zeroText
  have short : (hashPayload (zeroRecord startedAt)).Short :=
    .object fun member mem => zeroRecord_short startedAt member (List.mem_of_mem_filter mem)
  have shallow : (hashPayload (zeroRecord startedAt)).depth ≤ Interpreter.hashLevels :=
    show 1 ≤ 900 by decide
  rcases exists_contentHash short shallow with ⟨text, hash⟩
  have zeros : Interpreter.sha256 (utf8 text) = List.replicate 64 '0' := by
    change hexPad 64 0 = _
    decide
  have isRunId : (zeroRecord startedAt).lookup "runId".toText =
      some (.str (.ofStr ("sha256:".toList ++ List.replicate 64 '0'))) := rfl
  rw [zeros] at hash
  exact verifyRunRecord_eq_true_iff.mpr ⟨_, isRunId, hash⟩

theorem zeroRecord_stem (startedAt : Str) : letI := asciiInterpreter []
    letI := zeroText
    ∃ payload, stemAndPayload (zeroRecord startedAt) =
      .ok ("run-".toList ++ compactTime startedAt ++ '-' :: List.replicate 12 '0', payload) := by
  let := asciiInterpreter []
  let := zeroText
  have isLine : ∃ line, lineOf .indented (.object (zeroRecord startedAt)) = .ok line :=
    exists_lineOf rfl (.object (zeroRecord_short startedAt)) (show 1 ≤ 900 by decide)
  rcases isLine with ⟨line, isLine⟩
  have isStart : textField (zeroRecord startedAt) "startedAt" = .ok (.ofStr startedAt) := rfl
  have isRunId : textField (zeroRecord startedAt) "runId" =
      .ok (.ofStr ("sha256:".toList ++ List.replicate 64 '0')) := rfl
  have short : shortId ("sha256:".toList ++ List.replicate 64 '0') = List.replicate 12 '0' := by
    decide
  refine ⟨line, ?_⟩
  rw [stemAndPayload, isStart, isRunId, isLine, ← short]
  simp only [Checks.ok_bind, namePart_ofStr]
  rfl

theorem zeroRecord_line (startedAt name : Str) : letI := asciiInterpreter []
    letI := zeroText
    ∃ line, journalLine (zeroRecord startedAt) name = .ok line := by
  let := asciiInterpreter []
  let := zeroText
  have entry : ∃ entry, journalEntry (zeroRecord startedAt) name = .ok entry ∧
      (Document.object entry).Short ∧ (Document.object entry).depth ≤ Interpreter.hashLevels := by
    refine ⟨_, rfl, .object ?_, show 1 ≤ 900 by decide⟩
    intro member mem
    simp only [List.mem_cons, List.not_mem_nil, or_false] at mem
    rcases mem with rfl | rfl | rfl | rfl | rfl | rfl | rfl
    · exact .str _
    · exact .str _
    · exact .str _
    · exact .bool _
    · exact short_zero
    · exact .null
    · exact .str _
  rcases entry with ⟨entry, isEntry, short, shallow⟩
  rw [journalLine, isEntry]
  exact exists_lineOf rfl short shallow

end Runs

end Psv
