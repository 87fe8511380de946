import Psv.Runs.Record

/-!
# Concurrent writers of run records

Any number of calls of `write_run_record` work in one directory, their file
operations interleaved in any order, with short writes and failures anywhere.
What one call relies on is that the others leave the files it created alone
(`Leaves`); what it guarantees is that it changes only files it created itself
and the journal, which it only extends (`Touches`).  So a call can be followed
on its own: a file it created is removed again unless it holds the whole payload.
-/

namespace Psv

open Python Interaction Program Document

namespace Runs

variable {ι : Type} {process : ι → ℕ} {i : ι}

/-- The file is the journal, which nobody creates exclusively. -/
def IsJournal (disk : Disk ι) (file : ℕ) : Prop :=
  disk.names journalName = some file ∧ disk.owner file = none

/-- Whatever is called like the journal was not created exclusively. -/
def Sound (disk : Disk ι) : Prop := ∀ file, disk.names journalName = some file → IsJournal disk file

/-- What call `i` relies on. -/
structure Leaves (i : ι) (before after : Disk ι) : Prop where
  next : before.next ≤ after.next
  owner : ∀ file, after.owner file = some i ↔ before.owner file = some i
  content : ∀ file, before.owner file = some i → after.content file = before.content file
  names : ∀ file name, before.owner file = some i →
    (after.names name = some file ↔ before.names name = some file)
  journal : ∀ file, IsJournal before file → IsJournal after file
  sound : Sound before → Sound after

/-- What call `i` does at most. -/
structure Touches (i : ι) (before after : Disk ι) : Prop where
  next : before.next ≤ after.next
  keepsOwner : ∀ file, file < before.next → after.owner file = before.owner file
  owner : ∀ file j, j ≠ i → (after.owner file = some j ↔ before.owner file = some j)
  content : ∀ file, file < before.next → before.owner file ≠ some i → ¬IsJournal before file →
    after.content file = before.content file
  grows : ∀ file, file < before.next → before.owner file ≠ some i →
    before.content file <+: after.content file
  names : ∀ file name, file < before.next → before.owner file ≠ some i →
    (after.names name = some file ↔ before.names name = some file)
  journal : ∀ file, IsJournal before file → IsJournal after file
  sound : Sound before → Sound after

/-- What call `i` does at most before it comes to the journal. -/
structure Owns (i : ι) (before after : Disk ι) : Prop extends Touches i before after where
  journalName : after.names journalName = before.names journalName
  foreign : ∀ file, file < before.next → before.owner file ≠ some i →
    after.content file = before.content file

instance : IsPreorder (Disk ι) (Leaves i) where
  refl disk := ⟨le_refl _, fun _ => Iff.rfl, fun _ _ => rfl, fun _ _ _ => Iff.rfl, fun _ => id, id⟩
  trans first second third step more := by
    constructor
    · exact le_trans step.next more.next
    · intro file
      rw [more.owner, step.owner]
    · intro file owned
      rw [more.content file ((step.owner file).mpr owned), step.content file owned]
    · intro file name owned
      rw [more.names file name ((step.owner file).mpr owned), step.names file name owned]
    · intro file isJournal
      exact more.journal file (step.journal file isJournal)
    · intro sound
      exact more.sound (step.sound sound)

theorem Touches.leaves {j : ι} {before after : Disk ι} (touches : Touches j before after)
    (different : i ≠ j) : Leaves i before after := by
  have foreign : ∀ file, before.owner file = some i → before.owner file ≠ some j := by
    intro file owned same
    rw [owned] at same
    exact different (Option.some.inj same)
  constructor
  · exact touches.next
  · intro file
    exact touches.owner file i different
  · intro file owned
    apply touches.content file (before.owner_lt file i owned) (foreign file owned)
    rintro ⟨_, unowned⟩
    rw [owned] at unowned
    cases unowned
  · intro file name owned
    exact touches.names file name (before.owner_lt file i owned) (foreign file owned)
  · exact touches.journal
  · exact touches.sound

theorem Touches.rfl {disk : Disk ι} : Touches i disk disk :=
  ⟨le_refl _, fun _ _ => Eq.refl _, fun _ _ _ => Iff.rfl, fun _ _ _ _ => Eq.refl _, fun _ _ _ => List.prefix_rfl,
    fun _ _ _ _ => Iff.rfl, fun _ => id, id⟩

theorem Owns.rfl {disk : Disk ι} : Owns i disk disk :=
  ⟨Touches.rfl, Eq.refl _, fun _ _ _ => Eq.refl _⟩

theorem Owns.trans {before middle after : Disk ι} (first : Owns i before middle)
    (second : Owns i middle after) : Owns i before after := by
  have stays : ∀ file, file < before.next → before.owner file ≠ some i →
      file < middle.next ∧ middle.owner file ≠ some i := by
    intro file old foreign
    refine ⟨lt_of_lt_of_le old first.next, ?_⟩
    rwa [first.keepsOwner file old]
  have same : ∀ file, file < before.next → before.owner file ≠ some i →
      after.content file = before.content file := by
    intro file old foreign
    rcases stays file old foreign with ⟨oldLater, foreignLater⟩
    rw [second.foreign file oldLater foreignLater, first.foreign file old foreign]
  refine ⟨⟨?_, ?_, ?_, ?_, ?_, ?_, ?_, ?_⟩, ?_, same⟩
  · exact le_trans first.next second.next
  · intro file old
    rw [second.keepsOwner file (lt_of_lt_of_le old first.next), first.keepsOwner file old]
  · intro file j different
    rw [second.owner file j different, first.owner file j different]
  · exact fun file old foreign _ => same file old foreign
  · intro file old foreign
    exact (same file old foreign) ▸ List.prefix_rfl
  · intro file name old foreign
    rcases stays file old foreign with ⟨oldLater, foreignLater⟩
    rw [second.names file name oldLater foreignLater, first.names file name old foreign]
  · exact fun file isJournal => second.journal file (first.journal file isJournal)
  · exact fun sound => second.sound (first.sound sound)
  · rw [second.journalName, first.journalName]

theorem owns_of_steps {before after : Disk ι} (steps : Relation.ReflTransGen (Owns i) before after) :
    Owns i before after := by
  induction steps with
  | refl => exact Owns.rfl
  | tail _ step ih => exact ih.trans step

/-! ### What each operation touches -/

theorem touches_create {disk : Disk ι} {name : Str} (free : disk.names name = none)
    (ordinary : name ≠ journalName) : Touches i disk (disk.create name (some i)) := by
  have names : ∀ file other, file < disk.next →
      ((disk.create name (some i)).names other = some file ↔ disk.names other = some file) := by
    intro file other old
    by_cases same : other = name
    · subst same
      rw [Disk.create_names, Function.update_self, free]
      constructor
      · intro equal
        cases equal
        exact absurd old (lt_irrefl _)
      · intro impossible
        cases impossible
    · rw [Disk.create_names, Function.update_of_ne same]
  have owner : ∀ file, file ≠ disk.next →
      (disk.create name (some i)).owner file = disk.owner file :=
    fun file old => Function.update_of_ne old _ _
  have journalNames : (disk.create name (some i)).names journalName = disk.names journalName :=
    Function.update_of_ne (Ne.symm ordinary) _ _
  have journal : ∀ file, disk.names journalName = some file →
      (disk.create name (some i)).owner file = disk.owner file :=
    fun file found => owner file (Nat.ne_of_lt (disk.names_lt _ _ found))
  constructor
  · exact Nat.le_succ _
  · exact fun file old => owner file (Nat.ne_of_lt old)
  · intro file j different
    by_cases new : file = disk.next
    · subst new
      rw [Disk.create_owner, Function.update_self]
      constructor
      · intro equal
        exact absurd (Option.some.inj equal).symm different
      · intro owned
        exact absurd (disk.owner_lt _ _ owned) (lt_irrefl _)
    · rw [owner file new]
  · intro file old _ _
    exact Function.update_of_ne (Nat.ne_of_lt old) _ _
  · intro file old _
    have kept := Function.update_of_ne (Nat.ne_of_lt old) ([] : Bytes) disk.content
    exact kept.symm ▸ List.prefix_rfl
  · intro file other old _
    exact names file other old
  · rintro file ⟨found, unowned⟩
    exact ⟨by rw [journalNames, found], by rw [journal file found, unowned]⟩
  · intro sound file found
    rw [journalNames] at found
    exact ⟨by rw [journalNames, found], by rw [journal file found, (sound file found).2]⟩

theorem owns_create {disk : Disk ι} {name : Str} (free : disk.names name = none)
    (ordinary : name ≠ journalName) : Owns i disk (disk.create name (some i)) := by
  refine ⟨touches_create free ordinary, Function.update_of_ne (Ne.symm ordinary) _ _, ?_⟩
  intro file old _
  exact Function.update_of_ne (Nat.ne_of_lt old) _ _

theorem touches_openNew {disk : Disk ι} (free : disk.names journalName = none) :
    Touches i disk (disk.create journalName none) := by
  have noJournal : ∀ file, ¬IsJournal disk file := by
    rintro file ⟨found, _⟩
    rw [free] at found
    cases found
  have isNew : ∀ file, (disk.create journalName none).names journalName = some file →
      file = disk.next := by
    intro file found
    rw [Disk.create_names, Function.update_self] at found
    exact (Option.some.inj found).symm
  constructor
  · exact Nat.le_succ _
  · intro file old
    exact Function.update_of_ne (Nat.ne_of_lt old) _ _
  · intro file j _
    by_cases new : file = disk.next
    · subst new
      rw [Disk.create_owner, Function.update_self]
      constructor
      · intro impossible
        cases impossible
      · intro owned
        exact absurd (disk.owner_lt _ _ owned) (lt_irrefl _)
    · rw [Disk.create_owner, Function.update_of_ne new]
  · intro file old _ _
    exact Function.update_of_ne (Nat.ne_of_lt old) _ _
  · intro file old _
    have kept := Function.update_of_ne (Nat.ne_of_lt old) ([] : Bytes) disk.content
    exact kept.symm ▸ List.prefix_rfl
  · intro file other old _
    by_cases same : other = journalName
    · rw [same, free]
      constructor
      · intro found
        exact absurd (isNew file found) (Nat.ne_of_lt old)
      · intro impossible
        cases impossible
    · rw [Disk.create_names, Function.update_of_ne same]
  · intro file isJournal
    exact absurd isJournal (noJournal file)
  · intro _ file found
    refine ⟨found, ?_⟩
    rw [isNew file found, Disk.create_owner, Function.update_self]

theorem touches_extend {disk : Disk ι} {file : ℕ} (data : Bytes)
    (mine : disk.owner file = some i ∨ IsJournal disk file) :
    Touches i disk (disk.extend file data) := by
  constructor
  · exact le_refl _
  · intro _ _
    exact Eq.refl _
  · intro _ _ _
    exact Iff.rfl
  · intro other _ foreign noJournal
    have different : other ≠ file := by
      rintro rfl
      rcases mine with owned | isJournal
      · exact foreign owned
      · exact noJournal isJournal
    exact Function.update_of_ne different _ _
  · intro other _ _
    by_cases same : other = file
    · subst same
      rw [Disk.extend_content, Function.update_self]
      exact List.prefix_append _ _
    · have kept := Function.update_of_ne same (disk.content file ++ data) disk.content
      exact kept.symm ▸ List.prefix_rfl
  · intro _ _ _ _
    exact Iff.rfl
  · exact fun _ => id
  · exact id

theorem owns_extend {disk : Disk ι} {file : ℕ} (data : Bytes) (mine : disk.owner file = some i) :
    Owns i disk (disk.extend file data) := by
  refine ⟨touches_extend data (Or.inl mine), rfl, ?_⟩
  intro other _ foreign
  have different : other ≠ file := by
    rintro rfl
    exact foreign mine
  exact Function.update_of_ne different _ _

theorem touches_remove {disk : Disk ι} {name : Str} {file : ℕ} (found : disk.names name = some file)
    (mine : disk.owner file = some i) (ordinary : name ≠ journalName) :
    Touches i disk (disk.remove name) := by
  have journalNames : (disk.remove name).names journalName = disk.names journalName :=
    Function.update_of_ne (Ne.symm ordinary) _ _
  constructor
  · exact le_refl _
  · intro _ _
    exact Eq.refl _
  · intro _ _ _
    exact Iff.rfl
  · intro _ _ _ _
    exact Eq.refl _
  · intro _ _ _
    exact List.prefix_rfl
  · intro other second _ foreign
    by_cases same : second = name
    · subst same
      rw [Disk.remove_names, Function.update_self, found]
      constructor
      · intro impossible
        cases impossible
      · intro equal
        cases equal
        exact absurd mine foreign
    · rw [Disk.remove_names, Function.update_of_ne same]
  · rintro other ⟨isNamed, unowned⟩
    exact ⟨by rw [journalNames, isNamed], unowned⟩
  · intro sound other isNamed
    rw [journalNames] at isNamed
    exact ⟨by rw [journalNames, isNamed], (sound other isNamed).2⟩

theorem owns_remove {disk : Disk ι} {name : Str} {file : ℕ} (found : disk.names name = some file)
    (mine : disk.owner file = some i) (ordinary : name ≠ journalName) :
    Owns i disk (disk.remove name) :=
  ⟨touches_remove found mine ordinary, Function.update_of_ne (Ne.symm ordinary) _ _,
    fun _ _ _ => rfl⟩

theorem touches_setLock {disk : Disk ι} (number : ℕ) (holder : Option ι) :
    Touches i disk (disk.setLock number holder) :=
  ⟨le_refl _, fun _ _ => Eq.refl _, fun _ _ _ => Iff.rfl, fun _ _ _ _ => Eq.refl _, fun _ _ _ => List.prefix_rfl,
    fun _ _ _ _ => Iff.rfl, fun _ => id, id⟩

/-! ### The files of a call -/

/-- An entry of a conversation with the directory. -/
abbrev Entry : Type := Σ question : fileSystem.Ask, fileSystem.Answer question

/-- A write or a flush of this file that failed, or a write that took nothing. -/
def Fails (file : ℕ) : Entry → Prop
  | ⟨.write other data, answer⟩ =>
      other = file ∧
        match (answer : Except FileError ℕ) with
        | .error _ => True
        | .ok count => count = 0 ∧ data ≠ []
  | ⟨.fsync other, answer⟩ => other = file ∧ ∃ error, (answer : Except FileError Unit) = .error error
  | _ => False

/-- The call has created this file under this name. -/
def Created (said : History fileSystem) (name : Str) (file : ℕ) : Prop :=
  (⟨.createExclusive name, .ok file⟩ : Entry) ∈ said

/-- Writing a file that the call created has failed. -/
def WritingFailed (said : History fileSystem) (file : ℕ) : Prop :=
  (∃ name, Created said name file) ∧ ∃ entry ∈ said, Fails file entry

/-- An entry that creates no file and is at most a failure to write the journal. -/
structure Quiet (disk : Disk ι) (entry : Entry) : Prop where
  failure : ∀ file, Fails file entry → IsJournal disk file
  noCreation : ∀ name file, entry ≠ ⟨.createExclusive name, .ok file⟩

/-- The files a call created, apart from the one it is still writing: they hold the payload or are
gone, and they are gone when writing them failed. -/
structure Settled (i : ι) (payload : Bytes) (writing : Option ℕ) (said : History fileSystem)
    (disk : Disk ι) : Prop where
  sound : Sound disk
  created : ∀ name file, Created said name file → disk.owner file = some i
  known : ∀ entry ∈ said, ∀ file, Fails file entry → file < disk.next
  whole : ∀ file name, disk.owner file = some i → writing ≠ some file →
    disk.names name = some file → disk.content file = payload
  failed : ∀ file name, WritingFailed said file → writing ≠ some file →
    disk.names name ≠ some file

/-- Before its first step a call has no files. -/
theorem settled_nil {disk : Disk ι} (sound : Sound disk)
    (fresh : ∀ file, disk.owner file ≠ some i) (payload : Bytes) :
    Settled i payload none [] disk := by
  constructor
  · exact sound
  · intro name file created
    cases created
  · intro entry mem
    cases mem
  · intro file name owned
    exact absurd owned (fresh file)
  · rintro file name ⟨⟨_, created⟩, _⟩
    cases created

/-- The call created a file under this name, which holds this. -/
def Holds (i : ι) (name : Str) (file : ℕ) (content : Bytes) (disk : Disk ι) : Prop :=
  disk.owner file = some i ∧ disk.names name = some file ∧ disk.content file = content

variable {payload : Bytes} {writing : Option ℕ} {said : History fileSystem}
  {before after disk : Disk ι} {name : Str} {file : ℕ}

theorem Holds.stable {content : Bytes} (holds : Holds i name file content before)
    (step : Leaves i before after) : Holds i name file content after := by
  rcases holds with ⟨owned, named, same⟩
  exact ⟨(step.owner file).mpr owned, (step.names file name owned).mpr named,
    (step.content file owned).trans same⟩

theorem Settled.stable (settled : Settled i payload writing said before)
    (step : Leaves i before after) : Settled i payload writing said after := by
  constructor
  · exact step.sound settled.sound
  · intro name file created
    exact (step.owner file).mpr (settled.created name file created)
  · intro entry mem file fails
    exact lt_of_lt_of_le (settled.known entry mem file fails) step.next
  · intro file name owned closed named
    have ownedBefore := (step.owner file).mp owned
    have namedBefore := (step.names file name ownedBefore).mp named
    rw [step.content file ownedBefore]
    exact settled.whole file name ownedBefore closed namedBefore
  · intro file name failed closed named
    rcases failed.1 with ⟨path, created⟩
    have owned := settled.created path file created
    exact settled.failed file name failed closed ((step.names file name owned).mp named)

theorem Quiet.created {entry : Entry} (quiet : Quiet disk entry)
    (created : Created (said ++ [entry]) name file) : Created said name file := by
  rcases List.mem_append.mp created with mem | same
  · exact mem
  · exact absurd (List.mem_singleton.mp same).symm (quiet.noCreation name file)

/-- A quiet entry that leaves the files of the call as they are. -/
theorem Settled.quiet (settled : Settled i payload writing said before) {entry : Entry}
    (step : Leaves i before after) (quiet : Quiet after entry) :
    Settled i payload writing (said ++ [entry]) after := by
  have later := settled.stable step
  constructor
  · exact later.sound
  · intro name file created
    exact later.created name file (quiet.created created)
  · intro other mem file fails
    rcases List.mem_append.mp mem with mem | same
    · exact later.known other mem file fails
    · rw [List.mem_singleton.mp same] at fails
      exact after.names_lt _ _ (quiet.failure file fails).1
  · exact later.whole
  · rintro file name ⟨⟨path, created⟩, other, mem, fails⟩
    have createdBefore := quiet.created created
    rcases List.mem_append.mp mem with mem | same
    · exact later.failed file name ⟨⟨path, createdBefore⟩, other, mem, fails⟩
    · rw [List.mem_singleton.mp same] at fails
      have unowned := (quiet.failure file fails).2
      rw [later.created path file createdBefore] at unowned
      cases unowned

/-- No write to the file has failed so far. -/
def Clean (said : History fileSystem) (file : ℕ) : Prop := ∀ entry ∈ said, ¬Fails file entry

/-- A file that was written without failure needs no exception any more. -/
theorem Settled.close (settled : Settled i payload (some file) said disk)
    (holds : Holds i name file payload disk) (clean : Clean said file) :
    Settled i payload none said disk := by
  constructor
  · exact settled.sound
  · exact settled.created
  · exact settled.known
  · intro other path owned _ named
    by_cases same : other = file
    · rw [same]
      exact holds.2.2
    · exact settled.whole other path owned (fun equal => same (Option.some.inj equal).symm) named
  · intro other path failed _
    by_cases same : other = file
    · subst same
      rcases failed.2 with ⟨entry, mem, fails⟩
      exact absurd fails (clean entry mem)
    · exact settled.failed other path failed fun equal => same (Option.some.inj equal).symm

/-! ### The writer -/

/-- The directory as the world of the calls. -/
def answers (process : ι → ℕ) : Answers fileSystem (Disk ι) ι :=
  fun i disk question answer after => Disk.Answers process i disk question answer after

/-- A job of call `i`, followed on its own. -/
abbrev Keeps (process : ι → ℕ) (i : ι) {α : Type}
    (post : Except RunError α → History fileSystem → Disk ι → Prop) (job : Job α)
    (said : History fileSystem) (disk : Disk ι) : Prop :=
  Guarded (answers process i) (Leaves i) (Touches i) post job said disk

/-- A job of call `i` that does not come to the journal. -/
abbrev KeepsOwn (process : ι → ℕ) (i : ι) {α : Type}
    (post : Except RunError α → History fileSystem → Disk ι → Prop) (job : Job α)
    (said : History fileSystem) (disk : Disk ι) : Prop :=
  Guarded (answers process i) (Leaves i) (Owns i) post job said disk

/-- The state of call `i` while it writes a file. -/
structure Writing (i : ι) (payload : Bytes) (name : Str) (file : ℕ) (written : Bytes)
    (said : History fileSystem) (disk : Disk ι) : Prop where
  settled : Settled i payload (some file) said disk
  holds : Holds i name file written disk

theorem Writing.stable {written : Bytes} (state : Writing i payload name file written said before)
    (step : Leaves i before after) : Writing i payload name file written said after :=
  ⟨state.settled.stable step, state.holds.stable step⟩

/-- A step that changes at most what the file being written holds. -/
theorem Settled.step (settled : Settled i payload (some file) said before) {entry : Entry}
    (own : ∀ other, Fails other entry → other = file)
    (noCreation : ∀ name other, entry ≠ ⟨.createExclusive name, .ok other⟩)
    (bound : file < before.next) (names : after.names = before.names)
    (owner : after.owner = before.owner) (next : after.next = before.next)
    (content : ∀ other, other ≠ file → after.content other = before.content other) :
    Settled i payload (some file) (said ++ [entry]) after := by
  constructor
  · intro other named
    rw [names] at named
    exact ⟨by rw [names, named], by rw [owner, (settled.sound other named).2]⟩
  · intro path other created
    rcases List.mem_append.mp created with mem | same
    · rw [owner]
      exact settled.created path other mem
    · exact absurd (List.mem_singleton.mp same).symm (noCreation path other)
  · intro other mem failing fails
    rw [next]
    rcases List.mem_append.mp mem with mem | same
    · exact settled.known other mem failing fails
    · rw [List.mem_singleton.mp same] at fails
      rw [own failing fails]
      exact bound
  · intro other path owned closed named
    rw [owner] at owned
    rw [names] at named
    rw [content other fun equal => closed (by rw [equal])]
    exact settled.whole other path owned closed named
  · rintro other path ⟨⟨created, isCreated⟩, failing, mem, fails⟩ closed
    rw [names]
    have createdBefore : Created said created other := by
      rcases List.mem_append.mp isCreated with mem | same
      · exact mem
      · exact absurd (List.mem_singleton.mp same).symm (noCreation created other)
    rcases List.mem_append.mp mem with mem | same
    · exact settled.failed other path ⟨⟨created, createdBefore⟩, failing, mem, fails⟩ closed
    · rw [List.mem_singleton.mp same] at fails
      exact absurd (by rw [own other fails]) closed

theorem clean_append {entry : Entry} (clean : Clean said file) (harmless : ¬Fails file entry) :
    Clean (said ++ [entry]) file := by
  intro other mem
  rcases List.mem_append.mp mem with mem | same
  · exact clean other mem
  · rw [List.mem_singleton.mp same]
    exact harmless

/-- How writing a file ends: with the whole payload and no failure, or with a part of it. -/
def Written (i : ι) (payload : Bytes) (name : Str) (file : ℕ) (result : Except RunError Unit)
    (said : History fileSystem) (disk : Disk ι) : Prop :=
  match result with
  | .ok _ => Writing i payload name file payload said disk ∧ Clean said file
  | .error error => (∃ part, Writing i payload name file part said disk) ∧
      error ≠ .file .exists_

theorem Written.stable {result : Except RunError Unit}
    (written : Written i payload name file result said before) (step : Leaves i before after) :
    Written i payload name file result said after := by
  rcases result with error | _
  · rcases written with ⟨⟨part, state⟩, other⟩
    exact ⟨⟨part, state.stable step⟩, other⟩
  · exact ⟨written.1.stable step, written.2⟩

theorem keeps_writeAll {fuel : ℕ} {written view : Bytes}
    (state : Writing i payload name file written said disk) (clean : Clean said file)
    (rest : written ++ view = payload) (enough : view.length ≤ fuel) :
    KeepsOwn process i (Written i payload name file) (writeAll fuel file view) said disk := by
  induction fuel generalizing written view said disk with
  | zero =>
      have done : view = [] := List.length_eq_zero_iff.mp (Nat.le_zero.mp enough)
      subst done
      rw [List.append_nil] at rest
      subst rest
      intro later step
      exact ⟨state.stable step, clean⟩
  | succ fuel ih =>
      rw [writeAll]
      split_ifs with done
      · subst done
        rw [List.append_nil] at rest
        subst rest
        intro later step
        exact ⟨state.stable step, clean⟩
      · intro before step given after answered
        have here := state.stable step
        have owned := here.holds.1
        have bound := before.owner_lt file i owned
        cases answered with
        | wrote front =>
            rename_i count
            refine ⟨owns_extend _ owned, ?_⟩
            have own : ∀ other, Fails other ⟨FileAsk.write file view, .ok count⟩ → other = file :=
              fun other fails => fails.1.symm
            have settled := here.settled.step own (fun _ _ same => by cases same) bound
              (Disk.extend_names before file (view.take count)) rfl rfl
              fun other different => Function.update_of_ne different _ _
            have holds : Holds i name file (written ++ view.take count)
                (before.extend file (view.take count)) := by
              refine ⟨owned, here.holds.2.1, ?_⟩
              rw [Disk.extend_content, Function.update_self, here.holds.2.2]
            by_cases zero : count = 0
            · subst zero
              exact fun later more => ⟨⟨_, Writing.stable ⟨settled, holds⟩ more⟩, by simp⟩
            · have passes : refuse (count = 0)
                  (RunError.file (.os "failed to write run record".toList)) = .ok () :=
                refuse_of_fails zero
              have harmless : ¬Fails file ⟨FileAsk.write file view, .ok count⟩ :=
                fun fails => zero fails.2.1
              have next := ih ⟨settled, holds⟩ (clean_append clean harmless)
                (by rw [List.append_assoc, List.take_append_drop, rest])
                (by rw [List.length_drop]; omega)
              change KeepsOwn process i _ (lift (refuse (count = 0) _) >>= fun _ => _) _ _
              rw [passes]
              exact next
        | writeFails message =>
            refine ⟨Owns.rfl, ?_⟩
            have own : ∀ other, Fails other ⟨FileAsk.write file view, .error (.os message)⟩ →
                other = file := fun other fails => fails.1.symm
            have settled := here.settled.step own (fun _ _ same => by cases same) bound rfl rfl rfl
              fun _ _ => Eq.refl _
            exact fun later more => ⟨⟨_, Writing.stable ⟨settled, here.holds⟩ more⟩, by simp⟩

theorem keeps_writeDurably (state : Writing i payload name file [] said disk)
    (clean : Clean said file) :
    KeepsOwn process i (Written i payload name file) (writeDurably file payload) said disk := by
  apply (keeps_writeAll state clean (List.nil_append payload) (le_refl _)).bind
  · intro _ said disk written
    rcases written with ⟨state, clean⟩
    intro before step given after answered
    have here := state.stable step
    have bound := before.owner_lt file i here.holds.1
    cases answered with
    | synced =>
        refine ⟨Owns.rfl, ?_⟩
        have harmless : ∀ other, ¬Fails other ⟨FileAsk.fsync file, .ok ()⟩ := by
          rintro other ⟨_, _, impossible⟩
          cases impossible
        have settled := here.settled.step (fun other fails => absurd fails (harmless other))
          (fun _ _ same => by cases same) bound rfl rfl rfl fun _ _ => Eq.refl _
        exact fun later more =>
          ⟨Writing.stable ⟨settled, here.holds⟩ more, clean_append clean (harmless file)⟩
    | syncFails message =>
        refine ⟨Owns.rfl, ?_⟩
        have own : ∀ other, Fails other ⟨FileAsk.fsync file, .error (.os message)⟩ →
            other = file := fun other fails => fails.1.symm
        have settled := here.settled.step own (fun _ _ same => by cases same) bound rfl rfl rfl
          fun _ _ => Eq.refl _
        exact fun later more => ⟨⟨_, Writing.stable ⟨settled, here.holds⟩ more⟩, by simp⟩
  · exact fun error said disk written => written

/-- The file of a failed attempt is removed, and then nothing is left to except. -/
theorem Settled.remove {part : Bytes} (settled : Settled i payload (some file) said disk)
    (holds : Holds i name file part disk) {entry : Entry}
    (quiet : ∀ other : Disk ι, Quiet other entry) (ordinary : name ≠ journalName) :
    Settled i payload none (said ++ [entry]) (disk.remove name) := by
  have gone : ∀ path, (disk.remove name).names path ≠ some file := by
    intro path named
    by_cases same : path = name
    · rw [same, Disk.remove_names, Function.update_self] at named
      cases named
    · rw [Disk.remove_names, Function.update_of_ne same] at named
      exact same (disk.names_injective path name file named holds.2.1)
  have back : ∀ path other, (disk.remove name).names path = some other →
      disk.names path = some other := by
    intro path other named
    by_cases same : path = name
    · rw [same, Disk.remove_names, Function.update_self] at named
      cases named
    · rwa [Disk.remove_names, Function.update_of_ne same] at named
  have touches : Touches i disk (disk.remove name) := touches_remove holds.2.1 holds.1 ordinary
  constructor
  · exact touches.sound settled.sound
  · intro path other created
    exact settled.created path other ((quiet disk).created created)
  · intro other mem failing fails
    rcases List.mem_append.mp mem with mem | same
    · exact settled.known other mem failing fails
    · rw [List.mem_singleton.mp same] at fails
      exact disk.names_lt _ _ ((quiet disk).failure failing fails).1
  · intro other path owned _ named
    have different : other ≠ file := by
      rintro rfl
      exact gone path named
    exact settled.whole other path owned (fun equal => different (Option.some.inj equal).symm)
      (back path other named)
  · rintro other path ⟨⟨created, isCreated⟩, failing, mem, fails⟩ _ named
    have different : other ≠ file := by
      rintro rfl
      exact gone path named
    rcases List.mem_append.mp mem with mem | same
    · exact settled.failed other path ⟨⟨created, (quiet disk).created isCreated⟩, failing, mem, fails⟩
        (fun equal => different (Option.some.inj equal).symm) (back path other named)
    · rw [List.mem_singleton.mp same] at fails
      have unowned := ((quiet disk).failure other fails).2
      rw [settled.created created other ((quiet disk).created isCreated)] at unowned
      cases unowned

/-- An entry about closing, removing, locking, looking or reading. -/
theorem quiet_of_noFile {entry : Entry} (noFailure : ∀ file, ¬Fails file entry)
    (noCreation : ∀ name file, entry ≠ ⟨.createExclusive name, .ok file⟩) (disk : Disk ι) :
    Quiet disk entry :=
  ⟨fun file fails => absurd fails (noFailure file), noCreation⟩

/-- How an attempt to write a record ends: settled, and with the whole record if it succeeds. -/
def Attempted (i : ι) (payload : Bytes) (name : Str) (result : Except RunError Unit)
    (said : History fileSystem) (disk : Disk ι) : Prop :=
  Settled i payload none said disk ∧
    ∀ value, result = .ok value → Disk.isLocal name ∧ ∃ file, Holds i name file payload disk

theorem keeps_finishExclusive {outcome : Except RunError Unit} (ordinary : name ≠ journalName)
    (plain : Disk.isLocal name)
    (written : Written i payload name file outcome said disk) :
    KeepsOwn process i (Attempted i payload name) (finishExclusive name file outcome) said disk := by
  intro before step given after answered
  have here := written.stable step
  cases answered
  refine ⟨Owns.rfl, ?_⟩
  have quiet : ∀ other : Disk ι, Quiet other ⟨FileAsk.close file, ()⟩ :=
    quiet_of_noFile (fun _ => id) fun _ _ same => by cases same
  rcases outcome with error | _
  · rcases here with ⟨⟨part, state⟩, other⟩
    intro later more given final answered
    have state := state.stable more
    cases answered
    refine ⟨owns_remove state.holds.2.1 state.holds.1 ordinary, ?_⟩
    have quietUnlink : ∀ other : Disk ι, Quiet other ⟨FileAsk.unlink name, ()⟩ :=
      quiet_of_noFile (fun _ => id) fun _ _ same => by cases same
    have closed := state.settled.quiet (refl later) (quiet later)
    have removed := closed.remove state.holds quietUnlink ordinary
    intro end_ last
    refine ⟨removed.stable last, ?_⟩
    intro value impossible
    cases impossible
  · rcases here with ⟨state, clean⟩
    have settled := (state.settled.close state.holds clean).quiet (refl before) (quiet before)
    intro later more
    exact ⟨settled.stable more, fun _ _ => ⟨plain, file, state.holds.stable more⟩⟩

/-- A call begins to write the file it has just created. -/
theorem Settled.create (settled : Settled i payload none said disk)
    (free : disk.names name = none) (ordinary : name ≠ journalName) :
    Writing i payload name disk.next []
      (said ++ [⟨FileAsk.createExclusive name, .ok disk.next⟩]) (disk.create name (some i)) ∧
    Clean (said ++ [⟨FileAsk.createExclusive name, .ok disk.next⟩]) disk.next := by
  have touches : Touches i disk (disk.create name (some i)) := touches_create free ordinary
  have old : ∀ other, other ≠ disk.next → (disk.create name (some i)).owner other = disk.owner other :=
    fun other different => Function.update_of_ne different _ _
  have back : ∀ path other, other ≠ disk.next →
      (disk.create name (some i)).names path = some other → disk.names path = some other := by
    intro path other different named
    by_cases same : path = name
    · rw [same, Disk.create_names, Function.update_self] at named
      exact absurd (Option.some.inj named).symm different
    · rwa [Disk.create_names, Function.update_of_ne same] at named
  have earlier : ∀ path other, Created said path other → other ≠ disk.next := by
    rintro path _ created rfl
    exact lt_irrefl _ (disk.owner_lt _ i (settled.created path _ created))
  have noFailure : ∀ other, ¬Fails other ⟨FileAsk.createExclusive name, .ok disk.next⟩ := fun _ => id
  refine ⟨⟨?_, ?_⟩, ?_⟩
  · constructor
    · exact touches.sound settled.sound
    · intro path other created
      rcases List.mem_append.mp created with mem | same
      · rw [old other (earlier path other mem)]
        exact settled.created path other mem
      · have equal := List.mem_singleton.mp same
        cases equal
        rw [Disk.create_owner, Function.update_self]
    · intro entry mem file fails
      rcases List.mem_append.mp mem with mem | same
      · exact Nat.lt_succ_of_lt (settled.known entry mem file fails)
      · rw [List.mem_singleton.mp same] at fails
        exact absurd fails (noFailure file)
    · intro other path owned closed named
      have different : other ≠ disk.next := fun same => closed (by rw [same])
      rw [old other different] at owned
      rw [Disk.create_content, Function.update_of_ne different]
      exact settled.whole other path owned (by simp) (back path other different named)
    · rintro other path ⟨⟨created, isCreated⟩, failing, mem, fails⟩ closed named
      have different : other ≠ disk.next := fun same => closed (by rw [same])
      have createdBefore : Created said created other := by
        rcases List.mem_append.mp isCreated with mem | same
        · exact mem
        · have equal := List.mem_singleton.mp same
          cases equal
          exact absurd rfl different
      rcases List.mem_append.mp mem with mem | same
      · exact settled.failed other path ⟨⟨created, createdBefore⟩, failing, mem, fails⟩ (by simp)
          (back path other different named)
      · rw [List.mem_singleton.mp same] at fails
        exact noFailure other fails
  · refine ⟨?_, ?_, ?_⟩
    · rw [Disk.create_owner, Function.update_self]
    · rw [Disk.create_names, Function.update_self]
    · rw [Disk.create_content, Function.update_self]
  · intro entry mem fails
    rcases List.mem_append.mp mem with mem | same
    · exact lt_irrefl _ (settled.known entry mem _ fails)
    · rw [List.mem_singleton.mp same] at fails
      exact noFailure _ fails

theorem keeps_writeExclusive (ordinary : name ≠ journalName)
    (settled : Settled i payload none said disk) :
    KeepsOwn process i (Attempted i payload name) (writeExclusive name payload) said disk := by
  intro before step given after answered
  have here := settled.stable step
  have refused : ∀ error : FileError, Quiet before ⟨FileAsk.createExclusive name, .error error⟩ :=
    fun error => quiet_of_noFile (fun _ => id) (fun _ _ same => by cases same) before
  cases answered with
  | created plain free =>
      refine ⟨owns_create free ordinary, ?_⟩
      rcases here.create free ordinary with ⟨state, clean⟩
      have tried : KeepsOwn process i (fun outcome said disk => ∃ result, outcome = .ok result ∧
          Written i payload name before.next result said disk)
          (writeDurably before.next payload).attempt
          (said ++ [⟨FileAsk.createExclusive name, .ok before.next⟩]) (before.create name (some i)) :=
        (keeps_writeDurably state clean).attempt fun result said disk written =>
          ⟨result, rfl, written⟩
      apply tried.bind
      · rintro _ said disk ⟨result, same, written⟩
        cases same
        exact keeps_finishExclusive ordinary plain written
      · rintro _ said disk ⟨_, impossible, _⟩
        cases impossible
  | taken found =>
      refine ⟨Owns.rfl, ?_⟩
      intro later more
      refine ⟨(here.quiet (refl before) (refused .exists_)).stable more, ?_⟩
      intro value impossible
      cases impossible
  | createFails message =>
      refine ⟨Owns.rfl, ?_⟩
      intro later more
      refine ⟨(here.quiet (refl before) (refused (.os message))).stable more, ?_⟩
      intro value impossible
      cases impossible

/-! ### The whole call -/

/-- A name of a record inside the directory. -/
def IsRecordName (name : Str) : Prop :=
  Disk.isLocal name ∧ ∃ stem sequence, name = recordName ("run-".toList ++ stem) sequence

/-- How a call ends: settled, and with the whole record under the name it returns. -/
def Ended (i : ι) (payload : Bytes) (result : Except RunError Str) (said : History fileSystem)
    (disk : Disk ι) : Prop :=
  Settled i payload none said disk ∧
    ∀ name, result = .ok name → IsRecordName name ∧ ∃ file, Holds i name file payload disk

theorem Ended.stable {result : Except RunError Str} (ended : Ended i payload result said before)
    (step : Leaves i before after) : Ended i payload result said after := by
  refine ⟨ended.1.stable step, ?_⟩
  intro name isName
  rcases ended.2 name isName with ⟨isRecord, file, holds⟩
  exact ⟨isRecord, file, holds.stable step⟩

theorem recordName_ne (stem : Str) (sequence : ℕ) :
    recordName ("run-".toList ++ stem) sequence ≠ journalName := by
  intro same
  have fourth : '-' = 's' := congrArg (fun text : Str => text.getD 3 ' ') same
  exact absurd fourth (by decide)

theorem keeps_tryPaths {stem : Str} (left sequence : ℕ)
    (settled : Settled i payload none said disk) :
    KeepsOwn process i (Ended i payload) (tryPaths ("run-".toList ++ stem) payload left sequence) said disk := by
  induction left generalizing sequence said disk with
  | zero =>
      intro later step
      refine ⟨settled.stable step, ?_⟩
      intro name impossible
      cases impossible
  | succ left ih =>
      have attempt : KeepsOwn process i (Attempted i payload _) _ said disk :=
        keeps_writeExclusive (recordName_ne stem sequence) settled
      have named : KeepsOwn process i (Ended i payload) (do
          writeExclusive (recordName ("run-".toList ++ stem) sequence) payload
          pure (recordName ("run-".toList ++ stem) sequence)) said disk := by
        apply attempt.bind
        · rintro _ said disk attempted later step
          refine ⟨attempted.1.stable step, ?_⟩
          intro name same
          cases same
          rcases attempted.2 () rfl with ⟨plain, file, holds⟩
          exact ⟨⟨plain, stem, sequence, rfl⟩, file, holds.stable step⟩
        · rintro error said disk attempted
          refine ⟨attempted.1, ?_⟩
          intro name impossible
          cases impossible
      rw [tryPaths]
      apply named.handle
      · exact fun value said disk ended => ended
      · intro error said disk ended
        split
        · exact ih (sequence + 1) ended.1
        · intro later step
          refine ⟨ended.1.stable step, ?_⟩
          intro name impossible
          cases impossible

theorem Ended.quiet (ended : Ended i payload (.ok name) said before) {entry : Entry}
    (step : Leaves i before after) (quiet : Quiet after entry) :
    Ended i payload (.ok name) (said ++ [entry]) after :=
  ⟨ended.1.quiet step quiet, (ended.stable step).2⟩

theorem leaves_setLock (number : ℕ) (holder : Option ι) :
    Leaves i disk (disk.setLock number holder) :=
  ⟨le_refl _, fun _ => Iff.rfl, fun _ _ => rfl, fun _ _ _ => Iff.rfl, fun _ => id, id⟩

theorem leaves_openNew (free : disk.names journalName = none) :
    Leaves i disk (disk.create journalName none) := by
  have touches : Touches i disk (disk.create journalName none) := touches_openNew free
  have old : ∀ file, disk.owner file = some i → file ≠ disk.next :=
    fun file owned => Nat.ne_of_lt (disk.owner_lt file i owned)
  constructor
  · exact touches.next
  · intro file
    by_cases new : file = disk.next
    · subst new
      rw [Disk.create_owner, Function.update_self]
      constructor
      · intro impossible
        cases impossible
      · intro owned
        exact absurd rfl (old _ owned)
    · rw [Disk.create_owner, Function.update_of_ne new]
  · intro file owned
    exact Function.update_of_ne (old file owned) _ _
  · intro file path owned
    by_cases same : path = journalName
    · rw [same, free, Disk.create_names, Function.update_self]
      constructor
      · intro equal
        exact absurd (Option.some.inj equal).symm (old file owned)
      · intro impossible
        cases impossible
    · rw [Disk.create_names, Function.update_of_ne same]
  · exact touches.journal
  · exact touches.sound

theorem leaves_extend (isJournal : IsJournal disk file) (data : Bytes) :
    Leaves i disk (disk.extend file data) := by
  refine ⟨le_refl _, fun _ => Iff.rfl, ?_, fun _ _ _ => Iff.rfl, fun _ => id, id⟩
  intro other owned
  have different : other ≠ file := by
    rintro rfl
    rw [isJournal.2] at owned
    cases owned
  exact Function.update_of_ne different _ _

/-- The journal is written while the record stays as it is. -/
theorem keeps_writeLine {line : Bytes} (ended : Ended i payload (.ok name) said disk)
    (isJournal : IsJournal disk file) :
    Keeps process i (fun _ => Ended i payload (.ok name)) (writeLine file line) said disk := by
  have sync : ∀ (said : History fileSystem) (disk : Disk ι), Ended i payload (.ok name) said disk →
      IsJournal disk file → Keeps process i (fun _ => Ended i payload (.ok name)) (do
        let synced ← question (S := fileSystem) (.fsync file)
        lift (Except.mapError RunError.file synced)) said disk := by
    intro said disk ended isJournal before step given after answered
    have here := ended.stable step
    have journalHere := step.journal file isJournal
    cases answered with
    | synced =>
        have quiet : Quiet before ⟨FileAsk.fsync file, .ok ()⟩ :=
          ⟨fun other fails => fails.1 ▸ journalHere, fun _ _ same => by cases same⟩
        exact ⟨Touches.rfl, fun later more => (here.quiet (refl before) quiet).stable more⟩
    | syncFails message =>
        have quiet : Quiet before ⟨FileAsk.fsync file, .error (.os message)⟩ :=
          ⟨fun other fails => fails.1 ▸ journalHere, fun _ _ same => by cases same⟩
        exact ⟨Touches.rfl, fun later more => (here.quiet (refl before) quiet).stable more⟩
  intro before step given after answered
  have here := ended.stable step
  have journalHere := step.journal file isJournal
  cases answered with
  | wrote front =>
      rename_i count
      have leaves : Leaves i before (before.extend file (line.take count)) :=
        leaves_extend journalHere _
      have quiet : Quiet (before.extend file (line.take count))
          ⟨FileAsk.write file line, .ok count⟩ :=
        ⟨fun other fails => fails.1 ▸ leaves.journal file journalHere,
          fun _ _ same => by cases same⟩
      refine ⟨touches_extend _ (Or.inr journalHere), ?_⟩
      have extended := here.quiet leaves quiet
      apply guarded_lift_bind
      · intro written _
        apply guarded_lift_bind
        · exact fun _ _ => sync _ _ extended (leaves.journal file journalHere)
        · exact fun _ _ later more => extended.stable more
      · exact fun _ _ later more => extended.stable more
  | writeFails message =>
      have quiet : Quiet before ⟨FileAsk.write file line, .error (.os message)⟩ :=
        ⟨fun other fails => fails.1 ▸ journalHere, fun _ _ same => by cases same⟩
      exact ⟨Touches.rfl, fun later more => (here.quiet (refl before) quiet).stable more⟩

theorem keeps_appendLine {line : Bytes} (ended : Ended i payload (.ok name) said disk) :
    Keeps process i (fun _ => Ended i payload (.ok name)) (appendLine journalName line) said disk := by
  have continues : ∀ (said : History fileSystem) (disk : Disk ι) (file : ℕ),
      Ended i payload (.ok name) said disk → IsJournal disk file →
      Keeps process i (fun _ => Ended i payload (.ok name)) (do
        let outcome ← (writeLine file line).attempt
        let _ ← question (S := fileSystem) (.close file)
        lift outcome) said disk := by
    intro said disk file ended isJournal
    have tried : Keeps process i (fun outcome said disk => (∃ result, outcome = .ok result) ∧
        Ended i payload (.ok name) said disk) (writeLine file line).attempt said disk :=
      (keeps_writeLine ended isJournal).attempt fun result said disk ended => ⟨⟨result, rfl⟩, ended⟩
    apply tried.bind
    · rintro outcome said disk ⟨_, ended⟩ before step given after answered
      have here := ended.stable step
      cases answered
      have quiet : Quiet before ⟨FileAsk.close file, ()⟩ :=
        quiet_of_noFile (fun _ => id) (fun _ _ same => by cases same) before
      exact ⟨Touches.rfl, guarded_lift fun later more =>
        (here.quiet (refl before) quiet).stable more⟩
    · rintro _ said disk ⟨⟨_, impossible⟩, _⟩
      cases impossible
  intro before step given after answered
  have here := ended.stable step
  have quiet : ∀ (other : Disk ι) (answer : Except FileError ℕ),
      Quiet other ⟨FileAsk.openAppend journalName, answer⟩ := fun other answer =>
    quiet_of_noFile (fun _ => id) (fun _ _ same => by cases same) other
  cases answered with
  | openedNew plain free =>
      refine ⟨touches_openNew free, ?_⟩
      apply continues _ _ _ (here.quiet (leaves_openNew free) (quiet _ _))
      refine ⟨?_, ?_⟩
      · rw [Disk.create_names, Function.update_self]
      · rw [Disk.create_owner, Function.update_self]
  | opened found =>
      exact ⟨Touches.rfl, continues _ _ _ (here.quiet (refl before) (quiet _ _))
        (here.1.sound _ found)⟩
  | openFails message =>
      exact ⟨Touches.rfl, fun later more => (here.quiet (refl before) (quiet _ _)).stable more⟩

theorem keeps_appendJournal {line : Bytes} (ended : Ended i payload (.ok name) said disk) :
    Keeps process i (fun _ => Ended i payload (.ok name)) (appendJournal journalName line) said disk := by
  intro before step given after answered
  have here := ended.stable step
  cases answered with
  | acquired free =>
      refine ⟨touches_setLock _ _, ?_⟩
      have quiet : Quiet (before.setLock (process i) (some i)) ⟨FileAsk.acquire, ()⟩ :=
        quiet_of_noFile (fun _ => id) (fun _ _ same => by cases same) _
      have locked := here.quiet (leaves_setLock _ (some i)) quiet
      have tried : Keeps process i (fun outcome said disk => (∃ result, outcome = .ok result) ∧
          Ended i payload (.ok name) said disk) (appendLine journalName line).attempt _ _ :=
        (keeps_appendLine locked).attempt fun result said disk ended => ⟨⟨result, rfl⟩, ended⟩
      apply tried.bind
      · rintro outcome said disk ⟨_, ended⟩ before step given after answered
        have here := ended.stable step
        cases answered
        have quiet : Quiet (before.setLock (process i) none) ⟨FileAsk.release, ()⟩ :=
          quiet_of_noFile (fun _ => id) (fun _ _ same => by cases same) _
        exact ⟨touches_setLock _ _, guarded_lift fun later more =>
          (here.quiet (leaves_setLock _ none) quiet).stable more⟩
      · rintro _ said disk ⟨⟨_, impossible⟩, _⟩
        cases impossible

theorem Settled.raised (settled : Settled i payload none said before) (error : RunError)
    (step : Leaves i before after) : Ended i payload (.error error) said after := by
  refine ⟨settled.stable step, ?_⟩
  intro name impossible
  cases impossible

section Calls

variable {φ : Type} [FloatText φ] [Interpreter]

/-- What a call with this record writes. -/
def payloadOf (record : Members φ) : Bytes :=
  match lineOf .indented (.object record) with
  | .ok payload => payload
  | .error _ => []

theorem stem_run {record : Members φ} {stem : Str} {payload : Bytes}
    (isStem : stemAndPayload record = .ok (stem, payload)) :
    lineOf .indented (.object record) = .ok payload ∧ payloadOf record = payload ∧
      ∃ rest, stem = "run-".toList ++ rest := by
  simp only [stemAndPayload, Checks.bind_eq_ok_iff] at isStem
  rcases isStem with ⟨startedAt, _, runId, _, text, isLine, _, _, _, _, same⟩
  cases same
  refine ⟨isLine, ?_, _, List.append_assoc _ _ _⟩
  rw [payloadOf, isLine]

/-- How a call with this record ends; when it returns or has created a file, the payload is the
text of the record. -/
structure Finished (i : ι) (record : Members φ) (result : Except RunError Str)
    (said : History fileSystem) (disk : Disk ι) : Prop where
  ended : Ended i (payloadOf record) result said disk
  returned : ∀ name, result = .ok name → lineOf .indented (.object record) = .ok (payloadOf record)
  created : ∀ name file, Created said name file →
    lineOf .indented (.object record) = .ok (payloadOf record)

theorem Settled.fails {record : Members φ} (settled : Settled i (payloadOf record) none said before)
    (nothing : ∀ name file, ¬Created said name file) (error : RunError)
    (step : Leaves i before after) : Finished i record (.error error) said after := by
  refine ⟨settled.raised error step, ?_, ?_⟩
  · intro name impossible
    cases impossible
  · intro name file created
    exact absurd created (nothing name file)

/-- The first half of a call, followed on its own. -/
theorem keeps_createRecord {record : Members φ}
    (settled : Settled i (payloadOf record) none said disk)
    (nothing : ∀ name file, ¬Created said name file) :
    KeepsOwn process i (Finished i record) (createRecord record) said disk := by
  apply guarded_lift_bind
  · intro verified _
    apply guarded_lift_bind
    · intro _ _ before step given after answered
      have here := settled.stable step
      have quiet : ∀ answer : Except FileError Unit, Quiet before ⟨FileAsk.mkdir, answer⟩ :=
        fun answer => quiet_of_noFile (fun _ => id) (fun _ _ same => by cases same) before
      have still : ∀ (answer : Except FileError Unit) name file,
          ¬Created (said ++ [⟨FileAsk.mkdir, answer⟩]) name file :=
        fun answer name file created => nothing name file ((quiet answer).created created)
      cases answered with
      | mkdirFails message =>
          exact ⟨Owns.rfl, fun later more =>
            (here.quiet (refl before) (quiet _)).fails (still _) _ more⟩
      | mkdir =>
          refine ⟨Owns.rfl, ?_⟩
          have made := here.quiet (refl before) (quiet (.ok ()))
          apply guarded_lift_bind
          · intro _ _
            apply guarded_lift_bind
            · rintro ⟨stem, payload⟩ isStem
              rcases stem_run isStem with ⟨isLine, rfl, rest, rfl⟩
              exact (keeps_tryPaths 10000 0 made).mono fun result said disk ended =>
                ⟨ended, fun _ _ => isLine, fun _ _ _ => isLine⟩
            · exact fun error _ later more => made.fails (still _) error more
          · exact fun error _ later more => made.fails (still _) error more
    · exact fun error _ later more => settled.fails nothing error more
  · exact fun error _ later more => settled.fails nothing error more

/-- A whole call, followed on its own. -/
theorem keeps_writeRunRecord {record : Members φ}
    (settled : Settled i (payloadOf record) none said disk)
    (nothing : ∀ name file, ¬Created said name file) :
    Keeps process i (Finished i record) (writeRunRecord record) said disk := by
  apply ((keeps_createRecord settled nothing).weaken fun before after => Owns.toTouches).bind
  · intro name said disk finished
    have isLine := finished.returned name rfl
    have ends : ∀ (result : Except RunError Str) said disk,
        Ended i (payloadOf record) result said disk → Finished i record result said disk :=
      fun result said disk ended => ⟨ended, fun _ _ => isLine, fun _ _ _ => isLine⟩
    apply guarded_lift_bind
    · intro line _
      apply (keeps_appendJournal finished.ended).bind
      · exact fun _ said disk ended later more => ends _ _ _ (ended.stable more)
      · exact fun error said disk ended => ends _ _ _ (ended.1.raised error (refl disk))
    · exact fun error _ later more => ends _ _ _ (finished.ended.1.raised error more)
  · exact fun error said disk finished => finished

end Calls

end Runs

end Psv
