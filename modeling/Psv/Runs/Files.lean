import Psv.Interaction.Threads
import Psv.Document.Encoding

/-!
# A directory of run records

The file operations behind `run_record.py` and a directory they act on: names
lead to files, an exclusive creation needs a free name, a write may take only a
front of its data, and every operation that can fail may fail.  Who created a
file exclusively is remembered beside it; no operation depends on that.
-/

namespace Psv

open Python Interaction

namespace Runs

/-- Why a file operation fails: the name is taken, or anything else. -/
inductive FileError where
  | exists_
  | os (message : Str)
  deriving DecidableEq

/-- The file operations, the directory being fixed. -/
inductive FileAsk where
  /-- `log_dir.mkdir(parents=True, exist_ok=True)` -/
  | mkdir
  /-- `os.open(path, O_CREAT | O_EXCL | O_WRONLY)` -/
  | createExclusive (name : Str)
  /-- `os.open(path, O_CREAT | O_APPEND | O_WRONLY)` -/
  | openAppend (name : Str)
  /-- `os.write(fd, data)` -/
  | write (file : ℕ) (data : Bytes)
  /-- `os.fsync(fd)` -/
  | fsync (file : ℕ)
  /-- `os.close(fd)` -/
  | close (file : ℕ)
  /-- `path.unlink(missing_ok=True)` -/
  | unlink (name : Str)
  /-- `_JOURNAL_LOCK.acquire()` and `_JOURNAL_LOCK.release()` -/
  | acquire
  | release
  /-- `path.is_file()` -/
  | isFile (name : Str)
  /-- `path.read_bytes()`; any string can be the name that is asked for -/
  | read (name : Points)
  deriving DecidableEq

def FileAsk.Answer : FileAsk → Type
  | .mkdir => Except FileError Unit
  | .createExclusive _ => Except FileError ℕ
  | .openAppend _ => Except FileError ℕ
  | .write _ _ => Except FileError ℕ
  | .fsync _ => Except FileError Unit
  | .close _ => Unit
  | .unlink _ => Unit
  | .acquire => Unit
  | .release => Unit
  | .isFile _ => Except FileError Bool
  | .read _ => Except FileError Bytes

def fileSystem : Signature := ⟨FileAsk, FileAsk.Answer⟩

/-- The journal of a directory. -/
def journalName : Str := "runs.jsonl".toList

/-- A character or a half in the name of a file: UTF-8, with a low half for each byte that is not
decoded. -/
def fsPoint : Point → Option Bytes
  | .char c => some (utf8 [c])
  | .low bits =>
      if 0x80 ≤ bits.val ∧ bits.val ≤ 0xff then some [UInt8.ofNat bits] else none
  | .high _ => none

/-- `os.fsencode(name)`, unless it raises `UnicodeEncodeError`. -/
def fsEncode (name : Points) : Option Bytes := (name.mapM fsPoint).map List.flatten

theorem fsEncode_text (name : Str) : fsEncode (name.map .char) = some (utf8 name) := by
  have pieces : (name.map Point.char).mapM fsPoint = some (name.map fun c => utf8 [c]) := by
    induction name with
    | nil => rfl
    | cons c name ih =>
        rw [List.map_cons, List.mapM_cons, ih]
        rfl
  have joined : (name.map fun c => utf8 [c]).flatten = utf8 name := by
    rw [utf8, List.flatMap_def]
    exact congrArg List.flatten (List.map_congr_left fun c _ => List.flatMap_singleton _ _)
  rw [fsEncode, pieces, Option.map_some, joined]

/-- A directory and the files it leads to.  There are no links: two names never lead to one file. -/
structure Disk (ι : Type) where
  names : Str → Option ℕ
  content : ℕ → Bytes
  /-- The number of the next file. -/
  next : ℕ
  /-- Who holds the lock of the journal in each process. -/
  lock : ℕ → Option ι
  /-- Who created a file exclusively. -/
  owner : ℕ → Option ι
  names_lt : ∀ name file, names name = some file → file < next
  names_injective : ∀ name other file, names name = some file → names other = some file →
    name = other
  owner_lt : ∀ file i, owner file = some i → file < next

namespace Disk

variable {ι : Type}

/-- A new empty file under a free name. -/
def create (disk : Disk ι) (name : Str) (creator : Option ι) : Disk ι where
  names := Function.update disk.names name (some disk.next)
  content := Function.update disk.content disk.next []
  next := disk.next + 1
  lock := disk.lock
  owner := Function.update disk.owner disk.next creator
  names_lt := by
    intro other file found
    by_cases same : other = name
    · subst same
      rw [Function.update_self] at found
      cases found
      exact Nat.lt_succ_self _
    · rw [Function.update_of_ne same] at found
      exact Nat.lt_succ_of_lt (disk.names_lt other file found)
  names_injective := by
    intro first second file isFirst isSecond
    by_cases firstSame : first = name
    · by_cases secondSame : second = name
      · rw [firstSame, secondSame]
      · rw [firstSame, Function.update_self] at isFirst
        rw [Function.update_of_ne secondSame] at isSecond
        cases isFirst
        exact absurd (disk.names_lt second _ isSecond) (lt_irrefl _)
    · rw [Function.update_of_ne firstSame] at isFirst
      by_cases secondSame : second = name
      · rw [secondSame, Function.update_self] at isSecond
        cases isSecond
        exact absurd (disk.names_lt first _ isFirst) (lt_irrefl _)
      · rw [Function.update_of_ne secondSame] at isSecond
        exact disk.names_injective first second file isFirst isSecond
  owner_lt := by
    intro file i owned
    by_cases same : file = disk.next
    · rw [same]
      exact Nat.lt_succ_self _
    · rw [Function.update_of_ne same] at owned
      exact Nat.lt_succ_of_lt (disk.owner_lt file i owned)

/-- Data behind what a file holds. -/
def extend (disk : Disk ι) (file : ℕ) (data : Bytes) : Disk ι :=
  { disk with content := Function.update disk.content file (disk.content file ++ data) }

/-- A name removed. -/
def remove (disk : Disk ι) (name : Str) : Disk ι where
  names := Function.update disk.names name none
  content := disk.content
  next := disk.next
  lock := disk.lock
  owner := disk.owner
  names_lt := by
    intro other file found
    by_cases same : other = name
    · rw [same, Function.update_self] at found
      cases found
    · rw [Function.update_of_ne same] at found
      exact disk.names_lt other file found
  names_injective := by
    intro first second file isFirst isSecond
    by_cases firstSame : first = name
    · rw [firstSame, Function.update_self] at isFirst
      cases isFirst
    · by_cases secondSame : second = name
      · rw [secondSame, Function.update_self] at isSecond
        cases isSecond
      · rw [Function.update_of_ne firstSame] at isFirst
        rw [Function.update_of_ne secondSame] at isSecond
        exact disk.names_injective first second file isFirst isSecond
  owner_lt := disk.owner_lt

/-- The file that a string leads to. -/
def lookup (disk : Disk ι) (name : Points) : Option ℕ :=
  (fsEncode name).bind fun bytes => (decodeUtf8 bytes).bind disk.names

def setLock (disk : Disk ι) (process : ℕ) (holder : Option ι) : Disk ι :=
  { disk with lock := Function.update disk.lock process holder }

/-- A directory without files. -/
def empty : Disk ι where
  names _ := none
  content _ := []
  next := 0
  lock _ := none
  owner _ := none
  names_lt := fun _ _ impossible => nomatch impossible
  names_injective := fun _ _ _ impossible => nomatch impossible
  owner_lt := fun _ _ impossible => nomatch impossible

/-- A name without halves leads where it says. -/
@[simp]
theorem lookup_text (disk : Disk ι) (name : Str) :
    disk.lookup (name.map .char) = disk.names name := by
  rw [lookup, fsEncode_text, Option.bind_some, decodeUtf8_utf8, Option.bind_some]

section Fields

variable (disk : Disk ι) (name : Str) (creator : Option ι) (process file : ℕ) (data : Bytes)

@[simp]
theorem create_names : (disk.create name creator).names =
    Function.update disk.names name (some disk.next) := rfl

@[simp]
theorem create_content : (disk.create name creator).content =
    Function.update disk.content disk.next [] := rfl

@[simp]
theorem create_next : (disk.create name creator).next = disk.next + 1 := rfl

@[simp]
theorem create_owner : (disk.create name creator).owner =
    Function.update disk.owner disk.next creator := rfl

@[simp]
theorem extend_content : (disk.extend file data).content =
    Function.update disk.content file (disk.content file ++ data) := rfl

@[simp]
theorem extend_names : (disk.extend file data).names = disk.names := rfl

@[simp]
theorem extend_owner : (disk.extend file data).owner = disk.owner := rfl

@[simp]
theorem remove_names : (disk.remove name).names = Function.update disk.names name none := rfl

@[simp]
theorem remove_content : (disk.remove name).content = disk.content := rfl

@[simp]
theorem remove_owner : (disk.remove name).owner = disk.owner := rfl

@[simp]
theorem setLock_names : (disk.setLock process creator).names = disk.names := rfl

@[simp]
theorem setLock_content : (disk.setLock process creator).content = disk.content := rfl

@[simp]
theorem setLock_owner : (disk.setLock process creator).owner = disk.owner := rfl

end Fields

/-- A path inside the directory itself, without the character that no path has. -/
def isLocal (name : Str) : Prop := '/' ∉ name ∧ Char.ofNat 0 ∉ name

instance (name : Str) : Decidable (isLocal name) :=
  inferInstanceAs (Decidable ('/' ∉ name ∧ Char.ofNat 0 ∉ name))

/-- What the operations of `who` may answer and do; only calls in one process share a lock. -/
inductive Answers (process : ι → ℕ) (who : ι) (disk : Disk ι) :
    (question : FileAsk) → question.Answer → Disk ι → Prop where
  | mkdir : Answers process who disk .mkdir (.ok ()) disk
  | mkdirFails (message : Str) : Answers process who disk .mkdir (.error (.os message)) disk
  | created {name : Str} (plain : isLocal name) (free : disk.names name = none) :
      Answers process who disk (.createExclusive name) (.ok disk.next) (disk.create name (some who))
  | taken {name : Str} {file : ℕ} (found : disk.names name = some file) :
      Answers process who disk (.createExclusive name) (.error .exists_) disk
  | createFails {name : Str} (message : Str) :
      Answers process who disk (.createExclusive name) (.error (.os message)) disk
  | openedNew {name : Str} (plain : isLocal name) (free : disk.names name = none) :
      Answers process who disk (.openAppend name) (.ok disk.next) (disk.create name none)
  | opened {name : Str} {file : ℕ} (found : disk.names name = some file) :
      Answers process who disk (.openAppend name) (.ok file) disk
  | openFails {name : Str} (message : Str) :
      Answers process who disk (.openAppend name) (.error (.os message)) disk
  | wrote {file : ℕ} {data : Bytes} {count : ℕ} (front : count ≤ data.length) :
      Answers process who disk (.write file data) (.ok count) (disk.extend file (data.take count))
  | writeFails {file : ℕ} {data : Bytes} (message : Str) :
      Answers process who disk (.write file data) (.error (.os message)) disk
  | synced {file : ℕ} : Answers process who disk (.fsync file) (.ok ()) disk
  | syncFails {file : ℕ} (message : Str) :
      Answers process who disk (.fsync file) (.error (.os message)) disk
  | closed {file : ℕ} : Answers process who disk (.close file) () disk
  | unlinked {name : Str} : Answers process who disk (.unlink name) () (disk.remove name)
  | acquired (free : disk.lock (process who) = none) :
      Answers process who disk .acquire () (disk.setLock (process who) (some who))
  | released : Answers process who disk .release () (disk.setLock (process who) none)
  | isFile {name : Str} :
      Answers process who disk (.isFile name) (.ok (disk.names name).isSome) disk
  | readFile {name : Points} {file : ℕ} (found : disk.lookup name = some file) :
      Answers process who disk (.read name) (.ok (disk.content file)) disk
  | readFails {name : Points} (message : Str) (missing : disk.lookup name = none) :
      Answers process who disk (.read name) (.error (.os message)) disk

end Disk

/-- A file system on which nothing can be done. -/
def idle : Environment fileSystem
  | _, .mkdir => .error (.os [])
  | _, .createExclusive _ => .error (.os [])
  | _, .openAppend _ => .error (.os [])
  | _, .write _ _ => .error (.os [])
  | _, .fsync _ => .error (.os [])
  | _, .close _ => ()
  | _, .unlink _ => ()
  | _, .acquire => ()
  | _, .release => ()
  | _, .isFile _ => .error (.os [])
  | _, .read _ => .error (.os [])

end Runs

end Psv
