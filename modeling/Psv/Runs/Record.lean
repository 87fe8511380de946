import Psv.Runs.Files
import Psv.Document.Keys

/-!
# Run records and their journal

`run_record.py`: how the record of a run is assembled, written under a name of
its own, entered in the journal, and how the journal is checked.
-/

namespace Psv

open Python Interaction Program Document

namespace Runs

/-- The exceptions of this module. -/
inductive RunError where
  | file (error : FileError)
  | valueError (message : String)
  | keyError (name : String)
  | attributeError
  | overflowError
  | unicodeDecodeError
  | unicodeEncodeError
  | recursionError
  deriving DecidableEq

/-- A computation on the directory. -/
abbrev Job (α : Type) : Type := Program fileSystem Unit RunError α

/-! ### Dates -/

/-- A `datetime`: microseconds since the beginning of the calendar on the local clock, and the
offset of that clock from UTC, which an unaware one does not have. -/
structure Moment where
  ticks : ℤ
  offset : Option ℤ

/-- The number of microseconds of the calendar, which ends with the year 9999. -/
def calendarTicks : ℤ := 3652059 * 86400 * 1000000

def daysBeforeMonth : List ℕ := [0, 0, 31, 59, 90, 120, 151, 181, 212, 243, 273, 304, 334]

def daysInMonth : List ℕ := [0, 31, 28, 31, 30, 31, 30, 31, 31, 30, 31, 30, 31]

/-- Year, month and day of a day, the first one being zero. -/
def civil (day : ℕ) : ℕ × ℕ × ℕ :=
  let n400 := day / 146097
  let n := day % 146097
  let n100 := n / 36524
  let n := n % 36524
  let n4 := n / 1461
  let n := n % 1461
  let n1 := n / 365
  let n := n % 365
  let year := n400 * 400 + 1 + n100 * 100 + n4 * 4 + n1
  if n1 = 4 ∨ n100 = 4 then (year - 1, 12, 31)
  else
    let leap := n1 = 3 ∧ (n4 ≠ 24 ∨ n100 = 3)
    let month := (n + 50) / 32
    let preceding := daysBeforeMonth.getD month 0 + if 2 < month ∧ leap then 1 else 0
    if n < preceding then
      let previous := preceding -
        (daysInMonth.getD (month - 1) 0 + if month - 1 = 2 ∧ leap then 1 else 0)
      (year, month - 1, n - previous + 1)
    else (year, month, n - preceding + 1)

/-- Decimal digits, padded with zeros. -/
def padded (width n : ℕ) : Str := rjustZero width (Nat.toDigits 10 n)

/-- `isoformat()` of a moment in UTC. -/
def isoformat (ticks : ℕ) : Str :=
  let seconds := ticks / 1000000
  let (year, month, day) := civil (seconds / 86400)
  let micros := ticks % 1000000
  padded 4 year ++ '-' :: padded 2 month ++ '-' :: padded 2 day ++ 'T' ::
    padded 2 (seconds / 3600 % 24) ++ ':' :: padded 2 (seconds / 60 % 60) ++
    ':' :: padded 2 (seconds % 60) ++ (if micros = 0 then [] else '.' :: padded 6 micros) ++
    "+00:00".toList

/-- `moment.astimezone(UTC).isoformat()` -/
def utcText (ticks : ℤ) : Except RunError Str :=
  if 0 ≤ ticks ∧ ticks < calendarTicks then .ok (isoformat ticks.toNat) else .error .overflowError

/-! ### Inputs -/

/-- What `urlsplit` finds in a URL; asking for a port can fail. -/
structure SplitUrl where
  scheme : Str
  hostname : Option Str
  port : Option (Option ℕ)

/-- What the process knows about itself, and the library functions that are not written out. -/
class RunEnvironment (φ : Type) where
  version : Str
  python : Str
  platform : Str
  machine : Str
  /-- `urlsplit(url)`, unless it raises `ValueError`. -/
  urlsplit : Str → Option SplitUrl
  /-- `str(value)` of a value that holds no halves. -/
  str : Document φ → Str
  /-- `round(delta.total_seconds(), 3)` for a difference in microseconds. -/
  seconds : ℤ → φ

/-- `part in text` -/
def containsText (part text : Points) : Bool := text.tails.any fun tail => part.isPrefixOf tail

section Build

variable {φ : Type} [RunEnvironment φ]

/-- Keep only scheme://host of an RPC URL. -/
def redactUrl (φ : Type) [RunEnvironment φ] (url : Str) : Str :=
  if url = [] then url
  else
    match RunEnvironment.urlsplit φ url with
    | none => "<unparseable>".toList
    | some parts =>
        match parts.hostname with
        | none => "<redacted>".toList
        | some hostname =>
            if parts.scheme = [] ∨ hostname = [] then "<redacted>".toList
            else
              match parts.port with
              | none => "<unparseable>".toList
              | some none => parts.scheme ++ "://".toList ++ hostname
              | some (some port) =>
                  if port = 0 then parts.scheme ++ "://".toList ++ hostname
                  else parts.scheme ++ "://".toList ++ hostname ++ ':' :: Nat.toDigits 10 port

variable [Interpreter]

/-- `text.lower()` -/
def lowerPoints (text : Points) : Points :=
  text.flatMap fun
    | .char c => (lower [c]).map .char
    | half => [half]

/-- `text.strip()` -/
def stripPoints (text : Points) : Points := ((text.dropWhile space).reverse.dropWhile space).reverse
where
  space : Point → Bool
    | .char c => isSpace c
    | _ => false

/-- Remove secret-like fields and redact provider URLs before persistence. -/
def cleanInputs : Members φ → Members φ
  | [] => []
  | (key, value) :: inputs =>
      match value with
      | .null => cleanInputs inputs
      | value =>
          if containsText "key".toPoints (lowerPoints key.points) ||
              containsText "secret".toPoints (lowerPoints key.points) ||
              containsText "password".toPoints (lowerPoints key.points) then cleanInputs inputs
          else if key = "rpc_url".toText ∨ key = "rpcUrl".toText then
            (key, .str (.ofStr (redactUrl φ (RunEnvironment.str value)))) :: cleanInputs inputs
          else (key, value) :: cleanInputs inputs

omit [RunEnvironment φ] [Interpreter] in
/-- `{k: v for k, v in record.items() if k != "runId"}` -/
def hashPayload (record : Members φ) : Document φ :=
  .object (record.filter fun member => member.1 ≠ "runId".toText)

variable [FloatText φ]

omit [RunEnvironment φ] in
/-- The canonical SHA-256 integrity identifier of a record. -/
def contentHash (record : Members φ) : Except RunError Str := do
  let payload := hashPayload record
  refuse (Interpreter.hashLevels < payload.depth) .recursionError
  let canonical ← orRaise (dumps .compact payload.sortKeys)
    (.valueError "Exceeds the limit (4300 digits) for integer string conversion")
  return "sha256:".toList ++ Interpreter.sha256 (utf8 canonical)

/-- The arguments of `build_run_record`. -/
structure RunArguments (φ : Type) where
  command : Text
  inputs : Members φ
  report : Option (Members φ)
  exitCode : ℤ
  startedAt : Moment
  finishedAt : Moment
  error : Option Text

/-- `None` or a value. -/
def optional {α : Type} (value : Option α) (wrap : α → Document φ) : Document φ :=
  match value with
  | some found => wrap found
  | none => .null

/-- The record of one run, without its identifier. -/
def recordBody (run : RunArguments φ) (startedAt finishedAt : Str) (duration : ℤ) : Members φ :=
  [("schemaVersion".toText, .str "1.1".toText),
    ("tool".toText, .object [("name".toText, .str "psv".toText),
      ("version".toText, .str (.ofStr (RunEnvironment.version φ)))]),
    ("command".toText, .str run.command),
    ("startedAt".toText, .str (.ofStr startedAt)),
    ("finishedAt".toText, .str (.ofStr finishedAt)),
    ("durationSeconds".toText, .float (.finite (RunEnvironment.seconds duration))),
    ("inputs".toText, .object (cleanInputs run.inputs)),
    ("environment".toText, .object [("python".toText, .str (.ofStr (RunEnvironment.python φ))),
      ("platform".toText, .str (.ofStr (RunEnvironment.platform φ))),
      ("machine".toText, .str (.ofStr (RunEnvironment.machine φ)))]),
    ("report".toText, optional run.report .object),
    ("exitCode".toText, .int run.exitCode),
    ("consistent".toText, .bool (run.error.isNone && decide (run.exitCode = 0))),
    ("error".toText, optional run.error .str)]

/-- Assemble the full, self-describing record for one run. -/
def buildRunRecord (run : RunArguments φ) : Except RunError (Members φ) := do
  refuse (stripPoints run.command.points = []) (.valueError "command must not be empty")
  refuse (run.exitCode < 0) (.valueError "exit_code must be a non-negative integer")
  match run.startedAt.offset, run.finishedAt.offset with
  | some startedOffset, some finishedOffset => do
      let started := run.startedAt.ticks - startedOffset
      let finished := run.finishedAt.ticks - finishedOffset
      refuse (finished < started) (.valueError "finished_at must not precede started_at")
      let startedAt ← utcText started
      let finishedAt ← utcText finished
      let record := recordBody run startedAt finishedAt (finished - started)
      let runId ← contentHash record
      return record ++ [("runId".toText, .str (.ofStr runId))]
  | _, _ => .error (.valueError "run timestamps must be timezone-aware")

end Build

/-! ### Writing -/

section Write

/-- `while view: written = os.write(fd, view); …` -/
def writeAll : ℕ → ℕ → Bytes → Job Unit
  | 0, _, _ => pure ()
  | fuel + 1, file, view =>
      if view = [] then pure ()
      else do
        let answer ← question (S := fileSystem) (.write file view)
        let written ← lift (Except.mapError RunError.file answer)
        lift (refuse (written = 0) (.file (.os "failed to write run record".toList)))
        writeAll fuel file (view.drop written)

/-- Write everything and flush it. -/
def writeDurably (file : ℕ) (payload : Bytes) : Job Unit := do
  writeAll payload.length file payload
  let synced ← question (S := fileSystem) (.fsync file)
  lift (Except.mapError RunError.file synced)

/-- The end of `_write_exclusive`: the file is closed, and removed when it is not complete. -/
def finishExclusive (name : Str) (file : ℕ) (outcome : Except RunError Unit) : Job Unit := do
  let _ ← question (S := fileSystem) (.close file)
  match outcome with
  | .ok _ => pure ()
  | .error error => do
      let _ ← question (S := fileSystem) (.unlink name)
      .raise error

/-- Create a file exactly once and durably write the payload. -/
def writeExclusive (name : Str) (payload : Bytes) : Job Unit := do
  let opened ← question (S := fileSystem) (.createExclusive name)
  let file ← lift (Except.mapError RunError.file opened)
  let outcome ← (writeDurably file payload).attempt
  finishExclusive name file outcome

/-- The name of a record at some attempt. -/
def recordName (stem : Str) (sequence : ℕ) : Str :=
  stem ++ (if sequence = 0 then [] else '-' :: Nat.toDigits 10 sequence) ++ ".json".toList

/-- Attempts from `sequence` on, as many as are left. -/
def tryPaths (stem : Str) (payload : Bytes) : ℕ → ℕ → Job Str
  | 0, _ => .raise (.file .exists_)
  | left + 1, sequence =>
      handle (do
        writeExclusive (recordName stem sequence) payload
        pure (recordName stem sequence)) fun
      | .file .exists_ => tryPaths stem payload left (sequence + 1)
      | error => .raise error

/-- Allocate and durably create a collision-free run-record path. -/
def exclusiveRecordPath (stem : Str) (payload : Bytes) : Job Str := tryPaths stem payload 10000 0

/-- One write, which must take the whole line. -/
def writeLine (file : ℕ) (line : Bytes) : Job Unit := do
  let answer ← question (S := fileSystem) (.write file line)
  let written ← lift (Except.mapError RunError.file answer)
  lift (refuse (written ≠ line.length) (.file (.os "partial run journal write".toList)))
  let synced ← question (S := fileSystem) (.fsync file)
  lift (Except.mapError RunError.file synced)

/-- Open the journal, write the line and close it again. -/
def appendLine (name : Str) (line : Bytes) : Job Unit := do
  let opened ← question (S := fileSystem) (.openAppend name)
  let file ← lift (Except.mapError RunError.file opened)
  let outcome ← (writeLine file line).attempt
  let _ ← question (S := fileSystem) (.close file)
  lift outcome

/-- Append one complete JSONL entry durably and without thread interleaving. -/
def appendJournal (name : Str) (line : Bytes) : Job Unit := do
  let _ ← question (S := fileSystem) .acquire
  let outcome ← (appendLine name line).attempt
  let _ ← question (S := fileSystem) .release
  lift outcome

variable {φ : Type} [FloatText φ]

/-- `record[name]` -/
def field (record : Members φ) (name : String) : Except RunError (Document φ) :=
  orRaise (record.lookup name.toText) (.keyError name)

/-- `record[name]`, of which a text method is called. -/
def textField (record : Members φ) (name : String) : Except RunError Text := do
  match ← field record name with
  | .str text => .ok text
  | _ => .error .attributeError

/-- A part of a name that is to be created. -/
def namePart (text : Text) : Except RunError Str :=
  orRaise (charsOf text.points) .unicodeEncodeError

/-- `text.replace(":", "").replace("-", "").replace(".", "")` -/
def compactTime (text : Str) : Str := text.filter fun c => c ≠ ':' ∧ c ≠ '-' ∧ c ≠ '.'

/-- `text.removeprefix("sha256:")[:12]` -/
def shortId (runId : Str) : Str :=
  (if "sha256:".toList.isPrefixOf runId then runId.drop 7 else runId).take 12

/-- `Path(text).name` -/
def pathName (text : Points) : Points :=
  (((text.splitOn (.char '/')).filter fun part => part ≠ [] ∧ part ≠ [.char '.']).getLast?).getD []

/-- The journal entry of a record. -/
def journalEntry (record : Members φ) (name : Str) : Except RunError (Members φ) := do
  let runId ← field record "runId"
  let startedAt ← field record "startedAt"
  let command ← field record "command"
  let consistent ← field record "consistent"
  let exitCode ← field record "exitCode"
  let error ← field record "error"
  return [("runId".toText, runId), ("startedAt".toText, startedAt), ("command".toText, command),
    ("consistent".toText, consistent), ("exitCode".toText, exitCode), ("error".toText, error),
    ("file".toText, .str (.ofPoints (pathName (name.map .char))))]

variable [Interpreter]

/-- How deep a document can be for `json.dumps`. -/
def dumpLevels (style : Style) : ℕ :=
  if style.indent = none then Interpreter.hashLevels else Interpreter.indentLevels

/-- The text of a document, with a line break behind it. -/
def lineOf (style : Style) (document : Document φ) : Except RunError Bytes := do
  refuse (dumpLevels style < document.depth) .recursionError
  let text ← orRaise (dumps style document)
    (.valueError "Exceeds the limit (4300 digits) for integer string conversion")
  return utf8 (text ++ ['\n'])

/-- Check the content checksum. -/
def verifyRunRecord (record : Members φ) : Except RunError Bool :=
  match record.lookup "runId".toText with
  | some (.str claimed) => do
      let hash ← contentHash record
      return decide (claimed = .ofStr hash)
  | _ => .ok false

/-- What is known of a record before anything is written: the stem of its name and its payload. -/
def stemAndPayload (record : Members φ) : Except RunError (Str × Bytes) := do
  let startedAt ← textField record "startedAt"
  let runId ← textField record "runId"
  let payload ← lineOf .indented (.object record)
  -- the path is encoded when the file is opened
  let startedAt ← namePart startedAt
  let runId ← namePart runId
  return ("run-".toList ++ compactTime startedAt ++ '-' :: shortId runId, payload)

/-- The line of a record in the journal. -/
def journalLine (record : Members φ) (name : Str) : Except RunError Bytes := do
  let entry ← journalEntry record name
  lineOf .plain (.object entry)

/-- The first half of `write_run_record`: the record is checked and written to a file of its own. -/
def createRecord (record : Members φ) : Job Str := do
  let verified ← lift (verifyRunRecord record)
  lift (refuse (verified = false)
    (.valueError "refusing to persist a run record with an invalid checksum"))
  let made ← question (S := fileSystem) .mkdir
  lift (Except.mapError RunError.file made)
  let (stem, payload) ← lift (stemAndPayload record)
  exclusiveRecordPath stem payload

/-- Create a unique record and append its summary to the journal. -/
def writeRunRecord (record : Members φ) : Job Str := do
  let name ← createRecord record
  let line ← lift (journalLine record name)
  appendJournal journalName line
  pure name

/-! ### Checking the journal -/

/-- `path.read_text(encoding="utf-8")` from the bytes of the file. -/
def readText (data : Bytes) : Except RunError Str := do
  let text ← orRaise (decodeUtf8 data) .unicodeDecodeError
  return universalNewlines text

/-- `json.loads(text)`; only `JSONDecodeError` is caught by the caller. -/
def loadJson (text : Str) : Except RunError (Option (Document φ)) :=
  match loads Interpreter.readLevels text with
  | .ok document => .ok (some document)
  | .error .longInteger =>
      .error (.valueError "Exceeds the limit (4300 digits) for integer string conversion")
  | .error .tooDeep => .error .recursionError
  | .error _ => .ok none

/-- Is `value` this text? -/
def isText (value : Option (Document φ)) (text : Text) : Bool :=
  match value with
  | some (.str other) => other == text
  | _ => false

/-- A finding about a line of the journal. -/
def finding (line : ℕ) (what : String) : Str := s!"runs.jsonl:{line}: {what}".toList

/-- What is wrong with a record as it was read, if anything. -/
def judgeRecord (φ : Type) [FloatText φ] (line : ℕ) (entry : Members φ)
    (data : Except FileError Bytes) : Except RunError (List Str) :=
  match data with
  | .error _ => .ok [finding line "record is missing or invalid"]
  | .ok bytes => do
      let text ← readText bytes
      let loaded ← loadJson text
      match loaded with
      | none => .ok [finding line "record is missing or invalid"]
      | some (.object record) => do
          let verified ← verifyRunRecord (φ := φ) record
          if verified = false then .ok [finding line "record checksum is invalid"]
          else
            match record.lookup "runId".toText with
            | some (.str runId) =>
                if isText (entry.lookup "runId".toText) runId then .ok []
                else .ok [finding line "journal/record runId mismatch"]
            | _ => .ok [finding line "journal/record runId mismatch"]
      | some _ => .ok [finding line "record checksum is invalid"]

/-- What `open` refuses by itself, and not with an `OSError`. -/
def checkName (name : Points) : Except RunError Unit := do
  refuse (fsEncode name = none) .unicodeEncodeError
  refuse (.char (Char.ofNat 0) ∈ name) (.valueError "embedded null byte")

/-- The findings about one line of the journal. -/
def checkLine (φ : Type) [FloatText φ] (line : ℕ) (raw : Str) : Job (List Str) := do
  let loaded : Option (Document φ) ← lift (loadJson raw)
  match loaded with
  | none => pure [finding line "invalid or truncated JSON"]
  | some (.object entry) =>
      match entry.lookup "file".toText with
      | some (.str name) =>
          if pathName name.points ≠ name.points then pure [finding line "unsafe record filename"]
          else do
            lift (checkName name.points)
            let data ← question (S := fileSystem) (.read name.points)
            lift (judgeRecord φ line entry data)
      | _ => pure [finding line "unsafe record filename"]
  | some _ => pure [finding line "entry must be an object"]

/-- The findings about the lines from some number on. -/
def checkLines (φ : Type) [FloatText φ] : ℕ → List Str → Job (List Str)
  | _, [] => pure []
  | line, raw :: rest => do
      let first ← checkLine φ line raw
      let others ← checkLines φ (line + 1) rest
      pure (first ++ others)

/-- Return corruption findings for the journal and referenced records. -/
def verifyRunJournal (φ : Type) [FloatText φ] : Job (List Str) := do
  let answer ← question (S := fileSystem) (.isFile journalName)
  let there ← lift (Except.mapError RunError.file answer)
  if there = false then pure ["runs.jsonl is missing".toList]
  else do
    let data ← question (S := fileSystem) (.read (journalName.map .char))
    let bytes ← lift (Except.mapError RunError.file data)
    let text ← lift (readText bytes)
    checkLines φ 1 (splitLines text)

end Write

end Runs

end Psv
