import Psv.Interaction.Embedding
import Psv.Rails.Known
import Psv.Report
import Psv.Runs.Record

/-!
# The command line

`_cmd_reconcile` and `main` of `cli.py`, for an invocation that has been parsed.
The command asks for the time and for the outcome of the reconciliation, writes
reports, prints, and works in the directory of run records; each of these may fail
whenever it is asked.  What the process ends with is `exitStatus`.
-/

namespace Psv

open Python Interaction Program Document Runs Rails

namespace Cli

/-! ### What the command asks -/

/-- The standard streams. -/
inductive Stream where
  | stdout
  | stderr
  deriving DecidableEq

/-- Why `print` fails: an `OSError`, or a character that the encoding of the stream lacks. -/
inductive PrintFailure where
  | os (message : Str)
  | unicodeEncodeError
  deriving DecidableEq

/-- `datetime.now(UTC)`, in microseconds since the beginning of the calendar. -/
abbrev Instant : Type := { ticks : ℤ // 0 ≤ ticks ∧ ticks < calendarTicks }

/-- The steps of the command that can go one way or another. -/
inductive TerminalAsk where
  | now
  /-- `run_reconcile(token_for_rail(rail, rpc), rail, …)` -/
  | reconcile (rail : RailConfig) (payment : Payment) (sutBelievesPaid : Bool)
  /-- `path.parent.mkdir(parents=True, exist_ok=True)` -/
  | makeParents (path : Str)
  /-- `path.write_bytes(data)` -/
  | writeBytes (path : Str) (data : Bytes)
  | print (stream : Stream) (text : Str)
  /-- A step in the directory of run records. -/
  | file (question : FileAsk)

/-- The answers; a reconciliation that fails leaves the text of an `RpcError` or a `ValueError`,
and a failed write the text of an `OSError`. -/
def TerminalAsk.Answer : TerminalAsk → Type
  | .now => Instant
  | .reconcile _ _ _ => Except Str ReconReport
  | .makeParents _ => Except Str Unit
  | .writeBytes _ _ => Except Str Unit
  | .print _ _ => Except PrintFailure Unit
  | .file question => question.Answer

def terminal : Signature := ⟨TerminalAsk, TerminalAsk.Answer⟩

/-- The directory of run records as a part of the terminal. -/
def records : Embedding fileSystem terminal where
  ask := .file
  answer _ := Equiv.refl _

/-- The exceptions of the command. -/
inductive CliError where
  | os (message : Str)
  | valueError (message : String)
  | unicodeEncodeError
  | other
  deriving DecidableEq

def CliError.ofRun : RunError → CliError
  | .file .exists_ => .os "File exists".toList
  | .file (.os message) => .os message
  | .valueError message => .valueError message
  | .unicodeDecodeError => .valueError "invalid UTF-8"
  | .unicodeEncodeError => .valueError "surrogates not allowed"
  | _ => .other

def CliError.ofReport : PyError → CliError
  | .valueError message => .valueError message
  | _ => .other

/-- A computation of the command. -/
abbrev Command (α : Type) : Type := Program terminal Unit CliError α

/-! ### Printing and writing -/

def print (stream : Stream) (text : Str) : Command Unit := do
  let answer ← question (S := terminal) (.print stream text)
  match answer with
  | .ok _ => pure ()
  | .error (.os message) => .raise (.os message)
  | .error .unicodeEncodeError => .raise .unicodeEncodeError

/-- `_MAX_REPORT_BYTES` -/
def maxReportBytes : ℕ := 2 * 1024 * 1024

/-- Write a size-bounded report payload, creating parent directories. -/
def writeReport (path payload : Str) (label : String) : Command Unit := do
  let encoded := utf8 payload
  lift (refuse (maxReportBytes < encoded.length)
    (.os s!"{label} report exceeds {maxReportBytes} bytes".toList))
  let made ← question (S := terminal) (.makeParents path)
  lift (Except.mapError CliError.os made)
  let written ← question (S := terminal) (.writeBytes path encoded)
  lift (Except.mapError CliError.os written)

/-- A report is written when a path was given for it. -/
def writeRequested (path : Option Str) (payload : Str) (label : String) : Command Unit :=
  match path with
  | some path => writeReport path payload label
  | none => pure ()

/-- The path of a report is printed when one was given. -/
def announce (label : String) (path : Option Str) : Command Unit :=
  match path with
  | some path => print .stdout (label.toList ++ path)
  | none => pure ()

/-! ### Documents -/

section Documents

variable {φ : Type}

mutual

/-- A document without lists and floats among all of them. -/
def ofJson : Json → Document φ
  | .null => .null
  | .bool value => .bool value
  | .int value => .int value
  | .str text => .str (.ofStr text)
  | .object members => .object (ofMembers members)

def ofMembers : List (String × Json) → Members φ
  | [] => []
  | (key, value) :: members => (key.toText, ofJson value) :: ofMembers members

end

end Documents

/-! ### The command -/

/-- The parsed arguments of `psv reconcile`. -/
structure Invocation (φ : Type) where
  rail : String
  payment : Payment
  sutBelievesPaid : Bool
  rpcUrl : Str
  rpcTimeout : φ
  jsonOut : Option Str
  mdOut : Option Str
  logDir : Option Str
  noLog : Bool

/-- `get_rail(key)`, or the text of its `KeyError`. -/
def getRail [Interpreter] (key : String) : Except Str RailConfig :=
  match knownRails.find? fun rail => rail.key = key with
  | some rail => .ok rail
  | none =>
      let known := ((knownRails.map fun rail => rail.key).mergeSort fun left right => left ≤ right)
      let message := s!"unknown rail {Interpreter.repr (.str key.toList)}; known: " ++
        ", ".intercalate known
      .error (Interpreter.repr (.str message.toList)).toList

/-- `str(log_dir / name)` -/
def joinPath (directory name : Str) : Str :=
  if directory = ['.'] then name
  else if directory.getLast? = some '/' then directory ++ name
  else directory ++ '/' :: name

section Command

variable {φ : Type}

/-- Resolve audit logging precedence from flags, the environment variable, and defaults. -/
def resolveLogDir (args : Invocation φ) (noLogEnv : Option Str) : Option Str :=
  if args.noLog then none
  else
    match args.logDir with
    | some directory => some directory
    | none => if noLogEnv.getD [] ≠ [] then none else some "psv-runs".toList

/-- The inputs of the invocation, as they are recorded. -/
def inputsOf (args : Invocation φ) : Members φ :=
  [("rail".toText, .str args.rail.toText),
    ("payer".toText, .str (.ofStr args.payment.payer)),
    ("payee".toText, .str (.ofStr args.payment.payee)),
    ("nonce".toText, .str (.ofStr args.payment.nonce)),
    ("transaction_hash".toText, .str (.ofStr args.payment.transactionHash)),
    ("log_index".toText, .int args.payment.logIndex),
    ("required_amount".toText, .int args.payment.requiredAmount),
    ("payer_before".toText, .int args.payment.payerBefore),
    ("payee_before".toText, .int args.payment.payeeBefore),
    ("sut_believes_paid".toText, .bool args.sutBelievesPaid),
    ("rpc_url".toText, .str (.ofStr args.rpcUrl)),
    ("rpc_timeout".toText, .float (.finite args.rpcTimeout))]

/-- What is recorded of the invocation. -/
def runOf (args : Invocation φ) (startedAt finishedAt : Instant) (report : Option ReconReport)
    (code : ℕ) (error : Option Str) : RunArguments φ where
  command := "reconcile".toText
  inputs := inputsOf args
  report := report.map fun report => ofMembers report.toDict
  exitCode := code
  startedAt := ⟨startedAt.val, some 0⟩
  finishedAt := ⟨finishedAt.val, some 0⟩
  error := error.map .ofStr

variable [Interpreter] [FloatText φ] [RunEnvironment φ]

/-- Build the record and write it. -/
def persist (run : RunArguments φ) : Command Str := do
  let record ← lift (Except.mapError CliError.ofRun (buildRunRecord run))
  (writeRunRecord record).embed records CliError.ofRun

/-- Persist this invocation's record and report whether auditing succeeded. -/
def writeRecord (args : Invocation φ) (logDir : Option Str) (startedAt : Instant)
    (report : Option ReconReport) (code : ℕ) (error : Option Str) : Command Bool :=
  match logDir with
  | none => pure true
  | some directory => do
      let finishedAt ← question (S := terminal) .now
      let outcome ← (persist (runOf args startedAt finishedAt report code error)).attempt
      match outcome with
      | .ok name => do
          print .stdout ("Run record: ".toList ++ joinPath directory name)
          pure true
      | .error (.os message) => do
          print .stderr ("audit-record error: ".toList ++ message)
          pure false
      | .error (.valueError message) => do
          print .stderr ("audit-record error: ".toList ++ message.toList)
          pure false
      | .error error => .raise error

/-- `report.to_markdown()` and `report.to_json()` -/
@[irreducible]
def render (report : ReconReport) : Except CliError (Str × Str) := do
  let markdown ← Except.mapError CliError.ofReport report.toMarkdown
  let json ← Except.mapError CliError.ofReport report.toJson
  return (markdown.toList, json)

/-- The end of a run that has a report in both renderings. -/
def deliver (args : Invocation φ) (logDir : Option Str) (startedAt : Instant)
    (report : ReconReport) (markdown json : Str) : Command ℕ := do
  let written ← (do
    writeRequested args.jsonOut json "JSON"
    writeRequested args.mdOut markdown "Markdown").attempt
  match written with
  | .error (.os text) => do
      let message := "output error: ".toList ++ text
      let _ ← writeRecord args logDir startedAt (some report) 2 (some message)
      print .stderr message
      pure 2
  | .error error => .raise error
  | .ok _ => do
      print .stdout markdown
      announce "JSON report: " args.jsonOut
      announce "Markdown report: " args.mdOut
      let logged ← writeRecord args logDir startedAt (some report) report.exitCode none
      if logged = false then pure 2 else pure report.exitCode

/-- What becomes of the outcome of a reconciliation. -/
def conclude (args : Invocation φ) (logDir : Option Str) (startedAt : Instant) :
    Except Str ReconReport → Command ℕ
  | .error text => do
      let message := "reconciliation error: ".toList ++ text
      let _ ← writeRecord args logDir startedAt none 2 (some message)
      print .stderr message
      pure 2
  | .ok report => do
      let (markdown, json) ← lift (render report)
      deliver args logDir startedAt report markdown json

/-- Execute reconciliation, emit reports, and persist an integrity record. -/
def cmdReconcile (args : Invocation φ) (noLogEnv : Option Str) : Command ℕ := do
  let startedAt ← question (S := terminal) .now
  let logDir := resolveLogDir args noLogEnv
  match getRail args.rail with
  | .error message => do
      print .stderr message
      pure 2
  | .ok rail => do
      let answer ← question (S := terminal) (.reconcile rail args.payment args.sutBelievesPaid)
      conclude args logDir startedAt answer

/-- `print(f"output error: {exc}", file=sys.stderr)`, an `OSError` of which is dropped. -/
def complain (message : Str) : Command Unit :=
  handle (print .stderr ("output error: ".toList ++ message)) fun
    | .os _ => pure ()
    | error => .raise error

/-- Dispatch a parsed `psv reconcile` and convert expected failures into stable exit codes. -/
def main (args : Invocation φ) (noLogEnv : Option Str) : Command ℕ :=
  handle (cmdReconcile args noLogEnv) fun
    | .os message => do
        complain message
        pure 2
    | error => .raise error

/-- The status a process ends with when `main` returns, or when an exception leaves it. -/
def exitStatus (result : Except CliError ℕ) : ℕ :=
  match result with
  | .ok code => code
  | .error _ => 1

end Command

end Cli

end Psv
