import Psv.Cli.Outcomes

/-!
# The exit status

What the process ends with, over every way its steps can go.  All failures of the
command end in status 2 except the two that `main` does not know: a print that
meets a character the stream cannot encode, and a report that cannot be rendered.
An exception that leaves `main` ends the process with status 1, which is honest
only after a divergence that has been written everywhere (`exitStatus_honest_iff`).
-/

namespace Psv

open Python Interaction Program Document Runs Rails

namespace Cli

/-! ### What the status stands for -/

/-- A print that failed for want of a character. -/
def Unencodable : Exchange → Prop
  | ⟨.print _ _, answer⟩ => (answer : Except PrintFailure Unit) = .error .unicodeEncodeError
  | _ => False

/-- An exception that `main` does not convert: a print failed for want of a character, or the
report could not be rendered. -/
def Escapes (said : History terminal) : Prop :=
  (∃ entry ∈ said, Unencodable entry) ∨ ∃ report, Produced said report ∧ ¬Renders report

section Honest

variable {φ : Type} [FloatText φ] [Interpreter] [RunEnvironment φ]

/-- Every report that was asked for has been written. -/
structure ReportsWritten (args : Invocation φ) (report : ReconReport) (said : History terminal) :
    Prop where
  json : ∀ path, args.jsonOut = some path → ∃ json, report.toJson = .ok json ∧
    (⟨.writeBytes path (utf8 json), .ok ()⟩ : Exchange) ∈ said
  markdown : ∀ path, args.mdOut = some path → ∃ markdown, report.toMarkdown = .ok markdown ∧
    (⟨.writeBytes path (utf8 markdown.toList), .ok ()⟩ : Exchange) ∈ said

/-- A record with this exit code has been written and entered in the journal. -/
def RecordWritten (φ : Type) [FloatText φ] (said : History terminal) (code : ℕ) : Prop :=
  ∃ (front back : History terminal) (inner : History fileSystem) (record : Members φ) (name : Str),
    said = front ++ inner.map records.entry ++ back ∧
    (writeRunRecord record).Replays () inner (.ok name) () ∧
    record.lookup "exitCode".toText = some (.int code)

/-- A verdict was produced, and every requested report and, unless logging is off, the run record
were written. -/
def Delivered (args : Invocation φ) (noLogEnv : Option Str) (said : History terminal)
    (failure : Bool) : Prop :=
  ∃ report, Produced said report ∧ report.isFailure = failure ∧ ReportsWritten args report said ∧
    (resolveLogDir args noLogEnv = none ∨ RecordWritten φ said report.exitCode)

/-- The status says what happened. -/
structure Honest (args : Invocation φ) (noLogEnv : Option Str) (said : History terminal)
    (status : ℕ) : Prop where
  consistent : status = 0 → Delivered args noLogEnv said false
  divergent : status = 1 → Delivered args noLogEnv said true
  otherwise : status = 0 ∨ status = 1 ∨ status = 2

end Honest

/-! ### Prints that fail for want of a character -/

section Marks

variable {α β : Type}

/-- The program ends with a `UnicodeEncodeError` exactly when a print met one. -/
def Marks (program : Command α) : Prop :=
  ∀ said result, program.Replays () said result () →
    ((∃ entry ∈ said, Unencodable entry) ↔ result = .error .unicodeEncodeError)

theorem exists_append_iff {kind : Exchange → Prop} {first second : History terminal}
    (none_ : ¬∃ entry ∈ first, kind entry) :
    (∃ entry ∈ first ++ second, kind entry) ↔ ∃ entry ∈ second, kind entry := by
  simp only [List.mem_append, or_and_right, exists_or]
  exact or_iff_right none_

theorem marks_lift {computation : Except CliError α}
    (other : computation ≠ .error .unicodeEncodeError) : Marks (lift computation) := by
  intro said result replays
  rcases replays_lift_iff.mp replays with ⟨rfl, rfl, _⟩
  simp [other]

theorem marks_raise {error : CliError} (other : error ≠ .unicodeEncodeError) :
    Marks (.raise error : Command α) := by
  rintro said result ⟨rfl, rfl, _⟩
  simp [other]

theorem marks_pure (value : α) : Marks (pure value) :=
  @marks_lift _ (.ok value) (by simp)

theorem marks_question {asked : terminal.Ask}
    (silent : ∀ answer, ¬Unencodable ⟨asked, answer⟩) :
    Marks (question asked : Command _) := by
  intro said result replays
  rcases replays_question_iff.mp replays with ⟨answer, rfl, rfl, _⟩
  simp [silent]

theorem marks_print (stream : Stream) (text : Str) : Marks (print stream text) := by
  rintro said result ⟨answer, rest, rfl, continues⟩
  have only : ∀ answer : Except PrintFailure Unit,
      (∃ entry ∈ [(⟨.print stream text, answer⟩ : Exchange)], Unencodable entry) ↔
        answer = .error .unicodeEncodeError := by
    intro answer
    constructor
    · rintro ⟨entry, mem, marked⟩
      rw [List.mem_singleton.mp mem] at marked
      exact marked
    · exact fun marked => ⟨_, List.mem_singleton_self _, marked⟩
  rcases answer with (message | _) | _
  · rcases continues with ⟨rfl, rfl, _⟩
    rw [only]
    simp
  · rcases continues with ⟨rfl, rfl, _⟩
    rw [only]
    simp
  · rcases continues with ⟨rfl, rfl, _⟩
    rw [only]
    simp

theorem Marks.bind {program : Command α} {next : α → Command β} (marks : Marks program)
    (continues : ∀ value, Marks (next value)) : Marks (program >>= next) := by
  intro said result replays
  rcases replays_bind_iff.mp replays with
    ⟨value, _, first, second, rfl, begins, rest⟩ | ⟨error, rfl, begins⟩
  · have none_ : ¬∃ entry ∈ first, Unencodable entry := by
      rw [marks _ _ begins]
      simp
    rw [← continues value _ _ rest, exists_append_iff none_]
  · rw [marks _ _ begins, Except.error.injEq, Except.error.injEq]

/-- A handler that passes a `UnicodeEncodeError` on. -/
theorem Marks.handle {program : Command α} {handler : CliError → Command α} (marks : Marks program)
    (passes : handler .unicodeEncodeError = .raise .unicodeEncodeError)
    (handles : ∀ error, error ≠ .unicodeEncodeError → Marks (handler error)) :
    Marks (program.handle handler) := by
  intro said result replays
  rcases replays_handle_iff.mp replays with
    ⟨value, rfl, begins⟩ | ⟨error, _, first, second, rfl, begins, handled⟩
  · exact marks _ _ begins
  · have isFirst := marks _ _ begins
    by_cases marked : error = .unicodeEncodeError
    · subst marked
      rw [passes] at handled
      rcases handled with ⟨rfl, rfl, _⟩
      rw [List.append_nil]
      exact isFirst
    · have none_ : ¬∃ entry ∈ first, Unencodable entry := by
        rw [isFirst]
        simp [marked]
      rw [← handles error marked _ _ handled, exists_append_iff none_]

/-- What follows an attempt passes a `UnicodeEncodeError` on. -/
theorem Marks.attempt_bind {program : Command α} {next : Except CliError α → Command β}
    (marks : Marks program)
    (passes : next (.error .unicodeEncodeError) = .raise .unicodeEncodeError)
    (continues : ∀ outcome, outcome ≠ .error .unicodeEncodeError → Marks (next outcome)) :
    Marks (program.attempt >>= next) := by
  intro said result replays
  rcases replays_attempt_bind_iff.mp replays with ⟨outcome, _, first, second, rfl, begins, rest⟩
  have isFirst := marks _ _ begins
  by_cases marked : outcome = .error .unicodeEncodeError
  · subst marked
    rw [passes] at rest
    rcases rest with ⟨rfl, rfl, _⟩
    rw [List.append_nil, isFirst, Except.error.injEq, Except.error.injEq]
  · have none_ : ¬∃ entry ∈ first, Unencodable entry := by
      rw [isFirst]
      exact marked
    rw [← continues outcome marked _ _ rest, exists_append_iff none_]

theorem unencodable_file (part : Entry) : ¬Unencodable (records.entry part) := id

theorem marks_embed {program : Job α}
    (other : ∀ error, CliError.ofRun error ≠ .unicodeEncodeError) :
    Marks (program.embed records CliError.ofRun) := by
  intro said result replays
  rcases replays_embed_iff.mp replays with ⟨inner, outcome, rfl, _, rfl⟩
  constructor
  · rintro ⟨entry, mem, marked⟩
    rcases List.mem_map.mp mem with ⟨part, _, rfl⟩
    exact absurd marked (unencodable_file part)
  · intro same
    rcases outcome with error | value
    · exact absurd (Except.error.inj same) (other error)
    · cases same

theorem ofRun_ne (error : RunError) : CliError.ofRun error ≠ .unicodeEncodeError := by
  cases error with
  | file error => cases error <;> simp [CliError.ofRun]
  | _ => simp [CliError.ofRun]

theorem mapError_ne {ε : Type} {computation : Except ε α} {rename : ε → CliError}
    (other : ∀ error, rename error ≠ .unicodeEncodeError) :
    computation.mapError rename ≠ .error .unicodeEncodeError := by
  rcases computation with error | value
  · intro same
    exact other error (Except.error.inj same)
  · simp [Except.mapError]

theorem marks_writeRequested (path : Option Str) (payload : Str) (label : String) :
    Marks (writeRequested path payload label) := by
  rcases path with _ | path
  · exact marks_pure ()
  · apply Marks.bind
    · apply marks_lift
      unfold refuse
      split_ifs
      · simp
      · simp
    · intro _
      apply (marks_question fun _ => id).bind
      intro made
      apply (marks_lift (mapError_ne (by simp))).bind
      intro _
      apply (marks_question fun _ => id).bind
      exact fun _ => marks_lift (mapError_ne (by simp))

theorem marks_announce (label : String) (path : Option Str) : Marks (announce label path) := by
  rcases path with _ | path
  · exact marks_pure ()
  · exact marks_print _ _

variable {φ : Type} [FloatText φ] [Interpreter] [RunEnvironment φ]

theorem marks_writeRecord (args : Invocation φ) (logDir : Option Str) (startedAt : Instant)
    (report : Option ReconReport) (code : ℕ) (error : Option Str) :
    Marks (writeRecord args logDir startedAt report code error) := by
  rcases logDir with _ | directory
  · exact marks_pure true
  · apply (marks_question fun _ => id).bind
    intro finishedAt
    apply Marks.attempt_bind
    · apply (marks_lift (mapError_ne ofRun_ne)).bind
      exact fun _ => marks_embed ofRun_ne
    · rfl
    · intro outcome other
      rcases outcome with (message | message | _ | _) | name
      · exact (marks_print _ _).bind fun _ => marks_pure _
      · exact (marks_print _ _).bind fun _ => marks_pure _
      · exact absurd rfl other
      · exact marks_raise (by simp)
      · exact (marks_print _ _).bind fun _ => marks_pure _

theorem marks_deliver (args : Invocation φ) (logDir : Option Str) (startedAt : Instant)
    (report : ReconReport) (markdown json : Str) :
    Marks (deliver args logDir startedAt report markdown json) := by
  apply Marks.attempt_bind
  · exact (marks_writeRequested _ _ _).bind fun _ => marks_writeRequested _ _ _
  · rfl
  · intro outcome other
    rcases outcome with (message | message | _ | _) | _
    · apply (marks_writeRecord _ _ _ _ _ _).bind
      exact fun _ => (marks_print _ _).bind fun _ => marks_pure _
    · exact marks_raise (by simp)
    · exact absurd rfl other
    · exact marks_raise (by simp)
    · apply (marks_print _ _).bind
      intro _
      apply (marks_announce _ _).bind
      intro _
      apply (marks_announce _ _).bind
      intro _
      apply (marks_writeRecord _ _ _ _ _ _).bind
      intro logged
      split_ifs
      · exact marks_pure _
      · exact marks_pure _

theorem marks_conclude (args : Invocation φ) (logDir : Option Str) (startedAt : Instant)
    (answer : Except Str ReconReport) : Marks (conclude args logDir startedAt answer) := by
  rcases answer with text | report
  · apply (marks_writeRecord _ _ _ _ _ _).bind
    exact fun _ => (marks_print _ _).bind fun _ => marks_pure _
  · exact (marks_lift render_ne).bind fun _ => marks_deliver _ _ _ _ _ _

theorem marks_cmdReconcile (args : Invocation φ) (noLogEnv : Option Str) :
    Marks (cmdReconcile args noLogEnv) := by
  apply (marks_question fun _ => id).bind
  intro startedAt
  dsimp only
  split
  · exact (marks_print _ _).bind fun _ => marks_pure _
  · exact (marks_question fun _ => id).bind fun _ => marks_conclude _ _ _ _

omit [Interpreter] in
theorem marks_complain (message : Str) : Marks (complain message) := by
  apply (marks_print _ _).handle
  · rfl
  · intro error other
    cases error with
    | os message => exact marks_pure ()
    | valueError message => exact marks_raise (by simp)
    | unicodeEncodeError => exact absurd rfl other
    | other => exact marks_raise (by simp)

theorem marks_main (args : Invocation φ) (noLogEnv : Option Str) : Marks (main args noLogEnv) := by
  apply (marks_cmdReconcile args noLogEnv).handle
  · rfl
  · intro error other
    cases error with
    | os message => exact (marks_complain message).bind fun _ => marks_pure _
    | valueError message => exact marks_raise (by simp)
    | unicodeEncodeError => exact absurd rfl other
    | other => exact marks_raise (by simp)

end Marks

section Status

variable {φ : Type} [FloatText φ] [Interpreter] [RunEnvironment φ] {args : Invocation φ}
  {noLogEnv : Option Str} {said : History terminal}

/-! ### The reconciliation is asked for once -/

/-- A question that is no reconciliation. -/
def Aside (question : terminal.Ask) : Prop :=
  ∀ rail payment believes, question ≠ TerminalAsk.reconcile rail payment believes

omit [Interpreter] in
theorem aside_print (stream : Stream) (text : Str) :
    (print stream text).Asks Aside := by
  apply (asks_question (fun _ _ _ => TerminalAsk.noConfusion)).bind
  intro answer
  rcases answer with (_ | _) | _
  · trivial
  · trivial
  · trivial

omit [Interpreter] in
theorem aside_complain (message : Str) : (complain message).Asks Aside := by
  apply (aside_print _ _).handle
  intro error
  rcases error with _ | _ | _ | _
  · trivial
  · trivial
  · trivial
  · trivial

omit [Interpreter] in
theorem aside_file {α : Type} (program : Job α) :
    (program.embed records CliError.ofRun).Asks Aside := by
  apply Asks.embed
  induction program with
  | ret value => trivial
  | raise error => trivial
  | get next ih => exact ih
  | set state next ih => exact ih
  | ask question next ih => exact ⟨fun _ _ _ => TerminalAsk.noConfusion, ih⟩

theorem aside_writeRecord (logDir : Option Str) (startedAt : Instant) (report : Option ReconReport)
    (code : ℕ) (error : Option Str) :
    (writeRecord args logDir startedAt report code error).Asks Aside := by
  rcases logDir with _ | directory
  · trivial
  · apply (asks_question (fun _ _ _ => TerminalAsk.noConfusion)).bind
    intro finishedAt
    have persists : (persist (runOf args startedAt finishedAt report code error)).Asks Aside :=
      (asks_lift _).bind fun _ => aside_file _
    apply persists.attempt.bind
    intro outcome
    rcases outcome with (message | message | _ | _) | name
    · exact (aside_print _ _).bind fun _ => trivial
    · exact (aside_print _ _).bind fun _ => trivial
    · trivial
    · trivial
    · exact (aside_print _ _).bind fun _ => trivial

theorem aside_giveUp (logDir : Option Str) (startedAt : Instant) (report : Option ReconReport)
    (message : Str) : (giveUp args logDir startedAt report message).Asks Aside :=
  (aside_writeRecord _ _ _ _ _).bind fun _ => (aside_print _ _).bind fun _ => trivial

omit [Interpreter] in
theorem aside_announce (label : String) (path : Option Str) :
    (announce label path).Asks Aside := by
  rcases path with _ | path
  · trivial
  · exact aside_print _ _

theorem aside_deliver (logDir : Option Str) (startedAt : Instant) (report : ReconReport)
    (markdown json : Str) : (deliver args logDir startedAt report markdown json).Asks Aside := by
  have writes : ∀ path payload label, (writeRequested path payload label).Asks Aside := by
    intro path payload label
    rcases path with _ | path
    · trivial
    · apply (asks_lift _).bind
      intro _
      apply (asks_question (fun _ _ _ => TerminalAsk.noConfusion)).bind
      intro made
      apply (asks_lift _).bind
      intro _
      apply (asks_question (fun _ _ _ => TerminalAsk.noConfusion)).bind
      exact fun _ => asks_lift _
  apply ((writes _ _ _).bind fun _ => writes _ _ _).attempt.bind
  intro outcome
  rcases outcome with (message | message | _ | _) | _
  · exact aside_giveUp _ _ _ _
  · trivial
  · trivial
  · trivial
  · apply (aside_print _ _).bind
    intro _
    apply (aside_announce _ _).bind
    intro _
    apply (aside_announce _ _).bind
    intro _
    apply (aside_writeRecord _ _ _ _ _).bind
    intro logged
    split_ifs
    · trivial
    · trivial

theorem aside_conclude (logDir : Option Str) (startedAt : Instant)
    (answer : Except Str ReconReport) : (conclude args logDir startedAt answer).Asks Aside := by
  rcases answer with text | report
  · exact aside_giveUp _ _ _ _
  · rw [conclude]
    apply Asks.bind (asks_lift (render report))
    exact fun _ => aside_deliver _ _ _ _ _

omit [Interpreter] in
/-- No report comes from questions that are no reconciliation. -/
theorem not_produced {report : ReconReport} (aside : ∀ entry ∈ said, Aside entry.1) :
    ¬Produced said report := by
  rintro ⟨rail, payment, believes, mem⟩
  exact aside _ mem rail payment believes rfl

omit [Interpreter] in
theorem produced_append_iff {first second : History terminal} {report : ReconReport} :
    Produced (first ++ second) report ↔ Produced first report ∨ Produced second report := by
  simp only [Produced, List.mem_append, exists_or]

/-! ### What leaves `main` -/

/-- A report that cannot be rendered ends the command. -/
theorem conclude_unrendered {logDir : Option Str} {startedAt : Instant} {report : ReconReport}
    {result : Except CliError ℕ} (unrendered : ¬Renders report)
    (replays : (conclude args logDir startedAt (.ok report)).Replays () said result ()) :
    ∃ raised, result = .error raised ∧ ¬IsOs raised := by
  rcases conclude_cases replays with ⟨_, _, impossible, _⟩ | ⟨verdict, same, ended⟩
  · cases impossible
  · cases same
    rcases ended with ⟨_, _, raised, failed, notOs⟩ | ⟨markdown, json, isMarkdown, isJson, _⟩
    · exact ⟨raised, failed, notOs⟩
    · exact absurd ⟨⟨markdown, isMarkdown⟩, json, isJson⟩ unrendered

theorem cmdReconcile_unrendered {report : ReconReport} {result : Except CliError ℕ}
    (produced : Produced said report) (unrendered : ¬Renders report)
    (replays : (cmdReconcile args noLogEnv).Replays () said result ()) :
    ∃ raised, result = .error raised ∧ ¬IsOs raised := by
  rcases cmdReconcile_cases replays with ⟨startedAt, rest, rfl, ended⟩
  rcases produced with ⟨rail, payment, believes, mem⟩
  rcases List.mem_cons.mp mem with impossible | mem
  · cases impossible
  · rcases ended with ⟨message, _, prints⟩ | ⟨known, answer, back, _, rfl, concludes⟩
    · have asks : (print .stderr message >>= fun _ => pure 2 : Command ℕ).Asks Aside :=
        (aside_print _ _).bind fun _ => trivial
      exact absurd ⟨rail, payment, believes, mem⟩ (not_produced (asks.of_mem prints))
    · rcases List.mem_cons.mp mem with same | mem
      · cases same
        exact conclude_unrendered unrendered concludes
      · exact absurd ⟨rail, payment, believes, mem⟩
          (not_produced ((aside_conclude _ _ _).of_mem concludes))

/-- `main` fails only with an exception that it does not convert. -/
theorem escapes_of_error {raised : CliError}
    (replays : (main args noLogEnv).Replays () said (.error raised) ()) : Escapes said := by
  have marked := marks_main args noLogEnv said _ replays
  have output : IsOutput raised → ¬IsOs raised → Escapes said := by
    rintro (isOs | rfl) notOs
    · exact absurd isOs notOs
    · exact Or.inl (marked.mpr rfl)
  rcases main_cases replays with ⟨front, back, inner, rfl, ran, ⟨rfl, same, notOs⟩ | complained⟩
  · subst same
    have notOs := notOs raised rfl
    rcases cmdReconcile_cases ran with ⟨startedAt, rest, rfl, ⟨message, _, prints⟩ | ended⟩
    · have raises : (print .stderr message >>= fun _ => pure 2 : Command ℕ).Raises IsOutput :=
        (raises_print _ _).bind fun _ => trivial
      exact output (raises.of_replays prints) notOs
    · rcases ended with ⟨rail, answer, later, _, rfl, concludes⟩
      rcases conclude_cases concludes with ⟨text, message, rfl, gaveUp⟩ | ⟨report, rfl, ended⟩
      · exact output ((raises_giveUp _ _).of_replays gaveUp) notOs
      · rcases ended with ⟨unrendered, _⟩ | ⟨markdown, json, _, _, delivers⟩
        · refine Or.inr ⟨report, ⟨rail, args.payment, args.sutBelievesPaid, ?_⟩, unrendered⟩
          simp
        · rcases deliver_cases delivers with ⟨_, _, _, _, ⟨message, gaveUp⟩ | ⟨_, _, finishes⟩⟩
          · exact output ((raises_giveUp _ _).of_replays gaveUp) notOs
          · exact output ((raises_finish _ _ _).of_replays finishes) notOs
  · rcases complained with ⟨message, _, complains⟩
    have isEncoding := (raises_complain message).of_replays complains
    subst isEncoding
    exact Or.inl (marked.mpr rfl)

/-- `main` does not return when there is something that it does not convert. -/
theorem error_of_escapes {result : Except CliError ℕ}
    (replays : (main args noLogEnv).Replays () said result ()) (escapes : Escapes said) :
    ∃ raised, result = .error raised := by
  rcases escapes with marked | ⟨report, produced, unrendered⟩
  · exact ⟨_, (marks_main args noLogEnv said result replays).mp marked⟩
  · rcases main_cases replays with ⟨front, back, inner, rfl, ran, ended⟩
    rcases produced_append_iff.mp produced with produced | produced
    · rcases cmdReconcile_unrendered produced unrendered ran with ⟨raised, rfl, notOs⟩
      rcases ended with ⟨_, rfl, _⟩ | ⟨message, same, _⟩
      · exact ⟨raised, rfl⟩
      · cases same
        exact absurd ⟨message, rfl⟩ notOs
    · rcases ended with ⟨rfl, _⟩ | ⟨message, _, complains⟩
      · rcases produced with ⟨_, _, _, impossible⟩
        cases impossible
      · have asks : (complain message >>= fun _ => pure 2 : Command ℕ).Asks Aside :=
          (aside_complain message).bind fun _ => trivial
        exact absurd produced (not_produced (asks.of_mem complains))

/-! ### What a status other than 2 stands for -/

omit [RunEnvironment φ] in
theorem RecordWritten.within {part : History terminal} {code : ℕ} (front back : History terminal)
    (written : RecordWritten φ part code) : RecordWritten φ (front ++ part ++ back) code := by
  rcases written with ⟨before, after, inner, record, name, rfl, writes, isCode⟩
  exact ⟨front ++ before, after ++ back, inner, record, name, by simp, writes, isCode⟩

theorem writeRecord_written {logDir : Option Str} {startedAt : Instant}
    {report : Option ReconReport} {code : ℕ} {error : Option Str}
    (replays : (writeRecord args logDir startedAt report code error).Replays () said (.ok true) ()) :
    logDir = none ∨ RecordWritten φ said code := by
  rcases logDir with _ | directory
  · exact Or.inl rfl
  · right
    rcases writeRecord_cases replays with ⟨finishedAt, front, back, outcome, rfl, persists, ends⟩
    rcases outcome with raised | name
    · rcases ends with ⟨text, prints⟩
      rcases replays_bind_ok_iff.mp prints with ⟨_, _, _, _, _, _, _, impossible, _⟩
      cases impossible
    · rcases persist_cases persists with ⟨_, ⟨_, impossible⟩, _⟩ |
        ⟨record, inner, answer, built, rfl, writes, same⟩
      · cases impossible
      · have isName := mapError_eq_ok_iff.mp same.symm
        subst isName
        exact ⟨[⟨.now, finishedAt⟩], back, inner, record, name, by simp, writes,
          (lookup_built built).1⟩

/-- What a run that finishes has done. -/
theorem finish_returns {logDir : Option Str} {startedAt : Instant} {report : ReconReport}
    {markdown : Str} {code : ℕ}
    (replays : (finish args logDir startedAt report markdown).Replays () said (.ok code) ()) :
    code = 2 ∨ code = report.exitCode ∧ (logDir = none ∨ RecordWritten φ said report.exitCode) := by
  rcases replays_bind_ok_iff.mp replays with ⟨_, _, shown, rest, rfl, _, replays⟩
  rcases replays_bind_ok_iff.mp replays with ⟨_, _, json, rest, rfl, _, replays⟩
  rcases replays_bind_ok_iff.mp replays with ⟨_, _, written, rest, rfl, _, replays⟩
  rcases replays_bind_ok_iff.mp replays with ⟨logged, _, recorded, rest, rfl, records, replays⟩
  split_ifs at replays with notLogged
  · rcases replays with ⟨_, same, _⟩
    exact Or.inl (Except.ok.inj same)
  · rcases replays with ⟨_, same, _⟩
    rw [Bool.not_eq_false] at notLogged
    subst notLogged
    refine Or.inr ⟨Except.ok.inj same, (writeRecord_written records).imp id fun isWritten => ?_⟩
    have within := isWritten.within (shown ++ json ++ written) rest
    simpa using within

theorem giveUp_returns {logDir : Option Str} {startedAt : Instant} {report : Option ReconReport}
    {message : Str} {code : ℕ}
    (replays : (giveUp args logDir startedAt report message).Replays () said (.ok code) ()) :
    code = 2 := by
  rcases replays_bind_ok_iff.mp replays with ⟨_, _, _, _, _, _, replays⟩
  rcases replays_bind_ok_iff.mp replays with ⟨_, _, _, _, _, _, _, same, _⟩
  exact Except.ok.inj same

/-- `main` returns 2, or the exit code of a verdict that has been written everywhere. -/
theorem main_returns {code : ℕ} (replays : (main args noLogEnv).Replays () said (.ok code) ()) :
    code = 2 ∨ ∃ report : ReconReport,
      code = report.exitCode ∧ Delivered args noLogEnv said report.isFailure := by
  rcases main_cases replays with ⟨front, back, inner, rfl, ran, ⟨rfl, same, _⟩ | complained⟩
  · subst same
    rcases cmdReconcile_cases ran with ⟨startedAt, rest, rfl, ⟨message, _, prints⟩ | ended⟩
    · rcases replays_bind_ok_iff.mp prints with ⟨_, _, _, _, _, _, _, same, _⟩
      exact Or.inl (Except.ok.inj same)
    · rcases ended with ⟨rail, answer, later, _, rfl, concludes⟩
      rcases conclude_cases concludes with ⟨text, message, rfl, gaveUp⟩ | ⟨report, rfl, ended⟩
      · exact Or.inl (giveUp_returns gaveUp)
      · rcases ended with ⟨_, _, _, impossible, _⟩ | ⟨markdown, json, isMarkdown, isJson, delivers⟩
        · cases impossible
        · rcases deliver_cases delivers with
            ⟨written, shown, rfl, _, ⟨message, gaveUp⟩ | ⟨hasJson, hasMarkdown, finishes⟩⟩
          · exact Or.inl (giveUp_returns gaveUp)
          · refine (finish_returns finishes).imp id ?_
            rintro ⟨rfl, recorded⟩
            refine ⟨report, rfl, report, ⟨rail, args.payment, args.sutBelievesPaid, by simp⟩, rfl,
              ⟨?_, ?_⟩, recorded.imp id fun isWritten => ?_⟩
            · intro path asked
              refine ⟨json, isJson, ?_⟩
              have mem := hasJson path asked
              simp [mem]
            · intro path asked
              refine ⟨markdown, isMarkdown, ?_⟩
              have mem := hasMarkdown path asked
              simp [mem]
            · have within := isWritten.within ([⟨.now, startedAt⟩,
                ⟨.reconcile rail args.payment args.sutBelievesPaid, .ok report⟩] ++ written) []
              simpa using within
  · rcases complained with ⟨message, _, complains⟩
    rcases replays_bind_ok_iff.mp complains with ⟨_, _, _, _, _, _, _, same, _⟩
    exact Or.inl (Except.ok.inj same)

theorem honest_of_main {code : ℕ} (replays : (main args noLogEnv).Replays () said (.ok code) ()) :
    Honest args noLogEnv said code := by
  rcases main_returns replays with rfl | ⟨report, rfl, delivered⟩
  · exact ⟨by simp, by simp, by simp⟩
  · unfold ReconReport.exitCode
    rcases failure : report.isFailure with _ | _
    · rw [failure] at delivered
      exact ⟨fun _ => delivered, by simp, by simp⟩
    · rw [failure] at delivered
      exact ⟨by simp, fun _ => delivered, by simp⟩

/-- The exit status says what happened exactly when no exception leaves `main`, unless it does so
after a divergence has been written everywhere. -/
theorem exitStatus_honest_iff (args : Invocation φ) (noLogEnv : Option Str)
    (environment : Environment terminal) :
    let outcome := (main args noLogEnv).run environment () []
    Honest args noLogEnv outcome.history (exitStatus outcome.result) ↔
      (Escapes outcome.history → Delivered args noLogEnv outcome.history true) := by
  intro outcome
  have ran : (main args noLogEnv).run environment () [] =
      ⟨outcome.result, (), outcome.history⟩ := rfl
  rcases (run_eq_iff (main args noLogEnv)).mp ran with ⟨said, isHistory, _, replays⟩
  rw [List.nil_append] at isHistory
  rw [isHistory]
  generalize outcome.result = result at replays ⊢
  rcases result with raised | code
  · have escapes := escapes_of_error replays
    constructor
    · exact fun honest _ => honest.divergent rfl
    · intro written
      exact ⟨by simp [exitStatus], fun _ => written escapes, by simp [exitStatus]⟩
  · constructor
    · intro _ escapes
      rcases error_of_escapes replays escapes with ⟨_, impossible⟩
      cases impossible
    · exact fun _ => honest_of_main replays

end Status

/-! ### A stream that is ASCII -/

/-- `0x` and a number of equal digits. -/
def equalDigits (count : ℕ) (digit : Char) : Str := '0' :: 'x' :: List.replicate count digit

/-- The payment of one atomic unit. -/
def flarePayment : Payment where
  payer := equalDigits 40 '1'
  payee := equalDigits 40 '2'
  nonce := equalDigits 64 '3'
  transactionHash := equalDigits 64 '4'
  logIndex := 0
  requiredAmount := 1
  payerBefore := 1
  payeeBefore := 0

/-- Its transaction was reverted. -/
def revertedOnFlare : ChainEvidence where
  chainId := 14
  finalityBlockNumber := 70000001
  finalityBlockHash := equalDigits 64 '6'
  finalityBlockTag := .finalized
  confirmations := 2
  settlementBlockNumber := 70000000
  settlementBlockHash := equalDigits 64 '5'
  transactionHash := equalDigits 64 '4'
  receiptStatus := 0
  logIndex := none
  authorizationLogIndex := none
  tokenAddress := "0xe7cd86e13ac4309349f30b3435a9d337750fc82d".toList
  tokenCodeSha256 := "e518057ee9772b6d5ad104f0c0cbae96d42e5543dcaaff3b39257089ab5fe699".toList
  implementationAddress := some "0x779ded0c9e1022225f8e0630b35a9b54be713736".toList
  implementationCodeSha256 :=
    some "6ed7b35f916bd991124be4fbfccfaa693f61f7a74800eea445fa8727463d6f44".toList
  railAttestationVersion := attestationVersion20260813
  payer := equalDigits 40 '1'
  payee := equalDigits 40 '2'
  nonce := equalDigits 64 '3'
  eventValue := none
  requiredAmount := 1
  receivedAmount := 0
  payerBalanceBefore := 1
  payerBalanceAfter := 1
  payeeBalanceBefore := 0
  payeeBalanceAfter := 0
  nonceConsumed := false
  removed := false

/-- Nothing was paid, and the system does not believe that anything was. -/
def unpaidOnFlare : ReconReport where
  generatedAt := isoformat 0
  railKey := usdt0Flare.key
  railLabel := usdt0Flare.label
  chainId := usdt0Flare.chainId
  tokenAddress := "0xe7cd86e13ac4309349f30b3435a9d337750fc82d".toList
  payer := equalDigits 40 '1'
  payee := equalDigits 40 '2'
  nonce := equalDigits 64 '3'
  sutBelievesPaid := false
  kind := "consistent_unpaid"
  severity := "ok"
  reasonCode := "PSV-RECON-CONSISTENT-UNPAID"
  message := "No funds moved and the SUT correctly treats the order as unpaid."
  isFailure := false
  evidence := revertedOnFlare

/-- It is the report of that evidence. -/
example : letI := asciiInterpreter []
    (detectPaymentDivergence ⟨false, 1, 0, 0, 0⟩ false (some 1) >>= fun divergence =>
      ReconReport.build usdt0Flare flarePayment false divergence revertedOnFlare
        ⟨true, .ok (isoformat 0)⟩) =
        .ok unpaidOnFlare := by
  decide +kernel

/-- The beginning of the calendar. -/
def beginning : Instant := ⟨0, by decide⟩

/-- Standard output has no character for the label of the rail. -/
def asciiTerminal : Environment terminal
  | _, .now => beginning
  | _, .reconcile _ _ _ => .ok unpaidOnFlare
  | _, .makeParents _ => .ok ()
  | _, .writeBytes _ _ => .ok ()
  | _, .print .stdout _ => .error .unicodeEncodeError
  | _, .print .stderr _ => .ok ()
  | _, .file question => idle [] question

/-- `psv reconcile --rail usdt0-flare --no-log` -/
def flareWithoutLog : Invocation Unit where
  rail := "usdt0-flare"
  payment := flarePayment
  sutBelievesPaid := false
  rpcUrl := []
  rpcTimeout := ()
  jsonOut := none
  mdOut := none
  logDir := none
  noLog := true

theorem short_unpaidOnFlare : ∀ n ∈ unpaidOnFlare.numbers, n.natAbs < 10 ^ maxStrDigits := by
  have below : ∀ n ∈ unpaidOnFlare.numbers, n.natAbs < 10 ^ 8 := by decide
  intro n mem
  exact (below n mem).trans_le (Nat.pow_le_pow_right (by omega) (by decide))

theorem render_unpaidOnFlare : ∃ rendered, render unpaidOnFlare = .ok rendered := by
  have valid : unpaidOnFlare.validate = .ok () := by decide +kernel
  rcases (ReconReport.toMarkdown_isOk_iff valid).mpr short_unpaidOnFlare with ⟨markdown, isMarkdown⟩
  rcases (ReconReport.toJson_isOk_iff valid).mpr short_unpaidOnFlare with ⟨json, isJson⟩
  exact ⟨(markdown.toList, json), render_eq_ok_iff.mpr ⟨markdown, isMarkdown, isJson, rfl⟩⟩

/-- Nothing diverges, and the process ends with status 1. -/
theorem asciiTerminal_dishonest : letI := asciiInterpreter []
    letI := zeroText
    letI := zeroEnvironment
    let outcome := (main flareWithoutLog none).run asciiTerminal () []
    ¬Honest flareWithoutLog none outcome.history (exitStatus outcome.result) := by
  let := asciiInterpreter []
  let := zeroText
  let := zeroEnvironment
  intro outcome honest
  rcases render_unpaidOnFlare with ⟨⟨markdown, json⟩, isRendered⟩
  have reconciles : (cmdReconcile flareWithoutLog none).Replays () [⟨.now, beginning⟩,
      ⟨.reconcile usdt0Flare flareWithoutLog.payment false, .ok unpaidOnFlare⟩,
      ⟨.print .stdout markdown, .error .unicodeEncodeError⟩] (.error .unicodeEncodeError) () := by
    refine ⟨beginning, _, rfl, ?_⟩
    refine ⟨.ok unpaidOnFlare, _, rfl, ?_⟩
    have concludes : conclude flareWithoutLog none beginning (.ok unpaidOnFlare) =
        deliver flareWithoutLog none beginning unpaidOnFlare markdown json := by
      rw [conclude, isRendered]
      rfl
    change Replays (conclude flareWithoutLog none _ (.ok unpaidOnFlare)) _ _ _ _
    rw [concludes]
    exact ⟨.error .unicodeEncodeError, [], rfl, rfl, rfl, rfl⟩
  have ran : outcome = ⟨.error .unicodeEncodeError, (), [⟨.now, beginning⟩,
      ⟨.reconcile usdt0Flare flareWithoutLog.payment false, .ok unpaidOnFlare⟩,
      ⟨.print .stdout markdown, .error .unicodeEncodeError⟩]⟩ := by
    refine (run_eq_iff _).mpr ⟨_, rfl, ⟨rfl, rfl, rfl, trivial⟩, replays_handle_iff.mpr (Or.inr ?_)⟩
    exact ⟨_, (), _, [], rfl, reconciles, rfl, rfl, rfl⟩
  rw [ran] at honest
  rcases honest.divergent rfl with ⟨report, ⟨rail, payment, believes, mem⟩, failure, _⟩
  rcases List.mem_cons.mp mem with impossible | mem
  · cases impossible
  · rcases List.mem_cons.mp mem with same | mem
    · cases same
      cases failure
    · cases List.mem_singleton.mp mem

end Cli

end Psv
