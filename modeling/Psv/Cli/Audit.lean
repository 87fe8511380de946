import Psv.Cli.Status
import Psv.Runs.Remains
import Psv.Runs.RoundTrip

/-!
# The record and the exit status

The record of a run is written before the last steps of the run: its own line in
the journal, and the print of its path.  A failure of one of them turns the exit
status into 2, and the record stays.  A record that is left at the end states the
status of its run exactly when no printed verdict was overtaken in this way
(`record_states_iff`).
-/

namespace Psv

open Python Interaction Program Document Runs Rails

namespace Cli

variable {ι : Type} {process : ι → ℕ} {i : ι} {disk later : Disk ι} {said : History terminal}

/-! ### The terminal and the directory -/

/-- The command, as call `i`, works in the directory; all else that happens leaves its records as
they are. -/
def terminalAnswers (process : ι → ℕ) (i : ι) (before : Disk ι) :
    (question : TerminalAsk) → question.Answer → Disk ι → Prop
  | .file question, answer, after =>
      amid (Leaves i) (Runs.answers process i) before question answer after
  | _, _, after => Leaves i before after

/-- A question outside of the directory. -/
def Outside : TerminalAsk → Prop
  | .file _ => False
  | _ => True

theorem through_entries {inner : History fileSystem} :
    Through (terminalAnswers process i) disk (inner.map records.entry) later ↔
      Through (amid (Leaves i) (Runs.answers process i)) disk inner later := by
  induction inner generalizing disk with
  | nil => exact Iff.rfl
  | cons entry inner ih => exact exists_congr fun middle => and_congr Iff.rfl ih

/-- Outside of the directory the records stay as they are. -/
theorem leaves_of_outside (outside : ∀ entry ∈ said, Outside entry.1)
    (through : Through (terminalAnswers process i) disk said later) : Leaves i disk later := by
  induction said generalizing disk with
  | nil =>
      cases through
      exact refl _
  | cons entry said ih =>
      rcases through with ⟨middle, answered, more⟩
      have rest := ih (fun other mem => outside other (List.mem_cons_of_mem _ mem)) more
      have here := outside entry List.mem_cons_self
      rcases entry with ⟨question, answer⟩
      have step : Leaves i disk middle := by
        cases question with
        | file question => exact absurd here id
        | _ => exact answered
      exact IsTrans.trans _ _ _ step rest

section Record

/-! ### What a record states -/

variable {φ : Type} [FloatText φ] [Interpreter]

/-- The file is a record with this exit code, which is consistent only if the code is 0. -/
def States (φ : Type) [FloatText φ] (content : Bytes) (code : ℕ) : Prop :=
  ∃ text record, readText content = .ok text ∧
    loadJson (φ := φ) text = .ok (some (.object record)) ∧
    record.lookup "exitCode".toText = some (.int code) ∧
    (record.lookup "consistent".toText = some (.bool true) → code = 0)

/-- A step that fails after the record has been flushed: of the journal, or a print. -/
def Failing : Exchange → Prop
  | ⟨.file question, answer⟩ => FailedStep ⟨question, answer⟩
  | ⟨.print _ _, answer⟩ => ∃ failure, (answer : Except PrintFailure Unit) = .error failure
  | _ => False

/-- A verdict had been printed when the record was flushed, and something failed after that. -/
def Overtaken (said : History terminal) : Prop :=
  ∃ front file rest, said = front ++ (⟨.file (.fsync file), .ok ()⟩ : Exchange) :: rest ∧
    (∃ text, (⟨.print .stdout text, .ok ()⟩ : Exchange) ∈ front) ∧ ∃ entry ∈ rest, Failing entry

variable [RunEnvironment φ] {args : Invocation φ} {noLogEnv : Option Str}
  {startedAt finishedAt : Instant} {report : Option ReconReport} {recorded code : ℕ}
  {error : Option Str} {record : Members φ}

omit [FloatText φ] [Interpreter] [RunEnvironment φ] in
theorem keyed_toDict (verdict : ReconReport) :
    (Document.object (ofMembers verdict.toDict) : Document φ).Keyed := by
  have optionalTexts : ∀ text, (ofJson (ReconReport.optionalText text) : Document φ).Keyed := by
    rintro (_ | text)
    · trivial
    · trivial
  have optionalInts : ∀ n, (ofJson (ReconReport.optionalInt n) : Document φ).Keyed := by
    rintro (_ | n)
    · trivial
    · trivial
  simp only [ReconReport.toDict, ReconReport.evidenceDict, ofMembers, ofJson, Keyed, KeyedMembers,
    optionalTexts, optionalInts, List.map_cons, List.map_nil, and_true, true_and]
  decide

omit [FloatText φ] [Interpreter] [RunEnvironment φ] in
theorem keyed_inputsOf (args : Invocation φ) : (Document.object (inputsOf args)).Keyed := by
  simp only [inputsOf, Keyed, KeyedMembers, List.map_cons, List.map_nil, and_true]
  decide

/-- The record of a run states the code that it was built with. -/
theorem states_iff {content : Bytes}
    (built : buildRunRecord (runOf args startedAt finishedAt report recorded error) = .ok record)
    (isLine : lineOf .indented (.object record) = .ok (payloadOf record))
    (same : content = payloadOf record) : States φ content code ↔ code = recorded := by
  have keyed : (Document.object record).Keyed := by
    apply keyed_buildRunRecord (keyed_inputsOf args) _ built
    intro members isReport
    rcases report with _ | verdict
    · cases isReport
    · cases isReport
      exact keyed_toDict verdict
  rcases lookup_built built with ⟨isCode, isConsistent⟩
  rcases read_record keyed (verified_of_built built) isLine with ⟨text, isRead, isLoaded⟩
  subst same
  constructor
  · rintro ⟨other, members, isOther, loaded, states, _⟩
    rw [isRead] at isOther
    cases isOther
    rw [isLoaded] at loaded
    cases loaded
    rw [isCode] at states
    have sameCode : ((recorded : ℕ) : ℤ) = code := Document.int.inj (Option.some.inj states)
    exact (Int.ofNat_inj.mp sameCode).symm
  · rintro rfl
    refine ⟨text, record, isRead, isLoaded, isCode, ?_⟩
    rw [isConsistent]
    intro consistent
    simp only [Option.some.injEq, Document.bool.injEq, Bool.and_eq_true,
      decide_eq_true_eq] at consistent
    have isZero : ((code : ℕ) : ℤ) = 0 := consistent.2
    exact Int.ofNat_eq_zero.mp isZero

/-! ### Where the record is written -/

/-- A stretch of the run in which a record with this code is written. -/
structure Recording (args : Invocation φ) (recorded : ℕ) (front : History terminal)
    (inner : History fileSystem) (back : History terminal) (outcome : Except RunError Str) : Prop where
  before : ∀ entry ∈ front, Outside entry.1
  behind : ∀ entry ∈ back, Outside entry.1
  written : ∃ startedAt finishedAt report error record,
    buildRunRecord (runOf args startedAt finishedAt report recorded error) = .ok record ∧
      (writeRunRecord record).Replays () inner outcome ()

/-- Nothing fails: the call returns, and no later print fails. -/
def Clean (outcome : Except RunError Str) (back : History terminal) : Prop :=
  (∃ name, outcome = .ok name) ∧ ∀ entry ∈ back, ¬Failing entry

omit [Interpreter] in
theorem print_pure_cases {stream : Stream} {text : Str} {value : Bool}
    {result : Except CliError Bool}
    (replays : ((print stream text) >>= fun _ => pure value : Command Bool).Replays ()
      said result ()) :
    ∃ answer, said = [(⟨.print stream text, answer⟩ : Exchange)] ∧
      (answer = .ok () ∧ result = .ok value ∨
        (∃ failure, answer = .error failure) ∧ ∃ raised, result = .error raised) := by
  rcases replays with ⟨answer, rest, rfl, continues⟩
  rcases answer with (message | _) | _
  · rcases continues with ⟨rfl, rfl, _⟩
    exact ⟨_, rfl, Or.inr ⟨⟨_, rfl⟩, _, rfl⟩⟩
  · rcases continues with ⟨rfl, rfl, _⟩
    exact ⟨_, rfl, Or.inr ⟨⟨_, rfl⟩, _, rfl⟩⟩
  · rcases continues with ⟨rfl, rfl, _⟩
    exact ⟨_, rfl, Or.inl ⟨rfl, rfl⟩⟩

/-- No record is begun; or one is, and then auditing succeeds exactly when nothing fails. -/
theorem writeRecord_recording {logDir : Option Str} {result : Except CliError Bool}
    (replays : (writeRecord args logDir startedAt report recorded error).Replays ()
      said result ()) :
    (∀ entry ∈ said, Outside entry.1) ∨
      ∃ finishedAt inner back outcome, said = [⟨.now, finishedAt⟩] ++ inner.map records.entry ++ back ∧
        Recording args recorded [⟨.now, finishedAt⟩] inner back outcome ∧
        (result = .ok true ∧ Clean outcome back ∨ result ≠ .ok true ∧ ¬Clean outcome back) := by
  rcases logDir with _ | directory
  · rcases replays with ⟨rfl, _, _⟩
    exact Or.inl (List.forall_mem_nil _)
  · rcases writeRecord_cases replays with ⟨finishedAt, front, back, outcome, rfl, persists, ends⟩
    have printed : ∃ stream text answer, back = [(⟨.print stream text, answer⟩ : Exchange)] ∧
        (answer = .ok () ∧ (result = .ok true ↔ ∃ name, outcome = .ok name) ∨
          (∃ failure, answer = .error failure) ∧ ∃ raised, result = .error raised) := by
      rcases outcome with raised | name
      · rcases ends with ⟨text, prints⟩
        rcases print_pure_cases prints with ⟨answer, rfl, ⟨rfl, rfl⟩ | failed⟩
        · exact ⟨_, _, _, rfl, Or.inl ⟨rfl, by simp⟩⟩
        · exact ⟨_, _, _, rfl, Or.inr failed⟩
      · rcases print_pure_cases ends with ⟨answer, rfl, ⟨rfl, rfl⟩ | failed⟩
        · exact ⟨_, _, _, rfl, Or.inl ⟨rfl, by simp⟩⟩
        · exact ⟨_, _, _, rfl, Or.inr failed⟩
    rcases printed with ⟨stream, text, answer, rfl, isResult⟩
    have outside : ∀ entry ∈ [(⟨.print stream text, answer⟩ : Exchange)], Outside entry.1 := by
      intro entry mem
      rw [List.mem_singleton.mp mem]
      trivial
    have isNow : ∀ entry ∈ [(⟨.now, finishedAt⟩ : Exchange)], Outside entry.1 := by
      intro entry mem
      rw [List.mem_singleton.mp mem]
      trivial
    rcases persist_cases persists with ⟨rfl, _⟩ | ⟨record, inner, written, built, rfl, writes, rfl⟩
    · left
      intro entry mem
      rcases List.mem_cons.mp mem with rfl | mem
      · trivial
      · exact outside entry mem
    · refine Or.inr ⟨finishedAt, inner, _, written, rfl,
        ⟨isNow, outside, startedAt, finishedAt, report, error, record, built, writes⟩, ?_⟩
      have returned : (∃ name, written.mapError CliError.ofRun = .ok name) ↔
          ∃ name, written = .ok name := exists_congr fun _ => mapError_eq_ok_iff
      rw [returned] at isResult
      have only : (∀ entry ∈ [(⟨.print stream text, answer⟩ : Exchange)], ¬Failing entry) ↔
          ¬∃ failure, answer = .error failure := by
        constructor
        · exact fun none_ => none_ _ (List.mem_singleton_self _)
        · intro none_ entry mem
          rw [List.mem_singleton.mp mem]
          exact none_
      rw [Clean, only]
      rcases isResult with ⟨rfl, isTrue⟩ | ⟨failed, raised, rfl⟩
      · by_cases isName : ∃ name, written = .ok name
        · exact Or.inl ⟨isTrue.mpr isName, isName, by simp⟩
        · exact Or.inr ⟨fun same => isName (isTrue.mp same), fun both => isName both.1⟩
      · exact Or.inr ⟨by simp, fun both => both.2 failed⟩

/-- What is known of the record when the command has ended: no record was begun; or one of a
failure, before any verdict was printed; or one of a verdict that had been printed. -/
def Recorded (args : Invocation φ) (said : History terminal) (result : Except CliError ℕ) : Prop :=
  (∀ entry ∈ said, Outside entry.1) ∨
    ∃ front inner back outcome recorded, said = front ++ inner.map records.entry ++ back ∧
      recorded ≤ 2 ∧ Recording args recorded front inner back outcome ∧
      ((recorded = 2 ∧ (∀ code, result = .ok code → code = 2) ∧
          ∀ text, (⟨.print .stdout text, .ok ()⟩ : Exchange) ∉ front) ∨
        recorded ≠ 2 ∧ (∃ text, (⟨.print .stdout text, .ok ()⟩ : Exchange) ∈ front) ∧
          (result = .ok recorded ∧ Clean outcome back ∨
            (∀ code, result = .ok code → code = 2) ∧ ¬Clean outcome back))

/-- An exchange that neither prints nor has to do with the directory. -/
def Silent (entry : Exchange) : Prop :=
  Outside entry.1 ∧ ∀ stream text, entry.1 ≠ TerminalAsk.print stream text

theorem Recorded.after {result : Except CliError ℕ} {front : History terminal}
    (recorded : Recorded args said result) (silent : ∀ entry ∈ front, Silent entry) :
    Recorded args (front ++ said) result := by
  rcases recorded with outside | ⟨before, inner, back, outcome, code, rfl, small, recording, how⟩
  · left
    intro entry mem
    rcases List.mem_append.mp mem with mem | mem
    · exact (silent entry mem).1
    · exact outside entry mem
  · refine Or.inr ⟨front ++ before, inner, back, outcome, code, by simp, small,
      ⟨?_, recording.behind, recording.written⟩, ?_⟩
    · intro entry mem
      rcases List.mem_append.mp mem with mem | mem
      · exact (silent entry mem).1
      · exact recording.before entry mem
    · rcases how with ⟨isTwo, ends, unsaid⟩ | ⟨notTwo, ⟨text, printed⟩, ends⟩
      · refine Or.inl ⟨isTwo, ends, ?_⟩
        intro text mem
        rcases List.mem_append.mp mem with mem | mem
        · exact (silent _ mem).2 _ _ rfl
        · exact unsaid text mem
      · exact Or.inr ⟨notTwo, ⟨text, List.mem_append_right _ printed⟩, ends⟩

omit [Interpreter] [RunEnvironment φ] in
theorem asks_outside_print (stream : Stream) (text : Str) : (print stream text).Asks Outside := by
  refine ⟨trivial, ?_⟩
  rintro ((_ | _) | _)
  · trivial
  · trivial
  · trivial

omit [FloatText φ] [Interpreter] [RunEnvironment φ] in
theorem unsaid_now (moment : Instant) (text : Str) :
    (⟨.print .stdout text, .ok ()⟩ : Exchange) ∉ [⟨.now, moment⟩] := by
  intro mem
  cases List.mem_singleton.mp mem

theorem giveUp_recorded {logDir : Option Str} {message : Str} {result : Except CliError ℕ}
    (replays : (giveUp args logDir startedAt report message).Replays () said result ()) :
    Recorded args said result := by
  have isTwo : ∀ {logged : History terminal}, (print .stderr message >>= fun _ =>
      pure 2 : Command ℕ).Replays () logged result () → ∀ code, result = .ok code → code = 2 := by
    rintro logged prints code rfl
    rcases replays_bind_ok_iff.mp prints with ⟨_, _, _, _, _, _, _, same, _⟩
    exact Except.ok.inj same
  have prints : (print .stderr message >>= fun _ => pure 2 : Command ℕ).Asks Outside :=
    (asks_outside_print _ _).bind fun _ => trivial
  rcases replays_bind_iff.mp replays with
    ⟨logged, _, first, second, rfl, writes, ends⟩ | ⟨raised, rfl, writes⟩
  · have later := prints.of_mem ends
    rcases writeRecord_recording writes with outside |
      ⟨finishedAt, inner, back, outcome, rfl, recording, _⟩
    · left
      intro entry mem
      rcases List.mem_append.mp mem with mem | mem
      · exact outside entry mem
      · exact later entry mem
    · refine Or.inr ⟨_, inner, back ++ second, outcome, 2, by simp, le_refl _,
        ⟨recording.before, ?_, recording.written⟩, Or.inl ⟨rfl, isTwo ends, unsaid_now _⟩⟩
      intro entry mem
      rcases List.mem_append.mp mem with mem | mem
      · exact recording.behind entry mem
      · exact later entry mem
  · rcases writeRecord_recording writes with outside |
      ⟨finishedAt, inner, back, outcome, rfl, recording, _⟩
    · exact Or.inl outside
    · exact Or.inr ⟨_, inner, back, outcome, 2, rfl, le_refl _, recording,
        Or.inl ⟨rfl, by simp, unsaid_now _⟩⟩

omit [FloatText φ] [Interpreter] [RunEnvironment φ] in
theorem exitCode_lt (verdict : ReconReport) : verdict.exitCode < 2 := by
  unfold ReconReport.exitCode
  split_ifs
  · omega
  · omega

omit [FloatText φ] [Interpreter] [RunEnvironment φ] in
theorem said_of_print {stream : Stream} {text : Str}
    (replays : (print stream text).Replays () said (.ok ()) ()) :
    (⟨.print stream text, .ok ()⟩ : Exchange) ∈ said := by
  rcases replays with ⟨answer, rest, rfl, continues⟩
  rcases answer with (message | _) | _
  · cases continues.2.1
  · cases continues.2.1
  · exact List.mem_cons_self

/-- The last step of a run that finishes. -/
theorem finish_audited {logDir : Option Str} {verdict : ReconReport} {result : Except CliError ℕ}
    (replays : (writeRecord args logDir startedAt (some verdict) verdict.exitCode none >>=
      fun logged => if logged = false then pure 2 else pure verdict.exitCode :
        Command ℕ).Replays () said result ()) :
    ∃ audited, (writeRecord args logDir startedAt (some verdict) verdict.exitCode none).Replays ()
        said audited () ∧
      (audited = .ok true → result = .ok verdict.exitCode) ∧
      (audited ≠ .ok true → ∀ code, result = .ok code → code = 2) := by
  rcases replays_bind_iff.mp replays with
    ⟨logged, _, first, second, rfl, writes, ends⟩ | ⟨raised, rfl, writes⟩
  · rcases logged with _ | _
    · rcases ends with ⟨rfl, rfl, _⟩
      rw [List.append_nil]
      exact ⟨_, writes, by simp, by simp⟩
    · rcases ends with ⟨rfl, rfl, _⟩
      rw [List.append_nil]
      exact ⟨_, writes, by simp, by simp⟩
  · exact ⟨_, writes, by simp, by simp⟩

theorem finish_recorded {logDir : Option Str} {verdict : ReconReport} {markdown : Str}
    {result : Except CliError ℕ}
    (replays : (finish args logDir startedAt verdict markdown).Replays () said result ()) :
    Recorded args said result := by
  have prints : (print .stdout markdown).Asks Outside := asks_outside_print _ _
  have announces : ∀ label path, (announce label path).Asks Outside := by
    intro label path
    rcases path with _ | path
    · trivial
    · exact asks_outside_print _ _
  rcases replays_bind_iff.mp replays with
    ⟨_, _, first, rest, rfl, shown, replays⟩ | ⟨raised, rfl, shown⟩
  · rcases replays_bind_iff.mp replays with
      ⟨_, _, second, rest, rfl, json, replays⟩ | ⟨raised, rfl, json⟩
    · rcases replays_bind_iff.mp replays with
        ⟨_, _, third, rest, rfl, written, replays⟩ | ⟨raised, rfl, written⟩
      · have outside : ∀ entry ∈ first ++ (second ++ third), Outside entry.1 :=
          List.forall_mem_append.mpr ⟨prints.of_mem shown, List.forall_mem_append.mpr
            ⟨(announces _ _).of_mem json, (announces _ _).of_mem written⟩⟩
        have isPrinted : (⟨.print .stdout markdown, .ok ()⟩ : Exchange) ∈
            first ++ (second ++ third) := List.mem_append_left _ (said_of_print shown)
        rcases finish_audited replays with ⟨audited, writes, isResult⟩
        rcases writeRecord_recording writes with more |
          ⟨finishedAt, inner, back, outcome, rfl, recording, isAudited⟩
        · left
          rw [← List.append_assoc second, ← List.append_assoc first]
          exact List.forall_mem_append.mpr ⟨outside, more⟩
        · refine Or.inr ⟨first ++ (second ++ third) ++ [⟨.now, finishedAt⟩], inner, back, outcome,
            verdict.exitCode, by simp, (exitCode_lt verdict).le, ⟨List.forall_mem_append.mpr
              ⟨outside, recording.before⟩, recording.behind, recording.written⟩, Or.inr
            ⟨(exitCode_lt verdict).ne, ⟨markdown, List.mem_append_left _ isPrinted⟩, ?_⟩⟩
          rcases isAudited with ⟨rfl, clean⟩ | ⟨failed, unclean⟩
          · exact Or.inl ⟨isResult.1 rfl, clean⟩
          · exact Or.inr ⟨isResult.2 failed, unclean⟩
      · exact Or.inl (List.forall_mem_append.mpr ⟨prints.of_mem shown, List.forall_mem_append.mpr
          ⟨(announces _ _).of_mem json, (announces _ _).of_mem written⟩⟩)
    · exact Or.inl (List.forall_mem_append.mpr
        ⟨prints.of_mem shown, (announces _ _).of_mem json⟩)
  · exact Or.inl (prints.of_mem shown)

omit [Interpreter] [RunEnvironment φ] in
theorem silent_of_writesReports (writes : ∀ entry ∈ said, WritesReports entry.1) :
    ∀ entry ∈ said, Silent entry := by
  intro entry mem
  rcases entry with ⟨question, answer⟩
  rcases writes _ mem with ⟨path, same⟩ | ⟨path, data, same⟩
  · cases same
    exact ⟨trivial, fun _ _ => TerminalAsk.noConfusion⟩
  · cases same
    exact ⟨trivial, fun _ _ => TerminalAsk.noConfusion⟩

theorem conclude_recorded {logDir : Option Str} {answer : Except Str ReconReport}
    {result : Except CliError ℕ}
    (replays : (conclude args logDir startedAt answer).Replays () said result ()) :
    Recorded args said result := by
  rcases conclude_cases replays with ⟨text, message, rfl, gaveUp⟩ | ⟨verdict, rfl, ended⟩
  · exact giveUp_recorded gaveUp
  · rcases ended with ⟨_, rfl, _⟩ | ⟨markdown, json, _, _, delivers⟩
    · exact Or.inl (List.forall_mem_nil _)
    · rcases deliver_cases delivers with
        ⟨front, back, rfl, writes, ⟨message, gaveUp⟩ | ⟨_, _, finishes⟩⟩
      · exact (giveUp_recorded gaveUp).after (silent_of_writesReports writes)
      · exact (finish_recorded finishes).after (silent_of_writesReports writes)

theorem cmdReconcile_recorded {result : Except CliError ℕ}
    (replays : (cmdReconcile args noLogEnv).Replays () said result ()) :
    Recorded args said result := by
  rcases cmdReconcile_cases replays with ⟨startedAt, rest, rfl, ⟨message, _, prints⟩ | ended⟩
  · have asks : (print .stderr message >>= fun _ => pure 2 : Command ℕ).Asks Outside :=
      (asks_outside_print _ _).bind fun _ => trivial
    left
    intro entry mem
    rcases List.mem_cons.mp mem with rfl | mem
    · trivial
    · exact asks.of_mem prints entry mem
  · rcases ended with ⟨rail, answer, back, _, rfl, concludes⟩
    have silent : ∀ entry ∈ ([⟨.now, startedAt⟩,
        ⟨.reconcile rail args.payment args.sutBelievesPaid, answer⟩] : History terminal),
          Silent entry := by
      intro entry mem
      rcases List.mem_cons.mp mem with rfl | mem
      · exact ⟨trivial, fun _ _ => TerminalAsk.noConfusion⟩
      · rw [List.mem_singleton.mp mem]
        exact ⟨trivial, fun _ _ => TerminalAsk.noConfusion⟩
    exact (conclude_recorded concludes).after silent

theorem main_recorded (replays : (main args noLogEnv).Replays () said (.ok code) ()) :
    Recorded args said (.ok code) := by
  rcases main_cases replays with ⟨front, back, inner, rfl, ran, ⟨rfl, same, _⟩ | complained⟩
  · rw [same, List.append_nil]
    exact cmdReconcile_recorded ran
  · rcases complained with ⟨message, rfl, complains⟩
    have isTwo : code = 2 := by
      rcases replays_bind_ok_iff.mp complains with ⟨_, _, _, _, _, _, _, same, _⟩
      exact Except.ok.inj same
    have asks : (complain message >>= fun _ => pure 2 : Command ℕ).Asks Outside := by
      apply Asks.bind
      · apply (asks_outside_print _ _).handle
        rintro (_ | _ | _ | _)
        · trivial
        · trivial
        · trivial
        · trivial
      · exact fun _ => trivial
    have later := asks.of_mem complains
    rcases cmdReconcile_recorded ran with outside |
      ⟨before, written, after, outcome, recorded, rfl, small, recording, how⟩
    · exact Or.inl (List.forall_mem_append.mpr ⟨outside, later⟩)
    · refine Or.inr ⟨before, written, after ++ back, outcome, recorded, by simp, small,
        ⟨recording.before, List.forall_mem_append.mpr ⟨recording.behind, later⟩,
          recording.written⟩, ?_⟩
      rcases how with ⟨same, _, unsaid⟩ | ⟨notTwo, printed, ⟨impossible, _⟩ | ⟨_, unclean⟩⟩
      · exact Or.inl ⟨same, by simp [isTwo], unsaid⟩
      · cases impossible
      · refine Or.inr ⟨notTwo, printed, Or.inr ⟨by simp [isTwo], ?_⟩⟩
        rintro ⟨returned, clean⟩
        exact unclean ⟨returned, fun entry mem => clean entry (List.mem_append_left _ mem)⟩

/-! ### What was overtaken -/

/-- A flush of a file. -/
def Flushed (said : History terminal) : Prop :=
  ∃ file, (⟨.file (.fsync file), .ok ()⟩ : Exchange) ∈ said

omit [FloatText φ] [Interpreter] [RunEnvironment φ] in
theorem not_flushed_of_outside (outside : ∀ entry ∈ said, Outside entry.1) : ¬Flushed said :=
  fun ⟨_, mem⟩ => outside _ mem

omit [FloatText φ] [Interpreter] [RunEnvironment φ] in
theorem not_overtaken_of_not_flushed (unflushed : ¬Flushed said) : ¬Overtaken said := by
  rintro ⟨front, file, rest, rfl, _⟩
  exact unflushed ⟨file, List.mem_append_right _ List.mem_cons_self⟩

omit [FloatText φ] [Interpreter] [RunEnvironment φ] in
/-- After the first flush, of a record whose verdict has been printed, it is overtaken by whatever
fails. -/
theorem overtaken_iff {front rest : History terminal} {file : ℕ} (unflushed : ¬Flushed front)
    (printed : ∃ text, (⟨.print .stdout text, .ok ()⟩ : Exchange) ∈ front) :
    Overtaken (front ++ (⟨.file (.fsync file), .ok ()⟩ : Exchange) :: rest) ↔
      ∃ entry ∈ rest, Failing entry := by
  constructor
  · rintro ⟨before, other, after, same, _, entry, mem, failing⟩
    refine ⟨entry, ?_, failing⟩
    rcases List.append_eq_append_iff.mp same with ⟨middle, rfl, tail⟩ | ⟨middle, rfl, tail⟩
    · rcases middle with _ | ⟨first, middle⟩
      · cases tail
        exact mem
      · rw [List.cons_append, List.cons.injEq] at tail
        rw [tail.2]
        exact List.mem_append_right _ (List.mem_cons_of_mem _ mem)
    · rcases middle with _ | ⟨first, middle⟩
      · cases tail
        exact mem
      · rw [List.cons_append, List.cons.injEq] at tail
        rw [← tail.1] at unflushed
        exact absurd ⟨other, List.mem_append_right _ List.mem_cons_self⟩ unflushed
  · exact fun failed => ⟨front, file, rest, rfl, printed, failed⟩

omit [FloatText φ] [Interpreter] [RunEnvironment φ] in
/-- Nothing is overtaken when no verdict had been printed. -/
theorem not_overtaken_of_unsaid {front back : History terminal} {inner : History fileSystem}
    (unsaid : ∀ text, (⟨.print .stdout text, .ok ()⟩ : Exchange) ∉ front)
    (behind : ∀ entry ∈ back, Outside entry.1) :
    ¬Overtaken (front ++ inner.map records.entry ++ back) := by
  rintro ⟨before, file, after, same, ⟨text, mem⟩, _⟩
  have unsaidAll : (⟨.print .stdout text, .ok ()⟩ : Exchange) ∉ front ++ inner.map records.entry := by
    intro mem
    rcases List.mem_append.mp mem with mem | mem
    · exact unsaid text mem
    · rcases List.mem_map.mp mem with ⟨entry, _, impossible⟩
      cases impossible
  rcases List.append_eq_append_iff.mp same with ⟨middle, rfl, tail⟩ | ⟨middle, isFront, tail⟩
  · rw [tail] at behind
    exact behind ⟨.file (.fsync file), .ok ()⟩ (List.mem_append_right _ List.mem_cons_self)
  · rw [isFront] at unsaidAll
    exact unsaidAll (List.mem_append_left _ mem)

omit [FloatText φ] [Interpreter] [RunEnvironment φ] in
theorem not_flushed_entries {inner : History fileSystem} (unsynced : Unsynced inner) :
    ¬Flushed (inner.map records.entry) := by
  rintro ⟨file, mem⟩
  rcases List.mem_map.mp mem with ⟨entry, isEntry, same⟩
  rcases entry with ⟨question, answer⟩
  cases same
  exact unsynced file isEntry

omit [FloatText φ] [Interpreter] [RunEnvironment φ] in
theorem not_flushed_append {first second : History terminal} (unflushed : ¬Flushed first)
    (other : ¬Flushed second) : ¬Flushed (first ++ second) := by
  rintro ⟨file, mem⟩
  rcases List.mem_append.mp mem with mem | mem
  · exact unflushed ⟨file, mem⟩
  · exact other ⟨file, mem⟩

omit [FloatText φ] [Interpreter] [RunEnvironment φ] in
/-- Nothing fails after the flush: no step of the journal and no print. -/
theorem clean_iff {outcome : Except RunError Str} {appending : History fileSystem}
    {back : History terminal} {file : ℕ}
    (fails : (∃ error, outcome = .error error) ↔ ∃ entry ∈ appending, FailedStep entry) :
    Clean outcome back ↔ ¬∃ entry ∈ (⟨.file (.close file), ()⟩ : Exchange) ::
      appending.map records.entry ++ back, Failing entry := by
  have journal : (∃ entry ∈ appending.map records.entry, Failing entry) ↔
      ∃ entry ∈ appending, FailedStep entry := by
    constructor
    · rintro ⟨entry, mem, failing⟩
      rcases List.mem_map.mp mem with ⟨part, isPart, rfl⟩
      exact ⟨part, isPart, failing⟩
    · rintro ⟨part, isPart, failed⟩
      exact ⟨_, List.mem_map_of_mem isPart, failed⟩
  have returned : (∃ name, outcome = .ok name) ↔ ¬∃ error, outcome = .error error := by
    rcases outcome with error | name
    · simp
    · simp
  rw [Clean, returned, fails, ← journal]
  constructor
  · rintro ⟨calm, prints⟩ ⟨entry, mem, failing⟩
    rcases List.mem_append.mp mem with mem | mem
    · rcases List.mem_cons.mp mem with rfl | mem
      · exact failing
      · exact calm ⟨entry, mem, failing⟩
    · exact prints entry mem failing
  · intro calm
    refine ⟨?_, ?_⟩
    · rintro ⟨entry, mem, failing⟩
      exact calm ⟨entry, List.mem_append_left _ (List.mem_cons_of_mem _ mem), failing⟩
    · exact fun entry mem failing => calm ⟨entry, List.mem_append_right _ mem, failing⟩

/-! ### The record on the disk -/

/-- The directory before and after the stretch in which the record is written. -/
theorem exists_stretch {front back : History terminal} {inner : History fileSystem}
    {outcome : Except RunError Str} (recording : Recording args recorded front inner back outcome)
    (unowned : ∀ file, disk.owner file = none)
    (through : Through (terminalAnswers process i) disk
      (front ++ inner.map records.entry ++ back) later) :
    ∃ first second, Sound first ∧ (∀ file, first.owner file ≠ some i) ∧
      Through (amid (Leaves i) (Runs.answers process i)) first inner second ∧
      Leaves i second later := by
  rcases through_append_iff.mp through with ⟨second, throughTwo, throughBack⟩
  rcases through_append_iff.mp throughTwo with ⟨first, throughFront, throughInner⟩
  have leaves := leaves_of_outside recording.before throughFront
  refine ⟨first, second, leaves.sound fun file named => ⟨named, unowned file⟩, ?_,
    through_entries.mp throughInner, leaves_of_outside recording.behind throughBack⟩
  intro file owned
  have ownedBefore := (leaves.owner file).mp owned
  rw [unowned] at ownedBefore
  cases ownedBefore

omit [RunEnvironment φ] in
/-- A record that was not created is not there. -/
theorem nothing_left_behind {inner : History fileSystem} {first second : Disk ι} {raised : RunError}
    (sound : Sound first) (fresh : ∀ file, first.owner file ≠ some i)
    (creates : (createRecord record).Replays () inner (.error raised) ())
    (through : Through (amid (Leaves i) (Runs.answers process i)) first inner second)
    (leaves : Leaves i second later) {name : Str} {file : ℕ} (owned : later.owner file = some i) :
    later.names name ≠ some file := by
  intro named
  have ownedThen := (leaves.owner file).mp owned
  exact nothing_left sound fresh creates through ownedThen
    ((leaves.names file name ownedThen).mp named)

/-- A record that was created is there whatever happens after its flush, and it states the code that
it was built with. -/
theorem states_of_created {created appending : History fileSystem} {first second : Disk ι}
    {path : Str} {line : Bytes} {appended : Except RunError Unit}
    (built : buildRunRecord (runOf args startedAt finishedAt report recorded error) = .ok record)
    (sound : Sound first) (fresh : ∀ file, first.owner file ≠ some i)
    (creates : (createRecord record).Replays () created (.ok path) ())
    (appends : (appendJournal journalName line).Replays () appending appended ())
    (through : Through (amid (Leaves i) (Runs.answers process i)) first (created ++ appending) second)
    (leaves : Leaves i second later) :
    (∀ name file, later.owner file = some i → later.names name = some file →
      States φ (later.content file) code) ↔ code = recorded := by
  rcases record_left sound fresh creates appends through with ⟨isLine, ⟨kept, owned, named⟩, all⟩
  constructor
  · intro states
    apply (states_iff built isLine _).mp (states path kept ((leaves.owner kept).mpr owned)
      ((leaves.names kept path owned).mpr named))
    rw [leaves.content kept owned]
    exact all kept path owned named
  · intro same name file isOwned isNamed
    have ownedThen := (leaves.owner file).mp isOwned
    apply (states_iff built isLine _).mpr same
    rw [leaves.content file ownedThen]
    exact all file name ownedThen ((leaves.names file name ownedThen).mp isNamed)

omit [RunEnvironment φ] in
/-- A printed verdict whose record was created is overtaken exactly when the rest is not clean. -/
theorem overtaken_of_created {front back : History terminal} {created appending : History fileSystem}
    {path : Str} {line : Bytes} {appended : Except RunError Unit} {outcome : Except RunError Str}
    (outside : ∀ entry ∈ front, Outside entry.1)
    (printed : ∃ text, (⟨.print .stdout text, .ok ()⟩ : Exchange) ∈ front)
    (creates : (createRecord record).Replays () created (.ok path) ())
    (appends : (appendJournal journalName line).Replays () appending appended ())
    (fails : (∃ error, outcome = .error error) ↔ ∃ error, appended = .error error) :
    Clean outcome back ↔
      ¬Overtaken (front ++ (created ++ appending).map records.entry ++ back) := by
  rcases createRecord_ends creates with ⟨before, file, rfl, unsynced⟩
  have shape : front ++ ((before ++ [(⟨.fsync file, .ok ()⟩ : Entry), ⟨.close file, ()⟩]) ++
      appending).map records.entry ++ back =
      (front ++ before.map records.entry) ++ (⟨.file (.fsync file), .ok ()⟩ : Exchange) ::
        ((⟨.file (.close file), ()⟩ : Exchange) :: appending.map records.entry ++ back) := by
    simp only [List.map_append, List.map_cons, List.append_assoc, List.cons_append,
      List.nil_append]
    rfl
  rw [shape, overtaken_iff (not_flushed_append (not_flushed_of_outside outside)
    (not_flushed_entries unsynced)) (printed.imp fun text mem => List.mem_append_left _ mem)]
  exact clean_iff (fails.trans (appendJournal_appending appends).fails)

/-! ### The theorem -/

/-- A record of the run that is left when `main` returns states what `main` returned, exactly when
no printed verdict was overtaken by a failure. -/
theorem record_states_iff (unowned : ∀ file, disk.owner file = none)
    (replays : (main args noLogEnv).Replays () said (.ok code) ())
    (through : Through (terminalAnswers process i) disk said later) :
    (∀ name file, later.owner file = some i → later.names name = some file →
        States φ (later.content file) code) ↔ ¬Overtaken said := by
  rcases main_recorded replays with outside |
    ⟨front, inner, back, outcome, recorded, rfl, small, recording, how⟩
  · have leaves := leaves_of_outside outside through
    refine iff_of_true ?_ (not_overtaken_of_not_flushed (not_flushed_of_outside outside))
    intro name file owned
    have ownedBefore := (leaves.owner file).mp owned
    rw [unowned] at ownedBefore
    cases ownedBefore
  · rcases recording.written with ⟨started, finished, report, error, record, built, writes⟩
    rcases exists_stretch recording unowned through with
      ⟨first, second, sound, fresh, throughInner, leaves⟩
    have short : ((recorded : ℕ) : ℤ).natAbs < 10 ^ maxStrDigits :=
      (Int.natAbs_natCast recorded).trans_lt (small.trans_lt
        (lt_of_lt_of_le (by omega : 2 < 10 ^ 1) (Nat.pow_le_pow_right (by omega) (by decide))))
    rcases writeRunRecord_cases built short writes with
      ⟨raised, rfl, creates⟩ | ⟨path, line, created, appending, appended, rfl, creates, appends, fails⟩
    · -- the record was not created: there is no flush and no record
      have unflushed : ¬Flushed (front ++ inner.map records.entry ++ back) :=
        not_flushed_append (not_flushed_append (not_flushed_of_outside recording.before)
          (not_flushed_entries (createRecord_ends creates).1))
          (not_flushed_of_outside recording.behind)
      refine iff_of_true ?_ (not_overtaken_of_not_flushed unflushed)
      intro name file owned named
      exact absurd named (nothing_left_behind sound fresh creates throughInner leaves owned)
    · rw [states_of_created built sound fresh creates appends throughInner leaves]
      rcases how with ⟨same, ends, unsaid⟩ | ⟨notTwo, printed, ends⟩
      · rw [same]
        exact iff_of_true (ends code rfl) (not_overtaken_of_unsaid unsaid recording.behind)
      · rw [← overtaken_of_created recording.before printed creates appends fails]
        rcases ends with ⟨same, clean⟩ | ⟨isTwo, unclean⟩
        · exact iff_of_true (Except.ok.inj same) clean
        · refine iff_of_false ?_ unclean
          rw [isTwo code rfl]
          exact notTwo.symm

end Record

/-! ### A journal that takes nothing -/

section Unaudited

variable {φ : Type} [FloatText φ] [Interpreter] [RunEnvironment φ] {args : Invocation φ}
  {startedAt finishedAt : Instant} {report : Option ReconReport} {recorded : ℕ} {error : Option Str}
  {record : Members φ} {message directory : Str} {inner : History fileSystem}

/-- What is said when the record of a run could not be written. -/
def auditError (finishedAt : Instant) (inner : History fileSystem) (message : Str) :
    History terminal :=
  (⟨.now, finishedAt⟩ : Exchange) :: (inner.map records.entry ++
    [⟨.print .stderr ("audit-record error: ".toList ++ message), .ok ()⟩])

theorem replays_unaudited
    (built : buildRunRecord (runOf args startedAt finishedAt report recorded error) = .ok record)
    (writes : (writeRunRecord record).Replays () inner (.error (.file (.os message))) ()) :
    (writeRecord args (some directory) startedAt report recorded error).Replays ()
      (auditError finishedAt inner message) (.ok false) () := by
  have persists : (persist (runOf args startedAt finishedAt report recorded error)).Replays ()
      (inner.map records.entry) (.error (.os message)) () := by
    rw [persist, built]
    exact replays_embed_iff.mpr ⟨_, _, rfl, writes, rfl⟩
  refine ⟨finishedAt, _, rfl, ?_⟩
  exact replays_attempt_bind_iff.mpr ⟨_, (), _, _, rfl, persists, .ok (), [], rfl, rfl, rfl, rfl⟩

omit [FloatText φ] [Interpreter] [RunEnvironment φ] in
theorem through_unaudited
    (through : Through (amid (Leaves i) (Runs.answers process i)) disk inner later) :
    Through (terminalAnswers process i) disk (auditError finishedAt inner message) later :=
  ⟨disk, refl _, through_append_iff.mpr ⟨later, through_entries.mpr through, later, refl _, rfl⟩⟩

/-- A verdict that is only printed, and its record could not be written. -/
theorem replays_finish_unaudited {verdict : ReconReport} {markdown : Str} {audit : History terminal}
    (json : args.jsonOut = none) (written : args.mdOut = none)
    (audits : (writeRecord args (some directory) startedAt (some verdict) verdict.exitCode
      none).Replays () audit (.ok false) ()) :
    (finish args (some directory) startedAt verdict markdown).Replays ()
      (⟨.print .stdout markdown, .ok ()⟩ :: audit) (.ok 2) () := by
  rw [finish, json, written]
  refine ⟨.ok (), _, rfl, ?_⟩
  change Replays (writeRecord args (some directory) startedAt (some verdict) verdict.exitCode none >>=
    fun logged => if logged = false then pure 2 else pure verdict.exitCode) _ _ _ _
  exact replays_bind_iff.mpr (Or.inl ⟨false, (), _, [], (List.append_nil _).symm, audits,
    rfl, rfl, rfl⟩)

end Unaudited

mutual

theorem short_ofJson {φ : Type} : ∀ json : Json, (∀ n ∈ json.ints, n.natAbs < 10 ^ maxStrDigits) →
    (ofJson json : Document φ).Short
  | .null, _ => .null
  | .bool value, _ => .bool value
  | .int value, short => .int (short value (List.mem_singleton_self value))
  | .str _, _ => .str _
  | .object members, short => .object (short_ofMembers members short)

theorem short_ofMembers {φ : Type} : ∀ members : List (String × Json),
    (∀ n ∈ Json.intsMembers members, n.natAbs < 10 ^ maxStrDigits) →
    ∀ member ∈ (ofMembers members : Members φ), member.2.Short
  | [], _ => List.forall_mem_nil _
  | (_, value) :: members, short => List.forall_mem_cons.mpr
      ⟨short_ofJson value fun n mem => short n (List.mem_append_left _ mem),
        short_ofMembers members fun n mem => short n (List.mem_append_right _ mem)⟩

end

/-- `psv reconcile --rail usdt0-flare` -/
def flareWithLog : Invocation Unit := { flareWithoutLog with noLog := false }

/-- The arguments of its record. -/
def flareRun : letI := zeroEnvironment
    RunArguments Unit :=
  letI := zeroEnvironment
  runOf flareWithLog beginning beginning (some unpaidOnFlare) 0 none

theorem flareRun_short : letI := zeroEnvironment
    ShortRun flareRun := by
  let := zeroEnvironment
  have small : ∀ n : ℤ, n.natAbs < 10 ^ 2 → n.natAbs < 10 ^ maxStrDigits := fun n below =>
    below.trans_le (Nat.pow_le_pow_right (by omega) (by decide))
  constructor
  · change ∀ member ∈ inputsOf flareWithLog, member.2.Short
    unfold inputsOf
    simp only [List.forall_mem_cons]
    exact ⟨.str _, .str _, .str _, .str _, .str _, .int (small _ (by decide)),
      .int (small _ (by decide)), .int (small _ (by decide)), .int (small _ (by decide)), .bool _,
      .str _, .float _, List.forall_mem_nil _⟩
  · rintro members ⟨⟩
    apply short_ofJson (.object unpaidOnFlare.toDict)
    intro n mem
    exact short_unpaidOnFlare n ((ReconReport.mem_ints_toDict_iff rfl).mp mem)
  · exact small _ (by decide)

/-- The record of that run, when nothing was paid. -/
theorem exists_flareRecord : letI := asciiInterpreter []
    letI := zeroText
    letI := zeroEnvironment
    ∃ record payload, buildRunRecord flareRun = .ok record ∧
      stemAndPayload record = .ok (firstStem, payload) := by
  let := asciiInterpreter []
  let := zeroText
  let := zeroEnvironment
  have inCalendar : utcText 0 = .ok (isoformat 0) := if_pos (by decide)
  have shallow : Shallow flareRun := shallow_runOf
  rcases exists_buildRunRecord flareRun (by decide) (by decide) rfl rfl (by decide) inCalendar
    inCalendar flareRun_short shallow with ⟨runId, isRunId, built⟩
  rcases stem_of_built shallow flareRun_short built with ⟨payload, isStem⟩
  refine ⟨_, payload, built, ?_⟩
  have isName : "run-".toList ++ compactTime (isoformat 0) ++
      '-' :: shortId ("sha256:".toList ++ List.replicate 64 '0') = firstStem := by decide
  rw [isStem, asciiHash isRunId, isName]

/-- The record is written, and the journal takes nothing of its line. -/
theorem exists_tornRecord : letI := asciiInterpreter []
    letI := zeroText
    letI := zeroEnvironment
    ∃ (record : Members Unit) (inner : History fileSystem) (later : Disk ℕ) (name : Str) (file : ℕ),
      buildRunRecord flareRun = .ok record ∧
      (writeRunRecord record).Replays () inner
        (.error (.file (.os "partial run journal write".toList))) () ∧
      Through (amid (Leaves 0) (Runs.answers (fun _ => 0) 0)) Disk.empty inner later ∧
      lineOf .indented (.object record) = .ok (payloadOf record) ∧
      later.owner file = some 0 ∧ later.names name = some file ∧
      later.content file = payloadOf record := by
  let := asciiInterpreter []
  let := zeroText
  let := zeroEnvironment
  rcases exists_flareRecord with ⟨record, payload, built, isStem⟩
  rcases journalLine_built built flareRun_short.exitCode (recordName firstStem 0) with
    ⟨line, isLine⟩
  have free : (Disk.empty : Disk ℕ).names (recordName firstStem 0) = none := rfl
  rcases exists_createRecord (fun _ => 0) 0 (verified_of_built built) isStem (Nat.succ_pos _)
    (fun n impossible => absurd impossible (Nat.not_lt_zero n)) (by decide) free with
    ⟨first, creates, throughFirst⟩
  have unlocked : (Runs.recorded 0 (Disk.empty : Disk ℕ) (recordName firstStem 0) payload).lock 0 =
      none := rfl
  rcases exists_appendJournal (fun _ => 0) 0 (Nat.zero_le line.length) none unlocked with
    ⟨second, later, appends, throughSecond, _⟩
  have torn : appendResult line 0 none =
      .error (.file (.os "partial run journal write".toList)) := by
    have isText := isLine
    simp only [journalLine, Checks.bind_eq_ok_iff] at isText
    rcases isText with ⟨entry, _, isText⟩
    exact if_neg fun same => lineOf_ne_nil isText (List.eq_nil_of_length_eq_zero same.symm)
  rw [torn] at appends
  have through : Through (amid (Leaves 0) (Runs.answers (fun _ => 0) 0)) Disk.empty
      (first ++ second) later :=
    through_amid (through_append_iff.mpr ⟨_, throughFirst, throughSecond⟩)
  have sound : Sound (Disk.empty : Disk ℕ) := by
    intro file named
    cases named
  rcases record_left sound (fun _ => by simp [Disk.empty]) creates appends through with
    ⟨written, ⟨file, owned, named⟩, all⟩
  exact ⟨record, first ++ second, later, _, file, built,
    replays_writeRunRecord creates isLine appends, through, written, owned, named,
    all file _ owned named⟩

/-- The verdict is printed and its record written; the journal takes nothing of its line, and `main`
returns 2 while the record says 0. -/
theorem exists_tornRun : letI := asciiInterpreter []
    letI := zeroText
    letI := zeroEnvironment
    ∃ (said : History terminal) (later : Disk ℕ) (name : Str) (file : ℕ),
      (main flareWithLog none).Replays () said (.ok 2) () ∧
      Through (terminalAnswers (fun _ => 0) 0) Disk.empty said later ∧
      later.owner file = some 0 ∧ later.names name = some file ∧
      ¬States Unit (later.content file) 2 := by
  let := asciiInterpreter []
  let := zeroText
  let := zeroEnvironment
  rcases render_unpaidOnFlare with ⟨⟨markdown, json⟩, isRendered⟩
  rcases exists_tornRecord with
    ⟨record, inner, later, name, file, built, writes, through, written, owned, named, content⟩
  have finishes : (finish flareWithLog (some "psv-runs".toList) beginning unpaidOnFlare
      markdown).Replays () (⟨.print .stdout markdown, .ok ()⟩ :: auditError beginning inner
        "partial run journal write".toList) (.ok 2) () :=
    replays_finish_unaudited rfl rfl (replays_unaudited built writes)
  have reconciles : (cmdReconcile flareWithLog none).Replays () (⟨.now, beginning⟩ ::
      ⟨.reconcile usdt0Flare flareWithLog.payment false, .ok unpaidOnFlare⟩ ::
        ⟨.print .stdout markdown, .ok ()⟩ :: auditError beginning inner
          "partial run journal write".toList) (.ok 2) () := by
    refine ⟨beginning, _, rfl, .ok unpaidOnFlare, _, rfl, ?_⟩
    have concludes : conclude flareWithLog (some "psv-runs".toList) beginning
        (.ok unpaidOnFlare) =
          finish flareWithLog (some "psv-runs".toList) beginning unpaidOnFlare markdown := by
      rw [conclude, isRendered]
      rfl
    change Replays (conclude flareWithLog (some "psv-runs".toList) _ (.ok unpaidOnFlare)) _ _ _ _
    rw [concludes]
    exact finishes
  refine ⟨_, later, name, file, replays_handle_iff.mpr (Or.inl ⟨2, rfl, reconciles⟩),
    ⟨Disk.empty, refl _, Disk.empty, refl _, Disk.empty, refl _, through_unaudited through⟩,
    owned, named, ?_⟩
  rw [states_iff built written content]
  omega

/-- A record is left that does not state what `main` returned. -/
theorem tornJournal_misstates : letI := asciiInterpreter []
    letI := zeroText
    letI := zeroEnvironment
    ¬∀ (said : History terminal) (later : Disk ℕ) (code : ℕ),
      (main flareWithLog none).Replays () said (.ok code) () →
      Through (terminalAnswers (fun _ => 0) 0) Disk.empty said later →
      ∀ name file, later.owner file = some 0 → later.names name = some file →
        States Unit (later.content file) code := by
  let := asciiInterpreter []
  let := zeroText
  let := zeroEnvironment
  intro claimed
  rcases exists_tornRun with ⟨said, later, name, file, replays, through, owned, named, misstates⟩
  exact misstates (claimed said later 2 replays through name file owned named)

/-- The verdict of that run was overtaken. -/
theorem tornJournal_overtakes : letI := asciiInterpreter []
    letI := zeroText
    letI := zeroEnvironment
    ∃ said, (main flareWithLog none).Replays () said (.ok 2) () ∧ Overtaken said := by
  let := asciiInterpreter []
  let := zeroText
  let := zeroEnvironment
  rcases exists_tornRun with ⟨said, later, name, file, replays, through, owned, named, misstates⟩
  refine ⟨said, replays, ?_⟩
  by_contra calm
  exact misstates ((record_states_iff (fun _ => rfl) replays through).mpr calm name file owned named)

end Cli

end Psv
