import Psv.Cli.Reconcile
import Psv.Runs.Failures

/-!
# How the command can go

What each part of the command raises, and what a run of it is put together from:
one lemma for each function, with the answers that decide which way it goes.
-/

namespace Psv

open Python Interaction Program Document Runs Rails

namespace Cli

/-- An exchange of the command with its terminal. -/
abbrev Exchange : Type := Σ question : terminal.Ask, terminal.Answer question

/-- The reconciliation returned this report. -/
def Produced (said : History terminal) (report : ReconReport) : Prop :=
  ∃ rail payment believes, (⟨.reconcile rail payment believes, .ok report⟩ : Exchange) ∈ said

/-- Both renderings of a report exist. -/
def Renders (report : ReconReport) : Prop :=
  (∃ markdown, report.toMarkdown = .ok markdown) ∧ ∃ json, report.toJson = .ok json

/-! ### What is raised -/

/-- An `OSError`. -/
def IsOs (error : CliError) : Prop := ∃ message, error = .os message

/-- What printing raises. -/
def IsOutput (error : CliError) : Prop := IsOs error ∨ error = .unicodeEncodeError

/-- What the handler of a failed record catches. -/
def IsCaught (error : CliError) : Prop := IsOs error ∨ ∃ message, error = .valueError message

theorem raises_print (stream : Stream) (text : Str) : (print stream text).Raises IsOutput := by
  intro answer
  rcases answer with (message | _) | _
  · exact Or.inl ⟨message, rfl⟩
  · exact Or.inr rfl
  · trivial

theorem isCaught_ofRun {error : RunError} (handled : Handled error) :
    IsCaught (CliError.ofRun error) := by
  rcases handled with ⟨message, rfl⟩ | ⟨failure, rfl⟩
  · exact Or.inr ⟨message, rfl⟩
  · rcases failure with _ | message
    · exact Or.inl ⟨_, rfl⟩
    · exact Or.inl ⟨message, rfl⟩

theorem raises_mapOs {answer : Except Str Unit} :
    (lift (Except.mapError CliError.os answer) : Command Unit).Raises IsOs := by
  apply raises_lift
  intro error failed
  rcases answer with message | _
  · cases failed
    exact ⟨message, rfl⟩
  · cases failed

theorem raises_writeRequested (path : Option Str) (payload : Str) (label : String) :
    (writeRequested path payload label).Raises IsOs := by
  rcases path with _ | path
  · trivial
  · apply Raises.bind
    · apply raises_lift
      intro error failed
      unfold refuse at failed
      split_ifs at failed
      cases failed
      exact ⟨_, rfl⟩
    · intro _
      apply (raises_question _).bind
      intro made
      apply raises_mapOs.bind
      intro _
      exact (raises_question _).bind fun _ => raises_mapOs

section Command

variable {φ : Type} [FloatText φ] [Interpreter] [RunEnvironment φ] {args : Invocation φ}
  {startedAt finishedAt : Instant} {report : Option ReconReport} {code : ℕ} {error : Option Str}

omit [FloatText φ] [Interpreter] [RunEnvironment φ] in
theorem utcText_instant (moment : Instant) : ∃ text, utcText moment.val = .ok text :=
  ⟨_, if_pos moment.property⟩

omit [FloatText φ] [Interpreter] [RunEnvironment φ] in
theorem depth_evidenceDict (evidence : ChainEvidence) :
    (ofJson (ReconReport.evidenceDict evidence) : Document φ).depth ≤ 6 := by
  have texts : ∀ text, (ofJson (ReconReport.optionalText text) : Document φ).depth = 0 := by
    intro text
    rcases text with _ | text
    · rfl
    · rfl
  have ints : ∀ n, (ofJson (ReconReport.optionalInt n) : Document φ).depth = 0 := by
    intro n
    rcases n with _ | n
    · rfl
    · rfl
  simp only [ReconReport.evidenceDict, ofJson, ofMembers, depth, depthMembers, texts, ints, max_self,
    zero_add]
  decide

omit [FloatText φ] [Interpreter] [RunEnvironment φ] in
theorem shallow_runOf : Shallow (runOf args startedAt finishedAt report code error) where
  inputs := by
    change ∀ member ∈ inputsOf args, member.2.depth ≤ 6
    simp [inputsOf, depth]
  report := by
    intro members isReport
    rcases Option.map_eq_some_iff.mp isReport with ⟨report, _, rfl⟩
    have evidence : (ofJson (ReconReport.evidenceDict report.evidence) : Document φ).depth ≤ 6 :=
      depth_evidenceDict report.evidence
    apply depth_object_le_iff.mpr
    simp only [ReconReport.toDict, ofMembers, ofJson, List.forall_mem_cons, depth, depthMembers,
      max_self, zero_add]
    exact ⟨by decide, by decide, by decide, by decide, by decide, by decide, by decide, evidence,
      by decide, List.forall_mem_nil _⟩

/-- Building the record of an invocation raises a `ValueError`, if anything. -/
theorem buildRunRecord_failsOnly :
    FailsOnly Handled (buildRunRecord (runOf args startedAt finishedAt report code error)) := by
  rcases utcText_instant startedAt with ⟨started, isStarted⟩
  rcases utcText_instant finishedAt with ⟨finished, isFinished⟩
  refine (failsOnly_refuse (handled_value _)).bind fun _ _ => ?_
  refine (failsOnly_refuse (handled_value _)).bind fun _ _ => ?_
  dsimp only [runOf]
  refine (failsOnly_refuse (handled_value _)).bind fun _ _ => ?_
  rw [sub_zero, sub_zero, isStarted, isFinished, Checks.ok_bind, Checks.ok_bind]
  have shallow : ∀ ticks, (hashPayload (recordBody (runOf args startedAt finishedAt report code error)
      started finished ticks)).depth ≤ 8 := fun ticks =>
    depth_hashPayload
      (depth_object_le_iff.mpr (depth_recordBody shallow_runOf started finished ticks))
  refine FailsOnly.bind (fun _ failed => contentHash_failsOnly (shallow _) failed) fun _ _ => ?_
  exact failsOnly_ok _

theorem raises_persist :
    (persist (runOf args startedAt finishedAt report code error)).Raises IsCaught := by
  apply raises_lift_bind
  · intro raised failed
    rcases built : buildRunRecord (runOf args startedAt finishedAt report code error) with other | _
    · rw [built] at failed
      cases failed
      exact isCaught_ofRun (buildRunRecord_failsOnly other built)
    · rw [built] at failed
      cases failed
  · intro record built
    rw [mapError_eq_ok_iff] at built
    exact ((raises_writeRunRecord shallow_runOf built).mono fun _ => isCaught_ofRun).embed

/-! ### The record -/

/-- Either there is no record to write, or the record was built and written as far as `inner`
says. -/
theorem persist_cases {run : RunArguments φ} {said : History terminal}
    {result : Except CliError Str} (replays : (persist run).Replays () said result ()) :
    (said = [] ∧ (∃ raised, result = .error raised) ∧ ∃ raised, buildRunRecord run = .error raised) ∨
      ∃ record inner outcome, buildRunRecord run = .ok record ∧
        said = inner.map records.entry ∧ (writeRunRecord record).Replays () inner outcome () ∧
        result = outcome.mapError CliError.ofRun := by
  rw [persist] at replays
  rcases built : buildRunRecord run with raised | record
  · rw [built] at replays
    rcases replays with ⟨rfl, rfl, _⟩
    exact Or.inl ⟨rfl, ⟨_, rfl⟩, raised, rfl⟩
  · rw [built] at replays
    rcases replays_embed_iff.mp replays with ⟨inner, outcome, rfl, writes, rfl⟩
    exact Or.inr ⟨record, inner, outcome, rfl, rfl, writes, rfl⟩

/-- With logging on, the record is built and written, and then one line is printed. -/
theorem writeRecord_cases {directory : Str} {said : History terminal} {result : Except CliError Bool}
    (replays : (writeRecord args (some directory) startedAt report code error).Replays ()
      said result ()) :
    ∃ finishedAt front back outcome, said = ⟨.now, finishedAt⟩ :: (front ++ back) ∧
      (persist (runOf args startedAt finishedAt report code error)).Replays () front outcome () ∧
      match outcome with
      | .ok name => ((print .stdout ("Run record: ".toList ++ joinPath directory name)) >>= fun _ =>
          pure true : Command Bool).Replays () back result ()
      | .error _ => ∃ text, ((print .stderr text) >>= fun _ =>
          pure false : Command Bool).Replays () back result () := by
  rcases replays with ⟨finishedAt, rest, rfl, continues⟩
  rcases replays_attempt_bind_iff.mp continues with ⟨outcome, _, front, back, rfl, tried, ends⟩
  refine ⟨finishedAt, front, back, outcome, rfl, tried, ?_⟩
  rcases outcome with raised | name
  · rcases raises_persist.of_replays tried with ⟨message, rfl⟩ | ⟨message, rfl⟩
    · exact ⟨_, ends⟩
    · exact ⟨_, ends⟩
  · exact ends

theorem raises_writeRecord (logDir : Option Str) :
    (writeRecord args logDir startedAt report code error).Raises IsOutput := by
  rcases logDir with _ | directory
  · trivial
  · apply (raises_question _).bind
    intro finishedAt
    apply raises_persist.attempt_bind
    · exact fun _ => (raises_print _ _).bind fun _ => trivial
    · rintro raised (⟨message, rfl⟩ | ⟨message, rfl⟩)
      · exact (raises_print _ _).bind fun _ => trivial
      · exact (raises_print _ _).bind fun _ => trivial

/-! ### The reports -/

/-- The steps of writing reports. -/
def WritesReports (question : terminal.Ask) : Prop :=
  (∃ path, question = TerminalAsk.makeParents path) ∨
    ∃ path data, question = TerminalAsk.writeBytes path data

omit [FloatText φ] [Interpreter] [RunEnvironment φ] in
theorem asks_writeRequested (path : Option Str) (payload : Str) (label : String) :
    (writeRequested path payload label).Asks WritesReports := by
  rcases path with _ | path
  · trivial
  · apply (asks_lift _).bind
    intro _
    apply (asks_question (Or.inl ⟨path, rfl⟩)).bind
    intro made
    apply (asks_lift _).bind
    intro _
    apply (asks_question (Or.inr ⟨path, _, rfl⟩)).bind
    exact fun _ => asks_lift _

omit [FloatText φ] [Interpreter] [RunEnvironment φ] in
/-- A report that was asked for has been written when writing it returns. -/
theorem written_of_requested {path : Option Str} {payload : Str} {label : String}
    {said : History terminal}
    (replays : (writeRequested path payload label).Replays () said (.ok ()) ()) :
    ∀ file, path = some file → (⟨.writeBytes file (utf8 payload), .ok ()⟩ : Exchange) ∈ said := by
  rintro file rfl
  rcases replays_lift_bind_ok_iff.mp replays with ⟨_, _, continues⟩
  rcases continues with ⟨made, rest, rfl, continues⟩
  rcases replays_lift_bind_ok_iff.mp continues with ⟨_, _, continues⟩
  rcases continues with ⟨written, rest, rfl, ends⟩
  rcases replays_lift_iff.mp ends with ⟨rfl, same, _⟩
  have isWritten : written = .ok () := mapError_eq_ok_iff.mp same.symm
  subst isWritten
  exact List.mem_cons_of_mem _ (List.mem_singleton_self _)

/-- The verdict is printed and recorded. -/
def finish (args : Invocation φ) (logDir : Option Str) (startedAt : Instant)
    (report : ReconReport) (markdown : Str) : Command ℕ := do
  print .stdout markdown
  announce "JSON report: " args.jsonOut
  announce "Markdown report: " args.mdOut
  let logged ← writeRecord args logDir startedAt (some report) report.exitCode none
  if logged = false then pure 2 else pure report.exitCode

/-- A failure is recorded and printed. -/
def giveUp (args : Invocation φ) (logDir : Option Str) (startedAt : Instant)
    (report : Option ReconReport) (message : Str) : Command ℕ := do
  let _ ← writeRecord args logDir startedAt report 2 (some message)
  print .stderr message
  pure 2

/-- The reports are written, and then the run finishes; or writing them fails, and it gives up. -/
theorem deliver_cases {logDir : Option Str} {verdict : ReconReport} {markdown json : Str}
    {said : History terminal} {result : Except CliError ℕ}
    (replays : (deliver args logDir startedAt verdict markdown json).Replays () said result ()) :
    ∃ front back, said = front ++ back ∧ (∀ entry ∈ front, WritesReports entry.1) ∧
      ((∃ message, (giveUp args logDir startedAt (some verdict) message).Replays () back result ()) ∨
        (∀ path, args.jsonOut = some path →
          (⟨.writeBytes path (utf8 json), .ok ()⟩ : Exchange) ∈ front) ∧
        (∀ path, args.mdOut = some path →
          (⟨.writeBytes path (utf8 markdown), .ok ()⟩ : Exchange) ∈ front) ∧
        (finish args logDir startedAt verdict markdown).Replays () back result ()) := by
  rcases replays_attempt_bind_iff.mp replays with ⟨outcome, _, front, back, rfl, writes, ends⟩
  have asks : (do
      writeRequested args.jsonOut json "JSON"
      writeRequested args.mdOut markdown "Markdown" : Command Unit).Asks WritesReports :=
    (asks_writeRequested _ _ _).bind fun _ => asks_writeRequested _ _ _
  refine ⟨front, back, rfl, asks.of_mem writes, ?_⟩
  rcases outcome with raised | _
  · have raises : (do
        writeRequested args.jsonOut json "JSON"
        writeRequested args.mdOut markdown "Markdown" : Command Unit).Raises IsOs :=
      (raises_writeRequested _ _ _).bind fun _ => raises_writeRequested _ _ _
    rcases raises.of_replays writes with ⟨text, rfl⟩
    exact Or.inl ⟨_, ends⟩
  · rcases replays_bind_ok_iff.mp writes with ⟨_, _, first, second, rfl, isJson, isMarkdown⟩
    refine Or.inr ⟨?_, ?_, ends⟩
    · exact fun path asked => List.mem_append_left _ (written_of_requested isJson path asked)
    · exact fun path asked => List.mem_append_right _ (written_of_requested isMarkdown path asked)

/-! ### The command -/

omit [FloatText φ] [Interpreter] [RunEnvironment φ] in
theorem render_eq_ok_iff {report : ReconReport} {rendered : Str × Str} :
    render report = .ok rendered ↔ ∃ markdown, report.toMarkdown = .ok markdown ∧
      report.toJson = .ok rendered.2 ∧ rendered.1 = markdown.toList := by
  simp only [render, Checks.bind_eq_ok_iff, mapError_eq_ok_iff]
  constructor
  · rintro ⟨markdown, isMarkdown, json, isJson, same⟩
    cases same
    exact ⟨markdown, isMarkdown, isJson, rfl⟩
  · rintro ⟨markdown, isMarkdown, isJson, same⟩
    refine ⟨markdown, isMarkdown, rendered.2, isJson, ?_⟩
    rw [← same]
    rfl

omit [FloatText φ] [Interpreter] [RunEnvironment φ] in
theorem notOs_ofReport (raised : PyError) : ¬IsOs (CliError.ofReport raised) := by
  rintro ⟨message, same⟩
  unfold CliError.ofReport at same
  split at same
  · cases same
  · cases same

omit [FloatText φ] [Interpreter] [RunEnvironment φ] in
theorem render_eq_error {report : ReconReport} {raised : CliError}
    (failed : render report = .error raised) : ¬Renders report ∧ ¬IsOs raised := by
  rcases isMarkdown : report.toMarkdown with error | markdown
  · rw [render, isMarkdown] at failed
    cases failed
    refine ⟨?_, notOs_ofReport error⟩
    rintro ⟨⟨_, impossible⟩, _⟩
    rw [isMarkdown] at impossible
    cases impossible
  · rcases isJson : report.toJson with error | json
    · rw [render, isMarkdown, isJson] at failed
      cases failed
      refine ⟨?_, notOs_ofReport error⟩
      rintro ⟨_, _, impossible⟩
      rw [isJson] at impossible
      cases impossible
    · rw [render, isMarkdown, isJson] at failed
      cases failed

omit [FloatText φ] [Interpreter] [RunEnvironment φ] in
theorem render_ne {report : ReconReport} : render report ≠ .error .unicodeEncodeError := by
  have other : ∀ error, CliError.ofReport error ≠ .unicodeEncodeError := by
    intro error
    unfold CliError.ofReport
    split
    · simp
    · simp
  rw [render]
  rcases report.toMarkdown with raised | markdown
  · intro same
    exact other raised (Except.error.inj same)
  · rcases report.toJson with raised | json
    · intro same
      exact other raised (Except.error.inj same)
    · intro same
      cases same

/-- The reconciliation failed; or its report cannot be rendered; or it is delivered. -/
theorem conclude_cases {logDir : Option Str} {answer : Except Str ReconReport}
    {said : History terminal} {result : Except CliError ℕ}
    (replays : (conclude args logDir startedAt answer).Replays () said result ()) :
    (∃ text message, answer = .error text ∧
        (giveUp args logDir startedAt none message).Replays () said result ()) ∨
      ∃ verdict, answer = .ok verdict ∧
        ((¬Renders verdict ∧ said = [] ∧ ∃ raised, result = .error raised ∧ ¬IsOs raised) ∨
          ∃ markdown json, verdict.toMarkdown = .ok markdown ∧ verdict.toJson = .ok json ∧
            (deliver args logDir startedAt verdict markdown.toList json).Replays ()
              said result ()) := by
  rcases answer with text | verdict
  · exact Or.inl ⟨text, _, rfl, replays⟩
  · refine Or.inr ⟨verdict, rfl, ?_⟩
    rw [conclude, replays_lift_bind_iff] at replays
    rcases replays with ⟨⟨shown, json⟩, isRendered, continues⟩ | ⟨raised, failed, rfl, rfl, _⟩
    · rcases render_eq_ok_iff.mp isRendered with ⟨markdown, isMarkdown, isJson, rfl⟩
      exact Or.inr ⟨markdown, json, isMarkdown, isJson, continues⟩
    · rcases render_eq_error failed with ⟨unrendered, notOs⟩
      exact Or.inl ⟨unrendered, rfl, raised, rfl, notOs⟩

/-- The rail is unknown, or the reconciliation has an outcome. -/
theorem cmdReconcile_cases {noLogEnv : Option Str} {said : History terminal}
    {result : Except CliError ℕ} (replays : (cmdReconcile args noLogEnv).Replays () said result ()) :
    ∃ startedAt rest, said = ⟨.now, startedAt⟩ :: rest ∧
      ((∃ message, getRail args.rail = .error message ∧
          (print .stderr message >>= fun _ => pure 2 : Command ℕ).Replays () rest result ()) ∨
        ∃ rail answer back, getRail args.rail = .ok rail ∧
          rest = ⟨.reconcile rail args.payment args.sutBelievesPaid, answer⟩ :: back ∧
          (conclude args (resolveLogDir args noLogEnv) startedAt answer).Replays () back result ()) := by
  rcases replays with ⟨startedAt, rest, rfl, continues⟩
  refine ⟨startedAt, rest, rfl, ?_⟩
  rcases known : getRail args.rail with message | rail
  · simp only [known] at continues
    exact Or.inl ⟨message, rfl, continues⟩
  · simp only [known] at continues
    rcases continues with ⟨answer, back, rfl, continues⟩
    exact Or.inr ⟨rail, answer, back, rfl, rfl, continues⟩

/-- An `OSError` ends in status 2, unless the complaint about it cannot be encoded. -/
theorem main_cases {noLogEnv : Option Str} {said : History terminal} {result : Except CliError ℕ}
    (replays : (main args noLogEnv).Replays () said result ()) :
    ∃ front back inner, said = front ++ back ∧
      (cmdReconcile args noLogEnv).Replays () front inner () ∧
      ((back = [] ∧ result = inner ∧ ∀ raised, inner = .error raised → ¬IsOs raised) ∨
        ∃ message, inner = .error (.os message) ∧
          (complain message >>= fun _ => pure 2 : Command ℕ).Replays () back result ()) := by
  rcases replays_handle_iff.mp replays with
    ⟨code, rfl, returned⟩ | ⟨raised, _, front, back, rfl, failed, handled⟩
  · refine ⟨said, [], .ok code, (List.append_nil said).symm, returned, Or.inl ⟨rfl, rfl, ?_⟩⟩
    intro _ impossible
    cases impossible
  · refine ⟨front, back, .error raised, rfl, failed, ?_⟩
    cases raised with
    | os message => exact Or.inr ⟨message, rfl, handled⟩
    | valueError message =>
        rcases handled with ⟨rfl, rfl, _⟩
        refine Or.inl ⟨rfl, rfl, ?_⟩
        rintro _ same ⟨_, rfl⟩
        cases same
    | unicodeEncodeError =>
        rcases handled with ⟨rfl, rfl, _⟩
        refine Or.inl ⟨rfl, rfl, ?_⟩
        rintro _ same ⟨_, rfl⟩
        cases same
    | other =>
        rcases handled with ⟨rfl, rfl, _⟩
        refine Or.inl ⟨rfl, rfl, ?_⟩
        rintro _ same ⟨_, rfl⟩
        cases same

omit [FloatText φ] [Interpreter] [RunEnvironment φ] in
theorem raises_complain (message : Str) :
    (complain message >>= fun _ => pure 2 : Command ℕ).Raises (· = .unicodeEncodeError) := by
  apply Raises.bind
  · apply (raises_print _ _).handle
    rintro raised (⟨text, rfl⟩ | rfl)
    · trivial
    · rfl
  · exact fun _ => trivial

theorem raises_giveUp (logDir : Option Str) (message : Str) :
    (giveUp args logDir startedAt report message).Raises IsOutput := by
  apply (raises_writeRecord logDir).bind
  intro _
  exact (raises_print _ _).bind fun _ => trivial

omit [FloatText φ] [Interpreter] [RunEnvironment φ] in
theorem raises_announce (label : String) (path : Option Str) :
    (announce label path).Raises IsOutput := by
  rcases path with _ | path
  · trivial
  · exact raises_print _ _

theorem raises_finish (logDir : Option Str) (verdict : ReconReport) (markdown : Str) :
    (finish args logDir startedAt verdict markdown).Raises IsOutput := by
  apply (raises_print _ _).bind
  intro _
  apply (raises_announce _ _).bind
  intro _
  apply (raises_announce _ _).bind
  intro _
  apply (raises_writeRecord logDir).bind
  intro logged
  split_ifs
  · trivial
  · trivial

end Command

end Cli

end Psv
