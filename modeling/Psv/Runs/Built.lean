import Psv.Runs.Sequential

/-!
# The records that are built

What `build_run_record` makes of a run: a dictionary if the inputs and the report
are dictionaries, a checksum that holds, and, where the numbers of the run are
short and nothing in it is deep (`Short`, `Shallow`), a text for its file and one
for its line.
-/

namespace Psv

open Python Interaction Program Document

namespace Runs

variable {φ : Type} [Interpreter] [RunEnvironment φ] {run : RunArguments φ} {record : Members φ}

/-! ### Inputs -/

/-- A member is dropped, or kept under its key with its value or a text. -/
theorem cleanInputs_cons (key : Text) (value : Document φ) (inputs : Members φ) :
    cleanInputs ((key, value) :: inputs) = cleanInputs inputs ∨
      ∃ kept, (kept = value ∨ ∃ text, kept = .str text) ∧
        cleanInputs ((key, value) :: inputs) = (key, kept) :: cleanInputs inputs := by
  rw [cleanInputs.eq_def]
  dsimp only
  split
  · exact Or.inl rfl
  · split_ifs
    · exact Or.inl rfl
    · exact Or.inr ⟨_, Or.inr ⟨_, rfl⟩, rfl⟩
    · exact Or.inr ⟨_, Or.inl rfl, rfl⟩

theorem keys_cleanInputs (inputs : Members φ) :
    ((cleanInputs inputs).map Prod.fst).Sublist (inputs.map Prod.fst) := by
  induction inputs with
  | nil => exact List.Sublist.refl _
  | cons member inputs ih =>
      rcases member with ⟨key, value⟩
      rcases cleanInputs_cons key value inputs with same | ⟨kept, _, same⟩
      · rw [same]
        exact ih.cons key
      · rw [same]
        exact ih.cons_cons key

/-- What holds of texts and of the inputs holds of what is left of them. -/
theorem forall_cleanInputs {p : Document φ → Prop} (texts : ∀ text, p (.str text))
    {inputs : Members φ} (each : ∀ member ∈ inputs, p member.2) :
    ∀ member ∈ cleanInputs inputs, p member.2 := by
  induction inputs with
  | nil => exact each
  | cons member inputs ih =>
      rcases member with ⟨key, value⟩
      have rest := ih fun other mem => each other (List.mem_cons_of_mem _ mem)
      rcases cleanInputs_cons key value inputs with same | ⟨kept, isKept, same⟩
      · rw [same]
        exact rest
      · rw [same]
        intro other mem
        rcases List.mem_cons.mp mem with rfl | mem
        · rcases isKept with rfl | ⟨text, rfl⟩
          · exact each (key, kept) List.mem_cons_self
          · exact texts text
        · exact rest other mem

theorem keyed_cleanInputs {inputs : Members φ} (keyed : (Document.object inputs).Keyed) :
    (Document.object (cleanInputs inputs)).Keyed := by
  rcases keyed_object_iff.mp keyed with ⟨nodup, values⟩
  exact keyed_object_iff.mpr
    ⟨nodup.sublist (keys_cleanInputs inputs), forall_cleanInputs (fun _ => trivial) values⟩

/-! ### The parts of a record -/

/-- The numbers of a run can be written in decimal. -/
structure ShortRun (run : RunArguments φ) : Prop where
  inputs : ∀ member ∈ run.inputs, member.2.Short
  report : ∀ members, run.report = some members → (Document.object members).Short
  exitCode : run.exitCode.natAbs < 10 ^ maxStrDigits

/-- The inputs and the report of a run are far from using up the stack. -/
structure Shallow (run : RunArguments φ) : Prop where
  inputs : ∀ member ∈ run.inputs, member.2.depth ≤ 6
  report : ∀ members, run.report = some members → (Document.object members).depth ≤ 7

omit [Interpreter] [RunEnvironment φ] in
theorem short_optionalText (text : Option Text) : (optional text .str : Document φ).Short := by
  rcases text with _ | text
  · exact .null
  · exact .str text

omit [Interpreter] [RunEnvironment φ] in
theorem short_texts {members : Members φ}
    (texts : ∀ member ∈ members, ∃ text, member.2 = .str text) :
    (Document.object members).Short := by
  apply Short.object
  intro member mem
  rcases texts member mem with ⟨text, same⟩
  rw [same]
  exact .str text

omit [Interpreter] [RunEnvironment φ] in
theorem depth_texts {members : Members φ}
    (texts : ∀ member ∈ members, ∃ text, member.2 = .str text) :
    (Document.object members).depth ≤ 7 := by
  apply depth_object_le_iff.mpr
  intro member mem
  rcases texts member mem with ⟨text, same⟩
  rw [same]
  exact Nat.zero_le _

/-- What holds of every part of the record of a run holds of all its members. -/
theorem forall_recordBody {p : Document φ → Prop} (texts : ∀ text, p (.str text))
    (objects : ∀ members : Members φ, (∀ member ∈ members, ∃ text, member.2 = .str text) →
      p (.object members))
    (duration : p (.float (.finite (RunEnvironment.seconds ticks))))
    (inputs : p (.object (cleanInputs run.inputs)))
    (report : p (optional run.report .object)) (exitCode : p (.int run.exitCode))
    (consistent : ∀ value, p (.bool value)) (error : p (optional run.error .str))
    (startedAt finishedAt : Str) :
    ∀ member ∈ recordBody run startedAt finishedAt ticks, p member.2 := by
  unfold recordBody
  simp only [List.forall_mem_cons]
  exact ⟨texts _, objects _ (by simp), texts _, texts _, texts _, duration, inputs,
    objects _ (by simp), report, exitCode, consistent _, error, List.forall_mem_nil _⟩

theorem short_recordBody (short : ShortRun run) (startedAt finishedAt : Str) (ticks : ℤ) :
    ∀ member ∈ recordBody run startedAt finishedAt ticks, member.2.Short := by
  have isReport : (optional run.report .object : Document φ).Short := by
    rcases same : run.report with _ | members
    · exact .null
    · exact short.report members same
  exact forall_recordBody .str (fun _ => short_texts) (.float _)
    (.object (forall_cleanInputs .str short.inputs)) isReport (.int short.exitCode) .bool
    (short_optionalText run.error) startedAt finishedAt

theorem depth_recordBody (shallow : Shallow run) (startedAt finishedAt : Str) (ticks : ℤ) :
    ∀ member ∈ recordBody run startedAt finishedAt ticks, member.2.depth ≤ 7 := by
  have isReport : (optional run.report .object : Document φ).depth ≤ 7 := by
    rcases same : run.report with _ | members
    · exact Nat.zero_le _
    · exact shallow.report members same
  have isError : (optional run.error .str : Document φ).depth ≤ 7 := by
    rcases run.error with _ | text
    · exact Nat.zero_le _
    · exact Nat.zero_le _
  have inputs : (Document.object (cleanInputs run.inputs)).depth ≤ 7 :=
    depth_object_le_iff.mpr (forall_cleanInputs (p := fun document => document.depth ≤ 6)
      (fun _ => Nat.zero_le _) shallow.inputs)
  exact forall_recordBody (p := fun document => document.depth ≤ 7) (fun _ => Nat.zero_le _)
    (fun _ => depth_texts) (Nat.zero_le _) inputs isReport (Nat.zero_le _) (fun _ => Nat.zero_le _)
    isError startedAt finishedAt

/-! ### Records -/

variable [FloatText φ]

/-- What a record is made of. -/
theorem shape_of_built (built : buildRunRecord run = .ok record) :
    ∃ startedAt finishedAt duration runId,
      record = recordBody run startedAt finishedAt duration ++
        [("runId".toText, .str (.ofStr runId))] ∧
      contentHash (recordBody run startedAt finishedAt duration) = .ok runId := by
  simp only [buildRunRecord, Checks.bind_eq_ok_iff] at built
  rcases built with ⟨_, _, _, _, built⟩
  split at built
  · simp only [Checks.bind_eq_ok_iff] at built
    rcases built with ⟨_, _, startedAt, _, finishedAt, _, runId, isRunId, same⟩
    cases same
    exact ⟨startedAt, finishedAt, _, runId, rfl, isRunId⟩
  · cases built

/-- The record of a run whose inputs and report are dictionaries is one as well. -/
theorem keyed_buildRunRecord (inputs : (Document.object run.inputs).Keyed)
    (report : ∀ members, run.report = some members → (Document.object members).Keyed)
    (built : buildRunRecord run = .ok record) : (Document.object record).Keyed := by
  rcases shape_of_built built with ⟨startedAt, finishedAt, duration, runId, rfl, _⟩
  apply keyed_object_iff.mpr
  constructor
  · rw [List.map_append]
    change ["schemaVersion".toText, "tool".toText, "command".toText, "startedAt".toText,
      "finishedAt".toText, "durationSeconds".toText, "inputs".toText, "environment".toText,
      "report".toText, "exitCode".toText, "consistent".toText, "error".toText,
      "runId".toText].Nodup
    decide
  · intro member mem
    rcases List.mem_append.mp mem with mem | mem
    · simp only [recordBody, List.mem_cons, List.not_mem_nil, or_false] at mem
      rcases mem with rfl | rfl | rfl | rfl | rfl | rfl | rfl | rfl | rfl | rfl | rfl | rfl
      · trivial
      · apply keyed_object_iff.mpr
        refine ⟨?_, ?_⟩
        · change ["name".toText, "version".toText].Nodup
          decide
        · simp [Keyed]
      · trivial
      · trivial
      · trivial
      · trivial
      · exact keyed_cleanInputs inputs
      · apply keyed_object_iff.mpr
        refine ⟨?_, ?_⟩
        · change ["python".toText, "platform".toText, "machine".toText].Nodup
          decide
        · simp [Keyed]
      · rcases isReport : run.report with _ | members
        · trivial
        · exact report members isReport
      · trivial
      · trivial
      · rcases run.error with _ | text
        · trivial
        · trivial
    · rw [List.mem_singleton.mp mem]
      trivial

omit [Interpreter] [RunEnvironment φ] [FloatText φ] in
/-- What holds of texts and of some members holds with an identifier behind them. -/
theorem forall_built {p : Document φ → Prop} (texts : ∀ text, p (.str text))
    {body : Members φ} (each : ∀ member ∈ body, p member.2) (runId : Str) :
    ∀ member ∈ body ++ [("runId".toText, Document.str (.ofStr runId))], p member.2 := by
  intro member mem
  rcases List.mem_append.mp mem with mem | mem
  · exact each member mem
  · rw [List.mem_singleton.mp mem]
    exact texts _

theorem short_built (short : ShortRun run) (built : buildRunRecord run = .ok record) :
    (Document.object record).Short := by
  rcases shape_of_built built with ⟨startedAt, finishedAt, duration, runId, rfl, _⟩
  exact .object (forall_built .str (short_recordBody short startedAt finishedAt duration) runId)

theorem depth_built (shallow : Shallow run) (built : buildRunRecord run = .ok record) :
    (Document.object record).depth ≤ 8 := by
  rcases shape_of_built built with ⟨startedAt, finishedAt, duration, runId, rfl, _⟩
  exact depth_object_le_iff.mpr (forall_built (p := fun document => document.depth ≤ 7)
    (fun _ => Nat.zero_le _) (depth_recordBody shallow startedAt finishedAt duration) runId)

omit [FloatText φ] [RunEnvironment φ] in
theorem le_dumpLevels (style : Style) : 8 ≤ dumpLevels style := by
  unfold dumpLevels
  split_ifs
  · exact Interpreter.le_hashLevels
  · exact Interpreter.le_indentLevels

/-- The checksum leaves itself out. -/
theorem contentHash_runId (startedAt finishedAt runId : Str) (duration : ℤ) :
    contentHash (recordBody run startedAt finishedAt duration ++
        [("runId".toText, .str (.ofStr runId))]) =
      contentHash (recordBody run startedAt finishedAt duration) := by
  have body : hashPayload (recordBody run startedAt finishedAt duration ++
      [("runId".toText, Document.str (.ofStr runId))]) =
        hashPayload (recordBody run startedAt finishedAt duration) := rfl
  rw [contentHash, contentHash, body]

/-- A record that was built verifies. -/
theorem verified_of_built (built : buildRunRecord run = .ok record) :
    verifyRunRecord record = .ok true := by
  rcases shape_of_built built with ⟨startedAt, finishedAt, duration, runId, rfl, isRunId⟩
  exact verifyRunRecord_eq_true_iff.mpr
    ⟨runId, rfl, (contentHash_runId startedAt finishedAt runId duration).trans isRunId⟩

/-- A short run that is not deep has a record. -/
theorem exists_buildRunRecord (run : RunArguments φ)
    (named : stripPoints run.command.points ≠ []) (natural : ¬run.exitCode < 0)
    {startedAt finishedAt : ℤ} (isStart : run.startedAt = ⟨startedAt, some 0⟩)
    (isFinish : run.finishedAt = ⟨finishedAt, some 0⟩) (ordered : ¬finishedAt < startedAt)
    {started finished : Str} (startText : utcText startedAt = .ok started)
    (finishText : utcText finishedAt = .ok finished) (short : ShortRun run)
    (shallow : Shallow run) :
    ∃ runId, contentHash (recordBody run started finished (finishedAt - startedAt)) = .ok runId ∧
      buildRunRecord run = .ok (recordBody run started finished (finishedAt - startedAt) ++
        [("runId".toText, .str (.ofStr runId))]) := by
  have body := short_recordBody short started finished (finishedAt - startedAt)
  have deep := depth_recordBody shallow started finished (finishedAt - startedAt)
  have shortHash : (hashPayload (recordBody run started finished
      (finishedAt - startedAt))).Short :=
    .object fun member mem => body member (List.mem_of_mem_filter mem)
  have depthHash : (hashPayload (recordBody run started finished
      (finishedAt - startedAt))).depth ≤ 8 :=
    depth_object_le_iff.mpr fun member mem => deep member (List.mem_of_mem_filter mem)
  rcases exists_contentHash shortHash (depthHash.trans Interpreter.le_hashLevels) with
    ⟨canonical, isRunId⟩
  refine ⟨_, isRunId, ?_⟩
  rw [buildRunRecord, refuse_of_fails named, refuse_of_fails natural, isStart, isFinish]
  dsimp only
  rw [sub_zero, sub_zero, refuse_of_fails ordered, startText, finishText]
  simp only [Checks.ok_bind]
  rw [isRunId]
  rfl

/-! ### The file and the line of a record -/

/-- The stem of a record and its payload. -/
theorem stem_of_built (shallow : Shallow run) (short : ShortRun run) {startedAt finishedAt : Str}
    {duration : ℤ} {runId : Str} (built : buildRunRecord run = .ok (recordBody run startedAt
      finishedAt duration ++ [("runId".toText, .str (.ofStr runId))])) :
    ∃ payload, stemAndPayload (recordBody run startedAt finishedAt duration ++
      [("runId".toText, .str (.ofStr runId))]) =
        .ok ("run-".toList ++ compactTime startedAt ++ '-' :: shortId runId, payload) := by
  have isLine : ∃ payload, lineOf .indented (.object (recordBody run startedAt finishedAt duration ++
      [("runId".toText, .str (.ofStr runId))])) = .ok payload :=
    exists_lineOf rfl (short_built short built)
      ((depth_built shallow built).trans (le_dumpLevels _))
  rcases isLine with ⟨payload, isLine⟩
  have isStart : textField (recordBody run startedAt finishedAt duration ++
      [("runId".toText, .str (.ofStr runId))]) "startedAt" = .ok (.ofStr startedAt) := rfl
  have isRunId : textField (recordBody run startedAt finishedAt duration ++
      [("runId".toText, .str (.ofStr runId))]) "runId" = .ok (.ofStr runId) := rfl
  refine ⟨payload, ?_⟩
  rw [stemAndPayload, isStart, isRunId, isLine]
  simp only [Checks.ok_bind, namePart_ofStr]
  rfl

/-- The journal entry of a record that was built; it is no deeper than the record. -/
theorem entry_of_built (built : buildRunRecord run = .ok record) (name : Str) :
    ∃ runId startedAt, journalEntry record name = .ok [("runId".toText, .str runId),
      ("startedAt".toText, .str startedAt), ("command".toText, .str run.command),
      ("consistent".toText, .bool (run.error.isNone && decide (run.exitCode = 0))),
      ("exitCode".toText, .int run.exitCode), ("error".toText, optional run.error .str),
      ("file".toText, .str (.ofPoints (pathName (name.map .char))))] := by
  rcases shape_of_built built with ⟨startedAt, finishedAt, duration, runId, rfl, _⟩
  exact ⟨.ofStr runId, .ofStr startedAt, rfl⟩

omit [Interpreter] [RunEnvironment φ] [FloatText φ] in
theorem depth_entry (run : RunArguments φ) (runId startedAt file : Text) :
    (Document.object [("runId".toText, .str runId), ("startedAt".toText, .str startedAt),
      ("command".toText, .str run.command),
      ("consistent".toText, .bool (run.error.isNone && decide (run.exitCode = 0))),
      ("exitCode".toText, .int run.exitCode), ("error".toText, optional run.error .str),
      ("file".toText, .str file)] : Document φ).depth ≤ 8 := by
  have isError : (optional run.error .str : Document φ).depth ≤ 7 := by
    rcases run.error with _ | text
    · exact Nat.zero_le _
    · exact Nat.zero_le _
  apply depth_object_le_iff.mpr
  simp only [List.forall_mem_cons]
  exact ⟨Nat.zero_le _, Nat.zero_le _, Nat.zero_le _, Nat.zero_le _, Nat.zero_le _, isError,
    Nat.zero_le _, List.forall_mem_nil _⟩

/-- The line of a record that was built can be written. -/
theorem journalLine_built (built : buildRunRecord run = .ok record)
    (short : run.exitCode.natAbs < 10 ^ maxStrDigits) (name : Str) :
    ∃ line, journalLine record name = .ok line := by
  rcases entry_of_built built name with ⟨runId, startedAt, isEntry⟩
  rw [journalLine, isEntry]
  apply exists_lineOf rfl _ ((depth_entry run runId startedAt _).trans (le_dumpLevels _))
  apply Short.object
  simp only [List.forall_mem_cons]
  exact ⟨.str _, .str _, .str _, .bool _, .int short, short_optionalText run.error, .str _,
    List.forall_mem_nil _⟩

end Runs

end Psv
