import Psv.Interaction.Checks
import Psv.Interaction.Workers
import Psv.World

/-!
# Load profiles

`load.py`: a task is driven for a number of iterations by some workers, and the
stages of a profile follow each other.  A stage counts its iterations from zero,
and a wrapper adds the offset of the stage, so that the task sees identifiers
that differ over all stages.  The evidence of a failure is recorded outside the
wrapper, where the offset is not known.
-/

namespace Psv

open Python Interaction

namespace Load

/-- An exception of a task: `type(exc).__name__` and `str(exc)`. -/
structure TaskError where
  typeName : Str
  text : Str

/-- A task: what it raises on an identifier, if anything. -/
abbrev Task : Type := ℕ → Option TaskError

/-- One bounded exception sample captured during a load run. -/
structure LoadErrorSample where
  iteration : ℕ
  exceptionType : Str
  message : Str
  deriving DecidableEq

/-- Aggregate correctness, throughput, latency, and error evidence for one stage. -/
structure LoadResult where
  total : ℤ
  errors : ℤ
  latenciesMs : List Float64
  durationS : Float64
  errorSamples : List LoadErrorSample

/-- The number of successful task attempts. -/
def LoadResult.ok (result : LoadResult) : ℤ := result.total - result.errors

/-- One stage of a ramp/spike/soak/recovery profile. -/
structure LoadStage where
  name : Str
  iterations : ℤ
  concurrency : ℤ

section Runs

variable [Interpreter]

/-- `" ".join(text.split())[:512]` -/
def boundedMessage (text : Str) : Str :=
  (List.intercalate [' '] ((text.splitOnP isSpace).filter (· ≠ []))).take 512

/-- What one call of a task leaves: its latency, or a sample of its exception. -/
abbrev Attempt : Type := Except LoadErrorSample Float64

/-- Time one task invocation and convert exceptions to bounded evidence. -/
def runOne (task : Task) (i : ℕ) (latency : Float64) : Attempt :=
  match task i with
  | some error => .error ⟨i, error.typeName, boundedMessage error.text⟩
  | none => .ok latency

/-- An attempt of an iteration, which may take any time. -/
def Attempts (task : Task) (i : ℕ) (attempt : Attempt) : Prop :=
  ∃ latency, attempt = runOne task i latency

/-- The attempts in the order of the iterations, and the calls in the order in which they end. -/
def Executes (task : Task) (iterations : ℕ) (concurrency : ℤ) (calls : List ℕ)
    (attempts : List Attempt) : Prop :=
  if concurrency = 1 then
    calls = List.range iterations ∧ List.Forall₂ (Attempts task) (List.range iterations) attempts
  else
    ∃ ended, Workers.WorkOff concurrency.toNat (Attempts task) (List.range iterations) ended ∧
      calls = ended.map Prod.fst ∧
      List.Forall₂ (fun i attempt => (i, attempt) ∈ ended) (List.range iterations) attempts

/-- The loop over the attempts: the errors, the samples and the latencies. -/
def collect (maxErrorSamples : ℤ) :
    List Attempt → ℤ → List LoadErrorSample → List Float64 → ℤ × List LoadErrorSample × List Float64
  | [], errors, samples, latencies => (errors, samples, latencies)
  | .error error :: attempts, errors, samples, latencies =>
      collect maxErrorSamples attempts (errors + 1)
        (if samples.length < maxErrorSamples then samples ++ [error] else samples) latencies
  | .ok latency :: attempts, errors, samples, latencies =>
      collect maxErrorSamples attempts errors samples (latencies ++ [latency])

/-- The checks of the arguments. -/
def checkProfile (iterations concurrency maxErrorSamples : ℤ) : Except PyError Unit := do
  refuse (iterations ≤ 0) (.valueError "iterations must be > 0")
  refuse (concurrency ≤ 0) (.valueError "concurrency must be > 0")
  refuse (maxErrorSamples < 0) (.valueError "max_error_samples must be >= 0")

/-- The evidence about the attempts of a run. -/
def resultOf (iterations maxErrorSamples : ℤ) (attempts : List Attempt) (duration : Float64) :
    LoadResult :=
  let (errors, samples, latencies) := collect maxErrorSamples attempts 0 [] []
  ⟨iterations, errors, latencies, duration, samples⟩

/-- Run a task for each iteration, timing each call and capturing exceptions as errors. -/
def RunProfile (task : Task) (iterations concurrency maxErrorSamples : ℤ) (calls : List ℕ)
    (outcome : Except PyError LoadResult) : Prop :=
  match checkProfile iterations concurrency maxErrorSamples with
  | .error error => calls = [] ∧ outcome = .error error
  | .ok () => ∃ attempts duration,
      Executes task iterations.toNat concurrency calls attempts ∧
        outcome = .ok (resultOf iterations maxErrorSamples attempts duration)

/-- Wrap a task so staged iteration identifiers remain globally unique. -/
def withOffset (task : Task) (offset : ℕ) : Task := fun index => task (offset + index)

/-- The loop over the stages, with the identifiers that the task itself is called with. -/
def RunStages (task : Task) (maxErrorSamples : ℤ) :
    ℕ → List LoadStage → List ℕ → Except PyError (List (LoadStage × LoadResult)) → Prop
  | _, [], calls, outcome => calls = [] ∧ outcome = .ok []
  | offset, stage :: stages, calls, outcome =>
      if stripText stage.name = [] then
        calls = [] ∧ outcome = .error (.valueError "load stage name must not be empty")
      else
        ∃ indices result,
          RunProfile (withOffset task offset) stage.iterations stage.concurrency maxErrorSamples
            indices result ∧
          match result with
          | .error error => calls = indices.map (offset + ·) ∧ outcome = .error error
          | .ok evidence => ∃ laterCalls later,
              RunStages task maxErrorSamples (offset + stage.iterations.toNat) stages laterCalls
                later ∧
              calls = indices.map (offset + ·) ++ laterCalls ∧
              outcome = later.map ((stage, evidence) :: ·)

/-- Run named load stages while keeping iteration identifiers unique. -/
def RunStagedProfile (task : Task) (stages : List LoadStage) (maxErrorSamples : ℤ)
    (calls : List ℕ) (outcome : Except PyError (List (LoadStage × LoadResult))) : Prop :=
  if stages = [] then
    calls = [] ∧ outcome = .error (.valueError "at least one load stage is required")
  else RunStages task maxErrorSamples 0 stages calls outcome

end Runs

/-! ### The identifiers -/

section Identifiers

/-- The identifiers of a stretch of calls on which the task raises. -/
def failing (task : Task) (ids : List ℕ) : List ℕ := ids.filter fun id => (task id).isSome

/-- The identifiers of a stretch of calls on which the task returns. -/
def returning (task : Task) (ids : List ℕ) : List ℕ := ids.filter fun id => (task id).isNone

/-- The identifiers of all stages. -/
def totalIterations (stages : List LoadStage) : ℕ :=
  (stages.map fun stage => stage.iterations.toNat).sum

variable [Interpreter]

/-- The sample of a call of the task, with the identifier it was made with. -/
def sampleOf (task : Task) (id : ℕ) : Option LoadErrorSample :=
  (task id).map fun error => ⟨id, error.typeName, boundedMessage error.text⟩

/-- The samples of the lowest failing identifiers. -/
def samplesOf (task : Task) (maxErrorSamples : ℤ) (ids : List ℕ) : List LoadErrorSample :=
  ((failing task ids).take maxErrorSamples.toNat).filterMap (sampleOf task)

/-- The evidence counts the calls of these identifiers. -/
structure Counts (task : Task) (ids : List ℕ) (evidence : LoadResult) : Prop where
  total : evidence.total = ids.length
  errors : evidence.errors = (failing task ids).length
  successes : evidence.ok = (returning task ids).length

/-- The evidence of each stage counts the calls of its own identifiers and keeps these samples. -/
def StagesAre (task : Task) (samples : ℕ → ℕ → List LoadErrorSample) :
    ℕ → List LoadStage → List (LoadStage × LoadResult) → Prop
  | _, [], results => results = []
  | offset, stage :: stages, results => ∃ evidence later,
      results = (stage, evidence) :: later ∧
        Counts task (List.range' offset stage.iterations.toNat) evidence ∧
        evidence.errorSamples = samples offset stage.iterations.toNat ∧
        StagesAre task samples (offset + stage.iterations.toNat) stages later

/-- The samples of a stage, named by the identifiers of the calls. -/
def namedSamples (task : Task) (maxErrorSamples : ℤ) (offset iterations : ℕ) :
    List LoadErrorSample :=
  samplesOf task maxErrorSamples (List.range' offset iterations)

/-- The task is called once with each identifier, and the evidence names the real calls. -/
def NamesIterations (task : Task) (stages : List LoadStage) (maxErrorSamples : ℤ)
    (calls : List ℕ) (outcome : Except PyError (List (LoadStage × LoadResult))) : Prop :=
  ∃ results, outcome = .ok results ∧ calls.Perm (List.range (totalIterations stages)) ∧
    StagesAre task (namedSamples task maxErrorSamples) 0 stages results ∧
    (results.flatMap fun result => result.2.errorSamples.map LoadErrorSample.iteration).Nodup

/-- What a stage has to be. -/
structure LoadStage.Valid (stage : LoadStage) : Prop where
  name : stripText stage.name ≠ []
  iterations : 0 < stage.iterations
  concurrency : 0 < stage.concurrency

end Identifiers

/-! ### One stage -/

section Stage

variable [Interpreter] {task : Task} {ids calls : List ℕ} {attempts : List Attempt}
  {maxErrorSamples : ℤ}

/-- The loop counts the attempts and keeps the samples of the first errors. -/
theorem collect_spec (made : List.Forall₂ (Attempts task) ids attempts)
    (nonneg : 0 ≤ maxErrorSamples) (errors : ℤ) (samples : List LoadErrorSample)
    (latencies : List Float64) :
    (collect maxErrorSamples attempts errors samples latencies).1 =
        errors + (failing task ids).length ∧
      (collect maxErrorSamples attempts errors samples latencies).2.1 =
        samples ++ ((failing task ids).take (maxErrorSamples.toNat - samples.length)).filterMap
          (sampleOf task) := by
  induction made generalizing errors samples latencies with
  | nil => simp [collect, failing]
  | @cons id attempt ids attempts made rest ih =>
    rcases made with ⟨latency, rfl⟩
    rcases raised : task id with _ | error
    · have passes : failing task (id :: ids) = failing task ids := by simp [failing, raised]
      simp only [runOne, raised, collect, passes]
      exact ih errors samples _
    · have fails : failing task (id :: ids) = id :: failing task ids := by simp [failing, raised]
      have sample : sampleOf task id =
          some ⟨id, error.typeName, boundedMessage error.text⟩ := by simp [sampleOf, raised]
      simp only [runOne, raised, collect, fails, List.length_cons]
      by_cases room : (samples.length : ℤ) < maxErrorSamples
      · have more : maxErrorSamples.toNat - samples.length =
            maxErrorSamples.toNat - (samples.length + 1) + 1 := by omega
        rw [if_pos room, more, List.take_succ_cons, List.filterMap_cons, sample]
        have step := ih (errors + 1) (samples ++ [⟨id, error.typeName, boundedMessage error.text⟩])
          latencies
        rw [List.length_append, List.length_singleton] at step
        refine ⟨?_, ?_⟩
        · rw [step.1]
          push_cast
          omega
        · rw [step.2, List.append_assoc]
          rfl
      · have full : maxErrorSamples.toNat - samples.length = 0 := by omega
        rw [if_neg room, full]
        have step := ih (errors + 1) samples latencies
        rw [full] at step
        refine ⟨?_, ?_⟩
        · rw [step.1]
          push_cast
          omega
        · rw [step.2]
          simp

omit [Interpreter] in
theorem length_failing_add (task : Task) (ids : List ℕ) :
    (failing task ids).length + (returning task ids).length = ids.length := by
  have split := @List.length_eq_length_filter_add _ ids fun id => (task id).isSome
  simp only [Option.not_isSome] at split
  exact split.symm

theorem counts_resultOf (made : List.Forall₂ (Attempts task) ids attempts)
    (nonneg : 0 ≤ maxErrorSamples) (duration : Float64) :
    Counts task ids (resultOf ids.length maxErrorSamples attempts duration) ∧
      (resultOf ids.length maxErrorSamples attempts duration).errorSamples =
        samplesOf task maxErrorSamples ids := by
  have collected := collect_spec made nonneg 0 [] []
  have split := length_failing_add task ids
  simp only [zero_add, List.nil_append, List.length_nil, Nat.sub_zero] at collected
  have errors : (resultOf ids.length maxErrorSamples attempts duration).errors =
      (failing task ids).length := collected.1
  refine ⟨⟨rfl, errors, ?_⟩, collected.2⟩
  rw [LoadResult.ok, errors]
  change (ids.length : ℤ) - _ = _
  omega

/-- However the workers share the calls, each iteration is attempted once. -/
theorem Executes.spec {iterations : ℕ} {concurrency : ℤ}
    (executes : Executes task iterations concurrency calls attempts) :
    calls.Perm (List.range iterations) ∧
      List.Forall₂ (Attempts task) (List.range iterations) attempts := by
  unfold Executes at executes
  split_ifs at executes
  · exact ⟨executes.1 ▸ List.Perm.refl _, executes.2⟩
  · rcases executes with ⟨ended, worked, rfl, made⟩
    exact ⟨worked.perm, made.imp fun i attempt mem => worked.results (i, attempt) mem⟩

theorem exists_attempt (task : Task) (i : ℕ) : ∃ attempt, Attempts task i attempt :=
  ⟨runOne task i .nan, .nan, rfl⟩

omit [Interpreter] in
theorem exists_forall₂ {α β : Type} {related : α → β → Prop} {items : List α}
    (each : ∀ item ∈ items, ∃ image, related item image) :
    ∃ images, List.Forall₂ related items images := by
  induction items with
  | nil => exact ⟨[], .nil⟩
  | cons item items ih =>
    simp only [List.mem_cons, forall_eq_or_imp] at each
    rcases each.1 with ⟨image, first⟩
    rcases ih each.2 with ⟨images, rest⟩
    exact ⟨image :: images, .cons first rest⟩

theorem exists_executes (task : Task) (iterations : ℕ) {concurrency : ℤ}
    (positive : 0 < concurrency) :
    ∃ calls attempts, Executes task iterations concurrency calls attempts := by
  unfold Executes
  split_ifs
  · rcases exists_forall₂ fun i (_ : i ∈ List.range iterations) => exists_attempt task i with
      ⟨attempts, made⟩
    exact ⟨_, attempts, rfl, made⟩
  · rcases Workers.exists_workOff (by omega : 0 < concurrency.toNat) (exists_attempt task)
      (List.range iterations) with ⟨ended, worked⟩
    have each : ∀ i ∈ List.range iterations, ∃ attempt, (i, attempt) ∈ ended := by
      intro i mem
      rcases List.mem_map.mp (worked.perm.mem_iff.mpr mem) with ⟨⟨j, attempt⟩, inside, rfl⟩
      exact ⟨attempt, inside⟩
    rcases exists_forall₂ each with ⟨attempts, made⟩
    exact ⟨_, attempts, ended, worked, rfl, made⟩

omit [Interpreter] in
theorem checkProfile_of_valid {stage : LoadStage} (positive : 0 < stage.iterations)
    (workers : 0 < stage.concurrency) :
    checkProfile stage.iterations stage.concurrency maxErrorSamples =
      refuse (maxErrorSamples < 0) (.valueError "max_error_samples must be >= 0") := by
  rw [checkProfile, refuse_of_fails (not_le.mpr positive), Checks.ok_bind,
    refuse_of_fails (not_le.mpr workers), Checks.ok_bind]

/-- What a profile says about the calls of its task. -/
theorem RunProfile.spec {stage : LoadStage} {outcome : Except PyError LoadResult}
    (valid : stage.Valid) (nonneg : 0 ≤ maxErrorSamples)
    (ran : RunProfile task stage.iterations stage.concurrency maxErrorSamples calls outcome) :
    calls.Perm (List.range stage.iterations.toNat) ∧ ∃ evidence, outcome = .ok evidence ∧
      Counts task (List.range stage.iterations.toNat) evidence ∧
      evidence.errorSamples = samplesOf task maxErrorSamples
        (List.range stage.iterations.toNat) := by
  rw [RunProfile, checkProfile_of_valid valid.iterations valid.concurrency,
    refuse_of_fails (not_lt.mpr nonneg)] at ran
  rcases ran with ⟨attempts, duration, executes, rfl⟩
  have count : stage.iterations = (List.range stage.iterations.toNat).length := by
    rw [List.length_range]
    exact (Int.toNat_of_nonneg valid.iterations.le).symm
  have evidence := counts_resultOf executes.spec.2 nonneg duration
  rw [← count] at evidence
  exact ⟨executes.spec.1, _, rfl, evidence⟩

end Stage

/-! ### The offset of a stage -/

section Offset

variable [Interpreter] {task : Task} {offset iterations : ℕ} {maxErrorSamples : ℤ}

omit [Interpreter] in
theorem failing_range' : failing task (List.range' offset iterations) =
    (failing (withOffset task offset) (List.range iterations)).map (offset + ·) := by
  rw [List.range'_eq_map_range, failing, List.filter_map]
  rfl

omit [Interpreter] in
theorem returning_range' : returning task (List.range' offset iterations) =
    (returning (withOffset task offset) (List.range iterations)).map (offset + ·) := by
  rw [List.range'_eq_map_range, returning, List.filter_map]
  rfl

omit [Interpreter] in
theorem Counts.shift {evidence : LoadResult}
    (counts : Counts (withOffset task offset) (List.range iterations) evidence) :
    Counts task (List.range' offset iterations) evidence where
  total := by rw [counts.total, List.length_range, List.length_range']
  errors := by rw [counts.errors, failing_range', List.length_map]
  successes := by rw [counts.successes, returning_range', List.length_map]

/-- The samples name the identifiers that the task was called with. -/
theorem iterations_samplesOf (task : Task) (maxErrorSamples : ℤ) (ids : List ℕ) :
    (samplesOf task maxErrorSamples ids).map LoadErrorSample.iteration =
      (failing task ids).take maxErrorSamples.toNat := by
  have each : ∀ id ∈ (failing task ids).take maxErrorSamples.toNat, (task id).isSome = true :=
    fun id mem => (List.mem_filter.mp (List.mem_of_mem_take mem)).2
  unfold samplesOf
  generalize (failing task ids).take maxErrorSamples.toNat = taken at each ⊢
  induction taken with
  | nil => rfl
  | cons id rest ih =>
    simp only [List.mem_cons, forall_eq_or_imp] at each
    rcases Option.isSome_iff_exists.mp each.1 with ⟨error, raised⟩
    have sample : sampleOf task id = some ⟨id, error.typeName, boundedMessage error.text⟩ := by
      rw [sampleOf, raised]
      rfl
    rw [List.filterMap_cons, sample, List.map_cons, ih each.2]

variable (task maxErrorSamples) in
/-- The samples of a stage, as they are recorded in front of the wrapper. -/
def recordedSamples (offset iterations : ℕ) : List LoadErrorSample :=
  samplesOf (withOffset task offset) maxErrorSamples (List.range iterations)

theorem recordedSamples_zero :
    recordedSamples task maxErrorSamples 0 iterations =
      namedSamples task maxErrorSamples 0 iterations := by
  have same : withOffset task 0 = task := by
    funext index
    rw [withOffset, zero_add]
  rw [recordedSamples, namedSamples, same, List.range_eq_range']

/-- Behind the first stage only a stage without samples records the right identifiers. -/
theorem recordedSamples_eq_iff (behind : 0 < offset) :
    recordedSamples task maxErrorSamples offset iterations =
        namedSamples task maxErrorSamples offset iterations ↔
      maxErrorSamples.toNat = 0 ∨ failing task (List.range' offset iterations) = [] := by
  constructor
  · intro same
    have ids := congrArg (List.map LoadErrorSample.iteration) same
    rw [recordedSamples, namedSamples, iterations_samplesOf, iterations_samplesOf, failing_range',
      ← List.map_take] at ids
    rw [failing_range', List.map_eq_nil_iff]
    cases taken : (failing (withOffset task offset) (List.range iterations)).take
        maxErrorSamples.toNat with
    | nil => exact List.take_eq_nil_iff.mp taken
    | cons index rest =>
      rw [taken, List.map_cons] at ids
      have first := (List.cons.inj ids).1
      omega
  · intro none
    rw [failing_range', List.map_eq_nil_iff, ← List.take_eq_nil_iff] at none
    rw [recordedSamples, namedSamples, samplesOf, samplesOf, failing_range', ← List.map_take, none]
    rfl

end Offset

/-! ### All stages -/

section Stages

variable [Interpreter] {task : Task} {offset : ℕ} {maxErrorSamples : ℤ} {stages : List LoadStage}
  {calls : List ℕ} {results : List (LoadStage × LoadResult)}
  {outcome : Except PyError (List (LoadStage × LoadResult))}

omit [Interpreter] in
theorem range'_cons_stage (stage : LoadStage) :
    List.range' offset (totalIterations (stage :: stages)) =
      List.range' offset stage.iterations.toNat ++
        List.range' (offset + stage.iterations.toNat) (totalIterations stages) := by
  rw [totalIterations, List.map_cons, List.sum_cons]
  exact List.range'_append_1.symm

/-- Every run of the stages returns; the induction is on the stages, for any offset. -/
theorem RunStages.spec (valid : ∀ stage ∈ stages, stage.Valid) (nonneg : 0 ≤ maxErrorSamples)
    (ran : RunStages task maxErrorSamples offset stages calls outcome) :
    ∃ results, outcome = .ok results ∧
      calls.Perm (List.range' offset (totalIterations stages)) ∧
      StagesAre task (recordedSamples task maxErrorSamples) offset stages results := by
  induction stages generalizing offset calls outcome with
  | nil =>
    rcases ran with ⟨rfl, rfl⟩
    exact ⟨[], rfl, List.Perm.refl _, rfl⟩
  | cons stage stages ih =>
    simp only [List.mem_cons, forall_eq_or_imp] at valid
    rw [RunStages, if_neg valid.1.name] at ran
    rcases ran with ⟨indices, result, profile, continues⟩
    rcases profile.spec valid.1 nonneg with ⟨called, evidence, rfl, counts, samples⟩
    rcases continues with ⟨laterCalls, later, rest, rfl, rfl⟩
    rcases ih valid.2 rest with ⟨results, rfl, laterCalled, are⟩
    refine ⟨(stage, evidence) :: results, rfl, ?_, evidence, results, rfl, counts.shift, samples,
      are⟩
    rw [range'_cons_stage, List.range'_eq_map_range]
    exact (called.map _).append laterCalled

theorem exists_runStages (valid : ∀ stage ∈ stages, stage.Valid) (task : Task) (offset : ℕ)
    (nonneg : 0 ≤ maxErrorSamples) :
    ∃ calls outcome, RunStages task maxErrorSamples offset stages calls outcome := by
  induction stages generalizing offset with
  | nil => exact ⟨[], .ok [], rfl, rfl⟩
  | cons stage stages ih =>
    simp only [List.mem_cons, forall_eq_or_imp] at valid
    simp only [RunStages, if_neg valid.1.name, RunProfile,
      checkProfile_of_valid valid.1.iterations valid.1.concurrency,
      refuse_of_fails (not_lt.mpr nonneg)]
    rcases exists_executes (withOffset task offset) stage.iterations.toNat valid.1.concurrency
      with ⟨indices, attempts, executes⟩
    rcases ih valid.2 (offset + stage.iterations.toNat) with ⟨laterCalls, later, ran⟩
    exact ⟨_, _, indices, _, ⟨attempts, .nan, executes, rfl⟩, laterCalls, later, ran, rfl, rfl⟩

/-- A negative bound on the samples is refused before the task is called. -/
theorem runStages_negative {stage : LoadStage} (valid : stage.Valid)
    (negative : maxErrorSamples < 0) :
    RunStages task maxErrorSamples offset (stage :: stages) []
      (.error (.valueError "max_error_samples must be >= 0")) := by
  simp only [RunStages, if_neg valid.name, RunProfile,
    checkProfile_of_valid valid.iterations valid.concurrency, refuse_of_holds negative]
  exact ⟨[], _, ⟨rfl, rfl⟩, rfl, rfl⟩

/-- Two ways of taking samples agree at every stage. -/
def SamplesAgree (samples others : ℕ → ℕ → List LoadErrorSample) : ℕ → List LoadStage → Prop
  | _, [] => True
  | offset, stage :: stages =>
      samples offset stage.iterations.toNat = others offset stage.iterations.toNat ∧
        SamplesAgree samples others (offset + stage.iterations.toNat) stages

omit [Interpreter] in
theorem StagesAre.iff_agree {samples others : ℕ → ℕ → List LoadErrorSample}
    (are : StagesAre task samples offset stages results) :
    StagesAre task others offset stages results ↔ SamplesAgree samples others offset stages := by
  induction stages generalizing offset results with
  | nil => exact iff_of_true are trivial
  | cons stage stages ih =>
    rcases are with ⟨evidence, later, rfl, counts, kept, rest⟩
    constructor
    · intro other
      rcases other with ⟨_, _, same, _, otherKept, otherRest⟩
      rcases List.cons.inj same with ⟨sameStage, rfl⟩
      rw [← (Prod.mk.inj sameStage).2] at otherKept
      exact ⟨kept.symm.trans otherKept, (ih rest).mp otherRest⟩
    · intro agree
      exact ⟨evidence, later, rfl, counts, kept.trans agree.1, (ih rest).mpr agree.2⟩

/-- Behind the first stage the evidence is right when there are no samples at all. -/
theorem samplesAgree_iff (valid : ∀ stage ∈ stages, stage.Valid) (behind : 0 < offset) :
    SamplesAgree (recordedSamples task maxErrorSamples) (namedSamples task maxErrorSamples) offset
        stages ↔
      maxErrorSamples.toNat = 0 ∨
        failing task (List.range' offset (totalIterations stages)) = [] := by
  induction stages generalizing offset with
  | nil => exact iff_of_true trivial (.inr rfl)
  | cons stage stages ih =>
    simp only [List.mem_cons, forall_eq_or_imp] at valid
    have split : failing task (List.range' offset (totalIterations (stage :: stages))) =
        failing task (List.range' offset stage.iterations.toNat) ++
          failing task (List.range' (offset + stage.iterations.toNat) (totalIterations stages)) := by
      rw [range'_cons_stage, failing, List.filter_append]
      rfl
    rw [SamplesAgree, recordedSamples_eq_iff behind, ih valid.2 (by omega), split,
      List.append_eq_nil_iff]
    tauto

/-- The identifiers of the samples are identifiers of the run, in order. -/
theorem StagesAre.sublist
    (are : StagesAre task (namedSamples task maxErrorSamples) offset stages results) :
    (results.flatMap fun result => result.2.errorSamples.map LoadErrorSample.iteration).Sublist
      (List.range' offset (totalIterations stages)) := by
  induction stages generalizing offset results with
  | nil =>
    rw [are]
    exact List.nil_sublist _
  | cons stage stages ih =>
    rcases are with ⟨evidence, later, rfl, _, kept, rest⟩
    rw [range'_cons_stage, List.flatMap_cons, kept, namedSamples, iterations_samplesOf]
    exact ((List.take_sublist _ _).trans List.filter_sublist).append (ih rest)

theorem namesIterations_iff (are : StagesAre task (recordedSamples task maxErrorSamples) 0 stages
      results) (called : calls.Perm (List.range' 0 (totalIterations stages))) :
    NamesIterations task stages maxErrorSamples calls (.ok results) ↔
      SamplesAgree (recordedSamples task maxErrorSamples) (namedSamples task maxErrorSamples) 0
        stages := by
  rw [← are.iff_agree]
  constructor
  · intro names
    rcases names with ⟨_, same, _, named, _⟩
    cases same
    exact named
  · intro named
    rw [← List.range_eq_range'] at called
    exact ⟨results, rfl, called, named, named.sublist.nodup List.nodup_range'⟩

/-- A staged profile names the real iterations exactly when it may keep samples and none of them
is of a later stage. -/
theorem staged_evidence_iff {first : LoadStage} {rest : List LoadStage}
    (valid : ∀ stage ∈ first :: rest, stage.Valid) :
    (∀ calls outcome, RunStagedProfile task (first :: rest) maxErrorSamples calls outcome →
        NamesIterations task (first :: rest) maxErrorSamples calls outcome) ↔
      0 ≤ maxErrorSamples ∧ (maxErrorSamples = 0 ∨
        ∀ id : ℕ, first.iterations ≤ id → id < totalIterations (first :: rest) →
          task id = none) := by
  have each := valid
  simp only [List.mem_cons, forall_eq_or_imp] at each
  have positive := each.1.iterations
  have total : totalIterations (first :: rest) =
      first.iterations.toNat + totalIterations rest := by
    rw [totalIterations, List.map_cons, List.sum_cons]
    rfl
  have quiet : failing task (List.range' first.iterations.toNat (totalIterations rest)) = [] ↔
      ∀ id : ℕ, first.iterations ≤ id → id < totalIterations (first :: rest) →
        task id = none := by
    simp only [failing, List.filter_eq_nil_iff, List.mem_range'_1, Bool.not_eq_true,
      Option.isSome_eq_false_iff, Option.isNone_iff_eq_none, and_imp, Int.toNat_le, total]
  have agree : SamplesAgree (recordedSamples task maxErrorSamples)
      (namedSamples task maxErrorSamples) 0 (first :: rest) ↔ maxErrorSamples.toNat = 0 ∨
        failing task (List.range' first.iterations.toNat (totalIterations rest)) = [] := by
    rw [SamplesAgree, zero_add, samplesAgree_iff each.2 (by omega)]
    exact and_iff_right recordedSamples_zero
  rw [quiet] at agree
  have staged : ∀ calls outcome,
      RunStagedProfile task (first :: rest) maxErrorSamples calls outcome ↔
        RunStages task maxErrorSamples 0 (first :: rest) calls outcome := by
    intro calls outcome
    rw [RunStagedProfile, if_neg (List.cons_ne_nil _ _)]
  simp only [staged]
  constructor
  · intro every
    by_cases negative : maxErrorSamples < 0
    · rcases every _ _ (runStages_negative each.1 negative) with ⟨_, impossible, _⟩
      cases impossible
    · have nonneg := not_lt.mp negative
      rcases exists_runStages valid task 0 nonneg with ⟨calls, outcome, ran⟩
      have names := every calls outcome ran
      rcases ran.spec valid nonneg with ⟨results, rfl, called, are⟩
      have holds := agree.mp ((namesIterations_iff are called).mp names)
      exact ⟨nonneg, holds.imp_left fun none => by omega⟩
  · intro condition calls outcome ran
    rcases condition with ⟨nonneg, holds⟩
    rcases ran.spec valid nonneg with ⟨results, rfl, called, are⟩
    apply (namesIterations_iff are called).mpr
    exact agree.mpr (holds.imp_left fun none => by omega)

end Stages

section Sample

/-- A spike of two calls and a recovery of two calls. -/
def twoStages : List LoadStage := [⟨"spike".toList, 2, 2⟩, ⟨"recovery".toList, 2, 1⟩]

/-- A task that raises on one identifier. -/
def failingOn (id : ℕ) : Task := fun other =>
  if other = id then some ⟨"ValueError".toList, "bad".toList⟩ else none

theorem twoStages_valid : letI := asciiInterpreter []
    ∀ stage ∈ twoStages, stage.Valid := by
  let := asciiInterpreter []
  intro stage mem
  simp only [twoStages, List.mem_cons, List.not_mem_nil, or_false] at mem
  rcases mem with rfl | rfl
  · exact ⟨by decide, by decide, by decide⟩
  · exact ⟨by decide, by decide, by decide⟩

/-- A failure in the first stage is named by its identifier. -/
theorem spike_named : letI := asciiInterpreter []
    ∃ calls outcome, RunStagedProfile (failingOn 1) twoStages 10 calls outcome ∧
      NamesIterations (failingOn 1) twoStages 10 calls outcome := by
  let := asciiInterpreter []
  rcases exists_runStages twoStages_valid (failingOn 1) 0 (by decide : (0 : ℤ) ≤ 10) with
    ⟨calls, outcome, ran⟩
  refine ⟨calls, outcome, ran, (staged_evidence_iff twoStages_valid).mpr ⟨by decide, .inr ?_⟩
    calls outcome ran⟩
  intro id behind _
  have other : id ≠ 1 := by
    intro same
    rw [same] at behind
    revert behind
    decide
  exact if_neg other

/-- A failure in the recovery is named by its place in the stage, the second call by `1`. -/
theorem recovery_misnamed : letI := asciiInterpreter []
    ¬∀ task stages maxErrorSamples, stages ≠ [] → (∀ stage ∈ stages, stage.Valid) →
      0 ≤ maxErrorSamples → ∀ calls outcome,
        RunStagedProfile task stages maxErrorSamples calls outcome →
          NamesIterations task stages maxErrorSamples calls outcome := by
  let := asciiInterpreter []
  intro every
  rcases exists_runStages twoStages_valid (failingOn 3) 0 (by decide : (0 : ℤ) ≤ 10) with
    ⟨calls, outcome, ran⟩
  have names := every (failingOn 3) twoStages 10 (by decide) twoStages_valid (by decide) calls
    outcome ran
  rcases ran.spec twoStages_valid (by decide) with ⟨results, rfl, called, are⟩
  have second := ((namesIterations_iff are called).mp names).2.1
  revert second
  decide

end Sample

end Load

end Psv
