import Mathlib.Data.List.Perm.Basic
import Mathlib.Logic.Relation

/-!
# Workers that empty a queue

Jobs wait in a queue.  A worker that is free takes the first one, and a job that
is being worked on may end at any later moment, with any outcome its relation
allows.  Whatever the order in which the jobs end, each ends exactly once; and
while there are workers and outcomes, the queue can always be emptied.
-/

namespace Interaction

/-- The jobs that wait, the jobs in work, and the jobs that have ended with their outcomes. -/
structure Workers (ι ρ : Type) where
  waiting : List ι
  busy : List ι
  ended : List (ι × ρ)

namespace Workers

variable {ι ρ : Type} (size : ℕ) (outcome : ι → ρ → Prop)

/-- A worker takes a job, or a job ends. -/
inductive Step : Workers ι ρ → Workers ι ρ → Prop where
  | take {job : ι} {waiting busy : List ι} {ended : List (ι × ρ)} (free : busy.length < size) :
      Step ⟨job :: waiting, busy, ended⟩ ⟨waiting, busy ++ [job], ended⟩
  | finish {job : ι} {result : ρ} {waiting front back : List ι} {ended : List (ι × ρ)}
      (ends : outcome job result) :
      Step ⟨waiting, front ++ job :: back, ended⟩ ⟨waiting, front ++ back, ended ++ [(job, result)]⟩

/-- The jobs are worked off, and have ended in this order. -/
def WorkOff (jobs : List ι) (ended : List (ι × ρ)) : Prop :=
  Relation.ReflTransGen (Step size outcome) ⟨jobs, [], []⟩ ⟨[], [], ended⟩

/-- Every job is somewhere, once. -/
def jobs (state : Workers ι ρ) : List ι := state.waiting ++ state.busy ++ state.ended.map Prod.fst

variable {size outcome} {state later : Workers ι ρ} {jobs : List ι} {ended : List (ι × ρ)}

theorem Step.jobs_perm (step : Step size outcome state later) : later.jobs.Perm state.jobs := by
  cases step with
  | @take job waiting busy ended free =>
    have moved : (waiting ++ (busy ++ [job])).Perm (job :: waiting ++ busy) := by
      rw [← List.append_assoc]
      exact List.perm_append_comm
    exact moved.append_right _
  | @finish job result waiting front back ended ends =>
    simp only [Workers.jobs, List.map_append, List.map_cons, List.map_nil, List.append_assoc]
    apply List.Perm.append_left
    apply List.Perm.append_left
    have moved := @List.perm_middle _ job (back ++ ended.map Prod.fst) []
    simpa using moved

theorem Step.outcomes (step : Step size outcome state later)
    (each : ∀ entry ∈ state.ended, outcome entry.1 entry.2) :
    ∀ entry ∈ later.ended, outcome entry.1 entry.2 := by
  cases step with
  | take free => exact each
  | finish ends =>
    intro entry mem
    rcases List.mem_append.mp mem with mem | mem
    · exact each entry mem
    · rw [List.mem_singleton.mp mem]
      exact ends

/-- What holds of the jobs while they are worked off. -/
theorem run_spec (run : Relation.ReflTransGen (Step size outcome) ⟨jobs, [], []⟩ state) :
    state.jobs.Perm jobs ∧ ∀ entry ∈ state.ended, outcome entry.1 entry.2 := by
  induction run with
  | refl =>
    refine ⟨by simp [Workers.jobs], ?_⟩
    intro entry mem
    cases mem
  | tail _ step ih => exact ⟨step.jobs_perm.trans ih.1, step.outcomes ih.2⟩

/-- Each job has ended exactly once, with an outcome of its own. -/
theorem WorkOff.perm (worked : WorkOff size outcome jobs ended) :
    (ended.map Prod.fst).Perm jobs := by
  have spec := (run_spec worked).1
  simpa [Workers.jobs] using spec

theorem WorkOff.results (worked : WorkOff size outcome jobs ended) :
    ∀ entry ∈ ended, outcome entry.1 entry.2 :=
  (run_spec worked).2

/-! ### The queue can be emptied -/

/-- The steps that are left. -/
def remaining (state : Workers ι ρ) : ℕ := 2 * state.waiting.length + state.busy.length

theorem Step.remaining_lt (step : Step size outcome state later) :
    later.remaining < state.remaining := by
  cases step with
  | take free =>
    simp only [remaining, List.length_cons, List.length_append, List.length_nil]
    omega
  | finish ends =>
    simp only [remaining, List.length_cons, List.length_append]
    omega

theorem exists_step (positive : 0 < size) (total : ∀ job, ∃ result, outcome job result)
    (unfinished : state.remaining ≠ 0) : ∃ later, Step size outcome state later := by
  rcases state with ⟨waiting, busy, ended⟩
  rcases busy with _ | ⟨job, busy⟩
  · rcases waiting with _ | ⟨job, waiting⟩
    · exact absurd rfl unfinished
    · exact ⟨_, .take positive⟩
  · rcases total job with ⟨result, ends⟩
    exact ⟨_, @Step.finish ι ρ size outcome job result waiting [] busy ended ends⟩

/-- Wherever the workers stand, they come to an end; the induction is on the steps left. -/
theorem exists_completion (positive : 0 < size) (total : ∀ job, ∃ result, outcome job result)
    (state : Workers ι ρ) :
    ∃ ended, Relation.ReflTransGen (Step size outcome) state ⟨[], [], ended⟩ := by
  induction left : state.remaining using Nat.strongRecOn generalizing state with
  | _ count ih =>
    by_cases finished : state.remaining = 0
    · rcases state with ⟨_ | ⟨job, waiting⟩, _ | ⟨other, busy⟩, ended⟩
      · exact ⟨ended, .refl⟩
      · simp [remaining] at finished
      · simp [remaining] at finished
      · simp [remaining] at finished
    · rcases exists_step positive total finished with ⟨later, step⟩
      rcases ih later.remaining (left ▸ step.remaining_lt) later rfl with ⟨ended, run⟩
      exact ⟨ended, .head step run⟩

theorem exists_workOff (positive : 0 < size) (total : ∀ job, ∃ result, outcome job result)
    (jobs : List ι) : ∃ ended, WorkOff size outcome jobs ended :=
  exists_completion positive total ⟨jobs, [], []⟩

end Workers

end Interaction
