import Psv.Interaction.Threads

/-!
# Threads that share a state

A thread that reads and writes a shared state changes it in stretches: from the answer
to one question to the next question nobody else acts, and what the state looks like
halfway is nobody's business.  `Goes` follows a program through its stretches.  Each of
them has to be within the guarantee of the thread, and in front of each answer the others
may have changed the scene within what the thread relies on.

The scene is the shared state together with the record of everything that was said to
whom, so what a thread has learnt can be stated and stays true.
-/

namespace Interaction

open Program

variable {S : Signature} {σ ε α β ι : Type}

/-- Everything that was said, and in which thread. -/
abbrev Record (S : Signature) (ι : Type) : Type :=
  List (ι × (Σ question : S.Ask, S.Answer question))

/-- The shared state together with the record. -/
abbrev Scene (S : Signature) (σ ι : Type) : Type := σ × Record S ι

/-- The scene after an answer. -/
def Scene.answered (scene : Scene S σ ι) (i : ι) (question : S.Ask) (given : S.Answer question) :
    Scene S σ ι :=
  (scene.1, scene.2 ++ [(i, ⟨question, given⟩)])

/-- Which answers may come, what holds of every scene, what each thread guarantees about its
stretches and what it relies on in between. -/
structure Discipline (S : Signature) (σ ι : Type) where
  allowed : Record S ι → (question : S.Ask) → S.Answer question → Prop
  inv : Scene S σ ι → Prop
  rely : ι → Scene S σ ι → Scene S σ ι → Prop
  guar : ι → Scene S σ ι → Scene S σ ι → Prop
  rely_refl : ∀ i scene, rely i scene scene
  rely_trans : ∀ {i first second third}, rely i first second → rely i second third →
    rely i first third
  rely_answer : ∀ i scene question given, allowed scene.2 question given →
    rely i scene (scene.answered i question given)
  guar_answer : ∀ i scene question given, allowed scene.2 question given →
    guar i scene (scene.answered i question given)
  compatible : ∀ {i j before after}, i ≠ j → guar j before after → rely i before after
  remembers : ∀ {i before after}, rely i before after → before.2 ⊆ after.2
  keeps : ∀ {i before after}, guar i before after → inv before → inv after

namespace Discipline

variable (discipline : Discipline S σ ι)

/-- The answers, all of which are recorded. -/
def answers : Answers S (Record S ι) ι := fun i record question given later =>
  discipline.allowed record question given ∧ later = record ++ [(i, ⟨question, given⟩)]

/-- The program keeps to the discipline from a scene on that it has reached since its last answer,
and ends as `post` says of its last stretch. -/
def Goes (i : ι) (post : Except ε α → Scene S σ ι → Scene S σ ι → Prop) :
    Program S σ ε α → Scene S σ ι → Scene S σ ι → Prop
  | .ret value, since, now => post (.ok value) since now
  | .raise error, since, now => post (.error error) since now
  | .get next, since, now => Goes i post (next now.1) since now
  | .set state next, since, now => Goes i post next since (state, now.2)
  | .ask question next, since, now => discipline.guar i since now ∧
      ∀ before, discipline.inv before → discipline.rely i now before →
        ∀ given, discipline.allowed before.2 question given →
          Goes i post (next given) before (before.answered i question given)

/-- A conversation of one thread, with the scenes of the last stretch. -/
inductive Passes (i : ι) :
    Scene S σ ι → Scene S σ ι → History S → Scene S σ ι → Scene S σ ι → Prop
  | stay (since now : Scene S σ ι) : Passes i since now [] since now
  | answer {since now before since' now' : Scene S σ ι} {question : S.Ask}
      {given : S.Answer question} {said : History S} (valid : discipline.inv before)
      (meanwhile : discipline.rely i now before)
      (allowed : discipline.allowed before.2 question given)
      (more : Passes i before (before.answered i question given) said since' now') :
      Passes i since now (⟨question, given⟩ :: said) since' now'

variable {discipline} {i : ι} {post : Except ε α → Scene S σ ι → Scene S σ ι → Prop}
  {program : Program S σ ε α} {since now since' now' : Scene S σ ι} {said : History S}

/-! ### Conversations -/

theorem Passes.rely (passes : discipline.Passes i since now said since' now') :
    discipline.rely i now now' := by
  induction passes with
  | stay => exact discipline.rely_refl i _
  | answer _ meanwhile allowed _ ih =>
    exact discipline.rely_trans meanwhile
      (discipline.rely_trans (discipline.rely_answer i _ _ _ allowed) ih)

theorem Passes.guar (passes : discipline.Passes i since now said since' now')
    (guar : discipline.guar i since now) : discipline.guar i since' now' := by
  induction passes with
  | stay => exact guar
  | answer _ _ allowed _ ih => exact ih (discipline.guar_answer i _ _ _ allowed)

theorem Passes.inv (passes : discipline.Passes i since now said since' now')
    (valid : discipline.inv now) : discipline.inv now' := by
  induction passes with
  | stay => exact valid
  | answer here _ allowed _ ih =>
    exact ih (discipline.keeps (discipline.guar_answer i _ _ _ allowed) here)

/-- What was said is on record. -/
theorem Passes.recorded (passes : discipline.Passes i since now said since' now') :
    ∀ entry ∈ said, (i, entry) ∈ now'.2 := by
  induction passes with
  | stay => simp
  | answer _ _ _ more ih =>
    intro entry mem
    rcases List.mem_cons.mp mem with rfl | later
    · exact discipline.remembers more.rely (List.mem_append_right _ (List.mem_singleton_self _))
    · exact ih entry later

/-! ### Rules -/

theorem Goes.bind {next : α → Program S σ ε β}
    {final : Except ε β → Scene S σ ι → Scene S σ ι → Prop}
    (goes : discipline.Goes i post program since now)
    (continues : ∀ value since now, post (.ok value) since now →
      discipline.Goes i final (next value) since now)
    (fails : ∀ error since now, post (.error error) since now → final (.error error) since now) :
    discipline.Goes i final (program >>= next) since now := by
  change discipline.Goes i final (program.andThen next) since now
  induction program generalizing since now with
  | ret value => exact continues _ _ _ goes
  | raise error => exact fails _ _ _ goes
  | get inner ih => exact ih now.1 goes
  | set state inner ih => exact ih goes
  | ask question inner ih =>
    exact ⟨goes.1, fun before valid meanwhile given allowed =>
      ih given (goes.2 before valid meanwhile given allowed)⟩

theorem goes_state_bind {next : σ → Program S σ ε β}
    {final : Except ε β → Scene S σ ι → Scene S σ ι → Prop}
    (goes : discipline.Goes i final (next now.1) since now) :
    discipline.Goes i final (state >>= next) since now :=
  goes

theorem goes_modify_bind {update : σ → σ} {next : Unit → Program S σ ε β}
    {final : Except ε β → Scene S σ ι → Scene S σ ι → Prop}
    (goes : discipline.Goes i final (next ()) since (update now.1, now.2)) :
    discipline.Goes i final (modify update >>= next) since now :=
  goes

theorem goes_question_bind {asked : S.Ask} {next : S.Answer asked → Program S σ ε β}
    {final : Except ε β → Scene S σ ι → Scene S σ ι → Prop} (guar : discipline.guar i since now)
    (continues : ∀ before, discipline.inv before → discipline.rely i now before →
      ∀ given, discipline.allowed before.2 asked given →
        discipline.Goes i final (next given) before (before.answered i asked given)) :
    discipline.Goes i final (question asked >>= next) since now :=
  ⟨guar, continues⟩

theorem goes_lift_bind {computation : Except ε α} {next : α → Program S σ ε β}
    {final : Except ε β → Scene S σ ι → Scene S σ ι → Prop}
    (continues : ∀ value, computation = .ok value →
      discipline.Goes i final (next value) since now)
    (fails : ∀ error, computation = .error error → final (.error error) since now) :
    discipline.Goes i final (lift computation >>= next) since now := by
  rcases computation with error | value
  · exact fails error rfl
  · exact continues value rfl

/-- A program without a state in front of another, with its outcome caught. -/
theorem Goes.attempt_bind {next : Except ε α → Program S σ ε β}
    {final : Except ε β → Scene S σ ι → Scene S σ ι → Prop} (stateless : program.Stateless)
    (guar : discipline.guar i since now)
    (continues : ∀ outcome said since' now', program.Tells said outcome →
      discipline.Passes i since now said since' now' →
      discipline.Goes i final (next outcome) since' now') :
    discipline.Goes i final (program.attempt >>= next) since now := by
  induction program generalizing since now with
  | ret value => exact continues _ _ _ _ ⟨now.1, rfl, rfl, rfl⟩ (.stay since now)
  | raise error => exact continues _ _ _ _ ⟨now.1, rfl, rfl, rfl⟩ (.stay since now)
  | get inner _ => exact stateless.elim
  | set state inner _ => exact stateless.elim
  | ask question inner ih =>
    refine ⟨guar, fun before valid meanwhile given allowed => ?_⟩
    refine ih given (stateless given) (discipline.guar_answer i _ _ _ allowed) ?_
    rintro outcome said since' now' ⟨state, told⟩ passes
    exact continues outcome _ _ _ ⟨state, given, said, rfl, told⟩
      (.answer valid meanwhile allowed passes)

/-- A program without a state in front of another. -/
theorem Goes.stateless_bind {next : α → Program S σ ε β}
    {final : Except ε β → Scene S σ ι → Scene S σ ι → Prop} (stateless : program.Stateless)
    (guar : discipline.guar i since now)
    (continues : ∀ value said since' now', program.Tells said (.ok value) →
      discipline.Passes i since now said since' now' →
      discipline.Goes i final (next value) since' now')
    (fails : ∀ error said since' now', program.Tells said (.error error) →
      discipline.Passes i since now said since' now' → final (.error error) since' now') :
    discipline.Goes i final (program >>= next) since now := by
  change discipline.Goes i final (program.andThen next) since now
  induction program generalizing since now with
  | ret value => exact continues _ _ _ _ ⟨now.1, rfl, rfl, rfl⟩ (.stay since now)
  | raise error => exact fails _ _ _ _ ⟨now.1, rfl, rfl, rfl⟩ (.stay since now)
  | get inner _ => exact stateless.elim
  | set state inner _ => exact stateless.elim
  | ask question inner ih =>
    refine ⟨guar, fun before valid meanwhile given allowed => ?_⟩
    refine ih given (stateless given) (discipline.guar_answer i _ _ _ allowed) ?_ ?_
    · rintro value said since' now' ⟨state, told⟩ passes
      exact continues value _ _ _ ⟨state, given, said, rfl, told⟩
        (.answer valid meanwhile allowed passes)
    · rintro error said since' now' ⟨state, told⟩ passes
      exact fails error _ _ _ ⟨state, given, said, rfl, told⟩
        (.answer valid meanwhile allowed passes)

/-! ### Pools -/

section Pools

variable (discipline) in
/-- How a thread has to end: its last stretch is within its guarantee, and what it ends with holds
from then on. -/
def Ends (done : ι → Except ε α → Scene S σ ι → Prop) (i : ι) (result : Except ε α)
    (since now : Scene S σ ι) : Prop :=
  discipline.guar i since now ∧ ∀ later, discipline.inv later → discipline.rely i now later →
    done i result later

variable {done : ι → Except ε α → Scene S σ ι → Prop}

variable (discipline done) in
/-- A thread between two stretches. -/
def Suspended (i : ι) : Program S σ ε α → Scene S σ ι → Prop
  | .ret value, now => ∀ later, discipline.inv later → discipline.rely i now later →
      done i (.ok value) later
  | .raise error, now => ∀ later, discipline.inv later → discipline.rely i now later →
      done i (.error error) later
  | .get _, _ => False
  | .set _ _, _ => False
  | .ask question next, now => ∀ before, discipline.inv before → discipline.rely i now before →
      ∀ given, discipline.allowed before.2 question given →
        discipline.Goes i (discipline.Ends done i) (next given) before
          (before.answered i question given)

theorem Suspended.stable {later : Scene S σ ι}
    (suspended : discipline.Suspended done i program now) (step : discipline.rely i now later) :
    discipline.Suspended done i program later := by
  cases program with
  | ret value =>
    exact fun final valid more => suspended final valid (discipline.rely_trans step more)
  | raise error =>
    exact fun final valid more => suspended final valid (discipline.rely_trans step more)
  | get next => exact suspended
  | set state next => exact suspended
  | ask question next =>
    exact fun before valid more => suspended before valid (discipline.rely_trans step more)

/-- A stretch is within the guarantee of its thread, and leaves it suspended. -/
theorem Goes.stretch (goes : discipline.Goes i (discipline.Ends done i) program since now) :
    discipline.guar i since ((program.drain now.1).2, now.2) ∧
      discipline.Suspended done i (program.drain now.1).1 ((program.drain now.1).2, now.2) := by
  induction program generalizing now with
  | ret value => exact goes
  | raise error => exact goes
  | get next ih => exact ih now.1 goes
  | set state next ih => exact @ih (state, now.2) goes
  | ask question next ih => exact goes

/-- The scene of a pool. -/
def scene (pool : Pool S σ ε α (Record S ι) ι) : Scene S σ ι := (pool.shared, pool.world)

variable (discipline done) in
/-- A thread of a pool, which may not have started. -/
def Threaded (i : ι) (thread : Thread S σ ε α) (now : Scene S σ ι) : Prop :=
  if thread.started then discipline.Suspended done i thread.program now
  else ∀ scene, discipline.inv scene →
    discipline.Goes i (discipline.Ends done i) thread.program scene scene

variable (discipline done) in
/-- Every thread of the pool keeps to the discipline. -/
structure Safe (pool : Pool S σ ε α (Record S ι) ι) : Prop where
  inv : discipline.inv (scene pool)
  threaded : ∀ i, discipline.Threaded done i (pool.threads i) (scene pool)

variable {pool later : Pool S σ ε α (Record S ι) ι}

theorem Threaded.stable {thread : Thread S σ ε α} {later : Scene S σ ι}
    (threaded : discipline.Threaded done i thread now) (step : discipline.rely i now later) :
    discipline.Threaded done i thread later := by
  unfold Threaded at threaded ⊢
  split_ifs at threaded ⊢ with running
  · exact threaded.stable step
  · exact threaded

/-- What a thread has ended with holds. -/
theorem Safe.ended (safe : discipline.Safe done pool) {value : α}
    (running : (pool.threads i).started = true) (ended : (pool.threads i).program = .ret value) :
    done i (.ok value) (scene pool) := by
  have threaded := safe.threaded i
  rw [Threaded, if_pos running, ended] at threaded
  exact threaded _ safe.inv (discipline.rely_refl i _)

variable [DecidableEq ι]

/-- A stretch of one thread leaves every thread safe. -/
theorem Safe.put (safe : discipline.Safe done pool) {state : σ} {record : Record S ι}
    {told : History S} {program : Program S σ ε α}
    (goes : discipline.Goes i (discipline.Ends done i) program (scene pool) (state, record)) :
    discipline.guar i (scene pool) (scene (pool.put i
        ((pool.threads i).resume told program state) record)) ∧
      discipline.Safe done (pool.put i ((pool.threads i).resume told program state) record) := by
  rcases goes.stretch with ⟨guar, suspended⟩
  refine ⟨guar, discipline.keeps guar safe.inv, fun j => ?_⟩
  by_cases same : j = i
  · subst same
    simp only [Threaded, Pool.put, Thread.resume, Function.update_self, if_true]
    exact suspended
  · simp only [Pool.put, Function.update_of_ne same]
    exact (safe.threaded j).stable (discipline.compatible same guar)

/-- Every move is within the guarantee of its thread, and leaves every thread safe. -/
theorem Safe.move (safe : discipline.Safe done pool) (move : Move discipline.answers pool i later) :
    discipline.guar i (scene pool) (scene later) ∧ discipline.Safe done later := by
  have threaded := safe.threaded i
  cases move with
  | start fresh =>
    rw [Threaded, if_neg (by simp [fresh])] at threaded
    exact safe.put (threaded _ safe.inv)
  | answer running asks answered =>
    rw [Threaded, if_pos running, asks] at threaded
    rcases answered with ⟨allowed, rfl⟩
    exact safe.put (threaded _ safe.inv (discipline.rely_refl i _) _ allowed)

/-- In every interleaving every thread keeps to the discipline, and what happens is a sequence of
guaranteed stretches. -/
theorem Safe.reaches (safe : discipline.Safe done pool)
    (reaches : Reaches discipline.answers pool later) :
    Relation.ReflTransGen (fun before after => ∃ i, discipline.guar i before after) (scene pool)
      (scene later) ∧ discipline.Safe done later := by
  induction reaches with
  | refl => exact ⟨Relation.ReflTransGen.refl, safe⟩
  | tail _ moves ih =>
    rcases moves with ⟨i, move⟩
    rcases ih.2.move move with ⟨guar, kept⟩
    exact ⟨ih.1.tail ⟨i, guar⟩, kept⟩

omit [DecidableEq ι] in
/-- Threads that have not started and keep to the discipline are safe. -/
theorem safe_of_fresh (valid : discipline.inv (scene pool))
    (fresh : ∀ i, (pool.threads i).started = false)
    (goes : ∀ i scene, discipline.inv scene →
      discipline.Goes i (discipline.Ends done i) (pool.threads i).program scene scene) :
    discipline.Safe done pool := by
  refine ⟨valid, fun i => ?_⟩
  rw [Threaded, if_neg (by simp [fresh i])]
  exact goes i

end Pools

end Discipline

end Interaction
