import Psv.Interaction.Program
import Mathlib.Logic.Relation
import Mathlib.Logic.Function.Basic
import Mathlib.Order.Defs.Unbundled

/-!
# Programs that run side by side

A `Pool` holds a family of programs over one local state and one world.  What the
world may answer to whom, and how it changes, is a relation; a thread runs from
one question to the next without interruption, and between two questions of one
thread any number of questions of others can be answered.

Concurrent programs are verified one at a time.  `Guarded` says of a single
program that each of its questions changes the world only as `guar` allows and
that it ends as `post` says, whatever others do within `rely` between its
questions.  `guarded_of_reaches` puts the programs together: when each one's
guarantee is within what the others rely on, every thread of every reachable pool
is still guarded.
-/

namespace Interaction

open Program

variable {S : Signature} {σ ε α β ω ι : Type}

namespace Program

/-- Run a program up to its next question or to its end. -/
def drain : Program S σ ε α → σ → Program S σ ε α × σ
  | .get next, state => (next state).drain state
  | .set newState next, _ => next.drain newState
  | program, state => (program, state)

end Program

/-- A program that may not have started yet, with its own conversation. -/
structure Thread (S : Signature) (σ ε α : Type) where
  program : Program S σ ε α
  started : Bool
  said : History S

/-- Threads over a shared state and a world. -/
structure Pool (S : Signature) (σ ε α ω ι : Type) where
  threads : ι → Thread S σ ε α
  shared : σ
  world : ω

/-- What a world may answer to whom, and what becomes of it. -/
abbrev Answers (S : Signature) (ω ι : Type) : Type :=
  ι → ω → (question : S.Ask) → S.Answer question → ω → Prop

/-- A thread that has run up to its next question. -/
def Thread.resume (thread : Thread S σ ε α) (said : History S) (program : Program S σ ε α)
    (state : σ) : Thread S σ ε α × σ :=
  (⟨(program.drain state).1, true, thread.said ++ said⟩, (program.drain state).2)

variable [DecidableEq ι]

/-- Put a thread that has run on into its place. -/
def Pool.put (pool : Pool S σ ε α ω ι) (i : ι) (resumed : Thread S σ ε α × σ) (world : ω) :
    Pool S σ ε α ω ι :=
  ⟨Function.update pool.threads i resumed.1, resumed.2, world⟩

/-- One move of one thread: it starts, or its question is answered. -/
inductive Move (answers : Answers S ω ι) (pool : Pool S σ ε α ω ι) (i : ι) :
    Pool S σ ε α ω ι → Prop where
  | start (fresh : (pool.threads i).started = false) :
      Move answers pool i
        (pool.put i ((pool.threads i).resume [] (pool.threads i).program pool.shared) pool.world)
  | answer {question : S.Ask} {next : S.Answer question → Program S σ ε α}
      {given : S.Answer question} {world : ω} (running : (pool.threads i).started = true)
      (asks : (pool.threads i).program = .ask question next)
      (answered : answers i pool.world question given world) :
      Move answers pool i
        (pool.put i ((pool.threads i).resume [⟨question, given⟩] (next given) pool.shared) world)

theorem Move.threads_of_ne {answers : Answers S ω ι} {pool later : Pool S σ ε α ω ι} {i j : ι}
    (move : Move answers pool j later) (different : i ≠ j) : later.threads i = pool.threads i := by
  cases move with
  | start fresh => exact Function.update_of_ne different _ _
  | answer running asks answered => exact Function.update_of_ne different _ _

/-- Some thread moves. -/
def Moves (answers : Answers S ω ι) (pool later : Pool S σ ε α ω ι) : Prop :=
  ∃ i, Move answers pool i later

/-- Any number of moves. -/
abbrev Reaches (answers : Answers S ω ι) : Pool S σ ε α ω ι → Pool S σ ε α ω ι → Prop :=
  Relation.ReflTransGen (Moves answers)

/-! ### Rely and guarantee -/

section Guarded

variable {answers : ω → (question : S.Ask) → S.Answer question → ω → Prop}
  {rely guar : ω → ω → Prop} {said : History S} {world : ω}

/-- Whatever others do within `rely`, the program changes the world only within `guar` and ends
within `post`, which is about the result, the conversation and the world. -/
def Guarded (answers : ω → (question : S.Ask) → S.Answer question → ω → Prop)
    (rely guar : ω → ω → Prop) (post : Except ε α → History S → ω → Prop) :
    Program S Unit ε α → History S → ω → Prop
  | .ret value, said, world => ∀ later, rely world later → post (.ok value) said later
  | .raise error, said, world => ∀ later, rely world later → post (.error error) said later
  | .get next, said, world => Guarded answers rely guar post (next ()) said world
  | .set _ next, said, world => Guarded answers rely guar post next said world
  | .ask question next, said, world =>
      ∀ before, rely world before → ∀ given after, answers before question given after →
        guar before after ∧
          Guarded answers rely guar post (next given) (said ++ [⟨question, given⟩]) after

variable {post : Except ε α → History S → ω → Prop} {program : Program S Unit ε α}

theorem Guarded.stable [IsTrans ω rely] {later : ω}
    (guarded : Guarded answers rely guar post program said world) (step : rely world later) :
    Guarded answers rely guar post program said later := by
  induction program with
  | ret value => exact fun final more => guarded final (IsTrans.trans _ _ _ step more)
  | raise error => exact fun final more => guarded final (IsTrans.trans _ _ _ step more)
  | get next ih => exact ih () guarded
  | set newState next ih => exact ih guarded
  | ask question next ih => exact fun before more => guarded before (IsTrans.trans _ _ _ step more)

theorem Guarded.mono {weaker : Except ε α → History S → ω → Prop}
    (guarded : Guarded answers rely guar post program said world)
    (implies : ∀ result said world, post result said world → weaker result said world) :
    Guarded answers rely guar weaker program said world := by
  induction program generalizing said world with
  | ret value => exact fun later step => implies _ _ _ (guarded later step)
  | raise error => exact fun later step => implies _ _ _ (guarded later step)
  | get next ih => exact ih () guarded
  | set newState next ih => exact ih guarded
  | ask question next ih =>
      intro before step given after answered
      rcases guarded before step given after answered with ⟨allowed, rest⟩
      exact ⟨allowed, ih given rest⟩

theorem Guarded.weaken {allowed : ω → ω → Prop}
    (guarded : Guarded answers rely guar post program said world)
    (implies : ∀ before after, guar before after → allowed before after) :
    Guarded answers rely allowed post program said world := by
  induction program generalizing said world with
  | ret value => exact guarded
  | raise error => exact guarded
  | get next ih => exact ih () guarded
  | set newState next ih => exact ih guarded
  | ask question next ih =>
      intro before step given after answered
      rcases guarded before step given after answered with ⟨changes, rest⟩
      exact ⟨implies _ _ changes, ih given rest⟩

theorem Guarded.bind [Std.Refl rely] {next : α → Program S Unit ε β}
    {final : Except ε β → History S → ω → Prop}
    (guarded : Guarded answers rely guar post program said world)
    (continues : ∀ value said world, post (.ok value) said world →
      Guarded answers rely guar final (next value) said world)
    (fails : ∀ error said world, post (.error error) said world →
      final (.error error) said world) :
    Guarded answers rely guar final (program >>= next) said world := by
  change Guarded answers rely guar final (program.andThen next) said world
  induction program generalizing said world with
  | ret value => exact continues _ _ _ (guarded world (refl world))
  | raise error => exact fun later step => fails _ _ _ (guarded later step)
  | get inner ih => exact ih () guarded
  | set newState inner ih => exact ih guarded
  | ask question inner ih =>
      intro before step given after answered
      rcases guarded before step given after answered with ⟨allowed, rest⟩
      exact ⟨allowed, ih given rest⟩

theorem Guarded.handle [Std.Refl rely] {handler : ε → Program S Unit ε α}
    {final : Except ε α → History S → ω → Prop}
    (guarded : Guarded answers rely guar post program said world)
    (succeeds : ∀ value said world, post (.ok value) said world → final (.ok value) said world)
    (handles : ∀ error said world, post (.error error) said world →
      Guarded answers rely guar final (handler error) said world) :
    Guarded answers rely guar final (program.handle handler) said world := by
  induction program generalizing said world with
  | ret value => exact fun later step => succeeds _ _ _ (guarded later step)
  | raise error => exact handles _ _ _ (guarded world (refl world))
  | get inner ih => exact ih () guarded
  | set newState inner ih => exact ih guarded
  | ask question inner ih =>
      intro before step given after answered
      rcases guarded before step given after answered with ⟨allowed, rest⟩
      exact ⟨allowed, ih given rest⟩

theorem Guarded.attempt (guarded : Guarded answers rely guar post program said world)
    {final : Except ε (Except ε α) → History S → ω → Prop}
    (implies : ∀ result said world, post result said world → final (.ok result) said world) :
    Guarded answers rely guar final program.attempt said world := by
  induction program generalizing said world with
  | ret value => exact fun later step => implies _ _ _ (guarded later step)
  | raise error => exact fun later step => implies _ _ _ (guarded later step)
  | get inner ih => exact ih () guarded
  | set newState inner ih => exact ih guarded
  | ask question inner ih =>
      intro before step given after answered
      rcases guarded before step given after answered with ⟨allowed, rest⟩
      exact ⟨allowed, ih given rest⟩

theorem guarded_lift {computation : Except ε α}
    (holds : ∀ later, rely world later → post computation said later) :
    Guarded answers rely guar post (lift computation) said world := by
  rcases computation with error | value
  · exact holds
  · exact holds

/-- A computation without questions in front. -/
theorem guarded_lift_bind {computation : Except ε α} {next : α → Program S Unit ε β}
    {final : Except ε β → History S → ω → Prop}
    (continues : ∀ value, computation = .ok value →
      Guarded answers rely guar final (next value) said world)
    (fails : ∀ error, computation = .error error → ∀ later, rely world later →
      final (.error error) said later) :
    Guarded answers rely guar final (lift computation >>= next) said world := by
  rcases computation with error | value
  · exact fails error rfl
  · exact continues value rfl

theorem guarded_drain :
    Guarded answers rely guar post (program.drain ()).1 said world ↔
      Guarded answers rely guar post program said world := by
  induction program with
  | ret value => exact Iff.rfl
  | raise error => exact Iff.rfl
  | get next ih => exact ih ()
  | set newState next ih => exact ih
  | ask question next ih => exact Iff.rfl

end Guarded

/-! ### Putting the threads together -/

section Pools

variable {answers : Answers S ω ι} {rely guar : ι → ω → ω → Prop}
  {post : ι → Except ε α → History S → ω → Prop} {pool later : Pool S Unit ε α ω ι}

/-- Every thread is guarded in the world as it is. -/
def AllGuarded (answers : Answers S ω ι) (rely guar : ι → ω → ω → Prop)
    (post : ι → Except ε α → History S → ω → Prop) (pool : Pool S Unit ε α ω ι) : Prop :=
  ∀ i, Guarded (answers i) (rely i) (guar i) (post i) (pool.threads i).program
    (pool.threads i).said pool.world

omit [DecidableEq ι] in
theorem Guarded.ask {i : ι} {question : S.Ask} {next : S.Answer question → Program S Unit ε α}
    {given : S.Answer question} {world : ω} [Std.Refl (rely i)]
    (guarded : AllGuarded answers rely guar post pool)
    (asks : (pool.threads i).program = .ask question next)
    (answered : answers i pool.world question given world) :
    guar i pool.world world ∧ Guarded (answers i) (rely i) (guar i) (post i) (next given)
      ((pool.threads i).said ++ [⟨question, given⟩]) world := by
  have own := guarded i
  rw [asks] at own
  exact own pool.world (refl pool.world) given world answered

theorem AllGuarded.move [∀ i, IsPreorder ω (rely i)]
    (compatible : ∀ i j, i ≠ j → ∀ before after, guar j before after → rely i before after)
    (guarded : AllGuarded answers rely guar post pool) {i : ι}
    (move : Move answers pool i later) : AllGuarded answers rely guar post later := by
  intro j
  cases move with
  | start fresh =>
      by_cases same : j = i
      · subst same
        simp only [Pool.put, Thread.resume, Function.update_self, List.append_nil]
        exact guarded_drain.mpr (guarded j)
      · simp only [Pool.put, Function.update_of_ne same]
        exact guarded j
  | answer running asks answered =>
      rcases Guarded.ask guarded asks answered with ⟨allowed, rest⟩
      by_cases same : j = i
      · subst same
        simp only [Pool.put, Thread.resume, Function.update_self]
        exact guarded_drain.mpr rest
      · simp only [Pool.put, Function.update_of_ne same]
        exact (guarded j).stable (compatible j i same _ _ allowed)

/-- Threads with compatible guarantees stay guarded in every interleaving. -/
theorem guarded_of_reaches [∀ i, IsPreorder ω (rely i)]
    (compatible : ∀ i j, i ≠ j → ∀ before after, guar j before after → rely i before after)
    (guarded : AllGuarded answers rely guar post pool) (reaches : Reaches answers pool later) :
    AllGuarded answers rely guar post later := by
  induction reaches with
  | refl => exact guarded
  | tail _ moves ih =>
      rcases moves with ⟨i, move⟩
      exact ih.move compatible move

/-- A move leaves the world alone or changes it within the guarantee of the thread. -/
theorem AllGuarded.change [∀ i, IsPreorder ω (rely i)] (guarded : AllGuarded answers rely guar post pool)
    {i : ι} (move : Move answers pool i later) :
    later.world = pool.world ∨ guar i pool.world later.world := by
  cases move with
  | start fresh => exact Or.inl rfl
  | answer running asks answered => exact Or.inr (Guarded.ask guarded asks answered).1

end Pools

/-! ### A thread on its own -/

section Alone

/-- The world gives these answers, one after another. -/
def Through (answers : ω → (question : S.Ask) → S.Answer question → ω → Prop) :
    ω → History S → ω → Prop
  | world, [], later => later = world
  | world, entry :: rest, later =>
      ∃ middle, answers world entry.1 entry.2 middle ∧ Through answers middle rest later

theorem through_append_iff {answers : ω → (question : S.Ask) → S.Answer question → ω → Prop}
    {world later : ω} {first second : History S} :
    Through answers world (first ++ second) later ↔
      ∃ middle, Through answers world first middle ∧ Through answers middle second later := by
  induction first generalizing world with
  | nil => simp [Through]
  | cons entry first ih =>
      simp only [List.cons_append, Through, ih]
      constructor
      · rintro ⟨next, answered, middle, before, after⟩
        exact ⟨middle, ⟨next, answered, before⟩, after⟩
      · rintro ⟨middle, ⟨next, answered, before⟩, after⟩
        exact ⟨next, answered, middle, before, after⟩

/-- A program that has come to its end. -/
def ending : Except ε α → Program S σ ε α
  | .ok value => .ret value
  | .error error => .raise error

theorem drain_nil {program : Program S σ ε α} {state finalState : σ} {result : Except ε α}
    (replays : program.Replays state [] result finalState) :
    program.drain state = (ending result, finalState) := by
  induction program generalizing state with
  | ret value =>
      rcases replays with ⟨_, rfl, rfl⟩
      rfl
  | raise error =>
      rcases replays with ⟨_, rfl, rfl⟩
      rfl
  | get next ih => exact ih state replays
  | set newState next ih => exact ih replays
  | ask question next ih =>
      rcases replays with ⟨_, _, impossible, _⟩
      cases impossible

theorem drain_cons {program : Program S σ ε α} {state finalState : σ} {result : Except ε α}
    {entry : Σ question : S.Ask, S.Answer question} {rest : History S}
    (replays : program.Replays state (entry :: rest) result finalState) :
    ∃ next later, program.drain state = (.ask entry.1 next, later) ∧
      (next entry.2).Replays later rest result finalState := by
  induction program generalizing state with
  | ret value =>
      rcases replays with ⟨impossible, _⟩
      cases impossible
  | raise error =>
      rcases replays with ⟨impossible, _⟩
      cases impossible
  | get next ih => exact ih state replays
  | set newState next ih => exact ih replays
  | ask question next ih =>
      rcases replays with ⟨answer, _, same, continues⟩
      cases same
      exact ⟨next, state, rfl, continues⟩

omit [DecidableEq ι] in
/-- A guarded program that is left alone ends as it should, each step within its guarantee. -/
theorem Guarded.through {answers : ω → (question : S.Ask) → S.Answer question → ω → Prop}
    {rely guar : ω → ω → Prop} [Std.Refl rely] {post : Except ε α → History S → ω → Prop}
    {program : Program S Unit ε α} {earlier said : History S} {result : Except ε α} {world later : ω}
    (guarded : Guarded answers rely guar post program earlier world)
    (replays : program.Replays () said result ()) (through : Through answers world said later) :
    post result (earlier ++ said) later ∧ Relation.ReflTransGen guar world later := by
  induction program generalizing earlier said world with
  | ret value =>
      rcases replays with ⟨rfl, rfl, _⟩
      cases through
      rw [List.append_nil]
      exact ⟨guarded later (refl later), Relation.ReflTransGen.refl⟩
  | raise error =>
      rcases replays with ⟨rfl, rfl, _⟩
      cases through
      rw [List.append_nil]
      exact ⟨guarded later (refl later), Relation.ReflTransGen.refl⟩
  | get next ih => exact ih () guarded replays through
  | set newState next ih => exact ih guarded replays through
  | ask question next ih =>
      rcases replays with ⟨answer, rest, rfl, continues⟩
      rcases through with ⟨middle, answered, more⟩
      rcases guarded world (refl world) answer middle answered with ⟨changes, remains⟩
      rcases ih answer remains continues more with ⟨ends, steps⟩
      rw [List.append_assoc] at ends
      exact ⟨ends, Relation.ReflTransGen.head changes steps⟩

/-- Answers in front of each of which others act within `rely`. -/
def amid (rely : ω → ω → Prop) (answers : ω → (question : S.Ask) → S.Answer question → ω → Prop)
    (before : ω) (question : S.Ask) (answer : S.Answer question) (after : ω) : Prop :=
  ∃ middle, rely before middle ∧ answers middle question answer after

omit [DecidableEq ι] in
/-- The others may do nothing. -/
theorem through_amid {answers : ω → (question : S.Ask) → S.Answer question → ω → Prop}
    {rely : ω → ω → Prop} [Std.Refl rely] {said : History S} {world later : ω}
    (through : Through answers world said later) : Through (amid rely answers) world said later := by
  induction said generalizing world with
  | nil => exact through
  | cons entry said ih =>
      rcases through with ⟨middle, answered, more⟩
      exact ⟨middle, ⟨world, refl world, answered⟩, ih more⟩

omit [DecidableEq ι] in
/-- A guarded program among others ends as it should. -/
theorem Guarded.amid {answers : ω → (question : S.Ask) → S.Answer question → ω → Prop}
    {rely guar : ω → ω → Prop} [Std.Refl rely] {post : Except ε α → History S → ω → Prop}
    {program : Program S Unit ε α} {earlier said : History S} {result : Except ε α} {world later : ω}
    (guarded : Guarded answers rely guar post program earlier world)
    (replays : program.Replays () said result ())
    (through : Through (amid rely answers) world said later) :
    post result (earlier ++ said) later := by
  induction program generalizing earlier said world with
  | ret value =>
      rcases replays with ⟨rfl, rfl, _⟩
      cases through
      rw [List.append_nil]
      exact guarded later (refl later)
  | raise error =>
      rcases replays with ⟨rfl, rfl, _⟩
      cases through
      rw [List.append_nil]
      exact guarded later (refl later)
  | get next ih => exact ih () guarded replays through
  | set newState next ih => exact ih guarded replays through
  | ask question next ih =>
      rcases replays with ⟨answer, rest, rfl, continues⟩
      rcases through with ⟨middle, ⟨before, step, answered⟩, more⟩
      have ends := ih answer (guarded before step answer middle answered).2 continues more
      rwa [List.append_assoc] at ends

variable {answers : Answers S ω ι} {pool : Pool S σ ε α ω ι} {i : ι} {said : History S}
  {result : Except ε α} {finalState : σ} {world later : ω}

theorem put_running (pool : Pool S σ ε α ω ι) (said : History S)
    (program : Program S σ ε α) (state : σ) (world : ω) :
    ((pool.put i ((pool.threads i).resume said program state) world).threads i).started = true := by
  simp only [Pool.put, Function.update_self, Thread.resume]

theorem Pool.put_put (pool : Pool S σ ε α ω ι) (first second : Thread S σ ε α × σ)
    (world later : ω) : (pool.put i first world).put i second later = pool.put i second later := by
  simp only [Pool.put, Function.update_idem]

/-- A thread that waits at a question goes through the front of a conversation it can have, and has
the rest of it before it. -/
theorem reaches_front {program : Program S σ ε α} {state : σ} {told front back : History S}
    (pool : Pool S σ ε α ω ι) (replays : program.Replays state (front ++ back) result finalState)
    (through : Through (answers i) world front later) :
    ∃ (rest : Program S σ ε α) (between : σ), rest.Replays between back result finalState ∧
      Reaches answers
      (pool.put i (⟨(program.drain state).1, true, told⟩, (program.drain state).2) world)
      (pool.put i (⟨(rest.drain between).1, true, told ++ front⟩, (rest.drain between).2)
        later) := by
  induction front generalizing program state told world with
  | nil =>
      cases through
      rw [List.append_nil]
      exact ⟨program, state, replays, Relation.ReflTransGen.refl⟩
  | cons entry front ih =>
      rcases drain_cons replays with ⟨next, left, same, continues⟩
      rcases through with ⟨middle, answered, more⟩
      rcases @ih middle (next entry.2) left (told ++ [entry]) continues more with
        ⟨rest, between, remains, reaches⟩
      refine ⟨rest, between, remains, ?_⟩
      rw [same]
      have isThread : (pool.put i (⟨.ask entry.1 next, true, told⟩, left) world).threads i =
          ⟨.ask entry.1 next, true, told⟩ := Function.update_self ..
      have move : Move answers (pool.put i (⟨.ask entry.1 next, true, told⟩, left) world) i _ :=
        .answer (congrArg Thread.started isThread) (congrArg Thread.program isThread) answered
      rw [Pool.put_put] at move
      simp only [Thread.resume, Pool.put, Function.update_self] at move
      rw [List.append_assoc] at reaches
      exact Relation.ReflTransGen.head ⟨i, move⟩ reaches

/-- A thread has a conversation before it, which it can have in the state as it is. -/
def Before (pool : Pool S σ ε α ω ι) (i : ι) (told said : History S) (result : Except ε α)
    (finalState : σ) : Prop :=
  ∃ (program : Program S σ ε α) (state : σ),
    pool.threads i = ⟨(program.drain state).1, true, told⟩ ∧
      pool.shared = (program.drain state).2 ∧ program.Replays state said result finalState

omit [DecidableEq ι] in
/-- What other threads did does not matter if the thread and the state are as they were. -/
theorem Before.moved {other : Pool S σ ε α ω ι} {told : History S}
    (before : Before pool i told said result finalState)
    (thread : other.threads i = pool.threads i) (shared : other.shared = pool.shared) :
    Before other i told said result finalState := by
  rcases before with ⟨program, state, isThread, isShared, replays⟩
  exact ⟨program, state, thread.trans isThread, shared.trans isShared, replays⟩

omit [DecidableEq ι] in
/-- The thread waits for the answer to the next question before it. -/
theorem Before.waits {told rest : History S} {entry : Σ question : S.Ask, S.Answer question}
    (before : Before pool i told (entry :: rest) result finalState) :
    ∃ next, pool.threads i = ⟨.ask entry.1 next, true, told⟩ := by
  rcases before with ⟨program, state, isThread, _, replays⟩
  rcases drain_cons replays with ⟨next, later, drained, _⟩
  rw [drained] at isThread
  exact ⟨next, isThread⟩

/-- A thread is left alone from its start until some part of its conversation is over. -/
theorem reaches_until {program : Program S σ ε α} {front back : History S}
    (fresh : pool.threads i = ⟨program, false, []⟩)
    (replays : program.Replays pool.shared (front ++ back) result finalState)
    (through : Through (answers i) pool.world front later) :
    ∃ middle, Reaches answers pool middle ∧ middle.world = later ∧
      Before middle i front back result finalState ∧
      ∀ j, j ≠ i → middle.threads j = pool.threads j := by
  have move : Move answers pool i _ := .start (congrArg Thread.started fresh)
  rw [fresh] at move
  rcases reaches_front pool replays through with ⟨rest, between, remains, reaches⟩
  refine ⟨_, Relation.ReflTransGen.head ⟨i, move⟩ reaches, rfl,
    ⟨rest, between, Function.update_self .., rfl, remains⟩, fun j different => ?_⟩
  exact Function.update_of_ne different ..

/-- A thread that is left alone goes through what is before it to its end. -/
theorem reaches_end {told : History S} (before : Before pool i told said result finalState)
    (through : Through (answers i) pool.world said later) :
    ∃ final, Reaches answers pool final ∧ final.shared = finalState ∧ final.world = later ∧
      final.threads i = ⟨ending result, true, told ++ said⟩ ∧
      ∀ j, j ≠ i → final.threads j = pool.threads j := by
  rcases before with ⟨program, state, isThread, isShared, replays⟩
  rw [← List.append_nil said] at replays
  rcases @reaches_front S σ ε α ω ι _ answers i result finalState pool.world later program state told
    said [] pool replays through with ⟨rest, between, remains, reaches⟩
  have here : pool.put i (⟨(program.drain state).1, true, told⟩, (program.drain state).2)
      pool.world = pool := by
    rw [← isThread, ← isShared]
    simp only [Pool.put, Function.update_eq_self]
  rw [here, drain_nil remains] at reaches
  exact ⟨_, reaches, rfl, rfl, Function.update_self .., fun j different =>
    Function.update_of_ne different ..⟩

/-- A thread that is left alone from its start goes through its conversation to its end, and
nothing else changes. -/
theorem reaches_alone {program : Program S σ ε α} (fresh : pool.threads i = ⟨program, false, []⟩)
    (replays : program.Replays pool.shared said result finalState)
    (through : Through (answers i) pool.world said later) :
    ∃ final, Reaches answers pool final ∧ final.shared = finalState ∧ final.world = later ∧
      final.threads i = ⟨ending result, true, said⟩ ∧
      ∀ j, j ≠ i → final.threads j = pool.threads j := by
  have begins : Through (answers i) pool.world [] pool.world := rfl
  rcases @reaches_until S σ ε α ω ι _ answers pool i result finalState pool.world program [] said
    fresh replays begins with ⟨middle, toMiddle, isWorld, before, others⟩
  rw [← isWorld] at through
  rcases reaches_end before through with ⟨final, toEnd, isState, isLater, isThread, rest⟩
  exact ⟨final, toMiddle.trans toEnd, isState, isLater, isThread,
    fun j different => (rest j different).trans (others j different)⟩

end Alone

end Interaction
