import Mathlib.Data.List.Basic

/-!
# Programs that converse with an environment

A `Program` computes a value, may fail with an error, reads and writes a local
state, and puts questions to an environment.  The environment is an arbitrary
function of the conversation so far, so one definition of `run` covers an honest
service, a service that changes its mind halfway, and an adversary.  Everything
that was asked and answered is kept in the `History` of the run.

Verifications do not unfold `run`.  `Replays` says what a program does with a
given transcript, with one rule for each way of building a program, and
`run_eq_iff` says that a run is the replay of what the environment says.
-/

namespace Interaction

/-- The questions a program may ask, with the type of the answer to each. -/
structure Signature where
  Ask : Type
  Answer : Ask → Type

/-- Everything asked and answered so far, in order. -/
abbrev History (S : Signature) : Type := List (Σ question : S.Ask, S.Answer question)

/-- An environment answers a question in view of the conversation so far. -/
abbrev Environment (S : Signature) : Type :=
  History S → (question : S.Ask) → S.Answer question

/-- A program with local state `σ`, errors `ε` and result `α`. -/
inductive Program (S : Signature) (σ ε α : Type) where
  | ret (value : α)
  | raise (error : ε)
  | get (next : σ → Program S σ ε α)
  | set (state : σ) (next : Program S σ ε α)
  | ask (question : S.Ask) (next : S.Answer question → Program S σ ε α)

/-- What is left when a program has ended: its result or error, the state it
leaves behind and the whole conversation. -/
structure Outcome (S : Signature) (σ ε α : Type) where
  result : Except ε α
  state : σ
  history : History S

namespace Program

variable {S : Signature} {σ ε α β γ : Type}

/-- Sequential composition; an error skips the continuation. -/
def andThen : Program S σ ε α → (α → Program S σ ε β) → Program S σ ε β
  | .ret value, next => next value
  | .raise error, _ => .raise error
  | .get inner, next => .get fun state => (inner state).andThen next
  | .set state inner, next => .set state (inner.andThen next)
  | .ask question inner, next => .ask question fun answer => (inner answer).andThen next

/-- Run `handler` on the error of a failing program.  State written before the
failure stays written. -/
def handle : Program S σ ε α → (ε → Program S σ ε α) → Program S σ ε α
  | .ret value, _ => .ret value
  | .raise error, handler => handler error
  | .get inner, handler => .get fun state => (inner state).handle handler
  | .set state inner, handler => .set state (inner.handle handler)
  | .ask question inner, handler => .ask question fun answer => (inner answer).handle handler

instance : Monad (Program S σ ε) where
  pure := .ret
  bind := andThen

/-- A computation without questions, inside a program. -/
def lift : Except ε α → Program S σ ε α
  | .ok value => .ret value
  | .error error => .raise error

/-- The outcome of a program as a value; errors are caught. -/
def attempt (program : Program S σ ε α) : Program S σ ε (Except ε α) :=
  (program.andThen fun value => .ret (.ok value)).handle fun error => .ret (.error error)

/-- Read the local state. -/
def state : Program S σ ε σ := .get .ret

/-- Replace the local state. -/
def modify (update : σ → σ) : Program S σ ε Unit :=
  .get fun current => .set (update current) (.ret ())

/-- Put one question and return its answer. -/
def question (asked : S.Ask) : Program S σ ε (S.Answer asked) := .ask asked .ret

/-- Run a program against an environment. -/
def run (environment : Environment S) :
    Program S σ ε α → σ → History S → Outcome S σ ε α
  | .ret value, state, history => ⟨.ok value, state, history⟩
  | .raise error, state, history => ⟨.error error, state, history⟩
  | .get next, state, history => (next state).run environment state history
  | .set newState next, _, history => next.run environment newState history
  | .ask asked next, state, history =>
      let answer := environment history asked
      (next answer).run environment state (history ++ [⟨asked, answer⟩])

/-- The run ends normally with this value, state and history. -/
def Returns (environment : Environment S) (program : Program S σ ε α) (state : σ)
    (history : History S) (value : α) (finalState : σ) (finalHistory : History S) : Prop :=
  program.run environment state history = ⟨.ok value, finalState, finalHistory⟩

/-- A stretch of conversation as the environment produces it after `history`. -/
def Follows (environment : Environment S) : History S → History S → Prop
  | _, [] => True
  | history, entry :: rest =>
      entry.2 = environment history entry.1 ∧ Follows environment (history ++ [entry]) rest

/-- The program, fed with exactly the answers of `said`, asks exactly its
questions and ends with this result and state. -/
def Replays : Program S σ ε α → σ → History S → Except ε α → σ → Prop
  | .ret value, state, said, result, finalState =>
      said = [] ∧ result = .ok value ∧ finalState = state
  | .raise error, state, said, result, finalState =>
      said = [] ∧ result = .error error ∧ finalState = state
  | .get next, state, said, result, finalState =>
      (next state).Replays state said result finalState
  | .set newState next, _, said, result, finalState =>
      next.Replays newState said result finalState
  | .ask asked next, state, said, result, finalState =>
      ∃ answer rest, said = ⟨asked, answer⟩ :: rest ∧
        (next answer).Replays state rest result finalState

variable {environment : Environment S} {state finalState : σ}
  {history finalHistory : History S}

theorem run_bind (program : Program S σ ε α) (next : α → Program S σ ε β) (state : σ)
    (history : History S) :
    (program >>= next).run environment state history =
      match program.run environment state history with
      | ⟨.ok value, later, laterHistory⟩ => (next value).run environment later laterHistory
      | ⟨.error error, later, laterHistory⟩ => ⟨.error error, later, laterHistory⟩ := by
  change (program.andThen next).run environment state history = _
  induction program generalizing state history with
  | ret value => rfl
  | raise error => rfl
  | get inner ih => exact ih state state history
  | set newState inner ih => exact ih newState history
  | ask asked inner ih => exact ih _ state _

theorem run_handle (program : Program S σ ε α) (handler : ε → Program S σ ε α) (state : σ)
    (history : History S) :
    (program.handle handler).run environment state history =
      match program.run environment state history with
      | ⟨.ok value, later, laterHistory⟩ => ⟨.ok value, later, laterHistory⟩
      | ⟨.error error, later, laterHistory⟩ =>
          (handler error).run environment later laterHistory := by
  induction program generalizing state history with
  | ret value => rfl
  | raise error => rfl
  | get inner ih => exact ih state state history
  | set newState inner ih => exact ih newState history
  | ask asked inner ih => exact ih _ state _

theorem run_attempt (program : Program S σ ε α) (state : σ) (history : History S) :
    program.attempt.run environment state history =
      let outcome := program.run environment state history
      ⟨.ok outcome.result, outcome.state, outcome.history⟩ := by
  have bound := @run_bind S σ ε α (Except ε α) environment program
    (fun value => .ret (.ok value : Except ε α)) state history
  change (program.andThen _).run environment state history = _ at bound
  rw [attempt, run_handle, bound]
  rcases program.run environment state history with ⟨error | value, later, laterHistory⟩
  · rfl
  · rfl

theorem lift_ok_bind (value : α) (next : α → Program S σ ε β) :
    lift (.ok value) >>= next = next value :=
  rfl

@[simp]
theorem run_lift (computation : Except ε α) (state : σ) (history : History S) :
    (lift computation : Program S σ ε α).run environment state history =
      ⟨computation, state, history⟩ := by
  cases computation <;> rfl

theorem bind_assoc (program : Program S σ ε α) (next : α → Program S σ ε β)
    (last : β → Program S σ ε γ) :
    program >>= next >>= last = program >>= fun value => next value >>= last := by
  change (program.andThen next).andThen last = program.andThen fun value =>
    (next value).andThen last
  induction program with
  | ret value => rfl
  | raise error => rfl
  | get inner ih => exact congrArg Program.get (funext ih)
  | set newState inner ih => exact congrArg (Program.set newState) ih
  | ask asked inner ih => exact congrArg (Program.ask asked) (funext ih)

theorem follows_append_iff {history first second : History S} :
    Follows environment history (first ++ second) ↔
      Follows environment history first ∧ Follows environment (history ++ first) second := by
  induction first generalizing history with
  | nil => simp [Follows]
  | cons entry first ih => simp [Follows, ih, and_assoc]

/-- The entry at any place of a conversation is the environment's answer there. -/
theorem Follows.answer {history before after : History S}
    {entry : Σ question : S.Ask, S.Answer question}
    (follows : Follows environment history (before ++ entry :: after)) :
    entry.2 = environment (history ++ before) entry.1 :=
  (follows_append_iff.mp follows).2.1

/-- An environment whose answers do not change any more only has to answer each question. -/
theorem follows_of_forall {history said : History S}
    (each : ∀ entry ∈ said, ∀ earlier, history <+: earlier →
      entry.2 = environment earlier entry.1) :
    Follows environment history said := by
  induction said generalizing history with
  | nil => trivial
  | cons entry said ih =>
      simp only [List.mem_cons, forall_eq_or_imp] at each
      exact ⟨each.1 history List.prefix_rfl, ih fun other mem earlier later =>
        each.2 other mem earlier ((List.prefix_append _ _).trans later)⟩

theorem Follows.mem {history said : History S} {entry : Σ question : S.Ask, S.Answer question}
    (follows : Follows environment history said) (mem : entry ∈ said) :
    ∃ earlier, history <+: earlier ∧ entry.2 = environment earlier entry.1 := by
  obtain ⟨before, after, rfl⟩ := List.append_of_mem mem
  exact ⟨history ++ before, List.prefix_append _ _, follows.answer⟩

/-- A run is a replay of what the environment says: the one place where programs
and environments meet. -/
theorem run_eq_iff (program : Program S σ ε α) {result : Except ε α} :
    program.run environment state history = ⟨result, finalState, finalHistory⟩ ↔
      ∃ said, finalHistory = history ++ said ∧ Follows environment history said ∧
        program.Replays state said result finalState := by
  induction program generalizing state history with
  | ret value =>
      simp only [run, Replays, Outcome.mk.injEq]
      constructor
      · rintro ⟨rfl, rfl, rfl⟩
        exact ⟨[], by simp, trivial, rfl, rfl, rfl⟩
      · rintro ⟨_, rfl, _, rfl, rfl, rfl⟩
        simp
  | raise error =>
      simp only [run, Replays, Outcome.mk.injEq]
      constructor
      · rintro ⟨rfl, rfl, rfl⟩
        exact ⟨[], by simp, trivial, rfl, rfl, rfl⟩
      · rintro ⟨_, rfl, _, rfl, rfl, rfl⟩
        simp
  | get inner ih => exact ih state
  | set newState inner ih => exact ih
  | ask asked inner ih =>
      simp only [run, Replays]
      rw [ih (environment history asked)]
      constructor
      · rintro ⟨said, rfl, follows, replays⟩
        exact ⟨⟨asked, environment history asked⟩ :: said, by simp, ⟨rfl, follows⟩, _, _, rfl,
          replays⟩
      · rintro ⟨_, rfl, follows, answer, rest, rfl, replays⟩
        obtain ⟨answered, follows⟩ := follows
        obtain rfl : answer = environment history asked := answered
        exact ⟨rest, by simp, follows, replays⟩

theorem returns_iff {program : Program S σ ε α} {value : α} :
    Returns environment program state history value finalState finalHistory ↔
      ∃ said, finalHistory = history ++ said ∧ Follows environment history said ∧
        program.Replays state said (.ok value) finalState :=
  run_eq_iff program

/-! ### Scripted environments -/

open Classical in
/-- Tells its lines, and falls back on another environment where it has none. -/
noncomputable def scripted (said : History S) (fallback : Environment S) : Environment S :=
  fun history question =>
    if line : ∃ answer, history ++ [⟨question, answer⟩] <+: said then line.choose
    else fallback history question

theorem scripted_eq {history rest : History S} {fallback : Environment S}
    (entry : Σ question : S.Ask, S.Answer question) :
    scripted (history ++ entry :: rest) fallback history entry.1 = entry.2 := by
  have line : ∃ answer, history ++ [⟨entry.1, answer⟩] <+: history ++ entry :: rest :=
    ⟨entry.2, rest, by simp⟩
  rw [scripted, dif_pos line]
  obtain ⟨rest', same⟩ := line.choose_spec
  simp only [List.append_assoc, List.append_cancel_left_eq, List.singleton_append,
    List.cons.injEq] at same
  exact eq_of_heq (Sigma.mk.inj same.1).2

/-- Every conversation is had with some environment. -/
theorem follows_scripted (said : History S) (fallback : Environment S) :
    Follows (scripted said fallback) [] said := by
  suffices every : ∀ rest history, history ++ rest = said →
      Follows (scripted said fallback) history rest from every said [] rfl
  intro rest
  induction rest with
  | nil => exact fun _ _ => trivial
  | cons entry rest ih =>
      rintro history rfl
      exact ⟨(scripted_eq entry).symm, ih _ (by simp)⟩

/-! ### Replays of composed programs -/

variable {said : History S} {result : Except ε α}

/-- A conversation determines how a program ends. -/
theorem Replays.unique {program : Program S σ ε α} {otherResult : Except ε α} {otherState : σ}
    (first : program.Replays state said result finalState)
    (second : program.Replays state said otherResult otherState) :
    otherResult = result ∧ otherState = finalState := by
  induction program generalizing state said with
  | ret value =>
    rcases first with ⟨_, rfl, rfl⟩
    exact second.2
  | raise error =>
    rcases first with ⟨_, rfl, rfl⟩
    exact second.2
  | get next ih => exact ih state first second
  | set newState next ih => exact ih first second
  | ask asked next ih =>
    rcases first with ⟨answer, rest, rfl, firstContinues⟩
    rcases second with ⟨other, others, same, secondContinues⟩
    cases same
    exact ih answer firstContinues secondContinues

@[simp]
theorem replays_pure_iff {value : α} :
    Replays (pure value : Program S σ ε α) state said result finalState ↔
      said = [] ∧ result = .ok value ∧ finalState = state :=
  Iff.rfl

@[simp]
theorem replays_raise_iff {error : ε} :
    Replays (raise error : Program S σ ε α) state said result finalState ↔
      said = [] ∧ result = .error error ∧ finalState = state :=
  Iff.rfl

@[simp]
theorem replays_lift_iff {computation : Except ε α} :
    Replays (lift computation : Program S σ ε α) state said result finalState ↔
      said = [] ∧ result = computation ∧ finalState = state := by
  rcases computation with error | value <;> exact Iff.rfl

@[simp]
theorem replays_question_iff {asked : S.Ask} {result : Except ε (S.Answer asked)} :
    Replays (question asked : Program S σ ε _) state said result finalState ↔
      ∃ answer, said = [⟨asked, answer⟩] ∧ result = .ok answer ∧ finalState = state := by
  constructor
  · rintro ⟨answer, rest, rfl, rfl, rfl, rfl⟩
    exact ⟨answer, rfl, rfl, rfl⟩
  · rintro ⟨answer, rfl, rfl, rfl⟩
    exact ⟨answer, [], rfl, rfl, rfl, rfl⟩

@[simp]
theorem replays_state_iff {result : Except ε σ} :
    Replays (Program.state : Program S σ ε σ) state said result finalState ↔
      said = [] ∧ result = .ok state ∧ finalState = state :=
  Iff.rfl

@[simp]
theorem replays_modify_iff {update : σ → σ} {result : Except ε Unit} :
    Replays (modify update : Program S σ ε Unit) state said result finalState ↔
      said = [] ∧ result = .ok () ∧ finalState = update state :=
  Iff.rfl

theorem replays_question_bind_iff {asked : S.Ask} {next : S.Answer asked → Program S σ ε β}
    {result : Except ε β} :
    Replays (question asked >>= next) state said result finalState ↔
      ∃ answer rest, said = ⟨asked, answer⟩ :: rest ∧
        (next answer).Replays state rest result finalState :=
  Iff.rfl

theorem replays_state_bind_iff {next : σ → Program S σ ε β} {result : Except ε β} :
    Replays (Program.state >>= next) state said result finalState ↔
      (next state).Replays state said result finalState :=
  Iff.rfl

theorem replays_modify_bind_iff {update : σ → σ} {next : Unit → Program S σ ε β}
    {result : Except ε β} :
    Replays (modify update >>= next) state said result finalState ↔
      (next ()).Replays (update state) said result finalState :=
  Iff.rfl

theorem replays_bind_iff {program : Program S σ ε α} {next : α → Program S σ ε β}
    {result : Except ε β} :
    Replays (program >>= next) state said result finalState ↔
      (∃ value middle first second, said = first ++ second ∧
          program.Replays state first (.ok value) middle ∧
          (next value).Replays middle second result finalState) ∨
        ∃ error, result = .error error ∧
          program.Replays state said (.error error) finalState := by
  change Replays (program.andThen next) state said result finalState ↔ _
  induction program generalizing state said with
  | ret value =>
      simp only [andThen, Replays]
      constructor
      · intro replays
        exact Or.inl ⟨value, state, [], said, rfl, ⟨rfl, rfl, rfl⟩, replays⟩
      · rintro (⟨_, _, _, second, rfl, ⟨rfl, equal, rfl⟩, replays⟩ | ⟨_, _, _, impossible, _⟩)
        · cases equal
          exact replays
        · cases impossible
  | raise error =>
      simp only [andThen, Replays]
      constructor
      · rintro ⟨rfl, rfl, rfl⟩
        exact Or.inr ⟨error, rfl, rfl, rfl, rfl⟩
      · rintro (⟨_, _, _, _, _, ⟨_, impossible, _⟩, _⟩ | ⟨_, rfl, rfl, equal, rfl⟩)
        · cases impossible
        · cases equal
          exact ⟨rfl, rfl, rfl⟩
  | get inner ih => exact ih state
  | set newState inner ih => exact ih
  | ask asked inner ih =>
      simp only [andThen, Replays, ih]
      constructor
      · rintro ⟨answer, rest, rfl,
          (⟨value, middle, first, second, rfl, replays, continues⟩ | ⟨error, rfl, replays⟩)⟩
        · exact Or.inl ⟨value, middle, ⟨asked, answer⟩ :: first, second, rfl,
            ⟨answer, first, rfl, replays⟩, continues⟩
        · exact Or.inr ⟨error, rfl, answer, rest, rfl, replays⟩
      · rintro (⟨value, middle, _, second, rfl, ⟨answer, first, rfl, replays⟩, continues⟩ |
          ⟨error, rfl, answer, rest, rfl, replays⟩)
        · exact ⟨answer, first ++ second, rfl,
            Or.inl ⟨value, middle, first, second, rfl, replays, continues⟩⟩
        · exact ⟨answer, rest, rfl, Or.inr ⟨error, rfl, replays⟩⟩

theorem Replays.map {program : Program S σ ε α}
    (replays : program.Replays state said result finalState) (wrap : α → β) :
    Replays (program >>= fun value => return wrap value) state said (result.map wrap)
      finalState := by
  cases result with
  | error error => exact replays_bind_iff.mpr (Or.inr ⟨error, rfl, replays⟩)
  | ok value =>
    exact replays_bind_iff.mpr (Or.inl ⟨value, finalState, said, [], (List.append_nil said).symm,
      replays, rfl, rfl, rfl⟩)

theorem replays_bind_ok_iff {program : Program S σ ε α} {next : α → Program S σ ε β}
    {value : β} :
    Replays (program >>= next) state said (.ok value) finalState ↔
      ∃ first middle before after, said = before ++ after ∧
        program.Replays state before (.ok first) middle ∧
        (next first).Replays middle after (.ok value) finalState := by
  rw [replays_bind_iff]
  simp

theorem replays_handle_iff {program : Program S σ ε α} {handler : ε → Program S σ ε α} :
    Replays (program.handle handler) state said result finalState ↔
      (∃ value, result = .ok value ∧ program.Replays state said (.ok value) finalState) ∨
        ∃ error middle first second, said = first ++ second ∧
          program.Replays state first (.error error) middle ∧
          (handler error).Replays middle second result finalState := by
  induction program generalizing state said with
  | ret value =>
      simp only [handle, Replays]
      constructor
      · rintro ⟨rfl, rfl, rfl⟩
        exact Or.inl ⟨value, rfl, rfl, rfl, rfl⟩
      · rintro (⟨_, rfl, rfl, equal, rfl⟩ | ⟨_, _, _, _, _, ⟨_, impossible, _⟩, _⟩)
        · exact ⟨rfl, equal, rfl⟩
        · cases impossible
  | raise error =>
      simp only [handle, Replays]
      constructor
      · intro replays
        exact Or.inr ⟨error, state, [], said, rfl, ⟨rfl, rfl, rfl⟩, replays⟩
      · rintro (⟨_, _, _, impossible, _⟩ | ⟨_, _, _, second, rfl, ⟨rfl, equal, rfl⟩, replays⟩)
        · cases impossible
        · cases equal
          exact replays
  | get inner ih => exact ih state
  | set newState inner ih => exact ih
  | ask asked inner ih =>
      simp only [handle, Replays, ih]
      constructor
      · rintro ⟨answer, rest, rfl, (⟨value, rfl, replays⟩ |
          ⟨error, middle, first, second, rfl, replays, handled⟩)⟩
        · exact Or.inl ⟨value, rfl, answer, rest, rfl, replays⟩
        · exact Or.inr ⟨error, middle, ⟨asked, answer⟩ :: first, second, rfl,
            ⟨answer, first, rfl, replays⟩, handled⟩
      · rintro (⟨value, rfl, answer, rest, rfl, replays⟩ |
          ⟨error, middle, _, second, rfl, ⟨answer, first, rfl, replays⟩, handled⟩)
        · exact ⟨answer, rest, rfl, Or.inl ⟨value, rfl, replays⟩⟩
        · exact ⟨answer, first ++ second, rfl,
            Or.inr ⟨error, middle, first, second, rfl, replays, handled⟩⟩

/-- A computation without questions in front only has to succeed. -/
theorem replays_lift_bind_iff {computation : Except ε α} {next : α → Program S σ ε β}
    {result : Except ε β} :
    Replays (lift computation >>= next) state said result finalState ↔
      (∃ value, computation = .ok value ∧
          (next value).Replays state said result finalState) ∨
        ∃ error, computation = .error error ∧
          said = [] ∧ result = .error error ∧ finalState = state := by
  rcases computation with error | value
  · constructor
    · exact fun replays => Or.inr ⟨error, rfl, replays⟩
    · rintro (⟨_, impossible, _⟩ | ⟨_, same, ends⟩)
      · cases impossible
      · cases same
        exact ends
  · constructor
    · exact fun replays => Or.inl ⟨value, rfl, replays⟩
    · rintro (⟨_, same, continues⟩ | ⟨_, impossible, _⟩)
      · cases same
        exact continues
      · cases impossible

theorem replays_lift_bind_ok_iff {computation : Except ε α} {next : α → Program S σ ε β}
    {value : β} :
    Replays (lift computation >>= next) state said (.ok value) finalState ↔
      ∃ first, computation = .ok first ∧
        (next first).Replays state said (.ok value) finalState := by
  simp only [replays_bind_ok_iff, replays_lift_iff]
  constructor
  · rintro ⟨first, _, _, after, rfl, ⟨rfl, computed, rfl⟩, continues⟩
    exact ⟨first, computed.symm, continues⟩
  · rintro ⟨first, computed, continues⟩
    exact ⟨first, state, [], said, rfl, ⟨rfl, computed.symm, rfl⟩, continues⟩

/-- An attempt in front always hands its outcome on. -/
theorem replays_attempt_bind_iff {program : Program S σ ε α}
    {next : Except ε α → Program S σ ε β} {result : Except ε β} :
    Replays (program.attempt >>= next) state said result finalState ↔
      ∃ outcome middle first second, said = first ++ second ∧
        program.Replays state first outcome middle ∧
        (next outcome).Replays middle second result finalState := by
  change Replays (program.attempt.andThen next) state said result finalState ↔ _
  induction program generalizing state said with
  | ret value =>
      constructor
      · intro replays
        exact ⟨.ok value, state, [], said, rfl, ⟨rfl, rfl, rfl⟩, replays⟩
      · rintro ⟨_, _, _, second, rfl, ⟨rfl, rfl, rfl⟩, replays⟩
        exact replays
  | raise error =>
      constructor
      · intro replays
        exact ⟨.error error, state, [], said, rfl, ⟨rfl, rfl, rfl⟩, replays⟩
      · rintro ⟨_, _, _, second, rfl, ⟨rfl, rfl, rfl⟩, replays⟩
        exact replays
  | get inner ih => exact ih state
  | set newState inner ih => exact ih
  | ask asked inner ih =>
      constructor
      · rintro ⟨answer, rest, rfl, replays⟩
        rcases (ih answer).mp replays with ⟨outcome, middle, first, second, rfl, before, after⟩
        exact ⟨outcome, middle, ⟨asked, answer⟩ :: first, second, rfl, ⟨answer, first, rfl, before⟩,
          after⟩
      · rintro ⟨outcome, middle, _, second, rfl, ⟨answer, first, rfl, before⟩, after⟩
        exact ⟨answer, first ++ second, rfl,
          (ih answer).mpr ⟨outcome, middle, first, second, rfl, before, after⟩⟩

/-! ### What a program asks -/

/-- Whatever it is answered, the program asks only such questions. -/
def Asks (allowed : S.Ask → Prop) : Program S σ ε α → Prop
  | .ret _ => True
  | .raise _ => True
  | .get next => ∀ state, (next state).Asks allowed
  | .set _ next => next.Asks allowed
  | .ask question next => allowed question ∧ ∀ answer, (next answer).Asks allowed

variable {allowed : S.Ask → Prop}

theorem asks_lift (computation : Except ε α) :
    (lift computation : Program S σ ε α).Asks allowed := by
  rcases computation with error | value <;> trivial

theorem asks_question {asked : S.Ask} (holds : allowed asked) :
    (question asked : Program S σ ε _).Asks allowed :=
  ⟨holds, fun _ => trivial⟩

theorem Asks.bind {program : Program S σ ε α} {next : α → Program S σ ε β}
    (asks : program.Asks allowed) (continues : ∀ value, (next value).Asks allowed) :
    (program >>= next).Asks allowed := by
  change (program.andThen next).Asks allowed
  induction program with
  | ret value => exact continues value
  | raise error => trivial
  | get inner ih => exact fun state => ih state (asks state)
  | set newState inner ih => exact ih asks
  | ask asked inner ih => exact ⟨asks.1, fun answer => ih answer (asks.2 answer)⟩

theorem Asks.handle {program : Program S σ ε α} {handler : ε → Program S σ ε α}
    (asks : program.Asks allowed) (handles : ∀ error, (handler error).Asks allowed) :
    (program.handle handler).Asks allowed := by
  induction program with
  | ret value => trivial
  | raise error => exact handles error
  | get inner ih => exact fun state => ih state (asks state)
  | set newState inner ih => exact ih asks
  | ask asked inner ih => exact ⟨asks.1, fun answer => ih answer (asks.2 answer)⟩

theorem Asks.attempt {program : Program S σ ε α} (asks : program.Asks allowed) :
    program.attempt.Asks allowed := by
  apply Asks.handle
  · exact asks.bind fun _ => trivial
  · exact fun _ => trivial

theorem Asks.of_mem {program : Program S σ ε α} (asks : program.Asks allowed)
    (replays : program.Replays state said result finalState) :
    ∀ entry ∈ said, allowed entry.1 := by
  induction program generalizing state said with
  | ret value =>
      rcases replays with ⟨rfl, _⟩
      exact fun entry mem => absurd mem List.not_mem_nil
  | raise error =>
      rcases replays with ⟨rfl, _⟩
      exact fun entry mem => absurd mem List.not_mem_nil
  | get inner ih => exact ih state (asks state) replays
  | set newState inner ih => exact ih asks replays
  | ask asked inner ih =>
      rcases replays with ⟨answer, rest, rfl, continues⟩
      intro entry mem
      rcases List.mem_cons.mp mem with same | mem
      · rw [same]
        exact asks.1
      · exact ih answer (asks.2 answer) continues entry mem

/-! ### What a program raises -/

/-- Whatever it is answered, the program raises only such errors. -/
def Raises (kind : ε → Prop) : Program S σ ε α → Prop
  | .ret _ => True
  | .raise error => kind error
  | .get next => ∀ state, (next state).Raises kind
  | .set _ next => next.Raises kind
  | .ask _ next => ∀ answer, (next answer).Raises kind

variable {kind inner : ε → Prop}

theorem raises_lift {computation : Except ε α}
    (only : ∀ error, computation = .error error → kind error) :
    (lift computation : Program S σ ε α).Raises kind := by
  rcases computation with error | value
  · exact only error rfl
  · trivial

/-- What follows a computation knows that it succeeded. -/
theorem raises_lift_bind {computation : Except ε α} {next : α → Program S σ ε β}
    (only : ∀ error, computation = .error error → kind error)
    (continues : ∀ value, computation = .ok value → (next value).Raises kind) :
    (lift computation >>= next : Program S σ ε β).Raises kind := by
  rcases computation with error | value
  · exact only error rfl
  · exact continues value rfl

theorem Raises.mono {program : Program S σ ε α} (raises : program.Raises inner)
    (weaker : ∀ error, inner error → kind error) : program.Raises kind := by
  induction program with
  | ret value => trivial
  | raise error => exact weaker error raises
  | get next ih => exact fun state => ih state (raises state)
  | set newState next ih => exact ih raises
  | ask asked next ih => exact fun answer => ih answer (raises answer)

theorem raises_question (asked : S.Ask) : (question asked : Program S σ ε _).Raises kind :=
  fun _ => trivial

theorem Raises.bind {program : Program S σ ε α} {next : α → Program S σ ε β}
    (raises : program.Raises kind) (continues : ∀ value, (next value).Raises kind) :
    (program >>= next).Raises kind := by
  change (program.andThen next).Raises kind
  induction program with
  | ret value => exact continues value
  | raise error => exact raises
  | get inner ih => exact fun state => ih state (raises state)
  | set newState inner ih => exact ih raises
  | ask asked inner ih => exact fun answer => ih answer (raises answer)

theorem Raises.handle {program : Program S σ ε α} {handler : ε → Program S σ ε α}
    (raises : program.Raises inner) (handles : ∀ error, inner error → (handler error).Raises kind) :
    (program.handle handler).Raises kind := by
  induction program with
  | ret value => trivial
  | raise error => exact handles error raises
  | get inner ih => exact fun state => ih state (raises state)
  | set newState inner ih => exact ih raises
  | ask asked inner ih => exact fun answer => ih answer (raises answer)

/-- An attempt raises nothing; what follows it has to deal with what was caught. -/
theorem Raises.attempt_bind {program : Program S σ ε α} {next : Except ε α → Program S σ ε β}
    (raises : program.Raises inner) (returned : ∀ value, (next (.ok value)).Raises kind)
    (caught : ∀ error, inner error → (next (.error error)).Raises kind) :
    (program.attempt >>= next).Raises kind := by
  change (program.attempt.andThen next).Raises kind
  induction program with
  | ret value => exact returned value
  | raise error => exact caught error raises
  | get inner ih => exact fun state => ih state (raises state)
  | set newState inner ih => exact ih raises
  | ask asked inner ih => exact fun answer => ih answer (raises answer)

theorem Raises.of_replays {program : Program S σ ε α} {error : ε} (raises : program.Raises kind)
    (replays : program.Replays state said (.error error) finalState) : kind error := by
  induction program generalizing state said with
  | ret value =>
      rcases replays with ⟨_, impossible, _⟩
      cases impossible
  | raise raised =>
      rcases replays with ⟨_, same, _⟩
      cases same
      exact raises
  | get inner ih => exact ih state (raises state) replays
  | set newState inner ih => exact ih raises replays
  | ask asked inner ih =>
      rcases replays with ⟨answer, rest, _, continues⟩
      exact ih answer (raises answer) continues

/-! ### Programs without a state -/

/-- The program neither reads nor writes the state. -/
def Stateless : Program S σ ε α → Prop
  | .ret _ => True
  | .raise _ => True
  | .get _ => False
  | .set _ _ => False
  | .ask _ next => ∀ answer, (next answer).Stateless

theorem stateless_lift (computation : Except ε α) :
    (lift computation : Program S σ ε α).Stateless := by
  rcases computation with error | value
  · trivial
  · trivial

theorem stateless_question (asked : S.Ask) : (question asked : Program S σ ε _).Stateless :=
  fun _ => trivial

theorem Stateless.bind {program : Program S σ ε α} {next : α → Program S σ ε β}
    (stateless : program.Stateless) (continues : ∀ value, (next value).Stateless) :
    (program >>= next).Stateless := by
  change (program.andThen next).Stateless
  induction program with
  | ret value => exact continues value
  | raise error => trivial
  | get inner _ => exact stateless
  | set newState inner _ => exact stateless
  | ask asked inner ih => exact fun answer => ih answer (stateless answer)

theorem Stateless.handle {program : Program S σ ε α} {handler : ε → Program S σ ε α}
    (stateless : program.Stateless) (handles : ∀ error, (handler error).Stateless) :
    (program.handle handler).Stateless := by
  induction program with
  | ret value => trivial
  | raise error => exact handles error
  | get inner _ => exact stateless
  | set newState inner _ => exact stateless
  | ask asked inner ih => exact fun answer => ih answer (stateless answer)

/-- A conversation of a program without a state, and what it ends with. -/
def Tells (program : Program S σ ε α) (said : History S) (result : Except ε α) : Prop :=
  ∃ state, program.Replays state said result state

theorem Stateless.replays_iff_of {program : Program S σ ε α} (stateless : program.Stateless)
    (other : σ) : program.Replays state said result finalState ↔
      program.Replays other said result other ∧ finalState = state := by
  induction program generalizing said with
  | ret value => simp only [Replays, and_assoc, and_true]
  | raise error => simp only [Replays, and_assoc, and_true]
  | get inner _ => exact stateless.elim
  | set newState inner _ => exact stateless.elim
  | ask asked inner ih =>
      constructor
      · rintro ⟨answer, rest, rfl, continues⟩
        rcases (ih answer (stateless answer)).mp continues with ⟨told, same⟩
        exact ⟨⟨answer, rest, rfl, told⟩, same⟩
      · rintro ⟨⟨answer, rest, rfl, told⟩, same⟩
        exact ⟨answer, rest, rfl, (ih answer (stateless answer)).mpr ⟨told, same⟩⟩

/-- A program without a state tells the same in every state, and leaves it. -/
theorem Stateless.replays_iff {program : Program S σ ε α} (stateless : program.Stateless) :
    program.Replays state said result finalState ↔
      program.Tells said result ∧ finalState = state := by
  constructor
  · intro replays
    exact ⟨⟨state, ((stateless.replays_iff_of state).mp replays).1⟩,
      ((stateless.replays_iff_of state).mp replays).2⟩
  · rintro ⟨⟨other, told⟩, same⟩
    exact (stateless.replays_iff_of other).mpr ⟨told, same⟩

/-- A conversation determines how a program without a state ends. -/
theorem Stateless.unique {program : Program S σ ε α} {result otherResult : Except ε α}
    (stateless : program.Stateless) (first : program.Tells said result)
    (second : program.Tells said otherResult) : otherResult = result := by
  rcases first with ⟨state, replays⟩
  exact (replays.unique (stateless.replays_iff.mpr ⟨second, rfl⟩)).1

theorem Stateless.bind_iff {program : Program S σ ε α} {next : α → Program S σ ε β}
    {result : Except ε β} (stateless : program.Stateless) :
    Replays (program >>= next) state said result finalState ↔
      (∃ value first second, said = first ++ second ∧ program.Tells first (.ok value) ∧
          (next value).Replays state second result finalState) ∨
        ∃ error, result = .error error ∧ program.Tells said (.error error) ∧
          finalState = state := by
  rw [replays_bind_iff]
  simp only [stateless.replays_iff]
  constructor
  · rintro (⟨value, _, first, second, rfl, ⟨told, rfl⟩, continues⟩ | failed)
    · exact Or.inl ⟨value, first, second, rfl, told, continues⟩
    · exact Or.inr failed
  · rintro (⟨value, first, second, rfl, told, continues⟩ | failed)
    · exact Or.inl ⟨value, state, first, second, rfl, ⟨told, rfl⟩, continues⟩
    · exact Or.inr failed

theorem Stateless.attempt_bind_iff {program : Program S σ ε α}
    {next : Except ε α → Program S σ ε β} {result : Except ε β} (stateless : program.Stateless) :
    Replays (program.attempt >>= next) state said result finalState ↔
      ∃ outcome first second, said = first ++ second ∧ program.Tells first outcome ∧
        (next outcome).Replays state second result finalState := by
  rw [replays_attempt_bind_iff]
  simp only [stateless.replays_iff]
  constructor
  · rintro ⟨outcome, _, first, second, rfl, ⟨told, rfl⟩, continues⟩
    exact ⟨outcome, first, second, rfl, told, continues⟩
  · rintro ⟨outcome, first, second, rfl, told, continues⟩
    exact ⟨outcome, state, first, second, rfl, ⟨told, rfl⟩, continues⟩

/-! ### Programs that only read -/

/-- The program leaves the state alone; `Spec` relates what it returns to what was said. -/
def Reads (program : Program S σ ε α) (Spec : α → History S → Prop) : Prop :=
  ∀ state said value finalState, program.Replays state said (.ok value) finalState ↔
    Spec value said ∧ finalState = state

theorem Reads.bind_ok_iff {program : Program S σ ε α} {Spec : α → History S → Prop}
    (reads : Reads program Spec) {next : α → Program S σ ε β} {value : β} :
    Replays (program >>= next) state said (.ok value) finalState ↔
      ∃ first before after, Spec first before ∧ said = before ++ after ∧
        (next first).Replays state after (.ok value) finalState := by
  rw [replays_bind_ok_iff]
  constructor
  · rintro ⟨first, middle, before, after, rfl, replays, continues⟩
    obtain ⟨spec, rfl⟩ := (reads _ _ _ _).mp replays
    exact ⟨first, before, after, spec, rfl, continues⟩
  · rintro ⟨first, before, after, spec, rfl, continues⟩
    exact ⟨first, state, before, after, rfl, (reads _ _ _ _).mpr ⟨spec, rfl⟩, continues⟩

theorem reads_lift (computation : Except ε α) :
    Reads (lift computation : Program S σ ε α) fun value said =>
      computation = .ok value ∧ said = [] := by
  intro state said value finalState
  rw [replays_lift_iff]
  constructor
  · rintro ⟨rfl, computed, rfl⟩
    exact ⟨⟨computed.symm, rfl⟩, rfl⟩
  · rintro ⟨⟨computed, rfl⟩, rfl⟩
    exact ⟨rfl, computed.symm, rfl⟩

end Program

end Interaction
