import Psv.Interaction.Program
import Mathlib.Data.List.Forall2

/-!
# Answers that make no difference

Some differences between answers ought not to show: the text of a failure, a secret.
Two environments are alike when they answer alike to conversations that were alike so
far.  Programs are related when they go on with the same questions whichever of two
alike answers they get, and end in a related way; so they do when they are run against
alike environments (`Related.run`).  A blind program is related to itself with the
same result, or with two failures.
-/

namespace Interaction

variable {S : Signature} {σ ε α β : Type}

section Histories

variable (alike : ∀ question : S.Ask, S.Answer question → S.Answer question → Prop)

/-- The same question with answers that are alike. -/
inductive AlikeEntry : (Σ question : S.Ask, S.Answer question) →
    (Σ question : S.Ask, S.Answer question) → Prop where
  | same {question : S.Ask} {left right : S.Answer question} (answers : alike question left right) :
      AlikeEntry ⟨question, left⟩ ⟨question, right⟩

/-- Conversations about the same questions with answers that are alike. -/
def AlikeHistories : History S → History S → Prop := List.Forall₂ (AlikeEntry alike)

/-- Environments that answer alike when all answers so far were alike. -/
def AlikeEnvironments (first second : Environment S) : Prop :=
  ∀ left right, AlikeHistories alike left right → ∀ question,
    alike question (first left question) (second right question)

end Histories

namespace Program

variable (alike : ∀ question : S.Ask, S.Answer question → S.Answer question → Prop)

/-- From these states the programs ask the same as long as the answers are alike, and end in a
related way. -/
inductive Related (ends : Except ε α → σ → Except ε α → σ → Prop) :
    Program S σ ε α → σ → Program S σ ε α → σ → Prop where
  | ret {first second : α} {left right : σ} (ended : ends (.ok first) left (.ok second) right) :
      Related ends (.ret first) left (.ret second) right
  | raise {first second : ε} {left right : σ}
      (ended : ends (.error first) left (.error second) right) :
      Related ends (.raise first) left (.raise second) right
  | getLeft {next : σ → Program S σ ε α} {other : Program S σ ε α} {left right : σ}
      (related : Related ends (next left) left other right) :
      Related ends (.get next) left other right
  | getRight {next : σ → Program S σ ε α} {other : Program S σ ε α} {left right : σ}
      (related : Related ends other left (next right) right) :
      Related ends other left (.get next) right
  | setLeft {next other : Program S σ ε α} {state left right : σ}
      (related : Related ends next state other right) :
      Related ends (.set state next) left other right
  | setRight {next other : Program S σ ε α} {state left right : σ}
      (related : Related ends other left next state) :
      Related ends other left (.set state next) right
  | ask {question : S.Ask} {next other : S.Answer question → Program S σ ε α} {left right : σ}
      (related : ∀ first second, alike question first second →
        Related ends (next first) left (other second) right) :
      Related ends (.ask question next) left (.ask question other) right

variable {alike} {ends : Except ε α → σ → Except ε α → σ → Prop}
  {after : Except ε β → σ → Except ε β → σ → Prop} {program other : Program S σ ε α}
  {left right : σ}

/-- Related programs that are run against alike environments converse alike and end in a related
way. -/
theorem Related.run {first second : Environment S} {before earlier : History S}
    (related : Related alike ends program left other right)
    (environments : AlikeEnvironments alike first second)
    (histories : AlikeHistories alike before earlier) :
    ends (program.run first left before).result (program.run first left before).state
        (other.run second right earlier).result (other.run second right earlier).state ∧
      AlikeHistories alike (program.run first left before).history
        (other.run second right earlier).history := by
  induction related generalizing before earlier with
  | ret ended => exact ⟨ended, histories⟩
  | raise ended => exact ⟨ended, histories⟩
  | getLeft _ ih => exact ih histories
  | getRight _ ih => exact ih histories
  | setLeft _ ih => exact ih histories
  | setRight _ ih => exact ih histories
  | @ask question _ _ _ _ _ ih =>
    have answers := environments before earlier histories question
    exact ih _ _ answers (List.rel_append histories (.cons (.same answers) .nil))

theorem Related.bind {next further : α → Program S σ ε β}
    (related : Related alike ends program left other right)
    (returned : ∀ value value' state state', ends (.ok value) state (.ok value') state' →
      Related alike after (next value) state (further value') state')
    (failed : ∀ error error' state state', ends (.error error) state (.error error') state' →
      after (.error error) state (.error error') state') :
    Related alike after (program >>= next) left (other >>= further) right := by
  induction related with
  | ret ended => exact returned _ _ _ _ ended
  | raise ended => exact .raise (failed _ _ _ _ ended)
  | getLeft _ ih => exact .getLeft ih
  | getRight _ ih => exact .getRight ih
  | setLeft _ ih => exact .setLeft ih
  | setRight _ ih => exact .setRight ih
  | ask _ ih => exact .ask ih

/-- What follows an attempt knows how it has ended on either side. -/
theorem Related.attempt_bind {next further : Except ε α → Program S σ ε β}
    (related : Related alike ends program left other right)
    (ended : ∀ result result' state state', ends result state result' state' →
      Related alike after (next result) state (further result') state') :
    Related alike after (program.attempt >>= next) left (other.attempt >>= further) right := by
  induction related with
  | ret isEnd => exact ended _ _ _ _ isEnd
  | raise isEnd => exact ended _ _ _ _ isEnd
  | getLeft _ ih => exact .getLeft ih
  | getRight _ ih => exact .getRight ih
  | setLeft _ ih => exact .setLeft ih
  | setRight _ ih => exact .setRight ih
  | ask _ ih => exact .ask ih

/-! ### Blind programs -/

/-- The same value, or two failures. -/
inductive SameResult : Except ε α → Except ε α → Prop where
  | ok (value : α) : SameResult (.ok value) (.ok value)
  | error (first second : ε) : SameResult (.error first) (.error second)

variable (alike) in
/-- Alike answers make no difference to what the program asks and returns, and it leaves the state
as it is. -/
def Blind (program : Program S σ ε α) : Prop :=
  ∀ left right, Related alike (fun result state result' state' =>
    SameResult result result' ∧ state = left ∧ state' = right) program left program right

theorem blind_pure (value : α) : Blind alike (pure value : Program S σ ε α) :=
  fun _ _ => .ret ⟨.ok value, rfl, rfl⟩

theorem blind_lift (computation : Except ε α) :
    Blind alike (lift computation : Program S σ ε α) := by
  intro left right
  cases computation with
  | ok value => exact .ret ⟨.ok value, rfl, rfl⟩
  | error error => exact .raise ⟨.error error error, rfl, rfl⟩

theorem Blind.bind {next : α → Program S σ ε β} (blind : Blind alike program)
    (continues : ∀ value, Blind alike (next value)) : Blind alike (program >>= next) := by
  intro left right
  refine (blind left right).bind ?_ ?_
  · rintro value _ _ _ ⟨⟨⟩, rfl, rfl⟩
    exact continues value _ _
  · rintro error error' _ _ ⟨_, rfl, rfl⟩
    exact ⟨.error error error', rfl, rfl⟩

/-- A question whose alike answers lead to the same value or to two failures. -/
theorem blind_question_lift {asked : S.Ask} {check : S.Answer asked → Except ε α}
    (same : ∀ first second, alike asked first second → SameResult (check first) (check second)) :
    Blind alike (question asked >>= fun answer => lift (check answer) : Program S σ ε α) := by
  intro left right
  refine .ask fun first second answers => ?_
  have results := same first second answers
  change Related alike _ (lift (check first)) _ (lift (check second)) _
  generalize check first = one, check second = two at results ⊢
  cases results with
  | ok value => exact .ret ⟨.ok value, rfl, rfl⟩
  | error error error' => exact .raise ⟨.error error error', rfl, rfl⟩

end Program

end Interaction
