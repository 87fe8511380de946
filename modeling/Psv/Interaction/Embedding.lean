import Psv.Interaction.Program
import Mathlib.Logic.Equiv.Defs

/-!
# Programs inside a larger interface

A program over a part of an interface is a program over the whole of it, and what
it does there is what it does on its own (`replays_embed_iff`).
-/

namespace Interaction

variable {S T : Signature}

/-- The questions of one interface are among those of another, with the same answers. -/
structure Embedding (S T : Signature) where
  ask : S.Ask → T.Ask
  answer : (question : S.Ask) → S.Answer question ≃ T.Answer (ask question)

/-- An exchange of the part as an exchange of the whole. -/
def Embedding.entry (embedding : Embedding S T) (part : Σ question : S.Ask, S.Answer question) :
    Σ question : T.Ask, T.Answer question :=
  ⟨embedding.ask part.1, embedding.answer part.1 part.2⟩

namespace Program

variable {σ ε δ α : Type}

/-- A program over the part as a program over the whole; its errors get other names. -/
def embed (embedding : Embedding S T) (rename : ε → δ) : Program S σ ε α → Program T σ δ α
  | .ret value => .ret value
  | .raise error => .raise (rename error)
  | .get next => .get fun state => (next state).embed embedding rename
  | .set state next => .set state (next.embed embedding rename)
  | .ask question next =>
      .ask (embedding.ask question) fun answer =>
        (next ((embedding.answer question).symm answer)).embed embedding rename

/-- An embedded program does what it does on its own. -/
theorem replays_embed_iff {embedding : Embedding S T} {rename : ε → δ}
    {program : Program S σ ε α} {state finalState : σ} {said : History T} {result : Except δ α} :
    (program.embed embedding rename).Replays state said result finalState ↔
      ∃ (inner : History S) (outcome : Except ε α), said = inner.map embedding.entry ∧
        program.Replays state inner outcome finalState ∧ result = outcome.mapError rename := by
  induction program generalizing state said with
  | ret value =>
      constructor
      · rintro ⟨rfl, rfl, rfl⟩
        exact ⟨[], .ok value, rfl, ⟨rfl, rfl, rfl⟩, rfl⟩
      · rintro ⟨inner, outcome, rfl, ⟨rfl, rfl, rfl⟩, rfl⟩
        exact ⟨rfl, rfl, rfl⟩
  | raise error =>
      constructor
      · rintro ⟨rfl, rfl, rfl⟩
        exact ⟨[], .error error, rfl, ⟨rfl, rfl, rfl⟩, rfl⟩
      · rintro ⟨inner, outcome, rfl, ⟨rfl, rfl, rfl⟩, rfl⟩
        exact ⟨rfl, rfl, rfl⟩
  | get next ih => exact ih state
  | set newState next ih => exact ih
  | ask question next ih =>
      constructor
      · rintro ⟨answer, rest, rfl, continues⟩
        rcases (ih _).mp continues with ⟨inner, outcome, rfl, replays, same⟩
        refine ⟨⟨question, (embedding.answer question).symm answer⟩ :: inner, outcome, ?_,
          ⟨_, inner, rfl, replays⟩, same⟩
        rw [List.map_cons, Embedding.entry, Equiv.apply_symm_apply]
      · rintro ⟨_, outcome, rfl, ⟨answer, inner, rfl, replays⟩, same⟩
        refine ⟨embedding.answer question answer, inner.map embedding.entry, rfl, ?_⟩
        apply (ih _).mpr
        rw [Equiv.symm_apply_apply]
        exact ⟨inner, outcome, rfl, replays, same⟩

/-- An embedded program asks what it asks on its own. -/
theorem Asks.embed {embedding : Embedding S T} {rename : ε → δ} {allowed : T.Ask → Prop}
    {program : Program S σ ε α} (asks : program.Asks fun question => allowed (embedding.ask question)) :
    (program.embed embedding rename).Asks allowed := by
  induction program with
  | ret value => trivial
  | raise error => trivial
  | get next ih => exact fun state => ih state (asks state)
  | set newState next ih => exact ih asks
  | ask question next ih => exact ⟨asks.1, fun answer => ih _ (asks.2 _)⟩

theorem Raises.embed {embedding : Embedding S T} {rename : ε → δ} {kind : δ → Prop}
    {program : Program S σ ε α} (raises : program.Raises fun error => kind (rename error)) :
    (program.embed embedding rename).Raises kind := by
  induction program with
  | ret value => trivial
  | raise error => exact raises
  | get next ih => exact fun state => ih state (raises state)
  | set newState next ih => exact ih raises
  | ask question next ih => exact fun answer => ih _ (raises _)

end Program

end Interaction
