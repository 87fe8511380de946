import Psv.Interaction.Program
import Mathlib.Data.List.Forall2

/-!
# Checks that fail with an error

Validation code is a sequence of computations in `Except`: a refusal when some
condition holds, a check of every item of a list, a decoder run over a list.
For each of them there is one rule that says exactly when it succeeds.
-/

namespace Interaction

variable {ε α β : Type}

theorem Checks.bind_eq_ok_iff {computation : Except ε α} {next : α → Except ε β} {result : β} :
    computation >>= next = .ok result ↔
      ∃ value, computation = .ok value ∧ next value = .ok result := by
  rcases computation with error | value
  · constructor
    · intro accepted
      cases accepted
    · rintro ⟨_, equal, _⟩
      cases equal
  · constructor
    · intro accepted
      exact ⟨value, rfl, accepted⟩
    · rintro ⟨_, equal, accepted⟩
      cases equal
      exact accepted

/-- A computation that raises nothing but errors of one kind. -/
def FailsOnly (P : ε → Prop) (computation : Except ε α) : Prop :=
  ∀ error, computation = .error error → P error

theorem failsOnly_ok {P : ε → Prop} (value : α) : FailsOnly P (.ok value) := by
  intro error same
  cases same

theorem failsOnly_error {P : ε → Prop} {error : ε} (kind : P error) :
    FailsOnly P (.error error : Except ε α) := by
  intro other same
  cases same
  exact kind

theorem FailsOnly.bind {P : ε → Prop} {computation : Except ε α} {next : α → Except ε β}
    (first : FailsOnly P computation)
    (rest : ∀ value, computation = .ok value → FailsOnly P (next value)) :
    FailsOnly P (computation >>= next) := by
  rcases computation with error | value
  · exact failsOnly_error (first error rfl)
  · exact rest value rfl

/-- A sequence raises nothing else exactly when neither of its parts does. -/
theorem failsOnly_bind_iff {P : ε → Prop} {computation : Except ε α} {next : α → Except ε β} :
    FailsOnly P (computation >>= next) ↔
      FailsOnly P computation ∧ ∀ value, computation = .ok value → FailsOnly P (next value) := by
  constructor
  · intro only
    rcases computation with error | value
    · refine ⟨failsOnly_error (only error rfl), ?_⟩
      intro value impossible
      cases impossible
    · refine ⟨failsOnly_ok value, ?_⟩
      intro other same
      cases same
      exact only
  · intro only
    exact only.1.bind only.2

/-- Fail with `error` when the condition holds. -/
def refuse (condition : Prop) [Decidable condition] (error : ε) : Except ε Unit :=
  if condition then .error error else .ok ()

@[simp]
theorem refuse_eq_ok_iff {condition : Prop} [Decidable condition] {error : ε} {result : Unit} :
    refuse condition error = .ok result ↔ ¬condition := by
  by_cases holds : condition <;> simp [refuse, holds]

theorem failsOnly_refuse {P : ε → Prop} {condition : Prop} [Decidable condition] {error : ε}
    (kind : P error) : FailsOnly P (refuse condition error) := by
  rw [refuse]
  split_ifs
  · exact failsOnly_error kind
  · exact failsOnly_ok ()

theorem Checks.ok_bind {value : α} {next : α → Except ε β} :
    (Except.ok value >>= next) = next value :=
  rfl

theorem Checks.error_bind {error : ε} {next : α → Except ε β} :
    (Except.error error >>= next) = .error error :=
  rfl

theorem refuse_of_holds {condition : Prop} [Decidable condition] {error : ε} (holds : condition) :
    refuse condition error = .error error :=
  if_pos holds

theorem refuse_of_fails {condition : Prop} [Decidable condition] {error : ε}
    (fails : ¬condition) : refuse condition error = .ok () :=
  if_neg fails

theorem mapError_eq_ok_iff {δ : Type} {computation : Except ε α} {change : ε → δ} {result : α} :
    computation.mapError change = .ok result ↔ computation = .ok result := by
  rcases computation with error | value
  · simp [Except.mapError]
  · simp [Except.mapError]

/-- A step whose value does not decide whether the rest succeeds. -/
theorem Checks.isOk_bind_iff {computation : Except ε α} {next : α → Except ε β} {Rest : Prop}
    (rest : ∀ value, (∃ result, next value = .ok result) ↔ Rest) :
    (∃ result, (computation >>= next) = .ok result) ↔
      (∃ value, computation = .ok value) ∧ Rest := by
  constructor
  · rintro ⟨result, computed⟩
    rcases Checks.bind_eq_ok_iff.mp computed with ⟨value, first, second⟩
    exact ⟨⟨value, first⟩, (rest value).mp ⟨result, second⟩⟩
  · rintro ⟨⟨value, first⟩, holds⟩
    rcases (rest value).mpr holds with ⟨result, second⟩
    exact ⟨result, Checks.bind_eq_ok_iff.mpr ⟨value, first, second⟩⟩

/-- Replace an absent value by an error. -/
def orRaise (value : Option α) (error : ε) : Except ε α :=
  match value with
  | some found => .ok found
  | none => .error error

@[simp]
theorem orRaise_eq_ok_iff {value : Option α} {error : ε} {result : α} :
    orRaise value error = .ok result ↔ value = some result := by
  rcases value with _ | found <;> simp [orRaise]

/-- Decode every item of a list, each with its position. -/
def decodeAll (decode : ℕ → α → Except ε β) (start : ℕ) : List α → Except ε (List β)
  | [] => .ok []
  | item :: items => do
      let first ← decode start item
      let rest ← decodeAll decode (start + 1) items
      return first :: rest

/-- A decoder that succeeds on a list has succeeded on every item.  Positions
only serve the error texts, so each item is related to its own result. -/
theorem decodeAll_eq_ok_iff {decode : ℕ → α → Except ε β} {Decodes : α → β → Prop}
    (each : ∀ position item result, decode position item = .ok result ↔ Decodes item result)
    {start : ℕ} {items : List α} {results : List β} :
    decodeAll decode start items = .ok results ↔ List.Forall₂ Decodes items results := by
  induction items generalizing start results with
  | nil =>
      simp only [decodeAll, Except.ok.injEq, List.forall₂_nil_left_iff]
      exact eq_comm
  | cons item items ih =>
      simp only [decodeAll, Checks.bind_eq_ok_iff, each, ih, pure, Except.pure, Except.ok.injEq]
      constructor
      · rintro ⟨first, firstOk, rest, restOk, rfl⟩
        exact .cons firstOk restOk
      · intro decoded
        cases decoded with
        | cons firstOk restOk => exact ⟨_, firstOk, _, restOk, rfl⟩

theorem failsOnly_decodeAll {decode : ℕ → α → Except ε β} {P : ε → Prop}
    (each : ∀ position item, FailsOnly P (decode position item)) {start : ℕ}
    {items : List α} : FailsOnly P (decodeAll decode start items) := by
  induction items generalizing start with
  | nil => exact failsOnly_ok _
  | cons item items ih =>
    exact (each _ _).bind fun _ _ => ih.bind fun _ _ => failsOnly_ok _

end Interaction
