import Mathlib.Algebra.Order.BigOperators.Group.List
import Mathlib.Tactic.Linarith
import Psv.Sut.Server

/-!
# Quotes as free options

`quote_option.py`: a quote that is locked while the fair value moves is an option
of the buyer.  A rational buyer exercises it when it has gained value; repricing
refuses the quotes that have gained more than the tolerance.  Every gain is
positive, so the loss only grows along the rounds and the run overflows exactly
when the whole loss is out of range.  What a smaller tolerance lets through, a
larger one lets through as well, and this carries over from a round to the run.
-/

namespace Psv

open Interaction Chain

namespace QuoteOption

/-- Buyer's gain from exercising a quote, using exact atomic units. -/
def optionValue (lockedPrice fairValueNow : ℤ) : Except PyError ℤ := do
  let locked ← amount lockedPrice "locked_price"
  let fair ← amount fairValueNow "fair_value_now"
  return max 0 (fair - locked)

/-- One locked quote and its fair value at exercise. -/
structure Round where
  lockedPrice : ℤ
  fairValueAtExercise : ℤ

/-- Aggregate quote-option exercise count and exact system loss. -/
structure ExploitResult where
  rounds : ℕ
  exercised : ℕ
  systemLoss : ℤ
  deriving DecidableEq

/-- Whether rational quote exercise creates positive system loss. -/
def ExploitResult.isExploitable (result : ExploitResult) : Bool := decide (0 < result.systemLoss)

/-- The loop of `simulate_attacker` with its counters. -/
def exercise (slack : ℚ) (reprice : Bool) : List Round → ℕ → ℤ → Except PyError (ℕ × ℤ)
  | [], exercised, loss => .ok (exercised, loss)
  | round :: rounds, exercised, loss => do
      let gain ← optionValue round.lockedPrice round.fairValueAtExercise
      if gain ≤ 0 then exercise slack reprice rounds exercised loss
      else do
        let stale ← if reprice then
            quoteIsStale round.lockedPrice round.fairValueAtExercise (some slack)
          else .ok false
        if stale then exercise slack reprice rounds exercised loss
        else do
          refuse (uint256Max < loss + gain)
            (.valueError "aggregate system_loss exceeds uint256")
          exercise slack reprice rounds (exercised + 1) (loss + gain)

/-- Run a rational buyer across validated, exact-price rounds. -/
def simulateAttacker (rounds : List Round) (slack : Option ℚ) (reprice : Bool) :
    Except PyError ExploitResult := do
  let slack ← tolerance slack
  let counted ← exercise slack reprice rounds 0 0
  return ⟨rounds.length, counted.1, counted.2⟩

/-! ### The rounds that are exercised -/

namespace Round

variable (round : Round)

/-- Both prices are in range. -/
structure IsUint256 : Prop where
  locked : 0 ≤ round.lockedPrice ∧ round.lockedPrice ≤ uint256Max
  fair : 0 ≤ round.fairValueAtExercise ∧ round.fairValueAtExercise ≤ uint256Max

/-- What the quote has gained. -/
def gain : ℤ := round.fairValueAtExercise - round.lockedPrice

/-- The quote has gained more than the tolerance. -/
def isStale (slack : ℚ) : Bool :=
  if round.lockedPrice = 0 then decide (0 < round.fairValueAtExercise)
  else decide (round.lockedPrice * (slack.den + slack.num) <
    round.fairValueAtExercise * slack.den)

/-- The buyer exercises the quote, and the service lets it through. -/
def isExercised (slack : ℚ) (reprice : Bool) : Bool :=
  decide (0 < round.gain) && !(reprice && round.isStale slack)

end Round

/-- The rounds whose quotes are exercised. -/
def exercisedRounds (slack : ℚ) (reprice : Bool) (rounds : List Round) : List Round :=
  rounds.filter fun round => round.isExercised slack reprice

/-- What the exercised quotes have gained together. -/
def lossOf (slack : ℚ) (reprice : Bool) (rounds : List Round) : ℤ :=
  ((exercisedRounds slack reprice rounds).map Round.gain).sum

/-- The price that the exercised quotes were locked at, together. -/
def lockedOf (slack : ℚ) (reprice : Bool) (rounds : List Round) : ℤ :=
  ((exercisedRounds slack reprice rounds).map Round.lockedPrice).sum

/-! ### One round -/

section OneRound

variable {round : Round} {slack larger : ℚ} {reprice : Bool}

theorem optionValue_eq (valid : round.IsUint256) :
    optionValue round.lockedPrice round.fairValueAtExercise = .ok (max 0 round.gain) := by
  simp [optionValue, amount, valid.locked, valid.fair, Round.gain, pure, Except.pure, bind,
    Except.bind]

theorem quoteIsStale_eq (valid : round.IsUint256) (nonneg : 0 ≤ slack) (small : slack ≤ 1) :
    quoteIsStale round.lockedPrice round.fairValueAtExercise (some slack) =
      .ok (round.isStale slack) := by
  simp [quoteIsStale, amount, tolerance, valid.locked, valid.fair, nonneg, small, Round.isStale,
    pure, Except.pure, bind, Except.bind]

/-- The comparison of `quote_is_stale` is one of prices: the fair value exceeds the tolerated one. -/
theorem isStale_iff :
    round.isStale slack = true ↔
      (round.lockedPrice : ℚ) * (1 + slack) < round.fairValueAtExercise := by
  have positive : (0 : ℚ) < slack.den := by exact_mod_cast slack.den_pos
  have ratio : slack * slack.den = slack.num := Rat.mul_den_eq_num slack
  unfold Round.isStale
  split_ifs with free
  · rw [free, decide_eq_true_iff]
    simp
  · rw [decide_eq_true_iff, ← mul_lt_mul_iff_left₀ positive, mul_assoc, add_mul, one_mul, ratio]
    exact_mod_cast Iff.rfl

/-- A quote that is let through has gained no more than the tolerated part of its price. -/
theorem gain_le (exercised : round.isExercised slack true = true) :
    (round.gain : ℚ) ≤ slack * round.lockedPrice := by
  have fresh : ¬round.isStale slack = true := by
    simp only [Round.isExercised, Bool.true_and, Bool.and_eq_true, Bool.not_eq_true',
      decide_eq_true_eq] at exercised
    simp [exercised.2]
  rw [isStale_iff, not_lt] at fresh
  rw [Round.gain]
  push_cast
  linarith

theorem gain_pos (exercised : round.isExercised slack reprice = true) : 0 < round.gain := by
  simp only [Round.isExercised, Bool.and_eq_true, decide_eq_true_eq] at exercised
  exact exercised.1

/-- What a tolerance lets through, a larger one lets through as well. -/
theorem isExercised_mono (valid : round.IsUint256) (le : slack ≤ larger)
    (exercised : round.isExercised slack true = true) : round.isExercised larger true = true := by
  simp only [Round.isExercised, Bool.true_and, Bool.and_eq_true, Bool.not_eq_true',
    decide_eq_true_eq] at exercised ⊢
  refine ⟨exercised.1, ?_⟩
  have fresh : ¬round.isStale slack = true := by simp [exercised.2]
  rw [isStale_iff, not_lt] at fresh
  rw [← Bool.not_eq_true, isStale_iff, not_lt]
  have nonneg : (0 : ℚ) ≤ round.lockedPrice := by exact_mod_cast valid.locked.1
  have more : (round.lockedPrice : ℚ) * (1 + slack) ≤ round.lockedPrice * (1 + larger) := by
    gcongr
  exact fresh.trans more

/-- Without repricing every gain is let through. -/
theorem isExercised_free (exercised : round.isExercised slack true = true) :
    round.isExercised larger false = true := by
  simp only [Round.isExercised, Bool.false_and, Bool.not_false, Bool.and_true,
    Bool.and_eq_true, decide_eq_true_eq] at exercised ⊢
  exact exercised.1

end OneRound

/-! ### The run -/

section Run

variable {rounds : List Round} {slack larger : ℚ} {reprice : Bool} {result other : ExploitResult}

theorem exercisedRounds_cons (round : Round) :
    exercisedRounds slack reprice (round :: rounds) =
      if round.isExercised slack reprice then round :: exercisedRounds slack reprice rounds
      else exercisedRounds slack reprice rounds :=
  List.filter_cons

theorem lossOf_cons (round : Round) :
    lossOf slack reprice (round :: rounds) =
      if round.isExercised slack reprice then round.gain + lossOf slack reprice rounds
      else lossOf slack reprice rounds := by
  rw [lossOf, exercisedRounds_cons]
  split_ifs
  · rw [List.map_cons, List.sum_cons]
    rfl
  · rfl

theorem lossOf_nonneg (slack : ℚ) (reprice : Bool) (rounds : List Round) :
    0 ≤ lossOf slack reprice rounds := by
  apply List.sum_nonneg
  intro gain mem
  rcases List.mem_map.mp mem with ⟨round, inside, rfl⟩
  exact (gain_pos (List.mem_filter.mp inside).2).le

/-- What the loop does with one round. -/
theorem exercise_cons {round : Round} {count : ℕ} {loss : ℤ} (valid : round.IsUint256)
    (nonneg : 0 ≤ slack) (small : slack ≤ 1) :
    exercise slack reprice (round :: rounds) count loss =
      if round.isExercised slack reprice then
        if uint256Max < loss + round.gain then
          .error (.valueError "aggregate system_loss exceeds uint256")
        else exercise slack reprice rounds (count + 1) (loss + round.gain)
      else exercise slack reprice rounds count loss := by
  rw [exercise, optionValue_eq valid, Checks.ok_bind]
  by_cases gained : 0 < round.gain
  · have positive : max 0 round.gain = round.gain := max_eq_right gained.le
    rw [positive, if_neg (not_le.mpr gained), quoteIsStale_eq valid nonneg small]
    cases reprice with
    | false =>
      have free : round.isExercised slack false = true := by simp [Round.isExercised, gained]
      rw [free, if_pos rfl]
      by_cases overflow : uint256Max < loss + round.gain
      · simp [overflow, refuse_of_holds, Checks.ok_bind, Checks.error_bind]
      · simp [overflow, refuse_of_fails, Checks.ok_bind]
    | true =>
      by_cases stale : round.isStale slack = true
      · simp [Round.isExercised, stale, Checks.ok_bind]
      · have through : round.isExercised slack true = true := by
          simp [Round.isExercised, gained, stale]
        rw [through, if_pos rfl]
        by_cases overflow : uint256Max < loss + round.gain
        · simp [overflow, stale, refuse_of_holds, Checks.ok_bind, Checks.error_bind]
        · simp [overflow, stale, refuse_of_fails, Checks.ok_bind]
  · have none : max 0 round.gain = 0 := max_eq_left (not_lt.mp gained)
    have skipped : round.isExercised slack reprice = false := by
      simp [Round.isExercised, gained]
    rw [none, if_pos le_rfl, skipped, if_neg Bool.false_ne_true]

/-- The run overflows exactly when the whole loss is out of range. -/
theorem exercise_eq (valid : ∀ round ∈ rounds, round.IsUint256) (nonneg : 0 ≤ slack)
    (small : slack ≤ 1) (count : ℕ) (loss : ℤ) (bounded : loss ≤ uint256Max) :
    exercise slack reprice rounds count loss =
      if loss + lossOf slack reprice rounds ≤ uint256Max then
        .ok (count + (exercisedRounds slack reprice rounds).length,
          loss + lossOf slack reprice rounds)
      else .error (.valueError "aggregate system_loss exceeds uint256") := by
  induction rounds generalizing count loss with
  | nil => simp [exercise, lossOf, exercisedRounds, bounded]
  | cons round rounds ih =>
    simp only [List.mem_cons, forall_eq_or_imp] at valid
    rw [exercise_cons valid.1 nonneg small, exercisedRounds_cons, lossOf_cons]
    by_cases exercised : round.isExercised slack reprice = true
    · simp only [exercised, if_true]
      by_cases overflow : uint256Max < loss + round.gain
      · have rest := lossOf_nonneg slack reprice rounds
        rw [if_pos overflow, if_neg (by omega)]
      · rw [if_neg overflow, ih valid.2 _ _ (not_lt.mp overflow), List.length_cons, add_assoc,
          add_assoc, add_comm 1]
    · simp only [exercised]
      exact ih valid.2 count loss bounded

theorem simulateAttacker_eq_ok_iff (valid : ∀ round ∈ rounds, round.IsUint256)
    (nonneg : 0 ≤ slack) (small : slack ≤ 1) :
    simulateAttacker rounds (some slack) reprice = .ok result ↔
      lossOf slack reprice rounds ≤ uint256Max ∧
        result = ⟨rounds.length, (exercisedRounds slack reprice rounds).length,
          lossOf slack reprice rounds⟩ := by
  have accepted : tolerance (some slack) = .ok slack := by simp [tolerance, nonneg, small]
  have start : (0 : ℤ) ≤ uint256Max := Int.natCast_nonneg _
  rw [simulateAttacker, accepted, Checks.ok_bind, exercise_eq valid nonneg small 0 0 start]
  simp only [zero_add]
  split_ifs with fits
  · simp [fits, Checks.ok_bind, pure, Except.pure, eq_comm]
  · simp [fits]

theorem filter_sublist_filter {α : Type} {p q : α → Bool} {items : List α}
    (weaker : ∀ item ∈ items, p item = true → q item = true) :
    (items.filter p).Sublist (items.filter q) := by
  have twice : items.filter p = (items.filter q).filter p := by
    rw [List.filter_filter]
    apply List.filter_congr
    intro item mem
    cases holds : p item with
    | false => simp
    | true => simp [weaker item mem holds]
  rw [twice]
  exact List.filter_sublist

/-- The loss of more rounds is larger. -/
theorem lossOf_le_of_sublist {larger : ℚ} {free : Bool}
    (sublist : (exercisedRounds slack reprice rounds).Sublist (exercisedRounds larger free rounds)) :
    lossOf slack reprice rounds ≤ lossOf larger free rounds := by
  apply (sublist.map Round.gain).sum_le_sum
  intro gain mem
  rcases List.mem_map.mp mem with ⟨round, inside, rfl⟩
  exact (gain_pos (List.mem_filter.mp inside).2).le

theorem exercisedRounds_mono (valid : ∀ round ∈ rounds, round.IsUint256) (le : slack ≤ larger) :
    (exercisedRounds slack true rounds).Sublist (exercisedRounds larger true rounds) :=
  filter_sublist_filter fun round mem => isExercised_mono (valid round mem) le

theorem exercisedRounds_free :
    (exercisedRounds slack true rounds).Sublist (exercisedRounds larger false rounds) :=
  filter_sublist_filter fun _ _ => isExercised_free

/-- The loss is at most the tolerated part of the locked prices. -/
theorem lossOf_le (slack : ℚ) (rounds : List Round) :
    (lossOf slack true rounds : ℚ) ≤ slack * lockedOf slack true rounds := by
  have each : ∀ round ∈ exercisedRounds slack true rounds,
      (round.gain : ℚ) ≤ slack * round.lockedPrice :=
    fun round mem => gain_le (List.mem_filter.mp mem).2
  unfold lossOf lockedOf
  generalize exercisedRounds slack true rounds = taken at each
  induction taken with
  | nil => simp
  | cons round rest ih =>
    simp only [List.mem_cons, forall_eq_or_imp] at each
    simp only [List.map_cons, List.sum_cons, Int.cast_add, mul_add]
    exact add_le_add each.1 (ih each.2)

/-- A run that returns was given a tolerance in range. -/
theorem tolerated_of_returned {tolerated : Option ℚ}
    (returned : simulateAttacker rounds tolerated reprice = .ok result) :
    ∃ slack, tolerated = some slack ∧ 0 ≤ slack ∧ slack ≤ 1 := by
  rw [simulateAttacker, Checks.bind_eq_ok_iff] at returned
  rcases returned with ⟨parsed, accepted, _⟩
  cases tolerated with
  | none => cases accepted
  | some slack =>
    rw [tolerance] at accepted
    split_ifs at accepted with inside
    exact ⟨slack, rfl, inside⟩

/-- What the loss and the count of one run say about a run that exercises fewer rounds. -/
theorem simulateAttacker_of_sublist {tolerated : Option ℚ} {free : Bool}
    (valid : ∀ round ∈ rounds, round.IsUint256) (nonneg : 0 ≤ slack) (small : slack ≤ 1)
    (fewer : ∀ larger ∈ tolerated, (exercisedRounds slack true rounds).Sublist
      (exercisedRounds larger free rounds))
    (returned : simulateAttacker rounds tolerated free = .ok other) :
    ∃ result, simulateAttacker rounds (some slack) true = .ok result ∧
      result.exercised ≤ other.exercised ∧ result.systemLoss ≤ other.systemLoss := by
  rcases tolerated_of_returned returned with ⟨larger, rfl, largerNonneg, largerSmall⟩
  rcases (simulateAttacker_eq_ok_iff valid largerNonneg largerSmall).mp returned with ⟨fits, rfl⟩
  have sublist := fewer larger rfl
  have less := lossOf_le_of_sublist sublist
  exact ⟨_, (simulateAttacker_eq_ok_iff valid nonneg small).mpr ⟨less.trans fits, rfl⟩,
    sublist.length_le, less⟩

/-- Repricing bounds what the buyers of locked quotes can gain. -/
theorem repricing_bounds (valid : ∀ round ∈ rounds, round.IsUint256) (nonneg : 0 ≤ slack)
    (le : slack ≤ larger) (small : larger ≤ 1) :
    (∀ result, simulateAttacker rounds (some slack) true = .ok result →
        (result.systemLoss : ℚ) ≤ slack * lockedOf slack true rounds ∧
          result.exercised = (exercisedRounds slack true rounds).length ∧
          (slack = 0 → result.systemLoss = 0)) ∧
      (∀ other, simulateAttacker rounds (some larger) true = .ok other →
        ∃ result, simulateAttacker rounds (some slack) true = .ok result ∧
          result.exercised ≤ other.exercised ∧ result.systemLoss ≤ other.systemLoss) ∧
      ∀ unused other, simulateAttacker rounds unused false = .ok other →
        ∃ result, simulateAttacker rounds (some slack) true = .ok result ∧
          result.exercised ≤ other.exercised ∧ result.systemLoss ≤ other.systemLoss := by
  have inRange : slack ≤ 1 := le.trans small
  refine ⟨?_, ?_, ?_⟩
  · intro result returned
    rcases (simulateAttacker_eq_ok_iff valid nonneg inRange).mp returned with ⟨_, rfl⟩
    have bound := lossOf_le slack rounds
    refine ⟨bound, rfl, ?_⟩
    intro exact
    rw [exact, zero_mul] at bound
    have atMost : lossOf slack true rounds ≤ 0 := by
      rw [exact]
      exact_mod_cast bound
    exact le_antisymm atMost (lossOf_nonneg slack true rounds)
  · intro other returned
    apply simulateAttacker_of_sublist valid nonneg inRange ?_ returned
    intro given same
    rw [← Option.some.inj same]
    exact exercisedRounds_mono valid le
  · intro unused other returned
    exact simulateAttacker_of_sublist valid nonneg inRange
      (fun _ _ => exercisedRounds_free) returned

/-- A tolerated gain is exercised, and one above the tolerance is not. -/
theorem repricing_bounds_sample :
    ∃ result, simulateAttacker [⟨100, 105⟩, ⟨100, 150⟩] (some (1 / 10)) true = .ok result ∧
      result.exercised ≤ 2 ∧ result.systemLoss ≤ 55 := by
  have valid : ∀ round ∈ [(⟨100, 105⟩ : Round), ⟨100, 150⟩], round.IsUint256 := by
    intro round mem
    simp only [List.mem_cons, List.not_mem_nil, or_false] at mem
    rcases mem with rfl | rfl
    · exact ⟨by decide, by decide⟩
    · exact ⟨by decide, by decide⟩
  have bounds := @repricing_bounds _ (1 / 10) 1 valid (by norm_num) (by norm_num) le_rfl
  exact bounds.2.1 ⟨2, 2, 55⟩ (by decide)

end Run

end QuoteOption

end Psv
