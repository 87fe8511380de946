import Mathlib.Algebra.BigOperators.Group.Finset.Basic
import Mathlib.Algebra.BigOperators.Group.Finset.Piecewise
import Mathlib.Algebra.Order.BigOperators.Group.Finset

/-!
# Balances

Accounts with natural balances, over any finite type of accounts.  A step credits
or debits one account; what it does to every balance and to the total does not
depend on which other accounts a transfer names, so transfers are put together
from steps without looking at whether their accounts coincide.
-/

namespace Balances

open Finset

variable {Account : Type} [DecidableEq Account]

/-- One account receives an amount. -/
def Credited (who : Account) (amount : ℕ) (before after : Account → ℕ) : Prop :=
  ∀ account, after account = before account + if account = who then amount else 0

/-- One account pays an amount. -/
def Debited (who : Account) (amount : ℕ) (before after : Account → ℕ) : Prop :=
  ∀ account, after account + (if account = who then amount else 0) = before account

theorem credited_zero (who : Account) (balance : Account → ℕ) : Credited who 0 balance balance := by
  intro account
  rw [ite_self, Nat.add_zero]

variable {who : Account} {amount : ℕ} {before after : Account → ℕ}

theorem Credited.of_update (new : Account → ℕ) (same : ∀ account, account ≠ who →
    new account = before account) (self : new who = before who + amount) :
    Credited who amount before new := by
  intro account
  by_cases isWho : account = who
  · rw [if_pos isWho, isWho, self]
  · rw [if_neg isWho, Nat.add_zero, same account isWho]

variable [Fintype Account]

/-- The sum of all balances. -/
def total (balance : Account → ℕ) : ℕ := ∑ account, balance account

omit [DecidableEq Account] in
theorem le_total (balance : Account → ℕ) (account : Account) : balance account ≤ total balance :=
  single_le_sum (fun _ _ => Nat.zero_le _) (mem_univ account)

theorem Credited.total_eq (credited : Credited who amount before after) :
    total after = total before + amount := by
  rw [total, total, sum_congr rfl fun account _ => credited account, sum_add_distrib,
    sum_ite_eq' univ who fun _ => amount, if_pos (mem_univ who)]

theorem Debited.total_eq (debited : Debited who amount before after) :
    total after + amount = total before := by
  have credited : Credited who amount after before := fun account => (debited account).symm
  exact credited.total_eq.symm

end Balances
