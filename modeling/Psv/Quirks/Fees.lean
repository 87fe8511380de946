import Psv.Quirks.Rendering

/-!
# Fees on transfers

What a receiver nets after a fee, and whether that covers what was required.
-/

namespace Psv

open Python Interaction

namespace Quirks

/-- How much the merchant is short (zero if fully paid). -/
def underpayment (received required : Value) : Except PyError ℤ := do
  let actual ← uint256Of received "received"
  let expected ← uint256Of required "required"
  return max 0 (expected - actual)

theorem uint256Of_eq {n : ℤ} {what : String} (nonneg : 0 ≤ n) (small : n < 2 ^ 256) :
    uint256Of (.int n) what = .ok n := by
  have within : 0 ≤ n ∧ n ≤ uint256Max := ⟨nonneg, by rw [uint256Max]; omega⟩
  rw [uint256Of, uint256, if_pos within]

theorem underpayment_eq {received required : ℤ} (received_nonneg : 0 ≤ received)
    (received_lt : received < 2 ^ 256) (required_nonneg : 0 ≤ required)
    (required_lt : required < 2 ^ 256) :
    underpayment (.int received) (.int required) = .ok (max 0 (required - received)) := by
  rw [underpayment, uint256Of_eq received_nonneg received_lt,
    uint256Of_eq required_nonneg required_lt]
  rfl

end Quirks

end Psv
