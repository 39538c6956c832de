import Mathlib.Algebra.Order.Floor.Div
import Mathlib.Order.Bounds.Basic
import Mathlib.Tactic.Ring

/-! # Shares of a pool

Of each of its reserves a pool takes the part that the new shares are of those there are,
rounded up.  A deposit pays for as many shares as the part that it is of the reserve, rounded
down.  A deposit is enough exactly for the shares that it pays for (`cost_le_iff`), so the
least of what the deposits pay for is the most that all of them are enough for
(`isGreatest_min_paid`).

Someone who first swaps a part of the deposit moves the reserves.  The shares that are counted
before the swap are still paid for after it (`cost_le_after_swap`), as long as the swap does
not bring more than the reserves promise.
-/

namespace PoolShares

variable {reserve reserve' total deposit deposit' shares received : ℕ}

/-- What the pool takes of a reserve for the shares. -/
def cost (reserve total shares : ℕ) : ℕ := (reserve * shares) ⌈/⌉ total

/-- The shares that a deposit pays for. -/
def paid (deposit total reserve : ℕ) : ℕ := deposit * total / reserve

/-- What a swap that keeps the product of the reserves brings at most. -/
def swapped (offered reserve reserve' : ℕ) : ℕ := offered * reserve' / (reserve + offered)

theorem cost_le_iff_mul (issued : 0 < total) :
    cost reserve total shares ≤ deposit ↔ reserve * shares ≤ total * deposit :=
  ceilDiv_le_iff_le_mul issued

theorem le_paid_iff_mul (stocked : 0 < reserve) :
    shares ≤ paid deposit total reserve ↔ shares * reserve ≤ deposit * total :=
  Nat.le_div_iff_mul_le stocked

theorem cost_le_iff (stocked : 0 < reserve) (issued : 0 < total) :
    cost reserve total shares ≤ deposit ↔ shares ≤ paid deposit total reserve := by
  rw [cost_le_iff_mul issued, le_paid_iff_mul stocked, Nat.mul_comm reserve, Nat.mul_comm total]

theorem isGreatest_min_paid (stocked : 0 < reserve) (stocked' : 0 < reserve') (issued : 0 < total) :
    IsGreatest {s | cost reserve total s ≤ deposit ∧ cost reserve' total s ≤ deposit'}
      (min (paid deposit total reserve) (paid deposit' total reserve')) := by
  constructor
  · exact ⟨(cost_le_iff stocked issued).mpr (Nat.min_le_left _ _),
      (cost_le_iff stocked' issued).mpr (Nat.min_le_right _ _)⟩
  · rintro s ⟨first, second⟩
    exact Nat.le_min.mpr ⟨(cost_le_iff stocked issued).mp first,
      (cost_le_iff stocked' issued).mp second⟩

/-- The pool after the swap has `deposit` more of what was offered and `received` less of what
    was asked for. -/
theorem cost_le_after_swap (stocked' : 0 < reserve') (issued : 0 < total)
    (promised : received ≤ swapped deposit reserve reserve')
    (affords : shares ≤ paid received total reserve') :
    cost (reserve + deposit) total shares ≤ deposit ∧
      cost (reserve' - received) total shares ≤ received := by
  rw [le_paid_iff_mul stocked'] at affords
  constructor
  · rw [cost_le_iff_mul issued]
    have traded : received * (reserve + deposit) ≤ deposit * reserve' :=
      Nat.le_trans (Nat.mul_le_mul_right _ promised) (Nat.div_mul_le_self _ _)
    apply Nat.le_of_mul_le_mul_left _ stocked'
    calc reserve' * ((reserve + deposit) * shares)
        = shares * reserve' * (reserve + deposit) := by ring
      _ ≤ received * total * (reserve + deposit) := Nat.mul_le_mul_right _ affords
      _ = total * (received * (reserve + deposit)) := by ring
      _ ≤ total * (deposit * reserve') := Nat.mul_le_mul_left _ traded
      _ = reserve' * (total * deposit) := by ring
  · rw [cost_le_iff_mul issued]
    calc (reserve' - received) * shares
        ≤ reserve' * shares := Nat.mul_le_mul_right _ (Nat.sub_le _ _)
      _ = shares * reserve' := Nat.mul_comm _ _
      _ ≤ received * total := affords
      _ = total * received := Nat.mul_comm _ _

end PoolShares
