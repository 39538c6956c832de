import AbstractFramework.Lib.FixedPoint
import AbstractFramework.Voting.SimpleVoting

/-! # Decimals as fractions

What the rounded operations on decimals compute, compared with the numbers that the
decimals stand for.
-/

namespace AbstractFramework.Voting

/-- The number that a decimal stands for. -/
def Decimal.toRat (d : Decimal) : ℚ := FixedPoint.value (10 ^ 18) d.atomics

variable {d : Decimal} {n m : ℕ}

theorem Decimal.toRat_mul_le_iff : d.toRat * n ≤ m ↔ n * d.atomics ≤ m * 10 ^ 18 :=
  FixedPoint.value_mul_le_iff (by decide)

theorem mulFloor_eq_floor : mulFloor n d = ⌊d.toRat * n⌋₊ :=
  FixedPoint.mul_div_eq_floor

/-- Comparing with the product that is rounded down decides the exact comparison, unless the
    two are equal and something was rounded off. -/
theorem mulFloor_le_iff_exact :
    (mulFloor n d ≤ m ↔ d.toRat * n ≤ m) ↔ 10 ^ 18 ∣ n * d.atomics ∨ m ≠ mulFloor n d := by
  rw [Decimal.toRat_mul_le_iff]
  exact FixedPoint.floor_le_iff_exact (by decide)

end AbstractFramework.Voting
