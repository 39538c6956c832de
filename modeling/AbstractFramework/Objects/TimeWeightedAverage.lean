import AbstractFramework.Voting.SimpleVoting

/-! # Time weighted averages

A value that is accumulated irregularly: an accumulation applies the value of the moment to
the whole time since the one before it.  The average over a period is the difference of two
accumulated values, divided by the time between the two averagings.

Times are nanoseconds, but only whole seconds are counted.
-/

namespace AbstractFramework.Objects

open AbstractFramework Fallible Voting

variable {ε : Type}

/-! ## Numbers -/

/-- `Timestamp::seconds`. -/
def seconds (t : Timestamp) : Nat := t / 1000000000

/-- `Uint128::mul_floor`, which panics when the product is too large. -/
def mulFloorChecked (n : Nat) (d : Decimal) : Except (VoteFailure ε) Nat :=
  if mulFloor n d < 2 ^ 128 then .ok (mulFloor n d)
  else .error (.panicked "called `Result::unwrap()` on an `Err` value: ConvertOverflow")

/-- `*` on decimals. -/
def Decimal.mulChecked (a b : Decimal) : Except (VoteFailure ε) Decimal :=
  if a.atomics * b.atomics / 10 ^ 18 < 2 ^ 128 then .ok ⟨a.atomics * b.atomics / 10 ^ 18⟩
  else .error (.panicked "attempt to multiply with overflow")

/-- `Decimal::from_ratio`. -/
def Decimal.fromRatio (numerator denominator : Nat) : Except (VoteFailure ε) Decimal :=
  if denominator = 0 then .error (.panicked "Denominator must not be zero")
  else if numerator * 10 ^ 18 / denominator < 2 ^ 128 then .ok ⟨numerator * 10 ^ 18 / denominator⟩
  else .error (.panicked "Multiplication overflow")

/-- `Decimal::from_atomics` of a whole number. -/
def Decimal.fromWhole (n : Nat) (e : ε) : Except (VoteFailure ε) Decimal :=
  if n * 10 ^ 18 < 2 ^ 128 then .ok ⟨n * 10 ^ 18⟩ else .error (.error e)

/-- `u128::wrapping_add`. -/
def wrappingAdd (a b : Nat) : Nat := (a + b) % 2 ^ 128

/-- `u128::wrapping_sub`. -/
def wrappingSub (a b : Nat) : Nat := (a + 2 ^ 128 - b) % 2 ^ 128

theorem mulFloorChecked_eq_ok {n m : Nat} {d : Decimal} :
    (mulFloorChecked n d : Except (VoteFailure ε) Nat) = .ok m ↔
      mulFloor n d < 2 ^ 128 ∧ m = mulFloor n d := by
  rw [mulFloorChecked, ite_ok_eq_ok]

theorem Decimal.mulChecked_eq_ok {a b d : Decimal} :
    (Decimal.mulChecked a b : Except (VoteFailure ε) Decimal) = .ok d ↔
      a.atomics * b.atomics / 10 ^ 18 < 2 ^ 128 ∧ d = ⟨a.atomics * b.atomics / 10 ^ 18⟩ := by
  rw [Decimal.mulChecked, ite_ok_eq_ok]

theorem Decimal.fromRatio_eq_ok {numerator denominator : Nat} {d : Decimal} :
    (Decimal.fromRatio numerator denominator : Except (VoteFailure ε) Decimal) = .ok d ↔
      denominator ≠ 0 ∧ numerator * 10 ^ 18 / denominator < 2 ^ 128 ∧
        d = ⟨numerator * 10 ^ 18 / denominator⟩ := by
  rw [Decimal.fromRatio, ite_error_eq_ok, ite_ok_eq_ok]

theorem Decimal.fromWhole_eq_ok {n : Nat} {e : ε} {d : Decimal} :
    Decimal.fromWhole n e = .ok d ↔ n * 10 ^ 18 < 2 ^ 128 ∧ d = ⟨n * 10 ^ 18⟩ := by
  rw [Decimal.fromWhole, ite_ok_eq_ok]

/-! ## The average -/

def DEFAULT_PRECISION : Nat := 6

structure TimeWeightedAverageData where
  precision : Nat
  lastBlockTime : Timestamp
  cumulativeValue : Nat
  lastAveragingBlockTime : Timestamp
  lastAveragingBlockHeight : Nat
  lastAveragingCumulativeValue : Nat
  averagingPeriod : Nat
  averageValue : Decimal
deriving DecidableEq, Repr

namespace TimeWeightedAverageData

variable {twa twa' : TimeWeightedAverageData} {block : BlockInfo}

def instantiate (block : BlockInfo) (precision : Option Nat) (averagingPeriod : Nat) :
    TimeWeightedAverageData where
  cumulativeValue := 0
  lastBlockTime := block.time
  precision := precision.getD DEFAULT_PRECISION
  averageValue := ⟨0⟩
  averagingPeriod
  lastAveragingCumulativeValue := 0
  lastAveragingBlockTime := block.time
  lastAveragingBlockHeight := block.height

/-- What a value adds in the time. -/
def valueOver (timeElapsed : Nat) (currentValue : Decimal) : Except (VoteFailure ε) Nat :=
  if currentValue.atomics = 0 then .ok 0 else mulFloorChecked timeElapsed currentValue

/-- Applies the current value for the duration since the last update, and returns the
    cumulative value. -/
def accumulate (twa : TimeWeightedAverageData) (block : BlockInfo) (currentValue : Decimal) :
    Except (VoteFailure ε) (TimeWeightedAverageData × Option Nat) :=
  if block.time ≤ twa.lastBlockTime then .ok (twa, none)
  else do
    let timeElapsed := seconds block.time - seconds twa.lastBlockTime
    let added ← valueOver timeElapsed currentValue
    let cumulativeValue := wrappingAdd twa.cumulativeValue added
    return ({ twa with lastBlockTime := block.time, cumulativeValue }, some cumulativeValue)

/-- Stores a new average when at least one full period has passed. -/
def tryUpdateValue (twa : TimeWeightedAverageData) (block : BlockInfo) :
    Except (VoteFailure ε) (TimeWeightedAverageData × Option Decimal) := do
  let timeElapsed ← subChecked (seconds block.time) (seconds twa.lastAveragingBlockTime)
  if timeElapsed < twa.averagingPeriod then return (twa, none)
  else
    -- (current_cum - last_cum) / time
    let newAverageValue ← Decimal.fromRatio
      (wrappingSub twa.cumulativeValue twa.lastAveragingCumulativeValue) timeElapsed
    return ({ twa with
      averageValue := newAverageValue
      lastAveragingBlockTime := block.time
      lastAveragingCumulativeValue := twa.cumulativeValue }, some newAverageValue)

theorem valueOver_eq_ok {timeElapsed added : Nat} {currentValue : Decimal}
    (h : (valueOver timeElapsed currentValue : Except (VoteFailure ε) Nat) = .ok added) :
    added = mulFloor timeElapsed currentValue := by
  unfold valueOver at h
  split at h
  · rename_i zero
    obtain rfl := Except.ok.inj h
    simp [mulFloor, zero]
  · exact (mulFloorChecked_eq_ok.mp h).2

/-- An accumulation does nothing in the block of the one before it, and else counts the whole
    seconds that have passed. -/
theorem accumulate_eq_ok {currentValue : Decimal} {sum : Option Nat}
    (h : (twa.accumulate block currentValue : Except (VoteFailure ε) _) = .ok (twa', sum)) :
    (block.time ≤ twa.lastBlockTime ∧ twa' = twa) ∨
      (twa.lastBlockTime < block.time ∧
        twa' = { twa with
          lastBlockTime := block.time
          cumulativeValue := wrappingAdd twa.cumulativeValue
            (mulFloor (seconds block.time - seconds twa.lastBlockTime) currentValue) }) := by
  unfold accumulate at h
  split at h
  · rename_i early
    obtain ⟨rfl, -⟩ := Prod.mk.inj (Except.ok.inj h)
    exact .inl ⟨early, rfl⟩
  · rename_i late
    simp only [bind_eq_ok, pure_eq_ok, Prod.mk.injEq] at h
    obtain ⟨added, counted, rfl, -⟩ := h
    rw [valueOver_eq_ok counted]
    exact .inr ⟨Nat.lt_of_not_le late, rfl⟩

theorem tryUpdateValue_eq_ok {average : Option Decimal}
    (h : (twa.tryUpdateValue block : Except (VoteFailure ε) _) = .ok (twa', average)) :
    seconds twa.lastAveragingBlockTime ≤ seconds block.time ∧
      ((seconds block.time - seconds twa.lastAveragingBlockTime < twa.averagingPeriod ∧ twa' = twa) ∨
        (twa.averagingPeriod ≤ seconds block.time - seconds twa.lastAveragingBlockTime ∧
          seconds block.time - seconds twa.lastAveragingBlockTime ≠ 0 ∧
          twa' = { twa with
            averageValue := ⟨wrappingSub twa.cumulativeValue twa.lastAveragingCumulativeValue *
              10 ^ 18 / (seconds block.time - seconds twa.lastAveragingBlockTime)⟩
            lastAveragingBlockTime := block.time
            lastAveragingCumulativeValue := twa.cumulativeValue })) := by
  unfold tryUpdateValue at h
  simp only [bind_eq_ok, subChecked_eq_ok] at h
  obtain ⟨elapsed, ⟨past, rfl⟩, h⟩ := h
  refine ⟨past, ?_⟩
  split at h
  · rename_i early
    simp only [pure_eq_ok, Prod.mk.injEq] at h
    exact .inl ⟨early, h.1.symm⟩
  · rename_i late
    simp only [bind_eq_ok, pure_eq_ok, Prod.mk.injEq] at h
    obtain ⟨average', ratio, rfl, -⟩ := h
    obtain ⟨positive, -, rfl⟩ := Decimal.fromRatio_eq_ok.mp ratio
    exact .inr ⟨Nat.le_of_not_lt late, positive, rfl⟩

end TimeWeightedAverageData

end AbstractFramework.Objects
