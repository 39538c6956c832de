import AbstractFramework.Objects.Decimals
import AbstractFramework.Objects.TimeWeightedAverage

/-! # The error of time weighted averages

An averaging divides what the accumulations since the one before it have added by the time
since then.  Every accumulation is rounded down and the sum wraps around, but the difference
of two sums does not lose anything by it: `accumulates_ok` is what any sequence of
accumulations adds.

The time of an accumulation starts at the accumulation before it, and the time of an average
at the averaging before it.  Only when that averaging was made in the second of an
accumulation do the two times agree, and an average is one of its values.
-/

namespace AbstractFramework.Objects

open AbstractFramework Fallible Voting

abbrev TwaStop := VoteFailure Empty

namespace TimeWeightedAverageData

/-! ## Runs -/

def updateSettings (twa : TimeWeightedAverageData) (averagingPeriod : Nat) :
    TimeWeightedAverageData :=
  { twa with averagingPeriod }

inductive TwaOp where
  | Accumulate (currentValue : Decimal)
  | TryUpdateValue
  | UpdateSettings (averagingPeriod : Nat)

/-- An operation and the average that it stores. -/
def exec (op : BlockInfo × TwaOp) (twa : TimeWeightedAverageData) :
    Except TwaStop (TimeWeightedAverageData × Option Decimal) :=
  match op.2 with
  | .Accumulate currentValue => do
    let (twa, _) ← twa.accumulate op.1 currentValue
    return (twa, none)
  | .TryUpdateValue => twa.tryUpdateValue op.1
  | .UpdateSettings averagingPeriod => .ok (twa.updateSettings averagingPeriod, none)

/-- The accumulations of some values, each in its block. -/
def accumulates (twa : TimeWeightedAverageData) (calls : List (BlockInfo × Decimal)) :
    Except TwaStop TimeWeightedAverageData :=
  calls.foldlM (fun twa c => do
    let (twa, _) ← twa.accumulate c.1 c.2
    return twa) twa

/-- The blocks come in the order of their times, none before the given one. -/
def Forward {α : Type} : Timestamp → List (BlockInfo × α) → Prop
  | _, [] => True
  | last, c :: calls => last ≤ c.1.time ∧ Forward c.1.time calls

instance Forward.decidable {α : Type} : (last : Timestamp) → (calls : List (BlockInfo × α)) →
    Decidable (Forward last calls)
  | _, [] => inferInstanceAs (Decidable True)
  | last, c :: calls =>
    have := Forward.decidable c.1.time calls
    inferInstanceAs (Decidable (last ≤ c.1.time ∧ Forward c.1.time calls))

/-- The time of the last block. -/
def finish {α : Type} (last : Timestamp) (calls : List (BlockInfo × α)) : Timestamp :=
  calls.foldl (fun _ c => c.1.time) last

/-- The whole seconds from each accumulation to the next, with the value of the latter. -/
def differences : Timestamp → List (BlockInfo × Decimal) → List (Nat × Nat)
  | _, [] => []
  | last, c :: calls =>
    (seconds c.1.time - seconds last, c.2.atomics) :: differences c.1.time calls

/-- The sum of the values times the whole seconds for which they are applied. -/
def trueSum (last : Timestamp) (calls : List (BlockInfo × Decimal)) : ℚ :=
  FixedPoint.value (10 ^ 18) (FixedPoint.total (differences last calls))

/-- The first accumulation after these operations is the first one of a new average. -/
def Opens (start : TimeWeightedAverageData) (ops : List (BlockInfo × TwaOp)) : Prop :=
  ops = [] ∨ ∃ earlier block twa average, ops = earlier ++ [(block, .TryUpdateValue)] ∧
    exec (block, .TryUpdateValue) (Machine.run exec start earlier) = .ok (twa, some average)

variable {twa twa' : TimeWeightedAverageData} {block block₀ : BlockInfo} {t last : Timestamp}
  {calls : List (BlockInfo × Decimal)}

/-! ## Times -/

theorem seconds_mono {t t' : Timestamp} (le : t ≤ t') : seconds t ≤ seconds t' :=
  Nat.div_le_div_right le

theorem le_finish (forward : Forward last calls) : last ≤ finish last calls := by
  induction calls generalizing last with
  | nil => exact Nat.le_refl last
  | cons c calls ih => exact Nat.le_trans forward.1 (ih forward.2)

/-- The whole seconds telescope. -/
theorem sum_differences (forward : Forward last calls) :
    ((differences last calls).map Prod.fst).sum = seconds (finish last calls) - seconds last := by
  induction calls generalizing last with
  | nil => simp [differences, finish]
  | cons c calls ih =>
    have first := seconds_mono forward.1
    have rest := seconds_mono (le_finish forward.2)
    have here : finish last (c :: calls) = finish c.1.time calls := rfl
    rw [differences, List.map_cons, List.sum_cons, ih forward.2, here]
    omega

theorem length_differences : (differences last calls).length = calls.length := by
  induction calls generalizing last with
  | nil => rfl
  | cons c calls ih => rw [differences, List.length_cons, List.length_cons, ih]

theorem snd_of_mem_differences {d : Nat × Nat} (listed : d ∈ differences last calls) :
    ∃ c ∈ calls, d.2 = c.2.atomics := by
  induction calls generalizing last with
  | nil => cases listed
  | cons c calls ih =>
    rw [differences] at listed
    rcases List.mem_cons.mp listed with rfl | later
    · exact ⟨c, List.mem_cons_self, rfl⟩
    · obtain ⟨c', listed', same⟩ := ih later
      exact ⟨c', List.mem_cons_of_mem c listed', same⟩

/-- Every value is counted for the whole seconds since the call before. -/
theorem trueSum_cons (c : BlockInfo × Decimal) :
    trueSum last (c :: calls) =
      c.2.toRat * (seconds c.1.time - seconds last : ℕ) + trueSum c.1.time calls := by
  simp only [trueSum, FixedPoint.value_total, differences, List.map_cons, List.sum_cons,
    Decimal.toRat]

/-! ## Accumulations -/

theorem wrappingAdd_zero {a : Nat} (small : a < 2 ^ 128) : wrappingAdd a 0 = a :=
  Nat.mod_eq_of_lt small

theorem wrappingAdd_lt (a b : Nat) : wrappingAdd a b < 2 ^ 128 := Nat.mod_lt _ (by decide)

theorem wrappingAdd_assoc (a b c : Nat) :
    wrappingAdd (wrappingAdd a b) c = wrappingAdd a (b + c) := by
  unfold wrappingAdd
  rw [Nat.mod_add_mod, Nat.add_assoc]

/-- What has been added to a sum is found again, whether or not the sum has wrapped around. -/
theorem wrappingSub_wrappingAdd {a b : Nat} (small : a < 2 ^ 128) (added : b < 2 ^ 128) :
    wrappingSub (wrappingAdd a b) a = b := by
  unfold wrappingSub wrappingAdd
  omega

/-- One accumulation, also in the block of the one before it. -/
theorem accumulate_ok {currentValue : Decimal} (small : twa.cumulativeValue < 2 ^ 128)
    (later : twa.lastBlockTime ≤ block.time)
    (fits : (seconds block.time - seconds twa.lastBlockTime) * currentValue.atomics <
      2 ^ 128 * 10 ^ 18) :
    ∃ sum, (twa.accumulate block currentValue : Except TwaStop _) =
      .ok ({ twa with
        lastBlockTime := block.time
        cumulativeValue := wrappingAdd twa.cumulativeValue
          ((seconds block.time - seconds twa.lastBlockTime) * currentValue.atomics / 10 ^ 18) },
        sum) := by
  unfold accumulate
  by_cases early : block.time ≤ twa.lastBlockTime
  · have same : twa.lastBlockTime = block.time := Nat.le_antisymm later early
    refine ⟨none, ?_⟩
    rw [if_pos early, ← same, Nat.sub_self, Nat.zero_mul, Nat.zero_div, wrappingAdd_zero small]
  · have product : mulFloor (seconds block.time - seconds twa.lastBlockTime) currentValue < 2 ^ 128 :=
      Nat.div_lt_of_lt_mul (Nat.mul_comm _ _ ▸ fits)
    have added : (valueOver (seconds block.time - seconds twa.lastBlockTime) currentValue :
        Except TwaStop Nat) =
          .ok ((seconds block.time - seconds twa.lastBlockTime) * currentValue.atomics / 10 ^ 18) := by
      unfold valueOver
      by_cases zero : currentValue.atomics = 0
      · simp [zero]
      · rw [if_neg zero, mulFloorChecked, if_pos product]
        rfl
    rw [if_neg early]
    dsimp only
    rw [added]
    exact ⟨_, rfl⟩

/-- Any sequence of accumulations adds its products, each rounded down. -/
theorem accumulates_ok (forward : Forward twa.lastBlockTime calls)
    (small : twa.cumulativeValue < 2 ^ 128)
    (fits : FixedPoint.total (differences twa.lastBlockTime calls) < 2 ^ 128 * 10 ^ 18) :
    twa.accumulates calls = .ok { twa with
      lastBlockTime := finish twa.lastBlockTime calls
      cumulativeValue := wrappingAdd twa.cumulativeValue
        (FixedPoint.floors (10 ^ 18) (differences twa.lastBlockTime calls)) } := by
  induction calls generalizing twa with
  | nil =>
    simp [accumulates, finish, differences, wrappingAdd_zero small]
  | cons c calls ih =>
    rw [differences, FixedPoint.total_cons] at fits
    obtain ⟨sum, first⟩ := accumulate_ok small forward.1 (Nat.lt_of_le_of_lt (Nat.le_add_right _ _) fits)
    have rest := @ih { twa with
        lastBlockTime := c.1.time
        cumulativeValue := wrappingAdd twa.cumulativeValue
          ((seconds c.1.time - seconds twa.lastBlockTime) * c.2.atomics / 10 ^ 18) }
      forward.2 (wrappingAdd_lt _ _) (Nat.lt_of_le_of_lt (Nat.le_add_left _ _) fits)
    rw [wrappingAdd_assoc] at rest
    unfold accumulates
    rw [List.foldlM_cons, first]
    exact rest

/-! ## Averagings -/

/-- When an averaging stores a new average. -/
theorem tryUpdateValue_some {average : Decimal} :
    (twa.tryUpdateValue block : Except TwaStop _) = .ok (twa', some average) ↔
      seconds twa.lastAveragingBlockTime ≤ seconds block.time ∧
      twa.averagingPeriod ≤ seconds block.time - seconds twa.lastAveragingBlockTime ∧
      (Decimal.fromRatio (wrappingSub twa.cumulativeValue twa.lastAveragingCumulativeValue)
        (seconds block.time - seconds twa.lastAveragingBlockTime) : Except TwaStop Decimal) =
          .ok average ∧
      twa' = { twa with
        averageValue := average
        lastAveragingBlockTime := block.time
        lastAveragingCumulativeValue := twa.cumulativeValue } := by
  unfold tryUpdateValue
  simp only [bind_eq_ok, subChecked_eq_ok]
  constructor
  · rintro ⟨elapsed, ⟨past, rfl⟩, h⟩
    split at h
    · simp at h
    · rename_i late
      simp only [bind_eq_ok, pure_eq_ok, Prod.mk.injEq, Option.some.injEq] at h
      obtain ⟨average', ratio, rfl, rfl⟩ := h
      exact ⟨past, Nat.le_of_not_lt late, ratio, rfl⟩
  · rintro ⟨past, late, ratio, rfl⟩
    refine ⟨_, ⟨past, rfl⟩, ?_⟩
    rw [if_neg (Nat.not_lt_of_le late), ratio]
    rfl

/-! ## What holds between operations -/

/-- The sum fits its type, and neither time is ahead of `t`. -/
structure Within (t : Timestamp) (twa : TimeWeightedAverageData) : Prop where
  small : twa.cumulativeValue < 2 ^ 128
  accumulated : twa.lastBlockTime ≤ t
  averaged : twa.lastAveragingBlockTime ≤ t

theorem Within.exec {op : BlockInfo × TwaOp} {average : Option Decimal} (within : Within last twa)
    (later : last ≤ op.1.time) (ok : exec op twa = .ok (twa', average)) :
    Within op.1.time twa' := by
  have kept : Within op.1.time twa :=
    ⟨within.small, Nat.le_trans within.accumulated later, Nat.le_trans within.averaged later⟩
  obtain ⟨block, op⟩ := op
  cases op with
  | Accumulate currentValue =>
    simp only [TimeWeightedAverageData.exec, bind_eq_ok, pure_eq_ok, Prod.mk.injEq] at ok
    obtain ⟨⟨accumulated, sum⟩, done, rfl, -⟩ := ok
    obtain ⟨-, rfl⟩ | ⟨-, rfl⟩ := accumulate_eq_ok done
    · exact kept
    · exact ⟨wrappingAdd_lt _ _, Nat.le_refl _, kept.averaged⟩
  | TryUpdateValue =>
    obtain ⟨-, ⟨-, rfl⟩ | ⟨-, -, rfl⟩⟩ := tryUpdateValue_eq_ok ok
    · exact kept
    · exact ⟨kept.small, kept.accumulated, Nat.le_refl _⟩
  | UpdateSettings averagingPeriod =>
    obtain ⟨rfl, -⟩ := Prod.mk.inj (Except.ok.inj ok)
    exact ⟨kept.small, kept.accumulated, kept.averaged⟩

theorem Within.run {ops : List (BlockInfo × TwaOp)} (within : Within last twa)
    (forward : Forward last ops) :
    Within (finish last ops) (Machine.run TimeWeightedAverageData.exec twa ops) := by
  induction ops generalizing last twa with
  | nil => exact within
  | cons op ops ih =>
    obtain ⟨later, forward⟩ := forward
    refine ih ?_ forward
    rcases Machine.step_cases TimeWeightedAverageData.exec twa op with same | ⟨average, ok⟩
    · rw [same]
      exact ⟨within.small, Nat.le_trans within.accumulated later, Nat.le_trans within.averaged later⟩
    · exact within.exec later ok

theorem within_instantiate (precision : Option Nat) (averagingPeriod : Nat) :
    Within block₀.time (instantiate block₀ precision averagingPeriod) :=
  ⟨by simp [instantiate], Nat.le_refl _, Nat.le_refl _⟩

/-- An average starts from the sum at its beginning. -/
theorem Opens.sum {precision : Option Nat} {averagingPeriod : Nat} {ops : List (BlockInfo × TwaOp)}
    (opens : Opens (instantiate block₀ precision averagingPeriod) ops)
    (opened : Machine.run exec (instantiate block₀ precision averagingPeriod) ops = twa) :
    twa.lastAveragingCumulativeValue = twa.cumulativeValue := by
  rcases opens with rfl | ⟨earlier, block, averaged, average, rfl, ok⟩
  · rw [← opened]
    rfl
  · rw [Machine.run_append, Machine.run_cons, Machine.step_of_ok ok, Machine.run_nil] at opened
    obtain ⟨-, -, -, rfl⟩ := tryUpdateValue_some.mp ok
    rw [← opened]

/-! ## The error -/

theorem Forward.weaken {α : Type} {calls : List (BlockInfo × α)} {last' : Timestamp}
    (forward : Forward last calls) (le : last' ≤ last) : Forward last' calls := by
  cases calls with
  | nil => trivial
  | cons c calls => exact ⟨Nat.le_trans le forward.1, forward.2⟩

/-- The difference of the sums is what the accumulations have added. -/
theorem difference_eq_floors (small : twa.cumulativeValue < 2 ^ 128)
    (opened : twa.lastAveragingCumulativeValue = twa.cumulativeValue)
    (fits : FixedPoint.total (differences twa.lastBlockTime calls) < 2 ^ 128 * 10 ^ 18) :
    wrappingSub (wrappingAdd twa.cumulativeValue
        (FixedPoint.floors (10 ^ 18) (differences twa.lastBlockTime calls)))
      twa.lastAveragingCumulativeValue =
      FixedPoint.floors (10 ^ 18) (differences twa.lastBlockTime calls) := by
  rw [opened]
  apply wrappingSub_wrappingAdd small
  have below := @FixedPoint.floors_mul_le (10 ^ 18) (differences twa.lastBlockTime calls)
  omega

theorem toRat_mono {a b : Nat} (le : a ≤ b) : Decimal.toRat ⟨a⟩ ≤ Decimal.toRat ⟨b⟩ := by
  have cast : (a : ℚ) ≤ b := Nat.cast_le.mpr le
  unfold Decimal.toRat FixedPoint.value
  gcongr

/-- The average over the time of the accumulations is not above all values that are
    accumulated, and so it fits its type. -/
theorem fromRatio_floors (forward : Forward last calls) (decimals : ∀ c ∈ calls, c.2.atomics < 2 ^ 128)
    (passed : 0 < seconds (finish last calls) - seconds last) :
    ∃ average, (Decimal.fromRatio (FixedPoint.floors (10 ^ 18) (differences last calls))
        (seconds (finish last calls) - seconds last) : Except TwaStop Decimal) = .ok average ∧
      ∃ c ∈ calls, average.toRat ≤ c.2.toRat := by
  have rounded := Nat.le_trans
    (Nat.div_mul_le_self _ (seconds (finish last calls) - seconds last))
    (@FixedPoint.floors_mul_le (10 ^ 18) (differences last calls))
  rw [← sum_differences forward] at rounded passed ⊢
  obtain ⟨d, listed, above⟩ := FixedPoint.exists_ge_of_average passed rounded
  obtain ⟨c, called, same⟩ := snd_of_mem_differences listed
  rw [same] at above
  refine ⟨_, Decimal.fromRatio_eq_ok.mpr ⟨Nat.ne_of_gt passed, ?_, rfl⟩, c, called, toRat_mono above⟩
  exact Nat.lt_of_le_of_lt above (decimals c called)

theorem trueSum_lt (below : trueSum last calls < 2 ^ 128) :
    FixedPoint.total (differences last calls) < 2 ^ 128 * 10 ^ 18 := by
  rw [trueSum, FixedPoint.value, div_lt_iff₀ (by positivity)] at below
  exact_mod_cast below

/-- After any operations of which the last one has stored an average, or none, any sequence of
    accumulations succeeds if its sum fits.  An average that is stored in the second of the
    last one of them is the sum over the time, up to one unit for each accumulation and one
    part for the division.  If the average before it was stored in the second of an
    accumulation, too, then the new average is stored and is not above all values. -/
theorem average_error_bound {precision : Option Nat} {averagingPeriod : Nat}
    {before : List (BlockInfo × TwaOp)} {opening : TimeWeightedAverageData}
    (opens : Opens (instantiate block₀ precision averagingPeriod) before)
    (opened : Machine.run exec (instantiate block₀ precision averagingPeriod) before = opening)
    (ordered : Forward block₀.time before) (forward : Forward (finish block₀.time before) calls)
    (decimals : ∀ c ∈ calls, c.2.atomics < 2 ^ 128)
    (sameSecond : seconds block.time = seconds (finish opening.lastBlockTime calls))
    (positive : 1 ≤ opening.averagingPeriod)
    (due : opening.averagingPeriod ≤ seconds block.time - seconds opening.lastAveragingBlockTime)
    (below : trueSum opening.lastBlockTime calls < 2 ^ 128) :
    ∃ s, opening.accumulates calls = .ok s ∧
      (∀ s' average, (s.tryUpdateValue block : Except TwaStop _) = .ok (s', some average) →
        trueSum opening.lastBlockTime calls /
              (seconds block.time - seconds opening.lastAveragingBlockTime : ℕ) -
            calls.length / (seconds block.time - seconds opening.lastAveragingBlockTime : ℕ) -
            1 / 10 ^ 18 ≤ average.toRat ∧
          average.toRat ≤ trueSum opening.lastBlockTime calls /
            (seconds block.time - seconds opening.lastAveragingBlockTime : ℕ)) ∧
      (seconds opening.lastBlockTime = seconds opening.lastAveragingBlockTime →
        ∃ s' average, (s.tryUpdateValue block : Except TwaStop _) = .ok (s', some average) ∧
          ∃ c ∈ calls, average.toRat ≤ c.2.toRat) := by
  have within : Within (finish block₀.time before) opening :=
    opened ▸ (within_instantiate precision averagingPeriod).run ordered
  have forward' : Forward opening.lastBlockTime calls := forward.weaken within.accumulated
  have fits := trueSum_lt below
  have difference := difference_eq_floors within.small (opens.sum opened) fits
  refine ⟨_, accumulates_ok forward' within.small fits, ?_, ?_⟩
  · intro s' average stored
    obtain ⟨-, -, ratio, -⟩ := tryUpdateValue_some.mp stored
    dsimp only at ratio
    rw [difference] at ratio
    obtain ⟨-, -, rfl⟩ := Decimal.fromRatio_eq_ok.mp ratio
    have bounds := @FixedPoint.average_bounds (10 ^ 18) _ (by decide)
      (Nat.le_trans positive due) (differences opening.lastBlockTime calls)
    rw [length_differences] at bounds
    exact_mod_cast bounds
  · intro aligned
    have past : seconds opening.lastAveragingBlockTime ≤ seconds block.time := by
      rw [sameSecond, ← aligned]
      exact seconds_mono (le_finish forward')
    have passed := Nat.le_trans positive due
    rw [sameSecond, ← aligned] at passed
    obtain ⟨average, ratio, above⟩ := fromRatio_floors forward' decimals passed
    rw [aligned, ← sameSecond, ← difference] at ratio
    exact ⟨_, average, tryUpdateValue_some.mpr ⟨past, due, ratio, rfl⟩, above⟩

section Sample

def newAverage : TimeWeightedAverageData := instantiate ⟨1, 0⟩ none 1

/-- 2.5 for one second and a half, and then 1, of which whole seconds count. -/
def subSecond : List (BlockInfo × Decimal) :=
  [(⟨2, 1500000000⟩, ⟨25 * 10 ^ 17⟩), (⟨3, 3000000000⟩, ⟨10 ^ 18⟩)]

/-- An averaging ten seconds after the last accumulation. -/
def lateAveraging : List (BlockInfo × TwaOp) := [(⟨2, 10000000000⟩, .TryUpdateValue)]

/-- The value 1, one second later. -/
def oneSecondLater : List (BlockInfo × Decimal) := [(⟨3, 11000000000⟩, ⟨10 ^ 18⟩)]

end Sample

theorem average_error_bound_subSecond :
    ∃ s, newAverage.accumulates subSecond = .ok s ∧
      ∃ s' average, (s.tryUpdateValue ⟨4, 3200000000⟩ : Except TwaStop _) = .ok (s', some average) ∧
        ∃ c ∈ subSecond, average.toRat ≤ c.2.toRat := by
  have below : trueSum newAverage.lastBlockTime subSecond < 2 ^ 128 := by
    have sum : FixedPoint.total (differences newAverage.lastBlockTime subSecond) =
        45 * 10 ^ 17 := by decide
    norm_num [trueSum, sum, FixedPoint.value]
  have sameSecond : seconds (⟨4, 3200000000⟩ : BlockInfo).time =
      seconds (finish newAverage.lastBlockTime subSecond) := by decide
  obtain ⟨s, accumulated, -, stored⟩ :=
    average_error_bound (.inl rfl) rfl (by decide) (by decide) (by decide) sameSecond (by decide)
      (by decide) below
  exact ⟨s, accumulated, stored rfl⟩

/-- After an averaging that was not made in the second of an accumulation, the next average
    can be above all values that are accumulated for it: here 11 where the only value is 1. -/
theorem late_averaging_above_values :
    Opens newAverage lateAveraging ∧ Forward 0 lateAveraging ∧
      Forward (finish 0 lateAveraging) oneSecondLater ∧
      (Machine.run exec newAverage lateAveraging).averagingPeriod = 1 ∧
      trueSum (Machine.run exec newAverage lateAveraging).lastBlockTime oneSecondLater < 2 ^ 128 ∧
      ∃ s s', (Machine.run exec newAverage lateAveraging).accumulates oneSecondLater = .ok s ∧
        seconds 11000000000 = seconds s.lastBlockTime ∧
        seconds 11000000000 - seconds s.lastAveragingBlockTime = 1 ∧
        (s.tryUpdateValue ⟨3, 11000000000⟩ : Except TwaStop _) =
          .ok (s', some ⟨11 * 10 ^ 18⟩) ∧
        ¬ ∃ c ∈ oneSecondLater, Decimal.toRat ⟨11 * 10 ^ 18⟩ ≤ c.2.toRat := by
  refine ⟨.inr ⟨[], ⟨2, 10000000000⟩, _, ⟨0⟩, rfl, rfl⟩, by decide, by decide, rfl, ?_, _, _, rfl, rfl,
    rfl, rfl, ?_⟩
  · have sum : FixedPoint.total (differences
        (Machine.run exec newAverage lateAveraging).lastBlockTime oneSecondLater) =
          11 * 10 ^ 18 := by decide
    norm_num [trueSum, sum, FixedPoint.value]
  · simp [oneSecondLater, Decimal.toRat, FixedPoint.value]
    norm_num

end TimeWeightedAverageData

end AbstractFramework.Objects
