import Mathlib.Algebra.Order.Floor.Semifield
import Mathlib.Data.Rat.Floor
import Mathlib.Tactic.FieldSimp
import Mathlib.Tactic.Linarith
import Mathlib.Tactic.Ring

/-! # Fixed-point numbers

A number of `scale` parts of one unit stands for a fraction.  Multiplying a whole number by
it and dividing a whole number by it round, and the rules compare the rounded results with
the exact ones: `floor_le_iff_exact` is when a comparison with the rounded value decides the
comparison with the exact one, and `ceil_eq_floor_iff` when the two directions of rounding
agree.

`total` and `floors` sum a list of weighted numbers exactly and with every product rounded
down.  `average_bounds` is how far the average of the rounded products is from the exact one.
-/

namespace FixedPoint

variable {scale a n m x : ℕ}

/-- The fraction that `a` parts of `1 / scale` are. -/
def value (scale a : ℕ) : ℚ := a / scale

theorem value_mul_le_iff (positive : 0 < scale) :
    value scale a * n ≤ m ↔ n * a ≤ m * scale := by
  have unit : (0 : ℚ) < scale := Nat.cast_pos.mpr positive
  rw [value, div_mul_eq_mul_div, div_le_iff₀ unit, mul_comm (a : ℚ)]
  norm_cast

theorem value_pos_iff (positive : 0 < scale) : 0 < value scale a ↔ 0 < a := by
  have unit : (0 : ℚ) < scale := Nat.cast_pos.mpr positive
  rw [value, div_pos_iff_of_pos_right unit, Nat.cast_pos]

theorem value_le_one_iff (positive : 0 < scale) : value scale a ≤ 1 ↔ a ≤ scale := by
  have unit : (0 : ℚ) < scale := Nat.cast_pos.mpr positive
  rw [value, div_le_one unit, Nat.cast_le]

/-- Rounding down is the floor of the exact product. -/
theorem mul_div_eq_floor : n * a / scale = ⌊value scale a * n⌋₊ := by
  rw [value, div_mul_eq_mul_div, mul_comm (a : ℚ), ← Nat.cast_mul, Nat.floor_div_eq_div]

/-- A part of a number that is at most the whole. -/
theorem mul_div_le (part : a ≤ scale) : n * a / scale ≤ n := by
  apply Nat.div_le_of_le_mul
  rw [Nat.mul_comm]
  exact Nat.mul_le_mul_right n part

/-- A whole number divided by a fraction, rounded down. -/
theorem div_value_eq_floor : ⌊(n : ℚ) / value scale a⌋₊ = n * scale / a := by
  rw [value, div_div_eq_mul_div, ← Nat.cast_mul, Nat.floor_div_eq_div]

/-- The comparison with what is rounded down is too generous for nothing but the rounded
    value itself. -/
theorem floor_le_iff_exact (positive : 0 < scale) :
    (x / scale ≤ m ↔ x ≤ m * scale) ↔ scale ∣ x ∨ m ≠ x / scale := by
  have exact_enough : x ≤ m * scale → x / scale ≤ m := by
    intro enough
    exact Nat.div_le_of_le_mul (Nat.mul_comm m scale ▸ enough)
  constructor
  · intro same
    by_cases here : m = x / scale
    · have enough : x ≤ m * scale := same.mp (Nat.le_of_eq here.symm)
      have back : x / scale * scale ≤ x := Nat.div_mul_le_self x scale
      rw [here] at enough
      exact .inl ⟨x / scale, by rw [Nat.mul_comm]; exact Nat.le_antisymm enough back⟩
    · exact .inr here
  · intro whole
    refine ⟨?_, exact_enough⟩
    intro rounded
    rcases whole with ⟨k, rfl⟩ | above
    · rw [Nat.mul_div_cancel_left k positive] at rounded
      rw [Nat.mul_comm]
      exact Nat.mul_le_mul_right scale rounded
    · have next : x / scale + 1 ≤ m := by omega
      have past := Nat.lt_mul_div_succ x positive
      calc x ≤ scale * (x / scale + 1) := Nat.le_of_lt past
        _ ≤ scale * m := Nat.mul_le_mul_left scale next
        _ = m * scale := Nat.mul_comm scale m

/-- Rounding up and rounding down agree on whole results only. -/
theorem ceil_eq_floor_iff (positive : 0 < scale) :
    (x + (scale - 1)) / scale = x / scale ↔ scale ∣ x := by
  constructor
  · intro same
    have up : x ≤ (x + (scale - 1)) / scale * scale := by
      have lost := Nat.lt_div_mul_add (a := x + (scale - 1)) positive
      omega
    rw [same] at up
    exact ⟨x / scale, by rw [Nat.mul_comm]; exact Nat.le_antisymm up (Nat.div_mul_le_self x scale)⟩
  · rintro ⟨k, rfl⟩
    rw [Nat.add_comm, Nat.add_mul_div_left _ _ positive, Nat.mul_div_cancel_left k positive,
      Nat.div_eq_of_lt (by omega), Nat.zero_add]

/-! ## Sums of products -/

/-- The sum of weights times numbers, in parts of the unit. -/
def total (terms : List (ℕ × ℕ)) : ℕ := (terms.map fun t => t.1 * t.2).sum

/-- The sum of the products rounded down. -/
def floors (scale : ℕ) (terms : List (ℕ × ℕ)) : ℕ := (terms.map fun t => t.1 * t.2 / scale).sum

@[simp] theorem total_nil : total [] = 0 := rfl

@[simp] theorem total_cons (t : ℕ × ℕ) (ts : List (ℕ × ℕ)) :
    total (t :: ts) = t.1 * t.2 + total ts := by
  simp [total]

@[simp] theorem floors_nil : floors scale [] = 0 := rfl

@[simp] theorem floors_cons (t : ℕ × ℕ) (ts : List (ℕ × ℕ)) :
    floors scale (t :: ts) = t.1 * t.2 / scale + floors scale ts := by
  simp [floors]

theorem value_total (terms : List (ℕ × ℕ)) :
    value scale (total terms) = (terms.map fun t => value scale t.2 * t.1).sum := by
  induction terms with
  | nil => simp [value]
  | cons t ts ih =>
    rw [List.map_cons, List.sum_cons, ← ih, total_cons, value, value, value, Nat.cast_add,
      Nat.cast_mul]
    ring

theorem floors_mul_le (terms : List (ℕ × ℕ)) : floors scale terms * scale ≤ total terms := by
  induction terms with
  | nil => simp
  | cons t ts ih =>
    have first := Nat.div_mul_le_self (t.1 * t.2) scale
    rw [floors_cons, total_cons, Nat.add_mul]
    exact Nat.add_le_add first ih

/-- Every product loses less than one unit. -/
theorem total_le_floors (positive : 0 < scale) (terms : List (ℕ × ℕ)) :
    total terms ≤ floors scale terms * scale + terms.length * scale := by
  induction terms with
  | nil => simp
  | cons t ts ih =>
    have first := Nat.lt_div_mul_add (a := t.1 * t.2) positive
    rw [floors_cons, total_cons, List.length_cons, Nat.add_mul, Nat.succ_mul]
    omega

theorem total_le_of_forall {terms : List (ℕ × ℕ)} {bound : ℕ} (below : ∀ t ∈ terms, t.2 ≤ bound) :
    total terms ≤ (terms.map Prod.fst).sum * bound := by
  induction terms with
  | nil => simp
  | cons t ts ih =>
    have first : t.1 * t.2 ≤ t.1 * bound := Nat.mul_le_mul_left _ (below t List.mem_cons_self)
    have rest := ih fun u listed => below u (List.mem_cons_of_mem t listed)
    rw [total_cons, List.map_cons, List.sum_cons, Nat.add_mul]
    exact Nat.add_le_add first rest

/-- An average is not above all of its numbers. -/
theorem exists_ge_of_average {terms : List (ℕ × ℕ)} {average : ℕ}
    (weighted : 0 < (terms.map Prod.fst).sum)
    (below : average * (terms.map Prod.fst).sum ≤ total terms) : ∃ t ∈ terms, average ≤ t.2 := by
  by_contra none_above
  simp only [not_exists, not_and, Nat.not_le] at none_above
  have bounded : ∀ t ∈ terms, t.2 ≤ average - 1 := by
    intro t listed
    have := none_above t listed
    omega
  have sum := Nat.le_trans below (total_le_of_forall bounded)
  rw [Nat.mul_comm] at sum
  have le : average ≤ average - 1 := Nat.le_of_mul_le_mul_left sum weighted
  have zero : average = 0 := by omega
  cases terms with
  | nil => simp at weighted
  | cons t ts =>
    have := none_above t List.mem_cons_self
    omega

/-- The average of the rounded products, itself rounded down, is never above the exact
    average, and below it by at most one unit for each product and one part for the division. -/
theorem average_bounds {elapsed : ℕ} (positive : 0 < scale) (passed : 0 < elapsed)
    (terms : List (ℕ × ℕ)) :
    value scale (total terms) / elapsed - terms.length / elapsed - 1 / scale ≤
        value scale (floors scale terms * scale / elapsed) ∧
      value scale (floors scale terms * scale / elapsed) ≤ value scale (total terms) / elapsed := by
  have unit : (0 : ℚ) < scale := Nat.cast_pos.mpr positive
  have time : (0 : ℚ) < elapsed := Nat.cast_pos.mpr passed
  generalize average_eq : floors scale terms * scale / elapsed = average
  have rounded : average * elapsed ≤ floors scale terms * scale := by
    rw [← average_eq]
    exact Nat.div_mul_le_self _ _
  have lost : floors scale terms * scale < average * elapsed + elapsed := by
    rw [← average_eq]
    exact Nat.lt_div_mul_add passed
  have above : (average * elapsed : ℚ) ≤ total terms := by
    exact_mod_cast Nat.le_trans rounded (floors_mul_le terms)
  have below : (total terms : ℚ) ≤ average * elapsed + elapsed + terms.length * scale := by
    have sum := total_le_floors positive terms
    exact_mod_cast (by omega : total terms ≤ average * elapsed + elapsed + terms.length * scale)
  constructor
  · have scaled : value scale (total terms) / elapsed - terms.length / elapsed - 1 / scale =
        (total terms - terms.length * scale - elapsed) / (scale * elapsed) := by
      rw [value]
      field_simp
    rw [scaled, value, div_le_div_iff₀ (mul_pos unit time) unit]
    nlinarith
  · rw [value, value, div_div, div_le_div_iff₀ unit (mul_pos unit time)]
    nlinarith

end FixedPoint
