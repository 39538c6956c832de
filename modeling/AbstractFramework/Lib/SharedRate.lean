import Mathlib.Algebra.BigOperators.Intervals
import Mathlib.Algebra.BigOperators.Field
import Mathlib.Algebra.Order.Field.Rat
import Mathlib.Tactic.Linarith
import Mathlib.Tactic.Positivity
import Mathlib.Tactic.Ring

/-! # Sharing a rate

A rate is shared by the members of a group that changes from tick to tick.  A member is paid
for a span of ticks at once: the rate times the span, divided by one number for the whole
span.  When the number is at least the size of the group in every tick of the span, and no
member is paid for a tick twice, all payments together stay below the rate times the time.
-/

namespace SharedRate

variable {α : Type}

/-- A payment for the ticks from `since` to before `till`. -/
structure Payment (α : Type) where
  key : α
  since : Nat
  till : Nat
  divisor : Nat
  amount : Nat

def Payment.Covers (p : Payment α) (tick : Nat) : Prop := p.since ≤ tick ∧ tick < p.till

instance (p : Payment α) (tick : Nat) : Decidable (p.Covers tick) :=
  inferInstanceAs (Decidable (_ ∧ _))

theorem sum_map_sum (payments : List (Payment α)) (ticks : Finset Nat) (f : Payment α → Nat → ℚ) :
    (payments.map fun p => ∑ tick ∈ ticks, f p tick).sum =
      ∑ tick ∈ ticks, (payments.map fun p => f p tick).sum := by
  induction payments with
  | nil => simp
  | cons p payments ih => simp [ih, Finset.sum_add_distrib]

theorem sum_map_covers (payments : List (Payment α)) (tick : Nat) (x : ℚ) :
    (payments.map fun p => if p.Covers tick then x else 0).sum =
      (payments.countP fun p => decide (p.Covers tick) : ℕ) * x := by
  induction payments with
  | nil => simp
  | cons p payments ih =>
    rw [List.map_cons, List.sum_cons, ih, List.countP_cons]
    by_cases covers : p.Covers tick
    · simp [covers]
      ring
    · simp [covers]

/-- The payments that cover a tick go to different members. -/
theorem countP_covers_le {payments : List (Payment α)} {members : List α} {tick : Nat}
    (apart : payments.Pairwise fun p q => p.key = q.key → p.till ≤ q.since)
    (member : ∀ p ∈ payments, p.Covers tick → p.key ∈ members) :
    (payments.countP fun p => decide (p.Covers tick)) ≤ members.length := by
  rw [List.countP_eq_length_filter]
  have distinct : ((payments.filter fun p => decide (p.Covers tick)).map Payment.key).Nodup := by
    refine List.pairwise_map.mpr (List.Pairwise.imp_of_mem ?_ (apart.filter _))
    intro p q covering covering' order same
    have covers := of_decide_eq_true (List.mem_filter.mp covering).2
    have covers' := of_decide_eq_true (List.mem_filter.mp covering').2
    have := order same
    have := covers.2
    have := covers'.1
    omega
  have inside : (payments.filter fun p => decide (p.Covers tick)).map Payment.key ⊆ members := by
    intro key listed
    obtain ⟨p, covering, rfl⟩ := List.mem_map.mp listed
    obtain ⟨paid, covers⟩ := List.mem_filter.mp covering
    exact member p paid (of_decide_eq_true covers)
  simpa using (List.subperm_of_subset distinct inside).length_le

/-- All payments together stay below the rate times the time, when the rate is given in parts
    of the unit that is paid. -/
theorem sum_amount_le {payments : List (Payment α)} {members : Nat → List α}
    {parts rate lo hi : Nat}
    (apart : payments.Pairwise fun p q => p.key = q.key → p.till ≤ q.since)
    (span : ∀ p ∈ payments, lo ≤ p.since ∧ p.till ≤ hi)
    (member : ∀ p ∈ payments, ∀ tick, p.Covers tick → p.key ∈ members tick)
    (divided : ∀ p ∈ payments, ∀ tick, p.Covers tick → (members tick).length ≤ p.divisor)
    (fair : ∀ p ∈ payments, p.divisor ≠ 0 ∧
      p.amount * parts * p.divisor ≤ rate * (p.till - p.since)) :
    (payments.map Payment.amount).sum * parts ≤ rate * (hi - lo) := by
  -- what a member gets of the rate in one tick
  let share (tick : Nat) : ℚ := (rate : ℚ) / (members tick).length
  have each : ∀ p ∈ payments, (p.amount * parts : ℚ) ≤
      ∑ tick ∈ Finset.Ico lo hi, if p.Covers tick then share tick else 0 := by
    intro p paid
    obtain ⟨positive, enough⟩ := fair p paid
    have inside : Finset.Ico p.since p.till ⊆ Finset.Ico lo hi :=
      Finset.Ico_subset_Ico (span p paid).1 (span p paid).2
    have bound : (p.amount * parts : ℚ) ≤ ∑ _tick ∈ Finset.Ico p.since p.till, (rate : ℚ) / p.divisor := by
      rw [Finset.sum_const, Nat.card_Ico, nsmul_eq_mul, ← mul_div_assoc,
        le_div_iff₀ (by positivity)]
      have := (Nat.cast_le (α := ℚ)).mpr enough
      push_cast at this
      linarith
    refine bound.trans ?_
    have lower : ∑ _tick ∈ Finset.Ico p.since p.till, (rate : ℚ) / p.divisor ≤
        ∑ tick ∈ Finset.Ico p.since p.till, if p.Covers tick then share tick else 0 := by
      apply Finset.sum_le_sum
      intro tick here
      have covers : p.Covers tick := Finset.mem_Ico.mp here
      rw [if_pos covers]
      have some : 0 < (members tick).length := List.length_pos_of_mem (member p paid tick covers)
      have le := divided p paid tick covers
      exact div_le_div_of_nonneg_left (by positivity) (by positivity) (Nat.cast_le.mpr le)
    refine lower.trans (Finset.sum_le_sum_of_subset_of_nonneg inside ?_)
    intro tick _ _
    split
    · positivity
    · exact le_refl _
  have total : (((payments.map Payment.amount).sum * parts : ℕ) : ℚ) ≤
      ∑ tick ∈ Finset.Ico lo hi, (rate : ℚ) := by
    calc (((payments.map Payment.amount).sum * parts : ℕ) : ℚ)
        = (payments.map fun p => (p.amount * parts : ℚ)).sum := by
          rw [List.sum_map_mul_right, Nat.cast_mul, Nat.cast_list_sum, List.map_map]
          rfl
      _ ≤ (payments.map fun p => ∑ tick ∈ Finset.Ico lo hi,
            if p.Covers tick then share tick else 0).sum := List.sum_le_sum each
      _ = ∑ tick ∈ Finset.Ico lo hi,
            (payments.countP fun p => decide (p.Covers tick) : ℕ) * share tick := by
          rw [sum_map_sum]
          exact Finset.sum_congr rfl fun tick _ => sum_map_covers payments tick (share tick)
      _ ≤ ∑ tick ∈ Finset.Ico lo hi, (rate : ℚ) := by
          apply Finset.sum_le_sum
          intro tick _
          have le := countP_covers_le apart fun p paid => member p paid tick
          by_cases empty : (members tick).length = 0
          · rw [empty, Nat.le_zero] at le
            rw [le]
            simp
          · have positive : (0 : ℚ) < (members tick).length := by positivity
            show _ * ((rate : ℚ) / _) ≤ _
            rw [mul_div_assoc', div_le_iff₀ positive, mul_comm]
            exact mul_le_mul_of_nonneg_left (Nat.cast_le.mpr le) (by positivity)
  rw [Finset.sum_const, Nat.card_Ico, nsmul_eq_mul] at total
  rw [Nat.mul_comm rate]
  exact_mod_cast total

end SharedRate
