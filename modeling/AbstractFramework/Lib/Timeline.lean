import Mathlib.Algebra.BigOperators.Intervals
import AbstractFramework.Lib.Machine

/-! # Runs on a clock

The inputs of a run carry the time at which they are executed, in ticks of some clock, and
the times never decrease.  `inForce` is the state in which a tick ends: what comes after it
can no longer change it (`inForce_snoc`).  `integral` sums a rate over the ticks.
-/

namespace Timeline

variable {σ ι ε ρ : Type} {clock : ι → Nat}

/-- The state at the end of a tick, in a run with the history and the last state. -/
def inForce (clock : ι → Nat) (log : List (σ × ι × ρ)) (s : σ) (tick : Nat) : σ :=
  ((log.find? fun event => tick < clock event.2.1).map Prod.fst).getD s

@[simp] theorem inForce_nil (s : σ) (tick : Nat) :
    inForce clock ([] : List (σ × ι × ρ)) s tick = s := rfl

/-- From the last event on, the last state is in force. -/
theorem inForce_of_le {log : List (σ × ι × ρ)} {s : σ} {tick : Nat}
    (past : ∀ event ∈ log, clock event.2.1 ≤ tick) : inForce clock log s tick = s := by
  have none : log.find? (fun event => tick < clock event.2.1) = none := by
    rw [List.find?_eq_none]
    intro event happened
    have := past event happened
    simp only [decide_eq_true_eq]
    omega
  simp [inForce, none]

/-- One more event changes the state from its own tick on. -/
theorem inForce_snoc {log : List (σ × ι × ρ)} {s s' : σ} {i : ι} {r : ρ} (tick : Nat)
    (ordered : ∀ event ∈ log, clock event.2.1 ≤ clock i) :
    inForce clock (log ++ [(s, i, r)]) s' tick =
      if tick < clock i then inForce clock log s tick else s' := by
  split
  · rename_i early
    simp only [inForce, List.find?_append]
    cases log.find? fun event => tick < clock event.2.1 with
    | none => simp [early]
    | some event => simp
  · rename_i late
    apply inForce_of_le
    intro event happened
    rcases List.mem_append.mp happened with old | new
    · exact Nat.le_trans (ordered event old) (Nat.le_of_not_lt late)
    · rw [List.mem_singleton.mp new]
      exact Nat.le_of_not_lt late

/-! ## Integrals -/

/-- The integral of a rate from one tick to before another one. -/
def integral (clock : ι → Nat) (rate : σ → Nat) (log : List (σ × ι × ρ)) (s : σ) (lo hi : Nat) : Nat :=
  ∑ tick ∈ Finset.Ico lo hi, rate (inForce clock log s tick)

@[simp] theorem integral_self (rate : σ → Nat) (log : List (σ × ι × ρ)) (s : σ) (tick : Nat) :
    integral clock rate log s tick tick = 0 := by
  simp [integral]

/-- One more event does not change the integral up to its tick. -/
theorem integral_snoc {rate : σ → Nat} {log : List (σ × ι × ρ)} {s s' : σ} {i : ι} {r : ρ}
    {lo hi : Nat} (ordered : ∀ event ∈ log, clock event.2.1 ≤ clock i) (past : hi ≤ clock i) :
    integral clock rate (log ++ [(s, i, r)]) s' lo hi = integral clock rate log s lo hi := by
  apply Finset.sum_congr rfl
  intro tick here
  have early : tick < clock i := Nat.lt_of_lt_of_le (Finset.mem_Ico.mp here).2 past
  rw [inForce_snoc tick ordered, if_pos early]

/-- The integral goes on with a rate that stays the same. -/
theorem integral_extend {rate : σ → Nat} {log : List (σ × ι × ρ)} {s : σ} {lo mid hi value : Nat}
    (first : lo ≤ mid) (second : mid ≤ hi)
    (same : ∀ tick, mid ≤ tick → tick < hi → rate (inForce clock log s tick) = value) :
    integral clock rate log s lo hi = integral clock rate log s lo mid + (hi - mid) * value := by
  unfold integral
  rw [← Finset.sum_Ico_consecutive _ first second]
  congr 1
  rw [← Nat.card_Ico]
  apply Finset.sum_const_nat
  intro tick here
  exact same tick (Finset.mem_Ico.mp here).1 (Finset.mem_Ico.mp here).2

/-- In a run at times that do not decrease, no event is later than the next input. -/
theorem throughout_ordered {time : ι → Nat} {exec : ι → σ → Except ε (σ × ρ)} {s : σ} {is : List ι}
    (ordered : is.Pairwise fun i j => time i ≤ time j) :
    Machine.Throughout exec (fun _ log i => ∀ event ∈ log, time event.2.1 ≤ time i) s is := by
  rintro before i after rfl event happened
  obtain ⟨earlier, later, -, rfl, -, -⟩ := Machine.of_mem_history happened
  exact (List.pairwise_append.mp ordered).2.2 _ (by simp) i List.mem_cons_self

end Timeline
