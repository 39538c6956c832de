import Mathlib.Algebra.Ring.Nat
import Mathlib.Data.List.Nodup

/-! # Escrows

Deposits are held under keys, each in its own unit, and the holder keeps a bare number for
each key: what is still held of the deposit.  `held` is the sum of these numbers over the
deposits of one unit.  Taking a deposit in adds its amount to the sum of its unit
(`held_snoc`), and emptying one takes out what was held of it (`held_empty`).
-/

namespace Escrow

variable {κ δ α : Type} [DecidableEq δ]

structure Deposit (κ δ : Type) where
  key : κ
  unit : δ
  amount : Nat

/-- The amount counts in its own unit. -/
def inUnit (unit unit' : δ) (amount : Nat) : Nat := if unit' = unit then amount else 0

@[simp] theorem inUnit_self (unit : δ) (amount : Nat) : inUnit unit unit amount = amount := by
  simp [inUnit]

@[simp] theorem inUnit_zero (unit unit' : δ) : inUnit unit unit' 0 = 0 := by
  simp [inUnit]

/-- What is held of the deposits of a unit. -/
def held (stake : κ → Nat) (deposits : List (Deposit κ δ)) (unit : δ) : Nat :=
  (deposits.map fun deposit => inUnit unit deposit.unit (stake deposit.key)).sum

/-- A sum in which one summand changes. -/
theorem sum_map_change {l : List α} {f g : α → Nat} {a : α} (distinct : l.Nodup) (listed : a ∈ l)
    (same : ∀ b ∈ l, b ≠ a → f b = g b) : (l.map f).sum + g a = (l.map g).sum + f a := by
  induction l with
  | nil => cases listed
  | cons b l ih =>
    obtain ⟨fresh, distinct⟩ := List.nodup_cons.mp distinct
    simp only [List.map_cons, List.sum_cons]
    rcases List.mem_cons.mp listed with rfl | later
    · have rest : l.map f = l.map g := by
        apply List.map_congr_left
        intro c later
        refine same c (List.mem_cons_of_mem a later) ?_
        rintro rfl
        exact fresh later
      rw [rest]
      omega
    · have here : f b = g b := by
        refine same b List.mem_cons_self ?_
        rintro rfl
        exact fresh later
      have := ih distinct later fun c listed => same c (List.mem_cons_of_mem b listed)
      omega

theorem held_congr {stake stake' : κ → Nat} {deposits : List (Deposit κ δ)} (unit : δ)
    (same : ∀ deposit ∈ deposits, stake' deposit.key = stake deposit.key) :
    held stake' deposits unit = held stake deposits unit := by
  unfold held
  congr 1
  apply List.map_congr_left
  intro deposit listed
  rw [same deposit listed]

/-- Taking a deposit in. -/
theorem held_snoc {stake stake' : κ → Nat} {deposits : List (Deposit κ δ)} {new : Deposit κ δ}
    (unit : δ) (same : ∀ deposit ∈ deposits, stake' deposit.key = stake deposit.key)
    (added : stake' new.key = new.amount) :
    held stake' (deposits ++ [new]) unit =
      held stake deposits unit + inUnit unit new.unit new.amount := by
  rw [← held_congr unit same]
  simp [held, added]

/-- Emptying a deposit. -/
theorem held_empty {stake stake' : κ → Nat} {deposits : List (Deposit κ δ)} {deposit : Deposit κ δ}
    (unit : δ) (distinct : (deposits.map Deposit.key).Nodup) (listed : deposit ∈ deposits)
    (same : ∀ key, key ≠ deposit.key → stake' key = stake key) (emptied : stake' deposit.key = 0) :
    held stake deposits unit =
      held stake' deposits unit + inUnit unit deposit.unit (stake deposit.key) := by
  have change := sum_map_change
    (f := fun d : Deposit κ δ => inUnit unit d.unit (stake d.key))
    (g := fun d => inUnit unit d.unit (stake' d.key)) (List.Nodup.of_map _ distinct) listed ?_
  · unfold held
    simpa [emptied] using change
  · intro other listed' ne
    rw [same]
    intro equal
    exact ne (List.inj_on_of_nodup_map distinct listed' listed equal)

end Escrow
