import Mathlib.Algebra.Ring.Nat
import AbstractFramework.Lib.Fallible

/-! # Wallets

A wallet has an amount of every kind of coin.  Coins come in at any time.  They go out only
while they are there, and a payment of nothing is refused, as banks refuse it.
`payAll_balance` is the balance of what came in, what went out and what is left.
-/

namespace Wallet

open Fallible

variable {κ : Type} [DecidableEq κ]

inductive Refusal where
  | Nothing
  | NotHeld
deriving DecidableEq

def receive (held : κ → Nat) (coin : κ × Nat) : κ → Nat :=
  Function.update held coin.1 (held coin.1 + coin.2)

def pay (held : κ → Nat) (coin : κ × Nat) : Except Refusal (κ → Nat) := do
  ensure (coin.2 ≠ 0) .Nothing
  ensure (coin.2 ≤ held coin.1) .NotHeld
  return Function.update held coin.1 (held coin.1 - coin.2)

def receiveAll (held : κ → Nat) (coins : List (κ × Nat)) : κ → Nat := coins.foldl receive held

def payAll (held : κ → Nat) (coins : List (κ × Nat)) : Except Refusal (κ → Nat) :=
  coins.foldlM pay held

/-- What the coins are worth in one kind. -/
def amountOf (coins : List (κ × Nat)) (kind : κ) : Nat :=
  (coins.map fun coin => if coin.1 = kind then coin.2 else 0).sum

variable {held held' : κ → Nat} {coins : List (κ × Nat)}

theorem receiveAll_apply (held : κ → Nat) (coins : List (κ × Nat)) (kind : κ) :
    receiveAll held coins kind = held kind + amountOf coins kind := by
  induction coins generalizing held with
  | nil => rfl
  | cons coin coins ih =>
    rw [receiveAll, List.foldl_cons, ← receiveAll, ih]
    by_cases same : coin.1 = kind
    · subst same
      simp [amountOf, receive, Nat.add_assoc]
    · simp [amountOf, receive, same, Function.update_of_ne (Ne.symm same)]

theorem pay_eq_ok {coin : κ × Nat} : pay held coin = .ok held' ↔ coin.2 ≠ 0 ∧
    coin.2 ≤ held coin.1 ∧ held' = Function.update held coin.1 (held coin.1 - coin.2) := by
  simp only [pay, bind_eq_ok, ensure_eq_ok, pure_eq_ok]
  constructor
  · rintro ⟨_, some, _, enough, rfl⟩
    exact ⟨some, enough, rfl⟩
  · rintro ⟨some, enough, rfl⟩
    exact ⟨(), some, (), enough, rfl⟩

theorem payAll_balance (paid : payAll held coins = .ok held') (kind : κ) :
    held' kind + amountOf coins kind = held kind := by
  induction coins generalizing held with
  | nil =>
    obtain rfl := Except.ok.inj paid
    rfl
  | cons coin coins ih =>
    simp only [payAll, List.foldlM_cons, bind_eq_ok, pay_eq_ok] at paid
    obtain ⟨_, ⟨_, enough, rfl⟩, later⟩ := paid
    have rest := ih later
    simp only [amountOf, List.map_cons, List.sum_cons] at rest ⊢
    by_cases same : coin.1 = kind
    · subst same
      simp only [Function.update_self, if_pos] at rest ⊢
      omega
    · rw [Function.update_of_ne (Ne.symm same)] at rest
      rw [if_neg same]
      omega

end Wallet
