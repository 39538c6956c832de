import Mathlib.Data.List.Basic

/-! # Paths with a way back

A path is a list of places, the last one visited last.  A hop from `a` to `b` goes
back when the path ends in `b`, and goes on, leaving `a` on the path, otherwise.

Hopping there and back is the identity except on a path that ends in `a` and `b`:
such a path goes back twice.  It is also the only reason for two paths to meet.
-/

namespace Hops

variable {α : Type} [DecidableEq α] {a b : α} {p q : List α}

def hop (a b : α) (p : List α) : List α :=
  if p.getLast? = some b then p.dropLast else p ++ [a]

@[simp] theorem hop_append (a b : α) (p : List α) : hop a b (p ++ [b]) = p := by
  simp [hop]

theorem hop_of_ne (h : p.getLast? ≠ some b) : hop a b p = p ++ [a] := if_neg h

/-- A hop goes back or goes on. -/
theorem hop_cases (a b : α) (p : List α) :
    (∃ front, p = front ++ [b] ∧ hop a b p = front) ∨
      (p.getLast? ≠ some b ∧ hop a b p = p ++ [a]) := by
  by_cases h : p.getLast? = some b
  · obtain ⟨front, rfl⟩ := List.getLast?_eq_some_iff.mp h
    exact .inl ⟨front, rfl, hop_append a b front⟩
  · exact .inr ⟨h, hop_of_ne h⟩

/-- A path that ends in `a` and `b` goes back twice. -/
theorem hop_hop_append (a b : α) (p : List α) : hop b a (hop a b (p ++ [a, b])) = p := by
  have back : hop a b (p ++ [a, b]) = p ++ [a] := by
    rw [show p ++ [a, b] = (p ++ [a]) ++ [b] by simp, hop_append]
  rw [back, hop_append]

/-- There and back is the identity on every other path. -/
theorem hop_hop_iff : hop b a (hop a b p) = p ↔ ¬ [a, b] <:+ p := by
  constructor
  · rintro same ⟨front, rfl⟩
    rw [hop_hop_append] at same
    simpa using congrArg List.length same
  · intro other
    rcases hop_cases a b p with ⟨front, rfl, back⟩ | ⟨_, on⟩
    · have ends : front.getLast? ≠ some a := by
        intro h
        obtain ⟨front', rfl⟩ := List.getLast?_eq_some_iff.mp h
        exact other ⟨front', by simp⟩
      rw [back, hop_of_ne ends]
    · rw [on, hop_append]

/-- Two paths meet only when one of them is the other one with the way there and back. -/
theorem hop_eq (h : hop a b p = hop a b q) : p = q ∨ p = q ++ [a, b] ∨ q = p ++ [a, b] := by
  rcases hop_cases a b p with ⟨front, rfl, back⟩ | ⟨_, on⟩ <;>
    rcases hop_cases a b q with ⟨front', rfl, back'⟩ | ⟨_, on'⟩
  · rw [back, back'] at h
    exact .inl (by rw [h])
  · rw [back, on'] at h
    exact .inr (.inl (by rw [h]; simp))
  · rw [on, back'] at h
    exact .inr (.inr (by rw [← h]; simp))
  · rw [on, on'] at h
    exact .inl (List.append_cancel_right h)

end Hops
