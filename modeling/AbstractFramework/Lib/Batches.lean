import Mathlib.Data.List.Perm.Subperm
import AbstractFramework.Lib.Fallible

/-! # Batched edits of a list without duplicates

A batch adds elements that the list must not have yet, and removes elements that it
must have.  An element is given by a token that stands for it.  Edits look at what
the edits before them left, so that a batch is accepted exactly when it has no
duplicates of its own and fits the list, whatever its order.
-/

namespace Batches

open Fallible

variable {τ α ε : Type} {R : τ → α → Prop} {f : List α → τ → Except ε (List α)}

theorem foldlM_append_eq_ok
    (step : ∀ l t l', f l t = .ok l' ↔ ∃ a, R t a ∧ a ∉ l ∧ l' = l ++ [a])
    {l l' : List α} {ts : List τ} :
    ts.foldlM f l = .ok l' ↔
      ∃ as, List.Forall₂ R ts as ∧ as.Nodup ∧ l.Disjoint as ∧ l' = l ++ as := by
  induction ts generalizing l with
  | nil =>
    simp only [List.foldlM_nil, pure_eq_ok]
    simp [eq_comm]
  | cons t ts ih =>
    rw [foldlM_cons_eq_ok]
    constructor
    · rintro ⟨added, first, later⟩
      obtain ⟨a, given, fresh, rfl⟩ := (step _ _ _).mp first
      obtain ⟨as, rest, distinct, apart, rfl⟩ := ih.mp later
      have new : a ∉ as := fun again => apart (by simp) again
      exact ⟨a :: as, .cons given rest, List.nodup_cons.mpr ⟨new, distinct⟩,
        List.disjoint_cons_right.mpr ⟨fresh, (List.disjoint_append_left.mp apart).1⟩, by simp⟩
    · rintro ⟨as, given, distinct, apart, eq⟩
      cases given with
      | @cons _ a _ as first rest =>
        obtain ⟨fresh, apart⟩ := List.disjoint_cons_right.mp apart
        obtain ⟨new, distinct⟩ := List.nodup_cons.mp distinct
        have apart' : (l ++ [a]).Disjoint as :=
          List.disjoint_append_left.mpr ⟨apart, by simpa using new⟩
        exact ⟨l ++ [a], (step _ _ _).mpr ⟨a, first, fresh, rfl⟩,
          ih.mpr ⟨as, rest, distinct, apart', by simpa using eq⟩⟩

variable [DecidableEq α]

theorem foldlM_remove_eq_ok
    (step : ∀ l t l', f l t = .ok l' ↔ ∃ a, R t a ∧ a ∈ l ∧ l' = l.filter (· ≠ a))
    {l l' : List α} {ts : List τ} :
    ts.foldlM f l = .ok l' ↔
      ∃ as, List.Forall₂ R ts as ∧ as.Nodup ∧ as ⊆ l ∧ l' = l.filter (· ∉ as) := by
  induction ts generalizing l with
  | nil =>
    simp only [List.foldlM_nil, pure_eq_ok]
    simp [eq_comm]
  | cons t ts ih =>
    have both : ∀ (a : α) (as : List α),
        (l.filter (· ≠ a)).filter (· ∉ as) = l.filter (· ∉ a :: as) := by
      intro a as
      rw [List.filter_filter]
      congr 1
      funext x
      simp [Bool.and_comm]
    rw [foldlM_cons_eq_ok]
    constructor
    · rintro ⟨left, first, later⟩
      obtain ⟨a, given, listed, rfl⟩ := (step _ _ _).mp first
      obtain ⟨as, rest, distinct, within, rfl⟩ := ih.mp later
      have new : a ∉ as := fun again => by simpa using within again
      have inside : a :: as ⊆ l :=
        List.cons_subset.mpr ⟨listed, fun x member => (List.mem_filter.mp (within member)).1⟩
      exact ⟨a :: as, (.cons given rest), List.nodup_cons.mpr ⟨new, distinct⟩, inside, both a as⟩
    · rintro ⟨as, given, distinct, within, eq⟩
      cases given with
      | @cons _ a _ as first rest =>
        obtain ⟨listed, within⟩ := List.cons_subset.mp within
        obtain ⟨new, distinct⟩ := List.nodup_cons.mp distinct
        have still : as ⊆ l.filter (· ≠ a) := by
          intro x member
          have other : x ≠ a := fun same => new (same ▸ member)
          simp [within member, other]
        exact ⟨l.filter (· ≠ a), (step _ _ _).mpr ⟨a, first, listed, rfl⟩,
          ih.mpr ⟨as, rest, distinct, still, by rw [both, eq]⟩⟩

/-- Removals that shorten the list by their number are distinct and were all there. -/
theorem length_filter_notMem (remove : List α) {l : List α} (distinct : l.Nodup) :
    (l.filter (· ∉ remove)).length + remove.length = l.length ↔
      remove.Nodup ∧ remove ⊆ l := by
  have split : (l.filter (· ∈ remove)).length + (l.filter (· ∉ remove)).length = l.length := by
    simpa using (List.length_eq_length_filter_add (l := l) (· ∈ remove)).symm
  have removed : (l.filter (· ∈ remove)).Subperm remove :=
    List.subperm_of_subset (distinct.filter _) fun x member => by simpa using (List.mem_filter.mp member).2
  constructor
  · intro short
    have perm : (l.filter (· ∈ remove)).Perm remove := removed.perm_of_length_le (by omega)
    exact ⟨perm.nodup_iff.mp (distinct.filter _), fun x member =>
      (List.mem_filter.mp (perm.mem_iff.mpr member)).1⟩
  · rintro ⟨once, within⟩
    have back : remove.Subperm (l.filter (· ∈ remove)) :=
      List.subperm_of_subset once fun x member => by simp [member, within member]
    have := removed.length_le
    have := back.length_le
    omega

/-- A batch leaves the list as it was exactly when it takes out what it has added. -/
theorem filter_append_eq_self {l added removed : List α} (once : added.Nodup)
    (apart : l.Disjoint added) (distinct : removed.Nodup) (within : removed ⊆ l ++ added) :
    (l ++ added).filter (· ∉ removed) = l ↔ removed.Perm added := by
  constructor
  · intro same
    apply (List.perm_ext_iff_of_nodup distinct once).mpr
    intro x
    constructor
    · intro out
      cases List.mem_append.mp (within out) with
      | inr member => exact member
      | inl listed =>
        rw [← same] at listed
        exact absurd out (by simpa using (List.mem_filter.mp listed).2)
    · intro member
      by_contra kept
      have listed : x ∈ (l ++ added).filter (· ∉ removed) := by simp [member, kept]
      rw [same] at listed
      exact apart listed member
  · intro perm
    have kept : l.filter (· ∉ removed) = l := by
      rw [List.filter_eq_self]
      intro x listed
      have : x ∉ removed := fun out => apart listed (perm.mem_iff.mp out)
      simpa using this
    have gone : added.filter (· ∉ removed) = [] := by
      rw [List.filter_eq_nil_iff]
      intro x member
      simpa using perm.mem_iff.mpr member
    rw [List.filter_append, kept, gone, List.append_nil]

end Batches
