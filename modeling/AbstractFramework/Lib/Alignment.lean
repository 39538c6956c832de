import Mathlib.Algebra.BigOperators.Group.List.Basic
import Mathlib.Data.List.Perm.Basic

/-! # Bringing a list into the order of keys

For each key the element that has it is taken out of the list, where the last element fills the
gap, and something else stands in for a key that no element has.  When the keys are different,
nothing is left over exactly if the elements have different keys of the order
(`align_nothing_left`), and then each place has the weight that the list had for its key
(`align_weights`).
-/

namespace Alignment

variable {α κ M : Type}

/-! ## Taking an element out -/

/-- `Vec::swap_remove`: the element, and the list with the last one in its place. -/
def swapRemove (l : List α) (i : Nat) : Option (α × List α) :=
  match l[i]?, l.getLast? with
  | some removed, some last => some (removed, (l.set i last).dropLast)
  | _, _ => none

theorem getLast?_set_getLast {l : List α} {i : Nat} {last : α} (isLast : l.getLast? = some last) :
    (l.set i last).getLast? = some last := by
  rw [List.getLast?_eq_getElem?] at isLast ⊢
  obtain ⟨inside, -⟩ := List.getElem?_eq_some_iff.mp isLast
  rw [List.length_set, List.getElem?_set]
  by_cases here : i = l.length - 1
  · rw [if_pos here, if_pos (here ▸ inside)]
  · rw [if_neg here, isLast]

theorem swapRemove_eq_some {l rest : List α} {i : Nat} {a : α}
    (removed : swapRemove l i = some (a, rest)) : l[i]? = some a ∧ l.Perm (a :: rest) := by
  unfold swapRemove at removed
  split at removed
  case h_2 => cases removed
  case h_1 b last at_i isLast =>
    cases removed
    obtain ⟨inside, rfl⟩ := List.getElem?_eq_some_iff.mp at_i
    -- the list with the last element twice ends with it
    have split : (l.set i last).dropLast ++ [last] = l.set i last :=
      List.dropLast_append_getLast? last (getLast?_set_getLast isLast)
    have gap : (last :: (l.set i last).dropLast).Perm (last :: l.eraseIdx i) :=
      calc (last :: (l.set i last).dropLast).Perm ((l.set i last).dropLast ++ [last]) :=
            (List.perm_append_singleton last _).symm
        _ = l.set i last := split
        List.Perm _ (last :: l.eraseIdx i) := List.set_perm_cons_eraseIdx inside last
    exact ⟨at_i, (List.getElem_cons_eraseIdx_perm inside).symm.trans (gap.cons_inv.symm.cons _)⟩

theorem swapRemove_ne_none {l : List α} {i : Nat} (inside : i < l.length) :
    swapRemove l i ≠ none := by
  have some_last : l ≠ [] := List.ne_nil_of_length_pos (Nat.zero_lt_of_lt inside)
  simp [swapRemove, inside, List.getLast?_eq_some_getLast some_last]

section Keys

variable [DecidableEq κ] (key : α → κ)

/-- The first element with the key, and the list without it. -/
def takeOut (k : κ) (l : List α) : Option (α × List α) :=
  (l.findIdx? fun a => key a = k).bind (swapRemove l)

variable {key}

theorem takeOut_eq_some {k : κ} {l rest : List α} {a : α}
    (taken : takeOut key k l = some (a, rest)) : key a = k ∧ l.Perm (a :: rest) := by
  obtain ⟨i, found, removed⟩ := Option.bind_eq_some_iff.mp taken
  obtain ⟨inside, isKey, -⟩ := List.findIdx?_eq_some_iff_getElem.mp found
  obtain ⟨at_i, perm⟩ := swapRemove_eq_some removed
  rw [List.getElem?_eq_getElem inside, Option.some.injEq] at at_i
  subst at_i
  exact ⟨of_decide_eq_true isKey, perm⟩

theorem takeOut_eq_none {k : κ} {l : List α} (none_taken : takeOut key k l = none) :
    ∀ a ∈ l, key a ≠ k := by
  rw [takeOut] at none_taken
  cases found : l.findIdx? (fun a => key a = k) with
  | none =>
    intro a listed isKey
    simpa [isKey] using List.findIdx?_eq_none_iff.mp found a listed
  | some i =>
    obtain ⟨inside, -, -⟩ := List.findIdx?_eq_some_iff_getElem.mp found
    rw [found, Option.bind_some] at none_taken
    exact absurd none_taken (swapRemove_ne_none inside)

variable (key) (absent : κ → α)

/-! ## The order -/

/-- The next place gets the element with the key, or what stands in for it. -/
def alignStep (s : List α × List α) (k : κ) : List α × List α :=
  match takeOut key k s.2 with
  | some (a, rest) => (s.1 ++ [a], rest)
  | none => (s.1 ++ [absent k], s.2)

/-- The list in the order of the keys, and what is left over. -/
def align (order : List κ) (l : List α) : List α × List α :=
  order.foldl (alignStep key absent) ([], l)

/-- What the list holds for the key. -/
def weightAt [AddCommMonoid M] (weight : α → M) (l : List α) (k : κ) : M :=
  ((l.filter fun a => key a = k).map weight).sum

variable {key} {absent}

theorem alignStep_cases (s : List α × List α) (k : κ) :
    (∃ a rest, key a = k ∧ s.2.Perm (a :: rest) ∧
      alignStep key absent s k = (s.1 ++ [a], rest)) ∨
    ((∀ a ∈ s.2, key a ≠ k) ∧ alignStep key absent s k = (s.1 ++ [absent k], s.2)) := by
  cases taken : takeOut key k s.2 with
  | some taking =>
    obtain ⟨isKey, perm⟩ := takeOut_eq_some taken
    exact .inl ⟨taking.1, taking.2, isKey, perm, by simp [alignStep, taken]⟩
  | none => exact .inr ⟨takeOut_eq_none taken, by simp [alignStep, taken]⟩

/-- By induction on the order: the key of each step is not one of a later step, so an element
    with this key that is still in the list is left over. -/
theorem foldl_nothing_left {order : List κ} (distinct : order.Nodup) {done l : List α} :
    (order.foldl (alignStep key absent) (done, l)).2 = [] ↔
      (l.map key).Nodup ∧ ∀ a ∈ l, key a ∈ order := by
  induction order generalizing done l with
  | nil =>
    constructor
    · rintro rfl
      exact ⟨.nil, by simp⟩
    · rintro ⟨-, among⟩
      exact List.eq_nil_iff_forall_not_mem.mpr fun a listed => List.not_mem_nil (among a listed)
  | cons k order ih =>
    obtain ⟨fresh, later⟩ := List.nodup_cons.mp distinct
    rw [List.foldl_cons]
    rcases alignStep_cases (done, l) k with ⟨a, rest, isKey, perm, step⟩ | ⟨none_has, step⟩
    · rw [step, ih later, (perm.map key).nodup_iff, List.map_cons, List.nodup_cons, isKey]
      constructor
      · rintro ⟨differ, among⟩
        have gone : k ∉ rest.map key := by
          intro still
          obtain ⟨b, listed, rfl⟩ := List.mem_map.mp still
          exact fresh (among b listed)
        refine ⟨⟨gone, differ⟩, fun b listed => ?_⟩
        rcases List.mem_cons.mp (perm.mem_iff.mp listed) with rfl | listed
        · exact isKey ▸ List.mem_cons_self
        · exact List.mem_cons_of_mem _ (among b listed)
      · rintro ⟨⟨gone, differ⟩, among⟩
        refine ⟨differ, fun b listed => ?_⟩
        have either := among b (perm.mem_iff.mpr (List.mem_cons_of_mem _ listed))
        exact (List.mem_cons.mp either).resolve_left
          fun isKey => gone (isKey ▸ List.mem_map_of_mem listed)
    · rw [step, ih later]
      refine and_congr_right fun _ => forall₂_congr fun b listed => ?_
      rw [List.mem_cons, or_iff_right (none_has b listed)]

theorem align_nothing_left {order : List κ} (distinct : order.Nodup) {l : List α} :
    (align key absent order l).2 = [] ↔ (l.map key).Nodup ∧ ∀ a ∈ l, key a ∈ order :=
  foldl_nothing_left distinct

/-! ## Weights -/

section Weights

variable [AddCommMonoid M] {weight : α → M}

theorem weightAt_perm {l l' : List α} (perm : l.Perm l') (k : κ) :
    weightAt key weight l k = weightAt key weight l' k :=
  ((perm.filter _).map weight).sum_eq

theorem weightAt_cons_self (a : α) (l : List α) :
    weightAt key weight (a :: l) (key a) = weight a + weightAt key weight l (key a) := by
  simp [weightAt]

theorem weightAt_cons_of_ne {a : α} {k : κ} (other : key a ≠ k) (l : List α) :
    weightAt key weight (a :: l) k = weightAt key weight l k := by
  simp [weightAt, other]

theorem weightAt_eq_zero {l : List α} {k : κ} (none_has : ∀ a ∈ l, key a ≠ k) :
    weightAt key weight l k = 0 := by
  have nothing : l.filter (fun a => key a = k) = [] := by
    rw [List.filter_eq_nil_iff]
    exact fun a listed => by simpa using none_has a listed
  rw [weightAt, nothing]
  rfl

theorem weightAt_of_mem {l : List α} (differ : (l.map key).Nodup) {a : α} (listed : a ∈ l) :
    weightAt key weight l (key a) = weight a := by
  obtain ⟨before, later, rfl⟩ := List.append_of_mem listed
  have first : (before ++ a :: later).Perm (a :: (before ++ later)) := List.perm_middle
  rw [(first.map key).nodup_iff, List.map_cons, List.nodup_cons] at differ
  have alone : ∀ b ∈ before ++ later, key b ≠ key a := fun b listed isKey =>
    differ.1 (isKey ▸ List.mem_map_of_mem listed)
  rw [weightAt_perm first, weightAt_cons_self, weightAt_eq_zero alone, add_zero]

/-- By induction on the order. -/
theorem foldl_weights (weightless : ∀ k, weight (absent k) = 0) {order : List κ}
    (distinct : order.Nodup) {done l : List α}
    (nothing : (order.foldl (alignStep key absent) (done, l)).2 = []) :
    (order.foldl (alignStep key absent) (done, l)).1.map weight =
      done.map weight ++ order.map (weightAt key weight l) := by
  induction order generalizing done l with
  | nil => simp
  | cons k order ih =>
    obtain ⟨fresh, later⟩ := List.nodup_cons.mp distinct
    rw [List.foldl_cons] at nothing ⊢
    rcases alignStep_cases (done, l) k with ⟨a, rest, isKey, perm, step⟩ | ⟨none_has, step⟩
    · rw [step] at nothing ⊢
      obtain ⟨-, among⟩ := (foldl_nothing_left later).mp nothing
      have gone : ∀ b ∈ rest, key b ≠ k := fun b listed isKey => fresh (isKey ▸ among b listed)
      have here : weightAt key weight l k = weight a := by
        rw [weightAt_perm perm, ← isKey, weightAt_cons_self, isKey, weightAt_eq_zero gone, add_zero]
      have same : ∀ j ∈ order, weightAt key weight rest j = weightAt key weight l j := by
        intro j listed
        rw [weightAt_perm perm, weightAt_cons_of_ne]
        rintro rfl
        exact fresh (isKey ▸ listed)
      rw [ih later nothing, List.map_append, List.map_cons, List.map_cons, List.map_nil, here,
        List.map_congr_left same, List.append_assoc]
      rfl
    · rw [step] at nothing ⊢
      rw [ih later nothing, List.map_append, List.map_cons, List.map_cons, List.map_nil,
        weightless, weightAt_eq_zero none_has, List.append_assoc]
      rfl

theorem align_weights (weightless : ∀ k, weight (absent k) = 0) {order : List κ}
    (distinct : order.Nodup) {l : List α} (nothing : (align key absent order l).2 = []) :
    (align key absent order l).1.map weight = order.map (weightAt key weight l) :=
  foldl_weights weightless distinct nothing

end Weights

end Keys

end Alignment
