import Mathlib.Algebra.Ring.Nat
import Mathlib.Data.List.Induction
import Mathlib.Data.List.Nodup

/-! # Lists of normal forms

A list of names in a normal form, which is meant to be a set.  `addForm` looks for the name as
it is spelled and adds its normal form.  What it adds is normal, but a name in another
spelling is added again; `nodup_addForms_iff` is when this leaves a duplicate.
-/

namespace NormalForms

variable {α : Type} [DecidableEq α] {form : α → α} {xs ds : List α} {d x : α}

def Normalized (form : α → α) (xs : List α) : Prop := ∀ x ∈ xs, form x = x

/-- Add the normal form of a name that is not found as it is spelled. -/
def addForm (form : α → α) (xs : List α) (d : α) : List α :=
  if d ∈ xs then xs else xs ++ [form d]

/-- A name is added in its normal form where its normal form is known, or has been added
    before it; the forms that are `dropped` do not matter. -/
structure Spelled (form : α → α) (dropped xs ds : List α) : Prop where
  known : ∀ d ∈ ds, form d ∉ dropped → form d ∈ xs → form d = d
  again : ds.Pairwise fun e d => form d ∉ dropped → form e = form d → form d = d

theorem normal_addForm (idem : ∀ d, form (form d) = form d) (normal : Normalized form xs) :
    Normalized form (addForm form xs d) := by
  unfold addForm
  split
  · exact normal
  · intro x listed
    rcases List.mem_append.mp listed with old | new
    · exact normal x old
    · rw [List.mem_singleton.mp new]
      exact idem d

theorem mem_addForm (normal : Normalized form xs) : x ∈ addForm form xs d ↔ x ∈ xs ∨ x = form d := by
  unfold addForm
  split
  · rename_i known
    rw [normal d known]
    constructor
    · exact .inl
    · rintro (listed | rfl)
      · exact listed
      · exact known
  · simp

theorem normal_addForms (idem : ∀ d, form (form d) = form d) (normal : Normalized form xs) :
    Normalized form (ds.foldl (addForm form) xs) := by
  induction ds generalizing xs with
  | nil => exact normal
  | cons d ds ih => exact ih (normal_addForm idem normal)

theorem mem_addForms (idem : ∀ d, form (form d) = form d) (normal : Normalized form xs) :
    x ∈ ds.foldl (addForm form) xs ↔ x ∈ xs ∨ ∃ d ∈ ds, form d = x := by
  induction ds generalizing xs with
  | nil => simp
  | cons d ds ih =>
    rw [List.foldl_cons, ih (normal_addForm idem normal), mem_addForm normal]
    simp only [List.exists_mem_cons_iff, or_assoc, eq_comm]

/-- Adding one more name keeps a set a set, unless the name is kept, its normal form is listed
    and it is spelled in another way. -/
theorem nodup_addForm_iff (dropped : List α) (normal : Normalized form xs) :
    ((addForm form xs d).filter fun x => x ∉ dropped).Nodup ↔
      (xs.filter fun x => x ∉ dropped).Nodup ∧
        (form d ∉ dropped → form d ∈ xs → form d = d) := by
  unfold addForm
  split
  · rename_i known
    simp [normal d known]
  · rename_i unknown
    have other : form d ∈ xs → form d ≠ d := fun listed same => unknown (same ▸ listed)
    rw [List.filter_append, List.nodup_append]
    by_cases gone : form d ∈ dropped
    · simp [gone]
    · simp only [gone, not_false_eq_true, forall_const, List.filter_cons_of_pos, List.filter_nil,
        List.nodup_singleton, true_and, List.mem_singleton, forall_eq, List.mem_filter,
        decide_not, Bool.not_eq_true', decide_eq_false_iff_not, and_imp]
      constructor
      · rintro ⟨distinct, apart⟩
        exact ⟨distinct, fun listed => absurd rfl (apart (form d) listed gone)⟩
      · rintro ⟨distinct, spelled⟩
        refine ⟨distinct, ?_⟩
        rintro x listed - rfl
        exact other listed (spelled listed)

/-- The normal forms that are not dropped are listed once exactly when the names are spelled
    so. -/
theorem nodup_addForms_iff (idem : ∀ d, form (form d) = form d) (dropped : List α)
    (normal : Normalized form xs) (distinct : xs.Nodup) :
    ((ds.foldl (addForm form) xs).filter fun x => x ∉ dropped).Nodup ↔
      Spelled form dropped xs ds := by
  induction ds using List.reverseRecOn with
  | nil =>
    refine iff_of_true (distinct.filter _) ⟨?_, .nil⟩
    intro d listed
    cases listed
  | append_singleton ds d ih =>
    rw [List.foldl_append, List.foldl_cons, List.foldl_nil,
      nodup_addForm_iff dropped (normal_addForms idem normal), ih, mem_addForms idem normal]
    constructor
    · rintro ⟨before, last⟩
      refine ⟨?_, ?_⟩
      · intro e listed kept known
        rcases List.mem_append.mp listed with listed | here
        · exact before.known e listed kept known
        · obtain rfl := List.mem_singleton.mp here
          exact last kept (.inl known)
      · rw [List.pairwise_append]
        refine ⟨before.again, List.pairwise_singleton _ _, ?_⟩
        intro e listed d' here kept same
        obtain rfl := List.mem_singleton.mp here
        exact last kept (.inr ⟨e, listed, same⟩)
    · rintro ⟨known, again⟩
      obtain ⟨again, -, apart⟩ := List.pairwise_append.mp again
      refine ⟨⟨fun e listed => known e (List.mem_append_left _ listed), again⟩, ?_⟩
      rintro kept (listed | ⟨e, listed, same⟩)
      · exact known d (by simp) kept listed
      · exact apart e listed d (List.mem_singleton.mpr rfl) kept same

end NormalForms
