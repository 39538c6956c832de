import Mathlib.Logic.Relation
import Mathlib.Order.WellFounded

/-! # Forests by parent links

Every node has at most one parent.  The links are a forest when every walk up
ends, that is, when the relation from parents to children is well-founded.
`Grounded.update` is the rule for changing one link: a node may be put below any
node that is not itself below it.
-/

namespace Forest

open Relation

variable {α : Type} {parent parent' : α → Option α} {a b : α}

/-- `b` is the parent of `a`. -/
def Under (parent : α → Option α) (a b : α) : Prop := parent a = some b

/-- Every walk from child to parent ends. -/
def Grounded (parent : α → Option α) : Prop := WellFounded fun b a => Under parent a b

theorem grounded_of_forall_none (roots : ∀ a, parent a = none) : Grounded parent := by
  refine ⟨fun a => .intro a fun b up => ?_⟩
  rw [Under, roots a] at up
  cases up

/-- No walk up returns to where it started. -/
theorem Grounded.acyclic (grounded : Grounded parent) (a : α) : ¬ TransGen (Under parent) a a := by
  intro cycle
  have back : TransGen (fun b a => Under parent a b) a a := transGen_swap.mp cycle
  exact grounded.transGen.irrefl.irrefl a back

/-- Every walk up ends at a node without a parent. -/
theorem Grounded.exists_root (grounded : Grounded parent) (a : α) :
    ∃ r, ReflTransGen (Under parent) a r ∧ parent r = none := by
  induction a using grounded.induction with
  | h a ih =>
    cases up : parent a with
    | none => exact ⟨a, .refl, up⟩
    | some b =>
      obtain ⟨r, above, isRoot⟩ := ih b up
      exact ⟨r, .head up above, isRoot⟩

/-- Walks that do not come past `a` are not affected by a change of its link. -/
theorem Grounded.acc_of_not_below (grounded : Grounded parent)
    (others : ∀ b, b ≠ a → parent' b = parent b)
    (notBelow : ¬ ReflTransGen (Under parent) b a) : Acc (fun c b => Under parent' b c) b := by
  induction b using grounded.induction with
  | h b ih =>
    have other : b ≠ a := by
      rintro rfl
      exact notBelow .refl
    refine .intro b fun c up => ?_
    rw [Under, others b other] at up
    exact ih c up fun below => notBelow (.head up below)

/-- A node is put below one that is not below it, or made a root. -/
theorem Grounded.update (grounded : Grounded parent)
    (others : ∀ b, b ≠ a → parent' b = parent b)
    (notBelow : ∀ p, parent' a = some p → ¬ ReflTransGen (Under parent) p a) :
    Grounded parent' := by
  have here : Acc (fun c b => Under parent' b c) a :=
    .intro a fun p up => grounded.acc_of_not_below others (notBelow p up)
  refine ⟨fun b => ?_⟩
  induction b using grounded.induction with
  | h b ih =>
    by_cases same : b = a
    · exact same ▸ here
    · refine .intro b fun c up => ?_
      rw [Under, others b same] at up
      exact ih c up

end Forest
