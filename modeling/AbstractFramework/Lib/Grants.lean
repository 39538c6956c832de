import Mathlib.Data.List.Nodup
import Mathlib.Logic.Function.Basic

/-! # Lists of granted values

Some keys are granted a value, and a list collects the granted values.  The list
is `Listed` when it holds each of them once and nothing else, which also means
that no value is granted twice.

`grant`, `revoke` and `move` are the three ways to change a grant together with
the list.  Each asks of the list what a check of the list can establish.
-/

namespace Grants

variable {κ α : Type} [DecidableEq κ] [DecidableEq α]

/-- The list holds exactly the granted values. -/
structure Listed (granted : κ → Option α) (list : List α) : Prop where
  mem_iff : ∀ a, a ∈ list ↔ ∃ k, granted k = some a
  nodup : list.Nodup
  distinct : ∀ {k k' a}, granted k = some a → granted k' = some a → k = k'

variable {granted : κ → Option α} {list : List α} {k : κ} {a b : α}

omit [DecidableEq α] in
/-- A value that is not in the list is granted to a key without one. -/
theorem Listed.grant (listed : Listed granted list) (without : granted k = none)
    (fresh : a ∉ list) : Listed (Function.update granted k (some a)) (list ++ [a]) where
  mem_iff b := by
    rw [List.mem_append, List.mem_singleton, listed.mem_iff]
    constructor
    · rintro (⟨k', old⟩ | rfl)
      · refine ⟨k', ?_⟩
        rw [Function.update_of_ne]
        · exact old
        · rintro rfl
          rw [without] at old
          cases old
      · exact ⟨k, Function.update_self ..⟩
    · rintro ⟨k', found⟩
      rw [Function.update_apply] at found
      split at found
      · exact .inr (Option.some.inj found).symm
      · exact .inl ⟨k', found⟩
  nodup := by
    rw [List.nodup_append]
    refine ⟨listed.nodup, List.nodup_singleton a, ?_⟩
    intro b old c new same
    rw [List.mem_singleton] at new
    exact fresh (new ▸ same ▸ old)
  distinct {k₁ k₂ b} first second := by
    rw [Function.update_apply] at first second
    have notListed : ∀ k', granted k' ≠ some a :=
      fun k' old => fresh ((listed.mem_iff a).mpr ⟨k', old⟩)
    split at first <;> split at second
    · rename_i isFirst isSecond
      rw [isFirst, isSecond]
    · exact absurd (first ▸ second) (notListed k₂)
    · exact absurd (second ▸ first) (notListed k₁)
    · exact listed.distinct first second

/-- A key loses its value. -/
theorem Listed.revoke (listed : Listed granted list) (held : granted k = some a) :
    Listed (Function.update granted k none) (list.filter (· ∉ [a])) where
  mem_iff b := by
    rw [List.mem_filter, listed.mem_iff]
    simp only [List.mem_singleton, decide_eq_true_eq]
    constructor
    · rintro ⟨⟨k', old⟩, other⟩
      refine ⟨k', ?_⟩
      rw [Function.update_of_ne]
      · exact old
      · rintro rfl
        exact other (Option.some.inj (old.symm.trans held))
    · rintro ⟨k', found⟩
      rw [Function.update_apply] at found
      split at found
      · cases found
      · rename_i other
        refine ⟨⟨k', found⟩, ?_⟩
        rintro rfl
        exact other (listed.distinct found held)
  nodup := listed.nodup.filter _
  distinct {k₁ k₂ b} first second := by
    rw [Function.update_apply] at first second
    split at first
    · cases first
    · split at second
      · cases second
      · exact listed.distinct first second

/-- A key gets another value for its own. -/
theorem Listed.move (listed : Listed granted list) (held : granted k = some a)
    (fresh : b ∉ list) :
    Listed (Function.update granted k (some b)) ((list ++ [b]).filter (· ∉ [a])) := by
  have other : b ≠ a := by
    rintro rfl
    exact fresh ((listed.mem_iff b).mpr ⟨k, held⟩)
  have revoked := listed.revoke held
  have granted' := revoked.grant (k := k) (a := b) (Function.update_self ..)
    (fun member => fresh (List.mem_of_mem_filter member))
  rw [Function.update_idem] at granted'
  rw [List.filter_append, List.filter_singleton]
  simpa [other] using granted'

omit [DecidableEq α] in
/-- A key without a value stays without one. -/
theorem Listed.keep (listed : Listed granted list) (without : granted k = none) :
    Listed (Function.update granted k none) list := by
  rw [← without, Function.update_eq_self]
  exact listed

end Grants
