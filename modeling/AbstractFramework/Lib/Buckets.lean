import Mathlib.Data.List.Count
import AbstractFramework.Lib.Storage

/-! # Lists by key

A map from keys to lists, to which elements are appended one by one and from which they are
dropped by a test.  A list that gets empty is not kept.  `bucket_pushAll` and
`bucket_retainAll` say what a loop over keys does to each list; a key may occur in the loop
several times.
-/

namespace Storage

variable {κ ρ : Type} [DecidableEq κ]

/-- The list of a key, empty where there is none. -/
def bucket (m : Map κ (List ρ)) (k : κ) : List ρ := (m.lookup k).getD []

def pushAt (m : Map κ (List ρ)) (k : κ) (r : ρ) : Map κ (List ρ) :=
  m.insert k (bucket m k ++ [r])

/-- Keep the elements of one list that pass, and remove the list if none does. -/
def retainAt (p : ρ → Bool) (m : Map κ (List ρ)) (k : κ) : Map κ (List ρ) :=
  let remaining := (bucket m k).filter p
  let m := m.insert k remaining
  if remaining.isEmpty then m.erase k else m

/-- No empty list is kept. -/
def NoEmpty (m : Map κ (List ρ)) : Prop := ∀ k, m.lookup k ≠ some []

variable {m : Map κ (List ρ)} {p : ρ → Bool}

theorem bucket_push (m : Map κ (List ρ)) (k : κ) (r : ρ) (k' : κ) :
    bucket (pushAt m k r) k' = bucket m k' ++ if k' = k then [r] else [] := by
  rw [pushAt, bucket, lookup_insert_ite]
  by_cases same : k' = k
  · simp [same]
  · simp [same, bucket]

theorem bucket_retain (p : ρ → Bool) (m : Map κ (List ρ)) (k k' : κ) :
    bucket (retainAt p m k) k' = if k' = k then (bucket m k').filter p else bucket m k' := by
  by_cases same : k' = k
  · subst same
    rw [if_pos rfl, retainAt]
    split
    · rename_i none
      rw [bucket, AList.lookup_erase, Option.getD_none]
      exact (List.isEmpty_iff.mp none).symm
    · rw [bucket, AList.lookup_insert, Option.getD_some]
  · rw [if_neg same, retainAt]
    have other : (m.insert k ((bucket m k).filter p)).lookup k' = m.lookup k' :=
      AList.lookup_insert_ne same
    split
    · rw [bucket, AList.lookup_erase_ne same, other, bucket]
    · rw [bucket, other, bucket]

theorem NoEmpty.push (kept : NoEmpty m) (k : κ) (r : ρ) : NoEmpty (pushAt m k r) := by
  intro k' empty
  rcases lookup_insert_cases empty with ⟨_, none⟩ | ⟨_, old⟩
  · simp at none
  · exact kept k' old

theorem NoEmpty.retain (kept : NoEmpty m) (k : κ) : NoEmpty (retainAt p m k) := by
  intro k' empty
  simp only [Storage.retainAt] at empty
  split at empty
  · obtain ⟨other, empty⟩ := lookup_erase_eq_some.mp empty
    rcases lookup_insert_cases empty with ⟨same, _⟩ | ⟨_, old⟩
    · contradiction
    · exact kept k' old
  · rename_i some
    rcases lookup_insert_cases empty with ⟨_, none⟩ | ⟨_, old⟩
    · rw [← none] at some
      exact some rfl
    · exact kept k' old

/-! ## Loops over keys -/

theorem bucket_pushAll (m : Map κ (List ρ)) (ks : List κ) (r : ρ) (k : κ) :
    bucket (ks.foldl (fun m k => pushAt m k r) m) k =
      bucket m k ++ List.replicate (ks.count k) r := by
  induction ks generalizing m with
  | nil => simp
  | cons k' ks ih =>
    rw [List.foldl_cons, ih, bucket_push, List.count_cons, List.append_assoc]
    by_cases same : k' = k
    · simp [same, List.replicate_succ]
    · simp [same, Ne.symm same]

theorem bucket_retainAll (p : ρ → Bool) (m : Map κ (List ρ)) (ks : List κ) (k : κ) :
    bucket (ks.foldl (retainAt p) m) k =
      if k ∈ ks then (bucket m k).filter p else bucket m k := by
  induction ks generalizing m with
  | nil => simp
  | cons k' ks ih =>
    rw [List.foldl_cons, ih, bucket_retain]
    by_cases same : k = k'
    · simp [same]
    · simp [same]

theorem NoEmpty.pushAll (kept : NoEmpty m) (ks : List κ) (r : ρ) :
    NoEmpty (ks.foldl (fun m k => Storage.pushAt m k r) m) := by
  induction ks generalizing m with
  | nil => exact kept
  | cons k ks ih => exact ih (kept.push k r)

theorem NoEmpty.retainAll (kept : NoEmpty m) (ks : List κ) :
    NoEmpty (ks.foldl (Storage.retainAt p) m) := by
  induction ks generalizing m with
  | nil => exact kept
  | cons k ks ih => exact ih (kept.retain k)

end Storage
