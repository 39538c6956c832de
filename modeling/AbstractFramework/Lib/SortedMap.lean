import Mathlib.Data.List.Basic

/-! # Maps in the order of their keys

A map is the list of its entries.  `insert` puts an entry before the first one with a greater
key, and in the place of one with the same key.  What is found under a key is what was
written there last (`lookup_insert`), in whatever order the entries are.
-/

namespace SortedMap

variable {κ ν : Type} [LT κ] [DecidableLT κ] [DecidableEq κ]

def insert (k : κ) (v : ν) : List (κ × ν) → List (κ × ν)
  | [] => [(k, v)]
  | e :: m =>
    if k < e.1 then (k, v) :: e :: m
    else if k = e.1 then (k, v) :: m
    else e :: insert k v m

/-- The entries are written one after the other. -/
def ofList (entries : List (κ × ν)) : List (κ × ν) :=
  entries.foldl (fun m e => insert e.1 e.2 m) []

omit [LT κ] [DecidableLT κ] in
theorem lookup_cons_ite (e : κ × ν) (m : List (κ × ν)) (k : κ) :
    (e :: m).lookup k = if k = e.1 then some e.2 else m.lookup k := by
  obtain ⟨k', v⟩ := e
  by_cases same : k = k'
  · simp [same]
  · simp [List.lookup_cons, same, beq_false_of_ne same]

@[simp] theorem lookup_insert (m : List (κ × ν)) (k k' : κ) (v : ν) :
    (insert k v m).lookup k' = if k' = k then some v else m.lookup k' := by
  induction m with
  | nil => exact lookup_cons_ite (k, v) [] k'
  | cons e m ih =>
    unfold insert
    split
    · exact lookup_cons_ite (k, v) (e :: m) k'
    · split
      · rename_i here
        rw [lookup_cons_ite, lookup_cons_ite, ← here]
        by_cases same : k' = k <;> simp [same]
      · rename_i other
        rw [lookup_cons_ite, lookup_cons_ite, ih]
        by_cases first : k' = e.1
        · rw [if_pos first, if_neg (first ▸ Ne.symm other), if_pos first]
        · rw [if_neg first, if_neg first]

end SortedMap
