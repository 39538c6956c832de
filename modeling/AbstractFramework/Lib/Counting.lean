import Mathlib.Algebra.BigOperators.Group.List.Basic
import Mathlib.Algebra.Ring.Nat
import AbstractFramework.Lib.Storage

/-! # Counting the entries of a map

`count m p` is the number of entries of the map that meet `p`, and `total m f` the
sum of `f` over the entries.  A write changes only the entry of its key:
`count_insert` and `total_insert` balance the entry written against the one that was
there before.
-/

namespace Storage

variable {κ ν : Type}

/-- The number of entries that meet `p`. -/
def count (m : Map κ ν) (p : κ → ν → Bool) : Nat := m.entries.countP fun e => p e.1 e.2

/-- What one entry, or its absence, contributes to a count. -/
def weight (p : κ → ν → Bool) (k : κ) : Option ν → Nat
  | some v => if p k v then 1 else 0
  | none => 0

@[simp] theorem weight_none (p : κ → ν → Bool) (k : κ) : weight p k none = 0 := rfl

@[simp] theorem weight_some (p : κ → ν → Bool) (k : κ) (v : ν) :
    weight p k (some v) = if p k v then 1 else 0 := rfl

/-- Two kinds of entries that exclude each other. -/
theorem count_add_le {m : Map κ ν} {p q r : κ → ν → Bool}
    (left : ∀ k v, p k v = true → r k v = true) (right : ∀ k v, q k v = true → r k v = true)
    (apart : ∀ k v, p k v = true → q k v = false) : count m p + count m q ≤ count m r := by
  unfold count
  induction m.entries with
  | nil => simp
  | cons e rest ih =>
    simp only [List.countP_cons]
    have := left e.1 e.2
    have := right e.1 e.2
    have := apart e.1 e.2
    cases hp : p e.1 e.2 <;> cases hq : q e.1 e.2 <;> cases hr : r e.1 e.2 <;> simp_all <;> omega

/-- No entry of the map counts. -/
theorem count_eq_zero {m : Map κ ν} {p : κ → ν → Bool} (not : ∀ k ∈ m, ∀ v, p k v = false) :
    count m p = 0 := by
  unfold count
  rw [List.countP_eq_zero]
  intro e listed
  simp [not e.1 (List.mem_keys_of_mem listed) e.2]

variable [DecidableEq κ]

/-- The entries of the other keys and the entry of the key itself. -/
theorem countP_kerase (p : κ → ν → Bool) (k : κ) :
    ∀ entries : List (Sigma fun _ : κ => ν),
      entries.countP (fun e => p e.1 e.2) =
        (List.kerase k entries).countP (fun e => p e.1 e.2) + weight p k (List.dlookup k entries)
  | [] => by simp
  | ⟨k', v⟩ :: rest => by
    by_cases same : k = k'
    · subst same
      simp [List.countP_cons]
    · have := countP_kerase p k rest
      rw [List.kerase_cons_ne same, List.dlookup_cons_ne _ _ same, List.countP_cons, List.countP_cons,
        this]
      omega

theorem count_erase (m : Map κ ν) (p : κ → ν → Bool) (k : κ) :
    count m p = count (m.erase k) p + weight p k (m.lookup k) :=
  countP_kerase p k m.entries

theorem count_insert (m : Map κ ν) (p : κ → ν → Bool) (k : κ) (v : ν) :
    count (m.insert k v) p + weight p k (m.lookup k) = count m p + weight p k (some v) := by
  have inserted : count (m.insert k v) p = count (m.erase k) p + weight p k (some v) := by
    unfold count
    rw [AList.entries_insert, List.countP_cons]
    rfl
  rw [inserted, count_erase m p k]
  omega

theorem count_eq_zero_of_lookup {m : Map κ ν} {p : κ → ν → Bool}
    (not : ∀ k v, m.lookup k = some v → p k v = false) : count m p = 0 := by
  unfold count
  rw [List.countP_eq_zero]
  intro e listed
  simp [not e.1 e.2 (AList.mem_lookup_iff.mpr listed)]

/-- Writing over an entry. -/
theorem count_replace {m : Map κ ν} (p : κ → ν → Bool) {k : κ} {v₀ : ν}
    (found : m.lookup k = some v₀) (v : ν) :
    count (m.insert k v) p + (p k v₀).toNat = count m p + (p k v).toNat := by
  have balance := count_insert m p k v
  rw [found, weight_some, weight_some, ← Bool.cond_eq_ite, ← Bool.cond_eq_ite] at balance
  exact balance

theorem count_pos {m : Map κ ν} {p : κ → ν → Bool} {k : κ} {v : ν} (found : m.lookup k = some v)
    (meets : p k v = true) : 0 < count m p := by
  have := count_erase m p k
  rw [found, weight_some, if_pos meets] at this
  omega

/-- Every entry of a new key is counted on its own. -/
theorem count_insertAll {m : Map κ ν} {p : κ → ν → Bool} {es : List (κ × ν)}
    (fresh : ∀ e ∈ es, e.1 ∉ m) (distinct : (es.map Prod.fst).Nodup) :
    count (insertAll m es) p = count m p + es.countP fun e => p e.1 e.2 := by
  induction es generalizing m with
  | nil => rfl
  | cons e es ih =>
    rw [List.map_cons, List.nodup_cons] at distinct
    have free : m.lookup e.1 = none := AList.lookup_eq_none.mpr (fresh e List.mem_cons_self)
    have balance := count_insert m p e.1 e.2
    rw [free, weight_none, weight_some] at balance
    rw [insertAll_cons, ih _ distinct.2, List.countP_cons]
    · omega
    · intro e' listed
      rw [AList.mem_insert, not_or]
      refine ⟨?_, fresh e' (List.mem_cons_of_mem e listed)⟩
      intro same
      exact distinct.1 (same ▸ List.mem_map_of_mem listed)

/-! ## All entries -/

def size (m : Map κ ν) : Nat := m.entries.length

omit [DecidableEq κ] in
theorem size_eq_count (m : Map κ ν) : size m = count m fun _ _ => true := by
  simp [size, count]

/-- Writing an entry that is there. -/
theorem size_insert_of_lookup {m : Map κ ν} {k : κ} {v₀ : ν} (v : ν)
    (found : m.lookup k = some v₀) : size (m.insert k v) = size m := by
  have balance := count_insert m (fun _ _ => true) k v
  rw [found, weight_some, weight_some] at balance
  rw [size_eq_count, size_eq_count]
  omega

/-- Writing a new entry. -/
theorem size_insert_of_free {m : Map κ ν} {k : κ} (v : ν) (free : m.lookup k = none) :
    size (m.insert k v) = size m + 1 := by
  have balance := count_insert m (fun _ _ => true) k v
  rw [free, weight_none, weight_some, if_pos rfl] at balance
  rw [size_eq_count, size_eq_count]
  omega

theorem size_erase {m : Map κ ν} {k : κ} {v : ν} (found : m.lookup k = some v) :
    size m = size (m.erase k) + 1 := by
  have balance := count_erase m (fun _ _ => true) k
  rw [found, weight_some, if_pos rfl] at balance
  rw [size_eq_count, size_eq_count]
  exact balance

/-! ## Sums -/

/-- The sum of `f` over the entries. -/
def total (m : Map κ ν) (f : ν → Nat) : Nat := (m.entries.map fun e => f e.2).sum

omit [DecidableEq κ] in
theorem total_congr {m : Map κ ν} {f g : ν → Nat} (same : ∀ e ∈ m.entries, f e.2 = g e.2) :
    total m f = total m g :=
  congrArg List.sum (List.map_congr_left same)

theorem sum_kerase (f : ν → Nat) (k : κ) :
    ∀ entries : List (Sigma fun _ : κ => ν),
      (entries.map fun e => f e.2).sum =
        ((List.kerase k entries).map fun e => f e.2).sum + ((List.dlookup k entries).map f).getD 0
  | [] => by simp
  | ⟨k', v⟩ :: rest => by
    by_cases same : k = k'
    · subst same
      simp [Nat.add_comm]
    · have := sum_kerase f k rest
      rw [List.kerase_cons_ne same, List.dlookup_cons_ne _ _ same, List.map_cons, List.map_cons,
        List.sum_cons, List.sum_cons, this]
      omega

theorem total_erase (m : Map κ ν) (f : ν → Nat) (k : κ) :
    total m f = total (m.erase k) f + ((m.lookup k).map f).getD 0 :=
  sum_kerase f k m.entries

theorem total_insert (m : Map κ ν) (f : ν → Nat) (k : κ) (v : ν) :
    total (m.insert k v) f + ((m.lookup k).map f).getD 0 = total m f + f v := by
  have inserted : total (m.insert k v) f = f v + total (m.erase k) f := by
    unfold total
    rw [AList.entries_insert, List.map_cons, List.sum_cons]
    rfl
  rw [inserted, total_erase m f k]
  omega

/-! ## Counting by owner -/

omit [DecidableEq κ] in
theorem count_congr {m : Map κ ν} {p q : κ → ν → Bool}
    (same : ∀ e ∈ m.entries, p e.1 e.2 = q e.1 e.2) : count m p = count m q :=
  List.countP_congr fun e listed => by rw [same e listed]

omit [DecidableEq κ] in
/-- The entries that meet `q` as well, and those that do not. -/
theorem count_split (m : Map κ ν) (p q : κ → ν → Bool) :
    count m p = (count m fun k v => p k v && q k v) + count m fun k v => p k v && !q k v := by
  unfold count
  induction m.entries with
  | nil => rfl
  | cons e rest ih =>
    simp only [List.countP_cons]
    cases p e.1 e.2 <;> cases q e.1 e.2 <;> simp_all <;> omega

omit [DecidableEq κ] in
/-- A sum of values that depend on the key alone. -/
theorem total_eq_sum_keys {m : Map κ ν} {f : ν → Nat} {g : κ → Nat}
    (same : ∀ e ∈ m.entries, f e.2 = g e.1) : total m f = (m.keys.map g).sum := by
  have byKey : m.entries.map (fun e => f e.2) = (m.entries.map Sigma.fst).map g := by
    rw [List.map_map]
    exact List.map_congr_left same
  exact congrArg List.sum byKey

theorem sum_map_ite {γ : Type} [DecidableEq γ] {owners : List γ} (distinct : owners.Nodup)
    (owner : γ) (b : Bool) :
    (owners.map fun c => if (decide (owner = c) && b) = true then 1 else 0).sum =
      if (decide (owner ∈ owners) && b) = true then 1 else 0 := by
  induction owners with
  | nil => simp
  | cons c rest ih =>
    rw [List.nodup_cons] at distinct
    rw [List.map_cons, List.sum_cons, ih distinct.2]
    by_cases here : owner = c
    · subst here
      simp [distinct.1]
    · simp [here]

omit [DecidableEq κ] in
/-- The entries of all owners, counted owner by owner. -/
theorem sum_count_owner {γ : Type} [DecidableEq γ] {owners : List γ} (distinct : owners.Nodup)
    (m : Map κ ν) (owner : ν → γ) (q : ν → Bool) :
    (owners.map fun c => count m fun _ v => decide (owner v = c) && q v).sum =
      count m fun _ v => decide (owner v ∈ owners) && q v := by
  unfold count
  induction m.entries with
  | nil => simp
  | cons e rest ih =>
    simp only [List.countP_cons]
    rw [List.sum_map_add, ih, sum_map_ite distinct]

end Storage
