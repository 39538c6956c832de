import AbstractFramework.Lib.Counting

/-! # Maps with snapshots

A map that can also be read as it was at the start of an earlier block.  Where the values are
numbers, `addAll` adds to several of them in one block.

`Tallies` relates such a map to a log of events: each number is the sum of what the events
weigh for its key, and read at a height it is the sum over the events before that block.
`Tallies.record` is the rule for one more event.
-/

namespace Snapshots

open Storage

structure Write (κ ν : Type) where
  key : κ
  height : Nat
  value : ν

structure SnapshotMap (κ ν : Type) where
  current : Map κ ν
  /-- All the writes, the last one first. -/
  writes : List (Write κ ν)

variable {κ ν α : Type}

def SnapshotMap.empty : SnapshotMap κ ν where
  current := ∅
  writes := []

variable [DecidableEq κ]

namespace SnapshotMap

def mayLoad (m : SnapshotMap κ ν) (k : κ) : Option ν := m.current.lookup k

def save (m : SnapshotMap κ ν) (k : κ) (v : ν) (height : Nat) : SnapshotMap κ ν where
  current := m.current.insert k v
  writes := ⟨k, height, v⟩ :: m.writes

/-- The value at the start of the block, which is that of the last write in an earlier one. -/
def mayLoadAtHeight (m : SnapshotMap κ ν) (k : κ) (height : Nat) : Option ν :=
  (m.writes.find? fun w => w.key = k ∧ w.height < height).map Write.value

theorem mayLoad_save (m : SnapshotMap κ ν) (k k' : κ) (v : ν) (height : Nat) :
    (m.save k v height).mayLoad k' = if k' = k then some v else m.mayLoad k' :=
  lookup_insert_ite m.current k k' v

theorem mayLoadAtHeight_save (m : SnapshotMap κ ν) (k k' : κ) (v : ν) (height height' : Nat) :
    (m.save k v height).mayLoadAtHeight k' height' =
      if k' = k ∧ height < height' then some v else m.mayLoadAtHeight k' height' := by
  by_cases here : k' = k ∧ height < height'
  · simp [mayLoadAtHeight, save, here.1, here.2]
  · have other : ¬ (k = k' ∧ height < height') := fun h => here ⟨h.1.symm, h.2⟩
    simp only [mayLoadAtHeight, save, List.find?_cons, decide_eq_false other, if_neg here]

/-! ## Numbers -/

def amount (m : SnapshotMap κ Nat) (k : κ) : Nat := (m.mayLoad k).getD 0

def amountAt (m : SnapshotMap κ Nat) (k : κ) (height : Nat) : Nat :=
  (m.mayLoadAtHeight k height).getD 0

def add (m : SnapshotMap κ Nat) (k : κ) (n height : Nat) : SnapshotMap κ Nat :=
  m.save k (m.amount k + n) height

def addAll (m : SnapshotMap κ Nat) (xs : List (κ × Nat)) (height : Nat) : SnapshotMap κ Nat :=
  xs.foldl (fun m x => m.add x.1 x.2 height) m

theorem amount_add (m : SnapshotMap κ Nat) (k k' : κ) (n height : Nat) :
    (m.add k n height).amount k' = m.amount k' + if k' = k then n else 0 := by
  simp only [amount, add, mayLoad_save]
  split
  · rename_i same
    rw [same]
    rfl
  · rfl

theorem amountAt_add (m : SnapshotMap κ Nat) (k k' : κ) (n height height' : Nat) :
    (m.add k n height).amountAt k' height' =
      if k' = k ∧ height < height' then (m.add k n height).amount k' else m.amountAt k' height' := by
  simp only [amountAt, add, mayLoadAtHeight_save]
  split
  · rename_i here
    simp [amount, mayLoad_save, here.1]
  · rfl

/-- What a list of additions adds to one number. -/
def added (xs : List (κ × Nat)) (k : κ) : Nat :=
  (xs.map fun x => if k = x.1 then x.2 else 0).sum

@[simp] theorem added_nil (k : κ) : added [] k = 0 := rfl

@[simp] theorem added_cons (x : κ × Nat) (xs : List (κ × Nat)) (k : κ) :
    added (x :: xs) k = (if k = x.1 then x.2 else 0) + added xs k := rfl

theorem added_eq_zero {xs : List (κ × Nat)} {k : κ} (absent : k ∉ xs.map Prod.fst) :
    added xs k = 0 := by
  induction xs with
  | nil => rfl
  | cons x xs ih =>
    rw [List.map_cons, List.mem_cons, not_or] at absent
    rw [added_cons, if_neg absent.1, ih absent.2]

theorem amount_addAll (m : SnapshotMap κ Nat) (xs : List (κ × Nat)) (height : Nat) (k : κ) :
    (m.addAll xs height).amount k = m.amount k + added xs k := by
  induction xs generalizing m with
  | nil => rfl
  | cons x xs ih =>
    show ((m.add x.1 x.2 height).addAll xs height).amount k = _
    rw [ih, amount_add, added_cons, Nat.add_assoc]

/-- The additions are seen from the next block on. -/
theorem amountAt_addAll (m : SnapshotMap κ Nat) (xs : List (κ × Nat)) (height : Nat) (k : κ)
    (height' : Nat) :
    (m.addAll xs height).amountAt k height' =
      if k ∈ xs.map Prod.fst ∧ height < height' then (m.addAll xs height).amount k
      else m.amountAt k height' := by
  induction xs generalizing m with
  | nil => simp [addAll]
  | cons x xs ih =>
    show ((m.add x.1 x.2 height).addAll xs height).amountAt k height' =
      if _ then ((m.add x.1 x.2 height).addAll xs height).amount k else _
    rw [ih, amountAt_add]
    simp only [List.map_cons, List.mem_cons]
    by_cases later : height < height'
    · by_cases listed : k ∈ xs.map Prod.fst
      · rw [if_pos ⟨listed, later⟩, if_pos ⟨.inr listed, later⟩]
      · rw [if_neg fun h => listed h.1]
        by_cases here : k = x.1
        · rw [if_pos ⟨here, later⟩, if_pos ⟨.inl here, later⟩, amount_addAll, added_eq_zero listed]
          rfl
        · rw [if_neg fun h => here h.1, if_neg]
          rintro ⟨here' | listed', -⟩
          · exact here here'
          · exact listed listed'
    · simp [later]

end SnapshotMap

/-! ## Tallies -/

open SnapshotMap

/-- What the events weigh for a key. -/
def weighed (weight : α → κ → Nat) (log : List α) (k : κ) : Nat := (log.map (weight · k)).sum

/-- The events before a block. -/
def before (height : α → Nat) (h : Nat) (log : List α) : List α := log.filter (height · < h)

structure Tallies (weight : α → κ → Nat) (height : α → Nat) (m : SnapshotMap κ Nat)
    (log : List α) : Prop where
  now : ∀ k, m.amount k = weighed weight log k
  past : ∀ k h, m.amountAt k h = weighed weight (before height h log) k

variable {weight : α → κ → Nat} {height : α → Nat} {m : SnapshotMap κ Nat} {log : List α}

theorem tallies_empty : Tallies weight height SnapshotMap.empty [] where
  now _ := rfl
  past _ _ := rfl

omit [DecidableEq κ] in
theorem weighed_append (log log' : List α) (k : κ) :
    weighed weight (log ++ log') k = weighed weight log k + weighed weight log' k := by
  simp [weighed]

omit [DecidableEq κ] in
theorem weighed_before_le (h : Nat) (k : κ) :
    weighed weight (before height h log) k ≤ weighed weight log k := by
  unfold weighed before
  induction log with
  | nil => exact Nat.le_refl _
  | cons e log ih =>
    rw [List.filter_cons]
    split
    · simpa using ih
    · simp only [List.map_cons, List.sum_cons]
      omega

/-- One more event adds its weights, at its height. -/
theorem Tallies.record {x : α} {xs : List (κ × Nat)} (tallies : Tallies weight height m log)
    (ordered : ∀ e ∈ log, height e ≤ height x) (weighs : ∀ k, weight x k = added xs k) :
    Tallies weight height (m.addAll xs (height x)) (log ++ [x]) where
  now k := by
    rw [amount_addAll, tallies.now, weighed_append, ← weighs]
    simp [weighed]
  past k h := by
    rw [amountAt_addAll, before, List.filter_append, weighed_append]
    by_cases late : height x < h
    · have all : log.filter (height · < h) = log := by
        rw [List.filter_eq_self]
        intro e listed
        have := ordered e listed
        simp only [decide_eq_true_eq]
        omega
      have last : [x].filter (height · < h) = [x] := by simp [late]
      have weight_x : weighed weight [x] k = added xs k := by simp [weighed, weighs]
      split
      · rw [amount_addAll, tallies.now, all, last, weight_x]
      · rename_i untouched
        have absent : k ∉ xs.map Prod.fst := fun listed => untouched ⟨listed, late⟩
        rw [tallies.past, last, weight_x, added_eq_zero absent]
        rfl
    · have none : [x].filter (height · < h) = [] := by simp [late]
      rw [if_neg fun h => late h.2, tallies.past, none]
      rfl

/-- What was weighed before some block is still stored. -/
theorem Tallies.mem_current {k : κ} {h : Nat} (tallies : Tallies weight height m log)
    (positive : weighed weight (before height h log) k ≠ 0) : k ∈ m.current := by
  by_contra absent
  have zero : m.amount k = 0 := by
    rw [amount, mayLoad, AList.lookup_eq_none.mpr absent]
    rfl
  have fewer : weighed weight (before height h log) k ≤ weighed weight log k :=
    weighed_before_le h k
  rw [tallies.now] at zero
  omega

end Snapshots
