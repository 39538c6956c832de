import AbstractFramework.Lib.Storage

/-! # Tables in both directions

A table of names and a table of what they stand for are written together.  An addition
writes both without a look at what was there, and a removal follows the first table only.
`inverse_update_iff` says exactly which batches of additions and removals take inverse tables
to inverse tables: `KeepsPairs` is about the batch and the first table before it.
-/

namespace Storage

variable {α β : Type} [DecidableEq α] [DecidableEq β]

/-- The tables hold the same pairs. -/
def Inverse (f : Map α β) (r : Map β α) : Prop := ∀ a b, f.lookup a = some b ↔ r.lookup b = some a

/-- A removal of a pair by its first part. -/
def removeBoth (t : Map α β × Map β α) (a : α) : Map α β × Map β α :=
  match t.1.lookup a with
  | some b => (t.1.erase a, t.2.erase b)
  | none => t

/-- The pairs as entries of the second table. -/
def swapped (adds : List (α × β)) : List (β × α) := adds.map fun e => (e.2, e.1)

/-- The last entry for a key in a batch. -/
def lastWritten {κ ν : Type} [DecidableEq κ] (es : List (κ × ν)) (k : κ) : Option ν :=
  es.reverse.lookup k

/-- The last addition for `b` names it `a`: this is the one name of it, and stays. -/
structure Stays (f : Map α β) (adds : List (α × β)) (removes : List α) (a : α) (b : β) : Prop where
  kept : a ∉ removes
  alone : ∀ a', lastWritten adds a' = some b ↔ a' = a
  /-- What named it before is pointed elsewhere. -/
  moved : ∀ a', f.lookup a' = some b → a' ∈ adds.map Prod.fst

/-- Every name that the additions leave for `b` is removed, and there is one. -/
structure Goes (f : Map α β) (adds : List (α × β)) (removes : List α) (b : β) : Prop where
  added : ∀ a, lastWritten adds a = some b → a ∈ removes
  before : ∀ a, f.lookup a = some b → a ∈ adds.map Prod.fst ∨ a ∈ removes
  named : ∃ a, lastWritten adds a = some b ∨ f.lookup a = some b ∧ a ∉ adds.map Prod.fst

/-- A batch of additions and removals that leaves no half of a pair. -/
structure KeepsPairs (f : Map α β) (adds : List (α × β)) (removes : List α) : Prop where
  /-- A name is pointed elsewhere only where what it stood for is named again. -/
  repointed : ∀ a b, f.lookup a = some b → a ∈ adds.map Prod.fst → b ∈ adds.map Prod.snd
  named : ∀ a b, lastWritten (swapped adds) b = some a → Stays f adds removes a b ∨ Goes f adds removes b

variable {f : Map α β} {r : Map β α}

theorem lookup_removeAll (f : Map α β) (r : Map β α) (removes : List α) (a : α) :
    (removes.foldl removeBoth (f, r)).1.lookup a = if a ∈ removes then none else f.lookup a := by
  induction removes generalizing f r with
  | nil => rfl
  | cons a' removes ih =>
    rw [List.foldl_cons, removeBoth]
    split
    · rw [ih, lookup_erase_ite]
      by_cases same : a = a'
      · simp [same]
      · simp [same]
    · rename_i absent
      rw [ih]
      by_cases same : a = a'
      · subst same
        simp [absent]
      · simp [same]

theorem lookup_removeAll_swapped (f : Map α β) (r : Map β α) (removes : List α) (b : β) :
    (removes.foldl removeBoth (f, r)).2.lookup b =
      if ∃ a ∈ removes, f.lookup a = some b then none else r.lookup b := by
  induction removes generalizing f r with
  | nil => simp
  | cons a removes ih =>
    rw [List.foldl_cons, removeBoth]
    split
    · rename_i b' found
      -- what `a` stood for is erased here, and `a` is not found again
      have rest : (∃ a' ∈ removes, (f.erase a).lookup a' = some b) ↔
          ∃ a' ∈ removes, a' ≠ a ∧ f.lookup a' = some b := by
        simp only [lookup_erase_eq_some]
      rw [ih, if_congr rest rfl rfl, lookup_erase_ite]
      by_cases same : b = b'
      · subst same
        have here : ∃ a' ∈ a :: removes, f.lookup a' = some b := ⟨a, List.mem_cons_self, found⟩
        rw [if_pos here, if_pos rfl, ite_self]
      · rw [if_neg same]
        refine if_congr ?_ rfl rfl
        constructor
        · rintro ⟨a', listed, _, h⟩
          exact ⟨a', List.mem_cons_of_mem a listed, h⟩
        · rintro ⟨a', listed, h⟩
          have other : a' ≠ a := by
            rintro rfl
            rw [found, Option.some.injEq] at h
            exact same h.symm
          exact ⟨a', (List.mem_cons.mp listed).resolve_left other, other, h⟩
    · rename_i absent
      rw [ih]
      refine if_congr ?_ rfl rfl
      constructor
      · rintro ⟨a', listed, h⟩
        exact ⟨a', List.mem_cons_of_mem a listed, h⟩
      · rintro ⟨a', listed, h⟩
        rcases List.mem_cons.mp listed with rfl | listed
        · rw [absent] at h
          cases h
        · exact ⟨a', listed, h⟩

theorem lookup_insertAll {κ ν : Type} [DecidableEq κ] (m : Map κ ν) (es : List (κ × ν)) (k : κ) :
    (insertAll m es).lookup k = (lastWritten es k).or (m.lookup k) := by
  unfold lastWritten
  induction es generalizing m with
  | nil => rfl
  | cons e es ih =>
    obtain ⟨key, value⟩ := e
    rw [insertAll_cons, ih, List.reverse_cons, List.lookup_append, Option.or_assoc, lookup_insert_ite]
    congr 1
    by_cases same : k = key
    · simp [same]
    · simp [List.lookup_cons, same, beq_eq_false_iff_ne.mpr same]

theorem lastWritten_eq_none {κ ν : Type} [DecidableEq κ] {es : List (κ × ν)} {k : κ} :
    lastWritten es k = none ↔ k ∉ es.map Prod.fst := by
  simp only [lastWritten, List.lookup_eq_none_iff, List.mem_reverse, bne_iff_ne, List.mem_map, not_exists,
    not_and]
  exact ⟨fun other e listed same => other e listed same.symm, fun other e listed same =>
    other e listed same.symm⟩

omit [DecidableEq β] in
/-- Which names the first table has for `b` after the additions. -/
theorem lookup_additions {adds : List (α × β)} {a : α} {b : β} :
    (insertAll f adds).lookup a = some b ↔
      lastWritten adds a = some b ∨ f.lookup a = some b ∧ a ∉ adds.map Prod.fst := by
  rw [lookup_insertAll, ← lastWritten_eq_none]
  cases lastWritten adds a <;> simp

/-- Everything that a name stands for after additions to inverse tables is in the second. -/
theorem mem_of_lookup_insertAll (inverse : Inverse f r) {adds : List (α × β)} {a : α} {b : β}
    (h : (insertAll f adds).lookup a = some b) : b ∈ insertAll r (swapped adds) := by
  rw [mem_insertAll]
  rcases lookup_insertAll_cases h with listed | ⟨_, old⟩
  · refine .inl (List.mem_map.mpr ⟨(b, a), ?_, rfl⟩)
    exact List.mem_map.mpr ⟨(a, b), listed, rfl⟩
  · exact .inr (mem_of_lookup ((inverse a b).mp old))

/-- With the additions written, what has a name is stood for by this name alone, and it
    stays; or by some names, and all of them are removed. -/
def PairsWhole (f : Map α β) (r : Map β α) (removes : List α) : Prop :=
  ∀ a b, r.lookup b = some a →
    (a ∉ removes ∧ ∀ a', f.lookup a' = some b ↔ a' = a) ∨
      ((∃ a' ∈ removes, f.lookup a' = some b) ∧ ∀ a', f.lookup a' = some b → a' ∈ removes)

/-- The removals leave inverse tables exactly where the additions are consistent with them. -/
theorem inverse_removeAll_iff (named : ∀ a b, f.lookup a = some b → b ∈ r) (removes : List α) :
    Inverse (removes.foldl removeBoth (f, r)).1 (removes.foldl removeBoth (f, r)).2 ↔
      PairsWhole f r removes := by
  unfold Inverse
  simp only [lookup_removeAll, lookup_removeAll_swapped]
  constructor
  · intro inverse a b found
    by_cases removed : ∃ a' ∈ removes, f.lookup a' = some b
    · refine .inr ⟨removed, fun a' stands => ?_⟩
      by_contra stays
      have := (inverse a' b).mp (by rw [if_neg stays]; exact stands)
      rw [if_pos removed] at this
      cases this
    · have back := (inverse a b).mpr (by rw [if_neg removed]; exact found)
      split at back
      · cases back
      · rename_i stays
        refine .inl ⟨stays, fun a' => ⟨fun stands => ?_, fun same => same ▸ back⟩⟩
        have only := (inverse a' b).mp
          (by rw [if_neg fun listed => removed ⟨a', listed, stands⟩]; exact stands)
        rw [if_neg removed, found] at only
        exact (Option.some.inj only).symm
  · intro consistent a b
    constructor
    · intro h
      split at h
      · cases h
      · rename_i stays
        obtain ⟨a₀, found⟩ := mem_iff_lookup.mp (named a b h)
        rcases consistent a₀ b found with ⟨stays₀, only⟩ | ⟨_, all⟩
        · rw [if_neg]
          · rw [found, (only a).mp h]
          · rintro ⟨a', listed, stands⟩
            exact stays₀ ((only a').mp stands ▸ listed)
        · exact absurd (all a h) stays
    · intro h
      split at h
      · cases h
      · rename_i kept
        rcases consistent a b h with ⟨stays, only⟩ | ⟨removed, _⟩
        · rw [if_neg stays]
          exact (only a).mpr rfl
        · exact absurd removed kept

theorem mem_of_lastWritten {κ ν : Type} [DecidableEq κ] {es : List (κ × ν)} {k : κ} {v : ν}
    (h : lastWritten es k = some v) : (k, v) ∈ es := by
  have found : (insertAll ∅ es).lookup k = some v := by simp [lookup_insertAll, h]
  rcases lookup_insertAll_cases found with listed | ⟨_, empty⟩
  · exact listed
  · cases empty

omit [DecidableEq β] in
theorem stays_iff {adds : List (α × β)} {removes : List α} {a : α} {b : β} (listed : (a, b) ∈ adds) :
    Stays f adds removes a b ↔
      a ∉ removes ∧ ∀ a', (insertAll f adds).lookup a' = some b ↔ a' = a := by
  have written : a ∈ adds.map Prod.fst := List.mem_map.mpr ⟨_, listed, rfl⟩
  simp only [lookup_additions]
  constructor
  · rintro ⟨kept, alone, moved⟩
    refine ⟨kept, fun a' => ⟨?_, fun same => .inl ((alone a').mpr same)⟩⟩
    rintro (last | ⟨old, unwritten⟩)
    · exact (alone a').mp last
    · exact absurd (moved a' old) unwritten
  · rintro ⟨kept, only⟩
    refine ⟨kept, fun a' => ⟨fun last => (only a').mp (.inl last), ?_⟩, fun a' old => ?_⟩
    · rintro rfl
      exact ((only a').mpr rfl).resolve_right fun old => old.2 written
    · by_contra unwritten
      obtain rfl := (only a').mp (.inr ⟨old, unwritten⟩)
      exact unwritten written

omit [DecidableEq β] in
theorem goes_iff {adds : List (α × β)} {removes : List α} {b : β} :
    Goes f adds removes b ↔ (∃ a' ∈ removes, (insertAll f adds).lookup a' = some b) ∧
      ∀ a', (insertAll f adds).lookup a' = some b → a' ∈ removes := by
  simp only [lookup_additions]
  constructor
  · rintro ⟨added, before, a, named⟩
    have all : ∀ a', lastWritten adds a' = some b ∨ f.lookup a' = some b ∧ a' ∉ adds.map Prod.fst →
        a' ∈ removes := by
      rintro a' (last | ⟨old, unwritten⟩)
      · exact added a' last
      · exact (before a' old).resolve_left unwritten
    exact ⟨⟨a, all a named, named⟩, all⟩
  · rintro ⟨⟨a, _, named⟩, all⟩
    exact ⟨fun a' last => all a' (.inl last),
      fun a' old => or_iff_not_imp_left.mpr fun unwritten => all a' (.inr ⟨old, unwritten⟩), a, named⟩

/-- What the batch does not name keeps its name unless this is pointed elsewhere. -/
theorem kept_iff (inverse : Inverse f r) {adds : List (α × β)} {removes : List α} {a : α} {b : β}
    (old : f.lookup a = some b) (unnamed : b ∉ adds.map Prod.snd) :
    ((a ∉ removes ∧ ∀ a', (insertAll f adds).lookup a' = some b ↔ a' = a) ∨
      ((∃ a' ∈ removes, (insertAll f adds).lookup a' = some b) ∧
        ∀ a', (insertAll f adds).lookup a' = some b → a' ∈ removes)) ↔ a ∉ adds.map Prod.fst := by
  have names : ∀ a', (insertAll f adds).lookup a' = some b ↔ a' = a ∧ a ∉ adds.map Prod.fst := by
    intro a'
    rw [lookup_additions]
    constructor
    · rintro (last | ⟨stands, unwritten⟩)
      · exact absurd (List.mem_map.mpr ⟨_, mem_of_lastWritten last, rfl⟩) unnamed
      · obtain rfl : a' = a :=
          Option.some.inj (((inverse a' b).mp stands).symm.trans ((inverse a b).mp old))
        exact ⟨rfl, unwritten⟩
    · rintro ⟨rfl, unwritten⟩
      exact .inr ⟨old, unwritten⟩
  simp only [names]
  constructor
  · rintro (⟨_, only⟩ | ⟨⟨_, _, _, unwritten⟩, _⟩)
    · exact ((only a).mpr rfl).2
    · exact unwritten
  · intro unwritten
    by_cases removed : a ∈ removes
    · exact .inr ⟨⟨a, removed, rfl, unwritten⟩, fun a' named => named.1 ▸ removed⟩
    · exact .inl ⟨removed, fun a' => ⟨And.left, fun same => ⟨same, unwritten⟩⟩⟩

/-- For inverse tables the consistency is a matter of the batch and of the first table. -/
theorem pairsWhole_iff (inverse : Inverse f r) (adds : List (α × β)) (removes : List α) :
    PairsWhole (insertAll f adds) (insertAll r (swapped adds)) removes ↔ KeepsPairs f adds removes := by
  have firsts : (swapped adds).map Prod.fst = adds.map Prod.snd := by simp [swapped]
  have listed : ∀ {a b}, lastWritten (swapped adds) b = some a → (a, b) ∈ adds := by
    intro a b last
    simpa [swapped] using mem_of_lastWritten last
  constructor
  · intro whole
    constructor
    · intro a b old written
      by_contra unnamed
      have found : (insertAll r (swapped adds)).lookup b = some a :=
        lookup_additions.mpr (.inr ⟨(inverse a b).mp old, firsts ▸ unnamed⟩)
      exact (kept_iff inverse old unnamed).mp (whole a b found) written
    · intro a b last
      rw [stays_iff (listed last), goes_iff]
      exact whole a b (lookup_additions.mpr (.inl last))
  · intro keeps a b found
    rcases lookup_additions.mp found with last | ⟨old, unnamed⟩
    · rw [← stays_iff (listed last), ← goes_iff]
      exact keeps.named a b last
    · rw [firsts] at unnamed
      have stands := (inverse a b).mpr old
      exact (kept_iff inverse stands unnamed).mpr fun written =>
        unnamed (keeps.repointed a b stands written)

/-- A batch takes inverse tables to inverse tables exactly where it leaves no half of a pair. -/
theorem inverse_update_iff (inverse : Inverse f r) (adds : List (α × β)) (removes : List α) :
    Inverse (removes.foldl removeBoth (insertAll f adds, insertAll r (swapped adds))).1
        (removes.foldl removeBoth (insertAll f adds, insertAll r (swapped adds))).2 ↔
      KeepsPairs f adds removes :=
  (inverse_removeAll_iff (fun _ _ => mem_of_lookup_insertAll inverse) _).trans
    (pairsWhole_iff inverse adds removes)

end Storage
