import Mathlib.Data.List.Sort
import AbstractFramework.Lib.Storage

/-! # Ranges over a map

A range lists entries in the ascending order of the bytes of their keys, and may start after
a key that is left out.  `under` are the entries of a map under a prefix of its keys, with
the rest of the key.  `descending` is the whole range from its end.

A range is determined by its entries.  So a range that starts after an entry is what comes
after it (`range_resume`), and a range under a prefix is the part of the whole range that
has the prefix (`range_under`).
-/

namespace Storage

variable {κ κ' ν : Type}

/-- The entries whose keys have a rest. -/
def under (rest : κ → Option κ') (m : Map κ ν) : List (κ' × ν) :=
  m.entries.filterMap fun e => (rest e.1).map fun k => (k, e.2)

def isAfter (bytes : κ → Bytes) (start : Option κ) (k : κ) : Bool :=
  match start with
  | some bound => bytes bound < bytes k
  | none => true

def range (bytes : κ → Bytes) (start : Option κ) (entries : List (κ × ν)) : List (κ × ν) :=
  (entries.filter fun e => isAfter bytes start e.1).insertionSort fun a b => bytes a.1 ≤ bytes b.1

theorem mem_range {bytes : κ → Bytes} {start : Option κ} {entries : List (κ × ν)} {e : κ × ν} :
    e ∈ range bytes start entries ↔ e ∈ entries ∧ isAfter bytes start e.1 = true := by
  rw [range, List.mem_insertionSort, List.mem_filter]

theorem range_ordered {bytes : κ → Bytes} {start : Option κ} {entries : List (κ × ν)} :
    (range bytes start entries).Pairwise fun a b => bytes a.1 ≤ bytes b.1 := by
  have total : Std.Total fun a b : κ × ν => bytes a.1 ≤ bytes b.1 :=
    ⟨fun a b => List.le_total _ _⟩
  have trans : IsTrans (κ × ν) fun a b => bytes a.1 ≤ bytes b.1 :=
    ⟨fun a b c => List.le_trans⟩
  exact List.pairwise_insertionSort _ _

/-- Entries whose keys differ in their bytes are listed in strictly ascending order. -/
theorem range_pairwise {bytes : κ → Bytes} {start : Option κ} {entries : List (κ × ν)}
    (distinct : (entries.map fun e => bytes e.1).Nodup) :
    (range bytes start entries).Pairwise fun a b => bytes a.1 < bytes b.1 := by
  have apart : (range bytes start entries).Pairwise fun a b => bytes a.1 ≠ bytes b.1 := by
    rw [← List.pairwise_map (f := fun e : κ × ν => bytes e.1), ← List.nodup_iff_pairwise_ne]
    apply ((List.perm_insertionSort _ _).map _).nodup_iff.mpr
    exact distinct.sublist (List.filter_sublist.map _)
  refine (range_ordered.and apart).imp ?_
  intro a b ⟨le, ne⟩
  by_contra notLess
  exact ne (List.le_antisymm le (List.not_lt.mp notLess))

/-- No key is listed twice. -/
theorem range_keys_nodup {bytes : κ → Bytes} {start : Option κ} {entries : List (κ × ν)}
    (distinct : (entries.map Prod.fst).Nodup) : ((range bytes start entries).map Prod.fst).Nodup :=
  ((List.perm_insertionSort _ _).map _).nodup_iff.mpr
    (distinct.sublist (List.filter_sublist.map _))

/-- Lists in strictly ascending order are determined by their entries. -/
theorem eq_of_ascending {bytes : κ → Bytes} {l l' : List (κ × ν)}
    (ascending : l.Pairwise fun a b => bytes a.1 < bytes b.1)
    (ascending' : l'.Pairwise fun a b => bytes a.1 < bytes b.1) (same : ∀ e, e ∈ l ↔ e ∈ l') :
    l = l' := by
  have apart : ∀ {l : List (κ × ν)}, l.Pairwise (fun a b => bytes a.1 < bytes b.1) → l.Nodup := by
    intro l ascending
    refine ascending.imp fun {a b} less equal => ?_
    subst equal
    exact List.lt_irrefl _ less
  refine List.Perm.eq_of_pairwise ?_ ascending ascending'
    ((List.perm_ext_iff_of_nodup (apart ascending) (apart ascending')).mpr same)
  intro a b _ _ less greater
  exact absurd (List.lt_trans less greater) (List.lt_irrefl _)

/-- A range that starts after an entry of the whole range goes on from there. -/
theorem range_resume {bytes : κ → Bytes} {entries before rest : List (κ × ν)} {x : κ × ν}
    (distinct : (entries.map fun e => bytes e.1).Nodup)
    (split : range bytes none entries = before ++ x :: rest) :
    range bytes (some x.1) entries = rest := by
  have ascending : (range bytes none entries).Pairwise fun a b => bytes a.1 < bytes b.1 :=
    range_pairwise distinct
  rw [split, List.pairwise_append, List.pairwise_cons] at ascending
  obtain ⟨_, ⟨greater, rest'⟩, less⟩ := ascending
  apply eq_of_ascending (range_pairwise distinct) rest'
  intro e
  have listed : e ∈ entries ↔ e ∈ before ++ x :: rest := by
    rw [← split, mem_range]
    simp [isAfter]
  rw [mem_range, listed, List.mem_append, List.mem_cons, isAfter, decide_eq_true_eq]
  constructor
  · rintro ⟨earlier | rfl | later, after⟩
    · exact absurd (List.lt_trans after (less e earlier x List.mem_cons_self)) (List.lt_irrefl _)
    · exact absurd after (List.lt_irrefl _)
    · exact later
  · intro later
    exact ⟨.inr (.inr later), greater e later⟩

/-- So does what passes a test. -/
theorem filter_range_resume {bytes : κ → Bytes} {entries before rest : List (κ × ν)} {x : κ × ν}
    {passes : κ × ν → Bool} (distinct : (entries.map fun e => bytes e.1).Nodup)
    (split : (range bytes none entries).filter passes = before ++ x :: rest) :
    (range bytes (some x.1) entries).filter passes = rest := by
  obtain ⟨front, back, whole, -, passed⟩ := List.filter_eq_append_iff.mp split
  obtain ⟨failed, later, cut, -, -, isRest⟩ := List.filter_eq_cons_iff.mp passed
  have found : range bytes none entries = (front ++ failed) ++ x :: later := by
    rw [whole, cut, List.append_assoc]
  rw [range_resume distinct found]
  exact isRest

/-- Nothing that passes the test comes after the last entry that does. -/
theorem filter_range_last {bytes : κ → Bytes} {entries : List (κ × ν)} {last : κ × ν}
    {passes : κ × ν → Bool}
    (isLast : ((range bytes none entries).filter passes).getLast? = some last) :
    (range bytes (some last.1) entries).filter passes = [] := by
  obtain ⟨before, split⟩ := List.getLast?_eq_some_iff.mp isLast
  have ordered : ((range bytes none entries).filter passes).Pairwise
      fun a b => bytes a.1 ≤ bytes b.1 := range_ordered.sublist List.filter_sublist
  rw [split, List.pairwise_append] at ordered
  rw [List.filter_eq_nil_iff]
  intro e later passed
  obtain ⟨listed, after⟩ := mem_range.mp later
  simp only [isAfter, decide_eq_true_eq] at after
  have found : e ∈ before ++ [last] := by
    rw [← split, List.mem_filter, mem_range]
    exact ⟨⟨listed, rfl⟩, passed⟩
  rcases List.mem_append.mp found with earlier | isLast
  · exact List.not_lt.mpr (ordered.2.2 e earlier last List.mem_cons_self) after
  · rw [List.mem_singleton.mp isLast] at after
    exact List.lt_irrefl _ after

/-- The first entries of a range are those that fewer entries come before. -/
theorem mem_take_range {bytes : κ → Bytes} {start : Option κ} {entries : List (κ × ν)} {e : κ × ν}
    {n : Nat} (distinct : (entries.map fun e => bytes e.1).Nodup) :
    e ∈ (range bytes start entries).take n ↔ e ∈ range bytes start entries ∧
      (entries.countP fun e' => isAfter bytes start e'.1 && decide (bytes e'.1 < bytes e.1)) < n := by
  have count : (entries.countP fun e' => isAfter bytes start e'.1 && decide (bytes e'.1 < bytes e.1)) =
      (range bytes start entries).countP fun e' => bytes e'.1 < bytes e.1 := by
    rw [range, (List.perm_insertionSort _ _).countP_eq, List.countP_filter]
    exact List.countP_congr fun e' _ => by rw [Bool.and_comm]
  rw [count]
  have ascending : (range bytes start entries).Pairwise fun a b => bytes a.1 < bytes b.1 :=
    range_pairwise distinct
  generalize range bytes start entries = l at ascending
  induction l generalizing n with
  | nil => simp
  | cons x l ih =>
    obtain ⟨greater, ascending⟩ := List.pairwise_cons.mp ascending
    cases n with
    | zero => simp
    | succ n =>
      rw [List.take_succ_cons, List.mem_cons, List.mem_cons, List.countP_cons]
      by_cases first : e = x
      · subst first
        have none : l.countP (fun e' => bytes e'.1 < bytes e.1) = 0 := by
          rw [List.countP_eq_zero]
          intro e' listed less
          rw [decide_eq_true_eq] at less
          exact List.lt_irrefl _ (List.lt_trans less (greater e' listed))
        simp [none, List.lt_irrefl]
      · simp only [first, false_or]
        constructor
        · intro taken
          obtain ⟨listed, few⟩ := (ih ascending).mp taken
          refine ⟨listed, ?_⟩
          rw [if_pos (by simpa using greater e listed)]
          omega
        · rintro ⟨listed, few⟩
          rw [if_pos (by simpa using greater e listed)] at few
          exact (ih ascending).mpr ⟨listed, by omega⟩

/-- A range lists as many keys that pass a test as there are. -/
theorem length_filter_range {bytes : κ → Bytes} {entries : List (κ × ν)} (passes : κ → Bool) :
    ((range bytes none entries).filter fun e => passes e.1).length =
      (entries.map Prod.fst).countP passes := by
  have whole : (entries.filter fun e => isAfter bytes none e.1) = entries :=
    List.filter_eq_self.mpr fun _ _ => rfl
  rw [← List.countP_eq_length_filter, range, (List.perm_insertionSort _ _).countP_eq, whole,
    List.countP_map]
  rfl

theorem length_filter_range_le {bytes : κ → Bytes} {start : Option κ} {entries : List (κ × ν)}
    (passes : κ → Bool) : ((range bytes start entries).filter fun e => passes e.1).length ≤
      (entries.map Prod.fst).countP passes := by
  rw [← List.countP_eq_length_filter, range, (List.perm_insertionSort _ _).countP_eq,
    List.countP_map]
  exact List.filter_sublist.countP_le

/-! ## From the end -/

def descending (bytes : κ → Bytes) (entries : List (κ × ν)) : List (κ × ν) :=
  entries.insertionSort fun a b => bytes b.1 ≤ bytes a.1

theorem mem_descending (bytes : κ → Bytes) {entries : List (κ × ν)} {e : κ × ν} :
    e ∈ descending bytes entries ↔ e ∈ entries :=
  List.mem_insertionSort _

/-- The first entry from the end that passes a test is the last one that does. -/
theorem find?_descending {bytes : κ → Bytes} {entries : List (κ × ν)} {p : κ × ν → Bool}
    {e : κ × ν} (h : (descending bytes entries).find? p = some e) :
    e ∈ entries ∧ p e = true ∧ ∀ e' ∈ entries, p e' = true → bytes e'.1 ≤ bytes e.1 := by
  have total : Std.Total fun a b : κ × ν => bytes b.1 ≤ bytes a.1 :=
    ⟨fun a b => List.le_total _ _⟩
  have trans : IsTrans (κ × ν) fun a b => bytes b.1 ≤ bytes a.1 :=
    ⟨fun a b c first second => List.le_trans second first⟩
  have ordered : (descending bytes entries).Pairwise fun a b => bytes b.1 ≤ bytes a.1 :=
    List.pairwise_insertionSort _ _
  obtain ⟨passes, before, after, split, fail⟩ := List.find?_eq_some_iff_append.mp h
  refine ⟨(mem_descending bytes).mp (List.mem_of_find?_eq_some h), passes, ?_⟩
  intro e' listed passes'
  rw [← mem_descending bytes, split, List.mem_append, List.mem_cons] at listed
  rcases listed with earlier | rfl | later
  · have := fail e' earlier
    simp [passes'] at this
  · exact List.le_refl _
  · rw [split, List.pairwise_append, List.pairwise_cons] at ordered
    exact ordered.2.1.1 e' later

variable [DecidableEq κ]

theorem mem_under {rest : κ → Option κ'} {m : Map κ ν} {k' : κ'} {v : ν} :
    (k', v) ∈ under rest m ↔ ∃ k, m.lookup k = some v ∧ rest k = some k' := by
  simp only [under, List.mem_filterMap, Option.map_eq_some_iff, Prod.mk.injEq]
  constructor
  · rintro ⟨⟨k, w⟩, listed, _, found, rfl, rfl⟩
    exact ⟨k, AList.mem_lookup_iff.mpr listed, found⟩
  · rintro ⟨k, found, isRest⟩
    exact ⟨⟨k, v⟩, AList.mem_lookup_iff.mp found, k', isRest, rfl, rfl⟩

omit [DecidableEq κ] in
theorem under_keys {rest : κ → Option κ'} {m : Map κ ν} :
    (under rest m).map Prod.fst = m.keys.filterMap rest := by
  simp [under, AList.keys, List.keys, List.map_filterMap, List.filterMap_map, Function.comp_def]

omit [DecidableEq κ] in
/-- Keys with the same prefix differ in their rests. -/
theorem under_nodup {rest : κ → Option κ'} {m : Map κ ν}
    (determines : ∀ k l x, rest k = some x → rest l = some x → k = l) :
    ((under rest m).map Prod.fst).Nodup := by
  rw [under_keys]
  exact m.nodupKeys.filterMap determines

omit [DecidableEq κ] in
/-- Without a prefix the rest of a key is the key. -/
theorem some_determines (k l x : κ) (isKey : some k = some x) (isKey' : some l = some x) : k = l :=
  (Option.some.inj isKey).trans (Option.some.inj isKey').symm

omit [DecidableEq κ] in
/-- The rests that are told apart by their bytes have different bytes. -/
theorem under_bytes_nodup {bytes : κ' → Bytes} {rest : κ → Option κ'} {m : Map κ ν}
    (determines : ∀ k l x, rest k = some x → rest l = some x → k = l)
    (injective : ∀ e ∈ under rest m, ∀ e' ∈ under rest m, bytes e.1 = bytes e'.1 → e.1 = e'.1) :
    ((under rest m).map fun e => bytes e.1).Nodup := by
  have keys := under_nodup (m := m) determines
  refine List.Nodup.map_on ?_ (keys.of_map _)
  intro e listed e' listed' same
  exact List.inj_on_of_nodup_map keys listed listed' (injective e listed e' listed' same)

/-- The range under a prefix is the part of the whole range that has the prefix. -/
theorem range_under {bytes : κ → Bytes} {bytes' : κ' → Bytes} {rest : κ → Option κ'}
    {whole : κ' → κ} {front : Bytes} {m : Map κ ν}
    (isRest : ∀ k k', rest k = some k' ↔ k = whole k')
    (joined : ∀ k', bytes (whole k') = front ++ bytes' k')
    (distinct : ((under some m).map fun e => bytes e.1).Nodup) (start : Option κ') :
    (range bytes' start (under rest m)).map (fun e => (whole e.1, e.2)) =
      range bytes (start.map whole) ((under some m).filter fun e => (rest e.1).isSome) := by
  have order : ∀ k l, bytes' k < bytes' l ↔ bytes (whole k) < bytes (whole l) := by
    intro k l
    rw [joined, joined]
    constructor
    · exact List.append_left_lt
    · intro less
      by_contra notLess
      have le : front ++ bytes' l ≤ front ++ bytes' k := List.append_left_le (List.not_lt.mp notLess)
      exact List.not_lt.mpr le less
  have injective : ∀ e ∈ under rest m, ∀ e' ∈ under rest m, bytes' e.1 = bytes' e'.1 → e = e' := by
    intro e listed e' listed' same
    obtain ⟨k, found, isKey⟩ := mem_under.mp listed
    obtain ⟨k', found', isKey'⟩ := mem_under.mp listed'
    have equal : bytes k = bytes k' := by
      rw [(isRest _ _).mp isKey, (isRest _ _).mp isKey', joined, joined, same]
    have keys := List.inj_on_of_nodup_map distinct (mem_under.mpr ⟨k, found, rfl⟩)
      (mem_under.mpr ⟨k', found', rfl⟩) equal
    obtain ⟨rfl, values⟩ := Prod.mk.inj keys
    exact Prod.ext (Option.some.inj (isKey.symm.trans isKey')) values
  apply eq_of_ascending
  · rw [List.pairwise_map]
    refine (range_pairwise ?_).imp fun {a b} less => (order _ _).mp less
    exact List.Nodup.map_on injective ((under_nodup fun k l x isKey isKey' =>
      ((isRest _ _).mp isKey).trans ((isRest _ _).mp isKey').symm).of_map _)
  · exact range_pairwise (distinct.sublist (List.filter_sublist.map _))
  · rintro ⟨k, v⟩
    simp only [List.mem_map, mem_range, List.mem_filter, Prod.exists, Prod.mk.injEq]
    constructor
    · rintro ⟨k', v, ⟨listed, after⟩, rfl, rfl⟩
      obtain ⟨k, found, isKey⟩ := mem_under.mp listed
      rw [(isRest _ _).mp isKey] at found
      refine ⟨⟨mem_under.mpr ⟨_, found, rfl⟩, ?_⟩, ?_⟩
      · rw [(isRest _ _).mpr rfl]
        rfl
      · cases start with
        | none => rfl
        | some bound => simpa [isAfter, order] using after
    · rintro ⟨⟨listed, hasRest⟩, after⟩
      obtain ⟨k', isKey⟩ := Option.isSome_iff_exists.mp hasRest
      obtain ⟨k, found, same⟩ := mem_under.mp listed
      cases same
      cases (isRest _ _).mp isKey
      refine ⟨k', v, ⟨mem_under.mpr ⟨_, found, isKey⟩, ?_⟩, rfl, rfl⟩
      cases start with
      | none => rfl
      | some bound => simpa [isAfter, order] using after

end Storage
