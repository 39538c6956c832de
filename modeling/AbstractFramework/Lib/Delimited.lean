import Mathlib.Data.List.Sort

/-! # Texts of several parts

A text that joins its parts with a separator gives them back where no part has the separator.
Values of a linear order have one sorted form, whatever order they come in.  A format reads
values back (`ReadsBack`) where what it reads is in a normal form, and the text of a normal
form is read as it.
-/

namespace AbstractFramework.Delimited

section Parts

variable {α : Type*} {sep c : α} {parts others : List (List α)}

/-- A character other than the separator is in a joined text when it is in one of its parts. -/
theorem mem_intercalate (other : c ≠ sep) :
    c ∈ [sep].intercalate parts ↔ ∃ part ∈ parts, c ∈ part := by
  induction parts with
  | nil => simp
  | cons first rest ih =>
    cases rest with
    | nil => simp
    | cons second rest =>
      rw [List.intercalate_cons_cons, List.mem_append, List.mem_append, ih]
      simp [other]

theorem map_intercalate {β : Type*} (f : α → β) (sep : α) (parts : List (List α)) :
    ([sep].intercalate parts).map f = [f sep].intercalate (parts.map (List.map f)) := by
  induction parts with
  | nil => rfl
  | cons first rest ih =>
    cases rest with
    | nil => simp
    | cons second rest =>
      rw [List.intercalate_cons_cons, List.map_append, List.map_append, ih]
      simp only [List.map_cons, List.map_nil, List.intercalate_cons_cons]

variable [DecidableEq α]

/-- Parts that are joined are recovered. -/
theorem intercalate_injective (free : ∀ part ∈ parts, sep ∉ part)
    (free' : ∀ part ∈ others, sep ∉ part) (some : parts ≠ []) (some' : others ≠ [])
    (h : [sep].intercalate parts = [sep].intercalate others) : parts = others := by
  have split := congrArg (List.splitOn sep) h
  rwa [List.splitOn_intercalate sep free some, List.splitOn_intercalate sep free' some'] at split

/-- A text with one separator has two parts. -/
theorem splitOn_append_cons {first second : List α} (free : sep ∉ first) (free' : sep ∉ second) :
    (first ++ sep :: second).splitOn sep = [first, second] := by
  have joined : first ++ sep :: second = [sep].intercalate [first, second] := by simp
  rw [joined, List.splitOn_intercalate sep (by simp [free, free']) (by simp)]

/-- The parts of a text do not have the separator. -/
theorem notMem_of_mem_splitOn {text part : List α} (isPart : part ∈ text.splitOn sep) :
    sep ∉ part := by
  induction text generalizing part with
  | nil =>
    rw [List.splitOn_nil, List.mem_singleton] at isPart
    simp [isPart]
  | cons x text ih =>
    rw [List.splitOn_cons_eq_if_modifyHead] at isPart
    split at isPart
    · rcases List.mem_cons.mp isPart with rfl | later
      · exact List.not_mem_nil
      · exact ih later
    · rename_i other
      cases parts : text.splitOn sep with
      | nil => exact absurd parts (List.splitOn_ne_nil sep text)
      | cons first rest =>
        rw [parts] at ih
        rw [parts, List.modifyHead_cons, List.mem_cons] at isPart
        rcases isPart with rfl | later
        · have apart : sep ≠ x := fun same => other (by simp [same])
          simp [apart, ih List.mem_cons_self]
        · exact ih (List.mem_cons_of_mem first later)

/-- A character other than the separator is in a text when it is in one of its parts. -/
theorem mem_splitOn (other : c ≠ sep) {text : List α} :
    (∃ part ∈ text.splitOn sep, c ∈ part) ↔ c ∈ text := by
  rw [← mem_intercalate other, List.intercalate_splitOn]

end Parts

/-! ## Reading and printing -/

section Reading

variable {ε β γ : Type*} {read : String → Except ε β} {print : γ → String} {of : γ → β}
  {Normal : γ → Prop}

/-- The values that are read back from their own text are those that some text is read as. -/
def ReadsBack (read : String → Except ε β) (print : γ → String) (of : γ → β) (Normal : γ → Prop) :
    Prop :=
  ∀ v, (read (print v) = .ok (of v) ↔ Normal v) ∧ ((∃ text, read text = .ok (of v)) ↔ Normal v)

theorem readsBack_of (prints : ∀ v, Normal v → read (print v) = .ok (of v))
    (reads : ∀ text v, read text = .ok (of v) → Normal v) : ReadsBack read print of Normal :=
  fun v => ⟨⟨reads (print v) v, prints v⟩, fun ⟨text, isText⟩ => reads text v isText,
    fun normal => ⟨print v, prints v normal⟩⟩

end Reading

section Sorted

variable {α : Type*} {le : α → α → Prop} [DecidableRel le] [Std.Total le] [IsTrans α le]
  {xs ys : List α}

theorem insertionSort_eq_self_iff : xs.insertionSort le = xs ↔ xs.Pairwise le := by
  constructor
  · intro sorted
    rw [← sorted]
    exact List.pairwise_insertionSort le xs
  · exact List.Pairwise.insertionSort_eq

/-- The sorted form does not depend on the order. -/
theorem insertionSort_congr [Std.Antisymm le] (perm : xs.Perm ys) :
    xs.insertionSort le = ys.insertionSort le := by
  have same : (xs.insertionSort le).Perm (ys.insertionSort le) :=
    (List.perm_insertionSort le xs).trans (perm.trans (List.perm_insertionSort le ys).symm)
  exact same.eq_of_pairwise' (List.pairwise_insertionSort le xs) (List.pairwise_insertionSort le ys)

end Sorted

end AbstractFramework.Delimited
