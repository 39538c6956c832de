import AbstractFramework.Lib.Fallible
import AbstractFramework.Lib.Storage

/-! # Tables that are written in batches

A batch first adds entries to a table, where the last one for a key stays, and then removes
keys.  So about each key a batch says nothing, or that it has a value, or that it has none.
After a run of batches the table has the value that was said last (`Says`).
-/

namespace Tables

open Fallible Storage

variable {α β ε κ ν μ : Type}

/-! ## Words -/

/-- The last value for the key. -/
def lastFor [DecidableEq κ] (key : κ) : List (κ × ν) → Option ν
  | [] => none
  | e :: es => (lastFor key es).or (if e.1 = key then some e.2 else none)

/-- What a batch says about a key. -/
def word [DecidableEq κ] (adds : List (κ × ν)) (removes : List κ) (key : κ) : Option (Option ν) :=
  if key ∈ removes then some none else (lastFor key adds).map some

/-- Of the messages about a key the last one says the value. -/
def Says (about : μ → κ → Option (Option ν)) (log : List μ) (key : κ) (v : ν) : Prop :=
  ∃ before msg after, log = before ++ msg :: after ∧ about msg key = some (some v) ∧
    ∀ later ∈ after, about later key = none

section Log

variable {about : μ → κ → Option (Option ν)} {log : List μ} {key : κ} {v : ν}

theorem not_says_nil : ¬ Says about [] key v := by
  rintro ⟨before, msg, after, split, -⟩
  cases before <;> cases split

/-- The next message says the value, or it leaves what was said. -/
theorem says_snoc {msg : μ} : Says about (log ++ [msg]) key v ↔
    about msg key = some (some v) ∨ about msg key = none ∧ Says about log key v := by
  constructor
  · rintro ⟨before, msg', after, split, said, quiet⟩
    rcases List.eq_nil_or_concat after with rfl | ⟨after, last, rfl⟩
    · obtain ⟨rfl, isLast⟩ := List.append_inj' split rfl
      cases isLast
      exact .inl said
    · rw [List.concat_eq_append] at split quiet
      rw [← List.cons_append, ← List.append_assoc] at split
      obtain ⟨rfl, isLast⟩ := List.append_inj' split rfl
      cases isLast
      exact .inr ⟨quiet msg (by simp), before, msg', after, rfl, said,
        fun later listed => quiet later (List.mem_append_left _ listed)⟩
  · rintro (said | ⟨silent, before, msg', after, rfl, said, quiet⟩)
    · exact ⟨log, msg, [], rfl, said, by simp⟩
    · refine ⟨before, msg', after ++ [msg], by simp, said, fun later listed => ?_⟩
      rcases List.mem_append.mp listed with earlier | last
      · exact quiet later earlier
      · rw [List.mem_singleton.mp last]
        exact silent

end Log

/-! ## Batches -/

section Batch

variable (encode : κ → Except ε Bytes) (added : α → Except ε (κ × ν)) (removed : β → Except ε κ)

def insertEntry (m : Map Bytes ν) (entry : α) : Except ε (Map Bytes ν) := do
  let (key, v) ← added entry
  let bytes ← encode key
  return m.insert bytes v

def eraseEntry (m : Map Bytes ν) (entry : β) : Except ε (Map Bytes ν) := do
  let key ← removed entry
  let bytes ← encode key
  return m.erase bytes

/-- The table after a batch. -/
def update (toAdd : List α) (toRemove : List β) (m : Map Bytes ν) : Except ε (Map Bytes ν) := do
  let m ← toAdd.foldlM (insertEntry encode added) m
  toRemove.foldlM (eraseEntry encode removed) m

variable {encode added removed} [DecidableEq κ] {toAdd : List α} {toRemove : List β}
  {m m' : Map Bytes ν}

theorem insertEntries_ok (injective : ∀ k k' b, encode k = .ok b → encode k' = .ok b → k = k')
    (ok : toAdd.foldlM (insertEntry encode added) m = .ok m') :
    ∃ adds, toAdd.mapM added = .ok adds ∧
      (∀ e ∈ adds, ∃ bytes, encode e.1 = .ok bytes) ∧
      (∀ key bytes, encode key = .ok bytes →
        m'.lookup bytes = (lastFor key adds).or (m.lookup bytes)) ∧
      ∀ bytes ∈ m', bytes ∈ m ∨ ∃ e ∈ adds, encode e.1 = .ok bytes := by
  induction toAdd generalizing m with
  | nil =>
    rw [List.foldlM_nil, pure_eq_ok] at ok
    subst ok
    exact ⟨[], rfl, by simp, fun _ _ _ => rfl, fun _ listed => .inl listed⟩
  | cons entry toAdd ih =>
    obtain ⟨next, first, rest⟩ := foldlM_cons_eq_ok.mp ok
    obtain ⟨⟨key, v⟩, isEntry, first⟩ := bind_eq_ok.mp first
    obtain ⟨bytes, encodes, isNext⟩ := bind_eq_ok.mp first
    obtain rfl := Except.ok.inj isNext
    obtain ⟨adds, mapped, encoded, found, keys⟩ := ih rest
    refine ⟨(key, v) :: adds, ?_, ?_, ?_, ?_⟩
    · rw [List.mapM_cons, isEntry, mapped]
      rfl
    · exact List.forall_mem_cons.mpr ⟨⟨bytes, encodes⟩, encoded⟩
    · intro key' bytes' encodes'
      rw [found key' bytes' encodes', lastFor, lookup_insert_ite]
      by_cases same : key = key'
      · subst same
        obtain rfl : bytes = bytes' := Except.ok.inj (encodes.symm.trans encodes')
        cases lastFor key adds <;> simp
      · have other : bytes' ≠ bytes := fun equal =>
          same (injective key key' bytes encodes (equal ▸ encodes'))
        cases lastFor key' adds <;> simp [same, other]
    · intro bytes' listed
      rcases keys bytes' listed with before | ⟨e, isAdded, encodes'⟩
      · rcases (AList.mem_insert _).mp before with rfl | before
        · exact .inr ⟨(key, v), List.mem_cons_self, encodes⟩
        · exact .inl before
      · exact .inr ⟨e, List.mem_cons_of_mem _ isAdded, encodes'⟩

theorem eraseEntries_ok (injective : ∀ k k' b, encode k = .ok b → encode k' = .ok b → k = k')
    (ok : toRemove.foldlM (eraseEntry encode removed) m = .ok m') :
    ∃ removes, toRemove.mapM removed = .ok removes ∧
      (∀ key bytes, encode key = .ok bytes →
        m'.lookup bytes = if key ∈ removes then none else m.lookup bytes) ∧
      ∀ bytes ∈ m', bytes ∈ m := by
  induction toRemove generalizing m with
  | nil =>
    rw [List.foldlM_nil, pure_eq_ok] at ok
    subst ok
    exact ⟨[], rfl, fun _ _ _ => rfl, fun _ listed => listed⟩
  | cons entry toRemove ih =>
    obtain ⟨next, first, rest⟩ := foldlM_cons_eq_ok.mp ok
    obtain ⟨key, isEntry, first⟩ := bind_eq_ok.mp first
    obtain ⟨bytes, encodes, isNext⟩ := bind_eq_ok.mp first
    obtain rfl := Except.ok.inj isNext
    obtain ⟨removes, mapped, found, keys⟩ := ih rest
    refine ⟨key :: removes, ?_, ?_, fun bytes' listed => (AList.mem_erase.mp (keys bytes' listed)).2⟩
    · rw [List.mapM_cons, isEntry, mapped]
      rfl
    · intro key' bytes' encodes'
      rw [found key' bytes' encodes', lookup_erase_ite]
      by_cases same : key' = key
      · subst same
        obtain rfl : bytes = bytes' := Except.ok.inj (encodes.symm.trans encodes')
        simp
      · have other : bytes' ≠ bytes := fun equal =>
          same (injective key' key bytes (equal ▸ encodes') encodes)
        simp [same, other]

/-- After a batch a key has what the batch says, or what it had. -/
theorem update_ok (injective : ∀ k k' b, encode k = .ok b → encode k' = .ok b → k = k')
    (ok : update encode added removed toAdd toRemove m = .ok m') :
    ∃ adds removes, toAdd.mapM added = .ok adds ∧ toRemove.mapM removed = .ok removes ∧
      (∀ e ∈ adds, ∃ bytes, encode e.1 = .ok bytes) ∧
      (∀ key bytes, encode key = .ok bytes →
        m'.lookup bytes = (word adds removes key).getD (m.lookup bytes)) ∧
      ∀ bytes ∈ m', bytes ∈ m ∨ ∃ e ∈ adds, encode e.1 = .ok bytes := by
  obtain ⟨middle, first, second⟩ := bind_eq_ok.mp ok
  obtain ⟨adds, isAdds, encoded, found, keys⟩ := insertEntries_ok injective first
  obtain ⟨removes, isRemoves, left, keys'⟩ := eraseEntries_ok injective second
  refine ⟨adds, removes, isAdds, isRemoves, encoded, ?_,
    fun bytes listed => keys bytes (keys' bytes listed)⟩
  intro key bytes encodes
  rw [left key bytes encodes, found key bytes encodes, word]
  by_cases gone : key ∈ removes
  · simp [gone]
  · cases lastFor key adds <;> simp [gone]

/-! ## Runs of batches -/

/-- The table holds for each key what was said last. -/
structure Holds (encode : κ → Except ε Bytes) (about : μ → κ → Option (Option ν)) (m : Map Bytes ν)
    (log : List μ) : Prop where
  keys : ∀ bytes ∈ m, ∃ key, encode key = .ok bytes
  lastSaid : ∀ key v, (∃ bytes, encode key = .ok bytes ∧ m.lookup bytes = some v) ↔ Says about log key v

variable {about : μ → κ → Option (Option ν)} {log : List μ} {msg : μ}

omit [DecidableEq κ] in
theorem holds_empty : Holds encode about ∅ [] where
  keys _ listed := absurd listed (AList.notMem_empty _)
  lastSaid key v := by simp [not_says_nil]

omit [DecidableEq κ] in
/-- A message that says nothing. -/
theorem Holds.skip (holds : Holds encode about m log) (silent : ∀ key, about msg key = none) :
    Holds encode about m (log ++ [msg]) where
  keys := holds.keys
  lastSaid key v := by simp [says_snoc, silent, holds.lastSaid]

theorem exists_of_lastFor {key : κ} {v : ν} {adds : List (κ × ν)}
    (found : lastFor key adds = some v) : ∃ e ∈ adds, e.1 = key := by
  induction adds with
  | nil => cases found
  | cons e adds ih =>
    rw [lastFor, Option.or_eq_some_iff] at found
    rcases found with later | ⟨_, here⟩
    · obtain ⟨e', listed, isKey⟩ := ih later
      exact ⟨e', List.mem_cons_of_mem e listed, isKey⟩
    · by_cases isKey : e.1 = key
      · exact ⟨e, List.mem_cons_self, isKey⟩
      · simp [isKey] at here

/-- A batch. -/
theorem Holds.update (holds : Holds encode about m log)
    (injective : ∀ k k' b, encode k = .ok b → encode k' = .ok b → k = k')
    (ok : update encode added removed toAdd toRemove m = .ok m')
    (isWord : ∀ adds removes, toAdd.mapM added = .ok adds → toRemove.mapM removed = .ok removes →
      about msg = word adds removes) : Holds encode about m' (log ++ [msg]) := by
  obtain ⟨adds, removes, isAdds, isRemoves, encoded, found, keys⟩ := update_ok injective ok
  constructor
  · intro bytes listed
    rcases keys bytes listed with before | ⟨e, -, encodes⟩
    · exact holds.keys bytes before
    · exact ⟨e.1, encodes⟩
  · intro key v
    rw [says_snoc, ← holds.lastSaid, isWord adds removes isAdds isRemoves]
    constructor
    · rintro ⟨bytes, encodes, there⟩
      rw [found key bytes encodes] at there
      cases said : word adds removes key with
      | none =>
        rw [said] at there
        exact .inr ⟨rfl, bytes, encodes, there⟩
      | some w =>
        rw [said] at there
        exact .inl (congrArg some there)
    · rintro (said | ⟨silent, bytes, encodes, there⟩)
      · have isLast := said
        rw [word, ite_eq_iff] at isLast
        rcases isLast with ⟨_, impossible⟩ | ⟨_, isLast⟩
        · cases impossible
        · obtain ⟨_, isLast, isValue⟩ := Option.map_eq_some_iff.mp isLast
          obtain ⟨e, listed, rfl⟩ := exists_of_lastFor isLast
          obtain ⟨bytes, encodes⟩ := encoded e listed
          refine ⟨bytes, encodes, ?_⟩
          rw [found e.1 bytes encodes, said]
          rfl
      · refine ⟨bytes, encodes, ?_⟩
        rw [found key bytes encodes, silent]
        exact there

end Batch

end Tables
