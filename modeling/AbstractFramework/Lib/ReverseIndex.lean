import Mathlib.Data.Option.Basic

/-! # Reverse indexes

A store holds values under keys, live ones and retired ones.  Some values belong to a
place, and an index leads from a place back to a name of a key.  `Matches` says that an
index agrees with its store: what it names has the value of the place, live or retired,
and it has an entry for the place of every live value.

There is one rule for each way to write a store, and each is an equivalence: it says
exactly which writes an index survives.
-/

namespace ReverseIndex

/-- Live and retired values under keys, and an index from places to names. -/
structure Store (κ ν π ι : Type*) where
  live : κ → Option ν
  retired : κ → Option ν
  index : π → Option ι

namespace Store

variable {κ ν π ι : Type*}

/-- New live values, and new entries of the index. -/
def assign (new : κ → Option ν) (entries : π → Option ι) (st : Store κ ν π ι) :
    Store κ ν π ι where
  live k := (new k).or (st.live k)
  retired := st.retired
  index p := (entries p).or (st.index p)

/-- Retire the live values of some keys.  The index keeps its entries. -/
def retire (D : κ → Prop) [DecidablePred D] (st : Store κ ν π ι) : Store κ ν π ι where
  live k := if D k then none else st.live k
  retired k := if D k then (st.live k).or (st.retired k) else st.retired k
  index := st.index

/-- Forget a key, and drop some entries of the index. -/
def discard [DecidableEq κ] (k : κ) (dropped : π → Prop) [DecidablePred dropped]
    (st : Store κ ν π ι) : Store κ ν π ι where
  live k' := if k' = k then none else st.live k'
  retired k' := if k' = k then none else st.retired k'
  index p := if dropped p then none else st.index p

/-- Retiring twice is retiring once. -/
theorem retire_retire (D E : κ → Prop) [DecidablePred D] [DecidablePred E]
    (st : Store κ ν π ι) :
    (st.retire D).retire E = st.retire fun k => D k ∨ E k := by
  simp only [retire, mk.injEq, and_true]
  constructor
  · funext k
    by_cases hD : D k <;> by_cases hE : E k <;> simp [hD, hE]
  · funext k
    by_cases hD : D k <;> by_cases hE : E k <;> simp [hD, hE]

/-- Retiring a key without a live value does nothing, so only those with one count. -/
theorem retire_congr {D E : κ → Prop} [DecidablePred D] [DecidablePred E] {st : Store κ ν π ι}
    (same : ∀ k v, st.live k = some v → (D k ↔ E k)) : st.retire D = st.retire E := by
  simp only [retire, mk.injEq, and_true]
  constructor
  · funext k
    cases hv : st.live k with
    | none => simp
    | some v => simp [same k v hv]
  · funext k
    cases hv : st.live k with
    | none => simp
    | some v => simp [same k v hv]

/-- Retiring nothing. -/
theorem retire_of_forall_not {D : κ → Prop} [DecidablePred D] (nothing : ∀ k, ¬ D k)
    (st : Store κ ν π ι) : st.retire D = st := by
  simp [retire, nothing]

end Store

section Matches

variable {κ ν π ι : Type*} {value : π → ν} {key : ι → κ} {st : Store κ ν π ι}

/-- The index agrees with the store. -/
structure Matches (value : π → ν) (key : ι → κ) (st : Store κ ν π ι) : Prop where
  named : ∀ {p n}, st.index p = some n →
    st.live (key n) = some (value p) ∨ st.retired (key n) = some (value p)
  found : ∀ {k p}, st.live k = some (value p) → ∃ n, st.index p = some n

/-- The index of an empty store. -/
theorem matches_empty (hlive : ∀ k, st.live k = none) (hindex : ∀ p, st.index p = none) :
    Matches value key st where
  named hn := by simp [hindex] at hn
  found hv := by simp [hlive] at hv

/-- An assignment keeps the index in step exactly when what is named afterwards was not
    assigned a value of elsewhere, unless it is retired with the value of its place, and
    the places of the assigned values have entries. -/
theorem Matches.assign_iff (h : Matches value key st) {new : κ → Option ν}
    {entries : π → Option ι} (assigned : ∀ p n, entries p = some n → ∃ v, new (key n) = some v) :
    Matches value key (st.assign new entries) ↔
      (∀ p n, (entries p).or (st.index p) = some n → ∀ v, new (key n) = some v →
        v = value p ∨ st.retired (key n) = some (value p)) ∧
      ∀ k p, new k = some (value p) → ∃ n, (entries p).or (st.index p) = some n := by
  constructor
  · intro after
    constructor
    · intro p n hn v hv
      rcases after.named hn with live | retired
      · left
        simpa [Store.assign, hv] using live
      · exact .inr retired
    · intro k p hk
      apply after.found (k := k)
      simp [Store.assign, hk]
  · rintro ⟨named, found⟩
    constructor
    · intro p n hn
      cases hv : new (key n) with
      | some v =>
        rcases named p n hn v hv with rfl | retired
        · left
          simp [Store.assign, hv]
        · exact .inr retired
      | none =>
        -- `n` was not assigned, so its entry was there before
        have old : st.index p = some n := by
          cases he : entries p with
          | none => simpa [Store.assign, he] using hn
          | some n' =>
            have same : n' = n := by simpa [Store.assign, he] using hn
            obtain ⟨v, hv'⟩ := assigned p n' he
            rw [same, hv] at hv'
            cases hv'
        simpa [Store.assign, hv] using h.named old
    · intro k p hk
      cases hv : new k with
      | some v =>
        have same : v = value p := by simpa [Store.assign, hv] using hk
        exact found k p (same ▸ hv)
      | none =>
        obtain ⟨n, old⟩ := h.found (k := k) (p := p) (by simpa [Store.assign, hv] using hk)
        show ∃ n, (entries p).or (st.index p) = some n
        rw [old]
        cases entries p with
        | none => exact ⟨n, rfl⟩
        | some n' => exact ⟨n', rfl⟩

/-- Retiring keeps the index in step exactly when the retired values are the ones that the
    index names their keys for. -/
theorem Matches.retire_iff (h : Matches value key st) (D : κ → Prop) [DecidablePred D] :
    Matches value key (st.retire D) ↔
      ∀ p n, st.index p = some n → D (key n) → ∀ v, st.live (key n) = some v → v = value p := by
  constructor
  · intro after p n hn hD v hv
    simpa [Store.retire, hD, hv] using after.named hn
  · intro kept
    constructor
    · intro p n hn
      have old := h.named hn
      by_cases hD : D (key n)
      · right
        cases hv : st.live (key n) with
        | some v => simp [Store.retire, hD, hv, kept p n hn hD v hv]
        | none => simpa [Store.retire, hD, hv] using old
      · simpa [Store.retire, hD] using old
    · intro k p hk
      by_cases hD : D k
      · simp [Store.retire, hD] at hk
      · exact h.found (k := k) (by simpa [Store.retire, hD] using hk)

/-- Forgetting a key keeps the index in step exactly when all entries that name it are
    dropped, and no dropped place is the place of another live value. -/
theorem Matches.discard_iff [DecidableEq κ] (h : Matches value key st) (k : κ)
    (dropped : π → Prop) [DecidablePred dropped] :
    Matches value key (st.discard k dropped) ↔
      (∀ p n, st.index p = some n → key n = k → dropped p) ∧
      ∀ k' p, dropped p → st.live k' = some (value p) → k' = k := by
  constructor
  · intro after
    constructor
    · intro p n hn hk
      by_contra kept
      have := after.named (p := p) (n := n) (by simpa [Store.discard, kept] using hn)
      simp [Store.discard, hk] at this
    · intro k' p hp hv
      by_contra other
      obtain ⟨n, hn⟩ := after.found (k := k') (p := p) (by simpa [Store.discard, other] using hv)
      simp [Store.discard, hp] at hn
  · rintro ⟨named, found⟩
    constructor
    · intro p n hn
      by_cases hp : dropped p
      · simp [Store.discard, hp] at hn
      · have old : st.index p = some n := by simpa [Store.discard, hp] using hn
        have other : key n ≠ k := fun hk => hp (named p n old hk)
        simpa [Store.discard, other] using h.named old
    · intro k' p hv
      by_cases hk : k' = k
      · simp [Store.discard, hk] at hv
      · have old : st.live k' = some (value p) := by simpa [Store.discard, hk] using hv
        have kept : ¬ dropped p := fun hp => hk (found k' p hp old)
        simpa [Store.discard, kept] using h.found old

end Matches

end ReverseIndex
