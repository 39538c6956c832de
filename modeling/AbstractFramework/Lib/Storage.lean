import Mathlib.Algebra.Ring.Nat
import Mathlib.Data.List.AList
import Mathlib.Data.List.TakeDrop

/-! # Keyed storage

A storage map is an association list without repeated keys; `load`, `save` and
`remove` are `lookup`, `insert` and `erase` of `AList`.  The three lemmas of
the first part say what a lookup returns after a write.  `Mirror` is the
relation between a map and a second one that finds its entries by a key of
their values; writing both keeps it.

The last part is the byte layout of composite keys: every element but the
last is preceded by its length in two big-endian bytes.  `joinedKey_injective`
is the fact such a layout is chosen for: lists of elements of the same arity
are recovered from the joined bytes as long as the prefixed elements are no
longer than a two-byte length can say.  `bigEndian` is the key of a number.
-/

namespace Storage

/-! ## Maps -/

/-- A storage map from keys to values. -/
abbrev Map (κ ν : Type) := AList (fun _ : κ => ν)

variable {κ ν : Type} [DecidableEq κ]

theorem lookup_insert_ite (m : Map κ ν) (k k' : κ) (v : ν) :
    (m.insert k v).lookup k' = if k' = k then some v else m.lookup k' := by
  by_cases h : k' = k
  · subst h; simp
  · simp [h, AList.lookup_insert_ne h]

/-- What is found after a write was written, or was there under another key. -/
theorem lookup_insert_cases {m : Map κ ν} {k k' : κ} {v v' : ν}
    (h : (m.insert k v).lookup k' = some v') :
    (k' = k ∧ v' = v) ∨ (k' ≠ k ∧ m.lookup k' = some v') := by
  rw [lookup_insert_ite] at h
  split at h
  · rename_i same
    exact .inl ⟨same, (Option.some.inj h).symm⟩
  · rename_i other
    exact .inr ⟨other, h⟩

theorem lookup_erase_ite (m : Map κ ν) (k k' : κ) :
    (m.erase k).lookup k' = if k' = k then none else m.lookup k' := by
  by_cases h : k' = k
  · subst h; simp
  · simp [h, AList.lookup_erase_ne h]

/-- What is found after an erasure was there under another key. -/
theorem lookup_erase_eq_some {m : Map κ ν} {k k' : κ} {v : ν} :
    (m.erase k).lookup k' = some v ↔ k' ≠ k ∧ m.lookup k' = some v := by
  rw [lookup_erase_ite]
  by_cases h : k' = k
  · simp [h]
  · simp [h]

theorem mem_iff_lookup {m : Map κ ν} {k : κ} : k ∈ m ↔ ∃ v, m.lookup k = some v := by
  rw [← AList.lookup_isSome, Option.isSome_iff_exists]

theorem mem_of_lookup {m : Map κ ν} {k : κ} {v : ν} (h : m.lookup k = some v) : k ∈ m :=
  mem_iff_lookup.mpr ⟨v, h⟩

theorem forall_mem_insert {m : Map κ ν} {P : κ → Prop} {k : κ} (v : ν) (here : P k)
    (rest : ∀ k' ∈ m, P k') : ∀ k' ∈ m.insert k v, P k' := by
  intro k' listed
  rcases (AList.mem_insert _).mp listed with rfl | listed
  · exact here
  · exact rest k' listed

/-! ## Parts of a map -/

/-- The entries whose keys meet a condition. -/
def part (P : κ → Prop) [DecidablePred P] (m : Map κ ν) : List (Sigma fun _ : κ => ν) :=
  m.entries.filter fun e => P e.1

section Part

variable {P : κ → Prop} [DecidablePred P] {m m' : Map κ ν} {k : κ}

theorem filter_kerase {entries : List (Sigma fun _ : κ => ν)} (outside : ¬P k) :
    (entries.kerase k).filter (fun e => P e.1) = entries.filter fun e => P e.1 := by
  induction entries with
  | nil => rfl
  | cons e rest ih =>
    by_cases same : k = e.1
    · rw [List.kerase_cons_eq same, List.filter_cons_of_neg]
      simpa [← same] using outside
    · rw [List.kerase_cons_ne same, List.filter_cons, List.filter_cons, ih]

/-- A write under any other key leaves the part as it is. -/
theorem part_insert (v : ν) (outside : ¬P k) : part P (m.insert k v) = part P m := by
  unfold part
  rw [AList.entries_insert, List.filter_cons_of_neg (by simpa using outside), filter_kerase outside]

theorem part_erase (outside : ¬P k) : part P (m.erase k) = part P m :=
  filter_kerase outside

theorem lookup_of_part (same : part P m' = part P m) (inside : P k) :
    m'.lookup k = m.lookup k := by
  have found : ∀ {m : Map κ ν} {v : ν}, m.lookup k = some v ↔ ⟨k, v⟩ ∈ part P m := by
    intro m v
    rw [part, List.mem_filter, ← AList.mem_lookup_iff, Option.mem_def]
    simp [inside]
  ext v
  rw [found, found, same]

end Part

/-! ## Writing several entries -/

/-- Save the entries in order: the last one for a key stays. -/
def insertAll (m : Map κ ν) (es : List (κ × ν)) : Map κ ν :=
  es.foldl (fun m e => m.insert e.1 e.2) m

@[simp] theorem insertAll_nil (m : Map κ ν) : insertAll m [] = m := rfl

@[simp] theorem insertAll_cons (m : Map κ ν) (e : κ × ν) (es : List (κ × ν)) :
    insertAll m (e :: es) = insertAll (m.insert e.1 e.2) es := rfl

theorem lookup_insertAll_of_notMem {m : Map κ ν} {es : List (κ × ν)} {k : κ}
    (h : k ∉ es.map Prod.fst) : (insertAll m es).lookup k = m.lookup k := by
  induction es generalizing m with
  | nil => rfl
  | cons e es ih =>
    simp only [List.map_cons, List.mem_cons, not_or] at h
    rw [insertAll_cons, ih h.2, AList.lookup_insert_ne h.1]

theorem lookup_insertAll_of_mem {m : Map κ ν} {es : List (κ × ν)} {e : κ × ν}
    (distinct : (es.map Prod.fst).Nodup) (listed : e ∈ es) :
    (insertAll m es).lookup e.1 = some e.2 := by
  induction es generalizing m with
  | nil => cases listed
  | cons first es ih =>
    rw [List.map_cons, List.nodup_cons] at distinct
    rw [insertAll_cons]
    rcases List.mem_cons.mp listed with rfl | listed
    · rw [lookup_insertAll_of_notMem distinct.1, AList.lookup_insert]
    · exact ih distinct.2 listed

theorem mem_insertAll {m : Map κ ν} {es : List (κ × ν)} {k : κ} :
    k ∈ insertAll m es ↔ k ∈ es.map Prod.fst ∨ k ∈ m := by
  induction es generalizing m with
  | nil => simp
  | cons e es ih =>
    rw [insertAll_cons, ih, AList.mem_insert, List.map_cons, List.mem_cons]
    tauto

/-- What is found after the writes was written, or was there and not overwritten. -/
theorem lookup_insertAll_cases {m : Map κ ν} {es : List (κ × ν)} {k : κ} {v : ν}
    (h : (insertAll m es).lookup k = some v) :
    (k, v) ∈ es ∨ (k ∉ es.map Prod.fst ∧ m.lookup k = some v) := by
  induction es generalizing m with
  | nil => exact .inr ⟨by simp, h⟩
  | cons e es ih =>
    rw [insertAll_cons] at h
    rcases ih h with written | ⟨later, found⟩
    · exact .inl (List.mem_cons_of_mem e written)
    · rcases lookup_insert_cases found with ⟨rfl, rfl⟩ | ⟨other, found⟩
      · exact .inl List.mem_cons_self
      · refine .inr ⟨?_, found⟩
        simp only [List.map_cons, List.mem_cons, not_or]
        exact ⟨other, later⟩

/-! ## Mirrored maps

A second map that finds the entries of the first by a key of their values. -/

section Mirror

variable {α β γ : Type} [DecidableEq α] [DecidableEq γ]

/-- `rev` finds the entries of `m` by the key of their values. -/
structure Mirror (key : β → γ) (m : Map α β) (rev : Map γ α) : Prop where
  forward : ∀ {a b}, m.lookup a = some b → rev.lookup (key b) = some a
  backward : ∀ {c a}, rev.lookup c = some a → ∃ b, m.lookup a = some b ∧ key b = c

variable {key : β → γ} {m : Map α β} {rev : Map γ α} {a : α} {b : β}

theorem mirror_empty (key : β → γ) : Mirror key (∅ : Map α β) (∅ : Map γ α) where
  forward h := by simp at h
  backward h := by simp at h

/-- A key is found in the second map exactly when the first has an entry with it. -/
theorem Mirror.lookup_iff (mirror : Mirror key m rev) {c : γ} :
    (∃ b, m.lookup a = some b ∧ key b = c) ↔ rev.lookup c = some a := by
  constructor
  · rintro ⟨b, found, rfl⟩
    exact mirror.forward found
  · exact mirror.backward

/-- No two entries share a key. -/
theorem Mirror.injective (mirror : Mirror key m rev) {a' : α} {b' : β}
    (first : m.lookup a = some b) (second : m.lookup a' = some b') (same : key b = key b') :
    a = a' := by
  have back := mirror.forward first
  rw [same, mirror.forward second] at back
  exact (Option.some.inj back).symm

/-- Changing a value but not its key. -/
theorem Mirror.update (mirror : Mirror key m rev) {b' : β} (found : m.lookup a = some b)
    (same : key b' = key b) : Mirror key (m.insert a b') rev where
  forward {a₁ b₁} h := by
    rcases lookup_insert_cases h with ⟨rfl, rfl⟩ | ⟨_, old⟩
    · rw [same]
      exact mirror.forward found
    · exact mirror.forward old
  backward {c a₁} h := by
    obtain ⟨b₁, old, isKey⟩ := mirror.backward h
    rw [lookup_insert_ite]
    split
    · rename_i here
      rw [here, found, Option.some.injEq] at old
      exact ⟨b', rfl, by rw [same, old, isKey]⟩
    · exact ⟨b₁, old, isKey⟩

theorem Mirror.insert (mirror : Mirror key m rev) (free : m.lookup a = none)
    (without : key b ∉ rev) : Mirror key (m.insert a b) (rev.insert (key b) a) where
  forward {a' b'} h := by
    rcases lookup_insert_cases h with ⟨rfl, rfl⟩ | ⟨_, old⟩
    · exact AList.lookup_insert _
    · have old := mirror.forward old
      rw [lookup_insert_ite, if_neg]
      · exact old
      · intro same
        exact without (same ▸ mem_of_lookup old)
  backward {c a'} h := by
    rcases lookup_insert_cases h with ⟨rfl, rfl⟩ | ⟨_, old⟩
    · exact ⟨b, AList.lookup_insert _, rfl⟩
    · obtain ⟨b', old, same⟩ := mirror.backward old
      refine ⟨b', ?_, same⟩
      rw [lookup_insert_ite, if_neg]
      · exact old
      · rintro rfl
        rw [free] at old
        cases old

theorem mirror_singleton (key : β → γ) (a : α) (b : β) :
    Mirror key ((∅ : Map α β).insert a b) ((∅ : Map γ α).insert (key b) a) :=
  (mirror_empty key).insert rfl (AList.notMem_empty _)

/-- Erasing an entry that is not there. -/
theorem Mirror.erase_free (mirror : Mirror key m rev) (free : m.lookup a = none) :
    Mirror key (m.erase a) rev := by
  have same : ∀ a', (m.erase a).lookup a' = m.lookup a' := by
    intro a'
    rw [lookup_erase_ite]
    split
    · rename_i here
      rw [here, free]
    · rfl
  refine ⟨?_, ?_⟩
  · intro a' b' h
    rw [same] at h
    exact mirror.forward h
  · intro c a' h
    rw [same]
    exact mirror.backward h

theorem Mirror.erase (mirror : Mirror key m rev) (owned : m.lookup a = some b) :
    Mirror key (m.erase a) (rev.erase (key b)) where
  forward {a' b'} h := by
    obtain ⟨other, h⟩ := lookup_erase_eq_some.mp h
    have old := mirror.forward h
    refine lookup_erase_eq_some.mpr ⟨?_, old⟩
    intro same
    rw [same, mirror.forward owned, Option.some.injEq] at old
    exact other old.symm
  backward {c a'} h := by
    obtain ⟨other, h⟩ := lookup_erase_eq_some.mp h
    obtain ⟨b', old, same⟩ := mirror.backward h
    refine ⟨b', lookup_erase_eq_some.mpr ⟨?_, old⟩, same⟩
    rintro rfl
    rw [owned, Option.some.injEq] at old
    exact other (by rw [← same, old])

end Mirror

/-! ## Composite keys -/

abbrev Bytes := List UInt8

theorem append_lt_append_iff {front a b : Bytes} : front ++ a < front ++ b ↔ a < b := by
  constructor
  · intro less
    by_contra notLess
    have le : front ++ b ≤ front ++ a := List.append_left_le (List.not_lt.mp notLess)
    exact List.not_lt.mpr le less
  · exact List.append_left_lt

/-- The length of a key element as two big-endian bytes. -/
def encodeLength (n : Nat) : Bytes :=
  [UInt8.ofNat (n / 256), UInt8.ofNat (n % 256)]

/-- The number two big-endian bytes stand for. -/
def decodeLength (hi lo : UInt8) : Nat :=
  hi.toNat * 256 + lo.toNat

def joinedKey : List Bytes → Bytes
  | [] => []
  | [last] => last
  | k :: rest => encodeLength k.length ++ k ++ joinedKey rest

theorem joinedKey_cons_cons (k next : Bytes) (rest : List Bytes) :
    joinedKey (k :: next :: rest) =
      encodeLength k.length ++ (k ++ joinedKey (next :: rest)) := by
  simp [joinedKey]

@[simp] theorem encodeLength_length (n : Nat) : (encodeLength n).length = 2 := rfl

theorem decodeLength_encodeLength {n : Nat} (h : n < 65536) :
    decodeLength (UInt8.ofNat (n / 256)) (UInt8.ofNat (n % 256)) = n := by
  simp only [decodeLength, UInt8.toNat_ofNat']
  omega

theorem encodeLength_injective {m n : Nat} (hm : m < 65536) (hn : n < 65536)
    (h : encodeLength m = encodeLength n) : m = n := by
  simp only [encodeLength, List.cons.injEq, and_true] at h
  rw [← decodeLength_encodeLength hm, ← decodeLength_encodeLength hn, h.1, h.2]

/-- Same-arity element lists are determined by their joined bytes. -/
theorem joinedKey_injective : ∀ {ks ls : List Bytes}, ks.length = ls.length →
    (∀ k ∈ ks.dropLast, k.length < 65536) → (∀ l ∈ ls.dropLast, l.length < 65536) →
    joinedKey ks = joinedKey ls → ks = ls
  | [], [], _, _, _, _ => rfl
  | [k], [l], _, _, _, h => by simpa [joinedKey] using h
  | k :: k' :: ks, l :: l' :: ls, hlen, hks, hls, h => by
    rw [joinedKey_cons_cons k, joinedKey_cons_cons l] at h
    have hk : k.length < 65536 := hks k (by simp)
    have hl : l.length < 65536 := hls l (by simp)
    obtain ⟨lengths, rest⟩ := List.append_inj h (by simp)
    have same : k.length = l.length := encodeLength_injective hk hl lengths
    obtain ⟨first, tails⟩ := List.append_inj rest same
    have tail : k' :: ks = l' :: ls := by
      refine joinedKey_injective (by simpa using hlen) ?_ ?_ tails
      · exact fun x hx => hks x (by simp [List.dropLast_cons_of_ne_nil, hx])
      · exact fun x hx => hls x (by simp [List.dropLast_cons_of_ne_nil, hx])
    rw [first, tail]

/-- Keys with the same first elements are in the order of the others. -/
theorem joinedKey_append_lt (ks : List Bytes) {rest rest' : List Bytes} (some : rest ≠ [])
    (some' : rest' ≠ []) (less : joinedKey rest < joinedKey rest') :
    joinedKey (ks ++ rest) < joinedKey (ks ++ rest') := by
  induction ks with
  | nil => exact less
  | cons k ks ih =>
    obtain ⟨next, later, split⟩ := List.exists_cons_of_ne_nil
      (List.append_ne_nil_of_right_ne_nil ks some)
    obtain ⟨next', later', split'⟩ := List.exists_cons_of_ne_nil
      (List.append_ne_nil_of_right_ne_nil ks some')
    rw [List.cons_append, List.cons_append, split, split', joinedKey_cons_cons, joinedKey_cons_cons,
      ← split, ← split']
    exact List.append_left_lt (List.append_left_lt ih)

theorem length_le_joinedKey : ∀ {ks : List Bytes} {last : Bytes}, ks.getLast? = some last →
    last.length ≤ (joinedKey ks).length
  | [], _, h => by cases h
  | [k], last, h => by
    obtain rfl := Option.some.inj h
    exact Nat.le_refl _
  | k :: k' :: ks, last, h => by
    have later : last.length ≤ (joinedKey (k' :: ks)).length :=
      length_le_joinedKey (by rw [List.getLast?_cons_cons] at h; exact h)
    rw [joinedKey_cons_cons]
    simp only [List.length_append]
    omega

/-- Element lists of any arity, with last elements of one length, are determined by their
    joined bytes. -/
theorem joinedKey_injective_last : ∀ {ks ls : List Bytes} {k₀ l₀ : Bytes},
    ks.getLast? = some k₀ → ls.getLast? = some l₀ → k₀.length = l₀.length →
    (∀ k ∈ ks.dropLast, k.length < 65536) → (∀ l ∈ ls.dropLast, l.length < 65536) →
    joinedKey ks = joinedKey ls → ks = ls
  | [], _, _, _, hk, _, _, _, _, _ => by cases hk
  | _ :: _, [], _, _, _, hl, _, _, _, _ => by cases hl
  | [k], [l], _, _, _, _, _, _, _, h => by simpa [joinedKey] using h
  | [k], l :: l' :: ls, k₀, l₀, hk, hl, width, _, _, h => by
    rw [List.getLast?_singleton, Option.some.injEq] at hk
    rw [List.getLast?_cons_cons] at hl
    have later := length_le_joinedKey hl
    have lengths : k.length = (joinedKey (l :: l' :: ls)).length := congrArg List.length h
    rw [joinedKey_cons_cons, List.length_append, List.length_append, encodeLength_length] at lengths
    rw [hk] at lengths
    omega
  | k :: k' :: ks, [l], k₀, l₀, hk, hl, width, _, _, h => by
    rw [List.getLast?_singleton, Option.some.injEq] at hl
    rw [List.getLast?_cons_cons] at hk
    have later := length_le_joinedKey hk
    have lengths : (joinedKey (k :: k' :: ks)).length = l.length := congrArg List.length h
    rw [joinedKey_cons_cons, List.length_append, List.length_append, encodeLength_length] at lengths
    rw [hl] at lengths
    omega
  | k :: k' :: ks, l :: l' :: ls, k₀, l₀, hk, hl, width, hks, hls, h => by
    rw [joinedKey_cons_cons k, joinedKey_cons_cons l] at h
    obtain ⟨lengths, rest⟩ := List.append_inj h (by simp)
    have same : k.length = l.length :=
      encodeLength_injective (hks k (by simp)) (hls l (by simp)) lengths
    obtain ⟨first, tails⟩ := List.append_inj rest same
    rw [List.getLast?_cons_cons] at hk hl
    have tail : k' :: ks = l' :: ls := by
      refine joinedKey_injective_last hk hl width ?_ ?_ tails
      · exact fun x hx => hks x (by simp [List.dropLast_cons_of_ne_nil, hx])
      · exact fun x hx => hls x (by simp [List.dropLast_cons_of_ne_nil, hx])
    rw [first, tail]

/-- The key of a number: its last bytes, the highest one first. -/
def bigEndian : Nat → Nat → Bytes
  | 0, _ => []
  | width + 1, n => bigEndian width (n / 256) ++ [UInt8.ofNat n]

/-- Numbers that fit the bytes are told apart by them. -/
theorem bigEndian_injective {width m n : Nat} (hm : m < 256 ^ width) (hn : n < 256 ^ width)
    (h : bigEndian width m = bigEndian width n) : m = n := by
  induction width generalizing m n with
  | zero => omega
  | succ width ih =>
    obtain ⟨high, low⟩ := List.append_inj' h rfl
    rw [Nat.pow_succ] at hm hn
    have quotients := ih (Nat.div_lt_of_lt_mul (Nat.mul_comm _ 256 ▸ hm))
      (Nat.div_lt_of_lt_mul (Nat.mul_comm _ 256 ▸ hn)) high
    have remainders := congrArg UInt8.toNat (List.singleton_inj.mp low)
    simp only [UInt8.toNat_ofNat'] at remainders
    omega

end Storage
