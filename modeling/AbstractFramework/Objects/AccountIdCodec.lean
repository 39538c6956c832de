import AbstractFramework.Objects.AccountId

/-! # The storage-key codec of account identifiers

The encoder writes `MAX_TRACE_LENGTH` trace elements and the sequence number;
the decoder splits the same number of elements off and then visits all of them
but the last.  Hence a trace is decoded completely exactly when its last
element is a placeholder.

`storageKey_injective` is what the registry relies on: two verified
identifiers never share a storage key.
-/

namespace AbstractFramework

open Fallible Storage

/-! ## Verified chain names and traces -/

@[simp] theorem strBytes_length (s : String) : (strBytes s).length = s.utf8ByteSize := by
  simp [strBytes]

theorem strBytes_injective {s t : String} (h : strBytes s = strBytes t) : s = t := by
  apply String.toByteArray_inj.mp
  apply ByteArray.ext
  exact Array.toList_inj.mp h

theorem stringFromUtf8_strBytes (s : String) : stringFromUtf8 (strBytes s) = .ok s := by
  have array : (⟨(strBytes s).toArray⟩ : ByteArray) = s.toByteArray := by
    simp [strBytes]
  have decoded : String.fromUTF8? s.toByteArray = some s := by
    simp only [String.fromUTF8?, s.isValidUTF8, dite_true]
    exact congrArg some (String.toByteArray_inj.mp rfl)
  rw [stringFromUtf8, okOr_eq_ok, array, decoded]

/-- The length bounds a verified chain name meets. -/
theorem TruncatedChainId.verify_length {chain : TruncatedChainId} (h : chain.verify = .ok ()) :
    3 ≤ chain.name.utf8ByteSize ∧ chain.name.utf8ByteSize ≤ 20 := by
  simp only [TruncatedChainId.verify] at h
  split_ifs at h with outside
  simp only [Bool.or_eq_true, decide_eq_true_eq, not_or, Nat.not_lt] at outside
  exact ⟨outside.1.2, outside.2⟩

theorem verifyChains_mem {chains : List TruncatedChainId} {u : Unit}
    (h : verifyChains chains = .ok u) :
    ∀ c ∈ chains, c.verify = .ok () ∧ c.name ≠ LOCAL := by
  induction chains with
  | nil => intro c hc; cases hc
  | cons chain rest ih =>
    simp only [verifyChains, bind_eq_ok, ensure_eq_ok] at h
    obtain ⟨_, verified, _, notLocal, later⟩ := h
    intro c hc
    cases hc with
    | head => exact ⟨verified, notLocal⟩
    | tail _ hc => exact ih later c hc

theorem AccountTrace.verify_chains {trace : AccountTrace} {u : Unit}
    (h : trace.verify = .ok u) :
    trace.chains.length ≤ MAX_TRACE_LENGTH ∧
      ∀ c ∈ trace.chains, c.verify = .ok () ∧ c.name ≠ LOCAL := by
  cases trace with
  | Local => exact ⟨Nat.zero_le _, fun c hc => by cases hc⟩
  | Remote chains =>
    simp only [AccountTrace.verify, bind_eq_ok, ensure_eq_ok] at h
    obtain ⟨_, short, verified⟩ := h
    exact ⟨short, verifyChains_mem verified⟩

theorem AccountId.new_eq_ok {seq : AccountSequence} {trace : AccountTrace} {id : AccountId} :
    AccountId.new seq trace = .ok id ↔ trace.verify = .ok () ∧ id = { seq, trace } := by
  simp only [AccountId.new, bind_eq_ok, pure_eq_ok]
  constructor
  · rintro ⟨_, verified, rfl⟩; exact ⟨verified, rfl⟩
  · rintro ⟨verified, rfl⟩; exact ⟨(), verified, rfl⟩

/-! ## Key elements -/

/-- The elements of a chain list, filled up to `n` with placeholders. -/
def paddedChains (chains : List TruncatedChainId) (n : Nat) : List Bytes :=
  chains.map (fun c => strBytes c.name) ++ List.replicate (n - chains.length) []

theorem AccountTrace.key_remote (chains : List TruncatedChainId) :
    (AccountTrace.Remote chains).key = paddedChains chains MAX_TRACE_LENGTH := by
  simp [AccountTrace.key, paddedChains]

theorem AccountTrace.key_local :
    AccountTrace.Local.key = paddedChains [⟨LOCAL⟩] MAX_TRACE_LENGTH := by
  simp [AccountTrace.key, paddedChains]

theorem paddedChains_length {chains : List TruncatedChainId} {n : Nat} (h : chains.length ≤ n) :
    (paddedChains chains n).length = n := by
  simp [paddedChains, h]

theorem paddedChains_short {chains : List TruncatedChainId} {n : Nat}
    (h : ∀ c ∈ chains, c.name.utf8ByteSize ≤ 20) :
    ∀ k ∈ paddedChains chains n, k.length < 65536 := by
  intro k hk
  simp only [paddedChains, List.mem_append, List.mem_map, List.mem_replicate] at hk
  rcases hk with ⟨c, hc, rfl⟩ | ⟨_, rfl⟩
  · have := h c hc
    rw [strBytes_length]; omega
  · simp

theorem AccountTrace.key_length {trace : AccountTrace} {u : Unit} (h : trace.verify = .ok u) :
    trace.key.length = MAX_TRACE_LENGTH := by
  cases trace with
  | Local => rw [key_local]; exact paddedChains_length (by decide)
  | Remote chains => rw [key_remote]; exact paddedChains_length (verify_chains h).1

theorem AccountTrace.key_short {trace : AccountTrace} {u : Unit} (h : trace.verify = .ok u) :
    ∀ k ∈ trace.key, k.length < 65536 := by
  cases trace with
  | Local =>
    rw [key_local]
    exact paddedChains_short (fun c hc => by simp only [List.mem_singleton] at hc; subst hc; decide)
  | Remote chains =>
    rw [key_remote]
    exact paddedChains_short fun c hc =>
      (TruncatedChainId.verify_length ((verify_chains h).2 c hc).1).2

/-- The placeholders are told apart from the names, which are never empty. -/
theorem paddedChains_injective {cs ds : List TruncatedChainId} {n : Nat}
    (hcs : ∀ c ∈ cs, 0 < c.name.utf8ByteSize) (hds : ∀ d ∈ ds, 0 < d.name.utf8ByteSize)
    (h : paddedChains cs n = paddedChains ds n) : cs = ds := by
  have names : ∀ {es : List TruncatedChainId}, (∀ e ∈ es, 0 < e.name.utf8ByteSize) →
      (paddedChains es n).filter (fun k => !k.isEmpty) = es.map (fun e => strBytes e.name) := by
    intro es hes
    rw [paddedChains, List.filter_append, List.filter_eq_self.mpr, List.filter_eq_nil_iff.mpr,
      List.append_nil]
    · simp
    · intro k hk
      obtain ⟨e, he, rfl⟩ := List.mem_map.mp hk
      have := hes e he
      rw [← strBytes_length, List.length_pos_iff] at this
      simpa using this
  have mapped := (names hcs).symm.trans ((congrArg _ h).trans (names hds))
  refine (List.map_injective_iff.mpr ?_) mapped
  intro c d hcd
  have := strBytes_injective hcd
  cases c; cases d; simp_all

/-- A verified trace is determined by its key elements. -/
theorem AccountTrace.key_injective {t t' : AccountTrace} {u u' : Unit}
    (h : t.verify = .ok u) (h' : t'.verify = .ok u') (hk : t.key = t'.key) : t = t' := by
  have positive : ∀ {t : AccountTrace} {u : Unit}, t.verify = .ok u →
      ∀ c ∈ t.chains, 0 < c.name.utf8ByteSize := fun hv c hc =>
    Nat.lt_of_lt_of_le (by decide) (TruncatedChainId.verify_length ((verify_chains hv).2 c hc).1).1
  have localName : ∀ c ∈ [(⟨LOCAL⟩ : TruncatedChainId)], 0 < c.name.utf8ByteSize := by
    intro c hc
    simp only [List.mem_singleton] at hc
    subst hc; decide
  -- a remote trace never has the element list of the local one: no name is `local`
  have remoteNotLocal : ∀ {cs : List TruncatedChainId} {u : Unit},
      (AccountTrace.Remote cs).verify = .ok u → (AccountTrace.Remote cs).key ≠ AccountTrace.Local.key := by
    intro cs u hv hkey
    rw [key_remote, key_local] at hkey
    have := paddedChains_injective (positive hv) localName hkey
    subst this
    exact ((verify_chains hv).2 ⟨LOCAL⟩ (by simp [chains])).2 rfl
  cases t with
  | Local =>
    cases t' with
    | Local => rfl
    | Remote ds => exact absurd hk.symm (remoteNotLocal h')
  | Remote cs =>
    cases t' with
    | Local => exact absurd hk (remoteNotLocal h)
    | Remote ds =>
      rw [key_remote, key_remote] at hk
      have same : cs = ds := paddedChains_injective (positive h) (positive h') hk
      rw [same]

/-! ## Sequence numbers -/

theorem seqFromVec_seqBytes (seq : AccountSequence) : seqFromVec (seqBytes seq) = .ok seq := by
  have bound : seq.toNat < 4294967296 := seq.toNat_lt
  simp only [seqBytes, seqFromVec, UInt8.toNat_ofNat', Except.ok.injEq]
  apply UInt32.toNat_inj.mp
  rw [UInt32.toNat_ofNat']
  omega

theorem seqBytes_injective {m n : AccountSequence} (h : seqBytes m = seqBytes n) : m = n := by
  have := (seqFromVec_seqBytes m).symm.trans ((congrArg seqFromVec h).trans (seqFromVec_seqBytes n))
  exact Except.ok.inj this

/-- Two verified identifiers with one storage key are the same identifier. -/
theorem AccountId.storageKey_injective {id id' : AccountId} {u u' : Unit}
    (h : id.trace.verify = .ok u) (h' : id'.trace.verify = .ok u')
    (hk : id.storageKey = id'.storageKey) : id = id' := by
  have arity : id.key.length = id'.key.length := by
    simp [AccountId.key, AccountTrace.key_length h, AccountTrace.key_length h']
  have keys : id.key = id'.key := by
    refine joinedKey_injective arity ?_ ?_ hk
    · simpa [AccountId.key] using AccountTrace.key_short h
    · simpa [AccountId.key] using AccountTrace.key_short h'
  obtain ⟨traces, seqs⟩ := List.append_inj keys
    (by rw [AccountTrace.key_length h, AccountTrace.key_length h'])
  have sameTrace := AccountTrace.key_injective h h' traces
  have sameSeq := seqBytes_injective (List.cons.inj seqs).1
  cases id; cases id'; simp_all

/-- Pushing a chain onto verified traces keeps them apart, also when they get too long. -/
theorem AccountId.pushChain_storageKey {id id' : AccountId} {chain : TruncatedChainId}
    (h : id.trace.verify = .ok ()) (h' : id'.trace.verify = .ok ()) (hc : chain.verify = .ok ())
    (hk : (id.pushChain chain).storageKey = (id'.pushChain chain).storageKey) :
    id.trace.chains = id'.trace.chains ∧ id.seq = id'.seq := by
  have bounds : ∀ {i : AccountId}, i.trace.verify = .ok () →
      ∀ c ∈ i.trace.chains ++ [chain], 3 ≤ c.name.utf8ByteSize ∧ c.name.utf8ByteSize ≤ 20 := by
    intro i verified c hc'
    rcases List.mem_append.mp hc' with inTrace | isChain
    · exact TruncatedChainId.verify_length ((AccountTrace.verify_chains verified).2 c inTrace).1
    · rw [List.mem_singleton.mp isChain]
      exact TruncatedChainId.verify_length hc
  have pushed : ∀ i : AccountId, (i.pushChain chain).key =
      paddedChains (i.trace.chains ++ [chain]) MAX_TRACE_LENGTH ++ [seqBytes i.seq] := by
    intro i
    rw [AccountId.pushChain_eq, AccountId.key, AccountTrace.key_remote]
  have short : ∀ {i : AccountId}, i.trace.verify = .ok () →
      ∀ k ∈ (i.pushChain chain).key.dropLast, k.length < 65536 := by
    intro i verified k hk'
    rw [pushed, List.dropLast_concat] at hk'
    exact paddedChains_short (fun c hc' => (bounds verified c hc').2) k hk'
  have last : ∀ i : AccountId, (i.pushChain chain).key.getLast? = some (seqBytes i.seq) := by
    intro i
    rw [pushed, List.getLast?_concat]
  have keys : (id.pushChain chain).key = (id'.pushChain chain).key :=
    joinedKey_injective_last (last id) (last id') rfl (short h) (short h') hk
  rw [pushed, pushed] at keys
  obtain ⟨padded, seqs⟩ := List.append_inj' keys rfl
  refine ⟨?_, seqBytes_injective (List.cons.inj seqs).1⟩
  refine List.append_cancel_right (paddedChains_injective ?_ ?_ padded)
  · exact fun c hc' => Nat.lt_of_lt_of_le (by decide) (bounds h c hc').1
  · exact fun c hc' => Nat.lt_of_lt_of_le (by decide) (bounds h' c hc').1

/-! ## Decoding -/

/-- Splitting off the first elements of a joined key leaves the joined rest. -/
theorem splitFirstKeyLoop_joinedKey {ks : List Bytes} (r : Bytes) (rs : List Bytes)
    (acc : Bytes) (nonempty : ks ≠ []) (short : ∀ k ∈ ks, k.length < 65536) :
    splitFirstKeyLoop ks.length acc (joinedKey (ks ++ r :: rs)) =
      .ok (acc ++ joinedKey ks, joinedKey (r :: rs)) := by
  induction ks generalizing acc with
  | nil => exact absurd rfl nonempty
  | cons k ks ih =>
    have hk := decodeLength_encodeLength (short k List.mem_cons_self)
    cases ks with
    | nil =>
      rw [List.singleton_append, joinedKey_cons_cons]
      simp [encodeLength, splitFirstKeyLoop, hk, joinedKey]
    | cons k' ks =>
      have later := ih (acc ++ encodeLength k.length ++ k) (by simp)
        (fun x hx => short x (List.mem_cons_of_mem k hx))
      rw [List.cons_append, List.cons_append, joinedKey_cons_cons, joinedKey_cons_cons]
      simp only [List.length_cons, encodeLength, List.cons_append, List.nil_append,
        splitFirstKeyLoop, hk] at later ⊢
      simpa [List.append_assoc] using later

theorem splitFirstKey_one (k r : Bytes) (rs : List Bytes) (h : k.length < 65536) :
    splitFirstKey 1 (joinedKey (k :: r :: rs)) = .ok (k, joinedKey (r :: rs)) := by
  have := splitFirstKeyLoop_joinedKey r rs [] (List.cons_ne_nil k []) (by simpa using h)
  simpa [splitFirstKey, joinedKey] using this

/-- The decoding loop reads one chain name for each index it visits, and skips
    placeholders.  The element after the last index is never read. -/
theorem traceFromVecLoop_paddedChains {chains : List TruncatedChainId}
    (verified : ∀ c ∈ chains, c.verify = .ok () ∧ c.name ≠ LOCAL)
    (is : List Nat) (trace : List TruncatedChainId) (fits : chains.length ≤ is.length + 1) :
    traceFromVecLoop is trace (joinedKey (paddedChains chains (is.length + 1))) =
      .ok (.Remote (trace ++ chains.take is.length)) := by
  induction is generalizing chains trace with
  | nil => simp [traceFromVecLoop]
  | cons i is ih =>
    cases chains with
    | nil =>
      have pads : paddedChains [] ((i :: is).length + 1) = [] :: [] :: List.replicate is.length [] := by
        simp [paddedChains, List.replicate_succ]
      have rest : paddedChains [] (is.length + 1) = [] :: List.replicate is.length [] := by
        simp [paddedChains, List.replicate_succ]
      have later := @ih [] (by simp) trace (by simp)
      rw [rest] at later
      rw [pads, traceFromVecLoop, splitFirstKey_one _ _ _ (by simp)]
      simpa [bind, Except.bind] using later
    | cons c cs =>
      obtain ⟨hc, notLocal⟩ := verified c List.mem_cons_self
      have size := TruncatedChainId.verify_length hc
      obtain ⟨r, rs, tail⟩ : ∃ r rs, paddedChains cs (is.length + 1) = r :: rs := by
        apply List.exists_cons_of_length_pos
        rw [paddedChains_length (by simpa using fits)]
        exact Nat.succ_pos _
      have split : paddedChains (c :: cs) ((i :: is).length + 1) = strBytes c.name :: r :: rs := by
        rw [← tail]
        simp [paddedChains]
      have nonempty : strBytes c.name ≠ [] := by
        rw [ne_eq, ← List.length_eq_zero_iff, strBytes_length]; omega
      have chain : TruncatedChainId.fromString c.name = .ok c := by
        simp [TruncatedChainId.fromString, hc]
      have later := ih (fun d hd => verified d (List.mem_cons_of_mem c hd)) (trace ++ [c])
        (by simpa using fits)
      rw [tail] at later
      rw [split, traceFromVecLoop, splitFirstKey_one _ _ _ (by rw [strBytes_length]; omega)]
      simpa [bind, Except.bind, nonempty, stringFromUtf8_strBytes, notLocal, chain,
        Except.mapError] using later

/-- The part of a trace the decoder reads. -/
def AccountTrace.decoded : AccountTrace → AccountTrace
  | .Local => .Local
  | .Remote chains => .Remote (chains.take (MAX_TRACE_LENGTH - 1))

theorem AccountTrace.fromVec_key {trace : AccountTrace} {u : Unit} (h : trace.verify = .ok u) :
    AccountTrace.fromVec (joinedKey trace.key) = .ok trace.decoded := by
  cases trace with
  | Local => clear h; decide
  | Remote cs =>
    obtain ⟨short, verified⟩ : cs.length ≤ 6 ∧ ∀ c ∈ cs, c.verify = .ok () ∧ c.name ≠ LOCAL :=
      verify_chains h
    have := traceFromVecLoop_paddedChains verified (List.range (MAX_TRACE_LENGTH - 1)) []
      (by simpa [MAX_TRACE_LENGTH] using short)
    rw [key_remote]
    simpa [AccountTrace.fromVec, AccountTrace.decoded, MAX_TRACE_LENGTH] using this

/-- What the decoder returns for the storage key of a verified identifier. -/
theorem AccountId.fromVec_storageKey_eq {id : AccountId} {u : Unit} (h : id.trace.verify = .ok u) :
    AccountId.fromVec id.storageKey = .ok { seq := id.seq, trace := id.trace.decoded } := by
  have nonempty : id.trace.key ≠ [] := by
    rw [← List.length_pos_iff, AccountTrace.key_length h]; decide
  have split := splitFirstKeyLoop_joinedKey (seqBytes id.seq) [] [] nonempty
    (AccountTrace.key_short h)
  rw [AccountTrace.key_length h, List.nil_append] at split
  simp only [AccountId.fromVec, splitFirstKey, AccountId.storageKey, AccountId.key, split,
    joinedKey, bind, Except.bind, seqFromVec_seqBytes, AccountTrace.fromVec_key h, pure, Except.pure]

/-- Decoding the storage key of an accepted identifier gives it back exactly
    when its trace leaves the last trace element of the key unused. -/
theorem AccountId.fromVec_storageKey {seq : AccountSequence} {trace : AccountTrace} {id : AccountId}
    (accepted : AccountId.new seq trace = .ok id) :
    AccountId.fromVec id.storageKey = .ok id ↔ id.trace.chains.length < MAX_TRACE_LENGTH := by
  obtain ⟨verified, rfl⟩ := AccountId.new_eq_ok.mp accepted
  have short := (AccountTrace.verify_chains verified).1
  rw [AccountId.fromVec_storageKey_eq verified]
  cases trace with
  | Local => simp [AccountTrace.chains, AccountTrace.decoded, MAX_TRACE_LENGTH]
  | Remote chains =>
    simp only [AccountTrace.chains, AccountTrace.decoded, MAX_TRACE_LENGTH] at short ⊢
    rw [Except.ok.injEq, AccountId.mk.injEq, AccountTrace.Remote.injEq, List.take_eq_self_iff]
    simp only [and_true]
    omega

theorem AccountTrace.decoded_of_short {trace : AccountTrace}
    (short : trace.chains.length < MAX_TRACE_LENGTH) : trace.decoded = trace := by
  cases trace with
  | Local => rfl
  | Remote chains =>
    have whole : chains.take (MAX_TRACE_LENGTH - 1) = chains :=
      List.take_of_length_le (Nat.le_sub_one_of_lt short)
    rw [AccountTrace.decoded, whole]

theorem AccountTrace.decoded_short (trace : AccountTrace) :
    trace.decoded.chains.length < MAX_TRACE_LENGTH := by
  cases trace with
  | Local => decide
  | Remote chains =>
    have : (chains.take (MAX_TRACE_LENGTH - 1)).length ≤ MAX_TRACE_LENGTH - 1 :=
      List.length_take_le _ _
    exact Nat.lt_of_le_sub_one (by decide) this

/-- What an identifier that uses the last trace element is decoded to comes before it. -/
theorem AccountId.storageKey_decoded_lt {id : AccountId} {u : Unit} (h : id.trace.verify = .ok u)
    (full : ¬ id.trace.chains.length < MAX_TRACE_LENGTH) :
    ({ id with trace := id.trace.decoded } : AccountId).storageKey < id.storageKey := by
  obtain ⟨short, verified⟩ := AccountTrace.verify_chains h
  have six : id.trace.chains.length = MAX_TRACE_LENGTH :=
    Nat.le_antisymm short (Nat.not_lt.mp full)
  obtain ⟨trace, seq⟩ := id
  cases trace with
  | Local => cases six
  | Remote chains =>
    obtain ⟨front, last, rfl⟩ : ∃ front last, chains = front ++ [last] := by
      refine ⟨chains.dropLast, chains.getLast ?_, (List.dropLast_append_getLast _).symm⟩
      rintro rfl
      cases six
    have five : front.length = 5 := by
      simpa [AccountTrace.chains, MAX_TRACE_LENGTH] using six
    have size := TruncatedChainId.verify_length (verified last (by simp [AccountTrace.chains])).1
    have key : (AccountId.mk (.Remote (front ++ [last])) seq).key =
        front.map (fun c => strBytes c.name) ++ [strBytes last.name, seqBytes seq] := by
      simp [AccountId.key, AccountTrace.key, five, MAX_TRACE_LENGTH]
    have key' : (AccountId.mk (AccountTrace.Remote (front ++ [last])).decoded seq).key =
        front.map (fun c => strBytes c.name) ++ [[], seqBytes seq] := by
      simp [AccountId.key, AccountTrace.key, AccountTrace.decoded, five, MAX_TRACE_LENGTH]
    rw [AccountId.storageKey, AccountId.storageKey, key, key']
    apply joinedKey_append_lt _ (by simp) (by simp)
    -- the placeholder has the length zero
    have length : (strBytes last.name).length = last.name.utf8ByteSize := strBytes_length _
    have less : (0 : UInt8) < UInt8.ofNat (last.name.utf8ByteSize % 256) := by
      rw [UInt8.lt_iff_toNat_lt, UInt8.toNat_ofNat']
      simp only [UInt8.toNat_zero]
      omega
    have zero : last.name.utf8ByteSize / 256 = 0 := by omega
    simp [joinedKey, encodeLength, length, zero, less, List.cons_lt_cons_iff]

/-- Two hops decode to themselves. -/
theorem AccountId.fromVec_storageKey_two_hops :
    AccountId.new 7 (.Remote [⟨"juno"⟩, ⟨"osmosis"⟩]) =
        .ok { seq := 7, trace := .Remote [⟨"juno"⟩, ⟨"osmosis"⟩] } ∧
      AccountId.fromVec (AccountId.storageKey { seq := 7, trace := .Remote [⟨"juno"⟩, ⟨"osmosis"⟩] }) =
        .ok { seq := 7, trace := .Remote [⟨"juno"⟩, ⟨"osmosis"⟩] } := by
  have accepted : AccountId.new 7 (.Remote [⟨"juno"⟩, ⟨"osmosis"⟩]) =
      .ok { seq := 7, trace := .Remote [⟨"juno"⟩, ⟨"osmosis"⟩] } := by decide
  exact ⟨accepted, (AccountId.fromVec_storageKey accepted).mpr (by decide)⟩

/-- Six hops pass validation, and the decoder loses the sixth. -/
theorem AccountId.fromVec_storageKey_six_hops :
    let chains : List TruncatedChainId :=
      [⟨"juno"⟩, ⟨"osmosis"⟩, ⟨"terra"⟩, ⟨"kujira"⟩, ⟨"neutron"⟩, ⟨"archway"⟩]
    AccountId.new 7 (.Remote chains) = .ok { seq := 7, trace := .Remote chains } ∧
      AccountId.fromVec (AccountId.storageKey { seq := 7, trace := .Remote chains }) =
        .ok { seq := 7, trace := .Remote (chains.take 5) } ∧
      AccountId.fromVec (AccountId.storageKey { seq := 7, trace := .Remote chains }) ≠
        .ok { seq := 7, trace := .Remote chains } := by
  decide

end AbstractFramework
