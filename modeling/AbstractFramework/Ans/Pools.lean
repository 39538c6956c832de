import Mathlib.Data.List.Count
import AbstractFramework.Ans.AssetNames

/-! # The index of pools

The name service finds the pools of a dex by two assets.  A pool is entered under every pair
of positions of its assets that hold different names, and taken out of the lists of all these
pairs when it is removed.  Names that a pool lists several times are not checked for: such a
pool is entered once for every pair of positions.
-/

namespace AbstractFramework.Ans

open AbstractFramework Fallible Storage Sdk Machine

/-! ## Pairs of assets -/

/-- Only the names decide which positions are skipped. -/
theorem execOnAssetPairings_eq (assets : List AssetEntry) :
    execOnAssetPairings assets = assets.flatMap fun assetX =>
      assets.filterMap fun assetY => if assetX = assetY then none else some (assetX, assetY) := by
  have skipped : ∀ e ∈ assets.zipIdx, ∀ e' ∈ assets.zipIdx,
      (e.2 = e'.2 ∨ e.1 = e'.1) ↔ e.1 = e'.1 := by
    intro e listed e' listed'
    rw [List.mem_zipIdx_iff_getElem?] at listed listed'
    refine ⟨fun h => h.elim (fun same => ?_) id, .inr⟩
    rw [same, listed'] at listed
    exact (Option.some.inj listed).symm
  have inner : ∀ e ∈ assets.zipIdx, (assets.zipIdx.filterMap fun e' : AssetEntry × Nat =>
      if e.2 = e'.2 ∨ e.1 = e'.1 then none else some (e.1, e'.1)) =
        assets.filterMap fun assetY => if e.1 = assetY then none else some (e.1, assetY) := by
    intro e listed
    conv_rhs => rw [← List.zipIdx_map_fst 0 assets, List.filterMap_map]
    refine List.filterMap_congr fun e' listed' => ?_
    simp only [skipped e listed e' listed', Function.comp_apply]
  conv_rhs => rw [← List.zipIdx_map_fst 0 assets, List.flatMap_map]
  rw [execOnAssetPairings, List.zipIdx_map_fst]
  exact List.flatMap_congr inner

theorem count_pairs_with (assets : List AssetEntry) (first assetX assetY : AssetEntry) :
    (assets.filterMap fun other => if first = other then none else some (first, other)).count
        (assetX, assetY) =
      if first = assetX ∧ assetX ≠ assetY then assets.count assetY else 0 := by
  induction assets with
  | nil => simp
  | cons asset assets ih =>
    rw [List.filterMap_cons]
    by_cases same : first = asset
    · rw [if_pos same, ih]
      subst same
      refine if_ctx_congr Iff.rfl (fun h => ?_) fun _ => rfl
      rw [List.count_cons_of_ne]
      rw [h.1]
      exact h.2
    · rw [if_neg same, List.count_cons, ih, List.count_cons]
      by_cases isFirst : first = assetX
      · subst isFirst
        by_cases isSecond : asset = assetY
        · subst isSecond
          simp [same]
        · simp [isSecond]
      · simp [isFirst]

/-- A pair of names occurs once for every pair of positions that hold them. -/
theorem count_execOnAssetPairings (assets : List AssetEntry) (assetX assetY : AssetEntry) :
    (execOnAssetPairings assets).count (assetX, assetY) =
      if assetX = assetY then 0 else assets.count assetX * assets.count assetY := by
  have firsts : ∀ l : List AssetEntry,
      (l.flatMap fun first => assets.filterMap fun other =>
          if first = other then none else some (first, other)).count (assetX, assetY) =
        if assetX = assetY then 0 else l.count assetX * assets.count assetY := by
    intro l
    induction l with
    | nil => simp
    | cons first l ih =>
      rw [List.flatMap_cons, List.count_append, count_pairs_with, ih, List.count_cons]
      by_cases same : assetX = assetY
      · simp [same]
      · by_cases isFirst : first = assetX
        · simp [same, isFirst, Nat.add_mul, Nat.add_comm]
        · simp [same, isFirst]
  rw [execOnAssetPairings_eq]
  exact firsts assets

theorem new_eq_iff {assetX assetY : AssetEntry} {dex : DexName} {pairing : DexAssetPairing} :
    DexAssetPairing.new assetX assetY dex = pairing ↔
      (assetX, assetY) = (pairing.assetX, pairing.assetY) ∧ toAsciiLowercase dex = pairing.dex := by
  cases pairing
  simp [DexAssetPairing.new, and_assoc]

theorem count_pairingsOf (dex : DexName) (assets : List AssetEntry) (pairing : DexAssetPairing) :
    (pairingsOf dex assets).count pairing =
      if toAsciiLowercase dex = pairing.dex ∧ pairing.assetX ≠ pairing.assetY then
        assets.count pairing.assetX * assets.count pairing.assetY
      else 0 := by
  have keys : pairingsOf dex assets =
      (execOnAssetPairings assets).map fun e => DexAssetPairing.new e.1 e.2 dex := rfl
  rw [keys, List.count, List.countP_map]
  by_cases onDex : toAsciiLowercase dex = pairing.dex
  · have same : (execOnAssetPairings assets).countP
        ((· == pairing) ∘ fun e => DexAssetPairing.new e.1 e.2 dex) =
          (execOnAssetPairings assets).count (pairing.assetX, pairing.assetY) :=
      List.countP_congr fun e _ => by simp [new_eq_iff, onDex]
    rw [same, count_execOnAssetPairings]
    by_cases equal : pairing.assetX = pairing.assetY
    · simp [equal]
    · simp [equal, onDex]
  · rw [if_neg fun h => onDex h.1, List.countP_eq_zero]
    intro e _
    simp [new_eq_iff, onDex]

/-- Where no name is listed twice, a pair of listed names occurs once. -/
theorem count_pairingsOf_of_nodup {dex : DexName} {assets : List AssetEntry}
    (distinct : assets.Nodup) (pairing : DexAssetPairing) :
    (pairingsOf dex assets).count pairing =
      if toAsciiLowercase dex = pairing.dex ∧ pairing.assetX ≠ pairing.assetY ∧
        pairing.assetX ∈ assets ∧ pairing.assetY ∈ assets then 1 else 0 := by
  rw [count_pairingsOf, distinct.count, distinct.count]
  by_cases first : pairing.assetX ∈ assets <;> by_cases second : pairing.assetY ∈ assets <;>
    simp [first, second]

/-! ## The invariant -/

section Index

variable [Crates] {s s' : AnsState} {i : Input}

/-- How often a pool is entered under a pairing. -/
def timesListed (pairing : DexAssetPairing) : Option PoolMetadata → Nat
  | some pool =>
    if toAsciiLowercase pool.dex = pairing.dex ∧ pairing.assetX ≠ pairing.assetY then
      pool.assets.count pairing.assetX * pool.assets.count pairing.assetY
    else 0
  | none => 0

/-- How often the pool with the id is referred to under the pairing. -/
def references (pairings : Map DexAssetPairing (List PoolReference)) (pairing : DexAssetPairing)
    (id : UniquePoolId) : Nat :=
  (bucket pairings pairing).countP fun reference => reference.uniqueId = id

/-- The pairings list the pools of the metadata, each under its own id. -/
structure PoolIndex (pairings : Map DexAssetPairing (List PoolReference))
    (pools : Map UniquePoolId PoolMetadata) (next : UniquePoolId) : Prop where
  listed : ∀ pairing id, references pairings pairing id = timesListed pairing (pools.lookup id)
  noEmpty : NoEmpty pairings
  below : ∀ id ∈ pools, id < next

variable {pairings : Map DexAssetPairing (List PoolReference)}
  {pools : Map UniquePoolId PoolMetadata} {next : UniquePoolId}

omit [Crates] in
theorem references_register (id : UniquePoolId) (address : PoolAddress) (assets : List AssetEntry)
    (dex : DexName) (pairing : DexAssetPairing) (id' : UniquePoolId) :
    references (registerPoolPairings pairings id address assets dex) pairing id' =
      references pairings pairing id' +
        if id' = id then (pairingsOf dex assets).count pairing else 0 := by
  rw [references, registerPoolPairings, bucket_pushAll, List.countP_append, references,
    List.countP_replicate]
  by_cases same : id' = id
  · simp [same]
  · simp [same, Ne.symm same]

omit [Crates] in
theorem references_remove (id : UniquePoolId) (assets : List AssetEntry) (dex : DexName)
    (pairing : DexAssetPairing) (id' : UniquePoolId) :
    references (removePoolPairings pairings id dex assets) pairing id' =
      if id' = id ∧ pairing ∈ pairingsOf dex assets then 0 else references pairings pairing id' := by
  rw [references, removePoolPairings, bucket_retainAll, references]
  by_cases listed : pairing ∈ pairingsOf dex assets
  · rw [if_pos listed, List.countP_filter]
    by_cases same : id' = id
    · simp [same, listed]
    · simp only [same, false_and, if_false]
      refine List.countP_congr fun reference _ => ?_
      simp only [Bool.and_eq_true, decide_eq_true_eq, ne_eq]
      exact ⟨fun h => h.1, fun h => ⟨h, fun h' => same (h.symm.trans h')⟩⟩
  · rw [if_neg listed, if_neg fun h => listed h.2]

omit [Crates] in
/-- A pool is entered once for each of the pairings that are written for it. -/
theorem timesListed_some (pairing : DexAssetPairing) (pool : PoolMetadata) :
    timesListed pairing (some pool) = (pairingsOf pool.dex pool.assets).count pairing :=
  (count_pairingsOf pool.dex pool.assets pairing).symm

omit [Crates] in
/-- A pool is added under the next id. -/
theorem PoolIndex.add (index : PoolIndex pairings pools next) (address : PoolAddress)
    (pool : PoolMetadata) :
    PoolIndex (registerPoolPairings pairings next address pool.assets (toAsciiLowercase pool.dex))
      (pools.insert next pool) (next + 1) where
  listed pairing id := by
    have keys : pairingsOf (toAsciiLowercase pool.dex) pool.assets =
        pairingsOf pool.dex pool.assets := by
      simp [pairingsOf, DexAssetPairing.new, toAsciiLowercase_idem]
    rw [references_register, index.listed, lookup_insert_ite, keys]
    by_cases new : id = next
    · subst new
      have free : pools.lookup id = none :=
        AList.lookup_eq_none.mpr fun listed => Nat.lt_irrefl _ (index.below id listed)
      rw [if_pos rfl, if_pos rfl, free, timesListed_some, timesListed, Nat.zero_add]
    · rw [if_neg new, if_neg new, Nat.add_zero]
  noEmpty := index.noEmpty.pushAll _ _
  below id listed := by
    rcases (AList.mem_insert _).mp listed with rfl | old
    · exact Nat.lt_succ_self _
    · exact Nat.lt_succ_of_lt (index.below id old)

omit [Crates] in
/-- A pool is removed under the pairings of its metadata. -/
theorem PoolIndex.remove (index : PoolIndex pairings pools next) {id : UniquePoolId}
    {pool : PoolMetadata} (found : pools.lookup id = some pool) :
    PoolIndex (removePoolPairings pairings id pool.dex pool.assets) (pools.erase id) next where
  listed pairing id' := by
    rw [references_remove, lookup_erase_ite]
    by_cases same : id' = id
    · subst same
      rw [if_pos rfl, timesListed]
      split
      · rfl
      · rename_i without
        rw [index.listed, found, timesListed_some, List.count_eq_zero]
        exact fun listed => without ⟨rfl, listed⟩
    · rw [if_neg same, if_neg fun h => same h.1, index.listed]
  noEmpty := index.noEmpty.retainAll _
  below id' listed := index.below id' (AList.mem_erase.mp listed).2

/-! ## Messages -/

def HasIndex (s : AnsState) : Prop := PoolIndex s.assetPairings s.poolMetadata s.nextUniquePoolId

/-- The pools and their index are as before. -/
def SamePools (s s' : AnsState) : Prop :=
  s'.assetPairings = s.assetPairings ∧ s'.poolMetadata = s.poolMetadata ∧
    s'.nextUniquePoolId = s.nextUniquePoolId

theorem HasIndex.congr (index : HasIndex s) (same : SamePools s s') : HasIndex s' := by
  rw [HasIndex, same.1, same.2.1, same.2.2]
  exact index

theorem removePools_index (index : PoolIndex s.assetPairings s.poolMetadata next)
    (toRemove : List UniquePoolId) :
    PoolIndex (toRemove.foldl removePool s).assetPairings
      (toRemove.foldl removePool s).poolMetadata next := by
  induction toRemove generalizing s with
  | nil => exact index
  | cons id toRemove ih =>
    rw [List.foldl_cons]
    apply ih
    unfold removePool
    split
    · rename_i pool found
      exact index.remove found
    · exact index

theorem removePools_mem {toRemove : List UniquePoolId} {id : UniquePoolId}
    (h : id ∈ (toRemove.foldl removePool s).poolMetadata) : id ∈ s.poolMetadata := by
  induction toRemove generalizing s with
  | nil => exact h
  | cons id' toRemove ih =>
    have earlier := ih h
    unfold removePool at earlier
    split at earlier
    · exact (AList.mem_erase.mp earlier).2
    · exact earlier

/-- The loop over the pools to add, which starts at `s`. -/
structure Adding (s : AnsState) (loop : PoolLoop) : Prop where
  index : PoolIndex loop.state.assetPairings loop.state.poolMetadata loop.nextUniquePoolId
  ascending : loop.given.Pairwise (· < ·)
  between : ∀ id ∈ loop.given, s.nextUniquePoolId ≤ id ∧ id < loop.nextUniquePoolId
  forward : s.nextUniquePoolId ≤ loop.nextUniquePoolId
  known : ∀ id ∈ loop.state.poolMetadata, id ∈ s.poolMetadata ∨ id ∈ loop.given

theorem Adding.addPool {registeredDexes : List DexName} {loop loop' : PoolLoop}
    {entry : UncheckedPoolAddress × PoolMetadata} (adding : Adding s loop)
    (ok : addPool i registeredDexes loop entry = .ok loop') : Adding s loop' := by
  simp only [Ans.addPool, bind_eq_ok, pure_eq_ok, increment] at ok
  obtain ⟨address, _, assets, _, _, _, next, incremented, rfl⟩ := ok
  split at incremented
  · cases incremented
    exact {
      index := adding.index.add address { entry.2 with assets }
      ascending := by
        rw [List.pairwise_append]
        refine ⟨adding.ascending, List.pairwise_singleton _ _, fun id given next isNext => ?_⟩
        rw [List.mem_singleton.mp isNext]
        exact (adding.between id given).2
      between := by
        intro id given
        rcases List.mem_append.mp given with old | new
        · have earlier := adding.between id old
          exact ⟨earlier.1, Nat.lt_succ_of_lt earlier.2⟩
        · rw [List.mem_singleton.mp new]
          exact ⟨adding.forward, Nat.lt_succ_self _⟩
      forward := Nat.le_succ_of_le adding.forward
      known := by
        intro id listed
        rcases (AList.mem_insert _).mp listed with rfl | old
        · exact .inr (by simp)
        · rcases adding.known id old with earlier | given
          · exact .inl earlier
          · exact .inr (List.mem_append_left _ given) }
  · cases incremented

theorem updatePools_ok {toAdd : List (UncheckedPoolAddress × PoolMetadata)}
    {toRemove : List UniquePoolId} {given : List UniquePoolId} (index : HasIndex s)
    (ok : updatePools i toAdd toRemove s = .ok (s', given)) :
    HasIndex s' ∧ given.Pairwise (· < ·) ∧
      (∀ id ∈ given, s.nextUniquePoolId ≤ id ∧ id < s'.nextUniquePoolId) ∧
      s.nextUniquePoolId ≤ s'.nextUniquePoolId ∧
      ∀ id ∈ s'.poolMetadata, id ∈ s.poolMetadata ∨ id ∈ given := by
  simp only [updatePools, bind_eq_ok, pure_eq_ok, Prod.mk.injEq] at ok
  obtain ⟨_, _, dexes, _, loop, done, rfl, rfl⟩ := ok
  have start : Adding s { state := s, nextUniquePoolId := s.nextUniquePoolId, given := [] } :=
    { index
      ascending := .nil
      between := by simp
      forward := Nat.le_refl _
      known := fun id listed => .inl listed }
  have adding := foldlM_invariant (fun _ _ _ _ adding ok => Adding.addPool adding ok) start done
  exact ⟨removePools_index adding.index toRemove, adding.ascending, adding.between, adding.forward,
    fun id listed => adding.known id (removePools_mem listed)⟩

theorem updateAssetAddresses_pools {toAdd : List (String × AssetInfoUnchecked)}
    {toRemove : List String} (ok : updateAssetAddresses i toAdd toRemove s = .ok s') :
    SamePools s s' := by
  simp only [updateAssetAddresses, bind_eq_ok, pure_eq_ok] at ok
  obtain ⟨_, _, m, saved, rfl⟩ := ok
  have added : SamePools s m := by
    refine foldlM_invariant (P := fun m => SamePools s m) ?_ ⟨rfl, rfl, rfl⟩ saved
    intro m entry m' _ same ok
    simp only [saveAsset, bind_eq_ok, pure_eq_ok] at ok
    obtain ⟨_, _, rfl⟩ := ok
    exact same
  clear saved
  induction toRemove generalizing m with
  | nil => exact added
  | cons name toRemove ih =>
    apply ih
    simp only [removeAsset]
    split <;> exact added

/-- The other messages leave the pools and give no ids. -/
theorem execute_pools {given : List UniquePoolId}
    (other : ∀ toAdd toRemove, i.msg ≠ .UpdatePools toAdd toRemove)
    (ok : execute i s = .ok (s', given)) : SamePools s s' ∧ given = [] := by
  unfold execute at ok
  split at ok
  · simp only [bind_eq_ok, pure_eq_ok, Prod.mk.injEq] at ok
    obtain ⟨_, ok, rfl, rfl⟩ := ok
    exact ⟨updateAssetAddresses_pools ok, rfl⟩
  · simp only [bind_eq_ok, pure_eq_ok, Prod.mk.injEq] at ok
    obtain ⟨_, ok, rfl, rfl⟩ := ok
    obtain ⟨_, rfl⟩ := updateDexRegistry_ok ok
    exact ⟨⟨rfl, rfl, rfl⟩, rfl⟩
  · exact absurd ‹_› (other _ _)
  · simp only [updateOwnership, bind_eq_ok, pure_eq_ok, Prod.mk.injEq] at ok
    obtain ⟨_, ⟨_, _, rfl⟩, rfl, rfl⟩ := ok
    exact ⟨⟨rfl, rfl, rfl⟩, rfl⟩

/-! ## Runs -/

/-- The ids that the messages of a history give to pools, in their order. -/
def givenIds (log : List (AnsState × Input × List UniquePoolId)) : List UniquePoolId :=
  log.flatMap fun e => e.2.2

structure PoolHistory (s : AnsState) (ids : List UniquePoolId) : Prop where
  index : HasIndex s
  ascending : ids.Pairwise (· < ·)
  below : ∀ id ∈ ids, id < s.nextUniquePoolId
  known : ∀ id ∈ s.poolMetadata, id ∈ ids

theorem PoolHistory.execute {ids given : List UniquePoolId} (before : PoolHistory s ids)
    (ok : execute i s = .ok (s', given)) : PoolHistory s' (ids ++ given) := by
  by_cases pools : ∃ toAdd toRemove, i.msg = .UpdatePools toAdd toRemove
  · obtain ⟨toAdd, toRemove, msg⟩ := pools
    rw [Ans.execute, msg] at ok
    obtain ⟨index, ascending, between, forward, known⟩ := updatePools_ok before.index ok
    refine ⟨index, List.pairwise_append.mpr ⟨before.ascending, ascending, ?_⟩, ?_, ?_⟩
    · intro id earlier id' later
      exact Nat.lt_of_lt_of_le (before.below id earlier) (between id' later).1
    · intro id listed
      rcases List.mem_append.mp listed with earlier | later
      · exact Nat.lt_of_lt_of_le (before.below id earlier) forward
      · exact (between id later).2
    · intro id listed
      rw [List.mem_append]
      exact (known id listed).imp (before.known id) fun given => given
  · obtain ⟨same, rfl⟩ := execute_pools (fun toAdd toRemove msg => pools ⟨toAdd, toRemove, msg⟩) ok
    rw [List.append_nil]
    refine ⟨before.index.congr same, before.ascending, ?_, ?_⟩
    · rw [same.2.2]
      exact before.below
    · rw [same.2.1]
      exact before.known

/-- In every reachable state a pool is referred to once for each two positions of its assets
    that hold the names of a pairing on its dex, so once if no name is listed twice, and not
    otherwise; no list is empty; and the ids given to pools, those of the stored ones among
    them, are all different and below the next one. -/
theorem pool_index_exact {address : Addr} {addrValidate : String → Except StdError Addr}
    {msg : InstantiateMsg} {start : AnsState}
    (instantiated : instantiate address addrValidate msg = .ok start) (inputs : List Input) :
    let s := run execute start inputs
    let ids := givenIds (history execute start inputs)
    (∀ pairing id, references s.assetPairings pairing id =
      timesListed pairing (s.poolMetadata.lookup id)) ∧
    (∀ pairing id pool, s.poolMetadata.lookup id = some pool → pool.assets.Nodup →
      references s.assetPairings pairing id =
        if toAsciiLowercase pool.dex = pairing.dex ∧ pairing.assetX ≠ pairing.assetY ∧
          pairing.assetX ∈ pool.assets ∧ pairing.assetY ∈ pool.assets then 1 else 0) ∧
    (∀ pairing, s.assetPairings.lookup pairing ≠ some []) ∧
    (∀ id ∈ s.poolMetadata, id < s.nextUniquePoolId) ∧
    ids.Nodup ∧ (∀ id ∈ ids, id < s.nextUniquePoolId) ∧ ∀ id ∈ s.poolMetadata, id ∈ ids := by
  have final : PoolHistory (run execute start inputs) (givenIds (history execute start inputs)) := by
    refine run_history (P := fun s log => PoolHistory s (givenIds log)) inputs ?_ ?_
    · intro s log i s' given before ok
      rw [givenIds, List.flatMap_append, List.flatMap_singleton]
      exact before.execute ok
    · simp only [instantiate, bind_eq_ok, mapError_eq_ok, pure_eq_ok] at instantiated
      obtain ⟨_, _, rfl⟩ := instantiated
      exact {
        index := {
          listed := fun _ _ => rfl
          noEmpty := fun _ => by simp
          below := fun _ listed => absurd listed (AList.notMem_empty _) }
        ascending := .nil
        below := by simp [givenIds]
        known := fun _ listed => absurd listed (AList.notMem_empty _) }
  refine ⟨final.index.listed, ?_, final.index.noEmpty, final.index.below,
    final.ascending.imp Nat.ne_of_lt, final.below, final.known⟩
  intro pairing id pool found distinct
  rw [final.index.listed, found, timesListed_some, count_pairingsOf_of_nodup distinct]

end Index

section PoolsSample

attribute [local instance] releaseCrates

def addDex : Input := sampleInput (.UpdateDexes ["Wyndex"] [])

def addPools (assets : List AssetEntry) : Input :=
  sampleInput (.UpdatePools
    [(.Contract "pool", { dex := "wyndex", poolType := .ConstantProduct, assets })] [])

/-- The names of a pool are stored in lower case. -/
theorem upperCase_stored :
    (run execute sampleStart [nameToken "juno" "ujuno", nameToken "osmo" "uosmo", addDex,
      addPools ["JUNO", "osmo"]]).poolMetadata.lookup 1 =
        some { dex := "wyndex", poolType := .ConstantProduct, assets := ["juno", "osmo"] } := by
  decide +kernel

theorem pool_index_exact_juno :
    let s := run execute sampleStart
      [nameToken "juno" "ujuno", nameToken "osmo" "uosmo", addDex, addPools ["JUNO", "osmo"]]
    s.poolMetadata.lookup 1 =
        some { dex := "wyndex", poolType := .ConstantProduct, assets := ["juno", "osmo"] } ∧
      references s.assetPairings (.new "juno" "osmo" "wyndex") 1 = 1 := by
  refine ⟨upperCase_stored, ?_⟩
  rw [(pool_index_exact instantiate_sample _).1, upperCase_stored]
  decide +kernel

/-- A pool that lists a name twice is entered twice under the pairings of the name. -/
theorem pool_listed_twice :
    let s := run execute sampleStart
      [nameToken "juno" "ujuno", nameToken "osmo" "uosmo", addDex, addPools ["juno", "juno", "osmo"]]
    instantiate ⟨"ans"⟩ (fun text => .ok ⟨text⟩) { admin := "adm" } = .ok sampleStart ∧
      s.poolMetadata.lookup 1 = some
        { dex := "wyndex", poolType := .ConstantProduct, assets := ["juno", "juno", "osmo"] } ∧
      references s.assetPairings (.new "juno" "osmo" "wyndex") 1 = 2 := by
  refine ⟨rfl, ?_, ?_⟩ <;> decide +kernel

end PoolsSample

end AbstractFramework.Ans
