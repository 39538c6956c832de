import AbstractFramework.Ans.Pools
import AbstractFramework.Lib.Paging
import AbstractFramework.Objects.AccountIdCodec

/-! # The lists of pools, page by page

A client of the name service lists the pairings that a filter asks for, or the metadata of the
pools of one type, by asking again after the last entry of each page.  The metadata and the
pairings of two assets come in pages of the size that is asked for.  Without the assets the
page is not cut, and with the assets and the dex the one pairing that they determine is the
answer to every query.
-/

namespace AbstractFramework.Ans

open AbstractFramework Fallible Storage Sdk Machine Paging

/-! ## Queries -/

structure PoolMetadataFilter where
  poolType : Option PoolType

/-- The number of entries that a page is cut to. -/
def pageSize (limit : Option Nat) : Nat := min (limit.getD AnsHost.DEFAULT_LIMIT) AnsHost.MAX_LIMIT

theorem pageSize_pos {limit : Option Nat} (positive : ∀ n ∈ limit, 1 ≤ n) : 0 < pageSize limit := by
  cases limit with
  | none => decide
  | some n =>
    have := positive n rfl
    simp only [pageSize, Option.getD_some, AnsHost.MAX_LIMIT]
    omega

/-! ## Pairings -/

/-- The filter asks for the pairing. -/
def Wanted (filter : Option AnsHost.AssetPairingFilter) (pairing : DexAssetPairing) : Prop :=
  (∀ pair ∈ filter.bind AnsHost.AssetPairingFilter.assetPair,
      pair = (pairing.assetX, pairing.assetY)) ∧
    ∀ dex ∈ filter.bind AnsHost.AssetPairingFilter.dex, dex = pairing.dex

def onDex (dex : Option DexName) (pairing : DexAssetPairing) : Bool := dex.all (· = pairing.dex)

/-- How many pairings there are on the dex, or on all of them. -/
def pairingsOn (ans : AnsHost) (dex : Option DexName) : Nat :=
  ans.assetPairings.keys.countP (onDex dex)

/-- Not both the assets and the dex are given, and without the assets one page holds all. -/
def FitsPages (ans : AnsHost) (filter : Option AnsHost.AssetPairingFilter) (limit : Option Nat) :
    Prop :=
  (filter.bind AnsHost.AssetPairingFilter.assetPair = none ∨
      filter.bind AnsHost.AssetPairingFilter.dex = none) ∧
    (filter.bind AnsHost.AssetPairingFilter.assetPair = none →
      pairingsOn ans (filter.bind AnsHost.AssetPairingFilter.dex) ≤ pageSize limit)

/-- The pairings are listed page by page. -/
def PoolsPage (ans : AnsHost) (filter : Option AnsHost.AssetPairingFilter) (limit : Option Nat) :
    Prop :=
  PagesExactly (fun start => ans.listPoolEntries filter start limit) (pageSize limit)
    fun pairing references => ans.assetPairings.lookup pairing = some references ∧
      Wanted filter pairing

section Pairings

variable {ans : AnsHost} {filter : Option AnsHost.AssetPairingFilter} {limit : Option Nat}

/-- With the assets and the dex every query has the one pairing as its answer, or fails. -/
theorem not_poolsPage_of_key {pair : AssetEntry × AssetEntry} {dex : DexName}
    (isPair : filter.bind AnsHost.AssetPairingFilter.assetPair = some pair)
    (isDex : filter.bind AnsHost.AssetPairingFilter.dex = some dex) :
    ¬ PoolsPage ans filter limit := by
  rintro ⟨-, out, collected, -⟩
  have same : ∀ start, ans.listPoolEntries filter start limit =
      ans.listPoolEntries filter none limit := by
    intro start
    simp only [AnsHost.listPoolEntries, isPair, isDex]
  refine not_collects_constant same ?_ collected
  simp only [AnsHost.listPoolEntries, isPair, isDex]
  cases ans.assetPairings.lookup (DexAssetPairing.new pair.1 pair.2 dex) <;> simp [okOr]

/-- A pairing of the assets is determined by its dex. -/
theorem dexOf_determines (assetX assetY : AssetEntry) (pairing pairing' : DexAssetPairing)
    (dex : DexName) (isDex : AnsHost.dexOf assetX assetY pairing = some dex)
    (isDex' : AnsHost.dexOf assetX assetY pairing' = some dex) : pairing = pairing' := by
  unfold AnsHost.dexOf at isDex isDex'
  split at isDex
  · rename_i here
    split at isDex'
    · rename_i here'
      rw [← pairing.new_self, ← pairing'.new_self, here.1, here.2, here'.1, here'.2,
        Option.some.inj isDex, Option.some.inj isDex']
    · cases isDex'
  · cases isDex

variable (ans) in
theorem dexes_nodup (assetX assetY : AssetEntry) :
    ((under (AnsHost.dexOf assetX assetY) ans.assetPairings).map fun e => strBytes e.1).Nodup := by
  apply under_bytes_nodup
  · exact dexOf_determines assetX assetY
  · intro e _ e' _ same
    exact strBytes_injective same

/-- A dex of a stored pairing is in lower case. -/
theorem lower_of_dexes {assetX assetY : AssetEntry} {e : DexName × List PoolReference}
    (listed : e ∈ ans.dexes assetX assetY) :
    (DexAssetPairing.new assetX assetY e.1).dex = e.1 := by
  obtain ⟨pairing, -, -, -, isDex⟩ := AnsHost.mem_dexes.mp listed
  rw [← isDex]
  exact pairing.lower

/-- A pairing of the assets, as it is listed. -/
theorem mem_pairings {assetX assetY : AssetEntry} {pairing : DexAssetPairing}
    {references : List PoolReference} :
    (pairing, references) ∈ (ans.dexes assetX assetY).map
        (fun e => (DexAssetPairing.new assetX assetY e.1, e.2)) ↔
      ans.assetPairings.lookup pairing = some references ∧ pairing.assetX = assetX ∧
        pairing.assetY = assetY := by
  simp only [List.mem_map, Prod.exists, Prod.mk.injEq, AnsHost.mem_dexes]
  constructor
  · rintro ⟨_, _, ⟨pairing, found, rfl, rfl, rfl⟩, rfl, rfl⟩
    rw [pairing.new_self]
    exact ⟨found, rfl, rfl⟩
  · rintro ⟨found, rfl, rfl⟩
    exact ⟨_, _, ⟨pairing, found, rfl, rfl, rfl⟩, pairing.new_self, rfl⟩

/-- The pairings of two assets come in pages. -/
theorem poolsPage_of_pair {pair : AssetEntry × AssetEntry}
    (isPair : filter.bind AnsHost.AssetPairingFilter.assetPair = some pair)
    (noDex : filter.bind AnsHost.AssetPairingFilter.dex = none)
    (positive : ∀ n ∈ limit, 1 ≤ n) : PoolsPage ans filter limit := by
  obtain ⟨assetX, assetY⟩ := pair
  have distinct := dexes_nodup ans assetX assetY
  have answers : ∀ start, ans.listPoolEntries filter start limit =
      .ok (((range strBytes (start.map DexAssetPairing.dex)
        (under (AnsHost.dexOf assetX assetY) ans.assetPairings)).take (pageSize limit)).map
          fun e => (DexAssetPairing.new assetX assetY e.1, e.2)) := by
    intro start
    simp only [AnsHost.listPoolEntries, isPair, noDex, pageSize]
  have first : ans.listPoolEntries filter none limit =
      .ok (((ans.dexes assetX assetY).take (pageSize limit)).map
        fun e => (DexAssetPairing.new assetX assetY e.1, e.2)) := answers none
  refine ⟨?_, (ans.dexes assetX assetY).map fun e => (DexAssetPairing.new assetX assetY e.1, e.2),
    ?_, ?_, ?_⟩
  · intro start page ok
    obtain rfl := Except.ok.inj ((answers start).symm.trans ok)
    rw [List.length_map]
    exact List.length_take_le _ _
  · apply collects_all (pageSize_pos positive) first
    intro before x rest split
    have listed : x ∈ ans.dexes assetX assetY := by
      rw [split]
      simp
    rw [answers, Option.map_some, lower_of_dexes listed, range_resume distinct split]
  · apply List.Nodup.of_map DexAssetPairing.dex
    rw [List.map_map, List.map_map]
    have keys : (ans.dexes assetX assetY).map ((DexAssetPairing.dex ∘ Prod.fst) ∘ fun e =>
        (DexAssetPairing.new assetX assetY e.1, e.2)) = (ans.dexes assetX assetY).map Prod.fst :=
      List.map_congr_left fun e listed => lower_of_dexes listed
    rw [keys]
    exact range_keys_nodup (under_nodup (dexOf_determines assetX assetY))
  · intro pairing references
    rw [mem_pairings]
    simp only [Wanted, isPair, noDex, Option.mem_def, Option.some.injEq, forall_eq', reduceCtorEq,
      false_imp_iff, implies_true, and_true, Prod.mk.injEq]
    rw [eq_comm (a := assetX), eq_comm (a := assetY)]

/-- Without the assets the page is not cut. -/
theorem poolsPage_of_all (noPair : filter.bind AnsHost.AssetPairingFilter.assetPair = none) :
    PoolsPage ans filter limit ↔
      pairingsOn ans (filter.bind AnsHost.AssetPairingFilter.dex) ≤ pageSize limit := by
  have answers : ∀ start, ans.listPoolEntries filter start limit =
      .ok ((range DexAssetPairing.key start (under some ans.assetPairings)).filter fun e =>
        onDex (filter.bind AnsHost.AssetPairingFilter.dex) e.1) := by
    intro start
    simp only [AnsHost.listPoolEntries, noPair, onDex]
  have keys : (under some ans.assetPairings).map Prod.fst = ans.assetPairings.keys := by
    rw [under_keys, List.filterMap_some]
  constructor
  · rintro ⟨short, -⟩
    have first := short none _ (answers none)
    rwa [length_filter_range, keys] at first
  · intro fits
    refine ⟨?_, _, collects_whole (answers none) ?_, ?_, ?_⟩
    · intro start page ok
      obtain rfl := Except.ok.inj ((answers start).symm.trans ok)
      refine (length_filter_range_le _).trans ?_
      rwa [keys]
    · intro last isLast
      rw [answers, filter_range_last isLast]
    · have distinct : ((under some ans.assetPairings).map Prod.fst).Nodup :=
        under_nodup some_determines
      exact (range_keys_nodup distinct).sublist (List.filter_sublist.map _)
    · intro pairing references
      simp only [List.mem_filter, mem_range, isAfter, and_true, mem_under, Option.some.injEq,
        exists_eq_right, Wanted, noPair, onDex, Option.all_eq_true, decide_eq_true_eq, Option.mem_def,
        reduceCtorEq, false_imp_iff, implies_true, true_and]

end Pairings

section Listing

variable [Crates] {s : AnsState} {limit : Option Nat}

def listPoolMetadataEntries (s : AnsState) (filter : Option PoolMetadataFilter)
    (startAfter : Option UniquePoolId) (limit : Option Nat) :
    Except StdError (List (UniquePoolId × PoolMetadata)) :=
  let limit := min (limit.getD AnsHost.DEFAULT_LIMIT) AnsHost.MAX_LIMIT
  let poolTypeFilter := filter.bind PoolMetadataFilter.poolType
  let entries := range (bigEndian 8) startAfter (under some s.poolMetadata)
  .ok ((entries.filter fun e => poolTypeFilter.all (· = e.2.poolType)).take limit)

/-! ## Metadata -/

/-- The pool is of the type that the filter asks for. -/
def OfType (filter : Option PoolMetadataFilter) (pool : PoolMetadata) : Prop :=
  ∀ poolType ∈ filter.bind PoolMetadataFilter.poolType, poolType = pool.poolType

theorem metadataKeys_nodup (ids : ∀ id ∈ s.poolMetadata, id < 2 ^ 64) :
    ((under some s.poolMetadata).map fun e => bigEndian 8 e.1).Nodup := by
  apply under_bytes_nodup
  · exact some_determines
  have fits : ∀ e ∈ under some s.poolMetadata, e.1 < 256 ^ 8 := by
    rintro ⟨_, pool⟩ listed
    obtain ⟨id, found, isKey⟩ := mem_under.mp listed
    cases isKey
    exact ids _ (mem_of_lookup found)
  intro e listed e' listed' same
  exact bigEndian_injective (fits e listed) (fits e' listed') same

theorem mem_metadata {filter : Option PoolMetadataFilter} {id : UniquePoolId}
    {pool : PoolMetadata} :
    (id, pool) ∈ (range (bigEndian 8) none (under some s.poolMetadata)).filter
        (fun e => (filter.bind PoolMetadataFilter.poolType).all (· = e.2.poolType)) ↔
      s.poolMetadata.lookup id = some pool ∧ OfType filter pool := by
  simp only [List.mem_filter, mem_range, isAfter, and_true, mem_under, Option.some.injEq,
    exists_eq_right, OfType, Option.all_eq_true, decide_eq_true_eq, Option.mem_def]

/-- The list of metadata comes in pages. -/
theorem metadata_pages (filter : Option PoolMetadataFilter) (positive : ∀ n ∈ limit, 1 ≤ n)
    (ids : ∀ id ∈ s.poolMetadata, id < 2 ^ 64) :
    PagesExactly (fun start => listPoolMetadataEntries s filter start limit) (pageSize limit)
      fun id pool => s.poolMetadata.lookup id = some pool ∧ OfType filter pool := by
  have distinct := metadataKeys_nodup ids
  refine ⟨?_, _, ?_, ?_, fun id pool => mem_metadata⟩
  · rintro start page ⟨⟩
    exact List.length_take_le _ _
  · rw [← List.map_id (List.filter _ _)]
    refine collects_all (pageSize_pos positive) ?_ ?_
    · rw [List.map_id]
      rfl
    · intro before x rest split
      rw [List.map_id, ← filter_range_resume distinct split]
      rfl
  · have keys : ((under some s.poolMetadata).map Prod.fst).Nodup := under_nodup some_determines
    exact (range_keys_nodup keys).sublist (List.filter_sublist.map _)

/-! ## Both lists -/

/-- The list of metadata always comes in pages, and the list of pairings exactly if it is not
    asked for one key and a page holds what is asked for without the assets. -/
theorem pool_lists_page_iff (s : AnsState) (filter : Option AnsHost.AssetPairingFilter)
    (metadataFilter : Option PoolMetadataFilter) (positive : ∀ n ∈ limit, 1 ≤ n)
    (ids : ∀ id ∈ s.poolMetadata, id < 2 ^ 64) :
    (PoolsPage s.toAnsHost filter limit ↔ FitsPages s.toAnsHost filter limit) ∧
      PagesExactly (fun start => listPoolMetadataEntries s metadataFilter start limit)
        (pageSize limit)
        fun id pool => s.poolMetadata.lookup id = some pool ∧ OfType metadataFilter pool := by
  refine ⟨?_, metadata_pages metadataFilter positive ids⟩
  unfold FitsPages
  cases isPair : filter.bind AnsHost.AssetPairingFilter.assetPair with
  | none =>
    rw [poolsPage_of_all isPair]
    simp
  | some pair =>
    cases isDex : filter.bind AnsHost.AssetPairingFilter.dex with
    | none => exact iff_of_true (poolsPage_of_pair isPair isDex positive) (by simp)
    | some dex => exact iff_of_false (not_poolsPage_of_key isPair isDex) (by simp)

end Listing

section ListSample

attribute [local instance] releaseCrates

/-- A pool of `juno` and `osmo` on `wyndex`, found under both orders of its assets. -/
def withPool : AnsState :=
  run execute sampleStart [nameToken "juno" "ujuno", nameToken "osmo" "uosmo", addDex,
    addPools ["juno", "osmo"]]

theorem pool_lists_page_juno :
    PoolsPage withPool.toAnsHost (some { assetPair := some ("juno", "osmo"), dex := none })
      (some 1) :=
  (pool_lists_page_iff withPool _ none (fun n isLimit => by cases isLimit; decide)
    (by decide +kernel)).1.mpr ⟨.inr rfl, fun noPair => by cases noPair⟩

/-- A page of one entry has two, and a client that asks for one pairing has it for ever. -/
theorem pool_list_not_paged :
    instantiate ⟨"ans"⟩ (fun text => .ok ⟨text⟩) { admin := "adm" } = .ok sampleStart ∧
      (withPool.listPoolEntries none none (some 1)).toOption.map List.length = some 2 ∧
      ¬ PoolsPage withPool.toAnsHost none (some 1) ∧
      ¬ PoolsPage withPool.toAnsHost
        (some { assetPair := some ("juno", "osmo"), dex := some "wyndex" }) (some 1) := by
  have two : (withPool.listPoolEntries none none (some 1)).toOption.map List.length = some 2 := by
    decide +kernel
  refine ⟨rfl, two, ?_, not_poolsPage_of_key rfl rfl⟩
  rintro ⟨short, -⟩
  obtain ⟨page, ok, length⟩ := Option.map_eq_some_iff.mp two
  have := short none page (toOption_eq_some.mp ok)
  rw [length] at this
  exact absurd this (by decide)

end ListSample

end AbstractFramework.Ans
