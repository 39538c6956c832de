import AbstractFramework.Ans.Pools
import AbstractFramework.Dex.AnsActions
import AbstractFramework.Lib.Delimited

/-! # The names of liquidity tokens

The liquidity token of a pool is named after the dex and the assets of the pool.  Where a
token is made from names they are sorted, but a pool keeps the order in which it was listed,
and its token is named in that order.  So a pool has the name that its dex and assets give
exactly if it was listed in ascending order.
-/

namespace AbstractFramework.Dex

open AbstractFramework Fallible Storage Sdk Machine Ans Delimited

/-! ## Conversions -/

/-- `LpToken::new`: the assets are converted into entries and sorted. -/
def LpToken.new {U : Type} (into : U → AssetEntry) (dexName : String) (assets : List U) : LpToken where
  dex := dexName
  assets := sortEntries (assets.map into)

/-- `Display`: formatted as `dex_name/asset1,asset2`. -/
def LpToken.display (token : LpToken) : String :=
  token.dex ++ "/" ++ ",".intercalate token.assets

def LpToken.assetEntry (token : LpToken) : AssetEntry := Ans.assetEntry token.display

/-- `AnsEntryConvertor::lp_token` of a pool. -/
def poolLpToken (pool : PoolMetadata) : LpToken where
  dex := pool.dex
  assets := pool.assets

def lpTokenAsset (pool : PoolMetadata) : AssetEntry := (poolLpToken pool).assetEntry

/-! ## Sorted entries -/

def Ascending (assets : List AssetEntry) : Prop :=
  assets.Pairwise fun a b => strBytes a ≤ strBytes b

instance : Std.Total fun a b : AssetEntry => strBytes a ≤ strBytes b :=
  ⟨fun _ _ => List.le_total _ _⟩

instance : IsTrans AssetEntry fun a b => strBytes a ≤ strBytes b := ⟨fun _ _ _ => List.le_trans⟩

instance : Std.Antisymm fun a b : AssetEntry => strBytes a ≤ strBytes b :=
  ⟨fun _ _ le ge => strBytes_injective (List.le_antisymm le ge)⟩

variable {assets others : List AssetEntry} {dex : DexName}

theorem sortEntries_perm (assets : List AssetEntry) : (sortEntries assets).Perm assets :=
  List.perm_insertionSort _ assets

theorem sortEntries_eq_self_iff : sortEntries assets = assets ↔ Ascending assets :=
  insertionSort_eq_self_iff

theorem sortEntries_sortEntries (assets : List AssetEntry) :
    sortEntries (sortEntries assets) = sortEntries assets :=
  insertionSort_congr (sortEntries_perm assets)

/-! ## Lower case -/

theorem toLower_eq_iff {c d : Char} (low : d.val.toNat < 65) : c.toLower = d ↔ c = d := by
  unfold Char.toLower
  by_cases upper : c.val ≥ 'A'.val ∧ c.val ≤ 'Z'.val
  · have first : 65 ≤ c.val.toNat := UInt32.le_iff_toNat_le.mp upper.1
    have last : c.val.toNat ≤ 90 := UInt32.le_iff_toNat_le.mp upper.2
    rw [dif_pos upper]
    apply iff_of_false
    · rintro rfl
      have code : (c.val + 32).toNat = c.val.toNat + 32 := by
        rw [UInt32.toNat_add]
        show (c.val.toNat + 32) % 2 ^ 32 = c.val.toNat + 32
        omega
      have low : (c.val + 32).toNat < 65 := low
      omega
    · rintro rfl
      omega
  · rw [dif_neg upper]

/-- Lower case does not bring a separator in. -/
theorem mem_assetEntry {d : Char} (low : d.val.toNat < 65) {name : String} :
    d ∈ (Ans.assetEntry name).toList ↔ d ∈ name.toList := by
  simp only [Ans.assetEntry, toAsciiLowercase, String.toList_ofList, List.mem_map,
    toLower_eq_iff low, exists_eq_right]

/-- The name of a token in lower case has the dex and the assets in lower case. -/
theorem toList_assetEntry (token : LpToken) :
    token.assetEntry.toList = token.dex.toList.map Char.toLower ++
      '/' :: [','].intercalate (token.assets.map fun a => (Ans.assetEntry a).toList) := by
  have slash : Char.toLower '/' = '/' := by decide
  have comma : Char.toLower ',' = ',' := by decide
  simp only [LpToken.assetEntry, LpToken.display, Ans.assetEntry, toAsciiLowercase,
    String.toList_ofList, String.toList_append, String.toList_intercalate, List.map_append,
    List.append_assoc]
  have separators : "/".toList = ['/'] ∧ ",".toList = [','] := by decide
  rw [separators.1, separators.2, map_intercalate, comma, List.map_map]
  simp [slash, Function.comp_def]

/-! ## Names without separators -/

/-- The name has neither a slash nor a comma. -/
def Plain (name : String) : Prop := '/' ∉ name.toList ∧ ',' ∉ name.toList

theorem plain_assetEntry {name : String} : Plain (Ans.assetEntry name) ↔ Plain name := by
  rw [Plain, mem_assetEntry (by decide), mem_assetEntry (by decide)]
  rfl

theorem toList_assetEntry_of_lower {token : LpToken}
    (lower : ∀ a ∈ token.assets, Ans.assetEntry a = a) :
    token.assetEntry.toList = token.dex.toList.map Char.toLower ++
      '/' :: [','].intercalate (token.assets.map String.toList) := by
  have kept : (token.assets.map fun a => (Ans.assetEntry a).toList) =
      token.assets.map String.toList := by
    refine List.map_congr_left fun a member => ?_
    rw [lower a member]
  rw [toList_assetEntry, kept]

theorem comma_notMem (plain : ∀ a ∈ assets, Plain a) :
    ∀ part ∈ assets.map String.toList, ',' ∉ part := by
  intro part member
  obtain ⟨a, isName, rfl⟩ := List.mem_map.mp member
  exact (plain a isName).2

/-- Of one dex and the same plain assets in lower case, each order has its own name. -/
theorem assetEntry_eq_iff (lower : ∀ a ∈ assets, Ans.assetEntry a = a)
    (plain : ∀ a ∈ assets, Plain a) (perm : assets.Perm others) :
    (LpToken.mk dex assets).assetEntry = (LpToken.mk dex others).assetEntry ↔ assets = others := by
  constructor
  · intro same
    have lower' : ∀ a ∈ others, Ans.assetEntry a = a := fun a member =>
      lower a (perm.mem_iff.mpr member)
    have plain' : ∀ a ∈ others, Plain a := fun a member => plain a (perm.mem_iff.mpr member)
    have chars := congrArg String.toList same
    rw [toList_assetEntry_of_lower lower, toList_assetEntry_of_lower lower'] at chars
    have joined := List.tail_eq_of_cons_eq (List.append_cancel_left chars)
    by_cases empty : assets = []
    · subst empty
      exact perm.nil_eq
    · have filled : others ≠ [] := fun none => empty (by rw [none] at perm; exact perm.eq_nil)
      have parts := intercalate_injective (comma_notMem plain) (comma_notMem plain')
        (by simpa using empty) (by simpa using filled) joined
      exact List.map_injective_iff.mpr (fun _ _ => String.toList_inj.mp) parts
  · intro same
    rw [same]

/-- The name of a token of sorted plain lower-case names gives the token back. -/
theorem lpToken_assetEntry {token : LpToken} (lower : toAsciiLowercase token.dex = token.dex)
    (plain : Plain token.dex) (lowerAssets : ∀ a ∈ token.assets, Ans.assetEntry a = a)
    (plainAssets : ∀ a ∈ token.assets, Plain a) (ascending : Ascending token.assets)
    (two : 2 ≤ token.assets.length) : lpToken token.assetEntry = .ok token := by
  have dexChars : token.dex.toList.map Char.toLower = token.dex.toList := by
    have chars := congrArg String.toList lower
    rwa [toAsciiLowercase, String.toList_ofList] at chars
  have noSlash : '/' ∉ [','].intercalate (token.assets.map String.toList) := by
    rw [mem_intercalate (by decide)]
    rintro ⟨part, member, inside⟩
    obtain ⟨a, isEntry, rfl⟩ := List.mem_map.mp member
    exact (plainAssets a isEntry).1 inside
  have filled : token.assets.map String.toList ≠ [] := by
    intro none
    have short := congrArg List.length none
    rw [List.length_map, List.length_nil] at short
    omega
  have parsed : (token.assets.map String.toList).map
      (fun name => toAsciiLowercase (String.ofList name)) = token.assets := by
    rw [List.map_map]
    conv_rhs => rw [← List.map_id token.assets]
    refine List.map_congr_left fun a member => ?_
    rw [Function.comp_apply, String.ofList_toList]
    exact lowerAssets a member
  rw [lpToken, toList_assetEntry_of_lower lowerAssets, dexChars,
    splitOn_append_cons plain.1 noSlash]
  dsimp only
  rw [List.splitOn_intercalate ',' (comma_notMem plainAssets) filled, parsed,
    sortEntries_eq_self_iff.mpr ascending, ensure, if_pos two, String.ofList_toList]
  rfl

/-! ## Stored pools -/

/-- The pool that is stored for the one that is listed. -/
def storedPool (listed : PoolMetadata) : PoolMetadata :=
  { listed with assets := listed.assets.map Ans.assetEntry }

section Pools

variable [Crates] {s s' : AnsState} {i : Input} {inputs : List Input} {listed : PoolMetadata}

/-- The pools that a message adds. -/
def listedPools (i : Input) : List PoolMetadata :=
  match i.msg with
  | .UpdatePools toAdd _ => toAdd.map fun entry => entry.2
  | _ => []

/-- Every stored pool is one that a message has listed. -/
def AsListed (inputs : List Input) (s : AnsState) : Prop :=
  ∀ id pool, s.poolMetadata.lookup id = some pool →
    ∃ listed ∈ inputs.flatMap listedPools, pool = storedPool listed

theorem AsListed.addPool {registeredDexes : List DexName} {loop loop' : PoolLoop}
    {entry : Ans.UncheckedPoolAddress × PoolMetadata} (before : AsListed inputs loop.state)
    (member : entry.2 ∈ inputs.flatMap listedPools)
    (ok : addPool i registeredDexes loop entry = .ok loop') : AsListed inputs loop'.state := by
  simp only [Ans.addPool, validatePoolAssets, bind_eq_ok, pure_eq_ok] at ok
  obtain ⟨_, _, _, ⟨_, _, _, _, rfl⟩, _, _, _, _, rfl⟩ := ok
  intro id pool found
  rcases lookup_insert_cases found with ⟨rfl, rfl⟩ | ⟨_, old⟩
  · exact ⟨entry.2, member, rfl⟩
  · exact before id pool old

theorem AsListed.removePools (before : AsListed inputs s) (toRemove : List UniquePoolId) :
    AsListed inputs (toRemove.foldl removePool s) := by
  induction toRemove generalizing s with
  | nil => exact before
  | cons id toRemove ih =>
    rw [List.foldl_cons]
    apply ih
    unfold removePool
    split
    · intro id' pool found
      exact before id' pool (lookup_erase_eq_some.mp found).2
    · exact before

theorem AsListed.execute {given : List UniquePoolId} (before : AsListed inputs s)
    (listed : i ∈ inputs) (ok : execute i s = .ok (s', given)) : AsListed inputs s' := by
  by_cases pools : ∃ toAdd toRemove, i.msg = .UpdatePools toAdd toRemove
  · obtain ⟨toAdd, toRemove, msg⟩ := pools
    simp only [Ans.execute, msg, updatePools, bind_eq_ok, pure_eq_ok, Prod.mk.injEq] at ok
    obtain ⟨_, _, dexes, _, loop, done, rfl, rfl⟩ := ok
    have added : AsListed inputs loop.state := by
      refine foldlM_invariant (P := fun loop => AsListed inputs loop.state) ?_ before done
      intro m entry m' member held ok
      refine held.addPool (List.mem_flatMap.mpr ⟨i, listed, ?_⟩) ok
      rw [listedPools, msg]
      exact List.mem_map_of_mem member
    exact added.removePools toRemove
  · obtain ⟨same, -⟩ := execute_pools (fun toAdd toRemove msg => pools ⟨toAdd, toRemove, msg⟩) ok
    intro id pool found
    rw [same.2.1] at found
    exact before id pool found

/-- The names of a listed pool have no separators. -/
structure PlainPool (listed : PoolMetadata) : Prop where
  dex : Plain listed.dex
  assets : ∀ a ∈ listed.assets, Plain a

omit [Crates] in
theorem PlainPool.stored (plain : PlainPool listed) : ∀ a ∈ (storedPool listed).assets, Plain a := by
  intro a member
  obtain ⟨name, isName, rfl⟩ := List.mem_map.mp member
  exact plain_assetEntry.mpr (plain.assets name isName)

omit [Crates] in
theorem storedPool_lower : ∀ a ∈ (storedPool listed).assets, Ans.assetEntry a = a := by
  intro a member
  obtain ⟨name, isName, rfl⟩ := List.mem_map.mp member
  exact toAsciiLowercase_idem name

omit [Crates] in
/-- A stored pool has the name of its dex and its assets if it was listed in ascending order. -/
theorem lpTokenAsset_storedPool_iff (plain : PlainPool listed) :
    (∀ assets, assets.Perm listed.assets → lpTokenAsset (storedPool listed) =
        (LpToken.new Ans.assetEntry listed.dex assets).assetEntry) ↔
      Ascending (listed.assets.map Ans.assetEntry) := by
  have named : ∀ assets, assets.Perm listed.assets →
      (lpTokenAsset (storedPool listed) =
          (LpToken.new Ans.assetEntry listed.dex assets).assetEntry ↔
        Ascending (listed.assets.map Ans.assetEntry)) := by
    intro assets perm
    have sorted : sortEntries (assets.map Ans.assetEntry) =
        sortEntries (listed.assets.map Ans.assetEntry) :=
      insertionSort_congr (perm.map _)
    rw [← sortEntries_eq_self_iff, LpToken.new, sorted, eq_comm (b := listed.assets.map _)]
    exact assetEntry_eq_iff storedPool_lower plain.stored (sortEntries_perm _).symm
  constructor
  · intro all
    exact (named _ (.refl _)).mp (all _ (.refl _))
  · intro ascending assets perm
    exact (named assets perm).mpr ascending

/-- In every reachable state, each stored pool is stored as a message has listed it: its
    liquidity token has the name that its dex and assets give in any order exactly if they are
    listed in ascending order, and another order of the same assets would give it the same name
    only if it stores the same list.  The name of a token that is made from names gives the
    token back. -/
theorem lp_asset_canonical_iff {address : Addr} {addrValidate : String → Except StdError Addr}
    {msg : InstantiateMsg} {start : AnsState}
    (instantiated : instantiate address addrValidate msg = .ok start) (inputs : List Input) :
    (∀ id pool, (run execute start inputs).poolMetadata.lookup id = some pool →
      ∃ listed ∈ inputs.flatMap listedPools, pool = storedPool listed ∧ (PlainPool listed →
        ((∀ assets, assets.Perm listed.assets → lpTokenAsset pool =
            (LpToken.new Ans.assetEntry listed.dex assets).assetEntry) ↔
          Ascending (listed.assets.map Ans.assetEntry)) ∧
        ∀ assets, assets.Perm listed.assets →
          (lpTokenAsset (storedPool { listed with assets }) = lpTokenAsset pool ↔
            assets.map Ans.assetEntry = listed.assets.map Ans.assetEntry))) ∧
    ∀ (U : Type) (into : U → AssetEntry) (d : String) (names : List U),
      toAsciiLowercase d = d → Plain d →
      (∀ name ∈ names, toAsciiLowercase (into name) = into name ∧ Plain (into name)) →
      2 ≤ names.length →
        lpToken (LpToken.new into d names).assetEntry = .ok (LpToken.new into d names) := by
  constructor
  · have stored : AsListed inputs (run execute start inputs) := by
      refine run_invariant_mem (fun s i s' given member held ok => held.execute member ok) ?_
      simp only [instantiate, bind_eq_ok, mapError_eq_ok, pure_eq_ok] at instantiated
      obtain ⟨_, _, rfl⟩ := instantiated
      intro id pool found
      cases found
    intro id pool found
    obtain ⟨listed, member, rfl⟩ := stored id pool found
    refine ⟨listed, member, rfl, fun plain => ⟨lpTokenAsset_storedPool_iff plain, ?_⟩⟩
    intro assets perm
    rw [eq_comm, eq_comm (a := assets.map _)]
    exact assetEntry_eq_iff storedPool_lower plain.stored (perm.symm.map _)
  · intro U into d names lower plain each two
    have named : ∀ a ∈ (LpToken.new into d names).assets, ∃ name ∈ names, into name = a := by
      intro a member
      exact List.mem_map.mp ((sortEntries_perm _).mem_iff.mp member)
    refine @lpToken_assetEntry (LpToken.new into d names) lower plain ?_ ?_ ?_ ?_
    · intro a member
      obtain ⟨name, isName, rfl⟩ := named a member
      exact (each name isName).1
    · intro a member
      obtain ⟨name, isName, rfl⟩ := named a member
      exact (each name isName).2
    · exact sortEntries_eq_self_iff.mp (sortEntries_sortEntries _)
    · rw [LpToken.new, (sortEntries_perm _).length_eq, List.length_map]
      exact two

end Pools

section LpSample

attribute [local instance] releaseCrates

def junoOsmo : PoolMetadata where
  dex := "wyndex"
  poolType := .ConstantProduct
  assets := ["JUNO", "osmo"]

theorem lp_asset_canonical_juno :
    lpTokenAsset (storedPool junoOsmo) =
      (LpToken.new Ans.assetEntry "wyndex" ["osmo", "JUNO"]).assetEntry := by
  obtain ⟨listed, member, stored, exactly_⟩ :=
    (lp_asset_canonical_iff instantiate_sample _).1 1 _ upperCase_stored
  have same : listed = junoOsmo := List.mem_singleton.mp member
  subst same
  have plain : PlainPool junoOsmo := ⟨by unfold Plain; decide, by unfold Plain; decide⟩
  have ascending : Ascending (["JUNO", "osmo"].map Ans.assetEntry) := by
    unfold Ascending
    decide +kernel
  rw [← stored]
  exact (exactly_ plain).1.mpr ascending ["osmo", "JUNO"] (List.Perm.swap _ _ _)

/-- The token of a pool that is not listed in ascending order has another name than its dex and
    assets give, and than it has when the pool is listed in ascending order. -/
theorem lp_asset_not_canonical :
    instantiate ⟨"ans"⟩ (fun text => .ok ⟨text⟩) { admin := "adm" } = .ok sampleStart ∧
      ((run execute sampleStart [nameToken "juno" "ujuno", nameToken "osmo" "uosmo", addDex,
        addPools ["osmo", "juno"]]).poolMetadata.lookup 1).map lpTokenAsset =
          some "wyndex/osmo,juno" ∧
      (LpToken.new Ans.assetEntry "wyndex" ["osmo", "juno"]).assetEntry = "wyndex/juno,osmo" ∧
      ((run execute sampleStart [nameToken "juno" "ujuno", nameToken "osmo" "uosmo", addDex,
        addPools ["juno", "osmo"]]).poolMetadata.lookup 1).map lpTokenAsset =
          some "wyndex/juno,osmo" := by
  refine ⟨rfl, ?_, ?_, ?_⟩ <;> decide +kernel

end LpSample

end AbstractFramework.Dex
