import AbstractFramework.Lib.Ranges
import AbstractFramework.Objects.AccountId
import AbstractFramework.Sdk.Bank

/-! # The name service

Names of assets in both directions, and the pools of the dexes by the two assets that they
trade.  A pairing is kept in both orders of its assets.
-/

namespace AbstractFramework.Ans

open AbstractFramework Fallible Storage Sdk

abbrev DexName := String

inductive PoolAddress where
  | SeparateAddresses (swap liquidity : Addr)
  | Contract (contract : Addr)
  | Id (id : Nat)
deriving DecidableEq, Repr

inductive UncheckedPoolAddress where
  | SeparateAddresses (swap liquidity : String)
  | Contract (contract : String)
  | Id (id : Nat)
deriving DecidableEq, Repr

/-- `UncheckedPoolAddress::check`. -/
def UncheckedPoolAddress.check (addrValidate : String → Except StdError Addr) :
    UncheckedPoolAddress → Except AbstractError PoolAddress
  | .Contract contract => do
    let addr ← (addrValidate contract).mapError AbstractError.Std
    return .Contract addr
  | .Id id => .ok (.Id id)
  | .SeparateAddresses swap liquidity => do
    let swap ← (addrValidate swap).mapError AbstractError.Std
    let liquidity ← (addrValidate liquidity).mapError AbstractError.Std
    return .SeparateAddresses swap liquidity

structure PoolReference where
  uniqueId : Nat
  poolAddress : PoolAddress
deriving DecidableEq, Repr

/-- The key of a pairing: the two assets and the name of the dex, in lower case. -/
structure DexAssetPairing where
  assetX : AssetEntry
  assetY : AssetEntry
  dex : DexName
  lower : toAsciiLowercase dex = dex
deriving DecidableEq

theorem toLower_toLower (c : Char) : c.toLower.toLower = c.toLower := by
  unfold Char.toLower
  by_cases upper : c.val ≥ 'A'.val ∧ c.val ≤ 'Z'.val
  · have high : ¬ c.val + ('a'.val - 'A'.val) ≤ 'Z'.val := by
      have first : 65 ≤ c.val.toNat := UInt32.le_iff_toNat_le.mp upper.1
      have last : c.val.toNat ≤ 90 := UInt32.le_iff_toNat_le.mp upper.2
      rw [UInt32.le_iff_toNat_le, UInt32.toNat_add]
      show ¬ (c.val.toNat + 32) % 2 ^ 32 ≤ 90
      omega
    simp only [dif_pos upper]
    rw [dif_neg fun h => high h.2]
  · rw [dif_neg upper, dif_neg upper]

theorem toAsciiLowercase_idem (s : String) :
    toAsciiLowercase (toAsciiLowercase s) = toAsciiLowercase s := by
  simp only [toAsciiLowercase, String.toList_ofList, List.map_map, Function.comp_def,
    toLower_toLower]

def DexAssetPairing.new (assetX assetY : AssetEntry) (dexName : DexName) : DexAssetPairing where
  assetX := assetX
  assetY := assetY
  dex := toAsciiLowercase dexName
  lower := toAsciiLowercase_idem dexName

/-- A key that is stored is already in lower case. -/
theorem DexAssetPairing.new_self (pairing : DexAssetPairing) :
    new pairing.assetX pairing.assetY pairing.dex = pairing := by
  simp [new, pairing.lower]

def DexAssetPairing.key (pairing : DexAssetPairing) : Bytes :=
  joinedKey [strBytes pairing.assetX, strBytes pairing.assetY, strBytes pairing.dex]

abbrev AssetPairingMapEntry := DexAssetPairing × List PoolReference

structure AnsHost where
  /-- The address of the contract. -/
  address : Addr
  assetAddresses : Map AssetEntry AssetInfo
  revAssetAddresses : Map AssetInfo AssetEntry
  assetPairings : Map DexAssetPairing (List PoolReference)
  registeredDexes : Option (List DexName)

inductive AnsHostError where
  | AssetNotFound (asset : AssetEntry) (ansHost : Addr)
  | CwAssetNotFound (asset : AssetInfo) (ansHost : Addr)
  | DexPairingNotFound (pairing : DexAssetPairing) (ansHost : Addr)
  | QueryFailed (methodName : String) (error : StdError)
deriving DecidableEq

namespace AnsHost

variable (ans : AnsHost)

/-! ## Raw queries -/

def queryAsset (asset : AssetEntry) : Except AnsHostError AssetInfo :=
  okOr (ans.assetAddresses.lookup asset) (.AssetNotFound asset ans.address)

def queryAssetReverse (asset : AssetInfo) : Except AnsHostError AssetEntry :=
  okOr (ans.revAssetAddresses.lookup asset) (.CwAssetNotFound asset ans.address)

def queryAssetPairing (pairing : DexAssetPairing) : Except AnsHostError (List PoolReference) :=
  okOr (ans.assetPairings.lookup pairing) (.DexPairingNotFound pairing ans.address)

def queryRegisteredDexes : Except AnsHostError (List DexName) :=
  okOr ans.registeredDexes (.QueryFailed "query_registered_dexes" (.notFound "Vec<String>"))

/-- `Asset::resolve`. -/
def resolveAsset (asset : Asset) : Except AnsHostError AnsAsset := do
  let name ← ans.queryAssetReverse asset.info
  return { name, amount := asset.amount }

/-- `AnsAsset::resolve`. -/
def resolveAnsAsset (asset : AnsAsset) : Except AnsHostError Asset := do
  let info ← ans.queryAsset asset.name
  return { info, amount := asset.amount }

/-! ## Queries by key -/

/-- `query_assets`: the names are put into lower case. -/
def queryAssets (keys : List String) : Except StdError (List (AssetEntry × AssetInfo)) :=
  keys.mapM fun name => do
    let key := toAsciiLowercase name
    let value ← okOr (ans.assetAddresses.lookup key) (.notFound "AssetInfo")
    return (key, value)

/-- `query_pool_entries`. -/
def queryPoolEntries (keys : List DexAssetPairing) : Except StdError (List AssetPairingMapEntry) :=
  keys.mapM fun key => do
    let value ← okOr (ans.assetPairings.lookup key) (.notFound "Vec<PoolReference>")
    return (key, value)

/-! ## Listing the pools -/

def DEFAULT_LIMIT : Nat := 15
def MAX_LIMIT : Nat := 25

structure AssetPairingFilter where
  assetPair : Option (AssetEntry × AssetEntry)
  dex : Option DexName

/-- The name of the dex in the keys of the pair. -/
def dexOf (assetX assetY : AssetEntry) (pairing : DexAssetPairing) : Option DexName :=
  if pairing.assetX = assetX ∧ pairing.assetY = assetY then some pairing.dex else none

def listPoolEntries (filter : Option AssetPairingFilter) (startAfter : Option DexAssetPairing)
    (limit : Option Nat) : Except StdError (List AssetPairingMapEntry) :=
  let limit := min (limit.getD DEFAULT_LIMIT) MAX_LIMIT
  match filter.bind AssetPairingFilter.assetPair, filter.bind AssetPairingFilter.dex with
  | some (assetX, assetY), some dexFilter => do
    -- We have the full key, so load the entry
    let key := DexAssetPairing.new assetX assetY dexFilter
    let ids ← okOr (ans.assetPairings.lookup key) (.notFound "Vec<PoolReference>")
    return [(key, ids)]
  | some (assetX, assetY), none =>
    let entries := range strBytes (startAfter.map DexAssetPairing.dex)
      (under (dexOf assetX assetY) ans.assetPairings)
    .ok ((entries.take limit).map fun e => (DexAssetPairing.new assetX assetY e.1, e.2))
  | none, dexFilter =>
    let entries := range DexAssetPairing.key startAfter (under some ans.assetPairings)
    .ok (entries.filter fun e => dexFilter.all (· = e.1.dex))

/-- The dexes that list the pair, in the order in which they are listed. -/
def dexes (assetX assetY : AssetEntry) : List (DexName × List PoolReference) :=
  range strBytes none (under (dexOf assetX assetY) ans.assetPairings)

variable {ans} {assetX assetY : AssetEntry}

theorem mem_dexes {dex : DexName} {ids : List PoolReference} :
    (dex, ids) ∈ ans.dexes assetX assetY ↔
      ∃ pairing, ans.assetPairings.lookup pairing = some ids ∧ pairing.assetX = assetX ∧
        pairing.assetY = assetY ∧ pairing.dex = dex := by
  rw [dexes, mem_range, mem_under]
  simp only [dexOf, isAfter, and_true]
  constructor
  · rintro ⟨pairing, found, h⟩
    split at h
    · rename_i same
      exact ⟨pairing, found, same.1, same.2, Option.some.inj h⟩
    · cases h
  · rintro ⟨pairing, found, rfl, rfl, rfl⟩
    exact ⟨pairing, found, by simp⟩

/-- The first page of the pools of a pair. -/
theorem listPoolEntries_pair :
    ans.listPoolEntries (some { assetPair := some (assetX, assetY), dex := none }) none none =
      .ok (((ans.dexes assetX assetY).take DEFAULT_LIMIT).map fun e =>
        (DexAssetPairing.new assetX assetY e.1, e.2)) := rfl

end AnsHost

end AbstractFramework.Ans
