import AbstractFramework.Ans.Host
import AbstractFramework.Lib.Buckets
import AbstractFramework.Lib.Machine

/-! # The messages of the name service

The owner adds and removes names of assets, dexes and pools.  A message first makes all of
its additions and then its removals.  The messages on contract addresses and channels write
tables of their own and are left out.
-/

namespace AbstractFramework.Ans

open AbstractFramework Fallible Storage Sdk

/-! ## State -/

abbrev UniquePoolId := Nat

inductive PoolType where
  | ConstantProduct
  | Stable
  | Weighted
  | LiquidityBootstrap
  | ConcentratedLiquidity
deriving DecidableEq, Repr

structure PoolMetadata where
  dex : DexName
  poolType : PoolType
  assets : List AssetEntry
deriving DecidableEq, Repr

section Commands

variable [Crates]

structure AnsState extends AnsHost where
  poolMetadata : Map UniquePoolId PoolMetadata
  nextUniquePoolId : UniquePoolId
  ownership : Crates.CwOwnership

inductive ContractError where
  | Std (e : StdError)
  | Abstract (e : AbstractError)
  | Asset (e : StdError)
  | Ownership (text : String)
  | InvalidAssetCount (min max provided : Nat)
  | UnregisteredDex (dex : String)
  | UnregisteredAsset (asset : String)
  | Panicked (text : String)
deriving DecidableEq, Repr

/-! ## Messages -/

inductive ExecuteMsg where
  | UpdateAssetAddresses (toAdd : List (String × AssetInfoUnchecked)) (toRemove : List String)
  | UpdateDexes (toAdd toRemove : List String)
  | UpdatePools (toAdd : List (UncheckedPoolAddress × PoolMetadata)) (toRemove : List UniquePoolId)
  | UpdateOwnership (action : Crates.CwAction)

structure Input where
  addrValidate : String → Except StdError Addr
  block : BlockInfo
  sender : Addr
  msg : ExecuteMsg

def assertOwner (s : AnsState) (sender : Addr) : Except ContractError Unit :=
  match Crates.cwOwner s.ownership with
  | none => .error (.Ownership "Contract ownership has been renounced")
  | some owner =>
    ensure (sender = owner) (.Ownership "Caller is not the contract's current owner")

/-! ## Assets -/

/-- `AssetEntry::new`. -/
def assetEntry (entry : String) : AssetEntry := toAsciiLowercase entry

def checkAsset (addrValidate : String → Except StdError Addr) (asset : AssetInfoUnchecked) :
    Except ContractError AssetInfo :=
  (asset.check addrValidate).mapError ContractError.Asset

def saveAsset (addrValidate : String → Except StdError Addr) (s : AnsState)
    (entry : String × AssetInfoUnchecked) : Except ContractError AnsState := do
  let (name, newAsset) := entry
  let asset ← checkAsset addrValidate newAsset
  let entry := assetEntry name
  return { s with
    assetAddresses := s.assetAddresses.insert entry asset
    revAssetAddresses := s.revAssetAddresses.insert asset entry }

def removeAsset (s : AnsState) (name : String) : AnsState :=
  let entry := assetEntry name
  match s.assetAddresses.lookup entry with
  | some asset => { s with
      assetAddresses := s.assetAddresses.erase entry
      revAssetAddresses := s.revAssetAddresses.erase asset }
  | none => s

def updateAssetAddresses (i : Input) (toAdd : List (String × AssetInfoUnchecked))
    (toRemove : List String) (s : AnsState) : Except ContractError AnsState := do
  assertOwner s i.sender
  let s ← toAdd.foldlM (saveAsset i.addrValidate) s
  return toRemove.foldl removeAsset s

/-! ## Dexes -/

def registerDex (dexes : List DexName) (dex : String) : List DexName :=
  if dex ∈ dexes then dexes else dexes ++ [toAsciiLowercase dex]

def deregisterDex (dexes : List DexName) (dex : String) : List DexName :=
  dexes.filter (· ≠ dex)

def loadDexes (s : AnsState) : Except ContractError (List DexName) :=
  okOr s.registeredDexes (.Std (.notFound "Vec<String>"))

/-- `REGISTERED_DEXES.update` with one list of names, if there are any. -/
def updateDexes (update : List DexName → String → List DexName) (names : List String)
    (s : AnsState) : Except ContractError AnsState :=
  if names.isEmpty then .ok s
  else do
    let dexes ← loadDexes s
    return { s with registeredDexes := some (names.foldl update dexes) }

def updateDexRegistry (i : Input) (toAdd toRemove : List String) (s : AnsState) :
    Except ContractError AnsState := do
  assertOwner s i.sender
  let s ← updateDexes registerDex toAdd s
  updateDexes deregisterDex toRemove s

/-! ## Pools -/

def MIN_POOL_ASSETS : Nat := 2
def MAX_POOL_ASSETS : Nat := 5

/-- The pairs that an action is executed on, in their order. -/
def execOnAssetPairings (assets : List AssetEntry) : List (AssetEntry × AssetEntry) :=
  assets.zipIdx.flatMap fun (assetX, i) =>
    assets.zipIdx.filterMap fun (assetY, j) =>
      -- Skip self-pairings
      if i = j ∨ assetX = assetY then none else some (assetX, assetY)

/-- The keys of a pool's pairings. -/
def pairingsOf (dex : DexName) (assets : List AssetEntry) : List DexAssetPairing :=
  (execOnAssetPairings assets).map fun (assetX, assetY) => DexAssetPairing.new assetX assetY dex

/-- Every pairing gets the pool once more; duplicates are not checked for. -/
def registerPoolPairings (pairings : Map DexAssetPairing (List PoolReference))
    (nextPoolId : UniquePoolId) (poolAddress : PoolAddress) (assets : List AssetEntry)
    (dex : DexName) : Map DexAssetPairing (List PoolReference) :=
  (pairingsOf dex assets).foldl
    (fun pairings key => pushAt pairings key { uniqueId := nextPoolId, poolAddress }) pairings

def removePoolPairings (pairings : Map DexAssetPairing (List PoolReference))
    (poolIdToRemove : UniquePoolId) (dex : DexName) (assets : List AssetEntry) :
    Map DexAssetPairing (List PoolReference) :=
  (pairingsOf dex assets).foldl (retainAt fun id => id.uniqueId ≠ poolIdToRemove) pairings

/-- The assets in lower case, if there are neither too few nor too many and all have a name. -/
def validatePoolAssets (s : AnsState) (assets : List AssetEntry) :
    Except ContractError (List AssetEntry) := do
  let assets := assets.map assetEntry
  ensure (MIN_POOL_ASSETS ≤ assets.length ∧ assets.length ≤ MAX_POOL_ASSETS)
    (.InvalidAssetCount MIN_POOL_ASSETS MAX_POOL_ASSETS assets.length)
  assets.forM fun asset => ensure (asset ∈ s.assetAddresses) (.UnregisteredAsset asset)
  return assets

/-- `UniquePoolId::increment`, an addition of `u64`. -/
def increment (id : UniquePoolId) : Except ContractError UniquePoolId :=
  if id + 1 < 2 ^ 64 then .ok (id + 1) else .error (.Panicked "attempt to add with overflow")

/-- The loop over the pools to add: the storage, the next id, and the ids that are given. -/
structure PoolLoop where
  state : AnsState
  nextUniquePoolId : UniquePoolId
  given : List UniquePoolId

def addPool (i : Input) (registeredDexes : List DexName) (loop : PoolLoop)
    (entry : UncheckedPoolAddress × PoolMetadata) : Except ContractError PoolLoop := do
  let (poolId, poolMetadata) := entry
  let poolId ← (poolId.check i.addrValidate).mapError ContractError.Abstract
  let assets ← validatePoolAssets loop.state poolMetadata.assets
  let poolMetadata := { poolMetadata with assets }
  let dex := toAsciiLowercase poolMetadata.dex
  ensure (dex ∈ registeredDexes) (.UnregisteredDex dex)
  let state := { loop.state with
    assetPairings :=
      registerPoolPairings loop.state.assetPairings loop.nextUniquePoolId poolId assets dex
    poolMetadata := loop.state.poolMetadata.insert loop.nextUniquePoolId poolMetadata }
  let nextUniquePoolId ← increment loop.nextUniquePoolId
  return { state, nextUniquePoolId, given := loop.given ++ [loop.nextUniquePoolId] }

def removePool (s : AnsState) (poolIdToRemove : UniquePoolId) : AnsState :=
  match s.poolMetadata.lookup poolIdToRemove with
  | some poolMetadata => { s with
      assetPairings :=
        removePoolPairings s.assetPairings poolIdToRemove poolMetadata.dex poolMetadata.assets
      poolMetadata := s.poolMetadata.erase poolIdToRemove }
  -- There is no existing metadata at that id, so we can skip it
  | none => s

/-- The dexes are only loaded if pools are added. -/
def dexesToAdd (toAdd : List (UncheckedPoolAddress × PoolMetadata)) (s : AnsState) :
    Except ContractError (List DexName) :=
  if toAdd.isEmpty then .ok [] else loadDexes s

/-- The storage after the message, and the ids that it gives to pools. -/
def updatePools (i : Input) (toAdd : List (UncheckedPoolAddress × PoolMetadata))
    (toRemove : List UniquePoolId) (s : AnsState) :
    Except ContractError (AnsState × List UniquePoolId) := do
  assertOwner s i.sender
  let registeredDexes ← dexesToAdd toAdd s
  let loop ← toAdd.foldlM (addPool i registeredDexes)
    { state := s, nextUniquePoolId := s.nextUniquePoolId, given := [] }
  let s := toRemove.foldl removePool loop.state
  return ({ s with nextUniquePoolId := loop.nextUniquePoolId }, loop.given)

/-! ## Entry points -/

structure InstantiateMsg where
  admin : String

def instantiate (address : Addr) (addrValidate : String → Except StdError Addr)
    (msg : InstantiateMsg) : Except ContractError AnsState := do
  let owner ← (addrValidate msg.admin).mapError ContractError.Std
  return {
    address
    assetAddresses := ∅
    revAssetAddresses := ∅
    assetPairings := ∅
    registeredDexes := some []
    poolMetadata := ∅
    nextUniquePoolId := 1
    ownership := Crates.initializeCwOwner owner }

def updateOwnership (i : Input) (action : Crates.CwAction) (s : AnsState) :
    Except ContractError AnsState := do
  let ownership ← (Crates.updateCwOwnership s.ownership i.block i.sender action).mapError
    ContractError.Ownership
  return { s with ownership }

/-- A message, with the ids that it gives to pools. -/
def execute (i : Input) (s : AnsState) : Except ContractError (AnsState × List UniquePoolId) :=
  match i.msg with
  | .UpdateAssetAddresses toAdd toRemove => do
    let s ← updateAssetAddresses i toAdd toRemove s
    return (s, [])
  | .UpdateDexes toAdd toRemove => do
    let s ← updateDexRegistry i toAdd toRemove s
    return (s, [])
  | .UpdatePools toAdd toRemove => updatePools i toAdd toRemove s
  | .UpdateOwnership action => do
    let s ← updateOwnership i action s
    return (s, [])

end Commands

end AbstractFramework.Ans
