import AbstractFramework.Integrations.Exchange
import AbstractFramework.Lib.Alignment

/-! # Astrovault

Pools are contracts of three kinds, known by the factory that they name.  A stable pool and a
ratio pool take a deposit as amounts in the order of their assets, so what is offered is brought
into this order first.  Fields of the messages that are always `None` are left out.
-/

namespace AbstractFramework.Integrations

open AbstractFramework Fallible Sdk Ans Voting Dex Platforms Alignment

def STANDARD_POOL_FACTORY : String :=
  "archway1cq6tgc32az7zpq5w7t2d89taekkn9q95g2g79ka6j46ednw7xkkq7n55a2"
def STABLE_POOL_FACTORY : String :=
  "archway19yzx44k7w7gsjjhumkd4sh9r0z6lscq583hgpu9s4yyl00z9lahq0ptra0"
def RATIO_POOL_FACTORY : String :=
  "archway1zlc00gjw4ecan3tkk5g0lfd78gyfldh4hvkv2g8z5qnwlkz9vqmsdfvs7q"

/-! ## The pools -/

inductive AstrovaultPoolType where
  | Standard
  | Stable (isXasset : Bool)
  | Ratio
deriving DecidableEq, Repr

structure PoolSettings where
  xassetModeMinter : Option String
deriving DecidableEq, Repr

structure PoolConfig where
  factory : String
  /-- To determine if pool is xAsset. -/
  poolSettings : Option PoolSettings
deriving DecidableEq, Repr

inductive AstrovaultAssetInfo where
  | Token (contractAddr : String)
  | NativeToken (denom : String)
deriving DecidableEq, Repr

structure AstrovaultAsset where
  info : AstrovaultAssetInfo
  amount : Nat
deriving DecidableEq, Repr

def AstrovaultAssetInfo.toString : AstrovaultAssetInfo → String
  | .NativeToken denom => denom
  | .Token contractAddr => contractAddr

def AstrovaultAsset.toString (asset : AstrovaultAsset) : String :=
  Nat.repr asset.amount ++ asset.info.toString

structure SimulationResponse where
  returnAmount : Nat
  spreadAmount : Nat
  commissionAmount : Nat
deriving DecidableEq, Repr

structure SwapCalcResponse where
  toAmountMinusFee : Nat
  feeAmount : Nat
deriving DecidableEq, Repr

/-- The queries that a pool answers. -/
structure AstrovaultQuerier where
  config : Addr → Except StdError PoolConfig
  poolInfo : Addr → Except StdError (List AstrovaultAssetInfo)
  simulation : Addr → (offerAsset : AstrovaultAsset) → Except StdError SimulationResponse
  /-- `swap_to_assets_amount` of the answer. -/
  swapSimulationStable : Addr → (amount swapFromAssetIndex swapToAssetIndex : Nat) →
    Except StdError (List Nat)
  swapSimulationRatio : Addr → (amount swapFromAssetIndex : Nat) →
    Except StdError SwapCalcResponse

inductive AstrovaultDexExecuteMsg where
  | SwapStandard (offerAsset : Option AstrovaultAsset)
  | SwapStable (swapToAssetIndex : Nat)
  | SwapRatio
  | ProvideLiquidity (first second : AstrovaultAsset) (slippageTolerance : Option Decimal)
  | DepositStable (assetsAmount : List Nat)
  | DepositRatio (first second : Nat)
deriving DecidableEq

inductive AstrovaultCw20HookMsg where
  | WithdrawLiquidity
  | WithdrawalXassetMode
  | WithdrawalToLockupStable (withdrawalLockupAssetsAmount : List Nat) (isInstantWithdrawal : Bool)
  | WithdrawalToLockupRatio (isInstantWithdrawal : Bool)
deriving DecidableEq

inductive AstrovaultMsg where
  | Execute (contractAddr : Addr) (msg : AstrovaultDexExecuteMsg) (funds : List Coin)
  /-- `Cw20ExecuteMsg::Send` of the token to the pool. -/
  | Swap (token : Addr) (contract : Addr) (amount : Nat) (msg : AstrovaultDexExecuteMsg)
  | Withdraw (token : Addr) (contract : Addr) (amount : Nat) (msg : AstrovaultCw20HookMsg)
  | Approve (msg : IncreaseAllowance)
deriving DecidableEq

structure Astrovault where
  addrAsSender : Option Addr
deriving DecidableEq, Repr

/-! ## Assets in the pool's terms -/

def cwAssetInfoToAstrovault : AssetInfo → AstrovaultAssetInfo
  | .Native denom => .NativeToken denom
  | .Cw20 contractAddr => .Token contractAddr.asStr

def cwAssetToAstrovault (asset : Asset) : AstrovaultAsset where
  info := cwAssetInfoToAstrovault asset.info
  amount := asset.amount

/-- Any not found asset is replaced by zero. -/
def notFound (item : AstrovaultAssetInfo) : AstrovaultAsset where
  info := item
  amount := 0

def astrovaultAssetsNormalizeOrder (assets : List AstrovaultAsset)
    (assetsOrder : List AstrovaultAssetInfo) : Except ExchangeError (List AstrovaultAsset) :=
  let (resultingAssets, assets) := align AstrovaultAsset.info notFound assetsOrder assets
  match assets with
  | [] => .ok resultingAssets
  | asset :: _ =>
    .error (.ArgumentMismatch asset.toString (assetsOrder.map AstrovaultAssetInfo.toString))

namespace Astrovault

variable (deps : AstrovaultQuerier)

def query {α : Type} (answer : Except StdError α) : Except ExchangeError α :=
  answer.mapError .Std

/-- The pool type is known by the factory contract of the pool. -/
def fetchPoolType (pool : Addr) : Except ExchangeError AstrovaultPoolType := do
  let config ← query (deps.config pool)
  if config.factory = STANDARD_POOL_FACTORY then .ok .Standard
  else if config.factory = STABLE_POOL_FACTORY then do
    let poolSettings ← okOr config.poolSettings unwrapNone
    .ok (.Stable poolSettings.xassetModeMinter.isSome)
  else if config.factory = RATIO_POOL_FACTORY then .ok .Ratio
  else .error (.Std (.msg "Couldn't query the astrovault pool type"))

/-- Where the asset is among those of the pool. -/
def assetIndex (assetInfos : List AstrovaultAssetInfo) (asset : AstrovaultAssetInfo) :
    Except ExchangeError Nat :=
  okOr (assetInfos.findIdx? fun a => a = asset)
    (.ArgumentMismatch asset.toString (assetInfos.map AstrovaultAssetInfo.toString))

/-! ## Swaps -/

def toCoin (asset : Asset) : Except ExchangeError Coin :=
  (coinTryFrom asset).mapError ExchangeError.Asset

/-- The message of a swap to a pool that names the offer or not; the index is cast to `u32`. -/
def swapMsg (poolType : AstrovaultPoolType) (pairAddress : Addr)
    (offerAsset : Option AstrovaultAsset) (askAsset : AssetInfo) :
    Except ExchangeError AstrovaultDexExecuteMsg :=
  match poolType with
  | .Standard => .ok (.SwapStandard offerAsset)
  | .Stable _ => do
    let assetInfos ← query (deps.poolInfo pairAddress)
    let index ← assetIndex assetInfos (cwAssetInfoToAstrovault askAsset)
    return .SwapStable (index % 2 ^ 32)
  | .Ratio => .ok .SwapRatio

def nativeSwap (poolType : AstrovaultPoolType) (pairAddress : Addr) (offerAsset : Asset)
    (askAsset : AssetInfo) : Except ExchangeError (List (CosmosMsg AstrovaultMsg)) := do
  let msg ← swapMsg deps poolType pairAddress (some (cwAssetToAstrovault offerAsset)) askAsset
  let coin ← toCoin offerAsset
  return [.Other (.Execute pairAddress msg [coin])]

def cw20Swap (cw20Addr : Addr) (poolType : AstrovaultPoolType) (pairAddress : Addr)
    (offerAsset : Asset) (askAsset : AssetInfo) :
    Except ExchangeError (List (CosmosMsg AstrovaultMsg)) := do
  let msg ← swapMsg deps poolType pairAddress none askAsset
  return [.Other (.Swap cw20Addr pairAddress offerAsset.amount msg)]

def fetchData (addrAsSender : Addr) : Astrovault := { addrAsSender := some addrAsSender }

def swap (poolId : PoolAddress) (offerAsset : Asset) (askAsset : AssetInfo) :
    Except ExchangeError (List (CosmosMsg AstrovaultMsg)) := do
  let pairAddress ← expectContract poolId
  let poolType ← fetchPoolType deps pairAddress
  match offerAsset.info with
  | .Native _ => nativeSwap deps poolType pairAddress offerAsset askAsset
  | .Cw20 addr => cw20Swap deps addr poolType pairAddress offerAsset askAsset

def simulateSwap (poolId : PoolAddress) (offerAsset : Asset) (askAsset : AssetInfo) :
    Except ExchangeError Simulation := do
  let pairAddress ← expectContract poolId
  let poolType ← fetchPoolType deps pairAddress
  match poolType with
  | .Standard => do
    let simulated ← query (deps.simulation pairAddress (cwAssetToAstrovault offerAsset))
    -- commission paid in result asset
    return { returnAmount := simulated.returnAmount, spread := simulated.spreadAmount,
             fee := simulated.commissionAmount, feeOnInput := false }
  | .Stable _ => do
    let assetInfos ← query (deps.poolInfo pairAddress)
    let askIndex ← assetIndex assetInfos (cwAssetInfoToAstrovault askAsset)
    let offerIndex ← assetIndex assetInfos (cwAssetInfoToAstrovault offerAsset.info)
    let swapToAssetsAmount ← query (deps.swapSimulationStable pairAddress offerAsset.amount
      (offerIndex % 2 ^ 32) (askIndex % 2 ^ 32))
    -- the fee is popped after the amount that is returned
    return { returnAmount := swapToAssetsAmount.getLastD 0, spread := 0,
             fee := swapToAssetsAmount.dropLast.getLastD 0, feeOnInput := false }
  | .Ratio => do
    let assetInfos ← query (deps.poolInfo pairAddress)
    let offerIndex ← assetIndex assetInfos (cwAssetInfoToAstrovault offerAsset.info)
    let simulated ← query (deps.swapSimulationRatio pairAddress offerAsset.amount
      (offerIndex % 2 ^ 8))
    return { returnAmount := simulated.toAmountMinusFee, spread := 0,
             fee := simulated.feeAmount, feeOnInput := false }

/-! ## Liquidity -/

def swapRemoveOfNone : ExchangeError :=
  .Panicked "swap_remove index (is 0) should be < len (is 0)"

/-- The offer in the order of the pool's assets. -/
def normalized (pairAddress : Addr) (astrovaultAssets : List AstrovaultAsset) :
    Except ExchangeError (List AstrovaultAsset) := do
  let assetInfos ← query (deps.poolInfo pairAddress)
  astrovaultAssetsNormalizeOrder astrovaultAssets assetInfos

/-- Zero amounts are removed in funds. -/
def retainNonZero (coins : List Coin) : List Coin := coins.filter fun c => c.amount ≠ 0

/-- The message that deposits the assets in a pool of the type. -/
def liquidityMsg (poolType : AstrovaultPoolType) (pairAddress : Addr) (offerAssets : List Asset)
    (maxSpread : Option Decimal) : Except ExchangeError AstrovaultMsg :=
  let astrovaultAssets := offerAssets.map cwAssetToAstrovault
  let coins := coinsInAssets offerAssets
  match poolType with
  | .Standard => do
    let (first, rest) ← okOr (swapRemove astrovaultAssets 0) swapRemoveOfNone
    let (second, _) ← okOr (swapRemove rest 0) swapRemoveOfNone
    return .Execute pairAddress (.ProvideLiquidity first second maxSpread) coins
  | .Stable _ => do
    let astrovaultAssets ← normalized deps pairAddress astrovaultAssets
    return .Execute pairAddress (.DepositStable (astrovaultAssets.map AstrovaultAsset.amount))
      (retainNonZero coins)
  | .Ratio => do
    let astrovaultAssets ← normalized deps pairAddress astrovaultAssets
    match astrovaultAssets with
    | first :: second :: _ =>
      return .Execute pairAddress (.DepositRatio first.amount second.amount) (retainNonZero coins)
    | _ => .error (.Panicked "index out of bounds")

def provideLiquidity (poolId : PoolAddress) (offerAssets : List Asset)
    (maxSpread : Option Decimal) : Except ExchangeError (List (CosmosMsg AstrovaultMsg)) := do
  let pairAddress ← expectContract poolId
  let poolType ← fetchPoolType deps pairAddress
  ensure (offerAssets.length ≤ 2) (.TooManyAssets 2)
  -- Stable and ratio pools could be deposited one at a time
  let (swapMsgs, offerAssets) ←
    if poolType = .Standard ∧ (offerAssets.any fun asset => asset.amount = 0) then
      swapHalf (simulateSwap deps poolId) (swap deps poolId) offerAssets
    else .ok ([], offerAssets)
  -- approval msgs for cw20 tokens (if present)
  let approvals := (cwApproveMsgs offerAssets pairAddress).map fun msg => .Other (.Approve msg)
  let msg ← liquidityMsg deps poolType pairAddress offerAssets maxSpread
  return swapMsgs ++ approvals ++ [.Other msg]

def hookMsg (poolType : AstrovaultPoolType) (lpAmount : Nat) : AstrovaultCw20HookMsg :=
  match poolType with
  | .Standard => .WithdrawLiquidity
  | .Stable true => .WithdrawalXassetMode
  -- Withdraw equal amounts, but remainder goes to first asset
  | .Stable false => .WithdrawalToLockupStable [lpAmount / 2 + lpAmount % 2, lpAmount / 2] true
  | .Ratio => .WithdrawalToLockupRatio true

def withdrawLiquidity (poolId : PoolAddress) (lpToken : Asset) :
    Except ExchangeError (List (CosmosMsg AstrovaultMsg)) := do
  let pairAddress ← expectContract poolId
  let poolType ← fetchPoolType deps pairAddress
  match lpToken.info with
  | .Cw20 token =>
    return [.Other (.Withdraw token pairAddress lpToken.amount (hookMsg poolType lpToken.amount))]
  | .Native _ => .error (.UnavailableMethodForNative "send")

/-- Astrovault among the exchanges of the dex adapter; it keeps the trait's routes, which panic. -/
def dexCommand (text : ExchangeError → String) :
    DexCommand Astrovault ExchangeError AstrovaultMsg where
  name _ := ASTROVAULT
  fetchData _ addrAsSender _ _ := .ok (fetchData addrAsSender)
  swap _ poolId offerAsset askAsset _ _ := swap deps poolId offerAsset askAsset
  swapRoute _ _ _ _ _ := .error (.Panicked "not implemented")
  provideLiquidity _ := provideLiquidity deps
  withdrawLiquidity _ := withdrawLiquidity deps
  simulateSwap _ := simulateSwap deps
  text

end Astrovault

end AbstractFramework.Integrations
