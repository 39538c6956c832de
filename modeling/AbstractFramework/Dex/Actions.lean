import AbstractFramework.Sdk.Dex

/-! # The messages of the dex adapter

What the adapter is asked to do on a dex, with assets and pools that nobody has checked yet.
-/

namespace AbstractFramework.Dex

open AbstractFramework Fallible Sdk Ans Voting

/-! ## Unchecked assets -/

structure AssetUnchecked where
  info : AssetInfoUnchecked
  amount : Nat
deriving DecidableEq, Repr

/-- `cw_asset::AssetError`. -/
inductive AssetError where
  | Std (e : StdError)
  | CannotCastToStdCoin (asset : Asset)
deriving DecidableEq

def AssetUnchecked.check (addrValidate : String → Except StdError Addr) (asset : AssetUnchecked) :
    Except AssetError Asset := do
  let info ← (asset.info.check addrValidate).mapError AssetError.Std
  return { info, amount := asset.amount }

/-- `Coin::try_from`. -/
def coinTryFrom (asset : Asset) : Except AssetError Coin :=
  match asset.info with
  | .Native denom => .ok { denom, amount := asset.amount }
  | .Cw20 _ => .error (.CannotCastToStdCoin asset)

/-! ## Actions -/

structure SwapNode where
  poolId : UncheckedPoolAddress
  askAsset : AssetInfoUnchecked
deriving DecidableEq

/-- Possible raw actions to perform on the dex. -/
inductive DexAction where
  | ProvideLiquidity (pool : UncheckedPoolAddress) (assets : List AssetUnchecked)
      (maxSpread : Option Decimal)
  | WithdrawLiquidity (pool : UncheckedPoolAddress) (lpToken : AssetUnchecked)
  | Swap (pool : UncheckedPoolAddress) (offerAsset : AssetUnchecked)
      (askAsset : AssetInfoUnchecked) (maxSpread beliefPrice : Option Decimal)
  | RouteSwap (route : List SwapNode) (offerAsset : AssetUnchecked)
      (maxSpread beliefPrice : Option Decimal)
deriving DecidableEq

inductive DexExecuteMsg where
  | UpdateFee (swapFee : Option Decimal) (recipientAccount : Option UInt32)
  | Action (dex : DexName) (action : DexAction)
deriving DecidableEq

end AbstractFramework.Dex
