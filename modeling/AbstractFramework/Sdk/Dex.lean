import AbstractFramework.Ans.Host
import AbstractFramework.Voting.SimpleVoting

/-! # Swaps through the dex adapter

A swap is asked for with the names of its assets and resolved into their addresses and a
pool before it is sent to the adapter.
-/

namespace AbstractFramework.Sdk

open AbstractFramework Fallible Ans Voting

/-- `DexAction::Swap` on a dex. -/
structure DexSwap where
  dex : DexName
  pool : PoolAddress
  offerAsset : Asset
  askAsset : AssetInfo
  maxSpread : Option Decimal
  beliefPrice : Option Decimal
deriving DecidableEq

/-- The first pool address to be able to swap the assets on the dex. -/
def poolAddress (ans : AnsHost) (dex : DexName) (assets : AssetEntry × AssetEntry) :
    Except AnsHostError PoolAddress := do
  let dexPair := DexAssetPairing.new assets.1 assets.2 dex
  let poolRef ← ans.queryAssetPairing dexPair
  let found ← okOr poolRef.getLast? (.DexPairingNotFound dexPair ans.address)
  return found.poolAddress

/-- `WholeDexAction::resolve` of a swap. -/
def resolveSwap (ans : AnsHost) (dex : DexName) (offerAsset : AnsAsset) (askAsset : AssetEntry)
    (maxSpread beliefPrice : Option Decimal) : Except AnsHostError DexSwap := do
  let offerName := toAsciiLowercase offerAsset.name
  let askName := toAsciiLowercase askAsset
  let offerInfo ← ans.queryAsset offerName
  let askInfo ← ans.queryAsset askName
  let pool ← poolAddress ans dex (offerName, askName)
  return {
    dex
    pool
    offerAsset := { info := offerInfo, amount := offerAsset.amount }
    askAsset := askInfo
    maxSpread
    beliefPrice }

/-- A swap that resolves offers the asset that the name service knows by the name. -/
theorem resolveSwap_ok {ans : AnsHost} {dex : DexName} {offerAsset : AnsAsset}
    {askAsset : AssetEntry} {maxSpread beliefPrice : Option Decimal} {swap : DexSwap}
    (h : resolveSwap ans dex offerAsset askAsset maxSpread beliefPrice = .ok swap) :
    ans.assetAddresses.lookup (toAsciiLowercase offerAsset.name) = some swap.offerAsset.info ∧
      swap.offerAsset.amount = offerAsset.amount ∧
      ans.assetAddresses.lookup (toAsciiLowercase askAsset) = some swap.askAsset ∧
      swap.dex = dex := by
  simp only [resolveSwap, AnsHost.queryAsset, bind_eq_ok, pure_eq_ok, okOr_eq_ok] at h
  obtain ⟨offerInfo, offered, askInfo, asked, pool, -, rfl⟩ := h
  exact ⟨offered, rfl, asked, rfl⟩

end AbstractFramework.Sdk
