import Mathlib.Data.List.Permutation
import AbstractFramework.Dex.Exchanges

/-! # What the exchanges share

The errors of the exchanges that the dex adapter works with, and the parts of their code that
they have in common: the addresses of pools, the coins and allowances that go with a message,
and the swap that comes before a deposit of one asset only.
-/

namespace AbstractFramework.Integrations

open AbstractFramework Fallible Sdk Ans Voting Dex

/-- `DexError`, as far as the exchanges return it. -/
inductive ExchangeError where
  | Std (e : StdError)
  | AbstractOs (e : AbstractError)
  | Asset (e : AssetError)
  /-- The error of this name of `AssetError`. -/
  | UnavailableMethodForNative (method : String)
  | UnsupportedAssetType (info : AssetInfo)
  | TooFewAssets
  | TooManyAssets (most : Nat)
  | ArgumentMismatch (asset : String) (pool : List String)
  | BalancerNotSupported (dex : String)
  | MaxSlippageAssertion (tolerance : Decimal) (dex : String)
  | Panicked (text : String)
deriving DecidableEq

def unwrapNone : ExchangeError := .Panicked "called `Option::unwrap()` on a `None` value"

/-! ## Pools -/

def expectContract : PoolAddress → Except ExchangeError Addr
  | .Contract addr => .ok addr
  | _ => .error (.AbstractOs (.Assert "Pool address not a contract address."))

def expectId : PoolAddress → Except ExchangeError Nat
  | .Id id => .ok id
  | _ => .error (.AbstractOs (.Assert "Pool address not an numerical ID."))

/-! ## Coins and allowances -/

/-- `Cw20ExecuteMsg::IncreaseAllowance` to a token, without an expiration. -/
structure IncreaseAllowance where
  contractAddr : Addr
  spender : Addr
  amount : Nat
deriving DecidableEq, Repr

def cwApproveMsgs (assets : List Asset) (spender : Addr) : List IncreaseAllowance :=
  assets.filterMap fun asset => match asset.info with
    | .Cw20 addr => some { contractAddr := addr, spender, amount := asset.amount }
    | .Native _ => none

/-- In the order of the denoms, as the chain wants them. -/
def sortCoins (coins : List Coin) : List Coin :=
  coins.insertionSort fun a b => strBytes a.denom ≤ strBytes b.denom

def coinsInAssets (assets : List Asset) : List Coin :=
  sortCoins (assets.filterMap fun asset => match asset.info with
    | .Native denom => some { denom, amount := asset.amount }
    | .Cw20 _ => none)

instance : Std.Total fun a b : Coin => strBytes a.denom ≤ strBytes b.denom :=
  ⟨fun _ _ => List.le_total _ _⟩

instance : IsTrans Coin fun a b => strBytes a.denom ≤ strBytes b.denom :=
  ⟨fun _ _ _ => List.le_trans⟩

theorem sortCoins_perm (coins : List Coin) : (sortCoins coins).Perm coins :=
  List.perm_insertionSort _ coins

theorem sortCoins_ascending {coins : List Coin} (differ : (coins.map Coin.denom).Nodup) :
    (sortCoins coins).Pairwise fun a b => strBytes a.denom < strBytes b.denom := by
  have sorted := List.pairwise_insertionSort
    (fun a b : Coin => strBytes a.denom ≤ strBytes b.denom) coins
  have apart : (sortCoins coins).Pairwise fun a b => a.denom ≠ b.denom :=
    List.pairwise_map.mp (((sortCoins_perm coins).map Coin.denom).nodup_iff.mpr differ)
  refine (sorted.and apart).imp ?_
  rintro a b ⟨le, ne⟩
  exact Std.lt_of_le_of_ne le fun same => ne (strBytes_injective same)

/-- The denom of a native asset. -/
def denomOf : AssetInfo → Option String
  | .Native denom => some denom
  | .Cw20 _ => none

/-- The contract of a cw20 token. -/
def tokenOf : AssetInfo → Option Addr
  | .Native _ => none
  | .Cw20 contractAddr => some contractAddr

theorem denomOf_eq_some {info : AssetInfo} {denom : String} :
    denomOf info = some denom ↔ info = .Native denom := by
  cases info <;> simp [denomOf]

theorem tokenOf_eq_some {info : AssetInfo} {contractAddr : Addr} :
    tokenOf info = some contractAddr ↔ info = .Cw20 contractAddr := by
  cases info <;> simp [tokenOf]

variable {assets : List Asset} {spender : Addr}

theorem mem_cwApproveMsgs {msg : IncreaseAllowance} :
    msg ∈ cwApproveMsgs assets spender ↔
      msg.spender = spender ∧ ⟨.Cw20 msg.contractAddr, msg.amount⟩ ∈ assets := by
  rw [cwApproveMsgs, List.mem_filterMap]
  constructor
  · rintro ⟨⟨_ | token, amount⟩, listed, isMsg⟩
    · cases isMsg
    · cases isMsg
      exact ⟨rfl, listed⟩
  · rintro ⟨rfl, listed⟩
    exact ⟨_, listed, rfl⟩

theorem mem_coinsInAssets {coin : Coin} :
    coin ∈ coinsInAssets assets ↔ Asset.ofCoin coin ∈ assets := by
  rw [coinsInAssets, (sortCoins_perm _).mem_iff, List.mem_filterMap]
  constructor
  · rintro ⟨⟨denom | _, amount⟩, listed, isCoin⟩
    · cases isCoin
      exact listed
    · cases isCoin
  · intro listed
    exact ⟨_, listed, rfl⟩

theorem coins_denoms :
    ((coinsInAssets assets).map Coin.denom).Perm ((assets.map Asset.info).filterMap denomOf) := by
  rw [coinsInAssets]
  refine ((sortCoins_perm _).map Coin.denom).trans (.of_eq ?_)
  rw [List.map_filterMap, List.filterMap_map]
  refine List.filterMap_congr fun asset _ => ?_
  rcases asset with ⟨_ | _, _⟩ <;> rfl

theorem cwApproveMsgs_tokens :
    (cwApproveMsgs assets spender).map IncreaseAllowance.contractAddr =
      (assets.map Asset.info).filterMap tokenOf := by
  rw [cwApproveMsgs, List.map_filterMap, List.filterMap_map]
  refine List.filterMap_congr fun asset _ => ?_
  rcases asset with ⟨_ | _, _⟩ <;> rfl

/-- Assets of different kinds come with coins of different denoms. -/
theorem coinsInAssets_ascending (differ : (assets.map Asset.info).Nodup) :
    (coinsInAssets assets).Pairwise fun a b => strBytes a.denom < strBytes b.denom := by
  have denoms : ((coinsInAssets assets).map Coin.denom).Nodup := by
    rw [coins_denoms.nodup_iff]
    exact differ.filterMap fun info info' denom isDenom isDenom' =>
      (denomOf_eq_some.mp isDenom).trans (denomOf_eq_some.mp isDenom').symm
  exact sortCoins_ascending (((sortCoins_perm _).map Coin.denom).nodup_iff.mp denoms)

/-- Assets of different kinds need allowances of different tokens. -/
theorem cwApproveMsgs_nodup (differ : (assets.map Asset.info).Nodup) :
    ((cwApproveMsgs assets spender).map IncreaseAllowance.contractAddr).Nodup := by
  rw [cwApproveMsgs_tokens]
  exact differ.filterMap fun info info' token isToken isToken' =>
    (tokenOf_eq_some.mp isToken).trans (tokenOf_eq_some.mp isToken').symm

/-! ## Deposits of one asset -/

section Half

variable {M : Type} (simulate : Asset → AssetInfo → Except ExchangeError Simulation)
  (swap : Asset → AssetInfo → Except ExchangeError (List (CosmosMsg M)))

/-- Half of the asset that is offered is swapped into the one of which nothing is. -/
def swapHalf (offerAssets : List Asset) :
    Except ExchangeError (List (CosmosMsg M) × List Asset) := do
  -- find 0 asset
  let (nonZeroOfferAsset, index) ←
    okOr (offerAssets.zipIdx.find? fun e => e.1.amount ≠ 0) .TooFewAssets
  -- the other asset in offer_assets is the one with amount zero
  let askAsset ← okOr offerAssets[(index + 1) % 2]? unwrapNone
  -- we want to offer half of the non-zero asset to swap into the ask asset
  let offerAsset : Asset := { info := nonZeroOfferAsset.info, amount := nonZeroOfferAsset.amount / 2 }
  -- simulate swap to get the amount of ask asset we can provide after swapping
  let simulated ← simulate offerAsset askAsset.info
  let swapMsg ← swap offerAsset askAsset.info
  return (swapMsg, [offerAsset, { info := askAsset.info, amount := simulated.returnAmount }])

variable {simulate swap}

/-- Both orders of the assets give the same half. -/
theorem swapHalf_of_perm {offers : List Asset} {x y : AssetInfo} {offered : Nat}
    (pair : offers.Perm [⟨x, offered⟩, ⟨y, 0⟩]) (some_offered : offered ≠ 0) :
    swapHalf simulate swap offers = do
      let simulated ← simulate ⟨x, offered / 2⟩ y
      let swapMsg ← swap ⟨x, offered / 2⟩ y
      return (swapMsg, [⟨x, offered / 2⟩, ⟨y, simulated.returnAmount⟩]) := by
  rcases List.perm_pair.mp pair with rfl | rfl
  · simp [swapHalf, some_offered, okOr, ok_bind]
  · simp [swapHalf, some_offered, okOr, ok_bind]

end Half

end AbstractFramework.Integrations
