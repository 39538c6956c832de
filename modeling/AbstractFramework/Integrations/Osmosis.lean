import Mathlib.Algebra.Ring.Nat
import AbstractFramework.Integrations.Exchange

/-! # Osmosis

The exchange of the chain itself: pools have numbers and assets are coins.  Liquidity is
provided with as many shares as the smaller of the two deposits pays for, counted from the
reserves that the chain reports.
-/

namespace AbstractFramework.Integrations

open AbstractFramework Fallible Sdk Ans Voting Dex Platforms

/-! ## The chain -/

/-- `PoolAsset`. -/
structure OsmosisPoolAsset where
  token : Option Coin
  weight : String
deriving DecidableEq, Repr

/-- `osmosis::gamm::v1beta1::Pool`.  The amounts of osmosis' coins are texts; here they are
    the numbers that these texts stand for. -/
structure OsmosisPool where
  poolAssets : List OsmosisPoolAsset
  totalShares : Option Coin
deriving DecidableEq, Repr

/-- The queries that the chain answers; each answer is unwrapped. -/
structure OsmosisQuerier where
  estimateSwapExactAmountIn : (poolId : Nat) → (tokenIn : Coin) → (tokenOutDenom : String) →
    Option Nat
  pool : (poolId : Nat) → Option OsmosisPool

structure SwapAmountInRoute where
  poolId : Nat
  tokenOutDenom : String
deriving DecidableEq, Repr

/-- `MsgJoinPool`. -/
structure JoinPool where
  sender : Addr
  poolId : Nat
  shareOutAmount : Nat
  tokenInMaxs : List Coin
deriving DecidableEq, Repr

inductive OsmosisMsg where
  | SwapExactAmountIn (sender : Addr) (routes : List SwapAmountInRoute) (tokenIn : Coin)
      (tokenOutMinAmount : Nat)
  | Join (msg : JoinPool)
  | ExitPool (sender : Addr) (poolId shareInAmount : Nat) (tokenOutMins : List Coin)
deriving DecidableEq

/-- Osmosis app-chain dex implementation. -/
structure Osmosis where
  addrAsSender : Option Addr
deriving DecidableEq, Repr

/-! ## Numbers -/

def unwrapErr : ExchangeError := .Panicked "called `Result::unwrap()` on an `Err` value"

/-- `amount.parse::<Uint128>().unwrap()`. -/
def parseUint128 (amount : Nat) : Except ExchangeError Nat :=
  if amount < 2 ^ 128 then .ok amount else .error unwrapErr

/-- `amount.parse::<Uint256>().unwrap()`. -/
def parseUint256 (amount : Nat) : Except ExchangeError Nat :=
  if amount < 2 ^ 256 then .ok amount else .error unwrapErr

/-- `Uint128::multiply_ratio`. -/
def multiplyRatio (n numerator denominator : Nat) : Except ExchangeError Nat :=
  if denominator = 0 then .error (.Panicked "Denominator must not be zero")
  else if n * numerator / denominator < 2 ^ 128 then .ok (n * numerator / denominator)
  else .error (.Panicked "Multiplication overflow")

/-- `Decimal256::from_ratio`. -/
def decimal256FromRatio (numerator denominator : Nat) : Except ExchangeError Decimal :=
  if denominator = 0 then .error (.Panicked "Denominator must not be zero")
  else if numerator * 10 ^ 18 / denominator < 2 ^ 256 then
    .ok ⟨numerator * 10 ^ 18 / denominator⟩
  else .error (.Panicked "Multiplication overflow")

/-- `Decimal256 * Decimal256`. -/
def decimal256Mul (a b : Decimal) : Except ExchangeError Decimal :=
  if a.atomics * b.atomics / 10 ^ 18 < 2 ^ 256 then .ok ⟨a.atomics * b.atomics / 10 ^ 18⟩
  else .error (.Panicked "attempt to multiply with overflow")

theorem parseUint128_eq_ok {amount n : Nat} :
    parseUint128 amount = .ok n ↔ amount < 2 ^ 128 ∧ n = amount := by
  rw [parseUint128, ite_ok_eq_ok]

theorem multiplyRatio_eq_ok {n numerator denominator m : Nat} :
    multiplyRatio n numerator denominator = .ok m ↔
      denominator ≠ 0 ∧ n * numerator / denominator < 2 ^ 128 ∧
        m = n * numerator / denominator := by
  rw [multiplyRatio, ite_error_eq_ok, ite_ok_eq_ok]

namespace Osmosis

variable (self : Osmosis) (deps : OsmosisQuerier)

/-! ## Swaps -/

/-- `addr_as_sender.expect("no local account")`. -/
def sender : Except ExchangeError Addr := okOr self.addrAsSender (.Panicked "no local account")

def nativeDenom : AssetInfo → Except ExchangeError String
  | .Native denom => .ok denom
  | info => .error (.UnsupportedAssetType info)

def toCoin (asset : Asset) : Except ExchangeError Coin :=
  (coinTryFrom asset).mapError ExchangeError.Asset

def fetchData (addrAsSender : Addr) : Osmosis := { addrAsSender := some addrAsSender }

def swap (poolId : PoolAddress) (offerAsset : Asset) (askAsset : AssetInfo) :
    Except ExchangeError (List (CosmosMsg OsmosisMsg)) := do
  let pairAddress ← expectId poolId
  let tokenOutDenom ← nativeDenom askAsset
  let routes := [{ poolId := pairAddress, tokenOutDenom }]
  let tokenIn ← toCoin offerAsset
  let sender ← self.sender
  return [.Other (.SwapExactAmountIn sender routes tokenIn 1)]

def swapRoute (swapRoute : List CheckedSwapNode) (offerAsset : Asset) :
    Except ExchangeError (List (CosmosMsg OsmosisMsg)) := do
  let routes ← swapRoute.mapM fun swapNode => do
    let pairAddress ← expectId swapNode.poolId
    let tokenOutDenom ← nativeDenom swapNode.askAsset
    return { poolId := pairAddress, tokenOutDenom : SwapAmountInRoute }
  let tokenIn ← toCoin offerAsset
  let sender ← self.sender
  return [.Other (.SwapExactAmountIn sender routes tokenIn 1)]

def simulateSwap (poolId : PoolAddress) (offerAsset : Asset) (askAsset : AssetInfo) :
    Except ExchangeError Simulation := do
  let poolId ← expectId poolId
  let tokenOutDenom ← nativeDenom askAsset
  let tokenIn ← toCoin offerAsset
  let tokenOutAmount ← okOr (deps.estimateSwapExactAmountIn poolId tokenIn tokenOutDenom) unwrapErr
  let returnAmount ← parseUint128 tokenOutAmount
  return { returnAmount, spread := 0, fee := 0, feeOnInput := false }

/-! ## Liquidity -/

def queryPoolData (poolId : Nat) : Except ExchangeError OsmosisPool :=
  okOr (deps.pool poolId) unwrapErr

def computeOsmoShareOutAmount (poolAsset₀ poolAsset₁ : Coin) (deposit₀ deposit₁ totalShare : Nat) :
    Except ExchangeError Nat := do
  -- min(1, 2)
  let pool₀ ← parseUint128 poolAsset₀.amount
  let share₀ ← multiplyRatio deposit₀ totalShare pool₀
  let pool₁ ← parseUint128 poolAsset₁.amount
  let share₁ ← multiplyRatio deposit₁ totalShare pool₁
  return min share₀ share₁

/-- The price of the deposits, lowered by the tolerance, is not above that of the pool. -/
def priceHolds (oneMinusSlippageTolerance : Decimal) (deposit deposit' pool pool' : Nat) :
    Except ExchangeError Bool := do
  let offered ← decimal256FromRatio deposit deposit'
  let lowered ← decimal256Mul offered oneMinusSlippageTolerance
  let price ← decimal256FromRatio pool pool'
  return lowered.atomics ≤ price.atomics

def assertSlippageTolerance (slippageTolerance : Option Decimal) (deposit₀ deposit₁ : Nat)
    (poolAsset₀ poolAsset₁ : Coin) : Except ExchangeError Unit :=
  match slippageTolerance with
  | none => .ok ()
  | some slippageTolerance => do
    ensure (slippageTolerance.atomics ≤ Decimal.one.atomics)
      (.Std (.msg "slippage_tolerance cannot bigger than 1"))
    let oneMinus : Decimal := ⟨Decimal.one.atomics - slippageTolerance.atomics⟩
    let pool₀ ← parseUint256 poolAsset₀.amount
    let pool₁ ← parseUint256 poolAsset₁.amount
    -- Ensure each prices are not dropped as much as slippage tolerance rate
    let first ← priceHolds oneMinus deposit₀ deposit₁ pool₀ pool₁
    ensure (first = true) (.MaxSlippageAssertion slippageTolerance OSMOSIS)
    let second ← priceHolds oneMinus deposit₁ deposit₀ pool₁ pool₀
    ensure (second = true) (.MaxSlippageAssertion slippageTolerance OSMOSIS)

/-- The coins that are offered, sorted. -/
def tokenInMaxs (offerAssets : List Asset) : Except ExchangeError (List Coin) := do
  let tokens ← offerAssets.mapM fun asset => (coinTryFrom asset).mapError fun _ => unwrapErr
  return sortCoins tokens

/-- The deposit of one of the assets of the pool. -/
def depositOf (tokenInMaxs : List Coin) (poolAsset : Coin) : Except ExchangeError Nat := do
  let coin ← okOr (tokenInMaxs.find? fun coin => coin.denom = poolAsset.denom)
    (.Panicked "wrong asset provided")
  parseUint128 coin.amount

/-- The message that joins the pool with the assets. -/
def joinPool (poolId : Nat) (offerAssets : List Asset) (maxSpread : Option Decimal) :
    Except ExchangeError JoinPool := do
  let tokenInMaxs ← tokenInMaxs offerAssets
  let pool ← queryPoolData deps poolId
  -- check for symmetric pools
  match pool.poolAssets with
  | asset₀ :: asset₁ :: _ => do
    ensure (asset₀.weight = asset₁.weight) (.BalancerNotSupported OSMOSIS)
    let poolAssets ← pool.poolAssets.mapM fun asset => okOr asset.token unwrapNone
    match poolAssets with
    | poolAsset₀ :: poolAsset₁ :: _ => do
      let deposit₀ ← depositOf tokenInMaxs poolAsset₀
      let deposit₁ ← depositOf tokenInMaxs poolAsset₁
      assertSlippageTolerance maxSpread deposit₀ deposit₁ poolAsset₀ poolAsset₁
      let totalShares ← okOr pool.totalShares unwrapNone
      let totalShare ← parseUint128 totalShares.amount
      let shareOutAmount ←
        computeOsmoShareOutAmount poolAsset₀ poolAsset₁ deposit₀ deposit₁ totalShare
      let sender ← okOr self.addrAsSender unwrapNone
      return { sender, poolId, shareOutAmount, tokenInMaxs }
    | _ => .error (.Panicked "index out of bounds")
  | _ => .error (.Panicked "index out of bounds")

def provideLiquidity (poolId : PoolAddress) (offerAssets : List Asset)
    (maxSpread : Option Decimal) : Except ExchangeError (List (CosmosMsg OsmosisMsg)) := do
  ensure (offerAssets.length ≤ 2) (.TooManyAssets 2)
  let (msgs, offerAssets) ←
    if offerAssets.any fun asset => asset.amount = 0 then
      swapHalf (simulateSwap deps poolId) (self.swap poolId) offerAssets
    else .ok ([], offerAssets)
  let poolId ← expectId poolId
  let osmoMsg ← joinPool self deps poolId offerAssets maxSpread
  return msgs ++ [.Other (.Join osmoMsg)]

def withdrawLiquidity (poolId : PoolAddress) (lpToken : Asset) :
    Except ExchangeError (List (CosmosMsg OsmosisMsg)) := do
  let poolId ← expectId poolId
  let sender ← okOr self.addrAsSender unwrapNone
  return [.Other (.ExitPool sender poolId lpToken.amount [])]

/-- Osmosis among the exchanges of the dex adapter. -/
def dexCommand (text : ExchangeError → String) : DexCommand Osmosis ExchangeError OsmosisMsg where
  name _ := OSMOSIS
  fetchData _ addrAsSender _ _ := .ok (fetchData addrAsSender)
  swap self poolId offerAsset askAsset _ _ := self.swap poolId offerAsset askAsset
  swapRoute self route offerAsset _ _ := self.swapRoute route offerAsset
  provideLiquidity self := self.provideLiquidity deps
  withdrawLiquidity := withdrawLiquidity
  simulateSwap _ := simulateSwap deps
  text

end Osmosis

end AbstractFramework.Integrations
