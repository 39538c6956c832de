import Mathlib.Algebra.Ring.Nat
import AbstractFramework.Lib.FixedPoint
import AbstractFramework.Dex.AnsActions
import AbstractFramework.Platforms.Adapters

/-! # Exchanges

What an exchange does for the dex adapter, the fee that the adapter takes of a swap, and the
messages that it makes of an action.  How an exchange swaps is its own affair: everything here
holds for any of them.
-/

namespace AbstractFramework.Dex

open AbstractFramework Fallible Sdk Ans Platforms Voting

/-! ## Fees -/

/-- A wrapper around Decimal to help handle fractional fees. -/
structure Fee where
  share : Decimal
  share_lt : share.atomics < Decimal.one.atomics
deriving DecidableEq

/-- Fails with the text of `AbstractError::Fee`. -/
def Fee.new (share : Decimal) : Except String Fee :=
  if share_lt : share.atomics < Decimal.one.atomics then .ok { share, share_lt }
  else .error "fee share must be lesser than 100%"

def Fee.compute (fee : Fee) (amount : Nat) : Nat := mulFloor amount fee.share

/-- A fee and who is paid. -/
structure UsageFee where
  fee : Fee
  recipient : Addr
deriving DecidableEq

def UsageFee.new (share : Decimal) (recipient : Addr) : Except String UsageFee := do
  let fee ← Fee.new share
  return { fee, recipient }

def UsageFee.compute (usageFee : UsageFee) (amount : Nat) : Nat :=
  mulFloor amount usageFee.fee.share

/-- `Decimal::percent(5)`. -/
def MAX_FEE : Decimal := ⟨5 * 10 ^ 16⟩

theorem MAX_FEE_lt_one : MAX_FEE.atomics < Decimal.one.atomics := by decide

/-- Fees for using the dex adapter. -/
structure DexFees where
  swapFee : Fee
  recipient : Addr
  swapFee_le : swapFee.share.atomics ≤ MAX_FEE.atomics
deriving DecidableEq

/-- `check_fee_share` comes first, so that `Fee::new` does not fail. -/
def DexFees.new (swapFeeShare : Decimal) (recipient : Addr) : Except String DexFees :=
  if small : swapFeeShare.atomics ≤ MAX_FEE.atomics then
    .ok {
      swapFee := { share := swapFeeShare, share_lt := Nat.lt_of_le_of_lt small MAX_FEE_lt_one }
      recipient
      swapFee_le := small }
  else .error "fee share can't be bigger than 0.05"

def DexFees.setSwapFeeShare (fees : DexFees) (newSwapFeeShare : Decimal) : Except String DexFees :=
  DexFees.new newSwapFeeShare fees.recipient

def DexFees.swapUsageFee (fees : DexFees) : Except String UsageFee :=
  UsageFee.new fees.swapFee.share fees.recipient

/-- Charge a fee on the asset: what is left of it, and the transfer of a fee above zero. -/
def chargeUsageFee (asset : Asset) (fee : UsageFee) : Asset × Option TransferMsg :=
  let feeAmount := fee.compute asset.amount
  if feeAmount = 0 then (asset, none)
  else
    ({ asset with amount := asset.amount - feeAmount },
      some { asset := { info := asset.info, amount := feeAmount }, recipient := fee.recipient })

section Charges

variable {fee : Fee} {fees : DexFees} {amount : Nat}

theorem Fee.compute_le : fee.compute amount ≤ amount := FixedPoint.mul_div_le fee.share_lt.le

theorem DexFees.swapUsageFee_eq :
    fees.swapUsageFee = .ok { fee := fees.swapFee, recipient := fees.recipient } := by
  have new : Fee.new fees.swapFee.share = .ok fees.swapFee := by
    simp [Fee.new, fees.swapFee.share_lt]
  simp [DexFees.swapUsageFee, UsageFee.new, new, ok_bind, pure, Except.pure]

/-- The transfer of a fee, if there is one. -/
def feeTransfer (info : AssetInfo) (amount : Nat) (recipient : Addr) : Option TransferMsg :=
  if amount = 0 then none else some { asset := { info, amount }, recipient }

theorem chargeUsageFee_eq {asset : Asset} {usageFee : UsageFee} :
    chargeUsageFee asset usageFee =
      ({ asset with amount := asset.amount - usageFee.fee.compute asset.amount },
        feeTransfer asset.info (usageFee.fee.compute asset.amount) usageFee.recipient) := by
  have same : usageFee.compute asset.amount = usageFee.fee.compute asset.amount := rfl
  rw [chargeUsageFee, same]
  by_cases none : usageFee.fee.compute asset.amount = 0
  · simp [feeTransfer, none]
  · simp [feeTransfer, none]

end Charges

/-! ## The operations of an exchange -/

/-- A message to the chain: a transfer, or another one that an exchange makes. -/
inductive CosmosMsg (M : Type) where
  | Transfer (msg : TransferMsg)
  | Other (msg : M)
deriving DecidableEq

/-- `SwapNode<Addr>`. -/
structure CheckedSwapNode where
  poolId : PoolAddress
  askAsset : AssetInfo
deriving DecidableEq

/-- The result of `DexCommand::simulate_swap`. -/
structure Simulation where
  returnAmount : Nat
  spread : Nat
  fee : Nat
  feeOnInput : Bool
deriving DecidableEq

/-- Ensures DEX adapters support the expected functionality.  `X` are the exchanges, in the
    state that they are fetched in, `E` their errors and `M` their messages; all see the same
    chain. -/
structure DexCommand (X E M : Type) where
  name : X → String
  fetchData : X → (addrAsSender abstractRegistry : Addr) → AnsHost → Except E X
  swap : X → (poolId : PoolAddress) → (offerAsset : Asset) → (askAsset : AssetInfo) →
    (beliefPrice maxSpread : Option Decimal) → Except E (List (CosmosMsg M))
  swapRoute : X → (swapRoute : List CheckedSwapNode) → (offerAsset : Asset) →
    (beliefPrice maxSpread : Option Decimal) → Except E (List (CosmosMsg M))
  provideLiquidity : X → (poolId : PoolAddress) → (offerAssets : List Asset) →
    (maxSpread : Option Decimal) → Except E (List (CosmosMsg M))
  withdrawLiquidity : X → (poolId : PoolAddress) → (lpToken : Asset) →
    Except E (List (CosmosMsg M))
  simulateSwap : X → (poolId : PoolAddress) → (offerAsset : Asset) → (askAsset : AssetInfo) →
    Except E Simulation
  /-- An error in words. -/
  text : E → String

/-- The errors of the adapter: those of its requests, those of the exchanges, and the rest. -/
inductive ActionError (E : Type) where
  | Request (e : DexError)
  | Exchange (e : E)
  /-- The registry, the name service or an account cannot be found. -/
  | AbstractSdk
  /-- `AbstractSdkError::ApiQuery` of the name service. -/
  | ApiQuery (e : AnsHostError)
  | AnsHostError (e : AnsHostError)
  /-- `AbstractError::Fee`. -/
  | Fee (text : String)
  /-- `AbstractError::Asset`. -/
  | Asset (e : AssetError)
  | TooFewAssets
  | IbcMsgQuery
  | InvalidGenerateMessage
  | Unauthorized
deriving DecidableEq

/-! ## Resolving the exchange -/

/-- The exchanges that the features of a build bring in. -/
structure Features (X : Type) where
  wynd : Option X
  neutron : Option X
  osmosis : Option X
  fin : Option X
  astrovault : Option X

/-- The names that there is an exchange for.  There is no feature `astroport`. -/
def resolveExchange {X : Type} (features : Features X) (value : String) : Except DexError X :=
  if value = WYNDEX then okOr features.wynd (.ForeignDex value)
  else if value = NEUTRON then okOr features.neutron (.ForeignDex value)
  else if value = OSMOSIS then okOr features.osmosis (.ForeignDex value)
  else if value = FIN then okOr features.fin (.ForeignDex value)
  else if value = ASTROVAULT then okOr features.astrovault (.ForeignDex value)
  else .error (.ForeignDex value)

/-- What the adapter works with on its chain. -/
structure DexDeps (X : Type) extends Context where
  features : Features X
  abstractRegistry : Option Addr
  dexFees : Option DexFees
  /-- The account that has claimed the namespace `abstract`. -/
  abstractNamespace : Option Addr
  /-- The local accounts by their sequence. -/
  localAccount : UInt32 → Option Addr

/-- The exchanges that a build can have. -/
def EXCHANGES : List String := [WYNDEX, NEUTRON, OSMOSIS, FIN, ASTROVAULT]

theorem mem_EXCHANGES {X : Type} {features : Features X} {value : String} {exchange : X}
    (h : resolveExchange features value = .ok exchange) : value ∈ EXCHANGES := by
  by_contra other
  simp only [EXCHANGES, List.mem_cons, List.not_mem_nil, or_false, not_or] at other
  obtain ⟨notWyndex, notNeutron, notOsmosis, notFin, notAstrovault⟩ := other
  simp [resolveExchange, notWyndex, notNeutron, notOsmosis, notFin, notAstrovault] at h

/-- Only the plain name of an exchange resolves to it. -/
theorem resolveExchange_plain {X : Type} {features : Features X} {value : String} {exchange : X}
    (h : resolveExchange features value = .ok exchange) : '>' ∉ value.toList := by
  have plain : ∀ name ∈ EXCHANGES, '>' ∉ name.toList := by decide
  exact plain value (mem_EXCHANGES h)

/-! ## Resolving an action -/

section Actions

variable {X E M : Type} (commands : DexCommand X E M) (deps : DexDeps X)

def checkPool (pool : UncheckedPoolAddress) : Except (ActionError E) PoolAddress :=
  (pool.check deps.addrValidate).mapError fun e => .Request (.AbstractOs e)

def checkInfo (info : AssetInfoUnchecked) : Except (ActionError E) AssetInfo :=
  (info.check deps.addrValidate).mapError fun e => .Request (.Asset (.Std e))

def checkAsset (asset : AssetUnchecked) : Except (ActionError E) Asset :=
  (asset.check deps.addrValidate).mapError fun e => .Request (.Asset e)

/-- `SwapNode::check`. -/
def checkNode (node : SwapNode) : Except (ActionError E) CheckedSwapNode := do
  let poolId ← checkPool deps node.poolId
  let askAsset ← (node.askAsset.check deps.addrValidate).mapError fun e => ActionError.Asset (.Std e)
  return { poolId, askAsset }

def loadFees : Except (ActionError E) DexFees :=
  okOr deps.dexFees (.Request (.Std (.notFound "abstract_dex_standard::msg::DexFees")))

/-- Account for the fee of a swap. -/
def chargeSwap (offerAsset : Asset) : Except (ActionError E) (Asset × Option TransferMsg) := do
  let dexFees ← loadFees deps
  let usageFee ← dexFees.swapUsageFee.mapError ActionError.Fee
  return chargeUsageFee offerAsset usageFee

def fetchData (exchange : X) (sender : Addr) : Except (ActionError E) X := do
  let registry ← okOr deps.abstractRegistry .AbstractSdk
  let ansHost ← okOr deps.ansHost .AbstractSdk
  (commands.fetchData exchange sender registry ansHost).mapError ActionError.Exchange

namespace DexAdapter

/-- The messages of a swap, with the fee at their end. -/
def resolveSwap (sender : Addr) (offerAsset : AssetUnchecked) (askAsset : AssetInfoUnchecked)
    (pool : UncheckedPoolAddress) (exchange : X) (maxSpread beliefPrice : Option Decimal) :
    Except (ActionError E) (List (CosmosMsg M)) := do
  let poolAddress ← checkPool deps pool
  let offerAsset ← checkAsset deps offerAsset
  let askAsset ← checkInfo deps askAsset
  let (offerAsset, feeMsg) ← chargeSwap deps offerAsset
  let exchange ← fetchData commands deps exchange sender
  let swapMsgs ← (commands.swap exchange poolAddress offerAsset askAsset beliefPrice
    maxSpread).mapError ActionError.Exchange
  return swapMsgs ++ (feeMsg.map CosmosMsg.Transfer).toList

def resolveRouteSwap (sender : Addr) (offerAsset : AssetUnchecked) (swapRoute : List SwapNode)
    (exchange : X) (maxSpread beliefPrice : Option Decimal) :
    Except (ActionError E) (List (CosmosMsg M)) := do
  let offerAsset ← checkAsset deps offerAsset
  let swapRoute ← swapRoute.mapM (checkNode deps)
  let (offerAsset, feeMsg) ← chargeSwap deps offerAsset
  let exchange ← fetchData commands deps exchange sender
  let swapMsgs ← (commands.swapRoute exchange swapRoute offerAsset beliefPrice maxSpread).mapError
    ActionError.Exchange
  return swapMsgs ++ (feeMsg.map CosmosMsg.Transfer).toList

def resolveProvideLiquidity (sender : Addr) (offerAssets : List AssetUnchecked)
    (pool : UncheckedPoolAddress) (exchange : X) (maxSpread : Option Decimal) :
    Except (ActionError E) (List (CosmosMsg M)) := do
  let poolAddress ← checkPool deps pool
  let offerAssets ← offerAssets.mapM (checkAsset deps)
  let exchange ← fetchData commands deps exchange sender
  (commands.provideLiquidity exchange poolAddress offerAssets maxSpread).mapError
    ActionError.Exchange

def resolveWithdrawLiquidity (sender : Addr) (lpToken : AssetUnchecked)
    (pool : UncheckedPoolAddress) (exchange : X) : Except (ActionError E) (List (CosmosMsg M)) := do
  let poolAddress ← checkPool deps pool
  let lpToken ← checkAsset deps lpToken
  let exchange ← fetchData commands deps exchange sender
  (commands.withdrawLiquidity exchange poolAddress lpToken).mapError ActionError.Exchange

def PROVIDE_LIQUIDITY : Nat := 7542
def WITHDRAW_LIQUIDITY : Nat := 7546
def SWAP : Nat := 7544
def SWAP_ROUTE : Nat := 7545

/-- Resolve the provided dex action on a local dex: the messages, and the id of the reply. -/
def resolveDexAction (sender : Addr) (action : DexAction) (exchange : X) :
    Except (ActionError E) (List (CosmosMsg M) × Nat) :=
  match action with
  | .ProvideLiquidity pool assets maxSpread => do
    ensure (2 ≤ assets.length) .TooFewAssets
    let msgs ← resolveProvideLiquidity commands deps sender assets pool exchange maxSpread
    return (msgs, PROVIDE_LIQUIDITY)
  | .WithdrawLiquidity pool lpToken => do
    let msgs ← resolveWithdrawLiquidity commands deps sender lpToken pool exchange
    return (msgs, WITHDRAW_LIQUIDITY)
  | .Swap pool offerAsset askAsset maxSpread beliefPrice => do
    let msgs ← resolveSwap commands deps sender offerAsset askAsset pool exchange maxSpread
      beliefPrice
    return (msgs, SWAP)
  | .RouteSwap route offerAsset maxSpread beliefPrice => do
    let msgs ← resolveRouteSwap commands deps sender offerAsset route exchange maxSpread beliefPrice
    return (msgs, SWAP_ROUTE)

end DexAdapter

end Actions

end AbstractFramework.Dex
