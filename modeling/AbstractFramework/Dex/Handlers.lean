import AbstractFramework.Dex.Exchanges

/-! # The handlers of the dex adapter

The adapter executes an action, makes the messages of it for others to execute, and simulates
a swap by the raw assets or by their names.
-/

namespace AbstractFramework.Dex.Handlers

open AbstractFramework Fallible Sdk Ans Platforms Voting

section Handlers

variable {X E M : Type} (commands : DexCommand X E M) (deps : DexDeps X)

/-! ## Executing -/

/-- The requests of the adapter among its actions. -/
def actionAdapter (E : Type) : AdapterKind DexAction DexExecuteMsg (ActionError E) :=
  dexAdapter.mapError ActionError.Request

/-- `ExecuteMsg::Execute` for an account. -/
structure AccountExecute (M : Type) where
  account : Addr
  msgs : List (CosmosMsg M)
deriving DecidableEq

inductive DexResponse (M : Type) where
  | FeeUpdated (fees : DexFees)
  | Requested (response : Response (AccountExecute M) DexExecuteMsg)

def account : Except (ActionError E) Addr :=
  okOr deps.targetAccount (.Request (.Std (.msg "No target Account specified to execute on.")))

/-- `Executor::execute`. -/
def executorExecute (msgs : List (CosmosMsg M)) : Except (ActionError E) (AccountExecute M) := do
  let account ← account deps
  return { account, msgs }

/-- Handle an adapter request that can be executed on the local chain. -/
def handleLocalRequest (exchange : String) (action : DexAction) :
    Except (ActionError E) (AccountExecute M) := do
  let exchange ← (resolveExchange deps.features exchange).mapError ActionError.Request
  let targetAccount ← account deps
  let (msgs, _) ← DexAdapter.resolveDexAction commands deps targetAccount action exchange
  executorExecute deps msgs

/-- Only the owner of the namespace `abstract` can update the fee. -/
def updateFee (swapFee : Option Decimal) (recipientAccount : Option UInt32) :
    Except (ActionError E) DexFees := do
  let unwrapNone := "called `Option::unwrap()` on a `None` value"
  let owner ← okOr deps.abstractNamespace (.Request (.Panicked unwrapNone))
  let target ← okOr deps.targetAccount (.Request (.Panicked unwrapNone))
  ensure (owner = target) .Unauthorized
  let fee ← loadFees deps
  let fee ← match swapFee with
    | some swapFee => (fee.setSwapFeeShare swapFee).mapError ActionError.Fee
    | none => pure fee
  match recipientAccount with
  | some accountId => do
    let recipient ← okOr (deps.localAccount accountId) .AbstractSdk
    return { fee with recipient }
  | none => return fee

def executeHandler (msg : DexExecuteMsg) : Except (ActionError E) (DexResponse M) :=
  match msg with
  | .Action dex action =>
    (Platforms.executeHandler (actionAdapter E) (handleLocalRequest commands deps) deps.toContext
      dex action).map DexResponse.Requested
  | .UpdateFee swapFee recipientAccount =>
    (updateFee deps swapFee recipientAccount).map DexResponse.FeeUpdated

/-! ## Querying -/

/-- `DexAssetPairing`, of assets that go by `A`. -/
structure Pairing (A : Type) where
  assetX : A
  assetY : A
  dex : DexName
deriving DecidableEq

def Pairing.new {A : Type} (assetX assetY : A) (dexName : DexName) : Pairing A where
  assetX := assetX
  assetY := assetY
  dex := toAsciiLowercase dexName

/-- Response for simulating a swap. -/
structure SimulateSwapResponse (A : Type) where
  pool : Pairing A
  returnAmount : Nat
  spreadAmount : Nat
  /-- It could be withheld from either input or output, so the asset is included. -/
  commission : A × Nat
  usageFee : Nat
deriving DecidableEq

inductive DexQueryMsg where
  | SimulateSwap (offerAsset : AnsAsset) (askAsset : AssetEntry) (dex : DexName)
  | SimulateSwapRaw (offerAsset : AssetUnchecked) (askAsset : AssetInfoUnchecked)
      (pool : UncheckedPoolAddress) (dex : DexName)
  | GenerateMessages (message : DexExecuteMsg) (addrAsSender : String)
  | Fees

inductive DexQueryResponse (M : Type) where
  | SimulateSwap (response : SimulateSwapResponse AssetEntry)
  | SimulateSwapRaw (response : SimulateSwapResponse AssetInfoUnchecked)
  | GenerateMessages (messages : List (CosmosMsg M))
  | Fees (swapFee : Fee) (recipient : Addr)
deriving DecidableEq

def foreignDex (dex : DexName) : String := "DEX " ++ dex ++ " is not local to this network."

def simulateSwap (dex : DexName) (pool : PoolAddress) (offerAsset : Asset) (askAsset : AssetInfo) :
    Except (ActionError E) (SimulateSwapResponse AssetInfoUnchecked) := do
  let exchange ← (resolveExchange deps.features dex).mapError fun _ =>
    ActionError.Request (.Std (.msg (foreignDex dex)))
  let poolInfo := Pairing.new (uncheckedInfo offerAsset.info) (uncheckedInfo askAsset)
    (commands.name exchange)
  -- compute adapter fee
  let dexFees ← loadFees deps
  let adapterFee := dexFees.swapFee.compute offerAsset.amount
  let offerAsset := { offerAsset with amount := offerAsset.amount - adapterFee }
  let simulation ← (commands.simulateSwap exchange pool offerAsset askAsset).mapError fun e =>
    .Request (.Std (.msg (commands.text e)))
  let commissionAsset := if simulation.feeOnInput then askAsset else offerAsset.info
  return {
    pool := poolInfo
    returnAmount := simulation.returnAmount
    spreadAmount := simulation.spread
    commission := (uncheckedInfo commissionAsset, simulation.fee)
    usageFee := adapterFee }

/-- The messages of an action on a local dex. -/
def generateMessages (dex : DexName) (action : DexAction) (addrAsSender : String) :
    Except (ActionError E) (List (CosmosMsg M)) := do
  let (localDexName, overIbc) ←
    Platforms.isOverIbc (actionAdapter E) deps.isLocal deps.chainId dex
  ensure (overIbc = false) .IbcMsgQuery
  let exchange ← (resolveExchange deps.features localDexName).mapError ActionError.Request
  let addrAsSender ← (deps.addrValidate addrAsSender).mapError fun e => .Request (.Std e)
  let (messages, _) ← DexAdapter.resolveDexAction commands deps addrAsSender action exchange
  return messages

/-- A simulation by the names of the assets. -/
def simulateNamedSwap (offerAsset : AnsAsset) (askAsset : AssetEntry) (dex : DexName) :
    Except (ActionError E) (SimulateSwapResponse AssetEntry) := do
  let ans ← okOr deps.ansHost (.Request (.Panicked "called `Result::unwrap()` on an `Err` value"))
  let cwOfferAsset ← (ans.resolveAnsAsset offerAsset).mapError ActionError.ApiQuery
  let cwAskAsset ← (ans.queryAsset askAsset).mapError ActionError.ApiQuery
  let pool ← (poolAddress ans dex (offerAsset.name, askAsset)).mapError ActionError.AnsHostError
  let simulated ← simulateSwap commands deps dex pool cwOfferAsset cwAskAsset
  return {
    pool := Pairing.new offerAsset.name askAsset dex
    returnAmount := simulated.returnAmount
    spreadAmount := simulated.spreadAmount
    commission :=
      if simulated.commission.1 = uncheckedInfo cwAskAsset then (askAsset, simulated.commission.2)
      else (offerAsset.name, simulated.commission.2)
    usageFee := simulated.usageFee }

def queryHandler (msg : DexQueryMsg) : Except (ActionError E) (DexQueryResponse M) :=
  match msg with
  | .SimulateSwapRaw offerAsset askAsset pool dex => do
    let pool ← checkPool deps pool
    let offerAsset ← checkAsset deps offerAsset
    let askAsset ← checkInfo deps askAsset
    let response ← simulateSwap commands deps dex pool offerAsset askAsset
    return .SimulateSwapRaw response
  | .GenerateMessages message addrAsSender =>
    match message with
    | .Action dex action =>
      (generateMessages commands deps dex action addrAsSender).map DexQueryResponse.GenerateMessages
    | .UpdateFee _ _ => .error .InvalidGenerateMessage
  | .Fees => do
    let dexFees ← loadFees deps
    return .Fees dexFees.swapFee dexFees.recipient
  | .SimulateSwap offerAsset askAsset dex =>
    (simulateNamedSwap commands deps offerAsset askAsset dex).map DexQueryResponse.SimulateSwap

end Handlers

end AbstractFramework.Dex.Handlers
