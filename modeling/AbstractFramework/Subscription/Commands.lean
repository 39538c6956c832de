import AbstractFramework.Objects.TimeWeightedAverage
import AbstractFramework.Sdk.Bank

/-! # The subscription app

An account sells subscriptions for an amount per second.  A subscriber stays on the list of
the active ones until somebody unsubscribes it after its time is over, and may claim
emissions as long as it is there.  The income is tracked as a time weighted average of the
number of active subscribers times the cost.
-/

namespace AbstractFramework.Subscription

open AbstractFramework Fallible Storage Voting Sdk Objects

/-! ## Data -/

def MAX_UNSUBS : Nat := 15

/-- Setting for protocol token emissions, over the names of the tokens. -/
inductive EmissionType (α : Type) where
  | None
  /-- A fixed number of tokens per second, shared by the subscribers. -/
  | SecondShared (amount : Decimal) (token : α)
  /-- A fixed number of tokens per second for each user. -/
  | SecondPerUser (amount : Decimal) (token : α)
deriving DecidableEq, Repr

structure SubscriptionConfig where
  paymentAsset : AssetInfo
  subscriptionCostPerSecond : Decimal
  subscriptionPerSecondEmissions : EmissionType AssetInfo
  unsubscribeHookAddr : Option Addr
deriving DecidableEq, Repr

structure SubscriptionState where
  activeSubs : Nat
deriving DecidableEq, Repr

structure Subscriber where
  /-- When the subscription ends. -/
  expirationTimestamp : Timestamp
  /-- Last time emissions were claimed. -/
  lastEmissionClaimTimestamp : Timestamp
deriving DecidableEq, Repr

structure SubscriptionStore where
  config : Option SubscriptionConfig
  state : Option SubscriptionState
  subscribers : Map Addr Subscriber
  expiredSubscribers : Map Addr Subscriber
  incomeTwa : Option TimeWeightedAverageData

/-- The storage before the app is instantiated. -/
def SubscriptionStore.empty : SubscriptionStore where
  config := none
  state := none
  subscribers := ∅
  expiredSubscribers := ∅
  incomeTwa := none

structure SubscriptionInstantiateMsg where
  paymentAsset : AssetInfoUnchecked
  subscriptionCostPerSecond : Decimal
  subscriptionPerSecondEmissions : EmissionType AssetInfoUnchecked
  incomeAveragingPeriod : Nat
  unsubscribeHookAddr : Option String

inductive SubscriptionExecuteMsg where
  | Pay (subscriberAddr : Option String)
  | Unsubscribe (unsubscribeAddrs : List String)
  | ClaimEmissions (addr : String)
  | UpdateSubscriptionConfig (paymentAsset : Option AssetInfoUnchecked)
      (subscriptionCostPerSecond : Option Decimal)
      (subscriptionPerSecondEmissions : Option (EmissionType AssetInfoUnchecked))
      (unsubscribeHookAddr : Option (Clearable String))
  | RefreshTWA

inductive DepositHookMsg where
  | Pay (subscriberAddr : Option String)

structure Cw20ReceiveMsg where
  sender : String
  amount : Nat
  /-- The payload, as far as it can be read. -/
  msg : Except String DepositHookMsg

inductive CustomExecuteMsg where
  | Module (msg : SubscriptionExecuteMsg)
  | Receive (msg : Cw20ReceiveMsg)

inductive SubscriptionError where
  | Std (e : StdError)
  | Abstract (text : String)
  | AbstractSdk (text : String)
  | Asset (text : String)
  | AdminError (text : String)
  | CheckedMultiplyFractionError (text : String)
  | WrongToken (payment : AssetInfo)
  | NotUsingCW20Hook
  | EmissionsAlreadyClaimed
  | InsufficientPayment (required : Nat) (payment : AssetInfo)
  | SubscriberEmissionsNotEnabled
  | NoOneUnsubbed
  | TooManyUnsubs
  | ZeroAveragePeriod
deriving DecidableEq

abbrev SubscriptionFailure := VoteFailure SubscriptionError

inductive AppMsg where
  /-- A transfer from the app. -/
  | Transfer (msg : TransferMsg)
  /-- `Execute` on the account, with transfers from there. -/
  | Execute (account : Addr) (msgs : List TransferMsg)
  /-- The unsubscribe hook. -/
  | Unsubscribed (contract : Addr) (unsubscribed : List Addr)
deriving DecidableEq

structure Response where
  action : Option String
  messages : List AppMsg
deriving DecidableEq

/-- What the app sees of the chain in one call. -/
structure SubscriptionDeps where
  block : BlockInfo
  /-- Block times are 64-bit numbers. -/
  time_lt : block.time < 2 ^ 64
  addrValidate : String → Except String Addr
  /-- `assert_admin` of the app's nested admin. -/
  assertAdmin : Addr → Except String Unit
  /-- The account that the app is installed on. -/
  account : Except String Addr

def fail {α : Type} (e : SubscriptionError) : Except SubscriptionFailure α := .error (.error e)

def stdError (text : String) : SubscriptionFailure := .error (.Std (.msg text))

def SubscriptionDeps.validate (deps : SubscriptionDeps) (human : String) :
    Except SubscriptionFailure Addr :=
  (deps.addrValidate human).mapError stdError

def SubscriptionDeps.validateAll (deps : SubscriptionDeps) :
    List String → Except SubscriptionFailure (List Addr)
  | [] => .ok []
  | human :: humans => do
    let addr ← deps.validate human
    let addrs ← deps.validateAll humans
    return addr :: addrs

/-! ## Storage -/

def loadConfig (s : SubscriptionStore) : Except SubscriptionFailure SubscriptionConfig :=
  okOr s.config (.error (.Std (.notFound "SubscriptionConfig")))

def loadState (s : SubscriptionStore) : Except SubscriptionFailure SubscriptionState :=
  okOr s.state (.error (.Std (.notFound "SubscriptionState")))

def loadTwa (s : SubscriptionStore) : Except SubscriptionFailure TimeWeightedAverageData :=
  okOr s.incomeTwa (.error (.Std (.notFound "TimeWeightedAverageData")))

def loadSubscriber (s : SubscriptionStore) (addr : Addr) : Except SubscriptionFailure Subscriber :=
  okOr (s.subscribers.lookup addr) (.error (.Std (.notFound "Subscriber")))

/-- `INCOME_TWA.accumulate` with the income of the active subscribers. -/
def accumulateIncome (deps : SubscriptionDeps) (activeSubs : Nat) (cost : Decimal)
    (s : SubscriptionStore) : Except SubscriptionFailure SubscriptionStore := do
  let active ← Objects.Decimal.fromWhole activeSubs (.Std (.msg "Decimal range exceeded"))
  let currentValue ← Objects.Decimal.mulChecked active cost
  let twa ← loadTwa s
  let accumulated ← twa.accumulate deps.block currentValue
  return { s with incomeTwa := some accumulated.1 }

namespace Subscriber

variable (subscriber : Subscriber)

def new (block : BlockInfo) (paidForSeconds : Nat) : Except SubscriptionFailure Subscriber := do
  let expirationTimestamp ← plusSeconds block.time paidForSeconds
  return { expirationTimestamp, lastEmissionClaimTimestamp := block.time }

def extend (paidForSeconds : Nat) : Except SubscriptionFailure Subscriber := do
  let expirationTimestamp ← plusSeconds subscriber.expirationTimestamp paidForSeconds
  return { subscriber with expirationTimestamp }

def isExpired (block : BlockInfo) : Prop := subscriber.expirationTimestamp ≤ block.time

instance (block : BlockInfo) : Decidable (subscriber.isExpired block) :=
  inferInstanceAs (Decidable (_ ≤ _))

end Subscriber

/-! ## Payments -/

/-- `Uint128::checked_mul_ceil`. -/
def checkedMulCeil (n : Nat) (d : Decimal) : Except SubscriptionFailure Nat :=
  if (n * d.atomics + (10 ^ 18 - 1)) / 10 ^ 18 < 2 ^ 128 then
    .ok ((n * d.atomics + (10 ^ 18 - 1)) / 10 ^ 18)
  else fail (.CheckedMultiplyFractionError "Conversion overflow")

/-- `Uint128::checked_div_floor`. -/
def checkedDivFloor (n : Nat) (d : Decimal) : Except SubscriptionFailure Nat :=
  if d.atomics = 0 then fail (.CheckedMultiplyFractionError "Divide by zero")
  else if n * 10 ^ 18 / d.atomics < 2 ^ 128 then .ok (n * 10 ^ 18 / d.atomics)
  else fail (.CheckedMultiplyFractionError "Conversion overflow")

/-- What a payment does to the subscriber and to the lists. -/
def subscribe (deps : SubscriptionDeps) (config : SubscriptionConfig) (asset : Asset)
    (requiredPayment paidForSeconds : Nat) (subscriberAddr : Addr) (s : SubscriptionStore) :
    Except SubscriptionFailure SubscriptionStore :=
  match s.subscribers.lookup subscriberAddr with
  | some activeSub => do
    -- Subscriber is active, update balance
    let activeSub ← activeSub.extend paidForSeconds
    return { s with subscribers := s.subscribers.insert subscriberAddr activeSub }
  | none => do
    -- Subscriber is (re)activating his subscription.
    ensure (requiredPayment ≤ asset.amount)
      (VoteFailure.error (.InsufficientPayment requiredPayment config.paymentAsset))
    let subscriber ← Subscriber.new deps.block paidForSeconds
    let subscriptionState ← loadState s
    let s ← accumulateIncome deps subscriptionState.activeSubs config.subscriptionCostPerSecond s
    let activeSubs ← addChecked 32 subscriptionState.activeSubs 1
    return { s with
      -- Remove from expired list in case it's re-sub
      expiredSubscribers := s.expiredSubscribers.erase subscriberAddr
      subscribers := s.subscribers.insert subscriberAddr subscriber
      state := some { activeSubs } }

def tryPay (deps : SubscriptionDeps) (asset : Asset) (subscriberAddr : Addr)
    (s : SubscriptionStore) : Except SubscriptionFailure (SubscriptionStore × Response) := do
  let config ← loadConfig s
  let twaData ← loadTwa s
  let account ← deps.account.mapError stdError
  -- Assert payment asset and claimed asset infos are the same
  ensure (config.paymentAsset = asset.info) (VoteFailure.error (.WrongToken config.paymentAsset))
  -- Minimum of one period worth to (re)-subscribe.
  let requiredPayment ← checkedMulCeil twaData.averagingPeriod config.subscriptionCostPerSecond
  let paidFor ← checkedDivFloor asset.amount config.subscriptionCostPerSecond
  let paidForSeconds := paidFor % 2 ^ 64
  let s ← subscribe deps config asset requiredPayment paidForSeconds subscriberAddr s
  return (s, { action := some "pay", messages := [.Transfer { asset, recipient := account }] })

/-! ## Emissions -/

/-- `Uint128` division. -/
def divChecked (a b : Nat) : Except SubscriptionFailure Nat :=
  if b = 0 then .error (.panicked "attempt to divide by zero") else .ok (a / b)

/-- What a subscriber gets for the seconds. -/
def EmissionType.asset (emissions : EmissionType AssetInfo) (secondsPassed activeSubs : Nat) :
    Except SubscriptionFailure Asset :=
  match emissions with
  | .None => fail .SubscriberEmissionsNotEnabled
  | .SecondShared sharedEmissions token => do
    let total ← mulFloorChecked secondsPassed sharedEmissions
    let amount ← divChecked total activeSubs
    return { info := token, amount }
  | .SecondPerUser perUserEmissions token => do
    let amount ← mulFloorChecked secondsPassed perUserEmissions
    return { info := token, amount }

/-- The subscriber after the claim, and the transfer to it. -/
def claimEmissionsMsg (deps : SubscriptionDeps) (subscriber : Subscriber) (subscriberAddr : Addr)
    (emissions : EmissionType AssetInfo) (activeSubs : Nat) :
    Except SubscriptionFailure (Subscriber × Option TransferMsg) := do
  ensure (subscriber.lastEmissionClaimTimestamp < deps.block.time)
    (VoteFailure.error .EmissionsAlreadyClaimed)
  -- `minus_seconds` of the whole seconds, so that the rest of the last second is counted again
  let duration := deps.block.time - seconds subscriber.lastEmissionClaimTimestamp * 1000000000
  let secondsPassed := seconds duration
  let asset ← emissions.asset secondsPassed activeSubs
  if asset.amount ≠ 0 then
    -- Update only if there was claim
    return ({ subscriber with lastEmissionClaimTimestamp := deps.block.time },
      some { asset, recipient := subscriberAddr })
  else return (subscriber, none)

/-- `executor.execute` of the actions on the account. -/
def executeOnAccount (deps : SubscriptionDeps) (actions : List TransferMsg) :
    Except SubscriptionFailure AppMsg := do
  let account ← deps.account.mapError fun text => VoteFailure.error (.AbstractSdk text)
  return .Execute account actions

def claimSubscriberEmissions (deps : SubscriptionDeps) (addr : String) (s : SubscriptionStore) :
    Except SubscriptionFailure (SubscriptionStore × Response) := do
  let subscriberAddr ← deps.validate addr
  let subscriptionState ← loadState s
  let subscriptionConfig ← loadConfig s
  let subscriber ← loadSubscriber s subscriberAddr
  let (subscriber, maybeAction) ← claimEmissionsMsg deps subscriber subscriberAddr
    subscriptionConfig.subscriptionPerSecondEmissions subscriptionState.activeSubs
  let s := { s with subscribers := s.subscribers.insert subscriberAddr subscriber }
  match maybeAction with
  | some action => do
    let message ← executeOnAccount deps [action]
    return (s, { action := some "claim_emissions", messages := [message] })
  | none => return (s, { action := some "claim_emissions", messages := [] })

/-! ## Unsubscribing -/

/-- What is known in the loop over the addresses. -/
structure Unsubs where
  store : SubscriptionStore
  activeSubs : Nat
  canceledSubs : List Addr
  claimActions : List TransferMsg

/-- A claim on the way out: none when just claimed or not enabled. -/
def claimOrNone (subscriber : Subscriber) :
    Except SubscriptionFailure (Subscriber × Option TransferMsg) →
      Except SubscriptionFailure (Subscriber × Option TransferMsg)
  | .error (.error .EmissionsAlreadyClaimed) => .ok (subscriber, none)
  | .error (.error .SubscriberEmissionsNotEnabled) => .ok (subscriber, none)
  | result => result

def unsubscribeOne (deps : SubscriptionDeps) (emissions : EmissionType AssetInfo) (u : Unsubs)
    (addr : Addr) : Except SubscriptionFailure Unsubs := do
  let subscriber ← loadSubscriber u.store addr
  if subscriber.isExpired deps.block then do
    let (subscriber, maybeClaimMsg) ← claimOrNone subscriber
      (claimEmissionsMsg deps subscriber addr emissions u.activeSubs)
    let activeSubs ← subChecked u.activeSubs 1
    return {
      store := { u.store with
        subscribers := u.store.subscribers.erase addr
        expiredSubscribers := u.store.expiredSubscribers.insert addr subscriber }
      activeSubs
      canceledSubs := u.canceledSubs ++ [addr]
      claimActions := u.claimActions ++ maybeClaimMsg.toList }
  else return u

def unsubscribe (deps : SubscriptionDeps) (unsubscribeAddrs : List String) (s : SubscriptionStore) :
    Except SubscriptionFailure (SubscriptionStore × Response) := do
  ensure (unsubscribeAddrs.length ≤ MAX_UNSUBS) (VoteFailure.error .TooManyUnsubs)
  let addrs ← deps.validateAll unsubscribeAddrs
  let subscriptionState ← loadState s
  let subscriptionConfig ← loadConfig s
  -- update income
  let s ← accumulateIncome deps subscriptionState.activeSubs
    subscriptionConfig.subscriptionCostPerSecond s
  let u ← addrs.foldlM (unsubscribeOne deps subscriptionConfig.subscriptionPerSecondEmissions)
    { store := s
      activeSubs := subscriptionState.activeSubs
      canceledSubs := []
      claimActions := [] }
  -- Error if no one unsubbed
  ensure (u.canceledSubs ≠ []) (VoteFailure.error .NoOneUnsubbed)
  -- An error of the executor leaves out its message
  let claims := (executeOnAccount deps u.claimActions).toOption.toList
  let hooks := subscriptionConfig.unsubscribeHookAddr.toList.map fun hook =>
    AppMsg.Unsubscribed hook u.canceledSubs
  return ({ u.store with state := some { activeSubs := u.activeSubs } },
    { action := some "unsubscribe", messages := claims ++ hooks })

/-! ## Config -/

def checkAsset (deps : SubscriptionDeps) (wrap : String → SubscriptionError)
    (asset : AssetInfoUnchecked) : Except SubscriptionFailure AssetInfo :=
  (asset.check deps.addrValidate).mapError fun text => VoteFailure.error (wrap text)

def EmissionType.check (deps : SubscriptionDeps) :
    EmissionType AssetInfoUnchecked → Except SubscriptionFailure (EmissionType AssetInfo)
  | .None => .ok .None
  | .SecondShared amount token => do
    let token ← checkAsset deps .Abstract token
    return .SecondShared amount token
  | .SecondPerUser amount token => do
    let token ← checkAsset deps .Abstract token
    return .SecondPerUser amount token

/-- A given value after its check, or else the old one. -/
def updated {α β : Type} (old : β) (check : α → Except SubscriptionFailure β) :
    Option α → Except SubscriptionFailure β
  | some new => check new
  | none => .ok old

def Clearable.check (deps : SubscriptionDeps) :
    Clearable String → Except SubscriptionFailure (Option Addr)
  | .Clear => .ok none
  | .Set human => do
    let addr ← deps.validate human
    return some addr

def updateSubscriptionConfig (deps : SubscriptionDeps) (info : MessageInfo)
    (paymentAsset : Option AssetInfoUnchecked) (subscriptionCostPerSecond : Option Decimal)
    (subscriptionPerSecondEmissions : Option (EmissionType AssetInfoUnchecked))
    (unsubscribeHookAddr : Option (Clearable String)) (s : SubscriptionStore) :
    Except SubscriptionFailure (SubscriptionStore × Response) := do
  (deps.assertAdmin info.sender).mapError fun text => VoteFailure.error (.AdminError text)
  let config ← loadConfig s
  let newPayment ← updated config.paymentAsset (checkAsset deps .Asset) paymentAsset
  let newEmissions ← updated config.subscriptionPerSecondEmissions (·.check deps)
    subscriptionPerSecondEmissions
  let newHook ← updated config.unsubscribeHookAddr (Clearable.check deps) unsubscribeHookAddr
  let newConfig : SubscriptionConfig := {
    paymentAsset := newPayment
    subscriptionCostPerSecond := subscriptionCostPerSecond.getD config.subscriptionCostPerSecond
    subscriptionPerSecondEmissions := newEmissions
    unsubscribeHookAddr := newHook }
  return ({ s with config := some newConfig },
    { action := some "update_subscription_config", messages := [] })

/-! ## Entry points -/

/-- `INCOME_TWA.try_update_value`. -/
def refreshTwa (deps : SubscriptionDeps) (s : SubscriptionStore) :
    Except SubscriptionFailure (SubscriptionStore × Response) := do
  let twa ← loadTwa s
  let refreshed ← twa.tryUpdateValue deps.block
  return ({ s with incomeTwa := some refreshed.1 }, { action := none, messages := [] })

def executeHandler (deps : SubscriptionDeps) (info : MessageInfo) (msg : SubscriptionExecuteMsg)
    (s : SubscriptionStore) : Except SubscriptionFailure (SubscriptionStore × Response) :=
  match msg with
  | .Pay subscriberAddr => do
    let addr ← updated info.sender deps.validate subscriberAddr
    match info.funds.getLast? with
    | some coin => tryPay deps (.ofCoin coin) addr s
    | none => fail .NotUsingCW20Hook
  | .Unsubscribe unsubscribeAddrs => unsubscribe deps unsubscribeAddrs s
  | .ClaimEmissions addr => claimSubscriberEmissions deps addr s
  | .UpdateSubscriptionConfig paymentAsset cost emissions hook =>
    updateSubscriptionConfig deps info paymentAsset cost emissions hook s
  | .RefreshTWA => refreshTwa deps s

def receiveCw20 (deps : SubscriptionDeps) (msgInfo : MessageInfo) (cw20Msg : Cw20ReceiveMsg)
    (s : SubscriptionStore) : Except SubscriptionFailure (SubscriptionStore × Response) := do
  let hook ← cw20Msg.msg.mapError stdError
  match hook with
  | .Pay subscriberAddr => do
    let asset : Asset := { info := .Cw20 msgInfo.sender, amount := cw20Msg.amount }
    let addr ← deps.validate (subscriberAddr.getD cw20Msg.sender)
    tryPay deps asset addr s

def instantiateHandler (deps : SubscriptionDeps) (msg : SubscriptionInstantiateMsg)
    (s : SubscriptionStore) : Except SubscriptionFailure SubscriptionStore := do
  let paymentAsset ← checkAsset deps .Asset msg.paymentAsset
  let emissions ← msg.subscriptionPerSecondEmissions.check deps
  let hook ← updated none (fun human => some <$> deps.validate human) msg.unsubscribeHookAddr
  let config : SubscriptionConfig := {
    paymentAsset
    subscriptionCostPerSecond := msg.subscriptionCostPerSecond
    subscriptionPerSecondEmissions := emissions
    unsubscribeHookAddr := hook }
  ensure (msg.incomeAveragingPeriod ≠ 0) (VoteFailure.error .ZeroAveragePeriod)
  return { s with
    config := some config
    state := some { activeSubs := 0 }
    incomeTwa := some (.instantiate deps.block none msg.incomeAveragingPeriod) }

/-- A call with the chain as it is then. -/
structure Call where
  deps : SubscriptionDeps
  info : MessageInfo
  msg : CustomExecuteMsg

def exec (c : Call) (s : SubscriptionStore) :
    Except SubscriptionFailure (SubscriptionStore × Response) :=
  match c.msg with
  | .Module msg => executeHandler c.deps c.info msg s
  | .Receive msg => receiveCw20 c.deps c.info msg s

end AbstractFramework.Subscription
