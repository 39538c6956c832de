import AbstractFramework.Lib.Snapshots
import AbstractFramework.Sdk.Dex

/-! # The payment app

The app takes tips for the account on which it is installed.  What it receives is forwarded
to the account, and where the account wants one asset, the others are swapped for it on the
exchanges that it trusts.  What each tipper has given is kept with the heights at which it
changed.
-/

namespace AbstractFramework.Payment

open AbstractFramework Fallible Storage Voting Sdk Ans Snapshots

/-! ## Data -/

def APP_ID : String := "abstract:payment"
def MAX_SPREAD_PERCENT : Nat := 20

structure Config where
  desiredAsset : Option AssetEntry
  denomAsset : String
  exchanges : List DexName
deriving DecidableEq

structure PaymentStore where
  config : Option Config
  /-- The total of a tipper in an asset. -/
  tippers : SnapshotMap (Addr × AssetEntry) Nat
  tipCount : Option Nat
  tipperCount : SnapshotMap Addr Nat

/-- The storage before the app is instantiated. -/
def PaymentStore.empty : PaymentStore where
  config := none
  tippers := .empty
  tipCount := none
  tipperCount := .empty

structure AppInstantiateMsg where
  desiredAsset : Option AssetEntry
  denomAsset : String
  exchanges : List DexName

inductive AppExecuteMsg where
  | Tip
  | UpdateConfig (desiredAsset : Option (Clearable AssetEntry)) (denomAsset : Option String)
      (exchanges : Option (List DexName))

/-- The payload of the message is not read. -/
structure Cw20ReceiveMsg where
  sender : String
  amount : Nat

inductive CustomExecuteMsg where
  | Module (msg : AppExecuteMsg)
  | Receive (msg : Cw20ReceiveMsg)

inductive AbstractSdkError where
  | ApiQuery (api moduleId : String) (error : AnsHostError)
  | AnsHostError (error : AnsHostError)
  | Std (e : StdError)
  /-- What the account or a module answers. -/
  | Other (text : String)
deriving DecidableEq

inductive AppError where
  | Std (e : StdError)
  | AbstractSdk (e : AbstractSdkError)
  | Asset (text : String)
  | Admin (text : String)
  | DesiredAssetDoesNotExist
  | DexNotRegistered (dex : DexName)
deriving DecidableEq

abbrev PaymentFailure := VoteFailure AppError

inductive AppMsg where
  /-- A transfer from the app. -/
  | Transfer (msg : TransferMsg)
  /-- A request to the dex adapter in the name of the account. -/
  | DexAction (adapter account : Addr) (swap : DexSwap)
deriving DecidableEq

structure Response where
  action : String
  messages : List AppMsg
  attributes : List (String × String)
deriving DecidableEq

/-- What the app sees of the chain in one call. -/
structure PaymentDeps where
  block : BlockInfo
  addrValidate : String → Except String Addr
  /-- `assert_admin` of the app's nested admin. -/
  assertAdmin : Addr → Except String Unit
  /-- The account that the app is installed on. -/
  account : Except String Addr
  ans : AnsHost
  /-- The address of the dex adapter on the account. -/
  dexAdapter : Except String Addr
  /-- The amount that the adapter says a swap would return. -/
  simulateSwap : DexName → AnsAsset → AssetEntry → Except String Nat

def sdkError (e : AbstractSdkError) : PaymentFailure := .error (.AbstractSdk e)

/-- `wrap_query_error` of the name service client. -/
def wrapQueryError (e : AnsHostError) : PaymentFailure :=
  sdkError (.ApiQuery "AbstractNameServiceClient" APP_ID e)

def PaymentDeps.validate (deps : PaymentDeps) (human : String) : Except PaymentFailure Addr :=
  (deps.addrValidate human).mapError fun text => VoteFailure.error (.Std (.msg text))

def loadConfig (s : PaymentStore) : Except PaymentFailure Config :=
  okOr s.config (.error (.Std (.notFound "Config")))

/-! ## The history of the tips -/

def addToTotal (sender : Addr) (height : Nat) (tippers : SnapshotMap (Addr × AssetEntry) Nat)
    (asset : AnsAsset) : Except PaymentFailure (SnapshotMap (Addr × AssetEntry) Nat) := do
  let totalTipperAmount := (tippers.mayLoad (sender, asset.name)).getD 0
  let totalTipperAmount ← addChecked 128 totalTipperAmount asset.amount
  return tippers.save (sender, asset.name) totalTipperAmount height

def updateTipperHistory (sender : Addr) (assets : List AnsAsset) (height : Nat)
    (s : PaymentStore) : Except PaymentFailure PaymentStore := do
  -- Update total counts
  let totalCount ← okOr s.tipCount (VoteFailure.error (.Std (.notFound "u32")))
  let totalCount ← addChecked 32 totalCount 1
  -- Update tipper counts
  let tipperCount := (s.tipperCount.mayLoad sender).getD 0
  let tipperCount ← addChecked 32 tipperCount 1
  -- Update tipper amount
  let tippers ← assets.foldlM (addToTotal sender height) s.tippers
  return { s with
    tipCount := some totalCount
    tipperCount := s.tipperCount.save sender tipperCount height
    tippers }

/-! ## Tips -/

/-- What is known in the loop over the received assets. -/
structure Split where
  swapMsgs : List AppMsg
  attrs : List (String × String)
  /-- For tip history -/
  desiredAssetAmount : Nat
  /-- For updating tipper history -/
  assetsToAdd : List AnsAsset

def Split.new : Split where
  swapMsgs := []
  attrs := []
  desiredAssetAmount := 0
  assetsToAdd := []

/-- `Decimal::percent`. -/
def percent (x : Nat) : Decimal := ⟨x * 10 ^ 16⟩

/-- `swap` on the dex. -/
def triggerSwap (deps : PaymentDeps) (dex : DexName) (payAsset : AnsAsset)
    (desiredAsset : AssetEntry) : Except PaymentFailure AppMsg := do
  let swap ← (resolveSwap deps.ans dex payAsset desiredAsset (some (percent MAX_SPREAD_PERCENT))
    none).mapError fun e => sdkError (.AnsHostError e)
  let account ← deps.account.mapError fun text => sdkError (.Other text)
  let adapter ← deps.dexAdapter.mapError fun text => sdkError (.Other text)
  return .DexAction adapter account swap

/-- The first pair of the page to swap on. -/
def findPair (exchanges : List DexName) (page : List AssetPairingMapEntry) :
    Option AssetPairingMapEntry :=
  page.find? fun entry => entry.2 ≠ [] ∧ entry.1.dex ∈ exchanges

def splitAsset (deps : PaymentDeps) (exchanges : List DexName) (desiredAsset : AssetEntry)
    (split : Split) (payAsset : AnsAsset) : Except PaymentFailure Split :=
  -- No need to swap if desired asset sent
  if payAsset.name = desiredAsset then do
    let desiredAssetAmount ← addChecked 128 split.desiredAssetAmount payAsset.amount
    return { split with desiredAssetAmount }
  else do
    -- query the pools that contain the desired asset
    let resp ← (deps.ans.listPoolEntries
      (some { assetPair := some (desiredAsset, payAsset.name), dex := none }) none none).mapError
        fun e => sdkError (.Std e)
    match findPair exchanges resp with
    | some (pair, _) => do
      let triggerSwapMsg ← triggerSwap deps pair.dex payAsset desiredAsset
      let returnAmount ← (deps.simulateSwap pair.dex payAsset desiredAsset).mapError
        fun text => sdkError (.Other text)
      let desiredAssetAmount ← addChecked 128 split.desiredAssetAmount returnAmount
      return { split with
        swapMsgs := split.swapMsgs ++ [triggerSwapMsg]
        attrs := split.attrs ++ [("swap", payAsset.name ++ " for " ++ desiredAsset)]
        desiredAssetAmount }
    | none =>
      -- If swap not found just accept payment
      return { split with assetsToAdd := split.assetsToAdd ++ [payAsset] }

/-- `AssetList::from` the funds, with the cw20 that is received. -/
def depositedAssets (info : MessageInfo) (cw20Receipt : Option Asset) : Except String (List Asset) :=
  match cw20Receipt with
  | some cw20Deposit => addAsset (info.funds.map Asset.ofCoin) cw20Deposit
  | none => .ok (info.funds.map Asset.ofCoin)

def tip (deps : PaymentDeps) (info : MessageInfo) (cw20Receipt : Option Asset) (s : PaymentStore) :
    Except PaymentFailure (PaymentStore × Response) := do
  let deposited ← (depositedAssets info cw20Receipt).mapError
    fun text => VoteFailure.error (.Asset text)
  -- forward payment to the account contract
  let forwardPaymentMsgs ← deposit (deps.account.mapError fun text => sdkError (.Other text))
    deposited
  let forward := forwardPaymentMsgs.map AppMsg.Transfer
  -- swap the asset(s) to the desired asset is set
  let config ← loadConfig s
  -- Reverse query the deposited assets
  let assetEntries ← deposited.mapM fun asset =>
    (deps.ans.resolveAsset asset).mapError wrapQueryError
  match config.desiredAsset with
  -- If there is no desired asset specified, just forward the payment.
  | none => do
    let s ← updateTipperHistory info.sender assetEntries deps.block.height s
    return (s, { action := "receive_tip", messages := forward, attributes := [] })
  | some desiredAsset => do
    let split ← assetEntries.foldlM (splitAsset deps config.exchanges desiredAsset) Split.new
    -- Add desired asset after swaps
    let assetsToAdd := if split.desiredAssetAmount = 0 then split.assetsToAdd
      else split.assetsToAdd ++ [⟨desiredAsset, split.desiredAssetAmount⟩]
    let s ← updateTipperHistory info.sender assetsToAdd deps.block.height s
    -- forward deposit and execute swaps if there are any
    return (s, {
      action := "receive_tip"
      messages := forward ++ split.swapMsgs
      attributes := split.attrs })

/-! ## Config -/

def checkDexes (deps : PaymentDeps) (exchanges : List DexName) : Except PaymentFailure Unit := do
  let ansDexes ← deps.ans.queryRegisteredDexes.mapError wrapQueryError
  forEach (fun dex => ensure (dex ∈ ansDexes) (VoteFailure.error (.DexNotRegistered dex))) exchanges

def checkDesired (deps : PaymentDeps) (asset : AssetEntry) : Except PaymentFailure Unit := do
  let _ ← (deps.ans.queryAsset asset).mapError
    fun _ => VoteFailure.error AppError.DesiredAssetDoesNotExist
  return ()

def updateConfig (deps : PaymentDeps) (info : MessageInfo)
    (desiredAsset : Option (Clearable AssetEntry)) (denomAsset : Option String)
    (exchanges : Option (List DexName)) (s : PaymentStore) :
    Except PaymentFailure (PaymentStore × Response) := do
  (deps.assertAdmin info.sender).mapError fun text => VoteFailure.error (.Admin text)
  let config ← loadConfig s
  forEach (checkDesired deps) (desiredAsset.bind Clearable.toOption).toList
  forEach (checkDexes deps) exchanges.toList
  let config : Config := {
    desiredAsset := (desiredAsset.map Clearable.toOption).getD config.desiredAsset
    denomAsset := denomAsset.getD config.denomAsset
    exchanges := exchanges.getD config.exchanges }
  return ({ s with config := some config },
    { action := "update_config", messages := [], attributes := [] })

/-! ## Entry points -/

def executeHandler (deps : PaymentDeps) (info : MessageInfo) (msg : AppExecuteMsg)
    (s : PaymentStore) : Except PaymentFailure (PaymentStore × Response) :=
  match msg with
  | .UpdateConfig desiredAsset denomAsset exchanges =>
    updateConfig deps info desiredAsset denomAsset exchanges s
  | .Tip => tip deps info none s

def receiveHandler (deps : PaymentDeps) (info : MessageInfo) (msg : Cw20ReceiveMsg)
    (s : PaymentStore) : Except PaymentFailure (PaymentStore × Response) := do
  let receipt : Asset := { info := .Cw20 info.sender, amount := msg.amount }
  let sender ← deps.validate msg.sender
  tip deps { info with sender } (some receipt) s

def instantiateHandler (deps : PaymentDeps) (msg : AppInstantiateMsg) (s : PaymentStore) :
    Except PaymentFailure PaymentStore := do
  forEach (checkDesired deps) msg.desiredAsset.toList
  checkDexes deps msg.exchanges
  return { s with
    config := some {
      desiredAsset := msg.desiredAsset
      denomAsset := msg.denomAsset
      exchanges := msg.exchanges }
    tipCount := some 0 }

/-- A call with the chain as it is then. -/
structure Call where
  deps : PaymentDeps
  info : MessageInfo
  msg : CustomExecuteMsg
  /-- The chain moves no coins of an amount of zero. -/
  positive : ∀ coin ∈ info.funds, 0 < coin.amount

def exec (c : Call) (s : PaymentStore) : Except PaymentFailure (PaymentStore × Response) :=
  match c.msg with
  | .Module msg => executeHandler c.deps c.info msg s
  | .Receive msg => receiveHandler c.deps c.info msg s

/-! ## Queries -/

def DEFAULT_LIMIT : Nat := 10

structure TipperResponse where
  address : Addr
  tipCount : Nat
  totalAmounts : List AnsAsset
deriving DecidableEq

/-- The asset in the keys of the tipper. -/
def assetOf (tipper : Addr) (key : Addr × AssetEntry) : Option AssetEntry :=
  if key.1 = tipper then some key.2 else none

/-- `TIPPERS.prefix(&address)` in a range. -/
def totalsOf (tipper : Addr) (startAfter : Option AssetEntry) (s : PaymentStore) :
    List (AssetEntry × Nat) :=
  range strBytes startAfter (under (assetOf tipper) s.tippers.current)

def tipperAtHeight (address : Addr) (startAfter : Option AssetEntry) (limit : Option Nat)
    (height : Nat) (s : PaymentStore) : TipperResponse :=
  -- Load current keys for future queries
  let entries := ((totalsOf address startAfter s).take (limit.getD DEFAULT_LIMIT)).map Prod.fst
  let totalAmounts := entries.map fun entry =>
    { name := entry, amount := (s.tippers.mayLoadAtHeight (address, entry) height).getD 0 }
  let count := (s.tipperCount.mayLoadAtHeight address height).getD 0
  { address, tipCount := count, totalAmounts }

def queryTipper (deps : PaymentDeps) (address : String) (startAfter : Option AssetEntry)
    (limit : Option Nat) (atHeight : Option Nat) (s : PaymentStore) :
    Except PaymentFailure TipperResponse := do
  let address ← deps.validate address
  -- Load tipper at height if provided
  match atHeight with
  | some height => return tipperAtHeight address startAfter limit height s
  | none =>
    let amounts := ((totalsOf address startAfter s).take (limit.getD DEFAULT_LIMIT)).map
      fun e => { name := e.1, amount := e.2 }
    let count := (s.tipperCount.mayLoad address).getD 0
    return { address, tipCount := count, totalAmounts := amounts }

end AbstractFramework.Payment
