import AbstractFramework.Dex.Actions
import AbstractFramework.Platforms.Identity

/-! # Actions by the names of their assets

An action on a dex may name its assets, and the pool is then the one that the name service
knows for them.  The adapter resolves such an action through raw queries, a client through the
queries of the name service.  The two take the pool from different ends of the list and by
different names of the dex; and a client asks for an asset in lower case.
-/

namespace AbstractFramework.Dex

open AbstractFramework Fallible Sdk Ans Platforms Voting

/-- Possible actions to perform on the dex. -/
inductive DexAnsAction where
  | ProvideLiquidity (assets : List AnsAsset) (maxSpread : Option Decimal)
  | WithdrawLiquidity (lpToken : AnsAsset)
  | Swap (offerAsset : AnsAsset) (askAsset : AssetEntry) (maxSpread beliefPrice : Option Decimal)
deriving DecidableEq

/-- Structure created to be able to resolve an action using the name service. -/
structure WholeDexAction where
  dex : DexName
  action : DexAnsAction
deriving DecidableEq

/-- The errors of the on-chain resolution. -/
inductive ResolveError where
  | AnsHost (e : AnsHostError)
  | FormattingError (object expected actual : String)
  /-- A panic of the source. -/
  | Panicked (text : String)
deriving DecidableEq

/-- The errors of a client. -/
inductive ClientError where
  | Std (e : StdError)
  | StdErr (text : String)
  | AnsHost (e : ResolveError)
  | Anyhow (text : String)
  /-- A panic of the source. -/
  | Panicked (text : String)
deriving DecidableEq

def ResolveError.isPanic : ResolveError → Bool
  | .Panicked _ => true
  | _ => false

def ClientError.isPanic : ClientError → Bool
  | .Panicked _ => true
  | .AnsHost e => e.isPanic
  | _ => false

/-! ## Checked values as unchecked ones -/

def uncheckedInfo : AssetInfo → AssetInfoUnchecked
  | .Native denom => .Native denom
  | .Cw20 contractAddr => .Cw20 contractAddr.asStr

def uncheckedAsset (asset : Asset) : AssetUnchecked :=
  { info := uncheckedInfo asset.info, amount := asset.amount }

def uncheckedPool : PoolAddress → UncheckedPoolAddress
  | .SeparateAddresses swap liquidity => .SeparateAddresses swap.asStr liquidity.asStr
  | .Contract contract => .Contract contract.asStr
  | .Id id => .Id id

/-! ## Liquidity tokens -/

structure LpToken where
  dex : DexName
  assets : List AssetEntry

/-- Sort the assets on name. -/
def sortEntries (assets : List AssetEntry) : List AssetEntry :=
  assets.insertionSort fun a b => strBytes a ≤ strBytes b

/-- `AnsEntryConvertor::lp_token`: an asset entry that should be formatted as
    `dex_name/asset1,asset2`. -/
def lpToken (entry : AssetEntry) : Except ResolveError LpToken :=
  match entry.toList.splitOn '/' with
  | [dexName, assetNames] => do
    let assets := sortEntries
      ((assetNames.splitOn ',').map fun name => toAsciiLowercase (String.ofList name))
    ensure (2 ≤ assets.length) (.FormattingError "lp token" "at least 2 assets in LP token" entry)
    return { dex := String.ofList dexName, assets }
  | _ => .error (.FormattingError "lp token" "type/asset1,asset2" entry)

/-- `AnsEntryConvertor::dex_asset_pairing`: the assets are sorted again, and the first two
    taken. -/
def dexAssetPairing (token : LpToken) : Except ResolveError DexAssetPairing :=
  match sortEntries token.assets with
  | assetX :: assetY :: _ => .ok (.new assetX assetY token.dex)
  | _ => .error (.Panicked "called `Option::unwrap()` on a `None` value")

/-! ## On chain -/

/-- `swap_remove(0)` twice. -/
def removeTwo : List AssetEntry → Except String (AssetEntry × AssetEntry)
  | first :: second :: _ => .ok (first, second)
  | _ => .error "swap_remove index (is 0) should be < len (is 0)"

/-- A liquidity token belongs to one pool. -/
def onlyPool {ε : Type} (fails : String → ε) : List PoolReference → Except ε PoolReference
  | [pool] => .ok pool
  | pools => .error (fails
      ("There are " ++ toString pools.length ++ " pairings for the given LP token"))

/-- `Resolve` for an action. -/
def WholeDexAction.resolve (ans : AnsHost) (whole : WholeDexAction) :
    Except ResolveError DexExecuteMsg :=
  match whole.action with
  | .ProvideLiquidity assets maxSpread => do
    let assetNames := (assets.map (·.name)).take 2
    let assets ← (assets.mapM ans.resolveAnsAsset).mapError ResolveError.AnsHost
    let names ← (removeTwo assetNames).mapError ResolveError.Panicked
    let pool ← (poolAddress ans whole.dex names).mapError ResolveError.AnsHost
    return .Action whole.dex
      (.ProvideLiquidity (uncheckedPool pool) (assets.map uncheckedAsset) maxSpread)
  | .WithdrawLiquidity token => do
    let lpAsset ← (ans.resolveAnsAsset token).mapError ResolveError.AnsHost
    let lpPairing ← lpToken token.name >>= dexAssetPairing
    let poolIds ← (ans.queryAssetPairing lpPairing).mapError ResolveError.AnsHost
    let pool ← onlyPool (fun text => .AnsHost (.QueryFailed "lp_pairing.resolve" (.msg text))) poolIds
    return .Action whole.dex
      (.WithdrawLiquidity (uncheckedPool pool.poolAddress) (uncheckedAsset lpAsset))
  | .Swap offerAsset askAsset maxSpread beliefPrice => do
    let swap ← (resolveSwap ans whole.dex offerAsset askAsset maxSpread beliefPrice).mapError
      ResolveError.AnsHost
    return .Action swap.dex
      (.Swap (uncheckedPool swap.pool) (uncheckedAsset swap.offerAsset)
        (uncheckedInfo swap.askAsset) swap.maxSpread swap.beliefPrice)

/-! ## In a client -/

def unwrapPop {α : Type} (values : List α) : Except ClientError α :=
  okOr values.getLast? (.Panicked "called `Option::unwrap()` on a `None` value")

/-- `ClientResolve` for the name of an asset. -/
def clientResolveEntry (ans : AnsHost) (entry : AssetEntry) : Except ClientError AssetInfo := do
  let assets ← (ans.queryAssets [entry]).mapError ClientError.Std
  let last ← unwrapPop assets
  return last.2

/-- `ClientResolve` for an asset with its amount. -/
def clientResolveAsset (ans : AnsHost) (asset : AnsAsset) : Except ClientError Asset := do
  let info ← clientResolveEntry ans asset.name
  return { info, amount := asset.amount }

def pairingText (pairing : DexAssetPairing) : String :=
  pairing.dex ++ "/" ++ pairing.assetX ++ "," ++ pairing.assetY

/-- `ClientResolve` for a pairing. -/
def clientResolvePairing (ans : AnsHost) (pairing : DexAssetPairing) :
    Except ClientError (List PoolReference) := do
  let pools ← (ans.listPoolEntries
    (some { assetPair := some (pairing.assetX, pairing.assetY), dex := some pairing.dex })
    none none).mapError ClientError.Std
  let found ← okOr pools.getLast? (.StdErr ("Pool reference for " ++ pairingText pairing ++ " not found"))
  return found.2

/-- Helper to get the pool address. -/
def clientPoolAddress (ans : AnsHost) (dex : DexName) (assets : AssetEntry × AssetEntry) :
    Except ClientError PoolAddress := do
  let localDexName := (decomposePlatformName dex).2
  let pools ← (ans.queryPoolEntries [DexAssetPairing.new assets.1 assets.2 localDexName]).mapError
    ClientError.Std
  let last ← unwrapPop pools
  let first ← okOr last.2.head? (.Panicked "swap_remove index (is 0) should be < len (is 0)")
  return first.poolAddress

/-- `ClientResolve` for an action. -/
def WholeDexAction.clientResolve (ans : AnsHost) (whole : WholeDexAction) :
    Except ClientError DexExecuteMsg :=
  match whole.action with
  | .ProvideLiquidity assets maxSpread => do
    let assetNames := (assets.map (·.name)).take 2
    let assets ← assets.mapM (clientResolveAsset ans)
    let names ← (removeTwo assetNames).mapError ClientError.Panicked
    let pool ← clientPoolAddress ans whole.dex names
    return .Action whole.dex
      (.ProvideLiquidity (uncheckedPool pool) (assets.map uncheckedAsset) maxSpread)
  | .WithdrawLiquidity token => do
    let lpAsset ← clientResolveAsset ans token
    let lpPairing ← (lpToken token.name >>= dexAssetPairing).mapError ClientError.AnsHost
    let poolIds ← clientResolvePairing ans lpPairing
    let pool ← onlyPool .Anyhow poolIds
    return .Action whole.dex
      (.WithdrawLiquidity (uncheckedPool pool.poolAddress) (uncheckedAsset lpAsset))
  | .Swap offerAsset askAsset maxSpread beliefPrice => do
    let offerName := toAsciiLowercase offerAsset.name
    let askName := toAsciiLowercase askAsset
    let offerInfo ← clientResolveEntry ans offerName
    let askInfo ← clientResolveEntry ans askName
    let pool ← clientPoolAddress ans whole.dex (offerName, askName)
    return .Action whole.dex
      (.Swap (uncheckedPool pool) (uncheckedAsset { info := offerInfo, amount := offerAsset.amount })
        (uncheckedInfo askInfo) maxSpread beliefPrice)

end AbstractFramework.Dex
