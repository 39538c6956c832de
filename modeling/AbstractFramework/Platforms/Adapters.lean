import AbstractFramework.Dex.Actions
import AbstractFramework.Platforms.Requests

/-! # The dex adapter and the cw-staking adapter

The platforms that the two adapters know, and how they take a request for one of them.
-/

namespace AbstractFramework.Platforms

/-! ## The platforms -/

def LOCAL_CHAIN : List String := ["cosmos-testnet"]

def platform (name : String) (chains : List String) (isLocal : Bool) : Identify :=
  { name, availableChains := if isLocal then LOCAL_CHAIN else chains }

def WYNDEX : String := "wyndex"
def NEUTRON : String := "neutron"
def FIN : String := "fin"
def BOW : String := "bow"
def OSMOSIS : String := "osmosis"
def ASTROVAULT : String := "astrovault"

def wyndex : Bool → Identify := platform WYNDEX ["juno", "uni"]
def neutron : Bool → Identify := platform NEUTRON ["neutron", "pion"]
def fin : Bool → Identify := platform FIN ["kaiyo", "harpoon"]
def bow : Bool → Identify := platform BOW ["kaiyo", "harpoon"]
def astrovault : Bool → Identify := platform ASTROVAULT ["archway", "constantine"]

/-- The only one without the `local` feature. -/
def osmosis : Identify := { name := OSMOSIS, availableChains := ["osmosis", "osmo-test"] }

end AbstractFramework.Platforms

/-! ## The dex adapter -/

namespace AbstractFramework.Dex

open AbstractFramework Fallible Sdk Ans Platforms

def DEX_ADAPTER_ID : String := "abstract:dex"

inductive DexError where
  | Std (e : StdError)
  | AbstractOs (e : AbstractError)
  | Asset (e : AssetError)
  | UnknownDexOnThisPlatform (dex : String) (chain : Option String)
  | UnknownDex (dex : String)
  | ForeignDex (dex : String)
  /-- An `unwrap` of the source that fails. -/
  | Panicked (text : String)
deriving DecidableEq

/-- Any exchange should be identified by the adapter. -/
def identifyExchange (isLocal : Bool) (value : String) : Except DexError Identify :=
  if value = WYNDEX then .ok (wyndex isLocal)
  else if value = NEUTRON then .ok (neutron isLocal)
  else if value = FIN then .ok (fin isLocal)
  else if value = OSMOSIS then .ok osmosis
  else if value = ASTROVAULT then .ok (astrovault isLocal)
  else .error (.UnknownDex value)

def offerToCoin (ctx : Context) (offer : AssetUnchecked) : Except DexError Coin :=
  (do let asset ← offer.check ctx.addrValidate
      coinTryFrom asset : Except AssetError Coin).mapError DexError.Asset

def resolveAssetsToTransfer (ctx : Context) (_ansHost : AnsHost) :
    DexAction → Except DexError (List Coin)
  | .RouteSwap _ offerAsset _ _ | .Swap _ offerAsset _ _ _ => [offerAsset].mapM (offerToCoin ctx)
  | .ProvideLiquidity _ assets _ => assets.mapM (offerToCoin ctx)
  | .WithdrawLiquidity _ lpToken => [lpToken].mapM (offerToCoin ctx)

def dexAdapter : AdapterKind DexAction DexExecuteMsg DexError where
  moduleId := DEX_ADAPTER_ID
  identify := identifyExchange
  unknownOnThisPlatform := .UnknownDexOnThisPlatform
  resolveAssetsToTransfer := resolveAssetsToTransfer
  execMsg := .Action
  abstractError := .AbstractOs
  std := .Std
  panicked := .Panicked

def isOverIbc : Bool → String → String → Except DexError (String × Bool) :=
  Platforms.isOverIbc dexAdapter

def handleIbcRequest : Context → DexName → DexAction → Except DexError (List (AccountMsg DexExecuteMsg)) :=
  Platforms.handleIbcRequest dexAdapter

/-- The `Action` message of `execute_handler`. -/
def executeHandler {L : Type} (handleLocalRequest : String → DexAction → Except DexError L)
    (ctx : Context) (dex : DexName) (action : DexAction) :
    Except DexError (Response L DexExecuteMsg) :=
  Platforms.executeHandler dexAdapter handleLocalRequest ctx dex action

end AbstractFramework.Dex

/-! ## The cw-staking adapter -/

namespace AbstractFramework.CwStaking

open AbstractFramework Fallible Sdk Ans Platforms Dex

def CW_STAKING_ADAPTER_ID : String := "abstract:cw-staking"

abbrev ProviderName := String

/-- `cw_utils::Duration`. -/
inductive Duration where
  | Height (blocks : UInt64)
  | Time (seconds : UInt64)
deriving DecidableEq

inductive StakingAction where
  | Stake (assets : List AnsAsset) (unbondingPeriod : Option Duration)
  | Unstake (assets : List AnsAsset) (unbondingPeriod : Option Duration)
  | ClaimRewards (assets : List AssetEntry)
  | Claim (assets : List AssetEntry)
deriving DecidableEq

structure StakingExecuteMsg where
  provider : ProviderName
  action : StakingAction
deriving DecidableEq

inductive CwStakingError where
  | Std (e : StdError)
  | AbstractError (e : AbstractFramework.AbstractError)
  | AssetError (e : Dex.AssetError)
  | AnsHostError (e : Ans.AnsHostError)
  | UnknownStaking (provider : String)
  | UnknownStakingOnThisPlatform (staking : String) (chain : Option String)
  | ForeignStaking (provider : String)
  /-- An `unwrap` of the source that fails. -/
  | Panicked (text : String)
deriving DecidableEq

/-- Any cw-staking provider should be identified by the adapter. -/
def identifyProvider (isLocal : Bool) (value : String) : Except CwStakingError Identify :=
  if value = WYNDEX then .ok (wyndex isLocal)
  else if value = BOW then .ok (bow isLocal)
  else if value = OSMOSIS then .ok osmosis
  else if value = ASTROVAULT then .ok (astrovault isLocal)
  else .error (.UnknownStaking value)

/-- Resolve the assets to be transferred to the host chain for the given action. -/
def resolveAssetsToTransfer (_ctx : Context) (ansHost : AnsHost) :
    StakingAction → Except CwStakingError (List Coin)
  | .Stake assets _ => do
    let resolved ← (assets.mapM ansHost.resolveAnsAsset).mapError CwStakingError.AnsHostError
    (resolved.mapM coinTryFrom).mapError CwStakingError.AssetError
  | _ => .ok []

def cwStakingAdapter : AdapterKind StakingAction StakingExecuteMsg CwStakingError where
  moduleId := CW_STAKING_ADAPTER_ID
  identify := identifyProvider
  unknownOnThisPlatform := .UnknownStakingOnThisPlatform
  resolveAssetsToTransfer := resolveAssetsToTransfer
  execMsg provider action := { provider, action }
  abstractError := .AbstractError
  std := .Std
  panicked := .Panicked

def isOverIbc : Bool → String → String → Except CwStakingError (String × Bool) :=
  Platforms.isOverIbc cwStakingAdapter

def handleIbcRequest : Context → ProviderName → StakingAction →
    Except CwStakingError (List (AccountMsg StakingExecuteMsg)) :=
  Platforms.handleIbcRequest cwStakingAdapter

def executeHandler {L : Type} (handleLocalRequest : String → StakingAction → Except CwStakingError L)
    (ctx : Context) (msg : StakingExecuteMsg) :
    Except CwStakingError (Response L StakingExecuteMsg) :=
  Platforms.executeHandler cwStakingAdapter handleLocalRequest ctx msg.provider msg.action

end AbstractFramework.CwStaking

/-! ## Where the requests of both adapters go -/

namespace AbstractFramework.Platforms

open AbstractFramework Fallible Dex CwStaking

section Routing

variable {L L' : Type} {ctx : Context} {chain : TruncatedChainId}

/-- A request for a platform of another chain reaches it if the platform is called like its
    chain, and only then. -/
theorem remote_routing (valid : chain.verify = .ok ())
    (other : ¬ isCurrentChain ctx.chainId chain.name) (provider : String) (isLocal : Bool)
    (swapHere : String → DexAction → Except DexError L)
    (stakeHere : String → StakingAction → Except CwStakingError L')
    (dexAction : DexAction) (stakingAction : StakingAction) :
    ((Requestable dexAdapter ctx dexAction → ∃ msgs,
        Dex.executeHandler swapHere ctx (onChain chain.name provider) dexAction =
          .ok (.Sent msgs) ∧
        RoutedTo dexAdapter isLocal chain provider dexAction msgs) ↔
      (Requestable dexAdapter ctx dexAction →
        provider = chain.name ∧ Provided dexAdapter isLocal chain.name provider)) ∧
    ((Requestable cwStakingAdapter ctx stakingAction → ∃ msgs,
        CwStaking.executeHandler stakeHere ctx
          { provider := onChain chain.name provider, action := stakingAction } =
          .ok (.Sent msgs) ∧
        RoutedTo cwStakingAdapter isLocal chain provider stakingAction msgs) ↔
      (Requestable cwStakingAdapter ctx stakingAction →
        provider = chain.name ∧ Provided cwStakingAdapter isLocal chain.name provider)) := by
  constructor
  · exact routed_iff swapHere (fun same => (DexExecuteMsg.Action.inj same).1) valid other
  · exact routed_iff stakeHere (fun same => (StakingExecuteMsg.mk.inj same).1) valid other

/-! ## Requests from one chain to another -/

def sampleContext (chainId : String) : Context where
  chainId
  isLocal := false
  targetAccount := some ⟨"account"⟩
  ansHost := some
    { address := ⟨"ans"⟩
      assetAddresses := ∅
      revAssetAddresses := ∅
      assetPairings := ∅
      registeredDexes := none }
  addrValidate text := .ok ⟨text⟩

def handledHere {A ε : Type} (_ : String) (_ : A) : Except ε Unit := .ok ()

def sampleSwap : DexAction :=
  .Swap (.Id 1) { info := .Native "ujuno", amount := 5 } (.Native "uosmo") none none

def sampleClaim : StakingAction := .Claim ["osmosis>osmo"]

def osmosisChain : TruncatedChainId := ⟨"osmosis"⟩

theorem sampleSwap_requestable (chainId : String) :
    Requestable dexAdapter (sampleContext chainId) sampleSwap :=
  ⟨⟨_, rfl⟩, _, _, rfl, rfl⟩

theorem sampleClaim_requestable (chainId : String) :
    Requestable cwStakingAdapter (sampleContext chainId) sampleClaim :=
  ⟨⟨_, rfl⟩, _, _, rfl, rfl⟩

theorem remote_routing_osmosis :
    (∃ msgs, Dex.executeHandler handledHere (sampleContext "juno-1") "osmosis>osmosis"
        sampleSwap = .ok (.Sent msgs) ∧
      RoutedTo dexAdapter false osmosisChain "osmosis" sampleSwap msgs) ∧
    ∃ msgs, CwStaking.executeHandler handledHere (sampleContext "juno-1")
        { provider := "osmosis>osmosis", action := sampleClaim } = .ok (.Sent msgs) ∧
      RoutedTo cwStakingAdapter false osmosisChain "osmosis" sampleClaim msgs := by
  have valid : osmosisChain.verify = .ok () := by decide
  have other : ¬ isCurrentChain (sampleContext "juno-1").chainId osmosisChain.name := by decide
  have routing := remote_routing valid other "osmosis" false handledHere handledHere sampleSwap
    sampleClaim
  constructor
  · exact routing.1.mpr (fun _ => ⟨rfl, osmosis, rfl, by decide⟩) (sampleSwap_requestable _)
  · exact routing.2.mpr (fun _ => ⟨rfl, osmosis, rfl, by decide⟩) (sampleClaim_requestable _)

/-- From osmosis, a request for wyndex on juno leaves for a chain called wyndex. -/
theorem wyndex_taken_for_a_chain :
    Requestable dexAdapter (sampleContext "osmosis-1") sampleSwap ∧
      (∃ transfer remote,
        Dex.executeHandler handledHere (sampleContext "osmosis-1") "juno>wyndex"
          sampleSwap = .ok (.Sent [transfer, remote]) ∧
        transfer.msg.execMsg = .SendFunds ⟨"wyndex"⟩ none none) ∧
      ¬ ∃ msgs, Dex.executeHandler handledHere (sampleContext "osmosis-1") "juno>wyndex"
          sampleSwap = .ok (.Sent msgs) ∧
        RoutedTo dexAdapter false ⟨"juno"⟩ "wyndex" sampleSwap msgs := by
  have taken : ∃ transfer remote,
      Dex.executeHandler handledHere (sampleContext "osmosis-1") "juno>wyndex"
        sampleSwap = .ok (.Sent [transfer, remote]) ∧
      transfer.msg.execMsg = .SendFunds ⟨"wyndex"⟩ none none := ⟨_, _, rfl, rfl⟩
  refine ⟨sampleSwap_requestable _, taken, ?_⟩
  obtain ⟨transfer, remote, sent, toWyndex⟩ := taken
  rintro ⟨msgs, sent', transfer', remote', memo, receiver, name, funds, rfl, toJuno, -⟩
  rw [sent] at sent'
  obtain ⟨rfl, _⟩ := List.cons.inj (Response.Sent.inj (Except.ok.inj sent'))
  have chains := (IbcClientMsg.SendFunds.inj (toWyndex.symm.trans toJuno)).1
  exact absurd chains (by decide)

end Routing

end AbstractFramework.Platforms
