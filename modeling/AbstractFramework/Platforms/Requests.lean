import AbstractFramework.Ans.Host
import AbstractFramework.Objects.Module
import AbstractFramework.Platforms.Identity

/-! # Requests for the platforms of other chains

The dex adapter and the cw-staking adapter take requests for platforms by name.  A request
for a platform of another chain sends the funds there and asks the adapter there to carry it
out.  Both adapters do so in the same way; they differ in the platforms that they know, the
messages that they take and the errors that they give.
-/

namespace AbstractFramework.Platforms

open AbstractFramework Fallible Ans

/-! ## Messages -/

/-- `ExecuteOnModule` of an account.  What is sent to the module is not encoded. -/
structure ExecuteOnModule (M : Type) where
  moduleId : String
  execMsg : M
  funds : List Coin
deriving DecidableEq

inductive HostAction (M : Type) where
  | Dispatch (accountMsgs : List (ExecuteOnModule M))
deriving DecidableEq

inductive IbcClientMsg (M : Type) where
  | SendFunds (hostChain : TruncatedChainId) (memo receiver : Option String)
  | RemoteAction (hostChain : TruncatedChainId) (action : HostAction M)
deriving DecidableEq

/-- A message to the account that asks for the request. -/
structure AccountMsg (M : Type) where
  account : Addr
  msg : ExecuteOnModule (IbcClientMsg M)
deriving DecidableEq

/-- What a request comes to, here or on another chain. -/
inductive Response (L M : Type) where
  | Handled (response : L)
  | Sent (msgs : List (AccountMsg M))
deriving DecidableEq

/-! ## Requests -/

/-- What an adapter sees of its chain and its account. -/
structure Context where
  chainId : String
  /-- The `local` feature of the platforms. -/
  isLocal : Bool
  targetAccount : Option Addr
  /-- The name service.  It is unwrapped. -/
  ansHost : Option AnsHost
  addrValidate : String → Except StdError Addr

/-- What the adapters differ in: `A` are the actions, `M` the messages, `ε` the errors. -/
structure AdapterKind (A M ε : Type) where
  moduleId : String
  identify : (isLocal : Bool) → (value : String) → Except ε Identify
  unknownOnThisPlatform : (platform : String) → (chain : Option String) → ε
  resolveAssetsToTransfer : Context → AnsHost → A → Except ε (List Coin)
  execMsg : (platform : String) → A → M
  abstractError : AbstractError → ε
  std : StdError → ε
  panicked : String → ε

/-- The adapter as part of a larger one, with errors of its own. -/
def AdapterKind.mapError {A M ε ε' : Type} (kind : AdapterKind A M ε) (convert : ε → ε') :
    AdapterKind A M ε' where
  moduleId := kind.moduleId
  identify isLocal value := (kind.identify isLocal value).mapError convert
  unknownOnThisPlatform platform chain := convert (kind.unknownOnThisPlatform platform chain)
  resolveAssetsToTransfer ctx ans action :=
    (kind.resolveAssetsToTransfer ctx ans action).mapError convert
  execMsg := kind.execMsg
  abstractError e := convert (kind.abstractError e)
  std e := convert (kind.std e)
  panicked text := convert (kind.panicked text)

section Requests

variable {A M L ε : Type} (kind : AdapterKind A M ε)

/-- Whether the request is over IBC, and the name of the platform on its chain. -/
def isOverIbc (isLocal : Bool) (chainId platformName : String) : Except ε (String × Bool) :=
  let (chainName, localPlatformName) := decomposePlatformName platformName
  if chainName.any fun chainName => ¬ isCurrentChain chainId chainName then
    .ok (localPlatformName, true)
  else do
    let platformId ← kind.identify isLocal localPlatformName
    -- the adapter is available on the current chain
    ensure (isAvailableOn platformId chainId chainName)
      (kind.unknownOnThisPlatform platformName chainName)
    return (localPlatformName, false)

def executeOnIbcClient (ctx : Context) (execMsg : IbcClientMsg M) (funds : List Coin) :
    Except ε (AccountMsg M) := do
  let account ← okOr ctx.targetAccount (kind.std (.msg "No target Account specified to execute on."))
  return { account, msg := { moduleId := IBC_CLIENT, execMsg, funds } }

/-- `IbcClient::ics20_transfer`. -/
def ics20Transfer (ctx : Context) (hostChain : TruncatedChainId) (funds : List Coin)
    (memo receiver : Option String) : Except ε (AccountMsg M) :=
  executeOnIbcClient kind ctx (.SendFunds hostChain memo receiver) funds

/-- `IbcClient::host_action`. -/
def hostAction (ctx : Context) (hostChain : TruncatedChainId) (action : HostAction M) :
    Except ε (AccountMsg M) :=
  executeOnIbcClient kind ctx (.RemoteAction hostChain action) []

/-- Handle a request that needs to be executed on a remote chain.  The callback that the
    source prepares is not sent. -/
def handleIbcRequest (ctx : Context) (platformName : String) (action : A) :
    Except ε (List (AccountMsg M)) := do
  let hostChain ← (TruncatedChainId.fromString platformName).mapError kind.abstractError
  let ans ← okOr ctx.ansHost (kind.panicked "called `Result::unwrap()` on an `Err` value")
  let coins ← kind.resolveAssetsToTransfer ctx ans action
  let ics20TransferMsg ← ics20Transfer kind ctx hostChain coins none none
  let ibcActionMsg ← hostAction kind ctx hostChain (.Dispatch
    [{ moduleId := kind.moduleId, execMsg := kind.execMsg platformName action, funds := [] }])
  return [ics20TransferMsg, ibcActionMsg]

/-- `handle_local_request` is taken as it is: what it does depends on the platform. -/
def executeHandler (handleLocalRequest : String → A → Except ε L) (ctx : Context)
    (platformName : String) (action : A) : Except ε (Response L M) := do
  let (localName, overIbc) ← isOverIbc kind ctx.isLocal ctx.chainId platformName
  if overIbc then (handleIbcRequest kind ctx localName action).map Response.Sent
  else (handleLocalRequest localName action).map Response.Handled

end Requests

/-! ## Where a request goes -/

section Routes

variable {A M L ε : Type} {kind : AdapterKind A M ε} {isLocal : Bool} {ctx : Context}
  {chain : TruncatedChainId} {platform : String} {action : A} {msgs : List (AccountMsg M)}

/-- The request has an account, and its assets can be sent. -/
def Requestable (kind : AdapterKind A M ε) (ctx : Context) (action : A) : Prop :=
  (∃ account, ctx.targetAccount = some account) ∧
    ∃ ans coins, ctx.ansHost = some ans ∧ kind.resolveAssetsToTransfer ctx ans action = .ok coins

/-- The funds and the action go to the chain, and the adapter there, built with or without the
    `local` feature, takes the action for the platform. -/
def RoutedTo (kind : AdapterKind A M ε) (isLocal : Bool) (chain : TruncatedChainId)
    (platform : String) (action : A) (msgs : List (AccountMsg M)) : Prop :=
  ∃ transfer remote memo receiver name funds, msgs = [transfer, remote] ∧
    transfer.msg.execMsg = .SendFunds chain memo receiver ∧
    remote.msg.execMsg = .RemoteAction chain (.Dispatch
      [{ moduleId := kind.moduleId, execMsg := kind.execMsg name action, funds }]) ∧
    ∀ chainId, isCurrentChain chainId chain.name →
      isOverIbc kind isLocal chainId name = .ok (platform, false)

/-- The platform is known to the adapter of its chain. -/
def Provided (kind : AdapterKind A M ε) (isLocal : Bool) (chain platform : String) : Prop :=
  ∃ found, kind.identify isLocal platform = .ok found ∧ found.isAvailableOn chain = true

theorem isOverIbc_here {chainId : String} :
    isOverIbc kind isLocal chainId platform = .ok (platform, false) ↔
      '>' ∉ platform.toList ∧ Provided kind isLocal (getChainName chainId) platform := by
  by_cases nested : '>' ∈ platform.toList
  · simp only [nested, not_true, false_and, iff_false]
    intro here
    have shorter := decomposePlatformName_ne nested
    unfold isOverIbc at here
    generalize decomposePlatformName platform = parts at here shorter
    obtain ⟨chainName, localName⟩ := parts
    dsimp only at here
    split at here
    · cases here
    · simp only [bind_eq_ok, pure_eq_ok, Prod.mk.injEq] at here
      obtain ⟨_, _, _, _, same, _⟩ := here
      exact shorter same
  · simp only [isOverIbc, decomposePlatformName_plain nested, Option.any_none, Bool.false_eq_true,
      if_false, bind_eq_ok, ensure_eq_ok, pure_eq_ok, and_true, nested, not_false_iff, true_and,
      Provided, isAvailableOn]
    constructor
    · rintro ⟨found, identified, _, available⟩
      exact ⟨found, identified, available⟩
    · rintro ⟨found, identified, available⟩
      exact ⟨found, identified, (), available⟩

theorem isOverIbc_mapError {ε' : Type} {convert : ε → ε'} {chainId : String} :
    isOverIbc (kind.mapError convert) isLocal chainId platform =
      (isOverIbc kind isLocal chainId platform).mapError convert := by
  unfold isOverIbc
  generalize decomposePlatformName platform = parts
  obtain ⟨chainName, localName⟩ := parts
  dsimp only
  split
  · rfl
  · simp only [AdapterKind.mapError]
    cases kind.identify isLocal localName with
    | error e => rfl
    | ok found =>
      by_cases available : isAvailableOn found chainId chainName = true
      · simp [available, ensure, Except.mapError, ok_bind, pure, Except.pure]
      · simp [available, ensure, Except.mapError, ok_bind]

theorem executeHandler_here {handleLocalRequest : String → A → Except ε L} {localName : String}
    (here : isOverIbc kind ctx.isLocal ctx.chainId platform = .ok (localName, false)) :
    executeHandler kind handleLocalRequest ctx platform action =
      (handleLocalRequest localName action).map Response.Handled := by
  simp [executeHandler, here, ok_bind]

/-- The name that a request goes on under is the one on the chain. -/
theorem isOverIbc_localName {chainId localName : String} {overIbc : Bool}
    (h : isOverIbc kind isLocal chainId platform = .ok (localName, overIbc)) :
    localName = (decomposePlatformName platform).2 := by
  unfold isOverIbc at h
  generalize decomposePlatformName platform = parts at h
  obtain ⟨chainName, name⟩ := parts
  dsimp only at h
  split at h
  · cases h
    rfl
  · simp only [bind_eq_ok, pure_eq_ok, Prod.mk.injEq] at h
    obtain ⟨_, _, _, _, rfl, _⟩ := h
    rfl

/-- A request that is sent goes to the chain that its platform is called like. -/
theorem handleIbcRequest_eq_ok :
    handleIbcRequest kind ctx platform action = .ok msgs ↔
      ∃ account ans coins, (⟨platform⟩ : TruncatedChainId).verify = .ok () ∧
        ctx.targetAccount = some account ∧ ctx.ansHost = some ans ∧
        kind.resolveAssetsToTransfer ctx ans action = .ok coins ∧
        msgs = [
          { account
            msg := { moduleId := IBC_CLIENT, execMsg := .SendFunds ⟨platform⟩ none none, funds := coins } },
          { account
            msg :=
              { moduleId := IBC_CLIENT
                execMsg := .RemoteAction ⟨platform⟩ (.Dispatch
                  [{ moduleId := kind.moduleId
                     execMsg := kind.execMsg platform action
                     funds := [] }])
                funds := [] } }] := by
  simp only [handleIbcRequest, TruncatedChainId.fromString, ics20Transfer, hostAction,
    executeOnIbcClient, bind_eq_ok, mapError_eq_ok, okOr_eq_ok, pure_eq_ok]
  constructor
  · rintro ⟨_, ⟨_, valid, rfl⟩, ans, host, coins, resolved, _, ⟨account, target, rfl⟩, _,
      ⟨account', target', rfl⟩, rfl⟩
    obtain rfl := Option.some.inj (target.symm.trans target')
    exact ⟨account, ans, coins, valid, target, host, resolved, rfl⟩
  · rintro ⟨account, ans, coins, valid, target, host, resolved, rfl⟩
    exact ⟨_, ⟨(), valid, rfl⟩, ans, host, coins, resolved, _, ⟨account, target, rfl⟩, _,
      ⟨account, target, rfl⟩, rfl⟩

theorem executeHandler_remote (handleLocalRequest : String → A → Except ε L)
    (valid : chain.verify = .ok ()) (other : ¬ isCurrentChain ctx.chainId chain.name) :
    executeHandler kind handleLocalRequest ctx (onChain chain.name platform) action =
      (handleIbcRequest kind ctx platform action).map Response.Sent := by
  simp [executeHandler, isOverIbc, decomposePlatformName_onChain (notMem_chainName valid), other,
    bind, Except.bind]

/-- Only a platform that is called like its chain is reached. -/
theorem routed_iff (handleLocalRequest : String → A → Except ε L)
    (named : ∀ {name name'}, kind.execMsg name action = kind.execMsg name' action → name = name')
    (valid : chain.verify = .ok ()) (other : ¬ isCurrentChain ctx.chainId chain.name) :
    (Requestable kind ctx action → ∃ msgs,
        executeHandler kind handleLocalRequest ctx (onChain chain.name platform) action =
          .ok (.Sent msgs) ∧
        RoutedTo kind isLocal chain platform action msgs) ↔
      (Requestable kind ctx action →
        platform = chain.name ∧ Provided kind isLocal chain.name platform) := by
  rw [executeHandler_remote handleLocalRequest valid other]
  constructor
  · intro routed requestable
    obtain ⟨msgs, sent, transfer, remote, memo, receiver, name, funds, rfl, goes, acts, here⟩ :=
      routed requestable
    cases handled : handleIbcRequest kind ctx platform action with
    | error e => rw [handled] at sent; cases sent
    | ok msgs =>
      rw [handled] at sent
      obtain ⟨_, _, _, _, _, _, _, rfl⟩ := handleIbcRequest_eq_ok.mp handled
      cases sent
      cases goes
      simp only [IbcClientMsg.RemoteAction.injEq, HostAction.Dispatch.injEq, true_and,
        List.cons.injEq, ExecuteOnModule.mk.injEq, and_true] at acts
      obtain rfl := named acts.1
      have current : isCurrentChain (platform ++ "-1") platform := getChainName_append_number
      have provided := (isOverIbc_here.mp (here _ current)).2
      rw [getChainName_append_number] at provided
      exact ⟨rfl, provided⟩
  · intro provided requestable
    obtain ⟨rfl, provided⟩ := provided requestable
    obtain ⟨⟨account, target⟩, ans, coins, host, resolved⟩ := requestable
    have handled := handleIbcRequest_eq_ok.mpr
      ⟨account, ans, coins, valid, target, host, resolved, rfl⟩
    refine ⟨_, by rw [handled]; rfl, _, _, none, none, chain.name, [], rfl, rfl, rfl, ?_⟩
    intro chainId current
    refine isOverIbc_here.mpr ⟨notMem_chainName valid, ?_⟩
    rw [show getChainName chainId = chain.name from current]
    exact provided

end Routes

end AbstractFramework.Platforms
