import AbstractFramework.Account.Contract

/-! # The ibc host

The contract that acts for the accounts of other chains.  Every chain has a proxy
on this chain, and a packet that the proxy of a chain delivers is an action of one
account of that chain: it is passed on to the local account that stands for it.
When there is no such account, the action waits in `TEMP_ACTION_AFTER_CREATION`
while the account is created, and is passed on in the reply.
-/

namespace AbstractFramework.IbcHost

open AbstractFramework Fallible Storage Account

variable [Crates] [Xion]

/-! ## Messages and storage -/

inductive InternalAction where
  /-- Registers a new account from a remote chain. -/
  | Register (name description link ns : Option String) (installModules : List ModuleInstallConfig)

inductive HelperAction where
  | SendAllBack

/-- Callable actions on a remote host. -/
inductive HostAction where
  | Dispatch (accountMsgs : List Entry.ExecuteMsg)
  | Internal (action : InternalAction)
  | Helpers (action : HelperAction)

structure ActionAfterCreationCache where
  clientAccountAddress : String
  accountId : AccountId
  action : HostAction
  chainName : TruncatedChainId

structure HostState where
  ownership : Crates.CwOwnership
  /-- The proxy that a chain uses to interact on this chain. -/
  chainProxies : Map TruncatedChainId Addr
  reverseChainProxies : Map Addr TruncatedChainId
  tempActionAfterCreation : Option ActionAfterCreationCache

structure InstalledModuleIdentification where
  moduleInfo : ModuleInfo
  accountId : Option AccountId

inductive ExecuteMsg where
  | UpdateOwnership (action : Crates.CwAction)
  | RegisterChainProxy (chain : TruncatedChainId) (proxy : String)
  | RemoveChainProxy (chain : TruncatedChainId)
  | Execute (accountId : AccountId) (accountAddress : String) (action : HostAction)
  | ModuleExecute (sourceModule : InstalledModuleIdentification) (targetModule : ModuleInfo)
      (msg : Binary)
  | Fund (srcAccount : AccountId) (srcChain : TruncatedChainId)

inductive HostMsg where
  /-- A message of an account. -/
  | Account (account : Addr) (msg : Entry.ExecuteMsg)
  /-- `ModuleIbc` of a module. -/
  | ModuleIbc (module : Addr) (chain : TruncatedChainId) (sourceModule : ModuleInfo) (msg : Binary)
  | BankSend (toAddress : Addr) (amount : List Coin)
  /-- The creation of an account. -/
  | Instantiate2 (admin : Addr) (codeId : Nat) (label : String) (msg : InstantiateMsg)
      (funds : List Coin) (salt : Bytes)

inductive ReplyId where
  /-- `INIT_BEFORE_ACTION_REPLY_ID`. -/
  | InitBeforeAction
  /-- `RESPONSE_REPLY_ID`. -/
  | Response
deriving DecidableEq

structure HostSubMsg where
  msg : HostMsg
  replyOnSuccess : Option ReplyId

inductive HostError where
  | Std (e : StdError)
  | Abstract (e : AbstractError)
  /-- `AbstractError::RegistryError`. -/
  | AbstractRegistry (e : RegistryQueryError)
  | Ownership (text : String)
  | RegistryError (e : RegistryQueryError)
  | AnsHostError (text : String)
  | Instantiate2AddressError (text : String)
  | ProxyAddressExists
  | WrongModuleAction (text : String)
  /-- An `unwrap` of the source that fails. -/
  | Panicked (text : String)
deriving DecidableEq

abbrev HostResult := Except HostError (HostState × List HostSubMsg)

structure HostEnv where
  /-- The host's own address. -/
  address : Addr
  block : BlockInfo
  chainName : TruncatedChainId
  querier : Querier
  registry : RegistryState
  addrValidate : String → Except StdError Addr
  instantiate2Address : Bytes → Addr → Bytes → Except String Addr
  toJson : AccountId → Bytes
  /-- The ICS20 channel of a chain in the name service. -/
  ics20Channel : TruncatedChainId → Except String String
  /-- The `ModuleAddresses` query of an account for one module id. -/
  moduleAddress : Addr → String → Except StdError (Option Addr)

/-! ## The registry -/

/-- `RegistryContract::new` of the host's own code id. -/
def HostEnv.assertRegistry (env : HostEnv) : Except HostError Unit := do
  let contract ← (env.querier.queryWasmContractInfo env.address).mapError HostError.Std
  let _ ← okOr (env.querier.registryAddress contract.codeId)
    (HostError.Std (.notFound "registry address"))

/-- `RegistryContract::account`. -/
def HostEnv.account (env : HostEnv) (accountId : AccountId) : Except RegistryQueryError Addr :=
  okOr (env.registry.accountAddresses.lookup accountId.storageKey) (.UnknownAccountId accountId)

/-- `RegistryContract::query_module`. -/
def HostEnv.queryModule (env : HostEnv) (info : ModuleInfo) : Except RegistryQueryError Module := do
  let (module, _) ← (env.registry.queryModule info).mapError
    (RegistryQueryError.QueryFailed "query_modules_configs")
  return module

def getAccount (env : HostEnv) (accountId : AccountId) : Except HostError Addr := do
  env.assertRegistry
  (env.account accountId).mapError HostError.RegistryError

/-! ## Account commands -/

/-- Creates and registers account for remote Account. -/
def receiveRegister (env : HostEnv) (accountId : AccountId) (name description link ns : Option String)
    (installModules : List ModuleInstallConfig) (withReply : Bool) (funds : List Coin) :
    Except HostError (List HostSubMsg) := do
  env.assertRegistry
  -- the id is not that of a local account
  accountId.trace.verifyRemote.mapError HostError.Abstract
  let salt := env.toJson accountId
  let accountModuleInfo ← (ModuleInfo.fromId ACCOUNT .Latest).mapError HostError.Abstract
  let module ← (env.queryModule accountModuleInfo).mapError HostError.RegistryError
  match module.reference with
  | .Account codeId => do
    let code ← okOr (env.querier.codeInfo codeId) (HostError.Std (.msg "no such code"))
    let msg : InstantiateMsg :=
      { codeId
        owner := some (.External env.address.asStr "abstract-ibc")
        name, description, link
        accountId := some accountId
        installModules, ns
        authenticator := none }
    let accountAddr ← (env.instantiate2Address code.checksum env.address salt).mapError
      HostError.Instantiate2AddressError
    return [{
      msg := .Instantiate2 accountAddr codeId accountId.toStr msg funds salt
      replyOnSuccess := if withReply then some .InitBeforeAction else none }]
  | _ => .error (.RegistryError (.InvalidReference accountModuleInfo))

/-- Execute account messages on local account. -/
def receiveDispatch (account : Addr) (accountMsgs : List Entry.ExecuteMsg) : List HostSubMsg :=
  accountMsgs.map fun msg => { msg := .Account account msg, replyOnSuccess := some .Response }

/-- Construct the message to send all the assets back.  The account executes no
    messages yet. -/
def receiveSendAllBack (env : HostEnv) (account : Addr) (srcChain : TruncatedChainId) :
    Except HostError (List HostSubMsg) := do
  env.assertRegistry
  let _ ← (env.ics20Channel srcChain).mapError HostError.AnsHostError
  return [{ msg := .Account account (.Execute []), replyOnSuccess := none }]

/-- The name of an account that is created for a packet. -/
def remoteName (srcChain : TruncatedChainId) (accountId : AccountId) : String :=
  "Remote Abstract Account for " ++ srcChain.name ++ "/" ++ accountId.toStr

/-! ## Packets -/

/-- Handle actions that are passed to the IBC host contract.  The sender is not looked
    at here. -/
def handleHostAction (env : HostEnv) (srcChain : TruncatedChainId) (accountAddress : String)
    (receivedAccountId : AccountId) (hostAction : HostAction) (s : HostState) : HostResult := do
  let accountId := receivedAccountId.pushChain srcChain
  match hostAction with
  | .Internal (.Register name description link ns installModules) => do
    let msgs ← receiveRegister env accountId name description link ns installModules false []
    return (s, msgs)
  | action =>
    match getAccount env accountId with
    | .ok account =>
      match action with
      | .Dispatch accountMsgs => return (s, receiveDispatch account accountMsgs)
      | .Helpers .SendAllBack => do
        let msgs ← receiveSendAllBack env account srcChain
        return (s, msgs)
      | .Internal _ => .error (.Panicked "This action is handled above")
    | .error _ => do
      -- the action is saved for the reply to the creation
      let cache : ActionAfterCreationCache :=
        { action
          clientAccountAddress := accountAddress
          accountId := receivedAccountId
          chainName := srcChain }
      let msgs ← receiveRegister env accountId (some (remoteName srcChain accountId)) none none none
        [] true []
      return ({ s with tempActionAfterCreation := some cache }, msgs)

/-- The account that a module of another chain is installed on, as an account here. -/
def clientToHostModuleAccountId (env : HostEnv) (remoteChain : TruncatedChainId)
    (accountId : AccountId) : Except HostError AccountId :=
  match accountId.trace with
  | .Local => .ok (accountId.pushChain remoteChain)
  | .Remote trace => do
    let last ← okOr trace.getLast? (HostError.Panicked "called `Option::unwrap()` on a `None` value")
    -- an account that came from here is a local one again
    if env.chainName = last then
      let trace := trace.dropLast
      return { accountId with trace := if trace = [] then .Local else .Remote trace }
    else return { accountId with trace := .Remote (trace ++ [remoteChain]) }

/-- If the calling module is account-specific then we map the calling account-id to
    the host. -/
def hostAccountId (env : HostEnv) (srcChain : TruncatedChainId) :
    Option AccountId → Except HostError (Option AccountId)
  | some accountId => do
    let accountId ← clientToHostModuleAccountId env srcChain accountId
    return some accountId
  | none => .ok none

def InstalledModuleIdentification.targetAccount (target : InstalledModuleIdentification)
    (env : HostEnv) : Except HostError Addr := do
  let accountId ← okOr target.accountId (HostError.Abstract (.Std
    (.msg "Account id not specified in installed module definition")))
  (env.account accountId).mapError HostError.AbstractRegistry

/-- Where a module with a reference is found. -/
def InstalledModuleIdentification.targetAddr (target : InstalledModuleIdentification)
    (env : HostEnv) : ModuleReference → Except HostError Addr
  | .Account codeId => do
    let account ← target.targetAccount env
    let contract ← (env.querier.queryWasmContractInfo account).mapError
      (HostError.Abstract ∘ AbstractError.Std)
    ensure (contract.codeId = codeId) (HostError.Abstract (.Std
      (.msg "Account contract doesn't correspond to code id of the account")))
    return account
  | .Native addr | .Adapter addr | .Service addr => .ok addr
  | .App _ | .Standalone _ => do
    let account ← target.targetAccount env
    let installed ← (env.moduleAddress account target.moduleInfo.moduleId).mapError
      (HostError.Abstract ∘ AbstractError.Std)
    okOr installed (HostError.Abstract (.AppNotInstalled target.moduleInfo.toStr))

def InstalledModuleIdentification.addr (target : InstalledModuleIdentification) (env : HostEnv) :
    Except HostError (ModuleReference × Addr) := do
  let module ← (env.queryModule target.moduleInfo).mapError HostError.AbstractRegistry
  let addr ← target.targetAddr env module.reference
  return (module.reference, addr)

/-- Whether modules of other chains may call the module. -/
def takesModuleIbc : ModuleReference → Bool
  | .Account _ | .Native _ | .Service _ => false
  | _ => true

/-- Handle actions that are passed to the IBC host contract and originate from a
    registered module. -/
def handleModuleExecute (env : HostEnv) (srcChain : TruncatedChainId)
    (sourceModule : InstalledModuleIdentification) (targetModule : ModuleInfo) (msg : Binary) :
    Except HostError (List HostSubMsg) := do
  env.assertRegistry
  let accountId ← hostAccountId env srcChain sourceModule.accountId
  let target : InstalledModuleIdentification := { moduleInfo := targetModule, accountId }
  let (reference, address) ← target.addr env
  ensure (takesModuleIbc reference = true) (.WrongModuleAction
    "Can't send module-to-module message to an account, service or a native module")
  return [{ msg := .ModuleIbc address srcChain sourceModule.moduleInfo msg, replyOnSuccess := none }]

/-! ## Entry points -/

/-- `cw_ownable::assert_owner`. -/
def assertAdmin (s : HostState) (sender : Addr) : Except HostError Unit :=
  match Crates.cwOwner s.ownership with
  | none => .error (.Ownership "Contract ownership has been renounced")
  | some owner =>
    ensure (sender = owner) (.Ownership "Caller is not the contract's current owner")

/-- Register the polytone proxy address for a given chain. -/
def registerChainProxy (env : HostEnv) (info : MessageInfo) (chain : TruncatedChainId)
    (proxy : String) (s : HostState) : HostResult := do
  assertAdmin s info.sender
  chain.verify.mapError HostError.Abstract
  let proxy ← (env.addrValidate proxy).mapError HostError.Std
  -- Can't register if it already exists
  ensure (chain ∉ s.chainProxies ∧ proxy ∉ s.reverseChainProxies) .ProxyAddressExists
  return ({ s with
    chainProxies := s.chainProxies.insert chain proxy
    reverseChainProxies := s.reverseChainProxies.insert proxy chain }, [])

def removeChainProxy (info : MessageInfo) (chain : TruncatedChainId) (s : HostState) :
    HostResult := do
  assertAdmin s info.sender
  chain.verify.mapError HostError.Abstract
  let reverseChainProxies := match s.chainProxies.lookup chain with
    | some proxy => s.reverseChainProxies.erase proxy
    | none => s.reverseChainProxies
  return ({ s with chainProxies := s.chainProxies.erase chain, reverseChainProxies }, [])

/-- The chain that the sender is the proxy of. -/
def loadSrcChain (s : HostState) (sender : Addr) : Except HostError TruncatedChainId :=
  okOr (s.reverseChainProxies.lookup sender) (.Std (.notFound "TruncatedChainId"))

/-- Anyone funds an account of another chain, which is created when it is not there. -/
def fund (env : HostEnv) (info : MessageInfo) (srcAccount : AccountId) (srcChain : TruncatedChainId) :
    Except HostError (List HostSubMsg) :=
  let accountId := srcAccount.pushChain srcChain
  match getAccount env accountId with
  | .ok account => .ok [{ msg := .BankSend account info.funds, replyOnSuccess := none }]
  | .error _ =>
    receiveRegister env accountId (some (remoteName srcChain accountId)) none none none [] false
      info.funds

def execute (env : HostEnv) (info : MessageInfo) (msg : ExecuteMsg) (s : HostState) : HostResult :=
  match msg with
  | .RegisterChainProxy chain proxy => registerChainProxy env info chain proxy s
  | .RemoveChainProxy chain => removeChainProxy info chain s
  | .Execute accountId accountAddress action => do
    -- the chain is that of the executor of the message
    let srcChain ← loadSrcChain s info.sender
    handleHostAction env srcChain accountAddress accountId action s
  | .UpdateOwnership action => do
    let ownership ← (Crates.updateCwOwnership s.ownership env.block info.sender action).mapError
      HostError.Ownership
    return ({ s with ownership }, [])
  | .ModuleExecute sourceModule targetModule msg => do
    let srcChain ← loadSrcChain s info.sender
    let msgs ← handleModuleExecute env srcChain sourceModule targetModule msg
    return (s, msgs)
  | .Fund srcAccount srcChain => do
    let msgs ← fund env info srcAccount srcChain
    return (s, msgs)

/-- Handle reply after the Account is created. -/
def replyExecuteAction (env : HostEnv) (s : HostState) : HostResult := do
  let cache ← okOr s.tempActionAfterCreation (.Std (.notFound "ActionAfterCreationCache"))
  handleHostAction env cache.chainName cache.clientAccountAddress cache.accountId cache.action
    { s with tempActionAfterCreation := none }

/-- The data that a response forwards is not modelled. -/
def reply (env : HostEnv) (id : ReplyId) (s : HostState) : HostResult :=
  match id with
  | .InitBeforeAction => replyExecuteAction env s
  | .Response => .ok (s, [])

/-- The storage of a new host. -/
def instantiate (info : MessageInfo) : HostState where
  ownership := Crates.initializeCwOwner info.sender
  chainProxies := ∅
  reverseChainProxies := ∅
  tempActionAfterCreation := none

end AbstractFramework.IbcHost
