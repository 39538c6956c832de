import AbstractFramework.ModuleFactory.Commands
import AbstractFramework.Account.Migration

/-! # The commands of an account

Everything that an account does besides managing its modules: it sends messages
for its owner and its modules, it keeps its own description and suspension
status, and it creates and registers sub-accounts.

`Xion` stands for the package of the authenticators that an account has when it
is built with the `xion` feature.
-/

namespace AbstractFramework

/-- The authenticators of an account, a foreign package. -/
class Xion where
  Authenticator : Type
  /-- What the package stores. -/
  Authenticators : Type
  none : Authenticators
  addAuthMethod : Addr → Authenticator → Authenticators → Except String Authenticators
  removeAuthMethod : Addr → UInt8 → Authenticators → Except String Authenticators

/-- A stand-in without authenticators to add or to remove. -/
@[reducible] def noAuthenticators : Xion where
  Authenticator := Unit
  Authenticators := Unit
  none := ()
  addAuthMethod _ _ _ := .error "signature is invalid"
  removeAuthMethod _ _ _ := .error "cannot delete the last authenticator"

end AbstractFramework

namespace AbstractFramework.Account

open AbstractFramework Fallible Storage

variable [Crates] [Xion]

def CONTRACT_VERSION : String := "0.26.1"
def ICA_CLIENT : String := "abstract:ica-client"

/-! ## Storage and environment -/

structure AccountInfo where
  name : Option String
  description : Option String
  link : Option String
deriving DecidableEq, Repr

def AccountInfo.hasInfo (info : AccountInfo) : Bool :=
  info.name.isSome || info.description.isSome || info.link.isSome

structure AccountStorage extends AccountState where
  info : Option AccountInfo
  /-- The sequences of the sub-accounts' local ids. -/
  subAccounts : Map AccountSequence Unit
  authenticators : Xion.Authenticators

/-- A message that a caller has the account send. -/
inductive ChainMsg where
  | Execute (contractAddr : Addr) (msg : Binary) (funds : List Coin)
  | Migrate (contractAddr : Addr) (newCodeId : Nat) (msg : Binary)
  | UpdateAdmin (contractAddr : Addr) (admin : Addr)
  | ClearAdmin (contractAddr : Addr)
  /-- Any other message, also one that the chain decodes (`CosmosMsg::Any`). -/
  | Other (msg : Binary)
deriving DecidableEq

/-- The environment of a call, with what only some commands look at. -/
structure CallEnv extends Env where
  blockTime : Nat
  addrValidate : String → Except StdError Addr
  /-- The `IcaAction` query of the ICA client at an address. -/
  icaAction : Addr → Binary → Except StdError (List ChainMsg)

def CallEnv.block (env : CallEnv) : BlockInfo := { height := env.blockHeight, time := env.blockTime }

def CallEnv.deps (env : CallEnv) : Deps :=
  { querier := env.querier, addrValidate := env.addrValidate }

/-- `native_addrs::abstract_code_id`. -/
def Env.abstractCodeId (env : Env) : Except AccountError Nat := do
  let contract ← (env.querier.queryWasmContractInfo env.address).mapError AccountError.Std
  return contract.codeId

/-! ## Messages -/

inductive UpdateSubAccountAction where
  | UnregisterSubAccount (id : AccountSequence)
  | RegisterSubAccount (id : AccountSequence)
deriving DecidableEq

inductive InternalConfigAction where
  | UpdateModuleAddresses (toAdd : List (String × String)) (toRemove : List String)
  | UpdateWhitelist (toAdd toRemove : List String)

structure InstantiateMsg where
  codeId : Nat
  owner : Option (GovernanceDetails String)
  accountId : Option AccountId
  authenticator : Option Xion.Authenticator
  ns : Option String
  installModules : List ModuleInstallConfig
  name : Option String
  description : Option String
  link : Option String

/-- The messages an account sends. -/
inductive OutMsg where
  /-- A message of the caller. -/
  | Chain (msg : ChainMsg)
  | Module (msg : CosmosMsg)
  /-- `UpdateSubAccount` of another account. -/
  | UpdateSubAccount (account : Addr) (action : UpdateSubAccountAction)
  /-- `ForgoNamespace` of the registry. -/
  | ForgoNamespace (namespaces : List String)
  /-- `AddAccount` of the registry. -/
  | AddAccount (ns : Option String) (creator : String) (funds : List Coin)
  /-- The creation of another account. -/
  | Instantiate2 (admin : Addr) (codeId : Nat) (label : String) (msg : InstantiateMsg)
      (funds : List Coin) (salt : Bytes)

/-- The replies an account asks for. -/
inductive Reply where
  | ForwardResponse
  | AdminAction
  | RegisterModulesDependencies
  | AssertModuleDependenciesRequirements
deriving DecidableEq

structure SubMsg where
  msg : OutMsg
  replyOnSuccess : Option Reply

/-- A message without a reply. -/
def SubMsg.new (msg : OutMsg) : SubMsg := { msg, replyOnSuccess := none }

def SubMsg.withReply (msg : OutMsg) (reply : Reply) : SubMsg := { msg, replyOnSuccess := some reply }

/-- The storage after a command, and the messages it sends. -/
abbrev AccountResult := Except AccountError (AccountStorage × List SubMsg)

/-! ## Execution -/

/-- Check that sender either whitelisted or governance. -/
def assertWhitelistedOwnerOrSelf (env : Env) (s : AccountState) (sender : Addr) :
    Except AccountError Unit :=
  ensure (sender ∈ s.whitelistedModules ∨ (assertOwner env s sender).isOk ∨ sender = env.address)
    .SenderNotWhitelistedOrOwner

def executeMsgs (env : CallEnv) (sender : Addr) (msgs : List ChainMsg) (s : AccountStorage) :
    AccountResult := do
  assertWhitelistedOwnerOrSelf env.toEnv s.toAccountState sender
  return (s, msgs.map fun msg => .new (.Chain msg))

/-- Executes a message on the account and forwards its response. -/
def executeMsgsWithData (env : CallEnv) (sender : Addr) (msg : ChainMsg) (s : AccountStorage) :
    AccountResult := do
  assertWhitelistedOwnerOrSelf env.toEnv s.toAccountState sender
  return (s, [.withReply (.Chain msg) .ForwardResponse])

def executeOnModule (env : CallEnv) (info : MessageInfo) (moduleId : String) (execMsg : Binary)
    (funds : List Coin) (s : AccountStorage) : AccountResult := do
  let moduleAddr ← loadModuleAddr s.toAccountState moduleId
  executeMsgs env info.sender [.Execute moduleAddr execMsg funds] s

def adminExecute (env : CallEnv) (info : MessageInfo) (addr : Addr) (execMsg : Binary)
    (s : AccountStorage) : AccountResult := do
  assertOwner env.toEnv s.toAccountState info.sender
  ensure (s.callingToAsAdmin = none) .CantChainAdminCalls
  return ({ s with callingToAsAdmin := some addr },
    [.withReply (.Chain (.Execute addr execMsg info.funds)) .AdminAction])

def adminExecuteOnModule (env : CallEnv) (info : MessageInfo) (moduleId : String)
    (execMsg : Binary) (s : AccountStorage) : AccountResult := do
  let moduleAddr ← loadModuleAddr s.toAccountState moduleId
  adminExecute env info moduleAddr execMsg s

def addAuthMethod (env : CallEnv) (info : MessageInfo) (auth : Xion.Authenticator)
    (s : AccountStorage) : AccountResult :=
  if env.xion then do
    assertOwner env.toEnv s.toAccountState info.sender
    let authenticators ← (Xion.addAuthMethod env.address auth s.authenticators).mapError
      AccountError.AbstractXion
    return ({ s with authenticators }, [])
  else .error .NoAuthFeature

def removeAuthMethod (env : CallEnv) (info : MessageInfo) (id : UInt8) (s : AccountStorage) :
    AccountResult :=
  if env.xion then do
    assertOwner env.toEnv s.toAccountState info.sender
    let authenticators ← (Xion.removeAuthMethod env.address id s.authenticators).mapError
      AccountError.AbstractXion
    return ({ s with authenticators }, [])
  else .error .NoAuthFeature

/-- Execute an action on an ICA.  The messages are those the ICA client answers with. -/
def icaAction (env : CallEnv) (info : MessageInfo) (actionQuery : Binary) (s : AccountStorage) :
    AccountResult := do
  assertWhitelistedOwnerOrSelf env.toEnv s.toAccountState info.sender
  let icaClientAddress ← okOr (s.accountModules.lookup ICA_CLIENT) (.Std (.msg
    ("ica_client not found on account. Add it under the " ++ ICA_CLIENT ++ " name.")))
  let msgs ← (env.icaAction icaClientAddress actionQuery).mapError AccountError.Std
  return (s, msgs.map fun msg => .new (.Chain msg))

/-! ## Configuration -/

def MIN_DESC_LENGTH : Nat := 1
def MAX_DESC_LENGTH : Nat := 1024
def MIN_TITLE_LENGTH : Nat := 1
def MAX_TITLE_LENGTH : Nat := 64

/-- A text with a length between two bounds and without dangerous characters. -/
def validateText (min max : Nat) (short long dangerous : ValidationError) (text : String) :
    Except ValidationError Unit :=
  if text.utf8ByteSize < min then .error short
  else if max < text.utf8ByteSize then .error long
  else if text.toList.any (DANGEROUS_CHARS.contains ·) then .error dangerous
  else .ok ()

/-- `validate_name` of the account's name. -/
def validateTitle : String → Except ValidationError Unit :=
  validateText MIN_TITLE_LENGTH MAX_TITLE_LENGTH (.TitleInvalidShort MIN_TITLE_LENGTH)
    (.TitleInvalidLong MAX_TITLE_LENGTH) .TitleContainsDangerousCharacters

def validateDescription : String → Except ValidationError Unit :=
  validateText MIN_DESC_LENGTH MAX_DESC_LENGTH (.DescriptionInvalidShort MIN_DESC_LENGTH)
    (.DescriptionInvalidLong MAX_DESC_LENGTH) .DescriptionContainsDangerousCharacters

/-- Validate a text if it is there. -/
def validateIfSome (validate : String → Except ValidationError Unit) (text : Option String) :
    Except AccountError Unit :=
  match text with
  | some text => (validate text).mapError AccountError.Validation
  | none => .ok ()

def updateAccountStatus (env : CallEnv) (info : MessageInfo) (suspensionStatus : Option Bool)
    (s : AccountStorage) : AccountResult := do
  let suspensionStatus ← okOr suspensionStatus .NoUpdates
  assertOwner env.toEnv s.toAccountState info.sender
  return ({ s with suspensionStatus }, [])

def validateEntry (env : CallEnv) (entry : String × String) : Except AccountError (String × Addr) := do
  let addr ← (env.addrValidate entry.2).mapError AccountError.Std
  return (entry.1, addr)

def validateAddrs (env : CallEnv) (addrs : List String) : Except AccountError (List Addr) :=
  addrs.mapM fun addr => (env.addrValidate addr).mapError AccountError.Std

/-- Allows the owner to manually update the internal configuration of the account. -/
def updateInternalConfig (env : CallEnv) (info : MessageInfo) (action : InternalConfigAction)
    (s : AccountStorage) : AccountResult := do
  assertOwner env.toEnv s.toAccountState info.sender
  match action with
  | .UpdateModuleAddresses toAdd toRemove => do
    let toAdd ← toAdd.mapM (validateEntry env)
    let state ← updateModuleAddresses s.toAccountState toAdd toRemove
    return ({ s with toAccountState := state }, [])
  | .UpdateWhitelist toAdd toRemove => do
    let toAdd ← validateAddrs env toAdd
    let toRemove ← validateAddrs env toRemove
    let state ← updateWhitelistedModules s.toAccountState toAdd toRemove
    return ({ s with toAccountState := state }, [])

/-- Update the Account information.  A missing name is kept, a missing description
    or link is removed. -/
def updateInfo (env : CallEnv) (info : MessageInfo) (name description link : Option String)
    (s : AccountStorage) : AccountResult := do
  assertOwner env.toEnv s.toAccountState info.sender
  validateIfSome validateTitle name
  validateIfSome validateDescription description
  validateIfSome validateLink link
  let old := s.info.getD { name := none, description := none, link := none }
  return ({ s with info := some { name := name.or old.name, description, link } }, [])

/-! ## Sub-accounts -/

def createSubAccount (env : CallEnv) (info : MessageInfo) (name description link ns : Option String)
    (installModules : List ModuleInstallConfig) (accountId : Option AccountSequence)
    (s : AccountStorage) : AccountResult := do
  assertOwner env.toEnv s.toAccountState info.sender
  let selfCodeId ← env.toEnv.abstractCodeId
  let accountId := AccountId.ofLocal (accountId.getD env.registry.localAccountSequence)
  let salt := env.generateInstantiateSalt accountId
  let code ← okOr (env.querier.codeInfo selfCodeId) (.Std (.msg "no such code"))
  let msg :=
    { codeId := selfCodeId
      accountId := some accountId
      owner := some (.SubAccount env.address.asStr)
      ns, installModules, name, description, link
      authenticator := none }
  -- the new account is its own admin
  let accountAddr ← (env.instantiate2Address code.checksum env.address salt).mapError
    AccountError.Instantiate2AddressError
  return (s, [.new (.Instantiate2 accountAddr selfCodeId accountId.toStr msg info.funds salt)])

def queryLocalAccount (env : Env) (id : AccountSequence) : Except AccountError (Option Addr) := do
  let _ ← env.abstractCodeId
  return env.registry.accountAddresses.lookup (AccountId.ofLocal id).storageKey

def unregisterSubAccount (env : CallEnv) (info : MessageInfo) (id : AccountSequence)
    (s : AccountStorage) : AccountResult := do
  let account ← queryLocalAccount env.toEnv id
  match account with
  | some account => do
    ensure (account = info.sender) .SubAccountIsNotCaller
    return ({ s with subAccounts := s.subAccounts.erase id }, [])
  | none => .error .SubAccountDoesntExist

/-- Register sub-account to the state.  Whose sub-account the sender is, is not
    looked at. -/
def registerSubAccount (env : CallEnv) (info : MessageInfo) (id : AccountSequence)
    (s : AccountStorage) : AccountResult := do
  let account ← queryLocalAccount env.toEnv id
  ensure (account = some info.sender) .SubAccountRegisterFailed
  return ({ s with subAccounts := s.subAccounts.insert id () }, [])

def handleSubAccountAction (env : CallEnv) (info : MessageInfo) (action : UpdateSubAccountAction)
    (s : AccountStorage) : AccountResult :=
  match action with
  | .UnregisterSubAccount id => unregisterSubAccount env info id s
  | .RegisterSubAccount id => registerSubAccount env info id s

/-- The list of sub-accounts after an action, and the id that the action is about. -/
def listAfter (list : Map AccountSequence Unit) :
    UpdateSubAccountAction → Map AccountSequence Unit
  | .UnregisterSubAccount id => list.erase id
  | .RegisterSubAccount id => list.insert id ()

def actionId : UpdateSubAccountAction → AccountSequence
  | .UnregisterSubAccount id => id
  | .RegisterSubAccount id => id

/-- The message that tells the owning account of a change, if an account owns. -/
def tellOwner (action : AccountSequence → UpdateSubAccountAction) (id : AccountId) :
    GovernanceDetails Addr → List SubMsg
  | .SubAccount account => [.new (.UpdateSubAccount account (action id.seq))]
  | _ => []

/-- Update governance of sub_accounts account after claim. -/
def maybeUpdateSubAccountGovernance (s : AccountStorage) : Except AccountError (List SubMsg) := do
  let pendingGovernance ← okOr s.ownership.pendingOwner (.Ownership .TransferNotFound)
  return tellOwner .UnregisterSubAccount s.accountId s.ownership.owner ++
    tellOwner .RegisterSubAccount s.accountId pendingGovernance

/-- The messages for the contracts that know an account which is given up. -/
def removeAccountFromContracts (env : CallEnv) (s : AccountStorage) :
    Except AccountError (List SubMsg) := do
  ensure (s.subAccounts.keys.head? = none) .RenounceWithSubAccount
  let _ ← env.toEnv.abstractCodeId
  let forgo := match env.registry.revNamespaces.lookup s.accountId.storageKey with
    -- Remove the namespace that this account holds
    | some ns => [SubMsg.new (.ForgoNamespace [ns.asStr])]
    | none => []
  return tellOwner .UnregisterSubAccount s.accountId s.ownership.owner ++ forgo

end AbstractFramework.Account
