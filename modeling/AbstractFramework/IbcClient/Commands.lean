import Mathlib.Algebra.Ring.Nat
import AbstractFramework.IbcHost.Commands

/-! # The ibc client

The contract through which the accounts and modules of this chain act on other
chains.  For every other chain it knows a polytone note, which forwards messages to
the ibc host there, and what the note answers comes back as a callback.  Coins are
sent over ICS20 channels; the outcome of a transfer that asks for it comes back as
a sudo call.
-/

namespace AbstractFramework.IbcClient

open Fallible Storage Account

variable [Crates] [Xion]

/-! ## Storage -/

/-- Information about the deployed infrastructure we're connected to. -/
structure IbcInfrastructure where
  /-- The polytone note on this chain, which forwards the messages. -/
  polytoneNote : Addr
  remoteAbstractHost : String
  /-- The proxy of the note on the other chain, once it is known. -/
  remoteProxy : Option String
deriving DecidableEq

structure AccountCallbackPayload where
  channelId : String
  accountAddress : Addr
  funds : Coin
  msgs : List Binary

structure ICS20PacketIdentifier where
  channelId : String
  sequence : UInt64
deriving DecidableEq

structure ClientState where
  ownership : Crates.CwOwnership
  ibcInfra : Map TruncatedChainId IbcInfrastructure
  reversePolytoneNote : Map Addr TruncatedChainId
  /-- The remote account of an account on a chain. -/
  accounts : Map (AccountKey × TruncatedChainId) String
  /-- The transfer between its message and the reply to it. -/
  ics20AccountCallbackPayload : Option AccountCallbackPayload
  /-- The transfers whose outcome is awaited, by the bytes of their identifier. -/
  ics20AccountCallbacks : Map Bytes (Addr × Coin × List Binary)

/-! ## Messages -/

/-- Context that a module gets back with a callback. -/
structure Callback where
  msg : Binary

structure ModuleQuery where
  targetModule : IbcHost.InstalledModuleIdentification
  msg : Binary

inductive WasmQuery where
  /-- `ibc_host::QueryMsg::ModuleQuery`. -/
  | Module (contractAddr : String) (targetModule : IbcHost.InstalledModuleIdentification)
      (msg : Binary)
  | Raw (query : Binary)

/-- `cosmwasm_std::QueryRequest`.  What is only passed on stays encoded. -/
inductive QueryRequest (α : Type) where
  | Custom (query : α)
  | Bank (query : Binary)
  | Staking (query : Binary)
  | Stargate (path : String) (data : Binary)
  | Ibc (query : Binary)
  | Wasm (query : WasmQuery)
  /-- The kinds that polytone does not know. -/
  | Other (query : Binary)

/-- What the client asks a note to send back. -/
inductive IbcClientCallback where
  | ModuleRemoteAction (senderAddress : String) (callback : Callback) (initiatorMsg : Binary)
  | ModuleRemoteQuery (senderAddress : String) (callback : Callback)
      (queries : List (QueryRequest ModuleQuery))
  | CreateAccount (accountId : AccountId)
  | WhoAmI

structure Attribute where
  key : String
  value : String

structure Event where
  ty : String
  attributes : List Attribute

structure SubMsgResponse where
  events : List Event

structure ExecutionResponse where
  /-- The address on the remote chain that executed the messages. -/
  executedBy : String
  result : List SubMsgResponse

inductive ExecutionCallbackResult where
  | Success (response : ExecutionResponse)
  | Error (text : String)

inductive QueryCallbackResult where
  | Success (responses : List Binary)
  | Error (messageIndex : Nat) (error : String)

inductive PolytoneCallback where
  | Query (result : QueryCallbackResult)
  | Execute (result : ExecutionCallbackResult)
  | FatalError (text : String)

structure CallbackMessage where
  /-- The one that called the note. -/
  initiator : Addr
  initiatorMsg : Binary
  result : PolytoneCallback

inductive ExecuteMsg where
  | UpdateOwnership (action : Crates.CwAction)
  | RegisterInfrastructure (chain : TruncatedChainId) (note host : String)
  | SendFunds (hostChain : TruncatedChainId) (receiver memo : Option String)
  | SendFundsWithActions (hostChain : TruncatedChainId) (actions : List Binary)
  | Register (hostChain : TruncatedChainId) (ns : Option String)
      (installModules : List ModuleInstallConfig)
  | ModuleIbcAction (hostChain : TruncatedChainId) (targetModule : ModuleInfo) (msg : Binary)
      (callback : Option Callback)
  | IbcQuery (hostChain : TruncatedChainId) (queries : List (QueryRequest ModuleQuery))
      (callback : Callback)
  | RemoteAction (hostChain : TruncatedChainId) (action : IbcHost.HostAction)
  | RemoveHost (hostChain : TruncatedChainId)
  | Callback (message : CallbackMessage)

/-- `IBCLifecycleComplete`: the chain reports the outcome of a packet. -/
inductive SudoMsg where
  | IBCAck (channel : String) (sequence : UInt64) (ack : String) (success : Bool)
  | IBCTimeout (channel : String) (sequence : UInt64)

structure CallbackRequest where
  receiver : Addr
  msg : Binary

/-- A message to an ibc host, executed there by the proxy of a note. -/
structure RemoteMsg where
  contractAddr : String
  msg : IbcHost.ExecuteMsg

inductive PolytoneNoteExecuteMsg where
  | Query (msgs : List (QueryRequest Empty)) (callback : CallbackRequest) (timeoutSeconds : Nat)
  | Execute (msgs : List RemoteMsg) (callback : Option CallbackRequest) (timeoutSeconds : Nat)

/-- The memo of a transfer. -/
inductive Memo where
  | Text (memo : String)
  /-- The memo of `HookMemoBuilder`: a message that is executed on arrival, and the
      contract that is told the outcome. -/
  | Hook (contractAddr : String) (msg : IbcHost.ExecuteMsg) (ibcCallback : Option Addr)

inductive IbcResult where
  | Query (queries : List (QueryRequest ModuleQuery)) (results : QueryCallbackResult)
  | Execute (initiatorMsg : Binary) (result : ExecutionCallbackResult)
  | FatalError (text : String)

structure IbcResponseMsg where
  callback : Callback
  result : IbcResult

inductive ClientMsg where
  | Note (note : Addr) (msg : PolytoneNoteExecuteMsg)
  | Transfer (channelId toAddress : String) (amount : Coin) (timeout : Nat) (memo : Option Memo)
  /-- `IbcCallback` of a module. -/
  | IbcCallback (contractAddr : String) (msg : IbcResponseMsg)
  /-- A message that an account has asked for. -/
  | Account (contractAddr : Addr) (msg : Binary)
  | BankSend (toAddress : Addr) (amount : List Coin)

structure ClientSubMsg where
  msg : ClientMsg
  replyOnSuccess : Option Nat

def ClientSubMsg.plain (msg : ClientMsg) : ClientSubMsg := { msg, replyOnSuccess := none }

/-! ## Errors and environment -/

inductive PaymentError where
  | NoFunds
  | MultipleDenoms
deriving DecidableEq

inductive SdkError where
  | Std (e : StdError)
  | Abstract (e : AbstractError)
  | ApiQuery (e : RegistryQueryError)
  | NotAModule (addr : Addr) (err : StdError)
  | WrongModuleInfo (addr : Addr) (module : Module) (err : String)

inductive ClientError where
  | Std (e : StdError)
  | Abstract (e : AbstractError)
  | AbstractSdk (e : SdkError)
  | Ownership (text : String)
  | RegistryError (e : RegistryQueryError)
  | AnsHostError (text : String)
  | PaymentError (e : PaymentError)
  | UnregisteredChain (chain : String)
  | ForbiddenInternalCall
  | Unauthorized
  | IbcFailed (message : CallbackMessage)
  | HostAddressExists
  | IbcClientNotInstalled (accountId : AccountId)
  | UnexpectedReply
  /-- A failed `unwrap` or index of the source. -/
  | Panicked (text : String)

abbrev ClientResult := Except ClientError (ClientState × List ClientSubMsg)

structure ClientEnv where
  /-- The client's own address. -/
  address : Addr
  block : BlockInfo
  chainName : TruncatedChainId
  querier : Querier
  registry : RegistryState
  addrValidate : String → Except StdError Addr
  /-- `native_addrs::ans_address`, by the code id of the client. -/
  ansAddress : Nat → Option Addr
  /-- The ICS20 channel of a chain in the name service at an address. -/
  ics20Channel : Addr → TruncatedChainId → Except String String
  /-- `BASE_STATE.query`: the account that an app says it is installed on. -/
  queryBaseState : Addr → Except StdError Addr
  /-- `ACCOUNT_MODULES.query` for one module id. -/
  queryAccountModule : Addr → String → Except StdError (Option Addr)
  /-- The `Info` query of an account. -/
  queryAccountInfo : Addr → Except StdError AccountInfo
  toJson : IbcClientCallback → Binary
  fromJson : Binary → Except StdError IbcClientCallback
  /-- `MsgTransferResponse::decode`. -/
  decodeTransferResponse : Binary → Except StdError UInt64

/-! ## Registry and name service -/

namespace ClientEnv

variable (env : ClientEnv)

/-- `native_addrs::abstract_code_id`. -/
def abstractCodeId : Except ClientError Nat := do
  let contract ← (env.querier.queryWasmContractInfo env.address).mapError ClientError.Std
  return contract.codeId

/-- `RegistryContract::new`. -/
def assertRegistry (codeId : Nat) : Except ClientError Unit := do
  let _ ← okOr (env.querier.registryAddress codeId)
    (ClientError.Abstract (.Std (.notFound "registry address")))

/-- `AnsHost::new`. -/
def ansHost (codeId : Nat) : Except ClientError Addr :=
  okOr (env.ansAddress codeId) (.Abstract (.Std (.notFound "ans address")))

def uncheckedAccountId (maybeAccount : Addr) : Except RegistryQueryError AccountId :=
  (env.querier.queryAccountId maybeAccount).mapError
    fun _ => RegistryQueryError.FailedToQueryAccountId maybeAccount

/-- `RegistryContract::account`. -/
def account (accountId : AccountId) : Except RegistryQueryError Addr :=
  okOr (env.registry.accountAddresses.lookup accountId.storageKey) (.UnknownAccountId accountId)

/-- `RegistryContract::account_id`: the id that the account reports, if the registry
    agrees. -/
def accountId (maybeAccount : Addr) : Except RegistryQueryError AccountId := do
  let selfReported ← env.uncheckedAccountId maybeAccount
  let account ← env.account selfReported
  ensure (account = maybeAccount) (.FailedToQueryAccountId maybeAccount)
  return selfReported

def assertAccount (maybeAccount : Addr) : Except RegistryQueryError Addr := do
  let accountId ← env.uncheckedAccountId maybeAccount
  let account ← env.account accountId
  ensure (account = maybeAccount) (.NotAccount maybeAccount accountId)
  return account

/-- `AccountIdentification::account_id`: the id that the account reports. -/
def accountIdOf (account : Addr) : Except ClientError AccountId :=
  (env.querier.queryAccountId account).mapError fun e => .AbstractSdk (.Std e)

/-- `ModuleRegistry::query_module`. -/
def queryModule (info : ModuleInfo) : Except SdkError Module := do
  let (module, _) ← (env.registry.queryModule info).mapError
    fun e => SdkError.ApiQuery (.QueryFailed "query_modules_configs" e)
  return module

/-- Queries the Module information for an address.  A module of which there is one
    contract is known by its address, the others only by their code. -/
def moduleInfo (address : Addr) : Except SdkError Module := do
  -- what the contract says about itself
  let data ← (env.querier.queryModuleData address).mapError (SdkError.NotAModule address)
  let info ← (ModuleInfo.fromId data.module (.Version data.version)).mapError SdkError.Abstract
  let module ← env.queryModule info
  match module.reference with
  | .Adapter queried | .Native queried | .Service queried => do
    ensure (queried = address) (SdkError.WrongModuleInfo address module
      ("Expected address " ++ queried.asStr ++ ", got address " ++ address.asStr))
    return module
  | .App queried | .Standalone queried | .Account queried => do
    let contract ← (env.querier.queryWasmContractInfo address).mapError SdkError.Std
    ensure (queried = contract.codeId) (SdkError.WrongModuleInfo address module
      ("Expected code_id " ++ toString queried ++ ", got code_id " ++ toString contract.codeId))
    return module

end ClientEnv

/-! ## Infrastructure -/

def PACKET_LIFETIME : Nat := 60 * 60

def assertOwner (s : ClientState) (sender : Addr) : Except ClientError Unit :=
  match Crates.cwOwner s.ownership with
  | none => .error (.Ownership "Contract ownership has been renounced")
  | some owner =>
    ensure (sender = owner) (.Ownership "Caller is not the contract's current owner")

def verifyChain (chain : TruncatedChainId) : Except ClientError Unit :=
  chain.verify.mapError ClientError.Abstract

def loadInfra (s : ClientState) (chain : TruncatedChainId) : Except ClientError IbcInfrastructure :=
  okOr (s.ibcInfra.lookup chain) (.Std (.notFound "IbcInfrastructure"))

/-- Registers a chain to the client.  The empty message to the note brings its remote
    proxy back. -/
def executeRegisterInfrastructure (env : ClientEnv) (info : MessageInfo)
    (hostChain : TruncatedChainId) (host note : String) (s : ClientState) : ClientResult := do
  verifyChain hostChain
  assertOwner s info.sender
  let note ← (env.addrValidate note).mapError ClientError.Std
  -- Can't allow if it already exists
  ensure (hostChain ∉ s.ibcInfra ∧ note ∉ s.reversePolytoneNote) .HostAddressExists
  let infra : IbcInfrastructure :=
    { polytoneNote := note, remoteAbstractHost := host, remoteProxy := none }
  let callback : CallbackRequest := { receiver := env.address, msg := env.toJson .WhoAmI }
  return ({ s with
    ibcInfra := s.ibcInfra.insert hostChain infra
    reversePolytoneNote := s.reversePolytoneNote.insert note hostChain },
    [.plain (.Note note (.Execute [] (some callback) PACKET_LIFETIME))])

/-- Allows admins to clear host if needed. -/
def executeRemoveHost (info : MessageInfo) (hostChain : TruncatedChainId) (s : ClientState) :
    ClientResult := do
  verifyChain hostChain
  assertOwner s info.sender
  let reversePolytoneNote := match s.ibcInfra.lookup hostChain with
    | some infra => s.reversePolytoneNote.erase infra.polytoneNote
    | none => s.reversePolytoneNote
  return ({ s with ibcInfra := s.ibcInfra.erase hostChain, reversePolytoneNote }, [])

/-! ## Packets -/

/-- Send a message to a remote abstract-ibc-host, proxied through polytone. -/
def sendRemoteHostAction (s : ClientState) (accountId : AccountId) (account : Addr)
    (hostChain : TruncatedChainId) (action : IbcHost.HostAction)
    (callbackRequest : Option CallbackRequest) : Except ClientError ClientMsg := do
  let infra ← loadInfra s hostChain
  let msg := IbcHost.ExecuteMsg.Execute accountId account.asStr action
  return .Note infra.polytoneNote (.Execute [{ contractAddr := infra.remoteAbstractHost, msg }]
    callbackRequest PACKET_LIFETIME)

def executeSendPacket (env : ClientEnv) (info : MessageInfo) (hostChain : TruncatedChainId)
    (action : IbcHost.HostAction) (s : ClientState) : ClientResult := do
  verifyChain hostChain
  let codeId ← env.abstractCodeId
  env.assertRegistry codeId
  match action with
  | .Dispatch _ | .Helpers _ => do
    -- Verify that the sender is a account contract
    let account ← (env.assertAccount info.sender).mapError ClientError.RegistryError
    let accountId ← env.accountIdOf account
    let noteMessage ← sendRemoteHostAction s accountId account hostChain action none
    return (s, [.plain noteMessage])
  | .Internal _ =>
    -- Can only call non-internal actions
    .error .ForbiddenInternalCall

/-- The module that a packet speaks for: an adapter for itself, an app for the account that
    it stores. -/
def sourceModule (env : ClientEnv) (sender : Addr) (module : Module) :
    Except ClientError IbcHost.InstalledModuleIdentification :=
  match module.reference with
  | .Account _ | .Native _ | .Standalone _ | .Service _ => .error .Unauthorized
  | .Adapter _ => .ok { moduleInfo := module.info, accountId := none }
  | .App _ => do
    let account ← (env.queryBaseState sender).mapError ClientError.Std
    let accountId ← (env.accountId account).mapError ClientError.RegistryError
    let account ← (env.account accountId).mapError ClientError.RegistryError
    let ibcClient ← (env.queryAccountModule account IBC_CLIENT).mapError ClientError.Std
    -- Check that ibc_client is installed on account
    ensure (ibcClient.isSome = true) (.IbcClientNotInstalled accountId)
    return { moduleInfo := module.info, accountId := some accountId }

def executeSendModuleToModulePacket (env : ClientEnv) (info : MessageInfo)
    (hostChain : TruncatedChainId) (targetModule : ModuleInfo) (msg : Binary)
    (callback : Option Callback) (s : ClientState) : ClientResult := do
  verifyChain hostChain
  let codeId ← env.abstractCodeId
  env.assertRegistry codeId
  let module ← (env.moduleInfo info.sender).mapError ClientError.AbstractSdk
  let source ← sourceModule env info.sender module
  let callbackRequest : Option CallbackRequest := callback.map fun c =>
    { receiver := env.address
      msg := env.toJson (.ModuleRemoteAction info.sender.asStr c msg) }
  let infra ← loadInfra s hostChain
  let remote : RemoteMsg :=
    { contractAddr := infra.remoteAbstractHost, msg := .ModuleExecute source targetModule msg }
  return (s, [.plain (.Note infra.polytoneNote
    (.Execute [remote] callbackRequest PACKET_LIFETIME))])

/-- Map a ModuleQuery to a regular query. -/
def mapQuery (ibcHost : String) : QueryRequest ModuleQuery → Except ClientError (QueryRequest Empty)
  | .Custom query => .ok (.Wasm (.Module ibcHost query.targetModule query.msg))
  | .Bank query => .ok (.Bank query)
  | .Staking query => .ok (.Staking query)
  | .Stargate path data => .ok (.Stargate path data)
  | .Ibc query => .ok (.Ibc query)
  | .Wasm query => .ok (.Wasm query)
  | .Other _ => .error (.Panicked "not implemented: Not implemented type of query")

def executeSendQuery (env : ClientEnv) (info : MessageInfo) (hostChain : TruncatedChainId)
    (queries : List (QueryRequest ModuleQuery)) (callback : Callback) (s : ClientState) :
    ClientResult := do
  verifyChain hostChain
  let infra ← loadInfra s hostChain
  -- the queries go back as they came
  let callbackRequest : CallbackRequest :=
    { receiver := env.address
      msg := env.toJson (.ModuleRemoteQuery info.sender.asStr callback queries) }
  let queries ← queries.mapM (mapQuery infra.remoteAbstractHost)
  return (s, [.plain (.Note infra.polytoneNote (.Query queries callbackRequest PACKET_LIFETIME))])

/-- Registers an Abstract Account on a remote chain. -/
def executeRegisterAccount (env : ClientEnv) (info : MessageInfo) (hostChain : TruncatedChainId)
    (ns : Option String) (installModules : List ModuleInstallConfig) (s : ClientState) :
    ClientResult := do
  verifyChain hostChain
  let codeId ← env.abstractCodeId
  env.assertRegistry codeId
  let account ← (env.assertAccount info.sender).mapError ClientError.RegistryError
  let accountId ← env.accountIdOf account
  let accountInfo ← (env.queryAccountInfo account).mapError ClientError.Std
  let action : IbcHost.HostAction := .Internal (.Register accountInfo.name accountInfo.description
    accountInfo.link ns installModules)
  let callback : CallbackRequest :=
    { receiver := env.address, msg := env.toJson (.CreateAccount accountId) }
  let noteMessage ← sendRemoteHostAction s accountId account hostChain action (some callback)
  return (s, [.plain noteMessage])

/-! ## Transfers -/

def SEND_FUNDS_WITH_ACTIONS_REPLY_ID : Nat := 1

/-- `_ics_20_send_msg`.  The timeout is a time in nanoseconds. -/
def ics20SendMsg (env : ClientEnv) (channelId : String) (coin : Coin) (receiver : String)
    (memo : Option Memo) : ClientMsg :=
  .Transfer channelId receiver coin (env.block.time + PACKET_LIFETIME * 1000000000) memo

/-- Where `SendFunds` sends to: the receiver of the message, or the remote account. -/
def remoteAddr (env : ClientEnv) (account : Addr) (hostChain : TruncatedChainId)
    (receiver : Option String) (s : ClientState) : Except ClientError String :=
  match receiver with
  | some addr => .ok addr
  | none => do
    let accountId ← env.accountIdOf account
    okOr (s.accounts.lookup (accountId.storageKey, hostChain)) (.Std (.notFound "String"))

/-- One transfer for each coin.  Nothing is stored for them. -/
def executeSendFunds (env : ClientEnv) (info : MessageInfo) (hostChain : TruncatedChainId)
    (memo receiver : Option String) (s : ClientState) : ClientResult := do
  verifyChain hostChain
  let codeId ← env.abstractCodeId
  env.assertRegistry codeId
  let ans ← env.ansHost codeId
  let account ← (env.assertAccount info.sender).mapError ClientError.RegistryError
  let remoteAddr ← remoteAddr env account hostChain receiver s
  let channelId ← (env.ics20Channel ans hostChain).mapError ClientError.AnsHostError
  return (s, info.funds.map fun coin =>
    .plain (ics20SendMsg env channelId coin remoteAddr (memo.map Memo.Text)))

/-- `cw_utils::one_coin`. -/
def oneCoin (info : MessageInfo) : Except ClientError Coin :=
  match info.funds with
  | [] => .error (.PaymentError .NoFunds)
  | [coin] => if coin.amount = 0 then .error (.PaymentError .NoFunds) else .ok coin
  | _ => .error (.PaymentError .MultipleDenoms)

/-- One transfer to the account on the other chain.  The reply to it stores the actions
    under the sequence of its packet. -/
def executeSendFundsWithActions (env : ClientEnv) (info : MessageInfo)
    (hostChain : TruncatedChainId) (actions : List Binary) (s : ClientState) : ClientResult := do
  verifyChain hostChain
  let coin ← oneCoin info
  let infra ← loadInfra s hostChain
  let codeId ← env.abstractCodeId
  env.assertRegistry codeId
  let account ← (env.assertAccount info.sender).mapError ClientError.RegistryError
  let accountId ← env.accountIdOf account
  let ans ← env.ansHost codeId
  let channelId ← (env.ics20Channel ans hostChain).mapError ClientError.AnsHostError
  -- Hook for sending the funds correctly to the sender
  let memo := Memo.Hook infra.remoteAbstractHost (.Fund accountId env.chainName) (some env.address)
  -- Save payload for use in reply
  let payload : AccountCallbackPayload :=
    { channelId, accountAddress := account, funds := coin, msgs := actions }
  return ({ s with ics20AccountCallbackPayload := some payload }, [{
    msg := ics20SendMsg env channelId coin infra.remoteAbstractHost (some memo)
    replyOnSuccess := some SEND_FUNDS_WITH_ACTIONS_REPLY_ID }])

/-! ## Callbacks of notes -/

def ABSTRACT_EVENT_TYPE : String := "wasm-abstract"

/-- The address in the event that announces a new account. -/
def createdAddress (response : ExecutionResponse) (failed : ClientError) :
    Except ClientError String := do
  let creation ← okOr response.result.head? (ClientError.Panicked "index out of bounds")
  let attributes := (creation.events.filter fun event => event.ty = ABSTRACT_EVENT_TYPE).flatMap
    Event.attributes
  let account ← okOr (attributes.find? fun attr => attr.key = "account_address") failed
  return account.value

/-- `IbcResult::from_execute`. -/
def IbcResult.fromExecute (result : PolytoneCallback) (initiatorMsg : Binary) :
    Except StdError IbcResult :=
  match result with
  | .Query _ => .error (.msg "Expected an execution result, got a query result")
  | .Execute result => .ok (.Execute initiatorMsg result)
  | .FatalError e => .ok (.FatalError e)

/-- `IbcResult::from_query`. -/
def IbcResult.fromQuery (result : PolytoneCallback) (queries : List (QueryRequest ModuleQuery)) :
    Except StdError IbcResult :=
  match result with
  | .Query results => .ok (.Query queries results)
  | .Execute _ => .error (.msg "Expected a query result, got an execute result")
  | .FatalError e => .ok (.FatalError e)

/-- Only the notes call this, for what the client itself has asked them for. -/
def receiveActionCallback (env : ClientEnv) (info : MessageInfo) (message : CallbackMessage)
    (s : ClientState) : ClientResult := do
  let hostChain ← okOr (s.reversePolytoneNote.lookup info.sender) .Unauthorized
  ensure (message.initiator = env.address) .Unauthorized
  let callback ← (env.fromJson message.initiatorMsg).mapError ClientError.Std
  match callback with
  | .WhoAmI =>
    match message.result with
    | .Execute (.Success response) => do
      let infra ← okOr (s.ibcInfra.lookup hostChain) (.UnregisteredChain hostChain.name)
      let infra := { infra with remoteProxy := some response.executedBy }
      return ({ s with ibcInfra := s.ibcInfra.insert hostChain infra }, [])
    | .Execute (.Error e) => .error (.Std (.msg e))
    | _ => .error (.IbcFailed message)
  | .CreateAccount accountId =>
    match message.result with
    | .Execute (.Success response) => do
      let remoteAccount ← createdAddress response (.IbcFailed message)
      return ({ s with
        accounts := s.accounts.insert (accountId.storageKey, hostChain) remoteAccount }, [])
    | _ => .error (.IbcFailed message)
  | .ModuleRemoteAction senderAddress callback initiatorMsg => do
    let result ← (IbcResult.fromExecute message.result initiatorMsg).mapError ClientError.Std
    return (s, [.plain (.IbcCallback senderAddress { callback, result })])
  | .ModuleRemoteQuery senderAddress callback queries => do
    let result ← (IbcResult.fromQuery message.result queries).mapError ClientError.Std
    return (s, [.plain (.IbcCallback senderAddress { callback, result })])

/-! ## Outcomes of transfers -/

/-- A sequence number as eight big-endian bytes. -/
def sequenceBytes (sequence : UInt64) : Bytes :=
  [56, 48, 40, 32, 24, 16, 8, 0].map fun shift => UInt8.ofNat (sequence.toNat / 2 ^ shift)

/-- The key of a packet in a map.  The length of a channel has two bytes. -/
def ICS20PacketIdentifier.storageKey (packet : ICS20PacketIdentifier) : Except ClientError Bytes := do
  ensure ((strBytes packet.channelId).length < 65536)
    (ClientError.Panicked "only supports namespaces up to length 0xFFFF")
  return joinedKey [strBytes packet.channelId, sequenceBytes packet.sequence]

/-- The reply to the transfer of `SendFundsWithActions`. -/
def saveCallbackActions (env : ClientEnv) (result : Except String (Option Binary)) (s : ClientState) :
    ClientResult := do
  let data ← result.mapError fun e => ClientError.Std (.msg e)
  let data ← okOr data (ClientError.Panicked "Data is set after sending a packet")
  let sequence ← (env.decodeTransferResponse data).mapError ClientError.Std
  let payload ← okOr s.ics20AccountCallbackPayload (.Std (.notFound "AccountCallbackPayload"))
  let key ← ICS20PacketIdentifier.storageKey { channelId := payload.channelId, sequence }
  let entry := (payload.accountAddress, payload.funds, payload.msgs)
  return ({ s with ics20AccountCallbacks := s.ics20AccountCallbacks.insert key entry }, [])

def takeCallback (packet : ICS20PacketIdentifier) (s : ClientState) :
    Except ClientError (ClientState × Addr × Coin × List Binary) := do
  let key ← packet.storageKey
  let entry ← okOr (s.ics20AccountCallbacks.lookup key) (.Std (.notFound "(Addr, Coin, Vec<Binary>)"))
  return ({ s with ics20AccountCallbacks := s.ics20AccountCallbacks.erase key }, entry)

/-- The actions of the account after a success, and its coin after a failure. -/
def ics20HookCallback (msg : SudoMsg) (s : ClientState) : ClientResult :=
  match msg with
  | .IBCAck channel sequence _ success => do
    let (s, account, coin, actions) ← takeCallback { channelId := channel, sequence } s
    let msgs := if success then actions.map fun msg => ClientMsg.Account account msg
      else [.BankSend account [coin]]
    return (s, msgs.map .plain)
  | .IBCTimeout channel sequence => do
    let (s, account, coin, _) ← takeCallback { channelId := channel, sequence } s
    return (s, [.plain (.BankSend account [coin])])

/-! ## Entry points -/

def execute (env : ClientEnv) (info : MessageInfo) (msg : ExecuteMsg) (s : ClientState) :
    ClientResult :=
  match msg with
  | .UpdateOwnership action => do
    let ownership ← (Crates.updateCwOwnership s.ownership env.block info.sender action).mapError
      ClientError.Ownership
    return ({ s with ownership }, [])
  | .RemoteAction hostChain action => executeSendPacket env info hostChain action s
  | .RegisterInfrastructure chain note host =>
    executeRegisterInfrastructure env info chain host note s
  | .SendFunds hostChain receiver memo => executeSendFunds env info hostChain memo receiver s
  | .SendFundsWithActions hostChain actions =>
    executeSendFundsWithActions env info hostChain actions s
  | .Register hostChain ns installModules =>
    executeRegisterAccount env info hostChain ns installModules s
  | .RemoveHost hostChain => executeRemoveHost info hostChain s
  | .Callback message => receiveActionCallback env info message s
  | .ModuleIbcAction hostChain targetModule msg callback =>
    executeSendModuleToModulePacket env info hostChain targetModule msg callback s
  | .IbcQuery hostChain queries callback => executeSendQuery env info hostChain queries callback s

def reply (env : ClientEnv) (id : Nat) (result : Except String (Option Binary)) (s : ClientState) :
    ClientResult :=
  if id = SEND_FUNDS_WITH_ACTIONS_REPLY_ID then saveCallbackActions env result s
  else .error .UnexpectedReply

def executeSudo (msg : SudoMsg) (s : ClientState) : ClientResult := ics20HookCallback msg s

def instantiate (info : MessageInfo) : ClientState where
  ownership := Crates.initializeCwOwner info.sender
  ibcInfra := ∅
  reversePolytoneNote := ∅
  accounts := ∅
  ics20AccountCallbackPayload := none
  ics20AccountCallbacks := ∅

end AbstractFramework.IbcClient
