import AbstractFramework.Account.State
import AbstractFramework.Lib.Batches
import AbstractFramework.Ownership.NestedAdmin

/-! # The adapter base

An adapter serves every account of the chain.  `handleAppMsg` finds the account that a
request is for and hands the request to the adapter's own handler; `baseExecute` finds
the account whose authorized addresses are updated.  Both accept an account that calls
for itself, and somebody else who names the account.
-/

namespace AbstractFramework.Adapter

open AbstractFramework Fallible Storage

variable [Crates]

def MAXIMUM_AUTHORIZED_ADDRESSES : Nat := 15

inductive SdkError where
  | Std (e : StdError)
  | Abstract (e : AbstractError)
  | ApiQuery (api moduleId : String) (e : Account.RegistryQueryError)
  | OnlyAdmin
deriving DecidableEq

inductive AdapterError where
  | Std (e : StdError)
  | AbstractSdk (e : SdkError)
  | UnauthorizedAdapterRequest (adapter sender : String)
  | UnauthorizedAddressAdapterRequest (adapter sender : String)
  | AuthorizedAddressOrModuleIdNotPresent (addrOrModuleId : String)
  | AuthorizedAddressOrModuleIdNotValid (addrOrModuleId : String)
  | AuthorizedAddressOrModuleIdAlreadyPresent (addrOrModuleId : String)
  | TooManyAuthorizedAddresses (max : Nat)
deriving DecidableEq

/-! ## Messages and state -/

/-- An adapter request.  If the account is absent, then the sender must be an account. -/
structure AdapterRequestMsg (Request : Type) where
  accountAddress : Option String
  request : Request

/-- Add or remove authorized addresses. -/
inductive AdapterBaseMsg where
  | UpdateAuthorizedAddresses (toAdd toRemove : List String)

structure BaseExecuteMsg where
  /-- The account address for which to apply the configuration. -/
  accountAddress : Option String
  msg : AdapterBaseMsg

inductive ExecuteMsg (Request : Type) where
  | Base (msg : BaseExecuteMsg)
  | Module (request : AdapterRequestMsg Request)

structure AdapterState where
  /-- The code id in `BASE_STATE`, which the registry is found by. -/
  codeId : Option Nat
  /-- The addresses that may send requests for an account. -/
  authorizedAddresses : Map Addr (List Addr)

/-- What follows from an accepted message. -/
inductive Outcome (Request : Type) where
  /-- The adapter's own handler runs with the target account. -/
  | Handle (targetAccount : Addr) (request : Request)
  | Updated (account : Addr)
deriving DecidableEq

structure AdapterEnv where
  /-- The module id of the adapter. -/
  adapter : String
  /-- The adapter's own address. -/
  address : Addr
  querier : Querier
  registry : RegistryState
  addrValidate : String → Except StdError Addr
  /-- `CALLING_TO_AS_ADMIN` of an account. -/
  callingToAsAdmin : Addr → Option Addr
  /-- `ACCOUNT_MODULES.query` for one module id. -/
  queryAccountModule : Addr → String → Except StdError (Option Addr)

/-! ## Verifying accounts -/

namespace AdapterEnv

variable (env : AdapterEnv)

def accountRegistry (s : AdapterState) : Except AdapterError Unit := do
  let codeId ← okOr s.codeId (.AbstractSdk (.Std (.notFound "AdapterState")))
  let _ ← okOr (env.querier.registryAddress codeId)
    (AdapterError.AbstractSdk (.Abstract (.Std (.notFound "registry address"))))

/-- `RegistryContract::assert_account`. -/
def assertAccount (maybeAccount : Addr) : Except Account.RegistryQueryError Addr := do
  let accountId ← (env.querier.queryAccountId maybeAccount).mapError
    fun _ => Account.RegistryQueryError.FailedToQueryAccountId maybeAccount
  let account ← okOr (env.registry.accountAddresses.lookup accountId.storageKey)
    (.UnknownAccountId accountId)
  ensure (account = maybeAccount) (.NotAccount maybeAccount accountId)
  return account

/-- Verify if the provided address is indeed an account. -/
def assertIsAccount (maybeAccount : Addr) : Except SdkError Addr :=
  (env.assertAccount maybeAccount).mapError (SdkError.ApiQuery "AccountRegistry" env.adapter)

/-- The adapter as a contract that an account may call as its admin. -/
def asModule : NestedAdmin where
  querier := env.querier
  contract := env.address
  get := .ok none
  callingToAsAdmin := env.callingToAsAdmin

/-- Verify if the provided address is indeed an account and if the current execution
    has admin rights. -/
def assertIsAccountAdmin (maybeAccount : Addr) : Except SdkError Addr := do
  let account ← env.assertIsAccount maybeAccount
  ensure (env.asModule.assertAccountCallingToAsAdminIsSelf maybeAccount = true) .OnlyAdmin
  return account

def isTopLevelOwner (account sender : Addr) : Except StdError Bool := do
  let owner ← queryTopLevelOwnerAddr env.querier account
  return owner = sender

/-! ## The target account -/

/-- The account whose configuration a base message is about. -/
def baseAccount (sender : Addr) (accountAddress : Option String) : Except AdapterError Addr :=
  match env.assertIsAccountAdmin sender with
  | .ok account => .ok account
  | .error _ =>
    -- the sender must be a top-level account owner
    match accountAddress with
    | some requestedAccount => do
      let accountAddress ← (env.addrValidate requestedAccount).mapError AdapterError.Std
      let account ← (env.assertIsAccount accountAddress).mapError AdapterError.AbstractSdk
      ensure ((env.isTopLevelOwner account sender).toOption.getD false = true)
        (.UnauthorizedAdapterRequest env.adapter sender.asStr)
      return account
    | none => .error (.UnauthorizedAdapterRequest env.adapter sender.asStr)

/-- The account that a request is for. -/
def requestAccount (s : AdapterState) (sender : Addr) (accountAddress : Option String) :
    Except AdapterError Addr :=
  match accountAddress with
  | some requestedAccount => do
    let accountAddress ← (env.addrValidate requestedAccount).mapError AdapterError.Std
    let requestedCore ← (env.assertIsAccount accountAddress).mapError AdapterError.AbstractSdk
    -- the account itself, an authorized address or the top-level owner
    let authorized := (s.authorizedAddresses.lookup accountAddress).getD []
    ensure (requestedCore = sender ∨ sender ∈ authorized ∨
        (env.isTopLevelOwner requestedCore sender).toOption.getD false = true)
      (.UnauthorizedAddressAdapterRequest env.adapter sender.asStr)
    return requestedCore
  | none => (env.assertIsAccount sender).mapError fun _ =>
      AdapterError.UnauthorizedAddressAdapterRequest env.adapter sender.asStr

/-! ## Updating the authorized addresses -/

/-- The address that a module id stands for on the account, or an address as it is. -/
def getAddrFromModuleIdOrAddr (account : Addr) (addrOrModuleId : String) :
    Except AdapterError Addr :=
  match env.queryAccountModule account addrOrModuleId with
  | .ok (some addr) => .ok addr
  | _ =>
    match env.addrValidate addrOrModuleId with
    | .ok addr => .ok addr
    | .error _ => .error (.AuthorizedAddressOrModuleIdNotValid addrOrModuleId)

def authorize (account : Addr) (authorizedAddrs : List Addr) (authorized : String) :
    Except AdapterError (List Addr) := do
  let authorizedAddr ← env.getAddrFromModuleIdOrAddr account authorized
  ensure (authorizedAddr ∉ authorizedAddrs) (.AuthorizedAddressOrModuleIdAlreadyPresent authorized)
  return authorizedAddrs ++ [authorizedAddr]

def deauthorize (account : Addr) (authorizedAddrs : List Addr) (deauthorized : String) :
    Except AdapterError (List Addr) := do
  let deauthorizedAddr ← env.getAddrFromModuleIdOrAddr account deauthorized
  ensure (deauthorizedAddr ∈ authorizedAddrs) (.AuthorizedAddressOrModuleIdNotPresent deauthorized)
  return authorizedAddrs.filter (· ≠ deauthorizedAddr)

end AdapterEnv

/-- Update authorized addresses from the adapter.  Module ids are those of the sender. -/
def updateAuthorizedAddresses (env : AdapterEnv) (sender targetAccount : Addr)
    (toAdd toRemove : List String) (s : AdapterState) :
    Except AdapterError AdapterState := do
  let authorizedAddrs := (s.authorizedAddresses.lookup targetAccount).getD []
  let authorizedAddrs ← toAdd.foldlM (env.authorize sender) authorizedAddrs
  let authorizedAddrs ← toRemove.foldlM (env.deauthorize sender) authorizedAddrs
  ensure (authorizedAddrs.length ≤ MAXIMUM_AUTHORIZED_ADDRESSES)
    (.TooManyAuthorizedAddresses MAXIMUM_AUTHORIZED_ADDRESSES)
  return { s with
    authorizedAddresses := s.authorizedAddresses.insert targetAccount authorizedAddrs }

/-! ## Entry points -/

variable {Request : Type}

def baseExecute (env : AdapterEnv) (sender : Addr) (message : BaseExecuteMsg)
    (s : AdapterState) : Except AdapterError (AdapterState × Outcome Request) := do
  env.accountRegistry s
  let account ← env.baseAccount sender message.accountAddress
  match message.msg with
  | .UpdateAuthorizedAddresses toAdd toRemove => do
    let s ← updateAuthorizedAddresses env sender account toAdd toRemove s
    return (s, .Updated account)

def handleAppMsg (env : AdapterEnv) (sender : Addr) (request : AdapterRequestMsg Request)
    (s : AdapterState) : Except AdapterError (AdapterState × Outcome Request) := do
  env.accountRegistry s
  let account ← env.requestAccount s sender request.accountAddress
  return (s, .Handle account request.request)

def execute (env : AdapterEnv) (sender : Addr) (msg : ExecuteMsg Request) (s : AdapterState) :
    Except AdapterError (AdapterState × Outcome Request) :=
  match msg with
  | .Module request => handleAppMsg env sender request s
  | .Base execMsg => baseExecute env sender execMsg s

end AbstractFramework.Adapter
