import AbstractFramework.Account.State

/-! # The module factory

`execute_create_modules` is called by an account.  It resolves the modules once
more, sums up the fees and the instantiation funds, and answers with the
messages that pay the namespace owners and create the contracts.  It never
creates adapters, services or the IBC client: those exist already.
-/

namespace AbstractFramework.ModuleFactory

open AbstractFramework Fallible Storage Account

variable [Crates]

inductive ModuleFactoryError where
  | Std (e : StdError)
  /-- `AbstractError::Fee` with a sum of fees. -/
  | Fee (expected sent : List Coin)
  | Instantiate2AddressError (text : String)
  | RegistryError (e : RegistryQueryError)
  | ModuleNotInstallable
  /-- An `unwrap` of the source that fails. -/
  | Panicked (text : String)
deriving DecidableEq

inductive InitMsg where
  /-- The base message of an app, with its account, around the module's own. -/
  | App (account : Addr) (module : Binary)
  | Standalone (msg : Binary)

inductive FactoryMsg where
  | Send (msg : BankMsg)
  | Instantiate2 (admin : Addr) (codeId : Nat) (label : String) (msg : InitMsg)
      (funds : List Coin) (salt : Bytes)

/-! ## Coins -/

/-- A sum of two amounts, if it has 256 bits. -/
def checkedAdd (a b : Nat) : Except StdError Nat := do
  ensure (a + b < Nat.pow 2 256) (.msg "Cannot Add with given operands")
  return a + b

/-- `Coins::add`: one coin for each denomination, in their order, none of them zero. -/
def addCoin (coin : Coin) : List Coin → Except StdError (List Coin)
  | [] => .ok (if coin.amount = 0 then [] else [coin])
  | c :: coins =>
    if coin.amount = 0 then .ok (c :: coins)
    else if c.denom = coin.denom then do
      let amount ← checkedAdd c.amount coin.amount
      return { c with amount } :: coins
    else if strBytes coin.denom < strBytes c.denom then .ok (coin :: c :: coins)
    else do
      let coins ← addCoin coin coins
      return c :: coins

/-! ## Registry queries -/

/-- The account at an address, as the registry knows it. -/
def assertAccount (env : Env) (maybeAccount : Addr) : Except RegistryQueryError Addr := do
  let accountId ← (env.querier.queryAccountId maybeAccount).mapError
    fun _ => RegistryQueryError.FailedToQueryAccountId maybeAccount
  let account ← okOr (env.registry.accountAddresses.lookup accountId.storageKey)
    (.UnknownAccountId accountId)
  ensure (account = maybeAccount) (.NotAccount maybeAccount accountId)
  return account

/-- The account that owns a namespace.  It is unwrapped: modules are unregistered
    when their namespace is unclaimed. -/
def queryNamespaceAccount (env : Env) (ns : Namespace) : Except ModuleFactoryError Addr :=
  match env.registry.namespaces.lookup ns with
  | none => .error (.Panicked "called `NamespaceResponse::unwrap()` on a `Unclaimed` value")
  | some accountId => okOr (env.registry.accountAddresses.lookup accountId.storageKey)
      (.RegistryError (.QueryFailed "query_namespace" (.notFound "Account")))

/-! ## Creating modules -/

/-- What the loop over the modules collects. -/
structure Creation where
  sumOfMonetization : List Coin
  feeMsgs : List FactoryMsg
  moduleInstantiateMessages : List FactoryMsg
  atLeastOneStandalone : Bool

def addMonetization (env : Env) (c : Creation) (m : Module) (config : ModuleConfiguration) :
    Except ModuleFactoryError Creation :=
  match config.monetization with
  | .None => .ok c
  | .InstallFee fee => do
    let sumOfMonetization ← (addCoin fee c.sumOfMonetization).mapError ModuleFactoryError.Std
    -- We transfer that fee to the namespace owner
    let toAddress ← queryNamespaceAccount env m.info.ns
    return { c with
      sumOfMonetization
      feeMsgs := c.feeMsgs ++ [.Send { toAddress, amount := [fee] }] }

def addInitFunds (c : Creation) (funds : List Coin) : Except ModuleFactoryError Creation := do
  let sumOfMonetization ← (funds.foldlM (fun sum coin => addCoin coin sum)
    c.sumOfMonetization).mapError ModuleFactoryError.Std
  return { c with sumOfMonetization }

/-- The message that creates a contract.  Its address is known beforehand. -/
def instantiate2Contract (env : Env) (codeId : Nat) (initMsg : InitMsg) (salt : Bytes)
    (admin : Addr) (funds : List Coin) (info : ModuleInfo) :
    Except ModuleFactoryError FactoryMsg := do
  let code ← okOr (env.querier.codeInfo codeId) (.Std (.msg "no such code"))
  -- the address goes into the event only, but deriving it may fail
  let _ ← (env.instantiate2Address code.checksum env.factory salt).mapError
    ModuleFactoryError.Instantiate2AddressError
  let label := "Module: " ++ info.toStr ++ ", Height " ++ toString env.blockHeight
  return .Instantiate2 admin codeId label initMsg funds salt

def unwrapInitMsg (initMsg : Option Binary) : Except ModuleFactoryError Binary :=
  okOr initMsg (.Panicked "called `Option::unwrap()` on a `None` value")

/-- The message for one module, by its reference. -/
def addModule (env : Env) (account : Addr) (salt : Bytes) (c : Creation) (m : Module)
    (funds : List Coin) (initMsg : Option Binary) : Except ModuleFactoryError Creation :=
  match m.reference with
  | .App codeId => do
    let initMsg ← unwrapInitMsg initMsg
    let value ← (env.fromJson initMsg).mapError ModuleFactoryError.Std
    let msg ← instantiate2Contract env codeId (.App account value) salt account funds m.info
    return { c with moduleInstantiateMessages := c.moduleInstantiateMessages ++ [msg] }
  | .Adapter _ | .Service _ => .ok c
  | .Standalone codeId => do
    let initMsg ← unwrapInitMsg initMsg
    let msg ← instantiate2Contract env codeId (.Standalone initMsg) salt account funds m.info
    return { c with
      moduleInstantiateMessages := c.moduleInstantiateMessages ++ [msg]
      atLeastOneStandalone := true }
  | .Native _ => do
    ensure (m.info.moduleId = IBC_CLIENT) .ModuleNotInstallable
    return c
  | .Account _ => .error .ModuleNotInstallable

/-- One module of `execute_create_modules`. -/
def createModule (env : Env) (account : Addr) (salt : Bytes) (c : Creation)
    (entry : (Module × ModuleConfiguration) × Option Binary) :
    Except ModuleFactoryError Creation := do
  let ((m, config), initMsg) := entry
  let c ← addMonetization env c m config
  let c ← addInitFunds c config.instantiationFunds
  addModule env account salt c m config.instantiationFunds initMsg

/-- Function that starts the creation of the modules.  The result is the account to
    store as `CURRENT_BASE`, if it is stored, and the messages. -/
def executeCreateModules (env : Env) (info : MessageInfo) (modules : List ModuleInstallConfig)
    (salt : Bytes) : Except ModuleFactoryError (Option Addr × List FactoryMsg) := do
  let account ← (assertAccount env info.sender).mapError ModuleFactoryError.RegistryError
  let responses ← (env.queryModulesConfigs (modules.map (·.info))).mapError
    ModuleFactoryError.RegistryError
  let c ← (responses.zip (modules.map (·.initMsg))).foldlM (createModule env account salt)
    { sumOfMonetization := [], feeMsgs := [], moduleInstantiateMessages := [],
      atLeastOneStandalone := false }
  ensure (c.sumOfMonetization = info.funds) (.Fee c.sumOfMonetization info.funds)
  let currentBase := if c.atLeastOneStandalone then some account else none
  return (currentBase, c.feeMsgs ++ c.moduleInstantiateMessages)

/-! ## Queries -/

structure SimulateInstallModulesResponse where
  totalRequiredFunds : List Coin
  /-- The install fees by module id. -/
  monetizationFunds : List (String × Coin)
  /-- The instantiation funds by module id. -/
  initializationFunds : List (String × List Coin)

def simulateMonetization (resp : SimulateInstallModulesResponse) (m : Module)
    (config : ModuleConfiguration) : Except StdError SimulateInstallModulesResponse :=
  match config.monetization with
  | .InstallFee fee => do
    let totalRequiredFunds ← addCoin fee resp.totalRequiredFunds
    return { resp with
      totalRequiredFunds
      monetizationFunds := resp.monetizationFunds ++ [(m.info.moduleId, fee)] }
  | .None => .ok resp

def simulateInitFunds (resp : SimulateInstallModulesResponse) (m : Module)
    (config : ModuleConfiguration) : Except StdError SimulateInstallModulesResponse :=
  if config.instantiationFunds.isEmpty then .ok resp
  else do
    let totalRequiredFunds ← config.instantiationFunds.foldlM (fun sum coin => addCoin coin sum)
      resp.totalRequiredFunds
    return { resp with
      totalRequiredFunds
      initializationFunds :=
        resp.initializationFunds ++ [(m.info.moduleId, config.instantiationFunds)] }

/-- One module of `query_simulate_install_modules`. -/
def simulateModule (resp : SimulateInstallModulesResponse)
    (response : Module × ModuleConfiguration) : Except StdError SimulateInstallModulesResponse := do
  let resp ← simulateMonetization resp response.1 response.2
  simulateInitFunds resp response.1 response.2

def querySimulateInstallModules (env : Env) (modules : List ModuleInfo) :
    Except ModuleFactoryError SimulateInstallModulesResponse := do
  let responses ← (env.queryModulesConfigs modules).mapError ModuleFactoryError.RegistryError
  (responses.foldlM simulateModule
    { totalRequiredFunds := [], monetizationFunds := [], initializationFunds := [] }).mapError
    ModuleFactoryError.Std

end AbstractFramework.ModuleFactory
