import AbstractFramework.Ownership.GovOwnable
import AbstractFramework.Registry.State

/-! # Account storage

The part of an account's storage that its modules are managed in, its errors,
and the environment of a call: the chain as the account sees it, the registry
it queries, and the address derivation that the chain offers.
-/

namespace AbstractFramework.Account

open AbstractFramework Fallible Storage

variable [Crates]

abbrev Binary := Bytes

/-- A module to install, with the message that instantiates it. -/
structure ModuleInstallConfig where
  info : ModuleInfo
  initMsg : Option Binary

/-! ## State -/

/-- The modules that depend on a module, by module id and without repetition. -/
abbrev Dependents := Map String (List String)

/-- The recorded dependents of a module. -/
def dependentsOf (m : Dependents) (id : String) : List String := (m.lookup id).getD []

structure AccountState where
  /-- The account's own cw2 entry. -/
  contractVersion : ContractVersion
  accountId : AccountId
  ownership : Ownership
  authAdmin : Option Bool
  suspensionStatus : Bool
  /-- The addresses of the installed modules by module id. -/
  accountModules : Map String Addr
  dependents : Dependents
  whitelistedModules : List Addr
  installModulesContext : List (Module × Option Addr)
  migrateContext : List (String × List Dependency)
  callingToAsAdmin : Option Addr

def CALLING_TO_AS_ADMIN_WILD_CARD : Addr := ⟨"calling-to-wild-card"⟩

/-! ## Errors -/

inductive RegistryQueryError where
  | QueryFailed (methodName : String) (error : StdError)
  | ModuleNotFound (info : ModuleInfo)
  | InvalidReference (info : ModuleInfo)
  | FailedToQueryAccountId (contractAddr : Addr)
  | UnknownAccountId (accountId : AccountId)
  | NotAccount (addr : Addr) (accountId : AccountId)
deriving DecidableEq, Repr

inductive AccountError where
  | Std (e : StdError)
  | Abstract (e : AbstractError)
  /-- `AbstractError::Fee` with a sum of fees. -/
  | Fee (expected sent : List Coin)
  | Validation (e : ValidationError)
  | Ownership (e : GovOwnershipError)
  | Instantiate2AddressError (text : String)
  | RegistryError (e : RegistryQueryError)
  | AccountSuspended
  | QueryModulesFailed (e : RegistryQueryError)
  | ModuleAlreadyInstalled (id : String)
  | ProhibitedReinstall
  | ModuleNotInstallable (info : String)
  | InitMsgMissing (id : String)
  | InvalidModuleName
  | ModuleNotFound (id : String)
  | DuplicateModuleMigration (moduleId : String)
  | NotUpgradeable (info : ModuleInfo)
  | ModuleHasDependents (dependents : List String)
  | VersionRequirementNotMet (moduleId version comp : String) (postMigration : Bool)
  | DependencyNotMet (id dependent : String)
  | ModuleLimitReached
  | AlreadyWhitelisted (addr : String)
  | NotWhitelisted
  | SubAccountDoesntExist
  | SubAccountIsNotCaller
  | SubAccountRegisterFailed
  | RenounceWithSubAccount
  | NoUpdates
  | OlderVersion (new old : String)
  | SenderNotWhitelistedOrOwner
  | SubAccountCreatorNotAccount (caller account : String)
  | CantChainAdminCalls
  | AbstractAccountInvalidAddress (abstractAccount contract : String)
  | NoAuthFeature
  | AbstractAccountNoAuth
  /-- An error of the authenticators. -/
  | AbstractXion (text : String)
  /-- An `unwrap` of the source that fails. -/
  | Panicked (text : String)
deriving DecidableEq

/-! ## Environment -/

/-- The chain around one call of the account, and around the call of the module
    factory that follows from it. -/
structure Env where
  /-- The account's own address. -/
  address : Addr
  blockHeight : Nat
  querier : Querier
  registry : RegistryState
  /-- The module factory. -/
  factory : Addr
  /-- `instantiate2_address` of a code checksum, a creator and a salt. -/
  instantiate2Address : Bytes → Addr → Bytes → Except String Addr
  sha256 : Bytes → Bytes
  /-- The value that JSON bytes stand for. -/
  fromJson : Binary → Except StdError Binary
  /-- Whether the account is built with the `xion` feature. -/
  xion : Bool

def ABSTRACT_SALT : Bytes := strBytes "abstract"

def Env.generateInstantiateSalt (env : Env) (accountId : AccountId) : Bytes :=
  env.sha256 (strBytes accountId.toStr) ++ ABSTRACT_SALT

/-! ## Registry queries -/

namespace Env

variable (env : Env)

def queryModulesConfigs (infos : List ModuleInfo) :
    Except RegistryQueryError (List (Module × ModuleConfiguration)) :=
  (env.registry.handleModulesQuery infos).mapError
    (RegistryQueryError.QueryFailed "query_modules_configs")

/-- `RegistryContract::query_module`. -/
def queryRegistryModule (info : ModuleInfo) :
    Except RegistryQueryError (Module × ModuleConfiguration) :=
  (env.registry.queryModule info).mapError (RegistryQueryError.QueryFailed "query_modules_configs")

def queryModuleReferenceRaw (info : ModuleInfo) : Except RegistryQueryError ModuleReference :=
  okOr (env.registry.registeredModules.lookup info.key) (.ModuleNotFound info)

/-- The address of the registry, which follows from the code of the account. -/
def registryAddress : Option Addr :=
  (env.querier.contract env.address).bind fun contract => env.querier.registryAddress contract.codeId

def queryModuleVersion (moduleAddr : Addr) : Except AccountError ContractVersion :=
  match env.querier.queryContractVersion moduleAddr with
  | .ok info =>
    if (ModuleInfo.tryFrom info).toOption.isSome then .ok info else fromRegistry
  | .error _ => fromRegistry
where
  /-- The version of a standalone or service contract without an entry in the
      expected format. -/
  fromRegistry : Except AccountError ContractVersion :=
    match env.registry.serviceInfos.lookup moduleAddr with
    | some info => contractVersion info
    | none => do
      let contract ← (env.querier.queryWasmContractInfo moduleAddr).mapError AccountError.Std
      let info ← okOr (env.registry.standaloneInfos.lookup contract.codeId)
        (.Std (.msg ("Standalone " ++ toString contract.codeId ++
          " not found in version registry " ++ (env.registryAddress.map (·.asStr)).getD "" ++ ".")))
      contractVersion info
  contractVersion (info : ModuleInfo) : Except AccountError ContractVersion :=
    match info.version with
    | .Latest => .error (.Std (.msg "version for module in missing"))
    | .Version version => .ok { contract := info.moduleId, version }

end Env

end AbstractFramework.Account
