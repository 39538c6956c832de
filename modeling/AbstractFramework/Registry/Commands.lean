import AbstractFramework.Lib.Machine
import AbstractFramework.Ownership.GovOwnable
import AbstractFramework.Registry.State

/-! # Registry messages

The entry points of the registry contract.  A command takes the storage to the
storage after it and the bank messages it sends; when it fails, the transaction
is rolled back, which is `Machine.step`.
-/

namespace AbstractFramework.Registry

open AbstractFramework Fallible Storage Machine

section Messages

variable [Crates]

/-- What a command returns: the storage after it and the messages it sends. -/
abbrev VCResult := Except RegistryError (RegistryState × List BankMsg)

inductive UpdateModule where
  | Default (metadata : ModuleMetadata)
  | Versioned (version : String) (metadata : Option ModuleMetadata)
      (monetization : Option Monetization) (instantiationFunds : Option (List Coin))

/-- `cw_clearable::Clearable`. -/
inductive Clearable (α : Type) where
  | Clear
  | Set (value : α)

def Clearable.toOption {α : Type} : Clearable α → Option α
  | .Clear => none
  | .Set value => some value

inductive ExecuteMsg where
  | ProposeModules (modules : List (ModuleInfo × ModuleReference))
  | ApproveOrRejectModules (approves rejects : List ModuleInfo)
  | RemoveModule (info : ModuleInfo)
  | YankModule (info : ModuleInfo)
  | UpdateModuleConfiguration (moduleName : String) (ns : Namespace) (updateModule : UpdateModule)
  | ClaimNamespace (accountId : AccountId) (ns : String)
  | ForgoNamespace (namespaces : List String)
  | AddAccount (ns : Option String) (creator : String)
  | UpdateConfig (securityEnabled : Option Bool)
      (namespaceRegistrationFee : Option (Clearable Coin))
  | UpdateOwnership (action : Crates.CwAction)

/-! ## Authorisation -/

/-- `cw_ownable::assert_owner`. -/
def assertAdmin (s : RegistryState) (sender : Addr) : Except RegistryError Unit :=
  match Crates.cwOwner s.ownership with
  | none => .error (.Ownership "Contract ownership has been renounced")
  | some owner =>
    ensure (sender = owner) (.Ownership "Caller is not the contract's current owner")

def queryAccountOwner (q : Querier) (accountAddr : Addr) (accountId : AccountId) :
    Except RegistryError Addr := do
  let ownership ← (q.queryOwnership accountAddr).mapError RegistryError.Std
  okOr (ownership.owner.ownerAddress q) (.NoAccountOwner accountId)

def loadAccount (s : RegistryState) (accountId : AccountId) : Except RegistryError Addr :=
  okOr (s.accountAddresses.lookup accountId.storageKey) (.Std (.notFound "Account"))

/-- The sender is the account that holds the namespace, or its owner. -/
def validateAccountOwner (q : Querier) (s : RegistryState) (ns : Namespace) (sender : Addr) :
    Except RegistryError Unit := do
  let accountId ← okOr (s.namespaces.lookup ns) (.UnknownNamespace ns)
  let account ← loadAccount s accountId
  -- the account itself needs no look at its owner
  if sender = account then return ()
  else
    let accountOwner ← queryAccountOwner q account accountId
    ensure (sender = accountOwner) (.AccountOwnerMismatch sender accountOwner)

/-- Only the admin publishes in the abstract namespace, elsewhere its holder. -/
def validatePublisher (q : Querier) (s : RegistryState) (ns : Namespace) (sender : Addr) :
    Except RegistryError Unit :=
  if ns = ⟨ABSTRACT_NAMESPACE⟩ then assertAdmin s sender
  else validateAccountOwner q s ns sender

/-! ## Namespaces -/

/-- The paid registration fee goes to the admin's account. -/
def registrationFee (fee : Option Coin) (info : MessageInfo) (s : RegistryState) :
    Except RegistryError (List BankMsg) :=
  match fee with
  | some fee => do
    let _ ← (assertPayment fee info).mapError RegistryError.Abstract
    let adminAccount ← loadAccount s ABSTRACT_ACCOUNT_ID
    return [{ toAddress := adminAccount, amount := info.funds }]
  | none => return []

def claimNamespaceInternal (fee : Option Coin) (info : MessageInfo) (accountId : AccountId)
    (namespaceToClaim : String) (s : RegistryState) : VCResult := do
  -- an account has at most one namespace
  ensure (accountId.storageKey ∉ s.revNamespaces) (.ExceedsNamespaceLimit 1 1)
  let feeMsg ← registrationFee fee info s
  let ns ← (Namespace.new namespaceToClaim).mapError RegistryError.Abstract
  match s.namespaces.lookup ns with
  | some id => .error (.NamespaceOccupied ns.asStr id)
  | none => return (s.claim ns accountId, feeMsg)

/-- With security only the admin claims namespaces, without it the owner of the
    account. -/
def assertClaimant (q : Querier) (sender : Addr) (accountId : AccountId) (s : RegistryState) :
    Except RegistryError Unit :=
  if s.config.securityEnabled then assertAdmin s sender
  else do
    let account ← loadAccount s accountId
    let accountOwner ← queryAccountOwner q account accountId
    ensure (sender = accountOwner) (.AccountOwnerMismatch sender accountOwner)

def claimNamespace (deps : Deps) (info : MessageInfo) (accountId : AccountId)
    (namespaceToClaim : String) (s : RegistryState) : VCResult := do
  -- the trace of the id is taken as it comes, nothing verifies it
  assertClaimant deps.querier info.sender accountId s
  claimNamespaceInternal s.config.namespaceRegistrationFee info accountId namespaceToClaim s

/-- Yank every registered module of the namespace. -/
def yankNamespace (ns : Namespace) (s : RegistryState) : RegistryState :=
  (s.registeredModules.entries.filter fun e => e.1.ns = ns).foldl
    (fun s e => s.yank e.1 e.2) s

/-- The admin forgoes any namespace, others only one they hold. -/
def assertForgoer (q : Querier) (isAdmin : Bool) (s : RegistryState) (ns : Namespace)
    (sender : Addr) : Except RegistryError Unit :=
  if isAdmin then .ok () else validateAccountOwner q s ns sender

/-- One namespace of `forgo_namespace`. -/
def forgoOne (deps : Deps) (isAdmin : Bool) (sender : Addr) (s : RegistryState) (name : String) :
    Except RegistryError RegistryState := do
  let ns ← (Namespace.new name).mapError RegistryError.Abstract
  ensure (ns ∈ s.namespaces) (.UnknownNamespace ns)
  assertForgoer deps.querier isAdmin s ns sender
  -- the pending modules of the namespace stay pending
  let s := yankNamespace ns s
  let owner ← okOr (s.namespaces.lookup ns) (.Std (.notFound "AccountId"))
  return s.unclaim ns owner

/-- Give up namespaces, yanking the modules in them. -/
def forgoNamespace (deps : Deps) (info : MessageInfo) (namespaces : List String)
    (s : RegistryState) : VCResult := do
  -- whether the sender is the admin is read once, before the loop
  let isAdmin := Crates.cwOwner s.ownership == some info.sender
  let s ← namespaces.foldlM (forgoOne deps isAdmin info.sender) s
  return (s, [])

/-! ## Accounts -/

/-- Sequences from here on are chosen by the account's creator. -/
def PREDICTABLE_SEQUENCE : AccountSequence := 2147483648

/-- The next sequence after a local account was registered. -/
def nextLocalSequence (s : RegistryState) (accountId : AccountId) :
    Except RegistryError AccountSequence :=
  if accountId.seq < PREDICTABLE_SEQUENCE then do
    ensure (s.localAccountSequence = accountId.seq)
      (.InvalidAccountSequence s.localAccountSequence accountId.seq)
    -- below 2^31, the checked addition does not overflow
    return s.localAccountSequence + 1
  else return s.localAccountSequence

/-- A remote account is created by the ibc host that is registered under the
    version the creator reports. -/
def assertIbcHost (deps : Deps) (creator : String) (s : RegistryState) :
    Except RegistryError Unit := do
  let creatorAddr ← (deps.addrValidate creator).mapError RegistryError.Std
  let cw2 ← (deps.querier.queryContractVersion creatorAddr).mapError RegistryError.Std
  let host ← (ModuleInfo.fromId IBC_HOST (.Version cw2.version)).mapError RegistryError.Abstract
  let reference ← okOr (s.registeredModules.lookup host.key) (.Std (.notFound "ModuleReference"))
  let ibcHostAddr ← reference.unwrapNative.mapError RegistryError.Abstract
  ensure (creatorAddr = ibcHostAddr) (.SenderNotIbcHost creatorAddr.asStr ibcHostAddr.asStr)

/-- The sender is an account contract of the code that its version is
    registered with. -/
def assertAccountContract (deps : Deps) (sender : Addr) (s : RegistryState) :
    Except RegistryError AccountId := do
  let cw2 ← (deps.querier.queryContractVersion sender).mapError RegistryError.Std
  let accInfo ← (ModuleInfo.tryFrom cw2).mapError RegistryError.Abstract
  ensure (accInfo.moduleId = ACCOUNT) (.NotAccountInfo accInfo)
  -- the id is what the sender says of itself
  let accountId ← (deps.querier.queryAccountId sender).mapError RegistryError.Std
  ensure (accountId.storageKey ∉ s.accountAddresses) (.AccountAlreadyExists accountId)
  let contract ← (deps.querier.queryWasmContractInfo sender).mapError RegistryError.Std
  let reference ← okOr (s.registeredModules.lookup accInfo.key)
    (.Std (.notFound "ModuleReference"))
  let accountCodeId ← reference.unwrapAccount.mapError RegistryError.Abstract
  ensure (accountCodeId = contract.codeId)
    (.NotAccountCodeId accInfo accountCodeId contract.codeId)
  return accountId

/-- The checks on the kind of id, and the local sequence after them. -/
def admitAccount (deps : Deps) (creator : String) (s : RegistryState) (accountId : AccountId) :
    Except RegistryError AccountSequence :=
  if accountId.isLocal then nextLocalSequence s accountId
  else do
    assertIbcHost deps creator s
    accountId.trace.verifyRemote.mapError RegistryError.Abstract
    return s.localAccountSequence

/-- Add a new account.  Only the account can add itself. -/
def addAccount (deps : Deps) (info : MessageInfo) (ns : Option String) (creator : String)
    (s : RegistryState) : VCResult := do
  let accountId ← assertAccountContract deps info.sender s
  let sequence ← admitAccount deps creator s accountId
  let s := { s with
    localAccountSequence := sequence
    accountAddresses := s.accountAddresses.insert accountId.storageKey info.sender }
  match ns with
  | some ns => claimNamespaceInternal s.config.namespaceRegistrationFee info accountId ns s
  | none => return (s, [])

/-! ## Modules -/

/-- The admin of an adapter contract must be none. -/
def assertAdapterAdmin (q : Querier) : ModuleReference → Except RegistryError Unit
  | .Adapter addr => do
    let contract ← (q.queryWasmContractInfo addr).mapError RegistryError.Std
    ensure (contract.admin = none) RegistryError.AdminMustBeNone
  | _ => .ok ()

/-- What `propose_modules` checks of one module before it stores it. -/
def assertProposable (deps : Deps) (sender : Addr) (securityEnabled : Bool) (s : RegistryState)
    (info : ModuleInfo) (reference : ModuleReference) : Except RegistryError Unit := do
  -- without security a version may be proposed again
  ensure (¬ (securityEnabled = true ∧ s.hasModule info.key)) (.NotUpdateableModule info)
  info.validate.mapError RegistryError.Abstract
  (reference.validate deps).mapError RegistryError.Abstract
  info.assertVersionVariant.mapError RegistryError.Abstract
  validatePublisher deps.querier s info.ns sender
  assertAdapterAdmin deps.querier reference

/-- One module of `propose_modules`. -/
def proposeOne (deps : Deps) (sender : Addr) (securityEnabled : Bool) (s : RegistryState)
    (entry : ModuleInfo × ModuleReference) : Except RegistryError RegistryState := do
  let (info, reference) := entry
  assertProposable deps sender securityEnabled s info reference
  if securityEnabled then
    return { s with pendingModules := s.pendingModules.insert info.key reference }
  else
    -- with security the data of a contract is not looked at, here or on approval
    (assertModuleDataValidity deps.querier { info, reference } none).mapError RegistryError.Abstract
    return s.register info reference

/-- Propose modules for approval; without security they are registered at once. -/
def proposeModules (deps : Deps) (info : MessageInfo)
    (modules : List (ModuleInfo × ModuleReference)) (s : RegistryState) : VCResult := do
  let s ← modules.foldlM (proposeOne deps info.sender s.config.securityEnabled) s
  return (s, [])

/-- One module of `approve_modules`. -/
def approveOne (s : RegistryState) (info : ModuleInfo) : Except RegistryError RegistryState := do
  let reference ← okOr (s.pendingModules.lookup info.key) (.ModuleNotFound info)
  return s.approve info reference

/-- One module of `reject_modules`. -/
def rejectOne (s : RegistryState) (info : ModuleInfo) : Except RegistryError RegistryState := do
  ensure (info.key ∈ s.pendingModules) (.ModuleNotFound info)
  return { s with pendingModules := s.pendingModules.erase info.key }

def approveModules (approves : List ModuleInfo) (s : RegistryState) :
    Except RegistryError RegistryState :=
  approves.foldlM approveOne s

def rejectModules (rejects : List ModuleInfo) (s : RegistryState) :
    Except RegistryError RegistryState :=
  rejects.foldlM rejectOne s

/-- Only the admin approves or rejects a module. -/
def approveOrRejectModules (info : MessageInfo) (approves rejects : List ModuleInfo)
    (s : RegistryState) : VCResult := do
  assertAdmin s info.sender
  let s ← approveModules approves s
  let s ← rejectModules rejects s
  -- both loops over an empty list succeed
  ensure (approves ≠ [] ∨ rejects ≠ []) .NoAction
  return (s, [])

/-- Remove a registered or yanked version. -/
def removeModule (info : MessageInfo) (module : ModuleInfo) (s : RegistryState) : VCResult := do
  assertAdmin s info.sender
  module.assertVersionVariant.mapError RegistryError.Abstract
  let key := module.key
  -- a pending version is neither found nor removed
  let moduleRef := s.registeredModules.lookup key
  ensure (moduleRef.isSome ∨ key ∈ s.yankedModules) (.ModuleNotFound module)
  let s := { s with
    registeredModules := s.registeredModules.erase key
    yankedModules := s.yankedModules.erase key
    moduleConfig := s.moduleConfig.erase key
    standaloneInfos := RegistryState.removeStandalone s.standaloneInfos moduleRef }
  -- the default configuration goes with the last version
  if s.noVersions module.ns module.name then
    return ({ s with
      moduleDefaultConfig := s.moduleDefaultConfig.erase (module.ns, module.name) }, [])
  else return (s, [])

/-- Yank a version, preventing it from being used. -/
def yankModule (deps : Deps) (info : MessageInfo) (module : ModuleInfo) (s : RegistryState) :
    VCResult := do
  validateAccountOwner deps.querier s module.ns info.sender
  module.assertVersionVariant.mapError RegistryError.Abstract
  let reference ← okOr (s.registeredModules.lookup module.key) (.ModuleNotFound module)
  return (s.yank module.key reference, [])

/-! ## Configuration -/

/-- Only apps and standalone modules are instantiated with funds. -/
def takesFunds : ModuleReference → Bool
  | .App _ | .Standalone _ => true
  | _ => false

def updateVersionedConfig (reference : ModuleReference) (metadata : Option ModuleMetadata)
    (monetization : Option Monetization) (instantiationFunds : Option (List Coin))
    (config : ModuleConfiguration) : Except RegistryError ModuleConfiguration := do
  let config := { config with
    metadata := metadata.or config.metadata
    monetization := monetization.getD config.monetization }
  match instantiationFunds with
  | some funds => do
    ensure (takesFunds reference = true) RegistryError.RedundantInitFunds
    return { config with instantiationFunds := funds }
  | none => return config

def updateModuleConfig (deps : Deps) (info : MessageInfo) (moduleName : String) (ns : Namespace)
    (update : UpdateModule) (s : RegistryState) : VCResult := do
  validatePublisher deps.querier s ns info.sender
  match update with
  | .Default metadata => do
    ensure (s.noVersions ns moduleName = false)
      (.ModuleNotFound { ns, name := moduleName, version := .Latest })
    (validateLink metadata).mapError RegistryError.Validation
    return ({ s with
      moduleDefaultConfig := s.moduleDefaultConfig.insert (ns, moduleName) { metadata } }, [])
  | .Versioned version metadata monetization instantiationFunds => do
    let module : ModuleInfo := { ns, name := moduleName, version := .Version version }
    let reference ← okOr (s.registeredModules.lookup module.key) (.ModuleNotFound module)
    let config ← updateVersionedConfig reference metadata monetization instantiationFunds
      ((s.moduleConfig.lookup module.key).getD .default)
    return ({ s with moduleConfig := s.moduleConfig.insert module.key config }, [])

def updateConfig (info : MessageInfo) (securityEnabled : Option Bool)
    (namespaceRegistrationFee : Option (Clearable Coin)) (s : RegistryState) : VCResult := do
  assertAdmin s info.sender
  let config := { s.config with
    securityEnabled := securityEnabled.getD s.config.securityEnabled
    namespaceRegistrationFee := match namespaceRegistrationFee with
      | some fee => fee.toOption
      | none => s.config.namespaceRegistrationFee }
  return ({ s with config }, [])

def updateOwnership (block : BlockInfo) (info : MessageInfo) (action : Crates.CwAction)
    (s : RegistryState) : VCResult := do
  let ownership ← (Crates.updateCwOwnership s.ownership block info.sender action).mapError
    RegistryError.Ownership
  return ({ s with ownership }, [])

/-! ## Entry points -/

structure InstantiateMsg where
  admin : String
  securityEnabled : Option Bool
  namespaceRegistrationFee : Option Coin

/-- The storage of a new registry: the abstract namespace belongs to the account
    of the admin. -/
def instantiate (deps : Deps) (msg : InstantiateMsg) : Except RegistryError RegistryState := do
  let admin ← (deps.addrValidate msg.admin).mapError RegistryError.Std
  let ns ← (Namespace.new ABSTRACT_NAMESPACE).mapError RegistryError.Abstract
  return {
    config :=
      { securityEnabled := msg.securityEnabled.getD true
        namespaceRegistrationFee := msg.namespaceRegistrationFee }
    ownership := Crates.initializeCwOwner admin
    pendingModules := ∅
    registeredModules := ∅
    yankedModules := ∅
    standaloneInfos := ∅
    serviceInfos := ∅
    moduleConfig := ∅
    moduleDefaultConfig := ∅
    accountAddresses := ∅
    localAccountSequence := 0
    namespaces := (∅ : Map Namespace AccountId).insert ns ABSTRACT_ACCOUNT_ID
    revNamespaces := (∅ : Map AccountKey Namespace).insert ABSTRACT_ACCOUNT_ID.storageKey ns }

/-- A message with its sender, block and view of the chain. -/
structure Input where
  deps : Deps
  block : BlockInfo
  info : MessageInfo
  msg : ExecuteMsg

def execute (i : Input) (s : RegistryState) : VCResult :=
  match i.msg with
  | .ProposeModules modules => proposeModules i.deps i.info modules s
  | .ApproveOrRejectModules approves rejects => approveOrRejectModules i.info approves rejects s
  | .RemoveModule module => removeModule i.info module s
  | .YankModule module => yankModule i.deps i.info module s
  | .UpdateModuleConfiguration moduleName ns update =>
    updateModuleConfig i.deps i.info moduleName ns update s
  | .ClaimNamespace accountId ns => claimNamespace i.deps i.info accountId ns s
  | .ForgoNamespace namespaces => forgoNamespace i.deps i.info namespaces s
  | .AddAccount ns creator => addAccount i.deps i.info ns creator s
  | .UpdateConfig securityEnabled fee => updateConfig i.info securityEnabled fee s
  | .UpdateOwnership action => updateOwnership i.block i.info action s

end Messages

/-! ## A small deployment

The chain on which closed statements about the registry are evaluated: the
account `acc` of the monarch `mon`, and the registry's admin `adm`. -/

section Sample

attribute [local instance] releaseCrates

def accountVersion : ModuleInfo :=
  { ns := ⟨"abstract"⟩, name := "account", version := .Version "1.0.0" }

/-- The first id that an account's creator may choose. -/
def sampleAccountId : AccountId := .ofLocal PREDICTABLE_SEQUENCE

def sampleDeps : Deps where
  addrValidate s := .ok ⟨s⟩
  querier :=
    { contract := fun addr =>
        if addr = ⟨"acc"⟩ then
          some { Contract.account sampleAccountId (.Monarchy ⟨"mon"⟩) with
            cw2 := some { contract := ACCOUNT, version := "1.0.0" } }
        else none
      codeInfo := fun _ => none
      registryAddress := fun _ => none }

def sampleInput (sender : String) (msg : ExecuteMsg) : Input :=
  { deps := sampleDeps, block := { height := 1, time := 1 },
    info := { sender := ⟨sender⟩, funds := [] }, msg }

def sampleInstantiate (secure : Bool) : InstantiateMsg :=
  { admin := "adm", securityEnabled := some secure, namespaceRegistrationFee := none }

/-- The storage of a new registry of the admin `adm`. -/
def sampleStart (secure : Bool) : RegistryState where
  config := { securityEnabled := secure, namespaceRegistrationFee := none }
  ownership := some ⟨"adm"⟩
  pendingModules := ∅
  registeredModules := ∅
  yankedModules := ∅
  standaloneInfos := ∅
  serviceInfos := ∅
  moduleConfig := ∅
  moduleDefaultConfig := ∅
  accountAddresses := ∅
  localAccountSequence := 0
  namespaces := (∅ : Map Namespace AccountId).insert ⟨"abstract"⟩ ABSTRACT_ACCOUNT_ID
  revNamespaces := (∅ : Map AccountKey Namespace).insert ABSTRACT_ACCOUNT_ID.storageKey ⟨"abstract"⟩

theorem instantiate_sample (secure : Bool) :
    instantiate sampleDeps (sampleInstantiate secure) = .ok (sampleStart secure) :=
  rfl

end Sample

end AbstractFramework.Registry
