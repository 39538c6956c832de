import AbstractFramework.Account.Modules
import AbstractFramework.ModuleFactory.Commands

/-! # The addresses of created modules

The account stores the addresses of the modules it installs before they exist,
and the module factory creates them afterwards from a list of its own.
`planModules_paired` says what the account plans for each module of a batch and
`createModules_instantiates` what the factory sends for each plan.  Both derive
an address from the same checksum, creator and salt.
-/

namespace AbstractFramework.ModuleFactory

open AbstractFramework Fallible Storage Account

section Agreement

variable [Crates]

/-! ## What is created -/

/-- Whether the module is a contract that the factory creates. -/
def isCreated (m : Module) : Bool :=
  match m.reference with
  | .App _ | .Standalone _ => true
  | _ => false

def isInstantiation : FactoryMsg → Bool
  | .Instantiate2 .. => true
  | .Send _ => false

def createdCode (m : Module) : Option Nat :=
  match m.reference with
  | .App codeId | .Standalone codeId => some codeId
  | _ => none

/-- The address the chain gives to a contract that the factory creates. -/
def derivedAddress (env : Env) (codeId : Nat) (salt : Bytes) : Option Addr :=
  (env.querier.codeInfo codeId).bind fun code =>
    (env.instantiate2Address code.checksum env.factory salt).toOption

/-- The message a module is instantiated with carries what the owner gave for it. -/
def Carries (env : Env) (account : Addr) (m : Module) (given : Binary) : InitMsg → Prop
  | .App base value =>
    (∃ codeId, m.reference = .App codeId) ∧ base = account ∧ env.fromJson given = .ok value
  | .Standalone msg => (∃ codeId, m.reference = .Standalone codeId) ∧ msg = given

/-- The factory's message for a plan of the account: it creates the contract of the
    planned code at the planned address, with the planned message. -/
def Instantiates (env : Env) (account : Addr) (salt : Bytes) (plan : InstallPlan) :
    FactoryMsg → Prop
  | .Instantiate2 admin codeId _ msg _ salt' =>
    admin = account ∧ salt' = salt ∧ createdCode plan.module = some codeId ∧
      derivedAddress env codeId salt' = some plan.addr ∧
      ∃ given, plan.initMsg = some given ∧ Carries env account plan.module given msg
  | .Send _ => False

/-- What the account plans for a module of the batch. -/
structure Planned (env : Env) (salt : Bytes) (config : ModuleInstallConfig) (plan : InstallPlan) :
    Prop where
  resolved : ∃ moduleConfig, env.registry.queryModule config.info = .ok (plan.module, moduleConfig)
  registered : ∀ addr, plan.module.reference.unwrapAddr = .ok addr → plan.addr = addr
  created : plan.created = if isCreated plan.module then some plan.addr else none
  initMsg : plan.initMsg = if isCreated plan.module then config.initMsg else none
  address : ∀ codeId ∈ createdCode plan.module,
    derivedAddress env codeId salt = some plan.addr ∧ config.initMsg.isSome

/-- The chain on which the account and the factory are called: the registry, the
    codes and the derivation of addresses are the same. -/
structure SameDeployment (env env' : Env) : Prop where
  registry : env'.registry = env.registry
  codeInfo : env'.querier.codeInfo = env.querier.codeInfo
  instantiate2Address : env'.instantiate2Address = env.instantiate2Address
  factory : env'.factory = env.factory

theorem SameDeployment.derivedAddress {env env' : Env} (same : SameDeployment env env')
    (codeId : Nat) (salt : Bytes) :
    ModuleFactory.derivedAddress env' codeId salt = ModuleFactory.derivedAddress env codeId salt := by
  rw [ModuleFactory.derivedAddress, same.codeInfo, same.instantiate2Address, same.factory]
  rfl

/-! ## The account's plans -/

section Account

variable {env : Env} {s s' : AccountState}

theorem newModuleAddress_eq_ok {codeId : Nat} {addr : Addr}
    (h : newModuleAddress env s codeId = .ok addr) :
    derivedAddress env codeId (env.generateInstantiateSalt s.accountId) = some addr := by
  simp only [newModuleAddress, bind_eq_ok, okOr_eq_ok, mapError_eq_ok, pure_eq_ok] at h
  obtain ⟨code, found, _, derived, _, _, rfl⟩ := h
  simp [derivedAddress, found, derived, Except.toOption]

theorem planInstall_planned {config : ModuleInstallConfig} {m : Module}
    {moduleConfig : ModuleConfiguration} {plan : InstallPlan}
    (found : env.registry.queryModule config.info = .ok (m, moduleConfig))
    (h : planInstall env s m config.initMsg = .ok plan) :
    Planned env (env.generateInstantiateSalt s.accountId) config plan := by
  simp only [planInstall, bind_eq_ok] at h
  obtain ⟨_, _, planned⟩ := h
  cases reference : m.reference with
  | Account codeId => simp [reference] at planned
  | Native addr | Adapter addr | Service addr =>
    simp only [reference, pure_eq_ok] at planned
    subst planned
    exact ⟨⟨moduleConfig, found⟩, by simp [ModuleReference.unwrapAddr, reference],
      by simp [isCreated, reference], by simp [isCreated, reference],
      by simp [createdCode, reference]⟩
  | App codeId | Standalone codeId =>
    simp only [reference, bind_eq_ok, okOr_eq_ok, pure_eq_ok] at planned
    obtain ⟨addr, derived, given, isGiven, rfl⟩ := planned
    refine ⟨⟨moduleConfig, found⟩, by simp [ModuleReference.unwrapAddr, reference],
      by simp [isCreated, reference], by simp [isCreated, reference, isGiven], ?_⟩
    intro code isCode
    obtain rfl : codeId = code := by simpa [createdCode, reference] using isCode
    exact ⟨newModuleAddress_eq_ok derived, by simp [isGiven]⟩

/-- The account has one plan for each module of the batch, in its order. -/
theorem planModules_paired {modules : List ModuleInstallConfig} {plans : List InstallPlan}
    (h : planModules env s modules = .ok plans) :
    List.Forall₂ (Planned env (env.generateInstantiateSalt s.accountId)) modules plans := by
  simp only [planModules, Env.queryModulesConfigs, bind_eq_ok, mapError_eq_ok, mapM_eq_ok] at h
  obtain ⟨responses, resolved, planned⟩ := h
  have perModule := List.forall₂_map_left_iff.mp (mapM_eq_ok.mp resolved)
  clear resolved
  induction perModule generalizing plans with
  | nil =>
    cases planned
    exact .nil
  | cons found _ ih =>
    cases planned with
    | cons first rest => exact .cons (planInstall_planned found first) (ih rest)

omit [Crates] in
theorem addToWhitelist_all {whitelist added : List Addr} {toAdd : List Addr}
    (h : toAdd.foldlM addToWhitelist whitelist = .ok added) : added = whitelist ++ toAdd := by
  induction toAdd generalizing whitelist with
  | nil =>
    simp only [List.foldlM_nil, pure_eq_ok] at h
    simp [h]
  | cons addr rest ih =>
    obtain ⟨next, first, later⟩ := foldlM_cons_eq_ok.mp h
    simp only [addToWhitelist, bind_eq_ok, pure_eq_ok] at first
    obtain ⟨_, _, rfl⟩ := first
    simp [ih later]

/-- What an accepted batch stores and sends. -/
theorem installModulesInternal_eq_ok {modules : List ModuleInstallConfig} {funds : List Coin}
    {msg : CosmosMsg} (h : installModulesInternal env modules funds s = .ok (s', msg)) :
    ∃ plans, List.Forall₂ (Planned env (env.generateInstantiateSalt s.accountId)) modules plans ∧
      s'.accountModules =
        insertAll s.accountModules (plans.map fun p => (p.module.info.moduleId, p.addr)) ∧
      s'.installModulesContext = plans.map (fun p => (p.module, p.created)) ∧
      s'.whitelistedModules = s.whitelistedModules ++
        (plans.filter (·.module.shouldBeWhitelisted)).map (·.addr) ∧
      msg = .InstallModules env.factory
        (plans.map fun p => { info := p.module.info, initMsg := p.initMsg })
        (env.generateInstantiateSalt s.accountId) funds := by
  simp only [installModulesInternal, bind_eq_ok, pure_eq_ok, Prod.mk.injEq] at h
  obtain ⟨plans, planned, s₁, whitelisted, s₂, stored, rfl, rfl⟩ := h
  obtain rfl := updateModuleAddresses_eq_ok stored
  obtain ⟨added, updates⟩ := updateWhitelistedModules_iff_updates.mp whitelisted
  obtain rfl := updates.written
  exact ⟨plans, planModules_paired planned, rfl, rfl, by simp [addToWhitelist_all updates.appended],
    rfl⟩

end Account

/-! ## The factory's messages -/

section Factory

variable {env : Env} {account : Addr} {salt : Bytes}

/-- A query answers with a registered version and its configuration. -/
theorem queryModule_registered {s : RegistryState} {info : ModuleInfo} {m : Module}
    {config : ModuleConfiguration} (h : s.queryModule info = .ok (m, config)) :
    (∃ text, m.info.version = .Version text) ∧
      s.registeredModules.lookup m.info.key = some m.reference ∧
      config = s.configFromStorage m.info := by
  cases version : info.version with
  | Version text =>
    simp only [RegistryState.queryModule, version, bind_eq_ok, okOr_eq_ok, pure_eq_ok,
      Prod.mk.injEq] at h
    obtain ⟨reference, registered, rfl, rfl⟩ := h
    exact ⟨⟨text, version⟩, registered, rfl⟩
  | Latest =>
    simp only [RegistryState.queryModule, version, bind_eq_ok, okOr_eq_ok, pure_eq_ok,
      Prod.mk.injEq] at h
    obtain ⟨⟨text, reference⟩, latest, rfl, rfl⟩ := h
    -- the latest version is one of the registered ones
    have listed : (text, reference) ∈ s.versionsOf info.ns info.name :=
      (List.mem_insertionSort _).mp (List.mem_of_find?_eq_some latest)
    simp only [RegistryState.versionsOf, List.mem_map, List.mem_filter, decide_eq_true_eq] at listed
    obtain ⟨⟨⟨ns, name, _⟩, _⟩, ⟨entry, rfl, rfl⟩, same⟩ := listed
    obtain ⟨rfl, rfl⟩ := Prod.mk.inj same
    exact ⟨⟨_, rfl⟩, AList.mem_lookup_iff.mpr entry, rfl⟩

/-- A resolved version resolves to itself. -/
theorem queryModule_resolved {s : RegistryState} {info : ModuleInfo} {m : Module}
    {config : ModuleConfiguration} (h : s.queryModule info = .ok (m, config)) :
    s.queryModule m.info = .ok (m, config) := by
  obtain ⟨⟨text, version⟩, registered, rfl⟩ := queryModule_registered h
  simp only [RegistryState.queryModule, version, registered]
  rfl

theorem instantiate2Contract_eq_ok {codeId : Nat} {initMsg : InitMsg} {admin : Addr}
    {funds : List Coin} {info : ModuleInfo} {msg : FactoryMsg}
    (h : instantiate2Contract env codeId initMsg salt admin funds info = .ok msg) :
    ∃ label, msg = .Instantiate2 admin codeId label initMsg funds salt := by
  simp only [instantiate2Contract, bind_eq_ok, pure_eq_ok] at h
  obtain ⟨_, _, _, _, rfl⟩ := h
  exact ⟨_, rfl⟩

/-- The plan and the factory's entry for the same module. -/
def Matches (env : Env) (salt : Bytes) (plan : InstallPlan)
    (entry : (Module × ModuleConfiguration) × Option Binary) : Prop :=
  entry.1.1 = plan.module ∧ entry.2 = plan.initMsg ∧
    ∀ codeId ∈ createdCode plan.module, derivedAddress env codeId salt = some plan.addr

/-- The factory sends one instantiation for a module it creates, none for others. -/
theorem addModule_eq_ok {c c' : Creation} {plan : InstallPlan} {funds : List Coin}
    (address : ∀ codeId ∈ createdCode plan.module, derivedAddress env codeId salt = some plan.addr)
    (h : addModule env account salt c plan.module funds plan.initMsg = .ok c') :
    c'.feeMsgs = c.feeMsgs ∧ ∃ insts,
      c'.moduleInstantiateMessages = c.moduleInstantiateMessages ++ insts ∧
      List.Forall₂ (Instantiates env account salt) ([plan].filter (isCreated ·.module)) insts := by
  unfold addModule at h
  cases reference : plan.module.reference with
  | Account codeId => simp [reference] at h
  | Adapter addr | Service addr =>
    simp only [reference, Except.ok.injEq] at h
    exact ⟨by rw [h], [], by simp [h], by simp [isCreated, reference]⟩
  | Native addr =>
    simp only [reference, bind_eq_ok, pure_eq_ok] at h
    obtain ⟨_, _, rfl⟩ := h
    exact ⟨rfl, [], by simp, by simp [isCreated, reference]⟩
  | App codeId =>
    simp only [reference, unwrapInitMsg, bind_eq_ok, okOr_eq_ok, mapError_eq_ok, pure_eq_ok] at h
    obtain ⟨given, isGiven, value, parsed, msg, sent, rfl⟩ := h
    obtain ⟨label, rfl⟩ := instantiate2Contract_eq_ok sent
    refine ⟨rfl, [_], rfl, ?_⟩
    have code : createdCode plan.module = some codeId := by simp [createdCode, reference]
    simp only [isCreated, reference, List.filter_cons_of_pos, List.filter_nil]
    exact .cons ⟨rfl, rfl, code, address codeId code, given, isGiven, ⟨codeId, reference⟩, rfl,
      parsed⟩ .nil
  | Standalone codeId =>
    simp only [reference, unwrapInitMsg, bind_eq_ok, okOr_eq_ok, pure_eq_ok] at h
    obtain ⟨given, isGiven, msg, sent, rfl⟩ := h
    obtain ⟨label, rfl⟩ := instantiate2Contract_eq_ok sent
    refine ⟨rfl, [_], rfl, ?_⟩
    have code : createdCode plan.module = some codeId := by simp [createdCode, reference]
    simp only [isCreated, reference, List.filter_cons_of_pos, List.filter_nil]
    exact .cons ⟨rfl, rfl, code, address codeId code, given, isGiven, ⟨codeId, reference⟩, rfl⟩ .nil

/-- Fees and funds change the sums and the payments, not the instantiations. -/
theorem createModule_eq_ok {c c' : Creation} {plan : InstallPlan}
    {entry : (Module × ModuleConfiguration) × Option Binary} (same : Matches env salt plan entry)
    (h : createModule env account salt c entry = .ok c') :
    ∃ fees insts, c'.feeMsgs = c.feeMsgs ++ fees ∧ (∀ fee ∈ fees, isInstantiation fee = false) ∧
      c'.moduleInstantiateMessages = c.moduleInstantiateMessages ++ insts ∧
      List.Forall₂ (Instantiates env account salt) ([plan].filter (isCreated ·.module)) insts := by
  obtain ⟨⟨m, config⟩, initMsg⟩ := entry
  obtain ⟨rfl, rfl, address⟩ := same
  simp only [createModule, bind_eq_ok] at h
  obtain ⟨c₁, paid, c₂, funded, added⟩ := h
  obtain ⟨fees, feesEq, payments, instsEq⟩ : ∃ fees, c₁.feeMsgs = c.feeMsgs ++ fees ∧
      (∀ fee ∈ fees, isInstantiation fee = false) ∧
      c₁.moduleInstantiateMessages = c.moduleInstantiateMessages := by
    unfold addMonetization at paid
    split at paid
    · obtain rfl := Except.ok.inj paid
      exact ⟨[], by simp, by simp, rfl⟩
    · simp only [bind_eq_ok, pure_eq_ok] at paid
      obtain ⟨_, _, _, _, rfl⟩ := paid
      exact ⟨[_], rfl, by simp [isInstantiation], rfl⟩
  simp only [addInitFunds, bind_eq_ok, pure_eq_ok] at funded
  obtain ⟨_, _, rfl⟩ := funded
  obtain ⟨feesSame, insts, instsAdded, instantiates⟩ := addModule_eq_ok address added
  refine ⟨fees, insts, ?_, payments, ?_, instantiates⟩
  · rw [feesSame]
    exact feesEq
  · rw [instsAdded]
    exact congrArg (· ++ insts) instsEq

/-- The loop of the factory, over plans and the entries that match them. -/
theorem createModules_instantiates {plans : List InstallPlan}
    {entries : List ((Module × ModuleConfiguration) × Option Binary)} {c c' : Creation}
    (same : List.Forall₂ (Matches env salt) plans entries)
    (h : entries.foldlM (createModule env account salt) c = .ok c') :
    ∃ fees insts, c'.feeMsgs = c.feeMsgs ++ fees ∧ (∀ fee ∈ fees, isInstantiation fee = false) ∧
      c'.moduleInstantiateMessages = c.moduleInstantiateMessages ++ insts ∧
      List.Forall₂ (Instantiates env account salt) (plans.filter (isCreated ·.module)) insts := by
  induction same generalizing c with
  | nil =>
    simp only [List.foldlM_nil, pure_eq_ok] at h
    subst h
    exact ⟨[], [], by simp, by simp, by simp, .nil⟩
  | @cons plan entry plans _ first _ ih =>
    obtain ⟨c₁, created, rest⟩ := foldlM_cons_eq_ok.mp h
    obtain ⟨fees, insts, feesEq, payments, instsEq, here⟩ := createModule_eq_ok first created
    obtain ⟨fees', insts', feesEq', payments', instsEq', later⟩ := ih rest
    refine ⟨fees ++ fees', insts ++ insts', by simp [feesEq', feesEq], ?_,
      by simp [instsEq', instsEq], ?_⟩
    · intro fee listed
      exact (List.mem_append.mp listed).elim (payments fee) (payments' fee)
    · rw [← List.singleton_append, List.filter_append]
      exact List.rel_append here later

/-- Every message of the factory is a payment or one of the instantiations. -/
theorem executeCreateModules_eq_ok {info : MessageInfo} {plans : List InstallPlan}
    {base : Option Addr} {msgs : List FactoryMsg}
    (resolved : ∀ plan ∈ plans, ∃ config,
      env.registry.queryModule plan.module.info = .ok (plan.module, config))
    (address : ∀ plan ∈ plans, ∀ codeId ∈ createdCode plan.module,
      derivedAddress env codeId salt = some plan.addr)
    (h : executeCreateModules env info
      (plans.map fun p => { info := p.module.info, initMsg := p.initMsg }) salt = .ok (base, msgs)) :
    List.Forall₂ (Instantiates env info.sender salt) (plans.filter (isCreated ·.module))
      (msgs.filter isInstantiation) := by
  simp only [executeCreateModules, Env.queryModulesConfigs, bind_eq_ok, mapError_eq_ok,
    pure_eq_ok, List.map_map, Prod.mk.injEq] at h
  obtain ⟨account, asserted, responses, found, c, created, _, _, _, rfl⟩ := h
  obtain rfl : account = info.sender := by
    simp only [assertAccount, bind_eq_ok, ensure_eq_ok, pure_eq_ok] at asserted
    obtain ⟨_, _, _, _, _, same, rfl⟩ := asserted
    exact same
  have perPlan := List.forall₂_map_left_iff.mp (mapM_eq_ok.mp found)
  have same : List.Forall₂ (Matches env salt) plans
      (responses.zip (plans.map (·.initMsg))) := by
    clear created found
    induction perPlan with
    | nil => exact .nil
    | @cons plan response plans _ first _ ih =>
      obtain ⟨config, here⟩ := resolved plan List.mem_cons_self
      obtain rfl : (plan.module, config) = response := Except.ok.inj (here.symm.trans first)
      refine .cons ⟨rfl, rfl, address plan List.mem_cons_self⟩ (ih ?_ ?_)
      · exact fun p listed => resolved p (List.mem_cons_of_mem plan listed)
      · exact fun p listed => address p (List.mem_cons_of_mem plan listed)
  obtain ⟨fees, insts, feesEq, payments, instsEq, instantiates⟩ :=
    createModules_instantiates same created
  have allInsts : insts.filter isInstantiation = insts := by
    refine List.filter_eq_self.mpr fun msg listed => ?_
    obtain ⟨_, _, isInst⟩ := forall₂_exists_left instantiates msg listed
    cases msg with
    | Send => exact isInst.elim
    | Instantiate2 => rfl
  have noFees : fees.filter isInstantiation = [] := by
    simpa [List.filter_eq_nil_iff] using payments
  simp only [feesEq, instsEq, List.nil_append, List.filter_append, noFees, allInsts]
  exact instantiates

end Factory

/-! ## Agreement -/

/-- The account stores one address for each module of the batch, in its order, and
    for each app and standalone the factory sends one instantiation, in that order,
    of the same module at that address and with the message given for it. -/
def AddressesAgree (env env' : Env) (s s' : AccountState) (modules : List ModuleInstallConfig)
    (funds : List Coin) (msg : CosmosMsg) : Prop :=
  let salt := env.generateInstantiateSalt s.accountId
  ∃ plans, List.Forall₂ (Planned env salt) modules plans ∧
    s'.accountModules =
      insertAll s.accountModules (plans.map fun p => (p.module.info.moduleId, p.addr)) ∧
    s'.installModulesContext = plans.map (fun p => (p.module, p.created)) ∧
    s'.whitelistedModules = s.whitelistedModules ++
      (plans.filter (·.module.shouldBeWhitelisted)).map (·.addr) ∧
    ∃ configs, msg = .InstallModules env.factory configs salt funds ∧
      ∀ info base msgs, executeCreateModules env' info configs salt = .ok (base, msgs) →
        List.Forall₂ (Instantiates env' info.sender salt) (plans.filter (isCreated ·.module))
          (msgs.filter isInstantiation)

/-- The account and the factory agree on every accepted batch. -/
theorem addresses_agree {env env' : Env} {s s' : AccountState} {msg : CosmosMsg}
    {modules : List ModuleInstallConfig} {funds : List Coin}
    (accepted : installModulesInternal env modules funds s = .ok (s', msg))
    (same : SameDeployment env env') : AddressesAgree env env' s s' modules funds msg := by
  obtain ⟨plans, planned, stored, context, whitelist, rfl⟩ := installModulesInternal_eq_ok accepted
  refine ⟨plans, planned, stored, context, whitelist, _, rfl, ?_⟩
  intro info base msgs created
  refine executeCreateModules_eq_ok ?_ ?_ created
  · intro plan listed
    obtain ⟨_, _, isPlanned⟩ := forall₂_exists_left planned plan listed
    obtain ⟨config, found⟩ := isPlanned.resolved
    rw [same.registry]
    exact ⟨config, queryModule_resolved found⟩
  · intro plan listed codeId isCode
    obtain ⟨_, _, isPlanned⟩ := forall₂_exists_left planned plan listed
    rw [same.derivedAddress]
    exact (isPlanned.address codeId isCode).1

end Agreement

section Sample

attribute [local instance] releaseCrates

def appInfo : ModuleInfo := ⟨⟨"pub"⟩, "app", .Version "1.0.0"⟩
def toolInfo : ModuleInfo := ⟨⟨"pub"⟩, "tool", .Version "1.0.0"⟩
def adapterInfo : ModuleInfo := ⟨⟨"pub"⟩, "adapter", .Version "1.0.0"⟩

/-- The account `account`, and a code for each module it installs. -/
def sampleEnv : Env where
  address := ⟨"account"⟩
  blockHeight := 1
  querier :=
    { contract := fun addr =>
        if addr = ⟨"account"⟩ then some (Contract.account (.ofLocal 1) (.Monarchy ⟨"owner"⟩))
        else none
      codeInfo := fun codeId => some { checksum := [UInt8.ofNat codeId], creator := ⟨"owner"⟩ }
      registryAddress := fun _ => none }
  registry :=
    { config := { securityEnabled := false, namespaceRegistrationFee := none }
      ownership := none
      pendingModules := ∅
      registeredModules := insertAll ∅
        [(appInfo.key, .App 7), (toolInfo.key, .Standalone 8), (adapterInfo.key, .Adapter ⟨"a"⟩)]
      yankedModules := ∅
      standaloneInfos := ∅
      serviceInfos := ∅
      moduleConfig := ∅
      moduleDefaultConfig := ∅
      accountAddresses := insertAll ∅ [((AccountId.ofLocal 1).storageKey, ⟨"account"⟩)]
      localAccountSequence := 2
      namespaces := ∅
      revNamespaces := ∅ }
  factory := ⟨"factory"⟩
  instantiate2Address := fun checksum _ _ => .ok ⟨if checksum = [7] then "app" else "tool"⟩
  sha256 := fun bytes => bytes
  fromJson := fun msg => .ok msg
  xion := false

/-- A new account. -/
def sampleState : AccountState where
  contractVersion := { contract := ACCOUNT, version := "1.0.0" }
  accountId := .ofLocal 1
  ownership := { owner := .Monarchy ⟨"owner"⟩, pendingOwner := none, pendingExpiry := none }
  authAdmin := none
  suspensionStatus := false
  accountModules := ∅
  dependents := ∅
  whitelistedModules := []
  installModulesContext := []
  migrateContext := []
  callingToAsAdmin := none

/-- The adapter in the middle has no message. -/
def sampleBatch : List ModuleInstallConfig :=
  [{ info := appInfo, initMsg := some [1] }, { info := adapterInfo, initMsg := none },
    { info := toolInfo, initMsg := some [2] }]

/-- Whether the factory creates what the account asks it for. -/
def factoryCreates (env : Env) : CosmosMsg → Bool
  | .InstallModules _ configs salt funds =>
    (executeCreateModules env { sender := env.address, funds } configs salt).isOk
  | _ => false

/-- An app, an adapter and a standalone are installed together. -/
theorem addresses_agree_batch :
    ∃ s' msg, installModulesInternal sampleEnv sampleBatch [] sampleState = .ok (s', msg) ∧
      AddressesAgree sampleEnv sampleEnv sampleState s' sampleBatch [] msg ∧
      factoryCreates sampleEnv msg = true := by
  have succeeds : ∃ result ∈ (installModulesInternal sampleEnv sampleBatch [] sampleState).toOption,
      factoryCreates sampleEnv result.2 = true := by decide
  obtain ⟨⟨s', msg⟩, result, creates⟩ := succeeds
  have accepted := toOption_eq_some.mp result
  exact ⟨s', msg, accepted, addresses_agree accepted ⟨rfl, rfl, rfl, rfl⟩, creates⟩

end Sample

end AbstractFramework.ModuleFactory
