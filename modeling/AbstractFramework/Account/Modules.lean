import AbstractFramework.Lib.Effects
import AbstractFramework.Account.Versioning

/-! # Installing and uninstalling modules

The account's side of an installation: it resolves the modules at the registry,
stores their addresses and asks the module factory to create them.  What the
modules depend on is checked in the reply, once they all exist.
-/

namespace AbstractFramework.Account

open AbstractFramework Fallible Storage Effects

variable [Crates]

/-- The messages an account sends to manage its modules. -/
inductive CosmosMsg where
  /-- `InstallModules` of the module factory. -/
  | InstallModules (factory : Addr) (modules : List ModuleInstallConfig) (salt : Bytes)
      (funds : List Coin)
  | Migrate (contractAddr : Addr) (newCodeId : Nat) (msg : Binary)
  /-- `UpdateAuthorizedAddresses` of an adapter. -/
  | UpdateAuthorizedAddresses (adapter : Addr) (toAdd toRemove : List Addr)

/-- Only the owner, directly or at the top level, manages the modules. -/
def assertOwner (env : Env) (s : AccountState) (sender : Addr) : Except AccountError Unit :=
  (assertNestedOwner env.xion s.ownership s.authAdmin env.querier sender).mapError
    AccountError.Ownership

/-! ## Storage helpers -/

def WHITELIST_SIZE_LIMIT : Nat := 15

def addToWhitelist (whitelist : List Addr) (addr : Addr) : Except AccountError (List Addr) := do
  ensure (addr ∉ whitelist) (.AlreadyWhitelisted addr.asStr)
  return whitelist ++ [addr]

/-- Update whitelist by adding or removing addresses, in the storage.  Modules are added
    first before removal, so an address in both lists is removed. -/
def writeWhitelistedModules (toAdd toRemove : List Addr) :
    Writing AccountState AccountError Unit := do
  let whitelisted ← reading fun s => .ok s.whitelistedModules
  let total := whitelisted.length + toAdd.length
  lift (ensure (toRemove.length ≤ total) .NotWhitelisted)
  let newLen := total - toRemove.length
  lift (ensure (newLen ≤ WHITELIST_SIZE_LIMIT) .ModuleLimitReached)
  let added ← lift (toAdd.foldlM addToWhitelist whitelisted)
  let whitelistedModules := added.filter (· ∉ toRemove)
  lift (ensure (whitelistedModules.length = newLen) .NotWhitelisted)
  write fun s => { s with whitelistedModules }

/-- The state that a successful update leaves. -/
def updateWhitelistedModules (s : AccountState) (toAdd toRemove : List Addr) :
    Except AccountError AccountState :=
  commit (writeWhitelistedModules toAdd toRemove) s

def saveModuleAddress (modules : Map String Addr) (entry : String × Addr) :
    Except AccountError (Map String Addr) := do
  ensure (entry.1.isEmpty = false) .InvalidModuleName
  return modules.insert entry.1 entry.2

def updateModuleAddresses (s : AccountState) (toAdd : List (String × Addr))
    (toRemove : List String) : Except AccountError AccountState := do
  let added ← toAdd.foldlM saveModuleAddress s.accountModules
  return { s with accountModules := toRemove.foldl (fun m id => m.erase id) added }

/-- What a successful update has checked, and what it has written. -/
structure UpdatesWhitelist (s s' : AccountState) (toAdd toRemove added : List Addr) : Prop where
  removable : toRemove.length ≤ s.whitelistedModules.length + toAdd.length
  fits : s.whitelistedModules.length + toAdd.length - toRemove.length ≤ WHITELIST_SIZE_LIMIT
  appended : toAdd.foldlM addToWhitelist s.whitelistedModules = .ok added
  removed : (added.filter (· ∉ toRemove)).length =
    s.whitelistedModules.length + toAdd.length - toRemove.length
  written : s' = { s with whitelistedModules := added.filter (· ∉ toRemove) }

theorem updateWhitelistedModules_iff_updates {s s' : AccountState} {toAdd toRemove : List Addr} :
    updateWhitelistedModules s toAdd toRemove = .ok s' ↔
      ∃ added, UpdatesWhitelist s s' toAdd toRemove added := by
  rw [updateWhitelistedModules, commit_eq_ok]
  simp only [writeWhitelistedModules, call_bind_ok, call_reading, call_lift, call_write,
    Prod.mk.injEq, ensure_eq_ok]
  constructor
  · rintro ⟨_, _, ⟨whitelisted, rfl⟩, _, _, ⟨removable, rfl⟩, _, _, ⟨fits, rfl⟩, added, _,
      ⟨appended, rfl⟩, _, _, ⟨removed, rfl⟩, _, rfl⟩
    cases whitelisted
    exact ⟨added, removable, fits, appended, removed, rfl⟩
  · rintro ⟨added, removable, fits, appended, removed, rfl⟩
    exact ⟨_, _, ⟨rfl, rfl⟩, (), _, ⟨removable, rfl⟩, (), _, ⟨fits, rfl⟩, added, _, ⟨appended, rfl⟩,
      (), _, ⟨removed, rfl⟩, trivial, rfl⟩

theorem updateWhitelistedModules_eq_ok {s s' : AccountState} {toAdd toRemove : List Addr}
    (h : updateWhitelistedModules s toAdd toRemove = .ok s') :
    ∃ whitelistedModules, s' = { s with whitelistedModules } := by
  obtain ⟨added, updates⟩ := updateWhitelistedModules_iff_updates.mp h
  exact ⟨_, updates.written⟩

theorem updateModuleAddresses_eq_ok {s s' : AccountState} {toAdd : List (String × Addr)}
    (h : updateModuleAddresses s toAdd [] = .ok s') :
    s' = { s with accountModules := insertAll s.accountModules toAdd } := by
  simp only [updateModuleAddresses, bind_eq_ok, pure_eq_ok, List.foldl_nil] at h
  obtain ⟨added, saved, rfl⟩ := h
  have all : added = insertAll s.accountModules toAdd := by
    apply foldlM_eq_foldl _ saved
    intro m entry m' ok
    simp only [saveModuleAddress, bind_eq_ok, pure_eq_ok] at ok
    obtain ⟨_, _, rfl⟩ := ok
    rfl
  rw [all]

/-! ## Installation -/

/-- What the account stores and sends for one module. -/
structure InstallPlan where
  module : Module
  addr : Addr
  /-- The address of a contract that the factory is to create. -/
  created : Option Addr
  initMsg : Option Binary

/-- The address of a contract that the factory is to create. -/
def newModuleAddress (env : Env) (s : AccountState) (codeId : Nat) : Except AccountError Addr := do
  let code ← okOr (env.querier.codeInfo codeId) (.Std (.msg "no such code"))
  let salt := env.generateInstantiateSalt s.accountId
  let addr ← (env.instantiate2Address code.checksum env.factory salt).mapError
    AccountError.Instantiate2AddressError
  ensure ((env.querier.contract addr).isNone) .ProhibitedReinstall
  return addr

/-- One module of `_install_modules`. -/
def planInstall (env : Env) (s : AccountState) (m : Module) (initMsg : Option Binary) :
    Except AccountError InstallPlan := do
  -- read before any address of the batch is stored
  ensure (m.info.moduleId ∉ s.accountModules) (.ModuleAlreadyInstalled m.info.moduleId)
  match m.reference with
  | .Adapter addr | .Native addr | .Service addr =>
    return { module := m, addr, created := none, initMsg := none }
  | .App codeId | .Standalone codeId => do
    let addr ← newModuleAddress env s codeId
    let initMsg ← okOr initMsg (.InitMsgMissing m.info.moduleId)
    return { module := m, addr, created := some addr, initMsg := some initMsg }
  | .Account _ => .error (.ModuleNotInstallable m.info.toStr)

/-- The plans for all modules, as the registry resolves them. -/
def planModules (env : Env) (s : AccountState) (modules : List ModuleInstallConfig) :
    Except AccountError (List InstallPlan) := do
  let responses ← (env.queryModulesConfigs (modules.map (·.info))).mapError
    AccountError.QueryModulesFailed
  (responses.zip (modules.map (·.initMsg))).mapM fun (response, initMsg) =>
    planInstall env s response.1 initMsg

/-- `_install_modules`. -/
def installModulesInternal (env : Env) (modules : List ModuleInstallConfig) (funds : List Coin)
    (s : AccountState) : Except AccountError (AccountState × CosmosMsg) := do
  let plans ← planModules env s modules
  let whitelist := (plans.filter (·.module.shouldBeWhitelisted)).map (·.addr)
  let s ← updateWhitelistedModules s whitelist []
  let s := { s with installModulesContext := plans.map fun p => (p.module, p.created) }
  let s ← updateModuleAddresses s (plans.map fun p => (p.module.info.moduleId, p.addr)) []
  let configs := plans.map fun p => { info := p.module.info, initMsg := p.initMsg }
  return (s, .InstallModules env.factory configs (env.generateInstantiateSalt s.accountId) funds)

/-- Attempts to install new modules through the module factory. -/
def installModules (env : Env) (info : MessageInfo) (modules : List ModuleInstallConfig)
    (s : AccountState) : Except AccountError (AccountState × CosmosMsg) := do
  assertOwner env s info.sender
  installModulesInternal env modules info.funds s

theorem planInstall_eq_ok {env : Env} {s : AccountState} {m : Module} {initMsg : Option Binary}
    {plan : InstallPlan} (h : planInstall env s m initMsg = .ok plan) :
    plan.module = m ∧ m.info.moduleId ∉ s.accountModules := by
  simp only [planInstall, bind_eq_ok, ensure_eq_ok] at h
  obtain ⟨_, fresh, planned⟩ := h
  refine ⟨?_, fresh⟩
  split at planned <;> simp only [bind_eq_ok, pure_eq_ok, reduceCtorEq] at planned
  · rw [← planned]
  · rw [← planned]
  · rw [← planned]
  · obtain ⟨_, _, _, _, rfl⟩ := planned; rfl
  · obtain ⟨_, _, _, _, rfl⟩ := planned; rfl

/-- An installation plans new modules only, as the registry resolves them. -/
theorem planModules_eq_ok {env : Env} {s : AccountState} {modules : List ModuleInstallConfig}
    {plans : List InstallPlan} (h : planModules env s modules = .ok plans) :
    ∃ responses, env.registry.handleModulesQuery (modules.map (·.info)) = .ok responses ∧
      plans.map (·.module) = responses.map (·.1) ∧
      ∀ plan ∈ plans, plan.module.info.moduleId ∉ s.accountModules := by
  simp only [planModules, Env.queryModulesConfigs, bind_eq_ok, mapError_eq_ok, mapM_eq_ok] at h
  obtain ⟨responses, resolved, planned⟩ := h
  -- the responses are zipped with the messages, none is dropped
  have sameLength : responses.length = (modules.map (·.initMsg)).length := by
    have perModule := mapM_eq_ok.mp resolved
    simpa using perModule.length_eq.symm
  have firsts : (responses.zip (modules.map (·.initMsg))).map (·.1.1) = responses.map (·.1) := by
    conv_rhs => rw [← List.map_fst_zip (le_of_eq sameLength), List.map_map]
    rfl
  refine ⟨responses, resolved, ?_⟩
  rw [← firsts]
  clear firsts
  generalize responses.zip (modules.map (·.initMsg)) = entries at planned
  induction planned with
  | nil => simp
  | cons first _ ih =>
    obtain ⟨same, fresh⟩ := planInstall_eq_ok first
    refine ⟨by rw [List.map_cons, List.map_cons, same, ih.1], ?_⟩
    intro plan listed
    rcases List.mem_cons.mp listed with rfl | later
    · exact same ▸ fresh
    · exact ih.2 plan later

/-- What an installation stores before the modules are created. -/
theorem installModules_eq_ok {env : Env} {info : MessageInfo} {s s' : AccountState}
    {modules : List ModuleInstallConfig} {msg : CosmosMsg}
    (h : installModules env info modules s = .ok (s', msg)) :
    ∃ responses addrs,
      env.registry.handleModulesQuery (modules.map (·.info)) = .ok responses ∧
      (∀ response ∈ responses, response.1.info.moduleId ∉ s.accountModules) ∧
      s'.installModulesContext.map (·.1) = responses.map (·.1) ∧
      s'.accountModules = insertAll s.accountModules addrs ∧
      addrs.map Prod.fst = responses.map (·.1.info.moduleId) ∧
      s'.dependents = s.dependents ∧ s'.migrateContext = s.migrateContext := by
  simp only [installModules, installModulesInternal, bind_eq_ok, pure_eq_ok, Prod.mk.injEq] at h
  obtain ⟨_, _, plans, planned, s₁, whitelisted, s₂, stored, rfl, _⟩ := h
  obtain ⟨responses, resolved, modulesEq, fresh⟩ := planModules_eq_ok planned
  obtain ⟨_, rfl⟩ := updateWhitelistedModules_eq_ok whitelisted
  rw [updateModuleAddresses_eq_ok stored]
  refine ⟨responses, _, resolved, ?_, ?_, rfl, ?_, rfl, rfl⟩
  · intro response listed
    have member : response.1 ∈ plans.map (·.module) := by
      rw [modulesEq]
      exact List.mem_map_of_mem listed
    obtain ⟨plan, isPlan, same⟩ := List.mem_map.mp member
    exact same ▸ fresh plan isPlan
  · simp only [List.map_map]
    exact modulesEq
  · have ids := congrArg (List.map fun m : Module => m.info.moduleId) modulesEq
    simpa [Function.comp_def] using ids

/-! ## The reply to an installation -/

/-- Check the dependencies of an installed module; services and native modules
    have none. -/
def installDependencies (q : Querier) (s : AccountState) (m : Module) :
    Except AccountError (List Dependency) :=
  match m.reference with
  | .App _ | .Adapter _ => assertInstallRequirements q s m.info.moduleId
  | .Standalone _ => assertInstallRequirementsStandalone q s m.info.moduleId
  | _ => .ok []

/-- One module of `register_dependencies`. -/
def registerModule (q : Querier) (s : AccountState) (entry : Module × Option Addr) :
    Except AccountError AccountState := do
  let (m, addr) := entry
  (assertModuleDataValidity q m addr).mapError AccountError.Abstract
  let dependencies ← installDependencies q s m
  return { s with dependents := setAsDependent s.dependents m.info.moduleId dependencies }

/-- Adds the modules dependencies. -/
def registerDependencies (q : Querier) (s : AccountState) : Except AccountError AccountState :=
  s.installModulesContext.foldlM (registerModule q) s

/-- Whether the dependencies of the module are checked and indexed. -/
def hasDependencies (m : Module) : Bool :=
  match m.reference with
  | .App _ | .Adapter _ | .Standalone _ => true
  | _ => false

section Reply

variable {q : Querier} {s s' : AccountState}

theorem installDependencies_eq_ok {m : Module} {addr : Addr} {deps : List Dependency}
    (checked : hasDependencies m) (installed : s.accountModules.lookup m.info.moduleId = some addr)
    (h : installDependencies q s m = .ok deps) :
    deps = reportedDependencies q addr ∧ ∀ dep ∈ deps, InstalledAt q s.accountModules dep := by
  unfold hasDependencies at checked
  unfold installDependencies at h
  split at h
  · obtain ⟨⟨addr', installed', rfl⟩, met⟩ := assertInstallRequirements_eq_ok h
    rw [installed, Option.some.injEq] at installed'
    exact ⟨by rw [installed'], met⟩
  · obtain ⟨⟨addr', installed', rfl⟩, met⟩ := assertInstallRequirements_eq_ok h
    rw [installed, Option.some.injEq] at installed'
    exact ⟨by rw [installed'], met⟩
  · exact assertInstallRequirementsStandalone_eq_ok installed h
  · simp_all

theorem registerModule_eq_ok {entry : Module × Option Addr}
    (h : registerModule q s entry = .ok s') :
    ∃ deps, installDependencies q s entry.1 = .ok deps ∧
      s' = { s with dependents := setAsDependent s.dependents entry.1.info.moduleId deps } := by
  simp only [registerModule, bind_eq_ok, pure_eq_ok] at h
  obtain ⟨_, _, deps, checked, rfl⟩ := h
  exact ⟨deps, checked, rfl⟩

/-- The reply only extends the index. -/
theorem registerDependencies_frame (h : registerDependencies q s = .ok s') :
    s' = { s with dependents := s'.dependents } ∧
      ∀ id on, id ∈ dependentsOf s.dependents on → id ∈ dependentsOf s'.dependents on := by
  refine foldlM_invariant (P := fun t => t = { s with dependents := t.dependents } ∧
    ∀ id on, id ∈ dependentsOf s.dependents on → id ∈ dependentsOf t.dependents on) ?_
    ⟨rfl, fun _ _ indexed => indexed⟩ h
  rintro t entry t' _ ⟨same, kept⟩ ok
  obtain ⟨deps, _, rfl⟩ := registerModule_eq_ok ok
  refine ⟨by rw [same], ?_⟩
  intro id on indexed
  exact mem_setAsDependent.mpr (.inr (kept id on indexed))

/-- After the reply, the dependencies of a new module are installed and indexed. -/
theorem registerDependencies_eq_ok {entry : Module × Option Addr} {addr : Addr}
    (h : registerDependencies q s = .ok s') (listed : entry ∈ s.installModulesContext)
    (checked : hasDependencies entry.1)
    (installed : s.accountModules.lookup entry.1.info.moduleId = some addr) :
    ∀ dep ∈ reportedDependencies q addr, InstalledAt q s.accountModules dep ∧
      entry.1.info.moduleId ∈ dependentsOf s'.dependents dep.id := by
  refine foldlM_established (I := fun t => t.accountModules = s.accountModules)
    (P := fun t => ∀ dep ∈ reportedDependencies q addr, InstalledAt q s.accountModules dep ∧
      entry.1.info.moduleId ∈ dependentsOf t.dependents dep.id) ?_ ?_ listed ?_ rfl h
  · intro t other t' _ same ok
    obtain ⟨_, _, rfl⟩ := registerModule_eq_ok ok
    exact same
  · intro t other t' _ _ held ok dep isDep
    obtain ⟨_, _, rfl⟩ := registerModule_eq_ok ok
    exact ⟨(held dep isDep).1, mem_setAsDependent.mpr (.inr (held dep isDep).2)⟩
  · intro t t' same ok dep isDep
    obtain ⟨deps, loaded, rfl⟩ := registerModule_eq_ok ok
    rw [← same] at installed
    obtain ⟨rfl, met⟩ := installDependencies_eq_ok checked installed loaded
    refine ⟨same ▸ met dep isDep, ?_⟩
    exact mem_setAsDependent.mpr (.inl ⟨rfl, dep, isDep, rfl⟩)

/-- The reply indexes each new module for what it reports, and changes no other entry. -/
theorem mem_dependents_registerDependencies {id on : String}
    (h : registerDependencies q s = .ok s')
    (new : ∀ entry ∈ s.installModulesContext, hasDependencies entry.1 ∧
      entry.1.info.moduleId ∈ s.accountModules) :
    id ∈ dependentsOf s'.dependents on ↔
      (id ∈ s.installModulesContext.map (·.1.info.moduleId) ∧
        ∃ addr, s.accountModules.lookup id = some addr ∧
          ∃ dep ∈ reportedDependencies q addr, dep.id = on) ∨
      id ∈ dependentsOf s.dependents on := by
  unfold registerDependencies at h
  generalize s.installModulesContext = entries at h new ⊢
  induction entries generalizing s with
  | nil =>
    obtain rfl := pure_eq_ok.mp h
    simp
  | cons entry entries ih =>
    obtain ⟨t, first, rest⟩ := foldlM_cons_eq_ok.mp h
    obtain ⟨deps, loaded, rfl⟩ := registerModule_eq_ok first
    obtain ⟨checked, present⟩ := new entry List.mem_cons_self
    obtain ⟨addr, installed⟩ := mem_iff_lookup.mp present
    obtain ⟨rfl, _⟩ := installDependencies_eq_ok checked installed loaded
    rw [ih rest fun e listed => new e (List.mem_cons_of_mem entry listed), mem_setAsDependent]
    by_cases same : id = entry.1.info.moduleId
    · subst same
      simp only [List.map_cons, List.mem_cons, true_or, true_and, installed, Option.some.injEq,
        exists_eq_left']
      grind
    · simp only [List.map_cons, List.mem_cons, same, false_or, false_and]

end Reply

/-! ## Uninstalling -/

/-- A module with dependents cannot be uninstalled. -/
def clearDependents (s : AccountState) (moduleId : String) : Except AccountError AccountState :=
  match s.dependents.lookup moduleId with
  | some dependents => do
    ensure (dependents = []) (.ModuleHasDependents dependents)
    return { s with dependents := s.dependents.erase moduleId }
  | none => .ok s

/-- Remove the module from the whitelist if it is supposed to be there. -/
def removeFromWhitelist (s : AccountState) (moduleId : String) (m : Module) :
    Except AccountError AccountState :=
  if m.shouldBeWhitelisted then do
    let addr ← loadModuleAddr s moduleId
    updateWhitelistedModules s [] [addr]
  else .ok s

def uninstallModule (env : Env) (info : MessageInfo) (moduleId : String) (s : AccountState) :
    Except AccountError AccountState := do
  assertOwner env s info.sender
  let s ← clearDependents s moduleId
  let data ← loadModuleData env.querier s moduleId
  -- the dependencies as the contract reports them now
  let s := { s with dependents := removeAsDependent s.dependents moduleId data.dependencies }
  let moduleInfo ← (ModuleInfo.fromId data.module (.Version data.version)).mapError
    AccountError.Abstract
  let (m, _) ← (env.queryRegistryModule moduleInfo).mapError AccountError.RegistryError
  let s ← removeFromWhitelist s moduleId m
  return { s with accountModules := s.accountModules.erase moduleId }

/-- Clearing the entry of a module without dependents drops no dependent. -/
theorem clearDependents_eq_ok {moduleId : String} {s s' : AccountState}
    (h : clearDependents s moduleId = .ok s') :
    s' = { s with dependents := s'.dependents } ∧ dependentsOf s.dependents moduleId = [] ∧
      ∀ on, dependentsOf s'.dependents on = dependentsOf s.dependents on := by
  unfold clearDependents at h
  split at h
  · rename_i dependents found
    simp only [bind_eq_ok, ensure_eq_ok, pure_eq_ok] at h
    obtain ⟨_, rfl, rfl⟩ := h
    refine ⟨rfl, by simp [dependentsOf, found], ?_⟩
    intro on
    by_cases same : on = moduleId
    · subst same
      simp [dependentsOf, found]
    · simp [dependentsOf, AList.lookup_erase_ne same]
  · rename_i missing
    obtain rfl := Except.ok.inj h
    exact ⟨rfl, by simp [dependentsOf, missing], fun _ => rfl⟩

/-- What an uninstallation leaves.  The module is no longer a dependent of what it reports. -/
theorem uninstallModule_eq_ok {env : Env} {info : MessageInfo} {moduleId : String}
    {s s' : AccountState} (h : uninstallModule env info moduleId s = .ok s') :
    dependentsOf s.dependents moduleId = [] ∧ s'.migrateContext = s.migrateContext ∧
      s'.accountModules = s.accountModules.erase moduleId ∧
      ∃ addr, s.accountModules.lookup moduleId = some addr ∧
        ∀ id on, id ∈ dependentsOf s'.dependents on ↔
          ¬ (id = moduleId ∧ ∃ dep ∈ reportedDependencies env.querier addr, dep.id = on) ∧
            id ∈ dependentsOf s.dependents on := by
  simp only [uninstallModule, bind_eq_ok, pure_eq_ok] at h
  obtain ⟨_, _, s₁, cleared, data, loaded, _, _, _, _, s₂, whitelist, rfl⟩ := h
  obtain ⟨sameState, unused, sameIndex⟩ := clearDependents_eq_ok cleared
  obtain ⟨whitelistedModules, rfl⟩ : ∃ whitelistedModules, s₂ =
      { s with
        whitelistedModules
        dependents := removeAsDependent s₁.dependents moduleId data.dependencies } := by
    rw [sameState] at whitelist
    unfold removeFromWhitelist at whitelist
    split at whitelist
    · simp only [bind_eq_ok] at whitelist
      obtain ⟨_, _, removed⟩ := whitelist
      exact updateWhitelistedModules_eq_ok removed
    · obtain rfl := Except.ok.inj whitelist
      exact ⟨_, rfl⟩
  have deps : loadModuleDependencies env.querier { s with dependents := s₁.dependents } moduleId =
      .ok data.dependencies := by
    rw [← sameState, loadModuleDependencies, loaded]
    rfl
  obtain ⟨addr, installed, same⟩ := loadModuleDependencies_eq_ok deps
  refine ⟨unused, rfl, rfl, addr, installed, ?_⟩
  intro id on
  rw [mem_removeAsDependent, sameIndex, same]

end AbstractFramework.Account
