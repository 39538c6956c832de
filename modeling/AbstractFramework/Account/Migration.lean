import AbstractFramework.Account.Modules

/-! # Upgrading modules

An upgrade moves an adapter to its new address and migrates the contracts of
apps and standalones.  Before the migrations, the dependents of each upgraded
app or adapter must support its new version; in the reply after them, the
dependencies of the upgraded modules are checked and indexed anew.
-/

namespace AbstractFramework.Account

open AbstractFramework Fallible Storage

variable [Crates] {env : Env} {s s' : AccountState}

/-! ## The requested version -/

/-- The module to upgrade to.  An explicit version must not be older. -/
def requestedModule (env : Env) (info : ModuleInfo) (oldVersion : ContractVersion) :
    Except AccountError Module :=
  match info.version with
  | .Version newVersion => do
    let new ← parseUnwrap newVersion
    let old ← parseUnwrap oldVersion.version
    ensure (Crates.versionLt new old = false)
      (.OlderVersion (Crates.showVersion new) (Crates.showVersion old))
    let reference ← (env.queryModuleReferenceRaw info).mapError AccountError.RegistryError
    return { info, reference }
  | .Latest => do
    let (m, _) ← (env.queryRegistryModule info).mapError AccountError.RegistryError
    return m

/-- Query the registry for a module and its configuration. -/
def queryModule (env : Env) (info : ModuleInfo) (oldVersion : ContractVersion) :
    Except AccountError (Module × ModuleConfiguration) := do
  let m ← requestedModule env info oldVersion
  let (_, config) ← (env.queryRegistryModule info).mapError AccountError.RegistryError
  return (m, config)

/-- The requested module is the one that the registry resolves. -/
theorem queryModule_eq_ok {info : ModuleInfo} {oldVersion : ContractVersion} {m : Module}
    {config : ModuleConfiguration} (h : queryModule env info oldVersion = .ok (m, config)) :
    env.registry.queryModule info = .ok (m, config) := by
  simp only [queryModule, Env.queryRegistryModule, bind_eq_ok, mapError_eq_ok, pure_eq_ok,
    Prod.mk.injEq] at h
  obtain ⟨_, requested, ⟨resolved, _⟩, found, rfl, rfl⟩ := h
  suffices same : resolved = _ by rw [found, same]
  unfold requestedModule at requested
  unfold RegistryState.queryModule at found
  split at requested
  · rename_i version isVersion
    simp only [Env.queryModuleReferenceRaw, bind_eq_ok, ensure_eq_ok, mapError_eq_ok, okOr_eq_ok,
      pure_eq_ok] at requested
    obtain ⟨_, _, _, _, _, _, reference, registered, rfl⟩ := requested
    simp only [isVersion, bind_eq_ok, okOr_eq_ok, pure_eq_ok, Prod.mk.injEq] at found
    obtain ⟨_, registered', rfl, _⟩ := found
    rw [registered, Option.some.injEq] at registered'
    rw [registered']
  · simp only [Env.queryRegistryModule, bind_eq_ok, mapError_eq_ok, pure_eq_ok] at requested
    obtain ⟨⟨_, _⟩, found', rfl⟩ := requested
    unfold RegistryState.queryModule at found'
    rw [found] at found'
    simp only [Except.ok.injEq, Prod.mk.injEq] at found'
    exact found'.1

/-! ## Migrations -/

def addModuleUpgradeToContext (s : AccountState) (moduleId : String)
    (moduleDeps : List Dependency) : AccountState :=
  { s with migrateContext := s.migrateContext ++ [(moduleId, moduleDeps)] }

/-- Moves the authorized addresses to the new contract, and the account's
    permission with them. -/
def replaceAdapter (env : Env) (s : AccountState) (newAdapterAddr oldAdapterAddr : Addr) :
    Except AccountError (AccountState × List CosmosMsg) := do
  let authorized ← okOr ((env.querier.contract oldAdapterAddr).bind
    (·.authorizedAddresses env.address)) (.Std (.msg "query failed"))
  let s ← updateWhitelistedModules s [newAdapterAddr] [oldAdapterAddr]
  return (s, [.UpdateAuthorizedAddresses oldAdapterAddr [] authorized,
    .UpdateAuthorizedAddresses newAdapterAddr authorized []])

def handleAdapterMigration (env : Env) (s : AccountState) (info : ModuleInfo)
    (oldAdapterAddr newAdapterAddr : Addr) :
    Except AccountError (AccountState × List CosmosMsg) := do
  let moduleId := info.moduleId
  let version ← toSemver info.version
  assertMigrateRequirements env.querier s moduleId version
  let oldDeps ← loadModuleDependencies env.querier s moduleId
  -- the modules after this one already see the new address
  let s ← updateModuleAddresses s [(moduleId, newAdapterAddr)] []
  replaceAdapter env (addModuleUpgradeToContext s moduleId oldDeps) newAdapterAddr oldAdapterAddr

def EMPTY_MSG : Binary := strBytes "\x7b\x7d"

def handleAppMigration (env : Env) (s : AccountState) (migrateMsg : Option Binary)
    (oldModuleAddr : Addr) (info : ModuleInfo) (codeId : Nat) :
    Except AccountError (AccountState × List CosmosMsg) := do
  let moduleId := info.moduleId
  let version ← toSemver info.version
  assertMigrateRequirements env.querier s moduleId version
  let oldDeps ← loadModuleDependencies env.querier s moduleId
  return (addModuleUpgradeToContext s moduleId oldDeps,
    [.Migrate oldModuleAddr codeId (migrateMsg.getD EMPTY_MSG)])

/-- The messages that migrate one module, and its entry in the context. -/
def setMigrateMsgsAndContext (env : Env) (s : AccountState) (info : ModuleInfo)
    (migrateMsg : Option Binary) : Except AccountError (AccountState × List CosmosMsg) := do
  let oldModuleAddr ← loadModuleAddr s info.moduleId
  let oldModuleCw2 ← env.queryModuleVersion oldModuleAddr
  let (requested, _) ← queryModule env info oldModuleCw2
  match requested.reference with
  | .Adapter newAdapterAddr =>
    handleAdapterMigration env s requested.info oldModuleAddr newAdapterAddr
  | .App codeId => handleAppMigration env s migrateMsg oldModuleAddr requested.info codeId
  -- without a look at the dependents, and without an entry in the context
  | .Standalone codeId => do
    let msg ← okOr migrateMsg (.Panicked "called `Option::unwrap()` on a `None` value")
    return (s, [.Migrate oldModuleAddr codeId msg])
  | _ => .error (.NotUpgradeable info)

/-- Generate message for upgrading account. -/
def selfUpgradeMsg (env : Env) (s : AccountState) (info : ModuleInfo) (migrateMsg : Binary) :
    Except AccountError CosmosMsg := do
  let (m, _) ← queryModule env info s.contractVersion
  match m.reference with
  | .Account codeId => return .Migrate env.address codeId migrateMsg
  | _ => .error (.RegistryError (.InvalidReference info))

/-! ## The upgrade -/

/-- What the loop of `upgrade_modules` collects. -/
structure UpgradeLoop where
  state : AccountState
  upgradeMsgs : List CosmosMsg
  accountMigrateInfo : Option (ModuleInfo × Option Binary)
  upgradedModuleIds : List String

/-- One module of `upgrade_modules`. -/
def upgradeOne (env : Env) (loop : UpgradeLoop) (entry : ModuleInfo × Option Binary) :
    Except AccountError UpgradeLoop := do
  let moduleId := entry.1.moduleId
  ensure (moduleId ∉ loop.upgradedModuleIds) (.DuplicateModuleMigration moduleId)
  let loop := { loop with upgradedModuleIds := loop.upgradedModuleIds ++ [moduleId] }
  if moduleId = ACCOUNT then return { loop with accountMigrateInfo := some entry }
  else
    let (state, msgs) ← setMigrateMsgsAndContext env loop.state entry.1 entry.2
    return { loop with state, upgradeMsgs := loop.upgradeMsgs ++ msgs }

/-- The message that upgrades the account itself, if it is upgraded. -/
def accountUpgradeMsgs (env : Env) (loop : UpgradeLoop) : Except AccountError (List CosmosMsg) :=
  match loop.accountMigrateInfo with
  | some (info, migrateMsg) => do
    let msg ← selfUpgradeMsg env loop.state info (migrateMsg.getD [])
    return [msg]
  | none => .ok []

/-- Migrate modules through address updates or contract migrations.  The account
    is upgraded last, and a reply follows the last message. -/
def upgradeModules (env : Env) (info : MessageInfo) (modules : List (ModuleInfo × Option Binary))
    (s : AccountState) : Except AccountError (AccountState × List CosmosMsg) := do
  assertOwner env s info.sender
  ensure (modules ≠ []) .NoUpdates
  let s := { s with callingToAsAdmin := some CALLING_TO_AS_ADMIN_WILD_CARD }
  let loop ← modules.foldlM (upgradeOne env)
    { state := s, upgradeMsgs := [], accountMigrateInfo := none, upgradedModuleIds := [] }
  let accountMsgs ← accountUpgradeMsgs env loop
  return (loop.state, loop.upgradeMsgs ++ accountMsgs)

/-! ## What an upgrade replaces -/

/-- The registered versions that a list of modules stands for. -/
def resolved (env : Env) (infos : List ModuleInfo) : List Module :=
  infos.filterMap fun info => (env.registry.queryModule info).toOption.map (·.1)

theorem resolved_eq {infos : List ModuleInfo} {responses : List (Module × ModuleConfiguration)}
    (h : env.registry.handleModulesQuery infos = .ok responses) :
    resolved env infos = responses.map (·.1) := by
  have perModule := mapM_eq_ok.mp h
  unfold resolved
  clear h
  induction perModule with
  | nil => rfl
  | cons first _ ih =>
    have here := toOption_eq_some.mpr first
    simp [here, ih]

/-- Every module but the account itself is replaced. -/
def replacements (env : Env) (modules : List (ModuleInfo × Option Binary)) : List Module :=
  resolved env ((modules.map (·.1)).filter (·.moduleId ≠ ACCOUNT))

/-- Standalones are migrated without the checks of apps and adapters. -/
def isStandalone (m : Module) : Bool :=
  match m.reference with
  | .Standalone _ => true
  | _ => false

theorem mem_replacements {modules : List (ModuleInfo × Option Binary)} {m : Module} :
    m ∈ replacements env modules ↔ ∃ entry ∈ modules, entry.1.moduleId ≠ ACCOUNT ∧
      ∃ config, env.registry.queryModule entry.1 = .ok (m, config) := by
  simp only [replacements, resolved, List.mem_filterMap, List.mem_filter, List.mem_map,
    decide_eq_true_eq, Option.map_eq_some_iff]
  constructor
  · rintro ⟨_, ⟨⟨entry, listed, rfl⟩, isModule⟩, ⟨_, config⟩, found, rfl⟩
    exact ⟨entry, listed, isModule, config, toOption_eq_some.mp found⟩
  · rintro ⟨entry, listed, isModule, config, found⟩
    exact ⟨entry.1, ⟨⟨entry, listed, rfl⟩, isModule⟩, (m, config), by rw [found]; rfl, rfl⟩

/-- The dependents of an app or adapter, up to some, support its new version. -/
def Supported (env : Env) (s : AccountState) (exempt : List String) (m : Module) : Prop :=
  ∃ version, toSemver m.info.version = .ok version ∧
    ∀ dependent ∈ dependentsOf s.dependents m.info.moduleId, dependent ∉ exempt →
      ∃ addr, s.accountModules.lookup dependent = some addr ∧
        ∀ dep ∈ reportedDependencies env.querier addr, dep.id = m.info.moduleId →
          ∀ comp ∈ dep.versionReq, Crates.comparatorMatches comp version = true

/-- An app or adapter enters the context with the dependencies it had, after its
    dependents were asked; a standalone changes nothing. -/
structure Migrated (env : Env) (s : AccountState) (m : Module) (s' : AccountState) : Prop where
  dependents : s'.dependents = s.dependents
  others : ∀ id, id ≠ m.info.moduleId → s'.accountModules.lookup id = s.accountModules.lookup id
  present : m.info.moduleId ∈ s'.accountModules
  supported : Supported env s (s.migrateContext.map (·.1)) m
  context : ∃ addr, s.accountModules.lookup m.info.moduleId = some addr ∧
    s'.migrateContext =
      s.migrateContext ++ [(m.info.moduleId, reportedDependencies env.querier addr)]

theorem supported_of_checks {m : Module} {version : Crates.Version}
    (parsed : toSemver m.info.version = .ok version)
    (checked : assertMigrateRequirements env.querier s m.info.moduleId version = .ok ()) :
    Supported env s (s.migrateContext.map (·.1)) m :=
  ⟨version, parsed, assertMigrateRequirements_eq_ok checked⟩

theorem handleAdapterMigration_eq_ok {m : Module} {old new : Addr} {msgs : List CosmosMsg}
    (h : handleAdapterMigration env s m.info old new = .ok (s', msgs)) :
    Migrated env s m s' ∧ msgs ≠ [] := by
  simp only [handleAdapterMigration, replaceAdapter, bind_eq_ok, pure_eq_ok, Prod.mk.injEq] at h
  obtain ⟨version, parsed, _, checked, oldDeps, loaded, s₁, moved, _, _, s₂, listed, rfl, rfl⟩ := h
  obtain rfl := updateModuleAddresses_eq_ok moved
  obtain ⟨_, rfl⟩ := updateWhitelistedModules_eq_ok listed
  obtain ⟨addr, installed, rfl⟩ := loadModuleDependencies_eq_ok loaded
  refine ⟨⟨rfl, ?_, ?_, supported_of_checks parsed checked, addr, installed, rfl⟩, by simp⟩
  · intro id other
    exact lookup_insertAll_of_notMem (by simpa using other)
  · exact mem_insertAll.mpr (.inl (by simp))

theorem handleAppMigration_eq_ok {m : Module} {migrateMsg : Option Binary} {old : Addr}
    {codeId : Nat} {msgs : List CosmosMsg}
    (h : handleAppMigration env s migrateMsg old m.info codeId = .ok (s', msgs)) :
    Migrated env s m s' ∧ msgs ≠ [] := by
  simp only [handleAppMigration, bind_eq_ok, pure_eq_ok, Prod.mk.injEq] at h
  obtain ⟨version, parsed, _, checked, oldDeps, loaded, rfl, rfl⟩ := h
  obtain ⟨addr, installed, rfl⟩ := loadModuleDependencies_eq_ok loaded
  refine ⟨⟨rfl, fun _ _ => rfl, ?_, supported_of_checks parsed checked, addr, installed, rfl⟩,
    by simp⟩
  exact mem_of_lookup installed

theorem setMigrateMsgsAndContext_eq_ok {info : ModuleInfo} {migrateMsg : Option Binary}
    {msgs : List CosmosMsg}
    (h : setMigrateMsgsAndContext env s info migrateMsg = .ok (s', msgs)) :
    msgs ≠ [] ∧ ∃ m config, env.registry.queryModule info = .ok (m, config) ∧
      m.info.moduleId ∈ s.accountModules ∧ hasDependencies m ∧
      if isStandalone m then s' = s else Migrated env s m s' := by
  simp only [setMigrateMsgsAndContext, loadModuleAddr, bind_eq_ok, okOr_eq_ok] at h
  obtain ⟨addr, installed, cw2, _, ⟨m, config⟩, requested, migration⟩ := h
  have found := queryModule_eq_ok requested
  have present : m.info.moduleId ∈ s.accountModules := by
    rw [RegistryState.queryModule_moduleId found]
    exact mem_of_lookup installed
  dsimp only at migration
  split at migration
  · rename_i newAddr isAdapter
    obtain ⟨migrated, some⟩ := handleAdapterMigration_eq_ok migration
    exact ⟨some, m, config, found, present, by simp [hasDependencies, isAdapter],
      by simpa [isStandalone, isAdapter] using migrated⟩
  · rename_i codeId isApp
    obtain ⟨migrated, some⟩ := handleAppMigration_eq_ok migration
    exact ⟨some, m, config, found, present, by simp [hasDependencies, isApp],
      by simpa [isStandalone, isApp] using migrated⟩
  · rename_i codeId isStand
    simp only [bind_eq_ok, pure_eq_ok, Prod.mk.injEq] at migration
    obtain ⟨_, _, rfl, rfl⟩ := migration
    exact ⟨by simp, m, config, found, present, by simp [hasDependencies, isStand],
      by simp [isStandalone, isStand]⟩
  · cases migration

/-! ## The loop of an upgrade -/

section Loop

variable {loop loop' : UpgradeLoop} {entry : ModuleInfo × Option Binary}
  {modules : List (ModuleInfo × Option Binary)}

/-- One iteration notes the account's own upgrade, or migrates a module. -/
theorem upgradeOne_eq_ok (h : upgradeOne env loop entry = .ok loop') :
    entry.1.moduleId ∉ loop.upgradedModuleIds ∧
      loop'.upgradedModuleIds = loop.upgradedModuleIds ++ [entry.1.moduleId] ∧
      ((entry.1.moduleId = ACCOUNT ∧ loop'.state = loop.state ∧
          loop'.accountMigrateInfo = some entry ∧ loop'.upgradeMsgs = loop.upgradeMsgs) ∨
        (entry.1.moduleId ≠ ACCOUNT ∧ ∃ msgs,
          setMigrateMsgsAndContext env loop.state entry.1 entry.2 = .ok (loop'.state, msgs) ∧
          loop'.accountMigrateInfo = loop.accountMigrateInfo ∧
          loop'.upgradeMsgs = loop.upgradeMsgs ++ msgs)) := by
  simp only [upgradeOne, bind_eq_ok, ensure_eq_ok] at h
  obtain ⟨_, fresh, migration⟩ := h
  split at migration
  · rename_i isAccount
    obtain rfl := pure_eq_ok.mp migration
    exact ⟨fresh, rfl, .inl ⟨isAccount, rfl, rfl, rfl⟩⟩
  · rename_i isModule
    simp only [bind_eq_ok, pure_eq_ok] at migration
    obtain ⟨⟨state, msgs⟩, migrated, rfl⟩ := migration
    exact ⟨fresh, rfl, .inr ⟨isModule, msgs, migrated, rfl, rfl⟩⟩

/-- The invariant of the loop: the modules in the context are replaced ones, they
    are there with the dependencies they had, and nothing else has changed. -/
structure LoopInvariant (env : Env) (s : AccountState)
    (modules : List (ModuleInfo × Option Binary)) (loop : UpgradeLoop) : Prop where
  dependents : loop.state.dependents = s.dependents
  domain : ∀ id, id ∈ loop.state.accountModules ↔ id ∈ s.accountModules
  others : ∀ id, id ∉ loop.state.migrateContext.map (·.1) →
    loop.state.accountModules.lookup id = s.accountModules.lookup id
  upgraded : ∀ id ∈ loop.state.migrateContext.map (·.1), id ∈ loop.upgradedModuleIds
  context : ∀ e ∈ loop.state.migrateContext, ∃ m ∈ replacements env modules,
    isStandalone m = false ∧ m.info.moduleId = e.1 ∧
    ∃ addr, s.accountModules.lookup e.1 = some addr ∧ e.2 = reportedDependencies env.querier addr

theorem LoopInvariant.migrated {m : Module} (inv : LoopInvariant env s modules loop)
    (fresh : m.info.moduleId ∉ loop.upgradedModuleIds)
    (later : loop'.upgradedModuleIds = loop.upgradedModuleIds ++ [m.info.moduleId])
    (replaced : m ∈ replacements env modules) (checked : isStandalone m = false)
    (migrated : Migrated env loop.state m loop'.state) : LoopInvariant env s modules loop' := by
  obtain ⟨addr, installed, context⟩ := migrated.context
  -- it is the module's first turn, so its address is the one from the start
  have notYet : m.info.moduleId ∉ loop.state.migrateContext.map (·.1) :=
    fun listed => fresh (inv.upgraded _ listed)
  rw [inv.others _ notYet] at installed
  refine ⟨migrated.dependents.trans inv.dependents, ?_, ?_, ?_, ?_⟩
  · intro id
    by_cases same : id = m.info.moduleId
    · subst same
      exact ⟨fun _ => mem_of_lookup installed, fun _ => migrated.present⟩
    · rw [mem_iff_lookup, migrated.others id same, ← mem_iff_lookup]
      exact inv.domain id
  · intro id missing
    simp only [context, List.map_append, List.map_cons, List.map_nil, List.mem_append,
      List.mem_singleton, not_or] at missing
    rw [migrated.others id missing.2]
    exact inv.others id missing.1
  · intro id listed
    simp only [context, List.map_append, List.map_cons, List.map_nil, List.mem_append,
      List.mem_singleton] at listed
    rw [later, List.mem_append, List.mem_singleton]
    exact listed.imp_left (inv.upgraded id)
  · intro e listed
    rw [context, List.mem_append, List.mem_singleton] at listed
    rcases listed with old | rfl
    · exact inv.context e old
    · exact ⟨m, replaced, checked, rfl, addr, installed, rfl⟩

theorem LoopInvariant.step (inv : LoopInvariant env s modules loop) (listed : entry ∈ modules)
    (h : upgradeOne env loop entry = .ok loop') : LoopInvariant env s modules loop' := by
  obtain ⟨fresh, later, ⟨_, same, _⟩ | ⟨isModule, msgs, migrated, _⟩⟩ := upgradeOne_eq_ok h
  · refine ⟨same ▸ inv.dependents, same ▸ inv.domain, same ▸ inv.others, ?_, same ▸ inv.context⟩
    intro id inContext
    rw [later]
    exact List.mem_append_left _ (inv.upgraded id (same ▸ inContext))
  · obtain ⟨_, m, config, found, _, _, effect⟩ := setMigrateMsgsAndContext_eq_ok migrated
    have sameId := RegistryState.queryModule_moduleId found
    split at effect
    · -- a standalone leaves the state as it is
      refine ⟨effect ▸ inv.dependents, effect ▸ inv.domain, effect ▸ inv.others, ?_,
        effect ▸ inv.context⟩
      intro id inContext
      rw [later]
      exact List.mem_append_left _ (inv.upgraded id (effect ▸ inContext))
    · rename_i notStandalone
      rw [← sameId] at fresh later
      exact inv.migrated fresh later
        (mem_replacements.mpr ⟨entry, listed, isModule, config, found⟩)
        (by simpa using notStandalone) effect

/-- The context only grows. -/
theorem upgradeOne_context (h : upgradeOne env loop entry = .ok loop') :
    loop.state.migrateContext ⊆ loop'.state.migrateContext := by
  obtain ⟨_, _, ⟨_, same, _⟩ | ⟨_, _, migrated, _⟩⟩ := upgradeOne_eq_ok h
  · rw [same]
    exact List.Subset.refl _
  · obtain ⟨_, _, _, _, _, _, effect⟩ := setMigrateMsgsAndContext_eq_ok migrated
    split at effect
    · rw [effect]
      exact List.Subset.refl _
    · obtain ⟨_, _, context⟩ := effect.context
      rw [context]
      exact List.subset_append_left _ _

/-- What the loop has established for a module once it was its turn. -/
def Handled (env : Env) (s : AccountState) (m : Module) (loop : UpgradeLoop) : Prop :=
  m.info.moduleId ∈ s.accountModules ∧ hasDependencies m ∧
    (isStandalone m = false → m.info.moduleId ∈ loop.state.migrateContext.map (·.1) ∧
      Supported env s (loop.state.migrateContext.map (·.1)) m)

theorem Supported.mono {m : Module} {exempt exempt' : List String}
    (h : Supported env s exempt m) (more : exempt ⊆ exempt') : Supported env s exempt' m := by
  obtain ⟨version, parsed, supported⟩ := h
  refine ⟨version, parsed, ?_⟩
  intro dependent isDependent notExempt
  exact supported dependent isDependent fun listed => notExempt (more listed)

theorem Handled.step {m : Module} (handled : Handled env s m loop)
    (h : upgradeOne env loop entry = .ok loop') : Handled env s m loop' := by
  have more := List.map_subset (·.1) (upgradeOne_context h)
  refine ⟨handled.1, handled.2.1, ?_⟩
  intro checked
  obtain ⟨listed, supported⟩ := handled.2.2 checked
  exact ⟨more listed, supported.mono more⟩

theorem LoopInvariant.handled {m : Module} {config : ModuleConfiguration}
    (inv : LoopInvariant env s modules loop) (isModule : entry.1.moduleId ≠ ACCOUNT)
    (found : env.registry.queryModule entry.1 = .ok (m, config))
    (h : upgradeOne env loop entry = .ok loop') : Handled env s m loop' := by
  obtain ⟨fresh, _, ⟨isAccount, _⟩ | ⟨_, _, migrated, _⟩⟩ := upgradeOne_eq_ok h
  · exact absurd isAccount isModule
  · obtain ⟨_, m', _, found', present, tracked, effect⟩ := setMigrateMsgsAndContext_eq_ok migrated
    obtain ⟨rfl, _⟩ : m' = m ∧ _ := by simpa [found] using found'.symm
    refine ⟨(inv.domain _).mp present, tracked, ?_⟩
    intro checked
    rw [if_neg (by simp [checked])] at effect
    obtain ⟨_, _, context⟩ := effect.context
    refine ⟨by simp [context], ?_⟩
    -- the dependents that are asked have not moved since the start
    have here : Supported env s (loop.state.migrateContext.map (·.1)) m' := by
      obtain ⟨version, parsed, supported⟩ := effect.supported
      refine ⟨version, parsed, ?_⟩
      intro dependent isDependent notExempt
      rw [← inv.dependents] at isDependent
      rw [← inv.others dependent notExempt]
      exact supported dependent isDependent notExempt
    exact here.mono (List.map_subset (·.1) (upgradeOne_context h))

/-- No module is upgraded twice. -/
theorem upgradeLoop_ids (h : modules.foldlM (upgradeOne env) loop = .ok loop') :
    loop'.upgradedModuleIds = loop.upgradedModuleIds ++ modules.map (·.1.moduleId) ∧
      (loop.upgradedModuleIds.Nodup → loop'.upgradedModuleIds.Nodup) := by
  induction modules generalizing loop with
  | nil =>
    obtain rfl := pure_eq_ok.mp h
    simp
  | cons entry modules ih =>
    obtain ⟨next, first, rest⟩ := foldlM_cons_eq_ok.mp h
    obtain ⟨fresh, later, _⟩ := upgradeOne_eq_ok first
    obtain ⟨ids, distinct⟩ := ih rest
    refine ⟨by simp [ids, later], ?_⟩
    intro nodup
    apply distinct
    rw [later, List.nodup_append_comm, List.singleton_append, List.nodup_cons]
    exact ⟨fresh, nodup⟩

theorem replacements_once (distinct : (modules.map (·.1.moduleId)).Nodup) {m m' : Module}
    (replaced : m ∈ replacements env modules) (replaced' : m' ∈ replacements env modules)
    (same : m.info.moduleId = m'.info.moduleId) : m = m' := by
  obtain ⟨entry, listed, _, config, found⟩ := mem_replacements.mp replaced
  obtain ⟨entry', listed', _, config', found'⟩ := mem_replacements.mp replaced'
  rw [RegistryState.queryModule_moduleId found, RegistryState.queryModule_moduleId found'] at same
  obtain rfl := List.inj_on_of_nodup_map distinct listed listed' same
  rw [found] at found'
  exact (Prod.mk.inj (Except.ok.inj found')).1

/-- What an upgrade has checked and stored before its messages. -/
structure Upgraded (env : Env) (s : AccountState) (modules : List (ModuleInfo × Option Binary))
    (s' : AccountState) : Prop where
  dependents : s'.dependents = s.dependents
  domain : ∀ id, id ∈ s'.accountModules ↔ id ∈ s.accountModules
  context : ∀ e ∈ s'.migrateContext, ∃ m ∈ replacements env modules,
    isStandalone m = false ∧ m.info.moduleId = e.1 ∧
    ∃ addr, s.accountModules.lookup e.1 = some addr ∧ e.2 = reportedDependencies env.querier addr
  handled : ∀ m ∈ replacements env modules, m.info.moduleId ∈ s.accountModules ∧
    hasDependencies m ∧ (isStandalone m = false →
      m.info.moduleId ∈ s'.migrateContext.map (·.1) ∧
      Supported env s (s'.migrateContext.map (·.1)) m)
  once : ∀ m ∈ replacements env modules, ∀ m' ∈ replacements env modules,
    m.info.moduleId = m'.info.moduleId → m = m'

/-- Each module leaves a message, or the account's own upgrade does at the end. -/
theorem upgradeLoop_sends {start : UpgradeLoop} (someModule : modules ≠ [])
    (h : modules.foldlM (upgradeOne env) start = .ok loop) :
    loop.upgradeMsgs ≠ [] ∨ loop.accountMigrateInfo.isSome := by
  obtain ⟨entry, rest, rfl⟩ := List.exists_cons_of_ne_nil someModule
  refine foldlM_established (I := fun _ => True)
    (P := fun l => l.upgradeMsgs ≠ [] ∨ l.accountMigrateInfo.isSome)
    (fun _ _ _ _ _ _ => trivial) ?_ List.mem_cons_self ?_ trivial h
  · intro l e l' _ _ held ok
    obtain ⟨_, _, ⟨_, _, info, _⟩ | ⟨_, _, _, info, msgs⟩⟩ := upgradeOne_eq_ok ok
    · exact .inr (by simp [info])
    · refine held.imp (fun some => ?_) (fun some => by rw [info]; exact some)
      simp [msgs, some]
  · intro l l' _ ok
    obtain ⟨_, _, ⟨_, _, info, _⟩ | ⟨_, _, migrated, _, msgs⟩⟩ := upgradeOne_eq_ok ok
    · exact .inr (by simp [info])
    · left
      simp [msgs, (setMigrateMsgsAndContext_eq_ok migrated).1]

theorem upgradeModules_owner {info : MessageInfo} {msgs : List CosmosMsg}
    (h : upgradeModules env info modules s = .ok (s', msgs)) :
    assertOwner env s info.sender = .ok () := by
  simp only [upgradeModules, bind_eq_ok] at h
  obtain ⟨_, owner, _⟩ := h
  exact owner

/-- An upgrade sends a message, so that its reply runs. -/
theorem upgradeModules_sends {info : MessageInfo} {msgs : List CosmosMsg}
    (h : upgradeModules env info modules s = .ok (s', msgs)) : msgs ≠ [] := by
  simp only [upgradeModules, bind_eq_ok, ensure_eq_ok, pure_eq_ok, Prod.mk.injEq] at h
  obtain ⟨_, _, _, someModule, loop, looped, accountMsgs, ownUpgrade, _, rfl⟩ := h
  have sent := upgradeLoop_sends someModule looped
  unfold accountUpgradeMsgs at ownUpgrade
  split at ownUpgrade
  · simp only [bind_eq_ok, pure_eq_ok] at ownUpgrade
    obtain ⟨_, _, rfl⟩ := ownUpgrade
    simp
  · rename_i missing
    have msgs : loop.upgradeMsgs ≠ [] := sent.resolve_right (by simp [missing])
    simp [msgs]

theorem upgradeModules_eq_ok {info : MessageInfo} {msgs : List CosmosMsg}
    (idle : s.migrateContext = []) (h : upgradeModules env info modules s = .ok (s', msgs)) :
    Upgraded env s modules s' ∧ msgs ≠ [] := by
  refine ⟨?_, upgradeModules_sends h⟩
  simp only [upgradeModules, bind_eq_ok, pure_eq_ok, Prod.mk.injEq] at h
  obtain ⟨_, _, _, _, loop, looped, _, _, rfl, _⟩ := h
  have start : LoopInvariant env s modules
      { state := { s with callingToAsAdmin := some CALLING_TO_AS_ADMIN_WILD_CARD },
        upgradeMsgs := [], accountMigrateInfo := none, upgradedModuleIds := [] } := by
    refine ⟨rfl, fun _ => .rfl, fun _ _ => rfl, ?_, ?_⟩ <;> simp [idle]
  have frame : ∀ l entry l', entry ∈ modules → LoopInvariant env s modules l →
      upgradeOne env l entry = .ok l' → LoopInvariant env s modules l' :=
    fun l entry l' listed inv ok => inv.step listed ok
  have done := foldlM_invariant (P := LoopInvariant env s modules) frame start looped
  refine ⟨done.dependents, done.domain, done.context, ?_, ?_⟩
  · intro m replaced
    obtain ⟨entry, listed, isModule, config, found⟩ := mem_replacements.mp replaced
    exact foldlM_established (P := Handled env s m) frame
      (fun _ _ _ _ _ handled ok => handled.step ok) listed
      (fun _ _ inv ok => inv.handled isModule found ok) start looped
  · obtain ⟨ids, distinct⟩ := upgradeLoop_ids looped
    have nodup : (modules.map (·.1.moduleId)).Nodup := by simpa [ids] using distinct
    exact fun _ replaced _ replaced' => replacements_once nodup replaced replaced'

/-- What a migration writes. -/
theorem setMigrateMsgsAndContext_frame {info : ModuleInfo} {migrateMsg : Option Binary}
    {msgs : List CosmosMsg}
    (h : setMigrateMsgsAndContext env s info migrateMsg = .ok (s', msgs)) :
    s' = { s with
      accountModules := s'.accountModules
      whitelistedModules := s'.whitelistedModules
      migrateContext := s'.migrateContext } := by
  simp only [setMigrateMsgsAndContext, bind_eq_ok] at h
  obtain ⟨_, _, _, _, ⟨m, _⟩, _, migration⟩ := h
  dsimp only at migration
  split at migration
  · simp only [handleAdapterMigration, replaceAdapter, bind_eq_ok, pure_eq_ok,
      Prod.mk.injEq] at migration
    obtain ⟨_, _, _, _, _, _, s₁, moved, _, _, s₂, listed, rfl, _⟩ := migration
    obtain rfl := updateModuleAddresses_eq_ok moved
    obtain ⟨_, rfl⟩ := updateWhitelistedModules_eq_ok listed
    rfl
  · simp only [handleAppMigration, bind_eq_ok, pure_eq_ok, Prod.mk.injEq] at migration
    obtain ⟨_, _, _, _, _, _, rfl, _⟩ := migration
    rfl
  · simp only [bind_eq_ok, pure_eq_ok, Prod.mk.injEq] at migration
    obtain ⟨_, _, rfl, _⟩ := migration
    rfl
  · cases migration

/-- What an upgrade writes: the modules, the whitelist and the context, and the
    admin flag is set to the wild card. -/
theorem upgradeModules_frame {info : MessageInfo} {msgs : List CosmosMsg}
    (h : upgradeModules env info modules s = .ok (s', msgs)) :
    s' = { s with
      accountModules := s'.accountModules
      whitelistedModules := s'.whitelistedModules
      migrateContext := s'.migrateContext
      callingToAsAdmin := some CALLING_TO_AS_ADMIN_WILD_CARD } := by
  simp only [upgradeModules, bind_eq_ok, pure_eq_ok, Prod.mk.injEq] at h
  obtain ⟨_, _, _, _, loop, looped, _, _, rfl, _⟩ := h
  refine foldlM_invariant (P := fun l : UpgradeLoop => l.state = { s with
      accountModules := l.state.accountModules
      whitelistedModules := l.state.whitelistedModules
      migrateContext := l.state.migrateContext
      callingToAsAdmin := some CALLING_TO_AS_ADMIN_WILD_CARD }) ?_ rfl looped
  intro l entry l' _ held ok
  obtain ⟨_, _, ⟨_, same, _⟩ | ⟨_, _, migrated, _⟩⟩ := upgradeOne_eq_ok ok
  · rw [same]
    exact held
  · rw [setMigrateMsgsAndContext_frame migrated, held]

end Loop

/-! ## The reply to an upgrade -/

/-- One module of `assert_modules_dependency_requirements`. -/
def assertMigrated (q : Querier) (s : AccountState) (migrated : String × List Dependency) :
    Except AccountError AccountState := do
  let (moduleId, oldDeps) := migrated
  let s ← maybeRemoveOldDeps q s moduleId oldDeps
  let (s, newDeps) ← maybeAddNewDeps q s moduleId oldDeps
  assertDependencyRequirements q s newDeps moduleId
  return s

/-- Update the index of dependents for the migrated modules, and check their
    dependencies. -/
def assertModulesDependencyRequirements (q : Querier) (s : AccountState) :
    Except AccountError AccountState := do
  let s ← s.migrateContext.foldlM (assertMigrated q) s
  return { s with callingToAsAdmin := none, migrateContext := [] }

section Reply

variable {q : Querier} {migrated : String × List Dependency}

theorem assertMigrated_eq_ok (h : assertMigrated q s migrated = .ok s') :
    ∃ addr, s.accountModules.lookup migrated.1 = some addr ∧
      (∀ dep ∈ reportedDependencies q addr, InstalledAt q s.accountModules dep) ∧
      s' = { s with
        dependents := reindex s.dependents migrated.1 migrated.2 (reportedDependencies q addr) } := by
  simp only [assertMigrated, bind_eq_ok, pure_eq_ok] at h
  obtain ⟨s₁, removed, ⟨s₂, newDeps⟩, added, _, checked, rfl⟩ := h
  obtain ⟨_, loaded, rfl⟩ := maybeRemoveOldDeps_eq_ok removed
  obtain ⟨loaded', rfl⟩ := maybeAddNewDeps_eq_ok added
  obtain ⟨addr, installed, rfl⟩ := loadModuleDependencies_eq_ok loaded
  obtain ⟨addr', installed', rfl⟩ := loadModuleDependencies_eq_ok loaded'
  obtain rfl : addr = addr' := Option.some.inj (installed.symm.trans installed')
  exact ⟨addr, installed, assertDependencyRequirements_eq_ok checked, rfl⟩

theorem assertMigrated_accountModules (h : assertMigrated q s migrated = .ok s') :
    s'.accountModules = s.accountModules := by
  obtain ⟨_, _, _, rfl⟩ := assertMigrated_eq_ok h
  rfl

/-- One module of the reply loses the dependents entry for what it dropped and
    gains one for what is new; the entries of the others stay. -/
theorem mem_dependents_assertMigrated {id on : String} {addr : Addr}
    (installed : s.accountModules.lookup migrated.1 = some addr)
    (h : assertMigrated q s migrated = .ok s') :
    id ∈ dependentsOf s'.dependents on ↔
      (id = migrated.1 ∧ ∃ dep ∈ reportedDependencies q addr, dep ∉ migrated.2 ∧ dep.id = on) ∨
      (¬ (id = migrated.1 ∧
          ∃ dep ∈ migrated.2, dep ∉ reportedDependencies q addr ∧ dep.id = on) ∧
        id ∈ dependentsOf s.dependents on) := by
  obtain ⟨addr', installed', _, rfl⟩ := assertMigrated_eq_ok h
  obtain rfl : addr = addr' := Option.some.inj (installed.symm.trans installed')
  exact mem_reindex

/-- The reply changes the index, and it clears the context and the admin flag. -/
theorem assertModulesDependencyRequirements_eq_ok
    (h : assertModulesDependencyRequirements q s = .ok s') :
    s' = { s with
      dependents := s'.dependents, callingToAsAdmin := none, migrateContext := [] } := by
  simp only [assertModulesDependencyRequirements, bind_eq_ok, pure_eq_ok] at h
  obtain ⟨t, looped, rfl⟩ := h
  have index : t = { s with dependents := t.dependents } := by
    refine foldlM_invariant (P := fun t => t = { s with dependents := t.dependents }) ?_ rfl looped
    intro t e t' _ same ok
    obtain ⟨_, _, _, rfl⟩ := assertMigrated_eq_ok ok
    rw [same]
  rw [index]

theorem assertModulesDependencyRequirements_frame
    (h : assertModulesDependencyRequirements q s = .ok s') :
    s'.accountModules = s.accountModules ∧ s'.migrateContext = [] := by
  rw [assertModulesDependencyRequirements_eq_ok h]
  exact ⟨rfl, rfl⟩

/-- After the reply, the dependencies of a migrated module are installed. -/
theorem assertModulesDependencyRequirements_met {addr : Addr}
    (h : assertModulesDependencyRequirements q s = .ok s') (listed : migrated ∈ s.migrateContext)
    (installed : s.accountModules.lookup migrated.1 = some addr) :
    ∀ dep ∈ reportedDependencies q addr, InstalledAt q s.accountModules dep := by
  simp only [assertModulesDependencyRequirements, bind_eq_ok, pure_eq_ok] at h
  obtain ⟨t, looped, rfl⟩ := h
  refine foldlM_established (I := fun t => t.accountModules = s.accountModules)
    (P := fun _ => ∀ dep ∈ reportedDependencies q addr, InstalledAt q s.accountModules dep)
    ?_ (fun _ _ _ _ _ held _ => held) listed ?_ rfl looped
  · intro t e t' _ same ok
    exact (assertMigrated_accountModules ok).trans same
  · intro t t' same ok
    obtain ⟨addr', installed', met, _⟩ := assertMigrated_eq_ok ok
    rw [same] at installed' met
    obtain rfl : addr = addr' := Option.some.inj (installed.symm.trans installed')
    exact met

/-- The reply leaves the entries of the modules that it does not migrate. -/
theorem mem_dependents_of_unmigrated {id on : String}
    (h : assertModulesDependencyRequirements q s = .ok s')
    (missing : id ∉ s.migrateContext.map (·.1)) :
    id ∈ dependentsOf s'.dependents on ↔ id ∈ dependentsOf s.dependents on := by
  simp only [assertModulesDependencyRequirements, bind_eq_ok, pure_eq_ok] at h
  obtain ⟨t, looped, rfl⟩ := h
  refine foldlM_invariant (P := fun t => id ∈ dependentsOf t.dependents on ↔
    id ∈ dependentsOf s.dependents on) ?_ Iff.rfl looped
  intro t e t' listed same ok
  have other : id ≠ e.1 := fun mine => missing (List.mem_map.mpr ⟨e, listed, mine.symm⟩)
  obtain ⟨addr, installed, _⟩ := assertMigrated_eq_ok ok
  rw [mem_dependents_assertMigrated installed ok]
  simpa [other] using same

/-- The reply leaves a migrated module indexed for what is new, and for what it was indexed
    for as far as nothing is dropped there. -/
theorem mem_dependents_of_migrated {on : String} {addr : Addr}
    (h : assertModulesDependencyRequirements q s = .ok s') (listed : migrated ∈ s.migrateContext)
    (once : ∀ e ∈ s.migrateContext, e.1 = migrated.1 → e.2 = migrated.2)
    (installed : s.accountModules.lookup migrated.1 = some addr) :
    migrated.1 ∈ dependentsOf s'.dependents on ↔
      (∃ dep ∈ reportedDependencies q addr, dep ∉ migrated.2 ∧ dep.id = on) ∨
      ¬ (∃ dep ∈ migrated.2, dep ∉ reportedDependencies q addr ∧ dep.id = on) ∧
        migrated.1 ∈ dependentsOf s.dependents on := by
  simp only [assertModulesDependencyRequirements, bind_eq_ok, pure_eq_ok] at h
  obtain ⟨t, looped, rfl⟩ := h
  generalize added : (∃ dep ∈ reportedDependencies q addr, dep ∉ migrated.2 ∧ dep.id = on) = A
  generalize dropped : (∃ dep ∈ migrated.2, dep ∉ reportedDependencies q addr ∧ dep.id = on) = D
  -- the module's own turn, and the turn of another one
  have turn : ∀ t e t', e ∈ s.migrateContext → t.accountModules = s.accountModules →
      assertMigrated q t e = .ok t' → (migrated.1 ∈ dependentsOf t'.dependents on ↔
        if e.1 = migrated.1 then A ∨ ¬ D ∧ migrated.1 ∈ dependentsOf t.dependents on
        else migrated.1 ∈ dependentsOf t.dependents on) := by
    intro t e t' isMigrated same ok
    obtain ⟨addr', installed', _⟩ := assertMigrated_eq_ok ok
    rw [mem_dependents_assertMigrated installed' ok]
    by_cases mine : e.1 = migrated.1
    · rw [same, mine] at installed'
      obtain rfl : addr = addr' := Option.some.inj (installed.symm.trans installed')
      simp only [mine, once e isMigrated mine, true_and, if_true, added, dropped]
    · simp only [mine, Ne.symm mine, false_and, false_or, not_false_iff, true_and, if_false]
  -- after its first turn, a further one would change nothing
  refine foldlM_established (I := fun t => t.accountModules = s.accountModules ∧
      ((migrated.1 ∈ dependentsOf t.dependents on ↔ migrated.1 ∈ dependentsOf s.dependents on) ∨
        (migrated.1 ∈ dependentsOf t.dependents on ↔
          A ∨ ¬ D ∧ migrated.1 ∈ dependentsOf s.dependents on)))
    (P := fun t => migrated.1 ∈ dependentsOf t.dependents on ↔
      A ∨ ¬ D ∧ migrated.1 ∈ dependentsOf s.dependents on) ?_ ?_ listed ?_ ⟨rfl, .inl Iff.rfl⟩ looped
  · rintro t e t' isMigrated ⟨same, here⟩ ok
    refine ⟨(assertMigrated_accountModules ok).trans same, ?_⟩
    rw [turn t e t' isMigrated same ok]
    split
    · rcases here with here | here
      · rw [here]
        exact .inr Iff.rfl
      · rw [here]
        right
        grind
    · exact here
  · rintro t e t' isMigrated ⟨same, _⟩ held ok
    rw [turn t e t' isMigrated same ok, held]
    split <;> grind
  · rintro t t' ⟨same, here⟩ ok
    rw [turn t migrated t' listed same ok, if_pos rfl]
    rcases here with here | here
    · rw [here]
    · rw [here]
      grind

end Reply

end AbstractFramework.Account
