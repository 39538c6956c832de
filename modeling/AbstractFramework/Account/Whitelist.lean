import AbstractFramework.Lib.Batches
import AbstractFramework.Lib.Grants
import AbstractFramework.Account.Contract

/-! # The whitelist and the installed modules

An installed module whose registered reference says so has the permission to
call `Execute`: its address is in the whitelist.  Installing, upgrading and
uninstalling decide about the permission each on its own.  An installation
whitelists every module of the batch, an upgrade moves the permission of an
adapter and leaves every other one as it is, and an uninstallation asks the
registry once more whether there is one to take away.

`permission` is what the whitelist should hold, and each operation is shown to
change both alike, through the rules for grants.
-/

namespace AbstractFramework.Account

open AbstractFramework Fallible Storage Machine Grants Effects

section Permissions

variable {installedAs : Map String Module}

/-- The address that a module id may call `Execute` from. -/
def permission (installedAs : Map String Module) (modules : Map String Addr) (id : String) :
    Option Addr :=
  if (installedAs.lookup id).any (·.shouldBeWhitelisted) then modules.lookup id else none

/-- The whitelist holds the permissions, each once, of the modules on record. -/
structure Tracked (installedAs : Map String Module) (modules : Map String Addr)
    (whitelist : List Addr) : Prop where
  domain : ∀ id, id ∈ modules ↔ id ∈ installedAs
  listed : Listed (permission installedAs modules) whitelist

theorem permission_insert {modules : Map String Addr} {id : String} {m : Module} {addr : Addr} :
    permission (installedAs.insert id m) (modules.insert id addr) =
      Function.update (permission installedAs modules) id
        (if m.shouldBeWhitelisted then some addr else none) := by
  funext id'
  by_cases same : id' = id
  · subst same
    simp [permission]
  · simp [permission, AList.lookup_insert_ne same, same]

theorem permission_erase {modules : Map String Addr} {id : String} :
    permission (installedAs.erase id) (modules.erase id) =
      Function.update (permission installedAs modules) id none := by
  funext id'
  by_cases same : id' = id
  · subst same
    simp [permission]
  · simp [permission, AList.lookup_erase_ne same, same]

/-- Another version of a module at the same address. -/
theorem permission_record {modules : Map String Addr} {id : String} {old m : Module}
    (recorded : installedAs.lookup id = some old)
    (alike : old.shouldBeWhitelisted = m.shouldBeWhitelisted) :
    permission (installedAs.insert id m) modules = permission installedAs modules := by
  funext id'
  by_cases same : id' = id
  · subst same
    simp [permission, recorded, alike]
  · simp [permission, AList.lookup_insert_ne same]

theorem permission_of_recorded {modules : Map String Addr} {id : String} {old : Module}
    (recorded : installedAs.lookup id = some old) :
    permission installedAs modules id =
      if old.shouldBeWhitelisted then modules.lookup id else none := by
  simp [permission, recorded]

/-! ## Writing the whitelist -/

/-- The additions are new, to the list and among themselves. -/
theorem foldlM_addToWhitelist_eq_ok {toAdd whitelist added : List Addr} :
    toAdd.foldlM addToWhitelist whitelist = .ok added ↔
      toAdd.Nodup ∧ whitelist.Disjoint toAdd ∧ added = whitelist ++ toAdd := by
  have one : ∀ l addr l', addToWhitelist l addr = .ok l' ↔
      ∃ a, addr = a ∧ a ∉ l ∧ l' = l ++ [a] := by
    intro l addr l'
    simp only [addToWhitelist, bind_eq_ok, ensure_eq_ok, pure_eq_ok]
    simp [eq_comm]
  rw [Batches.foldlM_append_eq_ok one]
  simp

/-- The condition under which an update of the whitelist is accepted. -/
structure WhitelistUpdate (whitelist toAdd toRemove : List Addr) : Prop where
  additionsOnce : toAdd.Nodup
  additionsNew : whitelist.Disjoint toAdd
  removalsOnce : toRemove.Nodup
  removalsListed : toRemove ⊆ whitelist ++ toAdd
  fits : whitelist.length + toAdd.length ≤ WHITELIST_SIZE_LIMIT + toRemove.length

theorem WhitelistUpdate.all_nodup {whitelist toAdd toRemove : List Addr}
    (accepted : WhitelistUpdate whitelist toAdd toRemove) (distinct : whitelist.Nodup) :
    (whitelist ++ toAdd).Nodup :=
  distinct.append accepted.additionsOnce accepted.additionsNew

/-- Each removal takes one address off. -/
theorem WhitelistUpdate.length_removed {whitelist toAdd toRemove : List Addr}
    (accepted : WhitelistUpdate whitelist toAdd toRemove) (distinct : whitelist.Nodup) :
    ((whitelist ++ toAdd).filter (· ∉ toRemove)).length + toRemove.length =
      whitelist.length + toAdd.length := by
  rw [(Batches.length_filter_notMem toRemove (accepted.all_nodup distinct)).mpr
    ⟨accepted.removalsOnce, accepted.removalsListed⟩, List.length_append]

variable [Crates] {env : Env} {s s' : AccountState}

/-- Comparing the lengths before and after the removals finds every removal that is
    repeated or not listed, because the list has no duplicates by then. -/
theorem updateWhitelistedModules_iff {toAdd toRemove : List Addr}
    (distinct : s.whitelistedModules.Nodup) :
    updateWhitelistedModules s toAdd toRemove = .ok s' ↔
      WhitelistUpdate s.whitelistedModules toAdd toRemove ∧
      s' = { s with
        whitelistedModules := (s.whitelistedModules ++ toAdd).filter (· ∉ toRemove) } := by
  rw [updateWhitelistedModules_iff_updates]
  constructor
  · rintro ⟨added, updates⟩
    obtain ⟨once, new, rfl⟩ := foldlM_addToWhitelist_eq_ok.mp updates.appended
    have all : (s.whitelistedModules ++ toAdd).Nodup := distinct.append once new
    have enough := updates.removable
    have small := updates.fits
    have removed := (Batches.length_filter_notMem toRemove all).mp (by
      rw [updates.removed, List.length_append]
      omega)
    exact ⟨⟨once, new, removed.1, removed.2, by omega⟩, updates.written⟩
  · rintro ⟨accepted, written⟩
    have removed := accepted.length_removed distinct
    have fits := accepted.fits
    have appended := foldlM_addToWhitelist_eq_ok.mpr
      ⟨accepted.additionsOnce, accepted.additionsNew, rfl⟩
    exact ⟨_, by omega, by omega, appended, by omega, written⟩

theorem updateWhitelistedModules_spec {toAdd toRemove : List Addr}
    (h : updateWhitelistedModules s toAdd toRemove = .ok s')
    (distinct : s.whitelistedModules.Nodup) :
    s' = { s with
        whitelistedModules := (s.whitelistedModules ++ toAdd).filter (· ∉ toRemove) } ∧
      (s.whitelistedModules ++ toAdd).Nodup := by
  obtain ⟨accepted, rfl⟩ := (updateWhitelistedModules_iff distinct).mp h
  exact ⟨rfl, accepted.all_nodup distinct⟩

/-- The whitelist in storage after an update, accepted or not. -/
def storedWhitelist (s : AccountState) (toAdd toRemove : List Addr) : List Addr :=
  (call (writeWhitelistedModules toAdd toRemove) s).2.whitelistedModules

/-- The list is checked before it is saved. -/
theorem atomic_writeWhitelistedModules (toAdd toRemove : List Addr) :
    Atomic (writeWhitelistedModules toAdd toRemove) :=
  atomic_reading_bind fun _ => atomic_lift_bind fun _ => atomic_lift_bind fun _ =>
    atomic_lift_bind fun _ => atomic_lift_bind fun _ => (total_write _).atomic

theorem storedWhitelist_of_ok {s s' : AccountState} {toAdd toRemove : List Addr}
    (h : updateWhitelistedModules s toAdd toRemove = .ok s') :
    storedWhitelist s toAdd toRemove = s'.whitelistedModules := by
  rw [storedWhitelist, commit_eq_ok.mp h]

theorem storedWhitelist_of_error {s : AccountState} {toAdd toRemove : List Addr} {e : AccountError}
    (h : updateWhitelistedModules s toAdd toRemove = .error e) :
    storedWhitelist s toAdd toRemove = s.whitelistedModules := by
  obtain ⟨stored, failed⟩ := commit_eq_error.mp h
  rw [storedWhitelist, failed, atomic_writeWhitelistedModules toAdd toRemove s e stored failed]

/-- An update of the whitelist is accepted exactly when it fits the list, and is then
    carried out in full. -/
theorem whitelist_update {s : AccountState} {toAdd toRemove : List Addr}
    (distinct : s.whitelistedModules.Nodup)
    (small : s.whitelistedModules.length ≤ WHITELIST_SIZE_LIMIT) :
    ((updateWhitelistedModules s toAdd toRemove).isOk = true ↔
        WhitelistUpdate s.whitelistedModules toAdd toRemove) ∧
      (∀ s', updateWhitelistedModules s toAdd toRemove = .ok s' →
        s' = { s with whitelistedModules := storedWhitelist s toAdd toRemove } ∧
          storedWhitelist s toAdd toRemove =
            (s.whitelistedModules ++ toAdd).filter (· ∉ toRemove)) ∧
      (∀ e, updateWhitelistedModules s toAdd toRemove = .error e →
        storedWhitelist s toAdd toRemove = s.whitelistedModules) ∧
      (storedWhitelist s toAdd toRemove).Nodup ∧
      (storedWhitelist s toAdd toRemove).length ≤ WHITELIST_SIZE_LIMIT := by
  cases call : updateWhitelistedModules s toAdd toRemove with
  | error e =>
    have refused : ¬ WhitelistUpdate s.whitelistedModules toAdd toRemove := by
      intro accepted
      have ok := (updateWhitelistedModules_iff distinct).mpr ⟨accepted, rfl⟩
      rw [call] at ok
      cases ok
    simp [storedWhitelist_of_error call, Except.isOk, Except.toBool, refused, distinct, small]
  | ok s' =>
    obtain ⟨accepted, rfl⟩ := (updateWhitelistedModules_iff distinct).mp call
    have removed := accepted.length_removed distinct
    have fits := accepted.fits
    rw [storedWhitelist_of_ok call]
    dsimp only
    refine ⟨by simp [Except.isOk, Except.toBool, accepted], ?_, ?_,
      (accepted.all_nodup distinct).filter _, by omega⟩
    · intro s' same
      exact ⟨(Except.ok.inj same).symm, rfl⟩
    · intro e failed
      cases failed

/-! ## Installing -/

/-- The permissions of a batch. -/
def whitelistOf (plans : List InstallPlan) : List Addr :=
  (plans.filter (·.module.shouldBeWhitelisted)).map (·.addr)

/-- No module of the batch that should be whitelisted is listed again further down. -/
def NotShadowed (modules : List Module) : Prop :=
  modules.Pairwise fun m later => m.shouldBeWhitelisted → later.info.moduleId ≠ m.info.moduleId

instance (modules : List Module) : Decidable (NotShadowed modules) :=
  inferInstanceAs (Decidable (modules.Pairwise fun m later =>
    m.shouldBeWhitelisted → later.info.moduleId ≠ m.info.moduleId))

omit [Crates] in
/-- The plans of a batch are stored one after another. -/
theorem Tracked.install {plans : List InstallPlan} {modules : Map String Addr}
    {whitelist : List Addr} (tracked : Tracked installedAs modules whitelist)
    (without : ∀ plan ∈ plans, permission installedAs modules plan.module.info.moduleId = none)
    (once : NotShadowed (plans.map (·.module)))
    (fresh : (whitelist ++ whitelistOf plans).Nodup) :
    Tracked (recordModules installedAs (plans.map (·.module)))
      (insertAll modules (plans.map fun p => (p.module.info.moduleId, p.addr)))
      (whitelist ++ whitelistOf plans) := by
  induction plans generalizing installedAs modules whitelist with
  | nil => simpa [recordModules, whitelistOf] using tracked
  | cons plan rest ih =>
    simp only [NotShadowed, List.map_cons, List.pairwise_cons, List.mem_map,
      forall_exists_index, and_imp, forall_apply_eq_imp_iff₂] at once
    obtain ⟨notLater, once⟩ := once
    have without₁ := without plan List.mem_cons_self
    have domain : ∀ id, id ∈ modules.insert plan.module.info.moduleId plan.addr ↔
        id ∈ installedAs.insert plan.module.info.moduleId plan.module := by
      intro id
      rw [AList.mem_insert, AList.mem_insert, tracked.domain]
    -- the modules further down have no permission after this one either
    have laterWithout : ∀ later ∈ rest, permission
        (installedAs.insert plan.module.info.moduleId plan.module)
        (modules.insert plan.module.info.moduleId plan.addr) later.module.info.moduleId = none := by
      intro later member
      rw [permission_insert, Function.update_apply]
      split
      · rename_i same
        split
        · rename_i whitelisted
          exact absurd same (notLater later member whitelisted)
        · rfl
      · exact without later (List.mem_cons_of_mem plan member)
    by_cases whitelisted : plan.module.shouldBeWhitelisted = true
    · have isListed : whitelistOf (plan :: rest) = plan.addr :: whitelistOf rest := by
        simp [whitelistOf, whitelisted]
      rw [isListed, List.append_cons] at fresh ⊢
      have new : plan.addr ∉ whitelist := by
        intro old
        have first := (List.nodup_append.mp fresh).1
        exact (List.nodup_append.mp first).2.2 plan.addr old plan.addr (List.mem_singleton_self _) rfl
      refine ih ⟨domain, ?_⟩ laterWithout once fresh
      rw [permission_insert, if_pos whitelisted]
      exact tracked.listed.grant without₁ new
    · have notListed : whitelistOf (plan :: rest) = whitelistOf rest := by
        simp [whitelistOf, whitelisted]
      rw [notListed] at fresh ⊢
      refine ih ⟨domain, ?_⟩ laterWithout once fresh
      rw [permission_insert, if_neg whitelisted]
      exact tracked.listed.keep without₁

theorem Tracked.installModules {info : MessageInfo} {modules : List ModuleInstallConfig}
    {msg : CosmosMsg} (tracked : Tracked installedAs s.accountModules s.whitelistedModules)
    (once : NotShadowed (resolved env (modules.map (·.info))))
    (h : installModules env info modules s = .ok (s', msg)) :
    Tracked (recordModules installedAs (resolved env (modules.map (·.info))))
      s'.accountModules s'.whitelistedModules := by
  simp only [Account.installModules, installModulesInternal, bind_eq_ok, pure_eq_ok,
    Prod.mk.injEq] at h
  obtain ⟨_, _, plans, planned, s₁, whitelisted, s₂, stored, rfl, _⟩ := h
  obtain ⟨responses, found, sameModules, fresh⟩ := planModules_eq_ok planned
  obtain ⟨rfl, distinct⟩ := updateWhitelistedModules_spec whitelisted tracked.listed.nodup
  obtain rfl := updateModuleAddresses_eq_ok stored
  rw [resolved_eq found, ← sameModules] at once ⊢
  have nothingRemoved : ∀ list : List Addr, list.filter (· ∉ ([] : List Addr)) = list := by
    intro list
    simp
  simp only [nothingRemoved]
  refine tracked.install ?_ once distinct
  intro plan member
  have notInstalled := fresh plan member
  rw [tracked.domain, ← AList.lookup_eq_none] at notInstalled
  simp [permission, notInstalled]

/-! ## Upgrading -/

/-- Where a module is replaced, the permission is moved, or there is none to move. -/
theorem Tracked.adapter {m old : Module} {oldAddr newAddr : Addr} {msgs : List CosmosMsg}
    (tracked : Tracked installedAs s.accountModules s.whitelistedModules)
    (installed : s.accountModules.lookup m.info.moduleId = some oldAddr)
    (recorded : installedAs.lookup m.info.moduleId = some old)
    (was : old.shouldBeWhitelisted = true) (is : m.shouldBeWhitelisted = true)
    (h : handleAdapterMigration env s m.info oldAddr newAddr = .ok (s', msgs)) :
    Tracked (installedAs.insert m.info.moduleId m) s'.accountModules s'.whitelistedModules := by
  simp only [handleAdapterMigration, replaceAdapter, bind_eq_ok, pure_eq_ok, Prod.mk.injEq] at h
  obtain ⟨_, _, _, _, _, _, s₁, moved, _, _, s₂, listed, rfl, _⟩ := h
  obtain rfl := updateModuleAddresses_eq_ok moved
  obtain ⟨rfl, distinct⟩ := updateWhitelistedModules_spec listed tracked.listed.nodup
  simp only [addModuleUpgradeToContext, insertAll_cons, insertAll_nil] at distinct ⊢
  refine ⟨?_, ?_⟩
  · intro id
    rw [AList.mem_insert, AList.mem_insert, tracked.domain]
  · rw [permission_insert, if_pos is]
    refine tracked.listed.move ?_ ?_
    · rw [permission_of_recorded recorded, if_pos was, installed]
    · intro already
      exact (List.nodup_append.mp distinct).2.2 newAddr already newAddr
        (List.mem_singleton_self _) rfl

theorem Tracked.upgrade {info : ModuleInfo} {migrateMsg : Option Binary} {msgs : List CosmosMsg}
    {m old : Module} {config : ModuleConfiguration}
    (tracked : Tracked installedAs s.accountModules s.whitelistedModules)
    (found : env.registry.queryModule info = .ok (m, config))
    (recorded : installedAs.lookup m.info.moduleId = some old)
    (alike : old.shouldBeWhitelisted = m.shouldBeWhitelisted)
    (h : setMigrateMsgsAndContext env s info migrateMsg = .ok (s', msgs)) :
    Tracked (installedAs.insert m.info.moduleId m) s'.accountModules s'.whitelistedModules := by
  simp only [setMigrateMsgsAndContext, loadModuleAddr, bind_eq_ok, okOr_eq_ok] at h
  obtain ⟨oldAddr, installed, cw2, _, ⟨m', config'⟩, requested, migration⟩ := h
  obtain ⟨rfl, rfl⟩ : m = m' ∧ config = config' := by
    simpa using found.symm.trans (queryModule_eq_ok requested)
  rw [← RegistryState.queryModule_moduleId found] at installed
  -- an app or a standalone stays where it is
  have stays : ∀ t : AccountState, t.accountModules = s.accountModules →
      t.whitelistedModules = s.whitelistedModules →
      Tracked (installedAs.insert m.info.moduleId m) t.accountModules t.whitelistedModules := by
    intro t sameModules sameList
    rw [sameModules, sameList]
    refine ⟨?_, by rw [permission_record recorded alike]; exact tracked.listed⟩
    intro id
    rw [AList.mem_insert, tracked.domain]
    constructor
    · exact .inr
    · rintro (rfl | there)
      · exact mem_of_lookup recorded
      · exact there
  dsimp only at migration
  split at migration
  · rename_i newAddr isAdapter
    have is : m.shouldBeWhitelisted = true := by simp [Module.shouldBeWhitelisted, isAdapter]
    exact tracked.adapter installed recorded (alike.trans is) is migration
  · simp only [handleAppMigration, bind_eq_ok, pure_eq_ok, Prod.mk.injEq] at migration
    obtain ⟨_, _, _, _, _, _, rfl, _⟩ := migration
    exact stays _ rfl rfl
  · simp only [bind_eq_ok, pure_eq_ok, Prod.mk.injEq] at migration
    obtain ⟨_, _, rfl, _⟩ := migration
    exact stays _ rfl rfl
  · cases migration

omit [Crates] in
theorem recordModules_cons {m : Module} {ms : List Module} :
    recordModules installedAs (m :: ms) =
      recordModules (installedAs.insert m.info.moduleId m) ms := rfl

theorem replacements_cons_account {entry : ModuleInfo × Option Binary}
    {modules : List (ModuleInfo × Option Binary)} (isAccount : entry.1.moduleId = ACCOUNT) :
    replacements env (entry :: modules) = replacements env modules := by
  simp [replacements, isAccount]

theorem replacements_cons_module {entry : ModuleInfo × Option Binary}
    {modules : List (ModuleInfo × Option Binary)} {m : Module} {config : ModuleConfiguration}
    (isModule : entry.1.moduleId ≠ ACCOUNT)
    (found : env.registry.queryModule entry.1 = .ok (m, config)) :
    replacements env (entry :: modules) = m :: replacements env modules := by
  have here := toOption_eq_some.mpr found
  simp [replacements, resolved, isModule, here]

/-- The loop of an upgrade.  A module whose turn has not come is on record as before
    the batch, so that each replacement is compared with what it replaces. -/
theorem Tracked.upgradeLoop {loop loop' : UpgradeLoop}
    {modules : List (ModuleInfo × Option Binary)}
    (tracked : Tracked installedAs loop.state.accountModules loop.state.whitelistedModules)
    (alike : ∀ m ∈ replacements env modules, m.info.moduleId ∉ loop.upgradedModuleIds →
      ∀ old ∈ installedAs.lookup m.info.moduleId,
        old.shouldBeWhitelisted = m.shouldBeWhitelisted)
    (h : modules.foldlM (upgradeOne env) loop = .ok loop') :
    Tracked (recordModules installedAs (replacements env modules))
      loop'.state.accountModules loop'.state.whitelistedModules := by
  induction modules generalizing installedAs loop with
  | nil =>
    simp only [List.foldlM_nil, pure_eq_ok] at h
    exact h ▸ tracked
  | cons entry rest ih =>
    obtain ⟨loop₁, first, later⟩ := foldlM_cons_eq_ok.mp h
    obtain ⟨notYet, done, ⟨isAccount, same, _⟩ | ⟨isModule, _, migrated, _⟩⟩ :=
      upgradeOne_eq_ok first
    · rw [replacements_cons_account isAccount] at alike ⊢
      refine ih (same ▸ tracked) ?_ later
      intro m member waiting
      refine alike m member fun already => waiting ?_
      rw [done]
      exact List.mem_append_left _ already
    · obtain ⟨_, m, config, found, present, _⟩ := setMigrateMsgsAndContext_eq_ok migrated
      have sameId := RegistryState.queryModule_moduleId found
      rw [replacements_cons_module isModule found] at alike ⊢
      rw [tracked.domain, mem_iff_lookup] at present
      obtain ⟨old, recorded⟩ := present
      have agrees := alike m List.mem_cons_self (sameId ▸ notYet) old recorded
      rw [recordModules_cons]
      refine ih (tracked.upgrade found recorded agrees migrated) ?_ later
      intro m' member waiting
      rw [done, List.mem_append, List.mem_singleton, not_or] at waiting
      rw [AList.lookup_insert_ne (sameId ▸ waiting.2)]
      exact alike m' (List.mem_cons_of_mem m member) waiting.1

theorem Tracked.upgradeModules {info : MessageInfo} {modules : List (ModuleInfo × Option Binary)}
    {msgs : List CosmosMsg}
    (tracked : Tracked installedAs s.accountModules s.whitelistedModules)
    (alike : ∀ m ∈ replacements env modules, ∀ old ∈ installedAs.lookup m.info.moduleId,
      old.shouldBeWhitelisted = m.shouldBeWhitelisted)
    (h : upgradeModules env info modules s = .ok (s', msgs)) :
    Tracked (recordModules installedAs (replacements env modules))
      s'.accountModules s'.whitelistedModules := by
  simp only [Account.upgradeModules, bind_eq_ok, pure_eq_ok, Prod.mk.injEq] at h
  obtain ⟨_, _, _, _, loop, looped, _, _, rfl, _⟩ := h
  exact tracked.upgradeLoop (fun m member _ => alike m member) looped

/-! ## Uninstalling -/

theorem uninstallModule_installed {info : MessageInfo} {moduleId : String}
    (h : uninstallModule env info moduleId s = .ok s') : moduleId ∈ s.accountModules := by
  simp only [uninstallModule, loadModuleData, loadModuleAddr, bind_eq_ok, okOr_eq_ok] at h
  obtain ⟨_, _, s₁, cleared, _, ⟨addr, installed, _⟩, _⟩ := h
  rw [(clearDependents_eq_ok cleared).1] at installed
  exact mem_of_lookup installed

theorem Tracked.uninstallModule {info : MessageInfo} {moduleId : String} {old : Module}
    (tracked : Tracked installedAs s.accountModules s.whitelistedModules)
    (recorded : installedAs.lookup moduleId = some old)
    (reported : ∀ data, loadModuleData env.querier s moduleId = .ok data →
      ModuleInfo.fromId data.module (.Version data.version) = .ok old.info)
    (alike : ∀ m config, env.registry.queryModule old.info = .ok (m, config) →
      m.shouldBeWhitelisted = old.shouldBeWhitelisted)
    (h : uninstallModule env info moduleId s = .ok s') :
    Tracked (installedAs.erase moduleId) s'.accountModules s'.whitelistedModules := by
  simp only [Account.uninstallModule, Env.queryRegistryModule, bind_eq_ok, mapError_eq_ok,
    pure_eq_ok] at h
  obtain ⟨_, _, s₁, cleared, data, loaded, moduleInfo, named, ⟨m, config⟩, found, s₂, removed,
    rfl⟩ := h
  have sameState : s₁ = { s with dependents := s₁.dependents } := (clearDependents_eq_ok cleared).1
  have loadedBefore : loadModuleData env.querier s moduleId = .ok data := by
    rw [sameState] at loaded
    exact loaded
  obtain rfl : old.info = moduleInfo := by
    simpa using (reported data loadedBefore).symm.trans named
  have same := alike m config found
  have domain : ∀ id, id ∈ s.accountModules.erase moduleId ↔ id ∈ installedAs.erase moduleId := by
    intro id
    rw [AList.mem_erase, AList.mem_erase, tracked.domain]
  unfold removeFromWhitelist at removed
  rw [same] at removed
  split at removed
  · rename_i whitelisted
    simp only [loadModuleAddr, bind_eq_ok, okOr_eq_ok] at removed
    obtain ⟨addr, installed, written⟩ := removed
    rw [sameState] at written installed
    obtain ⟨rfl, _⟩ := updateWhitelistedModules_spec written tracked.listed.nodup
    refine ⟨domain, ?_⟩
    simp only [List.append_nil]
    rw [permission_erase]
    refine tracked.listed.revoke ?_
    rw [permission_of_recorded recorded, if_pos whitelisted]
    exact installed
  · rename_i notWhitelisted
    obtain rfl := Except.ok.inj removed
    rw [sameState]
    refine ⟨domain, ?_⟩
    rw [permission_erase]
    refine tracked.listed.keep ?_
    rw [permission_of_recorded recorded, if_neg notWhitelisted]

/-! ## Runs -/

/-- The whitelist holds exactly the addresses of the installed modules whose
    registered reference should be whitelisted. -/
def WhitelistExact (w : World) : Prop :=
  ∀ addr, addr ∈ w.state.whitelistedModules ↔
    ∃ id m, w.installedAs.lookup id = some m ∧ m.shouldBeWhitelisted = true ∧
      w.state.accountModules.lookup id = some addr

theorem Tracked.exact {w : World}
    (tracked : Tracked w.installedAs w.state.accountModules w.state.whitelistedModules) :
    WhitelistExact w := by
  intro addr
  rw [tracked.listed.mem_iff]
  constructor
  · rintro ⟨id, permitted⟩
    unfold permission at permitted
    split at permitted
    · rename_i whitelisted
      obtain ⟨m, recorded, should⟩ := (Option.any_eq_true _ _).mp whitelisted
      exact ⟨id, m, recorded, should, permitted⟩
    · cases permitted
  · rintro ⟨id, m, recorded, should, installed⟩
    refine ⟨id, ?_⟩
    rw [permission_of_recorded recorded, if_pos should, installed]

/-- A module that is uninstalled reports the version it is registered under. -/
def ReportsRegistered (w : World) (op : Operation) : Prop :=
  match op.msg with
  | .UninstallModule id => ∀ old ∈ w.installedAs.lookup id,
      ∀ data ∈ (loadModuleData op.env.querier w.state id).toOption,
        ModuleInfo.fromId data.module (.Version data.version) = .ok old.info
  | _ => True

/-- What the three operations leave to their callers: no module of an installation
    that should be whitelisted is listed again further down; a module is replaced by
    one that should be whitelisted if it should be itself; and when a module is
    uninstalled, its version is still registered with such a reference or not as it
    was, and one without a permission has not the address of one with it. -/
def WhitelistSound (w : World) (op : Operation) : Prop :=
  match op.msg with
  | .InstallModules modules => NotShadowed (resolved op.env (modules.map (·.info)))
  | .Upgrade modules => ∀ m ∈ replacements op.env modules,
      ∀ old ∈ w.installedAs.lookup m.info.moduleId,
        old.shouldBeWhitelisted = m.shouldBeWhitelisted
  | .UninstallModule id => ∀ old ∈ w.installedAs.lookup id,
      (∀ found ∈ (op.env.registry.queryModule old.info).toOption,
        found.1.shouldBeWhitelisted = old.shouldBeWhitelisted) ∧
      (old.shouldBeWhitelisted = false →
        ∀ addr ∈ w.state.accountModules.lookup id, addr ∉ w.state.whitelistedModules)

instance (w : World) (op : Operation) : Decidable (ReportsRegistered w op) := by
  unfold ReportsRegistered
  split <;> infer_instance

instance (w : World) (op : Operation) : Decidable (WhitelistSound w op) := by
  unfold WhitelistSound
  split <;> infer_instance

variable {w w' : World} {op : Operation} {q : Querier} {out : Outcome}

/-- The reply leaves the modules and the whitelist alone. -/
theorem runReply_frame {id : Option ReplyId} (h : runReply q s id = .ok s') :
    s'.accountModules = s.accountModules ∧ s'.whitelistedModules = s.whitelistedModules := by
  match id with
  | none =>
    obtain rfl := Except.ok.inj h
    exact ⟨rfl, rfl⟩
  | some .RegisterModulesDependencies =>
    rw [(registerDependencies_frame h).1]
    exact ⟨rfl, rfl⟩
  | some .AssertModuleDependenciesRequirements =>
    rw [assertModulesDependencyRequirements_eq_ok h]
    exact ⟨rfl, rfl⟩

/-- The condition on an operation. -/
def KeepsWhitelist (w : World) (op : Operation) : Prop := ReportsRegistered w op ∧ WhitelistSound w op

instance (w : World) (op : Operation) : Decidable (KeepsWhitelist w op) :=
  inferInstanceAs (Decidable (_ ∧ _))

/-- The whitelist holds the permissions of the recorded modules. -/
def World.Tracked (w : World) : Prop :=
  Account.Tracked w.installedAs w.state.accountModules w.state.whitelistedModules

/-- The commands write the modules and the whitelist, and nothing else does. -/
theorem keeps_tracked : Keeps KeepsWhitelist World.Tracked where
  command {w op response} meets tracked handled authAdmin := by
    obtain ⟨reports, sound⟩ := meets
    unfold World.Tracked at tracked ⊢
    unfold ReportsRegistered at reports
    unfold WhitelistSound at sound
    unfold Operation.record
    cases isMsg : op.msg with
    | InstallModules modules =>
      simp only [isMsg] at handled sound ⊢
      simp only [handle, bind_eq_ok, pure_eq_ok] at handled
      obtain ⟨⟨_, _⟩, installs, rfl⟩ := handled
      exact tracked.installModules sound installs
    | UninstallModule moduleId =>
      simp only [isMsg] at handled sound reports ⊢
      simp only [handle, bind_eq_ok, pure_eq_ok] at handled
      obtain ⟨_, uninstalls, rfl⟩ := handled
      have present := uninstallModule_installed uninstalls
      rw [tracked.domain, mem_iff_lookup] at present
      obtain ⟨old, onRecord⟩ := present
      refine tracked.uninstallModule onRecord ?_ ?_ uninstalls
      · exact fun data loaded => reports old onRecord data (toOption_eq_some.mpr loaded)
      · exact fun m config found => (sound old onRecord).1 (m, config) (toOption_eq_some.mpr found)
    | Upgrade modules =>
      simp only [isMsg] at handled sound ⊢
      simp only [handle, bind_eq_ok, pure_eq_ok] at handled
      obtain ⟨⟨_, _⟩, upgrades, rfl⟩ := handled
      exact tracked.upgradeModules sound upgrades
  migration tracked := tracked
  reply tracked replied := by
    obtain ⟨sameModules, sameList⟩ := runReply_frame replied
    unfold World.Tracked at tracked ⊢
    dsimp only
    rw [sameModules, sameList]
    exact tracked

/-- What an uninstalled module was called by is not whitelisted any more. -/
theorem World.Tracked.uninstalled {id : String} {addr : Addr} (tracked : w.Tracked)
    (meets : AllMeet KeepsWhitelist w op) (isMsg : op.msg = .UninstallModule id)
    (installed : w.state.accountModules.lookup id = some addr)
    (ok : Account.exec op w = .ok (w', out)) : addr ∉ w'.state.whitelistedModules := by
  have after : w'.Tracked := (exec_carries keeps_tracked meets tracked ok).1
  obtain ⟨s, authAdmin, uninstalls, rfl⟩ := exec_of_uninstall isMsg ok
  have modules : s.accountModules = w.state.accountModules.erase id :=
    (uninstallModule_eq_ok uninstalls).2.2.1
  have sound := meets.1.2
  intro member
  obtain ⟨other, permitted⟩ := (after.listed.mem_iff addr).mp member
  dsimp only at permitted
  rw [modules, permission_erase, Function.update_apply] at permitted
  split at permitted
  · cases permitted
  · rename_i isOther
    obtain ⟨old, onRecord⟩ := mem_iff_lookup.mp ((tracked.domain id).mp (mem_of_lookup installed))
    simp only [WhitelistSound, isMsg] at sound
    cases should : old.shouldBeWhitelisted with
    | true =>
      refine isOther (tracked.listed.distinct permitted ?_)
      rw [permission_of_recorded onRecord, if_pos should, installed]
    | false =>
      exact (sound old onRecord).2 should addr installed ((tracked.listed.mem_iff addr).mpr
        ⟨other, permitted⟩)

variable [Xion]

/-- Who is neither whitelisted nor the owner nor the account itself cannot have it
    send messages. -/
theorem executeMsgs_refused {env : CallEnv} {t : AccountStorage} {sender : Addr}
    {msgs : List ChainMsg} (notListed : sender ∉ t.whitelistedModules)
    (notOwner : (assertOwner env.toEnv t.toAccountState sender).isOk = false)
    (notSelf : sender ≠ env.address) :
    executeMsgs env sender msgs t = .error .SenderNotWhitelistedOrOwner := by
  simp [executeMsgs, assertWhitelistedOwnerOrSelf, ensure, notListed, notOwner, notSelf, bind,
    Except.bind]

/-- In every run from an account without modules whose operations are sound, the
    whitelist holds exactly the permissions of the installed modules, also where an
    operation starts within another one; and the address of a module that was uninstalled
    cannot call `Execute`, unless it is the owner's or the account's own. -/
theorem whitelist_tracks_modules {s : AccountState} (noModules : s.accountModules = ∅)
    (noWhitelist : s.whitelistedModules = []) {ops : List Operation}
    (along : AlongAccepted exec (AllMeet KeepsWhitelist) ⟨s, ∅⟩ ops) :
    WhitelistExact (run exec ⟨s, ∅⟩ ops) ∧
      (∀ e ∈ history exec ⟨s, ∅⟩ ops, ∀ inner ∈ e.2.2.nested, WhitelistExact inner.1) ∧
      ∀ before op id addr w' out, ops = before ++ [op] → op.msg = .UninstallModule id →
        (run exec ⟨s, ∅⟩ before).state.accountModules.lookup id = some addr →
        exec op (run exec ⟨s, ∅⟩ before) = .ok (w', out) →
        ∀ (env : CallEnv) (t : AccountStorage) (msgs : List ChainMsg),
          t.toAccountState = w'.state → (assertOwner env.toEnv t.toAccountState addr).isOk = false →
          addr ≠ env.address →
          executeMsgs env addr msgs t = .error .SenderNotWhitelistedOrOwner := by
  have start : World.Tracked ⟨s, ∅⟩ := by
    unfold World.Tracked
    rw [noModules, noWhitelist]
    refine ⟨fun id => .rfl, ?_, List.nodup_nil, ?_⟩
    · simp [permission]
    · simp [permission]
  have body : ∀ (w : World) op w' (out : Outcome), AllMeet KeepsWhitelist w op → w.Tracked →
      exec op w = .ok (w', out) → w'.Tracked :=
    fun _ _ _ _ meets tracked ok => (exec_carries keeps_tracked meets tracked ok).1
  have all : ∀ earlier, AlongAccepted exec (AllMeet KeepsWhitelist) ⟨s, ∅⟩ earlier →
      (run exec ⟨s, ∅⟩ earlier).Tracked :=
    fun _ along => run_invariant_accepted body start along
  refine ⟨(all ops along).exact, fun e executed inner listed => ?_, ?_⟩
  · have meets := alongAccepted_history along executed
    have tracked : e.1.Tracked := history_invariant body start along executed
    obtain ⟨_, _, w', _, _, ok⟩ := of_mem_history executed
    exact ((exec_carries keeps_tracked meets tracked ok).2.2 inner listed).1.exact
  · rintro before op id addr w' out rfl isMsg installed ok env t msgs same notOwner notSelf
    obtain ⟨earlier, here, _⟩ := alongAccepted_append.mp along
    have gone := (all before earlier).uninstalled (here ⟨_, ok⟩) isMsg installed ok
    exact executeMsgs_refused (same ▸ gone) notOwner notSelf

end Permissions

section Run

attribute [local instance] releaseCrates noAuthenticators

/-- The bot moves to its next address while the library is added and taken out again. -/
theorem whitelist_update_moves_bot :
    WhitelistUpdate [botAddr] [nextBotAddr, libAddr] [libAddr, botAddr] ∧
      (updateWhitelistedModules { emptyAccount with whitelistedModules := [botAddr] }
        [nextBotAddr, libAddr] [libAddr, botAddr]).isOk = true ∧
      storedWhitelist { emptyAccount with whitelistedModules := [botAddr] }
        [nextBotAddr, libAddr] [libAddr, botAddr] = [nextBotAddr] := by
  have distinct : [botAddr].Nodup := by decide
  have updated : (updateWhitelistedModules { emptyAccount with whitelistedModules := [botAddr] }
      [nextBotAddr, libAddr] [libAddr, botAddr]).isOk = true ↔
        WhitelistUpdate [botAddr] [nextBotAddr, libAddr] [libAddr, botAddr] :=
    (whitelist_update distinct (by decide)).1
  exact ⟨updated.mp (by decide), by decide, by decide⟩

def uninstallBot : Operation :=
  sampleOperation (libContract 8 "1.1.0") (libContract 8 "1.1.0") (.UninstallModule "pub:bot")

/-- Both modules are upgraded, and the adapter is uninstalled. -/
theorem whitelist_tracks_modules_uninstall :
    Along exec (AllMeet KeepsWhitelist) ⟨emptyAccount, ∅⟩ [installBot, upgradeBoth, uninstallBot] ∧
      (run exec ⟨emptyAccount, ∅⟩ [installBot, upgradeBoth]).state.whitelistedModules =
        [nextBotAddr] ∧
      WhitelistExact (run exec ⟨emptyAccount, ∅⟩ [installBot, upgradeBoth, uninstallBot]) := by
  have along : Along exec (AllMeet KeepsWhitelist) ⟨emptyAccount, ∅⟩
      [installBot, upgradeBoth, uninstallBot] := by decide
  exact ⟨along, by decide, (whitelist_tracks_modules rfl rfl along.accepted).1⟩

/-- `pub:lib` is an app at version 1.0.0 and a standalone at version 2.0.0. -/
def appThenStandalone : RegistryState :=
  { sampleRegistry with
    registeredModules := insertAll ∅
      [((libInfo "1.0.0").key, .App 7), ((libInfo "2.0.0").key, .Standalone 9)] }

def onAppThenStandalone (op : Operation) : Operation :=
  { op with env := { op.env with registry := appThenStandalone } }

def installApp : Operation :=
  onAppThenStandalone (sampleOperation none (libContract 7 "1.0.0") (.InstallModules
    [{ info := libInfo "1.0.0", initMsg := some [] }]))

def upgradeApp : Operation := onAppThenStandalone upgradeLib

def uninstallLib : Operation :=
  onAppThenStandalone (sampleOperation (libContract 9 "2.0.0") (libContract 9 "2.0.0")
    (.UninstallModule "pub:lib"))

/-- An app becomes a standalone and stays whitelisted; when it is uninstalled, no
    module is installed, and its address can still call `Execute`. -/
theorem uninstalled_app_still_whitelisted :
    Along exec ReportsRegistered ⟨emptyAccount, ∅⟩ [installApp, upgradeApp, uninstallLib] ∧
      ¬ WhitelistExact (run exec ⟨emptyAccount, ∅⟩ [installApp, upgradeApp]) ∧
      (run exec ⟨emptyAccount, ∅⟩ [installApp, upgradeApp]).state.accountModules.lookup "pub:lib" =
        some libAddr ∧
      (run exec ⟨emptyAccount, ∅⟩ [installApp, upgradeApp, uninstallLib]).state.accountModules.keys =
        [] ∧
      (executeMsgs Entry.sampleCallEnv libAddr [] (Entry.storageOf
        (run exec ⟨emptyAccount, ∅⟩ [installApp, upgradeApp, uninstallLib]).state)).isOk := by
  refine ⟨by decide, ?_, by decide, by decide, by decide⟩
  intro exactly
  have listed : libAddr ∈
      (run exec ⟨emptyAccount, ∅⟩ [installApp, upgradeApp]).state.whitelistedModules := by decide
  obtain ⟨id, m, recorded, should, _⟩ := (exactly libAddr).mp listed
  have onlyLib : (run exec ⟨emptyAccount, ∅⟩ [installApp, upgradeApp]).installedAs.keys =
      ["pub:lib"] := by decide
  have isLib : id ∈ (run exec ⟨emptyAccount, ∅⟩ [installApp, upgradeApp]).installedAs.keys :=
    mem_of_lookup recorded
  rw [onlyLib, List.mem_singleton] at isLib
  have standalone : (run exec ⟨emptyAccount, ∅⟩ [installApp, upgradeApp]).installedAs.lookup
      "pub:lib" = some ⟨libInfo "2.0.0", .Standalone 9⟩ := by decide
  rw [isLib, standalone, Option.some.injEq] at recorded
  subst recorded
  cases should

end Run

end AbstractFramework.Account
