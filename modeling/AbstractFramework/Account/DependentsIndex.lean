import AbstractFramework.Account.Dependencies

/-! # The index of dependents

In a run of apps and adapters, of which none is interrupted by another operation,
`DEPENDENTS` has for each module id the installed modules that report a dependency on it.  It is an index of the package sets of the
library, and this module is about when it stays exact.

An upgrade compares the old dependencies with the new ones as pairs of id and
requirement, but the index knows ids only.  `KeepsIndexed` is the condition under
which the difference of the pairs is right for the ids.  The `unwrap` on the index
in the reply to an upgrade never fails while the index is exact.
-/

namespace AbstractFramework.Account

open AbstractFramework Fallible Storage Machine Effects

section Index

variable [Crates] (depsOf : Module → List Dependency)

/-! ## Runs of apps and adapters -/

def isAppOrAdapter (m : Module) : Bool :=
  match m.reference with
  | .App _ | .Adapter _ => true
  | _ => false

/-- The registered versions that the operation installs or upgrades to. -/
def Operation.modules (op : Operation) : List Module :=
  match op.msg with
  | .InstallModules modules => resolved op.env (modules.map (·.info))
  | .UninstallModule _ => []
  | .Upgrade modules => replacements op.env modules

def AppsAndAdapters (op : Operation) : Prop := ∀ m ∈ op.modules, isAppOrAdapter m

instance (op : Operation) : Decidable (AppsAndAdapters op) :=
  inferInstanceAs (Decidable (∀ m ∈ op.modules, isAppOrAdapter m))

/-- What a module reports changes with its version only. -/
def Steady (w : World) (op : Operation) : Prop :=
  Declares depsOf op.env.querier w ∧
    ∀ result ∈ (exec op w).toOption, Declares depsOf result.2.querier result.1

instance (w : World) (op : Operation) : Decidable (Steady depsOf w op) :=
  inferInstanceAs (Decidable (_ ∧ ∀ result ∈ (exec op w).toOption, _))

/-- A module is in the index of an id exactly if it is installed and now reports a dependency
    with that id. -/
def IndexExact (q : Querier) (s : AccountState) : Prop :=
  ∀ id on, id ∈ dependentsOf s.dependents on ↔
    ∃ addr, s.accountModules.lookup id = some addr ∧
      ∃ dep ∈ reportedDependencies q addr, dep.id = on

/-- Of each replaced module, a requirement that stays has another one with the same id that is
    new, or none with this id is dropped. -/
def KeepsIndexed (w : World) (op : Operation) : Prop :=
  ∀ new ∈ op.upgrades, ∀ old ∈ w.installedAs.lookup new.info.moduleId,
    Packages.DiffSound (·.id) (depsOf old) (depsOf new)

instance (old new : List Dependency) : Decidable (Packages.DiffSound (·.id) old new) :=
  inferInstanceAs (Decidable (∀ dep ∈ new,
    (∃ other ∈ new, other ∉ old ∧ other.id = dep.id) ∨
      ∀ other ∈ old, other.id = dep.id → other ∈ new))

instance (w : World) (op : Operation) : Decidable (KeepsIndexed depsOf w op) :=
  inferInstanceAs (Decidable (∀ new ∈ op.upgrades,
    ∀ old ∈ w.installedAs.lookup new.info.moduleId,
      Packages.DiffSound (·.id) (depsOf old) (depsOf new)))

/-- What holds between the operations of a run whose index has stayed exact. -/
structure Indexes (w : World) : Prop where
  domain : ∀ id, id ∈ w.state.accountModules ↔ id ∈ w.installedAs
  exact : Packages.Exact (catalog depsOf) w.release (dependentsOf w.state.dependents)
  idle : w.state.migrateContext = []

variable {depsOf} {w w' : World} {op : Operation} {q : Querier} {out : Outcome}

omit [Crates] in
theorem hasDependencies_of_isAppOrAdapter {m : Module} (h : isAppOrAdapter m) :
    hasDependencies m ∧ isStandalone m = false := by
  unfold isAppOrAdapter at h
  unfold hasDependencies isStandalone
  cases reference : m.reference <;> simp_all

/-- While modules report what their versions declare, the index of the account is exact if
    that of the installed versions is. -/
theorem indexExact_iff (declares : Declares depsOf q w)
    (domain : ∀ id, id ∈ w.state.accountModules ↔ id ∈ w.installedAs) :
    IndexExact q w.state ↔
      Packages.Exact (catalog depsOf) w.release (dependentsOf w.state.dependents) := by
  have same : ∀ id on, (∃ addr, w.state.accountModules.lookup id = some addr ∧
      ∃ dep ∈ reportedDependencies q addr, dep.id = on) ↔
      ∃ m, w.release id = some m ∧ Packages.Requires (catalog depsOf) id m on := by
    intro id on
    constructor
    · rintro ⟨addr, found, reported⟩
      obtain ⟨m, installed⟩ := mem_iff_lookup.mp ((domain id).mp (mem_of_lookup found))
      rw [declares.of_lookup installed found] at reported
      exact ⟨m, installed, reported⟩
    · rintro ⟨m, installed, declared⟩
      obtain ⟨addr, found⟩ := mem_iff_lookup.mp ((domain id).mpr (mem_of_lookup installed))
      refine ⟨addr, found, ?_⟩
      rw [declares.of_lookup installed found]
      exact declared
  constructor
  · intro exact' id on
    exact (exact' id on).trans (same id on)
  · intro exact' id on
    exact (exact' id on).trans (same id on).symm

/-! ## Installing and uninstalling -/

theorem Indexes.installed {modules : List ModuleInstallConfig} (inv : Indexes depsOf w)
    (alone : op.Alone) (isInstall : op.msg = .InstallModules modules) (apps : AppsAndAdapters op)
    (ok : exec op w = .ok (w', out)) (after : Declares depsOf out.querier w') :
    Indexes depsOf w' := by
  obtain ⟨installed, s, context, sameModules, dependents, replied⟩ :=
    exec_installModules alone isInstall ok
  have domain := installed.domain inv.domain
  unfold AppsAndAdapters Operation.modules at apps
  rw [isInstall] at apps
  dsimp only at apps
  generalize resolved op.env (modules.map (·.info)) = news at installed context apps
  have ids : s.installModulesContext.map (·.1.info.moduleId) = news.map (·.info.moduleId) := by
    rw [← context, List.map_map]
    rfl
  have new : ∀ entry ∈ s.installModulesContext, hasDependencies entry.1 ∧
      entry.1.info.moduleId ∈ s.accountModules := by
    intro entry listed
    have isNew : entry.1 ∈ news := context ▸ List.mem_map_of_mem listed
    refine ⟨(hasDependencies_of_isAppOrAdapter (apps _ isNew)).1, ?_⟩
    rw [sameModules]
    exact (installed.stored _).mpr (.inl (List.mem_map_of_mem isNew))
  refine ⟨domain, ?_, installed.idle.trans inv.idle⟩
  refine (inv.exact.change_iff (fun id => id ∈ news.map (·.info.moduleId)) ?_ ?_).mpr ?_
  · exact fun id missing => release_of_unrecorded installed.released missing
  · intro id on missing
    rw [mem_dependents_registerDependencies replied new, ids, dependents]
    simp only [missing, false_and, false_or]
  -- a new module was in no entry, and the reply adds it for what it reports
  · intro id listed on
    have unknown : w.release id = none := by
      obtain ⟨m, isNew, rfl⟩ := List.mem_map.mp listed
      cases found : w.release m.info.moduleId with
      | none => rfl
      | some old => exact absurd ((inv.domain _).mpr (mem_of_lookup found)) (installed.fresh m isNew)
    obtain ⟨addr, address⟩ := mem_iff_lookup.mp ((installed.stored id).mpr (.inl listed))
    obtain ⟨m, release⟩ := mem_iff_lookup.mp ((domain id).mp (mem_of_lookup address))
    have unindexed : id ∉ dependentsOf w.state.dependents on := inv.exact.notMem unknown
    rw [mem_dependents_registerDependencies replied new, ids, dependents, sameModules, address,
      show w'.release id = some m from release]
    simp only [listed, true_and, unindexed, or_false, Option.some.injEq, exists_eq_left']
    rw [after.of_lookup release address]
    rfl

theorem Indexes.uninstalled {moduleId : String} (inv : Indexes depsOf w)
    (before : Declares depsOf op.env.querier w) (h : Uninstalled w w' op.env.querier moduleId) :
    Indexes depsOf w' := by
  obtain ⟨addr, address, index⟩ := h.index
  obtain ⟨m, release⟩ := mem_iff_lookup.mp ((inv.domain _).mp (mem_of_lookup address))
  refine ⟨h.domain inv.domain, ?_, h.idle.trans inv.idle⟩
  refine (inv.exact.change_iff (fun id => id = moduleId) ?_ ?_).mpr ?_
  · intro id other
    rw [h.release, if_neg other]
  · intro id on other
    rw [index]
    simp only [other, false_and, not_false_iff, true_and]
  -- it was in the entries of what it reports only, and is removed from these
  · intro id same on
    subst same
    rw [index, h.release, if_pos rfl, inv.exact.mem_iff release,
      before.of_lookup release address]
    simp only [true_and, reduceCtorEq, false_and, exists_false, iff_false]
    rintro ⟨unlisted, listed⟩
    exact unlisted listed

/-! ## Upgrading -/

section Upgrading

variable {s : AccountState} {modules : List (ModuleInfo × Option Binary)}

/-- After the reply, the index is right for a replaced module exactly if the difference of its
    old and new dependencies is. -/
theorem Indexes.reindexed (inv : Indexes depsOf w) (before : Declares depsOf op.env.querier w)
    (after : Declares depsOf q w') (upgraded : Upgraded op.env w.state modules s)
    (recorded : w'.installedAs = recordModules w.installedAs (replacements op.env modules))
    (replied : assertModulesDependencyRequirements q s = .ok w'.state) {old new : Module}
    (replaced : new ∈ replacements op.env modules)
    (listed : new.info.moduleId ∈ s.migrateContext.map (·.1))
    (was : w.release new.info.moduleId = some old) :
    (∀ on, new.info.moduleId ∈ dependentsOf w'.state.dependents on ↔
      ∃ m, w'.release new.info.moduleId = some m ∧
        Packages.Requires (catalog depsOf) new.info.moduleId m on) ↔
      Packages.DiffSound (·.id) (depsOf old) (depsOf new) := by
  obtain ⟨sameModules, _⟩ := assertModulesDependencyRequirements_frame replied
  have domain := upgraded.domain_after recorded sameModules inv.domain
  have deps : ∀ e ∈ s.migrateContext, e.1 = new.info.moduleId → e.2 = depsOf old := by
    intro e isEntry same
    exact upgraded.context_deps before isEntry (same ▸ was)
  obtain ⟨e, isEntry, same⟩ := List.mem_map.mp listed
  -- the replaced module is the one that is installed now
  have present : new.info.moduleId ∈ w'.installedAs := by
    rw [recorded]
    exact mem_recordModules.mpr (.inl (List.mem_map_of_mem replaced))
  obtain ⟨m, release⟩ := mem_iff_lookup.mp present
  obtain rfl : m = new := by
    rcases release_cases recorded release with ⟨replaced', sameId⟩ | ⟨missing, _⟩
    · exact upgraded.once m replaced' new replaced sameId
    · exact absurd (List.mem_map_of_mem replaced) missing
  obtain ⟨addr, address⟩ := mem_iff_lookup.mp ((domain _).mpr present)
  have reported := after.of_lookup release address
  have once : ∀ e' ∈ s.migrateContext, e'.1 = e.1 → e'.2 = e.2 := by
    intro e' isEntry' mine
    rw [deps e' isEntry' (mine.trans same), deps e isEntry same]
  rw [← Packages.diffSound_iff]
  refine forall_congr' fun on => ?_
  rw [← same] at address release was ⊢
  rw [mem_dependents_of_migrated replied isEntry once (sameModules ▸ address), deps e isEntry same,
    reported, upgraded.dependents, inv.exact.mem_iff was,
    show w'.release e.1 = some m from release]
  simp only [Option.some.injEq, exists_eq_left']
  rfl

/-- An upgrade of apps and adapters keeps the index exact if and only if the difference of the
    dependencies is right for each replaced module. -/
theorem Indexes.upgraded (inv : Indexes depsOf w) (alone : op.Alone)
    (isUpgrade : op.msg = .Upgrade modules) (apps : AppsAndAdapters op)
    (before : Declares depsOf op.env.querier w) (ok : exec op w = .ok (w', out))
    (after : Declares depsOf out.querier w') : Indexes depsOf w' ↔ KeepsIndexed depsOf w op := by
  obtain ⟨recorded, s, upgraded, replied⟩ := exec_upgrade alone inv.idle isUpgrade ok
  obtain ⟨sameModules, idle⟩ := assertModulesDependencyRequirements_frame replied
  have domain := upgraded.domain_after recorded sameModules inv.domain
  have upgrades : op.upgrades = replacements op.env modules := by
    rw [Operation.upgrades, isUpgrade]
  have listed : ∀ m ∈ replacements op.env modules,
      m.info.moduleId ∈ s.migrateContext.map (·.1) := by
    intro m replaced
    unfold AppsAndAdapters Operation.modules at apps
    rw [isUpgrade] at apps
    exact ((upgraded.handled m replaced).2.2
      (hasDependencies_of_isAppOrAdapter (apps m replaced)).2).1
  have rest : ∀ id, id ∉ s.migrateContext.map (·.1) → w'.release id = w.release id := by
    intro id missing
    apply release_of_unrecorded recorded
    intro replaced
    obtain ⟨m, isReplaced, rfl⟩ := List.mem_map.mp replaced
    exact missing (listed m isReplaced)
  have kept : ∀ id on, id ∉ s.migrateContext.map (·.1) →
      (id ∈ dependentsOf w'.state.dependents on ↔ id ∈ dependentsOf w.state.dependents on) := by
    intro id on missing
    rw [mem_dependents_of_unmigrated replied missing, upgraded.dependents]
  have same : Indexes depsOf w' ↔
      Packages.Exact (catalog depsOf) w'.release (dependentsOf w'.state.dependents) :=
    ⟨fun inv' => inv'.exact, fun exact' => ⟨domain, exact', idle⟩⟩
  rw [same, inv.exact.change_iff (fun id => id ∈ s.migrateContext.map (·.1)) rest kept]
  constructor
  · intro right new isNew old was
    rw [upgrades] at isNew
    exact (inv.reindexed before after upgraded recorded replied isNew (listed new isNew) was).mp
      (right _ (listed new isNew))
  · intro keeps id isListed
    obtain ⟨e, isEntry, rfl⟩ := List.mem_map.mp isListed
    obtain ⟨new, isNew, _, sameId, _⟩ := upgraded.context e isEntry
    obtain ⟨old, was⟩ := mem_iff_lookup.mp ((inv.domain _).mp (upgraded.handled new isNew).1)
    rw [← sameId]
    exact (inv.reindexed before after upgraded recorded replied isNew (listed new isNew) was).mpr
      (keeps new (upgrades ▸ isNew) old was)

end Upgrading

/-- A successful operation keeps the index exact if and only if it meets the condition. -/
theorem Indexes.exec_iff (inv : Indexes depsOf w) (alone : op.Alone) (steady : Steady depsOf w op)
    (apps : AppsAndAdapters op) (ok : exec op w = .ok (w', out)) :
    Indexes depsOf w' ↔ KeepsIndexed depsOf w op := by
  have after : Declares depsOf out.querier w' := steady.2 (w', out) (toOption_eq_some.mpr ok)
  cases kind : op.msg with
  | InstallModules modules =>
    refine iff_of_true (inv.installed alone kind apps ok after) ?_
    intro new upgraded
    simp [Operation.upgrades, kind] at upgraded
  | UninstallModule moduleId =>
    refine iff_of_true (inv.uninstalled steady.1 (exec_uninstallModule kind ok)) ?_
    intro new upgraded
    simp [Operation.upgrades, kind] at upgraded
  | Upgrade modules => exact inv.upgraded alone kind apps steady.1 ok after

/-! ## The unwrap in the reply -/

/-- The panic of an `unwrap` on `None`. -/
def UnwrapsNone (e : AccountError) : Prop :=
  e = .Panicked "called `Option::unwrap()` on a `None` value"

section Unwraps

variable {env : Env} {s : AccountState}

theorem avoids_assertOwner (sender : Addr) : Avoids UnwrapsNone (assertOwner env s sender) :=
  avoids_mapError (by simp [UnwrapsNone])

/-- A version that does not parse is another panic. -/
theorem avoids_parseUnwrap (version : String) : Avoids UnwrapsNone (parseUnwrap version) := by
  apply avoids_mapError
  intro e same
  have text := congrArg String.toList (AccountError.Panicked.inj same)
  simp at text

theorem avoids_toSemver (version : ModuleVersion) : Avoids UnwrapsNone (toSemver version) := by
  cases version with
  | Latest => exact avoids_error (by simp [UnwrapsNone])
  | Version ver => exact avoids_mapError (by simp [UnwrapsNone])

theorem avoids_loadModuleAddr (id : String) : Avoids UnwrapsNone (loadModuleAddr s id) :=
  avoids_okOr (by simp [UnwrapsNone])

theorem avoids_loadModuleData (id : String) : Avoids UnwrapsNone (loadModuleData q s id) :=
  (avoids_loadModuleAddr id).bind fun _ _ => avoids_mapError (by simp [UnwrapsNone])

theorem avoids_loadModuleDependencies (id : String) :
    Avoids UnwrapsNone (loadModuleDependencies q s id) :=
  (avoids_loadModuleData id).bind fun _ _ => avoids_pure _

theorem avoids_assertComparators (bounds : List Crates.Comparator) (version : Crates.Version)
    (id : String) (postMigration : Bool) :
    Avoids UnwrapsNone (assertComparators bounds version id postMigration) := by
  unfold assertComparators
  split
  · exact avoids_ok _
  · exact avoids_error (by simp [UnwrapsNone])

theorem avoids_assertDependencyRequirements (deps : List Dependency) (dependent : String) :
    Avoids UnwrapsNone (assertDependencyRequirements q s deps dependent) := by
  apply avoids_forEach
  intro dep
  refine (avoids_okOr (by simp [UnwrapsNone])).bind fun addr _ => ?_
  refine (avoids_mapError (by simp [UnwrapsNone])).bind fun cw2 _ => ?_
  exact (avoids_parseUnwrap _).bind fun version _ => avoids_assertComparators _ _ _ _

/-! ### Installing and uninstalling -/

theorem avoids_updateWhitelistedModules (added removed : List Addr) :
    Avoids UnwrapsNone (updateWhitelistedModules s added removed) := by
  refine avoids_commit (avoids_call_bind (avoids_ok _) fun _ _ _ => ?_)
  refine avoids_call_bind (avoids_ensure (by simp [UnwrapsNone])) fun _ _ _ => ?_
  refine avoids_call_bind (avoids_ensure (by simp [UnwrapsNone])) fun _ _ _ => ?_
  refine avoids_call_bind (avoids_loop ?_) fun _ _ _ => ?_
  · intro whitelist addr _
    exact (avoids_ensure (by simp [UnwrapsNone])).bind fun _ _ => avoids_pure _
  · exact avoids_call_bind (avoids_ensure (by simp [UnwrapsNone])) fun _ s' _ =>
      (total_write _).avoids s'

theorem avoids_updateModuleAddresses (added : List (String × Addr)) (removed : List String) :
    Avoids UnwrapsNone (updateModuleAddresses s added removed) := by
  refine Avoids.bind ?_ fun _ _ => avoids_pure _
  apply avoids_loop
  intro modules entry _
  exact (avoids_ensure (by simp [UnwrapsNone])).bind fun _ _ => avoids_pure _

theorem avoids_planInstall (m : Module) (initMsg : Option Binary) :
    Avoids UnwrapsNone (planInstall env s m initMsg) := by
  have created : ∀ codeId, Avoids UnwrapsNone (newModuleAddress env s codeId) := by
    intro codeId
    refine (avoids_okOr (by simp [UnwrapsNone])).bind fun code _ => ?_
    refine (avoids_mapError (by simp [UnwrapsNone])).bind fun addr _ => ?_
    exact (avoids_ensure (by simp [UnwrapsNone])).bind fun _ _ => avoids_pure _
  refine (avoids_ensure (by simp [UnwrapsNone])).bind fun _ _ => ?_
  split
  · exact avoids_pure _
  · exact avoids_pure _
  · exact avoids_pure _
  · exact (created _).bind fun _ _ => (avoids_okOr (by simp [UnwrapsNone])).bind fun _ _ =>
      avoids_pure _
  · exact (created _).bind fun _ _ => (avoids_okOr (by simp [UnwrapsNone])).bind fun _ _ =>
      avoids_pure _
  · exact avoids_error (by simp [UnwrapsNone])

theorem avoids_installModules (info : MessageInfo) (modules : List ModuleInstallConfig) :
    Avoids UnwrapsNone (installModules env info modules s) := by
  refine (avoids_assertOwner _).bind fun _ _ => Avoids.bind ?_ fun plans _ => ?_
  · refine (avoids_mapError (by simp [UnwrapsNone])).bind fun responses _ => ?_
    exact avoids_mapM fun entry => avoids_planInstall _ _
  · refine (avoids_updateWhitelistedModules _ _).bind fun _ _ => ?_
    exact (avoids_updateModuleAddresses _ _).bind fun _ _ => avoids_pure _

theorem avoids_uninstallModule (info : MessageInfo) (id : String) :
    Avoids UnwrapsNone (uninstallModule env info id s) := by
  refine (avoids_assertOwner _).bind fun _ _ => Avoids.bind ?_ fun s₁ _ => ?_
  · unfold clearDependents
    split
    · exact (avoids_ensure (by simp [UnwrapsNone])).bind fun _ _ => avoids_pure _
    · exact avoids_ok _
  · refine (avoids_loadModuleData _).bind fun data _ => ?_
    refine (avoids_mapError (by simp [UnwrapsNone])).bind fun moduleInfo _ => ?_
    refine (avoids_mapError (by simp [UnwrapsNone])).bind fun registered _ => ?_
    refine Avoids.bind ?_ fun _ _ => avoids_pure _
    unfold removeFromWhitelist
    split
    · exact (avoids_loadModuleAddr _).bind fun _ _ => avoids_updateWhitelistedModules _ _
    · exact avoids_ok _

theorem avoids_registerDependencies : Avoids UnwrapsNone (registerDependencies q s) := by
  apply avoids_loop
  intro t entry _
  refine (avoids_mapError (by simp [UnwrapsNone])).bind fun _ _ => ?_
  refine Avoids.bind ?_ fun _ _ => avoids_pure _
  have checked : ∀ id, Avoids UnwrapsNone (assertInstallRequirements q t id) := fun id =>
    (avoids_loadModuleDependencies id).bind fun deps _ =>
      (avoids_assertDependencyRequirements _ _).bind fun _ _ => avoids_pure _
  have checkedStandalone : ∀ id, Avoids UnwrapsNone (assertInstallRequirementsStandalone q t id) :=
    fun id => (avoids_assertDependencyRequirements _ _).bind fun _ _ => avoids_pure _
  unfold installDependencies
  split
  · exact checked _
  · exact checked _
  · exact checkedStandalone _
  · exact avoids_ok _

/-! ### Upgrading -/

theorem avoids_queryModule (info : ModuleInfo) (oldVersion : ContractVersion) :
    Avoids UnwrapsNone (queryModule env info oldVersion) := by
  refine Avoids.bind ?_ fun m _ => ?_
  · unfold requestedModule
    split
    · refine (avoids_parseUnwrap _).bind fun new _ => (avoids_parseUnwrap _).bind fun old _ => ?_
      refine (avoids_ensure (by simp [UnwrapsNone])).bind fun _ _ => ?_
      exact (avoids_mapError (by simp [UnwrapsNone])).bind fun _ _ => avoids_pure _
    · exact (avoids_mapError (by simp [UnwrapsNone])).bind fun _ _ => avoids_pure _
  · exact (avoids_mapError (by simp [UnwrapsNone])).bind fun _ _ => avoids_pure _

theorem avoids_queryModuleVersion (addr : Addr) :
    Avoids UnwrapsNone (env.queryModuleVersion addr) := by
  have versioned : ∀ info, Avoids UnwrapsNone (Env.queryModuleVersion.contractVersion info) := by
    intro info
    unfold Env.queryModuleVersion.contractVersion
    split
    · exact avoids_error (by simp [UnwrapsNone])
    · exact avoids_ok _
  have registered : Avoids UnwrapsNone (Env.queryModuleVersion.fromRegistry env addr) := by
    unfold Env.queryModuleVersion.fromRegistry
    split
    · exact versioned _
    · refine (avoids_mapError (by simp [UnwrapsNone])).bind fun contract _ => ?_
      exact (avoids_okOr (by simp [UnwrapsNone])).bind fun info _ => versioned info
  unfold Env.queryModuleVersion
  split
  · split
    · exact avoids_ok _
    · exact registered
  · exact registered

theorem avoids_assertMigrateRequirements (id : String) (version : Crates.Version) :
    Avoids UnwrapsNone (assertMigrateRequirements q s id version) := by
  apply avoids_forEach
  intro dependent
  unfold assertDependent
  split
  · exact avoids_ok _
  · refine (avoids_okOr (by simp [UnwrapsNone])).bind fun addr _ => ?_
    refine (avoids_mapError (by simp [UnwrapsNone])).bind fun data _ => ?_
    exact avoids_forEach fun dep => avoids_assertComparators _ _ _ _

theorem avoids_handleAdapterMigration (info : ModuleInfo) (old new : Addr) :
    Avoids UnwrapsNone (handleAdapterMigration env s info old new) := by
  refine (avoids_toSemver _).bind fun version _ => ?_
  refine (avoids_assertMigrateRequirements _ _).bind fun _ _ => ?_
  refine (avoids_loadModuleDependencies _).bind fun oldDeps _ => ?_
  refine (avoids_updateModuleAddresses _ _).bind fun s₁ _ => ?_
  refine (avoids_okOr (by simp [UnwrapsNone])).bind fun authorized _ => ?_
  exact (avoids_updateWhitelistedModules _ _).bind fun _ _ => avoids_pure _

theorem avoids_handleAppMigration (migrateMsg : Option Binary) (old : Addr) (info : ModuleInfo)
    (codeId : Nat) : Avoids UnwrapsNone (handleAppMigration env s migrateMsg old info codeId) := by
  refine (avoids_toSemver _).bind fun version _ => ?_
  refine (avoids_assertMigrateRequirements _ _).bind fun _ _ => ?_
  exact (avoids_loadModuleDependencies _).bind fun oldDeps _ => avoids_pure _

/-- Of the messages of an upgrade, that of a standalone is the one that is unwrapped. -/
theorem avoids_setMigrateMsgsAndContext {info : ModuleInfo} (migrateMsg : Option Binary)
    (checked : ∀ m config, env.registry.queryModule info = .ok (m, config) →
      isStandalone m = false) :
    Avoids UnwrapsNone (setMigrateMsgsAndContext env s info migrateMsg) := by
  refine (avoids_loadModuleAddr _).bind fun old _ => ?_
  refine (avoids_queryModuleVersion _).bind fun cw2 _ => ?_
  refine (avoids_queryModule _ _).bind ?_
  rintro ⟨m, config⟩ requested
  have kind := checked m config (queryModule_eq_ok requested)
  dsimp only
  split
  · exact avoids_handleAdapterMigration _ _ _
  · exact avoids_handleAppMigration _ _ _ _
  · rename_i standalone
    simp [isStandalone, standalone] at kind
  · exact avoids_error (by simp [UnwrapsNone])

theorem avoids_upgradeModules (info : MessageInfo) {modules : List (ModuleInfo × Option Binary)}
    (checked : ∀ m ∈ replacements env modules, isStandalone m = false) :
    Avoids UnwrapsNone (upgradeModules env info modules s) := by
  refine (avoids_assertOwner _).bind fun _ _ => ?_
  refine (avoids_ensure (by simp [UnwrapsNone])).bind fun _ _ => Avoids.bind ?_ fun loop _ => ?_
  · apply avoids_loop
    intro loop entry listed
    refine (avoids_ensure (by simp [UnwrapsNone])).bind fun _ _ => ?_
    dsimp only
    split
    · exact avoids_pure _
    · rename_i isModule
      refine Avoids.bind (avoids_setMigrateMsgsAndContext _ ?_) fun _ _ => avoids_pure _
      intro m config found
      exact checked m (mem_replacements.mpr ⟨entry, listed, isModule, config, found⟩)
  · refine Avoids.bind ?_ fun _ _ => avoids_pure _
    unfold accountUpgradeMsgs
    split
    · refine Avoids.bind ?_ fun _ _ => avoids_pure _
      refine (avoids_queryModule _ _).bind ?_
      rintro ⟨m, config⟩ _
      dsimp only
      split
      · exact avoids_pure _
      · exact avoids_error (by simp [UnwrapsNone])
    · exact avoids_ok _

/-- The `unwrap` of `maybe_remove_old_deps` is on a set that is there. -/
theorem avoids_maybeRemoveOldDeps (id : String) {oldDeps : List Dependency}
    (saved : ∀ dep ∈ oldDeps, dep.id ∈ s.dependents) :
    Avoids UnwrapsNone (maybeRemoveOldDeps q s id oldDeps) := by
  refine (avoids_loadModuleDependencies _).bind fun newDeps _ => ?_
  refine Avoids.bind ?_ fun _ _ => avoids_pure _
  refine avoids_foldlM (I := fun m => ∀ dep ∈ oldDeps, dep.id ∈ m) ?_ saved
  intro m dep listed here
  obtain ⟨dependents, found⟩ := mem_iff_lookup.mp (here dep (List.mem_of_mem_filter listed))
  rw [found]
  refine ⟨avoids_pure _, ?_⟩
  intro m' dropped
  obtain rfl := pure_eq_ok.mp dropped
  exact fun other isOld => (AList.mem_insert _).mpr (.inr (here other isOld))

theorem avoids_assertModulesDependencyRequirements
    (saved : ∀ e ∈ s.migrateContext, ∀ dep ∈ e.2, dep.id ∈ s.dependents) :
    Avoids UnwrapsNone (assertModulesDependencyRequirements q s) := by
  refine Avoids.bind ?_ fun _ _ => avoids_pure _
  refine avoids_foldlM (I := fun t => ∀ e ∈ s.migrateContext, ∀ dep ∈ e.2, dep.id ∈ t.dependents)
    ?_ saved
  rintro t e listed here
  constructor
  · refine (avoids_maybeRemoveOldDeps _ (here e listed)).bind fun t₁ _ => Avoids.bind ?_ ?_
    · exact (avoids_loadModuleDependencies _).bind fun _ _ => avoids_pure _
    · rintro ⟨t₂, newDeps⟩ _
      exact (avoids_assertDependencyRequirements _ _).bind fun _ _ => avoids_pure _
  · intro t' ok e' listed' dep isDep
    obtain ⟨_, _, _, rfl⟩ := assertMigrated_eq_ok ok
    exact mem_keys_reindex (here e' listed' dep isDep)

end Unwraps

/-! ### Operations -/

/-- The call of the account fails with the panic. -/
def FailsToUnwrap (e : OperationError) : Prop := ∃ call, e = .Call call ∧ UnwrapsNone call

omit [Crates] in
theorem avoids_call {α : Type} {x : Except AccountError α} (h : Avoids UnwrapsNone x) :
    Avoids FailsToUnwrap (x.mapError OperationError.Call) := by
  refine h.mapError ?_
  rintro e ⟨call, same, panics⟩
  exact OperationError.Call.inj same ▸ panics

theorem avoids_handle {info : MessageInfo} {s : AccountState} (apps : AppsAndAdapters op) :
    Avoids UnwrapsNone (handle op.env info op.msg s) := by
  unfold AppsAndAdapters Operation.modules at apps
  cases kind : op.msg with
  | InstallModules modules => exact (avoids_installModules _ _).bind fun _ _ => avoids_pure _
  | UninstallModule id => exact (avoids_uninstallModule _ _).bind fun _ _ => avoids_pure _
  | Upgrade modules =>
    rw [kind] at apps
    refine (avoids_upgradeModules _ ?_).bind fun _ _ => avoids_pure _
    exact fun m replaced => (hasDependencies_of_isAppOrAdapter (apps m replaced)).2

theorem Activity.Ends.avoids_run {activity : Activity} (ends : activity.Ends) (w : World)
    (nested : List (World × Operation)) : Avoids FailsToUnwrap (activity.run w nested) := by
  cases activity with
  | done result => exact (avoids_mapError (by simp [FailsToUnwrap])).bind fun _ _ => avoids_pure _
  | operation => exact ends.elim

theorem avoids_deliver {env : Env} (alone : op.Alone) (before : World × Outcome)
    (msg : CosmosMsg) :
    Avoids FailsToUnwrap (deliver env (op.code.map Activity.run) before msg) := by
  cases msg with
  | InstallModules factory modules salt funds =>
    refine Avoids.bind (avoids_mapError (by simp [FailsToUnwrap])) ?_
    rintro ⟨response, msgs⟩ _
    exact avoids_loop fun _ _ _ => (alone.create _ _).avoids_run _ _
  | Migrate contractAddr newCodeId msg =>
    simp only [deliver]
    split
    · refine Avoids.bind (avoids_call ?_) fun _ _ => avoids_pure _
      refine (avoids_parseUnwrap _).bind fun version _ => Avoids.bind ?_ fun _ _ => avoids_pure _
      refine (avoids_ensure (by simp [UnwrapsNone])).bind fun _ _ => ?_
      refine (avoids_parseUnwrap _).bind fun stored _ => ?_
      exact (avoids_ensure (by simp [UnwrapsNone])).bind fun _ _ =>
        avoids_ensure (by simp [UnwrapsNone])
    · exact (alone.execute _ _).avoids_run _ _
  | UpdateAuthorizedAddresses adapter added removed => exact (alone.execute _ _).avoids_run _ _

/-- While the index is exact, the reply finds every set that it unwraps. -/
theorem Indexes.saved {modules : List (ModuleInfo × Option Binary)} {s : AccountState}
    (inv : Indexes depsOf w) (before : Declares depsOf op.env.querier w)
    (upgraded : Upgraded op.env w.state modules s) :
    ∀ e ∈ s.migrateContext, ∀ dep ∈ e.2, dep.id ∈ s.dependents := by
  intro e listed dep isDep
  obtain ⟨_, _, _, _, addr, address, _⟩ := upgraded.context e listed
  obtain ⟨old, was⟩ := mem_iff_lookup.mp ((inv.domain _).mp (mem_of_lookup address))
  rw [upgraded.context_deps before listed was] at isDep
  have indexed : e.1 ∈ dependentsOf w.state.dependents dep.id :=
    (inv.exact.mem_iff was).mpr ⟨dep, isDep, rfl⟩
  rw [upgraded.dependents]
  apply AList.lookup_isSome.mp
  by_contra missing
  simp only [Bool.not_eq_true, Option.isSome_eq_false_iff, Option.isNone_iff_eq_none] at missing
  simp [dependentsOf, missing] at indexed

theorem Indexes.avoids_exec (inv : Indexes depsOf w) (alone : op.Alone)
    (steady : Steady depsOf w op) (apps : AppsAndAdapters op) :
    Avoids FailsToUnwrap (exec op w) := by
  refine Avoids.bind (avoids_call ?_) fun response executed => ?_
  · refine (avoids_ensure (by simp [UnwrapsNone])).bind fun _ _ => ?_
    exact (avoids_handle apps).bind fun _ _ => avoids_pure _
  refine Avoids.bind (avoids_loop fun before msg _ => avoids_deliver alone before msg) ?_
  rintro ⟨v, out⟩ delivered
  refine Avoids.bind (avoids_call ?_) fun _ _ => avoids_pure _
  simp only [execute, bind_eq_ok, mapError_eq_ok, pure_eq_ok] at executed
  obtain ⟨_, _, handled, ok, rfl⟩ := executed
  obtain ⟨version, rfl⟩ := deliverAll_frame alone delivered
  cases kind : op.msg with
  | InstallModules modules =>
    simp only [kind, handle, bind_eq_ok, pure_eq_ok] at ok
    obtain ⟨_, _, rfl⟩ := ok
    exact avoids_registerDependencies
  | UninstallModule id =>
    simp only [kind, handle, bind_eq_ok, pure_eq_ok] at ok
    obtain ⟨_, _, rfl⟩ := ok
    exact avoids_ok _
  | Upgrade modules =>
    simp only [kind, handle, bind_eq_ok, pure_eq_ok] at ok
    obtain ⟨⟨s₁, msgs⟩, upgraded, rfl⟩ := ok
    obtain ⟨effect, sent⟩ := upgradeModules_eq_ok inv.idle upgraded
    dsimp only
    rw [if_neg sent]
    apply avoids_assertModulesDependencyRequirements
    exact inv.saved steady.1
      ⟨effect.dependents, effect.domain, effect.context, effect.handled, effect.once⟩

/-! ## Runs -/

/-- The index is exact after the operation, and no `unwrap` on it fails during it. -/
def DependentsExact (w : World) (op : Operation) : Prop :=
  (∀ w' out, exec op w = .ok (w', out) → IndexExact out.querier w'.state) ∧
    exec op w ≠ .error (.Call (.Panicked "called `Option::unwrap()` on a `None` value"))

theorem Indexes.iff_indexExact (inv : Indexes depsOf w) (alone : op.Alone)
    (steady : Steady depsOf w op) (ok : exec op w = .ok (w', out)) :
    Indexes depsOf w' ↔ IndexExact out.querier w'.state := by
  have after : Declares depsOf out.querier w' := steady.2 (w', out) (toOption_eq_some.mpr ok)
  have frame : (∀ id, id ∈ w'.state.accountModules ↔ id ∈ w'.installedAs) ∧
      w'.state.migrateContext = [] := by
    cases kind : op.msg with
    | InstallModules modules =>
      obtain ⟨installed, _⟩ := exec_installModules alone kind ok
      exact ⟨installed.domain inv.domain, installed.idle.trans inv.idle⟩
    | UninstallModule id =>
      have uninstalled := exec_uninstallModule kind ok
      exact ⟨uninstalled.domain inv.domain, uninstalled.idle.trans inv.idle⟩
    | Upgrade modules =>
      obtain ⟨recorded, s, upgraded, replied⟩ := exec_upgrade alone inv.idle kind ok
      obtain ⟨sameModules, idle⟩ := assertModulesDependencyRequirements_frame replied
      exact ⟨upgraded.domain_after recorded sameModules inv.domain, idle⟩
  rw [indexExact_iff after frame.1]
  exact ⟨fun inv' => inv'.exact, fun exact' => ⟨frame.1, exact', frame.2⟩⟩

theorem indexes_empty {s : AccountState} (noModules : s.accountModules = ∅)
    (noDependents : s.dependents = ∅) (idle : s.migrateContext = []) :
    Indexes depsOf ⟨s, ∅⟩ := by
  refine ⟨?_, ?_, idle⟩
  · intro id
    rw [noModules]
    exact Iff.rfl
  · apply Packages.exact_empty
    · exact fun id => rfl
    · intro on
      rw [noDependents]
      rfl

/-- In a run of apps and adapters from an account without modules, of which no operation
    starts while another one is in progress, the index is exact after each operation and no
    operation panics on it, exactly when each successful upgrade meets the condition. -/
theorem dependents_exact_iff {s : AccountState} (noModules : s.accountModules = ∅)
    (noDependents : s.dependents = ∅) (idle : s.migrateContext = []) {ops : List Operation}
    (alone : ∀ op ∈ ops, op.Alone)
    (along : Along exec (fun w op => Steady depsOf w op ∧ AppsAndAdapters op) ⟨s, ∅⟩ ops) :
    Along exec DependentsExact ⟨s, ∅⟩ ops ↔
      Along exec (fun w op => (∃ p, exec op w = .ok p) → KeepsIndexed depsOf w op) ⟨s, ∅⟩ ops := by
  refine along_congr (P := Indexes depsOf) ?_ ?_ (indexes_empty noModules noDependents idle)
    ((along_of_forall alone).and along)
  · rintro w op ⟨alone, steady, apps⟩ inv
    constructor
    · rintro ⟨exact', _⟩ ⟨⟨w', out⟩, ok⟩
      apply (inv.exec_iff alone steady apps ok).mp
      exact (inv.iff_indexExact alone steady ok).mpr (exact' w' out ok)
    · intro keeps
      refine ⟨?_, fun failed => inv.avoids_exec alone steady apps _ failed ⟨_, rfl, rfl⟩⟩
      intro w' out ok
      apply (inv.iff_indexExact alone steady ok).mp
      exact (inv.exec_iff alone steady apps ok).mpr (keeps ⟨_, ok⟩)
  · rintro w op w' out ⟨alone, steady, _⟩ inv ⟨exact', _⟩ ok
    exact (inv.iff_indexExact alone steady ok).mpr (exact' w' out ok)

end Index

/-! ## A run of adapters

The adapter `pub:bot` has two requirements on the adapter `pub:lib`.  Version 1.1.0
drops the first of them, version 1.2.0 the second and adds another one. -/

section IndexRun

attribute [local instance] releaseCrates

/-- The versions of `pub:bot`, their addresses and their dependencies. -/
def botVersions : List (String × Addr × List Dependency) :=
  [("1.0.0", ⟨"bot-1"⟩, [⟨"pub:lib", [(1, 0, 0)]⟩, ⟨"pub:lib", [(1, 1, 0)]⟩]),
    ("1.1.0", ⟨"bot-2"⟩, [⟨"pub:lib", [(1, 1, 0)]⟩]),
    ("1.2.0", ⟨"bot-3"⟩, [⟨"pub:lib", [(1, 0, 0)]⟩, ⟨"pub:lib", [(1, 0, 1)]⟩]),
    ("2.0.0", ⟨"bot-4"⟩, [])]

def adapterDeps (m : Module) : List Dependency :=
  ((botVersions.find? fun v => botInfo v.1 = m.info).map (·.2.2)).getD []

def adapterOperation (msg : ExecuteMsg) : Operation where
  env :=
    { address := sampleAccount
      blockHeight := 1
      querier :=
        { contract := fun addr =>
            if addr = sampleAccount then some (Contract.account sampleId (.Monarchy sampleOwner))
            else if addr = libAddr then some (libContract 2 "1.1.0")
            else (botVersions.find? fun v => v.2.1 = addr).map fun v =>
              moduleContract 3 "pub:bot" v.1 v.2.2
          codeInfo := fun _ => none
          registryAddress := fun _ => none }
      registry :=
        { sampleRegistry with
          registeredModules := insertAll ∅ (((libInfo "1.1.0").key, .Adapter libAddr) ::
            botVersions.map fun v => ((botInfo v.1).key, .Adapter v.2.1)) }
      factory := ⟨"factory"⟩
      instantiate2Address := fun _ _ _ => .error "unused"
      sha256 := fun bytes => bytes
      fromJson := fun msg => .ok msg
      xion := false }
  code :=
    { execute := fun _ q => .done (.ok q)
      create := fun _ q => .done (.ok q)
      accountVersion := fun _ => "1.0.0" }
  info := { sender := sampleOwner, funds := [] }
  msg := msg

theorem adapterOperation_alone (msg : ExecuteMsg) : (adapterOperation msg).Alone :=
  ⟨fun _ _ => trivial, fun _ _ => trivial⟩

def installAdapters : Operation :=
  adapterOperation (.InstallModules [{ info := libInfo "1.1.0", initMsg := none },
    { info := botInfo "1.0.0", initMsg := none }])

def upgradeBot (version : String) : Operation :=
  adapterOperation (.Upgrade [(botInfo version, none)])

def uninstallAdapter : Operation := adapterOperation (.UninstallModule "pub:lib")

/-- A requirement that stays is covered by a new one. -/
theorem dependents_exact_upgradeBot :
    Along exec (fun w op => Steady adapterDeps w op ∧ AppsAndAdapters op) ⟨emptyAccount, ∅⟩
        [installAdapters, upgradeBot "1.2.0"] ∧
      Along exec DependentsExact ⟨emptyAccount, ∅⟩ [installAdapters, upgradeBot "1.2.0"] := by
  have along : Along exec (fun w op => Steady adapterDeps w op ∧ AppsAndAdapters op)
      ⟨emptyAccount, ∅⟩ [installAdapters, upgradeBot "1.2.0"] := by decide +kernel
  have keeps : Along exec (KeepsIndexed adapterDeps) ⟨emptyAccount, ∅⟩
      [installAdapters, upgradeBot "1.2.0"] := by decide +kernel
  have alone : ∀ op ∈ [installAdapters, upgradeBot "1.2.0"], op.Alone := by
    simp [installAdapters, upgradeBot, adapterOperation_alone]
  refine ⟨along, (dependents_exact_iff rfl rfl rfl alone along).mpr ?_⟩
  exact ⟨fun _ => keeps.1, fun _ => keeps.2.1, trivial⟩

/-- An upgrade that drops one of two requirements takes the module out of the index.  The
    module that it still requires can then be uninstalled, and its next upgrade panics. -/
theorem upgrade_drops_dependent :
    (∀ op ∈ [installAdapters, upgradeBot "1.1.0", uninstallAdapter, upgradeBot "2.0.0"], op.Alone) ∧
    Along exec (fun w op => Steady adapterDeps w op ∧ AppsAndAdapters op) ⟨emptyAccount, ∅⟩
        [installAdapters, upgradeBot "1.1.0", uninstallAdapter, upgradeBot "2.0.0"] ∧
      ¬ Along exec DependentsExact ⟨emptyAccount, ∅⟩ [installAdapters, upgradeBot "1.1.0"] ∧
      exec (upgradeBot "2.0.0") (run exec ⟨emptyAccount, ∅⟩
          [installAdapters, upgradeBot "1.1.0", uninstallAdapter]) =
        .error (.Call (.Panicked "called `Option::unwrap()` on a `None` value")) := by
  refine ⟨by simp [installAdapters, upgradeBot, uninstallAdapter, adapterOperation_alone],
    by decide +kernel, ?_, by rfl⟩
  rintro ⟨_, ⟨right, _⟩, _⟩
  have dropped : ∃ result ∈ (exec (upgradeBot "1.1.0")
        (step exec ⟨emptyAccount, ∅⟩ installAdapters)).toOption,
      "pub:bot" ∉ dependentsOf result.1.state.dependents "pub:lib" ∧
        ∃ addr ∈ result.1.state.accountModules.lookup "pub:bot",
          ∃ dep ∈ reportedDependencies result.2.querier addr, dep.id = "pub:lib" := by decide +kernel
  obtain ⟨⟨w', out⟩, result, unlisted, addr, installed, reported⟩ := dropped
  apply unlisted
  exact (right w' out (toOption_eq_some.mp result) "pub:bot" "pub:lib").mpr ⟨addr, installed, reported⟩

end IndexRun

end AbstractFramework.Account
