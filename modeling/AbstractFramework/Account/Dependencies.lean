import AbstractFramework.Lib.Packages
import AbstractFramework.Account.Operations

/-! # Dependency closure

After every operation, the dependencies that an installed app, adapter or
standalone reports are installed at versions that fit.  The account instantiates
the package sets of the library: the packages are the module ids, a release is a
registered version, and the index is `DEPENDENTS`.

The operations are `Alone`: none of them starts while another one is in progress.

What contracts report is outside of the account.  `Faithful` says that a contract
reports the version it was registered under and, as long as that version does not
change, the same dependencies.  The upgrade of a standalone is not checked by the
account, and neither is every requirement of other modules indexed.
`UpgradeSound` says of the replaced versions what is left to ask of them.
-/

namespace AbstractFramework.Account

open AbstractFramework Fallible Storage Machine

section Closure

variable [Crates] (depsOf : Module → List Dependency)

/-! ## Reports -/

/-- The contract reports the version it was registered under. -/
def ReportsAs (q : Querier) (addr : Addr) (m : Module) : Prop :=
  (q.item Contract.cw2 addr).map (·.version) = some m.info.version.toStr ∧
    reportedDependencies q addr = depsOf m

instance (q : Querier) (addr : Addr) (m : Module) : Decidable (ReportsAs depsOf q addr m) :=
  inferInstanceAs (Decidable (_ ∧ _))

def Reports (q : Querier) (w : World) : Prop :=
  ∀ entry ∈ w.installedAs.entries, ∀ addr ∈ w.state.accountModules.lookup entry.1,
    ReportsAs depsOf q addr entry.2

instance (q : Querier) (w : World) : Decidable (Reports depsOf q w) :=
  inferInstanceAs (Decidable (∀ entry ∈ w.installedAs.entries,
    ∀ addr ∈ w.state.accountModules.lookup entry.1, ReportsAs depsOf q addr entry.2))

/-- The contracts report what they should before the operation and after it. -/
def Faithful (w : World) (op : Operation) : Prop :=
  Reports depsOf op.env.querier w ∧
    ∀ result ∈ (exec op w).toOption, Reports depsOf result.2.querier result.1

instance (w : World) (op : Operation) : Decidable (Faithful depsOf w op) :=
  inferInstanceAs (Decidable (_ ∧ ∀ result ∈ (exec op w).toOption, _))

variable {depsOf} in
theorem Reports.of_lookup {q : Querier} {w : World} {id : String} {m : Module} {addr : Addr}
    (reports : Reports depsOf q w) (installed : w.installedAs.lookup id = some m)
    (found : w.state.accountModules.lookup id = some addr) : ReportsAs depsOf q addr m :=
  reports ⟨id, m⟩ (AList.mem_lookup_iff.mp installed) addr found

/-- The installed modules report the dependencies of the versions they are registered under. -/
def Declares (q : Querier) (w : World) : Prop :=
  ∀ entry ∈ w.installedAs.entries, ∀ addr ∈ w.state.accountModules.lookup entry.1,
    reportedDependencies q addr = depsOf entry.2

instance (q : Querier) (w : World) : Decidable (Declares depsOf q w) :=
  inferInstanceAs (Decidable (∀ entry ∈ w.installedAs.entries,
    ∀ addr ∈ w.state.accountModules.lookup entry.1, reportedDependencies q addr = depsOf entry.2))

variable {depsOf} in
theorem Declares.of_lookup {q : Querier} {w : World} {id : String} {m : Module} {addr : Addr}
    (declares : Declares depsOf q w) (installed : w.installedAs.lookup id = some m)
    (found : w.state.accountModules.lookup id = some addr) :
    reportedDependencies q addr = depsOf m :=
  declares ⟨id, m⟩ (AList.mem_lookup_iff.mp installed) addr found

variable {depsOf} in
theorem Reports.declares {q : Querier} {w : World} (reports : Reports depsOf q w) :
    Declares depsOf q w :=
  fun entry listed addr found => (reports entry listed addr found).2

/-! ## Upgrades that keep the closure -/

def Accepts (dep : Dependency) (m : Module) : Prop :=
  Satisfies m.info.version.toStr dep.versionReq

instance (dep : Dependency) (m : Module) : Decidable (Accepts dep m) :=
  inferInstanceAs (Decidable (Satisfies _ _))

/-- A standalone may be replaced by a version without new dependencies that the
    dependents accept, unless they are upgraded and checked themselves. -/
def StandaloneSound (after : Map String Module) (checked : List String) (old new : Module) : Prop :=
  (∀ dep ∈ depsOf new, hasDependencies old ∧ dep ∈ depsOf old) ∧
    ∀ entry ∈ after.entries, hasDependencies entry.2 → entry.1 ∉ checked →
      ∀ dep ∈ depsOf entry.2, dep.id = new.info.moduleId → Accepts dep new

/-- The reply keeps an app or adapter in the index for the requirements that stay:
    another one for the same module is new, or none of them is dropped. -/
def IndexSound (old new : Module) : Prop :=
  ∀ dep ∈ depsOf new, dep ∈ depsOf old →
    (∃ other ∈ depsOf new, other ∉ depsOf old ∧ other.id = dep.id) ∨
      (hasDependencies old ∧ ∀ other ∈ depsOf old, other.id = dep.id → other ∈ depsOf new)

def Operation.upgrades (op : Operation) : List Module :=
  match op.msg with
  | .Upgrade modules => replacements op.env modules
  | _ => []

/-- The upgraded modules whose dependencies the reply checks. -/
def Operation.checked (op : Operation) : List String :=
  (op.upgrades.filter fun m => !isStandalone m).map (·.info.moduleId)

def UpgradeSound (w : World) (op : Operation) : Prop :=
  ∀ new ∈ op.upgrades, ∀ old ∈ w.installedAs.lookup new.info.moduleId,
    if isStandalone new then StandaloneSound depsOf (op.record w.installedAs) op.checked old new
    else IndexSound depsOf old new

instance (after : Map String Module) (checked : List String) (old new : Module) :
    Decidable (StandaloneSound depsOf after checked old new) :=
  inferInstanceAs (Decidable ((∀ dep ∈ depsOf new, hasDependencies old ∧ dep ∈ depsOf old) ∧
    ∀ entry ∈ after.entries, hasDependencies entry.2 → entry.1 ∉ checked →
      ∀ dep ∈ depsOf entry.2, dep.id = new.info.moduleId → Accepts dep new))

instance (old new : Module) : Decidable (IndexSound depsOf old new) :=
  inferInstanceAs (Decidable (∀ dep ∈ depsOf new, dep ∈ depsOf old →
    (∃ other ∈ depsOf new, other ∉ depsOf old ∧ other.id = dep.id) ∨
      (hasDependencies old ∧ ∀ other ∈ depsOf old, other.id = dep.id → other ∈ depsOf new)))

instance (w : World) (op : Operation) : Decidable (UpgradeSound depsOf w op) :=
  inferInstanceAs (Decidable (∀ new ∈ op.upgrades,
    ∀ old ∈ w.installedAs.lookup new.info.moduleId, if isStandalone new then
      StandaloneSound depsOf (op.record w.installedAs) op.checked old new
      else IndexSound depsOf old new))

/-- What is asked of an operation that succeeds: it is not interrupted by another one,
    contracts report what they should, and its upgrades are sound. -/
def KeepsClosure (w : World) (op : Operation) : Prop :=
  op.Alone ∧ Faithful depsOf w op ∧ UpgradeSound depsOf w op

/-! ## The invariant -/

def catalog : Packages.Catalog String Module Dependency where
  deps _ m := depsOf m
  target dep := dep.id
  Accepts := Accepts
  Tracked m := hasDependencies m

def World.release (w : World) (id : String) : Option Module := w.installedAs.lookup id

structure Invariant (w : World) : Prop where
  domain : ∀ id, id ∈ w.state.accountModules ↔ id ∈ w.installedAs
  closed : Packages.Closed (catalog depsOf) w.release
  indexed : Packages.Indexed (catalog depsOf) w.release (dependentsOf w.state.dependents)
  idle : w.state.migrateContext = []

variable {depsOf} {w w' : World} {op : Operation} {q : Querier} {out : Outcome}

/-- A dependency that the account found installed is installed as a registered
    version that it accepts. -/
theorem InstalledAt.accepted {dep : Dependency} (reports : Reports depsOf q w)
    (domain : ∀ id, id ∈ w.state.accountModules ↔ id ∈ w.installedAs)
    (h : InstalledAt q w.state.accountModules dep) :
    ∃ m, w.release dep.id = some m ∧ Accepts dep m := by
  obtain ⟨addr, installed, cw2, reported, fits⟩ := h
  obtain ⟨m, found⟩ := mem_iff_lookup.mp ((domain dep.id).mp (mem_of_lookup installed))
  obtain ⟨version, _⟩ := reports.of_lookup found installed
  rw [Option.mem_def.mp reported] at version
  refine ⟨m, found, ?_⟩
  rw [Accepts, ← Option.some.inj version]
  exact fits

/-- A module is recorded by the operation, or it was there and is not replaced. -/
theorem release_cases {modules : List Module} {id : String} {m : Module}
    (recorded : w'.installedAs = recordModules w.installedAs modules)
    (h : w'.release id = some m) :
    (m ∈ modules ∧ m.info.moduleId = id) ∨
      (id ∉ modules.map (·.info.moduleId) ∧ w.release id = some m) := by
  rw [World.release, recorded] at h
  rcases lookup_insertAll_cases h with new | ⟨missing, old⟩
  · obtain ⟨m', listed, same⟩ := List.mem_map.mp new
    obtain ⟨rfl, rfl⟩ := Prod.mk.inj same
    exact .inl ⟨listed, rfl⟩
  · refine .inr ⟨?_, old⟩
    rw [List.map_map] at missing
    exact missing

theorem release_of_unrecorded {modules : List Module} {id : String}
    (recorded : w'.installedAs = recordModules w.installedAs modules)
    (missing : id ∉ modules.map (·.info.moduleId)) : w'.release id = w.release id := by
  unfold World.release
  rw [recorded, recordModules, lookup_insertAll_of_notMem]
  rw [List.map_map]
  exact missing

omit [Crates] in
theorem mem_recordModules {before : Map String Module} {modules : List Module} {id : String} :
    id ∈ recordModules before modules ↔
      id ∈ modules.map (·.info.moduleId) ∨ id ∈ before := by
  rw [recordModules, mem_insertAll, List.map_map]
  rfl

/-! ## Installing -/

/-- What an installation of new modules has checked and stored. -/
structure Installed (w w' : World) (q : Querier) (modules : List Module) : Prop where
  fresh : ∀ m ∈ modules, m.info.moduleId ∉ w.state.accountModules
  released : w'.installedAs = recordModules w.installedAs modules
  stored : ∀ id, id ∈ w'.state.accountModules ↔
    id ∈ modules.map (·.info.moduleId) ∨ id ∈ w.state.accountModules
  idle : w'.state.migrateContext = w.state.migrateContext
  kept : ∀ id on, id ∈ dependentsOf w.state.dependents on →
    id ∈ dependentsOf w'.state.dependents on
  checked : ∀ m ∈ modules, hasDependencies m → ∀ addr,
    w'.state.accountModules.lookup m.info.moduleId = some addr →
    ∀ dep ∈ reportedDependencies q addr, InstalledAt q w'.state.accountModules dep ∧
      m.info.moduleId ∈ dependentsOf w'.state.dependents dep.id

theorem exec_installModules {modules : List ModuleInstallConfig} (alone : op.Alone)
    (isInstall : op.msg = .InstallModules modules) (ok : exec op w = .ok (w', out)) :
    Installed w w' out.querier (resolved op.env (modules.map (·.info))) ∧
      ∃ s, s.installModulesContext.map (·.1) = resolved op.env (modules.map (·.info)) ∧
        s.accountModules = w'.state.accountModules ∧ s.dependents = w.state.dependents ∧
        registerDependencies out.querier s = .ok w'.state := by
  obtain ⟨response, s, version, authAdmin, handled, rfl, replied, recorded⟩ := exec_eq_ok alone ok
  rw [isInstall] at handled
  simp only [handle, bind_eq_ok, pure_eq_ok] at handled
  obtain ⟨⟨s₁, msg⟩, installed, rfl⟩ := handled
  obtain ⟨responses, addrs, found, fresh, context, modulesEq, ids, dependents, idle⟩ :=
    installModules_eq_ok installed
  replace replied : registerDependencies out.querier
    { s₁ with contractVersion := version, authAdmin } = .ok w'.state := replied
  obtain ⟨frame, kept⟩ := registerDependencies_frame replied
  have sameModules : w'.state.accountModules = s₁.accountModules := by rw [frame]
  rw [resolved_eq found]
  refine ⟨⟨?_, ?_, ?_, ?_, ?_, ?_⟩, { s₁ with contractVersion := version, authAdmin }, context,
    sameModules.symm, dependents, replied⟩
  · intro m listed
    obtain ⟨response, isResponse, rfl⟩ := List.mem_map.mp listed
    exact fresh response isResponse
  · rw [recorded, Operation.record, isInstall]
    simp only [resolved_eq found]
  · intro id
    rw [sameModules, modulesEq, mem_insertAll, ids, List.map_map]
    rfl
  · rw [frame]
    exact idle
  · intro id on indexed
    rw [← dependents] at indexed
    exact kept id on indexed
  · intro m listed tracked addr address
    rw [← context] at listed
    obtain ⟨entry, isEntry, rfl⟩ := List.mem_map.mp listed
    rw [sameModules] at address ⊢
    exact registerDependencies_eq_ok (s := { s₁ with contractVersion := version, authAdmin })
      replied isEntry tracked address

theorem Installed.domain {modules : List Module} (h : Installed w w' q modules)
    (domain : ∀ id, id ∈ w.state.accountModules ↔ id ∈ w.installedAs) (id : String) :
    id ∈ w'.state.accountModules ↔ id ∈ w'.installedAs := by
  rw [h.stored, h.released, mem_recordModules, domain id]

theorem Invariant.installed {modules : List Module} (inv : Invariant depsOf w)
    (h : Installed w w' q modules) (reports : Reports depsOf q w') : Invariant depsOf w' := by
  have domain := h.domain inv.domain
  have kept : ∀ id m, w.release id = some m → w'.release id = some m := by
    intro id m old
    rw [release_of_unrecorded h.released]
    · exact old
    · intro listed
      obtain ⟨m', isNew, rfl⟩ := List.mem_map.mp listed
      exact h.fresh m' isNew ((inv.domain _).mpr (mem_of_lookup old))
  have checked : ∀ m ∈ modules, hasDependencies m → w'.release m.info.moduleId = some m →
      ∀ dep ∈ depsOf m, InstalledAt q w'.state.accountModules dep ∧
        m.info.moduleId ∈ dependentsOf w'.state.dependents dep.id := by
    intro m isNew tracked installed
    -- what the reply read of the contract is what is known of its version
    obtain ⟨addr, address⟩ := mem_iff_lookup.mp ((domain _).mpr (mem_of_lookup installed))
    rw [← (reports.of_lookup installed address).2]
    exact h.checked m isNew tracked addr address
  refine ⟨domain, ?_, ?_, h.idle.trans inv.idle⟩
  · apply inv.closed.add kept
    intro id m missing installed tracked dep isDep
    rcases release_cases h.released installed with ⟨isNew, rfl⟩ | ⟨_, old⟩
    · exact (checked m isNew tracked installed dep isDep).1.accepted reports domain
    · rw [old] at missing
      cases missing
  · intro id m installed tracked dep isDep
    rcases release_cases h.released installed with ⟨isNew, rfl⟩ | ⟨_, old⟩
    · exact (checked m isNew tracked installed dep isDep).2
    · exact h.kept id dep.id (inv.indexed id m old tracked dep isDep)

/-! ## Uninstalling -/

/-- What an uninstallation has checked and removed. -/
structure Uninstalled (w w' : World) (q : Querier) (moduleId : String) : Prop where
  unused : dependentsOf w.state.dependents moduleId = []
  idle : w'.state.migrateContext = w.state.migrateContext
  removed : w'.state.accountModules = w.state.accountModules.erase moduleId
  release : ∀ id, w'.release id = if id = moduleId then none else w.release id
  index : ∃ addr, w.state.accountModules.lookup moduleId = some addr ∧
    ∀ id on, id ∈ dependentsOf w'.state.dependents on ↔
      ¬ (id = moduleId ∧ ∃ dep ∈ reportedDependencies q addr, dep.id = on) ∧
        id ∈ dependentsOf w.state.dependents on

theorem exec_uninstallModule {moduleId : String} (isUninstall : op.msg = .UninstallModule moduleId)
    (ok : exec op w = .ok (w', out)) : Uninstalled w w' op.env.querier moduleId := by
  obtain ⟨s, authAdmin, removed, rfl⟩ := exec_of_uninstall isUninstall ok
  obtain ⟨unused, idle, modulesEq, index⟩ := uninstallModule_eq_ok removed
  exact ⟨unused, idle, modulesEq, fun id => lookup_erase_ite _ _ _, index⟩

theorem Uninstalled.domain {moduleId : String} (h : Uninstalled w w' q moduleId)
    (domain : ∀ id, id ∈ w.state.accountModules ↔ id ∈ w.installedAs) (id : String) :
    id ∈ w'.state.accountModules ↔ id ∈ w'.installedAs := by
  have release := h.release id
  unfold World.release at release
  rw [h.removed, AList.mem_erase, domain id, mem_iff_lookup, mem_iff_lookup, release]
  by_cases same : id = moduleId <;> simp [same]

theorem Invariant.uninstalled {moduleId : String} (inv : Invariant depsOf w)
    (h : Uninstalled w w' q moduleId) : Invariant depsOf w' := by
  obtain ⟨addr, _, index⟩ := h.index
  refine ⟨h.domain inv.domain, inv.closed.remove inv.indexed h.unused h.release, ?_,
    h.idle.trans inv.idle⟩
  intro id m installed tracked dep isDep
  rw [h.release] at installed
  split at installed
  · cases installed
  · rename_i other
    exact (index id dep.id).mpr
      ⟨fun same => other same.1, inv.indexed id m installed tracked dep isDep⟩

/-! ## Upgrading -/

section Upgrading

variable {s : AccountState} {modules : List (ModuleInfo × Option Binary)}

theorem exec_upgrade (alone : op.Alone) (idle : w.state.migrateContext = [])
    (isUpgrade : op.msg = .Upgrade modules) (ok : exec op w = .ok (w', out)) :
    w'.installedAs = recordModules w.installedAs (replacements op.env modules) ∧
      ∃ s, Upgraded op.env w.state modules s ∧
        assertModulesDependencyRequirements out.querier s = .ok w'.state := by
  obtain ⟨response, s, version, authAdmin, handled, rfl, replied, recorded⟩ := exec_eq_ok alone ok
  rw [isUpgrade] at handled
  simp only [handle, bind_eq_ok, pure_eq_ok] at handled
  obtain ⟨⟨s₁, msgs⟩, upgraded, rfl⟩ := handled
  obtain ⟨effect, sent⟩ := upgradeModules_eq_ok idle upgraded
  refine ⟨by rw [recorded, Operation.record, isUpgrade],
    { s₁ with contractVersion := version, authAdmin }, ?_, ?_⟩
  · exact ⟨effect.dependents, effect.domain, effect.context, effect.handled, effect.once⟩
  · simpa [runReply, reply, sent] using replied

theorem Upgraded.domain_after (upgraded : Upgraded op.env w.state modules s)
    (recorded : w'.installedAs = recordModules w.installedAs (replacements op.env modules))
    (sameModules : w'.state.accountModules = s.accountModules)
    (domain : ∀ id, id ∈ w.state.accountModules ↔ id ∈ w.installedAs) (id : String) :
    id ∈ w'.state.accountModules ↔ id ∈ w'.installedAs := by
  rw [sameModules, upgraded.domain, domain, recorded, mem_recordModules]
  refine ⟨.inr, ?_⟩
  rintro (replaced | old)
  · obtain ⟨m, isReplaced, rfl⟩ := List.mem_map.mp replaced
    exact (domain _).mp (upgraded.handled m isReplaced).1
  · exact old

/-- The context has each migrated module with the dependencies it had. -/
theorem Upgraded.context_deps {e : String × List Dependency} (before : Declares depsOf op.env.querier w)
    (upgraded : Upgraded op.env w.state modules s) (listed : e ∈ s.migrateContext) {old : Module}
    (installed : w.release e.1 = some old) : e.2 = depsOf old := by
  obtain ⟨_, _, _, _, addr, address, reported⟩ := upgraded.context e listed
  rw [reported]
  exact before.of_lookup installed address

/-- An upgraded module that the reply does not check is a standalone. -/
theorem Upgraded.standalone_of_unchecked (upgraded : Upgraded op.env w.state modules s) {m : Module}
    (replaced : m ∈ replacements op.env modules)
    (unchecked : m.info.moduleId ∉ s.migrateContext.map (·.1)) : isStandalone m := by
  cases kind : isStandalone m with
  | true => rfl
  | false => exact absurd ((upgraded.handled m replaced).2.2 kind).1 unchecked

theorem Upgraded.notMem_checked (upgraded : Upgraded op.env w.state modules s)
    (isUpgrade : op.msg = .Upgrade modules) {id : String}
    (unchecked : id ∉ s.migrateContext.map (·.1)) : id ∉ op.checked := by
  simp only [Operation.checked, Operation.upgrades, isUpgrade, List.mem_map, List.mem_filter]
  rintro ⟨m, ⟨replaced, isChecked⟩, rfl⟩
  have kind := upgraded.standalone_of_unchecked replaced unchecked
  simp [kind] at isChecked

theorem UpgradeSound.of_replaced {old new : Module} (sound : UpgradeSound depsOf w op)
    (isUpgrade : op.msg = .Upgrade modules) (replaced : new ∈ replacements op.env modules)
    (installed : w.release new.info.moduleId = some old) :
    if isStandalone new then StandaloneSound depsOf (op.record w.installedAs) op.checked old new
    else IndexSound depsOf old new := by
  refine sound new ?_ old installed
  rw [Operation.upgrades, isUpgrade]
  exact replaced

/-- What the reply does not check has no new dependencies. -/
theorem unchecked_deps (inv : Invariant depsOf w) (isUpgrade : op.msg = .Upgrade modules)
    (sound : UpgradeSound depsOf w op) (upgraded : Upgraded op.env w.state modules s)
    (recorded : w'.installedAs = recordModules w.installedAs (replacements op.env modules))
    {id : String} {m : Module} (installed : w'.release id = some m) (tracked : hasDependencies m)
    (unchecked : id ∉ s.migrateContext.map (·.1)) :
    ∃ old, w.release id = some old ∧
      ∀ dep ∈ depsOf m, hasDependencies old ∧ dep ∈ depsOf old := by
  rcases release_cases recorded installed with ⟨replaced, rfl⟩ | ⟨_, same⟩
  · have present := (inv.domain _).mp (upgraded.handled m replaced).1
    obtain ⟨old, was⟩ := mem_iff_lookup.mp present
    have condition := sound.of_replaced isUpgrade replaced was
    rw [if_pos (upgraded.standalone_of_unchecked replaced unchecked)] at condition
    exact ⟨old, was, condition.1⟩
  · exact ⟨m, same, fun dep isDep => ⟨tracked, isDep⟩⟩

/-- The dependents of a replaced module that the reply does not check accept it. -/
theorem dependents_accept (inv : Invariant depsOf w) (isUpgrade : op.msg = .Upgrade modules)
    (before : Reports depsOf op.env.querier w) (sound : UpgradeSound depsOf w op)
    (upgraded : Upgraded op.env w.state modules s)
    (recorded : w'.installedAs = recordModules w.installedAs (replacements op.env modules))
    {new : Module} (replaced : new ∈ replacements op.env modules)
    {id : String} {old now : Module} (was : w.release id = some old)
    (is : w'.release id = some now) (tracked : hasDependencies old) (tracked' : hasDependencies now)
    (unchecked : id ∉ s.migrateContext.map (·.1)) {dep : Dependency} (isDep : dep ∈ depsOf old)
    (isDep' : dep ∈ depsOf now) (isOn : dep.id = new.info.moduleId) : Accepts dep new := by
  obtain ⟨present, _, checks⟩ := upgraded.handled new replaced
  cases kind : isStandalone new with
  | true =>
    -- nobody asks the dependents of a standalone
    obtain ⟨target, installed⟩ := mem_iff_lookup.mp ((inv.domain _).mp present)
    have condition := sound.of_replaced isUpgrade replaced installed
    rw [if_pos kind] at condition
    have entry : (⟨id, now⟩ : (_ : String) × Module) ∈ (op.record w.installedAs).entries := by
      rw [Operation.record, isUpgrade]
      dsimp only
      rw [← recorded]
      exact AList.mem_lookup_iff.mp is
    exact condition.2 ⟨id, now⟩ entry tracked' (upgraded.notMem_checked isUpgrade unchecked)
      dep isDep' isOn
  | false =>
    obtain ⟨_, version, parsed, supported⟩ := checks kind
    -- the index names every dependent that has to be asked
    have indexed := inv.indexed id old was tracked dep isDep
    rw [show (catalog depsOf).target dep = new.info.moduleId from isOn] at indexed
    obtain ⟨addr, address, fits⟩ := supported id indexed unchecked
    rw [(before.of_lookup was address).2] at fits
    cases isVersion : new.info.version with
    | Latest => simp [toSemver, isVersion] at parsed
    | Version text =>
      simp only [toSemver, isVersion, mapError_eq_ok] at parsed
      rw [Accepts, isVersion]
      exact ⟨version, parsed, fits dep isDep isOn⟩

/-- The reply keeps the index complete for the modules it migrates. -/
theorem reply_indexes (inv : Invariant depsOf w) (isUpgrade : op.msg = .Upgrade modules)
    (before : Reports depsOf op.env.querier w) (sound : UpgradeSound depsOf w op)
    (upgraded : Upgraded op.env w.state modules s)
    (replied : assertModulesDependencyRequirements q s = .ok w'.state)
    {e : String × List Dependency} (listed : e ∈ s.migrateContext) {m : Module} {addr : Addr}
    (replaced : m ∈ replacements op.env modules) (sameId : m.info.moduleId = e.1)
    (address : s.accountModules.lookup e.1 = some addr)
    (reported : reportedDependencies q addr = depsOf m) {dep : Dependency}
    (isDep : dep ∈ depsOf m) : e.1 ∈ dependentsOf w'.state.dependents dep.id := by
  obtain ⟨m', replaced', checked, sameId', addr₀, address₀, _⟩ := upgraded.context e listed
  obtain rfl := upgraded.once m replaced m' replaced' (sameId.trans sameId'.symm)
  obtain ⟨old, was⟩ := mem_iff_lookup.mp ((inv.domain _).mp (mem_of_lookup address₀))
  have once : ∀ e' ∈ s.migrateContext, e'.1 = e.1 → e'.2 = depsOf old := by
    intro e' listed' same
    exact upgraded.context_deps before.declares listed' (same ▸ was)
  rw [mem_dependents_of_migrated replied listed
    (fun e' listed' same => (once e' listed' same).trans (once e listed rfl).symm) address,
    reported, once e listed rfl, upgraded.dependents]
  -- a requirement that stays is indexed already, unless the reply drops its module
  by_cases known : dep ∈ depsOf old
  · have condition := sound.of_replaced isUpgrade replaced (sameId ▸ was)
    rw [if_neg (by simp [checked])] at condition
    rcases condition dep isDep known with new | ⟨tracked, unchanged⟩
    · exact .inl new
    · refine .inr ⟨?_, inv.indexed e.1 old was tracked dep known⟩
      rintro ⟨other, isOld, dropped, isOn⟩
      exact dropped (unchanged other isOld isOn)
  · exact .inl ⟨dep, isDep, known, rfl⟩

end Upgrading

theorem Invariant.upgrade {modules : List (ModuleInfo × Option Binary)} (inv : Invariant depsOf w)
    (alone : op.Alone) (isUpgrade : op.msg = .Upgrade modules)
    (before : Reports depsOf op.env.querier w) (sound : UpgradeSound depsOf w op)
    (ok : exec op w = .ok (w', out)) (after : Reports depsOf out.querier w') :
    Invariant depsOf w' := by
  obtain ⟨recorded, s, upgraded, replied⟩ := exec_upgrade alone inv.idle isUpgrade ok
  obtain ⟨sameModules, idle⟩ := assertModulesDependencyRequirements_frame replied
  have domain := upgraded.domain_after recorded sameModules inv.domain
  -- what the reply has read of a migrated module
  have migrated : ∀ id m, w'.release id = some m → id ∈ s.migrateContext.map (·.1) →
      ∃ e ∈ s.migrateContext, e.1 = id ∧ ∃ addr, s.accountModules.lookup e.1 = some addr ∧
        reportedDependencies out.querier addr = depsOf m := by
    intro id m installed checked
    obtain ⟨e, listed, rfl⟩ := List.mem_map.mp checked
    obtain ⟨addr, address⟩ := mem_iff_lookup.mp ((domain _).mpr (mem_of_lookup installed))
    exact ⟨e, listed, rfl, addr, sameModules ▸ address, (after.of_lookup installed address).2⟩
  refine ⟨domain, ?_, ?_, idle⟩
  -- closed: the reply has checked the migrated modules, the rest had their consent asked
  · refine inv.closed.replace (fun id => id ∈ s.migrateContext.map (·.1)) ?_ ?_ ?_ ?_
    · intro id m installed
      have present := (inv.domain id).mpr (mem_of_lookup installed)
      rw [← upgraded.domain, ← sameModules, domain] at present
      exact mem_iff_lookup.mp present
    · intro id m installed _ checked dep isDep
      obtain ⟨e, listed, rfl, addr, address, reported⟩ := migrated id m installed checked
      have met := assertModulesDependencyRequirements_met replied listed address
      rw [reported, ← sameModules] at met
      exact (met dep isDep).accepted after domain
    · intro id m installed tracked unchecked
      exact unchecked_deps inv isUpgrade sound upgraded recorded installed tracked unchecked
    · intro id m m' was is different i old now was' is' tracked tracked' unchecked dep isDep isDep' isOn
      rcases release_cases recorded is with ⟨replaced, rfl⟩ | ⟨_, same⟩
      · exact dependents_accept inv isUpgrade before sound upgraded recorded replaced was' is'
          tracked tracked' unchecked isDep isDep' isOn
      · rw [was] at same
        exact absurd (Option.some.inj same).symm different
  -- indexed: only the entries of migrated modules were written
  · intro id m installed tracked dep isDep
    by_cases checked : id ∈ s.migrateContext.map (·.1)
    · obtain ⟨e, listed, rfl, addr, address, reported⟩ := migrated id m installed checked
      obtain ⟨m', replaced', _, sameId, _⟩ := upgraded.context e listed
      rcases release_cases recorded installed with ⟨replaced, sameId'⟩ | ⟨missing, _⟩
      · exact reply_indexes inv isUpgrade before sound upgraded replied listed replaced sameId'
          address reported isDep
      · exact absurd (List.mem_map.mpr ⟨m', replaced', sameId⟩) missing
    · obtain ⟨old, was, fewer⟩ :=
        unchecked_deps inv isUpgrade sound upgraded recorded installed tracked checked
      obtain ⟨tracked', isDep'⟩ := fewer dep isDep
      apply (mem_dependents_of_unmigrated replied checked).mpr
      rw [upgraded.dependents]
      exact inv.indexed id old was tracked' dep isDep'

/-! ## Runs -/

/-- Every dependency that an installed app, adapter or standalone reports is
    installed, and reports a version that fits. -/
def DependenciesInstalled (q : Querier) (w : World) : Prop :=
  ∀ entry ∈ w.state.accountModules.entries, ∃ m ∈ w.installedAs.lookup entry.1,
    hasDependencies m → ∀ dep ∈ reportedDependencies q entry.2,
      InstalledAt q w.state.accountModules dep

instance : Decidable (DependenciesInstalled q w) :=
  inferInstanceAs (Decidable (∀ entry ∈ w.state.accountModules.entries,
    ∃ m ∈ w.installedAs.lookup entry.1, hasDependencies m →
      ∀ dep ∈ reportedDependencies q entry.2, InstalledAt q w.state.accountModules dep))

theorem Invariant.dependenciesInstalled (inv : Invariant depsOf w) (reports : Reports depsOf q w) :
    DependenciesInstalled q w := by
  rintro ⟨id, addr⟩ listed
  have address : w.state.accountModules.lookup id = some addr := AList.mem_lookup_iff.mpr listed
  obtain ⟨m, installed⟩ := mem_iff_lookup.mp ((inv.domain id).mp (mem_of_lookup address))
  refine ⟨m, installed, ?_⟩
  intro tracked dep isDep
  dsimp only at isDep
  rw [(reports.of_lookup installed address).2] at isDep
  obtain ⟨target, found, accepts⟩ := inv.closed id m installed tracked dep isDep
  obtain ⟨depAddr, depAddress⟩ := mem_iff_lookup.mp ((inv.domain _).mpr (mem_of_lookup found))
  obtain ⟨version, _⟩ := reports.of_lookup found depAddress
  obtain ⟨cw2, reported, sameVersion⟩ := Option.map_eq_some_iff.mp version
  refine ⟨depAddr, depAddress, cw2, reported, ?_⟩
  rw [sameVersion]
  exact accepts

theorem Invariant.exec (inv : Invariant depsOf w) (alone : op.Alone)
    (faithful : Faithful depsOf w op) (sound : UpgradeSound depsOf w op)
    (ok : exec op w = .ok (w', out)) : Invariant depsOf w' := by
  have after : Reports depsOf out.querier w' := faithful.2 (w', out) (toOption_eq_some.mpr ok)
  cases kind : op.msg with
  | InstallModules modules =>
    exact inv.installed (exec_installModules alone kind ok).1 after
  | UninstallModule moduleId => exact inv.uninstalled (exec_uninstallModule kind ok)
  | Upgrade modules => exact inv.upgrade alone kind faithful.1 sound ok after

theorem invariant_empty {s : AccountState} (noModules : s.accountModules = ∅)
    (idle : s.migrateContext = []) : Invariant depsOf ⟨s, ∅⟩ := by
  refine ⟨?_, ?_, ?_, idle⟩
  · intro id
    rw [noModules]
    exact .rfl
  · intro id m installed
    cases installed
  · intro id m installed
    cases installed

/-- In every run of operations from an account without modules, the dependencies
    of the installed modules are installed after each operation that succeeds. -/
theorem dependency_closure {s : AccountState} (noModules : s.accountModules = ∅)
    (idle : s.migrateContext = []) {ops : List Operation}
    (along : AlongAccepted exec (KeepsClosure depsOf) ⟨s, ∅⟩ (ops ++ [op]))
    (ok : exec op (run exec ⟨s, ∅⟩ ops) = .ok (w', out)) : DependenciesInstalled out.querier w' := by
  obtain ⟨earlier, here, _⟩ := alongAccepted_append.mp along
  obtain ⟨alone, faithful, sound⟩ := here ⟨_, ok⟩
  have inv : Invariant depsOf (run exec ⟨s, ∅⟩ ops) :=
    run_invariant_accepted (fun _ _ _ _ here inv ok => inv.exec here.1 here.2.1 here.2.2 ok)
      (invariant_empty noModules idle) earlier
  have after : Reports depsOf out.querier w' := faithful.2 (w', out) (toOption_eq_some.mpr ok)
  exact (inv.exec alone faithful sound ok).dependenciesInstalled after

end Closure

/-! ## A run

The adapter `pub:bot` depends on the standalone `pub:lib`, each at several
versions. -/

section Run

attribute [local instance] releaseCrates

def sampleAccount : Addr := ⟨"account"⟩
def sampleOwner : Addr := ⟨"owner"⟩
def libAddr : Addr := ⟨"lib"⟩
def botAddr : Addr := ⟨"bot"⟩
def nextBotAddr : Addr := ⟨"next-bot"⟩
def sampleId : AccountId := ⟨.Local, 1⟩

def libInfo (version : String) : ModuleInfo := ⟨⟨"pub"⟩, "lib", .Version version⟩
def botInfo (version : String) : ModuleInfo := ⟨⟨"pub"⟩, "bot", .Version version⟩

def sampleRegistry : RegistryState where
  config := { securityEnabled := false, namespaceRegistrationFee := none }
  ownership := none
  pendingModules := ∅
  registeredModules := insertAll ∅
    [((libInfo "1.0.0").key, .Standalone 7), ((libInfo "1.1.0").key, .Standalone 8),
      ((libInfo "2.0.0").key, .Standalone 9), ((botInfo "1.0.0").key, .Adapter botAddr),
      ((botInfo "1.1.0").key, .Adapter nextBotAddr)]
  yankedModules := ∅
  standaloneInfos := insertAll ∅
    [(7, libInfo "1.0.0"), (8, libInfo "1.1.0"), (9, libInfo "2.0.0")]
  serviceInfos := ∅
  moduleConfig := ∅
  moduleDefaultConfig := ∅
  accountAddresses := insertAll ∅ [(sampleId.storageKey, sampleAccount)]
  localAccountSequence := 2
  namespaces := insertAll ∅ [(⟨"pub"⟩, sampleId)]
  revNamespaces := insertAll ∅ [(sampleId.storageKey, ⟨"pub"⟩)]

/-- `pub:bot` requires `pub:lib` at `^1.0.0`, from version 1.1.0 on at `^1.1.0`. -/
def sampleDeps (m : Module) : List Dependency :=
  if m.info = botInfo "1.0.0" then [⟨"pub:lib", [(1, 0, 0)]⟩]
  else if m.info = botInfo "1.1.0" then [⟨"pub:lib", [(1, 1, 0)]⟩]
  else []

def moduleContract (codeId : Nat) (id version : String) (dependencies : List Dependency) :
    Contract :=
  { Contract.bare codeId with
    cw2 := some { contract := id, version }
    moduleData := some { module := id, version, dependencies }
    authorizedAddresses := fun _ => some [] }

/-- The contract of `pub:lib` at a version. -/
def libContract (codeId : Nat) (version : String) : Contract :=
  moduleContract codeId "pub:lib" version []

def sampleQuerier (lib : Option Contract) : Querier where
  contract addr :=
    if addr = sampleAccount then some (Contract.account sampleId (.Monarchy sampleOwner))
    else if addr = libAddr then lib
    else if addr = botAddr then
      some (moduleContract 3 "pub:bot" "1.0.0" [⟨"pub:lib", [(1, 0, 0)]⟩])
    else if addr = nextBotAddr then
      some (moduleContract 4 "pub:bot" "1.1.0" [⟨"pub:lib", [(1, 1, 0)]⟩])
    else none
  codeInfo codeId := some { checksum := [UInt8.ofNat codeId], creator := sampleOwner }
  registryAddress _ := none

/-- An operation that takes the contract of `pub:lib` from one version to another. -/
def sampleOperation (before : Option Contract) (after : Contract) (msg : ExecuteMsg) :
    Operation where
  env :=
    { address := sampleAccount
      blockHeight := 1
      querier := sampleQuerier before
      registry := sampleRegistry
      factory := ⟨"factory"⟩
      instantiate2Address := fun _ _ _ => .ok libAddr
      sha256 := fun bytes => bytes
      fromJson := fun msg => .ok msg
      xion := false }
  code :=
    { execute := fun msg q => .done <| .ok <|
        match msg with
        | .Migrate .. => sampleQuerier after
        | _ => q
      create := fun _ _ => .done (.ok (sampleQuerier after))
      accountVersion := fun _ => "1.0.0" }
  info := { sender := sampleOwner, funds := [] }
  msg := msg

theorem sampleOperation_alone (before : Option Contract) (after : Contract) (msg : ExecuteMsg) :
    (sampleOperation before after msg).Alone :=
  ⟨fun _ _ => trivial, fun _ _ => trivial⟩

def installBot : Operation :=
  sampleOperation none (libContract 7 "1.0.0") (.InstallModules
    [{ info := libInfo "1.0.0", initMsg := some [] }, { info := botInfo "1.0.0", initMsg := none }])

def upgradeBoth : Operation :=
  sampleOperation (libContract 7 "1.0.0") (libContract 8 "1.1.0")
    (.Upgrade [(libInfo "1.1.0", some []), (botInfo "1.1.0", none)])

def upgradeLib : Operation :=
  sampleOperation (libContract 7 "1.0.0") (libContract 9 "2.0.0")
    (.Upgrade [(libInfo "2.0.0", some [])])

def emptyAccount : AccountState where
  contractVersion := { contract := ACCOUNT, version := "1.0.0" }
  accountId := sampleId
  ownership := { owner := .Monarchy sampleOwner, pendingOwner := none, pendingExpiry := none }
  authAdmin := none
  suspensionStatus := false
  accountModules := ∅
  dependents := ∅
  whitelistedModules := []
  installModulesContext := []
  migrateContext := []
  callingToAsAdmin := none

/-- Both modules are upgraded together. -/
theorem dependency_closure_upgradeBoth :
    AlongAccepted exec (KeepsClosure sampleDeps) ⟨emptyAccount, ∅⟩ [installBot, upgradeBoth] ∧
      ∃ w' out, exec upgradeBoth (run exec ⟨emptyAccount, ∅⟩ [installBot]) = .ok (w', out) ∧
        DependenciesInstalled out.querier w' := by
  have alone : ∀ op ∈ [installBot, upgradeBoth], op.Alone := by
    simp [installBot, upgradeBoth, sampleOperation_alone]
  have sound : Along exec (fun w op => Faithful sampleDeps w op ∧ UpgradeSound sampleDeps w op)
      ⟨emptyAccount, ∅⟩ [installBot, upgradeBoth] := by decide
  have along : AlongAccepted exec (KeepsClosure sampleDeps) ⟨emptyAccount, ∅⟩
      ([installBot] ++ [upgradeBoth]) := ((along_of_forall alone).and sound).accepted
  have succeeds : (exec upgradeBoth (run exec ⟨emptyAccount, ∅⟩ [installBot])).toOption.isSome := by
    decide
  obtain ⟨⟨w', out⟩, result⟩ := Option.isSome_iff_exists.mp succeeds
  have ok := toOption_eq_some.mp result
  exact ⟨along, w', out, ok, dependency_closure rfl rfl along ok⟩

/-- The standalone is upgraded alone, to a version that the adapter does not accept. -/
theorem standalone_upgrade_breaks_closure :
    (∀ op ∈ [installBot, upgradeLib], op.Alone) ∧
      Along exec (Faithful sampleDeps) ⟨emptyAccount, ∅⟩ [installBot, upgradeLib] ∧
      ∃ w' out, exec upgradeLib (run exec ⟨emptyAccount, ∅⟩ [installBot]) = .ok (w', out) ∧
        ¬ DependenciesInstalled out.querier w' := by
  refine ⟨by simp [installBot, upgradeLib, sampleOperation_alone], by decide, ?_⟩
  have broken : ∃ result ∈ (exec upgradeLib (run exec ⟨emptyAccount, ∅⟩ [installBot])).toOption,
      ¬ DependenciesInstalled result.2.querier result.1 := by decide
  obtain ⟨⟨w', out⟩, result, notInstalled⟩ := broken
  exact ⟨w', out, toOption_eq_some.mp result, notInstalled⟩

end Run

end AbstractFramework.Account
