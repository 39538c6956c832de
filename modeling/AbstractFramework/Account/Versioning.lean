import AbstractFramework.Account.State

/-! # Dependencies of installed modules

The checks on the versions of dependencies, and the index of dependents that
they are kept consistent with.  Each function has its specification beside it:
what a successful check has established, or what the index holds afterwards.
-/

namespace AbstractFramework.Account

open AbstractFramework Fallible Storage

variable [Crates] {q : Querier} {s s' : AccountState}

/-! ## Loading -/

/-- Checked load of a module address. -/
def loadModuleAddr (s : AccountState) (moduleId : String) : Except AccountError Addr :=
  okOr (s.accountModules.lookup moduleId) (.ModuleNotFound moduleId)

def loadModuleData (q : Querier) (s : AccountState) (moduleId : String) :
    Except AccountError ModuleData := do
  let addr ← loadModuleAddr s moduleId
  (q.queryModuleData addr).mapError AccountError.Std

def loadModuleDependencies (q : Querier) (s : AccountState) (moduleId : String) :
    Except AccountError (List Dependency) := do
  let data ← loadModuleData q s moduleId
  return data.dependencies

/-- What a contract reports as its dependencies; without module data it has none. -/
def reportedDependencies (q : Querier) (addr : Addr) : List Dependency :=
  ((q.item Contract.moduleData addr).map (·.dependencies)).getD []

theorem loadModuleDependencies_eq_ok {moduleId : String} {deps : List Dependency}
    (h : loadModuleDependencies q s moduleId = .ok deps) :
    ∃ addr, s.accountModules.lookup moduleId = some addr ∧ deps = reportedDependencies q addr := by
  simp only [loadModuleDependencies, loadModuleData, loadModuleAddr, Querier.queryModuleData,
    bind_eq_ok, okOr_eq_ok, mapError_eq_ok, pure_eq_ok] at h
  obtain ⟨data, ⟨addr, found, reported⟩, rfl⟩ := h
  refine ⟨addr, found, ?_⟩
  simp [reportedDependencies, reported]

/-! ## Version checks -/

def assertComparators (bounds : List Crates.Comparator) (version : Crates.Version)
    (moduleId : String) (postMigration : Bool) : Except AccountError Unit :=
  match bounds.find? fun comp => !Crates.comparatorMatches comp version with
  | none => .ok ()
  | some comp => .error (.VersionRequirementNotMet moduleId (Crates.showVersion version)
      (Crates.showComparator comp) postMigration)

@[simp] theorem assertComparators_eq_ok {bounds : List Crates.Comparator}
    {version : Crates.Version} {moduleId : String} {postMigration : Bool} {u : Unit} :
    assertComparators bounds version moduleId postMigration = .ok u ↔
      ∀ comp ∈ bounds, Crates.comparatorMatches comp version = true := by
  unfold assertComparators
  split
  · rename_i none
    simpa using none
  · rename_i comp found
    have listed := List.mem_of_find?_eq_some found
    have fails := List.find?_some found
    simp only [reduceCtorEq, false_iff, not_forall]
    exact ⟨comp, listed, by simpa using fails⟩

/-- The version text parses and all comparators match it. -/
def Satisfies (version : String) (bounds : List Crates.Comparator) : Prop :=
  ∃ v, Crates.parseVersion version = .ok v ∧
    ∀ comp ∈ bounds, Crates.comparatorMatches comp v = true

instance {version : String} {bounds : List Crates.Comparator} :
    Decidable (Satisfies version bounds) :=
  match h : Crates.parseVersion version with
  | .ok v => decidable_of_iff (∀ comp ∈ bounds, Crates.comparatorMatches comp v = true)
      (by simp [Satisfies, h])
  | .error _ => isFalse (by simp [Satisfies, h])

/-- `str::parse().unwrap()` on a version. -/
def parseUnwrap (version : String) : Except AccountError Crates.Version :=
  (Crates.parseVersion version).mapError fun e => AccountError.Panicked ("unwrap: " ++ e)

/-- One dependency of `assert_dependency_requirements`. -/
def assertDependency (q : Querier) (s : AccountState) (dependent : String) (dep : Dependency) :
    Except AccountError Unit := do
  let depAddr ← okOr (s.accountModules.lookup dep.id) (.DependencyNotMet dep.id dependent)
  let cw2 ← (q.queryContractVersion depAddr).mapError AccountError.Std
  let version ← parseUnwrap cw2.version
  assertComparators dep.versionReq version dep.id true

/-- The dependencies are installed at versions that fit the requirements. -/
def assertDependencyRequirements (q : Querier) (s : AccountState) (dependencies : List Dependency)
    (dependent : String) : Except AccountError Unit :=
  forEach (assertDependency q s dependent) dependencies

/-- A dependency is installed, and its contract reports a version that fits. -/
def InstalledAt (q : Querier) (modules : Map String Addr) (dep : Dependency) : Prop :=
  ∃ addr ∈ modules.lookup dep.id, ∃ cw2 ∈ q.item Contract.cw2 addr,
    Satisfies cw2.version dep.versionReq

instance (modules : Map String Addr) (dep : Dependency) : Decidable (InstalledAt q modules dep) :=
  inferInstanceAs (Decidable (∃ addr ∈ modules.lookup dep.id, ∃ cw2 ∈ q.item Contract.cw2 addr,
    Satisfies cw2.version dep.versionReq))

theorem assertDependencyRequirements_eq_ok {dependencies : List Dependency} {dependent : String}
    {u : Unit} (h : assertDependencyRequirements q s dependencies dependent = .ok u) :
    ∀ dep ∈ dependencies, InstalledAt q s.accountModules dep := by
  intro dep listed
  have checked := forEach_eq_ok.mp h dep listed
  simp only [assertDependency, parseUnwrap, Querier.queryContractVersion, bind_eq_ok, okOr_eq_ok,
    mapError_eq_ok, assertComparators_eq_ok] at checked
  obtain ⟨addr, installed, cw2, reported, version, parsed, matched⟩ := checked
  exact ⟨addr, installed, cw2, reported, version, parsed, matched⟩

/-- Assert the dependencies that this app or adapter relies on are installed. -/
def assertInstallRequirements (q : Querier) (s : AccountState) (moduleId : String) :
    Except AccountError (List Dependency) := do
  let dependencies ← loadModuleDependencies q s moduleId
  assertDependencyRequirements q s dependencies moduleId
  return dependencies

/-- Assert the dependencies that this standalone relies on are installed.  For
    standalones they are optional. -/
def assertInstallRequirementsStandalone (q : Querier) (s : AccountState) (moduleId : String) :
    Except AccountError (List Dependency) := do
  -- an error of the query counts as no dependencies
  let dependencies := (loadModuleDependencies q s moduleId).toOption.getD []
  assertDependencyRequirements q s dependencies moduleId
  return dependencies

theorem assertInstallRequirements_eq_ok {moduleId : String} {deps : List Dependency}
    (h : assertInstallRequirements q s moduleId = .ok deps) :
    (∃ addr, s.accountModules.lookup moduleId = some addr ∧ deps = reportedDependencies q addr) ∧
      ∀ dep ∈ deps, InstalledAt q s.accountModules dep := by
  simp only [assertInstallRequirements, bind_eq_ok, pure_eq_ok] at h
  obtain ⟨_, loaded, _, checked, rfl⟩ := h
  exact ⟨loadModuleDependencies_eq_ok loaded, assertDependencyRequirements_eq_ok checked⟩

theorem assertInstallRequirementsStandalone_eq_ok {moduleId : String} {addr : Addr}
    {deps : List Dependency} (installed : s.accountModules.lookup moduleId = some addr)
    (h : assertInstallRequirementsStandalone q s moduleId = .ok deps) :
    deps = reportedDependencies q addr ∧ ∀ dep ∈ deps, InstalledAt q s.accountModules dep := by
  simp only [assertInstallRequirementsStandalone, bind_eq_ok, pure_eq_ok] at h
  obtain ⟨_, checked, rfl⟩ := h
  refine ⟨?_, assertDependencyRequirements_eq_ok checked⟩
  cases reported : q.item Contract.moduleData addr <;>
    simp [loadModuleDependencies, loadModuleData, loadModuleAddr, installed, okOr, reported,
      Querier.queryModuleData, reportedDependencies, bind, Except.bind, Except.mapError, pure,
      Except.pure, Except.toOption]

/-- `ModuleVersion::try_into::<Version>`. -/
def toSemver : ModuleVersion → Except AccountError Crates.Version
  | .Latest => .error (.Abstract (.MissingVersion "module"))
  | .Version ver => (Crates.parseVersion ver).mapError fun e => .Abstract (.Semver e)

/-- One dependent of `assert_migrate_requirements`. -/
def assertDependent (q : Querier) (s : AccountState) (moduleId : String)
    (newVersion : Crates.Version) (dependent : String) : Except AccountError Unit :=
  -- if the dependent is also being migrated, skip it
  if dependent ∈ s.migrateContext.map (·.1) then .ok ()
  else do
    -- a dependent that is no longer installed blocks the upgrade
    let addr ← okOr (s.accountModules.lookup dependent) (.Std (.notFound "Addr"))
    let data ← (q.queryModuleData addr).mapError AccountError.Std
    forEach (fun dep => assertComparators dep.versionReq newVersion moduleId false)
      (data.dependencies.filter fun dep => dep.id = moduleId)

/-- Assert that the new version of this app is supported by its dependents,
    unless that dependent is also being migrated. -/
def assertMigrateRequirements (q : Querier) (s : AccountState) (moduleId : String)
    (newVersion : Crates.Version) : Except AccountError Unit :=
  forEach (assertDependent q s moduleId newVersion) (dependentsOf s.dependents moduleId)

theorem assertMigrateRequirements_eq_ok {moduleId : String} {newVersion : Crates.Version}
    {u : Unit} (h : assertMigrateRequirements q s moduleId newVersion = .ok u) :
    ∀ dependent ∈ dependentsOf s.dependents moduleId, dependent ∉ s.migrateContext.map (·.1) →
      ∃ addr, s.accountModules.lookup dependent = some addr ∧
        ∀ dep ∈ reportedDependencies q addr, dep.id = moduleId →
          ∀ comp ∈ dep.versionReq, Crates.comparatorMatches comp newVersion = true := by
  intro dependent listed notMigrating
  have checked := forEach_eq_ok.mp h dependent listed
  rw [assertDependent, if_neg notMigrating] at checked
  simp only [Querier.queryModuleData, bind_eq_ok, okOr_eq_ok, mapError_eq_ok, forEach_eq_ok,
    assertComparators_eq_ok, List.mem_filter, decide_eq_true_eq] at checked
  obtain ⟨addr, installed, data, reported, matched⟩ := checked
  refine ⟨addr, installed, ?_⟩
  intro dep isDep isOn
  rw [reportedDependencies, reported] at isDep
  exact matched dep ⟨isDep, isOn⟩

/-! ## The index of dependents -/

section Index

variable {m m' : Dependents} {moduleId depId id on : String} {deps : List Dependency}

def addDependent (moduleId : String) (m : Dependents) (depId : String) : Dependents :=
  m.insert depId ((dependentsOf m depId).insert moduleId)

def dropDependent (moduleId : String) (m : Dependents) (depId : String) : Dependents :=
  m.insert depId ((dependentsOf m depId).filter (· ≠ moduleId))

def setAsDependent (m : Dependents) (moduleId : String) (dependencies : List Dependency) :
    Dependents :=
  dependencies.foldl (fun m dep => addDependent moduleId m dep.id) m

def removeAsDependent (m : Dependents) (moduleId : String) (dependencies : List Dependency) :
    Dependents :=
  dependencies.foldl (fun m dep => dropDependent moduleId m dep.id) m

omit [Crates] in
theorem mem_addDependent :
    id ∈ dependentsOf (addDependent moduleId m depId) on ↔
      (id = moduleId ∧ depId = on) ∨ id ∈ dependentsOf m on := by
  unfold addDependent
  by_cases same : on = depId
  · subst same
    simp [dependentsOf, List.mem_insert_iff]
  · simp [dependentsOf, AList.lookup_insert_ne same, Ne.symm same]

omit [Crates] in
theorem mem_dropDependent :
    id ∈ dependentsOf (dropDependent moduleId m depId) on ↔
      ¬ (id = moduleId ∧ depId = on) ∧ id ∈ dependentsOf m on := by
  unfold dropDependent
  by_cases same : on = depId
  · subst same
    simp [dependentsOf, and_comm]
  · simp [dependentsOf, AList.lookup_insert_ne same, Ne.symm same]

theorem mem_setAsDependent :
    id ∈ dependentsOf (setAsDependent m moduleId deps) on ↔
      (id = moduleId ∧ ∃ dep ∈ deps, dep.id = on) ∨ id ∈ dependentsOf m on := by
  induction deps generalizing m with
  | nil => simp [setAsDependent]
  | cons dep deps ih =>
    have rest : id ∈ dependentsOf (setAsDependent m moduleId (dep :: deps)) on ↔
        id ∈ dependentsOf (setAsDependent (addDependent moduleId m dep.id) moduleId deps) on := .rfl
    rw [rest, ih, mem_addDependent]
    simp only [List.mem_cons, exists_eq_or_imp, and_or_left]
    grind

theorem mem_removeAsDependent :
    id ∈ dependentsOf (removeAsDependent m moduleId deps) on ↔
      ¬ (id = moduleId ∧ ∃ dep ∈ deps, dep.id = on) ∧ id ∈ dependentsOf m on := by
  induction deps generalizing m with
  | nil => simp [removeAsDependent]
  | cons dep deps ih =>
    have rest : id ∈ dependentsOf (removeAsDependent m moduleId (dep :: deps)) on ↔
        id ∈ dependentsOf (removeAsDependent (dropDependent moduleId m dep.id) moduleId deps) on :=
      .rfl
    rw [rest, ih, mem_dropDependent]
    simp only [List.mem_cons, exists_eq_or_imp, and_or_left]
    grind

/-- The index keeps its keys when sets of dependents are written. -/
theorem mem_foldl_insert {f : Dependents → Dependency → List String} (h : on ∈ m) :
    on ∈ deps.foldl (fun m dep => m.insert dep.id (f m dep)) m := by
  induction deps generalizing m with
  | nil => exact h
  | cons dep deps ih => exact ih ((AList.mem_insert _).mpr (.inr h))

/-- Remove the module from the dependents of what it no longer requires. -/
def maybeRemoveOldDeps (q : Querier) (s : AccountState) (moduleId : String)
    (oldDeps : List Dependency) : Except AccountError AccountState := do
  let newDeps ← loadModuleDependencies q s moduleId
  let dependents ← (oldDeps.filter (· ∉ newDeps)).foldlM (fun m dep => do
    -- migrating, so the set should be saved
    let _ ← okOr (m.lookup dep.id) (.Panicked "called `Option::unwrap()` on a `None` value")
    return dropDependent moduleId m dep.id) s.dependents
  return { s with dependents }

/-- Add the module to the dependents of what it newly requires. -/
def maybeAddNewDeps (q : Querier) (s : AccountState) (moduleId : String)
    (oldDeps : List Dependency) : Except AccountError (AccountState × List Dependency) := do
  let newDeps ← loadModuleDependencies q s moduleId
  let added := newDeps.filter (· ∉ oldDeps)
  return ({ s with dependents := setAsDependent s.dependents moduleId added }, newDeps)

theorem maybeRemoveOldDeps_eq_ok {oldDeps : List Dependency}
    (h : maybeRemoveOldDeps q s moduleId oldDeps = .ok s') :
    ∃ newDeps, loadModuleDependencies q s moduleId = .ok newDeps ∧
      s' = { s with dependents :=
        removeAsDependent s.dependents moduleId (oldDeps.filter (· ∉ newDeps)) } := by
  simp only [maybeRemoveOldDeps, bind_eq_ok, pure_eq_ok] at h
  obtain ⟨newDeps, loaded, dependents, dropped, rfl⟩ := h
  refine ⟨newDeps, loaded, ?_⟩
  -- past the unwrap the loop is `remove_as_dependent`
  have all : dependents =
      removeAsDependent s.dependents moduleId (oldDeps.filter (· ∉ newDeps)) := by
    apply foldlM_eq_foldl _ dropped
    intro m dep m' ok
    simp only [bind_eq_ok, pure_eq_ok] at ok
    obtain ⟨_, _, rfl⟩ := ok
    rfl
  rw [all]

theorem maybeAddNewDeps_eq_ok {oldDeps newDeps : List Dependency}
    (h : maybeAddNewDeps q s moduleId oldDeps = .ok (s', newDeps)) :
    loadModuleDependencies q s moduleId = .ok newDeps ∧
      s' = { s with dependents :=
        setAsDependent s.dependents moduleId (newDeps.filter (· ∉ oldDeps)) } := by
  simp only [maybeAddNewDeps, bind_eq_ok, pure_eq_ok, Prod.mk.injEq] at h
  obtain ⟨_, loaded, rfl, rfl⟩ := h
  exact ⟨loaded, rfl⟩

/-- The index after a module with the old dependencies reports new ones. -/
def reindex (m : Dependents) (moduleId : String) (old new : List Dependency) : Dependents :=
  setAsDependent (removeAsDependent m moduleId (old.filter (· ∉ new))) moduleId
    (new.filter (· ∉ old))

theorem mem_keys_reindex {old new : List Dependency} (h : on ∈ m) :
    on ∈ reindex m moduleId old new :=
  mem_foldl_insert (mem_foldl_insert h)

theorem mem_reindex {old new : List Dependency} :
    id ∈ dependentsOf (reindex m moduleId old new) on ↔
      (id = moduleId ∧ ∃ dep ∈ new, dep ∉ old ∧ dep.id = on) ∨
      (¬ (id = moduleId ∧ ∃ dep ∈ old, dep ∉ new ∧ dep.id = on) ∧ id ∈ dependentsOf m on) := by
  rw [reindex, mem_setAsDependent, mem_removeAsDependent]
  simp only [List.mem_filter, decide_eq_true_eq, and_assoc]

end Index

end AbstractFramework.Account
