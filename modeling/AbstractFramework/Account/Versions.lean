import AbstractFramework.Account.Dependencies

/-! # The versions of upgrades

An upgrade names a version or asks for the latest one.  A named version is
compared with the version that the installed contract reports; the latest one is
taken as the registry finds it, and the registry finds it in the byte order of
the version texts, among what is registered at that moment.

`upgradeLoop_requested` says that each module of a batch is requested for the
contract that was installed before the batch.  Upgrades that other code has the account
execute within an operation are upgrades like any other.
-/

namespace AbstractFramework.Account

open AbstractFramework Fallible Storage Machine

section Versions

variable [Crates] {env : Env} {s : AccountState}

/-- Both texts are semantic versions, and the first one is smaller. -/
def Older (new old : String) : Prop :=
  ∃ n ∈ (Crates.parseVersion new).toOption, ∃ o ∈ (Crates.parseVersion old).toOption,
    Crates.versionLt n o = true

instance (new old : String) : Decidable (Older new old) :=
  inferInstanceAs (Decidable (∃ n ∈ (Crates.parseVersion new).toOption,
    ∃ o ∈ (Crates.parseVersion old).toOption, Crates.versionLt n o = true))

/-! ## The requested version -/

/-- A named version is not older than what is installed. -/
theorem queryModule_notOlder {info : ModuleInfo} {old : ContractVersion} {m : Module}
    {config : ModuleConfiguration} {version : String} (named : info.version = .Version version)
    (h : queryModule env info old = .ok (m, config)) :
    ¬ Older m.info.version.toStr old.version := by
  simp only [queryModule, requestedModule, named, parseUnwrap, bind_eq_ok, mapError_eq_ok,
    ensure_eq_ok, pure_eq_ok, Prod.mk.injEq] at h
  obtain ⟨_, ⟨new, parsedNew, o, parsedOld, _, notLess, _, _, rfl⟩, _, _, rfl, _⟩ := h
  rintro ⟨n, isNew, o', isOld, less⟩
  simp only [named, ModuleVersion.toStr, parsedNew, parsedOld, Option.mem_def,
    toOption_eq_some, Except.ok.injEq] at isNew isOld
  subst isNew isOld
  rw [notLess] at less
  cases less

/-- The latest version is the one the registry finds. -/
theorem queryModule_latest {info : ModuleInfo} {old : ContractVersion} {m : Module}
    {config : ModuleConfiguration} (isLatest : info.version = .Latest)
    (h : queryModule env info old = .ok (m, config)) :
    ∃ latest, env.registry.latestVersion info.ns info.name = some latest ∧
      m.info.version.toStr = latest.1 := by
  have found := queryModule_eq_ok h
  simp only [RegistryState.queryModule, isLatest, bind_eq_ok, okOr_eq_ok, pure_eq_ok,
    Prod.mk.injEq] at found
  obtain ⟨latest, isFound, rfl, _⟩ := found
  exact ⟨latest, isFound, rfl⟩

/-! ## The loop of an upgrade -/

/-- Modules whose turn has not come are installed as before. -/
def Untouched (s : AccountState) (loop : UpgradeLoop) : Prop :=
  ∀ id, id ∉ loop.upgradedModuleIds →
    loop.state.accountModules.lookup id = s.accountModules.lookup id

theorem Untouched.step {loop loop' : UpgradeLoop} {entry : ModuleInfo × Option Binary}
    (untouched : Untouched s loop) (h : upgradeOne env loop entry = .ok loop') :
    Untouched s loop' := by
  intro id notYet
  obtain ⟨_, later, cases⟩ := upgradeOne_eq_ok h
  rw [later, List.mem_append, List.mem_singleton, not_or] at notYet
  rw [← untouched id notYet.1]
  rcases cases with ⟨_, same, _⟩ | ⟨_, _, migrated, _⟩
  · rw [same]
  · obtain ⟨_, m, _, found, _, _, effect⟩ := setMigrateMsgsAndContext_eq_ok migrated
    split at effect
    · rw [effect]
    · apply effect.others
      rw [RegistryState.queryModule_moduleId found]
      exact notYet.2

/-- The request of one module: what is installed, and what is asked for. -/
def Requested (env : Env) (s : AccountState) (info : ModuleInfo) : Prop :=
  ∃ addr old m config, s.accountModules.lookup info.moduleId = some addr ∧
    env.queryModuleVersion addr = .ok old ∧ queryModule env info old = .ok (m, config)

theorem upgradeLoop_requested {loop loop' : UpgradeLoop}
    {modules : List (ModuleInfo × Option Binary)} {entry : ModuleInfo × Option Binary}
    (start : Untouched s loop) (h : modules.foldlM (upgradeOne env) loop = .ok loop')
    (listed : entry ∈ modules) (isModule : entry.1.moduleId ≠ ACCOUNT) :
    Requested env s entry.1 := by
  refine foldlM_established (I := Untouched s) (P := fun _ => Requested env s entry.1)
    (fun _ _ _ _ untouched ok => untouched.step ok) (fun _ _ _ _ _ held _ => held) listed ?_
    start h
  intro l l' untouched ok
  obtain ⟨notYet, _, ⟨isAccount, _⟩ | ⟨_, _, migrated, _⟩⟩ := upgradeOne_eq_ok ok
  · exact absurd isAccount isModule
  · simp only [setMigrateMsgsAndContext, loadModuleAddr, bind_eq_ok, okOr_eq_ok] at migrated
    obtain ⟨addr, installed, old, reported, ⟨m, config⟩, requested, _⟩ := migrated
    rw [untouched _ notYet] at installed
    exact ⟨addr, old, m, config, installed, reported, requested⟩

/-! ## Runs -/

/-- The modules that an operation asks to upgrade. -/
def Operation.entries (op : Operation) : List ModuleInfo :=
  match op.msg with
  | .Upgrade modules => modules.map (·.1)
  | _ => []

/-- Where the latest version is asked for, the one the registry finds is not older
    than what the installed contract reports. -/
def LatestNotOlder (w : World) (op : Operation) : Prop :=
  ∀ info ∈ op.entries, info.version = .Latest →
    ∀ addr ∈ w.state.accountModules.lookup info.moduleId,
      ∀ old ∈ (op.env.queryModuleVersion addr).toOption,
        ∀ latest ∈ op.env.registry.latestVersion info.ns info.name, ¬ Older latest.1 old.version

instance (w : World) (op : Operation) : Decidable (LatestNotOlder w op) :=
  inferInstanceAs (Decidable (∀ info ∈ op.entries, info.version = .Latest →
    ∀ addr ∈ w.state.accountModules.lookup info.moduleId,
      ∀ old ∈ (op.env.queryModuleVersion addr).toOption,
        ∀ latest ∈ op.env.registry.latestVersion info.ns info.name, ¬ Older latest.1 old.version))

/-- Every module that the operation upgrades had a contract installed, and the
    version it is upgraded to is not older than the one the contract reported. -/
def NeverBackwards (w : World) (op : Operation) : Prop :=
  ∀ m ∈ op.upgrades, ∃ addr ∈ w.state.accountModules.lookup m.info.moduleId,
    ∃ old ∈ (op.env.queryModuleVersion addr).toOption,
      ¬ Older m.info.version.toStr old.version

instance (w : World) (op : Operation) : Decidable (NeverBackwards w op) :=
  inferInstanceAs (Decidable (∀ m ∈ op.upgrades,
    ∃ addr ∈ w.state.accountModules.lookup m.info.moduleId,
      ∃ old ∈ (op.env.queryModuleVersion addr).toOption, ¬ Older m.info.version.toStr old.version))

variable {w w' : World} {op : Operation} {out : Outcome}

/-- One operation. -/
theorem Started.neverBackwards (latest : LatestNotOlder w op) (started : Started w op) :
    NeverBackwards w op := by
  obtain ⟨response, handled⟩ := started
  intro m isUpgrade
  cases isMsg : op.msg with
  | InstallModules modules | UninstallModule moduleId =>
    simp [Operation.upgrades, isMsg] at isUpgrade
  | Upgrade modules =>
    rw [isMsg] at handled
    simp only [Operation.upgrades, isMsg] at isUpgrade
    simp only [handle, upgradeModules, bind_eq_ok] at handled
    obtain ⟨_, ⟨_, _, _, _, loop, looped, _⟩, _⟩ := handled
    obtain ⟨entry, listed, isModule, config, found⟩ := mem_replacements.mp isUpgrade
    obtain ⟨addr, old, m', config', installed, reported, requested⟩ :=
      upgradeLoop_requested (s := w.state) (fun _ _ => rfl) looped listed isModule
    obtain ⟨rfl, rfl⟩ : m = m' ∧ config = config' := by
      simpa using found.symm.trans (queryModule_eq_ok requested)
    rw [RegistryState.queryModule_moduleId found]
    refine ⟨addr, installed, old, toOption_eq_some.mpr reported, ?_⟩
    cases version : entry.1.version with
    | Version text => exact queryModule_notOlder version requested
    | Latest =>
      obtain ⟨found, isFound, text⟩ := queryModule_latest version requested
      rw [text]
      refine latest entry.1 ?_ version addr installed old (toOption_eq_some.mpr reported) found
        isFound
      rw [Operation.entries, isMsg]
      exact List.mem_map_of_mem listed

/-- In a run whose requests for the latest version find none that is older than
    what is installed, no upgrade goes backwards, neither one of the run nor one within it. -/
theorem versions_never_backwards {ops : List Operation}
    (along : AlongAccepted exec (AllMeet LatestNotOlder) w (ops ++ [op]))
    (ok : exec op (run exec w ops) = .ok (w', out)) :
    NeverBackwards (run exec w ops) op ∧ ∀ inner ∈ out.nested, NeverBackwards inner.1 inner.2 := by
  obtain ⟨_, here, _⟩ := alongAccepted_append.mp along
  have meets := here ⟨_, ok⟩
  have keeps : Keeps LatestNotOlder fun _ => True :=
    ⟨fun _ _ _ _ => trivial, fun _ => trivial, fun _ _ => trivial⟩
  obtain ⟨_, started, within⟩ := exec_carries keeps meets trivial ok
  refine ⟨started.neverBackwards meets.1, fun inner listed => ?_⟩
  exact (within inner listed).2.neverBackwards
    (meets.2 (w', out) (toOption_eq_some.mpr ok) inner listed)

end Versions

section Sample

attribute [local instance] releaseCrates

def latestBot : ModuleInfo := ⟨⟨"pub"⟩, "bot", .Latest⟩

/-- The adapter is upgraded to the latest version together with its dependency. -/
def upgradeToLatest : Operation :=
  sampleOperation (libContract 7 "1.0.0") (libContract 8 "1.1.0")
    (.Upgrade [(libInfo "1.1.0", some []), (latestBot, none)])

theorem versions_never_backwards_latest :
    ∃ w' out, exec upgradeToLatest (run exec ⟨emptyAccount, ∅⟩ [installBot]) = .ok (w', out) ∧
      NeverBackwards (run exec ⟨emptyAccount, ∅⟩ [installBot]) upgradeToLatest := by
  have along : Along exec (AllMeet LatestNotOlder) ⟨emptyAccount, ∅⟩
      ([installBot] ++ [upgradeToLatest]) := by decide
  have succeeds :
      (exec upgradeToLatest (run exec ⟨emptyAccount, ∅⟩ [installBot])).toOption.isSome := by decide
  obtain ⟨⟨w', out⟩, result⟩ := Option.isSome_iff_exists.mp succeeds
  have ok := toOption_eq_some.mp result
  exact ⟨w', out, ok, (versions_never_backwards along.accepted ok).1⟩

/-- Version 1.1.0 of the adapter and of its dependency. -/
def installNewest : Operation :=
  sampleOperation none (libContract 8 "1.1.0") (.InstallModules
    [{ info := libInfo "1.1.0", initMsg := some [] }, { info := botInfo "1.1.0", initMsg := none }])

/-- The latest version is asked for after version 1.1.0 was yanked. -/
def upgradeAfterYank : Operation :=
  let op := sampleOperation (libContract 8 "1.1.0") (libContract 8 "1.1.0")
    (.Upgrade [(latestBot, none)])
  { op with env := { op.env with
      registry := sampleRegistry.yank (botInfo "1.1.0").key (.Adapter nextBotAddr) } }

/-- The upgrade to the latest version takes the adapter from 1.1.0 to 1.0.0. -/
theorem latest_upgrade_goes_backwards :
    ∃ w' out, exec upgradeAfterYank (run exec ⟨emptyAccount, ∅⟩ [installNewest]) = .ok (w', out) ∧
      w'.installedAs.lookup "pub:bot" = some ⟨botInfo "1.0.0", .Adapter botAddr⟩ ∧
      ¬ NeverBackwards (run exec ⟨emptyAccount, ∅⟩ [installNewest]) upgradeAfterYank := by
  have result : ∃ result ∈
      (exec upgradeAfterYank (run exec ⟨emptyAccount, ∅⟩ [installNewest])).toOption,
      result.1.installedAs.lookup "pub:bot" = some ⟨botInfo "1.0.0", .Adapter botAddr⟩ := by decide
  obtain ⟨⟨w', out⟩, succeeds, installed⟩ := result
  exact ⟨w', out, toOption_eq_some.mp succeeds, installed, by decide⟩

end Sample

end AbstractFramework.Account
