import AbstractFramework.Lib.Ranges
import AbstractFramework.Objects.AccountIdCodec
import AbstractFramework.Registry.Commands

/-! # The latest version

A query for the latest version of a module reads the registered versions from the end of
their storage order, which is the order of the bytes of their texts, and takes the first
release.  The precedence of releases compares numbers.  The query finds the greatest release
exactly when the two orders end in the same release.
-/

namespace AbstractFramework.Registry

open AbstractFramework Fallible Storage

section LatestVersion

variable [Crates] {s : RegistryState} {ns : Namespace} {name version : String}

/-! ## Releases -/

/-- The version parses and carries a pre-release tag. -/
def IsPreRelease (version : String) : Prop :=
  ∃ v, Crates.parseVersion version = .ok v ∧ Crates.isRelease v = false

/-- The version is registered and carries no pre-release tag. -/
def HasRelease (s : RegistryState) (ns : Namespace) (name version : String) : Prop :=
  ⟨ns, name, version⟩ ∈ s.registeredModules ∧ ¬ IsPreRelease version

def ValidVersions (s : RegistryState) (ns : Namespace) (name : String) : Prop :=
  ∀ version, ⟨ns, name, version⟩ ∈ s.registeredModules →
    ∃ v, Crates.parseVersion version = .ok v

/-- The precedence of releases.  The build metadata of a version does not count. -/
def PrecedesOrSame (patch : Crates.Version → Nat) (v w : Crates.Version) : Prop :=
  Crates.major v < Crates.major w ∨ Crates.major v = Crates.major w ∧
    (Crates.minor v < Crates.minor w ∨ Crates.minor v = Crates.minor w ∧ patch v ≤ patch w)

instance (patch : Crates.Version → Nat) (v w : Crates.Version) :
    Decidable (PrecedesOrSame patch v w) :=
  inferInstanceAs (Decidable (_ ∨ _ ∧ (_ ∨ _ ∧ _)))

/-- No release has a greater precedence. -/
def IsGreatest (patch : Crates.Version → Nat) (s : RegistryState) (ns : Namespace)
    (name version : String) : Prop :=
  ∀ other, HasRelease s ns name other → ∀ w v, Crates.parseVersion other = .ok w →
    Crates.parseVersion version = .ok v → PrecedesOrSame patch w v

/-- No release comes later in the storage. -/
def IsLast (s : RegistryState) (ns : Namespace) (name version : String) : Prop :=
  ∀ other, HasRelease s ns name other → strBytes other ≤ strBytes version

/-! ## The query -/

theorem mem_versionsOf {reference : ModuleReference} :
    (version, reference) ∈ s.versionsOf ns name ↔
      s.registeredModules.lookup ⟨ns, name, version⟩ = some reference := by
  simp only [RegistryState.versionsOf, List.mem_map, List.mem_filter, decide_eq_true_eq,
    Prod.mk.injEq]
  rw [← Option.mem_def, AList.mem_lookup_iff]
  constructor
  · rintro ⟨⟨⟨_, _, _⟩, _⟩, ⟨listed, rfl, rfl⟩, rfl, rfl⟩
    exact listed
  · intro listed
    exact ⟨_, ⟨listed, rfl, rfl⟩, rfl, rfl⟩

theorem mem_registered_of_versionsOf {e : String × ModuleReference}
    (listed : e ∈ s.versionsOf ns name) : ⟨ns, name, e.1⟩ ∈ s.registeredModules :=
  mem_of_lookup (mem_versionsOf.mp listed)

/-- Where versions parse, the test of the query is the absence of a tag. -/
theorem isReleaseText_iff (valid : ValidVersions s ns name)
    (registered : ⟨ns, name, version⟩ ∈ s.registeredModules) :
    RegistryState.isReleaseText version = true ↔ ¬ IsPreRelease version := by
  obtain ⟨v, parsed⟩ := valid version registered
  simp [RegistryState.isReleaseText, IsPreRelease, parsed]

theorem latestVersion_eq_some (valid : ValidVersions s ns name)
    {reference : ModuleReference} (h : s.latestVersion ns name = some (version, reference)) :
    s.registeredModules.lookup ⟨ns, name, version⟩ = some reference ∧
      HasRelease s ns name version ∧ IsLast s ns name version := by
  obtain ⟨listed, release, last⟩ := find?_descending h
  have found := mem_versionsOf.mp listed
  have registered := mem_of_lookup found
  refine ⟨found, ⟨registered, (isReleaseText_iff valid registered).mp release⟩, ?_⟩
  intro other isRelease
  obtain ⟨otherReference, otherFound⟩ := mem_iff_lookup.mp isRelease.1
  exact last (other, otherReference) (mem_versionsOf.mpr otherFound)
    ((isReleaseText_iff valid isRelease.1).mpr isRelease.2)

theorem latestVersion_eq_none (valid : ValidVersions s ns name) :
    s.latestVersion ns name = none ↔ ∀ version, ¬ HasRelease s ns name version := by
  rw [RegistryState.latestVersion, List.find?_eq_none]
  constructor
  · intro none version release
    obtain ⟨reference, found⟩ := mem_iff_lookup.mp release.1
    apply none (version, reference)
      ((mem_descending strBytes).mpr (mem_versionsOf.mpr found))
    exact (isReleaseText_iff valid release.1).mpr release.2
  · intro none e listed release
    have registered :=
      mem_registered_of_versionsOf ((mem_descending strBytes).mp listed)
    exact none e.1 ⟨registered, (isReleaseText_iff valid registered).mp release⟩

/-- The answer of a query is the latest version, or the error of its absence. -/
theorem queryLatest_eq :
    s.handleModulesQuery [{ ns, name, version := .Latest }] =
      match s.latestVersion ns name with
      | some (version, reference) =>
        let info : ModuleInfo := { ns, name, version := .Version version }
        .ok [({ info, reference }, s.configFromStorage info)]
      | none => .error (.msg ("Module " ++ ({ ns, name, version := .Latest } : ModuleInfo).toStr ++
          " does not have a stored module reference")) := by
  rw [RegistryState.handleModulesQuery, List.mapM_cons, List.mapM_nil, RegistryState.queryModule]
  cases s.latestVersion ns name <;> rfl

/-- The query returns the greatest release, and fails where there is none. -/
structure LatestIsGreatest (patch : Crates.Version → Nat) (s : RegistryState) (ns : Namespace)
    (name : String) : Prop where
  greatest : ∀ found, s.handleModulesQuery [{ ns, name, version := .Latest }] = .ok found →
    ∃ version reference config,
      found = [({ info := { ns, name, version := .Version version }, reference }, config)] ∧
      s.registeredModules.lookup ⟨ns, name, version⟩ = some reference ∧
      HasRelease s ns name version ∧ IsGreatest patch s ns name version
  fails : (∃ e, s.handleModulesQuery [{ ns, name, version := .Latest }] = .error e) ↔
    ∀ version, ¬ HasRelease s ns name version

/-- The query for the latest version is right exactly where the release that is stored last
    has the greatest precedence. -/
theorem latest_is_greatest (patch : Crates.Version → Nat) (valid : ValidVersions s ns name) :
    LatestIsGreatest patch s ns name ↔
      ∀ version, HasRelease s ns name version → IsLast s ns name version →
        IsGreatest patch s ns name version := by
  cases latest : s.latestVersion ns name with
  | none =>
    have nothing := (latestVersion_eq_none valid).mp latest
    constructor
    · intro _ version release
      exact absurd release (nothing version)
    · intro _
      constructor
      · intro found ok
        rw [queryLatest_eq, latest] at ok
        cases ok
      · rw [queryLatest_eq, latest]
        exact ⟨fun _ => nothing, fun _ => ⟨_, rfl⟩⟩
  | some e =>
    obtain ⟨stored, reference⟩ := e
    obtain ⟨found, release, last⟩ := latestVersion_eq_some valid latest
    constructor
    · intro right version isRelease isLast
      have same : version = stored :=
        strBytes_injective (List.le_antisymm (last version isRelease) (isLast stored release))
      obtain ⟨_, _, _, answer, _, _, greatest⟩ := right.greatest _ (by rw [queryLatest_eq, latest])
      simp only [List.cons.injEq, Prod.mk.injEq, Module.mk.injEq, ModuleInfo.mk.injEq,
        ModuleVersion.Version.injEq, true_and] at answer
      rw [same, answer.1.1.1]
      exact greatest
    · intro lastIsGreatest
      constructor
      · intro answer ok
        rw [queryLatest_eq, latest] at ok
        cases ok
        exact ⟨stored, reference, _, rfl, found, release, lastIsGreatest stored release last⟩
      · rw [queryLatest_eq, latest]
        constructor
        · rintro ⟨e, error⟩
          cases error
        · intro nothing
          exact absurd release (nothing stored)

end LatestVersion

section LatestVersionSample

/-- Versions with a major number of two digits. -/
@[reducible] def wideCrates : Crates :=
  { releaseCrates with
    parseVersion := fun text =>
      if text = "10.0.0" then .ok (10, 0, 0) else releaseCrates.parseVersion text }

attribute [local instance] wideCrates

/-- A registry in which two versions of a module are registered. -/
def withVersions (first second : String) : RegistryState where
  config := { securityEnabled := false, namespaceRegistrationFee := none }
  ownership := some ⟨"adm"⟩
  pendingModules := ∅
  registeredModules :=
    ((∅ : Map ModuleKey ModuleReference).insert ⟨⟨"pub"⟩, "app", first⟩ (.App 1)).insert
      ⟨⟨"pub"⟩, "app", second⟩ (.App 2)
  yankedModules := ∅
  standaloneInfos := ∅
  serviceInfos := ∅
  moduleConfig := ∅
  moduleDefaultConfig := ∅
  accountAddresses := ∅
  localAccountSequence := 0
  namespaces := ∅
  revNamespaces := ∅

theorem registered_withVersions {first second version : String}
    (h : ⟨⟨"pub"⟩, "app", version⟩ ∈ (withVersions first second).registeredModules) :
    version = first ∨ version = second := by
  obtain ⟨reference, found⟩ := mem_iff_lookup.mp h
  rcases lookup_insert_cases found with ⟨same, _⟩ | ⟨_, found⟩
  · exact .inr (ModuleKey.mk.inj same).2.2
  · rcases lookup_insert_cases found with ⟨same, _⟩ | ⟨_, found⟩
    · exact .inl (ModuleKey.mk.inj same).2.2
    · cases found

theorem latest_is_greatest_digit :
    LatestIsGreatest (fun v : Nat × Nat × Nat => v.2.2) (withVersions "1.0.0" "1.2.0") ⟨"pub"⟩ "app" := by
  refine (latest_is_greatest _ ?_).mpr ?_
  · intro version registered
    rcases registered_withVersions registered with rfl | rfl
    · exact ⟨_, rfl⟩
    · exact ⟨_, rfl⟩
  · intro version release last other isRelease w v parsed parsed'
    have later : strBytes "1.2.0" ≤ strBytes version := last "1.2.0" ⟨by decide, by rintro ⟨_, _, tagged⟩; cases tagged⟩
    rcases registered_withVersions release.1 with rfl | rfl
    · exact absurd later (by decide)
    · rcases registered_withVersions isRelease.1 with rfl | rfl
      · cases parsed
        cases parsed'
        decide
      · cases parsed
        cases parsed'
        decide

/-- Of the versions 9.0.0 and 10.0.0 the query returns 9.0.0. -/
theorem latest_of_two_digits :
    ¬ LatestIsGreatest (fun v : Nat × Nat × Nat => v.2.2) (withVersions "9.0.0" "10.0.0") ⟨"pub"⟩ "app" := by
  intro right
  obtain ⟨version, _, _, answer, _, _, greatest⟩ := right.greatest
    [({ info := { ns := ⟨"pub"⟩, name := "app", version := .Version "9.0.0" }
        reference := .App 1 }, .default)] (by decide +kernel)
  simp only [List.cons.injEq, Prod.mk.injEq, Module.mk.injEq, ModuleInfo.mk.injEq,
    ModuleVersion.Version.injEq, true_and] at answer
  have least := greatest "10.0.0" ⟨by decide, by rintro ⟨_, _, tagged⟩; cases tagged⟩
    (10, 0, 0) (9, 0, 0) rfl (by rw [← answer.1.1.1]; rfl)
  revert least
  decide

end LatestVersionSample

end AbstractFramework.Registry
