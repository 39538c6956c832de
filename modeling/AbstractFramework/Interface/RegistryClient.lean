import AbstractFramework.Registry.Listings

/-! # The client of the registry

Scripts read the registry through the list of modules.  A question about one version asks for
the modules with its namespace, name and version, and looks at the first page.  The version is
tested on the page after the cut, so the answer depends on the versions of the module that come
before in the order of the keys (`moduleList_named`).  All versions of a module are read page by
page, which leaves none out (`moduleVersions_ok`).  `client_answers` says what follows for the
status of a version and for the dependencies of a module in every state of the registry.
-/

namespace AbstractFramework.Interface

open AbstractFramework Fallible Storage Paging Registry

section Client

variable [Crates]

inductive InterfaceError where
  /-- The answer of the chain is an error. -/
  | Orch (e : RegistryError)
  | Abstract (e : AbstractError)
  | Std (e : StdError)
  | NoMatchingModule (dep : Dependency)
  /-- An error that is unwrapped: the script panics. -/
  | panicked (e : AbstractError)
deriving DecidableEq

/-! ## Queries -/

def moduleList (s : RegistryState) (filter : ModuleFilter) (startAfter : Option ModuleInfo) :
    Except InterfaceError (List Module) := do
  let answers ← (handleModuleListQuery s startAfter none (some filter)).mapError InterfaceError.Orch
  return answers.map Prod.fst

/-- The filter for one version. -/
def versionFilter (info : ModuleInfo) (status : ModuleStatus) : ModuleFilter where
  ns := some info.ns.asStr
  name := some info.name
  version := some info.version.toStr
  status := some status

/-- Query a single module registered or pending. -/
def registeredOrPendingModule (s : RegistryState) (info : ModuleInfo) :
    Except InterfaceError Module := do
  match ← moduleList s (versionFilter info .Registered) none with
  | m :: _ => return m
  | [] =>
    match ← moduleList s (versionFilter info .Pending) none with
    | m :: _ => return m
    | [] => .error (.Std (.msg "Module not found"))

def isModuleStatus (s : RegistryState) (info : ModuleInfo) (status : ModuleStatus) :
    Except InterfaceError Bool := do
  let modules ← moduleList s (versionFilter info status) none
  return !modules.isEmpty

/-- Get module status or return `none` if not deployed. -/
def moduleStatus (s : RegistryState) (info : ModuleInfo) :
    Except InterfaceError (Option ModuleStatus) := do
  if ← isModuleStatus s info .Registered then return some .Registered
  else if ← isModuleStatus s info .Pending then return some .Pending
  else if ← isModuleStatus s info .Yanked then return some .Yanked
  else return none

/-- `TryInto<Version>`. -/
def toVersion : ModuleVersion → Except AbstractError Crates.Version
  | .Latest => .error (.MissingVersion "module")
  | .Version ver => (Crates.parseVersion ver).mapError AbstractError.Semver

/-- The filter for the registered versions of a module. -/
def allVersions (ns name : String) : ModuleFilter where
  ns := some ns
  name := some name
  version := none
  status := some .Registered

def withVersion (m : Module) : Except InterfaceError (ModuleInfo × Crates.Version) := do
  let version ← (toVersion m.info.version).mapError InterfaceError.panicked
  return (m.info, version)

/-- A page of the loop over the versions, each with the module to go on after. -/
def versionsPage (s : RegistryState) (filter : ModuleFilter) (startAfter : Option ModuleInfo) :
    Except InterfaceError (List (ModuleInfo × Crates.Version)) := do
  let modules ← moduleList s filter startAfter
  modules.mapM withVersion

/-- Return list of registered module versions.  The loop needs no more pages than there are
    entries, and one that is empty. -/
def moduleVersions (s : RegistryState) (moduleId : String) :
    Except InterfaceError (List Crates.Version) :=
  match splitColon moduleId with
  | [ns, name] => do
    let pages ← gather (versionsPage s (allVersions ns name)) Prod.fst
      (s.registeredModules.entries.length + 1) none
    return (pages.getD []).map Prod.snd
  | _ => .error (.Abstract (.FormattingError "module_id" "namespace:module" moduleId))

/-- `StaticDependency::matches`. -/
def satisfies (dep : Dependency) (version : Crates.Version) : Bool :=
  dep.versionReq.all fun req => Crates.comparatorMatches req version

/-- Check that module dependencies are deployed on chain. -/
def assertDependenciesDeployed (s : RegistryState) (dependencies : List Dependency) :
    Except InterfaceError Unit :=
  dependencies |> forEach fun dependency => do
    let versions ← moduleVersions s dependency.id
    ensure (versions.any (satisfies dependency) = true) (.NoMatchingModule dependency)

end Client

/-! ## The first page -/

section FirstPage

variable [Crates] {s : RegistryState} {info : ModuleInfo} {status : ModuleStatus}

/-- The versions of the module that come before the one in the order of the keys. -/
def versionsBefore (s : RegistryState) (status : ModuleStatus) (info : ModuleInfo) : Nat :=
  (modLib s (some status)).keys.countP fun key => key.ns = info.ns ∧ key.name = info.name ∧
    strBytes key.version < strBytes info.version.toStr

/-- The version is stored under the status, with less than a page's worth before it. -/
def Shown (s : RegistryState) (status : ModuleStatus) (info : ModuleInfo) : Prop :=
  info.key ∈ modLib s (some status) ∧ versionsBefore s status info < pageSize none

instance : Decidable (Shown s status info) := inferInstanceAs (Decidable (_ ∧ _))

def moduleOf (e : ModuleKey × ModuleReference) : Module :=
  { info := ModuleInfo.ofKey e.1, reference := e.2 }

/-- A page of the listing, for a client that names no module or one under the prefix. -/
theorem moduleList_ok (valid : ValidNames s) {filter : ModuleFilter} {start : Option ModuleInfo}
    (nsValid : ∀ ns ∈ filter.ns, validateName ns = .ok ())
    (inside : ∀ info ∈ start, inPrefix filter info.key = true) :
    moduleList s filter start =
      .ok ((page (pageSize none) (fun e => passesLater filter e.1)
        (range keyBytes (start.map ModuleInfo.key) (prefixed s filter))).map moduleOf) := by
  have answer : handleModuleListQuery s start none (some filter) =
      .ok ((page (pageSize none) (fun e => passesLater filter e.1)
        (range keyBytes (start.map ModuleInfo.key) (prefixed s filter))).map (respond s)) :=
    handleModuleListQuery_ok valid none start nsValid inside
  rw [moduleList, answer]
  simp only [Except.mapError, ok_bind, pure_eq_ok, List.map_map]
  rfl

omit [Crates] in
theorem keyBytes_lt_iff {ns : Namespace} {name version version' : String} :
    keyBytes ⟨ns, name, version⟩ < keyBytes ⟨ns, name, version'⟩ ↔
      strBytes version < strBytes version' := by
  simp only [keyBytes, joinedKey, List.append_assoc]
  rw [append_lt_append_iff, append_lt_append_iff, append_lt_append_iff, append_lt_append_iff]

omit [Crates] in
theorem ofKey_key {text : String} (isVersion : info.version = .Version text)
    (notLatest : text ≠ "latest") : ModuleInfo.ofKey info.key = info := by
  obtain ⟨ns, name, version⟩ := info
  cases isVersion
  simp [ModuleInfo.ofKey, ModuleInfo.key, ModuleVersion.toStr, versionFromKey, notLatest]

omit [Crates] in
theorem inPrefix_versionFilter {key : ModuleKey} :
    inPrefix (versionFilter info status) key = true ↔ key.ns = info.ns ∧ key.name = info.name := by
  obtain ⟨⟨ns⟩, name, version⟩ := key
  obtain ⟨⟨ns'⟩, name', version'⟩ := info
  simp [inPrefix, versionFilter]

omit [Crates] in
/-- Under the prefix the filter asks for one key. -/
theorem passesLater_versionFilter {text : String} (isVersion : info.version = .Version text)
    (notLatest : text ≠ "latest") {key : ModuleKey}
    (inside : inPrefix (versionFilter info status) key = true) :
    passesLater (versionFilter info status) key = true ↔ key = info.key := by
  obtain ⟨sameNs, sameName⟩ := inPrefix_versionFilter.mp inside
  obtain ⟨ns, name, version⟩ := key
  obtain ⟨ns', name', version'⟩ := info
  cases isVersion
  obtain rfl : ns = ns' := sameNs
  obtain rfl : name = name' := sameName
  simp only [passesLater, versionFilter, ModuleInfo.key, ModuleVersion.toStr, versionFromKey]
  by_cases isLatest : version = "latest"
  · simp [isLatest, Ne.symm notLatest]
  · simp [isLatest]

/-- What comes before the version in the range. -/
theorem countP_prefixed : ((prefixed s (versionFilter info status)).countP fun e =>
    isAfter keyBytes none e.1 && decide (keyBytes e.1 < keyBytes info.key)) =
      versionsBefore s status info := by
  have keys : (modLib s (some status)).keys =
      (under some (modLib s (some status))).map Prod.fst := by
    rw [under_keys, List.filterMap_some]
  rw [versionsBefore, keys, List.countP_map, prefixed, List.countP_filter]
  refine List.countP_congr fun e _ => ?_
  obtain ⟨⟨ns, name, version⟩, reference⟩ := e
  simp only [isAfter, Bool.true_and, Bool.and_eq_true, decide_eq_true_eq, Function.comp_apply,
    inPrefix_versionFilter]
  constructor
  · rintro ⟨less, rfl, rfl⟩
    exact ⟨rfl, rfl, keyBytes_lt_iff.mp less⟩
  · rintro ⟨rfl, rfl, less⟩
    exact ⟨keyBytes_lt_iff.mpr less, rfl, rfl⟩

theorem mem_prefixed {filter : ModuleFilter} {e : ModuleKey × ModuleReference} :
    e ∈ prefixed s filter ↔
      (modLib s filter.status).lookup e.1 = some e.2 ∧ inPrefix filter e.1 = true := by
  obtain ⟨key, reference⟩ := e
  simp [prefixed, mem_under]

/-- The first page has no other version, and this one if it is shown. -/
theorem page_versionFilter (valid : ValidNames s) {text : String}
    (isVersion : info.version = .Version text) (notLatest : text ≠ "latest") :
    page (pageSize none) (fun e => passesLater (versionFilter info status) e.1)
        (storageOrder s (versionFilter info status)) =
      if Shown s status info then
        ((modLib s (some status)).lookup info.key).toList.map fun reference => (info.key, reference)
      else [] := by
  have distinct := prefixed_nodup valid (versionFilter info status)
  have ordered : (storageOrder s (versionFilter info status)).Pairwise
      fun a b => keyBytes a.1 < keyBytes b.1 := range_pairwise distinct
  refine eq_of_ascending
    (ordered.sublist (List.filter_sublist.trans (List.take_sublist (pageSize none) _))) ?_ ?_
  · split
    · cases (modLib s (some status)).lookup info.key <;> simp
    · exact .nil
  rintro ⟨key, reference⟩
  rw [page, List.mem_filter, storageOrder, mem_take_range distinct, mem_range, mem_prefixed]
  constructor
  · rintro ⟨⟨⟨⟨found, inside⟩, -⟩, early⟩, passes⟩
    obtain rfl := (passesLater_versionFilter isVersion notLatest inside).mp passes
    rw [countP_prefixed] at early
    have found : (modLib s (some status)).lookup info.key = some reference := found
    rw [if_pos ⟨mem_of_lookup found, early⟩, found]
    simp
  · intro listed
    split at listed
    · rename_i shown
      simp only [List.mem_map, Option.mem_toList, Prod.mk.injEq] at listed
      obtain ⟨_, found, rfl, rfl⟩ := listed
      have inside : inPrefix (versionFilter info status) info.key = true :=
        inPrefix_versionFilter.mpr ⟨rfl, rfl⟩
      refine ⟨⟨⟨⟨found, inside⟩, rfl⟩, ?_⟩,
        (passesLater_versionFilter isVersion notLatest inside).mpr rfl⟩
      rw [countP_prefixed]
      exact shown.2
    · cases listed

/-- The first page has the version if it is shown. -/
theorem moduleList_named (valid : ValidNames s) (nsValid : validateName info.ns.asStr = .ok ())
    {text : String} (isVersion : info.version = .Version text) (notLatest : text ≠ "latest") :
    moduleList s (versionFilter info status) none =
      .ok (if Shown s status info then
        ((modLib s (some status)).lookup info.key).toList.map fun reference => { info, reference }
      else []) := by
  have answer : moduleList s (versionFilter info status) none =
      .ok ((page (pageSize none) (fun e => passesLater (versionFilter info status) e.1)
        (storageOrder s (versionFilter info status))).map moduleOf) :=
    moduleList_ok valid (fun ns isNs => by cases isNs; exact nsValid) fun _ none => nomatch none
  rw [answer, page_versionFilter valid isVersion notLatest]
  split
  · simp [List.map_map, Function.comp_def, moduleOf, ofKey_key isVersion notLatest]
  · rfl

theorem isModuleStatus_ok (valid : ValidNames s) (nsValid : validateName info.ns.asStr = .ok ())
    {text : String} (isVersion : info.version = .Version text) (notLatest : text ≠ "latest") :
    isModuleStatus s info status = .ok (decide (Shown s status info)) := by
  rw [isModuleStatus, moduleList_named valid nsValid isVersion notLatest, ok_bind]
  by_cases shown : Shown s status info
  · obtain ⟨reference, found⟩ := mem_iff_lookup.mp shown.1
    simp only [if_pos shown, found, decide_eq_true shown]
    rfl
  · simp only [if_neg shown, decide_eq_false shown]
    rfl

/-- The status of a version is found where the version is shown under it, and the registered
    come before the pending and these before the yanked. -/
theorem moduleStatus_ok (valid : ValidNames s) (nsValid : validateName info.ns.asStr = .ok ())
    {text : String} (isVersion : info.version = .Version text) (notLatest : text ≠ "latest") :
    moduleStatus s info = .ok
      ([ModuleStatus.Registered, .Pending, .Yanked].find? fun status => Shown s status info) := by
  simp only [moduleStatus, isModuleStatus_ok valid nsValid isVersion notLatest, ok_bind,
    List.find?_cons, decide_eq_true_eq]
  by_cases registered : Shown s .Registered info
  · simp [registered, pure, Except.pure]
  by_cases pending : Shown s .Pending info
  · simp [registered, pending, pure, Except.pure]
  by_cases yanked : Shown s .Yanked info
  · simp [registered, pending, yanked, pure, Except.pure]
  · simp [registered, pending, yanked, pure, Except.pure]

theorem registeredOrPendingModule_eq (valid : ValidNames s)
    (nsValid : validateName info.ns.asStr = .ok ()) {text : String}
    (isVersion : info.version = .Version text) (notLatest : text ≠ "latest") :
    registeredOrPendingModule s info =
      okOr ((([ModuleStatus.Registered, .Pending].find? fun status => Shown s status info).bind
        fun status => (modLib s (some status)).lookup info.key).map
          fun reference => { info, reference }) (.Std (.msg "Module not found")) := by
  simp only [registeredOrPendingModule, moduleList_named valid nsValid isVersion notLatest, ok_bind,
    List.find?_cons]
  by_cases registered : Shown s .Registered info
  · obtain ⟨reference, found⟩ := mem_iff_lookup.mp registered.1
    simp only [if_pos registered, decide_eq_true registered, Option.bind_some, found]
    rfl
  by_cases pending : Shown s .Pending info
  · obtain ⟨reference, found⟩ := mem_iff_lookup.mp pending.1
    simp only [if_neg registered, if_pos pending, decide_eq_false registered,
      decide_eq_true pending, Option.bind_some, found]
    rfl
  · simp only [if_neg registered, if_neg pending, decide_eq_false registered,
      decide_eq_false pending]
    rfl

end FirstPage

/-! ## All versions -/

section Versions

variable [Crates] {s : RegistryState} {ns name moduleId : String}

/-- Whatever is registered has a version that parses, and that is not taken for the latest. -/
def VersionsParse (s : RegistryState) : Prop :=
  ∀ key ∈ s.registeredModules, key.version ≠ "latest" ∧
    ∃ v, Crates.parseVersion key.version = .ok v

theorem versionsParse_run (unversioned : ∀ v, Crates.parseVersion "latest" ≠ .ok v) {deps : Deps}
    {msg : InstantiateMsg} {start : RegistryState} (instantiated : instantiate deps msg = .ok start)
    (inputs : List Input) : VersionsParse (Machine.run execute start inputs) := by
  intro key registered
  refine stored_run (P := fun key => key.version ≠ "latest" ∧
    ∃ v, Crates.parseVersion key.version = .ok v) ?_ instantiated inputs key (.inr (.inl registered))
  intro info _ named
  cases version : info.version with
  | Latest =>
    rw [ModuleInfo.assertVersionVariant, version] at named
    cases named
  | Version text =>
    simp only [ModuleInfo.assertVersionVariant, version, bind_eq_ok, mapError_eq_ok] at named
    obtain ⟨v, parsed, -⟩ := named
    simp only [ModuleInfo.key, version, ModuleVersion.toStr]
    refine ⟨?_, v, parsed⟩
    rintro rfl
    exact unversioned v parsed

theorem withVersion_keeps (m : Module) (found : ModuleInfo × Crates.Version)
    (ok : withVersion m = .ok found) : found.1 = m.info := by
  simp only [withVersion, bind_eq_ok, pure_eq_ok] at ok
  obtain ⟨v, _, rfl⟩ := ok
  rfl

theorem withVersion_ok {e : ModuleKey × ModuleReference} (notLatest : e.1.version ≠ "latest")
    {m : ModuleInfo × Crates.Version} : withVersion (moduleOf e) = .ok m ↔
      m.1 = ModuleInfo.ofKey e.1 ∧ Crates.parseVersion e.1.version = .ok m.2 := by
  obtain ⟨info, v⟩ := m
  have version : (moduleOf e).info.version = .Version e.1.version := by
    simp [moduleOf, ModuleInfo.ofKey, versionFromKey, notLatest]
  simp only [withVersion, version, toVersion, bind_eq_ok, mapError_eq_ok, pure_eq_ok,
    Prod.mk.injEq]
  constructor
  · rintro ⟨_, parsed, rfl, rfl⟩
    exact ⟨rfl, parsed⟩
  · rintro ⟨rfl, parsed⟩
    exact ⟨v, parsed, rfl, rfl⟩

theorem mem_allVersions {e : ModuleKey × ModuleReference} :
    e ∈ storageOrder s (allVersions ns name) ↔
      s.registeredModules.lookup e.1 = some e.2 ∧ e.1.ns.asStr = ns ∧ e.1.name = name := by
  simp [storageOrder, mem_range, isAfter, mem_prefixed, modLib, allVersions, inPrefix]

/-- The pages of the loop bring the modules with the namespace and name, in the order of
    their keys. -/
theorem collects_allVersions (valid : ValidNames s) (nsValid : validateName ns = .ok ()) :
    Collects (moduleList s (allVersions ns name)) Module.info none
      ((storageOrder s (allVersions ns name)).map moduleOf) := by
  have nsValid : ∀ n ∈ (allVersions ns name).ns, validateName n = .ok () := by
    intro n isNs
    cases isNs
    exact nsValid
  have whole : ∀ entries : List (ModuleKey × ModuleReference),
      page (pageSize none) (fun e => passesLater (allVersions ns name) e.1) entries =
        entries.take (pageSize none) :=
    fun entries => List.filter_eq_self.mpr fun _ _ => rfl
  have positive : 0 < pageSize none := by decide
  refine collects_all positive ?_ ?_
  · rw [← whole]
    exact moduleList_ok valid nsValid fun _ none => nomatch none
  · intro before x rest split
    have listed : x ∈ storageOrder s (allVersions ns name) := by
      rw [split]
      simp
    have inside : inPrefix (allVersions ns name) x.1 = true :=
      (mem_prefixed.mp (mem_range.mp listed).1).2
    have answer : moduleList s (allVersions ns name) (some (moduleOf x).info) =
        .ok ((page (pageSize none) (fun e => passesLater (allVersions ns name) e.1)
          (range keyBytes (some (ModuleInfo.key (moduleOf x).info))
            (prefixed s (allVersions ns name)))).map moduleOf) :=
      moduleList_ok valid nsValid fun _ isStart => by
        cases isStart
        rw [moduleOf, key_ofKey]
        exact inside
    rw [answer, whole, moduleOf, key_ofKey, range_resume (prefixed_nodup valid _) split]

theorem length_allVersions :
    (storageOrder s (allVersions ns name)).length ≤ s.registeredModules.entries.length := by
  rw [storageOrder, range, List.length_insertionSort]
  refine (List.length_filter_le _ _).trans ((List.length_filter_le _ _).trans ?_)
  exact List.length_filterMap_le _ _

/-- The answer has the versions of all registered modules with the namespace and name. -/
theorem moduleVersions_ok (valid : ValidNames s) (parse : VersionsParse s)
    (nsValid : validateName ns = .ok ()) (parts : splitColon moduleId = [ns, name]) :
    ∃ versions, moduleVersions s moduleId = .ok versions ∧
      ∀ v, v ∈ versions ↔ ∃ version, ⟨⟨ns⟩, name, version⟩ ∈ s.registeredModules ∧
        Crates.parseVersion version = .ok v := by
  have answers : ∀ e ∈ storageOrder s (allVersions ns name), ∀ m,
      withVersion (moduleOf e) = .ok m ↔
        m.1 = ModuleInfo.ofKey e.1 ∧ Crates.parseVersion e.1.version = .ok m.2 := by
    intro e listed m
    exact withVersion_ok (parse e.1 (mem_of_lookup (mem_allVersions.mp listed).1)).1
  obtain ⟨found, mapped⟩ : ∃ found,
      ((storageOrder s (allVersions ns name)).map moduleOf).mapM withVersion = .ok found := by
    refine mapM_succeeds.mpr fun m listed => ?_
    obtain ⟨e, inOrder, rfl⟩ := List.mem_map.mp listed
    obtain ⟨v, parsed⟩ := (parse e.1 (mem_of_lookup (mem_allVersions.mp inOrder).1)).2
    exact ⟨(_, v), (answers e inOrder _).mpr ⟨rfl, parsed⟩⟩
  have related := mapM_eq_ok.mp mapped
  have collected : Collects (versionsPage s (allVersions ns name)) Prod.fst none found :=
    (collects_allVersions valid nsValid).traverse withVersion_keeps mapped
  have few : found.length < s.registeredModules.entries.length + 1 := by
    rw [← related.length_eq, List.length_map]
    exact Nat.lt_succ_of_le length_allVersions
  refine ⟨found.map Prod.snd, ?_, fun v => ?_⟩
  · simp only [moduleVersions, parts, gather_of_collects collected few, ok_bind]
    rfl
  constructor
  · intro listed
    obtain ⟨m, isFound, rfl⟩ := List.mem_map.mp listed
    obtain ⟨_, asked, ok⟩ := forall₂_exists_left related m isFound
    obtain ⟨e, inOrder, rfl⟩ := List.mem_map.mp asked
    obtain ⟨stored, rfl, rfl⟩ := mem_allVersions.mp inOrder
    exact ⟨e.1.version, mem_of_lookup stored, ((answers e inOrder m).mp ok).2⟩
  · rintro ⟨version, registered, parsed⟩
    obtain ⟨reference, stored⟩ := mem_iff_lookup.mp registered
    have inOrder : (⟨⟨ns⟩, name, version⟩, reference) ∈ storageOrder s (allVersions ns name) :=
      mem_allVersions.mpr ⟨stored, rfl, rfl⟩
    obtain ⟨m, isFound, ok⟩ :=
      forall₂_exists_left related.flip _ (List.mem_map_of_mem inOrder)
    obtain ⟨-, same⟩ := (answers _ inOrder m).mp ok
    obtain rfl := Except.ok.inj (parsed.symm.trans same)
    exact List.mem_map_of_mem isFound

/-- Versions are only listed for a module id with a valid namespace. -/
theorem moduleVersions_named {versions : List Crates.Version}
    (ok : moduleVersions s moduleId = .ok versions) :
    ∃ ns name, splitColon moduleId = [ns, name] ∧ validateName ns = .ok () := by
  unfold moduleVersions at ok
  split at ok
  · rename_i ns name parts
    refine ⟨ns, name, parts, ?_⟩
    by_contra invalid
    obtain ⟨e, error⟩ : ∃ e, handleModuleListQuery s none none (some (allVersions ns name)) =
        .error e := handleModuleListQuery_error s none none rfl invalid
    have fails : gather (versionsPage s (allVersions ns name)) Prod.fst
        (s.registeredModules.entries.length + 1) none = .error (.Orch e) := by
      rw [gather, versionsPage, moduleList, error]
      rfl
    rw [fails] at ok
    cases ok
  · cases ok

/-- A version of the module that will do is registered. -/
def Deployed (s : RegistryState) (dep : Dependency) : Prop :=
  ∃ ns name version v, splitColon dep.id = [ns, name] ∧
    ⟨⟨ns⟩, name, version⟩ ∈ s.registeredModules ∧ Crates.parseVersion version = .ok v ∧
    satisfies dep v = true

theorem assertDependenciesDeployed_ok (valid : ValidNames s) (parse : VersionsParse s)
    {dependencies : List Dependency} :
    assertDependenciesDeployed s dependencies = .ok () ↔ ∀ dep ∈ dependencies, Deployed s dep := by
  simp only [assertDependenciesDeployed, forEach_eq_ok, bind_eq_ok, ensure_eq_ok, List.any_eq_true]
  refine forall₂_congr fun dep _ => ?_
  constructor
  · rintro ⟨versions, listed, v, isListed, good⟩
    obtain ⟨ns, name, parts, nsValid⟩ := moduleVersions_named listed
    obtain ⟨versions', listed', exactly⟩ := moduleVersions_ok valid parse nsValid parts
    obtain rfl := Except.ok.inj (listed.symm.trans listed')
    obtain ⟨version, registered, parsed⟩ := (exactly v).mp isListed
    exact ⟨ns, name, version, v, parts, registered, parsed, good⟩
  · rintro ⟨ns, name, version, v, parts, registered, parsed, good⟩
    have nsValid : validateName ns = .ok () := (valid _ (.inr (.inl registered))).1
    obtain ⟨versions, listed, exactly⟩ := moduleVersions_ok valid parse nsValid parts
    exact ⟨versions, listed, v, (exactly v).mpr ⟨version, registered, parsed⟩, good⟩

end Versions

/-! ## Reachable states -/

section Reachable

variable [Crates] {deps : Deps} {msg : InstantiateMsg} {start : RegistryState}

/-- Whatever has happened to the registry, a script learns the status of a version where the
    version is shown under it, and finds the dependencies of a module deployed exactly where
    the registry has a version for each that will do. -/
theorem client_answers (unversioned : ∀ v, Crates.parseVersion "latest" ≠ .ok v)
    (instantiated : instantiate deps msg = .ok start) (inputs : List Input) :
    let s := Machine.run execute start inputs
    (∀ (info : ModuleInfo) (text : String), validateName info.ns.asStr = .ok () →
      info.version = .Version text → text ≠ "latest" → moduleStatus s info = .ok
        ([ModuleStatus.Registered, .Pending, .Yanked].find? fun status => Shown s status info)) ∧
      ∀ dependencies, assertDependenciesDeployed s dependencies = .ok () ↔
        ∀ dep ∈ dependencies, Deployed s dep := by
  intro s
  have valid : ValidNames s := validNames_run instantiated inputs
  have parse : VersionsParse s := versionsParse_run unversioned instantiated inputs
  exact ⟨fun _ _ nsValid => moduleStatus_ok valid nsValid,
    fun _ => assertDependenciesDeployed_ok valid parse⟩

end Reachable

section ClientSample

attribute [local instance] releaseCrates

def botVersion (version : String) : ModuleInfo :=
  { ns := ⟨"abstract"⟩, name := "bot", version := .Version version }

def withElevenBots : RegistryState :=
  Machine.run execute (sampleStart false) [sampleInput "adm" (.ProposeModules
    (["1.0.0", "1.1.0", "1.2.0", "1.3.0", "1.4.0", "1.5.0", "1.6.0", "1.7.0", "1.8.0", "1.9.0",
      "2.0.0"].map fun version => (botVersion version, .Standalone 7)))]

/-- The eleventh version is registered, and a script takes it for not deployed. -/
example : (botVersion "2.0.0").key ∈ withElevenBots.registeredModules ∧
    moduleStatus withElevenBots (botVersion "1.9.0") = .ok (some .Registered) ∧
    moduleStatus withElevenBots (botVersion "2.0.0") = .ok none := by
  decide +kernel

end ClientSample

end AbstractFramework.Interface
