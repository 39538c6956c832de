import AbstractFramework.Lib.Paging
import AbstractFramework.Lib.Ranges
import AbstractFramework.Objects.AccountIdCodec
import AbstractFramework.Registry.Writes

/-! # The list of modules

The registry lists the modules of one status in pages, in the order of their storage keys.  A
namespace, and with it a name, is a prefix of the keys and restricts the range that a page is
cut from.  A name alone and a version are tested on the page after the cut.  So a client that
lists the modules page by page misses some where a page's worth of modules in a row fails
these tests.
-/

namespace AbstractFramework.Registry

open AbstractFramework Fallible Storage Paging

/-! ## The query -/

inductive ModuleStatus where
  | Registered
  | Pending
  | Yanked
deriving DecidableEq, Repr

structure ModuleFilter where
  ns : Option String
  name : Option String
  version : Option String
  status : Option ModuleStatus
deriving DecidableEq, Repr

def ModuleFilter.default : ModuleFilter :=
  { ns := none, name := none, version := none, status := none }

def DEFAULT_LIMIT : Nat := 10
def MAX_LIMIT : Nat := 20

/-- `ModuleVersion::from_vec`. -/
def versionFromKey (text : String) : ModuleVersion :=
  if text = "latest" then .Latest else .Version text

def nameErrorText : AbstractError → String
  | .FormattingError object expected actual =>
    "Object " ++ object ++ " should be formatted " ++ expected ++ " but is " ++ actual
  | _ => ""

section Query

variable [Crates]

/-- `ModuleInfo::from_vec`. -/
def infoFromKey (key : ModuleKey) : Except StdError ModuleInfo := do
  let ns ← (Namespace.new key.ns.asStr).mapError fun e =>
    StdError.msg ("Invalid namespace for module: " ++ nameErrorText e)
  return { ns, name := key.name, version := versionFromKey key.version }

def loadModule (e : ModuleKey × ModuleReference) : Except StdError (ModuleInfo × ModuleReference) := do
  let info ← infoFromKey e.1
  return (info, e.2)

def keyBytes (key : ModuleKey) : Bytes :=
  joinedKey [strBytes key.ns.asStr, strBytes key.name, strBytes key.version]

/-- The bytes of a key without its namespace. -/
def superSuffixBytes (key : String × String) : Bytes :=
  joinedKey [strBytes key.1, strBytes key.2]

def superSuffix (ns : Namespace) (key : ModuleKey) : Option (String × String) :=
  if key.ns = ns then some (key.name, key.version) else none

def suffix (ns : Namespace) (name : String) (key : ModuleKey) : Option String :=
  if key.ns = ns ∧ key.name = name then some key.version else none

/-- The modules that a filter on the status chooses from. -/
def modLib (s : RegistryState) : Option ModuleStatus → Map ModuleKey ModuleReference
  | some .Registered | none => s.registeredModules
  | some .Pending => s.pendingModules
  | some .Yanked => s.yankedModules

def filterModulesByNamespace (startAfter : Option ModuleInfo) (limit : Nat) (ns : Namespace)
    (name : Option String) (modLib : Map ModuleKey ModuleReference) :
    List (ModuleInfo × ModuleReference) :=
  match name with
  | some name =>
    let startBound := startAfter.map fun info => info.version.toStr
    ((range strBytes startBound (under (suffix ns name) modLib)).take limit).map fun e =>
      ({ ns, name, version := versionFromKey e.1 }, e.2)
  | none =>
    let startBound := startAfter.map fun token => (token.name, token.version.toStr)
    ((range superSuffixBytes startBound (under (superSuffix ns) modLib)).take limit).map fun e =>
      ({ ns, name := e.1.1, version := versionFromKey e.1.2 }, e.2)

/-- The name and version filter, handled after loading all modules. -/
def retainLoaded (filter : ModuleFilter) (modules : List (ModuleInfo × ModuleReference)) :
    List (ModuleInfo × ModuleReference) :=
  let modules := match filter.ns, filter.name with
    | none, some name => modules.filter fun e => e.1.name = name
    | _, _ => modules
  match filter.version with
  | some version => modules.filter fun e => e.1.version = .Version version
  | none => modules

def handleModuleListQuery (s : RegistryState) (startAfter : Option ModuleInfo)
    (limit : Option Nat) (filter : Option ModuleFilter) :
    Except RegistryError (List (Module × ModuleConfiguration)) := do
  let limit := min (limit.getD DEFAULT_LIMIT) MAX_LIMIT
  let filter := filter.getD .default
  let modLib := modLib s filter.status
  let modules : List (ModuleInfo × ModuleReference) ← match filter.ns with
    | some nsFilter => do
      let ns ← (Namespace.new nsFilter).mapError RegistryError.Abstract
      pure (filterModulesByNamespace startAfter limit ns filter.name modLib)
    | none =>
      let startBound := startAfter.map ModuleInfo.key
      let entries := (range keyBytes startBound (under some modLib)).take limit
      (entries.mapM loadModule).mapError RegistryError.Std
  return (retainLoaded filter modules).map fun e =>
    ({ info := e.1, reference := e.2 }, s.configFromStorage e.1)

end Query

/-! ## Valid names -/

section Names

variable [Crates] {s s' : RegistryState} {i : Input} {msgs : List BankMsg}

def ValidName (key : ModuleKey) : Prop :=
  validateName key.ns.asStr = .ok () ∧ validateName key.name = .ok ()

/-- Every version in the storage has a valid namespace and a valid name. -/
def ValidNames (s : RegistryState) : Prop := ∀ key, s.hasModule key → ValidName key

theorem length_of_validateName {name : String} (valid : validateName name = .ok ()) :
    name.utf8ByteSize ≤ MAX_LENGTH := by
  simp only [validateName, bind_eq_ok, ensure_eq_ok] at valid
  obtain ⟨_, _, _, short, _⟩ := valid
  exact short

/-- Without a proposal modules only move from one status to another. -/
theorem Write.hasModule_of (other : ∀ modules, i.msg ≠ .ProposeModules modules)
    (write : Write i s s') {key : ModuleKey} (stored : s'.hasModule key) : s.hasModule key := by
  cases write with
  | pend msg => exact absurd msg (other _)
  | register msg => exact absurd msg (other _)
  | approve _ _ waiting =>
    rcases stored with pending | registered | yanked
    · exact .inl (AList.mem_erase.mp pending).2
    · rcases (AList.mem_insert _).mp registered with rfl | registered
      · exact .inl (mem_of_lookup waiting)
      · exact .inr (.inl registered)
    · exact .inr (.inr yanked)
  | reject =>
    rcases stored with pending | rest
    · exact .inl (AList.mem_erase.mp pending).2
    · exact .inr rest
  | remove =>
    rcases stored with pending | registered | yanked
    · exact .inl pending
    · exact .inr (.inl (AList.mem_erase.mp registered).2)
    · exact .inr (.inr (AList.mem_erase.mp yanked).2)
  | yank _ found =>
    rcases stored with pending | registered | yanked
    · exact .inl pending
    · exact .inr (.inl (AList.mem_erase.mp registered).2)
    · rcases (AList.mem_insert _).mp yanked with rfl | yanked
      · exact .inr (.inl (mem_of_lookup found))
      · exact .inr (.inr yanked)
  | _ => exact stored

theorem proposeOne_hasModule {deps : Deps} {sender : Addr} {secure : Bool}
    {entry : ModuleInfo × ModuleReference} (ok : proposeOne deps sender secure s entry = .ok s')
    {key : ModuleKey} (stored : s'.hasModule key) : s.hasModule key ∨ key = entry.1.key ∧
      entry.1.validate = .ok () ∧ entry.1.assertVersionVariant = .ok () := by
  obtain ⟨info, reference⟩ := entry
  simp only [proposeOne, assertProposable, bind_eq_ok, mapError_eq_ok] at ok
  obtain ⟨_, ⟨_, _, _, valid, _, _, _, named, _⟩, ok⟩ := ok
  split at ok
  · simp only [pure_eq_ok] at ok
    subst ok
    rcases stored with pending | rest
    · rcases (AList.mem_insert _).mp pending with rfl | pending
      · exact .inr ⟨rfl, valid, named⟩
      · exact .inl (.inl pending)
    · exact .inl (.inr rest)
  · simp only [bind_eq_ok, mapError_eq_ok, pure_eq_ok] at ok
    obtain ⟨_, _, rfl⟩ := ok
    rcases stored with pending | registered | yanked
    · exact .inl (.inl pending)
    · rcases (AList.mem_insert _).mp registered with rfl | registered
      · exact .inr ⟨rfl, valid, named⟩
      · exact .inl (.inr (.inl registered))
    · exact .inl (.inr (.inr yanked))

/-- What a proposal checks of a module holds of every one that is stored. -/
theorem stored_run {P : ModuleKey → Prop} {deps : Deps} {msg : InstantiateMsg}
    {start : RegistryState}
    (checked : ∀ info : ModuleInfo, info.validate = .ok () → info.assertVersionVariant = .ok () →
      P info.key)
    (instantiated : instantiate deps msg = .ok start) (inputs : List Input) :
    ∀ key, (Machine.run execute start inputs).hasModule key → P key := by
  refine Machine.run_invariant (P := fun s : RegistryState => ∀ key, s.hasModule key → P key) inputs
    ?_ ?_
  · intro s i s' msgs held ok
    by_cases proposal : ∃ modules, i.msg = .ProposeModules modules
    · obtain ⟨modules, msg⟩ := proposal
      simp only [execute, msg, proposeModules, bind_eq_ok, pure_eq_ok, Prod.mk.injEq] at ok
      obtain ⟨_, done, rfl, _⟩ := ok
      refine foldlM_invariant (P := fun s : RegistryState => ∀ key, s.hasModule key → P key) ?_ held
        done
      intro m entry m' _ held ok key stored
      rcases proposeOne_hasModule ok stored with before | ⟨rfl, valid, named⟩
      · exact held key before
      · exact checked entry.1 valid named
    · have other : ∀ modules, i.msg ≠ .ProposeModules modules :=
        fun modules msg => proposal ⟨modules, msg⟩
      refine Machine.writes_invariant (P := fun s : RegistryState => ∀ key, s.hasModule key → P key)
        ?_ held (execute_writes ok)
      exact fun _ _ _ write held key stored => held key (write.hasModule_of other stored)
  · simp only [instantiate, bind_eq_ok, mapError_eq_ok, pure_eq_ok] at instantiated
    obtain ⟨_, _, _, _, rfl⟩ := instantiated
    rintro key (none | none | none) <;> cases none

theorem validName_of_validate {info : ModuleInfo} (valid : info.validate = .ok ()) :
    ValidName info.key := by
  simp only [ModuleInfo.validate, bind_eq_ok, mapError_eq_ok] at valid
  obtain ⟨_, nsValid, _, nameValid, _⟩ := valid
  exact ⟨nsValid, nameValid⟩

theorem validNames_run {deps : Deps} {msg : InstantiateMsg} {start : RegistryState}
    (instantiated : instantiate deps msg = .ok start) (inputs : List Input) :
    ValidNames (Machine.run execute start inputs) :=
  stored_run (fun _ valid _ => validName_of_validate valid) instantiated inputs

end Names

/-! ## Listing page by page -/

section Listing

variable [Crates] {s : RegistryState} {limit : Option Nat} {filter : Option ModuleFilter}

/-- The stored version as the query shows it. -/
def ModuleInfo.ofKey (key : ModuleKey) : ModuleInfo :=
  { ns := key.ns, name := key.name, version := versionFromKey key.version }

omit [Crates] in
theorem toStr_versionFromKey (text : String) : (versionFromKey text).toStr = text := by
  unfold versionFromKey
  split
  · rename_i same
    rw [same]
    rfl
  · rfl

omit [Crates] in
@[simp] theorem key_ofKey (key : ModuleKey) : (ModuleInfo.ofKey key).key = key := by
  simp [ModuleInfo.ofKey, ModuleInfo.key, toStr_versionFromKey]

theorem infoFromKey_ok {key : ModuleKey} (valid : ValidName key) :
    infoFromKey key = .ok (ModuleInfo.ofKey key) := by
  simp only [infoFromKey, Namespace.new, valid.1]
  rfl

/-- What the filter asks for. -/
def ModuleFilter.Matches (filter : ModuleFilter) (info : ModuleInfo) : Prop :=
  (∀ ns ∈ filter.ns, info.ns.asStr = ns) ∧ (∀ name ∈ filter.name, info.name = name) ∧
    ∀ version ∈ filter.version, info.version = .Version version

/-- The part of the filter that restricts the range. -/
def inPrefix (filter : ModuleFilter) (key : ModuleKey) : Bool :=
  match filter.ns with
  | some ns => key.ns.asStr = ns && filter.name.all (key.name = ·)
  | none => true

/-- The part of the filter that is tested on the page. -/
def passesLater (filter : ModuleFilter) (key : ModuleKey) : Bool :=
  (filter.ns.isSome || filter.name.all (key.name = ·)) &&
    filter.version.all (versionFromKey key.version = .Version ·)

/-- The modules of the status under the prefix. -/
def prefixed (s : RegistryState) (filter : ModuleFilter) : List (ModuleKey × ModuleReference) :=
  (under some (modLib s filter.status)).filter fun e => inPrefix filter e.1

/-- The modules that pages are cut from, in the order of their keys. -/
def storageOrder (s : RegistryState) (filter : ModuleFilter) : List (ModuleKey × ModuleReference) :=
  range keyBytes none (prefixed s filter)

def pageSize (limit : Option Nat) : Nat := min (limit.getD DEFAULT_LIMIT) MAX_LIMIT

omit [Crates] in
theorem matches_ofKey {filter : ModuleFilter} {key : ModuleKey} :
    filter.Matches (ModuleInfo.ofKey key) ↔
      inPrefix filter key = true ∧ passesLater filter key = true := by
  unfold ModuleFilter.Matches inPrefix passesLater ModuleInfo.ofKey
  cases filter.ns <;> cases filter.name <;> cases filter.version <;> simp [and_assoc]

/-! ### The pages -/

def loaded (e : ModuleKey × ModuleReference) : ModuleInfo × ModuleReference :=
  (ModuleInfo.ofKey e.1, e.2)

def respond (s : RegistryState) (e : ModuleKey × ModuleReference) : Module × ModuleConfiguration :=
  ({ info := ModuleInfo.ofKey e.1, reference := e.2 },
    s.configFromStorage (ModuleInfo.ofKey e.1))

omit [Crates] in
theorem retainLoaded_map (filter : ModuleFilter) (entries : List (ModuleKey × ModuleReference)) :
    retainLoaded filter (entries.map loaded) =
      (entries.filter fun e => passesLater filter e.1).map loaded := by
  obtain ⟨ns, name, version, status⟩ := filter
  have tests : ∀ e : ModuleKey × ModuleReference, (loaded e).1.name = e.1.name ∧
      (loaded e).1.version = versionFromKey e.1.version := fun _ => ⟨rfl, rfl⟩
  cases ns <;> cases name <;> cases version <;>
    simp only [retainLoaded, List.filter_map, List.filter_filter, Function.comp_def, tests] <;>
    refine congrArg (List.map loaded) ?_ <;>
    first
      | exact List.filter_congr fun e _ => by simp [passesLater, Bool.and_comm]
      | exact (List.filter_eq_self.mpr fun e _ => by simp [passesLater]).symm

theorem hasModule_of_modLib {status : Option ModuleStatus} {key : ModuleKey}
    (stored : key ∈ modLib s status) : s.hasModule key := by
  unfold modLib at stored
  split at stored
  · exact .inr (.inl stored)
  · exact .inr (.inl stored)
  · exact .inl stored
  · exact .inr (.inr stored)

theorem keyBytes_injective {key key' : ModuleKey} (valid : ValidName key)
    (valid' : ValidName key') (same : keyBytes key = keyBytes key') : key = key' := by
  have short : ∀ key : ModuleKey, ValidName key →
      ∀ k ∈ [strBytes key.ns.asStr, strBytes key.name], k.length < 65536 := by
    intro key valid k listed
    have ns := length_of_validateName valid.1
    have name := length_of_validateName valid.2
    simp only [MAX_LENGTH] at ns name
    simp only [List.mem_cons, List.not_mem_nil, or_false] at listed
    rcases listed with rfl | rfl <;> rw [strBytes_length] <;> omega
  have parts : [strBytes key.ns.asStr, strBytes key.name, strBytes key.version] =
      [strBytes key'.ns.asStr, strBytes key'.name, strBytes key'.version] :=
    joinedKey_injective rfl (short key valid) (short key' valid') same
  simp only [List.cons.injEq, and_true] at parts
  obtain ⟨ns, name, version⟩ := parts
  cases key
  cases key'
  simp only [ModuleKey.mk.injEq]
  exact ⟨congrArg Namespace.mk (strBytes_injective ns), strBytes_injective name,
    strBytes_injective version⟩

theorem validName_of_under (valid : ValidNames s) {status : Option ModuleStatus}
    {e : ModuleKey × ModuleReference} (listed : e ∈ under some (modLib s status)) :
    ValidName e.1 := by
  obtain ⟨k, found, same⟩ := mem_under.mp listed
  cases same
  exact valid _ (hasModule_of_modLib (mem_of_lookup found))

/-- Versions with valid names differ in the bytes of their keys. -/
theorem keyBytes_nodup (valid : ValidNames s) (status : Option ModuleStatus) :
    ((under some (modLib s status)).map fun e => keyBytes e.1).Nodup := by
  apply under_bytes_nodup
  · exact some_determines
  intro e listed e' listed' same
  exact keyBytes_injective (validName_of_under valid listed) (validName_of_under valid listed') same

omit [Crates] in
theorem suffix_eq_some {ns : Namespace} {name version : String} {key : ModuleKey} :
    suffix ns name key = some version ↔ key = ⟨ns, name, version⟩ := by
  obtain ⟨keyNs, keyName, keyVersion⟩ := key
  unfold suffix
  split <;> simp_all

omit [Crates] in
theorem superSuffix_eq_some {ns : Namespace} {rest : String × String} {key : ModuleKey} :
    superSuffix ns key = some rest ↔ key = ⟨ns, rest.1, rest.2⟩ := by
  obtain ⟨keyNs, keyName, keyVersion⟩ := key
  obtain ⟨name, version⟩ := rest
  unfold superSuffix
  split <;> simp_all

/-- The range of a module's versions is a part of the whole range. -/
theorem range_suffix (valid : ValidNames s) (status : Option ModuleStatus) (ns : Namespace)
    (name : String) (start : Option String) :
    (range strBytes start (under (suffix ns name) (modLib s status))).map
        (fun e => ((⟨ns, name, e.1⟩ : ModuleKey), e.2)) =
      range keyBytes (start.map fun version => ⟨ns, name, version⟩)
        ((under some (modLib s status)).filter fun e => (suffix ns name e.1).isSome) := by
  have joined : ∀ version, keyBytes ⟨ns, name, version⟩ =
      (encodeLength (strBytes ns.asStr).length ++ strBytes ns.asStr ++
        (encodeLength (strBytes name).length ++ strBytes name)) ++ strBytes version := by
    intro version
    simp [keyBytes, joinedKey]
  exact range_under (fun _ _ => suffix_eq_some) joined (keyBytes_nodup valid status) start

/-- The range of a namespace is a part of the whole range. -/
theorem range_superSuffix (valid : ValidNames s) (status : Option ModuleStatus) (ns : Namespace)
    (start : Option (String × String)) :
    (range superSuffixBytes start (under (superSuffix ns) (modLib s status))).map
        (fun e => ((⟨ns, e.1.1, e.1.2⟩ : ModuleKey), e.2)) =
      range keyBytes (start.map fun rest => ⟨ns, rest.1, rest.2⟩)
        ((under some (modLib s status)).filter fun e => (superSuffix ns e.1).isSome) := by
  have joined : ∀ rest : String × String, keyBytes ⟨ns, rest.1, rest.2⟩ =
      (encodeLength (strBytes ns.asStr).length ++ strBytes ns.asStr) ++ superSuffixBytes rest := by
    intro rest
    simp [keyBytes, superSuffixBytes, joinedKey]
  exact range_under (fun _ _ => superSuffix_eq_some) joined (keyBytes_nodup valid status) start

omit [Crates] in
theorem isSome_suffix {filter : ModuleFilter} {ns name : String} (isNs : filter.ns = some ns)
    (isName : filter.name = some name) (key : ModuleKey) :
    inPrefix filter key = (suffix ⟨ns⟩ name key).isSome := by
  obtain ⟨⟨keyNs⟩, keyName, version⟩ := key
  simp only [inPrefix, isNs, isName, suffix, Namespace.mk.injEq]
  split <;> simp_all

omit [Crates] in
theorem isSome_superSuffix {filter : ModuleFilter} {ns : String} (isNs : filter.ns = some ns)
    (noName : filter.name = none) (key : ModuleKey) :
    inPrefix filter key = (superSuffix ⟨ns⟩ key).isSome := by
  obtain ⟨⟨keyNs⟩, keyName, version⟩ := key
  simp only [inPrefix, isNs, noName, superSuffix, Namespace.mk.injEq]
  split <;> simp_all

/-- With a namespace the page is cut from the part of the range under the prefix. -/
theorem filterModulesByNamespace_eq (valid : ValidNames s) {filter : ModuleFilter} {ns : String}
    (isNs : filter.ns = some ns) {start : Option ModuleInfo} {size : Nat}
    (inside : ∀ info ∈ start, inPrefix filter info.key = true) :
    filterModulesByNamespace start size ⟨ns⟩ filter.name (modLib s filter.status) =
      ((range keyBytes (start.map ModuleInfo.key) ((under some (modLib s filter.status)).filter
        fun e => inPrefix filter e.1)).take size).map loaded := by
  unfold filterModulesByNamespace
  split
  · rename_i name isName
    have bound : start.map ModuleInfo.key =
        (start.map fun info => info.version.toStr).map fun version => ⟨⟨ns⟩, name, version⟩ := by
      cases start with
      | none => rfl
      | some info =>
        have has := inside info rfl
        rw [isSome_suffix isNs isName] at has
        obtain ⟨version, found⟩ := Option.isSome_iff_exists.mp has
        have isKey := suffix_eq_some.mp found
        simp only [ModuleInfo.key, ModuleKey.mk.injEq] at isKey
        simp [ModuleInfo.key, isKey.1, isKey.2.1]
    simp only [isSome_suffix isNs isName]
    rw [bound, ← range_suffix valid, ← List.map_take, List.map_map]
    rfl
  · rename_i noName
    have bound : start.map ModuleInfo.key =
        (start.map fun info => (info.name, info.version.toStr)).map
          fun rest => ⟨⟨ns⟩, rest.1, rest.2⟩ := by
      cases start with
      | none => rfl
      | some info =>
        have has := inside info rfl
        rw [isSome_superSuffix isNs noName] at has
        obtain ⟨rest, found⟩ := Option.isSome_iff_exists.mp has
        have isKey := superSuffix_eq_some.mp found
        simp only [ModuleInfo.key, ModuleKey.mk.injEq] at isKey
        simp [ModuleInfo.key, isKey.1]
    simp only [isSome_superSuffix isNs noName]
    rw [bound, ← range_superSuffix valid, ← List.map_take, List.map_map]
    rfl

/-- Where the namespace of the filter is a name, a query answers with a page of the range. -/
theorem handleModuleListQuery_ok (valid : ValidNames s) (limit : Option Nat)
    (start : Option ModuleInfo) (nsValid : ∀ ns ∈ (filter.getD .default).ns, validateName ns = .ok ())
    (inside : ∀ info ∈ start, inPrefix (filter.getD .default) info.key = true) :
    handleModuleListQuery s start limit filter =
      .ok ((page (pageSize limit) (fun e => passesLater (filter.getD .default) e.1)
        (range keyBytes (start.map ModuleInfo.key)
          (prefixed s (filter.getD .default)))).map (respond s)) := by
  have shown : ∀ entries : List (ModuleKey × ModuleReference),
      (retainLoaded (filter.getD .default) (entries.map loaded)).map
          (fun e => (({ info := e.1, reference := e.2 } : Module), s.configFromStorage e.1)) =
        (entries.filter fun e => passesLater (filter.getD .default) e.1).map (respond s) := by
    intro entries
    rw [retainLoaded_map, List.map_map]
    rfl
  rw [page, ← shown, prefixed]
  unfold handleModuleListQuery pageSize
  simp only
  cases isNs : (filter.getD .default).ns with
  | some ns =>
    rw [← filterModulesByNamespace_eq valid isNs inside]
    simp only [Namespace.new, nsValid ns isNs]
    rfl
  | none =>
    have whole : ((under some (modLib s (filter.getD .default).status)).filter
        fun e => inPrefix (filter.getD .default) e.1) =
          under some (modLib s (filter.getD .default).status) :=
      List.filter_eq_self.mpr fun e _ => by simp [inPrefix, isNs]
    rw [whole]
    have loads : ∀ entries : List (ModuleKey × ModuleReference),
        (∀ e ∈ entries, ValidName e.1) → entries.mapM loadModule = .ok (entries.map loaded) := by
      intro entries valid
      rw [mapM_eq_ok, List.forall₂_map_right_iff, List.forall₂_same]
      intro e listed
      simp only [loadModule, infoFromKey_ok (valid e listed)]
      rfl
    simp only
    rw [loads]
    · rfl
    · intro e listed
      exact validName_of_under valid (mem_range.mp (List.mem_of_mem_take listed)).1

/-- The namespace of a filter must be a name. -/
theorem handleModuleListQuery_error (s : RegistryState) (limit : Option Nat)
    (start : Option ModuleInfo) {ns : String} (isNs : (filter.getD .default).ns = some ns) (invalid : validateName ns ≠ .ok ()) :
    ∃ e, handleModuleListQuery s start limit filter = .error e := by
  unfold handleModuleListQuery
  simp only [isNs, Namespace.new]
  cases h : validateName ns with
  | ok u => exact absurd h invalid
  | error e => exact ⟨.Abstract e, rfl⟩

/-! ### Completeness -/

/-- The module is stored under the status. -/
def IsStored (s : RegistryState) (status : Option ModuleStatus) (m : Module) : Prop :=
  ∃ key, (modLib s status).lookup key = some m.reference ∧ m.info = ModuleInfo.ofKey key

/-- A client that lists the modules page by page gets each module that the filter asks for
    once, and no other. -/
def ListsExactly (s : RegistryState) (limit : Option Nat) (filter : Option ModuleFilter) : Prop :=
  ∃ out, Collects (fun start => handleModuleListQuery s start limit filter)
      (fun answer : Module × ModuleConfiguration => answer.1.info) none out ∧
    (out.map fun answer => answer.1.info).Nodup ∧
    ∀ m config, (m, config) ∈ out ↔ IsStored s (filter.getD .default).status m ∧
      (filter.getD .default).Matches m.info ∧ config = s.configFromStorage m.info

theorem prefixed_nodup (valid : ValidNames s) (filter : ModuleFilter) :
    ((prefixed s filter).map fun e => keyBytes e.1).Nodup :=
  (keyBytes_nodup valid filter.status).sublist (List.filter_sublist.map _)

theorem storageOrder_nodup (valid : ValidNames s) (filter : ModuleFilter) :
    ((storageOrder s filter).map fun e => ModuleInfo.ofKey e.1).Nodup := by
  rw [List.nodup_iff_pairwise_ne, List.pairwise_map]
  refine (range_pairwise (prefixed_nodup valid filter)).imp fun {a b} less same => ?_
  have keys := congrArg ModuleInfo.key same
  rw [key_ofKey, key_ofKey] at keys
  rw [keys] at less
  exact List.lt_irrefl _ less

/-- The modules of the listing that pass the tests are those that the filter asks for. -/
theorem mem_answers {filter : ModuleFilter} {m : Module} {config : ModuleConfiguration} :
    (m, config) ∈ ((storageOrder s filter).filter fun e => passesLater filter e.1).map (respond s) ↔
      IsStored s filter.status m ∧ filter.Matches m.info ∧
        config = s.configFromStorage m.info := by
  simp only [List.mem_map, List.mem_filter, storageOrder, mem_range, isAfter, prefixed, and_true]
  constructor
  · rintro ⟨⟨key, reference⟩, ⟨⟨listed, inside⟩, passes⟩, same⟩
    cases same
    obtain ⟨_, found, isKey⟩ := mem_under.mp listed
    cases isKey
    exact ⟨⟨key, found, rfl⟩, matches_ofKey.mpr ⟨inside, passes⟩, rfl⟩
  · rintro ⟨⟨key, found, isInfo⟩, matching, rfl⟩
    rw [isInfo] at matching ⊢
    obtain ⟨inside, passes⟩ := matches_ofKey.mp matching
    refine ⟨(key, m.reference), ⟨⟨mem_under.mpr ⟨key, found, rfl⟩, inside⟩, passes⟩, ?_⟩
    rw [respond, ← isInfo]

/-- What a client gets is a beginning of what it looks for. -/
theorem collects_modules (valid : ValidNames s) (limit : Option Nat)
    (nsValid : ∀ ns ∈ (filter.getD .default).ns, validateName ns = .ok ()) :
    ∃ out, Collects (fun start => handleModuleListQuery s start limit filter)
        (fun answer : Module × ModuleConfiguration => answer.1.info) none (out.map (respond s)) ∧
      out <+: (storageOrder s (filter.getD .default)).filter
        (fun e => passesLater (filter.getD .default) e.1) ∧
      (out = (storageOrder s (filter.getD .default)).filter
          (fun e => passesLater (filter.getD .default) e.1) ↔
        NoGap (pageSize limit) (fun e => passesLater (filter.getD .default) e.1)
          (storageOrder s (filter.getD .default))) := by
  apply collects_iff
  · exact handleModuleListQuery_ok valid limit none nsValid fun _ none => by cases none
  · intro before x rest split
    have listed : x ∈ storageOrder s (filter.getD .default) := by
      rw [split]
      simp
    have inside : inPrefix (filter.getD .default) x.1 = true :=
      (List.mem_filter.mp (mem_range.mp listed).1).2
    have answer := handleModuleListQuery_ok valid limit (some (ModuleInfo.ofKey x.1)) nsValid
      fun info isStart => by
        cases isStart
        rw [key_ofKey]
        exact inside
    rw [Option.map_some, key_ofKey, range_resume (prefixed_nodup valid _) split] at answer
    exact answer

/-- The listing is complete exactly where the namespace of the filter is a name and no page's
    worth of modules in a row fails the tests that are made on the page, before one that
    passes them. -/
theorem module_list_complete (valid : ValidNames s) :
    ListsExactly s limit filter ↔
      (∀ ns ∈ (filter.getD .default).ns, validateName ns = .ok ()) ∧
        NoGap (pageSize limit) (fun e => passesLater (filter.getD .default) e.1)
          (storageOrder s (filter.getD .default)) := by
  have infos : (fun answer : Module × ModuleConfiguration => answer.1.info) ∘ respond s =
      fun e => ModuleInfo.ofKey e.1 := rfl
  have distinct : (((storageOrder s (filter.getD .default)).filter fun e =>
      passesLater (filter.getD .default) e.1).map fun e => ModuleInfo.ofKey e.1).Nodup :=
    (storageOrder_nodup valid _).sublist (List.filter_sublist.map _)
  by_cases nsValid : ∀ ns ∈ (filter.getD .default).ns, validateName ns = .ok ()
  · obtain ⟨out, collected, begins, complete⟩ := collects_modules valid limit nsValid
    rw [← complete]
    constructor
    · rintro ⟨answers, collected', _, exactly⟩
      refine ⟨nsValid, begins.sublist.eq_of_length_le ?_⟩
      have apart : (((storageOrder s (filter.getD .default)).filter fun e =>
          passesLater (filter.getD .default) e.1).map (respond s)).Nodup := by
        apply List.Nodup.of_map fun answer : Module × ModuleConfiguration => answer.1.info
        rwa [List.map_map, infos]
      have found := List.subperm_of_subset apart fun answer listed =>
        (exactly answer.1 answer.2).mpr (mem_answers.mp listed)
      rw [← collected.unique collected'] at found
      simpa only [List.length_map] using found.length_le
    · rintro ⟨_, all⟩
      refine ⟨_, collected, ?_, fun m config => ?_⟩
      · rwa [all, List.map_map, infos]
      · rw [all]
        exact mem_answers
  · constructor
    · rintro ⟨answers, collected, _⟩
      exfalso
      push Not at nsValid
      obtain ⟨ns, isNs, invalid⟩ := nsValid
      obtain ⟨e, error⟩ := handleModuleListQuery_error s limit none isNs invalid
      cases collected with
      | done empty => cases error.symm.trans empty
      | more answer => cases error.symm.trans answer
    · rintro ⟨nsValid', _⟩
      exact absurd nsValid' nsValid

end Listing

section ListingSample

attribute [local instance] releaseCrates

/-- The modules `bot` and `cat` are registered. -/
def withBotAndCat : RegistryState :=
  Machine.run execute (sampleStart false) [sampleInput "adm" (.ProposeModules [
    ({ ns := ⟨"abstract"⟩, name := "bot", version := .Version "1.0.0" }, .Standalone 7),
    ({ ns := ⟨"abstract"⟩, name := "cat", version := .Version "1.0.0" }, .Standalone 8)])]

def catFilter (ns : Option String) : ModuleFilter :=
  { ns, name := some "cat", version := none, status := none }

theorem module_list_complete_cat :
    ListsExactly withBotAndCat (some 1) (some (catFilter (some "abstract"))) :=
  (module_list_complete (validNames_run (instantiate_sample false) _)).mpr
    ⟨fun ns isNs => by cases isNs; decide,
      noGap_of_forall (by decide) fun _ _ => rfl⟩

/-- Without the namespace the first page of one module holds `bot`, which is dropped: the
    client is told that there is no `cat`. -/
theorem module_list_misses_cat :
    ¬ ListsExactly withBotAndCat (some 1) (some (catFilter none)) := by
  rintro ⟨out, collected, _, exactly⟩
  have empty : handleModuleListQuery withBotAndCat none (some 1) (some (catFilter none)) =
      .ok [] := by
    decide +kernel
  have nothing := collected.unique (.done empty)
  have matching : (catFilter none).Matches
      { ns := ⟨"abstract"⟩, name := "cat", version := .Version "1.0.0" } :=
    ⟨fun _ isNs => (by cases isNs), fun _ isName => Option.some.inj isName,
      fun _ isVersion => (by cases isVersion)⟩
  have listed := (exactly
    { info := { ns := ⟨"abstract"⟩, name := "cat", version := .Version "1.0.0" }
      reference := .Standalone 8 } .default).mpr
    ⟨⟨⟨⟨"abstract"⟩, "cat", "1.0.0"⟩, by decide +kernel, by decide⟩, matching,
      by decide +kernel⟩
  rw [nothing] at listed
  cases listed

end ListingSample

end AbstractFramework.Registry
