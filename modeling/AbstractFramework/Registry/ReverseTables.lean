import AbstractFramework.Lib.ReverseIndex
import AbstractFramework.Registry.Registration

/-! # The lookups of standalone and service contracts

A standalone contract is found by its code id and a service by its address: the standalone
and the service infos lead from there to the module.  Each is a reverse index of the
registered and the yanked modules, and every message that writes modules is one write of
that store.  The rules of reverse indexes then say exactly which messages keep the lookups
in step with the modules; not all that the registry accepts do.
-/

namespace AbstractFramework.Registry

open AbstractFramework Fallible Storage Machine ReverseIndex

section Lookups

variable [Crates] {s s' : RegistryState} {modules : List (ModuleInfo × ModuleReference)}

/-- The version is registered or yanked with the reference. -/
def IsKnown (s : RegistryState) (key : ModuleKey) (reference : ModuleReference) : Prop :=
  s.registeredModules.lookup key = some reference ∨ s.yankedModules.lookup key = some reference

/-- The lookups match the modules. -/
structure LookupsMatch (s : RegistryState) : Prop where
  standalone : ∀ codeId m, s.standaloneInfos.lookup codeId = some m →
    IsKnown s m.key (.Standalone codeId)
  service : ∀ addr m, s.serviceInfos.lookup addr = some m → IsKnown s m.key (.Service addr)
  standaloneFound : ∀ key codeId, s.registeredModules.lookup key = some (.Standalone codeId) →
    codeId ∈ s.standaloneInfos
  serviceFound : ∀ key addr, s.registeredModules.lookup key = some (.Service addr) →
    addr ∈ s.serviceInfos

/-- The modules as a store with the index of one kind of contract. -/
def modulesWith {π : Type} [DecidableEq π] (s : RegistryState) (infos : Map π ModuleInfo) :
    Store ModuleKey ModuleReference π ModuleInfo where
  live key := s.registeredModules.lookup key
  retired key := s.yankedModules.lookup key
  index p := infos.lookup p

theorem lookupsMatch_iff : LookupsMatch s ↔
    Matches .Standalone ModuleInfo.key (modulesWith s s.standaloneInfos) ∧
      Matches .Service ModuleInfo.key (modulesWith s s.serviceInfos) := by
  constructor
  · intro h
    exact ⟨⟨h.standalone _ _, fun found => mem_iff_lookup.mp (h.standaloneFound _ _ found)⟩,
      ⟨h.service _ _, fun found => mem_iff_lookup.mp (h.serviceFound _ _ found)⟩⟩
  · rintro ⟨standalones, services⟩
    exact {
      standalone := fun _ _ found => standalones.named found
      service := fun _ _ found => services.named found
      standaloneFound := fun _ _ found => mem_iff_lookup.mpr (standalones.found found)
      serviceFound := fun _ _ found => mem_iff_lookup.mpr (services.found found) }

/-! ## Listed modules -/

/-- The reference that a version is listed with last. -/
def lastReference (modules : List (ModuleInfo × ModuleReference)) (key : ModuleKey) :
    Option ModuleReference :=
  ((modules.filter fun e => e.1.key = key).getLast?).map (·.2)

omit [Crates] in
theorem lastReference_of_mem {e : ModuleInfo × ModuleReference} (listed : e ∈ modules) :
    ∃ reference, lastReference modules e.1.key = some reference := by
  have some : e ∈ modules.filter fun e' => e'.1.key = e.1.key := by
    simp [listed]
  cases h : (modules.filter fun e' => e'.1.key = e.1.key).getLast? with
  | none => simp [List.getLast?_eq_none_iff.mp h] at some
  | some last => exact ⟨last.2, by rw [lastReference, h]; rfl⟩

omit [Crates] in
theorem mem_of_lastReference {key : ModuleKey} {reference : ModuleReference}
    (h : lastReference modules key = some reference) :
    ∃ e ∈ modules, e.1.key = key ∧ e.2 = reference := by
  obtain ⟨e, last, rfl⟩ := Option.map_eq_some_iff.mp h
  obtain ⟨listed, same⟩ := List.mem_filter.mp (List.mem_of_getLast? last)
  exact ⟨e, listed, by simpa using same, rfl⟩

omit [Crates] in
theorem lastNamed_of_mem {e : ModuleInfo × ModuleReference} (listed : e ∈ modules) :
    ∃ info, lastNamed modules e.2 = some info := by
  have some : e ∈ modules.filter fun e' => e'.2 = e.2 := by
    simp [listed]
  cases h : (modules.filter fun e' => e'.2 = e.2).getLast? with
  | none => simp [List.getLast?_eq_none_iff.mp h] at some
  | some last => exact ⟨last.1, by rw [lastNamed, h]; rfl⟩

omit [Crates] in
theorem mem_of_lastNamed {reference : ModuleReference} {info : ModuleInfo}
    (h : lastNamed modules reference = some info) : ∃ e ∈ modules, e.1 = info := by
  obtain ⟨e, last, rfl⟩ := Option.map_eq_some_iff.mp h
  exact ⟨e, List.mem_of_mem_filter (List.mem_of_getLast? last), rfl⟩

omit [Crates] in
theorem lookup_saveAll_or (m : Map ModuleKey ModuleReference)
    (modules : List (ModuleInfo × ModuleReference)) (key : ModuleKey) :
    (saveAll m modules).lookup key = (lastReference modules key).or (m.lookup key) := by
  -- the last entry decides, so the induction takes the list from its end
  induction modules using List.reverseRecOn with
  | nil => rfl
  | append_singleton modules e ih =>
    rw [saveAll, List.map_append, insertAll, List.foldl_append]
    rw [saveAll, insertAll] at ih
    rw [List.map_cons, List.map_nil, List.foldl_cons, List.foldl_nil, lookup_insert_ite, ih]
    by_cases same : e.1.key = key
    · simp [lastReference, same]
    · simp [lastReference, same, Ne.symm same]

omit [Crates] in
theorem lookup_saveStandalone (infos : Map Nat ModuleInfo) (e : ModuleInfo × ModuleReference)
    (codeId : Nat) :
    (RegistryState.saveStandalone infos e.1 e.2).lookup codeId =
      if e.2 = .Standalone codeId then some e.1 else infos.lookup codeId := by
  obtain ⟨info, reference⟩ := e
  cases reference with
  | Standalone codeId' =>
    rw [RegistryState.saveStandalone, lookup_insert_ite]
    simp only [ModuleReference.Standalone.injEq, eq_comm]
  | _ => simp [RegistryState.saveStandalone]

omit [Crates] in
theorem lookup_saveAllStandalone (infos : Map Nat ModuleInfo)
    (modules : List (ModuleInfo × ModuleReference)) (codeId : Nat) :
    (saveAllStandalone infos modules).lookup codeId =
      (lastNamed modules (.Standalone codeId)).or (infos.lookup codeId) :=
  lookup_foldl_save lookup_saveStandalone infos modules codeId

/-! ## The condition -/

/-- What is named after the modules are saved with their entries is not saved with another
    reference than that of its place, unless it is yanked with that one. -/
def KeepsNamed {π : Type} (s : RegistryState) (modules : List (ModuleInfo × ModuleReference))
    (reference : π → ModuleReference) (named : π → Option ModuleInfo) : Prop :=
  ∀ p m, named p = some m → ∀ r, lastReference modules m.key = some r →
    r = reference p ∨ s.yankedModules.lookup m.key = some (reference p)

/-- The entries that name the version are those of the reference it is registered with. -/
def NamedForItself (s : RegistryState) (key : ModuleKey) : Prop :=
  ∀ r, s.registeredModules.lookup key = some r →
    (∀ codeId m, s.standaloneInfos.lookup codeId = some m → m.key = key → r = .Standalone codeId) ∧
    ∀ addr m, s.serviceInfos.lookup addr = some m → m.key = key → r = .Service addr

/-- The pending modules of an approval. -/
def waiting (s : RegistryState) (approves : List ModuleInfo) :
    List (ModuleInfo × ModuleReference) :=
  approves.filterMap fun info => (s.pendingModules.lookup info.key).map fun r => (info, r)

/-- The message keeps the lookups in step with the modules. -/
def KeepsLookups (i : Input) (s : RegistryState) : Prop :=
  match i.msg with
  | .ProposeModules modules =>
    -- with security a proposal only waits
    s.config.securityEnabled = false →
      (KeepsNamed s modules .Standalone fun codeId =>
        (lastNamed modules (.Standalone codeId)).or (s.standaloneInfos.lookup codeId)) ∧
      KeepsNamed s modules .Service fun addr =>
        (lastNamed modules (.Service addr)).or (s.serviceInfos.lookup addr)
  | .ApproveOrRejectModules approves _ =>
    (KeepsNamed s (waiting s approves) .Standalone fun codeId =>
      (lastNamed (waiting s approves) (.Standalone codeId)).or (s.standaloneInfos.lookup codeId)) ∧
    (KeepsNamed s (waiting s approves) .Service fun addr => s.serviceInfos.lookup addr) ∧
    -- an approval saves no service info
    ∀ info ∈ approves, ∀ addr, s.pendingModules.lookup info.key = some (.Service addr) →
      addr ∈ s.serviceInfos
  | .YankModule info => NamedForItself s info.key
  | .ForgoNamespace names =>
    ∀ key, (∃ name ∈ names, Namespace.new name = .ok key.ns) → NamedForItself s key
  | .RemoveModule info =>
    -- only the entry of the registered code id goes with the version
    (∀ codeId m, s.standaloneInfos.lookup codeId = some m → m.key = info.key →
      s.registeredModules.lookup info.key = some (.Standalone codeId)) ∧
    (∀ addr m, s.serviceInfos.lookup addr = some m → m.key ≠ info.key) ∧
    ∀ codeId, s.registeredModules.lookup info.key = some (.Standalone codeId) →
      ∀ key, s.registeredModules.lookup key = some (.Standalone codeId) → key = info.key
  | _ => True

/-! ## Messages as writes of the store -/

/-- Saving a list with its entries is one assignment. -/
theorem modulesWith_saveAll {π : Type} [DecidableEq π] {infos infos' : Map π ModuleInfo}
    {entries : π → Option ModuleInfo}
    (registered : s'.registeredModules = saveAll s.registeredModules modules)
    (yanked : s'.yankedModules = s.yankedModules)
    (written : ∀ p, infos'.lookup p = (entries p).or (infos.lookup p)) :
    modulesWith s' infos' = (modulesWith s infos).assign (lastReference modules) entries := by
  simp only [modulesWith, Store.assign, registered, yanked, lookup_saveAll_or, written]

omit [Crates] in
theorem assigned_of_lastNamed {reference : ModuleReference} {m : ModuleInfo}
    (h : lastNamed modules reference = some m) : ∃ r, lastReference modules m.key = some r := by
  obtain ⟨e, listed, rfl⟩ := mem_of_lastNamed h
  exact lastReference_of_mem listed

omit [Crates] in
theorem named_of_lastReference {key : ModuleKey} {reference : ModuleReference}
    (h : lastReference modules key = some reference) (before : Option ModuleInfo) :
    ∃ m, (lastNamed modules reference).or before = some m := by
  obtain ⟨e, listed, _, rfl⟩ := mem_of_lastReference h
  obtain ⟨m, last⟩ := lastNamed_of_mem listed
  exact ⟨m, by rw [last]; rfl⟩

/-- Saving a list with an entry for each contract in it. -/
theorem matches_saveAll_iff {π : Type} [DecidableEq π] {infos infos' : Map π ModuleInfo}
    {reference : π → ModuleReference}
    (h : Matches reference ModuleInfo.key (modulesWith s infos))
    (registered : s'.registeredModules = saveAll s.registeredModules modules)
    (yanked : s'.yankedModules = s.yankedModules)
    (written : ∀ p, infos'.lookup p = (lastNamed modules (reference p)).or (infos.lookup p)) :
    Matches reference ModuleInfo.key (modulesWith s' infos') ↔
      KeepsNamed s modules reference fun p =>
        (lastNamed modules (reference p)).or (infos.lookup p) := by
  rw [modulesWith_saveAll registered yanked written, h.assign_iff fun _ _ => assigned_of_lastNamed]
  exact and_iff_left fun _ _ last => named_of_lastReference last _

/-- Saving a list without entries. -/
theorem matches_saveAll_iff_of_same {π : Type} [DecidableEq π] {infos : Map π ModuleInfo}
    {reference : π → ModuleReference} (modules : List (ModuleInfo × ModuleReference))
    (h : Matches reference ModuleInfo.key (modulesWith s infos))
    (registered : s'.registeredModules = saveAll s.registeredModules modules)
    (yanked : s'.yankedModules = s.yankedModules) :
    Matches reference ModuleInfo.key (modulesWith s' infos) ↔
      (KeepsNamed s modules reference fun p => infos.lookup p) ∧
        ∀ key p, lastReference modules key = some (reference p) → p ∈ infos := by
  have written : ∀ p, infos.lookup p = (none : Option ModuleInfo).or (infos.lookup p) :=
    fun _ => rfl
  rw [modulesWith_saveAll registered yanked written, h.assign_iff fun _ _ made => by cases made]
  simp only [mem_iff_lookup]
  rfl

/-! ### Proposals and approvals -/

theorem propose_lookups {deps : Deps} {sender : Addr} (h : LookupsMatch s)
    (done : modules.foldlM (proposeOne deps sender false) s = .ok s') :
    LookupsMatch s' ↔
      (KeepsNamed s modules .Standalone fun codeId =>
        (lastNamed modules (.Standalone codeId)).or (s.standaloneInfos.lookup codeId)) ∧
      KeepsNamed s modules .Service fun addr =>
        (lastNamed modules (.Service addr)).or (s.serviceInfos.lookup addr) := by
  obtain ⟨standalones, services⟩ := lookupsMatch_iff.mp h
  obtain rfl := propose_insecure done
  rw [lookupsMatch_iff]
  apply and_congr
  · exact matches_saveAll_iff standalones rfl rfl (lookup_saveAllStandalone _ _)
  · exact matches_saveAll_iff services rfl rfl (lookup_saveAllServices _ _)

/-- What is approved was pending. -/
theorem pending_of_approveModules {approves : List ModuleInfo}
    (done : approveModules approves s = .ok s') : ∀ info ∈ approves, info.key ∈ s.pendingModules := by
  induction approves generalizing s with
  | nil => simp
  | cons first approves ih =>
    obtain ⟨m, ok, rest⟩ := foldlM_cons_eq_ok.mp done
    simp only [approveOne, bind_eq_ok, okOr_eq_ok, pure_eq_ok] at ok
    obtain ⟨reference, found, rfl⟩ := ok
    intro info listed
    rcases List.mem_cons.mp listed with rfl | listed
    · exact mem_of_lookup found
    · have still := ih rest info listed
      simp only [RegistryState.approve, AList.mem_erase] at still
      exact still.2

/-- Everything that an approval writes, but for the pending modules. -/
theorem approveModules_ok {approves : List ModuleInfo}
    (done : approveModules approves s = .ok s') :
    ∃ pending, s' = { s with
      pendingModules := pending
      registeredModules := saveAll s.registeredModules (waiting s approves)
      standaloneInfos := saveAllStandalone s.standaloneInfos (waiting s approves) } := by
  induction approves generalizing s with
  | nil =>
    simp only [approveModules, List.foldlM_nil, pure_eq_ok] at done
    exact ⟨s.pendingModules, done.symm⟩
  | cons first approves ih =>
    obtain ⟨m, ok, rest⟩ := foldlM_cons_eq_ok.mp done
    simp only [approveOne, bind_eq_ok, okOr_eq_ok, pure_eq_ok] at ok
    obtain ⟨reference, found, rfl⟩ := ok
    -- the rest is approved while `first` is no longer pending, so it does not list it again
    have same : waiting (s.approve first reference) approves = waiting s approves := by
      apply List.filterMap_congr
      intro info listed
      have still := pending_of_approveModules rest info listed
      simp only [RegistryState.approve, AList.mem_erase] at still
      simp only [RegistryState.approve, AList.lookup_erase_ne still.1]
    have all : waiting s (first :: approves) = (first, reference) :: waiting s approves := by
      simp [waiting, found]
    obtain ⟨pending, rfl⟩ := ih rest
    rw [same, all]
    exact ⟨pending, rfl⟩

theorem rejectModules_ok {rejects : List ModuleInfo} (done : rejectModules rejects s = .ok s') :
    ∃ pending, s' = { s with pendingModules := pending } := by
  refine foldlM_invariant (P := fun m => ∃ pending, m = { s with pendingModules := pending }) ?_
    ⟨s.pendingModules, rfl⟩ done
  rintro _ info m' _ ⟨pending, rfl⟩ ok
  simp only [rejectOne, bind_eq_ok, pure_eq_ok] at ok
  obtain ⟨_, _, rfl⟩ := ok
  exact ⟨_, rfl⟩

theorem mem_waiting {approves : List ModuleInfo} {e : ModuleInfo × ModuleReference} :
    e ∈ waiting s approves ↔ e.1 ∈ approves ∧ s.pendingModules.lookup e.1.key = some e.2 := by
  obtain ⟨info, reference⟩ := e
  simp only [waiting, List.mem_filterMap, Option.map_eq_some_iff, Prod.mk.injEq]
  constructor
  · rintro ⟨_, listed, _, found, rfl, rfl⟩
    exact ⟨listed, found⟩
  · rintro ⟨listed, found⟩
    exact ⟨info, listed, reference, found, rfl, rfl⟩

theorem approve_lookups {i : MessageInfo} {approves rejects : List ModuleInfo}
    {msgs : List BankMsg} (h : LookupsMatch s)
    (done : approveOrRejectModules i approves rejects s = .ok (s', msgs)) :
    LookupsMatch s' ↔
      (KeepsNamed s (waiting s approves) .Standalone fun codeId =>
        (lastNamed (waiting s approves) (.Standalone codeId)).or (s.standaloneInfos.lookup codeId)) ∧
      (KeepsNamed s (waiting s approves) .Service fun addr => s.serviceInfos.lookup addr) ∧
      ∀ info ∈ approves, ∀ addr, s.pendingModules.lookup info.key = some (.Service addr) →
        addr ∈ s.serviceInfos := by
  obtain ⟨standalones, services⟩ := lookupsMatch_iff.mp h
  simp only [approveOrRejectModules, bind_eq_ok, pure_eq_ok, Prod.mk.injEq] at done
  obtain ⟨_, _, m, approved, _, rejected, _, _, rfl, _⟩ := done
  obtain ⟨_, rfl⟩ := approveModules_ok approved
  obtain ⟨_, rfl⟩ := rejectModules_ok rejected
  rw [lookupsMatch_iff]
  apply and_congr
  · exact matches_saveAll_iff standalones rfl rfl (lookup_saveAllStandalone _ _)
  · refine Iff.trans (matches_saveAll_iff_of_same (waiting s approves) services rfl rfl) ?_
    apply and_congr_right
    intro _
    constructor
    · intro found info listed addr pending
      have waits : (info, .Service addr) ∈ waiting s approves := mem_waiting.mpr ⟨listed, pending⟩
      obtain ⟨reference, last⟩ := lastReference_of_mem waits
      -- a version waits with one reference, so the last one listed is the same
      obtain ⟨e, waits', same, rfl⟩ := mem_of_lastReference last
      have pending' := (mem_waiting.mp waits').2
      rw [same, pending] at pending'
      rw [← Option.some.inj pending'] at last
      exact found _ addr last
    · intro found key addr last
      obtain ⟨e, waits, _, isService⟩ := mem_of_lastReference last
      obtain ⟨listed, pending⟩ := mem_waiting.mp waits
      rw [isService] at pending
      exact found e.1 listed addr pending

/-! ### Yanked versions -/

/-- Retiring versions keeps both lookups in step exactly when each is named for itself. -/
theorem retire_lookups (h : LookupsMatch s) (D : ModuleKey → Prop) [DecidablePred D]
    (standalones : modulesWith s' s'.standaloneInfos = (modulesWith s s.standaloneInfos).retire D)
    (services : modulesWith s' s'.serviceInfos = (modulesWith s s.serviceInfos).retire D) :
    LookupsMatch s' ↔ ∀ key, D key → NamedForItself s key := by
  obtain ⟨hStandalones, hServices⟩ := lookupsMatch_iff.mp h
  rw [lookupsMatch_iff, standalones, services, hStandalones.retire_iff, hServices.retire_iff]
  constructor
  · rintro ⟨keptStandalones, keptServices⟩ key hD r registered
    constructor
    · rintro codeId m found rfl
      exact keptStandalones codeId m found hD r registered
    · rintro addr m found rfl
      exact keptServices addr m found hD r registered
  · intro named
    constructor
    · intro codeId m found hD r registered
      exact (named m.key hD r registered).1 codeId m found rfl
    · intro addr m found hD r registered
      exact (named m.key hD r registered).2 addr m found rfl

theorem modulesWith_yank {π : Type} [DecidableEq π] (infos : Map π ModuleInfo) {key : ModuleKey}
    {reference : ModuleReference} (found : s.registeredModules.lookup key = some reference) :
    modulesWith (s.yank key reference) infos = (modulesWith s infos).retire (· = key) := by
  simp only [modulesWith, Store.retire, RegistryState.yank, lookup_erase_ite, lookup_insert_ite,
    Store.mk.injEq, true_and, and_true]
  funext key'
  by_cases same : key' = key
  · subst same
    simp [found]
  · simp [same]

theorem yank_lookups {deps : Deps} {i : MessageInfo} {info : ModuleInfo} {msgs : List BankMsg}
    (h : LookupsMatch s) (done : yankModule deps i info s = .ok (s', msgs)) :
    LookupsMatch s' ↔ NamedForItself s info.key := by
  simp only [yankModule, bind_eq_ok, okOr_eq_ok, pure_eq_ok, Prod.mk.injEq] at done
  obtain ⟨_, _, _, _, reference, found, rfl, _⟩ := done
  rw [retire_lookups h (· = info.key) (modulesWith_yank _ found) (modulesWith_yank _ found)]
  simp

/-! ### Forgone namespaces -/

theorem modulesWith_foldl_yank {π : Type} [DecidableEq π] (infos : Map π ModuleInfo)
    {entries : List (Sigma fun _ : ModuleKey => ModuleReference)} (distinct : entries.NodupKeys)
    (found : ∀ e ∈ entries, s.registeredModules.lookup e.1 = some e.2) :
    modulesWith (entries.foldl (fun s e => s.yank e.1 e.2) s) infos =
      (modulesWith s infos).retire (· ∈ entries.keys) := by
  induction entries generalizing s with
  | nil => exact (Store.retire_of_forall_not (by simp) _).symm
  | cons e entries ih =>
    have rest := lookup_yank_rest distinct found
    rw [List.foldl_cons, ih (List.nodupKeys_cons.mp distinct).2 rest,
      modulesWith_yank infos (found e List.mem_cons_self), Store.retire_retire]
    apply Store.retire_congr
    simp [List.keys_cons]

theorem modulesWith_yankNamespace {π : Type} [DecidableEq π] (infos : Map π ModuleInfo)
    (ns : Namespace) :
    modulesWith (yankNamespace ns s) infos =
      (modulesWith s infos).retire fun key => key.ns = ns := by
  rw [yankNamespace, modulesWith_foldl_yank]
  · apply Store.retire_congr
    intro key reference registered
    have entry : (⟨key, reference⟩ : Sigma fun _ : ModuleKey => ModuleReference) ∈
        s.registeredModules.entries := AList.mem_lookup_iff.mp registered
    constructor
    · intro listed
      obtain ⟨reference', listed⟩ := List.exists_of_mem_keys listed
      simpa using List.of_mem_filter listed
    · intro isNs
      exact List.mem_keys_of_mem (List.mem_filter.mpr ⟨entry, by simpa using isNs⟩)
  · exact s.registeredModules.nodupKeys.sublist List.filter_sublist
  · intro e listed
    exact AList.mem_lookup_iff.mpr (List.mem_of_mem_filter listed)

theorem modulesWith_forgo {π : Type} [DecidableEq π] (infos : Map π ModuleInfo) {deps : Deps}
    {isAdmin : Bool} {sender : Addr} {names : List String}
    (done : names.foldlM (forgoOne deps isAdmin sender) s = .ok s') :
    modulesWith s' infos =
      (modulesWith s infos).retire fun key => ∃ name ∈ names, Namespace.new name = .ok key.ns := by
  induction names generalizing s with
  | nil =>
    simp only [List.foldlM_nil, pure_eq_ok] at done
    rw [done]
    exact (Store.retire_of_forall_not (by simp) _).symm
  | cons name names ih =>
    obtain ⟨m, ok, rest⟩ := foldlM_cons_eq_ok.mp done
    simp only [forgoOne, bind_eq_ok, mapError_eq_ok, ensure_eq_ok, okOr_eq_ok, pure_eq_ok] at ok
    obtain ⟨ns, named, _, _, _, _, owner, _, rfl⟩ := ok
    rw [ih rest]
    show ((modulesWith (yankNamespace ns s) infos).retire _) = _
    rw [modulesWith_yankNamespace, Store.retire_retire]
    apply Store.retire_congr
    intro key _ _
    simp [named, eq_comm]

/-! ### Removed versions -/

omit [Crates] in
theorem lookup_removeStandalone (infos : Map Nat ModuleInfo) (reference : Option ModuleReference)
    (codeId : Nat) :
    (RegistryState.removeStandalone infos reference).lookup codeId =
      if reference = some (.Standalone codeId) then none else infos.lookup codeId := by
  match reference with
  | some (.Standalone codeId') =>
    rw [RegistryState.removeStandalone, lookup_erase_ite]
    simp only [Option.some.injEq, ModuleReference.Standalone.injEq, eq_comm]
  | none | some (.Account _) | some (.Native _) | some (.Adapter _) | some (.App _)
  | some (.Service _) => simp [RegistryState.removeStandalone]

theorem modulesWith_remove {π : Type} [DecidableEq π] (infos : Map π ModuleInfo)
    {infos' : Map π ModuleInfo} {dropped : π → Prop} [DecidablePred dropped] {key : ModuleKey}
    (registered : s'.registeredModules = s.registeredModules.erase key)
    (yanked : s'.yankedModules = s.yankedModules.erase key)
    (written : ∀ p, infos'.lookup p = if dropped p then none else infos.lookup p) :
    modulesWith s' infos' = (modulesWith s infos).discard key dropped := by
  simp only [modulesWith, Store.discard, registered, yanked, lookup_erase_ite, written]

/-- What a removal writes of the modules and their lookups. -/
theorem removeModule_ok {i : MessageInfo} {info : ModuleInfo} {msgs : List BankMsg}
    (done : removeModule i info s = .ok (s', msgs)) :
    s'.registeredModules = s.registeredModules.erase info.key ∧
      s'.yankedModules = s.yankedModules.erase info.key ∧
      s'.standaloneInfos =
        RegistryState.removeStandalone s.standaloneInfos (s.registeredModules.lookup info.key) ∧
      s'.serviceInfos = s.serviceInfos := by
  simp only [removeModule, bind_eq_ok] at done
  obtain ⟨_, _, _, _, _, _, done⟩ := done
  split at done
  · simp only [pure_eq_ok, Prod.mk.injEq] at done
    obtain ⟨rfl, _⟩ := done
    exact ⟨rfl, rfl, rfl, rfl⟩
  · simp only [pure_eq_ok, Prod.mk.injEq] at done
    obtain ⟨rfl, _⟩ := done
    exact ⟨rfl, rfl, rfl, rfl⟩

theorem remove_lookups {i : MessageInfo} {info : ModuleInfo} {msgs : List BankMsg}
    (h : LookupsMatch s) (done : removeModule i info s = .ok (s', msgs)) :
    LookupsMatch s' ↔
      (∀ codeId m, s.standaloneInfos.lookup codeId = some m → m.key = info.key →
        s.registeredModules.lookup info.key = some (.Standalone codeId)) ∧
      (∀ addr m, s.serviceInfos.lookup addr = some m → m.key ≠ info.key) ∧
      ∀ codeId, s.registeredModules.lookup info.key = some (.Standalone codeId) →
        ∀ key, s.registeredModules.lookup key = some (.Standalone codeId) → key = info.key := by
  obtain ⟨hStandalones, hServices⟩ := lookupsMatch_iff.mp h
  obtain ⟨registered, yanked, standaloneInfos, serviceInfos⟩ := removeModule_ok done
  have standalones : modulesWith s' s'.standaloneInfos =
      (modulesWith s s.standaloneInfos).discard info.key
        fun codeId => s.registeredModules.lookup info.key = some (.Standalone codeId) := by
    apply modulesWith_remove _ registered yanked
    rw [standaloneInfos]
    exact lookup_removeStandalone _ _
  have services : modulesWith s' s'.serviceInfos =
      (modulesWith s s.serviceInfos).discard info.key fun _ => False := by
    apply modulesWith_remove _ registered yanked
    simp [serviceInfos]
  rw [lookupsMatch_iff, standalones, services, hStandalones.discard_iff, hServices.discard_iff]
  constructor
  · rintro ⟨⟨named, alone⟩, unnamed, _⟩
    exact ⟨named, unnamed, fun codeId at_ key => alone key codeId at_⟩
  · rintro ⟨named, unnamed, alone⟩
    exact ⟨⟨named, fun key codeId at_ => alone codeId at_ key⟩, unnamed,
      fun _ _ impossible => impossible.elim⟩

/-! ## Steps and runs -/

/-- The lookups read four maps. -/
theorem LookupsMatch.congr (h : LookupsMatch s)
    (modules : s'.registeredModules = s.registeredModules ∧ s'.yankedModules = s.yankedModules)
    (infos : s'.standaloneInfos = s.standaloneInfos ∧ s'.serviceInfos = s.serviceInfos) :
    LookupsMatch s' := by
  rw [lookupsMatch_iff] at h ⊢
  simpa only [modulesWith, modules, infos] using h

theorem forgo_lookups {i : Input} {names : List String} {msgs : List BankMsg}
    (msg : i.msg = .ForgoNamespace names) (h : LookupsMatch s)
    (ok : execute i s = .ok (s', msgs)) :
    LookupsMatch s' ↔
      ∀ key, (∃ name ∈ names, Namespace.new name = .ok key.ns) → NamedForItself s key := by
  obtain ⟨standaloneInfos, serviceInfos⟩ := writes_infos_eq (execute_writes ok) (by rw [msg]; rfl)
  simp only [execute, msg, forgoNamespace, bind_eq_ok, pure_eq_ok, Prod.mk.injEq] at ok
  obtain ⟨_, done, rfl, _⟩ := ok
  apply retire_lookups h
  · rw [standaloneInfos]
    exact modulesWith_forgo _ done
  · rw [serviceInfos]
    exact modulesWith_forgo _ done

/-- A successful message keeps the lookups in step exactly under its condition. -/
theorem execute_lookups {i : Input} {msgs : List BankMsg} (h : LookupsMatch s)
    (ok : execute i s = .ok (s', msgs)) : LookupsMatch s' ↔ KeepsLookups i s := by
  have other (modules : i.msg.writesModules = false) (infos : i.msg.writesInfos = false) :
      LookupsMatch s' :=
    h.congr (writes_modules_eq (execute_writes ok) modules)
      (writes_infos_eq (execute_writes ok) infos)
  unfold KeepsLookups
  cases msg : i.msg with
  | ProposeModules modules =>
    simp only [execute, msg, proposeModules, bind_eq_ok, pure_eq_ok, Prod.mk.injEq] at ok
    obtain ⟨_, done, rfl, _⟩ := ok
    cases secure : s.config.securityEnabled with
    | true =>
      rw [secure] at done
      obtain ⟨rfl, _⟩ := propose_secure done
      exact iff_of_true (h.congr ⟨rfl, rfl⟩ ⟨rfl, rfl⟩) (by simp)
    | false =>
      rw [secure] at done
      simpa using propose_lookups h done
  | ApproveOrRejectModules approves rejects =>
    rw [execute, msg] at ok
    exact approve_lookups h ok
  | RemoveModule info =>
    rw [execute, msg] at ok
    exact remove_lookups h ok
  | YankModule info =>
    rw [execute, msg] at ok
    exact yank_lookups h ok
  | ForgoNamespace names => exact forgo_lookups msg h ok
  | _ => exact iff_of_true (other (by rw [msg]; rfl) (by rw [msg]; rfl)) trivial

theorem lookupsMatch_instantiate {deps : Deps} {msg : InstantiateMsg}
    (h : instantiate deps msg = .ok s) : LookupsMatch s := by
  simp only [instantiate, bind_eq_ok, pure_eq_ok] at h
  obtain ⟨_, _, _, _, rfl⟩ := h
  rw [lookupsMatch_iff]
  exact ⟨matches_empty (fun _ => rfl) fun _ => rfl, matches_empty (fun _ => rfl) fun _ => rfl⟩

/-- In all states of a run the lookups match the modules, exactly when each message that
    the registry accepts keeps them in step. -/
theorem lookups_match_iff {deps : Deps} {msg : InstantiateMsg} {start : RegistryState}
    (instantiated : instantiate deps msg = .ok start) (inputs : List Input) :
    (∀ seen, seen <+: inputs → LookupsMatch (run execute start seen)) ↔
      Along execute (fun s i => (∃ p, execute i s = .ok p) → KeepsLookups i s) start inputs :=
  invariant_iff_along (C := fun s i => KeepsLookups i s)
    (fun _ _ _ _ held ok => execute_lookups held ok) (lookupsMatch_instantiate instantiated)

end Lookups

section LookupsSample

attribute [local instance] releaseCrates

def botVersion : ModuleInfo :=
  { ns := ⟨"abstract"⟩, name := "bot", version := .Version "1.0.0" }

def proposeBot : Input := sampleInput "adm" (.ProposeModules [(botVersion, .Standalone 7)])

def removeBot : Input := sampleInput "adm" (.RemoveModule botVersion)

theorem keepsLookups_proposeBot : KeepsLookups proposeBot (sampleStart false) := by
  unfold KeepsLookups
  intro _
  constructor
  · intro codeId m named r last
    simp [lastNamed, lastReference, sampleStart] at named last
    rw [← last.2, named.1]
    exact .inl rfl
  · intro addr m named
    cases named

theorem keepsLookups_removeBot :
    KeepsLookups removeBot (step execute (sampleStart false) proposeBot) := by
  have registered : step execute (sampleStart false) proposeBot =
      (sampleStart false).register botVersion (.Standalone 7) := rfl
  rw [registered]
  refine ⟨?_, ?_, ?_⟩
  · intro codeId m found _
    have entry := lookup_insert_cases found
    simp [sampleStart] at entry
    rw [entry.1]
    rfl
  · intro addr m found
    cases found
  · intro codeId _ key found
    have entry := lookup_insert_cases found
    simp [sampleStart] at entry
    exact entry.1

/-- A version that is registered and removed again. -/
theorem lookups_match_iff_bot :
    LookupsMatch (run execute (sampleStart false) [proposeBot]) ∧
      LookupsMatch (run execute (sampleStart false) [proposeBot, removeBot]) := by
  have always := (lookups_match_iff (instantiate_sample false) [proposeBot, removeBot]).mpr
    ⟨fun _ => keepsLookups_proposeBot, fun _ => keepsLookups_removeBot, trivial⟩
  exact ⟨always _ ⟨[removeBot], rfl⟩, always _ List.prefix_rfl⟩

/-- The approval of a service saves no entry for its address, and a standalone version that
    is forgone before it is removed leaves its entry behind. -/
theorem lookups_stale :
    (instantiate sampleDeps (sampleInstantiate true) = .ok (sampleStart true) ∧
      ¬ LookupsMatch (run execute (sampleStart true)
        [sampleInput "adm" (.ProposeModules [(serviceVersion, .Service ⟨"svc"⟩)]),
          sampleInput "adm" (.ApproveOrRejectModules [serviceVersion] [])])) ∧
    instantiate sampleDeps (sampleInstantiate false) = .ok (sampleStart false) ∧
      ¬ LookupsMatch (run execute (sampleStart false)
        [proposeBot, sampleInput "adm" (.ForgoNamespace ["abstract"]), removeBot]) := by
  refine ⟨⟨rfl, ?_⟩, rfl, ?_⟩
  · intro h
    have found := h.serviceFound serviceVersion.key ⟨"svc"⟩ (by decide +kernel)
    revert found
    decide +kernel
  · intro h
    have known := h.standalone 7 botVersion (by decide +kernel)
    revert known
    unfold IsKnown
    decide +kernel

end LookupsSample

end AbstractFramework.Registry
