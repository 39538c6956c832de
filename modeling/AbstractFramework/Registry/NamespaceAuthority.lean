import AbstractFramework.Registry.Writes

/-! # Who decides about a namespace

What the registry keeps under a namespace, and answers about it, changes only by
messages of the registry's admin, of the account that holds the namespace, or of the
owner of that account.
-/

namespace AbstractFramework.Registry

open AbstractFramework Fallible Storage Machine

section Authority

variable [Crates] {i : Input} {ns : Namespace} {s s' s'' : RegistryState} {msgs : List BankMsg}

/-! ## What is kept under a namespace -/

/-- The holder of the namespace, and the versions in it with their configuration. -/
structure SameUnder (ns : Namespace) (s s' : RegistryState) : Prop where
  holder : s'.namespaces.lookup ns = s.namespaces.lookup ns
  pending : part (·.ns = ns) s'.pendingModules = part (·.ns = ns) s.pendingModules
  registered : part (·.ns = ns) s'.registeredModules = part (·.ns = ns) s.registeredModules
  yanked : part (·.ns = ns) s'.yankedModules = part (·.ns = ns) s.yankedModules
  moduleConfig : part (·.ns = ns) s'.moduleConfig = part (·.ns = ns) s.moduleConfig
  defaultConfig :
    part (·.1 = ns) s'.moduleDefaultConfig = part (·.1 = ns) s.moduleDefaultConfig

theorem SameUnder.refl (ns : Namespace) (s : RegistryState) : SameUnder ns s s :=
  ⟨rfl, rfl, rfl, rfl, rfl, rfl⟩

theorem SameUnder.trans (first : SameUnder ns s s') (second : SameUnder ns s' s'') :
    SameUnder ns s s'' where
  holder := second.holder.trans first.holder
  pending := second.pending.trans first.pending
  registered := second.registered.trans first.registered
  yanked := second.yanked.trans first.yanked
  moduleConfig := second.moduleConfig.trans first.moduleConfig
  defaultConfig := second.defaultConfig.trans first.defaultConfig

theorem SameUnder.versionsOf (same : SameUnder ns s s') (name : String) :
    s'.versionsOf ns name = s.versionsOf ns name := by
  have ofPart : ∀ s : RegistryState, s.versionsOf ns name =
      ((part (·.ns = ns) s.registeredModules).filter fun e => e.1.name = name).map
        fun e => (e.1.version, e.2) := by
    intro s
    unfold RegistryState.versionsOf part
    rw [List.filter_filter]
    congr 2
    ext e
    simp [and_comm]
  rw [ofPart, ofPart, same.registered]

/-- What the registry answers about modules. -/
theorem SameUnder.queryModule (same : SameUnder ns s s') {info : ModuleInfo} (inside : info.ns = ns) :
    s'.queryModule info = s.queryModule info := by
  obtain rfl := inside
  have config : ∀ version, s'.configFromStorage { info with version } =
      s.configFromStorage { info with version } := by
    intro version
    unfold RegistryState.configFromStorage
    rw [lookup_of_part same.moduleConfig (k := ModuleInfo.key { info with version }) rfl,
      lookup_of_part same.defaultConfig (k := (info.ns, info.name)) rfl]
  have latest : s'.latestVersion info.ns info.name = s.latestVersion info.ns info.name := by
    unfold RegistryState.latestVersion
    rw [same.versionsOf]
  unfold RegistryState.queryModule
  rw [lookup_of_part same.registered (k := info.key) rfl, latest, config info.version]
  simp only [config]

/-! ## Writes elsewhere -/

variable {info : ModuleInfo} {reference : ModuleReference} {other : Namespace}

theorem sameUnder_pend (elsewhere : info.ns ≠ ns) :
    SameUnder ns s { s with pendingModules := s.pendingModules.insert info.key reference } :=
  { SameUnder.refl ns s with pending := part_insert reference elsewhere }

theorem sameUnder_register (elsewhere : info.ns ≠ ns) : SameUnder ns s (s.register info reference) :=
  { SameUnder.refl ns s with registered := part_insert reference elsewhere }

theorem sameUnder_yank {key : ModuleKey} (elsewhere : key.ns ≠ ns) :
    SameUnder ns s (s.yank key reference) :=
  { SameUnder.refl ns s with
    registered := part_erase elsewhere
    yanked := part_insert reference elsewhere }

theorem sameUnder_yankNamespace (elsewhere : other ≠ ns) :
    SameUnder ns s (yankNamespace other s) := by
  unfold yankNamespace
  generalize yanked : s.registeredModules.entries.filter (fun e => e.1.ns = other) = entries
  have inside : ∀ e ∈ entries, e.1.ns = other := by
    intro e listed
    rw [← yanked] at listed
    simpa using (List.mem_filter.mp listed).2
  clear yanked
  induction entries generalizing s with
  | nil => exact .refl ns s
  | cons e rest ih =>
    have here : e.1.ns ≠ ns := by
      rw [inside e List.mem_cons_self]
      exact elsewhere
    rw [List.foldl_cons]
    exact (sameUnder_yank here).trans (ih fun e listed => inside e (List.mem_cons_of_mem _ listed))

theorem sameUnder_unclaim {owner : AccountId} (elsewhere : other ≠ ns) :
    SameUnder ns s (s.unclaim other owner) :=
  { SameUnder.refl ns s with holder := AList.lookup_erase_ne elsewhere.symm }

theorem sameUnder_claim {id : AccountId} (elsewhere : other ≠ ns) :
    SameUnder ns s (s.claim other id) :=
  { SameUnder.refl ns s with holder := AList.lookup_insert_ne elsewhere.symm }

/-! ## Commands of others -/

/-- The sender is not the admin of the registry, nor the account that holds the
    namespace, nor the owner of that account. -/
def Outsider (ns : Namespace) (s : RegistryState) (i : Input) : Prop :=
  assertAdmin s i.info.sender ≠ .ok () ∧
    validateAccountOwner i.deps.querier s ns i.info.sender ≠ .ok ()

instance (ns : Namespace) (s : RegistryState) (i : Input) : Decidable (Outsider ns s i) :=
  inferInstanceAs (Decidable (_ ∧ _))

/-- What decides about the authority of a sender. -/
structure SameAuthority (s s' : RegistryState) : Prop where
  ownership : s'.ownership = s.ownership
  accounts : s'.accountAddresses = s.accountAddresses

theorem Outsider.later (outside : Outsider ns s i) (authority : SameAuthority s s')
    (same : SameUnder ns s s') : Outsider ns s' i := by
  unfold Outsider assertAdmin validateAccountOwner loadAccount at outside ⊢
  rw [authority.ownership, authority.accounts, same.holder]
  exact outside

theorem Outsider.elsewhere (outside : Outsider ns s i)
    (checked : validateAccountOwner i.deps.querier s other i.info.sender = .ok ()) : other ≠ ns := by
  rintro rfl
  exact outside.2 checked

theorem Outsider.publishes_elsewhere (outside : Outsider ns s i)
    (checked : validatePublisher i.deps.querier s other i.info.sender = .ok ()) : other ≠ ns := by
  unfold validatePublisher at checked
  split at checked
  · exact absurd checked outside.1
  · exact outside.elsewhere checked

theorem proposeOne_sameUnder {secure : Bool} {entry : ModuleInfo × ModuleReference}
    (outside : Outsider ns s i)
    (ok : proposeOne i.deps i.info.sender secure s entry = .ok s') :
    SameAuthority s s' ∧ SameUnder ns s s' := by
  obtain ⟨info, reference⟩ := entry
  simp only [proposeOne, assertProposable, bind_eq_ok] at ok
  obtain ⟨_, ⟨_, _, _, _, _, _, _, _, _, publisher, _⟩, ok⟩ := ok
  have elsewhere := outside.publishes_elsewhere publisher
  split at ok
  · obtain rfl := Except.ok.inj ok
    exact ⟨⟨rfl, rfl⟩, sameUnder_pend elsewhere⟩
  · simp only [bind_eq_ok, pure_eq_ok] at ok
    obtain ⟨_, _, rfl⟩ := ok
    exact ⟨⟨rfl, rfl⟩, sameUnder_register elsewhere⟩

theorem yankNamespace_authority : SameAuthority s (yankNamespace other s) := by
  unfold yankNamespace
  generalize s.registeredModules.entries.filter (fun e => e.1.ns = other) = entries
  induction entries generalizing s with
  | nil => exact ⟨rfl, rfl⟩
  | cons e rest ih => exact ⟨ih.ownership, ih.accounts⟩

theorem forgoOne_sameUnder {name : String} (outside : Outsider ns s i)
    (ok : forgoOne i.deps false i.info.sender s name = .ok s') :
    SameAuthority s s' ∧ SameUnder ns s s' := by
  simp only [forgoOne, assertForgoer, bind_eq_ok, pure_eq_ok] at ok
  obtain ⟨other, _, _, _, _, forgoer, _, _, rfl⟩ := ok
  have elsewhere := outside.elsewhere forgoer
  refine ⟨⟨?_, ?_⟩, (sameUnder_yankNamespace elsewhere).trans (sameUnder_unclaim elsewhere)⟩
  · exact yankNamespace_authority.ownership
  · exact yankNamespace_authority.accounts

/-- A loop whose iterations leave the namespace to its holder. -/
theorem foldlM_sameUnder {α : Type} {f : RegistryState → α → Except RegistryError RegistryState}
    {xs : List α} (outside : Outsider ns s i)
    (body : ∀ m x m', Outsider ns m i → f m x = .ok m' → SameAuthority m m' ∧ SameUnder ns m m')
    (done : xs.foldlM f s = .ok s') : SameUnder ns s s' := by
  have both := foldlM_invariant (P := fun m => Outsider ns m i ∧ SameUnder ns s m) ?_
    ⟨outside, .refl ns s⟩ done
  · exact both.2
  · rintro m x m' _ ⟨outside, same⟩ ok
    obtain ⟨authority, once⟩ := body m x m' outside ok
    exact ⟨outside.later authority once, same.trans once⟩

theorem claimNamespaceInternal_sameUnder {fee : Option Coin} {id : AccountId} {name : String}
    (held : ns ∈ s.namespaces)
    (ok : claimNamespaceInternal fee i.info id name s = .ok (s', msgs)) : SameUnder ns s s' := by
  obtain ⟨other, _, free, rfl⟩ := claimNamespaceInternal_eq_ok ok
  refine sameUnder_claim ?_
  rintro rfl
  exact AList.lookup_eq_none.mp free held

theorem updateModuleConfig_sameUnder {name : String} {update : UpdateModule}
    (outside : Outsider ns s i)
    (ok : updateModuleConfig i.deps i.info name other update s = .ok (s', msgs)) :
    SameUnder ns s s' := by
  simp only [updateModuleConfig, bind_eq_ok] at ok
  obtain ⟨_, publisher, ok⟩ := ok
  have elsewhere := outside.publishes_elsewhere publisher
  cases update with
  | Default metadata =>
    simp only [bind_eq_ok, pure_eq_ok, Prod.mk.injEq] at ok
    obtain ⟨_, _, _, _, rfl, _⟩ := ok
    exact { SameUnder.refl ns s with defaultConfig := part_insert _ elsewhere }
  | Versioned version metadata monetization funds =>
    simp only [bind_eq_ok, pure_eq_ok, Prod.mk.injEq] at ok
    obtain ⟨_, _, _, _, rfl, _⟩ := ok
    exact { SameUnder.refl ns s with moduleConfig := part_insert _ elsewhere }

/-- No message of an outsider changes what is kept under a held namespace. -/
theorem execute_sameUnder (held : ns ∈ s.namespaces) (outside : Outsider ns s i)
    (ok : execute i s = .ok (s', msgs)) : SameUnder ns s s' := by
  unfold execute at ok
  split at ok
  case h_1 modules _ =>
    simp only [proposeModules, bind_eq_ok, pure_eq_ok, Prod.mk.injEq] at ok
    obtain ⟨_, done, rfl, _⟩ := ok
    exact foldlM_sameUnder outside (fun _ _ _ outside ok => proposeOne_sameUnder outside ok) done
  case h_2 approves rejects _ =>
    simp only [approveOrRejectModules, bind_eq_ok] at ok
    obtain ⟨_, admin, _⟩ := ok
    exact absurd admin outside.1
  case h_3 module _ =>
    simp only [removeModule, bind_eq_ok] at ok
    obtain ⟨_, admin, _⟩ := ok
    exact absurd admin outside.1
  case h_4 module _ =>
    simp only [yankModule, bind_eq_ok, pure_eq_ok, Prod.mk.injEq] at ok
    obtain ⟨_, checked, _, _, _, _, rfl, _⟩ := ok
    exact sameUnder_yank (outside.elsewhere checked)
  case h_5 => exact updateModuleConfig_sameUnder outside ok
  case h_6 id name _ =>
    simp only [claimNamespace, bind_eq_ok] at ok
    obtain ⟨_, _, ok⟩ := ok
    exact claimNamespaceInternal_sameUnder held ok
  case h_7 names _ =>
    simp only [forgoNamespace, bind_eq_ok, pure_eq_ok, Prod.mk.injEq] at ok
    obtain ⟨_, done, rfl, _⟩ := ok
    -- the sender is not the admin, which is read once before the loop
    have notAdmin : (Crates.cwOwner s.ownership == some i.info.sender) = false := by
      rw [beq_eq_false_iff_ne]
      intro admin
      apply outside.1
      simp [assertAdmin, admin]
    rw [notAdmin] at done
    exact foldlM_sameUnder outside (fun _ _ _ outside ok => forgoOne_sameUnder outside ok) done
  case h_8 ns' creator _ =>
    simp only [addAccount, bind_eq_ok] at ok
    obtain ⟨id, _, sequence, _, ok⟩ := ok
    cases ns' with
    | none =>
      obtain ⟨rfl, _⟩ := Prod.mk.inj (Except.ok.inj ok)
      exact { SameUnder.refl ns s with }
    | some name =>
      obtain ⟨other, _, free, rfl⟩ := claimNamespaceInternal_eq_ok ok
      refine { SameUnder.refl ns s with holder := AList.lookup_insert_ne ?_ }
      rintro rfl
      exact AList.lookup_eq_none.mp free held
  case h_9 =>
    simp only [updateConfig, bind_eq_ok] at ok
    obtain ⟨_, admin, _⟩ := ok
    exact absurd admin outside.1
  case h_10 =>
    simp only [updateOwnership, bind_eq_ok, pure_eq_ok, Prod.mk.injEq] at ok
    obtain ⟨_, _, rfl, _⟩ := ok
    exact { SameUnder.refl ns s with }

/-- In every run of messages of outsiders, a held namespace stays with its holder, and
    its pending, registered and yanked versions and what the registry answers about
    them stay the same. -/
theorem outsiders_leave_namespace {id : AccountId} (held : s.namespaces.lookup ns = some id)
    (inputs : List Input) (outside : Along execute (Outsider ns) s inputs) :
    let s' := run execute s inputs
    s'.namespaces.lookup ns = some id ∧
      (∀ key : ModuleKey, key.ns = ns →
        s'.pendingModules.lookup key = s.pendingModules.lookup key ∧
        s'.registeredModules.lookup key = s.registeredModules.lookup key ∧
        s'.yankedModules.lookup key = s.yankedModules.lookup key) ∧
      ∀ info : ModuleInfo, info.ns = ns → s'.queryModule info = s.queryModule info := by
  intro s'
  have same : SameUnder ns s s' := by
    refine run_invariant_along ?_ (.refl ns s) outside
    intro m i m' _ outside same ok
    have stillHeld : ns ∈ m.namespaces := mem_of_lookup (same.holder.trans held)
    exact same.trans (execute_sameUnder stillHeld outside ok)
  refine ⟨same.holder.trans held, fun key inside => ?_, fun info => same.queryModule⟩
  exact ⟨lookup_of_part same.pending inside, lookup_of_part same.registered inside,
    lookup_of_part same.yanked inside⟩

end Authority

section AuthoritySample

attribute [local instance] releaseCrates

/-- The account registers itself and a namespace of its own, and its monarch publishes
    an app there; the account module stays what it is. -/
theorem outsiders_leave_namespace_abstract :
    let app : ModuleInfo := { ns := ⟨"mine"⟩, name := "app", version := .Version "1.0.0" }
    let s := run execute (sampleStart false)
      [sampleInput "adm" (.ProposeModules [(accountVersion, .Account 1)])]
    let s' := run execute s [sampleInput "acc" (.AddAccount (some "mine") "mon"),
      sampleInput "mon" (.ProposeModules [(app, .App 2)])]
    s'.registeredModules.lookup app.key = some (.App 2) ∧
      s'.registeredModules.lookup accountVersion.key = some (.Account 1) := by
  intro app s s'
  refine ⟨by decide, ?_⟩
  have held : s.namespaces.lookup ⟨"abstract"⟩ = some ABSTRACT_ACCOUNT_ID := by decide
  have same := outsiders_leave_namespace held [sampleInput "acc" (.AddAccount (some "mine") "mon"),
    sampleInput "mon" (.ProposeModules [(app, .App 2)])] (by decide)
  rw [(same.2.1 accountVersion.key rfl).2.1]
  decide

end AuthoritySample

end AbstractFramework.Registry
