import Mathlib.Data.List.Induction
import AbstractFramework.Registry.Writes

/-! # The two ways to register a module

Without security a proposed list is registered at once; with security it waits
for an approval.  Both ways write the same registered modules and the same
standalone infos, entry by entry.  The approval does not write the service
infos, so that the two agree on these exactly when the direct way has nothing
new to write there.
-/

namespace AbstractFramework.Registry

open AbstractFramework Fallible Storage Machine

section Paths

variable [Crates] {s s' : RegistryState} {modules : List (ModuleInfo × ModuleReference)}

def withSecurity (s : RegistryState) (enabled : Bool) : RegistryState :=
  { s with config := { s.config with securityEnabled := enabled } }

def saveAll (m : Map ModuleKey ModuleReference) (modules : List (ModuleInfo × ModuleReference)) :
    Map ModuleKey ModuleReference :=
  insertAll m (modules.map fun e => (e.1.key, e.2))

def saveAllStandalone (infos : Map Nat ModuleInfo)
    (modules : List (ModuleInfo × ModuleReference)) : Map Nat ModuleInfo :=
  modules.foldl (fun infos e => RegistryState.saveStandalone infos e.1 e.2) infos

def saveAllServices (infos : Map Addr ModuleInfo)
    (modules : List (ModuleInfo × ModuleReference)) : Map Addr ModuleInfo :=
  modules.foldl (fun infos e => RegistryState.saveService infos e.1 e.2) infos

/-! ## The direct way -/

theorem proposeOne_insecure {deps : Deps} {sender : Addr} {entry : ModuleInfo × ModuleReference}
    (h : proposeOne deps sender false s entry = .ok s') : s' = s.register entry.1 entry.2 := by
  simp only [proposeOne, Bool.false_eq_true, if_false, bind_eq_ok, mapError_eq_ok, pure_eq_ok] at h
  obtain ⟨_, _, _, _, rfl⟩ := h
  rfl

/-- Everything that a direct registration writes. -/
theorem propose_insecure {deps : Deps} {sender : Addr}
    (h : modules.foldlM (proposeOne deps sender false) s = .ok s') :
    s' = { s with
      registeredModules := saveAll s.registeredModules modules
      standaloneInfos := saveAllStandalone s.standaloneInfos modules
      serviceInfos := saveAllServices s.serviceInfos modules } := by
  induction modules generalizing s with
  | nil =>
    simp only [List.foldlM_nil, pure_eq_ok] at h
    exact h.symm
  | cons e modules ih =>
    obtain ⟨m, first, rest⟩ := foldlM_cons_eq_ok.mp h
    rw [proposeOne_insecure first] at rest
    exact ih rest

/-! ## The way through the pending modules -/

theorem proposeOne_secure {deps : Deps} {sender : Addr} {entry : ModuleInfo × ModuleReference}
    (h : proposeOne deps sender true s entry = .ok s') :
    ¬ s.hasModule entry.1.key ∧
      s' = { s with pendingModules := s.pendingModules.insert entry.1.key entry.2 } := by
  simp only [proposeOne, if_true, bind_eq_ok, pure_eq_ok] at h
  obtain ⟨_, proposable, rfl⟩ := h
  exact ⟨fun has => (assertProposable_eq_ok proposable).1 ⟨rfl, has⟩, rfl⟩

/-- With security a list is accepted only if its versions are new and different,
    and then they are pending. -/
theorem propose_secure {deps : Deps} {sender : Addr}
    (h : modules.foldlM (proposeOne deps sender true) s = .ok s') :
    s' = { s with pendingModules := saveAll s.pendingModules modules } ∧
      (modules.map fun e => e.1.key).Nodup ∧ ∀ e ∈ modules, e.1.key ∉ s.pendingModules := by
  induction modules generalizing s with
  | nil =>
    simp only [List.foldlM_nil, pure_eq_ok] at h
    exact ⟨h.symm, List.nodup_nil, by simp⟩
  | cons e modules ih =>
    obtain ⟨m, first, rest⟩ := foldlM_cons_eq_ok.mp h
    obtain ⟨fresh, rfl⟩ := proposeOne_secure first
    -- the rest was proposed with `e` pending, so it does not list `e` again
    obtain ⟨eq, distinct, new⟩ := ih rest
    have later : ∀ e' ∈ modules, e'.1.key ≠ e.1.key ∧ e'.1.key ∉ s.pendingModules := by
      intro e' listed
      have := new e' listed
      rw [AList.mem_insert, not_or] at this
      exact this
    refine ⟨eq, ?_, ?_⟩
    · rw [List.map_cons, List.nodup_cons]
      refine ⟨fun listed => ?_, distinct⟩
      obtain ⟨e', listed, same⟩ := List.mem_map.mp listed
      exact (later e' listed).1 same
    · intro e' listed
      rcases List.mem_cons.mp listed with rfl | listed
      · exact fun pending => fresh (.inl pending)
      · exact (later e' listed).2

omit [Crates] in
theorem lookup_saveAll {m : Map ModuleKey ModuleReference}
    (distinct : (modules.map fun e => e.1.key).Nodup) {e : ModuleInfo × ModuleReference}
    (listed : e ∈ modules) : (saveAll m modules).lookup e.1.key = some e.2 := by
  refine lookup_insertAll_of_mem ?_ (List.mem_map_of_mem (f := fun e => (e.1.key, e.2)) listed)
  rw [List.map_map]
  exact distinct

/-- Approving a list of different pending modules succeeds. -/
theorem approveModules_pending (distinct : (modules.map fun e => e.1.key).Nodup)
    (waiting : ∀ e ∈ modules, s.pendingModules.lookup e.1.key = some e.2) :
    ∃ pending, approveModules (modules.map (·.1)) s = .ok { s with
      pendingModules := pending
      registeredModules := saveAll s.registeredModules modules
      standaloneInfos := saveAllStandalone s.standaloneInfos modules } := by
  induction modules generalizing s with
  | nil => exact ⟨s.pendingModules, rfl⟩
  | cons e modules ih =>
    rw [List.map_cons, List.nodup_cons] at distinct
    have first : approveOne s e.1 = .ok (s.approve e.1 e.2) := by
      rw [approveOne, waiting e List.mem_cons_self]
      rfl
    -- approving `e` takes only `e` out of the pending modules
    have still : ∀ e' ∈ modules, (s.approve e.1 e.2).pendingModules.lookup e'.1.key = some e'.2 := by
      intro e' listed
      have other : e'.1.key ≠ e.1.key :=
        fun same => distinct.1 (same ▸ List.mem_map_of_mem (f := fun e => e.1.key) listed)
      rw [RegistryState.approve, AList.lookup_erase_ne other]
      exact waiting e' (List.mem_cons_of_mem e listed)
    obtain ⟨pending, rest⟩ := ih distinct.2 still
    refine ⟨pending, ?_⟩
    rw [approveModules, List.map_cons, List.foldlM_cons, first]
    exact rest

/-! ## Agreement -/

/-- The last module of the list with the reference. -/
def lastNamed (modules : List (ModuleInfo × ModuleReference)) (reference : ModuleReference) :
    Option ModuleInfo :=
  ((modules.filter fun e => e.2 = reference).getLast?).map (·.1)

omit [Crates] in
/-- When the entry of a module is saved under the place of its reference, the last entry for a
    place stays. -/
theorem lookup_foldl_save {π : Type} [DecidableEq π] {reference : π → ModuleReference}
    {save : Map π ModuleInfo → ModuleInfo → ModuleReference → Map π ModuleInfo}
    (saved : ∀ infos (e : ModuleInfo × ModuleReference) p, (save infos e.1 e.2).lookup p =
      if e.2 = reference p then some e.1 else infos.lookup p)
    (infos : Map π ModuleInfo) (modules : List (ModuleInfo × ModuleReference)) (p : π) :
    (modules.foldl (fun infos e => save infos e.1 e.2) infos).lookup p =
      (lastNamed modules (reference p)).or (infos.lookup p) := by
  -- the last entry decides, so the induction takes the list from its end
  induction modules using List.reverseRecOn with
  | nil => rfl
  | append_singleton modules e ih =>
    rw [List.foldl_append, List.foldl_cons, List.foldl_nil, saved, ih]
    by_cases same : e.2 = reference p
    · simp [lastNamed, same]
    · simp [lastNamed, same]

omit [Crates] in
theorem lookup_saveService (infos : Map Addr ModuleInfo) (e : ModuleInfo × ModuleReference)
    (addr : Addr) :
    (RegistryState.saveService infos e.1 e.2).lookup addr =
      if e.2 = .Service addr then some e.1 else infos.lookup addr := by
  obtain ⟨info, reference⟩ := e
  cases reference with
  | Service addr' =>
    rw [RegistryState.saveService, lookup_insert_ite]
    simp only [ModuleReference.Service.injEq, eq_comm]
  | _ => simp [RegistryState.saveService]

omit [Crates] in
theorem lookup_saveAllServices (infos : Map Addr ModuleInfo)
    (modules : List (ModuleInfo × ModuleReference)) (addr : Addr) :
    (saveAllServices infos modules).lookup addr =
      (lastNamed modules (.Service addr)).or (infos.lookup addr) :=
  lookup_foldl_save lookup_saveService infos modules addr

/-- The two states agree on the maps that registration is about. -/
def SameModules (s s' : RegistryState) : Prop :=
  (∀ key, s.registeredModules.lookup key = s'.registeredModules.lookup key) ∧
  (∀ key, s.yankedModules.lookup key = s'.yankedModules.lookup key) ∧
  (∀ key, s.moduleConfig.lookup key = s'.moduleConfig.lookup key) ∧
  (∀ key, s.moduleDefaultConfig.lookup key = s'.moduleDefaultConfig.lookup key) ∧
  (∀ id, s.standaloneInfos.lookup id = s'.standaloneInfos.lookup id) ∧
  (∀ addr, s.serviceInfos.lookup addr = s'.serviceInfos.lookup addr)

theorem execute_proposal_insecure {i : Input} {msgs : List BankMsg}
    (msg : i.msg = .ProposeModules modules)
    (h : execute i (withSecurity s false) = .ok (s', msgs)) :
    s' = { withSecurity s false with
      registeredModules := saveAll s.registeredModules modules
      standaloneInfos := saveAllStandalone s.standaloneInfos modules
      serviceInfos := saveAllServices s.serviceInfos modules } := by
  rw [execute, msg] at h
  simp only [proposeModules, bind_eq_ok, pure_eq_ok, Prod.mk.injEq] at h
  obtain ⟨_, done, rfl, _⟩ := h
  exact propose_insecure done

/-- The state after a proposal with security and the approval of its modules. -/
theorem step_approval {proposal approval : Input} {msgs : List BankMsg}
    (isProposal : proposal.msg = .ProposeModules modules)
    (isApproval : approval.msg = .ApproveOrRejectModules (modules.map (·.1)) [])
    (admin : Crates.cwOwner s.ownership = some approval.info.sender)
    (proposed : execute proposal (withSecurity s true) = .ok (s', msgs)) :
    ∃ pending, step execute s' approval = { withSecurity s true with
      pendingModules := pending
      registeredModules := saveAll s.registeredModules modules
      standaloneInfos := saveAllStandalone s.standaloneInfos modules } := by
  rw [execute, isProposal] at proposed
  simp only [proposeModules, bind_eq_ok, pure_eq_ok, Prod.mk.injEq] at proposed
  obtain ⟨_, done, rfl, _⟩ := proposed
  obtain ⟨rfl, distinct, _⟩ := propose_secure done
  obtain ⟨pending, approved⟩ := approveModules_pending
    (s := { withSecurity s true with pendingModules := saveAll s.pendingModules modules })
    distinct fun e listed => lookup_saveAll distinct listed
  cases modules with
  | nil =>
    -- nothing to approve: the message fails and is rolled back
    refine ⟨s.pendingModules, ?_⟩
    apply step_of_error (e := .NoAction)
    rw [execute, isApproval]
    simp [approveOrRejectModules, assertAdmin, withSecurity, admin, approveModules, rejectModules,
      ensure]
    rfl
  | cons first modules =>
    refine ⟨pending, ?_⟩
    apply step_of_ok (r := [])
    rw [execute, isApproval]
    simp only [approveOrRejectModules, bind_eq_ok, pure_eq_ok]
    refine ⟨(), ?_, _, approved, _, rfl, (), by simp, rfl⟩
    simp [assertAdmin, withSecurity, admin]

/-- Registering a list directly agrees with proposing and approving it, in all
    the maps of modules, exactly when the service infos already name the last
    listed module of each listed service. -/
theorem registration_paths_agree_iff (s : RegistryState)
    (modules : List (ModuleInfo × ModuleReference)) (proposal approval : Input)
    {direct proposed : RegistryState} {msgs msgs' : List BankMsg}
    (isProposal : proposal.msg = .ProposeModules modules)
    (isApproval : approval.msg = .ApproveOrRejectModules (modules.map (·.1)) [])
    (admin : Crates.cwOwner s.ownership = some approval.info.sender)
    (insecure : execute proposal (withSecurity s false) = .ok (direct, msgs))
    (secure : execute proposal (withSecurity s true) = .ok (proposed, msgs')) :
    SameModules direct (step execute proposed approval) ↔
      ∀ addr info, lastNamed modules (.Service addr) = some info →
        s.serviceInfos.lookup addr = some info := by
  obtain rfl := execute_proposal_insecure isProposal insecure
  obtain ⟨pending, approved⟩ := step_approval isProposal isApproval admin secure
  rw [approved]
  simp only [SameModules, withSecurity, implies_true, true_and, lookup_saveAllServices]
  refine forall_congr' fun addr => ?_
  cases lastNamed modules (.Service addr) with
  | none => simp
  | some info => simp [eq_comm]

end Paths

section PathsSample

attribute [local instance] releaseCrates

def proposeAccount : Input :=
  sampleInput "adm" (.ProposeModules [(accountVersion, .Account 1)])

theorem registration_paths_agree_account :
    SameModules (step execute (withSecurity (sampleStart true) false) proposeAccount)
      (step execute (step execute (withSecurity (sampleStart true) true) proposeAccount)
        (sampleInput "adm" (.ApproveOrRejectModules [accountVersion] []))) := by
  refine (registration_paths_agree_iff (sampleStart true) [(accountVersion, .Account 1)]
    proposeAccount (sampleInput "adm" (.ApproveOrRejectModules [accountVersion] []))
    rfl rfl rfl rfl rfl).mpr ?_
  intro addr info listed
  cases listed

def serviceVersion : ModuleInfo :=
  { ns := ⟨"abstract"⟩, name := "oracle", version := .Version "1.0.0" }

/-- The approval of a service does not make it known by its address. -/
theorem registration_paths_differ_service :
    let proposal := sampleInput "adm" (.ProposeModules [(serviceVersion, .Service ⟨"svc"⟩)])
    let approval := sampleInput "adm" (.ApproveOrRejectModules [serviceVersion] [])
    ((execute proposal (withSecurity (sampleStart true) false)).toOption.map
        (·.1.serviceInfos.lookup ⟨"svc"⟩) = some (some serviceVersion)) ∧
      ((execute proposal (withSecurity (sampleStart true) true)).toOption.map
        fun proposed => (step execute proposed.1 approval).registeredModules.lookup
          serviceVersion.key) = some (some (.Service ⟨"svc"⟩)) ∧
      ((execute proposal (withSecurity (sampleStart true) true)).toOption.map
        fun proposed => (step execute proposed.1 approval).serviceInfos.lookup ⟨"svc"⟩) =
          some none := by
  decide

end PathsSample

end AbstractFramework.Registry
