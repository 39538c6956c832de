import AbstractFramework.Registry.Commands

/-! # The writes of the registry

`Write i` is the list of everything a message `i` can do to the storage in one
write, with what has been checked before it.  `execute_writes` is the only
place where the commands are taken apart: every successful message is a chain
of writes.  The invariants of the registry are proved of single writes.
-/

namespace AbstractFramework.Registry

open AbstractFramework Fallible Storage Machine

variable [Crates]

/-- The sequence after the account with this id is added, and the checks that
    its kind of id goes through. -/
inductive Admitted (i : Input) (creator : String) (s : RegistryState) :
    AccountId → AccountSequence → Prop where
  | sequential {id : AccountId} (isLocal : id.trace = .Local)
      (small : id.seq < PREDICTABLE_SEQUENCE) (next : s.localAccountSequence = id.seq) :
      Admitted i creator s id (s.localAccountSequence + 1)
  | predictable {id : AccountId} (isLocal : id.trace = .Local)
      (large : ¬ id.seq < PREDICTABLE_SEQUENCE) : Admitted i creator s id s.localAccountSequence
  | remote {id : AccountId} (notLocal : id.trace ≠ .Local)
      (host : assertIbcHost i.deps creator s = .ok ()) (verified : id.trace.verify = .ok ()) :
      Admitted i creator s id s.localAccountSequence

/-- Where the account id of a namespace claim comes from. -/
inductive Claimant (i : Input) (id : AccountId) : Prop where
  | named {name : String} (msg : i.msg = .ClaimNamespace id name)
  | added {ns : Option String} {creator : String} (msg : i.msg = .AddAccount ns creator)
      (verified : id.trace.verify = .ok ())

/-- One write of a message. -/
inductive Write (i : Input) (s : RegistryState) : RegistryState → Prop where
  | pend {modules : List (ModuleInfo × ModuleReference)} {info : ModuleInfo}
      {reference : ModuleReference} (msg : i.msg = .ProposeModules modules)
      (secure : s.config.securityEnabled = true) (fresh : ¬ s.hasModule info.key) :
      Write i s { s with pendingModules := s.pendingModules.insert info.key reference }
  | register {modules : List (ModuleInfo × ModuleReference)} {info : ModuleInfo}
      {reference : ModuleReference} (msg : i.msg = .ProposeModules modules)
      (listed : (info, reference) ∈ modules) (insecure : s.config.securityEnabled = false)
      (publisher : info.ns = ⟨ABSTRACT_NAMESPACE⟩ ∨ info.ns ∈ s.namespaces) :
      Write i s (s.register info reference)
  | approve {approves rejects : List ModuleInfo} {info : ModuleInfo} {reference : ModuleReference}
      (msg : i.msg = .ApproveOrRejectModules approves rejects) (listed : info ∈ approves)
      (waiting : s.pendingModules.lookup info.key = some reference) :
      Write i s (s.approve info reference)
  | reject {approves rejects : List ModuleInfo} {info : ModuleInfo}
      (msg : i.msg = .ApproveOrRejectModules approves rejects) :
      Write i s { s with pendingModules := s.pendingModules.erase info.key }
  | remove {info : ModuleInfo} {standaloneInfos : Map Nat ModuleInfo}
      {moduleDefaultConfig : Map (Namespace × String) ModuleDefaultConfiguration}
      (msg : i.msg = .RemoveModule info) :
      Write i s { s with
        registeredModules := s.registeredModules.erase info.key
        yankedModules := s.yankedModules.erase info.key
        moduleConfig := s.moduleConfig.erase info.key
        standaloneInfos, moduleDefaultConfig }
  | yank {key : ModuleKey} {reference : ModuleReference}
      (msg : (∃ info, i.msg = .YankModule info) ∨ ∃ names, i.msg = .ForgoNamespace names)
      (found : s.registeredModules.lookup key = some reference) : Write i s (s.yank key reference)
  | unclaim {names : List String} {ns : Namespace} {owner : AccountId}
      (msg : i.msg = .ForgoNamespace names) (owned : s.namespaces.lookup ns = some owner)
      (empty : ∀ key ∈ s.registeredModules, key.ns ≠ ns) : Write i s (s.unclaim ns owner)
  | claim {ns : Namespace} {id : AccountId} (claimant : Claimant i id)
      (without : id.storageKey ∉ s.revNamespaces) (free : s.namespaces.lookup ns = none) :
      Write i s (s.claim ns id)
  | account {ns : Option String} {creator : String} {id : AccountId} {sequence : AccountSequence}
      (msg : i.msg = .AddAccount ns creator)
      (reported : i.deps.querier.queryAccountId i.info.sender = .ok id)
      (new : id.storageKey ∉ s.accountAddresses) (admitted : Admitted i creator s id sequence) :
      Write i s { s with
        localAccountSequence := sequence
        accountAddresses := s.accountAddresses.insert id.storageKey i.info.sender }
  | configure {config : Config} (msg : ∃ secure fee, i.msg = .UpdateConfig secure fee) :
      Write i s { s with config }
  | administer {ownership : Crates.CwOwnership} {moduleConfig : Map ModuleKey ModuleConfiguration}
      {moduleDefaultConfig : Map (Namespace × String) ModuleDefaultConfiguration}
      (msg : (∃ action, i.msg = .UpdateOwnership action) ∨
        ∃ name ns update, i.msg = .UpdateModuleConfiguration name ns update) :
      Write i s { s with ownership, moduleConfig, moduleDefaultConfig }

/-- The storage before and after the writes of one message. -/
abbrev Writes (i : Input) : RegistryState → RegistryState → Prop :=
  Relation.ReflTransGen (Write i)

/-! ## Checks -/

theorem ns_mem_of_validateAccountOwner {q : Querier} {s : RegistryState} {ns : Namespace}
    {sender : Addr} {u : Unit} (h : validateAccountOwner q s ns sender = .ok u) :
    ns ∈ s.namespaces := by
  simp only [validateAccountOwner, bind_eq_ok, okOr_eq_ok] at h
  obtain ⟨id, held, _⟩ := h
  exact mem_of_lookup held

theorem publisher_of_validatePublisher {q : Querier} {s : RegistryState} {ns : Namespace}
    {sender : Addr} {u : Unit} (h : validatePublisher q s ns sender = .ok u) :
    ns = ⟨ABSTRACT_NAMESPACE⟩ ∨ ns ∈ s.namespaces := by
  unfold validatePublisher at h
  split at h
  · rename_i isAbstract
    exact .inl isAbstract
  · exact .inr (ns_mem_of_validateAccountOwner h)

theorem assertProposable_eq_ok {deps : Deps} {sender : Addr} {secure : Bool} {s : RegistryState}
    {info : ModuleInfo} {reference : ModuleReference} {u : Unit}
    (h : assertProposable deps sender secure s info reference = .ok u) :
    ¬ (secure = true ∧ s.hasModule info.key) ∧
      (info.ns = ⟨ABSTRACT_NAMESPACE⟩ ∨ info.ns ∈ s.namespaces) := by
  simp only [assertProposable, bind_eq_ok, ensure_eq_ok, mapError_eq_ok] at h
  obtain ⟨_, fresh, _, _, _, _, _, _, _, publisher, _⟩ := h
  exact ⟨fresh, publisher_of_validatePublisher publisher⟩

theorem claimNamespaceInternal_eq_ok {fee : Option Coin} {info : MessageInfo} {id : AccountId}
    {name : String} {s s' : RegistryState} {msgs : List BankMsg}
    (h : claimNamespaceInternal fee info id name s = .ok (s', msgs)) :
    ∃ ns, id.storageKey ∉ s.revNamespaces ∧ s.namespaces.lookup ns = none ∧
      s' = s.claim ns id := by
  simp only [claimNamespaceInternal, bind_eq_ok, ensure_eq_ok, mapError_eq_ok] at h
  obtain ⟨_, without, _, _, ns, _, h⟩ := h
  cases occupied : s.namespaces.lookup ns with
  | some other => rw [occupied] at h; cases h
  | none =>
    rw [occupied] at h
    simp only [pure_eq_ok, Prod.mk.injEq] at h
    exact ⟨ns, without, occupied, h.1.symm⟩

theorem assertAccountContract_eq_ok {deps : Deps} {sender : Addr} {s : RegistryState}
    {id : AccountId} (h : assertAccountContract deps sender s = .ok id) :
    deps.querier.queryAccountId sender = .ok id ∧ id.storageKey ∉ s.accountAddresses := by
  simp only [assertAccountContract, bind_eq_ok, ensure_eq_ok, mapError_eq_ok, okOr_eq_ok,
    pure_eq_ok] at h
  obtain ⟨_, _, _, _, _, _, _, reported, _, new, _, _, _, _, _, _, _, _, rfl⟩ := h
  exact ⟨reported, new⟩

omit [Crates] in
theorem verify_of_verifyRemote {trace : AccountTrace} {u : Unit}
    (h : trace.verifyRemote = .ok u) : trace.verify = .ok () := by
  unfold AccountTrace.verifyRemote at h
  split at h
  · cases h
  · exact h

/-! ## Commands -/

section Commands

variable {i : Input} {s s' : RegistryState} {msgs : List BankMsg}

theorem proposeOne_write {modules : List (ModuleInfo × ModuleReference)}
    (msg : i.msg = .ProposeModules modules) {entry : ModuleInfo × ModuleReference}
    (listed : entry ∈ modules)
    (h : proposeOne i.deps i.info.sender s.config.securityEnabled s entry = .ok s') :
    Write i s s' := by
  obtain ⟨info, reference⟩ := entry
  simp only [proposeOne, bind_eq_ok] at h
  obtain ⟨_, proposable, h⟩ := h
  obtain ⟨fresh, publisher⟩ := assertProposable_eq_ok proposable
  split at h
  · rename_i secure
    simp only [pure_eq_ok] at h
    subst h
    exact .pend msg secure fun has => fresh ⟨secure, has⟩
  · rename_i insecure
    simp only [bind_eq_ok, mapError_eq_ok, pure_eq_ok] at h
    obtain ⟨_, _, rfl⟩ := h
    exact .register msg listed (by simpa using insecure) publisher

theorem config_proposeOne {deps : Deps} {sender : Addr} {secure : Bool}
    {entry : ModuleInfo × ModuleReference} (h : proposeOne deps sender secure s entry = .ok s') :
    s'.config = s.config := by
  simp only [proposeOne, bind_eq_ok] at h
  obtain ⟨_, _, h⟩ := h
  split at h
  · simp only [pure_eq_ok] at h
    exact h ▸ rfl
  · simp only [bind_eq_ok, pure_eq_ok] at h
    obtain ⟨_, _, rfl⟩ := h
    rfl

theorem proposeModules_writes {modules : List (ModuleInfo × ModuleReference)}
    (msg : i.msg = .ProposeModules modules)
    (h : proposeModules i.deps i.info modules s = .ok (s', msgs)) : Writes i s s' := by
  simp only [proposeModules, bind_eq_ok, pure_eq_ok, Prod.mk.injEq] at h
  obtain ⟨_, done, rfl, _⟩ := h
  -- the loop reads the security flag once; no iteration changes it
  have both := foldlM_invariant
    (P := fun m => m.config = s.config ∧ Writes i s m) ?_ ⟨rfl, .refl⟩ done
  · exact both.2
  · intro m entry m' listed inv ok
    refine ⟨(config_proposeOne ok).trans inv.1, inv.2.tail ?_⟩
    rw [← inv.1] at ok
    exact proposeOne_write msg listed ok

theorem approveOrRejectModules_writes {approves rejects : List ModuleInfo}
    (msg : i.msg = .ApproveOrRejectModules approves rejects)
    (h : approveOrRejectModules i.info approves rejects s = .ok (s', msgs)) : Writes i s s' := by
  simp only [approveOrRejectModules, bind_eq_ok, pure_eq_ok, Prod.mk.injEq] at h
  obtain ⟨_, _, m, approved, _, rejected, _, _, rfl, _⟩ := h
  refine (foldlM_writes ?_ approved).trans (foldlM_writes ?_ rejected)
  · intro m info m' listed ok
    simp only [approveOne, bind_eq_ok, okOr_eq_ok, pure_eq_ok] at ok
    obtain ⟨reference, waiting, rfl⟩ := ok
    exact .single (.approve msg listed waiting)
  · intro m info m' listed ok
    simp only [rejectOne, bind_eq_ok, ensure_eq_ok, pure_eq_ok] at ok
    obtain ⟨_, _, rfl⟩ := ok
    exact .single (.reject msg)

theorem removeModule_writes {info : ModuleInfo} (msg : i.msg = .RemoveModule info)
    (h : removeModule i.info info s = .ok (s', msgs)) : Writes i s s' := by
  simp only [removeModule, bind_eq_ok] at h
  obtain ⟨_, _, _, _, _, _, h⟩ := h
  split at h
  · simp only [pure_eq_ok, Prod.mk.injEq] at h
    obtain ⟨rfl, _⟩ := h
    exact .single (.remove msg)
  · simp only [pure_eq_ok, Prod.mk.injEq] at h
    obtain ⟨rfl, _⟩ := h
    exact .single (.remove msg)

theorem yankModule_writes {info : ModuleInfo} (msg : i.msg = .YankModule info)
    (h : yankModule i.deps i.info info s = .ok (s', msgs)) : Writes i s s' := by
  simp only [yankModule, bind_eq_ok, okOr_eq_ok, pure_eq_ok, Prod.mk.injEq] at h
  obtain ⟨_, _, _, _, reference, found, rfl, _⟩ := h
  exact .single (.yank (.inl ⟨info, msg⟩) found)

theorem updateModuleConfig_writes {name : String} {ns : Namespace} {update : UpdateModule}
    (msg : i.msg = .UpdateModuleConfiguration name ns update)
    (h : updateModuleConfig i.deps i.info name ns update s = .ok (s', msgs)) : Writes i s s' := by
  simp only [updateModuleConfig, bind_eq_ok] at h
  obtain ⟨_, _, h⟩ := h
  cases update with
  | Default metadata =>
    simp only [bind_eq_ok, pure_eq_ok, Prod.mk.injEq] at h
    obtain ⟨_, _, _, _, rfl, _⟩ := h
    exact .single (.administer (.inr ⟨_, _, _, msg⟩))
  | Versioned version metadata monetization funds =>
    simp only [bind_eq_ok, pure_eq_ok, Prod.mk.injEq] at h
    obtain ⟨_, _, _, _, rfl, _⟩ := h
    exact .single (.administer (.inr ⟨_, _, _, msg⟩))

theorem claimNamespace_writes {id : AccountId} {name : String}
    (msg : i.msg = .ClaimNamespace id name)
    (h : claimNamespace i.deps i.info id name s = .ok (s', msgs)) : Writes i s s' := by
  simp only [claimNamespace, bind_eq_ok] at h
  obtain ⟨_, _, h⟩ := h
  obtain ⟨ns, without, free, rfl⟩ := claimNamespaceInternal_eq_ok h
  exact .single (.claim (.named msg) without free)

theorem admitAccount_eq_ok {creator : String} {id : AccountId} {sequence : AccountSequence}
    (h : admitAccount i.deps creator s id = .ok sequence) : Admitted i creator s id sequence := by
  unfold admitAccount at h
  split at h
  · rename_i isLocal
    have isLocal : id.trace = .Local := by simpa [AccountId.isLocal] using isLocal
    unfold nextLocalSequence at h
    split at h
    · rename_i small
      simp only [bind_eq_ok, ensure_eq_ok, pure_eq_ok] at h
      obtain ⟨_, next, rfl⟩ := h
      exact .sequential isLocal small next
    · rename_i large
      simp only [pure_eq_ok] at h
      exact h ▸ .predictable isLocal large
  · rename_i notLocal
    simp only [bind_eq_ok, mapError_eq_ok, pure_eq_ok] at h
    obtain ⟨_, host, _, verified, rfl⟩ := h
    exact .remote (by simpa [AccountId.isLocal] using notLocal) host
      (verify_of_verifyRemote verified)

theorem Admitted.verified {creator : String} {id : AccountId} {sequence : AccountSequence}
    (admitted : Admitted i creator s id sequence) : id.trace.verify = .ok () := by
  cases admitted with
  | sequential isLocal => rw [isLocal]; rfl
  | predictable isLocal => rw [isLocal]; rfl
  | remote _ _ verified => exact verified

theorem addAccount_writes {ns : Option String} {creator : String}
    (msg : i.msg = .AddAccount ns creator)
    (h : addAccount i.deps i.info ns creator s = .ok (s', msgs)) : Writes i s s' := by
  simp only [addAccount, bind_eq_ok] at h
  -- the account is stored first, then its namespace is claimed
  obtain ⟨id, contract, sequence, admitted, h⟩ := h
  obtain ⟨reported, new⟩ := assertAccountContract_eq_ok contract
  have admitted := admitAccount_eq_ok admitted
  have added := Write.account (s := s) msg reported new admitted
  cases ns with
  | none =>
    simp only [pure_eq_ok, Prod.mk.injEq] at h
    exact .single (h.1 ▸ added)
  | some name =>
    obtain ⟨ns, without, free, rfl⟩ := claimNamespaceInternal_eq_ok h
    exact .tail (.single added) (.claim (.added msg admitted.verified) without free)

/-- Yanking the first of different entries leaves the others where they are. -/
theorem lookup_yank_rest {e : Sigma fun _ : ModuleKey => ModuleReference}
    {entries : List (Sigma fun _ : ModuleKey => ModuleReference)}
    (distinct : (e :: entries).NodupKeys)
    (found : ∀ e' ∈ e :: entries, s.registeredModules.lookup e'.1 = some e'.2) :
    ∀ e' ∈ entries, (s.yank e.1 e.2).registeredModules.lookup e'.1 = some e'.2 := by
  intro e' listed
  have other : e'.1 ≠ e.1 := by
    intro same
    exact (List.nodupKeys_cons.mp distinct).1 (same ▸ List.mem_keys_of_mem listed)
  rw [RegistryState.yank, AList.lookup_erase_ne other]
  exact found e' (List.mem_cons_of_mem e listed)

/-- Yanking a list of registered modules that are all different. -/
theorem foldl_yank_writes {names : List String} (msg : i.msg = .ForgoNamespace names)
    {entries : List (Sigma fun _ : ModuleKey => ModuleReference)} (distinct : entries.NodupKeys)
    (found : ∀ e ∈ entries, s.registeredModules.lookup e.1 = some e.2) :
    Writes i s (entries.foldl (fun s e => s.yank e.1 e.2) s) := by
  induction entries generalizing s with
  | nil => exact .refl
  | cons e entries ih =>
    have rest := lookup_yank_rest distinct found
    rw [List.foldl_cons]
    exact .head (.yank (.inr ⟨names, msg⟩) (found e List.mem_cons_self))
      (ih (List.nodupKeys_cons.mp distinct).2 rest)

theorem mem_registered_foldl_yank {entries : List (Sigma fun _ : ModuleKey => ModuleReference)}
    {key : ModuleKey} :
    key ∈ (entries.foldl (fun s e => s.yank e.1 e.2) s).registeredModules ↔
      key ∈ s.registeredModules ∧ key ∉ entries.keys := by
  induction entries generalizing s with
  | nil => simp
  | cons e entries ih =>
    rw [List.foldl_cons, ih]
    simp only [RegistryState.yank, AList.mem_erase, List.keys_cons, List.mem_cons, not_or]
    tauto

theorem yankNamespace_empty (ns : Namespace) (s : RegistryState) :
    ∀ key ∈ (yankNamespace ns s).registeredModules, key.ns ≠ ns := by
  intro key registered isNs
  obtain ⟨before, kept⟩ := mem_registered_foldl_yank.mp registered
  obtain ⟨reference, found⟩ := mem_iff_lookup.mp before
  have listed : (⟨key, reference⟩ : Sigma fun _ : ModuleKey => ModuleReference) ∈
      s.registeredModules.entries.filter fun e => e.1.ns = ns := by
    simpa [isNs] using AList.mem_lookup_iff.mp found
  exact kept (List.mem_keys_of_mem listed)

theorem yankNamespace_writes {names : List String} (msg : i.msg = .ForgoNamespace names)
    (ns : Namespace) : Writes i s (yankNamespace ns s) := by
  refine foldl_yank_writes msg ?_ ?_
  · exact s.registeredModules.nodupKeys.sublist List.filter_sublist
  · intro e listed
    exact AList.mem_lookup_iff.mpr (List.mem_of_mem_filter listed)

theorem forgoNamespace_writes {names : List String} (msg : i.msg = .ForgoNamespace names)
    (h : forgoNamespace i.deps i.info names s = .ok (s', msgs)) : Writes i s s' := by
  simp only [forgoNamespace, bind_eq_ok, pure_eq_ok, Prod.mk.injEq] at h
  obtain ⟨_, done, rfl, _⟩ := h
  refine foldlM_writes ?_ done
  intro m name m' _ ok
  simp only [forgoOne, bind_eq_ok, mapError_eq_ok, ensure_eq_ok, okOr_eq_ok, pure_eq_ok] at ok
  obtain ⟨ns, _, _, _, _, _, owner, owned, rfl⟩ := ok
  exact .tail (yankNamespace_writes msg ns) (.unclaim msg owned (yankNamespace_empty ns m))

/-- Every successful message is a chain of writes. -/
theorem execute_writes (h : execute i s = .ok (s', msgs)) : Writes i s s' := by
  cases msg : i.msg with
  | ProposeModules modules => rw [execute, msg] at h; exact proposeModules_writes msg h
  | ApproveOrRejectModules approves rejects =>
    rw [execute, msg] at h; exact approveOrRejectModules_writes msg h
  | RemoveModule info => rw [execute, msg] at h; exact removeModule_writes msg h
  | YankModule info => rw [execute, msg] at h; exact yankModule_writes msg h
  | UpdateModuleConfiguration name ns update =>
    rw [execute, msg] at h; exact updateModuleConfig_writes msg h
  | ClaimNamespace id name => rw [execute, msg] at h; exact claimNamespace_writes msg h
  | ForgoNamespace names => rw [execute, msg] at h; exact forgoNamespace_writes msg h
  | AddAccount ns creator => rw [execute, msg] at h; exact addAccount_writes msg h
  | UpdateConfig secure fee =>
    rw [execute, msg] at h
    simp only [updateConfig, bind_eq_ok, pure_eq_ok, Prod.mk.injEq] at h
    obtain ⟨_, _, rfl, _⟩ := h
    exact .single (.configure ⟨secure, fee, msg⟩)
  | UpdateOwnership action =>
    rw [execute, msg] at h
    simp only [updateOwnership, bind_eq_ok, mapError_eq_ok, pure_eq_ok, Prod.mk.injEq] at h
    obtain ⟨_, _, rfl, _⟩ := h
    exact .single (.administer (.inl ⟨action, msg⟩))

/-- What every write of a message that meets `C` keeps holds after a run whose successful
    messages meet it. -/
theorem run_writes_invariant {C : RegistryState → Input → Prop} {P : RegistryState → Prop}
    {inputs : List Input}
    (body : ∀ {s i m m'}, C s i → Writes i s m → Write i m m' → P m → P m') (start : P s)
    (along : AlongAccepted execute C s inputs) : P (run execute s inputs) :=
  run_invariant_accepted (fun _ _ _ _ here held ok =>
    writes_invariant (fun _ _ earlier write => body here earlier write) held (execute_writes ok))
    start along

/-- A message other than `AddAccount` registers no address. -/
theorem execute_accountAddresses (other : ∀ ns creator, i.msg ≠ .AddAccount ns creator)
    (h : execute i s = .ok (s', msgs)) : s'.accountAddresses = s.accountAddresses := by
  refine writes_invariant (P := fun m => m.accountAddresses = s.accountAddresses) ?_ rfl
    (execute_writes h)
  intro m m' _ write same
  cases write with
  | account msg => exact absurd msg (other _ _)
  | _ => exact same

/-- `AddAccount` registers the sender under the id that it reports. -/
theorem execute_addAccount {ns : Option String} {creator : String}
    (msg : i.msg = .AddAccount ns creator) (h : execute i s = .ok (s', msgs)) :
    ∃ id, i.deps.querier.queryAccountId i.info.sender = .ok id ∧ id.trace.verify = .ok () ∧
      s.accountAddresses.lookup id.storageKey = none ∧
      s'.accountAddresses = s.accountAddresses.insert id.storageKey i.info.sender := by
  simp only [execute, msg, addAccount, bind_eq_ok] at h
  obtain ⟨id, contract, sequence, admitted, h⟩ := h
  obtain ⟨reported, new⟩ := assertAccountContract_eq_ok contract
  refine ⟨id, reported, (admitAccount_eq_ok admitted).verified,
    AList.lookup_eq_none.mpr new, ?_⟩
  cases ns with
  | none =>
    simp only [pure_eq_ok, Prod.mk.injEq] at h
    rw [← h.1]
  | some name =>
    obtain ⟨ns, _, _, rfl⟩ := claimNamespaceInternal_eq_ok h
    rfl

end Commands

/-! ## Frames -/

/-- The messages that may write the namespace maps. -/
def ExecuteMsg.writesNamespaces : ExecuteMsg → Bool
  | .ClaimNamespace _ _ | .ForgoNamespace _ | .AddAccount _ _ => true
  | _ => false

theorem Write.namespaces_eq {i : Input} {s s' : RegistryState} (write : Write i s s')
    (quiet : i.msg.writesNamespaces = false) : s'.namespaces = s.namespaces := by
  cases write with
  | unclaim msg => rw [msg] at quiet; cases quiet
  | claim claimant =>
    rcases claimant with ⟨msg⟩ | ⟨msg, _⟩
    · rw [msg] at quiet; cases quiet
    · rw [msg] at quiet; cases quiet
  | _ => rfl

theorem writes_namespaces_eq {i : Input} {s s' : RegistryState} (writes : Writes i s s')
    (quiet : i.msg.writesNamespaces = false) : s'.namespaces = s.namespaces :=
  writes_invariant (P := fun m => m.namespaces = s.namespaces)
    (fun _ _ _ write same => (write.namespaces_eq quiet).trans same) rfl writes

/-- The messages that may write the registered or the yanked modules. -/
def ExecuteMsg.writesModules : ExecuteMsg → Bool
  | .ProposeModules _ | .ApproveOrRejectModules _ _ | .RemoveModule _ | .YankModule _
  | .ForgoNamespace _ => true
  | _ => false

theorem Write.modules_eq {i : Input} {s s' : RegistryState} (write : Write i s s')
    (quiet : i.msg.writesModules = false) :
    s'.registeredModules = s.registeredModules ∧ s'.yankedModules = s.yankedModules := by
  cases write with
  | register msg => rw [msg] at quiet; cases quiet
  | approve msg => rw [msg] at quiet; cases quiet
  | remove msg => rw [msg] at quiet; cases quiet
  | yank msg =>
    rcases msg with ⟨_, msg⟩ | ⟨_, msg⟩
    · rw [msg] at quiet; cases quiet
    · rw [msg] at quiet; cases quiet
  | _ => exact ⟨rfl, rfl⟩

theorem writes_modules_eq {i : Input} {s s' : RegistryState} (writes : Writes i s s')
    (quiet : i.msg.writesModules = false) :
    s'.registeredModules = s.registeredModules ∧ s'.yankedModules = s.yankedModules :=
  writes_invariant (P := fun m => m.registeredModules = s.registeredModules ∧
      m.yankedModules = s.yankedModules)
    (fun _ _ _ write same => ⟨(write.modules_eq quiet).1.trans same.1,
      (write.modules_eq quiet).2.trans same.2⟩) ⟨rfl, rfl⟩ writes

/-- The messages that may write the infos of standalone contracts and services. -/
def ExecuteMsg.writesInfos : ExecuteMsg → Bool
  | .ProposeModules _ | .ApproveOrRejectModules _ _ | .RemoveModule _ => true
  | _ => false

theorem Write.infos_eq {i : Input} {s s' : RegistryState} (write : Write i s s')
    (quiet : i.msg.writesInfos = false) :
    s'.standaloneInfos = s.standaloneInfos ∧ s'.serviceInfos = s.serviceInfos := by
  cases write with
  | register msg => rw [msg] at quiet; cases quiet
  | approve msg => rw [msg] at quiet; cases quiet
  | remove msg => rw [msg] at quiet; cases quiet
  | _ => exact ⟨rfl, rfl⟩

theorem writes_infos_eq {i : Input} {s s' : RegistryState} (writes : Writes i s s')
    (quiet : i.msg.writesInfos = false) :
    s'.standaloneInfos = s.standaloneInfos ∧ s'.serviceInfos = s.serviceInfos :=
  writes_invariant (P := fun m => m.standaloneInfos = s.standaloneInfos ∧
      m.serviceInfos = s.serviceInfos)
    (fun _ _ _ write same => ⟨(write.infos_eq quiet).1.trans same.1,
      (write.infos_eq quiet).2.trans same.2⟩) ⟨rfl, rfl⟩ writes

/-- Only an update of the configuration writes it. -/
def ExecuteMsg.writesConfig : ExecuteMsg → Bool
  | .UpdateConfig _ _ => true
  | _ => false

theorem Write.config_eq {i : Input} {s s' : RegistryState} (write : Write i s s')
    (quiet : i.msg.writesConfig = false) : s'.config = s.config := by
  cases write with
  | configure msg =>
    obtain ⟨_, _, msg⟩ := msg
    rw [msg] at quiet
    cases quiet
  | _ => rfl

theorem writes_config_eq {i : Input} {s s' : RegistryState} (writes : Writes i s s')
    (quiet : i.msg.writesConfig = false) : s'.config = s.config :=
  writes_invariant (P := fun m => m.config = s.config)
    (fun _ _ _ write same => (write.config_eq quiet).trans same) rfl writes

end AbstractFramework.Registry
