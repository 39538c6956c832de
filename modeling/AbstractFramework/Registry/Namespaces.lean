import AbstractFramework.Objects.AccountIdCodec
import AbstractFramework.Registry.Writes

/-! # Namespaces

Two results over all runs of the registry.  `NAMESPACES` and `REV_NAMESPACES`
mirror each other: an account holds a namespace exactly when the namespace
names the account.  And every registered module lives in a namespace that
somebody holds.

Both need a condition on the messages.  `REV_NAMESPACES` is keyed by the
storage bytes of an account id, which determine the id only among verified
ones, and `claim_namespace` does not verify the id it is given.  Approving a
module does not look at its namespace again, which may have been given up since
the module was proposed.
-/

namespace AbstractFramework.Registry

open AbstractFramework Fallible Storage Machine

section Mirrored

variable [Crates] {i : Input} {s s' : RegistryState}

/-! ## The two namespace maps -/

/-- No other verified account has the storage key of this one. -/
def Unambiguous (id : AccountId) : Prop :=
  ∀ other : AccountId, other.trace.verify = .ok () → other.storageKey = id.storageKey → other = id

omit [Crates] in
theorem unambiguous_of_verified {id : AccountId} (verified : id.trace.verify = .ok ()) :
    Unambiguous id := by
  intro other otherVerified same
  exact AccountId.storageKey_injective otherVerified verified same

/-- The namespace maps mirror each other, and the accounts in them are known by
    their storage keys. -/
structure NamespacesMirrored (s : RegistryState) : Prop where
  mirror : Mirror AccountId.storageKey s.namespaces s.revNamespaces
  unambiguous : ∀ {ns id}, s.namespaces.lookup ns = some id → Unambiguous id

/-- A claim names an account that no other verified account is confused with. -/
def ClaimsUnambiguous (i : Input) : Prop :=
  ∀ id name, i.msg = .ClaimNamespace id name → Unambiguous id

theorem Claimant.unambiguous {id : AccountId} (claims : ClaimsUnambiguous i)
    (claimant : Claimant i id) : Unambiguous id := by
  cases claimant with
  | named msg => exact claims id _ msg
  | added _ verified => exact unambiguous_of_verified verified

theorem Write.namespacesMirrored (claims : ClaimsUnambiguous i) (write : Write i s s')
    (mirrored : NamespacesMirrored s) : NamespacesMirrored s' := by
  cases write with
  | @unclaim _ ns owner _ owned =>
    refine ⟨mirrored.mirror.erase owned, fun {ns' id} held => ?_⟩
    exact mirrored.unambiguous (lookup_erase_eq_some.mp held).2
  | @claim ns id claimant without free =>
    refine ⟨mirrored.mirror.insert free without, fun {ns' id'} held => ?_⟩
    rcases lookup_insert_cases held with ⟨_, rfl⟩ | ⟨_, held⟩
    · exact claimant.unambiguous claims
    · exact mirrored.unambiguous held
  | _ => exact ⟨mirrored.mirror, mirrored.unambiguous⟩

theorem namespacesMirrored_instantiate {deps : Deps} {msg : InstantiateMsg}
    (init : instantiate deps msg = .ok s) : NamespacesMirrored s := by
  simp only [instantiate, bind_eq_ok, mapError_eq_ok, pure_eq_ok] at init
  obtain ⟨_, _, ns, _, rfl⟩ := init
  refine ⟨mirror_singleton _ ns ABSTRACT_ACCOUNT_ID, fun {ns' id} held => ?_⟩
  rcases lookup_insert_cases held with ⟨_, rfl⟩ | ⟨_, held⟩
  · exact unambiguous_of_verified rfl
  · simp at held

theorem namespacesMirrored_run {deps : Deps} {msg : InstantiateMsg}
    (init : instantiate deps msg = .ok s) {inputs : List Input}
    (claims : AlongAccepted execute (fun _ i => ClaimsUnambiguous i) s inputs) :
    NamespacesMirrored (run execute s inputs) :=
  run_writes_invariant (fun here _ write => write.namespacesMirrored here)
    (namespacesMirrored_instantiate init) claims

/-- In every state that a new registry reaches without accepting an ambiguous claim, the
    namespace maps are mutually inverse on verified accounts, so that each
    namespace has one account and each account one namespace; and a failing
    message leaves both maps as they were. -/
theorem namespaces_mutually_inverse {deps : Deps} {msg : InstantiateMsg} {s₀ : RegistryState}
    (init : instantiate deps msg = .ok s₀) (inputs : List Input)
    (claims : AlongAccepted execute (fun _ i => ClaimsUnambiguous i) s₀ inputs) :
    let s := run execute s₀ inputs
    (∀ ns (id : AccountId), id.trace.verify = .ok () →
      (s.namespaces.lookup ns = some id ↔ s.revNamespaces.lookup id.storageKey = some ns)) ∧
    (∀ ns ns' id, s.namespaces.lookup ns = some id → s.namespaces.lookup ns' = some id →
      ns = ns') ∧
    (∀ ns (id id' : AccountId), id.trace.verify = .ok () → id'.trace.verify = .ok () →
      s.revNamespaces.lookup id.storageKey = some ns →
      s.revNamespaces.lookup id'.storageKey = some ns → id = id') ∧
    (∀ i e, execute i s = .error e →
      (step execute s i).namespaces = s.namespaces ∧
      (step execute s i).revNamespaces = s.revNamespaces) := by
  intro s
  have mirrored : NamespacesMirrored s := namespacesMirrored_run init claims
  have backward : ∀ ns (id : AccountId), id.trace.verify = .ok () →
      s.revNamespaces.lookup id.storageKey = some ns → s.namespaces.lookup ns = some id := by
    intro ns id verified held
    -- the reverse map knows the holder by its bytes only
    obtain ⟨holder, holds, same⟩ := mirrored.mirror.backward held
    rw [mirrored.unambiguous holds id verified same.symm]
    exact holds
  refine ⟨fun ns id verified => ⟨mirrored.mirror.forward, backward ns id verified⟩, ?_, ?_, ?_⟩
  · intro ns ns' id held held'
    have same := mirrored.mirror.forward held'
    rw [mirrored.mirror.forward held] at same
    exact Option.some.inj same
  · intro ns id id' verified verified' held held'
    have same := backward ns id' verified' held'
    rw [backward ns id verified held] at same
    exact Option.some.inj same
  · intro i e fails
    rw [step_of_error fails]
    exact ⟨rfl, rfl⟩

end Mirrored

section MirroredSample

attribute [local instance] releaseCrates

/-- The admin claims the namespace `pub` for a local account. -/
def claimInput : Input := sampleInput "adm" (.ClaimNamespace sampleAccountId "pub")

theorem namespaces_mutually_inverse_claimed :
    (run execute (sampleStart true) [claimInput]).namespaces.lookup ⟨"pub"⟩ =
        some sampleAccountId ↔
      (run execute (sampleStart true) [claimInput]).revNamespaces.lookup
        sampleAccountId.storageKey = some ⟨"pub"⟩ := by
  have claims : ∀ i ∈ [claimInput], ClaimsUnambiguous i := by
    intro i listed id name msg
    rw [List.mem_singleton.mp listed] at msg
    cases msg
    exact unambiguous_of_verified rfl
  exact (namespaces_mutually_inverse (instantiate_sample true) [claimInput]
    (along_of_forall claims).accepted).1 ⟨"pub"⟩ sampleAccountId rfl

/-- An id that is stored like the local account `sampleAccountId`. -/
def ambiguousId : AccountId := { trace := .Remote [⟨"local"⟩], seq := PREDICTABLE_SEQUENCE }

/-- Without security, the owner of a local account claims the namespace `pub`
    for an id that is stored like the account. -/
def ambiguousClaim : List Input :=
  [sampleInput "adm" (.ProposeModules [(accountVersion, .Account 1)]),
    sampleInput "acc" (.AddAccount none ""),
    sampleInput "mon" (.ClaimNamespace ambiguousId "pub")]

/-- The namespace `pub` of the local account names another account. -/
theorem namespaces_not_inverse :
    instantiate sampleDeps (sampleInstantiate false) = .ok (sampleStart false) ∧
    (let s := run execute (sampleStart false) ambiguousClaim
     sampleAccountId.trace.verify = .ok () ∧
      s.revNamespaces.lookup sampleAccountId.storageKey = some ⟨"pub"⟩ ∧
      s.namespaces.lookup ⟨"pub"⟩ = some ambiguousId ∧ ambiguousId ≠ sampleAccountId) := by
  refine ⟨instantiate_sample false, ?_⟩
  decide

end MirroredSample

/-! ## Registered modules and their namespaces -/

section Owned

variable [Crates] {i : Input} {s s' : RegistryState}

/-- Every registered module has its namespace claimed. -/
def NamespacesOwned (s : RegistryState) : Prop :=
  ∀ key ∈ s.registeredModules, key.ns ∈ s.namespaces

/-- Modules are approved, and published directly in the abstract namespace, only
    while their namespace is claimed. -/
def ExecuteMsg.PublishesClaimed (s : RegistryState) : ExecuteMsg → Prop
  | .ApproveOrRejectModules approves _ => ∀ info ∈ approves, info.ns ∈ s.namespaces
  | .ProposeModules modules => s.config.securityEnabled = false →
    ∀ entry ∈ modules, entry.1.ns = ⟨ABSTRACT_NAMESPACE⟩ → entry.1.ns ∈ s.namespaces
  | _ => True

instance (s : RegistryState) : (msg : ExecuteMsg) → Decidable (msg.PublishesClaimed s)
  | .ApproveOrRejectModules approves _ =>
    inferInstanceAs (Decidable (∀ info ∈ approves, info.ns ∈ s.namespaces))
  | .ProposeModules modules =>
    inferInstanceAs (Decidable (s.config.securityEnabled = false →
      ∀ entry ∈ modules, entry.1.ns = ⟨ABSTRACT_NAMESPACE⟩ → entry.1.ns ∈ s.namespaces))
  | .RemoveModule _ | .YankModule _ | .UpdateModuleConfiguration _ _ _ | .ClaimNamespace _ _
  | .ForgoNamespace _ | .AddAccount _ _ | .UpdateConfig _ _ | .UpdateOwnership _ =>
    inferInstanceAs (Decidable True)

theorem NamespacesOwned.insert (owned : NamespacesOwned s) {key : ModuleKey}
    {reference : ModuleReference} (claimed : key.ns ∈ s.namespaces) :
    ∀ key' ∈ s.registeredModules.insert key reference, key'.ns ∈ s.namespaces := by
  intro key' registered
  rcases (AList.mem_insert _).mp registered with rfl | before
  · exact claimed
  · exact owned key' before

theorem NamespacesOwned.erase (owned : NamespacesOwned s) (key : ModuleKey) :
    ∀ key' ∈ s.registeredModules.erase key, key'.ns ∈ s.namespaces := by
  intro key' registered
  exact owned key' (AList.mem_erase.mp registered).2

/-- One write of a message that was executed from `s₀`. -/
theorem Write.namespacesOwned {s₀ : RegistryState} (publishes : i.msg.PublishesClaimed s₀)
    (earlier : Writes i s₀ s) (write : Write i s s') (owned : NamespacesOwned s) :
    NamespacesOwned s' := by
  cases write with
  | @register modules info reference msg listed insecure publisher =>
    apply owned.insert
    rcases publisher with isAbstract | claimed
    -- in the abstract namespace only the admin was checked
    · have same : s.namespaces = s₀.namespaces := writes_namespaces_eq earlier (by rw [msg]; rfl)
      have config : s.config = s₀.config := writes_config_eq earlier (by rw [msg]; rfl)
      rw [msg] at publishes
      change info.ns ∈ s.namespaces
      rw [same]
      exact publishes (config ▸ insecure) _ listed isAbstract
    · exact claimed
  | @approve approves rejects info reference msg listed waiting =>
    apply owned.insert
    -- earlier approvals of the same message left the namespaces alone
    have same : s.namespaces = s₀.namespaces := writes_namespaces_eq earlier (by rw [msg]; rfl)
    rw [msg] at publishes
    change info.ns ∈ s.namespaces
    rw [same]
    exact publishes info listed
  | @remove info => exact owned.erase info.key
  | @yank key => exact owned.erase key
  | @unclaim _ ns owner _ _ empty =>
    -- the namespace was emptied before it is given up
    intro key registered
    exact AList.mem_erase.mpr ⟨empty key registered, owned key registered⟩
  | claim =>
    intro key registered
    exact (AList.mem_insert _).mpr (.inr (owned key registered))
  | _ => exact owned

/-- In every state that a new registry reaches while it publishes only in
    claimed namespaces, every registered module has its namespace claimed. -/
theorem registered_namespaces_claimed {deps : Deps} {msg : InstantiateMsg} {s₀ : RegistryState}
    (init : instantiate deps msg = .ok s₀) (inputs : List Input)
    (publishes : AlongAccepted execute (fun s i => i.msg.PublishesClaimed s) s₀ inputs) :
    ∀ key ∈ (run execute s₀ inputs).registeredModules,
      key.ns ∈ (run execute s₀ inputs).namespaces := by
  have start : NamespacesOwned s₀ := by
    simp only [instantiate, bind_eq_ok, mapError_eq_ok, pure_eq_ok] at init
    obtain ⟨_, _, _, _, rfl⟩ := init
    intro key registered
    exact absurd registered (AList.notMem_empty key)
  exact run_writes_invariant (P := NamespacesOwned)
    (fun here earlier write => write.namespacesOwned here earlier) start publishes

end Owned

section OwnedSample

attribute [local instance] releaseCrates

def appVersion : ModuleInfo := { ns := ⟨"pub"⟩, name := "app", version := .Version "1.0.0" }

/-- The account module is approved, the account `acc` claims the namespace `pub`
    and proposes an app in it. -/
def appProposed : List Input :=
  [sampleInput "adm" (.ProposeModules [(accountVersion, .Account 1)]),
    sampleInput "adm" (.ApproveOrRejectModules [accountVersion] []),
    sampleInput "acc" (.AddAccount (some "pub") ""),
    sampleInput "acc" (.ProposeModules [(appVersion, .App 2)])]

def approveApp : Input := sampleInput "adm" (.ApproveOrRejectModules [appVersion] [])

theorem registered_namespaces_claimed_approved :
    appVersion.key ∈ (run execute (sampleStart true) (appProposed ++ [approveApp])).registeredModules ∧
    appVersion.ns ∈ (run execute (sampleStart true) (appProposed ++ [approveApp])).namespaces := by
  have registered : appVersion.key ∈
      (run execute (sampleStart true) (appProposed ++ [approveApp])).registeredModules := by decide
  have publishes : Along execute (fun s i => i.msg.PublishesClaimed s) (sampleStart true)
      (appProposed ++ [approveApp]) := by decide
  exact ⟨registered, registered_namespaces_claimed (instantiate_sample true) _ publishes.accepted _
    registered⟩

/-- The account gives up the namespace before the app in it is approved. -/
theorem registered_namespace_unclaimed :
    instantiate sampleDeps (sampleInstantiate true) = .ok (sampleStart true) ∧
    (let s := run execute (sampleStart true)
      (appProposed ++ [sampleInput "acc" (.ForgoNamespace ["pub"]), approveApp])
     appVersion.key ∈ s.registeredModules ∧ appVersion.ns ∉ s.namespaces) := by
  refine ⟨instantiate_sample true, ?_⟩
  decide

end OwnedSample

end AbstractFramework.Registry
