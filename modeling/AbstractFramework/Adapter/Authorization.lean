import AbstractFramework.Adapter.Commands
import AbstractFramework.Registry.Commands

/-! # Who may use an adapter for an account

A request runs for the account it names, or for its sender, and only with the consent of
that account.  A base message that names an account is to change the authorized addresses
of that account.  It does, except when its sender is itself an account that calls as
admin: `baseAccount` then never reads the name, and `Misdirected` says when this has an
effect.
-/

namespace AbstractFramework.Adapter

open AbstractFramework Fallible Storage

section Authority

variable [Crates] {env : AdapterEnv} {s s' : AdapterState} {sender account : Addr}

/-! ## Accounts and their owners -/

/-- The account reports an id that the registry knows it by. -/
def AdapterEnv.Registered (env : AdapterEnv) (account : Addr) : Prop :=
  ∃ accountId, env.querier.queryAccountId account = .ok accountId ∧
    env.registry.accountAddresses.lookup accountId.storageKey = some account

/-- The account calls the adapter in its role as admin. -/
def AdapterEnv.ActsAsAdmin (env : AdapterEnv) (account : Addr) : Prop :=
  env.Registered account ∧ ∃ called, env.callingToAsAdmin account = some called ∧
    (called = env.address ∨ called = Account.CALLING_TO_AS_ADMIN_WILD_CARD)

/-- The account that a message names, or that sends it. -/
def AdapterEnv.Names (env : AdapterEnv) (sender : Addr) (accountAddress : Option String)
    (account : Addr) : Prop :=
  match accountAddress with
  | some requested => env.addrValidate requested = .ok account
  | none => account = sender

/-- The owner of an account, directly or through the accounts it is a sub-account of. -/
inductive OwnerOf (q : Querier) : Addr → Addr → Prop where
  | direct {account owner : Addr} {o : Ownership} (record : q.queryOwnership account = .ok o)
      (owns : o.owner.ownerAddress q = some owner) : OwnerOf q account owner
  | indirect {account parent owner : Addr} {o : Ownership}
      (record : q.queryOwnership account = .ok o) (sub : o.owner = .SubAccount parent)
      (above : OwnerOf q parent owner) : OwnerOf q account owner

theorem assertAccount_eq_ok {maybeAccount : Addr} :
    env.assertAccount maybeAccount = .ok account ↔
      account = maybeAccount ∧ env.Registered maybeAccount := by
  simp only [AdapterEnv.assertAccount, bind_eq_ok, mapError_eq_ok, okOr_eq_ok, ensure_eq_ok,
    pure_eq_ok]
  constructor
  · rintro ⟨accountId, reported, found, known, _, same, eq⟩
    subst same eq
    exact ⟨rfl, accountId, reported, known⟩
  · rintro ⟨same, accountId, reported, known⟩
    exact ⟨accountId, reported, maybeAccount, known, (), rfl, same.symm⟩

theorem assertIsAccount_eq_ok {maybeAccount : Addr} :
    env.assertIsAccount maybeAccount = .ok account ↔
      account = maybeAccount ∧ env.Registered maybeAccount := by
  rw [AdapterEnv.assertIsAccount, mapError_eq_ok, assertAccount_eq_ok]

theorem calling_to_as_admin {maybeAccount : Addr} :
    env.asModule.assertAccountCallingToAsAdminIsSelf maybeAccount = true ↔
      ∃ called, env.callingToAsAdmin maybeAccount = some called ∧
        (called = env.address ∨ called = Account.CALLING_TO_AS_ADMIN_WILD_CARD) := by
  simp only [NestedAdmin.assertAccountCallingToAsAdminIsSelf, AdapterEnv.asModule]
  cases env.callingToAsAdmin maybeAccount with
  | none => simp
  | some called =>
    simp only [Bool.or_eq_true, decide_eq_true_iff, Option.some.injEq, exists_eq_left']
    exact or_congr decide_eq_true_iff Iff.rfl

theorem assertIsAccountAdmin_eq_ok {maybeAccount : Addr} :
    env.assertIsAccountAdmin maybeAccount = .ok account ↔
      account = maybeAccount ∧ env.ActsAsAdmin maybeAccount := by
  simp only [AdapterEnv.assertIsAccountAdmin, bind_eq_ok, ensure_eq_ok, pure_eq_ok,
    assertIsAccount_eq_ok, calling_to_as_admin]
  constructor
  · rintro ⟨found, ⟨same, registered⟩, _, calls, eq⟩
    exact ⟨eq ▸ same, registered, calls⟩
  · rintro ⟨same, registered, calls⟩
    exact ⟨maybeAccount, ⟨rfl, registered⟩, (), calls, same.symm⟩

theorem isTopLevelOwner_getD :
    (env.isTopLevelOwner account sender).toOption.getD false = true ↔
      queryTopLevelOwnerAddr env.querier account = .ok sender := by
  unfold AdapterEnv.isTopLevelOwner
  cases found : queryTopLevelOwnerAddr env.querier account with
  | error e => simp [bind, Except.bind, Except.toOption]
  | ok owner => simp [bind, Except.bind, pure, Except.pure, Except.toOption]

/-- Wherever the walk stops, the owner it finds is one of the owners. -/
theorem ownerOf_of_topLevelLoop {q : Querier} {top : Ownership} {n : Nat} {owner : Addr}
    (walked : topLevelLoop q n (q.queryOwnership account) = .ok top)
    (owns : top.owner.ownerAddress q = some owner) : OwnerOf q account owner := by
  induction n generalizing account with
  | zero => exact .direct walked owns
  | succ n ih =>
    cases record : q.queryOwnership account with
    | error e =>
      rw [record] at walked
      cases walked
    | ok o =>
      rw [record] at walked
      simp only [topLevelLoop] at walked
      split at walked
      · rename_i parent sub
        exact .indirect record sub (ih walked)
      · cases walked
        exact .direct record owns

theorem ownerOf_of_queryTopLevelOwnerAddr {q : Querier} {owner : Addr}
    (found : queryTopLevelOwnerAddr q account = .ok owner) : OwnerOf q account owner := by
  simp only [queryTopLevelOwnerAddr, bind_eq_ok, okOr_eq_ok] at found
  obtain ⟨top, walked, owns⟩ := found
  exact ownerOf_of_topLevelLoop walked owns

/-! ## The target account -/

theorem requestAccount_eq_ok {accountAddress : Option String}
    (h : env.requestAccount s sender accountAddress = .ok account) :
    env.Registered account ∧
      (account = sender ∨ queryTopLevelOwnerAddr env.querier account = .ok sender ∨
        sender ∈ (s.authorizedAddresses.lookup account).getD []) ∧
      env.Names sender accountAddress account := by
  cases accountAddress with
  | none =>
    simp only [AdapterEnv.requestAccount, mapError_eq_ok, assertIsAccount_eq_ok] at h
    obtain ⟨rfl, registered⟩ := h
    exact ⟨registered, .inl rfl, rfl⟩
  | some requested =>
    simp only [AdapterEnv.requestAccount, bind_eq_ok, mapError_eq_ok, ensure_eq_ok, pure_eq_ok,
      assertIsAccount_eq_ok, isTopLevelOwner_getD] at h
    obtain ⟨address, valid, core, ⟨rfl, registered⟩, _, entitled, rfl⟩ := h
    refine ⟨registered, ?_, valid⟩
    cases entitled with
    | inl itself => exact .inl itself
    | inr other => exact .inr other.symm

theorem baseAccount_of_actsAsAdmin {accountAddress : Option String}
    (acts : env.ActsAsAdmin sender) : env.baseAccount sender accountAddress = .ok sender := by
  have admin := assertIsAccountAdmin_eq_ok.mpr ⟨rfl, acts⟩
  unfold AdapterEnv.baseAccount
  rw [admin]

theorem baseAccount_of_not_actsAsAdmin {accountAddress : Option String}
    (notAdmin : ¬ env.ActsAsAdmin sender)
    (h : env.baseAccount sender accountAddress = .ok account) :
    ∃ requested, accountAddress = some requested ∧ env.addrValidate requested = .ok account ∧
      OwnerOf env.querier account sender := by
  unfold AdapterEnv.baseAccount at h
  split at h
  · rename_i found admin
    exact absurd (assertIsAccountAdmin_eq_ok.mp admin).2 notAdmin
  · cases accountAddress with
    | none => cases h
    | some requested =>
      simp only [bind_eq_ok, mapError_eq_ok, ensure_eq_ok, pure_eq_ok, assertIsAccount_eq_ok,
        isTopLevelOwner_getD] at h
      obtain ⟨address, valid, found, ⟨rfl, _⟩, _, owner, rfl⟩ := h
      exact ⟨requested, rfl, valid, ownerOf_of_queryTopLevelOwnerAddr owner⟩

/-! ## The update -/

/-- The sender's update of a list, with the addresses that its texts stand for, is
    accepted. -/
structure UpdateAccepted (env : AdapterEnv) (sender : Addr) (authorized : List Addr)
    (toAdd toRemove : List String) (added removed : List Addr) : Prop where
  additions : List.Forall₂ (env.getAddrFromModuleIdOrAddr sender · = .ok ·) toAdd added
  additionsOnce : added.Nodup
  additionsNew : authorized.Disjoint added
  removals : List.Forall₂ (env.getAddrFromModuleIdOrAddr sender · = .ok ·) toRemove removed
  removalsOnce : removed.Nodup
  removalsListed : removed ⊆ authorized ++ added
  fits : ((authorized ++ added).filter (· ∉ removed)).length ≤ MAXIMUM_AUTHORIZED_ADDRESSES

theorem updateAuthorizedAddresses_eq_ok {toAdd toRemove : List String} :
    updateAuthorizedAddresses env sender account toAdd toRemove s = .ok s' ↔
      ∃ added removed,
        UpdateAccepted env sender ((s.authorizedAddresses.lookup account).getD []) toAdd toRemove
          added removed ∧
        s' = { s with
          authorizedAddresses := s.authorizedAddresses.insert account
            (((s.authorizedAddresses.lookup account).getD [] ++ added).filter (· ∉ removed)) } := by
  have adds : ∀ l text l', env.authorize sender l text = .ok l' ↔
      ∃ a, env.getAddrFromModuleIdOrAddr sender text = .ok a ∧ a ∉ l ∧ l' = l ++ [a] := by
    intro l text l'
    simp only [AdapterEnv.authorize, bind_eq_ok, ensure_eq_ok, pure_eq_ok]
    simp [eq_comm]
  have removes : ∀ l text l', env.deauthorize sender l text = .ok l' ↔
      ∃ a, env.getAddrFromModuleIdOrAddr sender text = .ok a ∧ a ∈ l ∧
        l' = l.filter (· ≠ a) := by
    intro l text l'
    simp only [AdapterEnv.deauthorize, bind_eq_ok, ensure_eq_ok, pure_eq_ok]
    simp [eq_comm]
  simp only [updateAuthorizedAddresses, bind_eq_ok, ensure_eq_ok, pure_eq_ok,
    Batches.foldlM_append_eq_ok adds, Batches.foldlM_remove_eq_ok removes]
  constructor
  · rintro ⟨_, ⟨added, additions, once, new, eq⟩, _, ⟨removed, removals, distinct, within, eq'⟩, _,
      fits, stored⟩
    subst eq eq'
    exact ⟨added, removed, ⟨additions, once, new, removals, distinct, within, fits⟩, stored.symm⟩
  · rintro ⟨added, removed, accepted, stored⟩
    exact ⟨_, ⟨added, accepted.additions, accepted.additionsOnce, accepted.additionsNew, rfl⟩, _,
      ⟨removed, accepted.removals, accepted.removalsOnce, accepted.removalsListed, rfl⟩, (),
      accepted.fits, stored.symm⟩

/-- Only the entry of the target account is written. -/
theorem lookup_of_updateAuthorizedAddresses {toAdd toRemove : List String} {other : Addr}
    (h : updateAuthorizedAddresses env sender account toAdd toRemove s = .ok s')
    (changed : s'.authorizedAddresses.lookup other ≠ s.authorizedAddresses.lookup other) :
    other = account := by
  obtain ⟨_, _, _, rfl⟩ := updateAuthorizedAddresses_eq_ok.mp h
  by_contra apart
  exact changed (AList.lookup_insert_ne apart)

/-- An update of the sender's own entry that is accepted and changes the entry: the entry
    is created, or it does not take out exactly what it adds. -/
def OwnEntryChanges (env : AdapterEnv) (s : AdapterState) (sender : Addr)
    (toAdd toRemove : List String) : Prop :=
  ∃ added removed,
    UpdateAccepted env sender ((s.authorizedAddresses.lookup sender).getD []) toAdd toRemove
      added removed ∧
    (s.authorizedAddresses.lookup sender = none ∨ ¬ removed.Perm added)

theorem ownEntryChanges_iff {toAdd toRemove : List String} :
    OwnEntryChanges env s sender toAdd toRemove ↔
      ∃ s', updateAuthorizedAddresses env sender sender toAdd toRemove s = .ok s' ∧
        s'.authorizedAddresses.lookup sender ≠ s.authorizedAddresses.lookup sender := by
  -- what is written differs from what was there, unless the batch cancels out
  have differs : ∀ added removed, UpdateAccepted env sender
      ((s.authorizedAddresses.lookup sender).getD []) toAdd toRemove added removed →
      ((s.authorizedAddresses.lookup sender = none ∨ ¬ removed.Perm added) ↔
        some (((s.authorizedAddresses.lookup sender).getD [] ++ added).filter (· ∉ removed)) ≠
          s.authorizedAddresses.lookup sender) := by
    intro added removed accepted
    have cancels := Batches.filter_append_eq_self accepted.additionsOnce accepted.additionsNew
      accepted.removalsOnce accepted.removalsListed
    cases entry : s.authorizedAddresses.lookup sender with
    | none => simp
    | some authorized =>
      rw [entry] at cancels
      simp only [Option.getD_some] at cancels
      rw [Option.getD_some, Ne, Option.some.injEq, cancels]
      simp
  constructor
  · rintro ⟨added, removed, accepted, changes⟩
    refine ⟨_, updateAuthorizedAddresses_eq_ok.mpr ⟨added, removed, accepted, rfl⟩, ?_⟩
    rw [AList.lookup_insert]
    exact (differs added removed accepted).mp changes
  · rintro ⟨s', updated, changed⟩
    obtain ⟨added, removed, accepted, rfl⟩ := updateAuthorizedAddresses_eq_ok.mp updated
    rw [AList.lookup_insert] at changed
    exact ⟨added, removed, accepted, (differs added removed accepted).mpr changed⟩

/-! ## Authorisation -/

variable {Request : Type} {msg : ExecuteMsg Request}

/-- What a message may do: a request runs for the account that it names or that sends it,
    if that account, its owner at the top or one of its authorized addresses sends it; a
    base message changes the entry of the account that it names or that sends it. -/
def Authorised (env : AdapterEnv) (s : AdapterState) (sender : Addr) (msg : ExecuteMsg Request) :
    Prop :=
  ∀ s' outcome, execute env sender msg s = .ok (s', outcome) →
    match msg with
    | .Module request => ∃ account, outcome = .Handle account request.request ∧
        env.Registered account ∧
        (account = sender ∨ queryTopLevelOwnerAddr env.querier account = .ok sender ∨
          sender ∈ (s.authorizedAddresses.lookup account).getD []) ∧
        env.Names sender request.accountAddress account
    | .Base message => ∀ account,
        s'.authorizedAddresses.lookup account ≠ s.authorizedAddresses.lookup account →
        env.Names sender message.accountAddress account ∧
          ((account = sender ∧ env.ActsAsAdmin sender) ∨ OwnerOf env.querier account sender)

/-- A base message that names another account than its sender, which is an account that
    acts as admin, and that changes the sender's own entry. -/
def Misdirected (env : AdapterEnv) (s : AdapterState) (sender : Addr) (msg : ExecuteMsg Request) :
    Prop :=
  ∃ requested toAdd toRemove,
    msg = .Base ⟨some requested, .UpdateAuthorizedAddresses toAdd toRemove⟩ ∧
    env.ActsAsAdmin sender ∧ env.addrValidate requested ≠ .ok sender ∧
    env.accountRegistry s = .ok () ∧ OwnEntryChanges env s sender toAdd toRemove

theorem baseExecute_eq_ok {accountAddress : Option String} {toAdd toRemove : List String}
    {outcome : Outcome Request} :
    baseExecute env sender ⟨accountAddress, .UpdateAuthorizedAddresses toAdd toRemove⟩ s =
        .ok (s', outcome) ↔
      env.accountRegistry s = .ok () ∧ ∃ account,
        env.baseAccount sender accountAddress = .ok account ∧
        updateAuthorizedAddresses env sender account toAdd toRemove s = .ok s' ∧
        outcome = .Updated account := by
  simp only [baseExecute, bind_eq_ok, pure_eq_ok, Prod.mk.injEq]
  constructor
  · rintro ⟨_, registry, account, found, _, updated, same, eq⟩
    subst same
    exact ⟨registry, account, found, updated, eq.symm⟩
  · rintro ⟨registry, account, found, updated, eq⟩
    exact ⟨(), registry, account, found, s', updated, rfl, eq.symm⟩

/-- An adapter acts for the account that a message names and with its consent, unless the
    message is misdirected. -/
theorem adapter_authorisation (env : AdapterEnv) (s : AdapterState) (sender : Addr)
    (msg : ExecuteMsg Request) :
    Authorised env s sender msg ↔ ¬ Misdirected env s sender msg := by
  cases msg with
  | Module request =>
    constructor
    · rintro _ ⟨_, _, _, isBase, _⟩
      cases isBase
    · intro _ s' outcome executed
      simp only [execute, handleAppMsg, bind_eq_ok, pure_eq_ok, Prod.mk.injEq] at executed
      obtain ⟨_, _, account, found, _, rfl⟩ := executed
      exact ⟨account, rfl, requestAccount_eq_ok found⟩
  | Base message =>
    obtain ⟨accountAddress, toAdd, toRemove⟩ := message
    constructor
    · rintro authorised ⟨requested, _, _, isBase, acts, other, registry, changes⟩
      cases isBase
      obtain ⟨s', updated, changed⟩ := ownEntryChanges_iff.mp changes
      have executed : execute env sender (.Base ⟨some requested, .UpdateAuthorizedAddresses toAdd
          toRemove⟩ : ExecuteMsg Request) s = .ok (s', .Updated sender) :=
        baseExecute_eq_ok.mpr ⟨registry, sender, baseAccount_of_actsAsAdmin acts, updated, rfl⟩
      exact other (authorised s' _ executed sender changed).1
    · intro directed s' outcome executed other changed
      obtain ⟨registry, target, found, updated, _⟩ := baseExecute_eq_ok.mp executed
      obtain rfl := lookup_of_updateAuthorizedAddresses updated changed
      by_cases acts : env.ActsAsAdmin sender
      · rw [baseAccount_of_actsAsAdmin acts] at found
        cases found
        refine ⟨?_, .inl ⟨rfl, acts⟩⟩
        cases accountAddress with
        | none => rfl
        | some requested =>
          by_contra wrong
          exact directed ⟨requested, toAdd, toRemove, rfl, acts, wrong, registry,
            ownEntryChanges_iff.mpr ⟨s', updated, changed⟩⟩
      · obtain ⟨requested, rfl, valid, owner⟩ := baseAccount_of_not_actsAsAdmin acts found
        exact ⟨valid, .inr owner⟩

end Authority

section Sample

attribute [local instance] releaseCrates

def parentAddr : Addr := ⟨"parent"⟩
def childAddr : Addr := ⟨"child"⟩

/-- A monarch's account and a sub-account of it. -/
def parentAndChild (addr : Addr) : Option Contract :=
  if addr = parentAddr then some (.account (.ofLocal 1) (.Monarchy ⟨"monarch"⟩))
  else if addr = childAddr then some (.account (.ofLocal 2) (.SubAccount parentAddr))
  else none

def parentActs : AdapterEnv where
  adapter := "pub:dex"
  address := ⟨"dex"⟩
  querier := { contract := parentAndChild, codeInfo := fun _ => none,
               registryAddress := fun _ => some ⟨"registry"⟩ }
  registry := { Registry.sampleStart false with
    accountAddresses := Storage.insertAll ∅ [((AccountId.ofLocal 1).storageKey, parentAddr),
      ((AccountId.ofLocal 2).storageKey, childAddr)] }
  addrValidate text := .ok ⟨text⟩
  callingToAsAdmin account := if account = parentAddr then some ⟨"dex"⟩ else none
  queryAccountModule _ _ := .ok none

/-- The parent asks, as admin, to authorize a bot for its sub-account.  The bot is
    authorized for the parent. -/
theorem sub_account_update_changes_parent :
    ¬ Authorised parentActs ⟨some 1, ∅⟩ parentAddr
      (.Base ⟨some "child", .UpdateAuthorizedAddresses ["bot"] []⟩ : ExecuteMsg Unit) := by
  intro authorised
  have changed := authorised ⟨some 1, (∅ : Map Addr (List Addr)).insert parentAddr [⟨"bot"⟩]⟩
    (.Updated parentAddr) rfl parentAddr (by decide)
  have named : Except.ok ⟨"child"⟩ = (Except.ok parentAddr : Except StdError Addr) := changed.1
  exact absurd named (by decide)

end Sample

end AbstractFramework.Adapter
