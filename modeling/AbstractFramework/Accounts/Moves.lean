import AbstractFramework.Accounts.World

/-! # What a transaction changes between accounts

`View` is what the accounts and the registry know of each other: the ids, the
ownership records, the lists of sub-accounts, and the registered addresses.
`Moves` is everything that a transaction can do to it, with what has been checked
before, and `call_moves` is the only place where transactions are taken apart.
-/

namespace AbstractFramework.Accounts

open AbstractFramework Fallible Storage Account

variable [Crates] [Xion]

/-! ## Views -/

structure View where
  nodes : Addr → Option Entry.Node
  registered : AccountKey → Option Addr

def World.view (w : World) : View :=
  { nodes := fun account => (w.accounts.lookup account).map Entry.node
    registered := w.registry.accountAddresses.lookup }

namespace View

variable {v : View} {account : Addr} {n : Entry.Node}

def set (v : View) (account : Addr) (n : Entry.Node) : View :=
  { v with nodes := Function.update v.nodes account (some n) }

def register (v : View) (id : AccountId) (account : Addr) : View :=
  { v with registered := Function.update v.registered id.storageKey (some account) }

def localAccount (v : View) (id : AccountSequence) : Option Addr :=
  v.registered (AccountId.ofLocal id).storageKey

omit [Xion] in
theorem set_same (found : v.nodes account = some n) : v.set account n = v := by
  obtain ⟨nodes, registered⟩ := v
  simp only [set, View.mk.injEq, and_true]
  rw [← found]
  exact Function.update_eq_self account nodes

end View

/-! ## Changes -/

/-- The account `p` changes its list for the sender, which is registered under the id. -/
inductive Updates (v : View) (sender p : Addr) (action : UpdateSubAccountAction) : View → Prop where
  | mk {n : Entry.Node} (found : v.nodes p = some n)
      (isSender : v.localAccount (actionId action) = some sender) :
      Updates v sender p action (v.set p { n with subAccounts := listAfter n.subAccounts action })

/-- The account that owns, if an account does, is told. -/
def Told (v : View) (sender : Addr) (action : AccountSequence → UpdateSubAccountAction)
    (id : AccountId) (gov : GovernanceDetails Addr) (v' : View) : Prop :=
  match gov with
  | .SubAccount p => Updates v sender p (action id.seq) v'
  | _ => v' = v

/-- A new account, with what has been checked of it. -/
structure NewAccount (v : View) (account : Addr) (n : Entry.Node) : Prop where
  fresh : v.nodes account = none
  noSubAccounts : n.subAccounts = ∅
  noPending : n.ownership.pendingOwner = none
  parent : ∀ p, n.ownership.owner = .SubAccount p → (v.nodes p).isSome
  verified : n.id.trace.verify = .ok ()
  unregistered : v.registered n.id.storageKey = none

/-- Everything that a transaction can change. -/
inductive Moves (v : View) : Call → View → Prop where
  | keep {c : Call} : Moves v c v
  | propose {account : Addr} {info : MessageInfo} {newOwner : GovernanceDetails String}
      {expiry : Option Crates.Expiration} {n : Entry.Node} {pending : GovernanceDetails Addr}
      (found : v.nodes account = some n)
      (known : ∀ p, pending = .SubAccount p → (v.nodes p).isSome) :
      Moves v (.execute account info (.UpdateOwnership (.TransferOwnership newOwner expiry)))
        (v.set account { n with ownership :=
          { n.ownership with pendingOwner := some pending, pendingExpiry := expiry } })
  | accept {account : Addr} {info : MessageInfo} {n : Entry.Node}
      {pending : GovernanceDetails Addr} {v₁ v₂ : View} (found : v.nodes account = some n)
      (isPending : n.ownership.pendingOwner = some pending)
      (left : Told (v.set account { n with ownership :=
          { owner := pending, pendingOwner := none, pendingExpiry := none } })
        account .UnregisterSubAccount n.id n.ownership.owner v₁)
      (joined : Told v₁ account .RegisterSubAccount n.id pending v₂) :
      Moves v (.execute account info (.UpdateOwnership .AcceptOwnership)) v₂
  | renounce {account : Addr} {info : MessageInfo} {n : Entry.Node} {v₁ : View}
      (found : v.nodes account = some n)
      (left : Told (v.set account { n with ownership :=
          { owner := .Renounced, pendingOwner := none, pendingExpiry := none } })
        account .UnregisterSubAccount n.id n.ownership.owner v₁) :
      Moves v (.execute account info (.UpdateOwnership .RenounceOwnership)) v₁
  | update {p : Addr} {info : MessageInfo} {action : UpdateSubAccountAction} {v₁ : View}
      (updates : Updates v info.sender p action v₁) :
      Moves v (.execute p info (.UpdateSubAccount action)) v₁
  | create {c : Call} {account : Addr} {n : Entry.Node} {v₁ : View}
      (new : NewAccount v account n)
      (joined : Told ((v.set account n).register n.id account) account .RegisterSubAccount n.id
        n.ownership.owner v₁) : Moves v c v₁
  | enlist {c : Call} {account : Addr} {n : Entry.Node} (found : v.nodes account = some n)
      (verified : n.id.trace.verify = .ok ()) (unregistered : v.registered n.id.storageKey = none) :
      Moves v c (v.register n.id account)

section Frame

variable {v v' : View}

omit [Xion] in
/-- A message about a list of sub-accounts removes no account, and registers none. -/
theorem told_frame {sender : Addr} {action : AccountSequence → UpdateSubAccountAction}
    {id : AccountId} {gov : GovernanceDetails Addr} (told : Told v sender action id gov v') :
    v'.registered = v.registered ∧ ∀ a, (v.nodes a).isSome → (v'.nodes a).isSome := by
  cases gov with
  | SubAccount p =>
    obtain ⟨found, _⟩ := told
    refine ⟨rfl, fun a isAccount => ?_⟩
    by_cases same : a = p
    · simp [View.set, same]
    · simpa [View.set, same] using isAccount
  | _ =>
    obtain rfl : v' = v := told
    exact ⟨rfl, fun _ isAccount => isAccount⟩

/-- A registered address is never registered anew. -/
theorem Moves.registered_stays {c : Call} {key : AccountKey} {account : Addr}
    (moves : Moves v c v') (there : v.registered key = some account) :
    v'.registered key = some account := by
  have registers : ∀ {id : AccountId} {a : Addr}, v.registered id.storageKey = none →
      Function.update v.registered id.storageKey (some a) key = some account := by
    intro id a unregistered
    have other : key ≠ id.storageKey := by
      rintro rfl
      rw [unregistered] at there
      cases there
    rw [Function.update_of_ne other]
    exact there
  cases moves with
  | keep => exact there
  | propose => exact there
  | accept _ _ left joined =>
    rw [(told_frame joined).1, (told_frame left).1]
    exact there
  | renounce _ left =>
    rw [(told_frame left).1]
    exact there
  | update updates =>
    cases updates
    exact there
  | create new joined =>
    rw [(told_frame joined).1]
    exact registers new.unregistered
  | enlist _ _ unregistered => exact registers unregistered

end Frame

/-! ## Reading and writing the world -/

section Inversion

variable {chain : ChainView} {w w' : World} {account sender : Addr} {info : MessageInfo}
  {s s' : AccountStorage} {depth : Nat} {msgs : List SubMsg}

@[simp] theorem load_eq_ok : w.load account = .ok s ↔ w.accounts.lookup account = some s :=
  okOr_eq_ok

theorem nodes_of_lookup (found : w.accounts.lookup account = some s) :
    w.view.nodes account = some (Entry.node s) := by
  simp [World.view, found]

@[simp] theorem view_save (w : World) (account : Addr) (s : AccountStorage) :
    (w.save account s).view = w.view.set account (Entry.node s) := by
  simp only [World.view, World.save, View.set, View.mk.injEq, and_true]
  funext other
  by_cases same : other = account
  · subst same
    simp
  · simp [AList.lookup_insert_ne same, same]

/-- Writing what accounts do not know of each other. -/
theorem view_save_same (s' : AccountStorage) (found : w.accounts.lookup account = some s)
    (same : Entry.node s' = Entry.node s) : (w.save account s').view = w.view := by
  rw [view_save, same]
  exact View.set_same (nodes_of_lookup found)

/-- Only accounts have an account id. -/
theorem node_of_queryAccountId {id : AccountId}
    (h : (chain.querier w).queryAccountId account = .ok id) :
    ∃ n, w.view.nodes account = some n ∧ n.id = id := by
  simp only [Querier.queryAccountId, Querier.item, ChainView.querier, ChainView.contract,
    okOr_eq_ok, Option.bind_eq_some_iff] at h
  obtain ⟨contract, found, has⟩ := h
  cases stored : w.accounts.lookup account with
  | some s =>
    rw [stored] at found
    obtain rfl := Option.some.inj found
    exact ⟨Entry.node s, nodes_of_lookup stored, Option.some.inj has⟩
  | none =>
    rw [stored] at found
    dsimp only at found
    split at found
    · obtain rfl := Option.some.inj found
      cases has
    · rw [Option.map_eq_some_iff] at found
      obtain ⟨_, _, rfl⟩ := found
      cases has

/-- Whoever is verified as the owning account is an account. -/
theorem known_of_verify {newOwner : GovernanceDetails String} {gov : GovernanceDetails Addr}
    (h : newOwner.verify (chain.deps w) = .ok gov) {p : Addr} (owner : gov = .SubAccount p) :
    (w.view.nodes p).isSome := by
  subst owner
  cases newOwner with
  | SubAccount text =>
    simp only [GovernanceDetails.verify, bind_eq_ok, mapError_eq_ok, okOr_eq_ok] at h
    obtain ⟨addr, _, _, _, _, _, id, reported, base, _, h⟩ := h
    split at h
    · simp only [pure_eq_ok, GovernanceDetails.SubAccount.injEq] at h
      obtain rfl := h
      obtain ⟨n, found, _⟩ := node_of_queryAccountId reported
      rw [found]
      rfl
    · cases h
  | _ =>
    simp only [GovernanceDetails.verify, bind_eq_ok, pure_eq_ok, reduceCtorEq, and_false,
      exists_false] at h

theorem reply_view {id : Option Reply} (h : chain.reply w account id = .ok w') :
    w'.view = w.view := by
  cases id with
  | none =>
    obtain rfl := Except.ok.inj h
    rfl
  | some id =>
    simp only [ChainView.reply, bind_eq_ok, load_eq_ok, mapError_eq_ok, pure_eq_ok] at h
    obtain ⟨s, found, s', replied, rfl⟩ := h
    refine view_save_same _ found ?_
    cases id with
    | ForwardResponse =>
      obtain rfl := Except.ok.inj replied
      rfl
    | AdminAction =>
      obtain rfl := Except.ok.inj replied
      rfl
    | RegisterModulesDependencies =>
      simp only [Entry.reply, bind_eq_ok, pure_eq_ok] at replied
      obtain ⟨state, registered, rfl⟩ := replied
      rw [(registerDependencies_frame registered).1]
      rfl
    | AssertModuleDependenciesRequirements =>
      simp only [Entry.reply, bind_eq_ok, pure_eq_ok] at replied
      obtain ⟨state, asserted, rfl⟩ := replied
      rw [assertModulesDependencyRequirements_eq_ok asserted]
      rfl

/-! ## The parts of a transaction -/

/-- A call executes code and delivers the messages of the code. -/
theorem call_eq_ok {c : Call} (h : chain.call depth c w = .ok w') :
    ∃ below w₁ sender msgs, chain.handle w c = .ok (w₁, sender, msgs) ∧
      msgs.foldlM (chain.deliver (chain.call below) sender) w₁ = .ok w' := by
  cases depth with
  | zero => cases h
  | succ below =>
    simp only [ChainView.call, bind_eq_ok] at h
    obtain ⟨⟨w₁, sender, msgs⟩, handled, delivered⟩ := h
    exact ⟨below, w₁, sender, msgs, handled, delivered⟩

/-- A message without a reply is the call that it is received as. -/
theorem deliver_new {run : Call → World → Except TxError World} {sent : OutMsg}
    (h : chain.deliver run sender w (.new sent) = .ok w') :
    ∃ c, chain.received sender sent = .ok c ∧ run c w = .ok w' := by
  simp only [ChainView.deliver, SubMsg.new, bind_eq_ok] at h
  obtain ⟨c, received, w₁, called, replied⟩ := h
  obtain rfl := Except.ok.inj replied
  exact ⟨c, received, called⟩

theorem deliver_single {run : Call → World → Except TxError World} {sent : OutMsg}
    (h : [SubMsg.new sent].foldlM (chain.deliver run sender) w = .ok w') :
    ∃ c, chain.received sender sent = .ok c ∧ run c w = .ok w' := by
  obtain ⟨w₁, delivered, done⟩ := foldlM_cons_eq_ok.mp h
  obtain rfl := Except.ok.inj done
  exact deliver_new delivered

/-- A call of an account executes its code and delivers the messages of the account. -/
theorem call_execute_eq_ok {msg : Entry.ExecuteMsg}
    (h : chain.call depth (.execute account info msg) w = .ok w') :
    ∃ below s t msgs, w.accounts.lookup account = some s ∧
      Entry.handle (chain.env w account) info msg s = .ok (t, msgs) ∧
      msgs.foldlM (chain.deliver (chain.call below) account)
        (w.save account (Entry.dropAuthAdmin (chain.env w account) t)) = .ok w' := by
  obtain ⟨below, w₁, sender, msgs, handled, delivered⟩ := call_eq_ok h
  simp only [ChainView.handle, bind_eq_ok, load_eq_ok, mapError_eq_ok, pure_eq_ok,
    Prod.mk.injEq] at handled
  obtain ⟨s, found, ⟨s', sent⟩, executed, rfl, rfl, rfl⟩ := handled
  obtain ⟨_, t, handled, rfl⟩ := Entry.execute_eq_ok executed
  exact ⟨below, s, t, _, found, handled, delivered⟩

/-- Messages to contracts that are neither accounts nor the registry. -/
def isOutward : OutMsg → Bool
  | .Chain _ | .Module _ => true
  | _ => false

omit [Crates] in
theorem replyToLast_outward {sent : List CosmosMsg} :
    ∀ sub ∈ Entry.replyToLast sent, isOutward sub.msg = true := by
  induction sent with
  | nil => simp [Entry.replyToLast]
  | cons msg rest ih =>
    cases rest with
    | nil => simp [Entry.replyToLast, SubMsg.withReply, isOutward]
    | cons next rest =>
      rw [Entry.replyToLast, List.forall_mem_cons]
      · exact ⟨rfl, ih⟩
      · simp

theorem deliver_outward {sub : SubMsg} (outward : isOutward sub.msg = true)
    (h : chain.deliver (chain.call depth) sender w sub = .ok w') : w'.view = w.view := by
  simp only [ChainView.deliver, bind_eq_ok] at h
  obtain ⟨c, received, w₁, called, replied⟩ := h
  have other : c = .other sub.msg := by
    cases sent : sub.msg with
    | Chain msg => rw [sent] at received; exact (Except.ok.inj received).symm
    | Module msg => rw [sent] at received; exact (Except.ok.inj received).symm
    | _ => rw [sent] at outward; cases outward
  obtain ⟨below, w₂, sender, msgs, handled, delivered⟩ := call_eq_ok called
  rw [other] at handled
  simp only [ChainView.handle, bind_eq_ok, pure_eq_ok, Prod.mk.injEq] at handled
  obtain ⟨_, _, rfl, _, rfl⟩ := handled
  obtain rfl := Except.ok.inj delivered
  exact reply_view replied

theorem deliverAll_outward (outward : ∀ sub ∈ msgs, isOutward sub.msg = true)
    (h : msgs.foldlM (chain.deliver (chain.call depth) sender) w = .ok w') : w'.view = w.view :=
  foldlM_invariant (P := fun m : World => m.view = w.view)
    (fun _ sub _ listed same ok => (deliver_outward (outward sub listed) ok).trans same) rfl h

/-! ## Lists of sub-accounts -/

theorem call_update {p : Addr} {action : UpdateSubAccountAction}
    (h : chain.call depth (.execute p info (.UpdateSubAccount action)) w = .ok w') :
    Updates w.view info.sender p action w'.view := by
  obtain ⟨below, s, t, msgs, found, updated, delivered⟩ := call_execute_eq_ok h
  obtain ⟨registered, rfl, rfl⟩ := Entry.handleSubAccountAction_eq_ok updated
  obtain rfl := Except.ok.inj delivered
  rw [view_save]
  exact .mk (nodes_of_lookup found) registered

theorem deliver_tellOwner {action : AccountSequence → UpdateSubAccountAction} {id : AccountId}
    {gov : GovernanceDetails Addr}
    (h : (tellOwner action id gov).foldlM (chain.deliver (chain.call depth) sender) w = .ok w') :
    Told w.view sender action id gov w'.view := by
  cases gov with
  | SubAccount p =>
    obtain ⟨c, received, called⟩ := deliver_single h
    obtain rfl := Except.ok.inj received
    exact call_update called
  | _ =>
    obtain rfl := Except.ok.inj h
    rfl

/-! ## The registry -/

theorem view_registry {r : RegistryState} {id : AccountId}
    (stored : r.accountAddresses = w.registry.accountAddresses.insert id.storageKey account) :
    ({ w with registry := r } : World).view = w.view.register id account := by
  simp only [World.view, View.register, View.mk.injEq, true_and]
  funext key
  rw [stored, lookup_insert_ite, Function.update_apply]

theorem call_registry {msg : Registry.ExecuteMsg}
    (h : chain.call depth (.registry info msg) w = .ok w') :
    (∃ ns creator n, msg = .AddAccount ns creator ∧ w.view.nodes info.sender = some n ∧
      n.id.trace.verify = .ok () ∧ w.view.registered n.id.storageKey = none ∧
      w'.view = w.view.register n.id info.sender) ∨
    (∀ ns creator, msg ≠ .AddAccount ns creator) ∧ w'.view = w.view := by
  obtain ⟨below, w₁, sender, msgs, handled, delivered⟩ := call_eq_ok h
  simp only [ChainView.handle, bind_eq_ok, mapError_eq_ok, pure_eq_ok, Prod.mk.injEq] at handled
  obtain ⟨⟨r, sent⟩, executed, rfl, _, rfl⟩ := handled
  obtain rfl := Except.ok.inj delivered
  by_cases adds : ∃ ns creator, msg = .AddAccount ns creator
  · obtain ⟨ns, creator, rfl⟩ := adds
    obtain ⟨id, reported, verified, unregistered, stored⟩ := Registry.execute_addAccount rfl executed
    obtain ⟨n, found, rfl⟩ := node_of_queryAccountId reported
    exact .inl ⟨ns, creator, n, rfl, found, verified, unregistered, view_registry stored⟩
  · push Not at adds
    refine .inr ⟨adds, ?_⟩
    simp only [World.view, Registry.execute_accountAddresses adds executed]

/-! ## Creating accounts -/

theorem installAtCreation_eq_ok {env : CallEnv} {modules : List ModuleInstallConfig}
    {t t' : AccountState} {required : List Coin}
    (h : Entry.installAtCreation env modules t = .ok (t', required, msgs)) :
    t'.accountId = t.accountId ∧ t'.ownership = t.ownership ∧
      ∀ sub ∈ msgs, isOutward sub.msg = true := by
  unfold Entry.installAtCreation at h
  split at h
  · simp only [Except.ok.injEq, Prod.mk.injEq] at h
    obtain ⟨rfl, _, rfl⟩ := h
    exact ⟨rfl, rfl, by simp⟩
  · simp only [installModulesInternal, bind_eq_ok, pure_eq_ok, Prod.mk.injEq] at h
    obtain ⟨_, _, ⟨_, _⟩, ⟨_, _, _, listed, _, stored, rfl, _⟩, rfl, _, rfl⟩ := h
    obtain ⟨_, rfl⟩ := updateWhitelistedModules_eq_ok listed
    obtain rfl := updateModuleAddresses_eq_ok stored
    exact ⟨rfl, rfl, by simp [SubMsg.withReply, isOutward]⟩

/-- A new account has no sub-accounts, is owned as the message says, and registers
    itself before it tells its owner. -/
theorem instantiate_eq_ok {env : CallEnv} {msg : InstantiateMsg}
    (h : Entry.instantiate env info msg = .ok (s, msgs)) :
    s.accountId = msg.accountId.getD (.ofLocal env.registry.localAccountSequence) ∧
      s.subAccounts = ∅ ∧ s.ownership.pendingOwner = none ∧
      (∃ owner : GovernanceDetails String, owner.verify env.deps = .ok s.ownership.owner) ∧
      ∃ ns creator funds installs, (∀ sub ∈ installs, isOutward sub.msg = true) ∧
        msgs = .new (.AddAccount ns creator funds) ::
          (tellOwner .RegisterSubAccount s.accountId s.ownership.owner ++ installs) := by
  simp only [Entry.instantiate, initializeOwner, bind_eq_ok, mapError_eq_ok, pure_eq_ok,
    Prod.mk.injEq] at h
  obtain ⟨_, _, _, _, _, _, _, _, _, _, ownership, ⟨owner, verified, rfl⟩,
    ⟨state, required, installs⟩, installed, _, _, _, _, _, _, _, _, rfl, rfl⟩ := h
  obtain ⟨sameId, sameOwner, outward⟩ := installAtCreation_eq_ok installed
  dsimp only at sameId sameOwner
  rw [sameId, sameOwner]
  exact ⟨rfl, rfl, rfl, ⟨_, verified⟩, _, _, _, installs, outward, rfl⟩

theorem call_instantiate {msg : InstantiateMsg}
    (h : chain.call depth (.instantiate account info msg) w = .ok w') :
    ∃ n, NewAccount w.view account n ∧
      n.id = msg.accountId.getD (.ofLocal w.registry.localAccountSequence) ∧
      Told ((w.view.set account n).register n.id account) account .RegisterSubAccount n.id
        n.ownership.owner w'.view := by
  obtain ⟨below, w₁, sender, msgs, handled, delivered⟩ := call_eq_ok h
  simp only [ChainView.handle, bind_eq_ok, ensure_eq_ok, mapError_eq_ok, pure_eq_ok,
    Prod.mk.injEq] at handled
  obtain ⟨_, free, ⟨s, sent⟩, executed, rfl, rfl, rfl⟩ := handled
  obtain ⟨id, noSubAccounts, noPending, ⟨owner, verified⟩, ns, creator, funds, installs, outward,
    rfl⟩ := instantiate_eq_ok executed
  have fresh : w.view.nodes account = none := by
    cases stored : w.accounts.lookup account with
    | none => simp [World.view, stored]
    | some s => simp [ChainView.contract, stored] at free
  -- the account registers itself
  obtain ⟨w₂, added, delivered⟩ := foldlM_cons_eq_ok.mp delivered
  obtain ⟨c', received, called⟩ := deliver_new added
  obtain rfl := Except.ok.inj received
  obtain ⟨_, _, n, _, found, idVerified, unregistered, registered⟩ | ⟨other, _⟩ := call_registry called
  swap
  · exact absurd rfl (other ns creator)
  rw [view_save] at found unregistered registered
  obtain rfl : Entry.node s = n := by simpa [View.set] using found
  -- it tells its owner, and what it installs is other contracts
  rw [List.foldlM_append] at delivered
  obtain ⟨w₃, told, installed⟩ := bind_eq_ok.mp delivered
  have joined := deliver_tellOwner told
  rw [registered, ← deliverAll_outward outward installed] at joined
  exact ⟨Entry.node s, ⟨fresh, noSubAccounts, noPending,
    fun p isParent => known_of_verify verified isParent, idVerified, unregistered⟩, id, joined⟩

/-! ## Ownership -/

/-- The parts of an ownership action: what it sends, and the record after it. -/
theorem call_ownership {action : GovAction}
    (h : chain.call depth (.execute account info (.UpdateOwnership action)) w = .ok w') :
    ∃ below s o msgs, w.accounts.lookup account = some s ∧
      Entry.ownershipMsgs (chain.env w account) action s = .ok msgs ∧
      updateOwnership (chain.deps w) chain.block info.sender action s.ownership = .ok o ∧
      ∃ w₁ : World, w₁.view = w.view.set account { Entry.node s with ownership := o } ∧
        msgs.foldlM (chain.deliver (chain.call below) account) w₁ = .ok w' := by
  obtain ⟨below, s, t, msgs, found, updated, delivered⟩ := call_execute_eq_ok h
  simp only [Entry.handle, Entry.updateOwnership, bind_eq_ok, mapError_eq_ok, pure_eq_ok,
    Prod.mk.injEq] at updated
  obtain ⟨_, told, o, changed, rfl, rfl⟩ := updated
  exact ⟨below, s, o, _, found, told, changed, _, view_save _ _ _, delivered⟩

theorem call_ownership_moves {action : GovAction}
    (h : chain.call depth (.execute account info (.UpdateOwnership action)) w = .ok w') :
    Moves w.view (.execute account info (.UpdateOwnership action)) w'.view := by
  obtain ⟨below, s, o, msgs, found, told, changed, w₁, saved, delivered⟩ := call_ownership h
  have found := nodes_of_lookup found
  cases action with
  | TransferOwnership newOwner expiry =>
    obtain rfl := Except.ok.inj told
    obtain rfl := Except.ok.inj delivered
    simp only [updateOwnership, transferOwnership, bind_eq_ok, mapError_eq_ok, pure_eq_ok] at changed
    obtain ⟨gov, verified, _, _, _, _, rfl⟩ := changed
    rw [saved]
    exact .propose found fun p isParent => known_of_verify verified isParent
  | AcceptOwnership =>
    simp only [Entry.ownershipMsgs, maybeUpdateSubAccountGovernance, bind_eq_ok, okOr_eq_ok,
      pure_eq_ok] at told
    obtain ⟨pending, isPending, rfl⟩ := told
    simp only [updateOwnership, acceptOwnership, bind_eq_ok, okOr_eq_ok, pure_eq_ok] at changed
    obtain ⟨gov, isGov, _, _, _, _, _, _, _, _, rfl⟩ := changed
    obtain rfl : pending = gov := Option.some.inj (isPending.symm.trans isGov)
    rw [List.foldlM_append] at delivered
    obtain ⟨w₂, left, joined⟩ := bind_eq_ok.mp delivered
    have left := deliver_tellOwner left
    rw [saved] at left
    exact .accept found isPending left (deliver_tellOwner joined)
  | RenounceOwnership =>
    simp only [Entry.ownershipMsgs, removeAccountFromContracts, bind_eq_ok, pure_eq_ok] at told
    obtain ⟨_, _, _, _, rfl⟩ := told
    simp only [updateOwnership, renounceOwnership, bind_eq_ok, pure_eq_ok] at changed
    obtain ⟨_, _, rfl⟩ := changed
    rw [List.foldlM_append] at delivered
    obtain ⟨w₂, left, forgone⟩ := bind_eq_ok.mp delivered
    have left := deliver_tellOwner left
    -- giving up the namespace registers no address
    have same : w'.view = w₂.view := by
      split at forgone
      · obtain ⟨c, received, called⟩ := deliver_single forgone
        obtain rfl := Except.ok.inj received
        rcases call_registry called with ⟨_, _, _, adds, _⟩ | ⟨_, same⟩
        · cases adds
        · exact same
      · obtain rfl := Except.ok.inj forgone
        rfl
    rw [saved, ← same] at left
    exact .renounce found left

/-! ## Transactions -/

theorem createSubAccount_eq_ok {env : CallEnv} {name description link ns : Option String}
    {modules : List ModuleInstallConfig} {id : Option AccountSequence} {sent : OutMsg}
    (h : createSubAccount env info name description link ns modules id s = .ok (s, [.new sent])) :
    ∃ admin codeId label msg funds salt, sent = .Instantiate2 admin codeId label msg funds salt := by
  simp only [createSubAccount, bind_eq_ok, pure_eq_ok, Prod.mk.injEq, List.cons.injEq, SubMsg.new,
    SubMsg.mk.injEq, and_true, true_and] at h
  obtain ⟨_, _, _, _, _, _, _, _, rfl⟩ := h
  exact ⟨_, _, _, _, _, _, rfl⟩

theorem call_execute_moves {msg : Entry.ExecuteMsg}
    (h : chain.call depth (.execute account info msg) w = .ok w') :
    Moves w.view (.execute account info msg) w'.view := by
  obtain ⟨below, s, t, sent, found, handled, delivered⟩ := call_execute_eq_ok h
  -- a message that neither writes the node nor sends anything to accounts changes nothing
  have kept : Entry.node t = Entry.node s → (∀ sub ∈ sent, isOutward sub.msg = true) →
      Moves w.view (.execute account info msg) w'.view := by
    intro same outward
    rw [deliverAll_outward outward delivered]
    rw [view_save_same (Entry.dropAuthAdmin (chain.env w account) t) found same]
    exact .keep
  cases Entry.handle_effect handled with
  | forward chainMsgs reply => exact kept rfl (by simp [isOutward])
  | subAccount action => exact .update (call_update h)
  | ownership => exact call_ownership_moves h
  | admin addr execMsg => exact kept rfl (by simp [SubMsg.withReply, isOutward])
  | upgrade owner upgraded =>
    refine kept ?_ replyToLast_outward
    rw [upgradeModules_frame upgraded]
    rfl
  | create owner created =>
    obtain ⟨admin, codeId, label, msg, funds, salt, rfl⟩ := createSubAccount_eq_ok created
    obtain ⟨c, received, called⟩ := deliver_single delivered
    simp only [ChainView.received, bind_eq_ok, pure_eq_ok] at received
    obtain ⟨_, _, new, _, rfl⟩ := received
    rw [← view_save_same (Entry.dropAuthAdmin (chain.env w account) s) found rfl]
    obtain ⟨n, isNew, _, joined⟩ := call_instantiate called
    exact .create isNew joined
  | owned owner same flag sends =>
    refine kept same fun sub member => ?_
    obtain ⟨module, rfl⟩ := sends sub member
    rfl

/-- A transaction makes one of the moves. -/
theorem call_moves {c : Call} (h : chain.call depth c w = .ok w') : Moves w.view c w'.view := by
  cases c with
  | execute account info msg => exact call_execute_moves h
  | instantiate account info msg =>
    obtain ⟨n, isNew, _, joined⟩ := call_instantiate h
    exact .create isNew joined
  | registry info msg =>
    rcases call_registry h with ⟨_, _, n, _, found, verified, unregistered, registered⟩ | ⟨_, same⟩
    · rw [registered]
      exact .enlist found verified unregistered
    · rw [same]
      exact .keep
  | beforeTx account =>
    obtain ⟨below, w₁, sender, msgs, handled, delivered⟩ := call_eq_ok h
    simp only [ChainView.handle, bind_eq_ok, load_eq_ok, pure_eq_ok, Prod.mk.injEq] at handled
    obtain ⟨s, found, rfl, _, rfl⟩ := handled
    obtain rfl := Except.ok.inj delivered
    rw [view_save_same { s with authAdmin := some true } found rfl]
    exact .keep
  | other msg =>
    obtain ⟨below, w₁, sender, msgs, handled, delivered⟩ := call_eq_ok h
    simp only [ChainView.handle, bind_eq_ok, pure_eq_ok, Prod.mk.injEq] at handled
    obtain ⟨_, _, rfl, _, rfl⟩ := handled
    obtain rfl := Except.ok.inj delivered
    exact .keep

theorem exec_moves {tx : Tx} {u : Unit} (h : exec tx w = .ok (w', u)) :
    Moves w.view tx.call w'.view := by
  simp only [exec, bind_eq_ok, pure_eq_ok, Prod.mk.injEq] at h
  obtain ⟨_, called, rfl, _⟩ := h
  exact call_moves called

end Inversion

end AbstractFramework.Accounts
