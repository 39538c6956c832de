import AbstractFramework.Registry.Accounts
import AbstractFramework.Accounts.Hierarchy

/-! # The index of sub-accounts

Every account keeps a list of the accounts it owns.  The list mirrors what those
accounts say of themselves: it is written by messages that they send when their
ownership changes.  An account takes such a message from anyone who is registered
under the id, also when nothing has changed.  `Indexed` is the invariant of the
runs in which the messages that accounts send on their own say what is the case.
-/

namespace AbstractFramework.Accounts

open AbstractFramework Fallible Storage Account Machine

section Index

variable [Crates]

namespace View

/-- The account `p` has the id on its list. -/
def Lists (v : View) (p : Addr) (id : AccountSequence) : Prop :=
  ∃ n, v.nodes p = some n ∧ id ∈ n.subAccounts

/-- The account that is registered under the local id is owned by `p`. -/
def Owns (v : View) (p : Addr) (id : AccountSequence) : Prop :=
  ∃ a, v.localAccount id = some a ∧ parentOf v.ownership a = some p

def ids (v : View) (a : Addr) : Option AccountId := (v.nodes a).map (·.id)

end View

/-! ## Writing a node -/

section Writes

variable {v v' : View} {a p : Addr} {n : Entry.Node}

theorem ids_set : (v.set a n).ids = Function.update v.ids a (some n.id) := by
  funext b
  by_cases same : b = a
  · subst same
    simp [View.ids, View.set]
  · simp [View.ids, View.set, same]

theorem ids_of_node (found : v.nodes a = some n) : v.ids a = some n.id := by
  simp [View.ids, found]

theorem lists_set {id : AccountSequence} :
    (v.set a n).Lists p id ↔ (p = a ∧ id ∈ n.subAccounts) ∨ (p ≠ a ∧ v.Lists p id) := by
  by_cases same : p = a
  · subst same
    simp [View.Lists, View.set]
  · simp [View.Lists, View.set, same]

theorem lists_of_node {id : AccountSequence} (found : v.nodes a = some n) :
    v.Lists a id ↔ id ∈ n.subAccounts := by
  simp [View.Lists, found]

/-- The ids and lists stay when only the ownership of an account is written. -/
theorem ids_set_ownership (found : v.nodes a = some n) (r : Ownership) :
    (v.set a { n with ownership := r }).ids = v.ids := by
  rw [ids_set]
  exact Function.update_eq_self_iff.mpr (ids_of_node found).symm

theorem lists_set_ownership (found : v.nodes a = some n) (r : Ownership) {id : AccountSequence} :
    (v.set a { n with ownership := r }).Lists p id ↔ v.Lists p id := by
  rw [lists_set]
  by_cases same : p = a
  · subst same
    simp [lists_of_node found]
  · simp [same]

/-- Only the lists differ. -/
structure SameButLists (v v' : View) : Prop where
  ids : v'.ids = v.ids
  ownership : v'.ownership = v.ownership
  registered : v'.registered = v.registered

theorem SameButLists.refl (v : View) : SameButLists v v := ⟨rfl, rfl, rfl⟩

/-- Whether an id is on a list after an action, from whether it was and whether the
    action is about it. -/
def ListedAfter (before isIt : Prop) : UpdateSubAccountAction → Prop
  | .UnregisterSubAccount _ => before ∧ ¬ isIt
  | .RegisterSubAccount _ => before ∨ isIt

omit [Crates] in
theorem listedAfter_false {before isIt : Prop} (notIt : ¬ isIt) (action : UpdateSubAccountAction) :
    ListedAfter before isIt action ↔ before := by
  cases action with
  | UnregisterSubAccount id => simp [ListedAfter, notIt]
  | RegisterSubAccount id => simp [ListedAfter, notIt]

omit [Crates] in
theorem mem_listAfter {list : Map AccountSequence Unit} {action : UpdateSubAccountAction}
    {id : AccountSequence} :
    id ∈ listAfter list action ↔ ListedAfter (id ∈ list) (id = actionId action) action := by
  cases action with
  | UnregisterSubAccount listed => simp [listAfter, ListedAfter, actionId, AList.mem_erase, and_comm]
  | RegisterSubAccount listed => simp [listAfter, ListedAfter, actionId, AList.mem_insert, or_comm]

/-- A written list differs from the one before in one id. -/
theorem Updates.lists {sender : Addr} {action : UpdateSubAccountAction}
    (updates : Updates v sender p action v') :
    SameButLists v v' ∧ v.localAccount (actionId action) = some sender ∧
      ∀ q id, v'.Lists q id ↔ ListedAfter (v.Lists q id) (q = p ∧ id = actionId action) action := by
  have ownership := updates.ownership_eq
  obtain ⟨found, isSender⟩ := updates
  refine ⟨⟨?_, ownership, rfl⟩, isSender, ?_⟩
  · rw [ids_set]
    exact Function.update_eq_self_iff.mpr (ids_of_node found).symm
  · intro q id
    rw [lists_set]
    by_cases same : q = p
    · subst same
      simp [lists_of_node found, mem_listAfter]
    · simp [same, listedAfter_false]

/-- The list of the owner is written, if the owner is an account. -/
theorem Told.lists {sender : Addr} {action : AccountSequence → UpdateSubAccountAction}
    {id : AccountId} {gov : GovernanceDetails Addr} (told : Told v sender action id gov v') :
    SameButLists v v' ∧
      (∀ q, gov = .SubAccount q → v.localAccount (actionId (action id.seq)) = some sender) ∧
      ∀ q i, v'.Lists q i ↔ ListedAfter (v.Lists q i)
        (gov = .SubAccount q ∧ i = actionId (action id.seq)) (action id.seq) := by
  cases gov with
  | SubAccount p =>
    obtain ⟨same, isSender, lists⟩ := Updates.lists told
    refine ⟨same, fun _ _ => isSender, fun q i => ?_⟩
    rw [lists q i, GovernanceDetails.SubAccount.injEq, eq_comm (a := p)]
  | _ =>
    obtain rfl : v' = v := told
    exact ⟨.refl v', by simp, by simp [listedAfter_false]⟩

end Writes

/-! ## The invariant -/

/-- Accounts and their ids are registered one to one, and every account lists the
    accounts that it owns. -/
structure Indexed (v : View) : Prop where
  known : Known v.ownership
  named : ∀ {a id}, v.ids a = some id →
    id.trace.verify = .ok () ∧ v.registered id.storageKey = some a
  held : ∀ {key a}, v.registered key = some a → ∃ id, v.ids a = some id ∧ id.storageKey = key
  lists_iff : ∀ p id, v.Lists p id ↔ v.Owns p id

namespace Indexed

variable {v v' : View} {a p : Addr} {n : Entry.Node} {r : Ownership} {i : AccountSequence}

/-- The account that is registered under a local id has the id. -/
theorem id_of_localAccount (indexed : Indexed v) (isLocal : v.localAccount i = some a) :
    v.ids a = some (.ofLocal i) := by
  obtain ⟨id, has, same⟩ := indexed.held isLocal
  obtain rfl := Registry.ofLocal_of_storageKey (indexed.named has).1 same.symm
  exact has

theorem seq_of_localAccount (indexed : Indexed v) (found : v.nodes a = some n)
    (isLocal : v.localAccount i = some a) : i = n.id.seq := by
  have has := indexed.id_of_localAccount isLocal
  rw [ids_of_node found, Option.some.injEq] at has
  rw [has]
  rfl

/-- Whom an account is owned by, when it is the registered one. -/
theorem owns_iff (found : v.ownership a = some r) (isLocal : v.localAccount i = some a) :
    v.Owns p i ↔ r.owner = .SubAccount p := by
  constructor
  · rintro ⟨b, isLocal', parent⟩
    obtain rfl : a = b := Option.some.inj (isLocal.symm.trans isLocal')
    obtain ⟨r', found', owner⟩ := parentOf_eq_some.mp parent
    rw [found, Option.some.injEq] at found'
    exact found' ▸ owner
  · intro owner
    exact ⟨a, isLocal, parentOf_eq_some.mpr ⟨r, found, owner⟩⟩

/-- Writing the record of one account changes who owns the ids of no other. -/
theorem owns_update (registered : v'.localAccount i = v.localAccount i)
    (written : v'.ownership = Function.update v.ownership a (some r))
    (other : v.localAccount i ≠ some a) : v'.Owns p i ↔ v.Owns p i := by
  unfold View.Owns
  rw [registered, written]
  refine exists_congr fun b => and_congr_right fun isLocal => ?_
  have different : b ≠ a := by
    rintro rfl
    exact other isLocal
  simp [parentOf, different]

/-- An account changes hands, and both owners are told. -/
theorem reowned (indexed : Indexed v) (found : v.nodes a = some n) (ids : v'.ids = v.ids)
    (registered : v'.registered = v.registered)
    (written : v'.ownership = Function.update v.ownership a (some r))
    (known : Known v'.ownership)
    (left : ∀ q, n.ownership.owner = .SubAccount q → v.localAccount n.id.seq = some a)
    (joined : ∀ q, r.owner = .SubAccount q → v.localAccount n.id.seq = some a)
    (lists : ∀ q i, v'.Lists q i ↔
      (v.Lists q i ∧ ¬ (n.ownership.owner = .SubAccount q ∧ i = n.id.seq)) ∨
        (r.owner = .SubAccount q ∧ i = n.id.seq)) : Indexed v' := by
  refine ⟨known, ?_, ?_, ?_⟩
  · intro b id
    rw [ids, registered]
    exact indexed.named
  · intro key b
    rw [ids, registered]
    exact indexed.held
  · intro q i
    rw [lists q i, indexed.lists_iff q i]
    have sameLocal : v'.localAccount i = v.localAccount i := by
      rw [View.localAccount, registered, View.localAccount]
    by_cases here : v.localAccount i = some a
    · -- the id is that of the account, which the old owner had listed and the new one lists
      have seq := indexed.seq_of_localAccount found here
      have here' : v'.localAccount i = some a := sameLocal.trans here
      have now : v'.ownership a = some r := by rw [written, Function.update_self]
      rw [owns_iff (ownership_of_node found) here, owns_iff now here']
      simp [seq]
    · have notOld : ¬ (n.ownership.owner = .SubAccount q ∧ i = n.id.seq) := by
        rintro ⟨owner, rfl⟩
        exact here (left q owner)
      have notNew : ¬ (r.owner = .SubAccount q ∧ i = n.id.seq) := by
        rintro ⟨owner, rfl⟩
        exact here (joined q owner)
      rw [owns_update sameLocal written here]
      simp [notOld, notNew]

/-- A transfer that is only proposed changes nothing. -/
theorem proposed (indexed : Indexed v) (found : v.nodes a = some n)
    (owner : r.owner = n.ownership.owner)
    (known : Known (v.set a { n with ownership := r }).ownership) :
    Indexed (v.set a { n with ownership := r }) := by
  have parents : parentOf (v.set a { n with ownership := r }).ownership = parentOf v.ownership := by
    funext b
    rw [ownership_set]
    by_cases same : b = a
    · subst same
      simp [parentOf, owner, ownership_of_node found]
    · simp [parentOf, same]
  refine ⟨known, ?_, ?_, ?_⟩
  · rw [ids_set_ownership found]
    exact indexed.named
  · rw [ids_set_ownership found]
    exact indexed.held
  · intro q i
    rw [lists_set_ownership found, indexed.lists_iff q i, View.Owns, View.Owns, parents]
    rfl

/-- A list is written that was right before, and that stays right. -/
theorem relisted (indexed : Indexed v) (same : SameButLists v v')
    (lists : ∀ q i, v'.Lists q i ↔ v.Lists q i) : Indexed v' := by
  refine ⟨same.ownership ▸ indexed.known, ?_, ?_, ?_⟩
  · intro b id
    rw [same.ids, same.registered]
    exact indexed.named
  · intro key b
    rw [same.ids, same.registered]
    exact indexed.held
  · intro q i
    rw [lists q i, indexed.lists_iff q i, View.Owns, View.Owns, View.localAccount,
      View.localAccount, same.registered, same.ownership]

/-! ### A new account -/

theorem unheld (indexed : Indexed v) (fresh : v.nodes a = none) (key : AccountKey) :
    v.registered key ≠ some a := by
  intro isRegistered
  obtain ⟨id, has, _⟩ := indexed.held isRegistered
  simp [View.ids, fresh] at has

theorem named_register (indexed : Indexed v) (new : NewAccount v a n) {b : Addr} {id : AccountId}
    (has : Function.update v.ids a (some n.id) b = some id) :
    id.trace.verify = .ok () ∧
      Function.update v.registered n.id.storageKey (some a) id.storageKey = some b := by
  by_cases here : b = a
  · subst here
    rw [Function.update_self, Option.some.injEq] at has
    subst has
    exact ⟨new.verified, Function.update_self ..⟩
  · rw [Function.update_of_ne here] at has
    obtain ⟨verified, isRegistered⟩ := indexed.named has
    have otherKey : id.storageKey ≠ n.id.storageKey := by
      intro sameKey
      rw [sameKey, new.unregistered] at isRegistered
      cases isRegistered
    exact ⟨verified, by rw [Function.update_of_ne otherKey]; exact isRegistered⟩

theorem held_register (indexed : Indexed v) (new : NewAccount v a n) {b : Addr} {key : AccountKey}
    (isRegistered : Function.update v.registered n.id.storageKey (some a) key = some b) :
    ∃ id, Function.update v.ids a (some n.id) b = some id ∧ id.storageKey = key := by
  by_cases sameKey : key = n.id.storageKey
  · subst sameKey
    rw [Function.update_self, Option.some.injEq] at isRegistered
    subst isRegistered
    exact ⟨n.id, Function.update_self .., rfl⟩
  · rw [Function.update_of_ne sameKey] at isRegistered
    have other : b ≠ a := by
      rintro rfl
      exact indexed.unheld new.fresh key isRegistered
    rw [Function.update_of_ne other]
    exact indexed.held isRegistered

/-- Neither the new account nor anyone else lists anything else than before. -/
theorem lists_new (new : NewAccount v a n) : (v.set a n).Lists p i ↔ v.Lists p i := by
  rw [lists_set, new.noSubAccounts]
  by_cases here : p = a
  · subst here
    simp [View.Lists, new.fresh]
  · simp [here]

/-- A new account is registered and told to its owner. -/
theorem created (indexed : Indexed v) (new : NewAccount v a n) (known : Known v'.ownership)
    (joined : Told ((v.set a n).register n.id a) a .RegisterSubAccount n.id n.ownership.owner v') :
    Indexed v' := by
  obtain ⟨same, isSender, lists⟩ := joined.lists
  simp only [ListedAfter, actionId] at isSender lists
  have ids : v'.ids = Function.update v.ids a (some n.id) := same.ids.trans ids_set
  have ownership : v'.ownership = Function.update v.ownership a (some n.ownership) :=
    same.ownership.trans (ownership_set v a n)
  have registered : v'.registered = Function.update v.registered n.id.storageKey (some a) :=
    same.registered
  refine ⟨known, ?_, ?_, ?_⟩
  · intro b id
    rw [ids, registered]
    exact indexed.named_register new
  · intro key b
    rw [ids, registered]
    exact indexed.held_register new
  · intro q i
    have before : ((v.set a n).register n.id a).Lists q i ↔ v.Lists q i := lists_new new
    rw [lists q i, before, indexed.lists_iff q i]
    by_cases sameKey : (AccountId.ofLocal i).storageKey = n.id.storageKey
    · -- the id is the new one, which nobody had before
      have isNew : v'.localAccount i = some a := by
        rw [View.localAccount, registered, sameKey, Function.update_self]
      have noOwner : ¬ v.Owns q i := by
        rintro ⟨b, isLocal, _⟩
        rw [View.localAccount, sameKey, new.unregistered] at isLocal
        cases isLocal
      have seq : i = n.id.seq := by
        rw [Registry.ofLocal_of_storageKey new.verified sameKey]
        rfl
      have now : v'.ownership a = some n.ownership := by rw [ownership, Function.update_self]
      rw [owns_iff now isNew]
      simp [noOwner, ← seq]
    · have sameLocal : v'.localAccount i = v.localAccount i := by
        rw [View.localAccount, registered, Function.update_of_ne sameKey, View.localAccount]
      have unheld := indexed.unheld new.fresh (AccountId.ofLocal i).storageKey
      have notNew : ¬ (n.ownership.owner = .SubAccount q ∧ i = n.id.seq) := by
        rintro ⟨owner, rfl⟩
        have isLocal := isSender q owner
        rw [View.localAccount, ← same.registered, ← View.localAccount, sameLocal] at isLocal
        exact unheld isLocal
      rw [owns_update sameLocal ownership unheld]
      simp [notNew]

end Indexed

/-! ## Moves -/

/-- What the sender of a message about its own id says is the case. -/
def Truthful (v : View) (p sender : Addr) : UpdateSubAccountAction → Prop
  | .RegisterSubAccount _ => parentOf v.ownership sender = some p
  | .UnregisterSubAccount _ => parentOf v.ownership sender ≠ some p

theorem Indexed.updated {v v' : View} {sender p : Addr} {action : UpdateSubAccountAction}
    (indexed : Indexed v) (truthful : Truthful v p sender action) (updates : Updates v sender p action v') :
    Indexed v' := by
  obtain ⟨same, isSender, lists⟩ := updates.lists
  refine indexed.relisted same fun q i => ?_
  rw [lists q i]
  cases action with
  | RegisterSubAccount id =>
    have listed : v.Lists p id := (indexed.lists_iff p id).mpr ⟨sender, isSender, truthful⟩
    refine ⟨?_, .inl⟩
    rintro (before | ⟨rfl, rfl⟩)
    · exact before
    · exact listed
  | UnregisterSubAccount id =>
    refine ⟨And.left, fun before => ⟨before, ?_⟩⟩
    rintro ⟨rfl, rfl⟩
    obtain ⟨b, isLocal, parent⟩ := (indexed.lists_iff q i).mp before
    obtain rfl : sender = b := Option.some.inj (isSender.symm.trans isLocal)
    exact truthful parent

/-- A move keeps the invariant, unless an account says of itself what is not the case. -/
theorem Indexed.moves [Xion] {v v' : View} {c : Call} (indexed : Indexed v)
    (truthful : ∀ p info action, c = .execute p info (.UpdateSubAccount action) →
      v.localAccount (actionId action) = some info.sender → Truthful v p info.sender action)
    (moves : Moves v c v') : Indexed v' := by
  have known := indexed.known.moves moves
  cases moves with
  | keep => exact indexed
  | propose found isKnown => exact indexed.proposed found rfl known
  | accept found isPending left joined =>
    obtain ⟨same₁, isOld, lists₁⟩ := left.lists
    obtain ⟨same₂, isNew, lists₂⟩ := joined.lists
    simp only [ListedAfter, actionId] at isOld isNew lists₁ lists₂
    have written := (same₂.ownership.trans same₁.ownership).trans (ownership_set ..)
    refine indexed.reowned found ?_ ?_ written known isOld ?_ ?_
    · rw [same₂.ids, same₁.ids, ids_set_ownership found]
    · rw [same₂.registered, same₁.registered]
      rfl
    · intro q owner
      have isLocal := isNew q owner
      rw [View.localAccount, same₁.registered] at isLocal
      exact isLocal
    · intro q i
      rw [lists₂ q i, lists₁ q i, lists_set_ownership found]
  | renounce found left =>
    obtain ⟨same, isOld, lists⟩ := left.lists
    simp only [ListedAfter, actionId] at isOld lists
    have written := same.ownership.trans (ownership_set ..)
    refine indexed.reowned found ?_ same.registered written known isOld ?_ ?_
    · rw [same.ids, ids_set_ownership found]
    · intro q owner
      cases owner
    · intro q i
      rw [lists q i, lists_set_ownership found]
      simp
  | update updates =>
    obtain ⟨_, isSender, _⟩ := updates.lists
    exact indexed.updated (truthful _ _ _ rfl isSender) updates
  | create new joined => exact indexed.created new known joined
  | enlist found verified unregistered =>
    rw [(indexed.named (ids_of_node found)).2] at unregistered
    cases unregistered

/-! ## Runs -/

variable [Xion]

/-- The account `p` has the id in its `SUB_ACCOUNTS`. -/
def World.Lists (w : World) (p : Addr) (id : AccountSequence) : Prop :=
  ∃ s, w.accounts.lookup p = some s ∧ id ∈ s.subAccounts

def World.localAccount (w : World) (id : AccountSequence) : Option Addr :=
  w.registry.accountAddresses.lookup (AccountId.ofLocal id).storageKey

/-- A registered account tells another one on its own that it is its sub-account only
    while this is so, and that it is not only while it is not. -/
def UpdatesTruthfully (w : World) (tx : Tx) : Prop :=
  ∀ p info action, tx.call = .execute p info (.UpdateSubAccount action) →
    w.localAccount (actionId action) = some info.sender →
      match action with
      | .RegisterSubAccount _ => w.OwnedBy info.sender p
      | .UnregisterSubAccount _ => ¬ w.OwnedBy info.sender p

theorem lists_view {w : World} {p : Addr} {id : AccountSequence} :
    w.view.Lists p id ↔ w.Lists p id := by
  simp only [View.Lists, World.Lists, World.view, Option.map_eq_some_iff]
  constructor
  · rintro ⟨_, ⟨s, found, rfl⟩, listed⟩
    exact ⟨s, found, listed⟩
  · rintro ⟨s, found, listed⟩
    exact ⟨_, ⟨s, found, rfl⟩, listed⟩

theorem indexed_instantiate {deps : Deps} {msg : Registry.InstantiateMsg} {r : RegistryState}
    (init : Registry.instantiate deps msg = .ok r) : Indexed (World.mk ∅ r).view := by
  have empty : r.accountAddresses = ∅ := by
    simp only [Registry.instantiate, bind_eq_ok, mapError_eq_ok, pure_eq_ok] at init
    obtain ⟨_, _, _, _, rfl⟩ := init
    rfl
  refine ⟨known_empty, ?_, ?_, ?_⟩
  · intro a id has
    cases has
  · intro key a isRegistered
    simp [World.view, empty] at isRegistered
  · intro p id
    simp [View.Lists, View.Owns, View.localAccount, World.view, empty]

/-- In every run from a new registry in which accounts tell each other on their own
    only what is the case, up to what is refused, after every transaction: an account has an id in its
    `SUB_ACCOUNTS` exactly when it owns the account that is registered under the id. -/
theorem sub_account_index_exact {deps : Deps} {msg : Registry.InstantiateMsg} {r : RegistryState}
    (init : Registry.instantiate deps msg = .ok r) {txs : List Tx}
    (along : AlongAccepted exec UpdatesTruthfully { accounts := ∅, registry := r } txs)
    (p : Addr) (id : AccountSequence) :
    let w := run exec { accounts := ∅, registry := r } txs
    w.Lists p id ↔ ∃ a, w.localAccount id = some a ∧ w.OwnedBy a p := by
  intro w
  have indexed : Indexed w.view := by
    refine run_invariant_accepted (P := fun w : World => Indexed w.view) ?_
      (indexed_instantiate init) along
    intro w tx w' u truthful indexed ok
    refine indexed.moves ?_ (exec_moves ok)
    intro p info action isUpdate isLocal
    have said := truthful p info action isUpdate isLocal
    rw [ownedBy_eq_under] at said
    cases action with
    | RegisterSubAccount id => exact said
    | UnregisterSubAccount id => exact said
  rw [← lists_view, indexed.lists_iff p id, ownedBy_eq_under]
  rfl

end Index

section Sample

attribute [local instance] accountCrates noAuthenticators

theorem instantiate_sampleRegistry :
    Registry.instantiate (sampleChain.deps sampleWorld)
      { admin := "adm", securityEnabled := some false, namespaceRegistrationFee := none } =
        .ok sampleRegistry :=
  rfl

/-- The second account is put below the first, which lists it. -/
theorem sub_account_index_exact_nested :
    (run exec sampleWorld (proposed ++ [acceptTx "b"])).Lists ⟨"a"⟩ 1 := by
  have along : Along exec UpdatesTruthfully sampleWorld (proposed ++ [acceptTx "b"]) := by
    refine ⟨?_, ?_, ?_, ?_, ?_, trivial⟩
    all_goals
      intro p info action isUpdate
      cases isUpdate
  refine (sub_account_index_exact instantiate_sampleRegistry along.accepted ⟨"a"⟩ 1).mpr
    ⟨⟨"b"⟩, ?_, ?_⟩
  · decide
  · unfold World.OwnedBy
    decide

/-- The account of another monarch puts itself on the list of the first account. -/
def listedByStranger : List Tx :=
  [publishTx, createTx "a" "m", createTx "b" "n",
    callTx "b" "a" (.UpdateSubAccount (.RegisterSubAccount 1))]

/-- The first account lists an account that it does not own, and its monarch cannot
    give it up. -/
theorem stranger_listed_as_sub_account :
    (run exec sampleWorld listedByStranger).Lists ⟨"a"⟩ 1 ∧
      ¬ (∃ x, (run exec sampleWorld listedByStranger).localAccount 1 = some x ∧
        (run exec sampleWorld listedByStranger).OwnedBy x ⟨"a"⟩) ∧
      (exec (callTx "m" "a" (.UpdateOwnership .RenounceOwnership))
        (run exec sampleWorld listedByStranger)).isOk = false := by
  refine ⟨?_, ?_, by decide⟩
  · have listed : ((run exec sampleWorld listedByStranger).accounts.lookup ⟨"a"⟩).any
        (1 ∈ ·.subAccounts) = true := by decide
    rw [Option.any_eq_true] at listed
    obtain ⟨s, found, mem⟩ := listed
    exact ⟨s, found, of_decide_eq_true mem⟩
  · rintro ⟨x, isLocal, owned⟩
    have stranger : (run exec sampleWorld listedByStranger).localAccount 1 = some ⟨"b"⟩ := by decide
    have owner : ((run exec sampleWorld listedByStranger).accounts.lookup ⟨"b"⟩).map
        (·.ownership.owner) = some (.Monarchy ⟨"n"⟩) := by decide
    obtain rfl : ⟨"b"⟩ = x := Option.some.inj (stranger.symm.trans isLocal)
    rw [World.OwnedBy, owner] at owned
    cases owned

end Sample

end AbstractFramework.Accounts
