import AbstractFramework.Lib.Calls
import AbstractFramework.Account.Contract

/-! # Trees of calls into one account

The account's entry points as work of the call machine.  A call of the account
sends messages; each is delivered with all that follows from it before the reply
that it asks for runs, and before the next message.  A message of the account to
itself is another call, with the account as the sender.  Any other code may call
the account back, any number of times and with any message, and may attempt work
that is rolled back when it fails.  What the chain looks like is different, and
arbitrary, in every call.

The chain knows an admin of the account's contract, who may migrate it to another
code, and make someone else the admin.  That may be the account itself, and then any
message that it sends can do so, or any other contract.  That the chain lets others act
as the account, on a grant of the account's, is left out.

The second part is about `CALLING_TO_AS_ADMIN`.  `AdminFlag` relates the flag to
the admin calls and upgrades that are in progress anywhere on the stack.
-/

namespace AbstractFramework.Account.Entry

open AbstractFramework Fallible Storage Calls Machine

section Program

variable [Crates] [Xion]

/-- What is fixed about an account during all calls. -/
structure Deployment where
  self : Addr
  xion : Bool
  /-- The message that bytes sent to the account stand for. -/
  decode : Binary → Option ExecuteMsg
  /-- `CONTRACT_VERSION` of the codes that are accounts. -/
  accountVersion : Nat → Option String
  /-- The migration of the account's storage by any other code. -/
  migrate : Nat → Binary → AccountStorage → Except StdError AccountStorage

/-- The account's contract: its storage, and the admin that the chain has for it. -/
structure ChainAccount extends AccountStorage where
  admin : Option Addr

/-- Work of the call machine. -/
inductive Item where
  | call (env : CallEnv) (info : MessageInfo) (msg : ExecuteMsg)
  /-- A migration of the account's contract. -/
  | migrate (sender : Addr) (codeId : Nat) (msg : Binary)
  /-- Another admin for the account's contract, or none. -/
  | updateAdmin (sender : Addr) (admin : Option Addr)
  /-- A message of the account that is to be delivered. -/
  | dispatch (sub : SubMsg)
  /-- The reply to a message, after the message. -/
  | awaiting (msg : OutMsg) (reply : Reply)
  /-- Code of other contracts, and the transactions at the bottom of the stack. -/
  | foreign

/-- Who calls the account, migrates it or changes its admin. -/
def Item.sender : Item → Option Addr
  | .call _ info _ => some info.sender
  | .migrate sender _ _ | .updateAdmin sender _ => some sender
  | .dispatch _ | .awaiting _ _ | .foreign => none

/-- The account's own view of the chain. -/
def Deployment.Here (d : Deployment) (env : CallEnv) : Prop :=
  env.address = d.self ∧ env.xion = d.xion

/-- A call of the account has its view of the chain. -/
def Deployment.Sees (d : Deployment) : Item → Prop
  | .call env _ _ => d.Here env
  | _ => True

/-- The contract that a message calls. -/
def recipient : OutMsg → Option Addr
  | .Chain (.Execute addr _ _) => some addr
  | .UpdateSubAccount account _ => some account
  | _ => none

/-- The contract that a message migrates, with the code and its message. -/
def migration : OutMsg → Option (Addr × Nat × Binary)
  | .Chain (.Migrate addr codeId msg) => some (addr, codeId, msg)
  | .Module (.Migrate addr codeId msg) => some (addr, codeId, msg)
  | _ => none

/-- The contract whose admin a message changes, with the new one. -/
def adminUpdate : OutMsg → Option (Addr × Option Addr)
  | .Chain (.UpdateAdmin addr admin) => some (addr, some admin)
  | .Chain (.ClearAdmin addr) => some (addr, none)
  | _ => none

/-- The message of the account's own that the recipient of a message decodes. -/
def Deployment.received (d : Deployment) : OutMsg → Option (ExecuteMsg × List Coin)
  | .Chain (.Execute _ bytes funds) => (d.decode bytes).map (·, funds)
  | .UpdateSubAccount _ action => some (.UpdateSubAccount action, [])
  | _ => none

/-- The work that the delivery of a message causes. -/
inductive Delivers (d : Deployment) : OutMsg → List Item → Prop where
  /-- A message to the account itself. -/
  | self {sent : OutMsg} {env : CallEnv} {msg : ExecuteMsg} {funds : List Coin}
      (toSelf : recipient sent = some d.self) (decoded : d.received sent = some (msg, funds))
      (here : d.Here env) : Delivers d sent [.call env { sender := d.self, funds } msg]
  /-- A migration of the account by itself. -/
  | migrate {sent : OutMsg} {codeId : Nat} {bytes : Binary}
      (migrates : migration sent = some (d.self, codeId, bytes)) :
      Delivers d sent [.migrate d.self codeId bytes]
  /-- The account hands on or gives up that it is its own admin. -/
  | updateAdmin {sent : OutMsg} {admin : Option Addr}
      (updates : adminUpdate sent = some (d.self, admin)) :
      Delivers d sent [.updateAdmin d.self admin]
  /-- A message that the chain decodes may hold any of these, and several. -/
  | decoded {bytes : Binary} {items : List Item}
      (own : ∀ item ∈ items, item.sender = some d.self ∧ d.Sees item) :
      Delivers d (.Chain (.Other bytes)) items
  /-- A message to anyone else. -/
  | foreign {sent : OutMsg} (notSelf : recipient sent ≠ some d.self)
      (notMigrated : ∀ codeId bytes, migration sent ≠ some (d.self, codeId, bytes))
      (notUpdated : ∀ admin, adminUpdate sent ≠ some (d.self, admin)) :
      Delivers d sent [.foreign]

/-- What other code does next: it ends, or it calls the account, migrates it or changes
    its admin, and goes on.  With the `xion` feature, a transaction of the account itself
    has its flag set. -/
inductive Acts (d : Deployment) (s : ChainAccount) : ChainAccount → List Item → Prop where
  | done : Acts d s s []
  | act {item : Item} {sender : Addr} (isSender : item.sender = some sender) (sees : d.Sees item)
      (notSelf : sender ≠ d.self) : Acts d s s [item, .foreign]
  | authenticated {item : Item} (own : item.sender = some d.self ∨ item = .foreign)
      (sees : d.Sees item) (xion : d.xion = true) :
      Acts d s { s with authAdmin := some true } [item, .foreign]

/-- The storage of the account after a migration to a code, an account's or any other. -/
def Deployment.migrated (d : Deployment) (codeId : Nat) (msg : Binary) (s : AccountStorage) :
    Option AccountStorage :=
  match d.accountVersion codeId with
  | some version =>
    (Account.migrate version s.toAccountState).toOption.map fun state =>
      { s with toAccountState := state }
  | none => (d.migrate codeId msg s).toOption

/-- The account among other contracts. -/
def program (d : Deployment) : Calls.Program ChainAccount Item where
  Expands s item s' items :=
    match item with
    | .call env info msg =>
      ∃ t msgs, execute env info msg s.toAccountStorage = .ok (t, msgs) ∧
        s' = { s with toAccountStorage := t } ∧ items = msgs.map .dispatch
    -- the chain lets only the admin do so
    | .migrate sender codeId msg => s.admin = some sender ∧
        (∃ t, d.migrated codeId msg s.toAccountStorage = some t ∧
          s' = { s with toAccountStorage := t }) ∧ items = []
    | .updateAdmin sender admin => s.admin = some sender ∧ s' = { s with admin } ∧ items = []
    | .dispatch sub => ∃ delivered, Delivers d sub.msg delivered ∧ s' = s ∧
        items = delivered ++ (sub.replyOnSuccess.map (Item.awaiting sub.msg)).toList
    | .awaiting _ id => (∃ q t, reply q s.toAccountStorage id = .ok t ∧
        s' = { s with toAccountStorage := t }) ∧ items = []
    | .foreign => Acts d s s' items
  Attempts item items := item = .foreign ∧ items = [.foreign]

/-- The account is not migrated to code that is not an account's. -/
def NoTakeover (d : Deployment) (s : ChainAccount) : Item → Prop
  | .migrate sender codeId _ => s.admin = some sender → d.accountVersion codeId ≠ none
  | _ => True

/-- Other code calls the account, which succeeds. -/
theorem reachable_call {d : Deployment} {C : ChainAccount → Item → Prop} {s : ChainAccount}
    {t : AccountStorage} {rest : List (Frame ChainAccount Item)} (env : CallEnv)
    (info : MessageInfo) (msg : ExecuteMsg) {msgs : List SubMsg} (here : d.Here env)
    (notSelf : info.sender ≠ d.self)
    (meets : ∀ item, item = .foreign ∨ item = .call env info msg → C s item)
    (ok : execute env info msg s.toAccountStorage = .ok (t, msgs)) :
    Reachable ((program d).when C) ⟨s, .todo .foreign :: rest⟩
      ⟨{ s with toAccountStorage := t }, push (msgs.map .dispatch) (.todo .foreign :: rest)⟩ := by
  have calls : Step ((program d).when C) ⟨s, .todo .foreign :: rest⟩
      ⟨s, push [.call env info msg, .foreign] rest⟩ :=
    .work ⟨meets .foreign (.inl rfl), .act rfl here notSelf⟩
  have executes : Step ((program d).when C) ⟨s, push [.call env info msg, .foreign] rest⟩
      ⟨{ s with toAccountStorage := t }, push (msgs.map .dispatch) (.todo .foreign :: rest)⟩ :=
    .work ⟨meets _ (.inr rfl), t, msgs, ok, rfl, rfl⟩
  exact .tail (.single calls) executes

end Program

/-! ## The admin flag -/

section AdminFlag

variable [Crates] [Xion] {d : Deployment} {s s' : AccountStorage} {t t' : ChainAccount}
  {c : Calls.Config ChainAccount Item}

/-- The target of an admin call that ends with the reply, or the wild card of an
    upgrade. -/
def adminTarget (msg : OutMsg) : Reply → Option (Option Addr)
  | .AdminAction => some (recipient msg)
  | .AssertModuleDependenciesRequirements => some (some CALLING_TO_AS_ADMIN_WILD_CARD)
  | _ => none

/-- The admin call or upgrade that is in progress while the item is on the stack. -/
def Item.inProgress : Item → Option (Option Addr)
  | .dispatch sub => sub.replyOnSuccess.bind (adminTarget sub.msg)
  | .awaiting msg reply => adminTarget msg reply
  | _ => none

@[simp] theorem inProgress_dispatch (sub : SubMsg) :
    (Item.dispatch sub).inProgress = sub.replyOnSuccess.bind (adminTarget sub.msg) := rfl

@[simp] theorem inProgress_awaiting (msg : OutMsg) (reply : Reply) :
    (Item.awaiting msg reply).inProgress = adminTarget msg reply := rfl

def startsAdminCall : ExecuteMsg → Bool
  | .AdminExecute _ _ | .AdminExecuteOnModule _ _ | .Upgrade _ => true
  | _ => false

/-- At most one admin call or upgrade is in progress, and the flag is its target. -/
def AdminFlag (s : AccountStorage) (items : List Item) : Prop :=
  items.filterMap Item.inProgress = s.callingToAsAdmin.toList.map some

/-- Upgrades are executed while the flag is not set, and no migration takes the
    account over. -/
def UpgradesAlone (d : Deployment) (s : ChainAccount) (item : Item) : Prop :=
  NoTakeover d s item ∧
    ∀ env info modules, item = .call env info (.Upgrade modules) → s.callingToAsAdmin = none

/-- Of the messages of an upgrade, the last one carries the wild card. -/
theorem inProgress_replyToLast {msgs : List CosmosMsg} (some : msgs ≠ []) :
    ((replyToLast msgs).map Item.dispatch).filterMap Item.inProgress =
      [.some CALLING_TO_AS_ADMIN_WILD_CARD] := by
  induction msgs with
  | nil => exact absurd rfl some
  | cons msg rest ih =>
    cases rest with
    | nil => rfl
    | cons next rest => exact ih (by simp)

/-- Messages without a reply, or with another one, are no admin calls. -/
theorem inProgress_none {msgs : List SubMsg}
    (replies : ∀ sub ∈ msgs, ∀ id ∈ sub.replyOnSuccess, adminTarget sub.msg id = none) :
    (msgs.map Item.dispatch).filterMap Item.inProgress = [] := by
  rw [List.filterMap_eq_nil_iff]
  intro item listed
  obtain ⟨sub, member, rfl⟩ := List.mem_map.mp listed
  rw [inProgress_dispatch]
  cases asked : sub.replyOnSuccess with
  | none => rfl
  | some id => exact replies sub member id asked

omit [Crates] in
theorem tellOwner_noReply {action : AccountSequence → UpdateSubAccountAction} {id : AccountId}
    {gov : GovernanceDetails Addr} : ∀ sub ∈ tellOwner action id gov, sub.replyOnSuccess = none := by
  intro sub member
  unfold tellOwner at member
  split at member
  · rw [List.mem_singleton] at member
    rw [member]
    rfl
  · cases member

theorem ownershipMsgs_noReply {env : CallEnv} {action : GovAction} {msgs : List SubMsg}
    (h : ownershipMsgs env action s = .ok msgs) : ∀ sub ∈ msgs, sub.replyOnSuccess = none := by
  cases action with
  | TransferOwnership newOwner expiry =>
    obtain rfl := Except.ok.inj h
    simp
  | AcceptOwnership =>
    simp only [ownershipMsgs, maybeUpdateSubAccountGovernance, bind_eq_ok, pure_eq_ok] at h
    obtain ⟨_, _, rfl⟩ := h
    intro sub member
    rcases List.mem_append.mp member with first | second
    · exact tellOwner_noReply sub first
    · exact tellOwner_noReply sub second
  | RenounceOwnership =>
    simp only [ownershipMsgs, removeAccountFromContracts, bind_eq_ok, pure_eq_ok] at h
    obtain ⟨_, _, _, _, rfl⟩ := h
    intro sub member
    rcases List.mem_append.mp member with first | second
    · exact tellOwner_noReply sub first
    · split at second
      · rw [List.mem_singleton] at second
        rw [second]
        rfl
      · cases second

/-- The flag after a call, and what the call starts. -/
theorem AdminFlag.call {env : CallEnv} {info : MessageInfo} {msg : ExecuteMsg}
    {msgs : List SubMsg} {rest : List Item}
    (alone : ∀ modules, msg = .Upgrade modules → s.callingToAsAdmin = none)
    (ok : execute env info msg s = .ok (s', msgs)) (flag : AdminFlag s rest) :
    AdminFlag s' (msgs.map .dispatch ++ rest) := by
  obtain ⟨_, t, handled, rfl⟩ := execute_eq_ok ok
  unfold AdminFlag at flag ⊢
  rw [List.filterMap_append, flag]
  cases handle_effect handled with
  | forward chainMsgs reply noReply =>
    rw [inProgress_none]
    · rfl
    · simp only [List.mem_map]
      rintro _ ⟨_, _, rfl⟩ id asked
      rcases noReply with rfl | rfl
      · cases asked
      · obtain rfl := Option.some.inj asked
        rfl
  | subAccount action subAccounts => rfl
  | ownership told updated =>
    rw [inProgress_none]
    · rfl
    · intro sub member id asked
      rw [ownershipMsgs_noReply told sub member] at asked
      cases asked
  | admin addr execMsg owner idle =>
    rw [idle]
    rfl
  | @upgrade modules state msgs owner upgraded =>
    rw [inProgress_replyToLast (upgradeModules_sends upgraded), alone modules rfl]
    simp only [dropAuthAdmin]
    rw [upgradeModules_frame upgraded]
    rfl
  | create owner created => rfl
  | owned owner kept sameFlag sends =>
    rw [inProgress_none]
    · simp only [dropAuthAdmin, sameFlag, List.nil_append]
    · intro sub member id asked
      obtain ⟨module, rfl⟩ := sends sub member
      obtain rfl := Option.some.inj asked
      rfl

omit [Xion] in
theorem migrate_flag {version : String} {s s' : AccountState}
    (h : Account.migrate version s = .ok s') : s'.callingToAsAdmin = s.callingToAsAdmin := by
  simp only [Account.migrate, bind_eq_ok, pure_eq_ok] at h
  obtain ⟨_, _, _, _, rfl⟩ := h
  rfl

/-- A migration to an account code writes the version. -/
theorem migrated_eq_some {codeId : Nat} {bytes : Binary} {s' : AccountStorage}
    (isAccount : d.accountVersion codeId ≠ none) (h : d.migrated codeId bytes s = some s') :
    ∃ version state, Account.migrate version s.toAccountState = .ok state ∧
      s' = { s with toAccountState := state } := by
  unfold Deployment.migrated at h
  split at h
  · rename_i version _
    obtain ⟨state, migrated, rfl⟩ := Option.map_eq_some_iff.mp h
    exact ⟨version, state, toOption_eq_some.mp migrated, rfl⟩
  · rename_i other
    exact absurd other isAccount

/-- What has a sender is no admin call in progress. -/
theorem inProgress_of_sender {item : Item} {sender : Addr} (isSender : item.sender = some sender) :
    item.inProgress = none := by
  cases item with
  | dispatch sub => cases isSender
  | awaiting msg reply => cases isSender
  | _ => rfl

/-- A delivery starts no admin call. -/
theorem Delivers.inProgress {sent : OutMsg} {items : List Item} (delivers : Delivers d sent items) :
    items.filterMap Item.inProgress = [] := by
  cases delivers with
  | self toSelf decoded here => rfl
  | migrate migrates => rfl
  | updateAdmin updates => rfl
  | decoded own =>
    exact List.filterMap_eq_nil_iff.mpr fun item listed => inProgress_of_sender (own item listed).1
  | foreign notSelf notMigrated notUpdated => rfl

/-- A reply ends what it replies to. -/
theorem AdminFlag.reply {q : Querier} {msg : OutMsg} {id : Reply} {rest : List Item}
    (ok : Entry.reply q s id = .ok s') (flag : AdminFlag s (.awaiting msg id :: rest)) :
    AdminFlag s' rest := by
  unfold AdminFlag at flag ⊢
  -- the head of the list is what the flag stands for, nothing else is in progress
  have only : ∀ {target}, adminTarget msg id = some target →
      rest.filterMap Item.inProgress = [] := by
    intro target isTarget
    rw [← inProgress_awaiting] at isTarget
    rw [List.filterMap_cons_some isTarget] at flag
    cases held : s.callingToAsAdmin with
    | none =>
      rw [held] at flag
      cases flag
    | some addr =>
      rw [held] at flag
      simpa using (List.cons.inj flag).2
  cases id with
  | ForwardResponse =>
    obtain rfl := Except.ok.inj ok
    exact flag
  | AdminAction =>
    obtain rfl := Except.ok.inj ok
    rw [only rfl]
    rfl
  | RegisterModulesDependencies =>
    simp only [Entry.reply, bind_eq_ok, pure_eq_ok] at ok
    obtain ⟨state, registered, rfl⟩ := ok
    rw [(registerDependencies_frame registered).1]
    exact flag
  | AssertModuleDependenciesRequirements =>
    simp only [Entry.reply, bind_eq_ok, pure_eq_ok] at ok
    obtain ⟨state, asserted, rfl⟩ := ok
    rw [only rfl, assertModulesDependencyRequirements_eq_ok asserted]
    rfl

theorem AdminFlag.expands {item : Item} {items rest : List Item}
    (expands : ((program d).when (UpgradesAlone d)).Expands t item t' items)
    (flag : AdminFlag t.toAccountStorage (item :: rest)) :
    AdminFlag t'.toAccountStorage (items ++ rest) := by
  obtain ⟨⟨noTakeover, alone⟩, expands⟩ := expands
  cases item with
  | call env info msg =>
    obtain ⟨s', msgs, ok, rfl, rfl⟩ := expands
    refine AdminFlag.call ?_ ok flag
    rintro modules rfl
    exact alone env info modules rfl
  | migrate sender codeId bytes =>
    obtain ⟨isAdmin, ⟨s', migrated, rfl⟩, rfl⟩ := expands
    obtain ⟨version, state, ok, rfl⟩ := migrated_eq_some (noTakeover isAdmin) migrated
    unfold AdminFlag at flag ⊢
    dsimp only
    rw [migrate_flag ok]
    exact flag
  | updateAdmin sender admin =>
    obtain ⟨_, rfl, rfl⟩ := expands
    exact flag
  | dispatch sub =>
    obtain ⟨delivered, delivers, rfl, rfl⟩ := expands
    unfold AdminFlag at flag ⊢
    rw [← flag, List.append_assoc, List.filterMap_append, delivers.inProgress, List.nil_append]
    -- the reply is in progress as its message was
    cases asked : sub.replyOnSuccess with
    | none => simp [asked]
    | some id => simp [asked, List.filterMap_cons]
  | awaiting msg id =>
    obtain ⟨⟨q, s', ok, rfl⟩, rfl⟩ := expands
    exact AdminFlag.reply ok flag
  | foreign =>
    cases expands with
    | done => exact flag
    | act isSender sees notSelf =>
      unfold AdminFlag at flag ⊢
      rw [List.cons_append, List.filterMap_cons_none (inProgress_of_sender isSender)]
      exact flag
    | authenticated own sees xion =>
      unfold AdminFlag at flag ⊢
      rcases own with isSender | rfl
      · rw [List.cons_append, List.filterMap_cons_none (inProgress_of_sender isSender)]
        exact flag
      · exact flag

theorem adminFlag_reachable (idle : t.callingToAsAdmin = none)
    (reached : Reachable ((program d).when (UpgradesAlone d)) ⟨t, push [.foreign] []⟩ c) :
    AdminFlag c.state.toAccountStorage (pending c.stack) := by
  refine reachable_invariant (I := fun t => AdminFlag t.toAccountStorage)
    (fun _ _ _ _ _ expands flag => flag.expands expands) ?_ ?_ reached
  · rintro t item items rest ⟨rfl, rfl⟩ flag
    exact flag
  · simp [AdminFlag, Item.inProgress, idle]

/-- In every tree of calls in which upgrades are executed while the flag is not set:
    the flag is not set while no admin call or upgrade is in progress, as after
    every transaction; while one is in progress, the flag is its target; and no
    other one starts. -/
theorem admin_call_flag (idle : t.callingToAsAdmin = none)
    (reached : Reachable ((program d).when (UpgradesAlone d)) ⟨t, push [.foreign] []⟩ c) :
    ((∀ item ∈ pending c.stack, item.inProgress = none) → c.state.callingToAsAdmin = none) ∧
      (∀ item ∈ pending c.stack, ∀ target ∈ item.inProgress,
        target ≠ none ∧ c.state.callingToAsAdmin = target) ∧
      ∀ env info msg rest t' items, c.stack = .todo (.call env info msg) :: rest →
        startsAdminCall msg = true →
        ((program d).when (UpgradesAlone d)).Expands c.state (.call env info msg) t' items →
        ∀ item ∈ pending rest, item.inProgress = none := by
  have flag := adminFlag_reachable idle reached
  unfold AdminFlag at flag
  refine ⟨?_, ?_, ?_⟩
  · intro nothing
    rw [List.filterMap_eq_nil_iff.mpr nothing] at flag
    cases held : c.state.callingToAsAdmin with
    | none => rfl
    | some addr =>
      rw [held] at flag
      cases flag
  · intro item listed target isTarget
    have member : target ∈ (pending c.stack).filterMap Item.inProgress :=
      List.mem_filterMap.mpr ⟨item, listed, isTarget⟩
    rw [flag] at member
    cases held : c.state.callingToAsAdmin with
    | none =>
      rw [held] at member
      cases member
    | some addr =>
      rw [held] at member
      simp only [Option.toList_some, List.map_cons, List.map_nil, List.mem_singleton] at member
      exact ⟨by simp [member], member.symm⟩
  · rintro env info msg rest t' items onTop starts ⟨⟨_, alone⟩, s', msgs, ok, rfl, rfl⟩
    -- a call that starts one finds the flag not set
    have notSet : c.state.callingToAsAdmin = none := by
      cases msg with
      | AdminExecute addr execMsg =>
        simp only [execute, handle, adminExecute, bind_eq_ok, ensure_eq_ok] at ok
        obtain ⟨_, _, _, ⟨_, _, _, _, _, idle, _⟩, _⟩ := ok
        exact idle
      | AdminExecuteOnModule moduleId execMsg =>
        simp only [execute, handle, adminExecuteOnModule, adminExecute, bind_eq_ok,
          ensure_eq_ok] at ok
        obtain ⟨_, _, _, ⟨_, _, _, _, _, idle, _⟩, _⟩ := ok
        exact idle
      | Upgrade modules => exact alone env info modules rfl
      | _ => cases starts
    rw [onTop, notSet] at flag
    exact List.filterMap_eq_nil_iff.mp flag

end AdminFlag

section Sample

attribute [local instance] releaseCrates noAuthenticators

def sampleDeployment : Deployment where
  self := sampleAccount
  xion := false
  decode _ := none
  accountVersion _ := none
  migrate _ _ s := .ok s

/-- An account that is its own admin. -/
def onChain (s : AccountStorage) : ChainAccount := { s with admin := some sampleAccount }

def ownerInfo : MessageInfo := { sender := sampleOwner, funds := [] }

/-- The owner's call of the bot as admin. -/
def adminBot : SubMsg := .withReply (.Chain (.Execute botAddr [] [])) .AdminAction

def callingBot (s : AccountStorage) : AccountStorage :=
  dropAuthAdmin sampleCallEnv { s with callingToAsAdmin := some botAddr }

/-- While the bot is called as admin, the flag is the bot. -/
theorem admin_call_flag_bot :
    ∃ c, Reachable ((program sampleDeployment).when (UpgradesAlone sampleDeployment))
        ⟨onChain emptyStorage, push [.foreign] []⟩ c ∧
      .dispatch adminBot ∈ pending c.stack ∧ c.state.callingToAsAdmin = some botAddr := by
  have reached : Reachable ((program sampleDeployment).when (UpgradesAlone sampleDeployment))
      ⟨onChain emptyStorage, push [.foreign] []⟩
      ⟨onChain (callingBot emptyStorage), push ([adminBot].map .dispatch) [.todo .foreign]⟩ := by
    refine reachable_call sampleCallEnv ownerInfo (.AdminExecute "bot" []) ⟨rfl, rfl⟩ (by decide)
      ?_ rfl
    rintro item (rfl | rfl)
    · exact ⟨trivial, fun _ _ _ isUpgrade => by cases isUpgrade⟩
    · exact ⟨trivial, fun _ _ _ isUpgrade => by cases isUpgrade⟩
  have listed : Item.dispatch adminBot ∈
      pending (push ([adminBot].map .dispatch) [.todo (σ := ChainAccount) .foreign]) := by
    simp
  exact ⟨_, reached, listed, ((admin_call_flag rfl reached).2.1 _ listed _ rfl).2⟩

/-- An account with both modules installed. -/
def withModules : AccountStorage := storageOf (run exec ⟨emptyAccount, ∅⟩ [installBot]).state

def upgradeEnv : CallEnv := { sampleCallEnv with querier := upgradeBoth.env.querier }

/-- The owner calls the bot as admin.  The bot has the owner, a contract, upgrade the
    modules, and the flag is the wild card while the bot is still being called. -/
theorem upgrade_starts_within_admin_call :
    withModules.callingToAsAdmin = none ∧
      ∃ c, Reachable ((program sampleDeployment).when (NoTakeover sampleDeployment))
          ⟨onChain withModules, push [.foreign] []⟩ c ∧
        .awaiting adminBot.msg .AdminAction ∈ pending c.stack ∧
        c.state.callingToAsAdmin = some CALLING_TO_AS_ADMIN_WILD_CARD := by
  refine ⟨by decide, ?_⟩
  have called : Reachable ((program sampleDeployment).when (NoTakeover sampleDeployment))
      ⟨onChain withModules, push [.foreign] []⟩
      ⟨onChain (callingBot withModules), push ([adminBot].map .dispatch) [.todo .foreign]⟩ := by
    refine reachable_call sampleCallEnv ownerInfo (.AdminExecute "bot" []) ⟨rfl, rfl⟩ (by decide)
      ?_ rfl
    rintro item (rfl | rfl) <;> trivial
  have delivered : Step ((program sampleDeployment).when (NoTakeover sampleDeployment))
      ⟨onChain (callingBot withModules), push ([adminBot].map .dispatch) [.todo .foreign]⟩
      ⟨onChain (callingBot withModules),
        push ([.foreign] ++ [.awaiting adminBot.msg .AdminAction]) [.todo .foreign]⟩ := by
    refine .work ⟨trivial, [.foreign], .foreign (by decide) ?_ ?_, rfl, rfl⟩
    · intro codeId bytes migrates
      cases migrates
    · intro admin updates
      cases updates
  have upgrades : ∃ result ∈ (execute upgradeEnv ownerInfo
      (.Upgrade [(libInfo "1.1.0", some []), (botInfo "1.1.0", none)])
      (callingBot withModules)).toOption,
      result.1.callingToAsAdmin = some CALLING_TO_AS_ADMIN_WILD_CARD := by decide
  obtain ⟨⟨s', msgs⟩, ok, flag⟩ := upgrades
  have nested : Reachable ((program sampleDeployment).when (NoTakeover sampleDeployment))
      ⟨onChain (callingBot withModules),
        push [.foreign, .awaiting adminBot.msg .AdminAction] [.todo .foreign]⟩
      ⟨onChain s', push (msgs.map .dispatch)
        (push [.foreign, .awaiting adminBot.msg .AdminAction] [.todo .foreign])⟩ := by
    refine reachable_call upgradeEnv ownerInfo _ ⟨rfl, rfl⟩ (by decide) ?_ (toOption_eq_some.mp ok)
    rintro item (rfl | rfl) <;> trivial
  refine ⟨_, (called.tail delivered).trans nested, ?_, flag⟩
  simp

end Sample

end AbstractFramework.Account.Entry
