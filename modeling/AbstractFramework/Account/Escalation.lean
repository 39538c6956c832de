import AbstractFramework.Ownership.Protocol
import AbstractFramework.Ownership.Nested
import AbstractFramework.Account.CallTree

/-! # Modules and the owner's rights

A module that may call `Execute` has the account send any message, also one to the
account itself, which is then the sender.  What the owner alone may change is safe
from that as long as the account is not its own owner: every entry point that
writes it asks for the owner, and without an owner's call no reply but
`ForwardResponse` is ever pending.

The one way around the entry points is a migration of the account's contract to
other code, which the chain grants to its admin.  An account that is its own admin can
be made to migrate itself, or to make someone else the admin, who then migrates it.
-/

namespace AbstractFramework.Account.Entry

open AbstractFramework Fallible Storage Calls

section Escalation

variable [Crates] [Xion] {d : Deployment} {s t t' : AccountStorage} {a a' : ChainAccount}
  {c : Calls.Config ChainAccount Item}

/-- What the owner alone may change is the same. -/
structure SamePermissions (s t : AccountStorage) : Prop where
  ownership : t.ownership = s.ownership
  modules : t.accountModules = s.accountModules
  whitelist : t.whitelistedModules = s.whitelistedModules
  dependents : t.dependents = s.dependents
  suspension : t.suspensionStatus = s.suspensionStatus
  accountId : t.accountId = s.accountId
  adminFlag : t.callingToAsAdmin = s.callingToAsAdmin

theorem SamePermissions.refl (s : AccountStorage) : SamePermissions s s :=
  ⟨rfl, rfl, rfl, rfl, rfl, rfl, rfl⟩

theorem SamePermissions.trans (first : SamePermissions s t) (second : SamePermissions t t') :
    SamePermissions s t' where
  ownership := second.ownership.trans first.ownership
  modules := second.modules.trans first.modules
  whitelist := second.whitelist.trans first.whitelist
  dependents := second.dependents.trans first.dependents
  suspension := second.suspension.trans first.suspension
  accountId := second.accountId.trans first.accountId
  adminFlag := second.adminFlag.trans first.adminFlag

/-- The sender of a call is not the owner, as the chain has it in the call. -/
def NotByOwner (a : ChainAccount) : Item → Prop
  | .call env info _ => a.ownership.owner.ownerAddress env.querier ≠ some info.sender
  | _ => True

/-- Work that follows from calls of others than the owner. -/
def Harmless : Item → Prop
  | .dispatch sub => (∃ msg, sub.msg = .Chain msg) ∧
      (sub.replyOnSuccess = none ∨ sub.replyOnSuccess = some .ForwardResponse)
  | .awaiting _ reply => reply = .ForwardResponse
  | _ => True

omit [Xion] in
theorem updateOwnership_refused {deps : Deps} {block : BlockInfo} {sender : Addr}
    {action : GovAction} {o o' : Ownership} (top : ∀ account, o.owner ≠ .SubAccount account)
    (noPending : o.pendingOwner = none) (notOwner : o.owner.ownerAddress deps.querier ≠ some sender) :
    AbstractFramework.updateOwnership deps block sender action o ≠ .ok o' := by
  have notFor : ¬ Protocol.ActsFor deps.querier o.owner sender := by
    rintro (direct | ⟨account, _, isSub, _⟩)
    · exact notOwner direct
    · exact top account isSub
  intro updated
  cases action with
  | TransferOwnership newOwner expiry =>
    obtain ⟨_, _, acts, _⟩ := Protocol.transferOwnership_eq_ok updated
    exact notFor acts
  | AcceptOwnership =>
    obtain ⟨_, isPending, _⟩ := Protocol.acceptOwnership_eq_ok updated
    rw [noPending] at isPending
    cases isPending
  | RenounceOwnership => exact notFor (Protocol.renounceOwnership_eq_ok updated).1

/-- A call by anyone but the owner. -/
theorem execute_unprivileged {env : CallEnv} {info : MessageInfo} {msg : ExecuteMsg}
    {msgs : List SubMsg} (top : ∀ account, t.ownership.owner ≠ .SubAccount account)
    (noPending : t.ownership.pendingOwner = none)
    (notOwner : t.ownership.owner.ownerAddress env.querier ≠ some info.sender)
    (ok : execute env info msg t = .ok (t', msgs)) :
    SamePermissions t t' ∧ ∀ item ∈ msgs.map Item.dispatch, Harmless item := by
  have refused : assertOwner env.toEnv t.toAccountState info.sender ≠ .ok () := by
    simp only [assertOwner, ne_eq, mapError_eq_ok, assertNestedOwner_top top]
    exact fun accepted => notOwner accepted.1
  obtain ⟨_, t₁, handled, rfl⟩ := execute_eq_ok ok
  cases handle_effect handled with
  | forward chainMsgs reply noReply =>
    refine ⟨⟨rfl, rfl, rfl, rfl, rfl, rfl, rfl⟩, ?_⟩
    simp only [List.mem_map]
    rintro _ ⟨_, ⟨chainMsg, _, rfl⟩, rfl⟩
    exact ⟨⟨chainMsg, rfl⟩, noReply⟩
  | subAccount action subAccounts => exact ⟨⟨rfl, rfl, rfl, rfl, rfl, rfl, rfl⟩, by simp⟩
  | ownership told updated =>
    exact absurd updated (updateOwnership_refused top noPending notOwner)
  | admin addr execMsg owner idle => exact absurd owner refused
  | upgrade owner upgraded => exact absurd owner refused
  | create owner created => exact absurd owner refused
  | owned owner kept flag sends => exact absurd owner refused

theorem migrate_samePermissions {version : String} {state : AccountState}
    (h : Account.migrate version t.toAccountState = .ok state) :
    SamePermissions t { t with toAccountState := state } := by
  simp only [Account.migrate, bind_eq_ok, pure_eq_ok] at h
  obtain ⟨_, _, _, _, rfl⟩ := h
  exact ⟨rfl, rfl, rfl, rfl, rfl, rfl, rfl⟩

theorem harmless_of_sender {item : Item} {sender : Addr} (isSender : item.sender = some sender) :
    Harmless item := by
  cases item with
  | dispatch sub => cases isSender
  | awaiting msg reply => cases isSender
  | _ => trivial

theorem Delivers.harmless {sent : OutMsg} {items : List Item} (delivers : Delivers d sent items) :
    ∀ item ∈ items, Harmless item := by
  cases delivers with
  | self toSelf decoded here => simp [Harmless]
  | migrate migrates => simp [Harmless]
  | updateAdmin updates => simp [Harmless]
  | decoded own => exact fun item listed => harmless_of_sender (own item listed).1
  | foreign notSelf notMigrated notUpdated => simp [Harmless]

theorem Harmless.act {item : Item} (harmless : Harmless item) :
    ∀ other ∈ [item, .foreign], Harmless other := by
  intro other listed
  rcases List.mem_pair.mp listed with rfl | rfl
  · exact harmless
  · trivial

/-- What one item of work keeps. -/
theorem expands_unprivileged {item : Item} {items : List Item}
    (top : ∀ account, a.ownership.owner ≠ .SubAccount account)
    (noPending : a.ownership.pendingOwner = none) (harmless : Harmless item)
    (expands : ((program d).when fun a item => NotByOwner a item ∧ NoTakeover d a item).Expands
      a item a' items) :
    SamePermissions a.toAccountStorage a'.toAccountStorage ∧ ∀ item ∈ items, Harmless item := by
  obtain ⟨⟨notOwner, noTakeover⟩, expands⟩ := expands
  cases item with
  | call env info msg =>
    obtain ⟨t, msgs, ok, rfl, rfl⟩ := expands
    exact execute_unprivileged top noPending notOwner ok
  | migrate sender codeId bytes =>
    obtain ⟨isAdmin, ⟨t, migrated, rfl⟩, rfl⟩ := expands
    obtain ⟨version, state, ok, rfl⟩ := migrated_eq_some (noTakeover isAdmin) migrated
    exact ⟨migrate_samePermissions ok, by simp⟩
  | updateAdmin sender admin =>
    obtain ⟨_, rfl, rfl⟩ := expands
    exact ⟨.refl _, by simp⟩
  | dispatch sub =>
    obtain ⟨delivered, delivers, rfl, rfl⟩ := expands
    refine ⟨.refl _, ?_⟩
    intro item listed
    rcases List.mem_append.mp listed with first | last
    · exact delivers.harmless item first
    · rcases harmless.2 with none | forward
      · simp [none] at last
      · simp only [forward, Option.map_some, Option.toList_some, List.mem_singleton] at last
        rw [last]
        rfl
  | awaiting msg id =>
    obtain ⟨⟨q, t, ok, rfl⟩, rfl⟩ := expands
    obtain rfl : id = .ForwardResponse := harmless
    obtain rfl := Except.ok.inj ok
    exact ⟨.refl _, by simp⟩
  | foreign =>
    cases expands with
    | done => exact ⟨.refl _, by simp⟩
    | act isSender sees notSelf => exact ⟨.refl _, (harmless_of_sender isSender).act⟩
    | authenticated own sees xion =>
      refine ⟨⟨rfl, rfl, rfl, rfl, rfl, rfl, rfl⟩, Harmless.act ?_⟩
      rcases own with isSender | rfl
      · exact harmless_of_sender isSender
      · trivial

/-- In every tree of calls of which the owner makes none, what the owner alone may
    change stays the same, unless the account is taken over by other code. -/
theorem modules_cannot_escalate (top : ∀ account, a.ownership.owner ≠ .SubAccount account)
    (noPending : a.ownership.pendingOwner = none)
    (reached : Reachable ((program d).when fun a item => NotByOwner a item ∧ NoTakeover d a item)
      ⟨a, push [.foreign] []⟩ c) : SamePermissions a.toAccountStorage c.state.toAccountStorage := by
  suffices both : SamePermissions a.toAccountStorage c.state.toAccountStorage ∧
    ∀ item ∈ pending c.stack, Harmless item from both.1
  refine reachable_invariant (I := fun b items =>
    SamePermissions a.toAccountStorage b.toAccountStorage ∧ ∀ item ∈ items, Harmless item)
    ?_ ?_ ?_ reached
  · rintro b item b' items rest expands ⟨same, harmless⟩
    have owner : b.ownership = a.ownership := same.ownership
    obtain ⟨kept, more⟩ := expands_unprivileged (owner ▸ top) (owner ▸ noPending)
      (harmless item List.mem_cons_self) expands
    refine ⟨same.trans kept, ?_⟩
    intro other listed
    rcases List.mem_append.mp listed with new | old
    · exact more other new
    · exact harmless other (List.mem_cons_of_mem item old)
  · rintro b item items rest ⟨rfl, rfl⟩ ⟨same, harmless⟩
    refine ⟨same, ?_⟩
    intro other listed
    rcases List.mem_append.mp listed with new | old
    · rw [List.mem_singleton.mp new]
      trivial
    · exact harmless other old
  · exact ⟨.refl _, by simp [Harmless]⟩

end Escalation

section Sample

attribute [local instance] releaseCrates noAuthenticators

def withBot : ChainAccount := onChain { emptyStorage with whitelistedModules := [botAddr] }

def byBot : MessageInfo := { sender := botAddr, funds := [] }

theorem notByOwner_bot (msg : ExecuteMsg) (item : Item)
    (isItem : item = .foreign ∨ item = .call sampleCallEnv byBot msg) : NotByOwner withBot item := by
  rcases isItem with rfl | rfl
  · trivial
  · show some sampleOwner ≠ some botAddr
    decide

/-- The bot has the account send a message. -/
theorem reachable_bot {d : Deployment} (here : d.Here sampleCallEnv)
    (isSelf : d.self = sampleAccount) {C : ChainAccount → Item → Prop} (msg : ChainMsg)
    (meets : ∀ item, item = .foreign ∨ item = .call sampleCallEnv byBot (.Execute [msg]) →
      C withBot item) :
    Reachable ((program d).when C) ⟨withBot, push [.foreign] []⟩
      ⟨withBot, push [.dispatch (.new (.Chain msg)), .foreign] []⟩ := by
  refine reachable_call sampleCallEnv byBot (.Execute [msg]) here ?_ meets rfl
  rw [isSelf]
  decide

/-- The bot has the account make the bot its admin, which leaves the owner's rights alone. -/
theorem modules_cannot_escalate_bot :
    ∃ c, Reachable ((program sampleDeployment).when fun a item =>
        NotByOwner a item ∧ NoTakeover sampleDeployment a item) ⟨withBot, push [.foreign] []⟩ c ∧
      pending c.stack = [.foreign] ∧ c.state.admin = some botAddr ∧
      SamePermissions withBot.toAccountStorage c.state.toAccountStorage := by
  have sends := reachable_bot (d := sampleDeployment) ⟨rfl, rfl⟩ rfl
    (C := fun a item => NotByOwner a item ∧ NoTakeover sampleDeployment a item)
    (.UpdateAdmin sampleAccount botAddr) (by
      intro item isItem
      refine ⟨notByOwner_bot _ item isItem, ?_⟩
      rcases isItem with rfl | rfl <;> trivial)
  have delivers : Step ((program sampleDeployment).when fun a item =>
        NotByOwner a item ∧ NoTakeover sampleDeployment a item)
      ⟨withBot, push [.dispatch (.new (.Chain (.UpdateAdmin sampleAccount botAddr))), .foreign] []⟩
      ⟨withBot, push [.updateAdmin sampleAccount (some botAddr)] [.todo .foreign]⟩ :=
    .work ⟨⟨trivial, trivial⟩, _, .updateAdmin rfl, rfl, rfl⟩
  have hands : Step ((program sampleDeployment).when fun a item =>
        NotByOwner a item ∧ NoTakeover sampleDeployment a item)
      ⟨withBot, push [.updateAdmin sampleAccount (some botAddr)] [.todo .foreign]⟩
      ⟨{ withBot with admin := some botAddr }, push [] [.todo .foreign]⟩ :=
    .work ⟨⟨trivial, trivial⟩, rfl, rfl, rfl⟩
  have reached := (sends.tail delivers).tail hands
  refine ⟨_, reached, rfl, rfl, modules_cannot_escalate ?_ rfl reached⟩
  intro account isSub
  cases isSub

/-- A deployment in which code 99 makes the bot the owner of what it migrates. -/
def withHostileCode : Deployment :=
  { sampleDeployment with
    migrate := fun codeId _ s =>
      if codeId = 99 then
        .ok { s with
          ownership := { owner := .Monarchy botAddr, pendingOwner := none, pendingExpiry := none } }
      else .error (.msg "no such code") }

/-- The bot has the account migrate itself to code 99, and is its owner. -/
theorem module_takes_account_over :
    withBot.ownership.owner = .Monarchy sampleOwner ∧ withBot.ownership.pendingOwner = none ∧
      ∃ c, Reachable ((program withHostileCode).when NotByOwner) ⟨withBot, push [.foreign] []⟩ c ∧
        pending c.stack = [.foreign] ∧ c.state.ownership.owner = .Monarchy botAddr := by
  refine ⟨rfl, rfl, ?_⟩
  have sends := reachable_bot (d := withHostileCode) ⟨rfl, rfl⟩ rfl (C := NotByOwner)
    (.Migrate sampleAccount 99 []) (notByOwner_bot _)
  have delivers : Step ((program withHostileCode).when NotByOwner)
      ⟨withBot, push [.dispatch (.new (.Chain (.Migrate sampleAccount 99 []))), .foreign] []⟩
      ⟨withBot, push [.migrate sampleAccount 99 []] [.todo .foreign]⟩ :=
    .work ⟨trivial, _, .migrate rfl, rfl, rfl⟩
  have migrates : Step ((program withHostileCode).when NotByOwner)
      ⟨withBot, push [.migrate sampleAccount 99 []] [.todo .foreign]⟩
      ⟨{ withBot with
        ownership := { owner := .Monarchy botAddr, pendingOwner := none, pendingExpiry := none } },
        push [] [.todo .foreign]⟩ :=
    .work ⟨trivial, rfl, ⟨_, rfl, rfl⟩, rfl⟩
  exact ⟨_, (sends.tail delivers).tail migrates, rfl, rfl⟩

end Sample

end AbstractFramework.Account.Entry
