import AbstractFramework.Lib.Calls
import AbstractFramework.Accounts.Moves
import AbstractFramework.IbcHost.Commands

/-! # Packets of the ibc host

The host among the accounts, the registry and other contracts, as work of the call
machine.  A call of the host sends messages; each is delivered with all that follows
from it before the reply that it asks for runs.  Other code may call the host, the
accounts and the registry at any time that it runs: between transactions, and while
an account or a module executes a message of the host.

The state has a log of the packets that the host receives and of everything that it
sends, with its storage and the registry at that moment.  `History` says what a log
looks like in which every packet is handled once.
-/

namespace AbstractFramework.IbcHost

open Fallible Storage Accounts Calls
open Account hiding World

section Program

variable [Crates] [Xion]

/-- The chain during one transaction, with what only the host looks at. -/
structure HostChain extends ChainView where
  chainName : TruncatedChainId
  toJson : AccountId → Bytes
  ics20Channel : TruncatedChainId → Except String String

def HostChain.env (chain : HostChain) (host : Addr) (w : World) : HostEnv where
  address := host
  block := chain.block
  chainName := chain.chainName
  querier := chain.querier w
  registry := w.registry
  addrValidate := chain.addrValidate
  instantiate2Address := chain.instantiate2Address
  toJson := chain.toJson
  ics20Channel := chain.ics20Channel
  moduleAddress account id :=
    match w.accounts.lookup account with
    | some s => .ok (s.accountModules.lookup id)
    | none => .error (.msg "query failed")

inductive Event where
  /-- The host is called with `Execute`. -/
  | packet (sender : Addr) (accountId : AccountId) (action : HostAction)
  | sends (host : HostState) (registry : RegistryState) (msgs : List HostSubMsg)

structure HostWorld where
  world : World
  host : HostState
  /-- What has happened, the last first. -/
  log : List Event

/-- The packet that a call of the host is. -/
def packetOf (info : MessageInfo) : ExecuteMsg → List Event
  | .Execute accountId _ action => [.packet info.sender accountId action]
  | _ => []

/-- The host has executed code, and sends messages. -/
def HostWorld.sends (s : HostWorld) (host : HostState) (msgs : List HostSubMsg)
    (received : List Event) : HostWorld :=
  { s with host, log := .sends host s.world.registry msgs :: (received ++ s.log) }

/-- Work of the call machine. -/
inductive Item where
  | call (chain : HostChain) (info : MessageInfo) (msg : ExecuteMsg)
  | send (chain : HostChain) (sub : HostSubMsg)
  /-- The reply to a message, after the message. -/
  | reply (chain : HostChain) (id : ReplyId)
  /-- Code of other contracts, and the transactions at the bottom of the stack. -/
  | foreign

/-- The accounts and the registry after a message is delivered, and the work that it
    causes.  A new account calls nobody but the registry and the modules it installs. -/
inductive Delivers (host : Addr) (chain : HostChain) (w : World) :
    HostMsg → World → List Item → Prop where
  | account {account : Addr} {msg : Entry.ExecuteMsg} {w' : World}
      (called : chain.call chain.maxCallDepth
        (.execute account { sender := host, funds := [] } msg) w = .ok w') :
      Delivers host chain w (.Account account msg) w' [.foreign]
  | moduleIbc {module : Addr} {srcChain : TruncatedChainId} {source : ModuleInfo} {msg : Binary} :
      Delivers host chain w (.ModuleIbc module srcChain source msg) w [.foreign]
  | bankSend {toAddress : Addr} {amount : List Coin} :
      Delivers host chain w (.BankSend toAddress amount) w []
  | create {admin : Addr} {codeId : Nat} {label : String} {msg : InstantiateMsg}
      {funds : List Coin} {salt : Bytes} {w' : World}
      (created : chain.deliver (chain.call chain.maxCallDepth) host w
        (.new (.Instantiate2 admin codeId label msg funds salt)) = .ok w') :
      Delivers host chain w (.Instantiate2 admin codeId label msg funds salt) w'
        (if msg.installModules.isEmpty then [] else [.foreign])

/-- What other code does next: it ends, it calls the host and goes on, or it calls an
    account or the registry and goes on. -/
inductive Acts (s : HostWorld) : HostWorld → List Item → Prop where
  | done : Acts s s []
  | call (chain : HostChain) (info : MessageInfo) (msg : ExecuteMsg) :
      Acts s s [.call chain info msg, .foreign]
  | accounts {tx : Tx} {w : World} {u : Unit} (ok : Accounts.exec tx s.world = .ok (w, u)) :
      Acts s { s with world := w } [.foreign]

/-- The host at an address among other contracts. -/
def program (host : Addr) : Calls.Program HostWorld Item where
  Expands s item s' items :=
    match item with
    | .call chain info msg => ∃ h msgs,
        execute (chain.env host s.world) info msg s.host = .ok (h, msgs) ∧
        s' = s.sends h msgs (packetOf info msg) ∧ items = msgs.map (.send chain)
    | .send chain sub => ∃ w delivered, Delivers host chain s.world sub.msg w delivered ∧
        s' = { s with world := w } ∧
        items = delivered ++ (sub.replyOnSuccess.map (Item.reply chain)).toList
    | .reply chain id => ∃ h msgs,
        reply (chain.env host s.world) id s.host = .ok (h, msgs) ∧
        s' = s.sends h msgs [] ∧ items = msgs.map (.send chain)
    | .foreign => Acts s s' items
  Attempts item items := item = .foreign ∧ items = [.foreign]

/-! ## Histories -/

/-- The messages of an account that an action stands for. -/
def HostAction.accountMsgs : HostAction → List Entry.ExecuteMsg
  | .Dispatch accountMsgs => accountMsgs
  | .Helpers .SendAllBack => [.Execute []]
  | .Internal _ => []

def HostAction.isRegister : HostAction → Bool
  | .Internal _ => true
  | _ => false

/-- The account and the message, if it is one of an account. -/
def HostSubMsg.toAccount (sub : HostSubMsg) : Option (Addr × Entry.ExecuteMsg) :=
  match sub.msg with
  | .Account account msg => some (account, msg)
  | _ => none

def HostSubMsg.creates (sub : HostSubMsg) : Option AccountId :=
  match sub.msg with
  | .Instantiate2 _ _ _ msg _ _ => msg.accountId
  | _ => none

/-- The address is the registered proxy of the chain. -/
def HostState.IsProxy (host : HostState) (chain : TruncatedChainId) (proxy : Addr) : Prop :=
  host.chainProxies.lookup chain = some proxy ∧ host.reverseChainProxies.lookup proxy = some chain

/-- The messages are those of the action, in order and once, for the account that is
    registered under the id with the chain of the sender pushed onto its trace. -/
def Dispatches (sender : Addr) (id : AccountId) (action : HostAction) (host : HostState)
    (registry : RegistryState) (msgs : List HostSubMsg) : Prop :=
  ∃ chain account, host.IsProxy chain sender ∧ action.isRegister = false ∧
    registry.accountAddresses.lookup (id.pushChain chain).storageKey = some account ∧
    msgs.map HostSubMsg.toAccount = action.accountMsgs.map fun msg => some (account, msg)

/-- The one message creates the account with the chain of the sender pushed onto its
    trace. -/
def Creates (sender : Addr) (id : AccountId) (host : HostState) (msgs : List HostSubMsg) : Prop :=
  ∃ chain sub, host.IsProxy chain sender ∧ msgs = [sub] ∧ sub.creates = some (id.pushChain chain)

/-- A log in which every packet is handled once, and in which nothing is sent to
    accounts but for packets. -/
inductive History : List Event → Prop where
  | start : History []
  /-- The host sends messages for something else than a packet, none to an account. -/
  | other {host : HostState} {registry : RegistryState} {msgs : List HostSubMsg} {log : List Event}
      (earlier : History log) (none : ∀ sub ∈ msgs, sub.toAccount = none) :
      History (.sends host registry msgs :: log)
  /-- A packet that registers an account. -/
  | register {sender : Addr} {id : AccountId} {action : HostAction} {host : HostState}
      {registry : RegistryState} {msgs : List HostSubMsg} {log : List Event}
      (earlier : History log) (isRegister : action.isRegister = true)
      (creates : Creates sender id host msgs) :
      History (.sends host registry msgs :: .packet sender id action :: log)
  /-- A packet for an account that exists. -/
  | existing {sender : Addr} {id : AccountId} {action : HostAction} {host : HostState}
      {registry : RegistryState} {msgs : List HostSubMsg} {log : List Event}
      (earlier : History log) (dispatches : Dispatches sender id action host registry msgs) :
      History (.sends host registry msgs :: .packet sender id action :: log)
  /-- A packet for an account that is created first. -/
  | created {sender : Addr} {id : AccountId} {action : HostAction} {before host : HostState}
      {registry₀ registry : RegistryState} {create msgs : List HostSubMsg} {log : List Event}
      (earlier : History log) (creates : Creates sender id before create)
      (dispatches : Dispatches sender id action host registry msgs) :
      History (.sends host registry msgs :: .sends before registry₀ create ::
        .packet sender id action :: log)

end Program

/-! ## What the host does -/

section Inversion

variable [Crates] [Xion] {env : HostEnv} {s s' : HostState} {msgs : List HostSubMsg}
  {info : MessageInfo}

/-- The message does not ask for the reply that passes an action on. -/
def HostSubMsg.Plain (sub : HostSubMsg) : Prop := sub.replyOnSuccess ≠ some .InitBeforeAction

theorem receiveRegister_eq_ok {id : AccountId} {name description link ns : Option String}
    {modules : List ModuleInstallConfig} {withReply : Bool} {funds : List Coin}
    (h : receiveRegister env id name description link ns modules withReply funds = .ok msgs) :
    env.assertRegistry = .ok () ∧ ∃ admin codeId label msg salt, msg.accountId = some id ∧
      msg.installModules = modules ∧ msgs = [{
        msg := .Instantiate2 admin codeId label msg funds salt
        replyOnSuccess := if withReply then some .InitBeforeAction else none }] := by
  simp only [receiveRegister, bind_eq_ok, mapError_eq_ok] at h
  obtain ⟨_, registry, _, _, _, _, module, _, h⟩ := h
  refine ⟨registry, ?_⟩
  split at h
  · simp only [bind_eq_ok, pure_eq_ok] at h
    obtain ⟨_, _, _, _, rfl⟩ := h
    exact ⟨_, _, _, _, _, rfl, rfl, rfl⟩
  · cases h

omit [Xion] in
theorem getAccount_eq_ok {id : AccountId} {account : Addr} :
    getAccount env id = .ok account ↔ env.assertRegistry = .ok () ∧
      env.registry.accountAddresses.lookup id.storageKey = some account := by
  simp only [getAccount, HostEnv.account, bind_eq_ok, mapError_eq_ok, okOr_eq_ok]
  constructor
  · rintro ⟨_, registry, found⟩
    exact ⟨registry, found⟩
  · rintro ⟨registry, found⟩
    exact ⟨(), registry, found⟩

def waiting (chain : TruncatedChainId) (address : String) (id : AccountId) (action : HostAction) :
    ActionAfterCreationCache :=
  { clientAccountAddress := address, accountId := id, action, chainName := chain }

/-- The three ways in which an action of a chain is handled. -/
inductive Handles (env : HostEnv) (chain : TruncatedChainId) (address : String) (id : AccountId)
    (action : HostAction) (s : HostState) : HostState → List HostSubMsg → Prop where
  | register {sub : HostSubMsg} (isRegister : action.isRegister = true)
      (creates : sub.creates = some (id.pushChain chain)) (plain : sub.Plain)
      (none : sub.toAccount = none) : Handles env chain address id action s s [sub]
  | dispatch {account : Addr} {msgs : List HostSubMsg} (notRegister : action.isRegister = false)
      (found : getAccount env (id.pushChain chain) = .ok account)
      (messages : msgs.map HostSubMsg.toAccount =
        action.accountMsgs.map fun msg => some (account, msg))
      (plain : ∀ sub ∈ msgs, sub.Plain) : Handles env chain address id action s s msgs
  | create {admin : Addr} {codeId : Nat} {label : String} {msg : InstantiateMsg} {salt : Bytes}
      (notRegister : action.isRegister = false)
      (missing : ∀ account, getAccount env (id.pushChain chain) ≠ .ok account)
      (registry : env.assertRegistry = .ok ()) (creates : msg.accountId = some (id.pushChain chain))
      (noModules : msg.installModules = []) :
      Handles env chain address id action s
        { s with tempActionAfterCreation := some (waiting chain address id action) }
        [{ msg := .Instantiate2 admin codeId label msg [] salt
           replyOnSuccess := some .InitBeforeAction }]

theorem receiveDispatch_messages {account : Addr} {accountMsgs : List Entry.ExecuteMsg} :
    (receiveDispatch account accountMsgs).map HostSubMsg.toAccount =
        accountMsgs.map (fun msg => some (account, msg)) ∧
      ∀ sub ∈ receiveDispatch account accountMsgs, sub.Plain := by
  constructor
  · rw [receiveDispatch, List.map_map]
    rfl
  · intro sub member
    obtain ⟨msg, _, rfl⟩ := List.mem_map.mp member
    simp [HostSubMsg.Plain]

theorem handleHostAction_handles {chain : TruncatedChainId} {address : String} {id : AccountId}
    {action : HostAction} (h : handleHostAction env chain address id action s = .ok (s', msgs)) :
    Handles env chain address id action s s' msgs := by
  -- an action that waits for the creation of its account
  have waits : action.isRegister = false →
      (∀ account, getAccount env (id.pushChain chain) ≠ .ok account) →
      (do
        let msgs ← receiveRegister env (id.pushChain chain)
          (some (remoteName chain (id.pushChain chain))) none none none [] true []
        return ({ s with tempActionAfterCreation := some (waiting chain address id action) }, msgs)
        : HostResult) = .ok (s', msgs) → Handles env chain address id action s s' msgs := by
    intro notRegister missing h
    simp only [bind_eq_ok, pure_eq_ok, Prod.mk.injEq] at h
    obtain ⟨_, registers, rfl, rfl⟩ := h
    obtain ⟨registry, _, _, _, _, _, creates, noModules, rfl⟩ := receiveRegister_eq_ok registers
    exact .create notRegister missing registry creates noModules
  cases action with
  | Internal internal =>
    obtain ⟨name, description, link, ns, modules⟩ := internal
    simp only [handleHostAction, bind_eq_ok, pure_eq_ok, Prod.mk.injEq] at h
    obtain ⟨_, registers, rfl, rfl⟩ := h
    obtain ⟨_, _, _, _, _, _, creates, _, rfl⟩ := receiveRegister_eq_ok registers
    exact .register rfl creates (by simp [HostSubMsg.Plain]) rfl
  | Dispatch accountMsgs =>
    cases found : getAccount env (id.pushChain chain) with
    | ok account =>
      simp only [handleHostAction, found, pure_eq_ok, Prod.mk.injEq] at h
      obtain ⟨rfl, rfl⟩ := h
      exact .dispatch rfl found receiveDispatch_messages.1 receiveDispatch_messages.2
    | error e =>
      simp only [handleHostAction, found] at h
      exact waits rfl (by simp [found]) h
  | Helpers helper =>
    cases helper
    cases found : getAccount env (id.pushChain chain) with
    | ok account =>
      simp only [handleHostAction, found, receiveSendAllBack, bind_eq_ok, pure_eq_ok,
        Prod.mk.injEq] at h
      obtain ⟨_, ⟨_, _, _, _, rfl⟩, rfl, rfl⟩ := h
      exact .dispatch rfl found rfl (by simp [HostSubMsg.Plain])
    | error e =>
      simp only [handleHostAction, found] at h
      exact waits rfl (by simp [found]) h

/-- The proxies of the chains, found both ways. -/
def HostState.Mirrored (s : HostState) : Prop :=
  Mirror (fun proxy : Addr => proxy) s.chainProxies s.reverseChainProxies

theorem HostState.Mirrored.isProxy {chain : TruncatedChainId} {proxy : Addr}
    (mirrored : s.Mirrored) (found : s.reverseChainProxies.lookup proxy = some chain) :
    s.IsProxy chain proxy := by
  obtain ⟨_, registered, rfl⟩ := mirrored.backward found
  exact ⟨registered, found⟩

/-- What a call that is no packet does. -/
theorem execute_other {msg : ExecuteMsg} (notPacket : packetOf info msg = [])
    (h : execute env info msg s = .ok (s', msgs)) :
    s'.tempActionAfterCreation = s.tempActionAfterCreation ∧ (s.Mirrored → s'.Mirrored) ∧
      ∀ sub ∈ msgs, sub.toAccount = none ∧ sub.Plain := by
  cases msg with
  | Execute id address action => cases notPacket
  | UpdateOwnership action =>
    simp only [execute, bind_eq_ok, mapError_eq_ok, pure_eq_ok, Prod.mk.injEq] at h
    obtain ⟨_, _, rfl, rfl⟩ := h
    exact ⟨rfl, id, by simp⟩
  | RegisterChainProxy chain proxy =>
    simp only [execute, registerChainProxy, bind_eq_ok, mapError_eq_ok, ensure_eq_ok, pure_eq_ok,
      Prod.mk.injEq] at h
    obtain ⟨_, _, _, _, addr, _, _, ⟨newChain, newProxy⟩, rfl, rfl⟩ := h
    refine ⟨rfl, ?_, by simp⟩
    intro mirrored
    exact Mirror.insert mirrored (AList.lookup_eq_none.mpr newChain) newProxy
  | RemoveChainProxy chain =>
    simp only [execute, removeChainProxy, bind_eq_ok, mapError_eq_ok, pure_eq_ok,
      Prod.mk.injEq] at h
    obtain ⟨_, _, _, _, rfl, rfl⟩ := h
    refine ⟨rfl, ?_, by simp⟩
    intro mirrored
    cases registered : s.chainProxies.lookup chain with
    | some proxy => exact Mirror.erase mirrored registered
    | none => exact Mirror.erase_free mirrored registered
  | ModuleExecute source target msg =>
    simp only [execute, handleModuleExecute, bind_eq_ok, pure_eq_ok, Prod.mk.injEq] at h
    obtain ⟨_, _, _, ⟨_, _, _, _, ⟨_, _⟩, _, _, _, rfl⟩, rfl, rfl⟩ := h
    exact ⟨rfl, id, by simp [HostSubMsg.toAccount, HostSubMsg.Plain]⟩
  | Fund account chain =>
    simp only [execute, fund, bind_eq_ok, pure_eq_ok, Prod.mk.injEq] at h
    obtain ⟨_, funded, rfl, rfl⟩ := h
    refine ⟨rfl, id, ?_⟩
    split at funded
    · obtain rfl := Except.ok.inj funded
      simp [HostSubMsg.toAccount, HostSubMsg.Plain]
    · obtain ⟨_, _, _, _, _, _, _, _, rfl⟩ := receiveRegister_eq_ok funded
      simp [HostSubMsg.toAccount, HostSubMsg.Plain]

end Inversion

/-! ## Creating an account -/

section Creation

variable [Crates] [Xion] {host : Addr} {chain : HostChain} {w w' : World}

/-- A contract stays a contract when accounts are added. -/
theorem contract_isSome (grows : ∀ a, (w.view.nodes a).isSome → (w'.view.nodes a).isSome) {a : Addr}
    (there : (chain.contract w a).isSome) : (chain.contract w' a).isSome := by
  cases now : w'.accounts.lookup a with
  | some s => simp [ChainView.contract, now]
  | none =>
    have before : w.accounts.lookup a = none := by
      cases stored : w.accounts.lookup a with
      | none => rfl
      | some s =>
        have isAccount := grows a (by simp [World.view, stored])
        simp [World.view, now] at isAccount
    by_cases registry : a = chain.registryAddr
    · simp [ChainView.contract, now, registry]
    · simpa [ChainView.contract, now, before, registry] using there

theorem assertRegistry_eq_ok :
    (chain.env host w).assertRegistry = .ok () ↔ (chain.contract w host).isSome := by
  simp only [HostEnv.assertRegistry, HostChain.env, Querier.queryWasmContractInfo,
    ChainView.querier, bind_eq_ok, mapError_eq_ok, okOr_eq_ok, pure_eq_ok, Option.isSome_iff_exists]
  constructor
  · rintro ⟨contract, there, _⟩
    exact ⟨contract, there⟩
  · rintro ⟨contract, there⟩
    exact ⟨contract, there, _, rfl, trivial⟩

/-- After an account is created, the host finds it. -/
theorem getAccount_of_created {admin : Addr} {codeId : Nat} {label : String} {msg : InstantiateMsg}
    {funds : List Coin} {salt : Bytes} {depth : Nat} {id : AccountId}
    (created : chain.deliver (chain.call depth) host w
      (.new (.Instantiate2 admin codeId label msg funds salt)) = .ok w')
    (isId : msg.accountId = some id) (registry : (chain.env host w).assertRegistry = .ok ()) :
    ∃ account, getAccount (chain.env host w') id = .ok account := by
  obtain ⟨c, received, called⟩ := deliver_new created
  simp only [ChainView.received, bind_eq_ok, pure_eq_ok] at received
  obtain ⟨_, _, account, _, rfl⟩ := received
  obtain ⟨n, _, sameId, told⟩ := call_instantiate called
  obtain ⟨registered, grows⟩ := told_frame told
  refine ⟨account, getAccount_eq_ok.mpr ⟨?_, ?_⟩⟩
  · rw [assertRegistry_eq_ok] at registry ⊢
    refine contract_isSome (fun a isAccount => grows a ?_) registry
    by_cases same : a = account
    · simp [View.set, View.register, same]
    · simpa [View.set, View.register, same] using isAccount
  · rw [isId, Option.getD_some] at sameId
    subst sameId
    change w'.view.registered n.id.storageKey = some account
    rw [registered]
    exact Function.update_self ..

end Creation

/-! ## The invariant -/

section Phases

variable [Crates] [Xion] {host : Addr} {s s' : HostWorld} {items rest : List Item}

/-- No action waits for the item. -/
def Item.Quiet : Item → Prop
  | .send _ sub => sub.Plain
  | .reply _ id => id ≠ .InitBeforeAction
  | _ => True

/-- The last packet waits for the creation of its account. -/
structure Waits (s : HostWorld) (cache : ActionAfterCreationCache) (sender : Addr) : Prop where
  temp : s.host.tempActionAfterCreation = some cache
  notRegister : cache.action.isRegister = false
  isProxy : s.host.IsProxy cache.chainName sender
  logged : ∃ before registry create log, Creates sender cache.accountId before create ∧
    History log ∧
    s.log = .sends before registry create :: .packet sender cache.accountId cache.action :: log

theorem waits_of_packet {chain : TruncatedChainId} (address : String) {id : AccountId}
    {action : HostAction} {sender : Addr} {sub : HostSubMsg}
    (isProxy : s.host.IsProxy chain sender) (notRegister : action.isRegister = false)
    (creates : sub.creates = some (id.pushChain chain)) (history : History s.log) :
    Waits (s.sends { s.host with tempActionAfterCreation := some (waiting chain address id action) }
      [sub] [.packet sender id action]) (waiting chain address id action) sender where
  temp := rfl
  notRegister := notRegister
  isProxy := isProxy
  logged := by
    refine ⟨_, _, _, _, ?_, history, rfl⟩
    exact ⟨chain, sub, isProxy, rfl, creates⟩

/-- The host is between packets, or an account is being created for one. -/
inductive Phase (host : Addr) (s : HostWorld) : List Item → Prop where
  | idle {items : List Item} (temp : s.host.tempActionAfterCreation = none)
      (history : History s.log) (quiet : ∀ item ∈ items, item.Quiet) : Phase host s items
  | creating {chain : HostChain} {admin : Addr} {codeId : Nat} {label : String}
      {msg : InstantiateMsg} {funds : List Coin} {salt : Bytes} {cache : ActionAfterCreationCache}
      {sender : Addr} {rest : List Item} (waits : Waits s cache sender)
      (isId : msg.accountId = some (cache.accountId.pushChain cache.chainName))
      (noModules : msg.installModules = [])
      (registry : (chain.env host s.world).assertRegistry = .ok ())
      (quiet : ∀ item ∈ rest, item.Quiet) :
      Phase host s (.send chain { msg := .Instantiate2 admin codeId label msg funds salt
                                  replyOnSuccess := some .InitBeforeAction } :: rest)
  | created {chain : HostChain} {cache : ActionAfterCreationCache} {sender account : Addr}
      {rest : List Item} (waits : Waits s cache sender)
      (found : getAccount (chain.env host s.world) (cache.accountId.pushChain cache.chainName) =
        .ok account) (quiet : ∀ item ∈ rest, item.Quiet) :
      Phase host s (.reply chain .InitBeforeAction :: rest)

theorem quiet_sends {chain : HostChain} {msgs : List HostSubMsg} (plain : ∀ sub ∈ msgs, sub.Plain)
    (quiet : ∀ item ∈ rest, item.Quiet) :
    ∀ item ∈ msgs.map (Item.send chain) ++ rest, item.Quiet := by
  intro item member
  rcases List.mem_append.mp member with sent | later
  · obtain ⟨sub, listed, rfl⟩ := List.mem_map.mp sent
    exact plain sub listed
  · exact quiet item later

/-! ## Steps -/

theorem Phase.call {chain : HostChain} {info : MessageInfo} {msg : ExecuteMsg} {h : HostState}
    {msgs : List HostSubMsg} (mirrored : s.host.Mirrored)
    (phase : Phase host s (.call chain info msg :: rest))
    (ok : execute (chain.env host s.world) info msg s.host = .ok (h, msgs)) :
    h.Mirrored ∧
      Phase host (s.sends h msgs (packetOf info msg)) (msgs.map (.send chain) ++ rest) := by
  cases phase with
  | idle temp history quiet =>
    have quietRest : ∀ item ∈ rest, item.Quiet := fun item later => quiet item (.tail _ later)
    cases isPacket : packetOf info msg with
    | nil =>
      obtain ⟨sameTemp, stays, sent⟩ := execute_other isPacket ok
      refine ⟨stays mirrored, .idle (sameTemp.trans temp) ?_ ?_⟩
      · exact .other history fun sub listed => (sent sub listed).1
      · exact quiet_sends (fun sub listed => (sent sub listed).2) quietRest
    | cons event events =>
      cases msg with
      | Execute id address action =>
        obtain ⟨rfl, rfl⟩ := List.cons.inj isPacket
        simp only [execute, loadSrcChain, bind_eq_ok, okOr_eq_ok] at ok
        obtain ⟨srcChain, registered, handled⟩ := ok
        have isProxy := mirrored.isProxy registered
        cases handleHostAction_handles handled with
        | register isRegister creates plain none =>
          refine ⟨mirrored, .idle temp ?_ ?_⟩
          · exact .register history isRegister ⟨srcChain, _, isProxy, rfl, creates⟩
          · exact quiet_sends (by simpa using plain) quietRest
        | dispatch notRegister found messages plain =>
          have lookup := (getAccount_eq_ok.mp found).2
          refine ⟨mirrored, .idle temp ?_ (quiet_sends plain quietRest)⟩
          exact .existing history ⟨srcChain, _, isProxy, notRegister, lookup, messages⟩
        | create notRegister missing registry creates noModules =>
          exact ⟨mirrored, .creating
            (waits_of_packet address isProxy notRegister creates history)
            creates noModules registry quietRest⟩
      | _ => cases isPacket

theorem Phase.reply {chain : HostChain} {id : ReplyId} {h : HostState} {msgs : List HostSubMsg}
    (mirrored : s.host.Mirrored) (phase : Phase host s (.reply chain id :: rest))
    (ok : IbcHost.reply (chain.env host s.world) id s.host = .ok (h, msgs)) :
    h.Mirrored ∧ Phase host (s.sends h msgs []) (msgs.map (.send chain) ++ rest) := by
  cases phase with
  | idle temp history quiet =>
    cases id with
    | InitBeforeAction => exact absurd rfl (quiet _ List.mem_cons_self)
    | Response =>
      simp only [IbcHost.reply, Except.ok.injEq, Prod.mk.injEq] at ok
      obtain ⟨rfl, rfl⟩ := ok
      refine ⟨mirrored, .idle temp (.other history (by simp)) ?_⟩
      exact fun item later => quiet item (.tail _ later)
  | created waits found quiet =>
    obtain ⟨temp, notRegister, isProxy, before, registry, create, log, creates, history, logged⟩ := waits
    simp only [IbcHost.reply, replyExecuteAction, bind_eq_ok, okOr_eq_ok] at ok
    obtain ⟨cache, isCache, handled⟩ := ok
    rw [temp, Option.some.injEq] at isCache
    subst isCache
    cases handleHostAction_handles handled with
    | register isRegister => rw [notRegister] at isRegister; cases isRegister
    | create _ missing => exact absurd found (missing _)
    | dispatch _ found messages plain =>
      have lookup := (getAccount_eq_ok.mp found).2
      refine ⟨mirrored, .idle rfl ?_ (quiet_sends plain quiet)⟩
      rw [HostWorld.sends, logged]
      exact .created history creates ⟨_, _, isProxy, notRegister, lookup, messages⟩

theorem Phase.send {chain : HostChain} {sub : HostSubMsg} {w : World} {delivered : List Item}
    (phase : Phase host s (.send chain sub :: rest))
    (delivers : Delivers host chain s.world sub.msg w delivered) :
    Phase host { s with world := w }
      (delivered ++ (sub.replyOnSuccess.map (Item.reply chain)).toList ++ rest) := by
  obtain ⟨msg, asks⟩ := sub
  cases phase with
  | idle temp history quiet =>
    have foreign : ∀ item ∈ delivered, item.Quiet := by
      cases delivers with
      | create => split <;> simp [Item.Quiet]
      | _ => simp [Item.Quiet]
    refine .idle temp history ?_
    simp only [List.mem_append, Option.mem_toList, Option.map_eq_some_iff]
    rintro item ((sent | ⟨id, asked, rfl⟩) | later)
    · exact foreign item sent
    · rintro rfl
      exact quiet _ List.mem_cons_self asked
    · exact quiet item (.tail _ later)
  | creating waits isId noModules registry quiet =>
    cases delivers with
    | create created =>
      obtain ⟨account, found⟩ := getAccount_of_created created isId registry
      rw [noModules]
      exact .created ⟨waits.temp, waits.notRegister, waits.isProxy, waits.logged⟩ found quiet

theorem Phase.expands {item : Item} (mirrored : s.host.Mirrored)
    (expands : (program host).Expands s item s' items) (phase : Phase host s (item :: rest)) :
    s'.host.Mirrored ∧ Phase host s' (items ++ rest) := by
  cases item with
  | call chain info msg =>
    obtain ⟨h, msgs, ok, rfl, rfl⟩ := expands
    exact phase.call mirrored ok
  | send chain sub =>
    obtain ⟨w, delivered, delivers, rfl, rfl⟩ := expands
    exact ⟨mirrored, phase.send delivers⟩
  | reply chain id =>
    obtain ⟨h, msgs, ok, rfl, rfl⟩ := expands
    exact phase.reply mirrored ok
  | foreign =>
    cases phase with
    | idle temp history quiet =>
      have quiet : ∀ item ∈ rest, item.Quiet := fun item later => quiet item (.tail _ later)
      cases expands with
      | done => exact ⟨mirrored, .idle temp history quiet⟩
      | call => exact ⟨mirrored, .idle temp history (by simpa [Item.Quiet] using quiet)⟩
      | accounts ok => exact ⟨mirrored, .idle temp history (by simpa [Item.Quiet] using quiet)⟩

/-! ## Runs -/

theorem mirrored_instantiate (info : MessageInfo) : (instantiate info).Mirrored :=
  mirror_empty _

theorem phase_reachable {info : MessageInfo} {w : World} {c : Calls.Config HostWorld Item}
    (reached : Reachable (program host)
      ⟨{ world := w, host := instantiate info, log := [] }, push [.foreign] []⟩ c) :
    c.state.host.Mirrored ∧ Phase host c.state (pending c.stack) := by
  refine reachable_invariant
    (I := fun s items => s.host.Mirrored ∧ Phase host s items) ?_ ?_ ?_ reached
  · rintro s item s' items rest expands ⟨mirrored, phase⟩
    exact phase.expands mirrored expands
  · rintro s item items rest ⟨rfl, rfl⟩ ⟨mirrored, phase⟩
    cases phase with
    | idle temp history quiet =>
      exact ⟨mirrored, .idle temp history (by simpa [Item.Quiet] using quiet)⟩
  · exact ⟨mirrored_instantiate info, .idle rfl .start (by simp [Item.Quiet])⟩

/-- The reply passes a waiting `Dispatch` on to the account that was created for it. -/
theorem reply_of_waits {chain : HostChain} {cache : ActionAfterCreationCache} {sender account : Addr}
    {accountMsgs : List Entry.ExecuteMsg} (waits : Waits s cache sender)
    (found : getAccount (chain.env host s.world) (cache.accountId.pushChain cache.chainName) =
      .ok account) (isDispatch : cache.action = .Dispatch accountMsgs) :
    IbcHost.reply (chain.env host s.world) .InitBeforeAction s.host =
      .ok ({ s.host with tempActionAfterCreation := none }, receiveDispatch account accountMsgs) := by
  simp only [IbcHost.reply, replyExecuteAction, bind_eq_ok, okOr_eq_ok]
  refine ⟨cache, waits.temp, ?_⟩
  simp only [isDispatch, handleHostAction, found]
  rfl

/-- From a new host, after any interleaving of calls: every packet is handled once, as
    `History` describes it, or the action of the last packet waits in the host's storage,
    nothing but the creation of its account and the reply to it comes next, and the
    reply passes the action on to the created account. -/
theorem host_dispatches_once {info : MessageInfo} {w : World} {c : Calls.Config HostWorld Item}
    (reached : Reachable (program host)
      ⟨{ world := w, host := instantiate info, log := [] }, push [.foreign] []⟩ c) :
    (History c.state.log ∧ c.state.host.tempActionAfterCreation = none ∧
      ∀ item ∈ pending c.stack, item.Quiet) ∨
    ∃ cache sender next rest, Waits c.state cache sender ∧ pending c.stack = next :: rest ∧
      ¬ next.Quiet ∧ (∀ item ∈ rest, item.Quiet) ∧
      ∀ chain id accountMsgs, next = .reply chain id → cache.action = .Dispatch accountMsgs →
        ∃ account, c.state.world.registry.accountAddresses.lookup
            (cache.accountId.pushChain cache.chainName).storageKey = some account ∧
          IbcHost.reply (chain.env host c.state.world) id c.state.host =
            .ok ({ c.state.host with tempActionAfterCreation := none },
              receiveDispatch account accountMsgs) := by
  obtain ⟨_, phase⟩ := phase_reachable reached
  generalize pendingItems : pending c.stack = items at phase
  cases phase with
  | idle temp history quiet => exact .inl ⟨history, temp, quiet⟩
  | creating waits isId noModules registry quiet =>
    refine .inr ⟨_, _, _, _, waits, rfl, fun plain => plain rfl, quiet, ?_⟩
    intro chain id accountMsgs isReply
    cases isReply
  | created waits found quiet =>
    refine .inr ⟨_, _, _, _, waits, rfl, fun plain => plain rfl, quiet, ?_⟩
    intro chain id accountMsgs isReply isDispatch
    obtain ⟨rfl, rfl⟩ := Item.reply.inj isReply
    exact ⟨_, (getAccount_eq_ok.mp found).2, reply_of_waits waits found isDispatch⟩

end Phases

section Sample

attribute [local instance] accountCrates noAuthenticators

def sampleHost : Addr := ⟨"host"⟩

/-- The small chain with a host. -/
def sampleHostChain : HostChain :=
  { sampleChain with
    others := fun addr =>
      if addr = sampleHost then
        some { Contract.bare 2 with cw2 := some { contract := IBC_HOST, version := CONTRACT_VERSION } }
      else none
    chainName := ⟨"osmosis"⟩
    toJson := fun _ => []
    ics20Channel := fun _ => .error "no channel" }

/-- The admin registers the host. -/
def publishHostTx : Tx :=
  let host : ModuleInfo :=
    { ns := ⟨"abstract"⟩, name := "ibc-host", version := .Version CONTRACT_VERSION }
  { chain := sampleHostChain.toChainView
    call := .registry (sampleInfo "adm") (.ProposeModules [(host, .Native sampleHost)]) }

/-- A new host on a chain without accounts. -/
def newHost : HostWorld where
  world := Machine.run Accounts.exec { accounts := ∅, registry := sampleRegistry }
    [publishTx, publishHostTx]
  host := instantiate (sampleInfo "adm")
  log := []

/-- The admin has registered a proxy. -/
def withProxy : HostWorld :=
  newHost.sends
    { newHost.host with
      chainProxies := (∅ : Map TruncatedChainId Addr).insert ⟨"juno"⟩ ⟨"proxy"⟩
      reverseChainProxies := (∅ : Map Addr TruncatedChainId).insert ⟨"proxy"⟩ ⟨"juno"⟩ } [] []

def suspend : HostAction := .Dispatch [.UpdateStatus (some true)]

/-- The account that stands for the first account of the other chain. -/
def remoteAccount : AccountId := (AccountId.ofLocal 0).pushChain ⟨"juno"⟩

def remoteInit : InstantiateMsg where
  codeId := 1
  owner := some (.External "host" "abstract-ibc")
  accountId := some remoteAccount
  authenticator := none
  ns := none
  installModules := []
  name := some (remoteName ⟨"juno"⟩ remoteAccount)
  description := none
  link := none

def createRemote : HostSubMsg where
  msg := .Instantiate2 ⟨"host-sub"⟩ 1 remoteAccount.toStr remoteInit [] []
  replyOnSuccess := some .InitBeforeAction

/-- The proxy has delivered a packet for an account that is not there. -/
def parked : HostWorld :=
  withProxy.sends
    { withProxy.host with
      tempActionAfterCreation := some (waiting ⟨"juno"⟩ "juno1" (.ofLocal 0) suspend) }
    [createRemote] [.packet ⟨"proxy"⟩ (.ofLocal 0) suspend]

/-- Other code calls the host. -/
theorem reachable_execute {host : Addr} {s : HostWorld} (chain : HostChain) (info : MessageInfo)
    (msg : ExecuteMsg) {h : HostState} {msgs : List HostSubMsg}
    (ok : execute (chain.env host s.world) info msg s.host = .ok (h, msgs)) :
    Reachable (program host) ⟨s, push [.foreign] []⟩
      ⟨s.sends h msgs (packetOf info msg), push (msgs.map (.send chain)) (push [.foreign] [])⟩ :=
  .head (.work (.call chain info msg)) (.single (.work ⟨h, msgs, ok, rfl, rfl⟩))

/-- A packet for an account that is not there: the account is created, and the message
    is sent to it once. -/
theorem host_dispatches_once_created :
    ∃ c account, Reachable (program sampleHost) ⟨newHost, push [.foreign] []⟩ c ∧
      History c.state.log ∧
      c.state.world.registry.accountAddresses.lookup remoteAccount.storageKey = some account ∧
      pending c.stack = [.send sampleHostChain
        { msg := .Account account (.UpdateStatus (some true)), replyOnSuccess := some .Response },
        .foreign] := by
  have registered : Reachable (program sampleHost) ⟨newHost, push [.foreign] []⟩
      ⟨withProxy, push [.foreign] []⟩ :=
    reachable_execute sampleHostChain (sampleInfo "adm") (.RegisterChainProxy ⟨"juno"⟩ "proxy") rfl
  have received : Reachable (program sampleHost) ⟨withProxy, push [.foreign] []⟩
      ⟨parked, push [.send sampleHostChain createRemote] (push [.foreign] [])⟩ :=
    reachable_execute sampleHostChain (sampleInfo "proxy") (.Execute (.ofLocal 0) "juno1" suspend) rfl
  have accepted : (sampleHostChain.deliver (sampleHostChain.call sampleHostChain.maxCallDepth)
      sampleHost parked.world (.new (.Instantiate2 ⟨"host-sub"⟩ 1 remoteAccount.toStr remoteInit
        [] []))).toOption.isSome = true := by decide
  obtain ⟨w, created⟩ := Option.isSome_iff_exists.mp accepted
  have waits : Reachable (program sampleHost) ⟨newHost, push [.foreign] []⟩
      ⟨{ parked with world := w },
        push [.reply sampleHostChain .InitBeforeAction] (push [.foreign] [])⟩ :=
    (registered.trans received).tail
      (.work ⟨w, [], .create (toOption_eq_some.mp created), rfl, rfl⟩)
  rcases host_dispatches_once waits with ⟨_, temp, _⟩ | ⟨cache, _, _, _, cached, isNext, _, _, passes⟩
  · cases temp
  · obtain rfl : waiting ⟨"juno"⟩ "juno1" (.ofLocal 0) suspend = cache := Option.some.inj cached.temp
    obtain ⟨rfl, _⟩ := List.cons.inj isNext
    obtain ⟨account, found, ok⟩ := passes _ _ _ rfl rfl
    have dispatched := waits.tail (.work ⟨_, _, ok, rfl, rfl⟩)
    rcases host_dispatches_once dispatched with ⟨history, _⟩ | ⟨_, _, _, _, again, _⟩
    · exact ⟨_, account, dispatched, history, found, rfl⟩
    · cases again.temp

end Sample

end AbstractFramework.IbcHost
