import AbstractFramework.IbcHost.Transactions
import AbstractFramework.Interchain.UnreportedAccounts

/-! # Who commands a remote account

The host of another chain does not know who has called the client: it takes the account id
from the packet and pushes the chain of the proxy onto its trace.  The client writes the
id of its caller into the packet, and the registries have an id for one account only.
Hence a remote account hears of one account only, and what it hears that account has asked
for.
-/

namespace AbstractFramework.Interchain

open Fallible Storage Accounts Machine
open Account hiding World
open IbcClient (ClientState ClientMsg ClientSubMsg PolytoneNoteExecuteMsg RemoteMsg SubMsgResponse)
open IbcHost (ChainState HostState HostSubMsg HostTx)

section Model

variable [Crates] [Xion]

/-- While messages of a packet are executed, the host sends a message. -/
inductive Arrival.Sends (arrival : Arrival) (host : Addr) (link : Link) (sub : HostSubMsg) :
    List RemoteMsg → ChainState → ChainState → Prop where
  | here {remote : RemoteMsg} {rest : List RemoteMsg} {s m t : ChainState} {log : List HostSubMsg}
      {responses : List SubMsgResponse} (executed : (arrival.tx link remote.msg).exec host s = .ok m)
      (logs : (arrival.tx link remote.msg).Logs host s m log) (sent : sub ∈ log)
      (later : arrival.executeMsgs host link rest m = .ok (t, responses)) :
      Sends arrival host link sub (remote :: rest) s t
  | later {remote : RemoteMsg} {rest : List RemoteMsg} {s m t : ChainState}
      (executed : (arrival.tx link remote.msg).exec host s = .ok m)
      (sends : Sends arrival host link sub rest m t) :
      Sends arrival host link sub (remote :: rest) s t

/-- In the run, the packet is executed, and the host of the chain then sends a message to
    the account. -/
def Commands (relay : Relay) (start : Bridge) (inputs : List Input) (packet : Packet)
    (name : TruncatedChainId) (account : Addr) (msg : Entry.ExecuteMsg) : Prop :=
  ∃ before k arrival after link sub msgs callback timeout s',
    inputs = before ++ .arrive k arrival :: after ∧
    (run (Input.exec relay) start before).packets.lookup k = some (packet, .Sent) ∧
    relay.link packet.note = some link ∧ link.chain = name ∧
    packet.msg = .Execute msgs callback timeout ∧
    (Input.arrive k arrival).exec relay (run (Input.exec relay) start before) = .ok (s', ()) ∧
    arrival.Sends (relay.hostOf name) link sub msgs
      ((run (Input.exec relay) start before).chains name) (s'.chains name) ∧
    sub.toAccount = some (account, msg)

/-- The accounts of a registry have the ids that they are registered under. -/
def Named (v : View) : Prop :=
  ∀ key account, v.registered key = some account → ∃ id, v.ids account = some id ∧ id.storageKey = key

/-- The packet names its sender, and has the action that the sender has asked for. -/
def Speaks (relay : Relay) (w : World) (packet : Packet) : Prop :=
  ∀ msgs callback timeout, packet.msg = .Execute msgs callback timeout →
    ∀ remote ∈ msgs, ∀ id address action, remote.msg = .Execute id address action →
      id.trace.verify = .ok () ∧
      w.registry.accountAddresses.lookup id.storageKey = some packet.sender ∧
      (action.isRegister = false → ∃ link, relay.link packet.note = some link ∧
        packet.call = .RemoteAction link.chain action)

def VerifiedProxies (h : HostState) : Prop :=
  ∀ proxy chain, h.reverseChainProxies.lookup proxy = some chain → chain.verify = .ok ()

/-- A chain whose registry names its accounts, and whose proxies are those of chains. -/
def Sound (s : ChainState) : Prop := Named s.world.view ∧ VerifiedProxies s.host

structure Commanded (relay : Relay) (s : Bridge) : Prop where
  agrees : Agrees relay s
  sound : ∀ name, Sound (s.chains name)
  speaks : ∀ k packet stage, s.packets.lookup k = some (packet, stage) → Speaks relay s.source packet

end Model

/-! ## Registries -/

section Registries

variable [Crates] [Xion] {v v' : View}

omit [Xion] in
theorem Named.sameButLists (named : Named v) (same : SameButLists v v') : Named v' := by
  intro key account isRegistered
  rw [same.registered] at isRegistered
  rw [same.ids]
  exact named key account isRegistered

omit [Xion] in
theorem Named.set {account : Addr} {n : Entry.Node} (named : Named v)
    (kept : ∀ id, v.ids account = some id → n.id = id) : Named (v.set account n) := by
  intro key other isRegistered
  obtain ⟨id, has, isKey⟩ := named key other isRegistered
  refine ⟨id, ?_, isKey⟩
  rw [ids_set]
  by_cases same : other = account
  · subst same
    rw [Function.update_self, kept id has]
  · rw [Function.update_of_ne same]
    exact has

omit [Xion] in
theorem Named.register {account : Addr} {id : AccountId} (named : Named v)
    (isId : v.ids account = some id) : Named (v.register id account) := by
  intro key other isRegistered
  by_cases sameKey : key = id.storageKey
  · subst sameKey
    have isAccount : other = account := by simpa [View.register, eq_comm] using isRegistered
    exact ⟨id, isAccount ▸ isId, rfl⟩
  · exact named key other (by simpa [View.register, sameKey] using isRegistered)

theorem Named.moves {c : Call} (named : Named v) (moves : Moves v c v') : Named v' := by
  have owned : ∀ {account : Addr} {n : Entry.Node} (r : Ownership), v.nodes account = some n →
      Named (v.set account { n with ownership := r }) := by
    intro account n r found
    refine named.set fun id has => ?_
    rw [ids_of_node found, Option.some.injEq] at has
    exact has
  cases moves with
  | keep => exact named
  | propose found known => exact owned _ found
  | accept found isPending left joined =>
    exact ((owned _ found).sameButLists left.lists.1).sameButLists joined.lists.1
  | renounce found left => exact (owned _ found).sameButLists left.lists.1
  | update updates => exact named.sameButLists updates.lists.1
  | @create _ account n _ new joined =>
    have fresh : Named (v.set account n) := by
      refine named.set fun id has => ?_
      simp [View.ids, new.fresh] at has
    refine Named.sameButLists (fresh.register ?_) joined.lists.1
    rw [ids_set, Function.update_self]
  | enlist found valid unregistered => exact named.register (ids_of_node found)

omit [Xion] in
/-- An account is registered under one key. -/
theorem Named.unique (named : Named v) {key key' : AccountKey} {account : Addr}
    (isRegistered : v.registered key = some account)
    (isRegistered' : v.registered key' = some account) : key = key' := by
  obtain ⟨id, has, rfl⟩ := named key account isRegistered
  obtain ⟨id', has', rfl⟩ := named key' account isRegistered'
  rw [Option.some.inj (has.symm.trans has')]

end Registries

/-! ## Hosts -/

section Hosts

variable [Crates] [Xion] {host : Addr} {tx : HostTx} {s s' : ChainState}

theorem exec_verifiedProxies (verified : VerifiedProxies s.host) (h : tx.exec host s = .ok s') :
    VerifiedProxies s'.host := by
  intro proxy chain isProxy
  rcases exec_proxies h isProxy with before | ⟨text, isMsg, _, _⟩
  · exact verified proxy chain before
  · obtain ⟨h', msgs, executed, _⟩ := IbcHost.exec_eq_ok h
    simp only [isMsg, IbcHost.execute, IbcHost.registerChainProxy, bind_eq_ok,
      mapError_eq_ok] at executed
    obtain ⟨_, _, _, verified, _⟩ := executed
    exact verified

theorem exec_sound (sound : Sound s) (h : tx.exec host s = .ok s') : Sound s' :=
  ⟨IbcHost.exec_view (fun _ _ _ named moves => named.moves moves) h sound.1,
    exec_verifiedProxies sound.2 h⟩

theorem input_sound {input : IbcHost.HostInput} {u : Unit} (sound : Sound s)
    (h : input.exec host s = .ok (s', u)) : Sound s' := by
  cases input with
  | host tx =>
    simp only [IbcHost.HostInput.exec, bind_eq_ok, pure_eq_ok, Prod.mk.injEq] at h
    obtain ⟨_, executed, rfl, _⟩ := h
    exact exec_sound sound executed
  | accounts tx =>
    simp only [IbcHost.HostInput.exec, bind_eq_ok, mapError_eq_ok, pure_eq_ok, Prod.mk.injEq] at h
    obtain ⟨⟨w, _⟩, executed, rfl, _⟩ := h
    exact ⟨sound.1.moves (exec_moves executed), sound.2⟩

/-- Calls of the host that are no packets of accounts send nothing to accounts. -/
theorem Logs.other {t : ChainState} {log : List HostSubMsg} {sub : HostSubMsg}
    (logs : tx.Logs host s t log) (notPacket : IbcHost.packetOf tx.info tx.msg = [])
    (sent : sub ∈ log) : sub.toAccount = none := by
  obtain ⟨h, msgs, executed, runs⟩ := logs
  obtain ⟨_, _, quiet⟩ := IbcHost.execute_other notPacket executed
  have carries : IbcHost.Carries ⟨""⟩ "" (.ofLocal 0) (.Dispatch []) { s with host := h } msgs := by
    refine .messages (fun sub listed => (quiet sub listed).2) fun sub listed account msg isAccount => ?_
    rw [(quiet sub listed).1] at isAccount
    cases isAccount
  cases isAccount : sub.toAccount with
  | none => rfl
  | some target =>
    obtain ⟨account, msg⟩ := target
    cases (carries.logged runs sent isAccount).1

end Hosts

/-! ## Packets -/

section Steps

variable [Crates] [Xion] {relay : Relay} {s s' : Bridge}

/-- A packet has one message at most. -/
theorem Asked.one {packet : Packet} {msgs : List RemoteMsg}
    {callback : Option IbcClient.CallbackRequest} {timeout : Nat} (asked : Asked relay packet)
    (isMsg : packet.msg = .Execute msgs callback timeout) : msgs = [] ∨ ∃ remote, msgs = [remote] := by
  obtain ⟨_, call, note, asked'⟩ := packet
  obtain ⟨env, info, client, _, _, _, _, _, asked⟩ := asked
  dsimp only at isMsg
  subst isMsg
  cases asked with
  | whoAmI => exact .inl rfl
  | action | register | module => exact .inr ⟨_, rfl⟩

theorem speaks_of_asks {chain : SourceChain} {info : MessageInfo} {client : ClientState}
    {call : IbcClient.ExecuteMsg} {note : Addr} {msg : PolytoneNoteExecuteMsg} (agrees : Agrees relay s)
    (isClient : client = s.client)
    (asks : Asks (relay.env chain s.source) info client call note msg) :
    Speaks relay s.source ⟨info.sender, call, note, msg⟩ := by
  subst isClient
  intro msgs callback timeout isMsg remote listed id address action isExecute
  dsimp only at isMsg
  cases asks with
  | whoAmI =>
    obtain ⟨rfl, _, _⟩ := PolytoneNoteExecuteMsg.Execute.inj isMsg
    cases listed
  | query => cases isMsg
  | module =>
    obtain ⟨rfl, _, _⟩ := PolytoneNoteExecuteMsg.Execute.inj isMsg
    rw [List.mem_singleton.mp listed] at isExecute
    cases isExecute
  | action registered isAccount hasId =>
    obtain ⟨rfl, _, _⟩ := PolytoneNoteExecuteMsg.Execute.inj isMsg
    rw [List.mem_singleton.mp listed] at isExecute
    obtain ⟨rfl, _, rfl⟩ := IbcHost.ExecuteMsg.Execute.inj isExecute
    obtain ⟨valid, isRegistered⟩ := agrees.verified.of_assertAccount isAccount hasId
    obtain ⟨⟨link, isLink, rfl⟩, _⟩ := agrees.infra _ _ registered
    exact ⟨valid, isRegistered, fun _ => ⟨link, isLink, rfl⟩⟩
  | register registered isAccount hasId =>
    obtain ⟨rfl, _, _⟩ := PolytoneNoteExecuteMsg.Execute.inj isMsg
    rw [List.mem_singleton.mp listed] at isExecute
    obtain ⟨rfl, _, rfl⟩ := IbcHost.ExecuteMsg.Execute.inj isExecute
    obtain ⟨valid, isRegistered⟩ := agrees.verified.of_assertAccount isAccount hasId
    exact ⟨valid, isRegistered, fun notRegister => by cases notRegister⟩

/-- Accounts of the client's chain stay registered. -/
def Bridge.SourceGrows (s s' : Bridge) : Prop :=
  ∀ key account, s.source.registry.accountAddresses.lookup key = some account →
    s'.source.registry.accountAddresses.lookup key = some account

theorem step_sourceGrows {input : Input} {u : Unit} (ok : input.exec relay s = .ok (s', u)) :
    s.SourceGrows s' := by
  have same (isSame : s'.source = s.source) : s.SourceGrows s' := by
    intro key account there
    rw [isSame]
    exact there
  cases input with
  | here tx =>
    simp only [Input.exec, bind_eq_ok, mapError_eq_ok, pure_eq_ok, Prod.mk.injEq] at ok
    obtain ⟨⟨w, _⟩, executed, rfl, _⟩ := ok
    exact fun key account there => (exec_moves executed).registered_stays there
  | arrive k arrival =>
    simp only [Input.exec, bind_eq_ok] at ok
    obtain ⟨packet, _, link, _, ok⟩ := ok
    split at ok
    · cases ok
    · simp only [bind_eq_ok, pure_eq_ok, Prod.mk.injEq] at ok
      obtain ⟨_, _, rfl, _⟩ := ok
      exact same rfl
  | call chain info msg ids =>
    simp only [Input.exec, bind_eq_ok, pure_eq_ok, Prod.mk.injEq] at ok
    obtain ⟨_, _, _, _, _, _, rfl, _⟩ := ok
    exact same rfl
  | settle k outcome =>
    simp only [Input.exec, bind_eq_ok, pure_eq_ok, Prod.mk.injEq] at ok
    obtain ⟨_, _, _, _, rfl, _⟩ := ok
    exact same rfl
  | reply chain id result =>
    simp only [Input.exec, bind_eq_ok, pure_eq_ok, Prod.mk.injEq] at ok
    obtain ⟨_, _, rfl, _⟩ := ok
    exact same rfl
  | lifecycle msg =>
    simp only [Input.exec, bind_eq_ok, pure_eq_ok, Prod.mk.injEq] at ok
    obtain ⟨_, _, rfl, _⟩ := ok
    exact same rfl
  | tell k chain =>
    simp only [Input.exec, bind_eq_ok, pure_eq_ok, Prod.mk.injEq] at ok
    obtain ⟨_, _, rfl, _⟩ := ok
    exact same rfl
  | there name input =>
    simp only [Input.exec, bind_eq_ok, pure_eq_ok, Prod.mk.injEq] at ok
    obtain ⟨_, _, rfl, _⟩ := ok
    exact same rfl

theorem Speaks.grows {packet : Packet} (speaks : Speaks relay s.source packet)
    (grows : s.SourceGrows s') : Speaks relay s'.source packet := by
  intro msgs callback timeout isMsg remote listed id address action isExecute
  obtain ⟨valid, isRegistered, isAction⟩ :=
    speaks msgs callback timeout isMsg remote listed id address action isExecute
  exact ⟨valid, grows _ _ isRegistered, isAction⟩

/-- Every packet after a step was there before, or a call has just sent it. -/
theorem step_packets {input : Input} {u : Unit} (agrees : Agrees relay s)
    (ok : input.exec relay s = .ok (s', u)) {k : Nat} {packet : Packet} {stage : Stage}
    (found : s'.packets.lookup k = some (packet, stage)) :
    (∃ k stage, s.packets.lookup k = some (packet, stage)) ∨ Speaks relay s.source packet := by
  have advanced {k' : Nat} {packet' : Packet} {stage₀ stage' : Stage}
      (there : s.packets.lookup k' = some (packet', stage₀))
      (isPackets : s'.packets = s.packets.insert k' (packet', stage')) :
      ∃ k stage, s.packets.lookup k = some (packet, stage) := by
    rw [isPackets] at found
    rcases lookup_insert_cases found with ⟨_, same⟩ | ⟨_, before⟩
    · obtain ⟨rfl, _⟩ := Prod.mk.inj same
      exact ⟨k', stage₀, there⟩
    · exact ⟨k, stage, before⟩
  cases input with
  | call chain info msg ids =>
    simp only [Input.exec, bind_eq_ok, ensure_eq_ok, mapError_eq_ok, pure_eq_ok, Prod.mk.injEq] at ok
    obtain ⟨_, genuine, ⟨client, subs⟩, executed, packets, departed, rfl, _⟩ := ok
    rcases depart_cases departed found with before | ⟨note, msg', sent, rfl, _⟩
    · exact .inl ⟨k, stage, before⟩
    · exact .inr (speaks_of_asks agrees rfl
        (asks_of_execute executed (agrees.not_callback genuine executed) sent))
  | arrive k' arrival =>
    simp only [Input.exec, bind_eq_ok] at ok
    obtain ⟨packet', isSent, link, _, ok⟩ := ok
    split at ok
    · cases ok
    · simp only [bind_eq_ok, pure_eq_ok, Prod.mk.injEq] at ok
      obtain ⟨_, _, rfl, _⟩ := ok
      exact .inl (advanced (sent_eq_ok.mp isSent) rfl)
  | settle k' outcome =>
    simp only [Input.exec, bind_eq_ok, pure_eq_ok, Prod.mk.injEq] at ok
    obtain ⟨packet', isSent, _, _, rfl, _⟩ := ok
    exact .inl (advanced (sent_eq_ok.mp isSent) rfl)
  | tell k' chain =>
    simp only [Input.exec, bind_eq_ok, pure_eq_ok, Prod.mk.injEq] at ok
    obtain ⟨⟨packet', outcome⟩, isExecuted, rfl, _⟩ := ok
    exact .inl (advanced (executed_eq_ok.mp isExecuted) rfl)
  | reply chain id result =>
    simp only [Input.exec, bind_eq_ok, pure_eq_ok, Prod.mk.injEq] at ok
    obtain ⟨_, _, rfl, _⟩ := ok
    exact .inl ⟨k, stage, found⟩
  | lifecycle msg =>
    simp only [Input.exec, bind_eq_ok, pure_eq_ok, Prod.mk.injEq] at ok
    obtain ⟨_, _, rfl, _⟩ := ok
    exact .inl ⟨k, stage, found⟩
  | here tx =>
    simp only [Input.exec, bind_eq_ok, pure_eq_ok, Prod.mk.injEq] at ok
    obtain ⟨_, _, rfl, _⟩ := ok
    exact .inl ⟨k, stage, found⟩
  | there name input =>
    simp only [Input.exec, bind_eq_ok, pure_eq_ok, Prod.mk.injEq] at ok
    obtain ⟨_, _, rfl, _⟩ := ok
    exact .inl ⟨k, stage, found⟩

/-- Every chain after a step is the one before, or has executed a packet or an input. -/
theorem step_sound {input : Input} {u : Unit} (sound : ∀ name, Sound (s.chains name))
    (ok : input.exec relay s = .ok (s', u)) (name : TruncatedChainId) : Sound (s'.chains name) := by
  have updated {other : TruncatedChainId} {c : ChainState} (here : Sound c)
      (isChains : s'.chains = Function.update s.chains other c) : Sound (s'.chains name) := by
    rw [isChains]
    by_cases same : name = other
    · subst same
      rwa [Function.update_self]
    · rw [Function.update_of_ne same]
      exact sound name
  cases input with
  | arrive k arrival =>
    simp only [Input.exec, bind_eq_ok] at ok
    obtain ⟨packet, _, link, _, ok⟩ := ok
    split at ok
    · cases ok
    · simp only [bind_eq_ok, pure_eq_ok, Prod.mk.injEq] at ok
      obtain ⟨⟨c, responses⟩, done, rfl, _⟩ := ok
      exact updated (executeMsgs_invariant (fun _ _ _ _ sound executed => exec_sound sound executed)
        (sound link.chain) done) rfl
  | there other input =>
    simp only [Input.exec, bind_eq_ok, mapError_eq_ok, pure_eq_ok, Prod.mk.injEq] at ok
    obtain ⟨⟨c, _⟩, executed, rfl, _⟩ := ok
    exact updated (input_sound (sound other) executed) rfl
  | call chain info msg ids =>
    simp only [Input.exec, bind_eq_ok, pure_eq_ok, Prod.mk.injEq] at ok
    obtain ⟨_, _, _, _, _, _, rfl, _⟩ := ok
    exact sound name
  | settle k outcome =>
    simp only [Input.exec, bind_eq_ok, pure_eq_ok, Prod.mk.injEq] at ok
    obtain ⟨_, _, _, _, rfl, _⟩ := ok
    exact sound name
  | reply chain id result =>
    simp only [Input.exec, bind_eq_ok, pure_eq_ok, Prod.mk.injEq] at ok
    obtain ⟨_, _, rfl, _⟩ := ok
    exact sound name
  | lifecycle msg =>
    simp only [Input.exec, bind_eq_ok, pure_eq_ok, Prod.mk.injEq] at ok
    obtain ⟨_, _, rfl, _⟩ := ok
    exact sound name
  | tell k chain =>
    simp only [Input.exec, bind_eq_ok, pure_eq_ok, Prod.mk.injEq] at ok
    obtain ⟨_, _, rfl, _⟩ := ok
    exact sound name
  | here tx =>
    simp only [Input.exec, bind_eq_ok, pure_eq_ok, Prod.mk.injEq] at ok
    obtain ⟨_, _, rfl, _⟩ := ok
    exact sound name

theorem Commanded.step {input : Input} {u : Unit} (commanded : Commanded relay s)
    (right : ConnectsRight relay s input) (ok : input.exec relay s = .ok (s', u)) :
    Commanded relay s' where
  agrees := commanded.agrees.step right ok
  sound := step_sound commanded.sound ok
  speaks k packet stage found := by
    rcases step_packets commanded.agrees ok found with ⟨k', stage', before⟩ | speaks
    · exact (commanded.speaks k' packet stage' before).grows (step_sourceGrows ok)
    · exact speaks.grows (step_sourceGrows ok)

/-- A message of the host to an account is one that the sender of the packet has asked
    for, and the account is the one that is registered for the sender. -/
theorem Commanded.sends {k : Nat} {packet : Packet} {arrival : Arrival} {link : Link}
    {msgs : List RemoteMsg} {callback : Option IbcClient.CallbackRequest} {timeout : Nat}
    {t : ChainState} {sub : HostSubMsg} {account : Addr} {msg : Entry.ExecuteMsg}
    (commanded : Commanded relay s) (found : s.packets.lookup k = some (packet, .Sent))
    (isLink : relay.link packet.note = some link) (isMsg : packet.msg = .Execute msgs callback timeout)
    (sends : arrival.Sends (relay.hostOf link.chain) link sub msgs (s.chains link.chain) t)
    (isAccount : sub.toAccount = some (account, msg)) :
    ∃ (id : AccountId) (action : IbcHost.HostAction),
      packet.call = .RemoteAction link.chain action ∧ msg ∈ action.accountMsgs ∧
      id.trace.verify = .ok () ∧ relay.source.verify = .ok () ∧
      s.source.registry.accountAddresses.lookup id.storageKey = some packet.sender ∧
      t.world.registry.accountAddresses.lookup (id.pushChain relay.source).storageKey =
        some account := by
  have asked := commanded.agrees.asked k packet .Sent found
  have speaks := commanded.speaks k packet .Sent found
  rcases asked.one isMsg with rfl | ⟨remote, rfl⟩
  · cases sends
  cases sends with
  | later _ sends => cases sends
  | here executed logs sent later =>
    obtain ⟨rfl, _⟩ := Prod.mk.inj (Except.ok.inj later)
    cases isRemote : remote.msg with
    | Execute id address action =>
      have called := logs
      obtain ⟨_, _, called, _⟩ := called
      simp only [Arrival.tx, isRemote, IbcHost.execute, IbcHost.loadSrcChain, bind_eq_ok,
        okOr_eq_ok] at called
      obtain ⟨chain, isProxy, _⟩ := called
      obtain rfl := commanded.agrees.proxies _ link chain isLink isProxy
      have valid := (commanded.sound link.chain).2 _ _ isProxy
      obtain ⟨isAction, there⟩ := IbcHost.Logs.action logs isRemote isProxy sent isAccount
      obtain ⟨verified, isRegistered, isCall⟩ :=
        speaks _ _ _ isMsg remote List.mem_cons_self id address action isRemote
      have notRegister : action.isRegister = false := by
        cases action with
        | Internal internal => cases isAction
        | Dispatch msgs => rfl
        | Helpers helper => rfl
      obtain ⟨link', isLink', asksFor⟩ := isCall notRegister
      obtain rfl := Option.some.inj (isLink.symm.trans isLink')
      exact ⟨id, action, asksFor, isAction, verified, valid, isRegistered, there⟩
    | _ =>
      rw [Logs.other logs (by simp [Arrival.tx, isRemote, IbcHost.packetOf]) sent] at isAccount
      cases isAccount

theorem Starts.commanded {registry : RegistryState} {chains : TruncatedChainId → ChainState}
    (starts : Starts registry chains) (named : ∀ name, Named (chains name).world.view)
    (owner : MessageInfo) : Commanded relay (newBridge registry owner chains) where
  agrees := starts.agrees owner
  sound name := by
    refine ⟨named name, fun proxy chain isProxy => ?_⟩
    obtain ⟨info, new⟩ := starts.hosts name
    rw [newBridge, new] at isProxy
    cases isProxy
  speaks _ _ _ found := by cases found

theorem run_stays {inputs : List Input} :
    s.SourceGrows (run (Input.exec relay) s inputs) ∧ s.Grows (run (Input.exec relay) s inputs) := by
  refine run_invariant (P := fun t => s.SourceGrows t ∧ s.Grows t) inputs ?_
    ⟨fun _ _ there => there, fun _ _ _ there => there⟩
  rintro m input m' u ⟨source, chains⟩ ok
  exact ⟨fun key account there => step_sourceGrows ok key account (source key account there),
    fun chain id account there => step_grows ok chain id account (chains chain id account there)⟩

/-- A command in a run from a bridge with nothing on its way. -/
theorem Commands.asked {start : Bridge} {inputs : List Input} {packet : Packet}
    {name : TruncatedChainId} {account : Addr} {msg : Entry.ExecuteMsg}
    (commands : Commands relay start inputs packet name account msg)
    (right : AlongAccepted (Input.exec relay) (ConnectsRight relay) start inputs)
    (commanded : Commanded relay start) (reached : s = run (Input.exec relay) start inputs) :
    ∃ (id : AccountId) (action : IbcHost.HostAction),
      packet.call = .RemoteAction name action ∧ msg ∈ action.accountMsgs ∧
      id.trace.verify = .ok () ∧ relay.source.verify = .ok () ∧
      s.source.registry.accountAddresses.lookup id.storageKey = some packet.sender ∧
      s.HasAccount name (id.pushChain relay.source) account := by
  obtain ⟨before, k, arrival, after, link, sub, msgs, callback, timeout, s', rfl, found, isLink, rfl,
    isMsg, ok, sends, isAccount⟩ := commands
  obtain ⟨rightBefore, _⟩ := alongAccepted_append.mp right
  have held : Commanded relay (run (Input.exec relay) start before) :=
    run_invariant_accepted (fun _ _ _ _ right commanded ok => Commanded.step commanded right ok)
      commanded rightBefore
  obtain ⟨id, action, isCall, isAction, valid, validSource, isRegistered, there⟩ :=
    held.sends found isLink isMsg sends isAccount
  obtain ⟨sourceStays, stays⟩ :
      s'.SourceGrows (run (Input.exec relay) s' after) ∧ s'.Grows (run (Input.exec relay) s' after) :=
    run_stays
  rw [run_append, run_cons, step_of_ok ok] at reached
  refine ⟨id, action, isCall, isAction, valid, validSource, ?_, ?_⟩
  · rw [reached]
    exact sourceStays _ _ (step_sourceGrows ok _ _ isRegistered)
  · rw [reached]
    exact stays _ _ _ there

/-- In every run that connects the notes to their chains: what the host of a chain sends
    to an account, the account that it is registered for has asked for; and all that it
    sends to one account, one account of the client's chain has asked for.  The exception
    are accounts with an empty remote trace, which no ibc host creates. -/
theorem remote_account_has_one_master {registry : RegistryState}
    {chains : TruncatedChainId → ChainState} {owner : MessageInfo} {inputs : List Input}
    (starts : Starts registry chains) (named : ∀ name, Named (chains name).world.view)
    (right : AlongAccepted (Input.exec relay) (ConnectsRight relay)
      (newBridge registry owner chains) inputs)
    (reached : s = run (Input.exec relay) (newBridge registry owner chains) inputs)
    {name : TruncatedChainId} {account : Addr} {packet packet' : Packet} {msg msg' : Entry.ExecuteMsg}
    (first : Commands relay (newBridge registry owner chains) inputs packet name account msg)
    (second : Commands relay (newBridge registry owner chains) inputs packet' name account msg') :
    (∃ (id : AccountId) (action : IbcHost.HostAction),
      packet.call = .RemoteAction name action ∧ msg ∈ action.accountMsgs ∧
      s.source.registry.accountAddresses.lookup id.storageKey = some packet.sender ∧
      s.HasAccount name (id.pushChain relay.source) account) ∧
    (packet.sender = packet'.sender ∨ ∃ seq other,
      s.source.registry.accountAddresses.lookup
        (⟨.Remote [], seq⟩ : AccountId).storageKey = some other) := by
  have commanded : Commanded relay (newBridge registry owner chains) := starts.commanded named owner
  obtain ⟨id, action, isCall, isAction, valid, validSource, isRegistered, there⟩ :=
    first.asked right commanded reached
  obtain ⟨id', _, _, _, valid', _, isRegistered', there'⟩ := second.asked right commanded reached
  refine ⟨⟨id, action, isCall, isAction, isRegistered, there⟩, ?_⟩
  have namedNow : Named (s.chains name).world.view := by
    rw [reached]
    exact (run_invariant_accepted (P := Commanded relay)
      (fun _ _ _ _ right commanded ok => Commanded.step commanded right ok) commanded right).sound
        name |>.1
  have sameKey := namedNow.unique there there'
  obtain ⟨sameChains, sameSeq⟩ := AccountId.pushChain_storageKey valid valid' validSource sameKey
  obtain ⟨trace, seq⟩ := id
  obtain ⟨trace', seq'⟩ := id'
  dsimp only at sameChains sameSeq
  subst sameSeq
  cases trace with
  | Local =>
    cases trace' with
    | Local => exact .inl (Option.some.inj (isRegistered.symm.trans isRegistered'))
    | Remote chains =>
      obtain rfl : [] = chains := sameChains
      exact .inr ⟨seq, _, isRegistered'⟩
  | Remote chains =>
    cases trace' with
    | Local =>
      obtain rfl : chains = [] := sameChains
      exact .inr ⟨seq, _, isRegistered⟩
    | Remote chains' =>
      obtain rfl : chains = chains' := sameChains
      exact .inl (Option.some.inj (isRegistered.symm.trans isRegistered'))

end Steps

section Sample

attribute [local instance] accountCrates noAuthenticators

/-- What the host first sends to an account for a packet that arrives. -/
def firstCommand (relay : Relay) (s : Bridge) (k : Nat) (arrival : Arrival) :
    Option (TruncatedChainId × Addr × Entry.ExecuteMsg) := do
  let packet ← (s.sent k).toOption
  let link ← relay.link packet.note
  match packet.msg with
  | .Execute (remote :: _) _ _ => do
    let chain := s.chains link.chain
    let (_, subs) ← (IbcHost.execute (arrival.chain.env (relay.hostOf link.chain) chain.world)
      (arrival.tx link remote.msg).info remote.msg chain.host).toOption
    let command ← subs.findSome? HostSubMsg.toAccount
    return (link.chain, command)
  | _ => none

theorem commands_of_arrive {relay : Relay} {start s' : Bridge} {before after : List Input} {k : Nat}
    {arrival : Arrival} {name : TruncatedChainId} {account : Addr} {msg : Entry.ExecuteMsg}
    (ok : (Input.arrive k arrival).exec relay (run (Input.exec relay) start before) = .ok (s', ()))
    (sent : firstCommand relay (run (Input.exec relay) start before) k arrival =
      some (name, account, msg)) :
    ∃ packet, Commands relay start (before ++ .arrive k arrival :: after) packet name account msg := by
  have executed := ok
  simp only [Input.exec, bind_eq_ok, okOr_eq_ok] at executed
  obtain ⟨packet, isSent, link, isLink, executed⟩ := executed
  simp only [firstCommand, isSent, isLink, Except.toOption, Option.bind_eq_bind,
    Option.bind_some] at sent
  split at sent
  · rename_i remote rest callback timeout isMsg
    simp only [Option.bind_eq_some_iff, Option.pure_def, Option.some.injEq, Prod.mk.injEq] at sent
    obtain ⟨⟨h, subs⟩, called, ⟨account', msg'⟩, isCommand, rfl, rfl, rfl⟩ := sent
    simp only [isMsg, Arrival.executeMsgs, bind_eq_ok, mapError_eq_ok, pure_eq_ok,
      Prod.mk.injEq] at executed
    obtain ⟨⟨c, responses⟩, ⟨_, _, m, first, ⟨_, later⟩, rest', rfl, _⟩, rfl, _⟩ := executed
    obtain ⟨sub, listed, isAccount⟩ := List.exists_of_findSome?_eq_some isCommand
    obtain ⟨log, logs⟩ := IbcHost.exec_logs first
    have called' := logs
    obtain ⟨h', msgs, called', runs⟩ := called'
    have same := called'.symm.trans (toOption_eq_some.mp called)
    obtain ⟨rfl, rfl⟩ := Prod.mk.inj (Except.ok.inj same)
    refine ⟨packet, before, k, arrival, after, link, sub, _, callback, timeout, _, rfl,
      sent_eq_ok.mp isSent, isLink, rfl, isMsg, ok, ?_, isAccount⟩
    dsimp only
    rw [Function.update_self]
    exact .here first logs (runs.delivered sub listed) rest'
  · cases sent

def remoteCall (id : Nat) : Input :=
  .call sampleSource (sampleInfo "acc") (.RemoteAction ⟨"osmosis"⟩ IbcHost.suspend) [id]

/-- The account suspends its account on the other chain, and once more. -/
def suspending : List Input :=
  registering ++ [remoteCall 2, remoteCall 3, .arrive 2 sampleArrival, .arrive 3 sampleArrival]

theorem connectsRight_suspending :
    AlongAccepted (Input.exec sampleRelay) (ConnectsRight sampleRelay) sampleBridge suspending :=
  alongAccepted_append.mpr
    ⟨connectsRight_registering, Along.accepted ⟨trivial, trivial, trivial, trivial, trivial⟩⟩

theorem named_sample : Named IbcHost.newChainState.world.view := by
  have empty : IbcHost.newChainState.world.registry.accountAddresses.entries.isEmpty = true := by
    decide +kernel
  intro key account isRegistered
  have none : IbcHost.newChainState.world.registry.accountAddresses = ∅ := by
    refine AList.ext ?_
    exact List.isEmpty_iff.mp empty
  change IbcHost.newChainState.world.registry.accountAddresses.lookup key = some account at isRegistered
  rw [none] at isRegistered
  cases isRegistered

/-- The host's second message to the account, as its first one, is for a packet of `acc`. -/
theorem commands_suspending (before : List Input) {after : List Input} {k : Nat}
    (split : suspending = before ++ .arrive k sampleArrival :: after)
    (arrives : ((Input.arrive k sampleArrival).exec sampleRelay
      (run (Input.exec sampleRelay) sampleBridge before)).toOption.isSome = true)
    (sent : (firstCommand sampleRelay (run (Input.exec sampleRelay) sampleBridge before) k
      sampleArrival).map (fun c => (c.1, c.2.1)) = some (⟨"osmosis"⟩, ⟨"host-37"⟩)) :
    ∃ packet msg, Commands sampleRelay sampleBridge suspending packet ⟨"osmosis"⟩ ⟨"host-37"⟩ msg := by
  obtain ⟨⟨s', _⟩, isSome⟩ := Option.isSome_iff_exists.mp arrives
  obtain ⟨⟨name, account, msg⟩, isFirst, same⟩ := Option.map_eq_some_iff.mp sent
  obtain ⟨rfl, rfl⟩ := Prod.mk.inj same
  obtain ⟨packet, commands⟩ := commands_of_arrive (toOption_eq_some.mp isSome) isFirst
  rw [split]
  exact ⟨packet, msg, commands⟩

/-- Both times the same account is told. -/
theorem remote_account_has_one_master_suspended :
    ∃ packet packet' msg msg',
      Commands sampleRelay sampleBridge suspending packet ⟨"osmosis"⟩ ⟨"host-37"⟩ msg ∧
      Commands sampleRelay sampleBridge suspending packet' ⟨"osmosis"⟩ ⟨"host-37"⟩ msg' ∧
      (packet.sender = packet'.sender ∨ ∃ seq other,
        (run (Input.exec sampleRelay) sampleBridge suspending).source.registry.accountAddresses.lookup
          (⟨.Remote [], seq⟩ : AccountId).storageKey = some other) := by
  obtain ⟨packet, msg, first⟩ := commands_suspending
    (registering ++ [remoteCall 2, remoteCall 3]) rfl (by decide +kernel) (by decide +kernel)
  obtain ⟨packet', msg', second⟩ := commands_suspending
    (registering ++ [remoteCall 2, remoteCall 3, .arrive 2 sampleArrival]) rfl
    (by decide +kernel) (by decide +kernel)
  obtain ⟨_, same⟩ := remote_account_has_one_master
    (s := run (Input.exec sampleRelay) sampleBridge suspending) starts_sample (fun _ => named_sample)
    connectsRight_suspending rfl first second
  exact ⟨packet, packet', msg, msg', first, second, same⟩

end Sample

end AbstractFramework.Interchain
