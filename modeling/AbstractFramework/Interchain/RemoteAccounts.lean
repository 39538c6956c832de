import AbstractFramework.Interchain.Packets

/-! # What the client knows of remote accounts

The client learns the address of an account on another chain from the outcome of the
packet that registers it.  `Agrees` says that what it knows is what the registry of the
other chain has; it holds in every run in which the owners of the client and of the hosts
connect every note to its own chain.
-/

namespace AbstractFramework.Interchain

open Fallible Storage Accounts Machine
open Account hiding World
open IbcClient (ClientState ClientEnv ClientMsg ClientSubMsg CallbackMessage CallbackRequest
  IbcClientCallback PolytoneCallback PolytoneNoteExecuteMsg RemoteMsg SubMsgResponse
  IbcInfrastructure PACKET_LIFETIME)
open IbcHost (ChainState HostChain HostInput HostMsg HostState HostSubMsg HostTx)

section Model

variable [Crates] [Xion]

/-- The account is registered under the id on the other chain. -/
def Bridge.HasAccount (s : Bridge) (chain : TruncatedChainId) (id : AccountId) (account : Addr) :
    Prop :=
  (s.chains chain).world.registry.accountAddresses.lookup id.storageKey = some account

/-- The note leads to the host of the chain. -/
def Relay.LeadsTo (relay : Relay) (note : Addr) (chain : TruncatedChainId) (host : String) : Prop :=
  (∃ link, relay.link note = some link ∧ link.chain = chain) ∧ host = (relay.hostOf chain).asStr

/-- The owner of the client registers a note for the chain that it leads to, with the host
    there, and the owner of a host registers a proxy of the client for the client's chain. -/
def ConnectsRight (relay : Relay) (s : Bridge) : Input → Prop
  | .call chain info (.RegisterInfrastructure name note host) _ =>
    Crates.cwOwner s.client.ownership = some info.sender →
      ∀ addr, chain.env.addrValidate note = .ok addr → relay.LeadsTo addr name host
  | .there name (.host tx) =>
    ∀ chain text, tx.msg = .RegisterChainProxy chain text →
      Crates.cwOwner (s.chains name).host.ownership = some tx.info.sender →
      ∀ proxy, tx.chain.addrValidate text = .ok proxy →
        (∃ note, relay.link note = some ⟨name, proxy⟩) → chain = relay.source
  | _ => True

/-- What was the case when the client sent the packet. -/
def Asked (relay : Relay) (packet : Packet) : Prop :=
  ∃ (env : ClientEnv) (info : MessageInfo) (s : ClientState),
    packet.sender = info.sender ∧ env.address = relay.client ∧ env.toJson = relay.toJson ∧
    (∀ chain infra, s.ibcInfra.lookup chain = some infra →
      relay.LeadsTo infra.polytoneNote chain infra.remoteAbstractHost) ∧
    (∀ id, env.assertAccount info.sender = .ok info.sender →
      env.querier.queryAccountId info.sender = .ok id → id.trace.verify = .ok ()) ∧
    Asks env info s packet.call packet.note packet.msg

/-- The packet registers the account of the id on the chain, and reports it. -/
def Packet.Registers (packet : Packet) (relay : Relay) (id : AccountId) (link : Link) : Prop :=
  ∃ request account action, relay.link packet.note = some link ∧
    packet.callback = some request ∧ relay.fromJson request.msg = .ok (.CreateAccount id) ∧
    packet.msg = .Execute [⟨(relay.hostOf link.chain).asStr,
      .Execute id account (.Internal action)⟩] (some request) PACKET_LIFETIME

/-- A successful registration reports the address that the other chain has. -/
def Reported (relay : Relay) (s : Bridge) (packet : Packet) (outcome : PolytoneCallback) : Prop :=
  ∀ id link response failed, packet.Registers relay id link →
    outcome = .Execute (.Success response) → ∃ account,
      IbcClient.createdAddress response failed = .ok account.asStr ∧
      s.HasAccount link.chain (id.pushChain relay.source) account

/-- The ids under which accounts are registered are valid. -/
def VerifiedIds (v : View) : Prop :=
  ∀ account id, v.ids account = some id → v.registered id.storageKey = some account →
    id.trace.verify = .ok ()

structure Agrees (relay : Relay) (s : Bridge) : Prop where
  verified : VerifiedIds s.source.view
  infra : ∀ chain infra, s.client.ibcInfra.lookup chain = some infra →
    relay.LeadsTo infra.polytoneNote chain infra.remoteAbstractHost
  notes : ∀ note chain, s.client.reversePolytoneNote.lookup note = some chain →
    ∃ link, relay.link note = some link ∧ link.chain = chain
  proxies : ∀ note link chain, relay.link note = some link →
    (s.chains link.chain).host.reverseChainProxies.lookup link.proxy = some chain →
      chain = relay.source
  asked : ∀ k packet stage, s.packets.lookup k = some (packet, stage) → Asked relay packet
  reported : ∀ k packet outcome, s.packets.lookup k = some (packet, .Executed outcome) →
    Reported relay s packet outcome
  known : ∀ key chain text, s.client.accounts.lookup (key, chain) = some text →
    ∃ (id : AccountId) (account : Addr), id.trace.verify = .ok () ∧ id.storageKey = key ∧ text = account.asStr ∧
      s.HasAccount chain (id.pushChain relay.source) account

end Model

section Registration

variable [Crates] [Xion] {relay : Relay} {arrival : Arrival} {link : Link} {host : Addr}
  {s s' : ChainState} {responses : List SubMsgResponse}

/-! ## How a packet registers an account -/

/-- The account that is created is at the address of its code and salt. -/
theorem created_at {chain : HostChain} {w w' : World} {admin : Addr} {codeId : Nat} {label : String}
    {msg : InstantiateMsg} {funds : List Coin} {salt : Bytes} {id : AccountId}
    (created : chain.deliver (chain.call chain.maxCallDepth) host w
      (.new (.Instantiate2 admin codeId label msg funds salt)) = .ok w')
    (isId : msg.accountId = some id) :
    ∃ code account, chain.codeInfo codeId = some code ∧
      chain.instantiate2Address code.checksum host salt = .ok account ∧
      w.registry.accountAddresses.lookup id.storageKey = none ∧
      w'.registry.accountAddresses.lookup id.storageKey = some account := by
  have unregistered := IbcHost.created_unregistered created isId
  obtain ⟨c, received, called⟩ := deliver_new created
  simp only [ChainView.received, bind_eq_ok, okOr_eq_ok, mapError_eq_ok, pure_eq_ok] at received
  obtain ⟨code, isCode, account, isAddress, rfl⟩ := received
  obtain ⟨n, _, sameId, told⟩ := call_instantiate called
  rw [isId, Option.getD_some] at sameId
  subst sameId
  refine ⟨code, account, isCode, isAddress, unregistered, ?_⟩
  change w'.view.registered n.id.storageKey = some account
  rw [(told_frame told).1]
  exact Function.update_self ..

omit [Crates] [Xion] in
/-- The first address in the events is that of the new account. -/
theorem createdAddress_creation {executedBy ns : String} {registry account : Addr} {id : AccountId}
    {later : List IbcClient.Event} (failed : IbcClient.ClientError) :
    IbcClient.createdAddress
      { executedBy, result := [⟨creationEvents registry account id ns ++ later⟩] } failed =
        .ok account.asStr := by
  simp [IbcClient.createdAddress, creationEvents, abstractEvent, okOr]

theorem executeMsgs_single {remote : RemoteMsg}
    (done : arrival.executeMsgs host link [remote] s = .ok (s', responses)) :
    remote.contractAddr = host.asStr ∧ (arrival.tx link remote.msg).exec host s = .ok s' ∧
      responses = [arrival.response host link remote s] := by
  simp only [Arrival.executeMsgs, bind_eq_ok, ensure_eq_ok, mapError_eq_ok, pure_eq_ok,
    Prod.mk.injEq] at done
  obtain ⟨_, isHost, m, executed, ⟨t, rest⟩, same, rfl, rfl⟩ := done
  obtain ⟨rfl, rfl⟩ := Prod.mk.inj (Except.ok.inj same)
  exact ⟨isHost, executed, rfl⟩

theorem response_of_execute {remote : RemoteMsg} {h : HostState} {subs : List HostSubMsg}
    (executed : IbcHost.execute (arrival.chain.env host s.world) (arrival.tx link remote.msg).info
      remote.msg s.host = .ok (h, subs)) :
    arrival.response host link remote s =
      ⟨subs.flatMap (arrival.subEvents host) ++ arrival.later remote⟩ := by
  simp only [Arrival.response, executed]

/-- The creation of an account announces its address. -/
theorem subEvents_create {admin account : Addr} {codeId : Nat} {label : String}
    {msg : InstantiateMsg} {funds : List Coin} {salt : Bytes} {reply : Option IbcHost.ReplyId}
    {id : AccountId} {code : CodeInfo} (isId : msg.accountId = some id)
    (isCode : arrival.chain.codeInfo codeId = some code)
    (isAddress : arrival.chain.instantiate2Address code.checksum host salt = .ok account) :
    arrival.subEvents host ⟨.Instantiate2 admin codeId label msg funds salt, reply⟩ =
      creationEvents arrival.chain.registryAddr account id (arrival.namespaceText msg.ns) := by
  simp only [Arrival.subEvents, isCode, isAddress, isId]

/-- A packet that registers an account leaves it registered, and its events have the
    address. -/
theorem executeMsgs_registers {source : TruncatedChainId} {text address : String} {id : AccountId}
    {action : IbcHost.InternalAction}
    (isProxy : ∀ chain, s.host.reverseChainProxies.lookup link.proxy = some chain → chain = source)
    (done : arrival.executeMsgs host link [⟨text, .Execute id address (.Internal action)⟩] s =
      .ok (s', responses)) :
    s.world.registry.accountAddresses.lookup (id.pushChain source).storageKey = none ∧
      ∃ account, s'.world.registry.accountAddresses.lookup (id.pushChain source).storageKey =
          some account ∧
        ∀ executedBy failed, IbcClient.createdAddress { executedBy, result := responses } failed =
          .ok account.asStr := by
  obtain ⟨_, executed, rfl⟩ := executeMsgs_single done
  obtain ⟨h', msgs, handled, _⟩ := IbcHost.exec_eq_ok executed
  have isAction := handled
  simp only [Arrival.tx, IbcHost.execute, IbcHost.loadSrcChain, bind_eq_ok, okOr_eq_ok] at isAction
  obtain ⟨chain, found, isAction⟩ := isAction
  obtain rfl := isProxy chain found
  obtain ⟨name, description, website, ns, modules⟩ := action
  simp only [IbcHost.handleHostAction, bind_eq_ok, pure_eq_ok, Prod.mk.injEq] at isAction
  obtain ⟨subs, registers, rfl, rfl⟩ := isAction
  obtain ⟨_, _, codeId, _, msg, salt, isId, _, rfl⟩ := IbcHost.receiveRegister_eq_ok registers
  obtain ⟨_, created⟩ := IbcHost.exec_single handled rfl executed
  simp only [HostTx.deliverMsg, mapError_eq_ok] at created
  obtain ⟨code, account, isCode, isAddress, unregistered, registered⟩ := created_at created isId
  refine ⟨unregistered, account, registered, fun executedBy failed => ?_⟩
  rw [response_of_execute handled, List.flatMap_singleton, subEvents_create isId isCode isAddress]
  exact createdAddress_creation failed

end Registration

section Steps

variable [Crates] [Xion] {relay : Relay} {s s' : Bridge}

theorem sent_eq_ok {k : Nat} {packet : Packet} :
    s.sent k = .ok packet ↔ s.packets.lookup k = some (packet, .Sent) := by
  unfold Bridge.sent
  split
  · rename_i found
    simp [found]
  · rename_i other
    simpa using other packet

theorem executed_eq_ok {k : Nat} {packet : Packet} {outcome : PolytoneCallback} :
    s.executed k = .ok (packet, outcome) ↔
      s.packets.lookup k = some (packet, .Executed outcome) := by
  unfold Bridge.executed
  split
  · rename_i found
    simp [found]
  · rename_i other
    simpa using other packet outcome

/-! ## What was asked -/

theorem Packet.Registers.isLink {packet : Packet} {id : AccountId} {link : Link}
    (registers : packet.Registers relay id link) : relay.link packet.note = some link := by
  obtain ⟨_, _, _, isLink, _⟩ := registers
  exact isLink

/-- A packet that reports a new account is one that registers it. -/
theorem Asked.registers {packet : Packet} {request : CallbackRequest} {id : AccountId}
    (asked : Asked relay packet) (asks : packet.callback = some request)
    (decoded : relay.fromJson request.msg = .ok (.CreateAccount id)) :
    id.trace.verify = .ok () ∧ ∃ link, packet.Registers relay id link := by
  obtain ⟨sender, call, note, msg⟩ := packet
  obtain ⟨env, info, client, _, _, sameJson, leads, verified, asked⟩ := asked
  have decodes : ∀ {callback : IbcClientCallback}, request.msg = env.toJson callback →
      callback = .CreateAccount id := by
    intro callback isMsg
    rw [isMsg, sameJson] at decoded
    exact (relay.decodes _ _ decoded).symm
  cases asked with
  | whoAmI =>
    obtain rfl := Option.some.inj asks
    cases decodes rfl
  | action => cases asks
  | @register chain _ _ infra _ action registered isAccount hasId =>
    obtain rfl := Option.some.inj asks
    cases decodes rfl
    obtain ⟨⟨link, isLink, isChain⟩, isHost⟩ := leads _ _ registered
    refine ⟨verified _ isAccount hasId, link, _, info.sender.asStr, action, isLink, rfl, decoded, ?_⟩
    rw [isHost, isChain]
  | module registered =>
    obtain ⟨c, _, rfl⟩ := Option.map_eq_some_iff.mp asks
    cases decodes rfl
  | query registered =>
    obtain rfl := Option.some.inj asks
    cases decodes rfl

/-- The client asks hosts to act for accounts and modules, never to register a proxy. -/
theorem Asked.not_registerChainProxy {packet : Packet} {msgs : List RemoteMsg}
    {callback : Option CallbackRequest} {timeout : Nat} {remote : RemoteMsg}
    (asked : Asked relay packet) (isMsg : packet.msg = .Execute msgs callback timeout)
    (listed : remote ∈ msgs) (chain : TruncatedChainId) (text : String) :
    remote.msg ≠ .RegisterChainProxy chain text := by
  obtain ⟨sender, call, note, msg⟩ := packet
  obtain ⟨env, info, client, _, _, _, _, _, asked⟩ := asked
  cases asked with
  | query => cases isMsg
  | _ =>
    cases isMsg
    simp_all

/-! ## What stays -/

/-- No account that is registered is lost. -/
def Bridge.Grows (s s' : Bridge) : Prop :=
  ∀ chain id account, s.HasAccount chain id account → s'.HasAccount chain id account

theorem grows_chain {name : TruncatedChainId} {c : ChainState}
    (grows : ∀ key account, (s.chains name).world.registry.accountAddresses.lookup key =
      some account → c.world.registry.accountAddresses.lookup key = some account)
    (isChain : s'.chains = Function.update s.chains name c) : s.Grows s' := by
  intro chain id account there
  unfold Bridge.HasAccount at there ⊢
  rw [isChain]
  by_cases same : chain = name
  · subst same
    rw [Function.update_self]
    exact grows _ _ there
  · rw [Function.update_of_ne same]
    exact there

theorem executeMsgs_registered {arrival : Arrival} {link : Link} {host : Addr} {msgs : List RemoteMsg}
    {responses : List SubMsgResponse} {c c' : ChainState} {key : AccountKey} {account : Addr}
    (done : arrival.executeMsgs host link msgs c = .ok (c', responses))
    (there : c.world.registry.accountAddresses.lookup key = some account) :
    c'.world.registry.accountAddresses.lookup key = some account := by
  refine executeMsgs_invariant
    (P := fun m => m.world.registry.accountAddresses.lookup key = some account) ?_ there done
  intro remote _ m m' there executed
  have input : (HostInput.host (arrival.tx link remote.msg)).exec host m = .ok (m', ()) := by
    rw [HostInput.exec, executed]
    rfl
  exact exec_registered input there

theorem Reported.grows {packet : Packet} {outcome : PolytoneCallback}
    (reported : Reported relay s packet outcome) (grows : s.Grows s') :
    Reported relay s' packet outcome := by
  intro id link response failed registers isSuccess
  obtain ⟨account, created, there⟩ := reported id link response failed registers isSuccess
  exact ⟨account, created, grows _ _ _ there⟩

/-! ## The chain of the client -/

omit [Xion] in
theorem VerifiedIds.sameButLists {v v' : View} (verified : VerifiedIds v) (same : SameButLists v v') :
    VerifiedIds v' := by
  intro account id has isRegistered
  rw [same.ids] at has
  rw [same.registered] at isRegistered
  exact verified account id has isRegistered

omit [Xion] in
theorem VerifiedIds.set_ownership {v : View} {account : Addr} {n : Entry.Node}
    (verified : VerifiedIds v) (found : v.nodes account = some n) (r : Ownership) :
    VerifiedIds (v.set account { n with ownership := r }) := by
  intro other id has isRegistered
  rw [ids_set_ownership found] at has
  exact verified other id has isRegistered

omit [Xion] in
/-- An account is registered under a valid id only. -/
theorem VerifiedIds.register {v : View} {account : Addr} {id : AccountId}
    (verified : VerifiedIds v) (isId : v.ids account = some id) (valid : id.trace.verify = .ok ()) :
    VerifiedIds (v.register id account) := by
  intro other id' has isRegistered
  change v.ids other = some id' at has
  by_cases sameKey : id'.storageKey = id.storageKey
  · have isAccount : other = account := by
      simpa [View.register, sameKey, eq_comm] using isRegistered
    rw [isAccount, isId] at has
    rw [← Option.some.inj has]
    exact valid
  · refine verified other id' has ?_
    simpa [View.register, sameKey] using isRegistered

theorem VerifiedIds.moves {v v' : View} {c : Call} (verified : VerifiedIds v)
    (moves : Moves v c v') : VerifiedIds v' := by
  cases moves with
  | keep => exact verified
  | propose found known => exact verified.set_ownership found _
  | accept found isPending left joined =>
    exact ((verified.set_ownership found _).sameButLists left.lists.1).sameButLists joined.lists.1
  | renounce found left => exact (verified.set_ownership found _).sameButLists left.lists.1
  | update updates => exact verified.sameButLists updates.lists.1
  | @create _ account n _ new joined =>
    refine VerifiedIds.sameButLists (VerifiedIds.register ?_ ?_ new.verified) joined.lists.1
    · intro other id has isRegistered
      rw [ids_set] at has
      by_cases isNew : other = account
      · subst isNew
        rw [Function.update_self] at has
        rw [← Option.some.inj has]
        exact new.verified
      · rw [Function.update_of_ne isNew] at has
        exact verified other id has isRegistered
    · rw [ids_set, Function.update_self]
  | enlist found valid unregistered => exact verified.register (ids_of_node found) valid

/-- The id of a registered account is valid. -/
theorem VerifiedIds.of_assertAccount {chain : SourceChain} {w : World} {account : Addr}
    {id : AccountId} (verified : VerifiedIds w.view)
    (isAccount : (relay.env chain w).assertAccount account = .ok account)
    (hasId : (relay.env chain w).querier.queryAccountId account = .ok id) :
    id.trace.verify = .ok () ∧ w.registry.accountAddresses.lookup id.storageKey = some account := by
  simp only [ClientEnv.assertAccount, ClientEnv.uncheckedAccountId, ClientEnv.account, bind_eq_ok,
    mapError_eq_ok, okOr_eq_ok, ensure_eq_ok, pure_eq_ok] at isAccount
  obtain ⟨id', reported, _, isRegistered, _, _, rfl⟩ := isAccount
  obtain rfl : id' = id := Except.ok.inj (reported.symm.trans hasId)
  obtain ⟨n, found, isId⟩ := node_of_queryAccountId hasId
  refine ⟨verified _ _ ?_ isRegistered, isRegistered⟩
  rw [ids_of_node found, isId]

/-! ## The invariant -/

/-- A call that the client accepts is no callback, unless the sender is no note. -/
theorem Agrees.not_callback {chain : SourceChain} {info : MessageInfo} {msg : IbcClient.ExecuteMsg}
    {client : ClientState} {subs : List ClientSubMsg} (agrees : Agrees relay s)
    (genuine : relay.genuine info msg = true)
    (executed : IbcClient.execute (relay.env chain s.source) info msg s.client = .ok (client, subs))
    (message : CallbackMessage) : msg ≠ .Callback message := by
  rintro rfl
  obtain ⟨name, isNote, isClient, _⟩ := learns_of_callback executed
  obtain ⟨link, isLink, _⟩ := agrees.notes _ _ isNote
  have other : message.initiator ≠ relay.client := by simpa [Relay.genuine, isLink] using genuine
  exact other isClient

theorem Agrees.call {chain : SourceChain} {info : MessageInfo} {msg : IbcClient.ExecuteMsg}
    {ids : List Nat} {u : Unit} (agrees : Agrees relay s)
    (right : ConnectsRight relay s (.call chain info msg ids))
    (ok : (Input.call chain info msg ids).exec relay s = .ok (s', u)) : Agrees relay s' := by
  simp only [Input.exec, bind_eq_ok, ensure_eq_ok, mapError_eq_ok, pure_eq_ok, Prod.mk.injEq] at ok
  obtain ⟨_, genuine, ⟨client, subs⟩, executed, packets, departed, rfl, _⟩ := ok
  have connects := connects_of_execute executed (agrees.not_callback genuine executed)
  have asked : ∀ note msg', (note, msg') ∈ subs.filterMap noteMsg →
      Asked relay ⟨info.sender, msg, note, msg'⟩ := fun note msg' sent =>
    ⟨relay.env chain s.source, info, s.client, rfl, rfl, rfl, agrees.infra,
      fun id isAccount hasId => (agrees.verified.of_assertAccount isAccount hasId).1,
      asks_of_execute executed (agrees.not_callback genuine executed) sent⟩
  have tables : (∀ name infra, client.ibcInfra.lookup name = some infra →
        relay.LeadsTo infra.polytoneNote name infra.remoteAbstractHost) ∧
      (∀ note name, client.reversePolytoneNote.lookup note = some name →
        ∃ link, relay.link note = some link ∧ link.chain = name) ∧
      client.accounts = s.client.accounts := by
    cases connects with
    | keeps same =>
      obtain ⟨accounts, infra, notes⟩ := same
      exact ⟨infra ▸ agrees.infra, notes ▸ agrees.notes, accounts⟩
    | @registers name _ host addr isOwner validated =>
      have leads : relay.LeadsTo addr name host := right isOwner addr validated
      refine ⟨fun other infra found => ?_, fun note other found => ?_, rfl⟩
      · rcases lookup_insert_cases found with ⟨rfl, rfl⟩ | ⟨_, before⟩
        · exact leads
        · exact agrees.infra other infra before
      · rcases lookup_insert_cases found with ⟨rfl, rfl⟩ | ⟨_, before⟩
        · exact leads.1
        · exact agrees.notes note other before
    | removes fewer =>
      refine ⟨fun other infra found => ?_, fun note other found => ?_, rfl⟩
      · exact agrees.infra other infra (lookup_erase_eq_some.mp found).2
      · rcases fewer with rfl | ⟨note', rfl⟩
        · exact agrees.notes note other found
        · exact agrees.notes note other (lookup_erase_eq_some.mp found).2
  refine { agrees with infra := tables.1, notes := tables.2.1, asked := ?_, reported := ?_, known := ?_ }
  · intro k packet stage found
    rcases depart_cases departed found with before | ⟨note, msg', sent, rfl, _⟩
    · exact agrees.asked k packet stage before
    · exact asked note msg' sent
  · intro k packet outcome found
    rcases depart_cases departed found with before | ⟨_, _, _, _, isSent⟩
    · exact agrees.reported k packet outcome before
    · cases isSent
  · intro key name text found
    rw [tables.2.2] at found
    exact agrees.known key name text found

theorem Agrees.sameTables {client : ClientState} (agrees : Agrees relay s)
    (same : SameTables s.client client) : Agrees relay { s with client } := by
  obtain ⟨accounts, infra, notes⟩ := same
  exact { agrees with
    infra := infra ▸ agrees.infra
    notes := notes ▸ agrees.notes
    known := accounts ▸ agrees.known }

/-- The outcome of a packet becomes known to its note. -/
theorem Agrees.settled {k : Nat} {packet : Packet} {outcome : PolytoneCallback}
    {stage : Stage} (agrees : Agrees relay s) (found : s.packets.lookup k = some (packet, stage))
    (reported : Reported relay s packet outcome) :
    Agrees relay { s with packets := s.packets.insert k (packet, .Executed outcome) } := by
  refine { agrees with asked := ?_, reported := ?_ }
  · intro k' packet' stage' here
    rcases lookup_insert_cases here with ⟨_, same⟩ | ⟨_, before⟩
    · obtain ⟨rfl, _⟩ := Prod.mk.inj same
      exact agrees.asked _ _ _ found
    · exact agrees.asked _ _ _ before
  · intro k' packet' outcome' here
    rcases lookup_insert_cases here with ⟨_, same⟩ | ⟨_, before⟩
    · obtain ⟨rfl, isOutcome⟩ := Prod.mk.inj same
      obtain rfl := Stage.Executed.inj isOutcome
      exact reported
    · exact agrees.reported _ _ _ before

/-- Another chain goes on, without a new proxy for the client. -/
theorem Agrees.chain {name : TruncatedChainId} {c : ChainState} (agrees : Agrees relay s)
    (stays : ∀ key account, (s.chains name).world.registry.accountAddresses.lookup key =
      some account → c.world.registry.accountAddresses.lookup key = some account)
    (proxies : ∀ note link chain, relay.link note = some link → link.chain = name →
      c.host.reverseChainProxies.lookup link.proxy = some chain → chain = relay.source) :
    Agrees relay { s with chains := Function.update s.chains name c } := by
  have grows : s.Grows { s with chains := Function.update s.chains name c } := grows_chain stays rfl
  refine { agrees with proxies := ?_, reported := ?_, known := ?_ }
  · intro note link chain isLink found
    dsimp only at found
    by_cases here : link.chain = name
    · rw [here, Function.update_self] at found
      exact proxies note link chain isLink here found
    · rw [Function.update_of_ne here] at found
      exact agrees.proxies note link chain isLink found
  · intro k packet outcome found
    exact (agrees.reported k packet outcome found).grows grows
  · intro key chain text found
    obtain ⟨id, account, valid, isKey, isText, there⟩ := agrees.known key chain text found
    exact ⟨id, account, valid, isKey, isText, grows _ _ _ there⟩

/-- A packet is executed by the proxy of its note. -/
theorem Agrees.arrive {k : Nat} {arrival : Arrival} {u : Unit} (agrees : Agrees relay s)
    (ok : (Input.arrive k arrival).exec relay s = .ok (s', u)) : Agrees relay s' := by
  simp only [Input.exec, bind_eq_ok, okOr_eq_ok] at ok
  obtain ⟨packet, isSent, link, isLink, ok⟩ := ok
  have found := sent_eq_ok.mp isSent
  have asked := agrees.asked k packet .Sent found
  cases isMsg : packet.msg with
  | Query msgs callback timeout =>
    rw [isMsg] at ok
    cases ok
  | Execute msgs callback timeout =>
    simp only [isMsg, bind_eq_ok, pure_eq_ok, Prod.mk.injEq] at ok
    obtain ⟨⟨c, responses⟩, done, rfl, _⟩ := ok
    have proxies : ∀ proxy name, c.host.reverseChainProxies.lookup proxy = some name →
        (s.chains link.chain).host.reverseChainProxies.lookup proxy = some name := by
      refine executeMsgs_invariant (P := fun m : ChainState => ∀ proxy name,
        m.host.reverseChainProxies.lookup proxy = some name →
          (s.chains link.chain).host.reverseChainProxies.lookup proxy = some name) ?_
        (fun _ _ same => same) done
      intro remote listed m m' before executed proxy name isProxy
      rcases exec_proxies executed isProxy with same | ⟨text, registers, _⟩
      · exact before proxy name same
      · exact absurd registers (asked.not_registerChainProxy isMsg listed name text)
    have next : Agrees relay { s with chains := Function.update s.chains link.chain c } := by
      refine agrees.chain (fun key account => executeMsgs_registered done) ?_
      intro note link' chain isLink' here isProxy
      refine agrees.proxies note link' chain isLink' ?_
      rw [here]
      exact proxies _ _ isProxy
    refine next.settled found ?_
    -- the events of the packet have the account that is registered
    intro id link' response failed registers isSuccess
    obtain ⟨request, account, action, isLink', _, _, isRegister⟩ := registers
    obtain rfl : link = link' := Option.some.inj (isLink.symm.trans isLink')
    rw [isMsg, PolytoneNoteExecuteMsg.Execute.injEq] at isRegister
    obtain ⟨rfl, _, _⟩ := isRegister
    obtain ⟨_, created, there, address⟩ := executeMsgs_registers
      (fun chain => agrees.proxies packet.note link chain isLink) done
    simp only [PolytoneCallback.Execute.injEq,
      IbcClient.ExecutionCallbackResult.Success.injEq] at isSuccess
    subst isSuccess
    refine ⟨created, address _ failed, ?_⟩
    unfold Bridge.HasAccount
    dsimp only
    rw [Function.update_self]
    exact there

/-- A packet that fails registers nothing. -/
theorem Agrees.settle {k : Nat} {outcome : PolytoneCallback} {u : Unit} (agrees : Agrees relay s)
    (ok : (Input.settle k outcome).exec relay s = .ok (s', u)) : Agrees relay s' := by
  simp only [Input.exec, bind_eq_ok, ensure_eq_ok, pure_eq_ok, Prod.mk.injEq] at ok
  obtain ⟨packet, isSent, _, ends, rfl, _⟩ := ok
  refine agrees.settled (sent_eq_ok.mp isSent) ?_
  rintro id link response failed registers rfl
  obtain ⟨request, account, action, _, _, _, isMsg⟩ := registers
  rw [isMsg] at ends
  cases ends

/-- The client learns what the other chain has registered. -/
theorem Agrees.tell {k : Nat} {chain : SourceChain} {u : Unit} (agrees : Agrees relay s)
    (ok : (Input.tell k chain).exec relay s = .ok (s', u)) : Agrees relay s' := by
  simp only [Input.exec, bind_eq_ok, pure_eq_ok, Prod.mk.injEq] at ok
  obtain ⟨⟨packet, outcome⟩, isExecuted, rfl, _⟩ := ok
  have found := executed_eq_ok.mp isExecuted
  have asked := agrees.asked k packet _ found
  have reported := agrees.reported k packet outcome found
  obtain ⟨client, msgs, answered⟩ : ∃ client msgs,
      relay.answer chain s.source packet outcome s.client = (client, msgs) := ⟨_, _, rfl⟩
  rw [answered]
  dsimp only
  have told : Agrees relay { s with client } := by
    rcases answer_cases answered with ⟨rfl, _⟩ | ⟨request, subs, asks, _, _, called⟩
    · exact agrees
    · obtain ⟨name, isNote, _, learns⟩ := learns_of_callback called
      cases learns with
      | @proxy infra _ registered =>
        have leads := agrees.infra name infra registered
        refine { agrees with infra := fun other infra found => ?_ }
        rcases lookup_insert_cases found with ⟨rfl, rfl⟩ | ⟨_, before⟩
        · exact leads
        · exact agrees.infra other infra before
      | @account id response remote decoded isSuccess created =>
        obtain ⟨valid, link, registers⟩ := asked.registers asks decoded
        obtain ⟨account, address, there⟩ := reported id link response _ registers isSuccess
        obtain rfl : remote = account.asStr := Except.ok.inj (created.symm.trans address)
        obtain ⟨link', isLink', rfl⟩ := agrees.notes _ _ isNote
        obtain rfl : link = link' := Option.some.inj (registers.isLink.symm.trans isLink')
        refine { agrees with known := fun key chain text found => ?_ }
        rcases lookup_insert_cases found with ⟨same, rfl⟩ | ⟨_, before⟩
        · obtain ⟨rfl, rfl⟩ := Prod.mk.inj same
          exact ⟨id, account, valid, rfl, rfl, there⟩
        · exact agrees.known key chain text before
      | action | query => exact agrees
  refine { told with asked := ?_, reported := ?_ }
  · intro k' packet' stage' here
    rcases lookup_insert_cases here with ⟨_, same⟩ | ⟨_, before⟩
    · obtain ⟨rfl, _⟩ := Prod.mk.inj same
      exact asked
    · exact agrees.asked _ _ _ before
  · intro k' packet' outcome' here
    rcases lookup_insert_cases here with ⟨_, same⟩ | ⟨_, before⟩
    · cases same
    · exact agrees.reported _ _ _ before

/-- Others act on another chain. -/
theorem Agrees.there {name : TruncatedChainId} {input : HostInput} {u : Unit}
    (agrees : Agrees relay s) (right : ConnectsRight relay s (.there name input))
    (ok : (Input.there name input).exec relay s = .ok (s', u)) : Agrees relay s' := by
  simp only [Input.exec, bind_eq_ok, mapError_eq_ok, pure_eq_ok, Prod.mk.injEq] at ok
  obtain ⟨⟨c, _⟩, executed, rfl, _⟩ := ok
  refine agrees.chain (fun key account => exec_registered executed) ?_
  intro note link chain isLink here isProxy
  cases input with
  | accounts tx =>
    simp only [HostInput.exec, bind_eq_ok, pure_eq_ok, Prod.mk.injEq] at executed
    obtain ⟨_, _, rfl, _⟩ := executed
    refine agrees.proxies note link chain isLink ?_
    rw [here]
    exact isProxy
  | host tx =>
    simp only [HostInput.exec, bind_eq_ok, pure_eq_ok, Prod.mk.injEq] at executed
    obtain ⟨c', executed, rfl, _⟩ := executed
    rcases exec_proxies executed isProxy with before | ⟨text, registers, validated, isOwner⟩
    · refine agrees.proxies note link chain isLink ?_
      rw [here]
      exact before
    · obtain ⟨_, proxy⟩ := link
      obtain rfl := here
      exact right chain text registers isOwner proxy validated ⟨note, isLink⟩

theorem Agrees.step {input : Input} {u : Unit} (agrees : Agrees relay s)
    (right : ConnectsRight relay s input) (ok : input.exec relay s = .ok (s', u)) :
    Agrees relay s' := by
  cases input with
  | call chain info msg ids => exact agrees.call right ok
  | reply chain id result =>
    simp only [Input.exec, bind_eq_ok, mapError_eq_ok, pure_eq_ok, Prod.mk.injEq] at ok
    obtain ⟨⟨client, _⟩, replied, rfl, _⟩ := ok
    exact agrees.sameTables (sameTables_reply replied)
  | lifecycle msg =>
    simp only [Input.exec, bind_eq_ok, mapError_eq_ok, pure_eq_ok, Prod.mk.injEq] at ok
    obtain ⟨⟨client, _⟩, called, rfl, _⟩ := ok
    exact agrees.sameTables (sameTables_sudo called)
  | arrive k arrival => exact agrees.arrive ok
  | settle k outcome => exact agrees.settle ok
  | tell k chain => exact agrees.tell ok
  | here tx =>
    simp only [Input.exec, bind_eq_ok, mapError_eq_ok, pure_eq_ok, Prod.mk.injEq] at ok
    obtain ⟨⟨source, _⟩, executed, rfl, _⟩ := ok
    exact { agrees with verified := agrees.verified.moves (exec_moves executed) }
  | there name input => exact agrees.there right ok

/-- A bridge between a new registry with a new client and new hosts. -/
structure Starts (registry : RegistryState) (chains : TruncatedChainId → ChainState) : Prop where
  registry : ∃ deps msg, Registry.instantiate deps msg = .ok registry
  hosts : ∀ name, ∃ info, (chains name).host = IbcHost.instantiate info

theorem Starts.agrees {registry : RegistryState} {chains : TruncatedChainId → ChainState}
    (starts : Starts registry chains) (owner : MessageInfo) :
    Agrees relay (newBridge registry owner chains) where
  verified account id has := by cases has
  infra _ _ found := by cases found
  notes _ _ found := by cases found
  proxies note link chain _ isProxy := by
    obtain ⟨info, new⟩ := starts.hosts link.chain
    rw [newBridge, new] at isProxy
    cases isProxy
  asked _ _ _ found := by cases found
  reported _ _ _ found := by cases found
  known _ _ _ found := by cases found

theorem agrees_run {inputs : List Input} (agrees : Agrees relay s)
    (right : AlongAccepted (Input.exec relay) (ConnectsRight relay) s inputs) :
    Agrees relay (run (Input.exec relay) s inputs) :=
  run_invariant_accepted (fun _ _ _ _ right agrees ok => Agrees.step agrees right ok) agrees right

/-! ## Funds -/

/-- Funds that an account sends without a receiver go, coin by coin, to the account that the
    other chain has registered for it, in every run that connects the notes to their chains. -/
theorem funds_reach_remote_account {registry : RegistryState}
    {chains : TruncatedChainId → ChainState} {owner : MessageInfo} {inputs : List Input}
    (starts : Starts registry chains)
    (right : AlongAccepted (Input.exec relay) (ConnectsRight relay)
      (newBridge registry owner chains) inputs)
    (reached : s = run (Input.exec relay) (newBridge registry owner chains) inputs)
    {chain : SourceChain} {info : MessageInfo} {name : TruncatedChainId} {memo : Option String}
    {client : ClientState} {subs : List ClientSubMsg}
    (sent : IbcClient.execute (relay.env chain s.source) info (.SendFunds name none memo) s.client =
      .ok (client, subs)) :
    ∃ (id : AccountId) (account : Addr) (channel : String),
      s.source.registry.accountAddresses.lookup id.storageKey = some info.sender ∧
      s.HasAccount name (id.pushChain relay.source) account ∧
      subs = info.funds.map fun coin => .plain (IbcClient.ics20SendMsg (relay.env chain s.source)
        channel coin account.asStr (memo.map IbcClient.Memo.Text)) := by
  have agrees : Agrees relay s := by
    rw [reached]
    exact agrees_run (starts.agrees owner) right
  simp only [IbcClient.execute, IbcClient.executeSendFunds, IbcClient.remoteAddr,
    ClientEnv.accountIdOf, bind_eq_ok, mapError_eq_ok, okOr_eq_ok, pure_eq_ok,
    Prod.mk.injEq] at sent
  obtain ⟨_, _, _, _, _, _, _, _, account, isAccount, remote, ⟨id, hasId, known⟩, channel, _, _, rfl⟩ :=
    sent
  obtain ⟨rfl, isAccount⟩ := assertAccount_sender isAccount
  obtain ⟨valid, registered⟩ := agrees.verified.of_assertAccount isAccount hasId
  obtain ⟨id', there, valid', sameKey, rfl, isThere⟩ := agrees.known _ _ _ known
  obtain rfl : id' = id := AccountId.storageKey_injective valid' valid sameKey
  exact ⟨id', there, channel, registered, isThere, rfl⟩

end Steps

section Sample

attribute [local instance] accountCrates noAuthenticators

/-! ## Two chains -/

def sampleToJson : IbcClientCallback → Binary
  | .WhoAmI => [0]
  | .CreateAccount ⟨.Local, seq⟩ => 1 :: seqBytes seq
  | .ModuleRemoteQuery "app" ⟨[7]⟩ [] => [2]
  | _ => [3]

/-- Decodes the callbacks of the examples. -/
def sampleFromJson : Binary → Except StdError IbcClientCallback
  | [0] => .ok .WhoAmI
  | [2] => .ok (.ModuleRemoteQuery "app" ⟨[7]⟩ [])
  | [_] => .error (.msg "unknown callback")
  | _ :: bytes => do
    let seq ← (seqFromVec bytes).mapError fun _ => StdError.msg "no sequence"
    return .CreateAccount (.ofLocal seq)
  | [] => .error (.msg "no callback")

theorem sampleFromJson_toJson (callback callback' : IbcClientCallback)
    (decoded : sampleFromJson (sampleToJson callback) = .ok callback') : callback' = callback := by
  unfold sampleToJson at decoded
  split at decoded
  · exact (Except.ok.inj decoded).symm
  · rename_i seq
    change (((seqFromVec (seqBytes seq)).mapError _) >>= _) = _ at decoded
    rw [seqFromVec_seqBytes] at decoded
    exact (Except.ok.inj decoded).symm
  · exact (Except.ok.inj decoded).symm
  · cases decoded

/-- The chain juno, whose client has a note to the host of osmosis. -/
def sampleRelay : Relay where
  source := ⟨"juno"⟩
  client := ⟨"client"⟩
  link note := if note = ⟨"note"⟩ then some ⟨⟨"osmosis"⟩, ⟨"proxy"⟩⟩ else none
  hostOf _ := IbcHost.sampleHost
  toJson := sampleToJson
  fromJson := sampleFromJson
  decodes := sampleFromJson_toJson

def sampleSource : SourceChain where
  view := { sampleChain with
    others := fun addr => if addr = ⟨"client"⟩ then some (Contract.bare 2) else none }
  env := { IbcClient.sampleEnv with queryAccountInfo := fun _ => .ok ⟨none, none, none⟩ }

def sampleArrival : Arrival where
  chain := IbcHost.fundingChain
  accepts _ := true
  namespaceText _ := "None"
  later _ := []

def sampleBridge : Bridge :=
  newBridge sampleRegistry (sampleInfo "adm") fun _ => IbcHost.newChainState

/-- The account of the monarch, on a chain that is connected. -/
def connecting : List Input :=
  [.here publishTx, .here (createTx "acc" "mon"),
    .call sampleSource (sampleInfo "adm") (.RegisterInfrastructure ⟨"osmosis"⟩ "note" "host") [0],
    .there ⟨"osmosis"⟩ IbcHost.registerProxy]

/-- It registers its account on the other chain. -/
def registering : List Input :=
  connecting ++ [.call sampleSource (sampleInfo "acc") (.Register ⟨"osmosis"⟩ none []) [1],
    .arrive 1 sampleArrival, .tell 1 sampleSource]

def payer : MessageInfo := { sender := ⟨"acc"⟩, funds := [⟨"ujuno", 5⟩] }

theorem starts_sample : Starts sampleRegistry fun _ => IbcHost.newChainState :=
  ⟨⟨_, _, instantiate_sampleRegistry⟩, fun _ => ⟨sampleInfo "adm", rfl⟩⟩

theorem connectsRight_connecting :
    AlongAccepted (Input.exec sampleRelay) (ConnectsRight sampleRelay) sampleBridge connecting := by
  refine Along.accepted ⟨trivial, trivial, ?_, ?_, trivial⟩
  · rintro _ addr validated
    obtain rfl : ⟨"note"⟩ = addr := Except.ok.inj validated
    exact ⟨⟨_, rfl, rfl⟩, rfl⟩
  · rintro chain text ⟨⟩ _ proxy _ _
    rfl

theorem connectsRight_registering :
    AlongAccepted (Input.exec sampleRelay) (ConnectsRight sampleRelay) sampleBridge registering :=
  alongAccepted_append.mpr
    ⟨connectsRight_connecting, Along.accepted ⟨trivial, trivial, trivial, trivial⟩⟩

/-- The registered account sends its coin to the account that stands for it. -/
theorem funds_reach_remote_account_registered :
    ∃ client subs id account channel,
      IbcClient.execute (sampleRelay.env sampleSource
          (run (Input.exec sampleRelay) sampleBridge registering).source) payer
        (.SendFunds ⟨"osmosis"⟩ none none)
        (run (Input.exec sampleRelay) sampleBridge registering).client = .ok (client, subs) ∧
      (run (Input.exec sampleRelay) sampleBridge registering).HasAccount ⟨"osmosis"⟩ id account ∧
      subs = payer.funds.map fun coin => .plain (IbcClient.ics20SendMsg (sampleRelay.env sampleSource
        (run (Input.exec sampleRelay) sampleBridge registering).source) channel coin account.asStr
          none) := by
  have accepted : (IbcClient.execute (sampleRelay.env sampleSource
      (run (Input.exec sampleRelay) sampleBridge registering).source) payer
      (.SendFunds ⟨"osmosis"⟩ none none)
      (run (Input.exec sampleRelay) sampleBridge registering).client).toOption.isSome = true := by
    decide +kernel
  obtain ⟨⟨client, subs⟩, isSome⟩ := Option.isSome_iff_exists.mp accepted
  have sent := toOption_eq_some.mp isSome
  obtain ⟨id, account, channel, _, there, transfers⟩ :=
    funds_reach_remote_account starts_sample connectsRight_registering rfl sent
  exact ⟨client, subs, _, account, channel, sent, there, transfers⟩

end Sample

end AbstractFramework.Interchain
