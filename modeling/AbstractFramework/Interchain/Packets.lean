import AbstractFramework.Accounts.SubAccountIndex
import AbstractFramework.Interchain.Relay

/-! # What the steps of a bridge do

The packets that calls of the client send, what the client and the hosts store, and how
a packet that registers an account is executed.
-/

namespace AbstractFramework.Interchain

open Fallible Storage Accounts
open Account hiding World
open IbcClient (ClientState ClientEnv ClientMsg ClientSubMsg CallbackMessage CallbackRequest
  IbcClientCallback PolytoneCallback PolytoneNoteExecuteMsg RemoteMsg SubMsgResponse
  IbcInfrastructure PACKET_LIFETIME)
open IbcHost (ChainState HostChain HostInput HostMsg HostState HostSubMsg HostTx)

section Calls

variable [Crates] [Xion]

/-! ## Packets of a call -/

/-- What a call asks a note for. -/
inductive Asks (env : ClientEnv) (info : MessageInfo) (s : ClientState) :
    IbcClient.ExecuteMsg → Addr → PolytoneNoteExecuteMsg → Prop where
  | whoAmI {chain : TruncatedChainId} {note host : String} {addr : Addr} :
      Asks env info s (.RegisterInfrastructure chain note host) addr
        (.Execute [] (some ⟨env.address, env.toJson .WhoAmI⟩) PACKET_LIFETIME)
  | action {chain : TruncatedChainId} {action : IbcHost.HostAction} {infra : IbcInfrastructure}
      {id : AccountId} (registered : s.ibcInfra.lookup chain = some infra)
      (isAccount : env.assertAccount info.sender = .ok info.sender)
      (hasId : env.querier.queryAccountId info.sender = .ok id) :
      Asks env info s (.RemoteAction chain action) infra.polytoneNote (.Execute
        [⟨infra.remoteAbstractHost, .Execute id info.sender.asStr action⟩] none PACKET_LIFETIME)
  | register {chain : TruncatedChainId} {ns : Option String} {modules : List ModuleInstallConfig}
      {infra : IbcInfrastructure} {id : AccountId} {action : IbcHost.InternalAction}
      (registered : s.ibcInfra.lookup chain = some infra)
      (isAccount : env.assertAccount info.sender = .ok info.sender)
      (hasId : env.querier.queryAccountId info.sender = .ok id) :
      Asks env info s (.Register chain ns modules) infra.polytoneNote (.Execute
        [⟨infra.remoteAbstractHost, .Execute id info.sender.asStr (.Internal action)⟩]
        (some ⟨env.address, env.toJson (.CreateAccount id)⟩) PACKET_LIFETIME)
  | module {chain : TruncatedChainId} {target : ModuleInfo} {msg : Binary}
      {callback : Option IbcClient.Callback} {infra : IbcInfrastructure}
      {source : IbcHost.InstalledModuleIdentification}
      (registered : s.ibcInfra.lookup chain = some infra) :
      Asks env info s (.ModuleIbcAction chain target msg callback) infra.polytoneNote (.Execute
        [⟨infra.remoteAbstractHost, .ModuleExecute source target msg⟩]
        (callback.map fun c =>
          ⟨env.address, env.toJson (.ModuleRemoteAction info.sender.asStr c msg)⟩) PACKET_LIFETIME)
  | query {chain : TruncatedChainId} {queries : List (IbcClient.QueryRequest IbcClient.ModuleQuery)}
      {mapped : List (IbcClient.QueryRequest Empty)} {callback : IbcClient.Callback}
      {infra : IbcInfrastructure} (registered : s.ibcInfra.lookup chain = some infra)
      (maps : queries.mapM (IbcClient.mapQuery infra.remoteAbstractHost) = .ok mapped) :
      Asks env info s (.IbcQuery chain queries callback) infra.polytoneNote (.Query mapped
        ⟨env.address, env.toJson (.ModuleRemoteQuery info.sender.asStr callback queries)⟩
        PACKET_LIFETIME)

/-- What a callback from the note of a chain stores and sends. -/
inductive Learns (env : ClientEnv) (chain : TruncatedChainId) (message : CallbackMessage)
    (s : ClientState) : ClientState → List ClientSubMsg → Prop where
  | proxy {infra : IbcInfrastructure} {remoteProxy : Option String}
      (registered : s.ibcInfra.lookup chain = some infra) :
      Learns env chain message s
        { s with ibcInfra := s.ibcInfra.insert chain { infra with remoteProxy } } []
  | account {id : AccountId} {response : IbcClient.ExecutionResponse} {remote : String}
      (decoded : env.fromJson message.initiatorMsg = .ok (.CreateAccount id))
      (isSuccess : message.result = .Execute (.Success response))
      (created : IbcClient.createdAddress response (.IbcFailed message) = .ok remote) :
      Learns env chain message s
        { s with accounts := s.accounts.insert (id.storageKey, chain) remote } []
  | action {sender : String} {callback : IbcClient.Callback} {initiatorMsg : Binary}
      {result : IbcClient.IbcResult}
      (decoded : env.fromJson message.initiatorMsg =
        .ok (.ModuleRemoteAction sender callback initiatorMsg))
      (isResult : IbcClient.IbcResult.fromExecute message.result initiatorMsg = .ok result) :
      Learns env chain message s s [.plain (.IbcCallback sender { callback, result })]
  | query {sender : String} {callback : IbcClient.Callback}
      {queries : List (IbcClient.QueryRequest IbcClient.ModuleQuery)} {result : IbcClient.IbcResult}
      (decoded : env.fromJson message.initiatorMsg =
        .ok (.ModuleRemoteQuery sender callback queries))
      (isResult : IbcClient.IbcResult.fromQuery message.result queries = .ok result) :
      Learns env chain message s s [.plain (.IbcCallback sender { callback, result })]

section Inversion

variable {env : ClientEnv} {info : MessageInfo} {s s' : ClientState} {subs : List ClientSubMsg}

omit [Xion] in
theorem assertAccount_sender {account : Addr} (h : env.assertAccount info.sender = .ok account) :
    account = info.sender ∧ env.assertAccount info.sender = .ok info.sender := by
  obtain rfl := IbcClient.assertAccount_eq_ok h
  exact ⟨rfl, h⟩

theorem sendRemoteHostAction_eq_ok {id : AccountId} {account : Addr} {chain : TruncatedChainId}
    {action : IbcHost.HostAction} {callback : Option CallbackRequest} {msg : ClientMsg} :
    IbcClient.sendRemoteHostAction s id account chain action callback = .ok msg ↔
      ∃ infra, s.ibcInfra.lookup chain = some infra ∧
        .Note infra.polytoneNote (.Execute
          [⟨infra.remoteAbstractHost, .Execute id account.asStr action⟩] callback PACKET_LIFETIME) =
            msg := by
  simp only [IbcClient.sendRemoteHostAction, IbcClient.loadInfra, bind_eq_ok, okOr_eq_ok,
    pure_eq_ok]

/-- A callback that is accepted comes from a registered note, for the client. -/
theorem learns_of_callback {message : CallbackMessage}
    (h : IbcClient.receiveActionCallback env info message s = .ok (s', subs)) :
    ∃ chain, s.reversePolytoneNote.lookup info.sender = some chain ∧
      message.initiator = env.address ∧ Learns env chain message s s' subs := by
  simp only [IbcClient.receiveActionCallback, bind_eq_ok, okOr_eq_ok, ensure_eq_ok,
    mapError_eq_ok] at h
  obtain ⟨chain, isNote, _, isClient, callback, decoded, h⟩ := h
  refine ⟨chain, isNote, isClient, ?_⟩
  cases callback with
  | WhoAmI =>
    dsimp only at h
    split at h
    · simp only [bind_eq_ok, okOr_eq_ok, pure_eq_ok, Prod.mk.injEq] at h
      obtain ⟨infra, registered, rfl, rfl⟩ := h
      exact .proxy registered
    · cases h
    · cases h
  | CreateAccount accountId =>
    dsimp only at h
    split at h
    · rename_i response isSuccess
      simp only [bind_eq_ok, pure_eq_ok, Prod.mk.injEq] at h
      obtain ⟨remote, created, rfl, rfl⟩ := h
      exact .account decoded isSuccess created
    · cases h
  | ModuleRemoteAction sender callback msg =>
    simp only [bind_eq_ok, mapError_eq_ok, pure_eq_ok, Prod.mk.injEq] at h
    obtain ⟨result, isResult, rfl, rfl⟩ := h
    exact .action decoded isResult
  | ModuleRemoteQuery sender callback queries =>
    simp only [bind_eq_ok, mapError_eq_ok, pure_eq_ok, Prod.mk.injEq] at h
    obtain ⟨result, isResult, rfl, rfl⟩ := h
    exact .query decoded isResult

/-- A call that is no callback asks notes, and sends transfers. -/
theorem sends_of_execute {msg : IbcClient.ExecuteMsg} {sub : ClientSubMsg}
    (h : IbcClient.execute env info msg s = .ok (s', subs))
    (noCallback : ∀ message, msg ≠ .Callback message) (listed : sub ∈ subs) :
    (∃ note asked, sub.msg = .Note note asked ∧ Asks env info s msg note asked) ∨
      ∃ channel address coin timeout memo, sub.msg = .Transfer channel address coin timeout memo := by
  cases msg with
  | UpdateOwnership action =>
    simp only [IbcClient.execute, bind_eq_ok, mapError_eq_ok, pure_eq_ok, Prod.mk.injEq] at h
    obtain ⟨_, _, _, rfl⟩ := h
    cases listed
  | RegisterInfrastructure chain noteText host =>
    simp only [IbcClient.execute, IbcClient.executeRegisterInfrastructure, bind_eq_ok,
      mapError_eq_ok, ensure_eq_ok, pure_eq_ok, Prod.mk.injEq] at h
    obtain ⟨_, _, _, _, addr, _, _, _, _, rfl⟩ := h
    obtain rfl := List.mem_singleton.mp listed
    exact .inl ⟨_, _, rfl, .whoAmI⟩
  | SendFunds chain receiver memo =>
    simp only [IbcClient.execute, IbcClient.executeSendFunds, bind_eq_ok, mapError_eq_ok,
      pure_eq_ok, Prod.mk.injEq] at h
    obtain ⟨_, _, _, _, _, _, _, _, _, _, _, _, _, _, _, rfl⟩ := h
    obtain ⟨coin, _, rfl⟩ := List.mem_map.mp listed
    exact .inr ⟨_, _, _, _, _, rfl⟩
  | SendFundsWithActions chain actions =>
    simp only [IbcClient.execute, IbcClient.executeSendFundsWithActions, bind_eq_ok,
      mapError_eq_ok, pure_eq_ok, Prod.mk.injEq] at h
    obtain ⟨_, _, _, _, _, _, _, _, _, _, _, _, _, _, _, _, _, _, _, rfl⟩ := h
    obtain rfl := List.mem_singleton.mp listed
    exact .inr ⟨_, _, _, _, _, rfl⟩
  | Register chain ns modules =>
    simp only [IbcClient.execute, IbcClient.executeRegisterAccount, ClientEnv.accountIdOf,
      bind_eq_ok, mapError_eq_ok, pure_eq_ok, Prod.mk.injEq] at h
    obtain ⟨_, _, _, _, _, _, account, isAccount, id, hasId, accountInfo, _, msg, made, _, rfl⟩ := h
    obtain ⟨rfl, isAccount⟩ := assertAccount_sender isAccount
    obtain ⟨infra, registered, rfl⟩ := sendRemoteHostAction_eq_ok.mp made
    obtain rfl := List.mem_singleton.mp listed
    exact .inl ⟨_, _, rfl, .register registered isAccount hasId⟩
  | ModuleIbcAction chain target msg callback =>
    simp only [IbcClient.execute, IbcClient.executeSendModuleToModulePacket, IbcClient.loadInfra,
      bind_eq_ok, mapError_eq_ok, okOr_eq_ok, pure_eq_ok, Prod.mk.injEq] at h
    obtain ⟨_, _, _, _, _, _, _, _, source, _, infra, registered, _, rfl⟩ := h
    obtain rfl := List.mem_singleton.mp listed
    exact .inl ⟨_, _, rfl, .module registered⟩
  | IbcQuery chain queries callback =>
    simp only [IbcClient.execute, IbcClient.executeSendQuery, IbcClient.loadInfra, bind_eq_ok,
      okOr_eq_ok, pure_eq_ok, Prod.mk.injEq] at h
    obtain ⟨_, _, infra, registered, mapped, maps, _, rfl⟩ := h
    obtain rfl := List.mem_singleton.mp listed
    exact .inl ⟨_, _, rfl, .query registered maps⟩
  | RemoteAction chain action =>
    simp only [IbcClient.execute, IbcClient.executeSendPacket, bind_eq_ok] at h
    obtain ⟨_, _, _, _, _, _, h⟩ := h
    cases action with
    | Internal internal => cases h
    | _ =>
      simp only [ClientEnv.accountIdOf, bind_eq_ok, mapError_eq_ok, pure_eq_ok,
        Prod.mk.injEq] at h
      obtain ⟨account, isAccount, id, hasId, msg, made, _, rfl⟩ := h
      obtain ⟨rfl, isAccount⟩ := assertAccount_sender isAccount
      obtain ⟨infra, registered, rfl⟩ := sendRemoteHostAction_eq_ok.mp made
      obtain rfl := List.mem_singleton.mp listed
      exact .inl ⟨_, _, rfl, .action registered isAccount hasId⟩
  | RemoveHost chain =>
    simp only [IbcClient.execute, IbcClient.executeRemoveHost, bind_eq_ok, pure_eq_ok,
      Prod.mk.injEq] at h
    obtain ⟨_, _, _, _, _, rfl⟩ := h
    cases listed
  | Callback message => exact absurd rfl (noCallback message)

/-- What a call sends to notes is what it asks them for. -/
theorem asks_of_execute {msg : IbcClient.ExecuteMsg} {note : Addr} {asked : PolytoneNoteExecuteMsg}
    (h : IbcClient.execute env info msg s = .ok (s', subs))
    (noCallback : ∀ message, msg ≠ .Callback message)
    (sent : (note, asked) ∈ subs.filterMap noteMsg) : Asks env info s msg note asked := by
  obtain ⟨sub, listed, isNote⟩ := List.mem_filterMap.mp sent
  rcases sends_of_execute h noCallback listed with ⟨note', asked', isMsg, asks⟩ |
    ⟨channel, address, coin, timeout, memo, isMsg⟩
  · simp only [noteMsg, isMsg, Option.some.injEq, Prod.mk.injEq] at isNote
    obtain ⟨rfl, rfl⟩ := isNote
    exact asks
  · simp [noteMsg, isMsg] at isNote

/-! ## What the client stores -/

/-- The remote accounts and the connections are those of before. -/
def SameTables (s s' : ClientState) : Prop :=
  s'.accounts = s.accounts ∧ s'.ibcInfra = s.ibcInfra ∧
    s'.reversePolytoneNote = s.reversePolytoneNote

/-- What a call that is no callback stores of accounts and connections. -/
inductive Connects (env : ClientEnv) (info : MessageInfo) (s : ClientState) :
    IbcClient.ExecuteMsg → ClientState → Prop where
  | keeps {msg : IbcClient.ExecuteMsg} {s' : ClientState} (same : SameTables s s') :
      Connects env info s msg s'
  | registers {chain : TruncatedChainId} {note host : String} {addr : Addr}
      (isOwner : Crates.cwOwner s.ownership = some info.sender)
      (validated : env.addrValidate note = .ok addr) :
      Connects env info s (.RegisterInfrastructure chain note host) { s with
        ibcInfra := s.ibcInfra.insert chain ⟨addr, host, none⟩
        reversePolytoneNote := s.reversePolytoneNote.insert addr chain }
  | removes {msg : IbcClient.ExecuteMsg} {chain : TruncatedChainId} {rev : Map Addr TruncatedChainId}
      (fewer : rev = s.reversePolytoneNote ∨ ∃ note, rev = s.reversePolytoneNote.erase note) :
      Connects env info s msg
        { s with ibcInfra := s.ibcInfra.erase chain, reversePolytoneNote := rev }

omit [Xion] in
theorem SameTables.refl (s : ClientState) : SameTables s s := ⟨rfl, rfl, rfl⟩

omit [Xion] in
theorem assertOwner_eq_ok {sender : Addr} {u : Unit} :
    IbcClient.assertOwner s sender = .ok u ↔ Crates.cwOwner s.ownership = some sender := by
  unfold IbcClient.assertOwner
  split
  · rename_i none
    simp [none]
  · rename_i owner isOwner
    rw [ensure_eq_ok, isOwner, Option.some.injEq, eq_comm]

theorem connects_of_execute {msg : IbcClient.ExecuteMsg}
    (h : IbcClient.execute env info msg s = .ok (s', subs))
    (noCallback : ∀ message, msg ≠ .Callback message) : Connects env info s msg s' := by
  cases msg with
  | UpdateOwnership action =>
    simp only [IbcClient.execute, bind_eq_ok, mapError_eq_ok, pure_eq_ok, Prod.mk.injEq] at h
    obtain ⟨_, _, rfl, _⟩ := h
    exact .keeps ⟨rfl, rfl, rfl⟩
  | RegisterInfrastructure chain note host =>
    simp only [IbcClient.execute, IbcClient.executeRegisterInfrastructure, bind_eq_ok,
      mapError_eq_ok, ensure_eq_ok, pure_eq_ok, Prod.mk.injEq] at h
    obtain ⟨_, _, _, owner, addr, validated, _, _, rfl, _⟩ := h
    exact .registers (assertOwner_eq_ok.mp owner) validated
  | SendFunds chain receiver memo =>
    simp only [IbcClient.execute, IbcClient.executeSendFunds, bind_eq_ok, mapError_eq_ok,
      pure_eq_ok, Prod.mk.injEq] at h
    obtain ⟨_, _, _, _, _, _, _, _, _, _, _, _, _, _, rfl, _⟩ := h
    exact .keeps (.refl _)
  | SendFundsWithActions chain actions =>
    simp only [IbcClient.execute, IbcClient.executeSendFundsWithActions, bind_eq_ok,
      mapError_eq_ok, pure_eq_ok, Prod.mk.injEq] at h
    obtain ⟨_, _, _, _, _, _, _, _, _, _, _, _, _, _, _, _, _, _, rfl, _⟩ := h
    exact .keeps ⟨rfl, rfl, rfl⟩
  | Register chain ns modules =>
    simp only [IbcClient.execute, IbcClient.executeRegisterAccount, bind_eq_ok, mapError_eq_ok,
      pure_eq_ok, Prod.mk.injEq] at h
    obtain ⟨_, _, _, _, _, _, _, _, _, _, _, _, _, _, rfl, _⟩ := h
    exact .keeps (.refl _)
  | ModuleIbcAction chain target msg callback =>
    simp only [IbcClient.execute, IbcClient.executeSendModuleToModulePacket, bind_eq_ok,
      mapError_eq_ok, pure_eq_ok, Prod.mk.injEq] at h
    obtain ⟨_, _, _, _, _, _, _, _, _, _, _, _, rfl, _⟩ := h
    exact .keeps (.refl _)
  | IbcQuery chain queries callback =>
    simp only [IbcClient.execute, IbcClient.executeSendQuery, bind_eq_ok, pure_eq_ok,
      Prod.mk.injEq] at h
    obtain ⟨_, _, _, _, _, _, rfl, _⟩ := h
    exact .keeps (.refl _)
  | RemoteAction chain action =>
    simp only [IbcClient.execute, IbcClient.executeSendPacket, bind_eq_ok] at h
    obtain ⟨_, _, _, _, _, _, h⟩ := h
    cases action with
    | Internal internal => cases h
    | _ =>
      simp only [bind_eq_ok, mapError_eq_ok, pure_eq_ok, Prod.mk.injEq] at h
      obtain ⟨_, _, _, _, _, _, rfl, _⟩ := h
      exact .keeps (.refl _)
  | RemoveHost chain =>
    simp only [IbcClient.execute, IbcClient.executeRemoveHost, bind_eq_ok, pure_eq_ok,
      Prod.mk.injEq] at h
    obtain ⟨_, _, _, _, rfl, _⟩ := h
    refine .removes ?_
    split
    · exact .inr ⟨_, rfl⟩
    · exact .inl rfl
  | Callback message => exact absurd rfl (noCallback message)

theorem sameTables_reply {id : Nat} {result : Except String (Option Binary)}
    (h : IbcClient.reply env id result s = .ok (s', subs)) : SameTables s s' := by
  unfold IbcClient.reply at h
  split at h
  · simp only [IbcClient.saveCallbackActions, bind_eq_ok, okOr_eq_ok, mapError_eq_ok, pure_eq_ok,
      Prod.mk.injEq] at h
    obtain ⟨_, _, _, _, _, _, _, _, _, _, rfl, _⟩ := h
    exact ⟨rfl, rfl, rfl⟩
  · cases h

theorem sameTables_sudo {msg : IbcClient.SudoMsg}
    (h : IbcClient.executeSudo msg s = .ok (s', subs)) : SameTables s s' := by
  cases msg with
  | IBCAck channel sequence ack success =>
    simp only [IbcClient.executeSudo, IbcClient.ics20HookCallback, IbcClient.takeCallback,
      bind_eq_ok, okOr_eq_ok, pure_eq_ok, Prod.mk.injEq] at h
    obtain ⟨_, ⟨_, _, _, _, rfl⟩, rfl, _⟩ := h
    exact ⟨rfl, rfl, rfl⟩
  | IBCTimeout channel sequence =>
    simp only [IbcClient.executeSudo, IbcClient.ics20HookCallback, IbcClient.takeCallback,
      bind_eq_ok, okOr_eq_ok, pure_eq_ok, Prod.mk.injEq] at h
    obtain ⟨_, ⟨_, _, _, _, rfl⟩, rfl, _⟩ := h
    exact ⟨rfl, rfl, rfl⟩

/-! ## Packets on their way -/

/-- A packet of a call is on its way, and the others are where they were. -/
theorem depart_cases {sender : Addr} {call : IbcClient.ExecuteMsg}
    {msgs : List (Addr × PolytoneNoteExecuteMsg)} {ids : List Nat}
    {packets packets' : Map Nat (Packet × Stage)} {k : Nat} {packet : Packet} {stage : Stage}
    (departed : depart sender call msgs ids packets = .ok packets')
    (found : packets'.lookup k = some (packet, stage)) :
    packets.lookup k = some (packet, stage) ∨
      ∃ note msg, (note, msg) ∈ msgs ∧ packet = ⟨sender, call, note, msg⟩ ∧ stage = .Sent := by
  induction msgs generalizing ids packets with
  | nil =>
    obtain rfl := Except.ok.inj departed
    exact .inl found
  | cons sent rest ih =>
    obtain ⟨note, msg⟩ := sent
    cases ids with
    | nil => cases departed
    | cons id ids =>
      simp only [depart, bind_eq_ok, ensure_eq_ok] at departed
      obtain ⟨_, _, departed⟩ := departed
      rcases ih departed with before | ⟨note', msg', listed, isPacket, isSent⟩
      · rcases lookup_insert_cases before with ⟨_, here⟩ | ⟨_, before⟩
        · obtain ⟨rfl, rfl⟩ := Prod.mk.inj here
          exact .inr ⟨note, msg, List.mem_cons_self, rfl, rfl⟩
        · exact .inl before
      · exact .inr ⟨note', msg', List.mem_cons_of_mem _ listed, isPacket, isSent⟩

/-- Either the client refuses what it is told, or it executes the callback. -/
theorem answer_cases {relay : Relay} {chain : SourceChain} {w : World} {packet : Packet}
    {outcome : PolytoneCallback} {msgs : List ClientMsg}
    (h : relay.answer chain w packet outcome s = (s', msgs)) :
    (s' = s ∧ msgs = []) ∨ ∃ request subs, packet.callback = some request ∧
      request.receiver = relay.client ∧ msgs = subs.map ClientSubMsg.msg ∧
      IbcClient.receiveActionCallback (relay.env chain w) { sender := packet.note, funds := [] }
        { initiator := relay.client, initiatorMsg := request.msg, result := outcome } s =
          .ok (s', subs) := by
  unfold Relay.answer at h
  split at h
  · obtain ⟨rfl, rfl⟩ := Prod.mk.inj h
    exact .inl ⟨rfl, rfl⟩
  · rename_i request asks
    split at h
    · obtain ⟨rfl, rfl⟩ := Prod.mk.inj h
      exact .inl ⟨rfl, rfl⟩
    · rename_i isClient
      dsimp only at h
      split at h
      · rename_i client subs executed
        obtain ⟨rfl, rfl⟩ := Prod.mk.inj h
        exact .inr ⟨request, subs, asks, not_not.mp isClient, rfl, executed⟩
      · obtain ⟨rfl, rfl⟩ := Prod.mk.inj h
        exact .inl ⟨rfl, rfl⟩

end Inversion

end Calls

/-! ## Hosts -/

section Hosts

variable [Crates] [Xion] {host : Addr} {tx : HostTx} {s s' : ChainState}

theorem reply_proxies {env : IbcHost.HostEnv} {id : IbcHost.ReplyId} {h h' : HostState}
    {msgs : List HostSubMsg} (replied : IbcHost.reply env id h = .ok (h', msgs)) :
    h'.reverseChainProxies = h.reverseChainProxies := by
  cases id with
  | Response =>
    simp only [IbcHost.reply, Except.ok.injEq, Prod.mk.injEq] at replied
    rw [← replied.1]
  | InitBeforeAction =>
    simp only [IbcHost.reply, IbcHost.replyExecuteAction, bind_eq_ok, okOr_eq_ok] at replied
    obtain ⟨cache, _, handled⟩ := replied
    cases IbcHost.handleHostAction_handles handled <;> rfl

/-- What follows from a call of the host registers no proxy. -/
theorem deliver_proxies {depth : Nat} {sub : HostSubMsg} (h : tx.deliver host depth s sub = .ok s') :
    s'.host.reverseChainProxies = s.host.reverseChainProxies := by
  induction depth generalizing s s' sub with
  | zero => cases h
  | succ depth ih =>
    simp only [HostTx.deliver, bind_eq_ok] at h
    obtain ⟨w, _, h⟩ := h
    cases asks : sub.replyOnSuccess with
    | none =>
      simp only [asks, pure_eq_ok] at h
      rw [← h]
    | some id =>
      simp only [asks, bind_eq_ok, mapError_eq_ok] at h
      obtain ⟨⟨h', msgs⟩, replied, rest⟩ := h
      refine foldlM_invariant
        (P := fun m : ChainState => m.host.reverseChainProxies = s.host.reverseChainProxies) ?_
        (reply_proxies replied) rest
      intro m sub m' _ same done
      exact (ih done).trans same

/-- The proxies after a call of the host are those of before, and the one that the owner
    registers. -/
theorem exec_proxies (h : tx.exec host s = .ok s') {proxy : Addr} {chain : TruncatedChainId}
    (isProxy : s'.host.reverseChainProxies.lookup proxy = some chain) :
    s.host.reverseChainProxies.lookup proxy = some chain ∨
      ∃ text, tx.msg = .RegisterChainProxy chain text ∧ tx.chain.addrValidate text = .ok proxy ∧
        Crates.cwOwner s.host.ownership = some tx.info.sender := by
  obtain ⟨h', msgs, executed, rest⟩ := IbcHost.exec_eq_ok h
  have kept : s'.host.reverseChainProxies = h'.reverseChainProxies :=
    foldlM_invariant (P := fun m : ChainState => m.host.reverseChainProxies = h'.reverseChainProxies)
      (fun m sub m' _ same done => (deliver_proxies done).trans same) rfl rest
  rw [kept] at isProxy
  cases isMsg : tx.msg with
  | Execute id address action =>
    simp only [isMsg, IbcHost.execute, bind_eq_ok] at executed
    obtain ⟨_, _, handled⟩ := executed
    left
    cases IbcHost.handleHostAction_handles handled <;> exact isProxy
  | UpdateOwnership action =>
    simp only [isMsg, IbcHost.execute, bind_eq_ok, mapError_eq_ok, pure_eq_ok,
      Prod.mk.injEq] at executed
    obtain ⟨_, _, rfl, _⟩ := executed
    exact .inl isProxy
  | RegisterChainProxy name text =>
    simp only [isMsg, IbcHost.execute, IbcHost.registerChainProxy, bind_eq_ok, mapError_eq_ok,
      ensure_eq_ok, pure_eq_ok, Prod.mk.injEq] at executed
    obtain ⟨_, owner, _, _, addr, validated, _, _, rfl, _⟩ := executed
    rw [lookup_insert_ite] at isProxy
    split at isProxy
    · rename_i same
      obtain rfl : name = chain := Option.some.inj isProxy
      rw [← same] at validated
      refine .inr ⟨text, rfl, validated, ?_⟩
      unfold IbcHost.assertAdmin at owner
      split at owner
      · cases owner
      · rename_i isOwner
        rw [isOwner, ensure_eq_ok.mp owner]
    · exact .inl isProxy
  | RemoveChainProxy name =>
    simp only [isMsg, IbcHost.execute, IbcHost.removeChainProxy, bind_eq_ok, mapError_eq_ok,
      pure_eq_ok, Prod.mk.injEq] at executed
    obtain ⟨_, _, _, _, rfl, _⟩ := executed
    dsimp only at isProxy
    split at isProxy
    · exact .inl (lookup_erase_eq_some.mp isProxy).2
    · exact .inl isProxy
  | ModuleExecute source target msg =>
    simp only [isMsg, IbcHost.execute, bind_eq_ok, pure_eq_ok, Prod.mk.injEq] at executed
    obtain ⟨_, _, _, _, rfl, _⟩ := executed
    exact .inl isProxy
  | Fund account name =>
    simp only [isMsg, IbcHost.execute, bind_eq_ok, pure_eq_ok, Prod.mk.injEq] at executed
    obtain ⟨_, _, rfl, _⟩ := executed
    exact .inl isProxy

/-- An address that is registered stays so. -/
theorem exec_registered {input : HostInput} {u : Unit} {key : AccountKey} {account : Addr}
    (h : input.exec host s = .ok (s', u))
    (there : s.world.registry.accountAddresses.lookup key = some account) :
    s'.world.registry.accountAddresses.lookup key = some account := by
  have run : (Machine.run (HostInput.exec host) s [input]).world.registry.accountAddresses.lookup
      key = some account := IbcHost.run_registered [input] there
  rwa [Machine.run_cons, Machine.run_nil, Machine.step_of_ok h] at run

/-- What every message of a packet keeps, the packet keeps. -/
theorem executeMsgs_invariant {arrival : Arrival} {link : Link} {msgs : List RemoteMsg}
    {responses : List SubMsgResponse} {P : ChainState → Prop}
    (body : ∀ remote ∈ msgs, ∀ m m', P m → (arrival.tx link remote.msg).exec host m = .ok m' → P m')
    (start : P s) (done : arrival.executeMsgs host link msgs s = .ok (s', responses)) : P s' := by
  induction msgs generalizing s responses with
  | nil =>
    obtain ⟨rfl, rfl⟩ := Prod.mk.inj (Except.ok.inj done)
    exact start
  | cons remote rest ih =>
    simp only [Arrival.executeMsgs, bind_eq_ok, mapError_eq_ok, pure_eq_ok, Prod.mk.injEq] at done
    obtain ⟨_, _, m, executed, ⟨t, later⟩, more, rfl, rfl⟩ := done
    exact ih (fun r listed => body r (List.mem_cons_of_mem _ listed))
      (body remote List.mem_cons_self _ _ start executed) more

end Hosts

end AbstractFramework.Interchain
