import AbstractFramework.IbcHost.Dispatch
import AbstractFramework.IbcClient.Commands

/-! # The chains that the ibc contracts are connected to

The host knows a proxy for each chain and the client a note for each chain, and
both find the chain of a proxy or note in a second map.  The two maps are written
and erased together, so that no proxy and no note speaks for two chains.

`Executes` is everything that a call of the client can do, and the other modules
about the client start from it.
-/

namespace AbstractFramework.IbcClient

open Fallible Storage
open Account hiding World

variable [Crates] [Xion]

/-! ## What a call does -/

/-- The message moves no coins, acts on no account, and asks for no reply. -/
def ClientSubMsg.Quiet (sub : ClientSubMsg) : Prop :=
  sub.replyOnSuccess = none ∧
    match sub.msg with
    | .Note _ _ | .IbcCallback _ _ => True
    | _ => False

/-- What a successful call stores and sends. -/
inductive Executes (env : ClientEnv) (info : MessageInfo) (s : ClientState) :
    ExecuteMsg → ClientState → List ClientSubMsg → Prop where
  /-- Nothing is stored, and notes and modules get messages. -/
  | asks {msg : ExecuteMsg} {msgs : List ClientSubMsg} (quiet : ∀ sub ∈ msgs, sub.Quiet) :
      Executes env info s msg s msgs
  | ownership {msg : ExecuteMsg} {ownership : Crates.CwOwnership} :
      Executes env info s msg { s with ownership } []
  | registers {msg : ExecuteMsg} {chain : TruncatedChainId} {infra : IbcInfrastructure}
      {sub : ClientSubMsg} (newChain : chain ∉ s.ibcInfra)
      (newNote : infra.polytoneNote ∉ s.reversePolytoneNote) (quiet : sub.Quiet) :
      Executes env info s msg { s with
        ibcInfra := s.ibcInfra.insert chain infra
        reversePolytoneNote := s.reversePolytoneNote.insert infra.polytoneNote chain } [sub]
  | removes {msg : ExecuteMsg} {chain : TruncatedChainId} {infra : IbcInfrastructure}
      (registered : s.ibcInfra.lookup chain = some infra) :
      Executes env info s msg { s with
        ibcInfra := s.ibcInfra.erase chain
        reversePolytoneNote := s.reversePolytoneNote.erase infra.polytoneNote } []
  | removesNone {msg : ExecuteMsg} {chain : TruncatedChainId}
      (missing : s.ibcInfra.lookup chain = none) :
      Executes env info s msg { s with ibcInfra := s.ibcInfra.erase chain } []
  | learnsProxy {msg : ExecuteMsg} {chain : TruncatedChainId} {infra : IbcInfrastructure}
      {proxy : Option String} (registered : s.ibcInfra.lookup chain = some infra) :
      Executes env info s msg
        { s with ibcInfra := s.ibcInfra.insert chain { infra with remoteProxy := proxy } } []
  | learnsAccount {msg : ExecuteMsg} {key : AccountKey × TruncatedChainId} {remote : String} :
      Executes env info s msg { s with accounts := s.accounts.insert key remote } []
  | sendsFunds {chain : TruncatedChainId} {receiver memo : Option String}
      {channel address : String} (isAccount : env.assertAccount info.sender = .ok info.sender) :
      Executes env info s (.SendFunds chain receiver memo) s (info.funds.map fun coin =>
        .plain (ics20SendMsg env channel coin address (memo.map Memo.Text)))
  | sendsWithActions {chain : TruncatedChainId} {actions : List Binary} {channel address : String}
      {coin : Coin} {hook : IbcHost.ExecuteMsg} (isCoin : info.funds = [coin])
      (isAccount : env.assertAccount info.sender = .ok info.sender) :
      Executes env info s (.SendFundsWithActions chain actions)
        { s with ics20AccountCallbackPayload := some ⟨channel, info.sender, coin, actions⟩ }
        [{ msg := ics20SendMsg env channel coin address (some (.Hook address hook (some env.address)))
           replyOnSuccess := some SEND_FUNDS_WITH_ACTIONS_REPLY_ID }]

section Inversion

variable {env : ClientEnv} {info : MessageInfo} {s s' : ClientState} {msgs : List ClientSubMsg}

theorem quiet_note (note : Addr) (msg : PolytoneNoteExecuteMsg) :
    (ClientSubMsg.plain (.Note note msg)).Quiet := ⟨rfl, trivial⟩

theorem sendRemoteHostAction_quiet {id : AccountId} {account : Addr} {chain : TruncatedChainId}
    {action : IbcHost.HostAction} {callback : Option CallbackRequest} {msg : ClientMsg}
    (h : sendRemoteHostAction s id account chain action callback = .ok msg) :
    (ClientSubMsg.plain msg).Quiet := by
  simp only [sendRemoteHostAction, bind_eq_ok, pure_eq_ok] at h
  obtain ⟨infra, _, rfl⟩ := h
  exact quiet_note _ _

omit [Xion] in
/-- The account that the registry confirms is the address that was asked about. -/
theorem assertAccount_eq_ok {addr account : Addr} (h : env.assertAccount addr = .ok account) :
    account = addr := by
  simp only [ClientEnv.assertAccount, bind_eq_ok, ensure_eq_ok, pure_eq_ok] at h
  obtain ⟨_, _, _, _, _, same, rfl⟩ := h
  exact same

omit [Crates] [Xion] in
theorem oneCoin_eq_ok {coin : Coin} (h : oneCoin info = .ok coin) : info.funds = [coin] := by
  unfold oneCoin at h
  split at h
  · cases h
  · rename_i only isOnly
    split at h
    · cases h
    · rw [isOnly, Except.ok.inj h]
  · cases h

theorem receiveActionCallback_executes {message : CallbackMessage}
    (h : receiveActionCallback env info message s = .ok (s', msgs)) :
    Executes env info s (.Callback message) s' msgs := by
  simp only [receiveActionCallback, bind_eq_ok, okOr_eq_ok, ensure_eq_ok, mapError_eq_ok] at h
  obtain ⟨chain, _, _, _, callback, _, h⟩ := h
  cases callback with
  | WhoAmI =>
    dsimp only at h
    split at h
    · simp only [bind_eq_ok, okOr_eq_ok, pure_eq_ok, Prod.mk.injEq] at h
      obtain ⟨infra, registered, rfl, rfl⟩ := h
      exact .learnsProxy registered
    · cases h
    · cases h
  | CreateAccount accountId =>
    dsimp only at h
    split at h
    · simp only [bind_eq_ok, pure_eq_ok, Prod.mk.injEq] at h
      obtain ⟨_, _, rfl, rfl⟩ := h
      exact .learnsAccount
    · cases h
  | ModuleRemoteAction sender callback msg =>
    simp only [bind_eq_ok, mapError_eq_ok, pure_eq_ok, Prod.mk.injEq] at h
    obtain ⟨_, _, rfl, rfl⟩ := h
    exact .asks (by simp [ClientSubMsg.Quiet, ClientSubMsg.plain])
  | ModuleRemoteQuery sender callback queries =>
    simp only [bind_eq_ok, mapError_eq_ok, pure_eq_ok, Prod.mk.injEq] at h
    obtain ⟨_, _, rfl, rfl⟩ := h
    exact .asks (by simp [ClientSubMsg.Quiet, ClientSubMsg.plain])

theorem execute_executes {msg : ExecuteMsg} (h : execute env info msg s = .ok (s', msgs)) :
    Executes env info s msg s' msgs := by
  cases msg with
  | UpdateOwnership action =>
    simp only [execute, bind_eq_ok, mapError_eq_ok, pure_eq_ok, Prod.mk.injEq] at h
    obtain ⟨_, _, rfl, rfl⟩ := h
    exact .ownership
  | RegisterInfrastructure chain note host =>
    simp only [execute, executeRegisterInfrastructure, bind_eq_ok, mapError_eq_ok, ensure_eq_ok,
      pure_eq_ok, Prod.mk.injEq] at h
    obtain ⟨_, _, _, _, note, _, _, ⟨newChain, newNote⟩, rfl, rfl⟩ := h
    exact .registers newChain newNote (quiet_note _ _)
  | SendFunds chain receiver memo =>
    simp only [execute, executeSendFunds, bind_eq_ok, mapError_eq_ok, pure_eq_ok,
      Prod.mk.injEq] at h
    obtain ⟨_, _, _, _, _, _, _, _, account, isAccount, _, _, _, _, rfl, rfl⟩ := h
    obtain rfl := assertAccount_eq_ok isAccount
    exact .sendsFunds isAccount
  | SendFundsWithActions chain actions =>
    simp only [execute, executeSendFundsWithActions, bind_eq_ok, mapError_eq_ok, pure_eq_ok,
      Prod.mk.injEq] at h
    obtain ⟨_, _, coin, isCoin, _, _, _, _, _, _, account, isAccount, _, _, _, _, _, _, rfl, rfl⟩ := h
    obtain rfl := assertAccount_eq_ok isAccount
    exact .sendsWithActions (oneCoin_eq_ok isCoin) isAccount
  | Register chain ns modules =>
    simp only [execute, executeRegisterAccount, bind_eq_ok, mapError_eq_ok, pure_eq_ok,
      Prod.mk.injEq] at h
    obtain ⟨_, _, _, _, _, _, _, _, _, _, _, _, noteMsg, sent, rfl, rfl⟩ := h
    exact .asks (by simpa using sendRemoteHostAction_quiet sent)
  | ModuleIbcAction chain target msg callback =>
    simp only [execute, executeSendModuleToModulePacket, bind_eq_ok, mapError_eq_ok, pure_eq_ok,
      Prod.mk.injEq] at h
    obtain ⟨_, _, _, _, _, _, _, _, _, _, _, _, rfl, rfl⟩ := h
    exact .asks (by simpa using quiet_note _ _)
  | IbcQuery chain queries callback =>
    simp only [execute, executeSendQuery, bind_eq_ok, pure_eq_ok, Prod.mk.injEq] at h
    obtain ⟨_, _, _, _, _, _, rfl, rfl⟩ := h
    exact .asks (by simpa using quiet_note _ _)
  | RemoteAction chain action =>
    simp only [execute, executeSendPacket, bind_eq_ok] at h
    obtain ⟨_, _, _, _, _, _, h⟩ := h
    cases action with
    | Internal internal => cases h
    | _ =>
      simp only [bind_eq_ok, mapError_eq_ok, pure_eq_ok, Prod.mk.injEq] at h
      obtain ⟨_, _, _, _, noteMsg, sent, rfl, rfl⟩ := h
      exact .asks (by simpa using sendRemoteHostAction_quiet sent)
  | RemoveHost chain =>
    simp only [execute, executeRemoveHost, bind_eq_ok, pure_eq_ok, Prod.mk.injEq] at h
    obtain ⟨_, _, _, _, rfl, rfl⟩ := h
    cases registered : s.ibcInfra.lookup chain with
    | some infra => exact .removes registered
    | none => exact .removesNone registered
  | Callback message => exact receiveActionCallback_executes h

end Inversion

/-! ## Runs of the client -/

inductive Input where
  | execute (env : ClientEnv) (info : MessageInfo) (msg : ExecuteMsg)
  | reply (env : ClientEnv) (id : Nat) (result : Except String (Option Binary))
  | lifecycle (msg : SudoMsg)

def exec : Input → ClientState → ClientResult
  | .execute env info msg, s => execute env info msg s
  | .reply env id result, s => reply env id result s
  | .lifecycle msg, s => executeSudo msg s

/-- The notes of the chains, found both ways. -/
def ClientState.Mirrored (s : ClientState) : Prop :=
  Mirror IbcInfrastructure.polytoneNote s.ibcInfra s.reversePolytoneNote

section Mirrored

variable {env : ClientEnv} {info : MessageInfo} {s s' : ClientState} {msgs : List ClientSubMsg}

theorem Executes.mirrored {msg : ExecuteMsg} (executes : Executes env info s msg s' msgs)
    (mirrored : s.Mirrored) : s'.Mirrored := by
  cases executes with
  | registers newChain newNote _ =>
    exact Mirror.insert mirrored (AList.lookup_eq_none.mpr newChain) newNote
  | removes registered => exact Mirror.erase mirrored registered
  | removesNone missing => exact Mirror.erase_free mirrored missing
  | learnsProxy registered => exact Mirror.update mirrored registered rfl
  | asks | ownership | learnsAccount | sendsFunds | sendsWithActions => exact mirrored

def ClientState.await (s : ClientState) (key : Bytes) (entry : Addr × Coin × List Binary) :
    ClientState :=
  { s with ics20AccountCallbacks := s.ics20AccountCallbacks.insert key entry }

/-- The reply stores a transfer, and nothing else. -/
theorem saveCallbackActions_eq_ok {result : Except String (Option Binary)}
    (h : saveCallbackActions env result s = .ok (s', msgs)) :
    ∃ data sequence payload key, result = .ok (some data) ∧
      env.decodeTransferResponse data = .ok sequence ∧
      s.ics20AccountCallbackPayload = some payload ∧
      ICS20PacketIdentifier.storageKey ⟨payload.channelId, sequence⟩ = .ok key ∧ msgs = [] ∧
      s' = s.await key (payload.accountAddress, payload.funds, payload.msgs) := by
  simp only [saveCallbackActions, bind_eq_ok, mapError_eq_ok, okOr_eq_ok, pure_eq_ok,
    Prod.mk.injEq] at h
  obtain ⟨_, isOk, data, rfl, sequence, decoded, payload, stored, key, isKey, rfl, rfl⟩ := h
  exact ⟨data, sequence, payload, key, isOk, decoded, stored, isKey, rfl, rfl⟩

omit [Xion] in
/-- The outcome of a packet takes its entry out of the storage. -/
theorem takeCallback_eq_ok {packet : ICS20PacketIdentifier} {account : Addr} {coin : Coin}
    {actions : List Binary} :
    takeCallback packet s = .ok (s', account, coin, actions) ↔ ∃ key, packet.storageKey = .ok key ∧
      s.ics20AccountCallbacks.lookup key = some (account, coin, actions) ∧
      s' = { s with ics20AccountCallbacks := s.ics20AccountCallbacks.erase key } := by
  simp only [takeCallback, bind_eq_ok, okOr_eq_ok, pure_eq_ok, Prod.mk.injEq]
  constructor
  · rintro ⟨key, isKey, entry, found, rfl, rfl⟩
    exact ⟨key, isKey, found, rfl⟩
  · rintro ⟨key, isKey, found, rfl⟩
    exact ⟨key, isKey, _, found, rfl, rfl⟩

/-- The packet whose outcome the chain reports. -/
def SudoMsg.packet : SudoMsg → ICS20PacketIdentifier
  | .IBCAck channel sequence _ _ => ⟨channel, sequence⟩
  | .IBCTimeout channel sequence => ⟨channel, sequence⟩

/-- A report that is accepted takes the entry of its packet. -/
theorem executeSudo_takes {msg : SudoMsg} (h : executeSudo msg s = .ok (s', msgs)) :
    ∃ account coin actions, takeCallback msg.packet s = .ok (s', account, coin, actions) := by
  cases msg with
  | IBCAck | IBCTimeout =>
    simp only [executeSudo, ics20HookCallback, bind_eq_ok, pure_eq_ok, Prod.mk.injEq] at h
    obtain ⟨⟨_, account, coin, actions⟩, taken, rfl, _⟩ := h
    exact ⟨account, coin, actions, taken⟩

theorem exec_mirrored {input : Input} (mirrored : s.Mirrored)
    (h : exec input s = .ok (s', msgs)) : s'.Mirrored := by
  cases input with
  | execute env info msg => exact (execute_executes h).mirrored mirrored
  | reply env id result =>
    simp only [exec, reply] at h
    split at h
    · obtain ⟨_, _, _, _, _, _, _, _, _, rfl⟩ := saveCallbackActions_eq_ok h
      exact mirrored
    · cases h
  | lifecycle msg =>
    obtain ⟨_, _, _, taken⟩ := executeSudo_takes h
    obtain ⟨_, _, _, rfl⟩ := takeCallback_eq_ok.mp taken
    exact mirrored

theorem run_mirrored (owner : MessageInfo) (inputs : List Input) :
    (Machine.run exec (instantiate owner) inputs).Mirrored :=
  Machine.run_invariant inputs (fun _ _ _ _ mirrored ok => exec_mirrored mirrored ok)
    (mirror_empty _)

end Mirrored

end AbstractFramework.IbcClient

namespace AbstractFramework.IbcHost

open Fallible Storage
open Account hiding World

variable [Crates] [Xion]

/-! ## Runs of the host -/

inductive Input where
  | execute (env : HostEnv) (info : MessageInfo) (msg : ExecuteMsg)
  | reply (env : HostEnv) (id : ReplyId)

def exec : Input → HostState → HostResult
  | .execute env info msg, s => execute env info msg s
  | .reply env id, s => reply env id s

section Mirrored

variable {env : HostEnv} {s s' : HostState} {msgs : List HostSubMsg}

theorem Handles.mirrored {chain : TruncatedChainId} {address : String} {id : AccountId}
    {action : HostAction} (handles : Handles env chain address id action s s' msgs)
    (mirrored : s.Mirrored) : s'.Mirrored := by
  cases handles with
  | register | dispatch | create => exact mirrored

theorem exec_mirrored {input : Input} (mirrored : s.Mirrored)
    (h : exec input s = .ok (s', msgs)) : s'.Mirrored := by
  cases input with
  | execute env info msg =>
    cases isPacket : packetOf info msg with
    | nil => exact (execute_other isPacket h).2.1 mirrored
    | cons event events =>
      cases msg with
      | Execute id address action =>
        simp only [exec, execute, bind_eq_ok] at h
        obtain ⟨chain, _, handled⟩ := h
        exact (handleHostAction_handles handled).mirrored mirrored
      | _ => cases isPacket
  | reply env id =>
    cases id with
    | InitBeforeAction =>
      simp only [exec, reply, replyExecuteAction, bind_eq_ok] at h
      obtain ⟨cache, _, handled⟩ := h
      exact (handleHostAction_handles handled).mirrored mirrored
    | Response =>
      obtain ⟨rfl, rfl⟩ := Prod.mk.inj (Except.ok.inj h)
      exact mirrored

theorem run_mirrored (admin : MessageInfo) (inputs : List Input) :
    (Machine.run exec (instantiate admin) inputs).Mirrored :=
  Machine.run_invariant inputs (fun _ _ _ _ mirrored ok => exec_mirrored mirrored ok)
    (mirrored_instantiate admin)

end Mirrored

end AbstractFramework.IbcHost

namespace AbstractFramework.IbcClient

open Storage

variable [Crates] [Xion]

/-- After any run of the host and any run of the client, from new ones: a chain has a proxy
    exactly when the proxy has the chain, a chain has a note exactly when the note has the
    chain, and neither has two chains. -/
theorem chains_one_to_one (admin owner : MessageInfo) (hostInputs : List IbcHost.Input)
    (clientInputs : List Input) :
    let host := Machine.run IbcHost.exec (IbcHost.instantiate admin) hostInputs
    let client := Machine.run exec (instantiate owner) clientInputs
    (∀ chain proxy, host.chainProxies.lookup chain = some proxy ↔
      host.reverseChainProxies.lookup proxy = some chain) ∧
    (∀ chain note, (∃ infra, client.ibcInfra.lookup chain = some infra ∧ infra.polytoneNote = note) ↔
      client.reversePolytoneNote.lookup note = some chain) ∧
    (∀ chain chain' proxy, host.chainProxies.lookup chain = some proxy →
      host.chainProxies.lookup chain' = some proxy → chain = chain') ∧
    (∀ chain chain' infra infra', client.ibcInfra.lookup chain = some infra →
      client.ibcInfra.lookup chain' = some infra' → infra.polytoneNote = infra'.polytoneNote →
      chain = chain') := by
  intro host client
  have proxies : Mirror id host.chainProxies host.reverseChainProxies :=
    IbcHost.run_mirrored admin hostInputs
  have notes : Mirror IbcInfrastructure.polytoneNote client.ibcInfra client.reversePolytoneNote :=
    run_mirrored owner clientInputs
  refine ⟨?_, ?_, ?_, ?_⟩
  · intro chain proxy
    rw [← proxies.lookup_iff]
    simp
  · intro chain note
    exact notes.lookup_iff
  · intro chain chain' proxy first second
    exact proxies.injective first second rfl
  · intro chain chain' infra infra' first second same
    exact notes.injective first second same

end AbstractFramework.IbcClient
