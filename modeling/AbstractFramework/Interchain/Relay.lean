import AbstractFramework.IbcClient.ModulePackets
import AbstractFramework.IbcHost.Funding

/-! # The client and the hosts it reaches

One chain with its accounts and its ibc client, and the chains whose ibc hosts the client
reaches through its notes.  A call of the client gives packets to notes.  A packet is
executed on the other chain by the proxy of the note, all of it or nothing, and
whoever relays it chooses when; later the note tells the client the outcome.  In between
everyone acts on every chain.

A note tells the client only the outcome of what the client has sent, and says who has
sent it.  The other messages of the client are those of `IbcClient.Network`; here they
are left out.
-/

namespace AbstractFramework.Interchain

open Fallible Storage Accounts
open Account hiding World
open IbcClient (ClientState ClientEnv ClientMsg ClientSubMsg CallbackMessage CallbackRequest
  IbcClientCallback PolytoneCallback PolytoneNoteExecuteMsg RemoteMsg SubMsgResponse
  ABSTRACT_EVENT_TYPE)
open IbcHost (ChainState HostChain HostInput HostMsg HostSubMsg HostTx HostTxError)

section Model

variable [Crates] [Xion]

/-! ## Events of an account's creation -/

def REGISTRY : String := "abstract:registry"

/-- The event of `abstract_response`, as the chain reports it. -/
def abstractEvent (addr : Addr) (contract action : String) (attrs : List (String × String)) :
    IbcClient.Event where
  ty := ABSTRACT_EVENT_TYPE
  attributes := (("_contract_address", addr.asStr) :: ("contract", contract) ::
    ("action", action) :: attrs).map fun attr => ⟨attr.1, attr.2⟩

/-- The new account, and the registry to which it adds itself. -/
def creationEvents (registry account : Addr) (id : AccountId) (ns : String) :
    List IbcClient.Event :=
  [abstractEvent account ACCOUNT "instantiate" [("account_id", id.toStr)],
    abstractEvent registry REGISTRY "add_account"
      [("account_id", id.toStr), ("account_address", account.asStr), ("namespace", ns)]]

/-! ## Packets -/

/-- The other end of a note. -/
structure Link where
  chain : TruncatedChainId
  /-- The proxy of the note, which acts there for the client. -/
  proxy : Addr

/-- What does not change. -/
structure Relay where
  /-- The chain of the client, by the name that the hosts know it by. -/
  source : TruncatedChainId
  client : Addr
  link : Addr → Option Link
  hostOf : TruncatedChainId → Addr
  toJson : IbcClientCallback → Binary
  fromJson : Binary → Except StdError IbcClientCallback
  /-- What is decoded is what was encoded. -/
  decodes : ∀ callback callback', fromJson (toJson callback) = .ok callback' → callback' = callback

/-- What the client has sent over a note, with the call that it is from. -/
structure Packet where
  sender : Addr
  call : IbcClient.ExecuteMsg
  note : Addr
  msg : PolytoneNoteExecuteMsg

def Packet.callback (packet : Packet) : Option CallbackRequest :=
  match packet.msg with
  | .Query _ callback _ => some callback
  | .Execute _ callback _ => callback

inductive Stage where
  | Sent
  | Executed (outcome : PolytoneCallback)
  /-- The client has been told, and has sent the messages. -/
  | Told (outcome : PolytoneCallback) (msgs : List ClientMsg)

structure Bridge where
  /-- The accounts and the registry beside the client. -/
  source : World
  client : ClientState
  chains : TruncatedChainId → ChainState
  packets : Map Nat (Packet × Stage)

inductive BridgeError where
  | InClient (e : IbcClient.ClientError)
  | InHost (e : HostTxError)
  | InAccounts (e : TxError)
  | NoSuchPacket
  | UsedId
  | NoLink
  /-- A contract other than the host. -/
  | OtherContract (addr : String)
  /-- The note has not been asked for this. -/
  | Forged
  /-- The outcome is not one of such a packet. -/
  | WrongOutcome

/-- The chain of the client around a call. -/
structure SourceChain where
  view : ChainView
  /-- What is not read from the accounts and the registry. -/
  env : ClientEnv

def Relay.env (relay : Relay) (chain : SourceChain) (w : World) : ClientEnv :=
  { chain.env with
    address := relay.client
    chainName := relay.source
    querier := chain.view.querier w
    registry := w.registry
    toJson := relay.toJson
    fromJson := relay.fromJson }

/-- The other chain while a packet is executed. -/
structure Arrival where
  chain : HostChain
  accepts : HostMsg → Bool
  /-- The text of a namespace in an event. -/
  namespaceText : Option String → String
  /-- The events of what follows from a message, such as those of installed modules. -/
  later : RemoteMsg → List IbcClient.Event

/-! ## Execution on the other chain -/

namespace Arrival

variable (arrival : Arrival)

def tx (link : Link) (msg : IbcHost.ExecuteMsg) : HostTx where
  chain := arrival.chain
  info := { sender := link.proxy, funds := [] }
  msg
  accepts := arrival.accepts

/-- The events of a message of the host.  Those of other messages than creations come with
    the later ones. -/
def subEvents (host : Addr) (sub : HostSubMsg) : List IbcClient.Event :=
  match sub.msg with
  | .Instantiate2 _ codeId _ msg _ salt =>
    match arrival.chain.codeInfo codeId with
    | some code =>
      match arrival.chain.instantiate2Address code.checksum host salt, msg.accountId with
      | .ok account, some id =>
        creationEvents arrival.chain.registryAddr account id (arrival.namespaceText msg.ns)
      | _, _ => []
    | none => []
  | _ => []

def response (host : Addr) (link : Link) (remote : RemoteMsg) (s : ChainState) : SubMsgResponse :=
  match IbcHost.execute (arrival.chain.env host s.world) (arrival.tx link remote.msg).info
    remote.msg s.host with
  | .ok (_, subs) => { events := subs.flatMap (arrival.subEvents host) ++ arrival.later remote }
  | .error _ => { events := [] }

def executeMsgs (host : Addr) (link : Link) :
    List RemoteMsg → ChainState → Except BridgeError (ChainState × List SubMsgResponse)
  | [], s => .ok (s, [])
  | remote :: rest, s => do
    ensure (remote.contractAddr = host.asStr) (.OtherContract remote.contractAddr)
    let s' ← ((arrival.tx link remote.msg).exec host s).mapError BridgeError.InHost
    let (t, responses) ← executeMsgs host link rest s'
    return (t, arrival.response host link remote s :: responses)

end Arrival

/-- What a packet can end with that has not been executed, or is a query. -/
def endsWith : PolytoneNoteExecuteMsg → PolytoneCallback → Bool
  | .Query _ _ _, .Query _ => true
  | .Execute _ _ _, .Execute (.Error _) => true
  | _, .FatalError _ => true
  | _, _ => false

/-! ## Steps -/

inductive Input where
  /-- The client is called.  The packets of the call get the numbers. -/
  | call (chain : SourceChain) (info : MessageInfo) (msg : IbcClient.ExecuteMsg) (ids : List Nat)
  /-- The reply to a transfer, and the outcome of one. -/
  | reply (chain : SourceChain) (id : Nat) (result : Except String (Option Binary))
  | lifecycle (msg : IbcClient.SudoMsg)
  /-- A packet is executed. -/
  | arrive (id : Nat) (arrival : Arrival)
  /-- A packet fails, or is a query and answered. -/
  | settle (id : Nat) (outcome : PolytoneCallback)
  /-- The note tells the client. -/
  | tell (id : Nat) (chain : SourceChain)
  /-- Others act on the chain of the client. -/
  | here (tx : Tx)
  /-- Others act on another chain, or call its host. -/
  | there (chain : TruncatedChainId) (input : HostInput)

def noteMsg (sub : ClientSubMsg) : Option (Addr × PolytoneNoteExecuteMsg) :=
  match sub.msg with
  | .Note note msg => some (note, msg)
  | _ => none

/-- The packets of a call are on their way. -/
def depart (sender : Addr) (call : IbcClient.ExecuteMsg) :
    List (Addr × PolytoneNoteExecuteMsg) → List Nat → Map Nat (Packet × Stage) →
      Except BridgeError (Map Nat (Packet × Stage))
  | [], _, packets => .ok packets
  | _ :: _, [], _ => .error .UsedId
  | (note, msg) :: rest, id :: ids, packets => do
    ensure (id ∉ packets) .UsedId
    depart sender call rest ids (packets.insert id (⟨sender, call, note, msg⟩, .Sent))

/-- A note calls the client for others as well, and names them. -/
def Relay.genuine (relay : Relay) (info : MessageInfo) : IbcClient.ExecuteMsg → Bool
  | .Callback message => (relay.link info.sender).isNone || decide (message.initiator ≠ relay.client)
  | _ => true

def Bridge.sent (s : Bridge) (id : Nat) : Except BridgeError Packet :=
  match s.packets.lookup id with
  | some (packet, .Sent) => .ok packet
  | _ => .error .NoSuchPacket

def Bridge.executed (s : Bridge) (id : Nat) : Except BridgeError (Packet × PolytoneCallback) :=
  match s.packets.lookup id with
  | some (packet, .Executed outcome) => .ok (packet, outcome)
  | _ => .error .NoSuchPacket

/-- The client is told the outcome of its packet.  What it refuses is lost. -/
def Relay.answer (relay : Relay) (chain : SourceChain) (w : World) (packet : Packet)
    (outcome : PolytoneCallback) (client : ClientState) : ClientState × List ClientMsg :=
  match packet.callback with
  | none => (client, [])
  | some request =>
    if request.receiver ≠ relay.client then (client, [])
    else
      let message : CallbackMessage :=
        { initiator := relay.client, initiatorMsg := request.msg, result := outcome }
      match IbcClient.execute (relay.env chain w) { sender := packet.note, funds := [] }
        (.Callback message) client with
      | .ok (client, subs) => (client, subs.map ClientSubMsg.msg)
      | .error _ => (client, [])

def Input.exec (relay : Relay) (input : Input) (s : Bridge) : Except BridgeError (Bridge × Unit) :=
  match input with
  | .call chain info msg ids => do
    ensure (relay.genuine info msg = true) .Forged
    let (client, subs) ← (IbcClient.execute (relay.env chain s.source) info msg s.client).mapError
      BridgeError.InClient
    let packets ← depart info.sender msg (subs.filterMap noteMsg) ids s.packets
    return ({ s with client, packets }, ())
  | .reply chain id result => do
    let (client, _) ← (IbcClient.reply (relay.env chain s.source) id result s.client).mapError
      BridgeError.InClient
    return ({ s with client }, ())
  | .lifecycle msg => do
    let (client, _) ← (IbcClient.executeSudo msg s.client).mapError BridgeError.InClient
    return ({ s with client }, ())
  | .arrive id arrival => do
    let packet ← s.sent id
    let link ← okOr (relay.link packet.note) .NoLink
    match packet.msg with
    | .Query _ _ _ => .error .WrongOutcome
    | .Execute msgs _ _ => do
      let (chain, result) ← arrival.executeMsgs (relay.hostOf link.chain) link msgs
        (s.chains link.chain)
      let outcome : PolytoneCallback :=
        .Execute (.Success { executedBy := link.proxy.asStr, result })
      return ({ s with
        chains := Function.update s.chains link.chain chain
        packets := s.packets.insert id (packet, .Executed outcome) }, ())
  | .settle id outcome => do
    let packet ← s.sent id
    ensure (endsWith packet.msg outcome = true) .WrongOutcome
    return ({ s with packets := s.packets.insert id (packet, .Executed outcome) }, ())
  | .tell id chain => do
    let (packet, outcome) ← s.executed id
    let (client, msgs) := relay.answer chain s.source packet outcome s.client
    return ({ s with client, packets := s.packets.insert id (packet, .Told outcome msgs) }, ())
  | .here tx => do
    let (source, _) ← (Accounts.exec tx s.source).mapError BridgeError.InAccounts
    return ({ s with source }, ())
  | .there chain input => do
    let (c, _) ← (input.exec (relay.hostOf chain) (s.chains chain)).mapError BridgeError.InHost
    return ({ s with chains := Function.update s.chains chain c }, ())

/-- A new client, which knows no other chain yet. -/
def newBridge (registry : RegistryState) (owner : MessageInfo)
    (chains : TruncatedChainId → ChainState) : Bridge where
  source := { accounts := ∅, registry }
  client := IbcClient.instantiate owner
  chains
  packets := ∅

end Model

end AbstractFramework.Interchain
