import AbstractFramework.IbcClient.ModulePackets
import AbstractFramework.IbcClient.Network

/-! # Transfers settle once

`Consistent` ties the storage of the client to the packets on the chain: the entries
that await an outcome are the open packets of `SendFundsWithActions`, under their keys
and with the account, the coin and the actions of the call that sent them.  Hence a
packet of that kind settles exactly once, with its own actions or its own coin.

A packet of `SendFunds` has no such entry.
-/

namespace AbstractFramework.IbcClient

open Fallible Storage Requests Accounts
open Account hiding World

section Model

variable [Crates] [Xion]

/-- What the outcome of a packet brings to the account that sent it. -/
def settlement (packet : Packet) (outcome : Outcome) : List ClientMsg :=
  match packet.actions with
  | none => []
  | some actions =>
    if outcome.success then actions.map (ClientMsg.Account packet.sender)
    else [.BankSend packet.sender [packet.coin]]

/-- The one that a message pays or acts on. -/
def ClientMsg.reaches : ClientMsg → Option Addr
  | .Account account _ => some account
  | .BankSend account _ => some account
  | _ => none

/-- The coin of a packet, unless it has come back to the client and stayed there. -/
def away (denom : String) : Packet × Option Outcome → Nat
  | (packet, some outcome) =>
    if outcome.success = false ∧ packet.actions.isNone then 0 else inDenom denom packet.coin
  | (packet, none) => inDenom denom packet.coin

/-- The entry that awaits the outcome of a packet. -/
def Awaited (s : Net) (key : Bytes) (entry : Addr × Coin × List Binary) : Prop :=
  ∃ id packet actions, Open s.packets id packet ∧ packet.actions = some actions ∧
    id.storageKey = .ok key ∧ entry = (packet.sender, packet.coin, actions)

structure Consistent (chain : Chain) (s : Net) : Prop where
  awaited : ∀ key entry, s.client.ics20AccountCallbacks.lookup key = some entry ↔ Awaited s key entry
  /-- The packets of `SendFundsWithActions` have a key and report to the client. -/
  reported : ∀ id packet outcome, s.packets.lookup id = some (packet, outcome) →
    packet.actions.isSome → (∃ key, id.storageKey = .ok key) ∧
      chain.callbackOf packet.memo = some chain.client
  settled : Matches settlement s.packets s.settlements
  quiet : ∀ msg ∈ s.sent, msg.reaches = none
  balanced : ∀ denom, s.held denom + total s.packets (away denom) = s.received denom

end Model

section Steps

variable [Crates] [Xion] {chain : Chain} {env : ClientEnv} {s s' : Net}
  {id : ICS20PacketIdentifier} {packet : Packet}

/-! ## Coins -/

theorem inDenom_le (denom : String) {coin : Coin} (enough : coin.amount ≤ s.held coin.denom) :
    inDenom denom coin ≤ s.held denom := by
  unfold inDenom
  split
  · rename_i same
    rw [← same]
    exact enough
  · exact Nat.zero_le _

theorem spend_eq_ok {coin : Coin} : s.spend coin = .ok s' ↔ coin.amount ≤ s.held coin.denom ∧
    s' = { s with held := fun denom => s.held denom - inDenom denom coin } := by
  simp only [Net.spend, bind_eq_ok, ensure_eq_ok, pure_eq_ok]
  constructor
  · rintro ⟨_, enough, rfl⟩
    exact ⟨enough, rfl⟩
  · rintro ⟨enough, rfl⟩
    exact ⟨(), enough, rfl⟩

theorem spend_gain (s : Net) (coin : Coin) : (s.gain coin).spend coin = .ok s := by
  rw [spend_eq_ok]
  constructor
  · simp [Net.gain, inDenom]
  · simp [Net.gain]

/-! ## Sending -/

/-- A new packet is out with its coin. -/
theorem total_away_issue {denom : String} (new : id ∉ s.packets) :
    total (issue s.packets id packet) (away denom) =
      total s.packets (away denom) + inDenom denom packet.coin := by
  have balance := total_insert s.packets (away denom) id (packet, none)
  rw [AList.lookup_eq_none.mpr new] at balance
  exact balance

/-- A packet is sent.  The entries that await an outcome are those of before, and one for
    the packet if it has actions. -/
theorem Consistent.issue (client : ClientState) (consistent : Consistent chain s)
    (new : id ∉ s.packets) (enough : packet.coin.amount ≤ s.held packet.coin.denom)
    (awaited : ∀ key entry, client.ics20AccountCallbacks.lookup key = some entry ↔
      Awaited { s with packets := issue s.packets id packet } key entry)
    (reported : packet.actions.isSome → (∃ key, id.storageKey = .ok key) ∧
      chain.callbackOf packet.memo = some chain.client) :
    Consistent chain { s with
      client
      held := fun denom => s.held denom - inDenom denom packet.coin
      packets := issue s.packets id packet } where
  awaited := awaited
  reported id' packet' outcome found := by
    rcases lookup_insert_cases found with ⟨rfl, same⟩ | ⟨_, before⟩
    · obtain ⟨rfl, _⟩ := Prod.mk.inj same
      exact reported
    · exact consistent.reported id' packet' outcome before
  settled := consistent.settled.issue new
  quiet := consistent.quiet
  balanced denom := by
    have before := consistent.balanced denom
    have covered := inDenom_le denom enough
    simp only [total_away_issue new]
    omega

theorem awaited_issue_plain (new : id ∉ s.packets) (plain : packet.actions = none) {key : Bytes}
    {entry : Addr × Coin × List Binary} :
    Awaited { s with packets := issue s.packets id packet } key entry ↔ Awaited s key entry := by
  constructor
  · rintro ⟨id', packet', actions, isOpen, has, isKey, rfl⟩
    rcases (open_issue new).mp isOpen with ⟨rfl, rfl⟩ | old
    · rw [plain] at has
      cases has
    · exact ⟨id', packet', actions, old, has, isKey, rfl⟩
  · rintro ⟨id', packet', actions, isOpen, has, isKey, rfl⟩
    exact ⟨id', packet', actions, (open_issue new).mpr (.inr isOpen), has, isKey, rfl⟩

theorem awaited_issue_actions {actions : List Binary} {key key' : Bytes}
    {entry : Addr × Coin × List Binary} (new : id ∉ s.packets) (has : packet.actions = some actions)
    (isKey : id.storageKey = .ok key) :
    Awaited { s with packets := issue s.packets id packet } key' entry ↔
      key' = key ∧ entry = (packet.sender, packet.coin, actions) ∨
        key' ≠ key ∧ Awaited s key' entry := by
  constructor
  · rintro ⟨id', packet', actions', isOpen, has', isKey', rfl⟩
    rcases (open_issue new).mp isOpen with ⟨rfl, rfl⟩ | old
    · rw [has, Option.some.injEq] at has'
      exact .inl ⟨Except.ok.inj (isKey'.symm.trans isKey), by rw [has']⟩
    · refine .inr ⟨?_, id', packet', actions', old, has', isKey', rfl⟩
      rintro rfl
      obtain rfl := storageKey_injective isKey isKey'
      exact new (mem_of_lookup old)
  · rintro (⟨rfl, rfl⟩ | ⟨_, id', packet', actions', isOpen, has', isKey', rfl⟩)
    · exact ⟨id, packet, actions, (open_issue new).mpr (.inl ⟨rfl, rfl⟩), has, isKey, rfl⟩
    · exact ⟨id', packet', actions', (open_issue new).mpr (.inr isOpen), has', isKey', rfl⟩

theorem Consistent.transfer_plain (consistent : Consistent chain s) (plain : packet.actions = none)
    (h : transfer chain env id packet none s = .ok s') : Consistent chain s' := by
  simp only [transfer, bind_eq_ok, ensure_eq_ok, spend_eq_ok, pure_eq_ok] at h
  obtain ⟨_, new, _, ⟨enough, rfl⟩, rfl⟩ := h
  refine consistent.issue s.client new enough ?_ ?_
  · intro key entry
    rw [awaited_issue_plain new plain]
    exact consistent.awaited key entry
  · simp [plain]

/-- The reply to the packet of `SendFundsWithActions` stores it. -/
theorem Consistent.transfer_withActions {actions : List Binary} (consistent : Consistent chain s)
    (has : packet.actions = some actions)
    (payload : s.client.ics20AccountCallbackPayload =
      some ⟨id.channelId, packet.sender, packet.coin, actions⟩)
    (reports : chain.callbackOf packet.memo = some chain.client)
    (h : transfer chain env id packet (some SEND_FUNDS_WITH_ACTIONS_REPLY_ID) s = .ok s') :
    Consistent chain s' := by
  simp only [transfer, bind_eq_ok, ensure_eq_ok, spend_eq_ok, mapError_eq_ok, pure_eq_ok] at h
  obtain ⟨_, new, _, ⟨enough, rfl⟩, ⟨client, msgs⟩, replied, rfl⟩ := h
  simp only [reply, if_pos] at replied
  obtain ⟨data, sequence, stored, key, isData, decoded, isStored, isKey, rfl, rfl⟩ :=
    saveCallbackActions_eq_ok replied
  obtain rfl : chain.transferResponse id.sequence = data := Option.some.inj (Except.ok.inj isData)
  obtain rfl : id.sequence = sequence :=
    Except.ok.inj ((chain.decodes id.sequence).symm.trans decoded)
  rw [payload, Option.some.injEq] at isStored
  subst isStored
  have issued := consistent.issue (s.client.await key (packet.sender, packet.coin, actions)) new
    enough ?_ (fun _ => ⟨⟨key, isKey⟩, reports⟩)
  · simpa using issued
  · intro key' entry
    rw [awaited_issue_actions new has isKey, ClientState.await, lookup_insert_ite]
    split
    · rename_i same
      simp [same, eq_comm]
    · rename_i other
      simp [other, consistent.awaited]

/-- The messages are sent without a reply, and those that are transfers have no actions. -/
def Plain (sub : ClientSubMsg) : Prop := sub.replyOnSuccess = none ∧ sub.msg.reaches = none

theorem Consistent.emit (consistent : Consistent chain s) {msg : ClientMsg}
    (reaches : msg.reaches = none) : Consistent chain (s.emit msg) where
  awaited := consistent.awaited
  reported := consistent.reported
  settled := consistent.settled
  quiet := by
    intro msg' listed
    rcases List.mem_append.mp listed with old | new
    · exact consistent.quiet msg' old
    · rw [List.mem_singleton.mp new]
      exact reaches
  balanced := consistent.balanced

theorem Consistent.deliver_plain {sender : Addr} {subs : List ClientSubMsg}
    {sequences : List UInt64} (consistent : Consistent chain s) (plain : ∀ sub ∈ subs, Plain sub)
    (h : deliver chain env sender none subs sequences s = .ok s') : Consistent chain s' := by
  induction subs generalizing s sequences with
  | nil =>
    obtain rfl := Except.ok.inj h
    exact consistent
  | cons sub subs ih =>
    obtain ⟨noReply, reaches⟩ := plain sub List.mem_cons_self
    have rest : ∀ sub ∈ subs, Plain sub := fun sub later => plain sub (.tail _ later)
    have logged := consistent.emit reaches
    rcases deliver_cons h with ⟨_, _, _, m, _, sent, later⟩ | later
    · rw [noReply] at sent
      exact ih (logged.transfer_plain rfl sent) rest later
    · exact ih logged rest later

/-! ## Calls -/

/-- The client changes nothing that a transfer is awaited by. -/
theorem Consistent.client {client : ClientState} (consistent : Consistent chain s)
    (same : client.ics20AccountCallbacks = s.client.ics20AccountCallbacks) :
    Consistent chain { s with client } where
  awaited key entry := by
    dsimp only
    rw [same]
    exact consistent.awaited key entry
  reported := consistent.reported
  settled := consistent.settled
  quiet := consistent.quiet
  balanced := consistent.balanced

theorem Consistent.receive (consistent : Consistent chain s) (coins : List Coin) :
    Consistent chain (s.receive coins) where
  awaited := consistent.awaited
  reported := consistent.reported
  settled := consistent.settled
  quiet := consistent.quiet
  balanced denom := by
    have before := consistent.balanced denom
    simp only [Net.receive]
    omega

theorem ClientSubMsg.Quiet.plain {sub : ClientSubMsg} (quiet : sub.Quiet) : Plain sub := by
  obtain ⟨msg, reply⟩ := sub
  obtain ⟨noReply, kind⟩ := quiet
  refine ⟨noReply, ?_⟩
  cases msg with
  | Note | IbcCallback => rfl
  | Transfer | Account | BankSend => cases kind

/-- Only quiet messages are sent, so that the actions do not matter. -/
theorem deliver_quiet {sender : Addr} {actions : Option (List Binary)} {subs : List ClientSubMsg}
    {sequences : List UInt64} (quiet : ∀ sub ∈ subs, sub.Quiet) :
    deliver chain env sender actions subs sequences s =
      deliver chain env sender none subs sequences s := by
  induction subs generalizing s with
  | nil => rfl
  | cons sub subs ih =>
    obtain ⟨msg, reply⟩ := sub
    have kind := (quiet _ List.mem_cons_self).2
    have rest := fun sub later => quiet sub (.tail _ later)
    cases msg with
    | Note | IbcCallback => exact ih rest
    | Transfer | Account | BankSend => cases kind

theorem Consistent.call {info : MessageInfo} {msg : ExecuteMsg} {sequences : List UInt64}
    (consistent : Consistent chain s)
    (h : (NetInput.call env info msg sequences).exec chain s = .ok (s', ())) :
    Consistent chain s' := by
  simp only [NetInput.exec, bind_eq_ok, mapError_eq_ok, pure_eq_ok, Prod.mk.injEq, and_true] at h
  obtain ⟨⟨client, msgs⟩, executed, _, delivered, rfl⟩ := h
  have started (same : client.ics20AccountCallbacks = s.client.ics20AccountCallbacks) :
      Consistent chain { s.receive info.funds with client } :=
    (consistent.receive info.funds).client same
  cases execute_executes executed with
  | asks quiet =>
    rw [deliver_quiet quiet] at delivered
    exact (started rfl).deliver_plain (fun sub listed => (quiet sub listed).plain) delivered
  | registers _ _ quiet =>
    rw [deliver_quiet (by simpa using quiet)] at delivered
    refine (started rfl).deliver_plain ?_ delivered
    simpa using quiet.plain
  | ownership | removes | removesNone | learnsProxy | learnsAccount =>
    obtain rfl := Except.ok.inj delivered
    exact started rfl
  | sendsFunds =>
    refine (started rfl).deliver_plain ?_ delivered
    intro sub listed
    obtain ⟨coin, _, rfl⟩ := List.mem_map.mp listed
    exact ⟨rfl, rfl⟩
  | sendsWithActions =>
    simp only [deliver, ics20SendMsg] at delivered
    split at delivered
    · cases delivered
    · simp only [bind_eq_ok, Except.ok.injEq] at delivered
      obtain ⟨_, sent, rfl⟩ := delivered
      refine Consistent.transfer_withActions ?_ rfl rfl rfl sent
      exact (started rfl).emit rfl

/-! ## Outcomes -/

theorem openPacket_eq_ok : s.openPacket id = .ok packet ↔ Open s.packets id packet := by
  unfold Net.openPacket Open
  split
  · rename_i found
    simp [found, eq_comm]
  · rename_i other
    constructor
    · rintro ⟨⟩
    · intro found
      exact absurd found (other packet)

/-- The packet of `SendFunds` has no entry that the client could take. -/
theorem Consistent.not_taken {client : ClientState} {msgs : List ClientSubMsg} {outcome : Outcome}
    (consistent : Consistent chain s) (isOpen : Open s.packets id packet)
    (plain : packet.actions = none) :
    executeSudo (outcome.lifecycle id) s.client ≠ .ok (client, msgs) := by
  intro ok
  obtain ⟨_, _, _, taken⟩ := executeSudo_takes ok
  have reported : (outcome.lifecycle id).packet = id := by
    cases outcome <;> rfl
  rw [reported] at taken
  obtain ⟨key, isKey, found, _⟩ := takeCallback_eq_ok.mp taken
  obtain ⟨id', packet', actions', isOpen', has, isKey', _⟩ := (consistent.awaited _ _).mp found
  obtain rfl := storageKey_injective isKey isKey'
  obtain ⟨rfl, _⟩ := Prod.mk.inj (Option.some.inj (isOpen.symm.trans isOpen'))
  rw [plain] at has
  cases has

/-- The client answers the outcome of the packet of `SendFundsWithActions` with what it
    stands for. -/
theorem Consistent.taken {actions : List Binary} (outcome : Outcome)
    (consistent : Consistent chain s) (isOpen : Open s.packets id packet)
    (has : packet.actions = some actions) :
    ∃ key, id.storageKey = .ok key ∧ executeSudo (outcome.lifecycle id) s.client =
      .ok ({ s.client with ics20AccountCallbacks := s.client.ics20AccountCallbacks.erase key },
        (settlement packet outcome).map .plain) := by
  obtain ⟨⟨key, isKey⟩, _⟩ := consistent.reported id packet none isOpen (by simp [has])
  have found := (consistent.awaited key _).mpr ⟨id, packet, actions, isOpen, has, isKey, rfl⟩
  have taken := takeCallback_eq_ok.mpr ⟨key, isKey, found, rfl⟩
  refine ⟨key, isKey, ?_⟩
  cases outcome with
  | Ack ack success =>
    simp only [executeSudo, Outcome.lifecycle, ics20HookCallback, bind_eq_ok]
    refine ⟨_, taken, ?_⟩
    cases success <;> simp [settlement, has, Outcome.success]
  | Timeout =>
    simp only [executeSudo, Outcome.lifecycle, ics20HookCallback, bind_eq_ok]
    exact ⟨_, taken, by simp [settlement, has, Outcome.success]⟩

theorem carryOut_actions (account : Addr) (actions : List Binary) :
    (actions.map (ClientMsg.Account account)).foldlM (carryOut id) s =
      .ok { s with settlements :=
        s.settlements ++ (actions.map (ClientMsg.Account account)).map fun msg => (id, msg) } := by
  induction actions generalizing s with
  | nil => simp [pure, Except.pure]
  | cons action actions ih =>
    rw [List.map_cons, List.foldlM_cons, bind_eq_ok]
    refine ⟨_, rfl, ?_⟩
    rw [ih]
    simp

/-- What the outcome stands for is carried out: a coin that is sent back has just come in. -/
theorem carryOut_settlement (s : Net) (id : ICS20PacketIdentifier) {actions : List Binary}
    (outcome : Outcome) (has : packet.actions = some actions) (client : ClientState) :
    (settlement packet outcome).foldlM (carryOut id)
        { s.conclude id packet outcome with client } =
      .ok { s with
        client
        packets := Requests.settle s.packets id packet outcome
        settlements := s.settlements ++ (settlement packet outcome).map fun msg => (id, msg) } := by
  cases success : outcome.success with
  | true => simp [settlement, has, success, carryOut_actions, Net.conclude]
  | false =>
    have returned := spend_gain
      { s with client, packets := Requests.settle s.packets id packet outcome } packet.coin
    simp only [settlement, has, success, Net.conclude, List.foldlM_cons, List.foldlM_nil,
      bind_eq_ok, carryOut, pure_eq_ok, Bool.false_eq_true, if_false]
    exact ⟨_, ⟨_, ⟨_, returned, rfl⟩, rfl⟩, rfl⟩

/-- A packet with actions can be settled at any time, and this brings what the outcome
    stands for. -/
theorem Consistent.settle_withActions {actions : List Binary} (outcome : Outcome)
    (consistent : Consistent chain s) (isOpen : Open s.packets id packet)
    (has : packet.actions = some actions) :
    ∃ key, id.storageKey = .ok key ∧ (NetInput.settle id outcome).exec chain s = .ok ({ s with
      client := { s.client with ics20AccountCallbacks := s.client.ics20AccountCallbacks.erase key }
      packets := Requests.settle s.packets id packet outcome
      settlements := s.settlements ++ (settlement packet outcome).map fun msg => (id, msg) }, ()) := by
  obtain ⟨key, isKey, answered⟩ := consistent.taken outcome isOpen has
  obtain ⟨_, reports⟩ := consistent.reported id packet none isOpen (by simp [has])
  refine ⟨key, isKey, ?_⟩
  simp only [NetInput.exec, bind_eq_ok]
  refine ⟨packet, openPacket_eq_ok.mpr isOpen, ?_⟩
  have told := carryOut_settlement s id outcome has
    { s.client with ics20AccountCallbacks := s.client.ics20AccountCallbacks.erase key }
  rw [if_pos reports, Net.told, conclude_client, answered]
  simp only [Except.mapError, bind, Except.bind, List.map_map, Function.comp_def,
    ClientSubMsg.plain, List.map_id', told]
  rfl

/-- The client has nothing to answer to the outcome of a packet of `SendFunds`. -/
theorem Consistent.not_told (outcome : Outcome) (consistent : Consistent chain s)
    (isOpen : Open s.packets id packet) (plain : packet.actions = none) :
    ∃ e, (s.conclude id packet outcome).told id outcome = .error e := by
  cases told : (s.conclude id packet outcome).told id outcome with
  | error e => exact ⟨e, rfl⟩
  | ok s' =>
    simp only [Net.told, conclude_client, bind_eq_ok, mapError_eq_ok] at told
    obtain ⟨⟨_, _⟩, answered, _⟩ := told
    exact absurd answered (consistent.not_taken isOpen plain)

/-- An outcome of a packet of `SendFunds` that stands settles the packet. -/
theorem Consistent.settle_plain (outcome : Outcome) (consistent : Consistent chain s)
    (isOpen : Open s.packets id packet) (plain : packet.actions = none)
    (stands : chain.Stands packet.memo outcome) :
    (NetInput.settle id outcome).exec chain s = .ok (s.conclude id packet outcome, ()) := by
  simp only [NetInput.exec, bind_eq_ok]
  refine ⟨packet, openPacket_eq_ok.mpr isOpen, ?_⟩
  split
  · rename_i asked
    obtain ⟨e, failed⟩ := consistent.not_told outcome isOpen plain
    rw [failed, stands asked]
    rfl
  · rfl

theorem Consistent.settle_cases {outcome : Outcome} (consistent : Consistent chain s)
    (h : (NetInput.settle id outcome).exec chain s = .ok (s', ())) :
    ∃ packet, Open s.packets id packet ∧
      ((packet.actions = none ∧ chain.Stands packet.memo outcome ∧
          s' = s.conclude id packet outcome) ∨
        ∃ actions key, packet.actions = some actions ∧ id.storageKey = .ok key ∧ s' = { s with
          client := { s.client with
            ics20AccountCallbacks := s.client.ics20AccountCallbacks.erase key }
          packets := Requests.settle s.packets id packet outcome
          settlements :=
            s.settlements ++ (settlement packet outcome).map fun msg => (id, msg) }) := by
  have ok := h
  simp only [NetInput.exec, bind_eq_ok] at h
  obtain ⟨packet, isOpen, h⟩ := h
  have isOpen := openPacket_eq_ok.mp isOpen
  refine ⟨packet, isOpen, ?_⟩
  cases has : packet.actions with
  | none =>
    left
    obtain ⟨e, failed⟩ := consistent.not_told outcome isOpen has
    simp only [failed] at h
    split at h
    · split at h
      · cases h
      · rename_i kept
        simp only [pure_eq_ok, Prod.mk.injEq, and_true] at h
        exact ⟨rfl, fun _ => Bool.eq_false_iff.mpr kept, h.symm⟩
    · rename_i silent
      simp only [pure_eq_ok, Prod.mk.injEq, and_true] at h
      exact ⟨rfl, fun asked => absurd asked silent, h.symm⟩
  | some actions =>
    right
    obtain ⟨key, isKey, settled⟩ := consistent.settle_withActions outcome isOpen has
    rw [settled, Except.ok.injEq, Prod.mk.injEq] at ok
    exact ⟨actions, key, rfl, isKey, ok.1.symm⟩

theorem total_away_settle (denom : String) (outcome : Outcome) (isOpen : Open s.packets id packet) :
    total (Requests.settle s.packets id packet outcome) (away denom) + inDenom denom packet.coin =
      total s.packets (away denom) + away denom (packet, some outcome) := by
  have balance := total_insert s.packets (away denom) id (packet, some outcome)
  rw [isOpen] at balance
  exact balance

/-- A packet is settled.  The entries that await an outcome are those of the others. -/
theorem Consistent.settle (client : ClientState) (held : String → Nat) {outcome : Outcome}
    (consistent : Consistent chain s) (isOpen : Open s.packets id packet)
    (awaited : ∀ key entry, client.ics20AccountCallbacks.lookup key = some entry ↔
      Awaited { s with packets := Requests.settle s.packets id packet outcome } key entry)
    (kept : ∀ denom, held denom + away denom (packet, some outcome) =
      s.held denom + inDenom denom packet.coin) :
    Consistent chain { s with
      client
      held
      packets := Requests.settle s.packets id packet outcome
      settlements := s.settlements ++ (settlement packet outcome).map fun msg => (id, msg) } where
  awaited := awaited
  reported id' packet' outcome' found := by
    rcases lookup_insert_cases found with ⟨rfl, same⟩ | ⟨_, before⟩
    · obtain ⟨rfl, _⟩ := Prod.mk.inj same
      exact consistent.reported id' packet' none isOpen
    · exact consistent.reported id' packet' outcome' before
  settled := consistent.settled.settle isOpen
  quiet := consistent.quiet
  balanced denom := by
    have before := consistent.balanced denom
    have moved := total_away_settle denom outcome isOpen
    have kept := kept denom
    dsimp only
    omega

theorem awaited_settle_plain {outcome : Outcome} {key : Bytes} {entry : Addr × Coin × List Binary}
    (isOpen : Open s.packets id packet) (plain : packet.actions = none) :
    Awaited { s with packets := Requests.settle s.packets id packet outcome } key entry ↔
      Awaited s key entry := by
  constructor
  · rintro ⟨id', packet', actions, isOpen', has, rest⟩
    exact ⟨id', packet', actions, (open_settle.mp isOpen').2, has, rest⟩
  · rintro ⟨id', packet', actions, isOpen', has, rest⟩
    refine ⟨id', packet', actions, open_settle.mpr ⟨?_, isOpen'⟩, has, rest⟩
    rintro rfl
    obtain ⟨rfl, _⟩ := Prod.mk.inj (Option.some.inj (isOpen.symm.trans isOpen'))
    rw [plain] at has
    cases has

theorem awaited_settle_actions {outcome : Outcome} {key key' : Bytes}
    {entry : Addr × Coin × List Binary} (isKey : id.storageKey = .ok key) :
    Awaited { s with packets := Requests.settle s.packets id packet outcome } key' entry ↔
      key' ≠ key ∧ Awaited s key' entry := by
  constructor
  · rintro ⟨id', packet', actions, isOpen', has, isKey', rfl⟩
    obtain ⟨other, isOpen'⟩ := open_settle.mp isOpen'
    refine ⟨?_, id', packet', actions, isOpen', has, isKey', rfl⟩
    rintro rfl
    exact other (storageKey_injective isKey' isKey)
  · rintro ⟨other, id', packet', actions, isOpen', has, isKey', rfl⟩
    refine ⟨id', packet', actions, open_settle.mpr ⟨?_, isOpen'⟩, has, isKey', rfl⟩
    rintro rfl
    exact other (Except.ok.inj (isKey'.symm.trans isKey))

theorem Consistent.settles {outcome : Outcome} (consistent : Consistent chain s)
    (h : (NetInput.settle id outcome).exec chain s = .ok (s', ())) : Consistent chain s' := by
  obtain ⟨packet, isOpen, ⟨plain, _, rfl⟩ | ⟨actions, key, has, isKey, rfl⟩⟩ :=
    consistent.settle_cases h
  · have others : ∀ key entry, s.client.ics20AccountCallbacks.lookup key = some entry ↔
        Awaited { s with packets := Requests.settle s.packets id packet outcome } key entry := by
      intro key entry
      rw [awaited_settle_plain isOpen plain]
      exact consistent.awaited key entry
    have nothing : settlement packet outcome = [] := by simp [settlement, plain]
    unfold Net.conclude
    split
    · rename_i success
      have settled := consistent.settle s.client s.held isOpen others (by simp [away, success])
      simpa [nothing] using settled
    · rename_i failed
      have settled := consistent.settle s.client
        (fun denom => s.held denom + inDenom denom packet.coin) isOpen others
        (by simp [away, failed, plain])
      simpa [nothing, Net.gain] using settled
  · refine consistent.settle _ _ isOpen ?_ (by simp [away, has])
    intro key' entry
    rw [awaited_settle_actions isKey, lookup_erase_ite]
    split
    · rename_i same
      simp [same]
    · rename_i other
      simp [other, consistent.awaited]

theorem consistent_newNet (owner : MessageInfo) : Consistent chain (newNet owner) where
  awaited key entry := by
    constructor
    · intro found
      simp [newNet, instantiate] at found
    · rintro ⟨id, packet, actions, isOpen, _⟩
      simp [newNet, Open] at isOpen
  reported id packet outcome found := by simp [newNet] at found
  settled := matches_empty settlement
  quiet msg listed := by cases listed
  balanced denom := rfl

theorem consistent_run (owner : MessageInfo) (inputs : List NetInput) :
    Consistent chain (Machine.run (NetInput.exec chain) (newNet owner) inputs) := by
  refine Machine.run_invariant inputs ?_ (consistent_newNet owner)
  intro s input s' result consistent ok
  cases input with
  | call env info msg sequences => exact consistent.call ok
  | settle id outcome => exact consistent.settles ok

/-! ## Results -/

theorem settlement_reaches {outcome : Outcome} {msg : ClientMsg}
    (listed : msg ∈ settlement packet outcome) :
    packet.actions.isSome ∧ msg.reaches = some packet.sender := by
  unfold settlement at listed
  split at listed
  · cases listed
  · rename_i actions has
    refine ⟨by simp [has], ?_⟩
    split at listed
    · obtain ⟨action, _, rfl⟩ := List.mem_map.mp listed
      rfl
    · rw [List.mem_singleton.mp listed]
      rfl

/-- After any interleaving of calls of the client and outcomes of packets: a settled packet of
    `SendFundsWithActions` has brought its sender the actions or the coin, and nothing else;
    one that is not settled has brought nothing yet, and can be settled either way; and
    nothing reaches an account but what the outcome of a packet of that account stands for. -/
theorem transfers_settle_once (chain : Chain) (owner : MessageInfo) (inputs : List NetInput) :
    let s := Machine.run (NetInput.exec chain) (newNet owner) inputs
    (∀ id packet actions outcome, packet.actions = some actions →
      Settled s.packets id packet outcome → effectsOf s.settlements id =
        if outcome.success then actions.map (ClientMsg.Account packet.sender)
        else [.BankSend packet.sender [packet.coin]]) ∧
    (∀ id packet actions, packet.actions = some actions → Open s.packets id packet →
      effectsOf s.settlements id = [] ∧
        ∀ outcome, ∃ s', (NetInput.settle id outcome).exec chain s = .ok (s', ()) ∧
          Settled s'.packets id packet outcome) ∧
    (∀ id msg, (id, msg) ∈ s.settlements → ∃ packet actions outcome,
      packet.actions = some actions ∧ Settled s.packets id packet outcome ∧
        msg.reaches = some packet.sender) ∧
    ∀ msg ∈ s.sent, msg.reaches = none := by
  intro s
  have consistent : Consistent chain s := consistent_run owner inputs
  refine ⟨?_, ?_, ?_, consistent.quiet⟩
  · intro id packet actions outcome has settled
    rw [consistent.settled.settled settled]
    simp [settlement, has]
  · intro id packet actions has isOpen
    refine ⟨consistent.settled.unsettled isOpen, ?_⟩
    intro outcome
    obtain ⟨key, _, ok⟩ := consistent.settle_withActions outcome isOpen has
    exact ⟨_, ok, settled_settle.mpr (.inl ⟨rfl, rfl, rfl⟩)⟩
  · intro id msg listed
    obtain ⟨packet, outcome, settled, due⟩ := consistent.settled.of_mem listed
    obtain ⟨isSome, reaches⟩ := settlement_reaches due
    obtain ⟨actions, has⟩ := Option.isSome_iff_exists.mp isSome
    exact ⟨packet, actions, outcome, has, settled, reaches⟩

end Steps

section Sample

attribute [local instance] accountCrates noAuthenticators

/-- A number in groups of seven bits, the lowest first. -/
def varint : Nat → Nat → Bytes
  | 0, n => [UInt8.ofNat n]
  | more + 1, n =>
    if n < 128 then [UInt8.ofNat n] else UInt8.ofNat (n % 128 + 128) :: varint more (n / 128)

def fromVarint : Bytes → Nat
  | [] => 0
  | byte :: bytes => if byte.toNat < 128 then byte.toNat else byte.toNat - 128 + 128 * fromVarint bytes

theorem byte_toNat {n : Nat} (small : n < 256) : (UInt8.ofNat n).toNat = n := by
  rw [UInt8.toNat_ofNat']
  exact Nat.mod_eq_of_lt small

theorem fromVarint_varint {more n : Nat} (small : n < 128 ^ (more + 1)) :
    fromVarint (varint more n) = n := by
  induction more generalizing n with
  | zero =>
    rw [Nat.zero_add, Nat.pow_one] at small
    rw [varint, fromVarint, byte_toNat (by omega), if_pos small]
  | succ more ih =>
    rw [varint]
    split
    · rename_i last
      rw [fromVarint, byte_toNat (by omega), if_pos last]
    · have rest : fromVarint (varint more (n / 128)) = n / 128 := by
        apply ih
        rw [Nat.pow_succ] at small
        exact Nat.div_lt_of_lt_mul (by rwa [Nat.mul_comm])
      rw [fromVarint, byte_toNat (by omega), if_neg (by omega), rest]
      omega

/-- The response to a transfer has one field, the sequence.  An acknowledgement that a contract
    fails to answer is undone, and a timeout is not. -/
def sampleNetChain : IbcClient.Chain where
  client := sampleClient
  readCallback _ := none
  undoes
    | .Ack _ _ => true
    | .Timeout => false
  transferResponse sequence := 8 :: varint 9 sequence.toNat
  decodeTransferResponse
    | 8 :: bytes => .ok (UInt64.ofNat (fromVarint bytes))
    | _ => .error (.msg "UnexpectedEndOfData")
  decodes sequence := by
    have small : sequence.toNat < 128 ^ (9 + 1) := Nat.lt_trans sequence.toNat_lt (by decide)
    simp [fromVarint_varint small]

def sampleFunds (amount : Nat) : MessageInfo :=
  { sender := sampleAccount, funds := [{ denom := "uosmo", amount }] }

/-- The account sends coins with two actions, and others without. -/
def sampleTransfers : List NetInput :=
  [.call sampleEnv (sampleInfo "adm") (.RegisterInfrastructure ⟨"juno"⟩ "note" "host") [],
    .call sampleEnv (sampleFunds 10) (.SendFundsWithActions ⟨"juno"⟩ [[1], [2]]) [7],
    .call sampleEnv (sampleFunds 5) (.SendFunds ⟨"juno"⟩ (some "bob") none) [8],
    .settle ⟨"channel-0", 7⟩ (.Ack "result" true),
    .settle ⟨"channel-0", 8⟩ .Timeout]

def sampleNet : Net :=
  Machine.run (NetInput.exec sampleNetChain) (newNet (sampleInfo "adm")) sampleTransfers

theorem transfers_settle_once_sample :
    effectsOf sampleNet.settlements ⟨"channel-0", 7⟩ =
      [.Account sampleAccount [1], .Account sampleAccount [2]] :=
  let memo := Memo.Hook "host" (.Fund (.ofLocal 1) ⟨"osmosis"⟩) (some sampleClient)
  (transfers_settle_once sampleNetChain (sampleInfo "adm") sampleTransfers).1 ⟨"channel-0", 7⟩
    ⟨sampleAccount, ⟨"uosmo", 10⟩, some memo, some [[1], [2]]⟩ [[1], [2]] (.Ack "result" true) rfl rfl

end Sample

end AbstractFramework.IbcClient
