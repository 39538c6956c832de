import AbstractFramework.Lib.Counting
import AbstractFramework.Lib.Requests
import AbstractFramework.Objects.AccountIdCodec
import AbstractFramework.IbcClient.Notes

/-! # The client and its transfers

The client on its chain: it is called, the chain sends a packet for every transfer
that the call asks for, and at some later time, in any order, a packet is acknowledged
or times out.  A failed packet returns its coin to the client, which has sent it; if the
memo of the packet asks for it, the client is then told the outcome.

A call, its transfers and the replies to them are one transaction.  The chain uses a
sequence number of a channel once, and settles a packet once.  What a callback sends
does not fail, unless the client has not got the coins that it sends.  Whether the outcome
of a packet stands that the client fails to answer is up to the chain (`Chain.undoes`).
-/

namespace AbstractFramework.IbcClient

open Fallible Storage Requests
open Account hiding World

section Model

variable [Crates] [Xion]

inductive Outcome where
  | Ack (ack : String) (success : Bool)
  | Timeout

def Outcome.success : Outcome → Bool
  | .Ack _ success => success
  | .Timeout => false

/-- What the chain tells about a packet. -/
def Outcome.lifecycle (id : ICS20PacketIdentifier) : Outcome → SudoMsg
  | .Ack ack success => .IBCAck id.channelId id.sequence ack success
  | .Timeout => .IBCTimeout id.channelId id.sequence

/-- What the chain around the client does not change. -/
structure Chain where
  client : Addr
  /-- The contract that the memo of a caller asks to be told the outcome. -/
  readCallback : String → Option Addr
  /-- The chain takes such an outcome back, its refund included, when the client fails to
      answer it.  The packet can be settled again then. -/
  undoes : Outcome → Bool
  /-- `MsgTransferResponse`, encoded and decoded. -/
  transferResponse : UInt64 → Binary
  decodeTransferResponse : Binary → Except StdError UInt64
  decodes : ∀ sequence, decodeTransferResponse (transferResponse sequence) = .ok sequence

def Chain.callbackOf (chain : Chain) : Option Memo → Option Addr
  | some (.Hook _ _ ibcCallback) => ibcCallback
  | some (.Text memo) => chain.readCallback memo
  | none => none

/-- The outcome of a packet takes effect also where the client cannot answer it. -/
def Chain.Stands (chain : Chain) (memo : Option Memo) (outcome : Outcome) : Prop :=
  chain.callbackOf memo = some chain.client → chain.undoes outcome = false

def Chain.env (chain : Chain) (env : ClientEnv) : ClientEnv :=
  { env with address := chain.client, decodeTransferResponse := chain.decodeTransferResponse }

/-- A packet, with the call that it is from. -/
structure Packet where
  sender : Addr
  coin : Coin
  memo : Option Memo
  /-- The actions of `SendFundsWithActions`, absent for `SendFunds`. -/
  actions : Option (List Binary)

def ExecuteMsg.actions : ExecuteMsg → Option (List Binary)
  | .SendFundsWithActions _ actions => some actions
  | _ => none

structure Net where
  client : ClientState
  /-- The coins of the client, by their denomination. -/
  held : String → Nat
  /-- All that the calls of the client have brought it. -/
  received : String → Nat
  packets : Book ICS20PacketIdentifier Packet Outcome
  /-- The messages of calls and replies. -/
  sent : List ClientMsg
  /-- The messages of callbacks, with the packet that each is about. -/
  settlements : List (ICS20PacketIdentifier × ClientMsg)

inductive NetError where
  | InClient (e : ClientError)
  | InsufficientFunds
  | NoSequence
  | UsedSequence
  /-- There is no such packet, or it is settled. -/
  | NoOpenPacket

def inDenom (denom : String) (coin : Coin) : Nat := if coin.denom = denom then coin.amount else 0

def amountIn (denom : String) (coins : List Coin) : Nat := (coins.map (inDenom denom)).sum

def Net.gain (s : Net) (coin : Coin) : Net :=
  { s with held := fun denom => s.held denom + inDenom denom coin }

def Net.spend (s : Net) (coin : Coin) : Except NetError Net := do
  ensure (coin.amount ≤ s.held coin.denom) .InsufficientFunds
  return { s with held := fun denom => s.held denom - inDenom denom coin }

def Net.emit (s : Net) (msg : ClientMsg) : Net := { s with sent := s.sent ++ [msg] }

/-- A packet is sent, and the reply to it is executed. -/
def transfer (chain : Chain) (env : ClientEnv) (id : ICS20PacketIdentifier) (packet : Packet)
    (replyOnSuccess : Option Nat) (s : Net) : Except NetError Net := do
  ensure (id ∉ s.packets) .UsedSequence
  let s ← s.spend packet.coin
  let s := { s with packets := issue s.packets id packet }
  match replyOnSuccess with
  | none => return s
  | some replyId => do
    let data := chain.transferResponse id.sequence
    let (client, msgs) ← (reply (chain.env env) replyId (.ok (some data)) s.client).mapError
      NetError.InClient
    return { s with client, sent := s.sent ++ msgs.map ClientSubMsg.msg }

/-- The messages of a call are carried out in order.  The chain provides the sequences of
    the packets. -/
def deliver (chain : Chain) (env : ClientEnv) (sender : Addr) (actions : Option (List Binary)) :
    List ClientSubMsg → List UInt64 → Net → Except NetError Net
  | [], _, s => .ok s
  | sub :: subs, sequences, s =>
    let s := s.emit sub.msg
    match sub.msg with
    | .Transfer channelId _ coin _ memo =>
      match sequences with
      | [] => .error .NoSequence
      | sequence :: sequences => do
        let s ← transfer chain env ⟨channelId, sequence⟩ ⟨sender, coin, memo, actions⟩
          sub.replyOnSuccess s
        deliver chain env sender actions subs sequences s
    | _ => deliver chain env sender actions subs sequences s

/-- A message is sent, and if it is a transfer, its packet is. -/
theorem deliver_cons {chain : Chain} {env : ClientEnv} {sender : Addr}
    {actions : Option (List Binary)} {sub : ClientSubMsg} {subs : List ClientSubMsg}
    {sequences : List UInt64} {s s' : Net}
    (h : deliver chain env sender actions (sub :: subs) sequences s = .ok s') :
    (∃ id coin memo m rest,
      transfer chain env id ⟨sender, coin, memo, actions⟩ sub.replyOnSuccess (s.emit sub.msg) =
        .ok m ∧ deliver chain env sender actions subs rest m = .ok s') ∨
      deliver chain env sender actions subs sequences (s.emit sub.msg) = .ok s' := by
  unfold deliver at h
  dsimp only at h
  split at h
  · left
    split at h
    · cases h
    · simp only [bind_eq_ok] at h
      obtain ⟨m, sent, later⟩ := h
      exact ⟨_, _, _, m, _, sent, later⟩
  · exact .inr h

def carryOut (id : ICS20PacketIdentifier) (s : Net) (msg : ClientMsg) : Except NetError Net := do
  let s ← match msg with
    | .BankSend _ amount => amount.foldlM Net.spend s
    | _ => .ok s
  return { s with settlements := s.settlements ++ [(id, msg)] }

/-- The packet of an identifier that is not settled. -/
def Net.openPacket (s : Net) (id : ICS20PacketIdentifier) : Except NetError Packet :=
  match s.packets.lookup id with
  | some (packet, none) => .ok packet
  | _ => .error .NoOpenPacket

inductive NetInput where
  | call (env : ClientEnv) (info : MessageInfo) (msg : ExecuteMsg) (sequences : List UInt64)
  | settle (id : ICS20PacketIdentifier) (outcome : Outcome)

def Net.receive (s : Net) (coins : List Coin) : Net :=
  { s with
    held := fun denom => s.held denom + amountIn denom coins
    received := fun denom => s.received denom + amountIn denom coins }

/-- The outcome of a packet, before the client is told. -/
def Net.conclude (s : Net) (id : ICS20PacketIdentifier) (packet : Packet) (outcome : Outcome) : Net :=
  let s := { s with packets := Requests.settle s.packets id packet outcome }
  if outcome.success then s else s.gain packet.coin

/-- The client is told the outcome of a packet, and what it sends is carried out. -/
def Net.told (s : Net) (id : ICS20PacketIdentifier) (outcome : Outcome) : Except NetError Net := do
  let (client, msgs) ← (executeSudo (outcome.lifecycle id) s.client).mapError NetError.InClient
  (msgs.map ClientSubMsg.msg).foldlM (carryOut id) { s with client }

def NetInput.exec (chain : Chain) (input : NetInput) (s : Net) : Except NetError (Net × Unit) :=
  match input with
  | .call env info msg sequences => do
    let (client, msgs) ← (execute (chain.env env) info msg s.client).mapError NetError.InClient
    let s ← deliver chain env info.sender msg.actions msgs sequences
      { s.receive info.funds with client }
    return (s, ())
  | .settle id outcome => do
    let packet ← s.openPacket id
    let s := s.conclude id packet outcome
    if chain.callbackOf packet.memo = some chain.client then
      match s.told id outcome with
      | .ok s => return (s, ())
      | .error e => if chain.undoes outcome then .error e else return (s, ())
    else return (s, ())

def newNet (owner : MessageInfo) : Net where
  client := instantiate owner
  held _ := 0
  received _ := 0
  packets := ∅
  sent := []
  settlements := []

@[simp] theorem conclude_client (s : Net) (id : ICS20PacketIdentifier) (packet : Packet)
    (outcome : Outcome) : (s.conclude id packet outcome).client = s.client := by
  unfold Net.conclude
  split <;> rfl

end Model

/-! ## Keys of packets -/

/-- Two numbers that agree above a byte and in it agree from it on. -/
theorem div_eq_of_byte {m n k : Nat} (above : m / 2 ^ (k + 8) = n / 2 ^ (k + 8))
    (byte : m / 2 ^ k % 256 = n / 2 ^ k % 256) : m / 2 ^ k = n / 2 ^ k := by
  have split (a : Nat) : a / 2 ^ k = 256 * (a / 2 ^ (k + 8)) + a / 2 ^ k % 256 := by
    rw [Nat.pow_add, ← Nat.div_div_eq_div_mul]
    exact (Nat.div_add_mod _ 256).symm
  rw [split m, split n, above, byte]

theorem sequenceBytes_injective {m n : UInt64} (h : sequenceBytes m = sequenceBytes n) : m = n := by
  have bytes : ∀ k ∈ [56, 48, 40, 32, 24, 16, 8, 0],
      m.toNat / 2 ^ k % 256 = n.toNat / 2 ^ k % 256 := by
    intro k listed
    have same := List.map_inj_left.mp h k listed
    simpa using congrArg UInt8.toNat same
  have agree (j : Nat) (small : j ≤ 8) :
      m.toNat / 2 ^ (64 - 8 * j) = n.toNat / 2 ^ (64 - 8 * j) := by
    induction j with
    | zero => rw [Nat.div_eq_of_lt m.toNat_lt, Nat.div_eq_of_lt n.toNat_lt]
    | succ j ih =>
      have shifts : ∀ j < 8, 64 - 8 * (j + 1) ∈ [56, 48, 40, 32, 24, 16, 8, 0] := by decide
      refine div_eq_of_byte ?_ (bytes _ (shifts j small))
      have next : 64 - 8 * (j + 1) + 8 = 64 - 8 * j := by omega
      rw [next]
      exact ih (by omega)
  have whole := agree 8 (by omega)
  simp only [Nat.sub_self, Nat.pow_zero, Nat.div_one] at whole
  exact UInt64.toNat_inj.mp whole

/-- Two packets do not share their key. -/
theorem storageKey_injective {id id' : ICS20PacketIdentifier} {key : Bytes}
    (h : id.storageKey = .ok key) (h' : id'.storageKey = .ok key) : id = id' := by
  simp only [ICS20PacketIdentifier.storageKey, bind_eq_ok, ensure_eq_ok, pure_eq_ok] at h h'
  obtain ⟨_, short, rfl⟩ := h
  obtain ⟨_, short', same⟩ := h'
  have elements : [strBytes id'.channelId, sequenceBytes id'.sequence] =
      [strBytes id.channelId, sequenceBytes id.sequence] :=
    joinedKey_injective rfl (by simpa using short') (by simpa using short) same
  simp only [List.cons.injEq, and_true] at elements
  have channels := strBytes_injective elements.1
  have sequences := sequenceBytes_injective elements.2
  obtain ⟨channel, sequence⟩ := id
  obtain ⟨channel', sequence'⟩ := id'
  obtain rfl : channel' = channel := channels
  obtain rfl : sequence' = sequence := sequences
  rfl

end AbstractFramework.IbcClient
