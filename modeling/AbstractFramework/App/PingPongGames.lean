import AbstractFramework.Lib.Counting
import AbstractFramework.App.PingPong

/-! # Games of ping-pong

The instances of the ping-pong app that one account and its remote accounts have on any
number of chains, one on each, and the packets between them.  Anyone starts games, on any chain; packets arrive in any order, at any block, or
fail, and their outcome is told later, again in any order.  The ibc hosts and clients
only pass on what the apps have sent.

A player counts a win only for a packet that its opponent has lost.  So all wins and all
losses together are accounted for by the packets: there are as many losses as wins, but
for those that have not been told yet, and for those of players that did not answer a
pong, which nobody has won.
-/

namespace AbstractFramework.App.Game

open Fallible Storage Machine
open Account (Binary)
open IbcClient (Event ExecutionCallbackResult IbcResult SubMsgResponse)

section Model

variable [Crates] [Xion]

/-! ## Packets -/

/-- A message of the app to another chain. -/
structure Packet where
  source : TruncatedChainId
  target : TruncatedChainId
  msg : IbcClient.ExecuteMsg

inductive Stage where
  | Sent
  | Arrived (result : IbcResult)
  /-- The source has been told.  Its callback may have failed. -/
  | Told (result : IbcResult) (response : Option (Response ClientCall))

abbrev Packets := Map Nat (Packet × Stage)

/-- The instances of one account, by their chains. -/
structure Match where
  players : Map TruncatedChainId (AppStorage Score)
  packets : Packets

inductive MatchError where
  | InApp (e : AppError)
  | NoSuchPlayer
  | NoSuchPacket
  | UsedId
  /-- The ibc hosts and clients call the app only for packets. -/
  | Forged

/-- The code of the players, and the encodings that it uses. -/
structure Rules where
  json : Json
  versionReq : List Crates.Comparator

def Rules.app (rules : Rules) : AppContract Score Unit AppExecuteMsg Unit Unit ClientCall :=
  Game.app rules.json rules.versionReq

/-! ## Events -/

/-- The events of a call of the app, as the chain reports them. -/
def responseEvents (addr : Addr) (r : Response ClientCall) : List Event :=
  let address : IbcClient.Attribute := ⟨"_contract_address", addr.asStr⟩
  let own : List Event :=
    if r.attributes = [] then [] else [⟨"wasm", address :: r.attributes.map fun a => ⟨a.1, a.2⟩⟩]
  let abstract : List Event := match r.action with
    | some action => [⟨IbcClient.ABSTRACT_EVENT_TYPE,
        [address, ⟨"contract", APP_ID⟩, ⟨"action", action⟩]⟩]
    | none => []
  ⟨"execute", [address]⟩ :: (own ++ abstract)

/-- The events of the ibc host, which passes a packet on. -/
def hostEvents (host : Addr) : List Event :=
  let address : IbcClient.Attribute := ⟨"_contract_address", host.asStr⟩
  [⟨"execute", [address]⟩, ⟨"wasm", [address, ⟨"action", "module-ibc-call"⟩]⟩]

/-! ## Steps -/

def packetOf (source : TruncatedChainId) (call : ClientCall) : Option Packet :=
  match call.msg with
  | .ModuleIbcAction target _ _ _ | .IbcQuery target _ _ => some ⟨source, target, call.msg⟩
  | _ => none

/-- The packets of a call are on their way. -/
def depart : List Packet → List Nat → Packets → Except MatchError Packets
  | [], _, packets => .ok packets
  | _ :: _, [], _ => .error .UsedId
  | packet :: rest, id :: ids, packets => do
    ensure (id ∉ packets) .UsedId
    depart rest ids (packets.insert id (packet, .Sent))

def send (source : TruncatedChainId) (r : Response ClientCall) (ids : List Nat)
    (packets : Packets) : Except MatchError Packets :=
  depart (r.messages.filterMap (packetOf source)) ids packets

/-- What arrives on the chain of the player: a message for its app, or a query. -/
def Rules.arrive (rules : Rules) (env : AppEnv) (packet : Packet) (t : AppStorage Score) :
    AppResult (AppStorage Score × IbcResult) :=
  match packet.msg with
  | .ModuleIbcAction _ _ msg _ => do
    let host ← env.ibcHost t.toAppBase
    let module ← thisModuleInfo
    let (t, r) ← rules.app.execute env { sender := host, funds := [] }
      (.ModuleIbc ⟨packet.source, module⟩ msg) t
    let events := hostEvents host ++ responseEvents env.address r
    return (t, .Execute msg (.Success { executedBy := "", result := [⟨events⟩] }))
  | .IbcQuery _ queries _ =>
    .ok (t, .Query queries (.Success [rules.json.blockHeight env.block.height]))
  | _ => .error (.Panicked "no message of the app")

/-- The app is called back. -/
def Rules.callback (rules : Rules) (env : AppEnv) (packet : Packet) (result : IbcResult)
    (t : AppStorage Score) : AppResult (AppStorage Score × Response ClientCall) :=
  match packet.msg with
  | .ModuleIbcAction _ _ _ (some callback) | .IbcQuery _ _ callback => do
    let client ← env.ibcClientAddr t.toAppBase
    rules.app.execute env { sender := client, funds := [] } (.IbcCallback callback result) t
  | _ => .error (.Panicked "no callback")

/-- The app is called back, and sends its packets. -/
def Rules.tell (rules : Rules) (env : AppEnv) (packet : Packet) (result : IbcResult)
    (t : AppStorage Score) (id : Nat) (ids : List Nat) (packets : Packets) :
    Except MatchError (AppStorage Score × Packets) := do
  let (t, r) ← (rules.callback env packet result t).mapError MatchError.InApp
  let packets ← send packet.source r ids (packets.insert id (packet, .Told result (some r)))
  return (t, packets)

/-- Whether the sender is neither the ibc host nor the ibc client of the chain. -/
def stranger (env : AppEnv) (base : AppBase) (sender : Addr) : Bool :=
  (env.ibcHost base).toOption != some sender && (env.ibcClientAddr base).toOption != some sender

inductive Input where
  | install (chain : TruncatedChainId) (env : AppEnv) (info : MessageInfo) (account : Addr)
  /-- The app is called by anyone. -/
  | call (chain : TruncatedChainId) (env : AppEnv) (info : MessageInfo)
      (msg : ExecuteMsg AppExecuteMsg) (ids : List Nat)
  | arrive (id : Nat) (env : AppEnv)
  /-- The packet fails on its way, or times out. -/
  | fail (id : Nat) (text : String)
  | tell (id : Nat) (env : AppEnv) (ids : List Nat)

def Match.player (s : Match) (chain : TruncatedChainId) : Except MatchError (AppStorage Score) :=
  okOr (s.players.lookup chain) .NoSuchPlayer

def Match.sent (s : Match) (id : Nat) : Except MatchError Packet :=
  match s.packets.lookup id with
  | some (packet, .Sent) => .ok packet
  | _ => .error .NoSuchPacket

def Match.arrived (s : Match) (id : Nat) : Except MatchError (Packet × IbcResult) :=
  match s.packets.lookup id with
  | some (packet, .Arrived result) => .ok (packet, result)
  | _ => .error .NoSuchPacket

def Input.exec (rules : Rules) (input : Input) (s : Match) : Except MatchError (Match × Unit) :=
  match input with
  | .install chain env info account => do
    ensure (chain ∉ s.players) .NoSuchPlayer
    let (t, _) ← (rules.app.instantiate env info account () ⟨0, 0⟩).mapError MatchError.InApp
    return ({ s with players := s.players.insert chain t }, ())
  | .call chain env info msg ids => do
    let t ← s.player chain
    ensure (stranger env t.toAppBase info.sender = true) .Forged
    let (t, r) ← (rules.app.execute env info msg t).mapError MatchError.InApp
    let packets ← send chain r ids s.packets
    return ({ players := s.players.insert chain t, packets }, ())
  | .arrive id env => do
    let packet ← s.sent id
    let t ← s.player packet.target
    match rules.arrive env packet t with
    | .ok (t, result) => return ({
        players := s.players.insert packet.target t
        packets := s.packets.insert id (packet, .Arrived result) }, ())
    | .error _ =>
      let result := IbcResult.Execute [] (.Error "codespace: wasm, code: 5")
      return ({ s with packets := s.packets.insert id (packet, .Arrived result) }, ())
  | .fail id text => do
    let packet ← s.sent id
    return ({ s with packets := s.packets.insert id (packet, .Arrived (.FatalError text)) }, ())
  | .tell id env ids => do
    let (packet, result) ← s.arrived id
    let t ← s.player packet.source
    match rules.tell env packet result t id ids s.packets with
    | .ok (t, packets) => return ({ players := s.players.insert packet.source t, packets }, ())
    | .error _ =>
      return ({ s with packets := s.packets.insert id (packet, .Told result none) }, ())

def newMatch : Match where
  players := ∅
  packets := ∅

/-! ## Points -/

def Stage.result : Stage → Option IbcResult
  | .Sent => none
  | .Arrived result | .Told result _ => some result

def Stage.action : Stage → Option String
  | .Told _ (some r) => r.action
  | _ => none

/-- The ping has been received, and not answered with a pong. -/
def lostThere (stage : Stage) : Bool :=
  match stage.result with
  | some (.Execute _ (.Success response)) => !response.result.head?.any fun sub => hasPong sub.events
  | _ => false

/-- The one who has pinged counts a win. -/
def won (stage : Stage) : Bool := stage.action == some "won"

/-- The one who has pinged did not answer the pong. -/
def lostHere (stage : Stage) : Bool := stage.action == some "lost"

/-- The wins of a player, by the packets. -/
def winsOf (packets : Packets) (chain : TruncatedChainId) : Nat :=
  count packets fun _ v => decide (v.1.source = chain) && won v.2

/-- The losses of a player. -/
def lossesOf (packets : Packets) (chain : TruncatedChainId) : Nat :=
  (count packets fun _ v => decide (v.1.target = chain) && lostThere v.2) +
    count packets fun _ v => decide (v.1.source = chain) && lostHere v.2

def Score.plus (score : Score) (win loss : Bool) : Score where
  wins := score.wins + win.toNat
  losses := score.losses + loss.toNat

end Model

/-! ## What a call of the app does -/

section Calls

variable [Crates] [Xion] {rules : Rules} {env : AppEnv} {info : MessageInfo}
  {t t' : AppStorage Score} {r : Response ClientCall}

omit [Crates] [Xion] in
theorem increment_eq_ok {n m : Nat} (h : increment n = .ok m) : m = n + 1 := by
  unfold increment at h
  split at h
  · exact (Except.ok.inj h).symm
  · cases h

omit [Crates] [Xion] in
theorem lose_eq_ok {score score' : Score} (h : score.lose = .ok score') :
    score' = score.plus false true := by
  simp only [Score.lose, bind_eq_ok, pure_eq_ok] at h
  obtain ⟨_, added, rfl⟩ := h
  rw [increment_eq_ok added]
  rfl

omit [Crates] [Xion] in
theorem win_eq_ok {score score' : Score} (h : score.win = .ok score') :
    score' = score.plus true false := by
  simp only [Score.win, bind_eq_ok, pure_eq_ok] at h
  obtain ⟨_, added, rfl⟩ := h
  rw [increment_eq_ok added]
  rfl

/-- A call that leaves the score as it was, and is no end of a game. -/
structure Plays (score score' : Score) (r : Response ClientCall) : Prop where
  score : score' = score
  notWon : r.action ≠ some "won"
  notLost : r.action ≠ some "lost"

theorem pingPong_plays {json : Json} {opponent : TruncatedChainId}
    (h : pingPong json env opponent t = .ok (t', r)) : Plays t.custom t'.custom r := by
  simp only [pingPong, bind_eq_ok, pure_eq_ok, Prod.mk.injEq] at h
  obtain ⟨_, _, _, _, rfl, rfl⟩ := h
  exact ⟨rfl, by simp [response], by simp [response]⟩

/-- Whoever starts a game has the same score as before. -/
theorem module_plays {msg : AppExecuteMsg}
    (h : rules.app.execute env info (.Module msg) t = .ok (t', r)) :
    Plays t.custom t'.custom r := by
  simp only [AppContract.execute, Rules.app, app, okOr_eq_ok, Option.some.injEq, bind_eq_ok] at h
  obtain ⟨_, rfl, h⟩ := h
  cases msg with
  | PingPong opponent => exact pingPong_plays h
  | QueryAndMaybePingPong opponent =>
    simp only [executeHandler, queryAndPing, bind_eq_ok, pure_eq_ok, Prod.mk.injEq] at h
    obtain ⟨_, _, _, _, _, _, rfl, rfl⟩ := h
    exact ⟨rfl, by simp [response], by simp [response]⟩

/-- Who receives a ping answers it with a pong, or loses. -/
theorem receive_cases {src : ModuleIbcInfo} {msg : Binary}
    (h : rules.app.execute env info (.ModuleIbc src msg) t = .ok (t', r)) :
    (t'.custom = t.custom ∧ r = { response "ping_ponged" with attributes := [("play", "pong")] }) ∨
      (t'.custom = t.custom.plus false true ∧ r = response "ping_ponged") := by
  simp only [AppContract.execute, AppContract.moduleIbc, Rules.app, app, okOr_eq_ok,
    Option.some.injEq, bind_eq_ok] at h
  obtain ⟨_, _, _, _, _, rfl, h⟩ := h
  simp only [receiveModuleIbc, bind_eq_ok] at h
  obtain ⟨_, _, _, _, _, _, _, _, h⟩ := h
  split at h
  · obtain ⟨rfl, rfl⟩ := Prod.mk.inj (Except.ok.inj h)
    exact .inl ⟨rfl, rfl⟩
  · simp only [bind_eq_ok, pure_eq_ok, Prod.mk.injEq] at h
    obtain ⟨_, lost, rfl, rfl⟩ := h
    exact .inr ⟨lose_eq_ok lost, rfl⟩

/-- Who is told of a pong goes on or loses, and who is told of no pong has won. -/
theorem callback_cases {callback : IbcClient.Callback} {result : IbcResult}
    (h : rules.app.execute env info (.IbcCallback callback result) t = .ok (t', r)) :
    Plays t.custom t'.custom r ∨ ∃ events, getExecuteEvents result = .ok events ∧
      ((t'.custom = t.custom.plus false true ∧ r.action = some "lost" ∧ hasPong events = true) ∨
        (t'.custom = t.custom.plus true false ∧ r.action = some "won" ∧ hasPong events = false)) := by
  simp only [AppContract.execute, AppContract.ibcCallback, Rules.app, app, okOr_eq_ok,
    Option.some.injEq, bind_eq_ok] at h
  obtain ⟨_, _, _, _, _, _, _, rfl, h⟩ := h
  simp only [Game.ibcCallback, bind_eq_ok] at h
  obtain ⟨msg, _, h⟩ := h
  cases msg with
  | Pinged opponent =>
    simp only [pinged, bind_eq_ok] at h
    obtain ⟨events, found, h⟩ := h
    split at h
    · rename_i pong
      split at h
      · exact .inl (pingPong_plays h)
      · simp only [bind_eq_ok, pure_eq_ok, Prod.mk.injEq] at h
        obtain ⟨_, lost, rfl, rfl⟩ := h
        exact .inr ⟨events, found, .inl ⟨lose_eq_ok lost, rfl, pong⟩⟩
    · rename_i noPong
      simp only [bind_eq_ok, pure_eq_ok, Prod.mk.injEq] at h
      obtain ⟨_, won, rfl, rfl⟩ := h
      exact .inr ⟨events, found, .inr ⟨win_eq_ok won, rfl, by simpa using noPong⟩⟩
  | QueryBlockHeight opponent =>
    simp only [playIfWin, bind_eq_ok] at h
    obtain ⟨_, _, _, _, h⟩ := h
    split at h
    · exact .inl (pingPong_plays h)
    · obtain ⟨rfl, rfl⟩ := Prod.mk.inj (Except.ok.inj h)
      exact .inl ⟨rfl, by simp [response], by simp [response]⟩

end Calls

/-! ## What a packet does to a score -/

section Points

variable [Crates] [Xion] {rules : Rules} {env : AppEnv} {packet : Packet} {result : IbcResult}
  {t t' : AppStorage Score} {r : Response ClientCall}

omit [Crates] [Xion] in
theorem hasPong_append (a b : List Event) : hasPong (a ++ b) = (hasPong a || hasPong b) := by
  simp [hasPong]

omit [Crates] [Xion] in
/-- The host's own events are no pong. -/
@[simp] theorem hasPong_hostEvents (host : Addr) : hasPong (hostEvents host) = false := by
  simp [hasPong, hostEvents]

theorem hasPong_pong (addr : Addr) (action : String) :
    hasPong (responseEvents addr { response action with
      attributes := [("play", "pong")] }) = true := by
  simp [hasPong, responseEvents, response]

theorem hasPong_response (addr : Addr) (action : String) :
    hasPong (responseEvents addr (response action)) = false := by
  simp [hasPong, responseEvents, response, IbcClient.ABSTRACT_EVENT_TYPE]

/-- The player that a ping arrives at loses exactly when its events have no pong. -/
theorem arrive_score (ok : rules.arrive env packet t = .ok (t', result)) :
    t'.custom = t.custom.plus false (lostThere (.Arrived result)) := by
  unfold Rules.arrive at ok
  split at ok
  · simp only [bind_eq_ok, pure_eq_ok, Prod.mk.injEq] at ok
    obtain ⟨host, _, module, _, ⟨_, r⟩, ran, rfl, rfl⟩ := ok
    rcases receive_cases ran with ⟨same, rfl⟩ | ⟨lost, rfl⟩
    · rw [same]
      simp [lostThere, Stage.result, hasPong_append, hasPong_pong, Score.plus]
    · rw [lost]
      simp [lostThere, Stage.result, hasPong_append, hasPong_response]
  · obtain ⟨rfl, rfl⟩ := Prod.mk.inj (Except.ok.inj ok)
    rfl
  · cases ok

/-- The events that a callback reads. -/
theorem lostThere_of_events {events : List Event} (found : getExecuteEvents result = .ok events) :
    lostThere (.Arrived result) = !hasPong events := by
  unfold getExecuteEvents at found
  split at found
  · simp only [bind_eq_ok, okOr_eq_ok, pure_eq_ok] at found
    obtain ⟨first, isFirst, rfl⟩ := found
    simp [lostThere, Stage.result, isFirst]
  all_goals cases found

/-- Whoever is called back counts what its response says: a win only for a ping that the
    other has lost, a loss only for one that it has answered. -/
theorem callback_score (ok : rules.callback env packet result t = .ok (t', r)) :
    t'.custom = t.custom.plus (won (.Told result (some r))) (lostHere (.Told result (some r))) ∧
      (won (.Told result (some r)) = true → lostThere (.Arrived result) = true) ∧
      (lostHere (.Told result (some r)) = true → lostThere (.Arrived result) = false) := by
  have called : ∃ env info callback,
      rules.app.execute env info (.IbcCallback callback result) t = .ok (t', r) := by
    unfold Rules.callback at ok
    split at ok
    · simp only [bind_eq_ok] at ok
      obtain ⟨_, _, ran⟩ := ok
      exact ⟨_, _, _, ran⟩
    · simp only [bind_eq_ok] at ok
      obtain ⟨_, _, ran⟩ := ok
      exact ⟨_, _, _, ran⟩
    · cases ok
  obtain ⟨_, _, _, ran⟩ := called
  rcases callback_cases ran with plays | ⟨events, found, ⟨lost, action, pong⟩ | ⟨win, action, noPong⟩⟩
  · have noWin : won (.Told result (some r)) = false := by
      simpa [won, Stage.action] using plays.notWon
    have noLoss : lostHere (.Told result (some r)) = false := by
      simpa [lostHere, Stage.action] using plays.notLost
    simp [noWin, noLoss, plays.score, Score.plus]
  · simp [won, lostHere, Stage.action, action, lost, lostThere_of_events found, pong]
  · simp [won, lostHere, Stage.action, action, win, lostThere_of_events found, noPong]

/-- Whoever is neither the host nor the client reaches only the handler for messages. -/
theorem stranger_score {info : MessageInfo} {msg : ExecuteMsg AppExecuteMsg}
    (isStranger : stranger env t.toAppBase info.sender = true)
    (ok : rules.app.execute env info msg t = .ok (t', r)) : t'.custom = t.custom := by
  simp only [stranger, Bool.and_eq_true, bne_iff_ne] at isStranger
  cases msg with
  | Module msg => exact (module_plays ok).score
  | ModuleIbc src msg =>
    simp only [AppContract.execute, AppContract.moduleIbc, bind_eq_ok, ensure_eq_ok] at ok
    obtain ⟨host, isHost, _, sender, _⟩ := ok
    exact absurd (by rw [isHost, sender]; rfl) isStranger.1
  | IbcCallback callback result =>
    simp only [AppContract.execute, AppContract.ibcCallback, bind_eq_ok, ensure_eq_ok] at ok
    obtain ⟨_, _, client, isClient, _, sender, _⟩ := ok
    exact absurd (by rw [isClient, sender]; rfl) isStranger.2

end Points

/-! ## Packets on their way -/

section OnTheirWay

variable [Crates] [Xion] {packets packets' : Packets} {chain : TruncatedChainId}

/-- What is sent counts for nobody yet. -/
structure Sends (source : TruncatedChainId) (packets packets' : Packets) : Prop where
  wins : ∀ chain, winsOf packets' chain = winsOf packets chain
  losses : ∀ chain, lossesOf packets' chain = lossesOf packets chain
  packet : ∀ id v, packets'.lookup id = some v →
    packets.lookup id = some v ∨ (v.1.source = source ∧ v.2 = .Sent)

theorem depart_sends {source : TruncatedChainId} {out : List Packet} {ids : List Nat}
    (own : ∀ packet ∈ out, packet.source = source) (h : depart out ids packets = .ok packets') :
    Sends source packets packets' := by
  induction out generalizing ids packets with
  | nil =>
    obtain rfl := Except.ok.inj h
    exact ⟨fun _ => rfl, fun _ => rfl, fun _ _ found => .inl found⟩
  | cons packet out ih =>
    cases ids with
    | nil => cases h
    | cons id ids =>
      simp only [depart, bind_eq_ok, ensure_eq_ok] at h
      obtain ⟨_, fresh, rest⟩ := h
      have free : packets.lookup id = none := AList.lookup_eq_none.mpr fresh
      have sends := ih (fun packet listed => own packet (List.mem_cons_of_mem _ listed)) rest
      have counts : ∀ p : Nat → Packet × Stage → Bool, p id (packet, .Sent) = false →
          count (packets.insert id (packet, .Sent)) p = count packets p := by
        intro p sent
        have balance := count_insert packets p id (packet, .Sent)
        rw [free, weight_none, weight_some, sent] at balance
        simpa using balance
      refine ⟨fun chain => ?_, fun chain => ?_, fun id' v found => ?_⟩
      · rw [sends.wins]
        exact counts _ (by simp [won, Stage.action])
      · rw [sends.losses]
        unfold lossesOf
        rw [counts _ (by simp [lostThere, Stage.result]), counts _ (by simp [lostHere, Stage.action])]
      · rcases sends.packet id' v found with before | sent
        · by_cases this : id' = id
          · subst this
            rw [AList.lookup_insert, Option.some.injEq] at before
            subst before
            exact .inr ⟨own packet List.mem_cons_self, rfl⟩
          · rw [AList.lookup_insert_ne this] at before
            exact .inl before
        · exact .inr sent

theorem send_sends {source : TruncatedChainId} {r : Response ClientCall} {ids : List Nat}
    (h : send source r ids packets = .ok packets') : Sends source packets packets' := by
  refine depart_sends (fun packet listed => ?_) h
  obtain ⟨call, _, isPacket⟩ := List.mem_filterMap.mp listed
  unfold packetOf at isPacket
  split at isPacket
  · exact (Option.some.inj isPacket) ▸ rfl
  · exact (Option.some.inj isPacket) ▸ rfl
  · cases isPacket

/-- The next stage of a packet. -/
theorem winsOf_insert {id : Nat} {packet : Packet} {stage : Stage}
    (found : packets.lookup id = some (packet, stage)) (stage' : Stage) (chain : TruncatedChainId) :
    winsOf (packets.insert id (packet, stage')) chain
        + (decide (packet.source = chain) && won stage).toNat
      = winsOf packets chain + (decide (packet.source = chain) && won stage').toNat := by
  have balance := count_replace (fun _ v => decide (v.1.source = chain) && won v.2) found
    (packet, stage')
  exact balance

theorem lossesOf_insert {id : Nat} {packet : Packet} {stage : Stage}
    (found : packets.lookup id = some (packet, stage)) (stage' : Stage) (chain : TruncatedChainId) :
    lossesOf (packets.insert id (packet, stage')) chain
        + (decide (packet.target = chain) && lostThere stage).toNat
        + (decide (packet.source = chain) && lostHere stage).toNat
      = lossesOf packets chain + (decide (packet.target = chain) && lostThere stage').toNat
        + (decide (packet.source = chain) && lostHere stage').toNat := by
  have there := count_replace (fun _ v => decide (v.1.target = chain) && lostThere v.2) found
    (packet, stage')
  have here := count_replace (fun _ v => decide (v.1.source = chain) && lostHere v.2) found
    (packet, stage')
  dsimp only at there here
  unfold lossesOf
  omega

end OnTheirWay

/-! ## The tally -/

section Games

variable [Crates] [Xion] {rules : Rules} {s s' : Match}

/-- The scores of the players are what the packets say. -/
structure Tally (s : Match) : Prop where
  score : ∀ chain t, s.players.lookup chain = some t →
    t.custom = ⟨winsOf s.packets chain, lossesOf s.packets chain⟩
  source : ∀ id v, s.packets.lookup id = some v → v.1.source ∈ s.players
  target : ∀ id v, s.packets.lookup id = some v → lostThere v.2 = true → v.1.target ∈ s.players
  won : ∀ id v, s.packets.lookup id = some v → won v.2 = true → lostThere v.2 = true
  once : ∀ id v, s.packets.lookup id = some v → lostHere v.2 = true → lostThere v.2 = false

theorem tally_newMatch : Tally newMatch where
  score _ _ found := by cases found
  source _ _ found := by cases found
  target _ _ found := by cases found
  won _ _ found := by cases found
  once _ _ found := by cases found

theorem player_eq_ok {chain : TruncatedChainId} {t : AppStorage Score} :
    s.player chain = .ok t ↔ s.players.lookup chain = some t := by
  simp [Match.player]

theorem sent_eq_ok {id : Nat} {packet : Packet} (h : s.sent id = .ok packet) :
    s.packets.lookup id = some (packet, .Sent) := by
  unfold Match.sent at h
  split at h
  · rename_i found
    rw [found, Except.ok.inj h]
  · cases h

theorem arrived_eq_ok {id : Nat} {packet : Packet} {result : IbcResult}
    (h : s.arrived id = .ok (packet, result)) :
    s.packets.lookup id = some (packet, .Arrived result) := by
  unfold Match.arrived at h
  split at h
  · rename_i found
    obtain ⟨rfl, rfl⟩ := Prod.mk.inj (Except.ok.inj h)
    exact found
  · cases h

/-- A packet comes to its next stage, and the scores with it. -/
theorem Tally.settle (tally : Tally s) {id : Nat} {packet : Packet} {stage stage' : Stage}
    {players : Map TruncatedChainId (AppStorage Score)}
    (found : s.packets.lookup id = some (packet, stage))
    (same : ∀ chain, chain ∈ players ↔ chain ∈ s.players)
    (scores : ∀ chain t', players.lookup chain = some t' → ∃ t, s.players.lookup chain = some t ∧
      t'.custom.wins + (decide (packet.source = chain) && Game.won stage).toNat
        = t.custom.wins + (decide (packet.source = chain) && Game.won stage').toNat ∧
      t'.custom.losses + (decide (packet.target = chain) && lostThere stage).toNat
          + (decide (packet.source = chain) && lostHere stage).toNat
        = t.custom.losses + (decide (packet.target = chain) && lostThere stage').toNat
          + (decide (packet.source = chain) && lostHere stage').toNat)
    (target : lostThere stage' = true → packet.target ∈ s.players)
    (won : Game.won stage' = true → lostThere stage' = true)
    (once : lostHere stage' = true → lostThere stage' = false) :
    Tally { players, packets := s.packets.insert id (packet, stage') } := by
  have entries : ∀ id' v, (s.packets.insert id (packet, stage')).lookup id' = some v →
      v = (packet, stage') ∨ s.packets.lookup id' = some v := by
    intro id' v found'
    by_cases this : id' = id
    · subst this
      rw [AList.lookup_insert, Option.some.injEq] at found'
      exact .inl found'.symm
    · rw [AList.lookup_insert_ne this] at found'
      exact .inr found'
  refine ⟨fun chain t' isPlayer => ?_, fun id' v found' => ?_, fun id' v found' => ?_,
    fun id' v found' => ?_, fun id' v found' => ?_⟩
  · obtain ⟨t, wasPlayer, wins, losses⟩ := scores chain t' isPlayer
    have before := tally.score chain t wasPlayer
    have balanceWins := winsOf_insert found stage' chain
    have balanceLosses := lossesOf_insert found stage' chain
    rw [before] at wins losses
    dsimp only at wins losses ⊢
    have isWins : t'.custom.wins = winsOf (s.packets.insert id (packet, stage')) chain := by omega
    have isLosses : t'.custom.losses = lossesOf (s.packets.insert id (packet, stage')) chain := by
      omega
    rw [← isWins, ← isLosses]
  · rw [same]
    rcases entries id' v found' with rfl | before
    · exact tally.source id (packet, stage) found
    · exact tally.source id' v before
  · rw [same]
    rcases entries id' v found' with rfl | before
    · exact target
    · exact tally.target id' v before
  · rcases entries id' v found' with rfl | before
    · exact won
    · exact tally.won id' v before
  · rcases entries id' v found' with rfl | before
    · exact once
    · exact tally.once id' v before

/-- The scores stay, and so do the points that the packet says. -/
theorem Tally.advance (tally : Tally s) {id : Nat} {packet : Packet} {stage stage' : Stage}
    (found : s.packets.lookup id = some (packet, stage)) (won : Game.won stage' = Game.won stage)
    (there : lostThere stage' = lostThere stage) (here : lostHere stage' = lostHere stage) :
    Tally { s with packets := s.packets.insert id (packet, stage') } := by
  refine tally.settle found (fun _ => Iff.rfl) (fun chain t isPlayer => ⟨t, isPlayer, ?_, ?_⟩)
    ?_ ?_ ?_
  · rw [won]
  · rw [there, here]
  · exact fun lost => tally.target id (packet, stage) found (there ▸ lost)
  · exact fun isWon => there.trans (tally.won id (packet, stage) found (won ▸ isWon))
  · exact fun lost => there.trans (tally.once id (packet, stage) found (here ▸ lost))

theorem Tally.sends (tally : Tally s) {source : TruncatedChainId} {packets : Packets}
    (isPlayer : source ∈ s.players) (sends : Sends source s.packets packets) :
    Tally { s with packets } := by
  refine ⟨fun chain t found => ?_, fun id v found => ?_, fun id v found => ?_, fun id v found => ?_,
    fun id v found => ?_⟩
  · rw [tally.score chain t found]
    dsimp only
    rw [sends.wins, sends.losses]
  · rcases sends.packet id v found with before | ⟨own, _⟩
    · exact tally.source id v before
    · exact own ▸ isPlayer
  · rcases sends.packet id v found with before | ⟨_, sent⟩
    · exact tally.target id v before
    · simp [sent, lostThere, Stage.result]
  · rcases sends.packet id v found with before | ⟨_, sent⟩
    · exact tally.won id v before
    · simp [sent, Game.won, Stage.action]
  · rcases sends.packet id v found with before | ⟨_, sent⟩
    · exact tally.once id v before
    · simp [sent, lostHere, Stage.action]

/-- A player that writes something, with the same score. -/
theorem Tally.player (tally : Tally s) {chain : TruncatedChainId} {t t' : AppStorage Score}
    (found : s.players.lookup chain = some t) (same : t'.custom = t.custom) :
    Tally { s with players := s.players.insert chain t' } := by
  have kept : ∀ chain', chain' ∈ s.players → chain' ∈ s.players.insert chain t' :=
    fun chain' isPlayer => (AList.mem_insert _).mpr (.inr isPlayer)
  refine ⟨fun chain' t'' found' => ?_, fun id v is => kept _ (tally.source id v is),
    fun id v is lost => kept _ (tally.target id v is lost), tally.won, tally.once⟩
  by_cases this : chain' = chain
  · subst this
    rw [AList.lookup_insert, Option.some.injEq] at found'
    rw [← found', same]
    exact tally.score chain' t found
  · rw [AList.lookup_insert_ne this] at found'
    exact tally.score chain' t'' found'

/-- A new player, whom no packet is about. -/
theorem Tally.install (tally : Tally s) {chain : TruncatedChainId} {t : AppStorage Score}
    (new : chain ∉ s.players) (score : t.custom = ⟨0, 0⟩) :
    Tally { s with players := s.players.insert chain t } := by
  have kept : ∀ chain', chain' ∈ s.players → chain' ∈ s.players.insert chain t :=
    fun chain' isPlayer => (AList.mem_insert _).mpr (.inr isPlayer)
  refine ⟨fun chain' t' found => ?_, fun id v is => kept _ (tally.source id v is),
    fun id v is lost => kept _ (tally.target id v is lost), tally.won, tally.once⟩
  by_cases this : chain' = chain
  · subst this
    rw [AList.lookup_insert, Option.some.injEq] at found
    have noSource : ∀ id v, s.packets.lookup id = some v → v.1.source ≠ chain' :=
      fun id v is own => new (own ▸ tally.source id v is)
    have noWins : winsOf s.packets chain' = 0 := count_eq_zero_of_lookup fun id v is => by
      simp [noSource id v is]
    have noLosses : lossesOf s.packets chain' = 0 := by
      have there : (count s.packets fun _ v => decide (v.1.target = chain') && lostThere v.2) = 0 :=
        count_eq_zero_of_lookup fun id v is => by
          by_contra lost
          rw [Bool.not_eq_false, Bool.and_eq_true, decide_eq_true_eq] at lost
          exact new (lost.1 ▸ tally.target id v is lost.2)
      have here : (count s.packets fun _ v => decide (v.1.source = chain') && lostHere v.2) = 0 :=
        count_eq_zero_of_lookup fun id v is => by simp [noSource id v is]
      unfold lossesOf
      omega
    rw [← found, score, noWins, noLosses]
  · rw [AList.lookup_insert_ne this] at found
    exact tally.score chain' t' found

/-- The player of a found packet, with the score that the packet says. -/
theorem Tally.settleOne (tally : Tally s) {id : Nat} {packet : Packet} {stage : Stage}
    {chain : TruncatedChainId} {t t' : AppStorage Score} {win loss : Bool}
    (found : s.packets.lookup id = some (packet, stage))
    (isPlayer : s.players.lookup chain = some t) (score : t'.custom = t.custom.plus win loss)
    (stage' : Stage)
    (wins : ∀ c, (decide (packet.source = c) && Game.won stage').toNat
      = (decide (packet.source = c) && Game.won stage).toNat + (decide (chain = c) && win).toNat)
    (losses : ∀ c, (decide (packet.target = c) && lostThere stage').toNat
        + (decide (packet.source = c) && lostHere stage').toNat
      = (decide (packet.target = c) && lostThere stage).toNat
        + (decide (packet.source = c) && lostHere stage).toNat + (decide (chain = c) && loss).toNat)
    (target : lostThere stage' = true → packet.target ∈ s.players)
    (won : Game.won stage' = true → lostThere stage' = true)
    (once : lostHere stage' = true → lostThere stage' = false) :
    Tally { players := s.players.insert chain t'
            packets := s.packets.insert id (packet, stage') } := by
  have known : chain ∈ s.players := mem_iff_lookup.mpr ⟨t, isPlayer⟩
  refine tally.settle found (fun c => ?_) (fun c t'' found' => ?_) target won once
  · rw [AList.mem_insert]
    exact ⟨fun h => h.elim (fun same => same ▸ known) fun before => before, .inr⟩
  · have winsOfC := wins c
    have lossesOfC := losses c
    by_cases this : c = chain
    · subst this
      rw [AList.lookup_insert, Option.some.injEq] at found'
      refine ⟨t, isPlayer, ?_, ?_⟩
      · rw [← found', score, winsOfC]
        simp only [Score.plus, decide_true, Bool.true_and]
        omega
      · rw [← found', score]
        simp only [Score.plus, decide_true, Bool.true_and] at lossesOfC ⊢
        omega
    · rw [AList.lookup_insert_ne this] at found'
      simp only [show ¬chain = c from fun h => this h.symm, decide_false, Bool.false_and,
        Bool.toNat_false, Nat.add_zero] at winsOfC lossesOfC
      exact ⟨t'', found', by omega, by omega⟩

theorem exec_tally (tally : Tally s) {input : Input} (ok : input.exec rules s = .ok (s', ())) :
    Tally s' := by
  cases input with
  | install chain env info account =>
    simp only [Input.exec, bind_eq_ok, ensure_eq_ok, pure_eq_ok, mapError_eq_ok, Prod.mk.injEq] at ok
    obtain ⟨_, new, ⟨t, _⟩, created, rfl, -⟩ := ok
    refine tally.install new ?_
    simp only [AppContract.instantiate, Rules.app, app, instantiateHandler, orEmpty,
      Option.map_some] at created
    obtain ⟨rfl, _⟩ := Prod.mk.inj (Except.ok.inj created)
    rfl
  | call chain env info msg ids =>
    simp only [Input.exec, bind_eq_ok, ensure_eq_ok, pure_eq_ok, mapError_eq_ok, player_eq_ok,
      Prod.mk.injEq] at ok
    obtain ⟨t, isPlayer, _, isStranger, ⟨t', r⟩, ran, packets, sent, rfl, -⟩ := ok
    have after := tally.player isPlayer (stranger_score isStranger ran)
    exact after.sends ((AList.mem_insert _).mpr (.inl rfl)) (send_sends sent)
  | arrive id env =>
    simp only [Input.exec, bind_eq_ok, player_eq_ok] at ok
    obtain ⟨packet, sent, t, isPlayer, ok⟩ := ok
    have found := sent_eq_ok sent
    split at ok
    · rename_i t' result arrived
      obtain ⟨rfl, -⟩ := Prod.mk.inj (Except.ok.inj ok)
      refine tally.settleOne found isPlayer (arrive_score arrived) (.Arrived result) (fun c => ?_)
        (fun c => ?_) ?_ ?_ ?_
      · simp [Game.won, Stage.action]
      · simp [lostThere, lostHere, Stage.result, Stage.action]
      · exact fun _ => mem_iff_lookup.mpr ⟨t, isPlayer⟩
      · simp [Game.won, Stage.action]
      · simp [lostHere, Stage.action]
    · obtain ⟨rfl, -⟩ := Prod.mk.inj (Except.ok.inj ok)
      exact tally.advance found rfl rfl rfl
  | fail id text =>
    simp only [Input.exec, bind_eq_ok, pure_eq_ok, Prod.mk.injEq] at ok
    obtain ⟨packet, sent, rfl, -⟩ := ok
    exact tally.advance (sent_eq_ok sent) rfl rfl rfl
  | tell id env ids =>
    simp only [Input.exec, bind_eq_ok, player_eq_ok] at ok
    obtain ⟨⟨packet, result⟩, arrived, t, isPlayer, ok⟩ := ok
    have found := arrived_eq_ok arrived
    split at ok
    · rename_i t' packets told
      obtain ⟨rfl, -⟩ := Prod.mk.inj (Except.ok.inj ok)
      simp only [Rules.tell, bind_eq_ok, mapError_eq_ok, pure_eq_ok, Prod.mk.injEq] at told
      obtain ⟨⟨t₁, r⟩, called, packets₁, sent, rfl, rfl⟩ := told
      obtain ⟨score, isWon, isLost⟩ := callback_score called
      have after := tally.settleOne found isPlayer score (.Told result (some r))
        (fun c => by simp [Game.won, Stage.action])
        (fun c => by simp [lostThere, lostHere, Stage.result, Stage.action])
        (tally.target id _ found) isWon isLost
      exact after.sends ((AList.mem_insert _).mpr (.inl rfl)) (send_sends sent)
    · obtain ⟨rfl, -⟩ := Prod.mk.inj (Except.ok.inj ok)
      exact tally.advance found rfl rfl rfl

theorem tally_reached (inputs : List Input) : Tally (run (Input.exec rules) newMatch inputs) :=
  run_invariant inputs (fun _ _ _ _ tally ok => exec_tally tally ok) tally_newMatch

/-- All wins are pings lost on the other side. -/
theorem Tally.total_wins (tally : Tally s) :
    (total s.players fun t => t.custom.wins) = count s.packets fun _ v => Game.won v.2 := by
  have byPlayer : (total s.players fun t => t.custom.wins)
      = (s.players.keys.map (winsOf s.packets)).sum :=
    total_eq_sum_keys fun e listed => by
      rw [tally.score e.1 e.2 (AList.mem_lookup_iff.mpr listed)]
  rw [byPlayer]
  refine (sum_count_owner s.players.keys_nodup s.packets (fun v => v.1.source)
    fun v => Game.won v.2).trans (count_congr fun e listed => ?_)
  have known := tally.source e.1 e.2 (AList.mem_lookup_iff.mpr listed)
  simp [AList.mem_keys.mp known]

theorem Tally.total_losses (tally : Tally s) :
    (total s.players fun t => t.custom.losses) =
      (count s.packets fun _ v => lostThere v.2) + count s.packets fun _ v => lostHere v.2 := by
  have byPlayer : (total s.players fun t => t.custom.losses)
      = (s.players.keys.map (lossesOf s.packets)).sum :=
    total_eq_sum_keys fun e listed => by
      rw [tally.score e.1 e.2 (AList.mem_lookup_iff.mpr listed)]
  unfold lossesOf at byPlayer
  rw [byPlayer, List.sum_map_add]
  have there := sum_count_owner s.players.keys_nodup s.packets (fun v => v.1.target)
    fun v => lostThere v.2
  have here := sum_count_owner s.players.keys_nodup s.packets (fun v => v.1.source)
    fun v => lostHere v.2
  rw [there, here]
  congr 1
  · refine count_congr fun e listed => ?_
    have isTarget := tally.target e.1 e.2 (AList.mem_lookup_iff.mpr listed)
    cases lost : lostThere e.2.2
    · simp
    · simp [AList.mem_keys.mp (isTarget lost)]
  · refine count_congr fun e listed => ?_
    have known := tally.source e.1 e.2 (AList.mem_lookup_iff.mpr listed)
    simp [AList.mem_keys.mp known]

/-- However the games of ping-pong go: the score of every player is what the packets say,
    a packet is lost by one player at most, and won only if its receiver has lost it.  All
    losses together are the wins, the lost pings of which the winner has not been told, or
    was told in vain, and those that ended with a pong. -/
theorem every_win_is_a_loss (rules : Rules) (inputs : List Input) :
    let s := run (Input.exec rules) newMatch inputs
    (∀ chain t, s.players.lookup chain = some t →
      t.custom.wins = winsOf s.packets chain ∧ t.custom.losses = lossesOf s.packets chain) ∧
    (∀ id v, s.packets.lookup id = some v →
      (Game.won v.2 = true → lostThere v.2 = true) ∧ ¬(lostThere v.2 = true ∧ lostHere v.2 = true)) ∧
    (total s.players fun t => t.custom.losses) = (total s.players fun t => t.custom.wins)
      + (count s.packets fun _ v => lostThere v.2 && !Game.won v.2)
      + count s.packets fun _ v => lostHere v.2 := by
  intro s
  have tally : Tally s := tally_reached inputs
  refine ⟨fun chain t found => ?_, fun id v found => ⟨tally.won id v found, ?_⟩, ?_⟩
  · rw [tally.score chain t found]
    exact ⟨rfl, rfl⟩
  · rintro ⟨there, here⟩
    rw [tally.once id v found here] at there
    cases there
  · have wonPings : (count s.packets fun _ v => lostThere v.2 && Game.won v.2)
        = count s.packets fun _ v => Game.won v.2 :=
      count_congr fun e listed => by
        have lost := tally.won e.1 e.2 (AList.mem_lookup_iff.mpr listed)
        cases isWon : Game.won e.2.2
        · simp
        · simp [lost isWon]
    rw [tally.total_losses, tally.total_wins,
      count_split s.packets (fun _ v => lostThere v.2) fun _ v => Game.won v.2, wonPings]

end Games

section Sample

attribute [local instance] releaseCrates noAuthenticators

/-- A registry with the ibc host and the ibc client. -/
def sampleRegistry : RegistryState :=
  let entries : List (ModuleKey × ModuleReference) := [
    (⟨⟨"abstract"⟩, "ibc-client", "0.26.1"⟩, .Native ⟨"client"⟩),
    (⟨⟨"abstract"⟩, "ibc-host", "0.26.1"⟩, .Native ⟨"host"⟩)]
  { emptyRegistry with registeredModules := insertAll ∅ entries }

def sampleEnv (height : Nat) : AppEnv where
  address := ⟨"app"⟩
  block := { height, time := 1 }
  chainName := ⟨"juno"⟩
  querier := {
    contract := fun _ => some (Contract.bare 1)
    codeInfo := fun _ => none
    registryAddress := fun _ => some ⟨"registry"⟩ }
  registry := sampleRegistry

def sampleJson : Json where
  hand hand := if hand = .Ping then [1] else [2]
  handFrom msg := if msg = [1] then .ok .Ping else .ok .Pong
  callback
    | .Pinged _ => [1]
    | .QueryBlockHeight _ => [2]
  callbackFrom msg := .ok (if msg = [1] then .Pinged ⟨"osmosis"⟩ else .QueryBlockHeight ⟨"osmosis"⟩)
  blockHeightQuery := []
  blockHeight _ := []
  blockHeightFrom _ := .ok 0

/-- Juno pings, osmosis answers with a pong, juno pings again and wins. -/
def sampleGame : List Input := [
  .install ⟨"juno"⟩ (sampleEnv 1) ⟨⟨"anyone"⟩, []⟩ ⟨"account"⟩,
  .install ⟨"osmosis"⟩ (sampleEnv 1) ⟨⟨"anyone"⟩, []⟩ ⟨"account"⟩,
  .call ⟨"juno"⟩ (sampleEnv 2) ⟨⟨"anyone"⟩, []⟩ (.Module (.PingPong ⟨"osmosis"⟩)) [1],
  .arrive 1 (sampleEnv 4),
  .tell 1 (sampleEnv 6) [2],
  .arrive 2 (sampleEnv 7),
  .tell 2 (sampleEnv 8) []]

example :
    let s := run (Input.exec ⟨sampleJson, [((0, 26, 0) : Nat × Nat × Nat)]⟩) newMatch sampleGame
    winsOf s.packets ⟨"juno"⟩ = 1 ∧ lossesOf s.packets ⟨"osmosis"⟩ = 1 := by
  decide

end Sample

end AbstractFramework.App.Game
