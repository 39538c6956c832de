import AbstractFramework.App.Contract

/-! # The ping-pong app

Two instances of the app on different chains play against each other.  Who is asked to
play sends a ping.  Who receives one answers with a pong when the height of its block is
even, and has lost otherwise; the callback tells the one who pinged whether there was a
pong, and with a pong it is its turn to ping again or to lose.
-/

namespace AbstractFramework.App.Game

open Fallible Storage
open Account (Binary)
open IbcClient (Callback Event ExecutionCallbackResult IbcResult ModuleQuery QueryCallbackResult
  QueryRequest)

variable [Crates] [Xion]

/-! ## Messages and storage -/

inductive PingOrPong where
  | Ping
  | Pong
deriving DecidableEq

inductive PingPongCallbackMsg where
  | Pinged (opponentChain : TruncatedChainId)
  | QueryBlockHeight (opponentChain : TruncatedChainId)

inductive AppExecuteMsg where
  | PingPong (opponentChain : TruncatedChainId)
  /-- Plays only if the opponent's chain would lose. -/
  | QueryAndMaybePingPong (opponentChain : TruncatedChainId)

/-- `WINS` and `LOSSES`. -/
structure Score where
  wins : Nat
  losses : Nat

/-- A message to the ibc client. -/
structure ClientCall where
  client : Addr
  msg : IbcClient.ExecuteMsg

/-- The encodings of the app's messages. -/
structure Json where
  hand : PingOrPong → Binary
  handFrom : Binary → Except StdError PingOrPong
  callback : PingPongCallbackMsg → Binary
  callbackFrom : Binary → Except StdError PingPongCallbackMsg
  /-- The query for the block height. -/
  blockHeightQuery : Binary
  blockHeight : Nat → Binary
  blockHeightFrom : Binary → Except StdError Nat

def APP_ID : String := "abstract:ping-pong"

/-- The version of the crate. -/
def APP_VERSION : String := "0.1.0"

abbrev PlayResult := AppResult (AppStorage Score × Response ClientCall)

/-! ## Results of packets -/

/-- Get execute result. -/
def getExecuteEvents : IbcResult → AppResult (List Event)
  | .Execute _ (.Success items) => do
    let response ← okOr items.result.head? (.Panicked "execution response without submsg")
    return response.events
  | .Execute _ (.Error err) => .error (.Std (.msg err))
  | .Query _ _ => .error (.Std (.msg "expected execute, got query ibc result"))
  | .FatalError err => .error (.Std (.msg err))

/-- Get query result. -/
def getQueryResult (index : Nat) : IbcResult → AppResult (QueryRequest ModuleQuery × Binary)
  | .Query queries (.Success items) => do
    let query ← okOr queries[index]? (.Panicked "index out of bounds")
    let item ← okOr items[index]? (.Panicked "index out of bounds")
    return (query, item)
  | .Query _ (.Error _ err) => .error (.Std (.msg err))
  | .Execute _ _ => .error (.Std (.msg "expected query, got execute ibc result"))
  | .FatalError err => .error (.Std (.msg err))

/-- Whether one of the events says that the opponent has played a pong. -/
def hasPong (events : List Event) : Bool :=
  events.any fun e => e.ty == "wasm" && e.attributes.any fun a => a.key == "play" && a.value == "pong"

/-! ## Handlers -/

/-- Addition of `u32`. -/
def increment (n : Nat) : AppResult Nat :=
  if n + 1 < 4294967296 then .ok (n + 1) else .error (.Panicked "attempt to add with overflow")

def Score.lose (score : Score) : AppResult Score := do
  let losses ← increment score.losses
  return { score with losses }

def Score.win (score : Score) : AppResult Score := do
  let wins ← increment score.wins
  return { score with wins }

def thisModuleInfo : AppResult ModuleInfo :=
  (ModuleInfo.fromId APP_ID (.Version APP_VERSION)).mapError AppError.Abstract

/-- `AbstractResponse::response`. -/
def response (action : String) : Response ClientCall :=
  { action := some action, attributes := [], messages := [] }

/-- Start by playing a ping. -/
def pingPong (json : Json) (env : AppEnv) (opponentChain : TruncatedChainId)
    (s : AppStorage Score) : PlayResult := do
  let info ← thisModuleInfo
  let client ← env.ibcClientAddr s.toAppBase
  let callback : Callback := ⟨json.callback (.Pinged opponentChain)⟩
  return (s, { response "ping_pong" with
    attributes := [("play", "ping")]
    messages := [⟨client, .ModuleIbcAction opponentChain info (json.hand .Ping) (some callback)⟩] })

def queryAndPing (json : Json) (env : AppEnv) (opponentChain : TruncatedChainId)
    (s : AppStorage Score) : PlayResult := do
  let id ← (env.querier.queryAccountId s.account).mapError AppError.Std
  let info ← thisModuleInfo
  let client ← env.ibcClientAddr s.toAppBase
  let target : IbcHost.InstalledModuleIdentification :=
    { moduleInfo := info
      accountId := some (id.intoRemoteAccountId env.chainName opponentChain) }
  let callback : Callback := ⟨json.callback (.QueryBlockHeight opponentChain)⟩
  return (s, { response "rematch" with
    messages := [⟨client, .IbcQuery opponentChain [.Custom ⟨target, json.blockHeightQuery⟩] callback⟩] })

def executeHandler (json : Json) (env : AppEnv) (_ : MessageInfo) (msg : AppExecuteMsg)
    (s : AppStorage Score) : PlayResult :=
  match msg with
  | .PingPong opponentChain => pingPong json env opponentChain s
  | .QueryAndMaybePingPong opponentChain => queryAndPing json env opponentChain s

/-- A ping of the app on another chain. -/
def receiveModuleIbc (json : Json) (env : AppEnv) (sourceModule : ModuleIbcInfo) (msg : Binary)
    (s : AppStorage Score) : PlayResult := do
  let this ← thisModuleInfo
  ensure (sourceModule.module = this) (.NotPingPong sourceModule.module)
  let hand ← (json.handFrom msg).mapError AppError.Std
  ensure (hand = .Ping) .FirstPlayMustBePing
  -- if the block is even, return a pong
  if env.block.height % 2 = 0 then
    return (s, { response "ping_ponged" with attributes := [("play", "pong")] })
  else do
    let score ← s.custom.lose
    return ({ s with custom := score }, response "ping_ponged")

/-- Play against the opponent if its block height is uneven. -/
def playIfWin (json : Json) (env : AppEnv) (result : IbcResult) (opponentChain : TruncatedChainId)
    (s : AppStorage Score) : PlayResult := do
  let (_, item) ← getQueryResult 0 result
  let height ← (json.blockHeightFrom item).mapError AppError.Std
  if height % 2 = 1 then pingPong json env opponentChain s
  else return (s, response "dont_play")

/-- The outcome of a ping. -/
def pinged (json : Json) (env : AppEnv) (result : IbcResult) (opponentChain : TruncatedChainId)
    (s : AppStorage Score) : PlayResult := do
  let events ← getExecuteEvents result
  if hasPong events = true then
    if env.block.height % 2 = 0 then pingPong json env opponentChain s
    else do
      let score ← s.custom.lose
      return ({ s with custom := score }, response "lost")
  else do
    let score ← s.custom.win
    return ({ s with custom := score }, response "won")

def ibcCallback (json : Json) (env : AppEnv) (callback : Callback) (result : IbcResult)
    (s : AppStorage Score) : PlayResult := do
  match ← (json.callbackFrom callback.msg).mapError AppError.Std with
  | .Pinged opponentChain => pinged json env result opponentChain s
  | .QueryBlockHeight opponentChain => playIfWin json env result opponentChain s

def instantiateHandler (_ : AppEnv) (_ : MessageInfo) (_ : Unit) (s : AppStorage Score) : PlayResult :=
  .ok ({ s with custom := { wins := 0, losses := 0 } }, .empty)

/-- The app.  `versionReq` is what it asks of the version of the ibc client. -/
def app (json : Json) (versionReq : List Crates.Comparator) :
    AppContract Score Unit AppExecuteMsg Unit Unit ClientCall where
  moduleId := APP_ID
  version := APP_VERSION
  dependencies := [{ id := IBC_CLIENT, versionReq }]
  instantiateHandler := some instantiateHandler
  executeHandler := some (executeHandler json)
  moduleIbcHandler := some (receiveModuleIbc json)
  ibcCallbackHandler := some (ibcCallback json)
  migrateHandler := none
  sudoHandler := none
  replyHandlers := []

/-! ## The handlers write the score only -/

section Base

variable {json : Json}

theorem pingPong_leavesBase (env : AppEnv) (opponentChain : TruncatedChainId) :
    LeavesBase (pingPong json env opponentChain) := by
  intro s s' r ok
  simp only [pingPong, bind_eq_ok, pure_eq_ok, Prod.mk.injEq] at ok
  obtain ⟨_, _, _, _, rfl, _⟩ := ok
  rfl

theorem executeHandler_leavesBase (env : AppEnv) (info : MessageInfo) (msg : AppExecuteMsg) :
    LeavesBase (executeHandler json env info msg) := by
  intro s s' r ok
  cases msg with
  | PingPong opponentChain => exact pingPong_leavesBase env opponentChain s s' r ok
  | QueryAndMaybePingPong opponentChain =>
    simp only [executeHandler, queryAndPing, bind_eq_ok, pure_eq_ok, Prod.mk.injEq] at ok
    obtain ⟨_, _, _, _, _, _, rfl, _⟩ := ok
    rfl

theorem receiveModuleIbc_leavesBase (env : AppEnv) (src : ModuleIbcInfo) (msg : Binary) :
    LeavesBase (receiveModuleIbc json env src msg) := by
  intro s s' r ok
  simp only [receiveModuleIbc, bind_eq_ok] at ok
  obtain ⟨_, _, _, _, _, _, _, _, ok⟩ := ok
  split at ok
  · obtain ⟨rfl, _⟩ := Prod.mk.inj (Except.ok.inj ok)
    rfl
  · simp only [bind_eq_ok, pure_eq_ok, Prod.mk.injEq] at ok
    obtain ⟨_, _, rfl, _⟩ := ok
    rfl

theorem pinged_leavesBase (env : AppEnv) (result : IbcResult) (opponentChain : TruncatedChainId) :
    LeavesBase (pinged json env result opponentChain) := by
  intro s s' r ok
  simp only [pinged, bind_eq_ok] at ok
  obtain ⟨_, _, ok⟩ := ok
  split at ok
  · split at ok
    · exact pingPong_leavesBase env opponentChain s s' r ok
    · simp only [bind_eq_ok, pure_eq_ok, Prod.mk.injEq] at ok
      obtain ⟨_, _, rfl, _⟩ := ok
      rfl
  · simp only [bind_eq_ok, pure_eq_ok, Prod.mk.injEq] at ok
    obtain ⟨_, _, rfl, _⟩ := ok
    rfl

theorem ibcCallback_leavesBase (env : AppEnv) (callback : Callback) (result : IbcResult) :
    LeavesBase (ibcCallback json env callback result) := by
  intro s s' r ok
  simp only [ibcCallback, bind_eq_ok] at ok
  obtain ⟨msg, _, ok⟩ := ok
  cases msg with
  | Pinged opponentChain => exact pinged_leavesBase env result opponentChain s s' r ok
  | QueryBlockHeight opponentChain =>
    simp only [playIfWin, bind_eq_ok] at ok
    obtain ⟨_, _, _, _, ok⟩ := ok
    split at ok
    · exact pingPong_leavesBase env opponentChain s s' r ok
    · obtain ⟨rfl, _⟩ := Prod.mk.inj (Except.ok.inj ok)
      rfl

/-- The app keeps what the contract stores about itself, so that its instances keep their
    identity. -/
theorem app_keepsBase (json : Json) (versionReq : List Crates.Comparator) :
    (app json versionReq).KeepsBase where
  instantiate handler found env info msg s s' r ok := by
    obtain rfl := Option.some.inj found
    obtain ⟨rfl, _⟩ := Prod.mk.inj (Except.ok.inj ok)
    rfl
  execute handler found env info msg := by
    obtain rfl := Option.some.inj found
    exact executeHandler_leavesBase env info msg
  moduleIbc handler found env src msg := by
    obtain rfl := Option.some.inj found
    exact receiveModuleIbc_leavesBase env src msg
  ibcCallback handler found env callback result := by
    obtain rfl := Option.some.inj found
    exact ibcCallback_leavesBase env callback result
  migrate _ found := nomatch found
  sudoCall _ found := nomatch found
  reply _ found := nomatch found

end Base

end AbstractFramework.App.Game
