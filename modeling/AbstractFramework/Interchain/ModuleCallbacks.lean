import AbstractFramework.Interchain.RemoteAccounts

/-! # Answers to modules

A module that acts or asks on another chain may want to hear the outcome.  The client
keeps nothing for it: who asked and what for travels with the packet and comes back
with the outcome.  What the client then sends to a module is the answer to a packet of
that module, and it sends such messages at no other time.
-/

namespace AbstractFramework.Interchain

open Fallible Storage Accounts Machine
open Account hiding World
open IbcClient (ClientState ClientEnv ClientMsg ClientSubMsg PolytoneCallback IbcResponseMsg PACKET_LIFETIME)
open IbcHost (ChainState)

section Results

variable [Crates] [Xion] {relay : Relay} {s s' : Bridge}

/-- The response is what a packet of a module has been sent for, with its outcome. -/
inductive Answers (relay : Relay) (packet : Packet) (outcome : PolytoneCallback)
    (response : IbcResponseMsg) : Prop where
  | action {chain : TruncatedChainId} {target : ModuleInfo} {msg : Binary}
      {source : IbcHost.InstalledModuleIdentification} {request : IbcClient.CallbackRequest}
      (isCall : packet.call = .ModuleIbcAction chain target msg (some response.callback))
      (isMsg : packet.msg = .Execute
        [⟨(relay.hostOf chain).asStr, .ModuleExecute source target msg⟩] (some request)
        PACKET_LIFETIME)
      (isResult : IbcClient.IbcResult.fromExecute outcome msg = .ok response.result)
  | query {chain : TruncatedChainId}
      {queries : List (IbcClient.QueryRequest IbcClient.ModuleQuery)}
      {mapped : List (IbcClient.QueryRequest Empty)} {request : IbcClient.CallbackRequest}
      (isCall : packet.call = .IbcQuery chain queries response.callback)
      (isMsg : packet.msg = .Query mapped request PACKET_LIFETIME)
      (maps : queries.mapM (IbcClient.mapQuery (relay.hostOf chain).asStr) = .ok mapped)
      (isResult : IbcClient.IbcResult.fromQuery outcome queries = .ok response.result)

/-- Whatever the client has sent when it was told the outcome of a packet. -/
def AnswersOnly (relay : Relay) (s : Bridge) : Prop :=
  ∀ k packet outcome msgs, s.packets.lookup k = some (packet, .Told outcome msgs) → msgs = [] ∨
    ∃ response, msgs = [.IbcCallback packet.sender.asStr response] ∧
      Answers relay packet outcome response

theorem Asked.answers_action {packet : Packet} {request : IbcClient.CallbackRequest}
    {sender : String} {callback : IbcClient.Callback} {msg : Binary} {outcome : PolytoneCallback}
    {result : IbcClient.IbcResult} (asked : Asked relay packet)
    (asks : packet.callback = some request)
    (decoded : relay.fromJson request.msg = .ok (.ModuleRemoteAction sender callback msg))
    (isResult : IbcClient.IbcResult.fromExecute outcome msg = .ok result) :
    sender = packet.sender.asStr ∧ Answers relay packet outcome { callback, result } := by
  obtain ⟨_, call, note, asked'⟩ := packet
  obtain ⟨env, info, client, rfl, _, sameJson, leads, _, asked⟩ := asked
  have decodes : ∀ {c}, request.msg = env.toJson c → .ModuleRemoteAction sender callback msg = c := by
    intro c isMsg
    rw [isMsg, sameJson] at decoded
    exact relay.decodes _ _ decoded
  cases asked with
  | whoAmI | register =>
    obtain rfl := Option.some.inj asks
    cases decodes rfl
  | action => cases asks
  | module registered =>
    obtain ⟨c, rfl, rfl⟩ := Option.map_eq_some_iff.mp asks
    cases decodes rfl
    rw [(leads _ _ registered).2]
    exact ⟨rfl, .action rfl rfl isResult⟩
  | query =>
    obtain rfl := Option.some.inj asks
    cases decodes rfl

theorem Asked.answers_query {packet : Packet} {request : IbcClient.CallbackRequest}
    {sender : String} {callback : IbcClient.Callback}
    {queries : List (IbcClient.QueryRequest IbcClient.ModuleQuery)} {outcome : PolytoneCallback}
    {result : IbcClient.IbcResult} (asked : Asked relay packet)
    (asks : packet.callback = some request)
    (decoded : relay.fromJson request.msg = .ok (.ModuleRemoteQuery sender callback queries))
    (isResult : IbcClient.IbcResult.fromQuery outcome queries = .ok result) :
    sender = packet.sender.asStr ∧ Answers relay packet outcome { callback, result } := by
  obtain ⟨_, call, note, asked'⟩ := packet
  obtain ⟨env, info, client, rfl, _, sameJson, leads, _, asked⟩ := asked
  have decodes : ∀ {c}, request.msg = env.toJson c →
      .ModuleRemoteQuery sender callback queries = c := by
    intro c isMsg
    rw [isMsg, sameJson] at decoded
    exact relay.decodes _ _ decoded
  cases asked with
  | whoAmI | register =>
    obtain rfl := Option.some.inj asks
    cases decodes rfl
  | action => cases asks
  | module =>
    obtain ⟨c, rfl, rfl⟩ := Option.map_eq_some_iff.mp asks
    cases decodes rfl
  | query registered maps =>
    obtain rfl := Option.some.inj asks
    cases decodes rfl
    rw [(leads _ _ registered).2] at maps
    exact ⟨rfl, .query rfl rfl maps isResult⟩

/-- Only the step that tells the client of a packet adds to what it has sent for it. -/
theorem AnswersOnly.step {input : Input} {u : Unit} (agrees : Agrees relay s)
    (answers : AnswersOnly relay s) (ok : input.exec relay s = .ok (s', u)) :
    AnswersOnly relay s' := by
  have untold {k : Nat} {packet : Packet} {stage : Stage}
      (untold : ∀ outcome msgs, stage ≠ .Told outcome msgs)
      (isPackets : s'.packets = s.packets.insert k (packet, stage)) : AnswersOnly relay s' := by
    intro k' packet' outcome msgs found
    rw [isPackets] at found
    rcases lookup_insert_cases found with ⟨_, same⟩ | ⟨_, before⟩
    · exact absurd (Prod.mk.inj same).2.symm (untold outcome msgs)
    · exact answers k' packet' outcome msgs before
  cases input with
  | call chain info msg ids =>
    simp only [Input.exec, bind_eq_ok, mapError_eq_ok, pure_eq_ok, Prod.mk.injEq] at ok
    obtain ⟨_, _, ⟨client, subs⟩, _, packets, departed, rfl, _⟩ := ok
    intro k packet outcome msgs found
    rcases depart_cases departed found with before | ⟨_, _, _, _, isSent⟩
    · exact answers k packet outcome msgs before
    · cases isSent
  | reply chain id result =>
    simp only [Input.exec, bind_eq_ok, pure_eq_ok, Prod.mk.injEq] at ok
    obtain ⟨_, _, rfl, _⟩ := ok
    exact answers
  | lifecycle msg =>
    simp only [Input.exec, bind_eq_ok, pure_eq_ok, Prod.mk.injEq] at ok
    obtain ⟨_, _, rfl, _⟩ := ok
    exact answers
  | arrive k arrival =>
    simp only [Input.exec, bind_eq_ok, okOr_eq_ok] at ok
    obtain ⟨packet, _, link, _, ok⟩ := ok
    split at ok
    · cases ok
    · simp only [bind_eq_ok, pure_eq_ok, Prod.mk.injEq] at ok
      obtain ⟨_, _, rfl, _⟩ := ok
      exact untold (by simp) rfl
  | settle k outcome =>
    simp only [Input.exec, bind_eq_ok, pure_eq_ok, Prod.mk.injEq] at ok
    obtain ⟨packet, _, _, _, rfl, _⟩ := ok
    exact untold (by simp) rfl
  | tell k chain =>
    simp only [Input.exec, bind_eq_ok, pure_eq_ok, Prod.mk.injEq] at ok
    obtain ⟨⟨packet, outcome⟩, isExecuted, rfl, _⟩ := ok
    have asked := agrees.asked k packet _ (executed_eq_ok.mp isExecuted)
    obtain ⟨client, sent, answered⟩ : ∃ client sent,
        relay.answer chain s.source packet outcome s.client = (client, sent) := ⟨_, _, rfl⟩
    rw [answered]
    intro k' packet' outcome' msgs found
    rcases lookup_insert_cases found with ⟨_, same⟩ | ⟨_, before⟩
    swap
    · exact answers k' packet' outcome' msgs before
    obtain ⟨rfl, isTold⟩ := Prod.mk.inj same
    obtain ⟨rfl, rfl⟩ := Stage.Told.inj isTold
    rcases answer_cases answered with ⟨_, none⟩ | ⟨request, subs, asks, _, isSubs, called⟩
    · exact .inl none
    · obtain ⟨name, _, _, learns⟩ := learns_of_callback called
      cases learns with
      | proxy | account => exact .inl isSubs
      | action decoded isResult =>
        obtain ⟨rfl, answer⟩ := asked.answers_action asks decoded isResult
        exact .inr ⟨_, isSubs, answer⟩
      | query decoded isResult =>
        obtain ⟨rfl, answer⟩ := asked.answers_query asks decoded isResult
        exact .inr ⟨_, isSubs, answer⟩
  | here tx =>
    simp only [Input.exec, bind_eq_ok, pure_eq_ok, Prod.mk.injEq] at ok
    obtain ⟨_, _, rfl, _⟩ := ok
    exact answers
  | there name input =>
    simp only [Input.exec, bind_eq_ok, pure_eq_ok, Prod.mk.injEq] at ok
    obtain ⟨_, _, rfl, _⟩ := ok
    exact answers

/-- None of the messages is the answer to a module. -/
def NoCallbacks (subs : List ClientSubMsg) : Prop :=
  ∀ (sub : ClientSubMsg) addr response, sub ∈ subs → sub.msg ≠ .IbcCallback addr response

theorem noCallbacks_reply {env : ClientEnv} {id : Nat} {result : Except String (Option Binary)}
    {c c' : ClientState} {subs : List ClientSubMsg}
    (h : IbcClient.reply env id result c = .ok (c', subs)) : NoCallbacks subs := by
  unfold IbcClient.reply at h
  split at h
  · simp only [IbcClient.saveCallbackActions, bind_eq_ok, pure_eq_ok, Prod.mk.injEq] at h
    obtain ⟨_, _, _, _, _, _, _, _, _, _, _, rfl⟩ := h
    rintro _ _ _ ⟨⟩
  · cases h

/-- After a transfer the client tells the account, or gives back its coin. -/
theorem noCallbacks_sudo {msg : IbcClient.SudoMsg} {c c' : ClientState} {subs : List ClientSubMsg}
    (h : IbcClient.executeSudo msg c = .ok (c', subs)) : NoCallbacks subs := by
  intro sub addr response listed isCallback
  cases msg with
  | IBCAck channel sequence ack success =>
    simp only [IbcClient.executeSudo, IbcClient.ics20HookCallback, bind_eq_ok, pure_eq_ok,
      Prod.mk.injEq] at h
    obtain ⟨⟨_, account, coin, actions⟩, _, _, rfl⟩ := h
    obtain ⟨sent, isSent, rfl⟩ := List.mem_map.mp listed
    split at isSent
    · obtain ⟨_, _, rfl⟩ := List.mem_map.mp isSent
      cases isCallback
    · obtain rfl := List.mem_singleton.mp isSent
      cases isCallback
  | IBCTimeout channel sequence =>
    simp only [IbcClient.executeSudo, IbcClient.ics20HookCallback, bind_eq_ok, pure_eq_ok,
      Prod.mk.injEq] at h
    obtain ⟨_, _, _, rfl⟩ := h
    obtain rfl := List.mem_singleton.mp listed
    cases isCallback

/-- In every run that connects the notes to their chains: when the client is told the
    outcome of a packet, it sends nothing, or the answer to the module that the packet is
    from, with the module's own callback and request; and no other call, no reply and no
    outcome of a transfer makes it send messages to modules. -/
theorem callbacks_answer_their_module {registry : RegistryState}
    {chains : TruncatedChainId → ChainState} {owner : MessageInfo} {inputs : List Input}
    (starts : Starts registry chains)
    (right : AlongAccepted (Input.exec relay) (ConnectsRight relay)
      (newBridge registry owner chains) inputs)
    (reached : s = run (Input.exec relay) (newBridge registry owner chains) inputs) :
    AnswersOnly relay s ∧
      (∀ (chain : SourceChain) info msg client subs, relay.genuine info msg = true →
        IbcClient.execute (relay.env chain s.source) info msg s.client = .ok (client, subs) →
        NoCallbacks subs) ∧
      (∀ env id result client subs, IbcClient.reply env id result s.client = .ok (client, subs) →
        NoCallbacks subs) ∧
      ∀ msg client subs, IbcClient.executeSudo msg s.client = .ok (client, subs) →
        NoCallbacks subs := by
  have held : Agrees relay s ∧ AnswersOnly relay s := by
    rw [reached]
    refine run_invariant_accepted (P := fun s => Agrees relay s ∧ AnswersOnly relay s) ?_
      ⟨starts.agrees owner, fun _ _ _ _ found => by cases found⟩ right
    rintro s input s' u right ⟨agrees, answers⟩ ok
    exact ⟨agrees.step right ok, answers.step agrees ok⟩
  refine ⟨held.2, ?_, fun _ _ _ _ _ => noCallbacks_reply, fun _ _ _ => noCallbacks_sudo⟩
  intro chain info msg client subs genuine executed sub addr response listed isCallback
  rcases sends_of_execute executed (held.1.not_callback genuine executed) listed with
    ⟨_, _, isNote, _⟩ | ⟨_, _, _, _, _, isTransfer⟩
  · rw [isCallback] at isNote
    cases isNote
  · rw [isCallback] at isTransfer
    cases isTransfer

end Results

section Sample

attribute [local instance] accountCrates noAuthenticators

/-- A contract asks the other chain, and hears of the answer. -/
def asking : List Input :=
  connecting ++ [.call sampleSource (sampleInfo "app") (.IbcQuery ⟨"osmosis"⟩ [] ⟨[7]⟩) [1],
    .settle 1 (.Query (.Success [])), .tell 1 sampleSource]

def Stage.isAnswered : Stage → Bool
  | .Told _ [_] => true
  | _ => false

theorem callbacks_answer_their_module_asking :
    AnswersOnly sampleRelay (run (Input.exec sampleRelay) sampleBridge asking) ∧
      ((run (Input.exec sampleRelay) sampleBridge asking).packets.lookup 1).any
        (·.2.isAnswered) = true := by
  have right : AlongAccepted (Input.exec sampleRelay) (ConnectsRight sampleRelay) sampleBridge
      asking :=
    alongAccepted_append.mpr
      ⟨connectsRight_connecting, Along.accepted ⟨trivial, trivial, trivial, trivial⟩⟩
  exact ⟨(callbacks_answer_their_module starts_sample right rfl).1, by decide +kernel⟩

end Sample

end AbstractFramework.Interchain
