import AbstractFramework.IbcHost.Funding

/-! # What a call of the host sends

`HostTx.exec` only says what a call of the host leaves behind.  Here is the same call with
all that the host sends on the way, also in its replies.  For a packet of an account these
are the messages of its action, for the account that is registered for it.
-/

namespace AbstractFramework.IbcHost

open Fallible Storage Accounts Calls
open Account hiding World

section Model

variable [Crates] [Xion]

/-- The messages are delivered, with what the host sends when it replies. -/
inductive Runs (tx : HostTx) (host : Addr) :
    ChainState → List HostSubMsg → ChainState → List HostSubMsg → Prop where
  | nil {s : ChainState} : Runs tx host s [] s []
  | quiet {s t : ChainState} {world : World} {sub : HostSubMsg} {rest log : List HostSubMsg}
      (delivered : tx.deliverMsg host s.world sub.msg = .ok world)
      (noReply : sub.replyOnSuccess = none) (later : Runs tx host { s with world } rest t log) :
      Runs tx host s (sub :: rest) t (sub :: log)
  | reply {s t u : ChainState} {world : World} {sub : HostSubMsg} {rest inner log : List HostSubMsg}
      {id : ReplyId} {h : HostState} {msgs : List HostSubMsg}
      (delivered : tx.deliverMsg host s.world sub.msg = .ok world)
      (asks : sub.replyOnSuccess = some id)
      (replied : IbcHost.reply (tx.chain.env host world) id s.host = .ok (h, msgs))
      (inside : Runs tx host { world, host := h } msgs u inner)
      (later : Runs tx host u rest t log) :
      Runs tx host s (sub :: rest) t (sub :: (inner ++ log))

/-- The call ends in a state, and has sent the messages. -/
def HostTx.Logs (tx : HostTx) (host : Addr) (s t : ChainState) (log : List HostSubMsg) : Prop :=
  ∃ h msgs, execute (tx.chain.env host s.world) tx.info tx.msg s.host = .ok (h, msgs) ∧
    Runs tx host { s with host := h } msgs t log

end Model

section Results

variable [Crates] [Xion] {host : Addr} {tx : HostTx} {s t u : ChainState}
  {msgs more log later : List HostSubMsg}

/-! ## Every call has a log -/

theorem Runs.append (first : Runs tx host s msgs u log) (second : Runs tx host u more t later) :
    Runs tx host s (msgs ++ more) t (log ++ later) := by
  induction first with
  | nil => exact second
  | quiet delivered noReply _ ih => exact .quiet delivered noReply (ih second)
  | reply delivered asks replied inside _ _ ih =>
    rw [List.cons_append, List.cons_append, List.append_assoc]
    exact .reply delivered asks replied inside (ih second)

theorem runs_of_foldlM {f : ChainState → HostSubMsg → Except HostTxError ChainState}
    (body : ∀ m sub m', f m sub = .ok m' → ∃ log, Runs tx host m [sub] m' log)
    (done : msgs.foldlM f s = .ok t) : ∃ log, Runs tx host s msgs t log := by
  induction msgs generalizing s with
  | nil =>
    obtain rfl := Except.ok.inj done
    exact ⟨[], .nil⟩
  | cons sub msgs ih =>
    obtain ⟨m, first, rest⟩ := foldlM_cons_eq_ok.mp done
    obtain ⟨log, runs⟩ := body s sub m first
    obtain ⟨later, runs'⟩ := ih rest
    exact ⟨log ++ later, runs.append runs'⟩

theorem deliver_runs {depth : Nat} {sub : HostSubMsg} (h : tx.deliver host depth s sub = .ok t) :
    ∃ log, Runs tx host s [sub] t log := by
  induction depth generalizing s t sub with
  | zero => cases h
  | succ depth ih =>
    simp only [HostTx.deliver, bind_eq_ok] at h
    obtain ⟨world, delivered, h⟩ := h
    cases asks : sub.replyOnSuccess with
    | none =>
      simp only [asks, pure_eq_ok] at h
      obtain rfl := h
      exact ⟨[sub], .quiet delivered asks .nil⟩
    | some id =>
      simp only [asks, bind_eq_ok, mapError_eq_ok] at h
      obtain ⟨⟨h', msgs⟩, replied, rest⟩ := h
      obtain ⟨inner, inside⟩ := runs_of_foldlM (fun _ _ _ done => ih done) rest
      exact ⟨sub :: (inner ++ []), .reply delivered asks replied inside .nil⟩

theorem exec_logs (h : tx.exec host s = .ok t) : ∃ log, tx.Logs host s t log := by
  obtain ⟨h', msgs, executed, rest⟩ := exec_eq_ok h
  obtain ⟨log, runs⟩ := runs_of_foldlM (fun _ _ _ done => deliver_runs done) rest
  exact ⟨log, h', msgs, executed, runs⟩

/-- What is delivered is logged. -/
theorem Runs.delivered (runs : Runs tx host s msgs t log) : ∀ sub ∈ msgs, sub ∈ log := by
  induction runs with
  | nil => exact fun _ listed => listed
  | quiet _ _ _ ih =>
    intro sub listed
    rcases List.mem_cons.mp listed with rfl | listed
    · exact List.mem_cons_self
    · exact List.mem_cons_of_mem _ (ih sub listed)
  | reply _ _ _ _ _ _ ih =>
    intro sub listed
    rcases List.mem_cons.mp listed with rfl | listed
    · exact List.mem_cons_self
    · exact List.mem_cons_of_mem _ (List.mem_append_right _ (ih sub listed))

/-! ## The accounts and their registry -/

theorem deliverMsg_moves {w w' : World} {msg : HostMsg}
    (h : tx.deliverMsg host w msg = .ok w') : ∃ c, Moves w.view c w'.view := by
  cases msg with
  | Account account msg =>
    simp only [HostTx.deliverMsg, mapError_eq_ok] at h
    exact ⟨_, call_moves h⟩
  | Instantiate2 admin codeId label msg funds salt =>
    simp only [HostTx.deliverMsg, mapError_eq_ok] at h
    obtain ⟨c, _, called⟩ := deliver_new h
    exact ⟨c, call_moves called⟩
  | ModuleIbc module chain source msg =>
    simp only [HostTx.deliverMsg, bind_eq_ok, pure_eq_ok] at h
    obtain ⟨_, _, rfl⟩ := h
    exact ⟨.registry tx.info (.UpdateConfig none none), .keep⟩
  | BankSend toAddress amount =>
    simp only [HostTx.deliverMsg, bind_eq_ok, pure_eq_ok] at h
    obtain ⟨_, _, rfl⟩ := h
    exact ⟨.registry tx.info (.UpdateConfig none none), .keep⟩

/-- What every move of the accounts keeps, the host's messages keep. -/
theorem Runs.view {P : View → Prop} (moves : ∀ v c v', P v → Moves v c v' → P v')
    (runs : Runs tx host s msgs t log) (start : P s.world.view) : P t.world.view := by
  induction runs with
  | nil => exact start
  | quiet delivered _ _ ih =>
    obtain ⟨c, moved⟩ := deliverMsg_moves delivered
    exact ih (moves _ c _ start moved)
  | reply delivered _ _ _ _ inside later =>
    obtain ⟨c, moved⟩ := deliverMsg_moves delivered
    exact later (inside (moves _ c _ start moved))

theorem exec_view {P : View → Prop} (moves : ∀ v c v', P v → Moves v c v' → P v')
    (h : tx.exec host s = .ok t) (start : P s.world.view) : P t.world.view := by
  obtain ⟨log, h', msgs, _, runs⟩ := exec_logs h
  exact runs.view moves start

theorem Runs.registered_stays {key : AccountKey} {account : Addr} (runs : Runs tx host s msgs t log)
    (there : s.world.registry.accountAddresses.lookup key = some account) :
    t.world.registry.accountAddresses.lookup key = some account :=
  runs.view (P := fun v => v.registered key = some account)
    (fun _ _ _ there moved => moved.registered_stays there) there

/-! ## Packets of accounts -/

/-- What is left to deliver of a packet: messages for the account that is registered for
    it, or the creation of that account. -/
inductive Carries (chain : TruncatedChainId) (address : String) (id : AccountId)
    (action : HostAction) (s : ChainState) : List HostSubMsg → Prop where
  | messages {msgs : List HostSubMsg} (plain : ∀ sub ∈ msgs, sub.Plain)
      (forAccount : ∀ sub ∈ msgs, ∀ account msg, sub.toAccount = some (account, msg) →
        msg ∈ action.accountMsgs ∧
          s.world.registry.accountAddresses.lookup (id.pushChain chain).storageKey = some account) :
      Carries chain address id action s msgs
  | create {sub : HostSubMsg} (asks : sub.replyOnSuccess = some .InitBeforeAction)
      (none : sub.toAccount = none)
      (waits : s.host.tempActionAfterCreation = some (waiting chain address id action)) :
      Carries chain address id action s [sub]

theorem Handles.carries {chain : TruncatedChainId} {address : String} {id : AccountId}
    {action : HostAction} {w : World} {h h' : HostState}
    (handles : Handles (tx.chain.env host w) chain address id action h h' msgs) :
    Carries chain address id action { world := w, host := h' } msgs := by
  cases handles with
  | register _ _ plain none =>
    refine .messages (fun sub listed => ?_) (fun sub listed account msg isAccount => ?_)
    · rw [List.mem_singleton.mp listed]
      exact plain
    · rw [List.mem_singleton.mp listed, none] at isAccount
      cases isAccount
  | dispatch _ found messages plain =>
    refine .messages plain fun sub listed account msg isAccount => ?_
    have sent : some (account, msg) ∈ msgs.map HostSubMsg.toAccount :=
      isAccount ▸ List.mem_map_of_mem listed
    rw [messages, List.mem_map] at sent
    obtain ⟨msg', isMsg, same⟩ := sent
    obtain ⟨rfl, rfl⟩ := Prod.mk.inj (Option.some.inj same)
    exact ⟨isMsg, (getAccount_eq_ok.mp found).2⟩
  | create => exact .create rfl rfl rfl

theorem Carries.tail {chain : TruncatedChainId} {address : String} {id : AccountId}
    {action : HostAction} {sub : HostSubMsg}
    (plain : ∀ other ∈ sub :: msgs, other.Plain)
    (forAccount : ∀ other ∈ sub :: msgs, ∀ account msg, other.toAccount = some (account, msg) →
      msg ∈ action.accountMsgs ∧
        s.world.registry.accountAddresses.lookup (id.pushChain chain).storageKey = some account)
    (stays : ∀ key account, s.world.registry.accountAddresses.lookup key = some account →
      t.world.registry.accountAddresses.lookup key = some account) :
    Carries chain address id action t msgs := by
  refine .messages (fun other listed => plain other (.tail _ listed))
    fun other listed account msg isAccount => ?_
  obtain ⟨isMsg, there⟩ := forAccount other (.tail _ listed) account msg isAccount
  exact ⟨isMsg, stays _ _ there⟩

/-- Whatever is sent to an account is a message of the action, and the account is the one
    that is registered for it. -/
theorem Carries.logged {chain : TruncatedChainId} {address : String} {id : AccountId}
    {action : HostAction} (carries : Carries chain address id action s msgs)
    (runs : Runs tx host s msgs t log) {sub : HostSubMsg} {account : Addr} {msg : Entry.ExecuteMsg}
    (sent : sub ∈ log) (isAccount : sub.toAccount = some (account, msg)) :
    msg ∈ action.accountMsgs ∧
      t.world.registry.accountAddresses.lookup (id.pushChain chain).storageKey = some account := by
  induction runs with
  | nil => cases sent
  | @quiet s t world first rest log delivered noReply rest ih =>
    cases carries with
    | create asks =>
      rw [noReply] at asks
      cases asks
    | messages plain forAccount =>
      obtain ⟨c, moved⟩ := deliverMsg_moves delivered
      rcases List.mem_cons.mp sent with rfl | sent
      · obtain ⟨isMsg, there⟩ := forAccount _ List.mem_cons_self account msg isAccount
        exact ⟨isMsg, rest.registered_stays (moved.registered_stays there)⟩
      · exact ih (.tail plain forAccount fun _ _ there => moved.registered_stays there) sent
  | @reply s t u world first rest inner log replyId h msgs delivered asks replied inside later ihInside
      ihLater =>
    obtain ⟨c, moved⟩ := deliverMsg_moves delivered
    cases carries with
    | messages plain forAccount =>
      cases replyId with
      | InitBeforeAction => exact absurd asks (plain _ List.mem_cons_self)
      | Response =>
        obtain ⟨rfl, rfl⟩ := Prod.mk.inj (Except.ok.inj replied)
        cases inside
        rcases List.mem_cons.mp sent with rfl | sent
        · obtain ⟨isMsg, there⟩ := forAccount _ List.mem_cons_self account msg isAccount
          exact ⟨isMsg, later.registered_stays (moved.registered_stays there)⟩
        · exact ihLater (.tail plain forAccount fun _ _ there => moved.registered_stays there) sent
    | create asks' none waits =>
      obtain rfl := Option.some.inj (asks.symm.trans asks')
      cases later
      rw [List.append_nil] at sent
      rcases List.mem_cons.mp sent with rfl | sent
      · rw [none] at isAccount
        cases isAccount
      · simp only [IbcHost.reply, replyExecuteAction, bind_eq_ok, okOr_eq_ok] at replied
        obtain ⟨cache, isCache, handled⟩ := replied
        obtain rfl := Option.some.inj (waits.symm.trans isCache)
        exact ihInside (handleHostAction_handles handled).carries sent

/-- The messages that a packet sends to accounts are those of its action, for the account
    that is registered under the id with the chain of the sender pushed onto its trace. -/
theorem Logs.action {chain : TruncatedChainId} {address : String} {id : AccountId}
    {action : HostAction} (logs : tx.Logs host s t log)
    (isAction : tx.msg = .Execute id address action)
    (isProxy : s.host.reverseChainProxies.lookup tx.info.sender = some chain)
    {sub : HostSubMsg} {account : Addr} {msg : Entry.ExecuteMsg} (sent : sub ∈ log)
    (isAccount : sub.toAccount = some (account, msg)) :
    msg ∈ action.accountMsgs ∧
      t.world.registry.accountAddresses.lookup (id.pushChain chain).storageKey = some account := by
  obtain ⟨h, msgs, executed, runs⟩ := logs
  simp only [isAction, execute, loadSrcChain, isProxy, bind_eq_ok, okOr_eq_ok, Option.some.injEq,
    exists_eq_left'] at executed
  exact (handleHostAction_handles executed).carries.logged runs sent isAccount

end Results

end AbstractFramework.IbcHost
