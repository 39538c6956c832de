import AbstractFramework.IbcHost.Dispatch
import AbstractFramework.Objects.AccountIdJson

/-! # Funding and registration

A transaction of the host is a call with all that follows from it, as one deterministic
step: the messages are delivered in order, each with its reply, and a failure undoes
everything.  `exec_reachable` says that it is a run of the call machine.

Anyone may fund an account of any chain, and an account that is not there is created for
it.  An account is created once, so that its owner can no longer register it, which is
`fund_takes_account`.  `register_alike` compares two runs, and says that funding accounts
that are there changes nothing.
-/

namespace AbstractFramework.IbcHost

open Fallible Storage Accounts Calls
open Account hiding World

section Model

variable [Crates] [Xion]

/-- The accounts with their registry, and the host. -/
structure ChainState where
  world : World
  host : HostState

/-- A call of the host, and the chain around it. -/
structure HostTx where
  chain : HostChain
  info : MessageInfo
  msg : ExecuteMsg
  /-- Whether a module or the bank accepts a message of the host. -/
  accepts : HostMsg → Bool

inductive HostTxError where
  | InHost (e : HostError)
  | InAccounts (e : TxError)
  | Refused
  | CallDepth

def HostTx.deliverMsg (tx : HostTx) (host : Addr) (w : World) : HostMsg → Except HostTxError World
  | .Account account msg =>
    (tx.chain.call tx.chain.maxCallDepth (.execute account { sender := host, funds := [] } msg)
      w).mapError HostTxError.InAccounts
  | .Instantiate2 admin codeId label msg funds salt =>
    (tx.chain.deliver (tx.chain.call tx.chain.maxCallDepth) host w
      (.new (.Instantiate2 admin codeId label msg funds salt))).mapError HostTxError.InAccounts
  | msg => do
    ensure (tx.accepts msg = true) HostTxError.Refused
    return w

def HostTx.deliver (tx : HostTx) (host : Addr) :
    Nat → ChainState → HostSubMsg → Except HostTxError ChainState
  | 0, _, _ => .error .CallDepth
  | depth + 1, s, sub => do
    let world ← tx.deliverMsg host s.world sub.msg
    match sub.replyOnSuccess with
    | none => return { s with world }
    | some id => do
      let (h, msgs) ← (reply (tx.chain.env host world) id s.host).mapError HostTxError.InHost
      msgs.foldlM (tx.deliver host depth) { world, host := h }

def HostTx.exec (tx : HostTx) (host : Addr) (s : ChainState) : Except HostTxError ChainState := do
  let (h, msgs) ← (execute (tx.chain.env host s.world) tx.info tx.msg s.host).mapError
    HostTxError.InHost
  msgs.foldlM (tx.deliver host tx.chain.maxCallDepth) { s with host := h }

/-- What happens on the chain: a call of the host, or a transaction of others. -/
inductive HostInput where
  | host (tx : HostTx)
  | accounts (tx : Tx)

def HostInput.exec (host : Addr) (input : HostInput) (s : ChainState) :
    Except HostTxError (ChainState × Unit) :=
  match input with
  | .host tx => do
    let s ← tx.exec host s
    return (s, ())
  | .accounts tx => do
    let (world, _) ← (Accounts.exec tx s.world).mapError HostTxError.InAccounts
    return ({ s with world }, ())

/-! ## Funding -/

def HostInput.isFund : HostInput → Bool
  | .host tx =>
    match tx.msg with
    | .Fund _ _ => true
    | _ => false
  | .accounts _ => false

/-- A call of `Fund` that creates no account: its account is registered, or it fails. -/
def FundsExisting (host : Addr) (s : ChainState) : HostInput → Prop
  | .host tx => ∃ srcAccount srcChain, tx.msg = .Fund srcAccount srcChain ∧
      ((∃ account, getAccount (tx.chain.env host s.world) (srcAccount.pushChain srcChain) =
          .ok account) ∨
        ∃ e, tx.exec host s = .error e)
  | .accounts _ => False

/-- The account that is registered under an id: its name, description and link, its
    namespace, and its modules. -/
def ChainState.account (s : ChainState) (id : AccountId) :
    Option (Option AccountInfo × Option Namespace × Map String Addr) := do
  let account ← s.world.registry.accountAddresses.lookup id.storageKey
  let storage ← s.world.accounts.lookup account
  return (storage.info, s.world.registry.revNamespaces.lookup id.storageKey, storage.accountModules)

structure RegisterPacket where
  chain : HostChain
  sender : MessageInfo
  accountId : AccountId
  accountAddress : String
  action : InternalAction
  accepts : HostMsg → Bool

def RegisterPacket.tx (packet : RegisterPacket) : HostTx where
  chain := packet.chain
  info := packet.sender
  msg := .Execute packet.accountId packet.accountAddress (.Internal packet.action)
  accepts := packet.accepts

/-- The packet is accepted in both states or in none, and what is registered under its id
    with a chain pushed onto the trace is the same afterwards. -/
def RegisteredAlike (host : Addr) (packet : RegisterPacket) (s t : ChainState) : Prop :=
  ((∃ s', packet.tx.exec host s = .ok s') ↔ ∃ t', packet.tx.exec host t = .ok t') ∧
    ∀ chain : TruncatedChainId,
      (Machine.step (HostInput.exec host) s (.host packet.tx)).account
          (packet.accountId.pushChain chain) =
        (Machine.step (HostInput.exec host) t (.host packet.tx)).account
          (packet.accountId.pushChain chain)

end Model

section Results

variable [Crates] [Xion] {host : Addr} {tx : HostTx} {s s' : ChainState}

/-! ## Transactions as runs of the call machine -/

theorem exec_eq_ok (h : tx.exec host s = .ok s') :
    ∃ h' msgs, execute (tx.chain.env host s.world) tx.info tx.msg s.host = .ok (h', msgs) ∧
      msgs.foldlM (tx.deliver host tx.chain.maxCallDepth) { s with host := h' } = .ok s' := by
  simp only [HostTx.exec, bind_eq_ok, mapError_eq_ok] at h
  obtain ⟨⟨h', msgs⟩, executed, rest⟩ := h
  exact ⟨h', msgs, executed, rest⟩

/-- The call machine after the same work, whatever has been logged. -/
def Does (host : Addr) (items : List Item) (s s' : ChainState) : Prop :=
  ∀ log rest, ∃ log', Reachable (program host)
    ⟨{ world := s.world, host := s.host, log }, push items rest⟩
    ⟨{ world := s'.world, host := s'.host, log := log' }, rest⟩

theorem Does.nil : Does host [] s s := fun log _ => ⟨log, .refl⟩

theorem Does.append {items items' : List Item} {m : ChainState} (first : Does host items s m)
    (second : Does host items' m s') : Does host (items ++ items') s s' := by
  intro log rest
  obtain ⟨log₁, reached₁⟩ := first log (push items' rest)
  obtain ⟨log₂, reached₂⟩ := second log₁ rest
  refine ⟨log₂, ?_⟩
  have split : push (items ++ items') rest = push items (push items' rest) := by
    simp [push]
  rw [split]
  exact reached₁.trans reached₂

/-- Other code that does nothing. -/
theorem does_foreign (items : List Item) (only : ∀ item ∈ items, item = .foreign) :
    Does host items s s := by
  induction items with
  | nil => exact .nil
  | cons item items ih =>
    obtain rfl := only item List.mem_cons_self
    have rest := ih fun item later => only item (.tail _ later)
    intro log stack
    obtain ⟨log', reached⟩ := rest log stack
    exact ⟨log', .head (.work .done) reached⟩

theorem delivers_of_deliverMsg {w : World} {msg : HostMsg}
    (h : tx.deliverMsg host s.world msg = .ok w) :
    ∃ items, Delivers host tx.chain s.world msg w items ∧ ∀ item ∈ items, item = .foreign := by
  cases msg with
  | Account account msg =>
    simp only [HostTx.deliverMsg, mapError_eq_ok] at h
    exact ⟨_, .account h, by simp⟩
  | ModuleIbc module chain source msg =>
    simp only [HostTx.deliverMsg, bind_eq_ok, pure_eq_ok] at h
    obtain ⟨_, _, rfl⟩ := h
    exact ⟨_, .moduleIbc, by simp⟩
  | BankSend toAddress amount =>
    simp only [HostTx.deliverMsg, bind_eq_ok, pure_eq_ok] at h
    obtain ⟨_, _, rfl⟩ := h
    exact ⟨_, .bankSend, by simp⟩
  | Instantiate2 admin codeId label msg funds salt =>
    simp only [HostTx.deliverMsg, mapError_eq_ok] at h
    refine ⟨_, .create h, ?_⟩
    intro item listed
    split at listed
    · cases listed
    · exact List.mem_singleton.mp listed

theorem does_foldlM {f : ChainState → HostSubMsg → Except HostTxError ChainState}
    {msgs : List HostSubMsg}
    (body : ∀ m sub m', f m sub = .ok m' → Does host [.send tx.chain sub] m m')
    (done : msgs.foldlM f s = .ok s') : Does host (msgs.map (Item.send tx.chain)) s s' := by
  induction msgs generalizing s with
  | nil =>
    obtain rfl := Except.ok.inj done
    exact .nil
  | cons sub msgs ih =>
    obtain ⟨m, first, rest⟩ := foldlM_cons_eq_ok.mp done
    exact (body s sub m first).append (ih rest)

theorem deliver_does {depth : Nat} {sub : HostSubMsg} (h : tx.deliver host depth s sub = .ok s') :
    Does host [.send tx.chain sub] s s' := by
  induction depth generalizing s s' sub with
  | zero => cases h
  | succ depth ih =>
    simp only [HostTx.deliver, bind_eq_ok] at h
    obtain ⟨w, delivered, h⟩ := h
    obtain ⟨items, delivers, foreign⟩ := delivers_of_deliverMsg delivered
    have quiet : Does host items { s with world := w } { s with world := w } :=
      does_foreign items foreign
    have after : Does host (sub.replyOnSuccess.map (Item.reply tx.chain)).toList
        { s with world := w } s' := by
      cases asks : sub.replyOnSuccess with
      | none =>
        simp only [asks, pure_eq_ok] at h
        obtain rfl := h
        exact .nil
      | some id =>
        simp only [asks, bind_eq_ok, mapError_eq_ok] at h
        obtain ⟨⟨h', msgs⟩, replied, rest⟩ := h
        have work := does_foldlM (fun m sub m' ok => ih ok) rest
        intro log stack
        obtain ⟨log', reached⟩ := work (.sends h' w.registry msgs :: log) stack
        exact ⟨log', .head (.work ⟨h', msgs, replied, rfl, rfl⟩) reached⟩
    intro log stack
    obtain ⟨log', reached⟩ := (quiet.append after) log stack
    exact ⟨log', .head (.work ⟨w, items, delivers, rfl, rfl⟩) reached⟩

/-- A transaction of the host is a run of the call machine. -/
theorem exec_does (h : tx.exec host s = .ok s') :
    Does host [.call tx.chain tx.info tx.msg] s s' := by
  obtain ⟨h', msgs, executed, rest⟩ := exec_eq_ok h
  have work := does_foldlM (fun m sub m' ok => deliver_does ok) rest
  intro log stack
  obtain ⟨log', reached⟩ := work
    (.sends h' s.world.registry msgs :: (packetOf tx.info tx.msg ++ log)) stack
  exact ⟨log', .head (.work ⟨h', msgs, executed, rfl, rfl⟩) reached⟩

/-- A call that sends one message, and asks for no reply, is the delivery of it. -/
theorem exec_single {h' : HostState} {sub : HostSubMsg}
    (executed : execute (tx.chain.env host s.world) tx.info tx.msg s.host = .ok (h', [sub]))
    (noReply : sub.replyOnSuccess = none) (h : tx.exec host s = .ok s') :
    s'.host = h' ∧ tx.deliverMsg host s.world sub.msg = .ok s'.world := by
  obtain ⟨h'', msgs, same, sent⟩ := exec_eq_ok h
  obtain ⟨rfl, rfl⟩ := Prod.mk.inj (Except.ok.inj (executed.symm.trans same))
  obtain ⟨m, delivered, done⟩ := foldlM_cons_eq_ok.mp sent
  obtain rfl := Except.ok.inj done
  cases depth : tx.chain.maxCallDepth with
  | zero =>
    rw [depth] at delivered
    cases delivered
  | succ n =>
    simp only [depth, HostTx.deliver, noReply, bind_eq_ok, pure_eq_ok] at delivered
    obtain ⟨w, delivered, rfl⟩ := delivered
    exact ⟨rfl, delivered⟩

/-! ## Two runs -/

/-- Funds go to the account that is there, and nothing else happens. -/
theorem exec_fund {srcAccount : AccountId} {srcChain : TruncatedChainId} {account : Addr}
    (isFund : tx.msg = .Fund srcAccount srcChain)
    (found : getAccount (tx.chain.env host s.world) (srcAccount.pushChain srcChain) = .ok account)
    (h : tx.exec host s = .ok s') : s' = s := by
  have executed : execute (tx.chain.env host s.world) tx.info tx.msg s.host =
      .ok (s.host, [{ msg := .BankSend account tx.info.funds, replyOnSuccess := none }]) := by
    simp only [isFund, execute, fund, found]
    rfl
  obtain ⟨sameHost, delivered⟩ := exec_single executed rfl h
  simp only [HostTx.deliverMsg, bind_eq_ok, pure_eq_ok] at delivered
  obtain ⟨_, _, sameWorld⟩ := delivered
  obtain ⟨world, h'⟩ := s'
  obtain rfl : h' = s.host := sameHost
  obtain rfl : s.world = world := sameWorld
  rfl

/-- Funding that creates no account changes neither the accounts nor the host. -/
theorem step_fundsExisting {input : HostInput} (funds : FundsExisting host s input) :
    Machine.step (HostInput.exec host) s input = s := by
  cases input with
  | accounts tx => exact funds.elim
  | host tx =>
    obtain ⟨srcAccount, srcChain, isFund, ⟨account, found⟩ | ⟨e, failed⟩⟩ := funds
    · rcases Machine.step_cases (HostInput.exec host) s (.host tx) with same | ⟨r, ok⟩
      · exact same
      · simp only [HostInput.exec, bind_eq_ok, pure_eq_ok, Prod.mk.injEq] at ok
        obtain ⟨s', executed, same, _⟩ := ok
        rw [← same]
        exact exec_fund isFund found executed
    · refine Machine.step_of_error (e := e) ?_
      rw [HostInput.exec, failed]
      rfl

/-- In two runs that differ in calls of `Fund` that create no account, a packet that
    registers an account is accepted in both or in none, and leaves the same account. -/
theorem register_alike {is js : List HostInput}
    (runs : Machine.SameBut (HostInput.exec host) (FundsExisting host) s s is js)
    (packet : RegisterPacket) :
    RegisteredAlike host packet (Machine.run (HostInput.exec host) s is)
      (Machine.run (HostInput.exec host) s js) := by
  rw [runs.run_eq fun s input funds => step_fundsExisting funds]
  exact ⟨Iff.rfl, fun _ => rfl⟩

/-! ## Accounts that are created by others -/

theorem Delivers.registered_stays {chain : HostChain} {w w' : World} {msg : HostMsg}
    {items : List Item} {key : AccountKey} {account : Addr}
    (delivers : Delivers host chain w msg w' items)
    (there : w.registry.accountAddresses.lookup key = some account) :
    w'.registry.accountAddresses.lookup key = some account := by
  cases delivers with
  | account called => exact Moves.registered_stays (call_moves called) there
  | moduleIbc => exact there
  | bankSend => exact there
  | create created =>
    obtain ⟨c, _, called⟩ := deliver_new created
    exact Moves.registered_stays (call_moves called) there

/-- An account that is registered stays so, whatever the machine does. -/
theorem reachable_registered {s : HostWorld} {items : List Item} {c : Calls.Config HostWorld Item}
    {key : AccountKey} {account : Addr}
    (there : s.world.registry.accountAddresses.lookup key = some account)
    (reached : Reachable (program host) ⟨s, push items []⟩ c) :
    c.state.world.registry.accountAddresses.lookup key = some account := by
  refine reachable_invariant
    (I := fun s _ => s.world.registry.accountAddresses.lookup key = some account) ?_ ?_ there reached
  · intro s item s' items rest expands there
    cases item with
    | call chain info msg =>
      obtain ⟨h, msgs, _, rfl, rfl⟩ := expands
      exact there
    | send chain sub =>
      obtain ⟨w, delivered, delivers, rfl, rfl⟩ := expands
      exact delivers.registered_stays there
    | reply chain id =>
      obtain ⟨h, msgs, _, rfl, rfl⟩ := expands
      exact there
    | foreign =>
      cases expands with
      | done => exact there
      | call => exact there
      | accounts ok => exact Moves.registered_stays (exec_moves ok) there
  · intro s item items rest _ there
    exact there

theorem run_registered {key : AccountKey} {account : Addr} (is : List HostInput)
    (there : s.world.registry.accountAddresses.lookup key = some account) :
    (Machine.run (HostInput.exec host) s is).world.registry.accountAddresses.lookup key =
      some account := by
  refine Machine.run_invariant (P := fun s : ChainState =>
    s.world.registry.accountAddresses.lookup key = some account) is ?_ there
  intro s input s' u there ok
  cases input with
  | host tx =>
    simp only [HostInput.exec, bind_eq_ok, pure_eq_ok, Prod.mk.injEq] at ok
    obtain ⟨_, executed, rfl, _⟩ := ok
    obtain ⟨log, reached⟩ := exec_does executed [] []
    exact reachable_registered there reached
  | accounts tx =>
    simp only [HostInput.exec, bind_eq_ok, mapError_eq_ok, pure_eq_ok, Prod.mk.injEq] at ok
    obtain ⟨⟨w, u⟩, executed, rfl, _⟩ := ok
    exact Moves.registered_stays (exec_moves executed) there

theorem created_unregistered {chain : HostChain} {w w' : World} {admin : Addr} {codeId : Nat}
    {label : String} {msg : InstantiateMsg} {funds : List Coin} {salt : Bytes} {id : AccountId}
    (created : chain.deliver (chain.call chain.maxCallDepth) host w
      (.new (.Instantiate2 admin codeId label msg funds salt)) = .ok w')
    (isId : msg.accountId = some id) :
    w.registry.accountAddresses.lookup id.storageKey = none := by
  obtain ⟨c, received, called⟩ := deliver_new created
  simp only [ChainView.received, bind_eq_ok, pure_eq_ok] at received
  obtain ⟨_, _, account, _, rfl⟩ := received
  obtain ⟨n, new, sameId, _⟩ := call_instantiate called
  rw [isId, Option.getD_some] at sameId
  rw [← sameId]
  exact new.unregistered

theorem exec_creates {h' : HostState} {sub : HostSubMsg} {id : AccountId}
    (executed : execute (tx.chain.env host s.world) tx.info tx.msg s.host = .ok (h', [sub]))
    (creates : sub.creates = some id) (noReply : sub.replyOnSuccess = none)
    (h : tx.exec host s = .ok s') :
    ∃ admin codeId label msg funds salt, msg.accountId = some id ∧
      tx.chain.deliver (tx.chain.call tx.chain.maxCallDepth) host s.world
        (.new (.Instantiate2 admin codeId label msg funds salt)) = .ok s'.world := by
  obtain ⟨_, delivered⟩ := exec_single executed noReply h
  obtain ⟨msg, asks⟩ := sub
  cases msg with
  | Instantiate2 admin codeId label msg funds salt =>
    simp only [HostTx.deliverMsg, mapError_eq_ok] at delivered
    exact ⟨admin, codeId, label, msg, funds, salt, creates, delivered⟩
  | _ => cases creates

/-- A call of `Fund` that does not find its account creates it. -/
theorem fund_creates {srcAccount : AccountId} {srcChain : TruncatedChainId}
    (isFund : tx.msg = .Fund srcAccount srcChain)
    (missing : ∀ account,
      getAccount (tx.chain.env host s.world) (srcAccount.pushChain srcChain) ≠ .ok account)
    (h : tx.exec host s = .ok s') :
    ∃ account, s'.world.registry.accountAddresses.lookup
      (srcAccount.pushChain srcChain).storageKey = some account := by
  obtain ⟨h', msgs, executed, _⟩ := exec_eq_ok h
  have funded := executed
  simp only [isFund, execute, bind_eq_ok, pure_eq_ok, Prod.mk.injEq] at funded
  obtain ⟨_, funded, rfl, rfl⟩ := funded
  simp only [fund] at funded
  split at funded
  · rename_i account found
    exact absurd found (missing account)
  · obtain ⟨registry, _, _, _, _, _, isId, _, rfl⟩ := receiveRegister_eq_ok funded
    obtain ⟨_, _, _, _, _, _, isId, created⟩ := exec_creates executed isId rfl h
    obtain ⟨account, found⟩ := getAccount_of_created created isId registry
    exact ⟨account, (getAccount_eq_ok.mp found).2⟩

/-- An account that is there cannot be registered. -/
theorem register_refused {packet : RegisterPacket} {srcChain : TruncatedChainId} {account : Addr}
    (isProxy : s.host.reverseChainProxies.lookup packet.sender.sender = some srcChain)
    (there : s.world.registry.accountAddresses.lookup
      (packet.accountId.pushChain srcChain).storageKey = some account) :
    packet.tx.exec host s ≠ .ok s' := by
  intro h
  obtain ⟨h', msgs, executed, _⟩ := exec_eq_ok h
  have handled := executed
  simp only [RegisterPacket.tx, execute, loadSrcChain, isProxy, bind_eq_ok, okOr_eq_ok,
    Option.some.injEq, exists_eq_left'] at handled
  obtain ⟨name, description, link, ns, modules⟩ := packet.action
  simp only [handleHostAction, bind_eq_ok, pure_eq_ok, Prod.mk.injEq] at handled
  obtain ⟨_, registers, rfl, rfl⟩ := handled
  obtain ⟨_, _, _, _, _, _, isId, _, rfl⟩ := receiveRegister_eq_ok registers
  obtain ⟨_, _, _, _, _, _, isId, created⟩ := exec_creates executed isId rfl h
  rw [created_unregistered created isId] at there
  cases there

/-- Once a call of `Fund` by anyone has created an account, its owner can never register
    it. -/
theorem fund_takes_account {srcAccount : AccountId} {srcChain : TruncatedChainId}
    (isFund : tx.msg = .Fund srcAccount srcChain)
    (missing : ∀ account,
      getAccount (tx.chain.env host s.world) (srcAccount.pushChain srcChain) ≠ .ok account)
    (h : tx.exec host s = .ok s') (is : List HostInput) {packet : RegisterPacket}
    (owns : packet.accountId = srcAccount)
    (isProxy : (Machine.run (HostInput.exec host) s' is).host.reverseChainProxies.lookup
      packet.sender.sender = some srcChain) (t : ChainState) :
    packet.tx.exec host (Machine.run (HostInput.exec host) s' is) ≠ .ok t := by
  obtain ⟨account, created⟩ := fund_creates isFund missing h
  rw [← owns] at created
  exact register_refused isProxy (run_registered is created)

end Results

section Sample

attribute [local instance] accountCrates noAuthenticators

/-- A chain on which accounts of different ids have different addresses. -/
def fundingChain : HostChain :=
  { sampleHostChain with
    toJson := AccountId.toJsonBinary
    instantiate2Address := fun _ creator salt => .ok ⟨creator.asStr ++ "-" ++ toString salt.length⟩ }

def fundingTx (sender : String) (msg : ExecuteMsg) : HostTx where
  chain := fundingChain
  info := sampleInfo sender
  msg
  accepts _ := true

def registerOfJuno (seq : AccountSequence) : RegisterPacket where
  chain := fundingChain
  sender := sampleInfo "proxy"
  accountId := .ofLocal seq
  accountAddress := "juno1"
  action := .Register (some "My account") none none none []
  accepts _ := true

def registerProxy : HostInput := .host (fundingTx "adm" (.RegisterChainProxy ⟨"juno"⟩ "proxy"))

def fundFirst : HostInput := .host (fundingTx "anyone" (.Fund (.ofLocal 0) ⟨"juno"⟩))

def newChainState : ChainState where
  world := newHost.world
  host := newHost.host

/-- The owner has registered the first account of juno. -/
def withFirst : ChainState :=
  Machine.step (HostInput.exec sampleHost)
    (Machine.step (HostInput.exec sampleHost) newChainState registerProxy)
    (.host (registerOfJuno 0).tx)

/-- The registered account of juno is funded before the other one is registered. -/
theorem register_alike_funded :
    RegisteredAlike sampleHost (registerOfJuno 10)
      (Machine.run (HostInput.exec sampleHost) newChainState
        [registerProxy, .host (registerOfJuno 0).tx, fundFirst])
      (Machine.run (HostInput.exec sampleHost) newChainState
        [registerProxy, .host (registerOfJuno 0).tx]) := by
  have registered : (getAccount (fundingChain.env sampleHost withFirst.world)
      remoteAccount).toOption.isSome = true := by
    decide +kernel
  obtain ⟨account, found⟩ := Option.isSome_iff_exists.mp registered
  have funds : FundsExisting sampleHost withFirst fundFirst :=
    ⟨.ofLocal 0, ⟨"juno"⟩, rfl, .inl ⟨account, toOption_eq_some.mp found⟩⟩
  exact register_alike (.both _ (.both _ (.left funds .nil))) (registerOfJuno 10)

/-- A stranger has funded the first account of juno, so that its owner cannot register it. -/
theorem fund_blocks_register :
    ∃ (is js : List HostInput) (packet : RegisterPacket),
      Machine.SameBut (HostInput.exec sampleHost) (fun _ input => input.isFund = true)
        newChainState newChainState is js ∧
      ¬ RegisteredAlike sampleHost packet
        (Machine.run (HostInput.exec sampleHost) newChainState is)
        (Machine.run (HostInput.exec sampleHost) newChainState js) := by
  refine ⟨[registerProxy, fundFirst], [registerProxy], registerOfJuno 0,
    .both _ (.left rfl .nil), ?_⟩
  rintro ⟨accepted, _⟩
  have first : ((registerOfJuno 0).tx.exec sampleHost (Machine.run (HostInput.exec sampleHost)
      newChainState [registerProxy, fundFirst])).toOption.isSome = false := by
    decide +kernel
  have second : ((registerOfJuno 0).tx.exec sampleHost (Machine.run (HostInput.exec sampleHost)
      newChainState [registerProxy])).toOption.isSome = true := by
    decide +kernel
  obtain ⟨t, ok⟩ := Option.isSome_iff_exists.mp second
  obtain ⟨s, ok⟩ := accepted.mpr ⟨t, toOption_eq_some.mp ok⟩
  rw [toOption_eq_some.mpr ok] at first
  cases first

end Sample

end AbstractFramework.IbcHost
