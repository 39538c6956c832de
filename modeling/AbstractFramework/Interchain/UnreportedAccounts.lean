import AbstractFramework.Interchain.RemoteAccounts

/-! # Accounts that are not reported

Only the outcome of the packet that registers an account tells the client of it.  An
account that comes to exist on another chain in another way stays unknown: the host
refuses to register it again, so that no such outcome comes.
-/

namespace AbstractFramework.Interchain

open Fallible Storage Accounts Machine
open Account hiding World
open IbcClient (ClientEnv ClientSubMsg PolytoneNoteExecuteMsg PACKET_LIFETIME)
open IbcHost (ChainState)

section Results

variable [Crates] [Xion] {relay : Relay} {s s' : Bridge}

theorem step_grows {input : Input} {u : Unit} (ok : input.exec relay s = .ok (s', u)) :
    s.Grows s' := by
  have same (isSame : s'.chains = s.chains) : s.Grows s' := by
    intro chain id account there
    unfold Bridge.HasAccount at there ⊢
    rw [isSame]
    exact there
  cases input with
  | arrive k arrival =>
    simp only [Input.exec, bind_eq_ok, okOr_eq_ok] at ok
    obtain ⟨packet, _, link, _, ok⟩ := ok
    split at ok
    · cases ok
    · simp only [bind_eq_ok, pure_eq_ok, Prod.mk.injEq] at ok
      obtain ⟨⟨c, responses⟩, done, rfl, _⟩ := ok
      exact grows_chain (fun key account => executeMsgs_registered done) rfl
  | there name input =>
    simp only [Input.exec, bind_eq_ok, mapError_eq_ok, pure_eq_ok, Prod.mk.injEq] at ok
    obtain ⟨⟨c, _⟩, executed, rfl, _⟩ := ok
    exact grows_chain (fun key account => exec_registered executed) rfl
  | call chain info msg ids =>
    simp only [Input.exec, bind_eq_ok, pure_eq_ok, Prod.mk.injEq] at ok
    obtain ⟨_, _, _, _, _, _, rfl, _⟩ := ok
    exact same rfl
  | reply chain id result =>
    simp only [Input.exec, bind_eq_ok, pure_eq_ok, Prod.mk.injEq] at ok
    obtain ⟨_, _, rfl, _⟩ := ok
    exact same rfl
  | lifecycle msg =>
    simp only [Input.exec, bind_eq_ok, pure_eq_ok, Prod.mk.injEq] at ok
    obtain ⟨_, _, rfl, _⟩ := ok
    exact same rfl
  | settle k outcome =>
    simp only [Input.exec, bind_eq_ok, pure_eq_ok, Prod.mk.injEq] at ok
    obtain ⟨_, _, _, _, rfl, _⟩ := ok
    exact same rfl
  | tell k chain =>
    simp only [Input.exec, bind_eq_ok, pure_eq_ok, Prod.mk.injEq] at ok
    obtain ⟨_, _, rfl, _⟩ := ok
    exact same rfl
  | here tx =>
    simp only [Input.exec, bind_eq_ok, pure_eq_ok, Prod.mk.injEq] at ok
    obtain ⟨_, _, rfl, _⟩ := ok
    exact same rfl

/-- The client does not know of the account, and is not about to learn of it. -/
structure Unreported (relay : Relay) (name : TruncatedChainId) (id : AccountId) (s : Bridge) :
    Prop where
  unknown : s.client.accounts.lookup (id.storageKey, name) = none
  noReport : ∀ k packet link response, packet.Registers relay id link → link.chain = name →
    s.packets.lookup k ≠ some (packet, .Executed (.Execute (.Success response)))

theorem Unreported.of_missing {name : TruncatedChainId} {id : AccountId} (agrees : Agrees relay s)
    (valid : id.trace.verify = .ok ())
    (missing : ∀ account, ¬ s.HasAccount name (id.pushChain relay.source) account) :
    Unreported relay name id s where
  unknown := by
    cases known : s.client.accounts.lookup (id.storageKey, name) with
    | none => rfl
    | some text =>
      obtain ⟨id', account, valid', sameKey, _, there⟩ := agrees.known _ _ _ known
      obtain rfl : id' = id := AccountId.storageKey_injective valid' valid sameKey
      exact absurd there (missing account)
  noReport := by
    rintro k packet link response registers rfl found
    obtain ⟨account, _, there⟩ :=
      agrees.reported k packet _ found id link response .Unauthorized registers rfl
    exact missing account there

/-- The client hears of an account only from the packet that has registered it. -/
theorem Unreported.step {name : TruncatedChainId} {id : AccountId} {input : Input} {u : Unit}
    (agrees : Agrees relay s) (valid : id.trace.verify = .ok ())
    (unreported : Unreported relay name id s)
    (there : ∀ k arrival packet link, input = .arrive k arrival → s.sent k = .ok packet →
      packet.Registers relay id link → link.chain = name →
        ∃ account, s.HasAccount name (id.pushChain relay.source) account)
    (ok : input.exec relay s = .ok (s', u)) : Unreported relay name id s' := by
  obtain ⟨unknown, noReport⟩ := unreported
  -- the state of one packet changes
  have moved {k : Nat} {packet : Packet} {stage : Stage}
      (quiet : ∀ link response, packet.Registers relay id link → link.chain = name →
        stage ≠ .Executed (.Execute (.Success response))) :
      ∀ k' packet' link response, packet'.Registers relay id link → link.chain = name →
        (s.packets.insert k (packet, stage)).lookup k' ≠
          some (packet', .Executed (.Execute (.Success response))) := by
    intro k' packet' link response registers here found
    rcases lookup_insert_cases found with ⟨_, same⟩ | ⟨_, before⟩
    · obtain ⟨rfl, isStage⟩ := Prod.mk.inj same
      exact quiet link response registers here isStage.symm
    · exact noReport k' packet' link response registers here before
  cases input with
  | call chain info msg ids =>
    simp only [Input.exec, bind_eq_ok, ensure_eq_ok, mapError_eq_ok, pure_eq_ok, Prod.mk.injEq] at ok
    obtain ⟨_, genuine, ⟨client, subs⟩, executed, packets, departed, rfl, _⟩ := ok
    refine ⟨?_, ?_⟩
    · cases connects_of_execute executed (agrees.not_callback genuine executed) with
      | keeps same =>
        dsimp only
        rw [same.1]
        exact unknown
      | registers | removes => exact unknown
    · intro k packet link response registers here found
      rcases depart_cases departed found with before | ⟨_, _, _, _, isSent⟩
      · exact noReport k packet link response registers here before
      · cases isSent
  | reply chain id' result =>
    simp only [Input.exec, bind_eq_ok, mapError_eq_ok, pure_eq_ok, Prod.mk.injEq] at ok
    obtain ⟨⟨client, _⟩, replied, rfl, _⟩ := ok
    exact ⟨(congrArg _ (sameTables_reply replied).1).trans unknown, noReport⟩
  | lifecycle msg =>
    simp only [Input.exec, bind_eq_ok, mapError_eq_ok, pure_eq_ok, Prod.mk.injEq] at ok
    obtain ⟨⟨client, _⟩, called, rfl, _⟩ := ok
    exact ⟨(congrArg _ (sameTables_sudo called).1).trans unknown, noReport⟩
  | arrive k arrival =>
    simp only [Input.exec, bind_eq_ok, okOr_eq_ok] at ok
    obtain ⟨packet, isSent, link, isLink, ok⟩ := ok
    split at ok
    · cases ok
    · rename_i msgs callback timeout isMsg
      simp only [bind_eq_ok, pure_eq_ok, Prod.mk.injEq] at ok
      obtain ⟨⟨c, responses⟩, done, rfl, _⟩ := ok
      refine ⟨unknown, moved ?_⟩
      rintro link' response registers rfl _
      -- the host refuses an account that is there
      obtain ⟨account, exists_⟩ := there k arrival packet link' rfl isSent registers rfl
      obtain ⟨_, _, _, isLink', _, _, isRegister⟩ := registers
      obtain rfl : link = link' := Option.some.inj (isLink.symm.trans isLink')
      rw [isMsg, PolytoneNoteExecuteMsg.Execute.injEq] at isRegister
      obtain ⟨rfl, _, _⟩ := isRegister
      have missing := (executeMsgs_registers
        (fun chain => agrees.proxies packet.note link chain isLink) done).1
      rw [exists_] at missing
      cases missing
  | settle k outcome =>
    simp only [Input.exec, bind_eq_ok, ensure_eq_ok, pure_eq_ok, Prod.mk.injEq] at ok
    obtain ⟨packet, _, _, ends, rfl, _⟩ := ok
    refine ⟨unknown, moved ?_⟩
    rintro link response ⟨_, _, _, _, _, _, isMsg⟩ _ isSuccess
    obtain rfl := Stage.Executed.inj isSuccess
    rw [isMsg] at ends
    cases ends
  | tell k chain =>
    simp only [Input.exec, bind_eq_ok, pure_eq_ok, Prod.mk.injEq] at ok
    obtain ⟨⟨packet, outcome⟩, isExecuted, rfl, _⟩ := ok
    have found := executed_eq_ok.mp isExecuted
    obtain ⟨client, msgs, answered⟩ : ∃ client msgs,
        relay.answer chain s.source packet outcome s.client = (client, msgs) := ⟨_, _, rfl⟩
    rw [answered]
    refine ⟨?_, moved fun _ _ _ _ isStage => by cases isStage⟩
    rcases answer_cases answered with ⟨rfl, _⟩ | ⟨request, subs, asks, _, _, called⟩
    · exact unknown
    · obtain ⟨chain', isNote, _, learns⟩ := learns_of_callback called
      cases learns with
      | @account id' response remote decoded isSuccess created =>
        obtain rfl : outcome = _ := isSuccess
        dsimp only
        rw [lookup_insert_ite]
        split
        · rename_i same
          obtain ⟨sameKey, rfl⟩ := Prod.mk.inj same
          obtain ⟨valid', link, registers⟩ := (agrees.asked k packet _ found).registers asks decoded
          obtain rfl : id = id' := AccountId.storageKey_injective valid valid' sameKey
          obtain ⟨link', isLink', here⟩ := agrees.notes _ _ isNote
          obtain rfl : link = link' := Option.some.inj (registers.isLink.symm.trans isLink')
          exact absurd found (noReport k packet link response registers here)
        · exact unknown
      | proxy | action | query => exact unknown
  | here tx =>
    simp only [Input.exec, bind_eq_ok, pure_eq_ok, Prod.mk.injEq] at ok
    obtain ⟨_, _, rfl, _⟩ := ok
    exact ⟨unknown, noReport⟩
  | there name' input =>
    simp only [Input.exec, bind_eq_ok, pure_eq_ok, Prod.mk.injEq] at ok
    obtain ⟨_, _, rfl, _⟩ := ok
    exact ⟨unknown, noReport⟩

/-- An account that comes to exist on another chain in any way but by the packet that registers
    it, such as a call of `Fund` by anyone, stays unknown to the client, and its owner can
    never send it funds without naming the receiver. -/
theorem unreported_account_stays_unknown {registry : RegistryState}
    {chains : TruncatedChainId → ChainState} {owner : MessageInfo} {inputs later : List Input}
    {input : Input} {t : Bridge} (starts : Starts registry chains)
    (right : AlongAccepted (Input.exec relay) (ConnectsRight relay) (newBridge registry owner chains)
      (inputs ++ input :: later))
    (reached : s = run (Input.exec relay) (newBridge registry owner chains) inputs)
    {name : TruncatedChainId} {id : AccountId} {account : Addr} (valid : id.trace.verify = .ok ())
    (missing : ∀ account, ¬ s.HasAccount name (id.pushChain relay.source) account)
    (ok : input.exec relay s = .ok (s', ()))
    (created : s'.HasAccount name (id.pushChain relay.source) account)
    (unregistered : ∀ k arrival packet link, input = .arrive k arrival → s.sent k = .ok packet →
      packet.Registers relay id link → link.chain ≠ name)
    (reached' : t = run (Input.exec relay) s' later) :
    t.client.accounts.lookup (id.storageKey, name) = none ∧
      ∀ (chain : SourceChain) info memo r,
        (chain.view.querier t.source).queryAccountId info.sender = .ok id →
        IbcClient.execute (relay.env chain t.source) info (.SendFunds name none memo) t.client ≠
          .ok r := by
  rw [alongAccepted_append, ← reached] at right
  obtain ⟨before, here, after⟩ := right
  rw [step_of_ok ok] at after
  have agrees : Agrees relay s := by
    rw [reached]
    exact agrees_run (starts.agrees owner) before
  have start : Agrees relay s' ∧ Unreported relay name id s' ∧
      s'.HasAccount name (id.pushChain relay.source) account := by
    refine ⟨agrees.step (here ⟨_, ok⟩) ok, ?_, created⟩
    refine Unreported.step agrees valid (.of_missing agrees valid missing) ?_ ok
    intro k arrival packet link isArrival isSent registers isChain
    exact absurd isChain (unregistered k arrival packet link isArrival isSent registers)
  have held : Agrees relay t ∧ Unreported relay name id t ∧
      t.HasAccount name (id.pushChain relay.source) account := by
    rw [reached']
    refine run_invariant_accepted (P := fun t => Agrees relay t ∧ Unreported relay name id t ∧
      t.HasAccount name (id.pushChain relay.source) account) ?_ start after
    rintro t input t' u right ⟨agrees, unreported, there⟩ ok
    exact ⟨agrees.step right ok,
      .step agrees valid unreported (fun _ _ _ _ _ _ _ _ => ⟨account, there⟩) ok,
      step_grows ok _ _ _ there⟩
  refine ⟨held.2.1.unknown, ?_⟩
  rintro chain info memo ⟨client, subs⟩ hasId sent
  simp only [IbcClient.execute, IbcClient.executeSendFunds, IbcClient.remoteAddr,
    ClientEnv.accountIdOf, bind_eq_ok, mapError_eq_ok, okOr_eq_ok, pure_eq_ok,
    Prod.mk.injEq] at sent
  obtain ⟨_, _, _, _, _, _, _, _, account, isAccount, remote, ⟨id', hasId', known⟩, _⟩ := sent
  obtain ⟨rfl, _⟩ := assertAccount_sender isAccount
  obtain rfl : id' = id := Except.ok.inj (hasId'.symm.trans hasId)
  rw [held.2.1.unknown] at known
  cases known

end Results

section Sample

attribute [local instance] accountCrates noAuthenticators

/-- The owner tries to register the account that has been funded. -/
def retrying : List Input :=
  [.call sampleSource (sampleInfo "acc") (.Register ⟨"osmosis"⟩ none []) [1],
    .arrive 1 sampleArrival, .settle 1 (.Execute (.Error "account exists")), .tell 1 sampleSource]

/-- A stranger has funded the account before its owner has registered it. -/
theorem funded_account_stays_unknown :
    (run (Input.exec sampleRelay) sampleBridge
        (connecting ++ .there ⟨"osmosis"⟩ IbcHost.fundFirst :: retrying)).client.accounts.lookup
      ((AccountId.ofLocal 0).storageKey, ⟨"osmosis"⟩) = none := by
  have key : (AccountId.ofLocal 0).pushChain sampleRelay.source = IbcHost.remoteAccount := rfl
  have unfunded : ((run (Input.exec sampleRelay) sampleBridge connecting).chains
      ⟨"osmosis"⟩).world.registry.accountAddresses.lookup IbcHost.remoteAccount.storageKey = none := by
    decide +kernel
  have funded : ((Input.exec sampleRelay (.there ⟨"osmosis"⟩ IbcHost.fundFirst)
      (run (Input.exec sampleRelay) sampleBridge connecting)).toOption.bind fun r =>
        (r.1.chains ⟨"osmosis"⟩).world.registry.accountAddresses.lookup
          IbcHost.remoteAccount.storageKey).isSome = true := by
    decide +kernel
  obtain ⟨account, isAccount⟩ := Option.isSome_iff_exists.mp funded
  obtain ⟨⟨s', u⟩, isSome, created⟩ := Option.bind_eq_some_iff.mp isAccount
  have ok := toOption_eq_some.mp isSome
  have right : AlongAccepted (Input.exec sampleRelay) (ConnectsRight sampleRelay) sampleBridge
      (connecting ++ .there ⟨"osmosis"⟩ IbcHost.fundFirst :: retrying) := by
    refine alongAccepted_append.mpr ⟨connectsRight_connecting,
      Along.accepted ⟨?_, trivial, trivial, trivial, trivial, trivial⟩⟩
    rintro chain text ⟨⟩
  have missing : ∀ other, ¬ (run (Input.exec sampleRelay) sampleBridge connecting).HasAccount
      ⟨"osmosis"⟩ ((AccountId.ofLocal 0).pushChain sampleRelay.source) other := by
    intro other there
    rw [Bridge.HasAccount, key, unfunded] at there
    cases there
  refine (unreported_account_stays_unknown starts_sample right rfl rfl missing ok created ?_ ?_).1
  · rintro k arrival packet link ⟨⟩
  · rw [run_append, run_cons, step_of_ok ok]

end Sample

end AbstractFramework.Interchain
