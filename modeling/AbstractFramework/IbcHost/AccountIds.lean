import AbstractFramework.IbcHost.Dispatch
import AbstractFramework.Lib.Hops

/-! # Accounts of modules on other chains

A module that calls a module of another chain names the account it is installed
on.  The host maps this account to one of its own chain, and the sdk computes the
same mapping on the side of the client.  Both are a hop of the path of chains in the
trace of the account.  Accounts are created by another rule, which always pushes
the source chain: so there are accounts whose path goes from a chain to the host
and back, and these are mapped to the account that the host created them for.
-/

namespace AbstractFramework.IbcHost

open AbstractFramework Fallible Account Accounts Hops

variable {client host : TruncatedChainId} {id id' : AccountId}

/-! ## Accounts of a chain -/

/-- The accounts that can be registered on a chain: the local ones, and those that stand for
    an account of another chain. -/
inductive Hosted : TruncatedChainId → AccountId → Prop where
  | created (chain : TruncatedChainId) (seq : AccountSequence) : Hosted chain (AccountId.ofLocal seq)
  | pushed (chain : TruncatedChainId) {source : TruncatedChainId} {id : AccountId}
      (hosted : Hosted source id) (valid : (id.pushChain source).trace.verifyRemote = .ok ()) :
      Hosted chain (id.pushChain source)

theorem pushChain_chains (id : AccountId) (chain : TruncatedChainId) :
    (id.pushChain chain).trace.chains = id.trace.chains ++ [chain] := by
  rw [AccountId.pushChain_eq]
  rfl

theorem pushChain_trace_ne (id : AccountId) (chain : TruncatedChainId) :
    (id.pushChain chain).trace ≠ .Remote [] := by
  simp [AccountId.pushChain_eq]

/-- A trace without chains is that of a local account. -/
theorem Hosted.trace_ne (hosted : Hosted client id) : id.trace ≠ .Remote [] := by
  cases hosted with
  | created => simp [AccountId.ofLocal]
  | @pushed _ source id _ valid => exact pushChain_trace_ne id source

/-! ## Paths -/

def traceOf (chains : List TruncatedChainId) : AccountTrace :=
  if chains = [] then .Local else .Remote chains

def AccountId.withPath (id : AccountId) (chains : List TruncatedChainId) : AccountId :=
  { id with trace := traceOf chains }

@[simp] theorem withPath_chains (id : AccountId) (chains : List TruncatedChainId) :
    (AccountId.withPath id chains).trace.chains = chains := by
  unfold AccountId.withPath traceOf
  split
  · rename_i empty
    rw [empty]
    rfl
  · rfl

theorem withPath_self (h : id.trace ≠ .Remote []) : AccountId.withPath id id.trace.chains = id := by
  obtain ⟨trace, seq⟩ := id
  cases trace with
  | Local => rfl
  | Remote chains =>
    have nonempty : chains ≠ [] := by
      rintro rfl
      exact h rfl
    simp [AccountId.withPath, traceOf, AccountTrace.chains, nonempty]

theorem withPath_trace_ne (id : AccountId) (chains : List TruncatedChainId) :
    (AccountId.withPath id chains).trace ≠ .Remote [] := by
  unfold AccountId.withPath traceOf
  split
  · simp
  · rename_i nonempty
    simpa using nonempty

theorem withPath_withPath (id : AccountId) (chains chains' : List TruncatedChainId) :
    AccountId.withPath (AccountId.withPath id chains) chains' = AccountId.withPath id chains' := rfl

/-- The host hops from the client to itself. -/
theorem clientToHostModuleAccountId_eq [Crates] [Xion] (env : HostEnv) (remoteChain : TruncatedChainId)
    (h : id.trace ≠ .Remote []) :
    clientToHostModuleAccountId env remoteChain id =
      .ok (AccountId.withPath id (hop remoteChain env.chainName id.trace.chains)) := by
  obtain ⟨trace, seq⟩ := id
  cases trace with
  | Local => rfl
  | Remote chains =>
    obtain ⟨last, ends⟩ : ∃ last, chains.getLast? = some last := by
      cases found : chains.getLast? with
      | none =>
        rw [List.getLast?_eq_none_iff.mp found] at h
        exact absurd rfl h
      | some last => exact ⟨last, rfl⟩
    simp only [clientToHostModuleAccountId, AccountId.withPath, hop, AccountTrace.chains, ends, okOr,
      traceOf, Option.some.injEq]
    by_cases here : env.chainName = last
    · simp [here, bind, Except.bind, pure, Except.pure]
    · simp [here, Ne.symm here, bind, Except.bind, pure, Except.pure]

theorem intoRemoteAccountId_eq (id : AccountId) (client host : TruncatedChainId) :
    id.intoRemoteAccountId client host =
      AccountId.withPath id (hop client host id.trace.chains) := by
  obtain ⟨trace, seq⟩ := id
  cases trace with
  | Local => rfl
  | Remote chains =>
    unfold AccountId.intoRemoteAccountId AccountId.withPath hop traceOf AccountTrace.chains
    by_cases here : chains.getLast? = some host
    · simp [here]
    · simp [here]

/-! ## There and back -/

/-- The account that the host creates for one of its accounts which the client created. -/
def bounced (client host : TruncatedChainId) (origin : AccountId) : AccountId :=
  (origin.pushChain client).pushChain host

theorem bounced_chains (origin : AccountId) :
    (bounced client host origin).trace.chains = origin.trace.chains ++ [client, host] := by
  simp [bounced, pushChain_chains]

/-- Accounts are the same when their sequences and their paths are. -/
theorem eq_of_chains (h : id.trace ≠ .Remote []) (h' : id'.trace ≠ .Remote []) (seq : id.seq = id'.seq)
    (chains : id.trace.chains = id'.trace.chains) : id = id' := by
  rw [← withPath_self h, ← withPath_self h', chains]
  unfold AccountId.withPath
  rw [seq]

theorem eq_bounced_iff (h : id.trace ≠ .Remote []) {origin : AccountId} :
    id = bounced client host origin ↔
      id.seq = origin.seq ∧ id.trace.chains = origin.trace.chains ++ [client, host] := by
  constructor
  · rintro rfl
    exact ⟨rfl, bounced_chains origin⟩
  · rintro ⟨seq, chains⟩
    exact eq_of_chains h (pushChain_trace_ne _ _) seq (chains.trans (bounced_chains origin).symm)

/-- The path of an account ends in the client and the host when the host created it for an
    account that the client created. -/
theorem suffix_iff_bounced (h : id.trace ≠ .Remote []) :
    [client, host] <:+ id.trace.chains ↔ ∃ origin, id = bounced client host origin := by
  constructor
  · rintro ⟨front, ends⟩
    refine ⟨AccountId.withPath id front, (eq_bounced_iff h).mpr ⟨rfl, ?_⟩⟩
    rw [withPath_chains, ends]
  · rintro ⟨origin, rfl⟩
    exact ⟨origin.trace.chains, (bounced_chains origin).symm⟩

section Mapping

variable [Crates] [Xion]

/-- For every account of a chain and every host: the host and the sdk map the account to the
    same account of the host.  From there it is mapped back to itself, unless the host
    created it for an account that the chain created, and then it is mapped back to the
    account at the start of this way.  Two accounts are mapped to the same account only if
    one of them is the other one sent to the host and back. -/
theorem module_account_ids_map_back {clientEnv : HostEnv} (hostEnv : HostEnv)
    (hosted : Hosted clientEnv.chainName id) :
    clientToHostModuleAccountId hostEnv clientEnv.chainName id =
        .ok (id.intoRemoteAccountId clientEnv.chainName hostEnv.chainName) ∧
      (clientToHostModuleAccountId clientEnv hostEnv.chainName
          (id.intoRemoteAccountId clientEnv.chainName hostEnv.chainName) = .ok id ↔
        ∀ origin, id ≠ bounced clientEnv.chainName hostEnv.chainName origin) ∧
      (∀ origin : AccountId, origin.trace ≠ .Remote [] →
        id = bounced clientEnv.chainName hostEnv.chainName origin →
        clientToHostModuleAccountId clientEnv hostEnv.chainName
          (id.intoRemoteAccountId clientEnv.chainName hostEnv.chainName) = .ok origin) ∧
      ∀ other, Hosted clientEnv.chainName other →
        other.intoRemoteAccountId clientEnv.chainName hostEnv.chainName =
          id.intoRemoteAccountId clientEnv.chainName hostEnv.chainName →
        other = id ∨ other = bounced clientEnv.chainName hostEnv.chainName id ∨
          id = bounced clientEnv.chainName hostEnv.chainName other := by
  have back : clientToHostModuleAccountId clientEnv hostEnv.chainName
      (id.intoRemoteAccountId clientEnv.chainName hostEnv.chainName) =
        .ok (AccountId.withPath id (hop hostEnv.chainName clientEnv.chainName
          (hop clientEnv.chainName hostEnv.chainName id.trace.chains))) := by
    rw [intoRemoteAccountId_eq, clientToHostModuleAccountId_eq _ _ (withPath_trace_ne _ _),
      withPath_chains, withPath_withPath]
  refine ⟨?_, ?_, ?_, ?_⟩
  · rw [clientToHostModuleAccountId_eq _ _ hosted.trace_ne, intoRemoteAccountId_eq]
  · rw [back, Except.ok.injEq, ← not_exists, ← suffix_iff_bounced hosted.trace_ne, ← hop_hop_iff]
    constructor
    · intro same
      have := congrArg (fun id => id.trace.chains) same
      simpa using this
    · intro same
      rw [same, withPath_self hosted.trace_ne]
  · intro origin hasTrace isBounced
    obtain ⟨seq, chains⟩ := (eq_bounced_iff hosted.trace_ne).mp isBounced
    rw [back, chains, hop_hop_append, Except.ok.injEq]
    exact eq_of_chains (withPath_trace_ne _ _) hasTrace seq (withPath_chains _ _)
  · intro other isHosted same
    rw [intoRemoteAccountId_eq, intoRemoteAccountId_eq] at same
    have seq : other.seq = id.seq := congrArg (·.seq) same
    have paths := congrArg (fun id => id.trace.chains) same
    simp only [withPath_chains] at paths
    rcases hop_eq paths with chains | chains | chains
    · exact .inl (eq_of_chains isHosted.trace_ne hosted.trace_ne seq chains)
    · exact .inr (.inl ((eq_bounced_iff isHosted.trace_ne).mpr ⟨seq, chains⟩))
    · exact .inr (.inr ((eq_bounced_iff hosted.trace_ne).mpr ⟨seq.symm, chains⟩))

end Mapping

section Sample

attribute [local instance] accountCrates noAuthenticators

def osmosisEnv : HostEnv := sampleHostChain.env sampleHost newHost.world

def junoEnv : HostEnv := { osmosisEnv with chainName := ⟨"juno"⟩ }

/-- The account on juno that osmosis creates for the account which stands there for the
    first local account of juno. -/
def returned : AccountId := bounced ⟨"juno"⟩ ⟨"osmosis"⟩ (.ofLocal 0)

theorem hosted_returned : Hosted ⟨"juno"⟩ returned :=
  .pushed _ (.pushed _ (.created _ 0) rfl) rfl

/-- On juno, the local account and the returned one are both mapped to the account of the
    local one on osmosis, and back to the local one. -/
theorem returned_meets_local :
    Hosted junoEnv.chainName returned ∧ Hosted junoEnv.chainName (.ofLocal 0) ∧
      returned ≠ .ofLocal 0 ∧
      clientToHostModuleAccountId osmosisEnv junoEnv.chainName returned =
        clientToHostModuleAccountId osmosisEnv junoEnv.chainName (.ofLocal 0) ∧
      clientToHostModuleAccountId osmosisEnv junoEnv.chainName returned = .ok remoteAccount ∧
      clientToHostModuleAccountId junoEnv osmosisEnv.chainName remoteAccount = .ok (.ofLocal 0) :=
  ⟨hosted_returned, .created _ 0, by decide, rfl, rfl, rfl⟩

theorem module_account_ids_map_back_remote :
    clientToHostModuleAccountId osmosisEnv ⟨"juno"⟩ ((AccountId.ofLocal 3).pushChain ⟨"osmosis"⟩) =
        .ok (.ofLocal 3) ∧
      clientToHostModuleAccountId junoEnv ⟨"osmosis"⟩ (.ofLocal 3) =
        .ok ((AccountId.ofLocal 3).pushChain ⟨"osmosis"⟩) := by
  have hosted : Hosted junoEnv.chainName ((AccountId.ofLocal 3).pushChain ⟨"osmosis"⟩) :=
    .pushed _ (.created _ 3) rfl
  obtain ⟨there, back, _⟩ := module_account_ids_map_back osmosisEnv hosted
  refine ⟨there, back.mpr ?_⟩
  intro origin isBounced
  have chains := ((eq_bounced_iff hosted.trace_ne).mp isBounced).2
  have length : 1 = (origin.trace.chains ++ [junoEnv.chainName, osmosisEnv.chainName]).length :=
    congrArg List.length chains
  simp at length

end Sample

end AbstractFramework.IbcHost
