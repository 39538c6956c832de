import AbstractFramework.Challenge.Strikes
import AbstractFramework.Voting.Lifecycle

/-! # Ballots

A vote that has ended waits for its count, and the penalty of a count that passes goes to
the friends that the challenge has then.  So a vote gets lost when another one is opened
before it is counted, and it is redirected when the friends are edited in between.
`Enrolled` ties the two lists of people together: the friends of a challenge are the voters
of its last proposal, as long as nobody interferes while that proposal waits.
-/

namespace AbstractFramework.Challenge

open AbstractFramework Fallible Storage Effects Voting

variable {s s' : ChallengeState} {deps : AppDeps} {c : Call} {r : Response} {challengeId : Nat}
  {proposalId : ProposalId} {accounts : AccountId → Option Addr}

/-! ## The last proposal -/

theorem lastProposal_eq_some :
    lastProposal challengeId s = some proposalId ↔
      (challengeId, proposalId) ∈ s.challengeProposals ∧
        ∀ other, (challengeId, other) ∈ s.challengeProposals → other ≤ proposalId := by
  have listed : ∀ other, other ∈
      (s.challengeProposals.keys.filter fun key => key.1 = challengeId).map Prod.snd ↔
        (challengeId, other) ∈ s.challengeProposals := by
    intro other
    simp only [List.mem_map, List.mem_filter, decide_eq_true_eq, Prod.exists, AList.mem_keys]
    constructor
    · rintro ⟨_, _, ⟨known, rfl⟩, rfl⟩
      exact known
    · intro known
      exact ⟨challengeId, other, ⟨known, rfl⟩, rfl⟩
  rw [lastProposal, List.max?_eq_some_iff]
  simp only [listed]

/-! ## What is at stake -/

/-- The last proposal of the challenge has ended and is neither counted, vetoed nor canceled. -/
def Waits (s : ChallengeState) (block : BlockInfo) (challengeId : Nat) : Prop :=
  ∃ last proposal, lastProposal challengeId s = some last ∧
    loadProposal block last s.simpleVoting = .ok proposal ∧ proposal.status ≠ .Active ∧
    ∀ outcome, proposal.status ≠ .Finished outcome

/-- While the last proposal of a challenge waits, no vote that would open another one is cast
    and the friends are not edited. -/
def Patient (s : ChallengeState) (c : Call) : Prop :=
  match c.msg with
  | .CastVote challengeId _ => ∀ entry, s.challenges.lookup challengeId = some entry →
      c.deps.block.time < entry.endTimestamp → ¬ Waits s c.deps.block challengeId
  | .UpdateFriendsForChallenge challengeId _ _ => ¬ Waits s c.deps.block challengeId
  | _ => True

/-- What the transfers of a penalty add up to. -/
def StrikeStrategy.PaidBy (strategy : StrikeStrategy) (transfers : List Transfer) (remainder : Nat) :
    Prop :=
  match strategy with
  | .Split amount => (transfers.map fun transfer => transfer.asset.amount).sum + remainder = amount
  | .PerFriend amount => ∀ transfer ∈ transfers, transfer.asset.amount = amount

/-- The penalty goes to the whitelisted voters of the last proposal, to each once. -/
def PaidToVoters (challengeId : Nat) (s : ChallengeState) (r : Response) : Prop :=
  ∃ last entry account transfers remainder, lastProposal challengeId s = some last ∧
    s.challenges.lookup challengeId = some entry ∧ r.messages = [(account, transfers)] ∧
    r.remainder = some remainder ∧ (transfers.map Transfer.recipient).Nodup ∧
    (∀ voter, voter ∈ transfers.map Transfer.recipient ↔
      (last, voter) ∈ s.simpleVoting.proposals) ∧
    entry.strikeStrategy.PaidBy transfers remainder

/-- No vote of the run is lost or redirected. -/
structure VotesKept (start : ChallengeState) (calls : List Call) : Prop where
  opened : ∀ event ∈ history start calls, ∀ challengeId proposalId previous,
    (challengeId, proposalId) ∈ (Machine.step exec event.1 event.2.1).challengeProposals →
    (challengeId, proposalId) ∉ event.1.challengeProposals →
    lastProposal challengeId event.1 = some previous →
    ∃ proposal outcome, event.1.simpleVoting.proposalsInfo.lookup previous = some proposal ∧
      proposal.status = .Finished outcome
  paid : ∀ event ∈ history start calls, ∀ challengeId, returnedPassed challengeId event = true →
    PaidToVoters challengeId event.1 event.2.2

/-- `AnsAsset::resolve`: the name service replaces the name. -/
def AnsAsset.resolve (queryAsset : String → Except String String) (asset : AnsAsset) :
    Except String Asset := do
  let info ← queryAsset asset.name
  return { info, amount := asset.amount }

/-- The call sees a part of the accounts, and assets that the name service resolves. -/
structure Agrees (accounts : AccountId → Option Addr) (c : Call) : Prop where
  account : ∀ accountId addr, c.deps.account accountId = .ok addr → accounts accountId = some addr
  resolve : ∃ queryAsset, c.deps.resolve = AnsAsset.resolve queryAsset

/-! ## Friends and voters -/

def Friend.addressIn (accounts : AccountId → Option Addr) : Friend Addr → Option Addr
  | .ByAddr address _ => some address
  | .AbstractAccount accountId => accounts accountId

theorem Friend.addr_fixed {friend : Friend Addr} {addr : Addr}
    (fixed : ∀ accountId addr, deps.account accountId = .ok addr → accounts accountId = some addr)
    (h : friend.addr deps = .ok addr) : friend.addressIn accounts = some addr := by
  cases friend with
  | ByAddr address name => exact congrArg some (Except.ok.inj h)
  | AbstractAccount accountId =>
    simp only [Friend.addr, sdk, bind_eq_ok, mapError_eq_ok] at h
    obtain ⟨_, -, found⟩ := h
    exact fixed accountId addr found

theorem Friend.map_addressIn {friends : List (Friend Addr)} {addrs : List Addr}
    (fixed : ∀ accountId addr, deps.account accountId = .ok addr → accounts accountId = some addr)
    (h : friends.mapM (Friend.addr deps) = .ok addrs) :
    friends.map (Friend.addressIn accounts) = addrs.map some := by
  have related := mapM_eq_ok.mp h
  clear h
  induction related with
  | nil => rfl
  | cons first _ ih => rw [List.map_cons, List.map_cons, Friend.addr_fixed fixed first, ih]

/-- The friends of the challenge are the voters of the proposal. -/
def Enrolled (accounts : AccountId → Option Addr) (s : ChallengeState) (challengeId : Nat)
    (proposalId : ProposalId) : Prop :=
  ∃ (friends : List (Friend Addr)) (addrs : List Addr),
    s.challengeFriends.lookup challengeId = some friends ∧
    friends.map (Friend.addressIn accounts) = addrs.map some ∧ addrs.Nodup ∧
    ∀ voter, voter ∈ addrs ↔ (proposalId, voter) ∈ s.simpleVoting.proposals

theorem Enrolled.congr (enrolled : Enrolled accounts s challengeId proposalId)
    (friends : s'.challengeFriends.lookup challengeId = s.challengeFriends.lookup challengeId)
    (voters : ∀ voter, (proposalId, voter) ∈ s'.simpleVoting.proposals ↔
      (proposalId, voter) ∈ s.simpleVoting.proposals) :
    Enrolled accounts s' challengeId proposalId := by
  obtain ⟨list, addrs, listed, same, distinct, mem⟩ := enrolled
  refine ⟨list, addrs, by rw [friends, listed], same, distinct, ?_⟩
  intro voter
  rw [mem, voters]

/-- What the app keeps, as long as everybody is patient. -/
structure Kept (accounts : AccountId → Option Addr) (s : ChallengeState) : Prop where
  tallied : Tallied s.simpleVoting
  plain : Plain s.simpleVoting
  ids : ∃ next, s.nextId = some next ∧ (∀ id ∈ s.challengeFriends, id ≤ next) ∧
    ∀ key ∈ s.challengeProposals, key.1 ≤ next
  listed : ∀ id ∈ s.challenges, id ∈ s.challengeFriends
  known : ∀ key ∈ s.challengeProposals, key.2 ∈ s.simpleVoting.proposalsInfo
  enrolled : ∀ challengeId last stored, lastProposal challengeId s = some last →
    s.simpleVoting.proposalsInfo.lookup last = some stored → stored.status = .Active →
    Enrolled accounts s challengeId last

/-! ## What operations on the votes keep -/

theorem effect_of_call {α : Type} {x : VoteResult α} {block : BlockInfo} {store store' : VotingStore}
    {a : α} (op : VoteOp) (isOp : Voting.exec block op = (x >>= fun _ => pure ()))
    (h : call x store = (.ok a, store')) : Effect block store store' := by
  have effect : Effect block store (call (Voting.exec block op) store).2 := exec_effect op
  rwa [isOp, call_forget, h] at effect

/-- A proposal that is open after an operation was open before it, if it was there, and has
    the same voters. -/
theorem active_before {block : BlockInfo} {store store' : VotingStore} {stored' : ProposalInfo}
    (tallied : Tallied store) (effect : Effect block store store')
    (known : proposalId ∈ store.proposalsInfo)
    (found : store'.proposalsInfo.lookup proposalId = some stored') (active : stored'.status = .Active) :
    (∃ stored, store.proposalsInfo.lookup proposalId = some stored ∧ stored.status = .Active) ∧
      ∀ voter, (proposalId, voter) ∈ store'.proposals ↔ (proposalId, voter) ∈ store.proposals := by
  cases effect with
  | kept proposals infos ids =>
    exact ⟨⟨stored', infos ▸ found, active⟩, fun voter => by rw [proposals]⟩
  | opened id config endTimestamp initialVoters next distinct =>
    obtain ⟨last, next', ids, -⟩ := tallied.ids
    obtain rfl : id = last := Option.some.inj (next.symm.trans next')
    have other : proposalId ≠ id + 1 := Nat.ne_of_lt (Nat.lt_succ_of_le (ids proposalId known))
    rcases lookup_insert_cases found with ⟨here, _⟩ | ⟨_, found⟩
    · exact absurd here other
    · refine ⟨⟨stored', found, active⟩, fun voter => ?_⟩
      rw [mem_insertAll, List.map_map]
      constructor
      · rintro (added | before)
        · obtain ⟨_, -, same⟩ := List.mem_map.mp added
          exact absurd (Prod.mk.inj same).1.symm other
        · exact before
      · exact .inr
  | voted id voter vote stored info previousVote found' active' whitelisted update =>
    have voters : ∀ v, (proposalId, v) ∈ store.proposals.insert (id, voter) (some vote) ↔
        (proposalId, v) ∈ store.proposals := by
      intro v
      rw [AList.mem_insert]
      constructor
      · rintro (same | before)
        · rw [same]
          exact mem_of_lookup whitelisted
        · exact before
      · exact .inr
    rcases lookup_insert_cases found with ⟨rfl, _⟩ | ⟨_, found⟩
    · exact ⟨⟨stored, found', active'⟩, voters⟩
    · exact ⟨⟨stored', found, active⟩, voters⟩
  | finished id stored outcome endTimestamp found' unfinished =>
    rcases lookup_insert_cases found with ⟨_, rfl⟩ | ⟨_, found⟩
    · cases active
    · exact ⟨⟨stored', found, active⟩, fun _ => Iff.rfl⟩

theorem mem_of_effect {block : BlockInfo} {store store' : VotingStore}
    (effect : Effect block store store') (known : proposalId ∈ store.proposalsInfo) :
    proposalId ∈ store'.proposalsInfo := by
  cases effect with
  | kept proposals infos ids => rw [infos]; exact known
  | opened | voted | finished => exact (AList.mem_insert _).mpr (.inr known)

/-- An operation on the votes that opens no proposal of a challenge. -/
theorem Kept.effect {block : BlockInfo} (kept : Kept accounts s)
    (effect : Effect block s.simpleVoting s'.simpleVoting) (next : s'.nextId = s.nextId)
    (friends : s'.challengeFriends = s.challengeFriends)
    (proposals : s'.challengeProposals = s.challengeProposals)
    (challenges : ∀ id ∈ s'.challenges, id ∈ s.challenges) : Kept accounts s' where
  tallied := kept.tallied.effect effect
  plain := kept.plain.effect effect
  ids := by
    rw [next, friends, proposals]
    exact kept.ids
  listed id known := by
    rw [friends]
    exact kept.listed id (challenges id known)
  known key mem := by
    rw [proposals] at mem
    exact mem_of_effect effect (kept.known key mem)
  enrolled challengeId last stored isLast found active := by
    have isLast : lastProposal challengeId s = some last := by
      rw [← isLast, lastProposal, lastProposal, proposals]
    have known := kept.known _ (lastProposal_eq_some.mp isLast).1
    obtain ⟨⟨before, found', active'⟩, voters⟩ :=
      active_before kept.tallied effect known found active
    exact (kept.enrolled challengeId last before isLast found' active').congr (by rw [friends]) voters

/-! ## What calls keep -/

/-- Opening a proposal, when the last one does not wait. -/
theorem Kept.opened (kept : Kept accounts s) (agrees : Agrees accounts c)
    (patient : ∀ entry, s.challenges.lookup challengeId = some entry →
      c.deps.block.time < entry.endTimestamp → ¬ Waits s c.deps.block challengeId)
    (opened : Opened c.deps challengeId s s' proposalId) : Kept accounts s' := by
  cases opened with
  | active => exact kept
  | @created challenge friends endTimestamp voters _ store known running closed listed addrs new =>
    have effect : Effect c.deps.block s.simpleVoting store :=
      effect_of_call (.NewProposal endTimestamp voters) rfl new
    obtain ⟨id, config, next, rfl, -, -, distinct, rfl⟩ := newProposal_ok new
    have same : friends.map (Friend.addressIn accounts) = voters.elems.map some :=
      Friend.map_addressIn agrees.account addrs
    obtain ⟨last, next', ids, keys⟩ := kept.tallied.ids
    obtain rfl : id = last := Option.some.inj (next.symm.trans next')
    obtain ⟨top, nextId, bounded, proposals⟩ := kept.ids
    refine ⟨kept.tallied.effect effect, kept.plain.effect effect, ?_, kept.listed, ?_, ?_⟩
    · refine ⟨top, nextId, bounded, forall_mem_insert _ ?_ proposals⟩
      exact bounded challengeId (kept.listed challengeId (mem_of_lookup known))
    · apply forall_mem_insert
      · exact (AList.mem_insert _).mpr (.inl rfl)
      · exact fun key mem => mem_of_effect effect (kept.known key mem)
    · intro challengeId' last' stored isLast found active
      obtain ⟨mem, greatest⟩ := lastProposal_eq_some.mp isLast
      rcases (AList.mem_insert _).mp mem with here | before
      · -- the new proposal: its voters are the friends
        obtain ⟨rfl, rfl⟩ := Prod.mk.inj here
        refine ⟨friends, voters.elems, listed, same, distinct, ?_⟩
        intro voter
        rw [mem_insertAll, List.map_map]
        constructor
        · exact fun mem => .inl (List.mem_map.mpr ⟨voter, mem, rfl⟩)
        · rintro (added | before)
          · obtain ⟨voter', mem, same⟩ := List.mem_map.mp added
            rw [← (Prod.mk.inj same).2]
            exact mem
          · exact absurd (keys _ before) (Nat.not_succ_le_self id)
      · have known' := kept.known _ before
        have isLast' : lastProposal challengeId' s = some last' :=
          lastProposal_eq_some.mpr ⟨before, fun other mem =>
            greatest other ((AList.mem_insert _).mpr (.inr mem))⟩
        obtain ⟨⟨old, found', active'⟩, same⟩ :=
          active_before kept.tallied effect known' found active
        exact (kept.enrolled challengeId' last' old isLast' found' active').congr rfl same

/-- An open proposal that has ended waits. -/
theorem waits_of_ended {stored proposal : ProposalInfo} {last : ProposalId} {block : BlockInfo}
    (isLast : lastProposal challengeId s = some last)
    (found : s.simpleVoting.proposalsInfo.lookup last = some stored) (active : stored.status = .Active)
    (load : loadProposal block last s.simpleVoting = .ok proposal)
    (ended : proposal.status ≠ .Active ∨ proposal.endTimestamp ≤ block.time) :
    Waits s block challengeId := by
  obtain ⟨stored', found', loaded⟩ := loadProposal_eq_ok.mp load
  obtain rfl : stored = stored' := Option.some.inj (found.symm.trans found')
  have closed : proposal.status ≠ .Active := by
    intro status
    obtain ⟨rfl, -, running⟩ := loaded.active_iff status
    rcases ended with other | ended
    · exact other status
    · exact absurd ended (Nat.not_le_of_lt running)
  refine ⟨last, proposal, isLast, load, closed, fun outcome finished => ?_⟩
  rw [loaded.finished_iff, active] at finished
  cases finished

theorem Kept.did (kept : Kept accounts s) (agrees : Agrees accounts c) (patient : Patient s c)
    (did : Did c s s') : Kept accounts s' := by
  cases did with
  | config voteConfig msg =>
    have same : Effect c.deps.block s.simpleVoting
        { s.simpleVoting with voteConfig := some voteConfig } :=
      .kept rfl rfl fun id next => ⟨id, next, Nat.le_refl id⟩
    exact kept.effect same rfl rfl rfl fun _ known => known
  | @created admin req msg id friends entry endTimestamp next new =>
    obtain ⟨top, nextId, bounded, proposals⟩ := kept.ids
    obtain rfl : id = top := Option.some.inj (next.symm.trans nextId)
    refine ⟨kept.tallied, kept.plain, ⟨id + 1, rfl, ?_, ?_⟩, ?_, kept.known, ?_⟩
    · exact forall_mem_insert _ (Nat.le_refl _) fun id' known => Nat.le_succ_of_le (bounded id' known)
    · exact fun key mem => Nat.le_succ_of_le (proposals key mem)
    · apply forall_mem_insert
      · exact (AList.mem_insert _).mpr (.inl rfl)
      · exact fun id' known => (AList.mem_insert _).mpr (.inr (kept.listed id' known))
    · intro challengeId last stored isLast found active
      have old : challengeId ≠ id + 1 := by
        have le : challengeId ≤ id := proposals _ (lastProposal_eq_some.mp isLast).1
        exact Nat.ne_of_lt (Nat.lt_succ_of_le le)
      exact (kept.enrolled challengeId last stored isLast found active).congr
        (AList.lookup_insert_ne old) fun _ => Iff.rfl
  | updated admin msg found strikes =>
    exact kept.effect (.refl : Effect c.deps.block _ _) rfl rfl rfl
      (forall_mem_insert _ (mem_of_lookup found) fun _ known => known)
  | @canceled admin id msg entry store found cancel =>
    have challenges : ∀ id' ∈ s.challenges.insert id
        { entry with endTimestamp := c.deps.block.time }, id' ∈ s.challenges :=
      forall_mem_insert _ (mem_of_lookup found) fun _ known => known
    rcases cancel with rfl | ⟨last, proposal, -, cancel⟩
    · exact kept.effect (.refl : Effect c.deps.block _ _) rfl rfl rfl challenges
    · exact kept.effect (effect_of_call (.CancelProposal last) rfl cancel) rfl rfl rfl challenges
  | @befriended admin id friends opKind msg list known idle =>
    have waiting : ¬ Waits s c.deps.block id := by
      unfold Patient at patient
      rwa [msg] at patient
    obtain ⟨top, nextId, bounded, proposals⟩ := kept.ids
    refine ⟨kept.tallied, kept.plain, ⟨top, nextId, ?_, proposals⟩, ?_, kept.known, ?_⟩
    · exact forall_mem_insert _ (bounded id known) bounded
    · exact fun id' listed => (AList.mem_insert _).mpr (.inr (kept.listed id' listed))
    · intro challengeId last stored isLast found active
      by_cases here : challengeId = id
      · subst here
        obtain ⟨proposal, load, ended⟩ := idle last isLast
        exact absurd (waits_of_ended isLast found active load (.inr ended)) waiting
      · exact (kept.enrolled challengeId last stored isLast found active).congr
          (AList.lookup_insert_ne here) fun _ => Iff.rfl
  | @voted id vote msg m openId opened voter proposal store cast =>
    have patient' := patient
    unfold Patient at patient'
    rw [msg] at patient'
    exact (kept.opened agrees patient' opened).effect
      (effect_of_call (.CastVote openId voter vote) rfl cast) rfl rfl rfl fun _ known => known
  | @counted id msg last proposal outcome store found count =>
    exact kept.effect (effect_of_call (.CountVotes last) rfl count) rfl rfl rfl fun _ known => known
  | @vetoed admin id msg last proposal store found veto =>
    exact kept.effect (effect_of_call (.VetoProposal last) rfl veto) rfl rfl rfl fun _ known => known

theorem kept_instantiate {config : VoteConfig} (h : instantiateHandler config .empty = .ok s) :
    Kept accounts s := by
  simp only [instantiateHandler, bind_eq_ok, pure_eq_ok, Prod.exists, voting_eq_ok] at h
  obtain ⟨_, _, ⟨store, created, rfl⟩, rfl⟩ := h
  refine ⟨tallied_instantiate created, plain_instantiate created, ⟨0, rfl, ?_, ?_⟩, ?_, ?_, ?_⟩
  · intro id listed
    cases listed
  · intro key listed
    cases listed
  · intro id listed
    cases listed
  · intro key listed
    cases listed
  · intro challengeId last stored isLast
    cases isLast

/-- Only a vote opens a proposal, and the one before it is finished then. -/
theorem opened_of_patient {previous : ProposalId} (plain : Plain s.simpleVoting)
    (patient : Patient s c) (did : Did c s s')
    (after : (challengeId, proposalId) ∈ s'.challengeProposals)
    (before : (challengeId, proposalId) ∉ s.challengeProposals)
    (isLast : lastProposal challengeId s = some previous) :
    ∃ proposal outcome, s.simpleVoting.proposalsInfo.lookup previous = some proposal ∧
      proposal.status = .Finished outcome := by
  cases did with
  | voted msg opened cast =>
    unfold Patient at patient
    rw [msg] at patient
    cases opened with
    | active => exact absurd after before
    | created known running closed listed addrs new =>
      obtain ⟨rfl, rfl⟩ := Prod.mk.inj (((AList.mem_insert _).mp after).resolve_right before)
      obtain ⟨proposal, load, status⟩ := closed previous isLast
      obtain ⟨stored, found, loaded⟩ := loadProposal_eq_ok.mp load
      rcases plain previous stored found with active | isFinished
      · exact absurd (waits_of_ended isLast found active load (.inl status))
          (patient _ known running)
      · obtain ⟨outcome, finished⟩ := ProposalStatus.isFinished_iff.mp isFinished
        exact ⟨stored, outcome, found, finished⟩
  | config | created | updated | canceled | befriended | counted | vetoed =>
    exact absurd after before

/-! ## Penalties -/

/-- The transfers of a penalty, one for every friend. -/
theorem transfers_of_friends {asset : AnsAsset} {friends : List (Friend Addr)}
    {transfers : List Transfer} (agrees : Agrees accounts c)
    (h : friends.mapM (transferTo c.deps asset) = .ok transfers) :
    friends.map (Friend.addressIn accounts) = (transfers.map Transfer.recipient).map some ∧
      transfers.length = friends.length ∧
      ∀ transfer ∈ transfers, transfer.asset.amount = asset.amount := by
  obtain ⟨queryAsset, resolves⟩ := agrees.resolve
  have related := mapM_eq_ok.mp h
  clear h
  induction related with
  | nil => simp
  | @cons friend transfer friends transfers first _ ih =>
    simp only [transferTo, sdk, resolves, AnsAsset.resolve, bind_eq_ok, pure_eq_ok,
      mapError_eq_ok] at first
    obtain ⟨recipient, found, _, ⟨info, -, rfl⟩, rfl⟩ := first
    obtain ⟨same, length, amounts⟩ := ih
    refine ⟨?_, by simp [length], ?_⟩
    · rw [List.map_cons, List.map_cons, List.map_cons, Friend.addr_fixed agrees.account found, same]
    · exact List.forall_mem_cons.mpr ⟨rfl, amounts⟩

theorem sum_of_all {transfers : List Transfer} {amount : Nat}
    (all : ∀ transfer ∈ transfers, transfer.asset.amount = amount) :
    (transfers.map fun transfer => transfer.asset.amount).sum = transfers.length * amount := by
  induction transfers with
  | nil => simp
  | cons transfer transfers ih =>
    obtain ⟨here, rest⟩ := List.forall_mem_cons.mp all
    rw [List.map_cons, List.sum_cons, here, ih rest, List.length_cons, Nat.succ_mul, Nat.add_comm]

/-- The shares of a penalty and what is left over make up the penalty. -/
theorem paidBy_shares {strategy : StrikeStrategy} {transfers : List Transfer}
    (all : ∀ transfer ∈ transfers, transfer.asset.amount = (strategy.shares transfers.length).1) :
    strategy.PaidBy transfers (strategy.shares transfers.length).2 := by
  cases strategy with
  | Split amount =>
    show _ + amount % transfers.length = amount
    rw [sum_of_all all]
    exact Nat.div_add_mod amount transfers.length
  | PerFriend amount => exact all

theorem countVotes_paid (kept : Kept accounts s) (agrees : Agrees accounts c)
    (h : exec c s = .ok (s', r)) (msg : c.msg = .CountVotes challengeId)
    (passed : r.proposalInfo.map ProposalInfo.status = some (.Finished .Passed)) :
    PaidToVoters challengeId s r := by
  have h := (exec_eq_ok.mp h).1
  simp only [executeHandler, msg, countVotes, loadChallenge, tryFinishChallenge, bind_eq_ok,
    pure_eq_ok, Prod.exists, voting_eq_ok, okOr_eq_ok, Prod.mk.injEq] at h
  obtain ⟨entry, found, last, isLast, _, counted, outcome, ⟨store, count, rfl⟩, _,
    ⟨friends, listed, strikes, finished, struck, answer, answered, rfl⟩, rfl, rfl⟩ := h
  obtain ⟨stored, loaded, storedAt, seen, waiting, -, rfl, -⟩ := countVotes_ok count
  obtain rfl : outcome = .Passed := by simpa [ProposalInfo.finishVote] using passed
  rw [chargeIfPassed, if_pos rfl, chargePenalty_strikes] at answered
  simp only [chargePenalty, bind_eq_ok, pure_eq_ok] at answered
  obtain ⟨_, -, transfers, transferred, account, -, rfl⟩ := answered
  obtain ⟨same, length, amounts⟩ := transfers_of_friends agrees transferred
  -- what is waiting for its count is stored as open
  have active : stored.status = .Active := by
    rcases kept.plain last stored storedAt with active | isFinished
    · exact active
    · obtain ⟨outcome, status⟩ := ProposalStatus.isFinished_iff.mp isFinished
      rw [← seen.finished_iff, waiting] at status
      cases status
  obtain ⟨friends', addrs, listed', enrolled, distinct, voters⟩ :=
    kept.enrolled challengeId last stored isLast storedAt active
  obtain rfl : friends = friends' := Option.some.inj (listed.symm.trans listed')
  have recipients : transfers.map Transfer.recipient = addrs := by
    apply List.map_injective_iff.mpr (Option.some_injective Addr)
    rw [← same, enrolled]
  refine ⟨last, entry, account, transfers, _, isLast, found, rfl, rfl, ?_, ?_, ?_⟩
  · rw [recipients]
    exact distinct
  · rw [recipients]
    exact voters
  · rw [← length] at amounts ⊢
    exact paidBy_shares amounts

/-! ## Every run -/

/-- In every run of the app on one set of accounts: when nobody votes again or edits the friends
    while a vote waits for its count, then every vote is finished before the next one is
    opened, and every penalty goes to the voters. -/
theorem votesKept_of_patient {config : VoteConfig} {start : ChallengeState} {calls : List Call}
    (created : instantiateHandler config .empty = .ok start)
    (agree : ∀ c ∈ calls, Agrees accounts c)
    (patient : Machine.AlongAccepted exec Patient start calls) : VotesKept start calls := by
  have agrees : Machine.Along exec (fun _ c => Agrees accounts c) start calls :=
    Machine.along_of_forall agree
  have along := patient.and agrees.accepted
  have kept : ∀ event ∈ history start calls, Kept accounts event.1 := by
    intro event logged
    refine Machine.history_invariant ?_ (kept_instantiate created) along logged
    intro m c m' r held kept ok
    exact kept.did held.2 held.1 (exec_did ok)
  constructor
  · intro event logged challengeId proposalId previous after before isLast
    obtain ⟨patient, -⟩ := Machine.alongAccepted_history along logged
    obtain ⟨_, _, s', -, -, ok⟩ := Machine.of_mem_history logged
    rw [Machine.step_of_ok ok] at after
    exact opened_of_patient (kept event logged).plain patient (exec_did ok) after before isLast
  · intro event logged challengeId passed
    obtain ⟨-, agrees⟩ := Machine.alongAccepted_history along logged
    obtain ⟨_, _, s', -, -, ok⟩ := Machine.of_mem_history logged
    rw [returnedPassed, Bool.and_eq_true, decide_eq_true_eq, decide_eq_true_eq] at passed
    exact countVotes_paid (kept event logged) agrees ok (countedChallenge_eq_some.mp passed.1)
      passed.2

section Sample

/-- The friend votes again while her first vote waits for its count. -/
def votedAgain : List Call :=
  [callAt 0 "admin" (.CreateChallenge oneStrike), callAt 1 "alice" (.CastVote 1 ⟨true, none⟩),
    callAt 12 "alice" (.CastVote 1 ⟨false, none⟩)]

/-- Another friend takes the place of the one who voted, and is paid. -/
def redirected : List Call :=
  [callAt 0 "admin" (.CreateChallenge oneStrike), callAt 1 "alice" (.CastVote 1 ⟨true, none⟩),
    callAt 12 "admin" (.UpdateFriendsForChallenge 1 [.ByAddr "bob" "Bob"] .Add),
    callAt 12 "admin" (.UpdateFriendsForChallenge 1 [.ByAddr "alice" "Alice"] .Remove),
    callAt 13 "anyone" (.CountVotes 1)]

/-- The vote that is cast too early. -/
def secondVote : ChallengeState × Call × Response :=
  (history newApp votedAgain).get ⟨2, by decide +kernel⟩

/-- The count that pays the wrong friend. -/
def lateCount : ChallengeState × Call × Response :=
  (history newApp redirected).get ⟨4, by decide +kernel⟩

def paidOnce : List Call :=
  callAt 0 "admin" (.CreateChallenge oneStrike) :: voteAndCount 1 true

theorem agrees_callAt (seconds : Nat) (sender : String) (msg : ChallengeExecuteMsg) :
    Agrees (fun _ => none) (callAt seconds sender msg) where
  account _ _ found := by cases found
  resolve := ⟨Except.ok, rfl⟩

end Sample

/-- A vote is skipped without a count, and a penalty goes to a friend who was not a voter. -/
theorem not_votesKept :
    instantiateHandler majority .empty = .ok newApp ∧
      ¬ VotesKept newApp votedAgain ∧ ¬ VotesKept newApp redirected := by
  refine ⟨rfl, ?_, ?_⟩
  · intro kept
    obtain ⟨proposal, outcome, found, finished⟩ :=
      kept.opened secondVote (List.get_mem _ _) 1 2 1 (by decide +kernel) (by decide +kernel)
        (by decide +kernel)
    have active : (secondVote.1.simpleVoting.proposalsInfo.lookup 1).map ProposalInfo.status =
        some .Active := by decide +kernel
    rw [found, Option.map_some, finished] at active
    cases active
  · intro kept
    obtain ⟨last, entry, account, transfers, remainder, isLast, -, messages, -, -, voters, -⟩ :=
      kept.paid lateCount (List.get_mem _ _) 1 (by decide +kernel)
    have paid : lateCount.2.2.messages.map (fun message => message.2.map Transfer.recipient) =
        [[⟨"bob"⟩]] := by decide +kernel
    rw [messages, List.map_singleton, List.cons.injEq] at paid
    have isVoter := (voters ⟨"bob"⟩).mp (by rw [paid.1]; exact List.mem_singleton_self _)
    have first : lastProposal 1 lateCount.1 = some 1 := by decide +kernel
    obtain rfl : last = 1 := Option.some.inj (isLast.symm.trans first)
    revert isVoter
    decide +kernel

theorem votesKept_paidOnce : VotesKept newApp paidOnce := by
  have created : instantiateHandler majority .empty = .ok newApp := rfl
  have agree : ∀ c ∈ paidOnce, Agrees (fun _ => none) c := by
    intro c listed
    simp only [paidOnce, voteAndCount, List.mem_cons, List.not_mem_nil, or_false] at listed
    rcases listed with rfl | rfl | rfl <;> exact agrees_callAt _ _ _
  refine votesKept_of_patient created agree (Machine.Along.accepted ⟨trivial, ?_, trivial, trivial⟩)
  rintro entry - - ⟨last, _, isLast, -⟩
  have none : lastProposal 1 (run newApp (paidOnce.take 1)) = none := by decide +kernel
  exact absurd (none.symm.trans isLast) (by simp)

end AbstractFramework.Challenge
