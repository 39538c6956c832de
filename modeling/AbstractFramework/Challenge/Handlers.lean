import AbstractFramework.Challenge.Commands

/-! # What the calls of the challenge app do

`Did` has one case for each message: what a call that succeeds has checked and what it
has written.  The results about the app are by cases on it.
-/

namespace AbstractFramework.Challenge

open AbstractFramework Fallible Storage Effects Voting

variable {s s' : ChallengeState} {deps : AppDeps} {info : MessageInfo} {c : Call} {r : Response}
  {challengeId : Nat} {proposalId : ProposalId}

@[simp] theorem voting_eq_ok {α : Type} {x : VoteResult α} {a : α} :
    voting x s = .ok (s', a) ↔
      ∃ store, call x s.simpleVoting = (.ok a, store) ∧ s' = { s with simpleVoting := store } := by
  unfold voting
  cases call x s.simpleVoting with
  | mk result store =>
    cases result with
    | ok a' =>
      constructor
      · intro done
        obtain ⟨rfl, rfl⟩ := Prod.mk.inj (Except.ok.inj done)
        exact ⟨store, rfl, rfl⟩
      · rintro ⟨store', found, rfl⟩
        obtain ⟨same, rfl⟩ := Prod.mk.inj found
        rw [Except.ok.inj same]
    | error e => cases e <;> simp

theorem assertAdmin_eq_ok {u : Unit} :
    assertAdmin deps info = .ok u ↔ deps.assertAdmin info.sender = .ok u := by
  simp [assertAdmin]

/-- How a proposal is found that is open for votes. -/
inductive Opened (deps : AppDeps) (challengeId : Nat) (s : ChallengeState) :
    ChallengeState → ProposalId → Prop where
  | active {proposalId : ProposalId} {proposal : ProposalInfo}
      (last : lastProposal challengeId s = some proposalId)
      (load : loadProposal deps.block proposalId s.simpleVoting = .ok proposal)
      (active : proposal.status = .Active) : Opened deps challengeId s s proposalId
  | created {challenge : ChallengeEntry} {friends : List (Friend Addr)} {endTimestamp : Timestamp}
      {voters : Slice Addr} {proposalId : ProposalId} {store : VotingStore}
      (known : s.challenges.lookup challengeId = some challenge)
      (running : deps.block.time < challenge.endTimestamp)
      (closed : ∀ last, lastProposal challengeId s = some last →
        ∃ proposal, loadProposal deps.block last s.simpleVoting = .ok proposal ∧
          proposal.status ≠ .Active)
      (listed : s.challengeFriends.lookup challengeId = some friends)
      (addrs : friends.mapM (Friend.addr deps) = .ok voters.elems)
      (new : call (newProposal endTimestamp voters) s.simpleVoting = (.ok proposalId, store)) :
      Opened deps challengeId s { s with
        simpleVoting := store
        challengeProposals := s.challengeProposals.insert (challengeId, proposalId) () } proposalId

theorem createProposal_ok {challenge : ChallengeEntry}
    (known : s.challenges.lookup challengeId = some challenge)
    (closed : ∀ last, lastProposal challengeId s = some last →
      ∃ proposal, loadProposal deps.block last s.simpleVoting = .ok proposal ∧
        proposal.status ≠ .Active)
    (h : createProposal deps challengeId challenge s = .ok (s', proposalId)) :
    Opened deps challengeId s s' proposalId := by
  simp only [createProposal, bind_eq_ok, ensure_eq_ok, okOr_eq_ok] at h
  obtain ⟨_, running, friends, listed, addrs, validated, endTimestamp, -, h⟩ := h
  split at h
  · rename_i fits
    simp only [bind_eq_ok, pure_eq_ok, Prod.exists, voting_eq_ok, Prod.mk.injEq] at h
    obtain ⟨_, _, ⟨store, new, rfl⟩, rfl, rfl⟩ := h
    have validated : friends.mapM (Friend.addr deps) = .ok (Slice.elems ⟨addrs, fits⟩) := validated
    exact .created known running closed listed validated new
  · cases h

theorem getOrCreateActiveProposal_ok
    (h : getOrCreateActiveProposal deps challengeId s = .ok (s', proposalId)) :
    Opened deps challengeId s s' proposalId := by
  simp only [getOrCreateActiveProposal, loadChallenge, bind_eq_ok, okOr_eq_ok] at h
  obtain ⟨challenge, known, active, found, h⟩ := h
  cases last : lastProposal challengeId s with
  | none =>
    rw [last] at found
    obtain rfl := Except.ok.inj found
    exact createProposal_ok known (by simp [last]) h
  | some id =>
    simp only [last, activeProposal, bind_eq_ok, pure_eq_ok, Prod.exists, voting_eq_ok,
      call_reading] at found
    obtain ⟨m, proposal, ⟨store, load, -⟩, rfl⟩ := found
    have loaded : loadProposal deps.block id s.simpleVoting = .ok proposal := (Prod.mk.inj load).1
    by_cases active : proposal.status = .Active
    · rw [if_pos active] at h
      obtain ⟨rfl, rfl⟩ := Prod.mk.inj (pure_eq_ok.mp h)
      exact .active last loaded active
    · rw [if_neg active] at h
      apply createProposal_ok known _ h
      intro last' same
      obtain rfl : id = last' := Option.some.inj (last.symm.trans same)
      exact ⟨proposal, loaded, active⟩

/-- What a call that succeeds has checked and written. -/
inductive Did (c : Call) (s : ChallengeState) : ChallengeState → Prop where
  | config (voteConfig : VoteConfig) (msg : c.msg = .UpdateConfig voteConfig) :
      Did c s { s with simpleVoting := { s.simpleVoting with voteConfig := some voteConfig } }
  | created (admin : c.deps.assertAdmin c.info.sender = .ok ()) {req : ChallengeRequest}
      (msg : c.msg = .CreateChallenge req) {id : Nat} (friends : List (Friend Addr))
      {entry : ChallengeEntry} {endTimestamp : Timestamp} (next : s.nextId = some id)
      (new : ChallengeEntry.new req endTimestamp = .ok entry) :
      Did c s { s with
        nextId := some (id + 1)
        challengeFriends := s.challengeFriends.insert (id + 1) friends
        challenges := s.challenges.insert (id + 1) entry }
  | updated (admin : c.deps.assertAdmin c.info.sender = .ok ()) {id : Nat}
      {update : ChallengeEntryUpdate} (msg : c.msg = .UpdateChallenge id update)
      {old entry : ChallengeEntry} (found : s.challenges.lookup id = some old)
      (strikes : entry.adminStrikes = old.adminStrikes) :
      Did c s { s with challenges := s.challenges.insert id entry }
  | canceled (admin : c.deps.assertAdmin c.info.sender = .ok ()) {id : Nat}
      (msg : c.msg = .CancelChallenge id) {entry : ChallengeEntry} {store : VotingStore}
      (found : s.challenges.lookup id = some entry)
      (cancel : store = s.simpleVoting ∨ ∃ last proposal, lastProposal id s = some last ∧
        call (cancelProposal c.deps.block last) s.simpleVoting = (.ok proposal, store)) :
      Did c s { s with
        simpleVoting := store
        challenges := s.challenges.insert id { entry with endTimestamp := c.deps.block.time } }
  | befriended (admin : c.deps.assertAdmin c.info.sender = .ok ()) {id : Nat}
      {friends : List (Friend String)} {opKind : UpdateFriendsOpKind}
      (msg : c.msg = .UpdateFriendsForChallenge id friends opKind) (list : List (Friend Addr))
      (known : id ∈ s.challengeFriends)
      (idle : ∀ last, lastProposal id s = some last →
        ∃ proposal, loadProposal c.deps.block last s.simpleVoting = .ok proposal ∧
          proposal.endTimestamp ≤ c.deps.block.time) :
      Did c s { s with challengeFriends := s.challengeFriends.insert id list }
  | voted {id : Nat} {vote : Vote} (msg : c.msg = .CastVote id vote) {m : ChallengeState}
      {openId : ProposalId} (opened : Opened c.deps id s m openId) {voter : Addr}
      {proposal : ProposalInfo} {store : VotingStore}
      (cast : call (Voting.castVote c.deps.block openId voter vote) m.simpleVoting =
        (.ok proposal, store)) :
      Did c s { m with simpleVoting := store }
  | counted {id : Nat} (msg : c.msg = .CountVotes id) {last : ProposalId} {proposal : ProposalInfo}
      {outcome : ProposalOutcome} {store : VotingStore} (found : lastProposal id s = some last)
      (count : call (Voting.countVotes c.deps.block last) s.simpleVoting =
        (.ok (proposal, outcome), store)) :
      Did c s { s with simpleVoting := store }
  | vetoed (admin : c.deps.assertAdmin c.info.sender = .ok ()) {id : Nat} (msg : c.msg = .Veto id)
      {last : ProposalId} {proposal : ProposalInfo} {store : VotingStore}
      (found : lastProposal id s = some last)
      (veto : call (vetoProposal c.deps.block last) s.simpleVoting = (.ok proposal, store)) :
      Did c s { s with simpleVoting := store }

theorem cancelLastProposal_ok {last : Option ProposalId}
    (h : cancelLastProposal deps s last = .ok s') :
    ∃ store, s' = { s with simpleVoting := store } ∧ (store = s.simpleVoting ∨
      ∃ proposalId proposal, last = some proposalId ∧
        call (cancelProposal deps.block proposalId) s.simpleVoting = (.ok proposal, store)) := by
  cases last with
  | none =>
    obtain rfl := Except.ok.inj h
    exact ⟨s.simpleVoting, rfl, .inl rfl⟩
  | some proposalId =>
    simp only [cancelLastProposal, bind_eq_ok, pure_eq_ok, Prod.exists, voting_eq_ok] at h
    obtain ⟨_, proposal, ⟨store, canceled, rfl⟩, rfl⟩ := h
    exact ⟨store, rfl, .inr ⟨proposalId, proposal, rfl, canceled⟩⟩

theorem assertNoRunningProposal_ok {last : Option ProposalId} {u : Unit}
    (h : assertNoRunningProposal deps s last = .ok u) :
    ∀ proposalId, last = some proposalId →
      ∃ proposal, loadProposal deps.block proposalId s.simpleVoting = .ok proposal ∧
        proposal.endTimestamp ≤ deps.block.time := by
  rintro proposalId rfl
  simp only [assertNoRunningProposal, bind_eq_ok, ensure_eq_ok, Prod.exists, voting_eq_ok,
    call_reading] at h
  obtain ⟨_, proposal, ⟨store, load, -⟩, ended⟩ := h
  exact ⟨proposal, (Prod.mk.inj load).1, ended⟩

theorem updateFriends_ok {friends : List (Friend String)} {opKind : UpdateFriendsOpKind}
    (h : updateFriendsForChallenge deps info challengeId friends opKind s = .ok (s', r)) :
    deps.assertAdmin info.sender = .ok () ∧ challengeId ∈ s.challengeFriends ∧
      assertNoRunningProposal deps s (lastProposal challengeId s) = .ok () ∧
      ∃ list, s' = { s with challengeFriends := s.challengeFriends.insert challengeId list } := by
  cases opKind with
  | Add =>
    simp only [updateFriendsForChallenge, addFriends, bind_eq_ok, pure_eq_ok, okOr_eq_ok,
      Prod.mk.injEq] at h
    obtain ⟨_, admin, _, -, _, idle, _, ⟨_, listed, _, -, _, -, _, -, rfl⟩, rfl, -⟩ := h
    exact ⟨assertAdmin_eq_ok.mp admin, mem_of_lookup listed, idle, _, rfl⟩
  | Remove =>
    simp only [updateFriendsForChallenge, removeFriends, bind_eq_ok, pure_eq_ok, okOr_eq_ok,
      Prod.mk.injEq] at h
    obtain ⟨_, admin, _, -, _, idle, _, ⟨_, listed, rfl⟩, rfl, -⟩ := h
    exact ⟨assertAdmin_eq_ok.mp admin, mem_of_lookup listed, idle, _, rfl⟩

theorem exec_eq_ok : exec c s = .ok (s', r) ↔ executeHandler c.deps c.info c.msg s = .ok (s', r) ∧
    ∀ message ∈ r.messages, c.accepts message = true := by
  simp only [exec, bind_eq_ok, mapError_eq_ok, ensure_eq_ok, pure_eq_ok, Prod.exists, Prod.mk.injEq]
  constructor
  · rintro ⟨_, _, handled, _, accepted, rfl, rfl⟩
    exact ⟨handled, accepted⟩
  · rintro ⟨handled, accepted⟩
    exact ⟨s', r, handled, (), accepted, rfl, rfl⟩

theorem executeHandler_did (h : executeHandler c.deps c.info c.msg s = .ok (s', r)) : Did c s s' := by
  unfold executeHandler at h
  cases msg : c.msg with
  | UpdateConfig newVoteConfig =>
    simp only [msg, updateVoteConfig, bind_eq_ok, pure_eq_ok, Prod.exists, voting_eq_ok, call_write,
      Prod.mk.injEq] at h
    obtain ⟨_, _, ⟨_, ⟨-, rfl⟩, rfl⟩, rfl, -⟩ := h
    exact .config newVoteConfig msg
  | CreateChallenge req =>
    simp only [msg, createChallenge, bind_eq_ok, pure_eq_ok, okOr_eq_ok, addChecked_eq_ok,
      Prod.mk.injEq] at h
    obtain ⟨_, admin, _, -, friends, -, _, -, id, next, _, ⟨-, rfl⟩, _, -, entry, new, rfl, -⟩ := h
    exact .created (assertAdmin_eq_ok.mp admin) msg _ next new
  | UpdateChallenge id update =>
    simp only [msg, updateChallenge, bind_eq_ok, pure_eq_ok, okOr_eq_ok, Prod.mk.injEq] at h
    obtain ⟨_, admin, old, found, rfl, -⟩ := h
    exact .updated (assertAdmin_eq_ok.mp admin) msg found rfl
  | CancelChallenge id =>
    simp only [msg, cancelChallenge, loadChallenge, bind_eq_ok, pure_eq_ok, okOr_eq_ok,
      Prod.mk.injEq] at h
    obtain ⟨_, admin, entry, found, _, -, m, canceled, rfl, -⟩ := h
    obtain ⟨store, rfl, cancel⟩ := cancelLastProposal_ok canceled
    exact .canceled (assertAdmin_eq_ok.mp admin) msg found cancel
  | UpdateFriendsForChallenge id friends opKind =>
    simp only [msg] at h
    obtain ⟨admin, known, idle, list, rfl⟩ := updateFriends_ok h
    exact .befriended admin msg list known (assertNoRunningProposal_ok idle)
  | CastVote id vote =>
    simp only [msg, castVote, bind_eq_ok, pure_eq_ok, Prod.exists, voting_eq_ok,
      Prod.mk.injEq] at h
    obtain ⟨m, proposalId, opened, _, -, _, _, ⟨_, cast, rfl⟩, rfl, -⟩ := h
    exact .voted msg (getOrCreateActiveProposal_ok opened) cast
  | CountVotes id =>
    simp only [msg, countVotes, bind_eq_ok, pure_eq_ok, okOr_eq_ok, Prod.exists, voting_eq_ok,
      Prod.mk.injEq] at h
    obtain ⟨_, -, last, found, _, _, _, ⟨_, count, rfl⟩, _, -, rfl, -⟩ := h
    exact .counted msg found count
  | Veto id =>
    simp only [msg, veto, bind_eq_ok, pure_eq_ok, okOr_eq_ok, Prod.exists, voting_eq_ok,
      Prod.mk.injEq] at h
    obtain ⟨last, found, _, admin, _, _, ⟨_, vetoed, rfl⟩, rfl, -⟩ := h
    exact .vetoed (assertAdmin_eq_ok.mp admin) msg found vetoed

theorem exec_did (h : exec c s = .ok (s', r)) : Did c s s' := executeHandler_did (exec_eq_ok.mp h).1

end AbstractFramework.Challenge
