import AbstractFramework.Challenge.Handlers
import AbstractFramework.Lib.Machine
import AbstractFramework.Lib.Wallet

/-! # Strikes

A vote that passes strikes the admin, and a challenge is over when the strikes
reach its limit.  The entry that is struck is a copy that is never saved: every
stored entry stays without a strike.  So the strikes are counted, and the limit is
respected, in exactly those runs in which no count passes.
-/

namespace AbstractFramework.Challenge

open AbstractFramework Fallible Storage Effects Voting

variable {s s' : ChallengeState} {deps : AppDeps} {info : MessageInfo} {c : Call} {r : Response}
  {challengeId : Nat}

/-! ## What a run leaves behind -/

def run (s : ChallengeState) (calls : List Call) : ChallengeState := Machine.run exec s calls

/-- The calls that succeeded, each with the state before it and its response. -/
def history (s : ChallengeState) (calls : List Call) : List (ChallengeState × Call × Response) :=
  Machine.history exec s calls

/-- The challenge whose votes a call counts. -/
def countedChallenge : ChallengeExecuteMsg → Option Nat
  | .CountVotes challengeId => some challengeId
  | _ => none

theorem countedChallenge_eq_some {msg : ChallengeExecuteMsg} :
    countedChallenge msg = some challengeId ↔ msg = .CountVotes challengeId := by
  cases msg <;> simp [countedChallenge]

/-- A count on the challenge that returned `Passed`. -/
def returnedPassed (challengeId : Nat) (event : ChallengeState × Call × Response) : Bool :=
  decide (countedChallenge event.2.1.msg = some challengeId) &&
    decide (event.2.2.proposalInfo.map ProposalInfo.status = some (.Finished .Passed))

/-- A call that charges the penalty of a challenge. -/
def charges (challengeId : Nat) (event : ChallengeState × Call × Response) : Prop :=
  countedChallenge event.2.1.msg = some challengeId ∧ event.2.2.messages ≠ []

/-- The strikes of every challenge are counted, and none of its penalties is charged after
    its limit was reached. -/
structure StrikesKept (start : ChallengeState) (calls : List Call) : Prop where
  counted : ∀ challengeId entry, (run start calls).challenges.lookup challengeId = some entry →
    entry.adminStrikes.numStrikes = (history start calls).countP (returnedPassed challengeId)
  bounded : ∀ challengeId, ∀ event ∈ history start calls, charges challengeId event →
    ∀ entry, event.1.challenges.lookup challengeId = some entry →
      entry.adminStrikes.numStrikes < entry.adminStrikes.limit

/-- The last proposal of the challenge is waiting for its count and has the votes it needs,
    and the penalty can be charged. -/
def Passes (s : ChallengeState) (c : Call) : Prop :=
  ∃ challengeId entry proposalId info friends, c.msg = .CountVotes challengeId ∧
    s.challenges.lookup challengeId = some entry ∧
    lastProposal challengeId s = some proposalId ∧
    loadProposal c.deps.block proposalId s.simpleVoting = .ok info ∧
    info.status = .WaitingForCount ∧ info.threshold ≤ info.votesFor ∧
    s.challengeFriends.lookup challengeId = some friends ∧
    ∃ response, chargePenalty c.deps entry friends = .ok response ∧
      ∀ message ∈ response.messages, c.accepts message = true

/-! ## What a call does -/

/-- What a call may write to the challenges: nothing, or one entry that is new and without a
    strike or has the strikes that it had. -/
inductive Written (s : ChallengeState) : ChallengeState → Prop where
  | none {s' : ChallengeState} (same : s'.challenges = s.challenges) : Written s s'
  | one {s' : ChallengeState} (challengeId : Nat) (entry : ChallengeEntry)
      (insert : s'.challenges = s.challenges.insert challengeId entry)
      (strikes : entry.adminStrikes.numStrikes = 0 ∨
        ∃ old, s.challenges.lookup challengeId = some old ∧
          entry.adminStrikes = old.adminStrikes) : Written s s'

theorem new_strikes {request : ChallengeRequest} {endTimestamp : Timestamp}
    {challenge : ChallengeEntry} (h : ChallengeEntry.new request endTimestamp = .ok challenge) :
    challenge.adminStrikes.numStrikes = 0 := by
  simp only [ChallengeEntry.new, bind_eq_ok, pure_eq_ok] at h
  obtain ⟨_, -, _, -, rfl⟩ := h
  rfl

theorem Opened.challenges {proposalId : ProposalId} (opened : Opened deps challengeId s s' proposalId) :
    s'.challenges = s.challenges := by
  cases opened <;> rfl

theorem exec_written (h : exec c s = .ok (s', r)) : Written s s' := by
  cases exec_did h with
  | created admin msg friends next new => exact .one _ _ rfl (.inl (new_strikes new))
  | updated admin msg found strikes => exact .one _ _ rfl (.inr ⟨_, found, strikes⟩)
  | canceled admin msg found cancel => exact .one _ _ rfl (.inr ⟨_, found, rfl⟩)
  | voted msg opened cast => exact .none opened.challenges
  | config | befriended | counted | vetoed => exact .none rfl

/-! ## No entry is ever struck -/

/-- Every stored entry is without a strike. -/
def Unstruck (s : ChallengeState) : Prop :=
  ∀ challengeId entry, s.challenges.lookup challengeId = some entry →
    entry.adminStrikes.numStrikes = 0

theorem Unstruck.written (unstruck : Unstruck s) (written : Written s s') : Unstruck s' := by
  intro challengeId entry found
  cases written with
  | none same => exact unstruck challengeId entry (same ▸ found)
  | one challengeId' entry' insert strikes =>
    rw [insert] at found
    rcases lookup_insert_cases found with ⟨_, rfl⟩ | ⟨_, found⟩
    · rcases strikes with none | ⟨old, known, same⟩
      · exact none
      · rw [same]
        exact unstruck challengeId' old known
    · exact unstruck challengeId entry found

theorem Written.mem (written : Written s s') (known : challengeId ∈ s.challenges) :
    challengeId ∈ s'.challenges := by
  cases written with
  | none same => rw [same]; exact known
  | one _ _ insert _ =>
    rw [insert, AList.mem_insert]
    exact .inr known

theorem unstruck_instantiate {config : VoteConfig}
    (h : instantiateHandler config .empty = .ok s) : Unstruck s := by
  simp only [instantiateHandler, bind_eq_ok, pure_eq_ok, Prod.exists, voting_eq_ok] at h
  obtain ⟨_, _, ⟨_, -, rfl⟩, rfl⟩ := h
  intro challengeId entry found
  cases found

theorem unstruck_run (unstruck : Unstruck s) (calls : List Call) : Unstruck (run s calls) :=
  Machine.run_invariant calls (fun _ _ _ _ held ok => held.written (exec_written ok)) unstruck

theorem mem_run (known : challengeId ∈ s.challenges) (calls : List Call) :
    challengeId ∈ (run s calls).challenges :=
  Machine.run_invariant (P := fun m => challengeId ∈ m.challenges) calls
    (fun _ _ _ _ held ok => (exec_written ok).mem held) known

/-! ## Counts -/

/-- A penalty does not depend on the strikes of the challenge. -/
theorem chargePenalty_strikes (entry : ChallengeEntry) (strikes : AdminStrikes)
    (friends : List (Friend Addr)) :
    chargePenalty deps { entry with adminStrikes := strikes } friends =
      chargePenalty deps entry friends := rfl

theorem chargePenalty_ok {entry : ChallengeEntry} {friends : List (Friend Addr)}
    (h : chargePenalty deps entry friends = .ok r) : r.messages ≠ [] := by
  simp only [chargePenalty, bind_eq_ok, pure_eq_ok] at h
  obtain ⟨_, -, _, -, _, -, rfl⟩ := h
  simp

/-- A count that succeeds has passed, and is one that passes, or it has failed and charges
    nothing. -/
theorem countVotes_cases (h : exec c s = .ok (s', r)) (msg : c.msg = .CountVotes challengeId) :
    (Passes s c ∧ r.messages ≠ [] ∧
      r.proposalInfo.map ProposalInfo.status = some (.Finished .Passed)) ∨
    (r.messages = [] ∧ r.proposalInfo.map ProposalInfo.status = some (.Finished .Failed)) := by
  obtain ⟨h, accepted⟩ := exec_eq_ok.mp h
  unfold executeHandler at h
  simp only [msg, countVotes, loadChallenge, tryFinishChallenge, bind_eq_ok, pure_eq_ok,
    Prod.exists, voting_eq_ok, okOr_eq_ok, Prod.mk.injEq] at h
  obtain ⟨entry, found, proposalId, last, m, counted, outcome, ⟨store, count, rfl⟩, response,
    ⟨friends, listed, strikes, finished, struck, answer, answered, rfl⟩, rfl, rfl⟩ := h
  obtain ⟨stored, loaded, storedAt, seen, waiting, outcomeEq, countedEq, -⟩ := countVotes_ok count
  by_cases enough : stored.threshold ≤ stored.votesFor
  · rw [if_pos enough] at outcomeEq
    subst outcomeEq
    rw [chargeIfPassed, if_pos rfl, chargePenalty_strikes] at answered
    have charged : answer.messages ≠ [] := chargePenalty_ok answered
    refine .inl ⟨?_, charged, by simp [countedEq, ProposalInfo.finishVote]⟩
    refine ⟨challengeId, entry, proposalId, loaded, friends, msg, found, last,
      loadProposal_eq_ok.mpr ⟨stored, storedAt, seen⟩, waiting, ?_, listed, answer, answered, accepted⟩
    rw [seen.withStatus]
    exact enough
  · rw [if_neg enough] at outcomeEq
    subst outcomeEq
    rw [chargeIfPassed, if_neg (by decide)] at answered
    obtain rfl := Except.ok.inj answered
    exact .inr ⟨rfl, by simp [countedEq, ProposalInfo.finishVote]⟩

/-- A count that passes succeeds and returns `Passed`, whatever the limit of the challenge. -/
theorem exec_of_passes (unstruck : Unstruck s) (passes : Passes s c) :
    ∃ challengeId s' r, challengeId ∈ s.challenges ∧ exec c s = .ok (s', r) ∧
      returnedPassed challengeId (s, c, r) = true := by
  obtain ⟨challengeId, entry, proposalId, info, friends, msg, found, last, load, waiting, enough,
    listed, response, answered, accepted⟩ := passes
  obtain ⟨outcome, store, passed, count⟩ := countVotes_of_waiting load waiting
  rw [if_pos enough] at passed
  subst passed
  obtain ⟨struck, strike⟩ : ∃ struck, strikeIfPassed .Passed entry.adminStrikes = .ok struck := by
    simp [strikeIfPassed, AdminStrikes.strike, unstruck challengeId entry found, addChecked, bind,
      Except.bind, pure, Except.pure]
  have charged : chargeIfPassed c.deps .Passed { entry with adminStrikes := struck.1 } friends =
      .ok response := answered
  refine ⟨challengeId, { s with simpleVoting := store }, { response with
    proposalInfo := some (info.finishVote .Passed c.deps.block), challengeFinished := some struck.2 },
    mem_of_lookup found, ?_, ?_⟩
  · refine exec_eq_ok.mpr ⟨?_, accepted⟩
    simp only [executeHandler, msg, countVotes, loadChallenge, found, last, okOr, voting, count,
      tryFinishChallenge, listed, strike, charged, bind, Except.bind, pure, Except.pure]
  · simp [returnedPassed, countedChallenge, msg, ProposalInfo.finishVote]

/-! ## Every run -/

/-- In every run of the app, the strikes are counted and the limit is respected exactly when
    no count of the run passes. -/
theorem strikesKept_iff {config : VoteConfig} {start : ChallengeState}
    (created : instantiateHandler config .empty = .ok start) (calls : List Call) :
    StrikesKept start calls ↔
      Machine.Along exec (fun s c => ¬ Passes s c) start calls := by
  have unstruck := unstruck_instantiate created
  constructor
  · intro kept
    by_contra fails
    -- the first count that passes is returned as such, but the entry stays without a strike
    obtain ⟨before, c, after, split, passes⟩ := Machine.exists_of_not_along fails
    obtain ⟨challengeId, s', r, known, ok, passed⟩ :=
      exec_of_passes (unstruck_run unstruck before) (not_not.mp passes)
    have logged := Machine.mem_history_of_ok after ok
    rw [← split] at logged
    have reached : run start calls = run (run start before) (c :: after) := by
      rw [split]
      exact Machine.run_append start before _
    obtain ⟨entry, found⟩ : ∃ entry, (run start calls).challenges.lookup challengeId = some entry := by
      rw [reached]
      exact mem_iff_lookup.mp (mem_run known (c :: after))
    have none := unstruck_run unstruck calls challengeId entry found
    rw [kept.counted challengeId entry found, List.countP_eq_zero] at none
    exact none _ logged passed
  · intro along
    have failed : ∀ challengeId, ∀ event ∈ history start calls,
        countedChallenge event.2.1.msg = some challengeId → event.2.2.messages = [] ∧
          event.2.2.proposalInfo.map ProposalInfo.status = some (.Finished .Failed) := by
      intro challengeId event logged counts
      obtain ⟨_, _, s', -, -, ok⟩ := Machine.of_mem_history logged
      rcases countVotes_cases ok (countedChallenge_eq_some.mp counts) with ⟨passes, -⟩ | failed
      · exact absurd passes (Machine.along_history along logged)
      · exact failed
    constructor
    · intro challengeId entry found
      rw [unstruck_run unstruck calls challengeId entry found, eq_comm, List.countP_eq_zero]
      intro event logged passed
      rw [returnedPassed, Bool.and_eq_true, decide_eq_true_eq, decide_eq_true_eq] at passed
      rw [(failed challengeId event logged passed.1).2] at passed
      simp at passed
    · intro challengeId event logged charged
      exact absurd (failed challengeId event logged charged.1).1 charged.2

/-! ## A challenge that is failed twice -/

section Sample

/-- The chain at a time in seconds, as the app of an account with a single admin sees it. -/
def depsAt (seconds : Nat) : AppDeps where
  block := ⟨seconds, seconds * 1000000000⟩
  addrValidate text := .ok ⟨text⟩
  assertAdmin sender := if sender = ⟨"admin"⟩ then .ok () else .error "Caller is not admin"
  accountRegistry := .ok ()
  account _ := .error "Unknown Account id"
  assertIsAccount _ := .error "not an account"
  resolve asset := .ok { info := asset.name, amount := asset.amount }
  proxy := .ok ⟨"account"⟩

/-- An account that has a hundred of every asset. -/
def richAccount (message : Addr × List Transfer) : Bool :=
  (Wallet.payAll (fun _ => 100) (message.2.map fun transfer =>
    (transfer.asset.info, transfer.asset.amount))).toOption.isSome

def callAt (seconds : Nat) (sender : String) (msg : ChallengeExecuteMsg) : Call where
  deps := depsAt seconds
  info := { sender := ⟨sender⟩, funds := [] }
  msg := msg
  accepts := richAccount

/-- A challenge that ends with the first strike. -/
def oneStrike : ChallengeRequest where
  name := "no sugar"
  strikeAsset := "juno"
  strikeStrategy := .PerFriend 30
  description := none
  challengeDurationSeconds := 1000
  proposalDurationSeconds := 10
  strikesLimit := none
  initFriends := [.ByAddr "alice" "Alice"]

def majority : VoteConfig := { threshold := .Majority, vetoDurationSeconds := none }

def newApp : ChallengeState :=
  { ChallengeState.empty with
    nextId := some 0
    simpleVoting :=
      { VotingStore.empty with nextProposalId := some 0, voteConfig := some majority } }

/-- The friend votes at one time, and ten seconds later the vote is counted. -/
def voteAndCount (seconds : Nat) (punish : Bool) : List Call :=
  [callAt seconds "alice" (.CastVote 1 ⟨punish, none⟩),
    callAt (seconds + 10) "anyone" (.CountVotes 1)]

def struckTwice : List Call :=
  callAt 0 "admin" (.CreateChallenge oneStrike) :: (voteAndCount 1 true ++ voteAndCount 20 true)

def neverStruck : List Call :=
  callAt 0 "admin" (.CreateChallenge oneStrike) :: voteAndCount 1 false

/-- The app when the only vote is counted. -/
def beforeCount : ChallengeState := run newApp (neverStruck.take 2)

end Sample

/-- Two counts pass and both charge the penalty of a challenge that ends with the first
    strike, and no strike is recorded. -/
theorem not_strikesKept_struckTwice :
    instantiateHandler majority .empty = .ok newApp ∧
      (history newApp struckTwice).countP (returnedPassed 1) = 2 ∧
      ((run newApp struckTwice).challenges.lookup 1).map ChallengeEntry.adminStrikes =
        some { numStrikes := 0, limit := 1 } ∧
      ¬ StrikesKept newApp struckTwice := by
  have passed : (history newApp struckTwice).countP (returnedPassed 1) = 2 := by decide +kernel
  have stored : ((run newApp struckTwice).challenges.lookup 1).map ChallengeEntry.adminStrikes =
      some { numStrikes := 0, limit := 1 } := by decide +kernel
  refine ⟨rfl, passed, stored, ?_⟩
  intro kept
  obtain ⟨entry, found, strikes⟩ := Option.map_eq_some_iff.mp stored
  have counted := kept.counted 1 entry found
  rw [strikes, passed] at counted
  cases counted

theorem strikesKept_neverStruck : StrikesKept newApp neverStruck := by
  have created : instantiateHandler majority .empty = .ok newApp := rfl
  refine (strikesKept_iff created neverStruck).mpr ⟨?_, ?_, ?_, trivial⟩
  · rintro ⟨_, _, _, _, _, msg, _⟩
    cases msg
  · rintro ⟨_, _, _, _, _, msg, _⟩
    cases msg
  · rintro ⟨challengeId, entry, proposalId, info, friends, msg, _, last, load, _, enough, _⟩
    obtain rfl : 1 = challengeId := ChallengeExecuteMsg.CountVotes.inj msg
    -- the friend has voted against the punishment
    have voted : ((lastProposal 1 beforeCount).bind fun proposalId =>
        (loadProposal (depsAt 11).block proposalId beforeCount.simpleVoting).toOption).map
          (fun info => (info.votesFor, info.threshold)) = some (0, 1) := by
      decide +kernel
    have last' : lastProposal 1 beforeCount = some proposalId := last
    have load' : loadProposal (depsAt 11).block proposalId beforeCount.simpleVoting = .ok info := load
    rw [last', Option.bind_some, load'] at voted
    simp only [Except.toOption, Option.map_some, Option.some.injEq, Prod.mk.injEq] at voted
    omega

end AbstractFramework.Challenge
