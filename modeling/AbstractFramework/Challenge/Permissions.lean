import AbstractFramework.Challenge.Strikes
import AbstractFramework.Ownership.Nested
import AbstractFramework.Ownership.NestedAdmin
import AbstractFramework.Voting.Tally

/-! # Who configures the challenges

Every handler that changes a challenge, its friends or the outcome of a vote by decree asks
for the admin of the app, with one exception: the config of the votes can be replaced by
anyone.
-/

namespace AbstractFramework.Challenge

open AbstractFramework Fallible Storage Effects Voting

variable {s s' : ChallengeState} {c : Call} {proposalId : ProposalId}

def Decreed (status : ProposalStatus) : Prop :=
  status = .Finished .Canceled ∨ status = .Finished .Vetoed

/-- The configuration is the same, and no proposal was canceled or vetoed. -/
structure ConfigKept (s s' : ChallengeState) : Prop where
  challenges : s'.challenges = s.challenges
  friends : s'.challengeFriends = s.challengeFriends
  voteConfig : s'.simpleVoting.voteConfig = s.simpleVoting.voteConfig
  decreed : ∀ proposalId proposal,
    s'.simpleVoting.proposalsInfo.lookup proposalId = some proposal →
    Decreed proposal.status →
    s.simpleVoting.proposalsInfo.lookup proposalId = some proposal

theorem ConfigKept.refl (s : ChallengeState) : ConfigKept s s :=
  ⟨rfl, rfl, rfl, fun _ _ found _ => found⟩

theorem ConfigKept.trans {s'' : ChallengeState} (here : ConfigKept s s') (there : ConfigKept s' s'') :
    ConfigKept s s'' where
  challenges := there.challenges.trans here.challenges
  friends := there.friends.trans here.friends
  voteConfig := there.voteConfig.trans here.voteConfig
  decreed proposalId proposal found decreed :=
    here.decreed proposalId proposal (there.decreed proposalId proposal found decreed) decreed

/-- Saving a proposal that is neither canceled nor vetoed. -/
theorem decreed_of_insert {infos : Map ProposalId ProposalInfo} {saved proposal : ProposalInfo}
    {id : ProposalId} (free : ¬ Decreed saved.status)
    (found : (infos.insert id saved).lookup proposalId = some proposal)
    (decreed : Decreed proposal.status) :
    infos.lookup proposalId = some proposal := by
  rcases lookup_insert_cases found with ⟨_, rfl⟩ | ⟨_, found⟩
  · exact absurd decreed free
  · exact found

theorem Opened.configKept {deps : AppDeps} {challengeId : Nat}
    (opened : Opened deps challengeId s s' proposalId) : ConfigKept s s' := by
  cases opened with
  | active => exact .refl s
  | created known running closed listed addrs new =>
    obtain ⟨id, config, -, -, -, -, -, rfl⟩ := newProposal_ok new
    refine ⟨rfl, rfl, rfl, fun _ _ => decreed_of_insert ?_⟩
    simp [Decreed, ProposalInfo.new]

/-- What a call does that does not come from an admin. -/
theorem Did.configKept (did : Did c s s') (notAdmin : c.deps.assertAdmin c.info.sender ≠ .ok ()) :
    ConfigKept s s' ∨ ∃ voteConfig, c.msg = .UpdateConfig voteConfig ∧
      s' = { s with simpleVoting := { s.simpleVoting with voteConfig := some voteConfig } } := by
  cases did with
  | config voteConfig msg => exact .inr ⟨voteConfig, msg, rfl⟩
  | created admin | updated admin | canceled admin | befriended admin | vetoed admin =>
    exact absurd admin notAdmin
  | voted msg opened cast =>
    obtain ⟨stored, _, -, -, active, -, -, update, rfl⟩ := castVote_ok cast
    obtain ⟨-, -, same⟩ := voteUpdate_ok update
    refine .inl (opened.configKept.trans ⟨rfl, rfl, rfl, fun _ _ => decreed_of_insert ?_⟩)
    rw [same]
    simp [Decreed, active]
  | counted msg found count =>
    obtain ⟨stored, _, -, -, -, outcome, rfl, rfl⟩ := countVotes_ok count
    refine .inl ⟨rfl, rfl, rfl, fun _ _ => decreed_of_insert ?_⟩
    by_cases enough : stored.threshold ≤ stored.votesFor
    · simp [outcome, enough, Decreed, ProposalInfo.finishVote]
    · simp [outcome, enough, Decreed, ProposalInfo.finishVote]

/-- A call of anyone who is not an admin leaves the configuration and the proposals as they
    are exactly when it does not replace the config of the votes by another one. -/
theorem configKept_iff [Crates] {module : NestedAdmin}
    (guarded : ∀ caller, c.deps.assertAdmin caller = .ok () ↔ module.assertAdmin caller = .ok ())
    (notAdmin : module.isAdmin c.info.sender = .ok false) :
    ConfigKept s (Machine.step exec s c) ↔
      ∀ voteConfig, c.msg = .UpdateConfig voteConfig → s.simpleVoting.voteConfig = some voteConfig := by
  have refused : c.deps.assertAdmin c.info.sender ≠ .ok () := by
    rw [Ne, guarded, NestedAdmin.assertAdmin_eq_ok, notAdmin]
    simp
  constructor
  · intro kept voteConfig msg
    have saved : Machine.step exec s c =
        { s with simpleVoting := { s.simpleVoting with voteConfig := some voteConfig } } := by
      apply Machine.step_of_ok (r := Response.new "")
      refine exec_eq_ok.mpr ⟨?_, by simp [Response.new]⟩
      simp only [executeHandler, msg]
      rfl
    rw [← kept.voteConfig, saved]
  · intro same
    rcases Machine.step_cases exec s c with failed | ⟨r, ok⟩
    · rw [failed]
      exact .refl s
    · rcases (exec_did ok).configKept refused with kept | ⟨voteConfig, msg, saved⟩
      · exact kept
      · rw [saved]
        exact ⟨rfl, rfl, (same voteConfig msg).symm, fun _ _ found _ => found⟩

section Sample

attribute [local instance] releaseCrates

/-- A challenge app on an account with a monarch. -/
def sampleAdmin : NestedAdmin where
  querier := chainQuerier ["account"]
  contract := ⟨"challenge"⟩
  get := .ok (some ⟨"account"⟩)
  callingToAsAdmin _ := none

def guardedDeps : AppDeps :=
  { depsAt 5 with
    assertAdmin := fun caller =>
      (sampleAdmin.assertAdmin caller).mapError fun _ => "Caller is not admin" }

/-- Anyone asks for a config under which a vote passes without a vote for it. -/
def strangerCall (newVoteConfig : VoteConfig) : Call where
  deps := guardedDeps
  info := { sender := ⟨"stranger"⟩, funds := [] }
  msg := .UpdateConfig newVoteConfig
  accepts := richAccount

def nobodyNeeded : VoteConfig :=
  { threshold := .Percentage ⟨0⟩, vetoDurationSeconds := none }

theorem guardedDeps_guarded (caller : Addr) :
    guardedDeps.assertAdmin caller = .ok () ↔ sampleAdmin.assertAdmin caller = .ok () := by
  simp [guardedDeps]

/-- The sender is not an admin, and the config of the votes is the one it asked for. -/
theorem stranger_replaces_config :
    sampleAdmin.isAdmin ⟨"m"⟩ = .ok true ∧ sampleAdmin.isAdmin ⟨"stranger"⟩ = .ok false ∧
      (Machine.step exec newApp (strangerCall nobodyNeeded)).simpleVoting.voteConfig =
        some nobodyNeeded ∧
      ¬ ConfigKept newApp (Machine.step exec newApp (strangerCall nobodyNeeded)) := by
  have replaced : (Machine.step exec newApp (strangerCall nobodyNeeded)).simpleVoting.voteConfig =
      some nobodyNeeded := rfl
  refine ⟨by decide, by decide, replaced, ?_⟩
  intro kept
  have same := kept.voteConfig
  rw [replaced] at same
  cases same

theorem configKept_iff_same_config :
    ConfigKept newApp (Machine.step exec newApp (strangerCall majority)) :=
  (configKept_iff guardedDeps_guarded (by decide)).mpr (by rintro _ ⟨⟩; rfl)

end Sample

end AbstractFramework.Challenge
