import AbstractFramework.Objects.Decimals
import AbstractFramework.Voting.Tally

/-! # Percentage thresholds

A proposal that needs a percentage of its voters passes when the votes for it reach that part
of all voters.  The number of votes it needs is rounded down before it is compared, so that a
proposal passes with fewer votes than its percentage when the votes for it are exactly the
rounded number.
-/

namespace AbstractFramework.Voting

open AbstractFramework Effects

/-- The votes for are at least the percentage of the voters. -/
def Reaches (percent : Decimal) (votesFor voters : Nat) : Prop := percent.toRat * voters ≤ votesFor

/-- A positive percentage of at least one voter is not reached without a vote for. -/
theorem not_reaches_zero {percent : Decimal} {voters : Nat} (positive : percent.atomics ≠ 0)
    (voter : 1 ≤ voters) : ¬ Reaches percent 0 voters := by
  unfold Reaches
  intro reached
  have none_needed := Decimal.toRat_mul_le_iff.mp reached
  rw [Nat.zero_mul, Nat.le_zero, Nat.mul_eq_zero] at none_needed
  omega

theorem threshold_percentage {info : ProposalInfo} {percent : Decimal}
    (percentage : info.config.threshold = .Percentage percent) :
    info.threshold = mulFloor info.totalVoters percent := by
  simp only [ProposalInfo.threshold, percentage]

/-- In every state that is reached, counting a proposal with a percentage decides whether the
    votes for it reach the percentage, unless they are exactly the rounded number of votes
    and rounding lost something. -/
theorem count_percentage_iff {config : VoteConfig} {start s' : VotingStore}
    (created : call (instantiate config) .empty = (.ok (), start))
    (ops : List (BlockInfo × VoteOp)) {block : BlockInfo} {proposalId : ProposalId}
    {stored info : ProposalInfo} {outcome : ProposalOutcome} {percent : Decimal}
    (found : (run start ops).proposalsInfo.lookup proposalId = some stored)
    (percentage : stored.config.threshold = .Percentage percent)
    (positive : 0 < percent.toRat)
    (counted : call (countVotes block proposalId) (run start ops) = (.ok (info, outcome), s')) :
    ((outcome = .Passed ↔ Reaches percent (votersWith (run start ops) proposalId isFor)
          (voters (run start ops) proposalId)) ∧
      (1 ≤ voters (run start ops) proposalId →
        votersWith (run start ops) proposalId isFor = 0 → outcome ≠ .Passed)) ↔
      (10 ^ 18 ∣ voters (run start ops) proposalId * percent.atomics ∨
        votersWith (run start ops) proposalId isFor ≠
          mulFloor (voters (run start ops) proposalId) percent) := by
  have tally := (tallied_run (tallied_instantiate created) ops).counted found
  obtain ⟨stored', loaded, found', -, -, outcome_eq, -, -⟩ := countVotes_ok counted
  obtain rfl : stored = stored' := Option.some.inj (found.symm.trans found')
  rw [threshold_percentage percentage, tally.totalVoters, tally.votesFor] at outcome_eq
  have passes : outcome = .Passed ↔ mulFloor (voters (run start ops) proposalId) percent ≤
      votersWith (run start ops) proposalId isFor := by
    rw [outcome_eq]
    split
    · rename_i enough
      simp [enough]
    · rename_i few
      simp [few]
  have nonzero : percent.atomics ≠ 0 := by
    intro zero
    simp [Decimal.toRat, FixedPoint.value, zero] at positive
  rw [← mulFloor_le_iff_exact, passes]
  constructor
  · intro same
    exact same.1
  · intro same
    refine ⟨same, ?_⟩
    intro voter noVotes
    rw [Ne, passes, same, noVotes]
    exact not_reaches_zero nonzero voter

section Sample

def half : Decimal := ⟨5 * 10 ^ 17⟩

def halfOfVoters : VoteConfig := { threshold := .Percentage half, vetoDurationSeconds := none }

def newHalfVoting : VotingStore :=
  { VotingStore.empty with nextProposalId := some 0, voteConfig := some halfOfVoters }

theorem length_alice : [alice].length < 2 ^ 32 := by decide

theorem length_alice_bob : [alice, bob].length < 2 ^ 32 := by decide

/-- Alice is the only voter, and does not vote. -/
def silent : List (BlockInfo × VoteOp) :=
  [(⟨1, 0⟩, .NewProposal 10 ⟨[alice], length_alice⟩)]

/-- Both of two voters are asked, and one of them votes for. -/
def oneOfTwo : List (BlockInfo × VoteOp) :=
  [(⟨1, 0⟩, .NewProposal 10 ⟨[alice, bob], length_alice_bob⟩),
    (⟨1, 0⟩, .CastVote 1 alice ⟨true, none⟩)]

end Sample

theorem half_toRat : half.toRat = 1 / 2 := by
  norm_num [half, Decimal.toRat, FixedPoint.value]

theorem newHalfVoting_created :
    call (instantiate halfOfVoters) .empty = (.ok (), newHalfVoting) := rfl

theorem count_percentage_oneOfTwo :
    Reaches half (votersWith (run newHalfVoting oneOfTwo) 1 isFor)
      (voters (run newHalfVoting oneOfTwo) 1) := by
  have positive : 0 < half.toRat := by norm_num [half_toRat]
  have exact_ := (@count_percentage_iff halfOfVoters newHalfVoting _ newHalfVoting_created oneOfTwo
    ⟨2, 10⟩ 1 _ _ .Passed half rfl rfl positive rfl).mpr (.inl (by decide +kernel))
  exact exact_.1.mp rfl

/-- A proposal that nobody voted for passes with half of its one voter. -/
theorem silent_proposal_passes :
    call (instantiate halfOfVoters) .empty = (.ok (), newHalfVoting) ∧
      0 < half.toRat ∧ half.toRat ≤ 1 ∧
      (call (countVotes ⟨2, 10⟩ 1) (run newHalfVoting silent)).1.toOption.map Prod.snd =
        some .Passed ∧
      voters (run newHalfVoting silent) 1 = 1 ∧
      votersWith (run newHalfVoting silent) 1 isFor = 0 ∧
      ¬ Reaches half (votersWith (run newHalfVoting silent) 1 isFor)
        (voters (run newHalfVoting silent) 1) := by
  have counts : voters (run newHalfVoting silent) 1 = 1 ∧
      votersWith (run newHalfVoting silent) 1 isFor = 0 := by decide +kernel
  refine ⟨newHalfVoting_created, ?_, ?_, by decide +kernel, counts.1, counts.2, ?_⟩
  · norm_num [half_toRat]
  · norm_num [half_toRat]
  · rw [counts.1, counts.2]
    exact not_reaches_zero (by decide) (Nat.le_refl 1)

end AbstractFramework.Voting
