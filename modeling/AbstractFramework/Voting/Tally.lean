import AbstractFramework.Lib.Counting
import AbstractFramework.Voting.SimpleVoting

/-! # The tally of a vote

The counters of a proposal and the votes that they count are kept in different
maps.  `Tallied` is the invariant that ties them together: every proposal counts
exactly its whitelisted voters, and no entry belongs to a proposal that is still
to be opened.
-/

namespace AbstractFramework.Voting

open AbstractFramework Fallible Storage Effects

/-! ## Counting voters -/

def isFor : Option Vote → Bool
  | some vote => vote.vote
  | none => false

def isAgainst : Option Vote → Bool
  | some vote => !vote.vote
  | none => false

/-- The number of whitelisted voters of a proposal whose stored vote meets `p`. -/
def votersWith (s : VotingStore) (proposalId : ProposalId) (p : Option Vote → Bool) : Nat :=
  count s.proposals fun key vote => decide (key.1 = proposalId) && p vote

def voters (s : VotingStore) (proposalId : ProposalId) : Nat :=
  votersWith s proposalId fun _ => true

structure Counted (s : VotingStore) (proposalId : ProposalId) (info : ProposalInfo) : Prop where
  votesFor : info.votesFor = votersWith s proposalId isFor
  votesAgainst : info.votesAgainst = votersWith s proposalId isAgainst
  totalVoters : info.totalVoters = voters s proposalId
  /-- The counters fit their type. -/
  bounded : info.totalVoters < 2 ^ 32

structure Tallied (s : VotingStore) : Prop where
  ids : ∃ next, s.nextProposalId = some next ∧ (∀ id ∈ s.proposalsInfo, id ≤ next) ∧
    ∀ key ∈ s.proposals, key.1 ≤ next
  counted : ∀ {proposalId info}, s.proposalsInfo.lookup proposalId = some info →
    Counted s proposalId info

variable {s s' : VotingStore} {block : BlockInfo} {proposalId : ProposalId} {info : ProposalInfo}

/-- Two kinds of votes that exclude each other. -/
theorem votersWith_add_le {p q r : Option Vote → Bool} (left : ∀ vote, p vote = true → r vote = true)
    (right : ∀ vote, q vote = true → r vote = true) (apart : ∀ vote, p vote = true → q vote = false) :
    votersWith s proposalId p + votersWith s proposalId q ≤ votersWith s proposalId r := by
  apply count_add_le
  · intro key vote both
    rw [Bool.and_eq_true] at both ⊢
    exact ⟨both.1, left vote both.2⟩
  · intro key vote both
    rw [Bool.and_eq_true] at both ⊢
    exact ⟨both.1, right vote both.2⟩
  · intro key vote both
    rw [Bool.and_eq_true] at both
    rw [apart vote both.2, Bool.and_false]

/-- The votes for, those against and the voters without a vote are all voters. -/
theorem votersWith_le (s : VotingStore) (proposalId : ProposalId) :
    votersWith s proposalId isFor + votersWith s proposalId isAgainst +
      votersWith s proposalId Option.isNone ≤ voters s proposalId := by
  have voted : votersWith s proposalId isFor + votersWith s proposalId isAgainst ≤
      votersWith s proposalId Option.isSome := by
    apply votersWith_add_le
    · rintro (_ | vote) <;> simp [isFor]
    · rintro (_ | vote) <;> simp [isAgainst]
    · rintro (_ | vote) <;> simp [isFor, isAgainst]
  have all : votersWith s proposalId Option.isSome + votersWith s proposalId Option.isNone ≤
      votersWith s proposalId fun _ => true := by
    apply votersWith_add_le
    · intro vote _; rfl
    · intro vote _; rfl
    · rintro (_ | vote) <;> simp
  unfold voters
  omega

theorem votersWith_pos {voter : Addr} {vote : Option Vote} {p : Option Vote → Bool}
    (whitelisted : s.proposals.lookup (proposalId, voter) = some vote) (meets : p vote = true) :
    0 < votersWith s proposalId p :=
  count_pos whitelisted (by simp [meets])

/-- Writing the vote of a whitelisted voter. -/
theorem votersWith_insert {voter : Addr} {previous : Option Vote}
    (whitelisted : s.proposals.lookup (proposalId, voter) = some previous) (vote : Option Vote)
    (p : Option Vote → Bool) (infos : Map ProposalId ProposalInfo) :
    votersWith { s with
        proposals := s.proposals.insert (proposalId, voter) vote, proposalsInfo := infos }
      proposalId p + (p previous).toNat = votersWith s proposalId p + (p vote).toNat := by
  have balance := count_insert s.proposals
    (fun key vote => decide (key.1 = proposalId) && p vote) (proposalId, voter) vote
  rw [whitelisted] at balance
  simp only [weight_some, decide_true, Bool.true_and] at balance
  unfold votersWith
  cases hp : p previous <;> cases hv : p vote <;> simp_all

theorem votersWith_insert_ne {other : ProposalId} {voter : Addr} {vote : Option Vote}
    (ne : proposalId ≠ other) (p : Option Vote → Bool) (infos : Map ProposalId ProposalInfo) :
    votersWith { s with
        proposals := s.proposals.insert (other, voter) vote, proposalsInfo := infos }
      proposalId p = votersWith s proposalId p := by
  have balance := count_insert s.proposals
    (fun key vote => decide (key.1 = proposalId) && p vote) (other, voter) vote
  have none_counted : ∀ v, weight (fun (key : ProposalId × Addr) vote =>
      decide (key.1 = proposalId) && p vote) (other, voter) v = 0 := by
    rintro (_ | v) <;> simp [ne.symm]
  rw [none_counted, none_counted] at balance
  exact balance

theorem votersWith_opened (proposalId : ProposalId) {opened : ProposalId} {initialVoters : List Addr}
    (fresh : ∀ key ∈ s.proposals, key.1 ≠ opened) (distinct : initialVoters.Nodup)
    (proposals : s'.proposals =
      insertAll s.proposals (initialVoters.map fun voter => ((opened, voter), none)))
    (p : Option Vote → Bool) :
    votersWith s' proposalId p =
      if proposalId = opened then (if p none then initialVoters.length else 0)
      else votersWith s proposalId p := by
  have added : votersWith s' proposalId p = votersWith s proposalId p +
      (initialVoters.map fun voter => ((opened, voter), (none : Option Vote))).countP
        fun e => decide (e.1.1 = proposalId) && p e.2 := by
    unfold votersWith
    rw [proposals]
    apply count_insertAll
    · intro e listed
      obtain ⟨voter, -, rfl⟩ := List.mem_map.mp listed
      exact fun known => fresh _ known rfl
    · rw [List.map_map]
      exact distinct.map fun voter voter' same => (Prod.mk.inj same).2
  rw [added, List.countP_map]
  by_cases here : proposalId = opened
  · subst here
    have before : votersWith s proposalId p = 0 := by
      apply count_eq_zero
      intro key known vote
      simp [fresh key known]
    rw [before, if_pos rfl]
    cases hp : p none <;> simp [Function.comp_def, hp]
  · have none_added : ∀ voter ∈ initialVoters, ¬ ((fun e : (ProposalId × Addr) × Option Vote =>
        decide (e.1.1 = proposalId) && p e.2) ∘ fun voter => ((opened, voter), none)) voter := by
      intro voter _
      simp [Ne.symm here]
    rw [List.countP_eq_zero.mpr none_added, if_neg here, Nat.add_zero]

/-! ## Updating the counters -/

/-- The counters move with the vote. -/
theorem voteUpdate_ok {stored : ProposalInfo} {previousVote : Option Vote} {vote : Vote}
    (h : stored.voteUpdate previousVote vote = .ok info) :
    info.votesFor + (isFor previousVote).toNat = stored.votesFor + (isFor (some vote)).toNat ∧
      info.votesAgainst + (isAgainst previousVote).toNat =
        stored.votesAgainst + (isAgainst (some vote)).toNat ∧
      info = { stored with votesFor := info.votesFor, votesAgainst := info.votesAgainst } := by
  unfold ProposalInfo.voteUpdate at h
  obtain ⟨choice, memo⟩ := vote
  rcases previousVote with _ | ⟨previous, memo'⟩
  · cases choice with
    | true =>
      simp only [Option.map_none, bind_eq_ok, addChecked_eq_ok, pure_eq_ok] at h
      obtain ⟨votesFor, ⟨-, rfl⟩, rfl⟩ := h
      simp [isFor, isAgainst]
    | false =>
      simp only [Option.map_none, bind_eq_ok, addChecked_eq_ok, pure_eq_ok] at h
      obtain ⟨votesAgainst, ⟨-, rfl⟩, rfl⟩ := h
      simp [isFor, isAgainst]
  · cases previous with
    | true =>
      cases choice with
      | true =>
        obtain rfl := Except.ok.inj h
        simp [isFor, isAgainst]
      | false =>
        simp only [Option.map_some, bind_eq_ok, addChecked_eq_ok, subChecked_eq_ok, pure_eq_ok] at h
        obtain ⟨votesAgainst, ⟨-, rfl⟩, votesFor, ⟨enough, rfl⟩, rfl⟩ := h
        simp [isFor, isAgainst]
        omega
    | false =>
      cases choice with
      | true =>
        simp only [Option.map_some, bind_eq_ok, addChecked_eq_ok, subChecked_eq_ok, pure_eq_ok] at h
        obtain ⟨votesFor, ⟨-, rfl⟩, votesAgainst, ⟨enough, rfl⟩, rfl⟩ := h
        simp [isFor, isAgainst]
        omega
      | false =>
        obtain rfl := Except.ok.inj h
        simp [isFor, isAgainst]

/-- Where the counters count the votes, no update panics. -/
theorem voteUpdate_of_counted (counted : Counted s proposalId info) {voter : Addr}
    {previousVote : Option Vote}
    (whitelisted : s.proposals.lookup (proposalId, voter) = some previousVote) (vote : Vote) :
    ∃ updated, info.voteUpdate previousVote vote = .ok updated := by
  have within := votersWith_le s proposalId
  rw [← counted.votesFor, ← counted.votesAgainst, ← counted.totalVoters] at within
  have bounded := counted.bounded
  obtain ⟨choice, memo⟩ := vote
  rcases previousVote with _ | ⟨previous, memo'⟩
  · have unvoted : 0 < votersWith s proposalId Option.isNone := votersWith_pos whitelisted rfl
    have roomFor : (addChecked 32 info.votesFor 1 : Except Stop Nat) = .ok (info.votesFor + 1) :=
      addChecked_eq_ok.mpr ⟨by omega, rfl⟩
    have roomAgainst : (addChecked 32 info.votesAgainst 1 : Except Stop Nat) =
        .ok (info.votesAgainst + 1) := addChecked_eq_ok.mpr ⟨by omega, rfl⟩
    cases choice with
    | true => exact ⟨_, by simp only [ProposalInfo.voteUpdate, Option.map_none, roomFor]; rfl⟩
    | false => exact ⟨_, by simp only [ProposalInfo.voteUpdate, Option.map_none, roomAgainst]; rfl⟩
  · cases previous with
    | true =>
      have some_for : 0 < info.votesFor := counted.votesFor ▸ votersWith_pos whitelisted rfl
      have room : (addChecked 32 info.votesAgainst 1 : Except Stop Nat) =
          .ok (info.votesAgainst + 1) := addChecked_eq_ok.mpr ⟨by omega, rfl⟩
      have enough : (subChecked info.votesFor 1 : Except Stop Nat) = .ok (info.votesFor - 1) :=
        subChecked_eq_ok.mpr ⟨some_for, rfl⟩
      cases choice with
      | true => exact ⟨info, rfl⟩
      | false => exact ⟨_, by simp only [ProposalInfo.voteUpdate, Option.map_some, room, enough]; rfl⟩
    | false =>
      have some_against : 0 < info.votesAgainst :=
        counted.votesAgainst ▸ votersWith_pos whitelisted rfl
      have room : (addChecked 32 info.votesFor 1 : Except Stop Nat) = .ok (info.votesFor + 1) :=
        addChecked_eq_ok.mpr ⟨by omega, rfl⟩
      have enough : (subChecked info.votesAgainst 1 : Except Stop Nat) =
          .ok (info.votesAgainst - 1) := subChecked_eq_ok.mpr ⟨some_against, rfl⟩
      cases choice with
      | true => exact ⟨_, by simp only [ProposalInfo.voteUpdate, Option.map_some, room, enough]; rfl⟩
      | false => exact ⟨info, rfl⟩

/-! ## The invariant -/

theorem tallied_instantiate {config : VoteConfig}
    (h : call (instantiate config) .empty = (.ok (), s)) : Tallied s := by
  simp only [instantiate, call_bind_ok, call_lift, call_write, Prod.mk.injEq] at h
  obtain ⟨_, _, ⟨-, rfl⟩, _, _, ⟨-, rfl⟩, -, rfl⟩ := h
  refine ⟨⟨0, rfl, ?_, ?_⟩, ?_⟩
  · intro id listed
    cases listed
  · intro key listed
    cases listed
  · intro proposalId info found
    cases found

/-- The counters of a proposal whose voters are not touched. -/
theorem Counted.congr (counted : Counted s proposalId info)
    (same : ∀ p, votersWith s' proposalId p = votersWith s proposalId p) :
    Counted s' proposalId info where
  votesFor := counted.votesFor.trans (same isFor).symm
  votesAgainst := counted.votesAgainst.trans (same isAgainst).symm
  totalVoters := counted.totalVoters.trans (same _).symm
  bounded := counted.bounded

theorem Counted.voted {stored : ProposalInfo} {voter : Addr} {previousVote : Option Vote} {vote : Vote}
    (counted : Counted s proposalId stored)
    (whitelisted : s.proposals.lookup (proposalId, voter) = some previousVote)
    (update : stored.voteUpdate previousVote vote = .ok info) (infos : Map ProposalId ProposalInfo) :
    Counted { s with
        proposals := s.proposals.insert (proposalId, voter) (some vote), proposalsInfo := infos }
      proposalId info := by
  obtain ⟨movedFor, movedAgainst, same⟩ := voteUpdate_ok update
  have balance := fun p => votersWith_insert whitelisted (some vote) p infos
  have total := balance fun _ => true
  refine ⟨?_, ?_, ?_, ?_⟩
  · have := balance isFor
    rw [← counted.votesFor] at this
    omega
  · have := balance isAgainst
    rw [← counted.votesAgainst] at this
    omega
  · rw [same]
    refine counted.totalVoters.trans ?_
    unfold voters
    omega
  · rw [same]
    exact counted.bounded

theorem Tallied.ids_effect (tallied : Tallied s) (effect : Effect block s s') :
    ∃ next, s'.nextProposalId = some next ∧ (∀ id ∈ s'.proposalsInfo, id ≤ next) ∧
      ∀ key ∈ s'.proposals, key.1 ≤ next := by
  obtain ⟨last, next, known, keys⟩ := tallied.ids
  cases effect with
  | kept proposals infos ids =>
    obtain ⟨last', next', le⟩ := ids last next
    refine ⟨last', next', ?_, ?_⟩
    · intro id listed
      exact Nat.le_trans (known id (infos ▸ listed)) le
    · intro key listed
      exact Nat.le_trans (keys key (proposals ▸ listed)) le
  | opened id config endTimestamp initialVoters next' distinct =>
    obtain rfl : id = last := Option.some.inj (next'.symm.trans next)
    refine ⟨id + 1, rfl, ?_, ?_⟩
    · exact forall_mem_insert _ (Nat.le_refl _) fun id' listed => Nat.le_succ_of_le (known id' listed)
    · intro key listed
      rcases mem_insertAll.mp listed with added | listed
      · rw [List.map_map] at added
        obtain ⟨voter, -, rfl⟩ := List.mem_map.mp added
        exact Nat.le_refl _
      · exact Nat.le_succ_of_le (keys key listed)
  | voted proposalId voter vote stored info previousVote found active whitelisted update =>
    refine ⟨last, next, ?_, ?_⟩
    · exact forall_mem_insert _ (known _ (mem_of_lookup found)) known
    · exact forall_mem_insert _ (keys _ (mem_of_lookup whitelisted)) keys
  | finished proposalId stored outcome endTimestamp found unfinished =>
    exact ⟨last, next, forall_mem_insert _ (known _ (mem_of_lookup found)) known, keys⟩

/-- The counters after a proposal is opened. -/
theorem Tallied.opened {id : ProposalId} {config : VoteConfig} {endTimestamp : Timestamp}
    {initialVoters : Slice Addr} (tallied : Tallied s) (next : s.nextProposalId = some id)
    (distinct : initialVoters.elems.Nodup)
    (proposals : s'.proposals = insertAll s.proposals
      (initialVoters.elems.map fun voter => ((id + 1, voter), none)))
    (found : (s.proposalsInfo.insert (id + 1)
      (ProposalInfo.new initialVoters.elems.length config endTimestamp)).lookup proposalId = some info) :
    Counted s' proposalId info := by
  obtain ⟨last, next', _, keys⟩ := tallied.ids
  obtain rfl : id = last := Option.some.inj (next.symm.trans next')
  have fresh : ∀ key ∈ s.proposals, key.1 ≠ id + 1 := by
    intro key listed same
    have known : key.1 ≤ id := keys key listed
    rw [same] at known
    exact Nat.not_succ_le_self id known
  have after := votersWith_opened proposalId fresh distinct proposals
  rcases lookup_insert_cases found with ⟨here, rfl⟩ | ⟨other, found⟩
  · refine ⟨?_, ?_, ?_, initialVoters.length_lt⟩
    · rw [after, if_pos here]
      rfl
    · rw [after, if_pos here]
      rfl
    · rw [voters, after, if_pos here]
      rfl
  · apply (tallied.counted found).congr
    intro p
    rw [after, if_neg other]

theorem Tallied.effect (tallied : Tallied s) (effect : Effect block s s') : Tallied s' := by
  refine ⟨tallied.ids_effect effect, ?_⟩
  intro proposalId info after
  cases effect with
  | kept proposals infos ids =>
    apply (tallied.counted (infos ▸ after)).congr
    intro p
    rw [votersWith, votersWith, proposals]
  | opened id config endTimestamp initialVoters next distinct =>
    exact tallied.opened next distinct rfl after
  | voted proposalId voter vote stored updated previousVote found active whitelisted update =>
    rcases lookup_insert_cases after with ⟨rfl, rfl⟩ | ⟨other, before⟩
    · exact (tallied.counted found).voted whitelisted update _
    · exact (tallied.counted before).congr fun p => votersWith_insert_ne other p _
  | finished proposalId stored outcome endTimestamp found unfinished =>
    rcases lookup_insert_cases after with ⟨rfl, rfl⟩ | ⟨_, before⟩
    · have counted := tallied.counted found
      exact ⟨counted.votesFor, counted.votesAgainst, counted.totalVoters, counted.bounded⟩
    · exact (tallied.counted before).congr fun p => rfl

theorem tallied_run (tallied : Tallied s) (ops : List (BlockInfo × VoteOp)) : Tallied (run s ops) := by
  apply Machine.run_invariant ops _ tallied
  intro m op m' r held ok
  obtain ⟨rfl, -⟩ := Prod.mk.inj (Except.ok.inj ok)
  exact held.effect (exec_effect op.2)

/-! ## Every run -/

/-- In every state that is reached, the counters of every proposal count its voters, no
    re-vote takes a counter out of its range, and an operation that fails leaves the
    proposals and the votes as they are. -/
theorem run_tally {config : VoteConfig} {start : VotingStore}
    (created : call (instantiate config) .empty = (.ok (), start))
    (ops : List (BlockInfo × VoteOp)) :
    (∀ proposalId info, (run start ops).proposalsInfo.lookup proposalId = some info →
      info.votesFor = votersWith (run start ops) proposalId isFor ∧
      info.votesAgainst = votersWith (run start ops) proposalId isAgainst ∧
      info.totalVoters = voters (run start ops) proposalId ∧
      info.votesFor + info.votesAgainst ≤ info.totalVoters ∧
      ∀ voter previousVote vote,
        (run start ops).proposals.lookup (proposalId, voter) = some previousVote →
        ∃ updated, info.voteUpdate previousVote vote = .ok updated) ∧
    ∀ block op e s', call (exec block op) (run start ops) = (.error e, s') →
      s'.proposals = (run start ops).proposals ∧
      s'.proposalsInfo = (run start ops).proposalsInfo := by
  have tallied := tallied_run (tallied_instantiate created) ops
  constructor
  · intro proposalId info found
    have counted := tallied.counted found
    have within := votersWith_le (run start ops) proposalId
    rw [← counted.votesFor, ← counted.votesAgainst, ← counted.totalVoters] at within
    refine ⟨counted.votesFor, counted.votesAgainst, counted.totalVoters, by omega, ?_⟩
    exact fun voter previousVote vote whitelisted => voteUpdate_of_counted counted whitelisted vote
  · exact fun block op e s' failed => exec_error failed

section Sample

def majority : VoteConfig := { threshold := .Majority, vetoDurationSeconds := none }

/-- A contract that has just been set up for majority votes. -/
def newVoting : VotingStore :=
  { VotingStore.empty with nextProposalId := some 0, voteConfig := some majority }

def alice : Addr := ⟨"alice"⟩
def bob : Addr := ⟨"bob"⟩

/-- Two voters are asked, and one of them changes her mind. -/
def revote : List (BlockInfo × VoteOp) :=
  [(⟨1, 0⟩, .NewProposal 10 ⟨[alice, bob], by decide⟩),
    (⟨1, 0⟩, .CastVote 1 alice ⟨true, none⟩),
    (⟨2, 5⟩, .CastVote 1 bob ⟨false, none⟩),
    (⟨3, 6⟩, .CastVote 1 alice ⟨false, some "changed my mind"⟩)]

end Sample

theorem run_tally_revote :
    call (instantiate majority) .empty = (.ok (), newVoting) ∧
      ∃ info, (run newVoting revote).proposalsInfo.lookup 1 = some info ∧
        info.votesAgainst = 2 ∧
        info.votesAgainst = votersWith (run newVoting revote) 1 isAgainst := by
  have created : call (instantiate majority) .empty = (.ok (), newVoting) := rfl
  exact ⟨created, _, rfl, rfl, ((run_tally created revote).1 1 _ rfl).2.1⟩

end AbstractFramework.Voting
