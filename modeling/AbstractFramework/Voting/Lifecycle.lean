import AbstractFramework.Voting.Tally

/-! # The lifecycle of a proposal

What is stored of a proposal is open or finished; the periods in between are seen
when it is loaded.  `Progress` is what may become of a stored proposal: while it is
open its end and its config stay, and once it is finished nothing of it changes.
The order of the periods follows, because loading an open proposal at a later time
sees the same end and the same config.
-/

namespace AbstractFramework.Voting

open AbstractFramework Fallible Storage Effects

/-! ## The order of the periods -/

def ProposalStatus.rank : ProposalStatus → Nat
  | .Active => 0
  | .VetoPeriod _ => 1
  | .WaitingForCount => 2
  | .Finished _ => 3

def ProposalStatus.isFinished : ProposalStatus → Prop
  | .Finished _ => True
  | _ => False

theorem ProposalStatus.rank_le (status : ProposalStatus) : status.rank ≤ 3 := by
  cases status <;> simp [rank]

theorem ProposalStatus.isFinished_iff {status : ProposalStatus} :
    status.isFinished ↔ ∃ outcome, status = .Finished outcome := by
  cases status <;> simp [isFinished]

/-- The veto period of a proposal in nanoseconds. -/
def ProposalInfo.vetoDuration (info : ProposalInfo) : Nat :=
  info.config.vetoDurationSeconds.getD 0 * 1000000000

/-- The veto period is over when it has lasted for its duration. -/
theorem vetoExpiration_ok {info : ProposalInfo} {expiration : Timestamp}
    (h : info.vetoExpiration = .ok expiration) :
    expiration = info.endTimestamp + info.vetoDuration := by
  simp only [ProposalInfo.vetoExpiration, plusSeconds, mulChecked, bind_eq_ok, addChecked_eq_ok] at h
  obtain ⟨nanos, product, -, rfl⟩ := h
  split at product
  · rw [← Except.ok.inj product]
    rfl
  · cases product

/-! ## What becomes of a stored proposal -/

/-- What may become of a stored proposal. -/
inductive Progress (stored : ProposalInfo) : ProposalInfo → Prop where
  | same : Progress stored stored
  | active {stored' : ProposalInfo} (before : stored.status = .Active)
      (after : stored'.status = .Active) (config : stored'.config = stored.config)
      (ends : stored'.endTimestamp = stored.endTimestamp) : Progress stored stored'
  | finished {stored' : ProposalInfo} (before : ¬ stored.status.isFinished)
      (after : stored'.status.isFinished) : Progress stored stored'

theorem Progress.trans {first second third : ProposalInfo} (here : Progress first second)
    (there : Progress second third) : Progress first third := by
  cases here with
  | same => exact there
  | active before after config ends =>
    cases there with
    | same => exact .active before after config ends
    | active _ after' config' ends' =>
      exact .active before after' (config'.trans config) (ends'.trans ends)
    | finished _ after' => exact .finished (by simp [before, ProposalStatus.isFinished]) after'
  | finished before after =>
    cases there with
    | same => exact .finished before after
    | active before' =>
      rw [before'] at after
      exact after.elim
    | finished before' => exact absurd after before'

theorem Progress.of_finished {stored stored' : ProposalInfo} (progress : Progress stored stored')
    (finished : stored.status.isFinished) : stored' = stored := by
  cases progress with
  | same => rfl
  | active before =>
    rw [before] at finished
    exact finished.elim
  | finished before => exact absurd finished before

/-- What may become of a store: its proposals progress, and the votes on a finished one stay. -/
def Later (s s' : VotingStore) : Prop :=
  ∀ proposalId stored, s.proposalsInfo.lookup proposalId = some stored →
    ∃ stored', s'.proposalsInfo.lookup proposalId = some stored' ∧ Progress stored stored' ∧
      (stored.status.isFinished → ∀ voter,
        s'.proposals.lookup (proposalId, voter) = s.proposals.lookup (proposalId, voter))

variable {s s' s'' : VotingStore} {block block' : BlockInfo} {proposalId : ProposalId}

theorem Later.refl (s : VotingStore) : Later s s :=
  fun _ stored found => ⟨stored, found, .same, fun _ _ => rfl⟩

theorem Later.trans (here : Later s s') (there : Later s' s'') : Later s s'' := by
  intro proposalId stored found
  obtain ⟨stored', found', progress, votes⟩ := here proposalId stored found
  obtain ⟨stored'', found'', progress', votes'⟩ := there proposalId stored' found'
  refine ⟨stored'', found'', progress.trans progress', ?_⟩
  intro finished voter
  rw [votes' (progress.of_finished finished ▸ finished) voter, votes finished voter]

theorem Effect.later (tallied : Tallied s) (effect : Effect block s s') : Later s s' := by
  obtain ⟨last, next, known, keys⟩ := tallied.ids
  intro proposalId stored found
  cases effect with
  | kept proposals infos ids => exact ⟨stored, infos ▸ found, .same, fun _ _ => by rw [proposals]⟩
  | opened id config endTimestamp initialVoters next' distinct =>
    obtain rfl : id = last := Option.some.inj (next'.symm.trans next)
    have other : proposalId ≠ id + 1 := by
      have le : proposalId ≤ id := known proposalId (mem_of_lookup found)
      exact Nat.ne_of_lt (Nat.lt_succ_of_le le)
    refine ⟨stored, (AList.lookup_insert_ne other).trans found, .same, ?_⟩
    intro _ voter
    apply lookup_insertAll_of_notMem
    rw [List.map_map]
    intro listed
    obtain ⟨voter', -, same⟩ := List.mem_map.mp listed
    exact other (Prod.mk.inj same).1.symm
  | voted id voter vote stored' info previousVote found' active whitelisted update =>
    by_cases here : proposalId = id
    · subst here
      obtain rfl : stored' = stored := Option.some.inj (found'.symm.trans found)
      obtain ⟨-, -, same⟩ := voteUpdate_ok update
      refine ⟨info, AList.lookup_insert _, ?_, ?_⟩
      · exact .active active (by rw [same]; exact active) (by rw [same]) (by rw [same])
      · intro finished
        rw [active] at finished
        exact finished.elim
    · refine ⟨stored, (AList.lookup_insert_ne here).trans found, .same, ?_⟩
      intro _ voter'
      exact AList.lookup_insert_ne fun same => here (Prod.mk.inj same).1
  | finished id stored' outcome endTimestamp found' unfinished =>
    by_cases here : proposalId = id
    · subst here
      obtain rfl : stored' = stored := Option.some.inj (found'.symm.trans found)
      refine ⟨_, AList.lookup_insert _, .finished ?_ trivial, fun _ _ => rfl⟩
      intro isFinished
      obtain ⟨outcome', finished⟩ := ProposalStatus.isFinished_iff.mp isFinished
      exact unfinished outcome' finished
    · exact ⟨stored, (AList.lookup_insert_ne here).trans found, .same, fun _ _ => rfl⟩

theorem later_run (tallied : Tallied s) (ops : List (BlockInfo × VoteOp)) : Later s (run s ops) := by
  have both : Tallied (run s ops) ∧ Later s (run s ops) := by
    apply Machine.run_invariant (P := fun m => Tallied m ∧ Later s m) ops _ ⟨tallied, .refl s⟩
    intro m op m' r held ok
    obtain ⟨rfl, -⟩ := Prod.mk.inj (Except.ok.inj ok)
    have effect : Effect op.1 m _ := exec_effect op.2
    exact ⟨held.1.effect effect, held.2.trans (effect.later held.1)⟩
  exact both.2

/-! ## What is stored -/

/-- The periods in between are not stored. -/
def Plain (s : VotingStore) : Prop :=
  ∀ proposalId stored, s.proposalsInfo.lookup proposalId = some stored →
    stored.status = .Active ∨ stored.status.isFinished

theorem Plain.effect (plain : Plain s) (effect : Effect block s s') : Plain s' := by
  intro proposalId stored found
  cases effect with
  | kept proposals infos ids => exact plain proposalId stored (infos ▸ found)
  | opened id config endTimestamp initialVoters next distinct =>
    rcases lookup_insert_cases found with ⟨_, rfl⟩ | ⟨_, found⟩
    · exact .inl rfl
    · exact plain proposalId stored found
  | voted id voter vote stored' info previousVote found' active whitelisted update =>
    rcases lookup_insert_cases found with ⟨_, rfl⟩ | ⟨_, found⟩
    · obtain ⟨-, -, same⟩ := voteUpdate_ok update
      rw [same]
      exact .inl active
    · exact plain proposalId stored found
  | finished id stored' outcome endTimestamp found' unfinished =>
    rcases lookup_insert_cases found with ⟨_, rfl⟩ | ⟨_, found⟩
    · exact .inr trivial
    · exact plain proposalId stored found

theorem plain_instantiate {config : VoteConfig}
    (h : call (instantiate config) .empty = (.ok (), s)) : Plain s := by
  simp only [instantiate, call_bind_ok, call_lift, call_write, Prod.mk.injEq] at h
  obtain ⟨_, _, ⟨-, rfl⟩, _, _, ⟨-, rfl⟩, -, rfl⟩ := h
  intro proposalId stored found
  cases found

theorem plain_run (plain : Plain s) (ops : List (BlockInfo × VoteOp)) : Plain (run s ops) := by
  apply Machine.run_invariant ops _ plain
  intro m op m' r held ok
  obtain ⟨rfl, -⟩ := Prod.mk.inj (Except.ok.inj ok)
  exact held.effect (exec_effect op.2)

/-! ## What is loaded -/

/-- An open proposal whose veto period is representable is loaded in every block. -/
theorem exists_loaded {stored : ProposalInfo} {expiration : Timestamp} (block : BlockInfo)
    (active : stored.status = .Active) (expires : stored.vetoExpiration = .ok expiration) :
    ∃ info, Loaded block stored info := by
  by_cases ended : stored.endTimestamp ≤ block.time
  · by_cases time : block.time < expiration
    · exact ⟨_, .veto expiration active expires ended time⟩
    · exact ⟨_, .count expiration active expires ended (Nat.le_of_not_lt time)⟩
  · exact ⟨_, .active expiration active expires (Nat.lt_of_not_le ended)⟩

/-- An open proposal is further when it is loaded later. -/
theorem Loaded.rank_mono {stored stored' info info' : ProposalInfo}
    (active : stored.status = .Active) (active' : stored'.status = .Active)
    (config : stored'.config = stored.config) (ends : stored'.endTimestamp = stored.endTimestamp)
    (le : block.time ≤ block'.time) (loaded : Loaded block stored info)
    (loaded' : Loaded block' stored' info') : info.status.rank ≤ info'.status.rank := by
  have same : stored'.vetoExpiration = stored.vetoExpiration := by
    rw [ProposalInfo.vetoExpiration, ProposalInfo.vetoExpiration, config, ends]
  have closed : stored.endTimestamp ≤ block.time → ¬ block'.time < stored'.endTimestamp := by
    intro ended
    rw [ends]
    exact Nat.not_lt_of_le (Nat.le_trans ended le)
  cases loaded with
  | settled h => exact absurd active h
  | active => simp [active, ProposalStatus.rank]
  | veto expiration _ expires ended time =>
    cases loaded' with
    | settled h => exact absurd active' h
    | active _ _ _ time' => exact absurd time' (closed ended)
    | veto => exact Nat.le_refl 1
    | count => exact Nat.le_succ 1
  | count expiration _ expires ended time =>
    cases loaded' with
    | settled h => exact absurd active' h
    | active _ _ _ time' => exact absurd time' (closed ended)
    | veto expiration' _ expires' _ time' =>
      obtain rfl : expiration = expiration' :=
        Except.ok.inj (expires.symm.trans (same.symm.trans expires'))
      exact absurd (Nat.le_trans time le) (Nat.not_le_of_lt time')
    | count => exact Nat.le_refl 2

/-- A proposal that is loaded is loaded later, is not behind then, and has not changed
    when it was finished. -/
theorem Loaded.later {stored stored' info : ProposalInfo} (loaded : Loaded block stored info)
    (progress : Progress stored stored') (plain : stored.status = .Active ∨ stored.status.isFinished)
    (le : block.time ≤ block'.time) :
    ∃ info', Loaded block' stored' info' ∧ info.status.rank ≤ info'.status.rank ∧
      (info.status.isFinished → info' = info) := by
  rcases plain with active | finished
  · have unfinished : ¬ info.status.isFinished := by
      intro isFinished
      obtain ⟨outcome, status⟩ := ProposalStatus.isFinished_iff.mp isFinished
      rw [loaded.finished_iff, active] at status
      cases status
    obtain ⟨expiration, expires⟩ : ∃ expiration, stored.vetoExpiration = .ok expiration := by
      cases loaded with
      | settled h => exact absurd active h
      | active expiration _ expires | veto expiration _ expires | count expiration _ expires =>
        exact ⟨expiration, expires⟩
    cases progress with
    | same =>
      obtain ⟨info', loaded'⟩ := exists_loaded block' active expires
      exact ⟨info', loaded', loaded.rank_mono active active rfl rfl le loaded',
        fun isFinished => absurd isFinished unfinished⟩
    | active _ active' config ends =>
      have expires' : stored'.vetoExpiration = .ok expiration := by
        rw [ProposalInfo.vetoExpiration, config, ends]
        exact expires
      obtain ⟨info', loaded'⟩ := exists_loaded block' active' expires'
      exact ⟨info', loaded', loaded.rank_mono active active' config ends le loaded',
        fun isFinished => absurd isFinished unfinished⟩
    | finished _ after =>
      obtain ⟨outcome, status⟩ := ProposalStatus.isFinished_iff.mp after
      refine ⟨stored', .settled (by simp [status]), ?_,
        fun isFinished => absurd isFinished unfinished⟩
      rw [status]
      exact info.status.rank_le
  · obtain rfl := progress.of_finished finished
    have settled : stored'.status ≠ .Active := by
      intro active
      rw [active] at finished
      exact finished.elim
    obtain rfl : info = stored' := by
      cases loaded with
      | settled | active => rfl
      | veto _ h | count _ h => exact absurd h settled
    exact ⟨info, .settled settled, Nat.le_refl _, fun _ => rfl⟩

/-- The veto period of a proposal that is stored as open or finished. -/
theorem Loaded.veto_window {stored info : ProposalInfo} {expiration : Timestamp}
    (loaded : Loaded block stored info) (plain : stored.status = .Active ∨ stored.status.isFinished)
    (period : info.status = .VetoPeriod expiration) :
    info.endTimestamp ≤ block.time ∧ block.time < info.endTimestamp + info.vetoDuration := by
  cases loaded with
  | settled h =>
    rw [period] at plain
    rcases plain with active | finished
    · cases active
    · exact finished.elim
  | active _ h =>
    rw [period] at h
    cases h
  | veto expiration' h expires ended time =>
    rw [vetoExpiration_ok expires] at time
    exact ⟨ended, time⟩
  | count => cases period

theorem Loaded.count_window {stored info : ProposalInfo} (loaded : Loaded block stored info)
    (plain : stored.status = .Active ∨ stored.status.isFinished)
    (waiting : info.status = .WaitingForCount) :
    info.endTimestamp + info.vetoDuration ≤ block.time := by
  cases loaded with
  | settled h =>
    rw [waiting] at plain
    rcases plain with active | finished
    · cases active
    · exact finished.elim
  | active _ h =>
    rw [waiting] at h
    cases h
  | veto => cases waiting
  | count expiration h expires ended time =>
    rw [vetoExpiration_ok expires] at time
    exact time

/-! ## Every run -/

/-- In every state that is reached and in every block: a proposal that is loaded now is
    loaded in every later block, is not behind then, and if it is finished, then neither it,
    its outcome and its counters included, nor the votes on it have changed.  Votes and
    cancels succeed only while it is active, a veto only in the veto period and a count only
    after it.  The blocks of the operations do not matter. -/
theorem run_lifecycle {config : VoteConfig} {start : VotingStore}
    (created : call (instantiate config) .empty = (.ok (), start))
    (before after : List (BlockInfo × VoteOp)) (now later : BlockInfo)
    (le : now.time ≤ later.time) (proposalId : ProposalId) :
    (∀ info, loadProposal now proposalId (run start before) = .ok info →
      ∃ info', loadProposal later proposalId (run start (before ++ after)) = .ok info' ∧
        info.status.rank ≤ info'.status.rank ∧
        (info.status.isFinished → info' = info ∧ ∀ voter,
          (run start (before ++ after)).proposals.lookup (proposalId, voter) =
            (run start before).proposals.lookup (proposalId, voter))) ∧
    (∀ voter vote result s',
      call (castVote now proposalId voter vote) (run start before) = (.ok result, s') →
      ∃ info, loadProposal now proposalId (run start before) = .ok info ∧
        info.status = .Active ∧ now.time < info.endTimestamp) ∧
    (∀ result s', call (cancelProposal now proposalId) (run start before) = (.ok result, s') →
      ∃ info, loadProposal now proposalId (run start before) = .ok info ∧
        info.status = .Active ∧ now.time < info.endTimestamp) ∧
    (∀ result s', call (vetoProposal now proposalId) (run start before) = (.ok result, s') →
      ∃ info, loadProposal now proposalId (run start before) = .ok info ∧
        info.endTimestamp ≤ now.time ∧ now.time < info.endTimestamp + info.vetoDuration) ∧
    ∀ result s', call (countVotes now proposalId) (run start before) = (.ok result, s') →
      ∃ info, loadProposal now proposalId (run start before) = .ok info ∧
        info.endTimestamp + info.vetoDuration ≤ now.time := by
  have tallied := tallied_run (tallied_instantiate created) before
  have plain := plain_run (plain_instantiate created) before
  have further : run start (before ++ after) = run (run start before) after :=
    Machine.run_append start before after
  refine ⟨?_, ?_, ?_, ?_, ?_⟩
  · intro info load
    obtain ⟨stored, found, loaded⟩ := loadProposal_eq_ok.mp load
    obtain ⟨stored', found', progress, votes⟩ := later_run tallied after proposalId stored found
    obtain ⟨info', loaded', rank, same⟩ : ∃ info', Loaded later stored' info' ∧
        info.status.rank ≤ info'.status.rank ∧ (info.status.isFinished → info' = info) :=
      loaded.later progress (plain proposalId stored found) le
    rw [further]
    refine ⟨info', loadProposal_eq_ok.mpr ⟨stored', found', loaded'⟩, rank, ?_⟩
    intro finished
    refine ⟨same finished, votes ?_⟩
    obtain ⟨outcome, status⟩ := ProposalStatus.isFinished_iff.mp finished
    exact ProposalStatus.isFinished_iff.mpr ⟨outcome, loaded.finished_iff.mp status⟩
  · intro voter vote result s' ok
    obtain ⟨stored, _, _, load, active, time, _⟩ := castVote_ok ok
    exact ⟨stored, load, active, time⟩
  · intro result s' ok
    obtain ⟨stored, _, load, active, time, _⟩ := cancelProposal_ok ok
    exact ⟨stored, load, active, time⟩
  · intro result s' ok
    obtain ⟨stored, info, expiration, found, loaded, period, _⟩ := vetoProposal_ok ok
    exact ⟨info, loadProposal_eq_ok.mpr ⟨stored, found, loaded⟩,
      loaded.veto_window (plain proposalId stored found) period⟩
  · intro result s' ok
    obtain ⟨stored, info, found, loaded, waiting, _⟩ := countVotes_ok ok
    exact ⟨info, loadProposal_eq_ok.mpr ⟨stored, found, loaded⟩,
      loaded.count_window (plain proposalId stored found) waiting⟩

/-- The two voters of the sample vote against, and the count ends the vote. -/
theorem run_lifecycle_revote :
    (run newVoting revote).proposalsInfo.lookup 1 ≠ none ∧
      ∃ info', loadProposal ⟨5, 11⟩ 1 (run newVoting (revote ++ [(⟨4, 10⟩, .CountVotes 1)])) =
        .ok info' ∧ ProposalStatus.WaitingForCount.rank ≤ info'.status.rank := by
  have created : call (instantiate majority) .empty = (.ok (), newVoting) := rfl
  have waiting : ∃ info, loadProposal ⟨4, 10⟩ 1 (run newVoting revote) = .ok info ∧
      info.status = .WaitingForCount :=
    ⟨_, loadProposal_eq_ok.mpr ⟨_, rfl, .count 10 rfl (by decide +kernel) (by decide) (by decide)⟩,
      rfl⟩
  refine ⟨by decide, ?_⟩
  obtain ⟨info, load, status⟩ := waiting
  obtain ⟨info', load', rank, -⟩ := (run_lifecycle created revote [(⟨4, 10⟩, .CountVotes 1)] ⟨4, 10⟩
    ⟨5, 11⟩ (by decide) 1).1 info load
  exact ⟨info', load', status ▸ rank⟩

end AbstractFramework.Voting
