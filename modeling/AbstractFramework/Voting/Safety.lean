import AbstractFramework.Objects.Decimals
import AbstractFramework.Voting.Lifecycle

/-! # Safe vote configurations

The config of a vote is checked when the contract is set up and not when it is updated, and
neither the veto period nor the end of a proposal is checked at all.  They are added when the
proposal is loaded, which is where a sum that is too large panics.

`Safe` says that the thresholds are percentages that can be reached and that no operation
panics.  `Sound` is what this means for the store, and `Accepts` when an operation keeps it.
-/

namespace AbstractFramework.Voting

open AbstractFramework Fallible Storage Effects

/-- The failures that abort the contract. -/
def Panics {ε : Type} : VoteFailure ε → Prop
  | .panicked _ => True
  | .error _ => False

/-- A percentage is above 0 and at most 1. -/
def Threshold.InRange : Threshold → Prop
  | .Majority => True
  | .Percentage percent => 0 < percent.toRat ∧ percent.toRat ≤ 1

structure Safe (s : VotingStore) : Prop where
  config : ∀ config, s.voteConfig = some config → config.threshold.InRange
  snapshots : ∀ proposalId info, s.proposalsInfo.lookup proposalId = some info →
    info.config.threshold.InRange
  operations : ∀ block op, Avoids Panics (call (exec block op) s).1
  loads : ∀ block proposalId, Avoids Panics (loadProposal block proposalId s)

/-- A proposal whose end and veto period fit together in a time, while they are still added. -/
structure ProposalInfo.Sound (info : ProposalInfo) : Prop where
  threshold : info.config.threshold.InRange
  expires : info.status = .Active → info.endTimestamp + info.vetoDuration < 2 ^ 64

structure Sound (s : VotingStore) : Prop where
  config : ∀ config, s.voteConfig = some config → config.threshold.InRange
  infos : ∀ proposalId info, s.proposalsInfo.lookup proposalId = some info → info.Sound
  /-- There is an id left. -/
  ids : ∀ id, s.nextProposalId = some id → id + 1 < 2 ^ 64

/-- The operations after which the store is still sound: a new config is in range, and for a
    new proposal the time of its end and the veto period that is configured are not too large
    together, and it does not take the last id. -/
def Accepts (s : VotingStore) : VoteOp → Prop
  | .UpdateVoteConfig newVoteConfig => newVoteConfig.threshold.InRange
  | .NewProposal endTimestamp initialVoters =>
    initialVoters.elems.Nodup → ∀ config, s.voteConfig = some config →
      (ProposalInfo.new initialVoters.elems.length config endTimestamp).Sound ∧
      ∀ id, s.nextProposalId = some id → id + 2 < 2 ^ 64
  | _ => True

variable {s s' : VotingStore} {block : BlockInfo} {proposalId : ProposalId} {info : ProposalInfo}

/-! ## Checks -/

theorem validatePercentage_eq_ok {threshold : Threshold} {u : Unit} :
    threshold.validatePercentage = .ok u ↔ threshold.InRange := by
  cases threshold with
  | Majority => simp [Threshold.validatePercentage, Threshold.InRange]
  | Percentage percent =>
    have above : 0 < percent.toRat ↔ percent.atomics ≠ 0 := by
      rw [Decimal.toRat, FixedPoint.value_pos_iff (by decide), Nat.pos_iff_ne_zero]
    have below : percent.toRat ≤ 1 ↔ percent.atomics ≤ Decimal.one.atomics := by
      rw [Decimal.toRat, FixedPoint.value_le_one_iff (by decide)]
      rfl
    simp only [Threshold.validatePercentage, Threshold.InRange, above, below]
    by_cases zero : percent.atomics = 0
    · simp [zero]
    · by_cases large : Decimal.one.atomics < percent.atomics
      · simp [zero, large]
      · simp [zero, large, Nat.le_of_not_lt large]

theorem avoids_addChecked_iff {ε : Type} {w a b : Nat} :
    Avoids Panics (addChecked w a b : Except (VoteFailure ε) Nat) ↔ a + b < 2 ^ w := by
  unfold addChecked
  by_cases fits : a + b < 2 ^ w
  · simp [fits, avoids_ok]
  · simp [fits, Avoids, Panics]

theorem avoids_vetoExpiration_iff :
    Avoids Panics info.vetoExpiration ↔ info.endTimestamp + info.vetoDuration < 2 ^ 64 := by
  unfold ProposalInfo.vetoExpiration plusSeconds mulChecked
  by_cases fits : info.config.vetoDurationSeconds.getD 0 * 1000000000 < 2 ^ 64
  · rw [if_pos fits, ok_bind]
    exact avoids_addChecked_iff
  · rw [if_neg fits, error_bind]
    have large : ¬ info.endTimestamp + info.vetoDuration < 2 ^ 64 := by
      intro small
      exact fits (Nat.lt_of_le_of_lt (Nat.le_add_left _ _) small)
    simp only [large, iff_false]
    intro quiet
    exact quiet _ rfl trivial

theorem exists_expiration (fits : info.endTimestamp + info.vetoDuration < 2 ^ 64) :
    ∃ expiration, info.vetoExpiration = .ok expiration := by
  cases h : info.vetoExpiration with
  | ok expiration => exact ⟨expiration, rfl⟩
  | error e =>
    have quiet := avoids_vetoExpiration_iff.mpr fits e h
    cases e with
    | panicked text => exact absurd trivial quiet
    | error e =>
      -- the sum of two times has no other error
      simp only [ProposalInfo.vetoExpiration, plusSeconds, mulChecked, addChecked] at h
      split at h
      · rw [ok_bind] at h
        split at h <;> cases h
      · cases h

/-! ## What panics -/

theorem avoids_loadProposal (sound : Sound s) (block : BlockInfo) (proposalId : ProposalId) :
    Avoids Panics (loadProposal block proposalId s) := by
  apply (avoids_okOr id).bind
  intro info found
  have known := sound.infos proposalId info (okOr_eq_ok.mp found)
  cases active : info.status with
  | Active =>
    obtain ⟨expiration, expires⟩ := exists_expiration (known.expires active)
    rw [expires]
    dsimp only [ok_bind]
    split
    · split
      · exact avoids_pure _
      · exact avoids_pure _
    · exact avoids_pure _
  | VetoPeriod | WaitingForCount | Finished => exact avoids_pure _

/-- A proposal that is stored as active is loaded in no block, when its veto period ends too
    late. -/
theorem loadProposal_panics (found : s.proposalsInfo.lookup proposalId = some info)
    (active : info.status = .Active)
    (quiet : Avoids Panics (loadProposal block proposalId s)) :
    info.endTimestamp + info.vetoDuration < 2 ^ 64 := by
  apply avoids_vetoExpiration_iff.mp
  intro e failed
  apply quiet e
  simp only [loadProposal, found, okOr, ok_bind, active, failed, error_bind]

theorem avoids_assertActiveProposal : Avoids Panics info.assertActiveProposal := by
  unfold ProposalInfo.assertActiveProposal
  cases info.status with
  | Active => exact avoids_ok ()
  | VetoPeriod | WaitingForCount | Finished => exact avoids_error id

theorem avoids_assertVetoPeriod : Avoids Panics info.assertVetoPeriod := by
  unfold ProposalInfo.assertVetoPeriod
  cases info.status with
  | VetoPeriod => exact avoids_ok ()
  | Active | WaitingForCount | Finished => exact avoids_error id

theorem avoids_newProposal (sound : Sound s) (endTimestamp : Timestamp) (initialVoters : Slice Addr) :
    Avoids Panics (call (newProposal endTimestamp initialVoters) s).1 :=
  avoids_newProposal_of (avoids_ensure id) (fun _ => id)
    (fun id found => avoids_addChecked_iff.mpr (sound.ids id found)) endTimestamp

theorem avoids_castVote (tallied : Tallied s) (sound : Sound s) (voter : Addr) (vote : Vote) :
    Avoids Panics (call (castVote block proposalId voter vote) s).1 := by
  apply avoids_call_bind (avoids_loadProposal sound block proposalId)
  intro info s₁ loaded
  obtain ⟨load, rfl⟩ := Prod.mk.inj loaded
  apply avoids_call_bind avoids_assertActiveProposal
  intro _ s₁ asserted
  obtain ⟨active, rfl⟩ := Prod.mk.inj asserted
  apply avoids_call_bind (avoids_okOr id)
  intro previousVote s₁ read
  obtain ⟨previous, rfl⟩ := Prod.mk.inj read
  -- what is loaded as active is what is stored, so its counters count the votes
  obtain ⟨stored, found, seen⟩ := loadProposal_eq_ok.mp load
  obtain ⟨rfl, -⟩ := seen.active_iff (assertActiveProposal_eq_ok.mp active)
  obtain ⟨updated, update⟩ :=
    voteUpdate_of_counted (tallied.counted found) (okOr_eq_ok.mp previous) vote
  apply avoids_call_bind
  · rw [call_lift, update]
    exact avoids_ok updated
  · intro updated' s₁ _
    apply Total.avoids
    apply (total_write _).bind
    intro _
    exact (total_saveProposal _).bind fun _ => total_pure _

theorem avoids_exec (tallied : Tallied s) (sound : Sound s) (op : VoteOp) :
    Avoids Panics (call (exec block op) s).1 := by
  cases op with
  | UpdateVoteConfig newVoteConfig => exact (total_write _).avoids s
  | NewProposal endTimestamp initialVoters =>
    exact avoids_call_forget.mpr (avoids_newProposal sound endTimestamp initialVoters)
  | CastVote proposalId voter vote =>
    exact avoids_call_forget.mpr (avoids_castVote tallied sound voter vote)
  | CancelProposal proposalId =>
    apply avoids_call_forget.mpr
    apply avoids_call_bind (avoids_loadProposal sound block proposalId)
    intro info s₁ _
    apply avoids_call_bind avoids_assertActiveProposal
    intro _ s₂ _
    exact ((total_saveProposal _).bind fun _ => total_pure _).avoids s₂
  | CountVotes proposalId =>
    apply avoids_call_forget.mpr
    apply avoids_call_bind (avoids_loadProposal sound block proposalId)
    intro info s₁ _
    apply avoids_call_bind (avoids_ensure id)
    intro _ s₂ _
    exact ((total_saveProposal _).bind fun _ => total_pure _).avoids s₂
  | VetoProposal proposalId =>
    apply avoids_call_forget.mpr
    apply avoids_call_bind (avoids_loadProposal sound block proposalId)
    intro info s₁ _
    apply avoids_call_bind avoids_assertVetoPeriod
    intro _ s₂ _
    exact ((total_saveProposal _).bind fun _ => total_pure _).avoids s₂

/-- Without voters a proposal is opened in every store that has an id left. -/
theorem newProposal_panics {id : ProposalId} (next : s.nextProposalId = some id)
    (quiet : Avoids Panics (call (newProposal 0 ⟨[], by decide⟩) s).1) : id + 1 < 2 ^ 64 := by
  by_contra full
  have add : (addChecked 64 id 1 : Except Stop Nat) =
      .error (.panicked "attempt to add with overflow") := if_neg full
  apply quiet (.panicked "attempt to add with overflow")
  · simp [newProposal, advanceProposalId, call_bind, ensure, next, okOr, add]
  · trivial

/-- A tallied store is safe exactly when it is sound. -/
theorem safe_iff (tallied : Tallied s) : Safe s ↔ Sound s := by
  constructor
  · intro safe
    refine ⟨safe.config, ?_, ?_⟩
    · intro proposalId info found
      refine ⟨safe.snapshots proposalId info found, ?_⟩
      intro active
      exact loadProposal_panics found active (safe.loads ⟨0, 0⟩ _)
    · intro id next
      have quiet := safe.operations ⟨0, 0⟩ (.NewProposal 0 ⟨[], by decide⟩)
      exact newProposal_panics next (avoids_call_forget.mp quiet)
  · intro sound
    refine ⟨sound.config, ?_, ?_, ?_⟩
    · exact fun proposalId info found => (sound.infos proposalId info found).threshold
    · exact fun block op => avoids_exec tallied sound op
    · exact avoids_loadProposal sound

/-! ## What keeps the store sound -/

/-- A new proposal in a store that has a config and an id left. -/
theorem newProposal_opens {id : ProposalId} {config : VoteConfig} {endTimestamp : Timestamp}
    {initialVoters : Slice Addr} (next : s.nextProposalId = some id)
    (configured : s.voteConfig = some config) (room : id + 1 < 2 ^ 64)
    (distinct : initialVoters.elems.Nodup) :
    call (newProposal endTimestamp initialVoters) s = (.ok (id + 1),
      { s with
        nextProposalId := some (id + 1)
        proposals := insertAll s.proposals
          (initialVoters.elems.map fun voter => ((id + 1, voter), none))
        proposalsInfo := s.proposalsInfo.insert (id + 1)
          (ProposalInfo.new initialVoters.elems.length config endTimestamp) }) := by
  have add : (addChecked 64 id 1 : Except Stop Nat) = .ok (id + 1) := if_pos room
  simp only [newProposal, advanceProposalId, saveProposal, call_bind, call_lift, call_reading,
    call_write, call_pure, ensure, if_pos distinct, next, okOr, add, loadConfig, configured,
    Nat.mod_eq_of_lt initialVoters.length_lt]

theorem newProposal_refused {endTimestamp : Timestamp} {initialVoters : Slice Addr}
    (repeated : ¬ initialVoters.elems.Nodup) :
    call (newProposal endTimestamp initialVoters) s = (.error (.error .DuplicateAddrs), s) := by
  simp only [newProposal, call_bind, call_lift, ensure, if_neg repeated]

/-- The two operations that change the config or the next id. -/
def VoteOp.Configures : VoteOp → Prop
  | .UpdateVoteConfig _ => True
  | .NewProposal _ _ => True
  | _ => False

/-- What the other operations leave as it is. -/
theorem exec_frame {op : VoteOp} (other : ¬ op.Configures) :
    (call (exec block op) s).2.voteConfig = s.voteConfig ∧
      (call (exec block op) s).2.nextProposalId = s.nextProposalId := by
  have kept : ∀ {α : Type} {x : VoteResult α}, Atomic x →
      (∀ a s', call x s = (.ok a, s') →
        s'.voteConfig = s.voteConfig ∧ s'.nextProposalId = s.nextProposalId) →
      (call (x >>= fun _ => pure ()) s).2.voteConfig = s.voteConfig ∧
        (call (x >>= fun _ => pure ()) s).2.nextProposalId = s.nextProposalId := by
    intro α x atomic ok
    rw [call_forget]
    cases h : call x s with
    | mk result s' =>
      cases result with
      | error e =>
        rw [atomic s e s' h]
        exact ⟨rfl, rfl⟩
      | ok a => exact ok a s' h
  cases op with
  | UpdateVoteConfig newVoteConfig => exact absurd trivial other
  | NewProposal endTimestamp initialVoters => exact absurd trivial other
  | CastVote proposalId voter vote =>
    apply kept (atomic_castVote voter vote)
    intro info s' h
    obtain ⟨_, _, -, -, -, -, -, -, rfl⟩ := castVote_ok h
    exact ⟨rfl, rfl⟩
  | CancelProposal proposalId =>
    apply kept atomic_cancelProposal
    intro info s' h
    obtain ⟨_, -, -, -, -, -, rfl⟩ := cancelProposal_ok h
    exact ⟨rfl, rfl⟩
  | CountVotes proposalId =>
    apply kept atomic_countVotes
    intro counted s' h
    obtain ⟨_, _, -, -, -, -, -, rfl⟩ := countVotes_ok h
    exact ⟨rfl, rfl⟩
  | VetoProposal proposalId =>
    apply kept atomic_vetoProposal
    intro info s' h
    obtain ⟨_, _, _, -, -, -, -, rfl⟩ := vetoProposal_ok h
    exact ⟨rfl, rfl⟩

/-- Voting, cancelling, counting and a veto keep the end and the config of every proposal that
    they leave active. -/
theorem Sound.effect (sound : Sound s) (effect : Effect block s s')
    (config : s'.voteConfig = s.voteConfig) (ids : s'.nextProposalId = s.nextProposalId) :
    Sound s' := by
  refine ⟨config ▸ sound.config, ?_, ids ▸ sound.ids⟩
  intro proposalId info found
  cases effect with
  | kept proposals infos _ => exact sound.infos proposalId info (infos ▸ found)
  | opened id config endTimestamp initialVoters next distinct =>
    rw [next] at ids
    simp at ids
  | voted id voter vote stored updated previousVote found' active whitelisted update =>
    rcases lookup_insert_cases found with ⟨_, rfl⟩ | ⟨_, found⟩
    · have known := sound.infos id stored found'
      obtain ⟨-, -, same⟩ := voteUpdate_ok update
      rw [same]
      exact ⟨known.threshold, fun _ => known.expires active⟩
    · exact sound.infos proposalId info found
  | finished id stored outcome endTimestamp found' unfinished =>
    rcases lookup_insert_cases found with ⟨_, rfl⟩ | ⟨_, found⟩
    · refine ⟨(sound.infos id stored found').threshold, ?_⟩
      intro active
      cases active
    · exact sound.infos proposalId info found

/-- Opening a proposal. -/
theorem Sound.opened_iff {id : ProposalId} {opened : ProposalInfo}
    {proposals : Map (ProposalId × Addr) (Option Vote)} (sound : Sound s) :
    Sound { s with
        nextProposalId := some (id + 1)
        proposals := proposals
        proposalsInfo := s.proposalsInfo.insert (id + 1) opened } ↔
      opened.Sound ∧ id + 2 < 2 ^ 64 := by
  constructor
  · intro after
    exact ⟨after.infos (id + 1) opened (AList.lookup_insert _), after.ids (id + 1) rfl⟩
  · rintro ⟨fits, room⟩
    refine ⟨sound.config, ?_, ?_⟩
    · intro proposalId info found
      rcases lookup_insert_cases found with ⟨_, rfl⟩ | ⟨_, found⟩
      · exact fits
      · exact sound.infos proposalId info found
    · rintro _ ⟨⟩
      exact room

/-- One operation. -/
theorem Sound.exec_iff {config : VoteConfig} {op : VoteOp} (sound : Sound s) (tallied : Tallied s)
    (configured : s.voteConfig = some config) :
    Sound (call (exec block op) s).2 ↔ Accepts s op := by
  have frame : ¬ op.Configures → Sound (call (exec block op) s).2 := fun other =>
    sound.effect (exec_effect op) (exec_frame other).1 (exec_frame other).2
  cases op with
  | UpdateVoteConfig newVoteConfig =>
    constructor
    · intro after
      exact after.config newVoteConfig rfl
    · intro inRange
      refine ⟨?_, sound.infos, sound.ids⟩
      rintro _ ⟨⟩
      exact inRange
  | NewProposal endTimestamp initialVoters =>
    obtain ⟨id, next, -, -⟩ := tallied.ids
    simp only [exec, call_forget, Accepts, configured, next, Option.some.injEq, forall_eq']
    by_cases distinct : initialVoters.elems.Nodup
    · rw [newProposal_opens next configured (sound.ids id next) distinct]
      simp only [distinct, forall_const]
      exact sound.opened_iff
    · rw [newProposal_refused distinct]
      simp only [distinct, IsEmpty.forall_iff, iff_true]
      exact sound
  | CastVote | CancelProposal | CountVotes | VetoProposal =>
    exact iff_of_true (frame id) trivial

/-! ## Every run -/

theorem sound_instantiate {config : VoteConfig}
    (h : call (instantiate config) .empty = (.ok (), s)) :
    Sound s ∧ s.voteConfig = some config := by
  simp only [instantiate, call_bind_ok, call_lift, call_write, Prod.mk.injEq, mapError_eq_ok,
    validatePercentage_eq_ok] at h
  obtain ⟨_, _, ⟨inRange, rfl⟩, _, _, ⟨-, rfl⟩, -, rfl⟩ := h
  refine ⟨⟨?_, ?_, ?_⟩, rfl⟩
  · rintro _ ⟨⟩
    exact inRange
  · intro proposalId info found
    cases found
  · rintro _ ⟨⟩
    decide

/-- A contract that has been set up. -/
def Configured (s : VotingStore) : Prop := ∃ config, s.voteConfig = some config

theorem Configured.exec (configured : Configured s) (op : VoteOp) :
    Configured (call (exec block op) s).2 := by
  obtain ⟨config, configured⟩ := configured
  by_cases other : op.Configures
  · cases op with
    | UpdateVoteConfig newVoteConfig => exact ⟨newVoteConfig, rfl⟩
    | NewProposal endTimestamp initialVoters =>
      refine ⟨config, ?_⟩
      simp only [Voting.exec, call_forget]
      cases h : call (newProposal endTimestamp initialVoters) s with
      | mk result s' =>
        cases result with
        | ok id =>
          obtain ⟨_, _, -, -, -, -, -, rfl⟩ := newProposal_ok h
          exact configured
        | error e =>
          rcases newProposal_error h with rfl | ⟨_, -, rfl⟩
          · exact configured
          · exact configured
    | CastVote | CancelProposal | CountVotes | VetoProposal => exact absurd other id
  · exact ⟨config, (exec_frame other).1.trans configured⟩

structure Ready (s : VotingStore) : Prop where
  tallied : Tallied s
  configured : Configured s
  sound : Sound s

theorem Ready.exec_iff (ready : Ready s) (op : VoteOp) :
    Ready (call (exec block op) s).2 ↔ Accepts s op := by
  obtain ⟨config, configured⟩ := ready.configured
  have sound_iff : Sound (call (exec block op) s).2 ↔ Accepts s op :=
    ready.sound.exec_iff ready.tallied configured
  rw [← sound_iff]
  constructor
  · intro after
    exact after.sound
  · intro sound
    exact ⟨ready.tallied.effect (exec_effect op), ready.configured.exec op, sound⟩

theorem configured_run (configured : Configured s) (ops : List (BlockInfo × VoteOp)) :
    Configured (run s ops) := by
  apply Machine.run_invariant ops _ configured
  intro m op m' r held ok
  obtain ⟨rfl, -⟩ := Prod.mk.inj (Except.ok.inj ok)
  exact held.exec op.2

/-- Every state of a run is safe exactly when every operation of it is accepted in the state in
    which it is executed. -/
theorem run_safe_iff {config : VoteConfig} {start : VotingStore}
    (created : call (instantiate config) .empty = (.ok (), start))
    (ops : List (BlockInfo × VoteOp)) :
    (∀ seen, seen <+: ops → Safe (run start seen)) ↔
      Machine.Along (machine fun op => exec op.1 op.2) (fun s op => Accepts s op.2) start ops := by
  have tallied := tallied_instantiate created
  obtain ⟨sound, configured⟩ := sound_instantiate created
  have ready_iff : (∀ seen, seen <+: ops → Ready (run start seen)) ↔
      Machine.Along (machine fun op => exec op.1 op.2) (fun s op => Accepts s op.2) start ops :=
    machine_invariant_iff (fun s op (ready : Ready s) => ready.exec_iff op.2)
      ⟨tallied, ⟨config, configured⟩, sound⟩
  rw [← ready_iff]
  constructor
  · intro safe seen within
    have stillTallied := tallied_run tallied seen
    exact ⟨stillTallied, configured_run ⟨config, configured⟩ seen,
      (safe_iff stillTallied).mp (safe seen within)⟩
  · intro ready seen within
    exact (safe_iff (ready seen within).tallied).mpr (ready seen within).sound

section Sample

def twice : VoteConfig := { threshold := .Percentage ⟨2 * 10 ^ 18⟩, vetoDurationSeconds := none }

/-- The longest veto period that can be asked for. -/
def endlessVeto : VoteConfig :=
  { threshold := .Majority, vetoDurationSeconds := some (2 ^ 64 - 1) }

/-- A threshold that no vote can reach. -/
def unreachable : List (BlockInfo × VoteOp) := [(⟨1, 0⟩, .UpdateVoteConfig twice)]

/-- A proposal whose veto period does not end. -/
def blocked : List (BlockInfo × VoteOp) :=
  [(⟨1, 0⟩, .UpdateVoteConfig endlessVeto), (⟨1, 0⟩, .NewProposal 10 ⟨[alice], by decide⟩)]

end Sample

theorem run_safe_revote : Safe (run newVoting revote) := by
  have created : call (instantiate majority) .empty = (.ok (), newVoting) := rfl
  have accepted : Machine.Along (machine fun op => exec op.1 op.2) (fun s op => Accepts s op.2)
      newVoting revote := by
    refine ⟨?_, trivial, trivial, trivial, trivial⟩
    rintro - _ ⟨⟩
    refine ⟨⟨trivial, fun _ => by decide⟩, ?_⟩
    rintro _ ⟨⟩
    decide
  exact (run_safe_iff created revote).mpr accepted revote List.prefix_rfl

/-- After an update of the config, neither the thresholds nor the operations are safe. -/
theorem update_config_unsafe :
    call (instantiate majority) .empty = (.ok (), newVoting) ∧
      ¬ Safe (run newVoting unreachable) ∧
      ¬ Safe (run newVoting blocked) ∧
      loadProposal ⟨1, 0⟩ 1 (run newVoting blocked) =
        .error (.panicked "attempt to multiply with overflow") := by
  have panics : loadProposal ⟨1, 0⟩ 1 (run newVoting blocked) =
      .error (.panicked "attempt to multiply with overflow") := by decide +kernel
  refine ⟨rfl, ?_, ?_, panics⟩
  · intro safe
    have inRange := (safe.config twice rfl).2
    norm_num [Decimal.toRat, FixedPoint.value] at inRange
  · intro safe
    exact safe.loads ⟨1, 0⟩ 1 _ panics trivial

end AbstractFramework.Voting
