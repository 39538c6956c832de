import Mathlib.Algebra.Ring.Nat
import AbstractFramework.Lib.Effects
import AbstractFramework.Objects.Chain

/-! # Simple voting

A state object that lets a contract hold votes.  A proposal is opened for a list
of voters and an end time.  What is stored of its status is only whether it is
finished: the veto period and the time for the count are read off the block time
when the proposal is loaded.

The operations work on the storage of the contract that holds the object, so what
an operation wrote before it failed stays there unless the contract fails too.
-/

namespace AbstractFramework.Voting

open AbstractFramework Fallible Storage Effects

/-! ## Machine integers and times -/

/-- How an operation stops: with an error that it returns, or in a panic. -/
inductive VoteFailure (ε : Type) where
  | error (e : ε)
  | panicked (text : String)
deriving DecidableEq, Repr

/-- `+` on unsigned integers of `w` bits. -/
def addChecked {ε : Type} (w a b : Nat) : Except (VoteFailure ε) Nat :=
  if a + b < 2 ^ w then .ok (a + b) else .error (.panicked "attempt to add with overflow")

/-- `-` on unsigned integers. -/
def subChecked {ε : Type} (a b : Nat) : Except (VoteFailure ε) Nat :=
  if b ≤ a then .ok (a - b) else .error (.panicked "attempt to subtract with overflow")

/-- `*` on unsigned integers of `w` bits. -/
def mulChecked {ε : Type} (w a b : Nat) : Except (VoteFailure ε) Nat :=
  if a * b < 2 ^ w then .ok (a * b) else .error (.panicked "attempt to multiply with overflow")

/-- A point in time in nanoseconds. -/
abbrev Timestamp := Nat

def plusSeconds {ε : Type} (t : Timestamp) (addition : Nat) : Except (VoteFailure ε) Timestamp := do
  let nanos ← mulChecked 64 addition 1000000000
  addChecked 64 t nanos

/-- A slice of the 32-bit address space that contracts run in. -/
structure Slice (α : Type) where
  elems : List α
  length_lt : elems.length < 2 ^ 32

/-! ## Data -/

abbrev ProposalId := Nat

structure Vote where
  /-- `true` is a vote for, `false` a vote against. -/
  vote : Bool
  memo : Option String
deriving DecidableEq, Repr

/-- Fixed-point numbers with 18 decimal places. -/
structure Decimal where
  atomics : Nat
deriving DecidableEq, Repr

def Decimal.one : Decimal := ⟨10 ^ 18⟩

/-- `Uint128::mul_floor`. -/
def mulFloor (n : Nat) (d : Decimal) : Nat := n * d.atomics / 10 ^ 18

inductive Threshold where
  | Majority
  | Percentage (percent : Decimal)
deriving DecidableEq, Repr

structure VoteConfig where
  threshold : Threshold
  /-- `none` disables veto. -/
  vetoDurationSeconds : Option Nat
deriving DecidableEq, Repr

inductive ProposalOutcome where
  | Passed
  | Failed
  | Canceled
  | Vetoed
deriving DecidableEq, Repr

inductive ProposalStatus where
  | Active
  | VetoPeriod (expiration : Timestamp)
  | WaitingForCount
  | Finished (outcome : ProposalOutcome)
deriving DecidableEq, Repr

structure ProposalInfo where
  totalVoters : Nat
  votesFor : Nat
  votesAgainst : Nat
  status : ProposalStatus
  /-- The config that the proposal was created with. -/
  config : VoteConfig
  endTimestamp : Timestamp
deriving DecidableEq, Repr

inductive VoteError where
  | Std (e : StdError)
  | DuplicateAddrs
  | NoProposalById
  | ProposalNotActive (status : ProposalStatus)
  | ThresholdError (text : String)
  | NotVeto (status : ProposalStatus)
  | VotingNotOver
  | Unauthorized
deriving DecidableEq

abbrev Stop := VoteFailure VoteError

structure VotingStore where
  nextProposalId : Option ProposalId
  /-- The votes by proposal and voter; a whitelisted voter who has not voted yet has an
      entry without a vote. -/
  proposals : Map (ProposalId × Addr) (Option Vote)
  proposalsInfo : Map ProposalId ProposalInfo
  voteConfig : Option VoteConfig

def VotingStore.empty : VotingStore where
  nextProposalId := none
  proposals := ∅
  proposalsInfo := ∅
  voteConfig := none

abbrev VoteResult := Writing VotingStore Stop

/-! ## Proposals -/

/-- Asserts that the 0.0 < percent <= 1.0. -/
def Threshold.validatePercentage : Threshold → Except VoteError Unit
  | .Majority => .ok ()
  | .Percentage percent =>
    if percent.atomics = 0 then .error (.ThresholdError "can't be 0%")
    else if Decimal.one.atomics < percent.atomics then
      .error (.ThresholdError "not possible to reach >100% votes")
    else .ok ()

def ProposalInfo.new (initialVoters : Nat) (config : VoteConfig) (endTimestamp : Timestamp) :
    ProposalInfo where
  totalVoters := initialVoters
  votesFor := 0
  votesAgainst := 0
  status := .Active
  config := config
  endTimestamp := endTimestamp

def ProposalInfo.assertActiveProposal (info : ProposalInfo) : Except Stop Unit :=
  match info.status with
  | .Active => .ok ()
  | status => .error (.error (.ProposalNotActive status))

def ProposalInfo.voteUpdate (info : ProposalInfo) (previousVote : Option Vote) (newVote : Vote) :
    Except Stop ProposalInfo :=
  match previousVote.map Vote.vote, newVote.vote with
  -- unchanged vote
  | some true, true | some false, false => .ok info
  -- vote for became vote against
  | some true, false => do
    let votesAgainst ← addChecked 32 info.votesAgainst 1
    let votesFor ← subChecked info.votesFor 1
    return { info with votesFor, votesAgainst }
  -- vote against became vote for
  | some false, true => do
    let votesFor ← addChecked 32 info.votesFor 1
    let votesAgainst ← subChecked info.votesAgainst 1
    return { info with votesFor, votesAgainst }
  | none, true => do
    let votesFor ← addChecked 32 info.votesFor 1
    return { info with votesFor }
  | none, false => do
    let votesAgainst ← addChecked 32 info.votesAgainst 1
    return { info with votesAgainst }

def ProposalInfo.finishVote (info : ProposalInfo) (outcome : ProposalOutcome) (block : BlockInfo) :
    ProposalInfo :=
  { info with status := .Finished outcome, endTimestamp := block.time }

/-- When the veto period of the proposal is over. -/
def ProposalInfo.vetoExpiration (info : ProposalInfo) : Except Stop Timestamp :=
  plusSeconds info.endTimestamp (info.config.vetoDurationSeconds.getD 0)

/-- The number of votes for that the proposal needs. -/
def ProposalInfo.threshold (info : ProposalInfo) : Nat :=
  match info.config.threshold with
  -- 50% + 1 voter
  | .Majority => info.totalVoters / 2 + 1
  | .Percentage decimal => mulFloor info.totalVoters decimal

/-! ## Operations -/

def saveProposal (proposalId : ProposalId) (info : ProposalInfo) : VoteResult Unit :=
  write fun s => { s with proposalsInfo := s.proposalsInfo.insert proposalId info }

/-- Load proposal by id with updated status if required. -/
def loadProposal (block : BlockInfo) (proposalId : ProposalId) (s : VotingStore) :
    Except Stop ProposalInfo := do
  let proposal ← okOr (s.proposalsInfo.lookup proposalId) (VoteFailure.error .NoProposalById)
  match proposal.status with
  | .Active => do
    let vetoExpiration ← proposal.vetoExpiration
    -- Check if veto or count period and update if so
    if proposal.endTimestamp ≤ block.time then
      if block.time < vetoExpiration then
        return { proposal with status := .VetoPeriod vetoExpiration }
      else return { proposal with status := .WaitingForCount }
    else return proposal
  | _ => return proposal

def loadConfig (s : VotingStore) : Except Stop VoteConfig :=
  okOr s.voteConfig (.error (.Std (.notFound "VoteConfig")))

def instantiate (voteConfig : VoteConfig) : VoteResult Unit := do
  lift (voteConfig.threshold.validatePercentage.mapError VoteFailure.error)
  write fun s => { s with nextProposalId := some 0 }
  write fun s => { s with voteConfig := some voteConfig }

def updateVoteConfig (newVoteConfig : VoteConfig) : VoteResult Unit :=
  write fun s => { s with voteConfig := some newVoteConfig }

/-- `next_proposal_id.update`. -/
def advanceProposalId : VoteResult ProposalId := do
  let id ← reading fun s => okOr s.nextProposalId (VoteFailure.error (.Std (.notFound "u64")))
  let id ← lift (addChecked 64 id 1)
  write fun s => { s with nextProposalId := some id }
  return id

/-- Create new proposal.  `initialVoters` is a list of whitelisted to vote. -/
def newProposal (endTimestamp : Timestamp) (initialVoters : Slice Addr) : VoteResult ProposalId := do
  -- Check if addrs unique
  lift (ensure initialVoters.elems.Nodup (VoteFailure.error .DuplicateAddrs))
  let proposalId ← advanceProposalId
  let config ← reading loadConfig
  saveProposal proposalId (ProposalInfo.new (initialVoters.elems.length % 2 ^ 32) config endTimestamp)
  write fun s => { s with
    proposals := insertAll s.proposals
      (initialVoters.elems.map fun voter => ((proposalId, voter), none)) }
  return proposalId

def castVote (block : BlockInfo) (proposalId : ProposalId) (voter : Addr) (vote : Vote) :
    VoteResult ProposalInfo := do
  let proposalInfo ← reading (loadProposal block proposalId)
  lift proposalInfo.assertActiveProposal
  -- We allow re-voting
  let previousVote ← reading fun s =>
    okOr (s.proposals.lookup (proposalId, voter)) (VoteFailure.error .Unauthorized)
  let proposalInfo ← lift (proposalInfo.voteUpdate previousVote vote)
  write fun s => { s with proposals := s.proposals.insert (proposalId, voter) (some vote) }
  saveProposal proposalId proposalInfo
  return proposalInfo

/-- Cancel proposal.  The sender is not looked at here. -/
def cancelProposal (block : BlockInfo) (proposalId : ProposalId) : VoteResult ProposalInfo := do
  let proposalInfo ← reading (loadProposal block proposalId)
  lift proposalInfo.assertActiveProposal
  let proposalInfo := proposalInfo.finishVote .Canceled block
  saveProposal proposalId proposalInfo
  return proposalInfo

def countVotes (block : BlockInfo) (proposalId : ProposalId) :
    VoteResult (ProposalInfo × ProposalOutcome) := do
  let proposalInfo ← reading (loadProposal block proposalId)
  lift (ensure (proposalInfo.status = .WaitingForCount) (VoteFailure.error .VotingNotOver))
  let proposalOutcome : ProposalOutcome :=
    if proposalInfo.threshold ≤ proposalInfo.votesFor then .Passed else .Failed
  -- Update vote status
  let proposalInfo := proposalInfo.finishVote proposalOutcome block
  saveProposal proposalId proposalInfo
  return (proposalInfo, proposalOutcome)

def ProposalInfo.assertVetoPeriod (info : ProposalInfo) : Except Stop Unit :=
  match info.status with
  | .VetoPeriod _ => .ok ()
  | status => .error (.error (.NotVeto status))

/-- Called by veto admin. -/
def vetoProposal (block : BlockInfo) (proposalId : ProposalId) : VoteResult ProposalInfo := do
  let proposalInfo ← reading (loadProposal block proposalId)
  lift proposalInfo.assertVetoPeriod
  let proposalInfo := { proposalInfo with status := .Finished .Vetoed }
  saveProposal proposalId proposalInfo
  return proposalInfo

inductive VoteOp where
  | UpdateVoteConfig (newVoteConfig : VoteConfig)
  | NewProposal (endTimestamp : Timestamp) (initialVoters : Slice Addr)
  | CastVote (proposalId : ProposalId) (voter : Addr) (vote : Vote)
  | CancelProposal (proposalId : ProposalId)
  | CountVotes (proposalId : ProposalId)
  | VetoProposal (proposalId : ProposalId)

def exec (block : BlockInfo) : VoteOp → VoteResult Unit
  | .UpdateVoteConfig newVoteConfig => updateVoteConfig newVoteConfig
  | .NewProposal endTimestamp initialVoters => do
    let _ ← newProposal endTimestamp initialVoters
  | .CastVote proposalId voter vote => do
    let _ ← castVote block proposalId voter vote
  | .CancelProposal proposalId => do
    let _ ← cancelProposal block proposalId
  | .CountVotes proposalId => do
    let _ ← countVotes block proposalId
  | .VetoProposal proposalId => do
    let _ ← vetoProposal block proposalId

/-- The store after a list of operations, each with the block it is executed in. -/
def run (s : VotingStore) (ops : List (BlockInfo × VoteOp)) : VotingStore :=
  Machine.run (machine fun op => exec op.1 op.2) s ops

/-! ## What each operation does -/

variable {s s' : VotingStore} {block : BlockInfo} {proposalId : ProposalId}

@[simp] theorem addChecked_eq_ok {ε : Type} {w a b c : Nat} :
    (addChecked w a b : Except (VoteFailure ε) Nat) = .ok c ↔ a + b < 2 ^ w ∧ a + b = c := by
  unfold addChecked
  by_cases fits : a + b < 2 ^ w <;> simp [fits]

@[simp] theorem subChecked_eq_ok {ε : Type} {a b c : Nat} :
    (subChecked a b : Except (VoteFailure ε) Nat) = .ok c ↔ b ≤ a ∧ a - b = c := by
  unfold subChecked
  by_cases enough : b ≤ a <;> simp [enough]

@[simp] theorem assertActiveProposal_eq_ok {info : ProposalInfo} {u : Unit} :
    info.assertActiveProposal = .ok u ↔ info.status = .Active := by
  unfold ProposalInfo.assertActiveProposal
  cases info.status <;> simp

@[simp] theorem assertVetoPeriod_eq_ok {info : ProposalInfo} {u : Unit} :
    info.assertVetoPeriod = .ok u ↔ ∃ expiration, info.status = .VetoPeriod expiration := by
  unfold ProposalInfo.assertVetoPeriod
  cases info.status <;> simp

/-- How a stored proposal is seen in a block. -/
inductive Loaded (block : BlockInfo) (stored : ProposalInfo) : ProposalInfo → Prop where
  | settled (h : stored.status ≠ .Active) : Loaded block stored stored
  | active (expiration : Timestamp) (h : stored.status = .Active)
      (expires : stored.vetoExpiration = .ok expiration) (time : block.time < stored.endTimestamp) :
      Loaded block stored stored
  | veto (expiration : Timestamp) (h : stored.status = .Active)
      (expires : stored.vetoExpiration = .ok expiration) (ended : stored.endTimestamp ≤ block.time)
      (time : block.time < expiration) :
      Loaded block stored { stored with status := .VetoPeriod expiration }
  | count (expiration : Timestamp) (h : stored.status = .Active)
      (expires : stored.vetoExpiration = .ok expiration) (ended : stored.endTimestamp ≤ block.time)
      (time : expiration ≤ block.time) :
      Loaded block stored { stored with status := .WaitingForCount }

theorem loadProposal_eq_ok {info : ProposalInfo} :
    loadProposal block proposalId s = .ok info ↔
      ∃ stored, s.proposalsInfo.lookup proposalId = some stored ∧ Loaded block stored info := by
  simp only [loadProposal, bind_eq_ok, okOr_eq_ok]
  refine exists_congr fun stored => and_congr_right fun found => ?_
  constructor
  · intro loaded
    split at loaded
    · rename_i active
      obtain ⟨expiration, expires, loaded⟩ := bind_eq_ok.mp loaded
      split at loaded
      · rename_i ended
        split at loaded
        · rename_i time
          obtain rfl := pure_eq_ok.mp loaded
          exact .veto expiration active expires ended time
        · rename_i time
          obtain rfl := pure_eq_ok.mp loaded
          exact .count expiration active expires ended (Nat.le_of_not_lt time)
      · rename_i time
        obtain rfl := pure_eq_ok.mp loaded
        exact .active expiration active expires (Nat.lt_of_not_le time)
    · rename_i settled
      obtain rfl := pure_eq_ok.mp loaded
      exact .settled settled
  · intro loaded
    cases loaded with
    | settled h =>
      split
      · rename_i active
        exact absurd active h
      · rfl
    | active expiration h expires time =>
      rw [h, expires]
      simp [Nat.not_le_of_lt time, bind, Except.bind, pure, Except.pure]
    | veto expiration h expires ended time =>
      rw [h, expires]
      simp [ended, time, bind, Except.bind, pure, Except.pure]
    | count expiration h expires ended time =>
      rw [h, expires]
      simp [ended, Nat.not_lt_of_le time, bind, Except.bind, pure, Except.pure]

/-- A proposal that is still open when it is loaded is stored as such. -/
theorem Loaded.active_iff {stored info : ProposalInfo} (loaded : Loaded block stored info)
    (active : info.status = .Active) :
    info = stored ∧ stored.status = .Active ∧ block.time < stored.endTimestamp := by
  cases loaded with
  | settled h => exact absurd active h
  | active expiration h expires time => exact ⟨rfl, h, time⟩
  | veto | count => cases active

/-- Loading a proposal does not change what is finished. -/
theorem Loaded.finished_iff {stored info : ProposalInfo} {outcome : ProposalOutcome}
    (loaded : Loaded block stored info) :
    info.status = .Finished outcome ↔ stored.status = .Finished outcome := by
  cases loaded with
  | settled h => rfl
  | active _ h => rfl
  | veto _ h => simp [h]
  | count _ h => simp [h]

/-- The parts of a proposal other than its status are those that are stored. -/
theorem Loaded.withStatus {stored info : ProposalInfo} (loaded : Loaded block stored info) :
    info = { stored with status := info.status } := by
  cases loaded <;> rfl

theorem castVote_ok {voter : Addr} {vote : Vote} {info : ProposalInfo}
    (h : call (castVote block proposalId voter vote) s = (.ok info, s')) :
    ∃ stored previousVote, s.proposalsInfo.lookup proposalId = some stored ∧
      loadProposal block proposalId s = .ok stored ∧ stored.status = .Active ∧
      block.time < stored.endTimestamp ∧ s.proposals.lookup (proposalId, voter) = some previousVote ∧
      stored.voteUpdate previousVote vote = .ok info ∧
      s' = { s with
        proposals := s.proposals.insert (proposalId, voter) (some vote)
        proposalsInfo := s.proposalsInfo.insert proposalId info } := by
  simp only [castVote, call_bind_ok, call_reading, call_lift, call_write, call_pure, saveProposal,
    Prod.mk.injEq] at h
  obtain ⟨loaded, _, ⟨load, rfl⟩, _, _, ⟨active, rfl⟩, previousVote, _, ⟨previous, rfl⟩, updated, _,
    ⟨update, rfl⟩, _, _, ⟨-, rfl⟩, _, _, ⟨-, rfl⟩, same, rfl⟩ := h
  obtain rfl := Except.ok.inj same
  obtain ⟨stored, found, seen⟩ := loadProposal_eq_ok.mp load
  obtain ⟨rfl, isActive, time⟩ := seen.active_iff (assertActiveProposal_eq_ok.mp active)
  exact ⟨loaded, previousVote, found, load, isActive, time, okOr_eq_ok.mp previous, update, rfl⟩

theorem cancelProposal_ok {info : ProposalInfo}
    (h : call (cancelProposal block proposalId) s = (.ok info, s')) :
    ∃ stored, s.proposalsInfo.lookup proposalId = some stored ∧
      loadProposal block proposalId s = .ok stored ∧ stored.status = .Active ∧
      block.time < stored.endTimestamp ∧ info = stored.finishVote .Canceled block ∧
      s' = { s with proposalsInfo := s.proposalsInfo.insert proposalId info } := by
  simp only [cancelProposal, call_bind_ok, call_reading, call_lift, call_write, call_pure,
    saveProposal, Prod.mk.injEq] at h
  obtain ⟨loaded, _, ⟨load, rfl⟩, _, _, ⟨active, rfl⟩, _, _, ⟨-, rfl⟩, same, rfl⟩ := h
  obtain rfl := Except.ok.inj same
  obtain ⟨stored, found, seen⟩ := loadProposal_eq_ok.mp load
  obtain ⟨rfl, isActive, time⟩ := seen.active_iff (assertActiveProposal_eq_ok.mp active)
  exact ⟨loaded, found, load, isActive, time, rfl, rfl⟩

theorem countVotes_ok {info : ProposalInfo} {outcome : ProposalOutcome}
    (h : call (countVotes block proposalId) s = (.ok (info, outcome), s')) :
    ∃ stored loaded, s.proposalsInfo.lookup proposalId = some stored ∧
      Loaded block stored loaded ∧ loaded.status = .WaitingForCount ∧
      outcome = (if stored.threshold ≤ stored.votesFor then .Passed else .Failed) ∧
      info = stored.finishVote outcome block ∧
      s' = { s with proposalsInfo := s.proposalsInfo.insert proposalId info } := by
  simp only [countVotes, call_bind_ok, call_reading, call_lift, call_write, call_pure,
    saveProposal, Prod.mk.injEq] at h
  obtain ⟨loaded, _, ⟨load, rfl⟩, _, _, ⟨waiting, rfl⟩, _, _, ⟨-, rfl⟩, same, rfl⟩ := h
  obtain ⟨rfl, rfl⟩ := Prod.mk.inj (Except.ok.inj same)
  obtain ⟨stored, found, seen⟩ := loadProposal_eq_ok.mp load
  refine ⟨stored, loaded, found, seen, ensure_eq_ok.mp waiting, ?_, ?_, rfl⟩
  · rw [seen.withStatus]
    rfl
  · rw [seen.withStatus]
    rfl

theorem countVotes_of_waiting {info : ProposalInfo}
    (load : loadProposal block proposalId s = .ok info) (waiting : info.status = .WaitingForCount) :
    ∃ outcome s', outcome = (if info.threshold ≤ info.votesFor then .Passed else .Failed) ∧
      call (countVotes block proposalId) s = (.ok (info.finishVote outcome block, outcome), s') := by
  refine ⟨if info.threshold ≤ info.votesFor then .Passed else .Failed, ?_⟩
  simp only [true_and, countVotes, call_bind, call_reading, call_lift, load, ensure, if_pos waiting,
    saveProposal, call_write, call_pure, Prod.mk.injEq, exists_eq']

theorem vetoProposal_ok {info : ProposalInfo}
    (h : call (vetoProposal block proposalId) s = (.ok info, s')) :
    ∃ stored loaded expiration, s.proposalsInfo.lookup proposalId = some stored ∧
      Loaded block stored loaded ∧ loaded.status = .VetoPeriod expiration ∧
      info = { stored with status := .Finished .Vetoed } ∧
      s' = { s with proposalsInfo := s.proposalsInfo.insert proposalId info } := by
  simp only [vetoProposal, call_bind_ok, call_reading, call_lift, call_write, call_pure,
    saveProposal, Prod.mk.injEq] at h
  obtain ⟨loaded, _, ⟨load, rfl⟩, _, _, ⟨veto, rfl⟩, _, _, ⟨-, rfl⟩, same, rfl⟩ := h
  obtain rfl := Except.ok.inj same
  obtain ⟨stored, found, seen⟩ := loadProposal_eq_ok.mp load
  obtain ⟨expiration, period⟩ := assertVetoPeriod_eq_ok.mp veto
  refine ⟨stored, loaded, expiration, found, seen, period, ?_, rfl⟩
  rw [seen.withStatus]

theorem newProposal_ok {endTimestamp : Timestamp} {initialVoters : Slice Addr}
    (h : call (newProposal endTimestamp initialVoters) s = (.ok proposalId, s')) :
    ∃ id config, s.nextProposalId = some id ∧ proposalId = id + 1 ∧ id + 1 < 2 ^ 64 ∧
      s.voteConfig = some config ∧ initialVoters.elems.Nodup ∧
      s' = { s with
        nextProposalId := some proposalId
        proposals := insertAll s.proposals
          (initialVoters.elems.map fun voter => ((proposalId, voter), none))
        proposalsInfo := s.proposalsInfo.insert proposalId
          (ProposalInfo.new initialVoters.elems.length config endTimestamp) } := by
  simp only [newProposal, advanceProposalId, call_bind_ok, call_reading, call_lift, call_write,
    call_pure, saveProposal, loadConfig, Prod.mk.injEq, ensure_eq_ok, okOr_eq_ok,
    addChecked_eq_ok] at h
  obtain ⟨_, _, ⟨distinct, rfl⟩, newId, _, ⟨id, _, ⟨next, rfl⟩, _, _, ⟨⟨fits, rfl⟩, rfl⟩, _, _,
    ⟨-, rfl⟩, same, rfl⟩, config, _, ⟨configured, rfl⟩, _, _, ⟨-, rfl⟩, _, _, ⟨-, rfl⟩, same', rfl⟩ := h
  obtain rfl := Except.ok.inj same
  obtain rfl := Except.ok.inj same'
  refine ⟨id, config, next, rfl, fits, configured, distinct, ?_⟩
  rw [Nat.mod_eq_of_lt initialVoters.length_lt]

/-! ## Operations that fail -/

theorem total_saveProposal (info : ProposalInfo) : Total (saveProposal proposalId info) :=
  total_write _

/-- Past the check of the addresses, opening a proposal fails without its counter or config, or
    when the counter is full. -/
theorem avoids_newProposal_of {bad : Stop → Prop} {initialVoters : Slice Addr}
    (unique : Avoids bad
      (ensure initialVoters.elems.Nodup (VoteFailure.error VoteError.DuplicateAddrs)))
    (missing : ∀ kind, ¬ bad (.error (.Std (.notFound kind))))
    (counts : ∀ id, s.nextProposalId = some id → Avoids bad (addChecked 64 id 1))
    (endTimestamp : Timestamp) :
    Avoids bad (call (newProposal endTimestamp initialVoters) s).1 := by
  apply avoids_call_bind unique
  intro _ s₁ checked
  obtain rfl : s = s₁ := (Prod.mk.inj checked).2
  apply avoids_call_bind
  · apply avoids_call_bind (avoids_okOr (missing _))
    intro id s₂ read
    obtain ⟨next, rfl⟩ := Prod.mk.inj read
    apply avoids_call_bind (counts id (okOr_eq_ok.mp next))
    intro newId s₃ _
    exact ((total_write _).bind fun _ => total_pure newId).avoids s₃
  · intro newId s₂ _
    apply avoids_call_bind (avoids_okOr (missing _))
    intro config s₃ _
    apply Total.avoids
    apply (total_saveProposal _).bind
    intro _
    exact (total_write _).bind fun _ => total_pure newId

theorem atomic_castVote (voter : Addr) (vote : Vote) :
    Atomic (castVote block proposalId voter vote) := by
  apply atomic_reading_bind
  intro proposalInfo
  apply atomic_lift_bind
  intro _
  apply atomic_checked_bind
  intro previousVote updated
  -- from here on there are only writes
  apply (total_write _).bind
  intro _
  exact (total_saveProposal updated).bind fun _ => total_pure updated

theorem atomic_cancelProposal : Atomic (cancelProposal block proposalId) := by
  apply atomic_checked_bind
  intro proposalInfo _
  exact (total_saveProposal _).bind fun _ => total_pure _

theorem atomic_countVotes : Atomic (countVotes block proposalId) := by
  apply atomic_checked_bind
  intro proposalInfo _
  exact (total_saveProposal _).bind fun _ => total_pure _

theorem atomic_vetoProposal : Atomic (vetoProposal block proposalId) := by
  apply atomic_checked_bind
  intro proposalInfo _
  exact (total_saveProposal _).bind fun _ => total_pure _

theorem atomic_advanceProposalId : Atomic advanceProposalId := by
  apply atomic_checked_bind
  intro id newId
  exact (total_write _).bind fun _ => total_pure newId

theorem advanceProposalId_ok {newId : ProposalId}
    (h : call advanceProposalId s = (.ok newId, s')) :
    ∃ id, s.nextProposalId = some id ∧ newId = id + 1 ∧
      s' = { s with nextProposalId := some (id + 1) } := by
  simp only [advanceProposalId, call_bind_ok, call_reading, call_lift, call_write, call_pure,
    Prod.mk.injEq, okOr_eq_ok, addChecked_eq_ok] at h
  obtain ⟨id, _, ⟨next, rfl⟩, _, _, ⟨⟨-, rfl⟩, rfl⟩, _, _, ⟨-, rfl⟩, same, rfl⟩ := h
  exact ⟨id, next, (Except.ok.inj same).symm, rfl⟩

/-- A proposal that is not opened may have used up an id, when there is no config. -/
theorem newProposal_error {endTimestamp : Timestamp} {initialVoters : Slice Addr} {e : Stop}
    (h : call (newProposal endTimestamp initialVoters) s = (.error e, s')) :
    s' = s ∨ ∃ id, s.nextProposalId = some id ∧ s' = { s with nextProposalId := some (id + 1) } := by
  rcases call_bind_error.mp h with refused | ⟨_, m, checked, h⟩
  · exact .inl (Prod.mk.inj refused).2.symm
  obtain rfl : s = m := (Prod.mk.inj checked).2
  rcases call_bind_error.mp h with stuck | ⟨newId, advanced, ok, h⟩
  · exact .inl (atomic_advanceProposalId s e s' stuck)
  obtain ⟨id, next, -, rfl⟩ := advanceProposalId_ok ok
  refine .inr ⟨id, next, ?_⟩
  -- the config is read before the first write of the proposal
  refine (?_ : Atomic _) _ e s' h
  apply atomic_reading_bind
  intro config
  apply Total.atomic
  apply (total_saveProposal _).bind
  intro _
  exact (total_write _).bind fun _ => total_pure newId

/-! ## What operations do to the store -/

/-- Everything that an operation can do to the proposals and the votes. -/
inductive Effect (block : BlockInfo) (s : VotingStore) : VotingStore → Prop where
  | kept {s' : VotingStore} (proposals : s'.proposals = s.proposals)
      (infos : s'.proposalsInfo = s.proposalsInfo)
      (ids : ∀ id, s.nextProposalId = some id → ∃ id', s'.nextProposalId = some id' ∧ id ≤ id') :
      Effect block s s'
  | opened (id : ProposalId) (config : VoteConfig) (endTimestamp : Timestamp)
      (initialVoters : Slice Addr) (next : s.nextProposalId = some id)
      (distinct : initialVoters.elems.Nodup) :
      Effect block s { s with
        nextProposalId := some (id + 1)
        proposals := insertAll s.proposals
          (initialVoters.elems.map fun voter => ((id + 1, voter), none))
        proposalsInfo := s.proposalsInfo.insert (id + 1)
          (ProposalInfo.new initialVoters.elems.length config endTimestamp) }
  | voted (proposalId : ProposalId) (voter : Addr) (vote : Vote) (stored info : ProposalInfo)
      (previousVote : Option Vote) (found : s.proposalsInfo.lookup proposalId = some stored)
      (active : stored.status = .Active)
      (whitelisted : s.proposals.lookup (proposalId, voter) = some previousVote)
      (update : stored.voteUpdate previousVote vote = .ok info) :
      Effect block s { s with
        proposals := s.proposals.insert (proposalId, voter) (some vote)
        proposalsInfo := s.proposalsInfo.insert proposalId info }
  | finished (proposalId : ProposalId) (stored : ProposalInfo) (outcome : ProposalOutcome)
      (endTimestamp : Timestamp) (found : s.proposalsInfo.lookup proposalId = some stored)
      (unfinished : ∀ outcome, stored.status ≠ .Finished outcome) :
      Effect block s { s with
        proposalsInfo := s.proposalsInfo.insert proposalId
          { stored with status := .Finished outcome, endTimestamp } }

theorem Effect.refl : Effect block s s :=
  .kept rfl rfl fun id next => ⟨id, next, Nat.le_refl id⟩

/-- What is loaded as unfinished is stored as such. -/
theorem Loaded.unfinished {stored info : ProposalInfo} (loaded : Loaded block stored info)
    (h : ∀ outcome, info.status ≠ .Finished outcome) (outcome : ProposalOutcome) :
    stored.status ≠ .Finished outcome :=
  fun finished => h outcome (loaded.finished_iff.mpr finished)

theorem effect_forget {α : Type} {x : VoteResult α}
    (ok : ∀ a s', call x s = (.ok a, s') → Effect block s s')
    (failed : ∀ e s', call x s = (.error e, s') → Effect block s s') :
    Effect block s (call (x >>= fun _ => pure ()) s).2 := by
  rw [call_forget]
  cases h : call x s with
  | mk result s' =>
    cases result with
    | error e => exact failed e s' h
    | ok a => exact ok a s' h

theorem effect_atomic {α : Type} {x : VoteResult α} (atomic : Atomic x)
    (ok : ∀ a s', call x s = (.ok a, s') → Effect block s s') :
    Effect block s (call (x >>= fun _ => pure ()) s).2 := by
  apply effect_forget ok
  intro e s' failed
  rw [atomic s e s' failed]
  exact .refl

theorem exec_effect (op : VoteOp) : Effect block s (call (exec block op) s).2 := by
  cases op with
  | UpdateVoteConfig newVoteConfig => exact .kept rfl rfl fun id next => ⟨id, next, Nat.le_refl id⟩
  | NewProposal endTimestamp initialVoters =>
    apply effect_forget
    · intro newId s' h
      obtain ⟨id, config, next, rfl, -, -, distinct, rfl⟩ := newProposal_ok h
      exact .opened id config endTimestamp initialVoters next distinct
    · intro e s' h
      rcases newProposal_error h with rfl | ⟨id, next, rfl⟩
      · exact .refl
      · refine .kept rfl rfl fun id' next' => ⟨id + 1, rfl, ?_⟩
        obtain rfl : id = id' := Option.some.inj (next.symm.trans next')
        exact Nat.le_succ id
  | CastVote proposalId voter vote =>
    apply effect_atomic (atomic_castVote voter vote)
    intro info s' h
    obtain ⟨stored, previousVote, found, -, active, -, whitelisted, update, rfl⟩ := castVote_ok h
    exact .voted proposalId voter vote stored info previousVote found active whitelisted update
  | CancelProposal proposalId =>
    apply effect_atomic atomic_cancelProposal
    intro info s' h
    obtain ⟨stored, found, -, active, -, rfl, rfl⟩ := cancelProposal_ok h
    exact .finished proposalId stored .Canceled block.time found (by simp [active])
  | CountVotes proposalId =>
    apply effect_atomic atomic_countVotes
    intro counted s' h
    obtain ⟨stored, loaded, found, seen, waiting, -, same, rfl⟩ := countVotes_ok h
    rw [same]
    exact .finished proposalId stored counted.2 block.time found
      (seen.unfinished (by simp [waiting]))
  | VetoProposal proposalId =>
    apply effect_atomic atomic_vetoProposal
    intro info s' h
    obtain ⟨stored, loaded, expiration, found, seen, period, rfl, rfl⟩ := vetoProposal_ok h
    exact .finished proposalId stored .Vetoed stored.endTimestamp found
      (seen.unfinished (by simp [period]))

/-- An operation that fails changes neither the proposals nor the votes. -/
theorem exec_error {op : VoteOp} {e : Stop} (h : call (exec block op) s = (.error e, s')) :
    s'.proposals = s.proposals ∧ s'.proposalsInfo = s.proposalsInfo := by
  have unforget : ∀ {α : Type} {x : VoteResult α},
      call (x >>= fun _ => pure ()) s = (.error e, s') → call x s = (.error e, s') := by
    intro α x failed
    rcases call_bind_error.mp failed with failed | ⟨a, m, -, failed⟩
    · exact failed
    · simp at failed
  cases op with
  | UpdateVoteConfig newVoteConfig => exact absurd h (total_write _ s e s')
  | NewProposal endTimestamp initialVoters =>
    rcases newProposal_error (unforget h) with rfl | ⟨id, -, rfl⟩
    · exact ⟨rfl, rfl⟩
    · exact ⟨rfl, rfl⟩
  | CastVote proposalId voter vote =>
    rw [atomic_castVote voter vote s e s' (unforget h)]
    exact ⟨rfl, rfl⟩
  | CancelProposal proposalId =>
    rw [atomic_cancelProposal s e s' (unforget h)]
    exact ⟨rfl, rfl⟩
  | CountVotes proposalId =>
    rw [atomic_countVotes s e s' (unforget h)]
    exact ⟨rfl, rfl⟩
  | VetoProposal proposalId =>
    rw [atomic_vetoProposal s e s' (unforget h)]
    exact ⟨rfl, rfl⟩

end AbstractFramework.Voting
