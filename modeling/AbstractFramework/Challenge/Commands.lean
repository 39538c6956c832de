import AbstractFramework.Account.Commands
import AbstractFramework.Voting.SimpleVoting

/-! # The challenge app

The admin of an account takes up challenges, and friends of the admin vote on
whether a challenge was failed.  When such a vote passes, the admin is struck and
the account pays a penalty to the friends.  Every challenge has its own list of
friends and its own proposals, all of them held in one `SimpleVoting` object.
-/

namespace AbstractFramework.Challenge

open AbstractFramework Fallible Storage Effects Voting

/-! ## Data -/

def MAX_AMOUNT_OF_FRIENDS : Nat := 20

structure AnsAsset where
  name : String
  amount : Nat
deriving DecidableEq, Repr

/-- An asset as the chain knows it. -/
structure Asset where
  info : String
  amount : Nat
deriving DecidableEq, Repr

/-- Strategy for striking the admin. -/
inductive StrikeStrategy where
  /-- Split amount between friends. -/
  | Split (amount : Nat)
  /-- Amount for every friend. -/
  | PerFriend (amount : Nat)
deriving DecidableEq, Repr

structure AdminStrikes where
  /-- The number of strikes the admin has incurred. -/
  numStrikes : Nat
  /-- When `numStrikes` reached the limit, the challenge will be cancelled. -/
  limit : Nat
deriving DecidableEq, Repr

structure ChallengeEntry where
  name : String
  strikeAsset : String
  strikeStrategy : StrikeStrategy
  description : String
  adminStrikes : AdminStrikes
  proposalDurationSeconds : Nat
  endTimestamp : Timestamp
deriving DecidableEq, Repr

structure ChallengeEntryUpdate where
  name : Option String
  description : Option String

inductive Friend (α : Type) where
  | ByAddr (address : α) (name : String)
  | AbstractAccount (accountId : AccountId)
deriving DecidableEq, Repr

inductive UpdateFriendsOpKind where
  | Add
  | Remove
deriving DecidableEq, Repr

structure ChallengeRequest where
  name : String
  strikeAsset : String
  strikeStrategy : StrikeStrategy
  description : Option String
  challengeDurationSeconds : Nat
  proposalDurationSeconds : Nat
  /-- Strike limit, defaults to 1. -/
  strikesLimit : Option Nat
  initFriends : List (Friend String)

inductive ChallengeExecuteMsg where
  | UpdateConfig (newVoteConfig : VoteConfig)
  | CreateChallenge (challengeReq : ChallengeRequest)
  | UpdateChallenge (challengeId : Nat) (challenge : ChallengeEntryUpdate)
  | CancelChallenge (challengeId : Nat)
  | UpdateFriendsForChallenge (challengeId : Nat) (friends : List (Friend String))
      (opKind : UpdateFriendsOpKind)
  | CastVote (challengeId : Nat) (voteToPunish : Vote)
  | CountVotes (challengeId : Nat)
  | Veto (challengeId : Nat)

/-- `AbstractSdkError`: that of a standard function, or the text of another one. -/
inductive SdkError where
  | Std (e : StdError)
  | Other (text : String)
deriving DecidableEq

inductive AppError where
  | Std (e : StdError)
  | AbstractSdk (e : SdkError)
  | Admin (text : String)
  | VoteError (e : VoteError)
  | ValidationError (e : ValidationError)
  | ChallengeNotFound
  | ZeroFriends
  | TooManyFriends
  | DuplicateFriends
  | FriendsEditDuringProposal (endTimestamp : Timestamp)
  | ChallengeExpired
  | ExpectedProposal
deriving DecidableEq

abbrev AppFailure := VoteFailure AppError

/-- A transfer that the account executes. -/
structure Transfer where
  asset : Asset
  recipient : Addr
deriving DecidableEq, Repr

/-- What a call answers: the messages to the account, and its attributes. -/
structure Response where
  action : String
  messages : List (Addr × List Transfer)
  challengeId : Option Nat
  proposalInfo : Option ProposalInfo
  challengeFinished : Option Bool
  remainder : Option Nat
deriving DecidableEq, Repr

def Response.new (action : String) : Response where
  action := action
  messages := []
  challengeId := none
  proposalInfo := none
  challengeFinished := none
  remainder := none

structure ChallengeState where
  nextId : Option Nat
  challenges : Map Nat ChallengeEntry
  /-- Friends list for the challenge. -/
  challengeFriends : Map Nat (List (Friend Addr))
  challengeProposals : Map (Nat × ProposalId) Unit
  simpleVoting : VotingStore

/-- The storage before the app is instantiated. -/
def ChallengeState.empty : ChallengeState where
  nextId := none
  challenges := ∅
  challengeFriends := ∅
  challengeProposals := ∅
  simpleVoting := .empty

/-- What the app sees of the chain in one call. -/
structure AppDeps where
  block : BlockInfo
  addrValidate : String → Except StdError Addr
  /-- `assert_admin` of the app's nested admin. -/
  assertAdmin : Addr → Except String Unit
  /-- `account_registry`: the registry of the app's own code id. -/
  accountRegistry : Except String Unit
  /-- The account that the registry has for an id. -/
  account : AccountId → Except String Addr
  assertIsAccount : Addr → Except String Addr
  /-- An asset as the name service resolves it. -/
  resolve : AnsAsset → Except String Asset
  /-- The account that the app is installed on. -/
  proxy : Except String Addr

abbrev AppResult := Except AppFailure (ChallengeState × Response)

def sdk {α : Type} (x : Except String α) : Except AppFailure α :=
  x.mapError fun text => .error (.AbstractSdk (.Other text))

/-- Execute an operation of the voting object. -/
def voting {α : Type} (x : VoteResult α) (s : ChallengeState) :
    Except AppFailure (ChallengeState × α) :=
  match call x s.simpleVoting with
  | (.ok a, simpleVoting) => .ok ({ s with simpleVoting }, a)
  | (.error (.error e), _) => .error (.error (.VoteError e))
  | (.error (.panicked text), _) => .error (.panicked text)

/-! ## Friends -/

def Friend.check (deps : AppDeps) (friend : Friend String) :
    Except AppFailure (Addr × Friend Addr) := do
  sdk deps.accountRegistry
  match friend with
  | .ByAddr address name => do
    let checked ← (deps.addrValidate address).mapError fun e =>
      VoteFailure.error (.AbstractSdk (.Std e))
    return (checked, .ByAddr checked name)
  | .AbstractAccount accountId => do
    let base ← sdk (deps.account accountId)
    return (base, .AbstractAccount accountId)

def Friend.addr (deps : AppDeps) : Friend Addr → Except AppFailure Addr
  | .ByAddr address _ => .ok address
  | .AbstractAccount accountId => do
    sdk deps.accountRegistry
    sdk (deps.account accountId)

/-! ## Entries -/

def AdminStrikes.new (limit : Option Nat) : AdminStrikes where
  numStrikes := 0
  -- One-time strike by default
  limit := limit.getD 1

def AdminStrikes.strike (strikes : AdminStrikes) : Except AppFailure (AdminStrikes × Bool) := do
  let numStrikes ← addChecked 8 strikes.numStrikes 1
  -- check if it's last strike
  return ({ strikes with numStrikes }, decide (strikes.limit ≤ numStrikes))

/-- `validate_description`. -/
def validateDescriptionIfSome : Option String → Except ValidationError Unit
  | some description => Account.validateDescription description
  | none => .ok ()

def ChallengeEntry.new (request : ChallengeRequest) (endTimestamp : Timestamp) :
    Except AppFailure ChallengeEntry := do
  (Account.validateTitle request.name).mapError fun e => VoteFailure.error (.ValidationError e)
  (validateDescriptionIfSome request.description).mapError fun e =>
    VoteFailure.error (.ValidationError e)
  return {
    name := request.name
    strikeAsset := request.strikeAsset
    strikeStrategy := request.strikeStrategy
    description := request.description.getD ""
    adminStrikes := AdminStrikes.new request.strikesLimit
    proposalDurationSeconds := request.proposalDurationSeconds
    endTimestamp }

def loadChallenge (challengeId : Nat) (s : ChallengeState) : Except AppFailure ChallengeEntry :=
  okOr (s.challenges.lookup challengeId) (.error (.Std (.notFound "ChallengeEntry")))

/-- The newest proposal of a challenge. -/
def lastProposal (challengeId : Nat) (s : ChallengeState) : Option ProposalId :=
  ((s.challengeProposals.keys.filter fun key => key.1 = challengeId).map Prod.snd).max?

def assertAdmin (deps : AppDeps) (info : MessageInfo) : Except AppFailure Unit :=
  (deps.assertAdmin info.sender).mapError fun text => .error (.Admin text)

/-! ## Challenges -/

def createChallenge (deps : AppDeps) (info : MessageInfo) (challengeReq : ChallengeRequest)
    (s : ChallengeState) : AppResult := do
  -- Only the admin should be able to create a challenge.
  assertAdmin deps info
  ensure (challengeReq.initFriends.length < MAX_AMOUNT_OF_FRIENDS) (VoteFailure.error .TooManyFriends)
  -- Validate friend addr and account ids
  let friendsValidated ← challengeReq.initFriends.mapM (Friend.check deps)
  -- Check if addrs unique
  ensure (friendsValidated.map Prod.fst).Nodup (VoteFailure.error .DuplicateFriends)
  -- Generate the challenge id
  let id ← okOr s.nextId (VoteFailure.error (.Std (.notFound "u64")))
  let challengeId ← addChecked 64 id 1
  -- Create new challenge
  let endTimestamp ← plusSeconds deps.block.time challengeReq.challengeDurationSeconds
  let challenge ← ChallengeEntry.new challengeReq endTimestamp
  return ({ s with
    nextId := some challengeId
    challengeFriends := s.challengeFriends.insert challengeId (friendsValidated.map Prod.snd)
    challenges := s.challenges.insert challengeId challenge },
    { Response.new "create_challenge" with challengeId := some challengeId })

def updateChallenge (deps : AppDeps) (info : MessageInfo) (challengeId : Nat)
    (newChallenge : ChallengeEntryUpdate) (s : ChallengeState) : AppResult := do
  assertAdmin deps info
  let loadedChallenge ← okOr (s.challenges.lookup challengeId)
    (VoteFailure.error .ChallengeNotFound)
  let loadedChallenge := { loadedChallenge with
    name := newChallenge.name.getD loadedChallenge.name
    description := newChallenge.description.getD loadedChallenge.description }
  return ({ s with challenges := s.challenges.insert challengeId loadedChallenge },
    { Response.new "update_challenge" with challengeId := some challengeId })

/-- If there is active proposal - cancel it. -/
def cancelLastProposal (deps : AppDeps) (s : ChallengeState) :
    Option ProposalId → Except AppFailure ChallengeState
  | some proposalId => do
    let (s, _) ← voting (cancelProposal deps.block proposalId) s
    return s
  | none => .ok s

def cancelChallenge (deps : AppDeps) (info : MessageInfo) (challengeId : Nat) (s : ChallengeState) :
    AppResult := do
  assertAdmin deps info
  let challenge ← loadChallenge challengeId s
  -- Check if this challenge still active
  ensure (deps.block.time < challenge.endTimestamp) (VoteFailure.error .ChallengeExpired)
  let s ← cancelLastProposal deps s (lastProposal challengeId s)
  -- End it now
  let challenge := { challenge with endTimestamp := deps.block.time }
  return ({ s with challenges := s.challenges.insert challengeId challenge },
    { Response.new "cancel_challenge" with challengeId := some challengeId })

/-- Don't allow edit friends if last proposal haven't ended yet. -/
def assertNoRunningProposal (deps : AppDeps) (s : ChallengeState) :
    Option ProposalId → Except AppFailure Unit
  | some proposalId => do
    let (_, info) ← voting (reading (loadProposal deps.block proposalId)) s
    ensure (info.endTimestamp ≤ deps.block.time)
      (VoteFailure.error (.FriendsEditDuringProposal info.endTimestamp))
  | none => .ok ()

def addFriends (deps : AppDeps) (challengeId : Nat) (friendsValidated : List (Addr × Friend Addr))
    (s : ChallengeState) : Except AppFailure ChallengeState := do
  let currentFriends ← okOr (s.challengeFriends.lookup challengeId)
    (VoteFailure.error .ChallengeNotFound)
  ensure (friendsValidated.length + currentFriends.length < MAX_AMOUNT_OF_FRIENDS)
    (VoteFailure.error .TooManyFriends)
  let currentFriendsAddrs ← currentFriends.mapM (Friend.addr deps)
  -- Check if addrs unique
  ensure (currentFriendsAddrs ++ friendsValidated.map Prod.fst).Nodup
    (VoteFailure.error .DuplicateFriends)
  return { s with
    challengeFriends := s.challengeFriends.insert challengeId
      (currentFriends ++ friendsValidated.map Prod.snd) }

def removeFriends (challengeId : Nat) (friends : List (Friend Addr)) (s : ChallengeState) :
    Except AppFailure ChallengeState := do
  let currentFriends ← okOr (s.challengeFriends.lookup challengeId) (VoteFailure.error .ZeroFriends)
  let currentFriends := friends.foldl
    (fun currentFriends remFriend => currentFriends.filter (· ≠ remFriend)) currentFriends
  return { s with challengeFriends := s.challengeFriends.insert challengeId currentFriends }

def updateFriendsForChallenge (deps : AppDeps) (info : MessageInfo) (challengeId : Nat)
    (friends : List (Friend String)) (opKind : UpdateFriendsOpKind) (s : ChallengeState) :
    AppResult := do
  assertAdmin deps info
  -- Validate friend addr and account ids
  let friendsValidated ← friends.mapM (Friend.check deps)
  assertNoRunningProposal deps s (lastProposal challengeId s)
  let s ← match opKind with
    | .Add => addFriends deps challengeId friendsValidated s
    | .Remove => removeFriends challengeId (friendsValidated.map Prod.snd) s
  return (s, { Response.new "update_friends" with challengeId := some challengeId })

/-! ## Votes -/

/-- The proposal that is open for votes, if the last one is. -/
def activeProposal (deps : AppDeps) (s : ChallengeState) :
    Option ProposalId → Except AppFailure (Option ProposalId)
  | some proposalId => do
    let (_, proposal) ← voting (reading (loadProposal deps.block proposalId)) s
    return if proposal.status = .Active then some proposalId else none
  | none => .ok none

def createProposal (deps : AppDeps) (challengeId : Nat) (challenge : ChallengeEntry)
    (s : ChallengeState) : Except AppFailure (ChallengeState × ProposalId) := do
  ensure (deps.block.time < challenge.endTimestamp) (VoteFailure.error .ChallengeExpired)
  let friends ← okOr (s.challengeFriends.lookup challengeId)
    (VoteFailure.error (.Std (.notFound "Vec<Friend<Addr>>")))
  let friends ← friends.mapM (Friend.addr deps)
  let endTimestamp ← plusSeconds deps.block.time challenge.proposalDurationSeconds
  if fits : friends.length < 2 ^ 32 then do
    let (s, proposalId) ← voting (newProposal endTimestamp ⟨friends, fits⟩) s
    return ({ s with
      challengeProposals := s.challengeProposals.insert (challengeId, proposalId) () }, proposalId)
  else .error (.panicked "capacity overflow")

def getOrCreateActiveProposal (deps : AppDeps) (challengeId : Nat) (s : ChallengeState) :
    Except AppFailure (ChallengeState × ProposalId) := do
  let challenge ← loadChallenge challengeId s
  -- Load last proposal and use it if it's active
  match ← activeProposal deps s (lastProposal challengeId s) with
  | some proposalId => return (s, proposalId)
  -- Or create a new one otherwise
  | none => createProposal deps challengeId challenge s

def castVote (deps : AppDeps) (info : MessageInfo) (vote : Vote) (challengeId : Nat)
    (s : ChallengeState) : AppResult := do
  let (s, proposalId) ← getOrCreateActiveProposal deps challengeId s
  sdk deps.accountRegistry
  let voter := match deps.assertIsAccount info.sender with
    | .ok base => base
    | .error _ => info.sender
  let (s, proposalInfo) ← voting (Voting.castVote deps.block proposalId voter vote) s
  return (s, { Response.new "cast_vote" with proposalInfo := some proposalInfo })

/-- What a friend gets, and what is left over. -/
def StrikeStrategy.shares (strategy : StrikeStrategy) (numFriends : Nat) : Nat × Nat :=
  match strategy with
  | .Split amount => (amount / numFriends, amount % numFriends)
  | .PerFriend amount => (amount, 0)

def transferTo (deps : AppDeps) (asset : AnsAsset) (friend : Friend Addr) :
    Except AppFailure Transfer := do
  let recipient ← friend.addr deps
  let asset ← sdk (deps.resolve asset)
  return { asset, recipient }

def chargePenalty (deps : AppDeps) (challenge : ChallengeEntry) (friends : List (Friend Addr)) :
    Except AppFailure Response := do
  ensure (friends ≠ []) (VoteFailure.error .ZeroFriends)
  let (amountPerFriend, remainder) := challenge.strikeStrategy.shares friends.length
  let assetPerFriend : AnsAsset := { name := challenge.strikeAsset, amount := amountPerFriend }
  -- Create a transfer action for each friend
  let transfers ← friends.mapM (transferTo deps assetPerFriend)
  let account ← sdk deps.proxy
  return { Response.new "charge_penalty" with
    messages := [(account, transfers)], remainder := some remainder }

/-- The strikes after a vote, and whether the last of them was reached. -/
def strikeIfPassed (proposalOutcome : ProposalOutcome) (strikes : AdminStrikes) :
    Except AppFailure (AdminStrikes × Bool) :=
  if proposalOutcome = .Passed then strikes.strike else .ok (strikes, false)

def chargeIfPassed (deps : AppDeps) (proposalOutcome : ProposalOutcome) (challenge : ChallengeEntry)
    (friends : List (Friend Addr)) : Except AppFailure Response :=
  -- Return here if not required to charge penalty
  if proposalOutcome = .Passed then chargePenalty deps challenge friends
  else .ok (Response.new "finish_vote")

/-- The challenge that is struck here is not saved. -/
def tryFinishChallenge (deps : AppDeps) (proposalInfo : ProposalInfo)
    (proposalOutcome : ProposalOutcome) (challenge : ChallengeEntry) (challengeId : Nat)
    (s : ChallengeState) : Except AppFailure Response := do
  let friends ← okOr (s.challengeFriends.lookup challengeId)
    (VoteFailure.error (.Std (.notFound "Vec<Friend<Addr>>")))
  let (adminStrikes, challengeFinished) ← strikeIfPassed proposalOutcome challenge.adminStrikes
  let res ← chargeIfPassed deps proposalOutcome { challenge with adminStrikes } friends
  return { res with
    proposalInfo := some proposalInfo, challengeFinished := some challengeFinished }

def countVotes (deps : AppDeps) (challengeId : Nat) (s : ChallengeState) : AppResult := do
  let challenge ← loadChallenge challengeId s
  let proposalId ← okOr (lastProposal challengeId s) (VoteFailure.error .ExpectedProposal)
  let (s, proposalInfo, outcome) ← voting (Voting.countVotes deps.block proposalId) s
  let res ← tryFinishChallenge deps proposalInfo outcome challenge challengeId s
  return (s, res)

def veto (deps : AppDeps) (info : MessageInfo) (challengeId : Nat) (s : ChallengeState) :
    AppResult := do
  let proposalId ← okOr (lastProposal challengeId s) (VoteFailure.error .ExpectedProposal)
  assertAdmin deps info
  let (s, proposalInfo) ← voting (vetoProposal deps.block proposalId) s
  return (s, { Response.new "veto" with proposalInfo := some proposalInfo })

/-! ## Entry points -/

def executeHandler (deps : AppDeps) (info : MessageInfo) (msg : ChallengeExecuteMsg)
    (s : ChallengeState) : AppResult :=
  match msg with
  | .CreateChallenge challengeReq => createChallenge deps info challengeReq s
  | .UpdateChallenge challengeId challenge => updateChallenge deps info challengeId challenge s
  | .CancelChallenge challengeId => cancelChallenge deps info challengeId s
  | .UpdateFriendsForChallenge challengeId friends opKind =>
    updateFriendsForChallenge deps info challengeId friends opKind s
  | .CastVote challengeId vote => castVote deps info vote challengeId s
  | .CountVotes challengeId => countVotes deps challengeId s
  | .Veto challengeId => veto deps info challengeId s
  | .UpdateConfig newVoteConfig => do
    let (s, _) ← voting (updateVoteConfig newVoteConfig) s
    return (s, Response.new "")

def instantiateHandler (voteConfig : VoteConfig) (s : ChallengeState) :
    Except AppFailure ChallengeState := do
  let s := { s with nextId := some 0 }
  let (s, _) ← voting (Voting.instantiate voteConfig) s
  return s

/-- A call with the chain as it is then. -/
structure Call where
  deps : AppDeps
  info : MessageInfo
  msg : ChallengeExecuteMsg
  /-- Whether the transfers of a message are carried out: the account lets the app act for it,
      it has the assets, and the bank takes the amounts. -/
  accepts : Addr × List Transfer → Bool

inductive CallError where
  | App (e : AppFailure)
  | Refused

/-- A call fails when its messages do. -/
def exec (c : Call) (s : ChallengeState) : Except CallError (ChallengeState × Response) := do
  let (s, response) ← (executeHandler c.deps c.info c.msg s).mapError CallError.App
  ensure (∀ message ∈ response.messages, c.accepts message = true) .Refused
  return (s, response)

end AbstractFramework.Challenge
