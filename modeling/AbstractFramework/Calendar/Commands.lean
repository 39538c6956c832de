import Mathlib.Algebra.Ring.Int.Defs
import AbstractFramework.Lib.Wallet
import AbstractFramework.Sdk.Bank
import AbstractFramework.Voting.SimpleVoting

/-! # The calendar app

Anyone may book a meeting by staking its price.  The admin settles the stake once the
meeting is over: it goes back to the requester, to the account, or to both.  Meetings are
filed by the day on which they are in the time zone of the calendar.

`executeHandler` is the app, and `exec` is a call of it on the chain: the app has the coins of
the calls, and a call fails when the bank refuses one of its messages.  What others send to
the app counts as held from the start.
-/

namespace AbstractFramework.Calendar

open AbstractFramework Fallible Storage Voting Sdk

/-! ## Data -/

structure Time where
  hour : Nat
  minute : Nat
deriving DecidableEq, Repr

structure Config where
  pricePerMinute : Nat
  denom : String
  /-- The offset of the time zone in seconds. -/
  utcOffset : Int
  startTime : Time
  endTime : Time
deriving DecidableEq, Repr

structure Meeting where
  startTime : Int
  endTime : Int
  requester : Addr
  amountStaked : Nat
deriving DecidableEq, Repr

structure CalendarState where
  config : Option Config
  /-- Unix start time of the day to the meetings on that day. -/
  calendar : Map Int (List Meeting)

/-- The storage before the app is instantiated. -/
def CalendarState.empty : CalendarState where
  config := none
  calendar := ∅

structure CalendarInstantiateMsg where
  pricePerMinute : Nat
  denom : AssetEntry
  utcOffset : Int
  startTime : Time
  endTime : Time

inductive CalendarExecuteMsg where
  | RequestMeeting (startTime endTime : Int)
  | SlashFullStake (dayDatetime : Int) (meetingIndex : Nat)
  | SlashPartialStake (dayDatetime : Int) (meetingIndex : Nat) (minutesLate : Nat)
  | ReturnStake (dayDatetime : Int) (meetingIndex : Nat)
  | UpdateConfig (pricePerMinute : Option Nat) (denom : Option AssetEntry)

inductive StakeAction where
  | Return
  | FullSlash
  | PartialSlash (minutesLate : Nat)

inductive CalendarError where
  | Std (e : StdError)
  | AbstractSdk (text : String)
  | Admin (text : String)
  | PaymentError (e : PaymentError)
  | StartTimeMustBeInFuture
  | OutOfBoundsStartTime
  | OutOfBoundsEndTime
  | EndTimeMustBeAfterStartTime
  | MeetingConflictExists
  | InvalidTime
  | StartAndEndTimeNotOnSameDay
  | StartTimeNotRoundedToNearestMinute
  | EndTimeNotRoundedToNearestMinute
  | InvalidStakeAmountSent (expectedAmount : Nat)
  | NoMeetingsAtGivenDayDateTime
  | MeetingDoesNotExist
  | MeetingNotFinishedYet
  | StakeAlreadyHandled
  | MinutesLateCannotExceedDurationOfMeeting
  | InvalidUtcOffset
  | HourOutOfBounds
  | MinutesOutOfBounds
deriving DecidableEq

abbrev CalendarFailure := VoteFailure CalendarError

structure Response where
  action : String
  messages : List TransferMsg
  attributes : List (String × String)
deriving DecidableEq

/-- What the app sees of the chain in one call. -/
structure CalendarDeps where
  block : BlockInfo
  /-- The timestamps that `chrono` has a date for. -/
  hasDate : Int → Bool
  /-- `assert_admin` of the app's nested admin. -/
  assertAdmin : Addr → Except String Unit
  /-- The account that the app is installed on. -/
  account : Except String Addr
  /-- An asset as the name service resolves it. -/
  query : AssetEntry → Except String AssetInfo

def fail {α : Type} (e : CalendarError) : Except CalendarFailure α := .error (.error e)

def loadConfig (s : CalendarState) : Except CalendarFailure Config :=
  okOr s.config (.error (.Std (.notFound "Config")))

def assertAdmin (deps : CalendarDeps) (info : MessageInfo) : Except CalendarFailure Unit :=
  (deps.assertAdmin info.sender).mapError fun text => .error (.Admin text)

def blockSeconds (block : BlockInfo) : Int := ((block.time / 1000000000 : Nat) : Int)

/-! ## Dates -/

/-- A point in time, seen in a time zone. -/
structure DateTime where
  timestamp : Int
  offset : Int
deriving DecidableEq

namespace DateTime

variable (t : DateTime)

def localSeconds : Int := t.timestamp + t.offset

/-- The seconds since midnight. -/
def time : Int := t.localSeconds % 86400

/-- The number of the day, counted from the first of January 1970. -/
def day : Int := t.localSeconds / 86400

/-- `date_naive`. -/
def dateNaive (deps : CalendarDeps) : Except CalendarFailure Int :=
  if deps.hasDate t.localSeconds then .ok t.day
  else .error (.panicked "Local time out of range for NaiveDateTime")

end DateTime

/-- `FixedOffset::east_opt`. -/
def eastOpt (secs : Int) : Option Int := if -86400 < secs ∧ secs < 86400 then some secs else none

def getDateTime (deps : CalendarDeps) (timezone timestamp : Int) :
    Except CalendarFailure DateTime :=
  if deps.hasDate timestamp then .ok { timestamp, offset := timezone } else fail .InvalidTime

/-- The time of day as `NaiveTime`, in seconds since midnight. -/
def Time.toNaive (t : Time) : Except CalendarFailure Int :=
  if t.hour ≤ 23 ∧ t.minute ≤ 59 then .ok (((t.hour * 3600 + t.minute * 60 : Nat)) : Int)
  else .error (.panicked "called `Option::unwrap()` on a `None` value")

def Time.validate (t : Time) : Except CalendarFailure Unit :=
  if 23 < t.hour then fail .HourOutOfBounds
  else if 59 < t.minute then fail .MinutesOutOfBounds
  else .ok ()

/-- The derived order of times. -/
def Time.lt (t u : Time) : Prop := t.hour < u.hour ∨ (t.hour = u.hour ∧ t.minute < u.minute)

instance (t u : Time) : Decidable (t.lt u) := inferInstanceAs (Decidable (_ ∨ _))

/-! ## Meetings -/

def Meeting.new (deps : CalendarDeps) (config : Config) (startDatetime endDatetime : DateTime)
    (requester : Addr) (amountStaked : Nat) : Except CalendarFailure Meeting := do
  let calendarStartTime ← config.startTime.toNaive
  let calendarEndTime ← config.endTime.toNaive
  let startDate ← startDatetime.dateNaive deps
  let endDate ← endDatetime.dateNaive deps
  ensure (startDate = endDate) (VoteFailure.error .StartAndEndTimeNotOnSameDay)
  ensure (startDatetime.time % 60 = 0) (VoteFailure.error .StartTimeNotRoundedToNearestMinute)
  ensure (endDatetime.time % 60 = 0) (VoteFailure.error .EndTimeNotRoundedToNearestMinute)
  ensure (blockSeconds deps.block ≤ startDatetime.timestamp)
    (VoteFailure.error .StartTimeMustBeInFuture)
  ensure (startDatetime.time < endDatetime.time) (VoteFailure.error .EndTimeMustBeAfterStartTime)
  ensure (calendarStartTime ≤ startDatetime.time ∧ startDatetime.time ≤ calendarEndTime)
    (VoteFailure.error .OutOfBoundsStartTime)
  ensure (calendarStartTime ≤ endDatetime.time ∧ endDatetime.time ≤ calendarEndTime)
    (VoteFailure.error .OutOfBoundsEndTime)
  return {
    startTime := startDatetime.timestamp
    endTime := endDatetime.timestamp
    requester
    amountStaked }

/-- The conflict that is looked for between a stored meeting and a new one. -/
def Meeting.conflicts (meeting : Meeting) (startTimestamp endTimestamp : Int) : Prop :=
  -- start time conflicts
  (meeting.startTime ≤ startTimestamp ∧ startTimestamp < meeting.endTime) ∨
  -- end time conflicts
  (meeting.startTime < endTimestamp ∧ endTimestamp ≤ meeting.endTime)

instance (meeting : Meeting) (startTimestamp endTimestamp : Int) :
    Decidable (meeting.conflicts startTimestamp endTimestamp) := inferInstanceAs (Decidable (_ ∨ _))

/-- The meetings that are filed under a day. -/
def meetingsOn (s : CalendarState) (day : Int) : List Meeting := (s.calendar.lookup day).getD []

/-- The day under which a meeting is filed, as if the local date were one in UTC. -/
def startOfDay (startDatetime : DateTime) : Int := startDatetime.day * 86400

def requestMeeting (deps : CalendarDeps) (info : MessageInfo) (startTime endTime : Int)
    (s : CalendarState) : Except CalendarFailure (CalendarState × Response) := do
  let config ← loadConfig s
  let amountSent ← (mustPay info config.denom).mapError fun e => VoteFailure.error (.PaymentError e)
  let timezone ← okOr (eastOpt config.utcOffset) (VoteFailure.error .InvalidUtcOffset)
  let startDatetime ← getDateTime deps timezone startTime
  let endDatetime ← getDateTime deps timezone endTime
  let meeting ← Meeting.new deps config startDatetime endDatetime info.sender amountSent
  -- This number will be positive enforced by previous checks.
  let durationInMinutes := ((endDatetime.time - startDatetime.time) / 60).toNat
  let expectedAmount ← mulChecked 256 durationInMinutes config.pricePerMinute
  ensure (amountSent = expectedAmount) (VoteFailure.error (.InvalidStakeAmountSent expectedAmount))
  let day := startOfDay startDatetime
  let existingMeetings := meetingsOn s day
  -- Validate that there are no colisions.
  ensure (∀ existing ∈ existingMeetings, ¬ existing.conflicts meeting.startTime meeting.endTime)
    (VoteFailure.error .MeetingConflictExists)
  return ({ s with calendar := s.calendar.insert day (existingMeetings ++ [meeting]) },
    { action := "request_meeting"
      messages := []
      attributes := [("meeting_start_time", toString meeting.startTime),
        ("meeting_end_time", toString meeting.endTime)] })

/-! ## Stakes -/

/-- `Uint256::multiply_ratio`. -/
def multiplyRatio (amount numerator denominator : Nat) : Except CalendarFailure Nat :=
  if denominator = 0 then .error (.panicked "Denominator must not be zero")
  else if amount * numerator / denominator < 2 ^ 256 then .ok (amount * numerator / denominator)
  else .error (.panicked "multiplication overflow")

/-- The length of a meeting in minutes, as a 32-bit integer. -/
def Meeting.durationInMinutes (meeting : Meeting) : Nat :=
  (((meeting.endTime - meeting.startTime).tdiv 60) % 2 ^ 32).toNat

def send (recipient : Addr) (amount : Nat) (denom : String) : TransferMsg where
  asset := { info := .Native denom, amount }
  recipient

def depositStake (deps : CalendarDeps) (amount : Nat) (denom : String) :
    Except CalendarFailure (List TransferMsg) :=
  deposit (deps.account.mapError fun text => VoteFailure.error (.AbstractSdk text))
    [{ info := .Native denom, amount }]

/-- What an action does with the stake of a meeting. -/
def StakeAction.settle (stakeAction : StakeAction) (deps : CalendarDeps) (config : Config)
    (meeting : Meeting) (amountStaked : Nat) : Except CalendarFailure Response :=
  match stakeAction with
  | .Return => .ok {
      action := "return_stake"
      messages := [send meeting.requester amountStaked config.denom]
      attributes := [] }
  | .FullSlash => do
    let messages ← depositStake deps amountStaked config.denom
    return { action := "full_slash", messages, attributes := [] }
  | .PartialSlash minutesLate => do
    -- Cast should be safe given we cannot have a meeting longer than 24 hours.
    let durationInMinutes := meeting.durationInMinutes
    ensure (minutesLate ≤ durationInMinutes)
      (VoteFailure.error .MinutesLateCannotExceedDurationOfMeeting)
    let amountToSlash ← multiplyRatio amountStaked minutesLate durationInMinutes
    let depositMsgs ← depositStake deps amountToSlash config.denom
    let amountToReturn ← subChecked amountStaked amountToSlash
    return {
      action := "partial_slash"
      messages := send meeting.requester amountToReturn config.denom :: depositMsgs
      attributes := [] }

def handleStake (deps : CalendarDeps) (info : MessageInfo) (dayDatetime : Int) (meetingIndex : Nat)
    (stakeAction : StakeAction) (s : CalendarState) :
    Except CalendarFailure (CalendarState × Response) := do
  assertAdmin deps info
  let config ← loadConfig s
  let meetings ← okOr (s.calendar.lookup dayDatetime)
    (VoteFailure.error .NoMeetingsAtGivenDayDateTime)
  let meeting ← okOr meetings[meetingIndex]? (VoteFailure.error .MeetingDoesNotExist)
  ensure (meeting.endTime < blockSeconds deps.block) (VoteFailure.error .MeetingNotFinishedYet)
  let amountStaked := meeting.amountStaked
  ensure (amountStaked ≠ 0) (VoteFailure.error .StakeAlreadyHandled)
  let response ← stakeAction.settle deps config meeting amountStaked
  return ({ s with
    calendar := s.calendar.insert dayDatetime
      (meetings.set meetingIndex { meeting with amountStaked := 0 }) }, response)

/-! ## Config -/

def resolveNativeAnsDenom (deps : CalendarDeps) (denom : AssetEntry) :
    Except CalendarFailure String := do
  let resolvedDenom ← (deps.query denom).mapError fun text => VoteFailure.error (.AbstractSdk text)
  match resolvedDenom with
  | .Native denom => return denom
  | .Cw20 _ => fail (.Std (.msg "Non-native denom not supported"))

/-- The denom after an update, the given one or the old one. -/
def resolveIfSome (deps : CalendarDeps) (old : String) :
    Option AssetEntry → Except CalendarFailure String
  | some unresolved => resolveNativeAnsDenom deps unresolved
  | none => .ok old

def updateConfig (deps : CalendarDeps) (info : MessageInfo) (pricePerMinute : Option Nat)
    (denom : Option AssetEntry) (s : CalendarState) :
    Except CalendarFailure (CalendarState × Response) := do
  assertAdmin deps info
  let config ← loadConfig s
  let resolved ← resolveIfSome deps config.denom denom
  let config := { config with
    pricePerMinute := pricePerMinute.getD config.pricePerMinute, denom := resolved }
  return ({ s with config := some config },
    { action := "update_config"
      messages := []
      attributes := (pricePerMinute.map fun price => ("price_per_minute", toString price)).toList ++
        (denom.map fun unresolved => ("denom", unresolved)).toList })

/-! ## Entry points -/

def executeHandler (deps : CalendarDeps) (info : MessageInfo) (msg : CalendarExecuteMsg)
    (s : CalendarState) : Except CalendarFailure (CalendarState × Response) :=
  match msg with
  | .RequestMeeting startTime endTime => requestMeeting deps info startTime endTime s
  | .SlashFullStake dayDatetime meetingIndex =>
    handleStake deps info dayDatetime meetingIndex .FullSlash s
  | .SlashPartialStake dayDatetime meetingIndex minutesLate =>
    handleStake deps info dayDatetime meetingIndex (.PartialSlash minutesLate) s
  | .ReturnStake dayDatetime meetingIndex =>
    handleStake deps info dayDatetime meetingIndex .Return s
  | .UpdateConfig pricePerMinute denom => updateConfig deps info pricePerMinute denom s

def instantiateHandler (deps : CalendarDeps) (msg : CalendarInstantiateMsg) (s : CalendarState) :
    Except CalendarFailure CalendarState := do
  let denom ← resolveNativeAnsDenom deps msg.denom
  msg.startTime.validate
  msg.endTime.validate
  ensure (msg.startTime.lt msg.endTime) (VoteFailure.error .EndTimeMustBeAfterStartTime)
  let config : Config := {
    pricePerMinute := msg.pricePerMinute
    denom
    utcOffset := msg.utcOffset
    startTime := msg.startTime
    endTime := msg.endTime }
  return { s with config := some config }

/-- A call with the chain as it is then. -/
structure Call where
  deps : CalendarDeps
  info : MessageInfo
  msg : CalendarExecuteMsg

/-- The app, and what the bank has for it. -/
structure FundedCalendar where
  app : CalendarState
  held : AssetInfo → Nat

inductive CallError where
  | App (e : CalendarFailure)
  | Bank (e : Wallet.Refusal)

def Call.incoming (c : Call) : List (AssetInfo × Nat) :=
  c.info.funds.map fun coin => (.Native coin.denom, coin.amount)

def Response.outgoing (response : Response) : List (AssetInfo × Nat) :=
  response.messages.map fun message => (message.asset.info, message.asset.amount)

/-- The app has the coins of the call when its messages are carried out. -/
def exec (c : Call) (s : FundedCalendar) : Except CallError (FundedCalendar × Response) := do
  let (app, response) ← (executeHandler c.deps c.info c.msg s.app).mapError CallError.App
  let held ← (Wallet.payAll (Wallet.receiveAll s.held c.incoming) response.outgoing).mapError
    CallError.Bank
  return ({ app, held }, response)

end AbstractFramework.Calendar
