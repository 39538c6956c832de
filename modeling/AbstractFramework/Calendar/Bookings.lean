import AbstractFramework.Calendar.Commands
import AbstractFramework.Lib.Machine

/-! # Bookings

A new meeting is compared with the meetings of its day.  A day never overlaps another one,
so that only meetings of one day can be booked over each other.  The comparison asks
whether an end of the new meeting is inside an old one, and so misses exactly the meetings
that contain an old one with room on both sides.
-/

namespace AbstractFramework.Calendar

open AbstractFramework Fallible Storage Voting Sdk

variable {s s' : CalendarState} {f f' : FundedCalendar} {c : Call} {r : Response} {config : Config}

/-! ## What calls do -/

/-- The day of a time in the time zone of the calendar. -/
def localDay (offset t : Int) : Int := (t + offset) / 86400

/-- The meeting or the stake that a message is about. -/
def settledStake : CalendarExecuteMsg → Option (Int × Nat)
  | .SlashFullStake dayDatetime meetingIndex => some (dayDatetime, meetingIndex)
  | .SlashPartialStake dayDatetime meetingIndex _ => some (dayDatetime, meetingIndex)
  | .ReturnStake dayDatetime meetingIndex => some (dayDatetime, meetingIndex)
  | _ => none

/-- The messages send the amount in the denom, and nothing else. -/
structure Sends (messages : List TransferMsg) (denom : String) (amount : Nat) : Prop where
  denom : ∀ message ∈ messages, message.asset.info = .Native denom
  amount : (messages.map fun message => message.asset.amount).sum = amount
  some : messages ≠ []

/-- Each message sends to the requester or to the account. -/
def Shares (messages : List TransferMsg) (requester : Addr) (account : Except String Addr) : Prop :=
  ∀ message ∈ messages, message.recipient = requester ∨ account = .ok message.recipient

/-- What a call that succeeds has checked and written. -/
inductive Did (c : Call) (s : CalendarState) : CalendarState → Response → Prop where
  | requested {startTime endTime : Int} (msg : c.msg = .RequestMeeting startTime endTime)
      {config : Config} (configured : s.config = some config) {amount : Nat}
      (paid : c.info.funds = [⟨config.denom, amount⟩]) (positive : amount ≠ 0)
      (sameDay : localDay config.utcOffset startTime = localDay config.utcOffset endTime)
      (forward : startTime < endTime)
      (free : ∀ existing ∈ meetingsOn s (localDay config.utcOffset startTime * 86400),
        ¬ existing.conflicts startTime endTime)
      {r : Response} (silent : r.messages = []) :
      Did c s { s with
        calendar := s.calendar.insert (localDay config.utcOffset startTime * 86400)
          (meetingsOn s (localDay config.utcOffset startTime * 86400) ++
            [⟨startTime, endTime, c.info.sender, amount⟩]) } r
  | settled {day : Int} {index : Nat} (msg : settledStake c.msg = some (day, index))
      {config : Config} (configured : s.config = some config) {meetings : List Meeting}
      (filed : s.calendar.lookup day = some meetings) {meeting : Meeting}
      (at_ : meetings[index]? = some meeting) (staked : meeting.amountStaked ≠ 0)
      {r : Response} (sends : Sends r.messages config.denom meeting.amountStaked)
      (shares : Shares r.messages meeting.requester c.deps.account) :
      Did c s { s with
        calendar := s.calendar.insert day
          (meetings.set index { meeting with amountStaked := 0 }) } r
  | updated {price : Option Nat} {asset : Option AssetEntry}
      (msg : c.msg = .UpdateConfig price asset) {config : Config}
      (configured : s.config = some config) (pricePerMinute : Nat) (denom : String)
      {r : Response} (silent : r.messages = []) :
      Did c s { s with config := some { config with pricePerMinute, denom } } r

theorem eastOpt_eq_some {secs timezone : Int} (h : eastOpt secs = some timezone) :
    timezone = secs := by
  unfold eastOpt at h
  split at h
  · exact (Option.some.inj h).symm
  · cases h

theorem getDateTime_ok {deps : CalendarDeps} {timezone timestamp : Int} {t : DateTime}
    (h : getDateTime deps timezone timestamp = .ok t) : t = ⟨timestamp, timezone⟩ := by
  unfold getDateTime at h
  split at h
  · exact (Except.ok.inj h).symm
  · cases h

theorem dateNaive_ok {deps : CalendarDeps} {t : DateTime} {day : Int}
    (h : t.dateNaive deps = .ok day) : day = t.day := by
  unfold DateTime.dateNaive at h
  split at h
  · exact (Except.ok.inj h).symm
  · cases h

theorem Meeting.new_ok {deps : CalendarDeps} {startDatetime endDatetime : DateTime}
    {requester : Addr} {amount : Nat} {meeting : Meeting}
    (h : Meeting.new deps config startDatetime endDatetime requester amount = .ok meeting) :
    startDatetime.day = endDatetime.day ∧ startDatetime.time < endDatetime.time ∧
      meeting = ⟨startDatetime.timestamp, endDatetime.timestamp, requester, amount⟩ := by
  simp only [Meeting.new, bind_eq_ok, pure_eq_ok, ensure_eq_ok] at h
  obtain ⟨_, -, _, -, startDate, hStart, endDate, hEnd, _, sameDay, _, -, _, -, _, -, _, forward,
    _, -, _, -, rfl⟩ := h
  rw [dateNaive_ok hStart, dateNaive_ok hEnd] at sameDay
  exact ⟨sameDay, forward, rfl⟩

theorem deposit_sends {deps : CalendarDeps} {amount : Nat} {denom : String}
    {messages : List TransferMsg} (h : depositStake deps amount denom = .ok messages) :
    ∃ account, deps.account = .ok account ∧ messages = [send account amount denom] := by
  obtain ⟨account, known, rfl⟩ := deposit_eq_ok.mp h
  exact ⟨account, mapError_eq_ok.mp known, rfl⟩

/-- Whatever the action, the whole stake is sent to those who have a share in it. -/
theorem settle_sends {stakeAction : StakeAction} {deps : CalendarDeps} {meeting : Meeting}
    {amount : Nat} (h : stakeAction.settle deps config meeting amount = .ok r) :
    Sends r.messages config.denom amount ∧ Shares r.messages meeting.requester deps.account := by
  cases stakeAction with
  | Return =>
    obtain rfl := Except.ok.inj h
    exact ⟨⟨by simp [send], by simp [send], by simp⟩, by simp [Shares, send]⟩
  | FullSlash =>
    simp only [StakeAction.settle, bind_eq_ok, pure_eq_ok] at h
    obtain ⟨messages, deposited, rfl⟩ := h
    obtain ⟨account, known, rfl⟩ := deposit_sends deposited
    exact ⟨⟨by simp [send], by simp [send], by simp⟩, by simp [Shares, send, known]⟩
  | PartialSlash minutesLate =>
    simp only [StakeAction.settle, bind_eq_ok, pure_eq_ok, subChecked_eq_ok] at h
    obtain ⟨_, -, slashed, -, messages, deposited, _, ⟨enough, rfl⟩, rfl⟩ := h
    obtain ⟨account, known, rfl⟩ := deposit_sends deposited
    refine ⟨⟨by simp [send], ?_, by simp⟩, by simp [Shares, send, known]⟩
    simp only [send, List.map_cons, List.map_nil, List.sum_cons, List.sum_nil]
    omega

theorem handleStake_did {day : Int} {index : Nat} {stakeAction : StakeAction}
    (msg : settledStake c.msg = some (day, index))
    (h : handleStake c.deps c.info day index stakeAction s = .ok (s', r)) : Did c s s' r := by
  simp only [handleStake, loadConfig, bind_eq_ok, pure_eq_ok, okOr_eq_ok, ensure_eq_ok,
    Prod.mk.injEq] at h
  obtain ⟨_, -, config, configured, meetings, filed, meeting, at_, _, -, _, staked, response,
    settled, rfl, rfl⟩ := h
  obtain ⟨sends, shares⟩ := settle_sends settled
  exact .settled msg configured filed at_ staked sends shares

theorem executeHandler_did (h : executeHandler c.deps c.info c.msg s = .ok (s', r)) :
    Did c s s' r := by
  unfold executeHandler at h
  cases msg : c.msg with
  | RequestMeeting startTime endTime =>
    simp only [msg, requestMeeting, loadConfig, bind_eq_ok, pure_eq_ok, okOr_eq_ok, mapError_eq_ok,
      ensure_eq_ok, mustPay_eq_ok, Prod.mk.injEq] at h
    obtain ⟨config, configured, amount, ⟨paid, positive⟩, timezone, east, startDatetime, hStart,
      endDatetime, hEnd, meeting, new, _, -, _, -, _, free, rfl, rfl⟩ := h
    obtain rfl := eastOpt_eq_some east
    obtain rfl := getDateTime_ok hStart
    obtain rfl := getDateTime_ok hEnd
    obtain ⟨sameDay, forward, rfl⟩ := Meeting.new_ok new
    refine .requested msg configured paid positive sameDay ?_ free rfl
    simp only [DateTime.day, DateTime.time, DateTime.localSeconds] at sameDay forward
    omega
  | SlashFullStake day index =>
    simp only [msg] at h
    exact handleStake_did (by rw [msg]; rfl) h
  | SlashPartialStake day index minutesLate =>
    simp only [msg] at h
    exact handleStake_did (by rw [msg]; rfl) h
  | ReturnStake day index =>
    simp only [msg] at h
    exact handleStake_did (by rw [msg]; rfl) h
  | UpdateConfig price asset =>
    simp only [msg, updateConfig, loadConfig, bind_eq_ok, pure_eq_ok, okOr_eq_ok,
      Prod.mk.injEq] at h
    obtain ⟨_, -, config, configured, denom, -, rfl, rfl⟩ := h
    exact .updated msg configured _ denom rfl

/-- The app handles a call that succeeds, and the bank carries it out. -/
theorem exec_eq_ok : exec c f = .ok (f', r) ↔
    executeHandler c.deps c.info c.msg f.app = .ok (f'.app, r) ∧
      Wallet.payAll (Wallet.receiveAll f.held c.incoming) r.outgoing = .ok f'.held := by
  obtain ⟨app, held⟩ := f'
  simp only [exec, bind_eq_ok, mapError_eq_ok, pure_eq_ok, Prod.exists, Prod.mk.injEq,
    FundedCalendar.mk.injEq]
  constructor
  · rintro ⟨_, _, handled, _, paid, ⟨rfl, rfl⟩, rfl⟩
    exact ⟨handled, paid⟩
  · rintro ⟨handled, paid⟩
    exact ⟨app, r, handled, held, paid, ⟨rfl, rfl⟩, rfl⟩

theorem exec_did (h : exec c f = .ok (f', r)) : Did c f.app f'.app r :=
  executeHandler_did (exec_eq_ok.mp h).1

/-! ## Double bookings -/

/-- The meeting takes place at a time. -/
def Meeting.During (meeting : Meeting) (t : Int) : Prop := meeting.startTime ≤ t ∧ t < meeting.endTime

/-- No two meetings take place at the same time. -/
def NoDoubleBooking (s : CalendarState) : Prop :=
  ∀ day day' (meetings meetings' : List Meeting) (index index' : Nat) (meeting meeting' : Meeting),
    s.calendar.lookup day = some meetings → meetings[index]? = some meeting →
    s.calendar.lookup day' = some meetings' → meetings'[index']? = some meeting' →
    (day, index) ≠ (day', index') → ∀ t, ¬ (meeting.During t ∧ meeting'.During t)

/-- A requested meeting does not begin before one of that day and end after it. -/
def Uncovered (s : CalendarState) (c : Call) : Prop :=
  ∀ startTime endTime config, c.msg = .RequestMeeting startTime endTime → s.config = some config →
    ∀ meeting ∈ meetingsOn s (localDay config.utcOffset startTime * 86400),
      ¬ (startTime < meeting.startTime ∧ meeting.endTime < endTime)

/-- From when to when a meeting is. -/
def Meeting.slot (meeting : Meeting) : Int × Int := (meeting.startTime, meeting.endTime)

/-- One slot is over when the other one begins. -/
def Apart (slot slot' : Int × Int) : Prop := slot.2 ≤ slot'.1 ∨ slot'.2 ≤ slot.1

theorem Apart.symm {slot slot' : Int × Int} (apart : Apart slot slot') : Apart slot' slot :=
  Or.symm apart

/-- The slots of one day are on that day and apart. -/
structure Filed (offset day : Int) (slots : List (Int × Int)) : Prop where
  forward : ∀ slot ∈ slots, slot.1 < slot.2
  starts : ∀ slot ∈ slots, localDay offset slot.1 * 86400 = day
  ends : ∀ slot ∈ slots, localDay offset slot.2 * 86400 = day
  apart : slots.Pairwise Apart

theorem Filed.nil (offset day : Int) : Filed offset day [] :=
  ⟨by simp, by simp, by simp, .nil⟩

theorem Filed.snoc {offset day : Int} {slots : List (Int × Int)} {slot : Int × Int}
    (filed : Filed offset day slots) (forward : slot.1 < slot.2)
    (starts : localDay offset slot.1 * 86400 = day) (ends : localDay offset slot.2 * 86400 = day)
    (apart : ∀ old ∈ slots, Apart old slot) : Filed offset day (slots ++ [slot]) where
  forward := List.forall_mem_append.mpr ⟨filed.forward, List.forall_mem_singleton.mpr forward⟩
  starts := List.forall_mem_append.mpr ⟨filed.starts, List.forall_mem_singleton.mpr starts⟩
  ends := List.forall_mem_append.mpr ⟨filed.ends, List.forall_mem_singleton.mpr ends⟩
  apart := List.pairwise_append.mpr
    ⟨filed.apart, List.pairwise_singleton _ _, fun old listed _ same =>
      List.mem_singleton.mp same ▸ apart old listed⟩

/-- What the conflict that is looked for leaves open. -/
theorem apart_of_not_conflicts {meeting : Meeting} {startTime endTime : Int}
    (_proper : meeting.startTime < meeting.endTime) (_forward : startTime < endTime)
    (free : ¬ meeting.conflicts startTime endTime)
    (uncovered : ¬ (startTime < meeting.startTime ∧ meeting.endTime < endTime)) :
    Apart meeting.slot (startTime, endTime) := by
  simp only [Meeting.conflicts] at free
  show meeting.endTime ≤ startTime ∨ endTime ≤ meeting.startTime
  omega

/-- Slots of different days are apart. -/
theorem apart_of_days {offset day day' : Int} {slots slots' : List (Int × Int)}
    {slot slot' : Int × Int} (filed : Filed offset day slots) (filed' : Filed offset day' slots')
    (listed : slot ∈ slots) (listed' : slot' ∈ slots') (other : day ≠ day') : Apart slot slot' := by
  have starts := filed.starts slot listed
  have ends := filed.ends slot listed
  have starts' := filed'.starts slot' listed'
  have ends' := filed'.ends slot' listed'
  simp only [localDay] at starts ends starts' ends'
  show slot.2 ≤ slot'.1 ∨ slot'.2 ≤ slot.1
  omega

theorem slots_set {meetings : List Meeting} {index : Nat} {meeting : Meeting}
    (at_ : meetings[index]? = some meeting) (amount : Nat) :
    (meetings.set index { meeting with amountStaked := amount }).map Meeting.slot =
      meetings.map Meeting.slot := by
  obtain ⟨bound, rfl⟩ := List.getElem?_eq_some_iff.mp at_
  have bound' : index < (meetings.map Meeting.slot).length := by simpa using bound
  have same : Meeting.slot { meetings[index] with amountStaked := amount } =
      (meetings.map Meeting.slot)[index] := by simp [Meeting.slot]
  rw [List.map_set, same, List.set_getElem_self]

/-- Every day of the calendar is filed in the time zone that the app was set up with. -/
structure Booked (offset : Int) (s : CalendarState) : Prop where
  zone : ∀ config, s.config = some config → config.utcOffset = offset
  filed : ∀ day meetings, s.calendar.lookup day = some meetings →
    Filed offset day (meetings.map Meeting.slot)

theorem Booked.meetingsOn {offset : Int} (booked : Booked offset s) (day : Int) :
    Filed offset day ((meetingsOn s day).map Meeting.slot) := by
  unfold Calendar.meetingsOn
  cases filed : s.calendar.lookup day with
  | none => exact .nil offset day
  | some meetings => exact booked.filed day meetings filed

theorem Booked.did {offset : Int} (booked : Booked offset s) (uncovered : Uncovered s c)
    (did : Did c s s' r) : Booked offset s' := by
  cases did with
  | @requested startTime endTime msg config configured amount paid positive sameDay forward free =>
    refine ⟨booked.zone, ?_⟩
    intro day meetings found
    rcases lookup_insert_cases found with ⟨rfl, rfl⟩ | ⟨_, found⟩
    · obtain rfl := booked.zone config configured
      have filed := booked.meetingsOn (localDay config.utcOffset startTime * 86400)
      rw [List.map_append]
      refine filed.snoc forward rfl (congrArg (· * 86400) sameDay.symm) ?_
      intro slot listed
      obtain ⟨meeting, stored, rfl⟩ := List.mem_map.mp listed
      exact apart_of_not_conflicts (filed.forward _ listed) forward (free meeting stored)
        (uncovered startTime endTime config msg configured meeting stored)
    · exact booked.filed day meetings found
  | settled msg configured filed at_ staked sends =>
    refine ⟨booked.zone, ?_⟩
    intro day meetings found
    rcases lookup_insert_cases found with ⟨rfl, rfl⟩ | ⟨_, found⟩
    · rw [slots_set at_]
      exact booked.filed _ _ filed
    · exact booked.filed day meetings found
  | @updated price asset msg config configured pricePerMinute denom =>
    refine ⟨?_, booked.filed⟩
    rintro _ ⟨⟩
    show config.utcOffset = offset
    exact booked.zone config configured

/-- In a calendar that is filed like this nobody is in two meetings. -/
theorem Booked.noDoubleBooking {offset : Int} (booked : Booked offset s) : NoDoubleBooking s := by
  rintro day day' meetings meetings' index index' meeting meeting' found at_ found' at_' other t
    ⟨⟨from_, until_⟩, from', until'⟩
  have filed := booked.filed day meetings found
  have filed' := booked.filed day' meetings' found'
  have apart : Apart meeting.slot meeting'.slot := by
    by_cases same : day = day'
    · subst same
      obtain rfl : meetings = meetings' := Option.some.inj (found.symm.trans found')
      have place : (meetings.map Meeting.slot)[index]? = some meeting.slot := by simp [at_]
      have place' : (meetings.map Meeting.slot)[index']? = some meeting'.slot := by simp [at_']
      obtain ⟨bound, here⟩ := List.getElem?_eq_some_iff.mp place
      obtain ⟨bound', here'⟩ := List.getElem?_eq_some_iff.mp place'
      rw [← here, ← here']
      have places : index ≠ index' := by
        rintro rfl
        exact other rfl
      rcases Nat.lt_or_gt_of_ne places with before | after
      · exact List.pairwise_iff_getElem.mp filed.apart index index' bound bound' before
      · exact (List.pairwise_iff_getElem.mp filed.apart index' index bound' bound after).symm
    · exact apart_of_days filed filed' (List.mem_map_of_mem (List.mem_of_getElem? at_))
        (List.mem_map_of_mem (List.mem_of_getElem? at_')) same
  have : meeting.endTime ≤ meeting'.startTime ∨ meeting'.endTime ≤ meeting.startTime := apart
  omega

theorem booked_instantiate {deps : CalendarDeps} {msg : CalendarInstantiateMsg}
    (h : instantiateHandler deps msg .empty = .ok s) : Booked msg.utcOffset s := by
  simp only [instantiateHandler, bind_eq_ok, pure_eq_ok] at h
  obtain ⟨denom, -, _, -, _, -, _, -, rfl⟩ := h
  constructor
  · rintro _ ⟨⟩
    rfl
  · intro day meetings found
    cases found

/-- The app after a run of calls. -/
def run (start : FundedCalendar) (calls : List Call) : CalendarState :=
  (Machine.run exec start calls).app

/-- In every run of the calendar in which no requested meeting begins before a stored one and
    ends after it, nobody is in two meetings. -/
theorem noDoubleBooking_of_uncovered {deps : CalendarDeps} {msg : CalendarInstantiateMsg}
    {start : FundedCalendar} {calls : List Call}
    (created : instantiateHandler deps msg .empty = .ok start.app)
    (uncovered : Machine.AlongAccepted exec (fun f c => Uncovered f.app c) start calls) :
    NoDoubleBooking (run start calls) := by
  have booked : Booked msg.utcOffset (run start calls) := by
    refine Machine.run_invariant_accepted (P := fun f => Booked msg.utcOffset f.app) ?_
      (booked_instantiate created) uncovered
    intro m c m' r held booked ok
    exact booked.did held (exec_did ok)
  exact booked.noDoubleBooking

section Sample

/-- The chain at a time in seconds, as a calendar in UTC sees it. -/
def depsAt (seconds : Nat) : CalendarDeps where
  block := ⟨seconds, seconds * 1000000000⟩
  hasDate t := decide (-8334601228800 ≤ t ∧ t ≤ 8210266876799)
  assertAdmin sender := if sender = ⟨"admin"⟩ then .ok () else .error "Caller is not admin"
  account := .ok ⟨"account"⟩
  query name := .ok (.Native ("u" ++ name))

def officeHours : CalendarInstantiateMsg where
  pricePerMinute := 1
  denom := "juno"
  utcOffset := 0
  startTime := ⟨9, 0⟩
  endTime := ⟨17, 0⟩

def newCalendar : FundedCalendar where
  app := { CalendarState.empty with config := some ⟨1, "ujuno", 0, ⟨9, 0⟩, ⟨17, 0⟩⟩ }
  held _ := 0

/-- A meeting on the first of January 1970, from minute to minute of the day. -/
def bookFor (denom requester : String) (from_ until_ : Nat) : Call where
  deps := depsAt 0
  info := { sender := ⟨requester⟩, funds := [⟨denom, until_ - from_⟩] }
  msg := .RequestMeeting (from_ * 60 : Nat) (until_ * 60 : Nat)

def book : String → Nat → Nat → Call := bookFor "ujuno"

/-- A meeting from 10:00 to 11:00, and one from 9:30 to 12:00. -/
def overbooked : List Call := [book "alice" 600 660, book "bob" 570 720]

def backToBack : List Call := [book "alice" 600 660, book "bob" 660 720]

end Sample

/-- Two meetings take place at 10:00. -/
theorem double_booked :
    instantiateHandler (depsAt 0) officeHours .empty = .ok newCalendar.app ∧
      (run newCalendar overbooked).calendar.lookup 0 =
        some [⟨36000, 39600, ⟨"alice"⟩, 60⟩, ⟨34200, 43200, ⟨"bob"⟩, 150⟩] ∧
      ¬ NoDoubleBooking (run newCalendar overbooked) := by
  have booked : (run newCalendar overbooked).calendar.lookup 0 =
      some [⟨36000, 39600, ⟨"alice"⟩, 60⟩, ⟨34200, 43200, ⟨"bob"⟩, 150⟩] := by decide +kernel
  refine ⟨rfl, booked, ?_⟩
  intro apart
  refine apart 0 0 _ _ 0 1 _ _ booked rfl booked rfl (by decide) 36000 ?_
  simp [Meeting.During]

theorem noDoubleBooking_backToBack : NoDoubleBooking (run newCalendar backToBack) := by
  have created : instantiateHandler (depsAt 0) officeHours .empty = .ok newCalendar.app := rfl
  refine noDoubleBooking_of_uncovered created (Machine.Along.accepted ⟨?_, ?_, trivial⟩)
  · intro startTime endTime config _ _ meeting listed
    cases listed
  · rintro startTime endTime config ⟨⟩ configured meeting listed
    have zone : ((Machine.step exec newCalendar (book "alice" 600 660)).app.config.map
        Config.utcOffset) = some 0 := by decide +kernel
    rw [configured, Option.map_some, Option.some.injEq] at zone
    have first : meetingsOn (Machine.step exec newCalendar (book "alice" 600 660)).app 0 =
        [⟨36000, 39600, ⟨"alice"⟩, 60⟩] := by decide +kernel
    have day : localDay config.utcOffset (660 * 60 : Nat) * 86400 = 0 := by
      rw [zone]
      decide
    rw [day, first, List.mem_singleton] at listed
    subst listed
    simp

end AbstractFramework.Calendar
