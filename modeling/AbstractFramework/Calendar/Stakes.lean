import AbstractFramework.Calendar.Bookings
import AbstractFramework.Lib.Escrow

/-! # Stakes

The stake of a meeting is an escrow, but only its amount is stored with the meeting: the
denom in which it is settled is the one that is configured at that time.  Everything else
is in order.  A stake is settled once and in full, so that the stakes are conserved in each
denom exactly when every one is settled while its own denom is configured.  Then the app has
them all, while otherwise a stake is paid out of the others.
-/

namespace AbstractFramework.Calendar

open AbstractFramework Fallible Storage Voting Sdk Escrow

variable {s s' : CalendarState} {f f' : FundedCalendar} {c : Call} {r : Response} {day : Int} {index : Nat}

/-! ## What a run receives and sends -/

/-- A call that succeeded, with the state before it and its response. -/
abbrev Event := CalendarState × Call × Response

/-- What the app has of an event on the chain. -/
def seen (event : FundedCalendar × Call × Response) : Event := (event.1.app, event.2)

def history (start : FundedCalendar) (calls : List Call) : List Event :=
  (Machine.history exec start calls).map seen

/-- The stake that a request deposits for the meeting that it books. -/
def receipt (event : Event) : Option (Deposit (Int × Nat) String) :=
  match event.2.1.msg, event.1.config, event.2.1.info.funds with
  | .RequestMeeting startTime _, some config, [coin] =>
    let day := localDay config.utcOffset startTime * 86400
    some { key := (day, (meetingsOn event.1 day).length), unit := coin.denom, amount := coin.amount }
  | _, _, _ => none

def receipts (log : List Event) : List (Deposit (Int × Nat) String) := log.filterMap receipt

/-- What a request of a meeting brings in. -/
def broughtIn (denom : String) (event : Event) : Nat :=
  match event.2.1.msg with
  | .RequestMeeting _ _ => (event.2.1.info.funds.map fun coin => inUnit denom coin.denom coin.amount).sum
  | _ => 0

def sentBy (denom : String) (messages : List TransferMsg) : Nat :=
  (messages.map fun message =>
    if message.asset.info = .Native denom then message.asset.amount else 0).sum

/-- The amount that successful requests brought in. -/
def received (denom : String) (log : List Event) : Nat := (log.map (broughtIn denom)).sum

/-- The amount that the app has sent out. -/
def sentOut (denom : String) (log : List Event) : Nat :=
  (log.map fun event => sentBy denom event.2.2.messages).sum

/-- The stake of a meeting that is still to be settled. -/
def stakeAt (s : CalendarState) (key : Int × Nat) : Nat :=
  ((meetingsOn s key.1)[key.2]?.map Meeting.amountStaked).getD 0

/-- How often the stake of a meeting has been settled. -/
def settlements (log : List Event) (key : Int × Nat) : Nat :=
  log.countP fun event => decide (settledStake event.2.1.msg = some key)

/-- What came in is held for meetings or was sent out, in every denom, and every stake is
    settled at most once, in full, in the denom it was paid in and to those who have a share. -/
structure StakesConserved (start : FundedCalendar) (calls : List Call) : Prop where
  conserved : ∀ denom, received denom (history start calls) =
    held (stakeAt (run start calls)) (receipts (history start calls)) denom +
      sentOut denom (history start calls)
  once : ∀ key, settlements (history start calls) key ≤ 1
  inKind : ∀ event ∈ history start calls, ∀ key, settledStake event.2.1.msg = some key →
    ∃ paid ∈ receipts (history start calls), paid.key = key ∧
      Sends event.2.2.messages paid.unit paid.amount
  shares : ∀ event ∈ history start calls, ∀ key, settledStake event.2.1.msg = some key →
    ∃ meeting, (meetingsOn event.1 key.1)[key.2]? = some meeting ∧
      Shares event.2.2.messages meeting.requester event.2.1.deps.account

/-- Every stake is settled while the denom is configured that it was paid in. -/
def SameDenom (log : List Event) : Prop :=
  ∀ event ∈ log, ∀ key ∈ settledStake event.2.1.msg, ∀ paid ∈ receipts log, paid.key = key →
    ∀ config ∈ event.1.config, config.denom = paid.unit

instance (log : List Event) : Decidable (SameDenom log) :=
  inferInstanceAs (Decidable (∀ event ∈ log, _))

/-! ## Stakes after a write -/

theorem meetingsOn_insert (meetings : List Meeting) (day' : Int) :
    meetingsOn { s with calendar := s.calendar.insert day meetings } day' =
      if day' = day then meetings else meetingsOn s day' := by
  simp only [meetingsOn, lookup_insert_ite]
  split <;> rfl

theorem getElem?_request (s : CalendarState) (day : Int) (meeting : Meeting) (key : Int × Nat) :
    (meetingsOn { s with
        calendar := s.calendar.insert day (meetingsOn s day ++ [meeting]) } key.1)[key.2]? =
      if key = (day, (meetingsOn s day).length) then some meeting
      else (meetingsOn s key.1)[key.2]? := by
  obtain ⟨day', index⟩ := key
  simp only [meetingsOn_insert]
  by_cases here : day' = day
  · subst here
    rcases Nat.lt_trichotomy index (meetingsOn s day').length with before | rfl | after
    · rw [if_pos rfl, List.getElem?_append_left before, if_neg]
      intro same
      exact Nat.ne_of_lt before (Prod.mk.inj same).2
    · simp
    · have past : (meetingsOn s day' ++ [meeting]).length ≤ index := by
        rw [List.length_append]
        exact after
      rw [if_pos rfl, List.getElem?_eq_none past, List.getElem?_eq_none (Nat.le_of_lt after), if_neg]
      intro same
      exact Nat.ne_of_gt after (Prod.mk.inj same).2
  · rw [if_neg here, if_neg]
    intro same
    exact here (Prod.mk.inj same).1

theorem stakeAt_request {meeting : Meeting} (key : Int × Nat) :
    stakeAt { s with calendar := s.calendar.insert day (meetingsOn s day ++ [meeting]) } key =
      if key = (day, (meetingsOn s day).length) then meeting.amountStaked else stakeAt s key := by
  rw [stakeAt, getElem?_request]
  split
  · rfl
  · rfl

theorem getElem?_settle {meetings : List Meeting} {meeting : Meeting}
    (filed : s.calendar.lookup day = some meetings) (at_ : meetings[index]? = some meeting)
    (key : Int × Nat) :
    (meetingsOn { s with
        calendar := s.calendar.insert day
          (meetings.set index { meeting with amountStaked := 0 }) } key.1)[key.2]? =
      if key = (day, index) then some { meeting with amountStaked := 0 }
      else (meetingsOn s key.1)[key.2]? := by
  obtain ⟨day', index'⟩ := key
  have here : meetingsOn s day = meetings := by rw [meetingsOn, filed]; rfl
  simp only [meetingsOn_insert]
  by_cases sameDay : day' = day
  · subst sameDay
    rw [if_pos rfl, List.getElem?_set, here]
    by_cases sameIndex : index = index'
    · subst sameIndex
      obtain ⟨bound, -⟩ := List.getElem?_eq_some_iff.mp at_
      simp [bound]
    · simp [sameIndex, Ne.symm sameIndex]
  · simp [sameDay]

theorem stakeAt_settle {meetings : List Meeting} {meeting : Meeting}
    (filed : s.calendar.lookup day = some meetings) (at_ : meetings[index]? = some meeting)
    (key : Int × Nat) :
    stakeAt { s with
        calendar := s.calendar.insert day
          (meetings.set index { meeting with amountStaked := 0 }) } key =
      if key = (day, index) then 0 else stakeAt s key := by
  rw [stakeAt, getElem?_settle filed at_]
  split
  · rfl
  · rfl

theorem stakeAt_of_filed {meetings : List Meeting} {meeting : Meeting}
    (filed : s.calendar.lookup day = some meetings) (at_ : meetings[index]? = some meeting) :
    stakeAt s (day, index) = meeting.amountStaked := by
  simp [stakeAt, meetingsOn, filed, at_]

/-! ## Messages -/

theorem sentBy_sends {messages : List TransferMsg} {denom : String} {amount : Nat}
    (sends : Sends messages denom amount) (denom' : String) :
    sentBy denom' messages = inUnit denom' denom amount := by
  obtain ⟨inDenom, sum, -⟩ := sends
  unfold sentBy
  have each : ∀ message ∈ messages,
      (if message.asset.info = .Native denom' then message.asset.amount else 0) =
        inUnit denom' denom message.asset.amount := by
    intro message listed
    simp [inDenom message listed, inUnit]
  rw [List.map_congr_left each, ← sum]
  unfold inUnit
  by_cases same : denom = denom'
  · simp [same]
  · simp [same]

/-! ## Events -/

variable {log : List Event} {event : Event}

@[simp] theorem receipts_snoc :
    receipts (log ++ [event]) = receipts log ++ (receipt event).toList := by
  simp only [receipts, List.filterMap_append]
  cases h : receipt event <;> simp [h]

@[simp] theorem received_snoc (denom : String) :
    received denom (log ++ [event]) = received denom log + broughtIn denom event := by
  simp [received]

@[simp] theorem sentOut_snoc (denom : String) :
    sentOut denom (log ++ [event]) = sentOut denom log + sentBy denom event.2.2.messages := by
  simp [sentOut]

theorem settlements_snoc (key : Int × Nat) :
    settlements (log ++ [event]) key =
      settlements log key + if settledStake event.2.1.msg = some key then 1 else 0 := by
  simp [settlements, List.countP_append, List.countP_singleton]

theorem SameDenom.init (same : SameDenom (log ++ [event])) : SameDenom log := by
  intro earlier happened key settled paid listed
  refine same earlier (List.mem_append_left _ happened) key settled paid ?_
  rw [receipts_snoc]
  exact List.mem_append_left _ listed

/-- What holds of every settlement holds after one more event. -/
theorem settled_snoc {P : Event → Int × Nat → Prop}
    (old : ∀ event ∈ log, ∀ key, settledStake event.2.1.msg = some key → P event key)
    (new : ∀ key, settledStake event.2.1.msg = some key → P event key) :
    ∀ event' ∈ log ++ [event], ∀ key, settledStake event'.2.1.msg = some key → P event' key := by
  intro event' happened
  rcases List.mem_append.mp happened with earlier | last
  · exact old event' earlier
  · rw [List.mem_singleton.mp last]
    exact new

/-- What settles a stake brings nothing in. -/
theorem receipt_of_settled {key : Int × Nat} (msg : settledStake c.msg = some key) :
    receipt (s, c, r) = none ∧ ∀ denom, broughtIn denom (s, c, r) = 0 := by
  cases h : c.msg with
  | RequestMeeting startTime endTime => rw [h] at msg; cases msg
  | SlashFullStake day index => simp [receipt, broughtIn, h]
  | SlashPartialStake day index minutesLate => simp [receipt, broughtIn, h]
  | ReturnStake day index => simp [receipt, broughtIn, h]
  | UpdateConfig price denom => simp [receipt, broughtIn, h]

/-! ## The invariant -/

/-- What the calendar keeps on the way: every meeting has one deposit, whose stake is there
    until it is settled. -/
structure Kept (s : CalendarState) (log : List Event) : Prop where
  keys : ((receipts log).map Deposit.key).Nodup
  places : ∀ paid ∈ receipts log, paid.key.2 < (meetingsOn s paid.key.1).length
  covered : ∀ key meeting, (meetingsOn s key.1)[key.2]? = some meeting →
    ∃ paid ∈ receipts log, paid.key = key
  stakes : ∀ paid ∈ receipts log,
    (settlements log paid.key = 0 ∧ stakeAt s paid.key = paid.amount) ∨
      (settlements log paid.key = 1 ∧ stakeAt s paid.key = 0)
  settled : ∀ event ∈ log, ∀ key, settledStake event.2.1.msg = some key →
    ∃ paid ∈ receipts log, paid.key = key ∧ ∃ config, event.1.config = some config ∧
      Sends event.2.2.messages config.denom paid.amount
  shares : ∀ event ∈ log, ∀ key, settledStake event.2.1.msg = some key →
    ∃ meeting, (meetingsOn event.1 key.1)[key.2]? = some meeting ∧
      Shares event.2.2.messages meeting.requester event.2.1.deps.account
  conserved : SameDenom log → ∀ denom,
    received denom log = held (stakeAt s) (receipts log) denom + sentOut denom log

/-- A stake that has no deposit is not settled. -/
theorem Kept.settlements_eq_zero (kept : Kept s log) {key : Int × Nat}
    (unpaid : ∀ paid ∈ receipts log, paid.key ≠ key) : settlements log key = 0 := by
  apply List.countP_eq_zero.mpr
  intro event happened
  by_cases settled : settledStake event.2.1.msg = some key
  · obtain ⟨paid, listed, same, -⟩ := kept.settled event happened key settled
    exact absurd same (unpaid paid listed)
  · simpa using settled

theorem Kept.requested (kept : Kept s log) {startTime endTime : Int} {config : Config}
    {amount : Nat} (msg : c.msg = .RequestMeeting startTime endTime)
    (configured : s.config = some config) (paid : c.info.funds = [⟨config.denom, amount⟩])
    (silent : r.messages = []) (day_ : day = localDay config.utcOffset startTime * 86400) :
    Kept { s with
      calendar := s.calendar.insert day
        (meetingsOn s day ++ [⟨startTime, endTime, c.info.sender, amount⟩]) }
      (log ++ [(s, c, r)]) := by
  subst day_
  have unsettled : settledStake c.msg = none := by rw [msg]; rfl
  have deposited : receipt (s, c, r) = some
      { key := (localDay config.utcOffset startTime * 86400,
          (meetingsOn s (localDay config.utcOffset startTime * 86400)).length)
        unit := config.denom, amount } := by
    simp [receipt, msg, configured, paid]
  generalize localDay config.utcOffset startTime * 86400 = day at *
  -- no earlier deposit is under the new place
  have fresh : ∀ old ∈ receipts log, old.key ≠ (day, (meetingsOn s day).length) := by
    intro old listed same
    have place := kept.places old listed
    rw [same] at place
    exact Nat.lt_irrefl _ place
  have kept_old : ∀ old ∈ receipts log, stakeAt { s with
      calendar := s.calendar.insert day
        (meetingsOn s day ++ [⟨startTime, endTime, c.info.sender, amount⟩]) } old.key =
      stakeAt s old.key := by
    intro old listed
    rw [stakeAt_request, if_neg (fresh old listed)]
  constructor
  · rw [receipts_snoc, deposited, List.map_append]
    refine List.nodup_append.mpr ⟨kept.keys, List.nodup_singleton _, ?_⟩
    intro key old key' new
    obtain ⟨paid, listed, rfl⟩ := List.mem_map.mp old
    obtain rfl := List.mem_singleton.mp new
    exact fresh paid listed
  · intro paid listed
    rw [receipts_snoc, deposited] at listed
    have there := getElem?_request s day
      ⟨startTime, endTime, c.info.sender, amount⟩ paid.key
    rcases List.mem_append.mp listed with old | new
    · rw [if_neg (fresh paid old), List.getElem?_eq_getElem (kept.places paid old)] at there
      exact (List.getElem?_eq_some_iff.mp there).1
    · obtain rfl := List.mem_singleton.mp new
      rw [if_pos rfl] at there
      exact (List.getElem?_eq_some_iff.mp there).1
  · intro key meeting at_
    rw [receipts_snoc, deposited]
    rw [getElem?_request] at at_
    by_cases new : key = (day, (meetingsOn s day).length)
    · exact ⟨_, List.mem_append_right _ (List.mem_singleton_self _), new.symm⟩
    · rw [if_neg new] at at_
      obtain ⟨paid, listed, same⟩ := kept.covered key meeting at_
      exact ⟨paid, List.mem_append_left _ listed, same⟩
  · intro paid listed
    rw [receipts_snoc, deposited] at listed
    simp only [settlements_snoc, unsettled, reduceCtorEq, if_false, Nat.add_zero]
    rcases List.mem_append.mp listed with old | new
    · rw [kept_old paid old]
      exact kept.stakes paid old
    · obtain rfl := List.mem_singleton.mp new
      refine .inl ⟨kept.settlements_eq_zero fresh, ?_⟩
      rw [stakeAt_request, if_pos rfl]
  · refine settled_snoc ?_ (by simp [unsettled])
    intro event happened key settled
    obtain ⟨paid, listed, same, sends⟩ := kept.settled event happened key settled
    rw [receipts_snoc]
    exact ⟨paid, List.mem_append_left _ listed, same, sends⟩
  · exact settled_snoc kept.shares (by simp [unsettled])
  · intro same denom
    have brought : broughtIn denom (s, c, r) = inUnit denom config.denom amount := by
      simp [broughtIn, msg, paid]
    rw [received_snoc, sentOut_snoc, receipts_snoc, deposited, Option.toList_some,
      held_snoc denom kept_old (by rw [stakeAt_request, if_pos rfl]), brought,
      kept.conserved same.init denom, silent]
    simp only [sentBy, List.map_nil, List.sum_nil]
    omega

theorem Kept.settle (kept : Kept s log) {config : Config}
    (msg : settledStake c.msg = some (day, index)) (configured : s.config = some config)
    {meetings : List Meeting} (filed : s.calendar.lookup day = some meetings) {meeting : Meeting}
    (at_ : meetings[index]? = some meeting) (staked : meeting.amountStaked ≠ 0)
    (sends : Sends r.messages config.denom meeting.amountStaked)
    (shares : Shares r.messages meeting.requester c.deps.account) :
    Kept { s with
      calendar := s.calendar.insert day
        (meetings.set index { meeting with amountStaked := 0 }) } (log ++ [(s, c, r)]) := by
  obtain ⟨unpaid, nothing⟩ := receipt_of_settled (s := s) (r := r) msg
  have here : meetingsOn s day = meetings := by rw [meetingsOn, filed]; rfl
  have at' : (meetingsOn s day)[index]? = some meeting := by rw [here]; exact at_
  have stake : stakeAt s (day, index) = meeting.amountStaked := stakeAt_of_filed filed at_
  obtain ⟨paid, deposited, place⟩ := kept.covered (day, index) meeting at'
  -- the deposit is still there, as the meeting has a stake
  have open_ : settlements log (day, index) = 0 ∧ meeting.amountStaked = paid.amount := by
    rcases kept.stakes paid deposited with ⟨open_, same⟩ | ⟨-, gone⟩
    · rw [place] at open_ same
      exact ⟨open_, stake.symm.trans same⟩
    · rw [place] at gone
      exact absurd (stake.symm.trans gone) staked
  have same_receipts : receipts (log ++ [(s, c, r)]) = receipts log := by simp [unpaid]
  constructor
  · rw [same_receipts]
    exact kept.keys
  · intro old listed
    rw [same_receipts] at listed
    have there := getElem?_settle filed at_ old.key
    by_cases same : old.key = (day, index)
    · rw [if_pos same] at there
      exact (List.getElem?_eq_some_iff.mp there).1
    · rw [if_neg same, List.getElem?_eq_getElem (kept.places old listed)] at there
      exact (List.getElem?_eq_some_iff.mp there).1
  · intro key meeting' found
    rw [same_receipts]
    rw [getElem?_settle filed at_] at found
    by_cases same : key = (day, index)
    · exact ⟨paid, deposited, place.trans same.symm⟩
    · rw [if_neg same] at found
      exact kept.covered key meeting' found
  · intro old listed
    rw [same_receipts] at listed
    rw [settlements_snoc, stakeAt_settle filed at_]
    simp only [msg, Option.some.injEq]
    by_cases same : old.key = (day, index)
    · rw [if_pos same, if_pos same.symm, same, open_.1]
      exact .inr ⟨rfl, rfl⟩
    · rw [if_neg same, if_neg (Ne.symm same)]
      exact kept.stakes old listed
  · rw [same_receipts]
    refine settled_snoc kept.settled ?_
    intro key settled
    obtain rfl := Option.some.inj (msg.symm.trans settled)
    exact ⟨paid, deposited, place, config, configured, open_.2 ▸ sends⟩
  · refine settled_snoc kept.shares ?_
    intro key settled
    obtain rfl := Option.some.inj (msg.symm.trans settled)
    exact ⟨meeting, at', shares⟩
  · intro same denom
    have unit : config.denom = paid.unit :=
      same (s, c, r) (by simp) (day, index) msg paid (by rwa [same_receipts]) place config
        configured
    have emptied : held (stakeAt s) (receipts log) denom =
        held (stakeAt { s with
          calendar := s.calendar.insert day
            (meetings.set index { meeting with amountStaked := 0 }) }) (receipts log) denom +
          inUnit denom paid.unit (stakeAt s paid.key) := by
      apply held_empty denom kept.keys deposited
      · intro key other
        rw [stakeAt_settle filed at_, if_neg (place ▸ other)]
      · rw [stakeAt_settle filed at_, if_pos place]
    rw [place, stake] at emptied
    have sent : sentBy denom r.messages = inUnit denom paid.unit meeting.amountStaked := by
      rw [sentBy_sends sends, unit]
    rw [received_snoc, sentOut_snoc, same_receipts, nothing, kept.conserved same.init denom,
      emptied, sent]
    omega

theorem Kept.update (kept : Kept s log) {price : Option Nat} {asset : Option AssetEntry}
    (msg : c.msg = .UpdateConfig price asset) (silent : r.messages = []) (config : Config) :
    Kept { s with config := some config } (log ++ [(s, c, r)]) := by
  have unsettled : settledStake c.msg = none := by rw [msg]; rfl
  have same_receipts : receipts (log ++ [(s, c, r)]) = receipts log := by simp [receipt, msg]
  constructor
  · rw [same_receipts]
    exact kept.keys
  · rw [same_receipts]
    exact kept.places
  · rw [same_receipts]
    exact kept.covered
  · intro paid listed
    rw [same_receipts] at listed
    simp only [settlements_snoc, unsettled, reduceCtorEq, if_false, Nat.add_zero]
    exact kept.stakes paid listed
  · rw [same_receipts]
    exact settled_snoc kept.settled (by simp [unsettled])
  · exact settled_snoc kept.shares (by simp [unsettled])
  · intro same denom
    have brought : broughtIn denom (s, c, r) = 0 := by simp [broughtIn, msg]
    rw [received_snoc, sentOut_snoc, same_receipts, brought, silent,
      kept.conserved same.init denom]
    rfl

theorem Kept.exec (kept : Kept f.app log) (h : exec c f = .ok (f', r)) :
    Kept f'.app (log ++ [(f.app, c, r)]) := by
  obtain ⟨s, _⟩ := f
  obtain ⟨s', _⟩ := f'
  cases exec_did h with
  | requested msg configured paid positive sameDay forward free silent =>
    exact kept.requested msg configured paid silent rfl
  | settled msg configured filed at_ staked sends shares =>
    exact kept.settle msg configured filed at_ staked sends shares
  | updated msg configured pricePerMinute denom silent => exact kept.update msg silent _

theorem Kept.start {deps : CalendarDeps} {msg : CalendarInstantiateMsg}
    (h : instantiateHandler deps msg .empty = .ok s) : Kept s [] := by
  simp only [instantiateHandler, bind_eq_ok, pure_eq_ok] at h
  obtain ⟨denom, -, _, -, _, -, _, -, rfl⟩ := h
  constructor
  · exact List.nodup_nil
  · intro paid listed
    cases listed
  · intro key meeting found
    cases found
  · intro paid listed
    cases listed
  · intro event happened
    cases happened
  · intro event happened
    cases happened
  · intro _ denom
    rfl

theorem kept_run {deps : CalendarDeps} {msg : CalendarInstantiateMsg} {start : FundedCalendar}
    (calls : List Call) (created : instantiateHandler deps msg .empty = .ok start.app) :
    Kept (run start calls) (history start calls) := by
  refine Machine.run_history (P := fun f log => Kept f.app (log.map seen)) calls ?_
    (Kept.start created)
  intro f log c f' r kept ok
  rw [List.map_append]
  exact kept.exec ok

/-- What is sent is in one denom only. -/
theorem Sends.denom_unique {messages : List TransferMsg} {denom denom' : String}
    {amount amount' : Nat} (sends : Sends messages denom amount)
    (sends' : Sends messages denom' amount') : denom = denom' := by
  obtain ⟨message, listed⟩ := List.exists_mem_of_ne_nil _ sends.some
  exact AssetInfo.Native.inj ((sends.denom message listed).symm.trans (sends'.denom message listed))

/-- In a run of the calendar the stakes are conserved exactly when every one is settled while
    the denom is configured that it was paid in. -/
theorem stakesConserved_iff {deps : CalendarDeps} {msg : CalendarInstantiateMsg}
    {start : FundedCalendar} {calls : List Call}
    (created : instantiateHandler deps msg .empty = .ok start.app) :
    StakesConserved start calls ↔ SameDenom (history start calls) := by
  have kept := kept_run calls created
  constructor
  · intro conserved event happened key settled paid listed place config configured
    obtain ⟨paid', listed', place', config', configured', sends⟩ :=
      kept.settled event happened key settled
    obtain ⟨paid'', listed'', place'', sends'⟩ := conserved.inKind event happened key settled
    obtain rfl := Option.some.inj (configured.symm.trans configured')
    obtain rfl := List.inj_on_of_nodup_map kept.keys listed listed'' (place.trans place''.symm)
    exact sends.denom_unique sends'
  · intro same
    refine ⟨kept.conserved same, ?_, ?_, kept.shares⟩
    · intro key
      by_cases deposited : ∃ paid ∈ receipts (history start calls), paid.key = key
      · obtain ⟨paid, listed, rfl⟩ := deposited
        rcases kept.stakes paid listed with ⟨none, -⟩ | ⟨once, -⟩
        · omega
        · omega
      · rw [kept.settlements_eq_zero fun paid listed place =>
          deposited ⟨paid, listed, place⟩]
        omega
    · intro event happened key settled
      obtain ⟨paid, listed, place, config, configured, sends⟩ :=
        kept.settled event happened key settled
      have unit := same event happened key settled paid listed place config configured
      exact ⟨paid, listed, place, unit ▸ sends⟩

/-! ## Solvency -/

/-- The coins that came with calls. -/
def arrived (denom : String) (log : List Event) : Nat :=
  (log.map fun event => Wallet.amountOf event.2.1.incoming (.Native denom)).sum

theorem broughtIn_le (denom : String) (event : Event) :
    broughtIn denom event ≤ Wallet.amountOf event.2.1.incoming (.Native denom) := by
  unfold broughtIn
  split
  · simp [Wallet.amountOf, Call.incoming, inUnit, Function.comp_def]
  · exact Nat.zero_le _

theorem received_le_arrived (denom : String) (log : List Event) :
    received denom log ≤ arrived denom log := by
  induction log with
  | nil => exact Nat.le_refl _
  | cons event log ih => exact Nat.add_le_add (broughtIn_le denom event) ih

/-- The app has what came in and was not sent out. -/
theorem held_run (start : FundedCalendar) (calls : List Call) (denom : String) :
    (Machine.run exec start calls).held (.Native denom) + sentOut denom (history start calls) =
      start.held (.Native denom) + arrived denom (history start calls) := by
  refine Machine.run_history (P := fun f log =>
    f.held (.Native denom) + sentOut denom (log.map seen) =
      start.held (.Native denom) + arrived denom (log.map seen)) calls ?_ rfl
  intro f log c f' r balanced ok
  have paid := Wallet.payAll_balance (exec_eq_ok.mp ok).2 (.Native denom)
  have sent : sentBy denom r.messages = Wallet.amountOf r.outgoing (.Native denom) := by
    simp [sentBy, Wallet.amountOf, Response.outgoing, Function.comp_def]
  have more : arrived denom ((log ++ [(f, c, r)]).map seen) =
      arrived denom (log.map seen) + Wallet.amountOf c.incoming (.Native denom) := by
    simp [arrived, seen]
  rw [Wallet.receiveAll_apply] at paid
  rw [more, List.map_append, List.map_singleton, sentOut_snoc]
  simp only [seen, sent]
  omega

/-- As long as stakes are settled in their own denom, the app has all those that are left. -/
theorem stakes_covered {deps : CalendarDeps} {msg : CalendarInstantiateMsg}
    {start : FundedCalendar} {calls : List Call}
    (created : instantiateHandler deps msg .empty = .ok start.app)
    (same : SameDenom (history start calls)) (denom : String) :
    held (stakeAt (run start calls)) (receipts (history start calls)) denom ≤
      (Machine.run exec start calls).held (.Native denom) := by
  have conserved := (kept_run calls created).conserved same denom
  have balanced := held_run start calls denom
  have came := received_le_arrived denom (history start calls)
  omega

section Sample

/-- The admin settles the first meeting of the first of January 1970 on the day after. -/
def returnStake : Call where
  deps := depsAt 100000
  info := { sender := ⟨"admin"⟩, funds := [] }
  msg := .ReturnStake 0 0

def changeDenom : Call where
  deps := depsAt 0
  info := { sender := ⟨"admin"⟩, funds := [] }
  msg := .UpdateConfig none (some "atom")

/-- Bob books in the new denom before alice's stake is returned. -/
def redenominated : List Call :=
  [book "alice" 600 660, changeDenom, bookFor "uatom" "bob" 700 760, returnStake]

end Sample

/-- Alice gets her stake back in the denom that bob has paid in. -/
theorem returned_in_other_denom :
    instantiateHandler (depsAt 0) officeHours .empty = .ok newCalendar.app ∧
      (history newCalendar redenominated).map (fun event => event.2.2.messages) =
        [[], [], [], [send ⟨"alice"⟩ 60 "uatom"]] ∧
      ¬ StakesConserved newCalendar redenominated := by
  refine ⟨rfl, by decide +kernel, ?_⟩
  intro conserved
  have lost : ¬ received "ujuno" (history newCalendar redenominated) =
      held (stakeAt (run newCalendar redenominated)) (receipts (history newCalendar redenominated))
        "ujuno" + sentOut "ujuno" (history newCalendar redenominated) := by
    decide +kernel
  exact lost (conserved.conserved "ujuno")

theorem stakesConserved_iff_returned :
    StakesConserved newCalendar [book "alice" 600 660, returnStake, changeDenom] ↔
      SameDenom (history newCalendar [book "alice" 600 660, returnStake, changeDenom]) := by
  have created : instantiateHandler (depsAt 0) officeHours .empty = .ok newCalendar.app := rfl
  exact stakesConserved_iff created

/-- A denom that changes after the stake is settled does no harm. -/
example : SameDenom (history newCalendar [book "alice" 600 660, returnStake, changeDenom]) := by
  decide +kernel

/-- Without bob's stake the bank refuses to send alice what the app has not got. -/
example : (history newCalendar [book "alice" 600 660, changeDenom, returnStake]).length = 2 := by
  decide +kernel

end AbstractFramework.Calendar
