import AbstractFramework.Lib.SharedRate
import AbstractFramework.Subscription.Bookkeeping

/-! # Shared emissions

A claim divides the whole time since the last one by a single number of subscribers: the one
at the time of the claim, and in a batch one less for everybody who left before.  As long as
this number covers all subscribers of that time, the claims share the rate.  Somebody whose
time is over is paid until it is unsubscribed.
-/

namespace AbstractFramework.Subscription

open AbstractFramework Fallible Storage Voting Sdk Objects SharedRate

variable {s s' : SubscriptionStore} {c : Call} {r : Response} {shared : Decimal} {token : AssetInfo}

/-! ## What is paid -/

/-- What a subscriber is paid by shared emissions that are divided by a number. -/
def emission (shared : Decimal) (block : BlockInfo) (subscribers : Map Addr Subscriber)
    (divisor : Nat) (addr : Addr) : Option (Payment Addr) :=
  (subscribers.lookup addr).bind fun subscriber =>
    let since := seconds subscriber.lastEmissionClaimTimestamp
    let till := seconds block.time
    let amount := mulFloor (till - since) shared / divisor
    if amount = 0 then none else some { key := addr, since, till, divisor, amount }

/-- What a batch pays: those who leave, with one divisor less for each of them. -/
def batch (shared : Decimal) (block : BlockInfo) (subscribers : Map Addr Subscriber) :
    Nat → List Addr → List (Payment Addr)
  | _, [] => []
  | divisor, addr :: addrs =>
    if ∃ subscriber ∈ subscribers.lookup addr, subscriber.isExpired block then
      (emission shared block subscribers divisor addr).toList ++
        batch shared block subscribers (divisor - 1) addrs
    else batch shared block subscribers divisor addrs

/-- The emissions that a call pays. -/
def paidBy (shared : Decimal) (event : Event) : List (Payment Addr) :=
  match event.2.1.msg with
  | .Module (.ClaimEmissions human) =>
    ((event.2.1.deps.validate human).toOption.bind
      (emission shared event.2.1.deps.block event.1.subscribers (activeSubs event.1))).toList
  | .Module (.Unsubscribe humans) =>
    batch shared event.2.1.deps.block event.1.subscribers (activeSubs event.1)
      ((event.2.1.deps.validateAll humans).toOption.getD [])
  | _ => []

def payments (shared : Decimal) (log : List Event) : List (Payment Addr) := log.flatMap (paidBy shared)

def transfer (token : AssetInfo) (p : Payment Addr) : TransferMsg where
  asset := { info := token, amount := p.amount }
  recipient := p.key

/-- The transfers that an event asks of the account. -/
def transfers (event : Event) : List TransferMsg := event.2.2.messages.flatMap AppMsg.transfers

/-- The amount of the token that claims and unsubscribes have sent. -/
def sentOut (token : AssetInfo) (log : List Event) : Nat :=
  ((log.flatMap transfers).map fun msg => if msg.asset.info = token then msg.asset.amount else 0).sum

/-! ## Payments of one call -/

theorem emission_eq_some {block : BlockInfo} {subscribers : Map Addr Subscriber} {divisor : Nat}
    {addr : Addr} {p : Payment Addr} (h : emission shared block subscribers divisor addr = some p) :
    ∃ subscriber, subscribers.lookup addr = some subscriber ∧ p = {
      key := addr
      since := seconds subscriber.lastEmissionClaimTimestamp
      till := seconds block.time
      divisor
      amount := mulFloor (seconds block.time -
        seconds subscriber.lastEmissionClaimTimestamp) shared / divisor } ∧ p.amount ≠ 0 := by
  simp only [emission, Option.bind_eq_some_iff] at h
  obtain ⟨subscriber, found, h⟩ := h
  split at h
  · cases h
  · rename_i positive
    obtain rfl := Option.some.inj h
    exact ⟨subscriber, found, rfl, positive⟩

/-- A claim pays the emission of the subscriber. -/
theorem claim_emission {block : BlockInfo} {subscribers : Map Addr Subscriber} {divisor : Nat}
    {addr : Addr} {subscriber subscriber' : Subscriber} {claim : Option TransferMsg}
    (found : subscribers.lookup addr = some subscriber)
    (claimed : Claim block (.SecondShared shared token) divisor subscriber addr subscriber' claim) :
    claim = (emission shared block subscribers divisor addr).map (transfer token) ∧
      (emission shared block subscribers divisor addr = none ∧ subscriber' = subscriber ∨
        subscriber'.lastEmissionClaimTimestamp = block.time) := by
  have due : ∀ {asset : Asset}, (EmissionType.SecondShared shared token).asset
      (seconds block.time - seconds subscriber.lastEmissionClaimTimestamp) divisor = .ok asset →
      asset = { info := token, amount := mulFloor (seconds block.time -
        seconds subscriber.lastEmissionClaimTimestamp) shared / divisor } := by
    intro asset h
    simp only [EmissionType.asset, divChecked, bind_eq_ok, mulFloorChecked_eq_ok, ite_error_eq_ok,
      pure_eq_ok, Except.ok.injEq] at h
    obtain ⟨_, ⟨-, rfl⟩, _, ⟨-, rfl⟩, rfl⟩ := h
    rfl
  cases claimed with
  | nothing idle =>
    have zero : mulFloor (seconds block.time - seconds subscriber.lastEmissionClaimTimestamp) shared /
        divisor = 0 := by
      rcases idle with early | none | ⟨asset, ok, zero⟩
      · have : seconds block.time ≤ seconds subscriber.lastEmissionClaimTimestamp :=
          Nat.div_le_div_right early
        rw [Nat.sub_eq_zero_of_le this]
        simp [mulFloor]
      · cases none
      · rwa [due ok] at zero
    have none : emission shared block subscribers divisor addr = none := by
      simp only [emission, found, Option.bind_some, if_pos zero]
    rw [none]
    exact ⟨rfl, .inl ⟨rfl, rfl⟩⟩
  | paid late ok positive =>
    rw [due ok] at positive ⊢
    refine ⟨?_, .inr rfl⟩
    simp only [emission, found, Option.bind_some, if_neg positive]
    rfl

/-- What the subscribers are paid by one call, as the ledger below needs to know it. -/
structure Pays (shared : Decimal) (s : SubscriptionStore) (block : BlockInfo)
    (s' : SubscriptionStore) (paid : List (Payment Addr)) : Prop where
  /-- Nobody else's last claim changes, and who is new starts now. -/
  others : ∀ addr subscriber', s'.subscribers.lookup addr = some subscriber' →
    (∃ subscriber, s.subscribers.lookup addr = some subscriber ∧
      subscriber.lastEmissionClaimTimestamp = subscriber'.lastEmissionClaimTimestamp) ∨
      subscriber'.lastEmissionClaimTimestamp = block.time
  since : ∀ p ∈ paid, ∃ subscriber, s.subscribers.lookup p.key = some subscriber ∧
    p.since = seconds subscriber.lastEmissionClaimTimestamp ∧ p.till = seconds block.time ∧
    p.amount = mulFloor (p.till - p.since) shared / p.divisor ∧ p.amount ≠ 0
  updated : ∀ p ∈ paid, ∀ subscriber', s'.subscribers.lookup p.key = some subscriber' →
    subscriber'.lastEmissionClaimTimestamp = block.time
  once : (paid.map Payment.key).Nodup

theorem emission_since {block : BlockInfo} {divisor : Nat} {addr : Addr} {p : Payment Addr}
    (h : emission shared block s.subscribers divisor addr = some p) :
    ∃ subscriber, s.subscribers.lookup p.key = some subscriber ∧
      p.since = seconds subscriber.lastEmissionClaimTimestamp ∧ p.till = seconds block.time ∧
      p.amount = mulFloor (p.till - p.since) shared / p.divisor ∧ p.amount ≠ 0 := by
  obtain ⟨subscriber, found, rfl, positive⟩ := emission_eq_some h
  exact ⟨subscriber, found, rfl, rfl, rfl, positive⟩

theorem mem_batch {block : BlockInfo} {divisor : Nat} {addrs : List Addr} {p : Payment Addr}
    (h : p ∈ batch shared block s.subscribers divisor addrs) :
    ∃ divisor' addr, emission shared block s.subscribers divisor' addr = some p := by
  induction addrs generalizing divisor with
  | nil => cases h
  | cons addr addrs ih =>
    simp only [batch] at h
    split at h
    · rcases List.mem_append.mp h with first | later
      · exact ⟨divisor, addr, Option.mem_toList.mp first⟩
      · exact ih later
    · exact ih h

/-- The loop over a batch takes out who is paid, and nobody is paid twice. -/
theorem batch_loop {deps : SubscriptionDeps} {u u' : Unsubs} {addrs : List Addr}
    {subscribers : Map Addr Subscriber}
    (shrunk : ∀ addr subscriber, u.store.subscribers.lookup addr = some subscriber →
      subscribers.lookup addr = some subscriber)
    (loop : addrs.foldlM (unsubscribeOne deps (.SecondShared shared token)) u = .ok u') :
    (∀ addr subscriber, u'.store.subscribers.lookup addr = some subscriber →
      u.store.subscribers.lookup addr = some subscriber) ∧
    u'.claimActions = u.claimActions ++
      (batch shared deps.block subscribers u.activeSubs addrs).map (transfer token) ∧
    (∀ p ∈ batch shared deps.block subscribers u.activeSubs addrs,
      u.store.subscribers.lookup p.key ≠ none ∧ u'.store.subscribers.lookup p.key = none) ∧
    ((batch shared deps.block subscribers u.activeSubs addrs).map Payment.key).Nodup := by
  induction addrs generalizing u with
  | nil =>
    obtain rfl := pure_eq_ok.mp loop
    simp [batch]
  | cons addr addrs ih =>
    obtain ⟨m, first, rest⟩ := foldlM_cons_eq_ok.mp loop
    cases unsubscribeOne_ok first with
    | @stays subscriber found running =>
      have skip : ¬ ∃ subscriber ∈ subscribers.lookup addr, subscriber.isExpired deps.block := by
        rintro ⟨other, found', expired⟩
        obtain rfl := Option.some.inj ((shrunk addr subscriber found).symm.trans found')
        exact running expired
      rw [batch, if_neg skip]
      exact ih shrunk rest
    | @leaves subscriber found expired positive subscriber' claim claimed =>
      have out : ∃ subscriber ∈ subscribers.lookup addr, subscriber.isExpired deps.block :=
        ⟨subscriber, shrunk addr subscriber found, expired⟩
      obtain ⟨kept, actions, gone, once⟩ := ih
        (fun other subscriber found =>
          shrunk other subscriber (lookup_erase_eq_some.mp found).2) rest
      obtain ⟨rfl, -⟩ := claim_emission (shrunk addr subscriber found) claimed
      have last : u'.store.subscribers.lookup addr = none := by
        cases found' : u'.store.subscribers.lookup addr with
        | none => rfl
        | some subscriber =>
          exact absurd rfl (lookup_erase_eq_some.mp (kept addr subscriber found')).1
      rw [batch, if_pos out]
      refine ⟨?_, ?_, ?_, ?_⟩
      · intro other subscriber found
        exact (lookup_erase_eq_some.mp (kept other subscriber found)).2
      · rw [actions, List.map_append, List.append_assoc]
        cases emission shared deps.block subscribers u.activeSubs addr <;> rfl
      · intro p paid
        rcases List.mem_append.mp paid with here | later
        · obtain ⟨_, -, rfl, -⟩ := emission_eq_some (Option.mem_toList.mp here)
          exact ⟨by simp [found], last⟩
        · obtain ⟨present, absent⟩ := gone p later
          obtain ⟨subscriber, found⟩ := Option.ne_none_iff_exists'.mp present
          rw [(lookup_erase_eq_some.mp found).2]
          exact ⟨by simp, absent⟩
      · rw [List.map_append, List.nodup_append]
        refine ⟨?_, once, ?_⟩
        · cases emission shared deps.block subscribers u.activeSubs addr <;> simp
        · rintro _ here key later rfl
          obtain ⟨p, paid, rfl⟩ := List.mem_map.mp here
          obtain ⟨q, paid', same⟩ := List.mem_map.mp later
          obtain ⟨_, -, rfl, -⟩ := emission_eq_some (Option.mem_toList.mp paid)
          obtain ⟨subscriber, found⟩ := Option.ne_none_iff_exists'.mp (gone q paid').1
          exact (lookup_erase_eq_some.mp found).1 same

/-- The emissions are shared at the rate and in the token. -/
def Shares (shared : Decimal) (token : AssetInfo) (s : SubscriptionStore) : Prop :=
  ∃ config, s.config = some config ∧
    config.subscriptionPerSecondEmissions = .SecondShared shared token

instance : Decidable (Shares shared token s) :=
  decidable_of_iff (∃ config ∈ s.config,
    config.subscriptionPerSecondEmissions = .SecondShared shared token) Iff.rfl

theorem Shares.emissions {config : SubscriptionConfig} (shares : Shares shared token s)
    (configured : s.config = some config) :
    config.subscriptionPerSecondEmissions = .SecondShared shared token := by
  obtain ⟨config', configured', same⟩ := shares
  obtain rfl := Option.some.inj (configured.symm.trans configured')
  exact same

/-- A call that pays nothing only has to start new subscribers now. -/
theorem pays_nothing {block : BlockInfo}
    (others : ∀ addr subscriber', s'.subscribers.lookup addr = some subscriber' →
      (∃ subscriber, s.subscribers.lookup addr = some subscriber ∧
        subscriber.lastEmissionClaimTimestamp = subscriber'.lastEmissionClaimTimestamp) ∨
        subscriber'.lastEmissionClaimTimestamp = block.time) : Pays shared s block s' [] where
  others := others
  since := by simp
  updated := by simp
  once := by simp

theorem pays_nothing_of_same {block : BlockInfo} (same : s'.subscribers = s.subscribers) :
    Pays shared s block s' [] := by
  apply pays_nothing
  intro addr subscriber' found
  rw [same] at found
  exact .inl ⟨subscriber', found, rfl⟩

/-- A claim pays its subscriber, whose time starts anew. -/
theorem pays_claimed {block : BlockInfo} {divisor : Nat} {addr : Addr}
    {subscriber subscriber' : Subscriber} (found : s.subscribers.lookup addr = some subscriber)
    (change : emission shared block s.subscribers divisor addr = none ∧ subscriber' = subscriber ∨
      subscriber'.lastEmissionClaimTimestamp = block.time) :
    Pays shared s block { s with subscribers := s.subscribers.insert addr subscriber' }
      (emission shared block s.subscribers divisor addr).toList := by
  constructor
  · intro other subscriber'' found'
    rcases lookup_insert_cases found' with ⟨rfl, rfl⟩ | ⟨-, found'⟩
    · rcases change with ⟨-, same⟩ | now
      · exact .inl ⟨subscriber, found, by rw [same]⟩
      · exact .inr now
    · exact .inl ⟨subscriber'', found', rfl⟩
  · intro p listed
    exact emission_since (Option.mem_toList.mp listed)
  · intro p listed subscriber'' found'
    have due := Option.mem_toList.mp listed
    obtain ⟨_, -, rfl, -⟩ := emission_eq_some due
    rcases lookup_insert_cases found' with ⟨-, rfl⟩ | ⟨other, -⟩
    · rcases change with ⟨none, -⟩ | now
      · rw [none] at due
        cases due
      · exact now
    · exact absurd rfl other
  · cases emission shared block s.subscribers divisor addr <;> simp

/-- Every call pays as the ledger needs it, and sends what it pays if anything. -/
theorem Did.pays (did : Did c s s' r) (shares : Shares shared token s) :
    Pays shared s c.deps.block s' (paidBy shared (s, c, r)) ∧
      (transfers (s, c, r) = (paidBy shared (s, c, r)).map (transfer token) ∨
        transfers (s, c, r) = []) := by
  have unpaid : ∀ {addr : Addr}, payer c = some addr → paidBy shared (s, c, r) = [] := by
    intro addr pays
    unfold payer at pays
    unfold paidBy
    split at pays <;> simp_all
  cases did with
  | @extended addr pays active found expirationTimestamp r silent =>
    rw [unpaid pays]
    refine ⟨pays_nothing ?_, .inr (List.flatMap_eq_nil_iff.mpr silent)⟩
    intro other subscriber' found'
    rcases lookup_insert_cases found' with ⟨rfl, rfl⟩ | ⟨-, found'⟩
    · exact .inl ⟨active, found, rfl⟩
    · exact .inl ⟨subscriber', found', rfl⟩
  | subscribed pays free expirationTimestamp configured counted before accumulated silent =>
    rw [unpaid pays]
    refine ⟨pays_nothing ?_, .inr (List.flatMap_eq_nil_iff.mpr silent)⟩
    intro other subscriber' found'
    rcases lookup_insert_cases found' with ⟨rfl, rfl⟩ | ⟨-, found'⟩
    · exact .inr rfl
    · exact .inl ⟨subscriber', found', rfl⟩
  | @unsubscribed humans msg addrs valid config configured state counted twa twa' before accumulated
      u loop r sends =>
    have paid : paidBy shared (s, c, r) =
        batch shared c.deps.block s.subscribers state.activeSubs addrs := by
      simp [paidBy, msg, valid, activeSubs, counted, Except.toOption]
    rw [shares.emissions configured] at loop
    have all : ∀ addr subscriber, s.subscribers.lookup addr = some subscriber →
        s.subscribers.lookup addr = some subscriber := fun _ _ found => found
    obtain ⟨kept, actions, gone, once⟩ := batch_loop all loop
    rw [paid]
    refine ⟨⟨?_, ?_, ?_, once⟩, ?_⟩
    · intro other subscriber' found
      exact .inl ⟨subscriber', kept other subscriber' found, rfl⟩
    · intro p listed
      obtain ⟨divisor, addr, due⟩ := mem_batch listed
      exact emission_since due
    · intro p listed subscriber' found
      have absent := (gone p listed).2
      rw [show u.store.subscribers.lookup p.key = some subscriber' from found] at absent
      cases absent
    · rw [← List.nil_append (List.map _ _), ← actions]
      exact sends
  | @claimed human msg addr valid config configured state counted subscriber found subscriber' claim
      claim_ r sends =>
    have paid : paidBy shared (s, c, r) =
        (emission shared c.deps.block s.subscribers state.activeSubs addr).toList := by
      simp [paidBy, msg, valid, activeSubs, counted, Except.toOption]
    rw [shares.emissions configured] at claim_
    obtain ⟨rfl, change⟩ := claim_emission found claim_
    rw [paid]
    refine ⟨pays_claimed found change, .inl ?_⟩
    unfold transfers
    rw [sends]
    cases emission shared c.deps.block s.subscribers state.activeSubs addr <;> rfl
  | configured msg configured costs silent =>
    have paid : paidBy shared (s, c, r) = [] := by simp [paidBy, msg]
    rw [paid]
    exact ⟨pays_nothing_of_same rfl, .inr (by simp [transfers, silent])⟩
  | refreshed msg before refresh silent =>
    have paid : paidBy shared (s, c, r) = [] := by simp [paidBy, msg]
    rw [paid]
    exact ⟨pays_nothing_of_same rfl, .inr (by simp [transfers, silent])⟩

/-! ## The ledger of a run -/

variable {log : List Event}

/-- What is known of the payments so far: every subscriber has been on the list since its
    last claim, and every payment is for such a time. -/
structure Ledger (shared : Decimal) (token : AssetInfo) (s : SubscriptionStore)
    (log : List Event) : Prop where
  since : ∀ addr subscriber, s.subscribers.lookup addr = some subscriber →
    ∀ second, seconds subscriber.lastEmissionClaimTimestamp ≤ second →
      (inForce log s second).subscribers.lookup addr ≠ none
  subscribed : ∀ p ∈ payments shared log, ∀ second, p.Covers second →
    (inForce log s second).subscribers.lookup p.key ≠ none
  claimed : ∀ p ∈ payments shared log, ∀ subscriber,
    s.subscribers.lookup p.key = some subscriber →
      p.till ≤ seconds subscriber.lastEmissionClaimTimestamp
  apart : (payments shared log).Pairwise fun p q => p.key = q.key → p.till ≤ q.since
  amount : ∀ p ∈ payments shared log,
    p.amount = mulFloor (p.till - p.since) shared / p.divisor ∧ p.amount ≠ 0
  clocked : ∀ event ∈ log, ∀ p ∈ paidBy shared event, p.till = clock event.2.1
  sent : ∀ event ∈ log, transfers event = (paidBy shared event).map (transfer token) ∨
    transfers event = []

theorem payments_snoc (event : Event) :
    payments shared (log ++ [event]) = payments shared log ++ paidBy shared event := by
  simp [payments]

theorem Ledger.till_le (ledger : Ledger shared token s log) {p : Payment Addr} {second : Nat}
    (ordered : ∀ event ∈ log, clock event.2.1 ≤ second) (paid : p ∈ payments shared log) :
    p.till ≤ second := by
  obtain ⟨event, happened, paid⟩ := List.mem_flatMap.mp paid
  rw [ledger.clocked event happened p paid]
  exact ordered event happened

/-- One more call. -/
theorem Ledger.exec (ledger : Ledger shared token s log)
    (ordered : ∀ event ∈ log, clock event.2.1 ≤ clock c) (shares : Shares shared token s)
    (h : exec c s = .ok (s', r)) : Ledger shared token s' (log ++ [(s, c, r)]) := by
  obtain ⟨⟨others, since, updated, once⟩, sent⟩ := (exec_did h).pays shares
  constructor
  · intro addr subscriber' found second late
    rw [inForce_snoc ordered]
    split
    · rename_i early
      rcases others addr subscriber' found with ⟨subscriber, found', same⟩ | now
      · exact ledger.since addr subscriber found' second (same ▸ late)
      · rw [now] at late
        exact absurd early (Nat.not_lt_of_le late)
    · simp [found]
  · intro p paid second covers
    have early : second < clock c := by
      rw [payments_snoc] at paid
      rcases List.mem_append.mp paid with old | new
      · exact Nat.lt_of_lt_of_le covers.2 (ledger.till_le ordered old)
      · obtain ⟨_, -, -, till, -⟩ := since p new
        exact Nat.lt_of_lt_of_eq covers.2 till
    rw [inForce_snoc ordered, if_pos early]
    rw [payments_snoc] at paid
    rcases List.mem_append.mp paid with old | new
    · exact ledger.subscribed p old second covers
    · obtain ⟨subscriber, found, start, -⟩ := since p new
      exact ledger.since p.key subscriber found second (start ▸ covers.1)
  · intro p paid subscriber' found
    rw [payments_snoc] at paid
    rcases List.mem_append.mp paid with old | new
    · rcases others p.key subscriber' found with ⟨subscriber, found', same⟩ | now
      · exact same ▸ ledger.claimed p old subscriber found'
      · rw [now]
        exact ledger.till_le ordered old
    · obtain ⟨_, -, -, till, -⟩ := since p new
      rw [updated p new subscriber' found]
      exact Nat.le_of_eq till
  · rw [payments_snoc, List.pairwise_append]
    refine ⟨ledger.apart, ?_, ?_⟩
    · refine (List.pairwise_map.mp once).imp ?_
      intro p q other same
      exact absurd same other
    · intro p old q new same
      obtain ⟨subscriber, found, start, -⟩ := since q new
      rw [start]
      exact ledger.claimed p old subscriber (same ▸ found)
  · intro p paid
    rw [payments_snoc] at paid
    rcases List.mem_append.mp paid with old | new
    · exact ledger.amount p old
    · obtain ⟨_, -, -, -, amount⟩ := since p new
      exact amount
  · intro event happened p paid
    rcases List.mem_append.mp happened with old | new
    · exact ledger.clocked event old p paid
    · obtain rfl := List.mem_singleton.mp new
      obtain ⟨_, -, -, till, -⟩ := since p paid
      exact till
  · intro event happened
    rcases List.mem_append.mp happened with old | new
    · exact ledger.sent event old
    · obtain rfl := List.mem_singleton.mp new
      exact sent

theorem Ledger.start : Ledger shared token s [] := by
  constructor
  · intro addr subscriber found second _
    show s.subscribers.lookup addr ≠ none
    simp [found]
  · intro p paid
    cases paid
  · intro p paid
    cases paid
  · exact .nil
  · intro p paid
    cases paid
  · intro event happened
    cases happened
  · intro event happened
    cases happened

/-! ## The bound -/

theorem ledger_run {start : SubscriptionStore} {calls : List Call} (ordered : Ordered calls)
    (fixed : Machine.Along exec (fun s _ => Shares shared token s) start calls) :
    Ledger shared token (run start calls) (history start calls) := by
  refine Machine.run_history_invariant
    (C := fun s log c => (∀ event ∈ log, event.2.1.deps.block.time ≤ c.deps.block.time) ∧
      Shares shared token s) ?_ Ledger.start ?_
  · intro s log c s' r ⟨ordered, shares⟩ ledger ok
    refine ledger.exec ?_ shares ok
    intro event happened
    exact Nat.div_le_div_right (ordered event happened)
  · intro before c after split
    refine ⟨Timeline.throughout_ordered ordered before c after split, ?_⟩
    rw [split, Machine.along_append] at fixed
    exact fixed.2.1

/-- Every payment is for a time from `t₀` on, and its divisor is at least the number of
    subscribers in every second of it. -/
def Covered (shared : Decimal) (t₀ : Timestamp) (start : SubscriptionStore) (calls : List Call) :
    Prop :=
  ∀ p ∈ payments shared (history start calls), seconds t₀ ≤ p.since ∧
    ∀ second, p.Covers second →
      size (inForce (history start calls) (run start calls) second).subscribers ≤ p.divisor

/-- What claims and unsubscribes send stays below the rate. -/
def WithinRate (shared : Decimal) (token : AssetInfo) (t₀ : Timestamp) (log : List Event) : Prop :=
  ∀ t, (∀ event ∈ log, event.2.1.deps.block.time ≤ t) →
    sentOut token log * 10 ^ 18 ≤ shared.atomics * (seconds t - seconds t₀)

/-- Everything that is sent is for seconds in which the subscriber was on the list. -/
def PaidWhileListed (shared : Decimal) (token : AssetInfo) (start : SubscriptionStore)
    (calls : List Call) : Prop :=
  ∀ event ∈ history start calls, ∀ msg ∈ transfers event, ∃ p ∈ paidBy shared event,
    msg = transfer token p ∧ ∀ second, p.Covers second →
      p.key ∈ (inForce (history start calls) (run start calls) second).subscribers

theorem sum_token (token : AssetInfo) (paid : List (Payment Addr)) :
    ((paid.map (transfer token)).map fun msg =>
      if msg.asset.info = token then msg.asset.amount else 0).sum =
        (paid.map Payment.amount).sum := by
  simp [transfer, Function.comp_def]

/-- No more is sent than is paid. -/
theorem Ledger.sentOut_le (ledger : Ledger shared token s log) :
    sentOut token log ≤ ((payments shared log).map Payment.amount).sum := by
  have each := ledger.sent
  clear ledger
  induction log with
  | nil => simp [sentOut, payments]
  | cons event log ih =>
    have rest := ih fun event happened => each event (List.mem_cons_of_mem _ happened)
    have here : ((transfers event).map fun msg =>
        if msg.asset.info = token then msg.asset.amount else 0).sum ≤
        ((paidBy shared event).map Payment.amount).sum := by
      rcases each event List.mem_cons_self with same | none
      · rw [same, sum_token]
      · simp [none]
    simp only [sentOut, payments, List.flatMap_cons, List.map_append, List.sum_append] at rest ⊢
    omega

/-- In every run with shared emissions at a fixed rate whose divisors cover the subscribers the
    emissions stay below the rate, and they are only for the time on the list. -/
theorem emissions_withinRate {start : SubscriptionStore} {calls : List Call} {t₀ : Timestamp}
    (ordered : Ordered calls)
    (fixed : Machine.Along exec (fun s _ => Shares shared token s) start calls)
    (covered : Covered shared t₀ start calls) :
    WithinRate shared token t₀ (history start calls) ∧
      PaidWhileListed shared token start calls := by
  have ledger := ledger_run ordered fixed
  constructor
  · intro t past
    have span : ∀ p ∈ payments shared (history start calls),
        seconds t₀ ≤ p.since ∧ p.till ≤ seconds t := by
      intro p paid
      refine ⟨(covered p paid).1, ledger.till_le ?_ paid⟩
      intro event happened
      exact Nat.div_le_div_right (past event happened)
    have fair : ∀ p ∈ payments shared (history start calls), p.divisor ≠ 0 ∧
        p.amount * 10 ^ 18 * p.divisor ≤ shared.atomics * (p.till - p.since) := by
      intro p paid
      obtain ⟨amount, positive⟩ := ledger.amount p paid
      constructor
      · intro zero
        rw [zero, Nat.div_zero] at amount
        exact positive amount
      · calc p.amount * 10 ^ 18 * p.divisor
            = p.amount * p.divisor * 10 ^ 18 := Nat.mul_right_comm ..
          _ ≤ mulFloor (p.till - p.since) shared * 10 ^ 18 := by
            rw [amount]
            exact Nat.mul_le_mul_right _ (Nat.div_mul_le_self _ _)
          _ ≤ (p.till - p.since) * shared.atomics := Nat.div_mul_le_self _ _
          _ = shared.atomics * (p.till - p.since) := Nat.mul_comm ..
    let members (second : Nat) : List Addr :=
      (inForce (history start calls) (run start calls) second).subscribers.keys
    have member : ∀ p ∈ payments shared (history start calls), ∀ second, p.Covers second →
        p.key ∈ members second := by
      intro p paid second covers
      exact mem_iff_lookup_ne.mpr (ledger.subscribed p paid second covers)
    have divided : ∀ p ∈ payments shared (history start calls), ∀ second, p.Covers second →
        (members second).length ≤ p.divisor := by
      intro p paid second covers
      have := (covered p paid).2 second covers
      simpa [members, size, AList.keys, List.keys] using this
    exact Nat.le_trans (Nat.mul_le_mul_right _ ledger.sentOut_le)
      (sum_amount_le ledger.apart span member divided fair)
  · intro event happened msg sent
    rcases ledger.sent event happened with same | none
    · rw [same] at sent
      obtain ⟨p, paid, rfl⟩ := List.mem_map.mp sent
      refine ⟨p, paid, rfl, ?_⟩
      intro second covers
      exact mem_iff_lookup_ne.mpr
        (ledger.subscribed p (List.mem_flatMap.mpr ⟨event, happened, paid⟩) second covers)
    · rw [none] at sent
      cases sent

section Sample

/-- 60 tokens per second. -/
def sixty : Decimal := ⟨60 * 10 ^ 18⟩

def claimAt (secs : UInt32) (subscriber : String) : Call where
  deps := depsAt secs
  info := { sender := ⟨subscriber⟩, funds := [] }
  msg := .Module (.ClaimEmissions subscriber)

/-- Two subscribers claim in turn. -/
def claimInTurn : List Call :=
  [pay 0 "alice" 10, pay 0 "bob" 10, claimAt 5 "alice", claimAt 8 "bob"]

/-- Two subscribers are unsubscribed in one batch, five seconds after their time is over. -/
def leaveTogether : List Call :=
  [pay 0 "alice" 10, pay 0 "bob" 10, unsubscribeAt 15 ["alice", "bob"]]

end Sample

theorem emissions_withinRate_claimInTurn :
    WithinRate sixty (.Native "utoken") 0 (history newApp claimInTurn) ∧
      PaidWhileListed sixty (.Native "utoken") newApp claimInTurn := by
  have all : ∀ p ∈ payments sixty (history newApp claimInTurn), p.till ≤ 8 ∧
      ∀ second < 8, size (inForce (history newApp claimInTurn) (run newApp claimInTurn)
        second).subscribers ≤ p.divisor := by
    decide +kernel
  have ordered : Ordered claimInTurn := by
    unfold Ordered
    decide +kernel
  have covered : Covered sixty 0 newApp claimInTurn := by
    intro p paid
    obtain ⟨till, sizes⟩ := all p paid
    refine ⟨Nat.zero_le _, ?_⟩
    intro second covers
    exact sizes second (Nat.lt_of_lt_of_le covers.2 till)
  exact emissions_withinRate ordered (by decide +kernel) covered

/-- The second one who leaves gets everything of a time that the two have shared, and both get
    tokens for the time after their subscription. -/
theorem emissions_exceed_rate :
    Ordered leaveTogether ∧
      (history newApp leaveTogether).map transfers = [[], [],
        [⟨⟨.Native "utoken", 450⟩, ⟨"alice"⟩⟩, ⟨⟨.Native "utoken", 900⟩, ⟨"bob"⟩⟩]] ∧
      sixty.atomics * (15 - 0 + 1) <
        sentOut (.Native "utoken") (history newApp leaveTogether) * 10 ^ 18 ∧
      ∃ event ∈ history newApp leaveTogether, ∃ p ∈ paidBy sixty event,
        ∃ subscriber ∈ event.1.subscribers.lookup p.key,
          seconds subscriber.expirationTimestamp < p.till := by
  refine ⟨?_, ?_, ?_, ?_⟩
  · unfold Ordered
    decide +kernel
  · decide +kernel
  · decide +kernel
  · decide +kernel

end AbstractFramework.Subscription
