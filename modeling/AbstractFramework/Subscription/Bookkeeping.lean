import AbstractFramework.Lib.Counting
import AbstractFramework.Subscription.Handlers

/-! # Bookkeeping

The number of active subscribers is stored next to the list of them.  It is the length of
the list in every state: also in the middle of a batch, where the number is kept aside
while the list is written.  This is what makes the division of the shared emissions safe.
-/

namespace AbstractFramework.Subscription

open AbstractFramework Fallible Storage Voting Sdk Objects

variable {s s' : SubscriptionStore} {c : Call} {r : Response} {deps : SubscriptionDeps}
variable {emissions : EmissionType AssetInfo}

/-! ## The lists and the counter -/

/-- The counter is the length of the list, and nobody is on both lists. -/
structure Counted (activeSubs : Nat) (s : SubscriptionStore) : Prop where
  count : activeSubs = size s.subscribers
  disjoint : ∀ addr, s.expiredSubscribers.lookup addr ≠ none → s.subscribers.lookup addr = none

/-- An address on one of the lists. -/
def Known (s : SubscriptionStore) (addr : Addr) : Prop :=
  s.subscribers.lookup addr ≠ none ∨ s.expiredSubscribers.lookup addr ≠ none

theorem Counted.positive {activeSubs : Nat} {addr : Addr} {subscriber : Subscriber}
    (counted : Counted activeSubs s) (found : s.subscribers.lookup addr = some subscriber) :
    activeSubs ≠ 0 := by
  have := size_erase found
  have := counted.count
  omega

/-- Writing an active subscriber. -/
theorem Counted.write {activeSubs : Nat} {addr : Addr} {old : Subscriber} (new : Subscriber)
    (counted : Counted activeSubs s) (found : s.subscribers.lookup addr = some old) :
    Counted activeSubs { s with subscribers := s.subscribers.insert addr new } := by
  constructor
  · exact counted.count.trans (size_insert_of_lookup new found).symm
  · intro other expired
    have free := counted.disjoint other expired
    show (s.subscribers.insert addr new).lookup other = none
    rw [lookup_insert_ite, if_neg]
    · exact free
    · rintro rfl
      rw [found] at free
      cases free

/-- A new subscriber. -/
theorem Counted.join {activeSubs : Nat} {addr : Addr} (new : Subscriber)
    (counted : Counted activeSubs s) (free : s.subscribers.lookup addr = none) :
    Counted (activeSubs + 1) { s with
      subscribers := s.subscribers.insert addr new
      expiredSubscribers := s.expiredSubscribers.erase addr } := by
  constructor
  · rw [counted.count]
    exact (size_insert_of_free new free).symm
  · intro other expired
    show (s.subscribers.insert addr new).lookup other = none
    rw [lookup_erase_ite] at expired
    split at expired
    · exact absurd rfl expired
    · rename_i ne
      rw [lookup_insert_ite, if_neg ne]
      exact counted.disjoint other expired

/-- A subscriber moves to the other list. -/
theorem Counted.leave {activeSubs : Nat} {addr : Addr} {old : Subscriber} (new : Subscriber)
    (counted : Counted activeSubs s) (found : s.subscribers.lookup addr = some old) :
    Counted (activeSubs - 1) { s with
      subscribers := s.subscribers.erase addr
      expiredSubscribers := s.expiredSubscribers.insert addr new } := by
  constructor
  · have := counted.count
    have := size_erase found
    show activeSubs - 1 = size (s.subscribers.erase addr)
    omega
  · intro other expired
    show (s.subscribers.erase addr).lookup other = none
    rw [lookup_erase_ite]
    split
    · rfl
    · rename_i ne
      rw [lookup_insert_ite, if_neg ne] at expired
      exact counted.disjoint other expired

/-- One iteration of the loop keeps the counter right, and nobody gets lost. -/
theorem Counted.unsubscribeOne {u u' : Unsubs} {addr : Addr} (counted : Counted u.activeSubs u.store)
    (h : unsubscribeOne deps emissions u addr = .ok u') :
    Counted u'.activeSubs u'.store ∧ ∀ other, Known u.store other → Known u'.store other := by
  cases unsubscribeOne_ok h with
  | stays found running => exact ⟨counted, fun _ known => known⟩
  | @leaves subscriber found expired positive subscriber' claim claimed =>
    refine ⟨counted.leave subscriber' found, ?_⟩
    intro other known
    by_cases same : other = addr
    · subst same
      exact .inr (by simp)
    · rcases known with active | gone
      · refine .inl ?_
        simpa only [lookup_erase_ite, if_neg same] using active
      · refine .inr ?_
        simpa only [lookup_insert_ite, if_neg same] using gone

theorem Counted.loop {u u' : Unsubs} {addrs : List Addr} (counted : Counted u.activeSubs u.store)
    (h : addrs.foldlM (Subscription.unsubscribeOne deps emissions) u = .ok u') :
    Counted u'.activeSubs u'.store ∧ ∀ other, Known u.store other → Known u'.store other := by
  refine foldlM_invariant (P := fun v : Unsubs => Counted v.activeSubs v.store ∧
    ∀ other, Known u.store other → Known v.store other) ?_ ⟨counted, fun _ known => known⟩ h
  intro v addr v' _ ⟨counted, kept⟩ ok
  obtain ⟨counted', kept'⟩ := counted.unsubscribeOne ok
  exact ⟨counted', fun other known => kept' other (kept other known)⟩

/-! ## The invariant -/

/-- The stored counter is right. -/
def Consistent (s : SubscriptionStore) : Prop :=
  ∃ state, s.state = some state ∧ Counted state.activeSubs s

theorem Consistent.counted {state : SubscriptionState} (consistent : Consistent s)
    (stored : s.state = some state) : Counted state.activeSubs s := by
  obtain ⟨state', stored', counted⟩ := consistent
  obtain rfl := Option.some.inj (stored.symm.trans stored')
  exact counted

/-- Who is known stays known when a subscriber is written. -/
theorem Known.write {other : Addr} (known : Known s other) (addr : Addr) (subscriber : Subscriber) :
    Known { s with subscribers := s.subscribers.insert addr subscriber } other := by
  rcases known with active | gone
  · left
    simp only [lookup_insert_ite]
    split
    · simp
    · exact active
  · exact .inr gone

theorem Consistent.did (consistent : Consistent s) (did : Did c s s' r) :
    Consistent s' ∧ ∀ addr, Known s addr → Known s' addr := by
  cases did with
  | extended pays found expirationTimestamp =>
    obtain ⟨state, stored, counted⟩ := consistent
    exact ⟨⟨state, stored, counted.write _ found⟩, fun _ known => known.write _ _⟩
  | subscribed pays free expirationTimestamp configured stored =>
    refine ⟨⟨_, rfl, ?_⟩, ?_⟩
    · obtain ⟨count, disjoint⟩ := (consistent.counted stored).join
        { expirationTimestamp, lastEmissionClaimTimestamp := c.deps.block.time } free
      exact ⟨count, disjoint⟩
    · intro other known
      show Known _ other
      simp only [Known, lookup_insert_ite, lookup_erase_ite] at known ⊢
      split
      · exact .inl (by simp)
      · exact known
  | unsubscribed msg valid configured stored before accumulated loop =>
    obtain ⟨count, disjoint⟩ := consistent.counted stored
    obtain ⟨counted, kept⟩ := Counted.loop ⟨count, disjoint⟩ loop
    exact ⟨⟨_, rfl, counted.count, counted.disjoint⟩, kept⟩
  | claimed msg valid configured stored found =>
    exact ⟨⟨_, stored, (consistent.counted stored).write _ found⟩, fun _ known => known.write _ _⟩
  | configured msg configured =>
    obtain ⟨state, stored, count, disjoint⟩ := consistent
    exact ⟨⟨state, stored, count, disjoint⟩, fun _ known => known⟩
  | refreshed msg before refresh =>
    obtain ⟨state, stored, count, disjoint⟩ := consistent
    exact ⟨⟨state, stored, count, disjoint⟩, fun _ known => known⟩

/-- Who pays is a subscriber then. -/
theorem known_of_payer {addr : Addr} (did : Did c s s' r) (pays : payer c = some addr) :
    Known s' addr := by
  cases did with
  | extended paid =>
    obtain rfl := Option.some.inj (pays.symm.trans paid)
    exact .inl (by simp)
  | subscribed paid =>
    obtain rfl := Option.some.inj (pays.symm.trans paid)
    exact .inl (by simp)
  | unsubscribed msg => simp [payer, msg] at pays
  | claimed msg => simp [payer, msg] at pays
  | configured msg => simp [payer, msg] at pays
  | refreshed msg => simp [payer, msg] at pays

theorem consistent_instantiate {msg : SubscriptionInstantiateMsg}
    (h : instantiateHandler deps msg .empty = .ok s) : Consistent s := by
  simp only [instantiateHandler, bind_eq_ok, pure_eq_ok] at h
  obtain ⟨payment, -, emissions, -, hook, -, _, -, rfl⟩ := h
  refine ⟨_, rfl, rfl, ?_⟩
  intro addr gone
  rfl

theorem consistent_run {msg : SubscriptionInstantiateMsg} {start : SubscriptionStore}
    (calls : List Call) (created : instantiateHandler deps msg .empty = .ok start) :
    Consistent (run start calls) :=
  Machine.run_invariant calls (fun _ _ _ _ consistent ok => (consistent.did (exec_did ok)).1)
    (consistent_instantiate created)

/-! ## Panics -/

def DividesByZero (e : SubscriptionFailure) : Prop := e = .panicked "attempt to divide by zero"

def Underflows (e : SubscriptionFailure) : Prop := e = .panicked "attempt to subtract with overflow"

/-- The panics that a wrong counter would lead to. -/
def Miscounts (e : SubscriptionFailure) : Prop := DividesByZero e ∨ Underflows e

theorem not_miscounts_error (e : SubscriptionError) : ¬ Miscounts (.error e) := by
  rintro (h | h) <;> cases h

theorem not_miscounts_panicked {text : String} (division : text ≠ "attempt to divide by zero")
    (subtraction : text ≠ "attempt to subtract with overflow") : ¬ Miscounts (.panicked text) := by
  rintro (h | h)
  · exact division (VoteFailure.panicked.inj h)
  · exact subtraction (VoteFailure.panicked.inj h)

theorem avoids_load {α : Type} (o : Option α) (e : SubscriptionError) :
    Avoids Miscounts (okOr o (VoteFailure.error e)) :=
  avoids_okOr (not_miscounts_error e)

theorem avoids_check (p : Prop) [Decidable p] (e : SubscriptionError) :
    Avoids Miscounts (ensure p (VoteFailure.error e)) :=
  avoids_ensure (not_miscounts_error e)

theorem avoids_foreign {α : Type} (x : Except String α) (wrap : String → SubscriptionError) :
    Avoids Miscounts (x.mapError fun text => VoteFailure.error (wrap text)) :=
  avoids_mapError fun text => not_miscounts_error (wrap text)

theorem avoids_validate (human : String) : Avoids Miscounts (deps.validate human) :=
  avoids_foreign _ _

theorem avoids_validateAll (humans : List String) : Avoids Miscounts (deps.validateAll humans) := by
  induction humans with
  | nil => exact avoids_ok _
  | cons human humans ih =>
    exact (avoids_validate human).bind fun addr _ => ih.bind fun addrs _ => avoids_pure _

theorem avoids_plusSeconds (t : Timestamp) (secs : Nat) :
    Avoids Miscounts (plusSeconds t secs : Except SubscriptionFailure Timestamp) := by
  unfold plusSeconds mulChecked addChecked
  refine Avoids.bind ?_ ?_
  · split
    · exact avoids_ok _
    · exact avoids_error (not_miscounts_panicked (by decide) (by decide))
  · intro nanos _
    split
    · exact avoids_ok _
    · exact avoids_error (not_miscounts_panicked (by decide) (by decide))

theorem avoids_mulFloorChecked (n : Nat) (d : Decimal) :
    Avoids Miscounts (mulFloorChecked n d : Except SubscriptionFailure Nat) := by
  unfold mulFloorChecked
  split
  · exact avoids_ok _
  · exact avoids_error (not_miscounts_panicked (by decide) (by decide))

theorem avoids_accumulateIncome (activeSubs : Nat) (cost : Decimal) :
    Avoids Miscounts (accumulateIncome deps activeSubs cost s) := by
  unfold accumulateIncome
  refine Avoids.bind ?_ fun active _ => Avoids.bind ?_ fun value _ =>
    (avoids_load _ _).bind fun twa _ => Avoids.bind ?_ fun twa' _ => avoids_pure _
  · unfold Objects.Decimal.fromWhole
    split
    · exact avoids_ok _
    · exact avoids_error (not_miscounts_error _)
  · unfold Objects.Decimal.mulChecked
    split
    · exact avoids_ok _
    · exact avoids_error (not_miscounts_panicked (by decide) (by decide))
  · unfold TimeWeightedAverageData.accumulate
    split
    · exact avoids_ok _
    · refine Avoids.bind ?_ fun added _ => avoids_pure _
      unfold TimeWeightedAverageData.valueOver
      split
      · exact avoids_ok _
      · exact avoids_mulFloorChecked _ _

/-- The emissions are divided by a number that is not zero. -/
theorem avoids_claimEmissionsMsg {subscriber : Subscriber} {addr : Addr} {activeSubs : Nat}
    (positive : activeSubs ≠ 0) :
    Avoids Miscounts (claimEmissionsMsg deps subscriber addr emissions activeSubs) := by
  unfold claimEmissionsMsg
  refine (avoids_check _ _).bind fun _ _ => Avoids.bind ?_ ?_
  · cases emissions with
    | None => exact avoids_error (not_miscounts_error _)
    | SecondShared amount token =>
      refine (avoids_mulFloorChecked _ _).bind fun sum _ => Avoids.bind ?_ fun _ _ => avoids_pure _
      unfold divChecked
      rw [if_neg positive]
      exact avoids_ok _
    | SecondPerUser amount token =>
      exact (avoids_mulFloorChecked _ _).bind fun _ _ => avoids_pure _
  · intro asset _
    split
    · exact avoids_pure _
    · exact avoids_pure _

theorem avoids_claimOrNone {subscriber : Subscriber}
    {result : Except SubscriptionFailure (Subscriber × Option TransferMsg)}
    (safe : Avoids Miscounts result) : Avoids Miscounts (claimOrNone subscriber result) := by
  unfold claimOrNone
  split
  · exact avoids_ok _
  · exact avoids_ok _
  · exact safe

/-- In the loop the counter is not zero while there is somebody to unsubscribe. -/
theorem avoids_unsubscribeOne {u : Unsubs} {addr : Addr} (counted : Counted u.activeSubs u.store) :
    Avoids Miscounts (unsubscribeOne deps emissions u addr) := by
  unfold unsubscribeOne
  refine (avoids_load _ _).bind ?_
  intro subscriber found
  have positive := counted.positive (okOr_eq_ok.mp found)
  split
  · refine (avoids_claimOrNone (avoids_claimEmissionsMsg positive)).bind fun claimed _ =>
      Avoids.bind ?_ fun _ _ => avoids_pure _
    have enough : 1 ≤ u.activeSubs := Nat.pos_of_ne_zero positive
    unfold subChecked
    rw [if_pos enough]
    exact avoids_ok _
  · exact avoids_pure _

theorem avoids_unsubscribe {humans : List String} (consistent : Consistent s) :
    Avoids Miscounts (unsubscribe deps humans s) := by
  unfold unsubscribe
  refine (avoids_check _ _).bind fun _ _ => (avoids_validateAll humans).bind fun addrs _ =>
    (avoids_load _ _).bind fun state stored => (avoids_load _ _).bind fun config _ =>
    (avoids_accumulateIncome _ _).bind fun m accumulated => Avoids.bind ?_ fun u _ =>
    (avoids_check _ _).bind fun _ _ => avoids_pure _
  obtain ⟨twa, twa', -, -, rfl⟩ := accumulateIncome_ok accumulated
  obtain ⟨count, disjoint⟩ := consistent.counted (okOr_eq_ok.mp stored)
  refine avoids_foldlM (I := fun u : Unsubs => Counted u.activeSubs u.store) ?_ ⟨count, disjoint⟩
  intro u addr _ counted
  exact ⟨avoids_unsubscribeOne counted, fun u' ok => (counted.unsubscribeOne ok).1⟩

theorem avoids_claimSubscriberEmissions {human : String} (consistent : Consistent s) :
    Avoids Miscounts (claimSubscriberEmissions deps human s) := by
  unfold claimSubscriberEmissions
  refine (avoids_validate human).bind fun addr _ => (avoids_load _ _).bind fun state stored =>
    (avoids_load _ _).bind fun config _ => (avoids_load _ _).bind fun subscriber found => ?_
  have positive := (consistent.counted (okOr_eq_ok.mp stored)).positive (okOr_eq_ok.mp found)
  refine (avoids_claimEmissionsMsg positive).bind ?_
  rintro ⟨subscriber', maybeAction⟩ _
  cases maybeAction with
  | none => exact avoids_pure _
  | some action =>
    exact ((avoids_foreign _ _).bind fun _ _ => avoids_pure _).bind fun _ _ => avoids_pure _

theorem avoids_tryPay {asset : Asset} {addr : Addr} : Avoids Miscounts (tryPay deps asset addr s) := by
  unfold tryPay
  refine (avoids_load _ _).bind fun config _ => (avoids_load _ _).bind fun twa _ =>
    (avoids_foreign _ _).bind fun account _ => (avoids_check _ _).bind fun _ _ =>
    Avoids.bind ?_ fun required _ => Avoids.bind ?_ fun paidFor _ =>
    Avoids.bind ?_ fun m _ => avoids_pure _
  · unfold checkedMulCeil
    split
    · exact avoids_ok _
    · exact avoids_error (not_miscounts_error _)
  · unfold checkedDivFloor
    split
    · exact avoids_error (not_miscounts_error _)
    · split
      · exact avoids_ok _
      · exact avoids_error (not_miscounts_error _)
  · unfold subscribe
    split
    · exact ((avoids_plusSeconds _ _).bind fun _ _ => avoids_pure _).bind fun _ _ => avoids_pure _
    · refine (avoids_check _ _).bind fun _ _ =>
        ((avoids_plusSeconds _ _).bind fun _ _ => avoids_pure _).bind fun subscriber _ =>
        (avoids_load _ _).bind fun state _ => (avoids_accumulateIncome _ _).bind fun m _ =>
        Avoids.bind ?_ fun _ _ => avoids_pure _
      unfold addChecked
      split
      · exact avoids_ok _
      · exact avoids_error (not_miscounts_panicked (by decide) (by decide))

theorem avoids_updated {α β : Type} {old : β} {check : α → Except SubscriptionFailure β}
    {new : Option α} (safe : ∀ a, Avoids Miscounts (check a)) :
    Avoids Miscounts (updated old check new) := by
  cases new with
  | none => exact avoids_ok _
  | some a => exact safe a

theorem avoids_checkAsset (wrap : String → SubscriptionError) (asset : AssetInfoUnchecked) :
    Avoids Miscounts (checkAsset deps wrap asset) :=
  avoids_foreign _ _

theorem avoids_updateSubscriptionConfig {info : MessageInfo} {payment : Option AssetInfoUnchecked}
    {cost : Option Decimal} {emissions : Option (EmissionType AssetInfoUnchecked)}
    {hook : Option (Clearable String)} :
    Avoids Miscounts (updateSubscriptionConfig deps info payment cost emissions hook s) := by
  unfold updateSubscriptionConfig
  refine (avoids_foreign _ _).bind fun _ _ => (avoids_load _ _).bind fun config _ =>
    (avoids_updated (avoids_checkAsset _)).bind fun _ _ => Avoids.bind ?_ fun _ _ =>
    Avoids.bind ?_ fun _ _ => avoids_pure _
  · apply avoids_updated
    intro emissions
    cases emissions with
    | None => exact avoids_ok _
    | SecondShared amount token => exact (avoids_checkAsset _ _).bind fun _ _ => avoids_pure _
    | SecondPerUser amount token => exact (avoids_checkAsset _ _).bind fun _ _ => avoids_pure _
  · apply avoids_updated
    intro hook
    cases hook with
    | Clear => exact avoids_ok _
    | Set human => exact (avoids_validate _).bind fun _ _ => avoids_pure _

/-- The average is the only place where a time is subtracted that may be too large. -/
theorem avoids_refreshTwa : Avoids DividesByZero (refreshTwa deps s) := by
  unfold refreshTwa
  refine Avoids.bind (avoids_okOr (by simp [DividesByZero])) fun twa _ =>
    Avoids.bind ?_ fun _ _ => avoids_pure _
  unfold TimeWeightedAverageData.tryUpdateValue subChecked
  refine Avoids.bind ?_ ?_
  · split
    · exact avoids_ok _
    · exact avoids_error (by simp [DividesByZero])
  · intro elapsed _
    split
    · exact avoids_pure _
    · refine Avoids.bind ?_ fun _ _ => avoids_pure _
      unfold Objects.Decimal.fromRatio
      split
      · exact avoids_error (by simp [DividesByZero])
      · split
        · exact avoids_ok _
        · exact avoids_error (by simp [DividesByZero])

/-- With a right counter only a refresh of the average may run into one of the two panics. -/
theorem avoids_exec (consistent : Consistent s) (other : c.msg ≠ .Module .RefreshTWA) :
    Avoids Miscounts (exec c s) := by
  unfold exec
  cases msg : c.msg with
  | Module inner =>
    cases inner with
    | Pay subscriberAddr =>
      refine (avoids_updated avoids_validate).bind fun addr _ => ?_
      split
      · exact avoids_tryPay
      · exact avoids_error (not_miscounts_error _)
    | Unsubscribe humans => exact avoids_unsubscribe consistent
    | ClaimEmissions human => exact avoids_claimSubscriberEmissions consistent
    | UpdateSubscriptionConfig payment cost emissions hook => exact avoids_updateSubscriptionConfig
    | RefreshTWA => exact absurd msg other
  | Receive cw20Msg =>
    refine (avoids_foreign _ _).bind ?_
    rintro ⟨subscriberAddr⟩ _
    exact (avoids_validate _).bind fun addr _ => avoids_tryPay

theorem avoids_division (consistent : Consistent s) : Avoids DividesByZero (exec c s) := by
  by_cases refresh : c.msg = .Module .RefreshTWA
  · unfold exec
    rw [refresh]
    exact avoids_refreshTwa
  · intro e failed division
    exact avoids_exec consistent refresh e failed (.inl division)

/-! ## Every run -/

/-- What the bookkeeping of a run comes to. -/
structure Bookkept (start : SubscriptionStore) (calls : List Call) : Prop where
  counted : (run start calls).state = some { activeSubs := size (run start calls).subscribers }
  disjoint : ∀ addr ∈ (run start calls).subscribers, addr ∉ (run start calls).expiredSubscribers
  /-- Everybody who has ever subscribed is on exactly one list. -/
  somewhere : ∀ before after, calls = before ++ after → ∀ addr,
    addr ∈ (run start before).subscribers ∨
      (∃ event ∈ history start before, payer event.2.1 = some addr) →
    Xor (addr ∈ (run start calls).subscribers) (addr ∈ (run start calls).expiredSubscribers)
  neverBelowZero : ∀ c humans, c.msg = .Module (.Unsubscribe humans) →
    exec c (run start calls) ≠ .error (.panicked "attempt to subtract with overflow")
  neverByZero : ∀ c,
    exec c (run start calls) ≠ .error (.panicked "attempt to divide by zero")

theorem mem_iff_lookup_ne {ν : Type} {m : Map Addr ν} {addr : Addr} :
    addr ∈ m ↔ m.lookup addr ≠ none := by
  rw [mem_iff_lookup, Option.ne_none_iff_exists']

theorem known_run {addr : Addr} (calls : List Call) (consistent : Consistent s)
    (known : Known s addr) : Known (run s calls) addr := by
  have both : Consistent (run s calls) ∧ Known (run s calls) addr := by
    refine Machine.run_invariant (P := fun m => Consistent m ∧ Known m addr) calls ?_
      ⟨consistent, known⟩
    intro m c m' r ⟨consistent, known⟩ ok
    obtain ⟨consistent', kept⟩ := consistent.did (exec_did ok)
    exact ⟨consistent', kept addr known⟩
  exact both.2

/-- Who has paid stays known. -/
theorem known_of_paid {addr : Addr} {calls : List Call} (consistent : Consistent s)
    (paid : ∃ event ∈ history s calls, payer event.2.1 = some addr) :
    Known (run s calls) addr := by
  have both : Consistent (run s calls) ∧ ∀ event ∈ history s calls,
      payer event.2.1 = some addr → Known (run s calls) addr := by
    refine Machine.run_history (P := fun m log => Consistent m ∧ ∀ event ∈ log,
      payer event.2.1 = some addr → Known m addr) calls ?_ ⟨consistent, by simp⟩
    intro m log c m' r ⟨consistent, known⟩ ok
    obtain ⟨consistent', kept⟩ := consistent.did (exec_did ok)
    refine ⟨consistent', ?_⟩
    intro event happened pays
    rcases List.mem_append.mp happened with earlier | now
    · exact kept addr (known event earlier pays)
    · rw [List.mem_singleton.mp now] at pays
      exact known_of_payer (exec_did ok) pays
  obtain ⟨event, happened, pays⟩ := paid
  exact both.2 event happened pays

/-- The bookkeeping is right in every run from instantiation. -/
theorem bookkept {msg : SubscriptionInstantiateMsg} {start : SubscriptionStore} {calls : List Call}
    (created : instantiateHandler deps msg .empty = .ok start) : Bookkept start calls := by
  have consistent := consistent_run calls created
  obtain ⟨state, stored, counted⟩ := consistent
  have apart : ∀ addr ∈ (run start calls).subscribers,
      addr ∉ (run start calls).expiredSubscribers := by
    intro addr active gone
    exact mem_iff_lookup_ne.mp active (counted.disjoint addr (mem_iff_lookup_ne.mp gone))
  constructor
  · rw [stored, ← counted.count]
  · exact apart
  · intro before after split addr subscribed
    have known : Known (run start calls) addr := by
      rw [split, run, Machine.run_append]
      apply known_run after (consistent_run before created)
      rcases subscribed with active | paid
      · exact .inl (mem_iff_lookup_ne.mp active)
      · exact known_of_paid (consistent_instantiate created) paid
    rcases known with active | gone
    · have active := mem_iff_lookup_ne.mpr active
      exact Or.inl ⟨active, apart addr active⟩
    · have gone := mem_iff_lookup_ne.mpr gone
      exact Or.inr ⟨gone, fun active => apart addr active gone⟩
  · intro c humans unsubscribes failed
    refine avoids_exec (consistent_run calls created) ?_ _ failed (.inr rfl)
    rw [unsubscribes]
    simp
  · intro c failed
    exact avoids_division (consistent_run calls created) _ failed rfl

section Sample

/-- The chain at a time in seconds. -/
def depsAt (secs : UInt32) : SubscriptionDeps where
  block := ⟨secs.toNat, secs.toNat * 1000000000⟩
  time_lt := by
    show secs.toNat * 1000000000 < 2 ^ 64
    have := secs.toNat_lt
    omega
  addrValidate human := .ok ⟨human⟩
  assertAdmin sender := if sender = ⟨"admin"⟩ then .ok () else .error "Caller is not admin"
  account := .ok ⟨"account"⟩

/-- One coin per second, and 60 tokens per second for the subscribers. -/
def offer : SubscriptionInstantiateMsg where
  paymentAsset := .Native "ucoin"
  subscriptionCostPerSecond := Decimal.one
  subscriptionPerSecondEmissions := .SecondShared ⟨60 * 10 ^ 18⟩ (.Native "utoken")
  incomeAveragingPeriod := 10
  unsubscribeHookAddr := none

def newApp : SubscriptionStore where
  config := some {
    paymentAsset := .Native "ucoin"
    subscriptionCostPerSecond := Decimal.one
    subscriptionPerSecondEmissions := .SecondShared ⟨60 * 10 ^ 18⟩ (.Native "utoken")
    unsubscribeHookAddr := none }
  state := some { activeSubs := 0 }
  subscribers := ∅
  expiredSubscribers := ∅
  incomeTwa := some (.instantiate ⟨0, 0⟩ none 10)

def pay (secs : UInt32) (subscriber : String) (amount : Nat) : Call where
  deps := depsAt secs
  info := { sender := ⟨subscriber⟩, funds := [⟨"ucoin", amount⟩] }
  msg := .Module (.Pay none)

def unsubscribeAt (secs : UInt32) (subscribers : List String) : Call where
  deps := depsAt secs
  info := { sender := ⟨"anybody"⟩, funds := [] }
  msg := .Module (.Unsubscribe subscribers)

/-- Two subscribers come, and one goes and comes back. -/
def comeAndGo : List Call :=
  [pay 0 "alice" 10, pay 0 "bob" 20, unsubscribeAt 15 ["alice", "bob"], pay 20 "alice" 10]

end Sample

theorem bookkept_comeAndGo :
    instantiateHandler (depsAt 0) offer .empty = .ok newApp ∧ Bookkept newApp comeAndGo := by
  have created : instantiateHandler (depsAt 0) offer .empty = .ok newApp := rfl
  exact ⟨created, bookkept created⟩

/-- A duplicate in the list is refused. -/
example : exec (unsubscribeAt 15 ["alice", "alice"]) (run newApp [pay 0 "alice" 10]) =
    .error (.error (.Std (.notFound "Subscriber"))) := by
  rfl

end AbstractFramework.Subscription
