import AbstractFramework.Lib.Timeline
import AbstractFramework.Subscription.Commands

/-! # What the calls of the subscription app do

One inversion of `exec`: what a call that succeeds has found and written.  The loop over the
unsubscribed addresses is inverted one iteration at a time.
-/

namespace AbstractFramework.Subscription

open AbstractFramework Fallible Storage Voting Sdk Objects

variable {s s' m : SubscriptionStore} {c : Call} {r : Response} {deps : SubscriptionDeps}
variable {config : SubscriptionConfig} {emissions : EmissionType AssetInfo}

/-! ## Income -/

/-- The average after an accumulation of an income per second. -/
def Accumulated (block : BlockInfo) (income : Nat) (twa twa' : TimeWeightedAverageData) : Prop :=
  (block.time ≤ twa.lastBlockTime ∧ twa' = twa) ∨
    (twa.lastBlockTime < block.time ∧ income < 2 ^ 128 ∧
      twa' = { twa with
        lastBlockTime := block.time
        cumulativeValue := wrappingAdd twa.cumulativeValue
          (mulFloor (seconds block.time - seconds twa.lastBlockTime) ⟨income⟩) })

theorem accumulateIncome_ok {activeSubs : Nat} {cost : Decimal}
    (h : accumulateIncome deps activeSubs cost s = .ok m) :
    ∃ twa twa', s.incomeTwa = some twa ∧
      Accumulated deps.block (activeSubs * cost.atomics) twa twa' ∧
      m = { s with incomeTwa := some twa' } := by
  simp only [accumulateIncome, loadTwa, bind_eq_ok, pure_eq_ok, okOr_eq_ok] at h
  obtain ⟨active, whole, value, product, twa, found, ⟨twa', sum⟩, accumulated, rfl⟩ := h
  refine ⟨twa, twa', found, ?_, rfl⟩
  obtain ⟨-, rfl⟩ := Objects.Decimal.fromWhole_eq_ok.mp whole
  obtain ⟨fits, rfl⟩ := Objects.Decimal.mulChecked_eq_ok.mp product
  have exact_ : activeSubs * 10 ^ 18 * cost.atomics / 10 ^ 18 = activeSubs * cost.atomics := by
    rw [Nat.mul_right_comm, Nat.mul_div_cancel _ (by decide)]
  simp only [exact_] at accumulated fits
  rcases TimeWeightedAverageData.accumulate_eq_ok accumulated with early | ⟨late, same⟩
  · exact .inl early
  · exact .inr ⟨late, fits, same⟩

/-! ## Claims -/

/-- A claim of a subscriber: nothing is due and nothing changes, or the last claim is set and
    the emissions since the one before are sent. -/
inductive Claim (block : BlockInfo) (emissions : EmissionType AssetInfo) (activeSubs : Nat)
    (subscriber : Subscriber) (addr : Addr) : Subscriber → Option TransferMsg → Prop where
  | nothing (idle : block.time ≤ subscriber.lastEmissionClaimTimestamp ∨ emissions = .None ∨
        ∃ asset, emissions.asset
          (seconds block.time - seconds subscriber.lastEmissionClaimTimestamp) activeSubs = .ok asset ∧
          asset.amount = 0) :
      Claim block emissions activeSubs subscriber addr subscriber none
  | paid {asset : Asset} (late : subscriber.lastEmissionClaimTimestamp < block.time)
      (due : emissions.asset
        (seconds block.time - seconds subscriber.lastEmissionClaimTimestamp) activeSubs = .ok asset)
      (positive : asset.amount ≠ 0) :
      Claim block emissions activeSubs subscriber addr
        { subscriber with lastEmissionClaimTimestamp := block.time }
        (some { asset, recipient := addr })

/-- Without the whole seconds of the last claim, the time has the whole seconds since then. -/
theorem seconds_minus (t last : Timestamp) :
    seconds (t - seconds last * 1000000000) = seconds t - seconds last := by
  unfold seconds
  omega

theorem claimEmissionsMsg_ok {subscriber subscriber' : Subscriber} {addr : Addr} {activeSubs : Nat}
    {claim : Option TransferMsg}
    (h : claimEmissionsMsg deps subscriber addr emissions activeSubs = .ok (subscriber', claim)) :
    Claim deps.block emissions activeSubs subscriber addr subscriber' claim := by
  simp only [claimEmissionsMsg, bind_eq_ok, ensure_eq_ok, seconds_minus] at h
  obtain ⟨_, late, asset, due, h⟩ := h
  split at h
  · rename_i positive
    obtain ⟨rfl, rfl⟩ := Prod.mk.inj (pure_eq_ok.mp h)
    exact .paid late due positive
  · rename_i zero
    obtain ⟨rfl, rfl⟩ := Prod.mk.inj (pure_eq_ok.mp h)
    exact .nothing (.inr (.inr ⟨asset, due, Decidable.not_not.mp zero⟩))

/-- The emissions fail with an error only where there are none. -/
theorem asset_error {e : SubscriptionError} {secondsPassed activeSubs : Nat}
    (h : emissions.asset secondsPassed activeSubs = .error (.error e)) : emissions = .None := by
  cases emissions with
  | None => rfl
  | SecondShared amount token =>
    simp only [EmissionType.asset, mulFloorChecked, divChecked] at h
    split at h
    · split at h <;> cases h
    · cases h
  | SecondPerUser amount token =>
    simp only [EmissionType.asset, mulFloorChecked] at h
    split at h <;> cases h

/-- An error that a claim returns says that nothing is due. -/
theorem claimEmissionsMsg_error {subscriber : Subscriber} {addr : Addr} {activeSubs : Nat}
    {e : SubscriptionError}
    (h : claimEmissionsMsg deps subscriber addr emissions activeSubs = .error (.error e)) :
    deps.block.time ≤ subscriber.lastEmissionClaimTimestamp ∨ emissions = .None := by
  by_cases late : subscriber.lastEmissionClaimTimestamp < deps.block.time
  · refine .inr ?_
    simp only [claimEmissionsMsg, ensure, if_pos late] at h
    cases due : emissions.asset
        (seconds (deps.block.time -
          seconds subscriber.lastEmissionClaimTimestamp * 1000000000)) activeSubs with
    | error failure =>
      simp only [bind, Except.bind, due] at h
      obtain rfl := Except.error.inj h
      exact asset_error due
    | ok asset =>
      simp only [bind, Except.bind, due] at h
      split at h <;> cases h
  · exact .inl (Nat.le_of_not_lt late)

/-- On the way out the claim is the same but for its errors. -/
theorem claimOrNone_ok {subscriber subscriber' : Subscriber} {addr : Addr} {activeSubs : Nat}
    {claim : Option TransferMsg}
    (h : claimOrNone subscriber (claimEmissionsMsg deps subscriber addr emissions activeSubs) =
      .ok (subscriber', claim)) :
    Claim deps.block emissions activeSubs subscriber addr subscriber' claim := by
  unfold claimOrNone at h
  split at h
  · rename_i failed
    obtain ⟨rfl, rfl⟩ := Prod.mk.inj (Except.ok.inj h)
    exact .nothing ((claimEmissionsMsg_error failed).imp_right .inl)
  · rename_i failed
    obtain ⟨rfl, rfl⟩ := Prod.mk.inj (Except.ok.inj h)
    exact .nothing ((claimEmissionsMsg_error failed).imp_right .inl)
  · exact claimEmissionsMsg_ok h

/-! ## Unsubscribing -/

/-- One address of the list: it is not expired and stays, or it is moved. -/
inductive Unsubscribed (deps : SubscriptionDeps) (emissions : EmissionType AssetInfo) (u : Unsubs)
    (addr : Addr) : Unsubs → Prop where
  | stays {subscriber : Subscriber} (found : u.store.subscribers.lookup addr = some subscriber)
      (running : ¬ subscriber.isExpired deps.block) : Unsubscribed deps emissions u addr u
  | leaves {subscriber : Subscriber} (found : u.store.subscribers.lookup addr = some subscriber)
      (expired : subscriber.isExpired deps.block) (positive : 1 ≤ u.activeSubs)
      {subscriber' : Subscriber} {claim : Option TransferMsg}
      (claimed : Claim deps.block emissions u.activeSubs subscriber addr subscriber' claim) :
      Unsubscribed deps emissions u addr {
        store := { u.store with
          subscribers := u.store.subscribers.erase addr
          expiredSubscribers := u.store.expiredSubscribers.insert addr subscriber' }
        activeSubs := u.activeSubs - 1
        canceledSubs := u.canceledSubs ++ [addr]
        claimActions := u.claimActions ++ claim.toList }

theorem unsubscribeOne_ok {u u' : Unsubs} {addr : Addr}
    (h : unsubscribeOne deps emissions u addr = .ok u') : Unsubscribed deps emissions u addr u' := by
  simp only [unsubscribeOne, loadSubscriber, bind_eq_ok, okOr_eq_ok] at h
  obtain ⟨subscriber, found, h⟩ := h
  split at h
  · rename_i expired
    simp only [bind_eq_ok, pure_eq_ok, subChecked_eq_ok] at h
    obtain ⟨⟨subscriber', claim⟩, claimed, _, ⟨positive, rfl⟩, rfl⟩ := h
    exact .leaves found expired positive (claimOrNone_ok claimed)
  · rename_i running
    obtain rfl := pure_eq_ok.mp h
    exact .stays found running

/-! ## Calls -/

/-- The address that a call pays for. -/
def payer (c : Call) : Option Addr :=
  match c.msg with
  | .Module (.Pay subscriberAddr) => (updated c.info.sender c.deps.validate subscriberAddr).toOption
  | .Receive cw20Msg =>
    match cw20Msg.msg with
    | .ok (.Pay subscriberAddr) => (c.deps.validate (subscriberAddr.getD cw20Msg.sender)).toOption
    | .error _ => none
  | _ => none

/-- The transfers from the account that a response asks for. -/
def AppMsg.transfers : AppMsg → List TransferMsg
  | .Execute _ msgs => msgs
  | _ => []

/-- What a call that succeeds has found and written. -/
inductive Did (c : Call) (s : SubscriptionStore) : SubscriptionStore → Response → Prop where
  | extended {addr : Addr} (pays : payer c = some addr) {active : Subscriber}
      (found : s.subscribers.lookup addr = some active) (expirationTimestamp : Timestamp)
      {r : Response} (silent : ∀ message ∈ r.messages, message.transfers = []) :
      Did c s { s with
        subscribers := s.subscribers.insert addr { active with expirationTimestamp } } r
  | subscribed {addr : Addr} (pays : payer c = some addr)
      (free : s.subscribers.lookup addr = none) (expirationTimestamp : Timestamp)
      {config : SubscriptionConfig} (configured : s.config = some config)
      {state : SubscriptionState} (counted : s.state = some state)
      {twa twa' : TimeWeightedAverageData} (before : s.incomeTwa = some twa)
      (accumulated : Accumulated c.deps.block
        (state.activeSubs * config.subscriptionCostPerSecond.atomics) twa twa')
      {r : Response} (silent : ∀ message ∈ r.messages, message.transfers = []) :
      Did c s {
        config := s.config
        state := some { activeSubs := state.activeSubs + 1 }
        subscribers := s.subscribers.insert addr
          { expirationTimestamp, lastEmissionClaimTimestamp := c.deps.block.time }
        expiredSubscribers := s.expiredSubscribers.erase addr
        incomeTwa := some twa' } r
  | unsubscribed {humans : List String} (msg : c.msg = .Module (.Unsubscribe humans))
      {addrs : List Addr} (valid : c.deps.validateAll humans = .ok addrs)
      {config : SubscriptionConfig} (configured : s.config = some config)
      {state : SubscriptionState} (counted : s.state = some state)
      {twa twa' : TimeWeightedAverageData} (before : s.incomeTwa = some twa)
      (accumulated : Accumulated c.deps.block
        (state.activeSubs * config.subscriptionCostPerSecond.atomics) twa twa')
      {u : Unsubs} (loop : addrs.foldlM
        (unsubscribeOne c.deps config.subscriptionPerSecondEmissions)
        { store := { s with incomeTwa := some twa' }
          activeSubs := state.activeSubs
          canceledSubs := []
          claimActions := [] } = .ok u)
      {r : Response} (sends : r.messages.flatMap AppMsg.transfers = u.claimActions ∨
        r.messages.flatMap AppMsg.transfers = []) :
      Did c s { u.store with state := some { activeSubs := u.activeSubs } } r
  | claimed {human : String} (msg : c.msg = .Module (.ClaimEmissions human)) {addr : Addr}
      (valid : c.deps.validate human = .ok addr)
      {config : SubscriptionConfig} (configured : s.config = some config)
      {state : SubscriptionState} (counted : s.state = some state)
      {subscriber : Subscriber} (found : s.subscribers.lookup addr = some subscriber)
      {subscriber' : Subscriber} {claim : Option TransferMsg}
      (claim_ : Claim c.deps.block config.subscriptionPerSecondEmissions state.activeSubs subscriber
        addr subscriber' claim)
      {r : Response} (sends : r.messages.flatMap AppMsg.transfers = claim.toList) :
      Did c s { s with subscribers := s.subscribers.insert addr subscriber' } r
  | configured {payment : Option AssetInfoUnchecked} {cost : Option Decimal}
      {emissions : Option (EmissionType AssetInfoUnchecked)} {hook : Option (Clearable String)}
      (msg : c.msg = .Module (.UpdateSubscriptionConfig payment cost emissions hook))
      {config config' : SubscriptionConfig} (configured : s.config = some config)
      (costs : config'.subscriptionCostPerSecond = cost.getD config.subscriptionCostPerSecond)
      {r : Response} (silent : r.messages = []) : Did c s { s with config := some config' } r
  | refreshed (msg : c.msg = .Module .RefreshTWA) {twa twa' : TimeWeightedAverageData}
      (before : s.incomeTwa = some twa) {average : Option Decimal}
      (refresh : (twa.tryUpdateValue c.deps.block : Except SubscriptionFailure _) =
        .ok (twa', average))
      {r : Response} (silent : r.messages = []) : Did c s { s with incomeTwa := some twa' } r

theorem tryPay_did {asset : Asset} {addr : Addr} (pays : payer c = some addr)
    (h : tryPay c.deps asset addr s = .ok (s', r)) : Did c s s' r := by
  simp only [tryPay, loadConfig, loadTwa, bind_eq_ok, pure_eq_ok, okOr_eq_ok, mapError_eq_ok,
    ensure_eq_ok, Prod.mk.injEq] at h
  obtain ⟨config, configured, _, -, account, -, _, -, required, -, paidFor, -, m, subscribed, rfl,
    rfl⟩ := h
  have silent : ∀ message ∈ [AppMsg.Transfer { asset, recipient := account }],
      message.transfers = [] := by
    intro message listed
    rw [List.mem_singleton.mp listed]
    rfl
  unfold subscribe at subscribed
  split at subscribed
  · rename_i active found
    simp only [Subscriber.extend, bind_eq_ok, pure_eq_ok] at subscribed
    obtain ⟨_, ⟨expiration, -, rfl⟩, rfl⟩ := subscribed
    exact .extended pays found expiration silent
  · rename_i free
    simp only [Subscriber.new, loadState, bind_eq_ok, pure_eq_ok, okOr_eq_ok, ensure_eq_ok,
      addChecked_eq_ok] at subscribed
    obtain ⟨_, -, _, ⟨expiration, -, rfl⟩, state, counted, m, accumulated, _, ⟨-, rfl⟩, rfl⟩ :=
      subscribed
    obtain ⟨twa, twa', before, added, rfl⟩ := accumulateIncome_ok accumulated
    exact .subscribed pays free expiration configured counted before added silent

theorem unsubscribe_did {humans : List String} (msg : c.msg = .Module (.Unsubscribe humans))
    (h : unsubscribe c.deps humans s = .ok (s', r)) : Did c s s' r := by
  simp only [unsubscribe, loadConfig, loadState, bind_eq_ok, pure_eq_ok, okOr_eq_ok, ensure_eq_ok,
    Prod.mk.injEq] at h
  obtain ⟨_, -, addrs, valid, state, counted, config, configured, m, accumulated, u, loop, _, -,
    rfl, rfl⟩ := h
  obtain ⟨twa, twa', before, added, rfl⟩ := accumulateIncome_ok accumulated
  refine .unsubscribed msg valid configured counted before added loop ?_
  have hooks : (config.unsubscribeHookAddr.toList.map fun hook =>
      AppMsg.Unsubscribed hook u.canceledSubs).flatMap AppMsg.transfers = [] := by
    cases config.unsubscribeHookAddr <;> rfl
  simp only [List.flatMap_append, hooks, List.append_nil]
  cases executed : executeOnAccount c.deps u.claimActions with
  | error e => exact .inr rfl
  | ok message =>
    simp only [executeOnAccount, bind_eq_ok, pure_eq_ok] at executed
    obtain ⟨account, -, rfl⟩ := executed
    exact .inl (by simp [Except.toOption, AppMsg.transfers])

theorem claim_did {human : String} (msg : c.msg = .Module (.ClaimEmissions human))
    (h : claimSubscriberEmissions c.deps human s = .ok (s', r)) : Did c s s' r := by
  simp only [claimSubscriberEmissions, loadState, loadConfig, loadSubscriber, bind_eq_ok,
    okOr_eq_ok] at h
  obtain ⟨addr, valid, state, counted, config, configured, subscriber, found,
    ⟨subscriber', claim⟩, claimed, h⟩ := h
  have claim_ := claimEmissionsMsg_ok claimed
  cases claim with
  | none =>
    obtain ⟨rfl, rfl⟩ := Prod.mk.inj (pure_eq_ok.mp h)
    exact .claimed msg valid configured counted found claim_ rfl
  | some action =>
    simp only [executeOnAccount, bind_eq_ok, pure_eq_ok, Prod.mk.injEq] at h
    obtain ⟨_, ⟨account, -, rfl⟩, rfl, rfl⟩ := h
    exact .claimed msg valid configured counted found claim_ rfl

theorem exec_did (h : exec c s = .ok (s', r)) : Did c s s' r := by
  unfold exec at h
  cases msg : c.msg with
  | Module inner =>
    simp only [msg, executeHandler] at h
    cases inner with
    | Pay subscriberAddr =>
      simp only [bind_eq_ok] at h
      obtain ⟨addr, valid, h⟩ := h
      have pays : payer c = some addr := by simp [payer, msg, valid, Except.toOption]
      split at h
      · exact tryPay_did pays h
      · cases h
    | Unsubscribe humans => exact unsubscribe_did msg h
    | ClaimEmissions human => exact claim_did msg h
    | UpdateSubscriptionConfig payment cost emissions hook =>
      simp only [updateSubscriptionConfig, loadConfig, bind_eq_ok, pure_eq_ok, okOr_eq_ok,
        Prod.mk.injEq] at h
      obtain ⟨_, -, config, configured, _, -, _, -, _, -, rfl, rfl⟩ := h
      exact .configured msg configured rfl rfl
    | RefreshTWA =>
      simp only [refreshTwa, loadTwa, bind_eq_ok, pure_eq_ok, okOr_eq_ok, Prod.mk.injEq] at h
      obtain ⟨twa, before, ⟨twa', average⟩, refresh, rfl, rfl⟩ := h
      exact .refreshed msg before refresh rfl
  | Receive cw20Msg =>
    simp only [msg, receiveCw20, bind_eq_ok, mapError_eq_ok] at h
    obtain ⟨⟨subscriberAddr⟩, hook, addr, valid, h⟩ := h
    have pays : payer c = some addr := by simp [payer, msg, hook, valid, Except.toOption]
    exact tryPay_did pays h

def run (s : SubscriptionStore) (calls : List Call) : SubscriptionStore := Machine.run exec s calls

/-! ## Runs on the clock -/

/-- A call that succeeded, with the state before it and its response. -/
abbrev Event := SubscriptionStore × Call × Response

def history (s : SubscriptionStore) (calls : List Call) : List Event := Machine.history exec s calls

/-- The clock of the app counts whole seconds. -/
def clock (c : Call) : Nat := seconds c.deps.block.time

/-- The state in which a second ends. -/
def inForce (log : List Event) (s : SubscriptionStore) (second : Nat) : SubscriptionStore :=
  Timeline.inForce clock log s second

def activeSubs (s : SubscriptionStore) : Nat := (s.state.map SubscriptionState.activeSubs).getD 0

/-- Block times do not decrease. -/
def Ordered (calls : List Call) : Prop :=
  calls.Pairwise fun c c' => c.deps.block.time ≤ c'.deps.block.time

theorem inForce_snoc {log : List Event} (ordered : ∀ event ∈ log, clock event.2.1 ≤ clock c) (second : Nat) :
    inForce (log ++ [(s, c, r)]) s' second =
      if second < clock c then inForce log s second else s' :=
  Timeline.inForce_snoc second ordered

end AbstractFramework.Subscription
