import AbstractFramework.Objects.Decimals
import AbstractFramework.Subscription.Bookkeeping

/-! # What a payment buys

A payment that is accepted extends the subscription of an address.  `Honours` is what the
payer can expect: the time that the amount pays for, from now or from the end of the
subscription, all of the funds on the account, and that an ended subscription is renewed for
the fee that the app quotes.  `Plain` is when the app keeps to it.
-/

namespace AbstractFramework.Subscription

open AbstractFramework Fallible Storage Voting Sdk Objects

/-! ## The fee -/

/-- The `Fee` query. -/
def queryFee (s : SubscriptionStore) : Except SubscriptionFailure Asset := do
  let config ← loadConfig s
  let twaData ← loadTwa s
  let minimalCost ← mulFloorChecked twaData.averagingPeriod config.subscriptionCostPerSecond
  return { info := config.paymentAsset, amount := minimalCost }

/-! ## Payments -/

/-- The asset that a call pays with. -/
def paidWith (c : Call) : Option Asset :=
  match c.msg with
  | .Module (.Pay _) => c.info.funds.getLast?.map Asset.ofCoin
  | .Receive cw20Msg => some { info := .Cw20 c.info.sender, amount := cw20Msg.amount }
  | _ => none

/-- The coins of a call that it does not pay with. -/
def extraFunds (c : Call) : List Coin :=
  match c.msg with
  | .Module _ => c.info.funds.dropLast
  | .Receive _ => c.info.funds

/-- All that the app receives with a call. -/
def received (c : Call) : List Asset :=
  match c.msg with
  | .Module _ => c.info.funds.map Asset.ofCoin
  | .Receive cw20Msg =>
    { info := .Cw20 c.info.sender, amount := cw20Msg.amount } :: c.info.funds.map Asset.ofCoin

def AppMsg.forwarded (account : Addr) : AppMsg → List Asset
  | .Transfer msg => if msg.recipient = account then [msg.asset] else []
  | _ => []

def amountOf (info : AssetInfo) (assets : List Asset) : Nat :=
  ((assets.filter fun asset => asset.info = info).map Asset.amount).sum

/-- When the last subscription of an address ends or has ended. -/
def previousExpiration (s : SubscriptionStore) (addr : Addr) : Option Timestamp :=
  match s.subscribers.lookup addr with
  | some subscriber => some subscriber.expirationTimestamp
  | none => (s.expiredSubscribers.lookup addr).map Subscriber.expirationTimestamp

/-- The address has had a subscription, and it is over. -/
def Ended (s : SubscriptionStore) (block : BlockInfo) (addr : Addr) : Prop :=
  ∃ expiration, previousExpiration s addr = some expiration ∧ expiration ≤ block.time

/-- What a payer can expect of a payment. -/
structure Honours (c : Call) (config : SubscriptionConfig) (minimum : Nat) (account addr : Addr)
    (asset : Asset) (s s' : SubscriptionStore) (r : Response) : Prop where
  time : ∃ subscriber, s'.subscribers.lookup addr = some subscriber ∧
    subscriber.expirationTimestamp =
      max c.deps.block.time ((previousExpiration s addr).getD c.deps.block.time) +
        ⌊(asset.amount : ℚ) / config.subscriptionCostPerSecond.toRat⌋₊ * 1000000000
  funds : ∀ info, amountOf info (r.messages.flatMap (AppMsg.forwarded account)) =
    amountOf info (received c)
  renewal : Ended s c.deps.block addr → minimum ≤ asset.amount
  quote : queryFee s = .ok { info := config.paymentAsset, amount := minimum }

/-- The payment pays for less than 2^64 seconds; a subscription that is still listed is not
    over, or ends just now and is renewed for the minimum; no coin is attached but the one it is
    paid with; and the minimum is not rounded. -/
structure Plain (c : Call) (config : SubscriptionConfig) (twa : TimeWeightedAverageData)
    (minimum : Nat) (addr : Addr) (asset : Asset) (s : SubscriptionStore) : Prop where
  fits : asset.amount * 10 ^ 18 / config.subscriptionCostPerSecond.atomics < 2 ^ 64
  running : ∀ subscriber, s.subscribers.lookup addr = some subscriber →
    c.deps.block.time ≤ subscriber.expirationTimestamp ∧
      (subscriber.expirationTimestamp = c.deps.block.time → minimum ≤ asset.amount)
  alone : ∀ coin ∈ extraFunds c, coin.amount = 0
  whole : 10 ^ 18 ∣ twa.averagingPeriod * config.subscriptionCostPerSecond.atomics

variable {s s' start : SubscriptionStore} {c : Call} {r : Response} {config : SubscriptionConfig}
  {twa : TimeWeightedAverageData} {minimum : Nat} {account addr : Addr} {asset : Asset}

/-! ## Rounding -/

theorem plusSeconds_eq_ok {ε : Type} {t secs t' : Nat} :
    (plusSeconds t secs : Except (VoteFailure ε) Timestamp) = .ok t' ↔
      t + secs * 1000000000 < 2 ^ 64 ∧ t' = t + secs * 1000000000 := by
  simp only [plusSeconds, mulChecked, bind_eq_ok, addChecked_eq_ok, ite_ok_eq_ok]
  constructor
  · rintro ⟨_, ⟨-, rfl⟩, fits, rfl⟩
    exact ⟨fits, rfl⟩
  · rintro ⟨fits, rfl⟩
    exact ⟨_, ⟨Nat.lt_of_le_of_lt (Nat.le_add_left _ _) fits, rfl⟩, fits, rfl⟩

theorem checkedDivFloor_eq_ok {n q : Nat} {d : Decimal} :
    checkedDivFloor n d = .ok q ↔
      d.atomics ≠ 0 ∧ n * 10 ^ 18 / d.atomics < 2 ^ 128 ∧ q = n * 10 ^ 18 / d.atomics := by
  unfold checkedDivFloor fail
  rw [ite_error_eq_ok, ite_ok_eq_ok]

theorem checkedMulCeil_eq_ok {n m : Nat} {d : Decimal} :
    checkedMulCeil n d = .ok m ↔
      (n * d.atomics + (10 ^ 18 - 1)) / 10 ^ 18 < 2 ^ 128 ∧
        m = (n * d.atomics + (10 ^ 18 - 1)) / 10 ^ 18 := by
  unfold checkedMulCeil fail
  exact ite_ok_eq_ok

theorem floor_div_toRat (n : Nat) (d : Decimal) :
    ⌊(n : ℚ) / d.toRat⌋₊ = n * 10 ^ 18 / d.atomics := by
  rw [Decimal.toRat, FixedPoint.div_value_eq_floor]

/-- The quote is the minimum when nothing is rounded off. -/
theorem quote_iff (configured : s.config = some config) (averaged : s.incomeTwa = some twa)
    (least : checkedMulCeil twa.averagingPeriod config.subscriptionCostPerSecond = .ok minimum) :
    queryFee s = .ok { info := config.paymentAsset, amount := minimum } ↔
      10 ^ 18 ∣ twa.averagingPeriod * config.subscriptionCostPerSecond.atomics := by
  obtain ⟨fits, rfl⟩ := checkedMulCeil_eq_ok.mp least
  have below : mulFloor twa.averagingPeriod config.subscriptionCostPerSecond < 2 ^ 128 :=
    Nat.lt_of_le_of_lt (Nat.div_le_div_right (Nat.le_add_right _ _)) fits
  rw [← FixedPoint.ceil_eq_floor_iff (by decide)]
  simp only [queryFee, loadConfig, loadTwa, configured, averaged, okOr, ok_bind, mulFloorChecked,
    if_pos below, pure_eq_ok, Asset.mk.injEq, true_and]
  exact eq_comm

/-! ## Funds -/

theorem amountOf_cons (info : AssetInfo) (asset : Asset) (assets : List Asset) :
    amountOf info (asset :: assets) =
      (if asset.info = info then asset.amount else 0) + amountOf info assets := by
  unfold amountOf
  by_cases same : asset.info = info
  · simp [same]
  · simp [same]

theorem amountOf_append (info : AssetInfo) (assets others : List Asset) :
    amountOf info (assets ++ others) = amountOf info assets + amountOf info others := by
  simp [amountOf]

/-- Nothing is received of any kind when no coin has an amount. -/
theorem amountOf_eq_zero_iff {coins : List Coin} :
    (∀ info, amountOf info (coins.map Asset.ofCoin) = 0) ↔ ∀ coin ∈ coins, coin.amount = 0 := by
  induction coins with
  | nil => simp [amountOf]
  | cons coin coins ih =>
    simp only [List.map_cons, amountOf_cons, Nat.add_eq_zero_iff, List.forall_mem_cons, ← ih]
    constructor
    · intro zero
      have here := (zero (Asset.ofCoin coin).info).1
      rw [if_pos rfl] at here
      exact ⟨here, fun info => (zero info).2⟩
    · rintro ⟨here, rest⟩ info
      refine ⟨?_, rest info⟩
      split
      · exact here
      · rfl

/-- What is received is what is paid with and the other coins. -/
theorem amountOf_received (paid : paidWith c = some asset) (info : AssetInfo) :
    amountOf info (received c) =
      amountOf info [asset] + amountOf info ((extraFunds c).map Asset.ofCoin) := by
  unfold paidWith at paid
  unfold received extraFunds
  cases msg : c.msg with
  | Module inner =>
    simp only [msg] at paid ⊢
    split at paid
    · obtain ⟨coin, last, rfl⟩ := Option.map_eq_some_iff.mp paid
      have split_ := List.dropLast_append_getLast? coin last
      conv_lhs => rw [← split_]
      rw [List.map_append, amountOf_append, Nat.add_comm]
      rfl
    · rename_i receives
      cases receives
    · cases paid
  | Receive cw20Msg =>
    simp only [msg, Option.some.injEq] at paid ⊢
    rw [← paid, ← amountOf_append]
    rfl

/-! ## What a payment does -/

/-- The subscription after a payment: extended from its end, or begun now for the minimum at
    least. -/
inductive Bought (block : BlockInfo) (minimum seconds_ : Nat) (addr : Addr) (asset : Asset)
    (s : SubscriptionStore) : Timestamp → Prop where
  | extended {active : Subscriber} (found : s.subscribers.lookup addr = some active) :
      Bought block minimum seconds_ addr asset s
        (active.expirationTimestamp + seconds_ * 1000000000)
  | begun (free : s.subscribers.lookup addr = none) (enough : minimum ≤ asset.amount) :
      Bought block minimum seconds_ addr asset s (block.time + seconds_ * 1000000000)

theorem subscribe_bought {deps : SubscriptionDeps} {seconds_ : Nat}
    (h : subscribe deps config asset minimum seconds_ addr s = .ok s') :
    ∃ subscriber, s'.subscribers.lookup addr = some subscriber ∧
      Bought deps.block minimum seconds_ addr asset s subscriber.expirationTimestamp := by
  unfold subscribe at h
  split at h
  · rename_i active found
    simp only [Subscriber.extend, bind_eq_ok, pure_eq_ok, plusSeconds_eq_ok] at h
    obtain ⟨_, ⟨expiration, ⟨-, rfl⟩, rfl⟩, rfl⟩ := h
    exact ⟨_, AList.lookup_insert _, .extended found⟩
  · rename_i free
    simp only [Subscriber.new, loadState, bind_eq_ok, pure_eq_ok, okOr_eq_ok, ensure_eq_ok,
      plusSeconds_eq_ok] at h
    obtain ⟨_, enough, _, ⟨expiration, ⟨-, rfl⟩, rfl⟩, state, -, m, accumulated, _, -, rfl⟩ := h
    exact ⟨_, AList.lookup_insert _, .begun free enough⟩

/-- What a call that pays does. -/
theorem exec_pays (ok : exec c s = .ok (s', r)) (pays : payer c = some addr)
    (paid : paidWith c = some asset) : tryPay c.deps asset addr s = .ok (s', r) := by
  unfold payer at pays
  unfold paidWith at paid
  unfold exec at ok
  cases msg : c.msg with
  | Module inner =>
    simp only [msg] at pays paid ok
    cases inner with
    | Pay subscriberAddr =>
      simp only [toOption_eq_some] at pays
      obtain ⟨coin, last, rfl⟩ := Option.map_eq_some_iff.mp paid
      simp only [executeHandler, pays, ok_bind, last] at ok
      exact ok
    | Unsubscribe | ClaimEmissions | UpdateSubscriptionConfig | RefreshTWA => cases pays
  | Receive cw20Msg =>
    simp only [msg, Option.some.injEq] at pays paid ok
    subst paid
    cases hook : cw20Msg.msg with
    | error text =>
      rw [hook] at pays
      cases pays
    | ok deposit =>
      obtain ⟨subscriberAddr⟩ := deposit
      simp only [hook, toOption_eq_some] at pays
      simp only [receiveCw20, hook, Except.mapError, ok_bind, pays] at ok
      exact ok

/-! ## Ended subscriptions -/

/-- What is on the list of the expired subscribers has ended. -/
def Lapsed (t : Timestamp) (s : SubscriptionStore) : Prop :=
  ∀ addr subscriber, s.expiredSubscribers.lookup addr = some subscriber →
    subscriber.expirationTimestamp ≤ t

theorem Claim.expiration {block : BlockInfo} {emissions : EmissionType AssetInfo} {activeSubs : Nat}
    {subscriber subscriber' : Subscriber} {claim : Option TransferMsg}
    (h : Claim block emissions activeSubs subscriber addr subscriber' claim) :
    subscriber'.expirationTimestamp = subscriber.expirationTimestamp := by
  cases h <;> rfl

theorem Lapsed.unsubscribed {t : Timestamp} {deps : SubscriptionDeps}
    {emissions : EmissionType AssetInfo} {u u' : Unsubs} (lapsed : Lapsed t u.store)
    (past : deps.block.time ≤ t) (h : Unsubscribed deps emissions u addr u') :
    Lapsed t u'.store := by
  cases h with
  | stays => exact lapsed
  | leaves found expired positive claimed =>
    intro other subscriber listed
    rcases lookup_insert_cases listed with ⟨-, rfl⟩ | ⟨-, before⟩
    · rw [claimed.expiration]
      exact Nat.le_trans expired past
    · exact lapsed other subscriber before

theorem Lapsed.did {t : Timestamp} (lapsed : Lapsed t s) (past : c.deps.block.time ≤ t)
    (did : Did c s s' r) : Lapsed t s' := by
  cases did with
  | extended | claimed | configured | refreshed => exact lapsed
  | subscribed pays free expirationTimestamp configured counted before accumulated silent =>
    intro other subscriber listed
    exact lapsed other subscriber (lookup_erase_eq_some.mp listed).2
  | unsubscribed msg valid configured counted before accumulated loop sends =>
    refine foldlM_invariant (P := fun u => Lapsed t u.store) ?_ lapsed loop
    intro u addr u' _ held one
    exact held.unsubscribed past (unsubscribeOne_ok one)

theorem lapsed_run {deps : SubscriptionDeps} {msg : SubscriptionInstantiateMsg} {t : Timestamp}
    {calls : List Call} (created : instantiateHandler deps msg .empty = .ok start)
    (past : ∀ c ∈ calls, c.deps.block.time ≤ t) : Lapsed t (run start calls) := by
  apply Machine.run_invariant_mem (P := Lapsed t)
  · intro m c m' r listed held ok
    exact held.did (past c listed) (exec_did ok)
  · intro addr subscriber listed
    simp only [instantiateHandler, bind_eq_ok, pure_eq_ok] at created
    obtain ⟨_, -, _, -, _, -, _, -, rfl⟩ := created
    cases listed

/-! ## Every payment -/

/-- The time that is bought, from now or from the end before it. -/
theorem Bought.time_iff {block : BlockInfo} {paidFor expiration : Nat}
    (lapsed : Lapsed block.time s) (bought : Bought block minimum (paidFor % 2 ^ 64) addr asset s expiration) :
    expiration = max block.time ((previousExpiration s addr).getD block.time) + paidFor * 1000000000 ↔
      paidFor < 2 ^ 64 ∧ ∀ subscriber, s.subscribers.lookup addr = some subscriber →
        block.time ≤ subscriber.expirationTimestamp := by
  have truncated := Nat.mod_le paidFor (2 ^ 64)
  have kept : paidFor % 2 ^ 64 = paidFor ↔ paidFor < 2 ^ 64 := Nat.mod_eq_iff_lt (by decide)
  cases bought with
  | @extended active found =>
    simp only [previousExpiration, found, Option.getD_some, Option.some.injEq, forall_eq', ← kept]
    omega
  | begun free enough =>
    have earlier : max block.time ((previousExpiration s addr).getD block.time) = block.time := by
      simp only [previousExpiration, free]
      cases listed : s.expiredSubscribers.lookup addr with
      | none => simp
      | some subscriber => exact Nat.max_eq_left (lapsed addr subscriber listed)
    simp only [earlier, free, reduceCtorEq, IsEmpty.forall_iff, implies_true, and_true, ← kept]
    omega

/-- Renewing a subscription that has ended. -/
theorem Bought.renewal_iff {block : BlockInfo} {seconds_ expiration : Nat}
    (bought : Bought block minimum seconds_ addr asset s expiration)
    (running : ∀ subscriber, s.subscribers.lookup addr = some subscriber →
      block.time ≤ subscriber.expirationTimestamp) :
    (Ended s block addr → minimum ≤ asset.amount) ↔
      ∀ subscriber, s.subscribers.lookup addr = some subscriber →
        subscriber.expirationTimestamp = block.time → minimum ≤ asset.amount := by
  cases bought with
  | @extended active found =>
    have notOver := running active found
    simp only [Ended, previousExpiration, found, Option.some.injEq, exists_eq_left', forall_eq']
    constructor
    · intro renews same
      exact renews (Nat.le_of_eq same)
    · intro renews past
      exact renews (Nat.le_antisymm past notOver)
  | begun free enough => exact iff_of_true (fun _ => enough) fun _ _ _ => enough

/-- An accepted payment is honoured exactly when it is a plain one. -/
theorem payment_honoured_iff {deps : SubscriptionDeps} {msg : SubscriptionInstantiateMsg}
    {before : List Call} (created : instantiateHandler deps msg .empty = .ok start)
    (ordered : Ordered (before ++ [c])) (ok : exec c (run start before) = .ok (s', r))
    (pays : payer c = some addr) (paid : paidWith c = some asset)
    (configured : (run start before).config = some config)
    (averaged : (run start before).incomeTwa = some twa)
    (least : checkedMulCeil twa.averagingPeriod config.subscriptionCostPerSecond = .ok minimum)
    (installed : c.deps.account = .ok account) :
    Honours c config minimum account addr asset (run start before) s' r ↔
      Plain c config twa minimum addr asset (run start before) := by
  have lapsed : Lapsed c.deps.block.time (run start before) :=
    lapsed_run created fun earlier listed =>
      (List.pairwise_append.mp ordered).2.2 earlier listed c (List.mem_singleton.mpr rfl)
  have did := exec_pays ok pays paid
  simp only [tryPay, loadConfig, loadTwa, configured, averaged, installed, least, okOr, ok_bind,
    Except.mapError, bind_eq_ok, pure_eq_ok, ensure_eq_ok, checkedDivFloor_eq_ok,
    Prod.mk.injEq] at did
  obtain ⟨_, -, paidFor, ⟨-, -, rfl⟩, _, subscribed, rfl, rfl⟩ := did
  obtain ⟨subscriber, listed, bought⟩ := subscribe_bought subscribed
  have time := bought.time_iff lapsed
  have funds : (∀ info, amountOf info ([AppMsg.Transfer { asset, recipient := account }].flatMap
      (AppMsg.forwarded account)) = amountOf info (received c)) ↔
      ∀ coin ∈ extraFunds c, coin.amount = 0 := by
    rw [← amountOf_eq_zero_iff]
    apply forall_congr'
    intro info
    have sent : [AppMsg.Transfer { asset, recipient := account }].flatMap
        (AppMsg.forwarded account) = [asset] := by simp [AppMsg.forwarded]
    rw [sent, amountOf_received paid]
    omega
  have quote := quote_iff configured averaged least
  constructor
  · intro honours
    obtain ⟨subscriber', listed', expires⟩ := honours.time
    obtain rfl : subscriber = subscriber' := Option.some.inj (listed.symm.trans listed')
    rw [floor_div_toRat] at expires
    obtain ⟨fits, running⟩ := time.mp expires
    have renews := (bought.renewal_iff running).mp honours.renewal
    exact ⟨fits, fun active found => ⟨running active found, renews active found⟩,
      funds.mp honours.funds, quote.mp honours.quote⟩
  · intro plain
    have running : ∀ active, (run start before).subscribers.lookup addr = some active →
        c.deps.block.time ≤ active.expirationTimestamp :=
      fun active found => (plain.running active found).1
    refine ⟨⟨subscriber, listed, ?_⟩, funds.mpr plain.alone, ?_, quote.mpr plain.whole⟩
    · rw [floor_div_toRat]
      exact time.mpr ⟨plain.fits, running⟩
    · exact (bought.renewal_iff running).mpr fun active found => (plain.running active found).2

section Sample

/-- The configuration of the app that has just been set up. -/
def offered : SubscriptionConfig where
  paymentAsset := .Native "ucoin"
  subscriptionCostPerSecond := Decimal.one
  subscriptionPerSecondEmissions := .SecondShared ⟨60 * 10 ^ 18⟩ (.Native "utoken")
  unsubscribeHookAddr := none

def coins (amount : Nat) : Asset := { info := .Native "ucoin", amount }

/-- A payment with a second coin that the app does not look at. -/
def payWithExtra : Call where
  deps := depsAt 0
  info := { sender := ⟨"alice"⟩, funds := [⟨"uother", 7⟩, ⟨"ucoin", 100⟩] }
  msg := .Module (.Pay none)

end Sample

theorem payment_honoured_alice :
    ∃ s' r, exec (pay 5 "alice" 100) (run newApp []) = .ok (s', r) ∧
      Honours (pay 5 "alice" 100) offered 10 ⟨"account"⟩ ⟨"alice"⟩ (coins 100) (run newApp []) s'
        r := by
  have created : instantiateHandler (depsAt 0) offer .empty = .ok newApp := rfl
  have accepted : (exec (pay 5 "alice" 100) (run newApp [])).toOption.isSome := by decide +kernel
  obtain ⟨⟨s', r⟩, ok⟩ := Option.isSome_iff_exists.mp accepted
  rw [toOption_eq_some] at ok
  refine ⟨s', r, ok, ?_⟩
  refine (payment_honoured_iff created ?_ ok rfl rfl rfl rfl (by decide +kernel) rfl).mpr
    ⟨by decide, ?_, ?_, by decide⟩
  · unfold Ordered
    decide +kernel
  · rintro _ ⟨⟩
  · intro coin listed
    cases listed

/-- A subscription that has ended and is still listed is extended from its old end, for less
    than the minimum, and what it is extended to is over; and a second coin stays with the
    app. -/
theorem payment_not_honoured :
    instantiateHandler (depsAt 0) offer .empty = .ok newApp ∧
      Ordered [pay 0 "alice" 10, pay 100 "alice" 5] ∧
      ((exec (pay 100 "alice" 5) (run newApp [pay 0 "alice" 10])).toOption.map fun p =>
        (p.1.subscribers.lookup ⟨"alice"⟩).map Subscriber.expirationTimestamp) =
          some (some 15000000000) ∧
      (∃ s' r, exec (pay 100 "alice" 5) (run newApp [pay 0 "alice" 10]) = .ok (s', r) ∧
        ¬ Honours (pay 100 "alice" 5) offered 10 ⟨"account"⟩ ⟨"alice"⟩ (coins 5)
          (run newApp [pay 0 "alice" 10]) s' r) ∧
      ∃ s' r, exec payWithExtra (run newApp []) = .ok (s', r) ∧
        ¬ Honours payWithExtra offered 10 ⟨"account"⟩ ⟨"alice"⟩ (coins 100) (run newApp []) s'
          r := by
  refine ⟨rfl, ?_, by decide +kernel, ?_, ?_⟩
  · unfold Ordered
    decide +kernel
  · have accepted : (exec (pay 100 "alice" 5) (run newApp [pay 0 "alice" 10])).toOption.isSome := by
      decide +kernel
    obtain ⟨⟨s', r⟩, ok⟩ := Option.isSome_iff_exists.mp accepted
    refine ⟨s', r, toOption_eq_some.mp ok, ?_⟩
    intro honours
    have ended : Ended (run newApp [pay 0 "alice" 10]) (pay 100 "alice" 5).deps.block ⟨"alice"⟩ :=
      ⟨10000000000, by decide +kernel, by decide⟩
    exact absurd (honours.renewal ended) (by decide)
  · have accepted : (exec payWithExtra (run newApp [])).toOption.isSome := by decide +kernel
    obtain ⟨⟨s', r⟩, ok⟩ := Option.isSome_iff_exists.mp accepted
    refine ⟨s', r, toOption_eq_some.mp ok, ?_⟩
    intro honours
    have forwards : ((exec payWithExtra (run newApp [])).toOption.map fun p =>
        amountOf (.Native "uother") (p.2.messages.flatMap (AppMsg.forwarded ⟨"account"⟩))) =
          some 0 := by decide +kernel
    rw [ok, Option.map_some, Option.some.injEq] at forwards
    have sent := honours.funds (.Native "uother")
    rw [forwards] at sent
    exact absurd sent (by decide +kernel)

end AbstractFramework.Subscription
