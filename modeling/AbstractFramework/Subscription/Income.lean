import AbstractFramework.Subscription.Bookkeeping

/-! # Income

The income per second is the number of active subscribers times the cost.  It is accumulated
when somebody subscribes or unsubscribes, and a refresh averages what has been accumulated
by then: it counts the time from the accumulation before the last averaging to the one
before the refresh.
-/

namespace AbstractFramework.Subscription

open AbstractFramework Fallible Storage Voting Sdk Objects

variable {s s' start : SubscriptionStore} {c : Call} {r : Response} {log : List Event}
variable {event : Event}

/-! ## Averages of an integral -/

/-- The income per second. -/
def incomeRate (s : SubscriptionStore) : Nat :=
  activeSubs s * ((s.config.map fun config => config.subscriptionCostPerSecond.atomics).getD 0)

/-- The income from one second to before another one. -/
def income (log : List Event) (s : SubscriptionStore) (lo hi : Nat) : Nat :=
  Timeline.integral clock incomeRate log s lo hi

/-- The second of the last accumulation. -/
def accumulatedUpTo (s : SubscriptionStore) : Nat :=
  (s.incomeTwa.map fun twa => seconds twa.lastBlockTime).getD 0

/-- The second of the last averaging. -/
def averagedAt (s : SubscriptionStore) : Nat :=
  (s.incomeTwa.map fun twa => seconds twa.lastAveragingBlockTime).getD 0

def averageValue (s : SubscriptionStore) : Nat :=
  (s.incomeTwa.map fun twa => twa.averageValue.atomics).getD 0

/-- The event is a refresh that stores a new average. -/
def stores (event : Event) : Bool :=
  match event.2.1.msg with
  | .Module .RefreshTWA =>
    event.1.incomeTwa.any fun twa => twa.averagingPeriod ≤ clock event.2.1 - averagedAt event.1
  | _ => false

/-- The event accumulates the income. -/
def accumulates (event : Event) : Bool :=
  (match event.2.1.msg with
    | .Module (.Unsubscribe _) => true
    | _ => (payer event.2.1).any fun addr => event.1.subscribers.lookup addr = none) &&
  event.1.incomeTwa.any fun twa => twa.lastBlockTime < event.2.1.deps.block.time

/-- The events since the last averaging, the latest one first. -/
def sinceAveraging (log : List Event) : List Event := log.reverse.takeWhile fun event => !stores event

/-- The accumulations since the last averaging. -/
def accumulations (log : List Event) : Nat := (sinceAveraging log).countP accumulates

/-- Up to where the income was accumulated at the last averaging. -/
def accumulatedThen (start : SubscriptionStore) (log : List Event) : Nat :=
  accumulatedUpTo (((log.reverse.find? stores).map Prod.fst).getD start)

/-- The average of an income over the elapsed seconds, up to one unit for each accumulation
    and the last decimal place of the average. -/
def AverageOf (total elapsed count average : Nat) : Prop :=
  average * elapsed ≤ total ∧ total < average * elapsed + count * 10 ^ 18 + elapsed

instance (total elapsed count average : Nat) : Decidable (AverageOf total elapsed count average) :=
  inferInstanceAs (Decidable (_ ∧ _))

/-- Every new average is the average of the income between two seconds. -/
def Averages (lo hi : SubscriptionStore → List Event → Call → Nat) (start : SubscriptionStore)
    (calls : List Call) : Prop :=
  ∀ before c after s' r, calls = before ++ c :: after →
    exec c (run start before) = .ok (s', r) → stores (run start before, c, r) = true →
    AverageOf
      (income (history start before) (run start before)
        (lo (run start before) (history start before) c)
        (hi (run start before) (history start before) c))
      (clock c - averagedAt (run start before)) (accumulations (history start before))
      (averageValue s')

/-- The averages are over the income from the last averaging to the refresh. -/
def AveragesElapsed (start : SubscriptionStore) (calls : List Call) : Prop :=
  Averages (fun s _ _ => averagedAt s) (fun _ _ c => clock c) start calls

/-- The averages are over the income that has been accumulated since the last averaging. -/
def AveragesAccumulated (start : SubscriptionStore) (calls : List Call) : Prop :=
  Averages (fun _ log _ => accumulatedThen start log) (fun s _ _ => accumulatedUpTo s) start calls

/-- The cost changes only while there is nobody to pay it, or in the second of the last
    accumulation. -/
def CostSettled (s : SubscriptionStore) (c : Call) : Prop :=
  ∀ payment cost emissions hook,
    c.msg = .Module (.UpdateSubscriptionConfig payment (some cost) emissions hook) →
    ∀ config, s.config = some config → cost = config.subscriptionCostPerSecond ∨ activeSubs s = 0 ∨
      clock c = accumulatedUpTo s

/-! ## One more event -/

theorem accumulations_snoc :
    accumulations (log ++ [event]) =
      if stores event then 0 else accumulations log + if accumulates event then 1 else 0 := by
  simp only [accumulations, sinceAveraging, List.reverse_append, List.reverse_singleton,
    List.singleton_append, List.takeWhile_cons]
  cases stores event <;> simp [List.countP_cons]

theorem accumulatedThen_snoc :
    accumulatedThen start (log ++ [event]) =
      if stores event then accumulatedUpTo event.1 else accumulatedThen start log := by
  simp only [accumulatedThen, List.reverse_append, List.reverse_singleton, List.singleton_append,
    List.find?_cons]
  cases stores event <;> simp

/-! ## The invariant -/

/-- What has been accumulated since the last averaging, and what is still to be. -/
structure Tracked (start s : SubscriptionStore) (log : List Event) (twa : TimeWeightedAverageData) :
    Prop where
  stored : s.incomeTwa = some twa
  bounded : twa.lastBlockTime < 2 ^ 64
  order : accumulatedThen start log ≤ seconds twa.lastBlockTime
  grown : twa.lastAveragingCumulativeValue ≤ twa.cumulativeValue
  /-- Each accumulation rounds down by less than one unit. -/
  below : (twa.cumulativeValue - twa.lastAveragingCumulativeValue) * 10 ^ 18 ≤
    income log s (accumulatedThen start log) (seconds twa.lastBlockTime)
  above : income log s (accumulatedThen start log) (seconds twa.lastBlockTime) ≤
    (twa.cumulativeValue - twa.lastAveragingCumulativeValue) * 10 ^ 18 +
      accumulations log * 10 ^ 18
  /-- The cumulative value is too small to wrap around. -/
  small : twa.cumulativeValue * 10 ^ 18 ≤ seconds twa.lastBlockTime * 2 ^ 128
  /-- The income per second has been the same since the last accumulation. -/
  pending : ∀ second, seconds twa.lastBlockTime ≤ second →
    incomeRate (inForce log s second) = incomeRate s

theorem seconds_lt {t : Timestamp} (bounded : t < 2 ^ 64) : seconds t < 10 ^ 18 :=
  Nat.div_lt_of_lt_mul (Nat.lt_trans bounded (by decide))

/-- The cumulative value after an accumulation. -/
theorem wrappingAdd_small {sum rate last now : Nat} (bounded : now < 2 ^ 64)
    (small : sum * 10 ^ 18 ≤ seconds last * 2 ^ 128) (fits : rate < 2 ^ 128)
    (later : seconds last ≤ seconds now) :
    wrappingAdd sum (mulFloor (seconds now - seconds last) ⟨rate⟩) =
        sum + (seconds now - seconds last) * rate / 10 ^ 18 ∧
      (sum + (seconds now - seconds last) * rate / 10 ^ 18) * 10 ^ 18 ≤ seconds now * 2 ^ 128 := by
  have sum_le : (sum + (seconds now - seconds last) * rate / 10 ^ 18) * 10 ^ 18 ≤
      seconds now * 2 ^ 128 := by
    calc (sum + (seconds now - seconds last) * rate / 10 ^ 18) * 10 ^ 18
        = sum * 10 ^ 18 + (seconds now - seconds last) * rate / 10 ^ 18 * 10 ^ 18 := Nat.add_mul ..
      _ ≤ seconds last * 2 ^ 128 + (seconds now - seconds last) * 2 ^ 128 :=
        Nat.add_le_add small (Nat.le_trans (Nat.div_mul_le_self _ _)
          (Nat.mul_le_mul_left _ (Nat.le_of_lt fits)))
      _ = seconds now * 2 ^ 128 := by rw [← Nat.add_mul, Nat.add_sub_cancel' later]
  refine ⟨?_, sum_le⟩
  apply Nat.mod_eq_of_lt
  refine Nat.lt_of_mul_lt_mul_right (a := 10 ^ 18) (Nat.lt_of_le_of_lt sum_le ?_)
  rw [Nat.mul_comm (2 ^ 128)]
  exact Nat.mul_lt_mul_of_pos_right (seconds_lt bounded) (by decide)

/-- What happens to the lists, the counter and the cost, while the average stays. -/
theorem Tracked.keep {twa : TimeWeightedAverageData} (tracked : Tracked start s log twa)
    (ordered : ∀ event ∈ log, clock event.2.1 ≤ clock c) (past : seconds twa.lastBlockTime ≤ clock c)
    (stored : s'.incomeTwa = some twa) (quiet : accumulates (s, c, r) = false)
    (unstored : stores (s, c, r) = false)
    (settled : incomeRate s' = incomeRate s ∨ clock c = seconds twa.lastBlockTime) :
    Tracked start s' (log ++ [(s, c, r)]) twa := by
  have same : income (log ++ [(s, c, r)]) s' (accumulatedThen start log) (seconds twa.lastBlockTime) =
      income log s (accumulatedThen start log) (seconds twa.lastBlockTime) :=
    Timeline.integral_snoc ordered past
  have lo : accumulatedThen start (log ++ [(s, c, r)]) = accumulatedThen start log := by
    simp [accumulatedThen_snoc, unstored]
  have count : accumulations (log ++ [(s, c, r)]) = accumulations log := by
    simp [accumulations_snoc, unstored, quiet]
  constructor
  · exact stored
  · exact tracked.bounded
  · rw [lo]
    exact tracked.order
  · exact tracked.grown
  · rw [lo, same]
    exact tracked.below
  · rw [lo, same, count]
    exact tracked.above
  · exact tracked.small
  · intro second late
    rw [inForce_snoc ordered]
    split
    · rename_i early
      rcases settled with equal | now
      · rw [tracked.pending second late, equal]
      · rw [now] at early
        exact absurd early (Nat.not_lt_of_le late)
    · rfl

/-- An accumulation before the number of subscribers changes. -/
theorem Tracked.accumulate {twa twa' : TimeWeightedAverageData} (tracked : Tracked start s log twa)
    (ordered : ∀ event ∈ log, clock event.2.1 ≤ clock c)
    (past : twa.lastBlockTime ≤ c.deps.block.time)
    (accumulated : Accumulated c.deps.block (incomeRate s) twa twa')
    (stored : s'.incomeTwa = some twa')
    (counts : accumulates (s, c, r) = decide (twa.lastBlockTime < c.deps.block.time))
    (unstored : stores (s, c, r) = false) : Tracked start s' (log ++ [(s, c, r)]) twa' := by
  have past_ : seconds twa.lastBlockTime ≤ clock c := Nat.div_le_div_right past
  rcases accumulated with ⟨early, rfl⟩ | ⟨late, fits, rfl⟩
  · have now : c.deps.block.time = twa'.lastBlockTime := Nat.le_antisymm early past
    refine tracked.keep ordered past_ stored ?_ unstored (.inr (by rw [clock, now]))
    rw [counts, now]
    simp
  · obtain ⟨sum, small⟩ := wrappingAdd_small c.deps.time_lt tracked.small fits past_
    have lo : accumulatedThen start (log ++ [(s, c, r)]) = accumulatedThen start log := by
      simp [accumulatedThen_snoc, unstored]
    have count : accumulations (log ++ [(s, c, r)]) = accumulations log + 1 := by
      simp [accumulations_snoc, unstored, counts, late]
    -- the time since the last accumulation has one rate
    have total : income (log ++ [(s, c, r)]) s' (accumulatedThen start log) (clock c) =
        income log s (accumulatedThen start log) (seconds twa.lastBlockTime) +
          (clock c - seconds twa.lastBlockTime) * incomeRate s := by
      unfold income
      rw [Timeline.integral_snoc ordered (Nat.le_refl _)]
      exact Timeline.integral_extend tracked.order past_ fun second late _ =>
        tracked.pending second late
    have rounded := Nat.div_mul_le_self ((clock c - seconds twa.lastBlockTime) * incomeRate s) (10 ^ 18)
    have lost := Nat.lt_div_mul_add (a := (clock c - seconds twa.lastBlockTime) * incomeRate s)
      (b := 10 ^ 18) (by decide)
    have grown := tracked.grown
    have below := tracked.below
    have above := tracked.above
    constructor
    · exact stored
    · exact c.deps.time_lt
    · rw [lo]
      exact Nat.le_trans tracked.order past_
    · show twa.lastAveragingCumulativeValue ≤ wrappingAdd _ _
      rw [sum]
      exact Nat.le_trans grown (Nat.le_add_right _ _)
    · show (wrappingAdd _ _ - twa.lastAveragingCumulativeValue) * 10 ^ 18 ≤ income _ _ _ (clock c)
      rw [lo, total, sum, Nat.sub_add_comm grown, Nat.add_mul]
      exact Nat.add_le_add below rounded
    · show income _ _ _ (clock c) ≤
        (wrappingAdd _ _ - twa.lastAveragingCumulativeValue) * 10 ^ 18 + _
      rw [lo, total, sum, count, Nat.sub_add_comm grown, Nat.add_mul, Nat.add_mul]
      refine Nat.le_trans (Nat.add_le_add above (Nat.le_of_lt lost)) (Nat.le_of_eq ?_)
      rw [Nat.one_mul]
      exact Nat.add_add_add_comm ..
    · show wrappingAdd _ _ * 10 ^ 18 ≤ _
      rw [sum]
      exact small
    · intro second late'
      have after : ¬ second < clock c := Nat.not_lt_of_le late'
      rw [inForce_snoc ordered, if_neg after]

/-- The loop over a batch leaves the config and the average as they are. -/
theorem loop_frame {deps : SubscriptionDeps} {emissions : EmissionType AssetInfo} {u u' : Unsubs}
    {addrs : List Addr} (loop : addrs.foldlM (unsubscribeOne deps emissions) u = .ok u') :
    u'.store.config = u.store.config ∧ u'.store.incomeTwa = u.store.incomeTwa := by
  refine foldlM_invariant (P := fun v : Unsubs => v.store.config = u.store.config ∧
    v.store.incomeTwa = u.store.incomeTwa) ?_ ⟨rfl, rfl⟩ loop
  intro v addr v' _ same ok
  cases unsubscribeOne_ok ok with
  | stays found running => exact same
  | leaves found expired positive claimed => exact same

theorem incomeRate_eq {config : SubscriptionConfig} {state : SubscriptionState}
    (configured : s.config = some config) (counted : s.state = some state) :
    incomeRate s = state.activeSubs * config.subscriptionCostPerSecond.atomics := by
  simp [incomeRate, activeSubs, configured, counted]

theorem not_accumulates {msg : SubscriptionExecuteMsg} (is : c.msg = .Module msg)
    (unpaid : payer c = none) (other : ∀ humans, msg ≠ .Unsubscribe humans) :
    accumulates (s, c, r) = false := by
  unfold accumulates
  cases msg with
  | Unsubscribe humans => exact absurd rfl (other humans)
  | Pay subscriberAddr => simp [is, unpaid]
  | ClaimEmissions addr => simp [is, unpaid]
  | UpdateSubscriptionConfig payment cost emissions hook => simp [is, unpaid]
  | RefreshTWA => simp [is, unpaid]

/-- A payment stores no average. -/
theorem not_stores_of_payer {addr : Addr} (pays : payer c = some addr) :
    stores (s, c, r) = false := by
  unfold payer at pays
  unfold stores
  split at pays <;> simp_all

/-- A payment accumulates when it makes somebody a subscriber. -/
theorem accumulates_of_payer {addr : Addr} (pays : payer c = some addr) :
    accumulates (s, c, r) = (decide (s.subscribers.lookup addr = none) &&
      s.incomeTwa.any fun twa => twa.lastBlockTime < c.deps.block.time) := by
  have other : ∀ humans, c.msg ≠ .Module (.Unsubscribe humans) := by
    intro humans is
    simp [payer, is] at pays
  unfold accumulates
  split
  · rename_i humans is
    exact absurd is (other humans)
  · simp [pays]

/-- A stored average starts the tracking anew. -/
theorem Tracked.average {twa : TimeWeightedAverageData} {average : Decimal}
    (tracked : Tracked start s log twa) (ordered : ∀ event ∈ log, clock event.2.1 ≤ clock c)
    (store : stores (s, c, r) = true) :
    let twa' := { twa with
      averageValue := average
      lastAveragingBlockTime := c.deps.block.time
      lastAveragingCumulativeValue := twa.cumulativeValue }
    Tracked start { s with incomeTwa := some twa' } (log ++ [(s, c, r)]) twa' := by
  have lo : accumulatedThen start (log ++ [(s, c, r)]) = seconds twa.lastBlockTime := by
    simp [accumulatedThen_snoc, store, accumulatedUpTo, tracked.stored]
  refine ⟨rfl, tracked.bounded, ?_, Nat.le_refl _, ?_, ?_, tracked.small, ?_⟩
  · rw [lo]
  · simp
  · rw [lo]
    show Timeline.integral _ _ _ _ (seconds twa.lastBlockTime) (seconds twa.lastBlockTime) ≤ _
    simp
  · intro second late
    rw [inForce_snoc ordered]
    split
    · exact tracked.pending second late
    · rfl

/-- Every call keeps the invariant when the cost is settled. -/
theorem Tracked.exec {twa : TimeWeightedAverageData} (tracked : Tracked start s log twa)
    (ordered : ∀ event ∈ log, clock event.2.1 ≤ clock c)
    (past : twa.lastBlockTime ≤ c.deps.block.time) (settled : CostSettled s c)
    (h : exec c s = .ok (s', r)) : ∃ twa', Tracked start s' (log ++ [(s, c, r)]) twa' ∧
      twa'.lastBlockTime ≤ c.deps.block.time := by
  have stored := tracked.stored
  have past_ : seconds twa.lastBlockTime ≤ clock c := Nat.div_le_div_right past
  have advanced : ∀ {income twa'}, Accumulated c.deps.block income twa twa' →
      twa'.lastBlockTime ≤ c.deps.block.time := by
    rintro income twa' (⟨-, rfl⟩ | ⟨-, -, rfl⟩)
    · exact past
    · exact Nat.le_refl _
  cases exec_did h with
  | @extended addr pays active found expirationTimestamp =>
    refine ⟨twa, tracked.keep ordered past_ stored ?_ (not_stores_of_payer pays) (.inl rfl), past⟩
    rw [accumulates_of_payer pays, found]
    simp
  | @subscribed addr pays free expirationTimestamp config configured state counted twa₀ twa' before
      accumulated =>
    obtain rfl := Option.some.inj (stored.symm.trans before)
    rw [← incomeRate_eq configured counted] at accumulated
    refine ⟨twa', tracked.accumulate ordered past accumulated rfl ?_ (not_stores_of_payer pays),
      advanced accumulated⟩
    rw [accumulates_of_payer pays, free, stored]
    simp
  | @unsubscribed humans msg addrs valid config configured state counted twa₀ twa' before accumulated
      u loop =>
    obtain rfl := Option.some.inj (stored.symm.trans before)
    rw [← incomeRate_eq configured counted] at accumulated
    refine ⟨twa', tracked.accumulate ordered past accumulated (loop_frame loop).2 ?_ ?_,
      advanced accumulated⟩
    · simp [accumulates, msg, stored]
    · simp [stores, msg]
  | claimed msg valid configured counted found claim_ =>
    refine ⟨twa, tracked.keep ordered past_ stored ?_ (by simp [stores, msg]) (.inl rfl), past⟩
    exact not_accumulates msg (by simp [payer, msg]) (by simp)
  | @configured payment cost emissions hook msg config config' configured costs =>
    refine ⟨twa, tracked.keep ordered past_ stored ?_ (by simp [stores, msg]) ?_, past⟩
    · exact not_accumulates msg (by simp [payer, msg]) (by simp)
    · cases cost with
      | none =>
        left
        simp [incomeRate, configured, costs, activeSubs]
      | some cost =>
        rcases settled payment cost emissions hook msg config configured with same | empty | now
        · left
          simp [incomeRate, configured, costs, activeSubs, same]
        · left
          rw [incomeRate, incomeRate, empty, show activeSubs { s with config := some config' } = 0
            from empty, Nat.zero_mul, Nat.zero_mul]
        · right
          rw [now]
          simp [accumulatedUpTo, stored]
  | @refreshed msg twa₀ twa' before average refresh =>
    obtain rfl := Option.some.inj (stored.symm.trans before)
    have quiet : accumulates (s, c, r) = false :=
      not_accumulates msg (by simp [payer, msg]) (by simp)
    obtain ⟨-, ⟨early, rfl⟩ | ⟨late, -, rfl⟩⟩ := TimeWeightedAverageData.tryUpdateValue_eq_ok refresh
    · refine ⟨twa', tracked.keep ordered past_ rfl quiet ?_ (.inl rfl), past⟩
      have : ¬ twa'.averagingPeriod ≤ clock c - seconds twa'.lastAveragingBlockTime :=
        Nat.not_le_of_lt early
      simp [stores, msg, stored, averagedAt, this]
    · have store : stores (s, c, r) = true := by
        have : twa.averagingPeriod ≤ clock c - seconds twa.lastAveragingBlockTime := late
        simp [stores, msg, stored, averagedAt, this]
      exact ⟨_, tracked.average ordered store, past⟩

/-- At the start nothing is to be accumulated. -/
theorem tracked_instantiate {deps : SubscriptionDeps} {msg : SubscriptionInstantiateMsg}
    (h : instantiateHandler deps msg .empty = .ok start) :
    ∃ twa, Tracked start start [] twa ∧ twa.lastBlockTime = deps.block.time := by
  simp only [instantiateHandler, bind_eq_ok, pure_eq_ok] at h
  obtain ⟨payment, -, emissions, -, hook, -, _, -, rfl⟩ := h
  refine ⟨_, ⟨rfl, deps.time_lt, Nat.le_refl _, Nat.le_refl _, ?_, ?_, ?_, ?_⟩, rfl⟩
  · simp [TimeWeightedAverageData.instantiate]
  · show Timeline.integral _ _ _ _ (seconds deps.block.time) (seconds deps.block.time) ≤ _
    simp
  · simp [TimeWeightedAverageData.instantiate]
  · intro second _
    rfl

theorem msg_of_stores (h : stores (s, c, r) = true) : c.msg = .Module .RefreshTWA := by
  unfold stores at h
  split at h
  · assumption
  · cases h

/-- The average of what has been accumulated. -/
theorem averageOf {total elapsed count sum : Nat} (positive : elapsed ≠ 0)
    (below : sum * 10 ^ 18 ≤ total) (above : total ≤ sum * 10 ^ 18 + count * 10 ^ 18) :
    AverageOf total elapsed count (sum * 10 ^ 18 / elapsed) := by
  have rounded := Nat.div_mul_le_self (sum * 10 ^ 18) elapsed
  have lost := Nat.lt_div_mul_add (a := sum * 10 ^ 18) (Nat.pos_of_ne_zero positive)
  exact ⟨Nat.le_trans rounded below, by omega⟩

/-- A refresh stores the average of what has been accumulated. -/
theorem Tracked.averages {twa : TimeWeightedAverageData} (tracked : Tracked start s log twa)
    (h : Subscription.exec c s = .ok (s', r)) (store : stores (s, c, r) = true) :
    AverageOf (income log s (accumulatedThen start log) (accumulatedUpTo s))
      (clock c - averagedAt s) (accumulations log) (averageValue s') := by
  have stored := tracked.stored
  have upTo : accumulatedUpTo s = seconds twa.lastBlockTime := by simp [accumulatedUpTo, stored]
  have since : averagedAt s = seconds twa.lastAveragingBlockTime := by simp [averagedAt, stored]
  have msg := msg_of_stores store
  simp only [stores, msg, stored, Option.any_some, decide_eq_true_eq] at store
  cases exec_did h with
  | extended pays => simp [payer, msg] at pays
  | subscribed pays => simp [payer, msg] at pays
  | unsubscribed msg' => simp [msg] at msg'
  | claimed msg' => simp [msg] at msg'
  | configured msg' => simp [msg] at msg'
  | @refreshed _ twa₀ twa' before average refresh =>
    obtain rfl := Option.some.inj (stored.symm.trans before)
    rw [since] at store ⊢
    obtain ⟨-, ⟨early, -⟩ | ⟨-, positive, rfl⟩⟩ :=
      TimeWeightedAverageData.tryUpdateValue_eq_ok refresh
    · exact absurd early (Nat.not_lt_of_le store)
    · have fits : twa.cumulativeValue < 2 ^ 128 := by
        refine Nat.lt_of_mul_lt_mul_right (a := 10 ^ 18) (Nat.lt_of_le_of_lt tracked.small ?_)
        rw [Nat.mul_comm (2 ^ 128)]
        exact Nat.mul_lt_mul_of_pos_right (seconds_lt tracked.bounded) (by decide)
      have difference : wrappingSub twa.cumulativeValue twa.lastAveragingCumulativeValue =
          twa.cumulativeValue - twa.lastAveragingCumulativeValue := by
        unfold wrappingSub
        rw [Nat.sub_add_comm tracked.grown, Nat.add_mod_right]
        exact Nat.mod_eq_of_lt (Nat.lt_of_le_of_lt (Nat.sub_le _ _) fits)
      show AverageOf _ _ _ (wrappingSub _ _ * 10 ^ 18 / _)
      rw [difference, upTo]
      exact averageOf positive tracked.below tracked.above

/-- In every run in which the cost changes only when it is settled, the stored averages are
    those of the accumulated income. -/
theorem averages_accumulated {deps : SubscriptionDeps} {msg : SubscriptionInstantiateMsg}
    {calls : List Call} (created : instantiateHandler deps msg .empty = .ok start)
    (ordered : Ordered calls) (began : ∀ c ∈ calls, deps.block.time ≤ c.deps.block.time)
    (settled : Machine.AlongAccepted exec CostSettled start calls) :
    AveragesAccumulated start calls := by
  intro before c after s' r split ok store
  have tracked : ∃ twa, Tracked start (run start before) (history start before) twa ∧
      (twa.lastBlockTime ≤ deps.block.time ∨
        ∃ event ∈ history start before, twa.lastBlockTime ≤ event.2.1.deps.block.time) := by
    refine Machine.run_history_invariant
      (P := fun s log => ∃ twa, Tracked start s log twa ∧ (twa.lastBlockTime ≤ deps.block.time ∨
        ∃ event ∈ log, twa.lastBlockTime ≤ event.2.1.deps.block.time))
      (C := fun s log c => (∀ event ∈ log, event.2.1.deps.block.time ≤ c.deps.block.time) ∧
        deps.block.time ≤ c.deps.block.time ∧ ((∃ p, exec c s = .ok p) → CostSettled s c)) ?_ ?_ ?_
    · intro s log c s' r ⟨ordered, began, settled⟩ ⟨twa, tracked, time⟩ ok
      have past : twa.lastBlockTime ≤ c.deps.block.time := by
        rcases time with first | ⟨event, happened, time⟩
        · exact Nat.le_trans first began
        · exact Nat.le_trans time (ordered event happened)
      obtain ⟨twa', tracked', time'⟩ := tracked.exec
        (fun event happened => Nat.div_le_div_right (ordered event happened)) past
        (settled ⟨_, ok⟩) ok
      exact ⟨twa', tracked', .inr ⟨_, List.mem_append_right _ (List.mem_singleton_self _), time'⟩⟩
    · obtain ⟨twa, tracked, time⟩ := tracked_instantiate created
      exact ⟨twa, tracked, .inl (Nat.le_of_eq time)⟩
    · intro earlier c' later split'
      subst split'
      rw [split, List.append_assoc] at ordered began settled
      refine ⟨?_, began c' (by simp), ?_⟩
      · exact Timeline.throughout_ordered ordered earlier c' _ rfl
      · rw [Machine.alongAccepted_append] at settled
        exact settled.2.1
  obtain ⟨twa, tracked, -⟩ := tracked
  exact tracked.averages ok store

section Sample

def refreshAt (secs : UInt32) : Call where
  deps := depsAt secs
  info := { sender := ⟨"anybody"⟩, funds := [] }
  msg := .Module .RefreshTWA

def setCost (secs : UInt32) (cost : Nat) : Call where
  deps := depsAt secs
  info := { sender := ⟨"admin"⟩, funds := [] }
  msg := .Module (.UpdateSubscriptionConfig none (some ⟨cost * 10 ^ 18⟩) none none)

end Sample

theorem averages_accumulated_joined :
    AveragesAccumulated newApp [pay 0 "alice" 100, pay 10 "bob" 100, refreshAt 10] := by
  have created : instantiateHandler (depsAt 0) offer .empty = .ok newApp := rfl
  refine averages_accumulated created ?_ ?_ (Machine.Along.accepted ⟨?_, ?_, ?_, trivial⟩)
  · unfold Ordered
    decide +kernel
  · decide +kernel
  · rintro _ _ _ _ ⟨⟩
  · rintro _ _ _ _ ⟨⟩
  · rintro _ _ _ _ ⟨⟩

/-- The average that a call stores. -/
theorem Averages.at {lo hi : SubscriptionStore → List Event → Call → Nat} (before : List Call)
    (average : Nat) {after : List Call} (averages : Averages lo hi start (before ++ c :: after))
    (store : stores (run start before, c, ⟨none, []⟩) = true)
    (h : ((exec c (run start before)).toOption.map fun p => averageValue p.1) = some average) :
    AverageOf
      (income (history start before) (run start before)
        (lo (run start before) (history start before) c)
        (hi (run start before) (history start before) c))
      (clock c - averagedAt (run start before)) (accumulations (history start before)) average := by
  cases ok : exec c (run start before) with
  | error e => simp [ok, Except.toOption] at h
  | ok p =>
    obtain ⟨s', r⟩ := p
    obtain rfl : averageValue s' = average := by simpa [ok, Except.toOption] using h
    exact averages before c after s' r rfl ok store

/-- A refresh leaves out what is still to be accumulated, and a new cost is applied to the time
    before it. -/
theorem not_averagesElapsed :
    Ordered [pay 0 "alice" 100, setCost 9 5, pay 10 "bob" 500, refreshAt 10] ∧
      ¬ AveragesElapsed newApp [pay 0 "alice" 100, refreshAt 10] ∧
      ¬ AveragesElapsed newApp [pay 0 "alice" 100, setCost 9 5, pay 10 "bob" 500, refreshAt 10] := by
  refine ⟨?_, ?_, ?_⟩
  · unfold Ordered
    decide +kernel
  · intro averages
    have zero := Averages.at [pay 0 "alice" 100] 0 averages (by decide +kernel) (by decide +kernel)
    exact absurd zero (by decide +kernel)
  · intro averages
    have five := Averages.at [pay 0 "alice" 100, setCost 9 5, pay 10 "bob" 500] (5 * 10 ^ 18) averages
      (by decide +kernel) (by decide +kernel)
    exact absurd five (by decide +kernel)

end AbstractFramework.Subscription
