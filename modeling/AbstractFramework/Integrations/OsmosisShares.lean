import AbstractFramework.Integrations.Osmosis
import AbstractFramework.Lib.PoolShares

/-! # The shares of a deposit on Osmosis

A join asks for the most shares that both deposits are enough for, given that the pool takes
the part of each reserve that the shares are of all shares, rounded up.  A deposit of one
asset is swapped in part first.  The shares are counted from the reserves before the swap, and
the pool that they are asked of is the one after it; they can still be paid.
-/

namespace AbstractFramework.Integrations

open AbstractFramework Fallible Sdk Ans Voting Dex PoolShares

/-- The chain reports a pool of equal weights, with two different assets. -/
structure Reports (deps : OsmosisQuerier) (poolId : Nat) (p₀ p₁ : Coin) (total : Nat) : Prop where
  pool : ∃ weight shares, shares.amount = total ∧ deps.pool poolId =
    some { poolAssets := [⟨some p₀, weight⟩, ⟨some p₁, weight⟩], totalShares := some shares }
  differ : p₀.denom ≠ p₁.denom
  stocked₀ : 0 < p₀.amount
  stocked₁ : 0 < p₁.amount
  issued : 0 < total

/-- None of the numbers that the shares are computed from is too large. -/
structure NoOverflow (p₀ p₁ : Coin) (total d₀ d₁ : Nat) : Prop where
  deposit₀ : d₀ < 2 ^ 128
  deposit₁ : d₁ < 2 ^ 128
  reserve₀ : p₀.amount < 2 ^ 128
  reserve₁ : p₁.amount < 2 ^ 128
  shares : total < 2 ^ 128
  paid₀ : paid d₀ total p₀.amount < 2 ^ 128
  paid₁ : paid d₁ total p₁.amount < 2 ^ 128

/-- The message offers the deposits, and asks for the most shares that they are enough for. -/
structure Joins (join : JoinPool) (p₀ p₁ : Coin) (total d₀ d₁ : Nat) : Prop where
  offers : join.tokenInMaxs.Perm [⟨p₀.denom, d₀⟩, ⟨p₁.denom, d₁⟩]
  most : IsGreatest {s | cost p₀.amount total s ≤ d₀ ∧ cost p₁.amount total s ≤ d₁}
    join.shareOutAmount

/-- The two assets of the pool, in either order. -/
def Sides (p₀ p₁ x y : Coin) : Prop := x = p₀ ∧ y = p₁ ∨ x = p₁ ∧ y = p₀

theorem Reports.stocked {deps : OsmosisQuerier} {poolId total : Nat} {p₀ p₁ x y : Coin}
    (reports : Reports deps poolId p₀ p₁ total) (sides : Sides p₀ p₁ x y) : 0 < y.amount := by
  rcases sides with ⟨-, rfl⟩ | ⟨-, rfl⟩
  · exact reports.stocked₁
  · exact reports.stocked₀

theorem NoOverflow.swap {p₀ p₁ : Coin} {total d₀ d₁ : Nat}
    (fits : NoOverflow p₀ p₁ total d₀ d₁) : NoOverflow p₁ p₀ total d₁ d₀ where
  deposit₀ := fits.deposit₁
  deposit₁ := fits.deposit₀
  reserve₀ := fits.reserve₁
  reserve₁ := fits.reserve₀
  shares := fits.shares
  paid₀ := fits.paid₁
  paid₁ := fits.paid₀

theorem Joins.swap {join : JoinPool} {p₀ p₁ : Coin} {total d₀ d₁ : Nat}
    (joins : Joins join p₀ p₁ total d₀ d₁) : Joins join p₁ p₀ total d₁ d₀ where
  offers := joins.offers.trans (.swap _ _ _)
  most := by
    have same : {s | cost p₁.amount total s ≤ d₁ ∧ cost p₀.amount total s ≤ d₀} =
        {s | cost p₀.amount total s ≤ d₀ ∧ cost p₁.amount total s ≤ d₁} := by
      ext s
      exact and_comm
    rw [same]
    exact joins.most

/-- Nothing is promised for the swap that the reserves do not hold, so the shares that are
    counted before it are paid for after it. -/
theorem Joins.payable_after_swap {join : JoinPool} {x y : Coin} {total d returned : Nat}
    (joins : Joins join x y total d returned) (stocked : 0 < y.amount) (issued : 0 < total)
    (promised : returned ≤ swapped d x.amount y.amount) :
    cost (x.amount + d) total join.shareOutAmount ≤ d ∧
      cost (y.amount - returned) total join.shareOutAmount ≤ returned :=
  cost_le_after_swap stocked issued promised ((cost_le_iff stocked issued).mp joins.most.1.2)

namespace Osmosis

variable {self : Osmosis} {deps : OsmosisQuerier} {poolId total : Nat} {p₀ p₁ : Coin}
  {maxSpread : Option Decimal} {join : JoinPool} {offers : List Asset}

/-! ## The message -/

theorem tokenInMaxs_coins (coins : List Coin) :
    tokenInMaxs (coins.map Asset.ofCoin) = .ok (sortCoins coins) := by
  have each : (coins.map Asset.ofCoin).mapM
      (fun asset => (coinTryFrom asset).mapError fun _ => unwrapErr) = .ok coins := by
    rw [mapM_eq_ok, List.forall₂_map_left_iff, List.forall₂_same]
    exact fun _ _ => rfl
  rw [tokenInMaxs, each]
  rfl

theorem find_deposit {tokens : List Coin} {p q : Coin} {d e : Nat}
    (offered : tokens.Perm [⟨p.denom, d⟩, ⟨q.denom, e⟩]) (differ : p.denom ≠ q.denom) :
    tokens.find? (fun coin => coin.denom = p.denom) = some ⟨p.denom, d⟩ := by
  have isOnly : ∀ coin ∈ tokens, coin.denom = p.denom → coin = ⟨p.denom, d⟩ := by
    intro coin listed isDenom
    have either := offered.mem_iff.mp listed
    simp only [List.mem_cons, List.not_mem_nil, or_false] at either
    rcases either with rfl | rfl
    · rfl
    · exact absurd isDenom.symm differ
  cases found : tokens.find? (fun coin => coin.denom = p.denom) with
  | none =>
    have listed := offered.mem_iff.mpr (List.mem_cons_self)
    simpa using List.find?_eq_none.mp found _ listed
  | some coin =>
    have isDenom := List.find?_some found
    exact congrArg some
      (isOnly coin (List.mem_of_find?_eq_some found) (of_decide_eq_true isDenom))

theorem depositOf_eq_ok {tokens : List Coin} {p q : Coin} {d e n : Nat}
    (offered : tokens.Perm [⟨p.denom, d⟩, ⟨q.denom, e⟩]) (differ : p.denom ≠ q.denom) :
    depositOf tokens p = .ok n ↔ d < 2 ^ 128 ∧ n = d := by
  rw [depositOf, find_deposit offered differ, okOr, ok_bind, parseUint128_eq_ok]

/-- The shares are the smaller of what the two deposits pay for. -/
theorem computeOsmoShareOutAmount_eq_ok {d₀ d₁ s : Nat} :
    computeOsmoShareOutAmount p₀ p₁ d₀ d₁ total = .ok s ↔
      (p₀.amount < 2 ^ 128 ∧ p₀.amount ≠ 0 ∧ paid d₀ total p₀.amount < 2 ^ 128) ∧
      (p₁.amount < 2 ^ 128 ∧ p₁.amount ≠ 0 ∧ paid d₁ total p₁.amount < 2 ^ 128) ∧
      min (paid d₀ total p₀.amount) (paid d₁ total p₁.amount) = s := by
  simp only [computeOsmoShareOutAmount, bind_eq_ok, parseUint128_eq_ok, multiplyRatio_eq_ok,
    pure_eq_ok]
  constructor
  · rintro ⟨_, ⟨fits₀, rfl⟩, _, ⟨stocked₀, paid₀, rfl⟩, _, ⟨fits₁, rfl⟩, _, ⟨stocked₁, paid₁, rfl⟩,
      isMin⟩
    exact ⟨⟨fits₀, stocked₀, paid₀⟩, ⟨fits₁, stocked₁, paid₁⟩, isMin⟩
  · rintro ⟨⟨fits₀, stocked₀, paid₀⟩, ⟨fits₁, stocked₁, paid₁⟩, isMin⟩
    exact ⟨_, ⟨fits₀, rfl⟩, _, ⟨stocked₀, paid₀, rfl⟩, _, ⟨fits₁, rfl⟩, _, ⟨stocked₁, paid₁, rfl⟩,
      isMin⟩

theorem joinPool_eq_ok (reports : Reports deps poolId p₀ p₁ total) {tokens : List Coin}
    {d₀ d₁ : Nat} (read : tokenInMaxs offers = .ok tokens)
    (offered : tokens.Perm [⟨p₀.denom, d₀⟩, ⟨p₁.denom, d₁⟩]) :
    joinPool self deps poolId offers maxSpread = .ok join ↔
      NoOverflow p₀ p₁ total d₀ d₁ ∧ assertSlippageTolerance maxSpread d₀ d₁ p₀ p₁ = .ok () ∧
      ∃ sender, self.addrAsSender = some sender ∧
        { sender, poolId, tokenInMaxs := tokens,
          shareOutAmount := min (paid d₀ total p₀.amount) (paid d₁ total p₁.amount) } = join := by
  obtain ⟨weight, shares, isTotal, found⟩ := reports.pool
  have first n : depositOf tokens p₀ = .ok n ↔ d₀ < 2 ^ 128 ∧ n = d₀ :=
    depositOf_eq_ok offered reports.differ
  have second n : depositOf tokens p₁ = .ok n ↔ d₁ < 2 ^ 128 ∧ n = d₁ :=
    depositOf_eq_ok (offered.trans (.swap _ _ _)) reports.differ.symm
  simp only [joinPool, read, queryPoolData, found, okOr_some, ok_bind, List.mapM_cons,
    List.mapM_nil, ensure, if_true, pure_bind]
  simp only [bind_eq_ok, first, second, parseUint128_eq_ok, computeOsmoShareOutAmount_eq_ok,
    okOr_eq_ok, pure_eq_ok, isTotal]
  constructor
  · rintro ⟨_, ⟨deposit₀, rfl⟩, _, ⟨deposit₁, rfl⟩, _, tolerated, _, ⟨issued, rfl⟩, _,
      ⟨⟨reserve₀, -, paid₀⟩, ⟨reserve₁, -, paid₁⟩, rfl⟩, sent⟩
    exact ⟨⟨deposit₀, deposit₁, reserve₀, reserve₁, issued, paid₀, paid₁⟩, tolerated, sent⟩
  · rintro ⟨fits, tolerated, sent⟩
    exact ⟨_, ⟨fits.deposit₀, rfl⟩, _, ⟨fits.deposit₁, rfl⟩, _, tolerated, _, ⟨fits.shares, rfl⟩, _,
      ⟨⟨fits.reserve₀, reports.stocked₀.ne', fits.paid₀⟩,
        ⟨fits.reserve₁, reports.stocked₁.ne', fits.paid₁⟩, rfl⟩, sent⟩

/-- A message that is made joins the pool with the deposits. -/
theorem joinPool_joins (reports : Reports deps poolId p₀ p₁ total) {coins : List Coin} {d₀ d₁ : Nat}
    (offered : coins.Perm [⟨p₀.denom, d₀⟩, ⟨p₁.denom, d₁⟩])
    (ok : joinPool self deps poolId (coins.map Asset.ofCoin) maxSpread = .ok join) :
    join.poolId = poolId ∧ Joins join p₀ p₁ total d₀ d₁ := by
  have sorted := (sortCoins_perm coins).trans offered
  obtain ⟨-, -, sender, -, rfl⟩ :=
    (joinPool_eq_ok reports (tokenInMaxs_coins coins) sorted).mp ok
  exact ⟨rfl, sorted, isGreatest_min_paid reports.stocked₀ reports.stocked₁ reports.issued⟩

/-- The message is made when the numbers fit and no price is asked for. -/
theorem joinPool_isSome (reports : Reports deps poolId p₀ p₁ total) {coins : List Coin} {d₀ d₁ : Nat}
    (offered : coins.Perm [⟨p₀.denom, d₀⟩, ⟨p₁.denom, d₁⟩]) (fits : NoOverflow p₀ p₁ total d₀ d₁)
    {sender : Addr} (sent : self.addrAsSender = some sender) :
    ∃ join, joinPool self deps poolId (coins.map Asset.ofCoin) none = .ok join := by
  have sorted := (sortCoins_perm coins).trans offered
  exact ⟨_, (joinPool_eq_ok reports (tokenInMaxs_coins coins) sorted).mpr
    ⟨fits, rfl, sender, sent, rfl⟩⟩

/-! ## Offers of both assets and of one -/

theorem pair_length {coins : List Coin} {a b : Coin} (pair : coins.Perm [a, b]) :
    (coins.map Asset.ofCoin).length ≤ 2 := by
  rw [List.length_map, pair.length_eq]
  rfl

theorem provideLiquidity_both {coins : List Coin} {d₀ d₁ : Nat} {msgs : List (CosmosMsg OsmosisMsg)}
    (offered : coins.Perm [⟨p₀.denom, d₀⟩, ⟨p₁.denom, d₁⟩]) (some₀ : d₀ ≠ 0) (some₁ : d₁ ≠ 0) :
    provideLiquidity self deps (.Id poolId) (coins.map Asset.ofCoin) maxSpread = .ok msgs ↔
      ∃ join, joinPool self deps poolId (coins.map Asset.ofCoin) maxSpread = .ok join ∧
        [.Other (.Join join)] = msgs := by
  have few := pair_length offered
  have noZero : (coins.map Asset.ofCoin).any (fun asset => asset.amount = 0) = false := by
    rw [List.any_map, offered.any_eq]
    simp [Asset.ofCoin, some₀, some₁]
  simp only [provideLiquidity, noZero, ensure, few, if_true, Bool.false_eq_true, if_false, ok_bind,
    expectId, bind_eq_ok, pure_eq_ok, List.nil_append]

theorem simulateSwap_eq_ok {tokenIn : Coin} {denom : String} {simulated : Simulation} :
    simulateSwap deps (.Id poolId) (Asset.ofCoin tokenIn) (.Native denom) = .ok simulated ↔
      ∃ returned, deps.estimateSwapExactAmountIn poolId tokenIn denom = some returned ∧
        returned < 2 ^ 128 ∧
        { returnAmount := returned, spread := 0, fee := 0, feeOnInput := false } = simulated := by
  simp only [simulateSwap, expectId, nativeDenom, toCoin, Asset.ofCoin, coinTryFrom,
    Except.mapError, ok_bind, bind_eq_ok, okOr_eq_ok, parseUint128_eq_ok, pure_eq_ok]
  constructor
  · rintro ⟨_, isReturned, _, ⟨fits, rfl⟩, isSimulated⟩
    exact ⟨_, isReturned, fits, isSimulated⟩
  · rintro ⟨returned, isReturned, fits, isSimulated⟩
    exact ⟨returned, isReturned, _, ⟨fits, rfl⟩, isSimulated⟩

theorem swap_eq_ok {tokenIn : Coin} {denom : String} {msgs : List (CosmosMsg OsmosisMsg)} :
    self.swap (.Id poolId) (Asset.ofCoin tokenIn) (.Native denom) = .ok msgs ↔
      ∃ sender, self.addrAsSender = some sender ∧
        [.Other (.SwapExactAmountIn sender [⟨poolId, denom⟩] tokenIn 1)] = msgs := by
  simp only [Osmosis.swap, expectId, nativeDenom, toCoin, Asset.ofCoin, coinTryFrom, sender,
    Except.mapError, ok_bind, bind_eq_ok, okOr_eq_ok, pure_eq_ok]

theorem provideLiquidity_one {coins : List Coin} {x y : Coin} {offered : Nat}
    {msgs : List (CosmosMsg OsmosisMsg)}
    (pair : coins.Perm [⟨x.denom, offered⟩, ⟨y.denom, 0⟩]) (some_offered : offered ≠ 0) :
    provideLiquidity self deps (.Id poolId) (coins.map Asset.ofCoin) maxSpread = .ok msgs ↔
      ∃ returned sender join,
        deps.estimateSwapExactAmountIn poolId ⟨x.denom, offered / 2⟩ y.denom = some returned ∧
        returned < 2 ^ 128 ∧ self.addrAsSender = some sender ∧
        joinPool self deps poolId
          ([⟨x.denom, offered / 2⟩, ⟨y.denom, returned⟩].map Asset.ofCoin) maxSpread = .ok join ∧
        [.Other (.SwapExactAmountIn sender [⟨poolId, y.denom⟩] ⟨x.denom, offered / 2⟩ 1),
          .Other (.Join join)] = msgs := by
  have few := pair_length pair
  have someZero : (coins.map Asset.ofCoin).any (fun asset => asset.amount = 0) = true := by
    rw [List.any_map, pair.any_eq]
    simp [Asset.ofCoin]
  have half : swapHalf (simulateSwap deps (.Id poolId)) (self.swap (.Id poolId))
      (coins.map Asset.ofCoin) = do
        let simulated ← simulateSwap deps (.Id poolId) (Asset.ofCoin ⟨x.denom, offered / 2⟩)
          (.Native y.denom)
        let swapMsg ← self.swap (.Id poolId) (Asset.ofCoin ⟨x.denom, offered / 2⟩) (.Native y.denom)
        return (swapMsg, [Asset.ofCoin ⟨x.denom, offered / 2⟩,
          Asset.ofCoin ⟨y.denom, simulated.returnAmount⟩]) :=
    swapHalf_of_perm (pair.map Asset.ofCoin) some_offered
  simp only [provideLiquidity, someZero, ensure, few, if_true, ok_bind, half, expectId, bind_eq_ok,
    simulateSwap_eq_ok, swap_eq_ok, pure_eq_ok]
  constructor
  · rintro ⟨_, ⟨_, ⟨returned, estimated, fits, rfl⟩, _, ⟨sender, sent, rfl⟩, rfl⟩, join, joined, rfl⟩
    exact ⟨returned, sender, join, estimated, fits, sent, joined, rfl⟩
  · rintro ⟨returned, sender, join, estimated, fits, sent, joined, rfl⟩
    exact ⟨_, ⟨_, ⟨returned, estimated, fits, rfl⟩, _, ⟨sender, sent, rfl⟩, rfl⟩, join, joined, rfl⟩

theorem joinPool_joins_sides (reports : Reports deps poolId p₀ p₁ total) {x y : Coin} {d e : Nat}
    (sides : Sides p₀ p₁ x y)
    (ok : joinPool self deps poolId ([⟨x.denom, d⟩, ⟨y.denom, e⟩].map Asset.ofCoin) maxSpread =
      .ok join) :
    join.poolId = poolId ∧ Joins join x y total d e := by
  rcases sides with ⟨rfl, rfl⟩ | ⟨rfl, rfl⟩
  · exact joinPool_joins reports (.refl _) ok
  · exact (joinPool_joins reports (.swap _ _ _) ok).imp_right Joins.swap

theorem joinPool_isSome_sides (reports : Reports deps poolId p₀ p₁ total) {x y : Coin} {d e : Nat}
    (sides : Sides p₀ p₁ x y) (fits : NoOverflow x y total d e) {sender : Addr}
    (sent : self.addrAsSender = some sender) :
    ∃ join, joinPool self deps poolId ([⟨x.denom, d⟩, ⟨y.denom, e⟩].map Asset.ofCoin) none =
      .ok join := by
  rcases sides with ⟨rfl, rfl⟩ | ⟨rfl, rfl⟩
  · exact joinPool_isSome reports (.refl _) fits sent
  · exact joinPool_isSome reports (.swap _ _ _) fits.swap sent

/-- The liquidity that is provided takes the most shares, and can be paid.  A deposit of one
    asset is assigned up to one unit, and still pays for its shares after the swap. -/
theorem provided_liquidity_payable (self : Osmosis) (reports : Reports deps poolId p₀ p₁ total) :
    -- an offer of both assets
    (∀ (d₀ d₁ : Nat) (coins : List Coin), d₀ ≠ 0 → d₁ ≠ 0 →
      coins.Perm [⟨p₀.denom, d₀⟩, ⟨p₁.denom, d₁⟩] →
      (∀ maxSpread msgs,
        provideLiquidity self deps (.Id poolId) (coins.map Asset.ofCoin) maxSpread = .ok msgs →
        ∃ join, msgs = [.Other (.Join join)] ∧ join.poolId = poolId ∧
          Joins join p₀ p₁ total d₀ d₁) ∧
      (self.addrAsSender ≠ none → NoOverflow p₀ p₁ total d₀ d₁ →
        ∃ msgs, provideLiquidity self deps (.Id poolId) (coins.map Asset.ofCoin) none = .ok msgs)) ∧
    -- an offer of one of them
    (∀ (x y : Coin) (offered : Nat) (coins : List Coin), Sides p₀ p₁ x y →
      2 ≤ offered → coins.Perm [⟨x.denom, offered⟩, ⟨y.denom, 0⟩] →
      (∀ maxSpread msgs,
        provideLiquidity self deps (.Id poolId) (coins.map Asset.ofCoin) maxSpread = .ok msgs →
        ∃ returned sender join,
          deps.estimateSwapExactAmountIn poolId ⟨x.denom, offered / 2⟩ y.denom = some returned ∧
          msgs = [.Other (.SwapExactAmountIn sender [⟨poolId, y.denom⟩] ⟨x.denom, offered / 2⟩ 1),
            .Other (.Join join)] ∧
          self.addrAsSender = some sender ∧ join.poolId = poolId ∧
          Joins join x y total (offered / 2) returned ∧
          offered / 2 + offered / 2 ≤ offered ∧ offered ≤ offered / 2 + offered / 2 + 1 ∧
          (returned ≤ swapped (offered / 2) x.amount y.amount →
            cost (x.amount + offered / 2) total join.shareOutAmount ≤ offered / 2 ∧
            cost (y.amount - returned) total join.shareOutAmount ≤ returned)) ∧
      (∀ returned, self.addrAsSender ≠ none →
        deps.estimateSwapExactAmountIn poolId ⟨x.denom, offered / 2⟩ y.denom = some returned →
        NoOverflow x y total (offered / 2) returned →
        ∃ msgs, provideLiquidity self deps (.Id poolId) (coins.map Asset.ofCoin) none = .ok msgs)) := by
  constructor
  · intro d₀ d₁ coins some₀ some₁ offered
    constructor
    · intro maxSpread msgs ok
      obtain ⟨join, joined, rfl⟩ := (provideLiquidity_both offered some₀ some₁).mp ok
      exact ⟨join, rfl, joinPool_joins reports offered joined⟩
    · intro sent fits
      obtain ⟨sender, sent⟩ := Option.ne_none_iff_exists'.mp sent
      obtain ⟨join, joined⟩ := joinPool_isSome reports offered fits sent
      exact ⟨_, (provideLiquidity_both offered some₀ some₁).mpr ⟨join, joined, rfl⟩⟩
  · intro x y offered coins sides two pair
    have some_offered : offered ≠ 0 := by omega
    constructor
    · intro maxSpread msgs ok
      obtain ⟨returned, sender, join, estimated, -, sent, joined, rfl⟩ :=
        (provideLiquidity_one pair some_offered).mp ok
      obtain ⟨isPool, joins⟩ := joinPool_joins_sides reports sides joined
      exact ⟨returned, sender, join, estimated, rfl, sent, isPool, joins, by omega, by omega,
        joins.payable_after_swap (reports.stocked sides) reports.issued⟩
    · intro returned sent estimated fits
      obtain ⟨sender, sent⟩ := Option.ne_none_iff_exists'.mp sent
      obtain ⟨join, joined⟩ := joinPool_isSome_sides reports sides fits sent
      exact ⟨_, (provideLiquidity_one pair some_offered).mpr
        ⟨returned, sender, join, estimated, fits.deposit₁, sent, joined, rfl⟩⟩

/-- A chain with one pool, which keeps the product of its reserves. -/
def onePool : OsmosisQuerier where
  estimateSwapExactAmountIn _ tokenIn _ := some (swapped tokenIn.amount 1000 2000)
  pool _ := some { poolAssets := [⟨some ⟨"uatom", 1000⟩, "1"⟩, ⟨some ⟨"uosmo", 2000⟩, "1"⟩],
                   totalShares := some ⟨"gamm/pool/1", 500⟩ }

theorem onePool_reports : Reports onePool 1 ⟨"uatom", 1000⟩ ⟨"uosmo", 2000⟩ 500 where
  pool := ⟨"1", ⟨"gamm/pool/1", 500⟩, rfl, rfl⟩
  differ := by decide
  stocked₀ := by decide
  stocked₁ := by decide
  issued := by decide

theorem provided_liquidity_payable_atom : ∃ join,
    provideLiquidity (fetchData ⟨"osmo1account"⟩) onePool (.Id 1)
      [⟨.Native "uatom", 101⟩, ⟨.Native "uosmo", 0⟩] none =
      .ok [.Other (.SwapExactAmountIn ⟨"osmo1account"⟩ [⟨1, "uosmo"⟩] ⟨"uatom", 50⟩ 1),
        .Other (.Join join)] ∧
    cost 1050 500 join.shareOutAmount ≤ 50 ∧ cost 1905 500 join.shareOutAmount ≤ 95 := by
  have fits : NoOverflow ⟨"uatom", 1000⟩ ⟨"uosmo", 2000⟩ 500 50 95 := by
    constructor <;> decide
  obtain ⟨provides, succeeds⟩ :=
    (provided_liquidity_payable (fetchData ⟨"osmo1account"⟩) onePool_reports).2 ⟨"uatom", 1000⟩
    ⟨"uosmo", 2000⟩ 101 [⟨"uatom", 101⟩, ⟨"uosmo", 0⟩] (.inl ⟨rfl, rfl⟩) (by decide) (.refl _)
  obtain ⟨msgs, ok⟩ := succeeds 95 (by decide) rfl fits
  obtain ⟨returned, sender, join, estimated, isMsgs, sent, -, -, -, -, payable⟩ :=
    provides none msgs ok
  cases estimated
  cases sent
  exact ⟨join, ok.trans (congrArg Except.ok isMsgs), payable (Nat.le_refl _)⟩

end Osmosis

end AbstractFramework.Integrations
