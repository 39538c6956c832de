import AbstractFramework.Integrations.Astrovault

/-! # Deposits in a stable pool of Astrovault

A deposit names an amount for each asset of the pool, and comes with coins and allowances that
are made of the same offer.  They agree: what is offered of an asset stands at its place, and the
pool can take just that.
-/

namespace AbstractFramework.Integrations

open AbstractFramework Fallible Sdk Ans Voting Dex Alignment

/-- What is offered of an asset of the pool. -/
def offeredOf (offers : List Asset) (item : AstrovaultAssetInfo) : Nat :=
  ((offers.filter fun asset => cwAssetInfoToAstrovault asset.info = item).map Asset.amount).sum

/-- Each place has what is offered of the asset of the pool that it is for. -/
structure Books (offers : List Asset) (order : List AstrovaultAssetInfo) (amounts : List Nat) :
    Prop where
  places : amounts.length = order.length
  offered : ∀ (i : Nat), ∀ asset ∈ offers, order[i]? = some (cwAssetInfoToAstrovault asset.info) →
    amounts[i]? = some asset.amount
  notOffered : ∀ (i : Nat) (item : AstrovaultAssetInfo), order[i]? = some item →
    (∀ asset ∈ offers, cwAssetInfoToAstrovault asset.info ≠ item) → amounts[i]? = some 0

/-- The pool may take exactly the tokens that are offered. -/
structure Approves (pairAddress : Addr) (offers : List Asset) (approvals : List IncreaseAllowance) :
    Prop where
  offered : ∀ approval, approval ∈ approvals ↔
    approval.spender = pairAddress ∧ ⟨.Cw20 approval.contractAddr, approval.amount⟩ ∈ offers
  once : (approvals.map IncreaseAllowance.contractAddr).Nodup

/-- Exactly the coins that are offered, in the order of their denoms and without zero amounts. -/
structure Funds (offers : List Asset) (coins : List Coin) : Prop where
  offered : ∀ coin, coin ∈ coins ↔ coin.amount ≠ 0 ∧ Asset.ofCoin coin ∈ offers
  sorted : coins.Pairwise fun a b => strBytes a.denom < strBytes b.denom

theorem cwAssetInfoToAstrovault_injective : Function.Injective cwAssetInfoToAstrovault := by
  intro a b same
  cases a with
  | Native denom =>
    cases b with
    | Native denom' => cases same; rfl
    | Cw20 token => cases same
  | Cw20 token =>
    cases b with
    | Native denom => cases same
    | Cw20 token' =>
      cases token
      cases token'
      cases same
      rfl

theorem books_offeredOf {offers : List Asset} {order : List AstrovaultAssetInfo}
    (differ : (offers.map Asset.info).Nodup) : Books offers order (order.map (offeredOf offers)) where
  places := List.length_map _
  offered i asset listed place := by
    have infos := differ.map cwAssetInfoToAstrovault_injective
    rw [List.map_map] at infos
    rw [List.getElem?_map, place, Option.map_some]
    exact congrArg some (weightAt_of_mem infos listed)
  notOffered i item place none_offered := by
    rw [List.getElem?_map, place, Option.map_some]
    exact congrArg some (weightAt_eq_zero none_offered)

theorem approves_cwApproveMsgs {pairAddress : Addr} {offers : List Asset}
    (differ : (offers.map Asset.info).Nodup) :
    Approves pairAddress offers (cwApproveMsgs offers pairAddress) where
  offered _ := mem_cwApproveMsgs
  once := cwApproveMsgs_nodup differ

namespace Astrovault

variable {deps : AstrovaultQuerier} {pairAddress : Addr} {order : List AstrovaultAssetInfo}
  {offers : List Asset} {maxSpread : Option Decimal} {isXasset : Bool}

theorem funds_retainNonZero (differ : (offers.map Asset.info).Nodup) :
    Funds offers (retainNonZero (coinsInAssets offers)) where
  offered coin := by
    rw [retainNonZero, List.mem_filter, mem_coinsInAssets, decide_eq_true_eq, and_comm]
  sorted := (coinsInAssets_ascending differ).filter _

/-! ## The order of the pool -/

theorem normalizeOrder_eq_ok {assets resulting : List AstrovaultAsset} :
    astrovaultAssetsNormalizeOrder assets order = .ok resulting ↔
      (align AstrovaultAsset.info notFound order assets).2 = [] ∧
      (align AstrovaultAsset.info notFound order assets).1 = resulting := by
  unfold astrovaultAssetsNormalizeOrder
  cases rest : (align AstrovaultAsset.info notFound order assets).2 with
  | nil => simp [rest]
  | cons asset assets' => simp [rest]

/-- What is offered is brought into order when it is of different assets of the pool. -/
theorem normalized_offers (distinct : order.Nodup) :
    (align AstrovaultAsset.info notFound order (offers.map cwAssetToAstrovault)).2 = [] ↔
      (offers.map Asset.info).Nodup ∧ ∀ asset ∈ offers, cwAssetInfoToAstrovault asset.info ∈ order := by
  have infos : (offers.map cwAssetToAstrovault).map AstrovaultAsset.info =
      (offers.map Asset.info).map cwAssetInfoToAstrovault := by
    simp [cwAssetToAstrovault]
  rw [align_nothing_left distinct, infos,
    List.nodup_map_iff cwAssetInfoToAstrovault_injective, List.forall_mem_map]
  rfl

theorem normalized_amounts (distinct : order.Nodup)
    (nothing : (align AstrovaultAsset.info notFound order (offers.map cwAssetToAstrovault)).2 = []) :
    (align AstrovaultAsset.info notFound order (offers.map cwAssetToAstrovault)).1.map
      AstrovaultAsset.amount = order.map (offeredOf offers) := by
  have weightless : ∀ item, (notFound item).amount = 0 := fun _ => rfl
  rw [align_weights weightless distinct nothing]
  refine List.map_congr_left fun item _ => ?_
  rw [weightAt, offeredOf, List.filter_map, List.map_map]
  rfl

/-! ## The deposit -/

theorem liquidityMsg_stable_eq_ok {msg : AstrovaultMsg}
    (info : deps.poolInfo pairAddress = .ok order) (distinct : order.Nodup) :
    liquidityMsg deps (.Stable isXasset) pairAddress offers maxSpread = .ok msg ↔
      ((offers.map Asset.info).Nodup ∧
        ∀ asset ∈ offers, cwAssetInfoToAstrovault asset.info ∈ order) ∧
      .Execute pairAddress (.DepositStable (order.map (offeredOf offers)))
        (retainNonZero (coinsInAssets offers)) = msg := by
  simp only [liquidityMsg, normalized, query, info, Except.mapError, ok_bind, bind_eq_ok,
    normalizeOrder_eq_ok, pure_eq_ok, ← normalized_offers distinct]
  constructor
  · rintro ⟨_, ⟨nothing, rfl⟩, isMsg⟩
    rw [normalized_amounts distinct nothing] at isMsg
    exact ⟨nothing, isMsg⟩
  · rintro ⟨nothing, isMsg⟩
    rw [← normalized_amounts distinct nothing] at isMsg
    exact ⟨_, ⟨nothing, rfl⟩, isMsg⟩

theorem provideLiquidity_stable_eq_ok
    (stable : fetchPoolType deps pairAddress = .ok (.Stable isXasset))
    (info : deps.poolInfo pairAddress = .ok order) (distinct : order.Nodup)
    (few : offers.length ≤ 2) (maxSpread : Option Decimal)
    (msgs : List (CosmosMsg AstrovaultMsg)) :
    provideLiquidity deps (.Contract pairAddress) offers maxSpread = .ok msgs ↔
      ((offers.map Asset.info).Nodup ∧
        ∀ asset ∈ offers, cwAssetInfoToAstrovault asset.info ∈ order) ∧
      (cwApproveMsgs offers pairAddress).map (fun msg => .Other (.Approve msg)) ++
        [.Other (.Execute pairAddress (.DepositStable (order.map (offeredOf offers)))
          (retainNonZero (coinsInAssets offers)))] = msgs := by
  have notStandard : ¬ ((AstrovaultPoolType.Stable isXasset = .Standard) ∧
      (offers.any fun asset => asset.amount = 0) = true) := by
    rintro ⟨⟨⟩, -⟩
  simp only [provideLiquidity, expectContract, stable, ensure, few, if_true, notStandard, if_false,
    ok_bind, bind_eq_ok, liquidityMsg_stable_eq_ok info distinct, pure_eq_ok, List.nil_append]
  constructor
  · rintro ⟨_, ⟨among, rfl⟩, isMsgs⟩
    exact ⟨among, isMsgs⟩
  · rintro ⟨among, isMsgs⟩
    exact ⟨_, ⟨among, rfl⟩, isMsgs⟩

/-- A deposit of two assets in a stable pool is made exactly when they are different assets of
    the pool.  It books each of them at the place of its asset, and the pool is given just what
    is offered. -/
theorem stable_deposit_matches
    (stable : fetchPoolType deps pairAddress = .ok (.Stable isXasset))
    (info : deps.poolInfo pairAddress = .ok order) (distinct : order.Nodup)
    (two : offers.length = 2) :
    ((∃ msgs, provideLiquidity deps (.Contract pairAddress) offers maxSpread = .ok msgs) ↔
      (offers.map Asset.info).Nodup ∧
        ∀ asset ∈ offers, cwAssetInfoToAstrovault asset.info ∈ order) ∧
    ∀ msgs, provideLiquidity deps (.Contract pairAddress) offers maxSpread = .ok msgs →
      ∃ approvals amounts funds,
        msgs = approvals.map (fun msg => .Other (.Approve msg)) ++
          [.Other (.Execute pairAddress (.DepositStable amounts) funds)] ∧
        Books offers order amounts ∧ Approves pairAddress offers approvals ∧ Funds offers funds := by
  have deposits := provideLiquidity_stable_eq_ok stable info distinct two.le maxSpread
  constructor
  · constructor
    · rintro ⟨msgs, ok⟩
      exact ((deposits msgs).mp ok).1
    · intro among
      exact ⟨_, (deposits _).mpr ⟨among, rfl⟩⟩
  · intro msgs ok
    obtain ⟨⟨differ, -⟩, rfl⟩ := (deposits msgs).mp ok
    exact ⟨_, _, _, rfl, books_offeredOf differ, approves_cwApproveMsgs differ,
      funds_retainNonZero differ⟩

/-- A chain with one stable pool, of three assets. -/
def oneStablePool : AstrovaultQuerier where
  config _ := .ok { factory := STABLE_POOL_FACTORY, poolSettings := some { xassetModeMinter := none } }
  poolInfo _ := .ok [.NativeToken "uusdc", .Token "archway1token", .NativeToken "aarch"]
  simulation _ _ := .error (.msg "not a standard pool")
  swapSimulationStable _ amount _ _ := .ok [0, amount]
  swapSimulationRatio _ _ _ := .error (.msg "not a ratio pool")

theorem stable_deposit_matches_arch : ∃ msgs,
    provideLiquidity oneStablePool (.Contract ⟨"archway1pool"⟩)
      [⟨.Native "aarch", 7⟩, ⟨.Cw20 ⟨"archway1token"⟩, 5⟩] none = .ok msgs :=
  (stable_deposit_matches rfl rfl (by decide) rfl).1.mpr
    ⟨by decide, by decide⟩

end Astrovault

end AbstractFramework.Integrations
