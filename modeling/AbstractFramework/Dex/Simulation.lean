import AbstractFramework.Dex.Handlers
import AbstractFramework.Dex.Resolution

/-! # Simulating a swap

Execution and the messages that are made for others resolve an action in common.  A simulation
takes the name of the dex, the fee and the commission into its own hands: the fee comes out the
same, the other two do not.
-/

namespace AbstractFramework.Dex.Handlers

open AbstractFramework Fallible Sdk Ans Platforms Voting

/-! ## What each handler does -/

section Agreement

variable {X E M : Type} (commands : DexCommand X E M) (deps : DexDeps X) {fees : DexFees}
  {dex localName : DexName} {exchange : X}

/-- The adapter acts on the dex itself: under its name here, with its exchange. -/
def ActsOn (dex localName : DexName) (exchange : X) : Prop :=
  isOverIbc deps.isLocal deps.chainId dex = .ok (localName, false) ∧
    resolveExchange deps.features localName = .ok exchange

/-- A swap of checked assets on a checked pool. -/
structure Swap where
  pool : PoolAddress
  offerAsset : Asset
  askAsset : AssetInfo

/-- The swap with another amount of the offered asset. -/
def Swap.offered (swap : Swap) (amount : Nat) : Asset := { swap.offerAsset with amount }

/-- The asset that execution leaves to the exchange. -/
def Swap.charged (fees : DexFees) (swap : Swap) : Asset :=
  (chargeUsageFee swap.offerAsset { fee := fees.swapFee, recipient := fees.recipient }).1

/-- The unchecked swap is this one. -/
def ChecksTo (pool : UncheckedPoolAddress) (offerAsset : AssetUnchecked)
    (askAsset : AssetInfoUnchecked) (swap : Swap) : Prop :=
  pool.check deps.addrValidate = .ok swap.pool ∧
    offerAsset.check deps.addrValidate = .ok swap.offerAsset ∧
    askAsset.check deps.addrValidate = .ok swap.askAsset

/-- The named swap is this one, on the pool that the name service has for the dex. -/
def NamesTo (localName : DexName) (offerAsset : AnsAsset) (askAsset : AssetEntry) (swap : Swap) :
    Prop :=
  ∃ ans, deps.ansHost = some ans ∧ ans.resolveAnsAsset offerAsset = .ok swap.offerAsset ∧
    ans.queryAsset askAsset = .ok swap.askAsset ∧
    poolAddress ans localName (offerAsset.name, askAsset) = .ok swap.pool

/-- What the exchange simulates of the swap as execution offers it. -/
def Simulates (fees : DexFees) (exchange : X) (swap : Swap) (simulation : Simulation) : Prop :=
  commands.simulateSwap exchange swap.pool (swap.charged fees) swap.askAsset = .ok simulation

/-- Executing the swap makes the account run the messages. -/
def SwapRuns (dex : DexName) (swap : Swap) (maxSpread beliefPrice : Option Decimal)
    (account : Addr) (msgs : List (CosmosMsg M)) : Prop :=
  ∃ pool offerAsset askAsset, ChecksTo deps pool offerAsset askAsset swap ∧
    executeHandler commands deps (.Action dex (.Swap pool offerAsset askAsset maxSpread beliefPrice)) =
      .ok (.Requested (.Handled { account, msgs }))

/-- Executing the swap emits a transfer of the fee, if it is not zero, and offers the rest to
    the exchange. -/
structure SwapsFor (fees : DexFees) (dex : DexName) (exchange : X) (swap : Swap)
    (usageFee offered : Nat) : Prop where
  adds_up : usageFee + offered = swap.offerAsset.amount
  emitted : ∀ {maxSpread beliefPrice account msgs},
    SwapRuns commands deps dex swap maxSpread beliefPrice account msgs →
      ∃ fetched swapMsgs,
        fetchData commands deps exchange account = .ok fetched ∧
        commands.swap fetched swap.pool (swap.offered offered) swap.askAsset beliefPrice maxSpread =
          .ok swapMsgs ∧
        msgs = swapMsgs ++
          ((feeTransfer swap.offerAsset.info usageFee fees.recipient).map CosmosMsg.Transfer).toList

/-- The response quotes what the exchange simulates of the amount that execution offers, and
    the fee that execution emits. -/
def Quotes {A : Type} (fees : DexFees) (dex : DexName) (exchange : X) (swap : Swap)
    (simulation : Simulation) (response : SimulateSwapResponse A) : Prop :=
  ∃ offered, SwapsFor commands deps fees dex exchange swap response.usageFee offered ∧
    commands.simulateSwap exchange swap.pool (swap.offered offered) swap.askAsset =
      .ok simulation ∧
    response.returnAmount = simulation.returnAmount ∧
    response.spreadAmount = simulation.spread ∧
    response.commission.2 = simulation.fee

/-- The answer to a simulation quotes the swap, and the commission is one on the offered asset
    iff the exchange takes its fee on the input. -/
def Answers {A : Type} (fees : DexFees) (dex : DexName) (exchange : X) (swap : Swap)
    (simulation : Simulation) (offerAsset : A) (msg : DexQueryMsg)
    (respond : SimulateSwapResponse A → DexQueryResponse M) : Prop :=
  ∃ response, queryHandler commands deps msg = .ok (respond response) ∧
    Quotes commands deps fees dex exchange swap simulation response ∧
    (response.commission.1 = offerAsset ↔ simulation.feeOnInput = true)

variable {commands deps}

theorem Swap.charged_eq {swap : Swap} :
    swap.charged fees =
      swap.offered (swap.offerAsset.amount - fees.swapFee.compute swap.offerAsset.amount) := by
  rw [Swap.charged, chargeUsageFee_eq]
  rfl

theorem chargeSwap_eq (stored : deps.dexFees = some fees) {offerAsset : Asset} :
    (chargeSwap deps offerAsset : Except (ActionError E) _) =
      .ok (chargeUsageFee offerAsset { fee := fees.swapFee, recipient := fees.recipient }) := by
  simp [chargeSwap, loadFees, stored, okOr, ok_bind, DexFees.swapUsageFee_eq, Except.mapError, pure,
    Except.pure]

theorem isOverIbc_eq :
    Platforms.isOverIbc (actionAdapter E) deps.isLocal deps.chainId dex =
      (isOverIbc deps.isLocal deps.chainId dex).mapError ActionError.Request :=
  isOverIbc_mapError

/-- Execution and the messages differ only in who sends them. -/
theorem generateMessages_eq_ok (here : ActsOn deps dex localName exchange) {action : DexAction}
    {addrAsSender : String} {sender : Addr} (valid : deps.addrValidate addrAsSender = .ok sender)
    {msgs : List (CosmosMsg M)} :
    generateMessages commands deps dex action addrAsSender = .ok msgs ↔
      ∃ replyId, DexAdapter.resolveDexAction commands deps sender action exchange =
        .ok (msgs, replyId) := by
  simp only [generateMessages, isOverIbc_eq, here.1, here.2, valid, Except.mapError, ok_bind, ensure,
    if_true, bind_eq_ok, pure_eq_ok]
  constructor
  · rintro ⟨⟨_, replyId⟩, resolved, rfl⟩
    exact ⟨replyId, resolved⟩
  · rintro ⟨replyId, resolved⟩
    exact ⟨(msgs, replyId), resolved, rfl⟩

theorem account_eq_ok {target : Addr} :
    (account deps : Except (ActionError E) Addr) = .ok target ↔ deps.targetAccount = some target :=
  okOr_eq_ok

theorem executeHandler_eq_ok (here : ActsOn deps dex localName exchange) {action : DexAction}
    {target : Addr} {msgs : List (CosmosMsg M)} :
    executeHandler commands deps (.Action dex action) =
        .ok (.Requested (.Handled { account := target, msgs })) ↔
      deps.targetAccount = some target ∧
        ∃ replyId, DexAdapter.resolveDexAction commands deps target action exchange =
          .ok (msgs, replyId) := by
  have overIbc : Platforms.isOverIbc (actionAdapter E) deps.isLocal deps.chainId dex =
      .ok (localName, false) := by
    rw [isOverIbc_eq, here.1]
    rfl
  simp only [executeHandler, executeHandler_here overIbc, map_eq_ok, DexResponse.Requested.injEq,
    handleLocalRequest, executorExecute, here.2, Except.mapError, ok_bind, bind_eq_ok,
    account_eq_ok, pure_eq_ok]
  constructor
  · rintro ⟨_, ⟨_, ⟨account, found, ⟨_, replyId⟩, resolved, _, same, rfl⟩, rfl⟩, response⟩
    obtain rfl := Option.some.inj (found.symm.trans same)
    cases response
    exact ⟨found, replyId, resolved⟩
  · rintro ⟨found, replyId, resolved⟩
    exact ⟨_, ⟨_, ⟨target, found, (msgs, replyId), resolved, target, found, rfl⟩, rfl⟩, rfl⟩

/-- The messages that are made for the account are those that it runs. -/
theorem generateMessages_iff_executes (here : ActsOn deps dex localName exchange)
    {action : DexAction} {addrAsSender : String} {account : Addr}
    (target : deps.targetAccount = some account)
    (sender : deps.addrValidate addrAsSender = .ok account) {msgs : List (CosmosMsg M)} :
    queryHandler commands deps (.GenerateMessages (.Action dex action) addrAsSender) =
        .ok (.GenerateMessages msgs) ↔
      executeHandler commands deps (.Action dex action) =
        .ok (.Requested (.Handled { account, msgs })) := by
  rw [executeHandler_eq_ok here, ← generateMessages_eq_ok here sender]
  simp [queryHandler, map_eq_ok, target]

/-- A swap that runs took the fee off its amount before the exchange saw it. -/
theorem swapsFor_charged (stored : deps.dexFees = some fees)
    (here : ActsOn deps dex localName exchange) (swap : Swap) :
    SwapsFor commands deps fees dex exchange swap
      (fees.swapFee.compute swap.offerAsset.amount)
      (swap.offerAsset.amount - fees.swapFee.compute swap.offerAsset.amount) where
  adds_up := Nat.add_sub_cancel' Fee.compute_le
  emitted := by
    rintro maxSpread beliefPrice account msgs ⟨pool, offerAsset, askAsset, ⟨pooled, offers, asks⟩, ran⟩
    obtain ⟨-, replyId, resolved⟩ := (executeHandler_eq_ok here).mp ran
    simp only [DexAdapter.resolveDexAction, DexAdapter.resolveSwap, checkPool, checkAsset, checkInfo,
      pooled, offers, asks, chargeSwap_eq stored, chargeUsageFee_eq, bind_eq_ok, mapError_eq_ok,
      pure_eq_ok, Except.ok.injEq, exists_eq_left', Prod.mk.injEq] at resolved
    obtain ⟨_, ⟨fetched, fetches, swapMsgs, swapped, rfl⟩, rfl, -⟩ := resolved
    exact ⟨fetched, swapMsgs, fetches, swapped, rfl⟩

/-! ## Simulations -/

/-- What a simulation of the exchange becomes. -/
def quote (commands : DexCommand X E M) (fees : DexFees) (exchange : X) (swap : Swap)
    (simulation : Simulation) : SimulateSwapResponse AssetInfoUnchecked where
  pool := Pairing.new (uncheckedInfo swap.offerAsset.info) (uncheckedInfo swap.askAsset)
    (commands.name exchange)
  returnAmount := simulation.returnAmount
  spreadAmount := simulation.spread
  commission :=
    (uncheckedInfo (if simulation.feeOnInput then swap.askAsset else swap.offerAsset.info),
      simulation.fee)
  usageFee := fees.swapFee.compute swap.offerAsset.amount

/-- A plain name is the name of the dex here. -/
theorem actsOn_plain (here : ActsOn deps dex localName exchange) (plain : '>' ∉ dex.toList) :
    localName = dex := by
  rw [isOverIbc_localName here.1, decomposePlatformName_plain plain]

theorem actsOn_resolves (here : ActsOn deps dex localName exchange) :
    (∃ found, resolveExchange deps.features dex = .ok found) ↔ '>' ∉ dex.toList := by
  constructor
  · rintro ⟨found, resolved⟩
    exact resolveExchange_plain resolved
  · intro plain
    exact ⟨exchange, actsOn_plain here plain ▸ here.2⟩

theorem actsOn_exchange (here : ActsOn deps dex localName exchange) {found : X}
    (resolved : resolveExchange deps.features dex = .ok found) : found = exchange := by
  have same := actsOn_plain here (resolveExchange_plain resolved)
  exact Except.ok.inj (resolved.symm.trans (same ▸ here.2))

theorem simulateSwap_plain {pool : PoolAddress} {offerAsset : Asset} {askAsset : AssetInfo}
    {response : SimulateSwapResponse AssetInfoUnchecked}
    (h : simulateSwap commands deps dex pool offerAsset askAsset = .ok response) :
    '>' ∉ dex.toList := by
  simp only [simulateSwap, bind_eq_ok, mapError_eq_ok] at h
  obtain ⟨found, resolved, -⟩ := h
  exact resolveExchange_plain resolved

/-- The answer to a simulation by names. -/
def nameQuote (offerName askName : AssetEntry) (swap : Swap)
    (simulated : SimulateSwapResponse AssetInfoUnchecked) (dex : DexName) :
    SimulateSwapResponse AssetEntry where
  pool := Pairing.new offerName askName dex
  returnAmount := simulated.returnAmount
  spreadAmount := simulated.spreadAmount
  commission :=
    if simulated.commission.1 = uncheckedInfo swap.askAsset then (askName, simulated.commission.2)
    else (offerName, simulated.commission.2)
  usageFee := simulated.usageFee

theorem nameQuote_commission {offerName askName : AssetEntry} {swap : Swap}
    {simulation : Simulation} :
    (nameQuote offerName askName swap (quote commands fees exchange swap simulation)
        dex).commission =
      (if (if simulation.feeOnInput then swap.askAsset else swap.offerAsset.info) = swap.askAsset
        then askName else offerName, simulation.fee) := by
  simp only [nameQuote, quote, uncheckedInfo_inj]
  generalize (if simulation.feeOnInput then swap.askAsset else swap.offerAsset.info) = paid
  by_cases asked : paid = swap.askAsset
  · simp [asked]
  · simp [asked]

/-- The commission goes by the wrong asset, unless there is only one. -/
theorem commission_iff {offer ask : AssetInfo} {onInput : Bool} :
    ((if onInput then ask else offer) = offer ↔ onInput = true) ↔
      offer = ask ∧ onInput = true := by
  cases onInput with
  | false => simp
  | true => simp [eq_comm]

theorem named_commission_iff {offer ask : AssetInfo} {offerName askName : AssetEntry}
    {onInput : Bool} (known : offerName = askName → offer = ask) :
    ((if (if onInput then ask else offer) = ask then askName else offerName) = offerName ↔
        onInput = true) ↔
      offer = ask ∧ (offerName = askName ↔ onInput = true) := by
  cases onInput with
  | true =>
    simp only [if_true, iff_true]
    constructor
    · intro same
      exact ⟨known same.symm, same.symm⟩
    · rintro ⟨-, same⟩
      exact same.symm
  | false =>
    by_cases same : offer = ask
    · simp [same, eq_comm]
    · simp [same]

section Simulations

variable {swap : Swap} {simulation : Simulation}
  (stored : deps.dexFees = some fees) (here : ActsOn deps dex localName exchange)
  (simulated : Simulates commands fees exchange swap simulation)

include stored here simulated

/-- A simulation only knows the plain name of a dex. -/
theorem simulateSwap_eq_ok {response : SimulateSwapResponse AssetInfoUnchecked} :
    simulateSwap commands deps dex swap.pool swap.offerAsset swap.askAsset = .ok response ↔
      '>' ∉ dex.toList ∧ quote commands fees exchange swap simulation = response := by
  have loaded : (loadFees deps : Except (ActionError E) _) = .ok fees := by
    rw [loadFees, stored]
    rfl
  rw [Simulates, Swap.charged_eq] at simulated
  simp only [simulateSwap, loaded, ok_bind, bind_eq_ok, mapError_eq_ok, pure_eq_ok,
    ← actsOn_resolves here]
  constructor
  · rintro ⟨found, resolved, simulation', simulated', rfl⟩
    obtain rfl := actsOn_exchange here resolved
    obtain rfl := Except.ok.inj (simulated.symm.trans simulated')
    exact ⟨⟨found, resolved⟩, rfl⟩
  · rintro ⟨⟨found, resolved⟩, rfl⟩
    obtain rfl := actsOn_exchange here resolved
    exact ⟨found, resolved, simulation, simulated, rfl⟩

/-- What is quoted is what is executed. -/
theorem quotes_of_quote {A : Type} {response : SimulateSwapResponse A}
    (returned : response.returnAmount = simulation.returnAmount)
    (spread : response.spreadAmount = simulation.spread)
    (charged : response.commission.2 = simulation.fee)
    (usageFee : response.usageFee = fees.swapFee.compute swap.offerAsset.amount) :
    Quotes commands deps fees dex exchange swap simulation response := by
  refine ⟨swap.offerAsset.amount - response.usageFee, ?_, ?_, returned, spread, charged⟩
  · rw [usageFee]
    exact swapsFor_charged stored here swap
  · rw [usageFee, ← Swap.charged_eq]
    exact simulated

theorem raw_answers_iff {pool : UncheckedPoolAddress} {offerAsset : AssetUnchecked}
    {askAsset : AssetInfoUnchecked} (checks : ChecksTo deps pool offerAsset askAsset swap) :
    Answers commands deps fees dex exchange swap simulation
        (uncheckedInfo swap.offerAsset.info) (.SimulateSwapRaw offerAsset askAsset pool dex)
        DexQueryResponse.SimulateSwapRaw ↔
      '>' ∉ dex.toList ∧ swap.offerAsset.info = swap.askAsset ∧ simulation.feeOnInput = true := by
  obtain ⟨pooled, offers, asks⟩ := checks
  have answer : ∀ response, queryHandler commands deps (.SimulateSwapRaw offerAsset askAsset pool dex) =
        .ok (.SimulateSwapRaw response) ↔
      '>' ∉ dex.toList ∧ quote commands fees exchange swap simulation = response := by
    intro response
    rw [← simulateSwap_eq_ok stored here simulated]
    simp only [queryHandler, checkPool, checkAsset, checkInfo, pooled, offers, asks, Except.mapError,
      ok_bind, bind_eq_ok, pure_eq_ok, DexQueryResponse.SimulateSwapRaw.injEq, exists_eq_right]
  simp only [Answers, answer]
  constructor
  · rintro ⟨_, ⟨plain, rfl⟩, -, commission⟩
    simp only [quote, uncheckedInfo_inj] at commission
    exact ⟨plain, commission_iff.mp commission⟩
  · rintro ⟨plain, attributed⟩
    refine ⟨_, ⟨plain, rfl⟩, quotes_of_quote stored here simulated rfl rfl rfl rfl, ?_⟩
    simp only [quote, uncheckedInfo_inj]
    exact commission_iff.mpr attributed

theorem named_answers_iff {offerAsset : AnsAsset} {askAsset : AssetEntry}
    (names : NamesTo deps localName offerAsset askAsset swap) :
    Answers commands deps fees dex exchange swap simulation offerAsset.name
        (.SimulateSwap offerAsset askAsset dex) DexQueryResponse.SimulateSwap ↔
      '>' ∉ dex.toList ∧ swap.offerAsset.info = swap.askAsset ∧
        (offerAsset.name = askAsset ↔ simulation.feeOnInput = true) := by
  obtain ⟨ans, host, offers, asks, pooled⟩ := names
  have answer : ∀ response,
      queryHandler commands deps (.SimulateSwap offerAsset askAsset dex) =
        .ok (.SimulateSwap response) ↔
      '>' ∉ dex.toList ∧
        nameQuote offerAsset.name askAsset swap (quote commands fees exchange swap simulation) dex =
          response := by
    intro response
    simp only [queryHandler, map_eq_ok, DexQueryResponse.SimulateSwap.injEq, exists_eq_right,
      simulateNamedSwap, host, offers, asks, okOr, Except.mapError, ok_bind]
    by_cases plain : '>' ∈ dex.toList
    · simp only [plain, not_true, false_and, iff_false, bind_eq_ok]
      rintro ⟨_, -, _, simulated, -⟩
      exact simulateSwap_plain simulated plain
    · obtain rfl := actsOn_plain here plain
      simp only [pooled, ok_bind, bind_eq_ok, simulateSwap_eq_ok stored here simulated, pure_eq_ok]
      constructor
      · rintro ⟨_, ⟨plain, rfl⟩, rfl⟩
        exact ⟨plain, rfl⟩
      · rintro ⟨plain, rfl⟩
        exact ⟨_, ⟨plain, rfl⟩, rfl⟩
  have known : offerAsset.name = askAsset → swap.offerAsset.info = swap.askAsset := by
    rintro rfl
    simp only [AnsHost.resolveAnsAsset, asks, ok_bind, pure_eq_ok] at offers
    rw [← offers]
  simp only [Answers, answer]
  constructor
  · rintro ⟨_, ⟨plain, rfl⟩, -, commission⟩
    rw [nameQuote_commission] at commission
    exact ⟨plain, (named_commission_iff known).mp commission⟩
  · rintro ⟨plain, attributed⟩
    refine ⟨_, ⟨plain, rfl⟩, quotes_of_quote stored here simulated rfl rfl ?_ rfl, ?_⟩
    · rw [nameQuote_commission]
    · rw [nameQuote_commission]
      exact (named_commission_iff known).mpr attributed

end Simulations

/-- The messages that are made for the account are those that it runs.  A simulation quotes the
    fee and the amounts of execution, but only for a dex by its plain name, and with the
    commission on the other asset. -/
theorem simulation_agrees_iff (commands : DexCommand X E M) {deps : DexDeps X} {fees : DexFees}
    {dex localName : DexName} {exchange : X} (stored : deps.dexFees = some fees)
    (here : ActsOn deps dex localName exchange) :
    (∀ {pool offerAsset askAsset swap simulation},
      ChecksTo deps pool offerAsset askAsset swap →
      Simulates commands fees exchange swap simulation →
      (Answers commands deps fees dex exchange swap simulation (uncheckedInfo swap.offerAsset.info)
          (.SimulateSwapRaw offerAsset askAsset pool dex) DexQueryResponse.SimulateSwapRaw ↔
        '>' ∉ dex.toList ∧ swap.offerAsset.info = swap.askAsset ∧
          simulation.feeOnInput = true)) ∧
    (∀ {offerAsset askAsset swap simulation},
      NamesTo deps localName offerAsset askAsset swap →
      Simulates commands fees exchange swap simulation →
      (Answers commands deps fees dex exchange swap simulation offerAsset.name
          (.SimulateSwap offerAsset askAsset dex) DexQueryResponse.SimulateSwap ↔
        '>' ∉ dex.toList ∧ swap.offerAsset.info = swap.askAsset ∧
          (offerAsset.name = askAsset ↔ simulation.feeOnInput = true))) ∧
    ∀ {action addrAsSender target msgs}, deps.targetAccount = some target →
      deps.addrValidate addrAsSender = .ok target →
      (queryHandler commands deps (.GenerateMessages (.Action dex action) addrAsSender) =
          .ok (.GenerateMessages msgs) ↔
        executeHandler commands deps (.Action dex action) =
          .ok (.Requested (.Handled { account := target, msgs }))) := by
  refine ⟨?_, ?_, ?_⟩
  · intro pool offerAsset askAsset swap simulation checks simulated
    exact raw_answers_iff stored here simulated checks
  · intro offerAsset askAsset swap simulation names simulated
    exact named_answers_iff stored here simulated names
  · intro action addrAsSender target msgs account sender
    exact generateMessages_iff_executes here account sender

/-! ## A swap on wyndex -/

/-- It keeps 3 of what it returns, and says so. -/
def sampleCommands : DexCommand Unit String Asset where
  name _ := WYNDEX
  fetchData exchange _ _ _ := .ok exchange
  swap _ _ offerAsset _ _ _ := .ok [.Other offerAsset]
  swapRoute _ _ offerAsset _ _ := .ok [.Other offerAsset]
  provideLiquidity _ _ offerAssets _ := .ok (offerAssets.map .Other)
  withdrawLiquidity _ _ lpToken := .ok [.Other lpToken]
  simulateSwap _ _ offerAsset _ :=
    .ok { returnAmount := offerAsset.amount - 3, spread := 0, fee := 3, feeOnInput := false }
  text e := e

/-- A fee of 0.3 %. -/
def sampleFees : DexFees where
  swapFee := { share := ⟨3 * 10 ^ 15⟩, share_lt := by decide }
  recipient := ⟨"abstract"⟩
  swapFee_le := by decide

def juno : DexDeps Unit where
  toContext := { sampleContext "juno-1" with ansHost := some twoPools }
  features :=
    { wynd := some (), neutron := none, osmosis := none, fin := none, astrovault := none }
  abstractRegistry := some ⟨"registry"⟩
  dexFees := some sampleFees
  abstractNamespace := none
  localAccount _ := none

def junoForUsd : Swap where
  pool := .Id 2
  offerAsset := { info := .Native "ujuno", amount := 1000 }
  askAsset := .Native "uusd"

def junoForUsdMsg : DexAction :=
  .Swap (.Id 2) { info := .Native "ujuno", amount := 1000 } (.Native "uusd") none none

def rawQuery (dex : DexName) : DexQueryMsg :=
  .SimulateSwapRaw { info := .Native "ujuno", amount := 1000 } (.Native "uusd") (.Id 2) dex

/-- The messages of the swap: 997 to swap, and 3 for the fee. -/
def junoForUsdMsgs : List (CosmosMsg Asset) :=
  [.Other { info := .Native "ujuno", amount := 997 },
    .Transfer
      { asset := { info := .Native "ujuno", amount := 3 }, recipient := ⟨"abstract"⟩ }]

theorem juno_actsOn : ActsOn juno "juno>wyndex" "wyndex" () := ⟨by decide +kernel, rfl⟩

theorem juno_actsOn_plain : ActsOn juno "wyndex" "wyndex" () := ⟨by decide +kernel, rfl⟩

def junoForUsdSimulation : Simulation where
  returnAmount := 994
  spread := 0
  fee := 3
  feeOnInput := false

theorem junoForUsd_checks :
    ChecksTo juno (.Id 2) { info := .Native "ujuno", amount := 1000 } (.Native "uusd")
      junoForUsd :=
  ⟨rfl, rfl, rfl⟩

theorem junoForUsd_names :
    NamesTo juno "wyndex" { name := "juno", amount := 1000 } "usd" junoForUsd :=
  ⟨twoPools, rfl, by decide +kernel, by decide +kernel, by decide +kernel⟩

theorem simulation_agrees_juno :
    ¬ Answers sampleCommands juno sampleFees "juno>wyndex" () junoForUsd junoForUsdSimulation
        (.Native "ujuno") (rawQuery "juno>wyndex") DexQueryResponse.SimulateSwapRaw ∧
      ¬ Answers sampleCommands juno sampleFees "juno>wyndex" () junoForUsd junoForUsdSimulation
        "juno" (.SimulateSwap { name := "juno", amount := 1000 } "usd" "juno>wyndex")
        DexQueryResponse.SimulateSwap ∧
      executeHandler sampleCommands juno (.Action "juno>wyndex" junoForUsdMsg) =
        .ok (.Requested (.Handled { account := ⟨"account"⟩, msgs := junoForUsdMsgs })) := by
  obtain ⟨raw, named, generated⟩ :=
    @simulation_agrees_iff _ _ _ sampleCommands juno sampleFees _ _ _ rfl juno_actsOn
  refine ⟨?_, ?_, ?_⟩
  · intro answers
    exact absurd ((raw junoForUsd_checks rfl).mp answers).1 (by decide)
  · intro answers
    exact absurd ((named junoForUsd_names rfl).mp answers).1 (by decide)
  · exact (@generated _ "account" _ _ rfl rfl).mp (by decide +kernel)

/-- What is answered for the plain name. -/
def junoForUsdAnswer : SimulateSwapResponse AssetInfoUnchecked where
  pool := { assetX := .Native "ujuno", assetY := .Native "uusd", dex := "wyndex" }
  returnAmount := 994
  spreadAmount := 0
  commission := (.Native "ujuno", 3)
  usageFee := 3

/-- The exchange takes its fee on the output, and the commission is quoted in what is offered;
    by its full name, the dex is taken for one of another chain. -/
theorem commission_on_the_offer :
    (ActsOn juno "wyndex" "wyndex" () ∧ ActsOn juno "juno>wyndex" "wyndex" () ∧
      ChecksTo juno (.Id 2) { info := .Native "ujuno", amount := 1000 } (.Native "uusd")
        junoForUsd ∧
      Simulates sampleCommands sampleFees () junoForUsd junoForUsdSimulation) ∧
    queryHandler sampleCommands juno (rawQuery "wyndex") =
      .ok (.SimulateSwapRaw junoForUsdAnswer) ∧
    queryHandler sampleCommands juno (rawQuery "juno>wyndex") =
      .error (.Request (.Std (.msg "DEX juno>wyndex is not local to this network."))) ∧
    ¬ Answers sampleCommands juno sampleFees "wyndex" () junoForUsd junoForUsdSimulation
      (.Native "ujuno") (rawQuery "wyndex") DexQueryResponse.SimulateSwapRaw ∧
    ¬ Answers sampleCommands juno sampleFees "juno>wyndex" () junoForUsd junoForUsdSimulation
      (.Native "ujuno") (rawQuery "juno>wyndex") DexQueryResponse.SimulateSwapRaw := by
  have plain : queryHandler sampleCommands juno (rawQuery "wyndex") =
      .ok (.SimulateSwapRaw junoForUsdAnswer) := by decide +kernel
  have full : queryHandler sampleCommands juno (rawQuery "juno>wyndex") =
      .error (.Request (.Std (.msg "DEX juno>wyndex is not local to this network."))) := by
    decide +kernel
  refine ⟨⟨juno_actsOn_plain, juno_actsOn, junoForUsd_checks, rfl⟩, plain, full, ?_, ?_⟩
  · rintro ⟨response, answered, -, commission⟩
    rw [plain] at answered
    cases answered
    exact absurd (commission.mp rfl) (by decide)
  · rintro ⟨response, answered, -⟩
    rw [full] at answered
    cases answered

end Agreement

end AbstractFramework.Dex.Handlers
