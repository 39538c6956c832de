import Mathlib.Algebra.Ring.Nat
import AbstractFramework.ModuleFactory.Addresses

/-! # The funds of an installation

What the modules of a list cost is added up twice in the factory, by the query that
announces it and by the call that collects it.  Both are the same sum.  What the call
collects is sent on in full: the fees to the owners of the namespaces, the rest to the
contracts that are created.
-/

namespace AbstractFramework.ModuleFactory

open AbstractFramework Fallible Storage Account

/-! ## Amounts -/

/-- The amount of one denomination in a list of coins. -/
def amountIn (denom : String) (coins : List Coin) : Nat :=
  (coins.map fun coin => if coin.denom = denom then coin.amount else 0).sum

section Amounts

variable {denom : String} {coin : Coin} {coins sum : List Coin}

@[simp] theorem amountIn_nil : amountIn denom [] = 0 := rfl

@[simp] theorem amountIn_cons :
    amountIn denom (coin :: coins) =
      (if coin.denom = denom then coin.amount else 0) + amountIn denom coins := rfl

theorem amountIn_addCoin (h : addCoin coin coins = .ok sum) :
    amountIn denom sum = amountIn denom coins + amountIn denom [coin] := by
  induction coins generalizing sum with
  | nil =>
    obtain rfl := Except.ok.inj h
    by_cases nothing : coin.amount = 0 <;> simp [nothing]
  | cons c coins ih =>
    unfold addCoin at h
    by_cases nothing : coin.amount = 0
    · rw [if_pos nothing] at h
      obtain rfl := Except.ok.inj h
      simp [nothing]
    rw [if_neg nothing] at h
    by_cases same : c.denom = coin.denom
    · simp only [if_pos same, checkedAdd, bind_eq_ok, pure_eq_ok] at h
      obtain ⟨_, ⟨_, _, rfl⟩, rfl⟩ := h
      by_cases counted : coin.denom = denom
      · simp only [amountIn_cons, amountIn_nil, same, counted, if_true]
        omega
      · simp [same, counted]
    rw [if_neg same] at h
    by_cases before : strBytes coin.denom < strBytes c.denom
    · rw [if_pos before] at h
      obtain rfl := Except.ok.inj h
      simp only [amountIn_cons, amountIn_nil]
      omega
    · simp only [if_neg before, bind_eq_ok, pure_eq_ok] at h
      obtain ⟨rest, added, rfl⟩ := h
      simp only [amountIn_cons, ih added, amountIn_nil]
      omega

theorem amountIn_addCoins {added : List Coin}
    (h : added.foldlM (fun sum coin => addCoin coin sum) coins = .ok sum) :
    amountIn denom sum = amountIn denom coins + amountIn denom added := by
  induction added generalizing coins with
  | nil =>
    obtain rfl := pure_eq_ok.mp h
    rfl
  | cons coin added ih =>
    obtain ⟨next, first, rest⟩ := foldlM_cons_eq_ok.mp h
    rw [ih rest, amountIn_addCoin first, amountIn_cons, amountIn_cons, amountIn_nil]
    omega

end Amounts

variable [Crates]

/-! ## The collection -/

def FactoryMsg.funds : FactoryMsg → List Coin
  | .Send msg => msg.amount
  | .Instantiate2 _ _ _ _ funds _ => funds

/-- The amount of one denomination that messages carry. -/
def sentIn (denom : String) (msgs : List FactoryMsg) : Nat :=
  (msgs.map fun msg => amountIn denom msg.funds).sum

/-- Only what is created takes funds at its instantiation. -/
def FundsOnCreated (registry : RegistryState) : Prop :=
  ∀ entry ∈ registry.moduleConfig.entries, entry.2.instantiationFunds ≠ [] →
    ∀ reference ∈ registry.registeredModules.lookup entry.1,
      ∀ info : ModuleInfo, isCreated { info, reference } = true

section Collection

variable {env : Env} {account : Addr} {salt : Bytes} {c c' : Creation} {m : Module}
  {config : ModuleConfiguration} {denom : String}

/-- What has been added to the sum is sent on. -/
def Creation.Balanced (c : Creation) : Prop :=
  ∀ denom, amountIn denom c.sumOfMonetization =
    sentIn denom c.feeMsgs + sentIn denom c.moduleInstantiateMessages

omit [Crates] in
theorem sentIn_append {msgs msgs' : List FactoryMsg} :
    sentIn denom (msgs ++ msgs') = sentIn denom msgs + sentIn denom msgs' := by
  simp [sentIn]

/-- The fee of a module is announced, added to the sum and sent on. -/
theorem addMonetization_funds (h : addMonetization env c m config = .ok c') :
    (∀ resp : SimulateInstallModulesResponse, resp.totalRequiredFunds = c.sumOfMonetization →
      ∃ resp', simulateMonetization resp m config = .ok resp' ∧
        resp'.totalRequiredFunds = c'.sumOfMonetization) ∧
      c'.moduleInstantiateMessages = c.moduleInstantiateMessages ∧
      ∀ denom, amountIn denom c'.sumOfMonetization + sentIn denom c.feeMsgs =
        amountIn denom c.sumOfMonetization + sentIn denom c'.feeMsgs := by
  unfold addMonetization at h
  unfold simulateMonetization
  split at h
  · rename_i free
    obtain rfl := Except.ok.inj h
    rw [free]
    exact ⟨fun resp start => ⟨resp, rfl, start⟩, rfl, fun _ => rfl⟩
  · rename_i fee paid
    simp only [bind_eq_ok, mapError_eq_ok, pure_eq_ok] at h
    obtain ⟨sum, added, toAddress, _, rfl⟩ := h
    rw [paid]
    refine ⟨?_, rfl, ?_⟩
    · intro resp start
      simp only [start, bind_eq_ok, pure_eq_ok]
      exact ⟨_, ⟨sum, added, rfl⟩, rfl⟩
    · intro denom
      have payment : sentIn denom [.Send { toAddress, amount := [fee] }] = amountIn denom [fee] := by
        simp [sentIn, FactoryMsg.funds]
      rw [sentIn_append, payment, amountIn_addCoin added]
      omega

omit [Crates] in
theorem simulateInitFunds_eq_ok {sum total : List Coin} {resp : SimulateInstallModulesResponse}
    (added : config.instantiationFunds.foldlM (fun sum coin => addCoin coin sum) sum = .ok total)
    (start : resp.totalRequiredFunds = sum) :
    ∃ resp', simulateInitFunds resp m config = .ok resp' ∧ resp'.totalRequiredFunds = total := by
  unfold simulateInitFunds
  by_cases nothing : config.instantiationFunds = []
  · rw [nothing] at added
    exact ⟨resp, by simp [nothing], start.trans (pure_eq_ok.mp added)⟩
  · have funds : config.instantiationFunds.isEmpty = false := by simp [nothing]
    simp only [funds, start, Bool.false_eq_true, if_false, bind_eq_ok, pure_eq_ok]
    exact ⟨_, ⟨total, added, rfl⟩, rfl⟩

omit [Crates] in
/-- The instantiation funds of a module are announced and added to the sum. -/
theorem addInitFunds_funds (h : addInitFunds c config.instantiationFunds = .ok c') :
    (∀ resp : SimulateInstallModulesResponse, resp.totalRequiredFunds = c.sumOfMonetization →
      ∃ resp', simulateInitFunds resp m config = .ok resp' ∧
        resp'.totalRequiredFunds = c'.sumOfMonetization) ∧
      c'.feeMsgs = c.feeMsgs ∧ c'.moduleInstantiateMessages = c.moduleInstantiateMessages ∧
      ∀ denom, amountIn denom c'.sumOfMonetization =
        amountIn denom c.sumOfMonetization + amountIn denom config.instantiationFunds := by
  simp only [addInitFunds, bind_eq_ok, mapError_eq_ok, pure_eq_ok] at h
  obtain ⟨sum, added, rfl⟩ := h
  exact ⟨fun resp start => simulateInitFunds_eq_ok added start, rfl, rfl,
    fun denom => amountIn_addCoins added⟩

/-- A module that is created is sent its funds. -/
theorem addModule_funds {funds : List Coin} {initMsg : Option Binary}
    (h : addModule env account salt c m funds initMsg = .ok c') :
    c'.sumOfMonetization = c.sumOfMonetization ∧ c'.feeMsgs = c.feeMsgs ∧
      if isCreated m then ∃ msg, msg.funds = funds ∧
        c'.moduleInstantiateMessages = c.moduleInstantiateMessages ++ [msg]
      else c'.moduleInstantiateMessages = c.moduleInstantiateMessages := by
  unfold addModule at h
  split at h
  · rename_i codeId isApp
    simp only [instantiate2Contract, bind_eq_ok, mapError_eq_ok, pure_eq_ok] at h
    obtain ⟨_, _, _, _, msg, ⟨_, _, _, _, rfl⟩, rfl⟩ := h
    simp [isCreated, isApp, FactoryMsg.funds]
  · rename_i addr isAdapter
    obtain rfl := Except.ok.inj h
    simp [isCreated, isAdapter]
  · rename_i addr isService
    obtain rfl := Except.ok.inj h
    simp [isCreated, isService]
  · rename_i codeId isStandalone
    simp only [instantiate2Contract, bind_eq_ok, mapError_eq_ok, pure_eq_ok] at h
    obtain ⟨_, _, msg, ⟨_, _, _, _, rfl⟩, rfl⟩ := h
    simp [isCreated, isStandalone, FactoryMsg.funds]
  · rename_i addr isNative
    simp only [bind_eq_ok, pure_eq_ok] at h
    obtain ⟨_, _, rfl⟩ := h
    simp [isCreated, isNative]
  · cases h

/-- The funds of one module are added up as they are announced, and sent on. -/
theorem createModule_funds {initMsg : Option Binary}
    (h : createModule env account salt c ((m, config), initMsg) = .ok c') :
    (∀ resp : SimulateInstallModulesResponse, resp.totalRequiredFunds = c.sumOfMonetization →
      ∃ resp', simulateModule resp (m, config) = .ok resp' ∧
        resp'.totalRequiredFunds = c'.sumOfMonetization) ∧
      ((config.instantiationFunds ≠ [] → isCreated m = true) → c.Balanced → c'.Balanced) := by
  simp only [createModule, bind_eq_ok] at h
  obtain ⟨c₁, monetized, c₂, funded, added⟩ := h
  obtain ⟨announcesFee, sameInsts₁, feeSent⟩ := addMonetization_funds monetized
  obtain ⟨announcesFunds, sameFees₂, sameInsts₂, fundsAdded⟩ := addInitFunds_funds (m := m) funded
  obtain ⟨sameSum, sameFees, sent⟩ := addModule_funds added
  constructor
  · intro resp start
    obtain ⟨resp₁, first, same₁⟩ := announcesFee resp start
    obtain ⟨resp₂, second, same₂⟩ := announcesFunds resp₁ same₁
    refine ⟨resp₂, ?_, by rw [same₂, sameSum]⟩
    simp only [simulateModule, bind_eq_ok]
    exact ⟨resp₁, first, second⟩
  · intro onCreated balanced denom
    have collected := fundsAdded denom
    have forwarded := feeSent denom
    have before := balanced denom
    have instantiated : sentIn denom c'.moduleInstantiateMessages =
        sentIn denom c.moduleInstantiateMessages + amountIn denom config.instantiationFunds := by
      by_cases created : isCreated m = true
      · rw [if_pos created] at sent
        obtain ⟨msg, funds, msgs⟩ := sent
        rw [msgs, sentIn_append, sameInsts₂, sameInsts₁]
        simp [sentIn, funds]
      · have nothing : config.instantiationFunds = [] := by
          by_contra some
          exact created (onCreated some)
        rw [if_neg created] at sent
        rw [sent, sameInsts₂, sameInsts₁, nothing]
        simp
    rw [sameSum, sameFees, sameFees₂]
    omega

/-! ## Both together -/

theorem funds_of_queryModule {info : ModuleInfo} (onCreated : FundsOnCreated env.registry)
    (found : env.registry.queryModule info = .ok (m, config))
    (funds : config.instantiationFunds ≠ []) : isCreated m = true := by
  obtain ⟨_, registered, rfl⟩ := queryModule_registered found
  have stored : (env.registry.configFromStorage m.info).instantiationFunds =
      ((env.registry.moduleConfig.lookup m.info.key).getD .default).instantiationFunds := by
    unfold RegistryState.configFromStorage
    dsimp only
    split <;> rfl
  rw [stored] at funds
  cases entry : env.registry.moduleConfig.lookup m.info.key with
  | none => simp [entry, ModuleConfiguration.default] at funds
  | some config =>
    rw [entry] at funds
    exact onCreated ⟨m.info.key, config⟩ (AList.mem_lookup_iff.mp entry) funds m.reference
      registered m.info

/-- A creation that succeeds was paid for as announced, and sends on what it got. -/
theorem executeCreateModules_funds {info : MessageInfo} {modules : List ModuleInstallConfig}
    {currentBase : Option Addr} {msgs : List FactoryMsg}
    (onCreated : FundsOnCreated env.registry)
    (h : executeCreateModules env info modules salt = .ok (currentBase, msgs)) :
    (∃ resp, querySimulateInstallModules env (modules.map (·.info)) = .ok resp ∧
      resp.totalRequiredFunds = info.funds) ∧
      ∀ denom, sentIn denom msgs = amountIn denom info.funds := by
  simp only [executeCreateModules, bind_eq_ok, mapError_eq_ok, ensure_eq_ok, pure_eq_ok,
    Prod.mk.injEq] at h
  obtain ⟨account, _, responses, resolved, c, looped, _, paid, _, rfl⟩ := h
  have lengths : responses.length ≤ (modules.map (·.initMsg)).length := by
    have := (mapM_eq_ok.mp (mapError_eq_ok.mp resolved)).length_eq
    simp only [List.length_map] at this ⊢
    omega
  constructor
  · -- the query runs the same loop without the messages
    obtain ⟨resp, announced, same⟩ := foldlM_simulates simulateModule Prod.fst
      (fun c resp => resp.totalRequiredFunds = c.sumOfMonetization)
      (fun _ entry _ resp same ok => (createModule_funds ok).1 resp same)
      (c := { totalRequiredFunds := [], monetizationFunds := [], initializationFunds := [] })
      rfl looped
    rw [List.map_fst_zip lengths] at announced
    refine ⟨resp, ?_, same.trans paid⟩
    simp only [querySimulateInstallModules, bind_eq_ok, mapError_eq_ok]
    exact ⟨responses, resolved, announced⟩
  · intro denom
    have balanced : c.Balanced := by
      refine foldlM_invariant (P := Creation.Balanced) ?_ ?_ looped
      · rintro c ⟨⟨m, config⟩, initMsg⟩ c' listed balanced ok
        have response := (List.of_mem_zip listed).1
        obtain ⟨info, _, found⟩ := forall₂_exists_left (mapM_eq_ok.mp (mapError_eq_ok.mp resolved))
          _ response
        exact (createModule_funds ok).2 (funds_of_queryModule onCreated found) balanced
      · intro denom
        rfl
    rw [sentIn_append, ← balanced denom, paid]

/-- The same creation with other funds fails, and the error names the expected ones. -/
theorem executeCreateModules_otherFunds {info : MessageInfo} {modules : List ModuleInstallConfig}
    {result : Option Addr × List FactoryMsg} {funds : List Coin} (other : funds ≠ info.funds)
    (h : executeCreateModules env info modules salt = .ok result) :
    executeCreateModules env { info with funds } modules salt = .error (.Fee info.funds funds) := by
  simp only [executeCreateModules, bind_eq_ok, ensure_eq_ok] at h
  obtain ⟨account, isAccount, responses, resolved, c, looped, _, paid, _⟩ := h
  have unpaid : ¬ info.funds = funds := fun same => other same.symm
  simp only [executeCreateModules, isAccount, resolved, bind, Except.bind, looped, ensure,
    paid, if_neg unpaid]

end Collection

end AbstractFramework.ModuleFactory
