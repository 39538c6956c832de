import Mathlib.Algebra.Ring.Nat
import AbstractFramework.Account.Contract
import AbstractFramework.ModuleFactory.Funds

/-! # The funds of a new account

An account asks the factory what its modules cost before it is paid: the
announcement, the namespace fee and the received funds are lists of coins of their own.
The received funds cover what the first messages of the account carry.
-/

namespace AbstractFramework.Account.Entry

open AbstractFramework Fallible Storage
open AbstractFramework.ModuleFactory (amountIn amountIn_nil amountIn_cons amountIn_addCoins addCoin)

/-! ## Sums of coins -/

section Coins

variable {denom : String} {coin : Coin} {coins rest : List Coin}

theorem amountIn_subCoin (denom : String) (h : subCoin coin coins = some rest) :
    amountIn denom coins =
      amountIn denom rest + amountIn denom [coin] := by
  induction coins generalizing rest with
  | nil =>
    unfold subCoin at h
    by_cases nothing : coin.amount = 0
    · rw [if_pos nothing] at h
      obtain rfl := Option.some.inj h
      simp [nothing]
    · rw [if_neg nothing] at h
      cases h
  | cons c coins ih =>
    unfold subCoin at h
    by_cases same : c.denom = coin.denom
    · rw [if_pos same] at h
      by_cases short : c.amount < coin.amount
      · rw [if_pos short] at h
        cases h
      rw [if_neg short] at h
      by_cases spent : c.amount = coin.amount
      · rw [if_pos spent] at h
        obtain rfl := Option.some.inj h
        simp only [amountIn_cons, amountIn_nil, same, spent]
        omega
      · rw [if_neg spent] at h
        obtain rfl := Option.some.inj h
        simp only [amountIn_cons, amountIn_nil, same]
        by_cases counted : coin.denom = denom
        · simp only [if_pos counted]
          omega
        · simp [counted]
    · rw [if_neg same, Option.map_eq_some_iff] at h
      obtain ⟨rest, subtracted, rfl⟩ := h
      simp only [amountIn_cons, ih subtracted, amountIn_nil]
      omega

/-- Coins of nothing do not count. -/
theorem amountIn_filter :
    amountIn denom (coins.filter (·.amount ≠ 0)) =
      amountIn denom coins := by
  induction coins with
  | nil => rfl
  | cons c coins ih =>
    by_cases nothing : c.amount = 0
    · simpa [List.filter_cons, nothing] using ih
    · simpa [List.filter_cons, nothing] using ih

theorem amountIn_coinsTryFrom {sum : List Coin} (h : coinsTryFrom coins = .ok sum) :
    amountIn denom sum = amountIn denom coins := by
  simp only [coinsTryFrom, bind_eq_ok, mapError_eq_ok] at h
  obtain ⟨_, _, added⟩ := h
  rw [amountIn_addCoins added, amountIn_filter, amountIn_nil]
  omega

/-- The fees that are subtracted one by one are in the received funds together. -/
theorem assertFees_covers (denom : String) {totalFee received funds : List Coin}
    (h : assertFees totalFee received funds = .ok ()) :
    amountIn denom totalFee ≤ amountIn denom received := by
  simp only [assertFees, bind_eq_ok] at h
  obtain ⟨left, subtracted, -⟩ := h
  -- the error names the whole fee, the induction is on what is still to be subtracted
  generalize AccountError.Fee totalFee funds = unpaid at subtracted
  induction totalFee generalizing received with
  | nil => simp
  | cons fee totalFee ih =>
    obtain ⟨rest, first, later⟩ := foldlM_cons_eq_ok.mp subtracted
    have taken := amountIn_subCoin denom (okOr_eq_ok.mp first)
    have covered := ih later
    simp only [amountIn_cons, amountIn_nil] at taken ⊢
    omega

end Coins

section Creation

variable [Crates] [Xion]

/-! ## What the account sends -/

/-- The funds that are attached to a message of an account. -/
def attachedFunds : OutMsg → List Coin
  | .Chain (.Execute _ _ funds) => funds
  | .Module (.InstallModules _ _ _ funds) => funds
  | .AddAccount _ _ funds => funds
  | .Instantiate2 _ _ _ _ funds _ => funds
  | _ => []

/-- The amount of one denomination that messages carry. -/
def carried (denom : String) (msgs : List SubMsg) : Nat :=
  (msgs.map fun sub => amountIn denom (attachedFunds sub.msg)).sum

section Sent

variable {env : CallEnv} {info : MessageInfo} {s s' : AccountState} {denom : String}

omit [Crates] in
theorem carried_append {msgs msgs' : List SubMsg} :
    carried denom (msgs ++ msgs') = carried denom msgs + carried denom msgs' := by
  simp [carried]

omit [Crates] in
theorem carried_tellOwner {action : AccountSequence → UpdateSubAccountAction} {id : AccountId}
    {owner : GovernanceDetails Addr} : carried denom (tellOwner action id owner) = 0 := by
  cases owner <;> rfl

/-- The installation is sent what it costs. -/
theorem carried_installAtCreation {modules : List ModuleInstallConfig} {required : List Coin}
    {msgs : List SubMsg} (h : installAtCreation env modules s = .ok (s', required, msgs)) :
    carried denom msgs = amountIn denom required := by
  unfold installAtCreation at h
  by_cases nothing : modules = []
  · rw [if_pos nothing] at h
    cases h
    rfl
  · simp only [if_neg nothing, installModulesInternal, bind_eq_ok, pure_eq_ok, Prod.mk.injEq] at h
    obtain ⟨_, _, ⟨_, _⟩, ⟨_, _, _, _, _, _, _, rfl⟩, _, rfl, rfl⟩ := h
    simp [carried, SubMsg.withReply, attachedFunds]

/-- A new account was paid what its messages carry. -/
theorem instantiate_carried {msg : InstantiateMsg} {s : AccountStorage} {msgs : List SubMsg}
    (h : instantiate env info msg = .ok (s, msgs)) :
    carried denom msgs ≤ amountIn denom info.funds := by
  simp only [instantiate, bind_eq_ok, mapError_eq_ok, pure_eq_ok, Prod.mk.injEq] at h
  obtain ⟨_, _, _, _, _, _, governance, _, _, _, ownership, _, ⟨_, required, installMsgs⟩, installed,
    namespaceFee, nsCoins, totalFee, added, received, paid, _, covered, _, rfl⟩ := h
  have fees := assertFees_covers denom covered
  rw [amountIn_coinsTryFrom paid, amountIn_addCoins added,
    amountIn_coinsTryFrom nsCoins] at fees
  dsimp only at fees
  have registration (funds : List Coin) (rest : List SubMsg) :
      carried denom (.new (.AddAccount msg.ns info.sender.asStr funds) :: rest) =
        amountIn denom funds + carried denom rest := rfl
  rw [registration, carried_append, carried_tellOwner, carried_installAtCreation installed]
  omega

end Sent

/-- What modules cost is announced as it is collected, what is collected is sent on, and a
    new account was paid what it sends. -/
theorem install_funds {registry : RegistryState} (onCreated : ModuleFactory.FundsOnCreated registry) :
    (∀ (env : Env) (info : MessageInfo) (modules : List ModuleInstallConfig) (salt : Bytes)
        (currentBase : Option Addr) (msgs : List ModuleFactory.FactoryMsg),
      env.registry = registry →
      ModuleFactory.executeCreateModules env info modules salt = .ok (currentBase, msgs) →
        (∃ resp, ModuleFactory.querySimulateInstallModules env (modules.map (·.info)) = .ok resp ∧
          resp.totalRequiredFunds = info.funds) ∧
        (∀ funds ≠ info.funds,
          ModuleFactory.executeCreateModules env { info with funds } modules salt =
            .error (.Fee info.funds funds)) ∧
        ∀ denom, ModuleFactory.sentIn denom msgs = amountIn denom info.funds) ∧
      ∀ (env : CallEnv) (info : MessageInfo) (msg : InstantiateMsg) (s : AccountStorage)
          (msgs : List SubMsg),
        env.registry = registry → instantiate env info msg = .ok (s, msgs) →
          ∀ denom, carried denom msgs ≤ amountIn denom info.funds := by
  constructor
  · rintro env info modules salt currentBase msgs rfl created
    obtain ⟨announced, sent⟩ := ModuleFactory.executeCreateModules_funds onCreated created
    exact ⟨announced, fun funds other => ModuleFactory.executeCreateModules_otherFunds other created,
      sent⟩
  · intro env info msg s msgs _ instantiated denom
    exact instantiate_carried instantiated

end Creation

section Sample

attribute [local instance] releaseCrates noAuthenticators

/-- `pub:lib` has an install fee, and takes two coins at its instantiation. -/
def payingRegistry : RegistryState :=
  { sampleRegistry with
    config := { sampleRegistry.config with
      namespaceRegistrationFee := some { denom := "utoken", amount := 1 } }
    moduleConfig := insertAll ∅
      [((libInfo "1.0.0").key,
        { monetization := .InstallFee { denom := "utoken", amount := 5 }
          metadata := none
          instantiationFunds :=
            [{ denom := "utoken", amount := 3 }, { denom := "uother", amount := 2 }] })] }

theorem fundsOnCreated_payingRegistry : ModuleFactory.FundsOnCreated payingRegistry := by
  have standalone : ∀ entry ∈ payingRegistry.moduleConfig.entries,
      payingRegistry.registeredModules.lookup entry.1 = some (.Standalone 7) := by decide
  intro entry listed _ reference registered info
  rw [standalone entry listed] at registered
  obtain rfl := Option.some.inj registered
  rfl

def payingEnv : CallEnv :=
  { sampleCallEnv with registry := payingRegistry, address := ⟨"next-account"⟩ }

def installLib : List ModuleInstallConfig := [{ info := libInfo "1.0.0", initMsg := some [] }]

/-- The account calls the factory with these coins. -/
def libFunds : MessageInfo :=
  { sender := sampleAccount
    funds := [{ denom := "uother", amount := 2 }, { denom := "utoken", amount := 8 }] }

/-- A new account that claims a namespace and installs `pub:lib`. -/
def createWithLib : InstantiateMsg where
  codeId := 1
  owner := some (.Monarchy "owner")
  accountId := none
  authenticator := none
  ns := some "next"
  installModules := installLib
  name := none
  description := none
  link := none

def creationFunds : MessageInfo :=
  { sender := sampleOwner
    funds := [{ denom := "uother", amount := 2 }, { denom := "utoken", amount := 10 }] }

theorem install_funds_lib :
    (∃ result, ModuleFactory.executeCreateModules payingEnv.toEnv libFunds installLib [] =
        .ok result ∧ ModuleFactory.sentIn "utoken" result.2 = 8) ∧
      ∃ result, instantiate payingEnv creationFunds createWithLib = .ok result ∧
        carried "utoken" result.2 = 9 ∧ carried "utoken" result.2 ≤ 10 := by
  obtain ⟨created, instantiated⟩ := install_funds fundsOnCreated_payingRegistry
  constructor
  · have succeeds : (ModuleFactory.executeCreateModules payingEnv.toEnv libFunds installLib
        []).toOption.isSome := by decide
    obtain ⟨⟨currentBase, msgs⟩, result⟩ := Option.isSome_iff_exists.mp succeeds
    have ok := toOption_eq_some.mp result
    exact ⟨_, ok, (created _ _ _ _ _ _ rfl ok).2.2 "utoken"⟩
  · have succeeds : ∃ result ∈ (instantiate payingEnv creationFunds createWithLib).toOption,
        carried "utoken" result.2 = 9 := by decide
    obtain ⟨⟨s, msgs⟩, result, nine⟩ := succeeds
    have ok := toOption_eq_some.mp result
    exact ⟨_, ok, nine, instantiated _ _ _ _ _ rfl ok "utoken"⟩

end Sample

end AbstractFramework.Account.Entry
