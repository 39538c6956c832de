import AbstractFramework.Lib.Machine
import AbstractFramework.ModuleFactory.Commands
import AbstractFramework.Account.Migration

/-! # Operations on the modules of an account

A top-level operation is one call of the account with all that follows from it:
the messages it returns are delivered in order, and the reply runs after the
last one.  The module factory and the account's own migration are executed as
the source has them.  What the code of a module does when it is instantiated,
migrated or configured is a parameter, an `Activity`.  Such code may change every
contract but the account, whose storage only the account writes, and it may have
the account execute further operations, which are then nested in this one.

The contexts of an installation and of an upgrade are one slot each, and a nested
operation overwrites them.  So the results about the dependencies of the modules
are about operations that are `Alone`.  Those about the whitelist and about the
versions are about nested operations too: what they look at is written before the
first message is sent.  `exec_carries` is the rule for these.

`World` adds to the storage which registered version each module id stands for, by the
last command that named it.
-/

namespace AbstractFramework.Account

open AbstractFramework Fallible Storage ModuleFactory

variable [Crates]

/-! ## The account's own migration -/

/-- One major or one minor version up, or a patch. -/
def noSkips (source target : Crates.Version) : Bool :=
  Crates.major target == Crates.major source + 1 ||
    (Crates.major target == Crates.major source &&
      (Crates.minor target == Crates.minor source + 1 ||
        Crates.minor target == Crates.minor source))

/-- Assert that the new version is a legal successor of the stored one. -/
def assertContractUpgrade (stored : ContractVersion) (toContract : String)
    (toVersion : Crates.Version) : Except AccountError Unit := do
  ensure (stored.contract = toContract)
    (.Abstract (.ContractNameMismatch stored.contract toContract))
  let fromVersion ← parseUnwrap stored.version
  ensure (Crates.versionLt fromVersion toVersion)
    (.Abstract (.CannotDowngradeContract stored.contract (Crates.showVersion fromVersion)
      (Crates.showVersion toVersion)))
  ensure (noSkips fromVersion toVersion)
    (.Abstract (.CannotSkipVersion stored.contract (Crates.showVersion fromVersion)
      (Crates.showVersion toVersion)))

/-- `migrate` of an account that is one already. -/
def migrate (contractVersion : String) (s : AccountState) : Except AccountError AccountState := do
  let version ← parseUnwrap contractVersion
  assertContractUpgrade s.contractVersion ACCOUNT version
  return { s with contractVersion := { contract := ACCOUNT, version := contractVersion } }

/-! ## Execution -/

inductive ExecuteMsg where
  | InstallModules (modules : List ModuleInstallConfig)
  | UninstallModule (moduleId : String)
  | Upgrade (modules : List (ModuleInfo × Option Binary))

/-- The replies an operation on modules asks for. -/
inductive ReplyId where
  | RegisterModulesDependencies
  | AssertModuleDependenciesRequirements

structure Response where
  state : AccountState
  messages : List CosmosMsg
  /-- The reply to the last message. -/
  replyOnSuccess : Option ReplyId

def handle (env : Env) (info : MessageInfo) (msg : ExecuteMsg) (s : AccountState) :
    Except AccountError Response :=
  match msg with
  | .InstallModules modules => do
    let (state, message) ← installModules env info modules s
    return { state, messages := [message],
             replyOnSuccess := some .RegisterModulesDependencies }
  | .UninstallModule moduleId => do
    let state ← uninstallModule env info moduleId s
    return { state, messages := [], replyOnSuccess := none }
  | .Upgrade modules => do
    let (state, messages) ← upgradeModules env info modules s
    -- without a message there is none to reply to
    return { state, messages, replyOnSuccess :=
               if messages = [] then none else some .AssertModuleDependenciesRequirements }

/-- `execute`.  Actions are blocked while the account is suspended. -/
def execute (env : Env) (info : MessageInfo) (msg : ExecuteMsg) (s : AccountState) :
    Except AccountError Response := do
  ensure (s.suspensionStatus = false) .AccountSuspended
  let response ← handle env info msg s
  let authAdmin := if env.xion then none else response.state.authAdmin
  return { response with state := { response.state with authAdmin } }

def reply (q : Querier) (s : AccountState) : ReplyId → Except AccountError AccountState
  | .RegisterModulesDependencies => registerDependencies q s
  | .AssertModuleDependenciesRequirements => assertModulesDependencyRequirements q s

def runReply (q : Querier) (s : AccountState) : Option ReplyId → Except AccountError AccountState
  | some id => reply q s id
  | none => .ok s

/-! ## Other contracts -/

inductive OperationError where
  | Call (e : AccountError)
  | Factory (e : ModuleFactoryError)
  | Module (e : StdError)
deriving DecidableEq

/-- The code of the contracts that messages are delivered to. -/
structure ForeignCode (α : Type) where
  /-- A message of the account to a module. -/
  execute : CosmosMsg → Querier → α
  /-- A payment or the creation of a contract by the module factory. -/
  create : FactoryMsg → Querier → α
  /-- `CONTRACT_VERSION` of an account code. -/
  accountVersion : Nat → String

def ForeignCode.map {α β : Type} (f : α → β) (code : ForeignCode α) : ForeignCode β where
  execute msg q := f (code.execute msg q)
  create msg q := f (code.create msg q)
  accountVersion := code.accountVersion

/-- What other contracts do when a message reaches them: they end, and leave the chain as
    it then is, or they have the account execute a message and go on with what they are
    told of it. -/
inductive Activity where
  | done (result : Except StdError Querier)
  | operation (env : Env) (execute : CosmosMsg → Querier → Activity)
      (create : FactoryMsg → Querier → Activity) (accountVersion : Nat → String)
      (info : MessageInfo) (msg : ExecuteMsg) (next : Except OperationError Querier → Activity)

/-- The activity has the account execute nothing. -/
def Activity.Ends : Activity → Prop
  | .done _ => True
  | .operation .. => False

/-! ## Operations -/

/-- A call of the account, and the chain in which it is made. -/
structure Operation where
  env : Env
  code : ForeignCode Activity
  info : MessageInfo
  msg : ExecuteMsg

/-- No other operation of the account starts while this one is in progress. -/
structure Operation.Alone (op : Operation) : Prop where
  execute : ∀ msg q, (op.code.execute msg q).Ends
  create : ∀ msg q, (op.code.create msg q).Ends

/-- An account, and the registered version of each of its modules. -/
structure World where
  state : AccountState
  installedAs : Map String Module

def recordModules (installedAs : Map String Module) (modules : List Module) : Map String Module :=
  insertAll installedAs (modules.map fun m => (m.info.moduleId, m))

/-- The registered versions after an operation. -/
def Operation.record (op : Operation) (installedAs : Map String Module) : Map String Module :=
  match op.msg with
  | .InstallModules modules => recordModules installedAs (resolved op.env (modules.map (·.info)))
  | .UninstallModule moduleId => installedAs.erase moduleId
  | .Upgrade modules => recordModules installedAs (replacements op.env modules)

/-- The chain after an operation, and the operations that were executed within it, each
    with the account before it.  What failed is not among them. -/
structure Outcome where
  querier : Querier
  nested : List (World × Operation)

abbrev OperationResult := Except OperationError (World × Outcome)

/-- What an activity makes of the account, after the operations so far. -/
abbrev Running := World → List (World × Operation) → OperationResult

def deliver (env : Env) (code : ForeignCode Running) (before : World × Outcome) (msg : CosmosMsg) :
    OperationResult :=
  let (w, out) := before
  match msg with
  | .InstallModules _ modules salt funds => do
    -- the factory is called by the account and resolves the modules again
    let (_, msgs) ← (executeCreateModules { env with querier := out.querier }
      { sender := env.address, funds } modules salt).mapError OperationError.Factory
    msgs.foldlM (fun before msg => code.create msg before.2.querier before.1 before.2.nested) (w, out)
  | .Migrate contractAddr newCodeId _ =>
    -- the account upgrades itself, in the same transaction
    if contractAddr = env.address then do
      let state ← (migrate (code.accountVersion newCodeId) w.state).mapError OperationError.Call
      return ({ w with state }, out)
    else code.execute msg out.querier w out.nested
  | .UpdateAuthorizedAddresses .. => code.execute msg out.querier w out.nested

/-- An operation: the command, its messages in order, and the reply. -/
def perform (op : Operation) (code : ForeignCode Running) (w : World)
    (nested : List (World × Operation)) : OperationResult := do
  let response ← (execute op.env op.info op.msg w.state).mapError OperationError.Call
  let (w, out) ← response.messages.foldlM (deliver op.env code)
    ({ state := response.state, installedAs := op.record w.installedAs },
      { querier := op.env.querier, nested })
  let state ← (runReply out.querier w.state response.replyOnSuccess).mapError OperationError.Call
  return ({ w with state }, out)

def Activity.run : Activity → Running
  | .done result, w, nested => do
    let querier ← result.mapError OperationError.Module
    return (w, { querier, nested })
  | .operation env execute create accountVersion info msg next, w, nested =>
    let op : Operation := { env, code := ⟨execute, create, accountVersion⟩, info, msg }
    match perform op ⟨fun msg q => (execute msg q).run, fun msg q => (create msg q).run,
        accountVersion⟩ w nested with
    | .ok (w', out) => (next (.ok out.querier)).run w' ((w, op) :: out.nested)
    -- what fails is rolled back, and may be caught
    | .error e => (next (.error e)).run w nested

/-- One top-level operation. -/
def exec (op : Operation) (w : World) : OperationResult :=
  perform op (op.code.map Activity.run) w []

/-! ## Operations without others within -/

section Alone

variable {env : Env} {op : Operation} {w w' : World} {out out' : Outcome}

/-- An activity that ends leaves the account alone. -/
theorem Activity.Ends.run_eq_ok {activity : Activity} {nested : List (World × Operation)}
    (ends : activity.Ends) (h : activity.run w nested = .ok (w', out)) :
    w' = w ∧ out.nested = nested := by
  cases activity with
  | done result =>
    simp only [Activity.run, bind_eq_ok, pure_eq_ok, Prod.mk.injEq] at h
    obtain ⟨_, _, rfl, rfl⟩ := h
    exact ⟨rfl, rfl⟩
  | operation => exact ends.elim

/-- Of the account, messages change the version at most. -/
theorem deliver_frame (alone : op.Alone) {msg : CosmosMsg}
    (h : deliver env (op.code.map Activity.run) (w, out) msg = .ok (w', out')) :
    ∃ contractVersion, w' = { w with state := { w.state with contractVersion } } := by
  cases msg with
  | InstallModules factory modules salt funds =>
    simp only [deliver, bind_eq_ok] at h
    obtain ⟨_, _, created⟩ := h
    refine ⟨w.state.contractVersion, ?_⟩
    refine foldlM_invariant (P := fun p => p.1 = w) ?_ rfl created
    rintro ⟨v, o⟩ msg ⟨v', o'⟩ _ same ok
    exact ((alone.create msg o.querier).run_eq_ok ok).1.trans same
  | Migrate contractAddr newCodeId msg =>
    simp only [deliver] at h
    split at h
    · simp only [migrate, bind_eq_ok, mapError_eq_ok, pure_eq_ok, Prod.mk.injEq] at h
      obtain ⟨_, ⟨_, _, _, _, rfl⟩, rfl, _⟩ := h
      exact ⟨_, rfl⟩
    · exact ⟨_, ((alone.execute _ _).run_eq_ok h).1⟩
  | UpdateAuthorizedAddresses adapter toAdd toRemove =>
    exact ⟨_, ((alone.execute _ _).run_eq_ok h).1⟩

theorem deliverAll_frame (alone : op.Alone) {msgs : List CosmosMsg}
    (h : msgs.foldlM (deliver env (op.code.map Activity.run)) (w, out) = .ok (w', out')) :
    ∃ contractVersion, w' = { w with state := { w.state with contractVersion } } := by
  refine foldlM_invariant (P := fun p => ∃ contractVersion,
    p.1 = { w with state := { w.state with contractVersion } }) ?_ ⟨_, rfl⟩ h
  rintro ⟨v, o⟩ msg ⟨v', o'⟩ _ ⟨version, same⟩ ok
  obtain ⟨version', rfl⟩ := deliver_frame alone ok
  exact ⟨version', by rw [show v = _ from same]⟩

/-- An operation is a command, then its messages, then its reply. -/
theorem exec_eq_ok (alone : op.Alone) (h : exec op w = .ok (w', out)) :
    ∃ response s contractVersion authAdmin,
      handle op.env op.info op.msg w.state = .ok response ∧
      s = { response.state with contractVersion, authAdmin } ∧
      runReply out.querier s response.replyOnSuccess = .ok w'.state ∧
      w'.installedAs = op.record w.installedAs := by
  simp only [exec, perform, execute, bind_eq_ok, mapError_eq_ok, pure_eq_ok, Prod.mk.injEq] at h
  obtain ⟨_, ⟨_, _, response, handled, rfl⟩, ⟨v, _⟩, delivered, state, replied, rfl, rfl⟩ := h
  obtain ⟨contractVersion, rfl⟩ := deliverAll_frame alone delivered
  exact ⟨response, _, contractVersion, _, handled, rfl, replied, rfl⟩

end Alone

/-- An uninstallation sends no messages. -/
theorem exec_of_uninstall {op : Operation} {w w' : World} {out : Outcome} {moduleId : String}
    (isUninstall : op.msg = .UninstallModule moduleId) (h : exec op w = .ok (w', out)) :
    ∃ s authAdmin, uninstallModule op.env op.info moduleId w.state = .ok s ∧
      w' = ⟨{ s with authAdmin }, w.installedAs.erase moduleId⟩ := by
  simp only [exec, perform, execute, isUninstall, handle, bind_eq_ok, mapError_eq_ok, pure_eq_ok,
    Prod.mk.injEq] at h
  obtain ⟨_, ⟨_, _, _, ⟨s, removed, rfl⟩, rfl⟩, ⟨v, _⟩, delivered, state, replied, rfl, rfl⟩ := h
  obtain ⟨rfl, rfl⟩ := Prod.mk.inj (Except.ok.inj delivered)
  obtain rfl := Except.ok.inj replied
  have record : op.record w.installedAs = w.installedAs.erase moduleId := by
    simp only [Operation.record, isUninstall]
  exact ⟨s, if op.env.xion then none else s.authAdmin, removed, by rw [← record]⟩

/-! ## Operations with others within -/

section Nested

variable {C : World → Operation → Prop} {P : World → Prop} {op : Operation} {w w' : World}
  {out out' : Outcome} {nested nested' : List (World × Operation)}

/-- The account has executed the command of the operation. -/
def Started (w : World) (op : Operation) : Prop :=
  ∃ response, handle op.env op.info op.msg w.state = .ok response

/-- The operation and all that are executed within it meet `C`, each in the state in which
    it starts. -/
def AllMeet (C : World → Operation → Prop) (w : World) (op : Operation) : Prop :=
  C w op ∧ ∀ result ∈ (exec op w).toOption, ∀ inner ∈ result.2.nested, C inner.1 inner.2

instance [∀ w op, Decidable (C w op)] (w : World) (op : Operation) : Decidable (AllMeet C w op) :=
  inferInstanceAs (Decidable (C w op ∧ ∀ result ∈ (exec op w).toOption,
    ∀ inner ∈ result.2.nested, C inner.1 inner.2))

/-- `P` is kept by the command of an operation that meets `C`, by the account's own
    migration, and by the replies. -/
structure Keeps (C : World → Operation → Prop) (P : World → Prop) : Prop where
  command : ∀ {w op response}, C w op → P w → handle op.env op.info op.msg w.state = .ok response →
    ∀ authAdmin, P ⟨{ response.state with authAdmin }, op.record w.installedAs⟩
  migration : ∀ {w contractVersion}, P w → P { w with state := { w.state with contractVersion } }
  reply : ∀ {w q id state}, P w → runReply q w.state id = .ok state → P { w with state }

/-- From one account to another by way of operations, of which the new ones have started
    where `P` holds, as it does in the end. -/
structure Carries (C : World → Operation → Prop) (P : World → Prop)
    (before after : World × List (World × Operation)) : Prop where
  earlier : ∀ inner ∈ before.2, inner ∈ after.2
  started : ∀ inner ∈ after.2, inner ∈ before.2 ∨ Started inner.1 inner.2
  holds : (∀ inner ∈ after.2, C inner.1 inner.2) → P before.1 →
    P after.1 ∧ ∀ inner ∈ after.2, inner ∈ before.2 ∨ P inner.1

theorem Carries.refl (before : World × List (World × Operation)) : Carries C P before before :=
  ⟨fun _ listed => listed, fun _ listed => .inl listed, fun _ held => ⟨held, fun _ listed => .inl listed⟩⟩

theorem Carries.of_kept {v : World} (kept : P w → P v) : Carries C P (w, nested) (v, nested) :=
  ⟨fun _ listed => listed, fun _ listed => .inl listed,
    fun _ held => ⟨kept held, fun _ listed => .inl listed⟩⟩

theorem Carries.trans {a b c : World × List (World × Operation)} (first : Carries C P a b)
    (second : Carries C P b c) : Carries C P a c where
  earlier inner listed := second.earlier inner (first.earlier inner listed)
  started inner listed := (second.started inner listed).elim (first.started inner) .inr
  holds meets held := by
    obtain ⟨heldThen, startsThen⟩ :=
      first.holds (fun inner listed => meets inner (second.earlier inner listed)) held
    obtain ⟨heldNow, startsNow⟩ := second.holds meets heldThen
    exact ⟨heldNow, fun inner listed => (startsNow inner listed).elim (startsThen inner) .inr⟩

/-- The messages of an operation, when the code that they reach carries the account on. -/
theorem deliver_carries (keeps : Keeps C P) {env : Env} {code : ForeignCode Running}
    (executes : ∀ {msg q w nested w' out}, code.execute msg q w nested = .ok (w', out) →
      Carries C P (w, nested) (w', out.nested))
    (creates : ∀ {msg q w nested w' out}, code.create msg q w nested = .ok (w', out) →
      Carries C P (w, nested) (w', out.nested))
    {msg : CosmosMsg} (h : deliver env code (w, out) msg = .ok (w', out')) :
    Carries C P (w, out.nested) (w', out'.nested) := by
  cases msg with
  | InstallModules factory modules salt funds =>
    simp only [deliver, bind_eq_ok] at h
    obtain ⟨_, _, created⟩ := h
    exact foldlM_relation (R := fun p p' : World × Outcome => Carries C P (p.1, p.2.nested)
      (p'.1, p'.2.nested)) (fun _ => .refl _) (fun first second => first.trans second)
      (fun _ _ _ _ ok => creates ok) created
  | Migrate contractAddr newCodeId msg =>
    simp only [deliver] at h
    split at h
    · simp only [migrate, bind_eq_ok, mapError_eq_ok, pure_eq_ok, Prod.mk.injEq] at h
      obtain ⟨_, ⟨_, _, _, _, rfl⟩, rfl, rfl⟩ := h
      exact .of_kept keeps.migration
    · exact executes h
  | UpdateAuthorizedAddresses adapter toAdd toRemove => exact executes h

/-- An operation carries the account on when the code that it reaches does. -/
theorem perform_carries (keeps : Keeps C P) {code : ForeignCode Running}
    (executes : ∀ {msg q w nested w' out}, code.execute msg q w nested = .ok (w', out) →
      Carries C P (w, nested) (w', out.nested))
    (creates : ∀ {msg q w nested w' out}, code.create msg q w nested = .ok (w', out) →
      Carries C P (w, nested) (w', out.nested))
    (h : perform op code w nested = .ok (w', out)) :
    Started w op ∧ ∃ v, (C w op → P w → P v) ∧ Carries C P (v, nested) (w', out.nested) := by
  simp only [perform, execute, bind_eq_ok, mapError_eq_ok, pure_eq_ok, Prod.mk.injEq] at h
  obtain ⟨_, ⟨_, _, response, handled, rfl⟩, ⟨v, _⟩, delivered, state, replied, rfl, rfl⟩ := h
  have carries := foldlM_relation (R := fun p p' : World × Outcome => Carries C P (p.1, p.2.nested)
    (p'.1, p'.2.nested)) (fun _ => .refl _) (fun first second => first.trans second)
    (fun _ _ _ _ ok => deliver_carries keeps executes creates ok) delivered
  exact ⟨⟨response, handled⟩, _, fun meets held => keeps.command meets held handled _,
    carries.trans (.of_kept fun held => keeps.reply held replied)⟩

/-- An activity carries the account on, one operation after the other. -/
theorem Activity.run_carries (keeps : Keeps C P) (activity : Activity)
    (h : activity.run w nested = .ok (w', out)) : Carries C P (w, nested) (w', out.nested) := by
  induction activity generalizing w nested w' out with
  | done result =>
    simp only [Activity.run, bind_eq_ok, pure_eq_ok, Prod.mk.injEq] at h
    obtain ⟨_, _, rfl, rfl⟩ := h
    exact .refl _
  | operation env execute create accountVersion info msg next ihExecute ihCreate ihNext =>
    simp only [Activity.run] at h
    split at h
    · rename_i v inner performed
      obtain ⟨started, u, starts, carries⟩ := perform_carries keeps
        (fun {msg q _ _ _ _} ok => ihExecute msg q ok) (fun {msg q _ _ _ _} ok => ihCreate msg q ok)
        performed
      have later := ihNext _ h
      refine ⟨fun i listed => ?_, fun i listed => ?_, fun meets held => ?_⟩
      · exact later.earlier i (List.mem_cons_of_mem _ (carries.earlier i listed))
      · rcases later.started i listed with before | isStarted
        · rcases List.mem_cons.mp before with rfl | within
          · exact .inr started
          · exact carries.started i within
        · exact .inr isStarted
      · have here := meets _ (later.earlier _ List.mem_cons_self)
        obtain ⟨heldThen, startsThen⟩ := carries.holds
          (fun i listed => meets i (later.earlier i (List.mem_cons_of_mem _ listed)))
          (starts here held)
        obtain ⟨heldNow, startsNow⟩ := later.holds meets heldThen
        refine ⟨heldNow, fun i listed => ?_⟩
        rcases startsNow i listed with before | isHeld
        · rcases List.mem_cons.mp before with rfl | within
          · exact .inr held
          · exact startsThen i within
        · exact .inr isHeld
    · exact ihNext _ h

/-- The rule for operations with others within: what their commands, the account's own
    migration and the replies keep holds in the end and wherever one of them starts. -/
theorem exec_carries (keeps : Keeps C P) (meets : AllMeet C w op) (held : P w)
    (h : exec op w = .ok (w', out)) :
    P w' ∧ Started w op ∧ ∀ inner ∈ out.nested, P inner.1 ∧ Started inner.1 inner.2 := by
  obtain ⟨started, v, starts, carries⟩ := perform_carries keeps
    (fun {msg q _ _ _ _} ok => Activity.run_carries keeps (op.code.execute msg q) ok)
    (fun {msg q _ _ _ _} ok => Activity.run_carries keeps (op.code.create msg q) ok) h
  obtain ⟨heldNow, startsNow⟩ := carries.holds
    (meets.2 (w', out) (toOption_eq_some.mpr h)) (starts meets.1 held)
  refine ⟨heldNow, started, fun inner listed => ⟨?_, ?_⟩⟩
  · exact (startsNow inner listed).resolve_left List.not_mem_nil
  · exact (carries.started inner listed).resolve_left List.not_mem_nil

end Nested

end AbstractFramework.Account
