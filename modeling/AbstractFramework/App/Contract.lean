import AbstractFramework.Lib.Machine
import AbstractFramework.Account.Operations
import AbstractFramework.IbcClient.Commands

/-! # Apps

The contract that every app is built on.  An app is the handlers that it is built with;
the contract stores which account it belongs to and what it is, and decides who may
reach which handler: anyone the one for messages, the ibc host of the registry the one
for messages of modules on other chains, its ibc client the one for callbacks, and the
chain the ones for replies and for sudo messages.  A handler is given the whole storage
of the contract, and may write all of it.

The second part is about the instances of apps.  An instance is called by anyone and
migrated to other codes of apps, any number of times.  What it keeps depends on the
handlers: a code has `KeepsBase` when none of its handlers writes what the contract
stores about itself.
-/

namespace AbstractFramework.App

open Fallible Storage Machine
open Account (AccountError Binary RegistryQueryError parseUnwrap assertContractUpgrade CONTRACT_VERSION)
open IbcClient (Callback IbcResult)

section Model

variable [Crates]

structure AppEnv where
  address : Addr
  block : BlockInfo
  chainName : TruncatedChainId
  querier : Querier
  registry : RegistryState

inductive AppError where
  | Std (e : StdError)
  | Abstract (e : AbstractError)
  | Registry (e : RegistryQueryError)
  /-- An error of `assert_contract_upgrade`. -/
  | Upgrade (e : AccountError)
  | MissingHandler (endpoint : String)
  | ModuleIbcNotCalledByHost (caller hostAddr : Addr) (module : String)
  | CallbackNotCalledByIbcClient (caller clientAddr : Addr) (module : String)
  | NoModuleIbcHandler (module : String)
  | MissingDependency (module : String)
  | NotPingPong (sourceModule : ModuleInfo)
  | FirstPlayMustBePing
  /-- A failed `expect` or index, or an addition that overflows. -/
  | Panicked (text : String)

/-- `Response`, with the action of the `abstract` event of `AbstractResponse`. -/
structure Response (M : Type) where
  action : Option String
  attributes : List (String × String)
  messages : List M

def Response.empty {M : Type} : Response M := { action := none, attributes := [], messages := [] }

/-- What the contract stores besides the handlers' own state. -/
structure AppBase where
  /-- The account of `BASE_STATE`. -/
  account : Addr
  /-- The `ADMIN` item. -/
  admin : Option Addr
  moduleData : ModuleData
  contractVersion : ContractVersion

structure AppStorage (S : Type) extends AppBase where
  custom : S

/-- The sender of a message of a module on another chain. -/
structure ModuleIbcInfo where
  chain : TruncatedChainId
  module : ModuleInfo

abbrev AppResult (R : Type) := Except AppError R

/-- The sender of a migration, and the version that the chain has of the code before. -/
structure MigrateInfo where
  sender : Addr
  oldMigrateVersion : Option Nat

/-- The answer to a submessage. -/
structure Reply where
  id : Nat
  payload : Binary
  result : Except String IbcClient.SubMsgResponse

/-- A handler, with what it is called with: it reads and writes the storage. -/
abbrev Handler (S M : Type) := AppStorage S → AppResult (AppStorage S × Response M)

/-- The code of an app, by its handlers: messages `I`, `X`, `G` and `U` for the
    instantiation, execution, migration and sudo, own state `S`, and messages `M` to others. -/
structure AppContract (S I X G U M : Type) where
  moduleId : String
  version : String
  dependencies : List Dependency
  instantiateHandler : Option (AppEnv → MessageInfo → I → Handler S M)
  executeHandler : Option (AppEnv → MessageInfo → X → Handler S M)
  moduleIbcHandler : Option (AppEnv → ModuleIbcInfo → Binary → Handler S M)
  ibcCallbackHandler : Option (AppEnv → Callback → IbcResult → Handler S M)
  migrateHandler : Option (AppEnv → G → MigrateInfo → Handler S M)
  sudoHandler : Option (AppEnv → U → Handler S M)
  /-- The handlers of the contract's base, and those of the app. -/
  replyHandlers : List (List (Nat × (AppEnv → Reply → Handler S M)))

inductive ExecuteMsg (X : Type) where
  | Module (request : X)
  | IbcCallback (callback : Callback) (result : IbcResult)
  | ModuleIbc (srcModuleInfo : ModuleIbcInfo) (msg : Binary)

/-! ## The registry -/

/-- `abstract_registry`, by the code id of the account. -/
def AppEnv.assertRegistry (env : AppEnv) (base : AppBase) : AppResult Unit := do
  let contract ← (env.querier.queryWasmContractInfo base.account).mapError AppError.Std
  let _ ← okOr (env.querier.registryAddress contract.codeId)
    (AppError.Std (.notFound "registry address"))

def AppEnv.nativeModule (env : AppEnv) (base : AppBase) (moduleId : String) : AppResult Addr := do
  env.assertRegistry base
  let info ← (ModuleInfo.fromId moduleId (.Version CONTRACT_VERSION)).mapError AppError.Abstract
  let (module, _) ← (env.registry.queryModule info).mapError
    fun e => AppError.Registry (.QueryFailed "query_modules_configs" e)
  module.reference.unwrapNative.mapError AppError.Abstract

def AppEnv.ibcHost (env : AppEnv) (base : AppBase) : AppResult Addr :=
  env.nativeModule base IBC_HOST

def AppEnv.ibcClientAddr (env : AppEnv) (base : AppBase) : AppResult Addr :=
  env.nativeModule base IBC_CLIENT

/-! ## Entry points -/

section EntryPoints

variable {S I X G U M : Type} (app : AppContract S I X G U M)

def AppContract.moduleInfo : AppResult ModuleInfo :=
  (ModuleInfo.fromId app.moduleId (.Version app.version)).mapError AppError.Abstract

/-- `set_module_data` and `set_contract_version`. -/
def AppContract.describe (base : AppBase) : AppBase :=
  { base with
    moduleData := { module := app.moduleId, version := app.version, dependencies := app.dependencies }
    contractVersion := { contract := app.moduleId, version := app.version } }

/-- A handler that may be missing. -/
def orEmpty (handler : Option (Handler S M)) : Handler S M := fun s =>
  match handler with
  | some handler => handler s
  | none => .ok (s, .empty)

/-- Whoever instantiates the app names the account. -/
def AppContract.instantiate (env : AppEnv) (info : MessageInfo) (account : Addr) (msg : I)
    (fresh : S) : AppResult (AppStorage S × Response M) :=
  let data : ModuleData :=
    { module := app.moduleId, version := app.version, dependencies := app.dependencies }
  let base : AppBase :=
    { account
      admin := some account
      moduleData := data
      contractVersion := { contract := app.moduleId, version := app.version } }
  orEmpty (app.instantiateHandler.map fun handler => handler env info msg) { base with custom := fresh }

/-- Only an IBC host can call this endpoint. -/
def AppContract.moduleIbc (env : AppEnv) (info : MessageInfo) (srcModuleInfo : ModuleIbcInfo)
    (msg : Binary) : Handler S M := fun s => do
  let ibcHost ← env.ibcHost s.toAppBase
  ensure (info.sender = ibcHost) (.ModuleIbcNotCalledByHost info.sender ibcHost app.moduleId)
  let handler ← okOr app.moduleIbcHandler (.NoModuleIbcHandler app.moduleId)
  handler env srcModuleInfo msg s

def AppContract.ibcCallback (env : AppEnv) (info : MessageInfo) (callback : Callback)
    (result : IbcResult) : Handler S M := fun s => do
  -- make sure that the module has the ibc client as a dependency
  ensure (app.dependencies.any (·.id == IBC_CLIENT) = true)
    (.Std (.msg ("Ibc Client is not dependency of " ++ app.moduleId)))
  let ibcClient ← env.ibcClientAddr s.toAppBase
  ensure (info.sender = ibcClient)
    (.CallbackNotCalledByIbcClient info.sender ibcClient app.moduleId)
  let handler ← okOr app.ibcCallbackHandler (.NoModuleIbcHandler app.moduleId)
  handler env callback result s

def AppContract.execute (env : AppEnv) (info : MessageInfo) (msg : ExecuteMsg X) : Handler S M :=
  fun s =>
    match msg with
    | .Module request => do
      let handler ← okOr app.executeHandler (.MissingHandler "execution handler")
      handler env info request s
    | .IbcCallback callback result => app.ibcCallback env info callback result s
    | .ModuleIbc srcModuleInfo msg => app.moduleIbc env info srcModuleInfo msg s

/-- The storage of an instance becomes that of this code. -/
def AppContract.migrate (env : AppEnv) (msg : G) (info : MigrateInfo) : Handler S M := fun s => do
  let toVersion ← (parseUnwrap app.version).mapError AppError.Upgrade
  (assertContractUpgrade s.contractVersion app.moduleId toVersion).mapError AppError.Upgrade
  orEmpty (app.migrateHandler.map fun handler => handler env msg info)
    { app.describe s.toAppBase with custom := s.custom }

/-- The first handler with the id, the contract's base before the app. -/
def AppContract.replyHandler (id : Nat) : AppResult (AppEnv → Reply → Handler S M) := do
  let (_, handler) ← okOr (app.replyHandlers.flatten.find? fun entry => entry.1 == id)
    (.MissingHandler ("reply with id " ++ toString id))
  return handler

def AppContract.reply (env : AppEnv) (msg : Reply) : Handler S M := fun s => do
  let handler ← app.replyHandler msg.id
  handler env msg s

def AppContract.sudo (env : AppEnv) (msg : U) : Handler S M := fun s => do
  let handler ← okOr app.sudoHandler (.MissingHandler "sudo")
  handler env msg s

end EntryPoints

/-! ## Instances -/

/-- An instance of an app, with the code that it runs. -/
structure Instance (S I X G U M : Type) where
  code : AppContract S I X G U M
  storage : AppStorage S

inductive Input (S I X G U M : Type) where
  | call (env : AppEnv) (info : MessageInfo) (msg : ExecuteMsg X)
  | reply (env : AppEnv) (msg : Reply)
  | sudoCall (env : AppEnv) (msg : U)
  | migrate (code : AppContract S I X G U M) (env : AppEnv) (msg : G) (info : MigrateInfo)

def Input.exec {S I X G U M : Type} (input : Input S I X G U M) (a : Instance S I X G U M) :
    AppResult (Instance S I X G U M × Response M) :=
  match input with
  | .call env info msg => do
    let (storage, response) ← a.code.execute env info msg a.storage
    return ({ a with storage }, response)
  | .reply env msg => do
    let (storage, response) ← a.code.reply env msg a.storage
    return ({ a with storage }, response)
  | .sudoCall env msg => do
    let (storage, response) ← a.code.sudo env msg a.storage
    return ({ a with storage }, response)
  | .migrate code env msg info => do
    let (storage, response) ← code.migrate env msg info a.storage
    return ({ code, storage }, response)

end Model

/-! ## Handlers that keep to their own state -/

section Base

variable [Crates] {S I X G U M : Type} {app : AppContract S I X G U M} {s s' : AppStorage S}
  {response : Response M}

/-- The handler does not write what the contract stores about itself. -/
def LeavesBase (handler : Handler S M) : Prop :=
  ∀ s s' response, handler s = .ok (s', response) → s'.toAppBase = s.toAppBase

/-- None of the handlers of the code writes what the contract stores about itself. -/
structure AppContract.KeepsBase (app : AppContract S I X G U M) : Prop where
  instantiate : ∀ handler ∈ app.instantiateHandler, ∀ env info msg, LeavesBase (handler env info msg)
  execute : ∀ handler ∈ app.executeHandler, ∀ env info msg, LeavesBase (handler env info msg)
  moduleIbc : ∀ handler ∈ app.moduleIbcHandler, ∀ env src msg, LeavesBase (handler env src msg)
  ibcCallback : ∀ handler ∈ app.ibcCallbackHandler, ∀ env callback result,
    LeavesBase (handler env callback result)
  migrate : ∀ handler ∈ app.migrateHandler, ∀ env msg info, LeavesBase (handler env msg info)
  sudoCall : ∀ handler ∈ app.sudoHandler, ∀ env msg, LeavesBase (handler env msg)
  reply : ∀ entry ∈ app.replyHandlers.flatten, ∀ env msg, LeavesBase (entry.2 env msg)

/-- A code that the instance is migrated to keeps the base too. -/
def Input.KeepsBase : Input S I X G U M → Prop
  | .migrate code _ _ _ => code.KeepsBase
  | .call .. | .reply .. | .sudoCall .. => True

theorem orEmpty_leavesBase {handler : Option (Handler S M)}
    (leaves : ∀ h ∈ handler, LeavesBase h) : LeavesBase (orEmpty handler) := by
  intro s s' response ok
  cases handler with
  | none =>
    obtain ⟨rfl, _⟩ := Prod.mk.inj (Except.ok.inj ok)
    rfl
  | some handler => exact leaves handler rfl s s' response ok

theorem map_leavesBase {H : Type} {handler : Option H} {given : H → Handler S M}
    (leaves : ∀ h ∈ handler, LeavesBase (given h)) : ∀ h ∈ handler.map given, LeavesBase h := by
  intro h isMap
  obtain ⟨found, isFound, rfl⟩ := Option.map_eq_some_iff.mp isMap
  exact leaves found isFound

theorem AppContract.KeepsBase.of_execute (keeps : app.KeepsBase) (env : AppEnv) (info : MessageInfo)
    (msg : ExecuteMsg X) : LeavesBase (app.execute env info msg) := by
  intro s s' response ok
  cases msg with
  | Module request =>
    simp only [AppContract.execute, bind_eq_ok, okOr_eq_ok] at ok
    obtain ⟨handler, found, ok⟩ := ok
    exact keeps.execute handler found env info request s s' response ok
  | IbcCallback callback result =>
    simp only [AppContract.execute, AppContract.ibcCallback, bind_eq_ok, okOr_eq_ok] at ok
    obtain ⟨_, _, _, _, _, _, handler, found, ok⟩ := ok
    exact keeps.ibcCallback handler found env callback result s s' response ok
  | ModuleIbc src msg =>
    simp only [AppContract.execute, AppContract.moduleIbc, bind_eq_ok, okOr_eq_ok] at ok
    obtain ⟨_, _, _, _, handler, found, ok⟩ := ok
    exact keeps.moduleIbc handler found env src msg s s' response ok

theorem AppContract.KeepsBase.of_sudo (keeps : app.KeepsBase) (env : AppEnv) (msg : U) :
    LeavesBase (app.sudo env msg) := by
  intro s s' response ok
  simp only [AppContract.sudo, bind_eq_ok, okOr_eq_ok] at ok
  obtain ⟨handler, found, ok⟩ := ok
  exact keeps.sudoCall handler found env msg s s' response ok

theorem AppContract.KeepsBase.of_reply (keeps : app.KeepsBase) (env : AppEnv) (msg : Reply) :
    LeavesBase (app.reply env msg) := by
  intro s s' response ok
  simp only [AppContract.reply, AppContract.replyHandler, bind_eq_ok, okOr_eq_ok, pure_eq_ok] at ok
  obtain ⟨_, ⟨entry, found, rfl⟩, ok⟩ := ok
  exact keeps.reply entry (List.mem_of_find?_eq_some found) env msg s s' response ok

/-- A migration writes the description of the new code, and nothing else of the base. -/
theorem AppContract.KeepsBase.of_migrate (keeps : app.KeepsBase) {env : AppEnv} {msg : G}
    {info : MigrateInfo} (ok : app.migrate env msg info s = .ok (s', response)) :
    s'.toAppBase = app.describe s.toAppBase ∧ ∃ w, Crates.parseVersion app.version = .ok w ∧
      assertContractUpgrade s.contractVersion app.moduleId w = .ok () := by
  simp only [AppContract.migrate, parseUnwrap, bind_eq_ok, mapError_eq_ok] at ok
  obtain ⟨w, parsed, _, upgrade, ok⟩ := ok
  refine ⟨?_, w, parsed, upgrade⟩
  exact orEmpty_leavesBase (map_leavesBase fun h found => keeps.migrate h found env msg info) _ _ _ ok

end Base

section Identity

variable [Crates] {S I X G U M : Type} {a a' : Instance S I X G U M} {response : Response M}

/-- The storage says what the code is. -/
structure Describes (a : Instance S I X G U M) : Prop where
  contractVersion : a.storage.contractVersion = ⟨a.code.moduleId, a.code.version⟩
  moduleData : a.storage.moduleData = ⟨a.code.moduleId, a.code.version, a.code.dependencies⟩

/-- The version after one migration. -/
def Upgrades (v w : Crates.Version) : Prop := Crates.versionLt v w = true ∧ Account.noSkips v w = true

/-- The version that an instance stores. -/
def Instance.Stores (a : Instance S I X G U M) (v : Crates.Version) : Prop :=
  Crates.parseVersion a.storage.contractVersion.version = .ok v

/-- What a step of an instance leaves as it was. -/
structure Continues (a a' : Instance S I X G U M) : Prop where
  account : a'.storage.account = a.storage.account
  admin : a'.storage.admin = a.storage.admin
  moduleId : a'.code.moduleId = a.code.moduleId
  describes : Describes a'
  version : a'.storage.contractVersion = a.storage.contractVersion ∨
    ∃ v w, a.Stores v ∧ a'.Stores w ∧ Upgrades v w

theorem assertContractUpgrade_eq_ok {stored : ContractVersion} {name : String}
    {w : Crates.Version} {u : Unit} (h : assertContractUpgrade stored name w = .ok u) :
    stored.contract = name ∧ ∃ v, Crates.parseVersion stored.version = .ok v ∧ Upgrades v w := by
  simp only [assertContractUpgrade, parseUnwrap, bind_eq_ok, ensure_eq_ok, mapError_eq_ok] at h
  obtain ⟨_, same, v, parsed, _, greater, noSkips⟩ := h
  exact ⟨same, v, parsed, greater, noSkips⟩

theorem Continues.of_sameBase {storage : AppStorage S} (describes : Describes a)
    (same : storage.toAppBase = a.storage.toAppBase) : Continues a { a with storage } where
  account := congrArg AppBase.account same
  admin := congrArg AppBase.admin same
  moduleId := rfl
  describes :=
    ⟨(congrArg AppBase.contractVersion same).trans describes.contractVersion,
      (congrArg AppBase.moduleData same).trans describes.moduleData⟩
  version := .inl (congrArg AppBase.contractVersion same)

theorem exec_continues {input : Input S I X G U M} (keeps : a.code.KeepsBase)
    (keepsNext : input.KeepsBase) (describes : Describes a)
    (ok : input.exec a = .ok (a', response)) : Continues a a' ∧ a'.code.KeepsBase := by
  cases input with
  | call env info msg =>
    simp only [Input.exec, bind_eq_ok, pure_eq_ok, Prod.mk.injEq] at ok
    obtain ⟨⟨storage, _⟩, ran, rfl, _⟩ := ok
    exact ⟨.of_sameBase describes (keeps.of_execute env info msg _ _ _ ran), keeps⟩
  | reply env msg =>
    simp only [Input.exec, bind_eq_ok, pure_eq_ok, Prod.mk.injEq] at ok
    obtain ⟨⟨storage, _⟩, ran, rfl, _⟩ := ok
    exact ⟨.of_sameBase describes (keeps.of_reply env msg _ _ _ ran), keeps⟩
  | sudoCall env msg =>
    simp only [Input.exec, bind_eq_ok, pure_eq_ok, Prod.mk.injEq] at ok
    obtain ⟨⟨storage, _⟩, ran, rfl, _⟩ := ok
    exact ⟨.of_sameBase describes (keeps.of_sudo env msg _ _ _ ran), keeps⟩
  | migrate code env msg info =>
    simp only [Input.exec, bind_eq_ok, pure_eq_ok, Prod.mk.injEq] at ok
    obtain ⟨⟨storage, _⟩, ran, rfl, _⟩ := ok
    obtain ⟨described, w, isNew, upgrade⟩ := keepsNext.of_migrate ran
    obtain ⟨sameName, v, isOld, upgrades⟩ := assertContractUpgrade_eq_ok upgrade
    rw [describes.contractVersion] at sameName
    have account : storage.account = a.storage.account := by rw [described]; rfl
    have admin : storage.admin = a.storage.admin := by rw [described]; rfl
    have stored : storage.contractVersion = ⟨code.moduleId, code.version⟩ :=
      congrArg AppBase.contractVersion described
    refine ⟨⟨account, admin, sameName.symm, ⟨stored, congrArg AppBase.moduleData described⟩,
      .inr ⟨v, w, isOld, ?_, upgrades⟩⟩, keepsNext⟩
    unfold Instance.Stores
    rw [stored]
    exact isNew

theorem Instance.Stores.unique {v w : Crates.Version} (first : a.Stores v) (second : a.Stores w) :
    v = w :=
  Except.ok.inj (first.symm.trans second)

/-- A run of an instance, from its start. -/
theorem run_continues (keeps : a.code.KeepsBase) (describes : Describes a)
    {inputs : List (Input S I X G U M)}
    (keepsNext : AlongAccepted Input.exec (fun _ input => input.KeepsBase) a inputs) :
    let a' := run Input.exec a inputs
    a'.storage.account = a.storage.account ∧ a'.storage.admin = a.storage.admin ∧
      a'.code.moduleId = a.code.moduleId ∧ Describes a' ∧ a'.code.KeepsBase ∧
      ∀ v, a.Stores v → ∃ w, a'.Stores w ∧ Relation.ReflTransGen Upgrades v w := by
  refine run_invariant_accepted (P := fun a' : Instance S I X G U M =>
    a'.storage.account = a.storage.account ∧ a'.storage.admin = a.storage.admin ∧
      a'.code.moduleId = a.code.moduleId ∧ Describes a' ∧ a'.code.KeepsBase ∧
      ∀ v, a.Stores v → ∃ w, a'.Stores w ∧ Relation.ReflTransGen Upgrades v w) ?_
    ⟨rfl, rfl, rfl, describes, keeps, fun v stores => ⟨v, stores, .refl⟩⟩ keepsNext
  rintro m i m' r next ⟨account, admin, moduleId, describes, keeps, versions⟩ ok
  obtain ⟨continues, keepsNow⟩ := exec_continues keeps next describes ok
  refine ⟨continues.account.trans account, continues.admin.trans admin,
    continues.moduleId.trans moduleId, continues.describes, keepsNow, fun v stores => ?_⟩
  obtain ⟨w, storesNow, way⟩ := versions v stores
  rcases continues.version with same | ⟨w', u, storesBefore, storesAfter, upgrades⟩
  · refine ⟨w, ?_, way⟩
    unfold Instance.Stores at storesNow ⊢
    rw [same]
    exact storesNow
  · obtain rfl := storesNow.unique storesBefore
    exact ⟨u, storesAfter, way.tail upgrades⟩

theorem instantiate_describes {code : AppContract S I X G U M} (keeps : code.KeepsBase) {env : AppEnv}
    {info : MessageInfo} {account : Addr} {msg : I} {fresh : S} {storage : AppStorage S}
    (created : code.instantiate env info account msg fresh = .ok (storage, response)) :
    storage.account = account ∧ storage.admin = some account ∧
      Describes (⟨code, storage⟩ : Instance S I X G U M) := by
  have same := orEmpty_leavesBase
    (map_leavesBase fun h found => keeps.instantiate h found env info msg) _ _ _ created
  exact ⟨congrArg AppBase.account same, congrArg AppBase.admin same,
    congrArg AppBase.contractVersion same, congrArg AppBase.moduleData same⟩

/-- The major version that an instance stores. -/
def Instance.major (a : Instance S I X G U M) : Nat :=
  (Crates.parseVersion a.storage.contractVersion.version).toOption.elim 0 Crates.major

theorem Instance.Stores.major {v : Crates.Version} (stores : a.Stores v) :
    a.major = Crates.major v := by
  unfold Stores at stores
  simp [Instance.major, stores, Except.toOption]

theorem Continues.major_le (continues : Continues a a') : a'.major ≤ a.major + 1 := by
  rcases continues.version with same | ⟨v, w, storesBefore, storesAfter, _, noSkips⟩
  · unfold Instance.major
    rw [same]
    exact Nat.le_succ _
  · rw [storesBefore.major, storesAfter.major]
    simp only [Account.noSkips, Bool.or_eq_true, Bool.and_eq_true, beq_iff_eq] at noSkips
    omega

/-- A run takes every major version between the first one and the one in the end. -/
theorem takes_major (keeps : a.code.KeepsBase) (describes : Describes a)
    {inputs : List (Input S I X G U M)} {m : Nat}
    (keepsNext : AlongAccepted Input.exec (fun _ input => input.KeepsBase) a inputs)
    (low : a.major ≤ m) (high : m ≤ (run Input.exec a inputs).major) :
    ∃ before later, inputs = before ++ later ∧ (run Input.exec a before).major = m := by
  refine run_takes_value (P := fun a : Instance S I X G U M => a.code.KeepsBase ∧ Describes a)
    ?_ ⟨keeps, describes⟩ keepsNext low high
  rintro m i m' r next ⟨keeps, describes⟩ ok
  obtain ⟨continues, keepsNow⟩ := exec_continues keeps next describes ok
  exact ⟨⟨keepsNow, continues.describes⟩, continues.major_le⟩

/-- Whatever is called and whatever code it is migrated to, as long as the handlers of these
    codes keep to their own state: the storage of an instance stays with the account it was
    created for, as its account and in the `ADMIN` item, the instance keeps its module id,
    the data that it stores describes the code that it runs, and its version only goes up,
    through every major version on the way. -/
theorem instance_keeps_identity {code : AppContract S I X G U M} (keeps : code.KeepsBase)
    {env : AppEnv} {info : MessageInfo} {account : Addr} {msg : I} {fresh : S}
    {storage : AppStorage S}
    (created : code.instantiate env info account msg fresh = .ok (storage, response))
    (inputs : List (Input S I X G U M))
    (keepsNext : AlongAccepted Input.exec (fun _ input => input.KeepsBase) ⟨code, storage⟩ inputs) :
    let a := run Input.exec ⟨code, storage⟩ inputs
    a.storage.account = account ∧ a.storage.admin = some account ∧
      a.code.moduleId = code.moduleId ∧ Describes a ∧
      ∀ v, Crates.parseVersion code.version = .ok v →
        ∃ w, Crates.parseVersion a.code.version = .ok w ∧ Relation.ReflTransGen Upgrades v w ∧
          ∀ m, Crates.major v ≤ m → m ≤ Crates.major w → ∃ before later u,
            inputs = before ++ later ∧
            (run Input.exec ⟨code, storage⟩ before).Stores u ∧ Crates.major u = m := by
  intro a
  obtain ⟨isAccount, isAdmin, describes⟩ := instantiate_describes keeps created
  obtain ⟨sameAccount, sameAdmin, sameId, describesNow, _, versions⟩ :=
    run_continues keeps describes keepsNext
  refine ⟨sameAccount.trans isAccount, sameAdmin.trans isAdmin, sameId, describesNow,
    fun v parsed => ?_⟩
  have starts : (⟨code, storage⟩ : Instance S I X G U M).Stores v := by
    unfold Instance.Stores
    rw [describes.contractVersion]
    exact parsed
  obtain ⟨w, stores, way⟩ := versions v starts
  refine ⟨w, ?_, way, fun m low high => ?_⟩
  · unfold Instance.Stores at stores
    rw [describesNow.contractVersion] at stores
    exact stores
  · obtain ⟨before, later, split, takes⟩ := takes_major keeps describes keepsNext
      (starts.major.trans_le low) (high.trans_eq stores.major.symm)
    -- the state in which the major version is taken stores a version that parses
    have keepsThen := (alongAccepted_append.mp (split ▸ keepsNext)).1
    obtain ⟨u, storesThen, _⟩ := (run_continues keeps describes keepsThen).2.2.2.2.2 v starts
    exact ⟨before, later, u, split, storesThen, storesThen.major.symm.trans takes⟩

end Identity

section Sample

attribute [local instance] releaseCrates

/-- A version of an app that counts its replies. -/
def sampleApp (version : String) : AppContract Nat Unit Unit Unit Unit Unit where
  moduleId := "pub:app"
  version
  dependencies := []
  instantiateHandler := none
  executeHandler := none
  moduleIbcHandler := none
  ibcCallbackHandler := none
  migrateHandler := none
  sudoHandler := none
  replyHandlers := [[], [(1, fun _ _ s => .ok ({ s with custom := s.custom + 1 }, .empty))]]

theorem sampleApp_keepsBase (version : String) : (sampleApp version).KeepsBase where
  instantiate _ found := nomatch found
  execute _ found := nomatch found
  moduleIbc _ found := nomatch found
  ibcCallback _ found := nomatch found
  migrate _ found := nomatch found
  sudoCall _ found := nomatch found
  reply entry found env msg s s' response ok := by
    simp only [sampleApp, List.flatten_cons, List.nil_append, List.flatten_nil, List.append_nil,
      List.mem_singleton] at found
    subst found
    obtain ⟨rfl, _⟩ := Prod.mk.inj (Except.ok.inj ok)
    rfl

/-- A registry of which nothing is asked. -/
def emptyRegistry : RegistryState where
  config := { securityEnabled := true, namespaceRegistrationFee := none }
  ownership := none
  pendingModules := ∅
  registeredModules := ∅
  yankedModules := ∅
  standaloneInfos := ∅
  serviceInfos := ∅
  moduleConfig := ∅
  moduleDefaultConfig := ∅
  accountAddresses := ∅
  localAccountSequence := 0
  namespaces := ∅
  revNamespaces := ∅

def sampleAppEnv : AppEnv where
  address := ⟨"app"⟩
  block := { height := 1, time := 1 }
  chainName := ⟨"juno"⟩
  querier := { contract := fun _ => none, codeInfo := fun _ => none, registryAddress := fun _ => none }
  registry := emptyRegistry

/-- From 1.0.0 to 3.0.0, with an attempt to go back, and a reply. -/
def sampleUpgrades : List (Input Nat Unit Unit Unit Unit Unit) :=
  .reply sampleAppEnv { id := 1, payload := [], result := .ok ⟨[]⟩ } ::
    ["2.0.0", "1.0.0", "3.0.0"].map fun version =>
      .migrate (sampleApp version) sampleAppEnv () ⟨⟨"acc"⟩, none⟩

def sampleStorage : AppStorage Nat where
  account := ⟨"acc"⟩
  admin := some ⟨"acc"⟩
  moduleData := { module := "pub:app", version := "1.0.0", dependencies := [] }
  contractVersion := { contract := "pub:app", version := "1.0.0" }
  custom := 0

theorem created_sampleApp :
    (sampleApp "1.0.0").instantiate sampleAppEnv { sender := ⟨"anyone"⟩, funds := [] } ⟨"acc"⟩ () 0
      = .ok (sampleStorage, .empty) :=
  rfl

theorem instance_keeps_identity_upgraded :
    (run Input.exec ⟨sampleApp "1.0.0", sampleStorage⟩ sampleUpgrades).storage.custom = 1 ∧
      (run Input.exec ⟨sampleApp "1.0.0", sampleStorage⟩ sampleUpgrades).storage.contractVersion =
        ⟨"pub:app", "3.0.0"⟩ ∧
      ∃ before later u, sampleUpgrades = before ++ later ∧
        (run Input.exec ⟨sampleApp "1.0.0", sampleStorage⟩ before).Stores u ∧ Crates.major u = 2 := by
  refine ⟨rfl, rfl, ?_⟩
  have keepsNext : ∀ input ∈ sampleUpgrades, input.KeepsBase := by
    simp [sampleUpgrades, Input.KeepsBase, sampleApp_keepsBase]
  obtain ⟨w, parsed, _, takes⟩ :=
    (instance_keeps_identity (sampleApp_keepsBase "1.0.0") created_sampleApp sampleUpgrades
      (along_of_forall keepsNext).accepted).2.2.2.2 ((1, 0, 0) : Nat × Nat × Nat) rfl
  obtain rfl : ((3, 0, 0) : Nat × Nat × Nat) = w := Except.ok.inj parsed
  exact takes 2 (by decide) (by decide)

end Sample

end AbstractFramework.App
