import AbstractFramework.IbcClient.Notes

/-! # Packets of modules

A module sends packets in its own name.  The client finds out who the sender is: it
asks the sender which module it is, compares the answer with the registry, and for an
app asks the sender for its account and the registry for that account.

`speaksFor_iff_installed` says for which senders the packet is right: the registered
contract of an adapter, and an app that the account it names has installed.  An app
is recognised by its code alone, so that another instance of the code may name any
account.
-/

namespace AbstractFramework.IbcClient

open Fallible Storage Accounts
open Account hiding World

section Model

variable [Crates] [Xion]

/-! ## Who a packet speaks for -/

/-- The module that a message to a note speaks for. -/
def ClientSubMsg.source (sub : ClientSubMsg) : Option IbcHost.InstalledModuleIdentification :=
  match sub.msg with
  | .Note _ (.Execute [{ contractAddr := _, msg := .ModuleExecute source _ _ }] _ _) => some source
  | _ => none

/-- The sender is the module that the packet names: the adapter that is registered, or
    the app that is installed on the account of the packet, which has the client. -/
def SpeaksFor (env : ClientEnv) (sender : Addr) (source : IbcHost.InstalledModuleIdentification) :
    Prop :=
  (env.registry.registeredModules.lookup source.moduleInfo.key = some (.Adapter sender) ∧
    source.accountId = none) ∨
  ∃ codeId id account client,
    env.registry.registeredModules.lookup source.moduleInfo.key = some (.App codeId) ∧
    source.accountId = some id ∧
    env.registry.accountAddresses.lookup id.storageKey = some account ∧
    env.queryAccountModule account IBC_CLIENT = .ok (some client) ∧
    env.queryAccountModule account source.moduleInfo.moduleId = .ok (some sender)

/-- The module that the sender reports is an adapter, or the account that the sender stores
    has it installed. -/
def Installed (env : ClientEnv) (sender : Addr) : Prop :=
  ∃ data info reference, env.querier.queryModuleData sender = .ok data ∧
    ModuleInfo.fromId data.module (.Version data.version) = .ok info ∧
    env.registry.registeredModules.lookup info.key = some reference ∧
    ((∃ adapter, reference = .Adapter adapter) ∨
      ∃ account, env.queryBaseState sender = .ok account ∧
        env.queryAccountModule account info.moduleId = .ok (some sender))

section Inversion

variable {env : ClientEnv} {sender : Addr} {module : Module}
  {source : IbcHost.InstalledModuleIdentification}

omit [Xion] in
theorem fromId_version {id : String} {version : ModuleVersion} {info : ModuleInfo}
    (h : ModuleInfo.fromId id version = .ok info) : info.version = version := by
  unfold ModuleInfo.fromId at h
  split at h
  · simp only [bind_eq_ok, pure_eq_ok] at h
    obtain ⟨_, _, rfl⟩ := h
    rfl
  · cases h

omit [Xion] in
/-- The registry answers for a specific version with that version. -/
theorem queryModule_version {info : ModuleInfo} {version : String}
    (specific : info.version = .Version version) (h : env.queryModule info = .ok module) :
    module.info = info ∧
      env.registry.registeredModules.lookup info.key = some module.reference := by
  simp only [ClientEnv.queryModule, RegistryState.queryModule, specific, bind_eq_ok,
    mapError_eq_ok, okOr_eq_ok, pure_eq_ok] at h
  obtain ⟨⟨_, _⟩, ⟨reference, stored, same⟩, rfl⟩ := h
  obtain ⟨rfl, _⟩ := Prod.mk.inj same
  exact ⟨rfl, stored⟩

omit [Xion] in
/-- The module of an address is the one that it reports, as the registry has it. -/
theorem moduleInfo_eq_ok (h : env.moduleInfo sender = .ok module) :
    ∃ data, env.querier.queryModuleData sender = .ok data ∧
      ModuleInfo.fromId data.module (.Version data.version) = .ok module.info ∧
      env.registry.registeredModules.lookup module.info.key = some module.reference ∧
      ∀ adapter, module.reference = .Adapter adapter → adapter = sender := by
  simp only [ClientEnv.moduleInfo, bind_eq_ok, mapError_eq_ok] at h
  obtain ⟨data, reported, info, parsed, found, query, h⟩ := h
  obtain ⟨rfl, stored⟩ := queryModule_version (fromId_version parsed) query
  suffices isFound : found = module ∧
      ∀ adapter, found.reference = .Adapter adapter → adapter = sender by
    obtain ⟨rfl, isSender⟩ := isFound
    exact ⟨data, reported, parsed, stored, isSender⟩
  cases isReference : found.reference with
  | Adapter queried =>
    simp only [isReference, bind_eq_ok, ensure_eq_ok, pure_eq_ok] at h
    obtain ⟨_, same, rfl⟩ := h
    refine ⟨rfl, ?_⟩
    rintro adapter ⟨⟩
    exact same
  | Native queried | Service queried =>
    simp only [isReference, bind_eq_ok, pure_eq_ok] at h
    obtain ⟨_, _, rfl⟩ := h
    exact ⟨rfl, by simp⟩
  | App queried | Standalone queried | Account queried =>
    simp only [isReference, bind_eq_ok, pure_eq_ok] at h
    obtain ⟨_, _, _, _, rfl⟩ := h
    exact ⟨rfl, by simp⟩

omit [Xion] in
/-- An adapter speaks for itself, and an app for the account that it stores. -/
theorem sourceModule_eq_ok (h : sourceModule env sender module = .ok source) :
    source.moduleInfo = module.info ∧
      ((∃ adapter, module.reference = .Adapter adapter ∧ source.accountId = none) ∨
        ∃ codeId id account client, module.reference = .App codeId ∧ source.accountId = some id ∧
          env.queryBaseState sender = .ok account ∧
          env.registry.accountAddresses.lookup id.storageKey = some account ∧
          env.queryAccountModule account IBC_CLIENT = .ok (some client)) := by
  unfold sourceModule at h
  split at h
  · cases h
  · cases h
  · cases h
  · cases h
  · rename_i adapter isAdapter
    obtain rfl := Except.ok.inj h
    exact ⟨rfl, .inl ⟨adapter, isAdapter, rfl⟩⟩
  · rename_i codeId isApp
    simp only [ClientEnv.accountId, ClientEnv.account, bind_eq_ok, mapError_eq_ok, okOr_eq_ok,
      ensure_eq_ok, pure_eq_ok] at h
    obtain ⟨stored, isStored, id, ⟨_, _, _, registered, _, same, rfl⟩, account, again, answer,
      asked, _, installed, rfl⟩ := h
    obtain rfl : _ = stored := same
    rw [registered, Option.some.injEq] at again
    subst again
    obtain ⟨client, rfl⟩ := Option.isSome_iff_exists.mp installed
    exact ⟨rfl, .inr ⟨codeId, _, _, client, isApp, rfl, isStored, registered, asked⟩⟩

/-- A call that sends the packet of a module has found out the module of its sender. -/
theorem execute_source {info : MessageInfo} {hostChain : TruncatedChainId} {target : ModuleInfo}
    {msg : Binary} {callback : Option Callback} {s s' : ClientState} {msgs : List ClientSubMsg}
    (h : execute env info (.ModuleIbcAction hostChain target msg callback) s = .ok (s', msgs))
    (sent : source ∈ msgs.filterMap ClientSubMsg.source) :
    ∃ module, env.moduleInfo info.sender = .ok module ∧
      sourceModule env info.sender module = .ok source := by
  simp only [execute, executeSendModuleToModulePacket, bind_eq_ok, mapError_eq_ok, pure_eq_ok,
    Prod.mk.injEq] at h
  obtain ⟨_, _, _, _, _, _, module, found, this, speaks, _, _, rfl, rfl⟩ := h
  obtain rfl : source = this := by simpa [ClientSubMsg.source, ClientSubMsg.plain] using sent
  exact ⟨module, found, speaks⟩

end Inversion

/-- For every state of the registry, the accounts and the modules and every sender: a packet
    that `ModuleIbcAction` sends speaks for the sender exactly when the sender is an adapter
    or is installed on the account that it stores. -/
theorem speaksFor_iff_installed {env : ClientEnv} {info : MessageInfo}
    {hostChain : TruncatedChainId} {target : ModuleInfo} {msg : Binary}
    {callback : Option Callback} {s s' : ClientState} {msgs : List ClientSubMsg}
    {source : IbcHost.InstalledModuleIdentification}
    (h : execute env info (.ModuleIbcAction hostChain target msg callback) s = .ok (s', msgs))
    (sent : source ∈ msgs.filterMap ClientSubMsg.source) :
    SpeaksFor env info.sender source ↔ Installed env info.sender := by
  obtain ⟨module, found, speaks⟩ := execute_source h sent
  obtain ⟨data, reported, parsed, stored, isSender⟩ := moduleInfo_eq_ok found
  obtain ⟨sameInfo, speaks⟩ := sourceModule_eq_ok speaks
  unfold SpeaksFor
  rw [sameInfo, stored]
  rcases speaks with ⟨adapter, isAdapter, noAccount⟩ |
    ⟨codeId, id, account, client, isApp, isId, isStored, registered, hasClient⟩
  · obtain rfl := isSender adapter isAdapter
    constructor
    · intro _
      exact ⟨data, module.info, _, reported, parsed, stored, .inl ⟨_, isAdapter⟩⟩
    · intro _
      rw [isAdapter]
      exact .inl ⟨rfl, noAccount⟩
  · constructor
    · rintro (⟨isAdapter, _⟩ | ⟨_, id', account', _, _, isId', registered', _, installed⟩)
      · rw [isApp] at isAdapter
        cases isAdapter
      · rw [isId, Option.some.injEq] at isId'
        subst isId'
        rw [registered, Option.some.injEq] at registered'
        subst registered'
        exact ⟨data, module.info, _, reported, parsed, stored, .inr ⟨account, isStored, installed⟩⟩
    · rintro ⟨data', info', reference, reported', parsed', stored', installed⟩
      -- what the sender reports is read once more
      obtain rfl : data = data' := Except.ok.inj (reported.symm.trans reported')
      obtain rfl : module.info = info' := Except.ok.inj (parsed.symm.trans parsed')
      obtain rfl : module.reference = reference := Option.some.inj (stored.symm.trans stored')
      rcases installed with ⟨adapter, isAdapter⟩ | ⟨account', isStored', installed⟩
      · rw [isApp] at isAdapter
        cases isAdapter
      · obtain rfl : account = account' := Except.ok.inj (isStored.symm.trans isStored')
        rw [isApp]
        exact .inr ⟨codeId, id, account, client, rfl, isId, registered, hasClient, installed⟩

/-! ## Instances of an app -/

structure AppStorage where
  /-- The account of `BASE_STATE`. -/
  account : Addr
  moduleData : ModuleData
  contractVersion : ContractVersion
  admin : Option Addr

/-- `AppContract::instantiate`, before the handler of the app.  Whoever sends the message
    chooses the account. -/
def AppStorage.instantiate (name version : String) (dependencies : List Dependency)
    (account : Addr) : AppStorage where
  account := account
  moduleData := { module := name, version, dependencies }
  contractVersion := { contract := name, version }
  admin := some account

def ClientEnv.withApp (env : ClientEnv) (addr : Addr) (codeId : Nat) (app : AppStorage) :
    ClientEnv :=
  let contract := { Contract.bare codeId with
    moduleData := some app.moduleData
    cw2 := some app.contractVersion }
  { env with
    querier := { env.querier with
      contract := fun a => if a = addr then some contract else env.querier.contract a }
    queryBaseState := fun a => if a = addr then .ok app.account else env.queryBaseState a }

end Model

section Sample

attribute [local instance] accountCrates noAuthenticators

def sampleClient : Addr := ⟨"client"⟩

def sampleAccount : Addr := ⟨"account"⟩

/-- The registry with one app and one account. -/
def appRegistry : RegistryState :=
  let app : ModuleInfo := { ns := ⟨"pub"⟩, name := "app", version := .Version "1.0.0" }
  { Accounts.sampleRegistry with
    registeredModules := (∅ : Map ModuleKey ModuleReference).insert app.key (.App 7)
    accountAddresses := (∅ : Map AccountKey Addr).insert (AccountId.ofLocal 1).storageKey sampleAccount }

/-- The account has the client and the app installed. -/
def sampleModule (account : Addr) (id : String) : Except StdError (Option Addr) :=
  if account ≠ sampleAccount then .error (.msg "query failed")
  else if id = IBC_CLIENT then .ok (some sampleClient)
  else if id = "pub:app" then .ok (some ⟨"app"⟩)
  else .ok none

def sampleEnv : ClientEnv where
  address := sampleClient
  block := { height := 1, time := 1 }
  chainName := ⟨"osmosis"⟩
  querier :=
    { contract := fun addr =>
        if addr = sampleClient then some (Contract.bare 2)
        else if addr = sampleAccount then some (Contract.account (.ofLocal 1) (.Monarchy ⟨"alice"⟩))
        else none
      codeInfo := fun _ => none
      registryAddress := fun _ => some ⟨"registry"⟩ }
  registry := appRegistry
  addrValidate text := .ok ⟨text⟩
  ansAddress _ := some ⟨"ans"⟩
  ics20Channel _ _ := .ok "channel-0"
  queryBaseState _ := .error (.notFound "AppState")
  queryAccountModule := sampleModule
  queryAccountInfo _ := .error (.notFound "AccountInfo")
  toJson _ := []
  fromJson _ := .ok .WhoAmI
  decodeTransferResponse _ := .ok 1

/-- A client that is connected to one chain. -/
def connected : ClientState :=
  let client := instantiate (sampleInfo "adm")
  { client with
    ibcInfra := (∅ : Map TruncatedChainId IbcInfrastructure).insert ⟨"juno"⟩
      ⟨⟨"note"⟩, "host", none⟩
    reversePolytoneNote := (∅ : Map Addr TruncatedChainId).insert ⟨"note"⟩ ⟨"juno"⟩ }

def appOf (account : Addr) : AppStorage := AppStorage.instantiate "pub:app" "1.0.0" [] account

def appAction : ExecuteMsg :=
  .ModuleIbcAction ⟨"juno"⟩ { ns := ⟨"pub"⟩, name := "app", version := .Latest } [] none

def appSource : IbcHost.InstalledModuleIdentification where
  moduleInfo := { ns := ⟨"pub"⟩, name := "app", version := .Version "1.0.0" }
  accountId := some (.ofLocal 1)

/-- An instance that names the account but is not installed on it speaks for it. -/
theorem not_speaksFor_instance :
    let env := sampleEnv.withApp ⟨"evil"⟩ 7 (appOf sampleAccount)
    (∃ msgs, execute env (sampleInfo "evil") appAction connected = .ok (connected, msgs) ∧
      appSource ∈ msgs.filterMap ClientSubMsg.source) ∧
    ¬ SpeaksFor env ⟨"evil"⟩ appSource := by
  intro env
  refine ⟨⟨_, rfl, List.mem_singleton_self _⟩, ?_⟩
  have registered : env.registry.registeredModules.lookup appSource.moduleInfo.key =
      some (.App 7) := by decide
  rintro (⟨isAdapter, _⟩ | ⟨_, id, account, _, _, isId, found, _, installed⟩)
  · rw [registered] at isAdapter
    cases isAdapter
  · obtain rfl : AccountId.ofLocal 1 = id := Option.some.inj isId
    obtain rfl : sampleAccount = account := Option.some.inj found
    have isApp : env.queryAccountModule sampleAccount appSource.moduleInfo.moduleId =
        .ok (some ⟨"app"⟩) := rfl
    rw [isApp] at installed
    simp at installed

theorem speaksFor_installed :
    SpeaksFor (sampleEnv.withApp ⟨"app"⟩ 7 (appOf sampleAccount)) ⟨"app"⟩ appSource := by
  have sent : execute (sampleEnv.withApp ⟨"app"⟩ 7 (appOf sampleAccount)) (sampleInfo "app")
      appAction connected = .ok (connected, [.plain (.Note ⟨"note"⟩ (.Execute
        [{ contractAddr := "host"
           msg := .ModuleExecute appSource { ns := ⟨"pub"⟩, name := "app", version := .Latest } [] }]
        none PACKET_LIFETIME))]) := rfl
  refine (speaksFor_iff_installed sent (List.mem_singleton_self _)).mpr ?_
  exact ⟨_, _, _, rfl, rfl, rfl, .inr ⟨sampleAccount, rfl, rfl⟩⟩

end Sample

end AbstractFramework.IbcClient
