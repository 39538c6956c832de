import AbstractFramework.Account.Dependencies
import AbstractFramework.Account.Commands

/-! # The entry points of an account

`execute` with every message, `reply` with every reply, and `instantiate`.  A
message takes the storage to the storage after it and the messages that it
sends, each with the reply that it asks for.

`Effect` says once what each message can write and send; the results about
accounts are derived from it.
-/

namespace AbstractFramework.Account.Entry

open AbstractFramework Fallible Storage

section Messages

variable [Crates] [Xion]

inductive ExecuteMsg where
  | Execute (msgs : List ChainMsg)
  | ExecuteWithData (msg : ChainMsg)
  | ExecuteOnModule (moduleId : String) (execMsg : Binary) (funds : List Coin)
  | AdminExecute (addr : String) (msg : Binary)
  | AdminExecuteOnModule (moduleId : String) (msg : Binary)
  | IcaAction (actionQueryMsg : Binary)
  | UpdateInternalConfig (action : InternalConfigAction)
  | InstallModules (modules : List ModuleInstallConfig)
  | UninstallModule (moduleId : String)
  | Upgrade (modules : List (ModuleInfo × Option Binary))
  | CreateSubAccount (name description link ns : Option String)
      (installModules : List ModuleInstallConfig) (accountId : Option AccountSequence)
  | UpdateInfo (name description link : Option String)
  | UpdateStatus (isSuspended : Option Bool)
  | UpdateSubAccount (action : UpdateSubAccountAction)
  | UpdateOwnership (action : GovAction)
  | AddAuthMethod (addAuthenticator : Xion.Authenticator)
  | RemoveAuthMethod (id : UInt8)

/-! ## Execute -/

/-- A command on the modules, as part of the whole storage. -/
def onModules (s : AccountStorage) (result : Except AccountError (AccountState × List SubMsg)) :
    AccountResult := do
  let (state, msgs) ← result
  return ({ s with toAccountState := state }, msgs)

def installModules (env : CallEnv) (info : MessageInfo) (modules : List ModuleInstallConfig)
    (s : AccountState) : Except AccountError (AccountState × List SubMsg) := do
  let (s, msg) ← Account.installModules env.toEnv info modules s
  return (s, [.withReply (.Module msg) .RegisterModulesDependencies])

/-- A reply follows the last message of an upgrade. -/
def replyToLast : List CosmosMsg → List SubMsg
  | [] => []
  | [msg] => [.withReply (.Module msg) .AssertModuleDependenciesRequirements]
  | msg :: msgs => .new (.Module msg) :: replyToLast msgs

def upgradeModules (env : CallEnv) (info : MessageInfo)
    (modules : List (ModuleInfo × Option Binary)) (s : AccountState) :
    Except AccountError (AccountState × List SubMsg) := do
  let (s, msgs) ← Account.upgradeModules env.toEnv info modules s
  return (s, replyToLast msgs)

def uninstallModule (env : CallEnv) (info : MessageInfo) (moduleId : String) (s : AccountState) :
    Except AccountError (AccountState × List SubMsg) := do
  let s ← Account.uninstallModule env.toEnv info moduleId s
  return (s, [])

/-- If sub-account related it may require some messages to be constructed beforehand. -/
def ownershipMsgs (env : CallEnv) (action : GovAction) (s : AccountStorage) :
    Except AccountError (List SubMsg) :=
  match action with
  | .TransferOwnership _ _ => .ok []
  | .AcceptOwnership => maybeUpdateSubAccountGovernance s
  | .RenounceOwnership => removeAccountFromContracts env s

def updateOwnership (env : CallEnv) (info : MessageInfo) (action : GovAction)
    (s : AccountStorage) : AccountResult := do
  let msgs ← ownershipMsgs env action s
  let ownership ← (AbstractFramework.updateOwnership env.deps env.block info.sender action
    s.ownership).mapError AccountError.Ownership
  return ({ s with ownership }, msgs)

/-- The messages that a suspended account does not take. -/
def handle (env : CallEnv) (info : MessageInfo) (msg : ExecuteMsg) (s : AccountStorage) :
    AccountResult :=
  match msg with
  | .Execute msgs => executeMsgs env info.sender msgs s
  | .AdminExecute addr msg => do
    let addr ← (env.addrValidate addr).mapError AccountError.Std
    adminExecute env info addr msg s
  | .ExecuteWithData msg => executeMsgsWithData env info.sender msg s
  | .ExecuteOnModule moduleId execMsg funds => executeOnModule env info moduleId execMsg funds s
  | .AdminExecuteOnModule moduleId msg => adminExecuteOnModule env info moduleId msg s
  | .IcaAction actionQueryMsg => icaAction env info actionQueryMsg s
  | .UpdateInternalConfig config => updateInternalConfig env info config s
  | .InstallModules modules => onModules s (installModules env info modules s.toAccountState)
  | .UninstallModule moduleId => onModules s (uninstallModule env info moduleId s.toAccountState)
  | .Upgrade modules => onModules s (upgradeModules env info modules s.toAccountState)
  | .UpdateInfo name description link => updateInfo env info name description link s
  | .UpdateOwnership action => updateOwnership env info action s
  | .CreateSubAccount name description link ns modules accountId =>
    createSubAccount env info name description link ns modules accountId s
  | .UpdateSubAccount action => handleSubAccountAction env info action s
  | .UpdateStatus isSuspended => updateAccountStatus env info isSuspended s
  | .AddAuthMethod auth => addAuthMethod env info auth s
  | .RemoveAuthMethod id => removeAuthMethod env info id s

/-- Whether the account takes the message while it is suspended. -/
def isUpdateStatus : ExecuteMsg → Bool
  | .UpdateStatus _ => true
  | _ => false

/-- With the `xion` feature, the admin flag does not outlive a call. -/
def dropAuthAdmin (env : CallEnv) (s : AccountStorage) : AccountStorage :=
  { s with authAdmin := if env.xion then none else s.authAdmin }

def execute (env : CallEnv) (info : MessageInfo) (msg : ExecuteMsg) (s : AccountStorage) :
    AccountResult := do
  ensure (isUpdateStatus msg ∨ s.suspensionStatus = false) .AccountSuspended
  let (s, msgs) ← handle env info msg s
  return (dropAuthAdmin env s, msgs)

/-! ## Replies -/

/-- Remove the storage for an admin call after execution. -/
def adminActionReply (s : AccountState) : AccountState := { s with callingToAsAdmin := none }

/-- The messages that replies send are none.  The data that `ForwardResponse` adds
    to the response is not modelled. -/
def reply (q : Querier) (s : AccountStorage) (id : Reply) : Except AccountError AccountStorage :=
  match id with
  | .ForwardResponse => .ok s
  | .AdminAction => .ok { s with toAccountState := adminActionReply s.toAccountState }
  | .RegisterModulesDependencies => do
    let state ← registerDependencies q s.toAccountState
    return { s with toAccountState := state }
  | .AssertModuleDependenciesRequirements => do
    let state ← assertModulesDependencyRequirements q s.toAccountState
    return { s with toAccountState := state }

/-! ## Instantiate -/

/-- `Coins::try_from`: no denomination twice, and no zero amounts. -/
def coinsTryFrom (coins : List Coin) : Except AccountError (List Coin) := do
  let coins := coins.filter (·.amount ≠ 0)
  ensure ((coins.map (·.denom)).Nodup) (.Panicked "duplicate denom")
  (coins.foldlM (fun sum coin => ModuleFactory.addCoin coin sum) []).mapError AccountError.Std

/-- `Coins::sub`. -/
def subCoin (coin : Coin) : List Coin → Option (List Coin)
  | [] => if coin.amount = 0 then some [] else none
  | c :: coins =>
    if c.denom = coin.denom then
      if c.amount < coin.amount then none
      else if c.amount = coin.amount then some coins
      else some ({ c with amount := c.amount - coin.amount } :: coins)
    else (subCoin coin coins).map (c :: ·)

/-- The received funds cover the fees. -/
def assertFees (totalFee received : List Coin) (funds : List Coin) : Except AccountError Unit := do
  let _ ← totalFee.foldlM (fun rest fee => okOr (subCoin fee rest) (AccountError.Fee totalFee funds))
    received

/-- The checks on the governance of a new account, and its authenticators. -/
def assertGovernance (env : CallEnv) (info : MessageInfo)
    (authenticator : Option Xion.Authenticator) :
    GovernanceDetails Addr → Except AccountError Xion.Authenticators
  | .SubAccount account => do
    -- prevents other users from creating sub-accounts for accounts they don't own
    ensure (info.sender = account)
      (.SubAccountCreatorNotAccount info.sender.asStr account.asStr)
    return Xion.none
  | .NFT collectionAddr tokenId => do
    let owner ← okOr ((env.querier.contract collectionAddr).bind (·.ownerOf tokenId))
      (.Std (.msg "query failed"))
    ensure (info.sender = owner) (.Ownership .NotOwner)
    return Xion.none
  | .AbstractAccount address => do
    ensure (address = env.address)
      (.AbstractAccountInvalidAddress address.asStr env.address.asStr)
    if env.xion then
      let auth ← okOr authenticator .AbstractAccountNoAuth
      (Xion.addAuthMethod env.address auth Xion.none).mapError AccountError.AbstractXion
    else .error .AbstractAccountNoAuth
  | _ => .ok Xion.none

/-- The modules that an account is created with, what they cost, and the message
    that installs them. -/
def installAtCreation (env : CallEnv) (modules : List ModuleInstallConfig) (s : AccountState) :
    Except AccountError (AccountState × List Coin × List SubMsg) :=
  if modules = [] then .ok (s, [], [])
  else do
    let simulateResp ← (ModuleFactory.querySimulateInstallModules env.toEnv
      (modules.map (·.info))).mapError fun _ => AccountError.Std (.msg "query failed")
    let required := simulateResp.totalRequiredFunds
    let (s, msg) ← installModulesInternal env.toEnv modules required s
    return (s, required, [.withReply (.Module msg) .RegisterModulesDependencies])

/-- The storage of a new account. -/
def instantiate (env : CallEnv) (info : MessageInfo) (msg : InstantiateMsg) : AccountResult := do
  let accountId := msg.accountId.getD (.ofLocal env.registry.localAccountSequence)
  validateIfSome validateDescription msg.description
  validateIfSome validateLink msg.link
  validateIfSome validateTitle msg.name
  let accountInfo : AccountInfo :=
    { name := msg.name, description := msg.description, link := msg.link }
  let owner := msg.owner.getD (.AbstractAccount env.address)
  let governance ← (owner.verify env.deps).mapError AccountError.Abstract
  let authenticators ← assertGovernance env info msg.authenticator governance
  let ownership ← (initializeOwner env.deps owner).mapError AccountError.Ownership
  let fundsForNamespaceFee :=
    if msg.ns.isSome then env.registry.config.namespaceRegistrationFee.toList else []
  let state : AccountState :=
    { contractVersion := { contract := ACCOUNT, version := CONTRACT_VERSION }
      accountId
      ownership
      authAdmin := none
      suspensionStatus := false
      accountModules := ∅
      dependents := ∅
      whitelistedModules := []
      installModulesContext := []
      migrateContext := []
      callingToAsAdmin := none }
  let (state, required, installMsgs) ← installAtCreation env msg.installModules state
  let namespaceFee ← coinsTryFrom fundsForNamespaceFee
  let totalFee ← (required.foldlM (fun sum coin => ModuleFactory.addCoin coin sum)
    namespaceFee).mapError AccountError.Std
  let received ← coinsTryFrom info.funds
  assertFees totalFee received info.funds
  let s : AccountStorage :=
    { state with
      info := if accountInfo.hasInfo then some accountInfo else none
      subAccounts := ∅
      authenticators }
  -- the account registers itself before anything else is sent
  return (s, .new (.AddAccount msg.ns info.sender.asStr fundsForNamespaceFee) ::
    (tellOwner .RegisterSubAccount accountId ownership.owner ++ installMsgs))

/-! ## What a message writes and sends -/

section Effects

/-- What accounts know of each other. -/
structure Node where
  id : AccountId
  ownership : Ownership
  /-- The sequences of the sub-accounts' local ids. -/
  subAccounts : Map AccountSequence Unit

def node (s : AccountStorage) : Node :=
  { id := s.accountId, ownership := s.ownership, subAccounts := s.subAccounts }

variable {env : CallEnv} {info : MessageInfo} {s s' : AccountStorage} {msgs : List SubMsg}

/-- Everything that a message can write and send. -/
inductive Effect (env : CallEnv) (info : MessageInfo) (s : AccountStorage) :
    ExecuteMsg → AccountStorage → List SubMsg → Prop where
  /-- Messages of the caller are sent as they are. -/
  | forward {msg : ExecuteMsg} (msgs : List ChainMsg) (reply : Option Reply)
      (noReply : reply = none ∨ reply = some .ForwardResponse) :
      Effect env info s msg s (msgs.map fun msg => { msg := .Chain msg, replyOnSuccess := reply })
  /-- A sub-account registers or unregisters itself. -/
  | subAccount (action : UpdateSubAccountAction) (subAccounts : Map AccountSequence Unit) :
      Effect env info s (.UpdateSubAccount action) { s with subAccounts } []
  /-- The ownership is updated, and the accounts around are told. -/
  | ownership {action : GovAction} {ownership : Ownership} {msgs : List SubMsg}
      (told : ownershipMsgs env action s = .ok msgs)
      (updated : AbstractFramework.updateOwnership env.deps env.block info.sender action
        s.ownership = .ok ownership) :
      Effect env info s (.UpdateOwnership action) { s with ownership } msgs
  /-- The owner calls a contract as admin. -/
  | admin {msg : ExecuteMsg} (addr : Addr) (execMsg : Binary)
      (owner : assertOwner env.toEnv s.toAccountState info.sender = .ok ())
      (idle : s.callingToAsAdmin = none) :
      Effect env info s msg { s with callingToAsAdmin := some addr }
        [.withReply (.Chain (.Execute addr execMsg info.funds)) .AdminAction]
  | upgrade {modules : List (ModuleInfo × Option Binary)} {state : AccountState}
      {msgs : List CosmosMsg}
      (owner : assertOwner env.toEnv s.toAccountState info.sender = .ok ())
      (upgraded : Account.upgradeModules env.toEnv info modules s.toAccountState =
        .ok (state, msgs)) :
      Effect env info s (.Upgrade modules) { s with toAccountState := state } (replyToLast msgs)
  /-- The owner creates a sub-account. -/
  | create {name description link ns : Option String} {modules : List ModuleInstallConfig}
      {accountId : Option AccountSequence} {sent : OutMsg}
      (owner : assertOwner env.toEnv s.toAccountState info.sender = .ok ())
      (created : createSubAccount env info name description link ns modules accountId s =
        .ok (s, [.new sent])) :
      Effect env info s (.CreateSubAccount name description link ns modules accountId) s [.new sent]
  /-- The owner changes anything else, but neither the ownership, the sub-accounts nor
      the admin flag. -/
  | owned {msg : ExecuteMsg} {s' : AccountStorage} {msgs : List SubMsg}
      (owner : assertOwner env.toEnv s.toAccountState info.sender = .ok ())
      (kept : node s' = node s) (flag : s'.callingToAsAdmin = s.callingToAsAdmin)
      (sends : ∀ sub ∈ msgs, ∃ module, sub = .withReply (.Module module)
        .RegisterModulesDependencies) :
      Effect env info s msg s' msgs

theorem executeMsgs_effect {msg : ExecuteMsg} {chainMsgs : List ChainMsg}
    (h : executeMsgs env info.sender chainMsgs s = .ok (s', msgs)) : Effect env info s msg s' msgs := by
  simp only [executeMsgs, bind_eq_ok, pure_eq_ok, Prod.mk.injEq] at h
  obtain ⟨_, _, rfl, rfl⟩ := h
  exact .forward chainMsgs none (.inl rfl)

theorem adminExecute_effect {msg : ExecuteMsg} {addr : Addr} {execMsg : Binary}
    (h : adminExecute env info addr execMsg s = .ok (s', msgs)) : Effect env info s msg s' msgs := by
  simp only [adminExecute, bind_eq_ok, ensure_eq_ok, pure_eq_ok, Prod.mk.injEq] at h
  obtain ⟨_, owner, _, idle, rfl, rfl⟩ := h
  exact .admin addr execMsg owner idle

theorem authMethod_effect {msg : ExecuteMsg} (change : Xion.Authenticators → Except String _)
    (h : (if env.xion = true then do
        assertOwner env.toEnv s.toAccountState info.sender
        let authenticators ← (change s.authenticators).mapError AccountError.AbstractXion
        return ({ s with authenticators }, [])
      else .error .NoAuthFeature : AccountResult) = .ok (s', msgs)) :
    Effect env info s msg s' msgs := by
  split at h
  · simp only [bind_eq_ok, pure_eq_ok, Prod.mk.injEq] at h
    obtain ⟨_, owner, _, _, rfl, rfl⟩ := h
    exact .owned owner rfl rfl (by simp)
  · cases h

theorem updateInternalConfig_effect {msg : ExecuteMsg} {action : InternalConfigAction}
    (h : updateInternalConfig env info action s = .ok (s', msgs)) : Effect env info s msg s' msgs := by
  simp only [updateInternalConfig, bind_eq_ok] at h
  obtain ⟨_, owner, h⟩ := h
  cases action with
  | UpdateModuleAddresses toAdd toRemove =>
    simp only [updateModuleAddresses, bind_eq_ok, pure_eq_ok, Prod.mk.injEq] at h
    obtain ⟨_, _, _, ⟨_, _, rfl⟩, rfl, rfl⟩ := h
    exact .owned owner rfl rfl (by simp)
  | UpdateWhitelist toAdd toRemove =>
    simp only [bind_eq_ok, pure_eq_ok, Prod.mk.injEq] at h
    obtain ⟨_, _, _, _, state, written, rfl, rfl⟩ := h
    obtain ⟨_, rfl⟩ := updateWhitelistedModules_eq_ok written
    exact .owned owner rfl rfl (by simp)

theorem installModules_effect {msg : ExecuteMsg} {modules : List ModuleInstallConfig}
    (h : onModules s (installModules env info modules s.toAccountState) = .ok (s', msgs)) :
    Effect env info s msg s' msgs := by
  simp only [onModules, installModules, Account.installModules, installModulesInternal,
    bind_eq_ok, pure_eq_ok, Prod.mk.injEq] at h
  obtain ⟨⟨_, _⟩, ⟨⟨_, _⟩, ⟨_, owner, _, _, s₁, listed, s₂, stored, rfl, _⟩, rfl, rfl⟩, rfl,
    rfl⟩ := h
  obtain ⟨_, rfl⟩ := updateWhitelistedModules_eq_ok listed
  obtain rfl := updateModuleAddresses_eq_ok stored
  refine .owned owner rfl rfl fun sub member => ?_
  rw [List.mem_singleton] at member
  exact ⟨_, member⟩

theorem uninstallModule_effect {msg : ExecuteMsg} {moduleId : String}
    (h : onModules s (uninstallModule env info moduleId s.toAccountState) = .ok (s', msgs)) :
    Effect env info s msg s' msgs := by
  simp only [onModules, uninstallModule, Account.uninstallModule, bind_eq_ok, pure_eq_ok,
    Prod.mk.injEq] at h
  obtain ⟨⟨_, _⟩, ⟨_, ⟨_, owner, s₁, cleared, data, _, _, _, _, _, s₂, removed, rfl⟩, rfl, rfl⟩,
    rfl, rfl⟩ := h
  rw [(clearDependents_eq_ok cleared).1] at removed
  unfold removeFromWhitelist at removed
  split at removed
  · simp only [bind_eq_ok] at removed
    obtain ⟨_, _, written⟩ := removed
    obtain ⟨_, rfl⟩ := updateWhitelistedModules_eq_ok written
    exact .owned owner rfl rfl (by simp)
  · obtain rfl := Except.ok.inj removed
    exact .owned owner rfl rfl (by simp)

theorem handleSubAccountAction_eq_ok {action : UpdateSubAccountAction}
    (h : handleSubAccountAction env info action s = .ok (s', msgs)) :
    env.registry.accountAddresses.lookup (AccountId.ofLocal (actionId action)).storageKey =
        some info.sender ∧
      s' = { s with subAccounts := listAfter s.subAccounts action } ∧ msgs = [] := by
  cases action with
  | UnregisterSubAccount id =>
    simp only [handleSubAccountAction, unregisterSubAccount, queryLocalAccount, bind_eq_ok,
      pure_eq_ok] at h
    obtain ⟨found, ⟨_, _, rfl⟩, h⟩ := h
    split at h
    · rename_i account registered
      simp only [bind_eq_ok, ensure_eq_ok, pure_eq_ok, Prod.mk.injEq] at h
      obtain ⟨_, rfl, rfl, rfl⟩ := h
      exact ⟨registered, rfl, rfl⟩
    · cases h
  | RegisterSubAccount id =>
    simp only [handleSubAccountAction, registerSubAccount, queryLocalAccount, bind_eq_ok,
      ensure_eq_ok, pure_eq_ok, Prod.mk.injEq] at h
    obtain ⟨_, ⟨_, _, rfl⟩, _, registered, rfl, rfl⟩ := h
    exact ⟨registered, rfl, rfl⟩

theorem handleSubAccountAction_effect {action : UpdateSubAccountAction}
    (h : handleSubAccountAction env info action s = .ok (s', msgs)) :
    Effect env info s (.UpdateSubAccount action) s' msgs := by
  obtain ⟨_, rfl, rfl⟩ := handleSubAccountAction_eq_ok h
  exact .subAccount action _

/-- A message has one of the effects. -/
theorem handle_effect {msg : ExecuteMsg} (h : handle env info msg s = .ok (s', msgs)) :
    Effect env info s msg s' msgs := by
  cases msg with
  | Execute chainMsgs => exact executeMsgs_effect h
  | ExecuteWithData chainMsg =>
    simp only [handle, executeMsgsWithData, bind_eq_ok, pure_eq_ok, Prod.mk.injEq] at h
    obtain ⟨_, _, rfl, rfl⟩ := h
    exact .forward [chainMsg] (some .ForwardResponse) (.inr rfl)
  | ExecuteOnModule moduleId execMsg funds =>
    simp only [handle, executeOnModule, bind_eq_ok] at h
    obtain ⟨_, _, h⟩ := h
    exact executeMsgs_effect h
  | AdminExecute addr execMsg =>
    simp only [handle, bind_eq_ok] at h
    obtain ⟨_, _, h⟩ := h
    exact adminExecute_effect h
  | AdminExecuteOnModule moduleId execMsg =>
    simp only [handle, adminExecuteOnModule, bind_eq_ok] at h
    obtain ⟨_, _, h⟩ := h
    exact adminExecute_effect h
  | IcaAction query =>
    simp only [handle, icaAction, bind_eq_ok, pure_eq_ok, Prod.mk.injEq] at h
    obtain ⟨_, _, _, _, chainMsgs, _, rfl, rfl⟩ := h
    exact .forward chainMsgs none (.inl rfl)
  | UpdateInternalConfig action => exact updateInternalConfig_effect h
  | InstallModules modules => exact installModules_effect h
  | UninstallModule moduleId => exact uninstallModule_effect h
  | Upgrade modules =>
    simp only [handle, onModules, upgradeModules, bind_eq_ok, pure_eq_ok, Prod.mk.injEq] at h
    obtain ⟨⟨_, _⟩, ⟨⟨state, msgs⟩, upgraded, rfl, rfl⟩, rfl, rfl⟩ := h
    exact .upgrade (upgradeModules_owner upgraded) upgraded
  | CreateSubAccount name description link ns modules accountId =>
    have created := h
    simp only [handle, createSubAccount, bind_eq_ok, pure_eq_ok, Prod.mk.injEq] at h
    obtain ⟨_, owner, _, _, _, _, _, _, rfl, rfl⟩ := h
    exact .create owner created
  | UpdateInfo name description link =>
    simp only [handle, updateInfo, bind_eq_ok, pure_eq_ok, Prod.mk.injEq] at h
    obtain ⟨_, owner, _, _, _, _, _, _, rfl, rfl⟩ := h
    exact .owned owner rfl rfl (by simp)
  | UpdateStatus isSuspended =>
    simp only [handle, updateAccountStatus, bind_eq_ok, pure_eq_ok, Prod.mk.injEq] at h
    obtain ⟨_, _, _, owner, rfl, rfl⟩ := h
    exact .owned owner rfl rfl (by simp)
  | UpdateSubAccount action => exact handleSubAccountAction_effect h
  | UpdateOwnership action =>
    simp only [handle, updateOwnership, bind_eq_ok, mapError_eq_ok, pure_eq_ok,
      Prod.mk.injEq] at h
    obtain ⟨_, told, _, updated, rfl, rfl⟩ := h
    exact .ownership told updated
  | AddAuthMethod auth => exact authMethod_effect (Xion.addAuthMethod env.address auth) h
  | RemoveAuthMethod id => exact authMethod_effect (Xion.removeAuthMethod env.address id) h

/-- A call checks the suspension, has the effect of its message, and drops the flag
    of an authenticated caller. -/
theorem execute_eq_ok {msg : ExecuteMsg} (h : execute env info msg s = .ok (s', msgs)) :
    (isUpdateStatus msg ∨ s.suspensionStatus = false) ∧
      ∃ t, handle env info msg s = .ok (t, msgs) ∧ s' = dropAuthAdmin env t := by
  simp only [execute, bind_eq_ok, ensure_eq_ok, pure_eq_ok, Prod.mk.injEq] at h
  obtain ⟨_, active, ⟨t, _⟩, handled, rfl, rfl⟩ := h
  exact ⟨active, t, handled, rfl⟩

end Effects

end Messages

/-! ## A small account

The account on which closed statements about calls are evaluated. -/

section Sample

attribute [local instance] releaseCrates noAuthenticators

def sampleCallEnv : CallEnv :=
  { installBot.env with
    blockTime := 1
    addrValidate := fun text => .ok ⟨text⟩
    icaAction := fun _ _ => .error (.msg "query failed") }

/-- An account storage around the state of its modules. -/
def storageOf (s : AccountState) : AccountStorage :=
  { s with info := none, subAccounts := ∅, authenticators := () }

def emptyStorage : AccountStorage := storageOf emptyAccount

end Sample

end AbstractFramework.Account.Entry
