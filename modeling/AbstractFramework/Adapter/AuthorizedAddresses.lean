import AbstractFramework.Account.Migration
import AbstractFramework.Adapter.Authorization
import AbstractFramework.Lib.Machine

/-! # The authorized addresses of an account

An adapter keeps a list of authorized addresses for each account.  The lists have no
duplicates and are bounded whoever edits them.  A module id is looked up on the sender of an
update, so an update stores what it says for the account that it configures where the sender
is that account, or where the two agree on every entry.

When an account upgrades an adapter, its list is taken off the old adapter and put on the new
one by two messages of the account.
-/

namespace AbstractFramework.Adapter

open AbstractFramework Fallible Storage Machine

/-! ## Delivery -/

section Delivery

variable [Crates]

/-- The authorized addresses of an account, `unwrap_or_default`. -/
def authorized (s : AdapterState) (account : Addr) : List Addr :=
  (s.authorizedAddresses.lookup account).getD []

/-- `configure_adapter`: the base message that an account sends, without its own address. -/
def configureAdapter (toAdd toRemove : List Addr) : BaseExecuteMsg where
  accountAddress := none
  msg := .UpdateAuthorizedAddresses (toAdd.map (·.asStr)) (toRemove.map (·.asStr))

/-- An adapter at an address executes a message of the account. -/
def deliver (env : Addr → AdapterEnv) (account : Addr) (adapters : Addr → AdapterState)
    (msg : Account.CosmosMsg) : Except AdapterError (Addr → AdapterState) :=
  match msg with
  | .UpdateAuthorizedAddresses adapter toAdd toRemove => do
    let executed : AdapterState × Outcome Unit ←
      baseExecute (env adapter) account (configureAdapter toAdd toRemove) (adapters adapter)
    return Function.update adapters adapter executed.1
  | _ => return adapters

/-! ## Calls -/

structure Call (Request : Type) where
  env : AdapterEnv
  sender : Addr
  msg : ExecuteMsg Request

def executeCall {Request : Type} (call : Call Request) (s : AdapterState) :
    Except AdapterError (AdapterState × Outcome Request) :=
  execute call.env call.sender call.msg s

end Delivery

section Lists

variable [Crates] {Request : Type} {env : AdapterEnv} {s s' : AdapterState} {sender account : Addr}
  {toAdd toRemove : List String}

/-! ## Lists without duplicates -/

/-- The list has no duplicates and is bounded. -/
structure Kept (addresses : List Addr) : Prop where
  distinct : addresses.Nodup
  fits : addresses.length ≤ MAXIMUM_AUTHORIZED_ADDRESSES

theorem UpdateAccepted.kept {l added removed : List Addr} (distinct : l.Nodup)
    (accepted : UpdateAccepted env sender l toAdd toRemove added removed) :
    Kept ((l ++ added).filter (· ∉ removed)) where
  distinct := (List.nodup_append'.mpr
    ⟨distinct, accepted.additionsOnce, accepted.additionsNew⟩).filter _
  fits := accepted.fits

/-- A successful update writes the list of one account. -/
theorem authorized_of_update (other : Addr)
    (ok : updateAuthorizedAddresses env sender account toAdd toRemove s = .ok s') :
    (other ≠ account ∧ authorized s' other = authorized s other) ∨
      (other = account ∧ ∃ added removed,
        UpdateAccepted env sender (authorized s account) toAdd toRemove added removed ∧
        authorized s' account = (authorized s account ++ added).filter (· ∉ removed)) := by
  obtain ⟨added, removed, accepted, rfl⟩ := updateAuthorizedAddresses_eq_ok.mp ok
  by_cases same : other = account
  · refine .inr ⟨same, added, removed, accepted, ?_⟩
    simp [authorized]
  · refine .inl ⟨same, ?_⟩
    simp [authorized, AList.lookup_insert_ne same]

/-- A property that an update keeps of the list that it writes is kept of all lists. -/
theorem forall_authorized_execute {P : List Addr → Prop} {msg : ExecuteMsg Request}
    {outcome : Outcome Request}
    (kept : ∀ l toAdd toRemove added removed, P l →
      UpdateAccepted env sender l toAdd toRemove added removed →
        P ((l ++ added).filter (· ∉ removed)))
    (before : ∀ account, P (authorized s account))
    (ok : execute env sender msg s = .ok (s', outcome)) : ∀ account, P (authorized s' account) := by
  intro other
  cases msg with
  | Module request =>
    simp only [execute, handleAppMsg, bind_eq_ok, pure_eq_ok, Prod.mk.injEq] at ok
    obtain ⟨_, _, _, _, rfl, _⟩ := ok
    exact before other
  | Base message =>
    obtain ⟨accountAddress, toAdd, toRemove⟩ := message
    obtain ⟨_, account, _, updated, _⟩ := baseExecute_eq_ok.mp ok
    rcases authorized_of_update other updated with ⟨_, same⟩ | ⟨rfl, _, _, accepted, written⟩
    · rw [same]
      exact before other
    · rw [written]
      exact kept _ _ _ _ _ (before other) accepted

omit [Crates] in
theorem authorized_empty (empty : s.authorizedAddresses = ∅) (account : Addr) :
    authorized s account = [] := by
  simp [authorized, empty]

theorem kept_run {start : AdapterState} (empty : start.authorizedAddresses = ∅)
    (calls : List (Call Request)) (account : Addr) :
    Kept (authorized (run executeCall start calls) account) := by
  revert account
  refine run_invariant (P := fun s => ∀ account, Kept (authorized s account)) calls ?_ ?_
  · intro s call s' outcome before ok
    exact forall_authorized_execute (fun l _ _ _ _ held accepted => accepted.kept held.distinct)
      before ok
  · intro account
    rw [authorized_empty empty]
    exact ⟨.nil, Nat.zero_le _⟩

/-! ## One update -/

/-- Where the sender's entries stand for addresses, those of the account stand for the same. -/
def ResolvesAlike (env : AdapterEnv) (sender account : Addr) (entries : List String) : Prop :=
  ∀ entry ∈ entries, ∀ a, env.getAddrFromModuleIdOrAddr sender entry = .ok a →
    env.getAddrFromModuleIdOrAddr account entry = .ok a

/-- The account's list is the old one with the additions and without the removals, as the
    account's own modules resolve them, and the other lists are as before. -/
def UpdatesAs (env : AdapterEnv) (account : Addr) (toAdd toRemove : List String)
    (s s' : AdapterState) : Prop :=
  (∃ added removed,
    List.Forall₂ (env.getAddrFromModuleIdOrAddr account · = .ok ·) toAdd added ∧
    List.Forall₂ (env.getAddrFromModuleIdOrAddr account · = .ok ·) toRemove removed ∧
    authorized s' account = (authorized s account ++ added).filter (· ∉ removed)) ∧
  ∀ other, other ≠ account → authorized s' other = authorized s other

theorem ResolvesAlike.forall₂ {entries : List String} {addresses : List Addr}
    (alike : ResolvesAlike env sender account entries)
    (resolved : List.Forall₂ (env.getAddrFromModuleIdOrAddr sender · = .ok ·) entries addresses) :
    List.Forall₂ (env.getAddrFromModuleIdOrAddr account · = .ok ·) entries addresses := by
  induction resolved with
  | nil => exact .nil
  | cons first _ ih =>
    obtain ⟨here, later⟩ := List.forall_mem_cons.mp alike
    exact .cons (here _ first) (ih later)

theorem UpdatesAs.of_resolvesAlike (alike : ResolvesAlike env sender account (toAdd ++ toRemove))
    (ok : updateAuthorizedAddresses env sender account toAdd toRemove s = .ok s') :
    UpdatesAs env account toAdd toRemove s s' := by
  constructor
  · obtain ⟨added, removed, accepted, rfl⟩ := updateAuthorizedAddresses_eq_ok.mp ok
    refine ⟨added, removed, ?_, ?_, by simp [authorized]⟩
    · exact ResolvesAlike.forall₂ (fun entry listed => alike entry (List.mem_append_left _ listed))
        accepted.additions
    · exact ResolvesAlike.forall₂ (fun entry listed => alike entry (List.mem_append_right _ listed))
        accepted.removals
  · intro other apart
    rcases authorized_of_update other ok with ⟨_, same⟩ | ⟨same, _⟩
    · exact same
    · exact absurd same apart

/-- All updates that a sender makes for an account are as the account resolves them exactly if
    every entry that the sender resolves is. -/
theorem updatesAs_iff_resolvesAlike :
    (∀ toAdd toRemove s s', updateAuthorizedAddresses env sender account toAdd toRemove s = .ok s' →
        UpdatesAs env account toAdd toRemove s s') ↔
      ∀ entries, ResolvesAlike env sender account entries := by
  constructor
  · intro all entries entry _ a resolved
    have accepted : UpdateAccepted env sender [] [entry] [] [a] [] :=
      { additions := .cons resolved .nil
        additionsOnce := List.nodup_singleton a
        additionsNew := List.disjoint_nil_left _
        removals := .nil
        removalsOnce := .nil
        removalsListed := List.nil_subset _
        fits := by simp [MAXIMUM_AUTHORIZED_ADDRESSES] }
    have updated : updateAuthorizedAddresses env sender account [entry] [] ⟨none, ∅⟩ =
        .ok ⟨none, (∅ : Map Addr (List Addr)).insert account [a]⟩ :=
      updateAuthorizedAddresses_eq_ok.mpr ⟨[a], [], by simpa using accepted, by simp⟩
    obtain ⟨⟨added, removed, additions, removals, list⟩, -⟩ := all _ _ _ _ updated
    cases removals
    obtain ⟨b, _, first, none, rfl⟩ := List.forall₂_cons_left_iff.mp additions
    cases none
    have stored : authorized ⟨none, (∅ : Map Addr (List Addr)).insert account [a]⟩ account = [a] := by
      rw [authorized, AList.lookup_insert]
      rfl
    rw [stored, authorized_empty rfl] at list
    have same : a = b := by simpa using list
    rw [same]
    exact first
  · intro alike toAdd toRemove s s' ok
    exact .of_resolvesAlike (alike _) ok

/-! ## Upgrades -/

/-- Addresses are accepted as they are spelled, those of modules among them, and no module id is
    one. -/
structure OnChain (addrValidate : String → Except StdError Addr) (env : AdapterEnv) : Prop where
  validates : env.addrValidate = addrValidate
  spelled : ∀ text a, addrValidate text = .ok a → a.asStr = text
  modules : ∀ account id a, env.queryAccountModule account id = .ok (some a) →
    addrValidate a.asStr = .ok a
  ids : ∀ account id a b, env.queryAccountModule account id = .ok (some a) →
    addrValidate id ≠ .ok b

variable {addrValidate : String → Except StdError Addr}

theorem OnChain.resolved {entry : String} {a : Addr} (chain : OnChain addrValidate env)
    (resolves : env.getAddrFromModuleIdOrAddr account entry = .ok a) :
    addrValidate a.asStr = .ok a := by
  unfold AdapterEnv.getAddrFromModuleIdOrAddr at resolves
  split at resolves
  · rename_i found
    cases resolves
    exact chain.modules _ _ _ found
  · split at resolves
    · rename_i valid
      cases resolves
      rw [chain.validates] at valid
      rw [chain.spelled _ _ valid]
      exact valid
    · cases resolves

/-- An address stands for itself. -/
theorem OnChain.resolves {a : Addr} (chain : OnChain addrValidate env)
    (valid : addrValidate a.asStr = .ok a) :
    env.getAddrFromModuleIdOrAddr account a.asStr = .ok a := by
  unfold AdapterEnv.getAddrFromModuleIdOrAddr
  split
  · rename_i found
    exact absurd valid (chain.ids _ _ _ _ found)
  · rw [chain.validates, valid]

theorem OnChain.resolves_list {l : List Addr} (chain : OnChain addrValidate env)
    (valid : ∀ a ∈ l, addrValidate a.asStr = .ok a) :
    List.Forall₂ (env.getAddrFromModuleIdOrAddr account · = .ok ·) (l.map (·.asStr)) l := by
  rw [List.forall₂_map_left_iff]
  exact List.forall₂_same.mpr fun a listed => chain.resolves (valid a listed)

/-- The authorized addresses of a run are valid ones. -/
theorem valid_run {start : AdapterState} (empty : start.authorizedAddresses = ∅)
    {calls : List (Call Request)} (chain : ∀ call ∈ calls, OnChain addrValidate call.env)
    (account : Addr) :
    ∀ a ∈ authorized (run executeCall start calls) account, addrValidate a.asStr = .ok a := by
  revert account
  refine run_invariant_mem
    (P := fun s => ∀ account, ∀ a ∈ authorized s account, addrValidate a.asStr = .ok a) ?_ ?_
  · intro s call s' outcome listed before ok
    refine forall_authorized_execute
      (P := fun l => ∀ a ∈ l, addrValidate a.asStr = .ok a) ?_ before ok
    intro l toAdd toRemove added removed valid accepted a member
    rcases List.mem_append.mp (List.mem_filter.mp member).1 with old | new
    · exact valid a old
    · obtain ⟨entry, _, resolves⟩ := forall₂_exists_left accepted.additions a new
      exact (chain call listed).resolved resolves
  · intro account a member
    rw [authorized_empty empty] at member
    cases member

/-- The whole list is taken off. -/
theorem remove_all (chain : OnChain addrValidate env) (kept : Kept (authorized s account))
    (valid : ∀ a ∈ authorized s account, addrValidate a.asStr = .ok a) :
    updateAuthorizedAddresses env account account [] ((authorized s account).map (·.asStr)) s =
      .ok { s with authorizedAddresses := s.authorizedAddresses.insert account [] } := by
  have none : (authorized s account ++ []).filter (· ∉ authorized s account) = [] := by simp
  refine updateAuthorizedAddresses_eq_ok.mpr ⟨[], authorized s account, ?_, ?_⟩
  · exact {
      additions := .nil
      additionsOnce := .nil
      additionsNew := List.disjoint_nil_right _
      removals := chain.resolves_list valid
      removalsOnce := kept.distinct
      removalsListed := by simp [authorized]
      fits := by
        rw [authorized] at none ⊢
        rw [none]
        exact Nat.zero_le _ }
  · rw [authorized] at none ⊢
    rw [none]

/-- The list is put where none is. -/
theorem add_all {l : List Addr} (chain : OnChain addrValidate env)
    (unused : authorized s account = []) (kept : Kept l)
    (valid : ∀ a ∈ l, addrValidate a.asStr = .ok a) :
    updateAuthorizedAddresses env account account (l.map (·.asStr)) [] s =
      .ok { s with authorizedAddresses := s.authorizedAddresses.insert account l } := by
  rw [authorized] at unused
  refine updateAuthorizedAddresses_eq_ok.mpr ⟨l, [], ?_, by simp [unused]⟩
  exact {
    additions := chain.resolves_list valid
    additionsOnce := kept.distinct
    additionsNew := by simp [unused]
    removals := .nil
    removalsOnce := .nil
    removalsListed := List.nil_subset _
    fits := by simpa [unused] using kept.fits }

/-- The account may configure the adapter. -/
def Configures (env : AdapterEnv) (account : Addr) (s : AdapterState) : Prop :=
  env.accountRegistry s = .ok () ∧ env.ActsAsAdmin account

theorem deliver_eq_ok {envs : Addr → AdapterEnv} {adapters adapters' : Addr → AdapterState}
    {adapter : Addr} {added removed : List Addr} :
    deliver envs account adapters (.UpdateAuthorizedAddresses adapter added removed) =
        .ok adapters' ↔
      Configures (envs adapter) account (adapters adapter) ∧
        ∃ s', updateAuthorizedAddresses (envs adapter) account account (added.map (·.asStr))
            (removed.map (·.asStr)) (adapters adapter) = .ok s' ∧
          adapters' = Function.update adapters adapter s' := by
  simp only [deliver, configureAdapter, bind_eq_ok, pure_eq_ok]
  constructor
  · rintro ⟨⟨s', outcome⟩, executed, rfl⟩
    obtain ⟨registry, target, found, updated, _⟩ := baseExecute_eq_ok.mp executed
    by_cases acts : (envs adapter).ActsAsAdmin account
    · rw [baseAccount_of_actsAsAdmin acts] at found
      cases found
      exact ⟨⟨registry, acts⟩, s', updated, rfl⟩
    · obtain ⟨_, named, _⟩ := baseAccount_of_not_actsAsAdmin acts found
      cases named
  · rintro ⟨⟨registry, acts⟩, s', updated, rfl⟩
    exact ⟨(s', .Updated account),
      baseExecute_eq_ok.mpr ⟨registry, account, baseAccount_of_actsAsAdmin acts, updated, rfl⟩, rfl⟩

/-- An account has made the messages of an upgrade, and has no authorized addresses on the new
    adapter. -/
structure Upgrade (adapters : Addr → AdapterState) (account newAdapter oldAdapter : Addr)
    (msgs : List Account.CosmosMsg) : Prop where
  /-- The old adapter has answered with its list. -/
  made : ∃ (accountEnv : Account.Env) (t t' : Account.AccountState), accountEnv.address = account ∧
    (accountEnv.querier.contract oldAdapter).bind (·.authorizedAddresses account) =
      some (authorized (adapters oldAdapter) account) ∧
    Account.replaceAdapter accountEnv t newAdapter oldAdapter = .ok (t', msgs)
  unused : authorized (adapters newAdapter) account = []

section Upgrades

variable {envs : Addr → AdapterEnv} {adapters adapters' : Addr → AdapterState}
  {newAdapter oldAdapter : Addr} {msgs : List Account.CosmosMsg}

theorem Upgrade.msgs_eq (upgrade : Upgrade adapters account newAdapter oldAdapter msgs) :
    msgs = [.UpdateAuthorizedAddresses oldAdapter [] (authorized (adapters oldAdapter) account),
      .UpdateAuthorizedAddresses newAdapter (authorized (adapters oldAdapter) account) []] := by
  obtain ⟨accountEnv, t, t', rfl, answer, made⟩ := upgrade.made
  simp only [Account.replaceAdapter, answer, bind_eq_ok, okOr_eq_ok, pure_eq_ok, Prod.mk.injEq,
    Option.some.injEq] at made
  obtain ⟨_, rfl, _, _, _, rfl⟩ := made
  rfl

/-- The list of the account on one adapter becomes another one. -/
def relist (adapters : Addr → AdapterState) (account adapter : Addr) (l : List Addr) :
    Addr → AdapterState :=
  Function.update adapters adapter
    { adapters adapter with
      authorizedAddresses := (adapters adapter).authorizedAddresses.insert account l }

omit [Crates] in
theorem authorized_relist (adapters : Addr → AdapterState) (adapter other : Addr) (l : List Addr) :
    authorized (relist adapters account adapter l other) account =
      if other = adapter then l else authorized (adapters other) account := by
  unfold relist
  by_cases same : other = adapter
  · rw [if_pos same, same, Function.update_self, authorized, AList.lookup_insert]
    rfl
  · rw [if_neg same, Function.update_of_ne same]

theorem configures_relist {env : AdapterEnv} {adapter other : Addr} {l : List Addr} :
    Configures env account (relist adapters account adapter l other) ↔
      Configures env account (adapters other) := by
  have sameCode : (relist adapters account adapter l other).codeId = (adapters other).codeId := by
    unfold relist
    by_cases same : other = adapter
    · rw [same, Function.update_self]
    · rw [Function.update_of_ne same]
  unfold Configures AdapterEnv.accountRegistry
  rw [sameCode]

/-- The messages empty the list on the old adapter, and write it on the new one. -/
theorem Upgrade.delivered_iff (upgrade : Upgrade adapters account newAdapter oldAdapter msgs)
    (chainOld : OnChain addrValidate (envs oldAdapter))
    (chainNew : OnChain addrValidate (envs newAdapter))
    (kept : Kept (authorized (adapters oldAdapter) account))
    (valid : ∀ a ∈ authorized (adapters oldAdapter) account, addrValidate a.asStr = .ok a) :
    msgs.foldlM (deliver envs account) adapters = .ok adapters' ↔
      Configures (envs oldAdapter) account (adapters oldAdapter) ∧
        Configures (envs newAdapter) account (adapters newAdapter) ∧
        adapters' = relist (relist adapters account oldAdapter []) account newAdapter
          (authorized (adapters oldAdapter) account) := by
  have emptied := remove_all chainOld kept valid
  have unused : authorized (relist adapters account oldAdapter [] newAdapter) account = [] := by
    rw [authorized_relist]
    split
    · rfl
    · exact upgrade.unused
  have filled := add_all chainNew unused kept valid
  rw [upgrade.msgs_eq]
  simp only [foldlM_cons_eq_ok, List.foldlM_nil, pure_eq_ok, deliver_eq_ok, List.map_nil, emptied,
    Except.ok.injEq]
  constructor
  · rintro ⟨_, ⟨onOld, _, rfl, rfl⟩, _, ⟨onNew, _, written, rfl⟩, rfl⟩
    obtain rfl := Except.ok.inj (filled.symm.trans written)
    exact ⟨onOld, configures_relist.mp onNew, rfl⟩
  · rintro ⟨onOld, onNew, rfl⟩
    exact ⟨_, ⟨onOld, _, rfl, rfl⟩, _, ⟨configures_relist.mpr onNew, _, filled, rfl⟩, rfl⟩

/-- The messages are executed where the account may configure both adapters, and move the list
    to the new adapter. -/
theorem Upgrade.delivered (upgrade : Upgrade adapters account newAdapter oldAdapter msgs)
    (chainOld : OnChain addrValidate (envs oldAdapter))
    (chainNew : OnChain addrValidate (envs newAdapter))
    (kept : Kept (authorized (adapters oldAdapter) account))
    (valid : ∀ a ∈ authorized (adapters oldAdapter) account, addrValidate a.asStr = .ok a) :
    (Configures (envs oldAdapter) account (adapters oldAdapter) →
      Configures (envs newAdapter) account (adapters newAdapter) →
        ∃ adapters', msgs.foldlM (deliver envs account) adapters = .ok adapters') ∧
    ∀ adapters', msgs.foldlM (deliver envs account) adapters = .ok adapters' →
      authorized (adapters' newAdapter) account = authorized (adapters oldAdapter) account ∧
        authorized (adapters' oldAdapter) account = [] := by
  constructor
  · intro onOld onNew
    exact ⟨_, (upgrade.delivered_iff chainOld chainNew kept valid).mpr ⟨onOld, onNew, rfl⟩⟩
  · intro adapters' executed
    obtain ⟨-, -, rfl⟩ := (upgrade.delivered_iff chainOld chainNew kept valid).mp executed
    simp only [authorized_relist, if_true, true_and]
    by_cases same : oldAdapter = newAdapter
    · -- there was nothing to move
      rw [if_pos same, same]
      exact upgrade.unused
    · rw [if_neg same]

end Upgrades

/-- In every reachable state the lists have no duplicates and are bounded.  A successful update
    stores what it says for the account it configures where the account resolves its entries like
    the sender, which all updates of a sender need; a failing one changes nothing; and the
    messages of an upgrade move the list of the account. -/
theorem authorized_addresses_hold {start : AdapterState} (empty : start.authorizedAddresses = ∅)
    (calls : List (Call Request)) :
    let s := run executeCall start calls
    (∀ account, Kept (authorized s account)) ∧
    (∀ (call : Call Request) s' account accountAddress toAdd toRemove,
      call.msg = .Base ⟨accountAddress, .UpdateAuthorizedAddresses toAdd toRemove⟩ →
      executeCall call s = .ok (s', .Updated account) →
      ResolvesAlike call.env call.sender account (toAdd ++ toRemove) →
        UpdatesAs call.env account toAdd toRemove s s') ∧
    (∀ env sender account,
      (∀ toAdd toRemove s s', updateAuthorizedAddresses env sender account toAdd toRemove s = .ok s' →
          UpdatesAs env account toAdd toRemove s s') ↔
        ∀ entries, ResolvesAlike env sender account entries) ∧
    (∀ (call : Call Request) e, executeCall call s = .error e →
      run executeCall start (calls ++ [call]) = s) ∧
    ∀ (addrValidate : String → Except StdError Addr) (envs : Addr → AdapterEnv)
      (adapters : Addr → AdapterState) (account newAdapter oldAdapter : Addr)
      (msgs : List Account.CosmosMsg),
      (∀ call ∈ calls, OnChain addrValidate call.env) → OnChain addrValidate (envs oldAdapter) →
      OnChain addrValidate (envs newAdapter) → adapters oldAdapter = s →
      Upgrade adapters account newAdapter oldAdapter msgs →
        (Configures (envs oldAdapter) account (adapters oldAdapter) →
          Configures (envs newAdapter) account (adapters newAdapter) →
            ∃ adapters', msgs.foldlM (deliver envs account) adapters = .ok adapters') ∧
        ∀ adapters', msgs.foldlM (deliver envs account) adapters = .ok adapters' →
          authorized (adapters' newAdapter) account = authorized s account ∧
            authorized (adapters' oldAdapter) account = [] := by
  intro s
  refine ⟨kept_run empty calls, ?_, ?_, ?_, ?_⟩
  · intro call s' account accountAddress toAdd toRemove msg executed alike
    rw [executeCall, msg, execute] at executed
    obtain ⟨_, target, _, updated, same⟩ := baseExecute_eq_ok.mp executed
    cases same
    exact .of_resolvesAlike alike updated
  · intro env sender account
    exact updatesAs_iff_resolvesAlike
  · intro call e failed
    rw [run_append, run_cons, run_nil]
    exact step_of_error failed
  · intro addrValidate envs adapters account newAdapter oldAdapter msgs chain chainOld chainNew isOld
      upgrade
    have moved := upgrade.delivered chainOld chainNew (by rw [isOld]; exact kept_run empty calls _)
      (by rw [isOld]; exact valid_run empty chain _)
    rw [isOld] at moved ⊢
    exact moved

end Lists

section Sample

attribute [local instance] releaseCrates

/-- The child is an account that the parent owns. -/
def ownedByParent (addr : Addr) : Option Contract :=
  if addr = parentAddr then some (.account (.ofLocal 1) (.Monarchy ⟨"monarch"⟩))
  else if addr = childAddr then some (.account (.ofLocal 2) (.Monarchy parentAddr))
  else none

def etfModule (account : Addr) (moduleId : String) : Except StdError (Option Addr) :=
  .ok (if moduleId ≠ "abstract:etf" then none
    else if account = parentAddr then some ⟨"etf1"⟩
    else if account = childAddr then some ⟨"etf2"⟩
    else none)

/-- Both accounts have installed the same module, and the child calls as its admin. -/
def bothInstalled : AdapterEnv where
  adapter := "pub:dex"
  address := ⟨"dex"⟩
  querier := { contract := ownedByParent, codeInfo := fun _ => none,
               registryAddress := fun _ => some ⟨"registry"⟩ }
  registry := { Registry.sampleStart false with
    accountAddresses := Storage.insertAll ∅ [((AccountId.ofLocal 1).storageKey, parentAddr),
      ((AccountId.ofLocal 2).storageKey, childAddr)] }
  addrValidate text := if ':' ∈ text.toList then .error (.msg "invalid address") else .ok ⟨text⟩
  callingToAsAdmin account := if account = childAddr then some ⟨"dex"⟩ else none
  queryAccountModule := etfModule

def authorizeEtf (sender : Addr) : Call Unit where
  env := bothInstalled
  sender := sender
  msg := .Base ⟨some "child", .UpdateAuthorizedAddresses ["abstract:etf"] []⟩

theorem onChain_bothInstalled {callingToAsAdmin : Addr → Option Addr} {address : Addr} :
    OnChain bothInstalled.addrValidate { bothInstalled with address, callingToAsAdmin } := by
  refine ⟨rfl, fun text a valid => ?_, fun account id a found => ?_, fun account id a b found => ?_⟩
  · simp only [bothInstalled] at valid
    split at valid
    · cases valid
    · cases valid
      rfl
  all_goals
    simp only [bothInstalled, etfModule, Except.ok.injEq] at found
    split at found
    · cases found
    rename_i isEtf
  · split at found
    · cases found
      rfl
    · split at found
      · cases found
        rfl
      · cases found
  · rw [not_not.mp isEtf]
    exact fun valid => nomatch valid

/-- The adapters, at their addresses, while the child upgrades. -/
def duringUpgrade (address : Addr) : AdapterEnv :=
  { bothInstalled with
    address
    callingToAsAdmin := fun _ => some Account.CALLING_TO_AS_ADMIN_WILD_CARD }

/-- The child has authorized its module on the old adapter. -/
def authorizedEtf : AdapterState := run executeCall ⟨some 1, ∅⟩ [authorizeEtf childAddr]

def oldAndNew (address : Addr) : AdapterState :=
  if address = ⟨"dex"⟩ then authorizedEtf else ⟨some 1, ∅⟩

/-- The chain as the child sees it when it upgrades. -/
def childEnv : Account.Env where
  address := childAddr
  blockHeight := 0
  querier := { bothInstalled.querier with
    contract := fun _ => some { Contract.bare 1 with
      authorizedAddresses := fun account => some (authorized authorizedEtf account) } }
  registry := bothInstalled.registry
  factory := ⟨"factory"⟩
  instantiate2Address _ _ _ := .error "no address"
  sha256 bytes := bytes
  fromJson := .ok
  xion := false

def childState : Account.AccountState where
  contractVersion := { contract := ACCOUNT, version := "1.0.0" }
  accountId := .ofLocal 2
  ownership := { owner := .Monarchy parentAddr, pendingOwner := none, pendingExpiry := none }
  authAdmin := none
  suspensionStatus := false
  accountModules := Storage.insertAll ∅ [("pub:dex", ⟨"dex"⟩)]
  dependents := ∅
  whitelistedModules := [⟨"dex"⟩]
  installModulesContext := []
  migrateContext := []
  callingToAsAdmin := none

/-- The child authorizes its module, and upgrades the adapter. -/
theorem authorized_addresses_hold_child :
    (∃ s', executeCall (authorizeEtf childAddr) ⟨some 1, ∅⟩ = .ok (s', .Updated childAddr) ∧
      UpdatesAs bothInstalled childAddr ["abstract:etf"] [] ⟨some 1, ∅⟩ s' ∧
      Kept (authorized authorizedEtf childAddr)) ∧
    ∃ msgs adapters', Upgrade oldAndNew childAddr ⟨"dex2"⟩ ⟨"dex"⟩ msgs ∧
      msgs.foldlM (deliver duringUpgrade childAddr) oldAndNew = .ok adapters' ∧
      authorized (adapters' ⟨"dex2"⟩) childAddr = [⟨"etf2"⟩] ∧
      authorized (adapters' ⟨"dex"⟩) childAddr = [] := by
  have executed : executeCall (authorizeEtf childAddr) ⟨some 1, ∅⟩ =
      .ok (⟨some 1, (∅ : Map Addr (List Addr)).insert childAddr [⟨"etf2"⟩]⟩, .Updated childAddr) :=
    rfl
  obtain ⟨-, updates, -⟩ := @authorized_addresses_hold releaseCrates Unit ⟨some 1, ∅⟩ rfl []
  obtain ⟨kept, -, -, -, upgrades⟩ :=
    @authorized_addresses_hold releaseCrates Unit ⟨some 1, ∅⟩ rfl [authorizeEtf childAddr]
  have upgrade : Upgrade oldAndNew childAddr ⟨"dex2"⟩ ⟨"dex"⟩ _ :=
    ⟨⟨childEnv, childState, _, rfl, rfl, rfl⟩, rfl⟩
  have onChain : ∀ call ∈ [authorizeEtf childAddr], OnChain bothInstalled.addrValidate call.env := by
    intro call listed
    rw [List.mem_singleton.mp listed]
    exact onChain_bothInstalled
  obtain ⟨executes, moves⟩ := upgrades bothInstalled.addrValidate duringUpgrade oldAndNew childAddr
    ⟨"dex2"⟩ ⟨"dex"⟩ _ onChain onChain_bothInstalled onChain_bothInstalled rfl upgrade
  obtain ⟨adapters', delivered⟩ := executes
    ⟨rfl, ⟨.ofLocal 2, rfl, rfl⟩, _, rfl, .inr rfl⟩ ⟨rfl, ⟨.ofLocal 2, rfl, rfl⟩, _, rfl, .inr rfl⟩
  refine ⟨⟨_, executed, ?_, kept childAddr⟩, _, adapters', upgrade, delivered, ?_⟩
  · exact updates (authorizeEtf childAddr) _ childAddr (some "child") ["abstract:etf"] [] rfl executed
      fun _ _ _ resolves => resolves
  · exact moves adapters' delivered

/-- The parent authorizes a module for its account, and its own module is stored. -/
theorem module_of_sender_authorized :
    ∃ s', executeCall (authorizeEtf parentAddr) ⟨some 1, ∅⟩ = .ok (s', .Updated childAddr) ∧
      authorized s' childAddr = [⟨"etf1"⟩] ∧
      bothInstalled.queryAccountModule childAddr "abstract:etf" = .ok (some ⟨"etf2"⟩) ∧
      ¬ UpdatesAs bothInstalled childAddr ["abstract:etf"] [] ⟨some 1, ∅⟩ s' := by
  have stored : authorized ⟨some 1, (∅ : Map Addr (List Addr)).insert childAddr [⟨"etf1"⟩]⟩ childAddr =
      [⟨"etf1"⟩] := rfl
  refine ⟨⟨some 1, (∅ : Map Addr (List Addr)).insert childAddr [⟨"etf1"⟩]⟩, rfl, stored, rfl, ?_⟩
  rintro ⟨⟨added, removed, additions, removals, list⟩, -⟩
  cases removals
  obtain ⟨a, _, first, none, rfl⟩ := List.forall₂_cons_left_iff.mp additions
  cases none
  have module : bothInstalled.getAddrFromModuleIdOrAddr childAddr "abstract:etf" = .ok ⟨"etf2"⟩ := rfl
  rw [module, Except.ok.injEq] at first
  subst first
  rw [stored] at list
  revert list
  decide

end Sample

end AbstractFramework.Adapter
