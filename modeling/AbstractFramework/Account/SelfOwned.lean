import AbstractFramework.Ownership.Nested
import AbstractFramework.Account.Contract

/-! # Self-owned accounts

With the `xion` feature an account may own itself.  Its owner is then whoever
passes its authenticators, which the chain notes in `AUTH_ADMIN` before it calls
the account; a module that has the account call itself comes without the flag.

`assert_nested_owner` asks for the flag.  The ownership actions are guarded by
`assert_nested_sender_can_change_owner`, which does not, and `self_call_without_flag`
says what follows from the difference.
-/

namespace AbstractFramework.Account.Entry

open AbstractFramework Fallible Storage

section SelfCalls

variable [Crates] [Xion] {env : CallEnv} {info : MessageInfo} {s s' : AccountStorage}
  {msgs : List SubMsg} {msg : ExecuteMsg}

/-- What only the owner of an account changes is as it was. -/
structure GatedUnchanged (s s' : AccountStorage) : Prop where
  modules : s'.accountModules = s.accountModules
  dependents : s'.dependents = s.dependents
  whitelist : s'.whitelistedModules = s.whitelistedModules
  info : s'.info = s.info
  suspension : s'.suspensionStatus = s.suspensionStatus
  authMethods : s'.authenticators = s.authenticators
  ownership : s'.ownership = s.ownership

/-- A call of a self-owned account by itself, while its admin flag is not set. -/
structure SelfCall (env : CallEnv) (info : MessageInfo) (s : AccountStorage) : Prop where
  xion : env.xion = true
  owner : s.ownership.owner = .AbstractAccount env.address
  sender : info.sender = env.address
  flag : s.authAdmin ≠ some true

theorem SelfCall.refused (call : SelfCall env info s) :
    assertOwner env.toEnv s.toAccountState info.sender ≠ .ok () := by
  have top : ∀ account, s.ownership.owner ≠ .SubAccount account := by
    intro account isSub
    rw [call.owner] at isSub
    cases isSub
  simp only [assertOwner, ne_eq, mapError_eq_ok, assertNestedOwner_top top]
  rintro ⟨_, flag⟩
  exact call.flag (flag env.address call.xion call.owner)

/-- The check for ownership actions accepts it. -/
theorem SelfCall.canChangeOwner (call : SelfCall env info s) :
    s.ownership.assertNestedSenderCanChangeOwner env.querier info.sender = .ok () := by
  have owner : s.ownership.owner.ownerAddress env.querier = some info.sender := by
    rw [call.owner, call.sender]
    rfl
  have direct := Ownership.assertOwner_eq_ok (u := ()) |>.mpr owner
  simp only [Ownership.assertNestedSenderCanChangeOwner, Ownership.assertOwnerCanChange, call.owner]
  exact direct

/-- The ownership actions that reach their write: a transfer that is not already
    proposed, the acceptance of a transfer that the account may accept, and giving
    up an account without sub-accounts. -/
def TakesEffect (env : CallEnv) (s : AccountStorage) : GovAction → Prop
  | .TransferOwnership newOwner expiry => ∃ gov, newOwner.verify env.deps = .ok gov ∧
      (gov.ownerAddress env.querier).isSome ∧
      ¬ (s.ownership.pendingOwner = some gov ∧ s.ownership.pendingExpiry = expiry)
  | .AcceptOwnership => ∃ pending pendingAddr, s.ownership.pendingOwner = some pending ∧
      pending.ownerAddress env.querier = some pendingAddr ∧
      isPendingOwner env.querier pending pendingAddr env.address = .ok true ∧
      ∀ expiry ∈ s.ownership.pendingExpiry, Crates.isExpired expiry env.block = false
  | .RenounceOwnership => s.subAccounts.keys.head? = none ∧
      ∃ codeId, env.toEnv.abstractCodeId = .ok codeId

/-- An action that reaches its write changes the ownership. -/
theorem SelfCall.changes {action : GovAction} (call : SelfCall env info s)
    (effect : TakesEffect env s action) :
    ∃ msgs ownership, ownershipMsgs env action s = .ok msgs ∧
      AbstractFramework.updateOwnership env.deps env.block info.sender action s.ownership =
        .ok ownership ∧ ownership ≠ s.ownership := by
  have allowed : s.ownership.assertNestedSenderCanChangeOwner env.deps.querier info.sender = .ok () :=
    call.canChangeOwner
  cases action with
  | TransferOwnership newOwner expiry =>
    obtain ⟨gov, verified, hasOwner, other⟩ := effect
    refine ⟨[], { s.ownership with pendingOwner := some gov, pendingExpiry := expiry }, rfl, ?_, ?_⟩
    · simp only [AbstractFramework.updateOwnership, transferOwnership, bind_eq_ok, mapError_eq_ok,
        ensure_eq_ok, pure_eq_ok]
      exact ⟨gov, verified, (), hasOwner, (), allowed, rfl⟩
    · intro same
      refine other ⟨?_, ?_⟩
      · rw [← same]
      · rw [← same]
  | AcceptOwnership =>
    obtain ⟨pending, pendingAddr, isPending, owner, accepts, alive⟩ := effect
    have told : ∃ msgs, ownershipMsgs env .AcceptOwnership s = .ok msgs := by
      simp only [ownershipMsgs, maybeUpdateSubAccountGovernance, bind_eq_ok, okOr_eq_ok, pure_eq_ok]
      exact ⟨_, pending, isPending, rfl⟩
    obtain ⟨msgs, told⟩ := told
    refine ⟨msgs, { owner := pending, pendingOwner := none, pendingExpiry := none }, told, ?_, ?_⟩
    · simp only [AbstractFramework.updateOwnership, acceptOwnership, bind_eq_ok, okOr_eq_ok,
        ensure_eq_ok, pure_eq_ok, call.sender]
      exact ⟨pending, isPending, pendingAddr, owner, true, accepts, (), rfl, (), alive, rfl⟩
    · intro same
      rw [← same] at isPending
      cases isPending
  | RenounceOwnership =>
    obtain ⟨noSubAccounts, codeId, found⟩ := effect
    have told : ∃ msgs, ownershipMsgs env .RenounceOwnership s = .ok msgs := by
      simp only [ownershipMsgs, removeAccountFromContracts, bind_eq_ok, ensure_eq_ok, pure_eq_ok]
      exact ⟨_, (), noSubAccounts, codeId, found, rfl⟩
    obtain ⟨msgs, told⟩ := told
    refine ⟨msgs, { owner := .Renounced, pendingOwner := none, pendingExpiry := none }, told, ?_, ?_⟩
    · simp only [AbstractFramework.updateOwnership, renounceOwnership, bind_eq_ok, pure_eq_ok]
      exact ⟨(), allowed, trivial⟩
    · intro same
      have owner := call.owner
      rw [← same] at owner
      cases owner

/-- An action that does not leaves the record as it was. -/
theorem SelfCall.unchanged {action : GovAction} {ownership : Ownership}
    (call : SelfCall env info s) (noEffect : ¬ TakesEffect env s action)
    (told : ownershipMsgs env action s = .ok msgs)
    (updated : AbstractFramework.updateOwnership env.deps env.block info.sender action
      s.ownership = .ok ownership) : ownership = s.ownership := by
  cases action with
  | TransferOwnership newOwner expiry =>
    simp only [AbstractFramework.updateOwnership, transferOwnership, bind_eq_ok, mapError_eq_ok,
      ensure_eq_ok, pure_eq_ok] at updated
    obtain ⟨gov, verified, _, hasOwner, _, _, rfl⟩ := updated
    by_contra other
    refine noEffect ⟨gov, verified, hasOwner, ?_⟩
    rintro ⟨pending, expires⟩
    exact other (by rw [← pending, ← expires])
  | AcceptOwnership =>
    simp only [AbstractFramework.updateOwnership, acceptOwnership, bind_eq_ok, okOr_eq_ok,
      ensure_eq_ok, pure_eq_ok, call.sender] at updated
    obtain ⟨pending, isPending, pendingAddr, owner, _, accepts, _, rfl, _, alive, _⟩ := updated
    exact absurd ⟨pending, pendingAddr, isPending, owner, accepts, alive⟩ noEffect
  | RenounceOwnership =>
    simp only [ownershipMsgs, removeAccountFromContracts, bind_eq_ok, ensure_eq_ok] at told
    obtain ⟨_, noSubAccounts, codeId, found, _⟩ := told
    exact absurd ⟨noSubAccounts, codeId, found⟩ noEffect

/-- A self-owned account that calls itself without the flag keeps everything that
    only its owner changes, for every message but an ownership action that reaches
    its write while the account is not suspended. -/
theorem self_call_without_flag (call : SelfCall env info s) :
    (∀ s' msgs, execute env info msg s = .ok (s', msgs) → GatedUnchanged s s') ↔
      ∀ action, msg = .UpdateOwnership action → s.suspensionStatus = false →
        ¬ TakesEffect env s action := by
  constructor
  · rintro kept action rfl active effect
    obtain ⟨msgs, ownership, told, updated, changed⟩ := call.changes effect
    have ok : execute env info (.UpdateOwnership action) s =
        .ok (dropAuthAdmin env { s with ownership }, msgs) := by
      simp only [execute, handle, updateOwnership, bind_eq_ok, ensure_eq_ok, mapError_eq_ok,
        pure_eq_ok, Prod.mk.injEq]
      exact ⟨(), .inr active, (_, msgs), ⟨msgs, told, ownership, updated, rfl⟩, rfl, rfl⟩
    exact changed (kept _ _ ok).ownership
  · intro noEffect s' msgs ok
    obtain ⟨active, t, handled, rfl⟩ := execute_eq_ok ok
    cases handle_effect handled with
    | forward chainMsgs reply noReply => exact ⟨rfl, rfl, rfl, rfl, rfl, rfl, rfl⟩
    | subAccount action subAccounts => exact ⟨rfl, rfl, rfl, rfl, rfl, rfl, rfl⟩
    | @ownership action ownership _ told updated =>
      have active := active.resolve_left (by simp [isUpdateStatus])
      have same := call.unchanged (noEffect action rfl active) told updated
      exact ⟨rfl, rfl, rfl, rfl, rfl, rfl, same⟩
    | admin addr execMsg owner idle => exact absurd owner call.refused
    | upgrade owner upgraded => exact absurd owner call.refused
    | create owner created => exact absurd owner call.refused
    | owned owner kept flag sends => exact absurd owner call.refused

end SelfCalls

section Sample

attribute [local instance] releaseCrates noAuthenticators

/-- An account that owns itself and has whitelisted the bot. -/
def selfOwned : AccountStorage :=
  { emptyStorage with
    ownership :=
      { owner := .AbstractAccount sampleAccount, pendingOwner := none, pendingExpiry := none }
    whitelistedModules := [botAddr] }

def xionEnv : CallEnv := { sampleCallEnv with xion := true }

def selfInfo : MessageInfo := { sender := sampleAccount, funds := [] }

theorem selfOwned_selfCall : SelfCall xionEnv selfInfo selfOwned :=
  ⟨rfl, rfl, rfl, by decide⟩

/-- Suspending the account takes the flag. -/
theorem self_call_without_flag_suspend :
    SelfCall xionEnv selfInfo selfOwned ∧
      ∀ s' msgs, execute xionEnv selfInfo (.UpdateStatus (some true)) selfOwned = .ok (s', msgs) →
        GatedUnchanged selfOwned s' := by
  refine ⟨selfOwned_selfCall, (self_call_without_flag selfOwned_selfCall).mpr ?_⟩
  intro action isAction
  cases isAction

/-- The bot has the account call itself.  That call cannot suspend the account, but
    it can give it up. -/
theorem self_call_renounces_without_flag :
    SelfCall xionEnv selfInfo selfOwned ∧
      (execute xionEnv { sender := botAddr, funds := [] }
        (.Execute [.Execute sampleAccount [] []]) selfOwned).isOk ∧
      (execute xionEnv selfInfo (.UpdateStatus (some true)) selfOwned).isOk = false ∧
      ∃ s' msgs, execute xionEnv selfInfo (.UpdateOwnership .RenounceOwnership) selfOwned =
          .ok (s', msgs) ∧ s'.ownership.owner = .Renounced ∧ ¬ GatedUnchanged selfOwned s' := by
  refine ⟨selfOwned_selfCall, by decide, by decide, ?_⟩
  refine ⟨dropAuthAdmin xionEnv { selfOwned with
    ownership := { owner := .Renounced, pendingOwner := none, pendingExpiry := none } },
    [.new (.ForgoNamespace ["pub"])], rfl, rfl, ?_⟩
  intro kept
  cases congrArg Ownership.owner kept.ownership

end Sample

end AbstractFramework.Account.Entry
