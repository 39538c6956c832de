import Mathlib.Data.List.Induction
import AbstractFramework.Lib.Machine
import AbstractFramework.Ownership.GovOwnable

/-! # The two-step ownership protocol

Runs of `update_ownership` by arbitrary senders.  Every call brings its own
view of the chain and its own block, so that the owner of an NFT or of another
account may change between two calls.

The invariant behind the protocol is `pending_origin`: whatever is pending was
proposed by the last call that succeeded, or stands in the initial record and
no call has succeeded yet.  The proposal an acceptance picks up is therefore
never an out-of-date one.
-/

namespace AbstractFramework.Protocol

open AbstractFramework Fallible Machine

section Calls

variable [Crates]

/-- One call of `update_ownership`. -/
structure Call where
  deps : Deps
  block : BlockInfo
  sender : Addr
  action : GovAction

def exec (c : Call) (o : Ownership) : Except GovOwnershipError (Ownership × Unit) := do
  let o' ← updateOwnership c.deps c.block c.sender c.action o
  return (o', ())

/-- The senders that act for a governance: its owner address and, for a
    sub-account, the owner address its top-level walk ends at. -/
def ActsFor (q : Querier) (gov : GovernanceDetails Addr) (sender : Addr) : Prop :=
  gov.ownerAddress q = some sender ∨
    ∃ account top, gov = .SubAccount account ∧ queryTopLevelOwner q account = .ok top ∧
      top.owner.ownerAddress q = some sender

/-! ## One call -/

theorem actsFor_of_canChangeOwner {o : Ownership} {q : Querier} {sender : Addr} {u : Unit}
    (h : o.assertNestedSenderCanChangeOwner q sender = .ok u) : ActsFor q o.owner sender := by
  unfold Ownership.assertNestedSenderCanChangeOwner at h
  split at h
  · rename_i account isSub
    simp only [bind_eq_ok, mapError_eq_ok] at h
    obtain ⟨top, walked, _, _, h⟩ := h
    split at h
    · rename_i direct
      exact .inl (Ownership.assertOwner_eq_ok.mp direct)
    · exact .inr ⟨account, top, isSub, walked, Ownership.assertOwner_eq_ok.mp h⟩
  · simp only [bind_eq_ok] at h
    obtain ⟨_, _, direct⟩ := h
    exact .inl (Ownership.assertOwner_eq_ok.mp direct)

/-- Nobody acts for a renounced governance. -/
theorem ActsFor.ne_renounced {q : Querier} {gov : GovernanceDetails Addr} {sender : Addr}
    (h : ActsFor q gov sender) : gov ≠ .Renounced := by
  rintro rfl
  rcases h with direct | ⟨_, _, isSub, _⟩
  · cases direct
  · cases isSub

theorem transferOwnership_eq_ok {deps : Deps} {sender : Addr} {newOwner : GovernanceDetails String}
    {expiry : Option Crates.Expiration} {o o' : Ownership}
    (h : transferOwnership deps sender newOwner expiry o = .ok o') :
    ∃ gov, newOwner.verify deps = .ok gov ∧ ActsFor deps.querier o.owner sender ∧
      o' = { o with pendingOwner := some gov, pendingExpiry := expiry } := by
  simp only [transferOwnership, bind_eq_ok, mapError_eq_ok, ensure_eq_ok, pure_eq_ok] at h
  obtain ⟨gov, verified, _, _, _, allowed, rfl⟩ := h
  exact ⟨gov, verified, actsFor_of_canChangeOwner allowed, rfl⟩

theorem actsFor_of_isPendingOwner {q : Querier} {pending : GovernanceDetails Addr}
    {pendingAddr sender : Addr} (owner : pending.ownerAddress q = some pendingAddr)
    (h : isPendingOwner q pending pendingAddr sender = .ok true) : ActsFor q pending sender := by
  unfold isPendingOwner at h
  split at h
  · rename_i same
    subst same
    exact .inl owner
  · split at h
    · simp only [bind_eq_ok, mapError_eq_ok, pure_eq_ok, beq_iff_eq] at h
      obtain ⟨top, walked, topOwner⟩ := h
      exact .inr ⟨_, top, rfl, walked, topOwner⟩
    · cases h

theorem acceptOwnership_eq_ok {q : Querier} {block : BlockInfo} {sender : Addr} {o o' : Ownership}
    (h : acceptOwnership q block sender o = .ok o') :
    ∃ pending, o.pendingOwner = some pending ∧ ActsFor q pending sender ∧
      (∀ expiry ∈ o.pendingExpiry, Crates.isExpired expiry block = false) ∧
      o' = { owner := pending, pendingOwner := none, pendingExpiry := none } := by
  simp only [acceptOwnership, bind_eq_ok, okOr_eq_ok, ensure_eq_ok, pure_eq_ok] at h
  obtain ⟨pending, isPending, addr, owner, _, accepts, _, rfl, _, alive, rfl⟩ := h
  exact ⟨pending, isPending, actsFor_of_isPendingOwner owner accepts, alive, rfl⟩

theorem renounceOwnership_eq_ok {q : Querier} {sender : Addr} {o o' : Ownership}
    (h : renounceOwnership q sender o = .ok o') :
    ActsFor q o.owner sender ∧
      o' = { owner := .Renounced, pendingOwner := none, pendingExpiry := none } := by
  simp only [renounceOwnership, bind_eq_ok, pure_eq_ok] at h
  obtain ⟨_, allowed, rfl⟩ := h
  exact ⟨actsFor_of_canChangeOwner allowed, rfl⟩

/-- Everything a successful call can do. -/
theorem exec_cases {c : Call} {o o' : Ownership} {u : Unit} (h : exec c o = .ok (o', u)) :
    (∃ newOwner expiry gov, c.action = .TransferOwnership newOwner expiry ∧
      newOwner.verify c.deps = .ok gov ∧ ActsFor c.deps.querier o.owner c.sender ∧
      o' = { o with pendingOwner := some gov, pendingExpiry := expiry }) ∨
    (∃ pending, c.action = .AcceptOwnership ∧ o.pendingOwner = some pending ∧
      ActsFor c.deps.querier pending c.sender ∧
      (∀ expiry ∈ o.pendingExpiry, Crates.isExpired expiry c.block = false) ∧
      o' = { owner := pending, pendingOwner := none, pendingExpiry := none }) ∨
    (c.action = .RenounceOwnership ∧ ActsFor c.deps.querier o.owner c.sender ∧
      o' = { owner := .Renounced, pendingOwner := none, pendingExpiry := none }) := by
  simp only [exec, bind_eq_ok, pure_eq_ok, Prod.mk.injEq, and_true] at h
  obtain ⟨_, h, rfl⟩ := h
  cases action : c.action with
  | TransferOwnership newOwner expiry =>
    rw [action] at h
    obtain ⟨gov, verified, acts, eq⟩ := transferOwnership_eq_ok h
    exact .inl ⟨newOwner, expiry, gov, rfl, verified, acts, eq⟩
  | AcceptOwnership =>
    rw [action] at h
    obtain ⟨pending, isPending, acts, alive, eq⟩ := acceptOwnership_eq_ok h
    exact .inr (.inl ⟨pending, rfl, isPending, acts, alive, eq⟩)
  | RenounceOwnership =>
    rw [action] at h
    obtain ⟨acts, eq⟩ := renounceOwnership_eq_ok h
    exact .inr (.inr ⟨rfl, acts, eq⟩)

/-! ## Runs -/

/-- No call of the run succeeds. -/
def NothingSucceeds (o : Ownership) (calls : List Call) : Prop :=
  Along exec (fun o c => ∃ e, exec c o = .error e) o calls

/-- The transfer to `p` with deadline `expiry` is the latest call of the run that
    succeeded, and an authorised owner sent it. -/
def Proposed (o₀ : Ownership) (calls : List Call) (p : GovernanceDetails Addr)
    (expiry : Option Crates.Expiration) : Prop :=
  ∃ pre t mid newOwner, calls = pre ++ t :: mid ∧
    t.action = .TransferOwnership newOwner expiry ∧ newOwner.verify t.deps = .ok p ∧
    ActsFor t.deps.querier (run exec o₀ pre).owner t.sender ∧
    (∃ r, exec t (run exec o₀ pre) = .ok r) ∧
    NothingSucceeds (step exec (run exec o₀ pre) t) mid

/-- The initial record already awaits `p`, and no call has succeeded since. -/
def Inherited (o₀ : Ownership) (calls : List Call) (p : GovernanceDetails Addr)
    (expiry : Option Crates.Expiration) : Prop :=
  o₀.pendingOwner = some p ∧ o₀.pendingExpiry = expiry ∧ NothingSucceeds o₀ calls

theorem NothingSucceeds.snoc {o : Ownership} {calls : List Call} (quiet : NothingSucceeds o calls)
    {c : Call} {e : GovOwnershipError} (fails : exec c (run exec o calls) = .error e) :
    NothingSucceeds o (calls ++ [c]) :=
  along_append.mpr ⟨quiet, ⟨e, fails⟩, trivial⟩

theorem Proposed.snoc {o₀ : Ownership} {calls : List Call} {p : GovernanceDetails Addr}
    {expiry : Option Crates.Expiration} (h : Proposed o₀ calls p expiry) {c : Call}
    {e : GovOwnershipError} (fails : exec c (run exec o₀ calls) = .error e) :
    Proposed o₀ (calls ++ [c]) p expiry := by
  obtain ⟨pre, t, mid, newOwner, rfl, action, verified, acts, ok, quiet⟩ := h
  rw [run_append, run_cons] at fails
  exact ⟨pre, t, mid ++ [c], newOwner, by simp, action, verified, acts, ok, quiet.snoc fails⟩

/-- Whatever is pending was proposed by the last call that succeeded, or was
    pending from the start. -/
theorem pending_origin (o₀ : Ownership) (calls : List Call) {p : GovernanceDetails Addr}
    (h : (run exec o₀ calls).pendingOwner = some p) :
    Proposed o₀ calls p (run exec o₀ calls).pendingExpiry ∨
      Inherited o₀ calls p (run exec o₀ calls).pendingExpiry := by
  -- induction from the end of the run: only the last call matters
  induction calls using List.reverseRecOn with
  | nil => exact .inr ⟨h, rfl, trivial⟩
  | append_singleton calls c ih =>
    rw [run_append, run_cons, run_nil] at h ⊢
    cases result : exec c (run exec o₀ calls) with
    | error e =>
      rw [step_of_error result] at h ⊢
      rcases ih h with proposed | ⟨pending, expiry, quiet⟩
      · exact .inl (proposed.snoc result)
      · exact .inr ⟨pending, expiry, quiet.snoc result⟩
    | ok r =>
      obtain ⟨o', u⟩ := r
      rw [step_of_ok result] at h ⊢
      obtain ⟨newOwner, expiry, gov, action, verified, acts, rfl⟩ | ⟨_, _, _, _, _, rfl⟩ |
        ⟨_, _, rfl⟩ := exec_cases result
      -- a transfer is its own origin, the other actions leave nothing pending
      · simp only [Option.some.injEq] at h
        subst h
        exact .inl ⟨calls, c, [], newOwner, rfl, action, verified, acts, ⟨_, result⟩, trivial⟩
      · cases h
      · cases h

/-- A renounced account has nothing pending. -/
def RenouncedIsFinal (o : Ownership) : Prop := o.owner = .Renounced → o.pendingOwner = none

theorem renouncedIsFinal_exec {c : Call} {o o' : Ownership} {u : Unit}
    (h : exec c o = .ok (o', u)) : RenouncedIsFinal o' := by
  obtain ⟨_, _, _, _, _, acts, rfl⟩ | ⟨_, _, _, _, _, rfl⟩ | ⟨_, _, rfl⟩ := exec_cases h
  · exact fun renounced => absurd renounced acts.ne_renounced
  · exact fun _ => rfl
  · exact fun _ => rfl

theorem owner_exec_of_renounced {c : Call} {o o' : Ownership} {u : Unit}
    (final : RenouncedIsFinal o) (renounced : o.owner = .Renounced)
    (h : exec c o = .ok (o', u)) : o'.owner = .Renounced := by
  obtain ⟨_, _, _, _, _, acts, rfl⟩ | ⟨_, _, isPending, _⟩ | ⟨_, _, rfl⟩ := exec_cases h
  · exact absurd renounced acts.ne_renounced
  -- only an acceptance could bring an owner back, and nothing is pending
  · rw [final renounced] at isPending; cases isPending
  · rfl

/-- From a renounced owner with nothing pending, no run leads to another owner. -/
theorem renounced_forever {o : Ownership} (final : RenouncedIsFinal o)
    (renounced : o.owner = .Renounced) (calls : List Call) :
    (run exec o calls).owner = .Renounced := by
  have both : RenouncedIsFinal (run exec o calls) ∧ (run exec o calls).owner = .Renounced := by
    refine run_invariant (P := fun o => RenouncedIsFinal o ∧ o.owner = .Renounced) calls ?_
      ⟨final, renounced⟩
    intro o c o' u inv ok
    exact ⟨renouncedIsFinal_exec ok, owner_exec_of_renounced inv.1 inv.2 ok⟩
  exact both.2

/-- The two-step ownership protocol.  In every run from every initial record, at
    every call: the owner changes only by accepting the latest proposal in time
    or by an authorised renunciation, a renounced owner stays unless the initial
    record was renounced with a transfer pending, acceptance and renunciation
    clear the pending transfer, and a failing call changes nothing. -/
theorem two_step_ownership (o₀ : Ownership) (before : List Call) (c : Call) :
    let s := run exec o₀ before
    let s' := step exec s c
    (s'.owner ≠ s.owner →
      (c.action = .AcceptOwnership ∧ ActsFor c.deps.querier s'.owner c.sender ∧
        ∃ expiry, (Proposed o₀ before s'.owner expiry ∨ Inherited o₀ before s'.owner expiry) ∧
          ∀ deadline ∈ expiry, Crates.isExpired deadline c.block = false) ∨
      (c.action = .RenounceOwnership ∧ s'.owner = .Renounced ∧
        ActsFor c.deps.querier s.owner c.sender)) ∧
    (RenouncedIsFinal o₀ → s.owner = .Renounced →
      ∀ later, (run exec s later).owner = .Renounced) ∧
    ((∃ r, exec c s = .ok r) → c.action = .AcceptOwnership ∨ c.action = .RenounceOwnership →
      s'.pendingOwner = none ∧ s'.pendingExpiry = none) ∧
    (∀ e, exec c s = .error e → s' = s) := by
  intro s s'
  refine ⟨?_, ?_, ?_, fun e fails => step_of_error fails⟩
  · intro changed
    rcases step_cases exec s c with same | ⟨u, ok⟩
    · exact absurd (congrArg Ownership.owner same) changed
    · obtain ⟨_, _, _, _, _, _, eq⟩ | ⟨pending, action, isPending, acts, alive, eq⟩ |
        ⟨action, acts, eq⟩ := exec_cases ok
      · exact absurd (congrArg Ownership.owner eq) changed
      -- an acceptance: the new owner is what was pending
      · have owner : s'.owner = pending := congrArg Ownership.owner eq
        have origin := pending_origin o₀ before isPending
        rw [← owner] at acts origin
        exact .inl ⟨action, acts, _, origin, alive⟩
      · exact .inr ⟨action, congrArg Ownership.owner eq, acts⟩
  · intro initial renounced later
    have final : RenouncedIsFinal s :=
      run_invariant before (fun o c o' u _ ok => renouncedIsFinal_exec ok) initial
    exact renounced_forever final renounced later
  · rintro ⟨⟨o', u⟩, ok⟩ action
    have next : s' = o' := step_of_ok ok
    rw [next]
    obtain ⟨_, _, _, transfer, _⟩ | ⟨_, _, _, _, _, rfl⟩ | ⟨_, _, rfl⟩ := exec_cases ok
    · rw [transfer] at action
      rcases action with h | h <;> cases h
    · exact ⟨rfl, rfl⟩
    · exact ⟨rfl, rfl⟩

end Calls

section Sample

attribute [local instance] releaseCrates

/-- Account `a` belongs to account `b`, and `b` to the monarch `m`. -/
def sampleDeps : Deps where
  addrValidate s := .ok ⟨s⟩
  querier :=
    { contract := fun addr =>
        if addr = ⟨"a"⟩ then some (.account (.ofLocal 1) (.SubAccount ⟨"b"⟩))
        else if addr = ⟨"b"⟩ then some (.account (.ofLocal 2) (.Monarchy ⟨"m"⟩))
        else if addr = ⟨"registry"⟩ then
          some { Contract.bare 2 with accountAddresses := fun key =>
            if key = (AccountId.ofLocal 1).storageKey then some ⟨"a"⟩ else none }
        else none
      codeInfo := fun _ => none
      registryAddress := fun _ => some ⟨"registry"⟩ }

def sampleCall (sender : String) (action : GovAction) : Call :=
  { deps := sampleDeps, block := { height := 1, time := 1 }, sender := ⟨sender⟩, action }

/-- A renounced record with a transfer pending gets an owner again; and the
    transfer to the sub-account `a` is accepted by `m`, who is neither `a` nor
    the owner `b` of `a`. -/
theorem two_step_ownership_exceptions :
    (step exec { owner := .Renounced, pendingOwner := some (.Monarchy ⟨"m"⟩), pendingExpiry := none }
        (sampleCall "m" .AcceptOwnership)).owner = .Monarchy ⟨"m"⟩ ∧
    (let s := run exec { owner := .Monarchy ⟨"o"⟩, pendingOwner := none, pendingExpiry := none }
        [sampleCall "o" (.TransferOwnership (.SubAccount "a") none)]
     s.owner = .Monarchy ⟨"o"⟩ ∧ s.pendingOwner = some (.SubAccount ⟨"a"⟩) ∧
      (step exec s (sampleCall "m" .AcceptOwnership)).owner = .SubAccount ⟨"a"⟩ ∧
      GovernanceDetails.ownerAddress sampleDeps.querier (.SubAccount ⟨"a"⟩) = some ⟨"a"⟩ ∧
      (sampleDeps.querier.queryOwnership ⟨"a"⟩).toOption.map (·.owner) =
        some (.SubAccount ⟨"b"⟩)) := by
  decide

end Sample

end AbstractFramework.Protocol
