import AbstractFramework.Account.CallTree

/-! # Suspended accounts

A suspended account takes no message but `UpdateStatus`, which only its owner can
send.  In every tree of calls that starts at a suspended account the storage stays
as it is and the account sends nothing, up to a call of its owner that lifts the
suspension.  The suspension does not hold off the admin of the account's contract: where
that is someone else than the account, it may migrate the account or pass the role on.
-/

namespace AbstractFramework.Account.Entry

open AbstractFramework Fallible Storage Calls Machine

section Suspension

variable [Crates] [Xion] {d : Deployment} {env : CallEnv} {info : MessageInfo} {msg : ExecuteMsg}
  {s s' : AccountStorage} {msgs : List SubMsg} {a a' b : ChainAccount}
  {c : Calls.Config ChainAccount Item}

/-- The account up to the flag of the chain's authentication, which only exists with
    the `xion` feature. -/
def Unchanged (xion : Bool) (a a' : ChainAccount) : Prop :=
  ∃ flag, a' = { a with authAdmin := flag } ∧ (xion = false → flag = a.authAdmin)

theorem Unchanged.suspended {xion : Bool} (unchanged : Unchanged xion a a')
    (suspended : a.suspensionStatus = true) : a'.suspensionStatus = true := by
  obtain ⟨flag, rfl, _⟩ := unchanged
  exact suspended

theorem Unchanged.withFlag {xion : Bool} {flag : Option Bool} (unchanged : Unchanged xion a a')
    (same : xion = false → flag = a'.authAdmin) :
    Unchanged xion a { a' with authAdmin := flag } := by
  obtain ⟨earlier, rfl, kept⟩ := unchanged
  exact ⟨flag, rfl, fun off => (same off).trans (kept off)⟩

/-- The owner lifts the suspension. -/
def Lifts (a : ChainAccount) : Item → Prop
  | .call env info msg => msg = .UpdateStatus (some false) ∧
      assertOwner env.toEnv a.toAccountState info.sender = .ok ()
  | _ => False

/-- The admin migrates the account, or passes the role on. -/
def ByAdmin (a : ChainAccount) : Item → Prop
  | .migrate sender _ _ | .updateAdmin sender _ => a.admin = some sender
  | _ => False

/-- Work of other code.  The account itself only acts in transactions that the chain
    authenticates. -/
def FromOutside (d : Deployment) (item : Item) : Prop :=
  item = .foreign ∨ ∃ sender, item.sender = some sender ∧ d.Sees item ∧
    (sender ≠ d.self ∨ d.xion = true)

theorem fromOutside_foreign : FromOutside d .foreign := .inl rfl

/-- A suspended account sends nothing, and writes its status only. -/
theorem execute_suspended (suspended : s.suspensionStatus = true)
    (ok : execute env info msg s = .ok (s', msgs)) :
    msgs = [] ∧ assertOwner env.toEnv s.toAccountState info.sender = .ok () ∧
      ∃ status, msg = .UpdateStatus (some status) ∧
        s' = dropAuthAdmin env { s with suspensionStatus := status } := by
  obtain ⟨isStatus | running, t, handled, rfl⟩ := execute_eq_ok ok
  · cases msg with
    | UpdateStatus status =>
      simp only [handle, updateAccountStatus, okOr_eq_ok, bind_eq_ok, pure_eq_ok,
        Prod.mk.injEq] at handled
      obtain ⟨status, rfl, _, owner, rfl, rfl⟩ := handled
      exact ⟨rfl, owner, status, rfl, rfl⟩
    | _ => cases isStatus
  · rw [suspended] at running
    cases running

/-- The account as it was, among work of other code. -/
structure Frozen (d : Deployment) (a a' : ChainAccount) (items : List Item) : Prop where
  unchanged : Unchanged d.xion a a'
  fromOutside : ∀ item ∈ items, FromOutside d item

theorem Frozen.act {item : Item} {rest : List Item} (frozen : Frozen d a b rest)
    (outside : FromOutside d item) : Frozen d a b ([item, .foreign] ++ rest) := by
  refine ⟨frozen.unchanged, ?_⟩
  simp only [List.cons_append, List.nil_append, List.forall_mem_cons]
  exact ⟨outside, fromOutside_foreign, frozen.fromOutside⟩

theorem Frozen.withFlag {items : List Item} {flag : Option Bool} (frozen : Frozen d a b items)
    (same : d.xion = false → flag = b.authAdmin) :
    Frozen d a { b with authAdmin := flag } items :=
  ⟨frozen.unchanged.withFlag same, frozen.fromOutside⟩

theorem Frozen.expands {item : Item} {items rest : List Item} (suspended : a.suspensionStatus = true)
    (expands : ((program d).when fun b item => ¬(Lifts b item ∨ ByAdmin b item)).Expands
      b item a' items)
    (frozen : Frozen d a b (item :: rest)) : Frozen d a a' (items ++ rest) := by
  obtain ⟨neither, expands⟩ := expands
  obtain ⟨notLifted, notByAdmin⟩ := not_or.mp neither
  have here := frozen.fromOutside item List.mem_cons_self
  have later : Frozen d a b rest :=
    ⟨frozen.unchanged, fun item listed => frozen.fromOutside item (List.mem_cons_of_mem _ listed)⟩
  cases item with
  | call env info msg =>
    obtain ⟨t, msgs, ok, rfl, rfl⟩ := expands
    obtain ⟨rfl, owner, status, rfl, rfl⟩ :=
      execute_suspended (frozen.unchanged.suspended suspended) ok
    obtain ⟨_, _, sees, _⟩ := here.resolve_left nofun
    cases status with
    | true =>
      -- suspending a suspended account changes nothing
      have same : { b with suspensionStatus := true } = b := by
        rw [← frozen.unchanged.suspended suspended]
      have kept : Frozen d a { b with authAdmin := if env.xion then none else b.authAdmin } rest :=
        later.withFlag fun off => by
          rw [sees.2, off]
          rfl
      rw [← same] at kept
      exact kept
    | false => exact absurd ⟨rfl, owner⟩ notLifted
  | migrate sender codeId bytes => exact absurd expands.1 notByAdmin
  | updateAdmin sender admin => exact absurd expands.1 notByAdmin
  | dispatch sub =>
    obtain ⟨_, isSender, _⟩ := here.resolve_left nofun
    cases isSender
  | awaiting msg id =>
    obtain ⟨_, isSender, _⟩ := here.resolve_left nofun
    cases isSender
  | foreign =>
    cases expands with
    | done => exact later
    | act isSender sees notSelf => exact later.act (.inr ⟨_, isSender, sees, .inl notSelf⟩)
    | authenticated own sees xion =>
      refine (later.withFlag fun off => ?_).act ?_
      · rw [xion] at off
        cases off
      · rcases own with isSender | isForeign
        · exact .inr ⟨_, isSender, sees, .inr xion⟩
        · exact .inl isForeign

theorem frozen_reachable (suspended : a.suspensionStatus = true)
    (reached : Reachable ((program d).when fun b item => ¬(Lifts b item ∨ ByAdmin b item))
      ⟨a, push [.foreign] []⟩ c) : Frozen d a c.state (pending c.stack) := by
  refine reachable_invariant (I := Frozen d a)
    (fun _ _ _ _ _ expands frozen => frozen.expands suspended expands) ?_ ?_ reached
  · rintro b item items rest ⟨rfl, rfl⟩ frozen
    exact ⟨frozen.unchanged, by simpa using frozen.fromOutside⟩
  · exact ⟨⟨_, rfl, fun _ => rfl⟩, by simp [fromOutside_foreign]⟩

/-- In every tree of calls, a suspended account stays as it is and sends nothing, unless a
    call of its owner, from outside, lifts the suspension of the account as it was, or the
    admin of the account's contract, who is not the account, migrates the account as it was
    or passes the role on.  An account that is its own admin does so only in a transaction
    that the chain authenticates. -/
theorem suspended_until_lifted (suspended : a.suspensionStatus = true)
    (reached : Reachable (program d) ⟨a, push [.foreign] []⟩ c) :
    Frozen d a c.state (pending c.stack) ∨
      (∃ b env info rest, Unchanged d.xion a b ∧
        Reachable (program d) ⟨b, .todo (.call env info (.UpdateStatus (some false))) :: rest⟩ c ∧
        FromOutside d (.call env info (.UpdateStatus (some false))) ∧
        assertOwner env.toEnv b.toAccountState info.sender = .ok ()) ∨
      ∃ b item rest, Unchanged d.xion a b ∧ Reachable (program d) ⟨b, .todo item :: rest⟩ c ∧
        ByAdmin b item ∧ (a.admin ≠ some d.self ∨ d.xion = true) := by
  rcases reachable_until (C := fun b item => ¬(Lifts b item ∨ ByAdmin b item)) reached with
    never | ⟨b, item, rest, a', items, either, expands, before, after⟩
  · exact .inl (frozen_reachable suspended never)
  · obtain ⟨unchanged, outside⟩ := frozen_reachable suspended before
    have here : FromOutside d item := outside _ List.mem_cons_self
    rcases not_not.mp either with lifts | byAdmin
    · cases item with
      | call env info msg =>
        obtain ⟨rfl, owner⟩ := lifts
        exact .inr (.inl ⟨b, env, info, rest, unchanged, after, here, owner⟩)
      | _ => exact lifts.elim
    · refine .inr (.inr ⟨b, item, rest, unchanged, after, byAdmin, ?_⟩)
      have sameAdmin : b.admin = a.admin := by
        obtain ⟨flag, rfl, _⟩ := unchanged
        rfl
      cases item with
      | migrate sender codeId bytes | updateAdmin sender admin =>
        obtain ⟨_, isSender, _, notSelf⟩ := here.resolve_left nofun
        obtain rfl := Option.some.inj isSender
        refine notSelf.imp_left fun other => ?_
        rw [← sameAdmin, show b.admin = some sender from byAdmin]
        exact fun same => other (Option.some.inj same)
      | _ => exact byAdmin.elim

end Suspension

section Sample

attribute [local instance] releaseCrates noAuthenticators

def suspendedAccount : ChainAccount := onChain { emptyStorage with suspensionStatus := true }

/-- The account runs again after a call of its owner. -/
theorem suspended_until_lifted_owner :
    ∃ c b env info rest,
      Reachable (program sampleDeployment) ⟨suspendedAccount, push [.foreign] []⟩ c ∧
        c.state.suspensionStatus = false ∧
        Reachable (program sampleDeployment)
          ⟨b, .todo (.call env info (.UpdateStatus (some false))) :: rest⟩ c ∧
        Unchanged false suspendedAccount b ∧
        assertOwner env.toEnv b.toAccountState info.sender = .ok () := by
  have reached : Reachable ((program sampleDeployment).when fun _ _ => True)
      ⟨suspendedAccount, push [.foreign] []⟩
      ⟨onChain (dropAuthAdmin sampleCallEnv emptyStorage),
        push (List.map .dispatch []) [.todo .foreign]⟩ :=
    reachable_call sampleCallEnv ownerInfo (.UpdateStatus (some false)) ⟨rfl, rfl⟩ (by decide)
      (fun _ _ => trivial) rfl
  have running : Reachable (program sampleDeployment) ⟨suspendedAccount, push [.foreign] []⟩
      ⟨onChain (dropAuthAdmin sampleCallEnv emptyStorage),
        push (List.map .dispatch []) [.todo .foreign]⟩ :=
    reachable_of_when reached
  rcases suspended_until_lifted rfl running with
    frozen | ⟨b, env, info, rest, same, after, _, owner⟩ | ⟨_, _, _, _, _, _, other | xion⟩
  · have suspended := frozen.unchanged.suspended rfl
    cases suspended
  · exact ⟨_, b, env, info, rest, running, rfl, after, same, owner⟩
  -- the account is its own admin, and there are no authenticated transactions
  · exact absurd rfl other
  · cases xion

end Sample

end AbstractFramework.Account.Entry
