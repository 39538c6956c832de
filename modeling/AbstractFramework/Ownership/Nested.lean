import AbstractFramework.Ownership.GovOwnable

/-! # Nested ownership

Who counts as the owner of an account that belongs to another account.  The
walk up the chain stops at the first governance that is not a sub-account or
after `MAX_ADMIN_RECURSION` further accounts, whichever comes first.
`topLevelLoop_of_nested` and `topLevelLoop_of_deep` say where it stops in the
two cases; the acceptance rule for a chain of any length follows from them.
-/

namespace AbstractFramework

open Fallible

section Walk

variable [Crates] {q : Querier} {o root : Ownership} {accounts : List Addr} {sender : Addr}

/-- `accounts` are the accounts above `o`, from its parent to the one with the
    root governance.  Each has one governance, so that no account repeats. -/
inductive Nested (q : Querier) : Ownership → List Addr → Ownership → Prop where
  | root {o : Ownership} (top : ∀ account, o.owner ≠ .SubAccount account) : Nested q o [] o
  | sub {o parent root : Ownership} {account : Addr} {accounts : List Addr}
      (owner : o.owner = .SubAccount account) (found : q.queryOwnership account = .ok parent)
      (above : Nested q parent accounts root) : Nested q o (account :: accounts) root

theorem topLevelLoop_succ_sub {n : Nat} {account : Addr} (owner : o.owner = .SubAccount account) :
    topLevelLoop q (n + 1) (.ok o) = topLevelLoop q n (q.queryOwnership account) := by
  simp only [topLevelLoop, owner]

theorem topLevelLoop_root {n : Nat} (top : ∀ account, o.owner ≠ .SubAccount account) :
    topLevelLoop q n (.ok o) = .ok o := by
  cases n with
  | zero => rfl
  | succ n =>
    unfold topLevelLoop
    split
    · rename_i account owner
      exact absurd owner (top account)
    · rfl

/-- Within the recursion limit the walk ends at the root. -/
theorem topLevelLoop_of_nested (nested : Nested q o accounts root) {n : Nat}
    (short : accounts.length ≤ n) : topLevelLoop q n (.ok o) = .ok root := by
  induction nested generalizing n with
  | root top => exact topLevelLoop_root top
  | sub owner found _ ih =>
    obtain ⟨m, rfl⟩ : ∃ m, n = m + 1 := ⟨n - 1, by simp at short; omega⟩
    rw [topLevelLoop_succ_sub owner, found]
    exact ih (by simpa using short)

/-- Past the recursion limit the walk ends at an account that still belongs to
    another one. -/
theorem topLevelLoop_of_deep (nested : Nested q o accounts root) {n : Nat} {account : Addr}
    (deep : accounts[n]? = some account) :
    ∃ top, topLevelLoop q n (.ok o) = .ok top ∧ top.owner = .SubAccount account := by
  induction nested generalizing n with
  | root => cases deep
  | @sub o _ _ first _ owner found _ ih =>
    cases n with
    | zero =>
      rw [List.getElem?_cons_zero, Option.some.injEq] at deep
      exact ⟨o, rfl, deep ▸ owner⟩
    | succ n =>
      rw [topLevelLoop_succ_sub owner, found]
      exact ih (by simpa using deep)

/-! ## The acceptance rule -/

/-- With the `xion` feature a self-owned account acts only while its flag is set. -/
def AdminFlagSet (xion : Bool) (gov : GovernanceDetails Addr) (flag : Addr → Option Bool) : Prop :=
  ∀ address, xion = true → gov = .AbstractAccount address → flag address = some true

omit [Crates] in
@[simp] theorem requireAuthAdmin_eq_ok {xion : Bool} {gov : GovernanceDetails Addr}
    {flag : Addr → Option Bool} {u : Unit} :
    requireAuthAdmin xion gov flag = .ok u ↔ AdminFlagSet xion gov flag := by
  unfold requireAuthAdmin AdminFlagSet
  cases gov with
  | AbstractAccount address => cases xion <;> simp
  | _ => simp

omit [Crates] in
theorem adminFlagSet_subAccount {xion : Bool} {account : Addr} {flag : Addr → Option Bool} :
    AdminFlagSet xion (.SubAccount account) flag := by
  intro address _ isAccount
  cases isAccount

/-- Acceptance by a sub-account: its parent, or the owner the walk finds. -/
theorem assertNestedOwner_sub {xion : Bool} {authAdmin : Option Bool} {account : Addr}
    {top : Ownership} (owner : o.owner = .SubAccount account)
    (walked : queryTopLevelOwner q account = .ok top) :
    assertNestedOwner xion o authAdmin q sender = .ok () ↔
      o.owner.ownerAddress q = some sender ∨
        (top.owner.ownerAddress q = some sender ∧
          AdminFlagSet xion top.owner (q.item Contract.authAdmin)) := by
  unfold assertNestedOwner
  cases direct : o.assertOwner q sender with
  | ok u =>
    have accepted := Ownership.assertOwner_eq_ok.mp direct
    simp only [requireAuthAdmin_eq_ok, accepted, true_or, iff_true]
    rw [owner]
    exact adminFlagSet_subAccount
  | error e =>
    -- the direct check failed, so only the owner at the top can be accepted
    have refused := Ownership.ownerAddress_ne_of_assertOwner_error direct
    simp only [owner, walked, bind_eq_ok, mapError_eq_ok, Except.ok.injEq, exists_eq_left',
      Ownership.assertOwner_eq_ok, requireAuthAdmin_eq_ok]
    rw [owner] at refused
    simp [refused]

theorem assertNestedOwner_top {xion : Bool} {authAdmin : Option Bool}
    (top : ∀ account, o.owner ≠ .SubAccount account) :
    assertNestedOwner xion o authAdmin q sender = .ok () ↔
      o.owner.ownerAddress q = some sender ∧ AdminFlagSet xion o.owner fun _ => authAdmin := by
  unfold assertNestedOwner
  cases direct : o.assertOwner q sender with
  | ok u => simp [Ownership.assertOwner_eq_ok.mp direct]
  | error e =>
    have refused := Ownership.ownerAddress_ne_of_assertOwner_error direct
    simp only [refused, false_and, iff_false]
    intro accepted
    cases accepted

/-- Nested ownership is decided by the direct owner and, for an account with at
    most `MAX_ADMIN_RECURSION + 1` accounts above it, by the root; deeper down,
    by the account at which the walk stops. -/
theorem assertNestedOwner_iff {xion : Bool} {authAdmin : Option Bool}
    (nested : Nested q o accounts root) :
    assertNestedOwner xion o authAdmin q sender = .ok () ↔
      (o.owner.ownerAddress q = some sender ∧ AdminFlagSet xion o.owner fun _ => authAdmin) ∨
      (0 < accounts.length ∧ accounts.length ≤ MAX_ADMIN_RECURSION + 1 ∧
        root.owner.ownerAddress q = some sender ∧
        AdminFlagSet xion root.owner (q.item Contract.authAdmin)) ∨
      accounts[MAX_ADMIN_RECURSION + 1]? = some sender := by
  cases nested with
  | root top => simpa using assertNestedOwner_top top
  | @sub _ parent _ account accounts owner found above =>
    have direct : AdminFlagSet xion o.owner fun _ => authAdmin := owner ▸ adminFlagSet_subAccount
    have start : queryTopLevelOwner q account = topLevelLoop q MAX_ADMIN_RECURSION (.ok parent) := by
      rw [queryTopLevelOwner, found]
    -- the walk starts at the parent, so one account more than the limit is passed
    cases deep : accounts[MAX_ADMIN_RECURSION]? with
    | none =>
      have short : accounts.length ≤ MAX_ADMIN_RECURSION := List.getElem?_eq_none_iff.mp deep
      rw [topLevelLoop_of_nested above short] at start
      simp [assertNestedOwner_sub owner start, direct, short]
    | some last =>
      obtain ⟨top, walked, stopped⟩ := topLevelLoop_of_deep above deep
      have long : MAX_ADMIN_RECURSION < accounts.length := (List.getElem?_eq_some_iff.mp deep).1
      have tooLong : ¬ accounts.length ≤ MAX_ADMIN_RECURSION := by omega
      have stops : top.owner.ownerAddress q = some last := by rw [stopped]; rfl
      rw [walked] at start
      -- what the walk stops at is a sub-account, to which no flag applies
      have flag : AdminFlagSet xion top.owner (q.item Contract.authAdmin) :=
        stopped ▸ adminFlagSet_subAccount
      simp [assertNestedOwner_sub owner start, direct, deep, tooLong, stops, flag]

end Walk

section Sample

attribute [local instance] releaseCrates

/-- Each account of the list belongs to the next one, the last to `m`. -/
def chainOf : List String → Addr → Option Contract
  | [], _ => none
  | [last], addr =>
    if addr = ⟨last⟩ then some (.account (.ofLocal 1) (.Monarchy ⟨"m"⟩)) else none
  | account :: parent :: rest, addr =>
    if addr = ⟨account⟩ then some (.account (.ofLocal 1) (.SubAccount ⟨parent⟩))
    else chainOf (parent :: rest) addr

def chainQuerier (accounts : List String) : Querier :=
  { contract := chainOf accounts, codeInfo := fun _ => none, registryAddress := fun _ => none }

/-- The record of an account that belongs to `parent`. -/
def ownedBy (parent : String) : Ownership :=
  { owner := .SubAccount ⟨parent⟩, pendingOwner := none, pendingExpiry := none }

theorem monarch_not_sub (account : Addr) :
    GovernanceDetails.Monarchy (⟨"m"⟩ : Addr) ≠ .SubAccount account := by
  intro same
  cases same

/-- Two accounts above: the root's monarch is accepted. -/
theorem assertNestedOwner_iff_two_accounts :
    assertNestedOwner false (ownedBy "a1") none (chainQuerier ["a1", "a2"]) ⟨"m"⟩ = .ok () :=
  (assertNestedOwner_iff (.sub rfl rfl (.sub rfl rfl (.root monarch_not_sub)))).mpr
    (.inr (.inl ⟨by decide, by decide, rfl, fun _ off => by cases off⟩))

/-- Five accounts above: the root's monarch is refused, and the fourth account,
    which is neither the parent nor the root, is accepted.  With the `xion`
    feature a self-owned account refuses even its direct owner. -/
theorem nested_ownership_not_decided_at_root :
    Nested (chainQuerier ["a1", "a2", "a3", "a4", "a5"]) (ownedBy "a1")
      [⟨"a1"⟩, ⟨"a2"⟩, ⟨"a3"⟩, ⟨"a4"⟩, ⟨"a5"⟩]
      { owner := .Monarchy ⟨"m"⟩, pendingOwner := none, pendingExpiry := none } ∧
    assertNestedOwner false (ownedBy "a1") none (chainQuerier ["a1", "a2", "a3", "a4", "a5"])
      ⟨"m"⟩ = .error .NotOwner ∧
    assertNestedOwner false (ownedBy "a1") none (chainQuerier ["a1", "a2", "a3", "a4", "a5"])
      ⟨"a4"⟩ = .ok () ∧
    assertNestedOwner true
      { owner := .AbstractAccount ⟨"a0"⟩, pendingOwner := none, pendingExpiry := none } (some false)
      (chainQuerier []) ⟨"a0"⟩ = .error .NotOwner := by
  refine ⟨?_, by decide, by decide, by decide⟩
  exact .sub rfl rfl (.sub rfl rfl (.sub rfl rfl (.sub rfl rfl (.sub rfl rfl
    (.root monarch_not_sub)))))

end Sample

end AbstractFramework
