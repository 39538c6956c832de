import AbstractFramework.Lib.Forest
import AbstractFramework.Lib.Machine
import AbstractFramework.Accounts.Moves

/-! # The hierarchy of accounts

An account may be owned by another account.  Whether following the owners ends at
an account that is owned otherwise is a question about all accounts at once, which
no single account asks: the acceptance of a transfer looks at who accepts, and not
at where the new owner stands.  In the runs in which no account is accepted into an
account below it, the accounts stay a forest.
-/

namespace AbstractFramework.Accounts

open AbstractFramework Fallible Storage Account Machine Forest Relation

section Hierarchy

variable [Crates]

/-! ## Ownership records -/

/-- The account that owns, by the ownership records. -/
def parentOf (o : Addr → Option Ownership) (a : Addr) : Option Addr :=
  (o a).bind fun r =>
    match r.owner with
    | .SubAccount p => some p
    | _ => none

def View.ownership (v : View) (a : Addr) : Option Ownership := (v.nodes a).map (·.ownership)

theorem parentOf_eq_some {o : Addr → Option Ownership} {a p : Addr} :
    parentOf o a = some p ↔ ∃ r, o a = some r ∧ r.owner = .SubAccount p := by
  rw [parentOf, Option.bind_eq_some_iff]
  refine exists_congr fun r => and_congr_right fun _ => ?_
  cases r.owner <;> simp

variable {v v' : View} {a : Addr}

theorem ownership_set (v : View) (a : Addr) (n : Entry.Node) :
    (v.set a n).ownership = Function.update v.ownership a (some n.ownership) := by
  funext b
  by_cases same : b = a
  · subst same
    simp [View.ownership, View.set]
  · simp [View.ownership, View.set, same]

/-- A change of a list of sub-accounts is none of the ownership. -/
theorem Updates.ownership_eq {sender p : Addr} {action : UpdateSubAccountAction}
    (updates : Updates v sender p action v') : v'.ownership = v.ownership := by
  obtain ⟨found, _⟩ := updates
  rw [ownership_set]
  refine Function.update_eq_self_iff.mpr ?_
  simp [View.ownership, found]

theorem Told.ownership_eq {sender : Addr} {action : AccountSequence → UpdateSubAccountAction}
    {id : AccountId} {gov : GovernanceDetails Addr} (told : Told v sender action id gov v') :
    v'.ownership = v.ownership := by
  cases gov with
  | SubAccount p => exact Updates.ownership_eq told
  | _ => rw [show v' = v from told]

/-! ## The invariant -/

/-- Whoever owns, or may come to own, is an account. -/
structure Known (o : Addr → Option Ownership) : Prop where
  parents : ∀ {a r p}, o a = some r → r.owner = .SubAccount p → (o p).isSome
  pendings : ∀ {a r p}, o a = some r → r.pendingOwner = some (.SubAccount p) → (o p).isSome

section Moves

variable {o : Addr → Option Ownership} {a p : Addr} {r : Ownership}

/-- What holds of every record holds once one more is written of which it holds. -/
theorem forall_update {P : Ownership → Prop} (all : ∀ b r', o b = some r' → P r') (written : P r)
    {b : Addr} {r' : Ownership} (found : Function.update o a (some r) b = some r') : P r' := by
  by_cases same : b = a
  · subst same
    rw [Function.update_self, Option.some.injEq] at found
    exact found ▸ written
  · rw [Function.update_of_ne same] at found
    exact all b r' found

/-- One record is written. -/
theorem Known.update (known : Known o) (parent : ∀ p, r.owner = .SubAccount p → (o p).isSome)
    (pending : ∀ p, r.pendingOwner = some (.SubAccount p) → (o p).isSome) :
    Known (Function.update o a (some r)) := by
  have stays : ∀ {p}, (o p).isSome → (Function.update o a (some r) p).isSome := by
    intro p isAccount
    by_cases same : p = a
    · simp [same]
    · simpa [same] using isAccount
  have parents : ∀ b r', o b = some r' → ∀ p, r'.owner = .SubAccount p → (o p).isSome :=
    fun _ _ found _ isOwner => known.parents found isOwner
  have pendings : ∀ b r', o b = some r' →
      ∀ p, r'.pendingOwner = some (.SubAccount p) → (o p).isSome :=
    fun _ _ found _ isPending => known.pendings found isPending
  constructor
  · intro b r' p found isOwner
    exact stays (forall_update parents parent found p isOwner)
  · intro b r' p found isPending
    exact stays (forall_update pendings pending found p isPending)

theorem ownership_of_node {v : View} {n : Entry.Node} (found : v.nodes a = some n) :
    v.ownership a = some n.ownership := by
  simp [View.ownership, found]

/-- What a move does to the ownership records: it leaves them alone, or it writes
    the record of one account. -/
theorem Moves.ownership [Xion] {v v' : View} {c : Call} (moves : Moves v c v')
    (known : Known v.ownership) : v'.ownership = v.ownership ∨
      ∃ a r, v'.ownership = Function.update v.ownership a (some r) ∧
        (∀ p, r.owner = .SubAccount p → (v.ownership p).isSome) ∧
        (∀ p, r.pendingOwner = some (.SubAccount p) → (v.ownership p).isSome) ∧
        (v.ownership a = none ∨
          (∃ n, v.nodes a = some n ∧ r.owner = n.ownership.owner) ∨
          (∃ n info, v.nodes a = some n ∧ n.ownership.pendingOwner = some r.owner ∧
            c = .execute a info (.UpdateOwnership .AcceptOwnership)) ∨
          r.owner = .Renounced) := by
  have account : ∀ {a}, (v.nodes a).isSome → (v.ownership a).isSome := by
    intro a isAccount
    simpa [View.ownership] using isAccount
  cases moves with
  | keep => exact .inl rfl
  | propose found isKnown =>
    refine .inr ⟨_, _, ownership_set _ _ _, ?_, ?_, .inr (.inl ⟨_, found, rfl⟩)⟩
    · intro p owner
      exact known.parents (ownership_of_node found) owner
    · intro p pending
      exact account (isKnown p (Option.some.inj pending))
  | accept found isPending left joined =>
    rw [joined.ownership_eq, left.ownership_eq]
    refine .inr ⟨_, _, ownership_set _ _ _, ?_, ?_, .inr (.inr (.inl ⟨_, _, found, isPending, rfl⟩))⟩
    · rintro p rfl
      exact known.pendings (ownership_of_node found) isPending
    · intro p pending
      cases pending
  | renounce found left =>
    rw [left.ownership_eq]
    refine .inr ⟨_, _, ownership_set _ _ _, ?_, ?_, .inr (.inr (.inr rfl))⟩
    · intro p owner
      cases owner
    · intro p pending
      cases pending
  | update updates => exact .inl updates.ownership_eq
  | @create _ a n _ new joined =>
    rw [joined.ownership_eq]
    refine .inr ⟨a, n.ownership, ownership_set _ _ _, ?_, ?_, .inl ?_⟩
    · intro p owner
      exact account (new.parent p owner)
    · intro p pending
      rw [new.noPending] at pending
      cases pending
    · simp [View.ownership, new.fresh]
  | enlist found verified unregistered => exact .inl rfl

theorem Known.moves [Xion] {v v' : View} {c : Call} (known : Known v.ownership)
    (moves : Moves v c v') : Known v'.ownership := by
  rcases moves.ownership known with same | ⟨a, r, written, parent, pending, _⟩
  · rw [same]
    exact known
  · rw [written]
    exact known.update parent pending

/-- Nothing is below an address that is no account. -/
theorem Known.not_below_fresh (known : Known o) (fresh : o a = none) (account : (o p).isSome) :
    ¬ ReflTransGen (Under (parentOf o)) p a := by
  intro below
  rcases ReflTransGen.cases_tail below with same | ⟨b, _, up⟩
  · rw [← same, fresh] at account
    cases account
  · obtain ⟨r, found, owner⟩ := parentOf_eq_some.mp up
    have isAccount := known.parents found owner
    rw [fresh] at isAccount
    cases isAccount

/-- An account that is not accepted into one below it leaves the owners a forest. -/
theorem grounded_moves [Xion] {v v' : View} {c : Call} (known : Known v.ownership)
    (grounded : Grounded (parentOf v.ownership))
    (outside : ∀ account info, c = .execute account info (.UpdateOwnership .AcceptOwnership) →
      ∀ n p, v.nodes account = some n → n.ownership.pendingOwner = some (.SubAccount p) →
        ¬ ReflTransGen (Under (parentOf v.ownership)) p account)
    (moves : Moves v c v') : Grounded (parentOf v'.ownership) := by
  rcases moves.ownership known with same | ⟨a, r, written, parent, _, change⟩
  · rw [same]
    exact grounded
  rw [written]
  refine grounded.update (a := a) ?_ ?_
  · intro b other
    simp [parentOf, other]
  · intro p up
    obtain ⟨r', found, owner⟩ := parentOf_eq_some.mp up
    rw [Function.update_self, Option.some.injEq] at found
    subst found
    rcases change with fresh | ⟨n, found, same⟩ | ⟨n, info, found, isPending, rfl⟩ | renounced
    · exact known.not_below_fresh fresh (parent p owner)
    · -- the account was below its owner before
      rw [same] at owner
      have up : Under (parentOf v.ownership) a p :=
        parentOf_eq_some.mpr ⟨n.ownership, ownership_of_node found, owner⟩
      exact fun above => grounded.acyclic a (.head' up above)
    · rw [owner] at isPending
      exact outside a info rfl n p found isPending
    · rw [renounced] at owner
      cases owner

end Moves

/-! ## Runs -/

variable [Xion]

/-- `b` is the account that owns `a`. -/
def World.OwnedBy (w : World) (a b : Addr) : Prop :=
  (w.accounts.lookup a).map (·.ownership.owner) = some (.SubAccount b)

/-- A transfer to an account is accepted only while the account is neither the new
    owner nor above it. -/
def AcceptsOutside (w : World) (tx : Tx) : Prop :=
  ∀ account info, tx.call = .execute account info (.UpdateOwnership .AcceptOwnership) →
    ∀ s p, w.accounts.lookup account = some s →
      s.ownership.pendingOwner = some (.SubAccount p) → ¬ ReflTransGen w.OwnedBy p account

theorem ownedBy_eq_under (w : World) : w.OwnedBy = Under (parentOf w.view.ownership) := by
  funext a b
  simp only [World.OwnedBy, Under, parentOf_eq_some, View.ownership, World.view, Entry.node,
    Option.map_map, Option.map_eq_some_iff, Function.comp_apply, eq_iff_iff]
  constructor
  · rintro ⟨s, found, owner⟩
    exact ⟨s.ownership, ⟨s, found, rfl⟩, owner⟩
  · rintro ⟨_, ⟨s, found, rfl⟩, owner⟩
    exact ⟨s, found, owner⟩

theorem known_empty {r : RegistryState} : Known (World.mk ∅ r).view.ownership := by
  refine ⟨?_, ?_⟩
  · intro a r p found
    cases found
  · intro a r p found
    cases found

theorem grounded_run {r : RegistryState} {txs : List Tx}
    (along : AlongAccepted exec AcceptsOutside { accounts := ∅, registry := r } txs) :
    let o := (run exec { accounts := ∅, registry := r } txs).view.ownership
    Known o ∧ Grounded (parentOf o) := by
  refine run_invariant_accepted (P := fun w : World =>
    Known w.view.ownership ∧ Grounded (parentOf w.view.ownership)) ?_ ?_ along
  · rintro w tx w' u outside ⟨known, grounded⟩ ok
    refine ⟨known.moves (exec_moves ok), grounded_moves known grounded ?_ (exec_moves ok)⟩
    intro account info isAccept n p found isPending
    rw [← ownedBy_eq_under]
    simp only [World.view, Option.map_eq_some_iff] at found
    obtain ⟨s, found, rfl⟩ := found
    exact outside account info isAccept s p found isPending
  · exact ⟨known_empty, grounded_of_forall_none fun a => rfl⟩

/-- In every run in which transfers to accounts are accepted only by accounts that
    are not above the new owner: no account comes back to itself when its owners are
    followed, and every account ends at one whose owner is not an account. -/
theorem ownership_acyclic {r : RegistryState} {txs : List Tx}
    (along : AlongAccepted exec AcceptsOutside { accounts := ∅, registry := r } txs) :
    let w := run exec { accounts := ∅, registry := r } txs
    (∀ a, ¬ TransGen w.OwnedBy a a) ∧
      ∀ a ∈ w.accounts, ∃ root s, ReflTransGen w.OwnedBy a root ∧
        w.accounts.lookup root = some s ∧ ∀ p, s.ownership.owner ≠ .SubAccount p := by
  intro w
  obtain ⟨known, grounded⟩ := grounded_run along
  rw [ownedBy_eq_under]
  refine ⟨grounded.acyclic, ?_⟩
  intro a isAccount
  obtain ⟨root, above, isRoot⟩ := grounded.exists_root a
  have rootKnown : root ∈ w.accounts := by
    rcases ReflTransGen.cases_tail above with same | ⟨b, _, up⟩
    · exact same ▸ isAccount
    · obtain ⟨r, found, owner⟩ := parentOf_eq_some.mp up
      have parent := known.parents found owner
      rw [View.ownership, World.view] at parent
      simpa [AList.lookup_isSome] using parent
  obtain ⟨s, found⟩ := mem_iff_lookup.mp rootKnown
  refine ⟨root, s, above, found, ?_⟩
  intro p owner
  have up : parentOf w.view.ownership root = some p :=
    parentOf_eq_some.mpr ⟨s.ownership, by simp [View.ownership, World.view, found, Entry.node], owner⟩
  rw [isRoot] at up
  cases up

end Hierarchy

section Sample

attribute [local instance] accountCrates noAuthenticators

def sampleWorld : World := { accounts := ∅, registry := sampleRegistry }

/-- The monarch of two accounts proposes to put the second below the first. -/
def proposed : List Tx :=
  [publishTx, createTx "a" "m", createTx "b" "m",
    callTx "m" "b" (.UpdateOwnership (.TransferOwnership (.SubAccount "a") none))]

def acceptTx (account : String) : Tx := callTx "m" account (.UpdateOwnership .AcceptOwnership)

theorem ownership_acyclic_nested :
    (run exec sampleWorld (proposed ++ [acceptTx "b"])).OwnedBy ⟨"b"⟩ ⟨"a"⟩ ∧
      ¬ TransGen (run exec sampleWorld (proposed ++ [acceptTx "b"])).OwnedBy ⟨"b"⟩ ⟨"b"⟩ := by
  have before : Along exec AcceptsOutside sampleWorld proposed := by
    refine ⟨?_, ?_, ?_, ?_, trivial⟩
    all_goals
      intro account info isAccept
      cases isAccept
  have outside : AcceptsOutside (run exec sampleWorld proposed) (acceptTx "b") := by
    intro account info isAccept s p found isPending above
    obtain rfl : ⟨"b"⟩ = account := (Call.execute.inj isAccept).1
    have pending : ((run exec sampleWorld proposed).accounts.lookup ⟨"b"⟩).map
        (·.ownership.pendingOwner) = some (some (.SubAccount ⟨"a"⟩)) := by decide
    have top : ((run exec sampleWorld proposed).accounts.lookup ⟨"a"⟩).map (·.ownership.owner) =
        some (.Monarchy ⟨"m"⟩) := by decide
    rw [found, Option.map_some, isPending, Option.some.injEq, Option.some.injEq] at pending
    obtain rfl : p = ⟨"a"⟩ := GovernanceDetails.SubAccount.inj pending
    -- the first account has a monarch, and nothing is above it
    rcases ReflTransGen.cases_head above with same | ⟨_, up, _⟩
    · exact absurd same (by decide)
    · rw [World.OwnedBy, top] at up
      cases up
  have lower : (run exec sampleWorld (proposed ++ [acceptTx "b"])).OwnedBy ⟨"b"⟩ ⟨"a"⟩ := by
    unfold World.OwnedBy
    decide
  have along : Along exec AcceptsOutside sampleWorld (proposed ++ [acceptTx "b"]) :=
    along_append.mpr ⟨before, outside, trivial⟩
  exact ⟨lower, (ownership_acyclic along.accepted).1 _⟩

/-- The monarch proposes the account as its own owner, and accepts for it. -/
def selfOwned : List Tx :=
  [publishTx, createTx "a" "m",
    callTx "m" "a" (.UpdateOwnership (.TransferOwnership (.SubAccount "a") none)), acceptTx "a"]

/-- The account is its own owner, and following the owners ends nowhere. -/
theorem account_becomes_its_own_owner :
    (run exec sampleWorld selfOwned).OwnedBy ⟨"a"⟩ ⟨"a"⟩ ∧
      TransGen (run exec sampleWorld selfOwned).OwnedBy ⟨"a"⟩ ⟨"a"⟩ ∧
      ∀ root, ReflTransGen (run exec sampleWorld selfOwned).OwnedBy ⟨"a"⟩ root →
        (run exec sampleWorld selfOwned).OwnedBy root ⟨"a"⟩ := by
  have owner : ((run exec sampleWorld selfOwned).accounts.lookup ⟨"a"⟩).map (·.ownership.owner) =
      some (.SubAccount ⟨"a"⟩) := by decide
  refine ⟨owner, .single owner, ?_⟩
  intro root above
  have same : root = ⟨"a"⟩ := by
    induction above with
    | refl => rfl
    | tail _ up ih =>
      subst ih
      rw [World.OwnedBy, owner, Option.some.injEq] at up
      exact (GovernanceDetails.SubAccount.inj up).symm
  exact same ▸ owner

end Sample

end AbstractFramework.Accounts
