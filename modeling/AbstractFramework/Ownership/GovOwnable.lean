import AbstractFramework.Objects.Querier

/-! # Governed ownership

The ownership functions of an account: who the owner address is, who counts as
the owner of a sub-account, and the three actions of `update_ownership`.
-/

namespace AbstractFramework

open Fallible Storage

variable [Crates]

/-- Errors associated with the contract's ownership. -/
inductive GovOwnershipError where
  | Std (e : StdError)
  | Abstract (e : AbstractError)
  | NoOwner
  | NotOwner
  | NotPendingOwner
  | TransferNotFound
  | TransferExpired
  | TransferToRenounced
  | ChangeOfNftOwned
deriving DecidableEq, Repr

/-- Actions that can be taken to alter the contract's governance ownership. -/
inductive GovAction where
  | TransferOwnership (newOwner : GovernanceDetails String) (expiry : Option Crates.Expiration)
  | AcceptOwnership
  | RenounceOwnership

/-! ## Governance details -/

def MIN_GOV_TYPE_LENGTH : Nat := 4
def MAX_GOV_TYPE_LENGTH : Nat := 64

def GovernanceDetails.verify (deps : Deps) :
    GovernanceDetails String → Except AbstractError (GovernanceDetails Addr)
  | .Monarchy monarch => do
    let addr ← (deps.addrValidate monarch).mapError AbstractError.Std
    return .Monarchy addr
  | .SubAccount account => do
    let accountAddr ← (deps.addrValidate account).mapError AbstractError.Std
    let contract ← (deps.querier.queryWasmContractInfo accountAddr).mapError AbstractError.Std
    let registryAddr ← okOr (deps.querier.registryAddress contract.codeId)
      (AbstractError.Std (.notFound "registry address"))
    let accountId ← (deps.querier.queryAccountId accountAddr).mapError AbstractError.Std
    let base ← okOr
      ((deps.querier.contract registryAddr).bind (·.accountAddresses accountId.storageKey))
      (AbstractError.Std (.msg ("Version control does not have account id of account " ++
        accountAddr.asStr)))
    if base = accountAddr then return .SubAccount accountAddr
    else .error (.Std (.msg
      "Verification of sub-account failed, account has different account ids"))
  | .External governanceAddress governanceType => do
    let addr ← (deps.addrValidate governanceAddress).mapError AbstractError.Std
    ensure (MIN_GOV_TYPE_LENGTH ≤ governanceType.utf8ByteSize)
      (AbstractError.FormattingError "governance type" "at least 3 characters"
        (toString governanceType.utf8ByteSize))
    ensure (governanceType.utf8ByteSize ≤ MAX_GOV_TYPE_LENGTH)
      (AbstractError.FormattingError "governance type" "at most 64 characters"
        (toString governanceType.utf8ByteSize))
    ensure (governanceType.toList.all isNameChar)
      (AbstractError.FormattingError "governance type" "alphanumeric characters and hyphens"
        governanceType)
    ensure (governanceType = Crates.toLowercase governanceType)
      (AbstractError.FormattingError "governance type" (toAsciiLowercase governanceType)
        governanceType)
    return .External addr governanceType
  | .Renounced => return .Renounced
  | .NFT collectionAddr tokenId => do
    let addr ← (deps.addrValidate collectionAddr).mapError AbstractError.Std
    return .NFT addr tokenId
  | .AbstractAccount address => return .AbstractAccount address

def GovernanceDetails.ownerAddress (q : Querier) : GovernanceDetails Addr → Option Addr
  | .Monarchy monarch => some monarch
  | .SubAccount account => some account
  | .External governanceAddress _ => some governanceAddress
  | .Renounced => none
  | .NFT collectionAddr tokenId => (q.contract collectionAddr).bind (·.ownerOf tokenId)
  | .AbstractAccount address => some address

/-! ## The walk up the ownership chain -/

def MAX_ADMIN_RECURSION : Nat := 2

/-- Follow sub-accounts until another governance or the recursion limit. -/
def topLevelLoop (q : Querier) : Nat → Except StdError Ownership → Except StdError Ownership
  | 0, current => current
  | n + 1, .ok ownership =>
    match ownership.owner with
    | .SubAccount account => topLevelLoop q n (q.queryOwnership account)
    | _ => .ok ownership
  | _ + 1, .error e => .error e

def queryTopLevelOwner (q : Querier) (maybeAccount : Addr) : Except StdError Ownership :=
  topLevelLoop q MAX_ADMIN_RECURSION (q.queryOwnership maybeAccount)

namespace Ownership

def assertOwner (o : Ownership) (q : Querier) (sender : Addr) : Except GovOwnershipError Unit := do
  let currentOwner ← okOr (o.owner.ownerAddress q) GovOwnershipError.NoOwner
  ensure (sender = currentOwner) GovOwnershipError.NotOwner

@[simp] theorem assertOwner_eq_ok {o : Ownership} {q : Querier} {sender : Addr} {u : Unit} :
    assertOwner o q sender = .ok u ↔ o.owner.ownerAddress q = some sender := by
  simp only [assertOwner, bind_eq_ok, okOr_eq_ok, ensure_eq_ok]
  constructor
  · rintro ⟨_, owner, rfl⟩; exact owner
  · intro owner; exact ⟨sender, owner, rfl⟩

theorem ownerAddress_ne_of_assertOwner_error {o : Ownership} {q : Querier} {sender : Addr}
    {e : GovOwnershipError} (refused : assertOwner o q sender = .error e) :
    o.owner.ownerAddress q ≠ some sender := by
  intro owner
  rw [assertOwner_eq_ok (u := ()) |>.mpr owner] at refused
  cases refused

/-- Assert current owner supports governance change. -/
def assertOwnerCanChange (o : Ownership) : Except GovOwnershipError Unit :=
  match o.owner with
  | .NFT _ _ => .error .ChangeOfNftOwned
  | _ => .ok ()

/-- Assert governance change allowed and sender is the owner, directly or at
    the top level of a sub-account. -/
def assertNestedSenderCanChangeOwner (o : Ownership) (q : Querier) (sender : Addr) :
    Except GovOwnershipError Unit :=
  match o.owner with
  | .SubAccount account => do
    let topLevelOwner ← (queryTopLevelOwner q account).mapError GovOwnershipError.Std
    -- an account below one that an NFT owns cannot change hands either
    topLevelOwner.assertOwnerCanChange
    match o.assertOwner q sender with
    | .ok () => return ()
    | .error _ => topLevelOwner.assertOwner q sender
  | _ => do
    o.assertOwnerCanChange
    o.assertOwner q sender

end Ownership

/-- With the `xion` feature a self-owned account acts as its own admin only
    while the admin flag is set. -/
def requireAuthAdmin (xion : Bool) (owner : GovernanceDetails Addr) (flag : Addr → Option Bool) :
    Except GovOwnershipError Unit :=
  match owner with
  | .AbstractAccount address =>
    if xion ∧ flag address ≠ some true then .error .NotOwner else .ok ()
  | _ => .ok ()

/-- Assert that an account is the contract's current owner, directly or at the
    top level.  `authAdmin` is the flag in the contract's own storage. -/
def assertNestedOwner (xion : Bool) (o : Ownership) (authAdmin : Option Bool) (q : Querier)
    (sender : Addr) : Except GovOwnershipError Unit :=
  match o.assertOwner q sender with
  | .ok () => requireAuthAdmin xion o.owner fun _ => authAdmin
  | .error e =>
    match o.owner with
    | .SubAccount account => do
      let topLevel ← (queryTopLevelOwner q account).mapError GovOwnershipError.Std
      topLevel.assertOwner q sender
      requireAuthAdmin xion topLevel.owner (q.item Contract.authAdmin)
    | _ => .error e

/-! ## Ownership actions -/

/-- The record stored at instantiation. -/
def initializeOwner (deps : Deps) (owner : GovernanceDetails String) :
    Except GovOwnershipError Ownership := do
  let owner ← (owner.verify deps).mapError GovOwnershipError.Abstract
  return { owner, pendingOwner := none, pendingExpiry := none }

/-- Propose to transfer the contract's ownership, with an optional deadline. -/
def transferOwnership (deps : Deps) (sender : Addr) (newOwner : GovernanceDetails String)
    (expiry : Option Crates.Expiration) (o : Ownership) : Except GovOwnershipError Ownership := do
  let newOwner ← (newOwner.verify deps).mapError GovOwnershipError.Abstract
  -- renouncing is an action of its own
  ensure ((newOwner.ownerAddress deps.querier).isSome) GovOwnershipError.TransferToRenounced
  o.assertNestedSenderCanChangeOwner deps.querier sender
  return { o with pendingOwner := some newOwner, pendingExpiry := expiry }

/-- Whether the sender may accept for the pending owner. -/
def isPendingOwner (q : Querier) (pending : GovernanceDetails Addr) (pendingAddr sender : Addr) :
    Except GovOwnershipError Bool :=
  if sender = pendingAddr then .ok true
  else
    match pending with
    | .SubAccount account => do
      let topLevel ← (queryTopLevelOwner q account).mapError GovOwnershipError.Std
      return topLevel.owner.ownerAddress q == some sender
    | _ => .ok false

/-- Accept a pending ownership transfer. -/
def acceptOwnership (q : Querier) (block : BlockInfo) (sender : Addr) (o : Ownership) :
    Except GovOwnershipError Ownership := do
  let pending ← okOr o.pendingOwner GovOwnershipError.TransferNotFound
  -- a burned NFT must not renounce the ownership by accident
  let pendingAddr ← okOr (pending.ownerAddress q) GovOwnershipError.TransferNotFound
  let isPending ← isPendingOwner q pending pendingAddr sender
  ensure (isPending = true) GovOwnershipError.NotPendingOwner
  ensure (∀ expiry ∈ o.pendingExpiry, Crates.isExpired expiry block = false)
    GovOwnershipError.TransferExpired
  return { owner := pending, pendingOwner := none, pendingExpiry := none }

/-- Set the contract's ownership as vacant permanently. -/
def renounceOwnership (q : Querier) (sender : Addr) (o : Ownership) :
    Except GovOwnershipError Ownership := do
  o.assertNestedSenderCanChangeOwner q sender
  return { owner := .Renounced, pendingOwner := none, pendingExpiry := none }

/-- Update the contract's ownership info based on the given action. -/
def updateOwnership (deps : Deps) (block : BlockInfo) (sender : Addr) (action : GovAction)
    (o : Ownership) : Except GovOwnershipError Ownership :=
  match action with
  | .TransferOwnership newOwner expiry => transferOwnership deps sender newOwner expiry o
  | .AcceptOwnership => acceptOwnership deps.querier block sender o
  | .RenounceOwnership => renounceOwnership deps.querier sender o

end AbstractFramework
