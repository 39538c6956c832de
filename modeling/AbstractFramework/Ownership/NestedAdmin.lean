import AbstractFramework.Account.State
import AbstractFramework.Ownership.GovOwnable

/-! # The admin of a module

A module has the account that it is installed on as its admin.  The account counts as
such only while it calls the module in its role as admin; besides it, the owner at the top
of the chain of accounts does.
-/

namespace AbstractFramework

open Fallible

variable [Crates]

/-- What a module asks of the chain to decide who its admin is. -/
structure NestedAdmin where
  querier : Querier
  /-- The address of the module. -/
  contract : Addr
  /-- The stored admin. -/
  get : Except StdError (Option Addr)
  /-- `CALLING_TO_AS_ADMIN` of an account. -/
  callingToAsAdmin : Addr → Option Addr

inductive AdminError where
  | Std (e : StdError)
  | NotAdmin
deriving DecidableEq

def queryTopLevelOwnerAddr (q : Querier) (maybeAccount : Addr) : Except StdError Addr := do
  let ownership ← queryTopLevelOwner q maybeAccount
  okOr (ownership.owner.ownerAddress q) (.msg "Top level account got renounced")

namespace NestedAdmin

variable (module : NestedAdmin)

/-- Whether the account calls to the module as its admin. -/
def assertAccountCallingToAsAdminIsSelf (maybeAccount : Addr) : Bool :=
  match module.callingToAsAdmin maybeAccount with
  | some adminCallTo =>
    adminCallTo = module.contract || adminCallTo = Account.CALLING_TO_AS_ADMIN_WILD_CARD
  | none => false

def isAdminCustom (caller admin : Addr) : Bool :=
  -- Initial check if directly called by the admin
  if caller = admin && module.assertAccountCallingToAsAdminIsSelf caller then true
  -- Check if top level owner address is equal to the caller
  else (queryTopLevelOwnerAddr module.querier admin).toOption = some caller

def isAdmin (caller : Addr) : Except StdError Bool := do
  match ← module.get with
  | some admin => return module.isAdminCustom caller admin
  | none => return false

def assertAdmin (caller : Addr) : Except AdminError Unit := do
  let isAdmin ← (module.isAdmin caller).mapError AdminError.Std
  ensure (isAdmin = true) .NotAdmin

theorem assertAdmin_eq_ok {module : NestedAdmin} {caller : Addr} {u : Unit} :
    module.assertAdmin caller = .ok u ↔ module.isAdmin caller = .ok true := by
  simp [assertAdmin]

end NestedAdmin

end AbstractFramework
