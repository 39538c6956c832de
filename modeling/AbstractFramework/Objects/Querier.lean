import AbstractFramework.Objects.Module

/-! # Governance, and what contracts can ask the chain

`GovernanceDetails` and `Ownership` are the ownership record of an account.
`Contract` is what the framework's raw and smart queries read from another
contract, and `Querier` is the chain as one contract sees it during one call.
-/

namespace AbstractFramework

open Fallible Storage

variable [Crates]

/-! ## Governance -/

/-- How an account is owned.  Addresses are texts before they are verified. -/
inductive GovernanceDetails (α : Type) where
  | Monarchy (monarch : α)
  | SubAccount (account : α)
  | External (governanceAddress : α) (governanceType : String)
  | NFT (collectionAddr : α) (tokenId : String)
  | AbstractAccount (address : Addr)
  | Renounced
deriving DecidableEq, Repr

/-- The ownership record: the owner, and a transfer that awaits acceptance. -/
structure Ownership where
  owner : GovernanceDetails Addr
  pendingOwner : Option (GovernanceDetails Addr)
  pendingExpiry : Option Crates.Expiration

/-! ## Contracts and queries -/

/-- The items the framework reads from a contract. -/
structure Contract where
  codeId : Nat
  admin : Option Addr
  cw2 : Option ContractVersion
  moduleData : Option ModuleData
  /-- `ACCOUNT_ID`, `OWNERSHIP` and `AUTH_ADMIN` of an account contract. -/
  accountId : Option AccountId
  ownership : Option Ownership
  authAdmin : Option Bool
  /-- `ACCOUNT_ADDRESSES` of a registry contract. -/
  accountAddresses : AccountKey → Option Addr
  /-- The `OwnerOf` query of an NFT collection. -/
  ownerOf : String → Option Addr
  /-- The `AuthorizedAddresses` query of an adapter. -/
  authorizedAddresses : Addr → Option (List Addr)

/-- A contract that stores none of the items. -/
def Contract.bare (codeId : Nat) : Contract where
  codeId := codeId
  admin := none
  cw2 := none
  moduleData := none
  accountId := none
  ownership := none
  authAdmin := none
  accountAddresses _ := none
  ownerOf _ := none
  authorizedAddresses _ := none

def Contract.account (id : AccountId) (owner : GovernanceDetails Addr) : Contract :=
  { Contract.bare 1 with
    accountId := some id
    ownership := some { owner, pendingOwner := none, pendingExpiry := none } }

structure CodeInfo where
  checksum : Bytes
  creator : Addr

structure Querier where
  contract : Addr → Option Contract
  codeInfo : Nat → Option CodeInfo
  /-- `native_addrs::registry_address`, by the code id of an account. -/
  registryAddress : Nat → Option Addr

/-- The querier together with the chain's address validation. -/
structure Deps where
  querier : Querier
  addrValidate : String → Except StdError Addr

namespace Querier

variable (q : Querier)

/-- One item of another contract, absent when the contract or the item is. -/
def item {α : Type} (field : Contract → Option α) (addr : Addr) : Option α :=
  (q.contract addr).bind field

/-- `cw2::query_contract_info`. -/
def queryContractVersion (addr : Addr) : Except StdError ContractVersion :=
  okOr (q.item Contract.cw2 addr) (.notFound "cw2::ContractVersion")

/-- `MODULE.query`. -/
def queryModuleData (addr : Addr) : Except StdError ModuleData :=
  okOr (q.item Contract.moduleData addr) (.notFound "ModuleData")

/-- `query_wasm_contract_info`. -/
def queryWasmContractInfo (addr : Addr) : Except StdError Contract :=
  okOr (q.contract addr) (.msg ("no such contract: " ++ addr.asStr))

/-- `ACCOUNT_ID.query`. -/
def queryAccountId (addr : Addr) : Except StdError AccountId :=
  okOr (q.item Contract.accountId addr) (.notFound "AccountId")

/-- `query_ownership`. -/
def queryOwnership (addr : Addr) : Except StdError Ownership :=
  okOr (q.item Contract.ownership addr) (.notFound "Ownership")

end Querier

/-- Validates that the addresses of a reference are valid. -/
def ModuleReference.validate (deps : Deps) : ModuleReference → Except AbstractError Unit
  | .Native addr | .Adapter addr | .Service addr => do
    let _ ← (deps.addrValidate addr.asStr).mapError AbstractError.Std
  | _ => .ok ()

/-! ## Module data validity -/

/-- `assert_module_data_validity` for a module at a known address. -/
def assertModuleDataAt (q : Querier) (claim : Module) (addr : Addr) (version : String) :
    Except AbstractError Unit :=
  match claim.reference with
  | .Standalone _ | .Service _ =>
    -- the version is checked only if cw2 exists
    match q.item Contract.cw2 addr with
    | some cw2 =>
      ensure (version = cw2.version) (AbstractError.UnequalModuleData cw2.version version)
    | none => .ok ()
  | _ => do
    let cw2 ← (q.queryContractVersion addr).mapError AbstractError.Std
    ensure (claim.info.moduleId = cw2.contract)
      (AbstractError.UnequalModuleData cw2.contract claim.info.moduleId)
    ensure (version = cw2.version) (AbstractError.UnequalModuleData cw2.version version)
    match claim.reference with
    | .Account _ | .Native _ | .Service _ => return ()
    | _ =>
      let data ← (q.queryModuleData addr).mapError AbstractError.Std
      ensure (data.module = cw2.contract)
        (AbstractError.UnequalModuleData cw2.contract data.module)
      ensure (data.version = cw2.version)
        (AbstractError.UnequalModuleData cw2.version data.version)

/-- Assert that the provided module has the same data stored under the cw2 and
    module data keys.  Without an address, code ids are accepted unchecked. -/
def assertModuleDataValidity (q : Querier) (claim : Module) (moduleAddress : Option Addr) :
    Except AbstractError Unit :=
  let addr := match claim.reference.unwrapAddr with
    | .ok addr => some addr
    | .error _ => moduleAddress
  match addr with
  | none => .ok ()
  | some addr =>
    match claim.info.version with
    | .Version version => assertModuleDataAt q claim addr version
    -- the source panics: the context was set with an unresolved version
    | .Latest => .error (.Assert "Module version is not versioned, context setting is wrong")

end AbstractFramework
