import Mathlib.Data.List.Sort
import AbstractFramework.Objects.Querier

/-! # Registry storage

The storage of the registry contract, its errors, and the queries that other
contracts send to it.  A map keyed by an account id is keyed by the id's
storage bytes: two ids with the same bytes share their entry.
-/

namespace AbstractFramework

open Fallible Storage

variable [Crates]

/-! ## Module configuration -/

abbrev ModuleMetadata := String

inductive Monetization where
  | None
  | InstallFee (fee : Coin)
deriving DecidableEq, Repr

structure ModuleConfiguration where
  monetization : Monetization
  metadata : Option ModuleMetadata
  instantiationFunds : List Coin
deriving DecidableEq, Repr

/-- `ModuleConfiguration::default`. -/
def ModuleConfiguration.default : ModuleConfiguration :=
  { monetization := .None, metadata := none, instantiationFunds := [] }

structure ModuleDefaultConfiguration where
  metadata : ModuleMetadata
deriving DecidableEq, Repr

/-! ## Fees -/

structure BankMsg where
  toAddress : Addr
  amount : List Coin
deriving DecidableEq, Repr

/-- `FixedFee::assert_payment`: the sent funds are exactly the fee. -/
def assertPayment (fee : Coin) (info : MessageInfo) : Except AbstractError Coin :=
  if fee.amount = 0 then .ok fee
  else if info.funds = [fee] then .ok fee
  else .error (.Fee fee info.funds)

/-! ## Links -/

inductive ValidationError where
  | LinkInvalidShort (min : Nat)
  | LinkInvalidLong (max : Nat)
  | LinkInvalidFormat
  | LinkContainsDangerousCharacters
  | TitleInvalidShort (min : Nat)
  | TitleInvalidLong (max : Nat)
  | TitleContainsDangerousCharacters
  | DescriptionInvalidShort (min : Nat)
  | DescriptionInvalidLong (max : Nat)
  | DescriptionContainsDangerousCharacters
deriving DecidableEq, Repr

def MIN_LINK_LENGTH : Nat := 11
def MAX_LINK_LENGTH : Nat := 128
def DANGEROUS_CHARS : List Char := ['"', '\'', '=', '>', '<']

def isValidUrl (link : String) : Bool :=
  "http://".toList.isPrefixOf link.toList || "https://".toList.isPrefixOf link.toList ||
    "ipfs://".toList.isPrefixOf link.toList

def validateLink (link : String) : Except ValidationError Unit :=
  if link.utf8ByteSize < MIN_LINK_LENGTH then .error (.LinkInvalidShort MIN_LINK_LENGTH)
  else if MAX_LINK_LENGTH < link.utf8ByteSize then .error (.LinkInvalidLong MAX_LINK_LENGTH)
  else if !isValidUrl link then .error .LinkInvalidFormat
  else if link.toList.any (DANGEROUS_CHARS.contains ·) then .error .LinkContainsDangerousCharacters
  else .ok ()

/-! ## State -/

structure Config where
  securityEnabled : Bool
  namespaceRegistrationFee : Option Coin
deriving DecidableEq, Repr

structure RegistryState where
  config : Config
  ownership : Crates.CwOwnership
  /-- Modules waiting for approval. -/
  pendingModules : Map ModuleKey ModuleReference
  registeredModules : Map ModuleKey ModuleReference
  yankedModules : Map ModuleKey ModuleReference
  standaloneInfos : Map Nat ModuleInfo
  serviceInfos : Map Addr ModuleInfo
  moduleConfig : Map ModuleKey ModuleConfiguration
  moduleDefaultConfig : Map (Namespace × String) ModuleDefaultConfiguration
  accountAddresses : Map AccountKey Addr
  localAccountSequence : AccountSequence
  namespaces : Map Namespace AccountId
  revNamespaces : Map AccountKey Namespace

inductive RegistryError where
  | Std (e : StdError)
  | Abstract (e : AbstractError)
  | Validation (e : ValidationError)
  | Ownership (text : String)
  | NotAccountCodeId (accountInfo : ModuleInfo) (expectedCodeId actualCodeId : Nat)
  | NotAccountInfo (callerInfo : ModuleInfo)
  | ModuleNotFound (info : ModuleInfo)
  | NotUpdateableModule (info : ModuleInfo)
  | UnknownNamespace (ns : Namespace)
  | AccountOwnerMismatch (sender owner : Addr)
  | NoAccountOwner (accountId : AccountId)
  | NamespaceOccupied (ns : String) (id : AccountId)
  | ExceedsNamespaceLimit (limit current : Nat)
  | AdminMustBeNone
  | NoAction
  | AccountAlreadyExists (id : AccountId)
  | RedundantInitFunds
  | SenderNotIbcHost (sender host : String)
  | InvalidAccountSequence (expected actual : AccountSequence)
deriving DecidableEq, Repr

namespace RegistryState

variable (s : RegistryState)

/-! ## Queries -/

/-- The entries of one module, all its registered versions. -/
def versionsOf (ns : Namespace) (name : String) : List (String × ModuleReference) :=
  (s.registeredModules.entries.filter fun e => e.1.ns = ns ∧ e.1.name = name).map
    fun e => (e.1.version, e.2)

/-- Whether no version of the module is registered. -/
def noVersions (ns : Namespace) (name : String) : Bool :=
  (s.versionsOf ns name).isEmpty

/-- A version text that parses and carries no pre-release tag. -/
def isReleaseText (version : String) : Bool :=
  match Crates.parseVersion version with
  | .ok v => Crates.isRelease v
  | .error _ => false

/-- The last release version in the order of the storage keys. -/
def latestVersion (ns : Namespace) (name : String) : Option (String × ModuleReference) :=
  ((s.versionsOf ns name).insertionSort fun a b => strBytes b.1 ≤ strBytes a.1).find?
    fun entry => isReleaseText entry.1

/-- `ModuleConfiguration::from_storage`. -/
def configFromStorage (info : ModuleInfo) : ModuleConfiguration :=
  let config := (s.moduleConfig.lookup info.key).getD .default
  match config.metadata, s.moduleDefaultConfig.lookup (info.ns, info.name) with
  | none, some defaults => { config with metadata := some defaults.metadata }
  | _, _ => config

/-- One module of `handle_modules_query`. -/
def queryModule (info : ModuleInfo) : Except StdError (Module × ModuleConfiguration) :=
  match info.version with
  | .Version _ => do
    let reference ← okOr (s.registeredModules.lookup info.key)
      (.msg ("Module " ++ info.toStr ++ " does not have a stored module reference"))
    return ({ info, reference }, s.configFromStorage info)
  | .Latest => do
    let (version, reference) ← okOr (s.latestVersion info.ns info.name)
      (.msg ("Module " ++ info.toStr ++ " does not have a stored module reference"))
    let info := { info with version := .Version version }
    return ({ info, reference }, s.configFromStorage info)

/-- A query resolves the version and nothing else. -/
theorem queryModule_moduleId {s : RegistryState} {info : ModuleInfo} {m : Module}
    {config : ModuleConfiguration} (h : s.queryModule info = .ok (m, config)) :
    m.info.moduleId = info.moduleId := by
  unfold queryModule at h
  split at h <;> simp only [bind_eq_ok, pure_eq_ok, Prod.mk.injEq] at h
  · obtain ⟨_, _, rfl, _⟩ := h
    rfl
  · obtain ⟨_, _, rfl, _⟩ := h
    rfl

def handleModulesQuery (infos : List ModuleInfo) :
    Except StdError (List (Module × ModuleConfiguration)) :=
  infos.mapM s.queryModule

/-! ## Updates -/

/-- Move the module from the registered to the yanked modules. -/
def yank (key : ModuleKey) (reference : ModuleReference) : RegistryState :=
  { s with
    registeredModules := s.registeredModules.erase key
    yankedModules := s.yankedModules.insert key reference }

/-- Save the module info of a standalone contract under its code id. -/
def saveStandalone (infos : Map Nat ModuleInfo) (info : ModuleInfo) :
    ModuleReference → Map Nat ModuleInfo
  | .Standalone id => infos.insert id info
  | _ => infos

def removeStandalone (infos : Map Nat ModuleInfo) : Option ModuleReference → Map Nat ModuleInfo
  | some (.Standalone id) => infos.erase id
  | _ => infos

def saveService (infos : Map Addr ModuleInfo) (info : ModuleInfo) :
    ModuleReference → Map Addr ModuleInfo
  | .Service addr => infos.insert addr info
  | _ => infos

/-- Register a version directly, with the reverse entry of its contract. -/
def register (info : ModuleInfo) (reference : ModuleReference) : RegistryState :=
  { s with
    registeredModules := s.registeredModules.insert info.key reference
    standaloneInfos := saveStandalone s.standaloneInfos info reference
    serviceInfos := saveService s.serviceInfos info reference }

/-- Move a version from the pending to the registered modules. -/
def approve (info : ModuleInfo) (reference : ModuleReference) : RegistryState :=
  { s with
    registeredModules := s.registeredModules.insert info.key reference
    pendingModules := s.pendingModules.erase info.key
    standaloneInfos := saveStandalone s.standaloneInfos info reference }

def claim (ns : Namespace) (accountId : AccountId) : RegistryState :=
  { s with
    namespaces := s.namespaces.insert ns accountId
    revNamespaces := s.revNamespaces.insert accountId.storageKey ns }

/-- Take the namespace from the account that owns it. -/
def unclaim (ns : Namespace) (owner : AccountId) : RegistryState :=
  { s with
    namespaces := s.namespaces.erase ns
    revNamespaces := s.revNamespaces.erase owner.storageKey }

/-- Whether any of the module maps has the version. -/
def hasModule (key : ModuleKey) : Prop :=
  key ∈ s.pendingModules ∨ key ∈ s.registeredModules ∨ key ∈ s.yankedModules

instance (key : ModuleKey) : Decidable (s.hasModule key) :=
  inferInstanceAs (Decidable (_ ∨ _ ∨ _))

end RegistryState

end AbstractFramework
