import AbstractFramework.Objects.AccountId

/-! # Modules

Namespaces, module names and versions with their validation, the references a
module version is registered with, and the data a module stores about itself.
-/

namespace AbstractFramework

open Fallible Storage

variable [Crates]

/-! ## Names -/

def ACCOUNT : String := "abstract:account"
def IBC_CLIENT : String := "abstract:ibc-client"
def IBC_HOST : String := "abstract:ibc-host"
def ABSTRACT_NAMESPACE : String := "abstract"

def MAX_LENGTH : Nat := 64

/-- The characters a module name or a namespace is made of. -/
def isNameChar (c : Char) : Bool := c.isAlphanum || c == '-'

/-- Validate the name of a module or a namespace. -/
def validateName (name : String) : Except AbstractError Unit := do
  ensure (name.isEmpty = false)
    (AbstractError.FormattingError "module name" "with content" "empty")
  ensure (name.utf8ByteSize ≤ MAX_LENGTH)
    (AbstractError.FormattingError "module name" "at most 64 characters"
      (toString name.utf8ByteSize))
  ensure (name.toList.all isNameChar)
    (AbstractError.FormattingError "module name" "alphanumeric characters and hyphens" name)
  ensure (name = Crates.toLowercase name)
    (AbstractError.FormattingError "module name" (toAsciiLowercase name) name)

structure Namespace where
  asStr : String
deriving DecidableEq, Repr

def Namespace.validate (ns : Namespace) : Except AbstractError Unit := validateName ns.asStr

def Namespace.new (name : String) : Except AbstractError Namespace := do
  validateName name
  return ⟨name⟩

/-! ## Module identifiers -/

inductive ModuleVersion where
  | Latest
  | Version (ver : String)
deriving DecidableEq, Repr

def ModuleVersion.toStr : ModuleVersion → String
  | .Latest => "latest"
  | .Version ver => ver

def ModuleVersion.validate : ModuleVersion → Except AbstractError Unit
  | .Latest => .ok ()
  | .Version ver => do
    let _ ← (Crates.parseVersion ver).mapError AbstractError.Semver

/-- The namespace, name and version of a module. -/
structure ModuleInfo where
  ns : Namespace
  name : String
  version : ModuleVersion
deriving DecidableEq, Repr

def ModuleInfo.moduleId (info : ModuleInfo) : String := info.ns.asStr ++ ":" ++ info.name

def ModuleInfo.toStr (info : ModuleInfo) : String :=
  info.name ++ " provided by " ++ info.ns.asStr ++ " with version " ++ info.version.toStr

/-- The parts of a string between colons. -/
def splitColon (s : String) : List String := (s.toList.splitOn ':').map String.ofList

def ModuleInfo.fromId (id : String) (version : ModuleVersion) : Except AbstractError ModuleInfo :=
  match splitColon id with
  | [ns, name] => do
    let ns ← Namespace.new ns
    return { ns, name := Crates.toLowercase name, version }
  | _ => .error (.FormattingError "contract id" "namespace:contract_name" id)

/-- The module a contract's own name and version stand for. -/
def ModuleInfo.tryFrom (value : ContractVersion) : Except AbstractError ModuleInfo :=
  ModuleInfo.fromId value.contract (.Version value.version)

/-- The text of an error raised while validating a version. -/
def versionErrorText : AbstractError → String
  | .Semver text => "Semver error encountered while handling account object: " ++ text
  | _ => ""

def ModuleInfo.validate (info : ModuleInfo) : Except AbstractError Unit := do
  info.ns.validate
  validateName info.name
  info.version.validate.mapError fun e =>
    AbstractError.Std
      (.msg ("Invalid version for module " ++ info.moduleId ++ ": " ++ versionErrorText e))

/-- Only a specific version that parses may be registered, yanked or removed. -/
def ModuleInfo.assertVersionVariant (info : ModuleInfo) : Except AbstractError Unit :=
  match info.version with
  | .Latest => .error (.Assert "Module version must be set to a specific version")
  | .Version ver => do
    let _ ← (Crates.parseVersion ver).mapError AbstractError.Semver

/-- The three elements of a module's storage key.  `Latest` is stored like the
    version text `latest`. -/
structure ModuleKey where
  ns : Namespace
  name : String
  version : String
deriving DecidableEq, Repr

def ModuleInfo.key (info : ModuleInfo) : ModuleKey :=
  { ns := info.ns, name := info.name, version := info.version.toStr }

/-! ## References -/

/-- What a module version is registered with: a code id or an address. -/
inductive ModuleReference where
  | Account (codeId : Nat)
  | Native (addr : Addr)
  | Adapter (addr : Addr)
  | App (codeId : Nat)
  | Standalone (codeId : Nat)
  | Service (addr : Addr)
deriving DecidableEq, Repr

def ModuleReference.unwrapAccount : ModuleReference → Except AbstractError Nat
  | .Account codeId => .ok codeId
  | _ => .error (.Assert "module reference not an account module.")

def ModuleReference.unwrapNative : ModuleReference → Except AbstractError Addr
  | .Native addr => .ok addr
  | _ => .error (.Assert "module reference not a native module.")

def ModuleReference.unwrapAddr : ModuleReference → Except AbstractError Addr
  | .Native addr | .Adapter addr | .Service addr => .ok addr
  | _ => .error (.Assert "module reference not a native or api module.")

structure Module where
  info : ModuleInfo
  reference : ModuleReference
deriving DecidableEq, Repr

/-- Whether an account may be called by the module. -/
def Module.shouldBeWhitelisted (m : Module) : Bool :=
  match m.reference with
  | .Adapter _ | .App _ => true
  | .Native _ => m.info.moduleId == IBC_CLIENT
  | _ => false

/-! ## Module data -/

/-- A module that must be installed, and the versions of it that will do. -/
structure Dependency where
  id : String
  versionReq : List Crates.Comparator
deriving DecidableEq

/-- What a module stores about itself. -/
structure ModuleData where
  module : String
  version : String
  dependencies : List Dependency
deriving DecidableEq

end AbstractFramework
