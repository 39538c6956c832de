import AbstractFramework.Lib.Fallible
import AbstractFramework.Lib.Storage

/-! # The chain around the contracts

Addresses, coins, the sender of a call and the block it is executed in, and
the errors shared by every contract of the framework.

`Crates` collects the functions of other packages that the contracts call and
whose source is not part of the repository: semantic versions and their
comparators, block expirations, the single-owner store that guards the native
contracts, and the full Unicode lower-casing of the standard library.  Nothing
is assumed about them unless a statement says so.
-/

namespace AbstractFramework

/-- A validated address. -/
structure Addr where
  asStr : String
deriving DecidableEq, Repr

structure Coin where
  denom : String
  amount : Nat
deriving DecidableEq, Repr

structure MessageInfo where
  sender : Addr
  funds : List Coin

structure BlockInfo where
  height : Nat
  time : Nat

/-- The contract name and version a contract stores about itself (cw2). -/
structure ContractVersion where
  contract : String
  version : String
deriving DecidableEq, Repr

/-- `str::to_ascii_lowercase`. -/
def toAsciiLowercase (s : String) : String := String.ofList (s.toList.map Char.toLower)

/-! ## Foreign packages -/

/-- Functions of other packages the contracts rely on. -/
class Crates where
  /-- `semver::Version`. -/
  Version : Type
  parseVersion : String → Except String Version
  versionLt : Version → Version → Bool
  /-- Whether the version carries no pre-release tag. -/
  isRelease : Version → Bool
  major : Version → Nat
  minor : Version → Nat
  showVersion : Version → String
  /-- `semver::Comparator`. -/
  Comparator : Type
  [decEqComparator : DecidableEq Comparator]
  comparatorMatches : Comparator → Version → Bool
  showComparator : Comparator → String
  /-- `cw_utils::Expiration`. -/
  Expiration : Type
  isExpired : Expiration → BlockInfo → Bool
  /-- What `cw_ownable` stores, and the actions that change it. -/
  CwOwnership : Type
  CwAction : Type
  cwOwner : CwOwnership → Option Addr
  initializeCwOwner : Addr → CwOwnership
  updateCwOwnership : CwOwnership → BlockInfo → Addr → CwAction → Except String CwOwnership
  /-- `str::to_lowercase`. -/
  toLowercase : String → String

instance [Crates] : DecidableEq Crates.Comparator := Crates.decEqComparator

/-- A small stand-in for the foreign packages, on which closed statements are
    evaluated.  It agrees with them on release versions `x.y.z` with one-digit
    components, on caret comparators with a positive major number, on expiry by
    block height, on renouncing a contract's ownership, and on strings of ASCII
    characters. -/
@[reducible] def releaseCrates : Crates where
  Version := Nat × Nat × Nat
  parseVersion s :=
    match s.toList with
    | [x, '.', y, '.', z] =>
      if x.isDigit && y.isDigit && z.isDigit then
        .ok (x.toNat - 48, y.toNat - 48, z.toNat - 48)
      else .error "unexpected character"
    | _ => .error "unexpected end of input"
  versionLt v w :=
    v.1 < w.1 || (v.1 == w.1 && (v.2.1 < w.2.1 || (v.2.1 == w.2.1 && v.2.2 < w.2.2)))
  isRelease _ := true
  major v := v.1
  minor v := v.2.1
  showVersion v := toString v.1 ++ "." ++ toString v.2.1 ++ "." ++ toString v.2.2
  Comparator := Nat × Nat × Nat
  comparatorMatches c v :=
    c.1 == v.1 && (c.2.1 < v.2.1 || (c.2.1 == v.2.1 && c.2.2 ≤ v.2.2))
  showComparator c :=
    "^" ++ toString c.1 ++ "." ++ toString c.2.1 ++ "." ++ toString c.2.2
  Expiration := Nat
  isExpired h block := h ≤ block.height
  CwOwnership := Option Addr
  CwAction := Unit
  cwOwner o := o
  initializeCwOwner := some
  updateCwOwnership o _ sender _ :=
    if o = some sender then .ok none else .error "Caller is not the contract's current owner"
  toLowercase := toAsciiLowercase

/-! ## Errors -/

/-- `cosmwasm_std::StdError`. -/
inductive StdError where
  | notFound (kind : String)
  | msg (text : String)
deriving DecidableEq, Repr

/-- `abstract_std::AbstractError`. -/
inductive AbstractError where
  | Std (e : StdError)
  | Semver (text : String)
  | FormattingError (object expected actual : String)
  | MissingVersion (what : String)
  | ContractNameMismatch (source target : String)
  | CannotDowngradeContract (contract source target : String)
  | CannotSkipVersion (contract source target : String)
  | Assert (text : String)
  | Fee (expected : Coin) (sent : List Coin)
  | UnequalModuleData (cw2 module : String)
  | AppNotInstalled (info : String)
deriving DecidableEq, Repr

/-- A decoder returns an error or panics. -/
inductive Failure where
  | error (e : StdError)
  | panicked (text : String)
deriving DecidableEq, Repr

end AbstractFramework
