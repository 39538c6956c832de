import Mathlib.Algebra.Ring.Nat
import AbstractFramework.Objects.Chain

/-! # Assets, and the messages that move them

What the apps share of the sdk: assets as the chain knows them and as the name service
names them, the transfers that the bank api makes of them, and the payment that a call
must come with.
-/

namespace AbstractFramework.Sdk

open Fallible

inductive AssetInfo where
  | Native (denom : String)
  | Cw20 (contractAddr : Addr)
deriving DecidableEq, Repr

structure Asset where
  info : AssetInfo
  amount : Nat
deriving DecidableEq, Repr

/-- An asset whose contract address is not validated yet. -/
inductive AssetInfoUnchecked where
  | Native (denom : String)
  | Cw20 (contractAddr : String)
deriving DecidableEq, Repr

/-- `AssetInfoUnchecked::check` without a list of denoms. -/
def AssetInfoUnchecked.check {ε : Type} (addrValidate : String → Except ε Addr) :
    AssetInfoUnchecked → Except ε AssetInfo
  | .Native denom => .ok (.Native denom)
  | .Cw20 contractAddr => do
    let addr ← addrValidate contractAddr
    return .Cw20 addr

/-- `Asset::from` a coin. -/
def Asset.ofCoin (coin : Coin) : Asset where
  info := .Native coin.denom
  amount := coin.amount

/-- The name of an asset on the name service. -/
abbrev AssetEntry := String

structure AnsAsset where
  name : AssetEntry
  amount : Nat
deriving DecidableEq, Repr

/-- A message that sends an asset: `BankMsg::Send` or the transfer of a cw20 token. -/
structure TransferMsg where
  asset : Asset
  recipient : Addr
deriving DecidableEq, Repr

/-- Move funds from the contract into the account. -/
def deposit {ε : Type} (account : Except ε Addr) (funds : List Asset) :
    Except ε (List TransferMsg) := do
  let recipient ← account
  return funds.map fun asset => { asset, recipient }

/-- `AssetList::add`: the amount joins one of the same kind, and zero amounts are purged. -/
def addAsset (assets : List Asset) (assetToAdd : Asset) : Except String (List Asset) :=
  match assets.find? fun asset => asset.info = assetToAdd.info with
  | some asset =>
    if asset.amount + assetToAdd.amount < 2 ^ 128 then
      .ok ((assets.replace asset { asset with amount := asset.amount + assetToAdd.amount }).filter
        fun asset => asset.amount ≠ 0)
    else .error "Cannot Add with given operands"
  | none => .ok ((assets ++ [assetToAdd]).filter fun asset => asset.amount ≠ 0)

/-- `cw_clearable::Clearable`: an update that may take the value away. -/
inductive Clearable (α : Type) where
  | Clear
  | Set (value : α)

def Clearable.toOption {α : Type} : Clearable α → Option α
  | .Clear => none
  | .Set value => some value

/-! ## Payments -/

/-- `cw_utils::PaymentError`. -/
inductive PaymentError where
  | MissingDenom (denom : String)
  | MultipleDenoms
  | NoFunds
deriving DecidableEq

/-- `cw_utils::one_coin`. -/
def oneCoin : List Coin → Except PaymentError Coin
  | [] => .error .NoFunds
  | [coin] => if coin.amount = 0 then .error .NoFunds else .ok coin
  | _ => .error .MultipleDenoms

/-- `cw_utils::must_pay`: the only coin of the call is one of the denom. -/
def mustPay (info : MessageInfo) (denom : String) : Except PaymentError Nat := do
  let coin ← oneCoin info.funds
  ensure (coin.denom = denom) (.MissingDenom denom)
  return coin.amount

theorem oneCoin_eq_ok {funds : List Coin} {coin : Coin} :
    oneCoin funds = .ok coin ↔ funds = [coin] ∧ coin.amount ≠ 0 := by
  rcases funds with _ | ⟨first, _ | ⟨second, rest⟩⟩
  · simp [oneCoin]
  · by_cases empty : first.amount = 0
    · simp only [oneCoin, if_pos empty, reduceCtorEq, List.cons.injEq, and_true, false_iff, not_and,
        not_not]
      rintro rfl
      exact empty
    · simp only [oneCoin, if_neg empty, Except.ok.injEq, List.cons.injEq, and_true]
      constructor
      · rintro rfl
        exact ⟨rfl, empty⟩
      · exact And.left
  · simp [oneCoin]

theorem mustPay_eq_ok {info : MessageInfo} {denom : String} {amount : Nat} :
    mustPay info denom = .ok amount ↔ info.funds = [⟨denom, amount⟩] ∧ amount ≠ 0 := by
  simp only [mustPay, bind_eq_ok, pure_eq_ok, ensure_eq_ok, oneCoin_eq_ok]
  constructor
  · rintro ⟨⟨denom', amount'⟩, ⟨paid, positive⟩, _, rfl, rfl⟩
    exact ⟨paid, positive⟩
  · rintro ⟨paid, positive⟩
    exact ⟨⟨denom, amount⟩, ⟨paid, positive⟩, (), rfl, rfl⟩

theorem deposit_eq_ok {ε : Type} {account : Except ε Addr} {funds : List Asset}
    {msgs : List TransferMsg} :
    deposit account funds = .ok msgs ↔
      ∃ recipient, account = .ok recipient ∧ funds.map (fun asset => ⟨asset, recipient⟩) = msgs := by
  simp only [deposit, bind_eq_ok, pure_eq_ok]

end AbstractFramework.Sdk
