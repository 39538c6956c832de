import AbstractFramework.Registry.Writes
import AbstractFramework.Account.Contract

/-! # Accounts among each other

All accounts of a chain with their registry.  A transaction calls an account or
the registry, or it creates an account; the messages that follow from it are
delivered depth first, each with its reply, and a failure of any of them undoes
the transaction.

A message that an account sends for its owner or for a module, and a message to the
module factory, is accepted or refused.  What it makes other contracts or the
account itself do to the accounts is a transaction of its own: every transaction
has an arbitrary sender.
-/

namespace AbstractFramework.Accounts

open AbstractFramework Fallible Storage Account

section Model

variable [Crates] [Xion]

/-- The accounts and their registry. -/
structure World where
  accounts : Map Addr AccountStorage
  registry : RegistryState

/-- The rest of the chain during one transaction. -/
structure ChainView where
  block : BlockInfo
  registryAddr : Addr
  factory : Addr
  /-- The code and the admin of an account's contract. -/
  codeId : Addr → Nat
  admin : Addr → Option Addr
  /-- The contracts that are neither accounts nor the registry. -/
  others : Addr → Option Contract
  codeInfo : Nat → Option CodeInfo
  instantiate2Address : Bytes → Addr → Bytes → Except String Addr
  sha256 : Bytes → Bytes
  fromJson : Binary → Except StdError Binary
  addrValidate : String → Except StdError Addr
  icaAction : Addr → Binary → Except StdError (List ChainMsg)
  /-- Whether the accounts are built with the `xion` feature. -/
  xion : Bool
  /-- Whether another contract accepts a message. -/
  accepts : OutMsg → Bool
  /-- How deep calls are nested at most. -/
  maxCallDepth : Nat

inductive TxError where
  | CallDepth
  | NoSuchContract (addr : Addr)
  | NoSuchCode (codeId : Nat)
  | DuplicateContract (addr : Addr)
  | Instantiate2 (text : String)
  | Refused
  | InAccount (e : AccountError)
  | InRegistry (e : RegistryError)

/-- What is executed: code of an account, of the registry, or of another contract. -/
inductive Call where
  | execute (account : Addr) (info : MessageInfo) (msg : Entry.ExecuteMsg)
  | instantiate (account : Addr) (info : MessageInfo) (msg : InstantiateMsg)
  | registry (info : MessageInfo) (msg : Registry.ExecuteMsg)
  /-- The chain authenticates a transaction of the account itself. -/
  | beforeTx (account : Addr)
  | other (msg : OutMsg)

def World.save (w : World) (account : Addr) (s : AccountStorage) : World :=
  { w with accounts := w.accounts.insert account s }

def World.load (w : World) (account : Addr) : Except TxError AccountStorage :=
  okOr (w.accounts.lookup account) (.NoSuchContract account)

namespace ChainView

variable (chain : ChainView)

/-- What can be asked of a contract.  Only accounts store an account id and an
    ownership. -/
def contract (w : World) (addr : Addr) : Option Contract :=
  match w.accounts.lookup addr with
  | some s => some { Contract.bare (chain.codeId addr) with
      admin := chain.admin addr
      cw2 := some s.contractVersion
      accountId := some s.accountId
      ownership := some s.ownership
      authAdmin := s.authAdmin }
  | none =>
    if addr = chain.registryAddr then
      some { Contract.bare 0 with accountAddresses := w.registry.accountAddresses.lookup }
    else
      (chain.others addr).map fun contract => { contract with
        accountId := none
        ownership := none
        authAdmin := none }

def querier (w : World) : Querier :=
  { contract := chain.contract w
    codeInfo := chain.codeInfo
    registryAddress := fun _ => some chain.registryAddr }

def deps (w : World) : Deps := { querier := chain.querier w, addrValidate := chain.addrValidate }

def env (w : World) (account : Addr) : CallEnv where
  address := account
  blockHeight := chain.block.height
  querier := chain.querier w
  registry := w.registry
  factory := chain.factory
  instantiate2Address := chain.instantiate2Address
  sha256 := chain.sha256
  fromJson := chain.fromJson
  xion := chain.xion
  blockTime := chain.block.time
  addrValidate := chain.addrValidate
  icaAction := chain.icaAction

/-- Execute the code that is called.  The result has the account whose messages are
    to be delivered. -/
def handle (w : World) : Call → Except TxError (World × Addr × List SubMsg)
  | .execute account info msg => do
    let s ← w.load account
    let (s, msgs) ← (Entry.execute (chain.env w account) info msg s).mapError TxError.InAccount
    return (w.save account s, account, msgs)
  | .instantiate account info msg => do
    ensure ((chain.contract w account).isNone) (.DuplicateContract account)
    let (s, msgs) ← (Entry.instantiate (chain.env w account) info msg).mapError TxError.InAccount
    return (w.save account s, account, msgs)
  | .registry info msg => do
    let input := { deps := chain.deps w, block := chain.block, info, msg }
    -- the bank messages of the registry call no contract
    let (registry, _) ← (Registry.execute input w.registry).mapError TxError.InRegistry
    return ({ w with registry }, chain.registryAddr, [])
  | .beforeTx account => do
    let s ← w.load account
    return (w.save account { s with authAdmin := some true }, account, [])
  | .other msg => do
    ensure (chain.accepts msg = true) .Refused
    return (w, chain.registryAddr, [])

/-- The call that a message of an account is. -/
def received (sender : Addr) : OutMsg → Except TxError Call
  | .UpdateSubAccount account action =>
    .ok (.execute account { sender, funds := [] } (.UpdateSubAccount action))
  | .ForgoNamespace namespaces => .ok (.registry { sender, funds := [] } (.ForgoNamespace namespaces))
  | .AddAccount ns creator funds => .ok (.registry { sender, funds } (.AddAccount ns creator))
  | .Instantiate2 _ codeId _ msg funds salt => do
    let code ← okOr (chain.codeInfo codeId) (.NoSuchCode codeId)
    let account ← (chain.instantiate2Address code.checksum sender salt).mapError TxError.Instantiate2
    return .instantiate account { sender, funds } msg
  | msg => .ok (.other msg)

def reply (w : World) (account : Addr) : Option Reply → Except TxError World
  | none => .ok w
  | some id => do
    let s ← w.load account
    let s ← (Entry.reply (chain.querier w) s id).mapError TxError.InAccount
    return w.save account s

/-- A message of an account with its reply, where `run` executes calls. -/
def deliver (run : Call → World → Except TxError World) (sender : Addr) (w : World) (sub : SubMsg) :
    Except TxError World := do
  let c ← chain.received sender sub.msg
  let w ← run c w
  chain.reply w sender sub.replyOnSuccess

/-- A call with all that follows from it. -/
def call : Nat → Call → World → Except TxError World
  | 0, _, _ => .error .CallDepth
  | depth + 1, c, w => do
    let (w, sender, msgs) ← chain.handle w c
    msgs.foldlM (chain.deliver (call depth) sender) w

end ChainView

/-- A transaction: what is called, and the chain around it. -/
structure Tx where
  chain : ChainView
  call : Call

def exec (tx : Tx) (w : World) : Except TxError (World × Unit) := do
  let w ← tx.chain.call tx.chain.maxCallDepth tx.call w
  return (w, ())

end Model

/-! ## A small chain

The chain on which closed statements about accounts are evaluated.  The foreign
packages are those of `releaseCrates`, which also know the version of the account. -/

section Sample

@[reducible] def accountCrates : Crates :=
  { releaseCrates with
    parseVersion := fun text =>
      if text = CONTRACT_VERSION then .ok (0, 26, 1) else releaseCrates.parseVersion text }

attribute [local instance] accountCrates noAuthenticators

def sampleChain : ChainView where
  block := { height := 1, time := 1 }
  registryAddr := ⟨"registry"⟩
  factory := ⟨"factory"⟩
  codeId _ := 1
  admin _ := none
  others _ := none
  codeInfo _ := some { checksum := [], creator := ⟨"creator"⟩ }
  instantiate2Address _ creator _ := .ok ⟨creator.asStr ++ "-sub"⟩
  sha256 bytes := bytes
  fromJson bytes := .ok bytes
  addrValidate text := .ok ⟨text⟩
  icaAction _ _ := .error (.msg "query failed")
  xion := false
  accepts _ := true
  maxCallDepth := 5

/-- The registry of the admin `adm`, without security. -/
def sampleRegistry : RegistryState where
  config := { securityEnabled := false, namespaceRegistrationFee := none }
  ownership := some ⟨"adm"⟩
  pendingModules := ∅
  registeredModules := ∅
  yankedModules := ∅
  standaloneInfos := ∅
  serviceInfos := ∅
  moduleConfig := ∅
  moduleDefaultConfig := ∅
  accountAddresses := ∅
  localAccountSequence := 0
  namespaces := (∅ : Map Namespace AccountId).insert ⟨"abstract"⟩ ABSTRACT_ACCOUNT_ID
  revNamespaces := (∅ : Map AccountKey Namespace).insert ABSTRACT_ACCOUNT_ID.storageKey ⟨"abstract"⟩

def sampleInfo (sender : String) : MessageInfo := { sender := ⟨sender⟩, funds := [] }

def callTx (sender account : String) (msg : Entry.ExecuteMsg) : Tx :=
  { chain := sampleChain, call := .execute ⟨account⟩ (sampleInfo sender) msg }

/-- The admin registers the account module. -/
def publishTx : Tx :=
  let account : ModuleInfo :=
    { ns := ⟨"abstract"⟩, name := "account", version := .Version CONTRACT_VERSION }
  { chain := sampleChain
    call := .registry (sampleInfo "adm") (.ProposeModules [(account, .Account 1)]) }

/-- The monarch creates an account. -/
def createTx (account monarch : String) : Tx :=
  { chain := sampleChain
    call := .instantiate ⟨account⟩ (sampleInfo monarch)
      { codeId := 1
        owner := some (.Monarchy monarch)
        accountId := none
        authenticator := none
        ns := none
        installModules := []
        name := none
        description := none
        link := none } }

end Sample

end AbstractFramework.Accounts
