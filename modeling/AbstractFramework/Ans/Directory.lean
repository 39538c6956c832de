import AbstractFramework.Ans.Entries
import AbstractFramework.Ans.PoolList
import AbstractFramework.Lib.Listing
import AbstractFramework.Lib.Tables

/-! # The contracts and channels of the name service

The owner of the name service adds and removes addresses of contracts and ids of channels, in
batches.  Other contracts look them up by their entries, and clients list them in pages.  The
rest of the service has tables of its own.

After any run the two tables hold for each entry what the messages of the owner have said
last, and a client that lists a table gets this and nothing else (`directory_pages`).
-/

namespace AbstractFramework.Ans

open AbstractFramework Fallible Storage Sdk Machine Paging Listing Tables

section Directory

variable [Crates]

/-! ## State -/

/-- The host with all of its tables.  Two of them are kept by the bytes of their keys. -/
structure Directory extends AnsState where
  contractAddresses : Map Bytes Addr
  channels : Map Bytes String

inductive DirectoryMsg where
  | UpdateContractAddresses (toAdd : List (UncheckedContractEntry × String))
      (toRemove : List UncheckedContractEntry)
  | UpdateChannels (toAdd : List (UncheckedChannelEntry × String))
      (toRemove : List UncheckedChannelEntry)
  /-- A message on the other tables. -/
  | Other (msg : ExecuteMsg)

/-- A message to the host. -/
structure Call where
  addrValidate : String → Except StdError Addr
  block : BlockInfo
  sender : Addr
  msg : DirectoryMsg

/-- A decoder that panics or fails within the contract. -/
def ContractError.ofFailure : Failure → ContractError
  | .error e => .Std e
  | .panicked text => .Panicked text

/-! ## Messages -/

def contractPath (entry : ContractEntry) : Except ContractError Bytes :=
  entry.key.mapError ContractError.ofFailure

def channelPath (entry : ChannelEntry) : Except ContractError Bytes :=
  entry.key.mapError ContractError.ofFailure

def addedContract (addrValidate : String → Except StdError Addr)
    (entry : UncheckedContractEntry × String) : Except ContractError (ContractEntry × Addr) := do
  let (key, newAddress) := entry
  let key := key.check
  -- validate addr
  let addr ← (addrValidate newAddress).mapError ContractError.Std
  return (key, addr)

def removedContract (entry : UncheckedContractEntry) : Except ContractError ContractEntry :=
  .ok entry.check

def addedChannel (entry : UncheckedChannelEntry × String) :
    Except ContractError (ChannelEntry × String) := do
  let (key, newChannel) := entry
  let key ← key.check.mapError ContractError.Abstract
  return (key, newChannel)

def removedChannel (entry : UncheckedChannelEntry) : Except ContractError ChannelEntry :=
  entry.check.mapError ContractError.Abstract

def updateContractAddresses (call : Call) (toAdd : List (UncheckedContractEntry × String))
    (toRemove : List UncheckedContractEntry) (s : Directory) : Except ContractError Directory := do
  assertOwner s.toAnsState call.sender
  let contractAddresses ← update contractPath (addedContract call.addrValidate) removedContract
    toAdd toRemove s.contractAddresses
  return { s with contractAddresses }

def updateChannels (call : Call) (toAdd : List (UncheckedChannelEntry × String))
    (toRemove : List UncheckedChannelEntry) (s : Directory) : Except ContractError Directory := do
  assertOwner s.toAnsState call.sender
  let channels ← update channelPath addedChannel removedChannel toAdd toRemove s.channels
  return { s with channels }

/-- A message, with the ids that it gives to pools. -/
def Call.exec (call : Call) (s : Directory) :
    Except ContractError (Directory × List UniquePoolId) :=
  match call.msg with
  | .UpdateContractAddresses toAdd toRemove => do
    let s ← updateContractAddresses call toAdd toRemove s
    return (s, [])
  | .UpdateChannels toAdd toRemove => do
    let s ← updateChannels call toAdd toRemove s
    return (s, [])
  | .Other msg => do
    let { addrValidate, block, sender, .. } := call
    let (names, given) ← execute { addrValidate, block, sender, msg } s.toAnsState
    return ({ s with toAnsState := names }, given)

def newDirectory (address : Addr) (addrValidate : String → Except StdError Addr)
    (msg : InstantiateMsg) : Except ContractError Directory := do
  let names ← instantiate address addrValidate msg
  return { toAnsState := names, contractAddresses := ∅, channels := ∅ }

/-! ## Queries -/

def Directory.queryContract (s : Directory) (keys : List ContractEntry) :
    Except Failure (List (ContractEntry × Addr)) :=
  lookups ContractEntry.key (.error (.notFound "Addr")) s.contractAddresses keys

def Directory.queryChannels (s : Directory) (keys : List ChannelEntry) :
    Except Failure (List (ChannelEntry × String)) :=
  lookups ChannelEntry.key (.error (.notFound "String")) s.channels keys

def Directory.queryContractList (s : Directory) (lastContract : Option ContractEntry)
    (limit : Option Nat) : Except Failure (List (ContractEntry × Addr)) :=
  page ContractEntry.key ContractEntry.fromVec s.contractAddresses (pageSize limit) lastContract

def Directory.queryChannelList (s : Directory) (lastChannel : Option ChannelEntry)
    (limit : Option Nat) : Except Failure (List (ChannelEntry × String)) :=
  page ChannelEntry.key ChannelEntry.fromVec s.channels (pageSize limit) lastChannel

/-! ## What is said -/

/-- What a message says about a contract, if it succeeds. -/
def contractWord (call : Call) (entry : ContractEntry) : Option (Option Addr) :=
  match call.msg with
  | .UpdateContractAddresses toAdd toRemove =>
    word (toAdd.filterMap fun e => (addedContract call.addrValidate e).toOption)
      (toRemove.filterMap fun e => (removedContract e).toOption) entry
  | _ => none

/-- What a message says about a channel, if it succeeds. -/
def channelWord (call : Call) (entry : ChannelEntry) : Option (Option String) :=
  match call.msg with
  | .UpdateChannels toAdd toRemove =>
    word (toAdd.filterMap fun e => (addedChannel e).toOption)
      (toRemove.filterMap fun e => (removedChannel e).toOption) entry
  | _ => none

/-- A successful message with the state before it. -/
abbrev Entry := Directory × Call × List UniquePoolId

structure Records (s : Directory) (log : List Entry) : Prop where
  contracts : Holds contractPath (fun e : Entry => contractWord e.2.1) s.contractAddresses log
  channels : Holds channelPath (fun e : Entry => channelWord e.2.1) s.channels log
  owned : ∀ e ∈ log, ∀ entry entry', contractWord e.2.1 entry ≠ none ∨ channelWord e.2.1 entry' ≠ none →
    Crates.cwOwner e.1.ownership = some e.2.1.sender

variable {s s' : Directory} {log : List Entry} {call : Call}

omit [Crates] in
theorem contractPath_injective (entry entry' : ContractEntry) (bytes : Bytes)
    (encodes : contractPath entry = .ok bytes) (encodes' : contractPath entry' = .ok bytes) :
    entry = entry' :=
  ContractEntry.key_injective (mapError_eq_ok.mp encodes) (mapError_eq_ok.mp encodes')

omit [Crates] in
theorem channelPath_injective (entry entry' : ChannelEntry) (bytes : Bytes)
    (encodes : channelPath entry = .ok bytes) (encodes' : channelPath entry' = .ok bytes) :
    entry = entry' :=
  ChannelEntry.key_injective (mapError_eq_ok.mp encodes) (mapError_eq_ok.mp encodes')

theorem assertOwner_eq_ok {s : AnsState} {sender : Addr} {u : Unit} :
    assertOwner s sender = .ok u ↔ Crates.cwOwner s.ownership = some sender := by
  unfold assertOwner
  cases owner : Crates.cwOwner s.ownership with
  | none => simp
  | some addr =>
    rw [ensure_eq_ok, Option.some.injEq]
    exact eq_comm

theorem updateContractAddresses_ok {toAdd : List (UncheckedContractEntry × String)}
    {toRemove : List UncheckedContractEntry}
    (ok : updateContractAddresses call toAdd toRemove s = .ok s') :
    Crates.cwOwner s.ownership = some call.sender ∧ ∃ contractAddresses,
      update contractPath (addedContract call.addrValidate) removedContract toAdd toRemove
        s.contractAddresses = .ok contractAddresses ∧ s' = { s with contractAddresses } := by
  obtain ⟨_, owner, rest⟩ := bind_eq_ok.mp ok
  obtain ⟨contractAddresses, updated, isNext⟩ := bind_eq_ok.mp rest
  exact ⟨assertOwner_eq_ok.mp owner, contractAddresses, updated, (Except.ok.inj isNext).symm⟩

theorem updateChannels_ok {toAdd : List (UncheckedChannelEntry × String)}
    {toRemove : List UncheckedChannelEntry} (ok : updateChannels call toAdd toRemove s = .ok s') :
    Crates.cwOwner s.ownership = some call.sender ∧ ∃ channels,
      update channelPath addedChannel removedChannel toAdd toRemove s.channels = .ok channels ∧ s' = { s with channels } := by
  obtain ⟨_, owner, rest⟩ := bind_eq_ok.mp ok
  obtain ⟨channels, updated, isNext⟩ := bind_eq_ok.mp rest
  exact ⟨assertOwner_eq_ok.mp owner, channels, updated, (Except.ok.inj isNext).symm⟩

/-! ## One message -/

theorem Call.exec_records {given : List UniquePoolId} (records : Records s log)
    (ok : call.exec s = .ok (s', given)) : Records s' (log ++ [(s, call, given)]) := by
  have owned : (∀ entry entry', contractWord call entry ≠ none ∨ channelWord call entry' ≠ none →
      Crates.cwOwner s.ownership = some call.sender) →
      ∀ e ∈ log ++ [(s, call, given)], ∀ entry entry',
        contractWord e.2.1 entry ≠ none ∨ channelWord e.2.1 entry' ≠ none →
          Crates.cwOwner e.1.ownership = some e.2.1.sender := by
    intro here e listed
    rcases List.mem_append.mp listed with earlier | last
    · exact records.owned e earlier
    · rw [List.mem_singleton.mp last]
      exact here
  unfold Call.exec at ok
  cases isMsg : call.msg with
  | UpdateContractAddresses toAdd toRemove =>
    rw [isMsg] at ok
    obtain ⟨next, updated, isNext⟩ := bind_eq_ok.mp ok
    cases isNext
    obtain ⟨owner, contractAddresses, batch, rfl⟩ := updateContractAddresses_ok updated
    refine ⟨records.contracts.update contractPath_injective batch ?_, records.channels.skip ?_,
      owned fun _ _ _ => owner⟩
    · intro adds removes isAdds isRemoves
      funext entry
      simp only [contractWord, isMsg, filterMap_of_mapM isAdds, filterMap_of_mapM isRemoves]
    · intro entry
      simp only [channelWord, isMsg]
  | UpdateChannels toAdd toRemove =>
    rw [isMsg] at ok
    obtain ⟨next, updated, isNext⟩ := bind_eq_ok.mp ok
    cases isNext
    obtain ⟨owner, channels, batch, rfl⟩ := updateChannels_ok updated
    refine ⟨records.contracts.skip ?_, records.channels.update channelPath_injective batch ?_,
      owned fun _ _ _ => owner⟩
    · intro entry
      simp only [contractWord, isMsg]
    · intro adds removes isAdds isRemoves
      funext entry
      simp only [channelWord, isMsg, filterMap_of_mapM isAdds, filterMap_of_mapM isRemoves]
  | Other msg =>
    rw [isMsg] at ok
    obtain ⟨⟨names, given'⟩, executed, isNext⟩ := bind_eq_ok.mp ok
    cases isNext
    have silent : (∀ entry, contractWord call entry = none) ∧ ∀ entry, channelWord call entry = none := by
      constructor <;> intro entry
      · simp only [contractWord, isMsg]
      · simp only [channelWord, isMsg]
    refine ⟨records.contracts.skip silent.1, records.channels.skip silent.2, owned ?_⟩
    rintro entry entry' (word | word)
    · exact absurd (silent.1 entry) word
    · exact absurd (silent.2 entry') word

theorem newDirectory_records {address : Addr} {addrValidate : String → Except StdError Addr}
    {msg : InstantiateMsg} (ok : newDirectory address addrValidate msg = .ok s) : Records s [] := by
  obtain ⟨names, -, isNew⟩ := bind_eq_ok.mp ok
  cases isNew
  exact ⟨holds_empty, holds_empty, fun _ listed => nomatch listed⟩

/-! ## Queries over a run -/

section Queries

variable {κ ν μ : Type} {encode : κ → Except Failure Bytes} {decode : Bytes → Except Failure κ}
  {about : μ → κ → Option (Option ν)} {m : Map Bytes ν} {said : List μ} {limit : Option Nat}

omit [Crates]

theorem holds_iff
    (holds : Holds (fun key => (encode key).mapError ContractError.ofFailure) about m said)
    (key : κ) (v : ν) :
    (∃ bytes, encode key = .ok bytes ∧ m.lookup bytes = some v) ↔ Says about said key v := by
  rw [← holds.lastSaid]
  simp only [mapError_eq_ok]

/-- Looking up some keys gives what was said about them. -/
theorem lookups_says
    (holds : Holds (fun key => (encode key).mapError ContractError.ofFailure) about m said)
    {missing : Failure} (keys : List κ) (out : List (κ × ν)) :
    lookups encode missing m keys = .ok out ↔ List.Forall₂ (fun (key : κ) (e : κ × ν) =>
      e.1 = key ∧ Says about said key e.2) keys out := by
  simp only [lookups_eq_ok, holds_iff holds]

/-- The pages list what was said. -/
theorem pages_say
    (holds : Holds (fun key => (encode key).mapError ContractError.ofFailure) about m said)
    (decodes : ∀ key bytes, encode key = .ok bytes → decode bytes = .ok key)
    (positive : ∀ n ∈ limit, 1 ≤ n) :
    PagesExactly (page encode decode m (pageSize limit)) (pageSize limit) (Says about said) := by
  have coded : ∀ bytes ∈ m, ∃ key, Codes encode decode key bytes := by
    intro bytes listed
    obtain ⟨key, encodes⟩ := holds.keys bytes listed
    have encodes := mapError_eq_ok.mp encodes
    exact ⟨key, encodes, decodes key bytes encodes⟩
  refine (pages coded (pageSize_pos positive)).congr fun key v => ?_
  rw [← holds_iff holds]
  constructor
  · rintro ⟨bytes, ⟨encodes, _⟩, found⟩
    exact ⟨bytes, encodes, found⟩
  · rintro ⟨bytes, encodes, found⟩
    exact ⟨bytes, ⟨encodes, decodes key bytes encodes⟩, found⟩

end Queries

/-- After any run the lists of contracts and of channels come in pages, and these hold, as the
    answers for single entries do, what the messages that succeeded have said last about each
    entry.  All of these messages were the owner's. -/
theorem directory_pages {address : Addr} {addrValidate : String → Except StdError Addr}
    {msg : InstantiateMsg} {start : Directory} (calls : List Call) {limit : Option Nat}
    (instantiated : newDirectory address addrValidate msg = .ok start)
    (positive : ∀ n ∈ limit, 1 ≤ n) :
    let s := run Call.exec start calls
    let log := history Call.exec start calls
    let contractIs := Says (fun e : Entry => contractWord e.2.1) log
    let channelIs := Says (fun e : Entry => channelWord e.2.1) log
    PagesExactly (fun last => s.queryContractList last limit) (pageSize limit) contractIs ∧
      PagesExactly (fun last => s.queryChannelList last limit) (pageSize limit) channelIs ∧
      (∀ keys out, s.queryContract keys = .ok out ↔ List.Forall₂ (fun key e =>
        e.1 = key ∧ contractIs key e.2) keys out) ∧
      (∀ keys out, s.queryChannels keys = .ok out ↔ List.Forall₂ (fun key e =>
        e.1 = key ∧ channelIs key e.2) keys out) ∧
      ∀ e ∈ log, ∀ entry entry',
        contractWord e.2.1 entry ≠ none ∨ channelWord e.2.1 entry' ≠ none →
          Crates.cwOwner e.1.ownership = some e.2.1.sender := by
  have records : Records (run Call.exec start calls) (history Call.exec start calls) :=
    run_history calls (fun _ _ _ _ _ records ok => Call.exec_records records ok)
      (newDirectory_records instantiated)
  exact ⟨pages_say records.contracts (fun _ _ => ContractEntry.fromVec_of_key) positive,
    pages_say records.channels (fun _ _ => ChannelEntry.fromVec_of_key) positive,
    lookups_says records.contracts, lookups_says records.channels, records.owned⟩

end Directory

section DirectorySample

attribute [local instance] releaseCrates

def sampleCall (sender : Addr) (msg : DirectoryMsg) : Call where
  addrValidate text := .ok ⟨text⟩
  block := { height := 1, time := 1 }
  sender
  msg

def sampleDirectory : Directory :=
  { sampleStart with contractAddresses := ∅, channels := ∅ }

theorem newDirectory_sample :
    newDirectory ⟨"ans"⟩ (fun text => .ok ⟨text⟩) { admin := "adm" } = .ok sampleDirectory :=
  rfl

def nameContract (sender : Addr) (address : String) : Call :=
  sampleCall sender (.UpdateContractAddresses [(⟨"Junoswap", "factory"⟩, address)] [])

/-- A contract is named twice, and a stranger names it as well. -/
def namingTwice : List Call := [
  nameContract ⟨"adm"⟩ "old",
  sampleCall ⟨"adm"⟩ (.UpdateChannels [(⟨"osmosis", "ICS20"⟩, "channel-1")] []),
  nameContract ⟨"adm"⟩ "new",
  nameContract ⟨"bob"⟩ "bad"]

theorem directory_pages_juno :
    let s := run Call.exec sampleDirectory namingTwice
    let log := history Call.exec sampleDirectory namingTwice
    s.queryContract [⟨"junoswap", "factory"⟩] = .ok [(⟨"junoswap", "factory"⟩, ⟨"new"⟩)] ∧
      Says (fun e : Entry => contractWord e.2.1) log ⟨"junoswap", "factory"⟩ ⟨"new"⟩ ∧
      PagesExactly (fun last => s.queryChannelList last (some 1)) (pageSize (some 1))
        (Says (fun e : Entry => channelWord e.2.1) log) := by
  intro s log
  have positive : ∀ n ∈ some 1, 1 ≤ n := by simp
  obtain ⟨-, channels, contracts, -, -⟩ := directory_pages namingTwice newDirectory_sample positive
  have answer : s.queryContract [⟨"junoswap", "factory"⟩] =
      .ok [(⟨"junoswap", "factory"⟩, ⟨"new"⟩)] := by
    decide +kernel
  have related := (contracts _ _).mp answer
  rw [List.forall₂_cons] at related
  exact ⟨answer, related.1.2, channels⟩

end DirectorySample

end AbstractFramework.Ans
