import AbstractFramework.Lib.Listing
import AbstractFramework.Registry.ModuleList

/-! # The lists of accounts and of namespaces

The registry lists its accounts and the claimed namespaces in pages.  The id of an account is
decoded from its storage key, and the decoder loses the last chain of a trace that is as long
as it may be.  So such an account is listed under another id, and under one whose key comes
before its own: the page that starts after the listed id has the account again.

`registry_listings` says what a client gets from the pages in every state of the registry.
-/

namespace AbstractFramework.Registry

open AbstractFramework Fallible Storage Paging Listing Machine

/-! ## Queries -/

inductive NamespaceResponse where
  | Claimed (accountId : AccountId) (account : Addr)
  | Unclaimed
deriving DecidableEq, Repr

def nsBytes (ns : Namespace) : Bytes := strBytes ns.asStr

section Queries

variable [Crates] (s : RegistryState)

def handleAccountsAddressQuery (accountIds : List AccountId) : Except StdError (List Addr) :=
  accountIds.mapM fun accountId => okOr (s.accountAddresses.lookup accountId.storageKey)
    (.msg ("Account ID " ++ accountId.toStr ++ " is not in registry register"))

def handleAccountListQuery (startAfter : Option AccountId) (limit : Option Nat) :
    Except Failure (List (AccountId × Addr)) :=
  page (fun accountId => .ok accountId.storageKey) AccountId.fromVec s.accountAddresses
    (pageSize limit) startAfter

/-- The namespaces of some accounts.  An account without one is left out. -/
def handleNamespacesQuery (accounts : List AccountId) : List (Namespace × AccountId) :=
  accounts.filterMap fun accountId =>
    (s.revNamespaces.lookup accountId.storageKey).map fun ns => (ns, accountId)

def handleNamespaceQuery (ns : Namespace) : Except StdError NamespaceResponse :=
  match s.namespaces.lookup ns with
  | none => .ok .Unclaimed
  | some accountId => do
    let account ← okOr (s.accountAddresses.lookup accountId.storageKey) (.notFound "Account")
    return .Claimed accountId account

def handleNamespaceListQuery (startAfter : Option Namespace) (limit : Option Nat) :
    List (Namespace × AccountId) :=
  (range nsBytes startAfter (under some s.namespaces)).take (pageSize limit)

/-- The branch of `query` for the list of namespaces: the client names the last one as text. -/
def queryNamespaceList (startAfter : Option String) (limit : Option Nat) :
    Except RegistryError (List (Namespace × AccountId)) := do
  let startAfter ← (startAfter.mapM Namespace.new).mapError RegistryError.Abstract
  return handleNamespaceListQuery s startAfter limit

end Queries

/-! ## Stored keys -/

section Stored

variable [Crates] {i : Input} {s s' : RegistryState} {msgs : List BankMsg}

/-- Accounts are stored under the keys of verified ids, and namespaces have valid names. -/
structure Decodable (s : RegistryState) : Prop where
  verified : ∀ key ∈ s.accountAddresses,
    ∃ id : AccountId, id.trace.verify = .ok () ∧ id.storageKey = key
  named : ∀ ns ∈ s.namespaces, Namespace.new ns.asStr = .ok ns

theorem new_asStr {name : String} {ns : Namespace} (new : Namespace.new name = .ok ns) :
    Namespace.new ns.asStr = .ok ns := by
  obtain ⟨_, _, isNs⟩ := bind_eq_ok.mp new
  obtain rfl := Except.ok.inj isNs
  exact new

theorem execute_verified (verified : ∀ key ∈ s.accountAddresses,
      ∃ id : AccountId, id.trace.verify = .ok () ∧ id.storageKey = key)
    (ok : execute i s = .ok (s', msgs)) : ∀ key ∈ s'.accountAddresses,
      ∃ id : AccountId, id.trace.verify = .ok () ∧ id.storageKey = key := by
  by_cases adds : ∃ ns creator, i.msg = .AddAccount ns creator
  · obtain ⟨ns, creator, msg⟩ := adds
    obtain ⟨id, _, isVerified, _, added⟩ := execute_addAccount msg ok
    rw [added]
    exact forall_mem_insert _ ⟨id, isVerified, rfl⟩ verified
  · have other : ∀ ns creator, i.msg ≠ .AddAccount ns creator :=
      fun ns creator msg => adds ⟨ns, creator, msg⟩
    rw [execute_accountAddresses other ok]
    exact verified

theorem claimNamespaceInternal_named {fee : Option Coin} {info : MessageInfo} {id : AccountId}
    {name : String} (named : ∀ ns ∈ s.namespaces, Namespace.new ns.asStr = .ok ns)
    (ok : claimNamespaceInternal fee info id name s = .ok (s', msgs)) :
    ∀ ns ∈ s'.namespaces, Namespace.new ns.asStr = .ok ns := by
  simp only [claimNamespaceInternal, bind_eq_ok, mapError_eq_ok] at ok
  obtain ⟨_, _, _, _, ns, isNs, ok⟩ := ok
  split at ok
  · cases ok
  · cases ok
    exact forall_mem_insert _ (new_asStr isNs) named

theorem Write.named (names : ∀ ns ∈ s.namespaces, Namespace.new ns.asStr = .ok ns)
    (noClaim : ∀ id, ¬ Claimant i id) (write : Write i s s') :
    ∀ ns ∈ s'.namespaces, Namespace.new ns.asStr = .ok ns := by
  cases write with
  | claim claimant => exact absurd claimant (noClaim _)
  | unclaim => exact fun ns listed => names ns (AList.mem_erase.mp listed).2
  | _ => exact names

/-- A claim checks the name that it brings in. -/
theorem execute_named (named : ∀ ns ∈ s.namespaces, Namespace.new ns.asStr = .ok ns)
    (ok : execute i s = .ok (s', msgs)) : ∀ ns ∈ s'.namespaces, Namespace.new ns.asStr = .ok ns := by
  have quiet : (∀ id, ¬ Claimant i id) → ∀ ns ∈ s'.namespaces, Namespace.new ns.asStr = .ok ns := by
    intro noClaim
    exact writes_invariant (fun _ _ _ write names => write.named names noClaim) named
      (execute_writes ok)
  cases msg : i.msg with
  | ClaimNamespace id name =>
    simp only [execute, msg, claimNamespace, bind_eq_ok] at ok
    obtain ⟨_, _, ok⟩ := ok
    exact claimNamespaceInternal_named named ok
  | AddAccount ns creator =>
    simp only [execute, msg, addAccount, bind_eq_ok] at ok
    obtain ⟨_, _, _, _, ok⟩ := ok
    cases ns with
    | none =>
      cases ok
      exact named
    | some name =>
      refine claimNamespaceInternal_named ?_ ok
      exact named
  | _ =>
    refine quiet ?_
    rintro id (claims | adds)
    · rw [msg] at claims
      cases claims
    · rw [msg] at adds
      cases adds

theorem execute_decodable (decodable : Decodable s) (ok : execute i s = .ok (s', msgs)) :
    Decodable s' :=
  ⟨execute_verified decodable.verified ok, execute_named decodable.named ok⟩

theorem decodable_run {deps : Deps} {msg : InstantiateMsg} {start : RegistryState}
    (instantiated : instantiate deps msg = .ok start) (inputs : List Input) :
    Decodable (run execute start inputs) := by
  refine run_invariant inputs (fun _ _ _ _ held ok => execute_decodable held ok) ?_
  simp only [instantiate, bind_eq_ok, mapError_eq_ok, pure_eq_ok] at instantiated
  obtain ⟨_, _, ns, isNs, rfl⟩ := instantiated
  refine ⟨fun key stored => absurd stored (AList.notMem_empty key), ?_⟩
  exact forall_mem_insert _ (new_asStr isNs) fun ns stored => absurd stored (AList.notMem_empty ns)

end Stored

/-! ## The pages -/

section Pages

variable [Crates] {s : RegistryState} {limit : Option Nat}

/-- The query of addresses answers for the id. -/
def IsRegistered (s : RegistryState) (id : AccountId) (addr : Addr) : Prop :=
  id.trace.verify = .ok () ∧ handleAccountsAddressQuery s [id] = .ok [addr]

/-- No registered account has a trace of the full length. -/
def TracesShort (s : RegistryState) : Prop :=
  ∀ id addr, IsRegistered s id addr → id.trace.chains.length < MAX_TRACE_LENGTH

theorem isRegistered_iff {id : AccountId} {addr : Addr} : IsRegistered s id addr ↔
    id.trace.verify = .ok () ∧ s.accountAddresses.lookup id.storageKey = some addr := by
  unfold IsRegistered handleAccountsAddressQuery
  rw [mapM_eq_ok, List.forall₂_cons, okOr_eq_ok]
  simp

omit [Crates] in
theorem pageSize_pos (positive : ∀ n ∈ limit, 1 ≤ n) : 0 < pageSize limit := by
  unfold pageSize DEFAULT_LIMIT MAX_LIMIT
  cases limit with
  | none => decide
  | some n =>
    have := positive n rfl
    simp only [Option.getD_some]
    omega

/-- The key of a verified id is decoded to what the decoder reads of the id. -/
theorem codes_iff (decodable : Decodable s) {bytes : Bytes} (stored : bytes ∈ s.accountAddresses)
    (short : TracesShort s) {id : AccountId} :
    Codes (fun id : AccountId => .ok id.storageKey) AccountId.fromVec id bytes ↔
      id.trace.verify = .ok () ∧ id.storageKey = bytes := by
  obtain ⟨addr, found⟩ := mem_iff_lookup.mp stored
  obtain ⟨id', verified, isKey⟩ := decodable.verified bytes stored
  have registered : IsRegistered s id' addr := isRegistered_iff.mpr ⟨verified, isKey ▸ found⟩
  have decodes : AccountId.fromVec bytes = .ok id' := by
    rw [← isKey, AccountId.fromVec_storageKey_eq verified,
      AccountTrace.decoded_of_short (short id' addr registered)]
  constructor
  · rintro ⟨encodes, decodes'⟩
    obtain rfl : id' = id := Except.ok.inj (decodes.symm.trans decodes')
    exact ⟨verified, isKey⟩
  · rintro ⟨verified', isKey'⟩
    obtain rfl := AccountId.storageKey_injective verified verified' (isKey.trans isKey'.symm)
    exact ⟨congrArg Except.ok isKey, decodes⟩

theorem accounts_listed (decodable : Decodable s) (short : TracesShort s)
    (positive : ∀ n ∈ limit, 1 ≤ n) :
    PagesExactly (fun last => handleAccountListQuery s last limit) (pageSize limit)
      (IsRegistered s) := by
  have coded : ∀ bytes ∈ s.accountAddresses, ∃ id : AccountId,
      Codes (fun id : AccountId => .ok id.storageKey) AccountId.fromVec id bytes := by
    intro bytes stored
    obtain ⟨id, verified, isKey⟩ := decodable.verified bytes stored
    exact ⟨id, (codes_iff decodable stored short).mpr ⟨verified, isKey⟩⟩
  refine (pages coded (pageSize_pos positive)).congr fun id addr => ?_
  rw [isRegistered_iff]
  constructor
  · rintro ⟨bytes, codes, found⟩
    obtain ⟨verified, rfl⟩ := (codes_iff decodable (mem_of_lookup found) short).mp codes
    exact ⟨verified, found⟩
  · rintro ⟨verified, found⟩
    exact ⟨id.storageKey, (codes_iff decodable (mem_of_lookup found) short).mpr ⟨verified, rfl⟩, found⟩

/-- The pages show no id with a trace of the full length. -/
theorem traces_short (decodable : Decodable s)
    (listed : PagesExactly (fun last => handleAccountListQuery s last limit) (pageSize limit)
      (IsRegistered s)) : TracesShort s := by
  obtain ⟨-, out, collected, -, exactly⟩ := listed
  intro id addr registered
  obtain ⟨start, cut, answer, inCut⟩ := collected.mem ((exactly id addr).mpr registered)
  obtain ⟨bytes, stored, decodes⟩ := mem_page answer inCut
  obtain ⟨id', verified, rfl⟩ := decodable.verified bytes stored
  rw [AccountId.fromVec_storageKey_eq verified] at decodes
  obtain rfl := Except.ok.inj decodes
  exact AccountTrace.decoded_short id'.trace

/-- A client who asks for one account at a time does not get past a trace of the full length. -/
theorem accounts_endless (decodable : Decodable s) {id : AccountId} {addr : Addr}
    (registered : IsRegistered s id addr) (full : ¬ id.trace.chains.length < MAX_TRACE_LENGTH)
    {out : List (AccountId × Addr)} :
    ¬ Collects (fun last => handleAccountListQuery s last (some 1)) Prod.fst none out := by
  obtain ⟨verified, found⟩ := isRegistered_iff.mp registered
  refine one_by_one_endless (mem_of_lookup found) fun bytes stored le => ?_
  obtain ⟨id', verified', rfl⟩ := decodable.verified bytes stored
  refine ⟨_, _, AccountId.fromVec_storageKey_eq verified', rfl, ?_⟩
  rcases List.le_iff_lt_or_eq.mp le with less | same
  · by_cases short : id'.trace.chains.length < MAX_TRACE_LENGTH
    · rw [AccountTrace.decoded_of_short short]
      exact less
    · exact List.lt_trans (AccountId.storageKey_decoded_lt verified' short) less
  · obtain rfl := AccountId.storageKey_injective verified' verified same
    exact AccountId.storageKey_decoded_lt verified' full

omit [Crates] in
theorem nsBytes_injective : Function.Injective nsBytes := by
  rintro ⟨name⟩ ⟨name'⟩ same
  rw [Namespace.mk.injEq]
  exact strBytes_injective same

theorem queryNamespaceList_ok {start : Option String} {cut : List (Namespace × AccountId)}
    (ok : queryNamespaceList s start limit = .ok cut) : cut.length ≤ pageSize limit := by
  obtain ⟨_, _, isCut⟩ := bind_eq_ok.mp ok
  obtain rfl := Except.ok.inj isCut
  exact List.length_take_le _ _

theorem namespaces_listed (decodable : Decodable s) (positive : ∀ n ∈ limit, 1 ≤ n) :
    PagesExactly (fun last => queryNamespaceList s (last.map Namespace.asStr) limit) (pageSize limit)
      fun ns id => s.namespaces.lookup ns = some id := by
  refine pages_of_range nsBytes_injective (pageSize_pos positive)
    (fun _ _ ok => queryNamespaceList_ok ok) rfl fun ns stored => ?_
  rw [queryNamespaceList, Option.map_some, Option.mapM_some, decodable.named ns stored]
  rfl

end Pages

section Listings

variable [Crates]

/-- In every state of the registry the pages list the registered accounts exactly if no account
    has a trace of the full length, and only then a client who asks for one account at a time
    comes to an end.  The pages of the namespaces always list those that are claimed. -/
theorem registry_listings {deps : Deps} {msg : InstantiateMsg} {start : RegistryState}
    (instantiated : instantiate deps msg = .ok start) (inputs : List Input) {limit : Option Nat}
    (positive : ∀ n ∈ limit, 1 ≤ n) :
    let s := run execute start inputs
    (PagesExactly (fun last => handleAccountListQuery s last limit) (pageSize limit)
        (IsRegistered s) ↔ TracesShort s) ∧
      ((∃ out, Collects (fun last => handleAccountListQuery s last (some 1)) Prod.fst none out) ↔
        TracesShort s) ∧
      PagesExactly (fun last => queryNamespaceList s (last.map Namespace.asStr) limit)
        (pageSize limit) fun ns id => s.namespaces.lookup ns = some id := by
  intro s
  have decodable : Decodable s := decodable_run instantiated inputs
  refine ⟨⟨traces_short decodable, fun short => accounts_listed decodable short positive⟩, ⟨?_, ?_⟩,
    namespaces_listed decodable positive⟩
  · rintro ⟨out, collected⟩ id addr registered
    by_contra full
    exact accounts_endless decodable registered full collected
  · intro short
    have one : ∀ n ∈ some 1, 1 ≤ n := by simp
    obtain ⟨-, out, collected, -⟩ := accounts_listed decodable short one
    exact ⟨out, collected⟩

end Listings

section ListingsSample

attribute [local instance] releaseCrates

def hostVersion : ModuleInfo :=
  { ns := ⟨"abstract"⟩, name := "ibc-host", version := .Version "1.0.0" }

def fiveHops : List TruncatedChainId :=
  [⟨"juno"⟩, ⟨"osmosis"⟩, ⟨"terra"⟩, ⟨"kujira"⟩, ⟨"neutron"⟩]

/-- The chain with an account that came over six others. -/
def farDeps : Deps where
  addrValidate s := .ok ⟨s⟩
  querier :=
    { contract := fun addr =>
        if addr = ⟨"acc"⟩ then
          some { Contract.account ⟨.Remote (fiveHops ++ [⟨"archway"⟩]), 7⟩ (.Monarchy ⟨"mon"⟩) with
            cw2 := some { contract := ACCOUNT, version := "1.0.0" } }
        else if addr = ⟨"host"⟩ then
          some { Contract.bare 2 with cw2 := some { contract := IBC_HOST, version := "1.0.0" } }
        else none
      codeInfo := fun _ => none
      registryAddress := fun _ => none }

def farInput (sender : String) (msg : ExecuteMsg) : Input :=
  { sampleInput sender msg with deps := farDeps }

/-- The ibc host is registered, and the account of six chains adds itself. -/
def farAdded : List Input :=
  [farInput "adm" (.ProposeModules [(accountVersion, .Account 1), (hostVersion, .Native ⟨"host"⟩)]),
    farInput "adm" (.ApproveOrRejectModules [accountVersion, hostVersion] []),
    farInput "acc" (.AddAccount none "host")]

theorem registry_listings_far :
    let s := run execute (sampleStart true) farAdded
    let listed := Except.ok [((⟨.Remote fiveHops, 7⟩ : AccountId), (⟨"acc"⟩ : Addr))]
    handleAccountListQuery s none (some 1) = listed ∧
      handleAccountListQuery s (some ⟨.Remote fiveHops, 7⟩) (some 1) = listed ∧
      ¬ PagesExactly (fun last => handleAccountListQuery s last none) (pageSize none)
        (IsRegistered s) ∧
      PagesExactly (fun last => queryNamespaceList s (last.map Namespace.asStr) none)
        (pageSize none) fun ns id => s.namespaces.lookup ns = some id := by
  intro s listed
  have positive : ∀ n ∈ (none : Option Nat), 1 ≤ n := by simp
  obtain ⟨accounts, -, names⟩ := registry_listings (instantiate_sample true) farAdded positive
  have registered : IsRegistered s ⟨.Remote (fiveHops ++ [⟨"archway"⟩]), 7⟩ ⟨"acc"⟩ := by
    constructor <;> decide +kernel
  refine ⟨by decide +kernel, by decide +kernel, fun listed => ?_, names⟩
  have short := accounts.mp listed _ _ registered
  exact absurd short (by decide)

end ListingsSample

end AbstractFramework.Registry
