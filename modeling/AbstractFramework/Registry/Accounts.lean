import AbstractFramework.Objects.AccountIdCodec
import AbstractFramework.Registry.Writes

/-! # Account registration

Accounts add themselves.  Three kinds of ids go through one command: local ids
in sequence, local ids that the creator chose, and remote ids that the ibc host
brings.  `AccountsRegistered` is the invariant that ties the registered
addresses to the ids, to the sequence counter and to what the contracts report
about themselves.
-/

namespace AbstractFramework.Registry

open AbstractFramework Fallible Storage Machine

section Accounts

variable [Crates] {i : Input} {s s' : RegistryState} {ids : Addr → Option AccountId}

/-- Contracts report the account id that `ids` has for them. -/
def ReportsIds (ids : Addr → Option AccountId) (i : Input) : Prop :=
  ∀ addr id, i.deps.querier.queryAccountId addr = .ok id → ids addr = some id

structure AccountsRegistered (ids : Addr → Option AccountId) (s : RegistryState) : Prop where
  verified : ∀ key ∈ s.accountAddresses,
    ∃ id : AccountId, id.trace.verify = .ok () ∧ id.storageKey = key
  sequential : ∀ seq < PREDICTABLE_SEQUENCE,
    (AccountId.ofLocal seq).storageKey ∈ s.accountAddresses ↔ seq < s.localAccountSequence
  bounded : s.localAccountSequence ≤ PREDICTABLE_SEQUENCE
  reported : ∀ {key addr}, s.accountAddresses.lookup key = some addr →
    ∃ id, ids addr = some id ∧ id.storageKey = key

/-! ## Local ids -/

omit [Crates] in
theorem eq_ofLocal {id : AccountId} (isLocal : id.trace = .Local) : id = .ofLocal id.seq := by
  obtain ⟨trace, seq⟩ := id
  cases isLocal
  rfl

omit [Crates] in
/-- A local id shares its storage key with no other verified id. -/
theorem ofLocal_of_storageKey {seq : AccountSequence} {id : AccountId}
    (verified : id.trace.verify = .ok ()) (same : (AccountId.ofLocal seq).storageKey = id.storageKey) :
    id = .ofLocal seq :=
  (AccountId.storageKey_injective (u := ()) rfl verified same).symm

omit [Crates] in
theorem lt_add_one_iff {seq next : AccountSequence} (small : next < PREDICTABLE_SEQUENCE) :
    seq < next + 1 ↔ seq = next ∨ seq < next := by
  have bound : next.toNat < 2147483648 := UInt32.lt_iff_toNat_lt.mp small
  have sum : (next + 1).toNat = next.toNat + 1 := by
    rw [UInt32.toNat_add, UInt32.toNat_one]
    omega
  rw [UInt32.lt_iff_toNat_lt, UInt32.lt_iff_toNat_lt, sum, ← UInt32.toNat_inj]
  omega

omit [Crates] in
theorem add_one_le {next : AccountSequence} (small : next < PREDICTABLE_SEQUENCE) :
    next + 1 ≤ PREDICTABLE_SEQUENCE := by
  have bound : next.toNat < 2147483648 := UInt32.lt_iff_toNat_lt.mp small
  rw [UInt32.le_iff_toNat_le, UInt32.toNat_add, UInt32.toNat_one]
  change (next.toNat + 1) % 4294967296 ≤ 2147483648
  omega

/-- After an account was admitted, the counter bounds the sequential ids. -/
theorem Admitted.sequential_iff {creator : String} {id : AccountId} {sequence : AccountSequence}
    (admitted : Admitted i creator s id sequence) (registered : AccountsRegistered ids s)
    {seq : AccountSequence} (small : seq < PREDICTABLE_SEQUENCE) :
    (AccountId.ofLocal seq).storageKey = id.storageKey ∨
      (AccountId.ofLocal seq).storageKey ∈ s.accountAddresses ↔ seq < sequence := by
  rw [registered.sequential seq small]
  have key_iff : (AccountId.ofLocal seq).storageKey = id.storageKey ↔ id = .ofLocal seq :=
    ⟨ofLocal_of_storageKey admitted.verified, fun same => by rw [same]⟩
  rw [key_iff]
  cases admitted with
  | sequential isLocal smallId next =>
    -- the new id is the value of the counter, which moves on by one
    rw [next, lt_add_one_iff smallId, eq_ofLocal isLocal]
    simp [AccountId.ofLocal, eq_comm]
  | predictable isLocal large =>
    -- chosen ids start where sequential ones end
    have other : id ≠ .ofLocal seq := fun same => large (by rw [same]; exact small)
    simp [other]
  | remote notLocal =>
    have other : id ≠ .ofLocal seq := fun same => notLocal (by rw [same]; rfl)
    simp [other]

/-! ## One write -/

theorem Write.accountsRegistered (reports : ReportsIds ids i) (write : Write i s s')
    (registered : AccountsRegistered ids s) : AccountsRegistered ids s' := by
  cases write with
  | @account ns creator id sequence msg reported new admitted =>
    refine ⟨?_, ?_, ?_, ?_⟩
    · exact forall_mem_insert _ ⟨id, admitted.verified, rfl⟩ registered.verified
    · intro seq small
      rw [AList.mem_insert]
      exact admitted.sequential_iff registered small
    · cases admitted with
      | sequential _ small next => exact add_one_le (next ▸ small)
      | predictable => exact registered.bounded
      | remote => exact registered.bounded
    · intro key addr found
      rcases lookup_insert_cases found with ⟨rfl, rfl⟩ | ⟨_, before⟩
      · exact ⟨id, reports _ _ reported, rfl⟩
      · exact registered.reported before
  | _ => exact ⟨registered.verified, registered.sequential, registered.bounded, registered.reported⟩

/-- No write changes a registered address. -/
theorem Write.accountAddresses_eq (write : Write i s s') {key : AccountKey} {addr : Addr}
    (found : s.accountAddresses.lookup key = some addr) :
    s'.accountAddresses.lookup key = some addr := by
  cases write with
  | @account _ _ id _ _ _ new =>
    have other : key ≠ id.storageKey := by
      rintro rfl
      exact new (mem_of_lookup found)
    rw [AList.lookup_insert_ne other]
    exact found
  | _ => exact found

/-! ## Runs -/

theorem accountsRegistered_instantiate {deps : Deps} {msg : InstantiateMsg}
    (init : instantiate deps msg = .ok s) : AccountsRegistered ids s := by
  simp only [instantiate, bind_eq_ok, mapError_eq_ok, pure_eq_ok] at init
  obtain ⟨_, _, _, _, rfl⟩ := init
  refine ⟨fun key mem => absurd mem (AList.notMem_empty key), ?_, ?_, ?_⟩
  · intro seq _
    have none : ¬ seq < 0 := by
      rw [UInt32.lt_iff_toNat_lt]
      exact Nat.not_lt_zero _
    exact ⟨fun mem => absurd mem (AList.notMem_empty _), fun less => absurd less none⟩
  · change (0 : AccountSequence) ≤ PREDICTABLE_SEQUENCE
    decide
  · intro key addr found
    simp at found

theorem accountsRegistered_run {deps : Deps} {msg : InstantiateMsg}
    (init : instantiate deps msg = .ok s) {inputs : List Input}
    (reports : ∀ i ∈ inputs, ReportsIds ids i) : AccountsRegistered ids (run execute s inputs) :=
  run_writes_invariant (fun here _ write => write.accountsRegistered here)
    (accountsRegistered_instantiate init) (along_of_forall reports).accepted

theorem accountAddresses_run (inputs : List Input) {key : AccountKey} {addr : Addr}
    (found : s.accountAddresses.lookup key = some addr) :
    (run execute s inputs).accountAddresses.lookup key = some addr := by
  refine run_invariant (P := fun m : RegistryState => m.accountAddresses.lookup key = some addr)
    inputs ?_ found
  intro m i m' msgs found ok
  refine writes_invariant (P := fun m : RegistryState => m.accountAddresses.lookup key = some addr)
    ?_ found (execute_writes ok)
  exact fun _ _ _ write found => write.accountAddresses_eq found

/-! ## Remote ids -/

/-- The creator that a message names is the ibc host registered under the
    version the creator reports. -/
def CreatorIsIbcHost (i : Input) (s : RegistryState) : Prop :=
  ∃ ns creator creatorAddr cw2 host, i.msg = .AddAccount ns creator ∧
    i.deps.addrValidate creator = .ok creatorAddr ∧
    i.deps.querier.queryContractVersion creatorAddr = .ok cw2 ∧
    ModuleInfo.fromId IBC_HOST (.Version cw2.version) = .ok host ∧
    s.registeredModules.lookup host.key = some (.Native creatorAddr)

theorem creatorIsIbcHost_of_assertIbcHost {ns : Option String} {creator : String} {u : Unit}
    (msg : i.msg = .AddAccount ns creator) (h : assertIbcHost i.deps creator s = .ok u) :
    CreatorIsIbcHost i s := by
  simp only [assertIbcHost, bind_eq_ok, mapError_eq_ok, okOr_eq_ok, ensure_eq_ok] at h
  obtain ⟨creatorAddr, valid, cw2, version, host, parsed, reference, found, addr, native, rfl⟩ := h
  cases reference with
  | Native addr' =>
    obtain rfl : addr' = creatorAddr := Except.ok.inj native
    exact ⟨ns, creator, addr', cw2, host, msg, valid, version, parsed, found⟩
  | _ => cases native

/-- Adding an account leaves the registered modules as they were. -/
theorem writes_registered_eq {ns : Option String} {creator : String}
    (msg : i.msg = .AddAccount ns creator) (writes : Writes i s s') :
    s'.registeredModules = s.registeredModules := by
  refine writes_invariant (P := fun m => m.registeredModules = s.registeredModules) ?_ rfl writes
  intro m m' _ write same
  cases write with
  | register other => rw [msg] at other; cases other
  | approve other => rw [msg] at other; cases other
  | remove other => rw [msg] at other; cases other
  | yank other => rcases other with ⟨_, other⟩ | ⟨_, other⟩ <;> rw [msg] at other <;> cases other
  | _ => exact same

theorem remote_added {msgs : List BankMsg} (ok : execute i s = .ok (s', msgs)) {id : AccountId}
    (verified : id.trace.verify = .ok ()) (remote : id.trace ≠ .Local)
    (before : id.storageKey ∉ s.accountAddresses) (after : id.storageKey ∈ s'.accountAddresses) :
    CreatorIsIbcHost i s := by
  have added := writes_invariant (P := fun m : RegistryState =>
    id.storageKey ∈ m.accountAddresses → CreatorIsIbcHost i s) ?_ (fun mem => absurd mem before)
    (execute_writes ok)
  · exact added after
  intro m m' earlier write ih mem
  cases write with
  | @account ns creator id' _ msg _ _ admitted =>
    rcases (AList.mem_insert _).mp mem with same | old
    -- the bytes determine the id, since both are verified
    · obtain rfl := AccountId.storageKey_injective verified admitted.verified same
      cases admitted with
      | sequential isLocal => exact absurd isLocal remote
      | predictable isLocal => exact absurd isLocal remote
      | remote _ host =>
        obtain ⟨ns, creator, creatorAddr, cw2, hostInfo, msg', valid, version, parsed, found⟩ :=
          creatorIsIbcHost_of_assertIbcHost msg host
        rw [writes_registered_eq msg earlier] at found
        exact ⟨ns, creator, creatorAddr, cw2, hostInfo, msg', valid, version, parsed, found⟩
    · exact ih old
  | _ => exact ih mem

/-- Account registration.  In every state that a new registry reaches, with every
    contract reporting one account id: the registered ids are verified; the
    local ids below 2^31 are those below the counter; an address never changes
    and has one id; and a remote id is added only for the registered ibc host. -/
theorem account_registration {deps : Deps} {msg : InstantiateMsg} {s₀ : RegistryState}
    (init : instantiate deps msg = .ok s₀) (ids : Addr → Option AccountId)
    (before later : List Input) (reports : ∀ i ∈ before, ReportsIds ids i) :
    let s := run execute s₀ before
    (∀ key ∈ s.accountAddresses, ∃ id : AccountId, id.trace.verify = .ok () ∧ id.storageKey = key) ∧
    (∀ seq < PREDICTABLE_SEQUENCE,
      (AccountId.ofLocal seq).storageKey ∈ s.accountAddresses ↔ seq < s.localAccountSequence) ∧
    (∀ key addr, s.accountAddresses.lookup key = some addr →
      (run execute s later).accountAddresses.lookup key = some addr) ∧
    (∀ key key' addr, s.accountAddresses.lookup key = some addr →
      s.accountAddresses.lookup key' = some addr → key = key') ∧
    (∀ i s' msgs, execute i s = .ok (s', msgs) → ∀ id : AccountId, id.trace.verify = .ok () →
      id.trace ≠ .Local → id.storageKey ∉ s.accountAddresses → id.storageKey ∈ s'.accountAddresses →
      CreatorIsIbcHost i s) := by
  intro s
  have registered : AccountsRegistered ids s := accountsRegistered_run init reports
  refine ⟨registered.verified, registered.sequential,
    fun key addr found => accountAddresses_run later found, ?_,
    fun i s' msgs ok id verified remote new added => remote_added ok verified remote new added⟩
  -- an address reports one id, and both keys are keys of it
  intro key key' addr found found'
  obtain ⟨id, has, rfl⟩ := registered.reported found
  obtain ⟨id', has', rfl⟩ := registered.reported found'
  rw [has, Option.some.injEq] at has'
  rw [has']

end Accounts

section AccountsSample

attribute [local instance] releaseCrates

/-- The account module is registered and the account `acc` adds itself. -/
def accountAdded : List Input :=
  [sampleInput "adm" (.ProposeModules [(accountVersion, .Account 1)]),
    sampleInput "adm" (.ApproveOrRejectModules [accountVersion] []),
    sampleInput "acc" (.AddAccount none "")]

/-- The account id of the one account contract of the deployment. -/
def sampleIds (addr : Addr) : Option AccountId :=
  if addr = ⟨"acc"⟩ then some sampleAccountId else none

theorem sampleDeps_reports {addr : Addr} {id : AccountId}
    (h : sampleDeps.querier.queryAccountId addr = .ok id) : sampleIds addr = some id := by
  simp only [Querier.queryAccountId, Querier.item, okOr_eq_ok, Option.bind_eq_some_iff] at h
  obtain ⟨contract, found, has⟩ := h
  by_cases same : addr = ⟨"acc"⟩
  · simp only [sampleDeps, same, if_true, Option.some.injEq] at found
    subst found
    simpa [sampleIds, same, Contract.account] using has
  · simp [sampleDeps, same] at found

theorem account_registration_added :
    let s := run execute (sampleStart true) accountAdded
    s.accountAddresses.lookup sampleAccountId.storageKey = some ⟨"acc"⟩ ∧
      ∀ key, s.accountAddresses.lookup key = some ⟨"acc"⟩ → sampleAccountId.storageKey = key := by
  have found : (run execute (sampleStart true) accountAdded).accountAddresses.lookup
      sampleAccountId.storageKey = some ⟨"acc"⟩ := by decide
  have reports : ∀ i ∈ accountAdded, ReportsIds sampleIds i := by
    intro i listed addr id reported
    simp only [accountAdded, List.mem_cons, List.not_mem_nil, or_false] at listed
    rcases listed with rfl | rfl | rfl <;> exact sampleDeps_reports reported
  have all := account_registration (instantiate_sample true) sampleIds accountAdded [] reports
  exact ⟨found, fun key found' => all.2.2.2.1 _ key ⟨"acc"⟩ found found'⟩

end AccountsSample

end AbstractFramework.Registry
