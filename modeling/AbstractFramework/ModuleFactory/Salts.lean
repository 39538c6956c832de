import AbstractFramework.ModuleFactory.Addresses
import AbstractFramework.Objects.AccountIdText

/-! # Salts

The module factory creates the modules of an account with a salt that is made of the hash
of the account's identifier as text.  Accepted identifiers differ as texts and as keys, so
that without collisions of the hashes the modules of two accounts have different addresses.
-/

namespace AbstractFramework.ModuleFactory

open AbstractFramework Fallible Storage Account

section Salts

variable [Crates]

/-- The texts of the two accounts do not collide under SHA-256, and the addresses that are
    derived from their salts do not collide either. -/
structure NoCollision (env env' : Env) (id id' : AccountId) : Prop where
  sha256 : env.sha256 (strBytes id.toStr) = env'.sha256 (strBytes id'.toStr) →
    strBytes id.toStr = strBytes id'.toStr
  instantiate2Address : ∀ checksum checksum' creator creator' addr,
    env.instantiate2Address checksum creator (env.generateInstantiateSalt id) = .ok addr →
      env'.instantiate2Address checksum' creator' (env'.generateInstantiateSalt id') = .ok addr →
        env.generateInstantiateSalt id = env'.generateInstantiateSalt id'

variable {env env' : Env} {id id' : AccountId}

theorem NoCollision.salts (none : NoCollision env env' id id')
    (same : env.generateInstantiateSalt id = env'.generateInstantiateSalt id') :
    id.toStr = id'.toStr :=
  strBytes_injective (none.sha256 (List.append_cancel_right same))

omit [Crates] in
theorem createdCode_of_isCreated {m : Module} (created : isCreated m = true) :
    ∃ codeId, createdCode m = some codeId := by
  cases reference : m.reference with
  | App codeId => exact ⟨codeId, by simp [createdCode, reference]⟩
  | Standalone codeId => exact ⟨codeId, by simp [createdCode, reference]⟩
  | Account codeId => simp [isCreated, reference] at created
  | Native addr | Adapter addr | Service addr => simp [isCreated, reference] at created

/-- The modules that are created for the account in a batch have addresses with its salt. -/
theorem created_address {s s' : AccountState} {modules : List ModuleInstallConfig} {funds : List Coin}
    {msg : CosmosMsg} {m : Module} {addr : Addr}
    (accepted : installModulesInternal env modules funds s = .ok (s', msg))
    (created : (m, some addr) ∈ s'.installModulesContext) :
    ∃ checksum, env.instantiate2Address checksum env.factory
      (env.generateInstantiateSalt s.accountId) = .ok addr := by
  obtain ⟨plans, planned, -, context, -, -⟩ := installModulesInternal_eq_ok accepted
  rw [context] at created
  obtain ⟨plan, listed, same⟩ := List.mem_map.mp created
  obtain ⟨rfl, isAddr⟩ := Prod.mk.inj same
  obtain ⟨config, -, isPlanned⟩ := forall₂_exists_left planned plan listed
  rw [isPlanned.created] at isAddr
  split at isAddr
  · rename_i isCreated
    obtain rfl := Option.some.inj isAddr
    obtain ⟨codeId, code⟩ := createdCode_of_isCreated isCreated
    have derived := (isPlanned.address codeId code).1
    simp only [derivedAddress, Option.bind_eq_some_iff, toOption_eq_some] at derived
    obtain ⟨info, -, derived⟩ := derived
    exact ⟨info.checksum, derived⟩
  · cases isAddr

/-- No module that is created for the one account has the address of one for the other. -/
def AddressesApart (env env' : Env) (id id' : AccountId) : Prop :=
  ∀ (s s₁ s' s₁' : AccountState) (modules modules' : List ModuleInstallConfig)
    (funds funds' : List Coin) (msg msg' : CosmosMsg), s.accountId = id → s'.accountId = id' →
    installModulesInternal env modules funds s = .ok (s₁, msg) →
    installModulesInternal env' modules' funds' s' = .ok (s₁', msg') →
    ∀ m m' addr addr', (m, some addr) ∈ s₁.installModulesContext →
      (m', some addr') ∈ s₁'.installModulesContext → addr ≠ addr'

theorem AddressesApart.of_salts (none : NoCollision env env' id id')
    (differ : env.generateInstantiateSalt id ≠ env'.generateInstantiateSalt id') :
    AddressesApart env env' id id' := by
  rintro s s₁ s' s₁' modules modules' funds funds' msg msg' rfl rfl accepted accepted' m m' addr _
    created created' rfl
  obtain ⟨checksum, derived⟩ := created_address accepted created
  obtain ⟨checksum', derived'⟩ := created_address accepted' created'
  exact differ (none.instantiate2Address _ _ _ _ addr derived derived')

/-- Different accepted identifiers are different as texts and as keys, and without collisions
    of the hashes so are the salts made of them and the addresses of the modules. -/
theorem accountIds_collision_free {seq seq' : AccountSequence} {trace trace' : AccountTrace}
    (accepted : AccountId.new seq trace = .ok id) (accepted' : AccountId.new seq' trace' = .ok id')
    (distinct : id ≠ id') :
    id.toStr ≠ id'.toStr ∧ id.storageKey ≠ id'.storageKey ∧
      ∀ env env', NoCollision env env' id id' →
        env.generateInstantiateSalt id ≠ env'.generateInstantiateSalt id' ∧
          AddressesApart env env' id id' := by
  obtain ⟨verified, rfl⟩ := AccountId.new_eq_ok.mp accepted
  obtain ⟨verified', rfl⟩ := AccountId.new_eq_ok.mp accepted'
  have texts : AccountId.toStr { seq, trace } ≠ AccountId.toStr { seq := seq', trace := trace' } :=
    fun same => distinct (AccountId.toStr_injective verified verified' same)
  refine ⟨texts, fun same => distinct (AccountId.storageKey_injective verified verified' same), ?_⟩
  intro env env' none
  have salts : env.generateInstantiateSalt { seq, trace } ≠
      env'.generateInstantiateSalt { seq := seq', trace := trace' } :=
    fun same => texts (none.salts same)
  exact ⟨salts, .of_salts none salts⟩

end Salts

section Sample

attribute [local instance] releaseCrates

/-- Addresses that spell out the salt and the checksum. -/
def saltedEnv : Env :=
  { sampleEnv with
    instantiate2Address := fun checksum _ salt =>
      .ok ⟨String.ofList ((salt ++ checksum).map fun byte => Char.ofNat byte.toNat)⟩ }

def remoteState : AccountState :=
  { sampleState with accountId := { seq := 1, trace := .Remote [⟨"juno"⟩] } }

/-- The addresses of the modules that are created in a batch. -/
def createdAddresses (s : AccountState) : Option (List Addr) :=
  (installModulesInternal saltedEnv sampleBatch [] s).toOption.map
    fun p => p.1.installModulesContext.filterMap Prod.snd

theorem noCollision_saltedEnv :
    NoCollision saltedEnv saltedEnv (.ofLocal 1) { seq := 1, trace := .Remote [⟨"juno"⟩] } where
  sha256 same := same
  instantiate2Address := by
    intro checksum checksum' creator creator' addr first second
    have same := congrArg List.head? (String.ofList_inj.mp
      (congrArg Addr.asStr (Except.ok.inj (first.trans second.symm))))
    have head : (saltedEnv.generateInstantiateSalt (.ofLocal 1)).head? = some 108 := by
      decide +kernel
    have head' : (saltedEnv.generateInstantiateSalt
        { seq := 1, trace := .Remote [⟨"juno"⟩] }).head? = some 106 := by
      decide +kernel
    rw [List.head?_map, List.head?_map, List.head?_append, List.head?_append, head, head'] at same
    simp only [Option.some_or, Option.map_some, Option.some.injEq] at same
    exact absurd same (by decide)

/-- A local account and one from juno install the same batch. -/
theorem accountIds_collision_free_batch :
    createdAddresses sampleState = some [⟨"local-1abstract\x07"⟩, ⟨"local-1abstract\x08"⟩] ∧
      createdAddresses remoteState = some [⟨"juno-1abstract\x07"⟩, ⟨"juno-1abstract\x08"⟩] ∧
      AddressesApart saltedEnv saltedEnv sampleState.accountId remoteState.accountId := by
  refine ⟨by decide +kernel, by decide +kernel, ?_⟩
  have here : AccountId.new 1 .Local = .ok (.ofLocal 1) := rfl
  have remote : AccountId.new 1 (.Remote [⟨"juno"⟩]) =
      .ok { seq := 1, trace := .Remote [⟨"juno"⟩] } := by decide
  have apart := accountIds_collision_free here remote (by decide)
  exact (apart.2.2 saltedEnv saltedEnv noCollision_saltedEnv).2

end Sample

end AbstractFramework.ModuleFactory
