import AbstractFramework.Ans.AssetNames
import AbstractFramework.Lib.NormalForms

/-! # The registry of dexes

Dexes are registered in lower case, but the names of an update are looked up as they are
spelled: in another spelling a registered dex is registered again, and not taken off.
-/

namespace AbstractFramework.Ans

open AbstractFramework Fallible Storage Sdk Machine NormalForms

section Dexes

variable [Crates] {s s' : AnsState} {i : Input}

/-- The registered dexes are lower case, and none is there twice. -/
def DexesNormal (s : AnsState) : Prop :=
  ∃ dexes, s.registeredDexes = some dexes ∧ Normalized toAsciiLowercase dexes ∧ dexes.Nodup

/-- No spelling of a dex that the message removes and does not add is registered after it. -/
def Deregisters (i : Input) (s' : AnsState) : Prop :=
  ∀ toAdd toRemove, i.msg = .UpdateDexes toAdd toRemove → ∀ dex ∈ toRemove,
    (∀ added ∈ toAdd, toAsciiLowercase added ≠ toAsciiLowercase dex) →
      ∀ dexes, s'.registeredDexes = some dexes →
        ∀ registered ∈ dexes, toAsciiLowercase registered ≠ toAsciiLowercase dex

/-- The names of a message that are not removed are added in lower case where they are
    registered or have been added before, and a registered dex is removed in lower case. -/
def SpellsDexes (i : Input) (s : AnsState) : Prop :=
  match i.msg with
  | .UpdateDexes toAdd toRemove => ∀ dexes, s.registeredDexes = some dexes →
      Spelled toAsciiLowercase toRemove dexes toAdd ∧ ∀ dex ∈ toRemove,
        (∀ added ∈ toAdd, toAsciiLowercase added ≠ toAsciiLowercase dex) →
          toAsciiLowercase dex ∈ dexes → toAsciiLowercase dex ∈ toRemove
  | _ => True

/-! ## One update -/

omit [Crates] in
theorem foldl_deregisterDex (toRemove : List String) (dexes : List DexName) :
    toRemove.foldl deregisterDex dexes = dexes.filter fun dex => dex ∉ toRemove := by
  induction toRemove generalizing dexes with
  | nil => simp
  | cons dex toRemove ih =>
    rw [List.foldl_cons, ih, deregisterDex, List.filter_filter]
    apply List.filter_congr
    intro registered _
    simp [Bool.and_comm]

theorem updateDexes_of_registered {update : List DexName → String → List DexName}
    {names : List String} {dexes : List DexName} (registered : s.registeredDexes = some dexes) :
    updateDexes update names s =
      .ok { s with registeredDexes := some (names.foldl update dexes) } := by
  unfold updateDexes
  cases names with
  | nil =>
    rw [List.foldl_nil, ← registered]
    rfl
  | cons name names => simp [loadDexes, registered, okOr]

/-- The registry after an update. -/
theorem updateDexRegistry_registered {toAdd toRemove : List String} {dexes : List DexName}
    (registered : s.registeredDexes = some dexes)
    (ok : updateDexRegistry i toAdd toRemove s = .ok s') :
    s'.registeredDexes = some ((toAdd.foldl (addForm toAsciiLowercase) dexes).filter
      fun dex => dex ∉ toRemove) := by
  simp only [updateDexRegistry, bind_eq_ok] at ok
  obtain ⟨_, -, m, added, removed⟩ := ok
  rw [updateDexes_of_registered registered] at added
  obtain rfl := Except.ok.inj added
  rw [updateDexes_of_registered rfl] at removed
  obtain rfl := Except.ok.inj removed
  rw [foldl_deregisterDex]
  rfl

/-- An update of a normal registry. -/
theorem updateDexRegistry_normal {toAdd toRemove : List String}
    (msg : i.msg = .UpdateDexes toAdd toRemove) (normal : DexesNormal s)
    (ok : updateDexRegistry i toAdd toRemove s = .ok s') :
    DexesNormal s' ∧ Deregisters i s' ↔ SpellsDexes i s := by
  obtain ⟨dexes, registered, lower, distinct⟩ := normal
  have after := updateDexRegistry_registered registered ok
  have lowerAfter : Normalized toAsciiLowercase (toAdd.foldl (addForm toAsciiLowercase) dexes) :=
    normal_addForms toAsciiLowercase_idem lower
  have normal_iff : DexesNormal s' ↔ Spelled toAsciiLowercase toRemove dexes toAdd := by
    rw [← nodup_addForms_iff toAsciiLowercase_idem toRemove lower distinct]
    simp only [DexesNormal, after, Option.some.injEq, exists_eq_left']
    refine and_iff_right ?_
    intro dex listed
    exact lowerAfter dex (List.mem_filter.mp listed).1
  have removed_iff : Deregisters i s' ↔ ∀ dex ∈ toRemove,
      (∀ added ∈ toAdd, toAsciiLowercase added ≠ toAsciiLowercase dex) →
        toAsciiLowercase dex ∈ dexes → toAsciiLowercase dex ∈ toRemove := by
    unfold Deregisters
    constructor
    · intro gone dex removes notAdded known
      replace gone := gone toAdd toRemove msg dex removes notAdded _ after
      by_contra kept
      have listed : toAsciiLowercase dex ∈ toAdd.foldl (addForm toAsciiLowercase) dexes :=
        (mem_addForms toAsciiLowercase_idem lower).mpr (.inl known)
      exact gone _ (List.mem_filter.mpr ⟨listed, by simpa using kept⟩) (toAsciiLowercase_idem dex)
    · intro inLower toAdd' toRemove' msg' dex removes notAdded dexes' registered' other listed same
      obtain ⟨rfl, rfl⟩ : toAdd = toAdd' ∧ toRemove = toRemove' := by simpa [msg] using msg'
      obtain rfl := Option.some.inj (after.symm.trans registered')
      replace inLower := inLower dex removes notAdded
      obtain ⟨listed, kept⟩ := List.mem_filter.mp listed
      have isForm : other = toAsciiLowercase dex := (lowerAfter other listed).symm.trans same
      subst isForm
      rcases (mem_addForms toAsciiLowercase_idem lower).mp listed with known | ⟨added, adds, form⟩
      · exact absurd (inLower known) (by simpa using kept)
      · exact notAdded added adds form
  rw [normal_iff, removed_iff, SpellsDexes, msg]
  simp only [registered, Option.some.injEq, forall_eq']

/-! ## Messages that leave the registry -/

theorem updateAssetAddresses_dexes {toAdd : List (String × AssetInfoUnchecked)}
    {toRemove : List String} (ok : updateAssetAddresses i toAdd toRemove s = .ok s') :
    s'.registeredDexes = s.registeredDexes := by
  simp only [updateAssetAddresses, bind_eq_ok, pure_eq_ok] at ok
  obtain ⟨_, -, m, saved, rfl⟩ := ok
  have added : m.registeredDexes = s.registeredDexes := by
    refine foldlM_invariant (P := fun m => m.registeredDexes = s.registeredDexes) ?_ rfl saved
    intro m entry m' _ held one
    obtain ⟨name, newAsset⟩ := entry
    simp only [saveAsset, bind_eq_ok, pure_eq_ok] at one
    obtain ⟨_, -, rfl⟩ := one
    exact held
  have removed : ∀ (names : List String) (m : AnsState),
      (names.foldl removeAsset m).registeredDexes = m.registeredDexes := by
    intro names
    induction names with
    | nil => exact fun m => rfl
    | cons name names ih =>
      intro m
      rw [List.foldl_cons, ih, removeAsset]
      split <;> rfl
  rw [removed, added]

theorem updatePools_dexes {toAdd : List (UncheckedPoolAddress × PoolMetadata)}
    {toRemove given : List UniquePoolId} (ok : updatePools i toAdd toRemove s = .ok (s', given)) :
    s'.registeredDexes = s.registeredDexes := by
  simp only [updatePools, bind_eq_ok, pure_eq_ok, Prod.mk.injEq] at ok
  obtain ⟨_, -, _, -, loop, added, rfl, -⟩ := ok
  have kept : loop.state.registeredDexes = s.registeredDexes := by
    refine foldlM_invariant (P := fun loop => loop.state.registeredDexes = s.registeredDexes) ?_ rfl
      added
    intro m entry m' _ held one
    simp only [addPool, bind_eq_ok, pure_eq_ok] at one
    obtain ⟨_, -, _, -, _, -, _, -, rfl⟩ := one
    exact held
  have removed : ∀ (ids : List UniquePoolId) (m : AnsState),
      (ids.foldl removePool m).registeredDexes = m.registeredDexes := by
    intro ids
    induction ids with
    | nil => exact fun m => rfl
    | cons id ids ih =>
      intro m
      rw [List.foldl_cons, ih, removePool]
      split <;> rfl
  exact (removed toRemove loop.state).trans kept

/-! ## Every run -/

theorem execute_dexes {given : List UniquePoolId} (normal : DexesNormal s)
    (ok : execute i s = .ok (s', given)) : DexesNormal s' ∧ Deregisters i s' ↔ SpellsDexes i s := by
  have same : s'.registeredDexes = s.registeredDexes → (∀ toAdd toRemove,
      i.msg ≠ .UpdateDexes toAdd toRemove) → DexesNormal s' ∧ Deregisters i s' := by
    intro kept other
    refine ⟨?_, fun toAdd toRemove msg => absurd msg (other toAdd toRemove)⟩
    unfold DexesNormal
    rw [kept]
    exact normal
  unfold execute at ok
  cases msg : i.msg with
  | UpdateAssetAddresses toAdd toRemove =>
    simp only [msg, bind_eq_ok, pure_eq_ok, Prod.mk.injEq] at ok
    obtain ⟨_, ok, rfl, -⟩ := ok
    rw [SpellsDexes, msg]
    exact iff_true_intro (same (updateAssetAddresses_dexes ok) (by simp [msg]))
  | UpdateDexes toAdd toRemove =>
    simp only [msg, bind_eq_ok, pure_eq_ok, Prod.mk.injEq] at ok
    obtain ⟨_, ok, rfl, -⟩ := ok
    exact updateDexRegistry_normal msg normal ok
  | UpdatePools toAdd toRemove =>
    simp only [msg] at ok
    rw [SpellsDexes, msg]
    exact iff_true_intro (same (updatePools_dexes ok) (by simp [msg]))
  | UpdateOwnership action =>
    simp only [msg, updateOwnership, bind_eq_ok, pure_eq_ok, Prod.mk.injEq] at ok
    obtain ⟨_, ⟨_, -, rfl⟩, rfl, -⟩ := ok
    rw [SpellsDexes, msg]
    exact iff_true_intro (same rfl (by simp [msg]))

/-- In all states of a run the registry is normal and every update takes off what it removes,
    exactly when every update of the run spells its dexes in lower case where it has to. -/
theorem dexes_normal_iff {address : Addr} {addrValidate : String → Except StdError Addr}
    {msg : InstantiateMsg} {start : AnsState}
    (instantiated : instantiate address addrValidate msg = .ok start) (inputs : List Input) :
    ((∀ seen, seen <+: inputs → DexesNormal (run execute start seen)) ∧
        Along execute (fun s i => ∀ s' given, execute i s = .ok (s', given) → Deregisters i s')
          start inputs) ↔
      Along execute (fun s i => (∃ p, execute i s = .ok p) → SpellsDexes i s) start inputs := by
  have normal : DexesNormal start := by
    simp only [instantiate, bind_eq_ok, mapError_eq_ok, pure_eq_ok] at instantiated
    obtain ⟨_, -, rfl⟩ := instantiated
    exact ⟨[], rfl, by simp [Normalized], .nil⟩
  rw [invariant_iff_steps normal, ← along_and]
  refine along_congr (E := fun _ _ => True) (P := DexesNormal) ?_ ?_ normal
    (along_of_forall (C := fun _ => True) fun _ _ => trivial)
  · intro s i _ normal
    constructor
    · rintro ⟨keeps, removes⟩ ⟨⟨s', given⟩, ok⟩
      exact (execute_dexes normal ok).mp ⟨keeps s' given ok, removes s' given ok⟩
    · intro spells
      exact ⟨fun s' given ok => ((execute_dexes normal ok).mpr (spells ⟨_, ok⟩)).1,
        fun s' given ok => ((execute_dexes normal ok).mpr (spells ⟨_, ok⟩)).2⟩
  · intro s i s' given _ _ holds ok
    exact holds.1 s' given ok

end Dexes

section DexesSample

attribute [local instance] releaseCrates

def nameDexes (toAdd toRemove : List String) : Input := sampleInput (.UpdateDexes toAdd toRemove)

theorem spellsDexes_juno : SpellsDexes (nameDexes ["Junoswap", "osmosis"] []) sampleStart := by
  rintro dexes ⟨⟩
  refine ⟨⟨?_, by decide +kernel⟩, ?_⟩
  · intro dex _ _ known
    cases known
  · intro dex removes
    cases removes

theorem dexes_normal_juno :
    DexesNormal (run execute sampleStart [nameDexes ["Junoswap", "osmosis"] []]) :=
  ((dexes_normal_iff instantiate_sample [nameDexes ["Junoswap", "osmosis"] []]).mpr
    ⟨fun _ => spellsDexes_juno, trivial⟩).1 _ List.prefix_rfl

/-- In capital letters a registered dex is added a second time, and not removed. -/
theorem dexes_not_normal :
    instantiate ⟨"ans"⟩ (fun text => .ok ⟨text⟩) { admin := "adm" } = .ok sampleStart ∧
      (run execute sampleStart [nameDexes ["juno"] [], nameDexes ["JUNO"] []]).registeredDexes =
        some ["juno", "juno"] ∧
      ¬ DexesNormal (run execute sampleStart [nameDexes ["juno"] [], nameDexes ["JUNO"] []]) ∧
      (run execute sampleStart [nameDexes ["juno"] [], nameDexes [] ["JUNO"]]).registeredDexes =
        some ["juno"] ∧
      ¬ Deregisters (nameDexes [] ["JUNO"])
        (run execute sampleStart [nameDexes ["juno"] [], nameDexes [] ["JUNO"]]) := by
  have twice : (run execute sampleStart
      [nameDexes ["juno"] [], nameDexes ["JUNO"] []]).registeredDexes = some ["juno", "juno"] := by
    decide +kernel
  have stays : (run execute sampleStart
      [nameDexes ["juno"] [], nameDexes [] ["JUNO"]]).registeredDexes = some ["juno"] := by
    decide +kernel
  refine ⟨rfl, twice, ?_, stays, ?_⟩
  · rintro ⟨dexes, registered, -, distinct⟩
    rw [twice, Option.some.injEq] at registered
    rw [← registered] at distinct
    exact absurd distinct (by decide)
  · intro removes
    exact removes [] ["JUNO"] rfl "JUNO" (by simp) (by simp) _ stays "juno" (by simp)
      (by decide +kernel)

end DexesSample

end AbstractFramework.Ans
