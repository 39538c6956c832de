import AbstractFramework.Ans.Commands
import AbstractFramework.Lib.TwoWay

/-! # The names of assets, in both directions

The name service keeps what an asset name stands for, and the name of an asset.  Apps resolve
through both.  An update writes both directions of a new pair and leaves what they held
before, so the two are inverse after it only where nothing of an older pair is left.
-/

namespace AbstractFramework.Ans

open AbstractFramework Fallible Storage Sdk Machine

section AssetNames

variable [Crates] {s s' : AnsState} {i : Input}

def AssetMapsInverse (s : AnsState) : Prop := Inverse s.assetAddresses s.revAssetAddresses

/-- The pairs that an update adds. -/
def checkedAdds (i : Input) (toAdd : List (String × AssetInfoUnchecked)) :
    List (AssetEntry × AssetInfo) :=
  toAdd.filterMap fun e =>
    (checkAsset i.addrValidate e.2).toOption.map fun asset => (assetEntry e.1, asset)

/-- The update leaves no half of a pair. -/
def KeepsInverse (i : Input) (s : AnsState) : Prop :=
  match i.msg with
  | .UpdateAssetAddresses toAdd toRemove =>
    KeepsPairs s.assetAddresses (checkedAdds i toAdd) (toRemove.map assetEntry)
  | _ => True

/-! ## What an update writes -/

theorem saveAssets_ok {toAdd : List (String × AssetInfoUnchecked)}
    (done : toAdd.foldlM (saveAsset i.addrValidate) s = .ok s') :
    s'.assetAddresses = insertAll s.assetAddresses (checkedAdds i toAdd) ∧
      s'.revAssetAddresses = insertAll s.revAssetAddresses (swapped (checkedAdds i toAdd)) := by
  induction toAdd generalizing s with
  | nil =>
    simp only [List.foldlM_nil, pure_eq_ok] at done
    subst done
    exact ⟨rfl, rfl⟩
  | cons e toAdd ih =>
    obtain ⟨name, newAsset⟩ := e
    simp only [List.foldlM_cons, saveAsset, bind_eq_ok, pure_eq_ok] at done
    obtain ⟨_, ⟨asset, checked, rfl⟩, later⟩ := done
    obtain ⟨forward, backward⟩ := ih later
    have adds : checkedAdds i ((name, newAsset) :: toAdd) =
        (assetEntry name, asset) :: checkedAdds i toAdd := by
      simp [checkedAdds, checked, Except.toOption]
    rw [forward, backward, adds]
    exact ⟨rfl, rfl⟩

theorem removeAssets_eq (toRemove : List String) (s : AnsState) :
    ((toRemove.foldl removeAsset s).assetAddresses, (toRemove.foldl removeAsset s).revAssetAddresses) =
      (toRemove.map assetEntry).foldl removeBoth (s.assetAddresses, s.revAssetAddresses) := by
  induction toRemove generalizing s with
  | nil => rfl
  | cons name toRemove ih =>
    rw [List.foldl_cons, ih, List.map_cons, List.foldl_cons]
    unfold removeAsset removeBoth
    simp only
    cases s.assetAddresses.lookup (assetEntry name) <;> rfl

/-- An update of inverse maps leaves them inverse exactly where it leaves no half of a pair. -/
theorem updateAssetAddresses_inverse {toAdd : List (String × AssetInfoUnchecked)}
    {toRemove : List String} (msg : i.msg = .UpdateAssetAddresses toAdd toRemove)
    (inverse : AssetMapsInverse s) (ok : updateAssetAddresses i toAdd toRemove s = .ok s') :
    AssetMapsInverse s' ↔ KeepsInverse i s := by
  simp only [updateAssetAddresses, bind_eq_ok, pure_eq_ok] at ok
  obtain ⟨_, _, m, saved, rfl⟩ := ok
  obtain ⟨forward, backward⟩ := saveAssets_ok saved
  have removed := removeAssets_eq toRemove m
  rw [forward, backward, Prod.mk.injEq] at removed
  rw [AssetMapsInverse, removed.1, removed.2, KeepsInverse, msg]
  exact inverse_update_iff inverse _ _

/-! ## Messages that leave the asset names -/

theorem addPool_assets {registeredDexes : List DexName} {loop loop' : PoolLoop}
    {entry : UncheckedPoolAddress × PoolMetadata}
    (ok : addPool i registeredDexes loop entry = .ok loop') :
    loop'.state.assetAddresses = loop.state.assetAddresses ∧
      loop'.state.revAssetAddresses = loop.state.revAssetAddresses := by
  simp only [addPool, bind_eq_ok, pure_eq_ok] at ok
  obtain ⟨_, _, _, _, _, _, _, _, rfl⟩ := ok
  exact ⟨rfl, rfl⟩

theorem removePools_assets (toRemove : List UniquePoolId) (s : AnsState) :
    (toRemove.foldl removePool s).assetAddresses = s.assetAddresses ∧
      (toRemove.foldl removePool s).revAssetAddresses = s.revAssetAddresses := by
  induction toRemove generalizing s with
  | nil => exact ⟨rfl, rfl⟩
  | cons id toRemove ih =>
    rw [List.foldl_cons, (ih _).1, (ih _).2, removePool]
    split <;> exact ⟨rfl, rfl⟩

theorem updateDexes_ok {update : List DexName → String → List DexName} {names : List String}
    (ok : updateDexes update names s = .ok s') :
    ∃ registeredDexes, s' = { s with registeredDexes } := by
  unfold updateDexes at ok
  split at ok
  · cases ok
    exact ⟨s.registeredDexes, rfl⟩
  · simp only [bind_eq_ok, pure_eq_ok] at ok
    obtain ⟨_, _, rfl⟩ := ok
    exact ⟨_, rfl⟩

theorem updateDexRegistry_ok {toAdd toRemove : List String}
    (ok : updateDexRegistry i toAdd toRemove s = .ok s') :
    ∃ registeredDexes, s' = { s with registeredDexes } := by
  simp only [updateDexRegistry, bind_eq_ok] at ok
  obtain ⟨_, _, _, added, removed⟩ := ok
  obtain ⟨_, rfl⟩ := updateDexes_ok added
  obtain ⟨registeredDexes, rfl⟩ := updateDexes_ok removed
  exact ⟨registeredDexes, rfl⟩

theorem execute_inverse {given : List UniquePoolId} (inverse : AssetMapsInverse s)
    (ok : execute i s = .ok (s', given)) : AssetMapsInverse s' ↔ KeepsInverse i s := by
  unfold execute at ok
  split at ok
  · rename_i toAdd toRemove msg
    simp only [bind_eq_ok, pure_eq_ok, Prod.mk.injEq] at ok
    obtain ⟨_, ok, rfl, _⟩ := ok
    exact updateAssetAddresses_inverse msg inverse ok
  · rename_i toAdd toRemove msg
    simp only [bind_eq_ok, pure_eq_ok, Prod.mk.injEq] at ok
    obtain ⟨_, ok, rfl, _⟩ := ok
    obtain ⟨_, rfl⟩ := updateDexRegistry_ok ok
    rw [KeepsInverse, msg]
    exact iff_true_intro inverse
  · rename_i toAdd toRemove msg
    simp only [updatePools, bind_eq_ok, pure_eq_ok, Prod.mk.injEq] at ok
    obtain ⟨_, _, _, _, loop, added, rfl, _⟩ := ok
    have kept := foldlM_invariant
      (P := fun loop => loop.state.assetAddresses = s.assetAddresses ∧
        loop.state.revAssetAddresses = s.revAssetAddresses)
      (fun _ _ _ _ held ok => ⟨(addPool_assets ok).1.trans held.1, (addPool_assets ok).2.trans held.2⟩)
      ⟨rfl, rfl⟩ added
    have removed := removePools_assets toRemove loop.state
    simp only [AssetMapsInverse, KeepsInverse, msg, iff_true, removed, kept]
    exact inverse
  · rename_i action msg
    simp only [updateOwnership, bind_eq_ok, pure_eq_ok, Prod.mk.injEq] at ok
    obtain ⟨_, ⟨_, _, rfl⟩, rfl, _⟩ := ok
    rw [KeepsInverse, msg]
    exact iff_true_intro inverse

/-- In all states of a run the two maps are inverse, exactly when no update of the run leaves
    half of a pair. -/
theorem asset_maps_inverse_iff {address : Addr} {addrValidate : String → Except StdError Addr}
    {msg : InstantiateMsg} {start : AnsState}
    (instantiated : instantiate address addrValidate msg = .ok start) (inputs : List Input) :
    (∀ seen, seen <+: inputs → AssetMapsInverse (run execute start seen)) ↔
      Along execute (fun s i => (∃ p, execute i s = .ok p) → KeepsInverse i s) start inputs := by
  apply invariant_iff_along (fun _ _ _ _ held ok => execute_inverse held ok)
  simp only [instantiate, bind_eq_ok, mapError_eq_ok, pure_eq_ok] at instantiated
  obtain ⟨_, _, rfl⟩ := instantiated
  intro a b
  simp

end AssetNames

section AssetNamesSample

attribute [local instance] releaseCrates

def sampleInput (msg : ExecuteMsg) : Input where
  addrValidate text := .ok ⟨text⟩
  block := { height := 1, time := 1 }
  sender := ⟨"adm"⟩
  msg

/-- A new name service of the admin `adm`. -/
def sampleStart : AnsState where
  address := ⟨"ans"⟩
  assetAddresses := ∅
  revAssetAddresses := ∅
  assetPairings := ∅
  registeredDexes := some []
  poolMetadata := ∅
  nextUniquePoolId := 1
  ownership := some ⟨"adm"⟩

theorem instantiate_sample :
    instantiate ⟨"ans"⟩ (fun text => .ok ⟨text⟩) { admin := "adm" } = .ok sampleStart :=
  rfl

/-- The update adds one name for a native token. -/
def nameToken (name denom : String) : Input :=
  sampleInput (.UpdateAssetAddresses [(name, .Native denom)] [])

theorem keepsInverse_nameToken : KeepsInverse (nameToken "Juno" "ujuno") sampleStart := by
  have adds : checkedAdds (nameToken "Juno" "ujuno") [("Juno", .Native "ujuno")] =
      [(assetEntry "Juno", .Native "ujuno")] := rfl
  show KeepsPairs ∅ (checkedAdds _ _) _
  rw [adds]
  refine ⟨by simp, fun name asset last => .inl ⟨by simp, fun other => ?_, by simp⟩⟩
  obtain ⟨rfl, rfl⟩ : asset = .Native "ujuno" ∧ name = assetEntry "Juno" := by
    simpa [swapped] using mem_of_lastWritten last
  constructor
  · intro stands
    simpa using mem_of_lastWritten stands
  · rintro rfl
    simp [lastWritten]

theorem asset_maps_inverse_iff_juno :
    AssetMapsInverse (run execute sampleStart [nameToken "Juno" "ujuno"]) :=
  (asset_maps_inverse_iff instantiate_sample [nameToken "Juno" "ujuno"]).mpr
    ⟨fun _ => keepsInverse_nameToken, trivial⟩ _ List.prefix_rfl

/-- When a name is pointed to another token, the first one keeps the name. -/
theorem asset_maps_not_inverse :
    instantiate ⟨"ans"⟩ (fun text => .ok ⟨text⟩) { admin := "adm" } = .ok sampleStart ∧
      ¬ AssetMapsInverse
        (run execute sampleStart [nameToken "juno" "ujuno", nameToken "juno" "ubjuno"]) := by
  refine ⟨rfl, fun inverse => ?_⟩
  have stale := (inverse "juno" (.Native "ujuno")).mpr (by decide +kernel)
  revert stale
  decide +kernel

end AssetNamesSample

end AbstractFramework.Ans
