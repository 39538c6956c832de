import AbstractFramework.Dex.AnsActions

/-! # Both resolutions of an action

When the adapter and a client resolve an action to the same message.  Each side is brought to
the lookups that it makes; the messages then agree when the lookups do.
-/

namespace AbstractFramework.Dex

open AbstractFramework Fallible Sdk Ans Platforms Voting

/-- Neither side panics, and both produce the same message or none. -/
def SameResolution (onChain : Except ResolveError DexExecuteMsg)
    (client : Except ClientError DexExecuteMsg) : Prop :=
  Agree (fun e => e.isPanic = true) (fun e => e.isPanic = true) onChain client

/-! ## Unchecked values -/

theorem asStr_inj {addr addr' : Addr} : addr.asStr = addr'.asStr ↔ addr = addr' := by
  cases addr
  cases addr'
  simp

theorem uncheckedInfo_inj {info info' : AssetInfo} :
    uncheckedInfo info = uncheckedInfo info' ↔ info = info' := by
  cases info <;> cases info' <;> simp [uncheckedInfo, asStr_inj]

theorem uncheckedAsset_inj {asset asset' : Asset} :
    uncheckedAsset asset = uncheckedAsset asset' ↔ asset = asset' := by
  cases asset
  cases asset'
  simp [uncheckedAsset, uncheckedInfo_inj]

theorem uncheckedPool_inj {pool pool' : PoolAddress} :
    uncheckedPool pool = uncheckedPool pool' ↔ pool = pool' := by
  cases pool <;> cases pool' <;> simp [uncheckedPool, asStr_inj]

/-! ## What the two sides look up -/

section Lookups

variable {ans : AnsHost} {dex : DexName} {assetX assetY : AssetEntry}

/-- What the name service knows under a name. -/
def infoOf (ans : AnsHost) (name : AssetEntry) : Option AssetInfo := ans.assetAddresses.lookup name

/-- What it knows under a name in lower case. -/
def lowerInfoOf (ans : AnsHost) (name : AssetEntry) : Option AssetInfo :=
  infoOf ans (toAsciiLowercase name)

/-- The pools of a pair on a dex. -/
def poolsOf (ans : AnsHost) (dex : DexName) (assetX assetY : AssetEntry) :
    Option (List PoolReference) :=
  ans.assetPairings.lookup (.new assetX assetY dex)

/-- The pools of a pair under the name of the dex on its chain. -/
def localPoolsOf (ans : AnsHost) (dex : DexName) (assetX assetY : AssetEntry) :
    Option (List PoolReference) :=
  poolsOf ans (decomposePlatformName dex).2 assetX assetY

def lastAddress (pools : Option (List PoolReference)) : Option PoolAddress :=
  (pools.bind List.getLast?).map PoolReference.poolAddress

def firstAddress (pools : Option (List PoolReference)) : Option PoolAddress :=
  (pools.bind List.head?).map PoolReference.poolAddress

/-- How a client fails without a pool. -/
def withoutPool : Option (List PoolReference) → ClientError
  | none => .Std (.notFound "Vec<PoolReference>")
  | some _ => .Panicked "swap_remove index (is 0) should be < len (is 0)"

theorem queryAsset_eq (name : AssetEntry) :
    ans.queryAsset name = okOr (infoOf ans name) (.AssetNotFound name ans.address) := rfl

theorem resolveAnsAsset_eq (asset : AnsAsset) :
    ans.resolveAnsAsset asset =
      okOr ((infoOf ans asset.name).map fun info => { info, amount := asset.amount })
        (.AssetNotFound asset.name ans.address) := by
  simp only [AnsHost.resolveAnsAsset, AnsHost.queryAsset, infoOf]
  cases ans.assetAddresses.lookup asset.name <;> rfl

theorem clientResolveEntry_eq (entry : AssetEntry) :
    clientResolveEntry ans entry = okOr (lowerInfoOf ans entry) (.Std (.notFound "AssetInfo")) := by
  simp only [clientResolveEntry, AnsHost.queryAssets, List.mapM_cons, List.mapM_nil, lowerInfoOf,
    infoOf]
  cases ans.assetAddresses.lookup (toAsciiLowercase entry) <;> rfl

theorem clientResolveAsset_eq (asset : AnsAsset) :
    clientResolveAsset ans asset =
      okOr ((lowerInfoOf ans asset.name).map fun info => { info, amount := asset.amount })
        (.Std (.notFound "AssetInfo")) := by
  rw [clientResolveAsset, clientResolveEntry_eq]
  cases lowerInfoOf ans asset.name <;> rfl

/-- On chain, the last pool is taken. -/
theorem poolAddress_eq :
    poolAddress ans dex (assetX, assetY) =
      okOr (lastAddress (poolsOf ans dex assetX assetY))
        (.DexPairingNotFound (.new assetX assetY dex) ans.address) := by
  simp only [poolAddress, AnsHost.queryAssetPairing, lastAddress, poolsOf]
  cases ans.assetPairings.lookup (.new assetX assetY dex) with
  | none => rfl
  | some pools =>
    simp only [okOr, ok_bind, Option.bind_some]
    cases pools.getLast? <;> rfl

/-- In a client, the first pool is taken, and a list without pools is not expected. -/
theorem clientPoolAddress_eq :
    clientPoolAddress ans dex (assetX, assetY) =
      okOr (firstAddress (localPoolsOf ans dex assetX assetY))
        (withoutPool (localPoolsOf ans dex assetX assetY)) := by
  simp only [clientPoolAddress, AnsHost.queryPoolEntries, List.mapM_cons, List.mapM_nil,
    localPoolsOf, poolsOf]
  cases ans.assetPairings.lookup (.new assetX assetY (decomposePlatformName dex).2) with
  | none => rfl
  | some pools => cases pools <;> rfl

theorem clientResolvePairing_eq (pairing : DexAssetPairing) :
    clientResolvePairing ans pairing =
      okOr (ans.assetPairings.lookup pairing) (.Std (.notFound "Vec<PoolReference>")) := by
  have stored : ans.assetPairings.lookup (.new pairing.assetX pairing.assetY pairing.dex) =
      ans.assetPairings.lookup pairing := by rw [DexAssetPairing.new_self]
  simp only [clientResolvePairing, AnsHost.listPoolEntries, Option.bind_some, stored]
  cases ans.assetPairings.lookup pairing <;> rfl

end Lookups

/-! ## One message from two pools -/

section Pools

variable {ans : AnsHost} {dex : DexName} {assetX assetY : AssetEntry}
  {message message' : PoolAddress → DexExecuteMsg} {e : ResolveError} {e' : ClientError}

/-- The message that the pool goes into, on chain. -/
def withPool (ans : AnsHost) (dex : DexName) (assetX assetY : AssetEntry)
    (message : PoolAddress → DexExecuteMsg) : Except ResolveError DexExecuteMsg := do
  let pool ← (poolAddress ans dex (assetX, assetY)).mapError ResolveError.AnsHost
  return message pool

/-- The message that the pool goes into, in a client. -/
def withClientPool (ans : AnsHost) (dex : DexName) (assetX assetY : AssetEntry)
    (message : PoolAddress → DexExecuteMsg) : Except ClientError DexExecuteMsg := do
  let pool ← clientPoolAddress ans dex (assetX, assetY)
  return message pool

theorem withPool_eq :
    withPool ans dex assetX assetY message =
      okOr ((lastAddress (poolsOf ans dex assetX assetY)).map message)
        (.AnsHost (.DexPairingNotFound (.new assetX assetY dex) ans.address)) := by
  rw [withPool, poolAddress_eq]
  cases lastAddress (poolsOf ans dex assetX assetY) <;> rfl

theorem withClientPool_eq :
    withClientPool ans dex assetX assetY message =
      okOr ((firstAddress (localPoolsOf ans dex assetX assetY)).map message)
        (withoutPool (localPoolsOf ans dex assetX assetY)) := by
  rw [withClientPool, clientPoolAddress_eq]
  cases firstAddress (localPoolsOf ans dex assetX assetY) <;> rfl

theorem firstAddress_eq_none {pools : Option (List PoolReference)} :
    firstAddress pools = none ↔ pools = none ∨ pools = some [] := by
  rcases pools with _ | _ | ⟨first, rest⟩ <;> simp [firstAddress]

theorem withPool_agree :
    SameResolution (withPool ans dex assetX assetY message)
        (withClientPool ans dex assetX assetY message') ↔
      localPoolsOf ans dex assetX assetY ≠ some [] ∧
        (lastAddress (poolsOf ans dex assetX assetY)).map message =
          (firstAddress (localPoolsOf ans dex assetX assetY)).map message' := by
  rw [withPool_eq, withClientPool_eq, SameResolution]
  rcases localPoolsOf ans dex assetX assetY with _ | _ | ⟨first, rest⟩
  · rw [agree_okOr (by simp [ResolveError.isPanic]) (by simp [withoutPool, ClientError.isPanic])]
    simp
  · cases lastAddress (poolsOf ans dex assetX assetY) <;>
      simp [firstAddress, withoutPool, okOr, ClientError.isPanic]
  · cases lastAddress (poolsOf ans dex assetX assetY) <;> simp [firstAddress, okOr]

theorem withPool_agree_error (fails : e'.isPanic = false) :
    SameResolution (withPool ans dex assetX assetY message) (.error e') ↔
      lastAddress (poolsOf ans dex assetX assetY) = none := by
  rw [withPool_eq, SameResolution]
  cases lastAddress (poolsOf ans dex assetX assetY) <;> simp [okOr, fails, ResolveError.isPanic]

theorem error_agree_withClientPool (fails : e.isPanic = false) :
    SameResolution (.error e) (withClientPool ans dex assetX assetY message') ↔
      localPoolsOf ans dex assetX assetY = none := by
  rw [withClientPool_eq, SameResolution]
  rcases localPoolsOf ans dex assetX assetY with _ | _ | ⟨first, rest⟩ <;>
    simp [firstAddress, withoutPool, okOr, fails, ClientError.isPanic]

end Pools

/-! ## When they agree -/

/-- The name service knows all the names. -/
def Known (find : AssetEntry → Option AssetInfo) (assets : List AnsAsset) : Prop :=
  ∀ asset ∈ assets, ∃ info, find asset.name = some info

/-- For a swap, the last pool under the full name of the dex is the first one under its local
    name, where the list is not empty.  Adding liquidity, the names are also known as they are
    in lower case, and there are two of them.  A liquidity token with one pool is known as it is
    in lower case. -/
def ResolvesAlike (ans : AnsHost) (dex : DexName) : DexAnsAction → Prop
  | .ProvideLiquidity (x :: y :: assets) _ =>
    (Known (lowerInfoOf ans) (x :: y :: assets) → localPoolsOf ans dex x.name y.name ≠ some []) ∧
      (Known (infoOf ans) (x :: y :: assets) ∧ lastAddress (poolsOf ans dex x.name y.name) ≠ none ∨
          Known (lowerInfoOf ans) (x :: y :: assets) ∧
            firstAddress (localPoolsOf ans dex x.name y.name) ≠ none →
        (∀ asset ∈ x :: y :: assets, infoOf ans asset.name = lowerInfoOf ans asset.name) ∧
          lastAddress (poolsOf ans dex x.name y.name) =
            firstAddress (localPoolsOf ans dex x.name y.name))
  | .ProvideLiquidity assets _ =>
    ¬ Known (infoOf ans) assets ∧ ¬ Known (lowerInfoOf ans) assets
  | .WithdrawLiquidity token =>
    ∀ pairing pool, (lpToken token.name >>= dexAssetPairing) = .ok pairing →
      ans.assetPairings.lookup pairing = some [pool] →
        infoOf ans token.name = lowerInfoOf ans token.name
  | .Swap offerAsset askAsset _ _ =>
    let offer := toAsciiLowercase offerAsset.name
    let ask := toAsciiLowercase askAsset
    (∃ info, infoOf ans offer = some info) → (∃ info, infoOf ans ask = some info) →
      localPoolsOf ans dex offer ask ≠ some [] ∧
        lastAddress (poolsOf ans dex offer ask) = firstAddress (localPoolsOf ans dex offer ask)

section Agreement

variable {ans : AnsHost} {dex : DexName} {maxSpread beliefPrice : Option Decimal}

theorem swap_agree {offerAsset : AnsAsset} {askAsset : AssetEntry} :
    SameResolution
        (WholeDexAction.resolve ans
          { dex, action := .Swap offerAsset askAsset maxSpread beliefPrice })
        (WholeDexAction.clientResolve ans
          { dex, action := .Swap offerAsset askAsset maxSpread beliefPrice }) ↔
      ResolvesAlike ans dex (.Swap offerAsset askAsset maxSpread beliefPrice) := by
  have lowered (name : AssetEntry) :
      lowerInfoOf ans (toAsciiLowercase name) = infoOf ans (toAsciiLowercase name) := by
    rw [lowerInfoOf, toAsciiLowercase_idem]
  simp only [WholeDexAction.resolve, WholeDexAction.clientResolve, resolveSwap, queryAsset_eq,
    clientResolveEntry_eq, lowered, ResolvesAlike]
  generalize toAsciiLowercase offerAsset.name = offer
  generalize toAsciiLowercase askAsset = ask
  cases infoOf ans offer with
  | none => simp [SameResolution, okOr, error_bind, Except.mapError, ResolveError.isPanic,
      ClientError.isPanic]
  | some offerInfo =>
    cases infoOf ans ask with
    | none => simp [SameResolution, okOr, ok_bind, error_bind, Except.mapError,
        ResolveError.isPanic, ClientError.isPanic]
    | some askInfo =>
      let message (pool : PoolAddress) : DexExecuteMsg :=
        .Action dex (.Swap (uncheckedPool pool)
          (uncheckedAsset { info := offerInfo, amount := offerAsset.amount })
          (uncheckedInfo askInfo) maxSpread beliefPrice)
      have injective : Function.Injective message := by
        intro pool pool' same
        simpa [message, uncheckedPool_inj] using same
      have agree : SameResolution (withPool ans dex offer ask message)
          (withClientPool ans dex offer ask message) ↔ _ := withPool_agree
      rw [(Option.map_injective injective).eq_iff] at agree
      simp only [okOr, ok_bind, Option.some.injEq, exists_eq', forall_const]
      rw [← agree]
      simp only [withPool, withClientPool]
      cases poolAddress ans dex (offer, ask) <;> rfl

/-- The parts of a liquidity token are enough for a pairing. -/
theorem lpPairing_fails {entry : AssetEntry} {e : ResolveError}
    (h : (lpToken entry >>= dexAssetPairing) = .error e) : e.isPanic = false := by
  have avoids : Avoids (fun e => e.isPanic = true) (lpToken entry >>= dexAssetPairing) := by
    apply Avoids.bind
    · unfold lpToken
      split
      · refine (avoids_ensure ?_).bind fun _ _ => avoids_pure _
        simp [ResolveError.isPanic]
      · exact avoids_error (by simp [ResolveError.isPanic])
    · intro token parsed
      have two : 2 ≤ (sortEntries token.assets).length := by
        unfold lpToken at parsed
        split at parsed
        · simp only [bind_eq_ok, ensure_eq_ok, pure_eq_ok] at parsed
          obtain ⟨_, two, rfl⟩ := parsed
          simpa [sortEntries] using two
        · cases parsed
      rcases sorted : sortEntries token.assets with _ | ⟨assetX, _ | ⟨assetY, rest⟩⟩
      · simp [sorted] at two
      · simp [sorted] at two
      · simp only [dexAssetPairing, sorted]
        exact avoids_ok _
  simpa using avoids e h

/-- The only pool of a liquidity token, on chain. -/
def lpPool (ans : AnsHost) (entry : AssetEntry) : Except ResolveError PoolReference := do
  let lpPairing ← lpToken entry >>= dexAssetPairing
  let poolIds ← (ans.queryAssetPairing lpPairing).mapError ResolveError.AnsHost
  onlyPool (fun text => .AnsHost (.QueryFailed "lp_pairing.resolve" (.msg text))) poolIds

/-- The only pool of a liquidity token, in a client. -/
def clientLpPool (ans : AnsHost) (entry : AssetEntry) : Except ClientError PoolReference := do
  let lpPairing ← (lpToken entry >>= dexAssetPairing).mapError ClientError.AnsHost
  let poolIds ← clientResolvePairing ans lpPairing
  onlyPool .Anyhow poolIds

theorem onlyPool_eq_ok {ε : Type} {fails : String → ε} {pools : List PoolReference}
    {pool : PoolReference} : onlyPool fails pools = .ok pool ↔ pools = [pool] := by
  rcases pools with _ | ⟨first, _ | ⟨second, rest⟩⟩ <;> simp [onlyPool]

theorem lpPool_eq_ok {entry : AssetEntry} {pool : PoolReference} :
    lpPool ans entry = .ok pool ↔
      ∃ pairing, (lpToken entry >>= dexAssetPairing) = .ok pairing ∧
        ans.assetPairings.lookup pairing = some [pool] := by
  unfold lpPool
  generalize lpToken entry >>= dexAssetPairing = parsed
  simp only [AnsHost.queryAssetPairing, bind_eq_ok, mapError_eq_ok, okOr_eq_ok, onlyPool_eq_ok]
  constructor
  · rintro ⟨pairing, isPairing, _, found, rfl⟩
    exact ⟨pairing, isPairing, found⟩
  · rintro ⟨pairing, isPairing, found⟩
    exact ⟨pairing, isPairing, [pool], found, rfl⟩

theorem lpPool_agree {entry : AssetEntry} :
    Agree (fun e => e.isPanic = true) (fun e => e.isPanic = true) (lpPool ans entry)
      (clientLpPool ans entry) := by
  simp only [lpPool, clientLpPool, clientResolvePairing_eq, AnsHost.queryAssetPairing]
  cases parsed : lpToken entry >>= dexAssetPairing with
  | error e =>
    have fails := lpPairing_fails parsed
    simp [Except.mapError, error_bind, ClientError.isPanic, fails]
  | ok pairing =>
    simp only [Except.mapError, ok_bind]
    rcases ans.assetPairings.lookup pairing with _ | _ | ⟨pool, _ | ⟨second, rest⟩⟩ <;>
      simp [okOr, ok_bind, error_bind, onlyPool, ResolveError.isPanic, ClientError.isPanic]

theorem withAmount_injective (amount : Nat) :
    Function.Injective fun info : AssetInfo => ({ info, amount } : Asset) := by
  intro info info' same
  exact congrArg Asset.info same

theorem withdraw_agree {token : AnsAsset} :
    SameResolution
        (WholeDexAction.resolve ans { dex, action := .WithdrawLiquidity token })
        (WholeDexAction.clientResolve ans { dex, action := .WithdrawLiquidity token }) ↔
      ResolvesAlike ans dex (.WithdrawLiquidity token) := by
  let message (lpAsset : Asset) (pool : PoolReference) : DexExecuteMsg :=
    .Action dex (.WithdrawLiquidity (uncheckedPool pool.poolAddress) (uncheckedAsset lpAsset))
  have injective : ∀ pool, Function.Injective fun lpAsset => message lpAsset pool := by
    intro pool asset asset' same
    simpa [message, uncheckedAsset_inj] using same
  have onChain : WholeDexAction.resolve ans { dex, action := .WithdrawLiquidity token } =
      okOr ((infoOf ans token.name).map fun info => { info, amount := token.amount })
          (.AnsHost (.AssetNotFound token.name ans.address)) >>= fun lpAsset =>
        lpPool ans token.name >>= fun pool => pure (message lpAsset pool) := by
    simp only [WholeDexAction.resolve, resolveAnsAsset_eq, mapError_okOr, lpPool, bind_assoc, message]
  have client : WholeDexAction.clientResolve ans { dex, action := .WithdrawLiquidity token } =
      okOr ((lowerInfoOf ans token.name).map fun info => { info, amount := token.amount })
          (.Std (.notFound "AssetInfo")) >>= fun lpAsset =>
        clientLpPool ans token.name >>= fun pool => pure (message lpAsset pool) := by
    simp only [WholeDexAction.clientResolve, clientResolveAsset_eq, clientLpPool, bind_assoc, message]
  rw [SameResolution, onChain, client, agree_okOr_bind (by simp [ResolveError.isPanic])
    (by simp [ClientError.isPanic]) injective lpPool_agree]
  rw [(Option.map_injective (withAmount_injective token.amount)).eq_iff]
  simp only [lpPool_eq_ok, ResolvesAlike]
  constructor
  · intro alike pairing pool parsed found
    exact alike pool ⟨pairing, parsed, found⟩
  · rintro alike pool ⟨pairing, parsed, found⟩
    exact alike pairing pool parsed found

/-- Resolving the assets succeeds when all the names are known. -/
theorem mapM_known {ε : Type} {find : AssetEntry → Option AssetInfo} {e : AnsAsset → ε}
    {resolve : AnsAsset → Except ε Asset} (assets : List AnsAsset)
    (h : ∀ asset, resolve asset =
      okOr ((find asset.name).map fun info => { info, amount := asset.amount }) (e asset)) :
    (∃ out, assets.mapM resolve = .ok out) ↔ Known find assets := by
  rw [mapM_succeeds]
  simp [Known, h]

theorem Known.congr {find find' : AssetEntry → Option AssetInfo} {assets : List AnsAsset}
    (known : Known find assets) (same : ∀ asset ∈ assets, find asset.name = find' asset.name) :
    Known find' assets := by
  intro asset listed
  obtain ⟨info, found⟩ := known asset listed
  exact ⟨info, (same asset listed).symm.trans found⟩

/-- The resolved assets are the same when the names are known as the same. -/
theorem mapM_known_same {ε ε' : Type} {find find' : AssetEntry → Option AssetInfo}
    {e : AnsAsset → ε} {e' : AnsAsset → ε'} {resolve : AnsAsset → Except ε Asset}
    {resolve' : AnsAsset → Except ε' Asset} {assets : List AnsAsset} {out out' : List Asset}
    (h : ∀ asset, resolve asset =
      okOr ((find asset.name).map fun info => { info, amount := asset.amount }) (e asset))
    (h' : ∀ asset, resolve' asset =
      okOr ((find' asset.name).map fun info => { info, amount := asset.amount }) (e' asset))
    (mapped : assets.mapM resolve = .ok out) (mapped' : assets.mapM resolve' = .ok out') :
    out = out' ↔ ∀ asset ∈ assets, find asset.name = find' asset.name := by
  rw [mapM_same_iff mapped mapped']
  refine forall₂_congr fun asset _ => ?_
  simp only [h, h', okOr_eq_ok]
  rw [← (Option.map_injective (withAmount_injective asset.amount)).eq_iff]
  constructor
  · exact Option.ext
  · intro same y
    rw [same]

theorem clientResolveAsset_fails {asset : AnsAsset} {e : ClientError}
    (h : clientResolveAsset ans asset = .error e) : e.isPanic = false := by
  rw [clientResolveAsset_eq] at h
  cases found : lowerInfoOf ans asset.name with
  | none =>
    rw [found] at h
    cases h
    rfl
  | some info =>
    rw [found] at h
    cases h

/-- With fewer than two assets, a side panics when all of them are known. -/
theorem provide_few {assets : List AnsAsset} (few : assets.length < 2) :
    SameResolution
        (WholeDexAction.resolve ans { dex, action := .ProvideLiquidity assets maxSpread })
        (WholeDexAction.clientResolve ans { dex, action := .ProvideLiquidity assets maxSpread }) ↔
      ¬ Known (infoOf ans) assets ∧ ¬ Known (lowerInfoOf ans) assets := by
  have one : ∃ text, removeTwo ((assets.map (·.name)).take 2) = .error text := by
    rcases assets with _ | ⟨x, _ | ⟨y, rest⟩⟩
    · exact ⟨_, rfl⟩
    · exact ⟨_, rfl⟩
    · simp only [List.length_cons] at few
      omega
  obtain ⟨text, one⟩ := one
  rw [← mapM_known assets resolveAnsAsset_eq, ← mapM_known assets clientResolveAsset_eq]
  simp only [SameResolution, WholeDexAction.resolve, WholeDexAction.clientResolve, one]
  rcases mapM_cases ans.resolveAnsAsset assets with ⟨out, mapped⟩ | ⟨_, _, e, _, mapped⟩ <;>
    rcases mapM_cases (clientResolveAsset ans) assets with
      ⟨out', mapped'⟩ | ⟨_, _, e', fails', mapped'⟩
  · simp [mapped, mapped', Except.mapError, ok_bind, error_bind, ResolveError.isPanic]
  · simp [mapped, mapped', Except.mapError, ok_bind, error_bind, ResolveError.isPanic]
  · simp [mapped, mapped', Except.mapError, ok_bind, error_bind, ClientError.isPanic]
  · simp [mapped, mapped', Except.mapError, error_bind, ResolveError.isPanic,
      clientResolveAsset_fails fails']

def provideMessage (dex : DexName) (maxSpread : Option Decimal) (out : List Asset)
    (pool : PoolAddress) : DexExecuteMsg :=
  .Action dex (.ProvideLiquidity (uncheckedPool pool) (out.map uncheckedAsset) maxSpread)

/-- Two messages are the same, or there is none, when the assets and the pools are the same. -/
theorem provideMessage_map {last first : Option PoolAddress} {out out' : List Asset} :
    last.map (provideMessage dex maxSpread out) = first.map (provideMessage dex maxSpread out') ↔
      (last ≠ none ∨ first ≠ none → out = out' ∧ last = first) := by
  have assets : out.map uncheckedAsset = out'.map uncheckedAsset ↔ out = out' :=
    (List.map_injective_iff.mpr fun _ _ => uncheckedAsset_inj.mp).eq_iff
  cases last <;> cases first <;>
    simp [provideMessage, uncheckedPool_inj, assets, and_comm]

theorem provide_two {x y : AnsAsset} {assets : List AnsAsset} :
    SameResolution
        (WholeDexAction.resolve ans
          { dex, action := .ProvideLiquidity (x :: y :: assets) maxSpread })
        (WholeDexAction.clientResolve ans
          { dex, action := .ProvideLiquidity (x :: y :: assets) maxSpread }) ↔
      ResolvesAlike ans dex (.ProvideLiquidity (x :: y :: assets) maxSpread) := by
  have onChain : WholeDexAction.resolve ans
        { dex, action := .ProvideLiquidity (x :: y :: assets) maxSpread } =
      ((x :: y :: assets).mapM ans.resolveAnsAsset).mapError ResolveError.AnsHost >>= fun out =>
        withPool ans dex x.name y.name (provideMessage dex maxSpread out) := rfl
  have client : WholeDexAction.clientResolve ans
        { dex, action := .ProvideLiquidity (x :: y :: assets) maxSpread } =
      (x :: y :: assets).mapM (clientResolveAsset ans) >>= fun out =>
        withClientPool ans dex x.name y.name (provideMessage dex maxSpread out) := rfl
  rw [onChain, client]
  simp only [ResolvesAlike]
  have known := mapM_known (x :: y :: assets) (@resolveAnsAsset_eq ans)
  have knownLower := mapM_known (x :: y :: assets) (@clientResolveAsset_eq ans)
  generalize x :: y :: assets = all at *
  rcases mapM_cases ans.resolveAnsAsset all with ⟨out, mapped⟩ | ⟨_, _, e, _, mapped⟩ <;>
    rcases mapM_cases (clientResolveAsset ans) all with
      ⟨out', mapped'⟩ | ⟨_, _, e', fails', mapped'⟩ <;>
    simp only [mapped, mapped'] at known knownLower ⊢
  · have isKnown := known.mp ⟨out, rfl⟩
    have isLower := knownLower.mp ⟨out', rfl⟩
    rw [← mapM_known_same resolveAnsAsset_eq clientResolveAsset_eq mapped mapped']
    simp only [Except.mapError, ok_bind, withPool_agree, provideMessage_map, isKnown, isLower,
      true_and, forall_const]
  · have isKnown := known.mp ⟨out, rfl⟩
    have notLower : ¬ Known (lowerInfoOf ans) all := by simp [← knownLower]
    simp only [Except.mapError, ok_bind, error_bind,
      withPool_agree_error (clientResolveAsset_fails fails'), isKnown, notLower, false_implies,
      true_and, false_and, or_false]
    constructor
    · intro none some
      exact absurd none some
    · intro alike
      by_contra some
      exact notLower (isKnown.congr (alike some).1)
  · have notKnown : ¬ Known (infoOf ans) all := by simp [← known]
    have isLower := knownLower.mp ⟨out', rfl⟩
    have fails : (ResolveError.AnsHost e).isPanic = false := rfl
    simp only [Except.mapError, ok_bind, error_bind, error_agree_withClientPool fails, notKnown,
      isLower, forall_const, true_and, false_and, false_or]
    constructor
    · intro none
      simp [none, firstAddress]
    · rintro ⟨notEmpty, alike⟩
      by_contra some
      have first : firstAddress (localPoolsOf ans dex x.name y.name) ≠ none := by
        simp [firstAddress_eq_none, some, notEmpty]
      exact notKnown (isLower.congr fun asset listed => ((alike first).1 asset listed).symm)
  · have notKnown : ¬ Known (infoOf ans) all := by simp [← known]
    have notLower : ¬ Known (lowerInfoOf ans) all := by simp [← knownLower]
    simp [SameResolution, Except.mapError, error_bind, ResolveError.isPanic,
      clientResolveAsset_fails fails', notKnown, notLower]

theorem provide_agree {assets : List AnsAsset} :
    SameResolution
        (WholeDexAction.resolve ans { dex, action := .ProvideLiquidity assets maxSpread })
        (WholeDexAction.clientResolve ans { dex, action := .ProvideLiquidity assets maxSpread }) ↔
      ResolvesAlike ans dex (.ProvideLiquidity assets maxSpread) := by
  rcases assets with _ | ⟨x, _ | ⟨y, assets⟩⟩
  · exact provide_few (by simp)
  · exact provide_few (by simp)
  · exact provide_two

/-- The adapter and a client resolve an action to the same message, and neither panics, if
    what they look up is alike, and only then. -/
theorem same_resolution_iff (ans : AnsHost) (whole : WholeDexAction) :
    SameResolution (whole.resolve ans) (whole.clientResolve ans) ↔
      ResolvesAlike ans whole.dex whole.action := by
  obtain ⟨dex, action⟩ := whole
  cases action with
  | ProvideLiquidity assets maxSpread => exact provide_agree
  | WithdrawLiquidity token => exact withdraw_agree
  | Swap offerAsset askAsset maxSpread beliefPrice => exact swap_agree

end Agreement

/-! ## Two pools for one pair -/

def twoPools : AnsHost where
  address := ⟨"ans"⟩
  assetAddresses := Storage.insertAll ∅ [("juno", .Native "ujuno"), ("usd", .Native "uusd")]
  revAssetAddresses := ∅
  assetPairings := Storage.insertAll ∅ [(.new "juno" "usd" "wyndex",
    [{ uniqueId := 1, poolAddress := .Id 1 }, { uniqueId := 2, poolAddress := .Id 2 }])]
  registeredDexes := some ["wyndex"]

def swapJuno : WholeDexAction where
  dex := "wyndex"
  action := .Swap { name := "juno", amount := 5 } "usd" none none

def swapJunoMsg (pool : Nat) : DexExecuteMsg :=
  .Action "wyndex"
    (.Swap (.Id pool) { info := .Native "ujuno", amount := 5 } (.Native "uusd") none none)

theorem pools_from_different_ends :
    swapJuno.resolve twoPools = .ok (swapJunoMsg 2) ∧
      swapJuno.clientResolve twoPools = .ok (swapJunoMsg 1) ∧
      ¬ SameResolution (swapJuno.resolve twoPools) (swapJuno.clientResolve twoPools) := by
  have onChain : swapJuno.resolve twoPools = .ok (swapJunoMsg 2) := by decide +kernel
  have client : swapJuno.clientResolve twoPools = .ok (swapJunoMsg 1) := by decide +kernel
  refine ⟨onChain, client, ?_⟩
  rw [onChain, client, SameResolution, agree_ok_ok]
  decide

end AbstractFramework.Dex
