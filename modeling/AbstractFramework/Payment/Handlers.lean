import AbstractFramework.Lib.Timeline
import AbstractFramework.Payment.Commands

/-! # What the calls of the payment app do

One inversion of `exec`: a call that succeeds changes the config or is a tip.  A tip forwards
what it has received, splits it into what is swapped and what is kept, and adds to the
history.  The loop of the split is inverted one asset at a time.
-/

namespace AbstractFramework.Payment

open AbstractFramework Fallible Storage Voting Sdk Ans Snapshots

variable {s s' : PaymentStore} {c : Call} {r : Response} {deps : PaymentDeps}
variable {exchanges : List DexName} {desired : AssetEntry}

/-! ## What is received -/

/-- The token that a call brings. -/
def receipt (c : Call) : Option Asset :=
  match c.msg with
  | .Receive msg => some { info := .Cw20 c.info.sender, amount := msg.amount }
  | .Module _ => none

/-- What a call receives. -/
def received (c : Call) : List Asset :=
  c.info.funds.map Asset.ofCoin ++ (receipt c).toList.filter fun asset => asset.amount ≠ 0

/-- Who has sent a tip. -/
def tipper (c : Call) : Option Addr :=
  match c.msg with
  | .Module .Tip => some c.info.sender
  | .Module _ => none
  | .Receive msg => (c.deps.validate msg.sender).toOption

theorem depositedAssets_ok {assets : List Asset}
    (h : depositedAssets c.info (receipt c) = .ok assets) : assets = received c := by
  unfold depositedAssets at h
  unfold received
  cases brought : receipt c with
  | none =>
    rw [brought] at h
    simpa using (Except.ok.inj h).symm
  | some token =>
    rw [brought] at h
    have isToken : ∃ contract, token.info = .Cw20 contract := by
      unfold receipt at brought
      split at brought
      · obtain rfl := Option.some.inj brought
        exact ⟨_, rfl⟩
      · cases brought
    obtain ⟨contract, isToken⟩ := isToken
    have free : (c.info.funds.map Asset.ofCoin).find? (fun asset => asset.info = token.info) = none := by
      rw [List.find?_eq_none]
      intro asset listed
      obtain ⟨coin, -, rfl⟩ := List.mem_map.mp listed
      simp [Asset.ofCoin, isToken]
    have kept : (c.info.funds.map Asset.ofCoin).filter (fun asset => asset.amount ≠ 0) =
        c.info.funds.map Asset.ofCoin := by
      rw [List.filter_eq_self]
      intro asset listed
      obtain ⟨coin, paid, rfl⟩ := List.mem_map.mp listed
      exact decide_eq_true (Nat.pos_iff_ne_zero.mp (c.positive coin paid))
    simp only [addAsset, free, Except.ok.injEq, List.filter_append, kept] at h
    exact h.symm

/-! ## Swaps -/

/-- One of the exchanges lists pools of the two assets on the first page. -/
def OnFirstPage (ans : AnsHost) (exchanges : List DexName) (desired name : AssetEntry) : Prop :=
  ∃ e ∈ (ans.dexes desired name).take AnsHost.DEFAULT_LIMIT, e.2 ≠ [] ∧ e.1 ∈ exchanges

instance (ans : AnsHost) (exchanges : List DexName) (desired name : AssetEntry) :
    Decidable (OnFirstPage ans exchanges desired name) :=
  inferInstanceAs (Decidable (∃ e ∈ _, _))

/-- The asset is swapped. -/
def Swapped (ans : AnsHost) (exchanges : List DexName) (desired : AssetEntry) (asset : AnsAsset) :
    Prop :=
  asset.name ≠ desired ∧ OnFirstPage ans exchanges desired asset.name

instance (ans : AnsHost) (exchanges : List DexName) (desired : AssetEntry) :
    DecidablePred (Swapped ans exchanges desired) :=
  fun _ => inferInstanceAs (Decidable (_ ∧ _))

/-- The message that swaps an asset, and what the swap would return. -/
structure SwapSent (deps : PaymentDeps) (exchanges : List DexName) (desired : AssetEntry)
    (asset : AnsAsset) (adapter account : Addr) (swap : DexSwap) (returned : Nat) : Prop where
  exchange : swap.dex ∈ exchanges
  offer : deps.ans.assetAddresses.lookup (toAsciiLowercase asset.name) = some swap.offerAsset.info
  full : swap.offerAsset.amount = asset.amount
  ask : deps.ans.assetAddresses.lookup (toAsciiLowercase desired) = some swap.askAsset
  account : deps.account = .ok account
  adapter : deps.dexAdapter = .ok adapter
  simulated : deps.simulateSwap swap.dex asset desired = .ok returned

/-- One asset of the loop. -/
inductive Splits (deps : PaymentDeps) (exchanges : List DexName) (desired : AssetEntry)
    (split : Split) (asset : AnsAsset) : Split → Prop where
  | desired (same : asset.name = desired) :
      Splits deps exchanges desired split asset
        { split with desiredAssetAmount := split.desiredAssetAmount + asset.amount }
  | swapped (swapped : Swapped deps.ans exchanges desired asset) {adapter account : Addr}
      {swap : DexSwap} {returned : Nat}
      (sent : SwapSent deps exchanges desired asset adapter account swap returned) :
      Splits deps exchanges desired split asset
        { split with
          swapMsgs := split.swapMsgs ++ [.DexAction adapter account swap]
          attrs := split.attrs ++ [("swap", asset.name ++ " for " ++ desired)]
          desiredAssetAmount := split.desiredAssetAmount + returned }
  | kept (other : asset.name ≠ desired) (unswapped : ¬ Swapped deps.ans exchanges desired asset) :
      Splits deps exchanges desired split asset
        { split with assetsToAdd := split.assetsToAdd ++ [asset] }

theorem triggerSwap_ok {dex : DexName} {asset : AnsAsset} {msg : AppMsg}
    (h : triggerSwap deps dex asset desired = .ok msg) :
    ∃ adapter account swap, deps.account = .ok account ∧ deps.dexAdapter = .ok adapter ∧
      resolveSwap deps.ans dex asset desired (some (percent MAX_SPREAD_PERCENT)) none = .ok swap ∧
      msg = .DexAction adapter account swap := by
  simp only [triggerSwap, bind_eq_ok, pure_eq_ok, mapError_eq_ok] at h
  obtain ⟨swap, resolved, account, installed, adapter, found, rfl⟩ := h
  exact ⟨adapter, account, swap, installed, found, resolved, rfl⟩

/-- The name of a dex that is listed is in lower case. -/
theorem dex_of_listed {ans : AnsHost} {name assetX assetY : AssetEntry}
    {e : DexName × List PoolReference}
    (listed : e ∈ (ans.dexes desired name).take AnsHost.DEFAULT_LIMIT) :
    (DexAssetPairing.new assetX assetY e.1).dex = e.1 := by
  have stored := AnsHost.mem_dexes.mp (List.mem_of_mem_take listed)
  obtain ⟨pairing, -, rfl, rfl, same⟩ := stored
  rw [← same]
  exact pairing.lower

/-- The pair that is found is on an exchange that lists it on the first page. -/
theorem findPair_some {ans : AnsHost} {name : AssetEntry} {entry : AssetPairingMapEntry}
    (h : findPair exchanges (((ans.dexes desired name).take AnsHost.DEFAULT_LIMIT).map fun e =>
      (DexAssetPairing.new desired name e.1, e.2)) = some entry) :
    OnFirstPage ans exchanges desired name ∧ entry.1.dex ∈ exchanges := by
  have good := List.find?_some h
  simp only [decide_eq_true_eq] at good
  obtain ⟨e, listed, rfl⟩ := List.mem_map.mp (List.mem_of_find?_eq_some h)
  rw [dex_of_listed listed] at good
  refine ⟨⟨e, listed, good⟩, ?_⟩
  rw [dex_of_listed listed]
  exact good.2

theorem findPair_none {ans : AnsHost} {name : AssetEntry}
    (h : findPair exchanges (((ans.dexes desired name).take AnsHost.DEFAULT_LIMIT).map fun e =>
      (DexAssetPairing.new desired name e.1, e.2)) = none) :
    ¬ OnFirstPage ans exchanges desired name := by
  rintro ⟨e, listed, nonempty, trusted⟩
  have bad := List.find?_eq_none.mp h _ (List.mem_map_of_mem listed)
  simp only [decide_eq_true_eq, not_and, dex_of_listed listed] at bad
  exact bad nonempty trusted

theorem splitAsset_ok {split split' : Split} {asset : AnsAsset}
    (h : splitAsset deps exchanges desired split asset = .ok split') :
    Splits deps exchanges desired split asset split' := by
  unfold splitAsset at h
  split at h
  · rename_i same
    simp only [bind_eq_ok, pure_eq_ok, addChecked_eq_ok] at h
    obtain ⟨_, ⟨-, rfl⟩, rfl⟩ := h
    exact .desired same
  · rename_i other
    simp only [AnsHost.listPoolEntries_pair, bind_eq_ok, mapError_eq_ok, Except.ok.injEq] at h
    obtain ⟨_, rfl, h⟩ := h
    split at h
    · rename_i pair ids found
      simp only [bind_eq_ok, pure_eq_ok, mapError_eq_ok, addChecked_eq_ok] at h
      obtain ⟨msg, triggered, returned, simulated, _, ⟨-, rfl⟩, rfl⟩ := h
      obtain ⟨adapter, account, swap, installed, adapterFound, resolved, rfl⟩ :=
        triggerSwap_ok triggered
      obtain ⟨listed, trusted⟩ := findPair_some found
      obtain ⟨offer, full, ask, dex⟩ := resolveSwap_ok resolved
      refine .swapped ⟨other, listed⟩ ⟨?_, offer, full, ask, installed, adapterFound, ?_⟩
      · rw [dex]
        exact trusted
      · rw [dex]
        exact simulated
    · rename_i none
      obtain rfl := pure_eq_ok.mp h
      exact .kept other fun swapped => findPair_none none swapped.2

/-! ## The loop -/

/-- The amount of the assets of a name. -/
def amountOf (name : AssetEntry) (assets : List AnsAsset) : Nat :=
  (assets.map fun asset => if name = asset.name then asset.amount else 0).sum

/-- What the loop over the assets adds to the split. -/
structure Split.Adds (deps : PaymentDeps) (exchanges : List DexName) (desired : AssetEntry)
    (assets : List AnsAsset) (split split' : Split) (sent : List (AppMsg × Nat)) : Prop where
  msgs : split'.swapMsgs = split.swapMsgs ++ sent.map Prod.fst
  each : List.Forall₂ (fun asset x => ∃ adapter account swap, x.1 = .DexAction adapter account swap ∧
    SwapSent deps exchanges desired asset adapter account swap x.2)
    (assets.filter (Swapped deps.ans exchanges desired ·)) sent
  amount : split'.desiredAssetAmount =
    split.desiredAssetAmount + amountOf desired assets + (sent.map Prod.snd).sum
  kept : split'.assetsToAdd = split.assetsToAdd ++
    assets.filter fun asset => asset.name ≠ desired ∧ ¬ Swapped deps.ans exchanges desired asset

theorem splitAssets_ok {assets : List AnsAsset} {split split' : Split}
    (h : assets.foldlM (splitAsset deps exchanges desired) split = .ok split') :
    ∃ sent, Split.Adds deps exchanges desired assets split split' sent := by
  induction assets generalizing split with
  | nil =>
    obtain rfl := pure_eq_ok.mp h
    exact ⟨[], by simp, .nil, by simp [amountOf], by simp⟩
  | cons asset assets ih =>
    obtain ⟨middle, first, rest⟩ := foldlM_cons_eq_ok.mp h
    obtain ⟨sent, adds⟩ := ih rest
    cases splitAsset_ok first with
    | desired same =>
      have unswapped : ¬ Swapped deps.ans exchanges desired asset := fun swapped => swapped.1 same
      refine ⟨sent, adds.msgs, ?_, ?_, ?_⟩
      · simpa [List.filter_cons, unswapped] using adds.each
      · rw [adds.amount]
        simp only [amountOf, List.map_cons, List.sum_cons, if_pos same.symm]
        omega
      · simpa [List.filter_cons, same] using adds.kept
    | @swapped swapped adapter account swap returned ok =>
      refine ⟨(.DexAction adapter account swap, returned) :: sent, ?_, ?_, ?_, ?_⟩
      · simp [adds.msgs]
      · rw [List.filter_cons, if_pos (by simpa using swapped)]
        exact .cons ⟨adapter, account, swap, rfl, ok⟩ adds.each
      · rw [adds.amount]
        simp only [amountOf, List.map_cons, List.sum_cons, if_neg (Ne.symm swapped.1)]
        omega
      · simpa [List.filter_cons, swapped] using adds.kept
    | kept other unswapped =>
      refine ⟨sent, adds.msgs, ?_, ?_, ?_⟩
      · simpa [List.filter_cons, unswapped] using adds.each
      · rw [adds.amount]
        simp only [amountOf, List.map_cons, List.sum_cons, if_neg (Ne.symm other)]
        omega
      · simp [adds.kept, other, unswapped]

/-! ## The history -/

/-- What is added to the totals of a tipper. -/
def additions (sender : Addr) (assets : List AnsAsset) : List ((Addr × AssetEntry) × Nat) :=
  assets.map fun asset => ((sender, asset.name), asset.amount)

theorem updateTipperHistory_ok {sender : Addr} {assets : List AnsAsset} {height : Nat}
    (h : updateTipperHistory sender assets height s = .ok s') :
    ∃ count, s.tipCount = some count ∧ s' = { s with
      tipCount := some (count + 1)
      tipperCount := s.tipperCount.add sender 1 height
      tippers := s.tippers.addAll (additions sender assets) height } := by
  simp only [updateTipperHistory, bind_eq_ok, pure_eq_ok, okOr_eq_ok, addChecked_eq_ok] at h
  obtain ⟨count, counted, _, ⟨-, rfl⟩, _, ⟨-, rfl⟩, tippers, loop, rfl⟩ := h
  have totals := foldlM_eq_foldl
    (g := fun m (asset : AnsAsset) => m.add (sender, asset.name) asset.amount height) ?_ loop
  · refine ⟨count, counted, ?_⟩
    rw [totals, SnapshotMap.addAll, additions, List.foldl_map]
    rfl
  · intro m asset m' ok
    simp only [addToTotal, bind_eq_ok, pure_eq_ok, addChecked_eq_ok] at ok
    obtain ⟨_, ⟨-, rfl⟩, rfl⟩ := ok
    rfl

/-! ## Calls -/

/-- A tip that succeeds: it has forwarded what is received, named it, sent the swaps with what
    they would return, and added the assets to the history. -/
structure Tipped (c : Call) (s : PaymentStore) (config : Config) (sender account : Addr)
    (entries : List AnsAsset) (sent : List (AppMsg × Nat)) (recorded : List AnsAsset)
    (count : Nat) (s' : PaymentStore) (r : Response) : Prop where
  sentBy : tipper c = some sender
  installed : c.deps.account = .ok account
  configured : s.config = some config
  named : List.Forall₂ (fun asset entry => c.deps.ans.resolveAsset asset = .ok entry) (received c)
    entries
  msgs : r.messages = (received c).map (fun asset => .Transfer { asset, recipient := account }) ++
    sent.map Prod.fst
  unset : config.desiredAsset = none → sent = [] ∧ recorded = entries
  set : ∀ desired, config.desiredAsset = some desired → ∃ split,
    Split.Adds c.deps config.exchanges desired entries Split.new split sent ∧
      recorded = if split.desiredAssetAmount = 0 then split.assetsToAdd
        else split.assetsToAdd ++ [⟨desired, split.desiredAssetAmount⟩]
  counted : s.tipCount = some count
  written : s' = { s with
    tipCount := some (count + 1)
    tipperCount := s.tipperCount.add sender 1 c.deps.block.height
    tippers := s.tippers.addAll (additions sender recorded) c.deps.block.height }

/-- What a call that succeeds has found and written. -/
inductive Did (c : Call) (s : PaymentStore) : PaymentStore → Response → Prop where
  | tipped {config : Config} {sender account : Addr} {entries : List AnsAsset}
      {sent : List (AppMsg × Nat)} {recorded : List AnsAsset} {count : Nat} {s' : PaymentStore}
      {r : Response} (tipped : Tipped c s config sender account entries sent recorded count s' r) :
      Did c s s' r
  | configured (other : tipper c = none) (config : Config) {r : Response} :
      Did c s { s with config := some config } r

theorem tip_did (sender : Addr) (sent : tipper c = some sender)
    (h : tip c.deps { c.info with sender } (receipt c) s = .ok (s', r)) : Did c s s' r := by
  simp only [tip, loadConfig, deposit, bind_eq_ok, pure_eq_ok, mapError_eq_ok, okOr_eq_ok,
    mapM_eq_ok] at h
  obtain ⟨_, deposited, _, ⟨account, installed, rfl⟩, config, configured, entries, named, h⟩ := h
  obtain rfl := depositedAssets_ok (c := c) deposited
  cases wanted : config.desiredAsset with
  | none =>
    simp only [wanted, bind_eq_ok, pure_eq_ok, Prod.mk.injEq] at h
    obtain ⟨m, history, rfl, rfl⟩ := h
    obtain ⟨count, counted, written⟩ := updateTipperHistory_ok history
    refine .tipped (show Tipped c s config sender account entries [] entries count _ _ from ?_)
    exact {
      sentBy := sent
      installed
      configured
      named
      msgs := by simp [Function.comp_def]
      unset := fun _ => ⟨rfl, rfl⟩
      set := by simp [wanted]
      counted
      written }
  | some desired =>
    simp only [wanted, bind_eq_ok, pure_eq_ok, Prod.mk.injEq] at h
    obtain ⟨split, loop, m, history, rfl, rfl⟩ := h
    generalize isRecorded : (if split.desiredAssetAmount = 0 then split.assetsToAdd
      else split.assetsToAdd ++ [⟨desired, split.desiredAssetAmount⟩]) = recorded at history
    obtain ⟨count, counted, written⟩ := updateTipperHistory_ok history
    obtain ⟨swaps, adds⟩ := splitAssets_ok loop
    refine .tipped (show Tipped c s config sender account entries swaps recorded count _ _ from ?_)
    exact {
      sentBy := sent
      installed
      configured
      named
      msgs := by simp [adds.msgs, Split.new, Function.comp_def]
      unset := by simp [wanted]
      set := by
        intro desired' same
        obtain rfl := Option.some.inj (wanted.symm.trans same)
        exact ⟨split, adds, isRecorded.symm⟩
      counted
      written }

theorem exec_did (h : exec c s = .ok (s', r)) : Did c s s' r := by
  unfold exec at h
  cases msg : c.msg with
  | Module inner =>
    cases inner with
    | Tip =>
      simp only [msg, executeHandler] at h
      have brought : receipt c = none := by simp [receipt, msg]
      apply tip_did c.info.sender (by simp [tipper, msg])
      rw [brought]
      exact h
    | UpdateConfig desiredAsset denomAsset exchanges =>
      simp only [msg, executeHandler, updateConfig, bind_eq_ok, pure_eq_ok, Prod.mk.injEq] at h
      obtain ⟨_, -, config, -, _, -, _, -, rfl, rfl⟩ := h
      exact .configured (by simp [tipper, msg]) _
  | Receive token =>
    simp only [msg, receiveHandler, bind_eq_ok] at h
    obtain ⟨sender, valid, h⟩ := h
    have brought : receipt c = some { info := .Cw20 c.info.sender, amount := token.amount } := by
      simp [receipt, msg]
    apply tip_did sender (by simp [tipper, msg, valid, Except.toOption])
    rw [brought]
    exact h

def run (s : PaymentStore) (calls : List Call) : PaymentStore := Machine.run exec s calls

/-- A call that succeeded, with the state before it and its response. -/
abbrev Event := PaymentStore × Call × Response

def history (s : PaymentStore) (calls : List Call) : List Event := Machine.history exec s calls

/-- Block heights do not decrease. -/
def Ordered (calls : List Call) : Prop :=
  calls.Pairwise fun c c' => c.deps.block.height ≤ c'.deps.block.height

end AbstractFramework.Payment
