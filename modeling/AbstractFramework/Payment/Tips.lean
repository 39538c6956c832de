import AbstractFramework.Objects.AccountIdCodec
import AbstractFramework.Payment.Handlers

/-! # Tips

What a tip has to do and what is known of the tips afterwards.  Every received asset that is
not the desired one is to be swapped when the name service pairs the two on a trusted
exchange.  The app looks for the pair on the first page of the dexes only, and it asks for
the asset that now has the name of the received one.  It does what it has to exactly when
neither makes a difference.
-/

namespace AbstractFramework.Payment

open AbstractFramework Fallible Storage Voting Sdk Ans Snapshots

variable {s s' : PaymentStore} {c : Call} {r : Response} {deps : PaymentDeps} {ans : AnsHost}
variable {exchanges : List DexName} {desired : AssetEntry} {config : Config}

/-! ## What a tip has to do -/

/-- The name service holds a non-empty pairing of the two assets on one of the exchanges. -/
def Paired (ans : AnsHost) (exchanges : List DexName) (desired name : AssetEntry) : Prop :=
  ∃ pairing ids, ans.assetPairings.lookup pairing = some ids ∧ ids ≠ [] ∧ pairing.assetX = desired ∧
    pairing.assetY = name ∧ pairing.dex ∈ exchanges

theorem paired_iff {name : AssetEntry} :
    Paired ans exchanges desired name ↔
      ∃ e ∈ ans.dexes desired name, e.2 ≠ [] ∧ e.1 ∈ exchanges := by
  constructor
  · rintro ⟨pairing, ids, stored, nonempty, isDesired, isName, trusted⟩
    exact ⟨(pairing.dex, ids), AnsHost.mem_dexes.mpr ⟨pairing, stored, isDesired, isName, rfl⟩,
      nonempty, trusted⟩
  · rintro ⟨⟨dex, ids⟩, listed, nonempty, trusted⟩
    obtain ⟨pairing, stored, isDesired, isName, rfl⟩ := AnsHost.mem_dexes.mp listed
    exact ⟨pairing, ids, stored, nonempty, isDesired, isName, trusted⟩

instance (ans : AnsHost) (exchanges : List DexName) (desired name : AssetEntry) :
    Decidable (Paired ans exchanges desired name) :=
  decidable_of_iff _ paired_iff.symm

theorem OnFirstPage.paired {name : AssetEntry} (listed : OnFirstPage ans exchanges desired name) :
    Paired ans exchanges desired name := by
  obtain ⟨e, listed, good⟩ := listed
  exact paired_iff.mpr ⟨e, List.mem_of_mem_take listed, good⟩

/-- The received asset is to be swapped. -/
def Due (ans : AnsHost) (config : Config) (asset : Asset) : Prop :=
  ∃ desired ∈ config.desiredAsset, ∃ name ∈ ans.revAssetAddresses.lookup asset.info,
    name ≠ desired ∧ Paired ans config.exchanges desired name

instance (ans : AnsHost) (config : Config) : DecidablePred (Due ans config) :=
  fun _ => inferInstanceAs (Decidable (∃ desired ∈ _, _))

def AppMsg.transfer? : AppMsg → Option TransferMsg
  | .Transfer msg => some msg
  | .DexAction _ _ _ => none

/-- The account and the swap that is made in its name. -/
def AppMsg.swap? : AppMsg → Option (Addr × DexSwap)
  | .Transfer _ => none
  | .DexAction _ account swap => some (account, swap)

def transfers (r : Response) : List TransferMsg := r.messages.filterMap AppMsg.transfer?

def swaps (r : Response) : List (Addr × DexSwap) := r.messages.filterMap AppMsg.swap?

/-- The account swaps the whole asset for the desired one on one of the exchanges. -/
structure SwapOf (ans : AnsHost) (config : Config) (account : Addr) (asset : Asset)
    (swap : Addr × DexSwap) : Prop where
  account : swap.1 = account
  offer : swap.2.offerAsset = asset
  ask : ∃ desired, config.desiredAsset = some desired ∧
    ans.assetAddresses.lookup (toAsciiLowercase desired) = some swap.2.askAsset
  exchange : swap.2.dex ∈ config.exchanges

/-- What is received is forwarded to the account, and what is due is swapped. -/
def Handled (s : PaymentStore) (c : Call) (r : Response) : Prop :=
  ∃ account config, c.deps.account = .ok account ∧ s.config = some config ∧
    transfers r = (received c).map (fun asset => { asset, recipient := account }) ∧
    List.Forall₂ (SwapOf c.deps.ans config account) ((received c).filter (Due c.deps.ans config ·))
      (swaps r)

/-! ## What is known of the tips -/

def height (event : Event) : Nat := event.2.1.deps.block.height

/-- One tip of its sender. -/
def counts (event : Event) (addr : Addr) : Nat := if tipper event.2.1 = some addr then 1 else 0

/-- What is received under a name and not swapped. -/
def kept (c : Call) (r : Response) (name : AssetEntry) : Nat :=
  ((received c).map fun asset =>
    if c.deps.ans.revAssetAddresses.lookup asset.info = some name ∧
      asset ∉ (swaps r).map fun swap => swap.2.offerAsset then asset.amount else 0).sum

/-- What a swap would return. -/
def returned (deps : PaymentDeps) (desired : AssetEntry) (swap : DexSwap) : Nat :=
  match deps.ans.revAssetAddresses.lookup swap.offerAsset.info with
  | some name =>
    (deps.simulateSwap swap.dex { name, amount := swap.offerAsset.amount } desired).toOption.getD 0
  | none => 0

/-- What the swaps would return, for the asset that is desired. -/
def returns (s : PaymentStore) (c : Call) (r : Response) (name : AssetEntry) : Nat :=
  if s.config.bind Config.desiredAsset = some name then
    ((swaps r).map fun swap => returned c.deps name swap.2).sum
  else 0

/-- What a tip adds to the total of its sender in an asset. -/
def credits (event : Event) (key : Addr × AssetEntry) : Nat :=
  if tipper event.2.1 = some key.1 then
    kept event.2.1 event.2.2 key.2 + returns event.1 event.2.1 event.2.2 key.2
  else 0

/-- The answer gives the number and the totals of the tips before the block, for the assets of
    the page.  No asset with a total is left out of the pages. -/
def Reports (log : List Event) (h : Nat) (startAfter : Option AssetEntry) (limit : Option Nat)
    (resp : TipperResponse) : Prop :=
  resp.tipCount = weighed counts (before height h log) resp.address ∧
    ∃ names : List AssetEntry, names.Pairwise (fun a b => strBytes a < strBytes b) ∧
      (∀ name, weighed credits (before height h log) (resp.address, name) ≠ 0 →
        isAfter strBytes startAfter name = true → name ∈ names) ∧
      resp.totalAmounts = (names.take (limit.getD DEFAULT_LIMIT)).map fun name =>
        { name, amount := weighed credits (before height h log) (resp.address, name) }

/-- All that is promised of the tips of a run. -/
structure TipsComplete (s : PaymentStore) (calls : List Call) : Prop where
  handled : ∀ event ∈ history s calls, tipper event.2.1 ≠ none →
    Handled event.1 event.2.1 event.2.2
  counted : (run s calls).tipCount = some (total (run s calls).tipperCount.current id)
  totals : ∀ key, (run s calls).tippers.amount key = weighed credits (history s calls) key
  reported : ∀ deps address startAfter limit h resp,
    queryTipper deps address startAfter limit (some h) (run s calls) = .ok resp →
      deps.validate address = .ok resp.address ∧
        Reports (history s calls) h startAfter limit resp

/-- A received asset that is due is listed with the desired one on the first page by a trusted
    exchange, and is the asset that has its name. -/
def Found (s : PaymentStore) (c : Call) : Prop :=
  ∀ config, s.config = some config → ∀ desired, config.desiredAsset = some desired →
    ∀ asset ∈ received c, ∀ name, c.deps.ans.revAssetAddresses.lookup asset.info = some name →
      name ≠ desired → Paired c.deps.ans config.exchanges desired name →
        OnFirstPage c.deps.ans config.exchanges desired name ∧
          c.deps.ans.assetAddresses.lookup (toAsciiLowercase name) = some asset.info

/-! ## One tip -/

/-- The asset by its name. -/
def entryOf (ans : AnsHost) (asset : Asset) : AnsAsset where
  name := (ans.revAssetAddresses.lookup asset.info).getD ""
  amount := asset.amount

/-- All assets have names. -/
def AllNamed (ans : AnsHost) (assets : List Asset) : Prop :=
  ∀ asset ∈ assets, ans.revAssetAddresses.lookup asset.info = some (entryOf ans asset).name

theorem named_entries {assets : List Asset} {entries : List AnsAsset}
    (named : List.Forall₂ (fun asset entry => ans.resolveAsset asset = .ok entry) assets entries) :
    entries = assets.map (entryOf ans) ∧ AllNamed ans assets := by
  induction named with
  | nil => exact ⟨rfl, by simp [AllNamed]⟩
  | @cons asset entry assets entries first rest ih =>
    simp only [AnsHost.resolveAsset, AnsHost.queryAssetReverse, bind_eq_ok, pure_eq_ok,
      okOr_eq_ok] at first
    obtain ⟨name, found, rfl⟩ := first
    obtain ⟨rfl, named⟩ := ih
    refine ⟨by simp [entryOf, found], ?_⟩
    intro other listed
    rcases List.mem_cons.mp listed with rfl | later
    · simp [entryOf, found]
    · exact named other later

/-- The swaps that are sent, for the assets that they are sent for. -/
theorem swaps_sent {assets : List AnsAsset} {sent : List (AppMsg × Nat)}
    (each : List.Forall₂ (fun asset x => ∃ adapter account swap,
      x.1 = .DexAction adapter account swap ∧
        SwapSent deps exchanges desired asset adapter account swap x.2) assets sent) :
    List.Forall₂ (fun asset swap => ∃ adapter ret,
      SwapSent deps exchanges desired asset adapter swap.1 swap.2 ret) assets
      ((sent.map Prod.fst).filterMap AppMsg.swap?) := by
  induction each with
  | nil => exact .nil
  | cons first rest ih =>
    obtain ⟨adapter, account, swap, isSwap, ok⟩ := first
    simp only [List.map_cons, isSwap, List.filterMap_cons, AppMsg.swap?]
    exact .cons ⟨adapter, _, ok⟩ ih

section Tipped

variable {sender account : Addr} {entries recorded : List AnsAsset} {sent : List (AppMsg × Nat)}
variable {count : Nat}

/-- Every other message is a swap in the name of the account. -/
theorem Tipped.sends (tipped : Tipped c s config sender account entries sent recorded count s' r) :
    ∀ x ∈ sent, ∃ adapter swap, x.1 = .DexAction adapter account swap := by
  intro x listed
  cases wanted : config.desiredAsset with
  | none =>
    rw [(tipped.unset wanted).1] at listed
    cases listed
  | some desired =>
    obtain ⟨split, adds, -⟩ := tipped.set desired wanted
    obtain ⟨asset, -, adapter, account', swap, isSwap, ok⟩ := forall₂_exists_left adds.each x listed
    obtain rfl := Except.ok.inj (tipped.installed.symm.trans ok.account)
    exact ⟨adapter, swap, isSwap⟩

theorem Tipped.transfers_eq
    (tipped : Tipped c s config sender account entries sent recorded count s' r) :
    transfers r = (received c).map fun asset => { asset, recipient := account } := by
  have none : (sent.map Prod.fst).filterMap AppMsg.transfer? = [] := by
    rw [List.filterMap_eq_nil_iff]
    intro msg listed
    obtain ⟨x, sent, rfl⟩ := List.mem_map.mp listed
    obtain ⟨adapter, swap, isSwap⟩ := tipped.sends x sent
    rw [isSwap]
    rfl
  rw [transfers, tipped.msgs, List.filterMap_append, none, List.append_nil, List.filterMap_map,
    ← List.filterMap_eq_map]
  rfl

theorem Tipped.swaps_eq
    (tipped : Tipped c s config sender account entries sent recorded count s' r) :
    swaps r = (sent.map Prod.fst).filterMap AppMsg.swap? := by
  rw [swaps, tipped.msgs, List.filterMap_append, List.filterMap_map]
  simp [Function.comp_def, AppMsg.swap?]

/-- The assets that are swapped, with the swaps and what these would return. -/
theorem Tipped.swapped
    (tipped : Tipped c s config sender account entries sent recorded count s' r)
    (wanted : config.desiredAsset = some desired) :
    List.Forall₂ (fun asset swap => ∃ adapter ret, SwapSent c.deps config.exchanges desired
      (entryOf c.deps.ans asset) adapter swap.1 swap.2 ret)
      ((received c).filter fun asset =>
        Swapped c.deps.ans config.exchanges desired (entryOf c.deps.ans asset)) (swaps r) := by
  obtain ⟨split, adds, -⟩ := tipped.set desired wanted
  obtain ⟨rfl, -⟩ := named_entries tipped.named
  have each := swaps_sent adds.each
  rw [List.filter_map, List.forall₂_map_left_iff, ← tipped.swaps_eq] at each
  exact each

end Tipped

theorem due_iff {asset : Asset} (wanted : config.desiredAsset = some desired)
    (named : ans.revAssetAddresses.lookup asset.info = some (entryOf ans asset).name) :
    Due ans config asset ↔ (entryOf ans asset).name ≠ desired ∧
      Paired ans config.exchanges desired (entryOf ans asset).name := by
  simp only [Due, wanted, Option.mem_some_iff, exists_eq_left', named]

/-- The swap offers the asset when the asset is the one that has its name. -/
theorem SwapSent.offers {asset : Asset} {adapter account : Addr} {swap : DexSwap} {ret : Nat}
    (sent : SwapSent deps exchanges desired (entryOf deps.ans asset) adapter account swap ret)
    (known : deps.ans.assetAddresses.lookup (toAsciiLowercase (entryOf deps.ans asset).name) =
      some asset.info) : swap.offerAsset = asset := by
  have info := Option.some.inj (sent.offer.symm.trans known)
  have amount : swap.offerAsset.amount = asset.amount := sent.full
  obtain ⟨info', amount'⟩ := asset
  cases offered : swap.offerAsset with
  | mk offeredInfo offeredAmount =>
    rw [offered] at info amount
    obtain rfl : offeredInfo = info' := info
    obtain rfl : offeredAmount = amount' := amount
    rfl

theorem found_iff (configured : s.config = some config)
    (wanted : config.desiredAsset = some desired) (allNamed : AllNamed c.deps.ans (received c)) :
    Found s c ↔ ∀ asset ∈ received c, Due c.deps.ans config asset →
      Swapped c.deps.ans config.exchanges desired (entryOf c.deps.ans asset) ∧
        c.deps.ans.assetAddresses.lookup (toAsciiLowercase (entryOf c.deps.ans asset).name) =
          some asset.info := by
  constructor
  · intro found asset listed due
    obtain ⟨other, paired⟩ := (due_iff wanted (allNamed asset listed)).mp due
    obtain ⟨first, known⟩ := found config configured desired wanted asset listed _
      (allNamed asset listed) other paired
    exact ⟨⟨other, first⟩, known⟩
  · intro all config' configured' desired' wanted' asset listed name isName other paired
    obtain rfl := Option.some.inj (configured.symm.trans configured')
    obtain rfl := Option.some.inj (wanted.symm.trans wanted')
    obtain rfl := Option.some.inj ((allNamed asset listed).symm.trans isName)
    obtain ⟨swapped, known⟩ := all asset listed
      ((due_iff wanted (allNamed asset listed)).mpr ⟨other, paired⟩)
    exact ⟨swapped.2, known⟩

/-- Where a stronger condition leaves as many elements, it leaves the same ones. -/
theorem filter_eq_of_length {α : Type} {l : List α} {p q : α → Bool}
    (stronger : ∀ a ∈ l, p a = true → q a = true)
    (same : (l.filter p).length = (l.filter q).length) : l.filter p = l.filter q := by
  have twice : (l.filter q).filter p = l.filter p := by
    rw [List.filter_filter]
    apply List.filter_congr
    intro a listed
    cases meets : p a with
    | true => simp [stronger a listed meets]
    | false => simp
  rw [← twice, List.length_filter_eq_length_iff] at same
  rw [← twice, List.filter_eq_self]
  exact same

section Tipped

variable {sender account : Addr} {entries recorded : List AnsAsset} {sent : List (AppMsg × Nat)}
variable {count : Nat}

/-- Without a desired asset, nothing is swapped or due. -/
theorem Tipped.handled_of_unset
    (tipped : Tipped c s config sender account entries sent recorded count s' r)
    (unset : config.desiredAsset = none) : Handled s c r := by
  have noSwaps : swaps r = [] := by
    rw [tipped.swaps_eq, (tipped.unset unset).1]
    rfl
  have noneDue : (received c).filter (Due c.deps.ans config ·) = [] := by
    rw [List.filter_eq_nil_iff]
    intro asset _
    simp [Due, unset]
  refine ⟨account, config, tipped.installed, tipped.configured, tipped.transfers_eq, ?_⟩
  rw [noSwaps, noneDue]
  exact .nil

theorem due_of_swapped (wanted : config.desiredAsset = some desired) {assets : List Asset}
    (allNamed : AllNamed ans assets) : ∀ asset ∈ assets,
      Swapped ans config.exchanges desired (entryOf ans asset) → Due ans config asset := by
  intro asset listed swapped
  exact (due_iff wanted (allNamed asset listed)).mpr ⟨swapped.1, swapped.2.paired⟩

/-- A tip does what it has to do exactly when what is due is found. -/
theorem Tipped.handled_iff
    (tipped : Tipped c s config sender account entries sent recorded count s' r) :
    Handled s c r ↔ Found s c := by
  cases wanted : config.desiredAsset with
  | none =>
    refine ⟨?_, fun _ => tipped.handled_of_unset wanted⟩
    intro _ config' configured desired wanted'
    obtain rfl := Option.some.inj (tipped.configured.symm.trans configured)
    rw [wanted] at wanted'
    cases wanted'
  | some desired =>
    obtain ⟨-, allNamed⟩ := named_entries tipped.named
    have swapped := tipped.swapped wanted
    have swappedDue := due_of_swapped wanted allNamed
    rw [found_iff tipped.configured wanted allNamed]
    constructor
    · rintro ⟨account', config', installed, configured, -, handled⟩ asset listed due
      obtain rfl := Option.some.inj (tipped.configured.symm.trans configured)
      have same := filter_eq_of_length (l := received c) (q := (Due c.deps.ans config ·))
        (p := fun asset => Swapped c.deps.ans config.exchanges desired (entryOf c.deps.ans asset))
        (by simpa using swappedDue) (swapped.length_eq.trans handled.length_eq.symm)
      rw [same] at swapped
      have isDue : asset ∈ (received c).filter (Due c.deps.ans config ·) :=
        List.mem_filter.mpr ⟨listed, decide_eq_true due⟩
      obtain ⟨swap, isSwap, adapter, ret, sent⟩ := forall₂_exists_both handled swapped asset isDue
      rw [← same] at isDue
      refine ⟨of_decide_eq_true (List.mem_filter.mp isDue).2, ?_⟩
      have offer := sent.offer
      rwa [isSwap.offer] at offer
    · intro found
      have same : (received c).filter (Due c.deps.ans config ·) = (received c).filter fun asset =>
          Swapped c.deps.ans config.exchanges desired (entryOf c.deps.ans asset) := by
        apply List.filter_congr
        intro asset listed
        rw [decide_eq_decide]
        exact ⟨fun due => (found asset listed due).1, swappedDue asset listed⟩
      refine ⟨account, config, tipped.installed, tipped.configured, tipped.transfers_eq, ?_⟩
      rw [same]
      have known : ∀ asset ∈ (received c).filter fun asset =>
          Swapped c.deps.ans config.exchanges desired (entryOf c.deps.ans asset),
          c.deps.ans.assetAddresses.lookup (toAsciiLowercase (entryOf c.deps.ans asset).name) =
            some asset.info := by
        intro asset isDue
        rw [← same] at isDue
        obtain ⟨listed, due⟩ := List.mem_filter.mp isDue
        exact (found asset listed (of_decide_eq_true due)).2
      refine ((List.forall₂_and_left _ _).mpr ⟨known, swapped⟩).imp ?_
      intro asset swap ⟨known, adapter, ret, sent⟩
      refine ⟨?_, sent.offers known, ⟨desired, wanted, sent.ask⟩, sent.exchange⟩
      exact Except.ok.inj (sent.account.symm.trans tipped.installed)

end Tipped

/-! ## Totals -/

theorem added_additions {sender : Addr} {assets : List AnsAsset} {key : Addr × AssetEntry} :
    SnapshotMap.added (additions sender assets) key =
      if sender = key.1 then amountOf key.2 assets else 0 := by
  induction assets with
  | nil => simp [additions, amountOf]
  | cons asset assets ih =>
    show _ + SnapshotMap.added (additions sender assets) key = _
    rw [ih]
    obtain ⟨addr, name⟩ := key
    by_cases same : sender = addr
    · simp [amountOf, same]
    · simp [same, Ne.symm same]

theorem amountOf_cons (name : AssetEntry) (asset : AnsAsset) (assets : List AnsAsset) :
    amountOf name (asset :: assets) =
      (if name = asset.name then asset.amount else 0) + amountOf name assets := rfl

theorem amountOf_append (name : AssetEntry) (xs ys : List AnsAsset) :
    amountOf name (xs ++ ys) = amountOf name xs + amountOf name ys := by
  simp [amountOf]

/-- What is not swapped is the desired asset and the assets that are kept as they are. -/
theorem amountOf_unswapped (name : AssetEntry) (entries : List AnsAsset) :
    amountOf name (entries.filter fun asset => ¬ Swapped ans exchanges desired asset) =
      amountOf name (entries.filter fun asset =>
        asset.name ≠ desired ∧ ¬ Swapped ans exchanges desired asset) +
        if name = desired then amountOf desired entries else 0 := by
  induction entries with
  | nil => simp [amountOf]
  | cons asset entries ih =>
    rw [amountOf_cons desired]
    by_cases same : asset.name = desired
    · have unswapped : ¬ Swapped ans exchanges desired asset := fun swapped => swapped.1 same
      rw [List.filter_cons_of_pos (by simpa using unswapped),
        List.filter_cons_of_neg (by simp [same]), amountOf_cons, ih, same]
      by_cases isName : name = desired
      · rw [if_pos isName, if_pos isName, if_pos isName, if_pos rfl]
        omega
      · rw [if_neg isName, if_neg isName, if_neg isName, Nat.zero_add]
    · rw [if_neg (Ne.symm same), Nat.zero_add]
      by_cases swapped : Swapped ans exchanges desired asset
      · rw [List.filter_cons_of_neg (by simp [swapped]), List.filter_cons_of_neg (by simp [swapped]), ih]
      · rw [List.filter_cons_of_pos (by simp [swapped]),
          List.filter_cons_of_pos (by simp [swapped, same]), amountOf_cons, amountOf_cons, ih]
        omega

/-- The amount of some of the assets under their names. -/
theorem amountOf_entries (name : AssetEntry) (p : AnsAsset → Bool) (assets : List Asset) :
    amountOf name ((assets.map (entryOf ans)).filter p) =
      (assets.map fun asset =>
        if name = (entryOf ans asset).name ∧ p (entryOf ans asset) = true then asset.amount
        else 0).sum := by
  induction assets with
  | nil => rfl
  | cons asset assets ih =>
    rw [List.map_cons, List.map_cons, List.sum_cons, ← ih]
    by_cases meets : p (entryOf ans asset) = true
    · rw [List.filter_cons_of_pos meets, amountOf_cons]
      simp only [meets, and_true]
      rfl
    · rw [List.filter_cons_of_neg meets, if_neg fun h => meets h.2, Nat.zero_add]

/-- Offers of due assets are these assets. -/
theorem offers_eq {account : Addr} {assets : List Asset} {sent : List (Addr × DexSwap)}
    (each : List.Forall₂ (SwapOf ans config account) assets sent) :
    sent.map (fun swap => swap.2.offerAsset) = assets := by
  induction each with
  | nil => rfl
  | cons first rest ih => rw [List.map_cons, ih, first.offer]

/-- The swaps of known assets would return what has been simulated for them. -/
theorem returned_sent {assets : List Asset} {sent : List (AppMsg × Nat)}
    (allNamed : AllNamed deps.ans assets)
    (known : ∀ asset ∈ assets,
      deps.ans.assetAddresses.lookup (toAsciiLowercase (entryOf deps.ans asset).name) = some asset.info)
    (each : List.Forall₂ (fun asset x => ∃ adapter account swap,
      x.1 = .DexAction adapter account swap ∧ SwapSent deps exchanges desired
        (entryOf deps.ans asset) adapter account swap x.2) assets sent) :
    (((sent.map Prod.fst).filterMap AppMsg.swap?).map fun swap => returned deps desired swap.2).sum =
      (sent.map Prod.snd).sum := by
  induction each with
  | nil => rfl
  | @cons asset x assets sent first rest ih =>
    obtain ⟨adapter, account, swap, isSwap, ok⟩ := first
    have offer := ok.offers (known asset List.mem_cons_self)
    have simulated : returned deps desired swap = x.2 := by
      unfold returned
      rw [offer, allNamed asset List.mem_cons_self]
      show (deps.simulateSwap swap.dex (entryOf deps.ans asset) desired).toOption.getD 0 = x.2
      rw [ok.simulated]
      rfl
    have later := ih (fun other listed => allNamed other (List.mem_cons_of_mem asset listed))
      fun other listed => known other (List.mem_cons_of_mem asset listed)
    simp only [List.map_cons, isSwap, List.filterMap_cons, AppMsg.swap?, List.sum_cons, later, simulated]

section Tipped

variable {sender account : Addr} {entries recorded : List AnsAsset} {sent : List (AppMsg × Nat)}
variable {count : Nat}

theorem Tipped.credits_of_unset
    (tipped : Tipped c s config sender account entries sent recorded count s' r)
    (unset : config.desiredAsset = none) (name : AssetEntry) :
    kept c r name + returns s c r name = amountOf name recorded := by
  obtain ⟨rfl, rfl⟩ := tipped.unset unset
  obtain ⟨rfl, allNamed⟩ := named_entries tipped.named
  have noSwaps : swaps r = [] := tipped.swaps_eq
  have noReturns : returns s c r name = 0 := by simp [returns, tipped.configured, unset]
  have all : amountOf name (((received c).map (entryOf c.deps.ans)).filter fun _ => true) = _ :=
    amountOf_entries name (fun _ => true) (received c)
  rw [List.filter_true] at all
  rw [noReturns, all, kept, noSwaps, Nat.add_zero]
  congr 1
  apply List.map_congr_left
  intro asset listed
  simp [allNamed asset listed, eq_comm]

theorem Tipped.credits_of_set
    (tipped : Tipped c s config sender account entries sent recorded count s' r)
    (wanted : config.desiredAsset = some desired) (found : Found s c) (name : AssetEntry) :
    kept c r name + returns s c r name = amountOf name recorded := by
  obtain ⟨_, config', -, configured, -, each⟩ := tipped.handled_iff.mpr found
  obtain rfl := Option.some.inj (tipped.configured.symm.trans configured)
  obtain ⟨split, adds, isRecorded⟩ := tipped.set desired wanted
  obtain ⟨rfl, allNamed⟩ := named_entries tipped.named
  have found := (found_iff configured wanted allNamed).mp found
  have isKept : kept c r name = amountOf name (((received c).map (entryOf c.deps.ans)).filter
      fun entry => ¬ Swapped c.deps.ans config.exchanges desired entry) := by
    rw [amountOf_entries, kept, offers_eq each]
    congr 1
    apply List.map_congr_left
    intro asset listed
    have due : asset ∈ (received c).filter (Due c.deps.ans config ·) ↔
        Swapped c.deps.ans config.exchanges desired (entryOf c.deps.ans asset) := by
      rw [List.mem_filter, decide_eq_true_eq]
      exact ⟨fun h => (found asset listed h.2).1,
        fun h => ⟨listed, due_of_swapped wanted allNamed asset listed h⟩⟩
    simp only [due, allNamed asset listed, Option.some.injEq, decide_eq_true_eq, eq_comm (b := name)]
  have isReturned : returns s c r name = if name = desired then (sent.map Prod.snd).sum else 0 := by
    have swaps := adds.each
    rw [List.filter_map, List.forall₂_map_left_iff] at swaps
    rw [returns, tipped.configured, Option.bind_some, wanted, tipped.swaps_eq]
    by_cases isDesired : name = desired
    · subst isDesired
      rw [if_pos rfl, if_pos rfl]
      apply returned_sent ?_ ?_ swaps
      · intro asset listed
        exact allNamed asset (List.mem_filter.mp listed).1
      · intro asset swapped
        obtain ⟨listed, isSwapped⟩ := List.mem_filter.mp swapped
        have isSwapped := of_decide_eq_true isSwapped
        exact (found asset listed (due_of_swapped wanted allNamed asset listed isSwapped)).2
    · rw [if_neg isDesired, if_neg fun h => isDesired (Option.some.inj h).symm]
  have total : amountOf name recorded = amountOf name split.assetsToAdd +
      if name = desired then split.desiredAssetAmount else 0 := by
    rw [isRecorded]
    split
    · rename_i zero
      simp [zero]
    · rw [amountOf_append]
      simp [amountOf]
  rw [total, isKept, isReturned, amountOf_unswapped, adds.kept, adds.amount]
  simp only [Split.new, List.nil_append, Nat.zero_add]
  split <;> omega

/-- What a tip adds to the totals. -/
theorem Tipped.credits
    (tipped : Tipped c s config sender account entries sent recorded count s' r) (found : Found s c)
    (key : Addr × AssetEntry) :
    Payment.credits (s, c, r) key = SnapshotMap.added (additions sender recorded) key := by
  rw [added_additions, Payment.credits, tipped.sentBy]
  have total : kept c r key.2 + returns s c r key.2 = amountOf key.2 recorded := by
    cases wanted : config.desiredAsset with
    | none => exact tipped.credits_of_unset wanted key.2
    | some desired => exact tipped.credits_of_set wanted found key.2
  rw [total]
  simp only [Option.some.injEq]

end Tipped

/-! ## Runs -/

/-- The stores are what the tips make of them. -/
structure Tracked (s : PaymentStore) (log : List Event) : Prop where
  counted : s.tipCount = some (total s.tipperCount.current id)
  counts : Tallies counts height s.tipperCount log
  totals : Tallies credits height s.tippers log

theorem total_add (m : SnapshotMap Addr Nat) (k : Addr) (n height : Nat) :
    total (m.add k n height).current id = total m.current id + n := by
  have balance := total_insert m.current id k (m.amount k + n)
  simp only [Option.map_id, id_eq] at balance
  have before : (m.current.lookup k).getD 0 = m.amount k := rfl
  rw [before] at balance
  show total (m.current.insert k (m.amount k + n)) id = _
  omega

theorem Tracked.step {log : List Event} (tracked : Tracked s log)
    (ordered : ∀ event ∈ log, height event ≤ c.deps.block.height)
    (found : tipper c ≠ none → Found s c) (h : exec c s = .ok (s', r)) :
    Tracked s' (log ++ [(s, c, r)]) := by
  cases exec_did h with
  | configured other config =>
    have idle : ∀ addr, tipper c ≠ some addr := by simp [other]
    refine ⟨tracked.counted, ?_, ?_⟩
    · show Tallies Payment.counts height (s.tipperCount.addAll [] (height (s, c, r))) _
      exact tracked.counts.record ordered fun addr => by simp [Payment.counts, idle]
    · show Tallies credits height (s.tippers.addAll [] (height (s, c, r))) _
      exact tracked.totals.record ordered fun key => by simp [credits, idle]
  | @tipped config sender account entries sent recorded count _ _ tipped =>
    have found := found (by rw [tipped.sentBy]; simp)
    rw [tipped.written]
    refine ⟨?_, ?_, ?_⟩
    · have counted := Option.some.inj (tipped.counted.symm.trans tracked.counted)
      rw [total_add, counted]
    · show Tallies Payment.counts height (s.tipperCount.addAll [(sender, 1)] (height (s, c, r))) _
      exact tracked.counts.record ordered fun addr => by
        simp [Payment.counts, tipped.sentBy, eq_comm]
    · exact tracked.totals.record (x := (s, c, r)) ordered (tipped.credits found)

theorem tracked_instantiated {msg : AppInstantiateMsg}
    (created : instantiateHandler deps msg .empty = .ok s) : Tracked s [] := by
  simp only [instantiateHandler, bind_eq_ok, pure_eq_ok] at created
  obtain ⟨_, -, _, -, rfl⟩ := created
  exact ⟨rfl, tallies_empty, tallies_empty⟩

theorem assetOf_determines (addr : Addr) : ∀ k l x, assetOf addr k = some x →
    assetOf addr l = some x → k = l := by
  intro ⟨addr₁, name₁⟩ ⟨addr₂, name₂⟩ x first second
  simp only [assetOf, Option.ite_none_right_eq_some, Option.some.injEq] at first second
  obtain ⟨rfl, rfl⟩ := first
  obtain ⟨rfl, rfl⟩ := second
  rfl

/-- The answer to a query at a height. -/
theorem Tracked.reports {log : List Event} {address : String} {startAfter : Option AssetEntry}
    {limit : Option Nat} {h : Nat} {resp : TipperResponse} (tracked : Tracked s log)
    (ok : queryTipper deps address startAfter limit (some h) s = .ok resp) :
    deps.validate address = .ok resp.address ∧ Reports log h startAfter limit resp := by
  simp only [queryTipper, bind_eq_ok, pure_eq_ok] at ok
  obtain ⟨addr, valid, rfl⟩ := ok
  refine ⟨valid, tracked.counts.past addr h, (totalsOf addr startAfter s).map Prod.fst, ?_, ?_, ?_⟩
  · rw [List.pairwise_map]
    apply range_pairwise
    have names := under_nodup (m := s.tippers.current) (assetOf_determines addr)
    have distinct := names.map (f := strBytes) fun _ _ => strBytes_injective
    rw [List.map_map] at distinct
    exact distinct
  · intro name positive later
    obtain ⟨v, stored⟩ := mem_iff_lookup.mp (tracked.totals.mem_current positive)
    have listed : (name, v) ∈ totalsOf addr startAfter s :=
      mem_range.mpr ⟨mem_under.mpr ⟨(addr, name), stored, by simp [assetOf]⟩, later⟩
    exact List.mem_map_of_mem listed
  · rw [← List.map_take]
    apply List.map_congr_left
    intro name listed
    exact congrArg (AnsAsset.mk name) (tracked.totals.past (addr, name) h)

/-- Every tip of a run is handled, recorded and reported as it should be exactly when what is
    due is found in every one of them. -/
theorem tipsComplete_iff {msg : AppInstantiateMsg} {calls : List Call}
    (created : instantiateHandler deps msg .empty = .ok s) (ordered : Ordered calls) :
    TipsComplete s calls ↔
      ∀ event ∈ history s calls, tipper event.2.1 ≠ none → Found event.1 event.2.1 := by
  constructor
  · intro complete event happened isTip
    obtain ⟨_, _, s', -, -, ok⟩ := Machine.of_mem_history happened
    cases exec_did ok with
    | configured other config => exact absurd other isTip
    | tipped tipped => exact tipped.handled_iff.mp (complete.handled event happened isTip)
  · intro found
    have tracked : Tracked (run s calls) (history s calls) := by
      apply Machine.run_history_invariant (C := fun s log c =>
        (∀ event ∈ log, height event ≤ c.deps.block.height) ∧
          ((∃ p, exec c s = .ok p) → tipper c ≠ none → Found s c))
      · rintro s log c s' r ⟨ordered, found⟩ tracked ok
        exact tracked.step ordered (found ⟨_, ok⟩) ok
      · exact tracked_instantiated created
      · intro before c after split
        refine ⟨Timeline.throughout_ordered ordered before c after split, ?_⟩
        rintro ⟨⟨s', r⟩, ok⟩
        apply found (Machine.run exec s before, c, r)
        rw [history, split]
        exact Machine.mem_history_of_ok after ok
    refine ⟨?_, tracked.counted, tracked.totals.now, ?_⟩
    · intro event happened isTip
      obtain ⟨_, _, s', -, -, ok⟩ := Machine.of_mem_history happened
      cases exec_did ok with
      | configured other config => exact absurd other isTip
      | tipped tipped => exact tipped.handled_iff.mpr (found event happened isTip)
    · intro deps address startAfter limit h resp ok
      exact tracked.reports ok

/-! ## A pair on the second page -/

def eur : Asset where
  info := .Native "ueur"
  amount := 100

def pools (dexes : List DexName) : Map DexAssetPairing (List PoolReference) :=
  dexes.foldl (fun (m : Map DexAssetPairing (List PoolReference)) dex =>
    (m.insert (DexAssetPairing.new "usd" "eur" dex) [⟨1, .Id 1⟩]).insert
      (DexAssetPairing.new "eur" "usd" dex) [⟨1, .Id 1⟩]) ∅

/-- A name service that knows two assets and the dexes that trade them. -/
def tradedOn (dexes : List DexName) : AnsHost where
  address := ⟨"ans"⟩
  assetAddresses := (AList.insert "eur" (.Native "ueur") ∅).insert "usd" (.Native "uusd")
  revAssetAddresses := (AList.insert (.Native "ueur") "eur" ∅).insert (.Native "uusd") "usd"
  assetPairings := pools dexes
  registeredDexes := some dexes

def sampleDeps (dexes : List DexName) (height : Nat) : PaymentDeps where
  block := { height, time := 0 }
  addrValidate human := .ok ⟨human⟩
  assertAdmin _ := .ok ()
  account := .ok ⟨"account"⟩
  ans := tradedOn dexes
  dexAdapter := .ok ⟨"dex"⟩
  simulateSwap _ offer _ := .ok offer.amount

/-- The account wants dollars, and trusts one of the exchanges. -/
def usdOn (dex : DexName) : AppInstantiateMsg where
  desiredAsset := some "usd"
  denomAsset := "usd"
  exchanges := [dex]

def opened (dex : DexName) : PaymentStore :=
  { PaymentStore.empty with
    config := some { desiredAsset := some "usd", denomAsset := "usd", exchanges := [dex] }
    tipCount := some 0 }

def eurTip (dexes : List DexName) (height : Nat) : Call where
  deps := sampleDeps dexes height
  info := { sender := ⟨"tipper"⟩, funds := [⟨"ueur", 100⟩] }
  msg := .Module .Tip
  positive := by simp

/-- Where the trusted exchange is one of two, the coins are swapped. -/
theorem tipsComplete_iff_swapped :
    (exec (eurTip ["a", "p"] 1) (opened "p")).toOption.map (fun p => (swaps p.2).length) = some 1 ∧
      TipsComplete (opened "p") [eurTip ["a", "p"] 1] := by
  have created : instantiateHandler (sampleDeps ["a", "p"] 1) (usdOn "p") .empty =
      .ok (opened "p") := rfl
  refine ⟨by decide +kernel, ?_⟩
  apply (tipsComplete_iff created (by simp [Ordered])).mpr
  intro event happened _
  obtain ⟨before, after, _, split, at_, -⟩ := Machine.of_mem_history happened
  obtain ⟨rfl, isCall, -⟩ : before = [] ∧ event.2.1 = eurTip ["a", "p"] 1 ∧ after = [] := by
    cases before with
    | nil =>
      simp only [List.nil_append, List.cons.injEq] at split
      exact ⟨rfl, split.1.symm, split.2.symm⟩
    | cons first rest => simp at split
  rw [at_, isCall]
  rintro config configured desired wanted asset listed name isName other paired
  obtain rfl := Option.some.inj configured
  obtain rfl := Option.some.inj wanted
  obtain rfl : asset = eur := by simpa [received, receipt, eurTip, eur, Asset.ofCoin] using listed
  obtain rfl : name = "eur" := by
    have known : (tradedOn ["a", "p"]).revAssetAddresses.lookup eur.info = some "eur" := by
      decide +kernel
    exact Option.some.inj (isName.symm.trans known)
  exact ⟨by decide +kernel, by decide +kernel⟩

def sixteen : List DexName :=
  ["a", "b", "c", "d", "e", "f", "g", "h", "i", "j", "k", "l", "m", "n", "o", "p"]

theorem pair_on_second_page_not_swapped :
    instantiateHandler (sampleDeps sixteen 1) (usdOn "p") .empty = .ok (opened "p") ∧
      Paired (tradedOn sixteen) ["p"] "usd" "eur" ∧
      (exec (eurTip sixteen 1) (opened "p")).toOption.map (fun p => swaps p.2) = some [] ∧
      ¬ TipsComplete (opened "p") [eurTip sixteen 1] := by
  have noSwaps : (exec (eurTip sixteen 1) (opened "p")).toOption.map (fun p => swaps p.2) = some [] := by
    decide +kernel
  refine ⟨rfl, by decide +kernel, noSwaps, ?_⟩
  intro complete
  cases tipped : exec (eurTip sixteen 1) (opened "p") with
  | error e => simp [tipped, Except.toOption] at noSwaps
  | ok p =>
    obtain ⟨s', r⟩ := p
    simp only [tipped, Except.toOption, Option.map_some, Option.some.injEq] at noSwaps
    have happened : (opened "p", eurTip sixteen 1, r) ∈
        history (opened "p") [eurTip sixteen 1] := by
      simp [history, Machine.history, tipped]
    obtain ⟨account, config, -, configured, -, each⟩ :=
      complete.handled _ happened (by simp [tipper, eurTip])
    obtain rfl := Option.some.inj configured
    have due : ((received (eurTip sixteen 1)).filter (Due (tradedOn sixteen)
        { desiredAsset := some "usd", denomAsset := "usd", exchanges := ["p"] } ·)).length = 1 := by
      decide +kernel
    have lengths := each.length_eq
    rw [noSwaps] at lengths
    exact absurd (due.symm.trans lengths) (by simp)

end AbstractFramework.Payment
