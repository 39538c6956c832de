import AbstractFramework.Ans.Entries

/-! # The texts of pools

A pool is described by its dex, its type and its assets, as `dex/asset1,asset2:type`, and is
at an address that is written as `contract:addr` or `id:7`.  The text of a pool is split at
its first slash, the first colon after it and at every comma between the two, so it describes
the pool if there are no other ones.  The address of a pool with separate addresses is
printed and never read.

`texts_read_back` says for each kind of entry which are read back from their own text.  They
are all that can be read from any text.
-/

namespace AbstractFramework.Ans

open AbstractFramework Fallible Storage Sdk Delimited Dex

/-! ## Types of pools -/

def PoolType.toStr : PoolType → String
  | .ConstantProduct => "constant_product"
  | .Stable => "stable"
  | .Weighted => "weighted"
  | .LiquidityBootstrap => "liquidity_bootstrap"
  | .ConcentratedLiquidity => "concentrated_liquidity"

def PoolType.fromStr (s : String) : Except StdError PoolType :=
  if s = "constant_product" then .ok .ConstantProduct
  else if s = "stable" then .ok .Stable
  else if s = "weighted" then .ok .Weighted
  else if s = "liquidity_bootstrap" then .ok .LiquidityBootstrap
  else if s = "concentrated_liquidity" then .ok .ConcentratedLiquidity
  else .error (.msg ("invalid pool type \x60" ++ s ++ "\x60"))

/-! ## Pools -/

/-- `PoolMetadata::new`: the assets are converted into entries and sorted. -/
def PoolMetadata.new {U : Type} (into : U → AssetEntry) (dexName : String) (poolType : PoolType)
    (assets : List U) : PoolMetadata where
  dex := dexName
  poolType := poolType
  assets := sortEntries (assets.map into)

/-- The dex, the assets and the type in a text. -/
def splitMetadata (s : List Char) : Option (List Char × List Char × List Char) :=
  (splitOnce '/' s).bind fun (dex, remainder) =>
    (splitOnce ':' remainder).map fun (assets, poolType) => (dex, assets, poolType)

def PoolMetadata.fromStr (s : String) : Except StdError PoolMetadata :=
  match splitMetadata s.toList with
  | none => .error (.msg ("invalid pool metadata format \x60" ++ s ++ "\x60; must be in format " ++
      "\x60\x7bdex\x7d/\x7basset1\x7d,\x7basset2\x7d:\x7bpool_type\x7d...\x60"))
  | some (dex, assets, poolType) => do
    let assets := assets.splitOn ','
    let poolType ← PoolType.fromStr (String.ofList poolType)
    return PoolMetadata.new (fun name => assetEntry (String.ofList name)) (String.ofList dex) poolType
      assets

/-- `Display`: formatted as `junoswap/uusd,uust:stable`. -/
def PoolMetadata.toStr (pool : PoolMetadata) : String :=
  pool.dex ++ "/" ++ (",".intercalate pool.assets ++ ":" ++ pool.poolType.toStr)

/-! ## Addresses -/

/-- The loop of `u64::from_str`: a digit is looked at before the overflow. -/
def parseU64Digits : List Char → Nat → Except ParseIntError Nat
  | [], n => .ok n
  | c :: cs, n =>
    if c.isDigit = false then .error .InvalidDigit
    else if n * 10 + (c.toNat - '0'.toNat) < 2 ^ 64 then
      parseU64Digits cs (n * 10 + (c.toNat - '0'.toNat))
    else .error .PosOverflow

/-- `u64::from_str`: an optional plus sign and decimal digits. -/
def parseU64 (text : List Char) : Except ParseIntError Nat :=
  match text with
  | [] => .error .Empty
  | ['+'] => .error .InvalidDigit
  | '+' :: digits => parseU64Digits digits 0
  | digits => parseU64Digits digits 0

/-- `Display` of an error of the parser. -/
def parseIntErrorText : ParseIntError → String
  | .Empty => "cannot parse integer from empty string"
  | .InvalidDigit => "invalid digit found in string"
  | .PosOverflow => "number too large to fit in target type"

def UncheckedPoolAddress.fromStr (s : String) : Except AbstractError UncheckedPoolAddress :=
  match (s.toList.splitOn ':').map String.ofList with
  | "contract" :: words =>
    match words with
    | [contractAddr] => .ok (.Contract contractAddr)
    | _ => .error (.FormattingError "unchecked pool address"
        "contract:\x7b\x7bcontract_addr\x7d\x7d" s)
  | "id" :: words =>
    match words with
    | [id] => do
      let id ← (parseU64 id.toList).mapError fun e => AbstractError.Std (.msg (parseIntErrorText e))
      return .Id id
    | _ => .error (.FormattingError "unchecked pool address" "id:\x7b\x7bpool_id\x7d\x7d" s)
  | _ => .error (.FormattingError "unchecked pool address" "'contract' or 'id'" s)

/-- `From<PoolAddress>`. -/
def UncheckedPoolAddress.ofAddress : PoolAddress → UncheckedPoolAddress
  | .Contract contractAddr => .Contract contractAddr.asStr
  | .Id id => .Id id
  | .SeparateAddresses swap liquidity => .SeparateAddresses swap.asStr liquidity.asStr

/-- `Display`. -/
def PoolAddress.toStr : PoolAddress → String
  | .Contract contractAddr => "contract:" ++ contractAddr.asStr
  | .Id id => "id:" ++ toString id
  | .SeparateAddresses swap liquidity => "swap:" ++ swap.asStr ++ ", pair: " ++ liquidity.asStr

/-! ## Numbers -/

/-- The loop succeeds on digits whose value fits. -/
theorem parseU64Digits_eq_ok {cs : List Char} {n m : Nat} (small : n < 2 ^ 64) :
    parseU64Digits cs n = .ok m ↔
      (∀ c ∈ cs, c.isDigit) ∧ Nat.ofDigitChars 10 cs n = m ∧ m < 2 ^ 64 := by
  induction cs generalizing n with
  | nil =>
    simp only [parseU64Digits, Except.ok.injEq, Nat.ofDigitChars, List.foldl_nil, List.not_mem_nil,
      false_implies, implies_true, true_and]
    constructor
    · rintro rfl
      exact ⟨rfl, small⟩
    · exact fun h => h.1
  | cons c cs ih =>
    rw [parseU64Digits, Nat.ofDigitChars_cons, List.forall_mem_cons, Nat.mul_comm 10 n]
    cases digit : c.isDigit with
    | false => simp
    | true =>
      simp only [Bool.true_eq_false, ↓reduceIte, true_and]
      split
      · rename_i fits
        exact ih fits
      · -- the value only grows, so it cannot fit later
        have := le_ofDigitChars cs (n * 10 + (c.toNat - '0'.toNat))
        simp only [reduceCtorEq, false_iff]
        rintro ⟨_, rfl, fits⟩
        omega

theorem parseU64_lt {text : List Char} {n : Nat} (parsed : parseU64 text = .ok n) : n < 2 ^ 64 := by
  unfold parseU64 at parsed
  split at parsed
  · cases parsed
  · cases parsed
  · exact ((parseU64Digits_eq_ok (by decide)).mp parsed).2.2
  · exact ((parseU64Digits_eq_ok (by decide)).mp parsed).2.2

/-- A printed number is read back if it fits. -/
theorem parseU64_toDigits {n : Nat} (fits : n < 2 ^ 64) : parseU64 (Nat.toDigits 10 n) = .ok n := by
  have digits : ∀ c ∈ Nat.toDigits 10 n, c.isDigit := fun c listed =>
    Nat.isDigit_of_mem_toDigits (by decide) (by decide) listed
  have parsed : parseU64Digits (Nat.toDigits 10 n) 0 = .ok n :=
    (parseU64Digits_eq_ok (by decide)).mpr ⟨digits, Nat.ofDigitChars_ten_toDigits, fits⟩
  unfold parseU64
  split
  · rename_i empty
    exact absurd empty Nat.toDigits_ne_nil
  · rename_i plus
    have := digits '+' (by rw [plus]; simp)
    cases this
  · rename_i plus
    have := digits '+' (by rw [plus]; simp)
    cases this
  · exact parsed

/-! ## Reading pools -/

/-- The dex has no slash, and there are assets, in ascending order, each in lower case and
    without a comma and a colon. -/
def PoolMetadata.Normal (pool : PoolMetadata) : Prop :=
  '/' ∉ pool.dex.toList ∧ pool.assets ≠ [] ∧ Ascending pool.assets ∧
    ∀ name ∈ pool.assets, ',' ∉ name.toList ∧ ':' ∉ name.toList ∧ assetEntry name = name

/-- The address has no colon, or the id is a 64-bit number. -/
def PoolAddress.Normal : PoolAddress → Prop
  | .Contract contractAddr => ':' ∉ contractAddr.asStr.toList
  | .Id id => id < 2 ^ 64
  | .SeparateAddresses _ _ => False

theorem PoolType.fromStr_toStr (poolType : PoolType) :
    PoolType.fromStr poolType.toStr = .ok poolType := by
  cases poolType <;> decide

theorem PoolMetadata.fromStr_toStr {pool : PoolMetadata} (normal : pool.Normal) :
    PoolMetadata.fromStr pool.toStr = .ok pool := by
  obtain ⟨slash, some, ascending, names⟩ := normal
  have comma : ∀ part ∈ pool.assets.map String.toList, ',' ∉ part := by
    intro part isPart
    obtain ⟨name, listed, rfl⟩ := List.mem_map.mp isPart
    exact (names name listed).1
  have colon : ':' ∉ [','].intercalate (pool.assets.map String.toList) := by
    rw [mem_intercalate (by decide)]
    rintro ⟨part, isPart, inside⟩
    obtain ⟨name, listed, rfl⟩ := List.mem_map.mp isPart
    exact (names name listed).2.1 inside
  have text : pool.toStr.toList = pool.dex.toList ++ '/' ::
      ([','].intercalate (pool.assets.map String.toList) ++ ':' :: pool.poolType.toStr.toList) := by
    simp [PoolMetadata.toStr]
  have parts : splitMetadata pool.toStr.toList = .some (pool.dex.toList,
      [','].intercalate (pool.assets.map String.toList), pool.poolType.toStr.toList) := by
    rw [splitMetadata, text, splitOnce_append _ slash, Option.bind_some]
    dsimp only
    rw [splitOnce_append _ colon]
    rfl
  have assets : (pool.assets.map String.toList).map (fun name => assetEntry (String.ofList name)) =
      pool.assets := by
    rw [List.map_map]
    conv_rhs => rw [← List.map_id pool.assets]
    refine List.map_congr_left fun name listed => ?_
    simp [(names name listed).2.2]
  have sorted : sortEntries pool.assets = pool.assets := sortEntries_eq_self_iff.mpr ascending
  rw [PoolMetadata.fromStr, parts]
  simp only [List.splitOn_intercalate ',' comma (by simpa using some), String.ofList_toList,
    PoolType.fromStr_toStr, ok_bind, PoolMetadata.new, assets, sorted]
  rfl

theorem PoolMetadata.normal_of_fromStr {text : String} {pool : PoolMetadata}
    (isText : PoolMetadata.fromStr text = .ok pool) : pool.Normal := by
  rw [PoolMetadata.fromStr] at isText
  cases parts : splitMetadata text.toList with
  | none =>
    rw [parts] at isText
    cases isText
  | some found =>
    obtain ⟨dex, assets, poolType⟩ := found
    rw [parts] at isText
    obtain ⟨isType, -, isPool⟩ := bind_eq_ok.mp isText
    obtain rfl := Except.ok.inj isPool
    obtain ⟨⟨_, remainder⟩, split, split'⟩ := Option.bind_eq_some_iff.mp parts
    obtain ⟨⟨_, _⟩, split', isParts⟩ := Option.map_eq_some_iff.mp split'
    cases isParts
    have slash : '/' ∉ dex := notMem_of_splitOnce split
    have colon : ':' ∉ assets := notMem_of_splitOnce split'
    refine ⟨by simpa [PoolMetadata.new] using slash, ?_, ?_, ?_⟩
    · intro empty
      have perm := sortEntries_perm
        ((assets.splitOn ',').map fun name => assetEntry (String.ofList name))
      dsimp only [PoolMetadata.new] at empty
      rw [empty, List.nil_perm] at perm
      exact List.splitOn_ne_nil ',' assets (List.map_eq_nil_iff.mp perm)
    · exact sortEntries_eq_self_iff.mp (sortEntries_sortEntries _)
    · intro name listed
      have listed := (sortEntries_perm _).mem_iff.mp listed
      obtain ⟨part, isPart, rfl⟩ := List.mem_map.mp listed
      have noComma : ',' ∉ part := notMem_of_mem_splitOn isPart
      have noColon : ':' ∉ part := fun inside =>
        colon ((mem_splitOn (by decide)).mp ⟨part, isPart, inside⟩)
      exact ⟨notMem_lowercase (by decide) noComma, notMem_lowercase (by decide) noColon,
        toAsciiLowercase_idem _⟩

/-- A text with the separator twice has more than two parts, so the rest has none. -/
theorem words_of_text (first : String) {rest : String} (without : ':' ∉ first.toList)
    (without' : ':' ∉ rest.toList) :
    ((first ++ ":" ++ rest).toList.splitOn ':').map String.ofList = [first, rest] := by
  have text : (first ++ ":" ++ rest).toList = first.toList ++ ':' :: rest.toList :=
    toList_joined first rest ':'
  rw [text, splitOn_append_cons without without']
  simp

theorem PoolAddress.fromStr_toStr {address : PoolAddress} (normal : address.Normal) :
    UncheckedPoolAddress.fromStr address.toStr = .ok (.ofAddress address) := by
  cases address with
  | Contract contractAddr =>
    have words := words_of_text "contract" (by decide) normal
    have text : (PoolAddress.Contract contractAddr).toStr = "contract" ++ ":" ++ contractAddr.asStr :=
      rfl
    rw [UncheckedPoolAddress.fromStr, text, words]
    rfl
  | Id id =>
    have digits : (toString id).toList = Nat.toDigits 10 id := by simp [Nat.toList_repr]
    have without : ':' ∉ (toString id).toList := by
      rw [digits]
      intro inside
      have digit := Nat.isDigit_of_mem_toDigits (b := 10) (by decide) (by decide) inside
      cases digit
    have words := words_of_text "id" (by decide) without
    have text : (PoolAddress.Id id).toStr = "id" ++ ":" ++ toString id := rfl
    rw [UncheckedPoolAddress.fromStr, text, words]
    show (do
      let id ← (parseU64 (toString id).toList).mapError fun e =>
        AbstractError.Std (.msg (parseIntErrorText e))
      return UncheckedPoolAddress.Id id) = _
    rw [digits, parseU64_toDigits normal]
    rfl
  | SeparateAddresses swap liquidity => exact normal.elim

theorem PoolAddress.normal_of_fromStr {text : String} {address : PoolAddress}
    (isText : UncheckedPoolAddress.fromStr text = .ok (.ofAddress address)) : address.Normal := by
  have parts : ∀ word ∈ (text.toList.splitOn ':').map String.ofList, ':' ∉ word.toList := by
    intro word isWord
    obtain ⟨part, isPart, rfl⟩ := List.mem_map.mp isWord
    rw [String.toList_ofList]
    exact notMem_of_mem_splitOn isPart
  rw [UncheckedPoolAddress.fromStr] at isText
  split at isText
  · rename_i words isWords
    split at isText
    · rename_i contractAddr
      cases address with
      | Contract addr =>
        cases isText
        exact parts _ (by rw [isWords]; simp)
      | Id id => cases isText
      | SeparateAddresses swap liquidity => cases isText
    · cases isText
  · rename_i words isWords
    split at isText
    · obtain ⟨id, parsed, isAddress⟩ := bind_eq_ok.mp isText
      cases address with
      | Contract addr => cases isAddress
      | Id id' =>
        cases isAddress
        exact parseU64_lt (mapError_eq_ok.mp parsed)
      | SeparateAddresses swap liquidity => cases isAddress
    · cases isText
  · cases isText

/-! ## All texts -/

/-- What is read back from its own text is what can be read from any text: contracts whose
    protocol has no colon, channels of valid chains whose protocol has no slash, pools without
    separators in their names, and the addresses of contracts without a colon and of 64-bit
    ids. -/
theorem texts_read_back :
    ReadsBack ContractEntry.fromStr ContractEntry.toStr id ContractEntry.Normal ∧
      ReadsBack ChannelEntry.read ChannelEntry.toStr id ChannelEntry.Normal ∧
      ReadsBack PoolMetadata.fromStr PoolMetadata.toStr id PoolMetadata.Normal ∧
      ReadsBack UncheckedPoolAddress.fromStr PoolAddress.toStr .ofAddress PoolAddress.Normal := by
  refine ⟨?_, ?_, ?_, ?_⟩
  · exact readsBack_of (fun _ => ContractEntry.fromStr_toStr)
      fun _ _ isText => (ContractEntry.normal_of_fromStr isText).1
  · exact readsBack_of (fun _ => ChannelEntry.read_toStr)
      fun _ _ isText => (ChannelEntry.normal_of_read isText).1
  · exact readsBack_of (fun _ => PoolMetadata.fromStr_toStr)
      fun _ _ isText => PoolMetadata.normal_of_fromStr isText
  · exact readsBack_of (fun _ => PoolAddress.fromStr_toStr)
      fun _ _ isText => PoolAddress.normal_of_fromStr isText

end AbstractFramework.Ans
