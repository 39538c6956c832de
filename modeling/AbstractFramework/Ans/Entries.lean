import AbstractFramework.Dex.LpTokens
import AbstractFramework.Objects.AccountIdText
import AbstractFramework.Registry.ModuleKeys

/-! # The entries of contracts and channels

The name service knows contracts and channels by entries of two names.  An entry is checked
when it is added or removed: its names are put into lower case, and that of a chain has to be
valid.  It is stored under a key of two elements, the first of which carries its length, so
that entries have keys of their own.

The texts of the two kinds differ in where they may be split: the text of a contract at its
first colon, the text of a channel at the only slash that it may have.
-/

namespace AbstractFramework.Ans

open AbstractFramework Fallible Storage Registry Delimited

/-! ## Entries -/

structure UncheckedContractEntry where
  protocol : String
  contract : String
deriving DecidableEq, Repr

structure ContractEntry where
  protocol : String
  contract : String
deriving DecidableEq, Repr

structure UncheckedChannelEntry where
  connectedChain : String
  protocol : String
deriving DecidableEq, Repr

structure ChannelEntry where
  connectedChain : TruncatedChainId
  protocol : String
deriving DecidableEq, Repr

def UncheckedContractEntry.check (entry : UncheckedContractEntry) : ContractEntry where
  contract := toAsciiLowercase entry.contract
  protocol := toAsciiLowercase entry.protocol

def UncheckedChannelEntry.check (entry : UncheckedChannelEntry) :
    Except AbstractError ChannelEntry := do
  let chainName ← TruncatedChainId.fromString entry.connectedChain
  return { connectedChain := chainName, protocol := toAsciiLowercase entry.protocol }

/-! ## Texts -/

/-- `UncheckedContractEntry::try_from`. -/
def UncheckedContractEntry.tryFrom (entry : String) : Except StdError UncheckedContractEntry :=
  match splitOnce ':' entry.toList with
  | none => .error (.msg "contract entry should be formatted as \"protocol:contract_name\".")
  | some (protocol, contractName) =>
    .ok { protocol := String.ofList protocol, contract := String.ofList contractName }

def ContractEntry.fromStr (s : String) : Except StdError ContractEntry :=
  (UncheckedContractEntry.tryFrom s).map UncheckedContractEntry.check

/-- `Display` of a contract. -/
def ContractEntry.toStr (entry : ContractEntry) : String := entry.protocol ++ ":" ++ entry.contract

/-- `UncheckedChannelEntry::try_from`. -/
def UncheckedChannelEntry.tryFrom (entry : String) : Except StdError UncheckedChannelEntry :=
  match entry.toList.splitOn '/' with
  | [connectedChain, protocol] =>
    .ok { connectedChain := String.ofList connectedChain, protocol := String.ofList protocol }
  | _ => .error (.msg
      "connected_chain entry should be formatted as \"connected_chain_name/protocol\".")

/-- A text is read as a channel and checked. -/
def ChannelEntry.read (s : String) : Except AbstractError ChannelEntry := do
  let entry ← (UncheckedChannelEntry.tryFrom s).mapError AbstractError.Std
  entry.check

/-- `Display` of a channel. -/
def ChannelEntry.toStr (entry : ChannelEntry) : String :=
  entry.connectedChain.name ++ "/" ++ entry.protocol

/-! ## Keys -/

/-- The bytes of a key of two elements.  `encode_length` of the first panics if it is too long. -/
def encodePair (first second : String) : Except Failure Bytes := do
  ensure ((strBytes first).length < 65536)
    (Failure.panicked "only supports namespaces up to length 0xFFFF")
  return joinedKey [strBytes first, strBytes second]

/-- `from_vec` of a key of two elements. -/
def decodePair (value : Bytes) : Except Failure (String × String) := do
  let (value, tu) ← splitOff value 2
  let tLen ← parseLength value
  let (tu, u) ← splitOff tu tLen
  let first ← stringFromUtf8 tu
  let second ← stringFromUtf8 u
  return (first, second)

def ContractEntry.key (entry : ContractEntry) : Except Failure Bytes :=
  encodePair entry.protocol entry.contract

def ContractEntry.fromVec (value : Bytes) : Except Failure ContractEntry := do
  let (protocol, contract) ← decodePair value
  return { protocol, contract }

def ChannelEntry.key (entry : ChannelEntry) : Except Failure Bytes :=
  encodePair entry.connectedChain.name entry.protocol

/-- The chain of a stored channel is not verified again. -/
def ChannelEntry.fromVec (value : Bytes) : Except Failure ChannelEntry := do
  let (connectedChain, protocol) ← decodePair value
  return { connectedChain := ⟨connectedChain⟩, protocol }

variable {first second : String} {bytes : Bytes}

theorem encodePair_eq_ok : encodePair first second = .ok bytes ↔
    first.utf8ByteSize < 65536 ∧ joinedKey [strBytes first, strBytes second] = bytes := by
  simp only [encodePair, bind_eq_ok, ensure_eq_ok, pure_eq_ok, strBytes_length, exists_and_left,
    exists_const]

/-- The bytes of a key give its elements back. -/
theorem decodePair_of_encodePair (encodes : encodePair first second = .ok bytes) :
    decodePair bytes = .ok (first, second) := by
  obtain ⟨short, rfl⟩ := encodePair_eq_ok.mp encodes
  rw [← strBytes_length] at short
  obtain ⟨lengths, others, split, length, element⟩ :=
    @splitOff_element (strBytes first) (strBytes second) short
  have joined : joinedKey [strBytes first, strBytes second] =
      encodeLength (strBytes first).length ++ (strBytes first ++ strBytes second) := by
    simp [joinedKey]
  simp only [decodePair, joined, split, length, element, ok_bind, stringFromUtf8_strBytes]
  rfl

theorem ContractEntry.fromVec_of_key {entry : ContractEntry} (encodes : entry.key = .ok bytes) :
    ContractEntry.fromVec bytes = .ok entry := by
  rw [ContractEntry.fromVec, decodePair_of_encodePair encodes]
  rfl

theorem ChannelEntry.fromVec_of_key {entry : ChannelEntry} (encodes : entry.key = .ok bytes) :
    ChannelEntry.fromVec bytes = .ok entry := by
  rw [ChannelEntry.fromVec, decodePair_of_encodePair encodes]
  rfl

theorem ContractEntry.key_injective {entry entry' : ContractEntry} (encodes : entry.key = .ok bytes)
    (encodes' : entry'.key = .ok bytes) : entry = entry' :=
  Except.ok.inj ((fromVec_of_key encodes).symm.trans (fromVec_of_key encodes'))

theorem ChannelEntry.key_injective {entry entry' : ChannelEntry} (encodes : entry.key = .ok bytes)
    (encodes' : entry'.key = .ok bytes) : entry = entry' :=
  Except.ok.inj ((fromVec_of_key encodes).symm.trans (fromVec_of_key encodes'))

/-! ## Reading texts -/

/-- The first name has no colon, and both are in lower case. -/
def ContractEntry.Normal (entry : ContractEntry) : Prop :=
  ':' ∉ entry.protocol.toList ∧ toAsciiLowercase entry.protocol = entry.protocol ∧
    toAsciiLowercase entry.contract = entry.contract

/-- The chain is valid, and the other name has no slash and is in lower case. -/
def ChannelEntry.Normal (entry : ChannelEntry) : Prop :=
  entry.connectedChain.verify = .ok () ∧ '/' ∉ entry.protocol.toList ∧
    toAsciiLowercase entry.protocol = entry.protocol

theorem notMem_of_splitOnce {sep : Char} {text before after : List Char}
    (split : splitOnce sep text = some (before, after)) : sep ∉ before := by
  induction text generalizing before with
  | nil => cases split
  | cons c cs ih =>
    rw [splitOnce] at split
    by_cases same : c = sep
    · rw [if_pos same, Option.some.injEq, Prod.mk.injEq] at split
      simp [← split.1]
    · rw [if_neg same, Option.map_eq_some_iff] at split
      obtain ⟨⟨before, after⟩, later, parts⟩ := split
      cases parts
      simp [Ne.symm same, ih later]

theorem toList_joined (first second : String) (sep : Char) :
    (first ++ String.singleton sep ++ second).toList = first.toList ++ sep :: second.toList := by
  simp

theorem notMem_lowercase {sep : Char} (low : sep.val.toNat < 65) {name : List Char}
    (without : sep ∉ name) : sep ∉ (toAsciiLowercase (String.ofList name)).toList := by
  rwa [← assetEntry, Dex.mem_assetEntry low, String.toList_ofList]

/-- The characters of a valid chain are lower case letters and dashes. -/
theorem chainName_chars {chain : TruncatedChainId} (valid : chain.verify = .ok ()) :
    ∀ c ∈ chain.name.toList, isChainNameChar c = true := by
  simp only [TruncatedChainId.verify] at valid
  split_ifs at valid with _ allowed
  simpa using allowed

theorem toLower_chainName {chain : TruncatedChainId} (valid : chain.verify = .ok ()) :
    chain.name.toList.map Char.toLower = chain.name.toList := by
  have lower : ∀ c, isChainNameChar c = true → c.toLower = c := by
    intro c allowed
    unfold Char.toLower
    split
    · rename_i upper
      have last : c.val.toNat ≤ 90 := UInt32.le_iff_toNat_le.mp upper.2
      have first : 65 ≤ c.val.toNat := UInt32.le_iff_toNat_le.mp upper.1
      rw [isChainNameChar, Bool.or_eq_true, beq_iff_eq] at allowed
      rcases allowed with isLower | rfl
      · have least : 'a'.val ≤ c.val := of_decide_eq_true ((Bool.and_eq_true _ _).mp isLower).1
        have least : 97 ≤ c.val.toNat := UInt32.le_iff_toNat_le.mp least
        omega
      · exact absurd first (by decide)
    · rfl
  exact (List.map_congr_left fun c listed => lower c (chainName_chars valid c listed)).trans
    (List.map_id _)

theorem ContractEntry.fromStr_toStr {entry : ContractEntry} (normal : entry.Normal) :
    ContractEntry.fromStr entry.toStr = .ok entry := by
  obtain ⟨without, lower, lower'⟩ := normal
  have text : entry.toStr.toList = entry.protocol.toList ++ ':' :: entry.contract.toList :=
    toList_joined entry.protocol entry.contract ':'
  rw [ContractEntry.fromStr, UncheckedContractEntry.tryFrom, text, splitOnce_append _ without]
  simp [Except.map, UncheckedContractEntry.check, lower, lower']

theorem ContractEntry.normal_of_fromStr {text : String} {entry : ContractEntry}
    (isText : ContractEntry.fromStr text = .ok entry) :
    entry.Normal ∧ entry.toStr = toAsciiLowercase text := by
  rw [ContractEntry.fromStr, UncheckedContractEntry.tryFrom] at isText
  cases split : splitOnce ':' text.toList with
  | none =>
    rw [split] at isText
    cases isText
  | some parts =>
    obtain ⟨protocol, contract⟩ := parts
    rw [split] at isText
    obtain rfl := Except.ok.inj isText
    have without : ':' ∉ protocol := notMem_of_splitOnce split
    refine ⟨⟨notMem_lowercase (by decide) without, toAsciiLowercase_idem _, toAsciiLowercase_idem _⟩,
      ?_⟩
    have colon : Char.toLower ':' = ':' := by decide
    have printed : (UncheckedContractEntry.check
        { protocol := String.ofList protocol, contract := String.ofList contract }).toStr.toList =
        protocol.map Char.toLower ++ ':' :: contract.map Char.toLower := by
      refine (toList_joined _ _ ':').trans ?_
      simp [UncheckedContractEntry.check, toAsciiLowercase]
    rw [← String.toList_inj, printed, toAsciiLowercase, splitOnce_eq_some split]
    simp [colon]

theorem ChannelEntry.read_toStr {entry : ChannelEntry} (normal : entry.Normal) :
    ChannelEntry.read entry.toStr = .ok entry := by
  obtain ⟨valid, without, lower⟩ := normal
  have text : entry.toStr.toList = entry.connectedChain.name.toList ++ '/' :: entry.protocol.toList :=
    toList_joined entry.connectedChain.name entry.protocol '/'
  have parts : entry.toStr.toList.splitOn '/' =
      [entry.connectedChain.name.toList, entry.protocol.toList] := by
    rw [text]
    exact splitOn_append_cons (fun inside => absurd (chainName_chars valid '/' inside) (by decide)) without
  rw [ChannelEntry.read, UncheckedChannelEntry.tryFrom, parts]
  simp [UncheckedChannelEntry.check, TruncatedChainId.fromString, valid, lower]

theorem ChannelEntry.normal_of_read {text : String} {entry : ChannelEntry}
    (isText : ChannelEntry.read text = .ok entry) :
    entry.Normal ∧ entry.toStr = toAsciiLowercase text := by
  obtain ⟨unchecked, isEntry, checked⟩ := bind_eq_ok.mp isText
  rw [mapError_eq_ok, UncheckedChannelEntry.tryFrom] at isEntry
  split at isEntry
  · rename_i connectedChain protocol split
    obtain rfl := Except.ok.inj isEntry
    obtain ⟨chain, isChain, isEntry⟩ := bind_eq_ok.mp checked
    obtain rfl := Except.ok.inj isEntry
    obtain ⟨_, valid, isChain⟩ := bind_eq_ok.mp isChain
    obtain rfl := Except.ok.inj isChain
    have isPart : protocol ∈ text.toList.splitOn '/' := by
      rw [split]
      simp
    have without : '/' ∉ protocol := notMem_of_mem_splitOn isPart
    refine ⟨⟨valid, notMem_lowercase (by decide) without, toAsciiLowercase_idem _⟩, ?_⟩
    have slash : Char.toLower '/' = '/' := by decide
    have whole : text.toList = connectedChain ++ '/' :: protocol := by
      have joined : ['/'].intercalate (text.toList.splitOn '/') = text.toList :=
        List.intercalate_splitOn '/'
      rw [← joined, split]
      simp
    have chainLower := toLower_chainName valid
    rw [String.toList_ofList] at chainLower
    have lower : (toAsciiLowercase text).toList =
        connectedChain ++ '/' :: protocol.map Char.toLower := by
      rw [toAsciiLowercase, String.toList_ofList, whole, List.map_append, List.map_cons, chainLower,
        slash]
    rw [← String.toList_inj, lower]
    simp [ChannelEntry.toStr, toAsciiLowercase]
  · cases isEntry

end AbstractFramework.Ans
