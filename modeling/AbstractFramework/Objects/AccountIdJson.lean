import AbstractFramework.Objects.AccountIdText

/-! # The JSON form of account identifiers

`to_json_binary` of an identifier: an object with its trace and its sequence.  The
names of a verified trace are made of characters that JSON does not escape, so the
length of the text is that of its parts, and the parts are recovered by splitting
it.
-/

namespace AbstractFramework

open Fallible Storage

/-! ## Rendering -/

/-- A character inside a JSON string. -/
def jsonEscape (c : Char) : List Char :=
  let n := c.toNat
  if n = 34 ∨ n = 92 then ['\\', c]
  else if n = 8 then ['\\', 'b']
  else if n = 9 then ['\\', 't']
  else if n = 10 then ['\\', 'n']
  else if n = 12 then ['\\', 'f']
  else if n = 13 then ['\\', 'r']
  else if n < 32 then ['\\', 'u', '0', '0', Nat.digitChar (n / 16), Nat.digitChar (n % 16)]
  else [c]

def jsonString (s : String) : List Char := '"' :: (s.toList.flatMap jsonEscape ++ ['"'])

def jsonArray (items : List (List Char)) : List Char := '[' :: ([','].intercalate items ++ [']'])

def AccountTrace.toJson : AccountTrace → List Char
  | .Local => jsonString "local"
  | .Remote chains =>
    "\x7b\"remote\":".toList ++ jsonArray (chains.map fun chain => jsonString chain.name) ++
      "\x7d".toList

def AccountId.toJson (id : AccountId) : List Char :=
  "\x7b\"trace\":".toList ++ id.trace.toJson ++ ",\"seq\":".toList ++ seqDigits id.seq ++
    "\x7d".toList

/-- `to_json_binary` of an identifier. -/
def AccountId.toJsonBinary (id : AccountId) : Bytes := strBytes (String.ofList id.toJson)

/-! ## Characters -/

theorem isChainNameChar_toNat {c : Char} (h : isChainNameChar c = true) :
    c.toNat = 45 ∨ (97 ≤ c.toNat ∧ c.toNat ≤ 122) := by
  simp only [isChainNameChar, Bool.or_eq_true, beq_iff_eq] at h
  rcases h with lower | rfl
  · obtain ⟨low, high⟩ := Bool.and_eq_true_iff.mp lower
    exact .inr ⟨of_decide_eq_true low, of_decide_eq_true high⟩
  · exact .inl rfl

theorem isDigit_toNat {c : Char} (h : c.isDigit = true) : 48 ≤ c.toNat ∧ c.toNat ≤ 57 := by
  simp only [Char.isDigit, Bool.and_eq_true, decide_eq_true_eq] at h
  exact h

theorem ascii_of_all {cs : List Char} (h : cs.all (fun c => c.toNat < 128) = true) :
    ∀ c ∈ cs, c.toNat < 128 :=
  fun c listed => of_decide_eq_true (List.all_eq_true.mp h c listed)

theorem jsonEscape_of_chainNameChar {c : Char} (h : isChainNameChar c = true) : jsonEscape c = [c] := by
  have code := isChainNameChar_toNat h
  unfold jsonEscape
  simp only
  repeat rw [if_neg (by omega)]

theorem jsonString_of_chainName {s : String} (h : ∀ c ∈ s.toList, isChainNameChar c = true) :
    jsonString s = '"' :: (s.toList ++ ['"']) := by
  have same : s.toList.flatMap jsonEscape = s.toList := by
    rw [List.flatMap_congr fun c listed => jsonEscape_of_chainNameChar (h c listed)]
    simp
  rw [jsonString, same]

/-- A text of ASCII characters has as many bytes as characters. -/
theorem utf8ByteSize_ofList {cs : List Char} (ascii : ∀ c ∈ cs, c.toNat < 128) :
    (String.ofList cs).utf8ByteSize = cs.length := by
  induction cs with
  | nil => rfl
  | cons c cs ih =>
    have one : (String.singleton c).utf8ByteSize = 1 := by
      rw [String.utf8ByteSize_singleton, Char.utf8Size_eq_one_iff]
      have := ascii c List.mem_cons_self
      exact Nat.le_of_lt_succ this
    have split : String.ofList (c :: cs) = String.singleton c ++ String.ofList cs := by
      rw [String.singleton_eq_ofList, ← String.ofList_append]
      rfl
    rw [split, String.utf8ByteSize_append, one, ih fun d listed => ascii d (.tail c listed),
      List.length_cons]
    omega

theorem TruncatedChainId.verify_chars {chain : TruncatedChainId} (h : chain.verify = .ok ()) :
    ∀ c ∈ chain.name.toList, isChainNameChar c = true := by
  simp only [TruncatedChainId.verify] at h
  split_ifs at h with _ allowed
  exact List.all_eq_true.mp (by simpa using allowed)

/-- A verified name has as many bytes as characters. -/
theorem TruncatedChainId.verify_size {chain : TruncatedChainId} (h : chain.verify = .ok ()) :
    chain.name.utf8ByteSize = chain.name.toList.length := by
  rw [← utf8ByteSize_ofList, String.ofList_toList]
  intro c listed
  have := isChainNameChar_toNat (chain.verify_chars h c listed)
  omega

/-! ## Verified identifiers -/

theorem AccountTrace.verifyRemote_chains {trace : AccountTrace} (h : trace.verifyRemote = .ok ()) :
    ∀ chain ∈ trace.chains, chain.verify = .ok () := by
  unfold AccountTrace.verifyRemote at h
  split at h
  · cases h
  · exact fun chain listed => ((AccountTrace.verify_chains h).2 chain listed).1

def quoted (chain : TruncatedChainId) : List Char := '"' :: (chain.name.toList ++ ['"'])

theorem quoted_injective {chain chain' : TruncatedChainId} (h : quoted chain = quoted chain') :
    chain = chain' := by
  obtain ⟨name⟩ := chain
  obtain ⟨name'⟩ := chain'
  have names : name.toList = name'.toList := List.append_cancel_right (List.cons.inj h).2
  rw [String.toList_inj.mp names]

/-- A character that no name contains is in no quoted name. -/
theorem notMem_quoted {c : Char} {chain : TruncatedChainId} (verified : chain.verify = .ok ())
    (notQuote : c ≠ '"') (notName : isChainNameChar c = false) : c ∉ quoted chain := by
  simp only [quoted, List.mem_cons, List.mem_append, List.not_mem_nil, or_false, not_or]
  refine ⟨notQuote, ?_, notQuote⟩
  intro listed
  rw [chain.verify_chars verified c listed] at notName
  cases notName

theorem map_jsonString {chains : List TruncatedChainId}
    (verified : ∀ chain ∈ chains, chain.verify = .ok ()) :
    (chains.map fun chain => jsonString chain.name) = chains.map quoted := by
  apply List.map_congr_left
  intro chain listed
  exact jsonString_of_chainName (chain.verify_chars (verified chain listed))

theorem toJson_of_verified {chains : List TruncatedChainId} {seq : AccountSequence}
    (verified : ∀ chain ∈ chains, chain.verify = .ok ()) :
    (AccountId.mk (.Remote chains) seq).toJson =
      "\x7b\"trace\":\x7b\"remote\":[".toList ++ ([','].intercalate (chains.map quoted) ++
        ']' :: ("\x7d,\"seq\":".toList ++ (seqDigits seq ++ "\x7d".toList))) := by
  have opening : "\x7b\"trace\":\x7b\"remote\":[".toList =
      "\x7b\"trace\":".toList ++ ("\x7b\"remote\":".toList ++ ['[']) := by simp
  have closing : "\x7d,\"seq\":".toList = "\x7d".toList ++ ",\"seq\":".toList := by simp
  unfold AccountId.toJson AccountTrace.toJson jsonArray
  dsimp only
  rw [map_jsonString verified, opening, closing]
  simp only [List.append_assoc, List.cons_append, List.nil_append]

/-- Names that are joined by commas are recovered. -/
theorem intercalate_quoted_injective {chains chains' : List TruncatedChainId}
    (verified : ∀ chain ∈ chains, chain.verify = .ok ())
    (verified' : ∀ chain ∈ chains', chain.verify = .ok ())
    (h : [','].intercalate (chains.map quoted) = [','].intercalate (chains'.map quoted)) :
    chains = chains' := by
  have noComma : ∀ {cs : List TruncatedChainId}, (∀ chain ∈ cs, chain.verify = .ok ()) →
      ∀ l ∈ cs.map quoted, ',' ∉ l := by
    intro cs ok l listed
    obtain ⟨chain, member, rfl⟩ := List.mem_map.mp listed
    exact notMem_quoted (ok chain member) (by decide) (by decide)
  have nonempty : ∀ chain rest, [','].intercalate ((chain :: rest).map quoted) ≠ [] := by
    intro chain rest empty
    cases rest <;> simp [quoted, List.intercalate] at empty
  cases chains with
  | nil =>
    cases chains' with
    | nil => rfl
    | cons chain' rest' => exact absurd h.symm (nonempty chain' rest')
  | cons chain rest =>
    cases chains' with
    | nil => exact absurd h (nonempty chain rest)
    | cons chain' rest' =>
      have same := Delimited.intercalate_injective (noComma verified) (noComma verified') (by simp)
        (by simp) h
      exact List.map_injective_iff.mpr (fun _ _ => quoted_injective) same

/-- Verified remote identifiers are determined by their JSON text. -/
theorem AccountId.toJson_injective {id id' : AccountId} (remote : id.trace.verifyRemote = .ok ())
    (remote' : id'.trace.verifyRemote = .ok ()) (h : id.toJson = id'.toJson) : id = id' := by
  obtain ⟨trace, seq⟩ := id
  obtain ⟨trace', seq'⟩ := id'
  cases trace with
  | Local => cases remote
  | Remote chains =>
    cases trace' with
    | Local => cases remote'
    | Remote chains' =>
      have verified : ∀ chain ∈ chains, chain.verify = .ok () :=
        AccountTrace.verifyRemote_chains remote
      have verified' : ∀ chain ∈ chains', chain.verify = .ok () :=
        AccountTrace.verifyRemote_chains remote'
      rw [toJson_of_verified verified, toJson_of_verified verified'] at h
      have noBracket : ∀ {cs : List TruncatedChainId}, (∀ chain ∈ cs, chain.verify = .ok ()) →
          ']' ∉ [','].intercalate (cs.map quoted) := by
        intro cs ok
        rw [Delimited.mem_intercalate (by decide)]
        rintro ⟨part, listed, inside⟩
        obtain ⟨chain, member, rfl⟩ := List.mem_map.mp listed
        exact notMem_quoted (ok chain member) (by decide) (by decide) inside
      -- the array ends at the first closing bracket
      have split := congrArg (splitOnce ']') (List.append_cancel_left h)
      rw [splitOnce_append _ (noBracket verified), splitOnce_append _ (noBracket verified'),
        Option.some.injEq, Prod.mk.injEq] at split
      obtain rfl := intercalate_quoted_injective verified verified' split.1
      have digits : seqDigits seq = seqDigits seq' :=
        List.append_cancel_right (List.append_cancel_left split.2)
      have read := parseU32_seqDigits seq
      rw [digits, parseU32_seqDigits seq', Except.ok.injEq] at read
      rw [read]

theorem AccountId.toJsonBinary_injective {id id' : AccountId} (remote : id.trace.verifyRemote = .ok ())
    (remote' : id'.trace.verifyRemote = .ok ()) (h : id.toJsonBinary = id'.toJsonBinary) :
    id = id' :=
  AccountId.toJson_injective remote remote' (String.ofList_inj.mp (strBytes_injective h))

theorem seqDigits_ascii {seq : AccountSequence} : ∀ c ∈ seqDigits seq, c.toNat < 128 := by
  intro c listed
  have digit : c.isDigit = true := Nat.isDigit_of_mem_toDigits (by decide) (by decide) listed
  have code := isDigit_toNat digit
  omega

/-- The size of the JSON text of an identifier with one chain. -/
theorem toJsonBinary_length {chain : TruncatedChainId} {seq : AccountSequence}
    (verified : chain.verify = .ok ()) :
    (AccountId.mk (.Remote [chain]) seq).toJsonBinary.length =
      32 + chain.name.utf8ByteSize + (seqDigits seq).length := by
  have all : ∀ c ∈ [chain], c.verify = .ok () := by simpa using verified
  have ascii : ∀ c ∈ (AccountId.mk (.Remote [chain]) seq).toJson, c.toNat < 128 := by
    rw [toJson_of_verified all]
    intro c listed
    simp only [List.map_cons, List.map_nil, List.intercalate_singleton, quoted, List.mem_append,
      List.mem_cons, List.not_mem_nil, or_false] at listed
    rcases listed with opening | (rfl | name | rfl) | rfl | closing | digit | last
    · exact ascii_of_all (by decide) c opening
    · decide
    · have := isChainNameChar_toNat (chain.verify_chars verified c name)
      omega
    · decide
    · decide
    · exact ascii_of_all (by decide) c closing
    · exact seqDigits_ascii c digit
    · exact ascii_of_all (by decide) c last
  rw [AccountId.toJsonBinary, strBytes_length, utf8ByteSize_ofList ascii, toJson_of_verified all,
    chain.verify_size verified]
  simp [quoted]
  omega

end AbstractFramework
