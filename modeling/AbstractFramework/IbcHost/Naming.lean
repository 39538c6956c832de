import AbstractFramework.IbcHost.Dispatch
import AbstractFramework.Objects.AccountIdJson

/-! # The names and salts of remote accounts

When an action or a `Fund` arrives for an account that is not there, the host
creates the account with a name and a salt that it makes up: the name prints the
source chain and the identifier, and the salt is the JSON text of the identifier.
The account refuses names that are too long or contain a `>`, which separates the
chains of a printed trace, and addresses are computed for salts of up to 64 bytes.
-/

namespace AbstractFramework.IbcHost

open Fallible Storage Accounts
open Account hiding World

variable {src : TruncatedChainId} {received id : AccountId}

/-! ## The creation -/

section Creation

variable [Crates] [Xion]

/-- The message that creates an account for an action or a `Fund`. -/
def CreatesImplicitly (env : HostEnv) (src : TruncatedChainId) (received : AccountId)
    (sub : HostSubMsg) : Prop :=
  (∀ account, getAccount env (received.pushChain src) ≠ .ok account) ∧
    ((∃ address action s s', action.isRegister = false ∧
      handleHostAction env src address received action s = .ok (s', [sub])) ∨
      ∃ info, fund env info received src = .ok [sub])

/-- The message has the name and the salt that it is created for. -/
def HostSubMsg.CreatesWith (sub : HostSubMsg) (name : String) (salt : Bytes) : Prop :=
  ∃ admin codeId label msg funds,
    sub.msg = .Instantiate2 admin codeId label msg funds salt ∧ msg.name = some name

theorem receiveRegister_createsWith {env : HostEnv} {name : String} {description link ns : Option String}
    {modules : List ModuleInstallConfig} {withReply : Bool} {funds : List Coin} {msgs : List HostSubMsg}
    (h : receiveRegister env id (some name) description link ns modules withReply funds = .ok msgs) :
    ∃ sub : HostSubMsg, msgs = [sub] ∧ sub.CreatesWith name (env.toJson id) := by
  simp only [receiveRegister, bind_eq_ok, mapError_eq_ok] at h
  obtain ⟨_, _, _, _, _, _, module, _, h⟩ := h
  split at h
  · simp only [bind_eq_ok, pure_eq_ok] at h
    obtain ⟨_, _, _, _, rfl⟩ := h
    exact ⟨_, rfl, _, _, _, _, _, rfl, rfl⟩
  · cases h

/-- The only message of a registration. -/
theorem createsWith_of_receiveRegister {env : HostEnv} {name : String}
    {description link ns : Option String} {modules : List ModuleInstallConfig} {withReply : Bool}
    {funds : List Coin} {sub : HostSubMsg}
    (h : receiveRegister env id (some name) description link ns modules withReply funds = .ok [sub]) :
    sub.CreatesWith name (env.toJson id) := by
  obtain ⟨sub', same, created⟩ := receiveRegister_createsWith h
  rw [List.cons.inj same |>.1]
  exact created

theorem CreatesImplicitly.createsWith {env : HostEnv} {sub : HostSubMsg}
    (creates : CreatesImplicitly env src received sub) :
    sub.CreatesWith (remoteName src (received.pushChain src)) (env.toJson (received.pushChain src)) := by
  obtain ⟨missing, ⟨address, action, s, s', notRegister, handled⟩ | ⟨info, funded⟩⟩ := creates
  · cases found : getAccount env (received.pushChain src) with
    | ok account => exact absurd found (missing account)
    | error e =>
      cases action with
      | Internal internal => cases internal; cases notRegister
      | Dispatch accountMsgs =>
        simp only [handleHostAction, found, bind_eq_ok, pure_eq_ok, Prod.mk.injEq] at handled
        obtain ⟨msgs, registers, -, rfl⟩ := handled
        exact createsWith_of_receiveRegister registers
      | Helpers helper =>
        cases helper
        simp only [handleHostAction, found, bind_eq_ok, pure_eq_ok, Prod.mk.injEq] at handled
        obtain ⟨msgs, registers, -, rfl⟩ := handled
        exact createsWith_of_receiveRegister registers
  · cases found : getAccount env (received.pushChain src) with
    | ok account => exact absurd found (missing account)
    | error e =>
      simp only [fund, found] at funded
      exact createsWith_of_receiveRegister funded

end Creation

/-! ## Names -/

theorem validateTitle_eq_ok {title : String} :
    Account.validateTitle title = .ok () ↔ 1 ≤ title.utf8ByteSize ∧ title.utf8ByteSize ≤ 64 ∧
      ∀ c ∈ title.toList, c ∉ DANGEROUS_CHARS := by
  unfold Account.validateTitle validateText MIN_TITLE_LENGTH MAX_TITLE_LENGTH
  split
  · rename_i short
    simp only [reduceCtorEq, false_iff]
    omega
  · split
    · rename_i long
      simp only [reduceCtorEq, false_iff]
      omega
    · split
      · rename_i dangerous
        simp only [List.any_eq_true, List.contains_iff_mem] at dangerous
        obtain ⟨c, listed, danger⟩ := dangerous
        simp only [reduceCtorEq, false_iff]
        exact fun h => h.2.2 c listed danger
      · rename_i safe
        simp only [List.any_eq_true, List.contains_iff_mem, not_exists, not_and] at safe
        simp only [true_iff]
        exact ⟨by omega, by omega, safe⟩

theorem remoteName_toList (src : TruncatedChainId) (id : AccountId) :
    (remoteName src id).toList = "Remote Abstract Account for ".toList ++
      (src.name.toList ++ '/' :: (id.trace.chars ++ '-' :: seqDigits id.seq)) := by
  have slash : "/".toList = ['/'] := by simp
  unfold remoteName
  rw [String.toList_append, String.toList_append, String.toList_append, AccountId.toStr_toList, slash]
  rw [List.append_assoc, List.append_assoc, List.singleton_append]

/-- A trace of more than one chain is printed with a delimiter. -/
theorem delimiter_mem_chars {chains : List TruncatedChainId} (several : 2 ≤ chains.length) :
    '>' ∈ (AccountTrace.Remote chains).chars := by
  rw [AccountTrace.chars_remote]
  have long : 2 ≤ (chains.reverse.map fun chain => chain.name.toList).length := by simpa using several
  revert long
  cases chains.reverse.map fun chain => chain.name.toList with
  | nil => simp
  | cons first rest =>
    cases rest with
    | nil => simp
    | cons second rest =>
      rw [List.intercalate_cons_cons]
      simp

theorem remoteName_one_toList (src : TruncatedChainId) (seq : AccountSequence) :
    (remoteName src ⟨.Remote [src], seq⟩).toList = "Remote Abstract Account for ".toList ++
      (src.name.toList ++ '/' :: (src.name.toList ++ '-' :: seqDigits seq)) := by
  rw [remoteName_toList, AccountTrace.chars_remote]
  simp only [List.reverse_singleton, List.map_cons, List.map_nil, List.intercalate_singleton]

theorem mem_remoteName_one {seq : AccountSequence} (verified : src.verify = .ok ()) {c : Char}
    (listed : c ∈ (remoteName src ⟨.Remote [src], seq⟩).toList) :
    c ∈ "Remote Abstract Account for ".toList ∨ isChainNameChar c = true ∨ c = '/' ∨
      c.isDigit = true := by
  rw [remoteName_one_toList] at listed
  simp only [List.mem_append, List.mem_cons] at listed
  rcases listed with text | name | slash | name | dash | digit
  · exact .inl text
  · exact .inr (.inl (src.verify_chars verified c name))
  · exact .inr (.inr (.inl slash))
  · exact .inr (.inl (src.verify_chars verified c name))
  · exact .inr (.inl (by rw [dash]; rfl))
  · exact .inr (.inr (.inr (Nat.isDigit_of_mem_toDigits (by decide) (by decide) digit)))

theorem remoteName_one_size {seq : AccountSequence} (verified : src.verify = .ok ()) :
    (remoteName src ⟨.Remote [src], seq⟩).utf8ByteSize =
      30 + 2 * src.name.utf8ByteSize + (seqDigits seq).length := by
  have ascii : ∀ c ∈ (remoteName src ⟨.Remote [src], seq⟩).toList, c.toNat < 128 := by
    intro c listed
    rcases mem_remoteName_one verified listed with text | name | rfl | digit
    · exact ascii_of_all (by decide) c text
    · have := isChainNameChar_toNat name
      omega
    · decide
    · have := isDigit_toNat digit
      omega
  have length : "Remote Abstract Account for ".toList.length = 28 := by decide
  rw [← String.ofList_toList (s := remoteName src ⟨.Remote [src], seq⟩), utf8ByteSize_ofList ascii,
    remoteName_one_toList, src.verify_size verified]
  simp only [List.length_append, List.length_cons, length]
  omega

theorem remoteName_one_safe {seq : AccountSequence} (verified : src.verify = .ok ()) :
    ∀ c ∈ (remoteName src ⟨.Remote [src], seq⟩).toList, c ∉ DANGEROUS_CHARS := by
  intro c listed danger
  have code : c.toNat = 34 ∨ c.toNat = 39 ∨ (60 ≤ c.toNat ∧ c.toNat ≤ 62) := by
    simp only [DANGEROUS_CHARS, List.mem_cons, List.not_mem_nil, or_false] at danger
    rcases danger with rfl | rfl | rfl | rfl | rfl <;> decide
  rcases mem_remoteName_one verified listed with text | name | rfl | digit
  · have apart : DANGEROUS_CHARS.all (fun d => d ∉ "Remote Abstract Account for ".toList) = true := by
      decide
    exact of_decide_eq_true (List.all_eq_true.mp apart c danger) text
  · have := isChainNameChar_toNat name
    omega
  · revert code
    decide
  · have := isDigit_toNat digit
    omega

/-! ## What is acceptable -/

/-- The account accepts the name, the salt has the size that an address is computed for, and
    no other account has it. -/
structure Acceptable (src : TruncatedChainId) (id : AccountId) : Prop where
  name : Account.validateTitle (remoteName src id) = .ok ()
  saltSize : 1 ≤ id.toJsonBinary.length ∧ id.toJsonBinary.length ≤ 64
  distinct : ∀ other : AccountId, other.trace.verifyRemote = .ok () →
    other.toJsonBinary = id.toJsonBinary → other = id

/-- A sequence is printed with at most ten digits. -/
theorem seqDigits_length (seq : AccountSequence) : (seqDigits seq).length ≤ 10 := by
  rw [seqDigits, Nat.length_toDigits_le_iff (by decide) (by decide)]
  have := UInt32.toNat_lt_size seq
  simp only [UInt32.size] at this
  omega

/-- For every received identifier and every source chain that are valid: the host creates the
    account with the name and the salt that are considered here, and they are acceptable
    exactly for a local account of the source chain, when the name of the chain, which is
    printed twice, and the sequence have no more than 34 characters together. -/
theorem implicit_creation_acceptable_iff [Crates] [Xion] (validSrc : src.verify = .ok ())
    (validTrace : (received.pushChain src).trace.verifyRemote = .ok ()) :
    (∀ (env : HostEnv) sub, env.toJson = AccountId.toJsonBinary →
      CreatesImplicitly env src received sub →
      sub.CreatesWith (remoteName src (received.pushChain src))
        (received.pushChain src).toJsonBinary) ∧
    (Acceptable src (received.pushChain src) ↔
      received.trace.chains = [] ∧
        2 * src.name.utf8ByteSize + (seqDigits received.seq).length ≤ 34) := by
  constructor
  · intro env sub json creates
    rw [← json]
    exact creates.createsWith
  · constructor
    · intro acceptable
      obtain ⟨_, short, safe⟩ := validateTitle_eq_ok.mp acceptable.name
      have one : received.trace.chains = [] := by
        by_contra several
        have long : 2 ≤ (received.trace.chains ++ [src]).length := by
          have := List.length_pos_iff.mpr several
          simp only [List.length_append, List.length_singleton]
          omega
        apply safe '>' _ (by decide)
        rw [remoteName_toList, AccountId.pushChain_eq]
        simp [delimiter_mem_chars long]
      refine ⟨one, ?_⟩
      rw [AccountId.pushChain_eq, one, List.nil_append, remoteName_one_size validSrc] at short
      omega
    · rintro ⟨one, short⟩
      have pushed : received.pushChain src = ⟨.Remote [src], received.seq⟩ := by
        rw [AccountId.pushChain_eq, one, List.nil_append]
      have size := src.verify_length validSrc
      have digits := seqDigits_length received.seq
      refine ⟨?_, ?_, ?_⟩
      · rw [pushed, validateTitle_eq_ok, remoteName_one_size validSrc]
        exact ⟨by omega, by omega, remoteName_one_safe validSrc⟩
      · rw [pushed, toJsonBinary_length validSrc]
        omega
      · exact fun other remote same => AccountId.toJsonBinary_injective remote validTrace same

section Sample

attribute [local instance] accountCrates noAuthenticators

/-- An account of juno, as osmosis knows it, and a local account of a chain with a long name. -/
theorem not_acceptable_two_hops :
    TruncatedChainId.verify ⟨"osmosis"⟩ = .ok () ∧
      (remoteAccount.pushChain ⟨"osmosis"⟩).trace.verifyRemote = .ok () ∧
      ¬ Acceptable ⟨"osmosis"⟩ (remoteAccount.pushChain ⟨"osmosis"⟩) ∧
      TruncatedChainId.verify ⟨"cosmoshub-testnet"⟩ = .ok () ∧
      ((AccountId.ofLocal 0).pushChain ⟨"cosmoshub-testnet"⟩).trace.verifyRemote = .ok () ∧
      ¬ Acceptable ⟨"cosmoshub-testnet"⟩ ((AccountId.ofLocal 0).pushChain ⟨"cosmoshub-testnet"⟩) := by
  have refused : Account.validateTitle (remoteName ⟨"osmosis"⟩ (remoteAccount.pushChain ⟨"osmosis"⟩)) =
      .error .TitleContainsDangerousCharacters := by decide
  have tooLong : Account.validateTitle (remoteName ⟨"cosmoshub-testnet"⟩
      ((AccountId.ofLocal 0).pushChain ⟨"cosmoshub-testnet"⟩)) = .error (.TitleInvalidLong 64) := by
    decide
  refine ⟨rfl, rfl, ?_, rfl, rfl, ?_⟩
  · intro acceptable
    rw [acceptable.name] at refused
    cases refused
  · intro acceptable
    rw [acceptable.name] at tooLong
    cases tooLong

theorem implicit_creation_acceptable_one_hop : Acceptable ⟨"juno"⟩ remoteAccount :=
  have verified : TruncatedChainId.verify ⟨"juno"⟩ = .ok () := rfl
  have remote : ((AccountId.ofLocal 0).pushChain ⟨"juno"⟩).trace.verifyRemote = .ok () := rfl
  (implicit_creation_acceptable_iff verified remote).2.mpr ⟨rfl, by decide⟩

end Sample

end AbstractFramework.IbcHost
