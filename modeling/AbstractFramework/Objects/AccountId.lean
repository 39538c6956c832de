import AbstractFramework.Objects.Chain

/-! # Account identifiers

An account is identified by a sequence number and the trace of the chains that
its creation went through.  This module has the validation of chain names and
traces, the text form, and the storage key with its decoder.
-/

namespace AbstractFramework

open Fallible Storage

/-- The UTF-8 bytes of a string. -/
def strBytes (s : String) : Bytes := s.toUTF8.data.toList

/-! ## Chain names -/

def MAX_CHAIN_NAME_LENGTH : Nat := 20
def MIN_CHAIN_NAME_LENGTH : Nat := 3

/-- The chain-id without its number: `juno-1` is `juno`. -/
structure TruncatedChainId where
  name : String
deriving DecidableEq, Repr

/-- The characters a chain name is made of. -/
def isChainNameChar (c : Char) : Bool := c.isLower || c == '-'

def TruncatedChainId.verify (chain : TruncatedChainId) : Except AbstractError Unit :=
  let len := chain.name.utf8ByteSize
  if chain.name.isEmpty || len < MIN_CHAIN_NAME_LENGTH || MAX_CHAIN_NAME_LENGTH < len then
    .error (.FormattingError "chain-seq"
      ("between " ++ toString MIN_CHAIN_NAME_LENGTH ++ " and " ++ toString MAX_CHAIN_NAME_LENGTH)
      (toString len))
  else if !chain.name.toList.all isChainNameChar then
    .error (.FormattingError "chain_name" "chain-name" chain.name)
  else .ok ()

def TruncatedChainId.fromString (value : String) : Except AbstractError TruncatedChainId := do
  let chain : TruncatedChainId := ⟨value⟩
  chain.verify
  return chain

/-! ## Traces -/

def MAX_TRACE_LENGTH : Nat := 6
def LOCAL : String := "local"
def CHAIN_DELIMITER : String := ">"

/-- The chains that triggered the account creation, the last one last. -/
inductive AccountTrace where
  | Local
  | Remote (chains : List TruncatedChainId)
deriving DecidableEq, Repr

def AccountTrace.chains : AccountTrace → List TruncatedChainId
  | .Local => []
  | .Remote chains => chains

/-- The loop of `AccountTrace.verify` over the chains of a remote trace. -/
def verifyChains : List TruncatedChainId → Except AbstractError Unit
  | [] => .ok ()
  | chain :: rest => do
    chain.verify
    ensure (chain.name ≠ LOCAL) (AbstractError.FormattingError "chain-seq" "not 'local'" chain.name)
    verifyChains rest

def AccountTrace.verify : AccountTrace → Except AbstractError Unit
  | .Local => .ok ()
  | .Remote chains => do
    ensure (chains.length ≤ MAX_TRACE_LENGTH)
      (AbstractError.FormattingError "chain-seq"
        ("between 1 and " ++ toString MAX_TRACE_LENGTH) (toString chains.length))
    verifyChains chains

/-- Assert that the trace is remote and verify the formatting. -/
def AccountTrace.verifyRemote (trace : AccountTrace) : Except AbstractError Unit :=
  if trace = .Local then .error (.Std (.msg "expected remote account trace"))
  else trace.verify

def AccountTrace.pushChain (trace : AccountTrace) (chain : TruncatedChainId) : AccountTrace :=
  match trace with
  | .Local => .Remote [chain]
  | .Remote path => .Remote (path ++ [chain])

def AccountTrace.toStr : AccountTrace → String
  | .Local => LOCAL
  | .Remote chains => CHAIN_DELIMITER.intercalate (chains.reverse.map (·.name))

/-! ## Identifiers -/

abbrev AccountSequence := UInt32

structure AccountId where
  trace : AccountTrace
  seq : AccountSequence
deriving DecidableEq, Repr

/-- An identifier with a verified trace. -/
def AccountId.new (seq : AccountSequence) (trace : AccountTrace) :
    Except AbstractError AccountId := do
  trace.verify
  return { seq, trace }

/-- The identifier of a locally created account. -/
def AccountId.ofLocal (seq : AccountSequence) : AccountId := { seq, trace := .Local }

def AccountId.isLocal (id : AccountId) : Bool := id.trace = .Local

def AccountId.pushChain (id : AccountId) (chain : TruncatedChainId) : AccountId :=
  { id with trace := id.trace.pushChain chain }

theorem AccountId.pushChain_eq (id : AccountId) (chain : TruncatedChainId) :
    id.pushChain chain = ⟨.Remote (id.trace.chains ++ [chain]), id.seq⟩ := by
  unfold AccountId.pushChain AccountTrace.pushChain
  cases id.trace <;> rfl

/-- The identifier of an account on a host chain based on the current account.  Pops the
    trace if the host chain is the last chain in the trace. -/
def AccountId.intoRemoteAccountId (id : AccountId) (clientChain hostChain : TruncatedChainId) :
    AccountId :=
  match id.trace with
  | .Remote chains =>
    if chains.getLast? ≠ some hostChain then { id with trace := .Remote (chains ++ [clientChain]) }
    else
      let chains := chains.dropLast
      -- without chains the account is a local one
      { id with trace := if chains = [] then .Local else .Remote chains }
  | .Local => { id with trace := .Remote [clientChain] }

def AccountId.toStr (id : AccountId) : String := id.trace.toStr ++ "-" ++ toString id.seq.toNat

/-- The account of the Abstract admin. -/
def ABSTRACT_ACCOUNT_ID : AccountId := { seq := 0, trace := .Local }

/-! ## Storage keys -/

/-- Key elements of a trace, filled up with empty placeholders. -/
def AccountTrace.key (trace : AccountTrace) : List Bytes :=
  let serialized := match trace with
    | .Local => [strBytes LOCAL]
    | .Remote chains => chains.map (fun c => strBytes c.name)
  serialized ++ List.replicate (MAX_TRACE_LENGTH - serialized.length) []

/-- A sequence number as four big-endian bytes. -/
def seqBytes (seq : AccountSequence) : Bytes :=
  let n := seq.toNat
  [UInt8.ofNat (n / 16777216), UInt8.ofNat (n / 65536 % 256), UInt8.ofNat (n / 256 % 256),
    UInt8.ofNat (n % 256)]

def AccountId.key (id : AccountId) : List Bytes := id.trace.key ++ [seqBytes id.seq]

/-- The bytes a map stores for the identifier. -/
abbrev AccountKey := Bytes

def AccountId.storageKey (id : AccountId) : AccountKey := joinedKey id.key

/-- The loop of `splitFirstKey`.  A slice outside of the value panics. -/
def splitFirstKeyLoop : Nat → Bytes → Bytes → Except Failure (Bytes × Bytes)
  | 0, firstKey, value => .ok (firstKey, value)
  | n + 1, firstKey, hi :: lo :: value =>
    -- the last of the split keys loses its length prefix
    let firstKey := if n = 0 then firstKey else firstKey ++ [hi, lo]
    let subkeyLen := decodeLength hi lo
    if subkeyLen ≤ value.length then
      splitFirstKeyLoop n (firstKey ++ value.take subkeyLen) (value.drop subkeyLen)
    else .error (.panicked "range end index out of range")
  | _ + 1, _, _ => .error (.panicked "range end index out of range")

/-- Splits the first `keyElems` keys off the value. -/
def splitFirstKey (keyElems : Nat) (value : Bytes) : Except Failure (Bytes × Bytes) :=
  splitFirstKeyLoop keyElems [] value

/-- `String::from_utf8`. -/
def stringFromUtf8 (bytes : Bytes) : Except Failure String :=
  okOr (String.fromUTF8? ⟨bytes.toArray⟩) (.error (.msg "invalid utf-8 sequence"))

/-- The loop of `AccountTrace.fromVec`, over the indices still to be visited. -/
def traceFromVecLoop : List Nat → List TruncatedChainId → Bytes → Except Failure AccountTrace
  | [], trace, _ => .ok (.Remote trace)
  | i :: is, trace, value => do
    let (currentChain, remainder) ← splitFirstKey 1 value
    if currentChain = [] then traceFromVecLoop is trace remainder
    else
      let chain ← stringFromUtf8 currentChain
      if i = 0 ∧ chain = LOCAL then .ok .Local
      else
        let chain ← (TruncatedChainId.fromString chain).mapError
          fun _ => Failure.panicked "called `Result::unwrap()` on an `Err` value"
        traceFromVecLoop is (trace ++ [chain]) remainder

def AccountTrace.fromVec (value : Bytes) : Except Failure AccountTrace :=
  traceFromVecLoop (List.range (MAX_TRACE_LENGTH - 1)) [] value

/-- `u32::from_vec`: exactly four bytes. -/
def seqFromVec : Bytes → Except Failure AccountSequence
  | [a, b, c, d] =>
    .ok (UInt32.ofNat (a.toNat * 16777216 + b.toNat * 65536 + c.toNat * 256 + d.toNat))
  | _ => .error (.error (.msg "could not convert to a fixed-size array"))

def AccountId.fromVec (value : Bytes) : Except Failure AccountId := do
  let (trace, seq) ← splitFirstKey MAX_TRACE_LENGTH value
  let seq ← seqFromVec seq
  let trace ← AccountTrace.fromVec trace
  return { seq, trace }

end AbstractFramework
