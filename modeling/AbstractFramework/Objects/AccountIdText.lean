import AbstractFramework.Lib.Delimited
import AbstractFramework.Objects.AccountIdCodec

/-! # The text form of account identifiers

An identifier is printed as its trace, a dash and its sequence.  The parser
splits at the first dash, although a chain name may contain dashes, unwraps the
number it reads after it, and takes every text that starts with `local` for a
local identifier.

`fromStr_of_text` says what the parser returns for a text of two parts, and
`parseU32_eq_ok` which texts are numbers.  The two results, that printing and
parsing are inverse, are assembled from them.

The last part is about printing alone: although the dash does not tell where the trace
ends, and a text may not be read back, accepted identifiers have different texts.
-/

namespace AbstractFramework

open Fallible

/-! ## Numbers -/

/-- `std::num::IntErrorKind`. -/
inductive ParseIntError where
  | Empty
  | InvalidDigit
  | PosOverflow
deriving DecidableEq, Repr

/-- The loop of `u32::from_str`: a digit is looked at before the overflow. -/
def parseDigits : List Char → Nat → Except ParseIntError Nat
  | [], n => .ok n
  | c :: cs, n =>
    if c.isDigit = false then .error .InvalidDigit
    else if n * 10 + (c.toNat - '0'.toNat) < UInt32.size then
      parseDigits cs (n * 10 + (c.toNat - '0'.toNat))
    else .error .PosOverflow

/-- `u32::from_str`: an optional plus sign and decimal digits. -/
def parseU32 (text : List Char) : Except ParseIntError UInt32 :=
  match text with
  | [] => .error .Empty
  | ['+'] => .error .InvalidDigit
  | '+' :: digits => (parseDigits digits 0).map UInt32.ofNat
  | digits => (parseDigits digits 0).map UInt32.ofNat

/-- The decimal digits a sequence is printed with. -/
def seqDigits (seq : AccountSequence) : List Char := Nat.toDigits 10 seq.toNat

/-! ## Parsing -/

/-- A text parser returns an error or panics. -/
inductive ParseFailure where
  | error (e : AbstractError)
  | panicked (e : ParseIntError)
deriving DecidableEq, Repr

/-- `str::split_once`. -/
def splitOnce (sep : Char) : List Char → Option (List Char × List Char)
  | [] => none
  | c :: cs =>
    if c = sep then some ([], cs)
    else (splitOnce sep cs).map fun (before, after) => (c :: before, after)

/-- `account_trace_from_str`.  Nothing is verified. -/
def accountTraceFromStr (trace : List Char) : AccountTrace :=
  if trace = LOCAL.toList then .Local
  else .Remote ((trace.splitOn '>').map fun name => ⟨String.ofList name⟩).reverse

def AccountId.fromStr (value : String) : Except ParseFailure AccountId :=
  match splitOnce '-' value.toList with
  | none => .error (.error (.FormattingError "AccountId" "trace-999" value))
  | some (traceStr, seqStr) => do
    let seq ← (parseU32 seqStr).mapError ParseFailure.panicked
    -- the prefix of the whole text decides, not the trace
    if LOCAL.toList <+: value.toList then return { trace := .Local, seq }
    else return { trace := accountTraceFromStr traceStr, seq }

/-! ## Reading numbers -/

theorem le_ofDigitChars (cs : List Char) (n : Nat) : n ≤ Nat.ofDigitChars 10 cs n := by
  induction cs generalizing n with
  | nil => simp [Nat.ofDigitChars]
  | cons c cs ih =>
    rw [Nat.ofDigitChars_cons]
    have := ih (10 * n + (c.toNat - '0'.toNat))
    omega

/-- The loop succeeds on digits whose value fits. -/
theorem parseDigits_eq_ok {cs : List Char} {n m : Nat} (small : n < UInt32.size) :
    parseDigits cs n = .ok m ↔
      (∀ c ∈ cs, c.isDigit) ∧ Nat.ofDigitChars 10 cs n = m ∧ m < UInt32.size := by
  induction cs generalizing n with
  | nil =>
    simp only [parseDigits, Except.ok.injEq, Nat.ofDigitChars, List.foldl_nil, List.not_mem_nil,
      false_implies, implies_true, true_and]
    constructor
    · rintro rfl; exact ⟨rfl, small⟩
    · exact fun h => h.1
  | cons c cs ih =>
    rw [parseDigits, Nat.ofDigitChars_cons, List.forall_mem_cons, Nat.mul_comm 10 n]
    cases digit : c.isDigit with
    | false => simp
    | true =>
      simp only [Bool.true_eq_false, ↓reduceIte, true_and]
      split
      · rename_i fits
        exact ih fits
      · rename_i large
        -- the value only grows, so it cannot fit later
        have := le_ofDigitChars cs (n * 10 + (c.toNat - '0'.toNat))
        simp only [reduceCtorEq, false_iff]
        rintro ⟨_, rfl, fits⟩
        omega

theorem parseU32_eq_ok {text : List Char} {seq : UInt32} (h : parseU32 text = .ok seq) :
    ∀ c ∈ text, c = '+' ∨ c.isDigit := by
  have digits : ∀ ds, (parseDigits ds 0).map UInt32.ofNat = .ok seq → ∀ c ∈ ds, c.isDigit := by
    intro ds ok
    cases parsed : parseDigits ds 0 with
    | error e => simp [parsed, Except.map] at ok
    | ok m => exact ((parseDigits_eq_ok (by decide)).mp parsed).1
  unfold parseU32 at h
  split at h
  · cases h
  · cases h
  · intro c listed
    rcases List.mem_cons.mp listed with rfl | later
    · exact .inl rfl
    · exact .inr (digits _ h c later)
  · exact fun c listed => .inr (digits _ h c listed)

/-- A printed sequence is read back. -/
theorem parseU32_seqDigits (seq : AccountSequence) : parseU32 (seqDigits seq) = .ok seq := by
  have digits : ∀ c ∈ seqDigits seq, c.isDigit := fun c listed =>
    Nat.isDigit_of_mem_toDigits (by decide) (by decide) listed
  have parsed : parseDigits (seqDigits seq) 0 = .ok seq.toNat :=
    (parseDigits_eq_ok (by decide)).mpr
      ⟨digits, Nat.ofDigitChars_ten_toDigits, UInt32.toNat_lt_size seq⟩
  unfold parseU32
  split
  · rename_i empty
    exact absurd empty Nat.toDigits_ne_nil
  · rename_i plus
    have := digits '+' (by rw [plus]; simp)
    cases this
  · rename_i plus
    have := digits '+' (by rw [plus]; simp)
    cases this
  · rw [parsed]
    simp [Except.map]

/-! ## Splitting -/

theorem splitOnce_eq_none {sep : Char} {text : List Char} :
    splitOnce sep text = none ↔ sep ∉ text := by
  induction text with
  | nil => simp [splitOnce]
  | cons c cs ih =>
    rw [splitOnce, List.mem_cons, not_or, ← ih]
    by_cases same : c = sep
    · simp [same]
    · simp [same, Ne.symm same]

theorem splitOnce_append {sep : Char} {before : List Char} (after : List Char)
    (without : sep ∉ before) :
    splitOnce sep (before ++ sep :: after) = some (before, after) := by
  induction before with
  | nil => simp [splitOnce]
  | cons c cs ih =>
    rw [List.mem_cons, not_or] at without
    simp [splitOnce, Ne.symm without.1, ih without.2]

theorem splitOnce_eq_some {sep : Char} {text before after : List Char}
    (h : splitOnce sep text = some (before, after)) : text = before ++ sep :: after := by
  induction text generalizing before with
  | nil => cases h
  | cons c cs ih =>
    rw [splitOnce] at h
    by_cases same : c = sep
    · rw [if_pos same, Option.some.injEq, Prod.mk.injEq] at h
      obtain ⟨rfl, rfl⟩ := h
      simp [same]
    · rw [if_neg same, Option.map_eq_some_iff] at h
      obtain ⟨⟨before, after⟩, later, parts⟩ := h
      cases parts
      simp [ih later]

/-- A word without the separator does not reach past it. -/
theorem prefix_append_separator {sep : Char} {word before after : List Char}
    (without : sep ∉ word) : word <+: before ++ sep :: after ↔ word <+: before := by
  constructor
  · intro starts
    rcases List.prefix_or_prefix_of_prefix starts (List.prefix_append before (sep :: after)) with
      inside | ⟨rest, rfl⟩
    · exact inside
    · cases rest with
      | nil => simp
      | cons c cs =>
        rw [List.prefix_append_right_inj, List.cons_prefix_cons] at starts
        exact absurd (by simp [starts.1]) without
  · exact fun starts => starts.trans (List.prefix_append _ _)

/-! ## Printing -/

/-- The characters of a printed trace. -/
def AccountTrace.chars (trace : AccountTrace) : List Char := trace.toStr.toList

theorem AccountTrace.chars_remote (chains : List TruncatedChainId) :
    (AccountTrace.Remote chains).chars =
      ['>'].intercalate (chains.reverse.map fun chain => chain.name.toList) := by
  simp [chars, toStr, CHAIN_DELIMITER, Function.comp_def]

theorem AccountId.toStr_toList (id : AccountId) :
    id.toStr.toList = id.trace.chars ++ '-' :: seqDigits id.seq := by
  simp [AccountId.toStr, AccountTrace.chars, seqDigits, Nat.toList_repr]

theorem AccountId.toStr_eq_iff {id : AccountId} {s : String} :
    id.toStr = s ↔ s.toList = id.trace.chars ++ '-' :: seqDigits id.seq := by
  rw [← AccountId.toStr_toList, String.toList_inj, eq_comm]

/-- The parser on a text of two parts. -/
theorem AccountId.fromStr_of_text {s : String} {before after : List Char} (without : '-' ∉ before)
    (text : s.toList = before ++ '-' :: after) :
    AccountId.fromStr s = (parseU32 after).mapError ParseFailure.panicked >>= fun seq =>
      .ok { trace := if LOCAL.toList <+: before then .Local else accountTraceFromStr before, seq } := by
  have noDash : '-' ∉ LOCAL.toList := by decide
  simp only [AccountId.fromStr, text, splitOnce_append _ without, prefix_append_separator noDash]
  split <;> rfl

/-- The names of a verified trace have no delimiter in them. -/
theorem delimiter_notMem {trace : AccountTrace} {u : Unit} (verified : trace.verify = .ok u) :
    ∀ chain ∈ trace.chains, '>' ∉ chain.name.toList := by
  intro chain listed inside
  have ok := ((AccountTrace.verify_chains verified).2 chain listed).1
  simp only [TruncatedChainId.verify] at ok
  split_ifs at ok with _ allowed
  have := List.all_eq_true.mp (by simpa using allowed) '>' inside
  cases this

/-- A trace is parsed back from its names. -/
theorem accountTraceFromStr_chars {chains : List TruncatedChainId} (some : chains ≠ [])
    (without : ∀ chain ∈ chains, '>' ∉ chain.name.toList)
    (remote : (AccountTrace.Remote chains).chars ≠ LOCAL.toList) :
    accountTraceFromStr (AccountTrace.Remote chains).chars = .Remote chains := by
  rw [accountTraceFromStr, if_neg remote, AccountTrace.chars_remote,
    List.splitOn_intercalate '>' (by simpa using without) (by simpa using some)]
  simp [Function.comp_def]

/-- A text without a chain is read as a trace of one empty name. -/
theorem accountTraceFromStr_nil : accountTraceFromStr [] = .Remote [⟨""⟩] := by
  decide

/-- What is before the dash is parsed and printed unchanged. -/
theorem chars_accountTraceFromStr (trace : List Char) : (accountTraceFromStr trace).chars = trace := by
  unfold accountTraceFromStr
  split
  · rename_i isLocal
    rw [isLocal]
    rfl
  · rw [AccountTrace.chars_remote]
    simp [Function.comp_def, List.intercalate_splitOn]

/-- A printed trace starts with the name of its last chain. -/
theorem local_prefix_chars (chains : List TruncatedChainId) (last : TruncatedChainId) :
    LOCAL.toList <+: (AccountTrace.Remote (chains ++ [last])).chars ↔
      LOCAL.toList <+: last.name.toList := by
  rw [AccountTrace.chars_remote, List.reverse_append, List.reverse_singleton,
    List.singleton_append, List.map_cons]
  cases chains.reverse.map fun chain => chain.name.toList with
  | nil => simp
  | cons next rest =>
    rw [List.intercalate_cons_cons, List.append_assoc, List.singleton_append]
    exact prefix_append_separator (by decide)

/-! ## The codec -/

/-- The traces whose text is parsed back: the last chain's name does not look
    local, and no name has a dash. -/
def AccountTrace.ReadBack : AccountTrace → Prop
  | .Local => True
  | .Remote chains =>
    (∀ chain ∈ chains, '-' ∉ chain.name.toList) ∧
      ∃ last ∈ chains.getLast?, ¬ LOCAL.toList <+: last.name.toList

/-- The texts the parser neither panics on nor changes: those without a dash,
    and those of a trace and a sequence as they are printed. -/
def CanonicalText (s : String) : Prop :=
  '-' ∉ s.toList ∨ ∃ trace seq, '-' ∉ trace ∧ s.toList = trace ++ '-' :: seqDigits seq ∧
    (LOCAL.toList <+: trace → trace = LOCAL.toList)

/-- A dash in a name ends up in what is taken for the number. -/
theorem fromStr_toStr_of_dash (id : AccountId) (dash : '-' ∈ id.trace.chars) :
    AccountId.fromStr id.toStr ≠ .ok id := by
  obtain ⟨before, after, split, without⟩ := List.eq_append_cons_of_mem dash
  have text : id.toStr.toList = before ++ '-' :: (after ++ '-' :: seqDigits id.seq) := by
    rw [AccountId.toStr_toList, split]
    simp
  rw [AccountId.fromStr_of_text without text]
  intro parsed
  simp only [bind_eq_ok, mapError_eq_ok] at parsed
  obtain ⟨seq, number, _⟩ := parsed
  rcases parseU32_eq_ok number '-' (by simp) with plus | digit
  · cases plus
  · cases digit

theorem fromStr_toStr_of_no_dash (id : AccountId) (without : '-' ∉ id.trace.chars) :
    AccountId.fromStr id.toStr = .ok id ↔
      (if LOCAL.toList <+: id.trace.chars then AccountTrace.Local
        else accountTraceFromStr id.trace.chars) = id.trace := by
  rw [AccountId.fromStr_of_text without (AccountId.toStr_toList id), parseU32_seqDigits]
  obtain ⟨trace, seq⟩ := id
  simp [Except.mapError, bind, Except.bind]

theorem dash_mem_chars {chains : List TruncatedChainId} :
    '-' ∈ (AccountTrace.Remote chains).chars ↔ ∃ chain ∈ chains, '-' ∈ chain.name.toList := by
  rw [AccountTrace.chars_remote, Delimited.mem_intercalate (by decide)]
  simp

theorem fromStr_toStr_remote {seq : AccountSequence} {chains : List TruncatedChainId}
    (verified : (AccountTrace.Remote chains).verify = .ok ()) :
    AccountId.fromStr (AccountId.toStr { seq, trace := .Remote chains }) =
        .ok { seq, trace := .Remote chains } ↔ (AccountTrace.Remote chains).ReadBack := by
  by_cases dash : '-' ∈ (AccountTrace.Remote chains).chars
  · have named := dash_mem_chars.mp dash
    have fails := fromStr_toStr_of_dash { seq, trace := .Remote chains } dash
    simp only [fails, AccountTrace.ReadBack, false_iff, not_and]
    intro none
    obtain ⟨chain, listed, inside⟩ := named
    exact absurd inside (none chain listed)
  · have none : ∀ chain ∈ chains, '-' ∉ chain.name.toList := fun chain listed inside =>
      dash (dash_mem_chars.mpr ⟨chain, listed, inside⟩)
    rw [fromStr_toStr_of_no_dash { seq, trace := .Remote chains } dash]
    rcases List.eq_nil_or_concat chains with rfl | ⟨init, last, rfl⟩
    · -- the empty trace comes back with one empty name
      simp [AccountTrace.ReadBack, AccountTrace.chars_remote, accountTraceFromStr_nil]
      decide
    · rw [List.concat_eq_append] at *
      simp only [AccountTrace.ReadBack, local_prefix_chars, List.getLast?_append,
        List.getLast?_singleton, Option.some_or, Option.mem_def, Option.some.injEq,
        exists_eq_left']
      by_cases looksLocal : LOCAL.toList <+: last.name.toList
      · simp [looksLocal]
      · have remote : (AccountTrace.Remote (init ++ [last])).chars ≠ LOCAL.toList := by
          intro same
          apply looksLocal
          apply (local_prefix_chars init last).mp
          exact same ▸ List.prefix_rfl
        have back : accountTraceFromStr (AccountTrace.Remote (init ++ [last])).chars =
            .Remote (init ++ [last]) :=
          accountTraceFromStr_chars (by simp) (delimiter_notMem verified) remote
        simp only [looksLocal, if_false, back, not_false_eq_true, and_true, true_iff]
        exact none

theorem canonicalText_of_text {s : String} {before after : List Char} (without : '-' ∉ before)
    (text : s.toList = before ++ '-' :: after) :
    CanonicalText s ↔
      (∃ seq, after = seqDigits seq) ∧ (LOCAL.toList <+: before → before = LOCAL.toList) := by
  have dash : '-' ∈ s.toList := by simp [text]
  simp only [CanonicalText, dash, not_true_eq_false, false_or]
  constructor
  · rintro ⟨trace, seq, noDash, printed, isLocal⟩
    -- the first dash is where both texts are split
    have same := splitOnce_append after without
    rw [← text, printed, splitOnce_append _ noDash, Option.some.injEq, Prod.mk.injEq] at same
    obtain ⟨rfl, rfl⟩ := same
    exact ⟨⟨seq, rfl⟩, isLocal⟩
  · rintro ⟨⟨seq, rfl⟩, isLocal⟩
    exact ⟨before, seq, without, text, isLocal⟩

theorem fromStr_returns_of_text {s : String} {before after : List Char} (without : '-' ∉ before)
    (text : s.toList = before ++ '-' :: after) :
    ((∀ e, AccountId.fromStr s ≠ .error (.panicked e)) ∧
      ∀ id, AccountId.fromStr s = .ok id → id.toStr = s) ↔
      (∃ seq, after = seqDigits seq) ∧ (LOCAL.toList <+: before → before = LOCAL.toList) := by
  rw [AccountId.fromStr_of_text without text]
  cases number : parseU32 after with
  | error e =>
    have panics : ¬ ∃ seq, after = seqDigits seq := by
      rintro ⟨seq, rfl⟩
      rw [parseU32_seqDigits] at number
      cases number
    simp [Except.mapError, bind, Except.bind, panics]
  | ok seq =>
    simp only [Except.mapError, bind, Except.bind, ne_eq, reduceCtorEq, not_false_eq_true,
      implies_true, Except.ok.injEq, forall_eq', true_and, AccountId.toStr_eq_iff, text]
    have digits : (∃ seq, after = seqDigits seq) ↔ after = seqDigits seq := by
      constructor
      · rintro ⟨seq', rfl⟩
        rw [parseU32_seqDigits, Except.ok.injEq] at number
        rw [number]
      · exact fun same => ⟨seq, same⟩
    rw [digits]
    by_cases looksLocal : LOCAL.toList <+: before
    · have chars : AccountTrace.Local.chars = LOCAL.toList := rfl
      simp only [looksLocal, if_true, true_implies, chars]
      constructor
      · intro same
        have split := splitOnce_append after without
        rw [same, splitOnce_append _ (by decide), Option.some.injEq, Prod.mk.injEq] at split
        exact ⟨split.2.symm, split.1.symm⟩
      · rintro ⟨rfl, rfl⟩
        rfl
    · simp only [looksLocal, if_false, chars_accountTraceFromStr, false_implies, and_true,
        List.append_cancel_left_eq, List.cons.injEq, true_and]

/-- Printing an accepted identifier and parsing it returns it exactly when its
    trace is local or has names without a dash, the last of which does not start
    with `local`; and the parser returns, with the text it was given, exactly on
    canonical texts. -/
theorem AccountId.text_codec (seq : AccountSequence) (trace : AccountTrace) (s : String) :
    (∀ id, AccountId.new seq trace = .ok id →
      (AccountId.fromStr id.toStr = .ok id ↔ id.trace.ReadBack)) ∧
    (((∀ e, AccountId.fromStr s ≠ .error (.panicked e)) ∧
      ∀ id, AccountId.fromStr s = .ok id → id.toStr = s) ↔ CanonicalText s) := by
  constructor
  · intro id accepted
    obtain ⟨verified, rfl⟩ := AccountId.new_eq_ok.mp accepted
    cases trace with
    | Local =>
      have noDash : '-' ∉ AccountTrace.Local.chars := by decide
      have back := (fromStr_toStr_of_no_dash { seq, trace := .Local } noDash).mpr
        (if_pos List.prefix_rfl)
      simp only [AccountTrace.ReadBack, back]
    | Remote chains => exact fromStr_toStr_remote verified
  · by_cases dash : '-' ∈ s.toList
    · obtain ⟨before, after, text, without⟩ := List.eq_append_cons_of_mem dash
      rw [canonicalText_of_text without text, fromStr_returns_of_text without text]
    · have refused : AccountId.fromStr s =
          .error (.error (.FormattingError "AccountId" "trace-999" s)) := by
        simp [AccountId.fromStr, splitOnce_eq_none.mpr dash]
      simp [refused, CanonicalText, dash]

/-- Two hops without dashes are read back, and so is a canonical text. -/
theorem AccountId.text_codec_two_hops :
    AccountId.fromStr "osmosis>juno-7" = .ok { seq := 7, trace := .Remote [⟨"juno"⟩, ⟨"osmosis"⟩] } ∧
      ∀ id, AccountId.fromStr "osmosis>juno-7" = .ok id → id.toStr = "osmosis>juno-7" := by
  have accepted : AccountId.new 7 (.Remote [⟨"juno"⟩, ⟨"osmosis"⟩]) =
      .ok { seq := 7, trace := .Remote [⟨"juno"⟩, ⟨"osmosis"⟩] } := by decide
  have readBack : (AccountTrace.Remote [⟨"juno"⟩, ⟨"osmosis"⟩]).ReadBack := by
    refine ⟨by decide, ⟨"osmosis"⟩, rfl, by decide⟩
  have codec := AccountId.text_codec 7 (.Remote [⟨"juno"⟩, ⟨"osmosis"⟩]) "osmosis>juno-7"
  refine ⟨(codec.1 _ accepted).mpr readBack, ?_⟩
  refine (codec.2.mpr (.inr ?_)).2
  exact ⟨"osmosis>juno".toList, 7, by decide, by decide, by decide⟩

/-- A chain name with a dash makes the parser panic on the printed identifier, a
    chain name that starts with `local` turns into a local identifier, a text
    that is no number panics, and one with a leading zero is changed. -/
theorem AccountId.text_codec_fails :
    AccountId.new 5 (.Remote [⟨"cosmos-testnet"⟩]) =
        .ok { seq := 5, trace := .Remote [⟨"cosmos-testnet"⟩] } ∧
      AccountId.fromStr (AccountId.toStr { seq := 5, trace := .Remote [⟨"cosmos-testnet"⟩] }) =
        .error (.panicked .InvalidDigit) ∧
      AccountId.new 5 (.Remote [⟨"localterra"⟩]) =
        .ok { seq := 5, trace := .Remote [⟨"localterra"⟩] } ∧
      AccountId.fromStr (AccountId.toStr { seq := 5, trace := .Remote [⟨"localterra"⟩] }) =
        .ok (.ofLocal 5) ∧
      AccountId.fromStr "juno-" = .error (.panicked .Empty) ∧
      AccountId.fromStr "local-07" = .ok (.ofLocal 7) ∧
      (AccountId.ofLocal 7).toStr ≠ "local-07" := by
  refine ⟨by decide, by decide, by decide, by decide, by decide, by decide, by decide⟩

/-! ## Different identifiers -/

theorem dash_notMem_seqDigits (seq : AccountSequence) : '-' ∉ seqDigits seq := by
  intro inside
  rcases parseU32_eq_ok (parseU32_seqDigits seq) '-' inside with plus | digit
  · cases plus
  · cases digit

/-- The last separator splits a text in one way only. -/
theorem append_separator_inj {sep : Char} {before before' after after' : List Char}
    (without : sep ∉ after) (without' : sep ∉ after')
    (same : before ++ sep :: after = before' ++ sep :: after') : before = before' ∧ after = after' := by
  have reversed := congrArg (fun text => splitOnce sep text.reverse) same
  simp only [List.reverse_append, List.reverse_cons, List.append_assoc, List.singleton_append] at reversed
  rw [splitOnce_append _ (by simpa using without), splitOnce_append _ (by simpa using without'),
    Option.some.injEq, Prod.mk.injEq, List.reverse_inj, List.reverse_inj] at reversed
  exact ⟨reversed.2, reversed.1⟩

/-- No accepted chains are printed like a local trace. -/
theorem chars_remote_ne_local {chains : List TruncatedChainId}
    (verified : (AccountTrace.Remote chains).verify = .ok ()) :
    (AccountTrace.Remote chains).chars ≠ LOCAL.toList := by
  intro same
  have names : chains.reverse.map (fun chain => chain.name.toList) ≠ [] := by
    intro none
    rw [AccountTrace.chars_remote, none] at same
    cases same
  have without : ∀ chain ∈ chains, '>' ∉ chain.name.toList := delimiter_notMem verified
  have parts := congrArg (List.splitOn '>') same
  rw [AccountTrace.chars_remote, List.splitOn_intercalate '>' (by simpa using without) names] at parts
  have one : LOCAL.toList.splitOn '>' = [LOCAL.toList] := by decide
  rw [one] at parts
  have listed : LOCAL.toList ∈ chains.reverse.map fun chain => chain.name.toList := by
    rw [parts]
    exact List.mem_singleton.mpr rfl
  obtain ⟨chain, isChain, named⟩ := List.mem_map.mp listed
  have other := ((AccountTrace.verify_chains verified).2 chain (List.mem_reverse.mp isChain)).2
  exact other (String.toList_inj.mp named)

/-- A printed trace with chains is not empty. -/
theorem chars_remote_ne_nil {chains : List TruncatedChainId} (some : chains ≠ [])
    (verified : (AccountTrace.Remote chains).verify = .ok ()) :
    (AccountTrace.Remote chains).chars ≠ [] := by
  intro empty
  have back := accountTraceFromStr_chars some (delimiter_notMem verified)
    (chars_remote_ne_local verified)
  rw [empty, accountTraceFromStr_nil, AccountTrace.Remote.injEq] at back
  subst back
  have nameless := ((AccountTrace.verify_chains verified).2 ⟨""⟩ List.mem_cons_self).1
  exact absurd nameless (by decide)

/-- Accepted traces are printed differently. -/
theorem AccountTrace.chars_injective {trace trace' : AccountTrace}
    (verified : trace.verify = .ok ()) (verified' : trace'.verify = .ok ())
    (same : trace.chars = trace'.chars) : trace = trace' := by
  cases trace with
  | Local =>
    cases trace' with
    | Local => rfl
    | Remote chains' => exact absurd same.symm (chars_remote_ne_local verified')
  | Remote chains =>
    cases trace' with
    | Local => exact absurd same (chars_remote_ne_local verified)
    | Remote chains' =>
      by_cases none : chains = []
      · by_cases none' : chains' = []
        · rw [none, none']
        · subst none
          exact absurd same.symm (chars_remote_ne_nil none' verified')
      · by_cases none' : chains' = []
        · subst none'
          exact absurd same (chars_remote_ne_nil none verified)
        · rw [← accountTraceFromStr_chars none (delimiter_notMem verified)
            (chars_remote_ne_local verified), same]
          exact accountTraceFromStr_chars none' (delimiter_notMem verified')
            (chars_remote_ne_local verified')

/-- Accepted identifiers are printed differently. -/
theorem AccountId.toStr_injective {id id' : AccountId} (verified : id.trace.verify = .ok ())
    (verified' : id'.trace.verify = .ok ()) (same : id.toStr = id'.toStr) : id = id' := by
  have texts := congrArg String.toList same
  rw [AccountId.toStr_toList, AccountId.toStr_toList] at texts
  obtain ⟨traces, digits⟩ := append_separator_inj (dash_notMem_seqDigits id.seq)
    (dash_notMem_seqDigits id'.seq) texts
  have sameTrace := AccountTrace.chars_injective verified verified' traces
  have sameSeq : id.seq = id'.seq := by
    have parsed := congrArg parseU32 digits
    rw [parseU32_seqDigits, parseU32_seqDigits] at parsed
    exact Except.ok.inj parsed
  cases id
  cases id'
  simp only [AccountId.mk.injEq]
  exact ⟨sameTrace, sameSeq⟩

end AbstractFramework
