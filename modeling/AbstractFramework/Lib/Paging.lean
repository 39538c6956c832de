import Mathlib.Data.List.Basic
import AbstractFramework.Lib.Fallible

/-! # Listings page by page

A server lists the entries of a store in pages.  A client asks for the first page, then for
the page after the last entry it has got, until a page is empty.  A page is cut from the
listing and filtered after the cut, so it may be empty although entries that pass the filter
come later.  `NoGap` says that this does not happen, and `collects_iff` that the client gets
all that it looks for exactly then.

A page that is cut from the entries that pass has no such gap: the client gets all of them
(`collects_all`), as it does from a server that does not cut at all (`collects_whole`).  From
one that answers without regard to the place the client never gets to an end
(`not_collects_constant`).
-/

namespace Paging

variable {α β κ ε : Type}

/-- What the client has got when it stops.  `cursor` is what it names of an entry. -/
inductive Collects (ask : Option κ → Except ε (List β)) (cursor : β → κ) :
    Option κ → List β → Prop where
  | done {start : Option κ} (empty : ask start = .ok []) : Collects ask cursor start []
  | more {start : Option κ} {page later : List β} {last : β} (answer : ask start = .ok page)
      (isLast : page.getLast? = some last) (rest : Collects ask cursor (some (cursor last)) later) :
      Collects ask cursor start (page ++ later)

/-- A client gets one list. -/
theorem Collects.unique {ask : Option κ → Except ε (List β)} {cursor : β → κ} {start : Option κ}
    {out out' : List β} (h : Collects ask cursor start out) (h' : Collects ask cursor start out') :
    out = out' := by
  induction h generalizing out' with
  | done empty =>
    cases h' with
    | done _ => rfl
    | more answer isLast _ =>
      cases empty.symm.trans answer
      cases isLast
  | more answer isLast _ ih =>
    cases h' with
    | done empty =>
      cases answer.symm.trans empty
      cases isLast
    | more answer' isLast' rest' =>
      cases answer.symm.trans answer'
      cases isLast.symm.trans isLast'
      rw [ih rest']

/-- The loop of a client, with the number of pages that it asks for at most. -/
def gather (ask : Option κ → Except ε (List β)) (cursor : β → κ) :
    Nat → Option κ → Except ε (Option (List β))
  | 0, _ => .ok none
  | fuel + 1, start => do
    let page ← ask start
    match page.getLast? with
    | none => return some []
    | some last =>
      let later ← gather ask cursor fuel (some (cursor last))
      return later.map (page ++ ·)

theorem gather_of_collects {ask : Option κ → Except ε (List β)} {cursor : β → κ}
    {start : Option κ} {out : List β} (collected : Collects ask cursor start out) {fuel : Nat}
    (enough : out.length < fuel) : gather ask cursor fuel start = .ok (some out) := by
  induction collected generalizing fuel with
  | done empty =>
    obtain ⟨fuel, rfl⟩ := Nat.exists_eq_succ_of_ne_zero (Nat.ne_of_gt enough)
    rw [gather, empty]
    rfl
  | @more start page later last answer isLast _ ih =>
    obtain ⟨fuel, rfl⟩ := Nat.exists_eq_succ_of_ne_zero (Nat.ne_of_gt (Nat.zero_lt_of_lt enough))
    have nonempty : 0 < page.length := List.length_pos_of_mem (List.mem_of_getLast? isLast)
    rw [List.length_append] at enough
    have rest : gather ask cursor fuel (some (cursor last)) = .ok (some later) := ih (by omega)
    rw [gather, answer, Fallible.ok_bind]
    simp only [isLast, rest, Fallible.ok_bind]
    rfl

/-- What a client has got was on some page. -/
theorem Collects.mem {ask : Option κ → Except ε (List β)} {cursor : β → κ} {start : Option κ}
    {out : List β} {x : β} (collected : Collects ask cursor start out) (listed : x ∈ out) :
    ∃ start page, ask start = .ok page ∧ x ∈ page := by
  induction collected with
  | done => cases listed
  | more answer _ _ ih =>
    rcases List.mem_append.mp listed with here | later
    · exact ⟨_, _, answer, here⟩
    · exact ih later

/-- A client that reads something off each entry gets what there is to read off all of them,
    from the same pages. -/
theorem Collects.traverse {γ : Type} {ask : Option κ → Except ε (List β)} {cursor : β → κ}
    {f : β → Except ε γ} {cursor' : γ → κ} (keeps : ∀ x y, f x = .ok y → cursor' y = cursor x)
    {start : Option κ} {out : List β} {out' : List γ} (collected : Collects ask cursor start out)
    (mapped : out.mapM f = .ok out') :
    Collects (fun start => ask start >>= List.mapM f) cursor' start out' := by
  induction collected generalizing out' with
  | done empty =>
    cases mapped
    refine .done ?_
    rw [empty]
    rfl
  | @more start page later last answer isLast _ ih =>
    rw [List.mapM_append] at mapped
    simp only [Fallible.bind_eq_ok, Fallible.pure_eq_ok] at mapped
    obtain ⟨page', here, later', rest, rfl⟩ := mapped
    -- the last entry of the page gives the last one of what is read off it
    obtain ⟨before, rfl⟩ := List.getLast?_eq_some_iff.mp isLast
    have parts := here
    rw [List.mapM_append] at parts
    simp only [Fallible.bind_eq_ok, Fallible.pure_eq_ok, List.mapM_cons, List.mapM_nil] at parts
    obtain ⟨before', -, _, ⟨last', isLast', _, rfl, rfl⟩, rfl⟩ := parts
    have ends : (before' ++ [last']).getLast? = some last' := List.getLast?_concat
    refine .more (by rw [answer]; exact here) ends ?_
    rw [keeps last last' isLast']
    exact ih rest

/-- Where every page has a next one a client does not come to an end. -/
theorem not_collects_of_next {ask : Option κ → Except ε (List β)} {cursor : β → κ}
    (P : Option κ → Prop)
    (next : ∀ start, P start → ∃ page last, ask start = .ok page ∧ page.getLast? = some last ∧
      P (some (cursor last)))
    {start : Option κ} {out : List β} (begins : P start) : ¬ Collects ask cursor start out := by
  intro collected
  induction collected with
  | done empty =>
    obtain ⟨page, last, answer, isLast, _⟩ := next _ begins
    obtain rfl := Except.ok.inj (empty.symm.trans answer)
    cases isLast
  | more answer isLast _ ih =>
    obtain ⟨page, last, answer', isLast', after⟩ := next _ begins
    obtain rfl := Except.ok.inj (answer.symm.trans answer')
    obtain rfl := Option.some.inj (isLast.symm.trans isLast')
    exact ih after

/-- The page that is cut from the entries and then filtered. -/
def page (limit : Nat) (passes : α → Bool) (entries : List α) : List α :=
  (entries.take limit).filter passes

/-- Where `limit` entries in a row fail, all later ones do. -/
def NoGap (limit : Nat) (passes : α → Bool) (entries : List α) : Prop :=
  ∀ n, (∀ e ∈ (entries.drop n).take limit, passes e = false) →
    ∀ e ∈ entries.drop n, passes e = false

variable {limit : Nat} {passes : α → Bool} {entries : List α}

/-- Where every entry passes there is no gap. -/
theorem noGap_of_forall (positive : 0 < limit) (all : ∀ e ∈ entries, passes e = true) :
    NoGap limit passes entries := by
  intro n fail e later
  cases h : entries.drop n with
  | nil => simp [h] at later
  | cons x rest =>
    have next : x ∈ (entries.drop n).take limit := by
      rw [h, ← Nat.sub_add_cancel positive, List.take_succ_cons]
      exact List.mem_cons_self
    have passed := all x (List.mem_of_mem_drop (List.mem_of_mem_take next))
    rw [fail x next] at passed
    cases passed

/-- A list has no entry that passes, or a last one. -/
theorem last_passing (passes : α → Bool) (l : List α) :
    (∀ e ∈ l, passes e = false) ∨
      ∃ before x after, l = before ++ x :: after ∧ passes x = true ∧
        ∀ e ∈ after, passes e = false := by
  induction l with
  | nil => exact .inl (by simp)
  | cons y l ih =>
    rcases ih with none | ⟨before, x, after, rfl, passed, failed⟩
    · cases h : passes y with
      | false => exact .inl (List.forall_mem_cons.mpr ⟨h, none⟩)
      | true => exact .inr ⟨[], y, l, rfl, h, none⟩
    · exact .inr ⟨y :: before, x, after, rfl, passed, failed⟩

/-- A page ends with an entry less than `limit` away, and what passes later is in the rest. -/
theorem page_cases (limit : Nat) (passes : α → Bool) (entries : List α) :
    page limit passes entries = [] ∧ (∀ e ∈ entries.take limit, passes e = false) ∨
      ∃ before x rest, entries = before ++ x :: rest ∧ passes x = true ∧ before.length < limit ∧
        (page limit passes entries).getLast? = some x ∧
        entries.filter passes = page limit passes entries ++ rest.filter passes := by
  rcases last_passing passes (entries.take limit) with none |
    ⟨before, x, after, split, passed, failed⟩
  · refine .inl ⟨List.filter_eq_nil_iff.mpr fun e listed => ?_, none⟩
    simp [none e listed]
  · have whole : entries = before ++ x :: (after ++ entries.drop limit) := by
      conv_lhs => rw [← List.take_append_drop limit entries, split]
      simp
    have cut : page limit passes entries = before.filter passes ++ [x] := by
      have nothing : after.filter passes = [] :=
        List.filter_eq_nil_iff.mpr fun e listed => by simp [failed e listed]
      rw [page, split, List.filter_append, List.filter_cons_of_pos passed, nothing]
    refine .inr ⟨before, x, after ++ entries.drop limit, whole, passed, ?_, ?_, ?_⟩
    · have short : (entries.take limit).length ≤ limit := List.length_take_le limit entries
      rw [split, List.length_append, List.length_cons] at short
      omega
    · rw [cut, List.getLast?_append]
      simp
    · have nothing : after.filter passes = [] :=
        List.filter_eq_nil_iff.mpr fun e listed => by simp [failed e listed]
      conv_lhs => rw [whole]
      rw [cut, List.filter_append, List.filter_cons_of_pos passed, List.filter_append, nothing]
      simp

/-- A gap is not before an entry that passes and is less than `limit` away. -/
theorem noGap_append {before rest : List α} {x : α} (near : before.length < limit)
    (passed : passes x = true) :
    NoGap limit passes (before ++ x :: rest) ↔ NoGap limit passes rest := by
  have dropped : ∀ n, (before ++ x :: rest).drop (before.length + 1 + n) = rest.drop n := by
    intro n
    rw [Nat.add_assoc, List.drop_length_add_append, Nat.add_comm 1 n, List.drop_succ_cons]
  constructor
  · intro noGap n
    have := noGap (before.length + 1 + n)
    rwa [dropped] at this
  · intro noGap n
    by_cases early : n ≤ before.length
    · intro fail
      have found : x ∈ ((before ++ x :: rest).drop n).take limit := by
        rw [List.drop_append_of_le_length early, List.take_append]
        have left : limit - (before.drop n).length = limit - (before.drop n).length - 1 + 1 := by
          rw [List.length_drop]
          omega
        rw [left, List.take_succ_cons]
        simp
      rw [fail x found] at passed
      cases passed
    · have moved : n = before.length + 1 + (n - before.length - 1) := by omega
      rw [moved, dropped]
      exact noGap _

section Server

variable {ask : Option κ → Except ε (List β)} {cursor : β → κ} {respond : α → β}

/-- From any place of the listing the client gets a beginning of what passes in the rest, and
    all of it exactly if the rest has no gap. -/
theorem collects_rest (resumes : ∀ before x rest, entries = before ++ x :: rest →
      ask (some (cursor (respond x))) = .ok ((page limit passes rest).map respond))
    {rest : List α} {start : Option κ} (isRest : rest <:+ entries)
    (here : ask start = .ok ((page limit passes rest).map respond)) :
    ∃ out, Collects ask cursor start (out.map respond) ∧ out <+: rest.filter passes ∧
      (out = rest.filter passes ↔ NoGap limit passes rest) := by
  -- the rest gets shorter with every page, up to the last entry of which it is used up
  induction n : rest.length using Nat.strongRecOn generalizing rest start with
  | ind n ih =>
    subst n
    rcases page_cases limit passes rest with ⟨empty, fail⟩ | ⟨before, x, later, split, passed, near,
      isLast, parts⟩
    · refine ⟨[], .done (by rw [here, empty]; rfl), List.nil_prefix, ?_⟩
      rw [eq_comm, List.filter_eq_nil_iff]
      constructor
      · intro nothing n _ e listed
        simpa using nothing e (List.mem_of_mem_drop listed)
      · intro noGap e listed
        simp [noGap 0 fail e listed]
    · have isRest' : later <:+ entries :=
        (List.suffix_cons x later).trans ((split ▸ List.suffix_append before _).trans isRest)
      obtain ⟨front, whole⟩ := isRest
      have resumed := resumes (front ++ before) x later (by rw [← whole, split, List.append_assoc])
      have shorter : later.length < rest.length := by
        rw [split, List.length_append, List.length_cons]
        omega
      obtain ⟨out, collected, begins, exact_⟩ := ih later.length shorter isRest' resumed rfl
      refine ⟨page limit passes rest ++ out, ?_, ?_, ?_⟩
      · rw [List.map_append]
        exact .more here (by rw [List.getLast?_map, isLast]; rfl) collected
      · rw [parts]
        exact List.prefix_append_right_inj _ |>.mpr begins
      · rw [parts, List.append_cancel_left_eq, exact_]
        conv_rhs => rw [split]
        exact (noGap_append near passed).symm

/-- The client gets every entry that passes, exactly if the listing has no gap. -/
theorem collects_iff (starts : ask none = .ok ((page limit passes entries).map respond))
    (resumes : ∀ before x rest, entries = before ++ x :: rest →
      ask (some (cursor (respond x))) = .ok ((page limit passes rest).map respond)) :
    ∃ out, Collects ask cursor none (out.map respond) ∧ out <+: entries.filter passes ∧
      (out = entries.filter passes ↔ NoGap limit passes entries) :=
  collects_rest resumes List.suffix_rfl starts

/-- Pages that are cut from what the client looks for bring it all. -/
theorem collects_all (positive : 0 < limit)
    (starts : ask none = .ok ((entries.take limit).map respond))
    (resumes : ∀ before x rest, entries = before ++ x :: rest →
      ask (some (cursor (respond x))) = .ok ((rest.take limit).map respond)) :
    Collects ask cursor none (entries.map respond) := by
  have cut : ∀ l : List α, page limit (fun _ => true) l = l.take limit := fun l =>
    List.filter_true _
  have starts' : ask none = .ok ((page limit (fun _ => true) entries).map respond) := by
    rw [cut]
    exact starts
  have resumes' : ∀ before x rest, entries = before ++ x :: rest →
      ask (some (cursor (respond x))) = .ok ((page limit (fun _ => true) rest).map respond) := by
    intro before x rest split
    rw [cut]
    exact resumes before x rest split
  obtain ⟨out, collected, -, complete⟩ := collects_iff starts' resumes'
  rw [complete.mpr (noGap_of_forall positive fun _ _ => rfl), List.filter_true] at collected
  exact collected

end Server

section Answers

variable {ask : Option κ → Except ε (List β)} {cursor : β → κ}

/-- The first page is the whole list. -/
theorem collects_whole {entries : List β} (whole : ask none = .ok entries)
    (ends : ∀ last, entries.getLast? = some last → ask (some (cursor last)) = .ok []) :
    Collects ask cursor none entries := by
  cases isLast : entries.getLast? with
  | none =>
    rw [List.getLast?_eq_none_iff] at isLast
    subst isLast
    exact .done whole
  | some last =>
    rw [← List.append_nil entries]
    exact .more whole isLast (.done (ends last isLast))

/-- A server that always gives the same answer does not come to an end. -/
theorem not_collects_constant {answer : Except ε (List β)} (same : ∀ start, ask start = answer)
    (nonempty : answer ≠ .ok []) {start : Option κ} {out : List β} :
    ¬ Collects ask cursor start out := by
  intro collected
  induction collected with
  | done empty => exact nonempty ((same _).symm.trans empty)
  | more _ _ _ ih => exact ih

end Answers

/-- The client gets pages of at most `limit` entries, and in them every entry that it wants
    once and no other. -/
def PagesExactly {ν : Type} (ask : Option κ → Except ε (List (κ × ν))) (limit : Nat)
    (wanted : κ → ν → Prop) : Prop :=
  (∀ start page, ask start = .ok page → page.length ≤ limit) ∧
    ∃ out, Collects ask Prod.fst none out ∧ (out.map Prod.fst).Nodup ∧
      ∀ k v, (k, v) ∈ out ↔ wanted k v

theorem PagesExactly.congr {ν : Type} {ask : Option κ → Except ε (List (κ × ν))} {limit : Nat}
    {wanted wanted' : κ → ν → Prop} (pages : PagesExactly ask limit wanted)
    (same : ∀ k v, wanted k v ↔ wanted' k v) : PagesExactly ask limit wanted' := by
  obtain ⟨short, out, collected, distinct, listed⟩ := pages
  exact ⟨short, out, collected, distinct, fun k v => (listed k v).trans (same k v)⟩

end Paging
