import Mathlib.Data.List.Basic

/-! # Fallible computations in `Except`

The vocabulary every contract function below is written in: `ensure` for a
guarded assertion, `okOr` for an option that must be present, and `>>=` for
the early return.  Each has one inversion lemma, all of the shape "the
computation is `.ok` exactly when ...", so that a successful call is taken
apart by `simp only` and `obtain` and never by unfolding the monad.

`foldlM` is the loop, and `forEach` the loop without an accumulator.
`foldlM_invariant` is its invariant rule: the body is asked to keep a predicate
on the accumulator, one iteration at a time.  `foldlM_simulates` compares two loops.
`foldlM_established` is the rule
for what one iteration establishes and the later ones keep.
-/

namespace Fallible

variable {ε ε' α β γ : Type}

/-- Assert `c`, failing with `e`. -/
def ensure (c : Prop) [Decidable c] (e : ε) : Except ε Unit :=
  if c then .ok () else .error e

/-- The value of an option, failing with `e` when it is absent. -/
def okOr (o : Option α) (e : ε) : Except ε α :=
  match o with
  | some a => .ok a
  | none => .error e

/-- Make a check for every element of a list, in order. -/
def forEach (f : α → Except ε Unit) : List α → Except ε Unit
  | [] => .ok ()
  | x :: xs => do
    f x
    forEach f xs

/-! ## Inversion -/

@[simp] theorem ensure_eq_ok {c : Prop} [Decidable c] {e : ε} {u : Unit} :
    ensure c e = .ok u ↔ c := by
  unfold ensure
  by_cases h : c <;> simp [h]

/-- A value that is checked. -/
theorem ite_ok_eq_ok {c : Prop} [Decidable c] {e : ε} {a b : α} :
    (if c then .ok a else .error e : Except ε α) = .ok b ↔ c ∧ b = a := by
  by_cases h : c
  · simp [h, eq_comm]
  · simp [h]

/-- A failure that is ruled out first. -/
theorem ite_error_eq_ok {c : Prop} [Decidable c] {e : ε} {x : Except ε α} {a : α} :
    (if c then .error e else x) = .ok a ↔ ¬ c ∧ x = .ok a := by
  by_cases h : c <;> simp [h]

@[simp] theorem okOr_eq_ok {o : Option α} {e : ε} {a : α} :
    okOr o e = .ok a ↔ o = some a := by
  cases o <;> simp [okOr]

@[simp] theorem bind_eq_ok {x : Except ε α} {f : α → Except ε β} {b : β} :
    (x >>= f) = .ok b ↔ ∃ a, x = .ok a ∧ f a = .ok b := by
  cases x with
  | error e => simp [bind, Except.bind]
  | ok a => simp [bind, Except.bind]

@[simp] theorem pure_eq_ok {a b : α} : (pure a : Except ε α) = .ok b ↔ a = b := by
  simp [pure, Except.pure]

/-- Converting the error of a call does not change when it succeeds. -/
@[simp] theorem mapError_eq_ok {call : Except ε α} {convert : ε → ε'} {value : α} :
    call.mapError convert = .ok value ↔ call = .ok value := by
  cases call with
  | error e => simp [Except.mapError]
  | ok a => simp [Except.mapError]

theorem map_eq_ok {x : Except ε α} {f : α → β} {b : β} :
    x.map f = .ok b ↔ ∃ a, x = .ok a ∧ f a = b := by
  cases x with
  | error e => simp [Except.map]
  | ok a => simp [Except.map]

@[simp] theorem toOption_eq_some {x : Except ε α} {a : α} : x.toOption = some a ↔ x = .ok a := by
  cases x <;> simp [Except.toOption]

theorem ok_bind {a : α} {f : α → Except ε β} : ((.ok a : Except ε α) >>= f) = f a := rfl

theorem error_bind {e : ε} {f : α → Except ε β} :
    ((.error e : Except ε α) >>= f) = .error e := rfl

theorem okOr_some {a : α} {e : ε} : okOr (some a) e = .ok a := rfl

theorem mapError_okOr {o : Option α} {e : ε} {convert : ε → ε'} :
    (okOr o e).mapError convert = okOr o (convert e) := by
  cases o <;> rfl

/-! ## Loops -/

/-- One iteration of a loop that succeeds, followed by the rest of it. -/
theorem foldlM_cons_eq_ok {f : β → α → Except ε β} {x : α} {xs : List α} {b b' : β} :
    (x :: xs).foldlM f b = .ok b' ↔ ∃ m, f b x = .ok m ∧ xs.foldlM f m = .ok b' := by
  rw [List.foldlM_cons, bind_eq_ok]

/-- A loop of checks succeeds when every check does. -/
@[simp] theorem forEach_eq_ok {f : α → Except ε Unit} {xs : List α} {u : Unit} :
    forEach f xs = .ok u ↔ ∀ x ∈ xs, f x = .ok () := by
  induction xs with
  | nil => simp [forEach]
  | cons x xs ih =>
    simp only [forEach, bind_eq_ok, ih, List.forall_mem_cons]
    constructor
    · rintro ⟨_, first, rest⟩; exact ⟨first, rest⟩
    · rintro ⟨first, rest⟩; exact ⟨(), first, rest⟩

/-- A mapping loop succeeds when it does so for every element. -/
theorem mapM_eq_ok {f : α → Except ε β} {xs : List α} {ys : List β} :
    xs.mapM f = .ok ys ↔ List.Forall₂ (fun x y => f x = .ok y) xs ys := by
  induction xs generalizing ys with
  | nil =>
    simp only [List.mapM_nil, pure_eq_ok]
    constructor
    · rintro rfl; exact .nil
    · rintro ⟨⟩; rfl
  | cons x xs ih =>
    simp only [List.mapM_cons, bind_eq_ok, pure_eq_ok]
    constructor
    · rintro ⟨y, first, ys, rest, rfl⟩
      exact .cons first (ih.mp rest)
    · rintro (_ | ⟨first, rest⟩)
      exact ⟨_, first, _, ih.mpr rest, rfl⟩

/-- A mapping loop that succeeds leaves nothing out. -/
theorem filterMap_of_mapM {f : α → Except ε β} {xs : List α} {ys : List β}
    (mapped : xs.mapM f = .ok ys) : xs.filterMap (fun x => (f x).toOption) = ys := by
  have related := mapM_eq_ok.mp mapped
  clear mapped
  induction related with
  | nil => rfl
  | cons first _ ih =>
    rw [List.filterMap_cons, first, ih]
    rfl

/-- Every result of a mapping loop comes from an element. -/
theorem forall₂_exists_left {R : α → β → Prop} {xs : List α} {ys : List β}
    (h : List.Forall₂ R xs ys) : ∀ y ∈ ys, ∃ x ∈ xs, R x y := by
  induction h with
  | nil => simp
  | @cons x y xs ys first _ ih =>
    intro z listed
    rcases List.mem_cons.mp listed with rfl | later
    · exact ⟨x, List.mem_cons_self, first⟩
    · obtain ⟨x', listed', related⟩ := ih z later
      exact ⟨x', List.mem_cons_of_mem x listed', related⟩

/-- Two relations between the same lists relate an element to the same one. -/
theorem forall₂_exists_both {R S : α → β → Prop} {xs : List α} {ys : List β}
    (first : List.Forall₂ R xs ys) (second : List.Forall₂ S xs ys) :
    ∀ x ∈ xs, ∃ y, R x y ∧ S x y := by
  induction first with
  | nil => simp
  | @cons x y xs ys here _ ih =>
    cases second with
    | cons here' later' =>
      intro z listed
      rcases List.mem_cons.mp listed with rfl | later
      · exact ⟨y, here, here'⟩
      · exact ih later' z later

/-- A mapping loop fails as one of the elements does. -/
theorem mapM_cases (f : α → Except ε β) (xs : List α) :
    (∃ ys, xs.mapM f = .ok ys) ∨ ∃ x ∈ xs, ∃ e, f x = .error e ∧ xs.mapM f = .error e := by
  induction xs with
  | nil => exact .inl ⟨[], rfl⟩
  | cons x xs ih =>
    rw [List.mapM_cons]
    cases first : f x with
    | error e => exact .inr ⟨x, List.mem_cons_self, e, first, rfl⟩
    | ok y =>
      rcases ih with ⟨ys, rest⟩ | ⟨z, listed, e, fails, rest⟩
      · exact .inl ⟨y :: ys, by rw [rest]; rfl⟩
      · exact .inr ⟨z, List.mem_cons_of_mem x listed, e, fails, by rw [rest]; rfl⟩

theorem mapM_succeeds {f : α → Except ε β} {xs : List α} :
    (∃ ys, xs.mapM f = .ok ys) ↔ ∀ x ∈ xs, ∃ y, f x = .ok y := by
  constructor
  · rintro ⟨ys, mapped⟩ x listed
    obtain ⟨y, here, _⟩ := forall₂_exists_both (mapM_eq_ok.mp mapped) (mapM_eq_ok.mp mapped) x listed
    exact ⟨y, here⟩
  · intro succeeds
    rcases mapM_cases f xs with ok | ⟨x, listed, e, fails, _⟩
    · exact ok
    · obtain ⟨y, here⟩ := succeeds x listed
      rw [here] at fails
      cases fails

/-- Two mapping loops that succeed have the same results when they have them for every
    element. -/
theorem mapM_same_iff {f : α → Except ε β} {g : α → Except ε' β} {xs : List α} {ys zs : List β}
    (mapped : xs.mapM f = .ok ys) (mapped' : xs.mapM g = .ok zs) :
    ys = zs ↔ ∀ x ∈ xs, ∀ y, f x = .ok y ↔ g x = .ok y := by
  have first := mapM_eq_ok.mp mapped
  have second := mapM_eq_ok.mp mapped'
  clear mapped mapped'
  induction first generalizing zs with
  | nil =>
    cases second
    simp
  | @cons x y xs ys here _ ih =>
    cases second with
    | @cons _ z _ zs there later =>
      have rest : ys = zs ↔ ∀ x ∈ xs, ∀ y, f x = .ok y ↔ g x = .ok y := ih later
      have head : y = z ↔ ∀ w, f x = .ok w ↔ g x = .ok w := by
        simp only [here, there, Except.ok.injEq]
        constructor
        · rintro rfl w
          exact Iff.rfl
        · intro same
          exact (same z).mpr rfl
      rw [List.cons.injEq, List.forall_mem_cons, head, rest]

/-- A predicate on the accumulator that every successful iteration keeps holds
    after a successful loop. -/
theorem foldlM_invariant {f : β → α → Except ε β} {P : β → Prop} {xs : List α} {b b' : β}
    (body : ∀ m x m', x ∈ xs → P m → f m x = .ok m' → P m')
    (start : P b) (done : xs.foldlM f b = .ok b') : P b' := by
  induction xs generalizing b with
  | nil =>
    simp only [List.foldlM_nil, pure_eq_ok] at done
    exact done ▸ start
  | cons x xs ih =>
    obtain ⟨m, first, rest⟩ := foldlM_cons_eq_ok.mp done
    refine ih (fun m y m' hy => body m y m' (List.mem_cons_of_mem x hy)) ?_ rest
    exact body b x m List.mem_cons_self start first

/-- A reflexive and transitive relation that every successful iteration
    respects relates the accumulator before and after a successful loop. -/
theorem foldlM_relation {f : β → α → Except ε β} {R : β → β → Prop} {xs : List α} {b b' : β}
    (refl : ∀ m, R m m) (trans : ∀ {l m n}, R l m → R m n → R l n)
    (body : ∀ m x m', x ∈ xs → f m x = .ok m' → R m m')
    (done : xs.foldlM f b = .ok b') : R b b' :=
  foldlM_invariant (P := R b) (fun m x m' hx hm hf => trans hm (body m x m' hx hf)) (refl b) done

/-- A loop that changes the accumulator as a total one does, when it succeeds. -/
theorem foldlM_eq_foldl {f : β → α → Except ε β} {g : β → α → β} {xs : List α} {b b' : β}
    (body : ∀ m x m', f m x = .ok m' → m' = g m x) (done : xs.foldlM f b = .ok b') :
    b' = xs.foldl g b := by
  induction xs generalizing b with
  | nil =>
    simp only [List.foldlM_nil, pure_eq_ok] at done
    exact done.symm
  | cons x xs ih =>
    obtain ⟨m, first, rest⟩ := foldlM_cons_eq_ok.mp done
    obtain rfl := body b x m first
    exact ih rest

/-- A loop that another loop follows step by step, on what it sees of the elements. -/
theorem foldlM_simulates {γ' δ : Type} {f : β → α → Except ε β} (f' : δ → γ' → Except ε' δ)
    (view : α → γ') (R : β → δ → Prop) {xs : List α} {b b' : β} {c : δ}
    (body : ∀ m x m' n, R m n → f m x = .ok m' → ∃ n', f' n (view x) = .ok n' ∧ R m' n')
    (start : R b c) (done : xs.foldlM f b = .ok b') :
    ∃ c', (xs.map view).foldlM f' c = .ok c' ∧ R b' c' := by
  induction xs generalizing b c with
  | nil =>
    simp only [List.foldlM_nil, pure_eq_ok] at done
    exact ⟨c, rfl, done ▸ start⟩
  | cons x xs ih =>
    obtain ⟨m, first, rest⟩ := foldlM_cons_eq_ok.mp done
    obtain ⟨n, followed, related⟩ := body b x m c start first
    obtain ⟨c', later, last⟩ := ih related rest
    exact ⟨c', foldlM_cons_eq_ok.mpr ⟨n, followed, later⟩, last⟩

/-- What one iteration of a loop establishes and the others keep holds after it. -/
theorem foldlM_established {f : β → α → Except ε β} {I P : β → Prop} {xs : List α} {x : α}
    {b b' : β} (frame : ∀ m y m', y ∈ xs → I m → f m y = .ok m' → I m')
    (keeps : ∀ m y m', y ∈ xs → I m → P m → f m y = .ok m' → P m')
    (listed : x ∈ xs) (sets : ∀ m m', I m → f m x = .ok m' → P m')
    (start : I b) (done : xs.foldlM f b = .ok b') : P b' := by
  induction xs generalizing b with
  | nil => cases listed
  | cons y ys ih =>
    obtain ⟨m, first, rest⟩ := foldlM_cons_eq_ok.mp done
    have next : I m := frame b y m List.mem_cons_self start first
    by_cases here : x = y
    · subst here
      -- from here on the predicate is an invariant, together with the frame
      have both : I b' ∧ P b' := by
        refine foldlM_invariant (P := fun m => I m ∧ P m) ?_ ⟨next, sets b m start first⟩ rest
        intro l z l' hz held ok
        have hz' := List.mem_cons_of_mem x hz
        exact ⟨frame l z l' hz' held.1 ok, keeps l z l' hz' held.1 held.2 ok⟩
      exact both.2
    · apply ih _ _ _ next rest
      · exact fun l z l' hz => frame l z l' (List.mem_cons_of_mem y hz)
      · exact fun l z l' hz => keeps l z l' (List.mem_cons_of_mem y hz)
      · exact (List.mem_cons.mp listed).resolve_left here

/-! ## Errors that do not occur -/

/-- The computation does not fail with a bad error. -/
def Avoids (bad : ε → Prop) (x : Except ε α) : Prop := ∀ e, x = .error e → ¬ bad e

section Avoids

variable {bad : ε → Prop}

theorem avoids_ok (a : α) : Avoids bad (.ok a : Except ε α) := by
  rintro e ⟨⟩

theorem avoids_pure (a : α) : Avoids bad (pure a : Except ε α) := avoids_ok a

theorem avoids_error {e : ε} (good : ¬ bad e) : Avoids bad (.error e : Except ε α) := by
  rintro _ ⟨⟩
  exact good

theorem Avoids.bind {x : Except ε α} {f : α → Except ε β} (first : Avoids bad x)
    (rest : ∀ a, x = .ok a → Avoids bad (f a)) : Avoids bad (x >>= f) := by
  cases x with
  | error e => exact avoids_error (first e rfl)
  | ok a => exact rest a rfl

theorem avoids_ensure {c : Prop} [Decidable c] {e : ε} (good : ¬ bad e) :
    Avoids bad (ensure c e) := by
  unfold ensure
  split
  · exact avoids_ok ()
  · exact avoids_error good

theorem avoids_okOr {o : Option α} {e : ε} (good : ¬ bad e) : Avoids bad (okOr o e) := by
  cases o with
  | none => exact avoids_error good
  | some a => exact avoids_ok a

/-- A conversion that makes no bad errors. -/
theorem avoids_mapError {x : Except ε' α} {convert : ε' → ε} (good : ∀ e, ¬ bad (convert e)) :
    Avoids bad (x.mapError convert) := by
  cases x with
  | error e => exact avoids_error (good e)
  | ok a => exact avoids_ok a

/-- A loop whose every iteration keeps an invariant and, with it, fails with no bad error. -/
theorem avoids_foldlM {f : β → α → Except ε β} {I : β → Prop} {xs : List α} {b : β}
    (body : ∀ m x, x ∈ xs → I m → Avoids bad (f m x) ∧ ∀ m', f m x = .ok m' → I m')
    (start : I b) : Avoids bad (xs.foldlM f b) := by
  induction xs generalizing b with
  | nil => exact avoids_pure b
  | cons x xs ih =>
    rw [List.foldlM_cons]
    obtain ⟨first, next⟩ := body b x List.mem_cons_self start
    refine first.bind fun m ok => ih ?_ (next m ok)
    exact fun m y listed => body m y (List.mem_cons_of_mem x listed)

theorem avoids_loop {f : β → α → Except ε β} {xs : List α} {b : β}
    (body : ∀ m x, x ∈ xs → Avoids bad (f m x)) : Avoids bad (xs.foldlM f b) :=
  avoids_foldlM (I := fun _ => True) (fun m x listed _ => ⟨body m x listed, fun _ _ => trivial⟩)
    trivial

/-- A conversion that makes bad errors of bad ones only. -/
theorem Avoids.mapError {bad' : ε' → Prop} {x : Except ε' α} {convert : ε' → ε}
    (first : Avoids bad' x) (reflects : ∀ e, bad (convert e) → bad' e) :
    Avoids bad (x.mapError convert) := by
  cases x with
  | error e => exact avoids_error fun isBad => first e rfl (reflects e isBad)
  | ok a => exact avoids_ok a

theorem avoids_forEach {f : α → Except ε Unit} {xs : List α} (body : ∀ x, Avoids bad (f x)) :
    Avoids bad (forEach f xs) := by
  induction xs with
  | nil => exact avoids_ok ()
  | cons x xs ih => exact (body x).bind fun _ _ => ih

theorem avoids_mapM {f : α → Except ε β} {xs : List α} (body : ∀ x, Avoids bad (f x)) :
    Avoids bad (xs.mapM f) := by
  induction xs with
  | nil => exact avoids_pure []
  | cons x xs ih =>
    rw [List.mapM_cons]
    exact (body x).bind fun _ _ => ih.bind fun _ _ => avoids_pure _

end Avoids

/-! ## Two computations of the same -/

/-- The computations succeed with the same values, and neither fails with a bad error. -/
def Agree (bad : ε → Prop) (bad' : ε' → Prop) (x : Except ε α) (y : Except ε' α) : Prop :=
  (∀ a, x = .ok a ↔ y = .ok a) ∧ Avoids bad x ∧ Avoids bad' y

section Agree

variable {bad : ε → Prop} {bad' : ε' → Prop} {a b : α} {e : ε} {e' : ε'}

@[simp] theorem agree_ok_ok : Agree bad bad' (.ok a : Except ε α) (.ok b : Except ε' α) ↔ a = b := by
  simp only [Agree, avoids_ok, and_true, Except.ok.injEq]
  constructor
  · intro same
    exact (same b).mpr rfl
  · rintro rfl c
    exact Iff.rfl

@[simp] theorem agree_ok_error :
    ¬ Agree bad bad' (.ok a : Except ε α) (.error e' : Except ε' α) := by
  rintro ⟨same, -⟩
  cases (same a).mp rfl

@[simp] theorem agree_error_ok :
    ¬ Agree bad bad' (.error e : Except ε α) (.ok b : Except ε' α) := by
  rintro ⟨same, -⟩
  cases (same b).mpr rfl

@[simp] theorem agree_error_error :
    Agree bad bad' (.error e : Except ε α) (.error e' : Except ε' α) ↔ ¬ bad e ∧ ¬ bad' e' := by
  simp [Agree, Avoids]

/-- Two values that must be present, with errors that are not bad. -/
theorem agree_okOr {o o' : Option α} (good : ¬ bad e) (good' : ¬ bad' e') :
    Agree bad bad' (okOr o e) (okOr o' e') ↔ o = o' := by
  cases o <;> cases o' <;> simp [okOr, good, good']

/-- A value that must be present, and then the same computation on both sides: the values
    are the same, unless the computation fails. -/
theorem agree_okOr_bind {o o' : Option α} {x : Except ε β} {y : Except ε' β} {f : α → β → γ}
    (good : ¬ bad e) (good' : ¬ bad' e') (injective : ∀ b, Function.Injective fun a => f a b)
    (rest : Agree bad bad' x y) :
    Agree bad bad' (okOr o e >>= fun a => x >>= fun b => pure (f a b))
        (okOr o' e' >>= fun a => y >>= fun b => pure (f a b)) ↔
      ∀ b, x = .ok b → o = o' := by
  cases x with
  | error first =>
    cases y with
    | ok b => exact absurd rest agree_error_ok
    | error second =>
      obtain ⟨noFirst, noSecond⟩ := agree_error_error.mp rest
      cases o <;> cases o' <;>
        simp [okOr, ok_bind, error_bind, good, good', noFirst, noSecond]
  | ok b =>
    cases y with
    | error second => exact absurd rest agree_ok_error
    | ok c =>
      obtain rfl := agree_ok_ok.mp rest
      have present (o : Option α) {ε : Type} (e : ε) :
          (okOr o e >>= fun a => (.ok b : Except ε β) >>= fun b => pure (f a b)) =
            okOr (o.map fun a => f a b) e := by
        cases o <;> rfl
      rw [present, present, agree_okOr good good', (Option.map_injective (injective b)).eq_iff]
      simp

end Agree

end Fallible
