import Mathlib.Data.List.Induction
import Mathlib.Logic.Relation
import AbstractFramework.Lib.Fallible

/-! # Machines with rollback

A machine executes one input at a time.  An input that fails is rolled back:
the state after it is the state before it.  `run` executes a list of inputs,
and `Along C` says that every input of a run meets the condition `C` in the
state in which it is executed.

The rules are the two that every result over whole runs below is proved by:
`run_invariant_along` derives an invariant of all reached states from one
statement about a single successful step, and `run_first` locates, in a run
that takes a predicate from true to false, the successful step that does it.
An input that fails changes nothing, so that `AlongAccepted` asks the condition
of the successful inputs only, and `run_invariant_accepted` is the rule for it.
`invariant_iff_along` is the exact form of the first: where a condition on an input decides
whether a step keeps the invariant, it decides it of whole runs.  `along_congr` compares two
conditions on the inputs of one run.
`history` is a run as the list of its successful inputs, and `run_history_invariant` is
the rule for what holds of a state and of the way to it.  `SameBut` compares two runs
that differ in extra inputs, and `SameBut.unwind` is the rule for it.

An input that makes several writes is a chain of single ones.
`writes_invariant` is the invariant rule for such a chain.
-/

namespace Machine

variable {σ ι ε ρ : Type} {exec : ι → σ → Except ε (σ × ρ)}

/-- One input, with rollback. -/
def step (exec : ι → σ → Except ε (σ × ρ)) (s : σ) (i : ι) : σ :=
  match exec i s with
  | .ok (s', _) => s'
  | .error _ => s

def run (exec : ι → σ → Except ε (σ × ρ)) (s : σ) (is : List ι) : σ :=
  is.foldl (step exec) s

/-- Every input of the run meets `C` in the state it is executed in. -/
def Along (exec : ι → σ → Except ε (σ × ρ)) (C : σ → ι → Prop) : σ → List ι → Prop
  | _, [] => True
  | s, i :: is => C s i ∧ Along exec C (step exec s i) is

instance Along.decidable {C : σ → ι → Prop} [∀ s i, Decidable (C s i)] :
    (s : σ) → (is : List ι) → Decidable (Along exec C s is)
  | _, [] => inferInstanceAs (Decidable True)
  | s, i :: is =>
    have := Along.decidable (C := C) (step exec s i) is
    inferInstanceAs (Decidable (C s i ∧ Along exec C (step exec s i) is))

@[simp] theorem run_nil (s : σ) : run exec s [] = s := rfl

@[simp] theorem run_cons (s : σ) (i : ι) (is : List ι) :
    run exec s (i :: is) = run exec (step exec s i) is := rfl

theorem run_append (s : σ) (is js : List ι) :
    run exec s (is ++ js) = run exec (run exec s is) js :=
  List.foldl_append

theorem step_of_ok {s s' : σ} {i : ι} {r : ρ} (h : exec i s = .ok (s', r)) :
    step exec s i = s' := by
  simp [step, h]

/-- A failing input leaves the state as it was. -/
theorem step_of_error {s : σ} {i : ι} {e : ε} (h : exec i s = .error e) :
    step exec s i = s := by
  simp [step, h]

/-- A step either rolls back or is a successful execution. -/
theorem step_cases (exec : ι → σ → Except ε (σ × ρ)) (s : σ) (i : ι) :
    step exec s i = s ∨ ∃ r, exec i s = .ok (step exec s i, r) := by
  cases h : exec i s with
  | error e => exact .inl (step_of_error h)
  | ok p =>
    obtain ⟨s', r⟩ := p
    exact .inr ⟨r, by rw [step_of_ok h]⟩

/-! ## Invariants of runs -/

/-- The invariant rule for runs whose inputs all meet `C`. -/
theorem run_invariant_along {C : σ → ι → Prop} {P : σ → Prop} {s : σ} {is : List ι}
    (body : ∀ s i s' r, C s i → P s → exec i s = .ok (s', r) → P s')
    (start : P s) (along : Along exec C s is) : P (run exec s is) := by
  induction is generalizing s with
  | nil => exact start
  | cons i is ih =>
    obtain ⟨here, later⟩ := along
    rw [run_cons]
    refine ih ?_ later
    rcases step_cases exec s i with same | ⟨r, ok⟩
    · rw [same]; exact start
    · exact body s i _ r here start ok

/-- A condition on the inputs alone holds along every run. -/
theorem along_of_forall {C : ι → Prop} {s : σ} {is : List ι} (all : ∀ i ∈ is, C i) :
    Along exec (fun _ i => C i) s is := by
  induction is generalizing s with
  | nil => trivial
  | cons i is ih =>
    exact ⟨all i List.mem_cons_self, ih fun j listed => all j (List.mem_cons_of_mem i listed)⟩

/-- The invariant rule when the inputs are known. -/
theorem run_invariant_mem {P : σ → Prop} {s : σ} {is : List ι}
    (body : ∀ s i s' r, i ∈ is → P s → exec i s = .ok (s', r) → P s')
    (start : P s) : P (run exec s is) :=
  run_invariant_along body start (along_of_forall fun _ listed => listed)

/-- The invariant rule for arbitrary runs. -/
theorem run_invariant {P : σ → Prop} {s : σ} (is : List ι)
    (body : ∀ s i s' r, P s → exec i s = .ok (s', r) → P s')
    (start : P s) : P (run exec s is) :=
  run_invariant_mem (fun s i s' r _ => body s i s' r) start

theorem along_append {C : σ → ι → Prop} {s : σ} {is js : List ι} :
    Along exec C s (is ++ js) ↔ Along exec C s is ∧ Along exec C (run exec s is) js := by
  induction is generalizing s with
  | nil => simp [Along]
  | cons i is ih => simp [Along, ih, and_assoc]

theorem Along.and {C D : σ → ι → Prop} {s : σ} {is : List ι} (first : Along exec C s is)
    (second : Along exec D s is) : Along exec (fun s i => C s i ∧ D s i) s is := by
  induction is generalizing s with
  | nil => trivial
  | cons i is ih => exact ⟨⟨first.1, second.1⟩, ih first.2 second.2⟩

theorem along_and {C D : σ → ι → Prop} {s : σ} {is : List ι} :
    Along exec (fun s i => C s i ∧ D s i) s is ↔ Along exec C s is ∧ Along exec D s is := by
  refine ⟨fun both => ?_, fun each => each.1.and each.2⟩
  induction is generalizing s with
  | nil => exact ⟨trivial, trivial⟩
  | cons i is ih =>
    obtain ⟨first, second⟩ := ih both.2
    exact ⟨⟨both.1.1, first⟩, both.1.2, second⟩

/-- Every input of the run that succeeds meets `C` in the state it is executed in. -/
def AlongAccepted (exec : ι → σ → Except ε (σ × ρ)) (C : σ → ι → Prop) (s : σ) (is : List ι) : Prop :=
  Along exec (fun s i => (∃ p, exec i s = .ok p) → C s i) s is

theorem Along.accepted {C : σ → ι → Prop} {s : σ} {is : List ι} (along : Along exec C s is) :
    AlongAccepted exec C s is := by
  induction is generalizing s with
  | nil => trivial
  | cons i is ih => exact ⟨fun _ => along.1, ih along.2⟩

theorem alongAccepted_append {C : σ → ι → Prop} {s : σ} {is js : List ι} :
    AlongAccepted exec C s (is ++ js) ↔
      AlongAccepted exec C s is ∧ AlongAccepted exec C (run exec s is) js :=
  along_append

theorem AlongAccepted.and {C D : σ → ι → Prop} {s : σ} {is : List ι}
    (first : AlongAccepted exec C s is) (second : AlongAccepted exec D s is) :
    AlongAccepted exec (fun s i => C s i ∧ D s i) s is := by
  induction is generalizing s with
  | nil => trivial
  | cons i is ih => exact ⟨fun ok => ⟨first.1 ok, second.1 ok⟩, ih first.2 second.2⟩

/-- The invariant rule for runs whose successful inputs all meet `C`. -/
theorem run_invariant_accepted {C : σ → ι → Prop} {P : σ → Prop} {s : σ} {is : List ι}
    (body : ∀ s i s' r, C s i → P s → exec i s = .ok (s', r) → P s')
    (start : P s) (along : AlongAccepted exec C s is) : P (run exec s is) :=
  run_invariant_along (fun s i s' r meets held ok => body s i s' r (meets ⟨_, ok⟩) held ok) start along

/-- A number that grows by at most one in a step takes every value on its way. -/
theorem run_takes_value {C : σ → ι → Prop} {P : σ → Prop} {f : σ → Nat} {s : σ} {is : List ι} {m : Nat}
    (body : ∀ s i s' r, C s i → P s → exec i s = .ok (s', r) → P s' ∧ f s' ≤ f s + 1) (start : P s)
    (along : AlongAccepted exec C s is) (low : f s ≤ m) (high : m ≤ f (run exec s is)) :
    ∃ before later, is = before ++ later ∧ f (run exec s before) = m := by
  induction is generalizing s with
  | nil => exact ⟨[], [], rfl, Nat.le_antisymm low high⟩
  | cons i is ih =>
    obtain ⟨here, along⟩ := along
    rcases Nat.eq_or_lt_of_le low with taken | below
    · exact ⟨[], i :: is, rfl, taken⟩
    · obtain ⟨kept, next⟩ : P (step exec s i) ∧ f (step exec s i) ≤ m := by
        rcases step_cases exec s i with same | ⟨r, ok⟩
        · rw [same]
          exact ⟨start, low⟩
        · obtain ⟨kept, grows⟩ := body s i _ r (here ⟨_, ok⟩) start ok
          exact ⟨kept, by omega⟩
      obtain ⟨before, later, rfl, takes⟩ := ih kept along next high
      exact ⟨i :: before, later, rfl, takes⟩

/-- When a successful step keeps `P` exactly if its input meets `C`, the states of a run all
    have `P` exactly if its successful inputs all meet `C`. -/
theorem invariant_iff_along {C : σ → ι → Prop} {P : σ → Prop} {s : σ} {is : List ι}
    (body : ∀ s i s' r, P s → exec i s = .ok (s', r) → (P s' ↔ C s i)) (start : P s) :
    (∀ seen, seen <+: is → P (run exec s seen)) ↔
      Along exec (fun s i => (∃ p, exec i s = .ok p) → C s i) s is := by
  constructor
  · intro always
    induction is generalizing s with
    | nil => trivial
    | cons i is ih =>
      have next : P (step exec s i) := always [i] ⟨is, rfl⟩
      refine ⟨?_, ih next fun seen h => always (i :: seen) (List.cons_prefix_cons.mpr ⟨rfl, h⟩)⟩
      rintro ⟨⟨s', r⟩, ok⟩
      rw [step_of_ok ok] at next
      exact (body s i s' r start ok).mp next
  · rintro along seen ⟨later, rfl⟩
    refine run_invariant_along ?_ start (along_append.mp along).1
    intro s i s' r meets held ok
    exact (body s i s' r held ok).mpr (meets ⟨_, ok⟩)

/-- The states of a run all have `P` when every successful step leads to one that has. -/
theorem invariant_iff_steps {P : σ → Prop} {s : σ} {is : List ι} (start : P s) :
    (∀ seen, seen <+: is → P (run exec s seen)) ↔
      Along exec (fun s i => ∀ s' r, exec i s = .ok (s', r) → P s') s is := by
  have once : ∀ s i s' r, P s → exec i s = .ok (s', r) →
      (P s' ↔ ∀ s' r, exec i s = .ok (s', r) → P s') := by
    intro s i s' r _ ok
    simp only [ok, Except.ok.injEq, Prod.mk.injEq, and_imp]
    constructor
    · rintro held _ _ rfl rfl
      exact held
    · intro all
      exact all s' r rfl rfl
  have same : ∀ s i, ((∃ p, exec i s = .ok p) → ∀ s' r, exec i s = .ok (s', r) → P s') ↔
      ∀ s' r, exec i s = .ok (s', r) → P s' :=
    fun s i => ⟨fun all s' r ok => all ⟨_, ok⟩ s' r ok, fun all _ => all⟩
  have along : (∀ seen, seen <+: is → P (run exec s seen)) ↔ Along exec _ s is :=
    invariant_iff_along once start
  simpa only [same] using along

/-- Two conditions on the inputs of a run agree where they agree in every state that an
    invariant holds of, and either keeps the invariant. -/
theorem along_congr {C D E : σ → ι → Prop} {P : σ → Prop} {s : σ} {is : List ι}
    (body : ∀ s i, E s i → P s → (C s i ↔ D s i))
    (kept : ∀ s i s' r, E s i → P s → C s i → exec i s = .ok (s', r) → P s')
    (start : P s) (along : Along exec E s is) : Along exec C s is ↔ Along exec D s is := by
  induction is generalizing s with
  | nil => exact Iff.rfl
  | cons i is ih =>
    obtain ⟨here, later⟩ := along
    have same := body s i here start
    have next : C s i → P (step exec s i) := by
      intro holds
      rcases step_cases exec s i with rolled | ⟨r, ok⟩
      · rw [rolled]
        exact start
      · exact kept s i _ r here start holds ok
    constructor
    · rintro ⟨holds, rest⟩
      exact ⟨same.mp holds, (ih (next holds) later).mp rest⟩
    · rintro ⟨holds, rest⟩
      exact ⟨same.mpr holds, (ih (next (same.mpr holds)) later).mpr rest⟩

/-- If a run takes `P` from true to false, some successful step of it does. -/
theorem run_first {P : σ → Prop} [DecidablePred P] {s : σ} {is : List ι}
    (start : P s) (finish : ¬ P (run exec s is)) :
    ∃ before i after s' r, is = before ++ i :: after ∧ P (run exec s before) ∧
      exec i (run exec s before) = .ok (s', r) ∧ ¬ P s' := by
  induction is generalizing s with
  | nil => exact absurd start finish
  | cons i is ih =>
    by_cases next : P (step exec s i)
    · obtain ⟨before, j, after, s', r, split, held, ok, lost⟩ := ih next finish
      exact ⟨i :: before, j, after, s', r, by rw [split]; rfl, held, ok, lost⟩
    · rcases step_cases exec s i with same | ⟨r, ok⟩
      · rw [same] at next
        exact absurd start next
      · exact ⟨[], i, is, _, r, rfl, start, ok, next⟩

/-- A run that leaves a condition has an input that does. -/
theorem exists_of_not_along {C : σ → ι → Prop} {s : σ} {is : List ι} (h : ¬ Along exec C s is) :
    ∃ before i after, is = before ++ i :: after ∧ ¬ C (run exec s before) i := by
  induction is generalizing s with
  | nil => exact absurd trivial h
  | cons i is ih =>
    by_cases here : C s i
    · have later : ¬ Along exec C (step exec s i) is := fun along => h ⟨here, along⟩
      obtain ⟨before, j, after, split, fails⟩ := ih later
      exact ⟨i :: before, j, after, by rw [split]; rfl, fails⟩
    · exact ⟨[], i, is, rfl, here⟩

/-! ## Two runs -/

/-- Two runs have the same inputs in the same order but for extra ones.  Every extra input
    meets `E` in the state in which its run executes it. -/
inductive SameBut (exec : ι → σ → Except ε (σ × ρ)) (E : σ → ι → Prop) :
    σ → σ → List ι → List ι → Prop where
  | nil {s t : σ} : SameBut exec E s t [] []
  | both {s t : σ} (i : ι) {is js : List ι}
      (later : SameBut exec E (step exec s i) (step exec t i) is js) :
      SameBut exec E s t (i :: is) (i :: js)
  | left {s t : σ} {i : ι} {is js : List ι} (extra : E s i)
      (later : SameBut exec E (step exec s i) t is js) : SameBut exec E s t (i :: is) js
  | right {s t : σ} {j : ι} {is js : List ι} (extra : E t j)
      (later : SameBut exec E s (step exec t j) is js) : SameBut exec E s t is (j :: js)

/-- A relation that is kept by common inputs and by extra ones of either side relates the
    ends of the two runs. -/
theorem SameBut.unwind {E : σ → ι → Prop} {R : σ → σ → Prop} {s t : σ} {is js : List ι}
    (common : ∀ s t i, R s t → R (step exec s i) (step exec t i))
    (onLeft : ∀ s t i, E s i → R s t → R (step exec s i) t)
    (onRight : ∀ s t j, E t j → R s t → R s (step exec t j))
    (runs : SameBut exec E s t is js) (start : R s t) : R (run exec s is) (run exec t js) := by
  induction runs with
  | nil => exact start
  | both i later ih => exact ih (common _ _ i start)
  | left extra later ih => exact ih (onLeft _ _ _ extra start)
  | right extra later ih => exact ih (onRight _ _ _ extra start)

/-- When extra inputs change nothing, the two runs end in the same state. -/
theorem SameBut.run_eq {E : σ → ι → Prop} {s : σ} {is js : List ι}
    (idle : ∀ s i, E s i → step exec s i = s) (runs : SameBut exec E s s is js) :
    run exec s is = run exec s js := by
  refine runs.unwind (R := fun s t => s = t) ?_ ?_ ?_ rfl
  · rintro s _ i rfl
    rfl
  · rintro s _ i extra rfl
    exact idle s i extra
  · rintro s _ j extra rfl
    exact (idle s j extra).symm

/-! ## Histories -/

/-- The inputs of a run that succeed, each with the state before it and its result. -/
def history (exec : ι → σ → Except ε (σ × ρ)) : σ → List ι → List (σ × ι × ρ)
  | _, [] => []
  | s, i :: is =>
    match exec i s with
    | .ok (s', r) => (s, i, r) :: history exec s' is
    | .error _ => history exec s is

theorem history_append (s : σ) (is js : List ι) :
    history exec s (is ++ js) = history exec s is ++ history exec (run exec s is) js := by
  induction is generalizing s with
  | nil => rfl
  | cons i is ih =>
    rw [List.cons_append, run_cons]
    simp only [history, step]
    split
    · rw [ih, List.cons_append]
    · rw [ih]

/-- An input that succeeds is in the history. -/
theorem mem_history_of_ok {s s' : σ} {before : List ι} (after : List ι) {i : ι} {r : ρ}
    (h : exec i (run exec s before) = .ok (s', r)) :
    (run exec s before, i, r) ∈ history exec s (before ++ i :: after) := by
  rw [history_append]
  apply List.mem_append_right
  simp [history, h]

/-- What is in the history has succeeded at some point of the run. -/
theorem of_mem_history {s : σ} {is : List ι} {e : σ × ι × ρ} (h : e ∈ history exec s is) :
    ∃ before after s', is = before ++ e.2.1 :: after ∧ e.1 = run exec s before ∧
      exec e.2.1 e.1 = .ok (s', e.2.2) := by
  induction is generalizing s with
  | nil => cases h
  | cons i is ih =>
    simp only [history] at h
    split at h
    · rename_i s' r ok
      rcases List.mem_cons.mp h with rfl | later
      · exact ⟨[], is, s', rfl, rfl, ok⟩
      · obtain ⟨before, after, s'', split, at_, ok'⟩ := ih later
        refine ⟨i :: before, after, s'', by rw [split]; rfl, ?_, ok'⟩
        rw [at_, run_cons, step_of_ok ok]
    · rename_i e' failed
      obtain ⟨before, after, s'', split, at_, ok'⟩ := ih h
      refine ⟨i :: before, after, s'', by rw [split]; rfl, ?_, ok'⟩
      rw [at_, run_cons, step_of_error failed]

/-- A condition that holds along a run holds where an input of its history is executed. -/
theorem along_history {C : σ → ι → Prop} {s : σ} {is : List ι} {e : σ × ι × ρ}
    (along : Along exec C s is) (h : e ∈ history exec s is) : C e.1 e.2.1 := by
  obtain ⟨before, after, s', split, at_, -⟩ := of_mem_history h
  rw [split, along_append] at along
  rw [at_]
  exact along.2.1

theorem alongAccepted_history {C : σ → ι → Prop} {s : σ} {is : List ι} {e : σ × ι × ρ}
    (along : AlongAccepted exec C s is) (h : e ∈ history exec s is) : C e.1 e.2.1 := by
  obtain ⟨_, _, s', -, -, ok⟩ := of_mem_history h
  exact along_history along h ⟨_, ok⟩

/-- An invariant holds where an input of the history is executed. -/
theorem history_invariant {C : σ → ι → Prop} {P : σ → Prop} {s : σ} {is : List ι}
    {e : σ × ι × ρ} (body : ∀ s i s' r, C s i → P s → exec i s = .ok (s', r) → P s')
    (start : P s) (along : AlongAccepted exec C s is) (h : e ∈ history exec s is) : P e.1 := by
  obtain ⟨before, after, s', split, at_, -⟩ := of_mem_history h
  rw [split, alongAccepted_append] at along
  rw [at_]
  exact run_invariant_accepted body start along.1

/-- Every input of the run meets `C` in the state in which it is executed and after what has
    happened before it. -/
def Throughout (exec : ι → σ → Except ε (σ × ρ)) (C : σ → List (σ × ι × ρ) → ι → Prop) (s : σ)
    (is : List ι) : Prop :=
  ∀ before i after, is = before ++ i :: after → C (run exec s before) (history exec s before) i

/-- The invariant rule for a state together with what has happened so far. -/
theorem run_history_invariant {C : σ → List (σ × ι × ρ) → ι → Prop}
    {P : σ → List (σ × ι × ρ) → Prop} {s : σ} {is : List ι}
    (body : ∀ s log i s' r, C s log i → P s log → exec i s = .ok (s', r) → P s' (log ++ [(s, i, r)]))
    (start : P s []) (throughout : Throughout exec C s is) : P (run exec s is) (history exec s is) := by
  induction is using List.reverseRecOn with
  | nil => exact start
  | append_singleton is i ih =>
    have held : P (run exec s is) (history exec s is) := by
      apply ih
      intro before j after split
      exact throughout before j (after ++ [i]) (by rw [split, List.append_assoc]; rfl)
    rw [run_append, history_append]
    cases h : exec i (run exec s is) with
    | error e => simpa [history, step_of_error h, h] using held
    | ok p =>
      obtain ⟨s', r⟩ := p
      have next := body _ _ i s' r (throughout is i [] rfl) held h
      simpa [history, step_of_ok h, h] using next

/-- The rule for arbitrary runs. -/
theorem run_history {P : σ → List (σ × ι × ρ) → Prop} {s : σ} (is : List ι)
    (body : ∀ s log i s' r, P s log → exec i s = .ok (s', r) → P s' (log ++ [(s, i, r)]))
    (start : P s []) : P (run exec s is) (history exec s is) :=
  run_history_invariant (C := fun _ _ _ => True) (fun s log i s' r _ => body s log i s' r) start
    fun _ _ _ _ => trivial

/-! ## Writes -/

/-- A predicate that every single write of a chain keeps holds after it. -/
theorem writes_invariant {W : σ → σ → Prop} {P : σ → Prop} {s s' : σ}
    (body : ∀ m m', Relation.ReflTransGen W s m → W m m' → P m → P m') (start : P s)
    (writes : Relation.ReflTransGen W s s') : P s' := by
  induction writes with
  | refl => exact start
  | tail earlier write ih => exact body _ _ earlier write ih

/-- A loop whose every iteration is a chain of writes is one itself. -/
theorem foldlM_writes {α : Type} {W : σ → σ → Prop} {f : σ → α → Except ε σ} {xs : List α}
    {s s' : σ} (body : ∀ m x m', x ∈ xs → f m x = .ok m' → Relation.ReflTransGen W m m')
    (done : xs.foldlM f s = .ok s') : Relation.ReflTransGen W s s' :=
  Fallible.foldlM_relation (fun _ => .refl) (fun first second => first.trans second) body done

end Machine
