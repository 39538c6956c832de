import AbstractFramework.Lib.Machine

/-! # Computations that write and may fail

A computation over a mutable store that returns a result.  Nothing is rolled
back: what was written before a failure stays written.  `call` executes one in a
store and returns the result together with the store it leaves behind.  `commit` is that
store, where the computation succeeds.

The rules say how `call` goes through each construct.  `call_bind_ok` and
`call_bind_error` take a sequence apart: it succeeds when both parts do, and it
fails in the first part or in the second one.
-/

namespace Effects

variable {σ ε α β γ ι : Type}

/-- A computation over the store `σ` that may fail with `ε`. -/
abbrev Writing (σ ε : Type) := ExceptT ε (StateM σ)

/-- The result of a computation and the store it leaves behind. -/
def call (x : Writing σ ε α) (s : σ) : Except ε α × σ := StateT.run (ExceptT.run x) s

/-- Change the store. -/
def write (f : σ → σ) : Writing σ ε Unit := ExceptT.lift (modify f)

/-- A computation that only reads the store. -/
def reading (f : σ → Except ε α) : Writing σ ε α := ExceptT.mk fun s => (f s, s)

/-- A computation that does not look at the store. -/
def lift (x : Except ε α) : Writing σ ε α := reading fun _ => x

@[simp] theorem call_pure (a : α) (s : σ) : call (pure a : Writing σ ε α) s = (.ok a, s) := rfl

@[simp] theorem call_write (f : σ → σ) (s : σ) :
    call (write f : Writing σ ε Unit) s = (.ok (), f s) := rfl

@[simp] theorem call_reading (f : σ → Except ε α) (s : σ) : call (reading f) s = (f s, s) := rfl

@[simp] theorem call_lift (x : Except ε α) (s : σ) : call (lift x) s = (x, s) := rfl

theorem call_bind (x : Writing σ ε α) (f : α → Writing σ ε β) (s : σ) :
    call (x >>= f) s =
      match call x s with
      | (.ok a, s') => call (f a) s'
      | (.error e, s') => (.error e, s') := by
  unfold call
  simp only [ExceptT.run_bind, StateT.run_bind]
  cases (ExceptT.run x).run s with
  | mk result s' => cases result <;> rfl

theorem call_bind_ok {x : Writing σ ε α} {f : α → Writing σ ε β} {s s'' : σ} {b : β} :
    call (x >>= f) s = (.ok b, s'') ↔
      ∃ a s', call x s = (.ok a, s') ∧ call (f a) s' = (.ok b, s'') := by
  rw [call_bind]
  cases call x s with
  | mk result s' => cases result <;> simp

theorem call_bind_error {x : Writing σ ε α} {f : α → Writing σ ε β} {s s'' : σ} {e : ε} :
    call (x >>= f) s = (.error e, s'') ↔
      call x s = (.error e, s'') ∨
        ∃ a s', call x s = (.ok a, s') ∧ call (f a) s' = (.error e, s'') := by
  rw [call_bind]
  cases call x s with
  | mk result s' => cases result <;> simp

/-- Forgetting the result of a computation changes neither its outcome nor its writes. -/
theorem call_forget (x : Writing σ ε α) (s : σ) :
    call (x >>= fun _ => pure ()) s = ((call x s).1.map fun _ => (), (call x s).2) := by
  rw [call_bind]
  cases call x s with
  | mk result s' => cases result <;> rfl

/-! ## The store of a success -/

/-- The store that a computation leaves when it succeeds. -/
def commit (x : Writing σ ε Unit) (s : σ) : Except ε σ :=
  let (result, stored) := call x s
  result.map fun _ => stored

theorem commit_eq_ok {x : Writing σ ε Unit} {s s' : σ} :
    commit x s = .ok s' ↔ call x s = (.ok (), s') := by
  unfold commit
  cases call x s with
  | mk result stored => cases result <;> simp [Except.map]

theorem commit_eq_error {x : Writing σ ε Unit} {s : σ} {e : ε} :
    commit x s = .error e ↔ ∃ s', call x s = (.error e, s') := by
  unfold commit
  cases call x s with
  | mk result stored => cases result <;> simp [Except.map]

/-! ## Failures without writes -/

/-- The computation never fails. -/
def Total (x : Writing σ ε α) : Prop := ∀ s e s', call x s ≠ (.error e, s')

/-- Where the computation fails, it has written nothing. -/
def Atomic (x : Writing σ ε α) : Prop := ∀ s e s', call x s = (.error e, s') → s' = s

theorem total_pure (a : α) : Total (pure a : Writing σ ε α) := by
  intro s e s' h
  simp at h

theorem total_write (f : σ → σ) : Total (write f : Writing σ ε Unit) := by
  intro s e s' h
  simp at h

theorem Total.bind {x : Writing σ ε α} {f : α → Writing σ ε β} (first : Total x)
    (rest : ∀ a, Total (f a)) : Total (x >>= f) := by
  intro s e s' h
  rcases call_bind_error.mp h with failed | ⟨a, m, _, failed⟩
  · exact first s e s' failed
  · exact rest a m e s' failed

theorem Total.atomic {x : Writing σ ε α} (total : Total x) : Atomic x :=
  fun s e s' h => absurd h (total s e s')

theorem atomic_reading_bind {g : σ → Except ε α} {f : α → Writing σ ε β}
    (rest : ∀ a, Atomic (f a)) : Atomic (reading g >>= f) := by
  intro s e s' h
  rcases call_bind_error.mp h with failed | ⟨a, m, read, failed⟩
  · exact (Prod.mk.inj failed).2.symm
  · obtain rfl : s = m := (Prod.mk.inj read).2
    exact rest a s e s' failed

theorem atomic_lift_bind {x : Except ε α} {f : α → Writing σ ε β} (rest : ∀ a, Atomic (f a)) :
    Atomic (lift x >>= f) :=
  atomic_reading_bind rest

/-- What is read is checked before the first write. -/
theorem atomic_checked_bind {g : σ → Except ε α} {check : α → Except ε β}
    {f : α → β → Writing σ ε γ} (writes : ∀ a b, Total (f a b)) :
    Atomic (reading g >>= fun a => lift (check a) >>= f a) := by
  apply atomic_reading_bind
  intro a
  apply atomic_lift_bind
  intro b
  exact (writes a b).atomic

/-- A computation that fails with no bad error in the store it is executed in. -/
theorem avoids_call_bind {bad : ε → Prop} {x : Writing σ ε α} {f : α → Writing σ ε β} {s : σ}
    (first : Fallible.Avoids bad (call x s).1)
    (rest : ∀ a s', call x s = (.ok a, s') → Fallible.Avoids bad (call (f a) s').1) :
    Fallible.Avoids bad (call (x >>= f) s).1 := by
  intro e failed
  cases h : call (x >>= f) s with
  | mk result s'' =>
    rw [h] at failed
    subst failed
    rcases call_bind_error.mp h with stopped | ⟨a, s', ok, stopped⟩
    · exact first e (by rw [stopped])
    · exact rest a s' ok e (by rw [stopped])

theorem avoids_commit {bad : ε → Prop} {x : Writing σ ε Unit} {s : σ}
    (safe : Fallible.Avoids bad (call x s).1) : Fallible.Avoids bad (commit x s) := by
  intro e failed
  obtain ⟨s', stopped⟩ := commit_eq_error.mp failed
  exact safe e (by rw [stopped])

theorem avoids_call_forget {bad : ε → Prop} {x : Writing σ ε α} {s : σ} :
    Fallible.Avoids bad (call (x >>= fun _ => pure ()) s).1 ↔
      Fallible.Avoids bad (call x s).1 := by
  rw [call_forget]
  cases call x s with
  | mk result s' =>
    cases result with
    | error e => simp [Fallible.Avoids, Except.map]
    | ok a => simp [Fallible.Avoids, Except.map]

theorem Total.avoids {bad : ε → Prop} {x : Writing σ ε α} (total : Total x) (s : σ) :
    Fallible.Avoids bad (call x s).1 := by
  intro e failed
  have fails : call x s = (.error e, (call x s).2) := Prod.ext failed rfl
  exact absurd fails (total s e (call x s).2)

/-- A computation as an input of a machine: it is executed whatever it returns. -/
def machine (exec : ι → Writing σ ε β) (i : ι) (s : σ) : Except Empty (σ × Except ε β) :=
  .ok ((call (exec i) s).2, (call (exec i) s).1)

/-- When an execution keeps `P` exactly if its input meets `C`, the states of a run all have
    `P` exactly if its inputs all meet `C`. -/
theorem machine_invariant_iff {exec : ι → Writing σ ε β} {C : σ → ι → Prop} {P : σ → Prop} {s : σ}
    {is : List ι} (body : ∀ s i, P s → (P (call (exec i) s).2 ↔ C s i)) (start : P s) :
    (∀ seen, seen <+: is → P (Machine.run (machine exec) s seen)) ↔
      Machine.Along (machine exec) C s is := by
  have executed : ∀ s i, ∃ p, machine exec i s = .ok p := fun s i => ⟨_, rfl⟩
  have step : ∀ s i s' r, P s → machine exec i s = .ok (s', r) → (P s' ↔ C s i) := by
    intro s i s' r held ok
    obtain ⟨rfl, -⟩ := Prod.mk.inj (Except.ok.inj ok)
    exact body s i held
  have along : (∀ seen, seen <+: is → P (Machine.run (machine exec) s seen)) ↔
      Machine.Along (machine exec) _ s is := Machine.invariant_iff_along step start
  simpa only [executed, forall_const] using along

end Effects
