import Mathlib.Logic.Relation

/-! # Nested calls with rollback

A stack machine for calls that call each other.  The items of the stack are work
to be done; the work on top is replaced by the work that it causes, which is done
before the rest.  Some items may attempt other work: a savepoint then remembers
the state, and if the work above the savepoint fails, it is dropped and the
remembered state comes back.  Work that fails without a savepoint below it is a
transaction that is not executed.

`reachable_invariant` is the rule for such machines.  An invariant of the state
and the pending work needs to be kept by the work on top and by attempts; that it
comes back with every savepoint is proved here once.
-/

namespace Calls

variable {σ ω : Type}

inductive Frame (σ ω : Type) where
  | todo (item : ω)
  /-- The state to return to when the work above fails. -/
  | savepoint (state : σ)

structure Config (σ ω : Type) where
  state : σ
  stack : List (Frame σ ω)

structure Program (σ ω : Type) where
  /-- The state after an item, and the work that it causes. -/
  Expands : σ → ω → σ → List ω → Prop
  /-- The work that an item may attempt, to go on afterwards. -/
  Attempts : ω → List ω → Prop

/-- The program restricted to work that meets a condition. -/
def Program.when (p : Program σ ω) (C : σ → ω → Prop) : Program σ ω where
  Expands s item s' items := C s item ∧ p.Expands s item s' items
  Attempts := p.Attempts

/-- Work on top of a stack. -/
def push (items : List ω) (rest : List (Frame σ ω)) : List (Frame σ ω) :=
  items.map .todo ++ rest

inductive Step (p : Program σ ω) : Config σ ω → Config σ ω → Prop where
  | work {s s' : σ} {item : ω} {items : List ω} {rest : List (Frame σ ω)}
      (expands : p.Expands s item s' items) :
      Step p ⟨s, .todo item :: rest⟩ ⟨s', push items rest⟩
  | attempt {s : σ} {item : ω} {items : List ω} {rest : List (Frame σ ω)}
      (attempts : p.Attempts item items) :
      Step p ⟨s, .todo item :: rest⟩ ⟨s, push items (.savepoint s :: .todo item :: rest)⟩
  | commit {s saved : σ} {rest : List (Frame σ ω)} :
      Step p ⟨s, .savepoint saved :: rest⟩ ⟨s, rest⟩
  | fail {s saved : σ} {items : List ω} {rest : List (Frame σ ω)} :
      Step p ⟨s, push items (.savepoint saved :: rest)⟩ ⟨saved, rest⟩

def Reachable (p : Program σ ω) : Config σ ω → Config σ ω → Prop := Relation.ReflTransGen (Step p)

variable {p : Program σ ω} {C : σ → ω → Prop} {c c' : Config σ ω}

theorem reachable_of_when (reached : Reachable (p.when C) c c') : Reachable p c c' := by
  have steps : ∀ a b, Step (p.when C) a b → Step p a b := by
    intro a b step
    cases step with
    | work expands => exact .work expands.2
    | attempt attempts => exact .attempt attempts
    | commit => exact .commit
    | fail => exact .fail
  exact Relation.ReflTransGen.mono steps c c' reached

/-- Every configuration is reached without work that fails the condition, or through
    the first such work, from which it is reached. -/
theorem reachable_until (reached : Reachable p c c') :
    Reachable (p.when C) c c' ∨ ∃ s item rest s' items, ¬C s item ∧ p.Expands s item s' items ∧
      Reachable (p.when C) c ⟨s, .todo item :: rest⟩ ∧ Reachable p ⟨s, .todo item :: rest⟩ c' := by
  induction reached with
  | refl => exact .inl .refl
  | tail _ step ih =>
    rcases ih with before | ⟨s, item, rest, s', items, fails, expands, first, after⟩
    · cases step with
      | @work s s' item items rest expands =>
        by_cases meets : C s item
        · exact .inl (before.tail (.work ⟨meets, expands⟩))
        · exact .inr ⟨s, item, rest, s', items, meets, expands, before,
            .single (.work expands)⟩
      | attempt attempts => exact .inl (before.tail (.attempt attempts))
      | commit => exact .inl (before.tail .commit)
      | fail => exact .inl (before.tail .fail)
    · exact .inr ⟨s, item, rest, s', items, fails, expands, first, after.tail step⟩

/-! ## Pending work -/

/-- The work on the stack. -/
def pending : List (Frame σ ω) → List ω
  | [] => []
  | .todo item :: rest => item :: pending rest
  | .savepoint _ :: rest => pending rest

@[simp] theorem pending_todo (item : ω) (rest : List (Frame σ ω)) :
    pending (.todo item :: rest) = item :: pending rest := rfl

@[simp] theorem pending_savepoint (saved : σ) (rest : List (Frame σ ω)) :
    pending (.savepoint saved :: rest) = pending rest := rfl

@[simp] theorem pending_push (items : List ω) (rest : List (Frame σ ω)) :
    pending (push items rest) = items ++ pending rest := by
  induction items with
  | nil => rfl
  | cons item items ih => exact congrArg (item :: ·) ih

/-! ## Invariants -/

/-- The invariant held at every savepoint. -/
def Saved (I : σ → List ω → Prop) : List (Frame σ ω) → Prop
  | [] => True
  | .todo _ :: rest => Saved I rest
  | .savepoint saved :: rest => I saved (pending rest) ∧ Saved I rest

theorem saved_push {I : σ → List ω → Prop} {items : List ω} {rest : List (Frame σ ω)} :
    Saved I (push items rest) ↔ Saved I rest := by
  induction items with
  | nil => rfl
  | cons item items ih => exact ih

variable {I : σ → List ω → Prop}

theorem step_invariant
    (work : ∀ s item s' items rest, p.Expands s item s' items → I s (item :: rest) →
      I s' (items ++ rest))
    (attempt : ∀ s item items rest, p.Attempts item items → I s (item :: rest) →
      I s (items ++ item :: rest))
    (step : Step p c c') (held : I c.state (pending c.stack) ∧ Saved I c.stack) :
    I c'.state (pending c'.stack) ∧ Saved I c'.stack := by
  obtain ⟨here, saved⟩ := held
  cases step with
  | work expands =>
    refine ⟨?_, saved_push.mpr saved⟩
    rw [pending_push]
    exact work _ _ _ _ _ expands here
  | attempt attempts =>
    refine ⟨?_, saved_push.mpr ⟨here, saved⟩⟩
    rw [pending_push]
    exact attempt _ _ _ _ attempts here
  | commit => exact ⟨here, saved.2⟩
  | fail =>
    -- the failed work is dropped, and the savepoint below it is the new state
    exact saved_push.mp saved

/-- What the work on top and the attempts keep holds in every reachable
    configuration. -/
theorem reachable_invariant
    (work : ∀ s item s' items rest, p.Expands s item s' items → I s (item :: rest) →
      I s' (items ++ rest))
    (attempt : ∀ s item items rest, p.Attempts item items → I s (item :: rest) →
      I s (items ++ item :: rest))
    {s : σ} {items : List ω} (start : I s items) (reached : Reachable p ⟨s, push items []⟩ c) :
    I c.state (pending c.stack) := by
  suffices both : I c.state (pending c.stack) ∧ Saved I c.stack from both.1
  induction reached with
  | refl =>
    refine ⟨?_, saved_push.mpr trivial⟩
    rw [pending_push]
    simpa [pending] using start
  | tail _ step ih => exact step_invariant work attempt step ih

end Calls
