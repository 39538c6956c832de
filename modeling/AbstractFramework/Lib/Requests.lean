import AbstractFramework.Lib.Storage

/-! # Requests that are settled once

A book of requests with the outcome of each, once it is known.  Settling a request
has effects, and a log keeps every effect with the request it is for.  `Matches` says
that the log has the effects of every settled request, each once and in order, and
nothing for the others; issuing a new request and settling an open one keep it.
-/

namespace Requests

open Storage

variable {κ α ω ε : Type} [DecidableEq κ]

/-- What was requested, and the outcome. -/
abbrev Book (κ α ω : Type) := Map κ (α × Option ω)

def Open (b : Book κ α ω) (k : κ) (a : α) : Prop := b.lookup k = some (a, none)

def Settled (b : Book κ α ω) (k : κ) (a : α) (o : ω) : Prop := b.lookup k = some (a, some o)

def issue (b : Book κ α ω) (k : κ) (a : α) : Book κ α ω := b.insert k (a, none)

def settle (b : Book κ α ω) (k : κ) (a : α) (o : ω) : Book κ α ω := b.insert k (a, some o)

variable {b : Book κ α ω} {k k' : κ} {a a' : α} {o o' : ω}

theorem open_issue (new : k ∉ b) :
    Open (issue b k a) k' a' ↔ k' = k ∧ a' = a ∨ Open b k' a' := by
  unfold Open issue
  rw [lookup_insert_ite]
  by_cases same : k' = k
  · subst same
    have missing : b.lookup k' = none := AList.lookup_eq_none.mpr new
    simp [missing, eq_comm]
  · simp [same]

theorem open_settle : Open (settle b k a o) k' a' ↔ k' ≠ k ∧ Open b k' a' := by
  unfold Open settle
  rw [lookup_insert_ite]
  by_cases same : k' = k <;> simp [same]

theorem settled_issue (new : k ∉ b) : Settled (issue b k a) k' a' o' ↔ Settled b k' a' o' := by
  unfold Settled issue
  rw [lookup_insert_ite]
  by_cases same : k' = k
  · subst same
    have missing : b.lookup k' = none := AList.lookup_eq_none.mpr new
    simp [missing]
  · simp [same]

theorem settled_settle :
    Settled (settle b k a o) k' a' o' ↔ k' = k ∧ a' = a ∧ o' = o ∨ k' ≠ k ∧ Settled b k' a' o' := by
  unfold Settled settle
  rw [lookup_insert_ite]
  by_cases same : k' = k
  · simp [same, eq_comm]
  · simp [same]

/-! ## Effects -/

/-- The effects in a log that are for one request. -/
def effectsOf (log : List (κ × ε)) (k : κ) : List ε :=
  log.filterMap fun e => if e.1 = k then some e.2 else none

theorem effectsOf_append (log log' : List (κ × ε)) :
    effectsOf (log ++ log') k = effectsOf log k ++ effectsOf log' k :=
  List.filterMap_append

/-- Effects for one request are for no other. -/
theorem effectsOf_tagged (effects : List ε) :
    effectsOf (effects.map fun e => (k, e)) k' = if k' = k then effects else [] := by
  unfold effectsOf
  rw [List.filterMap_map]
  by_cases same : k' = k
  · simp [same]
  · have other : ¬ k = k' := fun this => same this.symm
    simp [same, other]

theorem mem_effectsOf {log : List (κ × ε)} {e : ε} : e ∈ effectsOf log k ↔ (k, e) ∈ log := by
  unfold effectsOf
  rw [List.mem_filterMap]
  constructor
  · rintro ⟨⟨k', e'⟩, listed, tagged⟩
    split at tagged
    · rename_i same
      obtain rfl : e' = e := Option.some.inj tagged
      obtain rfl : k' = k := same
      exact listed
    · cases tagged
  · intro listed
    exact ⟨(k, e), listed, by simp⟩

/-- What the outcome of a request, if it has one, stands for. -/
def due (effects : α → ω → List ε) : Option (α × Option ω) → List ε
  | some (a, some o) => effects a o
  | _ => []

/-- Every settled request has had its effects once, and no other request has had any. -/
def Matches (effects : α → ω → List ε) (b : Book κ α ω) (log : List (κ × ε)) : Prop :=
  ∀ k, effectsOf log k = due effects (b.lookup k)

variable {effects : α → ω → List ε} {log : List (κ × ε)}

theorem matches_empty (effects : α → ω → List ε) :
    Matches effects (∅ : Book κ α ω) ([] : List (κ × ε)) := by
  intro k
  simp [effectsOf, due]

theorem Matches.settled (matched : Matches effects b log) (settled : Settled b k a o) :
    effectsOf log k = effects a o := by
  rw [matched k, settled]
  rfl

theorem Matches.unsettled (matched : Matches effects b log) (isOpen : Open b k a) :
    effectsOf log k = [] := by
  rw [matched k, isOpen]
  rfl

/-- An effect in the log is for a settled request. -/
theorem Matches.of_mem (matched : Matches effects b log) {e : ε} (listed : (k, e) ∈ log) :
    ∃ a o, Settled b k a o ∧ e ∈ effects a o := by
  have member : e ∈ due effects (b.lookup k) := by
    rw [← matched k]
    exact mem_effectsOf.mpr listed
  cases found : b.lookup k with
  | none => simp [due, found] at member
  | some entry =>
    obtain ⟨a, outcome⟩ := entry
    cases outcome with
    | none => simp [due, found] at member
    | some o => exact ⟨a, o, found, by simpa [due, found] using member⟩

theorem Matches.issue (matched : Matches effects b log) (new : k ∉ b) :
    Matches effects (issue b k a) log := by
  intro k'
  rw [matched k', Requests.issue, lookup_insert_ite]
  split
  · rename_i same
    rw [same, AList.lookup_eq_none.mpr new]
    rfl
  · rfl

theorem Matches.settle (matched : Matches effects b log) (isOpen : Open b k a) :
    Matches effects (settle b k a o) (log ++ (effects a o).map fun e => (k, e)) := by
  intro k'
  rw [effectsOf_append, effectsOf_tagged, Requests.settle, lookup_insert_ite]
  split
  · rename_i same
    rw [same, matched.unsettled isOpen]
    rfl
  · rw [matched k', List.append_nil]

end Requests
