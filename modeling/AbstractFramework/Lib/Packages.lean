import Mathlib.Data.List.Basic

/-! # Installed packages and their dependencies

A set of installed packages, each at some release, is closed when every
dependency of a tracked release is installed at a release that the dependency
accepts.  An index records, for each package, the packages that depend on it.

The three rules are the three ways to change such a set: packages are added,
one that the index has no dependents for is removed, or some are replaced.  A
replacement need not be checked all at once.  `Closed.replace` asks for the full
check of the checked packages, for no new dependencies of the others, and for
the consent of the unchecked dependents to each new release.

An index is exact when it records the dependents of a package and no other ones.
`Exact.change_iff` reduces this, after a change, to the packages that it touched.
`diffSound_iff` is about the update of an index by the difference of two lists of
dependencies: it is right for every package exactly when no dependency stays on a
package that another one is dropped from.
-/

namespace Packages

variable {ι ρ δ : Type}

/-- What is known of releases: their dependencies, the package a dependency is
    on, the releases it accepts, and the releases that are tracked. -/
structure Catalog (ι ρ δ : Type) where
  deps : ι → ρ → List δ
  target : δ → ι
  Accepts : δ → ρ → Prop
  Tracked : ρ → Prop

variable {c : Catalog ι ρ δ} {installed before after : ι → Option ρ} {index : ι → List ι}

/-- The dependencies of one release are met. -/
def Met (c : Catalog ι ρ δ) (installed : ι → Option ρ) (i : ι) (r : ρ) : Prop :=
  ∀ d ∈ c.deps i r, ∃ r', installed (c.target d) = some r' ∧ c.Accepts d r'

/-- The dependencies of every tracked installed release are met. -/
def Closed (c : Catalog ι ρ δ) (installed : ι → Option ρ) : Prop :=
  ∀ i r, installed i = some r → c.Tracked r → Met c installed i r

/-- Every tracked installed release is a recorded dependent of its dependencies. -/
def Indexed (c : Catalog ι ρ δ) (installed : ι → Option ρ) (index : ι → List ι) : Prop :=
  ∀ i r, installed i = some r → c.Tracked r → ∀ d ∈ c.deps i r, i ∈ index (c.target d)

/-- Adding packages whose dependencies are met. -/
theorem Closed.add (closed : Closed c before)
    (kept : ∀ i r, before i = some r → after i = some r)
    (met : ∀ i r, before i = none → after i = some r → c.Tracked r → Met c after i r) :
    Closed c after := by
  intro i r installed tracked
  cases old : before i with
  | none => exact met i r old installed tracked
  | some r' =>
    have same : r' = r := Option.some.inj ((kept i r' old).symm.trans installed)
    subst same
    intro d dep
    obtain ⟨r'', found, accepts⟩ := closed i r' old tracked d dep
    exact ⟨r'', kept _ r'' found, accepts⟩

/-- Removing a package without recorded dependents. -/
theorem Closed.remove [DecidableEq ι] {i : ι} (closed : Closed c before)
    (indexed : Indexed c before index) (unused : index i = [])
    (rest : ∀ j, after j = if j = i then none else before j) : Closed c after := by
  intro j r installed tracked
  rw [rest] at installed
  split at installed
  · cases installed
  · intro d dep
    obtain ⟨r', found, accepts⟩ := closed j r installed tracked d dep
    -- a dependency on the removed package would be in the index
    have other : c.target d ≠ i := by
      intro same
      have recorded := indexed j r installed tracked d dep
      rw [same, unused] at recorded
      exact absurd recorded List.not_mem_nil
    refine ⟨r', ?_, accepts⟩
    rw [rest, if_neg other]
    exact found

/-- Replacing packages by other releases. -/
theorem Closed.replace (closed : Closed c before) (Checked : ι → Prop)
    (kept : ∀ i r, before i = some r → ∃ r', after i = some r')
    (met : ∀ i r, after i = some r → c.Tracked r → Checked i → Met c after i r)
    (unchecked : ∀ i r, after i = some r → c.Tracked r → ¬ Checked i →
      ∃ r₀, before i = some r₀ ∧ ∀ d ∈ c.deps i r, c.Tracked r₀ ∧ d ∈ c.deps i r₀)
    (consent : ∀ j r r', before j = some r → after j = some r' → r' ≠ r →
      ∀ i r₀ r₁, before i = some r₀ → after i = some r₁ → c.Tracked r₀ → c.Tracked r₁ →
        ¬ Checked i → ∀ d ∈ c.deps i r₀, d ∈ c.deps i r₁ → c.target d = j → c.Accepts d r') :
    Closed c after := by
  classical
  intro i r installed tracked
  by_cases checked : Checked i
  · exact met i r installed tracked checked
  · obtain ⟨r₀, old, fewer⟩ := unchecked i r installed tracked checked
    intro d dep
    obtain ⟨tracked₀, dep₀⟩ := fewer d dep
    obtain ⟨r₁, found, accepts⟩ := closed i r₀ old tracked₀ d dep₀
    obtain ⟨r₂, found'⟩ := kept _ r₁ found
    refine ⟨r₂, found', ?_⟩
    -- a dependency that was not replaced is accepted as before
    by_cases same : r₂ = r₁
    · rw [same]; exact accepts
    · exact consent _ r₁ r₂ found found' same i r₀ r old installed tracked₀ tracked checked
        d dep₀ dep rfl

/-! ## Exact indices -/

/-- A release depends on the package. -/
def Requires (c : Catalog ι ρ δ) (i : ι) (r : ρ) (on : ι) : Prop :=
  ∃ d ∈ c.deps i r, c.target d = on

/-- The index has the installed packages that depend on a package, and no other ones. -/
def Exact (c : Catalog ι ρ δ) (installed : ι → Option ρ) (index : ι → List ι) : Prop :=
  ∀ i on, i ∈ index on ↔ ∃ r, installed i = some r ∧ Requires c i r on

variable {index' : ι → List ι}

theorem exact_empty (nothing : ∀ i, installed i = none) (empty : ∀ on, index on = []) :
    Exact c installed index := by
  intro i on
  simp [nothing, empty]

/-- A package that is not installed has no entry. -/
theorem Exact.notMem {i on : ι} (exact : Exact c installed index) (missing : installed i = none) :
    i ∉ index on := by
  intro recorded
  obtain ⟨r, found, _⟩ := (exact i on).mp recorded
  rw [missing] at found
  cases found

theorem Exact.mem_iff {i on : ι} {r : ρ} (exact : Exact c installed index)
    (found : installed i = some r) : i ∈ index on ↔ Requires c i r on := by
  rw [exact i on, found]
  simp

/-- After a change that leaves the releases and the entries of all other packages alone, the
    index is exact if it is for the changed ones. -/
theorem Exact.change_iff (exact : Exact c before index) (Changed : ι → Prop)
    (rest : ∀ i, ¬ Changed i → after i = before i)
    (kept : ∀ i on, ¬ Changed i → (i ∈ index' on ↔ i ∈ index on)) :
    Exact c after index' ↔
      ∀ i, Changed i → ∀ on, i ∈ index' on ↔ ∃ r, after i = some r ∧ Requires c i r on := by
  constructor
  · intro exact' i _ on
    exact exact' i on
  · intro changed i on
    by_cases touched : Changed i
    · exact changed i touched on
    · rw [kept i on touched, rest i touched]
      exact exact i on

/-- Where a dependency stays, another one on the same package is new, or none on it is
    dropped. -/
def DiffSound (target : δ → ι) (old new : List δ) : Prop :=
  ∀ d ∈ new, (∃ d' ∈ new, d' ∉ old ∧ target d' = target d) ∨
    ∀ d' ∈ old, target d' = target d → d' ∈ new

/-- An index that drops the packages of dropped dependencies and then adds those of new ones
    ends up with the packages of the new list. -/
theorem diffSound_iff {target : δ → ι} {old new : List δ} :
    (∀ on, ((∃ d ∈ new, d ∉ old ∧ target d = on) ∨
        ¬ (∃ d ∈ old, d ∉ new ∧ target d = on) ∧ ∃ d ∈ old, target d = on) ↔
      ∃ d ∈ new, target d = on) ↔ DiffSound target old new := by
  constructor
  · intro right d isDep
    rcases (right (target d)).mpr ⟨d, isDep, rfl⟩ with added | ⟨undropped, _⟩
    · exact .inl added
    · refine .inr fun d' isOld same => ?_
      by_contra dropped
      exact undropped ⟨d', isOld, dropped, same⟩
  · intro sound on
    constructor
    · rintro (⟨d, isDep, _, rfl⟩ | ⟨undropped, d, isOld, rfl⟩)
      · exact ⟨d, isDep, rfl⟩
      · refine ⟨d, ?_, rfl⟩
        by_contra dropped
        exact undropped ⟨d, isOld, dropped, rfl⟩
    · rintro ⟨d, isDep, rfl⟩
      rcases sound d isDep with added | undropped
      · exact .inl added
      · by_cases isOld : d ∈ old
        · refine .inr ⟨?_, d, isOld, rfl⟩
          rintro ⟨d', isOld', dropped, same⟩
          exact dropped (undropped d' isOld' same)
        · exact .inl ⟨d, isDep, isOld, rfl⟩

end Packages
