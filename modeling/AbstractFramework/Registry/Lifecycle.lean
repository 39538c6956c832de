import AbstractFramework.Registry.Writes

/-! # The life of a module version

Abstractly a version is absent, pending, registered or yanked, and `Status.Next`
is its life: it is proposed, then approved or rejected, and a registered one may
be yanked.  The registry keeps three maps instead.  `Represents` says that the
maps hold exactly the status of a version, and `Write.simulates` that while
security is enabled every write moves every version along its life or, if it is
removed, out of it.  That the maps never overlap, that a registered reference
never changes and that a yanked version does not come back are read off the
abstract life.

Without security a version may be registered while it is pending.  The second
part bounds what an approval can do then.
-/

namespace AbstractFramework.Registry

open AbstractFramework Fallible Storage Machine

/-! ## Abstract life -/

/-- What the registry knows of a version. -/
inductive Status where
  | Absent
  | Pending (reference : ModuleReference)
  | Registered (reference : ModuleReference)
  | Yanked (reference : ModuleReference)

namespace Status

def pending : Status → Option ModuleReference
  | .Pending reference => some reference
  | _ => none

def registered : Status → Option ModuleReference
  | .Registered reference => some reference
  | _ => none

def yanked : Status → Option ModuleReference
  | .Yanked reference => some reference
  | _ => none

/-- The steps of a version's life. -/
inductive Next : Status → Status → Prop where
  | propose (reference : ModuleReference) : Next .Absent (.Pending reference)
  | approve (reference : ModuleReference) : Next (.Pending reference) (.Registered reference)
  | reject (reference : ModuleReference) : Next (.Pending reference) .Absent
  | yank (reference : ModuleReference) : Next (.Registered reference) (.Yanked reference)

/-- Several steps of a version's life. -/
abbrev Later : Status → Status → Prop := Relation.ReflTransGen Next

theorem later_of_yanked {reference : ModuleReference} {st : Status}
    (later : Later (.Yanked reference) st) : st = .Yanked reference := by
  induction later with
  | refl => rfl
  | tail _ next ih =>
    subst ih
    cases next

/-- A registered reference stays, or is yanked. -/
theorem later_of_registered {reference : ModuleReference} {st : Status}
    (later : Later (.Registered reference) st) :
    st = .Registered reference ∨ st = .Yanked reference := by
  rcases Relation.ReflTransGen.cases_head later with rfl | ⟨_, next, rest⟩
  · exact .inl rfl
  · cases next
    exact .inr (later_of_yanked rest)

end Status

section Life

variable [Crates] {i : Input} {s s' : RegistryState} {key : ModuleKey} {st : Status}

/-! ## Simulation -/

/-- The three maps hold exactly the status of the version. -/
structure Represents (s : RegistryState) (key : ModuleKey) (st : Status) : Prop where
  pending : s.pendingModules.lookup key = st.pending
  registered : s.registeredModules.lookup key = st.registered
  yanked : s.yankedModules.lookup key = st.yanked

/-- The message removes the version. -/
def Removes (i : Input) (key : ModuleKey) : Prop :=
  ∃ info, i.msg = .RemoveModule info ∧ info.key = key

/-- What a message does to a version: its life goes on, or it is removed. -/
def MovesTo (i : Input) (key : ModuleKey) (st st' : Status) : Prop :=
  Status.Later st st' ∨ (st' = .Absent ∧ Removes i key)

theorem Represents.of_hasModule (rep : Represents s key st) (fresh : ¬ s.hasModule key) :
    st = .Absent := by
  simp only [RegistryState.hasModule, mem_iff_lookup, rep.pending, rep.registered, rep.yanked,
    not_or] at fresh
  cases st with
  | Absent => rfl
  | Pending reference => exact absurd ⟨reference, rfl⟩ fresh.1
  | Registered reference => exact absurd ⟨reference, rfl⟩ fresh.2.1
  | Yanked reference => exact absurd ⟨reference, rfl⟩ fresh.2.2

theorem Represents.of_pending {reference : ModuleReference} (rep : Represents s key st)
    (waiting : s.pendingModules.lookup key = some reference) : st = .Pending reference := by
  rw [rep.pending] at waiting
  cases st <;> cases waiting
  rfl

theorem Represents.of_registered {reference : ModuleReference} (rep : Represents s key st)
    (found : s.registeredModules.lookup key = some reference) : st = .Registered reference := by
  rw [rep.registered] at found
  cases st <;> cases found
  rfl

theorem Represents.of_yanked (rep : Represents s key st) (found : key ∈ s.yankedModules) :
    ∃ reference, st = .Yanked reference := by
  obtain ⟨reference, found⟩ := mem_iff_lookup.mp found
  rw [rep.yanked] at found
  cases st <;> cases found
  exact ⟨reference, rfl⟩

/-- A write that touches no module map leaves every status as it was. -/
theorem Represents.frame (rep : Represents s key st)
    (pending : s'.pendingModules.lookup key = s.pendingModules.lookup key)
    (registered : s'.registeredModules.lookup key = s.registeredModules.lookup key)
    (yanked : s'.yankedModules.lookup key = s.yankedModules.lookup key) : Represents s' key st :=
  ⟨pending.trans rep.pending, registered.trans rep.registered, yanked.trans rep.yanked⟩

/-- With security enabled, a write keeps the status of a version, takes it one
    step on, or removes it. -/
theorem Write.simulates (secure : ∀ modules, i.msg = .ProposeModules modules →
      s.config.securityEnabled = true) (write : Write i s s') (rep : Represents s key st) :
    ∃ st', Represents s' key st' ∧
      (st' = st ∨ (Status.Next st st' ∧ ∀ info, i.msg ≠ .RemoveModule info) ∨
        (st' = .Absent ∧ Removes i key)) := by
  cases write with
  | @pend modules info reference msg _ fresh =>
    by_cases same : key = info.key
    · -- a proposed version is in none of the maps
      subst same
      obtain rfl := rep.of_hasModule fresh
      refine ⟨.Pending reference, ⟨by simp [Status.pending], ?_, ?_⟩,
        .inr (.inl ⟨.propose reference, by simp [msg]⟩)⟩
      · exact rep.registered
      · exact rep.yanked
    · exact ⟨st, rep.frame (AList.lookup_insert_ne same) rfl rfl, .inl rfl⟩
  | @register modules _ _ msg _ insecure =>
    -- registering directly takes security to be disabled
    rw [secure modules msg] at insecure
    cases insecure
  | @approve _ _ info reference msg _ waiting =>
    by_cases same : key = info.key
    · subst same
      obtain rfl := rep.of_pending waiting
      refine ⟨.Registered reference, ⟨?_, ?_, rep.yanked⟩,
        .inr (.inl ⟨.approve reference, by simp [msg]⟩)⟩
      · simp [RegistryState.approve, Status.pending]
      · simp [RegistryState.approve, Status.registered]
    · exact ⟨st, rep.frame (AList.lookup_erase_ne same) (AList.lookup_insert_ne same) rfl, .inl rfl⟩
  | @reject _ _ info msg =>
    by_cases same : key = info.key
    · subst same
      cases st with
      -- a rejection that finds nothing pending changes nothing
      | Pending reference =>
        refine ⟨.Absent, ⟨by simp [Status.pending], rep.registered, rep.yanked⟩,
          .inr (.inl ⟨.reject reference, by simp [msg]⟩)⟩
      | _ => exact ⟨_, ⟨by simp [Status.pending], rep.registered, rep.yanked⟩, .inl rfl⟩
    · exact ⟨st, rep.frame (AList.lookup_erase_ne same) rfl rfl, .inl rfl⟩
  | @remove info _ _ msg =>
    by_cases same : key = info.key
    · subst same
      cases st with
      -- a removal does not look at the pending modules
      | Pending reference =>
        exact ⟨.Pending reference, ⟨rep.pending, by simp [Status.registered],
          by simp [Status.yanked]⟩, .inl rfl⟩
      | _ =>
        exact ⟨.Absent, ⟨rep.pending, by simp [Status.registered], by simp [Status.yanked]⟩,
          .inr (.inr ⟨rfl, info, msg, rfl⟩)⟩
    · exact ⟨st, rep.frame rfl (AList.lookup_erase_ne same) (AList.lookup_erase_ne same), .inl rfl⟩
  | @yank key' reference msg found =>
    by_cases same : key = key'
    · subst same
      obtain rfl := rep.of_registered found
      refine ⟨.Yanked reference, ⟨rep.pending, ?_, ?_⟩, .inr (.inl ⟨.yank reference, ?_⟩)⟩
      · simp [RegistryState.yank, Status.registered]
      · simp [RegistryState.yank, Status.yanked]
      · rcases msg with ⟨_, msg⟩ | ⟨_, msg⟩ <;> simp [msg]
    · exact ⟨st, rep.frame rfl (AList.lookup_erase_ne same) (AList.lookup_insert_ne same), .inl rfl⟩
  | _ => exact ⟨st, rep.frame rfl rfl rfl, .inl rfl⟩

/-- A message that is executed with security enabled. -/
theorem execute_simulates {msgs : List BankMsg} (secure : s.config.securityEnabled = true)
    (ok : execute i s = .ok (s', msgs)) (rep : Represents s key st) :
    ∃ st', Represents s' key st' ∧ MovesTo i key st st' := by
  refine writes_invariant (P := fun m => ∃ st', Represents m key st' ∧ MovesTo i key st st') ?_
    ⟨st, rep, .inl .refl⟩ (execute_writes ok)
  -- a removal ends the life, and no write of its message starts a new one
  rintro m m' earlier write ⟨st₁, rep₁, moves⟩
  have secure₁ : ∀ modules, i.msg = .ProposeModules modules → m.config.securityEnabled = true := by
    intro modules msg
    rw [writes_config_eq earlier (by rw [msg]; rfl)]
    exact secure
  obtain ⟨st₂, rep₂, rfl | ⟨next, keeps⟩ | removed⟩ := write.simulates secure₁ rep₁
  · exact ⟨st₂, rep₂, moves⟩
  · rcases moves with later | ⟨_, info, msg, _⟩
    · exact ⟨st₂, rep₂, .inl (later.tail next)⟩
    · exact absurd msg (keeps info)
  · exact ⟨st₂, rep₂, .inr removed⟩

theorem step_simulates (secure : s.config.securityEnabled = true) (rep : Represents s key st) :
    ∃ st', Represents (step execute s i) key st' ∧ MovesTo i key st st' := by
  rcases step_cases execute s i with same | ⟨msgs, ok⟩
  · rw [same]; exact ⟨st, rep, .inl .refl⟩
  · exact execute_simulates secure ok rep

/-! ## Runs with security enabled -/

/-- Security is enabled whenever a message is executed. -/
abbrev SecurityStays (s : RegistryState) (inputs : List Input) : Prop :=
  Along execute (fun s _ => s.config.securityEnabled = true) s inputs

/-- Every version has a status: the three module maps do not overlap. -/
def HaveStatus (s : RegistryState) : Prop := ∀ key, ∃ st, Represents s key st

theorem haveStatus_instantiate {deps : Deps} {msg : InstantiateMsg}
    (init : instantiate deps msg = .ok s) : HaveStatus s := by
  simp only [instantiate, bind_eq_ok, mapError_eq_ok, pure_eq_ok] at init
  obtain ⟨_, _, _, _, rfl⟩ := init
  exact fun key => ⟨.Absent, rfl, rfl, rfl⟩

theorem haveStatus_run {inputs : List Input} (secure : SecurityStays s inputs)
    (start : HaveStatus s) : HaveStatus (run execute s inputs) := by
  refine run_invariant_along ?_ start secure
  intro s i s' msgs secure status ok key
  obtain ⟨st, rep⟩ := status key
  obtain ⟨st', rep', _⟩ := execute_simulates secure ok rep
  exact ⟨st', rep'⟩

/-- A registered reference does not change in a run that keeps it registered. -/
theorem registered_run {reference : ModuleReference} {inputs : List Input}
    (secure : SecurityStays s inputs) (status : HaveStatus s)
    (found : s.registeredModules.lookup key = some reference)
    (stays : ∀ mid rest, inputs = mid ++ rest → key ∈ (run execute s mid).registeredModules) :
    (run execute s inputs).registeredModules.lookup key = some reference := by
  induction inputs generalizing s with
  | nil => exact found
  | cons i inputs ih =>
    obtain ⟨here, later⟩ := secure
    have stays' : ∀ mid rest, inputs = mid ++ rest →
        key ∈ (run execute (step execute s i) mid).registeredModules := by
      rintro mid rest rfl
      exact stays (i :: mid) rest rfl
    have once : SecurityStays s [i] := ⟨here, trivial⟩
    have status' : HaveStatus (step execute s i) := haveStatus_run once status
    rw [run_cons]
    refine ih later status' ?_ stays'
    -- the one step: it moves on from `Registered`, and the version is still registered
    obtain ⟨st, rep⟩ := status key
    obtain rfl := rep.of_registered found
    obtain ⟨st', rep', moves⟩ := step_simulates (i := i) here rep
    obtain ⟨reference', still⟩ := mem_iff_lookup.mp (stays' [] inputs rfl)
    obtain rfl := rep'.of_registered still
    rcases moves with later | ⟨absent, _⟩
    · rcases Status.later_of_registered later with same | yanked
      · cases same; exact still
      · cases yanked
    · cases absent

/-- A yanked version that is registered again was removed in between. -/
theorem yanked_run {inputs : List Input} (secure : SecurityStays s inputs) (status : HaveStatus s)
    (yanked : key ∈ s.yankedModules) (back : key ∈ (run execute s inputs).registeredModules) :
    ∃ mid i rest, inputs = mid ++ i :: rest ∧ Removes i key ∧
      ∃ r, execute i (run execute s mid) = .ok r := by
  have only : ∀ {s}, HaveStatus s → key ∈ s.yankedModules → key ∉ s.registeredModules := by
    intro s status yanked registered
    obtain ⟨st, rep⟩ := status key
    obtain ⟨reference, rfl⟩ := rep.of_yanked yanked
    obtain ⟨_, registered⟩ := mem_iff_lookup.mp registered
    cases rep.of_registered registered
  have lost : ¬ key ∈ (run execute s inputs).yankedModules :=
    fun still => only (haveStatus_run secure status) still back
  obtain ⟨mid, i, rest, s', msgs, split, held, ok, gone⟩ :=
    run_first (P := fun s : RegistryState => key ∈ s.yankedModules) yanked lost
  -- the step that takes the version out of the yanked ones is no step of its life
  subst split
  obtain ⟨secureMid, here, _⟩ := along_append.mp secure
  obtain ⟨st, rep⟩ := haveStatus_run secureMid status key
  obtain ⟨reference, rfl⟩ := rep.of_yanked held
  obtain ⟨st', rep', later | ⟨_, removes⟩⟩ := execute_simulates here ok rep
  · obtain rfl := Status.later_of_yanked later
    exact absurd (mem_of_lookup rep'.yanked) gone
  · exact ⟨mid, i, rest, rfl, removes, _, ok⟩

/-- While security is enabled: in every reached state the three module maps are
    pairwise disjoint; a reference does not change while its version stays
    registered; and a yanked version is registered again only after a removal. -/
theorem published_modules_immutable {deps : Deps} {msg : InstantiateMsg} {s₀ : RegistryState}
    (init : instantiate deps msg = .ok s₀) (before later : List Input)
    (secure : SecurityStays s₀ (before ++ later)) :
    let s := run execute s₀ before
    (∀ key, (key ∈ s.pendingModules → key ∉ s.registeredModules) ∧
      (key ∈ s.pendingModules → key ∉ s.yankedModules) ∧
      (key ∈ s.registeredModules → key ∉ s.yankedModules)) ∧
    (∀ key reference, s.registeredModules.lookup key = some reference →
      (∀ mid rest, later = mid ++ rest → key ∈ (run execute s mid).registeredModules) →
      (run execute s later).registeredModules.lookup key = some reference) ∧
    (∀ key ∈ s.yankedModules, key ∈ (run execute s later).registeredModules →
      ∃ mid i rest, later = mid ++ i :: rest ∧ Removes i key ∧
        ∃ r, execute i (run execute s mid) = .ok r) := by
  intro s
  obtain ⟨secureBefore, secureLater⟩ := along_append.mp secure
  have status : HaveStatus s := haveStatus_run secureBefore (haveStatus_instantiate init)
  refine ⟨fun key => ?_, fun key reference found => registered_run secureLater status found,
    fun key yanked => yanked_run secureLater status yanked⟩
  obtain ⟨st, rep⟩ := status key
  simp only [mem_iff_lookup, rep.pending, rep.registered, rep.yanked]
  cases st <;> simp [Status.pending, Status.registered, Status.yanked]

end Life

section LifeSample

attribute [local instance] releaseCrates

/-- The account module is pending, and registered after its approval. -/
theorem published_modules_immutable_account :
    let s := run execute (sampleStart true)
      [sampleInput "adm" (.ProposeModules [(accountVersion, .Account 1)])]
    let approve := [sampleInput "adm" (.ApproveOrRejectModules [accountVersion] [])]
    accountVersion.key ∈ s.pendingModules ∧ accountVersion.key ∉ s.registeredModules ∧
      accountVersion.key ∈ (run execute s approve).registeredModules := by
  refine ⟨by decide, ?_, by decide⟩
  have disjoint := (published_modules_immutable (instantiate_sample true)
    [sampleInput "adm" (.ProposeModules [(accountVersion, .Account 1)])]
    [sampleInput "adm" (.ApproveOrRejectModules [accountVersion] [])] (by decide)).1
  exact (disjoint accountVersion.key).1 (by decide)

end LifeSample

/-! ## Approvals while security is toggled -/

section Approval

variable [Crates] {i : Input} {s s' : RegistryState} {key : ModuleKey}

/-- A pending version is neither registered nor yanked. -/
def PendingApart (s : RegistryState) : Prop :=
  ∀ key ∈ s.pendingModules, key ∉ s.registeredModules ∧ key ∉ s.yankedModules

/-- Versions are registered directly only if they are not pending. -/
def ExecuteMsg.RegistersUnpending (s : RegistryState) : ExecuteMsg → Prop
  | .ProposeModules modules => s.config.securityEnabled = false →
    ∀ entry ∈ modules, entry.1.key ∉ s.pendingModules
  | _ => True

instance (s : RegistryState) : (msg : ExecuteMsg) → Decidable (msg.RegistersUnpending s)
  | .ProposeModules modules =>
    inferInstanceAs (Decidable (s.config.securityEnabled = false →
      ∀ entry ∈ modules, entry.1.key ∉ s.pendingModules))
  | .ApproveOrRejectModules _ _ | .RemoveModule _ | .YankModule _ | .ClaimNamespace _ _
  | .UpdateModuleConfiguration _ _ _ | .ForgoNamespace _ | .AddAccount _ _ | .UpdateConfig _ _
  | .UpdateOwnership _ => inferInstanceAs (Decidable True)

/-- Without security a proposal leaves the pending modules as they were. -/
theorem writes_pending_eq {modules : List (ModuleInfo × ModuleReference)}
    (writes : Writes i s s') (msg : i.msg = .ProposeModules modules)
    (insecure : s.config.securityEnabled = false) : s'.pendingModules = s.pendingModules := by
  refine writes_invariant (P := fun m => m.pendingModules = s.pendingModules) ?_ rfl writes
  intro m m' earlier write same
  have config : m.config = s.config := writes_config_eq earlier (by rw [msg]; rfl)
  cases write with
  | pend _ secure => rw [config, insecure] at secure; cases secure
  | approve other => rw [msg] at other; cases other
  | reject other => rw [msg] at other; cases other
  | _ => exact same

theorem Write.pendingApart {s₀ : RegistryState} (registers : i.msg.RegistersUnpending s₀)
    (earlier : Writes i s₀ s) (write : Write i s s') (apart : PendingApart s) :
    PendingApart s' := by
  intro key pending
  cases write with
  | @pend _ info reference _ _ fresh =>
    rcases (AList.mem_insert _).mp pending with rfl | before
    · exact ⟨fun h => fresh (.inr (.inl h)), fun h => fresh (.inr (.inr h))⟩
    · exact apart key before
  | @register modules info reference msg listed insecure =>
    -- the condition is about the state before the message, which changed nothing pending
    have other : key ≠ info.key := by
      rintro rfl
      have config : s.config = s₀.config := writes_config_eq earlier (by rw [msg]; rfl)
      rw [config] at insecure
      rw [msg] at registers
      apply registers insecure _ listed
      rw [← writes_pending_eq earlier msg insecure]
      exact pending
    refine ⟨fun registered => ?_, (apart key pending).2⟩
    rcases (AList.mem_insert _).mp registered with same | before
    · exact other same
    · exact (apart key pending).1 before
  | @approve _ _ info =>
    obtain ⟨other, before⟩ := AList.mem_erase.mp pending
    refine ⟨fun registered => ?_, (apart key before).2⟩
    rcases (AList.mem_insert _).mp registered with same | before'
    · exact other same
    · exact (apart key before).1 before'
  | reject => exact apart key (AList.mem_erase.mp pending).2
  | remove =>
    obtain ⟨unregistered, unyanked⟩ := apart key pending
    exact ⟨fun h => unregistered (AList.mem_erase.mp h).2, fun h => unyanked (AList.mem_erase.mp h).2⟩
  | @yank key' reference _ found =>
    obtain ⟨unregistered, unyanked⟩ := apart key pending
    refine ⟨fun h => unregistered (AList.mem_erase.mp h).2, fun h => ?_⟩
    -- the version that is yanked was registered, so it is not pending
    rcases (AList.mem_insert _).mp h with rfl | before
    · exact unregistered (mem_of_lookup found)
    · exact unyanked before
  | _ => exact apart key pending

theorem pendingApart_run {deps : Deps} {msg : InstantiateMsg} {s₀ : RegistryState}
    (init : instantiate deps msg = .ok s₀) {inputs : List Input}
    (registers : AlongAccepted execute (fun s i => i.msg.RegistersUnpending s) s₀ inputs) :
    PendingApart (run execute s₀ inputs) := by
  have start : PendingApart s₀ := by
    simp only [instantiate, bind_eq_ok, mapError_eq_ok, pure_eq_ok] at init
    obtain ⟨_, _, _, _, rfl⟩ := init
    intro key pending
    exact absurd pending (AList.notMem_empty key)
  exact run_writes_invariant (fun here earlier write => write.pendingApart here earlier) start
    registers

/-- An approval registers pending versions only. -/
theorem approve_registered_eq {approves rejects : List ModuleInfo}
    (msg : i.msg = .ApproveOrRejectModules approves rejects) (writes : Writes i s s')
    (notPending : key ∉ s.pendingModules) :
    s'.registeredModules.lookup key = s.registeredModules.lookup key := by
  have both := writes_invariant (P := fun m : RegistryState =>
    key ∉ m.pendingModules ∧ m.registeredModules.lookup key = s.registeredModules.lookup key)
    ?_ ⟨notPending, rfl⟩ writes
  -- that the version stays out of the pending ones carries the induction
  · exact both.2
  rintro m m' _ write ⟨notPending, same⟩
  cases write with
  | @approve _ _ info _ _ _ waiting =>
    have other : key ≠ info.key := by
      rintro rfl
      exact notPending (mem_of_lookup waiting)
    refine ⟨fun h => notPending (AList.mem_erase.mp h).2, ?_⟩
    rw [RegistryState.approve, AList.lookup_insert_ne other]
    exact same
  | reject => exact ⟨fun h => notPending (AList.mem_erase.mp h).2, same⟩
  | pend other => rw [msg] at other; cases other
  | register other => rw [msg] at other; cases other
  | remove other => rw [msg] at other; cases other
  | yank other => rcases other with ⟨_, other⟩ | ⟨_, other⟩ <;> rw [msg] at other <;> cases other
  | _ => exact ⟨notPending, same⟩

/-- In every run, with security toggled at any time, in which no pending version
    is registered directly: a successful approval leaves the reference of every
    version that is registered already, and registers no yanked version. -/
theorem approval_replaces_nothing {deps : Deps} {msg : InstantiateMsg} {s₀ : RegistryState}
    (init : instantiate deps msg = .ok s₀) (inputs : List Input)
    (registers : AlongAccepted execute (fun s i => i.msg.RegistersUnpending s) s₀ inputs)
    (approval : Input) (approves rejects : List ModuleInfo)
    (isApproval : approval.msg = .ApproveOrRejectModules approves rejects) :
    let s := run execute s₀ inputs
    ∀ s' msgs, execute approval s = .ok (s', msgs) →
      (∀ key reference, s.registeredModules.lookup key = some reference →
        s'.registeredModules.lookup key = some reference) ∧
      (∀ key ∈ s.yankedModules,
        s'.registeredModules.lookup key = s.registeredModules.lookup key) := by
  intro s s' msgs ok
  have apart : PendingApart s := pendingApart_run init registers
  have writes := execute_writes ok
  refine ⟨fun key reference found => ?_, fun key yanked => ?_⟩
  · have notPending : key ∉ s.pendingModules :=
      fun pending => (apart key pending).1 (mem_of_lookup found)
    rw [approve_registered_eq isApproval writes notPending]
    exact found
  · have notPending : key ∉ s.pendingModules := fun pending => (apart key pending).2 yanked
    exact approve_registered_eq isApproval writes notPending

end Approval

section ApprovalSample

attribute [local instance] releaseCrates

/-- The account module waits for approval, and another code is registered for
    the same version while security is disabled. -/
def overtaken : List Input :=
  [sampleInput "adm" (.ProposeModules [(accountVersion, .Account 1)]),
    sampleInput "adm" (.UpdateConfig (some false) none),
    sampleInput "adm" (.ProposeModules [(accountVersion, .Account 2)]),
    sampleInput "adm" (.UpdateConfig (some true) none)]

def approveAccount : Input := sampleInput "adm" (.ApproveOrRejectModules [accountVersion] [])

def secondAccountVersion : ModuleInfo := { accountVersion with version := .Version "1.1.0" }

/-- The account module waits for approval while its next version is registered. -/
def sideBySide : List Input :=
  [sampleInput "adm" (.ProposeModules [(accountVersion, .Account 1)]),
    sampleInput "adm" (.UpdateConfig (some false) none),
    sampleInput "adm" (.ProposeModules [(secondAccountVersion, .Account 2)])]

/-- The approval succeeds and leaves the next version alone. -/
theorem approval_replaces_nothing_account :
    (execute approveAccount (run execute (sampleStart true) sideBySide)).toOption.isSome ∧
    ∀ s' msgs, execute approveAccount (run execute (sampleStart true) sideBySide) = .ok (s', msgs) →
      s'.registeredModules.lookup secondAccountVersion.key = some (.Account 2) := by
  have registers : Along execute (fun s i => i.msg.RegistersUnpending s) (sampleStart true)
      sideBySide := by decide
  refine ⟨by decide, fun s' msgs ok => ?_⟩
  exact (approval_replaces_nothing (instantiate_sample true) sideBySide registers.accepted
    approveAccount [accountVersion] [] rfl s' msgs ok).1 secondAccountVersion.key (.Account 2)
    (by decide)

/-- The approval replaces the reference of the registered version. -/
theorem approval_replaces_registered :
    instantiate sampleDeps (sampleInstantiate true) = .ok (sampleStart true) ∧
    (let s := run execute (sampleStart true) overtaken
     s.registeredModules.lookup accountVersion.key = some (.Account 2) ∧
      (execute approveAccount s).toOption.map (·.1.registeredModules.lookup accountVersion.key) =
        some (some (.Account 1))) := by
  refine ⟨instantiate_sample true, ?_⟩
  decide

end ApprovalSample

end AbstractFramework.Registry
