import Transparency.Manager

/-!
# Turns of a manager

What a single call of a manager can do. There are four cases, the constructors of `Manager.Turn`: the manager is in
the state that is asked for, the inspector cannot be made, it is attached, or it is detached. `Manager.turn_reconcile`
says that there are no others, as long as the memory *fits* the manager: what is kept has the manager's handle, and
nothing is enabled without an inspector. Every turn leaves a memory that fits (`Manager.Turn.fits`), and what it does to
the flag and to the number of copies follows from what was asked and whether it succeeded (`Manager.Turn.isEnabled_eq`,
`Manager.Turn.countSame_eq`). No turn touches the other entries (`Manager.Turn.removeSame_eq`).

Everything said about managers is derived from these turns; `Manager.reconcile` is opened here only.
-/

namespace Transparency

variable {σ : Type}

/-- What a manager of some handle may remember. -/
structure ManagerState.Fits (memory : ManagerState σ) (handle : Handle) : Prop where
  /-- what is kept has the handle -/
  handle_eq : ∀ entry, memory.inspector = some entry → entry.handle = handle
  /-- a manager that attached its inspector has kept it -/
  isSome_of_isEnabled : memory.isEnabled = true → memory.inspector.isSome = true

/-- A manager that has done nothing yet. -/
theorem ManagerState.fits_new (handle : Handle) : ({} : ManagerState σ).Fits handle where
  handle_eq _ h := nomatch h
  isSome_of_isEnabled h := nomatch h

namespace Manager

variable [Journal σ] {manager : Manager σ} {memory memory' : ManagerState σ} {desired : Bool}
  {chain chain' : Chain σ} {result : Except Error Change} {s s' : σ} {entry : Entry σ} {error : Error}

/-- What one call of a manager does to the chain at hand and to what the manager remembers. -/
inductive Turn (manager : Manager σ) (desired : Bool) (chain : Chain σ) (memory : ManagerState σ) :
    Except Error Change → Chain σ → ManagerState σ → Prop where
  /-- the manager is in the state that is asked for -/
  | stay : desired = memory.isEnabled → Turn manager desired chain memory (.ok .unchanged) chain memory
  /-- the inspector is needed and cannot be made -/
  | refuse (error : Error) : desired = true → memory.isEnabled = false → memory.inspector = none →
      Turn manager desired chain memory (.error error) chain memory
  /-- the inspector goes to the end of the chain; one that was kept is used again -/
  | attach (entry : Entry σ) : desired = true → memory.isEnabled = false → entry.handle = manager.handle →
      (∀ kept, memory.inspector = some kept → kept = entry) →
      Turn manager desired chain memory (.ok .attached) (chain.addShared entry) ⟨some entry, true⟩
  /-- all copies of the inspector leave the chain -/
  | detach : desired = false → memory.isEnabled = true →
      Turn manager desired chain memory (.ok (.detached (chain.countSame manager.handle)))
        (chain.removeSame manager.handle) { memory with isEnabled := false }

theorem handle_of_construct (h : manager.construct s = (.ok entry, s')) : entry.handle = manager.handle := by
  rw [construct] at h
  split at h
  · cases h
  · split at h
    · cases h
    · obtain ⟨rfl, -⟩ := Prod.mk.inj h |>.imp_left Except.ok.inj
      rfl

theorem obtain_of_kept (h : memory.inspector = some entry) : manager.obtain memory s = (.ok entry, s) := by
  rw [Manager.obtain, h]

theorem obtain_of_none (h : memory.inspector = none) : manager.obtain memory s = manager.construct s := by
  rw [Manager.obtain, h]

/-! ### The four cases as equations -/

theorem reconcile_stay (same : desired = memory.isEnabled) :
    manager.reconcile desired chain memory s = (.ok .unchanged, chain, memory, s) := by
  subst same
  rcases state : memory.isEnabled <;> simp only [reconcile, state]

theorem reconcile_refuse (off : memory.isEnabled = false) (failed : manager.obtain memory s = (.error error, s')) :
    manager.reconcile true chain memory s = (.error error, chain, memory, s') := by
  simp only [reconcile, off, failed]

theorem reconcile_attach (off : memory.isEnabled = false) (got : manager.obtain memory s = (.ok entry, s')) :
    manager.reconcile true chain memory s =
      (.ok .attached, chain.addShared entry, ⟨some entry, true⟩, announce .attached (chain.addShared entry) s') := by
  simp only [reconcile, off, got]

theorem reconcile_detach (on : memory.isEnabled = true) (kept : memory.inspector = some entry) :
    manager.reconcile false chain memory s =
      (.ok (.detached (chain.countSame entry.handle)), chain.removeSame entry.handle,
        { memory with isEnabled := false },
        announce (.detached (chain.countSame entry.handle)) (chain.removeSame entry.handle) s) := by
  simp only [reconcile, on, kept, Chain.length_sub_length_removeSame]

/-! ### Turns -/

/-- A call that needs the inspector. -/
theorem turn_of_enabling (fits : memory.Fits manager.handle) (off : memory.isEnabled = false) :
    ∃ result chain' memory' s', manager.reconcile true chain memory s = (result, chain', memory', s') ∧
      manager.Turn true chain memory result chain' memory' := by
  rcases kept : memory.inspector with _ | entry
  · -- nothing is kept: a new inspector has to be made
    rcases made : manager.construct s with ⟨error | entry, s'⟩
    · have failed := (obtain_of_none kept).trans made
      exact ⟨_, _, _, _, reconcile_refuse off failed, .refuse error rfl off kept⟩
    · have got := (obtain_of_none kept).trans made
      refine ⟨_, _, _, _, reconcile_attach off got, .attach entry rfl off (handle_of_construct made) ?_⟩
      intro other h
      rw [kept] at h
      cases h
  · have got : manager.obtain memory s = (.ok entry, s) := obtain_of_kept kept
    refine ⟨_, _, _, _, reconcile_attach off got, .attach entry rfl off (fits.handle_eq entry kept) ?_⟩
    intro other h
    rw [kept] at h
    exact (Option.some.inj h).symm

/-- A call that takes the inspector out. -/
theorem turn_of_disabling (fits : memory.Fits manager.handle) (on : memory.isEnabled = true) :
    ∃ result chain' memory' s', manager.reconcile false chain memory s = (result, chain', memory', s') ∧
      manager.Turn false chain memory result chain' memory' := by
  obtain ⟨entry, kept⟩ := Option.isSome_iff_exists.mp (fits.isSome_of_isEnabled on)
  have same : entry.handle = manager.handle := fits.handle_eq entry kept
  refine ⟨_, _, _, _, reconcile_detach on kept, ?_⟩
  rw [same]
  exact .detach rfl on

/-- Every call is a turn. -/
theorem turn_reconcile (fits : memory.Fits manager.handle) (desired : Bool) (chain : Chain σ) (s : σ) :
    ∃ result chain' memory' s', manager.reconcile desired chain memory s = (result, chain', memory', s') ∧
      manager.Turn desired chain memory result chain' memory' := by
  rcases state : memory.isEnabled <;> cases desired
  · exact ⟨_, _, _, _, reconcile_stay state.symm, .stay state.symm⟩
  · exact turn_of_enabling fits state
  · exact turn_of_disabling fits state
  · exact ⟨_, _, _, _, reconcile_stay state.symm, .stay state.symm⟩

omit [Journal σ] in
/-- A turn leaves a memory that fits the manager. -/
theorem Turn.fits (turn : manager.Turn desired chain memory result chain' memory')
    (fits : memory.Fits manager.handle) : memory'.Fits manager.handle := by
  cases turn with
  | stay => exact fits
  | refuse => exact fits
  | attach entry _ _ same _ =>
    refine ⟨fun other h => ?_, fun _ => rfl⟩
    obtain rfl := Option.some.inj h
    exact same
  | detach => exact ⟨fits.handle_eq, fun h => by cases h⟩

omit [Journal σ] in
/-- After a turn that succeeds the manager is as it was asked to be; a refusal leaves it as it is. -/
theorem Turn.isEnabled_eq (turn : manager.Turn desired chain memory result chain' memory') :
    memory'.isEnabled = if result.isOk then desired else memory.isEnabled := by
  cases turn with
  | stay same => exact same.symm
  | refuse => rfl
  | attach _ on => exact on.symm
  | detach off => exact off.symm

omit [Journal σ] in
/-- The copies in the chain after a turn. Only a turn that changes what the manager is changes their number. -/
theorem Turn.countSame_eq (turn : manager.Turn desired chain memory result chain' memory') :
    chain'.countSame manager.handle =
      if result.isOk && desired != memory.isEnabled then
        if desired then chain.countSame manager.handle + 1 else 0
      else chain.countSame manager.handle := by
  cases turn with
  | stay same =>
    subst same
    simp [Except.isOk, Except.toBool]
  | refuse => rfl
  | attach entry on off same _ =>
    subst on
    have isOf : entry.isOf manager.handle = true := decide_eq_true same
    rw [Chain.countSame_addShared, isOf, off]
    rfl
  | detach off on =>
    subst off
    rw [Chain.countSame_removeSame, on]
    rfl

omit [Journal σ] in
/-- The inspector apart, a turn leaves the chain as it is. -/
theorem Turn.removeSame_eq (turn : manager.Turn desired chain memory result chain' memory') :
    chain'.removeSame manager.handle = chain.removeSame manager.handle := by
  cases turn with
  | stay => rfl
  | refuse => rfl
  | attach entry _ _ same _ =>
    have goes : entry.isOf manager.handle = true := decide_eq_true same
    rw [Chain.removeSame_eq_filter, Chain.removeSame_eq_filter, Chain.addShared, List.filter_append]
    simp [goes]
  | detach =>
    rw [Chain.removeSame_eq_filter, Chain.removeSame_eq_filter, List.filter_filter]
    simp only [Bool.and_self]

end Manager

end Transparency
