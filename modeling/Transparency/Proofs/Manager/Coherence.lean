import Transparency.Proofs.Manager.Fleet

/-!
# One manager, one chain

If a manager is only ever called on one chain, what it believes and what the chain holds cannot drift apart, whatever
other code does to the other entries: the manager is enabled exactly while the chain holds its inspector, and then
once. Every switch of such a manager is a switch of that chain, so switching on and off take turns there
(`onsSinceOff_switchesAt`).
-/

namespace Transparency

variable {ι σ : Type} [DecidableEq ι]

/-- Where all calls are made at one place, it holds what was last asked for. -/
theorem onsSinceOff_switchesAt {place : ι} {calls : List (Call ι)} (only : ∀ call ∈ calls, call.place = place) :
    onsSinceOff (switchesAt place calls) = if lastAsked calls then 1 else 0 := by
  induction calls with
  | nil => rfl
  | cons call earlier ih =>
    have here : call.place = place := only call List.mem_cons_self
    have ih := ih fun call mem => only call (List.mem_cons_of_mem _ mem)
    rcases switch : call.isSwitch earlier with _ | _
    · rw [switchesAt_of_not_isSwitch switch, lastAsked_of_not_isSwitch switch, ih]
    · -- a switch comes after the other one, so it is made from no copy to one, or from one to none
      obtain ⟨now, before⟩ := lastAsked_of_isSwitch switch
      rw [switchesAt_of_isSwitch here switch, onsSinceOff_cons, ih, now, before]
      cases call.desired <;> rfl

namespace Fleet

variable [Journal σ] {manager : Manager σ} {start : Fleet ι σ} {place : ι} {history : List (Operation ι σ)}

/-- The chain that all calls were made on holds one copy of the inspector, or none. -/
theorem countSame_of_only (new : start.memory = {}) (absent : (start.chains place).countSame manager.handle = 0)
    (spared : start.Spared manager history) (only : ∀ call ∈ start.calls manager history, call.place = place) :
    ((start.after manager history).chains place).countSame manager.handle =
      if (start.after manager history).memory.isEnabled then 1 else 0 := by
  have tallies := tallies_after new absent history spared
  rw [tallies.countSame_eq, tallies.isEnabled_eq, onsSinceOff_switchesAt only]

/-- **A manager and its only chain agree.** Let a new manager be called on one chain only, any number of times and in
any way, while other code edits that chain but spares the inspector, which was not in it at first. Then after every
history the manager is enabled exactly if the chain holds one copy of its inspector, and otherwise the chain holds
none. A call that succeeds leaves the manager as it was asked to be, and if it detaches, it detaches one copy. A call
fails only if it wants the inspector in while none was made before, and then nothing has changed. -/
theorem agrees_with_only_chain (new : start.memory = {})
    (absent : (start.chains place).countSame manager.handle = 0) (spared : start.Spared manager history)
    (only : ∀ call ∈ start.calls manager history, call.place = place) :
    let fleet := start.after manager history
    (fleet.memory.isEnabled = true ↔ (fleet.chains place).countSame manager.handle = 1) ∧
    (fleet.memory.isEnabled = false ↔ (fleet.chains place).countSame manager.handle = 0) ∧
    ∀ ask, let (call, next) := fleet.call manager place ask
      (∀ change, call.result = .ok change → next.memory.isEnabled = ask.desired manager fleet.state) ∧
      (∀ copies, call.result = .ok (.detached copies) → copies = 1) ∧
      (∀ error, call.result = .error error → ask.desired manager fleet.state = true ∧
        fleet.memory.isEnabled = false ∧ fleet.memory.inspector = none ∧
        next.memory = fleet.memory ∧ next.chains = fleet.chains) := by
  intro fleet
  have counted : (fleet.chains place).countSame manager.handle = if fleet.memory.isEnabled then 1 else 0 :=
    countSame_of_only new absent spared only
  refine ⟨?_, ?_, fun ask => ?_⟩
  · rw [counted]
    cases fleet.memory.isEnabled <;> decide
  · rw [counted]
    cases fleet.memory.isEnabled <;> decide
  · have fits : fleet.memory.Fits manager.handle := (tallies_after new absent history spared).fits
    obtain ⟨result, chain', memory', s', called, turn⟩ := call_turn fits place ask
    rw [called]
    refine ⟨?_, ?_, ?_⟩
    · rintro change rfl
      exact turn.isEnabled_eq
    · rintro copies rfl
      cases turn with
      | detach _ on => rw [counted, on, if_pos rfl]
    · rintro error rfl
      cases turn with
      | refuse _ wanted off unmade =>
        exact ⟨wanted, off, unmade, rfl, Function.update_eq_self place fleet.chains⟩

end Fleet

namespace Desk

/-- The inspector cannot be made at first, then it can; a logger is put in before it leaves again, since the preference
has become unreadable. The latest operation stands first. -/
def toggled : List (Operation Unit Desk) :=
  [.call () .preference, .other fun desk => { desk with preference := none },
    .edit () (.add { ({} : RequestLogger).toInterceptor with handle := ⟨"logger"⟩ }),
    .call () (.value true), .call () .preference]

theorem agrees_when_toggled :
    (fleet Unit { refusals := 1 }).Spared manager toggled ∧
      ((fleet Unit { refusals := 1 }).after manager toggled).memory.isEnabled = false ∧
      (((fleet Unit { refusals := 1 }).after manager toggled).chains ()).countSame manager.handle = 0 := by
  have spared : (fleet Unit { refusals := 1 }).Spared manager toggled :=
    ⟨(by decide : (⟨"logger"⟩ : Handle) ≠ ⟨"inspector"⟩), trivial⟩
  have only : ∀ call ∈ (fleet Unit { refusals := 1 }).calls manager toggled, call.place = () := fun _ _ => rfl
  have agrees := Fleet.agrees_with_only_chain rfl rfl spared only
  have off : ((fleet Unit { refusals := 1 }).after manager toggled).memory.isEnabled = false := by decide
  exact ⟨spared, off, agrees.2.1.mp off⟩

end Desk

end Transparency
