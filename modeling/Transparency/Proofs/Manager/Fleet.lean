import Mathlib.Logic.Function.Basic
import Transparency.Client.Builder
import Transparency.Proofs.Chain.Edit
import Transparency.Proofs.Manager.Turn

/-!
# Fleets

One manager looks after any number of chains, a `Fleet`. What happens to it is a *history* of operations, the latest
first: the manager is called on a chain, other code edits a chain, or the state that all of them share changes in some
other way: a preference is set, a file is written, a request is sent. So a point of a history is a suffix of it.

Those who call the manager see a `Call` each time: the chain it was made on, the value it acted on, and the result. A
call that succeeded *switches* if it acted on another value than the last call before it that succeeded, on any chain.
`switchesAt` lists what was switched to at one chain, again the latest first.

The bookkeeping of a fleet is `Fleet.Tallies`: the manager is enabled as the last call asked, and a chain holds one
copy of the inspector for each time it was switched on since it was last switched off. Every operation keeps it
(`Tallies.call`, `Tallies.edit`), and so does every history (`tallies_after`).
-/

namespace Transparency

variable {ι σ : Type}

/-! ## Calls -/

/-- How a manager is called. -/
inductive Ask where
  /-- with the value that is wanted -/
  | value (desired : Bool)
  /-- to follow the preference -/
  | preference
  deriving DecidableEq, Repr

/-- The value that a call acts on. A preference that cannot be read counts as off. -/
def Ask.desired (manager : Manager σ) (s : σ) : Ask → Bool
  | value desired => desired
  | preference =>
    match (manager.readPreference s).1 with
    | .ok wanted => wanted
    | .error _ => false

namespace Manager

variable [Journal σ]

/-- Brings a chain in line with what is asked, or with the preference. -/
def answer (manager : Manager σ) : Ask → Chain σ → ManagerState σ → σ →
    Except Error Change × Chain σ × ManagerState σ × σ
  | .value desired => manager.reconcile desired
  | .preference => manager.reconcileWithPreferences

theorem desired_fst (manager : Manager σ) (s : σ) : (manager.desired s).1 = Ask.preference.desired manager s := by
  rw [Manager.desired, Ask.desired]
  rcases manager.readPreference s with ⟨_ | _, _⟩ <;> rfl

theorem turn_answer {manager : Manager σ} {memory : ManagerState σ} (fits : memory.Fits manager.handle) (ask : Ask)
    (chain : Chain σ) (s : σ) :
    ∃ result chain' memory' s', manager.answer ask chain memory s = (result, chain', memory', s') ∧
      manager.Turn (ask.desired manager s) chain memory result chain' memory' := by
  cases ask with
  | value desired => exact turn_reconcile fits desired chain s
  | preference =>
    rw [← desired_fst]
    exact turn_reconcile fits (manager.desired s).1 chain (manager.desired s).2

end Manager

/-- A call of a manager as its caller sees it. -/
structure Call (ι : Type) where
  /-- which chain it was made on -/
  place : ι
  /-- the value it acted on -/
  desired : Bool
  result : Except Error Change

/-! ## The books of the callers -/

/-- What the last call that succeeded asked for; off, before there was one. -/
def lastAsked : List (Call ι) → Bool
  | [] => false
  | call :: earlier => if call.result.isOk then call.desired else lastAsked earlier

/-- Whether a call switches, after these calls. -/
def Call.isSwitch (call : Call ι) (earlier : List (Call ι)) : Bool :=
  call.result.isOk && call.desired != lastAsked earlier

/-- A switch leaves the value that it acted on, and came after the other. -/
theorem lastAsked_of_isSwitch {call : Call ι} {earlier : List (Call ι)} (switch : call.isSwitch earlier = true) :
    lastAsked (call :: earlier) = call.desired ∧ lastAsked earlier = !call.desired := by
  rw [Call.isSwitch, Bool.and_eq_true, bne_iff_ne] at switch
  exact ⟨if_pos switch.1, Bool.eq_not_of_ne (Ne.symm switch.2)⟩

theorem lastAsked_of_not_isSwitch {call : Call ι} {earlier : List (Call ι)} (same : call.isSwitch earlier = false) :
    lastAsked (call :: earlier) = lastAsked earlier := by
  rw [Call.isSwitch, Bool.and_eq_false_iff, bne_eq_false_iff_eq] at same
  rcases same with failed | same
  · exact if_neg (Bool.eq_false_iff.mp failed)
  · rw [lastAsked, same, ite_self]

/-- What was switched to at a place, the latest first. -/
def switchesAt [DecidableEq ι] (place : ι) : List (Call ι) → List Bool
  | [] => []
  | call :: earlier =>
    if call.place = place ∧ call.isSwitch earlier = true then call.desired :: switchesAt place earlier
    else switchesAt place earlier

theorem switchesAt_of_ne [DecidableEq ι] {place : ι} {call : Call ι} (elsewhere : call.place ≠ place)
    (earlier : List (Call ι)) : switchesAt place (call :: earlier) = switchesAt place earlier :=
  if_neg fun both => elsewhere both.1

theorem switchesAt_of_isSwitch [DecidableEq ι] {place : ι} {call : Call ι} {earlier : List (Call ι)}
    (here : call.place = place) (switch : call.isSwitch earlier = true) :
    switchesAt place (call :: earlier) = call.desired :: switchesAt place earlier :=
  if_pos ⟨here, switch⟩

theorem switchesAt_of_not_isSwitch [DecidableEq ι] {call : Call ι} {earlier : List (Call ι)}
    (same : call.isSwitch earlier = false) (place : ι) :
    switchesAt place (call :: earlier) = switchesAt place earlier :=
  if_neg fun both => Bool.false_ne_true (same.symm.trans both.2)

/-- How often it was switched on since it was last switched off. -/
def onsSinceOff : List Bool → Nat
  | true :: earlier => onsSinceOff earlier + 1
  | _ => 0

theorem onsSinceOff_cons (value : Bool) (earlier : List Bool) :
    onsSinceOff (value :: earlier) = if value then onsSinceOff earlier + 1 else 0 := by
  cases value <;> rfl

/-- What was last switched to; off, before anything was. -/
def lastSwitch (switches : List Bool) : Bool := switches.head?.getD false

theorem onsSinceOff_pos_iff (switches : List Bool) : 0 < onsSinceOff switches ↔ lastSwitch switches = true := by
  rcases switches with _ | ⟨_ | _, earlier⟩ <;> simp [onsSinceOff, lastSwitch]

/-! ## Fleets and their histories -/

/-- Chains, and what they share: the memory of one manager, and the state of everything else. -/
structure Fleet (ι σ : Type) where
  chains : ι → Chain σ
  memory : ManagerState σ := {}
  state : σ

/-- What may happen to a fleet. -/
inductive Operation (ι σ : Type) : Type 1 where
  /-- the manager is called on a chain -/
  | call (place : ι) (ask : Ask)
  /-- other code edits a chain -/
  | edit (place : ι) (edit : Edit σ)
  /-- anything that changes neither a chain nor what the manager remembers -/
  | other (change : σ → σ)

namespace Fleet

variable [DecidableEq ι] [Journal σ]

/-- A call of the manager, and the fleet after it. -/
def call (manager : Manager σ) (place : ι) (ask : Ask) (fleet : Fleet ι σ) : Call ι × Fleet ι σ :=
  let (result, chain, memory, state) := manager.answer ask (fleet.chains place) fleet.memory fleet.state
  (⟨place, ask.desired manager fleet.state, result⟩, ⟨Function.update fleet.chains place chain, memory, state⟩)

/-- The fleet after an operation. -/
def step (manager : Manager σ) (fleet : Fleet ι σ) : Operation ι σ → Fleet ι σ
  | .call place ask => (fleet.call manager place ask).2
  | .edit place edit => { fleet with chains := Function.update fleet.chains place (edit.apply (fleet.chains place)) }
  | .other change => { fleet with state := change fleet.state }

/-- The fleet after a history. -/
def after (manager : Manager σ) (start : Fleet ι σ) : List (Operation ι σ) → Fleet ι σ
  | [] => start
  | operation :: earlier => (start.after manager earlier).step manager operation

/-- The calls of a history, the latest first. -/
def calls (manager : Manager σ) (start : Fleet ι σ) : List (Operation ι σ) → List (Call ι)
  | [] => []
  | .call place ask :: earlier =>
    ((start.after manager earlier).call manager place ask).1 :: start.calls manager earlier
  | _ :: earlier => start.calls manager earlier

/-- No edit of a history puts a copy of the manager's inspector into a chain or takes one out. -/
def Spared (manager : Manager σ) (start : Fleet ι σ) : List (Operation ι σ) → Prop
  | [] => True
  | .edit place edit :: earlier =>
    edit.Spares manager.handle ((start.after manager earlier).chains place) ∧ start.Spared manager earlier
  | _ :: earlier => start.Spared manager earlier

theorem Spared.tail {manager : Manager σ} {start : Fleet ι σ} {operation : Operation ι σ}
    {earlier : List (Operation ι σ)} (spared : start.Spared manager (operation :: earlier)) :
    start.Spared manager earlier := by
  cases operation with
  | call => exact spared
  | edit => exact spared.2
  | other => exact spared

/-! ## Bookkeeping -/

/-- The books of the callers agree with the fleet, as far as the manager and one chain are concerned. -/
structure Tallies (manager : Manager σ) (place : ι) (fleet : Fleet ι σ) (calls : List (Call ι)) : Prop where
  fits : fleet.memory.Fits manager.handle
  isEnabled_eq : fleet.memory.isEnabled = lastAsked calls
  countSame_eq : (fleet.chains place).countSame manager.handle = onsSinceOff (switchesAt place calls)

variable {manager : Manager σ} {start fleet : Fleet ι σ} {place : ι} {calls : List (Call ι)}

/-- A call is a turn at its chain, and touches no other. -/
theorem call_turn (fits : fleet.memory.Fits manager.handle) (place : ι) (ask : Ask) :
    ∃ result chain' memory' s',
      fleet.call manager place ask = (⟨place, ask.desired manager fleet.state, result⟩,
        ⟨Function.update fleet.chains place chain', memory', s'⟩) ∧
      manager.Turn (ask.desired manager fleet.state) (fleet.chains place) fleet.memory result chain' memory' := by
  obtain ⟨result, chain', memory', s', answered, turn⟩ :=
    Manager.turn_answer fits ask (fleet.chains place) fleet.state
  exact ⟨result, chain', memory', s', by rw [call, answered], turn⟩

/-- Whatever happens, the manager remembers nothing that does not fit. -/
theorem fits_after (new : start.memory = {}) :
    ∀ history : List (Operation ι σ), (start.after manager history).memory.Fits manager.handle
  | [] => by
    rw [after, new]
    exact ManagerState.fits_new manager.handle
  | .call place ask :: earlier => by
    obtain ⟨result, chain', memory', s', called, turn⟩ := call_turn (fits_after new earlier) place ask
    rw [after, step, called]
    exact turn.fits (fits_after new earlier)
  | .edit _ _ :: earlier => fits_after new earlier
  | .other _ :: earlier => fits_after new earlier

theorem Tallies.call (tallies : Tallies manager place fleet calls) (site : ι) (ask : Ask) :
    Tallies manager place (fleet.call manager site ask).2 ((fleet.call manager site ask).1 :: calls) := by
  obtain ⟨result, chain', memory', s', called, turn⟩ := call_turn tallies.fits site ask
  rw [called]
  refine ⟨turn.fits tallies.fits, ?_, ?_⟩
  · rw [turn.isEnabled_eq, tallies.isEnabled_eq, lastAsked]
  · -- the call counts at its own chain only, and there only if it switches
    by_cases here : site = place
    · subst here
      have counted : chain'.countSame manager.handle =
          if Call.isSwitch ⟨site, ask.desired manager fleet.state, result⟩ calls then
            if ask.desired manager fleet.state then onsSinceOff (switchesAt site calls) + 1 else 0
          else onsSinceOff (switchesAt site calls) := by
        rw [turn.countSame_eq, tallies.isEnabled_eq, tallies.countSame_eq]
        rfl
      dsimp only
      rw [Function.update_self, counted]
      split
      next switch => rw [switchesAt_of_isSwitch rfl switch, onsSinceOff_cons]
      next same => rw [switchesAt_of_not_isSwitch (Bool.eq_false_iff.mpr same)]
    · dsimp only
      rw [Function.update_of_ne (Ne.symm here), tallies.countSame_eq, switchesAt_of_ne here]

theorem Tallies.edit (tallies : Tallies manager place fleet calls) {site : ι} {edit : Edit σ}
    (spares : edit.Spares manager.handle (fleet.chains site)) :
    Tallies manager place (fleet.step manager (.edit site edit)) calls := by
  refine ⟨tallies.fits, tallies.isEnabled_eq, ?_⟩
  rw [← tallies.countSame_eq]
  simp only [step]
  by_cases here : site = place
  · subst here
    rw [Function.update_self, Edit.countSame_apply spares]
  · rw [Function.update_of_ne (Ne.symm here)]

/-- The books agree with the fleet after every history that spares the inspector, if nothing had been done before and
the chain started without it. -/
theorem tallies_after (new : start.memory = {}) (absent : (start.chains place).countSame manager.handle = 0) :
    ∀ history : List (Operation ι σ), start.Spared manager history →
      Tallies manager place (start.after manager history) (start.calls manager history)
  | [], _ => by
    refine ⟨?_, ?_, absent⟩
    · rw [after, new]
      exact ManagerState.fits_new manager.handle
    · rw [after, new]
      rfl
  | .call site ask :: earlier, spared => (tallies_after new absent earlier spared).call site ask
  | .edit _ _ :: earlier, spared => (tallies_after new absent earlier spared.2).edit spared.1
  | .other _ :: earlier, spared =>
    have tallies := tallies_after new absent earlier spared
    ⟨tallies.fits, tallies.isEnabled_eq, tallies.countSame_eq⟩

end Fleet

/-! ## A fleet to look at -/

/-- A state in which everything that a manager does can be run: a preference that may be unreadable, and a number of
times that the verifier cannot be made. -/
structure Desk where
  preference : Option Bool := some true
  refusals : Nat := 0
  isFailing : Bool := false
  notes : List Note := []

namespace Desk

instance : Journal Desk where
  record note desk := { desk with notes := note :: desk.notes }

/-- A manager that finds every certificate trusted. -/
def manager : Manager Desk where
  handle := ⟨"inspector"⟩
  readPreference desk := (desk.preference.elim (.error (.preference "store unavailable")) .ok, desk)
  makeVerifier desk :=
    if desk.refusals = 0 then (.ok ⟨fun _ _ desk => (.success (.trusted 2), desk)⟩, desk)
    else (.error (.verifier (.other "log list missing")), { desk with refusals := desk.refusals - 1 })
  policy := {}
  debouncer := ⟨⟨isFailing, fun isFailing desk => { desk with isFailing }, fun _ _ => rfl, fun _ => rfl⟩, Sink.journal⟩

/-- Empty chains around a state. -/
def fleet (ι : Type) (desk : Desk) : Fleet ι Desk := { chains := fun _ => [], state := desk }

end Desk

end Transparency
