import Transparency.Proofs.Manager.Fleet

/-!
# The ledger of a manager

Some calls of a manager report that they changed something, the others found the manager as they asked for it, or
failed. `changes` lists what was reported, the latest first, and `changesAt` what was reported at one chain.

One flag stands for all chains. So it is all changes together that take turns, wherever they were made; at one chain
the inspector may be attached several times in a row, or be detached when it is not there. What a chain holds can still
be read off its part of the ledger: a copy for each time that the inspector was attached since it was last detached
there.

The ledger is a second account of what `Fleet.Tallies` says by what was asked for. The two agree since calls are
`Truthful`: a change is reported by exactly those calls that switch. `Fleet.ledger_balances` is the result about all
histories.
-/

namespace Transparency

variable {ι σ : Type}

/-- Whether the inspector was put in. -/
def Change.isAttached : Change → Bool
  | attached => true
  | _ => false

/-- The change that a call reports, if it made one. -/
def Call.change? (call : Call ι) : Option Change :=
  match call.result with
  | .ok .unchanged => none
  | .ok change => some change
  | .error _ => none

/-- The changes that calls report, the latest first. -/
def changes (calls : List (Call ι)) : List Change := calls.filterMap Call.change?

/-- The changes that calls report at a place, the latest first. -/
def changesAt [DecidableEq ι] (place : ι) (calls : List (Call ι)) : List Change :=
  changes (calls.filter (·.place = place))

/-- How often the inspector was attached since it was last detached. -/
def attachedSinceDetached (changes : List Change) : Nat := (changes.takeWhile (· = .attached)).length

/-! ## Changes -/

namespace Change

theorem isAttached_eq_decide (change : Change) : change.isAttached = decide (change = .attached) := by
  cases change <;> rfl

/-- A change that does not put the inspector in takes it out. -/
theorem exists_eq_detached {change : Change} (changed : change ≠ .unchanged) (out : change.isAttached = false) :
    ∃ copies, change = .detached copies := by
  cases change with
  | attached => cases out
  | detached copies => exact ⟨copies, rfl⟩
  | unchanged => exact absurd rfl changed

end Change

theorem attachedSinceDetached_eq (changes : List Change) :
    attachedSinceDetached changes = onsSinceOff (changes.map Change.isAttached) := by
  induction changes with
  | nil => rfl
  | cons change earlier ih =>
    rw [attachedSinceDetached, List.takeWhile_cons, ← Change.isAttached_eq_decide, List.map_cons, onsSinceOff_cons]
    cases change.isAttached with
    | true => exact congrArg (· + 1) ih
    | false => rfl

theorem Call.change?_ne_unchanged {call : Call ι} {change : Change} (reports : call.change? = some change) :
    change ≠ .unchanged := by
  rintro rfl
  rcases result : call.result with error | ⟨_ | copies | _⟩ <;> simp [Call.change?, result] at reports

theorem ne_unchanged_of_mem_changes {calls : List (Call ι)} {change : Change} (mem : change ∈ changes calls) :
    change ≠ .unchanged := by
  obtain ⟨call, -, reports⟩ := List.mem_filterMap.mp mem
  exact call.change?_ne_unchanged reports

theorem changes_of_silent {call : Call ι} (silent : call.change? = none) (earlier : List (Call ι)) :
    changes (call :: earlier) = changes earlier :=
  List.filterMap_cons_none silent

theorem changes_of_reports {call : Call ι} {change : Change} (reports : call.change? = some change)
    (earlier : List (Call ι)) : changes (call :: earlier) = change :: changes earlier :=
  List.filterMap_cons_some reports

section Places

variable [DecidableEq ι] {place : ι} {call : Call ι}

theorem changesAt_of_ne (elsewhere : call.place ≠ place) (earlier : List (Call ι)) :
    changesAt place (call :: earlier) = changesAt place earlier := by
  rw [changesAt, List.filter_cons_of_neg (by simpa using elsewhere), changesAt]

theorem changesAt_of_silent (silent : call.change? = none) (earlier : List (Call ι)) :
    changesAt place (call :: earlier) = changesAt place earlier := by
  by_cases here : call.place = place
  · rw [changesAt, List.filter_cons_of_pos (by simpa using here), changes_of_silent silent, changesAt]
  · exact changesAt_of_ne here earlier

theorem changesAt_of_reports (here : call.place = place) {change : Change} (reports : call.change? = some change)
    (earlier : List (Call ι)) : changesAt place (call :: earlier) = change :: changesAt place earlier := by
  rw [changesAt, List.filter_cons_of_pos (by simpa using here), changes_of_reports reports, changesAt]

end Places

/-! ## Truthful calls -/

/-- Calls report a change exactly if they switch, and it is the change to the value that they acted on. -/
def Truthful : List (Call ι) → Prop
  | [] => True
  | call :: earlier =>
    call.change?.map Change.isAttached = (if call.isSwitch earlier then some call.desired else none) ∧
      Truthful earlier

namespace Truthful

variable {call : Call ι} {calls earlier : List (Call ι)}

/-- A call that switches reports a change, and any other call reports none. -/
theorem cases (truthful : Truthful (call :: earlier)) :
    (call.change? = none ∧ call.isSwitch earlier = false) ∨
    (∃ change, call.change? = some change ∧ call.isSwitch earlier = true ∧ change.isAttached = call.desired) := by
  have reported := truthful.1
  rcases switch : call.isSwitch earlier with _ | _
  · rw [switch, if_neg Bool.false_ne_true, Option.map_eq_none_iff] at reported
    exact .inl ⟨reported, rfl⟩
  · rw [switch, if_pos rfl, Option.map_eq_some_iff] at reported
    obtain ⟨change, reports, goes⟩ := reported
    exact .inr ⟨change, reports, rfl, goes⟩

/-- What is reported at a place is what was switched to there. -/
theorem map_changesAt [DecidableEq ι] (truthful : Truthful calls) (place : ι) :
    (changesAt place calls).map Change.isAttached = switchesAt place calls := by
  induction calls with
  | nil => rfl
  | cons call earlier ih =>
    have ih := ih truthful.2
    rcases truthful.cases with ⟨silent, same⟩ | ⟨change, reports, switch, goes⟩
    · rw [changesAt_of_silent silent, switchesAt_of_not_isSwitch same, ih]
    · by_cases here : call.place = place
      · rw [changesAt_of_reports here reports, switchesAt_of_isSwitch here switch, List.map_cons, goes, ih]
      · rw [changesAt_of_ne here, switchesAt_of_ne here, ih]

/-- The number of changes tells what was last asked for. -/
theorem lastAsked_eq (truthful : Truthful calls) : lastAsked calls = decide ((changes calls).length % 2 = 1) := by
  induction calls with
  | nil => rfl
  | cons call earlier ih =>
    have ih := ih truthful.2
    rcases truthful.cases with ⟨silent, same⟩ | ⟨change, reports, switch, -⟩
    · rw [changes_of_silent silent, lastAsked_of_not_isSwitch same, ih]
    · -- one change more, and the other value was asked for
      obtain ⟨now, before⟩ := lastAsked_of_isSwitch switch
      rw [now, changes_of_reports reports, List.length_cons]
      rw [ih] at before
      grind

/-- All changes together take turns, from the first one on. -/
theorem isAttached_eq (truthful : Truthful calls) {turn : Nat} {change : Change}
    (found : (changes calls).reverse[turn]? = some change) : change.isAttached = decide (turn % 2 = 0) := by
  induction calls with
  | nil => cases found
  | cons call earlier ih =>
    have ih := ih truthful.2
    rcases truthful.cases with ⟨silent, -⟩ | ⟨latest, reports, switch, goes⟩
    · rw [changes_of_silent silent] at found
      exact ih found
    · rw [changes_of_reports reports, List.reverse_cons, List.getElem?_append, List.length_reverse] at found
      split at found
      next => exact ih found
      next recent =>
        -- the latest change is to the other value than what was last asked for
        have before := (lastAsked_of_isSwitch switch).2
        rw [lastAsked_eq truthful.2] at before
        obtain ⟨bound, rfl⟩ := List.getElem?_eq_some_iff.mp found
        rw [List.length_singleton] at bound
        have last : turn = (changes earlier).length := by omega
        rw [List.getElem_singleton, goes, last]
        grind

end Truthful

/-! ## Fleets -/

namespace Fleet

variable [DecidableEq ι] [Journal σ] {manager : Manager σ} {start fleet : Fleet ι σ} {calls : List (Call ι)}
  {history : List (Operation ι σ)}

/-- A call of a manager whose books are right goes on truthfully. -/
theorem truthful_call (fits : fleet.memory.Fits manager.handle) (state : fleet.memory.isEnabled = lastAsked calls)
    (truthful : Truthful calls) (place : ι) (ask : Ask) :
    Truthful ((fleet.call manager place ask).1 :: calls) := by
  obtain ⟨result, chain', memory', s', called, turn⟩ := call_turn fits place ask
  rw [called]
  refine ⟨?_, truthful⟩
  rw [Call.isSwitch, ← state]
  generalize ask.desired manager fleet.state = desired at turn ⊢
  cases turn with
  | stay same =>
    subst same
    simp [Call.change?]
  | refuse => rfl
  | attach entry on off =>
    subst on
    rw [off]
    rfl
  | detach off on =>
    subst off
    rw [on]
    rfl

/-- The calls of every history are truthful. -/
theorem truthful_calls (new : start.memory = {}) (absent : ∀ place, (start.chains place).countSame manager.handle = 0) :
    ∀ history : List (Operation ι σ), start.Spared manager history → Truthful (start.calls manager history)
  | [], _ => trivial
  | .call place ask :: earlier, spared =>
    have tallies := tallies_after new (absent place) earlier spared
    truthful_call tallies.fits tallies.isEnabled_eq (truthful_calls new absent earlier spared) place ask
  | .edit _ _ :: earlier, spared => truthful_calls new absent earlier spared.2
  | .other _ :: earlier, spared => truthful_calls new absent earlier spared

/-- **The ledger balances.** Let a new manager be called in any way on any chains that start without its inspector,
while other code edits the chains but spares the inspector. Of all changes that were reported, wherever they were made,
the first attaches, the second detaches, and so on in turns. Each chain holds as many copies of the inspector as it was
attached there since it was last detached there. A call that detaches reports how many copies its chain held, and leaves
none. No call changes another chain, or in its own chain anything but the inspector. -/
theorem ledger_balances (new : start.memory = {})
    (absent : ∀ place, (start.chains place).countSame manager.handle = 0) (spared : start.Spared manager history) :
    let fleet := start.after manager history
    let calls := start.calls manager history
    (∀ turn change, (changes calls).reverse[turn]? = some change →
      if turn % 2 = 0 then change = .attached else ∃ copies, change = .detached copies) ∧
    (∀ place, (fleet.chains place).countSame manager.handle = attachedSinceDetached (changesAt place calls)) ∧
    ∀ place ask, let (call, next) := fleet.call manager place ask
      (∀ copies, call.result = .ok (.detached copies) →
        copies = (fleet.chains place).countSame manager.handle ∧ (next.chains place).countSame manager.handle = 0) ∧
      (∀ other, other ≠ place → next.chains other = fleet.chains other) ∧
      (next.chains place).removeSame manager.handle = (fleet.chains place).removeSame manager.handle := by
  intro fleet calls
  have truthful : Truthful calls := truthful_calls new absent history spared
  refine ⟨fun turn change found => ?_, fun place => ?_, fun place ask => ?_⟩
  · have goes := truthful.isAttached_eq found
    split
    next first =>
      rw [Change.isAttached_eq_decide, decide_eq_decide] at goes
      exact goes.mpr first
    next second =>
      have reported : change ∈ changes calls := List.mem_reverse.mp (List.mem_of_getElem? found)
      exact Change.exists_eq_detached (ne_unchanged_of_mem_changes reported) (goes.trans (decide_eq_false second))
  · have tallies := tallies_after new (absent place) history spared
    rw [tallies.countSame_eq, attachedSinceDetached_eq, truthful.map_changesAt]
  · obtain ⟨result, chain', memory', s', called, turn⟩ := call_turn (fits_after new history) place ask
    rw [called]
    refine ⟨?_, fun other elsewhere => Function.update_of_ne elsewhere _ _, ?_⟩
    · rintro copies rfl
      dsimp only
      rw [Function.update_self]
      cases turn with
      | detach => exact ⟨rfl, Chain.countSame_removeSame _ _⟩
    · dsimp only
      rw [Function.update_self]
      exact turn.removeSame_eq

end Fleet

namespace Desk

/-- The inspector cannot be made at first. Then it is attached to one chain, wanted in the other and not attached there,
since it is on already; switched off at the other, and attached to the one again. The latest operation stands first. -/
def astray : List (Operation Bool Desk) :=
  [.call true (.value true), .call false (.value false), .call false (.value true), .call true .preference,
    .edit true (.add { ({} : RequestLogger).toInterceptor with handle := ⟨"logger"⟩ }), .call true .preference]

theorem ledger_when_astray :
    let after := (fleet Bool { refusals := 1 }).after manager astray
    let calls := (fleet Bool { refusals := 1 }).calls manager astray
    (changes calls).reverse = [.attached, .detached 0, .attached] ∧
      changesAt true calls = [.attached, .attached] ∧
      (after.chains true).countSame manager.handle = 2 ∧ (after.chains false).countSame manager.handle = 0 ∧
      (after.call manager true (.value false)).1.result.toOption = some (.detached 2) ∧
      ((after.call manager true (.value false)).2.chains true).countSame manager.handle = 0 := by
  have spared : (fleet Bool { refusals := 1 }).Spared manager astray :=
    ⟨(by decide : (⟨"logger"⟩ : Handle) ≠ ⟨"inspector"⟩), trivial⟩
  have balances := Fleet.ledger_balances rfl (fun _ => rfl) spared
  have here := balances.2.1 true
  have there := balances.2.1 false
  have next := balances.2.2 true (.value false)
  exact ⟨by decide, by decide, here.trans (by decide), there.trans (by decide), by decide, (next.1 2 (by rfl)).2⟩

end Desk

end Transparency
