import Mathlib.Data.List.Chain
import Transparency.Proofs.Manager.Fleet

/-!
# One manager, many chains

A manager that is shared by several chains remembers for all of them together whether it is enabled, while each of its
calls changes one chain only. So a call may succeed and leave its chain out of line, and a chain may hold the inspector
twice. Both happen exactly where the calls since the last switch of that chain say so:

* `Fleet.contains_iff_heeded`: a call that succeeds leaves its chain in line exactly if it switches, or if what its
  chain was last switched to is what the call asks for. The same goes for the clients of builders that share a manager.
* `Fleet.single_iff_neverOnTwice`: no chain ever holds two copies exactly if no chain is switched on twice without
  being switched off in between.
-/

namespace Transparency

variable {ι σ : Type} [DecidableEq ι]

/-- Whether a call at a place that asks for a value finds it in line, or brings it in line, after these calls: it
switches, or the place was last switched to that value. -/
def IsHeeded (calls : List (Call ι)) (place : ι) (desired : Bool) : Prop :=
  desired ≠ lastAsked calls ∨ lastSwitch (switchesAt place calls) = desired

instance (calls : List (Call ι)) (place : ι) (desired : Bool) : Decidable (IsHeeded calls place desired) :=
  inferInstanceAs (Decidable (_ ∨ _))

/-- It was never switched on twice without being switched off in between. -/
def NeverOnTwice (switches : List Bool) : Prop :=
  switches.IsChain fun later earlier => later = true → earlier = false

instance (switches : List Bool) : Decidable (NeverOnTwice switches) :=
  inferInstanceAs (Decidable (List.IsChain _ _))

theorem neverOnTwice_nil : NeverOnTwice [] := List.isChain_nil

/-- With each switch it is enough to look at how often it was switched on by then. -/
theorem neverOnTwice_cons_iff (value : Bool) (earlier : List Bool) :
    NeverOnTwice (value :: earlier) ↔ onsSinceOff (value :: earlier) ≤ 1 ∧ NeverOnTwice earlier := by
  rw [NeverOnTwice, List.isChain_cons, onsSinceOff_cons]
  refine and_congr_left fun _ => ?_
  -- the first switch matters to the second only, and what they are decides
  rcases value <;> rcases earlier with _ | ⟨_ | _, earlier⟩ <;> simp [onsSinceOff]

theorem onsSinceOff_le_one {switches : List Bool} (h : NeverOnTwice switches) : onsSinceOff switches ≤ 1 := by
  rcases switches with _ | ⟨value, earlier⟩
  · exact Nat.zero_le 1
  · exact ((neverOnTwice_cons_iff value earlier).mp h).1

theorem neverOnTwice_switchesAt_iff (place : ι) (call : Call ι) (calls : List (Call ι)) :
    NeverOnTwice (switchesAt place (call :: calls)) ↔
      onsSinceOff (switchesAt place (call :: calls)) ≤ 1 ∧ NeverOnTwice (switchesAt place calls) := by
  rw [switchesAt]
  split
  · exact neverOnTwice_cons_iff call.desired (switchesAt place calls)
  · exact (and_iff_right_of_imp onsSinceOff_le_one).symm

/-- What a call that succeeded leaves as the last switch of its place is what it asked for, exactly if it is heeded. -/
theorem lastSwitch_eq_iff_isHeeded {call : Call ι} {calls : List (Call ι)} (ok : call.result.isOk = true) :
    lastSwitch (switchesAt call.place (call :: calls)) = call.desired ↔ IsHeeded calls call.place call.desired := by
  rcases switch : call.isSwitch calls with _ | _
  · have same : call.desired = lastAsked calls := by
      simpa [Call.isSwitch, ok] using switch
    rw [switchesAt_of_not_isSwitch switch, IsHeeded]
    exact ⟨Or.inr, fun h => h.resolve_left fun differs => differs same⟩
  · rw [switchesAt_of_isSwitch rfl switch, IsHeeded]
    refine ⟨fun _ => Or.inl ?_, fun _ => rfl⟩
    rw [(lastAsked_of_isSwitch switch).2]
    cases call.desired <;> decide

namespace Fleet

variable [Journal σ] {manager : Manager σ} {start fleet : Fleet ι σ} {place : ι} {calls : List (Call ι)}
  {history : List (Operation ι σ)}

omit [Journal σ] in
/-- A chain holds the inspector exactly if it was last switched on. -/
theorem Tallies.containsSame_eq (tallies : Tallies manager place fleet calls) :
    (fleet.chains place).containsSame manager.handle = lastSwitch (switchesAt place calls) := by
  rw [Bool.eq_iff_iff, Chain.containsSame_eq_true_iff, tallies.countSame_eq, onsSinceOff_pos_iff]

/-- A builder whose only pass is the manager builds its clients from the chain after a call that follows the
preference. -/
theorem chain_of_build (fleet : Fleet ι σ) (config : ClientConfig) {client : Client σ}
    (built : (({ config, chain := fleet.chains place, passes := [manager.toPass Cell.second Cell.first] } :
      Builder σ (σ × ManagerState σ)).build (fleet.state, fleet.memory)).1 = .ok client) :
    (fleet.call manager place .preference).1.result.isOk = true ∧
      client.chain = (fleet.call manager place .preference).2.chains place := by
  rcases called : manager.reconcileWithPreferences (fleet.chains place) fleet.memory fleet.state
    with ⟨error | change, chain', memory', s'⟩
  · simp [Builder.build, Builder.runPasses, Manager.toPass, Cell.first, Cell.second, called, Except.map] at built
  · simp only [Builder.build, Builder.runPasses, Manager.toPass, Cell.first, Cell.second, called, Except.map,
      Client.make] at built
    split at built
    · cases built
    · obtain rfl := Except.ok.inj built
      simp only [call, Manager.answer, called, Function.update_self]
      exact ⟨rfl, trivial⟩

/-- **When a shared manager brings a chain in line.** Let a new manager be called on any chains in any order, none of
which had its inspector at first. A call that succeeds leaves the inspector in its chain exactly if it asked for it,
precisely when the call is heeded: it asks for something else than the last call that succeeded on any chain, or for
what its own chain was last switched to. A client of a builder whose pass is the manager carries the inspector exactly
if the preference asks for it, under the same condition. -/
theorem contains_iff_heeded (new : start.memory = {})
    (absent : ∀ place, (start.chains place).countSame manager.handle = 0) (spared : start.Spared manager history) :
    let fleet := start.after manager history
    let calls := start.calls manager history
    (∀ place ask, let (call, next) := fleet.call manager place ask
      ∀ change, call.result = .ok change →
        ((next.chains place).containsSame manager.handle = ask.desired manager fleet.state ↔
          IsHeeded calls place (ask.desired manager fleet.state))) ∧
    ∀ place config client,
      (({ config, chain := fleet.chains place, passes := [manager.toPass Cell.second Cell.first] } :
        Builder σ (σ × ManagerState σ)).build (fleet.state, fleet.memory)).1 = .ok client →
        (client.chain.containsSame manager.handle = Ask.preference.desired manager fleet.state ↔
          IsHeeded calls place (Ask.preference.desired manager fleet.state)) := by
  intro fleet calls
  have tallies := fun place => (tallies_after new (absent place) history spared : Tallies manager place fleet calls)
  -- the books after the call say what the chain was last switched to
  have heeded : ∀ place ask, (fleet.call manager place ask).1.result.isOk = true →
      (((fleet.call manager place ask).2.chains place).containsSame manager.handle =
          ask.desired manager fleet.state ↔ IsHeeded calls place (ask.desired manager fleet.state)) := by
    intro place ask ok
    rw [((tallies place).call place ask).containsSame_eq]
    exact lastSwitch_eq_iff_isHeeded ok
  refine ⟨fun place ask => ?_, fun place config client built => ?_⟩
  · have here := heeded place ask
    rcases called : fleet.call manager place ask with ⟨call, next⟩
    rw [called] at here
    intro change succeeded
    refine here ?_
    rw [succeeded]
    rfl
  · obtain ⟨ok, chain_eq⟩ := chain_of_build fleet config built
    rw [chain_eq]
    exact heeded place .preference ok

/-- The manager is switched on for a first chain. -/
def onAtFirst : List (Operation Bool Desk) := [.call false (.value true)]

/-- Once the manager was switched on for a first chain, a call for a second one succeeds and leaves it without the
inspector, and so does a build of a second client, although the preference asks for it. -/
theorem second_chain_left_out :
    let fleet := (Desk.fleet Bool {}).after Desk.manager onAtFirst
    ((fleet.call Desk.manager true (.value true)).1.result = .ok .unchanged ∧
      ((fleet.call Desk.manager true (.value true)).2.chains true).containsSame Desk.manager.handle = false) ∧
    ∃ client, (({ chain := fleet.chains true, passes := [Desk.manager.toPass Cell.second Cell.first] } :
      Builder Desk (Desk × ManagerState Desk)).build (fleet.state, fleet.memory)).1 = .ok client ∧
        client.chain.containsSame Desk.manager.handle = false := by
  have spared : (Desk.fleet Bool {}).Spared Desk.manager onAtFirst := trivial
  have exactly := contains_iff_heeded rfl (fun _ => rfl) spared
  have unheeded : ¬ IsHeeded ((Desk.fleet Bool {}).calls Desk.manager onAtFirst) true true := by decide
  refine ⟨⟨rfl, ?_⟩, _, rfl, ?_⟩
  · exact Bool.eq_false_iff.mpr fun held => unheeded ((exactly.1 true (.value true) .unchanged rfl).mp held)
  · exact Bool.eq_false_iff.mpr fun held => unheeded ((exactly.2 true {} _ rfl).mp held)

/-- **When no chain holds the inspector twice.** Let a new manager be called on any chains in any order, none of which
had its inspector at first. At every point of the history every chain holds at most one copy of the inspector, exactly
if no chain is switched on twice without being switched off in between. -/
theorem single_iff_neverOnTwice (new : start.memory = {})
    (absent : ∀ place, (start.chains place).countSame manager.handle = 0) (spared : start.Spared manager history) :
    (∀ earlier, earlier <:+ history →
      ∀ place, ((start.after manager earlier).chains place).countSame manager.handle ≤ 1) ↔
      ∀ place, NeverOnTwice (switchesAt place (start.calls manager history)) := by
  induction history with
  | nil =>
    refine ⟨fun _ _ => neverOnTwice_nil, fun _ earlier suffix place => ?_⟩
    obtain rfl := List.suffix_nil.mp suffix
    exact (absent place).trans_le (Nat.zero_le 1)
  | cons operation earlier ih =>
    -- the point after the latest operation, and the points before it
    have points : (∀ point, point <:+ operation :: earlier →
        ∀ place, ((start.after manager point).chains place).countSame manager.handle ≤ 1) ↔
        (∀ place, onsSinceOff (switchesAt place (start.calls manager (operation :: earlier))) ≤ 1) ∧
          ∀ place, NeverOnTwice (switchesAt place (start.calls manager earlier)) := by
      rw [← ih spared.tail]
      simp only [List.suffix_cons_iff, or_imp, forall_and, forall_eq]
      refine and_congr_left fun _ => forall_congr' fun place => ?_
      rw [(tallies_after new (absent place) _ spared).countSame_eq]
    rw [points, ← forall_and]
    refine forall_congr' fun place => ?_
    cases operation with
    | call site ask => exact (neverOnTwice_switchesAt_iff place _ _).symm
    | edit => exact and_iff_right_of_imp onsSinceOff_le_one
    | other => exact and_iff_right_of_imp onsSinceOff_le_one

/-- The manager is switched on for one chain, off for another, and on for the first again. -/
def offElsewhere : List (Operation Bool Desk) :=
  [.call false (.value true), .call true (.value false), .call false (.value true)]

/-- Switching off elsewhere lets the inspector into a chain twice. -/
theorem not_single_when_offElsewhere :
    ¬ ∀ earlier, earlier <:+ offElsewhere → ∀ place,
      (((Desk.fleet Bool {}).after Desk.manager earlier).chains place).countSame Desk.manager.handle ≤ 1 := by
  have spared : (Desk.fleet Bool {}).Spared Desk.manager offElsewhere := trivial
  rw [single_iff_neverOnTwice rfl (fun _ => rfl) spared]
  decide

end Fleet

end Transparency
