import Transparency.Debouncer
import Transparency.Inspector

/-!
# Managers

A manager puts its inspector into chains and takes it out again, as a live preference asks. The inspector is made when
it is first needed and kept from then on; making it may fail, and then nothing has changed and the next call tries
again.

A manager is one for all chains: it remembers whether it is *enabled*, which it becomes by attaching its inspector to
the chain at hand, and stops being by detaching. A call that asks for the state it is in changes nothing, whatever
chain it is given.

* `Manager.reconcile` brings a chain in line with what is asked.
* `Manager.reconcileWithPreferences` asks the preference first. A preference that cannot be read counts as off.
-/

namespace Transparency

/-- What a call changed. -/
inductive Change where
  /-- the inspector was put at the end of the chain -/
  | attached
  /-- so many copies of the inspector were taken out of the chain -/
  | detached (copies : Nat)
  | unchanged
  deriving DecidableEq, Repr

/-- What a change is called in notes. -/
def Change.message : Change → String
  | .attached => "Attached"
  | .detached copies => s!"Detached({copies})"
  | .unchanged => "Unchanged"

/-- Attaches and detaches an inspector. -/
structure Manager (σ : Type) where
  /-- the handle of the inspector -/
  handle : Handle
  /-- reads the preference -/
  readPreference : σ → Except Error Bool × σ
  /-- makes the verifier of the inspector -/
  makeVerifier : σ → Except Error (Verifier σ) × σ
  policy : HostPolicy
  /-- takes the outcomes of the inspector in -/
  debouncer : Debouncer σ

/-- What a manager remembers. -/
structure ManagerState (σ : Type) where
  /-- the inspector, once it was made -/
  inspector : Option (Entry σ) := none
  isEnabled : Bool := false

namespace Manager

variable {σ : Type} [Journal σ]

/-- Makes the inspector. -/
def construct (manager : Manager σ) (s : σ) : Except Error (Entry σ) × σ :=
  match manager.makeVerifier s with
  | (.error error, s) => (.error error, s)
  | (.ok verifier, s) =>
    match Inspector.make verifier manager.policy manager.debouncer.report with
    | .error error => (.error error, s)
    | .ok inspector =>
      (.ok { inspector.toInterceptor with handle := manager.handle },
        note .debug "Constructed CT interceptor"
          [("fail_on_error", if manager.policy.failOnError then "true" else "false")] s)

/-- The inspector that is kept, or a new one. -/
def obtain (manager : Manager σ) (state : ManagerState σ) (s : σ) : Except Error (Entry σ) × σ :=
  match state.inspector with
  | some entry => (.ok entry, s)
  | none => manager.construct s

/-- What follows from a change: a note, unless nothing changed. -/
def announce (change : Change) (chain : Chain σ) (s : σ) : σ :=
  if change = .unchanged then s
  else note .info "CT interceptor reconciled"
    [("action", change.message), ("chain_len", toString chain.length)] s

/-- Brings a chain in line with what is asked. -/
def reconcile (manager : Manager σ) (desired : Bool) (chain : Chain σ) (state : ManagerState σ) (s : σ) :
    Except Error Change × Chain σ × ManagerState σ × σ :=
  match desired, state.isEnabled with
  | true, false =>
    match manager.obtain state s with
    | (.error error, s) => (.error error, chain, state, s)
    | (.ok entry, s) =>
      let chain := chain.addShared entry
      (.ok .attached, chain, ⟨some entry, true⟩, announce .attached chain s)
  | false, true =>
    let removed := match state.inspector with
      | some entry => chain.removeSame entry.handle
      | none => chain
    let change := Change.detached (chain.length - removed.length)
    (.ok change, removed, { state with isEnabled := false }, announce change removed s)
  | _, _ => (.ok .unchanged, chain, state, s)

/-- What the preference asks for. -/
def desired (manager : Manager σ) (s : σ) : Bool × σ :=
  match manager.readPreference s with
  | (.ok value, s) => (value, s)
  | (.error error, s) =>
    (false, note .warn "Could not read CT preference, treating as disabled" [("error", error.message)] s)

/-- Brings a chain in line with the preference. -/
def reconcileWithPreferences (manager : Manager σ) (chain : Chain σ) (state : ManagerState σ) (s : σ) :
    Except Error Change × Chain σ × ManagerState σ × σ :=
  let (desired, s) := manager.desired s
  manager.reconcile desired chain state s

/-- Whether the last outcome was a failure. -/
def isFailing (manager : Manager σ) (s : σ) : Bool := manager.debouncer.isFailing s

/-- Takes an outcome in that was found elsewhere. -/
def onVerificationResult (manager : Manager σ) (host : String) (outcome : Outcome) (s : σ) : σ :=
  manager.debouncer.report host outcome s

end Manager

end Transparency
