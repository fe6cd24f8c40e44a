import Transparency.Proofs.Client.Watching
import Transparency.Proofs.Debouncer.Streak
import Transparency.Proofs.Manager.Fleet

/-!
# Making the inspector

A manager makes its inspector when it is first needed. Two things can go wrong then: there is no verifier, or there is
one and the policy has a malformed pattern. These are the two cases of `Manager.Obstacle`, and a call that fails fails
for one of them.

How often the verifier was asked for is shown by a *meter*: something that can be read off the state, that each asking
raises by one and that nothing else a manager does changes. Every manager can be given one beside its state
(`Manager.metered`).

* `Fleet.view_call` says what a call does to anything that can be read off the state. It is all that is said here
  about the state after a call.
* `Manager.Turn.askings_add_made` keeps the account of a single call: it asked for a verifier exactly if it failed or
  made the inspector. `Fleet.count_after` adds up the accounts of a history.
* `Fleet.made_once` is the result about all histories.
-/

namespace Transparency

variable {ι σ α β : Type}

/-! ## Inspectors that cannot be made -/

theorem Inspector.make_eq_error_iff {verifier : Verifier σ} {policy : HostPolicy}
    {report : String → Outcome → σ → σ} {error : Error} :
    Inspector.make verifier policy report = .error error ↔
      ∃ pattern fault, policy.firstFault? = some (pattern, fault) ∧ error = .config (.pattern pattern fault) := by
  rw [Inspector.make]
  split
  next valid => simp [valid]
  next pattern fault malformed =>
    simp only [malformed, Option.some.injEq, Prod.mk.injEq, Except.error.injEq]
    constructor
    · rintro rfl
      exact ⟨pattern, fault, ⟨rfl, rfl⟩, rfl⟩
    · rintro ⟨_, _, ⟨rfl, rfl⟩, rfl⟩
      rfl

namespace Manager

/-- Why an inspector cannot be made in a state. -/
inductive Obstacle (manager : Manager σ) (s : σ) : Error → Prop where
  /-- there is no verifier -/
  | noVerifier (error : Error) : (manager.makeVerifier s).1 = .error error → Obstacle manager s error
  /-- there is a verifier, and the policy has a malformed pattern, of which this is the first -/
  | malformed (verifier : Verifier σ) (pattern : String) (fault : PatternFault) :
      (manager.makeVerifier s).1 = .ok verifier → manager.policy.firstFault? = some (pattern, fault) →
      Obstacle manager s (.config (.pattern pattern fault))

variable [Journal σ] {manager : Manager σ} {memory memory' : ManagerState σ} {desired : Bool}
  {chain chain' : Chain σ} {result : Except Error Change} {s s' : σ} {entry : Entry σ} {error : Error}
  {view : σ → α}

theorem obstacle_of_construct (failed : manager.construct s = (.error error, s')) : manager.Obstacle s error := by
  rw [construct] at failed
  split at failed
  next refusal _ asked =>
    obtain ⟨rfl, -⟩ := Prod.mk.inj failed |>.imp_left Except.error.inj
    exact .noVerifier refusal (congrArg Prod.fst asked)
  next verifier _ asked =>
    split at failed
    next refusal unmade =>
      obtain ⟨rfl, -⟩ := Prod.mk.inj failed |>.imp_left Except.error.inj
      obtain ⟨pattern, fault, malformed, rfl⟩ := Inspector.make_eq_error_iff.mp unmade
      exact .malformed verifier pattern fault (congrArg Prod.fst asked) malformed
    next => cases failed

theorem obstacle_of_reconcile (fits : memory.Fits manager.handle)
    (failed : (manager.reconcile desired chain memory s).1 = .error error) : manager.Obstacle s error := by
  obtain ⟨result, chain', memory', s', called, turn⟩ := turn_reconcile fits desired chain s
  rw [called] at failed
  obtain rfl : result = .error error := failed
  cases turn with
  | refuse _ wanted off unmade =>
    subst wanted
    rcases made : manager.construct s with ⟨refusal | entry, t⟩
    · rw [reconcile_refuse off ((obtain_of_none unmade).trans made)] at called
      obtain rfl := Except.error.inj (congrArg Prod.fst called)
      exact obstacle_of_construct made
    · rw [reconcile_attach off ((obtain_of_none unmade).trans made)] at called
      cases called

/-- A policy with a malformed pattern keeps the inspector from being made. -/
theorem construct_of_malformed (malformed : manager.policy.firstFault?.isSome = true) (s : σ) :
    ∃ error s', manager.construct s = (.error error, s') := by
  obtain ⟨⟨pattern, fault⟩, first⟩ := Option.isSome_iff_exists.mp malformed
  rcases asked : manager.makeVerifier s with ⟨error | verifier, t⟩
  · exact ⟨error, t, by simp only [construct, asked]⟩
  · have unmade : Inspector.make verifier manager.policy manager.debouncer.report =
        .error (.config (.pattern pattern fault)) := Inspector.make_eq_error_iff.mpr ⟨pattern, fault, first, rfl⟩
    exact ⟨.config (.pattern pattern fault), t, by simp only [construct, asked, unmade]⟩

/-! ## What can be read off the state -/

/-- Something that can be read off the state, and that a manager does not change by writing notes or by reading the
preference. -/
structure Steady (manager : Manager σ) (view : σ → α) : Prop where
  note : ∀ note s, note.isLine = false → view (Journal.record note s) = view s
  readPreference : ∀ s, view (manager.readPreference s).2 = view s

/-- Something that asking for a verifier does not change either. -/
structure Untouched (manager : Manager σ) (view : σ → α) : Prop extends manager.Steady view where
  makeVerifier : ∀ s, view (manager.makeVerifier s).2 = view s

namespace Steady

theorem view_announce (steady : manager.Steady view) (change : Change) (chain : Chain σ) (s : σ) :
    view (announce change chain s) = view s := by
  rw [announce]
  split
  · rfl
  · exact steady.note _ s rfl

theorem view_desired (steady : manager.Steady view) (s : σ) : view (manager.desired s).2 = view s := by
  have read := steady.readPreference s
  rw [Manager.desired]
  split
  next asked =>
    rw [asked] at read
    exact read
  next asked =>
    rw [asked] at read
    exact (steady.note _ _ rfl).trans read

/-- Making an inspector asks for a verifier. -/
theorem view_construct (steady : manager.Steady view) (s : σ) :
    view (manager.construct s).2 = view (manager.makeVerifier s).2 := by
  rw [construct]
  split
  next asked => rw [asked]
  next asked =>
    rw [asked]
    split
    · rfl
    · exact steady.note _ _ rfl

theorem view_obtain (steady : manager.Steady view) (memory : ManagerState σ) (s : σ) :
    view (manager.obtain memory s).2 =
      if memory.inspector = none then view (manager.makeVerifier s).2 else view s := by
  rcases kept : memory.inspector with _ | entry
  · rw [obtain_of_none kept, if_pos rfl, steady.view_construct]
  · rw [obtain_of_kept kept, if_neg (Option.some_ne_none entry)]

/-- A call asks for a verifier exactly if the inspector is wanted and none is kept. -/
theorem view_reconcile (steady : manager.Steady view) (fits : memory.Fits manager.handle) (desired : Bool)
    (chain : Chain σ) (s : σ) :
    view (manager.reconcile desired chain memory s).2.2.2 =
      if desired = true ∧ memory.inspector = none then view (manager.makeVerifier s).2 else view s := by
  rcases state : memory.isEnabled <;> cases desired
  · rw [reconcile_stay state.symm, if_neg fun both => Bool.false_ne_true both.1]
  · have obtained := steady.view_obtain memory s
    simp only [true_and]
    rcases got : manager.obtain memory s with ⟨error | entry, s'⟩
    · rw [got] at obtained
      rw [reconcile_refuse state got]
      exact obtained
    · rw [got] at obtained
      rw [reconcile_attach state got]
      exact (steady.view_announce .attached (chain.addShared entry) s').trans obtained
  · obtain ⟨entry, kept⟩ := Option.isSome_iff_exists.mp (fits.isSome_of_isEnabled state)
    rw [reconcile_detach state kept, if_neg fun both => Bool.false_ne_true both.1]
    exact steady.view_announce (.detached (chain.countSame entry.handle)) (chain.removeSame entry.handle) s
  · -- what is enabled has been kept
    obtain ⟨entry, kept⟩ := Option.isSome_iff_exists.mp (fits.isSome_of_isEnabled state)
    rw [reconcile_stay state.symm, kept, if_neg fun both => Option.some_ne_none entry both.2]

end Steady

/-! ## Turns and the inspector -/

omit [Journal σ] in
/-- An inspector that is kept stays. -/
theorem Turn.inspector_eq (turn : manager.Turn desired chain memory result chain' memory')
    (kept : memory.inspector = some entry) : memory'.inspector = some entry := by
  cases turn with
  | stay => exact kept
  | refuse => exact kept
  | attach other _ _ _ same => rw [same entry kept]
  | detach => exact kept

omit [Journal σ] in
/-- Once an inspector is kept, no turn fails. -/
theorem Turn.isOk_of_kept (turn : manager.Turn desired chain memory result chain' memory')
    (kept : memory.inspector = some entry) : result.isOk = true := by
  cases turn with
  | refuse _ _ _ unmade =>
    rw [kept] at unmade
    cases unmade
  | stay => rfl
  | attach => rfl
  | detach => rfl

omit [Journal σ] in
/-- The account of a turn: a verifier was asked for exactly if the turn failed or made the inspector. -/
theorem Turn.askings_add_made (turn : manager.Turn desired chain memory result chain' memory')
    (fits : memory.Fits manager.handle) :
    ((if desired = true ∧ memory.inspector = none then 1 else 0) + if memory.inspector.isSome then 1 else 0) =
      (if result.isOk then 0 else 1) + if memory'.inspector.isSome then 1 else 0 := by
  cases turn with
  | stay same =>
    -- a manager that stays enabled has its inspector
    have needless : ¬ (desired = true ∧ memory.inspector = none) := by
      rintro ⟨rfl, unmade⟩
      have made := fits.isSome_of_isEnabled same.symm
      rw [unmade] at made
      cases made
    rw [if_neg needless]
    rfl
  | refuse _ wanted _ unmade => rw [wanted, unmade]; rfl
  | attach entry wanted _ _ _ => rcases kept : memory.inspector with _ | other <;> rw [wanted] <;> rfl
  | detach unwanted => rw [if_neg fun both => Bool.false_ne_true (unwanted.symm.trans both.1)]; rfl

/-! ## Meters -/

/-- Shows how often a verifier was asked for. -/
structure Meter (manager : Manager σ) where
  /-- the number that is shown -/
  count : σ → Nat
  steady : manager.Steady count
  count_makeVerifier : ∀ s, count (manager.makeVerifier s).2 = count s + 1

end Manager

/-- The debouncer on a state with something beside it. -/
def Debouncer.beside (debouncer : Debouncer σ) : Debouncer (σ × β) where
  streak := {
    get := fun s => debouncer.streak.get s.1
    set := fun failing s => (debouncer.streak.set failing s.1, s.2)
    get_set := fun failing s => debouncer.streak.get_set failing s.1
    set_get := fun s => by rw [debouncer.streak.set_get] }
  sink category line s := (debouncer.sink category line s.1, s.2)

namespace Manager

/-- The manager with a number beside its state, which each asking for a verifier raises. -/
def metered (manager : Manager σ) : Manager (σ × Nat) where
  handle := manager.handle
  readPreference s :=
    let (result, inner) := manager.readPreference s.1
    (result, inner, s.2)
  makeVerifier s :=
    let (result, inner) := manager.makeVerifier s.1
    (result.map Verifier.beside, inner, s.2 + 1)
  policy := manager.policy
  debouncer := manager.debouncer.beside

/-- Every manager has a meter, if it is given one. -/
def meter [Journal σ] (manager : Manager σ) : manager.metered.Meter where
  count := Prod.snd
  steady := ⟨fun _ _ _ => rfl, fun _ => rfl⟩
  count_makeVerifier _ := rfl

end Manager

/-! ## Histories -/

/-- The state in which a call brings its chain in line: the preference has been read, if it was asked for. -/
def Ask.settle [Journal σ] (manager : Manager σ) (s : σ) : Ask → σ
  | value _ => s
  | preference => (manager.desired s).2

/-- How many calls failed. -/
def failures (calls : List (Call ι)) : Nat := calls.countP fun call => !call.result.isOk

theorem failures_cons (call : Call ι) (calls : List (Call ι)) :
    failures (call :: calls) = failures calls + if call.result.isOk then 0 else 1 := by
  rw [failures, failures, List.countP_cons]
  cases call.result.isOk <;> rfl

namespace Manager

variable [Journal σ]

theorem answer_eq (manager : Manager σ) (ask : Ask) (chain : Chain σ) (memory : ManagerState σ) (s : σ) :
    manager.answer ask chain memory s =
      manager.reconcile (ask.desired manager s) chain memory (ask.settle manager s) := by
  cases ask with
  | value => rfl
  | preference =>
    rw [← desired_fst]
    rfl

theorem Steady.view_settle {manager : Manager σ} {view : σ → α} (steady : manager.Steady view) (s : σ) (ask : Ask) :
    view (ask.settle manager s) = view s := by
  cases ask with
  | value => rfl
  | preference => exact steady.view_desired s

end Manager

namespace Fleet

variable [DecidableEq ι] [Journal σ] {manager : Manager σ} {start fleet : Fleet ι σ} {place : ι} {ask : Ask}
  {history : List (Operation ι σ)} {entry : Entry σ} {view : σ → α}

/-- What a call does to anything that can be read off the state. -/
theorem view_call (steady : manager.Steady view) (fits : fleet.memory.Fits manager.handle) (place : ι) (ask : Ask) :
    view (fleet.call manager place ask).2.state =
      if ask.desired manager fleet.state = true ∧ fleet.memory.inspector = none then
        view (manager.makeVerifier (ask.settle manager fleet.state)).2
      else view fleet.state := by
  have reconciled := steady.view_reconcile fits (ask.desired manager fleet.state) (fleet.chains place)
    (ask.settle manager fleet.state)
  rw [← Manager.answer_eq, steady.view_settle] at reconciled
  exact reconciled

theorem view_call_of_untouched (untouched : manager.Untouched view) (fits : fleet.memory.Fits manager.handle)
    (place : ι) (ask : Ask) : view (fleet.call manager place ask).2.state = view fleet.state := by
  rw [view_call untouched.toSteady fits, untouched.makeVerifier, untouched.view_settle, ite_self]

theorem count_call (meter : manager.Meter) (fits : fleet.memory.Fits manager.handle) (place : ι) (ask : Ask) :
    meter.count (fleet.call manager place ask).2.state = meter.count fleet.state +
      if ask.desired manager fleet.state = true ∧ fleet.memory.inspector = none then 1 else 0 := by
  rw [view_call meter.steady fits, meter.count_makeVerifier, meter.steady.view_settle]
  split <;> rfl

theorem obstacle_of_call (fits : fleet.memory.Fits manager.handle) {error : Error}
    (failed : (fleet.call manager place ask).1.result = .error error) :
    manager.Obstacle (ask.settle manager fleet.state) error := by
  have failed : (manager.reconcile (ask.desired manager fleet.state) (fleet.chains place) fleet.memory
      (ask.settle manager fleet.state)).1 = .error error := by
    rw [← Manager.answer_eq]
    exact failed
  exact Manager.obstacle_of_reconcile fits failed

/-- The meter shows the failures, and one more if the inspector exists. -/
theorem count_after (new : start.memory = {}) (meter : manager.Meter) :
    ∀ history : List (Operation ι σ),
      (∀ change, .other change ∈ history → ∀ s, meter.count (change s) = meter.count s) →
      meter.count (start.after manager history).state =
        meter.count start.state + failures (start.calls manager history) +
          if (start.after manager history).memory.inspector.isSome then 1 else 0
  | [], _ => by
    rw [after, new]
    rfl
  | .call place ask :: earlier, apart => by
    have ih := count_after new meter earlier fun change mem => apart change (List.mem_cons_of_mem _ mem)
    have fits : (start.after manager earlier).memory.Fits manager.handle := fits_after new earlier
    have counted := count_call meter fits place ask
    obtain ⟨result, chain', memory', s', called, turn⟩ := call_turn fits place ask
    have account := turn.askings_add_made fits
    rw [called] at counted
    rw [after, step, calls, failures_cons, called]
    dsimp only at counted ⊢
    omega
  | .edit _ _ :: earlier, apart =>
    count_after new meter earlier fun change mem => apart change (List.mem_cons_of_mem _ mem)
  | .other change :: earlier, apart =>
    (apart change List.mem_cons_self _).trans <|
      count_after new meter earlier fun change mem => apart change (List.mem_cons_of_mem _ mem)

/-- A call that fails changes no chain and nothing that the manager remembers. -/
theorem unchanged_of_error (fits : fleet.memory.Fits manager.handle) {error : Error}
    (failed : (fleet.call manager place ask).1.result = .error error) :
    (fleet.call manager place ask).2.chains = fleet.chains ∧
      (fleet.call manager place ask).2.memory = fleet.memory := by
  obtain ⟨result, chain', memory', s', called, turn⟩ := call_turn fits place ask
  rw [called] at failed ⊢
  obtain rfl : result = .error error := failed
  cases turn with
  | refuse => exact ⟨Function.update_eq_self place fleet.chains, rfl⟩

/-- A call that attaches puts the inspector that is kept from then on at the end of its chain. One that was kept before
is that inspector. -/
theorem kept_of_attached (fits : fleet.memory.Fits manager.handle)
    (attached : (fleet.call manager place ask).1.result = .ok .attached) :
    ∃ entry, (fleet.call manager place ask).2.memory.inspector = some entry ∧
      (fleet.call manager place ask).2.chains =
        Function.update fleet.chains place ((fleet.chains place).addShared entry) ∧
      ∀ kept, fleet.memory.inspector = some kept → kept = entry := by
  obtain ⟨result, chain', memory', s', called, turn⟩ := call_turn fits place ask
  rw [called] at attached ⊢
  obtain rfl : result = .ok .attached := attached
  cases turn with
  | attach entry _ _ _ same => exact ⟨entry, rfl, rfl, same⟩

/-- While an inspector is kept, no call fails. -/
theorem isOk_call_of_kept (fits : fleet.memory.Fits manager.handle) (kept : fleet.memory.inspector = some entry)
    (place : ι) (ask : Ask) : (fleet.call manager place ask).1.result.isOk = true := by
  obtain ⟨result, chain', memory', s', called, turn⟩ := call_turn fits place ask
  rw [called]
  exact turn.isOk_of_kept kept

/-- With a malformed pattern in the policy a call changes no chain and the manager learns nothing, and the call fails if
the inspector is wanted. -/
theorem call_of_malformed (malformed : manager.policy.firstFault?.isSome = true) (empty : fleet.memory = {})
    (place : ι) (ask : Ask) :
    let (call, next) := fleet.call manager place ask
    call.result.isOk = !ask.desired manager fleet.state ∧ next.memory = {} ∧ next.chains = fleet.chains := by
  have off : fleet.memory.isEnabled = false := by rw [empty]
  have unmade : fleet.memory.inspector = none := by rw [empty]
  simp only [call, Manager.answer_eq]
  cases ask.desired manager fleet.state with
  | false =>
    rw [Manager.reconcile_stay off.symm]
    exact ⟨rfl, empty, Function.update_eq_self place fleet.chains⟩
  | true =>
    obtain ⟨error, s', failed⟩ := Manager.construct_of_malformed malformed (ask.settle manager fleet.state)
    rw [Manager.reconcile_refuse off ((Manager.obtain_of_none unmade).trans failed)]
    exact ⟨rfl, empty, Function.update_eq_self place fleet.chains⟩

theorem memory_after_of_malformed (malformed : manager.policy.firstFault?.isSome = true) (new : start.memory = {}) :
    ∀ history : List (Operation ι σ), (start.after manager history).memory = {}
  | [] => new
  | .call place ask :: earlier =>
    (call_of_malformed malformed (memory_after_of_malformed malformed new earlier) place ask).2.1
  | .edit _ _ :: earlier => memory_after_of_malformed malformed new earlier
  | .other _ :: earlier => memory_after_of_malformed malformed new earlier

/-- The inspector that is kept at some point of a history is kept at all later ones. -/
theorem inspector_after_append (new : start.memory = {})
    (kept : (start.after manager history).memory.inspector = some entry) :
    ∀ later : List (Operation ι σ), (start.after manager (later ++ history)).memory.inspector = some entry
  | [] => kept
  | .call place ask :: later => by
    have fits : (start.after manager (later ++ history)).memory.Fits manager.handle := fits_after new (later ++ history)
    obtain ⟨result, chain', memory', s', called, turn⟩ := call_turn fits place ask
    rw [List.cons_append, after, step, called]
    exact turn.inspector_eq (inspector_after_append new kept later)
  | .edit _ _ :: later => inspector_after_append new kept later
  | .other _ :: later => inspector_after_append new kept later

/-- **The inspector is made once, and a failure changes nothing.** Let a new manager be called on any chains in any
order, whatever comes of asking for a verifier, and let a meter show how often that was done. After every history it
shows the number of calls that failed, and one more if the inspector exists. A call asks once if it wants the inspector
in while none is kept, and otherwise not at all. If it fails, then because there was no verifier or because of the first
malformed pattern of the policy, and no chain, nothing that the manager remembers and no streak has changed; what it
attaches, it keeps. With a malformed pattern in the policy nothing is ever kept or attached. Once an inspector is kept
it stays so, no call fails or asks for a verifier any more, and every call that attaches attaches that inspector. -/
theorem made_once (new : start.memory = {}) (meter : manager.Meter)
    (apart : ∀ change, .other change ∈ history → ∀ s, meter.count (change s) = meter.count s)
    (untouched : manager.Untouched manager.isFailing) :
    let fleet := start.after manager history
    (meter.count fleet.state = meter.count start.state + failures (start.calls manager history) +
      if fleet.memory.inspector.isSome then 1 else 0) ∧
    (∀ place ask, let (call, next) := fleet.call manager place ask
      (meter.count next.state = meter.count fleet.state +
        if ask.desired manager fleet.state = true ∧ fleet.memory.inspector = none then 1 else 0) ∧
      (∀ error, call.result = .error error →
        manager.Obstacle (ask.settle manager fleet.state) error ∧ next.chains = fleet.chains ∧
          next.memory = fleet.memory ∧ manager.isFailing next.state = manager.isFailing fleet.state) ∧
      (call.result = .ok .attached → ∃ entry, next.memory.inspector = some entry ∧
        next.chains = Function.update fleet.chains place ((fleet.chains place).addShared entry)) ∧
      (manager.policy.firstFault?.isSome = true →
        fleet.memory = {} ∧ call.result.isOk = !ask.desired manager fleet.state ∧ next.memory = {} ∧
          next.chains = fleet.chains)) ∧
    ∀ entry, fleet.memory.inspector = some entry → ∀ later,
      let fleet := start.after manager (later ++ history)
      fleet.memory.inspector = some entry ∧ ∀ place ask, let (call, next) := fleet.call manager place ask
        call.result.isOk = true ∧ meter.count next.state = meter.count fleet.state ∧
          (call.result = .ok .attached →
            next.chains = Function.update fleet.chains place ((fleet.chains place).addShared entry)) := by
  intro fleet
  refine ⟨count_after new meter history apart, fun place ask => ?_, fun entry kept later => ?_⟩
  · have fits : fleet.memory.Fits manager.handle := fits_after new history
    refine ⟨count_call meter fits place ask, fun error failed => ?_, fun attached => ?_, fun malformed => ?_⟩
    · obtain ⟨same_chains, same_memory⟩ := unchanged_of_error fits failed
      exact ⟨obstacle_of_call fits failed, same_chains, same_memory, view_call_of_untouched untouched fits place ask⟩
    · obtain ⟨entry, kept, chains_eq, -⟩ := kept_of_attached fits attached
      exact ⟨entry, kept, chains_eq⟩
    · have empty : fleet.memory = {} := memory_after_of_malformed malformed new history
      exact ⟨empty, call_of_malformed malformed empty place ask⟩
  · intro fleet
    have fits : fleet.memory.Fits manager.handle := fits_after new (later ++ history)
    have kept : fleet.memory.inspector = some entry := inspector_after_append new kept later
    refine ⟨kept, fun place ask => ⟨isOk_call_of_kept fits kept place ask, ?_, fun attached => ?_⟩⟩
    · have counted := count_call meter fits place ask
      rw [if_neg fun both => Option.some_ne_none entry (kept.symm.trans both.2), Nat.add_zero] at counted
      exact counted
    · obtain ⟨other, -, chains_eq, same⟩ := kept_of_attached fits attached
      obtain rfl := same entry kept
      exact chains_eq

end Fleet

namespace Desk

/-- The verifier cannot be had twice; then the inspector is attached to a first chain, taken out of it, and attached to
a second. The latest operation stands first. -/
def refusedTwice : List (Operation Bool (Desk × Nat)) :=
  [.call true (.value true), .call false (.value false), .call false .preference, .call false (.value true),
    .call false (.value true)]

/-- A fleet whose manager has a meter. -/
def meteredFleet (desk : Desk) : Fleet Bool (Desk × Nat) := { chains := fun _ => [], state := (desk, 0) }

theorem asked_three_times :
    failures ((meteredFleet { refusals := 2 }).calls manager.metered refusedTwice) = 2 ∧
      ((meteredFleet { refusals := 2 }).after manager.metered refusedTwice).state.2 = 3 := by
  have untouched : manager.metered.Untouched manager.metered.isFailing := by
    refine ⟨⟨fun _ _ _ => rfl, fun _ => rfl⟩, fun s => ?_⟩
    simp only [Manager.metered, manager]
    split <;> rfl
  have apart : ∀ change, .other change ∈ refusedTwice →
      ∀ s, manager.meter.count (change s) = manager.meter.count s := by
    intro change mem
    simp [refusedTwice] at mem
  have failed : failures ((meteredFleet { refusals := 2 }).calls manager.metered refusedTwice) = 2 := by decide
  have new : (meteredFleet { refusals := 2 }).memory = {} := rfl
  have counted := (Fleet.made_once new manager.meter apart untouched).1
  rw [failed] at counted
  exact ⟨failed, counted⟩

end Desk

end Transparency
