import Transparency.Client.Execution
import Transparency.Proofs.Manager.Construction

/-!
# Reports to a manager

The debouncer of a manager is told of outcomes in two ways: other code tells the manager, and the manager's inspectors
tell what they found for a response, in whatever chain and whatever client they stand. `Manager.Reporting` says how the
state changes meanwhile, and which reports reach the debouncer; anything that leaves flag and lines alone may go on in
between. Whatever is reported, the debouncer agrees with the reports (`Manager.Reporting.agrees`).

A *reporter* is an interceptor that has to do with the debouncer through reports only. The manager's inspectors are
reporters (`Manager.Makes.reporter`). In a chain of reporters an execution leads to nothing but reports
(`Manager.leads_execute`), and so does every single step of it (`Manager.leads_step`), so executions may take turns in
any order. The reason is that a step moves the state only as the code that it calls does (`Execution.moves_step`).
-/

namespace Transparency

variable {ι σ α : Type} [Journal σ]

/-! ## Code that has nothing to do with the debouncer -/

/-- Code that leaves alone what a debouncer and its ledger keep. It may write notes that are no lines. -/
structure Debouncer.Ledger.SparedBy {debouncer : Debouncer σ} (ledger : debouncer.Ledger) (code : σ → α × σ) :
    Prop where
  isFailing : ∀ s, debouncer.isFailing (code s).2 = debouncer.isFailing s
  lines : ∀ s, ledger.lines (code s).2 = ledger.lines s

namespace Manager

/-- States look alike where the preference is read and where verifiers are made, and a report does not change how a
state looks there. -/
structure Overlooks (manager : Manager σ) (alike : σ → σ → Prop) : Prop where
  report : ∀ host outcome s, alike (manager.onVerificationResult host outcome s) s
  readPreference : ∀ s t, alike s t →
    (manager.readPreference s).1 = (manager.readPreference t).1 ∧
      alike (manager.readPreference s).2 (manager.readPreference t).2
  makeVerifier : ∀ s t, alike s t → (manager.makeVerifier s).1 = (manager.makeVerifier t).1

/-- What a manager is made of has to do with the debouncer through reports only: the preference, the verifiers, and the
code that makes them. None of them changes what the debouncer keeps, and reports go unnoticed where the preference is
read and where verifiers are made. -/
structure Secluded (manager : Manager σ) (ledger : manager.debouncer.Ledger) : Prop where
  readPreference : ledger.SparedBy manager.readPreference
  makeVerifier : ledger.SparedBy manager.makeVerifier
  verify : ∀ s verifier, (manager.makeVerifier s).1 = .ok verifier →
    ∀ host certificate, ledger.SparedBy (verifier.verify host certificate)
  overlooks : ∃ alike, manager.Overlooks alike

variable {manager : Manager σ} {ledger : manager.debouncer.Ledger} {memory : ManagerState σ} {desired : Bool}
  {chain : Chain σ} {s t u : σ} {entry : Entry σ}

theorem Secluded.untouched_isFailing (secluded : manager.Secluded ledger) :
    manager.Untouched manager.isFailing where
  note := ledger.isFailing_note
  readPreference := secluded.readPreference.isFailing
  makeVerifier := secluded.makeVerifier.isFailing

theorem Secluded.untouched_lines (secluded : manager.Secluded ledger) : manager.Untouched ledger.lines where
  note := ledger.lines_note
  readPreference := secluded.readPreference.lines
  makeVerifier := secluded.makeVerifier.lines

/-! ## The inspectors of a manager -/

omit [Journal σ] in
/-- An inspector as a manager makes it. -/
structure Makes (manager : Manager σ) (inspector : Inspector σ) : Prop where
  verifier : ∃ s, (manager.makeVerifier s).1 = .ok inspector.verifier
  policy_eq : inspector.policy = manager.policy
  report_eq : inspector.report = manager.debouncer.report

/-- What is made is an inspector with the manager's handle. -/
theorem makes_of_construct (made : manager.construct s = (.ok entry, t)) :
    ∃ inspector, manager.Makes inspector ∧ entry = { inspector.toInterceptor with handle := manager.handle } := by
  rw [construct] at made
  split at made
  · cases made
  next verifier _ asked =>
    split at made
    · cases made
    next inspector valid =>
      obtain ⟨rfl, -⟩ := Prod.mk.inj made |>.imp_left Except.ok.inj
      refine ⟨inspector, ?_, rfl⟩
      rw [Inspector.make] at valid
      split at valid
      · obtain rfl := Except.ok.inj valid
        exact ⟨⟨s, congrArg Prod.fst asked⟩, rfl, rfl⟩
      · cases valid

/-- What is kept after a call was kept before it or has just been made. -/
theorem inspector_of_reconcile (fits : memory.Fits manager.handle)
    (kept : (manager.reconcile desired chain memory s).2.2.1.inspector = some entry) :
    memory.inspector = some entry ∨ ∃ s t, manager.construct s = (.ok entry, t) := by
  rcases state : memory.isEnabled <;> cases desired
  · rw [reconcile_stay state.symm] at kept
    exact .inl kept
  · rcases got : manager.obtain memory s with ⟨error | other, s'⟩
    · rw [reconcile_refuse state got] at kept
      exact .inl kept
    · rw [reconcile_attach state got] at kept
      obtain rfl := Option.some.inj kept
      rcases before : memory.inspector with _ | old
      · exact .inr ⟨s, s', (obtain_of_none before).symm.trans got⟩
      · obtain ⟨rfl, -⟩ := Prod.mk.inj ((obtain_of_kept before).symm.trans got) |>.imp_left Except.ok.inj
        exact .inl rfl
  · obtain ⟨old, before⟩ := Option.isSome_iff_exists.mp (fits.isSome_of_isEnabled state)
    rw [reconcile_detach state before] at kept
    exact .inl kept
  · rw [reconcile_stay state.symm] at kept
    exact .inl kept

/-! ## Reports -/

/-- The state changes from one to another, and meanwhile these reports reach the debouncer of a manager, the latest
first. -/
inductive Reporting (manager : Manager σ) (ledger : manager.debouncer.Ledger) : List Finding → σ → σ → Prop where
  /-- nothing is reported -/
  | quiet {s t : σ} : manager.isFailing t = manager.isFailing s → ledger.lines t = ledger.lines s →
      Reporting manager ledger [] s t
  /-- other code tells the manager of an outcome -/
  | callback (host : String) (outcome : Outcome) (s : σ) :
      Reporting manager ledger [⟨host, outcome⟩] s (manager.onVerificationResult host outcome s)
  /-- an inspector of the manager is given a response -/
  | inspection {inspector : Inspector σ} (request : Request) (response : Response) (s : σ) :
      manager.Makes inspector →
      Reporting manager ledger [⟨response.host, (inspector.evaluate response s).1⟩] s
        (inspector.toInterceptor.afterResponse request response s).2.2
  /-- one thing after the other -/
  | trans {reports later : List Finding} {s t u : σ} : Reporting manager ledger reports s t →
      Reporting manager ledger later t u → Reporting manager ledger (later ++ reports) s u

/-- The verifier of an inspector has nothing to do with the debouncer. -/
theorem Secluded.evaluate (secluded : manager.Secluded ledger) {inspector : Inspector σ}
    (made : manager.Makes inspector) (response : Response) (s : σ) :
    manager.isFailing (inspector.evaluate response s).2 = manager.isFailing s ∧
      ledger.lines (inspector.evaluate response s).2 = ledger.lines s := by
  obtain ⟨s₀, verifier⟩ := made.verifier
  rw [Inspector.evaluate]
  split
  · exact ⟨rfl, rfl⟩
  · rcases response.certificate with _ | certificate
    · exact ⟨rfl, rfl⟩
    · have spared := secluded.verify s₀ inspector.verifier verifier response.host certificate
      exact ⟨spared.isFailing s, spared.lines s⟩

/-- Whatever is reported, the debouncer and its ledger agree with the reports. -/
theorem Reporting.agrees {reports later : List Finding} (secluded : manager.Secluded ledger)
    (reporting : manager.Reporting ledger later s t) {start : σ} (agrees : ledger.Agrees start reports s) :
    ledger.Agrees start (later ++ reports) t := by
  induction reporting generalizing reports with
  | quiet isFailing_eq lines_eq => exact agrees.quiet isFailing_eq lines_eq
  | callback host outcome => exact agrees.report ⟨host, outcome⟩
  | @inspection inspector request response s made =>
    -- the verifier and the note come first, and change nothing; then the outcome is reported
    obtain ⟨isFailing_eq, lines_eq⟩ := secluded.evaluate made response s
    have noted := (agrees.quiet isFailing_eq lines_eq).quiet
      (ledger.isFailing_note ⟨.trace, "CT verification", [("host", response.host),
        ("outcome", (inspector.evaluate response s).1.message)]⟩ _ rfl)
      (ledger.lines_note _ _ rfl)
    have reported := noted.report ⟨response.host, (inspector.evaluate response s).1⟩
    rw [← made.report_eq] at reported
    exact reported
  | trans _ _ ih ih' =>
    rw [List.append_assoc]
    exact ih' (ih agrees)

/-! ## Reporters -/

/-- Between two states nothing reaches the debouncer but reports. -/
def Leads (manager : Manager σ) (ledger : manager.debouncer.Ledger) (s t : σ) : Prop :=
  ∃ reports, manager.Reporting ledger reports s t

theorem Leads.refl (s : σ) : manager.Leads ledger s s := ⟨[], .quiet rfl rfl⟩

theorem Leads.trans (first : manager.Leads ledger s t) (second : manager.Leads ledger t u) :
    manager.Leads ledger s u := by
  obtain ⟨reports, first⟩ := first
  obtain ⟨later, second⟩ := second
  exact ⟨later ++ reports, first.trans second⟩

theorem Leads.note {note : Note} (plain : note.isLine = false) (s : σ) :
    manager.Leads ledger s (Journal.record note s) :=
  ⟨[], .quiet (ledger.isFailing_note note s plain) (ledger.lines_note note s plain)⟩

/-- An interceptor that has to do with the debouncer of a manager through reports only. -/
structure Reporter (manager : Manager σ) (ledger : manager.debouncer.Ledger) (interceptor : Interceptor σ) : Prop where
  beforeRequest : ∀ request s, manager.Leads ledger s (interceptor.beforeRequest request s).2.2
  afterResponse : ∀ request response s, manager.Leads ledger s (interceptor.afterResponse request response s).2.2
  onError : ∀ request error s, manager.Leads ledger s (interceptor.onError request error s)

theorem Makes.reporter {inspector : Inspector σ} (made : manager.Makes inspector) :
    manager.Reporter ledger inspector.toInterceptor where
  beforeRequest _ s := .refl s
  afterResponse request response s := ⟨_, .inspection request response s made⟩
  onError _ _ s := .refl s

/-- A transport that has to do with the debouncer through reports only. -/
def Carrier (manager : Manager σ) (ledger : manager.debouncer.Ledger) (transport : Transport σ) : Prop :=
  ∀ request s, manager.Leads ledger s (transport request s).2

variable {transport : Transport σ}

theorem leads_processRequest (reporters : ∀ entry ∈ chain, manager.Reporter ledger entry.toInterceptor) :
    ∀ (request : Request) (s : σ), manager.Leads ledger s (chain.processRequest request s).2.2 := by
  induction chain with
  | nil => exact fun _ s => .refl s
  | cons entry rest ih =>
    intro request s
    have ih := ih fun entry mem => reporters entry (List.mem_cons_of_mem _ mem)
    have asked := (reporters entry List.mem_cons_self).beforeRequest request s
    rw [Chain.processRequest]
    split
    · rcases answered : entry.beforeRequest request s with ⟨_ | _ | _ | milliseconds, left, t⟩ <;>
        rw [answered] at asked
      · exact asked.trans (ih left t)
      · exact asked
      · exact asked
      · exact (asked.trans (.note rfl t)).trans (ih left _)
    · exact ih request s

theorem leads_processResponse (reporters : ∀ entry ∈ chain, manager.Reporter ledger entry.toInterceptor)
    (request : Request) :
    ∀ (response : Response) (s : σ), manager.Leads ledger s (chain.processResponse request response s).2.2 := by
  induction chain with
  | nil => exact fun _ s => .refl s
  | cons entry rest ih =>
    intro response s
    have ih := ih fun entry mem => reporters entry (List.mem_cons_of_mem _ mem)
    have given := (reporters entry List.mem_cons_self).afterResponse request response s
    rw [Chain.processResponse]
    split
    · rcases passed : entry.afterResponse request response s with ⟨error | ⟨⟩, left, t⟩ <;> rw [passed] at given
      · exact given
      · exact given.trans (ih left t)
    · exact ih response s

theorem leads_notifyError (reporters : ∀ entry ∈ chain, manager.Reporter ledger entry.toInterceptor)
    (request : Request) (error : Error) :
    ∀ s : σ, manager.Leads ledger s (chain.notifyError request error s) := by
  induction chain with
  | nil => exact fun s => .refl s
  | cons entry rest ih =>
    intro s
    have ih := ih fun entry mem => reporters entry (List.mem_cons_of_mem _ mem)
    rw [Chain.notifyError]
    split
    · exact ((reporters entry List.mem_cons_self).onError request error s).trans (ih _)
    · exact ih s

/-- An execution leads to nothing but reports, in whatever chain of reporters. -/
theorem leads_execute {client : Client σ}
    (reporters : ∀ entry ∈ client.chain, manager.Reporter ledger entry.toInterceptor)
    (carrier : manager.Carrier ledger transport) (request : Request) (s : σ) :
    manager.Leads ledger s (client.execute transport request s).2 := by
  have exchanged : ∀ request s, manager.Leads ledger s (client.exchange transport request s).2 := by
    intro request s
    have carried := carrier request s
    rw [Client.exchange]
    rcases sending : transport request s with ⟨error | response, t⟩ <;> rw [sending] at carried
    · exact carried.trans (leads_notifyError reporters request error t)
    · have passed := carried.trans (leads_processResponse reporters request response t)
      rcases responded : client.chain.processResponse request response t with ⟨_ | ⟨⟩, left, u⟩ <;>
        rw [responded] at passed
      · simpa only [responded] using passed
      · simpa only [responded] using passed
  have asked := leads_processRequest reporters request s
  rw [Client.execute]
  rcases answered : client.chain.processRequest request s with ⟨_ | reason | response | milliseconds, last, t⟩ <;>
    rw [answered] at asked
  · exact asked.trans (exchanged last t)
  · exact asked.trans (.note rfl t)
  · exact asked
  · exact asked.trans (exchanged last t)

end Manager

/-- The entries that an execution is still going to run in its present phase. -/
def Execution.rest : Execution σ → Chain σ
  | requesting rest _ => rest
  | responding rest _ _ => rest
  | notifying rest _ _ => rest
  | sending _ => []
  | finished _ => []

omit [Journal σ] in
/-- Whatever is asked of an interceptor, it moves the state in one way only. -/
structure Interceptor.Moves (interceptor : Interceptor σ) (moves : σ → σ → Prop) : Prop where
  beforeRequest : ∀ request s, moves s (interceptor.beforeRequest request s).2.2
  afterResponse : ∀ request response s, moves s (interceptor.afterResponse request response s).2.2
  onError : ∀ request error s, moves s (interceptor.onError request error s)

namespace Execution

variable {chain : Chain σ} {transport : Transport σ} {execution : Execution σ}

/-- A step runs no entry that the chain does not have. -/
theorem rest_step (within : execution.rest ⊆ chain) (s : σ) :
    (execution.step chain transport s).1.rest ⊆ chain := by
  fun_cases step chain transport execution s
  case case2 | case3 | case6 | case10 | case12 | case14 => exact (List.cons_subset.mp within).2
  all_goals simp [rest]

/-- A step moves the state as the code that it calls does: an interceptor or the transport, and then perhaps a note. -/
theorem moves_step (moves : σ → σ → Prop) (refl : ∀ s, moves s s)
    (trans : ∀ {s t u}, moves s t → moves t u → moves s u)
    (noted : ∀ note s, note.isLine = false → moves s (Journal.record note s))
    (called : ∀ entry ∈ chain, entry.toInterceptor.Moves moves) (sent : ∀ request s, moves s (transport request s).2)
    (within : execution.rest ⊆ chain) (s : σ) : moves s (execution.step chain transport s).2.2 := by
  cases execution with
  | requesting rest request =>
    rcases rest with _ | ⟨entry, rest⟩
    · exact refl s
    · have asked := (called entry (List.cons_subset.mp within).1).beforeRequest request s
      rw [step]
      split
      · rcases answered : entry.beforeRequest request s with ⟨_ | _ | _ | milliseconds, left, t⟩ <;>
          rw [answered] at asked
        · exact asked
        · exact trans asked (noted _ t rfl)
        · exact asked
        · exact trans asked (noted _ t rfl)
      · exact refl s
  | sending request =>
    have carried := sent request s
    rw [step]
    rcases answered : transport request s with ⟨error | response, t⟩ <;> rw [answered] at carried <;> exact carried
  | responding rest request response =>
    rcases rest with _ | ⟨entry, rest⟩
    · exact refl s
    · have given := (called entry (List.cons_subset.mp within).1).afterResponse request response s
      rw [step]
      split
      · rcases passed : entry.afterResponse request response s with ⟨error | ⟨⟩, left, t⟩ <;> rw [passed] at given <;>
          exact given
      · exact refl s
  | notifying rest request error =>
    rcases rest with _ | ⟨entry, rest⟩
    · exact refl s
    · rw [step]
      split
      · exact (called entry (List.cons_subset.mp within).1).onError request error s
      · exact refl s
  | finished => exact refl s

end Execution

/-- A single step of an execution runs no entry that is not in the chain, and leads to nothing but reports. -/
theorem Manager.leads_step {manager : Manager σ} {ledger : manager.debouncer.Ledger} {chain : Chain σ}
    {transport : Transport σ} (reporters : ∀ entry ∈ chain, manager.Reporter ledger entry.toInterceptor)
    (carrier : manager.Carrier ledger transport) {execution : Execution σ} (within : execution.rest ⊆ chain) (s : σ) :
    (execution.step chain transport s).1.rest ⊆ chain ∧
      manager.Leads ledger s (execution.step chain transport s).2.2 := by
  refine ⟨Execution.rest_step within s, ?_⟩
  refine Execution.moves_step (manager.Leads ledger) .refl .trans (fun _ s plain => .note plain s) ?_ carrier within s
  intro entry mem
  have reporter := reporters entry mem
  exact ⟨reporter.beforeRequest, reporter.afterResponse, reporter.onError⟩

end Transparency
