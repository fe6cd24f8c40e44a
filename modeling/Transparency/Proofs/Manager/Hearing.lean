import Transparency.Proofs.Manager.Reporting

/-!
# What a manager hears

Reports reach the debouncer of a manager while the manager is called, on any chains, and while chains are edited.
`Fleet.Hears` puts all that together, in any order. Calls and edits are no reports, and a call may change places with
a report (`Fleet.call_tell`), so the lines that are sent are those of the reports, whatever happens in between:
`Fleet.one_line_per_streak`.
-/

namespace Transparency

variable {ι σ : Type} [Journal σ]

/-! ## Calls and reports -/

namespace Manager

variable {manager : Manager σ} {memory : ManagerState σ} {desired : Bool} {s t : σ}

/-- What comes of making an inspector depends on what comes of asking for a verifier. -/
theorem construct_congr (same : (manager.makeVerifier s).1 = (manager.makeVerifier t).1) :
    (manager.construct s).1 = (manager.construct t).1 := by
  rcases left : manager.makeVerifier s with ⟨error | verifier, s'⟩ <;>
    rcases right : manager.makeVerifier t with ⟨error' | verifier', t'⟩ <;> rw [left, right] at same <;> cases same
  · simp only [construct, left, right]
  · simp only [construct, left, right]
    split <;> rfl

/-- What a call does depends on the state only through what comes of asking for a verifier, if that is done. -/
theorem reconcile_congr (fits : memory.Fits manager.handle) (chain : Chain σ)
    (same : desired = true → (manager.makeVerifier s).1 = (manager.makeVerifier t).1) :
    (manager.reconcile desired chain memory s).1 = (manager.reconcile desired chain memory t).1 ∧
      (manager.reconcile desired chain memory s).2.1 = (manager.reconcile desired chain memory t).2.1 ∧
      (manager.reconcile desired chain memory s).2.2.1 = (manager.reconcile desired chain memory t).2.2.1 := by
  rcases state : memory.isEnabled <;> cases desired
  · rw [reconcile_stay state.symm, reconcile_stay state.symm]
    exact ⟨rfl, rfl, rfl⟩
  · have obtained : (manager.obtain memory s).1 = (manager.obtain memory t).1 := by
      rcases kept : memory.inspector with _ | entry
      · rw [obtain_of_none kept, obtain_of_none kept, construct_congr (same rfl)]
      · rw [obtain_of_kept kept, obtain_of_kept kept]
    rcases left : manager.obtain memory s with ⟨error | entry, s'⟩ <;>
      rcases right : manager.obtain memory t with ⟨error' | entry', t'⟩ <;> rw [left, right] at obtained <;>
      cases obtained
    · rw [reconcile_refuse state left, reconcile_refuse state right]
      exact ⟨rfl, rfl, rfl⟩
    · rw [reconcile_attach state left, reconcile_attach state right]
      exact ⟨rfl, rfl, rfl⟩
  · obtain ⟨entry, kept⟩ := Option.isSome_iff_exists.mp (fits.isSome_of_isEnabled state)
    rw [reconcile_detach state kept, reconcile_detach state kept]
    exact ⟨rfl, rfl, rfl⟩
  · rw [reconcile_stay state.symm, reconcile_stay state.symm]
    exact ⟨rfl, rfl, rfl⟩

end Manager

/-- A report changes nothing that a call looks at: neither what it is asked for nor what comes of asking for a
verifier then. -/
theorem Ask.report {manager : Manager σ} {ledger : manager.debouncer.Ledger} (secluded : manager.Secluded ledger)
    (ask : Ask) (host : String) (outcome : Outcome) (s : σ) :
    ask.desired manager (manager.onVerificationResult host outcome s) = ask.desired manager s ∧
      (ask.desired manager s = true →
        (manager.makeVerifier (ask.settle manager (manager.onVerificationResult host outcome s))).1 =
          (manager.makeVerifier (ask.settle manager s)).1) := by
  obtain ⟨alike, overlooks⟩ := secluded.overlooks
  have reported := overlooks.report host outcome s
  cases ask with
  | value wanted => exact ⟨rfl, fun _ => overlooks.makeVerifier _ _ reported⟩
  | preference =>
    obtain ⟨same, read⟩ := overlooks.readPreference _ _ reported
    simp only [Ask.desired, Ask.settle, Manager.desired]
    rcases answered : manager.readPreference s with ⟨error | value, t⟩ <;>
      rcases told : manager.readPreference (manager.onVerificationResult host outcome s) with ⟨error' | value', t'⟩ <;>
      rw [answered, told] at same read <;> cases same
    · -- a preference that cannot be read counts as off, so no verifier is asked for
      refine ⟨rfl, fun wanted => ?_⟩
      cases wanted
    · exact ⟨rfl, fun _ => overlooks.makeVerifier _ _ read⟩

namespace Fleet

variable [DecidableEq ι] {manager : Manager σ} {ledger : manager.debouncer.Ledger} {start fleet : Fleet ι σ}
  {reports : List Finding}

/-- The fleet after a report by other code. -/
def tell (manager : Manager σ) (host : String) (outcome : Outcome) (fleet : Fleet ι σ) : Fleet ι σ :=
  { fleet with state := manager.onVerificationResult host outcome fleet.state }

/-- Two fleets that differ in nothing that matters to the manager and its debouncer. -/
structure Alike (manager : Manager σ) (ledger : manager.debouncer.Ledger) (fleet other : Fleet ι σ) : Prop where
  chains_eq : fleet.chains = other.chains
  memory_eq : fleet.memory = other.memory
  isFailing_eq : manager.isFailing fleet.state = manager.isFailing other.state
  lines_eq : ledger.lines fleet.state = ledger.lines other.state

/-- A call sends no line and leaves the streak as it is. -/
theorem quiet_call (secluded : manager.Secluded ledger) (fits : fleet.memory.Fits manager.handle) (place : ι)
    (ask : Ask) :
    manager.isFailing (fleet.call manager place ask).2.state = manager.isFailing fleet.state ∧
      ledger.lines (fleet.call manager place ask).2.state = ledger.lines fleet.state :=
  ⟨view_call_of_untouched secluded.untouched_isFailing fits place ask,
    view_call_of_untouched secluded.untouched_lines fits place ask⟩

/-- A call and a report may change places. -/
theorem call_tell (secluded : manager.Secluded ledger) (fits : fleet.memory.Fits manager.handle) (place : ι)
    (ask : Ask) (host : String) (outcome : Outcome) :
    ((fleet.tell manager host outcome).call manager place ask).1 = (fleet.call manager place ask).1 ∧
      Alike manager ledger ((fleet.tell manager host outcome).call manager place ask).2
        ((fleet.call manager place ask).2.tell manager host outcome) := by
  have told_fits : (fleet.tell manager host outcome).memory.Fits manager.handle := fits
  obtain ⟨isFailing_eq, lines_eq⟩ := quiet_call secluded fits place ask
  obtain ⟨told_isFailing, told_lines⟩ := quiet_call secluded told_fits place ask
  obtain ⟨desired_eq, asked_eq⟩ := ask.report secluded host outcome fleet.state
  obtain ⟨result_eq, chain_eq, memory_eq⟩ := Manager.reconcile_congr fits (fleet.chains place) asked_eq
  refine ⟨?_, ?_, ?_, ?_, ?_⟩
  · simp only [call, tell, Manager.answer_eq, desired_eq, result_eq]
  · simp only [call, tell, Manager.answer_eq, desired_eq, chain_eq]
  · simp only [call, tell, Manager.answer_eq, desired_eq, memory_eq]
  · -- on both ways the streak is what the report says
    rw [told_isFailing]
    exact (ledger.isFailing_record host outcome _).trans (ledger.isFailing_record host outcome _).symm
  · -- on both ways the report finds the same streak, so it sends the same line or none
    rw [told_lines]
    exact ledger.lines_report_congr host outcome isFailing_eq.symm lines_eq.symm

/-! ## Everything together -/

/-- A fleet comes to be like another while these reports reach the debouncer of the manager, the latest first, and the
manager is called and chains are edited in between. -/
inductive Hears (manager : Manager σ) (ledger : manager.debouncer.Ledger) (start : Fleet ι σ) :
    List Finding → Fleet ι σ → Prop where
  /-- nothing has happened -/
  | start : Hears manager ledger start [] start
  /-- the manager is called on a chain -/
  | call {reports : List Finding} {fleet : Fleet ι σ} (place : ι) (ask : Ask) :
      Hears manager ledger start reports fleet → Hears manager ledger start reports (fleet.call manager place ask).2
  /-- other code edits a chain -/
  | edit {reports : List Finding} {fleet : Fleet ι σ} (place : ι) (edit : Edit σ) :
      Hears manager ledger start reports fleet →
      Hears manager ledger start reports (fleet.step manager (.edit place edit))
  /-- outcomes are reported, or something else goes on -/
  | report {reports later : List Finding} {fleet : Fleet ι σ} {s : σ} : Hears manager ledger start reports fleet →
      manager.Reporting ledger later fleet.state s →
      Hears manager ledger start (later ++ reports) { fleet with state := s }

theorem Hears.fits (heard : start.Hears manager ledger reports fleet) (new : start.memory = {}) :
    fleet.memory.Fits manager.handle := by
  induction heard with
  | start =>
    rw [new]
    exact ManagerState.fits_new manager.handle
  | call place ask _ ih =>
    obtain ⟨result, chain', memory', s', called, turn⟩ := call_turn ih place ask
    rw [called]
    exact turn.fits ih
  | edit _ _ _ ih => exact ih
  | report _ _ ih => exact ih

/-- What the manager keeps is an inspector that it made. -/
theorem Hears.inspector_made (heard : start.Hears manager ledger reports fleet) (new : start.memory = {})
    {entry : Entry σ} (kept : fleet.memory.inspector = some entry) :
    ∃ inspector, manager.Makes inspector ∧ entry = { inspector.toInterceptor with handle := manager.handle } := by
  induction heard with
  | start =>
    rw [new] at kept
    cases kept
  | @call _ fleet place ask earlier ih =>
    simp only [Fleet.call, Manager.answer_eq] at kept
    rcases Manager.inspector_of_reconcile (earlier.fits new) kept with before | ⟨s, t, made⟩
    · exact ih before
    · exact Manager.makes_of_construct made
  | edit _ _ _ ih => exact ih kept
  | report _ _ ih => exact ih kept

/-- The debouncer and its ledger agree with the reports. -/
theorem Hears.agrees (heard : start.Hears manager ledger reports fleet) (secluded : manager.Secluded ledger)
    (new : start.memory = {}) (silent : manager.isFailing start.state = false) :
    ledger.Agrees start.state reports fleet.state := by
  induction heard with
  | start => exact .nil silent
  | call place ask earlier ih =>
    obtain ⟨isFailing_eq, lines_eq⟩ := quiet_call secluded (earlier.fits new) place ask
    exact ih.quiet isFailing_eq lines_eq
  | edit _ _ _ ih => exact ih
  | report _ reporting ih => exact reporting.agrees secluded ih

/-- **One line for each streak of failures.** Let outcomes be reported to a new manager by other code and by its own
inspectors, in any chains and clients and in any order, while the manager is called, chains are edited and anything else
goes on that has nothing to do with its debouncer. The verifiers may write notes of their own. Then the lines that have
gone through the sink are, in order, those of the failures that were the first report or directly followed a success,
and the manager is failing exactly if there was a report and the last one was a failure. The next report sends a line
exactly if it begins a streak in this sense. A call sends no line and leaves the streak as it is, and it may change
places with a report.

The inspector that the manager keeps is a reporter. With whatever other reporters it stands in a chain, an execution
leads to nothing but reports, and so does every step of an execution, which then goes on in the same chain. -/
theorem one_line_per_streak (secluded : manager.Secluded ledger) (new : start.memory = {})
    (silent : manager.isFailing start.state = false) (heard : start.Hears manager ledger reports fleet) :
    (ledger.lines fleet.state = ledger.lines start.state ++
      (beginnings reports).reverse.map fun finding =>
        ("network", finding.host ++ " -> " ++ finding.outcome.message)) ∧
    (manager.isFailing fleet.state = true ↔
      ∃ last earlier, reports = last :: earlier ∧ last.outcome.isFailure = true) ∧
    (∀ finding : Finding, (manager.debouncer.record finding.host finding.outcome fleet.state).1 = true ↔
      finding.begins reports = true) ∧
    (∀ place ask,
      (manager.isFailing (fleet.call manager place ask).2.state = manager.isFailing fleet.state ∧
        ledger.lines (fleet.call manager place ask).2.state = ledger.lines fleet.state) ∧
      ∀ host outcome,
        ((fleet.tell manager host outcome).call manager place ask).1 = (fleet.call manager place ask).1 ∧
          Alike manager ledger ((fleet.tell manager host outcome).call manager place ask).2
            ((fleet.call manager place ask).2.tell manager host outcome)) ∧
    (∀ entry, fleet.memory.inspector = some entry → manager.Reporter ledger entry.toInterceptor) ∧
    ∀ chain transport, (∀ entry ∈ chain, manager.Reporter ledger entry.toInterceptor) →
      manager.Carrier ledger transport →
      (∀ config request, manager.Leads ledger fleet.state
        ((⟨config, chain⟩ : Client σ).execute transport request fleet.state).2) ∧
      ∀ execution : Execution σ, execution.rest ⊆ chain →
        (execution.step chain transport fleet.state).1.rest ⊆ chain ∧
          manager.Leads ledger fleet.state (execution.step chain transport fleet.state).2.2 := by
  have agrees := heard.agrees secluded new silent
  have fits := heard.fits new
  refine ⟨agrees.lines_eq, ?_, fun finding => ?_, fun place ask => ⟨quiet_call secluded fits place ask, ?_⟩,
    fun entry kept => ?_, fun chain transport reporters carrier => ⟨fun config request => ?_, ?_⟩⟩
  · rw [← endsFailing_eq_true_iff, ← agrees.isFailing_eq]
    rfl
  · rw [agrees.record_fst finding]
  · exact call_tell secluded fits place ask
  · obtain ⟨inspector, made, rfl⟩ := heard.inspector_made new kept
    exact made.reporter
  · exact Manager.leads_execute reporters carrier request fleet.state
  · exact fun execution within => Manager.leads_step reporters carrier within fleet.state

end Fleet

namespace Desk

/-- The journal of a desk shows the lines, since they are notes. -/
def ledger : manager.debouncer.Ledger :=
  .ofNotes notes (fun _ _ => rfl) (fun _ _ => rfl) fun _ _ => rfl

/-- Desks with the same preference and the same number of refusals look alike. -/
def Alike (desk other : Desk) : Prop := desk.preference = other.preference ∧ desk.refusals = other.refusals

theorem overlooks : manager.Overlooks Alike where
  report host outcome desk := by
    rcases outcome with _ | _ <;> rcases desk with ⟨_, _, _ | _, _⟩ <;> exact ⟨rfl, rfl⟩
  readPreference desk other same := ⟨by simp only [manager, same.1], same⟩
  makeVerifier desk other same := by
    simp only [manager, same.2]
    split <;> rfl

theorem secluded : manager.Secluded ledger where
  readPreference := ⟨fun _ => rfl, fun _ => rfl⟩
  makeVerifier := by
    constructor
    · rintro ⟨_, _ | _, _, _⟩ <;> rfl
    · rintro ⟨_, _ | _, _, _⟩ <;> rfl
  verify := by
    intro desk verifier asked host certificate
    -- there is only one verifier, and it leaves the desk as it is
    have trusting : verifier = ⟨fun _ _ desk => (.success (.trusted 2), desk)⟩ := by
      rcases desk with ⟨_, _ | _, _, _⟩ <;> cases asked
      rfl
    subst trusting
    exact ⟨fun _ => rfl, fun _ => rfl⟩
  overlooks := ⟨Alike, overlooks⟩

theorem firstFault?_policy : manager.policy.firstFault? = none := rfl

/-- The inspector that the manager makes. -/
def inspector : Inspector Desk where
  verifier.verify _ _ desk := (.success (.trusted 2), desk)
  policy := manager.policy
  report := manager.debouncer.report
  valid := firstFault?_policy

theorem makes_inspector : manager.Makes inspector := ⟨⟨{}, rfl⟩, rfl, rfl⟩

/-- A response without a certificate, not over TLS. -/
def plainResponse : Response where
  url := { scheme := "http", host := some (.name "plain.example"), path := .segments [""] }

/-- A failure is reported while the manager is switched on; the inspector then finds nothing to check, and after the
manager is switched off again two more failures are reported. -/
theorem two_lines : ∃ fleet : Fleet Bool Desk,
    (Desk.fleet Bool {}).Hears manager ledger
      [⟨"c.example", .failure .noTimestamps⟩, ⟨"b.example", .failure .noCertificates⟩,
        ⟨"plain.example", .success .insecureConnection⟩, ⟨"a.example", .failure .noTimestamps⟩] fleet ∧
      ledger.lines fleet.state =
        [("network", "a.example -> Failure: no SCTs present"),
          ("network", "b.example -> Failure: no certificates")] := by
  have unheard : (Desk.fleet Bool {}).Hears manager ledger [] (Desk.fleet Bool {}) := .start
  have attached := unheard.call false (.value true)
  have failed := attached.report (.callback "a.example" (.failure .noTimestamps) _)
  have followed := Fleet.Hears.call true .preference failed
  have recovered := followed.report (.inspection { url := plainResponse.url } plainResponse _ makes_inspector)
  have detached := Fleet.Hears.call false (.value false) recovered
  have again := detached.report (.callback "b.example" (.failure .noCertificates) _)
  have heard := again.report (.callback "c.example" (.failure .noTimestamps) _)
  refine ⟨_, heard, ?_⟩
  rw [(Fleet.one_line_per_streak secluded rfl rfl heard).1]
  rfl

end Desk

end Transparency
