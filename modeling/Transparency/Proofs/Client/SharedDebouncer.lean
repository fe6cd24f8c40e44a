import Transparency.Proofs.Client.Interleaving
import Transparency.Proofs.Debouncer.Page
import Transparency.Proofs.Manager.Hearing

/-!
# A debouncer that executions share

The executions of a batch share the debouncer that their inspector reports to. What they find, in the order of the
schedule, is what the debouncer is told (`Batch.page_run`); so the lines can be counted by what was found, whatever the
order (`Batch.lines_run`). An execution whose response fails the check is refused by its own finding, whether or not
there was a line about it (`Batch.refused_of_found`).

`Client.same_results_in_any_order` puts this together with what holds of any batch.
-/

namespace Transparency

section

variable {σ : Type} [Journal σ]

/-! ## Leaving the debouncer alone -/

/-- An interceptor that leaves a debouncer and its ledger alone. -/
structure Interceptor.Spares (interceptor : Interceptor σ) {debouncer : Debouncer σ} (ledger : debouncer.Ledger) :
    Prop where
  beforeRequest : ∀ request s, ledger.page (interceptor.beforeRequest request s).2.2 = ledger.page s
  afterResponse : ∀ request response s, ledger.page (interceptor.afterResponse request response s).2.2 = ledger.page s
  onError : ∀ request error s, ledger.page (interceptor.onError request error s) = ledger.page s

/-- The entries of a handle are an inspector that reports to a debouncer; nothing else touches the debouncer. -/
structure Client.Shares (client : Client σ) (transport : Transport σ) (inspector : Inspector σ) (handle : Handle)
    {debouncer : Debouncer σ} (ledger : debouncer.Ledger) : Prop where
  report_eq : inspector.report = debouncer.report
  inspects : ∀ entry ∈ client.chain, entry.handle = handle → entry.toInterceptor = inspector.toInterceptor
  others : ∀ entry ∈ client.chain, entry.handle ≠ handle → entry.toInterceptor.Spares ledger
  verify : ∀ host certificate s, ledger.page (inspector.verifier.verify host certificate s).2 = ledger.page s
  transport : ∀ request s, ledger.page (transport request s).2 = ledger.page s

/-- Code cannot see what a debouncer keeps, nor the journal. -/
structure Debouncer.Hides (debouncer : Debouncer σ) (alike : σ → σ → Prop) : Prop where
  equivalence : Equivalence alike
  set : ∀ failing s, alike (debouncer.streak.set failing s) s
  sink : ∀ category line s, alike (debouncer.sink category line s) s
  note : ∀ note s, alike (Journal.record note s) s

theorem Debouncer.Hides.note_congr {debouncer : Debouncer σ} {alike : σ → σ → Prop} (hides : debouncer.Hides alike)
    (note : Note) (s t : σ) (same : alike s t) : alike (Journal.record note s) (Journal.record note t) :=
  hides.equivalence.trans (hides.note note s)
    (hides.equivalence.trans same (hides.equivalence.symm (hides.note note t)))

/-- No code can see that there was a report. -/
theorem Debouncer.Hides.report {debouncer : Debouncer σ} {alike : σ → σ → Prop} (hides : debouncer.Hides alike)
    (host : String) (outcome : Outcome) (s : σ) : alike (debouncer.report host outcome s) s := by
  have flagged := hides.set outcome.isFailure s
  rw [Debouncer.report, Debouncer.record]
  rcases failed : outcome.isFailure <;> rw [failed] at flagged <;> cases debouncer.streak.get s
  · exact flagged
  · exact hides.equivalence.trans (hides.note _ _) flagged
  · exact hides.equivalence.trans (hides.sink _ _ _) flagged
  · exact flagged

theorem Client.Shares.respects {client : Client σ} {transport : Transport σ} {inspector : Inspector σ}
    {handle : Handle} {debouncer : Debouncer σ} {ledger : debouncer.Ledger} {alike : σ → σ → Prop}
    (shares : client.Shares transport inspector handle ledger) (hides : debouncer.Hides alike)
    (verifier : inspector.verifier.Respects alike)
    (others : ∀ entry ∈ client.chain, entry.handle ≠ handle → entry.toInterceptor.Respects alike)
    (carrier : transport.Respects alike) : client.Respects transport alike where
  note := hides.note_congr
  chain entry mem := by
    by_cases inspects : entry.handle = handle
    · rw [shares.inspects entry mem inspects]
      refine inspector.respects hides.note_congr verifier fun host outcome s t same => ?_
      rw [shares.report_eq]
      exact hides.equivalence.trans (hides.report host outcome s)
        (hides.equivalence.trans same (hides.equivalence.symm (hides.report host outcome t)))
    · exact others entry mem inspects
  transport := carrier

/-! ## What executions find -/

/-- What an inspector is going to find with the next step of an execution, if the next step is its own. -/
def Execution.finding? (inspector : Inspector σ) (handle : Handle) : Execution σ → σ → Option Finding
  | responding (entry :: _) _ response, s =>
    if entry.handle = handle then some ⟨response.host, (inspector.evaluate response s).1⟩ else none
  | _, _ => none

variable {client : Client σ} {transport : Transport σ} {inspector : Inspector σ} {handle : Handle}
  {debouncer : Debouncer σ} {ledger : debouncer.Ledger}

theorem Client.Shares.page_beforeRequest (shares : client.Shares transport inspector handle ledger) {entry : Entry σ}
    (mem : entry ∈ client.chain) (request : Request) (s : σ) :
    ledger.page (entry.beforeRequest request s).2.2 = ledger.page s := by
  by_cases inspects : entry.handle = handle
  · rw [shares.inspects entry mem inspects]
    rfl
  · exact (shares.others entry mem inspects).beforeRequest request s

theorem Client.Shares.page_onError (shares : client.Shares transport inspector handle ledger) {entry : Entry σ}
    (mem : entry ∈ client.chain) (request : Request) (error : Error) (s : σ) :
    ledger.page (entry.onError request error s) = ledger.page s := by
  by_cases inspects : entry.handle = handle
  · rw [shares.inspects entry mem inspects]
    rfl
  · exact (shares.others entry mem inspects).onError request error s

theorem Client.Shares.page_evaluate (shares : client.Shares transport inspector handle ledger) (response : Response)
    (s : σ) : ledger.page (inspector.evaluate response s).2 = ledger.page s := by
  rw [Inspector.evaluate]
  split
  · rfl
  · split
    · exact shares.verify _ _ s
    · rfl

/-- An inspection tells the debouncer what was found. -/
theorem Client.Shares.page_inspect (shares : client.Shares transport inspector handle ledger) (request : Request)
    (response : Response) (s : σ) :
    ledger.page (inspector.toInterceptor.afterResponse request response s).2.2 =
      (ledger.page s).tell ⟨response.host, (inspector.evaluate response s).1⟩ := by
  simp only [Inspector.toInterceptor, Inspector.inspect, shares.report_eq, note]
  rw [ledger.page_report, ledger.page_note rfl, shares.page_evaluate]

/-- **A step tells the debouncer what it finds**, and does nothing else to it. -/
theorem Client.Shares.page_step (shares : client.Shares transport inspector handle ledger) {execution : Execution σ}
    (within : execution.rest ⊆ client.chain) (s : σ) :
    ledger.page (execution.step client.chain transport s).2.2 =
      (execution.finding? inspector handle s).toList.foldl Page.tell (ledger.page s) := by
  cases execution with
  | requesting rest request =>
    rcases rest with _ | ⟨entry, rest⟩
    · rfl
    · have asked := shares.page_beforeRequest (List.cons_subset.mp within).1 request s
      rw [Execution.step]
      split
      · rcases answered : entry.beforeRequest request s with ⟨_ | _ | _ | _, left, t⟩ <;> rw [answered] at asked
        · exact asked
        · exact (ledger.page_note rfl t).trans asked
        · exact asked
        · exact (ledger.page_note rfl t).trans asked
      · rfl
  | sending request =>
    have sent := shares.transport request s
    rw [Execution.step]
    rcases answered : transport request s with ⟨_ | _, t⟩ <;> rw [answered] at sent <;> exact sent
  | responding rest request response =>
    rcases rest with _ | ⟨entry, rest⟩
    · rfl
    · obtain ⟨mem, -⟩ := List.cons_subset.mp within
      rw [Execution.finding?]
      by_cases inspects : entry.handle = handle
      · -- an inspector cares about every request, so it is given the response
        have told := shares.page_inspect request response s
        have accepts : entry.accepts request s = true := by rw [shares.inspects entry mem inspects]; rfl
        rw [← shares.inspects entry mem inspects] at told
        rw [if_pos inspects, Execution.step, if_pos accepts]
        rcases given : entry.afterResponse request response s with ⟨_ | ⟨⟩, left, t⟩ <;> rw [given] at told <;>
          exact told
      · have spared := (shares.others entry mem inspects).afterResponse request response s
        rw [if_neg inspects, Execution.step]
        split
        · rcases given : entry.afterResponse request response s with ⟨_ | ⟨⟩, left, t⟩ <;> rw [given] at spared <;>
            exact spared
        · rfl
  | notifying rest request error =>
    rcases rest with _ | ⟨entry, rest⟩
    · rfl
    · rw [Execution.step]
      split
      · exact shares.page_onError (List.cons_subset.mp within).1 request error s
      · rfl
  | finished => rfl

/-- The execution of a response that fails the check ends with its next step, whatever was reported before. -/
theorem Client.Shares.step_of_finding (shares : client.Shares transport inspector handle ledger)
    (enforces : inspector.policy.failOnError = true) {execution : Execution σ}
    (within : execution.rest ⊆ client.chain) {host : String} {reason : FailureReason} {s : σ}
    (found : execution.finding? inspector handle s = some ⟨host, .failure reason⟩) :
    (execution.step client.chain transport s).1 =
      .finished (.error (.certificateTransparency host reason.message)) := by
  cases execution with
  | responding rest request response =>
    rcases rest with _ | ⟨entry, rest⟩
    · cases found
    · rw [Execution.finding?] at found
      split at found
      next inspects =>
        obtain ⟨host_eq, outcome_eq⟩ := Finding.mk.inj (Option.some.inj found)
        have same := shares.inspects entry (List.cons_subset.mp within).1 inspects
        have accepts : entry.accepts request s = true := by rw [same]; rfl
        have refused : (entry.afterResponse request response s).1 =
            .error (.certificateTransparency host reason.message) := by
          rw [same]
          show inspector.ruling response.host (inspector.evaluate response s).1 = _
          rw [outcome_eq, host_eq, Inspector.ruling, if_pos enforces]
        rw [Execution.step, if_pos accepts]
        generalize entry.afterResponse request response s = given at refused ⊢
        obtain ⟨answer, left, t⟩ := given
        obtain rfl : answer = _ := refused
        rfl
      next => cases found
  | requesting | sending | notifying | finished => cases found

namespace Batch

/-- What the turn of a place is going to find, if anything. -/
def found? (inspector : Inspector σ) (handle : Handle) (batch : Batch σ) (place : Nat) : Option Finding :=
  batch.executions[place]?.bind fun execution => execution.finding? inspector handle batch.state

/-- What is found by a schedule, in order. -/
def findings (chain : Chain σ) (transport : Transport σ) (inspector : Inspector σ) (handle : Handle) :
    List Nat → Batch σ → List Finding
  | [], _ => []
  | place :: schedule, batch =>
    (batch.found? inspector handle place).toList ++
      findings chain transport inspector handle schedule (batch.turn chain transport place)

theorem page_turn (shares : client.Shares transport inspector handle ledger) {batch : Batch σ}
    (within : batch.Within client.chain) (place : Nat) :
    ledger.page (batch.turn client.chain transport place).state =
      (batch.found? inspector handle place).toList.foldl Page.tell (ledger.page batch.state) := by
  rcases here : batch.executions[place]? with _ | execution
  · rw [turn_of_none here, found?, here]
    rfl
  · rw [turn_of_getElem? here, found?, here]
    exact shares.page_step (within execution (List.mem_of_getElem? here)) batch.state

/-- **The debouncer is told what is found**, in the order of the schedule. -/
theorem page_run (shares : client.Shares transport inspector handle ledger) (schedule : List Nat) :
    ∀ {batch : Batch σ}, batch.Within client.chain →
      ledger.page (batch.run client.chain transport schedule).state =
        (batch.findings client.chain transport inspector handle schedule).foldl Page.tell
          (ledger.page batch.state) := by
  induction schedule with
  | nil => exact fun _ => rfl
  | cons place schedule ih =>
    intro batch within
    rw [run_cons, ih (within.turn transport place), findings, List.foldl_append, page_turn shares within place]

/-- **A response that fails the check is refused**, whether or not the failure is one of a streak. -/
theorem refused_of_found (shares : client.Shares transport inspector handle ledger)
    (enforces : inspector.policy.failOnError = true) {batch : Batch σ} (within : batch.Within client.chain)
    {place : Nat} {host : String} {reason : FailureReason}
    (found : batch.found? inspector handle place = some ⟨host, .failure reason⟩) (later : List Nat) :
    ((batch.turn client.chain transport place).run client.chain transport later).executions[place]? =
      some (.finished (.error (.certificateTransparency host reason.message))) := by
  obtain ⟨execution, here, found⟩ := Option.bind_eq_some_iff.mp found
  have ended := shares.step_of_finding enforces (within execution (List.mem_of_getElem? here)) found
  refine getElem?_run_finished ?_ later
  rw [getElem?_turn_self, here, Option.map_some, ended]

/-- The lines that a schedule leads to, by what is found. -/
theorem lines_run (shares : client.Shares transport inspector handle ledger) (schedule : List Nat) {batch : Batch σ}
    (within : batch.Within client.chain) :
    ∃ sent, ledger.lines (batch.run client.chain transport schedule).state = ledger.lines batch.state ++ sent ∧
      (debouncer.isFailing batch.state = false →
        (∃ report ∈ batch.findings client.chain transport inspector handle schedule,
          report.outcome.isFailure = true) → 1 ≤ sent.length) ∧
      sent.length ≤
        (batch.findings client.chain transport inspector handle schedule).countP (·.outcome.isSuccess) + 1 := by
  have told := page_run shares schedule within
  have lines_eq : ledger.lines (batch.run client.chain transport schedule).state =
      ((batch.findings client.chain transport inspector handle schedule).foldl Page.tell
        (ledger.page batch.state)).lines := congrArg Page.lines told
  generalize batch.findings client.chain transport inspector handle schedule = found at lines_eq ⊢
  obtain ⟨sent, sent_eq⟩ := Page.lines_prefix_foldl_tell found (ledger.page batch.state)
  have total : (ledger.page batch.state).lines.length + sent.length =
      (found.foldl Page.tell (ledger.page batch.state)).lines.length := by rw [← List.length_append, sent_eq]
  refine ⟨sent, lines_eq.trans sent_eq.symm, ?_, ?_⟩
  · rintro silent ⟨report, mem, failed⟩
    have calm : (ledger.page batch.state).failing = false := silent
    have more := Page.length_lt_foldl_tell calm mem failed
    omega
  · have bound := Page.length_foldl_tell_le found (ledger.page batch.state)
    omega

end Batch

/-! ## In any order -/

/-- **The order of the steps does not matter.** Let a client work on any requests, in whatever order the steps of their
executions follow each other. Working on all of them at once and working on one after the other are such orders; there
is a result for each request, at its place. Moreover,

* an execution only takes its own steps, one in each state that it meets, and is finished after so many turns, whatever
  became of the others;
* if the client is steady, whoever is finished has the result of the request by itself, so all results together are
  those of the requests one after the other;
* if the executions share the debouncer of an inspector, there is a line for the failures that they find, unless the
  debouncer was failing before, and at most one line more than there are successes;
* each of these failures is refused if the policy says so, with or without a line;
* and if nothing that the client works with can see what the debouncer keeps, this makes no difference to any
  execution. -/
theorem Client.same_results_in_any_order (client : Client σ) (transport : Transport σ) (requests : List Request)
    (s : σ) :
    let batch := Batch.start client.chain requests s
    (batch.Reaches client.chain transport
        ⟨(client.executeAll transport requests s).1.map .finished, (client.executeAll transport requests s).2⟩ ∧
      batch.Reaches client.chain transport
        ⟨(client.executeEach transport requests s).1.map .finished, (client.executeEach transport requests s).2⟩ ∧
      (client.executeAll transport requests s).1.length = requests.length ∧
      ∀ (place : Nat) (request : Request), requests[place]? = some request →
        ∃ states result, (client.executeAll transport requests s).1[place]? = some result ∧
          (Execution.requesting client.chain request).along client.chain transport states = .finished result) ∧
    (∀ schedule place request, requests[place]? = some request →
      (batch.met client.chain transport place schedule).length = schedule.count place ∧
      (batch.run client.chain transport schedule).executions[place]? =
        some ((Execution.requesting client.chain request).along client.chain transport
          (batch.met client.chain transport place schedule)) ∧
      (2 * client.chain.length + 3 ≤ schedule.count place →
        ∃ result, (batch.run client.chain transport schedule).executions[place]? = some (.finished result)) ∧
      (client.Steady transport → ∀ result,
        (batch.run client.chain transport schedule).executions[place]? = some (.finished result) →
        ∀ t, (client.execute transport request t).1 = result)) ∧
    (client.Steady transport →
      (client.executeAll transport requests s).1 = (client.executeEach transport requests s).1 ∧
      ∀ results t, batch.Reaches client.chain transport ⟨results.map .finished, t⟩ →
        results = (client.executeEach transport requests s).1) ∧
    ∀ (inspector : Inspector σ) (handle : Handle) (debouncer : Debouncer σ) (ledger : debouncer.Ledger),
      client.Shares transport inspector handle ledger →
      (∀ schedule, ∃ sent,
        ledger.lines (batch.run client.chain transport schedule).state = ledger.lines s ++ sent ∧
        (debouncer.isFailing s = false →
          (∃ report ∈ batch.findings client.chain transport inspector handle schedule,
            report.outcome.isFailure = true) → 1 ≤ sent.length) ∧
        sent.length ≤
          (batch.findings client.chain transport inspector handle schedule).countP (·.outcome.isSuccess) + 1) ∧
      (inspector.policy.failOnError = true → ∀ earlier place later host reason,
        (batch.run client.chain transport earlier).found? inspector handle place = some ⟨host, .failure reason⟩ →
        (batch.run client.chain transport (earlier ++ place :: later)).executions[place]? =
          some (.finished (.error (.certificateTransparency host reason.message)))) ∧
      ∀ alike : σ → σ → Prop, debouncer.Hides alike → inspector.verifier.Respects alike →
        (∀ entry ∈ client.chain, entry.handle ≠ handle → entry.toInterceptor.Respects alike) →
        transport.Respects alike → ∀ t, alike s t → ∀ schedule,
          (batch.run client.chain transport schedule).executions =
            ((Batch.start client.chain requests t).run client.chain transport schedule).executions := by
  intro batch
  have within : batch.Within client.chain := Batch.within_start requests s
  have all := Batch.reaches_executeAll client transport requests s
  have each := Batch.reaches_executeEach client transport requests s
  refine ⟨⟨all, each, Batch.length_of_reaches all, fun _ _ asked => Batch.along_of_reaches all asked⟩,
    fun schedule place request asked => ?_, fun steady => ?_, ?_⟩
  · have here : batch.executions[place]? = some (.requesting client.chain request) := by
      show (requests.map _)[place]? = _
      rw [List.getElem?_map, asked, Option.map_some]
    refine ⟨Batch.length_met client.chain transport place schedule batch, ?_, fun enough => ?_,
      fun steady result ended => ?_⟩
    · rw [Batch.getElem?_run, here, Option.map_some]
    · refine Batch.isSome_of_count here ?_
      rw [Execution.stepsLeft]
      omega
    · exact Batch.execute_of_run steady asked ended
  · have one_by_one := Batch.results_of_reaches steady each s
    refine ⟨?_, fun results t ended => ?_⟩
    · rw [Batch.results_of_reaches steady all s, one_by_one]
    · rw [Batch.results_of_reaches steady ended s, one_by_one]
  · intro inspector handle debouncer ledger shares
    refine ⟨fun schedule => Batch.lines_run shares schedule within, ?_, ?_⟩
    · intro enforces earlier place later host reason found
      rw [Batch.run_append]
      exact Batch.refused_of_found shares enforces (within.run transport earlier) found later
    · intro alike hides verifier others carrier t same schedule
      exact (Batch.run_congr (shares.respects hides verifier others carrier) schedule within same).1

end

namespace Desk

/-- An entry that changes the status of each response, and keeps a count in the state. -/
def stamp : Entry Desk where
  handle := ⟨"stamp"⟩
  afterResponse _ response desk :=
    (.ok (), { response with status := ⟨404⟩ }, { desk with refusals := desk.refusals + 1 })

/-- The inspector of the manager behind another entry. -/
def guarded : Client Desk := ⟨{}, [stamp, { inspector.toInterceptor with handle := manager.handle }]⟩

/-- A server that shows no certificate. -/
def bareServer : Transport Desk := fun request desk => (.ok { url := request.url }, desk)

/-- A request to a host. -/
def requestTo (scheme host : String) : Request where
  url := { scheme, host := some (.name host), path := .segments [""] }

theorem eq_of_mem_guarded {entry : Entry Desk} (mem : entry ∈ guarded.chain) :
    entry = stamp ∨ entry = { inspector.toInterceptor with handle := manager.handle } := by
  simpa [guarded] using mem

theorem handle_stamp_ne : stamp.handle ≠ manager.handle := by decide

theorem steady_guarded : guarded.Steady bareServer where
  chain entry mem := by
    obtain rfl | rfl := eq_of_mem_guarded mem
    · refine .inl ⟨fun _ _ _ _ => rfl, fun _ _ _ _ => ⟨rfl, rfl, trivial⟩, fun _ _ _ _ _ => ⟨rfl, rfl, trivial⟩,
        fun _ _ _ _ _ => trivial⟩
    · exact .inr ⟨inspector, fun _ _ _ _ => rfl, rfl⟩
  transport _ _ _ := rfl

theorem shares_guarded : guarded.Shares bareServer inspector manager.handle ledger where
  report_eq := rfl
  inspects entry mem inspects := by
    obtain rfl | rfl := eq_of_mem_guarded mem
    · exact absurd inspects handle_stamp_ne
    · rfl
  others entry mem other := by
    obtain rfl | rfl := eq_of_mem_guarded mem
    · exact ⟨fun _ _ => rfl, fun _ _ _ => rfl, fun _ _ _ => rfl⟩
    · exact absurd rfl other
  verify _ _ _ := rfl
  transport _ _ := rfl

theorem hides : manager.debouncer.Hides Alike where
  equivalence :=
    ⟨fun _ => ⟨rfl, rfl⟩, fun same => ⟨same.1.symm, same.2.symm⟩,
      fun same later => ⟨same.1.trans later.1, same.2.trans later.2⟩⟩
  set _ _ := ⟨rfl, rfl⟩
  sink _ _ _ := ⟨rfl, rfl⟩
  note _ _ := ⟨rfl, rfl⟩

theorem respects_of_ne {entry : Entry Desk} (mem : entry ∈ guarded.chain) (other : entry.handle ≠ manager.handle) :
    entry.toInterceptor.Respects Alike := by
  obtain rfl | rfl := eq_of_mem_guarded mem
  · exact ⟨fun _ _ _ _ => rfl, fun _ _ _ same => ⟨rfl, rfl, same⟩,
      fun _ _ _ _ same => ⟨rfl, rfl, same.1, congrArg (· + 1) same.2⟩, fun _ _ _ _ same => same⟩
  · exact absurd rfl other

/-- A request to each of three hosts; the second one is not over TLS. -/
def requests : List Request :=
  [requestTo "https" "a.example", requestTo "http" "b.example", requestTo "https" "c.example"]

/-- Five turns for each of them, the second one last, and one more for the first. -/
def firstTurns : List Nat := [0, 2, 1, 0, 2, 1, 0, 2, 1, 0, 2, 1, 0, 2, 1, 0]

/-- Two of the three responses fail the check, one right after the other. -/
theorem findings_eq :
    (Batch.start guarded.chain requests {}).findings guarded.chain bareServer inspector manager.handle
        (firstTurns ++ [2, 1, 1]) =
      [⟨"a.example", .failure .noCertificates⟩, ⟨"c.example", .failure .noCertificates⟩,
        ⟨"b.example", .success .insecureConnection⟩] := rfl

theorem found?_third :
    ((Batch.start guarded.chain requests {}).run guarded.chain bareServer firstTurns).found? inspector
      manager.handle 2 = some ⟨"c.example", .failure .noCertificates⟩ := rfl

/-- The second failure is one of the same streak, so there need not be a line about it; it is refused all the same. The
desk might have been failing from the start, and the executions would have come equally far. -/
theorem suppressed_failure_is_refused :
    (guarded.executeAll bareServer requests {}).1 = (guarded.executeEach bareServer requests {}).1 ∧
      (∃ result, ((Batch.start guarded.chain requests {}).run guarded.chain bareServer
          (firstTurns ++ [2, 1, 1])).executions[1]? = some (.finished result) ∧
        ∀ desk, (guarded.execute bareServer (requestTo "http" "b.example") desk).1 = result) ∧
      (∃ sent, ledger.lines ((Batch.start guarded.chain requests {}).run guarded.chain bareServer
          (firstTurns ++ [2, 1, 1])).state = ledger.lines {} ++ sent ∧ 1 ≤ sent.length ∧ sent.length ≤ 2) ∧
      ((Batch.start guarded.chain requests {}).run guarded.chain bareServer
          (firstTurns ++ [2, 1, 1])).executions[2]? =
        some (.finished (.error (.certificateTransparency "c.example" FailureReason.noCertificates.message))) ∧
      ((Batch.start guarded.chain requests {}).run guarded.chain bareServer (firstTurns ++ [2, 1, 1])).executions =
        ((Batch.start guarded.chain requests { isFailing := true }).run guarded.chain bareServer
          (firstTurns ++ [2, 1, 1])).executions := by
  obtain ⟨-, apart, steady, shared⟩ := guarded.same_results_in_any_order bareServer requests {}
  obtain ⟨counted, refused, unseen⟩ := shared inspector manager.handle manager.debouncer ledger shares_guarded
  refine ⟨(steady steady_guarded).1, ?_, ?_, ?_, ?_⟩
  · obtain ⟨-, -, ends, alone⟩ := apart (firstTurns ++ [2, 1, 1]) 1 (requestTo "http" "b.example") rfl
    obtain ⟨result, ended⟩ := ends (by decide)
    exact ⟨result, ended, alone steady_guarded result ended⟩
  · obtain ⟨sent, lines_eq, some_line, few_lines⟩ := counted (firstTurns ++ [2, 1, 1])
    rw [findings_eq] at some_line few_lines
    exact ⟨sent, lines_eq, some_line rfl ⟨_, List.mem_cons_self, rfl⟩, few_lines⟩
  · exact refused rfl firstTurns 2 [1, 1] "c.example" .noCertificates found?_third
  · exact unseen Alike hides (fun _ _ _ _ same => ⟨rfl, same⟩) (fun _ mem other => respects_of_ne mem other)
      (fun _ _ _ same => ⟨rfl, same⟩) { isFailing := true } ⟨rfl, rfl⟩ (firstTurns ++ [2, 1, 1])

end Desk

end Transparency
