import Transparency.Proofs.Client.Interleaving

/-!
# What a client leaves alone

Much of the state may be no business of a client. If no interceptor of its chain changes what can be read off the state
there, and neither do notes and the transport, then no step does (`Execution.view_step`), whoever takes it and in
whatever order (`Batch.view_run`), and so working on any number of requests does not
(`Client.Untouched.view_executeAll`).

The interceptors of the library write notes. An inspector also calls its verifier, and reports; a report changes the
streak of the debouncer and writes to the sink (`Debouncer.view_report`). The verifier of the library writes a note at
most, so it leaves every debouncer alone (`PresenceVerifier.sparedBy`).
-/

namespace Transparency

variable {σ α : Type} [Journal σ] {view : σ → α}

omit [Journal σ] in
/-- Something that can be read off the state, and that an interceptor does not change. -/
abbrev Interceptor.Untouched (interceptor : Interceptor σ) (view : σ → α) : Prop :=
  interceptor.Moves fun s t => view t = view s

/-- Something that can be read off the state, and that a client does not change. -/
structure Client.Untouched (client : Client σ) (transport : Transport σ) (view : σ → α) : Prop where
  note : ∀ note s, view (Journal.record note s) = view s
  chain : ∀ entry ∈ client.chain, entry.toInterceptor.Untouched view
  transport : ∀ request s, view (transport request s).2 = view s

/-! ## The interceptors of the library -/

theorem RequestLogger.untouched (noted : ∀ note (s : σ), view (Journal.record note s) = view s)
    (logger : RequestLogger) : (logger.toInterceptor : Interceptor σ).Untouched view where
  beforeRequest _ s := noted _ s
  afterResponse _ response s := by
    simp only [RequestLogger.toInterceptor, note]
    split
    · exact (noted _ _).trans (noted _ s)
    · exact noted _ s
  onError _ _ s := noted _ s

/-- A report changes the streak, and there may be a line or a note about it. -/
theorem Debouncer.view_report {debouncer : Debouncer σ} (noted : ∀ note s, view (Journal.record note s) = view s)
    (set : ∀ failing s, view (debouncer.streak.set failing s) = view s)
    (sink : ∀ category line s, view (debouncer.sink category line s) = view s) (host : String) (outcome : Outcome)
    (s : σ) : view (debouncer.report host outcome s) = view s := by
  have flagged := set outcome.isFailure s
  rw [report, record]
  rcases failed : outcome.isFailure <;> rw [failed] at flagged <;> cases debouncer.streak.get s
  · exact flagged
  · exact (noted _ _).trans flagged
  · exact (sink _ _ _).trans flagged
  · exact flagged

/-- The verifier of the library does no more than write a note, and the note is no line. -/
theorem PresenceVerifier.view_verify
    (noted : ∀ note s, note.isLine = false → view (Journal.record note s) = view s) (verifier : PresenceVerifier)
    (host : String) (certificate : Bytes) (s : σ) :
    view (verifier.toVerifier.verify host certificate s).2 = view s := by
  rw [toVerifier]
  rcases read : Certificate.parse certificate with fault | parsed
  · simp only [read]
    exact noted _ s rfl
  · simp only [read]

/-- The verifier of the library leaves every debouncer alone. -/
theorem PresenceVerifier.sparedBy {debouncer : Debouncer σ} (ledger : debouncer.Ledger) (verifier : PresenceVerifier)
    (host : String) (certificate : Bytes) : ledger.SparedBy (verifier.toVerifier.verify host certificate) :=
  ⟨view_verify ledger.isFailing_note verifier host certificate,
    view_verify ledger.lines_note verifier host certificate⟩

theorem Inspector.untouched {inspector : Inspector σ} (noted : ∀ note s, view (Journal.record note s) = view s)
    (verified : ∀ host certificate s, view (inspector.verifier.verify host certificate s).2 = view s)
    (reported : ∀ host outcome s, view (inspector.report host outcome s) = view s) :
    inspector.toInterceptor.Untouched view where
  beforeRequest _ _ := rfl
  afterResponse _ response s := by
    have evaluated : view (inspector.evaluate response s).2 = view s := by
      rw [evaluate]
      split
      · rfl
      · split
        · exact verified _ _ s
        · rfl
    exact (reported _ _ _).trans ((noted _ _).trans evaluated)
  onError _ _ _ := rfl

/-! ## Steps and schedules -/

variable {client : Client σ} {transport : Transport σ}

/-- No step of an execution changes it. -/
theorem Execution.view_step (untouched : client.Untouched transport view) {execution : Execution σ}
    (within : execution.rest ⊆ client.chain) (s : σ) :
    view (execution.step client.chain transport s).2.2 = view s := by
  refine Execution.moves_step (fun s t => view t = view s) (fun _ => rfl) ?_ ?_ untouched.chain untouched.transport
    within s
  · exact fun first second => second.trans first
  · exact fun note s _ => untouched.note note s

namespace Batch

theorem view_turn (untouched : client.Untouched transport view) {batch : Batch σ}
    (within : batch.Within client.chain) (place : Nat) :
    view (batch.turn client.chain transport place).state = view batch.state := by
  rcases here : batch.executions[place]? with _ | execution
  · rw [turn_of_none here]
  · rw [turn_of_getElem? here]
    exact Execution.view_step untouched (within execution (List.mem_of_getElem? here)) batch.state

/-- Executions of the client do not change it, in whatever order they take their steps. -/
theorem view_run (untouched : client.Untouched transport view) (schedule : List Nat) :
    ∀ {batch : Batch σ}, batch.Within client.chain →
      view (batch.run client.chain transport schedule).state = view batch.state := by
  induction schedule with
  | nil => exact fun _ => rfl
  | cons place schedule ih =>
    intro batch within
    rw [run_cons, ih (within.turn transport place), view_turn untouched within place]

end Batch

/-- **Working on requests leaves it as it was.** -/
theorem Client.Untouched.view_executeAll (untouched : client.Untouched transport view) (requests : List Request)
    (s : σ) : view (client.executeAll transport requests s).2 = view s := by
  obtain ⟨schedule, ended⟩ := Batch.reaches_executeAll client transport requests s
  have kept := Batch.view_run untouched schedule (Batch.within_start requests s)
  rw [ended] at kept
  exact kept

end Transparency
