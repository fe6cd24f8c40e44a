import Transparency.Proofs.Client.Enforcement
import Transparency.Proofs.Manager.Reporting

/-!
# Executing by steps

Taken one right after another, the steps of an execution are what `Client.execute` does (`Execution.complete_start`).
Taken with other code in between, each step meets the state that the other code left; `Execution.along` is the
execution after a step in each of some states. It is finished after so many steps, whatever the states are
(`Execution.isSome_along`).

States may be *alike* to everything that a client works with (`Client.Respects`); then a step comes equally far in them,
and what it leaves is alike again (`Execution.step_congr`). A client is *steady* if all states are alike to it: its
entries and its transport answer by what they are handed. A finished execution of a steady client has the result that it
would have had alone, in any state (`Execution.complete_of_along`).
-/

namespace Transparency

variable {σ : Type} [Journal σ]

namespace Execution

variable {chain : Chain σ} {transport : Transport σ}

omit [Journal σ] in
theorem eq_finished {execution : Execution σ} {result : Except Error Response}
    (ended : execution.result? = some result) : execution = finished result := by
  cases execution with
  | finished => rw [Option.some.inj ended]
  | requesting | sending | responding | notifying => cases ended

/-! ## Without interruption -/

theorem complete_finished (result : Except Error Response) (s : σ) :
    (finished result).complete chain transport s = (result, s) := by
  rw [complete]
  rfl

/-- An unfinished execution goes on with one step. -/
theorem complete_step {execution : Execution σ} (unfinished : execution.result? = none) (s : σ) :
    execution.complete chain transport s =
      (execution.step chain transport s).1.complete chain transport (execution.step chain transport s).2.2 := by
  rw [complete]
  split
  · rename_i finished
    cases unfinished.symm.trans finished
  · rfl

theorem complete_responding (request : Request) :
    ∀ (rest : Chain σ) (response : Response) (s : σ),
      (responding rest request response).complete chain transport s =
        match rest.processResponse request response s with
        | (.ok (), response, s) => (.ok response, s)
        | (.error error, _, s) => (.error error, s)
  | [], response, s => by
    rw [complete_step rfl, step, complete_finished]
    rfl
  | entry :: rest, response, s => by
    have ih := complete_responding request rest
    rw [complete_step rfl, step, Chain.processResponse]
    split
    · rcases entry.afterResponse request response s with ⟨error | ⟨⟩, left, t⟩
      · exact complete_finished _ t
      · exact ih left t
    · exact ih response s

theorem complete_notifying (request : Request) (error : Error) :
    ∀ (rest : Chain σ) (s : σ),
      (notifying rest request error).complete chain transport s = (.error error, rest.notifyError request error s)
  | [], s => by
    rw [complete_step rfl, step, complete_finished]
    rfl
  | entry :: rest, s => by
    rw [complete_step rfl, step, Chain.notifyError]
    exact complete_notifying request error rest _

theorem complete_sending (client : Client σ) (request : Request) (s : σ) :
    (sending request).complete client.chain transport s = client.exchange transport request s := by
  rw [complete_step rfl, step, Client.exchange]
  rcases transport request s with ⟨error | response, t⟩
  · exact complete_notifying request error client.chain t
  · exact complete_responding request client.chain response t

theorem complete_requesting (client : Client σ) :
    ∀ (rest : Chain σ) (request : Request) (s : σ),
      (requesting rest request).complete client.chain transport s =
        match rest.processRequest request s with
        | (.abort reason, request, s) => Client.giveUp request reason s
        | (.mock response, _, s) => (.ok response, s)
        | (_, request, s) => client.exchange transport request s
  | [], request, s => by
    rw [complete_step rfl, step, Chain.processRequest]
    exact complete_sending client request s
  | entry :: rest, request, s => by
    have ih := complete_requesting client rest
    rw [complete_step rfl, step, Chain.processRequest]
    split
    · rcases entry.beforeRequest request s with ⟨_ | reason | response | milliseconds, left, t⟩
      · exact ih left t
      · exact complete_finished _ _
      · exact complete_finished _ t
      · exact ih left _
    · exact ih request s

/-- **The steps of an execution, one right after another, are the execution.** -/
theorem complete_start (client : Client σ) (transport : Transport σ) (request : Request) (s : σ) :
    (requesting client.chain request).complete client.chain transport s = client.execute transport request s :=
  complete_requesting client client.chain request s

/-! ## With other code in between -/

/-- The execution after a step in each of some states. -/
def along (chain : Chain σ) (transport : Transport σ) : List σ → Execution σ → Execution σ
  | [], execution => execution
  | s :: states, execution => along chain transport states (execution.step chain transport s).1

/-- A finished execution stays finished. -/
@[simp] theorem along_finished (states : List σ) (result : Except Error Response) :
    along chain transport states (finished result) = finished result := by
  induction states with
  | nil => rfl
  | cons s states ih => exact ih

/-- **After so many steps an execution is finished**, in whatever states it takes them. -/
theorem isSome_along : ∀ {states : List σ} {execution : Execution σ},
    execution.stepsLeft chain.length ≤ states.length →
      (along chain transport states execution).result?.isSome = true
  | [], execution, enough => by
    cases execution with
    | finished result => rfl
    | requesting | sending | responding | notifying => cases enough
  | s :: states, execution, enough => by
    rcases ended : execution.result? with _ | result
    · have nearer := stepsLeft_step_lt chain transport execution s ended
      rw [List.length_cons] at enough
      have enough : (execution.step chain transport s).1.stepsLeft chain.length ≤ states.length := by omega
      rw [along]
      exact isSome_along enough
    · rw [eq_finished ended, along_finished]
      rfl

end Execution

/-! ## What is alike -/

omit [Journal σ] in
/-- An interceptor that does not tell some states apart: it answers the same in states that are alike, and leaves
states that are alike. -/
structure Interceptor.Respects (interceptor : Interceptor σ) (alike : σ → σ → Prop) : Prop where
  accepts : ∀ request s t, alike s t → interceptor.accepts request s = interceptor.accepts request t
  beforeRequest : ∀ request s t, alike s t →
    (interceptor.beforeRequest request s).1 = (interceptor.beforeRequest request t).1 ∧
      (interceptor.beforeRequest request s).2.1 = (interceptor.beforeRequest request t).2.1 ∧
      alike (interceptor.beforeRequest request s).2.2 (interceptor.beforeRequest request t).2.2
  afterResponse : ∀ request response s t, alike s t →
    (interceptor.afterResponse request response s).1 = (interceptor.afterResponse request response t).1 ∧
      (interceptor.afterResponse request response s).2.1 = (interceptor.afterResponse request response t).2.1 ∧
      alike (interceptor.afterResponse request response s).2.2 (interceptor.afterResponse request response t).2.2
  onError : ∀ request error s t, alike s t →
    alike (interceptor.onError request error s) (interceptor.onError request error t)

omit [Journal σ] in
/-- A verifier that does not tell some states apart. -/
def Verifier.Respects (verifier : Verifier σ) (alike : σ → σ → Prop) : Prop :=
  ∀ host certificate s t, alike s t →
    (verifier.verify host certificate s).1 = (verifier.verify host certificate t).1 ∧
      alike (verifier.verify host certificate s).2 (verifier.verify host certificate t).2

omit [Journal σ] in
/-- A network that does not tell some states apart. -/
def Transport.Respects (transport : Transport σ) (alike : σ → σ → Prop) : Prop :=
  ∀ request s t, alike s t → (transport request s).1 = (transport request t).1 ∧
    alike (transport request s).2 (transport request t).2

/-- Nothing that a client works with tells some states apart. -/
structure Client.Respects (client : Client σ) (transport : Transport σ) (alike : σ → σ → Prop) : Prop where
  note : ∀ note s t, alike s t → alike (Journal.record note s) (Journal.record note t)
  chain : ∀ entry ∈ client.chain, entry.toInterceptor.Respects alike
  transport : transport.Respects alike

/-- An inspector answers by the response and its verifier; it never looks at what it reports to. -/
theorem Inspector.respects {inspector : Inspector σ} {alike : σ → σ → Prop}
    (note : ∀ note s t, alike s t → alike (Journal.record note s) (Journal.record note t))
    (verifier : inspector.verifier.Respects alike)
    (report : ∀ host outcome s t, alike s t →
      alike (inspector.report host outcome s) (inspector.report host outcome t)) :
    inspector.toInterceptor.Respects alike where
  accepts _ _ _ _ := rfl
  beforeRequest _ _ _ same := ⟨rfl, rfl, same⟩
  afterResponse request response s t same := by
    have evaluated : (inspector.evaluate response s).1 = (inspector.evaluate response t).1 ∧
        alike (inspector.evaluate response s).2 (inspector.evaluate response t).2 := by
      rw [Inspector.evaluate, Inspector.evaluate]
      split
      · exact ⟨rfl, same⟩
      · split
        · exact verifier _ _ s t same
        · exact ⟨rfl, same⟩
    obtain ⟨outcome_eq, same⟩ := evaluated
    refine ⟨congrArg (inspector.ruling response.host) outcome_eq, rfl, ?_⟩
    have noted := note ⟨.trace, "CT verification", [("host", response.host),
      ("outcome", (inspector.evaluate response t).1.message)]⟩ _ _ same
    have reported := report response.host (inspector.evaluate response t).1 _ _ noted
    simp only [Inspector.toInterceptor, Inspector.inspect, outcome_eq]
    exact reported
  onError _ _ _ _ same := same

/-- A logger writes notes, and answers by what it is handed. -/
theorem RequestLogger.respects {alike : σ → σ → Prop}
    (note : ∀ note s t, alike s t → alike (Journal.record note s) (Journal.record note t)) (logger : RequestLogger) :
    (logger.toInterceptor : Interceptor σ).Respects alike where
  accepts _ _ _ _ := rfl
  beforeRequest _ _ _ same := ⟨rfl, rfl, note _ _ _ same⟩
  afterResponse _ _ _ _ same := by
    refine ⟨rfl, rfl, ?_⟩
    simp only [toInterceptor]
    split
    · exact note _ _ _ (note _ _ _ same)
    · exact note _ _ _ same
  onError _ _ _ _ same := note _ _ _ same

namespace Execution

variable {client : Client σ} {transport : Transport σ} {alike : σ → σ → Prop}

/-- A step comes as far in a state as in another that is alike, and leaves states that are alike. -/
theorem step_congr (respects : client.Respects transport alike) {execution : Execution σ}
    (within : execution.rest ⊆ client.chain) {s t : σ} (same : alike s t) :
    (execution.step client.chain transport s).1 = (execution.step client.chain transport t).1 ∧
      alike (execution.step client.chain transport s).2.2 (execution.step client.chain transport t).2.2 := by
  cases execution with
  | requesting rest request =>
    rcases rest with _ | ⟨entry, rest⟩
    · exact ⟨rfl, same⟩
    · have blind := respects.chain entry (List.cons_subset.mp within).1
      have asked := blind.beforeRequest request s t same
      rw [step, step, blind.accepts request s t same]
      generalize entry.beforeRequest request s = here at asked ⊢
      generalize entry.beforeRequest request t = there at asked ⊢
      obtain ⟨answer, left, u⟩ := here
      obtain ⟨_, _, v⟩ := there
      obtain ⟨rfl, rfl, later⟩ := asked
      split
      · cases answer with
        | proceed | mock => exact ⟨rfl, later⟩
        | abort | delay => exact ⟨rfl, respects.note _ u v later⟩
      · exact ⟨rfl, same⟩
  | sending request =>
    have sent := respects.transport request s t same
    rw [step, step]
    generalize transport request s = here at sent ⊢
    generalize transport request t = there at sent ⊢
    obtain ⟨answer, u⟩ := here
    obtain ⟨_, v⟩ := there
    obtain ⟨rfl, later⟩ := sent
    cases answer <;> exact ⟨rfl, later⟩
  | responding rest request response =>
    rcases rest with _ | ⟨entry, rest⟩
    · exact ⟨rfl, same⟩
    · have blind := respects.chain entry (List.cons_subset.mp within).1
      have given := blind.afterResponse request response s t same
      rw [step, step, blind.accepts request s t same]
      generalize entry.afterResponse request response s = here at given ⊢
      generalize entry.afterResponse request response t = there at given ⊢
      obtain ⟨answer, left, u⟩ := here
      obtain ⟨_, _, v⟩ := there
      obtain ⟨rfl, rfl, later⟩ := given
      split
      · rcases answer with _ | ⟨⟩ <;> exact ⟨rfl, later⟩
      · exact ⟨rfl, same⟩
  | notifying rest request error =>
    rcases rest with _ | ⟨entry, rest⟩
    · exact ⟨rfl, same⟩
    · have blind := respects.chain entry (List.cons_subset.mp within).1
      rw [step, step, blind.accepts request s t same]
      refine ⟨rfl, ?_⟩
      show alike (if entry.accepts request t then _ else s) (if entry.accepts request t then _ else t)
      split
      · exact blind.onError request error s t same
      · exact same
  | finished => exact ⟨rfl, same⟩

end Execution

/-! ## Answers that do not depend on the state -/

omit [Journal σ] in
/-- An interceptor that answers by what it is handed. Its calls may still change the state. -/
def Interceptor.Steady (interceptor : Interceptor σ) : Prop := interceptor.Respects fun _ _ => True

/-- An inspector answers by the response, whatever it reports to and whatever was reported before. -/
theorem Inspector.steady {inspector : Inspector σ} (ignores : inspector.verifier.IgnoresState) :
    inspector.toInterceptor.Steady :=
  inspector.respects (fun _ _ _ _ => trivial) (fun host certificate s t _ => ⟨ignores host certificate s t, trivial⟩)
    fun _ _ _ _ _ => trivial

/-- A client and a network whose answers do not depend on the state. Of an inspector only the verifier has to be such;
its reports may go anywhere. -/
structure Client.Steady (client : Client σ) (transport : Transport σ) : Prop where
  chain : ∀ entry ∈ client.chain, entry.toInterceptor.Steady ∨
    ∃ inspector : Inspector σ, inspector.verifier.IgnoresState ∧ entry.toInterceptor = inspector.toInterceptor
  transport : ∀ request s t, (transport request s).1 = (transport request t).1

theorem Client.Steady.respects {client : Client σ} {transport : Transport σ} (steady : client.Steady transport) :
    client.Respects transport fun _ _ => True where
  note _ _ _ _ := trivial
  chain entry mem := by
    obtain steady | ⟨inspector, ignores, same⟩ := steady.chain entry mem
    · exact steady
    · exact same ▸ Inspector.steady ignores
  transport request s t _ := ⟨steady.transport request s t, trivial⟩

namespace Execution

variable {client : Client σ} {transport : Transport σ}

/-- **Interruptions do not change the result** of an execution whose client is steady. -/
theorem complete_of_along (steady : client.Steady transport) (s : σ) :
    ∀ {states : List σ} {execution : Execution σ} {result : Except Error Response},
      execution.rest ⊆ client.chain → along client.chain transport states execution = finished result →
      (execution.complete client.chain transport s).1 = result := by
  intro states
  induction states generalizing s with
  | nil =>
    rintro _ result _ rfl
    rw [complete_finished]
  | cons met states ih =>
    intro execution result within ends
    rcases ended : execution.result? with _ | early
    · -- the step that was taken in another state leads to the same execution
      rw [along, (step_congr steady.respects within (trivial : True)).1] at ends
      rw [complete_step ended]
      exact ih _ (rest_step within s) ends
    · rw [eq_finished ended, along_finished] at ends
      rw [eq_finished ended, complete_finished]
      exact finished.inj ends

theorem execute_of_along (steady : client.Steady transport) {states : List σ} {request : Request}
    {result : Except Error Response}
    (ends : along client.chain transport states (requesting client.chain request) = finished result) (s : σ) :
    (client.execute transport request s).1 = result := by
  rw [← complete_start]
  exact complete_of_along steady s (List.Subset.refl _) ends

end Execution

end Transparency
