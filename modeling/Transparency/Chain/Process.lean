import Transparency.Chain.Basic

/-!
# Running a chain

A request goes through the entries of a chain in order, each seeing what those before it left, until one of them
answers it or gives it up. A response goes through the entries in order until one refuses it. An error of sending is
told to all of them. An entry that does not accept the request is passed over each time; the response is accepted or
not by the request that it answers.

Delays are served on the way: they are noted and go no further than the chain.
-/

namespace Transparency

namespace Chain

variable {σ : Type}

/-- Sends a request through the chain. The answer is never a delay. -/
def processRequest [Journal σ] : Chain σ → Request → σ → Action × Request × σ
  | [], request, s => (.proceed, request, s)
  | entry :: rest, request, s =>
    if entry.accepts request s then
      match entry.beforeRequest request s with
      | (.proceed, request, s) => processRequest rest request s
      | (.delay milliseconds, request, s) =>
        processRequest rest request <|
          note .debug "Delaying request" [("interceptor", entry.name), ("delay_ms", toString milliseconds)] s
      | answer => answer
    else processRequest rest request s

/-- Sends a response through the chain. -/
def processResponse : Chain σ → Request → Response → σ → Except Error Unit × Response × σ
  | [], _, response, s => (.ok (), response, s)
  | entry :: rest, request, response, s =>
    if entry.accepts request s then
      match entry.afterResponse request response s with
      | (.ok (), response, s) => processResponse rest request response s
      | refusal => refusal
    else processResponse rest request response s

/-- Tells the chain of an error of sending. -/
def notifyError : Chain σ → Request → Error → σ → σ
  | [], _, _, s => s
  | entry :: rest, request, error, s =>
    notifyError rest request error (if entry.accepts request s then entry.onError request error s else s)

theorem processRequest_ne_delay [Journal σ] (milliseconds : Nat) :
    ∀ (chain : Chain σ) (request : Request) (s : σ), (chain.processRequest request s).1 ≠ .delay milliseconds
  | [], _, _ => nofun
  | entry :: rest, request, s => by
    have ih := processRequest_ne_delay milliseconds rest
    rw [processRequest]
    split
    · rcases entry.beforeRequest request s with ⟨_ | _ | _ | _, _, _⟩
      · exact ih _ _
      · exact nofun
      · exact nofun
      · exact ih _ _
    · exact ih _ _

/-- A response that passes a chain passes the first entry, or is passed over by it, and then passes the rest. -/
theorem processResponse_cons_ok {entry : Entry σ} {rest : Chain σ} {request : Request} {response r : Response}
    {s s' : σ} (passed : processResponse (entry :: rest) request response s = (.ok (), r, s')) :
    (entry.accepts request s = true ∧ ∃ left t, entry.afterResponse request response s = (.ok (), left, t) ∧
      rest.processResponse request left t = (.ok (), r, s')) ∨
    (entry.accepts request s = false ∧ rest.processResponse request response s = (.ok (), r, s')) := by
  rw [processResponse] at passed
  split at passed
  next accepts =>
    rcases left_eq : entry.afterResponse request response s with ⟨error | ⟨⟩, left, t⟩
    · rw [left_eq] at passed
      cases passed
    · rw [left_eq] at passed
      exact .inl ⟨accepts, left, t, rfl, passed⟩
  next ignores => exact .inr ⟨Bool.eq_false_iff.mpr ignores, passed⟩

end Chain

end Transparency
