import Transparency.Chain.Process

/-!
# One chain after another

A chain that is made of two works as the two do one after the other, each on what the one before it left. What an entry
of the second chain gets to see, its filter included, is the same whether the chains are joined or not. A request that
the first chain does not let go on, and a response that it refuses, never reach the second; an error of sending always
does.
-/

namespace Transparency

namespace Chain

variable {σ : Type}

/-- A request goes through the second chain if the first lets it go on, as it left it. -/
theorem processRequest_append [Journal σ] (front back : Chain σ) (request : Request) (s : σ) :
    processRequest (front ++ back) request s =
      match front.processRequest request s with
      | (.proceed, request, s) => back.processRequest request s
      | answer => answer := by
  induction front generalizing request s with
  | nil => rfl
  | cons entry rest ih =>
    simp only [List.cons_append, processRequest]
    split
    · rcases entry.beforeRequest request s with ⟨_ | reason | response | milliseconds, left, t⟩
      · exact ih left t
      · rfl
      · rfl
      · exact ih left _
    · exact ih request s

/-- A response goes through the second chain if it passes the first, as that left it. -/
theorem processResponse_append (front back : Chain σ) (request : Request) (response : Response) (s : σ) :
    processResponse (front ++ back) request response s =
      match front.processResponse request response s with
      | (.ok (), response, s) => back.processResponse request response s
      | refusal => refusal := by
  induction front generalizing response s with
  | nil => rfl
  | cons entry rest ih =>
    simp only [List.cons_append, processResponse]
    split
    · rcases entry.afterResponse request response s with ⟨error | ⟨⟩, left, t⟩
      · rfl
      · exact ih left t
    · exact ih response s

/-- A response goes through the first entry, and if it passes that, through the rest. -/
theorem processResponse_cons (entry : Entry σ) (rest : Chain σ) (request : Request) (response : Response) (s : σ) :
    processResponse (entry :: rest) request response s =
      match processResponse [entry] request response s with
      | (.ok (), response, s) => rest.processResponse request response s
      | refusal => refusal :=
  processResponse_append [entry] rest request response s

/-- Both chains are told of an error. -/
theorem notifyError_append (front back : Chain σ) (request : Request) (error : Error) (s : σ) :
    notifyError (front ++ back) request error s =
      back.notifyError request error (front.notifyError request error s) := by
  induction front generalizing s with
  | nil => rfl
  | cons entry rest ih => exact ih _

end Chain

end Transparency
