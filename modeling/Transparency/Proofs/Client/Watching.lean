import Transparency.Client.Basic
import Transparency.Inspector
import Transparency.Proofs.Chain.Composition

/-!
# Watching a client

To say how often an entry of a chain runs, and what an inspector reports, the client is run on a state that also keeps
a list of events, the first one first. The entries of a *watched* client are those of the client, and each of them
writes down that it is called; the reports of an inspector and the sending of the request are written down as well. It
is the definitions of chains and clients themselves that run, only their entries and the transport are others.

`execute_watched`: watching changes neither the result nor the state, and does nothing to the list but add to it.
What it adds for one response is the subject of `responseEvents`.
-/

namespace Transparency

variable {σ : Type}

/-- What happens while a request is executed. Entries are named by their place in the chain. -/
inductive Event where
  /-- an entry is given the request -/
  | before (place : Nat) (request : Request)
  /-- the request is sent, with this result -/
  | sent (request : Request) (result : Except Error Response)
  /-- an entry is given the response to the request -/
  | after (place : Nat) (request : Request) (response : Response)
  /-- an entry is told of the error of sending the request -/
  | failed (place : Nat) (request : Request) (error : Error)
  /-- an inspector reports an outcome -/
  | reported (place : Nat) (host : String) (outcome : Outcome)

namespace Event

/-- Whether the event belongs to the sending of the request. -/
def isSending : Event → Bool
  | sent .. => true
  | _ => false

/-- Whether the event is an entry's work on the response, or a report that it makes. -/
def isInspection (place : Nat) : Event → Bool
  | after site .. => site = place
  | reported site .. => site = place
  | _ => false

end Event

/-- A state, and the events that were seen. -/
abbrev Watched (σ : Type) := σ × List Event

/-- An entry of a chain: an inspector, or anything else. -/
inductive Part (σ : Type) where
  | checker (inspector : Inspector σ) (handle : Handle)
  | other (entry : Entry σ)

/-- The interceptor on a state with something beside it that it leaves alone. -/
def Interceptor.beside {β : Type} (interceptor : Interceptor σ) : Interceptor (σ × β) where
  name := interceptor.name
  priority := interceptor.priority
  accepts request s := interceptor.accepts request s.1
  beforeRequest request s :=
    let (action, request, inner) := interceptor.beforeRequest request s.1
    (action, request, inner, s.2)
  afterResponse request response s :=
    let (result, response, inner) := interceptor.afterResponse request response s.1
    (result, response, inner, s.2)
  onError request error s := (interceptor.onError request error s.1, s.2)

/-- The interceptor with each call of it written down first. -/
def Interceptor.announced (place : Nat) (interceptor : Interceptor (Watched σ)) : Interceptor (Watched σ) where
  name := interceptor.name
  priority := interceptor.priority
  accepts := interceptor.accepts
  beforeRequest request s := interceptor.beforeRequest request (s.1, s.2 ++ [.before place request])
  afterResponse request response s :=
    interceptor.afterResponse request response (s.1, s.2 ++ [.after place request response])
  onError request error s := interceptor.onError request error (s.1, s.2 ++ [.failed place request error])

/-- The verifier on a state with something beside it. -/
def Verifier.beside {β : Type} (verifier : Verifier σ) : Verifier (σ × β) where
  verify host certificate s :=
    let (outcome, inner) := verifier.verify host certificate s.1
    (outcome, inner, s.2)

/-- The inspector with each report of it written down. -/
def Inspector.watched (place : Nat) (inspector : Inspector σ) : Inspector (Watched σ) where
  verifier := inspector.verifier.beside
  policy := inspector.policy
  report host outcome s := (inspector.report host outcome s.1, s.2 ++ [.reported place host outcome])
  valid := inspector.valid

theorem evaluate_watched (inspector : Inspector σ) (place : Nat) (response : Response) (s : Watched σ) :
    (inspector.watched place).evaluate response s =
      ((inspector.evaluate response s.1).1, (inspector.evaluate response s.1).2, s.2) := by
  rw [Inspector.evaluate, Inspector.evaluate]
  by_cases covered : inspector.policy.covers response.host
  · rcases shown : response.certificate with _ | certificate <;>
      simp [Inspector.watched, Verifier.beside, covered]
  · simp [Inspector.watched, covered]

/-- The transport with each sending of a request written down. -/
def Transport.watched (transport : Transport σ) : Transport (Watched σ) := fun request s =>
  let (result, inner) := transport request s.1
  (result, inner, s.2 ++ [.sent request result])

variable [Journal σ]

namespace Part

/-- The entry as it stands in the chain. -/
def toEntry : Part σ → Entry σ
  | checker inspector handle => { inspector.toInterceptor with handle }
  | other entry => entry

/-- The entry as it stands in the watched chain. -/
def watched (place : Nat) : Part σ → Entry (Watched σ)
  | checker inspector handle => { (inspector.watched place).toInterceptor.announced place with handle }
  | other entry => { entry.toInterceptor.beside.announced place with handle := entry.handle }

/-- What an entry's work on a response adds to the events. -/
def inspection (place : Nat) (request : Request) (response : Response) (s : σ) : Part σ → List Event
  | checker inspector _ =>
    [.after place request response, .reported place response.host (inspector.evaluate response s).1]
  | other _ => [.after place request response]

end Part

/-- The chain that parts make up. -/
def assemble (parts : List (Part σ)) : Chain σ := parts.map Part.toEntry

/-- The watched chain, with its places counted from some number on. -/
def watchFrom : Nat → List (Part σ) → Chain (Watched σ)
  | _, [] => []
  | place, part :: rest => part.watched place :: watchFrom (place + 1) rest

/-- The client with a chain of parts. -/
def clientOf (config : ClientConfig) (parts : List (Part σ)) : Client σ := ⟨config, assemble parts⟩

/-- The same client, watched. -/
def watchedClient (config : ClientConfig) (parts : List (Part σ)) : Client (Watched σ) := ⟨config, watchFrom 0 parts⟩

/-- What happens while a client executes a request. -/
def eventsOf (config : ClientConfig) (parts : List (Part σ)) (transport : Transport σ) (request : Request) (s : σ) :
    List Event :=
  ((watchedClient config parts).execute transport.watched request (s, [])).2.2

/-! ## One entry -/

theorem inspect_watched (inspector : Inspector σ) (place : Nat) (response : Response) (s : Watched σ) :
    (inspector.watched place).inspect response s =
      ((inspector.inspect response s.1).1, (inspector.inspect response s.1).2,
        s.2 ++ [.reported place response.host (inspector.evaluate response s.1).1]) := by
  simp only [Inspector.inspect, evaluate_watched]
  rfl

namespace Part

theorem accepts_watched (part : Part σ) (place : Nat) (request : Request) (s : Watched σ) :
    (part.watched place).accepts request s = part.toEntry.accepts request s.1 := by
  cases part <;> rfl

theorem name_watched (part : Part σ) (place : Nat) : (part.watched place).name = part.toEntry.name := by
  cases part <;> rfl

theorem beforeRequest_watched (part : Part σ) (place : Nat) (request : Request) (s : Watched σ) :
    (part.watched place).beforeRequest request s =
      ((part.toEntry.beforeRequest request s.1).1, (part.toEntry.beforeRequest request s.1).2.1,
        (part.toEntry.beforeRequest request s.1).2.2, s.2 ++ [.before place request]) := by
  cases part <;> rfl

theorem afterResponse_watched (part : Part σ) (place : Nat) (request : Request) (response : Response)
    (s : Watched σ) :
    (part.watched place).afterResponse request response s =
      ((part.toEntry.afterResponse request response s.1).1, (part.toEntry.afterResponse request response s.1).2.1,
        (part.toEntry.afterResponse request response s.1).2.2,
        s.2 ++ part.inspection place request response s.1) := by
  cases part with
  | checker inspector handle =>
    simp only [watched, toEntry, Interceptor.announced, Inspector.toInterceptor, inspect_watched, inspection,
      List.append_assoc, List.cons_append, List.nil_append]
  | other entry => rfl

theorem onError_watched (part : Part σ) (place : Nat) (request : Request) (error : Error) (s : Watched σ) :
    (part.watched place).onError request error s =
      (part.toEntry.onError request error s.1, s.2 ++ [.failed place request error]) := by
  cases part <;> rfl

end Part

/-! ## The three ways through a chain -/

/-- A request goes through the first entry, and if that lets it go on, through the rest. -/
theorem processRequest_cons (entry : Entry σ) (rest : Chain σ) (request : Request) (s : σ) :
    Chain.processRequest (entry :: rest) request s =
      match Chain.processRequest [entry] request s with
      | (.proceed, request, s) => Chain.processRequest rest request s
      | answer => answer :=
  Chain.processRequest_append [entry] rest request s

/-- What happens while a request goes through a chain. -/
def requestEvents : Nat → List (Part σ) → Request → σ → List Event
  | _, [], _, _ => []
  | place, part :: rest, request, s =>
    if part.toEntry.accepts request s then
      .before place request :: match Chain.processRequest [part.toEntry] request s with
        | (.proceed, request, s) => requestEvents (place + 1) rest request s
        | _ => []
    else requestEvents (place + 1) rest request s

theorem requestEvents_other (place : Nat) (entry : Entry σ) (rest : List (Part σ)) (request : Request) (s : σ) :
    requestEvents place (.other entry :: rest) request s =
      if entry.accepts request s then
        .before place request :: match Chain.processRequest [entry] request s with
          | (.proceed, request, s) => requestEvents (place + 1) rest request s
          | _ => []
      else requestEvents (place + 1) rest request s := rfl

/-- What happens while a response goes through a chain. -/
def responseEvents : Nat → List (Part σ) → Request → Response → σ → List Event
  | _, [], _, _, _ => []
  | place, part :: rest, request, response, s =>
    if part.toEntry.accepts request s then
      part.inspection place request response s ++ match part.toEntry.afterResponse request response s with
        | (.ok (), response, s) => responseEvents (place + 1) rest request response s
        | _ => []
    else responseEvents (place + 1) rest request response s

/-- What happens while a chain is told of an error. -/
def errorEvents : Nat → List (Part σ) → Request → Error → σ → List Event
  | _, [], _, _, _ => []
  | place, part :: rest, request, error, s =>
    if part.toEntry.accepts request s then
      .failed place request error :: errorEvents (place + 1) rest request error (part.toEntry.onError request error s)
    else errorEvents (place + 1) rest request error s

theorem processRequest_single_watched (part : Part σ) (place : Nat) (request : Request) (s : Watched σ) :
    Chain.processRequest [part.watched place] request s =
      ((Chain.processRequest [part.toEntry] request s.1).1, (Chain.processRequest [part.toEntry] request s.1).2.1,
        (Chain.processRequest [part.toEntry] request s.1).2.2,
        s.2 ++ if part.toEntry.accepts request s.1 then [.before place request] else []) := by
  simp only [Chain.processRequest, part.accepts_watched, part.beforeRequest_watched, part.name_watched]
  by_cases accepts : part.toEntry.accepts request s.1 = true
  · simp only [accepts, if_true]
    rcases part.toEntry.beforeRequest request s.1 with ⟨_ | _ | _ | _, _, _⟩ <;> rfl
  · simp [accepts]

theorem processRequest_watched (parts : List (Part σ)) :
    ∀ (place : Nat) (request : Request) (s : Watched σ),
      (watchFrom place parts).processRequest request s =
        (((assemble parts).processRequest request s.1).1, ((assemble parts).processRequest request s.1).2.1,
          ((assemble parts).processRequest request s.1).2.2, s.2 ++ requestEvents place parts request s.1) := by
  induction parts with
  | nil =>
    intro place request s
    simp [watchFrom, assemble, Chain.processRequest, requestEvents]
  | cons part rest ih =>
    intro place request s
    have chain_eq : assemble (part :: rest) = part.toEntry :: assemble rest := rfl
    rw [chain_eq, watchFrom, processRequest_cons, processRequest_cons part.toEntry, requestEvents,
      processRequest_single_watched]
    by_cases accepts : part.toEntry.accepts request s.1 = true
    · simp only [accepts, if_true]
      rcases Chain.processRequest [part.toEntry] request s.1 with ⟨_ | _ | _ | _, request', s'⟩
      · simp [ih]
      all_goals simp
    · have passed_over : Chain.processRequest [part.toEntry] request s.1 = (.proceed, request, s.1) := by
        simp [Chain.processRequest, accepts]
      simp [passed_over, accepts, ih]

theorem processResponse_watched (parts : List (Part σ)) :
    ∀ (place : Nat) (request : Request) (response : Response) (s : Watched σ),
      (watchFrom place parts).processResponse request response s =
        (((assemble parts).processResponse request response s.1).1,
          ((assemble parts).processResponse request response s.1).2.1,
          ((assemble parts).processResponse request response s.1).2.2,
          s.2 ++ responseEvents place parts request response s.1) := by
  induction parts with
  | nil =>
    intro place request response s
    simp [watchFrom, assemble, Chain.processResponse, responseEvents]
  | cons part rest ih =>
    intro place request response s
    have chain_eq : assemble (part :: rest) = part.toEntry :: assemble rest := rfl
    rw [chain_eq, watchFrom, Chain.processResponse, Chain.processResponse, responseEvents, part.accepts_watched,
      part.afterResponse_watched]
    by_cases accepts : part.toEntry.accepts request s.1 = true
    · simp only [accepts, if_true]
      rcases part.toEntry.afterResponse request response s.1 with ⟨error | ⟨⟩, response', s'⟩
      · simp
      · simp [ih]
    · simp only [accepts]
      exact ih (place + 1) request response s

theorem notifyError_watched (parts : List (Part σ)) :
    ∀ (place : Nat) (request : Request) (error : Error) (s : Watched σ),
      (watchFrom place parts).notifyError request error s =
        ((assemble parts).notifyError request error s.1, s.2 ++ errorEvents place parts request error s.1) := by
  induction parts with
  | nil =>
    intro place request error s
    simp [watchFrom, assemble, Chain.notifyError, errorEvents]
  | cons part rest ih =>
    intro place request error s
    have chain_eq : assemble (part :: rest) = part.toEntry :: assemble rest := rfl
    rw [chain_eq, watchFrom, Chain.notifyError, Chain.notifyError, errorEvents, part.accepts_watched,
      part.onError_watched]
    by_cases accepts : part.toEntry.accepts request s.1 = true
    · simp [accepts, ih]
    · simp [accepts, ih]

/-! ## A whole execution -/

/-- What happens while a client executes a request, by the phases of the execution. -/
def executionEvents (parts : List (Part σ)) (transport : Transport σ) (request : Request) (s : σ) : List Event :=
  requestEvents 0 parts request s ++
    match (assemble parts).processRequest request s with
    | (.abort _, _, _) => []
    | (.mock _, _, _) => []
    | (_, request, s) =>
      match transport request s with
      | (.ok response, s) => .sent request (.ok response) :: responseEvents 0 parts request response s
      | (.error error, s) => .sent request (.error error) :: errorEvents 0 parts request error s

theorem exchange_watched (config : ClientConfig) (parts : List (Part σ)) (transport : Transport σ)
    (request : Request) (s : Watched σ) :
    (watchedClient config parts).exchange transport.watched request s =
      (((clientOf config parts).exchange transport request s.1).1,
        ((clientOf config parts).exchange transport request s.1).2,
        s.2 ++ match transport request s.1 with
          | (.ok response, s) => .sent request (.ok response) :: responseEvents 0 parts request response s
          | (.error error, s) => .sent request (.error error) :: errorEvents 0 parts request error s) := by
  simp only [Client.exchange, watchedClient, clientOf, Transport.watched]
  rcases transport request s.1 with ⟨error | response, s'⟩
  · simp only [notifyError_watched, List.append_assoc, List.cons_append, List.nil_append]
  · simp only [processResponse_watched, List.append_assoc, List.cons_append, List.nil_append]
    rcases (assemble parts).processResponse request response s' with ⟨_ | ⟨⟩, _, _⟩ <;> rfl

/-- **Watching changes nothing.** A watched client gives the result of the client and leaves the state as the client
does, and adds to what was seen what happened by the phases of the execution. -/
theorem execute_watched (config : ClientConfig) (parts : List (Part σ)) (transport : Transport σ) (request : Request)
    (s : Watched σ) :
    (watchedClient config parts).execute transport.watched request s =
      (((clientOf config parts).execute transport request s.1).1,
        ((clientOf config parts).execute transport request s.1).2,
        s.2 ++ executionEvents parts transport request s.1) := by
  simp only [Client.execute, watchedClient, clientOf, processRequest_watched, executionEvents]
  rcases (assemble parts).processRequest request s.1 with ⟨_ | reason | response | milliseconds, request', s'⟩
  -- the first and the last of these go on to the transport, which finds the events of the request in place
  · have exchanged := exchange_watched config parts transport request' (s', s.2 ++ requestEvents 0 parts request s.1)
    rw [List.append_assoc] at exchanged
    exact exchanged
  · simp [Client.giveUp, note, Journal.record]
  · simp
  · have exchanged := exchange_watched config parts transport request' (s', s.2 ++ requestEvents 0 parts request s.1)
    rw [List.append_assoc] at exchanged
    exact exchanged

theorem eventsOf_eq (config : ClientConfig) (parts : List (Part σ)) (transport : Transport σ) (request : Request)
    (s : σ) : eventsOf config parts transport request s = executionEvents parts transport request s := by
  rw [eventsOf, execute_watched, List.nil_append]

end Transparency
