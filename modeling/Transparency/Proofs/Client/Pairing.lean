import Transparency.Proofs.Client.Ending
import Transparency.Proofs.Client.Enforcement

/-!
# Calls in pairs

An entry that was given a request may count on being given the response, or told of the error, only if it accepts the
request as it was sent. Its filter is asked each time, and the entries after it may have rewritten the request; the
filter may also look at the state. So the condition under which calls pair up is about filters: on its second turn each
entry accepts what was sent if and only if it accepted, on its first turn, what was there (`Chain.FiltersAlike`). For
entries that look at the URL only this is so when no entry rewrites the URL (`Chain.filtersAlike_of_url`).

Each phase is compared with the first by an induction along the chain (`failed_eq_before`, `after_eq_before`).
`calls_pair_up` is the result about an execution.
-/

namespace Transparency

variable {σ : Type}

namespace Event

/-- The place of an entry that is given the request. -/
def before? : Event → Option Nat
  | before place _ => some place
  | _ => none

/-- The place of an entry that is given the response. -/
def after? : Event → Option Nat
  | after place _ _ => some place
  | _ => none

/-- The place of an entry that is told of the error. -/
def failed? : Event → Option Nat
  | failed place _ _ => some place
  | _ => none

end Event

/-- The entry at a place refuses the response, which passes those before it. -/
inductive Chain.RefusesAt (request : Request) (error : Error) : Chain σ → Nat → Response → σ → Prop where
  | here {entry : Entry σ} {rest : Chain σ} {response left : Response} {s t : σ}
    (accepts : entry.accepts request s = true)
    (refuses : entry.afterResponse request response s = (.error error, left, t)) :
    RefusesAt request error (entry :: rest) 0 response s
  | later {entry : Entry σ} {rest : Chain σ} {place : Nat} {response left : Response} {s t : σ}
    (passes : Chain.processResponse [entry] request response s = (.ok (), left, t))
    (further : RefusesAt request error rest place left t) :
    RefusesAt request error (entry :: rest) (place + 1) response s

namespace Chain

/-- Only an entry that accepts the request can refuse the response. -/
theorem exists_of_processResponse_error {entry : Entry σ} {request : Request} {response left : Response} {error : Error}
    {s t : σ} (refused : processResponse [entry] request response s = (.error error, left, t)) :
    entry.accepts request s = true ∧ ∃ left t, entry.afterResponse request response s = (.error error, left, t) := by
  rw [processResponse] at refused
  split at refused
  next accepts =>
    rcases answered : entry.afterResponse request response s with ⟨fault | ⟨⟩, met, v⟩
    · rw [answered] at refused
      cases refused
      exact ⟨accepts, _, _, rfl⟩
    · rw [answered] at refused
      cases refused
  next => cases refused

/-- The states in which the entries of a chain have their turns with a response. -/
def ResponseTurn (request : Request) (response : Response) (s : σ) (front : Chain σ) (t : σ) : Prop :=
  ∃ met, front.processResponse request response s = (.ok (), met, t)

theorem ResponseTurn.cons {entry : Entry σ} {front : Chain σ} {request : Request} {response met : Response}
    {s t u : σ} (passes : processResponse [entry] request response s = (.ok (), met, t))
    (turn : ResponseTurn request met t front u) : ResponseTurn request response s (entry :: front) u := by
  obtain ⟨left, passed⟩ := turn
  refine ⟨left, ?_⟩
  rw [processResponse_cons, passes]
  exact passed

end Chain

variable [Journal σ]

/-- On its second turn each entry of a chain accepts the request as it was sent, exactly if on its first turn it
accepted the request as it was then. `turn front v` says that the entry after the entries `front` may have its second
turn in the state `v`. -/
def Chain.FiltersAlike (chain : Chain σ) (request : Request) (s : σ) (sent : Request)
    (turn : Chain σ → σ → Prop) : Prop :=
  ∀ front entry rest, chain = front ++ entry :: rest → ∀ v, turn front v →
    entry.accepts sent v =
      entry.accepts (front.processRequest request s).2.1 (front.processRequest request s).2.2

namespace Chain

theorem processRequest_cons_proceed {entry : Entry σ} {rest : Chain σ} {request sent : Request} {s t : σ}
    (goes : processRequest (entry :: rest) request s = (.proceed, sent, t)) :
    ∃ left u, processRequest [entry] request s = (.proceed, left, u) ∧
      rest.processRequest left u = (.proceed, sent, t) := by
  rw [processRequest_cons] at goes
  rcases going : processRequest [entry] request s with ⟨_ | reason | response | milliseconds, left, u⟩
  · rw [going] at goes
    exact ⟨left, u, rfl, goes⟩
  all_goals
    rw [going] at goes
    cases goes

namespace FiltersAlike

variable {entry : Entry σ} {rest : Chain σ} {request left sent : Request} {s u : σ} {turn again : Chain σ → σ → Prop}

theorem head (alike : FiltersAlike (entry :: rest) request s sent turn) {v : σ} (first : turn [] v) :
    entry.accepts sent v = entry.accepts request s :=
  alike [] entry rest rfl v first

theorem tail (alike : FiltersAlike (entry :: rest) request s sent turn)
    (going : processRequest [entry] request s = (.proceed, left, u))
    (further : ∀ front v, again front v → turn (entry :: front) v) : rest.FiltersAlike left u sent again := by
  rintro front other later rfl v turned
  have reached : processRequest (entry :: front) request s = front.processRequest left u := by
    rw [processRequest_cons, going]
  have answer := alike (entry :: front) other later rfl v (further front v turned)
  rwa [reached] at answer

end FiltersAlike

end Chain

/-! ## Filters by URL -/

omit [Journal σ] in
/-- Whether the entry accepts a request depends on the URL alone. -/
def Entry.FiltersByUrl (entry : Entry σ) : Prop :=
  ∀ request other s t, request.url = other.url → entry.accepts request s = entry.accepts other t

omit [Journal σ] in
/-- The entry does not rewrite URLs. -/
def Entry.KeepsUrl (entry : Entry σ) : Prop :=
  ∀ request s, (entry.beforeRequest request s).2.1.url = request.url

theorem RequestLogger.filtersByUrl (logger : RequestLogger) (handle : Handle) :
    ({ (logger.toInterceptor : Interceptor σ) with handle } : Entry σ).FiltersByUrl := by
  intro request other _ _ same
  simp only [toInterceptor, accepts, same]

theorem RequestLogger.keepsUrl (logger : RequestLogger) (handle : Handle) :
    ({ (logger.toInterceptor : Interceptor σ) with handle } : Entry σ).KeepsUrl :=
  fun _ _ => rfl

namespace Chain

theorem url_of_processRequest {chain : Chain σ} (keeps : ∀ entry ∈ chain, entry.KeepsUrl) :
    ∀ (request : Request) (s : σ), (chain.processRequest request s).2.1.url = request.url := by
  induction chain with
  | nil => exact fun _ _ => rfl
  | cons entry rest ih =>
    intro request s
    have ih := ih fun other mem => keeps other (List.mem_cons_of_mem _ mem)
    have kept := keeps entry List.mem_cons_self request s
    rw [processRequest]
    split
    · generalize entry.beforeRequest request s = answer at kept ⊢
      obtain ⟨_ | reason | response | milliseconds, left, t⟩ := answer
      · exact (ih left t).trans kept
      · exact kept
      · exact kept
      · exact (ih left _).trans kept
    · exact ih request s

/-- Entries that look at the URL only do not change their minds while nobody rewrites it. -/
theorem filtersAlike_of_url {chain : Chain σ} {request sent : Request} {s t : σ}
    (byUrl : ∀ entry ∈ chain, entry.FiltersByUrl) (keeps : ∀ entry ∈ chain, entry.KeepsUrl)
    (goes : chain.processRequest request s = (.proceed, sent, t)) (turn : Chain σ → σ → Prop) :
    chain.FiltersAlike request s sent turn := by
  have sent_url : sent.url = request.url := by
    have url := url_of_processRequest keeps request s
    rwa [goes] at url
  rintro front entry rest rfl v -
  have met_url : (front.processRequest request s).2.1.url = request.url :=
    url_of_processRequest (fun other mem => keeps other (List.mem_append_left _ mem)) request s
  exact byUrl entry (List.mem_append_right _ List.mem_cons_self) _ _ _ _ (sent_url.trans met_url.symm)

end Chain

/-! ## One entry -/

theorem requestEvents_of_proceed {entry : Entry σ} {rest : List (Part σ)} {request left : Request} {s u : σ}
    (going : Chain.processRequest [entry] request s = (.proceed, left, u)) (place : Nat) :
    requestEvents place (.other entry :: rest) request s =
      (if entry.accepts request s then [.before place request] else []) ++
        requestEvents (place + 1) rest left u := by
  rw [requestEvents_other, going]
  split
  · rfl
  next ignores =>
    rw [Chain.processRequest_of_ignores (Bool.eq_false_iff.mpr ignores)] at going
    cases going
    rfl

theorem responseEvents_of_ok {entry : Entry σ} {rest : List (Part σ)} {request : Request} {response left : Response}
    {s u : σ} (passes : Chain.processResponse [entry] request response s = (.ok (), left, u)) (place : Nat) :
    responseEvents place (.other entry :: rest) request response s =
      (if entry.accepts request s then [.after place request response] else []) ++
        responseEvents (place + 1) rest request left u := by
  rw [responseEvents]
  simp only [Part.toEntry, Part.inspection]
  obtain ⟨accepts, met, v, answered, passed⟩ | ⟨ignores, passed⟩ := Chain.processResponse_cons_ok passes
  · cases passed
    simp only [accepts, if_true, answered]
  · cases passed
    simp [ignores]

theorem errorEvents_cons (entry : Entry σ) (rest : List (Part σ)) (place : Nat) (request : Request) (error : Error)
    (s : σ) :
    errorEvents place (.other entry :: rest) request error s =
      (if entry.accepts request s then [.failed place request error] else []) ++
        errorEvents (place + 1) rest request error (Chain.notifyError [entry] request error s) := by
  by_cases accepts : entry.accepts request s = true <;>
    simp [errorEvents, Part.toEntry, Chain.notifyError, accepts]

/-! ## The phases of an execution -/

/-- The entries that are told of the error are those that were given the request. -/
theorem failed_eq_before {chain : Chain σ} {sent : Request} {error : Error} {t : σ} :
    ∀ (place : Nat) {request : Request} {s u : σ}, chain.processRequest request s = (.proceed, sent, t) →
      chain.FiltersAlike request s sent (fun front v => v = front.notifyError sent error u) →
      (errorEvents place (chain.map .other) sent error u).filterMap Event.failed? =
        (requestEvents place (chain.map .other) request s).filterMap Event.before? := by
  induction chain with
  | nil =>
    intro place request s u goes alike
    rfl
  | cons entry rest ih =>
    intro place request s u goes alike
    obtain ⟨left, w, going, goes⟩ := Chain.processRequest_cons_proceed goes
    -- on the way out the entry may have changed the request; of the error all are told with the request that was sent
    have further := ih (place + 1) (u := Chain.notifyError [entry] sent error u) goes
      (alike.tail going fun _ _ turned => turned)
    rw [List.map_cons, errorEvents_cons, requestEvents_of_proceed going, List.filterMap_append, List.filterMap_append,
      further, alike.head (v := u) rfl]
    split <;> rfl

section Answered

variable {sent : Request} {t : σ}

/-- If the response passes, the entries that are given it are those that were given the request. -/
theorem after_eq_before {chain : Chain σ} {left : Response} {v : σ} :
    ∀ (place : Nat) {request : Request} {response : Response} {s u : σ},
      chain.processRequest request s = (.proceed, sent, t) →
      chain.FiltersAlike request s sent (Chain.ResponseTurn sent response u) →
      chain.processResponse sent response u = (.ok (), left, v) →
      (responseEvents place (chain.map .other) sent response u).filterMap Event.after? =
        (requestEvents place (chain.map .other) request s).filterMap Event.before? := by
  induction chain with
  | nil =>
    intro place request response s u goes alike passed
    rfl
  | cons entry rest ih =>
    intro place request response s u goes alike passed
    obtain ⟨left, w, going, goes⟩ := Chain.processRequest_cons_proceed goes
    rw [Chain.processResponse_cons] at passed
    rcases first : Chain.processResponse [entry] sent response u with ⟨error | ⟨⟩, met, x⟩
    · rw [first] at passed
      cases passed
    · rw [first] at passed
      have further := ih (place + 1) goes (alike.tail going fun _ _ turn => turn.cons first) passed
      rw [List.map_cons, responseEvents_of_ok first, requestEvents_of_proceed going, List.filterMap_append,
        List.filterMap_append, further, alike.head (v := u) ⟨response, rfl⟩]
      split <;> rfl

/-- If an entry refuses the response, the entries that are given it are those up to the one that refuses it. -/
theorem after_eq_before_of_error {chain : Chain σ} {error : Error} {left : Response} {v : σ} :
    ∀ (place : Nat) {request : Request} {response : Response} {s u : σ},
      chain.processRequest request s = (.proceed, sent, t) →
      chain.FiltersAlike request s sent (Chain.ResponseTurn sent response u) →
      chain.processResponse sent response u = (.error error, left, v) →
      ∃ site earlier later, chain.RefusesAt sent error site response u ∧
        (requestEvents place (chain.map .other) request s).filterMap Event.before? =
          earlier ++ (place + site) :: later ∧
        (responseEvents place (chain.map .other) sent response u).filterMap Event.after? =
          earlier ++ [place + site] := by
  induction chain with
  | nil =>
    intro place request response s u goes alike refused
    cases refused
  | cons entry rest ih =>
    intro place request response s u goes alike refused
    obtain ⟨left, w, going, goes⟩ := Chain.processRequest_cons_proceed goes
    have same := alike.head (v := u) ⟨response, rfl⟩
    rw [Chain.processResponse_cons] at refused
    rw [List.map_cons, requestEvents_of_proceed going]
    -- either this entry refuses the response, so it accepts the request and was given it, or one further on does
    rcases first : Chain.processResponse [entry] sent response u with ⟨fault | ⟨⟩, met, x⟩
    · rw [first] at refused
      cases refused
      obtain ⟨accepts, met, x, refuses⟩ := Chain.exists_of_processResponse_error first
      refine ⟨0, [], (requestEvents (place + 1) (rest.map .other) left w).filterMap Event.before?,
        .here accepts refuses, ?_, ?_⟩
      · rw [← same, accepts]
        rfl
      · simp [responseEvents, Part.toEntry, Part.inspection, accepts, refuses, Event.after?]
    · rw [first] at refused
      obtain ⟨site, earlier, later, refuses, given, answered⟩ :=
        ih (place + 1) goes (alike.tail going fun _ _ turn => turn.cons first) refused
      have site_eq : place + (site + 1) = place + 1 + site := by omega
      refine ⟨site + 1, (if entry.accepts request s then [place] else []) ++ earlier, later,
        .later first refuses, ?_, ?_⟩
      · rw [List.filterMap_append, given, site_eq, List.append_assoc]
        split <;> rfl
      · rw [responseEvents_of_ok first, List.filterMap_append, answered, same, site_eq, List.append_assoc]
        split <;> rfl

end Answered

/-! ## What is in which phase -/

theorem filterMap_requestEvents {parts : List (Part σ)} {kind : Event → Option Nat}
    (other : ∀ place request, kind (.before place request) = none) (place : Nat) (request : Request) (s : σ) :
    (requestEvents place parts request s).filterMap kind = [] := by
  rw [List.filterMap_eq_nil_iff]
  intro event mem
  obtain ⟨site, given, rfl⟩ := before_of_mem_requestEvents mem
  exact other site given

theorem before_responseEvents (parts : List (Part σ)) (place : Nat) (request : Request) (response : Response) (s : σ) :
    (responseEvents place parts request response s).filterMap Event.before? = [] := by
  rw [List.filterMap_eq_nil_iff]
  intro event mem
  obtain ⟨site, -, inspects⟩ := isInspection_of_mem_responseEvents mem
  cases event with
  | before => cases inspects
  | sent | after | failed | reported => rfl

theorem before_errorEvents (chain : Chain σ) (request : Request) (error : Error) :
    ∀ (place : Nat) (s : σ), (errorEvents place (chain.map .other) request error s).filterMap Event.before? = [] := by
  induction chain with
  | nil => exact fun _ _ => rfl
  | cons entry rest ih =>
    intro place s
    rw [List.map_cons, errorEvents_cons, List.filterMap_append, ih]
    split <;> rfl

/-! ## A whole execution -/

namespace Roundtrip

/-- Marks requests. -/
def stamp : Entry (List Note) where
  handle := ⟨"stamp"⟩
  beforeRequest request s := (.proceed, { request with headers := ("x-stamp", "1") :: request.headers }, s)

/-- Writes about some requests, by their URLs. -/
def logger (part : String) : Entry (List Note) :=
  { ({ urlFilter := some part } : RequestLogger).toInterceptor with handle := ⟨"logger"⟩ }

def fault : Error := .http (.sending "https://example.com/" (.connect .unreachable))

/-- Refuses all responses. -/
def guard : Entry (List Note) where
  handle := ⟨"guard"⟩
  afterResponse _ response s := (.error fault, response, s)

def chain : Chain (List Note) := [stamp, logger "example.org", logger "example.com", guard, logger "https:"]

def request : Request where
  url := { scheme := "https", host := some (.name "example.com"), path := .segments [""] }

/-- The request as it is sent. -/
def stamped : Request := { request with headers := [("x-stamp", "1")] }

/-- No server is reached. -/
def offline : Transport (List Note) := fun _ s => (.error fault, s)

def server : Transport (List Note) := fun request s => (.ok { url := request.url }, s)

end Roundtrip

/-- **Calls pair up where filters do not change their minds.** Let an execution come so far that the request is sent,
and let each entry of the chain, when its second turn comes, accept the request as it was sent exactly if it accepted
what it had before it on its first turn. If there is no response, the entries that are told of the error are those that
were given the request, in the same order. If there is one and it is returned, the entries that were given it are these
again; and if it is not, they are these up to the one that refused it. Filters do not change their minds in a chain
whose entries look at the URL only and do not rewrite it. -/
theorem calls_pair_up (config : ClientConfig) {chain : Chain σ} (transport : Transport σ) {request sent : Request}
    {s t : σ} (goes : chain.processRequest request s = (.proceed, sent, t)) :
    let calls := eventsOf config (chain.map .other) transport request s
    (∀ error u, transport sent t = (.error error, u) →
      chain.FiltersAlike request s sent (fun front v => v = front.notifyError sent error u) →
      calls.filterMap Event.failed? = calls.filterMap Event.before?) ∧
    (∀ response u, transport sent t = (.ok response, u) →
      chain.FiltersAlike request s sent (Chain.ResponseTurn sent response u) →
      match (Client.execute ⟨config, chain⟩ transport request s).1 with
      | .ok _ => calls.filterMap Event.after? = calls.filterMap Event.before?
      | .error error => ∃ place earlier later, chain.RefusesAt sent error place response u ∧
        calls.filterMap Event.before? = earlier ++ place :: later ∧
        calls.filterMap Event.after? = earlier ++ [place]) ∧
    ((∀ entry ∈ chain, entry.FiltersByUrl) → (∀ entry ∈ chain, entry.KeepsUrl) →
      ∀ turn, chain.FiltersAlike request s sent turn) := by
  intro calls
  have calls_eq : calls = executionEvents (chain.map .other) transport request s := eventsOf_eq _ _ _ _ _
  rw [executionEvents, assemble_map_other, goes] at calls_eq
  -- the calls are those of the way out, the sending, and those of the way back or of the error
  refine ⟨fun error u failing alike => ?_, fun response u answering alike => ?_,
    fun byUrl keeps turn => Chain.filtersAlike_of_url byUrl keeps goes turn⟩
  · have told := failed_eq_before 0 goes alike
    simp only [failing] at calls_eq
    rw [calls_eq, List.filterMap_append, List.filterMap_append,
      filterMap_requestEvents (fun _ _ => rfl), List.filterMap_cons_none rfl, List.filterMap_cons_none rfl, told,
      before_errorEvents, List.append_nil, List.nil_append]
  · simp only [answering] at calls_eq
    have given : calls.filterMap Event.before? =
        (requestEvents 0 (chain.map .other) request s).filterMap Event.before? := by
      rw [calls_eq, List.filterMap_append, List.filterMap_cons_none rfl, before_responseEvents, List.append_nil]
    have answered : calls.filterMap Event.after? =
        (responseEvents 0 (chain.map .other) sent response u).filterMap Event.after? := by
      rw [calls_eq, List.filterMap_append, filterMap_requestEvents (fun _ _ => rfl), List.filterMap_cons_none rfl,
        List.nil_append]
    rw [given, answered]
    simp only [Client.execute, goes, Client.exchange, answering]
    rcases responded : chain.processResponse sent response u with ⟨error | ⟨⟩, left, v⟩
    · obtain ⟨place, earlier, later, refuses, cut⟩ := after_eq_before_of_error 0 goes alike responded
      rw [Nat.zero_add] at cut
      exact ⟨place, earlier, later, refuses, cut⟩
    · exact after_eq_before 0 goes alike responded

/-- The first logger is never called, and the last one is told of an error but not given a response. -/
theorem Roundtrip.called_again :
    (eventsOf {} (Roundtrip.chain.map .other) offline request []).filterMap Event.before? = [0, 2, 3, 4] ∧
      (eventsOf {} (Roundtrip.chain.map .other) offline request []).filterMap Event.failed? = [0, 2, 3, 4] ∧
      (eventsOf {} (Roundtrip.chain.map .other) server request []).filterMap Event.after? = [0, 2, 3] ∧
      ∃ response notes, Roundtrip.chain.RefusesAt stamped fault 3 response notes := by
  have goes : Roundtrip.chain.processRequest request [] = (.proceed, stamped, _) := rfl
  have byUrl : ∀ entry ∈ Roundtrip.chain, entry.FiltersByUrl := by
    simp only [chain, List.forall_mem_cons]
    exact ⟨fun _ _ _ _ _ => rfl, RequestLogger.filtersByUrl _ _, RequestLogger.filtersByUrl _ _,
      fun _ _ _ _ _ => rfl, RequestLogger.filtersByUrl _ _, fun _ h => nomatch h⟩
  have keeps : ∀ entry ∈ Roundtrip.chain, entry.KeepsUrl := by
    simp only [chain, List.forall_mem_cons]
    exact ⟨fun _ _ => rfl, RequestLogger.keepsUrl _ _, RequestLogger.keepsUrl _ _, fun _ _ => rfl,
      RequestLogger.keepsUrl _ _, fun _ h => nomatch h⟩
  obtain ⟨unanswered, -, alike⟩ := calls_pair_up {} offline goes
  obtain ⟨-, answered, -⟩ := calls_pair_up {} server goes
  have given : (eventsOf {} (Roundtrip.chain.map .other) offline request []).filterMap Event.before? = [0, 2, 3, 4] :=
    rfl
  have met : (eventsOf {} (Roundtrip.chain.map .other) server request []).filterMap Event.after? = [0, 2, 3] := rfl
  obtain ⟨place, earlier, later, refuses, -, cut⟩ := answered _ _ rfl (alike byUrl keeps _)
  have last := congrArg List.getLast? (met.symm.trans cut)
  obtain rfl : 3 = place := by simpa using last
  exact ⟨given, (unanswered _ _ rfl (alike byUrl keeps _)).trans given, met, _, _, refuses⟩

end Transparency
