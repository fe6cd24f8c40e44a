import Transparency.Proofs.Client.Watching

/-!
# How an execution ends

An execution ends in one of four ways: an entry gives the request up, an entry makes up a response, the request is sent
in vain, or it is sent and a response goes back through the chain. `Ending` says of each way what its result is, which
state it leaves and which calls are made, in their order. It does not run the chain. It follows the request out
through the entries (`Outbound`) and the response back through those that accept the request (`Inbound`), where
whether an entry accepts a request depends on the request alone.

`exactly_one_ending`: every execution has one such ending and no other.
-/

namespace Transparency

variable {σ : Type}

/-! ## The way out and the way back -/

/-- The entry lets a request go on, at once or after a delay, and leaves it so. -/
inductive Entry.LetsGo [Journal σ] (entry : Entry σ) (request : Request) (s : σ) : Request → σ → Prop where
  | atOnce {left : Request} {t : σ} (answer : entry.beforeRequest request s = (.proceed, left, t)) :
    LetsGo entry request s left t
  | later {milliseconds : Nat} {left : Request} {t : σ}
    (answer : entry.beforeRequest request s = (.delay milliseconds, left, t)) :
    LetsGo entry request s left <|
      note .debug "Delaying request" [("interceptor", entry.name), ("delay_ms", toString milliseconds)] t

/-- Whether an entry of the chain accepts a request is a function of the request. -/
def Chain.FiltersBy (filter : Entry σ → Request → Bool) (chain : Chain σ) : Prop :=
  ∀ entry ∈ chain, ∀ request s, entry.accepts request s = filter entry request

/-- The entries that accept a request, among entries with their places. -/
def acceptors (filter : Entry σ → Request → Bool) (request : Request) (posts : List (Entry σ × Nat)) :
    List (Entry σ × Nat) :=
  posts.filter fun post => filter post.1 request

/-- A request on its way out through entries, each of which sees what those before it left. An entry that does not
accept what it would see is passed over; one that gives the request up or makes up a response is the last that is
called. Told are the calls, and the answer, the request and the state in the end. -/
inductive Outbound [Journal σ] (filter : Entry σ → Request → Bool) :
    List (Entry σ × Nat) → Request → σ → List Event → Action → Request → σ → Prop where
  | through {request : Request} {s : σ} : Outbound filter [] request s [] .proceed request s
  | passedOver {entry : Entry σ} {place : Nat} {rest : List (Entry σ × Nat)} {request last : Request} {s t : σ}
    {calls : List Event} {answer : Action} (ignores : filter entry request = false)
    (further : Outbound filter rest request s calls answer last t) :
    Outbound filter ((entry, place) :: rest) request s calls answer last t
  | passed {entry : Entry σ} {place : Nat} {rest : List (Entry σ × Nat)} {request left last : Request} {s u t : σ}
    {calls : List Event} {answer : Action} (accepts : filter entry request = true)
    (going : entry.LetsGo request s left u) (further : Outbound filter rest left u calls answer last t) :
    Outbound filter ((entry, place) :: rest) request s (.before place request :: calls) answer last t
  | aborted {entry : Entry σ} {place : Nat} {rest : List (Entry σ × Nat)} {request left : Request} {s t : σ}
    {reason : String} (accepts : filter entry request = true)
    (aborting : entry.beforeRequest request s = (.abort reason, left, t)) :
    Outbound filter ((entry, place) :: rest) request s [.before place request] (.abort reason) left t
  | mocked {entry : Entry σ} {place : Nat} {rest : List (Entry σ × Nat)} {request left : Request} {s t : σ}
    {response : Response} (accepts : filter entry request = true)
    (mocking : entry.beforeRequest request s = (.mock response, left, t)) :
    Outbound filter ((entry, place) :: rest) request s [.before place request] (.mock response) left t

/-- A response on its way back through entries, each of which sees what those before it left, up to the first that
refuses it. Told are the calls, the result and the state in the end. -/
inductive Inbound (request : Request) :
    List (Entry σ × Nat) → Response → σ → List Event → Except Error Response → σ → Prop where
  | through {response : Response} {s : σ} : Inbound request [] response s [] (.ok response) s
  | passed {entry : Entry σ} {place : Nat} {rest : List (Entry σ × Nat)} {response left : Response} {s u t : σ}
    {calls : List Event} {result : Except Error Response}
    (passing : entry.afterResponse request response s = (.ok (), left, u))
    (further : Inbound request rest left u calls result t) :
    Inbound request ((entry, place) :: rest) response s (.after place request response :: calls) result t
  | refused {entry : Entry σ} {place : Nat} {rest : List (Entry σ × Nat)} {response left : Response} {s t : σ}
    {error : Error} (refusing : entry.afterResponse request response s = (.error error, left, t)) :
    Inbound request ((entry, place) :: rest) response s [.after place request response] (.error error) t

/-! ## The four ways -/

/-- The ways in which an execution may end. -/
inductive Way where
  /-- an entry gives the request up -/
  | aborted
  /-- an entry makes up a response -/
  | mocked
  /-- the request is sent and there is no response -/
  | unanswered
  /-- the request is sent and there is a response -/
  | answered
  deriving DecidableEq, Repr

/-- How the execution of a request may end: in a way, with a result and a state, and with calls. -/
inductive Ending [Journal σ] (filter : Entry σ → Request → Bool) (chain : Chain σ) (transport : Transport σ)
    (request : Request) (s : σ) : Way → Except Error Response × σ → List Event → Prop where
  /-- The error tells the URL as it was rewritten so far. Nothing is called after the entry. -/
  | aborted {calls : List Event} {reason : String} {left : Request} {t : σ}
    (out : Outbound filter chain.zipIdx request s calls (.abort reason) left t) :
    Ending filter chain transport request s .aborted
      (.error (.aborted left.url.render reason), (Client.giveUp left reason t).2) calls
  /-- The response is returned as it is. Nothing is called after the entry. -/
  | mocked {calls : List Event} {response : Response} {left : Request} {t : σ}
    (out : Outbound filter chain.zipIdx request s calls (.mock response) left t) :
    Ending filter chain transport request s .mocked (.ok response, t) calls
  /-- Each entry that accepts the request as it was sent is told of the error once, in the order of the chain. -/
  | unanswered {calls : List Event} {last : Request} {error : Error} {t u : σ}
    (out : Outbound filter chain.zipIdx request s calls .proceed last t)
    (sending : transport last t = (.error error, u)) :
    Ending filter chain transport request s .unanswered
      (.error error, (acceptors filter last chain.zipIdx).foldl (fun u post => post.1.onError last error u) u)
      (calls ++ .sent last (.error error) ::
        (acceptors filter last chain.zipIdx).map fun post => .failed post.2 last error)
  /-- The response goes back through the entries that accept the request as it was sent. -/
  | answered {calls answers : List Event} {last : Request} {response : Response} {result : Except Error Response}
    {t u v : σ} (out : Outbound filter chain.zipIdx request s calls .proceed last t)
    (sending : transport last t = (.ok response, u))
    (back : Inbound last (acceptors filter last chain.zipIdx) response u answers result v) :
    Ending filter chain transport request s .answered (result, v)
      (calls ++ .sent last (.ok response) :: answers)

/-! ## Following the request and the response -/

section Following

variable {filter : Entry σ → Request → Bool}

namespace Chain.FiltersBy

theorem head {entry : Entry σ} {rest : Chain σ} (byRequest : Chain.FiltersBy filter (entry :: rest))
    (request : Request) (s : σ) : entry.accepts request s = filter entry request :=
  byRequest entry List.mem_cons_self request s

theorem tail {entry : Entry σ} {rest : Chain σ} (byRequest : Chain.FiltersBy filter (entry :: rest)) :
    rest.FiltersBy filter :=
  fun other mem => byRequest other (List.mem_cons_of_mem _ mem)

end Chain.FiltersBy

theorem acceptors_cons (filter : Entry σ → Request → Bool) (request : Request) (entry : Entry σ) (rest : Chain σ)
    (place : Nat) :
    acceptors filter request (List.zipIdx (entry :: rest) place) =
      if filter entry request then (entry, place) :: acceptors filter request (rest.zipIdx (place + 1))
      else acceptors filter request (rest.zipIdx (place + 1)) := by
  simp only [acceptors, List.zipIdx_cons, List.filter_cons]

/-- The response, or the error of the entry that refused it. -/
def Chain.responseResult : Except Error Unit × Response × σ → Except Error Response × σ
  | (.ok (), response, s) => (.ok response, s)
  | (.error error, _, s) => (.error error, s)

theorem Client.exchange_of_ok {config : ClientConfig} {chain : Chain σ} {transport : Transport σ} {last : Request}
    {response : Response} {t u : σ} (sending : transport last t = (.ok response, u)) :
    Client.exchange ⟨config, chain⟩ transport last t =
      Chain.responseResult (chain.processResponse last response u) := by
  simp only [Client.exchange, sending]
  rcases chain.processResponse last response u with ⟨error | ⟨⟩, left, v⟩ <;> rfl

/-- Every response can be followed back. -/
theorem Inbound.complete (request : Request) (posts : List (Entry σ × Nat)) :
    ∀ (response : Response) (s : σ), ∃ calls result t, Inbound request posts response s calls result t := by
  induction posts with
  | nil => exact fun response s => ⟨[], .ok response, s, .through⟩
  | cons post rest ih =>
    obtain ⟨entry, place⟩ := post
    intro response s
    rcases answered : entry.afterResponse request response s with ⟨error | ⟨⟩, left, u⟩
    · exact ⟨_, .error error, u, .refused answered⟩
    · obtain ⟨calls, result, t, back⟩ := ih left u
      exact ⟨_, result, t, .passed answered back⟩

variable [Journal σ]

theorem Chain.processRequest_of_ignores {entry : Entry σ} {request : Request} {s : σ}
    (ignores : entry.accepts request s = false) :
    Chain.processRequest [entry] request s = (.proceed, request, s) := by
  simp [Chain.processRequest, ignores]

theorem Entry.LetsGo.processRequest {entry : Entry σ} {request left : Request} {s t : σ}
    (going : entry.LetsGo request s left t) (accepts : entry.accepts request s = true) :
    Chain.processRequest [entry] request s = (.proceed, left, t) := by
  cases going with
  | atOnce answer => simp only [Chain.processRequest, accepts, if_true, answer]
  | later answer => simp only [Chain.processRequest, accepts, if_true, answer]

/-- What is found by following a request out is what the chain does. -/
theorem Outbound.sound {chain : Chain σ} (byRequest : chain.FiltersBy filter) :
    ∀ {place : Nat} {request last : Request} {s t : σ} {calls : List Event} {answer : Action},
      Outbound filter (chain.zipIdx place) request s calls answer last t →
      chain.processRequest request s = (answer, last, t) ∧
        requestEvents place (chain.map .other) request s = calls := by
  induction chain with
  | nil =>
    intro place request last s t calls answer out
    cases out
    exact ⟨rfl, rfl⟩
  | cons entry rest ih =>
    intro place request last s t calls answer out
    have filtered := byRequest.head request s
    rw [List.zipIdx_cons] at out
    rw [List.map_cons, requestEvents, processRequest_cons]
    simp only [Part.toEntry]
    -- the first entry lets the request go on to the rest, or it is the last that is called
    cases out with
    | passedOver ignores further =>
      rw [ignores] at filtered
      simpa only [Chain.processRequest_of_ignores filtered, filtered, Bool.false_eq_true, if_false] using
        ih byRequest.tail further
    | passed accepts going further =>
      rw [accepts] at filtered
      obtain ⟨answered, called⟩ := ih byRequest.tail further
      simp only [going.processRequest filtered, filtered, if_true, answered, called, and_self]
    | aborted accepts aborting =>
      rw [accepts] at filtered
      simp only [Chain.processRequest, filtered, if_true, aborting, and_self]
    | mocked accepts mocking =>
      rw [accepts] at filtered
      simp only [Chain.processRequest, filtered, if_true, mocking, and_self]

/-- Every request can be followed out. -/
theorem Outbound.complete {chain : Chain σ} (byRequest : chain.FiltersBy filter) :
    ∀ (place : Nat) (request : Request) (s : σ),
      ∃ calls answer last t, Outbound filter (chain.zipIdx place) request s calls answer last t := by
  induction chain with
  | nil => exact fun _ request s => ⟨[], .proceed, request, s, .through⟩
  | cons entry rest ih =>
    intro place request s
    have further := ih byRequest.tail (place + 1)
    simp only [List.zipIdx_cons]
    by_cases accepts : filter entry request = true
    · rcases answered : entry.beforeRequest request s with ⟨_ | reason | response | milliseconds, left, u⟩
      · obtain ⟨calls, answer, last, t, out⟩ := further left u
        exact ⟨_, answer, last, t, .passed accepts (.atOnce answered) out⟩
      · exact ⟨_, _, left, u, .aborted accepts answered⟩
      · exact ⟨_, _, left, u, .mocked accepts answered⟩
      · obtain ⟨calls, answer, last, t, out⟩ := further left _
        exact ⟨_, answer, last, t, .passed accepts (.later answered) out⟩
    · obtain ⟨calls, answer, last, t, out⟩ := further request s
      exact ⟨calls, answer, last, t, .passedOver (Bool.eq_false_iff.mpr accepts) out⟩

/-- What is found by following a response back is what the chain does. -/
theorem Inbound.sound {chain : Chain σ} (byRequest : chain.FiltersBy filter) {request : Request} :
    ∀ {place : Nat} {response : Response} {s t : σ} {calls : List Event} {result : Except Error Response},
      Inbound request (acceptors filter request (chain.zipIdx place)) response s calls result t →
      Chain.responseResult (chain.processResponse request response s) = (result, t) ∧
        responseEvents place (chain.map .other) request response s = calls := by
  induction chain with
  | nil =>
    intro place response s t calls result back
    cases back
    exact ⟨rfl, rfl⟩
  | cons entry rest ih =>
    intro place response s t calls result back
    have filtered := byRequest.head request s
    rw [acceptors_cons] at back
    rw [List.map_cons, responseEvents, Chain.processResponse]
    simp only [Part.toEntry, Part.inspection]
    split at back
    next accepts =>
      rw [accepts] at filtered
      cases back with
      | passed passing further =>
        obtain ⟨passed, called⟩ := ih byRequest.tail further
        simp only [filtered, if_true, passing, passed, called, List.cons_append, List.nil_append, and_self]
      | refused refusing =>
        simp only [filtered, if_true, refusing, Chain.responseResult, List.append_nil, and_self]
    next ignores =>
      rw [Bool.eq_false_iff.mpr ignores] at filtered
      simpa only [filtered, Bool.false_eq_true, if_false] using ih byRequest.tail back

/-- The entries that accept the request are told of the error, and no others. -/
theorem notifyError_eq {chain : Chain σ} (byRequest : chain.FiltersBy filter) (request : Request) (error : Error) :
    ∀ (place : Nat) (s : σ),
      chain.notifyError request error s =
          (acceptors filter request (chain.zipIdx place)).foldl (fun u post => post.1.onError request error u) s ∧
        errorEvents place (chain.map .other) request error s =
          (acceptors filter request (chain.zipIdx place)).map fun post => .failed post.2 request error := by
  induction chain with
  | nil => exact fun _ _ => ⟨rfl, rfl⟩
  | cons entry rest ih =>
    intro place s
    have filtered := byRequest.head request s
    rw [acceptors_cons, List.map_cons, errorEvents, Chain.notifyError]
    simp only [Part.toEntry, filtered]
    by_cases accepts : filter entry request = true
    · obtain ⟨told, called⟩ := ih byRequest.tail (place + 1) (entry.onError request error s)
      simp only [accepts, if_true, told, called, List.foldl_cons, List.map_cons, and_self]
    · obtain ⟨told, called⟩ := ih byRequest.tail (place + 1) s
      simp only [accepts, Bool.false_eq_true, if_false, told, called, and_self]

end Following

/-! ## Every execution has one ending -/

section Ending

variable [Journal σ] {filter : Entry σ → Request → Bool} {chain : Chain σ} {transport : Transport σ}
  {request : Request} {s : σ}

/-- The way in which an execution ends. -/
def Way.of (chain : Chain σ) (transport : Transport σ) (request : Request) (s : σ) : Way :=
  match chain.processRequest request s with
  | (.abort _, _, _) => aborted
  | (.mock _, _, _) => mocked
  | (_, last, t) => if (transport last t).1.isOk then answered else unanswered

theorem assemble_map_other (chain : Chain σ) : assemble (chain.map .other) = chain := by
  simp [assemble, Part.toEntry, Function.comp_def]

/-- An ending is the one that the execution has. -/
theorem Ending.sound (byRequest : chain.FiltersBy filter) (config : ClientConfig) {way : Way}
    {outcome : Except Error Response × σ} {calls : List Event}
    (ending : Ending filter chain transport request s way outcome calls) :
    way = Way.of chain transport request s ∧ outcome = Client.execute ⟨config, chain⟩ transport request s ∧
      calls = eventsOf config (chain.map .other) transport request s := by
  rw [eventsOf_eq, executionEvents, assemble_map_other, Way.of, Client.execute]
  -- each ending has followed the phases that the execution goes through
  cases ending with
  | aborted out =>
    obtain ⟨answered, called⟩ := out.sound byRequest
    simp only [answered, called, List.append_nil, true_and, and_true]
    rfl
  | mocked out =>
    obtain ⟨answered, called⟩ := out.sound byRequest
    simp only [answered, called, List.append_nil, and_self]
  | @unanswered calls last error t u out sending =>
    obtain ⟨answered, called⟩ := out.sound byRequest
    obtain ⟨told, calledBack⟩ := notifyError_eq byRequest last error 0 u
    simp only [answered, called, Client.exchange, sending, told, calledBack]
    exact ⟨rfl, trivial, trivial⟩
  | answered out sending back =>
    obtain ⟨answered, called⟩ := out.sound byRequest
    obtain ⟨passed, calledBack⟩ := back.sound byRequest
    simp only [answered, called, Client.exchange_of_ok sending, passed, sending, calledBack]
    exact ⟨rfl, trivial, trivial⟩

/-- There is an ending. -/
theorem Ending.complete (byRequest : chain.FiltersBy filter) (transport : Transport σ) (request : Request) (s : σ) :
    ∃ way outcome calls, Ending filter chain transport request s way outcome calls := by
  obtain ⟨calls, answer, last, t, out⟩ := Outbound.complete byRequest 0 request s
  cases answer with
  | abort reason => exact ⟨_, _, _, .aborted out⟩
  | mock response => exact ⟨_, _, _, .mocked out⟩
  | delay milliseconds =>
    -- a chain never answers with a delay
    exact absurd (congrArg Prod.fst (out.sound byRequest).1) (chain.processRequest_ne_delay milliseconds request s)
  | proceed =>
    rcases sending : transport last t with ⟨error | response, u⟩
    · exact ⟨_, _, _, .unanswered out sending⟩
    · obtain ⟨answers, result, v, back⟩ :=
        Inbound.complete last (acceptors filter last chain.zipIdx) response u
      exact ⟨_, _, _, .answered out sending back⟩

end Ending

/-! ## A detour -/

namespace Detour

/-- Sends requests to the secure server. -/
def upgrade : Entry (List Note) where
  handle := ⟨"upgrade"⟩
  accepts request _ := request.url.scheme = "http"
  beforeRequest request s := (.proceed, { request with url := { request.url with scheme := "https" } }, s)
  onError _ _ := note .info "Upgrade failed" []

/-- Cares about insecure requests. -/
def alarm : Entry (List Note) where
  handle := ⟨"alarm"⟩
  accepts request _ := request.url.scheme = "http"
  beforeRequest request s := (.abort "insecure", request, s)

/-- Takes its time over secure requests. -/
def queue : Entry (List Note) where
  handle := ⟨"queue"⟩
  accepts request _ := request.url.scheme = "https"
  beforeRequest request s := (.delay 5, request, s)
  onError _ error := note .info "Queue saw" [("error", error.message)]

def chain : Chain (List Note) := [upgrade, alarm, queue]

def filter (entry : Entry (List Note)) (request : Request) : Bool := entry.accepts request []

def request : Request where
  url := { scheme := "http", host := some (.name "example.com"), path := .segments [""] }

/-- The request as it is sent. -/
def secured : Request where
  url := { scheme := "https", host := some (.name "example.com"), path := .segments [""] }

def fault : Error := .http (.sending "https://example.com/" (.connect .unreachable))

/-- No server is reached. -/
def offline : Transport (List Note) := fun _ s => (.error fault, s)

end Detour

/-! ## The ending of an execution -/

/-- **Every execution ends in exactly one way.** Let a client have any chain whose entries accept or pass over a
request for what the request is. Then every execution, for any request, state and transport, has an ending: an entry
gives the request up or makes up a response, or the request is sent once and answered or not. No other way, result,
state or list of calls is an ending of it: they are those of the execution. -/
theorem exactly_one_ending [Journal σ] {filter : Entry σ → Request → Bool} {chain : Chain σ}
    (byRequest : chain.FiltersBy filter) (config : ClientConfig) (transport : Transport σ) (request : Request)
    (s : σ) :
    ∃ way, ∀ other outcome calls, Ending filter chain transport request s other outcome calls ↔
      other = way ∧ outcome = Client.execute ⟨config, chain⟩ transport request s ∧
        calls = eventsOf config (chain.map .other) transport request s := by
  obtain ⟨way, outcome, calls, ending⟩ := Ending.complete byRequest transport request s
  refine ⟨Way.of chain transport request s, fun other outcome' calls' => ⟨?_, ?_⟩⟩
  · exact fun found => found.sound byRequest config
  · -- there is an ending, and as such it is the one of the execution
    rintro ⟨rfl, rfl, rfl⟩
    obtain ⟨way_eq, outcome_eq, calls_eq⟩ := ending.sound byRequest config
    rwa [way_eq, outcome_eq, calls_eq] at ending

/-- The first entry is called but not told of the error, since it does not accept what it made of the request; for the
same reason the second does not give the request up. -/
theorem Detour.unanswered_once :
    Detour.chain.FiltersBy Detour.filter ∧
      (Client.execute ⟨{}, Detour.chain⟩ Detour.offline Detour.request []).1 = .error Detour.fault ∧
      eventsOf {} (Detour.chain.map .other) Detour.offline Detour.request [] =
        [.before 0 request, .before 2 secured, .sent secured (.error fault), .failed 2 secured fault] := by
  have byRequest : Detour.chain.FiltersBy Detour.filter := by
    intro entry mem request s
    simp only [chain, List.mem_cons, List.not_mem_nil, or_false] at mem
    rcases mem with rfl | rfl | rfl <;> rfl
  obtain ⟨way, endings⟩ := exactly_one_ending byRequest {} offline request []
  have out : Outbound Detour.filter Detour.chain.zipIdx request [] [.before 0 request, .before 2 secured] .proceed
      secured _ := .passed rfl (.atOnce rfl) (.passedOver rfl (.passed rfl (.later rfl) .through))
  obtain ⟨-, outcome, calls⟩ := (endings .unanswered _ _).mp (.unanswered out rfl)
  exact ⟨byRequest, congrArg Prod.fst outcome.symm, calls.symm⟩

end Transparency
