import Transparency.Proofs.Client.Watching

/-!
# Enforcement

An inspector whose policy refuses failures guards the client: whatever the other entries of the chain do, a response
that reaches the caller over the network has been inspected once by each such inspector, and each of them found it a
success. An inspector accepts every request, so nothing passes it over, and an error of any entry ends the execution.

`success_of_execute_ok` says this of the events of a watched execution. If moreover no entry in front of an inspector
changes where the response came from, its URL and its certificate, then what the inspector found is what it finds for
the response as it was sent.
-/

namespace Transparency

variable {σ : Type}

/-! ## What an inspector looks at -/

/-- What the verifier says depends on the host and the certificate only. -/
def Verifier.IgnoresState (verifier : Verifier σ) : Prop :=
  ∀ host certificate s t, (verifier.verify host certificate s).1 = (verifier.verify host certificate t).1

/-- No entry that runs changes the URL or the certificate of the response. -/
def Chain.KeepsOrigin : Chain σ → Request → Response → σ → Prop
  | [], _, _, _ => True
  | entry :: rest, request, response, s =>
    if entry.accepts request s then
      let (_, left, s) := entry.afterResponse request response s
      left.url = response.url ∧ left.certificate = response.certificate ∧ KeepsOrigin rest request left s
    else KeepsOrigin rest request response s

/-- Entries that change neither the URL nor the certificate of any response do not do so in a run either. -/
theorem Chain.keepsOrigin_of_forall {chain : Chain σ}
    (keeps : ∀ entry ∈ chain, ∀ request response s,
      (entry.afterResponse request response s).2.1.url = response.url ∧
        (entry.afterResponse request response s).2.1.certificate = response.certificate) :
    ∀ (request : Request) (response : Response) (s : σ), chain.KeepsOrigin request response s := by
  induction chain with
  | nil => exact fun _ _ _ => trivial
  | cons entry rest ih =>
    intro request response s
    have ih := ih fun entry mem => keeps entry (List.mem_cons_of_mem _ mem)
    obtain ⟨url, certificate⟩ := keeps entry List.mem_cons_self request response s
    rw [Chain.KeepsOrigin]
    split
    · exact ⟨url, certificate, ih _ _ _⟩
    · exact ih _ _ _

theorem Chain.origin_of_keepsOrigin {chain : Chain σ} {request : Request} :
    ∀ {response met : Response} {s t : σ}, chain.KeepsOrigin request response s →
      chain.processResponse request response s = (.ok (), met, t) →
      met.url = response.url ∧ met.certificate = response.certificate := by
  induction chain with
  | nil =>
    intro response met s t _ passed
    obtain ⟨-, rfl, -⟩ := Prod.mk.inj passed |>.imp_right Prod.mk.inj
    exact ⟨rfl, rfl⟩
  | cons entry rest ih =>
    intro response met s t keeps passed
    rw [Chain.KeepsOrigin] at keeps
    obtain ⟨accepts, left, u, left_eq, passed⟩ | ⟨ignores, passed⟩ := Chain.processResponse_cons_ok passed
    · rw [if_pos accepts, left_eq] at keeps
      obtain ⟨url, certificate, keeps⟩ := keeps
      obtain ⟨url', certificate'⟩ := ih keeps passed
      exact ⟨url'.trans url, certificate'.trans certificate⟩
    · rw [if_neg (Bool.eq_false_iff.mp ignores)] at keeps
      exact ih keeps passed

namespace Inspector

/-- The outcome depends on the origin of the response, if the verifier ignores the state. -/
theorem evaluate_congr {inspector : Inspector σ} (ignores : inspector.verifier.IgnoresState)
    {response other : Response} (url : response.url = other.url) (certificate : response.certificate = other.certificate)
    (s t : σ) : (inspector.evaluate response s).1 = (inspector.evaluate other t).1 := by
  have host : response.host = other.host := by rw [Response.host, Response.host, url]
  have https : response.isHttps = other.isHttps := by rw [Response.isHttps, Response.isHttps, url]
  rw [Inspector.evaluate, Inspector.evaluate, host, https, certificate]
  split
  · rfl
  · rcases other.certificate with _ | shown
    · rfl
    · exact ignores other.host shown s t

/-- An inspector that refuses failures lets successes pass only. -/
theorem success_of_ruling {inspector : Inspector σ} (enforces : inspector.policy.failOnError = true) {host : String}
    {outcome : Outcome} (passed : inspector.ruling host outcome = .ok ()) : ∃ reason, outcome = .success reason := by
  cases outcome with
  | success reason => exact ⟨reason, rfl⟩
  | failure reason =>
    rw [ruling, if_pos enforces] at passed
    cases passed

end Inspector

/-! ## Which events there are -/

namespace Event

theorem isInspection_unique {event : Event} {place site : Nat} (here : event.isInspection place = true)
    (there : event.isInspection site = true) : place = site := by
  cases event with
  | after => exact (of_decide_eq_true here).symm.trans (of_decide_eq_true there)
  | reported => exact (of_decide_eq_true here).symm.trans (of_decide_eq_true there)
  | before | sent | failed => cases here

theorem isSending_of_isInspection {event : Event} {place : Nat} (here : event.isInspection place = true) :
    event.isSending = false := by
  cases event with
  | sent => cases here
  | before | after | failed | reported => rfl

end Event

theorem Part.isInspection_of_mem {part : Part σ} {place : Nat} {request : Request} {response : Response} {s : σ}
    {event : Event} (mem : event ∈ part.inspection place request response s) : event.isInspection place = true := by
  cases part with
  | checker inspector handle =>
    rcases List.mem_cons.mp mem with rfl | mem
    · exact decide_eq_true rfl
    · obtain rfl := List.mem_singleton.mp mem
      exact decide_eq_true rfl
  | other entry =>
    obtain rfl := List.mem_singleton.mp mem
    exact decide_eq_true rfl

theorem Part.filter_inspection_self (part : Part σ) (place : Nat) (request : Request) (response : Response) (s : σ) :
    (part.inspection place request response s).filter (·.isInspection place) =
      part.inspection place request response s :=
  List.filter_eq_self.mpr fun _ mem => Part.isInspection_of_mem mem

theorem Part.filter_inspection_of_ne (part : Part σ) {place site : Nat} (elsewhere : place ≠ site)
    (request : Request) (response : Response) (s : σ) :
    (part.inspection place request response s).filter (·.isInspection site) = [] :=
  List.filter_eq_nil_iff.mpr fun _ mem here =>
    elsewhere (Event.isInspection_unique (Part.isInspection_of_mem mem) here)

variable [Journal σ]

/-- While a request goes through the chain, entries are given the request and nothing else happens. -/
theorem before_of_mem_requestEvents {parts : List (Part σ)} {event : Event} :
    ∀ {place : Nat} {request : Request} {s : σ}, event ∈ requestEvents place parts request s →
      ∃ site given, event = .before site given := by
  induction parts with
  | nil => exact fun mem => nomatch mem
  | cons part rest ih =>
    intro place request s mem
    rw [requestEvents] at mem
    split at mem
    · rcases List.mem_cons.mp mem with rfl | mem
      · exact ⟨place, request, rfl⟩
      · split at mem
        · exact ih mem
        · cases mem
    · exact ih mem

/-- While a response goes through the chain, entries inspect it, and nothing else happens. -/
theorem isInspection_of_mem_responseEvents {parts : List (Part σ)} {request : Request} {event : Event} :
    ∀ {place : Nat} {response : Response} {s : σ}, event ∈ responseEvents place parts request response s →
      ∃ site, place ≤ site ∧ event.isInspection site = true := by
  induction parts with
  | nil => exact fun mem => nomatch mem
  | cons part rest ih =>
    intro place response s mem
    have later : ∀ {response s}, event ∈ responseEvents (place + 1) rest request response s →
        ∃ site, place ≤ site ∧ event.isInspection site = true := fun mem =>
      (ih mem).imp fun _ found => found.imp_left Nat.le_of_succ_le
    rw [responseEvents] at mem
    split at mem
    · rcases List.mem_append.mp mem with mem | mem
      · exact ⟨place, Nat.le_refl place, Part.isInspection_of_mem mem⟩
      · split at mem
        · exact later mem
        · cases mem
    · exact later mem

theorem filter_isInspection_requestEvents (parts : List (Part σ)) (place site : Nat) (request : Request) (s : σ) :
    (requestEvents place parts request s).filter (·.isInspection site) = [] := by
  rw [List.filter_eq_nil_iff]
  intro event mem
  obtain ⟨_, _, rfl⟩ := before_of_mem_requestEvents mem
  exact Bool.false_ne_true

theorem filter_isSending_requestEvents (parts : List (Part σ)) (place : Nat) (request : Request) (s : σ) :
    (requestEvents place parts request s).filter (·.isSending) = [] := by
  rw [List.filter_eq_nil_iff]
  intro event mem
  obtain ⟨_, _, rfl⟩ := before_of_mem_requestEvents mem
  exact Bool.false_ne_true

/-- Entries further on in the chain have higher places. -/
theorem filter_isInspection_responseEvents (parts : List (Part σ)) {place site : Nat} (before : site < place)
    (request : Request) (response : Response) (s : σ) :
    (responseEvents place parts request response s).filter (·.isInspection site) = [] := by
  rw [List.filter_eq_nil_iff]
  intro event mem here
  obtain ⟨other, le, there⟩ := isInspection_of_mem_responseEvents mem
  have same := Event.isInspection_unique here there
  omega

theorem filter_isSending_responseEvents (parts : List (Part σ)) (place : Nat) (request : Request)
    (response : Response) (s : σ) :
    (responseEvents place parts request response s).filter (·.isSending) = [] := by
  rw [List.filter_eq_nil_iff]
  intro event mem
  obtain ⟨_, _, here⟩ := isInspection_of_mem_responseEvents mem
  rw [Event.isSending_of_isInspection here]
  exact Bool.false_ne_true

/-! ## Every response is inspected -/

/-- A chain that lets a response pass has let it pass each inspector: the inspector met the response as the entries in
front of it left it, once, and if it refuses failures, it found a success. -/
theorem inspected_of_processResponse {parts : List (Part σ)} {request : Request} {inspector : Inspector σ}
    {handle : Handle} (enforces : inspector.policy.failOnError = true) :
    ∀ {place index : Nat} {response r : Response} {s s' : σ},
      (assemble parts).processResponse request response s = (.ok (), r, s') →
      parts[index]? = some (.checker inspector handle) →
      ∃ met t reason,
        (assemble (parts.take index)).processResponse request response s = (.ok (), met, t) ∧
        (inspector.evaluate met t).1 = .success reason ∧
        (responseEvents place parts request response s).filter (·.isInspection (place + index)) =
          [.after (place + index) request met, .reported (place + index) met.host (.success reason)] := by
  induction parts with
  | nil =>
    intro place index response r s s' _ at_index
    cases at_index
  | cons part rest ih =>
    intro place index response r s s' passed at_index
    cases index with
    | zero =>
      obtain rfl := Option.some.inj at_index
      obtain ⟨accepts, left, t, left_eq, passed⟩ | ⟨ignores, -⟩ := Chain.processResponse_cons_ok passed
      · -- the ruling was to let the response pass, so the outcome was a success
        have ruled : inspector.ruling response.host (inspector.evaluate response s).1 = .ok () :=
          congrArg Prod.fst left_eq
        obtain ⟨reason, success⟩ := inspector.success_of_ruling enforces ruled
        refine ⟨response, s, reason, rfl, success, ?_⟩
        rw [responseEvents, if_pos accepts, left_eq, List.filter_append, Nat.add_zero, Part.filter_inspection_self,
          filter_isInspection_responseEvents rest (Nat.lt_succ_self place), List.append_nil, Part.inspection, success]
      · cases ignores
    | succ index =>
      -- the first entry has no events at the inspector's place, whether it runs or is passed over
      have at_rest : rest[index]? = some (.checker inspector handle) := at_index
      have take_eq : assemble ((part :: rest).take (index + 1)) = part.toEntry :: assemble (rest.take index) := rfl
      have elsewhere : place ≠ place + (index + 1) := by omega
      have place_eq : place + 1 + index = place + (index + 1) := by omega
      rw [take_eq, Chain.processResponse, responseEvents]
      obtain ⟨accepts, left, t, left_eq, passed⟩ | ⟨ignores, passed⟩ := Chain.processResponse_cons_ok passed
      · rw [if_pos accepts, if_pos accepts, left_eq, List.filter_append, part.filter_inspection_of_ne elsewhere,
          List.nil_append, ← place_eq]
        exact ih passed at_rest
      · have ignores : ¬ part.toEntry.accepts request s = true := Bool.eq_false_iff.mp ignores
        rw [if_neg ignores, if_neg ignores, ← place_eq]
        exact ih passed at_rest

/-! ## A guarded client -/

namespace Checkpoint

/-- An inspector that trusts one certificate and refuses the others. -/
def inspector : Inspector (List Note) where
  verifier.verify _ certificate s :=
    (if certificate = [1] then .success (.trusted 2) else .failure .noTimestamps, s)
  policy := {}
  report host outcome := note .info "Outcome" [("host", host), ("outcome", outcome.message)]
  valid := rfl

/-- An entry that changes the status and the headers of each response. -/
def stamp : Entry (List Note) where
  handle := ⟨"stamp"⟩
  afterResponse _ response s :=
    (.ok (), { response with status := ⟨404⟩, headers := ("x-stamp", "1") :: response.headers }, s)

/-- An inspector behind another entry. -/
def parts : List (Part (List Note)) := [.other stamp, .checker inspector ⟨"inspector"⟩]

def request : Request where
  url := { scheme := "https", host := some (.name "example.com"), path := .segments [""] }

/-- A server that shows the trusted certificate. -/
def server : Transport (List Note) := fun request s => (.ok { url := request.url, certificate := some [1] }, s)

/-- What the server sends, stamped. -/
def answer : Response where
  url := request.url
  status := ⟨404⟩
  headers := [("x-stamp", "1")]
  certificate := some [1]

end Checkpoint

/-! ## The client is guarded -/

/-- **No response gets around an inspector.** Let a client have any chain and any transport, and let an execution end
with a response that no interceptor made up. Then the request was sent once, and each inspector of the chain that
refuses failures was given the response once and reported one outcome, a success. If its verifier ignores the state
and no entry in front of it changed the URL or the certificate of the response, that outcome is the one for the
response as it was sent. -/
theorem success_of_execute_ok {config : ClientConfig} {parts : List (Part σ)} {transport : Transport σ}
    {request : Request} {s : σ} {r : Response}
    (passed : ((clientOf config parts).execute transport request s).1 = .ok r)
    (unmocked : ((assemble parts).processRequest request s).1 ≠ .mock r) :
    ∃ last s₁ sent s₂, (assemble parts).processRequest request s = (.proceed, last, s₁) ∧
      transport last s₁ = (.ok sent, s₂) ∧
      (eventsOf config parts transport request s).filter (·.isSending) = [.sent last (.ok sent)] ∧
      ∀ place inspector handle, parts[place]? = some (.checker inspector handle) →
        inspector.policy.failOnError = true →
        ∃ met reason,
          (eventsOf config parts transport request s).filter (·.isInspection place) =
            [.after place last met, .reported place met.host (.success reason)] ∧
          (inspector.verifier.IgnoresState → (assemble (parts.take place)).KeepsOrigin last sent s₂ →
            ∀ t, (inspector.evaluate sent t).1 = .success reason) := by
  obtain ⟨last, s₁, sent, s₂, s₃, answered, sending, responded⟩ := Client.phases_of_execute_ok passed unmocked
  have events : eventsOf config parts transport request s =
      requestEvents 0 parts request s ++ .sent last (.ok sent) :: responseEvents 0 parts last sent s₂ := by
    rw [eventsOf_eq, executionEvents]
    simp only [clientOf] at answered
    rw [answered]
    simp only [sending]
  refine ⟨last, s₁, sent, s₂, answered, sending, ?_, ?_⟩
  · rw [events, List.filter_append, filter_isSending_requestEvents, List.nil_append, List.filter_cons_of_pos rfl,
      filter_isSending_responseEvents]
  · intro place inspector handle at_place enforces
    obtain ⟨met, t, reason, reached, success, inspected⟩ := inspected_of_processResponse enforces responded at_place
    rw [Nat.zero_add] at inspected
    refine ⟨met, reason, ?_, ?_⟩
    · rw [events, List.filter_append, filter_isInspection_requestEvents, List.nil_append,
        List.filter_cons_of_neg Bool.false_ne_true]
      exact inspected
    · intro ignores keeps u
      obtain ⟨url, certificate⟩ := Chain.origin_of_keepsOrigin keeps reached
      rw [Inspector.evaluate_congr ignores url.symm certificate.symm u t]
      exact success

/-- The inspector behind the stamp is given the stamped response, and trusts it. -/
theorem Checkpoint.inspected_behind_stamp :
    ∃ met, (eventsOf {} parts server request []).filter (·.isInspection 1) =
      [.after 1 request met, .reported 1 met.host (.success (.trusted 2))] := by
  have passed : ((clientOf {} parts).execute server request []).1 = .ok answer := rfl
  have unmocked : ((assemble parts).processRequest request []).1 ≠ .mock answer := nofun
  obtain ⟨last, s₁, sent, s₂, answered, sending, -, guarded⟩ := success_of_execute_ok passed unmocked
  have last_eq : request = last := congrArg (fun result => result.2.1) answered
  have sent_eq : { url := last.url, certificate := some [1] } = sent := Except.ok.inj (congrArg Prod.fst sending)
  subst last_eq sent_eq
  obtain ⟨met, reason, events, same⟩ := guarded 1 inspector ⟨"inspector"⟩ rfl rfl
  have ignores : inspector.verifier.IgnoresState := fun _ _ _ _ => rfl
  have keeps : ∀ entry ∈ assemble (parts.take 1), ∀ request response s,
      (entry.afterResponse request response s).2.1.url = response.url ∧
        (entry.afterResponse request response s).2.1.certificate = response.certificate := by
    intro entry mem request response s
    obtain rfl := List.mem_singleton.mp mem
    exact ⟨rfl, rfl⟩
  have found : Outcome.success (.trusted 2) = .success reason :=
    same ignores (Chain.keepsOrigin_of_forall keeps request _ s₂) s₂
  rw [← found] at events
  exact ⟨met, events⟩

end Transparency
