import Mathlib.Data.List.Forall2
import Transparency.Proofs.Chain.Composition
import Transparency.Proofs.Client.Stepping

/-!
# Delays

An entry may answer a request with a delay. The chain serves the delay and goes on, so nobody outside learns of it but
by the clock. To say so, entries are replaced by others that do the same in a hurry: where the first asks for a delay,
the second may let the request go on at once (`Entry.Hurries`). The delays that are served can be written down, as the
calls of entries are (`Chain.delays`, `Chain.requestCalls`).

A chain makes a note of each delay. What its entries see of the state, a *view*, must not show these notes
(`Chain.Sees`), or an entry might answer by the delays that others asked for.

`Chain.composes_and_only_waits` has this together with the laws of joining chains.
-/

namespace Transparency

variable {σ α : Type}

/-- How long a request is held up. -/
def Action.delay? : Action → Option Nat
  | delay milliseconds => some milliseconds
  | _ => none

/-- The entry with each delay that it asks for written down. -/
def Entry.timed (entry : Entry σ) : Entry (σ × List Nat) :=
  { entry.toInterceptor.beside with
    beforeRequest := fun request s =>
      let (action, request, inner) := entry.beforeRequest request s.1
      (action, request, inner, s.2 ++ action.delay?.toList)
    handle := entry.handle }

namespace Entry

theorem accepts_timed (entry : Entry σ) (request : Request) (s : σ × List Nat) :
    entry.timed.accepts request s = entry.accepts request s.1 := rfl

theorem name_timed (entry : Entry σ) : entry.timed.name = entry.name := rfl

theorem beforeRequest_timed (entry : Entry σ) (request : Request) (s : σ × List Nat) :
    entry.timed.beforeRequest request s =
      ((entry.beforeRequest request s.1).1, (entry.beforeRequest request s.1).2.1,
        (entry.beforeRequest request s.1).2.2, s.2 ++ (entry.beforeRequest request s.1).1.delay?.toList) := rfl

end Entry

namespace Chain

variable [Journal σ]

/-- The delays that a request meets in a chain, in milliseconds, the first one first. -/
def delays (chain : Chain σ) (request : Request) (s : σ) : List Nat :=
  (processRequest (chain.map Entry.timed) request (s, [])).2.2.2

/-- The calls of entries while a request goes through a chain, the first one first. -/
def requestCalls (chain : Chain σ) (request : Request) (s : σ) : List Event :=
  ((watchFrom 0 (chain.map .other)).processRequest request (s, [])).2.2.2

theorem delays_single (entry : Entry σ) (request : Request) (s : σ) :
    delays [entry] request s =
      if entry.accepts request s then (entry.beforeRequest request s).1.delay?.toList else [] := by
  simp only [delays, List.map_cons, List.map_nil, processRequest, Entry.accepts_timed, Entry.beforeRequest_timed]
  by_cases accepts : entry.accepts request s = true
  · simp only [accepts, if_true]
    rcases entry.beforeRequest request s with ⟨_ | reason | response | milliseconds, left, t⟩ <;> rfl
  · simp [accepts]

theorem processRequest_single_timed (entry : Entry σ) (request : Request) (s : σ) (log : List Nat) :
    processRequest [entry.timed] request (s, log) =
      ((processRequest [entry] request s).1, (processRequest [entry] request s).2.1,
        (processRequest [entry] request s).2.2, log ++ delays [entry] request s) := by
  simp only [delays_single, processRequest, Entry.accepts_timed, Entry.name_timed, Entry.beforeRequest_timed]
  by_cases accepts : entry.accepts request s = true
  · simp only [accepts, if_true]
    rcases entry.beforeRequest request s with ⟨_ | reason | response | milliseconds, left, t⟩ <;> rfl
  · simp [accepts]

theorem processRequest_cons_timed (entry : Entry σ) (rest : Chain σ) (request : Request) (s : σ) (log : List Nat) :
    processRequest (List.map Entry.timed (entry :: rest)) request (s, log) =
      match processRequest [entry] request s with
      | (.proceed, left, t) =>
        processRequest (rest.map Entry.timed) left (t, log ++ delays [entry] request s)
      | (answer, left, t) => (answer, left, t, log ++ delays [entry] request s) := by
  rw [List.map_cons, processRequest_cons, processRequest_single_timed]
  rcases processRequest [entry] request s with ⟨_ | reason | response | milliseconds, left, t⟩ <;> rfl

/-- Writing delays down changes nothing but the list. -/
theorem processRequest_timed (chain : Chain σ) :
    ∀ (request : Request) (s : σ) (log : List Nat),
      processRequest (chain.map Entry.timed) request (s, log) =
        ((chain.processRequest request s).1, (chain.processRequest request s).2.1,
          (chain.processRequest request s).2.2, log ++ chain.delays request s) := by
  induction chain with
  | nil =>
    intro request s log
    simp [delays, processRequest]
  | cons entry rest ih =>
    intro request s log
    have written : delays (entry :: rest) request s =
      (processRequest (List.map Entry.timed (entry :: rest)) request (s, [])).2.2.2 := rfl
    rw [written, processRequest_cons_timed, processRequest_cons_timed, processRequest_cons entry rest]
    rcases processRequest [entry] request s with ⟨_ | reason | response | milliseconds, left, t⟩
    · simp [ih]
    all_goals simp

theorem delays_cons (entry : Entry σ) (rest : Chain σ) (request : Request) (s : σ) :
    delays (entry :: rest) request s = delays [entry] request s ++
      match processRequest [entry] request s with
      | (.proceed, request, s) => rest.delays request s
      | _ => [] := by
  rw [delays, processRequest_cons_timed]
  rcases processRequest [entry] request s with ⟨_ | reason | response | milliseconds, left, t⟩
  · simp [processRequest_timed]
  all_goals simp

end Chain

/-! ## Hurrying -/

/-- The second entry does what the first does, but lets some of the requests go on at once that the first holds up. -/
structure Entry.Hurries (entry quick : Entry σ) : Prop where
  accepts : ∀ request s, quick.accepts request s = entry.accepts request s
  beforeRequest : ∀ request s, quick.beforeRequest request s = entry.beforeRequest request s ∨
    ∃ milliseconds left t, entry.beforeRequest request s = (.delay milliseconds, left, t) ∧
      quick.beforeRequest request s = (.proceed, left, t)

namespace Entry

/-- The entry, never holding a request up. -/
def prompt (entry : Entry σ) : Entry σ where
  toInterceptor := { entry.toInterceptor with
    beforeRequest := fun request s =>
      match entry.beforeRequest request s with
      | (.delay _, request, s) => (.proceed, request, s)
      | answer => answer }
  handle := entry.handle

theorem hurries_self (entry : Entry σ) : entry.Hurries entry where
  accepts _ _ := rfl
  beforeRequest _ _ := .inl rfl

theorem hurries_prompt (entry : Entry σ) : entry.Hurries entry.prompt where
  accepts _ _ := rfl
  beforeRequest request s := by
    simp only [prompt]
    rcases entry.beforeRequest request s with ⟨_ | reason | response | milliseconds, left, t⟩
    · exact .inl rfl
    · exact .inl rfl
    · exact .inl rfl
    · exact .inr ⟨milliseconds, left, t, rfl, rfl⟩

end Entry

/-- What the entries of a chain see of the state. Notes of delays are not among it. -/
structure Chain.Sees [Journal σ] (chain : Chain σ) (view : σ → α) : Prop where
  /-- a note of a delay does not show -/
  delayed : ∀ fields s, view (note .debug "Delaying request" fields s) = view s
  /-- what an entry answers and leaves to be seen depends on what it sees -/
  entries : ∀ entry ∈ chain, entry.toInterceptor.Respects fun s t => view s = view t

theorem Chain.Sees.mono [Journal σ] {part chain : Chain σ} {view : σ → α} (sees : chain.Sees view)
    (within : part ⊆ chain) : part.Sees view :=
  ⟨sees.delayed, fun entry mem => sees.entries entry (within mem)⟩

/-- The interceptor with a state of its own, beside the state in which notes are kept. -/
def Interceptor.owning {β : Type} (interceptor : Interceptor β) : Interceptor (σ × β) where
  name := interceptor.name
  priority := interceptor.priority
  accepts request s := interceptor.accepts request s.2
  beforeRequest request s :=
    let (action, request, own) := interceptor.beforeRequest request s.2
    (action, request, s.1, own)
  afterResponse request response s :=
    let (result, response, own) := interceptor.afterResponse request response s.2
    (result, response, s.1, own)
  onError request error s := (s.1, interceptor.onError request error s.2)

/-- An interceptor sees what is its own. -/
theorem Interceptor.respects_owning {β : Type} (interceptor : Interceptor β) :
    (interceptor.owning : Interceptor (σ × β)).Respects fun s t => s.2 = t.2 where
  accepts request _ _ same := congrArg (interceptor.accepts request) same
  beforeRequest request s t same := by
    simp only [owning, same, and_self]
  afterResponse request response s t same := by
    simp only [owning, same, and_self]
  onError request error _ _ same := congrArg (interceptor.onError request error) same

/-- An entry in a hurry answers the same and leaves the same, and holds a request up for as long or not at all. -/
theorem Entry.Hurries.processRequest [Journal σ] {entry quick : Entry σ} {view : σ → α} (hurries : entry.Hurries quick)
    (sees : Chain.Sees [entry] view) (request : Request) {s t : σ} (same : view t = view s) :
    (Chain.processRequest [quick] request t).1 = (Chain.processRequest [entry] request s).1 ∧
      (Chain.processRequest [quick] request t).2.1 = (Chain.processRequest [entry] request s).2.1 ∧
      view (Chain.processRequest [quick] request t).2.2 = view (Chain.processRequest [entry] request s).2.2 ∧
      (Chain.delays [quick] request t).Sublist (Chain.delays [entry] request s) := by
  have respects := sees.entries entry (List.mem_singleton.mpr rfl)
  have asked := respects.beforeRequest request t s same
  simp only [Chain.delays_single, Chain.processRequest, hurries.accepts request t, respects.accepts request t s same]
  split
  next accepts =>
    -- they do the same, and then the notes of a delay do not show, or there is a delay on the one side only
    rcases hurries.beforeRequest request t with alike | ⟨milliseconds, left, u, held, quick_eq⟩
    · rw [alike]
      generalize entry.beforeRequest request t = here at asked ⊢
      generalize entry.beforeRequest request s = there at asked ⊢
      obtain ⟨answer, left, u⟩ := here
      obtain ⟨_, _, v⟩ := there
      obtain ⟨rfl, rfl, later⟩ := asked
      cases answer with
      | proceed | abort | mock => exact ⟨rfl, rfl, later, .refl _⟩
      | delay milliseconds =>
        refine ⟨rfl, rfl, ?_, .refl _⟩
        exact (sees.delayed _ u).trans (later.trans (sees.delayed _ v).symm)
    · rw [held] at asked
      rw [quick_eq]
      generalize entry.beforeRequest request s = there at asked ⊢
      obtain ⟨_, _, v⟩ := there
      obtain ⟨rfl, rfl, later⟩ := asked
      exact ⟨rfl, rfl, later.trans (sees.delayed _ v).symm, List.nil_sublist _⟩
  next => exact ⟨rfl, rfl, same, .refl _⟩

namespace Chain

variable [Journal σ] {view : σ → α} {chain quick : Chain σ}

/-- A chain in a hurry does the same, and holds a request up less. -/
theorem processRequest_of_hurries (sees : chain.Sees view) (hurries : List.Forall₂ Entry.Hurries chain quick) :
    ∀ (place : Nat) (request : Request) {s t : σ}, view t = view s →
      (quick.processRequest request t).1 = (chain.processRequest request s).1 ∧
      (quick.processRequest request t).2.1 = (chain.processRequest request s).2.1 ∧
      view (quick.processRequest request t).2.2 = view (chain.processRequest request s).2.2 ∧
      requestEvents place (quick.map .other) request t = requestEvents place (chain.map .other) request s ∧
      (quick.delays request t).Sublist (chain.delays request s) := by
  induction hurries with
  | nil => exact fun _ _ _ _ same => ⟨rfl, rfl, same, rfl, .refl _⟩
  | @cons entry quick rest others hurries _ ih =>
    intro place request s t same
    have ih := ih (sees.mono (List.subset_cons_self entry rest))
    have first : Chain.Sees [entry] view := sees.mono (by simp)
    have accepts_eq : quick.accepts request t = entry.accepts request s :=
      (hurries.accepts request t).trans ((first.entries entry (List.mem_singleton.mpr rfl)).accepts request t s same)
    have going := hurries.processRequest first request same
    -- where the first entry does not accept the request, the rest is called as if it were not there
    have skipped := (ih (place + 1) request same).2.2.2.1
    rw [processRequest_cons quick, processRequest_cons entry, delays_cons quick, delays_cons entry, List.map_cons,
      List.map_cons, requestEvents_other, requestEvents_other, accepts_eq, skipped]
    generalize processRequest [quick] request t = here at going ⊢
    generalize processRequest [entry] request s = there at going ⊢
    obtain ⟨answer, left, u⟩ := here
    obtain ⟨_, _, v⟩ := there
    obtain ⟨rfl, rfl, later, shorter⟩ := going
    cases answer with
    | proceed =>
      obtain ⟨answer_eq, request_eq, view_eq, events_eq, fewer⟩ := ih (place + 1) left (s := v) (t := u) later
      exact ⟨answer_eq, request_eq, view_eq, by simp only [events_eq], shorter.append fewer⟩
    | abort | mock | delay => exact ⟨rfl, rfl, later, rfl, shorter.append (.refl _)⟩

theorem requestCalls_eq (chain : Chain σ) (request : Request) (s : σ) :
    chain.requestCalls request s = requestEvents 0 (chain.map .other) request s := by
  rw [requestCalls, processRequest_watched, List.nil_append]

/-- **Chains compose, and their delays take time only.** A chain that is made of two sends a request through the one and
then, if it was let go, through the other, which takes over the request and the state; a response likewise, if it
passed; and it tells both of an error. The empty chain changes nothing. No chain answers a request with a delay. Where
entries let requests go on at once that others hold up, the chain gives the same answer and leaves the same request and
the same to be seen by its entries; the same entries are called, with the same requests; and there are only some of
the delays left. -/
theorem composes_and_only_waits :
    (∀ (front back : Chain σ) (request : Request) (s : σ), processRequest (front ++ back) request s =
      match front.processRequest request s with
      | (.proceed, request, s) => back.processRequest request s
      | answer => answer) ∧
    (∀ (front back : Chain σ) (request : Request) (response : Response) (s : σ),
      processResponse (front ++ back) request response s =
        match front.processResponse request response s with
        | (.ok (), response, s) => back.processResponse request response s
        | refusal => refusal) ∧
    (∀ (front back : Chain σ) (request : Request) (error : Error) (s : σ),
      notifyError (front ++ back) request error s =
        back.notifyError request error (front.notifyError request error s)) ∧
    (∀ (request : Request) (response : Response) (error : Error) (s : σ),
      processRequest [] request s = (.proceed, request, s) ∧
      processResponse [] request response s = (.ok (), response, s) ∧ notifyError [] request error s = s) ∧
    (∀ (chain : Chain σ) (request : Request) (s : σ) (milliseconds : Nat),
      (chain.processRequest request s).1 ≠ .delay milliseconds) ∧
    ∀ (view : σ → α) (chain quick : Chain σ), chain.Sees view → List.Forall₂ Entry.Hurries chain quick →
      ∀ (request : Request) (s : σ),
        (quick.processRequest request s).1 = (chain.processRequest request s).1 ∧
        (quick.processRequest request s).2.1 = (chain.processRequest request s).2.1 ∧
        view (quick.processRequest request s).2.2 = view (chain.processRequest request s).2.2 ∧
        quick.requestCalls request s = chain.requestCalls request s ∧
        (quick.delays request s).Sublist (chain.delays request s) := by
  refine ⟨processRequest_append, processResponse_append, notifyError_append, fun _ _ _ _ => ⟨rfl, rfl, rfl⟩, ?_, ?_⟩
  · exact fun chain request s milliseconds => processRequest_ne_delay milliseconds chain request s
  · intro view chain quick sees hurries request s
    rw [requestCalls_eq, requestCalls_eq]
    exact processRequest_of_hurries sees hurries 0 request rfl

end Chain

namespace Turnstile

/-- Counts the requests, and holds all but the first up. -/
def limiter : Interceptor Nat where
  name := "limiter"
  beforeRequest request count := (if count = 0 then .proceed else .delay 250, request, count + 1)

/-- Sends requests to the secure server, once there are several. -/
def upgrade : Interceptor Nat where
  accepts request count := request.url.scheme = "http" && 2 ≤ count
  beforeRequest request count := (.proceed, { request with url := { request.url with scheme := "https" } }, count)

/-- Writes about requests to secure servers. -/
def logger : RequestLogger where
  urlFilter := some "https:"

def rest : Chain (List Note × Nat) := [⟨upgrade.owning, ⟨"upgrade"⟩⟩, ⟨logger.toInterceptor, ⟨"logger"⟩⟩]

def chain : Chain (List Note × Nat) := ⟨limiter.owning, ⟨"limiter"⟩⟩ :: rest

def quick : Chain (List Note × Nat) := Entry.prompt ⟨limiter.owning, ⟨"limiter"⟩⟩ :: rest

def request : Request where
  url := { scheme := "http", host := some (.name "example.com"), path := .segments [""] }

/-- The request as the chain leaves it. -/
def secured : Request where
  url := { scheme := "https", host := some (.name "example.com"), path := .segments [""] }

end Turnstile

/-- The second request is no longer held up. It is counted and rewritten as before, and the logger, who would not have
cared about the request as it came, is called. -/
theorem Turnstile.second_goes_on_at_once :
    Turnstile.chain.Sees Prod.snd ∧ List.Forall₂ Entry.Hurries Turnstile.chain Turnstile.quick ∧
      Turnstile.chain.delays request ([], 1) = [250] ∧ Turnstile.quick.delays request ([], 1) = [] ∧
      (Turnstile.quick.processRequest request ([], 1)).1 = .proceed ∧
      (Turnstile.quick.processRequest request ([], 1)).2.1 = secured ∧
      (Turnstile.quick.processRequest request ([], 1)).2.2.2 = 2 ∧
      Turnstile.quick.requestCalls request ([], 1) =
        [.before 0 request, .before 1 request, .before 2 secured] := by
  have sees : Turnstile.chain.Sees Prod.snd := by
    refine ⟨fun _ _ => rfl, fun entry mem => ?_⟩
    simp only [chain, rest, List.mem_cons, List.not_mem_nil, or_false] at mem
    rcases mem with rfl | rfl | rfl
    · exact limiter.respects_owning
    · exact upgrade.respects_owning
    · exact logger.respects fun _ _ _ same => same
  have hurries : List.Forall₂ Entry.Hurries Turnstile.chain Turnstile.quick :=
    .cons (Entry.hurries_prompt _) (.cons (Entry.hurries_self _) (.cons (Entry.hurries_self _) .nil))
  obtain ⟨-, -, -, -, -, hurrying⟩ := @Chain.composes_and_only_waits (List Note × Nat) Nat _
  obtain ⟨answer_eq, request_eq, count_eq, calls_eq, -⟩ := hurrying Prod.snd _ _ sees hurries request ([], 1)
  exact ⟨sees, hurries, rfl, rfl, answer_eq.trans rfl, request_eq.trans rfl, count_eq.trans rfl, calls_eq.trans rfl⟩

end Transparency
