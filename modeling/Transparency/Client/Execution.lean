import Transparency.Client.Basic

/-!
# Executions side by side

A client may work on several requests at once. Each of them is then an `Execution`, which goes on by single steps: one
call of an interceptor, or the sending of the request. Steps of different executions may follow each other in any
order; they all work on the same state.

`Client.executeAll` starts the executions in the order of the requests and lets each go on until it has to wait for a
delay. Whenever a delay is over, the executions that wait no longer go on, again in the order of the requests.
-/

namespace Transparency

/-- How far the work on a request has come. -/
inductive Execution (σ : Type) where
  /-- the request still has to go through these entries -/
  | requesting (rest : Chain σ) (request : Request)
  /-- the request is ready to be sent -/
  | sending (request : Request)
  /-- the response still has to go through these entries -/
  | responding (rest : Chain σ) (request : Request) (response : Response)
  /-- these entries still have to be told of the error -/
  | notifying (rest : Chain σ) (request : Request) (error : Error)
  | finished (result : Except Error Response)

namespace Execution

variable {σ : Type}

/-- What came of the request, if the work on it is done. -/
def result? : Execution σ → Option (Except Error Response)
  | finished result => some result
  | _ => none

/-- A bound on the number of steps that are left, for a chain of some length. -/
def stepsLeft (length : Nat) : Execution σ → Nat
  | requesting rest _ => rest.length + length + 3
  | sending _ => length + 2
  | responding rest _ _ => rest.length + 1
  | notifying rest _ _ => rest.length + 1
  | finished _ => 0

/-- One step, and how long to wait after it. A finished execution stays as it is. -/
def step [Journal σ] (chain : Chain σ) (transport : Transport σ) : Execution σ → σ → Execution σ × Option Nat × σ
  | requesting [] request, s => (sending request, none, s)
  | requesting (entry :: rest) request, s =>
    if entry.accepts request s then
      match entry.beforeRequest request s with
      | (.proceed, request, s) => (requesting rest request, none, s)
      | (.delay milliseconds, request, s) =>
        (requesting rest request, some milliseconds,
          note .debug "Delaying request" [("interceptor", entry.name), ("delay_ms", toString milliseconds)] s)
      | (.abort reason, request, s) =>
        let (result, s) := Client.giveUp request reason s
        (finished result, none, s)
      | (.mock response, _, s) => (finished (.ok response), none, s)
    else (requesting rest request, none, s)
  | sending request, s =>
    match transport request s with
    | (.ok response, s) => (responding chain request response, none, s)
    | (.error error, s) => (notifying chain request error, none, s)
  | responding [] _ response, s => (finished (.ok response), none, s)
  | responding (entry :: rest) request response, s =>
    if entry.accepts request s then
      match entry.afterResponse request response s with
      | (.ok (), response, s) => (responding rest request response, none, s)
      | (.error error, _, s) => (finished (.error error), none, s)
    else (responding rest request response, none, s)
  | notifying [] _ error, s => (finished (.error error), none, s)
  | notifying (entry :: rest) request error, s =>
    (notifying rest request error, none, if entry.accepts request s then entry.onError request error s else s)
  | finished result, s => (finished result, none, s)

/-- A step brings the end nearer. -/
theorem stepsLeft_step_lt [Journal σ] (chain : Chain σ) (transport : Transport σ) (execution : Execution σ) (s : σ)
    (h : execution.result? = none) :
    (step chain transport execution s).1.stepsLeft chain.length < execution.stepsLeft chain.length := by
  fun_cases step chain transport execution s
  case case15 => cases h
  all_goals
    simp only [stepsLeft, List.length_cons]
    omega

/-- Goes on until the work is done or there is a delay, and tells the delay. -/
def advance [Journal σ] (chain : Chain σ) (transport : Transport σ) (execution : Execution σ) (s : σ) :
    Execution σ × Option Nat × σ :=
  match _h : execution.result? with
  | some _ => (execution, none, s)
  | none =>
    match _hs : step chain transport execution s with
    | (next, some delay, after) => (next, some delay, after)
    | (next, none, after) => advance chain transport next after
termination_by execution.stepsLeft chain.length
decreasing_by
  have := stepsLeft_step_lt chain transport execution s _h
  rw [_hs] at this
  exact this

/-- Goes on until the work is done, without minding delays. -/
def complete [Journal σ] (chain : Chain σ) (transport : Transport σ) (execution : Execution σ) (s : σ) :
    Except Error Response × σ :=
  match _h : execution.result? with
  | some result => (result, s)
  | none =>
    match _hs : step chain transport execution s with
    | (next, _, after) => complete chain transport next after
termination_by execution.stepsLeft chain.length
decreasing_by
  have := stepsLeft_step_lt chain transport execution s _h
  rw [_hs] at this
  exact this

end Execution

/-- An execution, and the time from which on it need not wait. -/
structure Task (σ : Type) where
  due : Nat
  execution : Execution σ

namespace Task

variable {σ : Type} [Journal σ]

/-- Lets every task that need not wait go on as far as it can, in order. -/
def round (chain : Chain σ) (transport : Transport σ) (now : Nat) : List (Task σ) → σ → List (Task σ) × σ
  | [], s => ([], s)
  | task :: rest, s =>
    if task.due ≤ now then
      let (execution, delay, s) := task.execution.advance chain transport s
      let (rest, s) := round chain transport now rest s
      (⟨now + delay.getD 0, execution⟩ :: rest, s)
    else
      let (rest, s) := round chain transport now rest s
      (task :: rest, s)

/-- The time at which the first of the waiting tasks may go on, if there is one. -/
def nextDue? (tasks : List (Task σ)) : Option Nat :=
  ((tasks.filter fun task => task.execution.result?.isNone).map (·.due)).min?

/-- At most so many rounds, each at the time at which some task may go on. -/
def rounds (chain : Chain σ) (transport : Transport σ) : (count : Nat) → List (Task σ) → σ → List (Task σ) × σ
  | 0, tasks, s => (tasks, s)
  | count + 1, tasks, s =>
    match nextDue? tasks with
    | none => (tasks, s)
    | some now =>
      let (tasks, s) := round chain transport now tasks s
      rounds chain transport count tasks s

/-- Brings all tasks to their ends, one after the other. -/
def completeAll (chain : Chain σ) (transport : Transport σ) :
    List (Task σ) → σ → List (Except Error Response) × σ
  | [], s => ([], s)
  | task :: rest, s =>
    let (result, s) := task.execution.complete chain transport s
    let (results, s) := completeAll chain transport rest s
    (result :: results, s)

end Task

/-- Works on several requests at once. The results are in the order of the requests. Every round but the last serves a
delay, so there are no more rounds than entries to be run, and one. -/
def Client.executeAll {σ : Type} [Journal σ] (client : Client σ) (transport : Transport σ) (requests : List Request)
    (s : σ) : List (Except Error Response) × σ :=
  let tasks := requests.map fun request => ⟨0, .requesting client.chain request⟩
  let (tasks, s) := Task.rounds client.chain transport (requests.length * client.chain.length + 1) tasks s
  Task.completeAll client.chain transport tasks s

end Transparency
