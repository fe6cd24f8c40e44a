import Transparency.Proofs.Client.Stepping

/-!
# Interleaving

A `Batch` is the executions of several requests on one state. A schedule says whose turn it is, step by step; any list
of places is a schedule, and `Client.executeAll` follows one of them (`Batch.reaches_executeAll`).

Whatever the schedule is, each execution of the batch only takes its own steps, in the states that it meets
(`Batch.getElem?_run`). The other executions reach it through the state alone: their ends, failures included, neither
end it nor put it off. With a steady client the state does not matter either, and every execution ends as if it were
alone (`Batch.results_of_reaches`).
-/

namespace Transparency

variable {σ : Type} [Journal σ]

omit [Journal σ] in
/-- Executions that share a state. -/
structure Batch (σ : Type) where
  executions : List (Execution σ)
  state : σ

namespace Batch

omit [Journal σ] in
/-- The executions of some requests, before their first steps. -/
def start (chain : Chain σ) (requests : List Request) (s : σ) : Batch σ :=
  ⟨requests.map fun request => .requesting chain request, s⟩

variable (chain : Chain σ) (transport : Transport σ)

/-- One step of the execution at a place, if there is one. -/
def turn (batch : Batch σ) (place : Nat) : Batch σ :=
  match batch.executions[place]? with
  | none => batch
  | some execution =>
    let (next, _, s) := execution.step chain transport batch.state
    ⟨batch.executions.set place next, s⟩

/-- One step at each place of a schedule, in order. -/
def run (schedule : List Nat) (batch : Batch σ) : Batch σ := schedule.foldl (turn chain transport) batch

/-- The states in which a place has its turns. -/
def met (place : Nat) : List Nat → Batch σ → List σ
  | [], _ => []
  | next :: schedule, batch =>
    if next = place then batch.state :: met place schedule (batch.turn chain transport next)
    else met place schedule (batch.turn chain transport next)

variable {chain transport}

/-! ## Places do not disturb each other -/

theorem turn_of_getElem? {batch : Batch σ} {place : Nat} {execution : Execution σ}
    (here : batch.executions[place]? = some execution) :
    batch.turn chain transport place =
      ⟨batch.executions.set place (execution.step chain transport batch.state).1,
        (execution.step chain transport batch.state).2.2⟩ := by
  rw [turn, here]

theorem turn_of_none {batch : Batch σ} {place : Nat} (nobody : batch.executions[place]? = none) :
    batch.turn chain transport place = batch := by
  rw [turn, nobody]

/-- The execution whose turn it is takes a step in the state of the batch. -/
theorem getElem?_turn_self (batch : Batch σ) (place : Nat) :
    (batch.turn chain transport place).executions[place]? =
      batch.executions[place]?.map fun execution => (execution.step chain transport batch.state).1 := by
  rcases here : batch.executions[place]? with _ | execution
  · rw [turn_of_none here, here]
    rfl
  · obtain ⟨inside, -⟩ := List.getElem?_eq_some_iff.mp here
    rw [turn_of_getElem? here]
    exact List.getElem?_set_self inside

/-- The others stay as they are. -/
theorem getElem?_turn_of_ne (batch : Batch σ) {place other : Nat} (ne : other ≠ place) :
    (batch.turn chain transport other).executions[place]? = batch.executions[place]? := by
  rcases there : batch.executions[other]? with _ | execution
  · rw [turn_of_none there]
  · rw [turn_of_getElem? there]
    exact List.getElem?_set_ne ne

@[simp] theorem length_turn (batch : Batch σ) (place : Nat) :
    (batch.turn chain transport place).executions.length = batch.executions.length := by
  rcases here : batch.executions[place]? with _ | execution
  · rw [turn_of_none here]
  · rw [turn_of_getElem? here]
    exact List.length_set

@[simp] theorem run_nil (batch : Batch σ) : batch.run chain transport [] = batch := rfl

theorem run_cons (place : Nat) (schedule : List Nat) (batch : Batch σ) :
    batch.run chain transport (place :: schedule) =
      (batch.turn chain transport place).run chain transport schedule := rfl

theorem run_append (schedule later : List Nat) (batch : Batch σ) :
    batch.run chain transport (schedule ++ later) =
      (batch.run chain transport schedule).run chain transport later := List.foldl_append

@[simp] theorem length_run (schedule : List Nat) (batch : Batch σ) :
    (batch.run chain transport schedule).executions.length = batch.executions.length := by
  induction schedule generalizing batch with
  | nil => rfl
  | cons place schedule ih => rw [run_cons, ih, length_turn]

variable (chain transport) in
/-- A place meets a state for each of its turns. -/
theorem length_met (place : Nat) (schedule : List Nat) (batch : Batch σ) :
    (batch.met chain transport place schedule).length = schedule.count place := by
  induction schedule generalizing batch with
  | nil => rfl
  | cons next schedule ih =>
    rw [met]
    split
    next here => rw [List.length_cons, ih, here, List.count_cons_self]
    next elsewhere => rw [ih, List.count_cons_of_ne elsewhere]

/-- **An execution of a batch goes its own way.** After any schedule it is where its own steps, in the states that it
met, have brought it. -/
theorem getElem?_run (place : Nat) (schedule : List Nat) (batch : Batch σ) :
    (batch.run chain transport schedule).executions[place]? =
      batch.executions[place]?.map (Execution.along chain transport (batch.met chain transport place schedule)) := by
  induction schedule generalizing batch with
  | nil => exact Option.map_id'.symm
  | cons next schedule ih =>
    rw [run_cons, ih, met]
    split
    next here =>
      rw [here, getElem?_turn_self, Option.map_map]
      rfl
    next elsewhere => rw [getElem?_turn_of_ne batch elsewhere]

/-- Who has had so many turns is finished, whatever became of the others. -/
theorem isSome_of_count {place : Nat} {schedule : List Nat} {batch : Batch σ} {execution : Execution σ}
    (here : batch.executions[place]? = some execution)
    (enough : execution.stepsLeft chain.length ≤ schedule.count place) :
    ∃ result, (batch.run chain transport schedule).executions[place]? = some (.finished result) := by
  rw [← length_met chain transport place schedule batch] at enough
  obtain ⟨result, ended⟩ := Option.isSome_iff_exists.mp (Execution.isSome_along enough)
  rw [getElem?_run, here, Option.map_some, Execution.eq_finished ended]
  exact ⟨result, rfl⟩

/-- Who is finished stays so. -/
theorem getElem?_run_finished {place : Nat} {batch : Batch σ} {result : Except Error Response}
    (ended : batch.executions[place]? = some (.finished result)) (schedule : List Nat) :
    (batch.run chain transport schedule).executions[place]? = some (.finished result) := by
  rw [getElem?_run, ended, Option.map_some, Execution.along_finished]

/-! ## Whole batches -/

/-- No execution runs an entry that the chain does not have. -/
def Within (chain : Chain σ) (batch : Batch σ) : Prop := ∀ execution ∈ batch.executions, execution.rest ⊆ chain

omit [Journal σ] in
theorem within_start (requests : List Request) (s : σ) : (start chain requests s).Within chain := by
  intro execution mem
  obtain ⟨request, -, rfl⟩ := List.mem_map.mp mem
  exact List.Subset.refl chain

variable (transport) in
theorem Within.turn {batch : Batch σ} (within : batch.Within chain) (place : Nat) :
    (batch.turn chain transport place).Within chain := by
  rcases here : batch.executions[place]? with _ | execution
  · rw [turn_of_none here]
    exact within
  · rw [turn_of_getElem? here]
    intro other mem
    obtain old | rfl := List.mem_or_eq_of_mem_set mem
    · exact within other old
    · exact Execution.rest_step (within execution (List.mem_of_getElem? here)) batch.state

variable (transport) in
theorem Within.run {batch : Batch σ} (within : batch.Within chain) (schedule : List Nat) :
    (batch.run chain transport schedule).Within chain := by
  induction schedule generalizing batch with
  | nil => exact within
  | cons place schedule ih => exact ih (within.turn transport place)

/-- **What nobody can tell apart makes no difference**: by the same schedule, executions come equally far from states
that are alike. -/
theorem run_congr {client : Client σ} {alike : σ → σ → Prop} (respects : client.Respects transport alike)
    (schedule : List Nat) :
    ∀ {executions : List (Execution σ)} {s t : σ}, Within client.chain ⟨executions, s⟩ → alike s t →
      ((⟨executions, s⟩ : Batch σ).run client.chain transport schedule).executions =
          ((⟨executions, t⟩ : Batch σ).run client.chain transport schedule).executions ∧
        alike ((⟨executions, s⟩ : Batch σ).run client.chain transport schedule).state
          ((⟨executions, t⟩ : Batch σ).run client.chain transport schedule).state := by
  induction schedule with
  | nil => exact fun _ same => ⟨rfl, same⟩
  | cons place schedule ih =>
    intro executions s t within same
    have later := within.turn transport place
    rw [run_cons, run_cons]
    rcases here : executions[place]? with _ | execution
    · rw [turn_of_none here, turn_of_none here]
      exact ih within same
    · obtain ⟨next_eq, same⟩ := Execution.step_congr respects (within execution (List.mem_of_getElem? here)) same
      rw [turn_of_getElem? here] at later ⊢
      rw [turn_of_getElem? here, ← next_eq]
      exact ih later same

/-! ## What a client does is one of the schedules -/

/-- Some schedule leads from a batch to another. -/
def Reaches (chain : Chain σ) (transport : Transport σ) (batch later : Batch σ) : Prop :=
  ∃ schedule, batch.run chain transport schedule = later

theorem Reaches.refl (batch : Batch σ) : Reaches chain transport batch batch := ⟨[], rfl⟩

theorem Reaches.trans {batch later last : Batch σ} (first : Reaches chain transport batch later)
    (second : Reaches chain transport later last) : Reaches chain transport batch last := by
  obtain ⟨schedule, rfl⟩ := first
  obtain ⟨further, rfl⟩ := second
  exact ⟨schedule ++ further, run_append schedule further batch⟩

variable (chain transport) (before after : List (Execution σ))

/-- The execution between some others takes a step. -/
theorem reaches_step (execution : Execution σ) (s : σ) :
    Reaches chain transport ⟨before ++ execution :: after, s⟩
      ⟨before ++ (execution.step chain transport s).1 :: after, (execution.step chain transport s).2.2⟩ := by
  have here : (before ++ execution :: after)[before.length]? = some execution := by simp
  refine ⟨[before.length], ?_⟩
  rw [run_cons, turn_of_getElem? here, run_nil]
  simp

/-- It goes on until it is finished or has to wait. -/
theorem reaches_advance (execution : Execution σ) (s : σ) :
    Reaches chain transport ⟨before ++ execution :: after, s⟩
      ⟨before ++ (execution.advance chain transport s).1 :: after, (execution.advance chain transport s).2.2⟩ := by
  have stepped := reaches_step chain transport before after
  fun_induction Execution.advance chain transport execution s with
  | case1 => exact .refl _
  | case2 execution s _ next delay later step_eq =>
    have stepped := stepped execution s
    rw [step_eq] at stepped
    exact stepped
  | case3 execution s _ next later step_eq ih =>
    have stepped := stepped execution s
    rw [step_eq] at stepped
    exact stepped.trans ih

/-- It goes on to its end. -/
theorem reaches_complete (execution : Execution σ) (s : σ) :
    Reaches chain transport ⟨before ++ execution :: after, s⟩
      ⟨before ++ .finished (execution.complete chain transport s).1 :: after,
        (execution.complete chain transport s).2⟩ := by
  have stepped := reaches_step chain transport before after
  fun_induction Execution.complete chain transport execution s with
  | case1 execution s result ended =>
    cases execution with
    | finished => obtain rfl := Option.some.inj ended; exact .refl _
    | requesting | sending | responding | notifying => cases ended
  | case2 execution s _ next delay later step_eq ih =>
    have stepped := stepped execution s
    rw [step_eq] at stepped
    exact stepped.trans ih

/-- A round gives turns to those that need not wait. -/
theorem reaches_round (now : Nat) (tasks : List (Task σ)) (s : σ) :
    Reaches chain transport ⟨before ++ tasks.map (·.execution), s⟩
      ⟨before ++ (Task.round chain transport now tasks s).1.map (·.execution),
        (Task.round chain transport now tasks s).2⟩ := by
  induction tasks generalizing before s with
  | nil => exact .refl _
  | cons task rest ih =>
    rw [Task.round]
    split
    · -- the first task goes on, then the round goes on behind it
      have advanced := reaches_advance chain transport before (rest.map (·.execution))
        task.execution s
      generalize task.execution.advance chain transport s = went at advanced ⊢
      obtain ⟨next, delay, later⟩ := went
      have rounded := ih (before ++ [next]) later
      rw [List.append_assoc, List.append_assoc] at rounded
      exact advanced.trans rounded
    · have rounded := ih (before ++ [task.execution]) s
      rw [List.append_assoc, List.append_assoc] at rounded
      exact rounded

theorem reaches_rounds (count : Nat) (tasks : List (Task σ)) (s : σ) :
    Reaches chain transport ⟨tasks.map (·.execution), s⟩
      ⟨(Task.rounds chain transport count tasks s).1.map (·.execution),
        (Task.rounds chain transport count tasks s).2⟩ := by
  induction count generalizing tasks s with
  | zero => exact .refl _
  | succ count ih =>
    rw [Task.rounds]
    split
    · exact .refl _
    · exact (reaches_round chain transport [] _ tasks s).trans (ih _ _)

theorem reaches_completeAll (tasks : List (Task σ)) (s : σ) :
    Reaches chain transport ⟨before ++ tasks.map (·.execution), s⟩
      ⟨before ++ (Task.completeAll chain transport tasks s).1.map .finished,
        (Task.completeAll chain transport tasks s).2⟩ := by
  induction tasks generalizing before s with
  | nil => exact .refl _
  | cons task rest ih =>
    have completed := reaches_complete chain transport before (rest.map (·.execution))
      task.execution s
    rw [Task.completeAll]
    generalize task.execution.complete chain transport s = ended at completed ⊢
    obtain ⟨result, later⟩ := ended
    have others := ih (before ++ [.finished result]) later
    rw [List.append_assoc, List.append_assoc] at others
    exact completed.trans others

/-- **Working on several requests at once is following a schedule**, up to the end of every execution. -/
theorem reaches_executeAll (client : Client σ) (transport : Transport σ) (requests : List Request) (s : σ) :
    Reaches client.chain transport (start client.chain requests s)
      ⟨(client.executeAll transport requests s).1.map .finished, (client.executeAll transport requests s).2⟩ := by
  have rounded := reaches_rounds client.chain transport (requests.length * client.chain.length + 1)
    (requests.map fun request => ⟨0, .requesting client.chain request⟩) s
  rw [List.map_map] at rounded
  exact rounded.trans (reaches_completeAll client.chain transport [] _ _)

end Batch

/-- Works on several requests, on each when those before it are done. -/
def Client.executeEach (client : Client σ) (transport : Transport σ) :
    List Request → σ → List (Except Error Response) × σ
  | [], s => ([], s)
  | request :: rest, s =>
    let (result, s) := client.execute transport request s
    let (results, s) := executeEach client transport rest s
    (result :: results, s)

theorem Client.executeEach_eq_completeAll (client : Client σ) (transport : Transport σ) (requests : List Request)
    (s : σ) :
    client.executeEach transport requests s =
      Task.completeAll client.chain transport
        (requests.map fun request => ⟨0, .requesting client.chain request⟩) s := by
  induction requests generalizing s with
  | nil => rfl
  | cons request rest ih =>
    rw [executeEach, List.map_cons, Task.completeAll, Execution.complete_start]
    simp only [ih]

namespace Batch

/-- Working on one request after the other is following a schedule, too. -/
theorem reaches_executeEach (client : Client σ) (transport : Transport σ) (requests : List Request) (s : σ) :
    Reaches client.chain transport (start client.chain requests s)
      ⟨(client.executeEach transport requests s).1.map .finished, (client.executeEach transport requests s).2⟩ := by
  have completed := reaches_completeAll client.chain transport []
    (requests.map fun request => ⟨0, .requesting client.chain request⟩) s
  rw [List.map_map] at completed
  rw [client.executeEach_eq_completeAll]
  exact completed

/-! ## What the place of a request says -/

variable {client : Client σ} {transport : Transport σ} {requests : List Request} {s : σ}

variable (client transport requests s) in
/-- The execution of a request after a schedule. -/
theorem getElem?_run_start (place : Nat) (schedule : List Nat) :
    ((start client.chain requests s).run client.chain transport schedule).executions[place]? =
      requests[place]?.map fun request =>
        (Execution.requesting client.chain request).along client.chain transport
          ((start client.chain requests s).met client.chain transport place schedule) := by
  rw [getElem?_run, start, List.getElem?_map, Option.map_map]
  rfl

/-- There is a result for each request. -/
theorem length_of_reaches {results : List (Except Error Response)} {t : σ}
    (ended : Reaches client.chain transport (start client.chain requests s) ⟨results.map .finished, t⟩) :
    results.length = requests.length := by
  obtain ⟨schedule, ended⟩ := ended
  have length_eq := congrArg (·.executions.length) ended
  simp only [length_run, start, List.length_map] at length_eq
  exact length_eq.symm

/-- The result at the place of a request is what the execution of the request came to. -/
theorem along_of_reaches {results : List (Except Error Response)} {t : σ}
    (ended : Reaches client.chain transport (start client.chain requests s) ⟨results.map .finished, t⟩)
    {place : Nat} {request : Request} (asked : requests[place]? = some request) :
    ∃ states result, results[place]? = some result ∧
      (Execution.requesting client.chain request).along client.chain transport states = .finished result := by
  obtain ⟨schedule, ended⟩ := ended
  have went := getElem?_run_start client transport requests s place schedule
  rw [ended, asked, List.getElem?_map] at went
  obtain ⟨result, at_place, went⟩ := Option.map_eq_some_iff.mp went
  exact ⟨_, result, at_place, went.symm⟩

/-- An execution of a steady client that is finished has the result that it would have had alone. -/
theorem execute_of_run (steady : client.Steady transport) {place : Nat} {schedule : List Nat} {request : Request}
    {result : Except Error Response} (asked : requests[place]? = some request)
    (ended : ((start client.chain requests s).run client.chain transport schedule).executions[place]? =
      some (.finished result)) (t : σ) :
    (client.execute transport request t).1 = result := by
  rw [getElem?_run_start, asked, Option.map_some] at ended
  exact Execution.execute_of_along steady (Option.some.inj ended) t

/-- The results of a steady client are those of its requests by themselves. -/
theorem results_of_reaches (steady : client.Steady transport) {results : List (Except Error Response)} {t : σ}
    (ended : Reaches client.chain transport (start client.chain requests s) ⟨results.map .finished, t⟩) (u : σ) :
    results = requests.map fun request => (client.execute transport request u).1 := by
  have same_length := length_of_reaches ended
  refine List.ext_getElem (by rw [same_length, List.length_map]) fun place inside _ => ?_
  have asked : requests[place]? = some requests[place] := List.getElem?_eq_getElem (same_length ▸ inside)
  obtain ⟨states, result, at_place, went⟩ := along_of_reaches ended asked
  rw [List.getElem_map, Execution.execute_of_along steady went u]
  exact Option.some.inj ((List.getElem?_eq_getElem inside).symm.trans at_place)

end Batch

end Transparency
