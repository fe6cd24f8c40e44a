import Transparency.Proofs.Client.Passes
import Transparency.Proofs.Manager.Fleet

/-!
# A builder and its manager

A manager that is a pass of one builder, and is called by nobody else, cannot lose track of the builder's chain: it is
enabled exactly while the chain holds one copy of its inspector, and the chain holds none otherwise. The other passes
may do anything to the chain but put that inspector in or take it out, and they may fail; so may the manager, and so
may the making of the client after all passes. A build that fails keeps what its passes have done so far.

The reason is that every pass keeps the manager's memory and the chain `Coherent`: the manager's own, since what it does
is a turn (`Manager.keeps_toPass`), the others since they leave both alone (`Pass.Spares.keeps`).
-/

namespace Transparency

variable {σ τ : Type}

/-! ## Memory and chain -/

/-- What a manager remembers agrees with a chain. -/
structure Coherent (handle : Handle) (memory : ManagerState σ) (chain : Chain σ) : Prop where
  fits : memory.Fits handle
  /-- the chain holds one copy of the inspector, or none -/
  countSame_eq : chain.countSame handle = if memory.isEnabled then 1 else 0

namespace Coherent

variable {handle : Handle} {memory memory' : ManagerState σ} {chain chain' : Chain σ} {manager : Manager σ}
  {desired : Bool} {result : Except Error Change}

theorem isEnabled_iff (coherent : Coherent handle memory chain) :
    memory.isEnabled = true ↔ chain.countSame handle = 1 := by
  rw [coherent.countSame_eq]
  cases memory.isEnabled <;> decide

theorem not_isEnabled_iff (coherent : Coherent handle memory chain) :
    memory.isEnabled = false ↔ chain.countSame handle = 0 := by
  rw [coherent.countSame_eq]
  cases memory.isEnabled <;> decide

/-- A turn takes a chain that agrees with the manager to one that does. -/
theorem turn (coherent : Coherent manager.handle memory chain)
    (turn : manager.Turn desired chain memory result chain' memory') : Coherent manager.handle memory' chain' := by
  refine ⟨turn.fits coherent.fits, ?_⟩
  rw [turn.countSame_eq, turn.isEnabled_eq, coherent.countSame_eq]
  cases result.isOk <;> cases desired <;> cases memory.isEnabled <;> rfl

end Coherent

/-! ## Passes beside a manager -/

/-- A pass that has nothing to do with a manager: it neither puts a copy of the manager's inspector in nor takes one
out, and it does not touch what the manager remembers. -/
structure Pass.Spares (handle : Handle) (memory : Cell τ (ManagerState σ)) (pass : Pass σ τ) : Prop where
  countSame_eq : ∀ chain t, (pass chain t).2.1.countSame handle = chain.countSame handle
  memory_eq : ∀ chain t, memory.get (pass chain t).2.2 = memory.get t

/-- The pass leaves memory and chain in agreement, whether it fails or not. -/
def Pass.Keeps (handle : Handle) (memory : Cell τ (ManagerState σ)) (pass : Pass σ τ) : Prop :=
  ∀ chain t, Coherent handle (memory.get t) chain →
    Coherent handle (memory.get (pass chain t).2.2) (pass chain t).2.1

section Passes

variable {handle : Handle} {memory : Cell τ (ManagerState σ)} {shared : Cell τ σ} {passes : List (Pass σ τ)}

theorem Pass.Spares.keeps {pass : Pass σ τ} (spares : pass.Spares handle memory) : pass.Keeps handle memory := by
  intro chain t coherent
  rw [spares.memory_eq]
  exact ⟨coherent.fits, (spares.countSame_eq chain t).trans coherent.countSame_eq⟩

theorem spares_runPasses (spare : ∀ pass ∈ passes, Pass.Spares handle memory pass) :
    Pass.Spares handle memory (Builder.runPasses passes) where
  countSame_eq :=
    Builder.runPasses_induction (fun chain _ chain' _ => chain'.countSame handle = chain.countSame handle)
      (fun _ _ => rfl) (fun first further => further.trans first) fun pass mem => (spare pass mem).countSame_eq
  memory_eq :=
    Builder.runPasses_induction (fun _ t _ t' => memory.get t' = memory.get t)
      (fun _ _ => rfl) (fun first further => further.trans first) fun pass mem => (spare pass mem).memory_eq

theorem keeps_runPasses (keep : ∀ pass ∈ passes, Pass.Keeps handle memory pass) :
    Pass.Keeps handle memory (Builder.runPasses passes) :=
  Builder.runPasses_induction
    (fun chain t chain' t' => Coherent handle (memory.get t) chain → Coherent handle (memory.get t') chain')
    (fun _ _ => id) (fun first further => further ∘ first) keep

variable [Journal σ] {manager : Manager σ}

/-- Running the manager as a pass is a turn, by what the preference asks for at that time. -/
theorem Manager.turn_toPass (shared : Cell τ σ) {chain : Chain σ} {t : τ} (fits : (memory.get t).Fits manager.handle) :
    ∃ result chain' memory' s',
      manager.toPass memory shared chain t =
        (result.map fun _ => (), chain', memory.set memory' (shared.set s' t)) ∧
      manager.Turn (Ask.preference.desired manager (shared.get t)) chain (memory.get t) result chain' memory' := by
  obtain ⟨result, chain', memory', s', answered, turn⟩ :=
    Manager.turn_answer fits .preference chain (shared.get t)
  refine ⟨result, chain', memory', s', ?_, turn⟩
  have answered : manager.reconcileWithPreferences chain (memory.get t) (shared.get t) =
      (result, chain', memory', s') := answered
  rw [Manager.toPass, answered]

theorem Manager.keeps_toPass : Pass.Keeps manager.handle memory (manager.toPass memory shared) := by
  intro chain t coherent
  obtain ⟨result, chain', memory', s', ran, turn⟩ := Manager.turn_toPass shared coherent.fits
  rw [ran, memory.get_set]
  exact coherent.turn turn

/-- A manager that does not fail as a pass leaves its chain as the preference asks. -/
theorem Manager.countSame_of_toPass {chain left : Chain σ} {t u : τ}
    (coherent : Coherent manager.handle (memory.get t) chain)
    (ran : manager.toPass memory shared chain t = (.ok (), left, u)) :
    left.countSame manager.handle = if Ask.preference.desired manager (shared.get t) then 1 else 0 := by
  obtain ⟨result, chain', memory', s', turned, turn⟩ := Manager.turn_toPass shared coherent.fits
  rw [turned] at ran
  obtain ⟨passed, rfl, -⟩ := Prod.mk.inj ran |>.imp_right Prod.mk.inj
  cases result with
  | error error => cases passed
  | ok change => rw [(coherent.turn turn).countSame_eq, turn.isEnabled_eq]; rfl

end Passes

/-! ## A build -/

namespace Builder

variable [Journal τ] {builder : Builder σ τ} {left : Chain σ} {t u : τ}

/-- A build fails with the error of the first pass that fails. The chain stays as the passes have left it. -/
theorem build_of_error {error : Error} (ran : runPasses builder.passes builder.chain t = (.error error, left, u)) :
    builder.build t = (.error error, { builder with chain := left }, u) := by
  rw [build, ran]

/-- A build whose passes all run makes a client of the chain that they leave, if the configuration can be used. -/
theorem build_of_ok (ran : runPasses builder.passes builder.chain t = (.ok (), left, u)) :
    builder.build t = (Client.make builder.config left, { builder with chain := left },
      note .debug "Building HTTP client"
        [("interceptors", toString left.length), ("passes", toString builder.passes.length)] u) := by
  rw [build, ran]

end Builder

/-- A client has the chain that it was made with. -/
theorem Client.chain_of_make [Journal σ] {config : ClientConfig} {chain : Chain σ} {client : Client σ}
    (made : Client.make config chain = .ok client) : client.chain = chain := by
  rw [Client.make] at made
  split at made
  · cases made
  · obtain rfl := Except.ok.inj made
    rfl

/-! ## Workshops -/

/-- A builder, and the state that its passes share. -/
structure Workshop (σ τ : Type) where
  builder : Builder σ τ
  state : τ

/-- What may happen in a workshop. -/
inductive Job (σ τ : Type) : Type 1 where
  /-- the builder builds -/
  | build
  /-- other code edits the chain of the builder -/
  | edit (edit : Edit σ)
  /-- the builder gets another configuration -/
  | configure (config : ClientConfig)
  /-- anything else that goes on around the builder: a preference is set, a client is used -/
  | other (change : τ → τ)

namespace Workshop

variable [Journal τ]

/-- The workshop after a job. -/
def step (workshop : Workshop σ τ) : Job σ τ → Workshop σ τ
  | .build => ⟨(workshop.builder.build workshop.state).2.1, (workshop.builder.build workshop.state).2.2⟩
  | .edit edit => { workshop with builder := { workshop.builder with chain := edit.apply workshop.builder.chain } }
  | .configure config => { workshop with builder := { workshop.builder with config } }
  | .other change => { workshop with state := change workshop.state }

/-- The workshop after a history of jobs, the latest first. -/
def after (start : Workshop σ τ) : List (Job σ τ) → Workshop σ τ
  | [] => start
  | job :: earlier => (start.after earlier).step job

/-- Between builds nobody puts a copy of the inspector in, takes one out, or touches what the manager remembers. -/
def Spared (handle : Handle) (memory : Cell τ (ManagerState σ)) (start : Workshop σ τ) : List (Job σ τ) → Prop
  | [] => True
  | .edit edit :: earlier =>
    edit.Spares handle (start.after earlier).builder.chain ∧ start.Spared handle memory earlier
  | .other change :: earlier =>
    memory.get (change (start.after earlier).state) = memory.get (start.after earlier).state ∧
      start.Spared handle memory earlier
  | _ :: earlier => start.Spared handle memory earlier

variable {handle : Handle} {memory : Cell τ (ManagerState σ)} {start workshop : Workshop σ τ}

theorem passes_step (workshop : Workshop σ τ) (job : Job σ τ) :
    (workshop.step job).builder.passes = workshop.builder.passes := by
  cases job with
  | build =>
    rcases ran : Builder.runPasses workshop.builder.passes workshop.builder.chain workshop.state with
      ⟨error | ⟨⟩, left, u⟩
    · rw [step, Builder.build_of_error ran]
    · rw [step, Builder.build_of_ok ran]
  | edit | configure | other => rfl

theorem passes_after (start : Workshop σ τ) :
    ∀ history : List (Job σ τ), (start.after history).builder.passes = start.builder.passes
  | [] => rfl
  | job :: earlier => (passes_step (start.after earlier) job).trans (passes_after start earlier)

/-- A build leaves memory and chain in agreement, however it ends. -/
theorem coherent_build (keep : ∀ pass ∈ workshop.builder.passes, Pass.Keeps handle memory pass)
    (unnoted : ∀ entry t, memory.get (Journal.record entry t) = memory.get t)
    (coherent : Coherent handle (memory.get workshop.state) workshop.builder.chain) :
    Coherent handle (memory.get (workshop.step .build).state) (workshop.step .build).builder.chain := by
  have kept := keeps_runPasses keep workshop.builder.chain workshop.state coherent
  rcases ran : Builder.runPasses workshop.builder.passes workshop.builder.chain workshop.state with
    ⟨error | ⟨⟩, left, u⟩
  · rw [ran] at kept
    rw [step, Builder.build_of_error ran]
    exact kept
  · rw [ran] at kept
    rw [step, Builder.build_of_ok ran]
    dsimp only [note]
    rw [unnoted]
    exact kept

/-- So does every history. -/
theorem coherent_after (keep : ∀ pass ∈ start.builder.passes, Pass.Keeps handle memory pass)
    (unnoted : ∀ entry t, memory.get (Journal.record entry t) = memory.get t)
    (new : memory.get start.state = {}) (absent : start.builder.chain.countSame handle = 0) :
    ∀ history : List (Job σ τ), start.Spared handle memory history →
      Coherent handle (memory.get (start.after history).state) (start.after history).builder.chain
  | [], _ => by
    rw [after, new]
    exact ⟨ManagerState.fits_new handle, absent⟩
  | .build :: earlier, spared => by
    refine coherent_build ?_ unnoted (coherent_after keep unnoted new absent earlier spared)
    rw [passes_after]
    exact keep
  | .edit _ :: earlier, ⟨spares, spared⟩ => by
    have coherent := coherent_after keep unnoted new absent earlier spared
    exact ⟨coherent.fits, (Edit.countSame_apply spares).trans coherent.countSame_eq⟩
  | .configure _ :: earlier, spared => coherent_after keep unnoted new absent earlier spared
  | .other _ :: earlier, ⟨untouched, spared⟩ => by
    have coherent := coherent_after keep unnoted new absent earlier spared
    rw [after, step, untouched]
    exact coherent

end Workshop

/-! ## Building again and again -/

section Rebuilding

variable [Journal σ] {manager : Manager σ} {memory : Cell τ (ManagerState σ)} {shared : Cell τ σ}
  {before behind : List (Pass σ τ)}

/-- All passes leave memory and chain in agreement: the manager, and those that spare its inspector. -/
theorem keeps_of_mem (spare : ∀ pass ∈ before ++ behind, Pass.Spares manager.handle memory pass) :
    ∀ pass ∈ before ++ manager.toPass memory shared :: behind, Pass.Keeps manager.handle memory pass := by
  intro pass mem
  rcases List.mem_append.mp mem with mem | mem
  · exact (spare pass (List.mem_append_left behind mem)).keeps
  · rcases List.mem_cons.mp mem with rfl | mem
    · exact Manager.keeps_toPass
    · exact (spare pass (List.mem_append_right before mem)).keeps

/-- If all passes run, the manager among them, the chain is left as the preference asked when the manager was run. -/
theorem countSame_of_runPasses_ok (spare : ∀ pass ∈ before ++ behind, Pass.Spares manager.handle memory pass)
    {chain left : Chain σ} {t u : τ} (coherent : Coherent manager.handle (memory.get t) chain)
    (ran : Builder.runPasses (before ++ manager.toPass memory shared :: behind) chain t = (.ok (), left, u)) :
    left.countSame manager.handle =
      if Ask.preference.desired manager (shared.get (Builder.runPasses before chain t).2.2) then 1 else 0 := by
  have met_coherent :=
    keeps_runPasses (fun pass mem => (spare pass (List.mem_append_left behind mem)).keeps) chain t coherent
  have spared_behind := spares_runPasses fun pass mem => spare pass (List.mem_append_right before mem)
  rw [Builder.runPasses_append] at ran
  -- every pass has run, so the manager was run on the chain that those before it left
  rcases ran_before : Builder.runPasses before chain t with ⟨error | ⟨⟩, met, v⟩
  · rw [ran_before] at ran
    cases ran
  · rw [ran_before] at ran met_coherent
    simp only [Builder.runPasses] at ran
    rcases ran_manager : manager.toPass memory shared met v with ⟨error | ⟨⟩, attended, w⟩
    · rw [ran_manager] at ran
      cases ran
    · -- what comes behind the manager does not change the number of copies
      rw [ran_manager] at ran
      have kept := spared_behind.countSame_eq attended w
      simp only [ran] at kept
      rw [kept, Manager.countSame_of_toPass met_coherent ran_manager]

/-- **A builder that builds again and again agrees with its manager.** Let a new manager be one of the passes of a
builder, whose chain does not hold the inspector at first. The other passes may do anything, and fail, but spare that
inspector and the manager's memory; so does what happens between builds. Then whatever was done before, this is what a
build does.

* The passes run in their order, each on the chain that the one before it left, up to the first that fails. The chain
  stays with the builder. If a pass fails, the build fails with its error; otherwise a client is made of the chain.
* After the build, whatever came of it, the manager is enabled exactly if the chain of the builder holds one copy of the
  inspector, and otherwise the chain holds none.
* A client that is made has the chain of the builder. It holds one copy of the inspector if the preference was on when
  the manager was run, and none otherwise. -/
theorem agrees_when_rebuilt [Journal τ] {start : Workshop σ τ} {history : List (Job σ τ)}
    (passes_eq : start.builder.passes = before ++ manager.toPass memory shared :: behind)
    (spare : ∀ pass ∈ before ++ behind, Pass.Spares manager.handle memory pass)
    (unnoted : ∀ entry t, memory.get (Journal.record entry t) = memory.get t)
    (new : memory.get start.state = {}) (absent : start.builder.chain.countSame manager.handle = 0)
    (spared : start.Spared manager.handle memory history) :
    let workshop := start.after history
    let (result, builder, t) := workshop.builder.build workshop.state
    (∃ outcome left u,
      Succession (before ++ manager.toPass memory shared :: behind).zipIdx workshop.builder.chain workshop.state
        (workshop.builder.visits workshop.state) outcome left u ∧
      builder = { workshop.builder with chain := left } ∧
      (∀ error, outcome = .error error → result = .error error ∧ t = u) ∧
      (outcome = .ok () → result = Client.make workshop.builder.config left)) ∧
    ((memory.get t).isEnabled = true ↔ builder.chain.countSame manager.handle = 1) ∧
    ((memory.get t).isEnabled = false ↔ builder.chain.countSame manager.handle = 0) ∧
    ∀ client, result = .ok client → client.chain = builder.chain ∧
      client.chain.countSame manager.handle =
        if Ask.preference.desired manager
          (shared.get (Builder.runPasses before workshop.builder.chain workshop.state).2.2) then 1 else 0 := by
  intro workshop
  have workshop_passes : workshop.builder.passes = before ++ manager.toPass memory shared :: behind :=
    (Workshop.passes_after start history).trans passes_eq
  have keep : ∀ pass ∈ before ++ manager.toPass memory shared :: behind, Pass.Keeps manager.handle memory pass :=
    keeps_of_mem spare
  have coherent : Coherent manager.handle (memory.get workshop.state) workshop.builder.chain :=
    Workshop.coherent_after (passes_eq ▸ keep) unnoted new absent history spared
  have built : Coherent manager.handle (memory.get (workshop.step .build).state) (workshop.step .build).builder.chain :=
    Workshop.coherent_build (workshop_passes ▸ keep) unnoted coherent
  obtain ⟨outcome, left, u, ran, run⟩ := workshop.builder.succession workshop.state
  rw [workshop_passes] at run
  rw [Workshop.step] at built
  cases outcome with
  | error error =>
    -- a pass has failed: there is no client, but memory and chain agree all the same
    rw [Builder.build_of_error ran] at built ⊢
    refine ⟨⟨_, _, _, run, rfl, ?_, nofun⟩, built.isEnabled_iff, built.not_isEnabled_iff, nofun⟩
    rintro _ ⟨⟩
    exact ⟨rfl, rfl⟩
  | ok =>
    rw [Builder.build_of_ok ran] at built ⊢
    refine ⟨⟨_, _, _, run, rfl, nofun, fun _ => rfl⟩, built.isEnabled_iff, built.not_isEnabled_iff, ?_⟩
    intro client made
    have chain_eq : client.chain = left := Client.chain_of_make made
    rw [workshop_passes] at ran
    exact ⟨chain_eq, chain_eq ▸ countSame_of_runPasses_ok spare coherent ran⟩

end Rebuilding

namespace Desk

/-- Puts a logger in each time. -/
def logging : Pass Desk (Desk × ManagerState Desk) := fun chain t =>
  (.ok (), chain.add { ({} : RequestLogger).toInterceptor with handle := ⟨"logger"⟩ }, t)

/-- Fails if the chain has more than two entries. -/
def sparing : Pass Desk (Desk × ManagerState Desk) := fun chain t =>
  (if chain.length ≤ 2 then .ok () else .error (.config (.other "too many interceptors")), chain, t)

def workshop : Workshop Desk (Desk × ManagerState Desk) where
  builder := { passes := [logging, manager.toPass .second .first, sparing] }
  state := ({}, {})

/-- The first build succeeds and the second fails; then the preference is set to off. -/
def rebuilt : List (Job Desk (Desk × ManagerState Desk)) :=
  [.other fun t => ({ t.1 with preference := some false }, t.2), .build, .build]

/-- The last pass fails again, but the manager has been run before it: the inspector is gone, and the manager knows. -/
theorem agrees_when_build_fails :
    workshop.Spared manager.handle .second rebuilt ∧
      let (result, builder, t) := (workshop.after rebuilt).builder.build (workshop.after rebuilt).state
      result.isOk = false ∧ builder.chain.length = 3 ∧
        t.2.isEnabled = false ∧ builder.chain.countSame manager.handle = 0 := by
  have spared : workshop.Spared manager.handle .second rebuilt := ⟨rfl, trivial⟩
  have spare : ∀ pass ∈ [logging] ++ [sparing], Pass.Spares manager.handle .second pass := by
    intro pass mem
    simp only [List.cons_append, List.nil_append, List.mem_cons, List.not_mem_nil, or_false] at mem
    rcases mem with rfl | rfl
    · exact ⟨fun chain _ => Chain.countSame_add chain _ _, fun _ _ => rfl⟩
    · exact ⟨fun _ _ => rfl, fun _ _ => rfl⟩
  have agrees := agrees_when_rebuilt rfl spare (fun _ _ => rfl) rfl rfl spared
  exact ⟨spared, by decide, by decide, by decide, agrees.2.2.1.mp (by decide)⟩

end Desk

end Transparency
