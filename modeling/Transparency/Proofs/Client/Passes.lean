import Transparency.Client.Builder

/-!
# Runs of passes

A builder runs its passes in order, each on the chain and in the state that the one before it left, up to the first
that fails. `Succession` follows them one by one; a run of a pass is told by the place of the pass and the chain that it
is given. To see which passes a builder really runs, each of them is made to write that down (`Builder.visits`).

`Builder.succession`: the passes that run when a builder builds are those of a succession, which also has the result,
the chain and the state that they leave.
-/

namespace Transparency

variable {σ τ : Type}

/-- Passes that run one after the other, up to the first that fails. Told are their runs, and the result, the chain and
the state in the end. -/
inductive Succession :
    List (Pass σ τ × Nat) → Chain σ → τ → List (Nat × Chain σ) → Except Error Unit → Chain σ → τ → Prop where
  | done {chain : Chain σ} {t : τ} : Succession [] chain t [] (.ok ()) chain t
  | passed {pass : Pass σ τ} {place : Nat} {rest : List (Pass σ τ × Nat)} {chain left last : Chain σ} {t u v : τ}
    {visits : List (Nat × Chain σ)} {result : Except Error Unit} (passing : pass chain t = (.ok (), left, u))
    (further : Succession rest left u visits result last v) :
    Succession ((pass, place) :: rest) chain t ((place, chain) :: visits) result last v
  | failed {pass : Pass σ τ} {place : Nat} {rest : List (Pass σ τ × Nat)} {chain left : Chain σ} {t u : τ}
    {error : Error} (failing : pass chain t = (.error error, left, u)) :
    Succession ((pass, place) :: rest) chain t [(place, chain)] (.error error) left u

/-- The pass with each run of it written down. -/
def Pass.watched (place : Nat) (pass : Pass σ τ) : Pass σ (τ × List (Nat × Chain σ)) := fun chain s =>
  let (result, left, t) := pass chain s.1
  (result, left, t, s.2 ++ [(place, chain)])

/-- Passes with their places, watched. -/
def watchPasses (posts : List (Pass σ τ × Nat)) : List (Pass σ (τ × List (Nat × Chain σ))) :=
  posts.map fun post => Pass.watched post.2 post.1

/-- The runs of passes when a builder builds. -/
def Builder.visits (builder : Builder σ τ) (t : τ) : List (Nat × Chain σ) :=
  (runPasses (watchPasses builder.passes.zipIdx) builder.chain (t, [])).2.2.2

namespace Succession

variable {posts : List (Pass σ τ × Nat)} {chain last : Chain σ} {t u : τ} {visits : List (Nat × Chain σ)}
  {result : Except Error Unit}

/-- A succession tells what running the passes comes to. -/
theorem runPasses_eq (run : Succession posts chain t visits result last u) :
    Builder.runPasses (posts.map Prod.fst) chain t = (result, last, u) := by
  induction run with
  | done => rfl
  | passed passing _ ih => simp only [List.map_cons, Builder.runPasses, passing, ih]
  | failed failing => simp only [List.map_cons, Builder.runPasses, failing]

/-- A succession tells which passes run. -/
theorem runPasses_watched (run : Succession posts chain t visits result last u) :
    ∀ log, Builder.runPasses (watchPasses posts) chain (t, log) = (result, last, u, log ++ visits) := by
  induction run with
  | done =>
    intro log
    rw [List.append_nil]
    rfl
  | passed passing _ ih =>
    intro log
    simp only [watchPasses, List.map_cons, Builder.runPasses, Pass.watched, passing]
    exact (ih _).trans (by rw [List.append_assoc, List.singleton_append])
  | failed failing =>
    intro log
    simp only [watchPasses, List.map_cons, Builder.runPasses, Pass.watched, failing]

/-- Passes can always be followed. -/
theorem total (posts : List (Pass σ τ × Nat)) :
    ∀ (chain : Chain σ) (t : τ), ∃ visits result last u, Succession posts chain t visits result last u := by
  induction posts with
  | nil => exact fun chain t => ⟨[], .ok (), chain, t, .done⟩
  | cons post rest ih =>
    obtain ⟨pass, place⟩ := post
    intro chain t
    rcases ran : pass chain t with ⟨error | ⟨⟩, left, u⟩
    · exact ⟨_, .error error, left, u, .failed ran⟩
    · obtain ⟨visits, result, last, v, further⟩ := ih left u
      exact ⟨_, result, last, v, .passed ran further⟩

end Succession

namespace Builder

/-- The passes that run when a builder builds follow each other, and come to what running them comes to. -/
theorem succession (builder : Builder σ τ) (t : τ) :
    ∃ result last u, runPasses builder.passes builder.chain t = (result, last, u) ∧
      Succession builder.passes.zipIdx builder.chain t (builder.visits t) result last u := by
  obtain ⟨visits, result, last, u, run⟩ := Succession.total builder.passes.zipIdx builder.chain t
  have ran := run.runPasses_eq
  rw [List.zipIdx_map_fst] at ran
  have seen : builder.visits t = visits := by
    rw [Builder.visits, run.runPasses_watched []]
    rfl
  exact ⟨result, last, u, ran, seen ▸ run⟩

theorem runPasses_append (passes rest : List (Pass σ τ)) :
    ∀ (chain : Chain σ) (t : τ), runPasses (passes ++ rest) chain t =
      match runPasses passes chain t with
      | (.ok (), chain, t) => runPasses rest chain t
      | failure => failure := by
  induction passes with
  | nil => exact fun _ _ => rfl
  | cons pass passes ih =>
    intro chain t
    simp only [List.cons_append, runPasses]
    rcases pass chain t with ⟨error | ⟨⟩, left, u⟩
    · rfl
    · exact ih left u

/-- What holds from before to after each pass, and from before to after nothing, holds from before to after all. -/
theorem runPasses_induction (leads : Chain σ → τ → Chain σ → τ → Prop) (refl : ∀ chain t, leads chain t chain t)
    (trans : ∀ {chain t chain' t' chain'' t''}, leads chain t chain' t' → leads chain' t' chain'' t'' →
      leads chain t chain'' t'')
    {passes : List (Pass σ τ)}
    (each : ∀ pass ∈ passes, ∀ chain t, leads chain t (pass chain t).2.1 (pass chain t).2.2) :
    ∀ (chain : Chain σ) (t : τ),
      leads chain t (runPasses passes chain t).2.1 (runPasses passes chain t).2.2 := by
  induction passes with
  | nil => exact refl
  | cons pass rest ih =>
    intro chain t
    have first := each pass List.mem_cons_self chain t
    have further := ih fun other mem => each other (List.mem_cons_of_mem _ mem)
    rw [runPasses]
    rcases ran : pass chain t with ⟨error | ⟨⟩, left, u⟩
    · rw [ran] at first
      exact first
    · rw [ran] at first
      exact trans first (further left u)

end Builder

end Transparency
