import Transparency.Client.Basic
import Transparency.Manager

/-!
# Builders

A builder makes clients, any number of them. Each time it runs its passes in order; a pass may change the chain of the
builder, and may fail, which ends the build. The chain stays with the builder, so each pass sees what the one before it
left, and the first sees what the last build left, failed builds included. The client gets the chain as it is when all
passes have run.

A manager is a pass: it brings the chain in line with the preference.
-/

namespace Transparency

/-- Changes a chain before a client is made, or fails; `τ` is the state that passes share. -/
abbrev Pass (σ τ : Type) := Chain σ → τ → Except Error Unit × Chain σ × τ

/-- The manager as a pass. Its own memory and the state of its chain are parts of the state that passes share. -/
def Manager.toPass {σ τ : Type} [Journal σ] (manager : Manager σ) (memory : Cell τ (ManagerState σ))
    (shared : Cell τ σ) : Pass σ τ :=
  fun chain t =>
    let (result, chain, state, s) := manager.reconcileWithPreferences chain (memory.get t) (shared.get t)
    (result.map fun _ => (), chain, memory.set state (shared.set s t))

/-- Makes clients. -/
structure Builder (σ τ : Type) where
  config : ClientConfig := {}
  chain : Chain σ := []
  passes : List (Pass σ τ) := []

namespace Builder

variable {σ τ : Type}

/-- Adds a pass that runs after those before it. -/
def addPass (builder : Builder σ τ) (pass : Pass σ τ) : Builder σ τ :=
  { builder with passes := builder.passes ++ [pass] }

/-- Puts an interceptor into the chain by priority. -/
def addInterceptor (builder : Builder σ τ) (entry : Entry σ) : Builder σ τ :=
  { builder with chain := builder.chain.add entry }

/-- Runs passes in order up to the first that fails. -/
def runPasses : List (Pass σ τ) → Pass σ τ
  | [], chain, t => (.ok (), chain, t)
  | pass :: rest, chain, t =>
    match pass chain t with
    | (.ok (), chain, t) => runPasses rest chain t
    | failure => failure

/-- Runs the passes and makes a client. -/
def build [Journal τ] (builder : Builder σ τ) (t : τ) : Except Error (Client σ) × Builder σ τ × τ :=
  match runPasses builder.passes builder.chain t with
  | (.error error, chain, t) => (.error error, { builder with chain }, t)
  | (.ok (), chain, t) =>
    let t := note .debug "Building HTTP client"
      [("interceptors", toString chain.length), ("passes", toString builder.passes.length)] t
    (Client.make builder.config chain, { builder with chain }, t)

end Builder

end Transparency
