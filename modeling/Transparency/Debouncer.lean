import Transparency.Journal
import Transparency.Outcome

/-!
# Debouncing failures

While checks go on failing one line of log is enough. A debouncer remembers whether the last outcome was a failure: a
failure that follows a success, or is the first outcome of all, sends a line to the sink, and the failures that follow
it do not. A success ends the streak without a line.
-/

namespace Transparency

/-- Where lines of log go, by category. -/
abbrev Sink (σ : Type) := (category line : String) → σ → σ

/-- The category of lines about failed checks. -/
def networkCategory : String := "network"

/-- The sink that writes lines into the journal. -/
def Sink.journal {σ : Type} [Journal σ] : Sink σ :=
  fun category line s => note .warn line [("category", category)] s

/-- Lets one line per streak of failures through. -/
structure Debouncer (σ : Type) where
  /-- whether the last outcome was a failure -/
  streak : Cell σ Bool
  sink : Sink σ

namespace Debouncer

variable {σ : Type}

/-- The line about an outcome. -/
def line (host : String) (outcome : Outcome) : String := host ++ " -> " ++ outcome.message

/-- Whether the last outcome was a failure. -/
def isFailing (debouncer : Debouncer σ) (s : σ) : Bool := debouncer.streak.get s

/-- Takes an outcome in, and tells whether it sent a line. -/
def record [Journal σ] (debouncer : Debouncer σ) (host : String) (outcome : Outcome) (s : σ) : Bool × σ :=
  let wasFailing := debouncer.streak.get s
  let s := debouncer.streak.set outcome.isFailure s
  match outcome.isFailure, wasFailing with
  | true, true => (false, s)
  | true, false => (true, debouncer.sink networkCategory (line host outcome) s)
  | false, true => (false, note .debug "CT verification recovered" [("host", host)] s)
  | false, false => (false, s)

/-- Takes an outcome in. -/
def report [Journal σ] (debouncer : Debouncer σ) (host : String) (outcome : Outcome) (s : σ) : σ :=
  (debouncer.record host outcome s).2

end Debouncer

end Transparency
