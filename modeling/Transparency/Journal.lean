/-!
# Journals and cells

Operations run over a state that their user chooses. Two things are asked of it.

* A `Journal` keeps notes of what happens. Notes are for readers; no operation looks at them.
* A `Cell` is a part of the state that can be read and set on its own. The two laws say that a cell holds what was
  put into it last, and that putting back what it holds changes nothing.
-/

namespace Transparency

/-- How much a note matters. -/
inductive Level where
  | trace
  | debug
  | info
  | warn
  | error
  deriving DecidableEq, Repr

/-- What a level is called. -/
def Level.name : Level → String
  | .trace => "TRACE"
  | .debug => "DEBUG"
  | .info => "INFO"
  | .warn => "WARN"
  | .error => "ERROR"

/-- A note of something that happened. -/
structure Note where
  level : Level
  message : String
  /-- details by name -/
  fields : List (String × String) := []
  deriving DecidableEq, Repr

/-- A state that keeps notes. -/
class Journal (σ : Type) where
  /-- adds a note -/
  record : Note → σ → σ

/-- Adds a note. -/
def note {σ : Type} [Journal σ] (level : Level) (message : String) (fields : List (String × String)) (s : σ) : σ :=
  Journal.record ⟨level, message, fields⟩ s

/-- A pair keeps its notes in its first part. -/
instance {σ β : Type} [Journal σ] : Journal (σ × β) where
  record entry s := (Journal.record entry s.1, s.2)

/-- A list of notes, the last one first. -/
instance : Journal (List Note) where
  record entry notes := entry :: notes

/-- A part of a state. -/
structure Cell (σ α : Type) where
  get : σ → α
  set : α → σ → σ
  get_set : ∀ a s, get (set a s) = a
  set_get : ∀ s, set (get s) s = s

namespace Cell

variable {σ α : Type}

/-- The first part of a pair. -/
def first {β : Type} : Cell (σ × β) σ where
  get s := s.1
  set a s := (a, s.2)
  get_set _ _ := rfl
  set_get _ := rfl

/-- The second part of a pair. -/
def second {β : Type} : Cell (σ × β) β where
  get s := s.2
  set b s := (s.1, b)
  get_set _ _ := rfl
  set_get _ := rfl

attribute [simp] get_set set_get

end Cell

end Transparency
