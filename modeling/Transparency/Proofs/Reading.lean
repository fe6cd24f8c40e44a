import Transparency.Bytes

/-!
# Parts of bytes

A reader takes a part off the front of the bytes and leaves the rest. What it accepts is said here without it: a *kind*
of part is a property of bytes, `Split part bytes rest` says that the bytes are a part of a kind and then the rest, and
a `Row` is one part after the other. A kind looks at the bytes of the part alone, so anything may follow a part
(`startsWith_append`).

Readers fail with reasons of their own. Of what is read in steps only matters here that each step succeeded
(`bind_eq_ok_iff`, `map_eq_ok_iff`).
-/

namespace Transparency

/-! ## Steps that may fail -/

section Steps

variable {ε α β : Type}

theorem map_eq_ok_iff {reading : Except ε α} {f : α → β} {b : β} :
    reading.map f = .ok b ↔ ∃ a, reading = .ok a ∧ f a = b := by
  cases reading <;> simp [Except.map]

theorem bind_eq_ok_iff {reading : Except ε α} {f : α → Except ε β} {b : β} :
    reading >>= f = .ok b ↔ ∃ a, reading = .ok a ∧ f a = .ok b := by
  cases reading <;> simp [bind, Except.bind]

end Steps

namespace Bytes

theorem splitExactly?_eq_some_iff {n : Nat} {bytes front rest : Bytes} :
    bytes.splitExactly? n = some (front, rest) ↔ front.length = n ∧ bytes = front ++ rest := by
  constructor
  · intro taken
    exact ⟨length_of_splitExactly? taken, (append_of_splitExactly? taken).symm⟩
  · rintro ⟨rfl, rfl⟩
    simp [splitExactly?]

/-! ## Parts -/

/-- The bytes are a part of a kind, and then the rest. -/
def Split (part : Bytes → Prop) (bytes rest : Bytes) : Prop := ∃ front, part front ∧ bytes = front ++ rest

/-- The bytes start with a part of a kind. -/
def StartsWith (part : Bytes → Prop) (bytes : Bytes) : Prop := ∃ rest, Split part bytes rest

/-- The bytes are nothing, or a part of a kind. -/
def Maybe (part : Bytes → Prop) (bytes : Bytes) : Prop := bytes = [] ∨ part bytes

/-- The bytes are one part after the other, of each kind in turn. -/
def Row : (parts : List (Bytes → Prop)) → Bytes → Prop
  | [], bytes => bytes = []
  | part :: parts, bytes => ∃ rest, Split part bytes rest ∧ Row parts rest

variable {part : Bytes → Prop} {parts : List (Bytes → Prop)} {bytes front rest : Bytes}

theorem split_append (whole : part front) (rest : Bytes) : Split part (front ++ rest) rest := ⟨front, whole, rfl⟩

/-- Anything may follow a part. -/
theorem startsWith_append (whole : part front) (rest : Bytes) : StartsWith part (front ++ rest) :=
  ⟨rest, split_append whole rest⟩

/-- Nothing is left exactly if the bytes are the part. -/
theorem split_nil_iff : Split part bytes [] ↔ part bytes := by
  simp [Split]

theorem split_maybe_iff : Split (Maybe part) bytes rest ↔ bytes = rest ∨ Split part bytes rest := by
  constructor
  · rintro ⟨front, rfl | whole, rfl⟩
    · exact .inl rfl
    · exact .inr ⟨front, whole, rfl⟩
  · rintro (rfl | ⟨front, whole, rfl⟩)
    · exact ⟨[], .inl rfl, rfl⟩
    · exact ⟨front, .inr whole, rfl⟩

theorem split_row_nil_iff : Split (Row []) bytes rest ↔ bytes = rest := by
  simp [Split, Row]

theorem split_row_cons_iff :
    Split (Row (part :: parts)) bytes rest ↔ ∃ middle, Split part bytes middle ∧ Split (Row parts) middle rest := by
  constructor
  · rintro ⟨_, ⟨back, ⟨front, whole, rfl⟩, row⟩, rfl⟩
    exact ⟨back ++ rest, ⟨front, whole, List.append_assoc ..⟩, back, row, rfl⟩
  · rintro ⟨_, ⟨front, whole, rfl⟩, back, row, rfl⟩
    exact ⟨front ++ back, ⟨back, split_append whole back, row⟩, (List.append_assoc ..).symm⟩

theorem startsWith_row_nil (bytes : Bytes) : StartsWith (Row []) bytes := ⟨bytes, [], rfl, rfl⟩

theorem startsWith_row_cons_iff :
    StartsWith (Row (part :: parts)) bytes ↔ ∃ rest, Split part bytes rest ∧ StartsWith (Row parts) rest := by
  simp only [StartsWith, split_row_cons_iff]
  constructor
  · rintro ⟨rest, middle, first, others⟩
    exact ⟨middle, first, rest, others⟩
  · rintro ⟨middle, first, rest, others⟩
    exact ⟨rest, middle, first, others⟩

end Bytes

end Transparency
