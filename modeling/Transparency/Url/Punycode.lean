/-!
# Punycode

A label that is not ASCII is written with ASCII letters and digits: first its ASCII characters as they stand, then,
after a hyphen, where the others go. The others are given in increasing order; each is a step forward on a walk that
goes through all positions of the label for one character after the next, and the length of each step is written as a
number of variable length, least significant digit first, whose digit thresholds adapt to the steps seen so far.

Decoding is total because every number takes at least one digit off what is left; encoding is total because every
round takes one character off the list of those that are to be placed.
-/

namespace Transparency

namespace Punycode

/-- The digit of a value below 36: letters, then digits. -/
def digitOf (value : Nat) : Char :=
  if value < 26 then Char.ofNat ('a'.toNat + value) else Char.ofNat ('0'.toNat + (value - 26))

/-- The value of a digit. -/
def valueOf? (c : Char) : Option Nat :=
  if 'a' ≤ c ∧ c ≤ 'z' then some (c.toNat - 'a'.toNat)
  else if 'A' ≤ c ∧ c ≤ 'Z' then some (c.toNat - 'A'.toNat)
  else if '0' ≤ c ∧ c ≤ '9' then some (c.toNat - '0'.toNat + 26)
  else none

/-- The least value of a digit that is followed by another one, at distance `36 * place` from the start. -/
def threshold (place bias : Nat) : Nat :=
  max 1 (min 26 (36 * (place + 1) - bias))

/-- How often a step has to be cut down until it is below the bound for a fresh bias, and what is left of it. -/
def cutDown (step : Nat) : Nat × Nat :=
  if _h : step > 455 then
    let (times, rest) := cutDown (step / 35)
    (times + 1, rest)
  else (0, step)
termination_by step
decreasing_by omega

/-- The bias after a step, when `count` characters have been placed. -/
def adapt (step count : Nat) (isFirst : Bool) : Nat :=
  let halved := if isFirst then step / 700 else step / 2
  let (times, rest) := cutDown (halved + halved / count)
  36 * times + 36 * rest / (rest + 38)

/-- The digits of a number. -/
def digits (bias place value : Nat) : List Char :=
  let t := threshold place bias
  if _h : value < t then [digitOf value]
  else digitOf (t + (value - t) % (36 - t)) :: digits bias (place + 1) ((value - t) / (36 - t))
termination_by value
decreasing_by
  have ht : 1 ≤ threshold place bias := Nat.le_max_left ..
  have : (value - threshold place bias) / (36 - threshold place bias) ≤ value - threshold place bias :=
    Nat.div_le_self ..
  omega

/-- Reads one number: digits up to and with the first that is below its threshold. -/
def number? (bias : Nat) : (place weight : Nat) → List Char → Option (Nat × List Char)
  | _, _, [] => none
  | place, weight, c :: rest =>
    match valueOf? c with
    | none => none
    | some d =>
      let t := threshold place bias
      if d < t then some (d * weight, rest)
      else (number? bias (place + 1) (weight * (36 - t)) rest).map fun (n, rest) => (d * weight + n, rest)

theorem length_of_number? {bias : Nat} {text rest : List Char} {place weight n : Nat}
    (h : number? bias place weight text = some (n, rest)) : rest.length < text.length := by
  induction text generalizing place weight n rest with
  | nil => cases h
  | cons c cs ih =>
    simp only [number?] at h
    split at h
    · cases h
    · rename_i d _
      split at h
      · cases h
        exact Nat.lt_succ_self _
      · cases hn : number? bias (place + 1) (weight * (36 - threshold place bias)) cs with
        | none => simp [hn] at h
        | some r =>
          obtain ⟨m, rest'⟩ := r
          simp only [hn, Option.map_some, Option.some.injEq, Prod.mk.injEq] at h
          rw [← h.2]
          exact Nat.lt_succ_of_lt (ih hn)

/-- Where the walk stands while a label is decoded. -/
structure Walk where
  /-- the character being placed -/
  code : Nat := 128
  /-- the position the walk has reached -/
  position : Nat := 0
  /-- the bias of the next number -/
  bias : Nat := 72

/-- Places the characters that the rest of the text describes. -/
def place? (walk : Walk) (isFirst : Bool) (label : List Char) (text : List Char) : Option (List Char) :=
  if text = [] then some label
  else
    match _h : number? walk.bias 0 1 text with
    | none => none
    | some (step, rest) =>
      let reached := walk.position + step
      let count := label.length + 1
      let code := walk.code + reached / count
      let position := reached % count
      if code > 0x10FFFF ∨ (0xD800 ≤ code ∧ code ≤ 0xDFFF) then none
      else
        place? ⟨code, position + 1, adapt step count isFirst⟩ false
          (label.take position ++ Char.ofNat code :: label.drop position) rest
termination_by text.length
decreasing_by exact length_of_number? ‹_›

/-- What stands before the last hyphen, and what follows it. Without a hyphen all of it follows. -/
def splitAtLastHyphen (text : List Char) : List Char × List Char :=
  let back := text.reverse.takeWhile (· ≠ '-')
  ((text.reverse.dropWhile (· ≠ '-')).tail.reverse, back.reverse)

/-- The label that a text describes. A hyphen with nothing before it does not end the ASCII part. -/
def decode? (text : List Char) : Option (List Char) :=
  let (basic, steps) := splitAtLastHyphen text
  place? {} true basic (if basic = [] then text else steps)

/-- What encoding has written so far, and where the walk stands. -/
structure Progress where
  /-- the digits written, last first -/
  written : List Char := []
  /-- steps since the last character was placed -/
  step : Nat := 0
  bias : Nat := 72
  /-- characters placed so far -/
  placed : Nat
  isFirst : Bool := true

/-- Walks once through the label for the character with number `code`. -/
def Progress.round (code : Nat) : List Char → Progress → Progress
  | [], p => p
  | c :: rest, p =>
    if c.toNat < code then Progress.round code rest { p with step := p.step + 1 }
    else if c.toNat = code then
      Progress.round code rest
        { written := (digits p.bias 0 p.step).reverse ++ p.written
          step := 0
          bias := adapt p.step (p.placed + 1) p.isFirst
          placed := p.placed + 1
          isFirst := false }
    else Progress.round code rest p

/-- Walks through the label for each of the character numbers in turn, coming from the number `from`. -/
def Progress.rounds (label : List Char) : (reached : Nat) → List Nat → Progress → Progress
  | _, [], p => p
  | reached, code :: codes, p =>
    let p := { p with step := p.step + (code - reached) * (p.placed + 1) }
    let p := Progress.round code label p
    Progress.rounds label (code + 1) codes { p with step := p.step + 1 }

/-- Puts a number into an increasing list, unless it is there. -/
def insertSorted (n : Nat) : List Nat → List Nat
  | [] => [n]
  | m :: rest => if n < m then n :: m :: rest else if n = m then m :: rest else m :: insertSorted n rest

/-- The text that describes a label. -/
def encode (label : List Char) : List Char :=
  let basic := label.filter (·.toNat < 128)
  let codes := (label.filter (128 ≤ ·.toNat)).foldl (fun codes c => insertSorted c.toNat codes) []
  let done := Progress.rounds label 128 codes { placed := basic.length }
  (if basic = [] then [] else basic ++ ['-']) ++ done.written.reverse

end Punycode

end Transparency
