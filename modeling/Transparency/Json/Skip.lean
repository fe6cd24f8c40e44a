import Transparency.Json.Text

/-!
# Skipping JSON values

A value that nobody asks for is still read by the grammar, but nothing of it is kept. Nesting is kept in a list of the
frames that are open, innermost first, so a value may be nested to any depth.

What is not kept is also not checked: the escapes of a skipped text may be unpaired units, and the digits of a skipped
number may stand for any amount.
-/

namespace Transparency

namespace Json

/-- Takes one escape off, its backslash read. -/
def skipEscape : Bytes → Except Stop Bytes
  | [] => stopAt .endInText []
  | b :: rest =>
    if b = byteOf 'u' then (readHex rest).map (·.2)
    else if (escaped? b).isSome then .ok rest
    else stopAt .invalidEscape rest

theorem length_of_skipEscape {bytes rest : Bytes} (h : skipEscape bytes = .ok rest) : rest.length < bytes.length := by
  unfold skipEscape at h
  split at h
  · cases h
  · rename_i b tail
    split at h
    · cases hx : readHex tail with
      | error stop => simp [hx, Except.map] at h
      | ok r =>
        have := @length_of_readHex _ r.2 r.1 hx
        simp only [hx, Except.map, Except.ok.injEq] at h
        rw [← h]
        simp only [List.length_cons]
        omega
    · split at h
      · cases h
        simp
      · cases h

/-- Takes a text off up to its closing quote, the opening one read. A control character stops before it is used. -/
def skipText (bytes : Bytes) : Except Stop Bytes :=
  match bytes with
  | [] => stopAt .endInText []
  | b :: rest =>
    if b = byteOf '"' then .ok rest
    else if b = byteOf '\\' then
      match _h : skipEscape rest with
      | .error stop => .error stop
      | .ok rest => skipText rest
    else if b < 0x20 then stopAt .controlCharacter bytes
    else skipText rest
termination_by bytes.length
decreasing_by
  · have := length_of_skipEscape ‹_›
    simp only [List.length_cons]
    omega
  · simp

/-- Takes the exponent of a number off, its letter read. -/
def skipExponent (bytes : Bytes) : Except Stop Bytes :=
  let bytes := match bytes with
    | b :: rest => if b = byteOf '+' ∨ b = byteOf '-' then rest else bytes
    | [] => []
  match bytes with
  | [] => stopAt .invalidNumber []
  | b :: rest => if isDigit b then .ok (rest.dropWhile isDigit) else stopAt .invalidNumber rest

/-- Takes an exponent off, if there is one. -/
def skipScale (bytes : Bytes) : Except Stop Bytes :=
  match bytes with
  | b :: rest => if b = byteOf 'e' ∨ b = byteOf 'E' then skipExponent rest else .ok bytes
  | [] => .ok []

/-- Takes off what follows the leading digits of a number. -/
def skipAfterInteger (bytes : Bytes) : Except Stop Bytes :=
  match bytes with
  | b :: rest =>
    if b = byteOf '.' then
      if (rest.head?.map isDigit).getD false then skipScale (rest.dropWhile isDigit)
      else stopOn .invalidNumber rest
    else skipScale bytes
  | [] => .ok []

/-- Takes a number off, its sign read. -/
def skipNumber (bytes : Bytes) : Except Stop Bytes :=
  match bytes with
  | [] => stopAt .invalidNumber []
  | b :: rest =>
    if b = byteOf '0' then
      if (rest.head?.map isDigit).getD false then stopOn .invalidNumber rest else skipAfterInteger rest
    else if isDigit b then skipAfterInteger (rest.dropWhile isDigit)
    else stopAt .invalidNumber rest

/-- Takes a value without parts off; `b` is its first byte. -/
def skipScalar (b : UInt8) (rest : Bytes) : Except Stop Bytes :=
  if b = byteOf '"' then skipText rest
  else if b = byteOf 'n' then readWord "ull".toList rest
  else if b = byteOf 't' then readWord "rue".toList rest
  else if b = byteOf 'f' then readWord "alse".toList rest
  else if b = byteOf '-' then skipNumber rest
  else if isDigit b then skipNumber (b :: rest)
  else stopAt .expectedValue rest

/-! ## What is used up -/

theorem length_dropWhile_le (p : UInt8 → Bool) (bytes : Bytes) : (bytes.dropWhile p).length ≤ bytes.length :=
  (List.dropWhile_sublist p).length_le

theorem length_of_readWord {letters : List Char} {bytes rest : Bytes} (h : readWord letters bytes = .ok rest) :
    rest.length ≤ bytes.length := by
  induction letters generalizing bytes with
  | nil =>
    cases h
    exact Nat.le_refl _
  | cons c letters ih =>
    cases bytes with
    | nil => cases h
    | cons b bytes =>
      simp only [readWord] at h
      split at h
      · have := ih h
        simp only [List.length_cons]
        omega
      · cases h

theorem length_of_skipText {bytes rest : Bytes} (h : skipText bytes = .ok rest) : rest.length < bytes.length := by
  fun_induction skipText bytes with
  | case1 => cases h
  | case2 =>
    cases h
    simp
  | case3 => cases h
  | case4 =>
    rename_i he _ ih
    have := length_of_skipEscape he
    have := ih h
    simp only [List.length_cons]
    omega
  | case5 => cases h
  | case6 b tail _ _ _ ih =>
    have := ih h
    simp only [List.length_cons]
    omega

theorem length_of_skipExponent {bytes rest : Bytes} (h : skipExponent bytes = .ok rest) :
    rest.length ≤ bytes.length := by
  unfold skipExponent at h
  have key : ∀ bytes' : Bytes, bytes'.length ≤ bytes.length →
      (match bytes' with
        | [] => stopAt .invalidNumber []
        | b :: rest => if isDigit b then .ok (rest.dropWhile isDigit) else stopAt .invalidNumber rest)
        = Except.ok rest → rest.length ≤ bytes.length := by
    intro bytes' hle h
    split at h
    · cases h
    · rename_i b tail
      split at h
      · cases h
        have := length_dropWhile_le isDigit tail
        simp only [List.length_cons] at hle
        omega
      · cases h
  refine key _ ?_ h
  split
  · split <;> simp
  · simp

theorem length_of_skipScale {bytes rest : Bytes} (h : skipScale bytes = .ok rest) : rest.length ≤ bytes.length := by
  unfold skipScale at h
  split at h
  · split at h
    · have := length_of_skipExponent h
      simp only [List.length_cons]
      omega
    · cases h
      exact Nat.le_refl _
  · cases h
    simp

theorem length_of_skipAfterInteger {bytes rest : Bytes} (h : skipAfterInteger bytes = .ok rest) :
    rest.length ≤ bytes.length := by
  unfold skipAfterInteger at h
  split at h
  · rename_i b tail
    split at h
    · split at h
      · have := length_of_skipScale h
        have := length_dropWhile_le isDigit tail
        simp only [List.length_cons]
        omega
      · cases h
    · exact length_of_skipScale h
  · cases h
    simp

theorem length_of_skipNumber {bytes rest : Bytes} (h : skipNumber bytes = .ok rest) : rest.length < bytes.length := by
  unfold skipNumber at h
  split at h
  · cases h
  · rename_i b tail
    split at h
    · split at h
      · cases h
      · have := length_of_skipAfterInteger h
        simp only [List.length_cons]
        omega
    · split at h
      · have := length_of_skipAfterInteger h
        have := length_dropWhile_le isDigit tail
        simp only [List.length_cons]
        omega
      · cases h

theorem length_of_skipScalar {b : UInt8} {bytes rest : Bytes} (h : skipScalar b bytes = .ok rest) :
    rest.length ≤ bytes.length := by
  rw [skipScalar] at h
  split at h
  · exact Nat.le_of_lt (length_of_skipText h)
  · iterate 3
      split at h
      · exact length_of_readWord h
    split at h
    · exact Nat.le_of_lt (length_of_skipNumber h)
    · split at h
      · have := length_of_skipNumber h
        simp only [List.length_cons] at this
        omega
      · cases h

/-! ## Nested values -/

/-- A list or an object whose end has not been read. -/
inductive Frame where
  | list
  | object
  deriving DecidableEq, Repr

namespace Frame

/-- The byte that ends the frame. -/
def close : Frame → UInt8
  | list => byteOf ']'
  | object => byteOf '\x7d'

/-- Why a text that ends inside the frame is faulty. -/
def endCause : Frame → JsonCause
  | list => .endInList
  | object => .endInObject

/-- Why a byte that is neither a comma nor the end of the frame is faulty after one of its values. -/
def nextCause : Frame → JsonCause
  | list => .expectedCommaOrBracket
  | object => .expectedCommaOrBrace

end Frame

/-- Takes a key and the colon after it off. -/
def skipKey (bytes : Bytes) : Except Stop Bytes :=
  match skipBlanks bytes with
  | [] => stopAt .endInObject []
  | b :: rest =>
    if b = byteOf '"' then
      match skipText rest with
      | .error stop => .error stop
      | .ok rest =>
        match skipBlanks rest with
        | [] => stopAt .endInObject []
        | b :: rest => if b = byteOf ':' then .ok rest else stopAt .expectedColon rest
    else stopAt .keyNotText rest

theorem length_skipBlanks_le (bytes : Bytes) : (skipBlanks bytes).length ≤ bytes.length :=
  length_dropWhile_le isBlank bytes

theorem length_of_skipBlanks {bytes rest : Bytes} {b : UInt8} (h : skipBlanks bytes = b :: rest) :
    rest.length < bytes.length := by
  have := length_skipBlanks_le bytes
  rw [h] at this
  exact this

theorem length_of_skipKey {bytes rest : Bytes} (h : skipKey bytes = .ok rest) : rest.length < bytes.length := by
  rw [skipKey] at h
  split at h
  · cases h
  · rename_i b tail hb
    have h₁ := length_of_skipBlanks hb
    split at h
    · split at h
      · cases h
      · rename_i rest₁ ht
        have h₂ := length_of_skipText ht
        split at h
        · cases h
        · rename_i b' rest₂ hc
          have h₃ := length_of_skipBlanks hc
          split at h
          · cases h
            omega
          · cases h
    · cases h

/-- What may come next while values are skipped. -/
inductive Expect where
  /-- what stands between commas in the innermost frame: a value, after its key in an object -/
  | item
  /-- the first item of the innermost frame, or its end -/
  | first
  /-- a comma, or the end of the innermost frame -/
  | next
  deriving DecidableEq, Repr

/-- How many ways of reading on without using a byte there still are. -/
def Expect.rank : Expect → Nat
  | item => 0
  | _ => 1

/-- Takes the key off that comes before an item of an object. -/
def skipItemKey (frames : List Frame) (bytes : Bytes) : Except Stop Bytes :=
  if frames.head? = some .object then skipKey bytes else .ok bytes

theorem length_of_skipItemKey {frames : List Frame} {bytes rest : Bytes} (h : skipItemKey frames bytes = .ok rest) :
    rest.length ≤ bytes.length := by
  rw [skipItemKey] at h
  split at h
  · exact Nat.le_of_lt (length_of_skipKey h)
  · cases h
    exact Nat.le_refl _

/-- Reads on until the outermost of the open frames ends, or, where none is open, until one value has been read. -/
def skip (frames : List Frame) (expect : Expect) (bytes : Bytes) : Except Stop Bytes :=
  match expect, frames with
  | .item, frames =>
    match _hk : skipItemKey frames bytes with
    | .error stop => .error stop
    | .ok bytes₁ =>
      match _hb : skipBlanks bytes₁ with
      | [] => stopAt .endInValue []
      | b :: rest =>
        if b = byteOf '[' then skip (.list :: frames) .first rest
        else if b = byteOf '\x7b' then skip (.object :: frames) .first rest
        else
          match _hs : skipScalar b rest with
          | .error stop => .error stop
          | .ok rest => skip frames .next rest
  | .first, frame :: frames =>
    match _hb : skipBlanks bytes with
    | [] => stopAt frame.endCause []
    | b :: rest => if b = frame.close then skip frames .next rest else skip (frame :: frames) .item (b :: rest)
  | .next, frame :: frames =>
    match _hb : skipBlanks bytes with
    | [] => stopAt frame.endCause []
    | b :: rest =>
      if b = byteOf ',' then skip (frame :: frames) .item rest
      else if b = frame.close then skip frames .next rest
      else stopAt frame.nextCause rest
  | _, [] => .ok bytes
termination_by (bytes.length, expect.rank)
decreasing_by
  all_goals simp_wf
  all_goals simp only [Prod.lex_def, Expect.rank]
  · have := length_of_skipItemKey _hk
    have := length_of_skipBlanks _hb
    omega
  · have := length_of_skipItemKey _hk
    have := length_of_skipBlanks _hb
    omega
  · have := length_of_skipItemKey _hk
    have := length_of_skipBlanks _hb
    have := length_of_skipScalar _hs
    omega
  · have := length_of_skipBlanks _hb
    omega
  · have := length_of_skipBlanks _hb
    omega
  · have := length_of_skipBlanks _hb
    omega
  · have := length_of_skipBlanks _hb
    omega

/-- Skipping never gives bytes back, and an item takes one at least. -/
theorem length_of_skip {frames : List Frame} {expect : Expect} {bytes rest : Bytes}
    (h : skip frames expect bytes = .ok rest) :
    rest.length ≤ bytes.length ∧ (expect = .item → rest.length < bytes.length) := by
  fun_induction skip frames expect bytes <;> simp_all [stopAt]
  case case3 hk _ hb _ =>
    have := length_of_skipItemKey hk
    have := length_of_skipBlanks hb
    omega
  case case4 hk _ hb _ _ =>
    have := length_of_skipItemKey hk
    have := length_of_skipBlanks hb
    omega
  case case6 hk _ _ hb _ _ _ hs _ =>
    have := length_of_skipItemKey hk
    have := length_of_skipBlanks hb
    have := length_of_skipScalar hs
    omega
  all_goals
    have := length_of_skipBlanks ‹_›
    omega

/-- Takes one value off, with the blanks before it. -/
def skipValue (bytes : Bytes) : Except Stop Bytes := skip [] .item bytes

theorem length_of_skipValue {bytes rest : Bytes} (h : skipValue bytes = .ok rest) : rest.length < bytes.length :=
  (length_of_skip h).2 rfl

end Json

end Transparency
