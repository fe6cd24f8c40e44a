import Transparency.Json.Fault
import Transparency.Text.Utf8

/-!
# Text in JSON

A text stands between quotes. A backslash starts an escape: one letter, or `u` and the four digits of a UTF-16 unit.
Two units that form a surrogate pair stand for one character; a unit of a pair on its own is a fault.
-/

namespace Transparency

namespace Json

/-- The byte that a one-letter escape stands for. -/
def escaped? (b : UInt8) : Option UInt8 :=
  if b = byteOf '"' ∨ b = byteOf '\\' ∨ b = byteOf '/' then some b
  else if b = byteOf 'b' then some 0x08
  else if b = byteOf 'f' then some 0x0C
  else if b = byteOf 'n' then some 0x0A
  else if b = byteOf 'r' then some 0x0D
  else if b = byteOf 't' then some 0x09
  else none

/-- The second half of a surrogate pair: a backslash, `u` and four digits. -/
def readSecondUnit : Bytes → Reading Nat
  | [] => stopAt .endInText []
  | b :: rest =>
    if b = byteOf '\\' then
      match rest with
      | [] => stopAt .endInText []
      | u :: rest => if u = byteOf 'u' then readHex rest else stopAt .brokenSurrogate rest
    else stopAt .brokenSurrogate rest

/-- The character that the unit `first` starts, from the bytes after its digits. -/
def readUnit (first : Nat) (bytes : Bytes) : Reading Char :=
  if 0xDC00 ≤ first ∧ first ≤ 0xDFFF then stopAt .loneSurrogate bytes
  else if 0xD800 ≤ first ∧ first ≤ 0xDBFF then
    match readSecondUnit bytes with
    | .error stop => .error stop
    | .ok (second, rest) =>
      if 0xDC00 ≤ second ∧ second ≤ 0xDFFF then
        .ok (Char.ofNat (0x10000 + (first - 0xD800) * 0x400 + (second - 0xDC00)), rest)
      else stopAt .loneSurrogate rest
  else .ok (Char.ofNat first, bytes)

/-- The character of an escape whose `u` has been read. -/
def readUnicodeEscape (bytes : Bytes) : Reading Char :=
  match readHex bytes with
  | .error stop => .error stop
  | .ok (first, rest) => readUnit first rest

/-- The bytes that one escape stands for, its backslash read. -/
def readEscape : Bytes → Reading Bytes
  | [] => stopAt .endInText []
  | b :: rest =>
    if b = byteOf 'u' then (readUnicodeEscape rest).map fun (c, rest) => (String.utf8EncodeChar c, rest)
    else
      match escaped? b with
      | some e => .ok ([e], rest)
      | none => stopAt .invalidEscape rest

theorem length_of_readHex {bytes rest : Bytes} {n : Nat} (h : readHex bytes = .ok (n, rest)) :
    rest.length < bytes.length := by
  unfold readHex at h
  split at h
  · split at h
    · cases h
      simp only [List.length_cons]
      omega
    · cases h
  · cases h

theorem length_of_readSecondUnit {bytes rest : Bytes} {n : Nat} (h : readSecondUnit bytes = .ok (n, rest)) :
    rest.length < bytes.length := by
  unfold readSecondUnit at h
  split at h
  · cases h
  · split at h
    · split at h
      · cases h
      · split at h
        · have := length_of_readHex h
          simp only [List.length_cons]
          omega
        · cases h
    · cases h

theorem length_of_readUnit {first : Nat} {bytes rest : Bytes} {c : Char} (h : readUnit first bytes = .ok (c, rest)) :
    rest.length ≤ bytes.length := by
  rw [readUnit] at h
  split at h
  · cases h
  · split at h
    · split at h
      · cases h
      · rename_i hs
        have := length_of_readSecondUnit hs
        split at h
        · simp only [Except.ok.injEq, Prod.mk.injEq] at h
          rw [← h.2]
          omega
        · cases h
    · simp only [Except.ok.injEq, Prod.mk.injEq] at h
      exact Nat.le_of_eq (congrArg List.length h.2.symm)

theorem length_of_readUnicodeEscape {bytes rest : Bytes} {c : Char}
    (h : readUnicodeEscape bytes = .ok (c, rest)) : rest.length < bytes.length := by
  rw [readUnicodeEscape] at h
  split at h
  · cases h
  · rename_i hx
    exact Nat.lt_of_le_of_lt (length_of_readUnit h) (length_of_readHex hx)

theorem length_of_readEscape {bytes rest content : Bytes} (h : readEscape bytes = .ok (content, rest)) :
    rest.length < bytes.length := by
  unfold readEscape at h
  split at h
  · cases h
  · split at h
    · rename_i tail _
      cases hu : readUnicodeEscape tail with
      | error e => simp [hu, Except.map] at h
      | ok r =>
        obtain ⟨c, last⟩ := r
        have := length_of_readUnicodeEscape hu
        simp only [hu, Except.map, Except.ok.injEq, Prod.mk.injEq] at h
        rw [← h.2]
        simp only [List.length_cons]
        omega
    · split at h
      · cases h
        simp
      · cases h

/-- The bytes of a text up to its closing quote, the opening one read. -/
def readContent (bytes : Bytes) : Reading Bytes :=
  match bytes with
  | [] => stopAt .endInText []
  | b :: rest =>
    if b = byteOf '"' then .ok ([], rest)
    else if b = byteOf '\\' then
      match _h : readEscape rest with
      | .error stop => .error stop
      | .ok (content, rest') => (readContent rest').map fun (more, rest) => (content ++ more, rest)
    else if b < 0x20 then stopAt .controlCharacter rest
    else (readContent rest).map fun (more, rest) => (b :: more, rest)
termination_by bytes.length
decreasing_by
  · have := length_of_readEscape ‹_›
    simp only [List.length_cons]
    omega
  · simp

/-- The bytes of a text are followed by fewer bytes than there were. -/
theorem length_of_readContent {bytes rest content : Bytes} (h : readContent bytes = .ok (content, rest)) :
    rest.length < bytes.length := by
  fun_induction readContent bytes generalizing content rest with
  | case1 => cases h
  | case2 =>
    cases h
    simp
  | case3 => cases h
  | case4 =>
    rename_i tail he _ ih
    cases hr : readContent tail with
    | error stop => simp [hr, Except.map] at h
    | ok r =>
      have := length_of_readEscape he
      have := @ih r.2 r.1 hr
      simp only [hr, Except.map, Except.ok.injEq, Prod.mk.injEq] at h
      rw [← h.2]
      simp only [List.length_cons]
      omega
  | case5 => cases h
  | case6 =>
    rename_i tail _ _ _ ih
    cases hr : readContent tail with
    | error stop => simp [hr, Except.map] at h
    | ok r =>
      have := @ih r.2 r.1 hr
      simp only [hr, Except.map, Except.ok.injEq, Prod.mk.injEq] at h
      rw [← h.2]
      simp only [List.length_cons]
      omega

/-- A text up to its closing quote, the opening one read. -/
def readText (bytes : Bytes) : Reading String :=
  (readContent bytes).map fun (content, rest) => (Utf8.decodeLossy content, rest)

theorem length_of_readText {bytes rest : Bytes} {text : String} (h : readText bytes = .ok (text, rest)) :
    rest.length < bytes.length := by
  rw [readText] at h
  cases hr : readContent bytes with
  | error stop => simp [hr, Except.map] at h
  | ok r =>
    have := @length_of_readContent _ r.2 r.1 hr
    simp only [hr, Except.map, Except.ok.injEq, Prod.mk.injEq] at h
    rw [← h.2]
    exact this

end Json

end Transparency
