import Transparency.Json.Number
import Transparency.Json.Skip

/-!
# The preference document

Preferences are kept as JSON text: an object in which one key holds the flag. The key may be missing, which means that
the flag is off, but it may not stand there twice; other keys are skipped whatever their values. A list is accepted
in place of the object if it holds nothing but the flag, or nothing at all.

* `Preferences.read` reads a document, and finds the first fault in one that is none.
* `Preferences.render` writes the document that holds a flag.
-/

namespace Transparency

/-- What a user prefers. -/
structure Preferences where
  /-- whether responses are checked for certificate transparency -/
  transparency : Bool := false
  deriving DecidableEq, Repr

namespace Preferences

/-- The key of the flag. -/
def flagKey : String := "certificate_transparency_enabled"

open Json

/-- Stops with a value of the wrong kind after it was read. -/
def refuse {α : Type} (expected : String) (reading : Reading JsonKind) : Except Stop α :=
  match reading with
  | .error stop => .error stop
  | .ok (kind, rest) => stopAt (.wrongKind kind expected) rest

/-- Reads the rest of a word that stands for a value of some kind. -/
def readWordAs (kind : JsonKind) (letters : String) (rest : Bytes) : Reading JsonKind :=
  (readWord letters.toList rest).map fun rest => (kind, rest)

/-- Stops at a value that is not what was expected. A value without parts is read to its end first; of the others the
kind is plain from the first byte. -/
def refuseValue {α : Type} (expected : String) (b : UInt8) (rest : Bytes) : Except Stop α :=
  if b = byteOf 'n' then refuse expected (readWordAs .null "ull" rest)
  else if b = byteOf 't' then refuse expected (readWordAs (.boolean true) "rue" rest)
  else if b = byteOf 'f' then refuse expected (readWordAs (.boolean false) "alse" rest)
  else if b = byteOf '-' then refuse expected (readNumber true rest)
  else if isDigit b then refuse expected (readNumber false (b :: rest))
  else if b = byteOf '"' then refuse expected ((readText rest).map fun (text, rest) => (.text text, rest))
  else if b = byteOf '[' then stopAt (.wrongKind .list expected) (b :: rest)
  else if b = byteOf '\x7b' then stopAt (.wrongKind .object expected) (b :: rest)
  else stopAt .expectedValue rest

/-- Reads the value of the flag. -/
def readFlag (bytes : Bytes) : Reading Bool :=
  match skipBlanks bytes with
  | [] => stopAt .endInValue []
  | b :: rest =>
    if b = byteOf 't' then (readWord "rue".toList rest).map fun rest => (true, rest)
    else if b = byteOf 'f' then (readWord "alse".toList rest).map fun rest => (false, rest)
    else refuseValue "a boolean" b rest

/-- Reads a colon. -/
def readColon (bytes : Bytes) : Except Stop Bytes :=
  match skipBlanks bytes with
  | [] => stopAt .endInObject []
  | b :: rest => if b = byteOf ':' then .ok rest else stopAt .expectedColon rest

/-- Stops at a second flag: before the next token, or after it where it ends the object. -/
def refuseDuplicate {α : Type} (bytes : Bytes) : Except Stop α :=
  let rest := skipBlanks bytes
  stopAt (.duplicateField flagKey) (if rest.head? = some (byteOf '\x7d') then rest.drop 1 else rest)

/-- Reads the value of a key, its colon included, with the flag known so far. -/
def readMember (flag : Option Bool) (key : String) (bytes : Bytes) : Reading (Option Bool) :=
  if key = flagKey then
    if flag.isSome then refuseDuplicate bytes
    else
      match readColon bytes with
      | .error stop => .error stop
      | .ok rest => (readFlag rest).map fun (value, rest) => (some value, rest)
  else
    match readColon bytes with
    | .error stop => .error stop
    | .ok rest => (skipValue rest).map fun rest => (flag, rest)

/-- Moves to the next key of an object, up to and with its opening quote, or past the end of the object. The flag
tells whether there is a key. -/
def nextKey (isFirst : Bool) (bytes : Bytes) : Reading Bool :=
  match skipBlanks bytes with
  | [] => stopAt .endInObject []
  | b :: rest =>
    if b = byteOf '\x7d' then .ok (false, rest)
    else if isFirst then
      if b = byteOf '"' then .ok (true, rest) else stopAt .keyNotText rest
    else if b = byteOf ',' then
      match skipBlanks rest with
      | [] => stopAt .endInValue []
      | b :: rest =>
        if b = byteOf '"' then .ok (true, rest)
        else if b = byteOf '\x7d' then stopAt .trailingComma rest
        else stopAt .keyNotText rest
    else stopAt .expectedCommaOrBrace rest

/-! ## What is used up -/

theorem length_of_nextKey {isFirst isThere : Bool} {bytes rest : Bytes}
    (h : nextKey isFirst bytes = .ok (isThere, rest)) : rest.length < bytes.length := by
  unfold nextKey at h
  split at h
  · cases h
  · rename_i b tail hb
    have h₁ := length_of_skipBlanks hb
    split at h
    · cases h
      exact h₁
    · split at h
      · split at h
        · cases h
          exact h₁
        · cases h
      · split at h
        · split at h
          · cases h
          · rename_i hc
            have h₂ := length_of_skipBlanks hc
            split at h
            · cases h
              omega
            · split at h <;> cases h
        · cases h

theorem length_of_readColon {bytes rest : Bytes} (h : readColon bytes = .ok rest) : rest.length < bytes.length := by
  rw [readColon] at h
  split at h
  · cases h
  · rename_i hb
    have := length_of_skipBlanks hb
    split at h
    · cases h
      exact this
    · cases h

theorem refuse_ne_ok {α : Type} {expected : String} {reading : Reading JsonKind} {a : α} :
    refuse expected reading ≠ .ok a := by
  unfold refuse stopAt
  split <;> simp

theorem refuseValue_ne_ok {α : Type} {expected : String} {b : UInt8} {rest : Bytes} {a : α} :
    refuseValue expected b rest ≠ .ok a := by
  rw [refuseValue]
  repeat' split
  all_goals first | exact refuse_ne_ok | simp [stopAt]

theorem length_of_readFlag {bytes rest : Bytes} {value : Bool} (h : readFlag bytes = .ok (value, rest)) :
    rest.length < bytes.length := by
  rw [readFlag] at h
  split at h
  · cases h
  · rename_i b tail hb
    have h₁ := length_of_skipBlanks hb
    have word : ∀ {letters : List Char} {known : Bool},
        (readWord letters tail).map (fun rest => (known, rest)) = Except.ok (value, rest) →
          rest.length < bytes.length := by
      intro letters known h
      cases hw : readWord letters tail with
      | error stop => simp [hw, Except.map] at h
      | ok rest' =>
        have := length_of_readWord hw
        simp only [hw, Except.map, Except.ok.injEq, Prod.mk.injEq] at h
        rw [← h.2]
        omega
    split at h
    · exact word h
    · split at h
      · exact word h
      · exact absurd h refuseValue_ne_ok

theorem length_of_readMember {flag flag' : Option Bool} {key : String} {bytes rest : Bytes}
    (h : readMember flag key bytes = .ok (flag', rest)) : rest.length < bytes.length := by
  rw [readMember] at h
  split at h
  · split at h
    · cases h
    · split at h
      · cases h
      · rename_i tail hc
        have h₁ := length_of_readColon hc
        cases hf : readFlag tail with
        | error stop => simp [hf, Except.map] at h
        | ok r =>
          have h₂ := @length_of_readFlag _ r.2 r.1 hf
          simp only [hf, Except.map, Except.ok.injEq, Prod.mk.injEq] at h
          rw [← h.2]
          omega
  · split at h
    · cases h
    · rename_i tail hc
      have h₁ := length_of_readColon hc
      cases hs : skipValue tail with
      | error stop => simp [hs, Except.map] at h
      | ok rest' =>
        have h₂ := length_of_skipValue hs
        simp only [hs, Except.map, Except.ok.injEq, Prod.mk.injEq] at h
        rw [← h.2]
        omega

/-! ## Whole documents -/

/-- Reads the members of an object, with the flag known so far. -/
def readMembers (isFirst : Bool) (flag : Option Bool) (bytes : Bytes) : Reading (Option Bool) :=
  match _hk : nextKey isFirst bytes with
  | .error stop => .error stop
  | .ok (false, rest) => .ok (flag, rest)
  | .ok (true, rest) =>
    match _ht : readText rest with
    | .error stop => .error stop
    | .ok (key, rest) =>
      match _hm : readMember flag key rest with
      | .error stop => .error stop
      | .ok (flag, rest) => readMembers false flag rest
termination_by bytes.length
decreasing_by
  have := length_of_nextKey _hk
  have := length_of_readText _ht
  have := length_of_readMember _hm
  omega

/-- Reads the end of a list that holds one item or none. -/
def readListEnd (bytes : Bytes) : Except Stop Bytes :=
  match skipBlanks bytes with
  | [] => stopAt .endInList []
  | b :: rest =>
    if b = byteOf ']' then .ok rest
    else if b = byteOf ',' then
      let rest := skipBlanks rest
      if rest.head? = some (byteOf ']') then stopOn .trailingComma rest else stopOn .trailingCharacters rest
    else stopAt .trailingCharacters rest

/-- Reads a list in place of the object, its bracket read. -/
def readList (bytes : Bytes) : Reading (Option Bool) :=
  match skipBlanks bytes with
  | [] => stopAt .endInList []
  | b :: rest =>
    if b = byteOf ']' then .ok (none, rest)
    else
      match readFlag (b :: rest) with
      | .error stop => .error stop
      | .ok (value, rest) => (readListEnd rest).map fun rest => (some value, rest)

/-- Reads the value that a document consists of. -/
def readValue (bytes : Bytes) : Reading (Option Bool) :=
  match skipBlanks bytes with
  | [] => stopAt .endInValue []
  | b :: rest =>
    if b = byteOf '[' then readList rest
    else if b = byteOf '\x7b' then readMembers true none rest
    else refuseValue "struct PreferenceFile" b rest

/-- Reads a document up to its end. -/
def readAll (bytes : Bytes) : Except Stop Preferences :=
  match readValue bytes with
  | .error stop => .error stop
  | .ok (flag, rest) =>
    match skipBlanks rest with
    | [] => .ok ⟨flag.getD false⟩
    | _ :: rest => stopAt .trailingCharacters rest

/-- The preferences that a document holds, or its first fault. -/
def read (bytes : Bytes) : Except JsonFault Preferences :=
  match readAll bytes with
  | .ok preferences => .ok preferences
  | .error stop => .error (stop.locate bytes)

/-- The document that holds the preferences. -/
def render (preferences : Preferences) : String :=
  "\x7b\n  " ++ Text.quoted flagKey ++ ": " ++ (if preferences.transparency then "true" else "false") ++ "\n\x7d"

end Preferences

end Transparency
