import Transparency.Bytes

/-!
# Elements of an encoding

A certificate is a tree of elements. An element is a tag, a length and as many bytes of content; the content of a
constructed element is again a row of elements. Tags above 30 go on in further bytes, seven bits in each. A length
below 128 is one byte; a longer one is preceded by the number of its bytes.

`Element.read` takes one element off the front. The bytes after it are not looked at.
-/

namespace Transparency

/-- Why bytes are no certificate. -/
inductive CertificateFault where
  /-- the bytes end before a tag or a length; so many more are needed at least -/
  | endInHeader (needed : Nat)
  /-- the bytes end before the content does, or go on where a row of elements has to end -/
  | wrongExtent
  | invalidTag
  | invalidLength
  /-- a length that is only known at the end -/
  | indefiniteLength
  /-- another tag where a sequence was expected -/
  | notSequence (tag : Nat)
  | invalidVersion
  | invalidSerial
  | invalidAlgorithm
  | invalidDate
  | invalidKey
  | invalidIssuerId
  | invalidSubjectId
  | invalidExtensions
  | invalidSignature
  deriving DecidableEq, Repr

/-- What a fault is called in messages. -/
def CertificateFault.message : CertificateFault → String
  | .endInHeader needed => s!"Parsing requires {needed} bytes/chars"
  | .wrongExtent => "Parsing Error: NomError(Eof)"
  | .invalidTag => "Parsing Error: Der(InvalidTag)"
  | .invalidLength => "Parsing Error: Der(InvalidLength)"
  | .indefiniteLength => "Parsing Error: Der(DerConstraintFailed(IndefiniteLength))"
  | .notSequence tag =>
    "Parsing Error: Der(UnexpectedTag \x7b expected: Some(Tag(16)), actual: Tag(" ++ toString tag ++ ") \x7d)"
  | .invalidVersion => "Parsing Error: InvalidVersion"
  | .invalidSerial => "Parsing Error: InvalidSerial"
  | .invalidAlgorithm => "Parsing Error: InvalidAlgorithmIdentifier"
  | .invalidDate => "Parsing Error: InvalidDate"
  | .invalidKey => "Parsing Error: InvalidSPKI"
  | .invalidIssuerId => "Parsing Error: InvalidIssuerUID"
  | .invalidSubjectId => "Parsing Error: InvalidSubjectUID"
  | .invalidExtensions => "Parsing Error: InvalidExtensions"
  | .invalidSignature => "Parsing Error: InvalidSignatureValue"

/-- An element without its length. -/
structure Element where
  tag : Nat
  /-- whether the content is a row of elements -/
  isConstructed : Bool
  content : Bytes
  deriving DecidableEq, Repr

namespace Element

/-- The tags that certificates are made of. -/
def booleanTag : Nat := 1
def integerTag : Nat := 2
def bitStringTag : Nat := 3
def octetStringTag : Nat := 4
def objectIdTag : Nat := 6
def sequenceTag : Nat := 16
def utcTimeTag : Nat := 23
def generalizedTimeTag : Nat := 24

/-- Goes on with a long tag, of which `n` has been read; at most `more` bytes of it are left. -/
def readLongTag : (more : Nat) → (n : Nat) → Bytes → Except CertificateFault (Nat × Bytes)
  | 0, _, _ => .error .invalidTag
  | _ + 1, _, [] => .error .invalidTag
  | more + 1, n, b :: rest =>
    let n := (n * 128 + b.toNat % 128) % UInt32.size
    if b < 0x80 then .ok (n, rest) else readLongTag more n rest

/-- Reads a tag and whether its element is constructed. -/
def readTag : Bytes → Except CertificateFault ((Nat × Bool) × Bytes)
  | [] => .error (.endInHeader 1)
  | b :: rest =>
    let isConstructed : Bool := b &&& 0x20 ≠ 0
    if b.toNat % 32 = 31 then (readLongTag 5 0 rest).map fun (tag, rest) => ((tag, isConstructed), rest)
    else .ok ((b.toNat % 32, isConstructed), rest)

/-- Reads a length. -/
def readLength : Bytes → Except CertificateFault (Nat × Bytes)
  | [] => .error (.endInHeader 1)
  | b :: rest =>
    if b < 0x80 then .ok (b.toNat, rest)
    else if b = 0x80 then .error .indefiniteLength
    else if b = 0xFF then .error .invalidLength
    else
      let size := b.toNat - 0x80
      match Bytes.splitExactly? size rest with
      | none => .error (.endInHeader (size - rest.length))
      | some (digits, rest) =>
        if Bytes.toNatBE digits < UInt64.size then .ok (Bytes.toNatBE digits, rest) else .error .invalidLength

/-- Reads a tag and a length: what stands in front of a content. -/
def readHeader (bytes : Bytes) : Except CertificateFault ((Nat × Bool) × Nat × Bytes) :=
  match readTag bytes with
  | .error fault => .error fault
  | .ok (tag, rest) => (readLength rest).map fun (length, rest) => (tag, length, rest)

/-- Takes one element off the front. -/
def read (bytes : Bytes) : Except CertificateFault (Element × Bytes) :=
  match readHeader bytes with
  | .error fault => .error fault
  | .ok ((tag, isConstructed), length, rest) =>
    match Bytes.splitExactly? length rest with
    | none => .error .wrongExtent
    | some (content, rest) => .ok (⟨tag, isConstructed, content⟩, rest)

/-- Takes a sequence off the front and gives its content. -/
def readSequence (bytes : Bytes) : Except CertificateFault (Bytes × Bytes) :=
  match read bytes with
  | .error fault => .error fault
  | .ok (element, rest) =>
    if element.tag = sequenceTag then .ok (element.content, rest) else .error (.notSequence element.tag)

/-- Takes an element off the front that has the tag and no parts, and gives its content. -/
def readPrimitive? (tag : Nat) (bytes : Bytes) : Option (Bytes × Bytes) :=
  match read bytes with
  | .ok (element, rest) => if element.tag = tag ∧ !element.isConstructed then some (element.content, rest) else none
  | .error _ => none

/-- Takes a string of bits off the front. The bits that pad its last byte have to be zero. -/
def readBits? (bytes : Bytes) : Option Bytes :=
  match readPrimitive? bitStringTag bytes with
  | some (unused :: bits, rest) =>
    match bits.getLast? with
    | none => if unused = 0 then some rest else none
    | some last => if last.toNat % Nat.pow 2 (min unused.toNat 8) = 0 ∧ unused ≤ 8 then some rest else none
  | _ => none

/-! ## What is used up -/

theorem length_of_readLongTag {more n tag : Nat} {bytes rest : Bytes} (h : readLongTag more n bytes = .ok (tag, rest)) :
    rest.length < bytes.length := by
  induction more generalizing n bytes with
  | zero => cases h
  | succ more ih =>
    cases bytes with
    | nil => cases h
    | cons b bytes =>
      simp only [readLongTag] at h
      split at h
      · cases h
        simp
      · have := ih h
        simp only [List.length_cons]
        omega

theorem length_of_readTag {bytes rest : Bytes} {tag : Nat × Bool} (h : readTag bytes = .ok (tag, rest)) :
    rest.length < bytes.length := by
  cases bytes with
  | nil => cases h
  | cons b bytes =>
    simp only [readTag] at h
    split at h
    · cases hl : readLongTag 5 0 bytes with
      | error fault => simp [hl, Except.map] at h
      | ok r =>
        have := @length_of_readLongTag _ _ r.1 _ r.2 hl
        simp only [hl, Except.map, Except.ok.injEq, Prod.mk.injEq] at h
        rw [← h.2]
        simp only [List.length_cons]
        omega
    · simp only [Except.ok.injEq, Prod.mk.injEq] at h
      rw [← h.2]
      simp

theorem length_of_splitExactly?_rest {n : Nat} {bytes front rest : Bytes}
    (h : bytes.splitExactly? n = some (front, rest)) : rest.length ≤ bytes.length := by
  rw [← Bytes.append_of_splitExactly? h]
  simp

theorem length_of_readLength {bytes rest : Bytes} {length : Nat} (h : readLength bytes = .ok (length, rest)) :
    rest.length < bytes.length := by
  cases bytes with
  | nil => cases h
  | cons b bytes =>
    simp only [readLength] at h
    split at h
    · simp only [Except.ok.injEq, Prod.mk.injEq] at h
      rw [← h.2]
      simp
    · split at h
      · cases h
      · split at h
        · cases h
        · split at h
          · cases h
          · rename_i hs
            have := length_of_splitExactly?_rest hs
            split at h
            · simp only [Except.ok.injEq, Prod.mk.injEq] at h
              rw [← h.2]
              simp only [List.length_cons]
              omega
            · cases h

theorem length_of_read {bytes rest : Bytes} {element : Element} (h : read bytes = .ok (element, rest)) :
    rest.length < bytes.length := by
  unfold read readHeader at h
  split at h
  · cases h
  · rename_i hh
    split at hh
    · cases hh
    · rename_i middle ht
      have h₁ := length_of_readTag ht
      cases hl : readLength middle with
      | error fault => simp [hl, Except.map] at hh
      | ok r =>
        have h₂ := @length_of_readLength _ r.2 r.1 hl
        simp only [hl, Except.map, Except.ok.injEq, Prod.mk.injEq] at hh
        split at h
        · cases h
        · rename_i hs
          have h₃ := length_of_splitExactly?_rest hs
          cases h
          rw [← hh.2.2] at h₃
          omega

theorem length_of_readSequence {bytes rest content : Bytes} (h : readSequence bytes = .ok (content, rest)) :
    rest.length < bytes.length := by
  rw [readSequence] at h
  split at h
  · cases h
  · rename_i hr
    split at h
    · cases h
      exact length_of_read hr
    · cases h

end Element

end Transparency
