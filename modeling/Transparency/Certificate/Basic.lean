import Transparency.Certificate.Time
import Transparency.Certificate.Timestamp

/-!
# Certificates

A certificate is a sequence of three parts: what it says, the algorithm of its signature, and the signature. What it
says is again a sequence: version, serial number, algorithm, issuer, validity, subject, public key, two identifiers
that are rarely there, and extensions. Of all this only the extensions are kept; the other fields are read to the depth
that tells whether the bytes are a certificate.

Fields are read in order, so the first that is wrong decides the fault. Bytes that follow the last known part of a
sequence are passed over, but the extensions have to end what the certificate says.
-/

namespace Transparency

/-- A further statement in a certificate. -/
structure Extension where
  /-- names the kind of statement -/
  id : Bytes
  value : Bytes
  deriving DecidableEq, Repr

/-- What is kept of a certificate. -/
structure Certificate where
  extensions : List Extension
  deriving DecidableEq, Repr

namespace Certificate

open Element

/-- Whether the content of an integer is in its one proper form and fits in 32 bits without a sign. -/
def isWord (content : Bytes) : Bool :=
  match content with
  | [] => false
  | [b] => b < 0x80
  | a :: b :: _ =>
    if a = 0 then 0x80 ≤ b && content.length ≤ 5 else a < 0x80 && content.length ≤ 4

/-- Takes the version off, if there is one. -/
def readVersion (bytes : Bytes) : Except CertificateFault Bytes :=
  if bytes = [] then .ok []
  else
    match Element.read bytes with
    | .error fault => .error fault
    | .ok (element, rest) =>
      if element.tag = 0 then
        match readPrimitive? integerTag element.content with
        | some (content, _) => if isWord content then .ok rest else .error .invalidVersion
        | none => .error .invalidVersion
      else .ok bytes

/-- Takes the serial number off. -/
def readSerial (bytes : Bytes) : Except CertificateFault Bytes :=
  match Element.read bytes with
  | .error _ => .error .invalidSerial
  | .ok (element, rest) => if element.tag = integerTag then .ok rest else .error .invalidSerial

/-- Takes the name of an algorithm off; its parameters are not looked at. -/
def readAlgorithm (bytes : Bytes) : Except CertificateFault Bytes :=
  match readSequence bytes with
  | .error fault => .error fault
  | .ok (content, rest) =>
    if (readPrimitive? objectIdTag content).isSome then .ok rest else .error .invalidAlgorithm

/-- Takes the name of an issuer or a subject off. -/
def readName (bytes : Bytes) : Except CertificateFault Bytes :=
  (readSequence bytes).map (·.2)

/-- Takes the two ends of the validity off. -/
def readValidity (bytes : Bytes) : Except CertificateFault Bytes :=
  match readSequence bytes with
  | .error fault => .error fault
  | .ok (content, rest) =>
    match readTime content with
    | .error fault => .error fault
    | .ok content => (readTime content).map fun _ => rest

/-- Takes the public key off. -/
def readKey (bytes : Bytes) : Except CertificateFault Bytes :=
  match readSequence bytes with
  | .error fault => .error fault
  | .ok (content, rest) =>
    match readAlgorithm content with
    | .error fault => .error fault
    | .ok content => if (readBits? content).isSome then .ok rest else .error .invalidKey

/-- Takes an identifier off, if there is one under the tag. -/
def readUniqueId? (tag : Nat) (bytes : Bytes) : Option Bytes :=
  if bytes = [] then some []
  else
    match Element.read bytes with
    | .error _ => none
    | .ok (element, rest) =>
      if element.tag = tag then (readBits? element.content).map fun _ => rest else some bytes

/-- The extension in the content of a sequence: its kind, perhaps a mark that it is critical, and its value. -/
def extension? (content : Bytes) : Option Extension :=
  match readPrimitive? objectIdTag content with
  | none => none
  | some (id, rest) =>
    let rest := match readPrimitive? booleanTag rest with
      | some ([_], rest) => rest
      | _ => rest
    (readPrimitive? octetStringTag rest).map fun (value, _) => ⟨id, value⟩

/-- The extensions that fill the bytes. -/
def allExtensions? (bytes : Bytes) : Option (List Extension) :=
  if bytes = [] then some []
  else
    match _h : readSequence bytes with
    | .error _ => none
    | .ok (content, rest) =>
      match extension? content with
      | none => none
      | some extension => (allExtensions? rest).map (extension :: ·)
termination_by bytes.length
decreasing_by
  exact length_of_readSequence _h

/-- The extensions, which end what a certificate says. The length of the element that wraps them does not count. -/
def readExtensions (bytes : Bytes) : Except CertificateFault (List Extension) :=
  if bytes = [] then .ok []
  else
    match readHeader bytes with
    | .error _ => .error .invalidExtensions
    | .ok ((tag, _), _, rest) =>
      if tag ≠ 3 then .error .invalidExtensions
      else
        match readSequence rest with
        | .error fault => .error fault
        | .ok (content, rest) =>
          match allExtensions? content with
          | none => .error .wrongExtent
          | some extensions => if rest = [] then .ok extensions else .error .wrongExtent

/-- What a certificate says, from the content of the sequence that says it. -/
def ofStatement (content : Bytes) : Except CertificateFault Certificate := do
  let bytes ← readVersion content
  let bytes ← readSerial bytes
  let bytes ← readAlgorithm bytes
  let bytes ← readName bytes
  let bytes ← readValidity bytes
  let bytes ← readName bytes
  let bytes ← readKey bytes
  match readUniqueId? 1 bytes with
  | none => .error .invalidIssuerId
  | some bytes =>
    match readUniqueId? 2 bytes with
    | none => .error .invalidSubjectId
    | some bytes =>
      let extensions ← readExtensions bytes
      return ⟨extensions⟩

/-- The certificate at the start of the bytes. -/
def parse (bytes : Bytes) : Except CertificateFault Certificate := do
  let (content, _) ← readSequence bytes
  let (statement, rest) ← readSequence content
  let certificate ← ofStatement statement
  let rest ← readAlgorithm rest
  if (readBits? rest).isSome then return certificate else .error .invalidSignature

/-- The name of the kind of extension that holds timestamps, 1.3.6.1.4.1.11129.2.4.2. -/
def timestampListId : Bytes := [0x2B, 0x06, 0x01, 0x04, 0x01, 0xD6, 0x79, 0x02, 0x04, 0x02]

/-- The timestamps in one extension: none unless it is of the right kind. -/
def timestampsOf (extension : Extension) : List Timestamp :=
  if extension.id = timestampListId then Timestamp.ofExtensionValue extension.value else []

/-- All timestamps in a certificate. -/
def timestamps (certificate : Certificate) : List Timestamp :=
  certificate.extensions.flatMap timestampsOf

end Certificate

end Transparency
