import Transparency.Certificate.Element

/-!
# Signed certificate timestamps

A log that has seen a certificate hands out a timestamp for it. Timestamps are put into an extension of the
certificate as one list: its length in two bytes, and then each timestamp after its own length in two bytes.

Timestamps are read until one cannot be read. The list counts as long as one was read; bytes after the known parts of a
timestamp and after the list do not matter.
-/

namespace Transparency

/-- A log's statement that it has seen a certificate. -/
structure Timestamp where
  version : UInt8
  /-- names the log -/
  logId : Bytes
  /-- milliseconds since 1970 -/
  time : Nat
  extensions : Bytes
  hashAlgorithm : UInt8
  signatureAlgorithm : UInt8
  signature : Bytes
  deriving DecidableEq, Repr

namespace Timestamp

/-- Takes a length of two bytes and as many bytes off the front. -/
def readBlock? : Bytes → Option (Bytes × Bytes)
  | a :: b :: rest => Bytes.splitExactly? (a.toNat * 256 + b.toNat) rest
  | _ => none

/-- The timestamp at the start of a block. -/
def ofBlock? (block : Bytes) : Option Timestamp :=
  match block with
  | [] => none
  | version :: rest =>
    match Bytes.splitExactly? 32 rest with
    | none => none
    | some (logId, rest) =>
      match Bytes.splitExactly? 8 rest with
      | none => none
      | some (time, rest) =>
        match readBlock? rest with
        | some (extensions, hash :: algorithm :: rest) =>
          match readBlock? rest with
          | some (signature, _) =>
            some ⟨version, logId, Bytes.toNatBE time, extensions, hash, algorithm, signature⟩
          | none => none
        | _ => none

theorem length_of_readBlock? {bytes block rest : Bytes} (h : readBlock? bytes = some (block, rest)) :
    rest.length < bytes.length := by
  unfold readBlock? at h
  split at h
  · have := Element.length_of_splitExactly?_rest h
    simp only [List.length_cons]
    omega
  · cases h

/-- The timestamps up to the first that cannot be read. -/
def readAll (bytes : Bytes) : List Timestamp :=
  match _h : readBlock? bytes with
  | none => []
  | some (block, rest) =>
    match ofBlock? block with
    | some timestamp => timestamp :: readAll rest
    | none => []
termination_by bytes.length
decreasing_by
  exact length_of_readBlock? _h

/-- The timestamps in the value of an extension; none if it does not hold a list. -/
def ofExtensionValue (value : Bytes) : List Timestamp :=
  match Element.readPrimitive? Element.octetStringTag value with
  | none => []
  | some (content, _) =>
    match readBlock? content with
    | some (list, _) => readAll list
    | none => []

end Timestamp

end Transparency
