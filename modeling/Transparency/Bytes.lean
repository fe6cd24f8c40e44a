/-!
# Bytes

Bodies, certificates and files are lists of bytes. Readers take a byte list apart from the front, so what is left to
read is always a suffix of what was given.
-/

namespace Transparency

/-- The content of a body, a certificate or a file. -/
abbrev Bytes := List UInt8

namespace Bytes

/-- The number that bytes spell with the most significant byte first. -/
def toNatBE (bytes : Bytes) : Nat :=
  bytes.foldl (fun n b => n * 256 + b.toNat) 0

/-- The first `n` bytes and what follows them, if there are that many. -/
def splitExactly? (n : Nat) (bytes : Bytes) : Option (Bytes × Bytes) :=
  if n ≤ bytes.length then some (bytes.take n, bytes.drop n) else none

theorem append_of_splitExactly? {n : Nat} {bytes front rest : Bytes}
    (h : bytes.splitExactly? n = some (front, rest)) : front ++ rest = bytes := by
  rw [splitExactly?] at h
  split at h
  · cases h
    exact List.take_append_drop n bytes
  · cases h

theorem length_of_splitExactly? {n : Nat} {bytes front rest : Bytes}
    (h : bytes.splitExactly? n = some (front, rest)) : front.length = n := by
  rw [splitExactly?] at h
  split at h
  · rename_i hn
    cases h
    exact List.length_take_of_le hn
  · cases h

end Bytes

end Transparency
