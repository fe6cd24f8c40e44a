import Transparency.Bytes

/-!
# UTF-8

A sequence starts with a lead byte that fixes how many bytes follow and in which range the first of them lies; the
remaining ones lie in `80..BF`. Reading walks over the bytes once, with the sequence that is under way as its state.

* `Utf8.decode` reads all bytes or says where the first fault is. A byte that cannot continue the sequence under way
  makes the *bytes before it* the fault: they are the longest beginning of a valid sequence. A sequence that the end
  cuts off is `incomplete`.
* `Utf8.decodeLossy` puts one replacement character for each such beginning and reads on at the byte that did not fit.
-/

namespace Transparency

namespace Utf8

/-- Why bytes are not UTF-8. -/
inductive Fault where
  /-- `length` bytes from `index` begin a sequence that the next byte cannot continue -/
  | invalid (length index : Nat)
  /-- the sequence that starts at `index` is cut off by the end -/
  | incomplete (index : Nat)
  deriving DecidableEq, Repr

/-- What a fault is called in messages. -/
def Fault.message : Fault → String
  | .invalid length index => s!"invalid utf-8 sequence of {length} bytes from index {index}"
  | .incomplete index => s!"incomplete utf-8 byte sequence from index {index}"

/-- A sequence under way. -/
structure Pending where
  /-- bytes read so far, the lead included -/
  taken : Nat
  /-- bytes still to come after the next one -/
  later : Nat
  /-- least value of the next byte -/
  lower : UInt8
  /-- greatest value of the next byte -/
  upper : UInt8
  /-- the bits read so far -/
  value : Nat
  deriving DecidableEq, Repr

/-- What a byte is at the start of a sequence. -/
inductive Opening where
  /-- a character on its own -/
  | ascii (c : Char)
  /-- the lead of a longer sequence -/
  | lead (pending : Pending)
  /-- no sequence starts so -/
  | stray
  deriving DecidableEq, Repr

/-- The part that a byte plays at the start of a sequence. The bounds on the second byte exclude overlong forms, the
surrogates and all that lies beyond the last scalar value. -/
def opening (b : UInt8) : Opening :=
  if b < 0x80 then .ascii (Char.ofNat b.toNat)
  else if b < 0xC2 then .stray
  else if b < 0xE0 then .lead ⟨1, 0, 0x80, 0xBF, b.toNat - 0xC0⟩
  else if b < 0xF0 then
    let lower := if b = 0xE0 then 0xA0 else 0x80
    let upper := if b = 0xED then 0x9F else 0xBF
    .lead ⟨1, 1, lower, upper, b.toNat - 0xE0⟩
  else if b < 0xF5 then
    let lower := if b = 0xF0 then 0x90 else 0x80
    let upper := if b = 0xF4 then 0x8F else 0xBF
    .lead ⟨1, 2, lower, upper, b.toNat - 0xF0⟩
  else .stray

namespace Pending

/-- Whether the next byte may be `b`. -/
def fits (p : Pending) (b : UInt8) : Bool := p.lower ≤ b && b ≤ p.upper

/-- The bits with those of a fitting byte. -/
def extend (p : Pending) (b : UInt8) : Nat := p.value * 64 + (b.toNat - 0x80)

end Pending

/-- Reads on from index `index`, where the sequence under way (or the next one) starts. -/
def decodeFrom (index : Nat) : Option Pending → Bytes → Except Fault (List Char)
  | none, [] => .ok []
  | some _, [] => .error (.incomplete index)
  | none, b :: bs =>
    match opening b with
    | .ascii c => (decodeFrom (index + 1) none bs).map (c :: ·)
    | .lead p => decodeFrom index (some p) bs
    | .stray => .error (.invalid 1 index)
  | some p, b :: bs =>
    if p.fits b then
      match p.later with
      | 0 => (decodeFrom (index + p.taken + 1) none bs).map (Char.ofNat (p.extend b) :: ·)
      | later + 1 => decodeFrom index (some ⟨p.taken + 1, later, 0x80, 0xBF, p.extend b⟩) bs
    else .error (.invalid p.taken index)

/-- The text that the bytes spell, or the first fault. -/
def decode (bytes : Bytes) : Except Fault String :=
  (decodeFrom 0 none bytes).map String.ofList

/-- The character that stands for bytes that are no text. -/
def replacement : Char := Char.ofNat 0xFFFD

/-- Reads on within the sequence under way, with a replacement for each beginning that came to nothing. -/
def decodeLossyFrom : Option Pending → Bytes → List Char
  | none, [] => []
  | some _, [] => [replacement]
  | none, b :: bs =>
    match opening b with
    | .ascii c => c :: decodeLossyFrom none bs
    | .lead p => decodeLossyFrom (some p) bs
    | .stray => replacement :: decodeLossyFrom none bs
  | some p, b :: bs =>
    if p.fits b then
      match p.later with
      | 0 => Char.ofNat (p.extend b) :: decodeLossyFrom none bs
      | later + 1 => decodeLossyFrom (some ⟨p.taken + 1, later, 0x80, 0xBF, p.extend b⟩) bs
    else
      replacement ::
        match opening b with
        | .ascii c => c :: decodeLossyFrom none bs
        | .lead q => decodeLossyFrom (some q) bs
        | .stray => replacement :: decodeLossyFrom none bs

/-- The text that the bytes spell, with a replacement character for each maximal part that spells none. -/
def decodeLossy (bytes : Bytes) : String :=
  String.ofList (decodeLossyFrom none bytes)

/-- The bytes that spell a text. -/
def encode (text : String) : Bytes :=
  text.toList.flatMap String.utf8EncodeChar

/-- Where strict reading succeeds, lossy reading gives the same characters. -/
theorem decodeLossyFrom_of_decodeFrom {index : Nat} {p : Option Pending} {bytes : Bytes} {cs : List Char}
    (h : decodeFrom index p bytes = .ok cs) : decodeLossyFrom p bytes = cs := by
  induction bytes generalizing index p cs with
  | nil => cases p <;> simp_all [decodeFrom, decodeLossyFrom]
  | cons b bs ih =>
    cases p with
    | none =>
      simp only [decodeFrom] at h
      simp only [decodeLossyFrom]
      cases ho : opening b with
      | ascii c =>
        rw [ho] at h
        cases hd : decodeFrom (index + 1) none bs with
        | error e => simp [hd, Except.map] at h
        | ok ds =>
          simp only [hd, Except.map, Except.ok.injEq] at h
          simp [← h, ih hd]
      | lead q => rw [ho] at h; exact ih h
      | stray => simp [ho] at h
    | some p =>
      simp only [decodeFrom] at h
      simp only [decodeLossyFrom]
      split at h
      · rename_i hf
        simp only [hf, if_true]
        cases hl : p.later with
        | zero =>
          simp only [hl] at h
          cases hd : decodeFrom (index + p.taken + 1) none bs with
          | error e => simp [hd, Except.map] at h
          | ok ds =>
            simp only [hd, Except.map, Except.ok.injEq] at h
            simp [← h, ih hd]
        | succ later => simp only [hl] at h; exact ih h
      · cases h

end Utf8

end Transparency
