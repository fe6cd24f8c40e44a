import Transparency.Json.Fault

/-!
# Numbers in JSON

A number is read into an integer as long as its digits fit in 64 bits. Otherwise, or with a point or an exponent, it
is a floating-point number: the leading digits that fit, scaled by a power of ten. The scaling multiplies or divides
by one power of ten where the format holds it, and divides by `10 ^ 308` first where it does not.
-/

namespace Transparency

namespace Json

/-- The numeric value of a digit. -/
def digitValue (b : UInt8) : Nat := b.toNat - 0x30

/-- Adds digits to a number while it stays below `2 ^ 64`: the number, how many digits went in, and those that did
not. -/
def takeDigits (n : Nat) : Bytes → Nat × Nat × Bytes
  | [] => (n, 0, [])
  | b :: rest =>
    if n * 10 + digitValue b < UInt64.size then
      let (value, count, left) := takeDigits (n * 10 + digitValue b) rest
      (value, count + 1, left)
    else (n, 0, b :: rest)

/-- Divides by `10 ^ 308` until what is left of a negative exponent is a power of ten that the format holds. -/
def scaleDown (f : Float) (exponent : Nat) : Float :=
  if _h : exponent ≤ 308 then f / Float.ofScientific 1 false exponent
  else if f == 0 then f
  else scaleDown (f / Float.ofScientific 1 false 308) (exponent - 308)
termination_by exponent

/-- `significand * 10 ^ exponent`, unless it is too large. -/
def scaled? (significand : Nat) (exponent : Int) : Option Float :=
  let f := Float.ofNat significand
  if 0 ≤ exponent then
    if exponent ≤ 308 then
      let g := f * Float.ofScientific 1 false exponent.toNat
      if g.isInf then none else some g
    else if f == 0 then some f
    else none
  else some (scaleDown f exponent.natAbs)

/-- The number with its sign. -/
def signed (isNegative : Bool) (f : Float) : JsonKind :=
  .float (if isNegative then -f else f)

/-- The scaled number, or a stop with `rest` unused where it is too large. -/
def finish (isNegative : Bool) (significand : Nat) (exponent : Int) (rest : Bytes) : Reading JsonKind :=
  match scaled? significand exponent with
  | some f => .ok (signed isNegative f, rest)
  | none => stopAt .numberOutOfRange rest

/-- The greatest exponent that is told apart. -/
def exponentLimit : Nat := 2147483647

/-- Adds digits to an exponent up to the limit; the flag tells whether all went in, and otherwise the digit that
did not is used up. -/
def takeExponent (n : Nat) : Bytes → Nat × Bool × Bytes
  | [] => (n, true, [])
  | b :: rest =>
    if isDigit b then
      if n * 10 + digitValue b ≤ exponentLimit then takeExponent (n * 10 + digitValue b) rest
      else (n, false, rest)
    else (n, true, b :: rest)

/-- The part after the letter of an exponent. -/
def readExponent (isNegative : Bool) (significand : Nat) (start : Int) (bytes : Bytes) : Reading JsonKind :=
  let (isDown, bytes) : Bool × Bytes := match bytes with
    | b :: rest => if b = byteOf '+' then (false, rest) else if b = byteOf '-' then (true, rest) else (false, bytes)
    | [] => (false, [])
  match bytes with
  | [] => stopAt .endInValue []
  | b :: rest =>
    if isDigit b then
      match takeExponent (digitValue b) rest with
      | (n, true, rest) => finish isNegative significand (if isDown then start - n else start + n) rest
      | (_, false, rest) =>
        if significand ≠ 0 ∧ !isDown then stopAt .numberOutOfRange rest
        else .ok (signed isNegative 0, rest.dropWhile isDigit)
    else stopAt .invalidNumber rest

/-- An exponent, if there is one. -/
def readScale (isNegative : Bool) (significand : Nat) (start : Int) (bytes : Bytes) : Reading JsonKind :=
  match bytes with
  | b :: rest =>
    if b = byteOf 'e' ∨ b = byteOf 'E' then readExponent isNegative significand start rest
    else finish isNegative significand start bytes
  | [] => finish isNegative significand start []

/-- The part after the point. Digits that do not fit are dropped. -/
def readFraction (isNegative : Bool) (significand : Nat) (start : Int) (bytes : Bytes) : Reading JsonKind :=
  let (value, count, left) := takeDigits significand (bytes.takeWhile isDigit)
  let rest := bytes.dropWhile isDigit
  if count = 0 ∧ left = [] then
    if rest = [] then stopAt .endInValue [] else stopOn .invalidNumber rest
  else readScale isNegative value (start - count) rest

/-- What follows the leading digits. -/
def readAfterInteger (isNegative : Bool) (significand dropped : Nat) (bytes : Bytes) : Reading JsonKind :=
  match bytes with
  | b :: rest =>
    if b = byteOf '.' then readFraction isNegative significand dropped rest
    else if b = byteOf 'e' ∨ b = byteOf 'E' then readExponent isNegative significand dropped rest
    else whole
  | [] => whole
where
  /-- The number when nothing follows its digits. -/
  whole : Reading JsonKind :=
    if dropped ≠ 0 then finish isNegative significand dropped bytes
    else if !isNegative then .ok (.integer significand, bytes)
    else if significand = 0 ∨ UInt64.size / 2 < significand then .ok (signed true (Float.ofNat significand), bytes)
    else .ok (.integer (-significand), bytes)

/-- A number, its sign read. -/
def readNumber (isNegative : Bool) (bytes : Bytes) : Reading JsonKind :=
  match bytes with
  | [] => stopAt .endInValue []
  | b :: rest =>
    if b = byteOf '0' then
      if (rest.head?.map isDigit).getD false then stopOn .invalidNumber rest
      else readAfterInteger isNegative 0 0 rest
    else if isDigit b then
      let (value, _, left) := takeDigits (digitValue b) (rest.takeWhile isDigit)
      readAfterInteger isNegative value left.length (rest.dropWhile isDigit)
    else stopAt .invalidNumber rest

end Json

end Transparency
