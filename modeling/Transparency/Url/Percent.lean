import Transparency.Text.Utf8

/-!
# Percent-encoding

A byte is written as `%` and two hexadecimal digits. Which characters have to be written so depends on the part of a
URL they stand in; every set contains the controls and all that is not ASCII, and each larger set adds the characters
that would end or split its part.
-/

namespace Transparency

namespace Percent

/-- The characters that are encoded in some part of a URL. -/
abbrev EncodeSet := Char → Bool

/-- Controls and everything beyond ASCII. -/
def controls : EncodeSet := fun c => c.toNat < 0x20 || 0x7E < c.toNat

/-- What is encoded in a fragment. -/
def fragment : EncodeSet := fun c => controls c || [' ', '"', '<', '>', '`'].contains c

/-- What is encoded in a path. -/
def path : EncodeSet := fun c => fragment c || ['#', '?', '\x7b', '\x7d'].contains c

/-- What is encoded in a user name or a password. -/
def userInfo : EncodeSet :=
  fun c => path c || ['/', ':', ';', '=', '@', '[', '\\', ']', '^', '|'].contains c

/-- What is encoded in a query; the apostrophe only where the scheme is special. -/
def query (isSpecial : Bool) : EncodeSet :=
  fun c => controls c || [' ', '"', '#', '<', '>'].contains c || (isSpecial && c = Char.ofNat 0x27)

/-- The digit of a number below sixteen, letters in upper case. -/
def hexDigit (n : Nat) : Char :=
  if n < 10 then Char.ofNat ('0'.toNat + n) else Char.ofNat ('A'.toNat + (n - 10))

/-- The value of a hexadecimal digit in either case. -/
def hexValue? (c : Char) : Option Nat :=
  if '0' ≤ c ∧ c ≤ '9' then some (c.toNat - '0'.toNat)
  else if 'a' ≤ c ∧ c ≤ 'f' then some (c.toNat - 'a'.toNat + 10)
  else if 'A' ≤ c ∧ c ≤ 'F' then some (c.toNat - 'A'.toNat + 10)
  else none

/-- A byte as `%` and two digits. -/
def encodeByte (b : UInt8) : List Char :=
  ['%', hexDigit (b.toNat / 16), hexDigit (b.toNat % 16)]

/-- A text with the characters of a set encoded. -/
def encode (set : EncodeSet) (text : List Char) : List Char :=
  text.flatMap fun c => if set c then (String.utf8EncodeChar c).flatMap encodeByte else [c]

/-- The bytes of a text in which encoded bytes are put back. A `%` without two digits stands for itself. -/
def decode : List Char → Bytes
  | [] => []
  | '%' :: a :: b :: rest =>
    match hexValue? a, hexValue? b with
    | some hi, some lo => UInt8.ofNat (hi * 16 + lo) :: decode rest
    | _, _ => 0x25 :: decode (a :: b :: rest)
  | c :: rest => String.utf8EncodeChar c ++ decode rest

end Percent

end Transparency
