/-!
# Whole numbers in decimal notation

A whole number is written with one or more decimal digits, perhaps after a plus sign. It is read digit by digit from
the front, and the first trouble is the one that counts: a number that has grown too large is so before any character
that follows.
-/

namespace Transparency

namespace Decimal

/-- Why a text is no whole number. -/
inductive NaturalFault where
  | empty
  | invalidDigit
  /-- the number does not fit in 64 bits -/
  | tooLarge
  deriving DecidableEq, Repr

/-- What a fault is called in messages. -/
def NaturalFault.message : NaturalFault → String
  | .empty => "cannot parse integer from empty string"
  | .invalidDigit => "invalid digit found in string"
  | .tooLarge => "number too large to fit in target type"

/-- Numbers that are read are less than this. -/
def naturalLimit : Nat := UInt64.size

/-- Goes on reading digits after those that make up a number. -/
def readDigits (n : Nat) : List Char → Except NaturalFault Nat
  | [] => .ok n
  | c :: rest =>
    if c.isDigit then
      let n := n * 10 + (c.toNat - '0'.toNat)
      if n < naturalLimit then readDigits n rest else .error .tooLarge
    else .error .invalidDigit

/-- Reads a whole number. -/
def readNatural (text : String) : Except NaturalFault Nat :=
  match text.toList with
  | [] => .error .empty
  | ['+'] => .error .invalidDigit
  | '+' :: rest => readDigits 0 rest
  | digits => readDigits 0 digits

end Decimal

end Transparency
