import Transparency.Certificate.Element

/-!
# Points in time

A certificate is valid from one point in time to another. Each is written in digits, with two for a year that lies
between 1950 and 2049, or with four. Seconds may be left out, and with a four-digit year a fraction of at most three
digits may follow them. The text ends in `Z`, which means universal time; with a two-digit year it may instead end in
the difference from universal time, in hours and minutes.

Only whether a text is a point in time matters here; which one it is does not.
-/

namespace Transparency

namespace Certificate

/-- The number that two digits spell. -/
def twoDigits? (a b : UInt8) : Option Nat :=
  let isDigit : UInt8 → Bool := fun c => 0x30 ≤ c && c ≤ 0x39
  if isDigit a && isDigit b then some ((a.toNat - 0x30) * 10 + (b.toNat - 0x30)) else none

/-- The numbers that pairs of digits spell from the front, and what follows them. -/
def pairs? : (count : Nat) → Bytes → Option (List Nat × Bytes)
  | 0, bytes => some ([], bytes)
  | count + 1, a :: b :: rest =>
    match twoDigits? a b, pairs? count rest with
    | some n, some (ns, rest) => some (n :: ns, rest)
    | _, _ => none
  | _ + 1, _ => none

/-- Whether a year has a 29th of February. -/
def isLeapYear (year : Nat) : Bool :=
  year % 4 = 0 && (year % 100 ≠ 0 || year % 400 = 0)

/-- How many days a month has. -/
def daysInMonth (year month : Nat) : Nat :=
  if month = 2 then if isLeapYear year then 29 else 28
  else if [4, 6, 9, 11].contains month then 30
  else if 1 ≤ month ∧ month ≤ 12 then 31
  else 0

/-- Whether a day of that name is in the calendar. -/
def isDay (year month day : Nat) : Bool := 1 ≤ day && day ≤ daysInMonth year month

/-- Takes a fraction of at most three digits off. -/
def afterFraction (bytes : Bytes) : Bytes :=
  match bytes with
  | 0x2E :: rest =>
    let digits := rest.takeWhile fun c => 0x30 ≤ c && c ≤ 0x39
    if digits.length ≤ 3 then rest.drop digits.length else bytes
  | _ => bytes

/-- Whether a text stands for universal time. -/
def isUniversal (bytes : Bytes) : Bool := bytes = [0x5A]

/-- Whether a text is a difference from universal time: a sign, hours and minutes. -/
def isOffset (bytes : Bytes) : Bool :=
  match bytes with
  | sign :: rest =>
    (sign = 0x2B || sign = 0x2D) &&
      match pairs? 2 rest with
      | some ([hours, minutes], []) => hours ≤ 25 && minutes ≤ 59
      | _ => false
  | [] => false

/-- Whether the text after the day is a time of day, with nothing but a zone after it. -/
def isTimeOfDay (mayHaveFraction : Bool) (isZone : Bytes → Bool) (bytes : Bytes) : Bool :=
  match pairs? 2 bytes with
  | some ([hour, minute], rest) =>
    let secondAndRest := match rest with
      | [_] => some (0, rest)
      | _ => match pairs? 1 rest with
        | some ([second], rest) => some (second, rest)
        | _ => none
    match secondAndRest with
    | some (second, rest) =>
      let rest := if mayHaveFraction then afterFraction rest else rest
      hour ≤ 23 && minute ≤ 59 && second ≤ 59 && isZone rest
    | none => false
  | _ => false

/-- Whether a text with a two-digit year is a point in time. -/
def isUtcTime (bytes : Bytes) : Bool :=
  match pairs? 3 bytes with
  | some ([year, month, day], rest) =>
    isDay (if year < 50 then 2000 + year else 1900 + year) month day
      && isTimeOfDay false (fun zone => isUniversal zone || isOffset zone) rest
  | _ => false

/-- Whether a text with a four-digit year is a point in time. -/
def isGeneralizedTime (bytes : Bytes) : Bool :=
  match pairs? 4 bytes with
  | some ([century, year, month, day], rest) =>
    isDay (century * 100 + year) month day && isTimeOfDay true isUniversal rest
  | _ => false

/-- Takes a point in time off the front. -/
def readTime (bytes : Bytes) : Except CertificateFault Bytes :=
  match Element.read bytes with
  | .error _ => .error .invalidDate
  | .ok (element, rest) =>
    if element.tag = Element.utcTimeTag ∧ isUtcTime element.content then .ok rest
    else if element.tag = Element.generalizedTimeTag ∧ isGeneralizedTime element.content then .ok rest
    else .error .invalidDate

end Certificate

end Transparency
