import Transparency.Url.Percent
import Transparency.Text.Quoted

/-!
# Numeric hosts

An IPv4 address is written as one to four numbers between dots, each decimal, octal (leading `0`) or hexadecimal
(leading `0x`); the last number fills all bytes that the others leave. An IPv6 address is written as eight groups of
hexadecimal digits between colons, the last two of which may be a dotted address; `::` stands for the zero groups that
are missing. Both are printed in one canonical form.
-/

namespace Transparency

/-- The parts of a text between occurrences of a character; there is always one. -/
def splitAt (separator : Char) : List Char → List (List Char)
  | [] => [[]]
  | c :: rest =>
    if c = separator then [] :: splitAt separator rest
    else
      match splitAt separator rest with
      | part :: parts => (c :: part) :: parts
      | [] => [[c]]

/-- The number that digits of a base spell, or nothing if some character is no digit of it. -/
def digits? (base : Nat) (text : List Char) : Option Nat :=
  text.foldlM (fun n c => (Percent.hexValue? c).bind fun d => if d < base then some (n * base + d) else none) 0

namespace IPv4

/-- The base that a number is written in, and its digits. -/
def baseAndDigits : List Char → Nat × List Char
  | '0' :: 'x' :: rest => (16, rest)
  | '0' :: 'X' :: rest => (16, rest)
  | '0' :: d :: rest => (8, d :: rest)
  | text => (10, text)

/-- The number that one part of an address spells. -/
def number? (part : List Char) : Option Nat :=
  if part = [] then none
  else
    let (base, digits) := baseAndDigits part
    digits? base digits

/-- The parts of a text between dots, without an empty part at the end. -/
def parts (text : List Char) : List (List Char) :=
  let all := splitAt '.' text
  if all.length > 1 ∧ all.getLast? = some [] then all.dropLast else all

/-- Whether a host has to be read as an IPv4 address: its last part is a number. -/
def endsInNumber (text : List Char) : Bool :=
  match (parts text).getLast? with
  | none => false
  | some last => (last ≠ [] && last.all Char.isDigit) || (number? last).isSome

/-- The value of an address whose leading numbers are bytes and whose last number fills the rest. -/
def combine? : (room : Nat) → List Nat → Option Nat
  | _, [] => none
  | room, [last] => if last < Nat.pow 256 room then some last else none
  | 0, _ => none
  | room + 1, n :: rest =>
    if n < 256 then (combine? room rest).map (n * Nat.pow 256 room + ·) else none

/-- The address that a text spells. -/
def parse? (text : List Char) : Option Nat :=
  let parts := parts text
  if parts.length > 4 then none
  else (parts.mapM number?).bind (combine? 4)

/-- An address as four decimal numbers. -/
def render (address : Nat) : String :=
  ".".intercalate ([3, 2, 1, 0].map fun i => toString (address / Nat.pow 256 i % 256))

end IPv4

namespace IPv6

/-- One group of one to four hexadecimal digits. -/
def group? (text : List Char) : Option Nat :=
  if text.length = 0 ∨ 4 < text.length then none else digits? 16 text

/-- A number below 256 in decimal digits without a leading zero. -/
def byte? (text : List Char) : Option Nat :=
  if text.length = 0 ∨ (text.head? = some '0' ∧ 1 < text.length) then none
  else (digits? 10 text).filter (· < 256)

/-- The two groups that a dotted address stands for. -/
def dotted? (text : List Char) : Option (List Nat) :=
  match (splitAt '.' text).mapM byte? with
  | some [a, b, c, d] => some [a * 256 + b, c * 256 + d]
  | _ => none

/-- The groups that parts between colons spell; only the last part may be a dotted address. -/
def groupsOf? (mayBeDotted : Bool) : List (List Char) → Option (List Nat)
  | [] => some []
  | [last] =>
    match group? last with
    | some g => some [g]
    | none => if mayBeDotted then dotted? last else none
  | part :: rest =>
    match group? part with
    | some g => (groupsOf? mayBeDotted rest).map (g :: ·)
    | none => none

/-- The groups of a text without `::`; the empty text has none. -/
def groups? (mayBeDotted : Bool) (text : List Char) : Option (List Nat) :=
  if text = [] then some [] else groupsOf? mayBeDotted (splitAt ':' text)

/-- What stands before and after the first `::`. -/
def splitAtGap? : List Char → Option (List Char × List Char)
  | ':' :: ':' :: rest => some ([], rest)
  | c :: rest => (splitAtGap? rest).map fun (front, back) => (c :: front, back)
  | [] => none

/-- The eight groups that a text spells. -/
def parse? (text : List Char) : Option (List Nat) :=
  match splitAtGap? text with
  | some (front, back) =>
    match groups? false front, groups? true back with
    | some f, some b =>
      if f.length + b.length ≤ 7 then some (f ++ List.replicate (8 - f.length - b.length) 0 ++ b) else none
    | _, _ => none
  | none => (groups? true text).filter (·.length = 8)

/-- How many zeros a list of groups starts with. -/
def leadingZeros : List Nat → Nat
  | 0 :: rest => leadingZeros rest + 1
  | _ => 0

/-- Start and length of the first longest run of at least two zero groups, counted from `index`. -/
def longestGap? (index : Nat) : List Nat → Option (Nat × Nat)
  | [] => none
  | g :: rest =>
    let here := leadingZeros (g :: rest)
    match longestGap? (index + 1) rest with
    | some (start, length) => if here ≥ length then some (index, here) else some (start, length)
    | none => if here ≥ 2 then some (index, here) else none

/-- Groups in hexadecimal, between colons. -/
def renderGroups (groups : List Nat) : String :=
  ":".intercalate (groups.map fun g => String.ofList (Text.hexDigits g))

/-- An address in its canonical form, without brackets. -/
def render (groups : List Nat) : String :=
  match longestGap? 0 groups with
  | some (start, length) =>
    renderGroups (groups.take start) ++ "::" ++ renderGroups (groups.drop (start + length))
  | none => renderGroups groups

end IPv6

end Transparency
