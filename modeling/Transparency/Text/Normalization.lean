import Transparency.Text.CombiningClass
import Transparency.Text.Composition

/-!
# Normal form

Text that looks the same may be spelled in several ways: a letter with a mark may be one character or two, and marks
that do not get in each other's way may stand in any order. The normal form takes all composites apart, sorts the
marks after each letter by their classes, and then puts together what can be put together, from left to right.
-/

namespace Transparency

namespace Text

/-- No composite has to be taken apart more often than this. -/
def greatestDepth : Nat := 4

/-- A character taken apart, and again its first part. -/
def decompose : (depth : Nat) → Char → List Char
  | 0, c => [c]
  | depth + 1, c =>
    match split? c with
    | some (a, b) => decompose depth a ++ [b]
    | none => [c]

/-- Adds a character to a text that is given from its end. A mark goes before marks of higher classes. -/
def insertByClass (c : Char) : List Char → List Char
  | [] => [c]
  | d :: rest =>
    if 0 < combiningClass c ∧ combiningClass c < combiningClass d then d :: insertByClass c rest else c :: d :: rest

/-- The text with the marks after each letter in the order of their classes. -/
def sortMarks (text : List Char) : List Char :=
  (text.foldl (fun sorted c => insertByClass c sorted) []).reverse

/-- Puts together what can be put together. The characters since the last letter that stayed for themselves are given
from their end; a character joins the letter if nothing since then has its class or a higher one. -/
def composeFrom (letter : Char) (since : List Char) : List Char → List Char
  | [] => letter :: since.reverse
  | c :: rest =>
    let isFree := match since with
      | [] => true
      | d :: _ => combiningClass d < combiningClass c
    match if isFree then join? letter c else none with
    | some composite => composeFrom composite since rest
    | none =>
      if combiningClass c = 0 then letter :: since.reverse ++ composeFrom c [] rest
      else composeFrom letter (c :: since) rest

/-- Puts together what can be put together. -/
def compose : List Char → List Char
  | [] => []
  | c :: rest => composeFrom c [] rest

/-- The normal form of a text. -/
def normalize (text : List Char) : List Char :=
  compose (sortMarks (text.flatMap (decompose greatestDepth)))

end Text

end Transparency
