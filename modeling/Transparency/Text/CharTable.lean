/-!
# Tables of characters

Properties of characters are kept as lines of text, so that a table can be compared with the standard it was taken from.
A table is a list of entries between blanks, in the order of the characters. An entry starts with the number of a character,
or with those of the first and the last character of a range and a hyphen between them, in hexadecimal digits with
upper-case letters. What follows the numbers is the *mark* of the entry; what it means is up to the table.

Looking a character up halves the entries that are left until one remains.
-/

namespace Transparency

/-- The characters from one number to another, and what is said of them. -/
structure Span (α : Type) where
  first : Nat
  last : Nat
  mark : α
  deriving Repr

/-- Spans in increasing order. -/
abbrev CharTable (α : Type) := Array (Span α)

namespace CharTable

variable {α : Type}

/-- Whether a character is a digit of a number in a table. -/
def isDigit (c : Char) : Bool := c.isDigit || ('A' ≤ c && c ≤ 'F')

/-- The number that digits spell. -/
def number (digits : List Char) : Nat :=
  digits.foldl (fun n c => n * 16 + (if c.isDigit then c.toNat - '0'.toNat else c.toNat - 'A'.toNat + 10)) 0

/-- The parts of a text between separators. -/
def parts (separator : Char) : List Char → List (List Char)
  | [] => [[]]
  | c :: rest =>
    if c = separator then [] :: parts separator rest
    else
      match parts separator rest with
      | part :: more => (c :: part) :: more
      | [] => [[c]]

/-- The numbers between full stops. -/
def numbers (text : List Char) : List Nat :=
  ((parts '.' text).filter (· ≠ [])).map number

/-- The span of an entry. -/
def entry (meaning : List Char → α) (text : List Char) : Span α :=
  let first := number (text.takeWhile isDigit)
  match text.dropWhile isDigit with
  | '-' :: rest => ⟨first, number (rest.takeWhile isDigit), meaning (rest.dropWhile isDigit)⟩
  | mark => ⟨first, first, meaning mark⟩

/-- The table that lines of entries spell, with a meaning for the marks. -/
def read (meaning : List Char → α) (lines : List String) : CharTable α :=
  (lines.flatMap fun line => (parts ' ' line.toList).map (entry meaning)).toArray

/-- The span of a number among those from one place of the table up to another. -/
def search (table : CharTable α) (n low high : Nat) : Option (Span α) :=
  if low < high then
    let middle := (low + high) / 2
    match table[middle]? with
    | none => none
    | some span =>
      if n < span.first then search table n low middle
      else if span.last < n then search table n (middle + 1) high
      else some span
  else none
termination_by high - low

/-- The span that a character lies in. -/
def find? (table : CharTable α) (c : Char) : Option (Span α) :=
  table.search c.toNat 0 table.size

/-- Whether a character lies in some span. -/
def contains (table : CharTable α) (c : Char) : Bool := (table.find? c).isSome

end CharTable

end Transparency
