/-!
# Headers

Headers are pairs of a name and a value, in the order in which they were added. Names are kept in lower case, so case
does not tell them apart; a name may have several values.
-/

namespace Transparency

namespace Http

/-- Whether a character may stand in a method or in the name of a header. -/
def isTokenChar (c : Char) : Bool :=
  c.isAlphanum || ['!', '#', '$', '%', '&', Char.ofNat 0x27, '*', '+', '-', '.', '^', '_', '`', '|', '~'].contains c

/-- Whether a text may be a method or the name of a header. -/
def isToken (text : String) : Bool := text ≠ "" && text.toList.all isTokenChar

/-- Whether a text may be the value of a header: it has no controls but tabs. -/
def isHeaderValue (text : String) : Bool :=
  text.toList.all fun c => c = '\t' || (0x20 ≤ c.toNat && c.toNat ≠ 0x7F)

end Http

/-- The headers of a request or a response. -/
abbrev Headers := List (String × String)

namespace Headers

/-- A name in the case in which it is kept. -/
def canonicalName (name : String) : String :=
  String.ofList (name.toList.map Char.toLower)

/-- Adds a value to those of a name; what cannot be a header is left out. -/
def append (headers : Headers) (name value : String) : Headers :=
  if Http.isToken name && Http.isHeaderValue value then headers ++ [(canonicalName name, value)] else headers

/-- The headers that pairs of texts stand for. -/
def ofPairs (pairs : List (String × String)) : Headers :=
  pairs.foldl (fun headers (name, value) => headers.append name value) []

/-- The values of a name, in order. -/
def values (headers : Headers) (name : String) : List String :=
  (headers.filter (·.1 = canonicalName name)).map (·.2)

/-- The headers by name; the values of one name stay in order. -/
def sorted (headers : Headers) : Headers :=
  headers.mergeSort fun a b => a.1 ≤ b.1

end Headers

end Transparency
