import Transparency.Url.Basic

/-!
# Reading URLs

A text is read from the front: the scheme, then what the scheme calls for, a user name, a host and a port after two
slashes, a path, a query after `?` and a fragment after `#`. In the special schemes backslashes count as slashes and
the number of slashes after the scheme does not matter. Blanks at both ends, tabs and line breaks are left out before
anything else.

`Url.parse` reads absolute URLs. The parts come out percent-encoded and with dot segments resolved.
-/

namespace Transparency

namespace Url

/-- The text without blanks and controls at both ends, and without tabs and line breaks anywhere. -/
def trim (text : List Char) : List Char :=
  let isBlank : Char → Bool := fun c => c.toNat ≤ 0x20
  let inner := ((text.dropWhile isBlank).reverse.dropWhile isBlank).reverse
  inner.filter fun c => !(c = '\t' || c = '\n' || c = '\r')

/-- The scheme in lower case and what follows its colon, if the text starts with a scheme. -/
def splitScheme? (text : List Char) : Option (String × List Char) :=
  let isSchemeChar : Char → Bool := fun c => c.isAlphanum || c = '+' || c = '-' || c = '.'
  match text.dropWhile isSchemeChar with
  | ':' :: rest =>
    if (text.head?.map Char.isAlpha).getD false then
      some (String.ofList ((text.takeWhile isSchemeChar).map Char.toLower), rest)
    else none
  | _ => none

/-- Whether a character separates segments. -/
def isSlash (isSpecial : Bool) (c : Char) : Bool := c = '/' || (isSpecial && c = '\\')

/-- Whether a character ends the part that holds user information, host and port. -/
def endsAuthority (isSpecial : Bool) (c : Char) : Bool := isSlash isSpecial c || c = '?' || c = '#'

/-! ## Query and fragment -/

/-- Query and fragment of a text that is empty or starts with the mark of one of them. -/
def splitTail (isSpecial : Bool) (text : List Char) : Option String × Option String :=
  let fragmentOf : List Char → Option String
    | _ :: rest => some (String.ofList (Percent.encode Percent.fragment rest))
    | [] => none
  match text with
  | '?' :: rest =>
    (some (String.ofList (Percent.encode (Percent.query isSpecial) (rest.takeWhile (· ≠ '#')))),
      fragmentOf (rest.dropWhile (· ≠ '#')))
  | _ => (none, fragmentOf text)

/-! ## Paths -/

/-- Whether a segment means "this place", its dot possibly encoded. -/
def isSingleDot (segment : List Char) : Bool :=
  [['.'], ['%', '2', 'e']].contains (segment.map Char.toLower)

/-- Whether a segment means "one place up", its dots possibly encoded. -/
def isDoubleDot (segment : List Char) : Bool :=
  [['.', '.'], ['.', '%', '2', 'e'], ['%', '2', 'e', '.'], ['%', '2', 'e', '%', '2', 'e']].contains
    (segment.map Char.toLower)

/-- Whether a segment names a drive: a letter with a colon or a bar. -/
def isDriveLetter : List Char → Bool
  | [letter, mark] => letter.isAlpha && (mark = ':' || mark = '|')
  | _ => false

/-- The segments, last first, one place up. A drive is never left. -/
def oneUp : List (List Char) → List (List Char)
  | [] => []
  | last :: rest => if isDriveLetter last then last :: rest else rest

/-- The parts of a text between slashes. -/
def splitSegments (isSpecial : Bool) : List Char → List (List Char)
  | [] => [[]]
  | c :: rest =>
    if isSlash isSpecial c then [] :: splitSegments isSpecial rest
    else
      match splitSegments isSpecial rest with
      | part :: parts => (c :: part) :: parts
      | [] => [[c]]

/-- Goes through encoded segments with those that are kept so far, last first. A dot segment at the end leaves an
empty segment, so that the path ends in a slash. -/
def resolveDots (isFile : Bool) : (kept : List (List Char)) → List (List Char) → List (List Char)
  | kept, [] => kept
  | kept, segment :: rest =>
    let kept :=
      if isDoubleDot segment then if rest = [] then [] :: oneUp kept else oneUp kept
      else if isSingleDot segment then if rest = [] then [] :: kept else kept
      else if isFile && kept = [] && isDriveLetter segment then (segment.take 1 ++ [':']) :: kept
      else segment :: kept
    resolveDots isFile kept rest

/-- The segments of a path whose first slash has been read. In a file path empty segments at the start do not count,
as long as one segment is left. -/
def readSegments (isSpecial isFile : Bool) (text : List Char) : List String :=
  let encoded := (splitSegments isSpecial text).map (Percent.encode Percent.path)
  let kept := (resolveDots isFile [] encoded).reverse
  let kept :=
    if isFile then
      match kept.dropWhile (· = []) with
      | [] => [[]]
      | rest => rest
    else kept
  kept.map String.ofList

/-- The text before the query or fragment, and the rest. -/
def splitPath (text : List Char) : List Char × List Char :=
  text.span fun c => !(c = '?' || c = '#')

/-! ## User information, host and port -/

/-- What stands before and after the last `@`, if there is one. -/
def splitAtLastAt? (text : List Char) : Option (List Char × List Char) :=
  if '@' ∈ text then
    some ((text.reverse.dropWhile (· ≠ '@')).tail.reverse, (text.reverse.takeWhile (· ≠ '@')).reverse)
  else none

/-- User name, password and the text that follows them. -/
def readUserInfo (isSpecial : Bool) (text : List Char) : Except UrlFault (String × String × List Char) :=
  let (inside, outside) := text.span fun c => !endsAuthority isSpecial c
  match splitAtLastAt? inside with
  | none => .ok ("", "", text)
  | some (userInfo, rest) =>
    if userInfo = [] ∧ rest = [] ∧ outside ≠ [] then .error .emptyHost
    else
      let encode := fun part => String.ofList (Percent.encode Percent.userInfo part)
      .ok (encode (userInfo.takeWhile (· ≠ ':')), encode ((userInfo.dropWhile (· ≠ ':')).drop 1), rest ++ outside)

/-- The text of a host and what follows it: colons inside brackets do not end it. -/
def splitHost (isSpecial inBrackets : Bool) : List Char → List Char × List Char
  | [] => ([], [])
  | c :: rest =>
    if (c = ':' && !inBrackets) || endsAuthority isSpecial c then ([], c :: rest)
    else
      let inBrackets := if c = '[' then true else if c = ']' then false else inBrackets
      let (host, rest) := splitHost isSpecial inBrackets rest
      (c :: host, rest)

/-- The number of a port, if it is below 65536. -/
def portNumber? (text : List Char) : Option Nat :=
  text.foldlM (fun n c => let n := n * 10 + (c.toNat - '0'.toNat); if n ≤ 65535 then some n else none) 0

/-- The port after a colon, unless the scheme implies it, and what follows. -/
def readPort (scheme : String) (text : List Char) : Except UrlFault (Option Nat × List Char) :=
  let (number, rest) := text.span Char.isDigit
  match portNumber? number with
  | none => .error .invalidPort
  | some port =>
    match rest.head? with
    | some c =>
      if ['/', '\\', '?', '#'].contains c then
        .ok (if number = [] ∨ defaultPort? scheme = some port then none else some port, rest)
      else .error .invalidPort
    | none => .ok (if number = [] ∨ defaultPort? scheme = some port then none else some port, rest)

/-- Host and port, and what follows them. -/
def readHostAndPort (scheme : String) (text : List Char) :
    Except UrlFault (Host × Option Nat × List Char) := do
  let isSpecial := isSpecialScheme scheme
  let (hostText, rest) := splitHost isSpecial false text
  let host ←
    if isSpecial then
      if hostText = [] then .error .emptyHost else Host.parseSpecial hostText
    else Host.parseFree hostText
  match rest with
  | ':' :: rest =>
    if host = .name "" then .error .emptyHost
    else
      let (port, rest) ← readPort scheme rest
      return (host, port, rest)
  | _ => return (host, none, rest)

/-! ## Whole URLs -/

/-- What follows two slashes, in any scheme but that of files. -/
def readAuthority (scheme : String) (text : List Char) : Except UrlFault Url := do
  let isSpecial := isSpecialScheme scheme
  let (username, password, rest) ← readUserInfo isSpecial text
  let (host, port, rest) ← readHostAndPort scheme rest
  if host = .name "" ∧ (username ≠ "" ∨ password ≠ "") then .error .emptyHost
  else
    let (pathText, tail) := splitPath rest
    let (query, fragment) := splitTail isSpecial tail
    let segments :=
      match pathText with
      | c :: rest => readSegments isSpecial false (if isSlash isSpecial c then rest else pathText)
      | [] => if isSpecial then [""] else []
    return ⟨scheme, username, password, some host, port, .segments segments, query, fragment⟩

/-- What follows the colon of a scheme that is not special. -/
def readFree (scheme : String) (text : List Char) : Except UrlFault Url :=
  match text with
  | '/' :: '/' :: rest => readAuthority scheme rest
  | '/' :: rest =>
    let (pathText, tail) := splitPath rest
    let (query, fragment) := splitTail false tail
    .ok ⟨scheme, "", "", none, none, .segments (readSegments false false pathText), query, fragment⟩
  | _ =>
    let (pathText, tail) := splitPath text
    let (query, fragment) := splitTail false tail
    .ok ⟨scheme, "", "", none, none, .plain (String.ofList (Percent.encode Percent.controls pathText)), query,
      fragment⟩

/-- The host of a file URL. No host and `localhost` are the same. -/
def readFileHost (text : List Char) : Except UrlFault Host :=
  if text = [] then .ok (.name "")
  else
    match Host.parseSpecial text with
    | .ok host => .ok (if host = .name "localhost" then .name "" else host)
    | .error fault => .error fault

/-- A file URL by its host and the text of its path. A path that starts with a drive has no host. -/
def fileUrl (host : Host) (text : List Char) : Url :=
  let (pathText, tail) := splitPath text
  let (query, fragment) := splitTail true tail
  let pathText := match pathText with
    | c :: rest => if isSlash true c then rest else pathText
    | [] => []
  let startsWithDrive := isDriveLetter ((splitSegments true pathText).headD [])
  ⟨"file", "", "", some (if startsWithDrive then .name "" else host), none,
    .segments (readSegments true true pathText), query, fragment⟩

/-- What follows the colon of the scheme of files. -/
def readFile (text : List Char) : Except UrlFault Url :=
  match text with
  | a :: b :: rest =>
    if isSlash true a && isSlash true b then
      let (hostText, after) := rest.span fun c => !endsAuthority true c
      if isDriveLetter hostText then .ok (fileUrl (.name "") rest)
      else (readFileHost hostText).map (fileUrl · after)
    else .ok (fileUrl (.name "") text)
  | _ => .ok (fileUrl (.name "") text)

/-- The URL that a text spells, or what keeps it from being one. -/
def parse (text : String) : Except UrlFault Url :=
  match splitScheme? (trim text.toList) with
  | none => .error .relativeWithoutBase
  | some (scheme, rest) =>
    if scheme = "file" then readFile rest
    else if isSpecialScheme scheme then readAuthority scheme (rest.dropWhile (isSlash true))
    else readFree scheme rest

end Url

end Transparency
