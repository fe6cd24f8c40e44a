/-!
# Host policy

Which hosts are checked, and whether a failed check refuses the response. A policy has two lists of *patterns*. An
exact pattern names one host; a pattern `*.d` names every host below `d`, but not `d` itself. A host that some
exclude pattern names is never covered. Of the others all are covered if the include list is empty, and otherwise
those that some include pattern names.

Letters are compared without regard to ASCII case, and dots at the end of a host do not count.

* `HostPolicy.covers` decides whether a host is checked.
* `HostPolicy.firstFault?` finds the first pattern that is malformed: a policy without one is *valid*.
-/

namespace Transparency

/-- Which hosts are checked, and what a failure means for the response. -/
structure HostPolicy where
  /-- patterns of hosts to check; none means all -/
  includeHosts : List String := []
  /-- patterns of hosts to leave alone -/
  excludeHosts : List String := []
  /-- whether a failed check refuses the response -/
  failOnError : Bool := true
  deriving DecidableEq, Repr

/-- What is wrong with a pattern. -/
inductive PatternFault where
  /-- nothing is left when the wildcard is taken off -/
  | emptyName
  /-- a star stands elsewhere than in a leading `*.` -/
  | misplacedWildcard
  /-- some label between the dots is empty -/
  | emptyLabel
  deriving DecidableEq, Repr

namespace HostPattern

/-- The name below a leading `*.`, for a pattern that has one. -/
def wildcardName? : List Char → Option (List Char)
  | '*' :: '.' :: name => some name
  | _ => none

/-- The name that a pattern is about, without its wildcard. -/
def name (pattern : List Char) : List Char :=
  (wildcardName? pattern).getD pattern

/-- Whether two dots stand side by side. -/
def hasDoubleDot : List Char → Bool
  | '.' :: '.' :: _ => true
  | _ :: rest => hasDoubleDot rest
  | [] => false

/-- What is wrong with a pattern, if anything: an empty name is reported before a stray star, and a stray star
before an empty label. -/
def fault? (pattern : String) : Option PatternFault :=
  let name := HostPattern.name pattern.toList
  if name = [] then some .emptyName
  else if '*' ∈ name then some .misplacedWildcard
  else if name.head? = some '.' ∨ name.getLast? = some '.' ∨ hasDoubleDot name = true then some .emptyLabel
  else none

/-- Whether `host` ends in `name` and has at least one character and a dot before it. -/
def isBelow (host name : List Char) : Bool :=
  host.length ≥ name.length + 2
    && host.drop (host.length - name.length) = name
    && (host.take (host.length - name.length)).getLast? = some '.'

/-- Whether a pattern names a host that is in lower case and has no dot at its end. -/
def names (pattern : String) (host : List Char) : Bool :=
  let pattern := pattern.toList.map Char.toLower
  match wildcardName? pattern with
  | some name => isBelow host name
  | none => host = pattern

end HostPattern

/-- A host as patterns see it: without the dots at its end, and in lower case. -/
def normalizedHost (host : String) : List Char :=
  ((host.toList.reverse.dropWhile (· = '.')).reverse).map Char.toLower

namespace HostPolicy

/-- The policy that checks every host and lets failures pass. -/
def reportOnly : HostPolicy where
  failOnError := false

/-- The first malformed pattern, include patterns before exclude patterns, and what is wrong with it. -/
def firstFault? (policy : HostPolicy) : Option (String × PatternFault) :=
  (policy.includeHosts ++ policy.excludeHosts).findSome? fun pattern =>
    (HostPattern.fault? pattern).map fun fault => (pattern, fault)

/-- Whether a host is checked. -/
def covers (policy : HostPolicy) (host : String) : Bool :=
  let host := normalizedHost host
  if policy.excludeHosts.any (HostPattern.names · host) then false
  else policy.includeHosts.isEmpty || policy.includeHosts.any (HostPattern.names · host)

end HostPolicy

/-- What a malformed pattern is called in messages. -/
def PatternFault.message (pattern : String) : PatternFault → String
  | .emptyName => s!"Empty host pattern '{pattern}'"
  | .misplacedWildcard => s!"Wildcard only allowed as leading '*.' in '{pattern}'"
  | .emptyLabel => s!"Malformed host pattern '{pattern}'"

end Transparency
