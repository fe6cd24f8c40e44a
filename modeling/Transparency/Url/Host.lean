import Transparency.Url.Address
import Transparency.Url.Domain

/-!
# Hosts

Where a URL points. In the special schemes a host is a domain name or a numeric address; percent-encoding in it is
undone, names are put into their ASCII form, and a name whose last part is a number has to be an IPv4 address. In all
other schemes a host is any text without characters that would end it. An IPv6 address stands in brackets in both.
-/

namespace Transparency

/-- Why a text is no URL. -/
inductive UrlFault where
  | emptyHost
  | invalidDomain
  | invalidPort
  | invalidIPv4
  | invalidIPv6
  | invalidHostCharacter
  | relativeWithoutBase
  deriving DecidableEq, Repr

/-- What a fault is called in messages. -/
def UrlFault.message : UrlFault → String
  | .emptyHost => "empty host"
  | .invalidDomain => "invalid international domain name"
  | .invalidPort => "invalid port number"
  | .invalidIPv4 => "invalid IPv4 address"
  | .invalidIPv6 => "invalid IPv6 address"
  | .invalidHostCharacter => "invalid domain character"
  | .relativeWithoutBase => "relative URL without a base"

/-- Where a URL points. -/
inductive Host where
  /-- a name, in the form in which it is printed -/
  | name (text : String)
  /-- a four-byte address, as a number -/
  | ipv4 (address : Nat)
  /-- the eight groups of an address -/
  | ipv6 (groups : List Nat)
  deriving DecidableEq, Repr

namespace Host

/-- A host as a URL prints it. -/
def render : Host → String
  | name text => text
  | ipv4 address => IPv4.render address
  | ipv6 groups => "[" ++ IPv6.render groups ++ "]"

/-- Characters that no host outside the special schemes may hold. -/
def isForbidden (c : Char) : Bool :=
  c.toNat = 0 || ['\t', '\n', '\r', ' ', '#', '/', ':', '<', '>', '?', '@', '[', '\\', ']', '^', '|'].contains c

/-- The address between brackets, if the text starts with one. -/
def bracketed? : List Char → Option (Except UrlFault Host)
  | '[' :: rest =>
    some <|
      if rest.getLast? = some ']' then
        match IPv6.parse? rest.dropLast with
        | some groups => .ok (ipv6 groups)
        | none => .error .invalidIPv6
      else .error .invalidIPv6
  | _ => none

/-- A host in a scheme that is not special. -/
def parseFree (text : List Char) : Except UrlFault Host :=
  match bracketed? text with
  | some result => result
  | none =>
    if text.any isForbidden then .error .invalidHostCharacter
    else .ok (name (String.ofList (Percent.encode Percent.controls text)))

/-- A host in a special scheme. -/
def parseSpecial (text : List Char) : Except UrlFault Host :=
  match bracketed? text with
  | some result => result
  | none =>
    match (Utf8.decode (Percent.decode text)).toOption.bind fun decoded => Domain.toAscii? decoded.toList with
    | none => .error .invalidDomain
    | some ascii =>
      if ascii = [] then .error .emptyHost
      else if IPv4.endsInNumber ascii then
        match IPv4.parse? ascii with
        | some address => .ok (ipv4 address)
        | none => .error .invalidIPv4
      else .ok (name (String.ofList ascii))

end Host

end Transparency
