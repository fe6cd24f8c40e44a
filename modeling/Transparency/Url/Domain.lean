import Transparency.Text.Normalization
import Transparency.Url.Domain.Direction
import Transparency.Url.Domain.Joining
import Transparency.Url.Domain.Mapping
import Transparency.Url.Domain.Mark
import Transparency.Url.Punycode

/-!
# Domain names

A domain name consists of labels with dots between them. Names are compared in an ASCII form that is the same for all
spellings of a name: the characters are mapped, the text is brought into normal form, and every label that is not
ASCII then is written in Punycode after `xn--`. A label that is given in this form has to be one that this could have
led to.

Labels may be empty, and hyphens may stand anywhere. An ASCII name without encoded labels is only put into lower case.
-/

namespace Transparency

namespace Domain

/-- Characters that no domain name may hold in its mapped form. -/
def isDenied (c : Char) : Bool :=
  c.toNat ≤ 0x20 || c.toNat = 0x7F || "%#/:<>?@[\\]^|".toList.contains c

/-- Whether a character is ASCII. -/
def isAscii (c : Char) : Bool := c.toNat < 0x80

/-- What an encoded label starts with. -/
def encodedStart : List Char := ['x', 'n', '-', '-']

/-- Whether a label starts as encoded ones do. -/
def looksEncoded (label : List Char) : Bool :=
  label.take 4 = encodedStart

/-- The greatest number of characters of a label that is encoded. -/
def encodeLimit : Nat := 1000

/-- The greatest number of characters of a label that is decoded. -/
def decodeLimit : Nat := 2000

/-- Whether a text stays as it is when it is mapped and brought into normal form. -/
def isStable (text : List Char) : Bool :=
  text.all (fun c => mapChar? c = some [c]) && Text.normalize text = text

/-- The label that an encoded one stands for. -/
def decodeLabel? (label : List Char) : Option (List Char) :=
  let text := label.drop 4
  if text.all isAscii ∧ text ≠ [] ∧ text.getLast? ≠ some '-' ∧ text.length ≤ decodeLimit then
    (Punycode.decode? text).filter isStable
  else none

/-- The label itself, or what it stands for if it is encoded. -/
def plainLabel? (label : List Char) : Option (List Char) :=
  if looksEncoded label then decodeLabel? label else some label

/-- Whether a label may stand in a name, apart from the rule about directions. -/
def isWellFormed (label : List Char) : Bool :=
  !((label.head?.map isMark).getD false) && joinersFit [] label

/-- The ASCII form of a label. -/
def encodeLabel? (label : List Char) : Option (List Char) :=
  if label.all isAscii then some label
  else if label.length ≤ encodeLimit then some (encodedStart ++ Punycode.encode label)
  else none

/-- The ASCII form of mapped labels. -/
def encodeLabels? (labels : List (List Char)) : Option (List Char) := do
  let plain ← labels.mapM plainLabel?
  if !(plain.all isWellFormed) then none
  else if plain.any (·.any isRightToLeft) && !(plain.all keepsDirection) then none
  else
    let encoded ← plain.mapM encodeLabel?
    return ['.'].intercalate encoded

/-- Whether a name is in ASCII form but for the case of its letters. -/
def isPlain (name : List Char) : Bool :=
  name.all isAscii && (CharTable.parts '.' (name.map Char.toLower)).all (!looksEncoded ·)

/-- The ASCII form of a domain name. -/
def toAscii? (name : List Char) : Option (List Char) :=
  if isPlain name then
    if name.any isDenied then none else some (name.map Char.toLower)
  else
    match (mapText? name).map Text.normalize with
    | none => none
    | some mapped =>
      if mapped.any isDenied then none else encodeLabels? (CharTable.parts '.' mapped)

end Domain

end Transparency
