import Transparency.Bytes
import Transparency.Decimal.Shortest
import Transparency.Text.Quoted

/-!
# Faults in JSON text

A reader that meets a fault stops with its cause and with the bytes it has not used up. The place of the fault is then
the number of bytes used: the line is counted from one, and the column is the number of bytes used since the last line
break. A reader that only *looks at* the offending byte counts it as used, if there is one.
-/

namespace Transparency

/-- What a JSON value is, where another kind was expected. -/
inductive JsonKind where
  | null
  | boolean (value : Bool)
  | integer (value : Int)
  | float (value : Float)
  | text (value : String)
  | list
  | object
  deriving Repr

/-- Why a text is not what it should be. -/
inductive JsonCause where
  | endInValue
  | endInList
  | endInObject
  | endInText
  | expectedValue
  | expectedWord
  | expectedColon
  | expectedCommaOrBracket
  | expectedCommaOrBrace
  | keyNotText
  | trailingComma
  | trailingCharacters
  | invalidNumber
  | numberOutOfRange
  | invalidEscape
  | brokenSurrogate
  | loneSurrogate
  | controlCharacter
  | duplicateField (name : String)
  | wrongKind (found : JsonKind) (expected : String)
  deriving Repr

/-- How floating-point numbers appear in messages: positional while the leading digit stands for a power of ten from
`10 ^ -5` to `10 ^ 15`. -/
def JsonKind.floatLayout : Decimal.Layout where
  leastPositional := -5
  greatestPositional := 15
  plus := "+"
  exponentDigits := 2

/-- What a kind of value is called in messages. -/
def JsonKind.message : JsonKind → String
  | .null => "null"
  | .boolean true => "boolean `true`"
  | .boolean false => "boolean `false`"
  | .integer value => "integer `" ++ toString value ++ "`"
  | .float value => "floating point `" ++ floatLayout.renderFloat value ++ "`"
  | .text value => "string " ++ Text.quoted value
  | .list => "sequence"
  | .object => "map"

/-- What a cause is called in messages. -/
def JsonCause.message : JsonCause → String
  | .endInValue => "EOF while parsing a value"
  | .endInList => "EOF while parsing a list"
  | .endInObject => "EOF while parsing an object"
  | .endInText => "EOF while parsing a string"
  | .expectedValue => "expected value"
  | .expectedWord => "expected ident"
  | .expectedColon => "expected `:`"
  | .expectedCommaOrBracket => "expected `,` or `]`"
  | .expectedCommaOrBrace => "expected `,` or `\x7d`"
  | .keyNotText => "key must be a string"
  | .trailingComma => "trailing comma"
  | .trailingCharacters => "trailing characters"
  | .invalidNumber => "invalid number"
  | .numberOutOfRange => "number out of range"
  | .invalidEscape => "invalid escape"
  | .brokenSurrogate => "unexpected end of hex escape"
  | .loneSurrogate => "lone leading surrogate in hex escape"
  | .controlCharacter => "control character (\\u0000-\\u001F) found while parsing a string"
  | .duplicateField name => "duplicate field `" ++ name ++ "`"
  | .wrongKind found expected => "invalid type: " ++ found.message ++ ", expected " ++ expected

/-- A fault at its place in the text. -/
structure JsonFault where
  cause : JsonCause
  /-- counted from one -/
  line : Nat
  /-- bytes used since the last line break -/
  column : Nat
  deriving Repr

/-- What a fault is called in messages. -/
def JsonFault.message (fault : JsonFault) : String :=
  fault.cause.message ++ " at line " ++ toString fault.line ++ " column " ++ toString fault.column

namespace Json

/-- A cause and what was not used up when it was met. -/
structure Stop where
  cause : JsonCause
  unused : Bytes

/-- A reader's answer: a value and the bytes after it, or where it stopped. -/
abbrev Reading (α : Type) := Except Stop (α × Bytes)

/-- Stops with `rest` unused. -/
def stopAt {α : Type} (cause : JsonCause) (rest : Bytes) : Except Stop α :=
  .error ⟨cause, rest⟩

/-- Stops at the first byte of `rest`, which counts as used. -/
def stopOn {α : Type} (cause : JsonCause) (rest : Bytes) : Except Stop α :=
  .error ⟨cause, rest.drop 1⟩

/-- The place of a stop in the text. -/
def Stop.locate (text : Bytes) (stop : Stop) : JsonFault :=
  let used := text.take (text.length - stop.unused.length)
  ⟨stop.cause, 1 + used.count 0x0A, (used.reverse.takeWhile (· ≠ 0x0A)).length⟩

/-- Whether a byte is white space between tokens. -/
def isBlank (b : UInt8) : Bool := b = 0x20 || b = 0x0A || b = 0x09 || b = 0x0D

/-- The bytes from the next token on. -/
def skipBlanks (bytes : Bytes) : Bytes := bytes.dropWhile isBlank

/-- Whether a byte is a decimal digit. -/
def isDigit (b : UInt8) : Bool := 0x30 ≤ b && b ≤ 0x39

/-- The byte that stands for an ASCII character. -/
def byteOf (c : Char) : UInt8 := UInt8.ofNat c.toNat

/-- Reads the letters of a word of which the first has been read. -/
def readWord : (letters : List Char) → Bytes → Except Stop Bytes
  | [], rest => .ok rest
  | _ :: _, [] => stopAt .endInValue []
  | c :: letters, b :: rest => if b = byteOf c then readWord letters rest else stopAt .expectedWord rest

/-- The value of a hexadecimal digit. -/
def hexValue? (b : UInt8) : Option Nat :=
  if 0x30 ≤ b && b ≤ 0x39 then some (b.toNat - 0x30)
  else if 0x61 ≤ b && b ≤ 0x66 then some (b.toNat - 0x61 + 10)
  else if 0x41 ≤ b && b ≤ 0x46 then some (b.toNat - 0x41 + 10)
  else none

/-- The number of four hexadecimal digits. -/
def readHex : Bytes → Reading Nat
  | a :: b :: c :: d :: rest =>
    match hexValue? a, hexValue? b, hexValue? c, hexValue? d with
    | some a, some b, some c, some d => .ok (((a * 16 + b) * 16 + c) * 16 + d, rest)
    | _, _, _, _ => stopAt .invalidEscape rest
  | _ => stopAt .endInText []

end Json

end Transparency
