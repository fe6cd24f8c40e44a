import Mathlib
import Transparency.Json.Skip

/-!
# The grammar of JSON

What a JSON text is, without reference to how it is read. Every rule is one of the grammar's own: a list is brackets
around elements with commas between them, an element is a value with white space around it, and so on down to single
bytes. Lists and objects differ only in their brackets and in the key that an object has before each value, so one
rule serves both.

* `Derives` derives values and what stands between brackets; the texts among them may hold any escapes.
* `Spells` relates what stands between the quotes of a text to the bytes that it means. Half a surrogate pair means
  nothing.
-/

namespace Transparency

namespace Json

/-- White space between tokens. -/
def Blank (bytes : Bytes) : Prop := ∀ b ∈ bytes, isBlank b = true

/-- A word in ASCII. -/
def word (letters : String) : Bytes := letters.toList.map byteOf

/-- A truth value as it is written. -/
def boolean (value : Bool) : Bytes := word (if value then "true" else "false")

/-! ## Numbers -/

/-- One digit or more. -/
def Digits (bytes : Bytes) : Prop := bytes ≠ [] ∧ ∀ b ∈ bytes, isDigit b = true

/-- The digits before the point. Only a zero alone starts with a zero. -/
def Whole (bytes : Bytes) : Prop := bytes = [byteOf '0'] ∨ Digits bytes ∧ bytes.head? ≠ some (byteOf '0')

/-- The point with the digits after it, or nothing. -/
inductive Fraction : Bytes → Prop where
  | none : Fraction []
  | digits {ds : Bytes} : Digits ds → Fraction (byteOf '.' :: ds)

/-- The power of ten, or nothing. -/
inductive Exponent : Bytes → Prop where
  | none : Exponent []
  | unsigned {e : UInt8} {ds : Bytes} : e = byteOf 'e' ∨ e = byteOf 'E' → Digits ds → Exponent (e :: ds)
  | signed {e sign : UInt8} {ds : Bytes} : e = byteOf 'e' ∨ e = byteOf 'E' → sign = byteOf '+' ∨ sign = byteOf '-' →
      Digits ds → Exponent (e :: sign :: ds)

/-- A number without its sign. -/
inductive Magnitude : Bytes → Prop where
  | intro {w f e : Bytes} : Whole w → Fraction f → Exponent e → Magnitude (w ++ (f ++ e))

/-! ## Texts -/

/-- Four hexadecimal digits and the UTF-16 unit that they write. -/
inductive CodeUnit : Bytes → Nat → Prop where
  | intro {a b c d : UInt8} {i j k l : Nat} : hexValue? a = some i → hexValue? b = some j → hexValue? c = some k →
      hexValue? d = some l → CodeUnit [a, b, c, d] (((i * 16 + j) * 16 + k) * 16 + l)

/-- The first half of a surrogate pair. -/
abbrev IsHigh (n : Nat) : Prop := 0xD800 ≤ n ∧ n ≤ 0xDBFF

/-- The second half of a surrogate pair. -/
abbrev IsLow (n : Nat) : Prop := 0xDC00 ≤ n ∧ n ≤ 0xDFFF

/-- The character that a surrogate pair writes. -/
@[irreducible] def pairCharacter (high low : Nat) : Char :=
  Char.ofNat (0x10000 + (high - 0xD800) * 0x400 + (low - 0xDC00))

/-- The letters that may follow a backslash, and what they mean. -/
def escapes : List (UInt8 × UInt8) :=
  [(byteOf '"', byteOf '"'), (byteOf '\\', byteOf '\\'), (byteOf '/', byteOf '/'), (byteOf 'b', 0x08),
    (byteOf 'f', 0x0C), (byteOf 'n', 0x0A), (byteOf 'r', 0x0D), (byteOf 't', 0x09)]

/-- What follows a backslash, and the bytes that it means. -/
inductive Escape : Bytes → Bytes → Prop where
  | letter {b e : UInt8} : (b, e) ∈ escapes → Escape [b] [e]
  | unit {digits : Bytes} {n : Nat} : CodeUnit digits n → ¬IsHigh n → ¬IsLow n →
      Escape (byteOf 'u' :: digits) (String.utf8EncodeChar (Char.ofNat n))
  | pair {high low : Bytes} {n m : Nat} : CodeUnit high n → IsHigh n → CodeUnit low m → IsLow m →
      Escape (byteOf 'u' :: (high ++ byteOf '\\' :: byteOf 'u' :: low))
        (String.utf8EncodeChar (pairCharacter n m))

/-- What follows a backslash, whether or not it means anything. -/
inductive AnyEscape : Bytes → Prop where
  | letter {b e : UInt8} : (b, e) ∈ escapes → AnyEscape [b]
  | unit {digits : Bytes} {n : Nat} : CodeUnit digits n → AnyEscape (byteOf 'u' :: digits)

/-- Whether a byte stands for itself between quotes. -/
def IsPlain (b : UInt8) : Prop := b ≠ byteOf '"' ∧ b ≠ byteOf '\\' ∧ 0x20 ≤ b

/-- What stands between quotes, and the bytes that it means. -/
inductive Spells : Bytes → Bytes → Prop where
  | nil : Spells [] []
  | plain {b : UInt8} {raw content : Bytes} : IsPlain b → Spells raw content → Spells (b :: raw) (b :: content)
  | escape {written meant raw content : Bytes} : Escape written meant → Spells raw content →
      Spells (byteOf '\\' :: (written ++ raw)) (meant ++ content)

/-- What may stand between quotes. -/
inductive Content : Bytes → Prop where
  | nil : Content []
  | plain {b : UInt8} {raw : Bytes} : IsPlain b → Content raw → Content (b :: raw)
  | escape {written raw : Bytes} : AnyEscape written → Content raw → Content (byteOf '\\' :: (written ++ raw))

/-- A text with its quotes. -/
def quote (raw : Bytes) : Bytes := byteOf '"' :: (raw ++ [byteOf '"'])

/-! ## Values -/

/-- A value without parts. -/
inductive Scalar : Bytes → Prop where
  | null : Scalar (word "null")
  | boolean (value : Bool) : Scalar (boolean value)
  | positive {n : Bytes} : Magnitude n → Scalar n
  | negative {n : Bytes} : Magnitude n → Scalar (byteOf '-' :: n)
  | text {raw : Bytes} : Content raw → Scalar (quote raw)

/-- The byte that starts the frame. -/
def Frame.start : Frame → UInt8
  | list => byteOf '['
  | object => byteOf '\x7b'

/-- What can be derived. -/
inductive Symbol where
  | value
  /-- a value with white space around it -/
  | element
  /-- what stands between two commas of a frame -/
  | item (frame : Frame)
  /-- what stands between the brackets of a frame, unless they are empty -/
  | items (frame : Frame)
  deriving DecidableEq, Repr

/-- The rules of the grammar. -/
inductive Derives : Symbol → Bytes → Prop where
  | scalar {v : Bytes} : Scalar v → Derives .value v
  | empty {frame : Frame} {w : Bytes} : Blank w → Derives .value (frame.start :: (w ++ [frame.close]))
  | nested {frame : Frame} {inner : Bytes} : Derives (.items frame) inner →
      Derives .value (frame.start :: (inner ++ [frame.close]))
  | element {w v w' : Bytes} : Blank w → Derives .value v → Blank w' → Derives .element (w ++ (v ++ w'))
  | plain {e : Bytes} : Derives .element e → Derives (.item .list) e
  | keyed {w raw w' e : Bytes} : Blank w → Content raw → Blank w' → Derives .element e →
      Derives (.item .object) (w ++ (quote raw ++ (w' ++ byteOf ':' :: e)))
  | one {frame : Frame} {i : Bytes} : Derives (.item frame) i → Derives (.items frame) i
  | more {frame : Frame} {i is : Bytes} : Derives (.item frame) i → Derives (.items frame) is →
      Derives (.items frame) (i ++ byteOf ',' :: is)

/-! ## First steps -/

theorem blank_nil : Blank [] := fun _ h => absurd h List.not_mem_nil

theorem blank_append {w w' : Bytes} : Blank (w ++ w') ↔ Blank w ∧ Blank w' := by
  simp only [Blank, List.mem_append, or_imp, forall_and]

/-- What a text means is written with escapes that are allowed. -/
theorem Spells.toContent {raw content : Bytes} (h : Spells raw content) : Content raw := by
  induction h with
  | nil => exact .nil
  | plain hb _ ih => exact .plain hb ih
  | escape he _ ih =>
    cases he with
    | letter hm => exact .escape (.letter hm) ih
    | unit hu _ _ => exact .escape (.unit hu) ih
    | pair hn _ hm _ =>
      have := Content.escape (.unit hn) (Content.escape (.unit hm) ih)
      simpa only [List.cons_append, List.append_assoc] using this

/-- Bytes that stand for themselves between quotes. -/
theorem spells_self {raw : Bytes} (h : ∀ b ∈ raw, IsPlain b) : Spells raw raw := by
  induction raw with
  | nil => exact .nil
  | cons b raw ih =>
    obtain ⟨hb, hraw⟩ := List.forall_mem_cons.mp h
    exact .plain hb (ih hraw)

/-- No number is empty, and its first byte is a digit. -/
theorem Magnitude.head {n : Bytes} (h : Magnitude n) : ∃ d rest, n = d :: rest ∧ isDigit d = true := by
  cases h with
  | @intro w f e hw _ _ =>
    rcases hw with rfl | ⟨⟨hne, hd⟩, -⟩
    · exact ⟨_, f ++ e, rfl, rfl⟩
    · cases w with
      | nil => exact absurd rfl hne
      | cons d ds => exact ⟨d, ds ++ (f ++ e), rfl, hd d List.mem_cons_self⟩

theorem not_isBlank_of_isDigit {d : UInt8} (h : isDigit d = true) : isBlank d = false := by
  cases hb : isBlank d with
  | false => rfl
  | true =>
    simp only [isBlank, Bool.or_eq_true, decide_eq_true_eq] at hb
    obtain ((rfl | rfl) | rfl) | rfl := hb <;> revert h <;> decide

theorem Scalar.head {v : Bytes} (h : Scalar v) :
    ∃ b rest, v = b :: rest ∧ isBlank b = false ∧ b ≠ byteOf ']' ∧ b ≠ byteOf '\x7d' := by
  cases h with
  | null => exact ⟨byteOf 'n', word "ull", rfl, by decide⟩
  | boolean value =>
    cases value
    · exact ⟨byteOf 'f', word "alse", rfl, by decide⟩
    · exact ⟨byteOf 't', word "rue", rfl, by decide⟩
  | positive hn =>
    obtain ⟨d, rest, rfl, hd⟩ := hn.head
    refine ⟨d, rest, rfl, not_isBlank_of_isDigit hd, ?_, ?_⟩ <;> rintro rfl <;> revert hd <;> decide
  | negative _ => exact ⟨byteOf '-', _, rfl, by decide⟩
  | text _ => exact ⟨byteOf '"', _, rfl, by decide⟩

/-- A value starts with a byte that is no white space and ends no frame. -/
theorem Derives.head {v : Bytes} (h : Derives .value v) :
    ∃ b rest, v = b :: rest ∧ isBlank b = false ∧ ∀ frame : Frame, b ≠ frame.close := by
  have frames {b : UInt8} (h : b ≠ byteOf ']' ∧ b ≠ byteOf '\x7d') (frame : Frame) : b ≠ frame.close := by
    cases frame
    · exact h.1
    · exact h.2
  cases h with
  | scalar hv =>
    obtain ⟨b, rest, rfl, hb, hc⟩ := hv.head
    exact ⟨b, rest, rfl, hb, frames hc⟩
  | @empty frame w _ => cases frame <;> exact ⟨_, _, rfl, rfl, frames (by decide)⟩
  | @nested frame inner _ => cases frame <;> exact ⟨_, _, rfl, rfl, frames (by decide)⟩

end Json

end Transparency
