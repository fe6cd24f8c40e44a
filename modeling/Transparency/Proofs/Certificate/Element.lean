import Mathlib
import Transparency.Certificate.Element
import Transparency.Proofs.Reading

/-!
# Elements as they are written

What bytes are an element, without reference to how one is read: a tag, a length, and as many bytes of content. Reading
takes exactly such bytes off the front (`Element.read_eq_ok_iff`). A long tag and a long length may start with zeros, so
an element may be written in many ways.

Certificates are made of a few kinds of element: sequences, elements without parts, strings of bits, and parts that may
be missing. A part that may be missing is told from what comes next by its tag, so its reader passes over bytes that are
`Unmarked`.
-/

namespace Transparency

open Bytes

namespace Element

/-! ## Tags -/

/-- The number that bytes spell with seven bits each, after `n`. -/
def ofGroups (n : Nat) (digits : Bytes) : Nat := digits.foldl (fun n b => n * 128 + b.toNat % 128) n

/-- Only the low bits of what stands before matter for the low bits of the whole. -/
theorem ofGroups_mod (n : Nat) (digits : Bytes) :
    ofGroups (n % UInt32.size) digits % UInt32.size = ofGroups n digits % UInt32.size := by
  induction digits generalizing n with
  | nil => exact Nat.mod_mod n UInt32.size
  | cons d digits ih =>
    have same : (n % UInt32.size * 128 + d.toNat % 128) % UInt32.size = (n * 128 + d.toNat % 128) % UInt32.size := by
      simp only [UInt32.size]
      omega
    calc ofGroups (n % UInt32.size) (d :: digits) % UInt32.size
      _ = ofGroups ((n % UInt32.size * 128 + d.toNat % 128) % UInt32.size) digits % UInt32.size := (ih _).symm
      _ = ofGroups (n * 128 + d.toNat % 128) digits % UInt32.size := by rw [same, ih]

/-- A tag, with whether its element is constructed, and the bytes that it is written as. The last byte of a long tag is
the first below 128, and only 32 bits of its number are kept. -/
inductive TagSpelled : Nat × Bool → Bytes → Prop where
  | short {b : UInt8} : b.toNat % 32 ≠ 31 → TagSpelled (b.toNat % 32, b &&& 0x20 ≠ 0) [b]
  | long {b last : UInt8} {digits : Bytes} : b.toNat % 32 = 31 → digits.length < 5 → (∀ d ∈ digits, ¬d < 0x80) →
      last < 0x80 →
      TagSpelled (ofGroups 0 (digits ++ [last]) % UInt32.size, b &&& 0x20 ≠ 0) (b :: (digits ++ [last]))

theorem readLongTag_eq_ok_iff {more n tag : Nat} {bytes rest : Bytes} :
    readLongTag more n bytes = .ok (tag, rest) ↔
      ∃ digits last, digits.length < more ∧ (∀ d ∈ digits, ¬d < 0x80) ∧ last < 0x80 ∧
        bytes = digits ++ last :: rest ∧ tag = ofGroups n (digits ++ [last]) % UInt32.size := by
  induction more generalizing n bytes with
  | zero => simp [readLongTag]
  | succ more ih =>
    cases bytes with
    | nil => simp [readLongTag]
    | cons b bytes =>
      rw [readLongTag]
      split
      next ends =>
        constructor
        · intro read
          cases read
          exact ⟨[], b, by simp, by simp, ends, rfl, rfl⟩
        · rintro ⟨_ | ⟨d, digits⟩, last, -, going, -, same, rfl⟩
          · cases same
            rfl
          · cases same
            exact absurd ends (going b List.mem_cons_self)
      next goes =>
        rw [ih]
        constructor
        · rintro ⟨digits, last, short, going, ends, rfl, rfl⟩
          refine ⟨b :: digits, last, by simpa using short, ?_, ends, rfl, ofGroups_mod _ _⟩
          exact List.forall_mem_cons.mpr ⟨goes, going⟩
        · rintro ⟨_ | ⟨d, digits⟩, last, short, going, ends, same, rfl⟩
          · cases same
            exact absurd ends goes
          · cases same
            refine ⟨digits, last, by simpa using short, (List.forall_mem_cons.mp going).2, ends, rfl, ?_⟩
            exact (ofGroups_mod (n * 128 + b.toNat % 128) _).symm

theorem readTag_eq_ok_iff {tag : Nat × Bool} {bytes rest : Bytes} :
    readTag bytes = .ok (tag, rest) ↔ Split (TagSpelled tag) bytes rest := by
  constructor
  · intro read
    cases bytes with
    | nil => cases read
    | cons b bytes =>
      rw [readTag] at read
      split at read
      next long =>
        obtain ⟨⟨number, rest'⟩, digits, same⟩ := map_eq_ok_iff.mp read
        cases same
        obtain ⟨digits, last, short, going, ends, rfl, rfl⟩ := readLongTag_eq_ok_iff.mp digits
        exact ⟨_, .long long short going ends, by simp⟩
      next short =>
        cases read
        exact ⟨[b], .short short, rfl⟩
  · rintro ⟨_, spelled | ⟨long, short, going, ends⟩, rfl⟩
    · exact if_neg spelled
    · rw [List.cons_append, readTag, if_pos long, List.append_assoc]
      exact map_eq_ok_iff.mpr ⟨_, readLongTag_eq_ok_iff.mpr ⟨_, _, short, going, ends, rfl, rfl⟩, rfl⟩

/-! ## Lengths -/

/-- A length and the bytes that it is written as: one below 128, or the number of the bytes that follow, with 128 added
to it, and those. That no bytes follow would mean that the length is not known yet, and 127 bytes are none too. -/
inductive LengthSpelled : Nat → Bytes → Prop where
  | short {b : UInt8} : b < 0x80 → LengthSpelled b.toNat [b]
  | long {b : UInt8} {digits : Bytes} : b.toNat = 0x80 + digits.length → b ≠ 0x80 → b ≠ 0xFF →
      toNatBE digits < UInt64.size → LengthSpelled (toNatBE digits) (b :: digits)

theorem readLength_eq_ok_iff {length : Nat} {bytes rest : Bytes} :
    readLength bytes = .ok (length, rest) ↔ Split (LengthSpelled length) bytes rest := by
  constructor
  · intro read
    cases bytes with
    | nil => cases read
    | cons b bytes =>
      simp only [readLength] at read
      split at read
      next small =>
        cases read
        exact ⟨[b], .short small, rfl⟩
      next large =>
        have large : 0x80 ≤ b.toNat := UInt8.le_iff_toNat_le.mp (UInt8.not_lt.mp large)
        split at read
        · cases read
        next known =>
          split at read
          · cases read
          next used =>
            split at read
            · cases read
            next digits _ taken =>
              obtain ⟨count, rfl⟩ := splitExactly?_eq_some_iff.mp taken
              split at read
              next fits =>
                cases read
                exact ⟨b :: digits, .long (by omega) known used fits, rfl⟩
              · cases read
  · rintro ⟨_, small | @⟨b, digits, count, known, used, fits⟩, rfl⟩
    · exact if_pos small
    · have large : ¬b < 0x80 := by
        rw [UInt8.lt_iff_toNat_lt, count]
        exact Nat.not_lt.mpr (Nat.le_add_right ..)
      have taken : splitExactly? (b.toNat - 0x80) (digits ++ rest) = some (digits, rest) :=
        splitExactly?_eq_some_iff.mpr ⟨by omega, rfl⟩
      simp only [List.cons_append, readLength, if_neg large, if_neg known, if_neg used, taken, if_pos fits]

/-! ## Elements -/

/-- The bytes that an element is written as. -/
inductive SpelledBy : Element → Bytes → Prop where
  | intro {tag : Nat} {isConstructed : Bool} {content t l : Bytes} : TagSpelled (tag, isConstructed) t →
      LengthSpelled content.length l → SpelledBy ⟨tag, isConstructed, content⟩ (t ++ (l ++ content))

theorem readHeader_eq_ok_iff {tag : Nat × Bool} {length : Nat} {bytes rest : Bytes} :
    readHeader bytes = .ok (tag, length, rest) ↔
      ∃ middle, Split (TagSpelled tag) bytes middle ∧ Split (LengthSpelled length) middle rest := by
  simp only [← readTag_eq_ok_iff, ← readLength_eq_ok_iff]
  rw [readHeader]
  rcases readTag bytes with fault | ⟨tag', middle⟩
  · simp
  · constructor
    · intro read
      obtain ⟨⟨length', rest'⟩, read, same⟩ := map_eq_ok_iff.mp read
      cases same
      exact ⟨middle, rfl, read⟩
    · rintro ⟨_, same, read⟩
      cases same
      exact map_eq_ok_iff.mpr ⟨_, read, rfl⟩

/-- **Reading takes an element off the front.** -/
theorem read_eq_ok_iff {element : Element} {bytes rest : Bytes} :
    read bytes = .ok (element, rest) ↔ Split element.SpelledBy bytes rest := by
  constructor
  · intro taken
    rw [read] at taken
    split at taken
    · cases taken
    next header =>
      split at taken
      · cases taken
      next content_taken =>
        cases taken
        obtain ⟨_, ⟨t, tag, rfl⟩, l, length, rfl⟩ := readHeader_eq_ok_iff.mp header
        obtain ⟨rfl, rfl⟩ := splitExactly?_eq_some_iff.mp content_taken
        exact ⟨_, .intro tag length, by simp⟩
  · rintro ⟨_, @⟨tag, isConstructed, content, t, l, tagged, length⟩, rfl⟩
    have header : readHeader (t ++ (l ++ content) ++ rest) =
        .ok ((tag, isConstructed), content.length, content ++ rest) :=
      readHeader_eq_ok_iff.mpr ⟨l ++ (content ++ rest), ⟨t, tagged, by simp⟩, l, length, rfl⟩
    have taken : splitExactly? content.length (content ++ rest) = some (content, rest) :=
      splitExactly?_eq_some_iff.mpr ⟨rfl, rfl⟩
    simp only [read, header, taken]

/-- The bytes tell the tag of the element that they start with. -/
theorem tag_eq_of_split {element : Element} {tag : Nat × Bool} {bytes rest rest' : Bytes}
    (split : Split element.SpelledBy bytes rest) (tagged : Split (TagSpelled tag) bytes rest') :
    element.tag = tag.1 := by
  obtain ⟨_, ⟨tagged', -⟩, rfl⟩ := split
  rw [List.append_assoc, ← readTag_eq_ok_iff, readTag_eq_ok_iff.mpr (split_append tagged' _)] at tagged
  cases tagged
  rfl

/-! ## Kinds of element -/

/-- An element with a content and without parts. -/
def Primitive (tag : Nat) (content : Bytes) : Bytes → Prop := SpelledBy ⟨tag, false, content⟩

/-- An element with a property. -/
def Satisfying (property : Element → Prop) (bytes : Bytes) : Prop :=
  ∃ element : Element, element.SpelledBy bytes ∧ property element

/-- A sequence whose whole content is of a kind. -/
def SequenceOf (inner : Bytes → Prop) : Bytes → Prop :=
  Satisfying fun element => element.tag = sequenceTag ∧ inner element.content

/-- An element under a tag whose content starts with a part of a kind. -/
def Wrapped (tag : Nat) (inner : Bytes → Prop) : Bytes → Prop :=
  Satisfying fun element => element.tag = tag ∧ StartsWith inner element.content

/-- A string of bits. The bits that pad its last byte are zero. -/
def Bits (bytes : Bytes) : Prop :=
  ∃ (unused : UInt8) (bits : Bytes), Primitive bitStringTag (unused :: bits) bytes ∧ unused.toNat ≤ 8 ∧
    (bits = [] → unused = 0) ∧ ∀ last, bits.getLast? = some last → 2 ^ unused.toNat ∣ last.toNat

/-- The bytes are no element under a tag and what may follow it: they are at their end, or another element is next. -/
def Unmarked (tag : Nat) (bytes : Bytes) : Prop :=
  bytes = [] ∨ ∃ element : Element, element.tag ≠ tag ∧ StartsWith element.SpelledBy bytes

variable {tag : Nat} {content bytes rest : Bytes} {inner : Bytes → Prop}

theorem readPrimitive?_eq_some_iff :
    readPrimitive? tag bytes = some (content, rest) ↔ Split (Primitive tag content) bytes rest := by
  rw [Primitive, ← read_eq_ok_iff, readPrimitive?]
  rcases read bytes with fault | ⟨⟨tag', isConstructed, content'⟩, rest'⟩
  · simp
  · cases isConstructed <;> simp [and_assoc]

theorem startsWith_primitive_iff {property : Bytes → Prop} :
    StartsWith (fun part => ∃ content, property content ∧ Primitive tag content part) bytes ↔
      ∃ content rest, readPrimitive? tag bytes = some (content, rest) ∧ property content := by
  simp only [readPrimitive?_eq_some_iff]
  constructor
  · rintro ⟨rest, front, ⟨content, holds, primitive⟩, rfl⟩
    exact ⟨content, rest, split_append primitive rest, holds⟩
  · rintro ⟨content, rest, ⟨front, primitive, rfl⟩, holds⟩
    exact ⟨rest, front, ⟨content, holds, primitive⟩, rfl⟩

/-- An element under one tag is not taken for one under another. -/
theorem readPrimitive?_eq_none {element : Element} (split : Split element.SpelledBy bytes rest)
    (other : element.tag ≠ tag) : readPrimitive? tag bytes = none := by
  rw [readPrimitive?, read_eq_ok_iff.mpr split]
  exact if_neg fun same => other same.1

theorem split_satisfying_iff {property : Element → Prop} :
    Split (Satisfying property) bytes rest ↔ ∃ element, read bytes = .ok (element, rest) ∧ property element := by
  simp only [read_eq_ok_iff]
  constructor
  · rintro ⟨front, ⟨element, spelled, holds⟩, rfl⟩
    exact ⟨element, split_append spelled rest, holds⟩
  · rintro ⟨element, ⟨front, spelled, rfl⟩, holds⟩
    exact ⟨front, ⟨element, spelled, holds⟩, rfl⟩

theorem split_sequenceOf_iff :
    Split (SequenceOf inner) bytes rest ↔ ∃ content, readSequence bytes = .ok (content, rest) ∧ inner content := by
  rw [SequenceOf, split_satisfying_iff, readSequence]
  rcases read bytes with fault | ⟨element, rest'⟩
  · simp
  · by_cases tagged : element.tag = sequenceTag
    · simp [tagged, and_comm (b := inner _)]
    · simp [tagged]

theorem read_nil : read [] = .error (.endInHeader 1) := rfl

theorem split_wrapped_iff :
    Split (Wrapped tag inner) bytes rest ↔
      ∃ element, read bytes = .ok (element, rest) ∧ element.tag = tag ∧ StartsWith inner element.content :=
  split_satisfying_iff

theorem Wrapped.ne_nil (wrapped : Wrapped tag inner bytes) : bytes ≠ [] := by
  rintro rfl
  obtain ⟨element, read, -⟩ := split_wrapped_iff.mp (split_nil_iff.mpr wrapped)
  cases read

theorem unmarked_iff :
    Unmarked tag bytes ↔ bytes = [] ∨ ∃ element rest, read bytes = .ok (element, rest) ∧ element.tag ≠ tag := by
  simp only [Unmarked, StartsWith, read_eq_ok_iff, exists_and_right, and_comm (a := _ ≠ _)]

theorem readBits?_eq_some_iff : readBits? bytes = some rest ↔ Split Bits bytes rest := by
  constructor
  · intro taken
    rw [readBits?] at taken
    split at taken
    next unused bits rest' read =>
      obtain ⟨front, primitive, rfl⟩ := readPrimitive?_eq_some_iff.mp read
      split at taken
      next empty =>
        have none_left : bits = [] := List.getLast?_eq_none_iff.mp empty
        split at taken
        next zero =>
          cases taken
          subst none_left zero
          exact ⟨front, ⟨0, [], primitive, by decide, fun _ => rfl, nofun⟩, rfl⟩
        · cases taken
      next last final =>
        split at taken
        next padded =>
          cases taken
          obtain ⟨zeros, few⟩ := padded
          rw [UInt8.le_iff_toNat_le] at few
          change unused.toNat ≤ 8 at few
          refine ⟨front, ⟨unused, bits, primitive, few, ?_, ?_⟩, rfl⟩
          · rintro rfl
            cases final
          · intro last' final'
            cases final.symm.trans final'
            rw [Nat.min_eq_left few] at zeros
            exact Nat.dvd_of_mod_eq_zero zeros
        · cases taken
    · cases taken
  · rintro ⟨front, ⟨unused, bits, primitive, few, empty, padded⟩, rfl⟩
    simp only [readBits?, readPrimitive?_eq_some_iff.mpr (split_append primitive rest)]
    rcases final : bits.getLast? with _ | last
    · exact if_pos (empty (List.getLast?_eq_none_iff.mp final))
    · have zeros : last.toNat % Nat.pow 2 (min unused.toNat 8) = 0 := by
        rw [Nat.min_eq_left few]
        exact Nat.mod_eq_zero_of_dvd (padded last final)
      exact if_pos ⟨zeros, UInt8.le_iff_toNat_le.mpr few⟩

theorem isSome_readBits?_iff : (readBits? bytes).isSome = true ↔ StartsWith Bits bytes := by
  simp only [Option.isSome_iff_exists, readBits?_eq_some_iff, StartsWith]

end Element

end Transparency
