import Mathlib
import Transparency.Certificate.Basic
import Transparency.Proofs.Certificate.Element

/-!
# The grammar of certificates

What bytes are a certificate with given extensions, without reference to how one is read. Each part is an element of
some kind, and most kinds of content only have to start with the right parts. Reading succeeds exactly on bytes that
start with a certificate, and finds its extensions (`Certificate.parse_eq_ok_iff`); so what follows a certificate cannot
matter.

Three parts of what a certificate says may be missing, and so may its extensions. The element that wraps the extensions
is peculiar: its own length does not count. It only has to be a whole element where a reader looks for the identifier
of the subject there.
-/

namespace Transparency

open Bytes

namespace Certificate

open Element

/-! ## Parts -/

/-- The name of an algorithm, which is not looked at. -/
def ObjectId (bytes : Bytes) : Prop := ∃ id, Primitive objectIdTag id bytes

/-- A number that fits in 32 bits. -/
def Word (bytes : Bytes) : Prop := ∃ content, isWord content = true ∧ Primitive integerTag content bytes

/-- The version of the certificate. -/
def Version : Bytes → Prop := Wrapped 0 Word

/-- The serial number, which is not looked at. -/
def Serial : Bytes → Prop := Satisfying fun element => element.tag = integerTag

/-- An algorithm: its name and perhaps parameters. -/
def Algorithm : Bytes → Prop := SequenceOf (StartsWith ObjectId)

/-- The name of an issuer or a subject, which is not looked at. -/
def Name : Bytes → Prop := SequenceOf fun _ => True

/-- A point in time. -/
def Time : Bytes → Prop := Satisfying fun element =>
  element.tag = utcTimeTag ∧ isUtcTime element.content = true ∨
    element.tag = generalizedTimeTag ∧ isGeneralizedTime element.content = true

/-- The two ends of the validity. -/
def Validity : Bytes → Prop := SequenceOf (StartsWith (Row [Time, Time]))

/-- The public key. -/
def Key : Bytes → Prop := SequenceOf (StartsWith (Row [Algorithm, Bits]))

/-- An identifier under a tag. -/
def UniqueId (tag : Nat) : Bytes → Prop := Wrapped tag Bits

/-! ## Extensions -/

/-- The mark that an extension is critical or not. -/
def Flag (bytes : Bytes) : Prop := ∃ b, Primitive booleanTag [b] bytes

/-- One extension. -/
def Entry (extension : Extension) : Bytes → Prop :=
  SequenceOf (StartsWith (Row [Primitive objectIdTag extension.id, Maybe Flag,
    Primitive octetStringTag extension.value]))

/-- The extensions in their wrapper, whose length may be any; or nothing, if there are none. -/
inductive Wrapper : List Extension → Bytes → Prop where
  | none : Wrapper [] []
  | some {isConstructed : Bool} {length : Nat} {t l entries : Bytes} {extensions : List Extension} :
      TagSpelled (3, isConstructed) t → LengthSpelled length l →
      SequenceOf (Row (extensions.map Entry)) entries → Wrapper extensions (t ++ (l ++ entries))

/-- What comes after the public key: identifiers of the issuer and of the subject, if there are any, and the extensions.
If there is no identifier of the subject, then what is there in its place has to be a whole element. -/
inductive Ending : List Extension → Bytes → Prop where
  | intro {issuerId subjectId wrapper : Bytes} {extensions : List Extension} : Maybe (UniqueId 1) issuerId →
      Maybe (UniqueId 2) subjectId → Wrapper extensions wrapper → (subjectId = [] → Unmarked 2 wrapper) →
      Ending extensions (issuerId ++ (subjectId ++ wrapper))

/-! ## Certificates -/

/-- What a certificate says. -/
def Statement (extensions : List Extension) : Bytes → Prop :=
  SequenceOf (Row [Maybe Version, Serial, Algorithm, Name, Validity, Name, Key, Ending extensions])

/-- The bytes that a certificate is written as: what it says, the algorithm of its signature, and the signature. -/
def SpelledBy (certificate : Certificate) : Bytes → Prop :=
  SequenceOf (StartsWith (Row [Statement certificate.extensions, Algorithm, Bits]))

/-! ## Reading the parts -/

variable {bytes rest : Bytes}

theorem readSerial_eq_ok_iff : readSerial bytes = .ok rest ↔ Split Serial bytes rest := by
  rw [Serial, split_satisfying_iff, readSerial]
  rcases read bytes with fault | ⟨element, rest'⟩
  · simp
  · by_cases tagged : element.tag = integerTag <;> simp [tagged]

theorem readAlgorithm_eq_ok_iff : readAlgorithm bytes = .ok rest ↔ Split Algorithm bytes rest := by
  rw [Algorithm, split_sequenceOf_iff, readAlgorithm]
  rcases readSequence bytes with fault | ⟨content, rest'⟩
  · simp
  · have named : StartsWith ObjectId content ↔ ∃ id rest, readPrimitive? objectIdTag content = some (id, rest) := by
      have any := @startsWith_primitive_iff objectIdTag content fun _ => True
      simp only [true_and, and_true] at any
      exact any
    rcases found : readPrimitive? objectIdTag content with _ | ⟨id, rest''⟩ <;> simp [named, found]

theorem readName_eq_ok_iff : readName bytes = .ok rest ↔ Split Name bytes rest := by
  rw [Name, split_sequenceOf_iff, readName, map_eq_ok_iff]
  simp

theorem readTime_eq_ok_iff : readTime bytes = .ok rest ↔ Split Time bytes rest := by
  rw [Time, split_satisfying_iff, readTime]
  rcases read bytes with fault | ⟨element, rest'⟩
  · simp
  · by_cases utc : element.tag = utcTimeTag ∧ isUtcTime element.content = true
    · simp [utc]
    · by_cases generalized : element.tag = generalizedTimeTag ∧ isGeneralizedTime element.content = true
      · simp [generalized]
      · simp [utc, generalized]

theorem readValidity_eq_ok_iff : readValidity bytes = .ok rest ↔ Split Validity bytes rest := by
  simp only [Validity, split_sequenceOf_iff, startsWith_row_cons_iff, startsWith_row_nil, and_true,
    ← readTime_eq_ok_iff]
  rw [readValidity]
  rcases readSequence bytes with fault | ⟨content, rest'⟩
  · simp
  · rcases first : readTime content with fault | middle
    · simp [first]
    · rcases second : readTime middle with fault | rest <;> simp [first, second, Except.map]

theorem readKey_eq_ok_iff : readKey bytes = .ok rest ↔ Split Key bytes rest := by
  simp only [Key, split_sequenceOf_iff, startsWith_row_cons_iff, startsWith_row_nil, and_true,
    ← readAlgorithm_eq_ok_iff, ← readBits?_eq_some_iff]
  rw [readKey]
  rcases readSequence bytes with fault | ⟨content, rest'⟩
  · simp
  · rcases first : readAlgorithm content with fault | middle
    · simp [first]
    · rcases second : readBits? middle with fault | rest <;> simp [first, second]

/-! ## Reading what may be missing -/

theorem startsWith_word_iff :
    StartsWith Word bytes ↔
      ∃ content rest, readPrimitive? integerTag bytes = some (content, rest) ∧ isWord content = true :=
  startsWith_primitive_iff

theorem readVersion_eq_ok_iff :
    readVersion bytes = .ok rest ↔ bytes = rest ∧ Unmarked 0 bytes ∨ Split Version bytes rest := by
  rw [Version, split_wrapped_iff, unmarked_iff, readVersion]
  by_cases ended : bytes = []
  · simp [ended, read_nil]
  · rcases read bytes with fault | ⟨element, rest'⟩
    · simp [ended]
    · by_cases tagged : element.tag = 0
      · rcases found : readPrimitive? integerTag element.content with _ | ⟨content, rest''⟩
        · simp [ended, tagged, found, startsWith_word_iff]
        · rcases fits : isWord content <;> simp [ended, tagged, found, fits, startsWith_word_iff]
      · simp [ended, tagged]

theorem readUniqueId?_eq_some_iff {tag : Nat} :
    readUniqueId? tag bytes = some rest ↔ bytes = rest ∧ Unmarked tag bytes ∨ Split (UniqueId tag) bytes rest := by
  rw [UniqueId, split_wrapped_iff, unmarked_iff, readUniqueId?]
  by_cases ended : bytes = []
  · simp [ended, read_nil]
  · rcases read bytes with fault | ⟨element, rest'⟩
    · simp [ended]
    · by_cases tagged : element.tag = tag
      · rcases found : readBits? element.content with _ | rest'' <;>
          simp [ended, tagged, found, ← isSome_readBits?_iff]
      · simp [ended, tagged]

/-! ## Reading extensions -/

theorem extension?_eq_some_iff {extension : Extension} :
    extension? bytes = some extension ↔ StartsWith (Row [Primitive objectIdTag extension.id, Maybe Flag,
      Primitive octetStringTag extension.value]) bytes := by
  simp only [startsWith_row_cons_iff, startsWith_row_nil, and_true, split_maybe_iff]
  constructor
  · intro taken
    rw [extension?] at taken
    split at taken
    · cases taken
    next id middle named =>
      obtain ⟨⟨value, rest⟩, octets, same⟩ := Option.map_eq_some_iff.mp taken
      cases same
      refine ⟨middle, readPrimitive?_eq_some_iff.mp named, ?_⟩
      split at octets
      next b middle' flag =>
        obtain ⟨front, primitive, rfl⟩ := readPrimitive?_eq_some_iff.mp flag
        exact ⟨middle', .inr (split_append ⟨b, primitive⟩ middle'), rest, readPrimitive?_eq_some_iff.mp octets⟩
      · exact ⟨middle, .inl rfl, rest, readPrimitive?_eq_some_iff.mp octets⟩
  · rintro ⟨middle, named, middle', flag, rest, octets⟩
    have named := readPrimitive?_eq_some_iff.mpr named
    have octets' := readPrimitive?_eq_some_iff.mpr octets
    obtain rfl | ⟨front, ⟨b, primitive⟩, rfl⟩ := flag
    · have unflagged : readPrimitive? booleanTag middle = none :=
        readPrimitive?_eq_none octets (show octetStringTag ≠ booleanTag by decide)
      simp only [extension?, named, unflagged, octets', Option.map_some]
    · have flagged := readPrimitive?_eq_some_iff.mpr (split_append primitive middle')
      simp only [extension?, named, flagged, octets', Option.map_some]

theorem split_entry_iff {extension : Extension} :
    Split (Entry extension) bytes rest ↔
      ∃ content, readSequence bytes = .ok (content, rest) ∧ extension? content = some extension := by
  simp only [Entry, split_sequenceOf_iff, extension?_eq_some_iff]

theorem allExtensions?_eq_some_iff {extensions : List Extension} :
    allExtensions? bytes = some extensions ↔ Row (extensions.map Entry) bytes := by
  induction extensions generalizing bytes with
  | nil =>
    rw [allExtensions?, List.map_nil, Row]
    split
    next ended => simp [ended]
    next some_left =>
      refine iff_of_false (fun taken => ?_) some_left
      split at taken
      · cases taken
      · split at taken
        · cases taken
        · obtain ⟨_, -, same⟩ := Option.map_eq_some_iff.mp taken
          cases same
  | cons extension extensions ih =>
    simp only [List.map_cons, Row, split_entry_iff, ← ih]
    rw [allExtensions?]
    split
    next ended =>
      subst ended
      simp [readSequence, read_nil]
    next some_left =>
      split
      next fault failed => simp [failed]
      next content rest taken =>
        rcases found : extension? content with _ | first
        · simp [taken, found]
        · simp only [taken, Except.ok.injEq, Prod.mk.injEq, Option.map_eq_some_iff, List.cons.injEq]
          constructor
          · rintro ⟨_, others, rfl, rfl⟩
            exact ⟨rest, ⟨content, ⟨rfl, rfl⟩, found⟩, others⟩
          · rintro ⟨_, ⟨_, ⟨rfl, rfl⟩, found'⟩, others⟩
            cases found.symm.trans found'
            exact ⟨extensions, others, rfl, rfl⟩

theorem readExtensions_eq_ok_iff {extensions : List Extension} :
    readExtensions bytes = .ok extensions ↔ Wrapper extensions bytes := by
  constructor
  · intro taken
    rw [readExtensions] at taken
    split at taken
    next ended =>
      cases taken
      subst ended
      exact .none
    next =>
      split at taken
      · cases taken
      next tag isConstructed length rest header =>
        obtain ⟨_, ⟨t, tagged, rfl⟩, l, long, rfl⟩ := readHeader_eq_ok_iff.mp header
        split at taken
        · cases taken
        next wrapper_tag =>
          obtain rfl := not_not.mp wrapper_tag
          split at taken
          · cases taken
          next content rest' sequence =>
            split at taken
            · cases taken
            next extensions' entries =>
              split at taken
              next ended =>
                cases taken
                subst ended
                refine .some tagged long (split_nil_iff.mp (split_sequenceOf_iff.mpr ⟨content, sequence, ?_⟩))
                exact allExtensions?_eq_some_iff.mp entries
              · cases taken
  · rintro (_ | @⟨isConstructed, length, t, l, entries, _, tagged, long, sequence⟩)
    · rfl
    · have header : readHeader (t ++ (l ++ entries)) = .ok ((3, isConstructed), length, entries) :=
        readHeader_eq_ok_iff.mpr ⟨_, split_append tagged _, split_append long _⟩
      obtain ⟨content, taken, row⟩ := split_sequenceOf_iff.mp (split_nil_iff.mpr sequence)
      have some_left : t ++ (l ++ entries) ≠ [] := by
        intro ended
        rw [ended] at header
        cases header
      simp only [readExtensions, if_neg some_left, header, ne_eq, not_true, if_false, taken,
        allExtensions?_eq_some_iff.mpr row, if_true]

/-! ## Reading certificates -/

/-- What is there in place of an identifier of the issuer is none: it is one of the subject, or it wraps extensions. -/
theorem unmarked_issuerId {subjectId wrapper : Bytes} {extensions : List Extension}
    (optional : Maybe (UniqueId 2) subjectId) (wrapped : Wrapper extensions wrapper)
    (whole : subjectId = [] → Unmarked 2 wrapper) : Unmarked 1 (subjectId ++ wrapper) := by
  obtain rfl | ⟨element, spelled, tagged, -⟩ := optional
  · obtain rfl | ⟨element, -, ended⟩ := whole rfl
    · exact .inl rfl
    · cases wrapped with
      | none => exact .inl rfl
      | some tagged =>
        refine .inr ⟨element, ?_, ended⟩
        obtain ⟨rest, split⟩ := ended
        exact (tag_eq_of_split split (split_append tagged _)).trans_ne (show 3 ≠ 1 by decide)
  · exact .inr ⟨element, by rw [tagged]; decide, startsWith_append spelled wrapper⟩

theorem ending_iff {extensions : List Extension} :
    Ending extensions bytes ↔ ∃ middle, readUniqueId? 1 bytes = some middle ∧
      ∃ wrapper, readUniqueId? 2 middle = some wrapper ∧ readExtensions wrapper = .ok extensions := by
  simp only [readUniqueId?_eq_some_iff, readExtensions_eq_ok_iff]
  constructor
  · rintro @⟨issuerId, subjectId, wrapper, _, issuer, subject, wrapped, whole⟩
    have unmarked := unmarked_issuerId subject wrapped whole
    refine ⟨subjectId ++ wrapper, ?_, wrapper, ?_, wrapped⟩
    · obtain rfl | present := issuer
      · exact .inl ⟨rfl, unmarked⟩
      · exact .inr (split_append present _)
    · obtain rfl | present := subject
      · exact .inl ⟨rfl, whole rfl⟩
      · exact .inr (split_append present wrapper)
  · rintro ⟨middle, issuer, wrapper, subject, wrapped⟩
    obtain ⟨subjectId, subject', rfl, whole⟩ : ∃ subjectId, Maybe (UniqueId 2) subjectId ∧
        middle = subjectId ++ wrapper ∧ (subjectId = [] → Unmarked 2 wrapper) := by
      obtain ⟨rfl, unmarked⟩ | ⟨front, present, rfl⟩ := subject
      · exact ⟨[], .inl rfl, rfl, fun _ => unmarked⟩
      · exact ⟨front, .inr present, rfl, fun ended => absurd ended present.ne_nil⟩
    obtain ⟨rfl, -⟩ | ⟨front, present, rfl⟩ := issuer
    · exact .intro (.inl rfl) subject' wrapped whole
    · exact .intro (.inr present) subject' wrapped whole

/-- The version is told from the serial number that has to follow it. -/
theorem version_serial_iff :
    (∃ middle, readVersion bytes = .ok middle ∧ Split Serial middle rest) ↔
      ∃ middle, Split (Maybe Version) bytes middle ∧ Split Serial middle rest := by
  simp only [readVersion_eq_ok_iff, split_maybe_iff]
  constructor
  · rintro ⟨middle, ⟨rfl, -⟩ | version, serial⟩
    · exact ⟨bytes, .inl rfl, serial⟩
    · exact ⟨middle, .inr version, serial⟩
  · rintro ⟨middle, rfl | version, serial⟩
    · -- the tag of the serial number is not that of a version
      obtain ⟨front, ⟨element, spelled, tagged⟩, rfl⟩ := serial
      have unmarked : Unmarked 0 (front ++ rest) :=
        .inr ⟨element, by rw [tagged]; decide, startsWith_append spelled rest⟩
      exact ⟨_, .inl ⟨rfl, unmarked⟩, split_append ⟨element, spelled, tagged⟩ rest⟩
    · exact ⟨middle, .inr version, serial⟩

theorem ofStatement_eq_ok_iff {certificate : Certificate} :
    ofStatement bytes = .ok certificate ↔
      Row [Maybe Version, Serial, Algorithm, Name, Validity, Name, Key, Ending certificate.extensions] bytes := by
  simp only [ofStatement, bind_eq_ok_iff, readSerial_eq_ok_iff, readAlgorithm_eq_ok_iff, readName_eq_ok_iff,
    readValidity_eq_ok_iff, readKey_eq_ok_iff, Row, exists_eq_right, split_nil_iff]
  constructor
  -- only the version and what comes after the key are told from their neighbours; all others step over their own bytes
  · rintro ⟨afterVersion, version, afterSerial, serial, b₃, algorithm, b₄, issuer, b₅, validity, b₆, subject, b₇, key,
      taken⟩
    have ending : Ending certificate.extensions b₇ := by
      split at taken
      · cases taken
      next issuerId =>
        split at taken
        · cases taken
        next subjectId =>
          obtain ⟨extensions, read, same⟩ := bind_eq_ok_iff.mp taken
          cases same
          exact ending_iff.mpr ⟨_, issuerId, _, subjectId, read⟩
    obtain ⟨middle, version, serial⟩ := version_serial_iff.mp ⟨afterVersion, version, serial⟩
    exact ⟨middle, version, afterSerial, serial, b₃, algorithm, b₄, issuer, b₅, validity, b₆, subject, b₇, key, ending⟩
  · rintro ⟨middle, version, afterSerial, serial, b₃, algorithm, b₄, issuer, b₅, validity, b₆, subject, b₇, key,
      ending⟩
    obtain ⟨afterVersion, version, serial⟩ := version_serial_iff.mpr ⟨middle, version, serial⟩
    obtain ⟨b₈, issuerId, b₉, subjectId, read⟩ := ending_iff.mp ending
    refine ⟨afterVersion, version, afterSerial, serial, b₃, algorithm, b₄, issuer, b₅, validity, b₆, subject, b₇, key,
      ?_⟩
    simp only [issuerId, subjectId, read]
    rfl

theorem split_statement_iff {extensions : List Extension} :
    Split (Statement extensions) bytes rest ↔
      ∃ content, readSequence bytes = .ok (content, rest) ∧ ofStatement content = .ok ⟨extensions⟩ := by
  simp only [Statement, split_sequenceOf_iff, ofStatement_eq_ok_iff]

/-- **Reading finds the certificates of the grammar**, and whatever follows one is passed over. -/
theorem parse_eq_ok_iff {certificate : Certificate} :
    parse bytes = .ok certificate ↔ StartsWith certificate.SpelledBy bytes := by
  simp only [parse, bind_eq_ok_iff, Prod.exists, StartsWith, SpelledBy, split_sequenceOf_iff]
  constructor
  · rintro ⟨content, rest, outer, statement, afterStatement, inner, certificate', read, afterAlgorithm, algorithm,
      taken⟩
    split at taken
    next signed =>
      cases taken
      refine ⟨rest, content, outer, startsWith_row_cons_iff.mpr ⟨afterStatement, ?_, ?_⟩⟩
      · exact split_statement_iff.mpr ⟨statement, inner, read⟩
      · refine startsWith_row_cons_iff.mpr ⟨afterAlgorithm, readAlgorithm_eq_ok_iff.mp algorithm, ?_⟩
        obtain ⟨afterSignature, signature⟩ := isSome_readBits?_iff.mp signed
        exact startsWith_row_cons_iff.mpr ⟨afterSignature, signature, startsWith_row_nil _⟩
    · cases taken
  · rintro ⟨rest, content, outer, row⟩
    obtain ⟨afterStatement, said, row⟩ := startsWith_row_cons_iff.mp row
    obtain ⟨statement, inner, read⟩ := split_statement_iff.mp said
    obtain ⟨afterAlgorithm, algorithm, row⟩ := startsWith_row_cons_iff.mp row
    obtain ⟨afterSignature, signature, -⟩ := startsWith_row_cons_iff.mp row
    refine ⟨content, rest, outer, statement, afterStatement, inner, certificate, read, afterAlgorithm,
      readAlgorithm_eq_ok_iff.mpr algorithm, ?_⟩
    exact if_pos (isSome_readBits?_iff.mpr ⟨afterSignature, signature⟩)

end Certificate

end Transparency
