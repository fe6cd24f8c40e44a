import Mathlib
import Transparency.Proofs.Json.Grammar
import Transparency.Proofs.Reading

/-!
# Reading tokens

Every reader of a token takes off exactly what the grammar derives. Words, escapes and texts show their own end, so
their readers are described by an equivalence. A number does not: it ends where no further byte belongs to it, so what
follows has to delimit it (`Delimits`).
-/

namespace Transparency

namespace Json

/-! ## White space and words -/

theorem skipBlanks_append {w : Bytes} (h : Blank w) (rest : Bytes) : skipBlanks (w ++ rest) = skipBlanks rest :=
  List.dropWhile_append_of_pos h

theorem skipBlanks_cons {b : UInt8} (h : isBlank b = false) (rest : Bytes) : skipBlanks (b :: rest) = b :: rest := by
  rw [skipBlanks, List.dropWhile_cons_of_neg (by simp [h])]

theorem skipBlanks_skipBlanks (bytes : Bytes) : skipBlanks (skipBlanks bytes) = skipBlanks bytes :=
  List.dropWhile_idempotent _ _

/-- What is skipped is white space. -/
theorem exists_blank (bytes : Bytes) : ∃ w, Blank w ∧ bytes = w ++ skipBlanks bytes :=
  ⟨bytes.takeWhile isBlank, fun _ h => List.mem_takeWhile_imp h, List.takeWhile_append_dropWhile.symm⟩

theorem skipBlanks_eq_cons_iff {bytes rest : Bytes} {b : UInt8} :
    skipBlanks bytes = b :: rest ↔ isBlank b = false ∧ ∃ w, Blank w ∧ bytes = w ++ b :: rest := by
  constructor
  · intro h
    obtain ⟨w, hw, hb⟩ := exists_blank bytes
    have hne : skipBlanks bytes ≠ [] := by simp [h]
    have hnot : isBlank ((skipBlanks bytes).head hne) = false := List.head_dropWhile_not isBlank hne
    refine ⟨?_, w, hw, h ▸ hb⟩
    simpa only [h, List.head_cons] using hnot
  · rintro ⟨hb, w, hw, rfl⟩
    rw [skipBlanks_append hw, skipBlanks_cons hb]

theorem skipBlanks_eq_nil_iff {bytes : Bytes} : skipBlanks bytes = [] ↔ Blank bytes := by
  rw [skipBlanks, List.dropWhile_eq_nil_iff]
  rfl

theorem readWord_eq_ok_iff {letters : List Char} {bytes rest : Bytes} :
    readWord letters bytes = .ok rest ↔ bytes = letters.map byteOf ++ rest := by
  induction letters generalizing bytes with
  | nil => simp [readWord, eq_comm]
  | cons c letters ih =>
    cases bytes with
    | nil => simp [readWord, stopAt]
    | cons b bytes =>
      rw [readWord, List.map_cons, List.cons_append, List.cons.injEq]
      split
      · rename_i hb
        rw [ih]
        exact ⟨fun h => ⟨hb, h⟩, fun h => h.2⟩
      · rename_i hb
        simp [stopAt, hb]

theorem readWord_word (letters : String) (rest : Bytes) : readWord letters.toList (word letters ++ rest) = .ok rest :=
  readWord_eq_ok_iff.mpr rfl

/-! ## Escapes -/

theorem mem_escapes {b e : UInt8} (h : escaped? b = some e) : (b, e) ∈ escapes := by
  unfold escaped? at h
  split_ifs at h with hplain
  · cases h
    obtain rfl | rfl | rfl := hplain <;> decide
  all_goals
    subst b
    cases h
    decide

theorem escaped?_eq_some_iff {b e : UInt8} : escaped? b = some e ↔ (b, e) ∈ escapes := by
  refine ⟨mem_escapes, fun h => ?_⟩
  simp only [escapes, List.mem_cons, Prod.mk.injEq, List.not_mem_nil, or_false] at h
  rcases h with ⟨rfl, rfl⟩ | ⟨rfl, rfl⟩ | ⟨rfl, rfl⟩ | ⟨rfl, rfl⟩ | ⟨rfl, rfl⟩ | ⟨rfl, rfl⟩ | ⟨rfl, rfl⟩ | ⟨rfl, rfl⟩
  all_goals rfl

theorem readHex_eq_ok_iff {bytes rest : Bytes} {n : Nat} :
    readHex bytes = .ok (n, rest) ↔ ∃ digits, bytes = digits ++ rest ∧ CodeUnit digits n := by
  constructor
  · intro h
    unfold readHex at h
    split at h
    · rename_i a b c d tail
      split at h
      · rename_i ha hb hc hd
        cases h
        exact ⟨[a, b, c, d], rfl, .intro ha hb hc hd⟩
      · cases h
    · cases h
  · rintro ⟨digits, rfl, ha, hb, hc, hd⟩
    simp [readHex, ha, hb, hc, hd]

theorem ne_u_of_mem_escapes {b e : UInt8} (h : (b, e) ∈ escapes) : b ≠ byteOf 'u' := by
  rintro rfl
  cases escaped?_eq_some_iff.mpr h

theorem readSecondUnit_eq_ok_iff {bytes rest : Bytes} {n : Nat} :
    readSecondUnit bytes = .ok (n, rest) ↔
      ∃ digits, bytes = byteOf '\\' :: byteOf 'u' :: (digits ++ rest) ∧ CodeUnit digits n := by
  constructor
  · intro h
    unfold readSecondUnit at h
    split at h
    · cases h
    · split at h
      · rename_i hb
        split at h
        · cases h
        · split at h
          · rename_i hu
            obtain ⟨digits, rfl, hd⟩ := readHex_eq_ok_iff.mp h
            exact ⟨digits, by rw [hb, hu], hd⟩
          · cases h
      · cases h
  · rintro ⟨digits, rfl, hd⟩
    simp only [readSecondUnit, if_true]
    exact readHex_eq_ok_iff.mpr ⟨digits, rfl, hd⟩

theorem readUnit_of_not {first : Nat} (hhigh : ¬IsHigh first) (hlow : ¬IsLow first) (bytes : Bytes) :
    readUnit first bytes = .ok (Char.ofNat first, bytes) := by
  rw [readUnit, if_neg hlow, if_neg hhigh]

theorem readUnit_of_isLow {first : Nat} (h : IsLow first) (bytes : Bytes) :
    readUnit first bytes = stopAt .loneSurrogate bytes := by
  rw [readUnit, if_pos h]

theorem readUnit_of_isHigh {first : Nat} (h : IsHigh first) (bytes : Bytes) :
    readUnit first bytes =
      match readSecondUnit bytes with
      | .error stop => .error stop
      | .ok (second, rest) =>
        if IsLow second then .ok (pairCharacter first second, rest) else stopAt .loneSurrogate rest := by
  have hnot : ¬IsLow first := by omega
  unfold readUnit pairCharacter
  exact (if_neg hnot).trans (if_pos h)

/-- An escape that starts with `u` is one unit that is no half of a pair, or a whole pair. -/
theorem readUnicodeEscape_eq_ok_iff {bytes rest : Bytes} {c : Char} :
    readUnicodeEscape bytes = .ok (c, rest) ↔
      (∃ digits n, CodeUnit digits n ∧ ¬IsHigh n ∧ ¬IsLow n ∧ bytes = digits ++ rest ∧ c = Char.ofNat n) ∨
      ∃ high low n m, CodeUnit high n ∧ IsHigh n ∧ CodeUnit low m ∧ IsLow m ∧
        bytes = high ++ byteOf '\\' :: byteOf 'u' :: (low ++ rest) ∧ c = pairCharacter n m := by
  constructor
  · intro h
    rw [readUnicodeEscape] at h
    split at h
    · cases h
    · rename_i n tail hx
      obtain ⟨digits, rfl, hd⟩ := readHex_eq_ok_iff.mp hx
      by_cases hhigh : IsHigh n
      · rw [readUnit_of_isHigh hhigh] at h
        split at h
        · cases h
        · rename_i m tail' hs
          obtain ⟨low, rfl, hd'⟩ := readSecondUnit_eq_ok_iff.mp hs
          split at h
          · rename_i hm
            cases h
            exact .inr ⟨digits, low, n, m, hd, hhigh, hd', hm, rfl, rfl⟩
          · cases h
      · by_cases hlow : IsLow n
        · rw [readUnit_of_isLow hlow] at h
          cases h
        · rw [readUnit_of_not hhigh hlow] at h
          cases h
          exact .inl ⟨digits, n, hd, hhigh, hlow, rfl, rfl⟩
  · rintro (⟨digits, n, hd, hhigh, hlow, rfl, rfl⟩ | ⟨high, low, n, m, hn, hhigh, hm, hlow, rfl, rfl⟩)
    · rw [readUnicodeEscape, readHex_eq_ok_iff.mpr ⟨digits, rfl, hd⟩]
      exact readUnit_of_not hhigh hlow rest
    · rw [readUnicodeEscape, readHex_eq_ok_iff.mpr ⟨high, rfl, hn⟩]
      simp only [readUnit_of_isHigh hhigh, readSecondUnit_eq_ok_iff.mpr ⟨low, rfl, hm⟩, if_pos hlow]

theorem readEscape_eq_ok_iff {bytes rest meant : Bytes} :
    readEscape bytes = .ok (meant, rest) ↔ ∃ written, bytes = written ++ rest ∧ Escape written meant := by
  constructor
  · intro h
    unfold readEscape at h
    split at h
    · cases h
    · rename_i b tail
      split at h
      · rename_i hb
        subst hb
        obtain ⟨⟨c, rest'⟩, hu, hc⟩ := map_eq_ok_iff.mp h
        cases hc
        obtain ⟨digits, n, hd, hhigh, hlow, rfl, rfl⟩ | ⟨high, low, n, m, hn, hhigh, hm, hlow, rfl, rfl⟩ :=
          readUnicodeEscape_eq_ok_iff.mp hu
        · exact ⟨_, rfl, .unit hd hhigh hlow⟩
        · exact ⟨byteOf 'u' :: (high ++ byteOf '\\' :: byteOf 'u' :: low), by simp, .pair hn hhigh hm hlow⟩
      · split at h
        · rename_i e he
          cases h
          exact ⟨[b], rfl, .letter (escaped?_eq_some_iff.mp he)⟩
        · cases h
  · rintro ⟨written, rfl, he⟩
    cases he with
    | @letter b e hm =>
      simp only [List.singleton_append, readEscape, if_neg (ne_u_of_mem_escapes hm), escaped?_eq_some_iff.mpr hm]
    | unit hd hhigh hlow =>
      simp only [List.cons_append, readEscape, if_true]
      rw [readUnicodeEscape_eq_ok_iff.mpr (.inl ⟨_, _, hd, hhigh, hlow, rfl, rfl⟩)]
      rfl
    | pair hn hhigh hm hlow =>
      simp only [List.cons_append, List.append_assoc, readEscape, if_true]
      rw [readUnicodeEscape_eq_ok_iff.mpr (.inr ⟨_, _, _, _, hn, hhigh, hm, hlow, rfl, rfl⟩)]
      rfl

theorem skipEscape_eq_ok_iff {bytes rest : Bytes} :
    skipEscape bytes = .ok rest ↔ ∃ written, bytes = written ++ rest ∧ AnyEscape written := by
  constructor
  · intro h
    unfold skipEscape at h
    split at h
    · cases h
    · rename_i b tail
      split at h
      · rename_i hb
        obtain ⟨⟨n, rest'⟩, hx, rfl⟩ := map_eq_ok_iff.mp h
        obtain ⟨digits, rfl, hd⟩ := readHex_eq_ok_iff.mp hx
        exact ⟨_, by rw [hb, List.cons_append], .unit hd⟩
      · split at h
        · rename_i he
          obtain ⟨e, he⟩ := Option.isSome_iff_exists.mp he
          cases h
          exact ⟨[b], rfl, .letter (escaped?_eq_some_iff.mp he)⟩
        · cases h
  · rintro ⟨written, rfl, he⟩
    cases he with
    | letter hm =>
      simp only [List.singleton_append, skipEscape, if_neg (ne_u_of_mem_escapes hm), escaped?_eq_some_iff.mpr hm,
        Option.isSome_some, if_true]
    | unit hd =>
      simp only [List.cons_append, skipEscape, if_true]
      exact map_eq_ok_iff.mpr ⟨_, readHex_eq_ok_iff.mpr ⟨_, rfl, hd⟩, rfl⟩

/-! ## Texts -/

theorem not_lt_of_isPlain {b : UInt8} (h : IsPlain b) : ¬b < 0x20 := UInt8.not_lt.mpr h.2.2

/-- A text is taken off up to its closing quote, and only if all that it is made of is allowed. -/
theorem skipText_eq_ok_iff {bytes rest : Bytes} :
    skipText bytes = .ok rest ↔ ∃ raw, bytes = raw ++ byteOf '"' :: rest ∧ Content raw := by
  constructor
  · intro h
    fun_induction skipText bytes with
    | case1 => cases h
    | case2 =>
      cases h
      exact ⟨[], rfl, .nil⟩
    | case3 => cases h
    | case4 tail rest' he _ ih =>
      obtain ⟨written, rfl, hw⟩ := skipEscape_eq_ok_iff.mp he
      obtain ⟨raw, rfl, hraw⟩ := ih h
      exact ⟨byteOf '\\' :: (written ++ raw), by simp, .escape hw hraw⟩
    | case5 => cases h
    | case6 b tail hq hs hc ih =>
      obtain ⟨raw, rfl, hraw⟩ := ih h
      exact ⟨b :: raw, rfl, .plain ⟨hq, hs, UInt8.not_lt.mp hc⟩ hraw⟩
  · rintro ⟨raw, rfl, hraw⟩
    induction hraw with
    | nil => simp [skipText]
    | @plain b raw hb _ ih =>
      rw [List.cons_append, skipText, if_neg hb.1, if_neg hb.2.1, if_neg (not_lt_of_isPlain hb), ih]
    | @escape written raw he _ ih =>
      rw [List.cons_append, skipText, if_neg (by decide), if_pos rfl, List.append_assoc]
      have hs : skipEscape (written ++ (raw ++ byteOf '"' :: rest)) = .ok (raw ++ byteOf '"' :: rest) :=
        skipEscape_eq_ok_iff.mpr ⟨written, rfl, he⟩
      split
      · rename_i h
        cases hs.symm.trans h
      · rename_i h
        cases hs.symm.trans h
        exact ih

/-- A text is read up to its closing quote, into what it spells. -/
theorem readContent_eq_ok_iff {bytes rest content : Bytes} :
    readContent bytes = .ok (content, rest) ↔ ∃ raw, bytes = raw ++ byteOf '"' :: rest ∧ Spells raw content := by
  constructor
  · intro h
    fun_induction readContent bytes generalizing content rest with
    | case1 => cases h
    | case2 =>
      cases h
      exact ⟨[], rfl, .nil⟩
    | case3 => cases h
    | case4 tail meant rest' he _ ih =>
      obtain ⟨⟨more, rest''⟩, hr, hm⟩ := map_eq_ok_iff.mp h
      cases hm
      obtain ⟨written, rfl, hw⟩ := readEscape_eq_ok_iff.mp he
      obtain ⟨raw, rfl, hraw⟩ := ih hr
      exact ⟨byteOf '\\' :: (written ++ raw), by simp, .escape hw hraw⟩
    | case5 => cases h
    | case6 b tail hq hs hc ih =>
      obtain ⟨⟨more, rest''⟩, hr, hm⟩ := map_eq_ok_iff.mp h
      cases hm
      obtain ⟨raw, rfl, hraw⟩ := ih hr
      exact ⟨b :: raw, rfl, .plain ⟨hq, hs, UInt8.not_lt.mp hc⟩ hraw⟩
  · rintro ⟨raw, rfl, hraw⟩
    induction hraw with
    | nil => simp [readContent]
    | @plain b raw content hb _ ih =>
      rw [List.cons_append, readContent, if_neg hb.1, if_neg hb.2.1, if_neg (not_lt_of_isPlain hb), ih]
      rfl
    | @escape written meant raw content he _ ih =>
      rw [List.cons_append, readContent, if_neg (by decide), if_pos rfl, List.append_assoc]
      have hs : readEscape (written ++ (raw ++ byteOf '"' :: rest)) = .ok (meant, raw ++ byteOf '"' :: rest) :=
        readEscape_eq_ok_iff.mpr ⟨written, rfl, he⟩
      split
      · rename_i h
        cases hs.symm.trans h
      · rename_i h
        cases hs.symm.trans h
        rw [ih]
        rfl

theorem Spells.readContent {raw content : Bytes} (h : Spells raw content) (rest : Bytes) :
    readContent (raw ++ byteOf '"' :: rest) = .ok (content, rest) :=
  readContent_eq_ok_iff.mpr ⟨raw, rfl, h⟩

/-! ## Numbers -/

/-- Whether no number before these bytes goes on in them. -/
def Delimits (rest : Bytes) : Prop :=
  ∀ b ∈ rest.head?, isDigit b = false ∧ b ≠ byteOf '.' ∧ b ≠ byteOf 'e' ∧ b ≠ byteOf 'E'

/-- The digits that are taken off after a first one. -/
theorem exists_digits {d : UInt8} (hd : isDigit d = true) (bytes : Bytes) :
    ∃ ds, Digits (d :: ds) ∧ bytes = ds ++ bytes.dropWhile isDigit := by
  refine ⟨bytes.takeWhile isDigit, ⟨List.cons_ne_nil _ _, ?_⟩, List.takeWhile_append_dropWhile.symm⟩
  exact List.forall_mem_cons.mpr ⟨hd, fun _ h => List.mem_takeWhile_imp h⟩

theorem dropWhile_digits {ds rest : Bytes} (hds : ∀ b ∈ ds, isDigit b = true)
    (hrest : ∀ b ∈ rest.head?, isDigit b = false) : (ds ++ rest).dropWhile isDigit = rest := by
  rw [List.dropWhile_append_of_pos hds]
  cases rest with
  | nil => rfl
  | cons b rest => rw [List.dropWhile_cons_of_neg (by simp [hrest b rfl])]

theorem Digits.exists_cons {bytes : Bytes} (h : Digits bytes) :
    ∃ d ds, bytes = d :: ds ∧ isDigit d = true ∧ ∀ b ∈ ds, isDigit b = true := by
  obtain ⟨hne, hds⟩ := h
  cases bytes with
  | nil => exact absurd rfl hne
  | cons d ds => exact ⟨d, ds, rfl, List.forall_mem_cons.mp hds⟩

/-- Digits are taken off up to the first byte that is none. -/
theorem exists_digits_of_ite {d : UInt8} {tail rest : Bytes}
    (h : (if isDigit d then .ok (tail.dropWhile isDigit) else stopAt .invalidNumber tail) = .ok rest) :
    ∃ ds, d :: tail = ds ++ rest ∧ Digits ds := by
  split at h
  · rename_i hd
    cases h
    obtain ⟨ds, hds, htail⟩ := exists_digits hd tail
    exact ⟨d :: ds, by rw [List.cons_append, ← htail], hds⟩
  · cases h

theorem exists_exponent_of_skipExponent {e : UInt8} {bytes rest : Bytes} (he : e = byteOf 'e' ∨ e = byteOf 'E')
    (h : skipExponent bytes = .ok rest) : ∃ x, bytes = x ++ rest ∧ Exponent (e :: x) := by
  unfold skipExponent at h
  cases bytes with
  | nil => cases h
  | cons b tail =>
    by_cases hb : b = byteOf '+' ∨ b = byteOf '-'
    · simp only [if_pos hb] at h
      cases tail with
      | nil => cases h
      | cons d tail =>
        obtain ⟨ds, hds, hd⟩ := exists_digits_of_ite h
        exact ⟨b :: ds, by rw [hds, List.cons_append], .signed he hb hd⟩
    · simp only [if_neg hb] at h
      obtain ⟨ds, hds, hd⟩ := exists_digits_of_ite h
      exact ⟨ds, hds, .unsigned he hd⟩

theorem exists_exponent_of_skipScale {bytes rest : Bytes} (h : skipScale bytes = .ok rest) :
    ∃ e, bytes = e ++ rest ∧ Exponent e := by
  unfold skipScale at h
  split at h
  · rename_i b tail
    split at h
    · rename_i hb
      obtain ⟨x, rfl, hx⟩ := exists_exponent_of_skipExponent hb h
      exact ⟨b :: x, rfl, hx⟩
    · cases h
      exact ⟨[], rfl, .none⟩
  · cases h
    exact ⟨[], rfl, .none⟩

theorem exists_cons_of_head {bytes : Bytes} (h : (bytes.head?.map isDigit).getD false = true) :
    ∃ d tail, bytes = d :: tail ∧ isDigit d = true := by
  cases bytes with
  | nil => cases h
  | cons d tail => exact ⟨d, tail, rfl, h⟩

theorem exists_of_skipAfterInteger {bytes rest : Bytes} (h : skipAfterInteger bytes = .ok rest) :
    ∃ f e, bytes = f ++ (e ++ rest) ∧ Fraction f ∧ Exponent e := by
  unfold skipAfterInteger at h
  split at h
  · rename_i b tail
    split at h
    · rename_i hb
      split at h
      · rename_i hhead
        obtain ⟨d, tail', rfl, hd⟩ := exists_cons_of_head hhead
        obtain ⟨ds, hds, htail⟩ := exists_digits hd tail'
        rw [List.dropWhile_cons_of_pos hd] at h
        obtain ⟨e, he, hexp⟩ := exists_exponent_of_skipScale h
        exact ⟨b :: d :: ds, e, by rw [List.cons_append, List.cons_append, ← he, ← htail], hb ▸ .digits hds, hexp⟩
      · cases h
    · obtain ⟨e, he, hexp⟩ := exists_exponent_of_skipScale h
      exact ⟨[], e, he, .none, hexp⟩
  · cases h
    exact ⟨[], [], rfl, .none, .none⟩

/-- What is taken off as a number is one. -/
theorem exists_magnitude_of_skipNumber {bytes rest : Bytes} (h : skipNumber bytes = .ok rest) :
    ∃ n, bytes = n ++ rest ∧ Magnitude n := by
  have after {w tail : Bytes} (hw : Whole w) (h : skipAfterInteger tail = .ok rest) :
      ∃ n, w ++ tail = n ++ rest ∧ Magnitude n := by
    obtain ⟨f, e, rfl, hf, he⟩ := exists_of_skipAfterInteger h
    exact ⟨w ++ (f ++ e), by simp only [List.append_assoc], .intro hw hf he⟩
  unfold skipNumber at h
  split at h
  · cases h
  · rename_i b tail
    split at h
    · rename_i hb
      split at h
      · cases h
      · exact after (w := [b]) (.inl (by rw [hb])) h
    · rename_i hb
      split at h
      · rename_i hd
        obtain ⟨ds, hds, htail⟩ := exists_digits hd tail
        have := after (w := b :: ds) (.inr ⟨hds, by simpa using hb⟩) h
        rwa [List.cons_append, ← htail] at this
      · cases h

theorem skipExponent_digits {ds rest : Bytes} (h : Digits ds) (hrest : Delimits rest) :
    skipExponent (ds ++ rest) = .ok rest := by
  obtain ⟨d, ds, rfl, hd, hds⟩ := h.exists_cons
  have hsign : ¬(d = byteOf '+' ∨ d = byteOf '-') := by rintro (rfl | rfl) <;> revert hd <;> decide
  simp only [List.cons_append, skipExponent, if_neg hsign, hd, if_true]
  rw [dropWhile_digits hds fun b hb => (hrest b hb).1]

theorem skipExponent_signed {sign : UInt8} {ds rest : Bytes} (hs : sign = byteOf '+' ∨ sign = byteOf '-')
    (h : Digits ds) (hrest : Delimits rest) : skipExponent (sign :: (ds ++ rest)) = .ok rest := by
  obtain ⟨d, ds, rfl, hd, hds⟩ := h.exists_cons
  simp only [List.cons_append, skipExponent, if_pos hs, hd, if_true]
  rw [dropWhile_digits hds fun b hb => (hrest b hb).1]

theorem skipScale_append {e rest : Bytes} (he : Exponent e) (hrest : Delimits rest) :
    skipScale (e ++ rest) = .ok rest := by
  cases he with
  | none =>
    rw [List.nil_append]
    cases rest with
    | nil => rfl
    | cons b rest =>
      obtain ⟨-, -, he, hE⟩ := hrest b rfl
      rw [skipScale, if_neg (by simp [he, hE])]
  | unsigned hletter hds =>
    rw [List.cons_append, skipScale, if_pos hletter]
    exact skipExponent_digits hds hrest
  | signed hletter hs hds =>
    rw [List.cons_append, List.cons_append, skipScale, if_pos hletter]
    exact skipExponent_signed hs hds hrest

/-- What stands after a fraction ends its digits. -/
theorem Exponent.head {e rest : Bytes} (he : Exponent e) (hrest : Delimits rest) :
    ∀ b ∈ (e ++ rest).head?, isDigit b = false ∧ b ≠ byteOf '.' := by
  intro b hb
  cases he with
  | none => exact ⟨(hrest b hb).1, (hrest b hb).2.1⟩
  | unsigned hletter _ =>
    cases hb
    obtain rfl | rfl := hletter <;> decide
  | signed hletter _ _ =>
    cases hb
    obtain rfl | rfl := hletter <;> decide

theorem skipAfterInteger_append {f e rest : Bytes} (hf : Fraction f) (he : Exponent e) (hrest : Delimits rest) :
    skipAfterInteger (f ++ (e ++ rest)) = .ok rest := by
  have hscale := skipScale_append he hrest
  have hhead := he.head hrest
  cases hf with
  | none =>
    rw [List.nil_append]
    cases hb : e ++ rest with
    | nil =>
      rw [hb] at hscale
      exact hscale
    | cons b tail =>
      rw [hb] at hscale hhead
      rw [skipAfterInteger, if_neg (hhead b rfl).2]
      exact hscale
  | digits hds =>
    obtain ⟨d, ds, rfl, hd, hds⟩ := hds.exists_cons
    rw [List.cons_append, skipAfterInteger, if_pos rfl, List.cons_append, if_pos (by simpa using hd),
      List.dropWhile_cons_of_pos hd, dropWhile_digits hds fun b hb => (hhead b hb).1]
    exact hscale

/-- What follows the digits before the point is no digit. -/
theorem Fraction.head {f e rest : Bytes} (hf : Fraction f) (he : Exponent e) (hrest : Delimits rest) :
    ∀ b ∈ (f ++ (e ++ rest)).head?, isDigit b = false := by
  intro b hb
  cases hf with
  | none => exact (he.head hrest b hb).1
  | digits _ =>
    cases hb
    decide

theorem skipNumber_append {n rest : Bytes} (hn : Magnitude n) (hrest : Delimits rest) :
    skipNumber (n ++ rest) = .ok rest := by
  cases hn with
  | @intro w f e hw hf he =>
    have hafter := skipAfterInteger_append hf he hrest
    have hhead := hf.head he hrest
    rw [List.append_assoc, List.append_assoc]
    rcases hw with rfl | ⟨hds, hzero⟩
    · rw [List.singleton_append, skipNumber, if_pos rfl, if_neg]
      · exact hafter
      · cases hb : f ++ (e ++ rest) with
        | nil => simp
        | cons b tail =>
          rw [hb] at hhead
          simp [hhead b rfl]
    · obtain ⟨d, ds, rfl, hd, hds⟩ := hds.exists_cons
      rw [List.cons_append, skipNumber, if_neg (by simpa using hzero), if_pos hd, dropWhile_digits hds hhead]
      exact hafter

/-! ## Values without parts -/

theorem exists_of_skipScalar {b : UInt8} {bytes rest : Bytes} (h : skipScalar b bytes = .ok rest) :
    ∃ v, b :: bytes = v ++ rest ∧ Scalar v := by
  rw [skipScalar] at h
  split at h
  · rename_i hb
    obtain ⟨raw, rfl, hraw⟩ := skipText_eq_ok_iff.mp h
    exact ⟨quote raw, by simp [quote, hb], .text hraw⟩
  split at h
  · rename_i hb
    rw [readWord_eq_ok_iff.mp h, hb]
    exact ⟨word "null", rfl, .null⟩
  split at h
  · rename_i hb
    rw [readWord_eq_ok_iff.mp h, hb]
    exact ⟨boolean true, rfl, .boolean true⟩
  split at h
  · rename_i hb
    rw [readWord_eq_ok_iff.mp h, hb]
    exact ⟨boolean false, rfl, .boolean false⟩
  split at h
  · rename_i hb
    obtain ⟨n, rfl, hn⟩ := exists_magnitude_of_skipNumber h
    exact ⟨byteOf '-' :: n, by rw [hb]; rfl, .negative hn⟩
  split at h
  · obtain ⟨n, hn, hmag⟩ := exists_magnitude_of_skipNumber h
    exact ⟨n, hn, .positive hmag⟩
  · cases h

/-- A value without parts is taken off whole, whatever starts no number after it. -/
theorem Scalar.skip {v rest : Bytes} (h : Scalar v) (hrest : Delimits rest) :
    ∃ b tail, v ++ rest = b :: tail ∧ isBlank b = false ∧ b ≠ byteOf '[' ∧ b ≠ byteOf '\x7b' ∧
      skipScalar b tail = .ok rest := by
  cases h with
  | null => exact ⟨byteOf 'n', word "ull" ++ rest, rfl, by decide, by decide, by decide, readWord_word "ull" rest⟩
  | boolean value =>
    cases value
    · exact ⟨byteOf 'f', word "alse" ++ rest, rfl, by decide, by decide, by decide, readWord_word "alse" rest⟩
    · exact ⟨byteOf 't', word "rue" ++ rest, rfl, by decide, by decide, by decide, readWord_word "rue" rest⟩
  | negative hn => exact ⟨byteOf '-', _, rfl, by decide, by decide, by decide, skipNumber_append hn hrest⟩
  | @text raw hraw =>
    refine ⟨byteOf '"', raw ++ byteOf '"' :: rest, by simp [quote], by decide, by decide, by decide, ?_⟩
    exact skipText_eq_ok_iff.mpr ⟨raw, rfl, hraw⟩
  | positive hn =>
    obtain ⟨d, tail, rfl, hd⟩ := hn.head
    have ne {b : UInt8} (hb : isDigit b = false) : d ≠ b := by
      rintro rfl
      rw [hd] at hb
      cases hb
    refine ⟨d, tail ++ rest, rfl, not_isBlank_of_isDigit hd, ne (by decide), ne (by decide), ?_⟩
    rw [skipScalar, if_neg (ne (by decide)), if_neg (ne (by decide)), if_neg (ne (by decide)),
      if_neg (ne (by decide)), if_neg (ne (by decide)), if_pos hd]
    exact skipNumber_append hn hrest

end Json

end Transparency
