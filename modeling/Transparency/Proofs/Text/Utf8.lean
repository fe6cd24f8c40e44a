import Mathlib
import Transparency.Text.Utf8

/-!
# Reading UTF-8 is the inverse of writing it

`decode` answers with a text exactly on the bytes that spell it (`decode_eq_ok_iff`): an overlong form, a surrogate or
a number beyond the last character is refused, and no text is spelt in two ways. Lossy reading agrees as long as no
replacement character turns up, so a text without one is read from its own bytes only (`decodeLossy_eq_iff`).
-/

namespace Transparency

namespace Utf8

/-! ## One character -/

/-- Whether a byte continues a sequence. -/
def IsTail (b : UInt8) : Prop := 0x80 ≤ b.toNat ∧ b.toNat ≤ 0xBF

theorem toNat_ofNat_of_valid {n : Nat} (h : n.isValidChar) : (Char.ofNat n).val.toNat = n := by
  rw [Char.toNat_val, Char.toNat_ofNat, if_pos h]

theorem encodeChar_one {a : UInt8} (ha : a.toNat < 0x80) : String.utf8EncodeChar (Char.ofNat a.toNat) = [a] := by
  have hv : (Char.ofNat a.toNat).val.toNat = a.toNat := toNat_ofNat_of_valid (.inl (by omega))
  rw [String.utf8EncodeChar, hv, if_pos (by omega), UInt8.ofNat_toNat]

theorem encodeChar_two {a b : UInt8} (ha : 0xC2 ≤ a.toNat) (ha' : a.toNat < 0xE0) (hb : IsTail b) :
    String.utf8EncodeChar (Char.ofNat ((a.toNat - 0xC0) * 64 + (b.toNat - 0x80))) = [a, b] := by
  obtain ⟨hb, hb'⟩ := hb
  rw [String.utf8EncodeChar, toNat_ofNat_of_valid (.inl (by omega))]
  generalize hn : (a.toNat - 0xC0) * 64 + (b.toNat - 0x80) = n
  have h₁ : n / 64 % 32 + 192 = a.toNat := by omega
  have h₂ : n % 64 + 128 = b.toNat := by omega
  simp only [if_neg (show ¬n ≤ 127 by omega), if_pos (show n ≤ 2047 by omega), h₁, h₂, UInt8.ofNat_toNat]

theorem encodeChar_three {a b c : UInt8} {n : Nat} (ha : 0xE0 ≤ a.toNat) (ha' : a.toNat < 0xF0) (hb : IsTail b)
    (hc : IsTail c) (hn : ((a.toNat - 0xE0) * 64 + (b.toNat - 0x80)) * 64 + (c.toNat - 0x80) = n) (hn' : 0x800 ≤ n)
    (hv : n.isValidChar) : String.utf8EncodeChar (Char.ofNat n) = [a, b, c] := by
  obtain ⟨hb, hb'⟩ := hb
  obtain ⟨hc, hc'⟩ := hc
  rw [String.utf8EncodeChar, toNat_ofNat_of_valid hv]
  have h₁ : n / 4096 % 16 + 224 = a.toNat := by omega
  have h₂ : n / 64 % 64 + 128 = b.toNat := by omega
  have h₃ : n % 64 + 128 = c.toNat := by omega
  simp only [if_neg (show ¬n ≤ 127 by omega), if_neg (show ¬n ≤ 2047 by omega), if_pos (show n ≤ 65535 by omega),
    h₁, h₂, h₃, UInt8.ofNat_toNat]

theorem encodeChar_four {a b c d : UInt8} {n : Nat} (ha : 0xF0 ≤ a.toNat) (ha' : a.toNat < 0xF5) (hb : IsTail b)
    (hc : IsTail c) (hd : IsTail d)
    (hn : (((a.toNat - 0xF0) * 64 + (b.toNat - 0x80)) * 64 + (c.toNat - 0x80)) * 64 + (d.toNat - 0x80) = n)
    (hn' : 0x10000 ≤ n) (hv : n.isValidChar) : String.utf8EncodeChar (Char.ofNat n) = [a, b, c, d] := by
  obtain ⟨hb, hb'⟩ := hb
  obtain ⟨hc, hc'⟩ := hc
  obtain ⟨hd, hd'⟩ := hd
  rw [String.utf8EncodeChar, toNat_ofNat_of_valid hv]
  have h₁ : n / 262144 % 8 + 240 = a.toNat := by omega
  have h₂ : n / 4096 % 64 + 128 = b.toNat := by omega
  have h₃ : n / 64 % 64 + 128 = c.toNat := by omega
  have h₄ : n % 64 + 128 = d.toNat := by omega
  simp only [if_neg (show ¬n ≤ 127 by omega), if_neg (show ¬n ≤ 2047 by omega), if_neg (show ¬n ≤ 65535 by omega),
    h₁, h₂, h₃, h₄, UInt8.ofNat_toNat]

/-! ## The part of a first byte -/

theorem opening_eq_ascii {b : UInt8} {c : Char} (h : opening b = .ascii c) :
    b.toNat < 0x80 ∧ c = Char.ofNat b.toNat := by
  unfold opening at h
  split at h
  · rename_i hb
    cases h
    exact ⟨UInt8.lt_iff_toNat_lt.mp hb, rfl⟩
  · repeat' split at h
    all_goals cases h

theorem opening_eq_lead {b : UInt8} {p : Pending} (h : opening b = .lead p) :
    (0xC2 ≤ b.toNat ∧ b.toNat < 0xE0 ∧ p = ⟨1, 0, 0x80, 0xBF, b.toNat - 0xC0⟩) ∨
    (0xE0 ≤ b.toNat ∧ b.toNat < 0xF0 ∧
      p = ⟨1, 1, if b = 0xE0 then 0xA0 else 0x80, if b = 0xED then 0x9F else 0xBF, b.toNat - 0xE0⟩) ∨
    (0xF0 ≤ b.toNat ∧ b.toNat < 0xF5 ∧
      p = ⟨1, 2, if b = 0xF0 then 0x90 else 0x80, if b = 0xF4 then 0x8F else 0xBF, b.toNat - 0xF0⟩) := by
  simp only [opening, UInt8.lt_iff_toNat_lt, UInt8.toNat_ofNat] at h
  split at h
  · cases h
  · split at h
    · cases h
    · split at h
      · cases h
        exact .inl ⟨by omega, by omega, rfl⟩
      · split at h
        · cases h
          exact .inr (.inl ⟨by omega, by omega, rfl⟩)
        · split at h
          · cases h
            exact .inr (.inr ⟨by omega, by omega, rfl⟩)
          · cases h

theorem opening_of_lt {b : UInt8} (h : b.toNat < 0x80) : opening b = .ascii (Char.ofNat b.toNat) := by
  rw [opening, if_pos (UInt8.lt_iff_toNat_lt.mpr h)]

theorem opening_two {b : UInt8} (h : 0xC2 ≤ b.toNat) (h' : b.toNat < 0xE0) :
    opening b = .lead ⟨1, 0, 0x80, 0xBF, b.toNat - 0xC0⟩ := by
  simp only [opening, UInt8.lt_iff_toNat_lt, UInt8.toNat_ofNat]
  rw [if_neg (by omega), if_neg (by omega), if_pos (by omega)]

theorem opening_three {b : UInt8} (h : 0xE0 ≤ b.toNat) (h' : b.toNat < 0xF0) :
    opening b = .lead ⟨1, 1, if b = 0xE0 then 0xA0 else 0x80, if b = 0xED then 0x9F else 0xBF, b.toNat - 0xE0⟩ := by
  simp only [opening, UInt8.lt_iff_toNat_lt, UInt8.toNat_ofNat]
  rw [if_neg (by omega), if_neg (by omega), if_neg (by omega), if_pos (by omega)]

theorem opening_four {b : UInt8} (h : 0xF0 ≤ b.toNat) (h' : b.toNat < 0xF5) :
    opening b = .lead ⟨1, 2, if b = 0xF0 then 0x90 else 0x80, if b = 0xF4 then 0x8F else 0xBF, b.toNat - 0xF0⟩ := by
  simp only [opening, UInt8.lt_iff_toNat_lt, UInt8.toNat_ofNat]
  rw [if_neg (by omega), if_neg (by omega), if_neg (by omega), if_neg (by omega), if_pos (by omega)]

theorem fits_tail {taken later value : Nat} {b : UInt8} :
    Pending.fits ⟨taken, later, 0x80, 0xBF, value⟩ b = true ↔ IsTail b := by
  simp [Pending.fits, IsTail, UInt8.le_iff_toNat_le]

/-- The bounds after a lead of three keep out overlong forms and surrogates. -/
theorem fits_three {a b : UInt8} {taken later value : Nat} :
    Pending.fits ⟨taken, later, if a = 0xE0 then 0xA0 else 0x80, if a = 0xED then 0x9F else 0xBF, value⟩ b = true ↔
      IsTail b ∧ (a.toNat = 0xE0 → 0xA0 ≤ b.toNat) ∧ (a.toNat = 0xED → b.toNat ≤ 0x9F) := by
  have h₁ : a = 0xE0 ↔ a.toNat = 0xE0 := UInt8.toNat_inj.symm
  have h₂ : a = 0xED ↔ a.toNat = 0xED := UInt8.toNat_inj.symm
  simp only [Pending.fits, IsTail, Bool.and_eq_true, decide_eq_true_eq, UInt8.le_iff_toNat_le, h₁, h₂]
  split <;> split <;> simp only [UInt8.toNat_ofNat] <;> omega

/-- The bounds after a lead of four keep out overlong forms and what lies beyond the last character. -/
theorem fits_four {a b : UInt8} {taken later value : Nat} :
    Pending.fits ⟨taken, later, if a = 0xF0 then 0x90 else 0x80, if a = 0xF4 then 0x8F else 0xBF, value⟩ b = true ↔
      IsTail b ∧ (a.toNat = 0xF0 → 0x90 ≤ b.toNat) ∧ (a.toNat = 0xF4 → b.toNat ≤ 0x8F) := by
  have h₁ : a = 0xF0 ↔ a.toNat = 0xF0 := UInt8.toNat_inj.symm
  have h₂ : a = 0xF4 ↔ a.toNat = 0xF4 := UInt8.toNat_inj.symm
  simp only [Pending.fits, IsTail, Bool.and_eq_true, decide_eq_true_eq, UInt8.le_iff_toNat_le, h₁, h₂]
  split <;> split <;> simp only [UInt8.toNat_ofNat] <;> omega

/-! ## What is read -/

/-- Where one byte is missing, a fitting one ends the sequence. -/
theorem decodeFrom_last_eq_ok {index taken value : Nat} {lower upper : UInt8} {bytes : Bytes} {cs : List Char}
    (h : decodeFrom index (some ⟨taken, 0, lower, upper, value⟩) bytes = .ok cs) :
    ∃ b bs i ds, bytes = b :: bs ∧ Pending.fits ⟨taken, 0, lower, upper, value⟩ b = true ∧
      decodeFrom i none bs = .ok ds ∧ cs = Char.ofNat (value * 64 + (b.toNat - 0x80)) :: ds := by
  cases bytes with
  | nil => cases h
  | cons b bs =>
    rw [decodeFrom] at h
    split at h
    · rename_i hf
      cases hd : decodeFrom (index + taken + 1) none bs with
      | error e => simp [hd, Except.map] at h
      | ok ds =>
        simp only [hd, Except.map, Except.ok.injEq] at h
        exact ⟨b, bs, _, ds, rfl, hf, hd, h.symm⟩
    · cases h

/-- Where more bytes are missing, a fitting one leaves one less. -/
theorem decodeFrom_more_eq_ok {index taken later value : Nat} {lower upper : UInt8} {bytes : Bytes} {cs : List Char}
    (h : decodeFrom index (some ⟨taken, later + 1, lower, upper, value⟩) bytes = .ok cs) :
    ∃ b bs, bytes = b :: bs ∧ Pending.fits ⟨taken, later + 1, lower, upper, value⟩ b = true ∧
      decodeFrom index (some ⟨taken + 1, later, 0x80, 0xBF, value * 64 + (b.toNat - 0x80)⟩) bs = .ok cs := by
  cases bytes with
  | nil => cases h
  | cons b bs =>
    rw [decodeFrom] at h
    split at h
    · rename_i hf
      exact ⟨b, bs, rfl, hf, h⟩
    · cases h

/-- A whole sequence is the spelling of one character. -/
theorem decodeFrom_lead_eq_ok {index : Nat} {b : UInt8} {p : Pending} {bytes : Bytes} {cs : List Char}
    (ho : opening b = .lead p) (h : decodeFrom index (some p) bytes = .ok cs) :
    ∃ c ds i rest, cs = c :: ds ∧ b :: bytes = String.utf8EncodeChar c ++ rest ∧ decodeFrom i none rest = .ok ds := by
  obtain ⟨hb, hb', rfl⟩ | ⟨hb, hb', rfl⟩ | ⟨hb, hb', rfl⟩ := opening_eq_lead ho
  · obtain ⟨b₂, rest, i, ds, rfl, hf₂, hd, hcs⟩ := decodeFrom_last_eq_ok h
    refine ⟨_, ds, i, rest, hcs, ?_, hd⟩
    rw [encodeChar_two hb hb' (fits_tail.mp hf₂)]
    rfl
  · obtain ⟨b₂, bs₂, rfl, hf₂, h₂⟩ := decodeFrom_more_eq_ok h
    obtain ⟨b₃, rest, i, ds, rfl, hf₃, hd, hcs⟩ := decodeFrom_last_eq_ok h₂
    obtain ⟨ht₂, hlow, hhigh⟩ := fits_three.mp hf₂
    have ht₃ := fits_tail.mp hf₃
    refine ⟨_, ds, i, rest, hcs, ?_, hd⟩
    have hmin : 0x800 ≤ ((b.toNat - 0xE0) * 64 + (b₂.toNat - 0x80)) * 64 + (b₃.toNat - 0x80) := by
      have := ht₂.1
      omega
    rw [encodeChar_three hb hb' ht₂ ht₃ rfl hmin]
    · rfl
    · unfold IsTail at ht₂ ht₃
      unfold Nat.isValidChar
      omega
  · obtain ⟨b₂, bs₂, rfl, hf₂, h₂⟩ := decodeFrom_more_eq_ok h
    obtain ⟨b₃, bs₃, rfl, hf₃, h₃⟩ := decodeFrom_more_eq_ok h₂
    obtain ⟨b₄, rest, i, ds, rfl, hf₄, hd, hcs⟩ := decodeFrom_last_eq_ok h₃
    obtain ⟨ht₂, hlow, hhigh⟩ := fits_four.mp hf₂
    have ht₃ := fits_tail.mp hf₃
    have ht₄ := fits_tail.mp hf₄
    refine ⟨_, ds, i, rest, hcs, ?_, hd⟩
    have hmin : 0x10000 ≤
        (((b.toNat - 0xF0) * 64 + (b₂.toNat - 0x80)) * 64 + (b₃.toNat - 0x80)) * 64 + (b₄.toNat - 0x80) := by
      have := ht₂.1
      omega
    rw [encodeChar_four hb hb' ht₂ ht₃ ht₄ rfl hmin]
    · rfl
    · unfold IsTail at ht₂ ht₃ ht₄
      unfold Nat.isValidChar
      omega

/-- Bytes that are read to their end are the spellings of what was read, one after the other. -/
theorem eq_flatMap_of_decodeFrom {index : Nat} {bytes : Bytes} {cs : List Char}
    (h : decodeFrom index none bytes = .ok cs) : bytes = cs.flatMap String.utf8EncodeChar := by
  induction hn : bytes.length using Nat.strong_induction_on generalizing index bytes cs with
  | _ n ih =>
    cases bytes with
    | nil =>
      cases h
      rfl
    | cons b bs =>
      rw [decodeFrom] at h
      split at h
      · rename_i c ho
        obtain ⟨hb, rfl⟩ := opening_eq_ascii ho
        cases hd : decodeFrom (index + 1) none bs with
        | error e => simp [hd, Except.map] at h
        | ok ds =>
          simp only [hd, Except.map, Except.ok.injEq] at h
          subst h
          rw [List.flatMap_cons, encodeChar_one hb, ← ih bs.length (by simp [← hn]) hd rfl]
          rfl
      · rename_i p ho
        obtain ⟨c, ds, i, rest, rfl, hb, hd⟩ := decodeFrom_lead_eq_ok ho h
        have hlt : rest.length < n := by
          have := congrArg List.length hb
          have := List.length_pos_iff.mpr (String.utf8EncodeChar_ne_nil (c := c))
          simp only [List.length_append] at *
          omega
        rw [List.flatMap_cons, hb, ← ih rest.length hlt hd rfl]
      · cases h

/-! ## What is written -/

theorem decodeFrom_last {index taken value : Nat} {lower upper b : UInt8} {rest : Bytes} {cs : List Char}
    (hf : Pending.fits ⟨taken, 0, lower, upper, value⟩ b = true) (h : ∀ i, decodeFrom i none rest = .ok cs) :
    decodeFrom index (some ⟨taken, 0, lower, upper, value⟩) (b :: rest) =
      .ok (Char.ofNat (value * 64 + (b.toNat - 0x80)) :: cs) := by
  rw [decodeFrom, if_pos hf, h]
  rfl

theorem decodeFrom_more {index taken later value : Nat} {lower upper b : UInt8} {rest : Bytes}
    (hf : Pending.fits ⟨taken, later + 1, lower, upper, value⟩ b = true) :
    decodeFrom index (some ⟨taken, later + 1, lower, upper, value⟩) (b :: rest) =
      decodeFrom index (some ⟨taken + 1, later, 0x80, 0xBF, value * 64 + (b.toNat - 0x80)⟩) rest := by
  rw [decodeFrom, if_pos hf]
  rfl

theorem decodeFrom_lead {index : Nat} {a : UInt8} {p : Pending} {rest : Bytes} (h : opening a = .lead p) :
    decodeFrom index none (a :: rest) = decodeFrom index (some p) rest := by
  rw [decodeFrom, h]

/-- The bytes after the lead are made by adding the mark of a tail to six bits. -/
theorem toNat_tail (n : Nat) : (UInt8.ofNat (n % 64 + 128)).toNat = n % 64 + 128 := by
  have small : n % 64 + 128 < 256 := by omega
  exact UInt8.toNat_ofNat_of_lt' small

theorem isTail_tail (n : Nat) : IsTail (UInt8.ofNat (n % 64 + 128)) := by
  have := toNat_tail n
  unfold IsTail
  omega

theorem toNat_tail_sub (n : Nat) : (UInt8.ofNat (n % 64 + 128)).toNat - 0x80 = n % 64 := by
  have := toNat_tail n
  omega

/-- The spelling of a character is read back as that character. -/
theorem decodeFrom_encodeChar {index : Nat} {c : Char} {rest : Bytes} {cs : List Char}
    (h : ∀ i, decodeFrom i none rest = .ok cs) :
    decodeFrom index none (String.utf8EncodeChar c ++ rest) = .ok (c :: cs) := by
  have hc : Char.ofNat c.val.toNat = c := Char.ofNat_toNat c
  have hv : c.val.toNat.isValidChar := c.valid
  unfold Nat.isValidChar at hv
  rw [String.utf8EncodeChar]
  generalize c.val.toNat = v at hc hv
  have toNat (n : Nat) (hn : n < 256) : (UInt8.ofNat n).toNat = n := UInt8.toNat_ofNat_of_lt' hn
  split
  · have ha := toNat v (by omega)
    rw [List.singleton_append, decodeFrom, opening_of_lt (by omega), ha, hc]
    simp only [h, Except.map]
  · split
    · have ha := toNat (v / 64 % 32 + 192) (by omega)
      have hv' : (v / 64 % 32 + 192 - 0xC0) * 64 + v % 64 = v := by omega
      simp only [List.cons_append, List.nil_append]
      rw [decodeFrom_lead (opening_two (by omega) (by omega)), decodeFrom_last (fits_tail.mpr (isTail_tail v)) h,
        toNat_tail_sub, ha, hv', hc]
    · split
      · have ha := toNat (v / 4096 % 16 + 224) (by omega)
        have hb := toNat_tail (v / 64)
        have hv' : ((v / 4096 % 16 + 224 - 0xE0) * 64 + v / 64 % 64) * 64 + v % 64 = v := by omega
        simp only [List.cons_append, List.nil_append]
        rw [decodeFrom_lead (opening_three (by omega) (by omega)),
          decodeFrom_more (fits_three.mpr ⟨isTail_tail _, by omega, by omega⟩),
          decodeFrom_last (fits_tail.mpr (isTail_tail v)) h, toNat_tail_sub, toNat_tail_sub, ha, hv', hc]
      · have ha := toNat (v / 262144 % 8 + 240) (by omega)
        have hb := toNat_tail (v / 4096)
        have hv' : (((v / 262144 % 8 + 240 - 0xF0) * 64 + v / 4096 % 64) * 64 + v / 64 % 64) * 64 + v % 64 = v := by
          omega
        simp only [List.cons_append, List.nil_append]
        rw [decodeFrom_lead (opening_four (by omega) (by omega)),
          decodeFrom_more (fits_four.mpr ⟨isTail_tail _, by omega, by omega⟩),
          decodeFrom_more (fits_tail.mpr (isTail_tail _)), decodeFrom_last (fits_tail.mpr (isTail_tail v)) h,
          toNat_tail_sub, toNat_tail_sub, toNat_tail_sub, ha, hv', hc]

theorem decodeFrom_flatMap (index : Nat) (cs : List Char) :
    decodeFrom index none (cs.flatMap String.utf8EncodeChar) = .ok cs := by
  induction cs generalizing index with
  | nil => rfl
  | cons c cs ih =>
    rw [List.flatMap_cons]
    exact decodeFrom_encodeChar ih

/-- **Reading succeeds exactly on what writing gives.** -/
theorem decode_eq_ok_iff {bytes : Bytes} {text : String} : decode bytes = .ok text ↔ bytes = encode text := by
  constructor
  · intro h
    rw [decode] at h
    cases hd : decodeFrom 0 none bytes with
    | error e => simp [hd, Except.map] at h
    | ok cs =>
      simp only [hd, Except.map, Except.ok.injEq] at h
      rw [encode, ← h, String.toList_ofList]
      exact eq_flatMap_of_decodeFrom hd
  · rintro rfl
    rw [decode, encode, decodeFrom_flatMap, Except.map, String.ofList_toList]

/-! ## Lossy reading -/

/-- Where no replacement character turns up, nothing was lost. -/
theorem decodeFrom_of_decodeLossyFrom {index : Nat} {p : Option Pending} {bytes : Bytes}
    (h : replacement ∉ decodeLossyFrom p bytes) : decodeFrom index p bytes = .ok (decodeLossyFrom p bytes) := by
  induction bytes generalizing index p with
  | nil =>
    cases p with
    | none => rfl
    | some p => simp [decodeLossyFrom] at h
  | cons b bs ih =>
    cases p with
    | none =>
      rw [decodeLossyFrom] at h ⊢
      rw [decodeFrom]
      cases ho : opening b with
      | ascii c =>
        simp only [ho, List.mem_cons, not_or] at h
        simp only [ih h.2, Except.map]
      | lead q =>
        simp only [ho] at h
        exact ih h
      | stray => simp [ho] at h
    | some p =>
      rw [decodeLossyFrom] at h ⊢
      rw [decodeFrom]
      split at h
      · rename_i hf
        rw [if_pos hf, if_pos hf]
        split at h
        · simp only [List.mem_cons, not_or] at h
          simp only [ih h.2, Except.map]
        · exact ih h
      · exact absurd List.mem_cons_self h

/-- A text without replacement characters is read from the bytes that spell it and from no others. -/
theorem decodeLossy_eq_iff {bytes : Bytes} {text : String} (h : replacement ∉ text.toList) :
    decodeLossy bytes = text ↔ bytes = encode text := by
  constructor
  · rintro rfl
    rw [decodeLossy, String.toList_ofList] at h
    rw [← decode_eq_ok_iff, decode, decodeFrom_of_decodeLossyFrom h]
    rfl
  · rintro rfl
    rw [decodeLossy, encode, decodeLossyFrom_of_decodeFrom (decodeFrom_flatMap 0 _), String.ofList_toList]

end Utf8

end Transparency
