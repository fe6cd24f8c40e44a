import Mathlib
import Transparency.Proofs.Json.Token

/-!
# Skipping takes off one value

`skipValue` succeeds exactly where the grammar derives a value, and takes off that value. The reader works on a list of
open frames and the grammar on nested rules, so both directions go through what is still missing: what a frame demands
up to its end (`Demands`), and what all open frames demand one after the other (`Closes`).
-/

namespace Transparency

namespace Json

/-! ## One step of skipping -/

theorem skipKey_eq_ok_iff {bytes rest : Bytes} :
    skipKey bytes = .ok rest ↔ ∃ w raw w', Blank w ∧ Content raw ∧ Blank w' ∧
      bytes = w ++ (quote raw ++ (w' ++ byteOf ':' :: rest)) := by
  constructor
  · intro h
    rw [skipKey] at h
    split at h
    · cases h
    · rename_i b tail hb
      split at h
      · rename_i hq
        split at h
        · cases h
        · rename_i tail' ht
          split at h
          · cases h
          · rename_i c rest' hc
            split at h
            · rename_i hcolon
              cases h
              obtain ⟨-, w, hw, rfl⟩ := skipBlanks_eq_cons_iff.mp hb
              obtain ⟨raw, rfl, hraw⟩ := skipText_eq_ok_iff.mp ht
              obtain ⟨-, w', hw', rfl⟩ := skipBlanks_eq_cons_iff.mp hc
              exact ⟨w, raw, w', hw, hraw, hw', by simp [quote, hq, hcolon]⟩
            · cases h
      · cases h
  · rintro ⟨w, raw, w', hw, hraw, hw', rfl⟩
    have ht : skipText (raw ++ byteOf '"' :: (w' ++ byteOf ':' :: rest)) = .ok (w' ++ byteOf ':' :: rest) :=
      skipText_eq_ok_iff.mpr ⟨raw, rfl, hraw⟩
    have hc : skipBlanks (w' ++ byteOf ':' :: rest) = byteOf ':' :: rest := by
      rw [skipBlanks_append hw', skipBlanks_cons (by decide)]
    simp only [skipKey, skipBlanks_append hw, quote, List.cons_append, List.append_assoc, List.nil_append,
      skipBlanks_cons (show isBlank (byteOf '"') = false by decide), if_true, ht, hc]

theorem skipItemKey_list (frames : List Frame) (bytes : Bytes) : skipItemKey (.list :: frames) bytes = .ok bytes := rfl

theorem skipItemKey_object (frames : List Frame) (bytes : Bytes) :
    skipItemKey (.object :: frames) bytes = skipKey bytes := rfl

/-- How skipping goes on from the first byte of a value. -/
def skipFrom (frames : List Frame) : Bytes → Except Stop Bytes
  | [] => stopAt .endInValue []
  | b :: rest =>
    if b = byteOf '[' then skip (.list :: frames) .first rest
    else if b = byteOf '\x7b' then skip (.object :: frames) .first rest
    else
      match skipScalar b rest with
      | .error stop => .error stop
      | .ok rest => skip frames .next rest

theorem skip_item {frames : List Frame} {bytes bytes₁ : Bytes} (h : skipItemKey frames bytes = .ok bytes₁) :
    skip frames .item bytes = skipFrom frames (skipBlanks bytes₁) := by
  rw [skip]
  split
  · rename_i hk
    cases h.symm.trans hk
  · rename_i hk
    cases h.symm.trans hk
    split
    · rename_i hb
      rw [hb, skipFrom]
    · rename_i hb
      rw [hb, skipFrom]
      split
      · rfl
      · split
        · rfl
        · split <;> rename_i hs <;> rw [hs]

theorem skip_item_error {frames : List Frame} {bytes : Bytes} {stop : Stop}
    (h : skipItemKey frames bytes = .error stop) : skip frames .item bytes = .error stop := by
  rw [skip]
  split
  · rename_i hk
    cases h.symm.trans hk
    rfl
  · rename_i hk
    cases h.symm.trans hk

theorem skip_first (frame : Frame) (frames : List Frame) (bytes : Bytes) :
    skip (frame :: frames) .first bytes =
      match skipBlanks bytes with
      | [] => stopAt frame.endCause []
      | b :: rest => if b = frame.close then skip frames .next rest else skip (frame :: frames) .item (b :: rest) := by
  rw [skip]
  split <;> rename_i hb <;> rw [hb]

theorem skip_next (frame : Frame) (frames : List Frame) (bytes : Bytes) :
    skip (frame :: frames) .next bytes =
      match skipBlanks bytes with
      | [] => stopAt frame.endCause []
      | b :: rest =>
        if b = byteOf ',' then skip (frame :: frames) .item rest
        else if b = frame.close then skip frames .next rest
        else stopAt frame.nextCause rest := by
  rw [skip]
  split <;> rename_i hb <;> rw [hb]

/-- White space before an item makes no difference. -/
theorem skip_item_skipBlanks (frame : Frame) (frames : List Frame) (bytes : Bytes) :
    skip (frame :: frames) .item (skipBlanks bytes) = skip (frame :: frames) .item bytes := by
  cases frame with
  | list =>
    rw [skip_item (skipItemKey_list frames (skipBlanks bytes)), skip_item (skipItemKey_list frames bytes),
      skipBlanks_skipBlanks]
  | object =>
    have hkey : skipItemKey (.object :: frames) (skipBlanks bytes) = skipItemKey (.object :: frames) bytes := by
      rw [skipItemKey_object, skipItemKey_object, skipKey, skipKey, skipBlanks_skipBlanks]
    cases hk : skipItemKey (.object :: frames) bytes with
    | error stop => rw [skip_item_error hk, skip_item_error (hkey.trans hk)]
    | ok bytes₁ => rw [skip_item hk, skip_item (hkey.trans hk)]

/-! ## Whatever the grammar derives is skipped -/

/-- What skipping does with something derived, in whatever frames it stands. -/
def Symbol.Skips : Symbol → Bytes → Prop
  | .value, v => ∀ frames w bytes rest, Blank w → skipItemKey frames bytes = .ok (w ++ (v ++ rest)) → Delimits rest →
      skip frames .item bytes = skip frames .next rest
  | .element, e => ∀ frame frames bytes rest, skipItemKey (frame :: frames) bytes = .ok (e ++ rest) → Delimits rest →
      skip (frame :: frames) .item bytes = skip (frame :: frames) .next rest
  | .item frame, i => ∀ frames rest, Delimits rest →
      skip (frame :: frames) .item (i ++ rest) = skip (frame :: frames) .next rest
  | .items frame, is => ∀ frames rest,
      skip (frame :: frames) .item (is ++ frame.close :: rest) = skip frames .next rest

theorem skipFrom_start (frame : Frame) (frames : List Frame) (rest : Bytes) :
    skipFrom frames (frame.start :: rest) = skip (frame :: frames) .first rest := by
  cases frame <;> simp [skipFrom, Frame.start, byteOf]

theorem Frame.isBlank_start (frame : Frame) : isBlank frame.start = false := by cases frame <;> decide

theorem Frame.isBlank_close (frame : Frame) : isBlank frame.close = false := by cases frame <;> decide

theorem Frame.close_ne_comma (frame : Frame) : frame.close ≠ byteOf ',' := by cases frame <;> decide

/-- Neither a bracket nor a comma goes on with a number. -/
theorem Frame.delimits_close (frame : Frame) (rest : Bytes) : Delimits (frame.close :: rest) := by
  intro b hb
  cases hb
  cases frame <;> decide

theorem delimits_comma (rest : Bytes) : Delimits (byteOf ',' :: rest) := by
  intro b hb
  cases hb
  decide

theorem delimits_append {w rest : Bytes} (hw : Blank w) (hrest : Delimits rest) : Delimits (w ++ rest) := by
  cases w with
  | nil => exact hrest
  | cons c w =>
    intro b hb
    cases hb
    have hc := hw c List.mem_cons_self
    simp only [isBlank, Bool.or_eq_true, decide_eq_true_eq] at hc
    obtain ((rfl | rfl) | rfl) | rfl := hc <;> decide

/-- What stands first in something derived, after white space, ends no frame. -/
theorem Derives.exists_head {symbol : Symbol} {bytes : Bytes} (h : Derives symbol bytes) (rest : Bytes) :
    ∃ b tail, skipBlanks (bytes ++ rest) = b :: tail ∧ ∀ frame : Frame, b ≠ frame.close := by
  have value {v rest : Bytes} (h : Derives .value v) :
      ∃ b tail, skipBlanks (v ++ rest) = b :: tail ∧ ∀ frame : Frame, b ≠ frame.close := by
    obtain ⟨b, tail, rfl, hb, hc⟩ := h.head
    exact ⟨b, tail ++ rest, skipBlanks_cons hb _, hc⟩
  induction h generalizing rest with
  | scalar hv => exact value (.scalar hv)
  | empty hw => exact value (.empty hw)
  | nested hi _ => exact value (.nested hi)
  | element hw _ _ ih =>
    rw [List.append_assoc, skipBlanks_append hw, List.append_assoc]
    exact ih _
  | plain _ ih => exact ih rest
  | @keyed w raw w' e hw _ _ _ _ =>
    have hquote (frame : Frame) : byteOf '"' ≠ frame.close := by cases frame <;> decide
    rw [List.append_assoc, skipBlanks_append hw, quote, List.append_assoc, List.cons_append,
      skipBlanks_cons (by decide)]
    exact ⟨_, _, rfl, hquote⟩
  | one _ ih => exact ih rest
  | more _ _ ih _ =>
    rw [List.append_assoc]
    exact ih _

/-- Whatever is derived is skipped. -/
theorem Derives.skips {symbol : Symbol} {bytes : Bytes} (h : Derives symbol bytes) : symbol.Skips bytes := by
  induction h with
  | scalar hv =>
    intro frames w bytes rest hw hk hrest
    obtain ⟨b, tail, hb, hblank, hlist, hobject, hs⟩ := hv.skip hrest
    rw [skip_item hk, skipBlanks_append hw, hb, skipBlanks_cons hblank]
    simp only [skipFrom, if_neg hlist, if_neg hobject, hs]
  | @empty frame w' hw' =>
    intro frames w bytes rest hw hk _
    rw [skip_item hk, skipBlanks_append hw, List.cons_append, skipBlanks_cons frame.isBlank_start, skipFrom_start,
      skip_first, List.append_assoc, skipBlanks_append hw', List.singleton_append, skipBlanks_cons frame.isBlank_close]
    exact if_pos rfl
  | @nested frame inner hi ih =>
    intro frames w bytes rest hw hk _
    rw [skip_item hk, skipBlanks_append hw, List.cons_append, skipBlanks_cons frame.isBlank_start, skipFrom_start,
      skip_first, List.append_assoc, List.singleton_append]
    obtain ⟨b, tail, hb, hc⟩ := hi.exists_head (frame.close :: rest)
    rw [hb]
    simp only [if_neg (hc frame)]
    rw [← hb, skip_item_skipBlanks]
    exact ih frames rest
  | @element w v w' hw _ hw' ih =>
    intro frame frames bytes rest hk hrest
    have hk' : skipItemKey (frame :: frames) bytes = .ok (w ++ (v ++ (w' ++ rest))) := by
      rw [hk]
      simp only [List.append_assoc]
    rw [ih _ w bytes (w' ++ rest) hw hk' (delimits_append hw' hrest), skip_next, skip_next, skipBlanks_append hw']
  | plain _ ih =>
    intro frames rest hrest
    exact ih _ frames _ rest (skipItemKey_list frames _) hrest
  | @keyed w raw w' e hw hraw hw' _ ih =>
    intro frames rest hrest
    refine ih _ frames _ rest ?_ hrest
    rw [skipItemKey_object]
    exact skipKey_eq_ok_iff.mpr ⟨w, raw, w', hw, hraw, hw', by simp only [List.append_assoc, List.cons_append]⟩
  | @one frame i _ ih =>
    intro frames rest
    rw [ih frames (frame.close :: rest) (frame.delimits_close rest), skip_next, skipBlanks_cons frame.isBlank_close]
    simp only [if_neg frame.close_ne_comma, if_true]
  | @more frame i is _ _ ih₁ ih₂ =>
    intro frames rest
    rw [List.append_assoc, List.cons_append, ih₁ frames _ (delimits_comma _), skip_next,
      skipBlanks_cons (by decide)]
    simp only [if_true]
    exact ih₂ frames rest

/-! ## Whatever is skipped is derived -/

/-- What may stand in a frame up to its closing bracket. -/
def Demands (frame : Frame) : Expect → Bytes → Prop
  | .item, bytes => Derives (.items frame) bytes
  | .first, bytes => Blank bytes ∨ Derives (.items frame) bytes
  | .next, bytes => Blank bytes ∨ ∃ w is, Blank w ∧ Derives (.items frame) is ∧ bytes = w ++ byteOf ',' :: is

/-- Whether bytes close all open frames, each with what it demands, and leave a rest. Where none is open, one value is
demanded, or nothing any more. -/
def Closes : List Frame → Expect → Bytes → Bytes → Prop
  | [], .item, bytes, rest => ∃ w v, Blank w ∧ Derives .value v ∧ bytes = w ++ (v ++ rest)
  | [], _, bytes, rest => bytes = rest
  | frame :: frames, expect, bytes, rest =>
    ∃ inner tail, Demands frame expect inner ∧ bytes = inner ++ frame.close :: tail ∧ Closes frames .next tail rest

/-- A value that follows the key of its frame, if it needs one, is an item. -/
theorem exists_item {frame : Frame} {frames : List Frame} {bytes e rest : Bytes}
    (hk : skipItemKey (frame :: frames) bytes = .ok (e ++ rest)) (he : Derives .element e) :
    ∃ i, bytes = i ++ rest ∧ Derives (.item frame) i := by
  cases frame with
  | list =>
    cases hk
    exact ⟨e, rfl, .plain he⟩
  | object =>
    rw [skipItemKey_object] at hk
    obtain ⟨w, raw, w', hw, hraw, hw', rfl⟩ := skipKey_eq_ok_iff.mp hk
    exact ⟨_, by simp only [List.append_assoc, List.cons_append], .keyed hw hraw hw' he⟩

/-- A value in a frame, and what closes the frames after it. -/
theorem Closes.value {frames : List Frame} {bytes w v tail rest : Bytes} (hw : Blank w) (hv : Derives .value v)
    (hk : skipItemKey frames bytes = .ok (w ++ (v ++ tail))) (h : Closes frames .next tail rest) :
    Closes frames .item bytes rest := by
  cases frames with
  | nil =>
    cases hk
    cases h
    exact ⟨w, v, hw, hv, rfl⟩
  | cons frame frames =>
    obtain ⟨inner, tail', hinner, rfl, h⟩ := h
    obtain hblank | ⟨w', is, hw', his, rfl⟩ := hinner
    · have hk' : skipItemKey (frame :: frames) bytes = .ok ((w ++ (v ++ inner)) ++ frame.close :: tail') := by
        simpa only [List.append_assoc] using hk
      obtain ⟨i, rfl, hi⟩ := exists_item hk' (.element hw hv hblank)
      exact ⟨i, tail', .one hi, rfl, h⟩
    · have hk' : skipItemKey (frame :: frames) bytes =
          .ok ((w ++ (v ++ w')) ++ byteOf ',' :: (is ++ frame.close :: tail')) := by
        simpa only [List.append_assoc, List.cons_append] using hk
      obtain ⟨i, rfl, hi⟩ := exists_item hk' (.element hw hv hw')
      exact ⟨i ++ byteOf ',' :: is, tail', .more hi his, by simp only [List.append_assoc, List.cons_append], h⟩

/-- A frame that closes is a value. -/
theorem Closes.frame {frame : Frame} {frames : List Frame} {bytes rest : Bytes}
    (h : Closes (frame :: frames) .first bytes rest) :
    ∃ v tail, Derives .value v ∧ frame.start :: bytes = v ++ tail ∧ Closes frames .next tail rest := by
  obtain ⟨inner, tail, hblank | hitems, rfl, h⟩ := h
  · exact ⟨frame.start :: (inner ++ [frame.close]), tail, .empty hblank, by simp, h⟩
  · exact ⟨frame.start :: (inner ++ [frame.close]), tail, .nested hitems, by simp, h⟩

/-- A frame that opens where a value is demanded, and closes. -/
theorem Closes.nested {frame : Frame} {frames : List Frame} {bytes w tail rest : Bytes} (hw : Blank w)
    (h : Closes (frame :: frames) .first tail rest) (hk : skipItemKey frames bytes = .ok (w ++ frame.start :: tail)) :
    Closes frames .item bytes rest := by
  obtain ⟨v, tail', hv, hvt, hnext⟩ := h.frame
  rw [hvt] at hk
  exact .value hw hv hk hnext

/-- White space may come before anything but a value. -/
theorem Derives.blank_append {symbol : Symbol} {bytes w : Bytes} (hw : Blank w) (h : Derives symbol bytes)
    (hs : symbol ≠ .value) : Derives symbol (w ++ bytes) := by
  induction h with
  | scalar _ => exact absurd rfl hs
  | empty _ => exact absurd rfl hs
  | nested _ _ => exact absurd rfl hs
  | element hw₁ hv hw₂ _ =>
    rw [← List.append_assoc]
    exact .element (Json.blank_append.mpr ⟨hw, hw₁⟩) hv hw₂
  | plain _ ih => exact .plain (ih (by simp))
  | keyed hw₁ hraw hw₂ he _ =>
    rw [← List.append_assoc]
    exact .keyed (Json.blank_append.mpr ⟨hw, hw₁⟩) hraw hw₂ he
  | one _ ih => exact .one (ih (by simp))
  | more _ his ih _ =>
    rw [← List.append_assoc]
    exact .more (ih (by simp)) his

/-- What is skipped closes the open frames. -/
theorem closes_of_skip {frames : List Frame} {expect : Expect} {bytes rest : Bytes}
    (h : skip frames expect bytes = .ok rest) : Closes frames expect bytes rest := by
  -- each way that the loop goes on takes something off and leaves less to be demanded; the others are faults
  fun_induction skip frames expect bytes with
  | case1 | case2 | case5 | case7 | case10 | case13 => cases h
  | case3 bytes frames bytes₁ hk tail hb ih =>
    obtain ⟨-, w, hw, rfl⟩ := skipBlanks_eq_cons_iff.mp hb
    exact .nested hw (ih h) hk
  | case4 bytes frames bytes₁ hk tail hb _ ih =>
    obtain ⟨-, w, hw, rfl⟩ := skipBlanks_eq_cons_iff.mp hb
    exact .nested hw (ih h) hk
  | case6 bytes frames bytes₁ hk b tail hb _ _ tail' hs ih =>
    obtain ⟨-, w, hw, rfl⟩ := skipBlanks_eq_cons_iff.mp hb
    obtain ⟨v, hv, hscalar⟩ := exists_of_skipScalar hs
    rw [hv] at hk
    exact .value hw (.scalar hscalar) hk (ih h)
  | case8 bytes frame frames tail hb ih =>
    obtain ⟨-, w, hw, rfl⟩ := skipBlanks_eq_cons_iff.mp hb
    exact ⟨w, tail, .inl hw, rfl, ih h⟩
  | case9 bytes frame frames b tail hb _ ih =>
    obtain ⟨-, w, hw, rfl⟩ := skipBlanks_eq_cons_iff.mp hb
    obtain ⟨inner, tail', hinner, hbytes, hnext⟩ := ih h
    exact ⟨w ++ inner, tail', .inr (hinner.blank_append hw (by simp)), by rw [hbytes, List.append_assoc], hnext⟩
  | case11 bytes frame frames tail hb ih =>
    obtain ⟨-, w, hw, rfl⟩ := skipBlanks_eq_cons_iff.mp hb
    obtain ⟨inner, tail', hinner, rfl, hnext⟩ := ih h
    exact ⟨w ++ byteOf ',' :: inner, tail', .inr ⟨w, inner, hw, hinner, rfl⟩, by simp, hnext⟩
  | case12 bytes frame frames tail hb _ ih =>
    obtain ⟨-, w, hw, rfl⟩ := skipBlanks_eq_cons_iff.mp hb
    exact ⟨w, tail, .inl hw, rfl, ih h⟩
  | case14 expect bytes hexpect =>
    cases h
    cases expect with
    | item => exact absurd rfl hexpect
    | first => rfl
    | next => rfl

/-! ## One value -/

/-- What is skipped as a value is white space and a value. -/
theorem exists_value_of_skipValue {bytes rest : Bytes} (h : skipValue bytes = .ok rest) :
    ∃ w v, Blank w ∧ Derives .value v ∧ bytes = w ++ (v ++ rest) :=
  closes_of_skip h

/-- A value is skipped as a whole. -/
theorem skipValue_append {w v rest : Bytes} (hw : Blank w) (hv : Derives .value v) (hrest : Delimits rest) :
    skipValue (w ++ (v ++ rest)) = .ok rest := by
  have := hv.skips [] w (w ++ (v ++ rest)) rest hw rfl hrest
  rw [skipValue, this, skip]
  simp

end Json

end Transparency
