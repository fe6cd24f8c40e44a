import Mathlib
import Transparency.Preferences.Document
import Transparency.Proofs.Json.Object
import Transparency.Proofs.Text.Utf8

/-!
# The format of preference documents

A document is an object in which the key of the flag stands at most once, with a truth value; other keys have any
values. Besides, a list is accepted that holds at most one value, if that is a truth value. Nothing else is
(`Preferences.read_eq_ok_iff`).

Reading goes over the members with the flag found so far. What carries the proof is an account: the flag found so far,
followed by the flags of the members to come, is what the flag is in the end (`flags`).
-/

namespace Transparency

namespace Preferences

open Json

/-! ## What a document says -/

/-- The key of the flag in bytes. -/
def keyBytes : Bytes := Utf8.encode flagKey

/-- The values that stand at the key of the flag. -/
def flags (members : List Member) : List Bytes :=
  (members.filter fun member => member.key = keyBytes).map Member.value

/-- What the values found for the flag say: without one the flag is off, and no two are allowed. -/
inductive Says : List Bytes → Bool → Prop where
  | nothing : Says [] false
  | once (value : Bool) : Says [boolean value] value

/-- The values that stand for a flag known so far. -/
def known (flag : Option Bool) : List Bytes := flag.toList.map boolean

theorem boolean_inj {a b : Bool} (h : boolean a = boolean b) : a = b := by
  cases a <;> cases b
  all_goals first | rfl | exact absurd h (by decide)

/-- A flag that is found by the account is what the document says. -/
theorem says_known_iff {flag : Option Bool} {value : Bool} : Says (known flag) value ↔ value = flag.getD false := by
  cases flag with
  | none =>
    constructor
    · intro h
      cases h
      rfl
    · rintro rfl
      exact .nothing
  | some b =>
    constructor
    · intro h
      generalize hk : known (some b) = values at h
      cases h with
      | nothing => cases hk
      | once => exact (boolean_inj (List.cons.inj hk).1).symm
    · rintro rfl
      exact .once _

theorem Says.exists_known {values : List Bytes} {value : Bool} (h : Says values value) :
    ∃ flag, values = known flag ∧ value = flag.getD false := by
  cases h with
  | nothing => exact ⟨none, rfl, rfl⟩
  | once => exact ⟨some value, rfl, rfl⟩

theorem known_inj {a b : Option Bool} (h : known a = known b) : a = b := by
  cases a <;> cases b
  · rfl
  · cases h
  · cases h
  · rw [boolean_inj (List.cons.inj h).1]

/-- The account has room for one flag. -/
theorem known_append_singleton {flag flag' : Option Bool} {v : Bytes} (h : known flag ++ [v] = known flag') :
    flag = none ∧ ∃ value, v = boolean value ∧ flag' = some value := by
  cases flag <;> cases flag'
  · cases h
  · exact ⟨rfl, _, (List.cons.inj h).1, rfl⟩
  · cases h
  · cases (List.cons.inj h).2

/-- What comes first in a true account is a true account. -/
theorem exists_known_of_append {values values' : List Bytes} {flag : Option Bool}
    (h : values ++ values' = known flag) : ∃ flag', values = known flag' := by
  cases values with
  | nil => exact ⟨none, rfl⟩
  | cons v values =>
    cases flag with
    | none => cases h
    | some b =>
      obtain ⟨rfl, htail⟩ := List.cons.inj h
      exact ⟨some b, by rw [(List.append_eq_nil_iff.mp htail).1]; rfl⟩

@[simp] theorem flags_nil : flags [] = [] := rfl

theorem flags_cons (member : Member) (members : List Member) :
    flags (member :: members) = flags [member] ++ flags members := by
  simp only [flags, ← List.map_append, ← List.filter_append, List.singleton_append]

theorem flags_singleton (member : Member) :
    flags [member] = if member.key = keyBytes then [member.value] else [] := by
  by_cases h : member.key = keyBytes <;> simp [flags, h]

/-! ## Reading a flag -/

theorem decodeLossy_eq_flagKey_iff {key : Bytes} : Utf8.decodeLossy key = flagKey ↔ key = keyBytes :=
  Utf8.decodeLossy_eq_iff (by decide)

theorem readColon_append {w : Bytes} (hw : Blank w) (rest : Bytes) :
    readColon (w ++ byteOf ':' :: rest) = .ok rest := by
  rw [readColon, skipBlanks_append hw, skipBlanks_cons (by decide)]
  rfl

theorem readColon_eq_ok_iff {bytes rest : Bytes} :
    readColon bytes = .ok rest ↔ ∃ w, Blank w ∧ bytes = w ++ byteOf ':' :: rest := by
  constructor
  · intro h
    rw [readColon] at h
    split at h
    · cases h
    · rename_i hb
      split at h
      · rename_i hcolon
        cases h
        rw [hcolon] at hb
        exact (skipBlanks_eq_cons_iff.mp hb).2
      · cases h
  · rintro ⟨w, hw, rfl⟩
    exact readColon_append hw rest

theorem readFlag_append {w : Bytes} (hw : Blank w) (value : Bool) (rest : Bytes) :
    readFlag (w ++ (boolean value ++ rest)) = .ok (value, rest) := by
  cases value with
  | false =>
    have hb : skipBlanks (w ++ (boolean false ++ rest)) = byteOf 'f' :: (word "alse" ++ rest) := by
      rw [skipBlanks_append hw]
      exact skipBlanks_cons (by decide) _
    simp only [readFlag, hb, if_neg (show byteOf 'f' ≠ byteOf 't' by decide), if_true, readWord_word, Except.map]
  | true =>
    have hb : skipBlanks (w ++ (boolean true ++ rest)) = byteOf 't' :: (word "rue" ++ rest) := by
      rw [skipBlanks_append hw]
      exact skipBlanks_cons (by decide) _
    simp only [readFlag, hb, if_true, readWord_word, Except.map]

theorem readFlag_eq_ok_iff {bytes rest : Bytes} {value : Bool} :
    readFlag bytes = .ok (value, rest) ↔ ∃ w, Blank w ∧ bytes = w ++ (boolean value ++ rest) := by
  constructor
  · intro h
    rw [readFlag] at h
    split at h
    · cases h
    · rename_i hb
      split at h
      · rename_i ht
        obtain ⟨rest', hword, hv⟩ := map_eq_ok_iff.mp h
        cases hv
        rw [ht, readWord_eq_ok_iff.mp hword] at hb
        exact (skipBlanks_eq_cons_iff.mp hb).2
      · split at h
        · rename_i hf
          obtain ⟨rest', hword, hv⟩ := map_eq_ok_iff.mp h
          cases hv
          rw [hf, readWord_eq_ok_iff.mp hword] at hb
          exact (skipBlanks_eq_cons_iff.mp hb).2
        · exact absurd h refuseValue_ne_ok
  · rintro ⟨w, hw, rfl⟩
    exact readFlag_append hw value rest

/-! ## Reading a member -/

/-- What is read as a member, its key read, is a colon and a value, and the account of the flags goes on. -/
theorem exists_of_readMember {flag flag' : Option Bool} {key bytes rest : Bytes}
    (h : readMember flag (Utf8.decodeLossy key) bytes = .ok (flag', rest)) :
    ∃ w w' v, Blank w ∧ Blank w' ∧ Derives .value v ∧ bytes = w ++ byteOf ':' :: (w' ++ (v ++ rest)) ∧
      known flag ++ flags [⟨key, v⟩] = known flag' := by
  rw [readMember] at h
  split at h
  · rename_i hkey
    rw [decodeLossy_eq_flagKey_iff] at hkey
    split at h
    · cases h
    · rename_i hnone
      rw [Option.not_isSome_iff_eq_none] at hnone
      split at h
      · cases h
      · rename_i tail hcolon
        obtain ⟨⟨value, rest'⟩, hflag, hv⟩ := map_eq_ok_iff.mp h
        cases hv
        obtain ⟨w, hw, rfl⟩ := readColon_eq_ok_iff.mp hcolon
        obtain ⟨w', hw', rfl⟩ := readFlag_eq_ok_iff.mp hflag
        refine ⟨w, w', boolean value, hw, hw', .scalar (.boolean value), rfl, ?_⟩
        rw [hnone, flags_singleton, if_pos hkey]
        rfl
  · rename_i hkey
    rw [decodeLossy_eq_flagKey_iff] at hkey
    split at h
    · cases h
    · rename_i tail hcolon
      obtain ⟨rest', hskip, hv⟩ := map_eq_ok_iff.mp h
      cases hv
      obtain ⟨w, hw, rfl⟩ := readColon_eq_ok_iff.mp hcolon
      obtain ⟨w', v, hw', hv, rfl⟩ := exists_value_of_skipValue hskip
      refine ⟨w, w', v, hw, hw', hv, rfl, ?_⟩
      rw [flags_singleton, if_neg hkey, List.append_nil]

/-- Every member is read as long as the account of the flags goes on. -/
theorem readMember_append {flag flag' : Option Bool} {key w w' v rest : Bytes} (hw : Blank w) (hw' : Blank w')
    (hv : Derives .value v) (hrest : Delimits rest) (hflag : known flag ++ flags [⟨key, v⟩] = known flag') :
    readMember flag (Utf8.decodeLossy key) (w ++ byteOf ':' :: (w' ++ (v ++ rest))) = .ok (flag', rest) := by
  rw [flags_singleton] at hflag
  by_cases hkey : key = keyBytes
  · rw [if_pos hkey] at hflag
    obtain ⟨rfl, value, rfl, rfl⟩ := known_append_singleton hflag
    simp only [readMember, if_pos (decodeLossy_eq_flagKey_iff.mpr hkey), Option.isSome_none, readColon_append hw,
      readFlag_append hw', Except.map, Bool.false_eq_true, if_false]
  · rw [if_neg hkey, List.append_nil] at hflag
    simp only [readMember, if_neg (mt decodeLossy_eq_flagKey_iff.mp hkey), readColon_append hw,
      skipValue_append hw' hv hrest, Except.map, known_inj hflag]

/-! ## Reading all members -/

/-- What stands before the next key: white space, and a comma unless the key is the first one. -/
def Separates (isFirst : Bool) (bytes : Bytes) : Prop :=
  if isFirst then Blank bytes else ∃ w w', Blank w ∧ Blank w' ∧ bytes = w ++ byteOf ',' :: w'

theorem nextKey_close (isFirst : Bool) {w : Bytes} (hw : Blank w) (rest : Bytes) :
    nextKey isFirst (w ++ Frame.close .object :: rest) = .ok (false, rest) := by
  rw [nextKey, skipBlanks_append hw, skipBlanks_cons (Frame.isBlank_close .object)]
  rfl

theorem nextKey_separates {isFirst : Bool} {s : Bytes} (hs : Separates isFirst s) (rest : Bytes) :
    nextKey isFirst (s ++ byteOf '"' :: rest) = .ok (true, rest) := by
  have hquote : skipBlanks (byteOf '"' :: rest) = byteOf '"' :: rest := skipBlanks_cons (by decide) rest
  cases isFirst with
  | true =>
    rw [nextKey, skipBlanks_append (w := s) hs, hquote]
    rfl
  | false =>
    obtain ⟨w, w', hw, hw', rfl⟩ := hs
    rw [List.append_assoc, List.cons_append, nextKey, skipBlanks_append hw, skipBlanks_cons (by decide)]
    simp only [skipBlanks_append hw', hquote]
    rfl

/-- A next key is announced by a separator and a quote, and none by the end of the object. -/
theorem exists_of_nextKey {isFirst isThere : Bool} {bytes rest : Bytes}
    (h : nextKey isFirst bytes = .ok (isThere, rest)) :
    (isThere = false ∧ ∃ w, Blank w ∧ bytes = w ++ Frame.close .object :: rest) ∨
      (isThere = true ∧ ∃ s, Separates isFirst s ∧ bytes = s ++ byteOf '"' :: rest) := by
  unfold nextKey at h
  split at h
  · cases h
  · rename_i b tail hb
    obtain ⟨-, w, hw, rfl⟩ := skipBlanks_eq_cons_iff.mp hb
    split at h
    · rename_i hclose
      cases h
      exact .inl ⟨rfl, w, hw, by rw [hclose]; rfl⟩
    · split at h
      · rename_i hfirst
        split at h
        · rename_i hquote
          cases h
          exact .inr ⟨rfl, w, by rw [hfirst]; exact hw, by rw [hquote]⟩
        · cases h
      · rename_i hfirst
        rw [Bool.not_eq_true] at hfirst
        split at h
        · rename_i hcomma
          split at h
          · cases h
          · rename_i c tail' hc
            obtain ⟨-, w', hw', rfl⟩ := skipBlanks_eq_cons_iff.mp hc
            split at h
            · rename_i hquote
              cases h
              refine .inr ⟨rfl, w ++ byteOf ',' :: w', ?_, by rw [hcomma, hquote]; simp⟩
              rw [hfirst]
              exact ⟨w, w', hw, hw', rfl⟩
            · split at h <;> cases h
        · cases h

/-- What stands between some place before a key and the end of the object. -/
inductive Remains : Bool → Bytes → List Member → Prop where
  | nothing {isFirst : Bool} {w : Bytes} : Blank w → Remains isFirst w []
  | first {is : Bytes} {members : List Member} : Items Keyed is members → Remains true is members
  | next {w is : Bytes} {members : List Member} : Blank w → Items Keyed is members →
      Remains false (w ++ byteOf ',' :: is) members

/-- A key with its value goes before what remains after it. -/
theorem Remains.items {w raw key w' w'' v inner : Bytes} {members : List Member} (hw : Blank w)
    (hraw : Spells raw key) (hw' : Blank w') (hw'' : Blank w'') (hv : Derives .value v)
    (h : Remains false inner members) :
    Items Keyed (w ++ (quote raw ++ (w' ++ byteOf ':' :: (w'' ++ (v ++ inner))))) (⟨key, v⟩ :: members) := by
  cases h with
  | nothing hinner => exact .one (.intro hw hraw hw' (.intro hw'' hv hinner))
  | @next x is members hx his =>
    have hmore := Items.more (.intro hw hraw hw' (.intro hw'' hv hx)) his
    simpa only [List.append_assoc, List.cons_append] using hmore

/-- What is read as the members of an object are members, and the account of the flags comes out. -/
theorem exists_of_readMembers {isFirst : Bool} {flag flag' : Option Bool} {bytes rest : Bytes}
    (h : readMembers isFirst flag bytes = .ok (flag', rest)) :
    ∃ inner members, Remains isFirst inner members ∧ bytes = inner ++ Frame.close .object :: rest ∧
      known flag ++ flags members = known flag' := by
  fun_induction readMembers isFirst flag bytes with
  | case1 => cases h
  | case2 isFirst flag bytes tail hk =>
    cases h
    obtain ⟨-, w, hw, rfl⟩ | ⟨hfalse, -⟩ := exists_of_nextKey hk
    · exact ⟨w, [], .nothing hw, rfl, by rw [flags_nil, List.append_nil]⟩
    · cases hfalse
  | case3 => cases h
  | case4 => cases h
  | case5 isFirst flag bytes tail hk key tail' ht flag₁ tail'' hm ih =>
    obtain ⟨inner, members, hremains, rfl, haccount⟩ := ih h
    obtain ⟨⟨content, _⟩, hcontent, hkey⟩ := map_eq_ok_iff.mp ht
    cases hkey
    obtain ⟨raw, rfl, hraw⟩ := readContent_eq_ok_iff.mp hcontent
    obtain ⟨w, w', v, hw, hw', hv, rfl, hflag⟩ := exists_of_readMember hm
    obtain ⟨hfalse, -⟩ | ⟨-, s, hs, rfl⟩ := exists_of_nextKey hk
    · cases hfalse
    have hsum : known flag ++ flags (⟨content, v⟩ :: members) = known flag' := by
      rw [flags_cons, ← List.append_assoc, hflag, haccount]
    cases isFirst with
    | true =>
      refine ⟨_, _, .first (hremains.items (w := s) hs hraw hw hw' hv), ?_, hsum⟩
      simp [quote]
    | false =>
      obtain ⟨x, x', hx, hx', rfl⟩ := hs
      refine ⟨_, _, .next hx (hremains.items hx' hraw hw hw' hv), ?_, hsum⟩
      simp [quote]

theorem readMembers_close (isFirst : Bool) (flag : Option Bool) {w : Bytes} (hw : Blank w) (rest : Bytes) :
    readMembers isFirst flag (w ++ Frame.close .object :: rest) = .ok (flag, rest) := by
  have hclose := nextKey_close isFirst hw rest
  rw [readMembers]
  split <;> rename_i hk <;> cases hclose.symm.trans hk
  rfl

/-- One member is read, and then the others. -/
theorem readMembers_entry {isFirst : Bool} {flag flag₁ : Option Bool} {bytes tail tail' tail'' : Bytes} {key : String}
    (hk : nextKey isFirst bytes = .ok (true, tail)) (ht : readText tail = .ok (key, tail'))
    (hm : readMember flag key tail' = .ok (flag₁, tail'')) :
    readMembers isFirst flag bytes = readMembers false flag₁ tail'' := by
  rw [readMembers]
  split <;> rename_i hk' <;> cases hk.symm.trans hk'
  split <;> rename_i ht' <;> cases ht.symm.trans ht'
  split <;> rename_i hm' <;> cases hm.symm.trans hm'
  rfl

/-- An entry is read after any separator. -/
theorem readMembers_append {isFirst : Bool} {flag flag' : Option Bool} {s i rest : Bytes} {member : Member}
    (hs : ∀ w, Blank w → Separates isFirst (s ++ w)) (hi : Keyed i member) (hrest : Delimits rest)
    (hflag : known flag ++ flags [member] = known flag') :
    ∃ w, Blank w ∧ readMembers isFirst flag (s ++ (i ++ rest)) = readMembers false flag' (w ++ rest) := by
  obtain @⟨w, raw, key, w', e, v, hw, hraw, hw', he⟩ := hi
  obtain @⟨x, v, x', hx, hv, hx'⟩ := he
  have hkey := nextKey_separates (hs w hw) (raw ++ byteOf '"' :: (w' ++ byteOf ':' :: (x ++ (v ++ (x' ++ rest)))))
  have htext : readText (raw ++ byteOf '"' :: (w' ++ byteOf ':' :: (x ++ (v ++ (x' ++ rest))))) =
      .ok (Utf8.decodeLossy key, w' ++ byteOf ':' :: (x ++ (v ++ (x' ++ rest)))) :=
    map_eq_ok_iff.mpr ⟨_, hraw.readContent _, rfl⟩
  have hmember := readMember_append hw' hx hv (delimits_append hx' hrest) hflag
  refine ⟨x', hx', ?_⟩
  rw [← readMembers_entry hkey htext hmember]
  simp only [quote, List.append_assoc, List.cons_append, List.nil_append]

/-- All members are read as long as the account of the flags comes out. -/
theorem readMembers_items {is : Bytes} {members : List Member} (h : Items Keyed is members) (isFirst : Bool)
    (s : Bytes) (flag flag' : Option Bool) (rest : Bytes) (hs : ∀ w, Blank w → Separates isFirst (s ++ w))
    (haccount : known flag ++ flags members = known flag') :
    readMembers isFirst flag (s ++ (is ++ Frame.close .object :: rest)) = .ok (flag', rest) := by
  induction h generalizing isFirst s flag with
  | one hi =>
    obtain ⟨w, hw, hread⟩ := readMembers_append hs hi (Frame.delimits_close .object rest) haccount
    rw [hread, readMembers_close false flag' hw]
  | @more i is member members hi _ ih =>
    rw [flags_cons, ← List.append_assoc] at haccount
    obtain ⟨flag₁, hflag⟩ := exists_known_of_append haccount
    obtain ⟨w, hw, hread⟩ :=
      readMembers_append hs hi (delimits_comma (is ++ Frame.close .object :: rest)) hflag
    rw [hflag] at haccount
    have hcomma : ∀ w', Blank w' → Separates false (w ++ [byteOf ','] ++ w') := fun w' hw' =>
      ⟨w, w', hw, hw', by simp⟩
    have hrest := ih false (w ++ [byteOf ',']) flag₁ hcomma haccount
    rw [List.append_assoc i, List.cons_append, hread]
    simpa only [List.append_assoc, List.singleton_append] using hrest

/-! ## Reading a list -/

theorem readListEnd_eq_ok_iff {bytes rest : Bytes} :
    readListEnd bytes = .ok rest ↔ ∃ w, Blank w ∧ bytes = w ++ Frame.close .list :: rest := by
  constructor
  · intro h
    rw [readListEnd] at h
    split at h
    · cases h
    · rename_i hb
      split at h
      · rename_i hclose
        cases h
        rw [hclose] at hb
        exact (skipBlanks_eq_cons_iff.mp hb).2
      · split at h
        · simp only at h
          split at h <;> cases h
        · cases h
  · rintro ⟨w, hw, rfl⟩
    rw [readListEnd, skipBlanks_append hw, skipBlanks_cons (Frame.isBlank_close .list)]
    rfl

/-- A list is read if there is nothing in it, or one truth value. -/
theorem readList_eq_ok_iff {bytes rest : Bytes} {flag : Option Bool} :
    readList bytes = .ok (flag, rest) ↔
      (flag = none ∧ ∃ w, Blank w ∧ bytes = w ++ Frame.close .list :: rest) ∨
        ∃ value w w', flag = some value ∧ Blank w ∧ Blank w' ∧
          bytes = w ++ (boolean value ++ (w' ++ Frame.close .list :: rest)) := by
  constructor
  · intro h
    rw [readList] at h
    split at h
    · cases h
    · rename_i b tail hb
      obtain ⟨hblank, w, hw, rfl⟩ := skipBlanks_eq_cons_iff.mp hb
      split at h
      · rename_i hclose
        cases h
        exact .inl ⟨rfl, w, hw, by rw [hclose]; rfl⟩
      · split at h
        · cases h
        · rename_i value tail' hflag
          obtain ⟨rest', hend, hr⟩ := map_eq_ok_iff.mp h
          cases hr
          obtain ⟨x, hx, hbytes⟩ := readFlag_eq_ok_iff.mp hflag
          obtain ⟨w', hw', rfl⟩ := readListEnd_eq_ok_iff.mp hend
          refine .inr ⟨value, w ++ x, w', rfl, blank_append.mpr ⟨hw, hx⟩, hw', ?_⟩
          rw [hbytes, List.append_assoc]
  · rintro (⟨rfl, w, hw, rfl⟩ | ⟨value, w, w', rfl, hw, hw', rfl⟩)
    · rw [readList, skipBlanks_append hw, skipBlanks_cons (Frame.isBlank_close .list)]
      rfl
    · have hv : Derives .value (boolean value) := .scalar (.boolean value)
      obtain ⟨b, tail, hb, hblank, hc⟩ := hv.head
      have hbytes := readFlag_append blank_nil value (w' ++ Frame.close .list :: rest)
      rw [List.nil_append, hb, List.cons_append] at hbytes
      rw [readList, skipBlanks_append hw, hb, List.cons_append, skipBlanks_cons hblank]
      simp only [if_neg (show b ≠ byteOf ']' from hc .list), hbytes]
      exact map_eq_ok_iff.mpr ⟨rest, readListEnd_eq_ok_iff.mpr ⟨w', hw', rfl⟩, rfl⟩

/-! ## Reading a document -/

theorem readValue_list {w : Bytes} (hw : Blank w) (rest : Bytes) :
    readValue (w ++ Frame.start .list :: rest) = readList rest := by
  rw [readValue, skipBlanks_append hw, skipBlanks_cons (Frame.isBlank_start .list)]
  rfl

theorem readValue_object {w : Bytes} (hw : Blank w) (rest : Bytes) :
    readValue (w ++ Frame.start .object :: rest) = readMembers true none rest := by
  rw [readValue, skipBlanks_append hw, skipBlanks_cons (Frame.isBlank_start .object)]
  rfl

/-- A value is read if it is a list or an object, with white space before it. -/
theorem exists_of_readValue {bytes rest : Bytes} {flag : Option Bool} (h : readValue bytes = .ok (flag, rest)) :
    ∃ w inner, Blank w ∧ ((bytes = w ++ Frame.start .list :: inner ∧ readList inner = .ok (flag, rest)) ∨
      bytes = w ++ Frame.start .object :: inner ∧ readMembers true none inner = .ok (flag, rest)) := by
  rw [readValue] at h
  split at h
  · cases h
  · rename_i b tail hb
    obtain ⟨-, w, hw, rfl⟩ := skipBlanks_eq_cons_iff.mp hb
    split at h
    · rename_i hstart
      exact ⟨w, tail, hw, .inl ⟨by rw [hstart]; rfl, h⟩⟩
    · split at h
      · rename_i hstart
        exact ⟨w, tail, hw, .inr ⟨by rw [hstart]; rfl, h⟩⟩
      · exact absurd h refuseValue_ne_ok

/-- A document is a value and white space after it. -/
theorem readAll_eq_ok_iff_readValue {bytes : Bytes} {value : Bool} :
    readAll bytes = .ok ⟨value⟩ ↔
      ∃ flag rest, readValue bytes = .ok (flag, rest) ∧ Blank rest ∧ flag.getD false = value := by
  constructor
  · intro h
    rw [readAll] at h
    split at h
    · cases h
    · rename_i flag rest hv
      split at h
      · rename_i hrest
        exact ⟨flag, rest, hv, skipBlanks_eq_nil_iff.mp hrest, congrArg Preferences.transparency (Except.ok.inj h)⟩
      · cases h
  · rintro ⟨flag, rest, hv, hrest, rfl⟩
    simp only [readAll, hv, skipBlanks_eq_nil_iff.mpr hrest]

/-- A list that was read, and what it says. -/
theorem exists_isList_of_readList {w inner rest : Bytes} {flag : Option Bool} (hw : Blank w)
    (h : readList inner = .ok (flag, rest)) (hrest : Blank rest) :
    ∃ values, IsList (w ++ Frame.start .list :: inner) values ∧ Says values (flag.getD false) := by
  obtain ⟨rfl, x, hx, rfl⟩ | ⟨value, x, x', rfl, hx, hx', rfl⟩ := readList_eq_ok_iff.mp h
  · exact ⟨[], .empty hw hx hrest, .nothing⟩
  · have hlist := @Framed.items _ .list _ _ _ _ _ hw (.one (Padded.intro hx (.scalar (.boolean value)) hx')) hrest
    simp only [List.append_assoc] at hlist
    exact ⟨[boolean value], hlist, .once value⟩

/-- An object that was read, and what it says. -/
theorem exists_isObject_of_readMembers {w inner rest : Bytes} {flag : Option Bool} (hw : Blank w)
    (h : readMembers true none inner = .ok (flag, rest)) (hrest : Blank rest) :
    ∃ members, IsObject (w ++ Frame.start .object :: inner) members ∧ Says (flags members) (flag.getD false) := by
  obtain ⟨inner, members, hremains, rfl, haccount⟩ := exists_of_readMembers h
  have hknown : flags members = known flag := haccount
  refine ⟨members, ?_, by rw [hknown, says_known_iff]⟩
  cases hremains with
  | nothing hx => exact .empty hw hx hrest
  | first his => exact .items hw his hrest

/-- A list that says something is read as what it says. -/
theorem readAll_of_isList {bytes : Bytes} {values : List Bytes} {value : Bool} (hlist : IsList bytes values)
    (hmeans : Says values value) : readAll bytes = .ok ⟨value⟩ := by
  rw [readAll_eq_ok_iff_readValue]
  cases hmeans with
  | nothing =>
    cases hlist with
    | @empty w inner w' hw hinner hw' =>
      exact ⟨none, w', (readValue_list hw _).trans (readList_eq_ok_iff.mpr (.inl ⟨rfl, inner, hinner, rfl⟩)), hw', rfl⟩
    | items _ hi _ => cases hi
  | once =>
    cases hlist with
    | @items w inner w' _ hw hi hw' =>
      refine ⟨some value, w', ?_, hw', rfl⟩
      rw [readValue_list hw]
      cases hi with
      | one he =>
        obtain @⟨x, _, x', hx, -, hx'⟩ := he
        exact readList_eq_ok_iff.mpr (.inr ⟨value, x, x', rfl, hx, hx', by simp only [List.append_assoc]⟩)
      | more _ his => cases his

/-- An object that says something is read as what it says. -/
theorem readAll_of_isObject {bytes : Bytes} {members : List Member} {value : Bool} (hobject : IsObject bytes members)
    (hmeans : Says (flags members) value) : readAll bytes = .ok ⟨value⟩ := by
  obtain ⟨flag, hflag, rfl⟩ := hmeans.exists_known
  rw [readAll_eq_ok_iff_readValue]
  cases hobject with
  | @empty w inner w' hw hinner hw' =>
    obtain rfl : none = flag := known_inj hflag
    refine ⟨none, w', ?_, hw', rfl⟩
    rw [readValue_object hw, readMembers_close true none hinner]
  | @items w inner w' _ hw hi hw' =>
    refine ⟨flag, w', ?_, hw', rfl⟩
    rw [readValue_object hw]
    exact readMembers_items hi true [] none flag w' (fun _ hx => hx) hflag

/-- **A document is read exactly if it has the format, and then it means what it says.** -/
theorem readAll_eq_ok_iff {bytes : Bytes} {value : Bool} :
    readAll bytes = .ok ⟨value⟩ ↔
      (∃ members, IsObject bytes members ∧ Says (flags members) value) ∨
        ∃ values, IsList bytes values ∧ Says values value := by
  constructor
  · intro h
    obtain ⟨flag, rest, hv, hrest, rfl⟩ := readAll_eq_ok_iff_readValue.mp h
    obtain ⟨w, inner, hw, ⟨rfl, hlist⟩ | ⟨rfl, hobject⟩⟩ := exists_of_readValue hv
    · exact .inr (exists_isList_of_readList hw hlist hrest)
    · exact .inl (exists_isObject_of_readMembers hw hobject hrest)
  · rintro (⟨members, hobject, hmeans⟩ | ⟨values, hlist, hmeans⟩)
    · exact readAll_of_isObject hobject hmeans
    · exact readAll_of_isList hlist hmeans

/-- A place is found for every fault, and nothing else is done with it. -/
theorem read_eq_ok_iff {bytes : Bytes} {preferences : Preferences} :
    read bytes = .ok preferences ↔ readAll bytes = .ok preferences := by
  rw [read]
  split <;> rename_i h <;> simp [h]

end Preferences

end Transparency
