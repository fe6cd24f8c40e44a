import Mathlib
import Transparency.Proofs.Json.Skipping

/-!
# Lists and objects with what they hold

The grammar says which bytes are a list or an object. Here they are related to what they hold as well: a list to the
values between its commas, an object to its members, each a key (the bytes that it spells) with a value (as it is
written). An object has its members in one way only (`IsObject.unique`), so they may be called *the* members of a text.
-/

namespace Transparency

namespace Json

/-- A member of an object. -/
structure Member where
  /-- what the text before the colon spells -/
  key : Bytes
  /-- the value as it is written -/
  value : Bytes
  deriving DecidableEq, Repr

/-- A value with white space around it. -/
inductive Padded : Bytes → Bytes → Prop where
  | intro {w v w' : Bytes} : Blank w → Derives .value v → Blank w' → Padded (w ++ (v ++ w')) v

/-- A key with its value, and white space around all of it. -/
inductive Keyed : Bytes → Member → Prop where
  | intro {w raw key w' e v : Bytes} : Blank w → Spells raw key → Blank w' → Padded e v →
      Keyed (w ++ (quote raw ++ (w' ++ byteOf ':' :: e))) ⟨key, v⟩

/-- One item or more, with commas between them. -/
inductive Items {α : Type} (Item : Bytes → α → Prop) : Bytes → List α → Prop where
  | one {i : Bytes} {a : α} : Item i a → Items Item i [a]
  | more {i is : Bytes} {a : α} {as : List α} : Item i a → Items Item is as →
      Items Item (i ++ byteOf ',' :: is) (a :: as)

/-- Items in the brackets of a frame, and white space around them. -/
inductive Framed {α : Type} (frame : Frame) (Item : Bytes → α → Prop) : Bytes → List α → Prop where
  | empty {w inner w' : Bytes} : Blank w → Blank inner → Blank w' →
      Framed frame Item (w ++ frame.start :: (inner ++ frame.close :: w')) []
  | items {w inner w' : Bytes} {as : List α} : Blank w → Items Item inner as → Blank w' →
      Framed frame Item (w ++ frame.start :: (inner ++ frame.close :: w')) as

/-- Whether bytes are a list of these values. -/
abbrev IsList : Bytes → List Bytes → Prop := Framed .list Padded

/-- Whether bytes are an object with these members. -/
abbrev IsObject : Bytes → List Member → Prop := Framed .object Keyed

/-! ## They are what the grammar derives -/

theorem Padded.derives {e v : Bytes} (h : Padded e v) : Derives .element e := by
  cases h with
  | intro hw hv hw' => exact .element hw hv hw'

theorem Keyed.derives {i : Bytes} {member : Member} (h : Keyed i member) : Derives (.item .object) i := by
  cases h with
  | intro hw hraw hw' he => exact .keyed hw hraw.toContent hw' he.derives

theorem Items.derives {α : Type} {frame : Frame} {Item : Bytes → α → Prop}
    (hitem : ∀ {i a}, Item i a → Derives (.item frame) i) {is : Bytes} {as : List α} (h : Items Item is as) :
    Derives (.items frame) is := by
  induction h with
  | one hi => exact .one (hitem hi)
  | more hi _ ih => exact .more (hitem hi) ih

/-- A list or an object is a JSON text. -/
theorem Framed.derives {α : Type} {frame : Frame} {Item : Bytes → α → Prop}
    (hitem : ∀ {i a}, Item i a → Derives (.item frame) i) {bytes : Bytes} {as : List α}
    (h : Framed frame Item bytes as) : Derives .element bytes := by
  cases h with
  | @empty w inner w' hw hi hw' =>
    simpa using Derives.element hw (.empty hi) hw'
  | @items w inner w' as hw hi hw' =>
    simpa using Derives.element hw (.nested (hi.derives hitem)) hw'

theorem IsObject.derives {bytes : Bytes} {members : List Member} (h : IsObject bytes members) :
    Derives .element bytes :=
  Framed.derives Keyed.derives h

theorem IsList.derives {bytes : Bytes} {values : List Bytes} (h : IsList bytes values) : Derives .element bytes :=
  Framed.derives (fun h => .plain h.derives) h

/-! ## The members are determined -/

/-- What may follow an entry: a comma, or the end of the object. -/
def EndsEntry (b : UInt8) : Prop := b = byteOf ',' ∨ b = Frame.close .object

theorem EndsEntry.isBlank {b : UInt8} (h : EndsEntry b) : isBlank b = false := by
  obtain rfl | rfl := h <;> decide

theorem EndsEntry.delimits {b : UInt8} (h : EndsEntry b) (rest : Bytes) : Delimits (b :: rest) := by
  obtain rfl | rfl := h
  · exact delimits_comma rest
  · exact Frame.delimits_close .object rest

/-- The first byte that is not white space, and what follows it, can be told from the whole. -/
theorem cons_eq_of_blank {w w' rest rest' : Bytes} {b b' : UInt8} (hw : Blank w) (hw' : Blank w')
    (hb : isBlank b = false) (hb' : isBlank b' = false) (h : w ++ b :: rest = w' ++ b' :: rest') :
    b = b' ∧ rest = rest' := by
  have hs := congrArg skipBlanks h
  rwa [skipBlanks_append hw, skipBlanks_append hw', skipBlanks_cons hb, skipBlanks_cons hb', List.cons.injEq] at hs

theorem Derives.skipBlanks_append {v : Bytes} (h : Derives .value v) (rest : Bytes) :
    skipBlanks (v ++ rest) = v ++ rest := by
  obtain ⟨b, tail, rfl, hb, -⟩ := h.head
  exact skipBlanks_cons hb _

theorem Padded.unique {e e' v v' rest rest' : Bytes} {b b' : UInt8} (h₁ : Padded e v) (h₂ : Padded e' v')
    (hb : EndsEntry b) (hb' : EndsEntry b') (h : e ++ b :: rest = e' ++ b' :: rest') :
    v = v' ∧ b = b' ∧ rest = rest' := by
  obtain @⟨w₁, _, w₂, hw₁, hv, hw₂⟩ := h₁
  obtain @⟨x₁, _, x₂, hx₁, hv', hx₂⟩ := h₂
  simp only [List.append_assoc] at h
  have hrest : w₂ ++ b :: rest = x₂ ++ b' :: rest' := by
    have hs := skipValue_append hw₁ hv (delimits_append hw₂ (hb.delimits rest))
    rw [h, skipValue_append hx₁ hv' (delimits_append hx₂ (hb'.delimits rest'))] at hs
    exact (Except.ok.inj hs).symm
  have hvalue : v ++ (w₂ ++ b :: rest) = v' ++ (w₂ ++ b :: rest) := by
    have hs := congrArg skipBlanks h
    rwa [Json.skipBlanks_append hw₁, Json.skipBlanks_append hx₁, hv.skipBlanks_append, hv'.skipBlanks_append,
      ← hrest] at hs
  exact ⟨List.append_cancel_right hvalue, cons_eq_of_blank hw₂ hx₂ hb.isBlank hb'.isBlank hrest⟩

theorem Keyed.unique {i i' rest rest' : Bytes} {member member' : Member} {b b' : UInt8} (h₁ : Keyed i member)
    (h₂ : Keyed i' member') (hb : EndsEntry b) (hb' : EndsEntry b') (h : i ++ b :: rest = i' ++ b' :: rest') :
    member = member' ∧ b = b' ∧ rest = rest' := by
  obtain @⟨w₁, raw, key, w₂, e, v, hw₁, hraw, hw₂, he⟩ := h₁
  obtain @⟨x₁, raw', key', x₂, e', v', hx₁, hraw', hx₂, he'⟩ := h₂
  simp only [quote, List.append_assoc, List.cons_append, List.nil_append] at h
  obtain ⟨-, hquote⟩ := cons_eq_of_blank hw₁ hx₁ (by decide) (by decide) h
  have hkey := hraw.readContent (w₂ ++ byteOf ':' :: (e ++ b :: rest))
  rw [hquote, hraw'.readContent] at hkey
  obtain ⟨rfl, hcolon⟩ := Prod.mk.inj (Except.ok.inj hkey)
  obtain ⟨-, helement⟩ := cons_eq_of_blank hx₂ hw₂ (by decide) (by decide) hcolon
  obtain ⟨rfl, hrest⟩ := he.unique he' hb hb' helement.symm
  exact ⟨rfl, hrest⟩

theorem Items.unique {is is' rest rest' : Bytes} {members members' : List Member} (h₁ : Items Keyed is members)
    (h₂ : Items Keyed is' members') (h : is ++ Frame.close .object :: rest = is' ++ Frame.close .object :: rest') :
    members = members' := by
  have comma : EndsEntry (byteOf ',') := .inl rfl
  have close : EndsEntry (Frame.close .object) := .inr rfl
  induction h₁ generalizing is' members' with
  | one hi =>
    cases h₂ with
    | one hi' =>
      obtain ⟨rfl, -⟩ := hi.unique hi' close close h
      rfl
    | more hi' _ =>
      rw [List.append_assoc, List.cons_append] at h
      exact absurd (hi.unique hi' close comma h).2.1 (by decide)
  | more hi _ ih =>
    rw [List.append_assoc, List.cons_append] at h
    cases h₂ with
    | one hi' => exact absurd (hi.unique hi' comma close h).2.1 (by decide)
    | more hi' his' =>
      rw [List.append_assoc, List.cons_append] at h
      obtain ⟨rfl, -, htail⟩ := hi.unique hi' comma comma h
      rw [ih his' htail]

theorem Items.not_blank {is inner rest rest' : Bytes} {members : List Member} (h : Items Keyed is members)
    (hinner : Blank inner) :
    is ++ Frame.close .object :: rest ≠ inner ++ Frame.close .object :: rest' := by
  intro heq
  obtain ⟨b, tail, hb, hc⟩ := (h.derives Keyed.derives).exists_head (Frame.close .object :: rest)
  rw [heq, Json.skipBlanks_append hinner, skipBlanks_cons (Frame.isBlank_close .object)] at hb
  exact hc .object (List.cons.inj hb).1.symm

/-- **No object has its members in two ways.** -/
theorem IsObject.unique {bytes : Bytes} {members members' : List Member} (h₁ : IsObject bytes members)
    (h₂ : IsObject bytes members') : members = members' := by
  have inner {w w' tail tail' : Bytes} (hw : Blank w) (hw' : Blank w')
      (h : w ++ Frame.start .object :: tail = w' ++ Frame.start .object :: tail') : tail = tail' :=
    (cons_eq_of_blank hw hw' (Frame.isBlank_start .object) (Frame.isBlank_start .object) h).2
  obtain @⟨w, i, w', hw, hi, -⟩ | @⟨w, i, w', _, hw, hi, -⟩ := h₁ <;>
    generalize hbytes : w ++ Frame.start .object :: (i ++ Frame.close .object :: w') = bytes at h₂ <;>
      obtain @⟨x, j, x', hx, hj, -⟩ | @⟨x, j, x', _, hx, hj, -⟩ := h₂
  · rfl
  · exact absurd (inner hx hw hbytes.symm) (hj.not_blank hi)
  · exact absurd (inner hw hx hbytes) (hi.not_blank hj)
  · exact hi.unique hj (inner hw hx hbytes)

end Json

end Transparency
