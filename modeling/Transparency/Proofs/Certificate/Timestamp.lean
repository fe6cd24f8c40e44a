import Mathlib
import Transparency.Certificate.Basic
import Transparency.Proofs.Certificate.Element

/-!
# How many timestamps a certificate carries

What an extension has to be to hold a list of timestamps, without reference to how one is read. It is of one kind, and
its value is a string of bytes that starts with a block; in the block stand the timestamps, each in a block of its own.
Of the row of timestamps at the start of a block as many count as there are, and an extension without any is no list.

Every extension `Counts` for a number: a list for as many timestamps as it holds, and all others for none. A certificate
counts for the sum. This is how many timestamps `Certificate.timestamps` finds (`Certificate.counts_iff`).
-/

namespace Transparency

open Bytes

namespace Timestamp

/-! ## Blocks -/

/-- A block with a content: the length of the content in two bytes, and the content. -/
inductive Block (content : Bytes) : Bytes → Prop where
  | intro {a b : UInt8} : content.length = a.toNat * 256 + b.toNat → Block content (a :: b :: content)

theorem readBlock?_eq_some_iff {bytes content rest : Bytes} :
    readBlock? bytes = some (content, rest) ↔ Split (Block content) bytes rest := by
  constructor
  · intro taken
    rw [readBlock?.eq_def] at taken
    split at taken
    next a b bytes =>
      obtain ⟨length, rfl⟩ := splitExactly?_eq_some_iff.mp taken
      exact ⟨a :: b :: content, .intro length, rfl⟩
    · cases taken
  · rintro ⟨_, ⟨length⟩, rfl⟩
    exact splitExactly?_eq_some_iff.mpr ⟨length, rfl⟩

/-! ## Timestamps -/

/-- The bytes that a timestamp is written as. -/
inductive SpelledBy : Timestamp → Bytes → Prop where
  | intro {version hash algorithm : UInt8} {logId time extensions signature e s : Bytes} : logId.length = 32 →
      time.length = 8 → Block extensions e → Block signature s →
      SpelledBy ⟨version, logId, toNatBE time, extensions, hash, algorithm, signature⟩
        (version :: (logId ++ (time ++ (e ++ hash :: algorithm :: s))))

theorem ofBlock?_eq_some_iff {block : Bytes} {timestamp : Timestamp} :
    ofBlock? block = some timestamp ↔ StartsWith timestamp.SpelledBy block := by
  constructor
  · intro taken
    rw [ofBlock?.eq_def] at taken
    split at taken
    · cases taken
    next version bytes =>
      split at taken
      · cases taken
      next log_taken =>
        obtain ⟨log_length, rfl⟩ := splitExactly?_eq_some_iff.mp log_taken
        split at taken
        · cases taken
        next time_taken =>
          obtain ⟨time_length, rfl⟩ := splitExactly?_eq_some_iff.mp time_taken
          split at taken
          next extensions_taken =>
            obtain ⟨e, extensions, rfl⟩ := readBlock?_eq_some_iff.mp extensions_taken
            split at taken
            next signature rest signature_taken =>
              cases taken
              obtain ⟨s, signature, rfl⟩ := readBlock?_eq_some_iff.mp signature_taken
              exact ⟨rest, _, .intro log_length time_length extensions signature, by simp⟩
            · cases taken
          · cases taken
  · rintro ⟨rest, _, @⟨version, hash, algorithm, logId, time, content, content', e, s, log_length, time_length,
      extensions, signature⟩, rfl⟩
    have log_taken (more : Bytes) : splitExactly? 32 (logId ++ more) = some (logId, more) :=
      splitExactly?_eq_some_iff.mpr ⟨log_length, rfl⟩
    have time_taken (more : Bytes) : splitExactly? 8 (time ++ more) = some (time, more) :=
      splitExactly?_eq_some_iff.mpr ⟨time_length, rfl⟩
    have extensions_taken (more : Bytes) : readBlock? (e ++ more) = some (content, more) :=
      readBlock?_eq_some_iff.mpr (split_append extensions more)
    have signature_taken : readBlock? (s ++ rest) = some (content', rest) :=
      readBlock?_eq_some_iff.mpr (split_append signature rest)
    simp only [List.cons_append, List.append_assoc, ofBlock?, log_taken, time_taken, extensions_taken, signature_taken]

/-- A timestamp in a block of its own; further bytes of the block do not matter. -/
def Item (timestamp : Timestamp) (bytes : Bytes) : Prop :=
  ∃ block, Block block bytes ∧ StartsWith timestamp.SpelledBy block

/-- Bytes start with a row of timestamps, and what follows the row is no timestamp. -/
def Lists (timestamps : List Timestamp) (bytes : Bytes) : Prop :=
  ∃ rest, Split (Row (timestamps.map Item)) bytes rest ∧ ∀ timestamp, ¬StartsWith (Item timestamp) rest

theorem split_item_iff {timestamp : Timestamp} {bytes rest : Bytes} :
    Split timestamp.Item bytes rest ↔
      ∃ block, readBlock? bytes = some (block, rest) ∧ ofBlock? block = some timestamp := by
  simp only [readBlock?_eq_some_iff, ofBlock?_eq_some_iff]
  constructor
  · rintro ⟨front, ⟨block, whole, starts⟩, rfl⟩
    exact ⟨block, split_append whole rest, starts⟩
  · rintro ⟨block, ⟨front, whole, rfl⟩, starts⟩
    exact ⟨front, ⟨block, whole, starts⟩, rfl⟩

theorem lists_cons_iff {timestamp : Timestamp} {timestamps : List Timestamp} {bytes : Bytes} :
    Lists (timestamp :: timestamps) bytes ↔ ∃ rest, Split timestamp.Item bytes rest ∧ Lists timestamps rest := by
  simp only [Lists, List.map_cons, split_row_cons_iff]
  constructor
  · rintro ⟨rest, ⟨middle, first, others⟩, ends⟩
    exact ⟨middle, first, rest, others, ends⟩
  · rintro ⟨middle, first, rest, others, ends⟩
    exact ⟨rest, ⟨middle, first, others⟩, ends⟩

theorem lists_nil_iff {bytes : Bytes} : Lists [] bytes ↔ ∀ timestamp, ¬StartsWith (Item timestamp) bytes := by
  simp [Lists, split_row_nil_iff]

theorem not_startsWith_item_iff {bytes : Bytes} :
    (∀ timestamp, ¬StartsWith (Item timestamp) bytes) ↔
      ∀ block rest, readBlock? bytes = some (block, rest) → ofBlock? block = none := by
  simp only [StartsWith, split_item_iff, Option.eq_none_iff_forall_ne_some]
  constructor
  · intro ends block rest block_taken timestamp taken
    exact ends timestamp ⟨rest, block, block_taken, taken⟩
  · rintro ends timestamp ⟨rest, block, block_taken, taken⟩
    exact ends block rest block_taken timestamp taken

theorem readAll_of_split {timestamp : Timestamp} {bytes rest : Bytes} (split : Split timestamp.Item bytes rest) :
    readAll bytes = timestamp :: readAll rest := by
  obtain ⟨block, block_taken, taken⟩ := split_item_iff.mp split
  rw [readAll]
  split
  next none_taken => cases block_taken.symm.trans none_taken
  next block_taken' =>
    cases block_taken.symm.trans block_taken'
    rw [taken]

theorem readAll_of_not_startsWith {bytes : Bytes} (ends : ∀ timestamp, ¬StartsWith (Item timestamp) bytes) :
    readAll bytes = [] := by
  rw [readAll]
  split
  · rfl
  next block rest block_taken => rw [not_startsWith_item_iff.mp ends block rest block_taken]

theorem lists_readAll (bytes : Bytes) : Lists (readAll bytes) bytes := by
  have of_ends {bytes : Bytes} (ends : ∀ block rest, readBlock? bytes = some (block, rest) → ofBlock? block = none) :
      Lists (readAll bytes) bytes := by
    rw [readAll_of_not_startsWith (not_startsWith_item_iff.mpr ends)]
    exact lists_nil_iff.mpr (not_startsWith_item_iff.mpr ends)
  induction bytes using readAll.induct with
  | case1 bytes none_taken =>
    refine of_ends fun block rest block_taken => ?_
    cases none_taken.symm.trans block_taken
  | case2 bytes block rest block_taken timestamp taken ih =>
    have split : Split timestamp.Item bytes rest := split_item_iff.mpr ⟨block, block_taken, taken⟩
    rw [readAll_of_split split]
    exact lists_cons_iff.mpr ⟨rest, split, ih⟩
  | case3 bytes block rest block_taken none_taken =>
    refine of_ends fun block' rest' block_taken' => ?_
    cases block_taken.symm.trans block_taken'
    exact none_taken

/-- **Timestamps are read as far as there are any.** -/
theorem readAll_eq_iff {bytes : Bytes} {timestamps : List Timestamp} :
    readAll bytes = timestamps ↔ Lists timestamps bytes := by
  constructor
  · rintro rfl
    exact lists_readAll bytes
  · intro lists
    induction timestamps generalizing bytes with
    | nil => exact readAll_of_not_startsWith (lists_nil_iff.mp lists)
    | cons timestamp timestamps ih =>
      obtain ⟨rest, split, lists⟩ := lists_cons_iff.mp lists
      rw [readAll_of_split split, ih lists]

end Timestamp

/-! ## Extensions -/

namespace Extension

/-- An extension that holds a list of timestamps. -/
structure Lists (extension : Extension) (timestamps : List Timestamp) : Prop where
  id_eq : extension.id = Certificate.timestampListId
  /-- the value is a string of bytes; in it stands a block, and in the block the list -/
  value : ∃ content block, StartsWith (Element.Primitive Element.octetStringTag content) extension.value ∧
    StartsWith (Timestamp.Block block) content ∧ Timestamp.Lists timestamps block
  ne_nil : timestamps ≠ []

/-- The number that an extension adds to the timestamps of its certificate. -/
inductive Counts (extension : Extension) : Nat → Prop where
  | list {timestamps : List Timestamp} : extension.Lists timestamps → Counts extension timestamps.length
  | other : (∀ timestamps, ¬extension.Lists timestamps) → Counts extension 0

variable {extension : Extension}

theorem lists_iff {timestamps : List Timestamp} :
    extension.Lists timestamps ↔ Certificate.timestampsOf extension = timestamps ∧ timestamps ≠ [] := by
  constructor
  · rintro ⟨id_eq, ⟨content, block, ⟨_, string⟩, ⟨_, framed⟩, lists⟩, ne_nil⟩
    refine ⟨?_, ne_nil⟩
    simp only [Certificate.timestampsOf, if_pos id_eq, Timestamp.ofExtensionValue,
      Element.readPrimitive?_eq_some_iff.mpr string, Timestamp.readBlock?_eq_some_iff.mpr framed,
      Timestamp.readAll_eq_iff.mpr lists]
  · rintro ⟨found, ne_nil⟩
    have not_nil : [] ≠ timestamps := ne_nil.symm
    rw [Certificate.timestampsOf] at found
    split at found
    next id_eq =>
      rw [Timestamp.ofExtensionValue] at found
      split at found
      · exact absurd found not_nil
      next content rest string =>
        split at found
        next block rest' framed =>
          exact ⟨id_eq, ⟨content, block, ⟨rest, Element.readPrimitive?_eq_some_iff.mp string⟩,
            ⟨rest', Timestamp.readBlock?_eq_some_iff.mp framed⟩, Timestamp.readAll_eq_iff.mp found⟩, ne_nil⟩
        · exact absurd found not_nil
    · exact absurd found not_nil

theorem counts_iff {count : Nat} : extension.Counts count ↔ (Certificate.timestampsOf extension).length = count := by
  constructor
  · rintro (lists | other)
    · rw [(lists_iff.mp lists).1]
    · by_contra some_found
      exact other _ (lists_iff.mpr ⟨rfl, fun none_found => some_found (congrArg List.length none_found)⟩)
  · rintro rfl
    by_cases found : Certificate.timestampsOf extension = []
    · rw [found]
      refine .other fun timestamps lists => ?_
      obtain ⟨same, ne_nil⟩ := lists_iff.mp lists
      exact ne_nil (same.symm.trans found)
    · exact .list (lists_iff.mpr ⟨rfl, found⟩)

end Extension

namespace Certificate

/-- The number of timestamps in a certificate: the sum of what its extensions count. -/
def Counts (certificate : Certificate) (found : Nat) : Prop :=
  ∃ counts, List.Forall₂ Extension.Counts certificate.extensions counts ∧ counts.sum = found

/-- **A certificate carries as many timestamps as its extensions add up to.** -/
theorem counts_iff {certificate : Certificate} {found : Nat} :
    certificate.Counts found ↔ certificate.timestamps.length = found := by
  have same : Extension.Counts = fun extension count => (timestampsOf extension).length = count := by
    funext extension count
    exact propext Extension.counts_iff
  have each (counts : List Nat) : List.Forall₂ Extension.Counts certificate.extensions counts ↔
      certificate.extensions.map (fun extension => (timestampsOf extension).length) = counts := by
    rw [same, ← List.forall₂_map_left_iff, List.forall₂_eq_eq_eq]
  simp only [Counts, each, exists_eq_left', timestamps, List.length_flatMap]

end Certificate

end Transparency
