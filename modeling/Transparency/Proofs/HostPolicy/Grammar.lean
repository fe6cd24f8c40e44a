import Transparency.Error
import Transparency.Proofs.HostPolicy.Matching

/-!
# The grammar of patterns

A pattern is a name, or `*.` and a name. A name is one label or more with dots between them, and a label is one character
or more, none of them a dot or a star. `HostPattern.fault?` takes no text apart: it looks for an empty name, for a star,
for dots at the ends of the name and for dots side by side. All of this together comes to the grammar
(`HostPattern.fault?_eq_none_iff`), and the fault says how the grammar is broken (`HostPattern.fault?_eq_some_iff`).

So a policy without a fault has patterns of the grammar only, and the first fault of another is that of its first
pattern outside the grammar. Every pattern of the grammar matches some host, one that is made of labels itself
(`HostPattern.IsPattern.exists_host`).
-/

namespace Transparency

/-! ## Labels of a text -/

/-- Splitting at dots loses the dots only. -/
theorem mem_iff_mem_splitOn {c : Char} (other : c ≠ '.') (text : List Char) :
    c ∈ text ↔ ∃ label ∈ text.splitOn '.', c ∈ label := by
  induction text with
  | nil => simp
  | cons d rest ih =>
    rw [List.mem_cons, ih, List.splitOn_cons_eq_if_modifyHead]
    by_cases dot : d = '.'
    · subst dot
      simp [other]
    · -- the first character belongs to the first label
      obtain ⟨first, more, split⟩ := List.exists_cons_of_ne_nil (List.splitOn_ne_nil '.' rest)
      rw [if_neg (by simpa using dot), split]
      simp [or_assoc]

theorem undotted_of_mem_splitOn {text : List Char} : ∀ label ∈ text.splitOn '.', '.' ∉ label := by
  induction text with
  | nil => simp
  | cons c rest ih =>
    rw [List.splitOn_cons_eq_if_modifyHead]
    by_cases dot : c = '.'
    · subst dot
      simpa using ih
    · obtain ⟨first, more, split⟩ := List.exists_cons_of_ne_nil (List.splitOn_ne_nil '.' rest)
      rw [split] at ih
      rw [if_neg (by simpa using dot), split]
      simpa [Ne.symm dot] using ih

namespace HostPattern

theorem hasDoubleDot_cons (c : Char) (rest : List Char) :
    hasDoubleDot (c :: rest) = true ↔ (c = '.' ∧ rest.head? = some '.') ∨ hasDoubleDot rest = true := by
  rcases rest with _ | ⟨d, rest⟩
  · simp [hasDoubleDot]
  · by_cases dots : c = '.' ∧ d = '.'
    · obtain ⟨rfl, rfl⟩ := dots
      simp [hasDoubleDot]
    · have alone : hasDoubleDot (c :: d :: rest) = hasDoubleDot (d :: rest) := by
        rw [hasDoubleDot]
        rintro _ rfl spelled
        exact dots ⟨rfl, (List.cons.inj spelled).1⟩
      rw [alone]
      simp [dots]

/-- The first label is empty exactly if there is nothing in front of the first dot. -/
theorem head?_splitOn_eq_nil_iff (text : List Char) :
    (text.splitOn '.').head? = some [] ↔ text = [] ∨ text.head? = some '.' := by
  rcases text with _ | ⟨c, rest⟩
  · simp
  · obtain ⟨first, more, split⟩ := List.exists_cons_of_ne_nil (List.splitOn_ne_nil '.' rest)
    rw [List.splitOn_cons_eq_if_modifyHead, split]
    by_cases dot : c = '.' <;> simp [dot]

/-- A label behind the first is empty exactly if the text ends in a dot or two dots stand side by side. -/
theorem nil_mem_tail_splitOn_iff (text : List Char) :
    [] ∈ (text.splitOn '.').tail ↔ text.getLast? = some '.' ∨ hasDoubleDot text = true := by
  induction text with
  | nil => simp [hasDoubleDot]
  | cons c rest ih =>
    obtain ⟨first, more, split⟩ := List.exists_cons_of_ne_nil (List.splitOn_ne_nil '.' rest)
    have first_empty := head?_splitOn_eq_nil_iff rest
    rw [List.splitOn_cons_eq_if_modifyHead, hasDoubleDot_cons]
    rw [split] at ih first_empty ⊢
    rw [List.tail_cons] at ih
    rw [List.head?_cons, Option.some.injEq] at first_empty
    by_cases dot : c = '.'
    · -- behind a dot all labels of the rest count, the first of them too
      rw [if_pos (by simpa using dot), List.tail_cons, List.mem_cons, @eq_comm _ [] first, first_empty, ih]
      rcases rest with _ | ⟨d, rest⟩
      · simp [dot]
      · simp [dot, or_left_comm]
    · rw [if_neg (by simpa using dot), List.modifyHead_cons, List.tail_cons, ih]
      rcases rest with _ | ⟨d, rest⟩
      · simp [dot]
      · simp [dot]

/-- Some label is empty exactly if there is nothing at all, or a dot has no label on one of its sides. -/
theorem nil_mem_splitOn_iff (text : List Char) :
    [] ∈ text.splitOn '.' ↔
      text = [] ∨ text.head? = some '.' ∨ text.getLast? = some '.' ∨ hasDoubleDot text = true := by
  obtain ⟨first, more, split⟩ := List.exists_cons_of_ne_nil (List.splitOn_ne_nil '.' text)
  have first_empty := head?_splitOn_eq_nil_iff text
  have others := nil_mem_tail_splitOn_iff text
  rw [split] at first_empty others ⊢
  rw [List.head?_cons, Option.some.injEq] at first_empty
  rw [List.tail_cons] at others
  rw [List.mem_cons, @eq_comm _ [] first, first_empty, others, or_assoc]

/-! ## The grammar -/

/-- One character or more, none of them a dot or a star. -/
structure IsLabel (label : List Char) : Prop where
  ne_nil : label ≠ []
  undotted : '.' ∉ label
  unstarred : '*' ∉ label

/-- One label, or more with dots between them. -/
inductive IsName : List Char → Prop where
  | one {label : List Char} (isLabel : IsLabel label) : IsName label
  | more {label rest : List Char} (isLabel : IsLabel label) (isName : IsName rest) : IsName (label ++ '.' :: rest)

/-- A name, or a name below a wildcard. -/
inductive IsPattern : List Char → Prop where
  | exact {name : List Char} (isName : IsName name) : IsPattern name
  | wildcard {name : List Char} (isName : IsName name) : IsPattern ('*' :: '.' :: name)

theorem IsName.splitOn {text : List Char} (isName : IsName text) : ∀ label ∈ text.splitOn '.', IsLabel label := by
  induction isName with
  | @one label isLabel =>
    intro other mem
    rw [List.splitOn_eq_singleton isLabel.undotted] at mem
    obtain rfl := List.mem_singleton.mp mem
    exact isLabel
  | @more label rest isLabel _ ih =>
    intro other mem
    rw [List.splitOn_append_cons_self_of_not_mem isLabel.undotted] at mem
    rcases List.mem_cons.mp mem with rfl | mem
    · exact isLabel
    · exact ih other mem

theorem isName_intercalate {labels : List (List Char)} (some_label : labels ≠ [])
    (isLabel : ∀ label ∈ labels, IsLabel label) : IsName (['.'].intercalate labels) := by
  induction labels with
  | nil => exact absurd rfl some_label
  | cons label rest ih =>
    have first : IsLabel label := isLabel label List.mem_cons_self
    rcases rest with _ | ⟨next, rest⟩
    · rw [List.intercalate_singleton]
      exact .one first
    · have others := ih (List.cons_ne_nil next rest) fun other mem => isLabel other (List.mem_cons_of_mem _ mem)
      rw [List.intercalate_cons_of_ne_nil (List.cons_ne_nil next rest), List.append_assoc]
      exact .more first others

/-- The texts of the grammar are those in which no label is empty and no star stands. -/
theorem isName_iff (text : List Char) : IsName text ↔ [] ∉ text.splitOn '.' ∧ '*' ∉ text := by
  constructor
  · intro isName
    refine ⟨fun mem => (isName.splitOn [] mem).ne_nil rfl, fun star => ?_⟩
    obtain ⟨label, mem, star⟩ := (mem_iff_mem_splitOn (by decide) text).mp star
    exact (isName.splitOn label mem).unstarred star
  · rintro ⟨filled, unstarred⟩
    have joined : ['.'].intercalate (text.splitOn '.') = text := List.intercalate_splitOn '.'
    rw [← joined]
    refine isName_intercalate (List.splitOn_ne_nil '.' text) fun label mem => ⟨?_, ?_, fun star => ?_⟩
    · rintro rfl
      exact filled mem
    · exact undotted_of_mem_splitOn label mem
    · exact unstarred ((mem_iff_mem_splitOn (by decide) text).mpr ⟨label, mem, star⟩)

theorem isPattern_iff (pattern : List Char) : IsPattern pattern ↔ IsName (name pattern) := by
  rw [name]
  rcases wild : wildcardName? pattern with _ | below
  · constructor
    · rintro (isName | isName)
      · exact isName
      · cases wild
    · exact .exact
  · rw [wildcardName?_eq_some_iff] at wild
    subst wild
    constructor
    · rintro (isName | isName)
      · exact absurd List.mem_cons_self ((isName_iff _).mp isName).2
      · exact isName
    · exact .wildcard

/-! ## Faults -/

/-- How a name breaks the grammar. -/
inductive Flaw (name : List Char) : PatternFault → Prop where
  /-- it has no label -/
  | emptyName (nothing : name = []) : Flaw name .emptyName
  /-- a star stands in it -/
  | misplacedWildcard (star : '*' ∈ name) : Flaw name .misplacedWildcard
  /-- it has labels and no star, and one of the labels is empty -/
  | emptyLabel (something : name ≠ []) (unstarred : '*' ∉ name) (empty : [] ∈ name.splitOn '.') : Flaw name .emptyLabel

/-- What is looked for is an empty name, a star, and an empty label, in this order. -/
theorem fault?_eq (pattern : String) :
    fault? pattern =
      if name pattern.toList = [] then some .emptyName
      else if '*' ∈ name pattern.toList then some .misplacedWildcard
      else if [] ∈ (name pattern.toList).splitOn '.' then some .emptyLabel else none := by
  rw [fault?]
  split
  next => rfl
  next something => simp only [nil_mem_splitOn_iff, something, false_or]

theorem fault?_eq_some_iff {pattern : String} {fault : PatternFault} :
    fault? pattern = some fault ↔ Flaw (name pattern.toList) fault := by
  rw [fault?_eq]
  constructor
  · intro found
    split at found
    next nothing =>
      obtain rfl := Option.some.inj found
      exact .emptyName nothing
    next something =>
      split at found
      next star =>
        obtain rfl := Option.some.inj found
        exact .misplacedWildcard star
      next unstarred =>
        split at found
        next empty =>
          obtain rfl := Option.some.inj found
          exact .emptyLabel something unstarred empty
        next => cases found
  · intro flaw
    cases flaw with
    | emptyName nothing => rw [if_pos nothing]
    | misplacedWildcard star => rw [if_neg (List.ne_nil_of_mem star), if_pos star]
    | emptyLabel something unstarred empty => rw [if_neg something, if_neg unstarred, if_pos empty]

/-- **The patterns without a fault are those of the grammar.** -/
theorem fault?_eq_none_iff {pattern : String} : fault? pattern = none ↔ IsPattern pattern.toList := by
  rw [fault?_eq, isPattern_iff, isName_iff]
  split
  next nothing => simp [nothing]
  next =>
    split
    next star => simp [star]
    next unstarred => simp [unstarred]

/-! ## Patterns match -/

/-- Where no label is empty there is no dot at the end. -/
theorem withoutFinalDots_eq_self {text : List Char} (filled : [] ∉ text.splitOn '.') :
    withoutFinalDots text = text := by
  rw [withoutFinalDots, List.rdropWhile_eq_self_iff]
  intro something last
  refine filled ((nil_mem_splitOn_iff text).mpr (.inr (.inr (.inl ?_))))
  rw [List.getLast?_eq_some_getLast something, of_decide_eq_true last]

theorem nil_mem_labels_iff (text : List Char) : [] ∈ labels text ↔ [] ∈ text.splitOn '.' := by
  simp [labels, lower]

/-- **Every pattern of the grammar matches some host**, one that is made of labels. -/
theorem IsPattern.exists_host {pattern : String} (isPattern : IsPattern pattern.toList) :
    ∃ host : String, [] ∉ labels (withoutFinalDots host.toList) ∧ names pattern (normalizedHost host) = true := by
  -- an exact pattern matches its name, and a wildcard matches one more label in front of the name
  have matching : ∃ text, [] ∉ text.splitOn '.' ∧ Denotes pattern.toList (labels text) := by
    have isName := (isPattern_iff pattern.toList).mp isPattern
    rw [name] at isName
    rcases wild : wildcardName? pattern.toList with _ | below <;> rw [wild] at isName
    · exact ⟨pattern.toList, ((isName_iff _).mp isName).1, (denotes_of_none wild _).mpr rfl⟩
    · have filled : [] ∉ below.splitOn '.' := ((isName_iff below).mp isName).1
      have split : ('x' :: '.' :: below).splitOn '.' = ['x'] :: below.splitOn '.' :=
        List.splitOn_append_cons_self_of_not_mem (by decide : '.' ∉ ['x']) below
      have labels_eq : labels ('x' :: '.' :: below) = ['x'] :: labels below := by
        rw [labels, split]
        rfl
      refine ⟨'x' :: '.' :: below, ?_, ?_⟩
      · rw [split]
        simpa using filled
      · rw [wildcardName?_eq_some_iff.mp wild, Denotes, labels_eq]
        exact ⟨List.suffix_cons _ _, (List.cons_ne_self _ _).symm⟩
  obtain ⟨text, filled, denotes⟩ := matching
  have labelled : [] ∉ labels text := mt (nil_mem_labels_iff text).mp filled
  have kept : withoutFinalDots text = text := withoutFinalDots_eq_self filled
  refine ⟨String.ofList text, ?_, ?_⟩
  · rw [String.toList_ofList, kept]
    exact labelled
  · rw [normalizedHost_eq, String.toList_ofList, kept]
    exact (names_iff labelled).mpr denotes

end HostPattern

namespace HostPolicy

open HostPattern

variable {policy : HostPolicy} {pattern : String} {fault : PatternFault}

/-- The patterns of a policy, in the order in which they are looked at. -/
def patterns (policy : HostPolicy) : List String := policy.includeHosts ++ policy.excludeHosts

/-- Every pattern belongs to the grammar. -/
def InGrammar (policy : HostPolicy) : Prop := ∀ pattern ∈ policy.patterns, IsPattern pattern.toList

/-- The first pattern that does not belong to the grammar. -/
def FirstOutside (policy : HostPolicy) (pattern : String) : Prop :=
  ∃ before after, policy.patterns = before ++ pattern :: after ∧ (∀ other ∈ before, IsPattern other.toList) ∧
    ¬IsPattern pattern.toList

theorem firstFault?_eq_none_iff : policy.firstFault? = none ↔ policy.InGrammar := by
  simp only [firstFault?, List.findSome?_eq_none_iff, Option.map_eq_none_iff, fault?_eq_none_iff, InGrammar, patterns]

theorem firstFault?_eq_some_iff :
    policy.firstFault? = some (pattern, fault) ↔
      policy.FirstOutside pattern ∧ Flaw (name pattern.toList) fault := by
  simp only [firstFault?, List.findSome?_eq_some_iff, Option.map_eq_none_iff, fault?_eq_none_iff,
    Option.map_eq_some_iff, fault?_eq_some_iff]
  constructor
  · rintro ⟨before, _, after, split, ⟨_, flaw, ⟨⟩⟩, isPattern⟩
    refine ⟨⟨before, after, split, isPattern, fun inside => ?_⟩, flaw⟩
    have found := fault?_eq_some_iff.mpr flaw
    rw [fault?_eq_none_iff.mpr inside] at found
    cases found
  · rintro ⟨⟨before, after, split, isPattern, -⟩, flaw⟩
    exact ⟨before, pattern, after, split, ⟨fault, flaw, rfl⟩, isPattern⟩

end HostPolicy

end Transparency
