import Mathlib
import Transparency.HostPolicy

/-!
# Matching by labels

The names of hosts are made of *labels* with dots between them, and what a pattern says is about whole labels: an exact
pattern names the host that has its labels, and a pattern `*.d` names the hosts whose last labels are those of `d` and
which have others before them. `HostPolicy.covers` never takes names apart; it looks for dots and for the ends of texts.
For every host that is made of labels this comes to the same (`HostPolicy.covers_by_labels`): a pattern never matches
within a label, and none that is malformed matches more than it says.

Labels are compared without regard to ASCII case. This, and that dots at the end of a host do not count, holds of
every host, be it made of labels or not; and of each list of patterns only matters which patterns there are.
-/

namespace Transparency

/-! ## Lower case -/

/-- A character in front of all letters is the lower case of itself only. -/
theorem toLower_eq_iff {c d : Char} (uncased : d.toNat < 65) : c.toLower = d ↔ c = d := by
  unfold Char.toLower
  split
  next upper =>
    have bounds : 65 ≤ c.toNat ∧ c.toNat ≤ 90 := upper
    refine iff_of_false (fun same => ?_) fun same => ?_
    · have same := congrArg Char.toNat same
      simp only [Char.toNat, UInt32.toNat_add] at same bounds uncased
      change (c.val.toNat + 32) % 4294967296 = _ at same
      omega
    · rw [same] at bounds
      omega
  next => exact Iff.rfl

/-- Text in lower case. -/
def lower (text : List Char) : List Char := text.map Char.toLower

/-- Lower case leaves the dots where they are. -/
theorem splitOn_lower (text : List Char) : (lower text).splitOn '.' = (text.splitOn '.').map lower := by
  induction text with
  | nil => rfl
  | cons c rest ih =>
    rw [lower, List.map_cons, List.splitOn_cons_eq_if_modifyHead, List.splitOn_cons_eq_if_modifyHead, ← lower, ih]
    by_cases dot : c = '.'
    · subst dot
      rfl
    · have still : c.toLower ≠ '.' := fun same => dot ((toLower_eq_iff (by decide)).mp same)
      simp only [beq_iff_eq, dot, still, if_false]
      cases rest.splitOn '.' <;> rfl

/-- The text without the dots at its end. -/
def withoutFinalDots (text : List Char) : List Char := text.rdropWhile (· = '.')

theorem normalizedHost_eq (host : String) : normalizedHost host = lower (withoutFinalDots host.toList) := rfl

theorem withoutFinalDots_lower (text : List Char) : withoutFinalDots (lower text) = lower (withoutFinalDots text) := by
  have same : ((fun c => decide (c = '.')) ∘ Char.toLower) = fun c => decide (c = '.') := by
    funext c
    exact decide_eq_decide.mpr (toLower_eq_iff (by decide))
  simp only [withoutFinalDots, List.rdropWhile, lower, ← List.map_reverse, List.dropWhile_map, same]

theorem withoutFinalDots_append_dots (text : List Char) (count : Nat) :
    withoutFinalDots (text ++ List.replicate count '.') = withoutFinalDots text := by
  rw [withoutFinalDots, withoutFinalDots, List.rdropWhile, List.rdropWhile, List.reverse_append, List.reverse_replicate,
    List.dropWhile_append_of_pos]
  intro c mem
  exact decide_eq_true (List.eq_of_mem_replicate mem)

/-! ## Labels -/

/-- The labels of a name, in lower case. -/
def labels (name : List Char) : List (List Char) := (name.splitOn '.').map lower

theorem labels_eq (name : List Char) : labels name = (lower name).splitOn '.' := (splitOn_lower name).symm

theorem splitOn_injective : Function.Injective (List.splitOn '.') :=
  Function.LeftInverse.injective fun _ => List.intercalate_splitOn '.'

theorem labels_eq_labels_iff {name other : List Char} : labels name = labels other ↔ lower name = lower other := by
  rw [labels_eq, labels_eq]
  exact splitOn_injective.eq_iff

theorem intercalate_append {front back : List (List Char)} (some_front : front ≠ []) (some_back : back ≠ []) :
    ['.'].intercalate (front ++ back) = ['.'].intercalate front ++ '.' :: ['.'].intercalate back := by
  induction front with
  | nil => exact absurd rfl some_front
  | cons label rest ih =>
    rw [List.cons_append, List.intercalate_cons_of_ne_nil (List.append_ne_nil_of_right_ne_nil rest some_back)]
    rcases rest with _ | ⟨next, rest⟩
    · simp
    · rw [List.intercalate_cons_of_ne_nil (List.cons_ne_nil next rest), ih (List.cons_ne_nil next rest)]
      simp

/-- Where the last labels of a name are those of another, the name ends in a dot and the other. -/
theorem exists_of_suffix {host name : List Char} (last : name.splitOn '.' <:+ host.splitOn '.')
    (proper : name.splitOn '.' ≠ host.splitOn '.') : ∃ front, host = front ++ '.' :: name := by
  obtain ⟨front, split⟩ := last
  have some_front : front ≠ [] := by
    rintro rfl
    exact proper split
  refine ⟨['.'].intercalate front, ?_⟩
  calc host
    _ = ['.'].intercalate (host.splitOn '.') := (List.intercalate_splitOn '.').symm
    _ = ['.'].intercalate front ++ '.' :: ['.'].intercalate (name.splitOn '.') := by
      rw [← split, intercalate_append some_front (List.splitOn_ne_nil '.' name)]
    _ = ['.'].intercalate front ++ '.' :: name := by rw [List.intercalate_splitOn]

/-! ## One pattern -/

namespace HostPattern

/-- What a pattern says of the labels of a host. -/
def Denotes : (pattern : List Char) → (host : List (List Char)) → Prop
  | '*' :: '.' :: name, host => labels name <:+ host ∧ labels name ≠ host
  | name, host => labels name = host

theorem isBelow_iff {host name : List Char} :
    isBelow host name = true ↔ ∃ front, front ≠ [] ∧ host = front ++ '.' :: name := by
  simp only [isBelow, Bool.and_eq_true, decide_eq_true_eq]
  constructor
  · rintro ⟨⟨long, ends⟩, dot⟩
    obtain ⟨front, taken⟩ := List.getLast?_eq_some_iff.mp dot
    refine ⟨front, ?_, ?_⟩
    · rintro rfl
      have length_eq := congrArg List.length taken
      simp only [List.length_take, List.nil_append, List.length_singleton] at length_eq
      omega
    · rw [← List.take_append_drop (host.length - name.length) host, ends, taken, List.append_assoc]
      rfl
  · rintro ⟨front, some_front, rfl⟩
    have length_eq : (front ++ '.' :: name).length - name.length = (front ++ ['.']).length := by
      simp
      omega
    have split : front ++ '.' :: name = (front ++ ['.']) ++ name := by simp
    have positive := List.length_pos_iff.mpr some_front
    refine ⟨⟨?_, ?_⟩, ?_⟩
    · simp
      omega
    · rw [length_eq, split, List.drop_left]
    · rw [length_eq, split, List.take_left, List.getLast?_concat]

/-- Behind a wildcard, whole labels match, and at least one has to be left for the wildcard. -/
theorem isBelow_iff_labels {host name : List Char} (labelled : [] ∉ labels host) :
    isBelow (lower host) (lower name) = true ↔ labels name <:+ labels host ∧ labels name ≠ labels host := by
  rw [isBelow_iff, labels_eq, labels_eq]
  rw [labels_eq] at labelled
  constructor
  · rintro ⟨front, -, split⟩
    rw [split, List.splitOn_append_cons_self]
    refine ⟨List.suffix_append _ _, fun same => List.splitOn_ne_nil '.' front ?_⟩
    exact List.self_eq_append_left.mp same
  · rintro ⟨last, proper⟩
    obtain ⟨front, split⟩ := exists_of_suffix last proper
    refine ⟨front, ?_, split⟩
    rintro rfl
    rw [split] at labelled
    exact labelled (by simp [List.splitOn_cons_eq_if_modifyHead])

theorem wildcardName?_eq_some_iff {pattern name : List Char} :
    wildcardName? pattern = some name ↔ pattern = '*' :: '.' :: name := by
  unfold wildcardName?
  split
  next => simp
  next plain =>
    refine iff_of_false nofun ?_
    rintro rfl
    exact plain name rfl

/-- A pattern without a wildcard says one host. -/
theorem denotes_of_none {pattern : List Char} (plain : wildcardName? pattern = none) (host : List (List Char)) :
    Denotes pattern host ↔ labels pattern = host := by
  rw [Denotes]
  rintro name spelled
  rw [wildcardName?_eq_some_iff.mpr spelled] at plain
  cases plain

/-- A pattern has a wildcard in lower case exactly if it has one. -/
theorem wildcardName?_lower (pattern : List Char) :
    wildcardName? (lower pattern) = (wildcardName? pattern).map lower := by
  ext name
  rw [wildcardName?_eq_some_iff, Option.map_eq_some_iff]
  simp only [wildcardName?_eq_some_iff]
  constructor
  · intro spelled
    rcases pattern with _ | ⟨c, _ | ⟨d, rest⟩⟩
    · cases spelled
    · exact absurd (congrArg List.length spelled) (by simp [lower])
    · simp only [lower, List.map_cons, List.cons.injEq] at spelled
      obtain ⟨star, dot, spelled⟩ := spelled
      rw [toLower_eq_iff (by decide)] at star dot
      exact ⟨rest, by rw [star, dot], spelled⟩
  · rintro ⟨name, rfl, rfl⟩
    rfl

/-- What `names` decides depends on the lower case of the pattern only. -/
theorem names_eq (pattern : String) (host : List Char) :
    names pattern host =
      match (wildcardName? pattern.toList).map lower with
      | some name => isBelow host name
      | none => decide (host = lower pattern.toList) := by
  rw [← wildcardName?_lower]
  rfl

/-- A pattern names the hosts that it says by their labels. -/
theorem names_iff {pattern : String} {host : List Char} (labelled : [] ∉ labels host) :
    names pattern (lower host) = true ↔ Denotes pattern.toList (labels host) := by
  rw [names_eq]
  rcases wild : wildcardName? pattern.toList with _ | name
  · rw [denotes_of_none wild, labels_eq_labels_iff, Option.map_none, decide_eq_true_iff]
    exact eq_comm
  · rw [wildcardName?_eq_some_iff.mp wild]
    exact isBelow_iff_labels labelled

/-- The same patterns, but for their case, their order, and how often each of them is there. -/
def SamePatterns (patterns others : List String) : Prop :=
  ∀ text, text ∈ patterns.map (lower ·.toList) ↔ text ∈ others.map (lower ·.toList)

theorem names_congr {pattern other : String} (same : lower pattern.toList = lower other.toList) (host : List Char) :
    names pattern host = names other host := by
  rw [names_eq, names_eq, ← wildcardName?_lower, ← wildcardName?_lower, same]

theorem SamePatterns.symm {patterns others : List String} (same : SamePatterns patterns others) :
    SamePatterns others patterns := fun text => (same text).symm

theorem SamePatterns.exists {patterns others : List String} (same : SamePatterns patterns others) {pattern : String}
    (mem : pattern ∈ patterns) : ∃ other ∈ others, lower other.toList = lower pattern.toList :=
  List.mem_map.mp ((same _).mp (List.mem_map_of_mem mem))

theorem SamePatterns.any_names {patterns others : List String} (same : SamePatterns patterns others) {host : List Char}
    (named : patterns.any (names · host) = true) : others.any (names · host) = true := by
  obtain ⟨pattern, mem, named⟩ := List.any_eq_true.mp named
  obtain ⟨other, mem', same_text⟩ := same.exists mem
  exact List.any_eq_true.mpr ⟨other, mem', (names_congr same_text host).trans named⟩

theorem SamePatterns.any_eq {patterns others : List String} (same : SamePatterns patterns others) (host : List Char) :
    patterns.any (names · host) = others.any (names · host) :=
  Bool.eq_iff_iff.mpr ⟨same.any_names, same.symm.any_names⟩

theorem SamePatterns.isEmpty_eq {patterns others : List String} (same : SamePatterns patterns others) :
    patterns.isEmpty = others.isEmpty := by
  rw [Bool.eq_iff_iff, List.isEmpty_iff, List.isEmpty_iff]
  constructor
  · rintro rfl
    refine List.eq_nil_iff_forall_not_mem.mpr fun other mem => ?_
    obtain ⟨pattern, mem, -⟩ := same.symm.exists mem
    cases mem
  · rintro rfl
    refine List.eq_nil_iff_forall_not_mem.mpr fun pattern mem => ?_
    obtain ⟨other, mem, -⟩ := same.exists mem
    cases mem

end HostPattern

/-! ## Policies -/

namespace HostPolicy

open HostPattern

/-- What a policy says of the labels of a host: no exclude pattern says it, and some include pattern does, if there are
any. -/
def Covers (policy : HostPolicy) (host : List (List Char)) : Prop :=
  (∀ pattern ∈ policy.excludeHosts, ¬Denotes pattern.toList host) ∧
    (policy.includeHosts = [] ∨ ∃ pattern ∈ policy.includeHosts, Denotes pattern.toList host)

theorem any_names_iff (patterns : List String) {host : List Char} (labelled : [] ∉ labels host) :
    patterns.any (names · (lower host)) = true ↔ ∃ pattern ∈ patterns, Denotes pattern.toList (labels host) := by
  rw [List.any_eq_true]
  exact exists_congr fun pattern => and_congr_right fun _ => names_iff labelled

/-- The exclude patterns have the last word. -/
theorem covers_eq (policy : HostPolicy) (host : String) :
    policy.covers host =
      (!policy.excludeHosts.any (names · (normalizedHost host)) &&
        (policy.includeHosts.isEmpty || policy.includeHosts.any (names · (normalizedHost host)))) := by
  rw [covers]
  cases policy.excludeHosts.any (names · (normalizedHost host)) <;> rfl

theorem covers_eq_true_iff (policy : HostPolicy) {host : String}
    (labelled : [] ∉ labels (withoutFinalDots host.toList)) :
    policy.covers host = true ↔ policy.Covers (labels (withoutFinalDots host.toList)) := by
  have excluded := any_names_iff policy.excludeHosts labelled
  have included := any_names_iff policy.includeHosts labelled
  rw [covers_eq, normalizedHost_eq, Bool.and_eq_true, Bool.or_eq_true, List.isEmpty_iff, included, Bool.not_eq_true',
    ← Bool.not_eq_true, excluded, Covers]
  push Not
  exact Iff.rfl

/-- Only the lower case of the host counts, without the dots at its end, and only which patterns there are. -/
theorem covers_congr {policy other : HostPolicy} {host host' : String} {dots : Nat}
    (included : SamePatterns policy.includeHosts other.includeHosts)
    (excluded : SamePatterns policy.excludeHosts other.excludeHosts)
    (same : lower host'.toList = lower host.toList ++ List.replicate dots '.') :
    other.covers host' = policy.covers host := by
  have same_host : normalizedHost host' = normalizedHost host := by
    rw [normalizedHost_eq, normalizedHost_eq, ← withoutFinalDots_lower, ← withoutFinalDots_lower, same,
      withoutFinalDots_append_dots]
  rw [covers_eq, covers_eq, same_host, included.any_eq, excluded.any_eq, included.isEmpty_eq]

/-- **Patterns match whole labels.** A host that is made of labels, dots at its end apart, is covered exactly if the
policy says so of its labels; the policy need not even be valid. Whatever the host, the answer stays the same in other
case, with more dots at the end, and if the patterns of a list are written in other case, in another order, or more than
once. -/
theorem covers_by_labels (policy : HostPolicy) (host : String) :
    ([] ∉ labels (withoutFinalDots host.toList) →
      (policy.covers host = true ↔ policy.Covers (labels (withoutFinalDots host.toList)))) ∧
    ∀ (other : HostPolicy) (host' : String) (dots : Nat),
      SamePatterns policy.includeHosts other.includeHosts → SamePatterns policy.excludeHosts other.excludeHosts →
      lower host'.toList = lower host.toList ++ List.replicate dots '.' → other.covers host' = policy.covers host :=
  ⟨covers_eq_true_iff policy, fun _ _ _ => covers_congr⟩

end HostPolicy

namespace Directory

open HostPattern

/-- All hosts below a domain but one. -/
def policy : HostPolicy where
  includeHosts := ["*.example.com"]
  excludeHosts := ["legacy.example.com", "old.example.com"]

/-- The same, written in another way. -/
def rewritten : HostPolicy where
  includeHosts := ["*.Example.com", "*.example.COM"]
  excludeHosts := ["OLD.example.com", "Legacy.example.com"]

theorem samePatterns_included : SamePatterns policy.includeHosts rewritten.includeHosts := by
  intro text
  have same : rewritten.includeHosts.map (lower ·.toList) =
      policy.includeHosts.map (lower ·.toList) ++ policy.includeHosts.map (lower ·.toList) := by decide
  rw [same, List.mem_append, or_self]

theorem samePatterns_excluded : SamePatterns policy.excludeHosts rewritten.excludeHosts := by
  intro text
  have same : rewritten.excludeHosts.map (lower ·.toList) =
      (policy.excludeHosts.map (lower ·.toList)).reverse := by decide
  rw [same, List.mem_reverse]

/-- A host far below the domain is covered, and still is if everything is written in another way. -/
theorem deep_host_is_covered :
    policy.Covers (labels (withoutFinalDots "deep.Legacy.example.com.".toList)) ∧
      policy.covers "deep.Legacy.example.com." = true ∧ rewritten.covers "DEEP.legacy.example.com..." = true := by
  obtain ⟨by_labels, same⟩ := HostPolicy.covers_by_labels policy "deep.Legacy.example.com."
  have covered : policy.covers "deep.Legacy.example.com." = true := by decide
  refine ⟨(by_labels (by decide)).mp covered, covered, ?_⟩
  rw [same rewritten _ 2 samePatterns_included samePatterns_excluded (by decide), covered]

/-- Neither the domain itself is covered nor one whose name only ends in the same letters. -/
example : policy.covers "example.com" = false ∧ policy.covers "badexample.com" = false := by decide

end Directory

end Transparency
