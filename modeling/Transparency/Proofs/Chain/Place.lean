import Mathlib
import Transparency.Proofs.Chain.Order

/-!
# Where an interceptor is put in

An interceptor that is put in by priority wants a place that sets the chain *apart*: in front of it all those of its
own priority or a higher one, behind it all those of a lower one. There is at most one such place, and it is found
wherever it exists. It need not exist: whoever puts interceptors at the end minds no priorities, so one of a high
priority may stand behind one of a low one, and then nothing can go between them (`Lineup.no_place_for_another`).

What holds of every chain is that the place is in front of the first entry of a lower priority
(`Chain.lands_before_first_lower`). As long as interceptors that go to the end have no higher priority than those that
are there, the chain stands by priority and every place sets it apart (`Chain.sorted_made`).
-/

namespace Transparency

namespace Chain

variable {σ τ : Type} {chain front back : Chain σ} {entry : Entry σ} {priority : Int}

/-! ## Chains in the making -/

/-- The chain that a history of edits has made of the empty chain, the latest edit first. -/
def made : List (Edit σ) → Chain σ
  | [] => []
  | edit :: earlier => edit.apply (made earlier)

/-- Whatever was put at the end had no higher priority than any that was there. -/
def Queues : List (Edit σ) → Prop
  | [] => True
  | .addShared entry :: earlier => (∀ other ∈ made earlier, entry.priority ≤ other.priority) ∧ Queues earlier
  | _ :: earlier => Queues earlier

theorem removeAll_sublist (test : τ → Entry σ → Bool × τ) (t : τ) (chain : Chain σ) :
    (removeAll test t chain).Sublist chain := by
  induction chain generalizing t with
  | nil => exact .slnil
  | cons head rest ih =>
    rw [removeAll]
    split
    · exact (ih _).cons head
    · exact (ih _).cons_cons head

theorem sorted_addShared (sorted : chain.Sorted) (last : ∀ other ∈ chain, entry.priority ≤ other.priority) :
    (chain.addShared entry).Sorted := by
  refine List.pairwise_append.mpr ⟨sorted, List.pairwise_singleton _ _, fun other mem later there => ?_⟩
  rw [List.mem_singleton.mp there]
  exact last other mem

/-- A chain whose interceptors queue stands by priority. -/
theorem sorted_made : ∀ (history : List (Edit σ)), Queues history → (made history).Sorted
  | [], _ => List.Pairwise.nil
  | .add entry :: earlier, queues => sorted_add (sorted_made earlier queues) entry
  | .addShared _ :: earlier, ⟨last, queues⟩ => sorted_addShared (sorted_made earlier queues) last
  | .removeSame _ :: earlier, queues =>
    List.Pairwise.sublist (removeAll_sublist _ _ _) (sorted_made earlier queues)
  | .removeAll test t :: earlier, queues =>
    List.Pairwise.sublist (removeAll_sublist test t _) (sorted_made earlier queues)

/-! ## Places -/

/-- A place in a chain, by what is in front of it and what is behind it, that divides the priorities. -/
structure SetsApart (priority : Int) (front back : Chain σ) : Prop where
  /-- in front of it are those of the priority or a higher one -/
  front : ∀ other ∈ front, priority ≤ other.priority
  /-- behind it are those of a lower one -/
  back : ∀ other ∈ back, other.priority < priority

/-- An interceptor is put in front of the first entry of a lower priority. -/
theorem exists_of_add (chain : Chain σ) (entry : Entry σ) :
    ∃ front back, chain = front ++ back ∧ chain.add entry = front ++ entry :: back ∧
      (∀ other ∈ front, entry.priority ≤ other.priority) ∧
      ∀ next, back.head? = some next → next.priority < entry.priority := by
  refine ⟨chain.takeWhile (staysBefore entry.priority), chain.dropWhile (staysBefore entry.priority),
    List.takeWhile_append_dropWhile.symm, rfl, fun other mem => ?_, fun next first => ?_⟩
  · have stays : staysBefore entry.priority other = true := List.mem_takeWhile_imp mem
    exact of_decide_eq_true stays
  · have stops := List.head?_dropWhile_not (staysBefore entry.priority) chain
    rw [first] at stops
    exact Int.not_le.mp (of_decide_eq_false stops)

/-- A place in front of the first entry of a lower priority is the only one that may divide the priorities. -/
theorem SetsApart.unique {front' back' : Chain σ} (apart : SetsApart priority front' back')
    (stays : ∀ other ∈ front, priority ≤ other.priority)
    (stops : ∀ next, back.head? = some next → next.priority < priority) (same : front' ++ back' = front ++ back) :
    front' = front ∧ back' = back := by
  -- were one of the two places further on, the entry between them would be both lower and not
  obtain ⟨between, rfl, rfl⟩ | ⟨between, rfl, rfl⟩ := List.append_eq_append_iff.mp same
  · rcases between with _ | ⟨other, rest⟩
    · exact ⟨(List.append_nil front').symm, rfl⟩
    · have lower := apart.back other List.mem_cons_self
      have higher := stays other (List.mem_append_right front' List.mem_cons_self)
      omega
  · rcases between with _ | ⟨other, rest⟩
    · exact ⟨List.append_nil front, rfl⟩
    · have higher := apart.front other (List.mem_append_right front List.mem_cons_self)
      have lower := stops other rfl
      omega

/-- Behind the first entry of a lower priority there are only such, if none of another stands behind such a one. -/
theorem forall_lt_iff (stays : ∀ other ∈ front, priority ≤ other.priority)
    (stops : ∀ next, back.head? = some next → next.priority < priority) :
    (∀ other ∈ back, other.priority < priority) ↔
      (front ++ back).Pairwise fun other later => priority ≤ later.priority → priority ≤ other.priority := by
  rw [List.pairwise_append]
  constructor
  · intro lower
    refine ⟨List.pairwise_of_forall_mem_list fun other mem _ _ _ => stays other mem, ?_,
      fun other mem _ _ _ => stays other mem⟩
    refine List.pairwise_of_forall_mem_list fun _ _ later mem higher => ?_
    have := lower later mem
    omega
  · rintro ⟨-, ordered, -⟩ other mem
    rcases back with _ | ⟨next, rest⟩
    · cases mem
    · have first := stops next rfl
      rcases List.mem_cons.mp mem with rfl | mem
      · exact first
      · by_contra high
        have := (List.pairwise_cons.mp ordered).1 other mem (Int.not_lt.mp high)
        omega

/-- **An interceptor goes in front of the first entry of a lower priority.** In every chain that edits can make, those
in front of it have its priority or a higher one, and the next behind it, if there is one, a lower one. The others stay
as they are. All of its own priority or a higher one are in front of it exactly if none of them stands behind an entry
of a lower priority; wherever a place sets the chain apart, it is this one; and in a chain whose interceptors queue it
always does. -/
theorem lands_before_first_lower (history : List (Edit σ)) (entry : Entry σ) :
    ∃ front back, made history = front ++ back ∧ (made history).add entry = front ++ entry :: back ∧
      (∀ other ∈ front, entry.priority ≤ other.priority) ∧
      (∀ next, back.head? = some next → next.priority < entry.priority) ∧
      (SetsApart entry.priority front back ↔
        (made history).Pairwise fun other later =>
          entry.priority ≤ later.priority → entry.priority ≤ other.priority) ∧
      (∀ front' back', made history = front' ++ back' → SetsApart entry.priority front' back' →
        front' = front ∧ back' = back) ∧
      (Queues history → SetsApart entry.priority front back) := by
  obtain ⟨front, back, split, added, stays, stops⟩ := exists_of_add (made history) entry
  have apart_iff := forall_lt_iff stays stops
  rw [← split] at apart_iff
  have apart_iff : SetsApart entry.priority front back ↔ _ := Iff.trans ⟨(·.back), (⟨stays, ·⟩)⟩ apart_iff
  refine ⟨front, back, split, added, stays, stops, apart_iff, fun front' back' split' apart => ?_, fun queues => ?_⟩
  · exact apart.unique stays stops (split'.symm.trans split)
  · exact apart_iff.mpr ((sorted_made history queues).imp fun le higher => Int.le_trans higher le)

end Chain

namespace Lineup

/-- A logger, which has a low priority. -/
def logger : Entry (List Note) := { ({} : RequestLogger).toInterceptor with handle := ⟨"logger"⟩ }

/-- An interceptor of the usual priority. -/
def usher (label : String) : Entry (List Note) where
  handle := ⟨label⟩

/-- The logger goes to the end, behind an interceptor of the usual priority. -/
def inOrder : List (Edit (List Note)) := [.addShared logger, .add (usher "first")]

/-- An interceptor of the usual priority goes to the end, behind the logger. -/
def outOfOrder : List (Edit (List Note)) := [.addShared (usher "first"), .add logger]

theorem queues_inOrder : Chain.Queues inOrder := by
  refine ⟨fun other mem => ?_, trivial⟩
  obtain rfl : other = usher "first" := List.mem_singleton.mp mem
  decide

/-- Another interceptor of the usual priority goes between the first one and the logger. -/
theorem second_follows_first :
    Chain.Queues inOrder ∧ Chain.SetsApart 0 [usher "first"] [logger] ∧
      (Chain.made inOrder).add (usher "second") = [usher "first", usher "second", logger] := by
  obtain ⟨front, back, split, added, -, -, -, found, apart⟩ :=
    Chain.lands_before_first_lower inOrder (usher "second")
  have between : Chain.SetsApart (usher "second").priority [usher "first"] [logger] := by
    constructor <;> intro other mem <;> rw [List.mem_singleton.mp mem] <;> decide
  obtain ⟨rfl, rfl⟩ := found _ _ rfl between
  exact ⟨queues_inOrder, apart queues_inOrder, added⟩

/-- If the first one stands behind the logger, no place is both in front of the logger and behind the first one. -/
theorem no_place_for_another :
    ¬∀ (history : List (Edit (List Note))) (entry : Entry (List Note)), ∃ front back,
      Chain.made history = front ++ back ∧ (Chain.made history).add entry = front ++ entry :: back ∧
        Chain.SetsApart entry.priority front back := by
  intro everywhere
  obtain ⟨front, back, split, -, apart⟩ := everywhere outOfOrder (usher "second")
  have stands : Chain.made outOfOrder = [logger, usher "first"] := rfl
  rw [stands] at split
  rcases front with _ | ⟨head, front⟩
  · -- at the front the first one is behind it
    obtain rfl : [logger, usher "first"] = back := split
    have lower := apart.back (usher "first") (List.mem_cons_of_mem _ List.mem_cons_self)
    exact absurd lower (by decide)
  · -- anywhere else the logger is in front of it
    obtain ⟨rfl, -⟩ := List.cons.inj split
    have higher := apart.front logger List.mem_cons_self
    exact absurd higher (by decide)

end Lineup

end Transparency
