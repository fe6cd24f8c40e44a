import Transparency.Proofs.Chain.Edit

/-!
# The order of a chain

Interceptors that are put in by priority stand by priority, and those of one priority in the order in which they came:
`Chain.sorted_add`, `Chain.filter_add`. An interceptor at the end of the chain may break that order, since it was not
put in by priority. But as long as no other of a higher priority than its own comes to stand behind it, it is in
nobody's way: an interceptor that is put in by priority finds the same neighbours as if that one were not there
(`Chain.removeSame_add`).

An edit is *orderly* if it puts interceptors in by priority only, and takes them out only for what they are.
-/

namespace Transparency

namespace Chain

variable {σ τ : Type} {chain : Chain σ} {entry : Entry σ} {handle : Handle}

/-- The entries stand by priority, the highest first. -/
def Sorted (chain : Chain σ) : Prop := chain.Pairwise fun entry later => later.priority ≤ entry.priority

/-- Behind a copy of the interceptor of a handle no other interceptor has a higher priority than it. -/
def NoneAbove (handle : Handle) (chain : Chain σ) : Prop :=
  chain.Pairwise fun entry later => entry.handle = handle → later.handle ≠ handle → later.priority ≤ entry.priority

/-! ### Putting in by priority -/

@[simp] theorem add_nil (entry : Entry σ) : add [] entry = [entry] := rfl

theorem add_cons (head : Entry σ) (rest : Chain σ) (entry : Entry σ) :
    add (head :: rest) entry =
      if entry.priority ≤ head.priority then head :: add rest entry else entry :: head :: rest := by
  rw [add, List.takeWhile_cons, List.dropWhile_cons, staysBefore]
  by_cases stays : entry.priority ≤ head.priority
  · simp only [stays, decide_true, if_true, List.cons_append]
    rfl
  · simp only [stays, decide_false, Bool.false_eq_true, if_false, List.nil_append]

/-- An interceptor comes first if all the others have lower priorities. -/
theorem add_of_forall_lt (below : ∀ other ∈ chain, other.priority < entry.priority) :
    chain.add entry = entry :: chain := by
  cases chain with
  | nil => rfl
  | cons head rest =>
    have lower : head.priority < entry.priority := below head List.mem_cons_self
    rw [add_cons, if_neg (by omega)]

theorem mem_add {other : Entry σ} : other ∈ chain.add entry ↔ other = entry ∨ other ∈ chain := by
  induction chain with
  | nil => simp
  | cons head rest ih =>
    rw [add_cons]
    split
    · rw [List.mem_cons, ih, List.mem_cons]
      exact or_left_comm
    · exact List.mem_cons

theorem sorted_add (sorted : chain.Sorted) (entry : Entry σ) : (chain.add entry).Sorted := by
  induction chain with
  | nil => exact List.pairwise_singleton _ _
  | cons head rest ih =>
    obtain ⟨behind, sorted_rest⟩ := List.pairwise_cons.mp sorted
    rw [add_cons]
    split
    next stays =>
      refine List.pairwise_cons.mpr ⟨fun other mem => ?_, ih sorted_rest⟩
      rcases mem_add.mp mem with rfl | mem
      · exact stays
      · exact behind other mem
    next lower =>
      refine List.pairwise_cons.mpr ⟨fun other mem => ?_, sorted⟩
      rcases List.mem_cons.mp mem with rfl | mem
      · omega
      · have := behind other mem
        omega

theorem noneAbove_add (noneAbove : chain.NoneAbove handle) (foreign : entry.handle ≠ handle) :
    (chain.add entry).NoneAbove handle := by
  induction chain with
  | nil => exact List.pairwise_singleton _ _
  | cons head rest ih =>
    obtain ⟨behind, noneAbove_rest⟩ := List.pairwise_cons.mp noneAbove
    rw [add_cons]
    split
    next stays =>
      refine List.pairwise_cons.mpr ⟨fun other mem copy others => ?_, ih noneAbove_rest⟩
      rcases mem_add.mp mem with rfl | mem
      · exact stays
      · exact behind other mem copy others
    next => exact List.pairwise_cons.mpr ⟨fun _ _ copy => absurd copy foreign, noneAbove⟩

/-- Of the entries of one priority, in a chain that stands by priority, the one that is put in comes last. -/
theorem filter_add (sorted : chain.Sorted) (entry : Entry σ) (priority : Int) :
    (chain.add entry).filter (·.priority = priority) =
      (chain.addShared entry).filter (·.priority = priority) := by
  induction chain with
  | nil => rfl
  | cons head rest ih =>
    obtain ⟨behind, sorted_rest⟩ := List.pairwise_cons.mp sorted
    rw [add_cons]
    split
    next stays =>
      have ih := ih sorted_rest
      rw [addShared] at ih ⊢
      simp only [List.cons_append, List.filter_cons, ih]
    next lower =>
      rw [addShared, List.filter_append]
      by_cases same : entry.priority = priority
      · -- the whole chain has lower priorities
        have none : (head :: rest).filter (·.priority = priority) = [] := by
          refine List.filter_eq_nil_iff.mpr fun other mem => ?_
          rw [decide_eq_true_eq]
          rcases List.mem_cons.mp mem with rfl | mem
          · omega
          · have := behind other mem
            omega
        rw [List.filter_cons, none]
        simp [same]
      · simp [same]

/-- What is behind a copy of the interceptor of a handle does not matter to one that is put in by priority. -/
theorem removeSame_add (noneAbove : chain.NoneAbove handle) (foreign : entry.handle ≠ handle) :
    (chain.add entry).removeSame handle = (chain.removeSame handle).add entry := by
  have stays_in : entry.isOf handle = false := decide_eq_false foreign
  induction chain with
  | nil => simp [removeSame_eq_filter, stays_in]
  | cons head rest ih =>
    obtain ⟨behind, noneAbove_rest⟩ := List.pairwise_cons.mp noneAbove
    have ih := ih noneAbove_rest
    rw [removeSame_eq_filter, removeSame_eq_filter] at ih ⊢
    rw [add_cons]
    by_cases copy : head.handle = handle
    · -- behind a copy all priorities are lower, so the new entry stands in front of them with or without it
      have goes : head.isOf handle = true := decide_eq_true copy
      split
      next stays => simp only [List.filter_cons, goes, Bool.not_true, Bool.false_eq_true, if_false, ih]
      next lower =>
        have below : ∀ other ∈ rest.filter fun other => !other.isOf handle, other.priority < entry.priority := by
          intro other mem
          obtain ⟨mem, others⟩ := List.mem_filter.mp mem
          have := behind other mem copy (by simpa [Entry.isOf] using others)
          omega
        simp only [List.filter_cons, goes, stays_in, Bool.not_true, Bool.not_false, Bool.false_eq_true, if_false,
          if_true]
        exact (add_of_forall_lt below).symm
    · have stays_too : head.isOf handle = false := decide_eq_false copy
      split
      next stays =>
        simp only [List.filter_cons, stays_too, Bool.not_false, if_true, ih, add_cons, if_pos stays]
      next lower =>
        simp only [List.filter_cons, stays_in, stays_too, Bool.not_false, if_true, add_cons, if_neg lower]

/-! ### Taking out -/

/-- A removal that judges each entry for what it is keeps the others as they are. -/
theorem removeAll_eq_filter {test : τ → Entry σ → Bool × τ} {picks : Entry σ → Bool}
    (byEntry : ∀ t entry, (test t entry).1 = picks entry) (t : τ) (chain : Chain σ) :
    removeAll test t chain = chain.filter fun entry => !picks entry := by
  induction chain generalizing t with
  | nil => rfl
  | cons entry rest ih =>
    have judged := byEntry t entry
    rcases answer : test t entry with ⟨_ | _, next⟩ <;> rw [answer] at judged <;>
      simp only [removeAll, answer, List.filter_cons, ← judged, ih, Bool.not_false, Bool.not_true, if_true,
        Bool.false_eq_true, if_false]

end Chain

namespace Edit

variable {σ : Type} {chain : Chain σ} {handle : Handle}

/-- An edit that puts interceptors in by priority only, and not the interceptor of a handle, and takes them out only for
what they are. -/
def Orderly (handle : Handle) : Edit σ → Prop
  | add entry => entry.handle ≠ handle
  | addShared _ => False
  | removeSame _ => True
  | removeAll test _ => ∃ picks : Entry σ → Bool, ∀ t entry, (test t entry).1 = picks entry

/-- The roster after an edit: the entries of a chain in the order in which they were put in, whatever their
priorities. -/
def enrol : Edit σ → Chain σ → Chain σ
  | add entry, roster => roster.addShared entry
  | edit, roster => edit.apply roster

/-- An orderly edit puts one interceptor in by priority, or keeps those that pass a test. -/
theorem Orderly.cases {edit : Edit σ} (orderly : edit.Orderly handle) :
    (∃ entry, entry.handle ≠ handle ∧ edit = .add entry) ∨
      ∃ keeps : Entry σ → Bool, ∀ chain : Chain σ, edit.apply chain = chain.filter keeps ∧
        edit.enrol chain = chain.filter keeps := by
  cases edit with
  | add entry => exact .inl ⟨entry, orderly, rfl⟩
  | addShared => exact orderly.elim
  | removeSame other =>
    have filtered := fun chain : Chain σ => chain.removeSame_eq_filter other
    exact .inr ⟨_, fun chain => ⟨filtered chain, filtered chain⟩⟩
  | removeAll test t =>
    obtain ⟨picks, byEntry⟩ := orderly
    have filtered := Chain.removeAll_eq_filter byEntry t
    exact .inr ⟨_, fun chain => ⟨filtered chain, filtered chain⟩⟩

end Edit

end Transparency
