import Mathlib.Data.List.Basic
import Transparency.Proofs.Chain.Order
import Transparency.Proofs.Manager.Fleet

/-!
# The neighbours of the inspector

A manager puts its inspector at the end of a chain, whatever priority the entries there have, and takes it out again.
Those who put their own interceptors in by priority should not notice. So a chain is compared with the one that the
same history leaves when the manager is never called: `Chain.Mirrors` says that the two differ in the inspector only,
and that the inspector is in nobody's way. Edits that are orderly keep this (`Chain.Mirrors.edit`), and so do all turns
of the manager (`Chain.Mirrors.turn`).

`Fleet.neighbours_undisturbed` is the result about all histories.
-/

namespace Transparency

variable {ι σ : Type}

/-- A chain is like another one and a roster, the inspector of a handle apart. -/
structure Chain.Mirrors (handle : Handle) (chain quiet roster : Chain σ) : Prop where
  removeSame_eq : chain.removeSame handle = quiet
  noneAbove : chain.NoneAbove handle
  sorted : quiet.Sorted
  filter_eq : ∀ priority : Int, quiet.filter (·.priority = priority) = roster.filter (·.priority = priority)

namespace Chain.Mirrors

variable {handle : Handle} {chain chain' quiet roster : Chain σ}

theorem nil (handle : Handle) : Chain.Mirrors handle ([] : Chain σ) [] [] where
  removeSame_eq := rfl
  noneAbove := List.Pairwise.nil
  sorted := List.Pairwise.nil
  filter_eq _ := rfl

theorem edit {edit : Edit σ} (mirrors : chain.Mirrors handle quiet roster) (orderly : edit.Orderly handle) :
    (edit.apply chain).Mirrors handle (edit.apply quiet) (edit.enrol roster) := by
  obtain ⟨removeSame_eq, noneAbove, sorted, filter_eq⟩ := mirrors
  rcases orderly.cases with ⟨entry, foreign, rfl⟩ | ⟨keeps, filtered⟩
  · refine ⟨?_, noneAbove_add noneAbove foreign, sorted_add sorted entry, fun priority => ?_⟩
    · simp only [Edit.apply, removeSame_add noneAbove foreign, removeSame_eq]
    · simp only [Edit.apply, Edit.enrol, filter_add sorted, addShared, List.filter_append, filter_eq]
  · -- a removal is a filter, and filters may change places
    rw [(filtered chain).1, (filtered quiet).1, (filtered roster).2]
    refine ⟨?_, noneAbove.filter keeps, sorted.filter keeps, fun priority => ?_⟩
    · rw [removeSame_eq_filter, List.filter_comm, ← removeSame_eq_filter, removeSame_eq]
    · rw [List.filter_comm, filter_eq, List.filter_comm]

theorem turn {manager : Manager σ} {desired : Bool} {memory memory' : ManagerState σ} {result : Except Error Change}
    (mirrors : chain.Mirrors manager.handle quiet roster)
    (turn : manager.Turn desired chain memory result chain' memory') :
    chain'.Mirrors manager.handle quiet roster := by
  obtain ⟨removeSame_eq, noneAbove, sorted, filter_eq⟩ := mirrors
  refine ⟨turn.removeSame_eq.trans removeSame_eq, ?_, sorted, filter_eq⟩
  cases turn with
  | stay => exact noneAbove
  | refuse => exact noneAbove
  | attach entry _ _ same _ =>
    -- the new copy is behind all others, and it is a copy itself
    refine List.pairwise_append.mpr ⟨noneAbove, List.pairwise_singleton _ _, fun _ _ other mem _ others => ?_⟩
    obtain rfl := List.mem_singleton.mp mem
    exact absurd same others
  | detach =>
    rw [removeSame_eq_filter]
    exact noneAbove.filter _

end Chain.Mirrors

/-! ## Histories without calls -/

/-- Whether the manager is called. -/
def Operation.isCall : Operation ι σ → Bool
  | call .. => true
  | _ => false

/-- The interceptors that edits have put into a chain and not taken out since, in the order in which they came. -/
def rosterAt [DecidableEq ι] (place : ι) : List (Operation ι σ) → Chain σ
  | [] => []
  | .edit site edit :: earlier => if site = place then edit.enrol (rosterAt place earlier) else rosterAt place earlier
  | _ :: earlier => rosterAt place earlier

namespace Fleet

variable [DecidableEq ι] [Journal σ] {manager : Manager σ} {start : Fleet ι σ} {place : ι}
  {history : List (Operation ι σ)}

/-- The fleet after the same history without the calls of the manager. -/
def afterWithoutCalls (manager : Manager σ) (start : Fleet ι σ) (history : List (Operation ι σ)) : Fleet ι σ :=
  start.after manager (history.filter fun operation => !operation.isCall)

/-- After every history in which a chain is edited in an orderly way it is like the chain without the calls. -/
theorem mirrors_after (new : start.memory = {}) (empty : start.chains place = []) :
    ∀ history : List (Operation ι σ),
      (∀ edit, Operation.edit place edit ∈ history → edit.Orderly manager.handle) →
      ((start.after manager history).chains place).Mirrors manager.handle
        ((start.afterWithoutCalls manager history).chains place) (rosterAt place history)
  | [], _ => by
    rw [afterWithoutCalls, after, List.filter_nil, after, empty]
    exact .nil manager.handle
  | .call site ask :: earlier, orderly => by
    -- a call puts the inspector in or takes it out, and the other history does not have it
    have mirrors := mirrors_after new empty earlier fun edit mem => orderly edit (List.mem_cons_of_mem _ mem)
    obtain ⟨result, chain', memory', s', called, turn⟩ := call_turn (fits_after new earlier) site ask
    have quiet : start.afterWithoutCalls manager (.call site ask :: earlier) =
        start.afterWithoutCalls manager earlier := rfl
    have roster : rosterAt place (.call site ask :: earlier) = rosterAt place earlier := rfl
    rw [quiet, roster, after, step, called]
    dsimp only
    by_cases here : place = site
    · subst here
      rw [Function.update_self]
      exact mirrors.turn turn
    · rw [Function.update_of_ne here]
      exact mirrors
  | .edit site edit :: earlier, orderly => by
    have mirrors := mirrors_after new empty earlier fun edit mem => orderly edit (List.mem_cons_of_mem _ mem)
    have quiet : start.afterWithoutCalls manager (.edit site edit :: earlier) =
      (start.afterWithoutCalls manager earlier).step manager (.edit site edit) := rfl
    rw [quiet, after, rosterAt]
    simp only [step]
    by_cases here : site = place
    · subst here
      rw [Function.update_self, Function.update_self, if_pos rfl]
      exact mirrors.edit (orderly edit List.mem_cons_self)
    · rw [Function.update_of_ne (Ne.symm here), Function.update_of_ne (Ne.symm here), if_neg here]
      exact mirrors
  | .other _ :: earlier, orderly =>
    mirrors_after new empty earlier fun edit mem => orderly edit (List.mem_cons_of_mem _ mem)

/-- **The manager does not disturb its neighbours.** Let a chain be empty at first, and let other code put interceptors
into it by priority and take them out for what they are, while a new manager is called in any way in between. After
every such history, the chain without the inspector is the chain that the same history leaves when the manager is never
called. It stands by priority, the highest first, and of each priority it holds the interceptors that were put in and
not taken out since, in the order in which they came. -/
theorem neighbours_undisturbed (new : start.memory = {}) (empty : start.chains place = [])
    (orderly : ∀ edit, Operation.edit place edit ∈ history → edit.Orderly manager.handle) :
    let others := ((start.after manager history).chains place).removeSame manager.handle
    others = (start.afterWithoutCalls manager history).chains place ∧
      (others.Pairwise fun entry later => later.priority ≤ entry.priority) ∧
      ∀ priority : Int, others.filter (·.priority = priority) =
        (rosterAt place history).filter (·.priority = priority) := by
  intro others
  have mirrors := mirrors_after new empty history orderly
  have others_eq : others = (start.afterWithoutCalls manager history).chains place := mirrors.removeSame_eq
  rw [others_eq]
  exact ⟨rfl, mirrors.sorted, mirrors.filter_eq⟩

end Fleet

namespace Desk

/-- An interceptor that does nothing. -/
def visitor (label : String) (priority : Int) : Entry Desk where
  handle := ⟨label⟩
  priority := priority

/-- Visitors come and one goes, while the inspector cannot be made at first, is attached, taken out and attached again.
The latest operation stands first. -/
def visited : List (Operation Unit Desk) :=
  [.edit () (.add (visitor "last" 7)), .edit () (.removeSame ⟨"passing"⟩), .edit () (.add (visitor "low" (-3))),
    .call () (.value true), .edit () (.add (visitor "second" 7)), .call () (.value false),
    .edit () (.add (visitor "passing" 9)), .call () .preference, .edit () (.add (visitor "first" 7)),
    .call () (.value true)]

theorem neighbours_when_visited :
    let chain := ((fleet Unit { refusals := 1 }).after manager visited).chains ()
    chain.map (·.handle.label) = ["first", "second", "last", "inspector", "low"] ∧
      (chain.removeSame manager.handle).map (·.handle.label) = ["first", "second", "last", "low"] ∧
      (rosterAt () visited).map (·.handle.label) = ["first", "second", "low", "last"] ∧
      chain.removeSame manager.handle =
        ((fleet Unit { refusals := 1 }).afterWithoutCalls manager visited).chains () := by
  have orderly : ∀ edit, Operation.edit () edit ∈ visited → edit.Orderly manager.handle := by
    intro edit mem
    simp only [visited, List.mem_cons, Operation.edit.injEq, true_and, reduceCtorEq, false_or, List.not_mem_nil,
      or_false] at mem
    rcases mem with rfl | rfl | rfl | rfl | rfl | rfl <;> simp [Edit.Orderly, visitor, manager]
  have undisturbed := @Fleet.neighbours_undisturbed Unit Desk _ _ manager (fleet Unit { refusals := 1 }) () visited
    rfl rfl orderly
  exact ⟨rfl, rfl, rfl, undisturbed.1⟩

end Desk

end Transparency
