import Transparency.Interceptor
import Transparency.Text.Quoted

/-!
# Chains

A chain is a list of interceptors in the order in which they run. Interceptors are put in by priority or at the end,
and taken out by any test or by their handle; those that stay never change places.
-/

namespace Transparency

/-- Interceptors in the order in which they run. -/
abbrev Chain (σ : Type) := List (Entry σ)

namespace Chain

variable {σ τ : Type}

/-- Whether an entry stays before a new one of some priority. -/
def staysBefore (priority : Int) (entry : Entry σ) : Bool := priority ≤ entry.priority

/-- Puts an interceptor in by priority: before the first entry of lower priority. -/
def add (chain : Chain σ) (entry : Entry σ) : Chain σ :=
  chain.takeWhile (staysBefore entry.priority) ++ entry :: chain.dropWhile (staysBefore entry.priority)

/-- Puts an interceptor at the end. -/
def addShared (chain : Chain σ) (entry : Entry σ) : Chain σ := chain ++ [entry]

/-- Takes every entry out that a test picks. The test visits the entries in order and may remember what it saw: it
gives its answer and its next state. -/
def removeAll (test : τ → Entry σ → Bool × τ) : τ → Chain σ → Chain σ
  | _, [] => []
  | t, entry :: rest =>
    match test t entry with
    | (true, t) => removeAll test t rest
    | (false, t) => entry :: removeAll test t rest

/-- Takes every entry out that a test picks by the entry alone. -/
def removeWhere (test : Entry σ → Bool) (chain : Chain σ) : Chain σ :=
  removeAll (fun _ entry => (test entry, ())) () chain

/-- Takes every entry of a handle out. -/
def removeSame (chain : Chain σ) (handle : Handle) : Chain σ :=
  removeWhere (·.isOf handle) chain

/-- How many entries have a handle. -/
def countSame (chain : Chain σ) (handle : Handle) : Nat :=
  (chain.filter (·.isOf handle)).length

/-- Whether some entry has a handle. -/
def containsSame (chain : Chain σ) (handle : Handle) : Bool := 0 < chain.countSame handle

/-- The chain as a list of names. -/
def describe (chain : Chain σ) : String := Text.quotedList (chain.map (·.name))

theorem removeWhere_eq_filter (test : Entry σ → Bool) (chain : Chain σ) :
    removeWhere test chain = chain.filter fun entry => !test entry := by
  induction chain with
  | nil => rfl
  | cons entry rest ih =>
    rw [removeWhere] at ih ⊢
    cases h : test entry <;> simp [removeAll, h, ih]

theorem removeSame_eq_filter (chain : Chain σ) (handle : Handle) :
    chain.removeSame handle = chain.filter fun entry => !entry.isOf handle :=
  removeWhere_eq_filter _ _

@[simp] theorem countSame_nil (handle : Handle) : countSame ([] : Chain σ) handle = 0 := rfl

theorem countSame_append (chain rest : Chain σ) (handle : Handle) :
    countSame (chain ++ rest) handle = chain.countSame handle + rest.countSame handle := by
  simp [countSame]

theorem countSame_cons (entry : Entry σ) (chain : Chain σ) (handle : Handle) :
    countSame (entry :: chain) handle = (if entry.isOf handle then 1 else 0) + chain.countSame handle := by
  by_cases h : entry.isOf handle
  · simp [countSame, h, Nat.add_comm]
  · simp [countSame, h]

theorem countSame_addShared (chain : Chain σ) (entry : Entry σ) (handle : Handle) :
    (chain.addShared entry).countSame handle = chain.countSame handle + if entry.isOf handle then 1 else 0 := by
  rw [addShared, countSame_append, countSame_cons, countSame_nil, Nat.add_zero]

theorem countSame_add (chain : Chain σ) (entry : Entry σ) (handle : Handle) :
    (chain.add entry).countSame handle = chain.countSame handle + if entry.isOf handle then 1 else 0 := by
  have split : countSame (chain.takeWhile (staysBefore entry.priority)) handle +
      countSame (chain.dropWhile (staysBefore entry.priority)) handle = chain.countSame handle := by
    rw [← countSame_append, List.takeWhile_append_dropWhile]
  rw [add, countSame_append, countSame_cons]
  omega

@[simp] theorem countSame_removeSame (chain : Chain σ) (handle : Handle) :
    (chain.removeSame handle).countSame handle = 0 := by
  simp [countSame, removeSame_eq_filter]

theorem countSame_removeSame_of_ne (chain : Chain σ) {handle other : Handle} (h : other ≠ handle) :
    (chain.removeSame other).countSame handle = chain.countSame handle := by
  rw [removeSame_eq_filter, countSame, countSame, List.filter_filter]
  congr 1
  refine List.filter_congr fun entry _ => ?_
  by_cases same : entry.handle = handle
  · simp [Entry.isOf, same, Ne.symm h]
  · simp [Entry.isOf, same]

/-- Taking an interceptor out shortens the chain by the number of its copies. -/
theorem length_sub_length_removeSame (chain : Chain σ) (handle : Handle) :
    chain.length - (chain.removeSame handle).length = chain.countSame handle := by
  have split := List.length_eq_countP_add_countP (·.isOf handle) (l := chain)
  rw [List.countP_eq_length_filter, List.countP_eq_length_filter] at split
  rw [removeSame_eq_filter, countSame]
  simp only [Bool.not_eq_true, Bool.decide_eq_false] at split
  omega

theorem containsSame_eq_true_iff (chain : Chain σ) (handle : Handle) :
    chain.containsSame handle = true ↔ 0 < chain.countSame handle :=
  decide_eq_true_iff

end Chain

end Transparency
