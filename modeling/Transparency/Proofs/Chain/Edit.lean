import Transparency.Chain.Basic

/-!
# Edits of a chain

A chain is open to anyone who holds it: interceptors are put in and taken out by code that knows nothing of each
other. An `Edit` is one such change. An edit *spares* an interceptor if it neither puts a copy of it in nor takes one
out; a removal by a test spares what the test does not pick, and the test may answer by all that it saw before.

`Edit.countSame_apply`: an edit that spares an interceptor leaves the number of its copies as it is.
-/

namespace Transparency

namespace Chain

variable {σ τ : Type}

/-- The entries that `removeAll` takes out. -/
def picked (test : τ → Entry σ → Bool × τ) : τ → Chain σ → Chain σ
  | _, [] => []
  | t, entry :: rest =>
    match test t entry with
    | (true, t) => entry :: picked test t rest
    | (false, t) => picked test t rest

/-- Every entry is kept or picked. -/
theorem countSame_removeAll_add_countSame_picked (test : τ → Entry σ → Bool × τ) (handle : Handle) :
    ∀ (t : τ) (chain : Chain σ),
      countSame (removeAll test t chain) handle + countSame (picked test t chain) handle = chain.countSame handle
  | _, [] => rfl
  | t, entry :: rest => by
    rcases h : test t entry with ⟨_ | _, next⟩
    · have ih := countSame_removeAll_add_countSame_picked test handle next rest
      simp only [removeAll, picked, h, countSame_cons]
      omega
    · have ih := countSame_removeAll_add_countSame_picked test handle next rest
      simp only [removeAll, picked, h, countSame_cons]
      omega

/-- Only copies make a chain hold an interceptor. -/
theorem countSame_eq_zero {chain : Chain σ} {handle : Handle} (h : ∀ entry ∈ chain, entry.handle ≠ handle) :
    chain.countSame handle = 0 := by
  rw [countSame, List.length_eq_zero_iff, List.filter_eq_nil_iff]
  intro entry mem
  simpa [Entry.isOf] using h entry mem

end Chain

/-- A change of a chain by code that holds it. -/
inductive Edit (σ : Type) : Type 1 where
  /-- puts an interceptor in by priority -/
  | add (entry : Entry σ)
  /-- puts an interceptor at the end -/
  | addShared (entry : Entry σ)
  /-- takes every copy of an interceptor out -/
  | removeSame (handle : Handle)
  /-- takes every entry out that a test picks, which starts in some state -/
  | removeAll {τ : Type} (test : τ → Entry σ → Bool × τ) (t : τ)

namespace Edit

variable {σ : Type}

/-- The chain after an edit. -/
def apply : Edit σ → Chain σ → Chain σ
  | add entry, chain => chain.add entry
  | addShared entry, chain => chain.addShared entry
  | removeSame handle, chain => chain.removeSame handle
  | removeAll test t, chain => Chain.removeAll test t chain

/-- The edit of this chain neither puts in nor takes out the interceptor of a handle. -/
def Spares (handle : Handle) (chain : Chain σ) : Edit σ → Prop
  | add entry => entry.handle ≠ handle
  | addShared entry => entry.handle ≠ handle
  | removeSame other => other ≠ handle
  | removeAll test t => ∀ entry ∈ Chain.picked test t chain, entry.handle ≠ handle

theorem countSame_apply {handle : Handle} {chain : Chain σ} {edit : Edit σ} (h : edit.Spares handle chain) :
    (edit.apply chain).countSame handle = chain.countSame handle := by
  cases edit with
  | add entry =>
    have other : entry.isOf handle = false := decide_eq_false h
    rw [apply, Chain.countSame_add, other]
    rfl
  | addShared entry =>
    have other : entry.isOf handle = false := decide_eq_false h
    rw [apply, Chain.countSame_addShared, other]
    rfl
  | removeSame other => exact Chain.countSame_removeSame_of_ne chain h
  | removeAll test t =>
    have none_picked := Chain.countSame_eq_zero h
    have split := Chain.countSame_removeAll_add_countSame_picked test handle t chain
    rw [apply]
    omega

end Edit

end Transparency
